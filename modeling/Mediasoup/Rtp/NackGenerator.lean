/-
The generator of retransmission requests (`RTC/NackGenerator`).

The missing sequence numbers are the keys of a B-tree that is ordered by the circular
comparison.  On keys that are not all within one half of the circle this is no order, and
then the outcome of a search is unspecified.

* `BTree` — the searches: any position, but the right one where there is one;
* `receivePacket`, `onTimer` — the operations;
* `Inv` — the keys are the last ones below `lastSeq`, in order;
* `run_inv` — the invariant holds in every run, and no number is requested more than ten
  times.
-/
import Mathlib.Data.List.Nodup
import Mathlib.Data.List.Count
import Mathlib.Data.List.TakeWhile
import Mathlib.Tactic.SplitIfs
import Mediasoup.Lib.Runs
import Mediasoup.Rtp.SeqManager

open List Circular

namespace Mediasoup

namespace Nack

/-- The searches of one operation in a B-tree of sequence numbers, given as the list of its
keys.  `locate_eq` is what `lower_bound` promises when the keys that are lower than the
given one come first. -/
structure BTree where
  locate : List UInt16 → UInt16 → ℕ
  locate_le : ∀ keys key, locate keys key ≤ keys.length
  locate_eq : ∀ front back key, (∀ x ∈ front, seqLowerThan x key) →
    (∀ x ∈ back, ¬seqLowerThan x key) → locate (front ++ back) key = front.length

def BTree.find (t : BTree) (keys : List UInt16) (key : UInt16) : Bool :=
  match keys[t.locate keys key]? with
  | none => false
  | some x => !seqLowerThan key x

def BTree.insert (t : BTree) (keys : List UInt16) (key : UInt16) : List UInt16 :=
  if t.find keys key then keys
  else keys.take (t.locate keys key) ++ key :: keys.drop (t.locate keys key)

structure NackInfo where
  createdAtMs : UInt64
  seq : UInt16
  sendAtSeq : UInt16
  sentAtMs : UInt64
  retries : UInt8

structure NackGenerator where
  sendNackDelayMs : UInt32
  nackList : List (UInt16 × NackInfo)
  keyFrameList : List UInt16
  recoveredList : List UInt16
  started : Bool
  lastSeq : UInt16
  rtt : UInt32
  timerActive : Bool

def new (sendNackDelayMs : UInt32) : NackGenerator :=
  ⟨sendNackDelayMs, [], [], [], false, 0, 100, false⟩

def maxPacketAge : UInt16 := 10000

def maxNackPackets : ℕ := 1000

def maxNackRetries : UInt8 := 10

def defaultRtt : UInt32 := 100

abbrev keys (nackList : List (UInt16 × NackInfo)) : List UInt16 := nackList.map Prod.fst

/-! ### `AddPacketsToNackList` -/

def tooMany (nackList : List (UInt16 × NackInfo)) (numNewNacks : UInt16) : Bool :=
  decide (maxNackPackets < (UInt16.ofNat nackList.length).toNat + numNewNacks.toNat)

/-- `RemoveNackItemsUntilKeyFrame`, on the list and the key frames. -/
def removeNackItemsUntilKeyFrame (t : BTree) (nackList : List (UInt16 × NackInfo)) :
    List UInt16 → Bool × List (UInt16 × NackInfo) × List UInt16
  | [] => (false, nackList, [])
  | keyFrame :: keyFrameList =>
    let it := t.locate (keys nackList) keyFrame
    if it ≠ 0 then (true, nackList.drop it, keyFrame :: keyFrameList)
    else removeNackItemsUntilKeyFrame t nackList keyFrameList

/-- The loop that makes room.  Every round but the last one removes an entry. -/
def makeRoom (t : BTree) (numNewNacks : UInt16) :
    ℕ → List (UInt16 × NackInfo) → List UInt16 → List (UInt16 × NackInfo) × List UInt16
  | 0, nackList, keyFrameList => (nackList, keyFrameList)
  | rounds + 1, nackList, keyFrameList =>
    match removeNackItemsUntilKeyFrame t nackList keyFrameList with
    | (removed, nackList, keyFrameList) =>
      if removed && tooMany nackList numNewNacks then
        makeRoom t numNewNacks rounds nackList keyFrameList
      else (nackList, keyFrameList)

inductive Abort where
  | alreadyInNackList

/-- The loop that adds the missing numbers from `seq` on, with those that it adds. -/
def addMissing (t : BTree) (recoveredList : List UInt16) (createdAtMs : UInt16 → UInt64) :
    ℕ → UInt16 → List (UInt16 × NackInfo) →
      Except Abort (List (UInt16 × NackInfo) × List UInt16)
  | 0, _, nackList => .ok (nackList, [])
  | numNewNacks + 1, seq, nackList =>
    if t.find (keys nackList) seq then .error .alreadyInNackList
    else if t.find recoveredList seq then
      addMissing t recoveredList createdAtMs numNewNacks (seq + 1) nackList
    else do
      let it := t.locate (keys nackList) seq
      let entry := (seq, ⟨createdAtMs seq, seq, seq, 0, 0⟩)
      let (nackList, detected) ← addMissing t recoveredList createdAtMs numNewNacks (seq + 1)
        (nackList.take it ++ entry :: nackList.drop it)
      .ok (nackList, seq :: detected)

/-- What a call leads to, apart from the new state. -/
structure Effects where
  /-- Whether it was a packet that had been requested. -/
  found : Bool
  /-- The numbers that are added to the list. -/
  detected : List UInt16
  /-- The numbers that are requested. -/
  nackBatch : List UInt16
  keyFrameRequired : Bool

def noEffects : Effects := ⟨false, [], [], false⟩

def addPacketsToNackList (t : BTree) (createdAtMs : UInt16 → UInt64) (g : NackGenerator)
    (seqStart seqEnd : UInt16) : Except Abort (NackGenerator × List UInt16 × Bool) :=
  let nackList := g.nackList.drop (t.locate (keys g.nackList) (seqEnd - maxPacketAge))
  let numNewNacks := seqEnd - seqStart
  let (nackList, keyFrameList) :=
    if tooMany nackList numNewNacks then
      makeRoom t numNewNacks (nackList.length + 1) nackList g.keyFrameList
    else (nackList, g.keyFrameList)
  if tooMany nackList numNewNacks then
    .ok ({ g with nackList := [], keyFrameList := keyFrameList }, [], true)
  else do
    let (nackList, detected) ←
      addMissing t g.recoveredList createdAtMs numNewNacks.toNat seqStart nackList
    .ok ({ g with nackList := nackList, keyFrameList := keyFrameList }, detected, false)

/-! ### `GetNackBatch` -/

inductive NackFilter where
  | seq
  | time

/-- Whether an entry is requested now. -/
def isDue (g : NackGenerator) (filter : NackFilter) (nowMs : UInt64) (info : NackInfo) : Bool :=
  !(0 < g.sendNackDelayMs && nowMs - info.createdAtMs < g.sendNackDelayMs.toUInt64) &&
    match filter with
    | .seq => info.sentAtMs == 0 &&
        (info.sendAtSeq == g.lastSeq || seqHigherThan g.lastSeq info.sendAtSeq)
    | .time => info.sentAtMs == 0 ||
        decide ((if 0 < g.rtt then g.rtt else defaultRtt).toUInt64 ≤ nowMs - info.sentAtMs)

/-- The loop over the list: what is left of it, and the batch. -/
def nackBatch (due : NackInfo → Bool) (nowMs : UInt64) :
    List (UInt16 × NackInfo) → List (UInt16 × NackInfo) × List UInt16
  | [] => ([], [])
  | (key, info) :: later =>
    let (left, batch) := nackBatch due nowMs later
    if due info then
      let info' := { info with retries := info.retries + 1, sentAtMs := nowMs }
      if maxNackRetries ≤ info'.retries then (left, info.seq :: batch)
      else ((key, info') :: left, info.seq :: batch)
    else ((key, info) :: left, batch)

def getNackBatch (g : NackGenerator) (filter : NackFilter) (nowMs : UInt64) :
    NackGenerator × List UInt16 :=
  let (left, batch) := nackBatch (isDue g filter nowMs) nowMs g.nackList
  ({ g with nackList := left }, batch)

/-! ### The operations -/

def mayRunTimer (g : NackGenerator) : NackGenerator :=
  { g with timerActive := !g.nackList.isEmpty }

/-- The running timer is not interrupted. -/
def ensureTimer (g : NackGenerator) : NackGenerator :=
  if g.timerActive then g else mayRunTimer g

/-- The rest of `ReceivePacket` for a packet that is newer than the latest one. -/
def receiveNewer (t : BTree) (createdAtMs : UInt16 → UInt64) (nowMs : UInt64) (g : NackGenerator)
    (seq : UInt16) : Except Abort (NackGenerator × Effects) := do
  let (g, detected, keyFrameRequired) ← addPacketsToNackList t createdAtMs g (g.lastSeq + 1) seq
  let (g, batch) := getNackBatch { g with lastSeq := seq } .seq nowMs
  .ok (ensureTimer g, ⟨false, detected, batch, keyFrameRequired⟩)

def receivePacket (t : BTree) (createdAtMs : UInt16 → UInt64) (nowMs : UInt64)
    (g : NackGenerator) (seq : UInt16) (isKeyFrame isRecovered : Bool) :
    Except Abort (NackGenerator × Effects) :=
  if !g.started then
    .ok ({ g with
      started := true
      lastSeq := seq
      keyFrameList := if isKeyFrame then t.insert g.keyFrameList seq else g.keyFrameList },
      noEffects)
  else if seq = g.lastSeq then .ok (g, noEffects)
  else if seqLowerThan seq g.lastSeq then
    let it := t.locate (keys g.nackList) seq
    match g.nackList[it]? with
    | none => .ok (g, noEffects)
    | some (key, info) =>
      if seqLowerThan seq key then .ok (g, noEffects)
      else .ok ({ g with nackList := g.nackList.eraseIdx it },
        { noEffects with found := info.retries != 0 })
  else
    let keyFrameList := if isKeyFrame then t.insert g.keyFrameList seq else g.keyFrameList
    let g := { g with
      keyFrameList := keyFrameList.drop (t.locate keyFrameList (seq - maxPacketAge)) }
    if isRecovered then
      let recoveredList := t.insert g.recoveredList seq
      .ok ({ g with
        recoveredList := recoveredList.drop (t.locate recoveredList (seq - maxPacketAge)) },
        noEffects)
    else receiveNewer t createdAtMs nowMs g seq

/-- `OnTimer`; the timer has no interval, so it is not active any more when it fires. -/
def onTimer (nowMs : UInt64) (g : NackGenerator) : NackGenerator × Effects :=
  let (g, batch) := getNackBatch { g with timerActive := false } .time nowMs
  (mayRunTimer g, { noEffects with nackBatch := batch })

def reset (g : NackGenerator) : NackGenerator :=
  { g with
    nackList := []
    keyFrameList := []
    recoveredList := []
    started := false
    lastSeq := 0 }

/-! ### The window below the latest number -/

/-- How far a number is below the latest one. -/
def age (last seq : UInt16) : ℕ := (last - seq).toNat

/-- The numbers are below the latest one by at most `10000`, from the oldest one on. -/
structure InWindow (last : UInt16) (seqs : List UInt16) : Prop where
  sorted : seqs.Pairwise fun x y => age last y < age last x
  pos : ∀ x ∈ seqs, 0 < age last x
  near : ∀ x ∈ seqs, age last x ≤ 10000

variable {last seq : UInt16} {seqs front back : List UInt16} {t : BTree}

theorem inWindow_nil : InWindow last [] := ⟨List.Pairwise.nil, by simp, by simp⟩

theorem InWindow.sublist (h : InWindow last seqs) (hs : front.Sublist seqs) : InWindow last front :=
  ⟨h.sorted.sublist hs, fun x hx => h.pos x (hs.subset hx), fun x hx => h.near x (hs.subset hx)⟩

theorem InWindow.cons (h : InWindow last seqs) (hpos : 0 < age last seq)
    (hnear : age last seq ≤ 10000) (hlower : ∀ x ∈ seqs, age last x < age last seq) :
    InWindow last (seq :: seqs) :=
  ⟨pairwise_cons.mpr ⟨hlower, h.sorted⟩, forall_mem_cons.mpr ⟨hpos, h.pos⟩,
    forall_mem_cons.mpr ⟨hnear, h.near⟩⟩

theorem InWindow.nodup (h : InWindow last seqs) : seqs.Nodup := by
  refine h.sorted.imp ?_
  rintro x y hlt rfl
  exact lt_irrefl _ hlt

theorem age_eq_gap : age last seq = gap 32768 seq.toNat last.toNat :=
  toNat_sub_uint16 seq last

theorem seqLowerThan_iff_age {x y : UInt16} (hx : age last x < 32768) (hy : age last y < 32768) :
    seqLowerThan x y ↔ age last y < age last x := by
  have hxlt := x.toNat_lt
  have hylt := y.toNat_lt
  have hlast := last.toNat_lt
  rw [seqLowerThan_iff]
  simp only [age_eq_gap] at *
  unfold Lower
  unfold gap at *
  split_ifs at * <;> omega

theorem age_add {a b c : UInt16} (h : age b a + age c b < 65536) : age c a = age b a + age c b := by
  have ha := a.toNat_lt
  have hb := b.toNat_lt
  simp only [age_eq_gap] at *
  exact gap_trans (by omega) (by omega) h

/-! ### Searches -/

theorem BTree.locate_of_forall (t : BTree) (h : ∀ x ∈ seqs, seqLowerThan x seq) :
    t.locate seqs seq = seqs.length := by
  have hloc := t.locate_eq seqs [] seq h (by simp)
  rwa [append_nil] at hloc

theorem BTree.find_of_forall (t : BTree) (h : ∀ x ∈ seqs, seqLowerThan x seq) :
    t.find seqs seq = false := by
  rw [BTree.find, t.locate_of_forall h, List.getElem?_eq_none le_rfl]

theorem age_le_of_mem_dropWhile (h : seqs.Pairwise fun x y => age last y < age last x) (c : ℕ) :
    ∀ x ∈ seqs.dropWhile fun x => decide (c < age last x), age last x ≤ c := by
  induction seqs with
  | nil => simp
  | cons y seqs ih =>
    intro x hx
    by_cases hy : c < age last y
    · rw [dropWhile_cons_of_pos (by simpa using hy)] at hx
      exact ih h.of_cons x hx
    rw [dropWhile_cons_of_neg (by simpa using hy)] at hx
    rcases mem_cons.mp hx with rfl | hx
    · omega
    · have := rel_of_pairwise_cons h hx
      omega

theorem age_cutoff (hadvance : age seq last ≤ 10000) :
    age last (seq - maxPacketAge) = 10000 - age seq last := by
  have heq : last - (seq - maxPacketAge) = maxPacketAge - (seq - last) := by grind
  rw [age, heq, UInt16.toNat_sub_of_le]
  · rfl
  · exact UInt16.le_iff_toNat_le.mpr hadvance

theorem InWindow.drop_old (h : InWindow last seqs) (t : BTree) (hadvance : age seq last ≤ 10000) :
    InWindow seq (seqs.drop (t.locate seqs (seq - maxPacketAge))) ∧
      ∀ x ∈ seqs.drop (t.locate seqs (seq - maxPacketAge)), age seq last < age seq x := by
  have hcut := age_cutoff hadvance
  -- within the window the order by `seqLowerThan` is the order by age
  have hlower : ∀ x ∈ seqs, seqLowerThan x (seq - maxPacketAge) ↔
      10000 - age seq last < age last x := by
    intro x hx
    have hnear := h.near x hx
    rw [@seqLowerThan_iff_age last x _ (by omega) (by omega), hcut]
  set front := seqs.takeWhile fun x => decide (10000 - age seq last < age last x) with hfront
  set back := seqs.dropWhile fun x => decide (10000 - age seq last < age last x) with hback
  have hsplit : front ++ back = seqs := takeWhile_append_dropWhile
  have hyoung : ∀ x ∈ back, age last x ≤ 10000 - age seq last :=
    age_le_of_mem_dropWhile h.sorted _
  -- the list is sorted by age, so `lower_bound` cuts off just the old front
  have hlocate : t.locate seqs (seq - maxPacketAge) = front.length := by
    have hsub : ∀ x ∈ back, x ∈ seqs := fun x hx => (dropWhile_subset _) hx
    rw [← hsplit]
    refine t.locate_eq front back _ ?_ ?_
    · intro x hx
      rw [hlower x ((takeWhile_subset _) hx)]
      simpa using mem_takeWhile_imp hx
    · intro x hx
      have := hyoung x hx
      rw [hlower x (hsub x hx)]
      omega
  have hdrop : seqs.drop (t.locate seqs (seq - maxPacketAge)) = back := by
    rw [hlocate, ← hsplit, drop_left]
  have hsub : back.Sublist seqs := dropWhile_sublist _
  have hshift : ∀ x ∈ back, age seq x = age last x + age seq last := by
    intro x hx
    have := hyoung x hx
    exact age_add (by omega)
  have hages : ∀ x ∈ back, age seq last < age seq x ∧ age seq x ≤ 10000 := by
    intro x hx
    have := h.pos x (hsub.subset hx)
    have := hyoung x hx
    rw [hshift x hx]
    omega
  rw [hdrop]
  refine ⟨⟨(h.sorted.sublist hsub).imp_of_mem ?_, fun x hx => ?_, fun x hx => (hages x hx).2⟩,
    fun x hx => (hages x hx).1⟩
  · intro x y hx hy hlt
    rw [hshift x hx, hshift y hy]
    omega
  · have := (hages x hx).1
    omega

/-! ### What `AddPacketsToNackList` does -/

variable {nackList : List (UInt16 × NackInfo)} {createdAtMs : UInt16 → UInt64}

/-- The entry of a number that is missing since now. -/
def newEntry (createdAtMs : UInt16 → UInt64) (seq : UInt16) : UInt16 × NackInfo :=
  (seq, ⟨createdAtMs seq, seq, seq, 0, 0⟩)

theorem age_succ {n : ℕ} (h : age last seq = n + 1) : age last (seq + 1) = n := by
  have hlt := (last - seq).toNat_lt
  have heq : last - (seq + 1) = last - seq - 1 := by grind
  rw [age] at h
  rw [age, heq, UInt16.toNat_sub_of_le, h]
  · rfl
  · rw [UInt16.le_iff_toNat_le, h]
    exact Nat.le_add_left 1 n

theorem addMissing_spec (t : BTree) (recoveredList : List UInt16) {n : ℕ}
    (hn : age last seq = n) (hnear : n ≤ 10000)
    (holder : ∀ x ∈ keys nackList, n < age last x ∧ age last x ≤ 10000) :
    ∃ detected, addMissing t recoveredList createdAtMs n seq nackList =
        .ok (nackList ++ detected.map (newEntry createdAtMs), detected) ∧
      InWindow last detected ∧ (∀ x ∈ detected, age last x ≤ n) ∧ detected.length ≤ n := by
  induction n generalizing seq nackList with
  | zero => exact ⟨[], by simp [addMissing], inWindow_nil, by simp, by simp⟩
  | succ n ih =>
    -- every number listed is older, so the new one is inserted at the end
    have hlower : ∀ x ∈ keys nackList, seqLowerThan x seq := by
      intro x hx
      have := holder x hx
      rw [@seqLowerThan_iff_age last x seq (by omega) (by omega)]
      omega
    have hnext := age_succ hn
    rw [addMissing, t.find_of_forall hlower, if_neg Bool.false_ne_true]
    by_cases hrecovered : t.find recoveredList seq
    · rw [if_pos hrecovered]
      obtain ⟨detected, heq, hwindow, hle, hlen⟩ := ih hnext (by omega) fun x hx => by
        have := holder x hx
        omega
      exact ⟨detected, heq, hwindow, fun x hx => (hle x hx).trans (Nat.le_succ n),
        hlen.trans (Nat.le_succ n)⟩
    · obtain ⟨detected, heq, hwindow, hle, hlen⟩ :=
        @ih (seq + 1) (nackList ++ [newEntry createdAtMs seq]) hnext (by omega) fun x hx => by
          rw [keys, map_append, mem_append] at hx
          rcases hx with hx | hx
          · have := holder x hx
            omega
          · obtain rfl : x = seq := by simpa [newEntry] using hx
            omega
      have hlength : (keys nackList).length = nackList.length := length_map _
      rw [if_neg hrecovered, t.locate_of_forall hlower, hlength]
      dsimp only
      rw [take_length, drop_length]
      refine ⟨seq :: detected, ?_, hwindow.cons (by omega) (by omega) fun x hx => ?_,
        forall_mem_cons.mpr ⟨by omega, fun x hx => (hle x hx).trans (Nat.le_succ n)⟩,
        Nat.succ_le_succ hlen⟩
      · show (do
          let (n', d) ← addMissing t recoveredList createdAtMs n (seq + 1)
            (nackList ++ [newEntry createdAtMs seq])
          Except.ok (n', seq :: d)) = _
        rw [heq]
        show Except.ok _ = _
        rw [map_cons, append_assoc, singleton_append]
      · have := hle x hx
        omega

theorem removeNackItemsUntilKeyFrame_suffix (t : BTree) (nackList : List (UInt16 × NackInfo))
    (keyFrameList : List UInt16) :
    (removeNackItemsUntilKeyFrame t nackList keyFrameList).2.1 <:+ nackList := by
  induction keyFrameList with
  | nil => exact suffix_rfl
  | cons keyFrame keyFrameList ih =>
    rw [removeNackItemsUntilKeyFrame]
    split_ifs
    · exact drop_suffix _ _
    · exact ih

theorem makeRoom_suffix (t : BTree) (numNewNacks : UInt16) (rounds : ℕ)
    (nackList : List (UInt16 × NackInfo)) (keyFrameList : List UInt16) :
    (makeRoom t numNewNacks rounds nackList keyFrameList).1 <:+ nackList := by
  induction rounds generalizing nackList keyFrameList with
  | zero => exact suffix_rfl
  | succ rounds ih =>
    have hsuffix := removeNackItemsUntilKeyFrame_suffix t nackList keyFrameList
    rw [makeRoom]
    generalize removeNackItemsUntilKeyFrame t nackList keyFrameList = result at hsuffix ⊢
    obtain ⟨removed, left, keyFrames⟩ := result
    dsimp only
    split_ifs
    · exact (ih left keyFrames).trans hsuffix
    · exact hsuffix

/-- The entries of the list, with the number of requests for each number since it was
detected. -/
structure Listed (last : UInt16) (requests : UInt16 → ℕ) (nackList : List (UInt16 × NackInfo)) :
    Prop where
  window : InWindow last (keys nackList)
  seq : ∀ x ∈ nackList, x.2.seq = x.1
  retries : ∀ x ∈ nackList, x.2.retries < maxNackRetries
  counted : ∀ x ∈ nackList, requests x.1 = x.2.retries.toNat

variable {requests : UInt16 → ℕ}

theorem listed_nil : Listed last requests [] := ⟨inWindow_nil, by simp, by simp, by simp⟩

theorem Listed.sublist (h : Listed last requests nackList) {left : List (UInt16 × NackInfo)}
    (hs : left.Sublist nackList) : Listed last requests left :=
  ⟨h.window.sublist (hs.map _), fun x hx => h.seq x (hs.subset hx),
    fun x hx => h.retries x (hs.subset hx), fun x hx => h.counted x (hs.subset hx)⟩

def detect (requests : UInt16 → ℕ) (detected : List UInt16) (seq : UInt16) : ℕ :=
  if seq ∈ detected then 0 else requests seq

theorem Listed.append_new {detected : List UInt16} (h : Listed last requests nackList)
    (hwindow : InWindow last detected)
    (holder : ∀ x ∈ keys nackList, ∀ y ∈ detected, age last y < age last x) :
    Listed last (detect requests detected) (nackList ++ detected.map (newEntry createdAtMs)) := by
  have hkeys : keys (nackList ++ detected.map (newEntry createdAtMs)) =
      keys nackList ++ detected := by
    rw [keys, map_append, map_map]
    congr 1
    exact map_id'' (fun _ => rfl) detected
  have hnew : ∀ x ∈ detected.map (newEntry createdAtMs),
      x.1 ∈ detected ∧ x = newEntry createdAtMs x.1 := by
    intro x hx
    obtain ⟨seq, hseq, rfl⟩ := mem_map.mp hx
    exact ⟨hseq, rfl⟩
  refine ⟨?_, ?_, ?_, ?_⟩
  · rw [hkeys]
    exact ⟨pairwise_append.mpr ⟨h.window.sorted, hwindow.sorted, holder⟩,
      forall_mem_append.mpr ⟨h.window.pos, hwindow.pos⟩,
      forall_mem_append.mpr ⟨h.window.near, hwindow.near⟩⟩
  · refine forall_mem_append.mpr ⟨h.seq, fun x hx => ?_⟩
    rw [(hnew x hx).2]
    rfl
  · refine forall_mem_append.mpr ⟨h.retries, fun x hx => ?_⟩
    rw [(hnew x hx).2]
    show (0 : UInt8) < 10
    decide
  · intro x hx
    rcases mem_append.mp hx with hx | hx
    · -- a listed number is not detected again, so its count goes on
      have hnot : x.1 ∉ detected := by
        intro hmem
        exact lt_irrefl _ (holder x.1 (mem_map_of_mem hx) x.1 hmem)
      rw [detect, if_neg hnot]
      exact h.counted x hx
    · obtain ⟨hmem, heq⟩ := hnew x hx
      rw [detect, if_pos hmem, heq]
      rfl

theorem age_of_newer (hne : seq ≠ last) (hlower : ¬seqLowerThan seq last) :
    0 < age seq last ∧ age seq last ≤ 32768 := by
  have hseq := seq.toNat_lt
  have hlast := last.toNat_lt
  have hne' : seq.toNat ≠ last.toNat := by rwa [Ne, UInt16.toNat_inj]
  rw [seqLowerThan_iff] at hlower
  rw [age_eq_gap]
  unfold Lower at hlower
  unfold gap
  split_ifs <;> omega

theorem tooMany_eq_false {numNewNacks : UInt16} (hlen : nackList.length ≤ 1000) :
    tooMany nackList numNewNacks = false ↔ nackList.length + numNewNacks.toNat ≤ 1000 := by
  have hof : (UInt16.ofNat nackList.length).toNat = nackList.length := by
    rw [UInt16.toNat_ofNat', Nat.mod_eq_of_lt (by omega)]
  rw [tooMany, hof, decide_eq_false_iff_not, maxNackPackets, Nat.not_lt]

theorem Listed.drop_old (h : Listed last requests nackList) (t : BTree)
    (hadvance : age seq last ≤ 10000) {left : List (UInt16 × NackInfo)}
    (hleft : left <:+ nackList.drop (t.locate (keys nackList) (seq - maxPacketAge))) :
    Listed seq requests left ∧ ∀ x ∈ keys left, age seq last < age seq x := by
  obtain ⟨hwindow, holder⟩ := h.window.drop_old t hadvance
  have hsub := hleft.sublist.trans (drop_sublist _ _)
  have hkeys : (keys left).Sublist
      ((keys nackList).drop (t.locate (keys nackList) (seq - maxPacketAge))) := by
    rw [keys, ← map_drop]
    exact hleft.sublist.map _
  refine ⟨⟨hwindow.sublist hkeys, ?_, ?_, ?_⟩, fun x hx => holder x (hkeys.subset hx)⟩
  · exact fun x hx => h.seq x (hsub.subset hx)
  · exact fun x hx => h.retries x (hsub.subset hx)
  · exact fun x hx => h.counted x (hsub.subset hx)

theorem addPacketsToNackList_spec (g : NackGenerator)
    (h : Listed g.lastSeq requests g.nackList) (hlen : g.nackList.length ≤ 1000)
    (hne : seq ≠ g.lastSeq) (hlower : ¬seqLowerThan seq g.lastSeq) :
    ∃ nackList keyFrameList detected keyFrameRequired,
      addPacketsToNackList t createdAtMs g (g.lastSeq + 1) seq =
        .ok ({ g with nackList := nackList, keyFrameList := keyFrameList }, detected,
          keyFrameRequired) ∧
      Listed seq (detect requests detected) nackList ∧ nackList.length ≤ 1000 := by
  obtain ⟨hpos, hhalf⟩ := age_of_newer hne hlower
  have hnew : (seq - (g.lastSeq + 1)).toNat = age seq g.lastSeq - 1 :=
    age_succ (by omega : age seq g.lastSeq = (age seq g.lastSeq - 1) + 1)
  set cut := g.nackList.drop (t.locate (keys g.nackList) (seq - maxPacketAge)) with hcut
  have hroom : (if tooMany cut (seq - (g.lastSeq + 1)) then
      makeRoom t (seq - (g.lastSeq + 1)) (cut.length + 1) cut g.keyFrameList
      else (cut, g.keyFrameList)).1 <:+ cut := by
    split_ifs
    · exact makeRoom_suffix t _ _ _ _
    · exact suffix_rfl
  rw [addPacketsToNackList]
  rw [← hcut]
  generalize (if tooMany cut (seq - (g.lastSeq + 1)) then
      makeRoom t (seq - (g.lastSeq + 1)) (cut.length + 1) cut g.keyFrameList
      else (cut, g.keyFrameList)) = room at hroom ⊢
  obtain ⟨left, keyFrameList⟩ := room
  dsimp only at hroom ⊢
  have hleft : left.length ≤ 1000 :=
    (hroom.sublist.trans (drop_sublist _ _)).length_le.trans hlen
  by_cases hmany : tooMany left (seq - (g.lastSeq + 1))
  · rw [if_pos hmany]
    exact ⟨[], keyFrameList, [], true, rfl, listed_nil, by simp⟩
  rw [if_neg hmany]
  -- a longer jump would have emptied the list
  rw [Bool.not_eq_true, tooMany_eq_false hleft, hnew] at hmany
  obtain ⟨hlisted, holder⟩ := h.drop_old t (by omega) hroom
  obtain ⟨detected, heq, hwindow, hle, hcount⟩ := @addMissing_spec seq (g.lastSeq + 1) left
    createdAtMs t g.recoveredList _ hnew (by omega) fun x hx => by
      have := holder x hx
      have := hlisted.window.near x hx
      omega
  rw [hnew, heq]
  refine ⟨_, keyFrameList, detected, false, rfl, hlisted.append_new hwindow ?_, ?_⟩
  · intro x hx y hy
    have := holder x hx
    have := hle y hy
    omega
  · rw [length_append, length_map]
    omega

/-! ### What `GetNackBatch` does -/

theorem nackBatch_spec (due : NackInfo → Bool) (nowMs : UInt64)
    (hnodup : (keys nackList).Nodup) (hseq : ∀ x ∈ nackList, x.2.seq = x.1)
    (hretries : ∀ x ∈ nackList, x.2.retries < maxNackRetries) :
    (keys (nackBatch due nowMs nackList).1).Sublist (keys nackList) ∧
      (nackBatch due nowMs nackList).2.Sublist (keys nackList) ∧
      ∀ y ∈ (nackBatch due nowMs nackList).1, y.2.seq = y.1 ∧ y.2.retries < maxNackRetries ∧
        ∃ x ∈ nackList, x.1 = y.1 ∧
          y.2.retries.toNat = x.2.retries.toNat + (nackBatch due nowMs nackList).2.count y.1 := by
  induction nackList with
  | nil => exact ⟨List.Sublist.slnil, List.Sublist.slnil, fun y hy => (by cases hy)⟩
  | cons entry later ih =>
    obtain ⟨key, info⟩ := entry
    obtain ⟨hkey, hnodup'⟩ := nodup_cons.mp hnodup
    obtain ⟨hleft, hbatch, hcount⟩ := ih hnodup' (fun x hx => hseq x (mem_cons_of_mem _ hx))
      fun x hx => hretries x (mem_cons_of_mem _ hx)
    have hinfo : info.seq = key := hseq (key, info) mem_cons_self
    have hten : info.retries < maxNackRetries := hretries (key, info) mem_cons_self
    have hnone : (nackBatch due nowMs later).2.count key = 0 :=
      count_eq_zero.mpr fun hmem => hkey (hbatch.subset hmem)
    -- the entries after this one do not have its number
    have hother : ∀ y ∈ (nackBatch due nowMs later).1, y.1 ≠ key := by
      intro y hy heq
      have hmem : y.1 ∈ keys later := hleft.subset (mem_map_of_mem hy)
      rw [heq] at hmem
      exact hkey hmem
    rw [nackBatch]
    dsimp only
    by_cases hdue : due info
    · have hsucc : (info.retries + 1).toNat = info.retries.toNat + 1 := by
        have := UInt8.lt_iff_toNat_lt.mp hten
        have hmax : maxNackRetries.toNat = 10 := rfl
        have hone : (1 : UInt8).toNat = 1 := rfl
        rw [UInt8.toNat_add, hone, Nat.mod_eq_of_lt (by omega)]
      have hbatch' : (info.seq :: (nackBatch due nowMs later).2).Sublist
          (keys ((key, info) :: later)) := by
        rw [hinfo]
        exact hbatch.cons_cons key
      have hlater : ∀ y ∈ (nackBatch due nowMs later).1,
          y.2.seq = y.1 ∧ y.2.retries < maxNackRetries ∧
            ∃ x ∈ (key, info) :: later, x.1 = y.1 ∧ y.2.retries.toNat = x.2.retries.toNat +
              (info.seq :: (nackBatch due nowMs later).2).count y.1 := by
        intro y hy
        obtain ⟨hyseq, hyten, x, hx, hxy, hretry⟩ := hcount y hy
        refine ⟨hyseq, hyten, x, mem_cons_of_mem _ hx, hxy, ?_⟩
        rw [hinfo, count_cons_of_ne (hother y hy).symm]
        exact hretry
      rw [if_pos hdue]
      split_ifs with hmax
      · exact ⟨hleft.cons key, hbatch', hlater⟩
      refine ⟨hleft.cons_cons key, hbatch', ?_⟩
      intro y hy
      rcases mem_cons.mp hy with rfl | hy
      · refine ⟨hinfo, UInt8.not_le.mp hmax, (key, info), mem_cons_self, rfl, ?_⟩
        rw [hsucc, hinfo, count_cons_self, hnone]
      · exact hlater y hy
    · rw [if_neg hdue]
      refine ⟨hleft.cons_cons key, hbatch.cons key, ?_⟩
      intro y hy
      rcases mem_cons.mp hy with rfl | hy
      · exact ⟨hinfo, hten, (key, info), mem_cons_self, rfl, by rw [hnone, Nat.add_zero]⟩
      · obtain ⟨hyseq, hyten, x, hx, hxy, hretry⟩ := hcount y hy
        exact ⟨hyseq, hyten, x, mem_cons_of_mem _ hx, hxy, hretry⟩

def request (requests : UInt16 → ℕ) (batch : List UInt16) (seq : UInt16) : ℕ :=
  requests seq + batch.count seq

theorem Listed.nackBatch (h : Listed last requests nackList) (due : NackInfo → Bool)
    (nowMs : UInt64) (hten : ∀ seq, requests seq ≤ 10) :
    Listed last (request requests (nackBatch due nowMs nackList).2)
        (nackBatch due nowMs nackList).1 ∧
      ∀ seq, request requests (Nack.nackBatch due nowMs nackList).2 seq ≤ 10 := by
  obtain ⟨hleft, hbatch, hcount⟩ := nackBatch_spec due nowMs h.window.nodup h.seq h.retries
  constructor
  · refine ⟨h.window.sublist hleft, fun y hy => (hcount y hy).1, fun y hy => (hcount y hy).2.1, ?_⟩
    intro y hy
    obtain ⟨-, -, x, hx, hxy, hretry⟩ := hcount y hy
    rw [request, hretry, ← hxy, h.counted x hx]
  · intro seq
    by_cases hmem : seq ∈ (Nack.nackBatch due nowMs nackList).2
    · obtain ⟨x, hx, rfl⟩ := mem_map.mp (hbatch.subset hmem)
      have hone := nodup_iff_count_le_one.mp (h.window.nodup.sublist hbatch) x.1
      have hlt := UInt8.lt_iff_toNat_lt.mp (h.retries x hx)
      have hmax : maxNackRetries.toNat = 10 := rfl
      rw [request, h.counted x hx]
      omega
    · rw [request, count_eq_zero.mpr hmem, Nat.add_zero]
      exact hten seq

theorem nackBatch_length_le (due : NackInfo → Bool) (nowMs : UInt64)
    (h : Listed last requests nackList) :
    (nackBatch due nowMs nackList).1.length ≤ nackList.length := by
  have hleft := (nackBatch_spec due nowMs h.window.nodup h.seq h.retries).1
  simpa [keys] using hleft.length_le

/-! ### Runs -/

/-- What happens to the generator.  The clock and the searches may answer anything. -/
inductive Event where
  | receivePacket (t : BTree) (createdAtMs : UInt16 → UInt64) (nowMs : UInt64) (seq : UInt16)
      (isKeyFrame isRecovered : Bool)
  | timer (nowMs : UInt64)
  | updateRtt (rtt : UInt32)
  | reset

/-- The generator, and for each number how often it was requested since it was last
detected. -/
structure Observed where
  generator : NackGenerator
  requests : UInt16 → ℕ

def Observed.after (o : Observed) (g : NackGenerator) (effects : Effects) : Observed :=
  ⟨g, request (detect o.requests effects.detected) effects.nackBatch⟩

def step (o : Observed) : Event → Except Abort Observed
  | .receivePacket t createdAtMs nowMs seq isKeyFrame isRecovered => do
    let (g, effects) ← receivePacket t createdAtMs nowMs o.generator seq isKeyFrame isRecovered
    .ok (o.after g effects)
  | .timer nowMs =>
    -- a timer fires only if it is active
    if o.generator.timerActive then
      .ok (o.after (onTimer nowMs o.generator).1 (onTimer nowMs o.generator).2)
    else .ok o
  | .updateRtt rtt => .ok { o with generator := { o.generator with rtt := rtt } }
  | .reset => .ok { o with generator := Nack.reset o.generator }

structure Inv (o : Observed) : Prop where
  listed : Listed o.generator.lastSeq o.requests o.generator.nackList
  length : o.generator.nackList.length ≤ maxNackPackets
  started : o.generator.started = false → o.generator.nackList = []
  timer : o.generator.nackList ≠ [] → o.generator.timerActive
  requests : ∀ seq, o.requests seq ≤ 10

variable {o : Observed}

theorem detect_nil : detect requests [] = requests := by
  funext seq
  simp [detect]

theorem request_nil : request requests [] = requests := by
  funext seq
  simp [request]

variable {g : NackGenerator}

theorem after_noEffects (found : Bool) :
    o.after g { noEffects with found := found } = ⟨g, o.requests⟩ := by
  show (⟨g, request (detect o.requests []) []⟩ : Observed) = _
  rw [detect_nil, request_nil]

theorem Inv.shrink (h : Inv o) {g : NackGenerator}
    (hlist : g.nackList.Sublist o.generator.nackList) (hlast : g.lastSeq = o.generator.lastSeq)
    (hstarted : g.started = o.generator.started)
    (htimer : g.timerActive = o.generator.timerActive) : Inv ⟨g, o.requests⟩ := by
  refine ⟨?_, hlist.length_le.trans h.length, ?_, ?_, h.requests⟩
  · show Listed g.lastSeq _ _
    rw [hlast]
    exact h.listed.sublist hlist
  · intro hnot
    rw [hstarted] at hnot
    have hnil := h.started hnot
    rw [hnil] at hlist
    exact sublist_nil.mp hlist
  · intro hne
    rw [htimer]
    refine h.timer ?_
    intro hnil
    rw [hnil] at hlist
    exact hne (sublist_nil.mp hlist)

theorem Inv.requestBatch {g : NackGenerator} {requests : UInt16 → ℕ} {filter : NackFilter}
    {nowMs : UInt64} (h : Listed g.lastSeq requests g.nackList)
    (hlen : g.nackList.length ≤ maxNackPackets) (hstarted : g.started = false → g.nackList = [])
    (hten : ∀ seq, requests seq ≤ 10) {g' : NackGenerator}
    (hlist : g'.nackList = (getNackBatch g filter nowMs).1.nackList)
    (hlast : g'.lastSeq = g.lastSeq) (hstarted' : g'.started = g.started)
    (htimer : g'.nackList ≠ [] → g'.timerActive) :
    Inv ⟨g', request requests (getNackBatch g filter nowMs).2⟩ := by
  obtain ⟨hlisted, hten'⟩ := h.nackBatch (isDue g filter nowMs) nowMs hten
  refine ⟨?_, ?_, ?_, htimer, hten'⟩
  · show Listed g'.lastSeq _ g'.nackList
    rw [hlast, hlist]
    exact hlisted
  · show g'.nackList.length ≤ _
    rw [hlist]
    exact (nackBatch_length_le _ nowMs h).trans hlen
  · intro hnot
    have hnil := hstarted (hstarted'.symm.trans hnot)
    rw [hlist, getNackBatch, hnil]
    rfl

theorem mayRunTimer_active : (mayRunTimer g).nackList ≠ [] → (mayRunTimer g).timerActive := by
  intro hne
  cases hlist : g.nackList with
  | nil => exact absurd hlist hne
  | cons _ _ => simp [mayRunTimer, hlist]

theorem ensureTimer_eq :
    ∃ active, ensureTimer g = { g with timerActive := active } ∧ (g.nackList ≠ [] → active) := by
  rw [ensureTimer]
  split_ifs with hactive
  · exact ⟨_, rfl, fun _ => hactive⟩
  · exact ⟨_, rfl, mayRunTimer_active⟩

theorem receiveNewer_inv (nowMs : UInt64)
    (h : Inv o) (hstarted : o.generator.started) (hne : seq ≠ o.generator.lastSeq)
    (hlower : ¬seqLowerThan seq o.generator.lastSeq) :
    ∃ g effects, receiveNewer t createdAtMs nowMs o.generator seq = .ok (g, effects) ∧
      Inv (o.after g effects) := by
  obtain ⟨nackList, keyFrameList, detected, keyFrameRequired, heq, hlisted, hlen⟩ :=
    addPacketsToNackList_spec o.generator h.listed h.length hne hlower
  have hten : ∀ s, detect o.requests detected s ≤ 10 := by
    intro s
    rw [detect]
    split_ifs
    · exact Nat.zero_le 10
    · exact h.requests s
  -- the generator before the batch is taken from it
  set g₁ : NackGenerator := { o.generator with
    nackList := nackList
    keyFrameList := keyFrameList
    lastSeq := seq } with hg₁
  have hstarted₁ : g₁.started = false → g₁.nackList = [] := by
    intro hnot
    rw [show o.generator.started = false from hnot] at hstarted
    cases hstarted
  have hreceive : receiveNewer t createdAtMs nowMs o.generator seq =
      .ok (ensureTimer (getNackBatch g₁ .seq nowMs).1,
        ⟨false, detected, (getNackBatch g₁ .seq nowMs).2, keyFrameRequired⟩) := by
    rw [receiveNewer, heq]
    rfl
  obtain ⟨active, htimer, hactive⟩ := ensureTimer_eq
  rw [htimer] at hreceive
  exact ⟨_, _, hreceive, Inv.requestBatch hlisted hlen hstarted₁ hten rfl rfl rfl hactive⟩

theorem receivePacket_inv (nowMs : UInt64) (h : Inv o) (isKeyFrame isRecovered : Bool) :
    ∃ g effects, receivePacket t createdAtMs nowMs o.generator seq isKeyFrame isRecovered =
      .ok (g, effects) ∧ Inv (o.after g effects) := by
  have hsame : ∀ found, Inv (o.after o.generator { noEffects with found := found }) := by
    intro found
    rw [after_noEffects]
    exact h
  rw [receivePacket]
  by_cases hstarted : o.generator.started
  · rw [if_neg (by simp [hstarted])]
    by_cases heq : seq = o.generator.lastSeq
    · rw [if_pos heq]
      exact ⟨_, _, rfl, hsame false⟩
    rw [if_neg heq]
    by_cases hlower : seqLowerThan seq o.generator.lastSeq
    · rw [if_pos hlower]
      dsimp only
      generalize t.locate (keys o.generator.nackList) seq = it
      -- an older packet can only take its entry off the list
      cases hat : o.generator.nackList[it]? with
      | none => exact ⟨_, _, rfl, hsame false⟩
      | some entry =>
        obtain ⟨key, info⟩ := entry
        dsimp only
        split_ifs
        · exact ⟨_, _, rfl, hsame false⟩
        · refine ⟨_, _, rfl, ?_⟩
          rw [after_noEffects]
          exact h.shrink (eraseIdx_sublist _ _) rfl rfl rfl
    · rw [if_neg hlower]
      dsimp only
      generalize (if isKeyFrame then t.insert o.generator.keyFrameList seq
        else o.generator.keyFrameList) = keyFrameList
      generalize keyFrameList.drop (t.locate keyFrameList (seq - maxPacketAge)) = keyFrameList'
      have h' := @Inv.shrink o h { o.generator with keyFrameList := keyFrameList' }
        (List.Sublist.refl _) rfl rfl rfl
      cases isRecovered with
      | true =>
        refine ⟨_, _, rfl, ?_⟩
        rw [show noEffects = { noEffects with found := false } from rfl, after_noEffects]
        exact h.shrink (List.Sublist.refl _) rfl rfl rfl
      | false =>
        obtain ⟨g, effects, hreceive, hinv⟩ :=
          receiveNewer_inv nowMs h' hstarted heq hlower
        rw [if_neg Bool.false_ne_true]
        exact ⟨g, effects, hreceive, hinv⟩
  · have hnot : o.generator.started = false := by simpa using hstarted
    have hnil := h.started hnot
    rw [if_pos (by simp [hnot])]
    refine ⟨_, _, rfl, ?_⟩
    rw [show noEffects = { noEffects with found := false } from rfl, after_noEffects]
    refine ⟨?_, h.length, fun hfalse => (by cases hfalse), h.timer, h.requests⟩
    rw [hnil]
    exact listed_nil

theorem step_inv (h : Inv o) (e : Event) : ∃ o', step o e = .ok o' ∧ Inv o' := by
  cases e with
  | receivePacket t createdAtMs nowMs seq isKeyFrame isRecovered =>
    obtain ⟨g, effects, heq, h'⟩ :=
      receivePacket_inv nowMs h isKeyFrame isRecovered
    refine ⟨o.after g effects, ?_, h'⟩
    rw [step, heq]
    rfl
  | timer nowMs =>
    rw [step]
    split_ifs with hactive
    · refine ⟨_, rfl, ?_⟩
      show Inv ⟨_, request (detect o.requests []) _⟩
      rw [detect_nil]
      exact @Inv.requestBatch { o.generator with timerActive := false } _ .time nowMs h.listed
        h.length h.started h.requests (mayRunTimer _) rfl rfl rfl (mayRunTimer_active)
    · exact ⟨o, rfl, h⟩
  | updateRtt rtt => exact ⟨_, rfl, h.listed, h.length, h.started, h.timer, h.requests⟩
  | reset =>
    exact ⟨_, rfl, listed_nil, Nat.zero_le _, fun _ => rfl, fun hne => absurd rfl hne, h.requests⟩

/-- **The invariant.**  In every run the assertion does not fire, the missing numbers are
the last ones below the latest, each requested less than ten times so far, and the timer
is active if there is any; none is requested more than ten times. -/
theorem run_inv (sendNackDelayMs : UInt32) (events : List Event) :
    ∃ o, Runs.run step ⟨new sendNackDelayMs, fun _ => 0⟩ events = .ok o ∧
      o.generator.nackList.length ≤ 1000 ∧ (∀ key info, (key, info) ∈ o.generator.nackList →
        seqLowerThan key o.generator.lastSeq ∧ (o.generator.lastSeq - key).toNat ≤ 10000 ∧
          info.retries < 10) ∧ (o.generator.nackList ≠ [] → o.generator.timerActive) ∧
      ∀ seq, o.requests seq ≤ 10 := by
  have hstep : ∀ (o : Observed) (e : Event), Inv o →
      Runs.Meets (fun _ => True) Inv (step o e) := by
    intro o e h
    obtain ⟨o', heq, h'⟩ := step_inv h e
    rw [heq]
    exact h'
  have hnew : Inv ⟨new sendNackDelayMs, fun _ => 0⟩ :=
    ⟨listed_nil, Nat.zero_le _, fun _ => rfl, fun hne => absurd rfl hne, fun _ => Nat.zero_le 10⟩
  obtain ⟨o, hrun, h⟩ := (Runs.run_meets hstep events _ hnew).exists_ok
  refine ⟨o, hrun, h.length, ?_, h.timer, h.requests⟩
  intro key info hmem
  have hkey : key ∈ keys o.generator.nackList := mem_map_of_mem hmem
  have hnear := h.listed.window.near key hkey
  have hpos := h.listed.window.pos key hkey
  -- the keys are behind `lastSeq`: their age is positive and its own is `0`
  have hself : age o.generator.lastSeq o.generator.lastSeq = 0 := by
    rw [age, UInt16.sub_self]
    rfl
  refine ⟨?_, hnear, h.listed.retries _ hmem⟩
  rw [@seqLowerThan_iff_age o.generator.lastSeq _ _ (by omega) (by omega)]
  omega

/-- The search from the front. -/
def linear : BTree where
  locate seqs key := (seqs.takeWhile (seqLowerThan · key)).length
  locate_le seqs key := (takeWhile_sublist _).length_le
  locate_eq front back key hfront hback := by
    cases back with
    | nil => rw [append_nil, takeWhile_eq_self_iff.mpr hfront]
    | cons x back =>
      have hx : ¬seqLowerThan x key := hback x mem_cons_self
      rw [takeWhile_append_of_pos hfront, takeWhile_cons, if_neg hx, append_nil]

-- a loss around the end of the circle is requested at once, and again by the timer
example : (Runs.run step ⟨new 0, fun _ => 0⟩
    [.receivePacket linear (fun _ => 5) 5 65534 true false,
      .receivePacket linear (fun _ => 6) 6 1 false false, .timer 200]).map (fun o =>
        (keys o.generator.nackList, o.requests 65535, o.generator.timerActive)) =
      .ok ([65535, 0], 2, true) := by
  rfl

end Nack

end Mediasoup
