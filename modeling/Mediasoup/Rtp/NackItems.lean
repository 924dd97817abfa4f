/-
Packet ids and bitmasks of a NACK (`RtpStreamRecv::OnNackGeneratorNackRequired`).

The receiver of a stream requests a list of sequence numbers as items: a number and, as the
bits of a mask, those of the sixteen numbers after it that are in the list.  The sender
comes to the numbers of an item by shifting the mask.

* `nackItems` — the items of a list, `requested` — the numbers of an item;
* `requestedFrom_add` — a bit above all others adds a number at the end;
* `requested_nackItems` — the numbers of the items are the list;
* `run_items` — so they are for every batch of a run of the generator.
-/
import Mediasoup.Rtp.NackGenerator
import Mediasoup.Rtp.RtpStreamSend

open List Runs

namespace Mediasoup

namespace RtpStreamSend

/-- The inner loop: the bitmask, and the numbers that are left. -/
def fillBitmask (seq : UInt16) : UInt16 → List UInt16 → UInt16 × List UInt16
  | bitmask, [] => (bitmask, [])
  | bitmask, next :: later =>
    let shift := next - seq - 1
    if 15 < shift then (bitmask, next :: later)
    else fillBitmask seq (bitmask ||| 1 <<< shift) later

/-- The outer loop.  Every round takes a number. -/
def nackItemsFrom : ℕ → List UInt16 → List (UInt16 × UInt16)
  | _, [] => []
  | 0, _ :: _ => []
  | rounds + 1, seq :: later =>
    let (bitmask, left) := fillBitmask seq 0 later
    (seq, bitmask) :: nackItemsFrom rounds left

/-- The items that `OnNackGeneratorNackRequired` puts into the packet. -/
def nackItems (seqNumbers : List UInt16) : List (UInt16 × UInt16) :=
  nackItemsFrom seqNumbers.length seqNumbers

def maxRequestedPackets : ℕ := 17

/-- The numbers ascend on an arc of less than half a circle. -/
def Ascending (seqNumbers : List UInt16) : Prop :=
  ∃ first : UInt16, seqNumbers.Pairwise (fun x y => (x - first).toNat < (y - first).toNat) ∧
    ∀ x ∈ seqNumbers, (x - first).toNat < 32768

variable {rounds bitmask s : ℕ} {seq next : UInt16} {requested : Bool}

theorem requestedFrom_nothing : requestedFrom rounds seq false 0 = [] := by
  cases rounds with
  | zero => rfl
  | succ rounds => rw [requestedFrom, if_neg (by simp)]

theorem requestedFrom_add (hrounds : s + 1 < rounds) (hbitmask : bitmask < 2 ^ s) :
    requestedFrom rounds seq requested (bitmask + 2 ^ s) =
      requestedFrom rounds seq requested bitmask ++ [seq + 1 + UInt16.ofNat s] := by
  induction rounds generalizing seq requested bitmask s with
  | zero => omega
  | succ rounds ih =>
    have hpos : 0 < 2 ^ s := Nat.two_pow_pos s
    -- the rounds after the first one
    have hlater : requestedFrom rounds (seq + 1) ((bitmask + 2 ^ s) % 2 = 1)
        ((bitmask + 2 ^ s) / 2) =
          requestedFrom rounds (seq + 1) (bitmask % 2 = 1) (bitmask / 2) ++
            [seq + 1 + UInt16.ofNat s] := by
      cases s with
      | zero =>
        obtain ⟨rounds, rfl⟩ : ∃ n, rounds = n + 1 := ⟨rounds - 1, by omega⟩
        obtain rfl : bitmask = 0 := by omega
        show requestedFrom (rounds + 1) (seq + 1) true 0 = requestedFrom _ _ false 0 ++ _
        rw [requestedFrom_nothing, requestedFrom, if_pos (by simp), if_pos rfl]
        simp [requestedFrom_nothing]
      | succ s =>
        have hhalf : (bitmask + 2 ^ (s + 1)) / 2 = bitmask / 2 + 2 ^ s := by omega
        have hparity : (bitmask + 2 ^ (s + 1)) % 2 = bitmask % 2 := by omega
        rw [hhalf, hparity, ih (by omega) (by omega), UInt16.ofNat_add]
        congr 2
        grind
    rw [requestedFrom, requestedFrom, if_pos (Or.inr (by omega)), hlater]
    cases requested with
    | true => simp
    | false =>
      by_cases h0 : bitmask = 0
      · subst h0
        simp [requestedFrom_nothing]
      · simp [h0]

theorem requested_zero : RtpStreamSend.requested seq 0 = [seq] := by
  show requestedFrom (16 + 1) seq true 0 = _
  rw [requestedFrom, if_pos (Or.inl rfl), if_pos rfl]
  exact congrArg _ requestedFrom_nothing

theorem length_requestedFrom : (requestedFrom rounds seq requested bitmask).length ≤ rounds := by
  induction rounds generalizing seq requested bitmask with
  | zero => exact le_refl 0
  | succ rounds ih =>
    rw [requestedFrom]
    split_ifs
    · exact Nat.succ_le_succ ih
    · exact le_trans ih (Nat.le_succ rounds)
    · exact Nat.zero_le _

/-! ### The items of a list -/

theorem toNat_or_shiftLeft {bitmask shift : UInt16} (hshift : ¬15 < shift)
    (hbitmask : bitmask.toNat < 2 ^ shift.toNat) :
    (bitmask ||| 1 <<< shift).toNat = bitmask.toNat + 2 ^ shift.toNat := by
  have hle : shift.toNat ≤ 15 := UInt16.le_iff_toNat_le.mp (UInt16.not_lt.mp hshift)
  have hpow : 2 ^ shift.toNat ≤ 2 ^ 15 := Nat.pow_le_pow_right (by decide) hle
  have hbit : ((1 : UInt16) <<< shift).toNat = 2 ^ shift.toNat := by
    rw [UInt16.toNat_shiftLeft, Nat.mod_eq_of_lt (b := 16) (by omega), UInt16.toNat_one,
      Nat.shiftLeft_eq, one_mul]
    exact Nat.mod_eq_of_lt (by omega)
  have hsum := Nat.two_pow_add_eq_or_of_lt hbitmask 1
  rw [mul_one] at hsum
  rw [UInt16.toNat_or, hbit, Nat.or_comm, ← hsum, Nat.add_comm]

theorem requested_or {bitmask shift : UInt16} (hshift : ¬15 < shift)
    (hbitmask : bitmask.toNat < 2 ^ shift.toNat) :
    RtpStreamSend.requested seq (bitmask ||| 1 <<< shift) =
      RtpStreamSend.requested seq bitmask ++ [seq + 1 + shift] := by
  have hle : shift.toNat ≤ 15 := UInt16.le_iff_toNat_le.mp (UInt16.not_lt.mp hshift)
  rw [RtpStreamSend.requested, toNat_or_shiftLeft hshift hbitmask,
    requestedFrom_add (by omega) hbitmask, UInt16.ofNat_toNat]
  rfl

variable {later : List UInt16} {f : Filling} {nowMs : UInt64} {rtt : UInt16}

/-- The item of a number, and the numbers that are left, are the list.  The invariant of the
loop: the mask has no bit at or above the next number. -/
theorem fillBitmask_requested {bitmask : UInt16}
    (hsorted : later.Pairwise fun x y => (x - seq - 1).toNat < (y - seq - 1).toNat)
    (hbitmask : ∀ next ∈ later, bitmask.toNat < 2 ^ (next - seq - 1).toNat) :
    RtpStreamSend.requested seq (fillBitmask seq bitmask later).1 ++
      (fillBitmask seq bitmask later).2 = RtpStreamSend.requested seq bitmask ++ later := by
  induction later generalizing bitmask with
  | nil => rfl
  | cons next later ih =>
    obtain ⟨hnext, hlater⟩ := pairwise_cons.mp hsorted
    have hbelow := hbitmask next mem_cons_self
    rw [fillBitmask]
    by_cases hshift : 15 < next - seq - 1
    · rw [if_pos hshift]
    rw [if_neg hshift, ih hlater, requested_or hshift hbelow, append_assoc]
    · congr 2
      grind
    · intro y hy
      have hpow : 2 ^ ((next - seq - 1).toNat + 1) ≤ 2 ^ (y - seq - 1).toNat :=
        Nat.pow_le_pow_right (by decide) (hnext y hy)
      rw [toNat_or_shiftLeft hshift hbelow]
      omega

theorem fillBitmask_left {bitmask : UInt16} : (fillBitmask seq bitmask later).2 <:+ later := by
  induction later generalizing bitmask with
  | nil => exact suffix_refl []
  | cons next later ih =>
    rw [fillBitmask]
    split
    · exact suffix_refl _
    · exact List.IsSuffix.trans ih (suffix_cons next later)

theorem Ascending.shifts (h : Ascending (seq :: later)) :
    later.Pairwise fun x y => (x - seq - 1).toNat < (y - seq - 1).toNat := by
  obtain ⟨first, hsorted, -⟩ := h
  obtain ⟨hseq, hlater⟩ := pairwise_cons.mp hsorted
  have hshift : ∀ x ∈ later,
      (x - seq - 1).toNat = (x - first).toNat - (seq - first).toNat - 1 := by
    intro x hx
    have hlt := hseq x hx
    have hx := x.toNat_lt
    have hs := seq.toNat_lt
    have hf := first.toNat_lt
    simp only [UInt16.toNat_sub, UInt16.toNat_one] at hlt ⊢
    omega
  refine hlater.imp_of_mem fun {x y} hx hy hlt => ?_
  have := hseq x hx
  rw [hshift x hx, hshift y hy]
  omega

theorem Ascending.of_suffix {l l' : List UInt16} (h : Ascending l) (hsuffix : l' <:+ l) :
    Ascending l' := by
  obtain ⟨first, hsorted, hspan⟩ := h
  exact ⟨first, hsorted.sublist hsuffix.sublist, fun x hx => hspan x (hsuffix.subset hx)⟩

theorem flatMap_nackItemsFrom {l : List UInt16} (hrounds : l.length ≤ rounds) (h : Ascending l) :
    (nackItemsFrom rounds l).flatMap (fun item => RtpStreamSend.requested item.1 item.2) = l := by
  induction rounds generalizing l with
  | zero =>
    obtain rfl := length_eq_zero_iff.mp (Nat.le_zero.mp hrounds)
    rfl
  | succ rounds ih =>
    cases l with
    | nil => rfl
    | cons seq later =>
      have hleft : (fillBitmask seq 0 later).2 <:+ later := fillBitmask_left
      have hitem : RtpStreamSend.requested seq (fillBitmask seq 0 later).1 ++
          (fillBitmask seq 0 later).2 = RtpStreamSend.requested seq 0 ++ later :=
        fillBitmask_requested h.shifts fun _ _ => Nat.two_pow_pos _
      have hlength := hleft.length_le
      rw [length_cons] at hrounds
      rw [nackItemsFrom, flatMap_cons,
        ih (by omega) (h.of_suffix (hleft.trans (suffix_cons seq later)))]
      rw [hitem, requested_zero]
      rfl

/-! ### The container -/

theorem fillRequested_length {f' : Filling} (h : fillRequested rtt nowMs f seq = .ok f') :
    f'.container.length ≤ f.container.length + 1 := by
  rw [fillRequested] at h
  cases hget : RetransmissionBuffer.get f.stream.buffer seq with
  | error reason =>
    rw [hget] at h
    cases h
  | ok found =>
    rw [hget] at h
    cases found with
    | none =>
      cases h
      exact Nat.le_succ _
    | some item =>
      cases h
      rw [fillItem]
      split
      · exact Nat.le_succ _
      · split
        · exact le_of_eq length_append
        · exact le_of_eq length_append

theorem run_fillRequested_length {f' : Filling}
    {seqs : List UInt16} (h : run (fillRequested rtt nowMs) f seqs = .ok f') :
    f'.container.length ≤ f.container.length + seqs.length := by
  induction seqs generalizing f with
  | nil =>
    cases h
    exact le_refl _
  | cons seq seqs ih =>
    cases hstep : fillRequested rtt nowMs f seq with
    | error reason =>
      rw [run_cons_error hstep] at h
      cases h
    | ok f₁ =>
      rw [run_cons_ok hstep] at h
      have hone := fillRequested_length hstep
      have hlater := ih h
      rw [length_cons]
      omega

theorem fillRetransmissionContainer_length {s : Stream} {heap : Heap} {bitmask : UInt16}
    (h : fillRetransmissionContainer s heap rtt nowMs seq bitmask = .ok f) :
    f.container.length ≤ maxRequestedPackets := by
  rw [fillRetransmissionContainer] at h
  split_ifs at h
  · cases h
    exact Nat.zero_le _
  have hrun := run_fillRequested_length h
  have hnumbers : (RtpStreamSend.requested seq bitmask).length ≤ 17 := length_requestedFrom
  rw [length_nil] at hrun
  rw [maxRequestedPackets]
  omega

/-- **What the receiver asks for is what the sender looks up**: the numbers of the items, in
their order and each once, are those of the list, and no item is too large for the
container. -/
theorem requested_nackItems (seqNumbers : List UInt16) (h : Ascending seqNumbers) :
    (nackItems seqNumbers).flatMap (fun item => RtpStreamSend.requested item.1 item.2) =
        seqNumbers ∧ seqNumbers.Nodup ∧
      ∀ (s : Stream) (heap : Heap) (rtt : UInt16) (nowMs : UInt64) (seq bitmask : UInt16)
        (f : Filling), fillRetransmissionContainer s heap rtt nowMs seq bitmask = .ok f →
          f.container.length ≤ maxRequestedPackets := by
  refine ⟨flatMap_nackItemsFrom (le_refl _) h, ?_, ?_⟩
  · obtain ⟨first, hsorted, -⟩ := h
    refine hsorted.imp fun {x y} hlt heq => ?_
    rw [heq] at hlt
    exact lt_irrefl _ hlt
  · intro s heap rtt nowMs seq bitmask f hfill
    exact fillRetransmissionContainer_length hfill

/-- Around the end of the numbers. -/
theorem requested_nackItems_wrap :
    nackItems [65530, 65533, 9, 11, 40] = [(65530, 0x4004), (11, 0), (40, 0)] ∧
      (nackItems [65530, 65533, 9, 11, 40]).flatMap
        (fun item => RtpStreamSend.requested item.1 item.2) = [65530, 65533, 9, 11, 40] :=
  ⟨by decide +kernel, (requested_nackItems [65530, 65533, 9, 11, 40]
    ⟨65530, by simp, by simp⟩).1⟩

end RtpStreamSend

namespace Nack

open RtpStreamSend (Ascending nackItems requested)

theorem InWindow.ascending {last : UInt16} {seqs : List UInt16} (h : InWindow last seqs) :
    Ascending seqs := by
  have hfirst : ∀ x ∈ seqs, (x - (last - 10000)).toNat = 10000 - age last x := by
    intro x hx
    have hnear := h.near x hx
    have hx := x.toNat_lt
    have hlast := last.toNat_lt
    simp only [age, UInt16.toNat_sub, UInt16.reduceToNat] at hnear ⊢
    omega
  refine ⟨last - 10000, h.sorted.imp_of_mem fun {x y} hx hy hlt => ?_, fun x hx => ?_⟩
  · have hnear := h.near x hx
    rw [hfirst x hx, hfirst y hy]
    omega
  · rw [hfirst x hx]
    omega

theorem Listed.inWindow_batch {last : UInt16} {requests : UInt16 → ℕ}
    {nackList : List (UInt16 × NackInfo)} (h : Listed last requests nackList)
    (due : NackInfo → Bool) (nowMs : UInt64) :
    InWindow last (Nack.nackBatch due nowMs nackList).2 :=
  h.window.sublist (nackBatch_spec due nowMs h.window.nodup h.seq h.retries).2.1

/-- In every run, the sender takes from the items of a batch the numbers of the batch, each once,
whether a packet or the timer leads to it. -/
theorem run_items (sendNackDelayMs : UInt32) (events : List Event) :
    ∃ o, run step ⟨new sendNackDelayMs, fun _ => 0⟩ events = .ok o ∧ ∀ batch,
      (∃ nowMs, (onTimer nowMs o.generator).2.nackBatch = batch) ∨
      (∃ t createdAtMs nowMs seq isKeyFrame isRecovered g effects, receivePacket t createdAtMs nowMs
        o.generator seq isKeyFrame isRecovered = .ok (g, effects) ∧ effects.nackBatch = batch) →
      (nackItems batch).flatMap (fun item => requested item.1 item.2) = batch ∧ batch.Nodup := by
  have hnew : Inv ⟨new sendNackDelayMs, fun _ => 0⟩ :=
    ⟨listed_nil, Nat.zero_le _, fun _ => rfl, fun hne => absurd rfl hne, fun _ => Nat.zero_le 10⟩
  have hstep : ∀ o e, Inv o → Meets (fun _ => True) Inv (step o e) := by
    intro o e h
    obtain ⟨o', heq, h'⟩ := step_inv h e
    rw [heq]
    exact h'
  obtain ⟨o, hrun, h⟩ := (run_meets hstep events _ hnew).exists_ok
  refine ⟨o, hrun, fun batch hbatch => ?_⟩
  -- either way the batch is part of one sorted list
  obtain ⟨last, hwindow⟩ : ∃ last, InWindow last batch := by
    obtain ⟨nowMs, rfl⟩ | ⟨t, createdAtMs, nowMs, seq, isKeyFrame, isRecovered, g, effects,
      hreceive, rfl⟩ := hbatch
    · exact ⟨_, h.listed.inWindow_batch _ _⟩
    have hcases : effects.nackBatch = [] ∨ seq ≠ o.generator.lastSeq ∧
        ¬seqLowerThan seq o.generator.lastSeq ∧ ∃ keyFrameList, receiveNewer t createdAtMs nowMs
          { o.generator with keyFrameList := keyFrameList } seq = .ok (g, effects) := by
      grind [receivePacket, noEffects]
    obtain hnil | ⟨hne, hlower, keyFrameList, hnewer⟩ := hcases
    · exact ⟨0, hnil ▸ inWindow_nil⟩
    obtain ⟨_, _, _, _, heq, hlisted, -⟩ := addPacketsToNackList_spec
      { o.generator with keyFrameList := keyFrameList } h.listed h.length hne hlower
    rw [receiveNewer, heq] at hnewer
    cases hnewer
    exact ⟨seq, hlisted.inWindow_batch _ _⟩
  exact ⟨RtpStreamSend.flatMap_nackItemsFrom (le_refl _) hwindow.ascending, hwindow.nodup⟩

end Nack

end Mediasoup
