/-
The retransmission buffer of an outgoing stream (`RTC/RtpRetransmissionBuffer`).

The buffer is a deque of items and blank slots: the slot at the index `k` is for the
sequence number that is `k` above the one of the oldest item.

* `insert` — the five ways to place a packet, with the removal of the old ones;
* `Inserted` — what `insert` can do to a buffer that is in order, and `insert_inserted`;
* `run_represents` — in every run the slots are where they should be, `get` finds what is
  stored and nothing is asserted in vain.
-/
import Mathlib.Data.List.Induction
import Mathlib.Data.List.ReduceOption
import Mathlib.Data.List.TakeWhile
import Mathlib.Data.UInt
import Mathlib.Tactic.ByContra
import Mathlib.Tactic.SplitIfs
import Mediasoup.Lib.Runs
import Mediasoup.Rtp.SeqManager

open List Circular

namespace Mediasoup

open UInt16

namespace RetransmissionBuffer

structure Packet (π : Type) where
  ssrc : UInt32
  sequenceNumber : UInt16
  timestamp : UInt32
  content : π

structure Item (π : Type) where
  packet : Packet π
  ssrc : UInt32
  sequenceNumber : UInt16
  timestamp : UInt32
  resentAtMs : UInt64
  sentTimes : UInt8

/-- The arguments of the constructor.  The clock rate of a stream is a divisor. -/
structure Config where
  maxItems : UInt16
  maxRetransmissionDelayMs : UInt32
  clockRate : UInt32
  maxItems_pos : 0 < maxItems
  clockRate_pos : 0 < clockRate

inductive Abort where
  | assertion
  | nullDereference
  | outOfRange

variable {π : Type}

/-- The deque; a blank slot is `none`. -/
abbrev Slots (π : Type) := List (Option (Item π))

def getOldest (b : Slots π) : Option (Item π) := b.head?.join

def getNewest (b : Slots π) : Option (Item π) := b.getLast?.join

def get (b : Slots π) (seq : UInt16) : Except Abort (Option (Item π)) :=
  match getOldest b with
  | none => .ok none
  | some oldest =>
    if seqLowerThan seq oldest.sequenceNumber then .ok none
    else
      let idx := seq - oldest.sequenceNumber
      if ofNat (b.length - 1) < idx then .ok none
      else
        match b[idx.toNat]? with
        | none => .error .outOfRange
        | some slot => .ok slot

/-- `RemoveOldest()`: the front item and the blank slots after it. -/
def removeOldest : Slots π → Except Abort (Slots π)
  | [] => .ok []
  | none :: _ => .error .nullDereference
  | some _ :: rest => .ok (rest.dropWhile Option.isNone)

/-- The loop of `RemoveOldest(numItems)`.  Each round removes a slot. -/
def removeDownTo (intendedBufferSize : ℕ) : ℕ → Slots π → Except Abort (Slots π)
  | 0, b => .ok b
  | rounds + 1, b =>
    if intendedBufferSize < b.length then do
      let b ← removeOldest b
      removeDownTo intendedBufferSize rounds b
    else .ok b

/-- `RemoveOldest(numItems)`. -/
def removeOldestItems (numItems : UInt16) (b : Slots π) : Except Abort (Slots π) :=
  if numItems.toNat ≤ b.length then removeDownTo (b.length - numItems.toNat) b.length b
  else .error .assertion

def isTooOldTimestamp (cfg : Config) (timestamp newestTimestamp : UInt32) : Bool :=
  if timestampHigherThan timestamp newestTimestamp then false
  else
    let diffTs := (newestTimestamp - timestamp).toNat
    decide (cfg.maxRetransmissionDelayMs < UInt32.ofNat (diffTs * 1000 / cfg.clockRate.toNat))

/-- The loop of `ClearTooOldByTimestamp`, with the flag `itemsRemoved`. -/
def clearTooOld (cfg : Config) (newestTimestamp : UInt32) :
    ℕ → Slots π → Bool → Except Abort (Slots π × Bool)
  | 0, b, itemsRemoved => .ok (b, itemsRemoved)
  | rounds + 1, b, itemsRemoved =>
    match getOldest b with
    | none => .ok (b, itemsRemoved)
    | some oldest =>
      if isTooOldTimestamp cfg oldest.timestamp newestTimestamp then do
        let b ← removeOldest b
        clearTooOld cfg newestTimestamp rounds b true
      else .ok (b, itemsRemoved)

def clearTooOldByTimestamp (cfg : Config) (newestTimestamp : UInt32) (b : Slots π) :
    Except Abort (Slots π × Bool) := clearTooOld cfg newestTimestamp b.length b false

/-- `FillItem`, with the shared packet that it leaves. -/
def fillItem (packet : Packet π) (sharedPacket : Option (Packet π)) : Item π where
  packet := sharedPacket.getD packet
  ssrc := packet.ssrc
  sequenceNumber := packet.sequenceNumber
  timestamp := packet.timestamp
  resentAtMs := 0
  sentTimes := 0

/-! ### `Insert` -/

/-- The packet becomes the newest one; `none` if it is discarded. -/
def insertNewest (cfg : Config) (b : Slots π) (newest item : Item π) :
    Except Abort (Option (Slots π)) :=
  if timestampLowerThan item.timestamp newest.timestamp then .ok none
  else
    let numBlankSlots := item.sequenceNumber - newest.sequenceNumber - 1
    if cfg.maxItems.toNat < b.length + numBlankSlots.toNat + 1 then
      let numItemsToRemove :=
        ofNat (b.length + numBlankSlots.toNat + 1 - cfg.maxItems.toNat)
      if b.length - 1 < numItemsToRemove.toNat then .ok (some [some item])
      else do
        let b ← removeOldestItems numItemsToRemove b
        .ok (some (b ++ List.replicate numBlankSlots.toNat none ++ [some item]))
    else .ok (some (b ++ List.replicate numBlankSlots.toNat none ++ [some item]))

def insertOldest (cfg : Config) (b : Slots π) (oldest newest item : Item π) : Option (Slots π) :=
  if isTooOldTimestamp cfg item.timestamp newest.timestamp then none
  else if timestampHigherThan item.timestamp oldest.timestamp then none
  else
    let numBlankSlots := oldest.sequenceNumber - item.sequenceNumber - 1
    if cfg.maxItems.toNat < b.length + numBlankSlots.toNat + 1 then none
    else some (some item :: List.replicate numBlankSlots.toNat none ++ b)

/-- The timestamp is not below the one of the first item before the index. -/
def fitsOlder (b : Slots π) (timestamp : UInt32) : ℕ → Except Abort Bool
  | 0 => .ok true
  | idx + 1 =>
    match b[idx]? with
    | none => .error .outOfRange
    | some none => fitsOlder b timestamp idx
    | some (some olderItem) => .ok (decide (olderItem.timestamp ≤ timestamp))

/-- The timestamp is not above the one of the first item of the later slots. -/
def fitsNewer (timestamp : UInt32) : Slots π → Bool
  | [] => true
  | none :: later => fitsNewer timestamp later
  | some newerItem :: _ => decide (timestamp ≤ newerItem.timestamp)

/-- The packet gets the blank slot at the index if its timestamp fits there. -/
def fillSlot (b : Slots π) (idx : ℕ) (item : Item π) : Except Abort (Option (Slots π)) := do
  if ← fitsOlder b item.timestamp idx then
    if fitsNewer item.timestamp (b.drop (idx + 1)) then
      if idx < b.length then .ok (some (b.set idx (some item)))
      else .error .outOfRange
    else .ok none
  else .ok none

/-- The packet is between the oldest and the newest one. -/
def insertBetween (b : Slots π) (oldest item : Item π) : Except Abort (Option (Slots π)) := do
  match ← get b item.sequenceNumber with
  | some _ => .ok none
  | none => fillSlot b (item.sequenceNumber - oldest.sequenceNumber).toNat item

/-- The end of `Insert`: the placement by the sequence number. -/
def place (cfg : Config) (b : Slots π) (item : Item π) : Except Abort (Option (Slots π)) :=
  match getOldest b, getNewest b with
  | some oldest, some newest =>
    if seqHigherThan item.sequenceNumber newest.sequenceNumber then insertNewest cfg b newest item
    else if seqLowerThan item.sequenceNumber oldest.sequenceNumber then
      .ok (insertOldest cfg b oldest newest item)
    else insertBetween b oldest item
  | _, _ => .error .assertion

/-- The timestamp by which old packets are removed. -/
def newestTimestamp (item newest : Item π) : UInt32 :=
  if timestampHigherThan item.timestamp newest.timestamp then item.timestamp
  else newest.timestamp

/-- `Insert` of an item; the flag is set if it is stored. -/
def insertItem (cfg : Config) (b : Slots π) (item : Item π) : Except Abort (Slots π × Bool) :=
  if b = [] then .ok ([some item], true)
  else
    match getNewest b with
    | none => .error .nullDereference
    | some newest =>
      -- a lower sequence number with a higher timestamp empties the buffer
      if seqLowerThan item.sequenceNumber newest.sequenceNumber &&
          timestampHigherThan item.timestamp newest.timestamp then .ok ([some item], true)
      else do
        let (b, itemsRemoved) ← clearTooOldByTimestamp cfg (newestTimestamp item newest) b
        if itemsRemoved && b.isEmpty then .ok ([some item], true)
        else
          match ← place cfg b item with
          | none => .ok (b, false)
          | some b' =>
            if b'.length ≤ cfg.maxItems.toNat then .ok (b', true) else .error .assertion

/-- `Insert`, with the shared packet that is a clone of the packet once one is stored. -/
def insert (cfg : Config) (b : Slots π) (packet : Packet π) (sharedPacket : Option (Packet π)) :
    Except Abort (Slots π × Option (Packet π)) := do
  let item := fillItem packet sharedPacket
  let (b, stored) ← insertItem cfg b item
  .ok (b, if stored then some item.packet else sharedPacket)

/-! ### Buffers in order -/

/-- The slots are for the sequence numbers from `seq` on. -/
def Aligned (seq : UInt16) (b : Slots π) : Prop :=
  ∀ k item, b[k]? = some (some item) → item.sequenceNumber = seq + ofNat k

/-- The buffer goes from one item to another. -/
structure Spans (b : Slots π) (oldest newest : Item π) : Prop where
  head : b.head? = some (some oldest)
  last : b.getLast? = some (some newest)
  aligned : Aligned oldest.sequenceNumber b

variable {b c : Slots π} {oldest newest item : Item π} {cfg : Config}
variable {seq : UInt16} {b' : Slots π} {stored : Bool}

theorem aligned_append : Aligned seq (b ++ c) ↔
    Aligned seq b ∧ Aligned (seq + ofNat b.length) c := by
  constructor
  · intro h
    constructor
    · intro k item hk
      have hlt : k < b.length := (List.getElem?_eq_some_iff.mp hk).1
      exact h k item (by rw [List.getElem?_append_left hlt, hk])
    · intro k item hk
      have hat : (b ++ c)[b.length + k]? = some (some item) := by
        rw [List.getElem?_append_right (by omega), Nat.add_sub_cancel_left, hk]
      rw [h _ item hat, ofNat_add, add_assoc]
  · rintro ⟨hb, hc⟩ k item hk
    rcases Nat.lt_or_ge k b.length with hlt | hge
    · rw [List.getElem?_append_left hlt] at hk
      exact hb k item hk
    · rw [List.getElem?_append_right hge] at hk
      rw [hc _ item hk, add_assoc, ← ofNat_add, Nat.add_sub_cancel' hge]

theorem aligned_singleton : Aligned seq [some item] ↔ item.sequenceNumber = seq := by
  constructor
  · intro h
    simpa using h 0 item rfl
  · intro h k item' hk
    obtain ⟨hlt, heq⟩ := List.getElem?_eq_some_iff.mp hk
    obtain rfl : k = 0 := by simpa using hlt
    cases heq
    simpa using h

variable {n : ℕ}

theorem aligned_blank : Aligned seq (List.replicate n none : Slots π) := by
  intro k item hk
  have hmem := mem_of_getElem? hk
  cases eq_of_mem_replicate hmem

theorem toNat_ofNat_of_lt (h : n < 65536) : (ofNat n).toNat = n := by
  rw [toNat_ofNat']
  exact Nat.mod_eq_of_lt h

theorem toNat_add_sub_ofNat (a : UInt16) (h : n < 65536) : (a + ofNat n - a).toNat = n := by
  rw [UInt16.add_comm, UInt16.add_sub_cancel]
  exact toNat_ofNat_of_lt h

section

variable (h : Spans b oldest newest)
include h

theorem Spans.ne_nil : b ≠ [] := by
  rintro rfl
  cases h.head

theorem Spans.getOldest : getOldest b = some oldest := by
  rw [RetransmissionBuffer.getOldest, h.head]
  rfl

theorem Spans.getNewest : getNewest b = some newest := by
  rw [RetransmissionBuffer.getNewest, h.last]
  rfl

theorem Spans.newest_sequenceNumber :
    newest.sequenceNumber = oldest.sequenceNumber + ofNat (b.length - 1) := by
  have hlast := h.last
  rw [List.getLast?_eq_getElem?] at hlast
  exact h.aligned _ newest hlast

theorem Spans.gap_newest (hlen : b.length ≤ 32767) :
    gap 32768 oldest.sequenceNumber.toNat newest.sequenceNumber.toNat = b.length - 1 := by
  rw [← toNat_sub_uint16, h.newest_sequenceNumber]
  exact toNat_add_sub_ofNat _ (by omega)

theorem Spans.suffix (hsuffix : c <:+ b) (hne : c ≠ [])
    (hblank : c.head? ≠ some none) : ∃ oldest', Spans c oldest' newest := by
  obtain ⟨front, rfl⟩ := hsuffix
  cases c with
  | nil => exact absurd rfl hne
  | cons slot rest =>
    cases slot with
    | none => exact absurd rfl hblank
    | some oldest' =>
      obtain ⟨-, haligned⟩ := aligned_append.mp h.aligned
      refine ⟨oldest', rfl, ?_, ?_⟩
      · have hlast := h.last
        rwa [List.getLast?_append_of_ne_nil _ hne] at hlast
      · rw [haligned 0 oldest' rfl]
        simpa using haligned

theorem Spans.get_eq (hlen : b.length ≤ 32767) (seq : UInt16) :
    get b seq = .ok b[(seq - oldest.sequenceNumber).toNat]?.join := by
  have hidx := toNat_sub_uint16 oldest.sequenceNumber seq
  have hseq := seq.toNat_lt
  have hold := oldest.sequenceNumber.toNat_lt
  rw [get, h.getOldest]
  dsimp only
  by_cases hlower : seqLowerThan seq oldest.sequenceNumber
  · -- the index would be at least half a circle
    rw [if_pos hlower, List.getElem?_eq_none]
    · rfl
    · rw [seqLowerThan_iff] at hlower
      unfold Lower at hlower
      unfold gap at hidx
      split_ifs at hidx <;> omega
  · rw [if_neg hlower]
    have hpos := length_pos_of_ne_nil h.ne_nil
    by_cases hbeyond : ofNat (b.length - 1) < seq - oldest.sequenceNumber
    · rw [if_pos hbeyond, List.getElem?_eq_none]
      · rfl
      · rw [lt_iff_toNat_lt, toNat_ofNat_of_lt (by omega)] at hbeyond
        omega
    · have hlt : (seq - oldest.sequenceNumber).toNat < b.length := by
        rw [lt_iff_toNat_lt, toNat_ofNat_of_lt (by omega)] at hbeyond
        omega
      rw [if_neg hbeyond, List.getElem?_eq_getElem hlt]
      rfl

theorem Spans.slot_iff (hlen : b.length ≤ 32767) (seq : UInt16)
    (item : Item π) : b[(seq - oldest.sequenceNumber).toNat]?.join = some item ↔
      some item ∈ b ∧ item.sequenceNumber = seq := by
  constructor
  · intro hslot
    have hat := Option.join_eq_some_iff.mp hslot
    refine ⟨mem_of_getElem? hat, ?_⟩
    rw [h.aligned _ item hat, UInt16.ofNat_toNat, UInt16.add_comm, UInt16.sub_add_cancel]
  · rintro ⟨hmem, rfl⟩
    obtain ⟨k, hk⟩ := mem_iff_getElem?.mp hmem
    have hlt : k < b.length := (List.getElem?_eq_some_iff.mp hk).1
    rw [h.aligned k item hk, toNat_add_sub_ofNat _ (by omega), hk]
    rfl

end

/-! ### Removals -/

theorem exists_head (hne : b ≠ []) (hblank : b.head? ≠ some none) :
    ∃ oldest, b.head? = some (some oldest) := by
  match b, hne, hblank with
  | some oldest :: _, _, _ => exact ⟨oldest, rfl⟩
  | none :: _, _, hblank => exact absurd rfl hblank

theorem head_dropWhile_isNone : (b.dropWhile Option.isNone).head? ≠ some none := by
  intro h
  have hnot := List.head?_dropWhile_not Option.isNone b
  rw [h] at hnot
  cases hnot

theorem removeOldest_spec (hhead : b.head? = some (some oldest)) :
    ∃ c, removeOldest b = .ok c ∧ c <:+ b ∧ c.length < b.length ∧ c.head? ≠ some none ∧
      (b.getLast? = some (some newest) → 1 < b.length → c ≠ []) := by
  cases b with
  | nil => cases hhead
  | cons slot rest =>
    obtain rfl : slot = some oldest := Option.some.inj hhead
    refine ⟨rest.dropWhile Option.isNone, rfl, ?_, ?_, head_dropWhile_isNone, ?_⟩
    · exact (dropWhile_suffix _).trans (suffix_cons _ _)
    · have := (dropWhile_suffix (l := rest) Option.isNone).length_le
      rw [length_cons]
      omega
    · intro hlast hlen hnil
      have hne : rest ≠ [] := by
        rintro rfl
        simp at hlen
      rw [List.getLast?_cons_of_ne_nil hne] at hlast
      have hblank := dropWhile_eq_nil_iff.mp hnil _ (mem_of_getLast? hlast)
      cases hblank

theorem removeDownTo_spec {intended rounds : ℕ} (hrounds : b.length ≤ rounds) (hpos : 0 < intended)
    (hne : b ≠ []) (hblank : b.head? ≠ some none) (hlast : b.getLast? = some (some newest)) :
    ∃ c, removeDownTo intended rounds b = .ok c ∧ c <:+ b ∧ c ≠ [] ∧ c.head? ≠ some none ∧
      c.length ≤ intended := by
  induction rounds generalizing b with
  | zero => exact absurd (eq_nil_of_length_eq_zero (Nat.le_zero.mp hrounds)) hne
  | succ rounds ih =>
    rw [removeDownTo]
    by_cases hlt : intended < b.length
    · obtain ⟨oldest, hhead⟩ := exists_head hne hblank
      obtain ⟨c, hc, hsuffix, hshort, hblank', hne'⟩ := @removeOldest_spec _ b oldest newest hhead
      have hcne := hne' hlast (by omega)
      have hclast : c.getLast? = some (some newest) := by
        obtain ⟨front, rfl⟩ := hsuffix
        rwa [List.getLast?_append_of_ne_nil _ hcne] at hlast
      obtain ⟨d, hd, hdsuffix, hrest⟩ := ih (by omega) hcne hblank' hclast
      refine ⟨d, ?_, hdsuffix.trans hsuffix, hrest⟩
      rw [if_pos hlt, hc]
      exact hd
    · exact ⟨b, by rw [if_neg hlt], suffix_rfl, hne, hblank, by omega⟩

/-- What is left after the removal of the items that are too old. -/
structure Cleared (cfg : Config) (newestTimestamp : UInt32) (b c : Slots π) : Prop where
  suffix : c <:+ b
  no_blank : c.head? ≠ some none
  fresh : ∀ oldest, c.head? = some (some oldest) →
    isTooOldTimestamp cfg oldest.timestamp newestTimestamp = false

theorem clearTooOld_spec {timestamp : UInt32} {rounds : ℕ} (removed : Bool)
    (hrounds : b.length ≤ rounds) (hblank : b.head? ≠ some none) :
    ∃ c removed', clearTooOld cfg timestamp rounds b removed = .ok (c, removed') ∧
      Cleared cfg timestamp b c ∧ (removed' = false → removed = false ∧ c = b) := by
  induction rounds generalizing b removed with
  | zero =>
    obtain rfl := eq_nil_of_length_eq_zero (Nat.le_zero.mp hrounds)
    exact ⟨[], removed, rfl, ⟨suffix_rfl, hblank, fun _ h => (by cases h)⟩,
        fun h => ⟨h, rfl⟩⟩
  | succ rounds ih =>
    by_cases hne : b = []
    · subst hne
      exact ⟨[], removed, rfl, ⟨suffix_rfl, hblank, fun _ h => (by cases h)⟩,
        fun h => ⟨h, rfl⟩⟩
    · obtain ⟨oldest, hhead⟩ := exists_head hne hblank
      have holdest : getOldest b = some oldest := by
        rw [getOldest, hhead]
        rfl
      rw [clearTooOld, holdest]
      dsimp only
      -- the loop stops at the first item that is young enough
      by_cases hold : isTooOldTimestamp cfg oldest.timestamp timestamp
      · obtain ⟨c, hc, hsuffix, hshort, hblank', -⟩ := @removeOldest_spec _ b oldest oldest hhead
        obtain ⟨d, removed', hd, hcleared, hsame⟩ := ih true (by omega) hblank'
        refine ⟨d, removed', ?_, ⟨hcleared.suffix.trans hsuffix, hcleared.no_blank,
          hcleared.fresh⟩, ?_⟩
        · rw [if_pos hold, hc]
          exact hd
        · intro hnot
          exact absurd (hsame hnot).1 (by decide)
      · refine ⟨b, removed, by rw [if_neg hold], ⟨suffix_rfl, hblank, ?_⟩,
          fun h => ⟨h, rfl⟩⟩
        intro oldest' hhead'
        rw [hhead] at hhead'
        cases hhead'
        simpa using hold

/-! ### What `Insert` does -/

/-- The buffer after the `Insert` of an item into one with the given newest item, and
whether the item is stored. -/
inductive Inserted (cfg : Config) (b : Slots π) (newest item : Item π) : Slots π → Bool → Prop
  | alone : Inserted cfg b newest item [some item] true
  | discarded {c : Slots π} (hc : Cleared cfg (newestTimestamp item newest) b c) (hne : c ≠ []) :
      Inserted cfg b newest item c false
  | newest {c d : Slots π} (hc : Cleared cfg (newestTimestamp item newest) b c) (hd : d <:+ c)
      (hne : d ≠ []) (hblank : d.head? ≠ some none)
      (hseq : seqHigherThan item.sequenceNumber newest.sequenceNumber)
      (htimestamp : ¬timestampLowerThan item.timestamp newest.timestamp)
      (hlen : d.length + (item.sequenceNumber - newest.sequenceNumber - 1).toNat + 1 ≤
        cfg.maxItems.toNat) :
      Inserted cfg b newest item (d ++ List.replicate
        (item.sequenceNumber - newest.sequenceNumber - 1).toNat none ++ [some item]) true
  | oldest {c : Slots π} {oldest : Item π} (hc : Cleared cfg (newestTimestamp item newest) b c)
      (holdest : c.head? = some (some oldest))
      (hseq : seqLowerThan item.sequenceNumber oldest.sequenceNumber)
      (hhigher : ¬seqHigherThan item.sequenceNumber newest.sequenceNumber)
      (hreset : ¬(seqLowerThan item.sequenceNumber newest.sequenceNumber ∧
        timestampHigherThan item.timestamp newest.timestamp))
      (hfresh : isTooOldTimestamp cfg item.timestamp newest.timestamp = false)
      (htimestamp : ¬timestampHigherThan item.timestamp oldest.timestamp)
      (hlen : c.length + (oldest.sequenceNumber - item.sequenceNumber - 1).toNat + 1 ≤
        cfg.maxItems.toNat) :
      Inserted cfg b newest item (some item :: List.replicate
        (oldest.sequenceNumber - item.sequenceNumber - 1).toNat none ++ c) true
  | between {l r : Slots π} {oldest : Item π}
      (hc : Cleared cfg (newestTimestamp item newest) b (l ++ none :: r))
      (holdest : l.head? = some (some oldest)) (hr : r ≠ [])
      (hseq : item.sequenceNumber = oldest.sequenceNumber + ofNat l.length)
      (holder : ∀ older ∈ l.reduceOption.getLast?, older.timestamp ≤ item.timestamp)
      (hnewer : ∀ newer ∈ r.reduceOption.head?, item.timestamp ≤ newer.timestamp) :
      Inserted cfg b newest item (l ++ some item :: r) true

theorem fitsOlder_append {l : Slots π} {timestamp : UInt32} :
    ∃ fits, fitsOlder (l ++ c) timestamp l.length = .ok fits ∧
      (fits ↔ ∀ older ∈ l.reduceOption.getLast?, older.timestamp ≤ timestamp) := by
  induction l using List.reverseRecOn generalizing c with
  | nil => exact ⟨true, rfl, by simp⟩
  | append_singleton l slot ih =>
    have hat : (l ++ [slot] ++ c)[l.length]? = some slot := by
      rw [append_assoc, List.getElem?_append_right le_rfl, Nat.sub_self]
      rfl
    rw [length_append, length_singleton, fitsOlder, hat]
    cases slot with
    | none =>
      obtain ⟨fits, hfits, hiff⟩ := @ih ([none] ++ c)
      refine ⟨fits, ?_, ?_⟩
      · rw [append_assoc]
        exact hfits
      · rw [reduceOption_append, hiff]
        simp
    | some older =>
      refine ⟨_, rfl, ?_⟩
      rw [reduceOption_append]
      simp

theorem fitsNewer_iff {timestamp : UInt32} : fitsNewer timestamp b ↔
    ∀ newer ∈ b.reduceOption.head?, timestamp ≤ newer.timestamp := by
  induction b with
  | nil => simp [fitsNewer]
  | cons slot b ih =>
    cases slot with
    | none => simpa [fitsNewer] using ih
    | some newer => simp [fitsNewer]

/-- A placement is discarded, or leads to what `Insert` may do. -/
def Placed (cfg : Config) (b : Slots π) (newest item : Item π) :
    Except Abort (Option (Slots π)) → Prop
  | .error _ => False
  | .ok none => True
  | .ok (some b') => b'.length ≤ cfg.maxItems.toNat ∧ Inserted cfg b newest item b' true

theorem placed_alone : Placed cfg b newest item (.ok (some [some item])) := by
  have hpos := UInt16.lt_iff_toNat_lt.mp cfg.maxItems_pos
  rw [UInt16.toNat_zero] at hpos
  exact ⟨Nat.succ_le_of_lt hpos, .alone⟩

theorem toNat_blank_lt {a b : UInt16} (h : Lower 32768 a.toNat b.toNat) :
    (b - a - 1).toNat + 1 = gap 32768 a.toNat b.toNat ∧ (b - a - 1).toNat < 32768 := by
  have ha := a.toNat_lt
  have hb := b.toNat_lt
  have hgap := toNat_sub_uint16 a b
  have hlt := (b - a).toNat_lt
  have hone : (1 : UInt16).toNat = 1 := rfl
  have hle := (lower_iff_gap (by omega)).mp h
  rw [UInt16.toNat_sub, hone]
  omega

theorem exists_split {k : ℕ} {slot : Option (Item π)} (h : (c)[k]? = some slot) :
    ∃ l r, c = l ++ slot :: r ∧ l.length = k := by
  obtain ⟨hlt, heq⟩ := List.getElem?_eq_some_iff.mp h
  refine ⟨c.take k, c.drop (k + 1), ?_, ?_⟩
  · rw [← heq, ← drop_eq_getElem_cons hlt, take_append_drop]
  · rw [length_take, Nat.min_eq_left hlt.le]

theorem fillSlot_spec {l r : Slots π} : fillSlot (l ++ none :: r) l.length item = .ok none ∨
    (∀ older ∈ l.reduceOption.getLast?, older.timestamp ≤ item.timestamp) ∧
      (∀ newer ∈ r.reduceOption.head?, item.timestamp ≤ newer.timestamp) ∧
      fillSlot (l ++ none :: r) l.length item = .ok (some (l ++ some item :: r)) := by
  obtain ⟨fits, hfits, holder⟩ := @fitsOlder_append _ (none :: r) l item.timestamp
  have hdrop : (l ++ none :: r).drop (l.length + 1) = r := by
    rw [drop_append, Nat.add_sub_cancel_left, drop_of_length_le (by omega)]
    rfl
  have hset : (l ++ none :: r).set l.length (some item) = l ++ some item :: r := by
    rw [set_append_right _ _ le_rfl, Nat.sub_self, set_cons_zero]
  have hlt : l.length < (l ++ none :: r).length := by
    rw [length_append, length_cons]
    omega
  rw [fillSlot, hfits, hdrop, hset, if_pos hlt]
  cases fits with
  | false => exact .inl rfl
  | true =>
    by_cases hnewer : fitsNewer item.timestamp r
    · right
      refine ⟨holder.mp rfl, fitsNewer_iff.mp hnewer, ?_⟩
      rw [if_pos hnewer]
      rfl
    · left
      rw [if_neg hnewer]
      rfl

section

variable (h : Spans c oldest newest)
include h

theorem insertNewest_placed
    (hc : Cleared cfg (newestTimestamp item newest) b c) (hmax : cfg.maxItems.toNat ≤ 32767)
    (hlen : c.length ≤ cfg.maxItems.toNat)
    (hseq : seqHigherThan item.sequenceNumber newest.sequenceNumber) :
    Placed cfg b newest item (insertNewest cfg c newest item) := by
  obtain ⟨-, hblanks⟩ := toNat_blank_lt (seqHigherThan_iff.mp hseq)
  have hpos := length_pos_of_ne_nil h.ne_nil
  rw [insertNewest]
  by_cases htimestamp : timestampLowerThan item.timestamp newest.timestamp
  · rw [if_pos htimestamp]
    trivial
  rw [if_neg htimestamp]
  dsimp only
  -- the numbers between the two become blank slots
  set blanks := (item.sequenceNumber - newest.sequenceNumber - 1).toNat with hblanks_def
  by_cases hfull : cfg.maxItems.toNat < c.length + blanks + 1
  · rw [if_pos hfull]
    have hremove : (ofNat (c.length + blanks + 1 - cfg.maxItems.toNat)).toNat =
        c.length + blanks + 1 - cfg.maxItems.toNat := toNat_ofNat_of_lt (by omega)
    rw [hremove]
    by_cases hall : c.length - 1 < c.length + blanks + 1 - cfg.maxItems.toNat
    · rw [if_pos hall]
      exact placed_alone
    obtain ⟨d, hd, hsuffix, hne, hblank, hshort⟩ := @removeDownTo_spec _ c newest
      (c.length - (c.length + blanks + 1 - cfg.maxItems.toNat)) c.length le_rfl (by omega)
      h.ne_nil hc.no_blank h.last
    rw [if_neg hall, removeOldestItems, hremove, if_pos (by omega), hd]
    refine ⟨?_, .newest hc hsuffix hne hblank hseq htimestamp (by omega)⟩
    simp only [length_append, length_replicate, length_singleton]
    omega
  · rw [if_neg hfull]
    refine ⟨?_, .newest hc suffix_rfl h.ne_nil hc.no_blank hseq htimestamp (by omega)⟩
    simp only [length_append, length_replicate, length_singleton]
    omega

theorem insertOldest_placed (hc : Cleared cfg (newestTimestamp item newest) b c)
    (hseq : seqLowerThan item.sequenceNumber oldest.sequenceNumber)
    (hhigher : ¬seqHigherThan item.sequenceNumber newest.sequenceNumber)
    (hreset : ¬(seqLowerThan item.sequenceNumber newest.sequenceNumber ∧
      timestampHigherThan item.timestamp newest.timestamp)) :
    Placed cfg b newest item (.ok (insertOldest cfg c oldest newest item)) := by
  rw [insertOldest]
  by_cases hold : isTooOldTimestamp cfg item.timestamp newest.timestamp
  · rw [if_pos hold]
    trivial
  by_cases htimestamp : timestampHigherThan item.timestamp oldest.timestamp
  · rw [if_neg hold, if_pos htimestamp]
    trivial
  rw [if_neg hold, if_neg htimestamp]
  dsimp only
  split_ifs with hfull
  · trivial
  refine ⟨?_, .oldest hc h.head hseq hhigher hreset (by simpa using hold) htimestamp
    (by omega)⟩
  simp only [length_append, length_replicate, length_cons]
  omega

theorem Spans.index_lt (hlen : c.length ≤ 32767)
    (hhigher : ¬seqHigherThan seq newest.sequenceNumber)
    (hlower : ¬seqLowerThan seq oldest.sequenceNumber) :
    (seq - oldest.sequenceNumber).toNat < c.length := by
  have hpos := length_pos_of_ne_nil h.ne_nil
  have hspan := h.gap_newest hlen
  have hseq := seq.toNat_lt
  have hold := oldest.sequenceNumber.toNat_lt
  have hnew := newest.sequenceNumber.toNat_lt
  rw [seqHigherThan_iff] at hhigher
  rw [seqLowerThan_iff] at hlower
  rw [toNat_sub_uint16]
  unfold Lower at hhigher hlower
  unfold gap at hspan ⊢
  split_ifs at hspan ⊢ <;> omega

theorem insertBetween_placed
    (hc : Cleared cfg (newestTimestamp item newest) b c) (hmax : cfg.maxItems.toNat ≤ 32767)
    (hlen : c.length ≤ cfg.maxItems.toNat)
    (hhigher : ¬seqHigherThan item.sequenceNumber newest.sequenceNumber)
    (hlower : ¬seqLowerThan item.sequenceNumber oldest.sequenceNumber) :
    Placed cfg b newest item (insertBetween c oldest item) := by
  have hlt := h.index_lt (by omega) hhigher hlower
  obtain ⟨slot, hslot⟩ : ∃ slot, (c)[(item.sequenceNumber - oldest.sequenceNumber).toNat]? =
      some slot := ⟨_, List.getElem?_eq_getElem hlt⟩
  rw [insertBetween, h.get_eq (by omega), hslot]
  cases slot with
  | some _ => trivial
  | none =>
    obtain ⟨l, r, rfl, hl⟩ := exists_split hslot
    rw [← hl]
    change Placed cfg b newest item (fillSlot (l ++ none :: r) l.length item)
    rcases @fillSlot_spec _ item l r with heq | ⟨holder, hnewer, heq⟩
    · rw [heq]
      trivial
    -- the slots at both ends are not blank
    have hhead : l.head? = some (some oldest) := by
      have hhead := h.head
      cases l with
      | nil => cases hhead
      | cons _ _ => exact hhead
    have hr : r ≠ [] := by
      rintro rfl
      have hlast := h.last
      rw [List.getLast?_concat] at hlast
      cases hlast
    have hseq : item.sequenceNumber = oldest.sequenceNumber + ofNat l.length := by
      rw [hl, UInt16.ofNat_toNat, UInt16.add_comm, UInt16.sub_add_cancel]
    rw [heq]
    refine ⟨?_, .between hc hhead hr hseq holder hnewer⟩
    rw [length_append, length_cons] at hlen ⊢
    exact hlen

theorem place_placed
    (hc : Cleared cfg (newestTimestamp item newest) b c) (hmax : cfg.maxItems.toNat ≤ 32767)
    (hlen : c.length ≤ cfg.maxItems.toNat)
    (hreset : ¬(seqLowerThan item.sequenceNumber newest.sequenceNumber ∧
      timestampHigherThan item.timestamp newest.timestamp)) :
    Placed cfg b newest item (place cfg c item) := by
  rw [place, h.getOldest, h.getNewest]
  dsimp only
  split_ifs with hhigher hlower
  · exact insertNewest_placed h hc hmax hlen hhigher
  · exact insertOldest_placed h hc hlower hhigher hreset
  · exact insertBetween_placed h hc hmax hlen hhigher hlower

end

/-- **What `Insert` does** to a buffer that is in order. -/
theorem insertItem_inserted (h : Spans b oldest newest) (hmax : cfg.maxItems.toNat ≤ 32767)
    (hlen : b.length ≤ cfg.maxItems.toNat) (item : Item π) :
    ∃ b' stored, insertItem cfg b item = .ok (b', stored) ∧
      Inserted cfg b newest item b' stored := by
  rw [insertItem, if_neg h.ne_nil, h.getNewest]
  dsimp only
  by_cases hreset : seqLowerThan item.sequenceNumber newest.sequenceNumber &&
      timestampHigherThan item.timestamp newest.timestamp
  · rw [if_pos hreset]
    exact ⟨_, _, rfl, .alone⟩
  have hblank : b.head? ≠ some none := by
    rw [h.head]
    simp
  obtain ⟨c, removed, hclear, hc, hsame⟩ :=
    @clearTooOld_spec _ b cfg (newestTimestamp item newest) b.length false le_rfl hblank
  rw [if_neg hreset, clearTooOldByTimestamp, hclear]
  change ∃ b' stored, (if removed && c.isEmpty then _ else _) = _ ∧ _
  by_cases hempty : removed && c.isEmpty
  · rw [if_pos hempty]
    exact ⟨_, _, rfl, .alone⟩
  -- the buffer empties only by a removal, and that case is done
  have hne : c ≠ [] := by
    rintro rfl
    cases removed with
    | true => exact hempty rfl
    | false => exact h.ne_nil (hsame rfl).2.symm
  obtain ⟨oldest', hspans⟩ := h.suffix hc.suffix hne hc.no_blank
  have hplaced := place_placed hspans hc hmax (hc.suffix.length_le.trans hlen)
    (by simpa using hreset)
  rw [if_neg hempty]
  cases hplace : place cfg c item with
  | error reason =>
    rw [hplace] at hplaced
    exact hplaced.elim
  | ok result =>
    rw [hplace] at hplaced
    cases result with
    | none => exact ⟨c, false, rfl, .discarded hc hne⟩
    | some b' =>
      obtain ⟨hfits, hinserted⟩ := hplaced
      refine ⟨b', true, ?_, hinserted⟩
      change (if b'.length ≤ cfg.maxItems.toNat then _ else _) = _
      rw [if_pos hfits]

/-! ### The representation -/

theorem spans_singleton : Spans [some item] item item :=
  ⟨rfl, rfl, aligned_singleton.mpr rfl⟩

theorem Spans.push_newest (h : Spans b oldest newest) :
    Spans (b ++ List.replicate (item.sequenceNumber - newest.sequenceNumber - 1).toNat none ++
      [some item]) oldest item := by
  have hpos := length_pos_of_ne_nil h.ne_nil
  refine ⟨?_, List.getLast?_concat, ?_⟩
  · rw [append_assoc, List.head?_append_of_ne_nil _ h.ne_nil, h.head]
  · refine aligned_append.mpr ⟨aligned_append.mpr ⟨h.aligned, aligned_blank⟩,
      aligned_singleton.mpr ?_⟩
    have hnewest := h.newest_sequenceNumber
    obtain ⟨n, hn⟩ : ∃ n, b.length = n + 1 := ⟨b.length - 1, by omega⟩
    rw [hn, Nat.add_sub_cancel] at hnewest
    rw [length_append, length_replicate, hn, ofNat_add, ofNat_add,
      UInt16.ofNat_toNat, hnewest]
    grind

theorem Spans.push_oldest (h : Spans b oldest newest) :
    Spans (some item :: List.replicate (oldest.sequenceNumber - item.sequenceNumber - 1).toNat
      none ++ b) item newest := by
  refine ⟨rfl, ?_, ?_⟩
  · rw [List.getLast?_append_of_ne_nil _ h.ne_nil, h.last]
  · rw [← singleton_append]
    refine aligned_append.mpr ⟨aligned_append.mpr ⟨aligned_singleton.mpr rfl, aligned_blank⟩, ?_⟩
    have hoffset : item.sequenceNumber + ofNat ([some item] ++ List.replicate
        (oldest.sequenceNumber - item.sequenceNumber - 1).toNat none).length =
          oldest.sequenceNumber := by
      rw [length_append, length_replicate, UInt16.ofNat_add, UInt16.ofNat_toNat]
      change _ + (1 + _) = _
      grind
    rw [hoffset]
    exact h.aligned

theorem Spans.fill {l r : Slots π} (h : Spans (l ++ none :: r) oldest newest)
    (hl : l ≠ []) (hr : r ≠ [])
    (hseq : item.sequenceNumber = oldest.sequenceNumber + ofNat l.length) :
    Spans (l ++ some item :: r) oldest newest := by
  have hhead := h.head
  have hlast := h.last
  have haligned := h.aligned
  rw [← singleton_append, ← append_assoc] at haligned hlast ⊢
  obtain ⟨hfront, hback⟩ := aligned_append.mp haligned
  refine ⟨?_, ?_, aligned_append.mpr ⟨aligned_append.mpr ⟨(aligned_append.mp hfront).1,
    aligned_singleton.mpr hseq⟩, ?_⟩⟩
  · rw [append_assoc, List.head?_append_of_ne_nil _ hl]
    rwa [List.head?_append_of_ne_nil _ hl] at hhead
  · rw [List.getLast?_append_of_ne_nil _ hr] at hlast ⊢
    exact hlast
  · rw [length_append, length_singleton] at hback ⊢
    exact hback

theorem Inserted.spans (hi : Inserted cfg b newest item b' stored) (h : Spans b oldest newest)
    (hlen : b.length ≤ cfg.maxItems.toNat) :
    (∃ oldest newest, Spans b' oldest newest) ∧ b'.length ≤ cfg.maxItems.toNat := by
  cases hi with
  | alone =>
    have hpos := lt_iff_toNat_lt.mp cfg.maxItems_pos
    exact ⟨⟨item, item, spans_singleton⟩, Nat.succ_le_of_lt hpos⟩
  | discarded hc hne =>
    obtain ⟨oldest', h'⟩ := h.suffix hc.suffix hne hc.no_blank
    exact ⟨⟨oldest', newest, h'⟩, hc.suffix.length_le.trans hlen⟩
  | newest hc hd hne hblank _ _ hfits =>
    obtain ⟨oldest', h'⟩ := h.suffix (hd.trans hc.suffix) hne hblank
    refine ⟨⟨oldest', item, h'.push_newest⟩, ?_⟩
    simp only [length_append, length_replicate, length_singleton]
    exact hfits
  | @oldest c front hc hfront _ _ _ _ _ hfits =>
    have hne : c ≠ [] := by
      rintro rfl
      cases hfront
    obtain ⟨oldest', h'⟩ := h.suffix hc.suffix hne hc.no_blank
    obtain rfl : front = oldest' := by
      have := hfront.symm.trans h'.head
      simpa using this
    refine ⟨⟨item, newest, h'.push_oldest⟩, ?_⟩
    simp only [length_append, length_replicate, length_cons]
    omega
  | @between l r front hc hfront hr hseq _ _ =>
    have hl : l ≠ [] := by
      rintro rfl
      cases hfront
    obtain ⟨oldest', h'⟩ := h.suffix hc.suffix (by simp) hc.no_blank
    obtain rfl : front = oldest' := by
      have := h'.head
      rw [List.head?_append_of_ne_nil _ hl, hfront] at this
      simpa using this
    refine ⟨⟨front, newest, h'.fill hl hr hseq⟩, ?_⟩
    have := hc.suffix.length_le
    rw [length_append, length_cons] at this ⊢
    omega

/-- The buffer is empty, or it goes from its oldest to its newest item. -/
structure Represents (cfg : Config) (b : Slots π) : Prop where
  size : b.length ≤ cfg.maxItems.toNat
  ends : b = [] ∨ ∃ oldest newest, Spans b oldest newest

theorem represents_nil : Represents cfg ([] : Slots π) := ⟨Nat.zero_le _, .inl rfl⟩

theorem Inserted.mem (hi : Inserted cfg b newest item b' stored) {other : Item π}
    (h : some other ∈ b') : some other ∈ b ∨ stored = true ∧ other = item := by
  have hblank : ∀ n, some other ∉ (List.replicate n none : Slots π) := by
    intro n hmem
    cases eq_of_mem_replicate hmem
  cases hi with
  | alone => exact .inr ⟨rfl, by simpa using h⟩
  | discarded hc _ => exact .inl (hc.suffix.subset h)
  | newest hc hd _ _ _ _ _ =>
    rcases mem_append.mp h with hfront | hlast
    · rcases mem_append.mp hfront with hmem | hmem
      · exact .inl ((hd.trans hc.suffix).subset hmem)
      · exact absurd hmem (hblank _)
    · exact .inr ⟨rfl, by simpa using hlast⟩
  | oldest hc _ _ _ _ _ _ _ =>
    rcases mem_append.mp h with hfront | hmem
    · rcases mem_cons.mp hfront with heq | hmem
      · exact .inr ⟨rfl, Option.some.inj heq⟩
      · exact absurd hmem (hblank _)
    · exact .inl (hc.suffix.subset hmem)
  | between hc _ _ _ _ _ =>
    rcases mem_append.mp h with hmem | hback
    · exact .inl (hc.suffix.subset (mem_append_left _ hmem))
    · rcases mem_cons.mp hback with heq | hmem
      · exact .inr ⟨rfl, Option.some.inj heq⟩
      · exact .inl (hc.suffix.subset (mem_append_right _ (mem_cons_of_mem _ hmem)))

theorem insertItem_represents (h : Represents cfg b) (hmax : cfg.maxItems.toNat ≤ 32767)
    (item : Item π) : ∃ b' stored, insertItem cfg b item = .ok (b', stored) ∧ Represents cfg b' ∧
      ∀ other, some other ∈ b' → some other ∈ b ∨ stored = true ∧ other = item := by
  rcases h.ends with rfl | ⟨oldest, newest, hspans⟩
  · have hpos := lt_iff_toNat_lt.mp cfg.maxItems_pos
    refine ⟨_, _, rfl, ⟨Nat.succ_le_of_lt hpos, .inr ⟨item, item, spans_singleton⟩⟩, ?_⟩
    intro other hmem
    exact .inr ⟨rfl, by simpa using hmem⟩
  · obtain ⟨b', stored, heq, hi⟩ := insertItem_inserted hspans hmax h.size item
    obtain ⟨hends, hsize⟩ := hi.spans hspans h.size
    exact ⟨b', stored, heq, ⟨hsize, .inr hends⟩, fun _ hmem => hi.mem hmem⟩

inductive Event (π : Type) where
  | insert (packet : Packet π) (sharedPacket : Option (Packet π))
  | clear

def step (cfg : Config) (b : Slots π) : Event π → Except Abort (Slots π)
  | .insert packet sharedPacket => do
    let (b, _) ← insert cfg b packet sharedPacket
    .ok b
  | .clear => .ok []

theorem step_insert {packet : Packet π} {sharedPacket : Option (Packet π)}
    (h : insertItem cfg b (fillItem packet sharedPacket) = .ok (b', stored)) :
    step cfg b (.insert packet sharedPacket) = .ok b' := by
  rw [step, insert]
  dsimp only
  rw [h]
  rfl

theorem step_represents (hmax : cfg.maxItems.toNat ≤ 32767) (h : Represents cfg b)
    (e : Event π) : ∃ b', step cfg b e = .ok b' ∧ Represents cfg b' := by
  cases e with
  | insert packet sharedPacket =>
    obtain ⟨b', stored, heq, h', -⟩ := insertItem_represents h hmax (fillItem packet sharedPacket)
    exact ⟨b', step_insert heq, h'⟩
  | clear => exact ⟨[], rfl, represents_nil⟩

theorem Represents.get (h : Represents cfg b) (hmax : cfg.maxItems.toNat ≤ 32767)
    (seq : UInt16) : ∃ found, get b seq = .ok found ∧
      ∀ item, found = some item ↔ some item ∈ b ∧ item.sequenceNumber = seq := by
  rcases h.ends with rfl | ⟨oldest, newest, hspans⟩
  · exact ⟨none, rfl, by simp⟩
  · have hlen := h.size.trans hmax
    exact ⟨_, hspans.get_eq hlen seq, hspans.slot_iff hlen seq⟩

/-- **The representation.**  No run of `Insert` and `Clear` aborts, the slots are where they
should be, and `Get` returns what is stored. -/
theorem run_represents (cfg : Config) (hmax : cfg.maxItems ≤ 32767) (events : List (Event π)) :
    ∃ b, Runs.run (step cfg) [] events = .ok b ∧ Represents cfg b ∧
      ∀ seq, ∃ found, get b seq = .ok found ∧
        ∀ item, found = some item ↔ some item ∈ b ∧ item.sequenceNumber = seq := by
  have hmax' : cfg.maxItems.toNat ≤ 32767 := le_iff_toNat_le.mp hmax
  have hstep : ∀ (b : Slots π) (e : Event π), Represents cfg b →
      Runs.Meets (fun _ => True) (Represents cfg) (step cfg b e) := by
    intro b e h
    obtain ⟨b', heq, h'⟩ := step_represents hmax' h e
    rw [heq]
    exact h'
  obtain ⟨b, hrun, h⟩ := (Runs.run_meets hstep events [] represents_nil).exists_ok
  exact ⟨b, hrun, h, h.get hmax'⟩

/-- The buffer of a video stream. -/
def video : Config := ⟨2500, 2000, 90000, by decide, by decide⟩

/-- A loss, a late packet, one before the oldest, and a jump that empties the buffer. -/
theorem run_represents_video :
    ∃ b, Runs.run (step video) [] [.insert ⟨1, 65535, 0, ()⟩ none, .insert ⟨1, 3, 3000, ()⟩ none,
        .insert ⟨1, 1, 1500, ()⟩ none, .insert ⟨1, 65530, 0, ()⟩ none,
        .insert ⟨1, 30000, 3000, ()⟩ none] = .ok b ∧ Represents video b ∧
      ∀ seq, ∃ found, get b seq = .ok found ∧
        ∀ item, found = some item ↔ some item ∈ b ∧ item.sequenceNumber = seq :=
  run_represents video (by decide) _

end RetransmissionBuffer

end Mediasoup
