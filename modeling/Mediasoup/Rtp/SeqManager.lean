/-
The sequence number manager (`RTC/SeqManager`).

It renumbers a sequence of circular numbers so that the dropped ones leave no gap.  The
dropped numbers are in a `std::set` that is ordered by the circular comparison.

* `SeqWidth` — the number of bits of an instance of the template;
* `sync`, `drop`, `input` — the operations;
* `isSeqLowerThan_iff` — the comparison is the one of circular numbers.
-/
import Mathlib.Algebra.Group.Nat.Defs
import Mediasoup.Lib.Circular

open Circular

namespace Mediasoup

/-- The bits `N`, or the bits of `T`; the template has instances with 3, 8, 15, 16 and 32. -/
structure SeqWidth where
  bits : ℕ
  two_le_bits : 2 ≤ bits

namespace SeqWidth

variable (w : SeqWidth)

def maxValue : ℕ := 2 ^ w.bits - 1

def half : ℕ := 2 ^ (w.bits - 1)

/-- `x & MaxValue`. -/
def mask (x : ℕ) : ℕ := x % (w.maxValue + 1)

/-- `(x - y) & MaxValue`. -/
def sub (x y : ℕ) : ℕ := w.mask (x + (w.maxValue + 1 - w.mask y))

def isSeqLowerThan (lhs rhs : ℕ) : Bool :=
  (lhs < rhs && rhs - lhs ≤ w.maxValue / 2) || (rhs < lhs && w.maxValue / 2 < lhs - rhs)

def isSeqHigherThan (lhs rhs : ℕ) : Bool :=
  (rhs < lhs && lhs - rhs ≤ w.maxValue / 2) || (lhs < rhs && w.maxValue / 2 < rhs - lhs)

theorem maxValue_add_one : w.maxValue + 1 = 2 * w.half := by
  have hpow : 2 ^ w.bits = 2 * w.half := by
    have := w.two_le_bits
    rw [half, ← Nat.pow_succ', Nat.succ_eq_add_one, Nat.sub_add_cancel (by omega)]
  have hpos := Nat.two_pow_pos w.bits
  unfold maxValue
  omega

theorem two_le_half : 2 ≤ w.half := by
  have := w.two_le_bits
  calc 2 = 2 ^ 1 := rfl
    _ ≤ w.half := Nat.pow_le_pow_right (by omega) (by omega)

theorem maxValue_div_two : w.maxValue / 2 = w.half - 1 := by
  have := w.maxValue_add_one
  omega

theorem isSeqLowerThan_iff {lhs rhs : ℕ} : w.isSeqLowerThan lhs rhs ↔ Lower w.half lhs rhs := by
  have := w.two_le_half
  simp only [isSeqLowerThan, Lower, maxValue_div_two, Bool.or_eq_true, Bool.and_eq_true,
    decide_eq_true_eq]
  omega

theorem isSeqHigherThan_iff {lhs rhs : ℕ} : w.isSeqHigherThan lhs rhs ↔ Lower w.half rhs lhs := by
  have := w.two_le_half
  simp only [isSeqHigherThan, Lower, maxValue_div_two, Bool.or_eq_true, Bool.and_eq_true,
    decide_eq_true_eq]
  omega

theorem mask_eq (x : ℕ) : w.mask x = x % (2 * w.half) := by
  rw [mask, maxValue_add_one]

theorem mask_lt (x : ℕ) : w.mask x < 2 * w.half := by
  have := w.two_le_half
  rw [mask_eq]
  exact Nat.mod_lt _ (by omega)

def uint16 : SeqWidth := ⟨16, by decide⟩

def uint32 : SeqWidth := ⟨32, by decide⟩

end SeqWidth

/-! ### The comparisons of sequence numbers and timestamps -/

/-- `SeqManager<uint16_t>::IsSeqLowerThan`. -/
def seqLowerThan (lhs rhs : UInt16) : Bool := SeqWidth.uint16.isSeqLowerThan lhs.toNat rhs.toNat

def seqHigherThan (lhs rhs : UInt16) : Bool := SeqWidth.uint16.isSeqHigherThan lhs.toNat rhs.toNat

/-- `SeqManager<uint32_t>::IsSeqLowerThan`. -/
def timestampLowerThan (lhs rhs : UInt32) : Bool :=
  SeqWidth.uint32.isSeqLowerThan lhs.toNat rhs.toNat

def timestampHigherThan (lhs rhs : UInt32) : Bool :=
  SeqWidth.uint32.isSeqHigherThan lhs.toNat rhs.toNat

theorem seqLowerThan_iff {lhs rhs : UInt16} :
    seqLowerThan lhs rhs ↔ Lower 32768 lhs.toNat rhs.toNat := SeqWidth.uint16.isSeqLowerThan_iff

theorem seqHigherThan_iff {lhs rhs : UInt16} :
    seqHigherThan lhs rhs ↔ Lower 32768 rhs.toNat lhs.toNat := SeqWidth.uint16.isSeqHigherThan_iff

theorem timestampLowerThan_iff {lhs rhs : UInt32} :
    timestampLowerThan lhs rhs ↔ Lower 2147483648 lhs.toNat rhs.toNat :=
  SeqWidth.uint32.isSeqLowerThan_iff

theorem timestampHigherThan_iff {lhs rhs : UInt32} :
    timestampHigherThan lhs rhs ↔ Lower 2147483648 rhs.toNat lhs.toNat :=
  SeqWidth.uint32.isSeqHigherThan_iff

theorem toNat_sub_uint16 (a b : UInt16) : (b - a).toNat = gap 32768 a.toNat b.toNat := by
  have ha := a.toNat_lt
  have hb := b.toNat_lt
  rw [UInt16.toNat_sub]
  unfold gap
  split_ifs <;> omega

theorem toNat_sub_uint32 (a b : UInt32) : (b - a).toNat = gap 2147483648 a.toNat b.toNat := by
  have ha := a.toNat_lt
  have hb := b.toNat_lt
  rw [UInt32.toNat_sub]
  unfold gap
  split_ifs <;> omega

/-! ### The set of the dropped numbers -/

/-- `std::set::insert`. -/
def setInsert (lower : ℕ → ℕ → Bool) (x : ℕ) (set : List ℕ) : List ℕ :=
  if set.any fun y => !lower x y && !lower y x then set
  else set.takeWhile (lower · x) ++ x :: set.dropWhile (lower · x)

/-- `std::set::insert` with the end as a hint. -/
def setInsertEnd (lower : ℕ → ℕ → Bool) (x : ℕ) (set : List ℕ) : List ℕ :=
  match set.getLast? with
  | none => [x]
  | some last => if lower last x then set ++ [x] else setInsert lower x set

theorem setInsertEnd_of_last {lower : ℕ → ℕ → Bool} {x : ℕ} {set : List ℕ}
    (h : ∀ last ∈ set.getLast?, lower last x) : setInsertEnd lower x set = set ++ [x] := by
  rw [setInsertEnd]
  cases hlast : set.getLast? with
  | none =>
    rw [List.getLast?_eq_none_iff.mp hlast]
    rfl
  | some last =>
    dsimp only
    rw [if_pos (h last hlast)]

/-- The distance from `begin()` to `lower_bound(x)`. -/
def lowerBound (lower : ℕ → ℕ → Bool) (x : ℕ) (set : List ℕ) : ℕ :=
  (set.takeWhile (lower · x)).length

/-- Whether `find(x)` is not `end()`. -/
def setContains (lower : ℕ → ℕ → Bool) (x : ℕ) (set : List ℕ) : Bool :=
  match set.dropWhile (lower · x) with
  | [] => false
  | y :: _ => !lower x y

structure SeqManager where
  started : Bool
  base : ℕ
  maxOutput : ℕ
  maxInput : ℕ
  dropped : List ℕ

namespace SeqManager

def new : SeqManager := ⟨false, 0, 0, 0, []⟩

variable (w : SeqWidth)

def sync (m : SeqManager) (input : ℕ) : SeqManager :=
  { m with
    base := w.sub m.maxOutput input
    maxInput := input
    dropped := [] }

/-- Delete dropped inputs greater than `maxInput`, which belong to a previous cycle. -/
def clearDropped (m : SeqManager) : SeqManager :=
  let dropped := m.dropped.dropWhile (w.isSeqHigherThan · m.maxInput)
  { m with
    base := w.sub m.base (m.dropped.length - dropped.length)
    dropped := dropped }

def drop (m : SeqManager) (input : ℕ) : SeqManager :=
  -- marked as dropped if it is higher than any one already processed
  if w.isSeqHigherThan input m.maxInput then
    clearDropped w { m with
      maxInput := input
      dropped := setInsertEnd w.isSeqLowerThan input m.dropped }
  else m

/-- The end of `Input`, after the label `done`. -/
def accept (m : SeqManager) (input base : ℕ) : SeqManager × Option ℕ :=
  let output := w.mask (input + base)
  if !m.started then
    ({ m with started := true, maxInput := input, maxOutput := output }, some output)
  else
    ({ m with
      maxInput := if w.isSeqHigherThan input m.maxInput then input else m.maxInput
      maxOutput := if w.isSeqHigherThan output m.maxOutput then output else m.maxOutput },
      some output)

/-- `Input`, with its output if it is accepted. -/
def input (m : SeqManager) (input : ℕ) : SeqManager × Option ℕ :=
  if m.dropped = [] then m.accept w input m.base
  else
    let m := { m with
      maxInput := if m.started && w.isSeqHigherThan input m.maxInput then input else m.maxInput }
    let m := m.clearDropped w
    if m.dropped = [] then m.accept w input m.base
    else if setContains w.isSeqLowerThan input m.dropped then (m, none)
    else
      m.accept w input (w.sub m.base (lowerBound w.isSeqLowerThan input m.dropped))

inductive Call where
  | sync (x : ℕ)
  | drop (x : ℕ)
  | input (x : ℕ)

/-- One call, with the output of an accepted `Input`. -/
def call (m : SeqManager) : Call → SeqManager × Option ℕ
  | .sync x => (m.sync w x, none)
  | .drop x => (m.drop w x, none)
  | .input x => m.input w x

/-- The manager after some calls. -/
def run (m : SeqManager) : List Call → SeqManager
  | [] => m
  | c :: calls => run (m.call w c).1 calls

end SeqManager

end Mediasoup
