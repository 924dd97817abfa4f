/-
The renumbering that a sequence number manager does over a run.

A position `p` of a run stands for the number `s + p`, reduced to the width of the
manager.  The set of the dropped numbers is the image of a list of positions, and the
circular comparison is the order of the positions as long as they are less than half a
circle apart.

* `clearDropped_of_positions` — what the cleanup leaves of the dropped positions;
* `Accepts` — what an accepted input does to the manager;
* `consecutive` — the runs over consecutive numbers.
-/
import Mathlib.Data.List.TakeWhile
import Mathlib.Data.ZMod.Basic
import Mathlib.Tactic.LinearCombination
import Mathlib.Tactic.Ring
import Mediasoup.Lib.Runs
import Mediasoup.Rtp.SeqManager

open List Circular

namespace Mediasoup

namespace SeqWidth

variable (w : SeqWidth)

theorem cast_mask (x : ℕ) : ((w.mask x : ℕ) : ZMod (2 * w.half)) = x := by
  rw [mask_eq, ZMod.natCast_mod]

theorem cast_sub (x y : ℕ) : ((w.sub x y : ℕ) : ZMod (2 * w.half)) = x - y := by
  have hle : w.mask y ≤ 2 * w.half := (w.mask_lt y).le
  rw [sub, cast_mask, maxValue_add_one, Nat.cast_add, Nat.cast_sub hle, cast_mask,
    ZMod.natCast_self]
  ring

theorem mask_congr {x y : ℕ} (h : (x : ZMod (2 * w.half)) = y) : w.mask x = w.mask y := by
  rw [mask_eq, mask_eq]
  exact (ZMod.natCast_eq_natCast_iff' x y (2 * w.half)).mp h

/-! ### Positions -/

def num (s p : ℕ) : ℕ := w.mask (s + p)

variable {w} {s p q : ℕ}

theorem num_lt (s p : ℕ) : w.num s p < 2 * w.half := w.mask_lt (s + p)

theorem gap_num (hle : p ≤ q) (hlt : q < p + 2 * w.half) :
    gap w.half (w.num s p) (w.num s q) = q - p := by
  have hgap := @gap_mod w.half (s + p) (s + q) (by omega) (by omega)
  rw [num, num, mask_eq, mask_eq, hgap]
  omega

theorem num_ne (hlt : p < q) (hnear : q < p + 2 * w.half) : w.num s p ≠ w.num s q := by
  intro heq
  have hgap := @gap_num w s p q hlt.le hnear
  rw [heq, gap_self] at hgap
  omega

theorem lower_num (hlt : p < q) (hnear : q < p + w.half) :
    w.isSeqLowerThan (w.num s p) (w.num s q) := by
  have hgap := @gap_num w s p q hlt.le (by omega)
  exact w.isSeqLowerThan_iff.mpr (lower_of_gap (num_lt s p) (by omega) (by omega))

theorem higher_num (hfar : p + w.half < q) (hnear : q < p + 2 * w.half) :
    w.isSeqHigherThan (w.num s p) (w.num s q) := by
  have hgap := @gap_num w s p q (by omega) hnear
  have hsum := gap_add_gap (num_lt s p) (num_lt s q) (num_ne (by omega) hnear)
  exact w.isSeqHigherThan_iff.mpr (lower_of_gap (num_lt s q) (by omega) (by omega))

end SeqWidth

namespace SeqManager

variable {w : SeqWidth} {s n k : ℕ} {m : SeqManager}

/-! ### The cleanup -/

/-- The positions that the cleanup at the position `n` leaves. -/
def kept (w : SeqWidth) (s n : ℕ) (D : List ℕ) : List ℕ :=
  D.dropWhile fun p => w.isSeqHigherThan (w.num s p) (w.num s n)

theorem clearDropped_of_positions {D : List ℕ} (hmax : m.maxInput = w.num s n)
    (hdropped : m.dropped = D.map (w.num s)) :
    (m.clearDropped w).dropped = (kept w s n D).map (w.num s) ∧
      ((m.clearDropped w).base : ZMod (2 * w.half)) =
        m.base - D.length + (kept w s n D).length := by
  have hdrop : m.dropped.dropWhile (w.isSeqHigherThan · m.maxInput) =
      (kept w s n D).map (w.num s) := by
    rw [hmax, hdropped, dropWhile_map]
    rfl
  have hlen : (kept w s n D).length ≤ D.length := (dropWhile_sublist _).length_le
  refine ⟨hdrop, ?_⟩
  have hbase : (m.clearDropped w).base =
      w.sub m.base (m.dropped.length - ((kept w s n D).map (w.num s)).length) := by
    rw [← hdrop]
    rfl
  rw [hbase, w.cast_sub, hdropped, length_map, length_map, Nat.cast_sub hlen]
  ring

theorem kept_near {D : List ℕ} (hsorted : D.Pairwise (· < ·))
    (hnear : ∀ p ∈ D, p ≤ n ∧ n < p + 2 * w.half) : ∀ p ∈ kept w s n D, n ≤ p + w.half ∧
      (p < n → w.isSeqLowerThan (w.num s p) (w.num s n)) := by
  have hhalf := w.two_le_half
  have hsub : kept w s n D <:+ D := dropWhile_suffix _
  cases hkept : kept w s n D with
  | nil =>
    intro p hp
    cases hp
  | cons first rest =>
    have hfirst : ¬w.isSeqHigherThan (w.num s first) (w.num s n) := by
      have := List.head?_dropWhile_not
        (fun p => w.isSeqHigherThan (w.num s p) (w.num s n)) D
      rw [show D.dropWhile _ = first :: rest from hkept] at this
      simpa using this
    obtain ⟨hle, hfar⟩ := hnear first (hsub.mem (by rw [hkept]; exact mem_cons_self))
    -- beyond half a circle it would have been removed
    have hfirstNear : n ≤ first + w.half := by
      by_contra hlt
      exact hfirst (SeqWidth.higher_num (by omega) (by omega))
    have hrest : (first :: rest).Pairwise (· < ·) := by
      rw [← hkept]
      exact hsorted.sublist hsub.sublist
    intro p hp
    rcases mem_cons.mp hp with rfl | hp
    · refine ⟨hfirstNear, fun hlt => ?_⟩
      rw [w.isSeqHigherThan_iff] at hfirst
      rw [w.isSeqLowerThan_iff]
      exact (lower_total (SeqWidth.num_ne hlt (by omega))).resolve_right hfirst
    · have hlt := rel_of_pairwise_cons hrest hp
      exact ⟨by omega, fun hpn => SeqWidth.lower_num hpn (by omega)⟩

/-! ### One input -/

theorem isSeqHigherThan_self (x : ℕ) : w.isSeqHigherThan x x = false := by
  simp [SeqWidth.isSeqHigherThan]

def raised (w : SeqWidth) (m : SeqManager) (i : ℕ) : ℕ :=
  if w.isSeqHigherThan i m.maxInput then i else m.maxInput

def cleaned (w : SeqWidth) (m : SeqManager) (i : ℕ) : SeqManager :=
  { m with maxInput := raised w m i }.clearDropped w

/-- What an accepted input does to a manager that has accepted one before. -/
structure Accepts (w : SeqWidth) (m : SeqManager) (i output : ℕ) : Prop where
  some : (m.input w i).2 = some output
  value : (output : ZMod (2 * w.half)) = i + (cleaned w m i).base -
    lowerBound w.isSeqLowerThan i (cleaned w m i).dropped
  lt : output < 2 * w.half
  started : (m.input w i).1.started
  maxInput : (m.input w i).1.maxInput = raised w m i
  maxOutput : (m.input w i).1.maxOutput =
    if w.isSeqHigherThan output m.maxOutput then output else m.maxOutput
  dropped : (m.input w i).1.dropped = (cleaned w m i).dropped
  base : ((m.input w i).1.base : ZMod (2 * w.half)) = (cleaned w m i).base

theorem clearDropped_of_nil (h : m.dropped = []) : (m.clearDropped w).dropped = [] ∧
      ((m.clearDropped w).base : ZMod (2 * w.half)) = m.base := by
  simp [clearDropped, h, w.cast_sub]

variable {i : ℕ}

theorem raised_raised :
    (if w.isSeqHigherThan i (raised w m i) then i else raised w m i) = raised w m i := by
  unfold raised
  by_cases h : w.isSeqHigherThan i m.maxInput
  · simp [h, isSeqHigherThan_self]
  · simp [h]

theorem cleaned_raise (hstarted : m.started) : ({ m with
      maxInput := (if m.started && w.isSeqHigherThan i m.maxInput then i else m.maxInput) } :
        SeqManager).clearDropped w = cleaned w m i := by
  simp only [hstarted, Bool.true_and]
  rw [cleaned, raised, hstarted]

theorem input_of_dropped (hstarted : m.started) (hne : m.dropped ≠ []) (i : ℕ) :
    m.input w i = if (cleaned w m i).dropped = [] then
        (cleaned w m i).accept w i (cleaned w m i).base
      else if setContains w.isSeqLowerThan i (cleaned w m i).dropped then (cleaned w m i, none)
      else (cleaned w m i).accept w i (w.sub (cleaned w m i).base
        (lowerBound w.isSeqLowerThan i (cleaned w m i).dropped)) := by
  rw [← cleaned_raise hstarted, SeqManager.input, if_neg hne]

theorem accepts_of_accept {m' : SeqManager} {b : ℕ} (heq : m.input w i = m'.accept w i b)
    (hstarted : m'.started)
    (hmax : (if w.isSeqHigherThan i m'.maxInput then i else m'.maxInput) = raised w m i)
    (hout : m'.maxOutput = m.maxOutput) (hdropped : m'.dropped = (cleaned w m i).dropped)
    (hbase : (m'.base : ZMod (2 * w.half)) = (cleaned w m i).base)
    (hb : (b : ZMod (2 * w.half)) = (cleaned w m i).base -
      lowerBound w.isSeqLowerThan i (cleaned w m i).dropped) : Accepts w m i (w.mask (i + b)) := by
  constructor
  · simp [heq, accept, hstarted]
  · rw [w.cast_mask, Nat.cast_add, hb]
    ring
  · exact w.mask_lt _
  · simp [heq, accept, hstarted]
  · simp [heq, accept, hstarted, hmax]
  · simp [heq, accept, hstarted, hout]
  · simp [heq, accept, hstarted, hdropped]
  · simp [heq, accept, hstarted, hbase]

theorem exists_accepts (hstarted : m.started)
    (hfind : setContains w.isSeqLowerThan i (cleaned w m i).dropped = false) :
    ∃ output, Accepts w m i output := by
  by_cases hempty : m.dropped = []
  · obtain ⟨hdropped, hbase⟩ :=
      @clearDropped_of_nil w { m with maxInput := raised w m i } hempty
    have heq : m.input w i = m.accept w i m.base := by rw [SeqManager.input, if_pos hempty]
    refine ⟨_, accepts_of_accept heq hstarted rfl rfl (hempty.trans hdropped.symm) hbase.symm ?_⟩
    rw [cleaned, hdropped, hbase]
    simp [lowerBound]
  · have heq := @input_of_dropped w m hstarted hempty i
    by_cases hnil : (cleaned w m i).dropped = []
    · rw [if_pos hnil] at heq
      refine ⟨_, accepts_of_accept heq hstarted (raised_raised) rfl rfl rfl ?_⟩
      simp [hnil, lowerBound]
    · rw [if_neg hnil, hfind, if_neg (by simp)] at heq
      exact ⟨_, accepts_of_accept heq hstarted (raised_raised) rfl rfl rfl (w.cast_sub _ _)⟩

theorem input_of_contains (hstarted : m.started)
    (hfind : setContains w.isSeqLowerThan i (cleaned w m i).dropped) :
    m.input w i = (cleaned w m i, none) := by
  have hne : (cleaned w m i).dropped ≠ [] := by
    intro hnil
    rw [hnil] at hfind
    simp [setContains] at hfind
  have hne' : m.dropped ≠ [] := by
    intro hnil
    exact hne (@clearDropped_of_nil w { m with maxInput := raised w m i } hnil).1
  rw [input_of_dropped hstarted hne', if_neg hne, if_pos hfind]

/-! ### Runs over consecutive numbers -/

/-- The last number that is recorded as dropped is lower than the one that is dropped. -/
def DropInOrder (w : SeqWidth) (m : SeqManager) : Call → Prop
  | .drop x => ∀ last ∈ m.dropped.getLast?, w.isSeqLowerThan last x
  | _ => True

/-- The calls on the numbers from the position `n` on, each one an `Input` or a `Drop`. -/
def consecutive (w : SeqWidth) (s : ℕ) : ℕ → List Bool → List Call
  | _, [] => []
  | n, isInput :: later =>
    (if isInput then .input (w.num s n) else .drop (w.num s n)) :: consecutive w s (n + 1) later

def outputs (w : SeqWidth) (m : SeqManager) : List Call → List (Option ℕ)
  | [] => []
  | .input x :: calls => (m.input w x).2 :: outputs w (m.input w x).1 calls
  | c :: calls => outputs w (m.call w c).1 calls

def next (w : SeqWidth) (m : SeqManager) (c : Call) : SeqManager := (m.call w c).1

end SeqManager

end Mediasoup
