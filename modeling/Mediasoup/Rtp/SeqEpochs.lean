/-
The renumbering between two calls of `Sync`.

After `Sync(x)` the numbers of the next half circle are at the positions `1, 2, …` above
`x`.  They may come in any order, be lost, repeated or dropped.

* `InEpoch` — the manager in such an epoch: the dropped numbers are the recorded
  positions, none of which is ever forgotten;
* `InEpoch.extend` — over a run of the epoch the recorded positions are only extended,
  above all that was processed;
* `run_consecutive_gapless` — a run over consecutive numbers is renumbered without a gap if no
  number is dropped that is not higher than the last dropped one that is still recorded;
* `epoch_renumbers` — the outputs of the epoch.
-/
import Mathlib.Data.List.Count
import Mediasoup.Rtp.SeqRenumbering

open List Circular

namespace Mediasoup

open SeqManager

namespace SeqManager

variable {w : SeqWidth} {x J g : ℕ} {D R : List ℕ} {m : SeqManager}

/-- A number of the window after `Sync(x)`. -/
def InWindow (w : SeqWidth) (x i : ℕ) : Prop :=
  i ≤ w.maxValue ∧ 0 < w.sub i x ∧ w.sub i x < w.half
  deriving Decidable

variable {i : ℕ}

theorem InWindow.num_sub (h : InWindow w x i) : w.num x (w.sub i x) = i := by
  have hlt : i < 2 * w.half := by
    have := w.maxValue_add_one
    have := h.1
    omega
  calc w.num x (w.sub i x) = w.mask i := w.mask_congr (by rw [Nat.cast_add, w.cast_sub]; ring)
    _ = i := by rw [w.mask_eq, Nat.mod_eq_of_lt hlt]

variable {j p k a : ℕ}

theorem lower_num_iff {q : ℕ} (hp : p < q + w.half) (hq : q < p + w.half) :
    w.isSeqLowerThan (w.num x p) (w.num x q) ↔ p < q := by
  constructor
  · intro h
    by_contra hle
    rcases Nat.lt_or_eq_of_le (Nat.le_of_not_lt hle) with hlt | rfl
    · have hlower := @SeqWidth.lower_num w x q p hlt (by omega)
      rw [w.isSeqLowerThan_iff] at h hlower
      exact lower_asymm h hlower
    · rw [w.isSeqLowerThan_iff] at h
      exact lower_irrefl h
  · intro h
    exact SeqWidth.lower_num h (by omega)

theorem higher_num_iff {q : ℕ} (hp : p < q + w.half) (hq : q < p + w.half) :
    w.isSeqHigherThan (w.num x p) (w.num x q) ↔ q < p := by
  rw [w.isSeqHigherThan_iff, ← w.isSeqLowerThan_iff, lower_num_iff hq hp]

/-- The recorded positions `F` that were folded into the base, and those in `D` that are
still in the set, when the highest position is `J`. -/
structure Recorded (w : SeqWidth) (x g J : ℕ) (F D : List ℕ) (m : SeqManager) : Prop where
  maxInput : m.maxInput = w.num x J
  dropped : m.dropped = D.map (w.num x)
  far : ∀ p ∈ F, p + w.half ≤ J
  near : ∀ p ∈ D, J ≤ p + w.half ∧ (p < J → w.isSeqLowerThan (w.num x p) (w.num x J))
  base : (m.base : ZMod (2 * w.half)) = g - x - F.length

/-- The manager in the epoch after `Sync(x)` at which the highest output was `g`, with the
highest position `J` and the recorded positions `R`. -/
structure InEpoch (w : SeqWidth) (x g J : ℕ) (R : List ℕ) (m : SeqManager) : Prop where
  started : m.started = false → J = 0
  sorted : R.Pairwise (· < ·)
  inside : ∀ p ∈ R, 0 < p ∧ p ≤ J
  split : ∃ F D, R = F ++ D ∧ Recorded w x g J F D m

theorem InEpoch.maxInput (h : InEpoch w x g J R m) : m.maxInput = w.num x J := by
  obtain ⟨F, D, -, hrec⟩ := h.split
  exact hrec.maxInput

theorem inEpoch_sync (hx : x ≤ w.maxValue) : InEpoch w x m.maxOutput 0 [] (m.sync w x) := by
  have hmod := w.maxValue_add_one
  refine ⟨fun _ => rfl, List.Pairwise.nil, by simp, [], [], rfl, ?_, rfl, by simp, by simp, ?_⟩
  · rw [SeqWidth.num, Nat.add_zero, w.mask_eq, Nat.mod_eq_of_lt (by omega)]
    rfl
  · have hbase : ((m.sync w x).base : ZMod (2 * w.half)) = m.maxOutput - x := w.cast_sub _ _
    rw [hbase, length_nil, Nat.cast_zero, sub_zero]

/-- The cleanup folds the first positions into the base when the highest position has
advanced by less than half a circle. -/
theorem Recorded.clearDropped {F : List ℕ} (hsorted : D.Pairwise (· < ·))
    (hmax : m.maxInput = w.num x J) (hdropped : m.dropped = D.map (w.num x))
    (hfar : ∀ p ∈ F, p + w.half ≤ J) (hnear : ∀ p ∈ D, p ≤ J ∧ J < p + 2 * w.half)
    (hbase : (m.base : ZMod (2 * w.half)) = g - x - F.length) :
    ∃ F' D', F' ++ D' = F ++ D ∧ Recorded w x g J F' D' (m.clearDropped w) := by
  obtain ⟨hdropped', hbase'⟩ := clearDropped_of_positions hmax hdropped
  set front := D.takeWhile fun p => w.isSeqHigherThan (w.num x p) (w.num x J) with hfront
  have hsplit : front ++ kept w x J D = D := takeWhile_append_dropWhile
  refine ⟨F ++ front, kept w x J D, by rw [append_assoc, hsplit], hmax, hdropped', ?_,
    kept_near hsorted hnear, ?_⟩
  · intro p hp
    rcases mem_append.mp hp with hp | hp
    · exact hfar p hp
    -- a number that is taken for a higher one is half a circle behind
    have hhigher : w.isSeqHigherThan (w.num x p) (w.num x J) := by
      simpa using mem_takeWhile_imp hp
    have hle := (hnear p ((takeWhile_subset _) hp)).1
    by_contra hlt
    rw [higher_num_iff (by omega) (by omega)] at hhigher
    omega
  · have hlen : D.length = front.length + (kept w x J D).length := by
      rw [← length_append, hsplit]
    rw [hbase', hbase, hlen, length_append]
    push_cast
    ring

theorem InEpoch.drop (h : InEpoch w x g J R m) (hstarted : m.started) (hpos : 0 < j)
    (hahead : j < J + w.half) (hbehind : J < j + w.half)
    (horder : J < j → ∀ last ∈ m.dropped.getLast?, w.isSeqLowerThan last (w.num x j)) :
    m.drop w (w.num x j) = m ∧ j ≤ J ∨
      J < j ∧ InEpoch w x g j (R ++ [j]) (m.drop w (w.num x j)) := by
  obtain ⟨F, D, rfl, hrec⟩ := h.split
  by_cases hlt : J < j
  · right
    -- the number is new: it goes to the end of `dropped`
    have hhigher : w.isSeqHigherThan (w.num x j) m.maxInput := by
      rw [hrec.maxInput, higher_num_iff hahead hbehind]
      exact hlt
    have hinsert : setInsertEnd w.isSeqLowerThan (w.num x j) m.dropped =
        (D ++ [j]).map (w.num x) := by
      rw [map_append, ← hrec.dropped, map_singleton, setInsertEnd_of_last (horder hlt)]
    have hsorted : (F ++ D ++ [j]).Pairwise (· < ·) := by
      refine pairwise_append.mpr ⟨h.sorted, pairwise_singleton _ _, ?_⟩
      intro p hp q hq
      have := (h.inside p hp).2
      rw [mem_singleton.mp hq]
      omega
    have hinside : ∀ p ∈ F ++ D ++ [j], 0 < p ∧ p ≤ j := by
      intro p hp
      rcases mem_append.mp hp with hp | hp
      · have := h.inside p hp
        omega
      · rw [mem_singleton.mp hp]
        omega
    have hsorted' : (D ++ [j]).Pairwise (· < ·) := by
      rw [append_assoc] at hsorted
      exact (pairwise_append.mp hsorted).2.1
    obtain ⟨F', D', hsplit, hrec'⟩ := @Recorded.clearDropped w x j g (D ++ [j])
      { m with maxInput := w.num x j, dropped := (D ++ [j]).map (w.num x) } F hsorted' rfl rfl
      (fun p hp => (hrec.far p hp).trans hlt.le) (by
        intro p hp
        rcases mem_append.mp hp with hp | hp
        · have := (hrec.near p hp).1
          have := (h.inside p (mem_append_right F hp)).2
          omega
        · have := w.two_le_half
          rw [mem_singleton.mp hp]
          omega) hrec.base
    refine ⟨hlt, ?_, hsorted, hinside, F', D', ?_, ?_⟩
    · intro hnot
      rw [drop, if_pos hhigher] at hnot
      rw [show m.started = false from hnot] at hstarted
      cases hstarted
    · rw [hsplit, append_assoc]
    · rw [drop, if_pos hhigher, hinsert]
      exact hrec'
  · left
    have hhigher : ¬w.isSeqHigherThan (w.num x j) m.maxInput := by
      rw [hrec.maxInput, higher_num_iff hahead hbehind]
      exact hlt
    exact ⟨by rw [drop, if_neg hhigher], by omega⟩

/-! ### Inputs of an epoch -/

theorem lowerBound_positions (hsorted : D.Pairwise (· < ·))
    (hlower : ∀ p ∈ D, (w.isSeqLowerThan (w.num x p) (w.num x j) ↔ p < j)) :
    lowerBound w.isSeqLowerThan (w.num x j) (D.map (w.num x)) = D.countP (· < j) := by
  induction D with
  | nil => rfl
  | cons p D ih =>
    have hp := hlower p mem_cons_self
    have hrest := ih hsorted.of_cons fun q hq => hlower q (mem_cons_of_mem p hq)
    by_cases hlt : p < j
    · rw [lowerBound] at hrest ⊢
      rw [map_cons, takeWhile_cons, if_pos (hp.mpr hlt), length_cons, hrest,
        countP_cons_of_pos (by simpa using hlt)]
    · -- all later ones are higher still
      have hnone : D.countP (· < j) = 0 := by
        rw [countP_eq_zero]
        intro q hq
        have := rel_of_pairwise_cons hsorted hq
        simp only [decide_eq_true_eq]
        omega
      rw [lowerBound, map_cons, takeWhile_cons, if_neg (fun h => hlt (hp.mp h)),
        countP_cons_of_neg (by simpa using hlt), hnone, length_nil]

theorem setContains_positions (hsorted : D.Pairwise (· < ·)) {j : ℕ}
    (hlower : ∀ p ∈ D, (w.isSeqLowerThan (w.num x p) (w.num x j) ↔ p < j))
    (hhigher : ∀ p ∈ D, (w.isSeqLowerThan (w.num x j) (w.num x p) ↔ j < p)) :
    setContains w.isSeqLowerThan (w.num x j) (D.map (w.num x)) ↔ j ∈ D := by
  induction D with
  | nil => simp [setContains]
  | cons p D ih =>
    have hp := hlower p mem_cons_self
    have hrest := ih hsorted.of_cons (fun q hq => hlower q (mem_cons_of_mem p hq))
      fun q hq => hhigher q (mem_cons_of_mem p hq)
    -- `lower_bound` passes over the positions before `j`
    by_cases hlt : p < j
    · rw [setContains] at hrest ⊢
      rw [map_cons, dropWhile_cons, if_pos (hp.mpr hlt), mem_cons]
      rw [hrest]
      constructor
      · exact .inr
      · rintro (rfl | h)
        · omega
        · exact h
    · rw [setContains, map_cons, dropWhile_cons, if_neg (fun h => hlt (hp.mp h))]
      dsimp only
      rw [Bool.not_eq_true', ← Bool.not_eq_true, hhigher p mem_cons_self, mem_cons]
      constructor
      · intro hle
        exact .inl (by omega)
      · rintro (rfl | h)
        · omega
        · have := rel_of_pairwise_cons hsorted h
          omega

theorem Recorded.lower_iff {F : List ℕ} (h : Recorded w x g J F D m) (hp : p ∈ D) (hle : p ≤ J)
    (hj : j ≤ J) (hbehind : J < j + w.half) : (w.isSeqLowerThan (w.num x p) (w.num x j) ↔ p < j) ∧
      (w.isSeqLowerThan (w.num x j) (w.num x p) ↔ j < p) := by
  obtain ⟨hnear, htie⟩ := h.near p hp
  rcases Nat.lt_or_ge j (p + w.half) with hlt | hge
  · exact ⟨lower_num_iff (by omega) hlt, lower_num_iff hlt (by omega)⟩
  -- exactly half a circle behind the highest position
  have := w.two_le_half
  obtain rfl : j = J := by omega
  have hlower := htie (by omega)
  refine ⟨iff_of_true hlower (by omega), iff_of_false ?_ (by omega)⟩
  rw [w.isSeqLowerThan_iff] at hlower ⊢
  exact lower_asymm hlower

theorem InEpoch.cleaned (h : InEpoch w x g J R m) (hahead : j < J + w.half)
    (hbehind : J < j + w.half) :
    ∃ F D, R = F ++ D ∧ Recorded w x g (max J j) F D (cleaned w m (w.num x j)) := by
  obtain ⟨F, D, rfl, hrec⟩ := h.split
  have hraised : raised w m (w.num x j) = w.num x (max J j) := by
    rw [raised, hrec.maxInput]
    by_cases hlt : J < j
    · rw [if_pos ((higher_num_iff hahead hbehind).mpr hlt), max_eq_right hlt.le]
    · rw [if_neg (by rwa [higher_num_iff hahead hbehind]), max_eq_left (by omega)]
  obtain ⟨F', D', hsplit, hrec'⟩ := @Recorded.clearDropped w x (max J j) g D
    { m with maxInput := raised w m (w.num x j) } F (pairwise_append.mp h.sorted).2.1
    hraised hrec.dropped (fun p hp => (hrec.far p hp).trans (Nat.le_max_left _ _)) (by
      intro p hp
      have := (hrec.near p hp).1
      have := (h.inside p (mem_append_right F hp)).2
      omega) hrec.base
  exact ⟨F', D', hsplit.symm, hrec'⟩

/-- The positions up to `j` that are not recorded. -/
def advance (R : List ℕ) (j : ℕ) : ℕ := j - R.countP (· < j)

theorem InEpoch.input_started (h : InEpoch w x g J R m) (hstarted : m.started)
    (hahead : j < J + w.half) (hbehind : J < j + w.half) (hcount : R.countP (· < j) ≤ j) :
    (m.input w (w.num x j)).2 = (if j ∈ R then none else some (w.num g (advance R j))) ∧
      InEpoch w x g (max J j) R (m.input w (w.num x j)).1 := by
  obtain ⟨F, D, rfl, hc⟩ := h.cleaned hahead hbehind
  have hinside : ∀ p ∈ F ++ D, 0 < p ∧ p ≤ max J j := by
    intro p hp
    have := h.inside p hp
    omega
  have hsorted := (pairwise_append.mp h.sorted).2.1
  -- in the set that is left the order of numbers is that of positions
  have hiff : ∀ p ∈ D, (w.isSeqLowerThan (w.num x p) (w.num x j) ↔ p < j) ∧
      (w.isSeqLowerThan (w.num x j) (w.num x p) ↔ j < p) := fun p hp =>
    hc.lower_iff hp (hinside p (mem_append_right F hp)).2 (Nat.le_max_right _ _) (by omega)
  have hfar : ∀ p ∈ F, p < j := by
    intro p hp
    have := hc.far p hp
    omega
  have hmemF : j ∈ F ++ D ↔ j ∈ D := by
    rw [mem_append]
    refine ⟨fun hj => hj.resolve_left fun hF => ?_, .inr⟩
    exact lt_irrefl j (hfar j hF)
  have hcountF : (F ++ D).countP (· < j) = F.length + D.countP (· < j) := by
    rw [countP_append, countP_eq_length.mpr]
    intro p hp
    simpa using hfar p hp
  have hcontains := @setContains_positions w x D hsorted j (fun p hp => (hiff p hp).1)
    fun p hp => (hiff p hp).2
  rw [← hc.dropped] at hcontains
  simp only [hmemF]
  by_cases hmem : j ∈ D
  · rw [input_of_contains hstarted (hcontains.mpr hmem), if_pos hmem]
    refine ⟨rfl, ?_, h.sorted, hinside, F, D, rfl, hc⟩
    intro hnot
    rw [show m.started = false from hnot] at hstarted
    cases hstarted
  · have hfind : setContains w.isSeqLowerThan (w.num x j)
        (SeqManager.cleaned w m (w.num x j)).dropped = false := by
      rw [← Bool.not_eq_true, hcontains]
      exact hmem
    obtain ⟨output, ha⟩ := exists_accepts hstarted hfind
    have hmask : output = w.mask output := by
      rw [w.mask_eq, Nat.mod_eq_of_lt ha.lt]
    have hvalue := ha.value
    rw [hc.dropped, lowerBound_positions hsorted fun p hp => (hiff p hp).1, hc.base,
      SeqWidth.num, w.cast_mask] at hvalue
    constructor
    · rw [ha.some, if_neg hmem, hmask]
      refine congrArg some (w.mask_congr ?_)
      rw [hvalue, advance, Nat.cast_add x j, Nat.cast_add g, Nat.cast_sub hcount, hcountF,
        Nat.cast_add F.length]
      ring
    · refine ⟨?_, h.sorted, hinside, F, D, rfl, ?_, ?_, hc.far, hc.near, ?_⟩
      · intro hnot
        rw [ha.started] at hnot
        cases hnot
      · rw [ha.maxInput]
        exact hc.maxInput
      · rw [ha.dropped]
        exact hc.dropped
      · rw [ha.base]
        exact hc.base

theorem InEpoch.input_first (h : InEpoch w x g J R m) (hstarted : m.started = false) :
    (m.input w (w.num x j)).2 = (if j ∈ R then none else some (w.num g (advance R j))) ∧
      InEpoch w x g (max J j) R (m.input w (w.num x j)).1 := by
  -- nothing can have been recorded before the first input
  have hJ := h.started hstarted
  have hR : R = [] := by
    rw [eq_nil_iff_forall_not_mem]
    intro p hp
    have := h.inside p hp
    omega
  subst hR
  obtain ⟨F, D, hnil, hrec⟩ := h.split
  obtain ⟨rfl, rfl⟩ := append_eq_nil_iff.mp hnil.symm
  have hdropped : m.dropped = [] := hrec.dropped
  have heq : m.input w (w.num x j) = m.accept w (w.num x j) m.base := by
    rw [input, if_pos hdropped]
  have hmax : max J j = j := by omega
  rw [heq, accept, hstarted, hmax]
  refine ⟨?_, ?_, List.Pairwise.nil, by simp, [], [], rfl, rfl, hdropped, by simp, by simp,
    hrec.base⟩
  · refine congrArg some (w.mask_congr ?_)
    rw [Nat.cast_add, hrec.base, SeqWidth.num, w.cast_mask, Nat.cast_add, Nat.cast_add]
    simp only [advance, countP_nil, Nat.sub_zero, length_nil, Nat.cast_zero]
    ring
  · intro hnot
    cases hnot

/-- A recorded number is rejected; any other one is accepted with the output that its
position has among those that are not recorded. -/
theorem InEpoch.input (h : InEpoch w x g J R m) {j : ℕ} (hahead : j < J + w.half)
    (hbehind : J < j + w.half) (hcount : R.countP (· < j) ≤ j) :
    (m.input w (w.num x j)).2 = (if j ∈ R then none else some (w.num g (advance R j))) ∧
      InEpoch w x g (max J j) R (m.input w (w.num x j)).1 := by
  by_cases hstarted : m.started
  · exact h.input_started hstarted hahead hbehind hcount
  · exact h.input_first (by simpa using hstarted)

/-! ### Counting the recorded positions -/

theorem countP_lt_succ (D : List ℕ) (k : ℕ) :
    D.countP (· < k + 1) = D.countP (· < k) + D.count k := by
  induction D with
  | nil => rfl
  | cons p D ih =>
    rw [countP_cons, countP_cons, count_cons, ih]
    simp only [decide_eq_true_eq, beq_iff_eq]
    split_ifs <;> omega

section

variable (hsorted : D.Pairwise (· < ·))
include hsorted

theorem countP_lt_add (k n : ℕ) : D.countP (· < k + n) ≤ D.countP (· < k) + n := by
  induction n with
  | zero => exact le_rfl
  | succ n ih =>
    have hnodup : D.Nodup := hsorted.imp fun h => Nat.ne_of_lt h
    have hone := nodup_iff_count_le_one.mp hnodup (k + n)
    rw [← Nat.add_assoc, countP_lt_succ]
    omega

theorem countP_lt_le (hpos : ∀ p ∈ D, 0 < p) (hj : 0 < j) : D.countP (· < j) + 1 ≤ j := by
  have hnone : D.countP (· < 1) = 0 := by
    rw [countP_eq_zero]
    intro p hp
    have := hpos p hp
    simp only [decide_eq_true_eq]
    omega
  obtain ⟨n, rfl⟩ : ∃ n, j = n + 1 := ⟨j - 1, by omega⟩
  have := countP_lt_add hsorted 1 n
  rw [Nat.add_comm 1 n] at this
  omega

theorem advance_pos (hpos : ∀ p ∈ D, 0 < p) (hj : 0 < j) : 0 < advance D j := by
  have := countP_lt_le hsorted hpos hj
  unfold advance
  omega

theorem countP_lt_le_self (j : ℕ) : D.countP (· < j) ≤ j := by
  have hnone : D.countP (· < 0) = 0 := by
    rw [countP_eq_zero]
    simp
  have hle := countP_lt_add hsorted 0 j
  rw [Nat.zero_add] at hle
  omega

theorem advance_le_advance (hle : j ≤ k) :
    advance D j ≤ advance D k ∧ advance D k ≤ advance D j + (k - j) := by
  obtain ⟨n, rfl⟩ := Nat.exists_eq_add_of_le hle
  have hstep := countP_lt_add hsorted j n
  have hself := countP_lt_le_self hsorted j
  have hmono : D.countP (· < j) ≤ D.countP (· < j + n) := by
    refine countP_mono_left fun p _ hp => ?_
    simp only [decide_eq_true_eq] at hp ⊢
    omega
  unfold advance
  omega

theorem advance_lt_advance (hmem : j ∉ D) (hlt : j < k) : advance D j < advance D k := by
  obtain ⟨n, rfl⟩ := Nat.exists_eq_add_of_le (Nat.succ_le_of_lt hlt)
  have hstep := countP_lt_add hsorted (j + 1) n
  have hself := countP_lt_le_self hsorted j
  rw [countP_lt_succ, count_eq_zero.mpr hmem] at hstep
  unfold advance
  rw [Nat.succ_eq_add_one] at *
  omega

end

theorem advance_append {E : List ℕ} (hE : ∀ p ∈ E, j ≤ p) : advance (D ++ E) j = advance D j := by
  have hnone : E.countP (· < j) = 0 := by
    rw [countP_eq_zero]
    intro p hp
    have := hE p hp
    simp only [decide_eq_true_eq]
    omega
  rw [advance, countP_append, hnone, Nat.add_zero, advance]

/-! ### Runs over consecutive numbers -/

variable {s n : ℕ}

theorem inEpoch_first : (new.input w (w.num s 0)).2 = some (w.num s 0) ∧
    (new.input w (w.num s 0)).1.started ∧ InEpoch w s s 0 [] (new.input w (w.num s 0)).1 := by
  have hself : w.mask (w.num s 0 + 0) = w.num s 0 := by
    rw [Nat.add_zero, w.mask_eq, Nat.mod_eq_of_lt (SeqWidth.num_lt s 0)]
  have heq : new.input w (w.num s 0) =
      (⟨true, 0, w.num s 0, w.num s 0, []⟩, some (w.num s 0)) := by
    simp only [input, new, accept, if_pos, hself, Bool.not_false]
  rw [heq]
  exact ⟨rfl, rfl, fun _ => rfl, .nil, by simp, [], [], rfl, rfl, rfl, by simp, by simp, by simp⟩

theorem InEpoch.outputs (h : InEpoch w s s n R m) (hstarted : m.started) (later : List Bool)
    (horder : Runs.Along (Runs.always (next w)) (DropInOrder w) m (consecutive w s (n + 1) later)) :
    outputs w m (consecutive w s (n + 1) later) =
      (List.range (later.count true)).map fun j => some (w.num s (advance R (n + 1) + j)) := by
  induction later generalizing n R m with
  | nil => rfl
  | cons isInput later ih =>
    have hhalf := w.two_le_half
    have hself := countP_lt_le_self h.sorted (n + 1)
    -- all recorded positions are lower
    have hmem : n + 1 ∉ R := fun hp => Nat.not_succ_le_self n (h.inside _ hp).2
    have hcount := countP_lt_succ R (n + 1)
    rw [count_eq_zero.mpr hmem] at hcount
    have hgoes : ∀ {R' m'}, InEpoch w s s (n + 1) R' m' → m'.started := fun h' =>
      eq_true_of_ne_false fun hnot => Nat.succ_ne_zero n (h'.started hnot)
    rw [consecutive] at horder ⊢
    obtain ⟨hdrop, horder⟩ := Runs.along_always_cons.mp horder
    cases isInput with
    | true =>
      obtain ⟨hout, hnext⟩ := h.input (j := n + 1) (by omega) (by omega) hself
      rw [max_eq_right (Nat.le_succ n)] at hnext
      have hrest := ih hnext (hgoes hnext) horder
      have hadvance : advance R (n + 1 + 1) = advance R (n + 1) + 1 := by
        unfold advance
        omega
      rw [if_pos rfl, outputs, hout, if_neg hmem, hrest, count_cons_self,
        range_succ_eq_map, map_cons, map_map]
      refine congrArg (_ :: ·) (map_congr_left fun j _ => ?_)
      rw [Function.comp_apply, hadvance, Nat.add_right_comm, Nat.add_assoc]
    | false =>
      obtain ⟨-, hle⟩ | ⟨-, hnext⟩ :=
        h.drop hstarted (Nat.succ_pos n) (by omega) (by omega) fun _ => hdrop
      · omega
      have hadvance : advance (R ++ [n + 1]) (n + 1 + 1) = advance R (n + 1) := by
        rw [advance, advance, countP_append, hcount]
        simp
      rw [if_neg (by simp), outputs, count_cons_of_ne (by simp), ← hadvance]
      · exact ih hnext (hgoes hnext) horder
      · intro x hx
        cases hx

/-- **Gap-free renumbering.**  A run over consecutive numbers, of which the first is an
input and no later one is dropped that is not higher than the last dropped number that is
still recorded, accepts all inputs, and the outputs are consecutive, however often the
numbers wrap. -/
theorem run_consecutive_gapless (w : SeqWidth) (s : ℕ) (later : List Bool)
    (horder : Runs.Along (Runs.always (next w)) (DropInOrder w) new
      (consecutive w s 0 (true :: later))) : outputs w new (consecutive w s 0 (true :: later)) =
      (List.range (later.count true + 1)).map fun k => some ((s + k) % (w.maxValue + 1)) := by
  obtain ⟨hfirst, hstarted, hepoch⟩ := inEpoch_first
  rw [consecutive] at horder ⊢
  have hrest := hepoch.outputs hstarted later (Runs.along_always_cons.mp horder).2
  rw [if_pos rfl, outputs, hfirst, hrest, range_succ_eq_map, map_cons,
    map_map]
  refine congrArg (_ :: ·) (map_congr_left fun j _ => ?_)
  rw [Function.comp_apply, Nat.succ_eq_add_one, Nat.add_comm j 1]
  rfl

/-- The instance for testing, with three bits. -/
def threeBits : SeqWidth := ⟨3, by decide⟩

instance (w : SeqWidth) (m : SeqManager) : (c : Call) → Decidable (DropInOrder w m c)
  | .drop x => inferInstanceAs (Decidable (∀ last ∈ m.dropped.getLast?, w.isSeqLowerThan last x))
  | .sync _ => .isTrue trivial
  | .input _ => .isTrue trivial

/-- Two numbers are dropped that are less than half a circle apart. -/
theorem run_consecutive_gapless_threeBits : outputs threeBits new (consecutive threeBits 6 0
      [true, false, true, true, false, true, true, true, true, true]) =
      (List.range 8).map fun k => some ((6 + k) % (threeBits.maxValue + 1)) :=
  run_consecutive_gapless threeBits 6 [false, true, true, false, true, true, true, true, true]
    (by decide +kernel)

/-- The numbers 2 and 6, which are exactly half a circle apart, are dropped: the last
output leaves a gap. -/
theorem run_consecutive_gap : outputs threeBits new (consecutive threeBits 1 0
      [true, false, true, true, true, false, true]) = [some 1, some 2, some 3, some 4, some 6] := by
  decide +kernel

/-! ### Runs of an epoch -/

/-- A call that may be made after `Sync(x)`. -/
def OfEpoch (w : SeqWidth) (x : ℕ) : Call → Prop
  | .sync _ => False
  | .drop i => InWindow w x i
  | .input i => InWindow w x i

/-- Nothing is dropped before the first accepted input. -/
def DropOnceStarted (m : SeqManager) : Call → Prop
  | .drop _ => m.started
  | _ => True

def record (w : SeqWidth) (m : SeqManager) : Call → List ℕ
  | .drop i => if w.isSeqHigherThan i m.maxInput then [i] else []
  | _ => []

def recorded (w : SeqWidth) (m : SeqManager) : List Call → List ℕ
  | [] => []
  | c :: calls => record w m c ++ recorded w (next w m c) calls

/-- The manager is in the epoch, with the positions `E` recorded after those in `D`. -/
structure Extends (w : SeqWidth) (x g J : ℕ) (D : List ℕ) (J' : ℕ) (E : List ℕ)
    (m : SeqManager) : Prop where
  inEpoch : InEpoch w x g J' (D ++ E) m
  lt_half : J' < w.half
  le : J ≤ J'
  above : ∀ p ∈ E, J < p

theorem run_eq_foldl (m : SeqManager) (calls : List Call) :
    run w m calls = calls.foldl (next w) m := by
  induction calls generalizing m with
  | nil => rfl
  | cons c calls ih => exact ih (next w m c)

section

variable (h : InEpoch w x g J D m)
include h

theorem InEpoch.last_lower (hj : j < w.half) (hlt : J < j) :
    ∀ last ∈ m.dropped.getLast?, w.isSeqLowerThan last (w.num x j) := by
  obtain ⟨F, D, rfl, hrec⟩ := h.split
  intro last hlast
  have hmem := mem_of_getLast? hlast
  rw [hrec.dropped] at hmem
  obtain ⟨p, hp, rfl⟩ := mem_map.mp hmem
  have hple := (h.inside p (mem_append_right F hp)).2
  exact (lower_num_iff (by omega) (by omega)).mpr (by omega)

theorem InEpoch.call (hJ : J < w.half) {c : Call} (hc : OfEpoch w x c)
    (hdrop : DropOnceStarted m c) :
    ∃ J' E, Extends w x g J D J' E (next w m c) ∧ record w m c = E.map (w.num x) := by
  have hpos : ∀ p ∈ D, 0 < p := fun p hp => (h.inside p hp).1
  cases c with
  | sync _ => exact hc.elim
  | drop i =>
    have hlt := hc.2.2
    rcases h.drop hdrop hc.2.1 (by omega) (by omega) (h.last_lower hlt) with
      ⟨heq, hle⟩ | ⟨hlt, hd⟩
    · refine ⟨J, [], ⟨?_, hJ, le_rfl, by simp⟩, ?_⟩
      · rw [hc.num_sub] at heq
        rw [append_nil, next, SeqManager.call, heq]
        exact h
      · have hnot : ¬w.isSeqHigherThan i m.maxInput := by
          rw [← hc.num_sub, h.maxInput, higher_num_iff (by omega) (by omega)]
          omega
        rw [record, if_neg hnot]
        rfl
    · refine ⟨w.sub i x, [w.sub i x], ⟨?_, hc.2.2, hlt.le, by simpa using hlt⟩, ?_⟩
      · rw [hc.num_sub] at hd
        exact hd
      · have hhigher : w.isSeqHigherThan i m.maxInput := by
          rw [← hc.num_sub, h.maxInput, higher_num_iff (by omega) (by omega)]
          exact hlt
        rw [record, if_pos hhigher, map_singleton, hc.num_sub]
  | input i =>
    have hcount := countP_lt_le h.sorted hpos hc.2.1
    have hlt := hc.2.2
    obtain ⟨-, hi⟩ := @InEpoch.input w x J g D m h (w.sub i x) (by omega) (by omega) (by omega)
    refine ⟨max J (w.sub i x), [], ⟨?_, by omega, by omega, by simp⟩, rfl⟩
    rw [hc.num_sub] at hi
    rw [append_nil]
    exact hi

/-- Over a run of the epoch the recorded positions are only extended, above all that was
processed. -/
theorem InEpoch.extend {calls : List Call} (hJ : J < w.half) (hcalls : ∀ c ∈ calls, OfEpoch w x c)
    (hdrop : Runs.Along (Runs.always (next w)) DropOnceStarted m calls) :
    ∃ J' E, Extends w x g J D J' E (run w m calls) ∧ recorded w m calls = E.map (w.num x) := by
  induction calls generalizing J D m with
  | nil =>
    refine ⟨J, [], ⟨?_, hJ, le_rfl, by simp⟩, rfl⟩
    rw [append_nil]
    exact h
  | cons c calls ih =>
    obtain ⟨hc, hrest⟩ := Runs.along_always_cons.mp hdrop
    obtain ⟨J₁, E₁, h₁, hrec₁⟩ := h.call hJ (hcalls c mem_cons_self) hc
    obtain ⟨J₂, E₂, h₂, hrec₂⟩ :=
      ih h₁.inEpoch h₁.lt_half (fun c hc => hcalls c (mem_cons_of_mem _ hc)) hrest
    have hle := h₁.le
    refine ⟨J₂, E₁ ++ E₂, ⟨?_, h₂.lt_half, hle.trans h₂.le, ?_⟩, ?_⟩
    · rw [← append_assoc]
      exact h₂.inEpoch
    · intro p hp
      rcases mem_append.mp hp with hp | hp
      · exact h₁.above p hp
      · have := h₂.above p hp
        omega
    · rw [recorded, hrec₁, hrec₂, map_append]

theorem InEpoch.accepted {later : List Call} (hJ : J < w.half)
    (hk : InWindow w x k) (hacc : (m.input w k).2 = some a) (hlater : ∀ c ∈ later, OfEpoch w x c)
    (hdrop : Runs.Along (Runs.always (next w)) DropOnceStarted (m.input w k).1 later) :
    ∃ J' D', InEpoch w x g J' D' (run w m (.input k :: later)) ∧ J' < w.half ∧ w.sub k x ∉ D' ∧
      a = w.num g (advance D' (w.sub k x)) := by
  have hcount := countP_lt_le h.sorted (fun p hp => (h.inside p hp).1) hk.2.1
  have hlt := hk.2.2
  obtain ⟨hout, hin⟩ := @InEpoch.input w x J g D m h (w.sub k x) (by omega) (by omega) (by omega)
  rw [hk.num_sub] at hout hin
  obtain ⟨J', E, hext, -⟩ := hin.extend (by omega) hlater hdrop
  -- later drops are ahead of `k`, so its output stays what it was
  have habove : ∀ p ∈ E, w.sub k x < p := by
    intro p hp
    have := hext.above p hp
    omega
  rw [hacc] at hout
  by_cases hmem : w.sub k x ∈ D
  · rw [if_pos hmem] at hout
    cases hout
  rw [if_neg hmem] at hout
  refine ⟨J', D ++ E, hext.inEpoch, hext.lt_half, ?_, ?_⟩
  · rw [mem_append]
    rintro (hD | hE)
    · exact hmem hD
    · exact lt_irrefl _ (habove _ hE)
  · rw [advance_append fun p hp => (habove p hp).le]
    exact Option.some.inj hout

theorem InEpoch.lower_output (hk : k < w.half) (hmem : j ∉ D)
    (hlt : j < k) : w.isSeqLowerThan (w.num g (advance D j)) (w.num g (advance D k)) := by
  have hle : advance D k ≤ k := Nat.sub_le _ _
  have hadvance := advance_lt_advance h.sorted hmem hlt
  exact (lower_num_iff (by omega) (by omega)).mpr hadvance

end

/-- The number of outputs by which the highest one advances in a run. -/
def travelled (w : SeqWidth) (m : SeqManager) : List Call → ℕ
  | [] => 0
  | c :: calls => gap w.half m.maxOutput (next w m c).maxOutput + travelled w (next w m c) calls

theorem input_cases (i : ℕ) : ((m.input w i).2 = none ∧ (m.input w i).1.maxOutput = m.maxOutput ∧
        (m.input w i).1.started = m.started) ∨
      ∃ (m' : SeqManager) (b : ℕ), m.input w i = m'.accept w i b ∧ m'.maxOutput = m.maxOutput ∧
        m'.started = m.started := by
  rw [input]
  dsimp only
  generalize (if m.started && w.isSeqHigherThan i m.maxInput then i else m.maxInput) = top
  split_ifs
  · exact .inr ⟨_, _, rfl, rfl, rfl⟩
  · exact .inr ⟨_, _, rfl, rfl, rfl⟩
  · exact .inl ⟨rfl, rfl, rfl⟩
  · exact .inr ⟨_, _, rfl, rfl, rfl⟩

theorem accept_maxOutput (i b : ℕ) :
    (m.accept w i b).2 = some (w.mask (i + b)) ∧ (m.accept w i b).1.started ∧
      (m.accept w i b).1.maxOutput =
        if !m.started || w.isSeqHigherThan (w.mask (i + b)) m.maxOutput then w.mask (i + b)
        else m.maxOutput := by
  rw [accept]
  by_cases hstarted : m.started
  · simp [hstarted]
  · simp [hstarted]

theorem input_maxOutput {output : ℕ} (h : (m.input w i).2 = some output) :
    output < 2 * w.half ∧ (m.input w i).1.started ∧ (m.input w i).1.maxOutput =
      if !m.started || w.isSeqHigherThan output m.maxOutput then output else m.maxOutput := by
  rcases input_cases i with ⟨hnone, -⟩ | ⟨m', b, heq, hmax, hstarted⟩
  · rw [hnone] at h
    cases h
  obtain ⟨hsome, hstarted', hmax'⟩ := accept_maxOutput i b
  rw [heq, hsome] at h
  obtain rfl := Option.some.inj h
  rw [heq, hmax', hstarted, hmax]
  exact ⟨w.mask_lt _, hstarted', rfl⟩

theorem next_maxOutput_lt (h : m.maxOutput < 2 * w.half) (c : Call) :
    (next w m c).maxOutput < 2 * w.half := by
  cases c with
  | sync _ => exact h
  | drop i =>
    rw [next, call, drop]
    split_ifs
    · exact h
    · exact h
  | input i =>
    rw [next, call]
    rcases input_cases i with ⟨-, hmax, -⟩ | ⟨m', b, heq, hmax, -⟩
    · rw [hmax]
      exact h
    rw [heq, (accept_maxOutput i b).2.2]
    split_ifs
    · exact w.mask_lt _
    · rw [hmax]
      exact h

/-- The epoch with its highest input `top`, which has the highest output. -/
structure Numbers (w : SeqWidth) (x g J top : ℕ) (R : List ℕ) (m : SeqManager) : Prop extends
    InEpoch w x g J R m where
  top_le : top ≤ J
  top_not_mem : top ∉ R
  maxOutput : m.maxOutput = w.num g (advance R top)

theorem numbers_sync {total : ℕ} (hx : x ≤ w.maxValue)
    (htotal : m.maxOutput = total % (2 * w.half)) : Numbers w x total 0 0 [] (m.sync w x) := by
  obtain ⟨hstarted, hsorted, hinside, F, D, hR, hrec⟩ := inEpoch_sync hx
  have hcast : (m.maxOutput : ZMod (2 * w.half)) = total := by
    rw [htotal, ZMod.natCast_mod]
  refine ⟨⟨hstarted, hsorted, hinside, F, D, hR, hrec.maxInput, hrec.dropped, hrec.far, hrec.near,
    ?_⟩, le_refl 0, not_mem_nil, ?_⟩
  · rw [hrec.base, hcast]
  · show m.maxOutput = w.mask (total + (0 - 0))
    rw [w.mask_eq]
    exact htotal

theorem InEpoch.not_mem (h : InEpoch w x g J R m) (hbehind : J < j + w.half)
    (hdropped : w.num x j ∉ m.dropped) : j ∉ R := by
  obtain ⟨F, D, rfl, hrec⟩ := h.split
  rw [hrec.dropped] at hdropped
  intro hmem
  rcases mem_append.mp hmem with hF | hD
  · have := hrec.far j hF
    omega
  · exact hdropped (mem_map_of_mem hD)

theorem Numbers.input {top j : ℕ} (h : Numbers w x g J top R m) (hahead : j < top + w.half)
    (hbehind : J < j + w.half) (hmem : j ∉ R) :
    (m.input w (w.num x j)).2 = some (w.num g (advance R j)) ∧
      Numbers w x g (max J j) (max top j) R (m.input w (w.num x j)).1 := by
  have htop := h.top_le
  obtain ⟨hout, hin⟩ := h.toInEpoch.input (by omega) hbehind (countP_lt_le_self h.sorted j)
  rw [if_neg hmem] at hout
  obtain ⟨-, -, hmax⟩ := input_maxOutput hout
  refine ⟨hout, hin, by omega, ?_, ?_⟩
  · rcases Nat.le_total top j with hle | hle
    · rwa [Nat.max_eq_right hle]
    · rw [Nat.max_eq_left hle]
      exact h.top_not_mem
  · rw [hmax, h.maxOutput]
    rcases Nat.lt_or_ge top j with hlt | hge
    · -- a new highest input
      have hadvance := advance_lt_advance h.sorted h.top_not_mem hlt
      have hnear := (advance_le_advance h.sorted hlt.le).2
      have hhigher : w.isSeqHigherThan (w.num g (advance R j)) (w.num g (advance R top)) :=
        (higher_num_iff (by omega) (by omega)).mpr hadvance
      rw [Nat.max_eq_right hlt.le, hhigher, Bool.or_true, if_pos rfl]
    · obtain ⟨hadvance, hnear⟩ := advance_le_advance h.sorted hge
      have hhigher : ¬w.isSeqHigherThan (w.num g (advance R j)) (w.num g (advance R top)) := by
        rw [higher_num_iff (by omega) (by omega)]
        omega
      rw [Nat.max_eq_left hge]
      by_cases hstarted : m.started
      · rw [if_neg (by simp [hstarted, hhigher])]
      -- nothing came before
      have hJ := h.started (by simpa using hstarted)
      obtain rfl : j = top := by omega
      split_ifs
      · rfl
      · rfl

theorem Numbers.drop {top : ℕ} (h : Numbers w x g J top R m) (hstarted : m.started) (hpos : 0 < j)
    (hahead : j < top + w.half) (hbehind : J < j + w.half)
    (horder : J < j → ∀ last ∈ m.dropped.getLast?, w.isSeqLowerThan last (w.num x j)) :
    m.drop w (w.num x j) = m ∧ j ≤ J ∨
      J < j ∧ Numbers w x g j top (R ++ [j]) (m.drop w (w.num x j)) := by
  have htop := h.top_le
  rcases h.toInEpoch.drop hstarted hpos (by omega) hbehind horder with hsame | ⟨hlt, hd⟩
  · exact .inl hsame
  refine .inr ⟨hlt, hd, by omega, ?_, ?_⟩
  · rw [mem_append, mem_singleton]
    rintro (hmem | rfl)
    · exact h.top_not_mem hmem
    · omega
  · have hsame : (m.drop w (w.num x j)).maxOutput = m.maxOutput := by
      rw [SeqManager.drop]
      split_ifs <;> rfl
    rw [hsame, h.maxOutput, advance_append]
    intro p hp
    rw [mem_singleton.mp hp]
    omega

theorem run_maxOutput_lt (h : m.maxOutput < 2 * w.half) (calls : List Call) :
    (run w m calls).maxOutput < 2 * w.half := by
  induction calls generalizing m with
  | nil => exact h
  | cons c calls ih => exact ih (next_maxOutput_lt h c)

theorem gap_travelled (h : m.maxOutput < 2 * w.half) {calls : List Call}
    (hlt : travelled w m calls < 2 * w.half) :
    gap w.half m.maxOutput (run w m calls).maxOutput = travelled w m calls := by
  induction calls generalizing m with
  | nil => exact gap_self
  | cons c calls ih =>
    have hnext := next_maxOutput_lt h c
    rw [travelled] at hlt ⊢
    have hrest : gap w.half (next w m c).maxOutput (run w m (c :: calls)).maxOutput =
        travelled w (next w m c) calls := ih hnext (by omega)
    rw [gap_trans h hnext (by omega), hrest]

/-! ### The outputs of an epoch -/

def afterSync (w : SeqWidth) (m : SeqManager) (x : ℕ) (calls : List Call) : SeqManager :=
  run w (m.sync w x) calls

/-- How `Input(i)` renumbers after the calls `before`, `Sync(x)` and the calls of the
epoch. -/
structure Renumbers (w : SeqWidth) (before : List Call) (x : ℕ) (calls : List Call)
    (i : ℕ) : Prop where
  /-- The recorded numbers are rejected, and those before `i` are left out. -/
  output : ((afterSync w (run w new before) x calls).input w i).2 =
    if i ∈ recorded w ((run w new before).sync w x) calls then none
    else some (w.sub (((run w new before).sync w x).base + i)
      ((recorded w ((run w new before).sync w x) calls).countP (w.isSeqLowerThan · i)))
  /-- An earlier accepted input of the epoch with the same number has the same output. -/
  again : ∀ earlier later a, calls = earlier ++ .input i :: later →
    ((afterSync w (run w new before) x earlier).input w i).2 = some a →
    ((afterSync w (run w new before) x calls).input w i).2 = some a
  /-- The output of one with another number is another one, on the same side. -/
  order : ∀ earlier k later a b, calls = earlier ++ .input k :: later → k ≠ i →
    ((afterSync w (run w new before) x earlier).input w k).2 = some a →
    ((afterSync w (run w new before) x calls).input w i).2 = some b →
    a ≠ b ∧ (w.isSeqLowerThan a b ↔ w.isSeqLowerThan k i)
  /-- The output is higher than the highest one at any point less than half a circle of
  outputs ago, such as this `Sync`. -/
  higher : ∀ first rest b, before = first ++ rest →
    ((afterSync w (run w new before) x calls).input w i).2 = some b →
    travelled w (run w new first) rest + gap w.half (run w new before).maxOutput b < w.half →
    w.isSeqHigherThan b (run w new first).maxOutput

variable {calls : List Call} {i : ℕ}

theorem mem_map_num (hD : ∀ p ∈ D, p < w.half) (hi : InWindow w x i) :
    i ∈ D.map (w.num x) ↔ w.sub i x ∈ D := by
  have hlt := hi.2.2
  rw [mem_map]
  constructor
  · rintro ⟨p, hp, heq⟩
    have hp' := hD p hp
    rcases Nat.lt_trichotomy p (w.sub i x) with hlt' | rfl | hlt'
    · exact absurd (heq.trans hi.num_sub.symm) (SeqWidth.num_ne hlt' (by omega))
    · exact hp
    · exact absurd (hi.num_sub.trans heq.symm) (SeqWidth.num_ne hlt' (by omega))
  · intro hmem
    exact ⟨_, hmem, hi.num_sub⟩

theorem countP_map_num (hD : ∀ p ∈ D, p < w.half) (hi : InWindow w x i) :
    (D.map (w.num x)).countP (w.isSeqLowerThan · i) = D.countP (· < w.sub i x) := by
  rw [countP_map]
  refine countP_congr fun p hp => ?_
  rw [Function.comp_apply, decide_eq_true_eq]
  conv_lhs => rw [← hi.num_sub]
  have hp' := hD p hp
  have hlt := hi.2.2
  exact lower_num_iff (by omega) (by omega)

theorem num_advance {base : ℕ} (hbase : (base : ZMod (2 * w.half)) = g - x)
    (hcount : D.countP (· < w.sub i x) ≤ w.sub i x) :
    w.num g (advance D (w.sub i x)) = w.sub (base + i) (D.countP (· < w.sub i x)) := by
  refine w.mask_congr ?_
  have hmod := w.cast_sub (base + i) (D.countP (· < w.sub i x))
  rw [SeqWidth.sub, w.cast_mask] at hmod
  rw [hmod, advance, Nat.cast_add, Nat.cast_sub hcount, w.cast_sub, Nat.cast_add, hbase]
  ring

theorem exists_inEpoch (hx : x ≤ w.maxValue) (hcalls : ∀ c ∈ calls, OfEpoch w x c)
    (hdrop : Runs.Along (Runs.always (next w)) DropOnceStarted (m.sync w x) calls) :
    ∃ J D, InEpoch w x m.maxOutput J D (afterSync w m x calls) ∧ J < w.half ∧
      recorded w (m.sync w x) calls = D.map (w.num x) := by
  have hhalf := w.two_le_half
  obtain ⟨J, D, hext, hrec⟩ := (inEpoch_sync hx).extend (by omega) hcalls hdrop
  exact ⟨J, D, hext.inEpoch, hext.lt_half, hrec⟩

theorem InEpoch.input_window (h : InEpoch w x g J D m) (hJ : J < w.half) (hi : InWindow w x i) :
    (m.input w i).2 = if w.sub i x ∈ D then none else some (w.num g (advance D (w.sub i x))) := by
  have hcount := countP_lt_le h.sorted (fun p hp => (h.inside p hp).1) hi.2.1
  have hlt := hi.2.2
  have hinput := (@InEpoch.input w x J g D m h (w.sub i x) (by omega) (by omega) (by omega)).1
  rwa [hi.num_sub] at hinput

theorem exists_accepted {earlier later : List Call}
    (hx : x ≤ w.maxValue) (hcalls : ∀ c ∈ earlier ++ .input k :: later, OfEpoch w x c)
    (hdrop : Runs.Along (Runs.always (next w)) DropOnceStarted (m.sync w x)
      (earlier ++ .input k :: later)) (hacc : ((afterSync w m x earlier).input w k).2 = some a) :
    ∃ J D, InEpoch w x m.maxOutput J D (afterSync w m x (earlier ++ .input k :: later)) ∧
      J < w.half ∧ w.sub k x ∉ D ∧ a = w.num m.maxOutput (advance D (w.sub k x)) := by
  obtain ⟨hearlier, hrest⟩ := Runs.along_always_append.mp hdrop
  rw [← run_eq_foldl] at hrest
  obtain ⟨-, hlater⟩ := Runs.along_always_cons.mp hrest
  obtain ⟨J, D, h, hJ, -⟩ := exists_inEpoch hx (fun c hc => hcalls c (by simp [hc])) hearlier
  have hk : InWindow w x k := hcalls (.input k) (by simp)
  have hend : afterSync w m x (earlier ++ .input k :: later) =
      run w (afterSync w m x earlier) (.input k :: later) := by
    rw [afterSync, afterSync, run_eq_foldl, foldl_append, ← run_eq_foldl, ← run_eq_foldl]
  rw [hend]
  exact h.accepted hJ hk hacc (fun c hc => hcalls c (by simp [hc])) hlater

/-- **The renumbering of an epoch.**  If nothing is dropped between `Sync` and the first
accepted input, then all inputs of the window are renumbered as they should be. -/
theorem epoch_renumbers (w : SeqWidth) (before : List Call) (x : ℕ) (hx : x ≤ w.maxValue)
    (calls : List Call) (hcalls : ∀ c ∈ calls, OfEpoch w x c)
    (hdrop : Runs.Along (Runs.always (next w)) DropOnceStarted ((run w new before).sync w x) calls)
    (i : ℕ) (hi : InWindow w x i) : Renumbers w before x calls i := by
  have hnew : new.maxOutput < 2 * w.half := by
    have := w.two_le_half
    change 0 < 2 * w.half
    omega
  obtain ⟨J, D, h, hJ, hrec⟩ := exists_inEpoch hx hcalls hdrop
  have hpos : ∀ p ∈ D, 0 < p := fun p hp => (h.inside p hp).1
  have hhalf : ∀ p ∈ D, p < w.half := by
    intro p hp
    have := h.inside p hp
    omega
  have hcount := countP_lt_le h.sorted hpos hi.2.1
  constructor
  case output =>
    have hbase : (((run w new before).sync w x).base : ZMod (2 * w.half)) =
        (run w new before).maxOutput - x := w.cast_sub _ _
    rw [h.input_window hJ hi, hrec, num_advance hbase (by omega), countP_map_num hhalf hi]
    simp only [mem_map_num hhalf hi]
  case again =>
    rintro earlier later a rfl hacc
    obtain ⟨J', D', h', hJ', hmem, rfl⟩ := exists_accepted hx hcalls hdrop hacc
    rw [h'.input_window hJ' hi, if_neg hmem]
  case order =>
    rintro earlier k later a b rfl hne hacc hb
    have hk : InWindow w x k := hcalls (.input k) (by simp)
    obtain ⟨J', D', h', hJ', hmem, rfl⟩ := exists_accepted hx hcalls hdrop hacc
    rw [h'.input_window hJ' hi] at hb
    split_ifs at hb with hmem'
    obtain rfl := Option.some.inj hb
    have hside : w.isSeqLowerThan k i ↔ w.sub k x < w.sub i x := by
      conv_lhs => rw [← hk.num_sub, ← hi.num_sub]
      have hklt := hk.2.2
      have hilt := hi.2.2
      exact lower_num_iff (by omega) (by omega)
    have hsub : w.sub k x ≠ w.sub i x := by
      intro heq
      exact hne (by rw [← hk.num_sub, heq, hi.num_sub])
    rw [hside]
    rcases Nat.lt_or_gt_of_ne hsub with hlt | hgt
    · have hlower := h'.lower_output hi.2.2 hmem hlt
      refine ⟨?_, iff_of_true hlower hlt⟩
      intro heq
      rw [heq, w.isSeqLowerThan_iff] at hlower
      exact lower_irrefl hlower
    · have hlower := h'.lower_output hk.2.2 hmem' hgt
      rw [w.isSeqLowerThan_iff] at hlower
      refine ⟨?_, iff_of_false ?_ (by omega)⟩
      · intro heq
        rw [heq] at hlower
        exact lower_irrefl hlower
      · rw [w.isSeqLowerThan_iff]
        exact lower_asymm hlower
  case higher =>
    rintro first rest b rfl hb hnear
    rw [h.input_window hJ hi] at hb
    split_ifs at hb
    obtain rfl := Option.some.inj hb
    have hfirst := @run_maxOutput_lt w new hnew first
    have hsync := @run_maxOutput_lt w new hnew (first ++ rest)
    have hsplit : run w new (first ++ rest) = run w (run w new first) rest := by
      rw [run_eq_foldl, foldl_append, ← run_eq_foldl, ← run_eq_foldl]
    have hadvance := advance_pos h.sorted hpos hi.2.1
    have hle : advance D (w.sub i x) ≤ w.sub i x := Nat.sub_le _ _
    have hlt := hi.2.2
    -- the output is ahead of the highest one at the `Sync`
    have hself : w.num (run w new (first ++ rest)).maxOutput 0 =
        (run w new (first ++ rest)).maxOutput := by
      rw [SeqWidth.num, Nat.add_zero, w.mask_eq, Nat.mod_eq_of_lt hsync]
    have hout := @SeqWidth.gap_num w (run w new (first ++ rest)).maxOutput 0
      (advance D (w.sub i x)) (Nat.zero_le _) (by omega)
    rw [hself] at hout
    have htravel := @gap_travelled w _ hfirst rest (by omega)
    rw [← hsplit] at htravel
    have hgap := @gap_trans w.half _ _
      (w.num (run w new (first ++ rest)).maxOutput (advance D (w.sub i x))) hfirst hsync
      (by omega)
    exact w.isSeqHigherThan_iff.mpr (lower_of_gap hfirst (by omega) (by omega))

instance (w : SeqWidth) (x : ℕ) : (c : Call) → Decidable (OfEpoch w x c)
  | .sync _ => .isFalse id
  | .drop i => inferInstanceAs (Decidable (InWindow w x i))
  | .input i => inferInstanceAs (Decidable (InWindow w x i))

instance (m : SeqManager) : (c : Call) → Decidable (DropOnceStarted m c)
  | .drop _ => inferInstanceAs (Decidable (m.started = true))
  | .sync _ => .isTrue trivial
  | .input _ => .isTrue trivial

/-- Late, repeated and dropped numbers around the end of the circle. -/
theorem epoch_renumbers_wrapping :
    Renumbers .uint16 [.input 7, .sync 100, .input 103, .input 101] 65534
      [.input 1, .drop 3, .input 0, .drop 2, .input 1, .input 4] 2 :=
  epoch_renumbers .uint16 [.input 7, .sync 100, .input 103, .input 101] 65534 (by decide)
    [.input 1, .drop 3, .input 0, .drop 2, .input 1, .input 4] (by decide +kernel)
    (by decide +kernel) 2 (by decide +kernel)

/-- `Sync(0)`, `Drop(3)` and the first inputs `1` and `2`: both have the output `1`, and then
the dropped number `3` is accepted. -/
theorem drop_before_first_input :
    (∀ c ∈ [Call.drop 3, .input 1, .input 2, .input 3], OfEpoch .uint16 0 c) ∧
      ((afterSync .uint16 new 0 [.drop 3]).input .uint16 1).2 = some 1 ∧
      ((afterSync .uint16 new 0 [.drop 3, .input 1]).input .uint16 2).2 = some 1 ∧
      ((afterSync .uint16 new 0 [.drop 3, .input 1, .input 2]).input .uint16 3).2 = some 2 ∧
      ¬Renumbers .uint16 [] 0 [.drop 3, .input 1] 2 := by
  refine ⟨by decide +kernel, by decide +kernel, by decide +kernel, by decide +kernel, ?_⟩
  intro h
  have hdistinct := (h.order [.drop 3] 1 [] 1 1 rfl (by decide) (by decide +kernel)
    (by decide +kernel)).1
  exact hdistinct rfl

end SeqManager

end Mediasoup
