/-
Circular numbers: the numbers modulo an even modulus `2 * half`.

`Lower` compares two of them by the shorter way around; two numbers that are exactly
`half` apart are compared as plain numbers.  It is not transitive, but it is the order of
the offsets on every window of `half` numbers.

* `gap` — the number of steps from one number up to another;
* `lower_iff_gap` — `Lower` in terms of the gap;
* `gap_mod` — the gap of two positions of a run that may wrap any number of times.
-/
import Mathlib.Data.Nat.Notation
import Mathlib.Tactic.SplitIfs

namespace Circular

variable {half a b : ℕ}

/-- The number of steps from `a` up to `b`. -/
def gap (half a b : ℕ) : ℕ := if a ≤ b then b - a else b + 2 * half - a

/-- `a` is lower than `b`. -/
def Lower (half a b : ℕ) : Prop := (a < b ∧ b - a < half) ∨ (b < a ∧ half ≤ a - b)
  deriving Decidable

theorem gap_self : gap half a a = 0 := by
  simp [gap]

theorem gap_eq_zero (ha : a < 2 * half) : gap half a b = 0 ↔ a = b := by
  unfold gap
  split_ifs <;> omega

theorem gap_add_gap (ha : a < 2 * half) (hb : b < 2 * half) (hne : a ≠ b) :
    gap half a b + gap half b a = 2 * half := by
  unfold gap
  split_ifs <;> omega

theorem gap_trans {c : ℕ} (ha : a < 2 * half) (hb : b < 2 * half)
    (hlt : gap half a b + gap half b c < 2 * half) :
    gap half a c = gap half a b + gap half b c := by
  unfold gap at *
  split_ifs at * <;> omega

theorem lower_iff_gap (ha : a < 2 * half) :
    Lower half a b ↔ (0 < gap half a b ∧ gap half a b < half) ∨ (gap half a b = half ∧ b < a) := by
  unfold Lower gap
  split_ifs <;> omega

theorem lower_irrefl : ¬Lower half a a := by
  unfold Lower
  omega

theorem lower_asymm (h : Lower half a b) : ¬Lower half b a := by
  unfold Lower at *
  omega

theorem lower_total (hne : a ≠ b) : Lower half a b ∨ Lower half b a := by
  unfold Lower
  omega

theorem lower_of_gap (ha : a < 2 * half) (hpos : 0 < gap half a b)
    (hlt : gap half a b < half) : Lower half a b :=
  (lower_iff_gap ha).mpr (.inl ⟨hpos, hlt⟩)

/-! ### Numbers in order

`¬Lower half b a` says that `a` is not above `b`.  This is no order, but three numbers of
which each is not above the later ones are on one half of the circle. -/

section Order

variable {c x : ℕ}

section

variable (ha : a < 2 * half)
include ha

theorem not_lower_iff_gap : ¬Lower half b a ↔
    gap half a b < half ∨ (gap half a b = half ∧ b < a) := by
  unfold Lower gap
  split_ifs <;> omega

theorem gap_via (hb : b < 2 * half) : gap half a b + gap half b c = gap half a c ∨
      gap half a b + gap half b c = gap half a c + 2 * half := by
  unfold gap
  split_ifs <;> omega

theorem gap_of_order (hb : b < 2 * half)
    (hab : ¬Lower half b a) (hbc : ¬Lower half c b) (hac : ¬Lower half c a) :
    gap half a b + gap half b c = gap half a c := by
  have hvia := @gap_via half a b c ha hb
  have heq := @gap_eq_zero half a c ha
  rw [not_lower_iff_gap ha] at hab
  rw [not_lower_iff_gap hb] at hbc
  rw [not_lower_iff_gap ha] at hac
  omega

theorem not_lower_above (hb : b < 2 * half) (hc : c < 2 * half)
    (hab : ¬Lower half b a) (hbc : ¬Lower half c b) (hac : ¬Lower half c a)
    (hcx : ¬Lower half x c) (hax : ¬Lower half x a) : ¬Lower half x b := by
  have hfirst := gap_of_order ha hb hab hbc hac
  have hlast := gap_of_order ha hc hac hcx hax
  have hvia := @gap_via half b c x hb hc
  -- the ways from `a` and from `b` are both half a circle only if `a = b`
  have heq := @gap_eq_zero half a b ha
  rw [not_lower_iff_gap ha] at hax
  rw [not_lower_iff_gap hb]
  omega

theorem not_lower_below (hb : b < 2 * half) (hx : x < 2 * half)
    (hab : ¬Lower half b a) (hbc : ¬Lower half c b) (hac : ¬Lower half c a)
    (hxa : ¬Lower half a x) (hxc : ¬Lower half c x) : ¬Lower half b x := by
  have hlast := gap_of_order ha hb hab hbc hac
  have hfirst := gap_of_order hx ha hxa hac hxc
  have hvia := @gap_via half x a b hx ha
  have heq := @gap_eq_zero half b c hb
  rw [not_lower_iff_gap hx] at hxc
  rw [not_lower_iff_gap hx]
  omega

end

end Order

/-! ### Positions of a run -/

theorem mod_add (m k : ℕ) (hk : k < 2 * half) : (m + k) % (2 * half) =
    if m % (2 * half) + k < 2 * half then m % (2 * half) + k
    else m % (2 * half) + k - 2 * half := by
  have hm := Nat.mod_lt m (by omega : 0 < 2 * half)
  rw [Nat.add_mod, Nat.mod_eq_of_lt hk]
  split_ifs with h
  · exact Nat.mod_eq_of_lt h
  · rw [Nat.mod_eq_sub_mod (by omega)]
    exact Nat.mod_eq_of_lt (by omega)

theorem gap_mod {m n : ℕ} (hle : m ≤ n) (hlt : n < m + 2 * half) :
    gap half (m % (2 * half)) (n % (2 * half)) = n - m := by
  obtain ⟨k, rfl⟩ := Nat.exists_eq_add_of_le hle
  have hm := Nat.mod_lt m (by omega : 0 < 2 * half)
  rw [mod_add m k (by omega)]
  unfold gap
  split_ifs <;> omega

end Circular
