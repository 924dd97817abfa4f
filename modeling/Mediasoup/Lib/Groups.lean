/-
A list cut into groups after every `max` elements.

* `flatten_groups` — the groups hold the list, in its order.
* `groups_bounds` — no group is empty and none has more than `max` elements.
* `length_groups` — there are as few groups as possible.
-/
import Mathlib.Data.Nat.Notation
import Mathlib.Tactic.SplitIfs

open List

namespace Groups

variable {α : Type*}

/-- The groups from the open one on. -/
def groupsFrom (max : ℕ) : List α → List α → List (List α)
  | current, [] => if current.isEmpty then [] else [current]
  | current, a :: rest =>
    if current.length = max then current :: groupsFrom max [a] rest
    else groupsFrom max (current ++ [a]) rest

def groups (max : ℕ) (l : List α) : List (List α) := groupsFrom max [] l

theorem flatten_groupsFrom (max : ℕ) (current l : List α) :
    (groupsFrom max current l).flatten = current ++ l := by
  induction l generalizing current with
  | nil =>
    rw [groupsFrom]
    split_ifs with hempty
    · simp [List.isEmpty_iff.mp hempty]
    · simp
  | cons a rest ih =>
    rw [groupsFrom]
    split_ifs with hfull
    · rw [flatten_cons, ih, singleton_append]
    · rw [ih, append_assoc, singleton_append]

variable {max : ℕ}

theorem groupsFrom_bounds (hmax : 0 < max) {current : List α}
    (hcurrent : current.length ≤ max) (l : List α) :
    ∀ g ∈ groupsFrom max current l, g ≠ [] ∧ g.length ≤ max := by
  induction l generalizing current with
  | nil =>
    intro g hg
    rw [groupsFrom] at hg
    split_ifs at hg with hempty
    · cases hg
    · obtain rfl := mem_singleton.mp hg
      exact ⟨fun h => hempty (List.isEmpty_iff.mpr h), hcurrent⟩
  | cons a rest ih =>
    intro g hg
    rw [groupsFrom] at hg
    split_ifs at hg with hfull
    · rcases mem_cons.mp hg with rfl | hg
      · refine ⟨?_, hcurrent⟩
        rintro rfl
        exact absurd hfull (Nat.ne_of_lt hmax)
      · exact @ih [a] (Nat.succ_le_of_lt hmax) g hg
    · refine ih ?_ g hg
      rw [length_append, length_singleton]
      omega

theorem length_groupsFrom (hmax : 0 < max) {current : List α}
    (hcurrent : current.length ≤ max) (l : List α) :
    (groupsFrom max current l).length = (current.length + l.length + (max - 1)) / max := by
  induction l generalizing current with
  | nil =>
    rw [groupsFrom, length_nil, Nat.add_zero]
    split_ifs with hempty
    · have hzero : current.length = 0 := length_eq_zero_iff.mpr (List.isEmpty_iff.mp hempty)
      exact (Nat.div_eq_of_lt (by omega)).symm
    · have hpos := length_pos_iff.mpr fun h => hempty (List.isEmpty_iff.mpr h)
      rw [length_singleton]
      exact (Nat.div_eq_of_lt_le (by omega) (by omega)).symm
  | cons a rest ih =>
    rw [groupsFrom]
    split_ifs with hfull
    · -- a full group counts one, which is `max` in the numerator
      have hsum : current.length + (a :: rest).length + (max - 1) =
          1 + rest.length + (max - 1) + max := by
        rw [hfull, length_cons]
        omega
      rw [length_cons, @ih [a] (Nat.succ_le_of_lt hmax), hsum, Nat.add_div_right _ hmax]
      rfl
    · have hnext : (current ++ [a]).length = current.length + 1 := length_append
      rw [ih (by omega), hnext, length_cons]
      congr 1
      omega

theorem flatten_groups (max : ℕ) (l : List α) : (groups max l).flatten = l :=
  flatten_groupsFrom max [] l

theorem groups_bounds (hmax : 0 < max) (l : List α) : ∀ g ∈ groups max l, g ≠ [] ∧ g.length ≤ max :=
  groupsFrom_bounds hmax (Nat.zero_le _) l

theorem length_groups (hmax : 0 < max) (l : List α) :
    (groups max l).length = (l.length + (max - 1)) / max := by
  rw [groups, length_groupsFrom hmax (Nat.zero_le _), length_nil, Nat.zero_add]

end Groups
