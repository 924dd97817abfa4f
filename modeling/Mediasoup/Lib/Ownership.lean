/-
A pool of resources and the table of those who own them.

A resource is taken from its creation to its release; the table says which places hold
which resources.  Nothing leaks and nothing dangles if the resources of the pool are
exactly those in the table, each at one place (`Owned`).

* `Owned.acquire` — a resource that was not in the pool goes to an empty place;
* `Owned.release` — a place is emptied and its resource leaves the pool.
-/
import Mathlib.Data.Finset.Basic
import Mathlib.Logic.Function.Basic

namespace Ownership

open Function

variable {κ ι : Type*}

/-- The pool holds the resources of the table, each of which has one place. -/
structure Owned (table : κ → Option ι) (pool : Finset ι) : Prop where
  mem_iff : ∀ x, x ∈ pool ↔ ∃ k, table k = some x
  unique : ∀ k k' x, table k = some x → table k' = some x → k = k'

namespace Owned

variable {table : κ → Option ι} {pool : Finset ι} {k : κ} {x : ι}

theorem empty : Owned (fun _ : κ => (none : Option ι)) ∅ where
  mem_iff x := by simp
  unique k k' x h := by cases h

theorem mem (h : Owned table pool) (hk : table k = some x) : x ∈ pool :=
  (h.mem_iff x).mpr ⟨k, hk⟩

variable [DecidableEq κ] [DecidableEq ι]

theorem acquire (h : Owned table pool) (hk : table k = none) (hx : x ∉ pool) :
    Owned (update table k (some x)) (insert x pool) where
  mem_iff y := by
    rw [Finset.mem_insert, h.mem_iff y]
    simp only [update_apply]
    grind
  unique k₁ k₂ y := by
    -- the old places do not hold the new resource
    have hold : ∀ k', table k' ≠ some x := fun k' hk' => hx (h.mem hk')
    have hunique := h.unique k₁ k₂ y
    simp only [update_apply]
    grind

theorem release (h : Owned table pool) (hk : ∀ y, table k = some y → y = x)
    (hx : x ∈ pool → table k = some x) : Owned (update table k none) (pool.erase x) where
  mem_iff y := by
    have hunique := fun k' => h.unique k' k y
    have hmem := fun k' => h.mem (k := k') (x := y)
    rw [Finset.mem_erase, h.mem_iff y]
    simp only [update_apply]
    grind
  unique k₁ k₂ y := by
    have hunique := h.unique k₁ k₂ y
    simp only [update_apply]
    grind

end Owned

end Ownership
