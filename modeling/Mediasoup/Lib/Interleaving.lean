/-
Threads that take turns on a shared state.

A thread has a local state.  A schedule says which thread takes the next step; a step sees the
local state of its own thread and the shared state, and is atomic.

* `locals_run_of_notMem` — a thread that takes no step keeps its local state,
* `run_invariant` — what every step preserves holds after every schedule,
* `run_budget` — a thread whose steps use up a budget has used it up after so many steps.
-/
import Mathlib.Data.List.Count
import Mathlib.Logic.Function.Basic

open List

namespace Interleaving

variable {ι L S : Type}

/-- The shared state and the local states of the threads. -/
structure Config (ι L S : Type) where
  shared : S
  locals : ι → L

variable [DecidableEq ι] (step : ι → L → S → L × S)

def move (c : Config ι L S) (i : ι) : Config ι L S where
  shared := (step i (c.locals i) c.shared).2
  locals := Function.update c.locals i (step i (c.locals i) c.shared).1

def run (c : Config ι L S) (schedule : List ι) : Config ι L S := schedule.foldl (move step) c

variable {step}

section

variable (c : Config ι L S)

theorem run_cons (i : ι) (schedule : List ι) :
    run step c (i :: schedule) = run step (move step c i) schedule := rfl

theorem run_append (schedule later : List ι) :
    run step c (schedule ++ later) = run step (run step c schedule) later :=
  foldl_append

theorem locals_move_self (i : ι) : (move step c i).locals i = (step i (c.locals i) c.shared).1 :=
  Function.update_self ..

theorem locals_move_of_ne {i j : ι} (h : j ≠ i) : (move step c i).locals j = c.locals j :=
  Function.update_of_ne h ..

theorem locals_run_of_notMem {j : ι} {schedule : List ι} (h : j ∉ schedule) :
    (run step c schedule).locals j = c.locals j := by
  induction schedule generalizing c with
  | nil => rfl
  | cons i schedule ih =>
    rw [mem_cons, not_or] at h
    rw [run_cons, ih _ h.2, locals_move_of_ne c h.1]

end

variable {c : Config ι L S}

theorem run_invariant {Inv : Config ι L S → Prop} (hstep : ∀ c i, Inv c → Inv (move step c i))
    (h : Inv c) (schedule : List ι) : Inv (run step c schedule) := by
  induction schedule generalizing c with
  | nil => exact h
  | cons i schedule ih => exact ih (hstep c i h)

theorem run_budget {Inv : Config ι L S → Prop} (hstep : ∀ c i, Inv c → Inv (move step c i))
    {budget : L → ℕ} {d : ι}
    (huse : ∀ c, Inv c → budget (step d (c.locals d) c.shared).1 ≤ budget (c.locals d) - 1)
    (h : Inv c) (schedule : List ι) :
    budget ((run step c schedule).locals d) ≤ budget (c.locals d) - schedule.count d := by
  induction schedule generalizing c with
  | nil => exact Nat.le_refl _
  | cons i schedule ih =>
    refine Nat.le_trans (ih (hstep c i h)) ?_
    by_cases hi : i = d
    · subst hi
      have hused := huse c h
      rw [locals_move_self, count_cons_self]
      omega
    · exact Nat.le_of_eq (by rw [locals_move_of_ne c (Ne.symm hi), count_cons_of_ne hi])

theorem move_eq_self {i : ι}
    (h : step i (c.locals i) c.shared = (c.locals i, c.shared)) : move step c i = c := by
  obtain ⟨shared, locals⟩ := c
  rw [move, h]
  exact congrArg _ (Function.update_eq_self i locals)

end Interleaving
