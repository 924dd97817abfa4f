/-
Handlers that change a state, may throw, and may abort.

A handler that throws leaves the state as it is at that moment; nothing is undone unless the
handler says so.  An abort is for good: a failed assertion, or an object used after it was freed.

`Meets x s Q E` says that `x` does not abort in the state `s`, that `Q` holds of what it returns
and that `E` holds when it throws.

* `Meets.bind`, `Meets.mono`, `meets_catching` — the rules for composed handlers.
-/
import Mathlib.Logic.Basic

/-- The end of a handler. -/
inductive Outcome (σ ε α : Type) where
  | returned (a : α) (s : σ)
  | thrown (e : ε) (s : σ)
  | aborted

/-- A handler on the state `σ` with the errors `ε`. -/
def Handling (σ ε α : Type) : Type := σ → Outcome σ ε α

namespace Handling

variable {σ ε α β : Type}

protected def bind (x : Handling σ ε α) (f : α → Handling σ ε β) : Handling σ ε β := fun s =>
  match x s with
  | .returned a s' => f a s'
  | .thrown e s' => .thrown e s'
  | .aborted => .aborted

instance : Monad (Handling σ ε) where
  pure a := fun s => .returned a s
  bind := Handling.bind

def get : Handling σ ε σ := fun s => .returned s s

def modify (f : σ → σ) : Handling σ ε Unit := fun s => .returned () (f s)

def throw (e : ε) : Handling σ ε α := fun s => .thrown e s

def abort : Handling σ ε α := fun _ => .aborted

def assert (p : Prop) [Decidable p] : Handling σ ε Unit := if p then pure () else abort

/-- A value, or an error. -/
def expect (x : Option α) (e : ε) : Handling σ ε α := x.elim (throw e) pure

/-- If the handler throws, go on with the error. -/
def catching (x : Handling σ ε α) (rescue : ε → Handling σ ε α) : Handling σ ε α := fun s =>
  match x s with
  | .thrown e s' => rescue e s'
  | outcome => outcome

theorem bind_apply (x : Handling σ ε α) (f : α → Handling σ ε β) (s : σ) :
    (x >>= f) s = match x s with
      | .returned a s' => f a s'
      | .thrown e s' => .thrown e s'
      | .aborted => .aborted := rfl

@[simp] theorem pure_apply (a : α) (s : σ) :
    (pure a : Handling σ ε α) s = .returned a s := rfl

@[simp] theorem get_apply (s : σ) : (get : Handling σ ε σ) s = .returned s s := rfl

@[simp] theorem modify_apply (f : σ → σ) (s : σ) :
    (modify f : Handling σ ε Unit) s = .returned () (f s) := rfl

/-- No abort, `Q` of what is returned, and `E` of what is thrown. -/
def Meets (x : Handling σ ε α) (s : σ) (Q : α → σ → Prop) (E : ε → σ → Prop) : Prop :=
  match x s with
  | .returned a s' => Q a s'
  | .thrown e s' => E e s'
  | .aborted => False

variable {s : σ} {Q : α → σ → Prop} {E : ε → σ → Prop}
variable {x : Handling σ ε α} {f : α → Handling σ ε β} {rescue : ε → Handling σ ε α} {e : ε}
  {R : β → σ → Prop} {a : α} {s' : σ}

theorem meets_pure (h : Q a s) : Meets (pure a) s Q E := h

theorem meets_throw (h : E e s) : Meets (throw e) s Q E := h

theorem Meets.mono {Q' : α → σ → Prop} {E' : ε → σ → Prop} (h : Meets x s Q E)
    (hQ : ∀ a s', Q a s' → Q' a s') (hE : ∀ e s', E e s' → E' e s') : Meets x s Q' E' := by
  unfold Meets at h ⊢
  cases hx : x s with
  | returned a s' => exact hQ a s' (by rwa [hx] at h)
  | thrown e s' => exact hE e s' (by rwa [hx] at h)
  | aborted => rwa [hx] at h

theorem Meets.bind (h : Meets x s Q E) (hf : ∀ a s', Q a s' → Meets (f a) s' R E) :
    Meets (x >>= f) s R E := by
  show Meets (.bind x f) s R E
  unfold Meets at h
  cases hx : x s with
  | returned a s' =>
    rw [hx] at h
    simpa only [Meets, Handling.bind, hx] using hf a s' h
  | thrown e s' =>
    rw [hx] at h
    simpa only [Meets, Handling.bind, hx] using h
  | aborted => rw [hx] at h; exact h.elim

theorem Meets.step (hx : x s = .returned a s') (h : Meets (f a) s' R E) :
    Meets (x >>= f) s R E := by
  rw [Meets, bind_apply, hx]
  exact h

theorem Meets.asserted {p : Prop} [Decidable p] {f : Unit → Handling σ ε β} (hp : p)
    (h : Meets (f ()) s R E) : Meets (assert p >>= f) s R E := by
  rw [assert, if_pos hp]
  exact h

theorem meets_catching {E' : ε → σ → Prop} (h : Meets x s Q E)
    (hE : ∀ e s', E e s' → Meets (rescue e) s' Q E') : Meets (catching x rescue) s Q E' := by
  unfold Meets at h
  cases hx : x s with
  | returned a s' =>
    rw [hx] at h
    simpa only [Meets, catching, hx] using h
  | thrown e s' =>
    rw [hx] at h
    simpa only [Meets, catching, hx] using hE e s' h
  | aborted => rw [hx] at h; exact h.elim

theorem catching_congr {y : Handling σ ε α} (h : x s = y s) :
    catching x rescue s = catching y rescue s := by
  rw [catching, catching, h]

theorem catching_returned (hx : x s = .returned a s') : catching x rescue s = .returned a s' := by
  rw [catching, hx]

theorem catching_thrown (hx : x s = .thrown e s') : catching x rescue s = rescue e s' := by
  rw [catching, hx]

theorem bind_returned (hx : x s = .returned a s') : (x >>= f) s = f a s' := by
  rw [bind_apply, hx]

theorem bind_thrown (hx : x s = .thrown e s') : (x >>= f) s = .thrown e s' := by
  rw [bind_apply, hx]

theorem meets_of_eq (hx : x s = .returned a s') (h : Q a s') : Meets x s Q E := by
  rw [Meets, hx]
  exact h

theorem Meets.cases (h : Meets x s Q E) :
    (∃ a s', x s = .returned a s' ∧ Q a s') ∨ ∃ e s', x s = .thrown e s' ∧ E e s' := by
  unfold Meets at h
  cases hx : x s with
  | returned a s' => rw [hx] at h; exact .inl ⟨a, s', rfl, h⟩
  | thrown e s' => rw [hx] at h; exact .inr ⟨e, s', rfl, h⟩
  | aborted => rw [hx] at h; exact h.elim

end Handling
