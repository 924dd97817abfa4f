/-
Runs of a system that takes events one by one and may abort.

`step s e` is the state after the event `e`, or the reason for which the system
stops for good.

* `run_invariant` — what every admissible step preserves holds after a run of
  admissible steps.
* `run_meets` — the same for every step, with the reasons that may stop the system.
* `along_iff_run_ok` — if a step aborts for a bad reason exactly when it is not
  admissible, then so does a run exactly when one of its steps is not.
-/
import Mathlib.Logic.Basic

open List

namespace Runs

theorem bind_eq_ok {ε α β : Type} {x : Except ε α} {f : α → Except ε β} {b : β} :
    (x >>= f) = .ok b ↔ ∃ a, x = .ok a ∧ f a = .ok b := by
  cases x with
  | error reason =>
    constructor
    · intro h
      cases h
    · rintro ⟨a, ha, -⟩
      cases ha
  | ok a =>
    constructor
    · intro h
      exact ⟨a, rfl, h⟩
    · rintro ⟨a', ha, h⟩
      cases ha
      exact h

variable {σ α ε : Type*}

/-- Process the events in order, up to the first abort. -/
def run (step : σ → α → Except ε σ) : σ → List α → Except ε σ
  | s, [] => .ok s
  | s, e :: events =>
    match step s e with
    | .ok s' => run step s' events
    | .error reason => .error reason

/-- Each event of the run is processed in a state in which it is admissible. -/
def Along (step : σ → α → Except ε σ) (P : σ → α → Prop) : σ → List α → Prop
  | _, [] => True
  | s, e :: events => P s e ∧ ∀ s', step s e = .ok s' → Along step P s' events

/-- A step that never aborts. -/
def always (step : σ → α → σ) (s : σ) (e : α) : Except Empty σ := .ok (step s e)

variable {Bad : ε → Prop} {e : α} {events : List α}

variable {s : σ} {τ : Type*}

theorem along_always_cons {step : σ → α → σ} {P : σ → α → Prop} :
    Along (always step) P s (e :: events) ↔ P s e ∧ Along (always step) P (step s e) events := by
  constructor
  · intro h
    exact ⟨h.1, h.2 _ rfl⟩
  · rintro ⟨he, h⟩
    refine ⟨he, fun s' hs' => ?_⟩
    cases hs'
    exact h

theorem along_always_append {step : σ → α → σ} {P : σ → α → Prop} {later : List α} :
    Along (always step) P s (events ++ later) ↔
      Along (always step) P s events ∧ Along (always step) P (events.foldl step s) later := by
  induction events generalizing s with
  | nil => exact ⟨fun h => ⟨trivial, h⟩, And.right⟩
  | cons e events ih =>
    rw [cons_append, along_always_cons, along_always_cons, ih, foldl_cons, and_assoc]

theorem run_always {step : σ → α → σ} :
    run (always step) s events = .ok (events.foldl step s) := by
  induction events generalizing s with
  | nil => rfl
  | cons e events ih => exact ih

/-- The reason for which the system stopped. -/
def stopReason {τ : Type*} : Except ε τ → Option ε
  | .ok _ => none
  | .error reason => some reason

variable {x : Except ε τ}

theorem stopReason_eq_some {reason : ε} : stopReason x = some reason ↔ x = .error reason := by
  cases x with
  | error _ | ok _ => simp [stopReason]

theorem exists_ok_of_map {τ υ : Type*} {x : Except ε τ} {f : τ → υ} {b : υ}
    (h : x.toOption.map f = some b) : ∃ a, x = .ok a ∧ f a = b := by
  cases x with
  | error reason => cases h
  | ok a => exact ⟨a, rfl, Option.some.inj h⟩

instance decidableAlong {step : σ → α → Except ε σ} {P : σ → α → Prop}
    [∀ s e, Decidable (P s e)] : ∀ s events, Decidable (Along step P s events)
  | _, [] => .isTrue trivial
  | s, e :: events =>
    match hs : step s e with
    | .error _ => decidable_of_iff (P s e) (by simp [Along, hs])
    | .ok s' =>
      haveI : Decidable (Along step P s' events) := decidableAlong s' events
      decidable_of_iff (P s e ∧ Along step P s' events) (by simp [Along, hs])

/-- The system does not abort for a reason in `Bad`. -/
def Avoids {τ : Type*} (Bad : ε → Prop) (outcome : Except ε τ) : Prop :=
  ∀ reason, outcome = .error reason → ¬Bad reason

variable {step : σ → α → Except ε σ} {P : σ → α → Prop} {Inv : σ → Prop}

theorem run_cons_ok {s' : σ} (h : step s e = .ok s') (events : List α) :
    run step s (e :: events) = run step s' events := by
  simp only [run, h]

theorem run_cons_error {reason : ε} (h : step s e = .error reason) (events : List α) :
    run step s (e :: events) = .error reason := by
  simp only [run, h]

theorem run_append {σ α ε : Type} {step : σ → α → Except ε σ} (s : σ) (events later : List α) :
    run step s (events ++ later) = run step s events >>= fun s' => run step s' later := by
  induction events generalizing s with
  | nil => rfl
  | cons e events ih =>
    cases hstep : step s e with
    | error reason =>
      rw [cons_append, run_cons_error hstep, run_cons_error hstep]
      rfl
    | ok s' => rw [cons_append, run_cons_ok hstep, run_cons_ok hstep, ih]

theorem Along.append {σ α ε : Type} {step : σ → α → Except ε σ} {P : σ → α → Prop}
    {s : σ} {events later : List α} (h : Along step P s (events ++ later)) :
    Along step P s events ∧ ∀ s', run step s events = .ok s' → Along step P s' later := by
  induction events generalizing s with
  | nil =>
    refine ⟨trivial, fun s' hs' => ?_⟩
    cases hs'
    exact h
  | cons e events ih =>
    refine ⟨⟨h.1, fun s' hs' => (ih (h.2 s' hs')).1⟩, fun s'' hrun => ?_⟩
    cases hstep : step s e with
    | error reason =>
      rw [run_cons_error hstep] at hrun
      cases hrun
    | ok s' =>
      rw [run_cons_ok hstep] at hrun
      exact (ih (h.2 s' hstep)).2 s'' hrun

theorem along_of_forall (h : ∀ s e, P s e) :
    ∀ (events : List α) (s : σ), Along step P s events := by
  intro events
  induction events with
  | nil => exact fun _ => trivial
  | cons e events ih => exact fun s => ⟨h s e, fun s' _ => ih s'⟩

/-- **The invariant rule.** -/
theorem run_invariant (hstep : ∀ s e s', Inv s → P s e → step s e = .ok s' → Inv s') :
    ∀ (events : List α) (s s' : σ), Inv s → Along step P s events →
      run step s events = .ok s' → Inv s' := by
  intro events
  induction events with
  | nil =>
    intro s s' hinv _ hrun
    cases hrun
    exact hinv
  | cons e events ih =>
    intro s s' hinv halong hrun
    cases hs : step s e with
    | error reason =>
      rw [run_cons_error hs] at hrun
      cases hrun
    | ok s₁ =>
      rw [run_cons_ok hs] at hrun
      exact ih s₁ s' (hstep s e s₁ hinv halong.1 hs) (halong.2 s₁ hs) hrun

/-- The system ends in a state with `Q`, or aborts for a reason that is not bad. -/
def Meets {τ : Type*} (Bad : ε → Prop) (Q : τ → Prop) : Except ε τ → Prop
  | .ok a => Q a
  | .error reason => ¬Bad reason

theorem Meets.bind {ε τ υ : Type} {Bad : ε → Prop} {Q : τ → Prop} {R : υ → Prop}
    {x : Except ε τ} {f : τ → Except ε υ} (hx : Meets Bad Q x)
    (hf : ∀ a, Q a → Meets Bad R (f a)) : Meets Bad R (x >>= f) := by
  cases x with
  | error reason => exact hx
  | ok a => exact hf a hx

theorem Meets.mono {Q R : τ → Prop} (hx : Meets Bad Q x) (h : ∀ a, Q a → R a) : Meets Bad R x := by
  cases x with
  | error reason => exact hx
  | ok a => exact h a hx

theorem Meets.map {ε τ υ : Type} {Bad : ε → Prop} {Q : τ → Prop} {R : υ → Prop} {x : Except ε τ}
    {f : τ → υ} (hx : Meets Bad Q x) (h : ∀ a, Q a → R (f a)) : Meets Bad R (x.map f) := by
  cases x with
  | error reason => exact hx
  | ok a => exact h a hx

theorem Meets.mapError {ε ε' τ : Type} {Bad : ε' → Prop} {Q : τ → Prop} {x : Except ε τ}
    {f : ε → ε'} (hx : Meets (fun _ => True) Q x) : Meets Bad Q (x.mapError f) := by
  cases x with
  | error reason => exact absurd trivial hx
  | ok a => exact hx

theorem run_meets_along (hstep : ∀ s e, Inv s → P s e → Meets Bad Inv (step s e)) :
    ∀ (events : List α) (s : σ), Inv s → Along step P s events →
      Meets Bad Inv (run step s events) := by
  intro events
  induction events with
  | nil => exact fun s hinv _ => hinv
  | cons e events ih =>
    intro s hinv halong
    have he := hstep s e hinv halong.1
    cases hs : step s e with
    | error reason =>
      rw [hs] at he
      rw [run_cons_error hs]
      exact he
    | ok s' =>
      rw [hs] at he
      rw [run_cons_ok hs]
      exact ih s' he (halong.2 s' hs)

theorem run_meets (hstep : ∀ s e, Inv s → Meets Bad Inv (step s e)) (events : List α) (s : σ)
    (hinv : Inv s) : Meets Bad Inv (run step s events) :=
  run_meets_along (fun s e h _ => hstep s e h) events s hinv
    (along_of_forall (fun _ _ => trivial) events s)

theorem Meets.exists_ok {Q : τ → Prop} (hx : Meets (fun _ => True) Q x) : ∃ a, x = .ok a ∧ Q a := by
  cases x with
  | error reason => exact absurd trivial hx
  | ok a => exact ⟨a, rfl, hx⟩

/-- **Bad aborts.**  The invariant is kept by every step that succeeds; in a state
with the invariant a step is admissible exactly when it avoids the bad reasons. -/
theorem along_iff_run_ok (hstep : ∀ s e s', Inv s → step s e = .ok s' → Inv s')
    (hbad : ∀ s e, Inv s → (P s e ↔ Avoids Bad (step s e))) : ∀ (events : List α) (s : σ), Inv s →
      (Avoids Bad (run step s events) ↔ Along step P s events) := by
  intro events
  induction events with
  | nil =>
    intro s _
    refine ⟨fun _ => trivial, fun _ reason h => ?_⟩
    cases h
  | cons e events ih =>
    intro s hinv
    have hP := hbad s e hinv
    cases hs : step s e with
    | error reason =>
      -- the run stops here, so only this step counts
      rw [run_cons_error hs, ← hs, ← hP]
      refine ⟨fun h => ⟨h, fun s' hs' => ?_⟩, fun h => h.1⟩
      rw [hs] at hs'
      cases hs'
    | ok s₁ =>
      have hne : P s e := hP.mpr fun reason h => by rw [hs] at h; cases h
      rw [run_cons_ok hs, ih s₁ (hstep s e s₁ hinv hs)]
      refine ⟨fun h => ⟨hne, fun s' hs' => ?_⟩, fun h => h.2 s₁ hs⟩
      rw [hs] at hs'
      cases hs'
      exact h

/-! ### Histories -/

/-- Since the last boundary there was a good entry.  The latest entry comes first. -/
def SinceLast (boundary good : α → Bool) : List α → Bool
  | [] => false
  | e :: earlier => good e || (!boundary e && SinceLast boundary good earlier)

/-- Each entry has the property, given the earlier ones. -/
def Each (P : α → List α → Prop) : List α → Prop
  | [] => True
  | e :: earlier => P e earlier ∧ Each P earlier

theorem SinceLast.of_good {boundary good : α → Bool} (h : good e) (earlier : List α) :
    SinceLast boundary good (e :: earlier) := by
  simp [SinceLast, h]

theorem SinceLast.cons {boundary good : α → Bool} (h : boundary e = false) {earlier : List α}
    (hs : SinceLast boundary good earlier) : SinceLast boundary good (e :: earlier) := by
  simp [SinceLast, h, hs]

end Runs
