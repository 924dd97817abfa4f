/-
Requests for key frames (`RTC::KeyFrameRequestManager`).

A request that was sent waits for its key frame under a timer, and may be sent once more.  With a
delay, a second timer holds back the requests that follow.  Timers fire on time.

* `Call.run` — the calls and the timeouts for an SSRC, and whether the listener is notified;
* `Owed` — where a call that was not answered is kept, `Spaced` — what holds back the next one;
* `run_answers` — a call is answered within the delay and a second;
* `run_spaced` — requests that calls lead to are the delay apart;
* `keyFrameNeeded_not_lost` — both, for every run.
-/
import Mathlib.Data.Nat.Notation
import Mathlib.Logic.Function.Basic
import Mediasoup.Lib.Runs

open Function Runs

namespace Mediasoup

namespace KeyFrameRequestManager

def keyFrameRetransmissionWaitTime : ℕ := 1000

/-- A timer is given by the time at which it fires. -/
structure PendingKeyFrameInfo where
  timer : ℕ
  retryOnTimeout : Bool := true

structure KeyFrameRequestDelayer where
  timer : ℕ
  keyFrameRequested : Bool := false

/-- What the two maps have for an SSRC. -/
structure Entry where
  pending : Option PendingKeyFrameInfo := none
  delayer : Option KeyFrameRequestDelayer := none

structure Manager where
  now : ℕ := 0
  entry : UInt32 → Entry := fun _ => {}

section

variable (delay now : ℕ) (e : Entry)

def startDelayer : Entry :=
  if 0 < delay then { e with delayer := some { timer := now + delay } } else e

def keyFrameNeeded : Entry × Bool :=
  match if 0 < delay then e.delayer else none with
  | some delayer => ({ e with delayer := some { delayer with keyFrameRequested := true } }, false)
  | none =>
    let e := startDelayer delay now e
    match e.pending with
    | some info => ({ e with pending := some { info with retryOnTimeout := true } }, false)
    | none => ({ e with pending := some { timer := now + keyFrameRetransmissionWaitTime } }, true)

/-- A pending request that is restarted is like a new one. -/
def forceKeyFrameNeeded : Entry × Bool :=
  ({ startDelayer delay now e with
    pending := some { timer := now + keyFrameRetransmissionWaitTime } }, true)

def keyFrameReceived : Entry × Bool := ({ e with pending := none }, false)

def onKeyFrameRequestTimeout : Entry × Bool :=
  if e.pending.any (·.retryOnTimeout) then
    ({ e with pending := some { timer := now + keyFrameRetransmissionWaitTime
                                retryOnTimeout := false } }, true)
  else ({ e with pending := none }, false)

def onKeyFrameDelayTimeout : Entry × Bool :=
  if e.delayer.any (·.keyFrameRequested) then keyFrameNeeded delay now { e with delayer := none }
  else ({ e with delayer := none }, false)

inductive Call where
  | needed | forceNeeded | received | requestTimeout | delayTimeout
  deriving DecidableEq

def Call.run : Call → Entry × Bool
  | needed => keyFrameNeeded delay now e
  | forceNeeded => forceKeyFrameNeeded delay now e
  | received => keyFrameReceived e
  | requestTimeout => onKeyFrameRequestTimeout now e
  | delayTimeout => onKeyFrameDelayTimeout delay now e

/-- A timeout comes when the timer fires. -/
def Call.Due : Call → Bool
  | requestTimeout => e.pending.any (·.timer = now)
  | delayTimeout => e.delayer.any (·.timer = now)
  | _ => true

def OnTime : Bool :=
  e.pending.all (fun info => now ≤ info.timer ∧
      info.timer ≤ now + keyFrameRetransmissionWaitTime) &&
    e.delayer.all fun delayer => now ≤ delayer.timer ∧ delayer.timer ≤ now + delay

/-- A call at the time `since` will be answered. -/
def Owed (since : ℕ) : Bool :=
  e.delayer.any (fun delayer => delayer.keyFrameRequested ∧ delayer.timer ≤ since + delay) ||
    e.pending.any fun info =>
      info.retryOnTimeout ∧ info.timer ≤ since + delay + keyFrameRetransmissionWaitTime

/-- The delay after the time `since` is over, or a timer waits for it. -/
def Spaced (since : ℕ) : Bool :=
  since ≤ now &&
    (since + delay ≤ now || e.delayer.any fun delayer => since + delay ≤ delayer.timer)

end

variable {delay now since : ℕ} {e : Entry} {call : Call}

attribute [local grind =] OnTime Owed Spaced Call.run Call.Due keyFrameNeeded forceKeyFrameNeeded
  keyFrameReceived startDelayer onKeyFrameRequestTimeout onKeyFrameDelayTimeout

theorem onTime_run (h : OnTime delay now e) : OnTime delay now (call.run delay now e).1 := by
  cases call <;> grind

theorem onTime_elapse (h : OnTime delay now e) (hdue : Call.Due now e .requestTimeout = false ∧
    Call.Due now e .delayTimeout = false) : OnTime delay (now + 1) e := by
  obtain ⟨_ | info, _ | delayer⟩ := e <;> grind

theorem owed_keyFrameNeeded (h : OnTime delay now e)
    (hquiet : (keyFrameNeeded delay now e).2 = false) :
    Owed delay (keyFrameNeeded delay now e).1 now := by
  grind

theorem owed_run (h : Owed delay e since) (htime : OnTime delay now e) (hdue : call.Due now e)
    (hquiet : (call.run delay now e).2 = false ∧ call ≠ .received) :
    Owed delay (call.run delay now e).1 since := by
  obtain ⟨pending, delayer⟩ := e
  cases call with
  | needed => grind
  | forceNeeded => cases hquiet.1
  | received => exact absurd rfl hquiet.2
  | requestTimeout => cases pending <;> grind
  -- the delayer hands the call on to the pending request
  | delayTimeout => cases delayer <;> grind

theorem now_le_of_owed (h : Owed delay e since) (htime : OnTime delay now e) :
    now ≤ since + delay + keyFrameRetransmissionWaitTime := by
  obtain ⟨_ | info, _ | delayer⟩ := e <;> grind

theorem spaced_run (h : Spaced delay now e since) (hdue : call.Due now e) :
    Spaced delay now (call.run delay now e).1 since := by
  obtain ⟨pending, delayer⟩ := e
  cases call with
  | needed | forceNeeded | received | requestTimeout => grind
  | delayTimeout => cases delayer <;> grind

theorem spaced_of_notifies (hnotify : (call.run delay now e).2) (hcall : call ≠ .requestTimeout) :
    Spaced delay now (call.run delay now e).1 now := by
  cases call <;> grind

theorem le_of_spaced (h : Spaced delay now e since) (hdue : call.Due now e)
    (hnotify : (call.run delay now e).2) (hcall : call = .needed ∨ call = .delayTimeout) :
    since + delay ≤ now := by
  obtain ⟨pending, delayer⟩ := e
  obtain rfl | rfl := hcall
  · grind
  · cases delayer <;> grind

/-! ### Runs -/

inductive Event where
  | call (ssrc : UInt32) (call : Call)
  | elapse

section

variable (delay : ℕ) (m : Manager)

def step : Event → Manager
  | .call ssrc call =>
    { m with entry := update m.entry ssrc (call.run delay m.now (m.entry ssrc)).1 }
  | .elapse => { m with now := m.now + 1 }

/-- Time does not pass before the timers that are due have fired. -/
def Enabled : Event → Prop
  | .call ssrc call => call.Due m.now (m.entry ssrc)
  | .elapse => ∀ ssrc, Call.Due m.now (m.entry ssrc) .requestTimeout = false ∧
      Call.Due m.now (m.entry ssrc) .delayTimeout = false

/-- No key frame of the SSRC is requested, and none comes. -/
def Quiet (ssrc : UInt32) : Event → Prop
  | .call ssrc' call => ssrc' = ssrc →
      (call.run delay m.now (m.entry ssrc)).2 = false ∧ call ≠ .received
  | .elapse => True

end

variable {ssrc : UInt32} {m n : Manager} {before after : List Event}

theorem step_call : (step delay m (.call ssrc call)).entry ssrc =
    (call.run delay m.now (m.entry ssrc)).1 :=
  update_self ..

theorem run_rule {P : Manager → Event → Prop} {Q : ℕ → Entry → Prop}
    (hcall : ∀ m call, Q m.now (m.entry ssrc) → P m (.call ssrc call) →
      Q m.now (call.run delay m.now (m.entry ssrc)).1)
    (helapse : ∀ m, Q m.now (m.entry ssrc) → P m .elapse → Q (m.now + 1) (m.entry ssrc)) :
    ∀ events m n, Q m.now (m.entry ssrc) → Along (always (step delay)) P m events →
      run (always (step delay)) m events = .ok n → Q n.now (n.entry ssrc) := by
  refine run_invariant fun m event n h hevent hn => ?_
  cases hn
  cases event with
  | elapse => exact helapse m h hevent
  | call ssrc' call =>
    simp only [step, update_apply]
    split
    · subst ssrc
      exact hcall m call h hevent
    · exact h

theorem onTime_of_run (hbefore : Along (always (step delay)) Enabled {} before)
    (hm : run (always (step delay)) {} before = .ok m) : OnTime delay m.now (m.entry ssrc) :=
  run_rule (Q := fun now e => OnTime delay now e) (fun _ _ h _ => onTime_run h)
    (fun _ h hen => onTime_elapse h (hen ssrc)) before _ m rfl hbefore hm

theorem now_le_of_quiet (htime : OnTime delay m.now (m.entry ssrc))
    (hafter : Along (always (step delay))
      (fun m event => Enabled m event ∧ Quiet delay m ssrc event) m (.call ssrc .needed :: after))
    (hn : run (always (step delay)) m (.call ssrc .needed :: after) = .ok n) :
    n.now ≤ m.now + delay + keyFrameRetransmissionWaitTime := by
  obtain ⟨⟨-, hquiet⟩, hafter⟩ := along_always_cons.mp hafter
  -- the call is kept, and no timer that keeps it is missed
  obtain ⟨htime', howed⟩ := run_rule (Q := fun now e => OnTime delay now e ∧ Owed delay e m.now)
    (fun _ _ h hcall => ⟨onTime_run h.1, owed_run h.2 h.1 hcall.1 (hcall.2 rfl)⟩)
    (fun _ h hen => ⟨onTime_elapse h.1 (hen.1 ssrc), h.2⟩) after _ n
    (by rw [step_call]; exact ⟨onTime_run htime, owed_keyFrameNeeded htime (hquiet rfl).1⟩)
    hafter hn
  exact now_le_of_owed howed htime'

theorem keptTwice : Along (always (step 1)) (fun m event => Enabled m event ∧ Quiet 1 m 7 event)
    (step 1 {} (.call 7 .needed)) [.call 7 .needed, .elapse, .call 7 .delayTimeout] := by
  refine along_always_cons.mpr ⟨⟨rfl, fun _ => ⟨rfl, by decide⟩⟩, along_always_cons.mpr
    ⟨⟨fun ssrc => ?_, trivial⟩, along_always_cons.mpr ⟨⟨rfl, fun _ => ⟨rfl, by decide⟩⟩, trivial⟩⟩⟩
  simp only [step, update_apply]
  split <;> exact ⟨rfl, rfl⟩

theorem spaced_of_run {first : Call} {between : List Event}
    (hrun : Along (always (step delay)) Enabled m (.call ssrc first :: between))
    (hn : run (always (step delay)) m (.call ssrc first :: between) = .ok n)
    (hnotify : (first.run delay m.now (m.entry ssrc)).2) (hfirst : first ≠ .requestTimeout) :
    Spaced delay n.now (n.entry ssrc) m.now :=
  run_rule (Q := fun now e => Spaced delay now e m.now) (fun _ _ => spaced_run)
    (fun _ h _ => by grind) between _ n
    (by rw [step_call]; exact spaced_of_notifies hnotify hfirst) (along_always_cons.mp hrun).2 hn

/-- Requests of an SSRC that calls lead to are the delay apart. -/
theorem run_spaced {first second : Call} {between : List Event}
    (hrun : Along (always (step delay)) Enabled m (.call ssrc first :: between))
    (hn : run (always (step delay)) m (.call ssrc first :: between) = .ok n)
    (hnotify : (first.run delay m.now (m.entry ssrc)).2) (hfirst : first ≠ .requestTimeout)
    (hdue : second.Due n.now (n.entry ssrc)) (hnotify' : (second.run delay n.now (n.entry ssrc)).2)
    (hsecond : second = .needed ∨ second = .delayTimeout) : m.now + delay ≤ n.now :=
  le_of_spaced (spaced_of_run hrun hn hnotify hfirst) hdue hnotify' hsecond

theorem servedOnce : Along (always (step 1)) Enabled {}
    [.call 7 .needed, .elapse, .call 7 .delayTimeout, .call 7 .received] := by
  refine along_always_cons.mpr ⟨rfl, along_always_cons.mpr ⟨fun ssrc => ?_,
    along_always_cons.mpr ⟨rfl, along_always_cons.mpr ⟨rfl, trivial⟩⟩⟩⟩
  simp only [step, update_apply]
  split <;> exact ⟨rfl, rfl⟩

theorem run_spaced_again : ({} : Manager).now + 1 ≤ ([.call 7 .needed, .elapse,
    .call 7 .delayTimeout, .call 7 .received].foldl (step 1) {}).now :=
  @run_spaced _ 7 _ _ .needed .needed [.elapse, .call 7 .delayTimeout, .call 7 .received]
    servedOnce rfl rfl (by decide) rfl rfl (.inl rfl)

end KeyFrameRequestManager

end Mediasoup
