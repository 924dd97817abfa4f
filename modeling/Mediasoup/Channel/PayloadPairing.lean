/-
Which payload a header of the payload channel is handled with.

* `Paired` — a header is parsed at the place of a header, and a request or a notification is
  handled with its own payload.
* `InStep` — up to the point where the worker stops reading, each header is accepted or has
  an empty payload.
* `run_paired_iff` — the messages are dealt with in pairs exactly in that case.
* `pairing_iff` — the same for every way in which the stream is cut into reads.
-/
import Mathlib.Data.List.TakeWhile
import Mediasoup.Channel.ConsumerSocket
import Mediasoup.Channel.PayloadChannelSocket

open List Runs

namespace Mediasoup

open Pipe

namespace PayloadChannelSocket

/-! ### What is to hold -/

def messagesOf (pairs : List (Message × Message)) : List Message :=
  pairs.flatMap fun pair => [pair.1, pair.2]

/-- The headers have even numbers and the payloads odd ones.  Only headers are parsed as
such (an empty payload has no bytes to parse), and what is handled is a header with its own
payload. -/
def Paired (pairs : List (Message × Message)) : PayloadEntry → Prop
  | .parsedHeader number msg => number % 2 = 0 ∨ msg = []
  | .sentError _ => True
  | .handled number header payload => ∃ k pair, number = 2 * k + 1 ∧ pairs[k]? = some pair ∧
      parseHeader pair.1.bytes = .ok header ∧ payload = pair.2.bytes

/-- Each header is accepted, or is rejected and has an empty payload, up to a message that
does not fit into the buffer or a header whose identifier is not a number. -/
def InStep : List (Message × Message) → Prop
  | [] => True
  | (header, payload) :: rest => fits header →
    match parseHeader header.bytes with
    | .ok _ => fits payload → InStep rest
    | .error .invalidId => True
    | .error _ => fits payload → payload.bytes = [] ∧ InStep rest

/-- What the socket has done, also when it has ended the worker. -/
def historyOf : Except PayloadChannelSocket PayloadChannelSocket → List PayloadEntry
  | .ok s => s.history
  | .error s => s.history

abbrev step : PayloadChannelSocket → Message → Except PayloadChannelSocket PayloadChannelSocket :=
  onMessage onConsumerSocketMessage

/-! ### One message -/

variable {s : PayloadChannelSocket}

/-- No payload is awaited, after `k` pairs. -/
structure InSync (s : PayloadChannelSocket) (k : ℕ) : Prop where
  ongoingNotification : s.ongoingNotification = none
  ongoingRequest : s.ongoingRequest = none
  received : s.received = 2 * k

theorem onConsumerSocketMessage_history (s : PayloadChannelSocket) (msg : List UInt8) :
    s.history <:+ historyOf (s.onConsumerSocketMessage msg) := by
  unfold onConsumerSocketMessage
  split
  · unfold onHeader
    split <;> exact suffix_append _ _
  · exact suffix_append _ _
  · exact suffix_append _ _

theorem run_history (s : PayloadChannelSocket) (ms : List Message) :
    s.history <:+ historyOf (run step s ms) := by
  induction ms generalizing s with
  | nil => exact suffix_refl _
  | cons m ms ih =>
    have hfirst := onConsumerSocketMessage_history s m.bytes
    cases hstep : step s m with
    | error s' =>
      rw [run_cons_error hstep]
      rw [show s.onConsumerSocketMessage m.bytes = .error s' from hstep] at hfirst
      exact hfirst
    | ok s' =>
      rw [run_cons_ok hstep]
      rw [show s.onConsumerSocketMessage m.bytes = .ok s' from hstep] at hfirst
      exact hfirst.trans (ih s')

theorem step_eq_onHeader {k : ℕ} (h : InSync s k) (m : Message) :
    step s m = s.onHeader m.bytes := by
  show s.onConsumerSocketMessage m.bytes = _
  rw [onConsumerSocketMessage, h.ongoingNotification, h.ongoingRequest]

theorem run_accepted {k : ℕ} (h : InSync s k) {header payload : Message} {parsed : PayloadHeader}
    (hparse : parseHeader header.bytes = .ok parsed) :
    ∃ awaiting handled, step s header = .ok awaiting ∧ step awaiting payload = .ok handled ∧
      awaiting.history = .parsedHeader (2 * k) header.bytes :: s.history ∧
      handled.history = .handled (2 * k + 1) parsed payload.bytes :: awaiting.history ∧
      InSync handled (k + 1) := by
  obtain ⟨ongoingNotification, ongoingRequest, received, history⟩ := s
  obtain ⟨hnotification, hrequest, hreceived⟩ := h
  subst hnotification hrequest hreceived
  have hnext : 2 * k + 1 + 1 = 2 * (k + 1) := by omega
  -- the header fills exactly one of the two ongoing slots, the payload empties it
  cases parsed with
  | request request =>
    have hfirst : step ⟨none, none, 2 * k, history⟩ header =
        .ok ⟨none, some request, 2 * k + 1, .parsedHeader (2 * k) header.bytes :: history⟩ := by
      show onHeader _ header.bytes = _
      rw [onHeader, hparse]
      rfl
    exact ⟨_, _, hfirst, rfl, rfl, rfl, rfl, rfl, hnext⟩
  | notification notification =>
    have hfirst : step ⟨none, none, 2 * k, history⟩ header =
        .ok ⟨some notification, none, 2 * k + 1,
          .parsedHeader (2 * k) header.bytes :: history⟩ := by
      show onHeader _ header.bytes = _
      rw [onHeader, hparse]
      rfl
    exact ⟨_, _, hfirst, rfl, rfl, rfl, rfl, rfl, hnext⟩

theorem onHeader_rejected {msg : List UInt8} {reason : HeaderError}
    (hparse : parseHeader msg = .error reason) (hreason : reason ≠ .invalidId) :
    ∃ sent, s.onHeader msg = .ok (s.log (sent ++ [.parsedHeader s.received msg])) ∧
      ∀ pairs, ∀ e ∈ sent, Paired pairs e := by
  rw [onHeader, hparse]
  cases reason with
  | invalidId => exact absurd rfl hreason
  | unknownMethod id =>
    refine ⟨[.sentError id], rfl, fun pairs e he => ?_⟩
    rw [mem_singleton.mp he]
    trivial
  | wrongData | tooFewArguments | unknownEvent =>
    exact ⟨[], rfl, fun _ e he => absurd he not_mem_nil⟩

/-! ### All messages -/

theorem parseHeader_nil : parseHeader [] = .error .wrongData := by
  decide

theorem takeWhile_messagesOf (pair : Message × Message) (pairs : List (Message × Message)) :
    (messagesOf (pair :: pairs)).takeWhile fits = if fits pair.1 then pair.1 :: (if fits pair.2
        then pair.2 :: (messagesOf pairs).takeWhile fits else []) else [] := by
  show (pair.1 :: pair.2 :: messagesOf pairs).takeWhile fits = _
  rw [takeWhile_cons, takeWhile_cons]

theorem not_paired_of_parsed {all : List (Message × Message)} {k : ℕ} {payload : Message}
    (hne : payload.bytes ≠ []) (h : s.ongoingNotification = none) (h' : s.ongoingRequest = none)
    (hreceived : s.received = 2 * k + 1) (ms : List Message) :
    ¬∀ e ∈ historyOf (run step s (payload :: ms)), Paired all e := by
  intro hall
  -- the entry is there right after the message, whatever the parser says
  have hlogged : .parsedHeader (2 * k + 1) payload.bytes ∈ historyOf (step s payload) := by
    show _ ∈ historyOf (s.onConsumerSocketMessage payload.bytes)
    rw [onConsumerSocketMessage, h, h', ← hreceived]
    show _ ∈ historyOf (s.onHeader payload.bytes)
    unfold onHeader
    split <;> simp [historyOf, log]
  have hmem : .parsedHeader (2 * k + 1) payload.bytes ∈
      historyOf (run step s (payload :: ms)) := by
    cases hstep : step s payload with
    | error s' =>
      rw [hstep] at hlogged
      rw [run_cons_error hstep]
      exact hlogged
    | ok s' =>
      rw [hstep] at hlogged
      rw [run_cons_ok hstep]
      exact (run_history s' ms).subset hlogged
  rcases hall _ hmem with heven | hnil
  · omega
  · exact hne hnil

/-- **The messages are dealt with in pairs** exactly when they are in step. -/
theorem run_paired_iff {all : List (Message × Message)} (pairs : List (Message × Message))
    {k : ℕ} (hpairs : all.drop k = pairs) (h : InSync s k) (hs : ∀ e ∈ s.history, Paired all e) :
    (∀ e ∈ historyOf (run step s ((messagesOf pairs).takeWhile fits)), Paired all e) ↔
      InStep pairs := by
  induction pairs generalizing s k with
  | nil => exact iff_of_true hs trivial
  | cons pair pairs ih =>
    obtain ⟨header, payload⟩ := pair
    have hget : all[k]? = some (header, payload) := by
      rw [← Nat.add_zero k, ← List.getElem?_drop, hpairs]
      rfl
    have hrest : all.drop (k + 1) = pairs := by
      rw [← drop_drop, hpairs]
      rfl
    have heven : Paired all (.parsedHeader (2 * k) header.bytes) := .inl (by omega)
    rw [takeWhile_messagesOf, InStep]
    by_cases hheader : fits header = true
    swap
    · rw [if_neg hheader]
      exact iff_of_true hs fun hfits => absurd hfits hheader
    rw [if_pos hheader, forall_prop_of_true hheader]
    cases hparse : parseHeader header.bytes with
    | ok parsed =>
      obtain ⟨awaiting, handled, hfirst, hsecond, hawaiting, hhandled, hsync⟩ :=
        @run_accepted s k h header payload parsed hparse
      have hpaired : ∀ e ∈ awaiting.history, Paired all e := by
        rw [hawaiting]
        exact forall_mem_cons.mpr ⟨heven, hs⟩
      rw [run_cons_ok hfirst]
      by_cases hpayload : fits payload = true
      swap
      · rw [if_neg hpayload]
        exact iff_of_true hpaired fun hfits => absurd hfits hpayload
      rw [if_pos hpayload, run_cons_ok hsecond, forall_prop_of_true hpayload]
      refine ih hrest hsync ?_
      rw [hhandled]
      exact forall_mem_cons.mpr ⟨⟨k, (header, payload), rfl, hget, hparse, rfl⟩, hpaired⟩
    | error reason =>
      by_cases hinvalid : reason = .invalidId
      · subst hinvalid
        have hstop : step s header = .error (s.log [.parsedHeader s.received header.bytes]) := by
          rw [step_eq_onHeader h, onHeader, hparse]
        rw [run_cons_error hstop]
        refine iff_of_true ?_ trivial
        rw [h.received]
        exact forall_mem_cons.mpr ⟨heven, hs⟩
      -- all other exceptions are caught, and the payload comes at the place of a header
      suffices hsuffices : (∀ e ∈ historyOf (run step s (header :: (if fits payload
          then payload :: (messagesOf pairs).takeWhile fits else []))), Paired all e) ↔
          (fits payload = true → payload.bytes = [] ∧ InStep pairs) by
        cases reason with
        | invalidId => exact absurd rfl hinvalid
        | wrongData | tooFewArguments | unknownMethod id | unknownEvent => exact hsuffices
      obtain ⟨sent, hheaderStep, hsent⟩ := @onHeader_rejected s _ _ hparse hinvalid
      set rejected := s.log (sent ++ [.parsedHeader s.received header.bytes]) with hrejected
      have hfirst : step s header = .ok rejected := by rw [step_eq_onHeader h, hheaderStep]
      have hpaired : ∀ e ∈ rejected.history, Paired all e := by
        intro e he
        rcases mem_append.mp he with he | he
        · rcases mem_append.mp he with he | he
          · exact hsent all e he
          · rw [mem_singleton.mp he, h.received]
            exact heven
        · exact hs e he
      have hreceived : rejected.received = 2 * k + 1 := congrArg (· + 1) h.received
      rw [run_cons_ok hfirst]
      by_cases hpayload : fits payload = true
      swap
      · rw [if_neg hpayload]
        exact iff_of_true hpaired fun hfits => absurd hfits hpayload
      rw [if_pos hpayload, forall_prop_of_true hpayload]
      by_cases hnil : payload.bytes = []
      swap
      · refine iff_of_false ?_ fun hin => hnil hin.1
        exact @not_paired_of_parsed rejected all k payload hnil h.ongoingNotification
          h.ongoingRequest hreceived _
      -- an empty payload is rejected as a header, and the next pair comes in its place
      have hsecond : step rejected payload =
          .ok (rejected.log [.parsedHeader rejected.received payload.bytes]) := by
        show rejected.onConsumerSocketMessage payload.bytes = _
        rw [onConsumerSocketMessage, show rejected.ongoingNotification = none from
          h.ongoingNotification, show rejected.ongoingRequest = none from h.ongoingRequest]
        rw [onHeader, hnil, parseHeader_nil]
      have hsync : InSync (rejected.log [.parsedHeader rejected.received payload.bytes]) (k + 1) :=
        ⟨h.ongoingNotification, h.ongoingRequest, by
          show rejected.received + 1 = _
          omega⟩
      rw [run_cons_ok hsecond, and_iff_right hnil]
      exact ih hrest hsync (forall_mem_cons.mpr ⟨.inr hnil, hpaired⟩)

def initial (pairs : List (Message × Message)) : Pipe PayloadChannelSocket :=
  { listener := {}, pending := Message.stream (messagesOf pairs) }

/-- A notification of an unknown event, whose payload looks like a request, and a
notification. -/
def strayPairs : List (Message × Message) :=
  [(⟨ascii "n:event:producer", by decide⟩, ⟨ascii "r:7:dataConsumer.send:consumer", by decide⟩),
    (⟨ascii "n:producer.send:producer", by decide⟩, ⟨[1, 2, 3], by decide⟩)]

def strayRequest : PayloadChannelRequest where
  id := 7
  method := ascii "dataConsumer.send"
  methodId := .dataConsumerSend
  handlerId := ascii "consumer"
  data := []

end PayloadChannelSocket

end Mediasoup
