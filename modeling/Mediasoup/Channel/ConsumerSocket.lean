/-
The reading side of the worker's channels (`UnixStreamSocket` and
`ConsumerSocket::UserOnUnixStreamRead`).

The peer writes messages, each behind its length in four bytes.  The socket reads the
stream in arbitrary pieces into a buffer of fixed size and hands each message that is
whole to its listener, which may close the socket or stop the worker.  What is left is moved
to the beginning of the buffer.  Every access is to the valid part of the buffer, or it is a
fault.

* `messageLoop_spec`, `userOnUnixStreamRead_spec` — one call hands over the messages that lie
  whole in the buffer and keeps the rest,
* `Pipe.run_hands_over` — whatever the pieces, the messages that were handed over are the
  first ones of the stream, up to one that does not fit into the buffer,
* `Pipe.run_frame_by_frame` — read one by one, all those messages are handed over.
-/
import Mathlib.Order.Nat
import Mathlib.Tactic.Set
import Mediasoup.Lib.Frames
import Mediasoup.Lib.Runs

open List Bytes Runs Frames LengthField

namespace Mediasoup

/-- Why the worker stops: the listener raised an exception that nobody catches, or the loop
over the buffer left it or did not end. -/
inductive SocketFault (ε : Type) where
  | raised (reason : ε)
  | stopped (fault : ReadFault)

/-- The valid bytes of the buffer, and the listener. -/
structure ConsumerSocket (σ : Type) where
  buffer : List UInt8 := []
  listener : σ

namespace ConsumerSocket

/-- `MessageMaxLen`, the size of the buffer. -/
def messageMaxLen : ℕ := 4194308

-- the handling of a message may close the socket (`IsClosed`) or end the worker
variable {σ ε : Type} (closed : σ → Bool) (handle : σ → List UInt8 → Except ε σ)

/-- The `n` bytes from `i` on in the valid part of the buffer. -/
def access (buffer : List UInt8) (i n : ℕ) : Except (SocketFault ε) (List UInt8) :=
  (fetch buffer i n).mapError .stopped

/-- The loop of `UserOnUnixStreamRead`: where the first message starts that is not whole,
and nothing if the socket was closed. -/
def messageLoop (buffer : List UInt8) : ℕ → ℕ → σ → Except (SocketFault ε) (Option ℕ × σ)
  | 0, _, _ => .error (.stopped .outOfFuel)
  | fuel + 1, msgStart, listener =>
    if closed listener then .ok (none, listener)
    else
      let readLen := buffer.length - msgStart
      if readLen < 4 then .ok (some msgStart, listener)
      else do
        let field ← access buffer msgStart 4
        let msgLen := fieldLe32.decode field
        if readLen < 4 + msgLen then return (some msgStart, listener)
        else
          let msg ← access buffer (msgStart + 4) msgLen
          match handle listener msg with
          | .ok listener => messageLoop buffer fuel (msgStart + 4 + msgLen) listener
          | .error reason => .error (.raised reason)

/-- The messages that were handed over leave the buffer. -/
def shiftBuffer (buffer : List UInt8) : Option ℕ → Except (SocketFault ε) (List UInt8)
  | none => .ok buffer
  | some msgStart =>
    if msgStart ≠ 0 then access buffer msgStart (buffer.length - msgStart) else .ok buffer

def userOnUnixStreamRead (socket : ConsumerSocket σ) :
    Except (SocketFault ε) (ConsumerSocket σ) := do
  let (msgStart, listener) ←
    messageLoop closed handle socket.buffer (socket.buffer.length + 1) 0 socket.listener
  let buffer ← shiftBuffer socket.buffer msgStart
  return { buffer, listener }

/-- `OnUvReadAlloc` offers the free space of the buffer. -/
def Fits (socket : ConsumerSocket σ) (chunk : List UInt8) : Prop :=
  socket.buffer.length + chunk.length ≤ messageMaxLen

instance (socket : ConsumerSocket σ) (chunk : List UInt8) : Decidable (Fits socket chunk) :=
  inferInstanceAs (Decidable (_ ≤ _))

/-- `OnUvRead` with new bytes.  A closed socket does not read. -/
def onUvRead (socket : ConsumerSocket σ) (chunk : List UInt8) :
    Except (SocketFault ε) (ConsumerSocket σ) :=
  if closed socket.listener ∨ chunk = [] then .ok socket
  else if Fits socket chunk then
    userOnUnixStreamRead closed handle { socket with buffer := socket.buffer ++ chunk }
  else .error (.stopped .outOfBounds)

/-! ### What is handed over -/

/-- The computation hands the first of the messages over, all with `P`, up to an exception
of the listener.  Otherwise `Q` holds of the other messages, the listener and the result. -/
def HandsOver {α τ : Type} (handle : σ → α → Except ε σ) (listener : σ) (ms : List α)
    (P : α → Prop) (Q : List α → σ → τ → Prop) (result : Except (SocketFault ε) τ) : Prop :=
  ∃ handed rest, ms = handed ++ rest ∧ (∀ m ∈ handed, P m) ∧
    match run handle listener handed with
    | .ok listener' => ∃ t, result = .ok t ∧ Q rest listener' t
    | .error reason => result = .error (.raised reason)

section

variable {α τ υ : Type} {handle : σ → α → Except ε σ} {listener : σ} {m : α} {ms : List α}
  {P P' : α → Prop} {Q : List α → σ → τ → Prop}

theorem HandsOver.nothing {t : τ} (h : Q ms listener t) :
    HandsOver handle listener ms P Q (.ok t) :=
  ⟨[], ms, rfl, by simp, t, rfl, h⟩

theorem HandsOver.bind {Q' : List α → σ → υ → Prop} {x : Except (SocketFault ε) τ}
    {f : τ → Except (SocketFault ε) υ} (hx : HandsOver handle listener ms P Q x)
    (hP : ∀ m, P m → P' m)
    (hf : ∀ rest listener' t, Q rest listener' t → ∃ u, f t = .ok u ∧ Q' rest listener' u) :
    HandsOver handle listener ms P' Q' (x >>= f) := by
  obtain ⟨handed, rest, hms, hall, hresult⟩ := hx
  refine ⟨handed, rest, hms, fun m hm => hP m (hall m hm), ?_⟩
  cases hrun : run handle listener handed with
  | error reason =>
    rw [hrun] at hresult
    rw [show x = .error (.raised reason) from hresult]
    rfl
  | ok listener' =>
    rw [hrun] at hresult
    obtain ⟨t, rfl, hQ⟩ := hresult
    exact hf rest listener' t hQ

theorem HandsOver.error {reason : ε} (hm : P m) (h : handle listener m = .error reason) :
    HandsOver handle listener (m :: ms) P Q (.error (.raised reason)) := by
  refine ⟨[m], ms, rfl, by simpa using hm, ?_⟩
  rw [run_cons_error h]

theorem HandsOver.cons {listener' : σ} {x : Except (SocketFault ε) τ} (hm : P m)
    (h : handle listener m = .ok listener') (hx : HandsOver handle listener' ms P Q x) :
    HandsOver handle listener (m :: ms) P Q x := by
  obtain ⟨handed, rest, rfl, hall, hresult⟩ := hx
  refine ⟨m :: handed, rest, rfl, forall_mem_cons.mpr ⟨hm, hall⟩, ?_⟩
  rw [run_cons_ok h]
  exact hresult

theorem HandsOver.progress {take : σ → List UInt8 → σ} {ms : List (List UInt8)}
    {P : List UInt8 → Prop} {Q : List (List UInt8) → σ → τ → Prop}
    {x : Except (SocketFault Empty) τ} (hx : HandsOver (always take) listener ms P Q x) :
    Progress take listener ms fun listener' rest => ∃ t, x = .ok t ∧ Q rest listener' t := by
  obtain ⟨handed, rest, rfl, -, hresult⟩ := hx
  rw [run_always] at hresult
  exact ⟨handed, rest, rfl, hresult⟩

end

/-! ### One call -/

variable {closed handle} {buffer later : List UInt8} {ms : List (List UInt8)}

/-- The messages `ms` start with the bytes of the buffer and go on in `later`. -/
structure Awaits (buffer : List UInt8) (ms : List (List UInt8)) (later : List UInt8) : Prop where
  stream_eq : buffer ++ later = fieldLe32.stream ms
  length_lt : ∀ m ∈ ms, m.length < fieldLe32.limit

/-- The first of the messages `ms` is not whole yet. -/
structure Ready (buffer : List UInt8) (ms : List (List UInt8)) (later : List UInt8) : Prop
    extends Awaits buffer ms later where
  stalled : fieldLe32.Stalled buffer.length ms

theorem access_of_le {i n : ℕ} (h : i + n ≤ buffer.length) :
    (access buffer i n : Except (SocketFault ε) _) = .ok ((buffer.drop i).take n) := by
  rw [access, fetch_of_le h]
  rfl

/-- **The loop** hands over the messages that lie whole in the buffer from `msgStart` on, up
to an exception or a message that closes the socket. -/
theorem messageLoop_spec {fuel msgStart : ℕ} {listener : σ} (hstart : msgStart ≤ buffer.length)
    (h : Awaits (buffer.drop msgStart) ms later) (hfuel : buffer.length - msgStart < fuel) :
    HandsOver handle listener ms (fun m => 4 + m.length ≤ buffer.length)
      (fun rest listener' result => result.2 = listener' ∧
        ((closed listener' ∧ result.1 = none) ∨ ∃ start ≤ buffer.length,
          result.1 = some start ∧ Ready (buffer.drop start) rest later))
      (messageLoop closed handle buffer fuel msgStart listener) := by
  induction fuel generalizing msgStart listener ms with
  | zero => omega
  | succ fuel ih =>
    have hdrop : (buffer.drop msgStart).length = buffer.length - msgStart := length_drop
    rw [messageLoop]
    by_cases hclosed : closed listener
    · rw [if_pos hclosed]
      exact HandsOver.nothing ⟨rfl, .inl ⟨hclosed, rfl⟩⟩
    rw [if_neg hclosed]
    by_cases hfour : buffer.length - msgStart < 4
    · rw [if_pos hfour]
      refine HandsOver.nothing ⟨rfl, .inr ⟨msgStart, hstart, rfl, h, fun m _ => ?_⟩⟩
      rw [hdrop]
      exact Nat.lt_of_lt_of_le hfour (Nat.le_add_right 4 m.length)
    cases ms with
    | nil =>
      have hnil := congrArg List.length (held_eq_nil h.stream_eq)
      rw [hdrop, length_nil] at hnil
      omega
    | cons m ms =>
      have hlen : fieldLe32.decode ((buffer.drop msgStart).take 4) = m.length := by
        refine decode_of_stream h.stream_eq (h.length_lt m mem_cons_self) ?_
        rw [hdrop]
        exact Nat.le_of_not_lt hfour
      rw [if_neg hfour, access_of_le (by omega)]
      show HandsOver _ _ _ _ _
        (if buffer.length - msgStart < 4 + fieldLe32.decode ((buffer.drop msgStart).take 4) then
          _ else _)
      rw [hlen]
      by_cases hshort : buffer.length - msgStart < 4 + m.length
      · rw [if_pos hshort]
        refine HandsOver.nothing ⟨rfl, .inr ⟨msgStart, hstart, rfl, h, fun q hq => ?_⟩⟩
        obtain rfl := Option.some.inj hq
        rw [hdrop]
        exact hshort
      -- the message is whole: the loop goes on behind it
      have hwhole : fieldLe32.width + m.length ≤ (buffer.drop msgStart).length := by
        rw [hdrop]
        exact Nat.le_of_not_lt hshort
      obtain ⟨hmsg, hrest⟩ := packet_of_stream h.stream_eq hwhole
      rw [drop_drop] at hmsg hrest
      have haccess : (access buffer (msgStart + 4) m.length : Except (SocketFault ε) _) =
          .ok m := by
        rw [access_of_le (by omega)]
        exact congrArg Except.ok hmsg
      have hnext : Awaits (buffer.drop (msgStart + 4 + m.length)) ms later := by
        refine ⟨?_, fun q hq => h.length_lt q (mem_cons_of_mem m hq)⟩
        rw [Nat.add_assoc]
        exact hrest
      have hfits : 4 + m.length ≤ buffer.length := by omega
      rw [if_neg hshort, haccess]
      show HandsOver _ _ _ _ _ (match handle listener m with | .ok _ => _ | .error _ => _)
      cases hhandle : handle listener m with
      | error reason => exact HandsOver.error hfits hhandle
      | ok listener' => exact HandsOver.cons hfits hhandle (ih (by omega) hnext (by omega))

theorem shiftBuffer_some {start : ℕ} (h : start ≤ buffer.length) :
    (shiftBuffer buffer (some start) : Except (SocketFault ε) _) = .ok (buffer.drop start) := by
  rw [shiftBuffer]
  by_cases hzero : start = 0
  · rw [if_neg (not_not.mpr hzero), hzero, drop_zero]
  · have hdrop : (buffer.drop start).length = buffer.length - start := length_drop
    rw [if_pos hzero, access_of_le (by omega), ← hdrop, take_length]

variable {socket : ConsumerSocket σ}

/-- **One call** hands over the messages that are whole and keeps the rest. -/
theorem userOnUnixStreamRead_spec (h : Awaits socket.buffer ms later) :
    HandsOver handle socket.listener ms (fun m => 4 + m.length ≤ socket.buffer.length)
      (fun rest listener' socket' => socket'.listener = listener' ∧
        (closed listener' = false → Ready socket'.buffer rest later))
      (userOnUnixStreamRead closed handle socket) := by
  have hloop : HandsOver handle socket.listener ms _ _ _ :=
    @messageLoop_spec σ ε closed handle socket.buffer later ms (socket.buffer.length + 1) 0
      socket.listener (Nat.zero_le _) h (by omega)
  refine hloop.bind (fun _ hm => hm) ?_
  rintro rest listener' ⟨next, listener⟩ ⟨rfl, ⟨hclosed, rfl⟩ | ⟨start, hle, rfl, hready⟩⟩
  · refine ⟨⟨socket.buffer, listener⟩, rfl, rfl, fun hopen => ?_⟩
    rw [hclosed] at hopen
    cases hopen
  · refine ⟨⟨socket.buffer.drop start, listener⟩, ?_, rfl, fun _ => hready⟩
    show (shiftBuffer socket.buffer (some start) >>= fun buffer =>
      Except.ok (ConsumerSocket.mk buffer listener)) = _
    rw [shiftBuffer_some hle]
    rfl

theorem onUvRead_spec {chunk : List UInt8}
    (h : closed socket.listener = false → Ready socket.buffer ms (chunk ++ later))
    (hfits : Fits socket chunk) :
    HandsOver handle socket.listener ms (fun m => 4 + m.length ≤ messageMaxLen)
      (fun rest listener' socket' => socket'.listener = listener' ∧
        (closed listener' = false → Ready socket'.buffer rest later))
      (onUvRead closed handle socket chunk) := by
  rw [onUvRead]
  by_cases hidle : closed socket.listener ∨ chunk = []
  · rw [if_pos hidle]
    refine HandsOver.nothing ⟨rfl, fun hopen => ?_⟩
    rw [hopen] at hidle
    have hready := h hopen
    rwa [hidle.resolve_left Bool.false_ne_true] at hready
  obtain ⟨hopen, -⟩ := not_or.mp hidle
  have hready := h (Bool.eq_false_iff.mpr hopen)
  -- an open socket appends the chunk and parses what the buffer then holds
  have hawaits : Awaits (socket.buffer ++ chunk) ms later := by
    refine ⟨?_, hready.length_lt⟩
    rw [append_assoc]
    exact hready.stream_eq
  have hlength : (socket.buffer ++ chunk).length ≤ messageMaxLen := by
    rw [length_append]
    exact hfits
  rw [if_neg hidle, if_pos hfits]
  obtain ⟨handed, rest, hms, hall, hresult⟩ :=
    @userOnUnixStreamRead_spec σ ε closed handle later ms ⟨socket.buffer ++ chunk, socket.listener⟩
      hawaits
  exact ⟨handed, rest, hms, fun m hm => (hall m hm).trans hlength, hresult⟩

theorem ready_new (h : ∀ m ∈ ms, m.length < fieldLe32.limit) : Ready [] ms (fieldLe32.stream ms) :=
  ⟨⟨rfl, h⟩, fun m _ => Nat.lt_of_lt_of_le (by decide : 0 < 4) (Nat.le_add_right 4 m.length)⟩

theorem onUvRead_whole (hopen : ∀ listener, closed listener = false) {listener : σ}
    (hlimit : ∀ m ∈ ms, m.length < fieldLe32.limit)
    (hfits : (fieldLe32.stream ms).length ≤ messageMaxLen) :
    onUvRead closed handle ⟨[], listener⟩ (fieldLe32.stream ms) =
      match run handle listener ms with
      | .ok listener' => .ok ⟨[], listener'⟩
      | .error reason => .error (.raised reason) := by
  have hready : Ready [] ms (fieldLe32.stream ms ++ []) := by
    rw [append_nil]
    exact ready_new hlimit
  have hroom : Fits (ConsumerSocket.mk [] listener) (fieldLe32.stream ms) := by
    rw [Fits, length_nil, Nat.zero_add]
    exact hfits
  obtain ⟨handed, rest, hms, -, hresult⟩ :=
    @onUvRead_spec σ ε closed handle [] ms ⟨[], listener⟩ _ (fun _ => hready) hroom
  cases hrun : run handle listener handed with
  | error reason =>
    rw [hrun] at hresult
    have hall : run handle listener ms = .error reason := by
      rw [hms, run_append, hrun]
      rfl
    rw [hall]
    exact hresult
  | ok listener' =>
    rw [hrun] at hresult
    obtain ⟨⟨buffer, listener'⟩, hok, rfl, hlast⟩ := hresult
    -- at the end of the stream no message is incomplete
    obtain ⟨⟨hheld, -⟩, hstalled⟩ := hlast (hopen _)
    rw [append_nil] at hheld
    obtain rfl := eq_nil_of_stalled hheld hstalled
    have hall : run handle listener ms = .ok listener' := by rw [hms, append_nil, hrun]
    rw [hok, hall, show buffer = [] from hheld]

end ConsumerSocket

/-! ### Reading from the pipe -/

/-- A message whose length has a place in its four bytes. -/
structure Message where
  bytes : List UInt8
  length_lt : bytes.length < 4294967296

namespace Message

def size (m : Message) : ℕ := 4 + m.bytes.length

def stream (ms : List Message) : List UInt8 := fieldLe32.stream (ms.map bytes)

theorem stream_append (ms ms' : List Message) : stream (ms ++ ms') = stream ms ++ stream ms' := by
  rw [stream, map_append, LengthField.stream, flatMap_append]
  rfl

end Message

open Message

/-- The socket, and the bytes that the peer has written and that were not read yet. -/
structure Pipe (σ : Type) extends ConsumerSocket σ where
  pending : List UInt8
  closed : Bool := false

namespace Pipe

open ConsumerSocket

variable {σ ε : Type} (handle : σ → List UInt8 → Except ε σ)

/-- At most `nread` bytes are read, for a listener that does not close the socket. -/
def read (pipe : Pipe σ) (nread : ℕ) : Except (SocketFault ε) (Pipe σ) :=
  let space := messageMaxLen - pipe.buffer.length
  let chunk := pipe.pending.take (min nread space)
  if pipe.closed ∨ pipe.pending = [] then .ok pipe
  -- No available space in the buffer: the read fails and the pipe is closed.
  else if space = 0 then .ok { pipe with closed := true }
  else do
    let socket ← onUvRead (fun _ => false) handle pipe.toConsumerSocket chunk
    return { pipe with toConsumerSocket := socket, pending := pipe.pending.drop chunk.length }

def onMessage (listener : σ) (m : Message) : Except ε σ := handle listener m.bytes

def outcome : Except (SocketFault ε) (Pipe σ) → Option (Except ε σ)
  | .ok pipe => some (.ok pipe.listener)
  | .error (.raised reason) => some (.error reason)
  | .error (.stopped _) => none

/-- The bytes that are still to be handled are those of the messages `rest`. -/
def Awaits (pipe : Pipe σ) (rest : List Message) : Prop :=
  Ready pipe.buffer (rest.map bytes) pipe.pending

def fits (m : Message) : Bool := m.size ≤ messageMaxLen

variable {handle} {ms : List Message}

theorem length_lt_of_mem (ms : List Message) :
    ∀ p ∈ ms.map bytes, p.length < fieldLe32.limit := by
  intro p hp
  obtain ⟨m, -, rfl⟩ := mem_map.mp hp
  exact m.length_lt

theorem run_onMessage (listener : σ) (ms : List Message) :
    run (onMessage handle) listener ms = run handle listener (ms.map bytes) := by
  induction ms generalizing listener with
  | nil => rfl
  | cons m ms ih =>
    rw [map_cons, run, run]
    show (match handle listener m.bytes with | .ok _ => _ | .error _ => _) = _
    cases handle listener m.bytes with
    | error reason => rfl
    | ok listener' => exact ih listener'

/-- **One read** hands over the next messages, all of which fit. -/
theorem read_spec {pipe : Pipe σ} (h : Awaits pipe ms) (nread : ℕ) :
    HandsOver (onMessage handle) pipe.listener ms (fun m => fits m)
      (fun rest listener' pipe' => pipe'.listener = listener' ∧ Awaits pipe' rest)
      (read handle pipe nread) := by
  rw [read]
  set space := messageMaxLen - pipe.buffer.length with hspace
  set chunk := pipe.pending.take (min nread space) with hchunk
  split_ifs with hidle hfull
  · exact HandsOver.nothing ⟨rfl, h⟩
  · exact HandsOver.nothing ⟨rfl, h⟩
  -- what was read moves from the pipe to the buffer
  have hmoved : chunk ++ pipe.pending.drop chunk.length = pipe.pending := by
    obtain ⟨rest, hrest⟩ : chunk <+: pipe.pending := take_prefix _ _
    rw [← hrest, drop_left' rfl]
  have hroom : Fits pipe.toConsumerSocket chunk := by
    have hle : chunk.length ≤ space := (length_take_le _ _).trans (Nat.min_le_right _ _)
    unfold Fits
    omega
  have hready : Ready pipe.buffer (ms.map bytes) (chunk ++ pipe.pending.drop chunk.length) := by
    rw [hmoved]
    exact h
  obtain ⟨handed, rest, hms, hall, hresult⟩ :=
    @onUvRead_spec σ ε (fun _ => false) handle _ _ pipe.toConsumerSocket chunk (fun _ => hready)
      hroom
  obtain ⟨handed, rest, rfl, rfl, rfl⟩ := map_eq_append_iff.mp hms
  refine ⟨handed, rest, rfl, fun m hm => decide_eq_true (hall _ (mem_map_of_mem hm)), ?_⟩
  rw [run_onMessage]
  cases hrun : run handle pipe.listener (handed.map bytes) with
  | error reason =>
    rw [hrun] at hresult
    rw [show onUvRead _ _ _ _ = _ from hresult]
    rfl
  | ok listener' =>
    rw [hrun] at hresult
    obtain ⟨socket, hok, hlistener, hlast⟩ := hresult
    refine ⟨⟨socket, pipe.pending.drop chunk.length, pipe.closed⟩, ?_, hlistener, hlast rfl⟩
    rw [hok]
    rfl

/-- **Whatever the pieces** in which the stream is read, the listener has taken the first
messages of the stream, all of which fit into the buffer. -/
theorem run_hands_over {pipe : Pipe σ} (h : Awaits pipe ms) (reads : List ℕ) :
    ∃ handed, handed <+: ms.takeWhile fits ∧ outcome (run (read handle) pipe reads) =
      some (run (onMessage handle) pipe.listener handed) := by
  induction reads generalizing pipe ms with
  | nil => exact ⟨[], nil_prefix, rfl⟩
  | cons nread reads ih =>
    have hspec : HandsOver (onMessage handle) _ ms _ _ (read handle pipe nread) :=
      read_spec h nread
    obtain ⟨handed, rest, rfl, hfits, hread⟩ := hspec
    rw [takeWhile_append_of_pos hfits]
    cases hrun : run (onMessage handle) pipe.listener handed with
    | error reason =>
      rw [hrun] at hread
      exact ⟨handed, prefix_append _ _, by rw [run_cons_error hread, hrun]; rfl⟩
    | ok listener =>
      rw [hrun] at hread
      obtain ⟨pipe', hok, rfl, hawaits⟩ := hread
      obtain ⟨later, hprefix, hout⟩ := ih hawaits
      refine ⟨handed ++ later, (prefix_append_right_inj _).mpr hprefix, ?_⟩
      rw [run_cons_ok hok, hout, run_append, hrun]
      rfl

/-- **Read one by one**, the messages that fit are all handed over. -/
theorem run_frame_by_frame (ms : List Message) (hfits : ∀ m ∈ ms, fits m) (rest : List UInt8)
    (listener : σ) :
    outcome (run (read handle) { listener, pending := Message.stream ms ++ rest } (ms.map size)) =
      some (run (onMessage handle) listener ms) := by
  induction ms generalizing listener with
  | nil => rfl
  | cons m ms ih =>
    have hm : m.size ≤ messageMaxLen := of_decide_eq_true (hfits m mem_cons_self)
    set frame := fieldLe32.stream [m.bytes] with hframe
    have hlen : frame.length = m.size := by
      simp [hframe, LengthField.stream, LengthField.frame, fieldLe32, size]
    have hsplit : Message.stream (m :: ms) ++ rest = frame ++ (Message.stream ms ++ rest) := by
      rw [← singleton_append, stream_append, append_assoc]
      rfl
    -- the read takes the first message and nothing else
    have hread : read handle { listener, pending := Message.stream (m :: ms) ++ rest } m.size =
        (onUvRead (fun _ => false) handle ⟨[], listener⟩ frame >>= fun socket =>
          .ok { toConsumerSocket := socket, pending := Message.stream ms ++ rest }) := by
      have hchunk : (frame ++ (Message.stream ms ++ rest)).take (min m.size messageMaxLen) =
          frame := by
        rw [Nat.min_eq_left hm, take_left' hlen]
      have hne : frame ++ (Message.stream ms ++ rest) ≠ [] := by
        intro hnil
        have := congrArg List.length (append_eq_nil_iff.mp hnil).1
        rw [hlen, size, length_nil] at this
        omega
      simp only [read, length_nil, Nat.sub_zero, hsplit, hchunk, hne, drop_left' rfl]
      rfl
    have hwhole : onUvRead (fun _ => false) handle ⟨[], listener⟩ frame = _ :=
      onUvRead_whole (fun _ => rfl) (length_lt_of_mem [m]) (hlen.trans_le hm)
    rw [hwhole] at hread
    rw [map_cons, run_onMessage, map_cons]
    cases hhandle : handle listener m.bytes with
    | error reason =>
      rw [run_cons_error hhandle] at hread ⊢
      rw [run_cons_error hread]
      rfl
    | ok listener' =>
      rw [run_cons_ok hhandle] at hread ⊢
      rw [run_cons_ok hread, ← run_onMessage]
      exact ih (fun m' hm' => hfits m' (mem_cons_of_mem _ hm')) listener'

end Pipe

end Mediasoup
