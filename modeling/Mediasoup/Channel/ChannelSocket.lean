/-
The worker's end of the channel (`Channel::ConsumerSocket`).

The signaling server writes messages, each behind its length in four bytes, and the socket
reads them with the loop of `ConsumerSocket.lean`.

* `channel_hands_over` — whatever the pieces in which the stream is read, the messages are
  handed over up to the one whose handling closes the socket.
-/
import Mediasoup.Channel.ConsumerSocket

open List Bytes Frames LengthField Runs

namespace Mediasoup

open ConsumerSocket

/-- `common_util.Encode`: what the signaling server writes for a message. -/
def encode (payload : List UInt8) : List UInt8 := toLe32 payload.length ++ payload

/-- The listener is what `OnConsumerSocketMessage` was handed. -/
abbrev ChannelSocket := ConsumerSocket Inbox

namespace ChannelSocket

/-- `PayloadMaxLen`, the size of the longest message. -/
def payloadMaxLen : ℕ := 4194304

def new : ChannelSocket := { listener := {} }

/-- `OnUvRead`, for a listener that closes the socket (`worker.close`) or ends the worker
when `stops` says so. -/
def onUvRead (stops : List (List UInt8) → Bool) :
    ChannelSocket → List UInt8 → Except (SocketFault Empty) ChannelSocket :=
  ConsumerSocket.onUvRead Inbox.closed (always (Inbox.take stops))

variable {stops : List (List UInt8) → Bool} {later : List UInt8} {ms : List (List UInt8)}
  {socket : ChannelSocket}

/-! ### Runs -/

/-- **A run** hands over the first messages, and the others are still to come. -/
theorem run_spec (chunks : List (List UInt8))
    (h : socket.listener.closed = false → Ready socket.buffer ms (chunks.flatten ++ later))
    (hfits : Along (onUvRead stops) Fits socket chunks) :
    Progress (Inbox.take stops) socket.listener ms fun inbox rest =>
      ∃ socket', run (onUvRead stops) socket chunks = .ok socket' ∧ socket'.listener = inbox ∧
        (inbox.closed = false → Ready socket'.buffer rest later) := by
  induction chunks generalizing socket ms with
  | nil => exact Progress.nothing ⟨socket, rfl, rfl, h⟩
  | cons chunk chunks ih =>
    have hnext : socket.listener.closed = false →
        Ready socket.buffer ms (chunk ++ (chunks.flatten ++ later)) := by
      intro hopen
      have hready := h hopen
      rwa [flatten_cons, append_assoc] at hready
    refine (onUvRead_spec hnext hfits.1).progress.bind fun inbox rest hread => ?_
    obtain ⟨socket', hok, rfl, hready⟩ := hread
    rw [run_cons_ok (show onUvRead stops socket chunk = .ok socket' from hok)]
    exact ih hready (hfits.2 socket' hok)

theorem length_lt_of_ready {buffer : List UInt8} (h : Ready buffer ms later)
    (hms : ∀ m ∈ ms, m.length ≤ payloadMaxLen) : buffer.length < messageMaxLen := by
  cases ms with
  | nil =>
    rw [held_eq_nil h.stream_eq]
    decide
  | cons m ms =>
    have hless : buffer.length < 4 + m.length := h.stalled m rfl
    have hle := hms m mem_cons_self
    unfold payloadMaxLen at hle
    unfold messageMaxLen
    omega

/-- **Messages on the channel.**  The messages of the signaling server are cut in any way
into reads that fit into the free space of the buffer.  They are handed over, each once and
in their order, up to the first whose handling closes the socket, and no access is outside
the valid part of the buffer.  While the socket is open there is free space. -/
theorem channel_hands_over (stops : List (List UInt8) → Bool)
    (messages chunks : List (List UInt8)) (hmessages : ∀ m ∈ messages, m.length ≤ payloadMaxLen)
    (hstream : chunks.flatten = messages.flatMap encode)
    (hfits : Along (onUvRead stops) Fits new chunks) :
    (∃ socket, run (onUvRead stops) new chunks = .ok socket ∧
      socket.listener = messages.foldl (Inbox.take stops) {} ∧
      ((∀ received, stops received = false) → socket.listener.received = messages)) ∧
    ∀ earlier, earlier <+: chunks → ∃ socket, run (onUvRead stops) new earlier = .ok socket ∧
      (socket.listener.closed = false → socket.buffer.length < messageMaxLen) := by
  have hready : Ready [] messages (fieldLe32.stream messages) := by
    refine ready_new fun m hm => Nat.lt_of_le_of_lt (hmessages m hm) ?_
    decide
  rw [show fieldLe32.stream messages = chunks.flatten from hstream.symm] at hready
  constructor
  · have hnew : new.listener.closed = false →
        Ready new.buffer messages (chunks.flatten ++ []) := fun _ => by rwa [append_nil]
    obtain ⟨taken, rest, htaken, socket, hok, hinbox, hlast⟩ := run_spec chunks hnew hfits
    have hall : socket.listener = messages.foldl (Inbox.take stops) {} := by
      rw [htaken, foldl_append, show taken.foldl (Inbox.take stops) {} = _ from hinbox.symm]
      cases hclosed : socket.listener.closed with
      | true => rw [Inbox.foldl_take_of_closed hclosed]
      | false =>
        -- at the end of the stream no message is incomplete
        have hend := hlast (by rw [← hinbox, hclosed])
        have hheld : socket.buffer = fieldLe32.stream rest := by
          have hstream := hend.stream_eq
          rwa [append_nil] at hstream
        rw [eq_nil_of_stalled hheld hend.stalled]
        rfl
    refine ⟨socket, hok, hall, fun hopen => ?_⟩
    rw [hall, Inbox.foldl_take_of_open hopen _ _ rfl]
    rfl
  · rintro earlier ⟨rest, rfl⟩
    rw [flatten_append] at hready
    obtain ⟨taken, rest', htaken, socket, hok, hinbox, hlast⟩ :=
      run_spec earlier (fun _ => hready) hfits.append.1
    refine ⟨socket, hok, fun hopen => ?_⟩
    refine length_lt_of_ready (hlast (by rw [← hinbox, hopen])) fun m hm => hmessages m ?_
    rw [htaken]
    exact mem_append_right taken hm

/-- Two messages, the second read in two parts. -/
theorem channel_hands_over_cut :
    [[1, 0, 0, 0, 7, 2, 0], [0, 0, 8], [9]].flatten = [[7], [8, 9]].flatMap encode ∧
    ∃ socket, run (onUvRead fun _ => false) new [[1, 0, 0, 0, 7, 2, 0], [0, 0, 8], [9]] =
      .ok socket ∧ socket.listener.received = [[7], [8, 9]] := by
  have hstream : [[1, 0, 0, 0, 7, 2, 0], [0, 0, 8], [9]].flatten =
      [[7], [8, 9]].flatMap encode := by decide
  obtain ⟨⟨socket, hok, -, hall⟩, -⟩ :=
    channel_hands_over (fun _ => false) _ _ (by decide) hstream (by decide)
  exact ⟨hstream, socket, hok, hall fun _ => rfl⟩

/-- The message that closes the worker.  The handler's id and the data are left out, as the
constructor of `ChannelRequest` allows. -/
def workerClose : List UInt8 := "1:worker.close".toList.map fun c => UInt8.ofNat c.toNat

/-- The listener, as far as it closes the socket. -/
def closesWorker (received : List (List UInt8)) : Bool := received.getLast? = some workerClose

/-- What follows `worker.close` in the stream is not handed over. -/
theorem channel_closed_by_message : (∀ m ∈ [workerClose, [7]], m.length ≤ payloadMaxLen) ∧
    [encode workerClose ++ encode [7]].flatten = [workerClose, [7]].flatMap encode ∧
    Along (onUvRead closesWorker) Fits new [encode workerClose ++ encode [7]] ∧
    ∃ socket, run (onUvRead closesWorker) new [encode workerClose ++ encode [7]] = .ok socket ∧
      socket.listener.received = [workerClose] ∧ socket.listener.received ≠ [workerClose, [7]] :=
  ⟨by decide, by decide, by decide, _, rfl, by decide, by decide⟩

end ChannelSocket

end Mediasoup
