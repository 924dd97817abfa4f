/-
Packets over TCP (`TcpConnection`, RFC 4571): each behind its length in two bytes.

The connection reads the stream into a buffer of fixed size.  `frameStart` is where the
first frame begins that was not taken yet; the bytes before it are not removed until the
buffer is full.

* `readLoop_spec` — one call of `UserOnTcpConnectionRead` takes the frames that lie whole in
  the buffer and leaves free space,
* `tcp_delivers` — whatever the pieces in which the stream is read, the listener gets the
  packets that are not empty.
-/
import Mathlib.Tactic.ByCases
import Mathlib.Tactic.ByContra
import Mediasoup.Lib.Frames
import Mediasoup.Lib.Runs

open List Bytes Frames LengthField Runs

namespace Mediasoup

/-- The valid bytes of the buffer, and what the listener was handed. -/
structure TcpConnection where
  buffer : List UInt8 := []
  frameStart : ℕ := 0
  inbox : Inbox := {}

namespace TcpConnection

def send (data : List UInt8) : List UInt8 := toBe16 data.length ++ data

variable (bufferSize : ℕ) (stops : List (List UInt8) → Bool)

/-- The listener gets a packet unless it is empty. -/
def deliver (inbox : Inbox) (packet : List UInt8) : Inbox :=
  if packet.length ≠ 0 then inbox.take stops packet else inbox

variable (conn : TcpConnection)

def dataLen : ℕ := conn.buffer.length - conn.frameStart

/-- The length of the packet at `frameStart` if it is whole. -/
def packetLen (conn : TcpConnection) : Except ReadFault (Option ℕ) :=
  if 2 ≤ conn.dataLen then do
    let field ← fetch conn.buffer conn.frameStart 2
    let packetLen := fieldBe16.decode field
    return if 2 + packetLen ≤ conn.dataLen then some packetLen else none
  else .ok none

/-- A frame that ends with the buffer empties it. -/
def takeFrame (packetLen : ℕ) : Except ReadFault TcpConnection := do
  let packet ← fetch conn.buffer (conn.frameStart + 2) packetLen
  let inbox := deliver stops conn.inbox packet
  if conn.frameStart + 2 + packetLen = bufferSize then
    return { buffer := [], frameStart := 0, inbox }
  else return { conn with frameStart := conn.frameStart + 2 + packetLen, inbox }

/-- An incomplete frame in a full buffer is moved to its beginning.  If it is there already,
the connection is closed. -/
def makeSpace : TcpConnection :=
  if conn.buffer.length = bufferSize then
    if conn.frameStart ≠ 0 then
      { conn with buffer := conn.buffer.drop conn.frameStart, frameStart := 0 }
    else { conn with inbox := { conn.inbox with closed := true } }
  else conn

/-- The loop of `UserOnTcpConnectionRead`. -/
def readLoop : ℕ → TcpConnection → Except ReadFault TcpConnection
  | 0, _ => .error .outOfFuel
  | fuel + 1, conn =>
    if conn.inbox.closed then .ok conn
    else do
      match ← conn.packetLen with
      | none => return conn.makeSpace bufferSize
      | some packetLen =>
        let conn ← conn.takeFrame bufferSize stops packetLen
        if conn.buffer.length > conn.frameStart then readLoop fuel conn else return conn

/-- `OnUvRead` with new bytes.  A closed connection does not read. -/
def onUvRead (chunk : List UInt8) : Except ReadFault TcpConnection :=
  if conn.inbox.closed ∨ chunk = [] then .ok conn
  else
    let conn := { conn with buffer := conn.buffer ++ chunk }
    readLoop bufferSize stops (conn.buffer.length + 1) conn

/-- `OnUvReadAlloc` offers the free space of the buffer. -/
def Fits (chunk : List UInt8) : Prop :=
  conn.buffer.length + chunk.length ≤ bufferSize

instance (conn : TcpConnection) (chunk : List UInt8) : Decidable (Fits bufferSize conn chunk) :=
  inferInstanceAs (Decidable (_ ≤ _))

/-! ### One call -/

/-- A packet whose frame fits into the buffer. -/
def Framable (p : List UInt8) : Prop := p.length < fieldBe16.limit ∧ 2 + p.length ≤ bufferSize

instance (p : List UInt8) : Decidable (Framable bufferSize p) :=
  inferInstanceAs (Decidable (_ ∧ _))

/-- The frames of the packets `ps` start at `frameStart` and go on in `later`. -/
structure Awaits (conn : TcpConnection) (ps : List (List UInt8)) (later : List UInt8) : Prop where
  start_le : conn.frameStart ≤ conn.buffer.length
  length_le : conn.buffer.length ≤ bufferSize
  stream_eq : conn.buffer.drop conn.frameStart ++ later = fieldBe16.stream ps
  framable : ∀ p ∈ ps, Framable bufferSize p

/-- The first of the packets `ps` is not whole yet. -/
structure Ready (conn : TcpConnection) (ps : List (List UInt8)) (later : List UInt8) : Prop
    extends Awaits bufferSize conn ps later where
  stalled : fieldBe16.Stalled conn.dataLen ps

variable {bufferSize stops} {conn : TcpConnection} {p later : List UInt8}
  {ps : List (List UInt8)}

theorem Awaits.length_drop (conn : TcpConnection) :
    (conn.buffer.drop conn.frameStart).length = conn.dataLen := List.length_drop

theorem packetLen_of_two_le (h : Awaits bufferSize conn (p :: ps) later) (htwo : 2 ≤ conn.dataLen) :
    conn.packetLen = .ok (if 2 + p.length ≤ conn.dataLen then some p.length else none) := by
  have hlen : fieldBe16.decode ((conn.buffer.drop conn.frameStart).take 2) = p.length := by
    refine decode_of_stream h.stream_eq (h.framable p mem_cons_self).1 ?_
    rwa [Awaits.length_drop]
  have hfetch : conn.frameStart + 2 ≤ conn.buffer.length := by
    have := h.start_le
    unfold dataLen at htwo
    omega
  rw [packetLen, if_pos htwo, fetch_of_le hfetch]
  show Except.ok (if 2 + fieldBe16.decode _ ≤ _ then some (fieldBe16.decode _) else none) = _
  rw [hlen]

theorem packetLen_of_stalled (h : Awaits bufferSize conn ps later)
    (hstalled : fieldBe16.Stalled conn.dataLen ps) : conn.packetLen = .ok none := by
  by_cases htwo : 2 ≤ conn.dataLen
  swap
  · rw [packetLen, if_neg htwo]
  cases ps with
  | nil =>
    have hnil := congrArg List.length (held_eq_nil h.stream_eq)
    rw [Awaits.length_drop, length_nil] at hnil
    omega
  | cons p ps =>
    have hshort : conn.dataLen < 2 + p.length := hstalled p rfl
    rw [packetLen_of_two_le h htwo, if_neg (by omega)]

theorem takeFrame_of_whole (h : Awaits bufferSize conn (p :: ps) later)
    (hwhole : 2 + p.length ≤ conn.dataLen) :
    ∃ conn', conn.takeFrame bufferSize stops p.length = .ok conn' ∧
      conn'.inbox = deliver stops conn.inbox p ∧ Awaits bufferSize conn' ps later ∧
      conn'.dataLen < conn.dataLen ∧
      (conn'.buffer.length = conn'.frameStart → conn'.buffer.length < bufferSize) := by
  have hstart := h.start_le
  have hsize := h.length_le
  have hframable := fun q hq => h.framable q (mem_cons_of_mem p hq)
  have hheld : fieldBe16.width + p.length ≤ (conn.buffer.drop conn.frameStart).length := by
    rw [Awaits.length_drop]
    exact hwhole
  obtain ⟨hpacket, hrest⟩ := packet_of_stream h.stream_eq hheld
  have hroom : conn.frameStart + 2 + p.length ≤ conn.buffer.length := by
    unfold dataLen at hwhole
    omega
  have hfetch : fetch conn.buffer (conn.frameStart + 2) p.length = .ok p := by
    rw [fetch_of_le hroom, ← drop_drop]
    exact congrArg Except.ok hpacket
  rw [drop_drop, ← Nat.add_assoc] at hrest
  rw [takeFrame, hfetch]
  show ∃ conn', (if conn.frameStart + 2 + p.length = bufferSize then Except.ok _
    else Except.ok _) = Except.ok conn' ∧ _
  by_cases hend : conn.frameStart + 2 + p.length = bufferSize
  · -- the frame ends with the buffer, so nothing else is in it
    rw [if_pos hend]
    have hnil : conn.buffer.drop (conn.frameStart + 2 + p.length) = [] :=
      drop_of_length_le (by omega)
    refine ⟨_, rfl, rfl, ⟨Nat.le_refl 0, Nat.zero_le _, ?_, hframable⟩, ?_, ?_⟩
    · rw [← hrest]
      show [] ++ later = conn.buffer.drop (conn.frameStart + 2 + p.length) ++ later
      rw [hnil]
    · show 0 - 0 < conn.dataLen
      omega
    · intro _
      show 0 < bufferSize
      omega
  · rw [if_neg hend]
    refine ⟨_, rfl, rfl, ⟨hroom, hsize, hrest, hframable⟩, ?_, ?_⟩
    · show conn.buffer.length - (conn.frameStart + 2 + p.length) < conn.dataLen
      unfold dataLen
      omega
    · intro hall
      have : conn.buffer.length = conn.frameStart + 2 + p.length := hall
      show conn.buffer.length < bufferSize
      omega

/-- An incomplete frame leaves free space: in a full buffer it does not start at zero, since
it fits into the buffer. -/
theorem ready_makeSpace (h : Awaits bufferSize conn ps later)
    (hstalled : fieldBe16.Stalled conn.dataLen ps) (hdata : 0 < conn.dataLen) :
    (conn.makeSpace bufferSize).inbox = conn.inbox ∧
      Ready bufferSize (conn.makeSpace bufferSize) ps later ∧
      (conn.makeSpace bufferSize).buffer.length < bufferSize := by
  have hsize := h.length_le
  rw [makeSpace]
  by_cases hfull : conn.buffer.length = bufferSize
  swap
  · rw [if_neg hfull]
    exact ⟨rfl, ⟨h, hstalled⟩, by omega⟩
  -- a full buffer with its frame at 0 would hold the whole frame
  have hstart : conn.frameStart ≠ 0 := by
    intro hzero
    cases ps with
    | nil =>
      have hnil := congrArg List.length (held_eq_nil h.stream_eq)
      rw [Awaits.length_drop, length_nil] at hnil
      omega
    | cons p ps =>
      have hshort : conn.dataLen < 2 + p.length := hstalled p rfl
      have hfits := (h.framable p mem_cons_self).2
      unfold dataLen at hshort
      omega
  rw [if_pos hfull, if_pos hstart]
  have hlen : (conn.buffer.drop conn.frameStart).length = conn.dataLen := Awaits.length_drop conn
  have hless : conn.dataLen < bufferSize := by
    unfold dataLen at hdata ⊢
    omega
  refine ⟨rfl, ⟨⟨Nat.zero_le _, ?_, h.stream_eq, h.framable⟩, ?_⟩, ?_⟩
  · show (conn.buffer.drop conn.frameStart).length ≤ _
    omega
  · show fieldBe16.Stalled ((conn.buffer.drop conn.frameStart).length - 0) ps
    rw [hlen]
    exact hstalled
  · show (conn.buffer.drop conn.frameStart).length < _
    omega

/-- **One call** takes the frames that lie whole in the buffer and leaves free space, unless
the listener closes the connection. -/
theorem readLoop_spec {fuel : ℕ} (h : Awaits bufferSize conn ps later)
    (hopen : conn.inbox.closed = false) (hdata : 0 < conn.dataLen) (hfuel : conn.dataLen < fuel) :
    Progress (deliver stops) conn.inbox ps fun inbox rest =>
      ∃ conn', readLoop bufferSize stops fuel conn = .ok conn' ∧ conn'.inbox = inbox ∧
        (inbox.closed = false →
          Ready bufferSize conn' rest later ∧ conn'.buffer.length < bufferSize) := by
  induction fuel generalizing conn ps with
  | zero => omega
  | succ fuel ih =>
    simp only [readLoop, hopen, Bool.false_eq_true, if_false]
    by_cases hstalled : fieldBe16.Stalled conn.dataLen ps
    · rw [packetLen_of_stalled h hstalled]
      obtain ⟨hinbox, hready⟩ := ready_makeSpace h hstalled hdata
      exact Progress.nothing ⟨_, rfl, hinbox, fun _ => hready⟩
    cases ps with
    | nil => exact absurd (fun p hp => by cases hp) hstalled
    | cons p ps =>
      have hwhole : 2 + p.length ≤ conn.dataLen := by
        by_contra hshort
        refine hstalled fun q hq => ?_
        obtain rfl := Option.some.inj hq
        exact Nat.lt_of_not_le hshort
      obtain ⟨conn', htake, hinbox, hawaits, hless, hspace⟩ := takeFrame_of_whole h hwhole
      rw [packetLen_of_two_le h (by omega), if_pos hwhole]
      refine Progress.cons ?_
      rw [← hinbox]
      show Progress _ _ _ fun inbox rest => ∃ conn'',
        (conn.takeFrame bufferSize stops p.length >>= fun c =>
          if c.buffer.length > c.frameStart then readLoop bufferSize stops fuel c else .ok c) =
            .ok conn'' ∧ _
      rw [htake]
      show Progress _ _ _ fun inbox rest => ∃ conn'',
        (if conn'.buffer.length > conn'.frameStart then readLoop bufferSize stops fuel conn'
          else .ok conn') = .ok conn'' ∧ _
      by_cases hmore : conn'.buffer.length > conn'.frameStart
      swap
      · -- the last frame ends with the data
        rw [if_neg hmore]
        have hall : conn'.buffer.length = conn'.frameStart := by
          have := hawaits.start_le
          omega
        refine Progress.nothing ⟨_, rfl, rfl, fun _ => ⟨⟨hawaits, ?_⟩, hspace hall⟩⟩
        intro q _
        show conn'.buffer.length - conn'.frameStart < 2 + q.length
        omega
      rw [if_pos hmore]
      cases hclosed : conn'.inbox.closed with
      | false =>
        refine ih hawaits hclosed ?_ (by omega)
        unfold dataLen
        omega
      | true =>
        -- the listener has closed the connection, and the loop returns at once
        obtain ⟨fuel', rfl⟩ : ∃ fuel', fuel = fuel' + 1 := ⟨fuel - 1, by omega⟩
        refine Progress.nothing ⟨conn', ?_, rfl, fun hfalse => ?_⟩
        · simp only [readLoop, hclosed, if_true]
        · rw [hclosed] at hfalse
          cases hfalse

theorem onUvRead_spec {chunk : List UInt8}
    (h : conn.inbox.closed = false → Ready bufferSize conn ps (chunk ++ later))
    (hfits : Fits bufferSize conn chunk) : Progress (deliver stops) conn.inbox ps fun inbox rest =>
      ∃ conn', onUvRead bufferSize stops conn chunk = .ok conn' ∧ conn'.inbox = inbox ∧
        (inbox.closed = false → Ready bufferSize conn' rest later ∧
          (chunk ≠ [] → conn'.buffer.length < bufferSize)) := by
  rw [onUvRead]
  cases hclosed : conn.inbox.closed with
  | true =>
    refine Progress.nothing ⟨conn, if_pos (.inl rfl), rfl, fun hfalse => ?_⟩
    rw [hclosed] at hfalse
    cases hfalse
  | false =>
    have hready := h hclosed
    by_cases hchunk : chunk = []
    · subst hchunk
      exact Progress.nothing ⟨conn, if_pos (.inr rfl), rfl, fun _ => ⟨hready, absurd rfl⟩⟩
    rw [if_neg (by simp [hchunk])]
    have hstart := hready.start_le
    have hlen : (conn.buffer ++ chunk).length = conn.buffer.length + chunk.length :=
      length_append
    have hpos : 0 < chunk.length := length_pos_iff.mpr hchunk
    -- what is in the buffer and what is to come is the same stream
    have hawaits : Awaits bufferSize { conn with buffer := conn.buffer ++ chunk } ps later := by
      refine ⟨?_, ?_, ?_, hready.framable⟩
      · show conn.frameStart ≤ (conn.buffer ++ chunk).length
        omega
      · show (conn.buffer ++ chunk).length ≤ bufferSize
        rw [hlen]
        exact hfits
      · show (conn.buffer ++ chunk).drop conn.frameStart ++ later = _
        rw [drop_append_of_le_length hstart, append_assoc]
        exact hready.stream_eq
    have hdata : 0 < dataLen { conn with buffer := conn.buffer ++ chunk } := by
      show 0 < (conn.buffer ++ chunk).length - conn.frameStart
      omega
    have hfuel : dataLen { conn with buffer := conn.buffer ++ chunk } <
        (conn.buffer ++ chunk).length + 1 := by
      show (conn.buffer ++ chunk).length - conn.frameStart < _
      omega
    refine (readLoop_spec hawaits hclosed hdata hfuel).bind fun inbox rest hread => ?_
    obtain ⟨conn', hok, hinbox, hspec⟩ := hread
    exact Progress.nothing ⟨conn', hok, hinbox, fun hopen =>
      ⟨(hspec hopen).1, fun _ => (hspec hopen).2⟩⟩

/-! ### Runs -/

/-- **A run** takes the first packets, and the others are still to come. -/
theorem run_spec (chunks : List (List UInt8))
    (h : conn.inbox.closed = false → Ready bufferSize conn ps (chunks.flatten ++ later))
    (hfits : Along (onUvRead bufferSize stops) (Fits bufferSize) conn chunks) :
    Progress (deliver stops) conn.inbox ps fun inbox rest =>
      ∃ conn', run (onUvRead bufferSize stops) conn chunks = .ok conn' ∧ conn'.inbox = inbox ∧
        (inbox.closed = false → Ready bufferSize conn' rest later) := by
  induction chunks generalizing conn ps with
  | nil => exact Progress.nothing ⟨conn, rfl, rfl, h⟩
  | cons chunk chunks ih =>
    have hnext : conn.inbox.closed = false →
        Ready bufferSize conn ps (chunk ++ (chunks.flatten ++ later)) := by
      intro hopen
      have hready := h hopen
      rwa [flatten_cons, append_assoc] at hready
    refine (onUvRead_spec hnext hfits.1).bind fun inbox rest hread => ?_
    obtain ⟨conn', hok, rfl, hready⟩ := hread
    rw [run_cons_ok hok]
    exact ih (fun hopen => (hready hopen).1) (hfits.2 conn' hok)

theorem foldl_deliver (inbox : Inbox) :
    ps.foldl (deliver stops) inbox = (ps.filter (· ≠ [])).foldl (Inbox.take stops) inbox := by
  induction ps generalizing inbox with
  | nil => rfl
  | cons p ps ih =>
    rw [foldl_cons, ih]
    by_cases hp : p = []
    · rw [filter_cons_of_neg (by simpa using hp), hp]
      rfl
    · have hlen : p.length ≠ 0 := by simpa using hp
      rw [filter_cons_of_pos (by simpa using hp), foldl_cons, deliver, if_pos hlen]

theorem ready_new (h : ∀ p ∈ ps, Framable bufferSize p) :
    Ready bufferSize {} ps (fieldBe16.stream ps) :=
  ⟨⟨Nat.le_refl 0, Nat.zero_le _, rfl, h⟩, fun p _ => Nat.lt_of_lt_of_le Nat.zero_lt_two
    (Nat.le_add_right 2 p.length)⟩

/-- **Packets over TCP.**  The packets are cut in any way into reads that fit into the free
space of the buffer.  The listener gets those that are not empty, each once and in their
order, up to the one at which it closes the connection; if it never does, the connection
stays open.  While it is open there is free space after each read. -/
theorem tcp_delivers (bufferSize : ℕ) (stops : List (List UInt8) → Bool)
    (packets chunks : List (List UInt8)) (hpackets : ∀ p ∈ packets, Framable bufferSize p)
    (hstream : chunks.flatten = packets.flatMap send)
    (hfits : Along (onUvRead bufferSize stops) (Fits bufferSize) {} chunks) :
    (∃ conn, run (onUvRead bufferSize stops) {} chunks = .ok conn ∧
      conn.inbox = (packets.filter (· ≠ [])).foldl (Inbox.take stops) {} ∧
      ((∀ received, stops received = false) → conn.inbox = ⟨packets.filter (· ≠ []), false⟩)) ∧
    ∀ earlier chunk conn, earlier ++ [chunk] <+: chunks → chunk ≠ [] →
      run (onUvRead bufferSize stops) {} (earlier ++ [chunk]) = .ok conn →
      conn.inbox.closed = false → conn.buffer.length < bufferSize := by
  have hready := ready_new hpackets
  rw [show fieldBe16.stream packets = chunks.flatten from hstream.symm] at hready
  constructor
  · have hnew : ({} : TcpConnection).inbox.closed = false →
        Ready bufferSize {} packets (chunks.flatten ++ []) := fun _ => by rwa [append_nil]
    obtain ⟨taken, rest, htaken, conn, hok, hinbox, hlast⟩ := run_spec chunks hnew hfits
    have hall : conn.inbox = packets.foldl (deliver stops) {} := by
      rw [htaken, foldl_append, ← hinbox]
      cases hclosed : conn.inbox.closed with
      | true => rw [foldl_deliver, Inbox.foldl_take_of_closed hclosed]
      | false =>
        -- at the end of the stream no frame is incomplete
        have hend := hlast (by rw [← hinbox, hclosed])
        have hheld := hend.stream_eq
        rw [append_nil] at hheld
        have hnil := eq_nil_of_stalled hheld (by rw [Awaits.length_drop]; exact hend.stalled)
        rw [hnil]
        rfl
    rw [foldl_deliver] at hall
    refine ⟨conn, hok, hall, fun hopen => ?_⟩
    rw [hall, Inbox.foldl_take_of_open hopen _ _ rfl]
    rfl
  · rintro earlier chunk conn ⟨rest, rfl⟩ hchunk hrun hopen
    rw [append_assoc] at hfits hready
    obtain ⟨hearlier, hlater⟩ := hfits.append
    have hflat : (earlier ++ ([chunk] ++ rest)).flatten =
        earlier.flatten ++ (chunk ++ rest.flatten) := by
      rw [flatten_append, singleton_append, flatten_cons]
    rw [hflat] at hready
    obtain ⟨taken, rest', -, conn₁, hok₁, hinbox₁, hready₁⟩ :=
      run_spec earlier (fun _ => hready) hearlier
    rw [run_append, hok₁] at hrun
    have hread : run (onUvRead bufferSize stops) conn₁ [chunk] = .ok conn := hrun
    obtain ⟨taken', rest'', -, conn₂, hok₂, hinbox₂, hspace⟩ :=
      onUvRead_spec (fun h => hready₁ (by rw [← hinbox₁, h])) (hlater conn₁ hok₁).1
    rw [run_cons_ok hok₂] at hread
    obtain rfl : conn₂ = conn := Except.ok.inj hread
    exact (hspace (by rw [← hinbox₂, hopen])).2 hchunk

/-- A buffer of six bytes: the empty packet fills it, and the last one is read in two parts. -/
theorem tcp_delivers_cut : (∀ p ∈ [[1, 2], [], [3, 4, 5]], Framable 6 p) ∧
    [[0], [2, 1, 2, 0], [0], [0, 3, 3], [4, 5]].flatten = [[1, 2], [], [3, 4, 5]].flatMap send ∧
    ∃ conn, run (onUvRead 6 fun _ => false) {} [[0], [2, 1, 2, 0], [0], [0, 3, 3], [4, 5]] =
      .ok conn ∧ conn.inbox = ⟨[[1, 2], [3, 4, 5]], false⟩ := by
  have hpackets : ∀ p ∈ [[1, 2], [], [3, 4, 5]], Framable 6 p := by decide
  have hstream : [[0], [2, 1, 2, 0], [0], [0, 3, 3], [4, 5]].flatten =
      [[1, 2], [], [3, 4, 5]].flatMap send := by decide
  obtain ⟨⟨conn, hok, -, hall⟩, -⟩ :=
    tcp_delivers 6 (fun _ => false) _ _ hpackets hstream (by decide)
  exact ⟨hpackets, hstream, conn, hok, hall fun _ => rfl⟩

end TcpConnection

end Mediasoup
