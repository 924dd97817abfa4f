/-
Transport-wide congestion control feedback
(`RTC::RTCP::FeedbackRtpTransportPacket`).

A feedback packet announces a number of packet statuses, lists them in 16-bit
chunks and then gives a receive delta for each received packet.  The parser adds
up the statuses of the chunks, and the received ones among them, in `uint16_t`
counters, and accepts the packet when the wrapped counters match.

* `consistent_iff_chunksFit` — an accepted packet lists as many statuses as it
  announces, has one delta for each received status and turns into that many
  consecutively numbered results, exactly when no chunk lists more statuses than
  are still missing.
-/
import Mathlib.Algebra.Order.BigOperators.Group.List
import Mediasoup.Lib.Bytes
import Mediasoup.Lib.Checked

open List Bytes Checked

namespace Mediasoup

namespace TransportFeedback

/-- Status symbols; `none` is only used while a packet is being built. -/
inductive Status where
  | notReceived
  | smallDelta
  | largeDelta
  | reserved
  | none
  deriving DecidableEq

namespace Status

/-- The symbol with the two-bit code `n`. -/
def ofCode (n : ℕ) : Status :=
  match n % 4 with
  | 0 => notReceived
  | 1 => smallDelta
  | 2 => largeDelta
  | _ => reserved

def isReceived : Status → Bool
  | smallDelta | largeDelta => true
  | _ => false

/-- The number of bytes of the receive delta of a status. -/
def deltaSize : Status → ℕ
  | smallDelta => 1
  | largeDelta => 2
  | _ => 0

end Status

/-- The three kinds of chunks. -/
inductive Chunk where
  | runLength (status : Status) (count : ℕ)
  | oneBitVector (statuses : List Status)
  | twoBitVector (statuses : List Status)
  deriving DecidableEq

namespace Chunk

/-- The statuses a chunk stands for. -/
def statuses : Chunk → List Status
  | runLength status count => List.replicate count status
  | oneBitVector statuses => statuses
  | twoBitVector statuses => statuses

def getCount : Chunk → ℕ
  | runLength _ count => count
  | oneBitVector statuses => statuses.length
  | twoBitVector statuses => statuses.length

def getReceivedStatusCount : Chunk → ℕ
  | runLength status count => if status.isReceived then count else 0
  | oneBitVector statuses => statuses.countP Status.isReceived
  | twoBitVector statuses => statuses.countP Status.isReceived

/-- The `14` one-bit symbols of a chunk, as many as are still missing. -/
def oneBitStatuses (bytes count : ℕ) : List Status :=
  (List.range (min 14 count)).map fun i => Status.ofCode (bytes >>> (14 - 1 - i) % 2)

/-- The `7` two-bit symbols of a chunk, as many as are still missing. -/
def twoBitStatuses (bytes count : ℕ) : List Status :=
  (List.range (min 7 count)).map fun i => Status.ofCode (bytes >>> (2 * (7 - 1 - i)) % 4)

/-- `count` is the number of statuses still missing. -/
def parse (buf : List UInt8) (pos len count : ℕ) : Checked Chunk := do
  require (2 ≤ len)
  let bytes ← readBe buf 2 pos
  if bytes >>> 15 % 2 = 0 then do
    let status := Status.ofCode (bytes >>> 13)
    require (status ≠ .reserved)
    return runLength status (bytes % 8192)
  else do
    let first ← read buf pos
    if bit first 6 then return twoBitVector (twoBitStatuses bytes count)
    else return oneBitVector (oneBitStatuses bytes count)

/-- The receive delta of a status at `pos`: a byte, or two bytes as an `int16_t`. -/
def readDelta (buf : List UInt8) (status : Status) (pos : ℕ) : Checked ℤ := do
  let v ← readBe buf status.deltaSize pos
  return if v < 32768 then v else (v : ℤ) - 65536

/-- The deltas of a run: the room for all of them is checked before. -/
def readDeltas (buf : List UInt8) (status : Status) : ℕ → ℕ → Checked (List ℤ)
  | 0, _ => return []
  | n + 1, pos => do
    let delta ← readDelta buf status pos
    let rest ← readDeltas buf status n (pos + status.deltaSize)
    return delta :: rest

/-- The deltas of a vector chunk, with a check of the room before each one.  Only
two-bit vectors may hold large deltas. -/
def readVectorDeltas (buf : List UInt8) (twoBit : Bool) : List Status → ℕ → ℕ → Checked (List ℤ × ℕ)
  | [], _, _ => return ([], 0)
  | status :: rest, pos, len =>
    if status.isReceived then do
      require (twoBit ∨ status = .smallDelta)
      require (status.deltaSize ≤ len)
      let delta ← readDelta buf status pos
      let (deltas, offset) ← readVectorDeltas buf twoBit rest
        (pos + status.deltaSize) (len - status.deltaSize)
      return (delta :: deltas, offset + status.deltaSize)
    else do
      require (twoBit ∨ status = .notReceived)
      readVectorDeltas buf twoBit rest pos len

/-- The deltas of a chunk and the number of bytes they take. -/
def addDeltas (buf : List UInt8) (pos len : ℕ) : Chunk → Checked (List ℤ × ℕ)
  | runLength status count =>
    if status.isReceived then do
      require (count * status.deltaSize ≤ len)
      let deltas ← readDeltas buf status count pos
      return (deltas, count * status.deltaSize)
    else return ([], 0)
  | oneBitVector statuses => readVectorDeltas buf false statuses pos len
  | twoBitVector statuses => readVectorDeltas buf true statuses pos len

end Chunk

/-- A received feedback packet. -/
structure FeedbackRtpTransportPacket where
  baseSequenceNumber : ℕ
  packetStatusCount : ℕ
  referenceTime : ℤ
  feedbackPacketCount : ℕ
  chunks : List Chunk
  deltas : List ℤ
  size : ℕ
  deriving DecidableEq

/-- The chunk loop of the constructor.  The counters are `uint16_t`. -/
def parseChunks (buf : List UInt8) (contentData contentLen packetStatusCount : ℕ) :
    ℕ → ℕ → ℕ → ℕ → Checked (ℕ × ℕ × ℕ × List Chunk)
  | 0, _, _, _ => outOfFuel
  | fuel + 1, offset, count, received =>
    if count < packetStatusCount ∧ offset < contentLen then do
      require (2 ≤ contentLen - offset)
      let chunk ← Chunk.parse buf (contentData + offset) (contentLen - offset)
        (packetStatusCount - count)
      let (offset, count, received, chunks) ←
        parseChunks buf contentData contentLen packetStatusCount fuel (offset + 2)
          ((count + chunk.getCount) % 65536) ((received + chunk.getReceivedStatusCount) % 65536)
      return (offset, count, received, chunk :: chunks)
    else return (offset, count, received, [])

/-- The delta loop of the constructor; it stops early when the content is used up. -/
def parseDeltas (buf : List UInt8) (contentData contentLen : ℕ) : List Chunk → ℕ → Checked (List ℤ)
  | [], _ => return []
  | chunk :: chunks, offset =>
    if offset < contentLen then do
      let (deltas, deltasOffset) ←
        chunk.addDeltas buf (contentData + offset) (contentLen - offset)
      let rest ← parseDeltas buf contentData contentLen chunks (offset + deltasOffset)
      return deltas ++ rest
    else return []

/-- A 24-bit two's complement number. -/
def toSigned24 (v : ℕ) : ℤ := if v < 8388608 then v else (v : ℤ) - 16777216

/-- `Parse` and the constructor, on the `availableLen` bytes from `base` on.  The
length of the content is a `size_t` difference and may wrap. -/
def parse (buf : List UInt8) (base availableLen : ℕ) : Checked FeedbackRtpTransportPacket := do
  require (20 ≤ availableLen)
  let length ← readBe buf 2 (base + 2)
  let len := (length + 1) * 4
  require (len ≤ availableLen)
  let data := base + 12
  let baseSequenceNumber ← readBe buf 2 data
  let packetStatusCount ← readBe buf 2 (data + 2)
  let referenceTime ← readBe buf 3 (data + 4)
  let feedbackPacketCount ← read buf (data + 7)
  let contentData := data + 8
  let contentLen := (len + 2 ^ 64 - 20) % 2 ^ 64
  let (offset, count, received, chunks) ←
    parseChunks buf contentData contentLen packetStatusCount (buf.length + 1) 0 0 0
  require (count = packetStatusCount)
  let deltas ← parseDeltas buf contentData contentLen chunks offset
  require (deltas.length = received)
  return { baseSequenceNumber, packetStatusCount, chunks, deltas, size := len
           referenceTime := toSigned24 referenceTime
           feedbackPacketCount := feedbackPacketCount.toNat }

/-! ### Reads of the parser -/

variable {buf : List UInt8} {pos contentData len contentLen offset count : ℕ}

theorem Chunk.safe_parse (h : pos + len ≤ buf.length) : (Chunk.parse buf pos len count).Safe := by
  refine ensures_require.bind fun _ h2 => (ensures_readBe (by omega)).bind fun bytes _ => ?_
  refine .ite (fun _ => ensures_require.bind fun _ _ => trivial) fun _ => ?_
  refine (ensures_read (by omega)).bind fun first _ => ?_
  exact .ite (fun _ => trivial) fun _ => trivial

theorem Chunk.safe_readDelta {status : Status} (h : pos + status.deltaSize ≤ buf.length) :
    (readDelta buf status pos).Safe :=
  (ensures_readBe h).bind fun _ _ => trivial

theorem Chunk.safe_readDeltas {status : Status} {n : ℕ}
    (h : pos + n * status.deltaSize ≤ buf.length) : (readDeltas buf status n pos).Safe := by
  induction n generalizing pos with
  | zero => trivial
  | succ n ih =>
    rw [Nat.succ_mul] at h
    refine (safe_readDelta (by omega)).bind fun delta _ => ?_
    exact (ih (by omega)).bind fun rest _ => trivial

variable {statuses : List Status} {cur : ℕ}

theorem Chunk.safe_readVectorDeltas {twoBit : Bool}
    (h : pos + len ≤ buf.length) : (readVectorDeltas buf twoBit statuses pos len).Safe := by
  induction statuses generalizing pos len with
  | nil => trivial
  | cons status rest ih =>
    refine .ite (fun _ => ?_) fun _ => ensures_require.bind fun _ _ => ih h
    refine ensures_require.bind fun _ _ => ensures_require.bind fun _ hroom => ?_
    refine (safe_readDelta (by omega)).bind fun delta _ => ?_
    exact (ih (by omega)).bind fun _ _ => trivial

theorem Chunk.safe_addDeltas (h : pos + len ≤ buf.length) (chunk : Chunk) :
    (chunk.addDeltas buf pos len).Safe := by
  cases chunk with
  | runLength status count =>
    refine .ite (fun _ => ensures_require.bind fun _ hroom => ?_) fun _ => trivial
    exact (safe_readDeltas (by omega)).bind fun _ _ => trivial
  | oneBitVector statuses | twoBitVector statuses => exact safe_readVectorDeltas h

theorem safe_parseChunks {psc fuel received : ℕ} (h : contentData + contentLen ≤ buf.length)
    (hfuel : contentLen - offset < fuel) :
    (parseChunks buf contentData contentLen psc fuel offset count received).Safe := by
  induction fuel generalizing offset count received with
  | zero => omega
  | succ fuel ih =>
    refine .ite (fun hc => ?_) fun _ => trivial
    refine ensures_require.bind fun _ h2 => (Chunk.safe_parse (by omega)).bind fun chunk _ => ?_
    exact (ih (by omega)).bind fun _ _ => trivial

theorem safe_parseDeltas {chunks : List Chunk} (h : contentData + contentLen ≤ buf.length) :
    (parseDeltas buf contentData contentLen chunks offset).Safe := by
  induction chunks generalizing offset with
  | nil => trivial
  | cons chunk chunks ih =>
    refine .ite (fun hlt => ?_) fun _ => trivial
    refine (Chunk.safe_addDeltas (by omega) chunk).bind fun _ _ => ?_
    exact ih.bind fun _ _ => trivial

/-- On a sub-packet whose announced length is the available one, the parser reads
only bytes of the sub-packet and its loops end. -/
theorem safe_parse {base : ℕ} (h : base + len ≤ buf.length)
    (hlen : (be16 buf (base + 2) + 1) * 4 = len) : (parse buf base len).Safe := by
  refine ensures_require.bind fun _ h20 => ?_
  refine (ensures_readBe_two (by omega)).bind fun length hlength => ?_
  subst hlength
  refine ensures_require.bind fun _ _ => (ensures_readBe (by omega)).bind fun _ _ => ?_
  refine (ensures_readBe (by omega)).bind fun psc _ => ?_
  refine (ensures_readBe (by omega)).bind fun _ _ => ?_
  refine (ensures_read (by omega)).bind fun _ _ => ?_
  -- the announced length is at least 20, so the content length does not wrap
  have hcontent : ((be16 buf (base + 2) + 1) * 4 + 2 ^ 64 - 20) % 2 ^ 64 ≤ len - 20 := by
    rw [hlen]
    have := Nat.mod_le (len - 20) (2 ^ 64)
    omega
  refine (safe_parseChunks (by omega) (by omega)).bind fun r _ => ?_
  refine ensures_require.bind fun _ _ => (safe_parseDeltas (by omega)).bind fun _ _ => ?_
  exact ensures_require.bind fun _ _ => trivial

/-! ### The results of an accepted packet -/

structure PacketResult where
  sequenceNumber : ℕ
  delta : ℤ
  received : Bool
  receivedAtMs : ℤ

/-- `FillResults`, for the statuses of a chunk; sequence numbers are `uint16_t`. -/
def fillResults : List Status → ℕ → List PacketResult
  | [], _ => []
  | status :: rest, currentSequenceNumber =>
    let currentSequenceNumber := (currentSequenceNumber + 1) % 65536
    ⟨currentSequenceNumber, 0, status.isReceived, 0⟩ :: fillResults rest currentSequenceNumber

/-- The loop that hands out the deltas; `none` is the exception of
`deltas.at(deltaIdx)`. -/
def assignDeltas (deltas : List ℤ) : List PacketResult → ℕ → ℤ → Option (List PacketResult)
  | [], _, _ => some []
  | r :: rs, deltaIdx, currentReceivedAtMs =>
    if r.received then do
      let delta ← deltas[deltaIdx]?
      let currentReceivedAtMs := currentReceivedAtMs + delta.tdiv 4
      let rest ← assignDeltas deltas rs (deltaIdx + 1) currentReceivedAtMs
      return { r with delta := delta, receivedAtMs := currentReceivedAtMs } :: rest
    else do
      let rest ← assignDeltas deltas rs deltaIdx currentReceivedAtMs
      return r :: rest

def getPacketResults (packet : FeedbackRtpTransportPacket) : Option (List PacketResult) :=
  assignDeltas packet.deltas
    (fillResults (packet.chunks.flatMap Chunk.statuses)
      ((packet.baseSequenceNumber + 65535) % 65536))
    0 (packet.referenceTime * 64)

/-- The packet keeps its promises: as many statuses as announced, one delta for
each received one, and one result for each status, numbered from
`baseSequenceNumber` on. -/
structure Consistent (packet : FeedbackRtpTransportPacket) : Prop where
  count : (packet.chunks.map Chunk.getCount).sum = packet.packetStatusCount
  received : (packet.chunks.map Chunk.getReceivedStatusCount).sum = packet.deltas.length
  results : ∃ rs, getPacketResults packet = some rs ∧ rs.length = packet.packetStatusCount ∧
    ∀ i r, rs[i]? = some r → r.sequenceNumber = (packet.baseSequenceNumber + i) % 65536

theorem length_statuses (chunk : Chunk) : chunk.statuses.length = chunk.getCount := by
  cases chunk <;> simp [Chunk.statuses, Chunk.getCount]

theorem countP_statuses (chunk : Chunk) :
    chunk.statuses.countP Status.isReceived = chunk.getReceivedStatusCount := by
  cases chunk with
  | runLength status count =>
    simp [Chunk.statuses, Chunk.getReceivedStatusCount, countP_replicate]
  | oneBitVector statuses | twoBitVector statuses => rfl

theorem getReceivedStatusCount_le (chunk : Chunk) :
    chunk.getReceivedStatusCount ≤ chunk.getCount := by
  rw [← countP_statuses, ← length_statuses]
  exact countP_le_length

theorem length_fillResults : (fillResults statuses cur).length = statuses.length := by
  induction statuses generalizing cur with
  | nil => rfl
  | cons status rest ih => simp [fillResults, ih]

theorem countP_fillResults :
    (fillResults statuses cur).countP (·.received) = statuses.countP Status.isReceived := by
  induction statuses generalizing cur with
  | nil => rfl
  | cons status rest ih => simp [fillResults, countP_cons, ih]

theorem fillResults_sequenceNumber {i : ℕ} {r : PacketResult}
    (h : (fillResults statuses cur)[i]? = some r) : r.sequenceNumber = (cur + 1 + i) % 65536 := by
  induction statuses generalizing cur i with
  | nil => simp [fillResults] at h
  | cons status rest ih =>
    cases i with
    | zero =>
      simp only [fillResults, List.getElem?_cons_zero, Option.some.injEq] at h
      rw [← h, Nat.add_zero]
    | succ i =>
      have := ih (by simpa [fillResults] using h)
      omega

/-- With enough deltas left the deltas can be handed out, and only the deltas and
the times of the results change. -/
theorem assignDeltas_eq_some {deltas : List ℤ} {rs : List PacketResult} {k : ℕ} {t : ℤ}
    (h : k + rs.countP (·.received) ≤ deltas.length) :
    ∃ rs', assignDeltas deltas rs k t = some rs' ∧
      rs'.map (·.sequenceNumber) = rs.map (·.sequenceNumber) := by
  induction rs generalizing k t with
  | nil => exact ⟨[], rfl, rfl⟩
  | cons r rs ih =>
    rw [countP_cons] at h
    by_cases hr : r.received = true
    · simp only [hr, if_true] at h
      have hk : deltas[k]? = some deltas[k] := List.getElem?_eq_getElem (by omega)
      obtain ⟨rs', hrs, hseq⟩ := @ih (k + 1) (t + deltas[k].tdiv 4) (by omega)
      refine ⟨_, by simp [assignDeltas, hr, hk, hrs]; rfl, ?_⟩
      simp [hseq]
    · rw [if_neg hr, Nat.add_zero] at h
      obtain ⟨rs', hrs, hseq⟩ := @ih k t h
      refine ⟨_, by simp [assignDeltas, hr, hrs]; rfl, ?_⟩
      simp [hseq]

theorem getPacketResults_spec {packet : FeedbackRtpTransportPacket}
    (hreceived : (packet.chunks.map Chunk.getReceivedStatusCount).sum ≤ packet.deltas.length) :
    ∃ rs, getPacketResults packet = some rs ∧ rs.length = (packet.chunks.map Chunk.getCount).sum ∧
      ∀ i r, rs[i]? = some r → r.sequenceNumber = (packet.baseSequenceNumber + i) % 65536 := by
  set statuses := packet.chunks.flatMap Chunk.statuses with hst
  set cur := (packet.baseSequenceNumber + 65535) % 65536 with hcur
  have hlen : statuses.length = (packet.chunks.map Chunk.getCount).sum := by
    simp only [hst, length_flatMap, length_statuses]
  have hcount : statuses.countP Status.isReceived =
      (packet.chunks.map Chunk.getReceivedStatusCount).sum := by
    simp only [hst, countP_flatMap, Function.comp_def, countP_statuses]
  obtain ⟨rs, hrs, hseq⟩ := @assignDeltas_eq_some packet.deltas (fillResults statuses cur) 0
    (packet.referenceTime * 64) (by rw [countP_fillResults]; omega)
  refine ⟨rs, hrs, ?_, ?_⟩
  · have := congrArg List.length hseq
    rw [length_map, length_map, length_fillResults] at this
    omega
  · intro i r hr
    have hmap := congrArg (·[i]?) hseq
    simp only [List.getElem?_map, hr, Option.map_some] at hmap
    obtain ⟨r', hr', hnum⟩ := Option.map_eq_some_iff.mp hmap.symm
    rw [← hnum, fillResults_sequenceNumber hr']
    omega

/-! ### What the parser accepts -/

/-- The number of statuses that the chunk in the bytes `hi`, `lo` lists when
`missing` statuses are missing. -/
def chunkCount (hi lo : UInt8) (missing : ℕ) : ℕ :=
  if bit hi 7 then min (if bit hi 6 then 7 else 14) missing
  else bits hi 0 5 * 256 + lo.toNat

/-- No chunk of `content` lists more statuses than are still missing, until none
is missing any more. -/
def ChunksFit : List UInt8 → ℕ → Prop
  | hi :: lo :: rest, missing =>
    missing = 0 ∨ (chunkCount hi lo missing ≤ missing ∧
      ChunksFit rest (missing - chunkCount hi lo missing))
  | _, _ => True

theorem chunksFit_zero (content : List UInt8) : ChunksFit content 0 := by
  unfold ChunksFit
  split
  · exact .inl rfl
  · trivial

theorem chunksFit_cons {hi lo : UInt8} {rest : List UInt8} {missing : ℕ} (h : missing ≠ 0) :
    ChunksFit (hi :: lo :: rest) missing ↔ chunkCount hi lo missing ≤ missing ∧
      ChunksFit rest (missing - chunkCount hi lo missing) := by
  rw [ChunksFit]
  simp [h]

theorem Chunk.parse_returns (pos len missing : ℕ) :
    (Chunk.parse buf pos len missing).Returns fun chunk => ∃ hi lo rest,
      buf.drop pos = hi :: lo :: rest ∧ chunk.getCount = chunkCount hi lo missing := by
  refine returns_require.bind fun _ _ => ?_
  refine .bind (P := fun v => ∃ hi lo rest, buf.drop pos = hi :: lo :: rest ∧
    v = hi.toNat * 256 + lo.toNat) (fun v hv => readBe_two_eq_value hv) ?_
  rintro bytes ⟨hi, lo, rest, hd, rfl⟩
  have hhi := hi.toNat_lt
  have hlo := lo.toNat_lt
  -- the top bit of the word is the top bit of its first byte
  have htype : (hi.toNat * 256 + lo.toNat) >>> 15 % 2 = 0 ↔ ¬ bit hi 7 := by
    rw [bit, Nat.testBit_eq_decide_div_mod_eq, decide_eq_true_eq, Nat.shiftRight_eq_div_pow]
    omega
  refine .ite (fun h0 => ?_) fun h1 => ?_
  · refine returns_require.bind fun _ _ => returns_value ⟨hi, lo, rest, hd, ?_⟩
    rw [chunkCount, if_neg (htype.mp h0), bits, Chunk.getCount, Nat.shiftRight_zero]
    omega
  · have h7 : bit hi 7 := by
      by_contra hc
      exact h1 (htype.mpr hc)
    refine .bind (P := fun first => first = hi) (fun first hf => ?_) ?_
    · have hget : buf[pos]? = some hi := by
        rw [← List.head?_drop, hd]
        rfl
      rw [read_eq_value, hget] at hf
      simpa using hf.symm
    · rintro first rfl
      refine .ite (fun h6 => returns_value ⟨first, lo, rest, hd, ?_⟩)
        fun h6 => returns_value ⟨first, lo, rest, hd, ?_⟩
      · simp [chunkCount, h7, h6, Chunk.getCount, Chunk.twoBitStatuses]
      · simp [chunkCount, h7, h6, Chunk.getCount, Chunk.oneBitStatuses]

/-- What the chunk loop returns.  As long as the counter has not passed
`packetStatusCount` it is the natural number of statuses seen, so a loop that
ends with the counter right has seen too many statuses only if a chunk did not
fit. -/
theorem parseChunks_returns {psc : ℕ} (hpsc : psc < 65536) {fuel received : ℕ}
    (hcount : count < 65536) (hreceived : received < 65536) :
    (parseChunks buf contentData contentLen psc fuel offset count received).Returns fun r =>
      r.2.1 = (count + (r.2.2.2.map Chunk.getCount).sum) % 65536 ∧
      r.2.2.1 = (received + (r.2.2.2.map Chunk.getReceivedStatusCount).sum) % 65536 ∧
      (count ≤ psc → r.2.1 = psc → (ChunksFit (buf.drop (contentData + offset)) (psc - count) ↔
          count + (r.2.2.2.map Chunk.getCount).sum ≤ psc)) := by
  induction fuel generalizing offset count received with
  | zero =>
    intro r hr
    simp [parseChunks] at hr
  | succ fuel ih =>
    refine .ite (fun hc => ?_) fun hc => returns_value ?_
    · refine returns_require.bind fun _ _ => (Chunk.parse_returns _ _ _).bind fun chunk hch => ?_
      obtain ⟨hi, lo, rest, hd, hn⟩ := hch
      refine (ih (Nat.mod_lt _ (by omega)) (Nat.mod_lt _ (by omega))).bind fun r hr => ?_
      obtain ⟨offset', count', received', chunks⟩ := r
      obtain ⟨h1, h2, h3⟩ := hr
      refine returns_value ?_
      simp only [map_cons, sum_cons] at h1 h2 h3 ⊢
      refine ⟨by omega, by omega, fun hle hend => ?_⟩
      have hrest : buf.drop (contentData + (offset + 2)) = rest := by
        rw [← Nat.add_assoc, ← drop_drop, hd]
        rfl
      rw [hd, chunksFit_cons (by omega), ← hn]
      by_cases hfit : count + chunk.getCount ≤ psc
      · -- the chunk fits, so the counter did not wrap
        have hmod : (count + chunk.getCount) % 65536 = count + chunk.getCount :=
          Nat.mod_eq_of_lt (lt_of_le_of_lt hfit hpsc)
        rw [hmod, hrest] at h3
        have := h3 hfit hend
        rw [← Nat.sub_sub] at this
        constructor
        · rintro ⟨-, h⟩
          have := this.mp h
          omega
        · intro h
          exact ⟨by omega, this.mpr (by omega)⟩
      · constructor
        · rintro ⟨h, -⟩
          omega
        · intro h
          omega
    · simp only [map_nil, sum_nil, Nat.add_zero]
      refine ⟨(Nat.mod_eq_of_lt hcount).symm, (Nat.mod_eq_of_lt hreceived).symm, ?_⟩
      intro _ hend
      rw [hend, Nat.sub_self]
      exact iff_of_true (chunksFit_zero _) le_rfl

/-- The packet status count announced in the bytes of a packet. -/
def announcedStatusCount (data : List UInt8) : ℕ :=
  ((data.drop 14).headD 0).toNat * 256 + ((data.drop 15).headD 0).toNat

/-- **Accepted feedback packets.**  A byte string that `Parse` accepts yields a
consistent packet exactly when no chunk lists more statuses than are missing;
otherwise the 16-bit status counter wraps around and the packet describes
thousands of packets too many. -/
theorem consistent_iff_chunksFit (data : List UInt8) (packet : FeedbackRtpTransportPacket)
    (haccept : parse data 0 data.length = value packet) :
    Consistent packet ↔ ChunksFit (data.drop 20) (announcedStatusCount data) := by
  have hparse : (parse data 0 data.length).Returns fun p =>
      Consistent p ↔ ChunksFit (data.drop 20) (announcedStatusCount data) := by
    refine returns_require.bind fun _ _ => (returns_any _).bind fun length _ => ?_
    refine returns_require.bind fun _ _ => (returns_any _).bind fun base _ => ?_
    refine .bind (P := fun v => v = announcedStatusCount data ∧ v < 65536) ?_ ?_
    · intro v hv
      obtain ⟨hi, lo, rest, hd, rfl⟩ := readBe_two_eq_value hv
      have h14 : data.drop 14 = hi :: lo :: rest := hd
      have h15 : data.drop 15 = lo :: rest := by
        rw [show 15 = 14 + 1 from rfl, ← drop_drop, h14]
        rfl
      have hhi := hi.toNat_lt
      have hlo := lo.toNat_lt
      rw [announcedStatusCount, h14, h15]
      exact ⟨rfl, by omega⟩
    rintro psc ⟨hpsc, hlt⟩
    refine (returns_any _).bind fun time _ => (returns_any _).bind fun fb _ => ?_
    refine (parseChunks_returns hlt (by omega) (by omega)).bind fun r hr => ?_
    obtain ⟨offset, count, received, chunks⟩ := r
    obtain ⟨hmod, hrecv, hfit⟩ := hr
    refine returns_require.bind fun _ hcount => (returns_any _).bind fun deltas _ => ?_
    refine returns_require.bind fun _ hlen => returns_value ?_
    rw [← hpsc]
    simp only [Nat.zero_add, Nat.add_zero, Nat.sub_zero, Nat.zero_le,
      true_implies] at hmod hrecv hfit
    -- the sums are exact only if neither counter has wrapped
    have hle : (chunks.map Chunk.getReceivedStatusCount).sum ≤
        (chunks.map Chunk.getCount).sum :=
      sum_le_sum fun chunk _ => getReceivedStatusCount_le chunk
    constructor
    · intro h
      exact (hfit hcount).mpr h.count.le
    · intro h
      have hsum : (chunks.map Chunk.getCount).sum = psc := by
        have := (hfit hcount).mp h
        rw [Nat.mod_eq_of_lt (lt_of_le_of_lt this hlt)] at hmod
        exact hmod.symm.trans hcount
      have hreceived : (chunks.map Chunk.getReceivedStatusCount).sum = deltas.length := by
        rw [Nat.mod_eq_of_lt (by omega)] at hrecv
        exact (hlen.trans hrecv).symm
      obtain ⟨rs, hrs, hrlen, hseq⟩ := @getPacketResults_spec
        ⟨base, psc, toSigned24 time, fb.toNat, chunks, deltas, (length + 1) * 4⟩ hreceived.le
      exact ⟨hsum, hreceived, rs, hrs, hrlen.trans hsum, hseq⟩
  exact hparse packet haccept

/-- Two received packets, the first with a delta of one byte, the second of two. -/
private def twoReceived : List UInt8 :=
  [0x8F, 205, 0, 6, 0, 0, 0, 1, 0, 0, 0, 2, 0, 7, 0, 2, 0, 0, 1, 0, 0xD8, 0, 4, 0, 8, 0, 0, 0]

theorem consistent_twoReceived :
    ∃ packet, parse twoReceived 0 twoReceived.length = value packet ∧ Consistent packet := by
  have h : parse twoReceived 0 twoReceived.length = value
      ⟨7, 2, 1, 0, [.twoBitVector [.smallDelta, .largeDelta]], [4, 8], 28⟩ := by
    decide +kernel
  refine ⟨_, h, (consistent_iff_chunksFit _ _ h).mpr ?_⟩
  simp [twoReceived, ChunksFit, chunkCount, announcedStatusCount, bit, Nat.testBit]

/-- Sixteen runs of `8191` statuses and one of `15` are accepted as `65535`. -/
private def wrappedCount : List UInt8 :=
  [0x8F, 205, 0, 13, 0, 0, 0, 1, 0, 0, 0, 2, 0, 0, 255, 255, 0, 0, 0, 0] ++
    (List.replicate 16 [0x1F, 0xFF]).flatten ++ [0, 15, 0, 0]

theorem wrappedCount_accepted : ∃ packet, parse wrappedCount 0 wrappedCount.length = value packet ∧
      packet.packetStatusCount = 65535 ∧ (packet.chunks.map Chunk.getCount).sum = 131071 ∧
      ¬ Consistent packet := by
  have h : parse wrappedCount 0 wrappedCount.length = value
      ⟨0, 65535, 0, 0, List.replicate 16 (.runLength .notReceived 8191) ++
        [.runLength .notReceived 15], [], 56⟩ := by
    decide +kernel
  refine ⟨_, h, rfl, rfl, fun hc => ?_⟩
  exact absurd hc.count (by decide)

end TransportFeedback

end Mediasoup
