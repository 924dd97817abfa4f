/-
Transport-wide feedback packets that are generated locally
(`RTC::RTCP::FeedbackRtpTransportPacket`, the part that builds a packet).

`AddPacket` records the arrival of a packet.  The statuses of the packets since the last
one are collected in a context and leave it in chunks: as a run when seven or more are the
same, as a vector of seven otherwise.

* `LocalFeedback.addPacket`, `fillChunk`, `addPendingChunks` — the builder.
* `covered_fillChunk` — how many statuses a call adds, in the 16-bit arithmetic of the
  source.
* `listed_fillChunk` — which statuses a call adds, as long as `Fits` holds.
* `getBaseDelta_eq_iff` — when the difference of two reference times is right.
-/
import Mathlib.Data.Nat.ModEq
import Mediasoup.Rtcp.Reports
import Mediasoup.Rtcp.TransportFeedback
import Mediasoup.Rtp.SeqManager

open List Bytes

namespace Mediasoup

namespace TransportFeedback

/-- The assertions of the builder and of the serializer. -/
inductive Assertion where
  | packetIsFull
  | alreadySevenStatuses
  | packetInfoSize
  deriving DecidableEq

inductive AddPacketResult where
  | success
  | maxSizeExceeded
  | fatal

/-- The statuses that are not in a chunk yet. -/
structure Context where
  allSameStatus : Bool := true
  currentStatus : Status := .none
  statuses : List Status := []

/-- What the context is between two calls. -/
structure Context.Ready (c : Context) : Prop where
  same : c.allSameStatus → ∀ s ∈ c.statuses, s = c.currentStatus
  short : ¬c.allSameStatus → c.statuses.length < 7
  unset : c.currentStatus = .none → c.statuses = []

/-- What the context is where a packet with this status is added. -/
structure Context.Accepts (c : Context) (status : Status) : Prop where
  same : c.allSameStatus → c.currentStatus = status → ∀ s ∈ c.statuses, s = status
  short : c.statuses.length < 7 ∨ (c.allSameStatus ∧ c.currentStatus = status)
  unset : c.currentStatus = .none → c.statuses = []

/-- What the context is after missing packets. -/
structure Context.Leftover (c : Context) : Prop where
  current : c.currentStatus = .notReceived ∨ c.statuses = []
  short : c.statuses.length < 7

/-- A locally generated packet; its `size` stays zero. -/
structure LocalFeedback extends FeedbackRtpTransportPacket where
  senderSsrc : UInt32
  mediaSsrc : UInt32
  latestSequenceNumber : UInt16
  latestTimestamp : UInt64
  context : Context
  deltasAndChunksSize : ℕ

def maxMissingPackets : ℕ := 2 ^ 13 - 1

def maxPacketStatusCount : ℕ := 2 ^ 16 - 1

def maxPacketDelta : ℤ := 0x7FFF

/-- The status of a received packet with this delta. -/
def deltaStatus (delta : ℤ) : Status :=
  if 0 ≤ delta ∧ delta ≤ 255 then .smallDelta else .largeDelta

/-- The statuses up to `sequenceNumber` that were not received, as a `uint16_t`. -/
def missingPackets (previousSequenceNumber sequenceNumber : UInt16) : ℕ :=
  (sequenceNumber - (previousSequenceNumber + 1)).toNat

/-- The symbols that a chunk can hold. -/
def Status.IsSymbol (s : Status) : Prop := s = .notReceived ∨ s.isReceived

/-- How many statuses a run can count: more than a vector holds, and no more than a
`uint16_t`. -/
structure RunLimit where
  count : ℕ
  gt_seven : 7 < count
  lt_uint16 : count < 65536

/-- The count as it is written. -/
def RunLimit.written : RunLimit := ⟨maxMissingPackets, by decide, by decide⟩

/-- The count as it is stored. -/
def RunLimit.stored : RunLimit := ⟨65535, by decide, by decide⟩

/-- A chunk that stands for its statuses whatever follows it. -/
def Chunk.Full (limit : RunLimit) : Chunk → Prop
  | .runLength status count => status.IsSymbol ∧ 0 < count ∧ count ≤ limit.count ∧
      (status = .notReceived ∨ 2 ≤ count)
  | .oneBitVector _ => False
  | .twoBitVector statuses => (∀ s ∈ statuses, s.IsSymbol) ∧ statuses.length = 7

namespace LocalFeedback

def fresh (senderSsrc mediaSsrc : UInt32) : LocalFeedback where
  baseSequenceNumber := 0
  packetStatusCount := 0
  referenceTime := 0
  feedbackPacketCount := 0
  chunks := []
  deltas := []
  size := 0
  senderSsrc := senderSsrc
  mediaSsrc := mediaSsrc
  latestSequenceNumber := 0
  latestTimestamp := 0
  context := {}
  deltasAndChunksSize := 0

variable (p : LocalFeedback)

def setFeedbackPacketCount (count : UInt8) : LocalFeedback :=
  { p with feedbackPacketCount := count.toNat }

/-- Seven statuses are reserved for the ones that are still in the context. -/
def isFull : Bool := maxPacketStatusCount - 7 ≤ p.packetStatusCount

def isSerializable : Bool := 0 < p.deltas.length

def createRunLengthChunk (status : Status) (count : ℕ) : LocalFeedback :=
  { p with
    chunks := p.chunks ++ [.runLength status (count % 65536)]
    packetStatusCount := (p.packetStatusCount + count % 65536) % 65536
    deltasAndChunksSize := p.deltasAndChunksSize + 2 }

def createTwoBitVectorChunk (statuses : List Status) : LocalFeedback :=
  { p with
    chunks := p.chunks ++ [.twoBitVector statuses]
    packetStatusCount := (p.packetStatusCount + statuses.length % 65536) % 65536
    deltasAndChunksSize := p.deltasAndChunksSize + 2 }

def setStatuses (statuses : List Status) : LocalFeedback :=
  { p with context.statuses := statuses }

def setCurrentStatus (status : Status) : LocalFeedback :=
  { p with context.currentStatus := status }

/-- The statuses of the context, all of them the same, as a run. -/
def flushRun : LocalFeedback :=
  (p.createRunLengthChunk p.context.currentStatus p.context.statuses.length).setStatuses []

/-- The statuses of the context as a vector. -/
def flushVector : LocalFeedback :=
  (p.createTwoBitVectorChunk p.context.statuses).setStatuses []

/-- A long run ends before missing packets. -/
def closeAnyRun : LocalFeedback :=
  if 7 ≤ p.context.statuses.length ∧ p.context.allSameStatus
  then p.flushRun.setCurrentStatus .none else p

/-- Statuses that were not received, up to the room of a vector. -/
def fillStatuses (represented : ℕ) : LocalFeedback :=
  (p.setStatuses (p.context.statuses ++
    List.replicate represented .notReceived)).setCurrentStatus .notReceived

def closeVector : LocalFeedback :=
  if p.context.statuses.length = 7 then p.flushVector.setCurrentStatus .none else p

/-- The missing packets that the vector had no room for. -/
def addRemaining (missing : ℕ) : LocalFeedback :=
  if missing ≠ 0 then
    ((p.createRunLengthChunk .notReceived missing).setStatuses []).setCurrentStatus .none
  else p

/-- The number of missing packets that the loop represents in a vector. -/
def represented (missing : ℕ) : ℕ :=
  min missing (7 - p.context.statuses.length)

/-- The block of `FillChunk` for missing packets. -/
def addMissing (missing : ℕ) : LocalFeedback :=
  let p := p.closeAnyRun
  (p.fillStatuses (p.represented missing)).closeVector.addRemaining
    (missing - p.represented missing)

/-- A long run ends before a packet with another status. -/
def closeRun (status : Status) : LocalFeedback :=
  if 7 ≤ p.context.statuses.length ∧ p.context.allSameStatus ∧ status ≠ p.context.currentStatus
  then p.flushRun else p

def pushStatus (status : Status) (delta : ℤ) : LocalFeedback :=
  { p with
    context.allSameStatus := p.context.currentStatus = .none ∨
      (p.context.allSameStatus ∧ p.context.currentStatus = status)
    context.currentStatus := status
    context.statuses := p.context.statuses ++ [status]
    deltas := p.deltas ++ [delta]
    deltasAndChunksSize := p.deltasAndChunksSize + if status = .smallDelta then 1 else 2 }

/-- Seven different statuses are a vector. -/
def closeMixed : LocalFeedback :=
  if p.context.statuses.length = 7 ∧ ¬p.context.allSameStatus
  then (p.setCurrentStatus .none).flushVector else p

def fillChunk (previousSequenceNumber sequenceNumber : UInt16) (delta : ℤ) : LocalFeedback :=
  let missing := missingPackets previousSequenceNumber sequenceNumber
  let p := if 0 < missing then p.addMissing missing else p
  let status := deltaStatus delta
  ((p.closeRun status).pushStatus status delta).closeMixed

/-- The packet with its base set, before the first delta. -/
def setBase (sequenceNumber : UInt16) (timestamp : UInt64) : LocalFeedback :=
  { p with
    baseSequenceNumber := (sequenceNumber + 1).toNat
    referenceTime := ((timestamp &&& 0x1FFFFFC0) / 64).toNat
    latestSequenceNumber := sequenceNumber
    latestTimestamp := (timestamp >>> 6) * 64 }

/-- The difference of the times in units of 250 us, as an `int64_t`. -/
def delta64 (timestamp : UInt64) : ℤ :=
  ((timestamp - p.latestTimestamp) * 4).toInt64.toInt

/-- The size with another chunk and its delta, padded to 32 bits. -/
def grownSize : ℕ := Rtcp.padTo4Bytes (12 + 8 + p.deltasAndChunksSize + 2 + 2)

/-- The missing packets are counted in `int` here, and not modulo `2 ^ 16` as in
`FillChunk`. -/
def addPacket (sequenceNumber : UInt16) (timestamp : UInt64) (maxRtcpPacketLen : ℕ) :
    Except Assertion (LocalFeedback × AddPacketResult) :=
  if p.isFull then .error .packetIsFull
  else if p.latestTimestamp = 0 then .ok (p.setBase sequenceNumber timestamp, .success)
  else if ¬seqHigherThan sequenceNumber p.latestSequenceNumber then .ok (p, .success)
  else if (sequenceNumber.toNat : ℤ) - (p.latestSequenceNumber.toNat + 1) > maxMissingPackets then
    .ok (p, .fatal)
  else if p.delta64 timestamp > maxPacketDelta ∨ p.delta64 timestamp < -1 * maxPacketDelta then
    .ok (p, .fatal)
  else if p.grownSize > maxRtcpPacketLen then .ok (p, .maxSizeExceeded)
  else
    .ok ({ p.fillChunk p.latestSequenceNumber sequenceNumber (p.delta64 timestamp) with
      latestSequenceNumber := sequenceNumber
      latestTimestamp := timestamp }, .success)

def addPendingChunks : Except Assertion LocalFeedback :=
  if p.context.statuses = [] then .ok p
  else if p.context.allSameStatus then .ok p.flushRun
  else if 7 ≤ p.context.statuses.length then .error .alreadySevenStatuses
  else .ok p.flushVector

def finish : Except Assertion LocalFeedback := p.addPendingChunks

/-! ### How many statuses a call adds -/

/-- The fields that `FillChunk` leaves alone. -/
def frame : ℕ × ℤ × ℕ × UInt32 × UInt32 × UInt16 × UInt64 :=
  (p.baseSequenceNumber, p.referenceTime, p.feedbackPacketCount, p.senderSsrc, p.mediaSsrc,
    p.latestSequenceNumber, p.latestTimestamp)

/-- Chunks are created, and the context changes; nothing else does. -/
structure Rearranges (p p' : LocalFeedback) : Prop where
  frame_eq : p'.frame = p.frame
  deltas_eq : p'.deltas = p.deltas
  sized : p'.deltasAndChunksSize + 2 * p.chunks.length =
    p.deltasAndChunksSize + 2 * p'.chunks.length

theorem Rearranges.refl (p : LocalFeedback) : Rearranges p p := ⟨rfl, rfl, rfl⟩

variable {p q p' : LocalFeedback} {missing : ℕ} {status : Status} {r : LocalFeedback}

theorem Rearranges.trans (hpq : Rearranges p q) (hqr : Rearranges q r) : Rearranges p r := by
  refine ⟨hqr.frame_eq.trans hpq.frame_eq, hqr.deltas_eq.trans hpq.deltas_eq, ?_⟩
  have := hpq.sized
  have := hqr.sized
  omega

theorem Rearranges.of_chunk {chunk : Chunk} (hframe : p'.frame = p.frame)
    (hdeltas : p'.deltas = p.deltas) (hchunks : p'.chunks = p.chunks ++ [chunk])
    (hsize : p'.deltasAndChunksSize = p.deltasAndChunksSize + 2) : Rearranges p p' := by
  refine ⟨hframe, hdeltas, ?_⟩
  rw [hsize, hchunks, length_append, length_singleton]
  omega

theorem Rearranges.ite {c : Prop} [Decidable c] (hq : Rearranges p q) (hr : Rearranges p r) :
    Rearranges p (if c then q else r) := by
  split_ifs
  · exact hq
  · exact hr

theorem rearranges_addMissing : Rearranges p (p.addMissing missing) := by
  have hrun : Rearranges p p.closeAnyRun := .ite (.of_chunk rfl rfl rfl rfl) (.refl p)
  have hvector (q : LocalFeedback) : Rearranges q q.closeVector :=
    .ite (.of_chunk rfl rfl rfl rfl) (.refl q)
  have hrest (q : LocalFeedback) (n : ℕ) : Rearranges q (q.addRemaining n) :=
    .ite (.of_chunk rfl rfl rfl rfl) (.refl q)
  have hfill (q : LocalFeedback) (n : ℕ) : Rearranges q (q.fillStatuses n) := ⟨rfl, rfl, rfl⟩
  exact hrun.trans ((hfill _ _).trans ((hvector _).trans (hrest _ _)))

/-- `FillChunk` before the status of the packet itself is added. -/
def prepare (p : LocalFeedback) (missing : ℕ) (status : Status) : LocalFeedback :=
  (if 0 < missing then p.addMissing missing else p).closeRun status

theorem fillChunk_eq (p : LocalFeedback) (previous sequenceNumber : UInt16) (delta : ℤ) :
    p.fillChunk previous sequenceNumber delta =
      ((p.prepare (missingPackets previous sequenceNumber) (deltaStatus delta)).pushStatus
        (deltaStatus delta) delta).closeMixed := rfl

theorem rearranges_prepare (p : LocalFeedback) (missing : ℕ) (status : Status) :
    Rearranges p (p.prepare missing status) := by
  have hclose (q : LocalFeedback) : Rearranges q (q.closeRun status) :=
    .ite (.of_chunk rfl rfl rfl rfl) (.refl q)
  exact Rearranges.trans (.ite (rearranges_addMissing) (.refl p)) (hclose _)

theorem rearranges_closeMixed (p : LocalFeedback) : Rearranges p p.closeMixed :=
  .ite (.of_chunk rfl rfl rfl rfl) (.refl p)

theorem frame_fillChunk (p : LocalFeedback) (previous sequenceNumber : UInt16) (delta : ℤ) :
    (p.fillChunk previous sequenceNumber delta).frame = p.frame := by
  rw [fillChunk_eq, (rearranges_closeMixed _).frame_eq]
  exact (rearranges_prepare p _ _).frame_eq

theorem deltas_fillChunk (p : LocalFeedback) (previous sequenceNumber : UInt16) (delta : ℤ) :
    (p.fillChunk previous sequenceNumber delta).deltas = p.deltas ++ [delta] := by
  rw [fillChunk_eq, (rearranges_closeMixed _).deltas_eq, ← (rearranges_prepare p _ _).deltas_eq]
  rfl

/-! ### The context -/

theorem closeAnyRun_short (h : p.context.Ready) : p.closeAnyRun.context.statuses.length < 7 := by
  unfold closeAnyRun
  split_ifs with hrun
  · exact Nat.zero_lt_succ 6
  by_contra hlong
  have hsame : p.context.allSameStatus := by
    by_contra hmixed
    exact hlong (h.short hmixed)
  exact hrun ⟨by omega, hsame⟩

theorem addMissing_leftover (h : p.context.Ready) (missing : ℕ) :
    (p.addMissing missing).context.Leftover := by
  have hshort := closeAnyRun_short h
  set q := p.closeAnyRun with hq
  set r := q.fillStatuses (q.represented missing) with hr
  have hlen : r.context.statuses.length ≤ 7 := by
    show (q.context.statuses ++ List.replicate (q.represented missing) _).length ≤ 7
    rw [length_append, length_replicate, represented]
    omega
  have hvector : r.closeVector.context.Leftover := by
    unfold closeVector
    split_ifs with h7
    · exact ⟨.inr rfl, Nat.zero_lt_succ 6⟩
    · exact ⟨.inl rfl, by omega⟩
  show (r.closeVector.addRemaining (missing - q.represented missing)).context.Leftover
  unfold addRemaining
  split_ifs
  · exact ⟨.inr rfl, Nat.zero_lt_succ 6⟩
  · exact hvector

theorem closeRun_of_short (h : p.context.statuses.length < 7) : p.closeRun status = p := by
  rw [closeRun, if_neg]
  rintro ⟨h7, -⟩
  omega

theorem closeRun_accepts (h : p.context.Ready) : (p.closeRun status).context.Accepts status := by
  unfold closeRun
  split_ifs with hrun
  · exact ⟨fun _ _ _ hs => absurd hs not_mem_nil, .inl (Nat.zero_lt_succ 6), fun _ => rfl⟩
  refine ⟨fun hsame hcurrent => hcurrent ▸ h.same hsame, ?_, h.unset⟩
  by_cases hlong : 7 ≤ p.context.statuses.length
  · have hsame : p.context.allSameStatus := by
      by_contra hmixed
      have := h.short hmixed
      omega
    refine .inr ⟨hsame, ?_⟩
    by_contra hne
    exact hrun ⟨hlong, hsame, Ne.symm hne⟩
  · exact .inl (by omega)

theorem prepare_accepts (h : p.context.Ready) (hstatus : status ≠ .notReceived) :
    (p.prepare missing status).context.Accepts status := by
  unfold prepare
  split_ifs with hpos
  · obtain ⟨hcurrent, hshort⟩ := addMissing_leftover h missing
    rw [closeRun_of_short hshort]
    refine ⟨fun _ heq s hs => ?_, .inl hshort, fun hnone => ?_⟩
    · -- the current status is not the one of a received packet
      rcases hcurrent with hcurrent | hempty
      · exact absurd (heq.symm.trans hcurrent) hstatus
      · rw [hempty] at hs
        exact nomatch hs
    · rcases hcurrent with hcurrent | hempty
      · rw [hcurrent] at hnone
        exact nomatch hnone
      · exact hempty
  · exact closeRun_accepts h

theorem pushStatus_ready (h : p.context.Accepts status) (hstatus : status ≠ .none) (delta : ℤ) :
    (p.pushStatus status delta).closeMixed.context.Ready := by
  set q := p.pushStatus status delta with hq
  -- a run is still one only if every status in it is the pushed one
  have hsame : q.context.allSameStatus → ∀ s ∈ q.context.statuses, s = status := by
    intro hall s hs
    have hall : p.context.currentStatus = .none ∨
        (p.context.allSameStatus ∧ p.context.currentStatus = status) := of_decide_eq_true hall
    have hs : s ∈ p.context.statuses ++ [status] := hs
    rcases mem_append.mp hs with hs | hs
    · rcases hall with hnone | ⟨hall, hcurrent⟩
      · rw [h.unset hnone] at hs
        exact nomatch hs
      · exact h.same hall hcurrent s hs
    · exact mem_singleton.mp hs
  have hlen : ¬q.context.allSameStatus → q.context.statuses.length ≤ 7 := by
    intro hmixed
    show (p.context.statuses ++ [status]).length ≤ 7
    rw [length_append]
    rcases h.short with hshort | hrun
    · exact hshort
    · exact absurd (decide_eq_true (.inr hrun)) hmixed
  unfold closeMixed
  split_ifs with h7
  · exact ⟨fun _ _ hs => absurd hs not_mem_nil, fun _ => Nat.zero_lt_succ 6, fun _ => rfl⟩
  refine ⟨hsame, fun hmixed => ?_, fun hnone => absurd hnone hstatus⟩
  have := hlen hmixed
  have hne : q.context.statuses.length ≠ 7 := fun heq => h7 ⟨heq, hmixed⟩
  omega

theorem deltaStatus_received (delta : ℤ) : (deltaStatus delta).isReceived := by
  unfold deltaStatus
  split_ifs <;> rfl

theorem ready_fillChunk (h : p.context.Ready) (previous sequenceNumber : UInt16) (delta : ℤ) :
    (p.fillChunk previous sequenceNumber delta).context.Ready := by
  have hreceived := deltaStatus_received delta
  have hne : deltaStatus delta ≠ .notReceived := by
    intro heq
    rw [heq] at hreceived
    cases hreceived
  have hsome : deltaStatus delta ≠ .none := by
    intro heq
    rw [heq] at hreceived
    cases hreceived
  rw [fillChunk_eq]
  exact pushStatus_ready (prepare_accepts h hne) hsome delta

/-! ### The number of statuses -/

/-- What is left of `n` in 16-bit arithmetic. -/
structure Wrapped (m n : ℕ) : Prop where
  le : m ≤ n
  modEq : m ≡ n [MOD 65536]

theorem Wrapped.refl (n : ℕ) : Wrapped n n := ⟨Nat.le_refl n, rfl⟩

variable {a b : ℕ}

theorem Wrapped.trans {c : ℕ} (hab : Wrapped a b) (hbc : Wrapped b c) : Wrapped a c :=
  ⟨hab.le.trans hbc.le, hab.modEq.trans hbc.modEq⟩

theorem Wrapped.add_right (h : Wrapped a b) (c : ℕ) : Wrapped (a + c) (b + c) :=
  ⟨Nat.add_le_add_right h.le c, h.modEq.add_right c⟩

theorem wrapped_add : Wrapped ((a + b % 65536) % 65536) (a + b) := by
  refine ⟨?_, ?_⟩
  · omega
  · unfold Nat.ModEq
    omega

/-- The statuses in chunks and in the context; `packetStatusCount` counts the ones in chunks
modulo `2 ^ 16`. -/
def covered (p : LocalFeedback) : ℕ := p.packetStatusCount + p.context.statuses.length

theorem covered_flushRun (p : LocalFeedback) : Wrapped p.flushRun.covered p.covered :=
  wrapped_add

theorem covered_flushVector (p : LocalFeedback) : Wrapped p.flushVector.covered p.covered :=
  wrapped_add

theorem covered_ite {c : Prop} [Decidable c] (hq : Wrapped q.covered p.covered)
    (hr : Wrapped r.covered p.covered) : Wrapped (if c then q else r).covered p.covered := by
  split_ifs
  · exact hq
  · exact hr

theorem covered_addMissing (h : p.context.Ready) :
    Wrapped (p.addMissing missing).covered (p.covered + missing) := by
  have hshort := closeAnyRun_short h
  have hclose : Wrapped p.closeAnyRun.covered p.covered :=
    covered_ite (covered_flushRun p) (.refl _)
  set q := p.closeAnyRun with hq
  set r := q.fillStatuses (q.represented missing) with hr
  have hcovered : r.covered = q.covered + q.represented missing := by
    show q.packetStatusCount + (q.context.statuses ++ List.replicate _ _).length = _
    rw [length_append, length_replicate, covered, Nat.add_assoc]
  have hvector : Wrapped r.closeVector.covered r.covered :=
    covered_ite (covered_flushVector r) (.refl _)
  have hle : q.represented missing ≤ missing := Nat.min_le_left _ _
  have hrest : Wrapped (r.closeVector.addRemaining (missing - q.represented missing)).covered
      (r.closeVector.covered + (missing - q.represented missing)) := by
    unfold addRemaining
    split_ifs with hne
    · -- the loop stopped at a full vector, so the context is empty here
      have h7 : r.context.statuses.length = 7 := by
        show (q.context.statuses ++ List.replicate _ _).length = 7
        rw [length_append, length_replicate]
        rw [represented] at hne ⊢
        omega
      have hempty : r.closeVector.context.statuses = [] := by
        rw [closeVector, if_pos h7]
        rfl
      rw [covered, covered, hempty]
      exact wrapped_add
    · rw [not_not] at hne
      rw [hne]
      exact .refl _
  have hsum : r.covered + (missing - q.represented missing) = q.covered + missing := by
    rw [hcovered]
    omega
  have hfilled := hrest.trans (hvector.add_right (missing - q.represented missing))
  rw [hsum] at hfilled
  exact hfilled.trans (hclose.add_right missing)

theorem covered_fillChunk (h : p.context.Ready) (previous sequenceNumber : UInt16) (delta : ℤ) :
    Wrapped (p.fillChunk previous sequenceNumber delta).covered
      (p.covered + missingPackets previous sequenceNumber + 1) := by
  set missing := missingPackets previous sequenceNumber with hm
  set q := p.prepare missing (deltaStatus delta) with hq
  have hprepare : Wrapped q.covered (p.covered + missing) := by
    have hclose (r : LocalFeedback) (s : Status) : Wrapped (r.closeRun s).covered r.covered :=
      covered_ite (covered_flushRun r) (.refl _)
    refine (hclose _ _).trans ?_
    split_ifs with hpos
    · exact covered_addMissing h
    · rw [Nat.eq_zero_of_not_pos hpos]
      exact .refl _
  have hpush : (q.pushStatus (deltaStatus delta) delta).covered = q.covered + 1 := by
    show q.packetStatusCount + (q.context.statuses ++ [_]).length = _
    rw [length_append, covered, ← Nat.add_assoc]
    rfl
  have hmixed : Wrapped (p.fillChunk previous sequenceNumber delta).covered
      (q.pushStatus (deltaStatus delta) delta).covered :=
    covered_ite (covered_flushVector (setCurrentStatus _ .none)) (.refl _)
  rw [hpush] at hmixed
  exact hmixed.trans (hprepare.add_right 1)

/-! ### Which statuses a call adds -/

def listed (p : LocalFeedback) : List Status :=
  p.chunks.flatMap Chunk.statuses ++ p.context.statuses

/-- No run is too long, and the counters are right. -/
structure Coherent (limit : RunLimit) (p : LocalFeedback) : Prop where
  full : ∀ chunk ∈ p.chunks, chunk.Full limit
  symbol : ∀ s ∈ p.context.statuses, s.IsSymbol
  counted : p.packetStatusCount = (p.chunks.map Chunk.getCount).sum % 65536
  sized : p.deltasAndChunksSize = 2 * p.chunks.length + (p.listed.map Status.deltaSize).sum

/-- From `p` to `p'` these statuses were added. -/
structure Adds (limit : RunLimit) (p : LocalFeedback) (statuses : List Status)
    (p' : LocalFeedback) : Prop where
  coherent : p'.Coherent limit
  listed_eq : p'.listed = p.listed ++ statuses

variable {limit : RunLimit}

theorem Adds.refl (h : p.Coherent limit) : Adds limit p [] p :=
  ⟨h, (append_nil _).symm⟩

theorem Adds.trans {s t : List Status} (hpq : Adds limit p s q) (hqr : Adds limit q t r) :
    Adds limit p (s ++ t) r :=
  ⟨hqr.coherent, by rw [hqr.listed_eq, hpq.listed_eq, append_assoc]⟩

theorem Adds.setCurrentStatus {s : List Status} (h : Adds limit p s q) (status : Status) :
    Adds limit p s (q.setCurrentStatus status) :=
  ⟨⟨h.coherent.full, h.coherent.symbol, h.coherent.counted, h.coherent.sized⟩, h.listed_eq⟩

theorem adds_flush {p p' : LocalFeedback} (h : p.Coherent limit) {chunk : Chunk}
    (hfull : chunk.Full limit) (hstatuses : chunk.statuses = p.context.statuses)
    (hchunks : p'.chunks = p.chunks ++ [chunk]) (hcontext : p'.context.statuses = [])
    (hcount : p'.packetStatusCount = (p.packetStatusCount + chunk.getCount) % 65536)
    (hsize : p'.deltasAndChunksSize = p.deltasAndChunksSize + 2) : Adds limit p [] p' := by
  have hlisted : p'.listed = p.listed := by
    rw [listed, listed, hchunks, hcontext, append_nil, flatMap_append,
      flatMap_singleton, hstatuses]
  refine ⟨⟨?_, ?_, ?_, ?_⟩, by rw [hlisted, append_nil]⟩
  · intro c hc
    rw [hchunks] at hc
    rcases mem_append.mp hc with hc | hc
    · exact h.full c hc
    · exact mem_singleton.mp hc ▸ hfull
  · rw [hcontext]
    exact fun s hs => absurd hs not_mem_nil
  · rw [hcount, hchunks, map_append, sum_append, h.counted, Nat.mod_add_mod]
    rfl
  · rw [hsize, hlisted, hchunks, length_append, h.sized, length_singleton]
    omega

theorem adds_context (h : p.Coherent limit) {statuses : List Status}
    (hsymbol : ∀ s ∈ statuses, s.IsSymbol) (hchunks : p'.chunks = p.chunks)
    (hcontext : p'.context.statuses = p.context.statuses ++ statuses)
    (hcount : p'.packetStatusCount = p.packetStatusCount)
    (hsize : p'.deltasAndChunksSize = p.deltasAndChunksSize +
      (statuses.map Status.deltaSize).sum) : Adds limit p statuses p' := by
  have hlisted : p'.listed = p.listed ++ statuses := by
    rw [listed, listed, hchunks, hcontext, append_assoc]
  refine ⟨⟨hchunks ▸ h.full, ?_, by rw [hcount, hchunks, h.counted], ?_⟩, hlisted⟩
  · intro s hs
    rw [hcontext] at hs
    rcases mem_append.mp hs with hs | hs
    · exact h.symbol s hs
    · exact hsymbol s hs
  · rw [hsize, hlisted, hchunks, h.sized, map_append, sum_append, Nat.add_assoc]

theorem adds_flushRun (h : p.Coherent limit)
    (hsame : ∀ s ∈ p.context.statuses, s = p.context.currentStatus)
    (hlong : 7 ≤ p.context.statuses.length) (hle : p.context.statuses.length ≤ limit.count) :
    Adds limit p [] p.flushRun := by
  have hsymbol : p.context.currentStatus.IsSymbol := by
    obtain ⟨s, hs⟩ := exists_mem_of_length_pos (by omega : 0 < p.context.statuses.length)
    exact hsame s hs ▸ h.symbol s hs
  have hmod : p.context.statuses.length % 65536 = p.context.statuses.length :=
    Nat.mod_eq_of_lt (hle.trans_lt limit.lt_uint16)
  refine @adds_flush limit p _ h (.runLength p.context.currentStatus p.context.statuses.length)
    ⟨hsymbol, by omega, hle, .inr (by omega)⟩ ?_ ?_ rfl ?_ rfl
  · exact (eq_replicate_of_mem hsame).symm
  · show p.chunks ++ [Chunk.runLength _ (p.context.statuses.length % 65536)] = _
    rw [hmod]
  · show (p.packetStatusCount + p.context.statuses.length % 65536) % 65536 = _
    rw [hmod]
    rfl

theorem adds_flushVector (h : p.Coherent limit) (h7 : p.context.statuses.length = 7) :
    Adds limit p [] p.flushVector := by
  refine @adds_flush limit p _ h (.twoBitVector p.context.statuses) ⟨h.symbol, h7⟩ rfl rfl rfl
    ?_ rfl
  show (p.packetStatusCount + p.context.statuses.length % 65536) % 65536 = _
  rw [Nat.mod_eq_of_lt (by omega : p.context.statuses.length < 65536)]
  rfl

theorem adds_addRemaining (h : p.Coherent limit) (hempty : missing ≠ 0 → p.context.statuses = [])
    (hle : missing ≤ limit.count) :
    Adds limit p (List.replicate missing .notReceived) (p.addRemaining missing) := by
  unfold addRemaining
  split_ifs with hne
  · -- the run goes through the context and is flushed from there
    set q := p.setStatuses (p.context.statuses ++ List.replicate missing .notReceived) with hq
    have hsymbol : ∀ s ∈ List.replicate missing Status.notReceived, s.IsSymbol :=
      fun s hs => .inl (eq_of_mem_replicate hs)
    have hadd : Adds limit p (List.replicate missing .notReceived) q := by
      refine adds_context h hsymbol rfl rfl rfl ?_
      rw [map_replicate, sum_replicate]
      rfl
    have hmod : missing % 65536 = missing := Nat.mod_eq_of_lt (hle.trans_lt limit.lt_uint16)
    have hflush : Adds limit q []
        (((p.createRunLengthChunk .notReceived missing).setStatuses []).setCurrentStatus
          .none) := by
      refine @adds_flush limit q _ hadd.coherent (.runLength .notReceived missing)
        ⟨.inl rfl, Nat.pos_of_ne_zero hne, hle, .inl rfl⟩ ?_ ?_ rfl ?_ rfl
      · show List.replicate missing _ = p.context.statuses ++ List.replicate missing _
        rw [hempty hne, nil_append]
      · show p.chunks ++ [Chunk.runLength _ (missing % 65536)] = _
        rw [hmod]
        rfl
      · show (p.packetStatusCount + missing % 65536) % 65536 = _
        rw [hmod]
        rfl
    have := hadd.trans hflush
    rwa [append_nil] at this
  · rw [not_not] at hne
    rw [hne]
    exact .refl h

/-- Room for missing packets in the vector that is being filled. -/
def room (p : LocalFeedback) : ℕ :=
  if 7 ≤ p.context.statuses.length then 7 else 7 - p.context.statuses.length

theorem adds_addMissing (h : p.Coherent limit) (hready : p.context.Ready)
    (hrun : p.context.statuses.length ≤ limit.count) (hle : missing ≤ limit.count + p.room) :
    Adds limit p (List.replicate missing .notReceived) (p.addMissing missing) := by
  -- first a run of seven or more is closed
  have hclose : Adds limit p [] p.closeAnyRun ∧
      p.closeAnyRun.context.statuses.length = 7 - p.room := by
    unfold closeAnyRun room
    by_cases h7 : 7 ≤ p.context.statuses.length
    · have hsame : p.context.allSameStatus := by
        by_contra hmixed
        have := hready.short hmixed
        omega
      rw [if_pos ⟨h7, hsame⟩, if_pos h7]
      exact ⟨(adds_flushRun h (hready.same hsame) h7 hrun).setCurrentStatus _, rfl⟩
    · rw [if_neg (fun hc => h7 hc.1), if_neg h7]
      exact ⟨.refl h, by omega⟩
  obtain ⟨hclose, hlen⟩ := hclose
  have hroom : p.room ≤ 7 := by
    unfold room
    split_ifs <;> omega
  set q := p.closeAnyRun with hq
  have hrep : q.represented missing = min missing p.room := by
    rw [represented, hlen]
    omega
  set r := q.fillStatuses (q.represented missing) with hr
  -- then the context is filled up to seven, and a full one becomes a vector
  have hfill : Adds limit q (List.replicate (q.represented missing) .notReceived) r := by
    refine adds_context hclose.coherent (fun s hs => .inl (eq_of_mem_replicate hs)) rfl rfl
      rfl ?_
    rw [map_replicate, sum_replicate]
    rfl
  have hlen' : r.context.statuses.length = 7 - p.room + min missing p.room := by
    show (q.context.statuses ++ List.replicate _ _).length = _
    rw [length_append, length_replicate, hlen, hrep]
  have hvector : Adds limit r [] r.closeVector := by
    unfold closeVector
    split_ifs with h7
    · exact (adds_flushVector hfill.coherent h7).setCurrentStatus _
    · exact .refl hfill.coherent
  -- what is left goes out as a run of its own
  have hrest : Adds limit r.closeVector
      (List.replicate (missing - q.represented missing) .notReceived)
      (r.closeVector.addRemaining (missing - q.represented missing)) := by
    refine adds_addRemaining hvector.coherent (fun hne => ?_) (by omega)
    rw [closeVector, if_pos (by omega)]
    rfl
  have hall := hclose.trans (hfill.trans (hvector.trans hrest))
  rw [nil_append, nil_append, replicate_append_replicate, hrep] at hall
  rw [show min missing p.room + (missing - min missing p.room) = missing by omega] at hall
  rw [← hrep] at hall
  exact hall

/-- The missing packets and the packet itself fit into chunks: no run gets too long, and
`packetStatusCount` does not wrap. -/
structure Fits (limit : RunLimit) (p : LocalFeedback) (missing : ℕ) (status : Status) : Prop where
  missing_le : missing ≤ limit.count + p.room
  run_lt : p.context.statuses.length < limit.count ∨ 0 < missing ∨
    status ≠ p.context.currentStatus
  total_le : p.packetStatusCount + p.context.statuses.length + missing + 1 ≤ maxPacketStatusCount

section

variable (h : p.Coherent limit)
include h

theorem adds_closeRun (hready : p.context.Ready) (hrun : p.context.statuses.length ≤ limit.count) :
    Adds limit p [] (p.closeRun status) := by
  unfold closeRun
  split_ifs with hc
  · exact adds_flushRun h (hready.same hc.2.1) hc.1 hrun
  · exact .refl h

theorem adds_prepare (hready : p.context.Ready)
    (hrun : p.context.statuses.length ≤ limit.count) (hfits : p.Fits limit missing status) :
    Adds limit p (List.replicate missing .notReceived) (p.prepare missing status) ∧
      (p.prepare missing status).context.statuses.length < limit.count := by
  unfold prepare
  split_ifs with hpos
  · have hshort := (addMissing_leftover hready missing).short
    rw [closeRun_of_short hshort]
    exact ⟨adds_addMissing h hready hrun hfits.missing_le, hshort.trans limit.gt_seven⟩
  · obtain rfl : missing = 0 := Nat.eq_zero_of_not_pos hpos
    refine ⟨adds_closeRun h hready hrun, ?_⟩
    unfold closeRun
    split_ifs with hc
    · exact (Nat.zero_le 7).trans_lt limit.gt_seven
    -- a run of the greatest length would have been closed
    by_contra hlong
    have hstatus : status ≠ p.context.currentStatus :=
      (hfits.run_lt.resolve_left hlong).resolve_left (Nat.lt_irrefl 0)
    have hseven : 7 ≤ p.context.statuses.length := by
      have := limit.gt_seven
      omega
    have hsame : p.context.allSameStatus := by
      by_contra hmixed
      have := hready.short hmixed
      omega
    exact hc ⟨hseven, hsame, hstatus⟩

theorem adds_pushStatus (delta : ℤ) :
    Adds limit p [deltaStatus delta] (p.pushStatus (deltaStatus delta) delta) := by
  refine adds_context h ?_ rfl rfl rfl ?_
  · intro s hs
    rw [mem_singleton.mp hs]
    exact .inr (deltaStatus_received delta)
  · show p.deltasAndChunksSize + (if deltaStatus delta = .smallDelta then 1 else 2) = _
    unfold deltaStatus
    split_ifs <;> simp_all [Status.deltaSize]

/-- **`FillChunk`.**  A call that fits adds the missing packets and the packet itself. -/
theorem listed_fillChunk (hready : p.context.Ready)
    (hrun : p.context.statuses.length ≤ limit.count) {previous sequenceNumber : UInt16} {delta : ℤ}
    (hfits : p.Fits limit (missingPackets previous sequenceNumber) (deltaStatus delta)) :
    Adds limit p (List.replicate (missingPackets previous sequenceNumber) .notReceived ++
        [deltaStatus delta]) (p.fillChunk previous sequenceNumber delta) ∧
      (p.fillChunk previous sequenceNumber delta).context.statuses.length ≤ limit.count := by
  obtain ⟨hprepare, hlen⟩ := adds_prepare h hready hrun hfits
  rw [fillChunk_eq]
  set q := p.prepare (missingPackets previous sequenceNumber) (deltaStatus delta) with hq
  have hpush := adds_pushStatus hprepare.coherent delta
  set r := q.pushStatus (deltaStatus delta) delta with hr
  have hlen' : r.context.statuses.length = q.context.statuses.length + 1 :=
    length_append
  have hmixed : Adds limit r [] r.closeMixed ∧
      r.closeMixed.context.statuses.length ≤ limit.count := by
    unfold closeMixed
    split_ifs with h7
    · have hnone := (Adds.refl hpush.coherent).setCurrentStatus .none
      exact ⟨hnone.trans (adds_flushVector hnone.coherent h7.1), Nat.zero_le _⟩
    · exact ⟨.refl hpush.coherent, by omega⟩
  have hall := hprepare.trans (hpush.trans hmixed.1)
  rw [append_nil] at hall
  exact ⟨hall, hmixed.2⟩

end

/-! ### The calls of `AddPacket` -/

theorem addPendingChunks_cases (h : p.context.Ready) : ∃ p', p.addPendingChunks = .ok p' ∧
      ((p.context.statuses = [] ∧ p' = p) ∨
        (p.context.statuses ≠ [] ∧ p.context.allSameStatus ∧ p' = p.flushRun) ∨
        (p.context.statuses ≠ [] ∧ p.context.statuses.length < 7 ∧ p' = p.flushVector)) := by
  unfold addPendingChunks
  by_cases hempty : p.context.statuses = []
  · exact ⟨p, if_pos hempty, .inl ⟨hempty, rfl⟩⟩
  rw [if_neg hempty]
  by_cases hsame : p.context.allSameStatus
  · exact ⟨p.flushRun, if_pos hsame, .inr (.inl ⟨hempty, hsame, rfl⟩)⟩
  · have hshort := h.short hsame
    rw [if_neg hsame, if_neg (by omega)]
    exact ⟨p.flushVector, rfl, .inr (.inr ⟨hempty, hshort, rfl⟩)⟩

theorem addPendingChunks_rearranges (h : p.context.Ready) (hpending : p.addPendingChunks = .ok p') :
    Rearranges p p' ∧ p'.context.statuses = [] := by
  obtain ⟨_, hok, hcases⟩ := addPendingChunks_cases h
  obtain rfl := Except.ok.inj (hpending.symm.trans hok)
  obtain ⟨hempty, rfl⟩ | ⟨-, -, rfl⟩ | ⟨-, -, rfl⟩ := hcases
  · exact ⟨.refl _, hempty⟩
  · exact ⟨.of_chunk rfl rfl rfl rfl, rfl⟩
  · exact ⟨.of_chunk rfl rfl rfl rfl, rfl⟩

/-- The packet after the arrival of another one was recorded. -/
def record (p : LocalFeedback) (sequenceNumber : UInt16) (timestamp : UInt64) : LocalFeedback :=
  { p.fillChunk p.latestSequenceNumber sequenceNumber (p.delta64 timestamp) with
    latestSequenceNumber := sequenceNumber
    latestTimestamp := timestamp }

/-- The ways in which a call of `AddPacket` returns. -/
inductive Outcome (p : LocalFeedback) (sequenceNumber : UInt16) (timestamp : UInt64)
    (maxRtcpPacketLen : ℕ) : LocalFeedback → AddPacketResult → Prop where
  | base (hunset : p.latestTimestamp = 0) :
      Outcome p sequenceNumber timestamp maxRtcpPacketLen
        (p.setBase sequenceNumber timestamp) .success
  | ignored (hset : p.latestTimestamp ≠ 0)
      (hold : ¬seqHigherThan sequenceNumber p.latestSequenceNumber) :
      Outcome p sequenceNumber timestamp maxRtcpPacketLen p .success
  | fatal (hset : p.latestTimestamp ≠ 0) :
      Outcome p sequenceNumber timestamp maxRtcpPacketLen p .fatal
  | tooLarge (hset : p.latestTimestamp ≠ 0) (hsize : maxRtcpPacketLen < p.grownSize) :
      Outcome p sequenceNumber timestamp maxRtcpPacketLen p .maxSizeExceeded
  | recorded (hset : p.latestTimestamp ≠ 0)
      (hnew : seqHigherThan sequenceNumber p.latestSequenceNumber)
      (hgap : (sequenceNumber.toNat : ℤ) - (p.latestSequenceNumber.toNat + 1) ≤ maxMissingPackets)
      (hdelta : -maxPacketDelta ≤ p.delta64 timestamp ∧ p.delta64 timestamp ≤ maxPacketDelta)
      (hsize : p.grownSize ≤ maxRtcpPacketLen) :
      Outcome p sequenceNumber timestamp maxRtcpPacketLen
        (p.record sequenceNumber timestamp) .success

theorem addPacket_outcome {sequenceNumber : UInt16} {timestamp : UInt64} {maxRtcpPacketLen : ℕ}
    {result : AddPacketResult}
    (h : p.addPacket sequenceNumber timestamp maxRtcpPacketLen = .ok (p', result)) :
    p.isFull = false ∧ Outcome p sequenceNumber timestamp maxRtcpPacketLen p' result := by
  unfold addPacket at h
  -- one case for each return of `AddPacket`, in its order
  by_cases hfull : p.isFull
  · rw [if_pos hfull] at h
    cases h
  rw [if_neg hfull] at h
  refine ⟨by simpa using hfull, ?_⟩
  by_cases hunset : p.latestTimestamp = 0
  · rw [if_pos hunset] at h
    cases h
    exact .base hunset
  rw [if_neg hunset] at h
  by_cases hnew : seqHigherThan sequenceNumber p.latestSequenceNumber
  · rw [if_neg (not_not.mpr hnew)] at h
    split_ifs at h with hgap hdelta hsize
    all_goals cases h
    · exact .fatal hunset
    · exact .fatal hunset
    · exact .tooLarge hunset hsize
    · rw [not_or] at hdelta
      exact .recorded hunset hnew (by omega) ⟨by omega, by omega⟩ (by omega)
  · rw [if_pos hnew] at h
    cases h
    exact .ignored hunset hnew

theorem addPacket_ok {p : LocalFeedback} (h : p.isFull = false) (sequenceNumber : UInt16)
    (timestamp : UInt64) (maxRtcpPacketLen : ℕ) :
    ∃ p' result, p.addPacket sequenceNumber timestamp maxRtcpPacketLen = .ok (p', result) := by
  unfold addPacket
  rw [if_neg (by rw [h]; exact Bool.false_ne_true)]
  split_ifs
  all_goals exact ⟨_, _, rfl⟩

/-! ### The reference time

It has 24 bits in a packet, so that it wraps after `timeWrapPeriod`; `AddPacket` keeps 23. -/

theorem referenceTime_eq (timestamp : UInt64) :
    ((timestamp &&& 0x1FFFFFC0) / 64).toNat = timestamp.toNat / 64 % 8388608 := by
  rw [UInt64.toNat_div, UInt64.toNat_and]
  exact (Nat.and_div_two_pow (a := timestamp.toNat) (b := 0x1FFFFFC0) (n := 6)).trans
    (Nat.and_two_pow_sub_one_eq_mod (timestamp.toNat / 64) 23)

def timeWrapPeriod : ℤ := 64 * 16777216

/-- `GetReferenceTimestamp`, in milliseconds. -/
def getReferenceTimestamp (p : LocalFeedback) : ℤ := timeWrapPeriod + p.referenceTime * 64

def getBaseDelta (p : LocalFeedback) (previousTimestampMs : ℤ) : ℤ :=
  let delta := p.getReferenceTimestamp - previousTimestampMs
  if (delta - timeWrapPeriod).natAbs < delta.natAbs then delta - timeWrapPeriod
  else if (delta + timeWrapPeriod).natAbs < delta.natAbs then delta + timeWrapPeriod
  else delta

theorem getReferenceTimestamp_of_unset {n : UInt16} {t : UInt64} {len : ℕ}
    {result : AddPacketResult} (hunset : p.latestTimestamp = 0)
    (hadd : p.addPacket n t len = .ok (p', result)) :
    p'.getReferenceTimestamp = timeWrapPeriod + (t.toNat / 64 % 8388608 : ℕ) * 64 := by
  obtain ⟨-, hbase⟩ := addPacket_outcome hadd
  cases hbase with
  | base => exact congrArg (fun time : ℕ => timeWrapPeriod + time * 64) (referenceTime_eq t)
  | _ hset => exact absurd hunset hset

/-- **The difference of two reference times** is the one of the arrival times as long as the
23 bits of `AddPacket` do not wrap in between. -/
theorem getBaseDelta_eq_iff {p₁ p₂ q₁ q₂ : LocalFeedback} {n₁ n₂ : UInt16} {t₁ t₂ : UInt64}
    {len₁ len₂ : ℕ} {r₁ r₂ : AddPacketResult} (hunset₁ : p₁.latestTimestamp = 0)
    (hunset₂ : p₂.latestTimestamp = 0) (hadd₁ : p₁.addPacket n₁ t₁ len₁ = .ok (q₁, r₁))
    (hadd₂ : p₂.addPacket n₂ t₂ len₂ = .ok (q₂, r₂)) :
    q₂.getBaseDelta q₁.getReferenceTimestamp =
        64 * (t₂.toNat / 64 : ℕ) - 64 * (t₁.toNat / 64 : ℕ) ↔
      t₁.toNat / 536870912 = t₂.toNat / 536870912 := by
  rw [getBaseDelta, getReferenceTimestamp_of_unset hunset₁ hadd₁,
    getReferenceTimestamp_of_unset hunset₂ hadd₂, timeWrapPeriod]
  split_ifs <;> omega

theorem getBaseDelta_eq_second : ((fresh 0 0).setBase 1 2000).getBaseDelta
    ((fresh 0 0).setBase 0 1000).getReferenceTimestamp = 64 * 31 - 64 * 15 :=
  (getBaseDelta_eq_iff rfl rfl (show (fresh 0 0).addPacket 0 1000 1200 = .ok (_, _) from rfl)
    (show (fresh 0 0).addPacket 1 2000 1200 = .ok (_, _) from rfl)).mpr rfl

/-- Packets 64 ms apart, around a wrap. -/
theorem getBaseDelta_wrapped : (do
      let first ← (fresh 0 0).addPacket 0 536870848 1200
      let second ← (fresh 0 0).addPacket 1 536870912 1200
      pure (second.1.getBaseDelta first.1.getReferenceTimestamp)) =
    (.ok (-536870848) : Except Assertion ℤ) := by
  decide

end LocalFeedback

end TransportFeedback

end Mediasoup
