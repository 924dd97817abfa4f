/-
The sender of transport-wide feedback (`RTC::TransportCongestionControlServer`, for
`BweType::TRANSPORT_CC`).

It records the arrival of packets in a feedback packet and sends this packet when a timer
fires, when there is no room for another chunk and when the packet is full.  The next
feedback packet starts with the last packet that was covered as its base.

* `incomingPacket`, `sendTransportCcFeedback`, `step` — the server.
* `Building` — what holds of the feedback packet between two events.
* `feedback_contiguous` — no assertion fires, and the feedback packets cover contiguous
  ranges between two resets.

The packet loss that is derived from the sent packets is left out.
-/
import Mediasoup.Lib.Runs
import Mediasoup.Rtcp.FeedbackBuilder

open List Runs

namespace Mediasoup

namespace CongestionControl

open TransportFeedback LocalFeedback

/-- What the listener is given, and what resets the feedback. -/
inductive Entry where
  | feedback (packet : LocalFeedback)
  | remb (bitrate : UInt32)
  | fatal
  | disconnected

structure Server where
  maxRtcpPacketLen : ℕ
  transportCcFeedbackPacket : LocalFeedback := .fresh 0 0
  transportCcFeedbackPacketCount : UInt8 := 0
  transportCcFeedbackSenderSsrc : UInt32 := 0
  transportCcFeedbackMediaSsrc : UInt32 := 0
  timerActive : Bool := false
  maxIncomingBitrate : UInt32 := 0
  limitationRembSentAtMs : UInt64 := 0
  unlimitedRembCounter : UInt8 := 0
  /-- The latest entry comes first. -/
  log : List Entry := []

inductive Event where
  /-- A packet, with its wide sequence number if it has one, and the time that `DepLibUV`
  gives later in the call. -/
  | incomingPacket (nowMs clockMs : UInt64) (wideSeqNumber : Option UInt16) (ssrc : UInt32)
  | onTimer
  | transportConnected
  | transportDisconnected
  | setMaxIncomingBitrate (bitrate : UInt32) (clockMs : UInt64)

namespace Server

def limitationRembInterval : UInt64 := 1500

def unlimitedRembNumPackets : UInt8 := 4

variable (s : Server)

/-- A feedback packet with the current SSRCs and this packet count. -/
def newPacket (count : UInt8) : LocalFeedback :=
  (fresh s.transportCcFeedbackSenderSsrc
    s.transportCcFeedbackMediaSsrc).setFeedbackPacketCount count

def setPacket (packet : LocalFeedback) : Server :=
  { s with transportCcFeedbackPacket := packet }

def record (entry : Entry) : Server := { s with log := entry :: s.log }

/-- The latest packet is the base of the next feedback packet. -/
def sendTransportCcFeedback : Except Assertion Server := do
  let packet ← s.transportCcFeedbackPacket.finish
  let s := s.setPacket packet
  if packet.isSerializable then do
    let s := s.record (.feedback packet)
    let count := s.transportCcFeedbackPacketCount + 1
    let s : Server :=
      { s.setPacket (s.newPacket count) with transportCcFeedbackPacketCount := count }
    if packet.latestTimestamp > 0 then do
      let (next, _) ← s.transportCcFeedbackPacket.addPacket packet.latestSequenceNumber
        packet.latestTimestamp s.maxRtcpPacketLen
      return s.setPacket next
    else return s
  else return s

def maySendLimitationRembFeedback (nowMs : UInt64) : Server :=
  let s := if s.unlimitedRembCounter > 0 ∧ s.maxIncomingBitrate ≠ 0
    then { s with unlimitedRembCounter := 0 } else s
  if (s.maxIncomingBitrate ≠ 0 ∨ s.unlimitedRembCounter > 0) ∧
      (nowMs - s.limitationRembSentAtMs > limitationRembInterval ∨
        s.unlimitedRembCounter = unlimitedRembNumPackets) then
    let s : Server := { s.record (.remb s.maxIncomingBitrate) with limitationRembSentAtMs := nowMs }
    if s.unlimitedRembCounter > 0
    then { s with unlimitedRembCounter := s.unlimitedRembCounter - 1 } else s
  else s

/-- Update the SSRCs of the ongoing feedback packet. -/
def setSsrcs (ssrc : UInt32) : Server :=
  { s with
    transportCcFeedbackSenderSsrc := 0
    transportCcFeedbackMediaSsrc := ssrc
    transportCcFeedbackPacket := { s.transportCcFeedbackPacket with
      senderSsrc := 0
      mediaSsrc := ssrc } }

def afterAddPacket (wideSeqNumber : UInt16) (nowMs : UInt64) :
    AddPacketResult → Except Assertion Server
  | .success => if s.transportCcFeedbackPacket.isFull then s.sendTransportCcFeedback else return s
  | .maxSizeExceeded => do
    let s ← s.sendTransportCcFeedback
    let (packet, _) ← s.transportCcFeedbackPacket.addPacket wideSeqNumber nowMs s.maxRtcpPacketLen
    return s.setPacket packet
  | .fatal =>
    return (s.setPacket (s.newPacket s.transportCcFeedbackPacketCount)).record .fatal

def incomingPacket (nowMs clockMs : UInt64) (wideSeqNumber : Option UInt16)
    (ssrc : UInt32) : Except Assertion Server :=
  match wideSeqNumber with
  | none => return s
  | some wideSeqNumber => do
    let s := s.setSsrcs ssrc
    let (packet, result) ← s.transportCcFeedbackPacket.addPacket wideSeqNumber nowMs
      s.maxRtcpPacketLen
    let s ← (s.setPacket packet).afterAddPacket wideSeqNumber nowMs result
    return s.maySendLimitationRembFeedback clockMs

def transportDisconnected : Server :=
  ({ s with timerActive := false }.setPacket (.fresh 0 0)).record .disconnected

def setMaxIncomingBitrate (bitrate : UInt32) (clockMs : UInt64) : Server :=
  let previousMaxIncomingBitrate := s.maxIncomingBitrate
  let s := { s with maxIncomingBitrate := bitrate }
  if previousMaxIncomingBitrate ≠ 0 ∧ bitrate = 0 then
    { s with unlimitedRembCounter := unlimitedRembNumPackets }.maySendLimitationRembFeedback clockMs
  else s

/-- A stopped timer does not fire. -/
def step : Event → Except Assertion Server
  | .incomingPacket nowMs clockMs wideSeqNumber ssrc =>
    s.incomingPacket nowMs clockMs wideSeqNumber ssrc
  | .onTimer => if s.timerActive then s.sendTransportCcFeedback else return s
  | .transportConnected => return { s with timerActive := true }
  | .transportDisconnected => return s.transportDisconnected
  | .setMaxIncomingBitrate bitrate clockMs => return s.setMaxIncomingBitrate bitrate clockMs

end Server

/-! ### The ranges that feedback packets cover -/

/-- The feedback packet sent last, unless the feedback was reset after it. -/
def lastFeedback : List Entry → Option LocalFeedback
  | [] => none
  | .feedback packet :: _ => some packet
  | .remb _ :: earlier => lastFeedback earlier
  | .fatal :: _ => none
  | .disconnected :: _ => none

/-- A feedback packet starts behind the range of the one before. -/
def Follows (entry : Entry) (earlier : List Entry) : Prop :=
  ∀ packet, entry = .feedback packet → ∀ previous, lastFeedback earlier = some previous →
    packet.baseSequenceNumber =
      (previous.baseSequenceNumber + previous.packetStatusCount) % 65536

def Contiguous (log : List Entry) : Prop := Each Follows log

/-- The time at which a packet arrives. -/
def Event.arrival : Event → Option UInt64
  | .incomingPacket nowMs _ _ _ => some nowMs
  | _ => none

/-- The packets arrive at times that do not decrease. -/
def InOrder (events : List Event) : Prop := (events.filterMap Event.arrival).Pairwise (· ≤ ·)

/-! ### The feedback packet between two events -/

/-- No packet arrived after `t`. -/
structure Building (t : ℕ) (p : LocalFeedback) : Prop where
  ready : p.context.Ready
  /-- Statuses come with deltas. -/
  idle : p.deltas = [] → p.covered = 0
  /-- Deltas come after the base. -/
  unset : p.latestTimestamp = 0 → p.deltas = []
  base_lt : p.baseSequenceNumber < 65536
  /-- The base was not set again, since its time has more than the six bits that are lost. -/
  late : p.latestTimestamp ≠ 0 → 64 ≤ p.latestTimestamp.toNat ∧ p.latestTimestamp.toNat ≤ t
  reaches : p.latestTimestamp ≠ 0 →
    p.baseSequenceNumber + p.covered ≡ p.latestSequenceNumber.toNat + 1 [MOD 65536]

variable {t : ℕ} {p : LocalFeedback} {sequenceNumber : UInt16} {timestamp : UInt64}

theorem building_fresh (t : ℕ) (senderSsrc mediaSsrc : UInt32) (count : UInt8) :
    Building t ((fresh senderSsrc mediaSsrc).setFeedbackPacketCount count) := by
  refine ⟨⟨?_, ?_, fun _ => rfl⟩, fun _ => rfl, fun _ => rfl, Nat.zero_lt_succ _, ?_, ?_⟩
  · exact fun _ s hs => absurd hs not_mem_nil
  · exact fun _ => Nat.zero_lt_succ 6
  · exact fun hset => absurd rfl hset
  · exact fun hset => absurd rfl hset

theorem not_isFull (h : p.covered ≤ 65527) : p.isFull = false := by
  have hle : p.packetStatusCount ≤ p.covered := Nat.le_add_right _ _
  rw [isFull, maxPacketStatusCount, decide_eq_false_iff_not]
  omega

theorem roundedTime (h : timestamp >>> 6 * 64 ≠ 0) :
    64 ≤ (timestamp >>> 6 * 64).toNat ∧ (timestamp >>> 6 * 64).toNat ≤ timestamp.toNat := by
  have hlt := timestamp.toNat_lt
  have hshift : (timestamp >>> 6).toNat = timestamp.toNat / 64 := by
    rw [UInt64.toNat_shiftRight]
    exact Nat.shiftRight_eq_div_pow _ _
  have hval : (timestamp >>> 6 * 64).toNat = timestamp.toNat / 64 * 64 := by
    rw [UInt64.toNat_mul, hshift]
    exact Nat.mod_eq_of_lt (show timestamp.toNat / 64 * 64 < 2 ^ 64 by omega)
  have hne : timestamp.toNat / 64 * 64 ≠ 0 := by
    intro hzero
    exact h (UInt64.toNat_inj.mp (hval.trans hzero))
  rw [hval]
  omega

theorem missingPackets_modEq (previous sequenceNumber : UInt16) :
    previous.toNat + 1 + missingPackets previous sequenceNumber ≡ sequenceNumber.toNat
      [MOD 65536] := by
  have hp := previous.toNat_lt
  have hs := sequenceNumber.toNat_lt
  rw [missingPackets, UInt16.toNat_sub, UInt16.toNat_add]
  show (previous.toNat + 1 +
    (2 ^ 16 - (previous.toNat + 1) % 2 ^ 16 + sequenceNumber.toNat) % 2 ^ 16) % 65536 = _
  omega

theorem missingPackets_lt {previous : UInt16} (h : seqHigherThan sequenceNumber previous) :
    missingPackets previous sequenceNumber < 32768 := by
  have hp := previous.toNat_lt
  have hs := sequenceNumber.toNat_lt
  have hlower := seqHigherThan_iff.mp h
  unfold Circular.Lower at hlower
  rw [missingPackets, UInt16.toNat_sub, UInt16.toNat_add]
  show (2 ^ 16 - (previous.toNat + 1) % 2 ^ 16 + sequenceNumber.toNat) % 2 ^ 16 < 32768
  omega

section

variable (h : Building t p)
include h

theorem Building.mono {t' : ℕ} (hle : t ≤ t') : Building t' p :=
  ⟨h.ready, h.idle, h.unset, h.base_lt, fun hset => ⟨(h.late hset).1, (h.late hset).2.trans hle⟩,
    h.reaches⟩

theorem Building.setSsrcs (senderSsrc mediaSsrc : UInt32) :
    Building t { p with senderSsrc := senderSsrc, mediaSsrc := mediaSsrc } :=
  ⟨h.ready, h.idle, h.unset, h.base_lt, h.late, h.reaches⟩

theorem Building.not_isFull (hidle : p.deltas = []) : p.isFull = false :=
  CongestionControl.not_isFull (by rw [h.idle hidle]; exact Nat.zero_le _)

theorem Building.setBase (hidle : p.deltas = []) (sequenceNumber : UInt16)
    (hle : timestamp.toNat ≤ t) : Building t (p.setBase sequenceNumber timestamp) := by
  refine ⟨h.ready, h.idle, fun _ => hidle, (sequenceNumber + 1).toNat_lt, fun hset => ?_,
    fun _ => ?_⟩
  · exact ⟨(roundedTime hset).1, (roundedTime hset).2.trans hle⟩
  · show (sequenceNumber + 1).toNat + p.covered ≡ sequenceNumber.toNat + 1 [MOD 65536]
    rw [h.idle hidle, Nat.add_zero, UInt16.toNat_add]
    exact Nat.mod_modEq _ _

theorem Building.record (hset : p.latestTimestamp ≠ 0) (sequenceNumber : UInt16)
    (hle : t ≤ timestamp.toNat) : Building timestamp.toNat (p.record sequenceNumber timestamp) := by
  have h64 : 64 ≤ timestamp.toNat := ((h.late hset).1.trans (h.late hset).2).trans hle
  have hready := ready_fillChunk h.ready p.latestSequenceNumber sequenceNumber
    (p.delta64 timestamp)
  have hdeltas := deltas_fillChunk p p.latestSequenceNumber sequenceNumber
    (p.delta64 timestamp)
  have hframe := frame_fillChunk p p.latestSequenceNumber sequenceNumber
    (p.delta64 timestamp)
  have hcovered := covered_fillChunk h.ready p.latestSequenceNumber sequenceNumber
    (p.delta64 timestamp)
  unfold LocalFeedback.record
  generalize p.fillChunk p.latestSequenceNumber sequenceNumber (p.delta64 timestamp) = q at *
  have hbase : q.baseSequenceNumber = p.baseSequenceNumber := congrArg Prod.fst hframe
  have hnonempty : q.deltas ≠ [] := by
    rw [hdeltas]
    exact append_ne_nil_of_right_ne_nil _ (cons_ne_nil _ _)
  refine ⟨hready, fun hnil => absurd hnil hnonempty, fun hzero => ?_, hbase ▸ h.base_lt,
    fun _ => ⟨h64, le_refl _⟩, fun _ => ?_⟩
  · have hzero : timestamp = 0 := hzero
    rw [hzero] at h64
    exact absurd h64 (by decide)
  · show q.baseSequenceNumber + q.covered ≡ sequenceNumber.toNat + 1 [MOD 65536]
    -- base and covered statuses reach just past the number recorded
    have hsum := hcovered.modEq.add_left p.baseSequenceNumber
    rw [← Nat.add_assoc, ← Nat.add_assoc] at hsum
    have hreach := ((h.reaches hset).add_right
      (missingPackets p.latestSequenceNumber sequenceNumber)).trans
        (missingPackets_modEq p.latestSequenceNumber sequenceNumber)
    rw [hbase]
    exact hsum.trans (hreach.add_right 1)

theorem Building.addPacket {p' : LocalFeedback} {result : AddPacketResult}
    {maxRtcpPacketLen : ℕ} (hle : t ≤ timestamp.toNat)
    (hcall : p.addPacket sequenceNumber timestamp maxRtcpPacketLen = .ok (p', result)) :
    Building timestamp.toNat p' ∧ (p.latestTimestamp ≠ 0 →
      p'.latestTimestamp ≠ 0 ∧ p'.baseSequenceNumber = p.baseSequenceNumber) := by
  have hlater := h.mono hle
  cases (addPacket_outcome hcall).2 with
  | base hunset =>
    exact ⟨hlater.setBase (h.unset hunset) _ (Nat.le_refl _), fun hset => absurd hunset hset⟩
  | ignored hset | fatal hset | tooLarge hset => exact ⟨hlater, fun hset => ⟨hset, rfl⟩⟩
  | recorded hset =>
    have hrecord := h.record hset sequenceNumber hle
    refine ⟨hrecord, fun _ => ⟨?_, ?_⟩⟩
    · intro hzero
      have h64 := (h.late hset).1.trans ((h.late hset).2.trans hle)
      have hzero : timestamp = 0 := hzero
      rw [hzero] at h64
      exact absurd h64 (by decide)
    · exact congrArg Prod.fst (frame_fillChunk p p.latestSequenceNumber
        sequenceNumber (p.delta64 timestamp))

theorem Building.first_not_isFull {p' : LocalFeedback} {result : AddPacketResult}
    (hidle : p.deltas = []) {maxRtcpPacketLen : ℕ}
    (hcall : p.addPacket sequenceNumber timestamp maxRtcpPacketLen = .ok (p', result)) :
    p'.isFull = false := by
  have hzero := h.idle hidle
  apply CongestionControl.not_isFull
  cases (addPacket_outcome hcall).2 with
  | base hunset | ignored hset | fatal hset | tooLarge hset =>
    exact (Nat.le_of_eq hzero).trans (Nat.zero_le _)
  | recorded hset hnew =>
    have hcovered := (covered_fillChunk h.ready p.latestSequenceNumber
      sequenceNumber (p.delta64 timestamp)).le
    have hmissing := missingPackets_lt hnew
    rw [hzero] at hcovered
    refine Nat.le_trans hcovered ?_
    omega

theorem Building.finish : ∃ p', p.finish = .ok p' ∧ Building t p' ∧ p'.context.statuses = [] ∧
      Rearranges p p' := by
  obtain ⟨p', hfinish, hcases⟩ := addPendingChunks_cases h.ready
  obtain ⟨hsame, hempty⟩ := addPendingChunks_rearranges h.ready hfinish
  refine ⟨p', hfinish, ?_, hempty, hsame⟩
  -- a flush moves the context into the chunks; the sum can only wrap
  have hwrapped : Wrapped p'.covered p.covered := by
    obtain ⟨-, rfl⟩ | ⟨-, -, rfl⟩ | ⟨-, -, rfl⟩ := hcases
    · exact .refl _
    · exact covered_flushRun p
    · exact covered_flushVector p
  obtain ⟨hbase, -, -, -, -, hseq, htime⟩ : p'.baseSequenceNumber = p.baseSequenceNumber ∧
      p'.referenceTime = p.referenceTime ∧ p'.feedbackPacketCount = p.feedbackPacketCount ∧
      p'.senderSsrc = p.senderSsrc ∧ p'.mediaSsrc = p.mediaSsrc ∧
      p'.latestSequenceNumber = p.latestSequenceNumber ∧
      p'.latestTimestamp = p.latestTimestamp := by
    simpa only [LocalFeedback.frame, Prod.mk.injEq] using hsame.frame_eq
  refine ⟨⟨?_, ?_, fun _ => hempty⟩, ?_, ?_, hbase ▸ h.base_lt, ?_, ?_⟩
  · rw [hempty]
    exact fun _ s hs => absurd hs not_mem_nil
  · rw [hempty]
    exact fun _ => Nat.zero_lt_succ 6
  · intro hnil
    rw [hsame.deltas_eq] at hnil
    exact Nat.le_zero.mp (hwrapped.le.trans (Nat.le_of_eq (h.idle hnil)))
  · rw [htime, hsame.deltas_eq]
    exact h.unset
  · rw [htime]
    exact h.late
  · rw [htime, hseq, hbase]
    exact fun hset => (hwrapped.modEq.add_left _).trans (h.reaches hset)

end

/-! ### The server -/

namespace Server

/-- The feedback packet goes on where the last one that was sent ends. -/
structure Feeds (t : ℕ) (s : Server) : Prop where
  building : Building t s.transportCcFeedbackPacket
  contiguous : Contiguous s.log
  linked : ∀ previous, lastFeedback s.log = some previous →
    s.transportCcFeedbackPacket.latestTimestamp ≠ 0 ∧
      s.transportCcFeedbackPacket.baseSequenceNumber =
        (previous.baseSequenceNumber + previous.packetStatusCount) % 65536

theorem addPacket_unset {p : LocalFeedback} (hfull : p.isFull = false)
    (hunset : p.latestTimestamp = 0) (sequenceNumber : UInt16) (timestamp : UInt64)
    (maxRtcpPacketLen : ℕ) : p.addPacket sequenceNumber timestamp maxRtcpPacketLen =
      .ok (p.setBase sequenceNumber timestamp, .success) := by
  rw [addPacket, if_neg (by rw [hfull]; exact Bool.false_ne_true), if_pos hunset]

theorem roundedTime_ne (h : 64 ≤ timestamp.toNat) : timestamp >>> 6 * 64 ≠ 0 := by
  intro hzero
  have hlt := timestamp.toNat_lt
  have hval := congrArg UInt64.toNat hzero
  rw [UInt64.toNat_mul, UInt64.toNat_shiftRight] at hval
  have hval : timestamp.toNat >>> 6 * 64 % 2 ^ 64 = 0 := hval
  rw [Nat.shiftRight_eq_div_pow] at hval
  omega

variable {t : ℕ} {s : Server}

/-- **Sending.**  The ongoing packet is sent if it has deltas, and then a new one starts
behind it. -/
theorem Feeds.send (h : s.Feeds t) : ∃ s', s.sendTransportCcFeedback = .ok s' ∧ s'.Feeds t ∧
      s'.transportCcFeedbackPacket.deltas = [] := by
  obtain ⟨p, hfinish, hp, hempty, hsame⟩ := h.building.finish
  obtain ⟨hbase, -, -, -, -, -, htime⟩ :
      p.baseSequenceNumber = s.transportCcFeedbackPacket.baseSequenceNumber ∧ _ ∧ _ ∧ _ ∧ _ ∧ _ ∧
      p.latestTimestamp = s.transportCcFeedbackPacket.latestTimestamp := by
    simpa only [LocalFeedback.frame, Prod.mk.injEq] using hsame.frame_eq
  have hlinked : ∀ previous, lastFeedback s.log = some previous → p.latestTimestamp ≠ 0 ∧
      p.baseSequenceNumber =
        (previous.baseSequenceNumber + previous.packetStatusCount) % 65536 := by
    rw [htime, hbase]
    exact h.linked
  rw [sendTransportCcFeedback, hfinish]
  by_cases hdeltas : p.deltas = []
  · have hser : ¬p.isSerializable := by
      rw [isSerializable, hdeltas]
      exact of_decide_eq_false rfl
    refine ⟨s.setPacket p, ?_, ⟨hp, h.contiguous, hlinked⟩, hdeltas⟩
    show (if p.isSerializable then _ else _) = _
    rw [if_neg hser]
    rfl
  · have hser : p.isSerializable := decide_eq_true (length_pos_iff.mpr hdeltas)
    have hset : p.latestTimestamp ≠ 0 := fun hzero => hdeltas (hp.unset hzero)
    obtain ⟨h64, hle⟩ := hp.late hset
    have hpos : p.latestTimestamp > 0 := by
      show (0 : UInt64) < p.latestTimestamp
      rw [UInt64.lt_iff_toNat_lt]
      exact Nat.lt_of_lt_of_le (by decide) h64
    -- the next packet starts with the last arrival of this one as its base
    have hnew := building_fresh t s.transportCcFeedbackSenderSsrc s.transportCcFeedbackMediaSsrc
      (s.transportCcFeedbackPacketCount + 1)
    have hadd := @addPacket_unset (s.newPacket (s.transportCcFeedbackPacketCount + 1)) rfl rfl
      p.latestSequenceNumber p.latestTimestamp s.maxRtcpPacketLen
    refine ⟨{ (s.record (.feedback p)).setPacket ((s.newPacket
      (s.transportCcFeedbackPacketCount + 1)).setBase p.latestSequenceNumber p.latestTimestamp) with
        transportCcFeedbackPacketCount := s.transportCcFeedbackPacketCount + 1 }, ?_, ⟨?_, ?_, ?_⟩,
      rfl⟩
    · show (if p.isSerializable then _ else _) = _
      rw [if_pos hser]
      show (if p.latestTimestamp > 0 then
        ((s.newPacket (s.transportCcFeedbackPacketCount + 1)).addPacket p.latestSequenceNumber
          p.latestTimestamp s.maxRtcpPacketLen >>= _) else _) = _
      rw [if_pos hpos, hadd]
      rfl
    · exact hnew.setBase rfl _ hle
    · refine ⟨?_, h.contiguous⟩
      rintro packet hpacket previous hprevious
      cases hpacket
      exact (hlinked previous hprevious).2
    · rintro previous hprevious
      obtain rfl : p = previous := Option.some.inj hprevious
      refine ⟨roundedTime_ne h64, ?_⟩
      have hreach := hp.reaches hset
      rw [LocalFeedback.covered, hempty, length_nil, Nat.add_zero] at hreach
      show (p.latestSequenceNumber + 1).toNat = _
      rw [UInt16.toNat_add, hreach]
      rfl

structure Steady (t : ℕ) (s : Server) : Prop extends Feeds t s where
  notFull : s.transportCcFeedbackPacket.isFull = false

theorem Feeds.steady_of_idle (h : s.Feeds t) (hidle : s.transportCcFeedbackPacket.deltas = []) :
    s.Steady t :=
  ⟨h, h.building.not_isFull hidle⟩

theorem Feeds.of_addPacket {packet : LocalFeedback} {result : AddPacketResult}
    (h : s.Feeds t) (hle : t ≤ timestamp.toNat)
    (hcall : s.transportCcFeedbackPacket.addPacket sequenceNumber timestamp s.maxRtcpPacketLen =
      .ok (packet, result)) : (s.setPacket packet).Feeds timestamp.toNat := by
  obtain ⟨hbuilding, hkept⟩ := h.building.addPacket hle hcall
  refine ⟨hbuilding, h.contiguous, fun previous hprevious => ?_⟩
  obtain ⟨hset, hbase⟩ := h.linked previous hprevious
  obtain ⟨hset', hbase'⟩ := hkept hset
  exact ⟨hset', hbase'.trans hbase⟩

theorem steady_reset {t : ℕ} {s : Server} (hcontiguous : Contiguous s.log) {entry : Entry}
    (hreset : lastFeedback (entry :: s.log) = none) (hentry : ∀ packet, entry ≠ .feedback packet)
    (senderSsrc mediaSsrc : UInt32) (count : UInt8) :
    ((s.setPacket ((fresh senderSsrc mediaSsrc).setFeedbackPacketCount
      count)).record entry).Steady t := by
  refine Feeds.steady_of_idle ⟨building_fresh t _ _ _, ⟨?_, hcontiguous⟩, ?_⟩ rfl
  · exact fun packet heq => absurd heq (hentry packet)
  · intro previous hprevious
    have hprevious : lastFeedback (entry :: s.log) = some previous := hprevious
    rw [hreset] at hprevious
    cases hprevious

theorem Feeds.afterAddPacket {nowMs : UInt64} (h : s.Feeds nowMs.toNat) (wideSeqNumber : UInt16)
    (result : AddPacketResult) :
    ∃ s', s.afterAddPacket wideSeqNumber nowMs result = .ok s' ∧ s'.Steady nowMs.toNat := by
  cases result with
  | success =>
    rw [Server.afterAddPacket]
    by_cases hfull : s.transportCcFeedbackPacket.isFull
    · rw [if_pos hfull]
      obtain ⟨s', hsend, hs', hidle⟩ := h.send
      exact ⟨s', hsend, hs'.steady_of_idle hidle⟩
    · rw [if_neg hfull]
      exact ⟨s, rfl, h, by simpa using hfull⟩
  | maxSizeExceeded =>
    -- the packet is sent, and the arrival goes into the next one
    obtain ⟨s', hsend, hs', hidle⟩ := h.send
    obtain ⟨packet, result, hadd⟩ := addPacket_ok (hs'.building.not_isFull hidle)
      wideSeqNumber nowMs s'.maxRtcpPacketLen
    refine ⟨s'.setPacket packet, ?_, hs'.of_addPacket (Nat.le_refl _) hadd,
      hs'.building.first_not_isFull hidle hadd⟩
    rw [Server.afterAddPacket, hsend]
    show (s'.transportCcFeedbackPacket.addPacket wideSeqNumber nowMs s'.maxRtcpPacketLen >>= _) = _
    rw [hadd]
    rfl
  | fatal =>
    exact ⟨_, rfl, @steady_reset nowMs.toNat s h.contiguous .fatal rfl (fun _ heq => nomatch heq)
      _ _ _⟩

theorem maySendLimitationRembFeedback_eq (clockMs : UInt64) :
    (s.maySendLimitationRembFeedback clockMs).transportCcFeedbackPacket =
        s.transportCcFeedbackPacket ∧ ((s.maySendLimitationRembFeedback clockMs).log = s.log ∨
        ∃ bitrate, (s.maySendLimitationRembFeedback clockMs).log = .remb bitrate :: s.log) := by
  rw [maySendLimitationRembFeedback]
  set s₁ := if s.unlimitedRembCounter > 0 ∧ s.maxIncomingBitrate ≠ 0
    then { s with unlimitedRembCounter := 0 } else s with hs₁
  have hfixed : s₁.transportCcFeedbackPacket = s.transportCcFeedbackPacket ∧ s₁.log = s.log := by
    rw [hs₁]
    split_ifs <;> exact ⟨rfl, rfl⟩
  dsimp only
  split_ifs
  · exact ⟨hfixed.1, .inr ⟨_, by rw [← hfixed.2]; rfl⟩⟩
  · exact ⟨hfixed.1, .inr ⟨_, by rw [← hfixed.2]; rfl⟩⟩
  · exact ⟨hfixed.1, .inl hfixed.2⟩

section

variable (h : s.Steady t)
include h

theorem Steady.maySend (clockMs : UInt64) : (s.maySendLimitationRembFeedback clockMs).Steady t := by
  obtain ⟨hpacket, hlog⟩ := maySendLimitationRembFeedback_eq clockMs
  set s' := s.maySendLimitationRembFeedback clockMs with hs'
  rcases hlog with hlog | ⟨bitrate, hlog⟩
  · refine ⟨⟨hpacket ▸ h.building, hlog ▸ h.contiguous, ?_⟩, hpacket ▸ h.notFull⟩
    rw [hlog, hpacket]
    exact h.linked
  · refine ⟨⟨hpacket ▸ h.building, ?_, ?_⟩, hpacket ▸ h.notFull⟩
    · rw [hlog]
      exact ⟨fun packet heq => (nomatch heq), h.contiguous⟩
    · rw [hlog, hpacket]
      exact h.linked

theorem Steady.setMaxIncomingBitrate (bitrate : UInt32) (clockMs : UInt64) :
    (s.setMaxIncomingBitrate bitrate clockMs).Steady t := by
  have hset : Steady t { s with maxIncomingBitrate := bitrate } :=
    ⟨⟨h.building, h.contiguous, h.linked⟩, h.notFull⟩
  have hcounter : Steady t { s with
      maxIncomingBitrate := bitrate
      unlimitedRembCounter := unlimitedRembNumPackets } :=
    ⟨⟨h.building, h.contiguous, h.linked⟩, h.notFull⟩
  rw [Server.setMaxIncomingBitrate]
  split_ifs
  · exact hcounter.maySend clockMs
  · exact hset

theorem Steady.incomingPacket {nowMs : UInt64} (hle : t ≤ nowMs.toNat)
    (clockMs : UInt64) (wideSeqNumber : Option UInt16) (ssrc : UInt32) :
    ∃ s', s.incomingPacket nowMs clockMs wideSeqNumber ssrc = .ok s' ∧ s'.Steady nowMs.toNat := by
  cases wideSeqNumber with
  | none =>
    exact ⟨s, rfl, ⟨h.building.mono hle, h.contiguous, h.linked⟩, h.notFull⟩
  | some wideSeqNumber =>
    have hfeeds : (s.setSsrcs ssrc).Feeds t :=
      ⟨h.building.setSsrcs 0 ssrc, h.contiguous, h.linked⟩
    obtain ⟨packet, result, hadd⟩ := @addPacket_ok
      (s.setSsrcs ssrc).transportCcFeedbackPacket h.notFull wideSeqNumber nowMs
      (s.setSsrcs ssrc).maxRtcpPacketLen
    obtain ⟨s', hafter, hs'⟩ := (hfeeds.of_addPacket hle hadd).afterAddPacket wideSeqNumber result
    refine ⟨s'.maySendLimitationRembFeedback clockMs, ?_, hs'.maySend clockMs⟩
    show ((s.setSsrcs ssrc).transportCcFeedbackPacket.addPacket wideSeqNumber nowMs
      (s.setSsrcs ssrc).maxRtcpPacketLen >>= _) = _
    rw [hadd]
    show ((s.setSsrcs ssrc).setPacket packet).afterAddPacket wideSeqNumber nowMs result >>= _ = _
    rw [hafter]
    rfl

theorem Steady.step (event : Event) (hle : ∀ nowMs, event.arrival = some nowMs → t ≤ nowMs.toNat) :
    ∃ s', s.step event = .ok s' ∧ s'.Steady ((event.arrival.map UInt64.toNat).getD t) := by
  cases event with
  | incomingPacket nowMs clockMs wideSeqNumber ssrc =>
    exact h.incomingPacket (hle nowMs rfl) clockMs wideSeqNumber ssrc
  | onTimer =>
    show ∃ s', (if s.timerActive then s.sendTransportCcFeedback else .ok s) = .ok s' ∧ _
    by_cases hactive : s.timerActive
    · rw [if_pos hactive]
      obtain ⟨s', hsend, hs', hidle⟩ := h.toFeeds.send
      exact ⟨s', hsend, hs'.steady_of_idle hidle⟩
    · rw [if_neg hactive]
      exact ⟨s, rfl, h⟩
  | transportConnected => exact ⟨_, rfl, ⟨h.building, h.contiguous, h.linked⟩, h.notFull⟩
  | transportDisconnected =>
    exact ⟨_, rfl, @steady_reset t { s with timerActive := false } h.contiguous .disconnected rfl
      (fun _ heq => nomatch heq) 0 0 0⟩
  | setMaxIncomingBitrate bitrate clockMs =>
    exact ⟨_, rfl, h.setMaxIncomingBitrate bitrate clockMs⟩

theorem Steady.run {events : List Event} (horder : InOrder events)
    (hle : ∀ nowMs ∈ events.filterMap Event.arrival, t ≤ nowMs.toNat) :
    ∃ s' t', Runs.run Server.step s events = .ok s' ∧ s'.Steady t' := by
  induction events generalizing s t with
  | nil => exact ⟨s, t, rfl, h⟩
  | cons event events ih =>
    have hfirst : ∀ nowMs, event.arrival = some nowMs → t ≤ nowMs.toNat := by
      intro nowMs harrival
      refine hle nowMs ?_
      rw [filterMap_cons_some harrival]
      exact mem_cons_self
    obtain ⟨s', hstep, hs'⟩ := h.step event hfirst
    rw [run_cons_ok hstep]
    -- only an arrival moves the time on, and the later ones are not before it
    cases harrival : event.arrival with
    | none =>
      rw [InOrder, filterMap_cons_none harrival] at horder
      rw [filterMap_cons_none harrival] at hle
      rw [harrival] at hs'
      exact ih hs' horder hle
    | some nowMs =>
      rw [InOrder, filterMap_cons_some harrival, pairwise_cons] at horder
      rw [harrival] at hs'
      exact ih hs' horder.2 fun later hlater =>
        UInt64.le_iff_toNat_le.mp (horder.1 later hlater)

end

end Server

/-- **Contiguous coverage.**  Whatever packets arrive in the order of their times and whenever
the timer fires, no assertion fires, and each feedback packet starts behind the range of the
one before unless the feedback was reset in between. -/
theorem feedback_contiguous (maxRtcpPacketLen : ℕ) (events : List Event) (horder : InOrder events) :
    ∃ s, run Server.step { maxRtcpPacketLen } events = .ok s ∧ Contiguous s.log := by
  have hinit : Server.Steady 0 { maxRtcpPacketLen } :=
    ⟨⟨building_fresh 0 0 0 0, trivial, fun previous hprevious => nomatch hprevious⟩, rfl⟩
  obtain ⟨s, _, hrun, hs⟩ := hinit.run horder fun _ _ => Nat.zero_le _
  exact ⟨s, hrun, hs.contiguous⟩

instance (events : List Event) : Decidable (InOrder events) :=
  inferInstanceAs (Decidable (List.Pairwise _ _))

/-- Packets with gaps, a full size limit and two firings of the timer. -/
private def sampleEvents : List Event :=
  [.transportConnected, .incomingPacket 1000 1000 (some 65530) 7,
    .incomingPacket 1001 1001 (some 65531) 7, .incomingPacket 1003 1003 (some 65535) 7, .onTimer,
    .incomingPacket 1110 1110 (some 3) 7, .incomingPacket 1120 1120 none 7,
    .incomingPacket 1125 1125 (some 4) 7, .incomingPacket 1126 1126 (some 6) 7,
    .incomingPacket 1127 1127 (some 7) 7, .incomingPacket 1128 1128 (some 8) 7, .onTimer]

private def ranges (log : List Entry) : List (ℕ × ℕ) :=
  log.filterMap fun
    | .feedback packet => some (packet.baseSequenceNumber, packet.packetStatusCount)
    | _ => none

theorem feedback_sampleEvents :
    ∃ s, run Server.step { maxRtcpPacketLen := 28 } sampleEvents = .ok s ∧ Contiguous s.log ∧
      ranges s.log = [(7, 2), (0, 7), (65531, 5)] := by
  obtain ⟨s, hs, hcontiguous⟩ := feedback_contiguous 28 sampleEvents (by decide)
  obtain ⟨s', hs', hranges⟩ :=
    exists_ok_of_map (x := run Server.step { maxRtcpPacketLen := 28 } sampleEvents)
      (f := fun s => ranges s.log) (b := [(7, 2), (0, 7), (65531, 5)]) (by decide +kernel)
  obtain rfl : s = s' := Except.ok.inj (hs.symm.trans hs')
  exact ⟨s, hs, hcontiguous, hranges⟩

end CongestionControl

end Mediasoup
