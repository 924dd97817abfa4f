/-
The fraction lost in the receiver reports of a stream (`RTC/RtpStreamRecv`, `RTC/RtxStream`).

A report covers the packets since the previous one: those that the highest sequence number
has passed are expected, those that came are received.  The quotient of the two is rounded
and stored in eight bits.

* `fractionLostOf` — the fraction of an interval, `getRtcpReceiverReport` — a report;
* `Counts` — the stream has counted what happened since the last report, up to the cycle
  that it counts if the first number is zero;
* `run_grows` — no interval underflows without a resynchronisation;
* `run_fraction_faithful` — the fraction is within one of the right one if the stream did not start
  with zero and the quotient does not round to 256;
* `totalLost_faithful` — the numbers and the patterns on which the encoding of the cumulative
  loss agrees with the two's complement.
-/
import Mathlib.Data.Nat.Bitwise
import Mathlib.Data.UInt
import Mediasoup.Lib.Bytes
import Mediasoup.Lib.Runs
import Mediasoup.Rtp.RtpStream

open Circular

namespace Mediasoup

open UInt32

/-- A stream with the counters of its reports.  `packetCount` is the one of
`mediaTransmissionCounter`, or the `packetsCount` of an RTX stream. -/
structure ReceivedStream where
  rtp : RtpStream := {}
  packetCount : ℕ := 0
  packetsLost : UInt32 := 0
  fractionLost : UInt8 := 0
  expectedPrior : UInt32 := 0
  receivedPrior : UInt32 := 0
  reportedPacketLost : UInt32 := 0

/-- What a report says about the loss, and the highest number. -/
structure LossReport where
  totalLost : UInt32
  fractionLost : UInt8
  lastSeq : UInt32

namespace ReceivedStream

/-- `std::round` of a quotient. -/
def roundDiv (a : ℤ) (b : ℕ) : ℤ := a.sign * ((2 * a.natAbs + b) / (2 * b) : ℕ)

/-- The fraction lost of an interval.  The difference and its shift are those of `int32_t`,
and `uint8_t` keeps eight bits of the rounded quotient. -/
def fractionLostOf (expectedInterval receivedInterval : UInt32) : UInt8 :=
  let lostInterval := expectedInterval - receivedInterval
  if expectedInterval = 0 ∨ lostInterval.toInt32 ≤ 0 then 0
  else UInt8.ofInt (roundDiv (lostInterval <<< 8).toInt32.toInt expectedInterval.toNat)

/-- `GetRtcpReceiverReport`; `worstRemoteFractionLost` is zero without in-band FEC. -/
def getRtcpReceiverReport (s : ReceivedStream) (worstRemoteFractionLost : UInt8) :
    ReceivedStream × LossReport :=
  let expected := s.rtp.getExpectedPackets
  let packetsLost :=
    if s.packetCount < expected.toNat then expected - ofNat s.packetCount else 0
  let expectedInterval := expected - s.expectedPrior
  let receivedPrior := ofNat s.packetCount
  let fractionLost := fractionLostOf expectedInterval (receivedPrior - s.receivedPrior)
  let own := worstRemoteFractionLost ≤ fractionLost
  let newLost :=
    if own then packetsLost - s.packetsLost
    else (worstRemoteFractionLost.toUInt32 * expectedInterval) >>> 8
  let reportedPacketLost := s.reportedPacketLost + newLost
  ({ s with packetsLost, fractionLost, expectedPrior := expected, receivedPrior,
            reportedPacketLost },
    { totalLost := reportedPacketLost
      fractionLost := if own then fractionLost else worstRemoteFractionLost
      lastSeq := s.rtp.maxSeq.toUInt32 + s.rtp.cycles })

/-- The fraction lost since the last report. -/
def currentFraction (s : ReceivedStream) : UInt8 :=
  fractionLostOf (s.rtp.getExpectedPackets - s.expectedPrior)
    (ofNat s.packetCount - s.receivedPrior)

theorem getRtcpReceiverReport_fraction (s : ReceivedStream) (worst : UInt8) :
    (s.getRtcpReceiverReport worst).2.fractionLost =
      if worst ≤ s.currentFraction then s.currentFraction else worst := rfl

def receivePacket (s : ReceivedStream) (packet : StreamPacket) : ReceivedStream :=
  let (rtp, valid) := s.rtp.receiveStreamPacket packet
  { s with rtp, packetCount := if valid then s.packetCount + 1 else s.packetCount }

/-- The rest of `ReceiveRtxPacket` for the packet that was recovered: it is not counted. -/
def receiveRtxPacket (s : ReceivedStream) (packet : StreamPacket) : ReceivedStream :=
  { s with rtp := (s.rtp.updateSeq packet).1 }

/-! ### The expected packets -/

end ReceivedStream

namespace RtpStream

variable {s : RtpStream} {packet : StreamPacket}

/-- How far a packet moves the highest number. -/
def advance (s : RtpStream) (packet : StreamPacket) : ℕ :=
  let udelta := (packet.sequenceNumber - s.maxSeq).toNat
  if udelta < maxDropout then udelta else 0

/-- The packet is the second one after a large jump. -/
def Resyncs (s : RtpStream) (packet : StreamPacket) : Prop :=
  maxDropout ≤ (packet.sequenceNumber - s.maxSeq).toNat ∧
    (packet.sequenceNumber - s.maxSeq).toNat ≤ 65536 - maxMisorder ∧
    packet.sequenceNumber.toUInt32 = s.badSeq

instance (s : RtpStream) (packet : StreamPacket) : Decidable (s.Resyncs packet) :=
  inferInstanceAs (Decidable (_ ∧ _))

theorem updateSeq_resets_iff : (s.updateSeq packet).1.resets ≠ s.resets ↔ s.Resyncs packet := by
  unfold updateSeq Resyncs
  dsimp only
  split_ifs with hnew hbad hseq <;> simp [initSeq] <;> grind

theorem updateSeq_expected (h : ¬s.Resyncs packet) : (s.updateSeq packet).1.getExpectedPackets =
      s.getExpectedPackets + ofNat (s.advance packet) := by
  have hdelta := toNat_sub_uint16 s.maxSeq packet.sequenceNumber
  unfold updateSeq advance
  by_cases hnew : (packet.sequenceNumber - s.maxSeq).toNat < maxDropout
  · -- a wrap makes up for what the new maximum lacks
    have hmoved : (if packet.sequenceNumber < s.maxSeq then s.cycles + rtpSeqMod else s.cycles) +
        packet.sequenceNumber.toUInt32 = s.cycles + s.maxSeq.toUInt32 +
          ofNat (packet.sequenceNumber - s.maxSeq).toNat := by
      have hlt := packet.sequenceNumber.toNat_lt
      have hmax := s.maxSeq.toNat_lt
      unfold rtpSeqMod
      rw [hdelta, ← UInt32.toNat_inj]
      unfold gap
      split_ifs <;> rename_i hwrap hle <;> rw [UInt16.lt_iff_toNat_lt] at hwrap <;>
        simp <;> omega
    simp only [if_pos hnew, getExpectedPackets]
    rw [hmoved]
    grind
  · simp only [if_neg hnew]
    by_cases hbad : (packet.sequenceNumber - s.maxSeq).toNat ≤ 65536 - maxMisorder
    · by_cases hseq : packet.sequenceNumber.toUInt32 = s.badSeq
      · exact absurd ⟨Nat.le_of_not_lt hnew, hbad, hseq⟩ h
      · simp only [if_pos hbad, if_neg hseq]
        simp [getExpectedPackets]
    · simp [if_neg hbad]

theorem receiveStreamPacket_expected (hstarted : s.started = true) (h : ¬s.Resyncs packet) :
    (s.receiveStreamPacket packet).1.started = true ∧
      (s.receiveStreamPacket packet).1.getExpectedPackets =
        s.getExpectedPackets + ofNat (s.advance packet) := by
  have hsame : (s.updateSeq packet).1.started = true := by
    unfold updateSeq
    dsimp only
    split_ifs <;> exact hstarted
  unfold receiveStreamPacket
  simp only [if_pos hstarted]
  split_ifs
  · exact ⟨hsame, updateSeq_expected h⟩
  · exact ⟨hsame, updateSeq_expected h⟩

end RtpStream

namespace ReceivedStream

/-- A stream with what happened since its last report. -/
structure Monitored where
  stream : ReceivedStream
  expected : ℕ
  received : ℕ

inductive Event where
  | packet (packet : StreamPacket)
  | recovered (packet : StreamPacket)
  | report

namespace Monitored

def step (m : Monitored) : Event → Monitored
  | .packet packet =>
    { stream := m.stream.receivePacket packet
      expected := m.expected + m.stream.rtp.advance packet
      received := if (m.stream.rtp.receiveStreamPacket packet).2 then m.received + 1
        else m.received }
  | .recovered packet =>
    { m with
      stream := m.stream.receiveRtxPacket packet
      expected := m.expected + m.stream.rtp.advance packet }
  | .report => ⟨(m.stream.getRtcpReceiverReport 0).1, 0, 0⟩

def start (first : StreamPacket) : Monitored := ⟨receivePacket {} first, 1, 1⟩

/-- The event is no resynchronisation. -/
def InSync (m : Monitored) : Event → Prop
  | .packet packet | .recovered packet => ¬m.stream.rtp.Resyncs packet
  | .report => True

instance (m : Monitored) (e : Event) : Decidable (m.InSync e) := by
  cases e <;> unfold InSync <;> infer_instance

/-- The counters tell what happened since the last report. -/
structure Counts (m : Monitored) : Prop where
  started : m.stream.rtp.started = true
  expected : m.stream.rtp.getExpectedPackets - m.stream.expectedPrior = ofNat m.expected
  received : ofNat m.stream.packetCount - m.stream.receivedPrior = ofNat m.received

theorem start_counts {first : StreamPacket} (h : first.sequenceNumber ≠ 0) :
    Counts (start first) := by
  have hlt := first.sequenceNumber.toNat_lt
  have hne : first.sequenceNumber.toNat ≠ 0 := fun h0 => h (UInt16.toNat_inj.mp h0)
  -- the first packet is one ahead of the number `initSeq` has stored
  have hdelta : (first.sequenceNumber - (first.sequenceNumber - 1)).toNat = 1 := by
    have : first.sequenceNumber - (first.sequenceNumber - 1) = 1 := by grind
    rw [this]
    rfl
  have hwrap : ¬first.sequenceNumber < first.sequenceNumber - 1 := by
    have hone : (1 : UInt16) ≤ first.sequenceNumber := by
      rw [UInt16.le_iff_toNat_le]
      exact Nat.one_le_iff_ne_zero.mpr hne
    rw [UInt16.lt_iff_toNat_lt, UInt16.toNat_sub_of_le _ _ hone]
    omega
  have hexpected : (0 + first.sequenceNumber.toUInt32) - first.sequenceNumber.toUInt32 + 1 - 0 =
      ofNat 1 := by
    simp
  have hsame : timestampHigherThan first.timestamp first.timestamp = false := by
    rw [← Bool.not_eq_true, timestampHigherThan_iff]
    exact lower_irrefl
  unfold start receivePacket RtpStream.receiveStreamPacket RtpStream.updateSeq RtpStream.initSeq
  simp only [Bool.false_eq_true, if_false, hdelta, if_neg hwrap, RtpStream.maxDropout,
    if_pos (by decide : 1 < 3000), hsame, Bool.and_false, if_true]
  exact ⟨rfl, hexpected, sub_zero _⟩

theorem sub_add_ofNat {a b : UInt32} {n : ℕ} (h : a - b = ofNat n) (k : ℕ) :
    a + ofNat k - b = ofNat (n + k) := by
  rw [ofNat_add, ← h]
  grind

/-- How far an event moves the highest number. -/
def advance (m : Monitored) : Event → ℕ
  | .packet packet | .recovered packet => m.stream.rtp.advance packet
  | .report => 0

variable {m : Monitored} {e : Event}

theorem step_expected (hstarted : m.stream.rtp.started = true) (hsync : m.InSync e) :
    (m.step e).stream.rtp.started = true ∧ (m.step e).stream.rtp.getExpectedPackets =
      m.stream.rtp.getExpectedPackets + ofNat (m.advance e) := by
  cases e with
  | packet packet => exact RtpStream.receiveStreamPacket_expected hstarted hsync
  | recovered packet =>
    have hsame : (m.stream.rtp.updateSeq packet).1.started = true := by
      unfold RtpStream.updateSeq
      dsimp only
      split_ifs <;> exact hstarted
    exact ⟨hsame, RtpStream.updateSeq_expected hsync⟩
  | report => exact ⟨hstarted, (add_zero _).symm⟩

theorem step_counts (h : Counts m) (hsync : m.InSync e) : Counts (m.step e) := by
  obtain ⟨hstarted, hmoved⟩ := step_expected h.started hsync
  cases e with
  | packet packet =>
    refine ⟨hstarted, ?_, ?_⟩
    · rw [hmoved]
      exact sub_add_ofNat h.expected _
    · -- a packet `updateSeq` refuses is counted on neither side
      show ofNat (if (m.stream.rtp.receiveStreamPacket packet).2 then
        m.stream.packetCount + 1 else m.stream.packetCount) - m.stream.receivedPrior =
          ofNat (if (m.stream.rtp.receiveStreamPacket packet).2 then m.received + 1
            else m.received)
      by_cases hvalid : (m.stream.rtp.receiveStreamPacket packet).2
      · rw [if_pos hvalid, if_pos hvalid, ofNat_add]
        exact sub_add_ofNat h.received 1
      · rw [if_neg hvalid, if_neg hvalid]
        exact h.received
  | recovered packet =>
    refine ⟨hstarted, ?_, h.received⟩
    rw [hmoved]
    exact sub_add_ofNat h.expected _
  | report => exact ⟨h.started, sub_self _, sub_self _⟩

theorem run_counts {events : List Event} (h : Counts m)
    (hsync : Runs.Along (Runs.always step) InSync m events) : Counts (events.foldl step m) := by
  induction events generalizing m with
  | nil => exact h
  | cons e events ih =>
    obtain ⟨he, hrest⟩ := Runs.along_always_cons.mp hsync
    exact ih (step_counts h he) hrest

/-! ### The interval of a report -/

/-- The event is no resynchronisation, and the count of expected packets stays below `2 ^ 32`. -/
def InRange (m : Monitored) (e : Event) : Prop :=
  m.InSync e ∧ m.stream.rtp.getExpectedPackets.toNat + m.advance e < 2 ^ 32

instance (m : Monitored) (e : Event) : Decidable (m.InRange e) :=
  inferInstanceAs (Decidable (_ ∧ _))

/-- The count of expected packets is not below that of the last report, and the difference is at
most the number of packets expected since then. -/
structure Grows (m : Monitored) : Prop where
  prior_le : m.stream.expectedPrior ≤ m.stream.rtp.getExpectedPackets
  interval_le : (m.stream.rtp.getExpectedPackets - m.stream.expectedPrior).toNat ≤ m.expected

theorem Counts.interval_le (h : Counts m) :
    (m.stream.rtp.getExpectedPackets - m.stream.expectedPrior).toNat ≤ m.expected := by
  rw [h.expected, toNat_ofNat']
  exact Nat.mod_le _ _

theorem step_prior_le (hprior : m.stream.expectedPrior ≤ m.stream.rtp.getExpectedPackets)
    (hstarted : m.stream.rtp.started = true) (hrange : m.InRange e) :
    (m.step e).stream.expectedPrior ≤ (m.step e).stream.rtp.getExpectedPackets := by
  obtain ⟨-, hmoved⟩ := step_expected hstarted hrange.1
  have hlt := hrange.2
  rw [le_iff_toNat_le] at hprior ⊢
  cases e with
  | report => exact Nat.le_refl _
  | packet packet | recovered packet =>
    rw [hmoved, UInt32.toNat_add, UInt32.toNat_ofNat', Nat.add_mod_mod, Nat.mod_eq_of_lt hlt]
    exact Nat.le_trans hprior (Nat.le_add_right _ _)

/-- **The interval of a report** does not underflow in a run without resynchronisations that
does not start with the number zero and in which the count stays in its 32 bits. -/
theorem run_grows (first : StreamPacket) (hfirst : first.sequenceNumber ≠ 0)
    (events : List Event) (h : Runs.Along (Runs.always step) InRange (start first) events) :
    Grows (events.foldl step (start first)) := by
  suffices hrun : ∀ m, Counts m → m.stream.expectedPrior ≤ m.stream.rtp.getExpectedPackets →
      Runs.Along (Runs.always step) InRange m events → Grows (events.foldl step m) from
    hrun _ (start_counts hfirst) UInt32.zero_le h
  clear h
  -- both parts of the invariant go from one event to the next
  induction events with
  | nil => exact fun m hcounts hprior _ => ⟨hprior, hcounts.interval_le⟩
  | cons e events ih =>
    intro m hcounts hprior hrange
    obtain ⟨he, hrest⟩ := Runs.along_always_cons.mp hrange
    exact ih _ (step_counts hcounts he.1) (step_prior_le hprior hcounts.started he) hrest

/-- Reports over the end of a cycle, with a late packet and one that was sent again. -/
theorem run_grows_cycle :
    Grows ([.report, .packet ⟨3, 0, 0⟩, .recovered ⟨1, 0, 0⟩, .report, .packet ⟨2, 0, 0⟩,
      .recovered ⟨5, 0, 0⟩].foldl step (start ⟨65535, 0, 0⟩)) :=
  run_grows ⟨65535, 0, 0⟩ (by decide) _ (by decide)

/-- The second packet after a jump resynchronises the stream: the count falls from 101 to 1.
After a first packet with the number zero 65537 packets are expected. -/
theorem resync_underflow :
    ¬Grows ([.packet ⟨1100, 0, 0⟩, .report, .packet ⟨30000, 0, 0⟩, .packet ⟨30001, 0, 0⟩].foldl
      step (start ⟨1000, 0, 0⟩)) ∧ ¬Grows (start ⟨0, 0, 0⟩) :=
  ⟨fun h => absurd h.prior_le (by decide), fun h => absurd h.interval_le (by decide)⟩

end Monitored

/-! ### The fraction -/

/-- The fraction of a report is at most one off, and not zero if half of the packets or more
are lost. -/
def Faithful (expected received : ℕ) (fraction : UInt8) : Prop :=
  (256 * (expected - received : ℤ) - fraction.toNat * expected).natAbs ≤ expected ∧
    (expected ≤ 2 * (expected - received) → fraction ≠ 0)

instance (expected received : ℕ) (fraction : UInt8) :
    Decidable (Faithful expected received fraction) :=
  inferInstanceAs (Decidable (_ ∧ _))

theorem fractionLostOf_eq {expected received : ℕ} (hlt : received < expected)
    (hexpected : expected < 2 ^ 32) (hlost : expected - received < 2 ^ 23) :
    (fractionLostOf (ofNat expected) (ofNat received)).toNat =
      (512 * (expected - received) + expected) / (2 * expected) % 256 := by
  have hdiff : ofNat expected - ofNat received =
      ofNat (expected - received) := (ofNat_sub (Nat.le_of_lt hlt)).symm
  have hne : ofNat expected ≠ 0 := by
    rw [ne_eq, ← UInt32.toNat_inj]
    simp
    omega
  -- under the bound the difference is its own signed value, shifted or not
  have hint : (ofNat (expected - received)).toInt32.toInt = (expected - received : ℕ) := by
    show BitVec.toInt _ = _
    simp [BitVec.toInt]
    omega
  have hpos : ¬(ofNat (expected - received)).toInt32 ≤ 0 := by
    rw [Int32.le_iff_toInt_le, hint]
    show ¬((expected - received : ℕ) : ℤ) ≤ 0
    omega
  have hshift : (ofNat (expected - received) <<< 8).toInt32.toInt =
      (256 * (expected - received) : ℕ) := by
    show BitVec.toInt _ = _
    simp [BitVec.toInt, Nat.shiftLeft_eq]
    omega
  have htoNat : (ofNat expected).toNat = expected := toNat_ofNat_of_lt' hexpected
  unfold fractionLostOf
  rw [hdiff]
  rw [if_neg (by simp only [not_or]; exact ⟨hne, hpos⟩), hshift, htoNat, roundDiv,
    Int.sign_eq_one_of_pos (by omega), Int.natAbs_natCast, Int.one_mul]
  rw [← Nat.mul_assoc]
  generalize (2 * 256 * (expected - received) + expected) / (2 * expected) = q
  simp only [UInt8.ofInt, UInt8.toNat_ofNat']
  omega

/-- A rounded quotient fits into eight bits if it is below 255.5, and only then is it
faithful: 256 becomes zero. -/
theorem faithful_iff {expected received : ℕ} (hlt : received < expected)
    (hexpected : expected < 2 ^ 32) (hlost : expected - received < 2 ^ 23) :
    Faithful expected received (fractionLostOf (ofNat expected) (ofNat received)) ↔
      512 * (expected - received) < 511 * expected := by
  have hfraction := fractionLostOf_eq hlt hexpected hlost
  have hzero : fractionLostOf (ofNat expected) (ofNat received) ≠ 0 ↔
      (fractionLostOf (ofNat expected) (ofNat received)).toNat ≠ 0 :=
    not_congr UInt8.toNat_inj.symm
  unfold Faithful
  rw [hzero, hfraction]
  set lost := expected - received with hlost_eq
  set q := (512 * lost + expected) / (2 * expected) with hq
  have hle : 2 * (q * expected) ≤ 512 * lost + expected := by
    have := Nat.div_mul_le_self (512 * lost + expected) (2 * expected)
    rwa [← hq, Nat.mul_left_comm] at this
  have hgt : 512 * lost + expected < 2 * (q * expected) + 2 * expected := by
    have := Nat.lt_mul_div_succ (512 * lost + expected) (by omega : 0 < 2 * expected)
    rwa [← hq, Nat.mul_succ, Nat.mul_right_comm, Nat.mul_assoc] at this
  have hmax : q ≤ 256 := by
    refine Nat.lt_succ_iff.mp (Nat.div_lt_of_lt_mul ?_)
    omega
  -- the rounded fraction reaches `256` exactly when the `uint8_t` wraps to 0
  rcases Nat.lt_or_eq_of_le hmax with hfits | hfull
  · have hbound : q * expected ≤ 255 * expected := Nat.mul_le_mul_right _ (by omega)
    rw [Nat.mod_eq_of_lt hfits, ← Int.natCast_mul]
    refine iff_of_true ⟨by omega, fun hhalf h0 => ?_⟩ (by omega)
    rw [h0] at hgt
    omega
  · rw [hfull] at hle hgt ⊢
    omega

/-- **The fraction lost** of a report, after any packets without a resynchronisation and any
earlier reports: if the first number was not zero and the interval fits into the integers,
the fraction is faithful if and only if the quotient is below 255.5. -/
theorem run_fraction_faithful (first : StreamPacket) (hfirst : first.sequenceNumber ≠ 0)
    (events : List Event)
    (hsync : Runs.Along (Runs.always Monitored.step) Monitored.InSync (.start first) events)
    {m : Monitored} (hm : events.foldl Monitored.step (.start first) = m)
    (hlt : m.received < m.expected) (hexpected : m.expected < 2 ^ 32)
    (hlost : m.expected - m.received < 2 ^ 23) :
    Faithful m.expected m.received (m.stream.getRtcpReceiverReport 0).2.fractionLost ↔
      512 * (m.expected - m.received) < 511 * m.expected := by
  have hcounts := Monitored.run_counts (Monitored.start_counts hfirst) hsync
  rw [hm] at hcounts
  rw [getRtcpReceiverReport_fraction, if_pos UInt8.zero_le, currentFraction, hcounts.expected,
    hcounts.received]
  exact faithful_iff hlt hexpected hlost

/-- One packet of three is lost over the end of a cycle, and a packet is ignored. -/
theorem run_fraction_faithful_third :
    Faithful 3 2 (([.report, .packet ⟨1, 0, 0⟩, .packet ⟨30000, 0, 0⟩, .packet ⟨2, 0, 0⟩].foldl
      Monitored.step (.start ⟨65535, 0, 0⟩)).stream.getRtcpReceiverReport 0).2.fractionLost :=
  (run_fraction_faithful ⟨65535, 0, 0⟩ (by decide)
    [.report, .packet ⟨1, 0, 0⟩, .packet ⟨30000, 0, 0⟩, .packet ⟨2, 0, 0⟩] (by decide) rfl
    (by decide) (by decide) (by decide)).mpr (by decide)

/-- A report after a gap of 600 shows no loss at all, and so does the first one of a stream
that starts with zero, when one of three packets is lost. -/
theorem lost_but_zero : ¬Faithful 600 1 (([.report, .packet ⟨610, 0, 0⟩].foldl
        Monitored.step (.start ⟨10, 0, 0⟩)).stream.getRtcpReceiverReport 0).2.fractionLost ∧
      ¬Faithful 3 2 (([.packet ⟨2, 0, 0⟩].foldl
        Monitored.step (.start ⟨0, 0, 0⟩)).stream.getRtcpReceiverReport 0).2.fractionLost := by
  decide

end ReceivedStream

/-! ### The cumulative number of packets lost

The field has 24 bits and is signed.  `SetTotalLost` writes a negative number as its
magnitude below a sign bit, and `GetTotalLost` reads it in the same way, where RFC 3550 has
the two's complement.  Its bytes are 5 to 7 of the header of a report. -/

namespace ReceiverReport

open Bytes

/-- `Get3Bytes` of the field. -/
def get3Bytes (field : List UInt8) : ℕ := (byteAt field 0).toNat * 65536 + be16 field 1

/-- The limit value.  The negation is the one of `int32_t`. -/
def clamp (totalLost : ℤ) : ℤ :=
  let negated := (-totalLost).bmod 0x100000000
  if totalLost ≥ 0 then if totalLost > 0x07FFFFF then 0x07FFFFF else totalLost
  else if negated > 0x0800000 then 0x0800000 else negated

/-- The `value` that `SetTotalLost` writes. -/
def lostValue (totalLost : ℤ) : ℕ :=
  if totalLost ≥ 0 then (clamp totalLost % 0x100000000).toNat &&& 0x07FFFFF
  else (clamp totalLost % 0x100000000).toNat ||| 0x0800000

def setTotalLost (totalLost : Int32) : List UInt8 := toBe24 (lostValue totalLost.toInt)

/-- The negation is the one of `uint32_t`, and its result is taken as an `int32_t`. -/
def getTotalLost (field : List UInt8) : ℤ :=
  let value := get3Bytes field
  if (value >>> 23) &&& 1 = 0 then value
  else if value ≠ 0x0800000 then (-(value &&& 0xFF7FFFFF : ℕ) : ℤ).bmod 0x100000000
  else (-value : ℤ).bmod 0x100000000

theorem get3Bytes_lt (field : List UInt8) : get3Bytes field < 16777216 := by
  have h0 := (byteAt field 0).toNat_lt
  have h1 := (byteAt field 1).toNat_lt
  have h2 := (byteAt field 2).toNat_lt
  simp only [get3Bytes, be16, Nat.reduceAdd]
  omega

theorem get3Bytes_setTotalLost (totalLost : Int32) :
    get3Bytes (setTotalLost totalLost) = lostValue totalLost.toInt % 16777216 := by
  simp [get3Bytes, be16, byteAt, setTotalLost, toBe24]
  omega

theorem lostValue_of_nonneg {n : ℤ} (h : 0 ≤ n) : lostValue n = min n 8388607 := by
  rw [lostValue, if_pos h, Nat.and_two_pow_sub_one_eq_mod _ 23, clamp, if_pos h]
  split_ifs <;> omega

theorem lostValue_of_neg {n : ℤ} (h : n < 0) (hleast : -2147483648 ≤ n) :
    lostValue n % 16777216 = if n ≤ -8388608 then 8388608 else 8388608 - n := by
  have hor : ∀ k < 8388608, k ||| 0x0800000 = 8388608 + k := fun k hk =>
    (Nat.lor_comm k _).trans (Nat.two_pow_add_eq_or_of_lt (i := 23) hk 1).symm
  have hneg : (-n).bmod 0x100000000 = if n = -2147483648 then n else -n := by
    rw [Int.bmod_def]
    split_ifs <;> omega
  rw [lostValue, if_neg (by omega), clamp, if_neg (by omega), hneg]
  by_cases hn : n = -2147483648
  · rw [hn]
    rfl
  rw [if_neg hn]
  by_cases hbelow : n ≤ -8388608
  · have hclamp : (if -n > 0x0800000 then 0x0800000 else -n) = 0x0800000 := by
      split_ifs <;> omega
    rw [if_pos hbelow, hclamp]
    rfl
  · rw [if_neg hbelow, if_neg (by omega), hor _ (by omega)]
    omega

theorem getTotalLost_eq (field : List UInt8) : getTotalLost field =
    if get3Bytes field ≤ 8388608 then (BitVec.ofNat 24 (get3Bytes field)).toInt
    else 8388608 - (get3Bytes field : ℤ) := by
  have hlt := get3Bytes_lt field
  unfold getTotalLost
  generalize get3Bytes field = n at hlt ⊢
  have hsign : n >>> 23 &&& 1 = 0 ↔ n < 8388608 := by
    rw [Nat.shiftRight_eq_div_pow, Nat.and_one_is_mod]
    omega
  -- without its sign bit a negative pattern is its low 23 bits
  have hlow (h : 8388608 ≤ n) : n &&& 0xFF7FFFFF = n - 8388608 := by
    have hmod : (n &&& 0xFF7FFFFF) % 2 ^ 23 = n % 2 ^ 23 :=
      Nat.and_mod_two_pow.trans
        ((Nat.and_two_pow_sub_one_eq_mod (n % 2 ^ 23) 23).trans (Nat.mod_mod n _))
    have hdiv : (n &&& 0xFF7FFFFF) / 2 ^ 23 = 0 :=
      Nat.and_div_two_pow.trans (by rw [show n / 2 ^ 23 = 1 by omega]; rfl)
    omega
  rw [BitVec.toInt_eq_toNat_cond, BitVec.toNat_ofNat]
  by_cases hpos : n < 8388608
  · rw [if_pos (hsign.mpr hpos), if_pos (by omega), if_pos (by omega)]
    omega
  · rw [if_neg (fun h => hpos (hsign.mp h)), hlow (by omega)]
    simp only [Int.bmod_def]
    split_ifs <;> omega

/-- The bits that are written are those of the clamped number for a number that is not negative,
is below the range or is half its lower end; a pattern is read as the number that it encodes
if its sign bit is not set or its other bits are those of such a number. -/
theorem totalLost_faithful (totalLost : Int32) (field : List UInt8) :
    (get3Bytes (setTotalLost totalLost) =
        (BitVec.ofInt 24 (max (-8388608) (min totalLost.toInt 8388607))).toNat ↔
      0 ≤ totalLost.toInt ∨ totalLost.toInt ≤ -8388608 ∨ totalLost.toInt = -4194304) ∧
    (getTotalLost field = (BitVec.ofNat 24 (get3Bytes field)).toInt ↔
      get3Bytes field ≤ 0x800000 ∨ get3Bytes field = 0xC00000) := by
  constructor
  · rw [get3Bytes_setTotalLost, BitVec.toNat_ofInt]
    rcases le_or_gt 0 totalLost.toInt with h | h
    · have := lostValue_of_nonneg h
      omega
    · have := lostValue_of_neg h totalLost.le_toInt
      split_ifs at this <;> omega
  · have hlt := get3Bytes_lt field
    rw [getTotalLost_eq]
    by_cases hle : get3Bytes field ≤ 8388608
    · simp [hle]
    · rw [if_neg hle, BitVec.toInt_eq_toNat_cond, BitVec.toNat_ofNat, if_neg (by omega)]
      omega

/-- One duplicate packet. -/
theorem totalLost_minus_one : (get3Bytes (setTotalLost (-1)), (BitVec.ofInt 24 (-1)).toNat) =
      (0x800001, 0xFFFFFF) ∧
    getTotalLost (setTotalLost (-1)) = -1 := by
  decide

end ReceiverReport

end Mediasoup
