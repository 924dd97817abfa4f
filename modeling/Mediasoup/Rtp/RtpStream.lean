/-
The sequence numbers of an RTP stream (`RTC/RtpStream`).

A stream extends the 16-bit numbers of its packets by a count of cycles, as in RFC 3550.

* `receiveStreamPacket` — one packet;
* `Follows` — the stream has the highest number so far, up to the cycle that the first
  packet counts if its number is zero: the maximum is seeded with the number before it;
* `expectedPackets_exact_iff` — the count of expected packets and the cycles are right if
  and only if the first number is not zero.
-/
import Mathlib.Data.Int.Notation
import Mathlib.Tactic.Set
import Mediasoup.Rtp.SeqManager

open Circular

namespace Mediasoup

structure RtpStream where
  started : Bool := false
  maxSeq : UInt16 := 0
  cycles : UInt32 := 0
  baseSeq : UInt32 := 0
  badSeq : UInt32 := 0
  maxPacketTs : UInt32 := 0
  maxPacketMs : UInt64 := 0
  packetsDiscarded : ℕ := 0
  /-- The number of calls of `UserOnSequenceNumberReset`. -/
  resets : ℕ := 0

/-- A packet and the time of its arrival. -/
structure StreamPacket where
  sequenceNumber : UInt16
  timestamp : UInt32
  nowMs : UInt64

namespace RtpStream

def maxDropout : ℕ := 3000

def maxMisorder : ℕ := 1500

def rtpSeqMod : UInt32 := 65536

def initSeq (s : RtpStream) (seq : UInt16) : RtpStream :=
  { s with baseSeq := seq.toUInt32, maxSeq := seq, badSeq := rtpSeqMod + 1 }

/-- `UpdateSeq`, with its result. -/
def updateSeq (s : RtpStream) (packet : StreamPacket) : RtpStream × Bool :=
  let seq := packet.sequenceNumber
  let udelta := (seq - s.maxSeq).toNat
  if udelta < maxDropout then
    -- In order, with permissible gap.
    let cycles := if seq < s.maxSeq then s.cycles + rtpSeqMod else s.cycles
    ({ s with cycles, maxSeq := seq }, true)
  else if udelta ≤ 65536 - maxMisorder then
    if seq.toUInt32 = s.badSeq then
      let s := s.initSeq seq
      ({ s with
         maxPacketTs := packet.timestamp, maxPacketMs := packet.nowMs, resets := s.resets + 1 },
        true)
    else
      ({ s with badSeq := (seq + 1).toUInt32, packetsDiscarded := s.packetsDiscarded + 1 }, false)
  -- Acceptable misorder.
  else (s, true)

/-- `ReceiveStreamPacket`, with its result. -/
def receiveStreamPacket (s : RtpStream) (packet : StreamPacket) : RtpStream × Bool :=
  let s :=
    if s.started then s
    else { s.initSeq packet.sequenceNumber with
      started := true
      maxSeq := packet.sequenceNumber - 1
      maxPacketTs := packet.timestamp
      maxPacketMs := packet.nowMs }
  let (s, valid) := s.updateSeq packet
  if valid && timestampHigherThan packet.timestamp s.maxPacketTs then
    ({ s with maxPacketTs := packet.timestamp, maxPacketMs := packet.nowMs }, true)
  else (s, valid)

def getExpectedPackets (s : RtpStream) : UInt32 :=
  (s.cycles + s.maxSeq.toUInt32) - s.baseSeq + 1

/-! ### Unwrapped numbers -/

/-- A packet with its number before it was cut to 16 bits. -/
structure Arrival where
  position : ℤ
  timestamp : UInt32
  nowMs : UInt64

def Arrival.packet (a : Arrival) : StreamPacket where
  sequenceNumber := UInt16.ofNat (a.position % 65536).toNat
  timestamp := a.timestamp
  nowMs := a.nowMs

def receive (s : RtpStream) (a : Arrival) : RtpStream := (s.receiveStreamPacket a.packet).1

def highest (top : ℤ) (arrivals : List Arrival) : ℤ :=
  arrivals.foldl (fun top a => max top a.position) top

/-- Each packet is less than 3000 ahead of the highest so far and less than 1500 behind. -/
def Near : ℤ → List Arrival → Prop
  | _, [] => True
  | top, a :: arrivals =>
    a.position < top + maxDropout ∧ top - maxMisorder < a.position ∧
      Near (max top a.position) arrivals

/-- The stream has counted up to `top`; `extra` is the number of cycles that are not there. -/
structure Follows (first : UInt16) (extra : ℤ) (top : ℤ) (s : RtpStream) : Prop where
  started : s.started = true
  baseSeq : s.baseSeq = first.toUInt32
  maxSeq : (s.maxSeq.toNat : ℤ) = top % 65536
  cycles : (s.cycles.toNat : ℤ) = 65536 * (top / 65536 + extra) % 4294967296

theorem toNat_sequenceNumber (a : Arrival) :
    (a.packet.sequenceNumber.toNat : ℤ) = a.position % 65536 := by
  have hlt : (a.position % 65536).toNat < 65536 := by omega
  show (((UInt16.ofNat (a.position % 65536).toNat).toNat : ℕ) : ℤ) = _
  rw [UInt16.toNat_ofNat_of_lt' hlt]
  omega

variable {first : UInt16} {extra top : ℤ} {s : RtpStream} {a : Arrival}

theorem receive_of_updateSeq (hstarted : s.started = true)
    (h : Follows first extra top (s.updateSeq a.packet).1) :
    Follows first extra top (s.receive a) := by
  unfold receive receiveStreamPacket
  rw [if_pos hstarted]
  simp only
  split_ifs
  · exact ⟨h.started, h.baseSeq, h.maxSeq, h.cycles⟩
  · exact h

theorem udelta_eq {seq maxSeq : UInt16} {position : ℤ} (hseq : (seq.toNat : ℤ) = position % 65536)
    (hmax : (maxSeq.toNat : ℤ) = top % 65536) (hahead : position < top + maxDropout)
    (hbehind : top - maxMisorder < position) : ((seq - maxSeq).toNat : ℤ) =
      if top ≤ position then position - top else 65536 + position - top := by
  have hlt := maxSeq.toNat_lt
  unfold maxDropout at hahead
  unfold maxMisorder at hbehind
  rw [toNat_sub_uint16, gap]
  split_ifs <;> omega

theorem updateSeq_follows (h : Follows first extra top s) (hahead : a.position < top + maxDropout)
    (hbehind : top - maxMisorder < a.position) :
    Follows first extra (max top a.position) (s.updateSeq a.packet).1 := by
  have hseq := toNat_sequenceNumber a
  have hmax := h.maxSeq
  have hdelta := udelta_eq hseq hmax hahead hbehind
  unfold updateSeq
  by_cases hle : top ≤ a.position
  · -- not behind: at most one multiple of 65536 lies in between
    rw [if_pos hle] at hdelta
    have hnew : (a.packet.sequenceNumber - s.maxSeq).toNat < maxDropout := by omega
    rw [Int.max_eq_right hle]
    simp only [if_pos hnew]
    refine ⟨h.started, h.baseSeq, hseq, ?_⟩
    have hcycles := h.cycles
    unfold maxDropout at hahead
    split_ifs with hwrap
    · have hlt : a.packet.sequenceNumber.toNat < s.maxSeq.toNat := hwrap
      have hadd : (s.cycles + rtpSeqMod).toNat = (s.cycles.toNat + 65536) % 4294967296 :=
        UInt32.toNat_add _ _
      rw [hadd]
      omega
    · have hge : s.maxSeq.toNat ≤ a.packet.sequenceNumber.toNat := UInt16.not_lt.mp hwrap
      rw [hcycles]
      omega
  · -- behind, but not by much: nothing changes
    rw [if_neg hle] at hdelta
    have hold : 65536 - maxMisorder < (a.packet.sequenceNumber - s.maxSeq).toNat := by
      unfold maxMisorder at hbehind ⊢
      omega
    have hnot : ¬(a.packet.sequenceNumber - s.maxSeq).toNat < maxDropout := by
      unfold maxMisorder at hold
      unfold maxDropout
      omega
    rw [Int.max_eq_left (by omega)]
    simp only [if_neg hnot, if_neg (Nat.not_le.mpr hold)]
    exact h

theorem run_follows {arrivals : List Arrival} (h : Follows first extra top s)
    (hnear : Near top arrivals) :
    Follows first extra (highest top arrivals) (arrivals.foldl receive s) := by
  induction arrivals generalizing top s with
  | nil => exact h
  | cons a arrivals ih =>
    obtain ⟨hahead, hbehind, hrest⟩ := hnear
    exact ih (receive_of_updateSeq h.started (updateSeq_follows h hahead hbehind)) hrest

/-- What the first packet finds: as if the number before it had come. -/
def seeded (a : Arrival) : RtpStream :=
  { initSeq {} a.packet.sequenceNumber with
    started := true
    maxSeq := a.packet.sequenceNumber - 1
    maxPacketTs := a.timestamp
    maxPacketMs := a.nowMs }

theorem receive_first (timestamp : UInt32) (nowMs : UInt64) :
    Follows first (if first = 0 then 1 else 0) first.toNat
      (receive {} ⟨first.toNat, timestamp, nowMs⟩) := by
  have hlt := first.toNat_lt
  have hnumber : (⟨first.toNat, timestamp, nowMs⟩ : Arrival).packet.sequenceNumber = first := by
    refine UInt16.toNat_inj.mp ?_
    have hseq := toNat_sequenceNumber ⟨first.toNat, timestamp, nowMs⟩
    dsimp only at hseq
    omega
  have hzero : first = 0 ↔ first.toNat = 0 := UInt16.toNat_inj.symm
  -- `initSeq` pretends that the packet before the first has arrived
  have hseed : Follows first (if first = 0 then 1 else 0) (first.toNat - 1)
      (seeded ⟨first.toNat, timestamp, nowMs⟩) := by
    refine ⟨rfl, ?_, ?_, ?_⟩
    · show UInt16.toUInt32 _ = _
      rw [hnumber]
    · show (((_ - 1 : UInt16).toNat : ℕ) : ℤ) = _
      rw [hnumber, toNat_sub_uint16]
      show ((gap 32768 1 first.toNat : ℕ) : ℤ) = _
      unfold gap
      split_ifs <;> omega
    · show (0 : ℤ) = _
      split_ifs with h
      · rw [hzero.mp h]
        rfl
      · have : first.toNat ≠ 0 := fun h' => h (hzero.mpr h')
        omega
  have hfirst := updateSeq_follows (a := ⟨first.toNat, timestamp, nowMs⟩) hseed
    (by unfold maxDropout; dsimp only; omega) (by unfold maxMisorder; dsimp only; omega)
  rw [Int.max_eq_right (by dsimp only; omega)] at hfirst
  exact receive_of_updateSeq (s := seeded _) rfl hfirst

/-- **Extended sequence numbers.**  After a first packet and any others near the highest so
far, the expected packets and the cycles are those of the unwrapped numbers if and only if
the first number is not zero. -/
theorem expectedPackets_exact_iff (first : UInt16) (timestamp : UInt32) (nowMs : UInt64)
    (arrivals : List Arrival) (hnear : Near first.toNat arrivals) :
    (((arrivals.foldl receive (receive {} ⟨first.toNat, timestamp, nowMs⟩)
        ).getExpectedPackets.toNat : ℤ) =
        (highest first.toNat arrivals - first.toNat + 1) % 4294967296 ∧
      ((arrivals.foldl receive (receive {} ⟨first.toNat, timestamp, nowMs⟩)).cycles.toNat : ℤ) =
        65536 * (highest first.toNat arrivals / 65536) % 4294967296) ↔ first ≠ 0 := by
  have hfollows := run_follows (receive_first timestamp nowMs) hnear
  set s := arrivals.foldl receive (receive {} ⟨first.toNat, timestamp, nowMs⟩)
  set top := highest first.toNat arrivals
  have hlt := first.toNat_lt
  have hexpected : (s.getExpectedPackets.toNat : ℤ) =
      (s.cycles.toNat + s.maxSeq.toNat - first.toNat + 1) % 4294967296 := by
    unfold getExpectedPackets
    rw [hfollows.baseSeq, UInt32.toNat_add, UInt32.toNat_sub, UInt32.toNat_add]
    have hmax : s.maxSeq.toUInt32.toNat = s.maxSeq.toNat := UInt16.toNat_toUInt32 _
    have hbase : first.toUInt32.toNat = first.toNat := UInt16.toNat_toUInt32 _
    rw [hmax, hbase]
    show (((_ + 1) % 4294967296 : ℕ) : ℤ) = _
    omega
  have hcycles := hfollows.cycles
  have hmaxSeq := hfollows.maxSeq
  rw [hexpected]
  -- a first number 0 has counted one cycle before any wrap
  by_cases hzero : first = 0
  · rw [if_pos hzero] at hcycles
    refine ⟨fun h => absurd h.2 (by omega), fun h => absurd hzero h⟩
  · rw [if_neg hzero] at hcycles
    exact ⟨fun _ => hzero, fun _ => ⟨by omega, by omega⟩⟩

/-- Over the end of a cycle, with a loss, a late packet and a duplicate. -/
theorem expectedPackets_exact_wrap :
    ((([⟨65535, 0, 0⟩, ⟨65538, 0, 0⟩, ⟨65536, 0, 0⟩, ⟨65538, 0, 0⟩].foldl receive
        (receive {} ⟨(65534 : UInt16).toNat, 0, 0⟩)).getExpectedPackets.toNat : ℤ) = 5 ∧
      (([⟨65535, 0, 0⟩, ⟨65538, 0, 0⟩, ⟨65536, 0, 0⟩, ⟨65538, 0, 0⟩].foldl receive
        (receive {} ⟨(65534 : UInt16).toNat, 0, 0⟩)).cycles.toNat : ℤ) = 65536) :=
  (expectedPackets_exact_iff 65534 0 0
    [⟨65535, 0, 0⟩, ⟨65538, 0, 0⟩, ⟨65536, 0, 0⟩, ⟨65538, 0, 0⟩]
    (by simp only [Near]; decide)).mpr (by decide)

/-- One packet with the number zero: 65537 packets are expected. -/
theorem expectedPackets_first_zero :
    ((receive {} ⟨(0 : UInt16).toNat, 0, 0⟩).getExpectedPackets.toNat : ℤ) ≠
        (highest (0 : UInt16).toNat [] - (0 : UInt16).toNat + 1) % 4294967296 ∧
      ((receive {} ⟨(0 : UInt16).toNat, 0, 0⟩).cycles.toNat : ℤ) ≠
        65536 * (highest (0 : UInt16).toNat [] / 65536) % 4294967296 := by
  decide

end RtpStream

end Mediasoup
