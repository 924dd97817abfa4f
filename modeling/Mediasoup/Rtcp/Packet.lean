/-
Compound RTCP packets (`RTC::RTCP::Packet::Parse`).

A compound packet is a sequence of sub-packets, each with its length in its own
header.  The parser walks over them and hands each one to the parser for its
type; it stops at the first one that is not accepted and returns the packets
before it.

* `parse_inside_iff` — the walk ends, reads only bytes of the input and returns
  sub-packets of the input, and everything they point to lies in their own bytes
  exactly when no item of a VBCM message announces more bytes than are left.
-/
import Mediasoup.Rtcp.Feedback

open List Bytes Checked

namespace Mediasoup

namespace Rtcp

inductive Body where
  | senderReport (reports : List Extent)
  | receiverReport (packet : ReceiverReportPacket)
  | sdes (chunks : List SdesChunk)
  | bye (packet : ByePacket)
  | rtpfb (packet : FeedbackPacket)
  | psfb (packet : FeedbackPacket)
  | xr (packet : ExtendedReportPacket)
  deriving DecidableEq

/-- The items, SSRCs and report blocks, by the bytes they point to. -/
def Body.extents : Body → List Extent
  | senderReport reports => reports
  | receiverReport packet => packet.extents
  | sdes chunks => chunks.flatMap SdesChunk.extents
  | bye packet => packet.extents
  | rtpfb packet => packet.extents
  | psfb packet => packet.extents
  | xr packet => packet.extents

/-- A returned packet: where its sub-packet starts, how long it is and its contents. -/
structure Packet where
  data : ℕ
  len : ℕ
  body : Body
  deriving DecidableEq

namespace Packet

/-- Everything the packet points to lies inside its own sub-packet. -/
def Within (packet : Packet) : Prop := AllInside packet.data packet.len packet.body.extents

/-- A sender report, followed by the receiver report in the same sub-packet. -/
def parseSenderReport (buf : List UInt8) (base packetLen : ℕ) : Checked (List Packet) := do
  let reports := SenderReportPacket.parse base packetLen
  let count ← headerCount buf base
  if 0 < count then do
    match ← (ReceiverReportPacket.parse buf base packetLen
        (SenderReportPacket.getSize reports)).attempt with
    | none => return [⟨base, packetLen, .senderReport reports⟩]
    | some rr => return [⟨base, packetLen, .senderReport reports⟩,
        ⟨base, packetLen, .receiverReport rr⟩]
  else return [⟨base, packetLen, .senderReport reports⟩]

/-- The switch over the packet type; `reject` is the null pointer. -/
def parseSubPacket (buf : List UInt8) (base packetLen : ℕ) : Checked (List Packet) := do
  let packetType ← read buf (base + 1)
  match packetType.toNat with
  | 200 => parseSenderReport buf base packetLen
  | 201 => do
    let packet ← ReceiverReportPacket.parse buf base packetLen 0
    return [⟨base, packetLen, .receiverReport packet⟩]
  | 202 => do
    let chunks ← SdesPacket.parse buf base packetLen
    return [⟨base, packetLen, .sdes chunks⟩]
  | 203 => do
    let packet ← ByePacket.parse buf base packetLen
    return [⟨base, packetLen, .bye packet⟩]
  | 205 => do
    let packet ← FeedbackRtpPacket.parse buf base packetLen
    return [⟨base, packetLen, .rtpfb packet⟩]
  | 206 => do
    let packet ← FeedbackPsPacket.parse buf base packetLen
    return [⟨base, packetLen, .psfb packet⟩]
  | 207 => do
    let packet ← ExtendedReportPacket.parse buf base packetLen
    return [⟨base, packetLen, .xr packet⟩]
  -- APP and unknown types
  | _ => reject

def isRtcp (buf : List UInt8) (base len : ℕ) : Checked Bool :=
  if len < commonHeaderSize then return false
  else do
    let first ← read buf base
    let packetType ← read buf (base + 1)
    return (127 < first ∧ first < 192) ∧ bits first 6 2 = 2 ∧ 192 ≤ packetType ∧ packetType ≤ 223

/-- The walk over the sub-packets: `len` bytes from `base` on are left. -/
def parseFrom (buf : List UInt8) : ℕ → ℕ → ℕ → Checked (List Packet)
  | 0, _, _ => outOfFuel
  | fuel + 1, base, len =>
    if 0 < len then do
      let ok ← isRtcp buf base len
      if ok then do
        let length ← readBe buf 2 (base + 2)
        let packetLen := (length + 1) * 4
        if len < packetLen then return []
        else do
          match ← (parseSubPacket buf base packetLen).attempt with
          | none => return []
          | some packets => do
            let rest ← parseFrom buf fuel (base + packetLen) (len - packetLen)
            return packets ++ rest
      else return []
    else return []

def parse (data : List UInt8) : Checked (List Packet) :=
  parseFrom data (data.length + 1) 0 data.length

/-- The length announced in the header of the sub-packet at `base`. -/
def announcedLen (buf : List UInt8) (base : ℕ) : ℕ := (be16 buf (base + 2) + 1) * 4

/-- The packet was made from a whole sub-packet of the input. -/
def IsSubPacket (data : List UInt8) (packet : Packet) : Prop :=
  packet.len = announcedLen data packet.data ∧ packet.data + packet.len ≤ data.length

/-- The walk over the `len` bytes from `base` on reaches a VBCM message with an item
that announces more bytes than are left in its sub-packet. -/
inductive ReachesVbcmOverrun (buf : List UInt8) : ℕ → ℕ → Prop where
  | here {base len : ℕ} : isRtcp buf base len = value true → announcedLen buf base ≤ len →
      byteAt buf (base + 1) = 206 → IsVbcmOverrun buf base (announcedLen buf base) →
      ReachesVbcmOverrun buf base len
  | later {base len : ℕ} {packets : List Packet} : isRtcp buf base len = value true →
      announcedLen buf base ≤ len →
      parseSubPacket buf base (announcedLen buf base) = value packets →
      ReachesVbcmOverrun buf (base + announcedLen buf base) (len - announcedLen buf base) →
      ReachesVbcmOverrun buf base len

/-- What the parser of one sub-packet returns. -/
def SubPacketSpec (buf : List UInt8) (base len : ℕ) (packets : List Packet) : Prop :=
  (∀ p ∈ packets, p.data = base ∧ p.len = len) ∧
    ((∀ p ∈ packets, p.Within) ↔ ¬ (byteAt buf (base + 1) = 206 ∧ IsVbcmOverrun buf base len))

variable {buf : List UInt8} {base len : ℕ}

theorem parseSubPacket_ne_reject (h : base + 1 < buf.length) (h206 : byteAt buf (base + 1) = 206)
    (hover : IsVbcmOverrun buf base len) : parseSubPacket buf base len ≠ reject := by
  have hread : Checked.read buf (base + 1) = value 206 := by
    rw [read_eq_value, ← h206, byteAt, List.getElem?_eq_getElem h, Option.getD_some]
  rw [parseSubPacket, hread, value_bind]
  exact bind_ne_reject (hover.ne_reject (by omega)) (by simp)

section

variable (h : base + len ≤ buf.length)
include h

theorem ensures_parseSenderReport (hlen : commonHeaderSize ≤ len) :
    (parseSenderReport buf base len).Ensures fun packets =>
      ∀ p ∈ packets, (p.data = base ∧ p.len = len) ∧ p.Within := by
  have hsr := @allInside_senderReport base len hlen
  simp only [commonHeaderSize] at hlen
  refine (ensures_headerCount (by omega)).bind fun count _ => .ite (fun _ => ?_) fun _ => ?_
  · refine (ensures_receiverReportPacket _ h).attempt.bind fun o ho => ?_
    cases o with
    | none =>
      rintro p hp
      obtain rfl := mem_singleton.mp hp
      exact ⟨⟨rfl, rfl⟩, hsr⟩
    | some rr =>
      rintro p hp
      rcases mem_pair.mp hp with rfl | rfl
      · exact ⟨⟨rfl, rfl⟩, hsr⟩
      · exact ⟨⟨rfl, rfl⟩, (ho.1 rr rfl).2⟩
  · rintro p hp
    obtain rfl := mem_singleton.mp hp
    exact ⟨⟨rfl, rfl⟩, hsr⟩

theorem ensures_parseSubPacket (hlen : len = announcedLen buf base) :
    (parseSubPacket buf base len).Ensures (SubPacketSpec buf base len) := by
  have h4 : commonHeaderSize ≤ len := by
    rw [hlen, announcedLen, commonHeaderSize]
    omega
  have h4' : 4 ≤ len := h4
  refine (ensures_read_eq (by omega)).bind fun packetType htype => ?_
  -- the types other than payload-specific feedback always stay inside
  have hother : ∀ {x : Checked (List Packet)}, packetType.toNat ≠ 206 →
      (x.Ensures fun packets => ∀ p ∈ packets, (p.data = base ∧ p.len = len) ∧ p.Within) →
      x.Ensures (SubPacketSpec buf base len) := by
    intro x hne hx
    refine hx.mono fun packets hp => ⟨fun p hm => (hp p hm).1, ?_⟩
    refine iff_of_true (fun p hm => (hp p hm).2) fun hover => hne ?_
    rw [htype, hover.1]
    rfl
  have hone : ∀ {body : Body}, AllInside base len body.extents →
      ∀ p ∈ [(⟨base, len, body⟩ : Packet)], (p.data = base ∧ p.len = len) ∧ p.Within := by
    intro body hbody p hp
    obtain rfl := mem_singleton.mp hp
    exact ⟨⟨rfl, rfl⟩, hbody⟩
  split
  · next ht => exact hother (by omega) (ensures_parseSenderReport h h4)
  · next ht =>
    exact hother (by omega) ((ensures_receiverReportPacket 0 h).bind fun _ hp => hone hp)
  · next ht => exact hother (by omega) ((ensures_sdesPacket h h4).bind fun _ hp => hone hp)
  · next ht => exact hother (by omega) ((ensures_byePacket h h4).bind fun _ hp => hone hp)
  · next ht =>
    exact hother (by omega) ((ensures_feedbackRtp h hlen.symm).bind fun _ hp => hone hp)
  · next ht =>
    refine (ensures_feedbackPs h hlen.symm).bind fun packet hp => ⟨?_, ?_⟩
    · rintro p hm
      obtain rfl := mem_singleton.mp hm
      exact ⟨rfl, rfl⟩
    · have h206 : byteAt buf (base + 1) = 206 := by
        rw [← htype]
        exact UInt8.toNat_inj.mp ht
      rw [and_iff_right h206, ← hp, forall_mem_singleton]
      rfl
  · next ht =>
    exact hother (by omega) ((ensures_extendedReportPacket h).bind fun _ hp => hone hp)
  · trivial

theorem ensures_isRtcp : (isRtcp buf base len).Ensures fun ok =>
      isRtcp buf base len = value ok ∧ (ok = true → 4 ≤ len) := by
  have hsafe : (isRtcp buf base len).Ensures fun ok => ok = true → 4 ≤ len := by
    refine .ite (fun _ => by simp) fun hlen => ?_
    simp only [commonHeaderSize] at hlen
    refine (ensures_read (by omega)).bind fun _ _ => (ensures_read (by omega)).bind fun _ _ => ?_
    exact fun _ => by omega
  exact hsafe.self_eq

/-- The walk, by induction on the number of bytes left: every sub-packet is whole,
and everything points into its own sub-packet unless an overrun is reached. -/
theorem ensures_parseFrom {fuel : ℕ} (hfuel : len < fuel) :
    (parseFrom buf fuel base len).Ensures fun packets => (∀ p ∈ packets, p.IsSubPacket buf) ∧
        ((∀ p ∈ packets, p.Within) ↔ ¬ ReachesVbcmOverrun buf base len) := by
  induction fuel generalizing base len with
  | zero => omega
  | succ fuel ih =>
    -- a walk that stops here returns nothing and reaches nothing
    have hstop : (¬ ReachesVbcmOverrun buf base len) → (value [] : Checked (List Packet)).Ensures
        fun packets => (∀ p ∈ packets, p.IsSubPacket buf) ∧
          ((∀ p ∈ packets, p.Within) ↔ ¬ ReachesVbcmOverrun buf base len) := by
      intro hno
      exact ⟨by simp, iff_of_true (by simp) hno⟩
    have hrtcp := ensures_isRtcp h
    refine .ite (fun hpos => ?_) fun hzero => hstop ?_
    · refine hrtcp.bind fun ok hok => .ite (fun htrue => ?_) fun hfalse => hstop ?_
      · rw [htrue] at hok
        have h4 := hok.2 rfl
        refine (ensures_readBe_two (by omega)).bind fun length hlength => ?_
        have hannounced : (length + 1) * 4 = announcedLen buf base := by rw [hlength, announcedLen]
        simp only [hannounced]
        refine .ite (fun hlt => hstop ?_) fun hge => ?_
        · rintro (⟨_, hle, _, _⟩ | ⟨_, hle, _, _⟩) <;> omega
        refine (ensures_parseSubPacket (by omega) rfl).attempt.bind fun o ho => ?_
        cases o with
        | none =>
          refine hstop ?_
          have hrej := ho.2 rfl
          rintro (⟨_, _, h206, hover⟩ | ⟨_, _, hacc, _⟩)
          · exact absurd hrej (parseSubPacket_ne_reject (by omega) h206 hover)
          · rw [hrej] at hacc
            cases hacc
        | some packets =>
          obtain ⟨hacc, hplace, hwithin⟩ := ho.1 packets rfl
          have hlen4 : 0 < announcedLen buf base := by
            rw [announcedLen]
            omega
          refine (ih (by omega) (by omega)).bind fun rest hrest => ⟨?_, ?_⟩
          · intro p hp
            rcases mem_append.mp hp with hp | hp
            · obtain ⟨hdata, hplen⟩ := hplace p hp
              rw [IsSubPacket, hdata, hplen]
              exact ⟨rfl, by omega⟩
            · exact hrest.1 p hp
          · rw [forall_mem_append, hwithin, hrest.2]
            constructor
            · rintro ⟨h1, h2⟩ (⟨_, _, h206, hover⟩ | ⟨_, _, _, hlater⟩)
              · exact h1 ⟨h206, hover⟩
              · exact h2 hlater
            · intro hno
              exact ⟨fun ⟨h206, hover⟩ => hno (.here hok.1 (by omega) h206 hover),
                fun hlater => hno (.later hok.1 (by omega) hacc hlater)⟩
      · have hne : isRtcp buf base len ≠ value true := by
          rw [hok.1]
          simpa using hfalse
        rintro (⟨hr, _, _, _⟩ | ⟨hr, _, _, _⟩) <;> exact hne hr
    · rintro (⟨_, hle, _, _⟩ | ⟨_, hle, _, _⟩) <;> rw [announcedLen] at hle <;> omega

end

/-- No item of a VBCM message that the parser reaches announces more bytes than are
left in its sub-packet. -/
def VbcmItemsFit (data : List UInt8) : Prop := ¬ ReachesVbcmOverrun data 0 data.length

theorem isRtcp_ne_reject : isRtcp buf base len ≠ reject := by
  unfold isRtcp
  split_ifs
  · simp
  · exact bind_ne_reject (read_ne_reject _ _) fun _ =>
      bind_ne_reject (read_ne_reject _ _) (by simp)

theorem parseFrom_ne_reject (fuel base len : ℕ) : parseFrom buf fuel base len ≠ reject := by
  induction fuel generalizing base len with
  | zero => simp [parseFrom]
  | succ fuel ih =>
    unfold parseFrom
    split_ifs
    · refine bind_ne_reject (isRtcp_ne_reject) fun ok => ?_
      split_ifs
      · refine bind_ne_reject (readBe_ne_reject _ _ _) fun length => ?_
        simp only
        split_ifs
        · simp
        refine bind_ne_reject (attempt_ne_reject _) fun o => ?_
        cases o with
        | none => simp
        | some packets => exact bind_ne_reject (ih _ _) (by simp)
      · simp
    · simp

/-- **Compound RTCP packets.**  On every byte string the parser ends without a read
outside the string and returns whole sub-packets of it.  All that these packets
point to lies inside their own sub-packets exactly when the items of the VBCM
messages fit. -/
theorem parse_inside_iff (data : List UInt8) :
    ∃ packets, parse data = value packets ∧ (∀ p ∈ packets, p.IsSubPacket data) ∧
      ((∀ p ∈ packets, p.Within) ↔ VbcmItemsFit data) := by
  have h : (parse data).Ensures fun packets => (∀ p ∈ packets, p.IsSubPacket data) ∧
      ((∀ p ∈ packets, p.Within) ↔ VbcmItemsFit data) :=
    ensures_parseFrom (by omega) (by omega)
  exact h.exists_value (parseFrom_ne_reject _ _ _)

/-- A VBCM message of 20 bytes whose only item announces a value of 65535 bytes. -/
private def longVbcm : List UInt8 :=
  [0x87, 206, 0, 4, 0, 0, 0, 1, 0, 0, 0, 2, 0, 0, 0, 3, 1, 96, 255, 255]

theorem longVbcm_not_within :
    ∃ packets, parse longVbcm = value packets ∧ ¬ ∀ p ∈ packets, p.Within := by
  refine ⟨[⟨0, 20, .psfb (.items [.vbcm 12 65535])⟩], by decide +kernel, fun h => ?_⟩
  have hin : (FeedbackItem.vbcm 12 65535).extent.Inside 0 20 :=
    h _ (mem_singleton_self _) _ (mem_singleton_self _)
  exact absurd hin (by decide)

end Packet

end Rtcp

end Mediasoup
