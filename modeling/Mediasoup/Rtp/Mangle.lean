/-
How a producer rewrites a received packet in place
(`RTC::Producer::MangleRtpPacket`).

The payload type and the SSRC are mapped, and the header extension is replaced by
one with mediasoup's own extension ids: MID, for video also abs-send-time and the
transport-wide sequence number, and copies of some extensions of the packet.  The
packet may grow, in the buffer it was received in.

* `safe_mangleRtpPacket_iff` — whatever the received packet and the producer's
  settings, all bytes are written inside the buffer exactly when the payload type
  is unknown or the buffer has room for the new extensions.
-/
import Mathlib.Algebra.Order.BigOperators.Group.List
import Mediasoup.Rtp.SetExtensions
import Mediasoup.Rtp.PacketOperations

open List Bytes Checked

namespace Mediasoup

open RtpPacket

inductive MediaKind where
  | audio
  | video

/-- The extension ids of the producer for the extensions that are passed on; `0` if
the producer does not use the extension. -/
structure RtpHeaderExtensionIds where
  absCaptureTime : ℕ
  ssrcAudioLevel : ℕ
  frameMarking07 : ℕ
  frameMarking : ℕ
  videoOrientation : ℕ
  toffset : ℕ

/-- `RtpHeaderExtensionUri::Type`: mediasoup's own extension ids. -/
inductive RtpHeaderExtensionUri where
  | mid
  | absSendTime
  | transportWideCc01
  | frameMarking07
  | frameMarking
  | ssrcAudioLevel
  | videoOrientation
  | toffset
  | absCaptureTime

def RtpHeaderExtensionUri.toId : RtpHeaderExtensionUri → ℕ
  | mid => 1
  | absSendTime => 4
  | transportWideCc01 => 5
  | frameMarking07 => 6
  | frameMarking => 7
  | ssrcAudioLevel => 10
  | videoOrientation => 11
  | toffset => 12
  | absCaptureTime => 13

def midMaxLength : ℕ := 8

/-- Pass on an extension of the packet under mediasoup's id, if the packet has it. -/
def proxyExtension (mem : List UInt8) (packet : RtpPacket) (uri : RtpHeaderExtensionUri)
    (id : ℕ) : Checked (List GenericExtension) := do
  match ← packet.getExtension mem id with
  | none => return []
  | some (pos, len) => do
    let value ← load mem pos len
    return [⟨uri.toId, value⟩]

/-- The extensions of the mangled packet.  Values that are set later are zero. -/
def mangledExtensions (mem : List UInt8) (packet : RtpPacket) (ids : RtpHeaderExtensionIds) :
    MediaKind → Checked (List GenericExtension)
  | .audio => do
    let absCaptureTime ← proxyExtension mem packet .absCaptureTime ids.absCaptureTime
    let ssrcAudioLevel ← proxyExtension mem packet .ssrcAudioLevel ids.ssrcAudioLevel
    return ⟨RtpHeaderExtensionUri.mid.toId, List.replicate midMaxLength 0⟩ ::
      (absCaptureTime ++ ssrcAudioLevel)
  | .video => do
    let absCaptureTime ← proxyExtension mem packet .absCaptureTime ids.absCaptureTime
    let frameMarking07 ← proxyExtension mem packet .frameMarking07 ids.frameMarking07
    let frameMarking ← proxyExtension mem packet .frameMarking ids.frameMarking
    let videoOrientation ← proxyExtension mem packet .videoOrientation ids.videoOrientation
    let toffset ← proxyExtension mem packet .toffset ids.toffset
    return ⟨RtpHeaderExtensionUri.mid.toId, List.replicate midMaxLength 0⟩ ::
      (absCaptureTime ++
        ⟨RtpHeaderExtensionUri.absSendTime.toId, List.replicate 3 0⟩ ::
        ⟨RtpHeaderExtensionUri.transportWideCc01.toId, List.replicate 2 0⟩ ::
        (frameMarking07 ++ frameMarking ++ videoOrientation ++ toffset))

structure ProducerSettings where
  kind : MediaKind
  rtpHeaderExtensionIds : RtpHeaderExtensionIds
  /-- `rtpMapping.codecs`: from received to mapped payload types. -/
  codecs : ℕ → Option ℕ

def getPayloadType (mem : List UInt8) : Checked ℕ := do
  let byte ← read mem 1
  return bits byte 0 7

/-- `none` for an unknown payload type; otherwise the buffer and the packet in it. -/
def mangleRtpPacket (settings : ProducerSettings) (mem : List UInt8) (packet : RtpPacket)
    (mappedSsrc : ℕ) : Checked (Option (List UInt8 × RtpPacket)) := do
  let payloadType ← getPayloadType mem
  match settings.codecs payloadType with
  | none => return none
  | some mappedPayloadType => do
    let mem ← setPayloadType mem mappedPayloadType
    let mem ← setSsrc mem mappedSsrc
    let extensions ← mangledExtensions mem packet settings.rtpHeaderExtensionIds settings.kind
    let result ← packet.setExtensions mem .oneByte extensions
    return some result

/-! ### The buffers packets arrive in -/

inductive InputPath where
  | udp
  | tcp
  | producerSend

/-- The capacity of the buffer that a packet is received in. -/
def InputPath.capacity : InputPath → ℕ
  | udp => 65536
  | tcp => 65536
  | producerSend => 1600

/-- The largest packet that is accepted. -/
def InputPath.maxLen : InputPath → ℕ
  | udp => 65507
  | tcp => 65534
  | producerSend => 1600

/-- The change of `VP8::ProcessRtpPacket`: a second byte for a one-byte picture id. -/
def expandPictureId (mem : List UInt8) (packet : RtpPacket) : Checked (List UInt8 × RtpPacket) := do
  let (mem, packet) ← packet.shiftPayload mem 2 1 true
  let mem ← store mem (packet.payload + 2) [0x80]
  return (mem, packet)

/-- A packet on its way to `MangleRtpPacket`: parsed, perhaps taken out of a
retransmission, and perhaps with a longer picture id. -/
inductive Received (path : InputPath) : List UInt8 → RtpPacket → Prop where
  | parsed {mem : List UInt8} {len : ℕ} {packet : RtpPacket} :
      mem.length = path.capacity → len ≤ path.maxLen → parse mem len = value packet →
      Received path mem packet
  | rtxDecoded {mem mem' : List UInt8} {packet packet' : RtpPacket} {payloadType ssrc : ℕ} :
      Received path mem packet →
      packet.rtxDecode mem payloadType ssrc = value (some (mem', packet')) →
      Received path mem' packet'
  | expanded {mem mem' : List UInt8} {packet packet' : RtpPacket} :
      Received path mem packet → expandPictureId mem packet = value (mem', packet') →
      Received path mem' packet'

variable {mem mem' : List UInt8} {packet : RtpPacket}

theorem returns_expandPictureId (h : packet.Layout mem) :
    (expandPictureId mem packet).Returns fun r => r.1.length = mem.length ∧ r.2.Layout r.1 := by
  intro r hr
  obtain ⟨⟨mem₁, packet₁⟩, hshift, hr⟩ := bind_eq_value.mp hr
  have hfits := canShift_of_shiftPayload h _ hshift
  obtain ⟨⟨hlen, hpayload⟩, hlayout⟩ := (yields_shiftPayload h hfits).returns _ hshift
  have htwo := (hfits.resolve_left (by decide)).1
  have hthree : packet₁.payload + 2 + 1 ≤ packet₁.payload + packet₁.payloadLength := by
    have : packet.payloadLength ≤ packet₁.payloadLength := hpayload rfl
    omega
  obtain ⟨mem₂, hstore, hlen', hlayout'⟩ :=
    @Layout.store _ _ _ [0x80] hlayout (Nat.le_add_right _ 2) hthree
  simp only [hstore, value_bind] at hr
  cases hr
  exact ⟨hlen'.trans hlen, hlayout'⟩

theorem Received.layout {path : InputPath} (h : Received path mem packet) :
    mem.length = path.capacity ∧ packet.Layout mem := by
  induction h with
  | @parsed mem len packet hcap hlen hparse =>
    have hle : len ≤ mem.length := by
      rw [hcap]
      exact hlen.trans (by cases path <;> decide)
    exact ⟨hcap, ((ensures_parse hle).of_eq hparse).2⟩
  | @rtxDecoded mem mem' packet packet' _ _ _ hrtx ih =>
    have hle := ih.2.size_le
    have hsize := ih.2.size
    have htwo : 2 ≤ packet.payloadLength := by
      by_contra hlt
      rw [rtxDecode, if_pos (not_le.mp hlt)] at hrtx
      cases hrtx
    obtain ⟨_, ⟨⟩, hwritten, -⟩ := (yields_rtxDecode ih.2 htwo).returns _ hrtx
    exact ⟨hwritten.inner.length_eq.trans ih.1, ih.2.rewritten hwritten (by omega)⟩
  | expanded _ hexp ih =>
    obtain ⟨hlen, hlayout⟩ := returns_expandPictureId ih.2 _ hexp
    exact ⟨hlen.trans ih.1, hlayout⟩

/-! ### How much a packet grows -/

/-- The ids of the extensions that are passed on. -/
def proxiedIds (ids : RtpHeaderExtensionIds) : MediaKind → List ℕ
  | .audio => [ids.absCaptureTime, ids.ssrcAudioLevel]
  | .video => [ids.absCaptureTime, ids.frameMarking07, ids.frameMarking, ids.videoOrientation,
      ids.toffset]

/-- The bytes of the extension `id` in the mangled packet: none if the packet does
not have it, or has a value of more than 16 bytes. -/
def proxiedSize (mem : List UInt8) (packet : RtpPacket) (id : ℕ) : ℕ :=
  match packet.getExtension mem id with
  | value (some (_, len)) => if len ≤ 16 then 1 + len else 0
  | _ => 0

/-- MID, and for video abs-send-time and the transport-wide sequence number. -/
def ownSize : MediaKind → ℕ
  | .audio => 9
  | .video => 16

/-- The bytes of all extensions in the mangled packet, before padding. -/
def mangledSize (mem : List UInt8) (packet : RtpPacket) (settings : ProducerSettings) : ℕ :=
  ownSize settings.kind +
    ((proxiedIds settings.rtpHeaderExtensionIds settings.kind).map (proxiedSize mem packet)).sum

theorem extensionsTotalSize_append (type : ExtensionType) (es es' : List GenericExtension) :
    extensionsTotalSize type (es ++ es') =
      extensionsTotalSize type es + extensionsTotalSize type es' := by
  simp [extensionsTotalSize]

theorem encodedSize_uri (uri : RtpHeaderExtensionUri) (bytes : List UInt8) (h : 0 < bytes.length) :
    (⟨uri.toId, bytes⟩ : GenericExtension).encodedSize .oneByte =
      if bytes.length ≤ 16 then 1 + bytes.length else 0 := by
  have hid : uri.toId ≠ 0 ∧ ¬ 14 < uri.toId := by
    cases uri <;> decide
  have hskip : (⟨uri.toId, bytes⟩ : GenericExtension).skipped .oneByte =
      decide (16 < bytes.length) := by
    simp only [GenericExtension.skipped, hid.1, hid.2, h.ne', false_or]
  rw [GenericExtension.encodedSize, hskip]
  by_cases h16 : bytes.length ≤ 16
  · simp [h16]
  · simp [h16, Nat.lt_of_not_le h16]

theorem yields_proxyExtension (h : packet.Layout mem) (uri : RtpHeaderExtensionUri) (id : ℕ) :
    (proxyExtension mem packet uri id).Yields fun es =>
      extensionsTotalSize .oneByte es = proxiedSize mem packet id := by
  unfold proxyExtension proxiedSize
  rw [h.getExtension, value_bind]
  cases hat : packet.extensionAt mem id with
  | none => exact yields_value rfl
  | some r =>
    obtain ⟨pos, len⟩ := r
    obtain ⟨hpos, hend⟩ := h.extensionAt_le hat
    have hle := h.payload_le.trans h.size_le
    obtain ⟨bytes, hload, hbytes⟩ := (ensures_load (.inr (by omega))).exists_value
      (load_ne_reject mem pos len)
    simp only [hload, value_bind]
    refine yields_value ?_
    rw [extensionsTotalSize_cons, encodedSize_uri _ _ (by omega), hbytes]
    rfl

theorem yields_mangledExtensions (h : packet.Layout mem) (settings : ProducerSettings) :
    (mangledExtensions mem packet settings.rtpHeaderExtensionIds settings.kind).Yields fun es =>
      extensionsTotalSize .oneByte es = mangledSize mem packet settings := by
  have hproxy := yields_proxyExtension h
  -- the sizes of the extensions that are always there
  have hmid : (⟨RtpHeaderExtensionUri.mid.toId, List.replicate midMaxLength 0⟩ :
      GenericExtension).encodedSize .oneByte = 9 := rfl
  have hast : (⟨RtpHeaderExtensionUri.absSendTime.toId, List.replicate 3 0⟩ :
      GenericExtension).encodedSize .oneByte = 4 := rfl
  have htcc : (⟨RtpHeaderExtensionUri.transportWideCc01.toId, List.replicate 2 0⟩ :
      GenericExtension).encodedSize .oneByte = 3 := rfl
  unfold mangledSize
  cases settings.kind with
  | audio =>
    refine (hproxy _ _).bind fun es₁ h₁ => (hproxy _ _).bind fun es₂ h₂ => yields_value ?_
    rw [extensionsTotalSize_cons, extensionsTotalSize_append, h₁, h₂, hmid]
    simp [ownSize, proxiedIds]
  | video =>
    refine (hproxy _ _).bind fun es₁ h₁ => (hproxy _ _).bind fun es₂ h₂ => ?_
    refine (hproxy _ _).bind fun es₃ h₃ => (hproxy _ _).bind fun es₄ h₄ => ?_
    refine (hproxy _ _).bind fun es₅ h₅ => yields_value ?_
    simp only [extensionsTotalSize_cons, extensionsTotalSize_append, h₁, h₂,
      h₃, h₄, h₅, hmid, hast, htcc, ownSize, proxiedIds, map_cons, map_nil,
      sum_cons, sum_nil]
    omega

theorem proxiedSize_le (id : ℕ) : proxiedSize mem packet id ≤ 17 := by
  unfold proxiedSize
  split
  · split_ifs <;> omega
  · omega

theorem mangledSize_bounds (mem : List UInt8) (packet : RtpPacket) (settings : ProducerSettings) :
    0 < mangledSize mem packet settings ∧ mangledSize mem packet settings ≤ 32000 := by
  have hle : ((proxiedIds settings.rtpHeaderExtensionIds settings.kind).map
      (proxiedSize mem packet)).sum ≤ 5 * 17 := by
    refine (sum_le_card_nsmul _ 17 fun n hn => ?_).trans ?_
    · obtain ⟨id, -, rfl⟩ := mem_map.mp hn
      exact proxiedSize_le id
    · rw [length_map, Nat.nsmul_eq_mul]
      exact Nat.mul_le_mul_right 17 (by cases settings.kind <;> simp [proxiedIds])
  have hown : 0 < ownSize settings.kind ∧ ownSize settings.kind ≤ 16 := by
    cases settings.kind <;> decide
  unfold mangledSize
  omega

theorem mangledSize_congr (h : packet.Layout mem) (h' : packet.Layout mem')
    (hagree : AgreeOn mem mem' rtpHeaderSize packet.payload) (settings : ProducerSettings) :
    mangledSize mem' packet settings = mangledSize mem packet settings := by
  have hsize : proxiedSize mem' packet = proxiedSize mem packet := by
    funext id
    rw [proxiedSize, proxiedSize, h.getExtension, h'.getExtension, h.extensionAt_congr hagree]
  rw [mangledSize, mangledSize, hsize]

theorem roomFor_congr (hv : packet.Framed mem) (h : AgreeOn mem mem' rtpHeaderSize packet.payload)
    (total : ℕ) : packet.RoomFor mem' total ↔ packet.RoomFor mem total := by
  unfold RoomFor
  cases hext : packet.headerExtension with
  | none => simp only [h.length_eq]
  | some pos =>
    obtain ⟨h12, hpay⟩ := hv.extension pos hext
    simp only [h.length_eq, h.be16_eq (i := pos + 2) (by omega) (by omega)]

/-- The packet fits in its buffer after mangling. -/
def FitsMangled (mem : List UInt8) (packet : RtpPacket) (settings : ProducerSettings) : Prop :=
  packet.RoomFor mem ((mangledSize mem packet settings + 3) / 4 * 4)

/-- **Packet expansion.**  For every packet received on any path and every producer,
`MangleRtpPacket` writes only inside the buffer of the packet exactly when it does
not know the payload type or the buffer has room for the new extensions. -/
theorem safe_mangleRtpPacket_iff (path : InputPath) (mem : List UInt8) (packet : RtpPacket)
    (hreceived : Received path mem packet) (settings : ProducerSettings) (mappedSsrc : ℕ) :
    (mangleRtpPacket settings mem packet mappedSsrc).Safe ↔
      settings.codecs (bits (byteAt mem 1) 0 7) = none ∨ FitsMangled mem packet settings := by
  obtain ⟨hlen, hlayout⟩ := hreceived.layout
  have hcap : mem.length ≤ 65536 := by
    rw [hlen]
    cases path <;> decide
  have h12 : 12 ≤ mem.length := hlayout.length_pos
  have hpt : getPayloadType mem = value (bits (byteAt mem 1) 0 7) := by
    rw [getPayloadType, read_byteAt (by omega)]
    rfl
  rw [mangleRtpPacket, hpt, value_bind]
  cases hcodec : settings.codecs (bits (byteAt mem 1) 0 7) with
  | none => exact iff_of_true trivial (.inl rfl)
  | some mapped =>
    -- the writes to the fixed header leave the extensions alone
    obtain ⟨mem₁, hrun₁, -, ho₁⟩ := @yields_setPayloadType mem mapped h12
    obtain ⟨mem₂, hrun₂, -, ho₂⟩ := @yields_setSsrc mem₁ mappedSsrc (ho₁.length_eq ▸ h12)
    have hl₂ := ho₂.length_eq.trans ho₁.length_eq
    have hagree : AgreeOn mem mem₂ rtpHeaderSize packet.payload :=
      (ho₁.agreeOn (.inl (by decide))).trans (ho₂.agreeOn (.inl le_rfl))
    have hsame : ∀ j, j ≠ 1 → j < 8 ∨ 12 ≤ j → byteAt mem₂ j = byteAt mem j := fun j hne hj => by
      rw [ho₂.byteAt_eq j (by omega), ho₁.byteAt_eq j (by omega)]
    have hlayout₂ : packet.Layout mem₂ := by
      refine hlayout.resize hlayout.size (hl₂ ▸ hlayout.size_le) hagree.sameReads ?_ fun h0 => ?_
      · rw [hsame 0 (by omega) (by omega), hlayout.paddingBit]
      · have hsize := hlayout.size
        have hheader := hlayout.header_le
        rw [hsame _ (by omega) (by omega), hlayout.padding h0]
    obtain ⟨es, hes, hsize⟩ := yields_mangledExtensions hlayout₂ settings
    have hbounds := mangledSize_bounds mem₂ packet settings
    have hset := safe_setExtensions_iff hlayout₂.framed (hl₂ ▸ hcap) (hsize ▸ hbounds.1)
      (hsize ▸ hbounds.2)
    rw [hsize, roomFor_congr hlayout.framed hagree, mangledSize_congr hlayout hlayout₂ hagree]
      at hset
    simp only [hrun₁, hrun₂, hes, value_bind, reduceCtorEq, false_or]
    rw [safe_bind_iff, hset]
    exact and_iff_left fun _ _ => trivial

private def sendBuffer : List UInt8 :=
  [0x80, 111, 0, 1, 0, 0, 0, 0, 0, 0, 0, 7] ++ List.replicate 1588 0

/-- An audio producer that knows the payload type 111 and passes on no extension. -/
private def opusProducer : ProducerSettings where
  kind := .audio
  rtpHeaderExtensionIds := ⟨0, 0, 0, 0, 0, 0⟩
  codecs payloadType := if payloadType = 111 then some 100 else none

theorem safe_mangle_smallPacket : ∃ packet, Received .producerSend sendBuffer packet ∧
      (mangleRtpPacket opusProducer sendBuffer packet 5).Safe := by
  have hparse : parse sendBuffer 40 = value ⟨none, 12, 28, 0, 40, [], []⟩ := by decide +kernel
  have hreceived : Received .producerSend sendBuffer ⟨none, 12, 28, 0, 40, [], []⟩ :=
    .parsed (by decide +kernel) (by decide) hparse
  have hfits : FitsMangled sendBuffer ⟨none, 12, 28, 0, 40, [], []⟩ opusProducer := by
    have hlen : sendBuffer.length = 1600 := by decide +kernel
    have hsize : mangledSize sendBuffer ⟨none, 12, 28, 0, 40, [], []⟩ opusProducer = 9 := rfl
    rw [FitsMangled, hsize]
    show 40 + 4 + 12 ≤ sendBuffer.length
    omega
  have hsafe := safe_mangleRtpPacket_iff .producerSend sendBuffer _ hreceived opusProducer 5
  refine ⟨_, hreceived, ?_⟩
  rw [hsafe]
  exact .inr hfits

/-- A packet that fills the buffer has no room for the header extension. -/
theorem mangle_fullPacket_outOfBounds : ∃ packet, Received .producerSend sendBuffer packet ∧
      mangleRtpPacket opusProducer sendBuffer packet 5 = outOfBounds := by
  have hparse : parse sendBuffer 1600 = value ⟨none, 12, 1588, 0, 1600, [], []⟩ := by
    decide +kernel
  exact ⟨_, .parsed (by decide +kernel) (by decide) hparse, by decide +kernel⟩

end Mediasoup
