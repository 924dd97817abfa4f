/-
Operations on an RTP packet in place, and the copy of a packet into a new buffer.

`SetPayloadLength`, `ShiftPayload`, `RtxEncode` and `RtxDecode` move the bytes of the
payload and adjust the fields of the packet separately; `Clone` copies the packet part by
part.  Each of them keeps the layout that the parser finds (`Layout`).

* `Layout.resize` — the rule for all changes of the payload: the bytes in front of it stay,
  the padding bit and the last byte fit the new padding;
* `Layout.copied` — the rule for the copy.
-/
import Mediasoup.Rtp.PacketLayout

open List Bytes Checked Slices

namespace Mediasoup

namespace RtpPacket

/-! ### The first byte -/

theorem forall_byte {P : UInt8 → Prop} (h : ∀ n : Fin 256, P (UInt8.ofNat n)) (byte : UInt8) :
    P byte := by
  have hbyte := h ⟨byte.toNat, byte.toNat_lt⟩
  rwa [UInt8.ofNat_toNat] at hbyte

/-- The parts of the first byte that neither the padding nor the extension bit is in. -/
structure SameHead (first first' : UInt8) : Prop where
  version : (127 < first ∧ first < 192) ∧ bits first 6 2 = 2 →
    (127 < first' ∧ first' < 192) ∧ bits first' 6 2 = 2
  csrcCount : bits first' 0 4 = bits first 0 4

theorem sameHead_setBit (first : UInt8) (flag : Bool) :
    SameHead first (setBit first 5 flag) ∧ SameHead first (setBit first 4 flag) := by
  have hall := forall_byte (P := fun byte =>
      ((((127 < byte ∧ byte < 192) ∧ bits byte 6 2 = 2) →
        (127 < setBit byte 5 flag ∧ setBit byte 5 flag < 192) ∧
          bits (setBit byte 5 flag) 6 2 = 2) ∧ bits (setBit byte 5 flag) 0 4 = bits byte 0 4) ∧
      ((((127 < byte ∧ byte < 192) ∧ bits byte 6 2 = 2) →
        (127 < setBit byte 4 flag ∧ setBit byte 4 flag < 192) ∧
          bits (setBit byte 4 flag) 6 2 = 2) ∧ bits (setBit byte 4 flag) 0 4 = bits byte 0 4))
    (by cases flag <;> decide +kernel) first
  exact ⟨⟨hall.1.1, hall.1.2⟩, ⟨hall.2.1, hall.2.2⟩⟩

theorem bit_setBit (first : UInt8) (flag : Bool) :
    bit (setBit first 5 flag) 5 = flag ∧ bit (setBit first 5 flag) 4 = bit first 4 ∧
      bit (setBit first 4 flag) 4 = flag ∧ bit (setBit first 4 flag) 5 = bit first 5 :=
  forall_byte (P := fun byte => bit (setBit byte 5 flag) 5 = flag ∧
      bit (setBit byte 5 flag) 4 = bit byte 4 ∧ bit (setBit byte 4 flag) 4 = flag ∧
      bit (setBit byte 4 flag) 5 = bit byte 5)
    (by cases flag <;> decide +kernel) first

theorem setBit_self (first : UInt8) : setBit first 5 (bit first 5) = first :=
  forall_byte (P := fun byte => setBit byte 5 (bit byte 5) = byte) (by decide +kernel) first

/-! ### Changes of the payload -/

variable {mem mem' buffer : List UInt8} {packet : RtpPacket} {payload : ℕ} {new : CloneBuffer}

/-- **The payload changes.**  Between the fixed header and the payload nothing does, and
the padding bit and the last byte tell the new padding. -/
theorem Layout.resize (h : packet.Layout mem) {payloadLength payloadPadding size : ℕ}
    (hsize : packet.payload + payloadLength + payloadPadding = size) (hle : size ≤ mem'.length)
    (hsame : SameReads mem mem' rtpHeaderSize packet.payload)
    (hfirst : byteAt mem' 0 = setBit (byteAt mem 0) 5 (decide (payloadPadding ≠ 0)))
    (hlast : payloadPadding ≠ 0 → (byteAt mem' (size - 1)).toNat = payloadPadding) :
    ({ packet with payloadLength, payloadPadding, size } : RtpPacket).Layout mem' := by
  obtain ⟨hhead, -⟩ := sameHead_setBit (byteAt mem 0) (decide (payloadPadding ≠ 0))
  obtain ⟨hpadding, hextension, -⟩ := bit_setBit (byteAt mem 0) (decide (payloadPadding ≠ 0))
  rw [← hfirst] at hhead hpadding hextension
  -- only the padding bit of the first byte changes, so the header stays in place
  have hcsrc : csrcEnd mem' = csrcEnd mem := by rw [csrcEnd, csrcEnd, hhead.csrcCount]
  have hpay := h.payload
  have hpos : ∀ pos, packet.headerExtension = some pos →
      rtpHeaderSize ≤ pos ∧ pos + 4 + be16 mem (pos + 2) * 4 = packet.payload := by
    intro pos hpos
    obtain ⟨rfl, hend⟩ := h.extension hpos
    exact ⟨Nat.le_add_right _ _, hend⟩
  have hmem := h.size_le
  have hpayload := h.payload_le
  refine
    { size_le := hle, version := hhead.version h.version, size := hsize, padded := hpadding
      padding := hlast, noElements := h.noElements, headerExtension := ?_, payload := ?_
      elements := ?_ }
  · rw [hextension, hcsrc]
    exact h.headerExtension
  · show packet.payload = csrcEnd mem' + packet.headerExtensionSize mem'
    rw [hcsrc, hpay, headerExtensionSize, headerExtensionSize]
    cases hext : packet.headerExtension with
    | none => rfl
    | some pos =>
      obtain ⟨h12, hend⟩ := hpos pos hext
      simp only [hsame.be16_eq (i := pos + 2) (by omega) (by omega) (by omega)]
  · intro pos hext
    obtain ⟨h12, hend⟩ := hpos pos hext
    rw [elementsAt_congr (by omega) (hsame.mono h12 hend.le)]
    exact h.elements pos hext

theorem yields_setPayloadPaddingFlag {flag : Bool} (h : 12 ≤ mem.length) :
    (setPayloadPaddingFlag mem flag).Yields fun mem' =>
      byteAt mem' 0 = setBit (byteAt mem 0) 5 flag ∧ SameOutside mem mem' 0 1 := by
  rw [setPayloadPaddingFlag, read_byteAt (by omega), value_bind]
  obtain ⟨mem', hmem', hholds, hout⟩ :=
    @yields_store_bytes mem 0 [setBit (byteAt mem 0) 5 flag] (by rw [length_singleton]; omega)
  exact ⟨mem', hmem', hholds.byteAt_eq (k := 0) Nat.one_pos, hout⟩

theorem Layout.length_pos (h : packet.Layout mem) : 12 ≤ mem.length :=
  h.header_le.trans (h.payload_le.trans h.size_le)

theorem Layout.paddingBit (h : packet.Layout mem) :
    setBit (byteAt mem 0) 5 (decide (packet.payloadPadding ≠ 0)) = byteAt mem 0 := by
  rw [← h.padded, setBit_self]

/-- `SetPayloadLength`: the length is padded to words in `uint16_t`. -/
def setPayloadLength (mem : List UInt8) (packet : RtpPacket) (length : ℕ) :
    Checked (List UInt8 × RtpPacket) := do
  let size := packet.size - packet.payloadLength - packet.payloadPadding + paddedSize length
  let mem ← setPayloadPaddingFlag mem false
  return (mem, { packet with payloadLength := paddedSize length, payloadPadding := 0, size })

theorem yields_setPayloadLength {length : ℕ} (h : packet.Layout mem) :
    (packet.setPayloadLength mem length).Yields fun r =>
      (r.1.length = mem.length ∧ r.2.size = packet.payload + paddedSize length) ∧
        (r.2.size ≤ r.1.length → r.2.Layout r.1) := by
  have hsize := h.size
  refine (yields_setPayloadPaddingFlag h.length_pos).bind fun mem' hmem' => yields_value ?_
  obtain ⟨hbit, hout⟩ := hmem'
  refine ⟨⟨hout.length_eq, by dsimp only; omega⟩, fun hle => ?_⟩
  refine h.resize (by omega) hle (hout.agreeOn (.inl (by decide))).sameReads hbit ?_
  exact fun hne => absurd rfl hne

theorem Layout.moved {mem : List UInt8} {packet : RtpPacket} (h : packet.Layout mem)
    {dst src n payloadLength size : ℕ} (hsrc : src + n = packet.size) (hdst : dst + n = size)
    (hpayload : packet.payload ≤ dst) (hn : packet.payloadPadding ≤ n)
    (hsize : packet.payload + payloadLength + packet.payloadPadding = size)
    (hle : size ≤ mem.length) :
    (memmove mem dst src n).Yields fun mem' => mem'.length = mem.length ∧
      ({ packet with payloadLength, size } : RtpPacket).Layout mem' := by
  have h12 := h.header_le
  have hmem := h.size_le
  obtain ⟨mem', hmove, hmoved, hout⟩ := @yields_memmove_bytes mem dst src n (by omega) (by omega)
  refine ⟨mem', hmove, hout.length_eq, h.resize hsize (hout.length_eq ▸ hle) ?_ ?_ fun h0 => ?_⟩
  · exact (hout.agreeOn (.inr hpayload)).sameReads
  · rw [hout.byteAt_eq 0 (by omega), h.paddingBit]
  · have hlast : size - 1 = dst + (n - 1) := by omega
    have hlast' : src + (n - 1) = packet.size - 1 := by omega
    rw [hlast, hmoved (n - 1) (by omega), hlast', h.padding h0]

/-- The shifted payload is inside the buffer, and what is cut off is inside the payload. -/
def CanShift (mem : List UInt8) (packet : RtpPacket) (payloadOffset shift : ℕ)
    (expand : Bool) : Prop :=
  shift = 0 ∨ payloadOffset < packet.payloadLength ∧
    if expand then packet.size + shift ≤ mem.length
    else shift ≤ packet.payloadLength - payloadOffset

theorem yields_shiftPayload {payloadOffset shift : ℕ} {expand : Bool} (h : packet.Layout mem)
    (hfits : packet.CanShift mem payloadOffset shift expand) :
    (packet.shiftPayload mem payloadOffset shift expand).Yields fun r =>
      (r.1.length = mem.length ∧ (expand = true → packet.payloadLength ≤ r.2.payloadLength)) ∧
        r.2.Layout r.1 := by
  have hsize := h.size
  have hle := h.size_le
  refine .ite (fun _ => yields_value ⟨⟨rfl, fun _ => le_rfl⟩, h⟩) fun h0 => ?_
  obtain ⟨hoffset, hroom⟩ := hfits.resolve_left h0
  refine (yields_require hoffset).bind fun _ _ => .ite (fun hexpand => ?_) fun hexpand => ?_
  · -- growing moves the tail up, shrinking moves it down
    rw [if_pos hexpand] at hroom
    have hmoved := @Layout.moved mem packet h (packet.payload + payloadOffset + shift)
      (packet.payload + payloadOffset)
      (packet.payloadLength + packet.payloadPadding - payloadOffset)
      (packet.payloadLength + shift) (packet.size + shift)
      (by omega) (by omega) (by omega) (by omega) (by omega) hroom
    exact hmoved.bind fun mem' hmem' =>
      yields_value ⟨⟨hmem'.1, fun _ => Nat.le_add_right _ _⟩, hmem'.2⟩
  · rw [if_neg hexpand] at hroom
    refine (yields_require hroom).bind fun _ _ => ?_
    have hmoved := @Layout.moved mem packet h (packet.payload + payloadOffset)
      (packet.payload + payloadOffset + shift)
      (packet.payloadLength + packet.payloadPadding - payloadOffset - shift)
      (packet.payloadLength - shift) (packet.size - shift)
      (by omega) (by omega) (by omega) (by omega) (by omega) (by omega)
    exact hmoved.bind fun mem' hmem' =>
      yields_value ⟨⟨hmem'.1, fun h => absurd h hexpand⟩, hmem'.2⟩

theorem canShift_of_shiftPayload {payloadOffset shift : ℕ} {expand : Bool} (h : packet.Layout mem) :
    (packet.shiftPayload mem payloadOffset shift expand).Returns fun _ =>
      packet.CanShift mem payloadOffset shift expand := by
  have hsize := h.size
  have hle := h.size_le
  refine .ite (fun h0 => returns_value (.inl h0)) fun _ => ?_
  refine returns_require.bind fun _ hoffset => .ite (fun hexpand => ?_) fun hexpand => ?_
  · intro r hr
    obtain ⟨mem', hmove, -⟩ := bind_eq_value.mp hr
    refine .inr ⟨hoffset, ?_⟩
    have hsrc : packet.payload + payloadOffset +
        (packet.payloadLength + packet.payloadPadding - payloadOffset) ≤ mem.length := by omega
    have hroom := (safe_memmove_iff hsrc).mp (hmove.symm ▸ safe_value mem')
    rw [if_pos hexpand]
    omega
  · refine returns_require.bind fun _ hshift => (returns_any _).bind fun _ _ => ?_
    exact returns_value (.inr ⟨hoffset, by rwa [if_neg hexpand]⟩)

theorem Layout.store {i : ℕ} {bytes : List UInt8} (h : packet.Layout mem) (hlo : packet.payload ≤ i)
    (hhi : i + bytes.length ≤ packet.payload + packet.payloadLength) :
    (Checked.store mem i bytes).Yields fun mem' =>
      mem'.length = mem.length ∧ packet.Layout mem' := by
  have hsize := h.size
  have hle := h.size_le
  have h12 := h.header_le
  obtain ⟨mem', hmem', -, hout⟩ := @yields_store_bytes mem i bytes (by omega)
  refine ⟨mem', hmem', hout.length_eq, ?_⟩
  refine h.resize hsize (hout.length_eq ▸ hle) (hout.agreeOn (.inr hlo)).sameReads ?_ fun h0 => ?_
  · rw [hout.byteAt_eq 0 (by omega), h.paddingBit]
  · rw [hout.byteAt_eq _ (by omega)]
    exact h.padding h0

def setSequenceNumber (mem : List UInt8) (seq : ℕ) : Checked (List UInt8) :=
  store mem 2 (toBe16 seq)

/-- `RtxEncode`: turn the packet into a retransmission. -/
def rtxEncode (mem : List UInt8) (packet : RtpPacket) (payloadType ssrc seq : ℕ) :
    Checked (List UInt8 × RtpPacket) := do
  let mem ← setPayloadType mem payloadType
  let mem ← setSsrc mem ssrc
  let mem ← memmove mem ((packet.payload + 2 : ℕ) : ℤ) packet.payload packet.payloadLength
  let sequenceNumber ← load mem 2 2
  let mem ← store mem packet.payload sequenceNumber
  let mem ← setSequenceNumber mem seq
  let packet := { packet with
    payloadLength := packet.payloadLength + 2, size := packet.size + 2 }
  if packet.payloadPadding ≠ 0 then do
    let mem ← setPayloadPaddingFlag mem false
    return (mem, { packet with
      size := packet.size - packet.payloadPadding, payloadPadding := 0 })
  else return (mem, packet)

/-- The packet without padding, with a payload of another length. -/
def withPayload (packet : RtpPacket) (payloadLength : ℕ) : RtpPacket :=
  { packet with payloadLength, payloadPadding := 0, size := packet.payload + payloadLength }

/-- The fixed header is rewritten, and the bytes between it and the payload are the same. -/
structure Rewritten (mem mem' : List UInt8) (payload payloadType ssrc : ℕ)
    (sequenceNumber : List UInt8) : Prop where
  first : byteAt mem' 0 = setBit (byteAt mem 0) 5 false
  payloadType : byteAt mem' 1 = byteAt mem 1 &&& 0x80 ||| UInt8.ofNat (payloadType % 128)
  sequenceNumber : Holds mem' 2 sequenceNumber
  timestamp : AgreeOn mem mem' 4 8
  ssrc : Holds mem' 8 (toBe32 ssrc)
  inner : AgreeOn mem mem' rtpHeaderSize payload

variable {payloadType ssrc : ℕ}

theorem Layout.rewritten {payloadLength : ℕ} {sequenceNumber : List UInt8}
    (h : packet.Layout mem) (hr : Rewritten mem mem' packet.payload payloadType ssrc sequenceNumber)
    (hle : packet.payload + payloadLength ≤ mem.length) :
    (packet.withPayload payloadLength).Layout mem' :=
  h.resize rfl (hr.inner.length_eq ▸ hle) hr.inner.sameReads hr.first fun hne => absurd rfl hne

theorem yields_setPayloadType {payloadType : ℕ} (h : 12 ≤ mem.length) :
    (setPayloadType mem payloadType).Yields fun mem' =>
      byteAt mem' 1 = byteAt mem 1 &&& 0x80 ||| UInt8.ofNat (payloadType % 128) ∧
        SameOutside mem mem' 1 1 := by
  rw [setPayloadType, read_byteAt (by omega), value_bind]
  obtain ⟨mem', hmem', hholds, hout⟩ := @yields_store_bytes mem 1
    [byteAt mem 1 &&& 0x80 ||| UInt8.ofNat (payloadType % 128)]
    (by rw [length_singleton]; omega)
  exact ⟨mem', hmem', hholds.byteAt_eq (k := 0) Nat.one_pos, hout⟩

theorem yields_setSsrc {ssrc : ℕ} (h : 12 ≤ mem.length) :
    (setSsrc mem ssrc).Yields fun mem' => Holds mem' 8 (toBe32 ssrc) ∧ SameOutside mem mem' 8 4 :=
  yields_store_bytes h

theorem Layout.clearPadding (h : packet.Layout mem) (hlen : mem'.length = mem.length)
    (hfirst : byteAt mem' 0 = byteAt mem 0) :
    (if packet.payloadPadding ≠ 0 then setPayloadPaddingFlag mem' false else value mem').Yields
      fun mem'' => byteAt mem'' 0 = setBit (byteAt mem 0) 5 false ∧ SameOutside mem' mem'' 0 1 := by
  refine .ite (fun _ => ?_) fun h0 => yields_value ⟨?_, rfl, fun _ _ => rfl⟩
  · rw [← hfirst]
    exact yields_setPayloadPaddingFlag (hlen ▸ h.length_pos)
  · have hbit := h.paddingBit
    rw [not_not.mp h0] at hbit
    exact hfirst.trans hbit.symm

theorem yields_rtxEncode {payloadType ssrc seq : ℕ} (h : packet.Layout mem)
    (hroom : packet.payload + packet.payloadLength + 2 ≤ mem.length) :
    (packet.rtxEncode mem payloadType ssrc seq).Yields fun r =>
      r.2 = packet.withPayload (packet.payloadLength + 2) ∧
        Rewritten mem r.1 packet.payload payloadType ssrc (toBe16 seq) ∧
        Holds r.1 packet.payload [byteAt mem 2, byteAt mem 3] ∧ ∀ k, k < packet.payloadLength →
          byteAt r.1 (packet.payload + 2 + k) = byteAt mem (packet.payload + k) := by
  have h12 := h.header_le
  have hsize := h.size
  refine (yields_setPayloadType h.length_pos).bind fun mem₁ h₁ => ?_
  obtain ⟨htype, ho₁⟩ := h₁
  have hl₁ := ho₁.length_eq
  refine (yields_setSsrc (by omega)).bind fun mem₂ h₂ => ?_
  obtain ⟨hssrc, ho₂⟩ := h₂
  have hl₂ := ho₂.length_eq
  refine (yields_memmove_bytes (by omega) (by omega)).bind fun mem₃ h₃ => ?_
  obtain ⟨hmoved, ho₃⟩ := h₃
  have hl₃ := ho₃.length_eq
  -- the fixed header and what follows it, up to the payload
  have hkeep : ∀ j, j < packet.payload → j ≠ 1 → j < 8 ∨ 12 ≤ j →
      byteAt mem₃ j = byteAt mem j := by
    intro j hj hne hssrc
    rw [ho₃.byteAt_eq j (by omega), ho₂.byteAt_eq j (by omega), ho₁.byteAt_eq j (by omega)]
  rw [load_two (by omega), value_bind, hkeep 2 (by omega) (by omega) (by omega),
    hkeep 3 (by omega) (by omega) (by omega)]
  refine (yields_store_bytes (by simp only [length_cons, length_nil]; omega)).bind
    fun mem₄ h₄ => ?_
  obtain ⟨hseq, ho₄⟩ := h₄
  have hl₄ := ho₄.length_eq
  have hroom₅ : 2 + (toBe16 seq).length ≤ mem₄.length := by rw [length_toBe16]; omega
  refine (yields_store_bytes hroom₅).bind fun mem₅ h₅ => ?_
  obtain ⟨hnew, ho₅⟩ := h₅
  rw [length_toBe16] at ho₅
  have hl₅ := ho₅.length_eq
  have hzero : byteAt mem₅ 0 = byteAt mem 0 := by
    rw [ho₅.byteAt_eq 0 (by omega), ho₄.byteAt_eq 0 (by omega),
      hkeep 0 (by omega) (by omega) (by omega)]
  obtain ⟨mem₆, hmem₆, hfirst, ho₆⟩ := h.clearPadding (by omega) hzero
  have hbehind : ∀ j, 4 ≤ j → byteAt mem₆ j = byteAt mem₄ j := fun j hj =>
    (ho₆.byteAt_eq j (by omega)).trans (ho₅.byteAt_eq j (by omega))
  have hlen : mem₆.length = mem.length := by rw [ho₆.length_eq]; omega
  have hinner : ∀ j, 4 ≤ j → j < 8 ∨ 12 ≤ j → j < packet.payload →
      byteAt mem₆ j = byteAt mem j := by
    intro j h4 hssrc hj
    rw [hbehind j h4, ho₄.byteAt_eq j (by omega), hkeep j hj (by omega) hssrc]
  have hresult : Rewritten mem mem₆ packet.payload payloadType ssrc (toBe16 seq) ∧
      Holds mem₆ packet.payload [byteAt mem 2, byteAt mem 3] ∧
      ∀ k, k < packet.payloadLength →
        byteAt mem₆ (packet.payload + 2 + k) = byteAt mem (packet.payload + k) := by
    refine ⟨⟨hfirst, ?_, ?_, ⟨hlen, fun j h4 h8 => hinner j h4 (by omega) (by omega)⟩, ?_,
      ⟨hlen, fun j h12' hj => ?_⟩⟩, ?_, fun k hk => ?_⟩
    · rw [ho₆.byteAt_eq 1 (by omega), ho₅.byteAt_eq 1 (by omega), ho₄.byteAt_eq 1 (by omega),
        ho₃.byteAt_eq 1 (by omega), ho₂.byteAt_eq 1 (by omega), htype]
    · exact hnew.of_agreeOn (ho₆.agreeOn (.inl le_rfl)) (by omega) le_rfl
    · refine hssrc.of_agreeOn (⟨by omega, fun j h8 hj => ?_⟩ : AgreeOn mem₂ mem₆ 8 12) le_rfl le_rfl
      rw [hbehind j (by omega), ho₄.byteAt_eq j (by omega), ho₃.byteAt_eq j (by omega)]
    · have h12'' : 12 ≤ j := h12'
      exact hinner j (by omega) (by omega) hj
    · refine hseq.of_agreeOn (⟨by omega, fun j hj _ => hbehind j hj⟩ : AgreeOn mem₄ mem₆ 4
        (packet.payload + 2)) (by omega) le_rfl
    · rw [hbehind _ (by omega), ho₄.byteAt_eq _ (Or.inr (by simp)), hmoved k hk,
        ho₂.byteAt_eq _ (by omega), ho₁.byteAt_eq _ (by omega)]
  by_cases h0 : packet.payloadPadding ≠ 0
  · rw [if_pos h0] at hmem₆ ⊢
    rw [hmem₆]
    refine yields_value ⟨?_, hresult⟩
    rw [withPayload, RtpPacket.mk.injEq]
    exact ⟨rfl, rfl, rfl, rfl, by dsimp only; omega, rfl, rfl⟩
  · rw [if_neg h0] at hmem₆ ⊢
    obtain rfl := value.inj hmem₆
    refine yields_value ⟨?_, hresult⟩
    rw [withPayload, RtpPacket.mk.injEq]
    exact ⟨rfl, rfl, rfl, by omega, by omega, rfl, rfl⟩

theorem yields_rtxDecode {payloadType ssrc : ℕ} (h : packet.Layout mem)
    (htwo : 2 ≤ packet.payloadLength) :
    (packet.rtxDecode mem payloadType ssrc).Yields fun o => ∃ mem',
      o = some (mem', packet.withPayload (packet.payloadLength - 2)) ∧
        Rewritten mem mem' packet.payload payloadType ssrc
          [byteAt mem packet.payload, byteAt mem (packet.payload + 1)] ∧
        ∀ k, k < packet.payloadLength - 2 →
          byteAt mem' (packet.payload + k) = byteAt mem (packet.payload + 2 + k) := by
  have h12 := h.header_le
  have hsize := h.size
  have hle := h.size_le
  rw [rtxDecode, if_neg (by omega)]
  refine (yields_setPayloadType h.length_pos).bind fun mem₁ h₁ => ?_
  obtain ⟨htype, ho₁⟩ := h₁
  have hl₁ := ho₁.length_eq
  rw [load_two (by omega), value_bind, ho₁.byteAt_eq _ (by omega), ho₁.byteAt_eq _ (by omega)]
  refine (yields_store_bytes (by simp only [length_cons, length_nil]; omega)).bind
    fun mem₂ h₂ => ?_
  obtain ⟨hseq, ho₂⟩ := h₂
  have hl₂ := ho₂.length_eq
  refine (yields_setSsrc (by omega)).bind fun mem₃ h₃ => ?_
  obtain ⟨hssrc, ho₃⟩ := h₃
  have hl₃ := ho₃.length_eq
  refine (yields_memmove_bytes (by omega) (by omega)).bind fun mem₄ h₄ => ?_
  obtain ⟨hmoved, ho₄⟩ := h₄
  have hl₄ := ho₄.length_eq
  simp only [length_cons, length_nil] at ho₂
  -- the three header writes touch the type, the number and the ssrc only
  have hkeep : ∀ j, j ≠ 1 → j < 2 ∨ 4 ≤ j → j < 8 ∨ 12 ≤ j →
      byteAt mem₃ j = byteAt mem j := by
    intro j hne hseq hssrc
    rw [ho₃.byteAt_eq j (by omega), ho₂.byteAt_eq j (by omega), ho₁.byteAt_eq j (by omega)]
  have hzero : byteAt mem₄ 0 = byteAt mem 0 := by
    rw [ho₄.byteAt_eq 0 (by omega), hkeep 0 (by omega) (by omega) (by omega)]
  obtain ⟨mem₅, hmem₅, hfirst, ho₅⟩ := h.clearPadding (by omega) hzero
  have hlen : mem₅.length = mem.length := by rw [ho₅.length_eq]; omega
  have hbefore : ∀ j, 1 ≤ j → j < packet.payload → byteAt mem₅ j = byteAt mem₃ j :=
    fun j hj hpayload => (ho₅.byteAt_eq j (by omega)).trans (ho₄.byteAt_eq j (by omega))
  have hinner : ∀ j, 4 ≤ j → j < 8 ∨ 12 ≤ j → j < packet.payload →
      byteAt mem₅ j = byteAt mem j := fun j h4 hssrc hj =>
    (hbefore j (by omega) hj).trans (hkeep j (by omega) (by omega) hssrc)
  have hfront : AgreeOn mem₃ mem₅ 1 packet.payload := ⟨by omega, hbefore⟩
  have hresult : Rewritten mem mem₅ packet.payload payloadType ssrc
        [byteAt mem packet.payload, byteAt mem (packet.payload + 1)] ∧
      ∀ k, k < packet.payloadLength - 2 →
        byteAt mem₅ (packet.payload + k) = byteAt mem (packet.payload + 2 + k) := by
    refine ⟨⟨hfirst, ?_, ?_, ⟨hlen, fun j h4 h8 => hinner j h4 (by omega) (by omega)⟩, ?_,
      ⟨hlen, fun j h12' hj => ?_⟩⟩, fun k hk => ?_⟩
    · rw [hbefore 1 le_rfl (by omega), ho₃.byteAt_eq 1 (by omega), ho₂.byteAt_eq 1 (by omega),
        htype]
    · exact (hseq.of_agreeOn (ho₃.agreeOn (.inr (by simp))) (Nat.zero_le _) le_rfl).of_agreeOn
        hfront (by omega) (by simp only [length_cons, length_nil]; omega)
    · exact hssrc.of_agreeOn hfront (by omega) h12
    · have h12'' : 12 ≤ j := h12'
      exact hinner j (by omega) (by omega) hj
    · rw [ho₅.byteAt_eq _ (by omega), hmoved k hk, hkeep _ (by omega) (by omega) (by omega)]
  by_cases h0 : packet.payloadPadding ≠ 0
  · rw [if_pos h0] at hmem₅ ⊢
    rw [hmem₅]
    refine yields_value ⟨mem₅, ?_, hresult⟩
    rw [withPayload]
    congr 3
    dsimp only
    omega
  · rw [if_neg h0] at hmem₅ ⊢
    obtain rfl := value.inj hmem₅
    refine yields_value ⟨mem₄, ?_, hresult⟩
    rw [withPayload]
    congr 3
    · omega
    · omega

/-! ### Copying the packet -/

/-- **The packet is copied** up to the payload, with the last byte of its padding. -/
theorem Layout.copied (h : packet.Layout mem) (hle : packet.size ≤ mem'.length)
    (hsame : SameReads mem mem' 0 packet.payload) (hlast : packet.payloadPadding ≠ 0 →
      (byteAt mem' (packet.size - 1)).toNat = packet.payloadPadding) : packet.Layout mem' := by
  have h12 := h.header_le
  have hlen := h.length_pos
  refine h.resize h.size hle (hsame.mono (Nat.zero_le _) le_rfl) ?_ hlast
  rw [h.paddingBit, hsame.byteAt_eq le_rfl (by omega) (by omega)]

/-- The capacity of the buffer of a copy, `MtuSize + 100`. -/
def cloneCapacity : ℕ := 1600

/-- A new buffer for a copy, with whatever bytes it has. -/
structure CloneBuffer where
  bytes : List UInt8
  length_eq : bytes.length = cloneCapacity

/-- Copy `n` bytes of `mem` from `src` on into another buffer. -/
def memcpy (buffer : List UInt8) (dst : ℕ) (mem : List UInt8) (src n : ℕ) :
    Checked (List UInt8) := do
  let bs ← load mem src n
  store buffer dst bs

/-- Copy the header extension to `ptr`, with the position behind it. -/
def cloneHeaderExtension (mem : List UInt8) (packet : RtpPacket) (buffer : List UInt8)
    (ptr : ℕ) : Checked (List UInt8 × Option ℕ × ℕ) :=
  match packet.headerExtension with
  | none => return (buffer, none, ptr)
  | some pos => do
    let length ← packet.getHeaderExtensionLength mem
    let buffer ← memcpy buffer ptr mem pos (4 + length)
    return (buffer, some ptr, ptr + (4 + length))

/-- Of the padding only the last byte is written. -/
def clonePadding (packet : RtpPacket) (buffer : List UInt8) (ptr : ℕ) : Checked (List UInt8) :=
  if packet.payloadPadding ≠ 0 then
    store buffer (ptr + packet.payloadPadding - 1) [UInt8.ofNat packet.payloadPadding]
  else return buffer

/-- The bytes of the copy, with the positions of its header extension and payload. -/
def cloneBytes (mem : List UInt8) (packet : RtpPacket) (new : CloneBuffer) :
    Checked (List UInt8 × Option ℕ × ℕ) := do
  let buffer ← memcpy new.bytes 0 mem 0 rtpHeaderSize
  let first ← read mem 0
  let csrcListSize := bits first 0 4 * 4
  let buffer ← memcpy buffer rtpHeaderSize mem rtpHeaderSize csrcListSize
  let (buffer, headerExtension, payload) ←
    packet.cloneHeaderExtension mem buffer (rtpHeaderSize + csrcListSize)
  let buffer ← memcpy buffer payload mem packet.payload packet.payloadLength
  let buffer ← packet.clonePadding buffer (payload + packet.payloadLength)
  require (payload + packet.payloadLength + packet.payloadPadding = packet.size)
  return (buffer, headerExtension, payload)

/-- `Clone`, with the constructor. -/
def clone (mem : List UInt8) (packet : RtpPacket) (new : CloneBuffer) :
    Checked (List UInt8 × RtpPacket) := do
  let (buffer, headerExtension, payload) ← packet.cloneBytes mem new
  let copy : RtpPacket :=
    { packet with headerExtension, payload, oneByteExtensions := [], twoBytesExtensions := [] }
  match headerExtension with
  | none => return (buffer, copy)
  | some pos => do
    let copy ← copy.parseExtensions buffer pos
    return (buffer, copy)

theorem yields_memcpy {ptr n : ℕ} (h : SameReads mem buffer 0 ptr) (hsrc : ptr + n ≤ mem.length)
    (hdst : ptr + n ≤ buffer.length) : (memcpy buffer ptr mem ptr n).Yields fun buffer' =>
      buffer'.length = buffer.length ∧ SameReads mem buffer' 0 (ptr + n) := by
  obtain ⟨bs, hload, hlen⟩ := @yields_load mem ptr n (.inr hsrc)
  obtain ⟨-, -, hbytes⟩ := returns_load mem ptr n bs hload
  obtain ⟨buffer', hstore, hholds, hout⟩ := @yields_store_bytes buffer ptr bs (by omega)
  have hbefore : AgreeOn buffer buffer' 0 ptr := hout.agreeOn (.inr le_rfl)
  refine ⟨buffer', by rw [memcpy, hload, value_bind, hstore], hout.length_eq, fun i _ hi => ?_⟩
  by_cases hlt : i < ptr
  · rw [hbefore.read_eq (Nat.zero_le i) hlt, h i (Nat.zero_le i) hlt]
  · obtain ⟨k, rfl⟩ := Nat.exists_eq_add_of_le (not_lt.mp hlt)
    rw [Checked.read, Checked.read, holds_iff_getElem?.mp hholds k (by omega),
      hbytes k (by omega)]

theorem Layout.yields_cloneHeaderExtension (h : packet.Layout mem)
    (hsame : SameReads mem buffer 0 (csrcEnd mem)) (hroom : packet.payload ≤ buffer.length) :
    (packet.cloneHeaderExtension mem buffer (csrcEnd mem)).Yields fun r =>
      (r.1.length = buffer.length ∧ SameReads mem r.1 0 packet.payload) ∧
        r.2 = (packet.headerExtension, packet.payload) := by
  have hpay := h.payload
  have hle := h.payload_le.trans h.size_le
  unfold cloneHeaderExtension getHeaderExtensionLength
  unfold headerExtensionSize at hpay
  cases hext : packet.headerExtension with
  | none =>
    rw [hext] at hpay
    refine yields_value ⟨⟨rfl, ?_⟩, by rw [hpay]; rfl⟩
    rw [hpay]
    exact hsame
  | some pos =>
    obtain ⟨rfl, hend⟩ := h.extension hext
    simp only [hext] at hpay ⊢
    rw [readBe_be16 (by omega), value_bind]
    refine (yields_memcpy hsame (by omega) (by omega)).bind fun buffer' hbuffer' => yields_value ?_
    rw [← hpay] at hbuffer'
    exact ⟨hbuffer', by rw [hpay]⟩

theorem Layout.padding_lt (h : packet.Layout mem) : packet.payloadPadding < 256 := by
  by_cases h0 : packet.payloadPadding = 0
  · omega
  · rw [← h.padding h0]
    exact UInt8.toNat_lt _

theorem Layout.yields_clonePadding (h : packet.Layout mem) (hroom : packet.size ≤ buffer.length) :
    (packet.clonePadding buffer (packet.payload + packet.payloadLength)).Yields fun buffer' =>
      AgreeOn buffer buffer' 0 (packet.payload + packet.payloadLength) ∧
        (packet.payloadPadding ≠ 0 →
          (byteAt buffer' (packet.size - 1)).toNat = packet.payloadPadding) := by
  have hsize := h.size
  refine .ite (fun h0 => ?_) fun h0 => yields_value ⟨.refl _ _ _, ?_⟩
  · obtain ⟨buffer', hstore, hholds, hout⟩ := @yields_store_bytes buffer
      (packet.payload + packet.payloadLength + packet.payloadPadding - 1)
      [UInt8.ofNat packet.payloadPadding] (by rw [length_singleton]; omega)
    refine ⟨buffer', hstore, hout.agreeOn (.inr (by omega)), fun _ => ?_⟩
    have hbyte := hholds.byteAt_eq (k := 0) Nat.one_pos
    rw [Nat.add_zero, h.size] at hbyte
    rw [hbyte]
    show (UInt8.ofNat packet.payloadPadding).toNat = packet.payloadPadding
    rw [UInt8.toNat_ofNat', Nat.mod_eq_of_lt h.padding_lt]
  · exact fun h1 => absurd h1 h0

/-- The buffer holds a copy of the packet. -/
structure Copy (mem buffer : List UInt8) (packet : RtpPacket) : Prop where
  length_eq : buffer.length = cloneCapacity
  sameReads : SameReads mem buffer 0 (packet.payload + packet.payloadLength)
  last : packet.payloadPadding ≠ 0 →
    (byteAt buffer (packet.size - 1)).toNat = packet.payloadPadding

theorem yields_cloneBytes (h : packet.Layout mem) (hroom : packet.size ≤ cloneCapacity) :
    (packet.cloneBytes mem new).Yields fun r => packet.Copy mem r.1 ∧
      r.2 = (packet.headerExtension, packet.payload) := by
  have hsize := h.size
  have hle := h.size_le
  have hcsrc := h.csrcEnd_le
  have hnew := new.length_eq
  have h12 : rtpHeaderSize ≤ csrcEnd mem := Nat.le_add_right _ _
  have hnone : SameReads mem new.bytes 0 0 := fun i _ hi => absurd hi (Nat.not_lt_zero i)
  -- fixed header, CSRCs, extension, payload and padding, one copy each
  refine (yields_memcpy hnone (by omega) (by omega)).bind fun buffer₁ h₁ => ?_
  rw [read_byteAt (by have := h.length_pos; omega), value_bind]
  rw [Nat.zero_add] at h₁
  have hbits : rtpHeaderSize + bits (byteAt mem 0) 0 4 * 4 = csrcEnd mem := rfl
  refine (yields_memcpy h₁.2 (by omega) (by omega)).bind fun buffer₂ h₂ => ?_
  refine (h.yields_cloneHeaderExtension h₂.2 (by omega)).bind fun r hr => ?_
  obtain ⟨buffer₃, fields⟩ := r
  obtain ⟨⟨hl₃, h₃⟩, rfl⟩ := hr
  simp only at hl₃ h₃ ⊢
  refine (yields_memcpy h₃ (by omega) (by omega)).bind fun buffer₄ h₄ => ?_
  refine (h.yields_clonePadding (by omega)).bind fun buffer₅ h₅ => ?_
  refine (yields_require hsize).bind fun _ _ => yields_value ⟨⟨?_, fun i hlo hhi => ?_, h₅.2⟩, rfl⟩
  · rw [h₅.1.length_eq, h₄.1, hl₃, h₂.1, h₁.1, new.length_eq]
  · rw [h₅.1.read_eq hlo hhi, h₄.2 i hlo hhi]

theorem yields_clone (h : packet.Layout mem) (hroom : packet.size ≤ cloneCapacity) :
    (packet.clone mem new).Yields fun r => r.2 = packet ∧ packet.Copy mem r.1 := by
  have hle := h.payload_le.trans h.size_le
  refine (yields_cloneBytes h hroom).bind fun r hr => ?_
  obtain ⟨buffer, headerExtension, payload⟩ := r
  obtain ⟨hcopy, hfields⟩ := hr
  obtain ⟨rfl, rfl⟩ := Prod.mk.inj hfields
  cases hext : packet.headerExtension with
  | none =>
    obtain ⟨hone, htwo⟩ := h.noElements hext
    refine yields_value ⟨?_, hcopy⟩
    obtain ⟨headerExtension, payload, payloadLength, payloadPadding, size, one, two⟩ := packet
    subst hext hone htwo
    rfl
  | some pos =>
    obtain ⟨-, hend⟩ := h.extension hext
    -- the copy has the extension's bytes, so it has the same elements
    have helements := @elementsAt_congr mem buffer pos (by omega)
      (hcopy.sameReads.mono (Nat.zero_le _) (by omega))
    have hparse := @parseExtensions_bare buffer packet pos hext
    rw [helements, h.elements pos hext, value_bind, RtpPacket.bare, hext] at hparse
    simp only at hparse ⊢
    rw [hparse, value_bind, ← hext]
    exact yields_value ⟨rfl, hcopy⟩

theorem Copy.layout (hcopy : packet.Copy mem buffer) (h : packet.Layout mem)
    (hroom : packet.size ≤ cloneCapacity) : packet.Layout buffer :=
  h.copied (hcopy.length_eq ▸ hroom) (hcopy.sameReads.mono le_rfl (Nat.le_add_right _ _)) hcopy.last

end RtpPacket

end Mediasoup
