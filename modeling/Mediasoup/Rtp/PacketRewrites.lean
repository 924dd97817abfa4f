/-
What two rewrites leave of a parsed packet.

* `rtx_round_trip` — a packet that is wrapped into a retransmission and taken out of it again is
  the packet without its padding;
* `setExtensions_rewrites` — setting extensions replaces the header extension, and nothing else.
-/
import Mathlib.Tactic.IntervalCases
import Mediasoup.Rtp.WrittenExtensions
import Mediasoup.Rtp.Mangle

open List Option Bytes Checked Slices

namespace Mediasoup

namespace RtpPacket

variable {mem mem' : List UInt8} {packet : RtpPacket} {es : List GenericExtension}
  {type : ExtensionType} {id ptr : ℕ}

/-! ### Retransmissions -/

def getSsrc (mem : List UInt8) : Checked ℕ := readBe mem 4 8

theorem payloadType_restored (byte : UInt8) (payloadType : ℕ) :
    (byte &&& 0x80 ||| UInt8.ofNat (payloadType % 128)) &&& 0x80 |||
      UInt8.ofNat (bits byte 0 7 % 128) = byte := by
  have hlow : ∀ n : Fin 128, UInt8.ofNat n &&& 0x80 = 0 := by decide +kernel
  have hmarker : (byte &&& 0x80 ||| UInt8.ofNat (payloadType % 128)) &&& 0x80 = byte &&& 0x80 := by
    have hdistrib : ∀ x y : UInt8, (x ||| y) &&& 0x80 = x &&& 0x80 ||| y &&& 0x80 := fun x y =>
      UInt8.eq_of_toBitVec_eq (by simp [BitVec.and_or_distrib_right])
    rw [hdistrib, UInt8.and_assoc, UInt8.and_self,
      hlow ⟨payloadType % 128, Nat.mod_lt _ (by decide)⟩, UInt8.or_zero]
  rw [hmarker]
  exact forall_byte (P := fun byte => byte &&& 0x80 ||| UInt8.ofNat (bits byte 0 7 % 128) = byte)
    (by decide +kernel) byte

theorem toBe32_ssrc {ssrc : ℕ} (h : getSsrc mem = value ssrc) (h12 : 12 ≤ mem.length) :
    toBe32 ssrc = [byteAt mem 8, byteAt mem 9, byteAt mem 10, byteAt mem 11] := by
  simp only [getSsrc, readBe, read_byteAt (show 8 < mem.length by omega),
    read_byteAt (show 9 < mem.length by omega), read_byteAt (show 10 < mem.length by omega),
    read_byteAt (show 11 < mem.length by omega), value_bind, pure_eq, value.injEq] at h
  have h0 := (byteAt mem 8).toNat_lt
  have h1 := (byteAt mem 9).toNat_lt
  have h2 := (byteAt mem 10).toNat_lt
  have h3 := (byteAt mem 11).toNat_lt
  simp only [toBe32, List.cons.injEq, and_true, ← UInt8.toNat_inj, UInt8.toNat_ofNat']
  omega

/-- The packet in the second buffer is that in the first one without its padding: the first byte
has lost the padding bit, and up to the end of the payload all others are the same. -/
structure Unpadded (mem mem' : List UInt8) (packet packet' : RtpPacket) : Prop where
  packet_eq : packet' = { packet with payloadPadding := 0
                                      size := packet.size - packet.payloadPadding }
  first : byteAt mem' 0 = setBit (byteAt mem 0) 5 false
  bytes : ∀ j, 0 < j → j < packet.payload + packet.payloadLength → byteAt mem' j = byteAt mem j
  extensions : ∀ id, packet'.getExtension mem' id = packet.getExtension mem id
  parsed : parse mem' packet'.size = value packet'

/-- **Retransmissions are undone.**  In a buffer with room for the two more bytes, a parsed
packet comes out of its retransmission with the same bytes, and without its padding. -/
theorem rtx_round_trip (mem : List UInt8) (len : ℕ) (packet : RtpPacket)
    (payloadType ssrc rtxPayloadType rtxSsrc rtxSeq : ℕ) (hlen : len ≤ mem.length)
    (hparse : parse mem len = value packet)
    (hroom : packet.payload + packet.payloadLength + 2 ≤ mem.length)
    (htype : getPayloadType mem = value payloadType) (hssrc : getSsrc mem = value ssrc) :
    ∃ mem₁ packet₁ mem₂ packet₂,
      packet.rtxEncode mem rtxPayloadType rtxSsrc rtxSeq = value (mem₁, packet₁) ∧
      packet₁.rtxDecode mem₁ payloadType ssrc = value (some (mem₂, packet₂)) ∧
      Unpadded mem mem₂ packet packet₂ := by
  have h := ((ensures_parse hlen).of_eq hparse).2
  have h12 := h.header_le
  have hsize := h.size
  obtain ⟨⟨mem₁, packet₁⟩, hencode, rfl, hr₁, hseq, hbody₁⟩ :=
    @yields_rtxEncode mem packet rtxPayloadType rtxSsrc rtxSeq h hroom
  have h₁ : (packet.withPayload (packet.payloadLength + 2)).Layout mem₁ := h.rewritten hr₁ hroom
  obtain ⟨_, hdecode, mem₂, rfl, hr₂, hbody₂⟩ :=
    @yields_rtxDecode mem₁ _ payloadType ssrc h₁ (Nat.le_add_left 2 _)
  have hr₂ : Rewritten mem₁ mem₂ packet.payload payloadType ssrc
    [byteAt mem₁ packet.payload, byteAt mem₁ (packet.payload + 1)] := hr₂
  have hbody₂ : ∀ k, k < packet.payloadLength → byteAt mem₂ (packet.payload + k) =
    byteAt mem₁ (packet.payload + 2 + k) := hbody₂
  have h₂ : (packet.withPayload packet.payloadLength).Layout mem₂ :=
    h₁.rewritten hr₂ ((Nat.le_add_right _ 2).trans (hr₁.inner.length_eq ▸ hroom))
  have hinner := hr₁.inner.trans hr₂.inner
  have htype' : payloadType = bits (byteAt mem 1) 0 7 := by
    rw [getPayloadType, read_byteAt (by omega), value_bind] at htype
    exact (value.inj htype).symm
  refine ⟨mem₁, _, mem₂, packet.withPayload packet.payloadLength, hencode, hdecode, ?_, ?_,
    fun j hpos hj => ?_, fun id => ?_, h₂.parse⟩
  · rw [withPayload, RtpPacket.mk.injEq]
    exact ⟨rfl, rfl, rfl, rfl, by omega, rfl, rfl⟩
  · have hclear := setBit_self (setBit (byteAt mem 0) 5 false)
    rw [(bit_setBit _ false).1] at hclear
    rw [hr₂.first, hr₁.first, hclear]
  · -- the fields of the fixed header, what follows it, and the payload
    have hcases : j = 1 ∨ j = 2 ∨ j = 3 ∨ (4 ≤ j ∧ j < 8) ∨ (8 ≤ j ∧ j < 12) ∨
        (12 ≤ j ∧ j < packet.payload) ∨ packet.payload ≤ j := by omega
    rcases hcases with rfl | rfl | rfl | hj' | hj' | hj' | hj'
    · rw [hr₂.payloadType, hr₁.payloadType, htype', payloadType_restored]
    · exact (hr₂.sequenceNumber.byteAt_eq (k := 0) Nat.two_pos).trans
        (hseq.byteAt_eq (k := 0) Nat.two_pos)
    · exact (hr₂.sequenceNumber.byteAt_eq (k := 1) Nat.one_lt_two).trans
        (hseq.byteAt_eq (k := 1) Nat.one_lt_two)
    · rw [hr₂.timestamp.byteAt_eq j hj'.1 hj'.2, hr₁.timestamp.byteAt_eq j hj'.1 hj'.2]
    · have hbytes := hr₂.ssrc
      rw [toBe32_ssrc hssrc (by omega)] at hbytes
      obtain ⟨k, rfl⟩ := Nat.exists_eq_add_of_le hj'.1
      have hk : k < 4 := by omega
      rw [hbytes.byteAt_eq hk]
      interval_cases k <;> rfl
    · exact hinner.byteAt_eq j hj'.1 hj'.2
    · obtain ⟨k, rfl⟩ := Nat.exists_eq_add_of_le hj'
      rw [hbody₂ k (by omega)]
      exact hbody₁ k (by omega)
  · rw [h.getExtension, h₂.getExtension, ← h.extensionAt_congr hinner]
    rfl

/-- A packet with a CSRC, an extension and one byte of padding, in a buffer with one more byte. -/
private def paddedPacket : List UInt8 :=
  [0xb1, 0xe0, 0, 7, 0, 0, 0, 1, 0, 0, 0, 2, 0, 0, 0, 3, 0xbe, 0xde, 0, 1, 0x10, 5, 0, 0, 42, 1, 0]

theorem rtx_round_trip_padded : ∃ packet mem₂ packet₂,
    parse paddedPacket 26 = value packet ∧ Unpadded paddedPacket mem₂ packet packet₂ := by
  have hparse : parse paddedPacket 26 =
      value ⟨some 16, 24, 1, 1, 26, [(1, 20)], []⟩ := by decide +kernel
  obtain ⟨mem₁, packet₁, mem₂, packet₂, -, -, h⟩ := rtx_round_trip paddedPacket 26 _ 96 2 97 9 300
    (by decide) hparse (by decide) (by decide +kernel) (by decide +kernel)
  exact ⟨_, mem₂, packet₂, hparse, h⟩

/-- Without room for them the two more bytes are written behind the buffer. -/
theorem rtxEncode_full_outOfBounds :
    parse [0x80, 96, 0, 7, 0, 0, 0, 1, 0, 0, 0, 2, 42] 13 = value ⟨none, 12, 1, 0, 13, [], []⟩ ∧
      rtxEncode [0x80, 96, 0, 7, 0, 0, 0, 1, 0, 0, 0, 2, 42] ⟨none, 12, 1, 0, 13, [], []⟩
        97 9 300 = outOfBounds := by
  constructor
  · decide +kernel
  · decide +kernel

/-! ### Extensions -/

/-- The value of the last extension with the id; an empty one counts as none. -/
def given (es : List GenericExtension) (id : ℕ) : Option (List UInt8) :=
  ((es.reverse.find? (·.id = id)).map (·.value)).filter (· ≠ [])

theorem lookup_elementsFrom (hvalid : ∀ e ∈ es, e.skipped type = false)
    (h : Holds mem ptr (written type es)) :
    match es.reverse.find? (·.id = id), (elementsFrom type es ptr).lookup id with
    | some e, some pos => e ∈ es ∧ e.id = id ∧ Holds mem pos (e.encode type)
    | none, none => True
    | _, _ => False := by
  induction es generalizing ptr with
  | nil => trivial
  | cons e es ih =>
    have hskip := hvalid e mem_cons_self
    rw [written, hskip] at h
    obtain ⟨hfirst, hrest⟩ := holds_append.mp h
    rw [e.length_encode hskip] at hrest
    have ih := ih (fun e' he' => hvalid e' (mem_cons_of_mem e he')) hrest
    rw [elementsFrom, hskip, reverse_cons, List.find?_append]
    simp only [Bool.false_eq_true, if_false, lookup_append]
    -- the last element with the id wins, here as in the table
    split at ih
    · next hfound hnoted =>
      simp only [hfound, hnoted, some_or]
      exact ⟨mem_cons_of_mem e ih.1, ih.2⟩
    · next hfound hnoted =>
      simp only [hfound, hnoted, none_or, List.find?_cons, lookup_cons]
      by_cases hid : e.id = id
      · simp [hid, hfirst]
      · simp [hid, beq_false_of_ne (Ne.symm hid)]
    · exact ih.elim

/-- The packet in the second buffer is that in the first one with other extensions: the first
byte has the extension bit, the rest of the header and the CSRCs are the same, and so are the
payload and the padding at their new place. -/
structure Reextended (mem mem' : List UInt8) (packet packet' : RtpPacket)
    (es : List GenericExtension) : Prop where
  parsed : parse mem' packet'.size = value packet'
  first : byteAt mem' 0 = setBit (byteAt mem 0) 4 true
  head : AgreeOn mem mem' 1 (csrcEnd mem)
  payloadLength : packet'.payloadLength = packet.payloadLength
  payloadPadding : packet'.payloadPadding = packet.payloadPadding
  body : ∀ j, j < packet.payloadLength + packet.payloadPadding →
    byteAt mem' (packet'.payload + j) = byteAt mem (packet.payload + j)
  absent : ∀ id, given es id = none → packet'.getExtension mem' id = value none
  present : ∀ id bytes, given es id = some bytes →
    ∃ pos, packet'.getExtension mem' id = value (some (pos, bytes.length)) ∧ Holds mem' pos bytes

theorem extensionAt_extended (hvalid : ∀ e ∈ es, e.Typed ∧ e.skipped type = false)
    (he : Extended mem mem' packet type es) (id : ℕ) :
    match given es id with
    | none => (packet.extended type es).extensionAt mem' id = none
    | some bytes => ∃ pos, (packet.extended type es).extensionAt mem' id =
        some (pos, bytes.length) ∧ Holds mem' pos bytes := by
  have hnoted := @lookup_elementsFrom mem' es type id _ (fun e h => (hvalid e h).2)
    (holds_append.mp he.value).1
  split at hnoted
  · next e pos hfound hptr =>
    obtain ⟨hmem, rfl, hholds⟩ := hnoted
    obtain ⟨⟨-, hlength⟩, hskip⟩ := hvalid e hmem
    have hgiven : given es e.id = if e.value = [] then none else some e.value := by
      rw [given, hfound, map_some, filter_some]
      split_ifs <;> simp_all
    -- the length is read back from four bits, plus one, or from its own byte
    have hat : ∃ pos', (packet.extended type es).extensionAt mem' e.id =
        (if e.value = [] then none else some (pos', e.value.length)) ∧
          Holds mem' pos' e.value := by
      cases type with
      | oneByte =>
        obtain ⟨hid, hlen⟩ := skipped_oneByte (by rw [hskip]; decide)
        have hfirst : byteAt mem' pos = _ := hholds.byteAt_eq (k := 0) (Nat.succ_pos _)
        have hbits : bits (byteAt mem' pos) 0 4 + 1 = e.value.length :=
          hfirst ▸ (bits_oneByte hid.2 hlen).2
        refine ⟨pos + 1, ?_, (holds_cons.mp hholds).2⟩
        rw [if_neg (length_pos_iff.mp hlen.1)]
        simp only [extensionAt, extended, ExtensionType.noted, hptr, hbits]
        rw [if_neg (by omega)]
      | twoBytes =>
        have hid : e.id ≠ 0 := by simpa [GenericExtension.skipped] using hskip
        have hsecond : byteAt mem' (pos + 1) = UInt8.ofNat e.value.length :=
          hholds.byteAt_eq (k := 1) (Nat.succ_lt_succ (Nat.succ_pos _))
        have hnat : (UInt8.ofNat e.value.length).toNat = e.value.length := by
          rw [UInt8.toNat_ofNat', Nat.mod_eq_of_lt hlength]
        have hzero : UInt8.ofNat e.value.length = 0 ↔ e.value = [] := by
          rw [← UInt8.toNat_inj, hnat]
          exact length_eq_zero_iff
        refine ⟨pos + 2, ?_, (holds_cons.mp (holds_cons.mp hholds).2).2⟩
        simp [extensionAt, extended, ExtensionType.noted, hptr, hsecond, hnat, hzero, hid]
    obtain ⟨pos', hat, hvalue⟩ := hat
    rw [hgiven, hat]
    by_cases hempty : e.value = []
    · simp only [if_pos hempty]
    · simp only [if_neg hempty]
      exact ⟨pos', rfl, hvalue⟩
  · next hfound hptr =>
    have hgiven : given es id = none := by rw [given, hfound]; rfl
    rw [hgiven]
    cases type <;> simp [extensionAt, extended, ExtensionType.noted, hptr]
  · exact hnoted.elim

/-- **Setting extensions** that the buffer and the distances can hold rewrites the header
extension, and leaves everything else as it is. -/
theorem setExtensions_rewrites (mem : List UInt8) (len : ℕ) (packet : RtpPacket)
    (type : ExtensionType) (es : List GenericExtension) (hlen : len ≤ mem.length)
    (hparse : parse mem len = value packet) (hvalid : ∀ e ∈ es, e.Typed ∧ e.skipped type = false)
    (hfits : packet.CanHold mem (extensionsTotalSize type es)) :
    (packet.setExtensions mem type es).Yields fun r => Reextended mem r.1 packet r.2 es := by
  have h := ((ensures_parse hlen).of_eq hparse).2
  obtain ⟨⟨mem', _⟩, hset, rfl, he⟩ := yields_setExtensions h hfits
  have h' := h.extended (fun e hmem => (hvalid e hmem).1) hfits he
  refine ⟨_, hset, h'.parse, he.first, h.extensionPos_eq ▸ he.head, rfl, rfl, he.body, ?_, ?_⟩
  · intro id hgiven
    have hat := extensionAt_extended hvalid he id
    rw [hgiven] at hat
    rw [h'.getExtension, hat]
  · intro id bytes hgiven
    have hat := extensionAt_extended hvalid he id
    rw [hgiven] at hat
    obtain ⟨pos, hpos, hholds⟩ := hat
    exact ⟨pos, by rw [h'.getExtension, hpos], hholds⟩

theorem setExtensions_rewrites_padded : ∃ packet, parse paddedPacket 26 = value packet ∧
    (packet.setExtensions paddedPacket .oneByte [⟨1, [9]⟩, ⟨2, [7]⟩]).Yields fun r =>
      Reextended paddedPacket r.1 packet r.2 [⟨1, [9]⟩, ⟨2, [7]⟩] := by
  have hparse : parse paddedPacket 26 =
      value ⟨some 16, 24, 1, 1, 26, [(1, 20)], []⟩ := by decide +kernel
  exact ⟨_, hparse, setExtensions_rewrites paddedPacket 26 _ .oneByte _ (by decide) hparse
    (by decide) (by decide)⟩

/-- An empty Two-Bytes value is written, and not returned. -/
theorem emptyValue_absent : ∃ packet, parse paddedPacket 26 = value packet ∧
    (packet.setExtensions paddedPacket .twoBytes [⟨3, []⟩] >>= fun r =>
      r.2.getExtension r.1 3) = value none :=
  ⟨⟨some 16, 24, 1, 1, 26, [(1, 20)], []⟩, by decide +kernel, by decide +kernel⟩

end RtpPacket

end Mediasoup
