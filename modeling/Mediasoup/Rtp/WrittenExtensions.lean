/-
The header extension that `RtpPacket::SetExtensions` writes, as the parser finds it.

* `elementsAt_written` — the parser finds exactly the elements that were written, in their
  order, and skips the padding behind them;
* `yields_setExtensions`, `Layout.extended` — setting extensions that the buffer can hold keeps
  the layout of the packet, and its payload is moved by the right distance;
* `canHold_of_setExtensions` — the assertion at the end lets nothing else through.
-/
import Mediasoup.Rtp.PacketOperations
import Mediasoup.Rtp.SetExtensions

open List Bytes Checked Slices

namespace Mediasoup

namespace RtpPacket

/-! ### What is written -/

/-- The id and the length are `uint8_t`s. -/
def GenericExtension.Typed (e : GenericExtension) : Prop := e.id < 256 ∧ e.value.length < 256

instance (e : GenericExtension) : Decidable e.Typed := inferInstanceAs (Decidable (_ ∧ _))

def written (type : ExtensionType) : List GenericExtension → List UInt8
  | [] => []
  | e :: es => if e.skipped type then written type es else e.encode type ++ written type es

/-- The positions of the elements from `ptr` on by id, the last one first. -/
def elementsFrom (type : ExtensionType) : List GenericExtension → ℕ → List (ℕ × ℕ)
  | [], _ => []
  | e :: es, ptr =>
    if e.skipped type then elementsFrom type es ptr
    else elementsFrom type es (ptr + e.encodedSize type) ++ [(e.id, ptr)]

theorem length_written (type : ExtensionType) (es : List GenericExtension) :
    (written type es).length = extensionsTotalSize type es := by
  induction es with
  | nil => rfl
  | cons e es ih =>
    rw [written, extensionsTotalSize_cons]
    split_ifs with hskip
    · rw [e.encodedSize_of_skipped hskip, Nat.zero_add, ih]
    · rw [length_append, e.length_encode (Bool.not_eq_true _ ▸ hskip), ih]

variable {es : List GenericExtension} {mem : List UInt8} {packet : RtpPacket} {type : ExtensionType}
  {extensionEnd fuel ptr k : ℕ}

theorem elementsFrom_of_written_nil (h : written type es = []) : elementsFrom type es ptr = [] := by
  induction es with
  | nil => rfl
  | cons e es ih =>
    rw [written] at h
    rw [elementsFrom]
    split_ifs at h ⊢ with hskip
    · exact ih h
    · exact absurd (append_eq_nil_iff.mp h).1 (e.encode_ne_nil type)

theorem yields_writeExtensions (hroom : ptr + extensionsTotalSize type es ≤ mem.length) :
    (writeExtensions type es mem ptr).Yields fun r =>
      r.2 = (ptr + extensionsTotalSize type es, elementsFrom type es ptr) ∧
      Holds r.1 ptr (written type es) ∧ SameOutside mem r.1 ptr (extensionsTotalSize type es) := by
  induction es generalizing mem ptr with
  | nil => exact yields_value ⟨rfl, nil_prefix, rfl, fun _ _ => rfl⟩
  | cons e es ih =>
    rw [extensionsTotalSize_cons] at hroom ⊢
    rw [written, elementsFrom]
    refine .ite (fun hskip => ?_) fun hskip => ?_
    · rw [e.encodedSize_of_skipped hskip, Nat.zero_add] at hroom ⊢
      rw [if_pos hskip, if_pos hskip]
      exact ih hroom
    · have hlen := e.length_encode (Bool.not_eq_true _ ▸ hskip)
      rw [if_neg hskip, if_neg hskip]
      refine (yields_store_bytes (by omega)).bind fun mem' hstored => ?_
      obtain ⟨hholds, hout⟩ := hstored
      have hl := hout.length_eq
      refine (ih (by omega)).bind fun r hr => yields_value ?_
      obtain ⟨mem'', next, elements⟩ := r
      obtain ⟨hnoted, hrest, hout'⟩ := hr
      obtain ⟨rfl, rfl⟩ := Prod.mk.inj hnoted
      refine ⟨by rw [Nat.add_assoc], holds_append.mpr ⟨?_, hlen ▸ hrest⟩, ?_⟩
      · -- the later elements are written behind this one
        exact hholds.of_agreeOn (hout'.agreeOn (.inr le_rfl)) le_rfl (by rw [hlen])
      · refine ⟨hout'.length_eq.trans hl, fun j hj => ?_⟩
        rw [hout'.byteAt_eq j (by omega), hout.byteAt_eq j (by omega)]

/-! ### What the parser finds -/

theorem skipPadding_zeros (h : Holds mem ptr (List.replicate k 0)) (hend : extensionEnd = ptr + k)
    (hfuel : k < fuel) : skipPadding mem extensionEnd fuel ptr = value extensionEnd := by
  induction k generalizing ptr fuel with
  | zero =>
    obtain ⟨fuel, rfl⟩ := Nat.exists_eq_succ_of_ne_zero (by omega : fuel ≠ 0)
    rw [skipPadding, if_neg (by omega), hend]
    rfl
  | succ k ih =>
    obtain ⟨fuel, rfl⟩ := Nat.exists_eq_succ_of_ne_zero (by omega : fuel ≠ 0)
    rw [replicate_succ] at h
    rw [skipPadding, if_pos (by omega), h.read, value_bind, if_pos rfl]
    exact ih (holds_cons.mp h).2 (by omega) (by omega)

theorem head_written_ne_zero (hes : ∀ e ∈ es, e.Typed) {b : UInt8} {rest : List UInt8}
    (h : written type es = b :: rest) : b ≠ 0 := by
  induction es with
  | nil => cases h
  | cons e es ih =>
    rw [written] at h
    split_ifs at h with hskip
    · exact ih (fun e' he' => hes e' (mem_cons_of_mem e he')) h
    obtain ⟨hid, -⟩ := hes e mem_cons_self
    -- the id stands in the first byte, and it is not 0
    have hb : b.toNat ≠ 0 := by
      cases type with
      | oneByte =>
        simp only [GenericExtension.skipped, decide_eq_true_eq, not_or] at hskip
        obtain rfl := (List.cons.inj h).1
        rw [UInt8.toNat_ofNat']
        omega
      | twoBytes =>
        simp only [GenericExtension.skipped, decide_eq_true_eq] at hskip
        obtain rfl := (List.cons.inj h).1
        rw [UInt8.toNat_ofNat']
        omega
    rintro rfl
    exact hb rfl

theorem skipPadding_written (hes : ∀ e ∈ es, e.Typed)
    (h : Holds mem ptr (written type es ++ List.replicate k 0))
    (hend : extensionEnd = ptr + (written type es).length + k) (hfuel : k < fuel) :
    skipPadding mem extensionEnd fuel ptr =
      value (if written type es = [] then extensionEnd else ptr) := by
  cases hw : written type es with
  | nil =>
    rw [hw, nil_append] at h
    rw [hw] at hend
    rw [if_pos rfl]
    exact skipPadding_zeros h hend hfuel
  | cons b rest =>
    obtain ⟨fuel, rfl⟩ := Nat.exists_eq_succ_of_ne_zero (by omega : fuel ≠ 0)
    have hlen := congrArg List.length hw
    rw [length_cons] at hlen
    rw [hw] at h
    rw [skipPadding, if_pos (by omega), h.read, value_bind, if_neg (head_written_ne_zero hes hw)]
    rfl

/-- What the two loops over the elements have in common. -/
structure ElementLoop (type : ExtensionType) (mem : List UInt8) (extensionEnd : ℕ)
    (parse : ℕ → ℕ → Checked (List (ℕ × ℕ))) : Prop where
  zeros : ∀ {fuel ptr k}, Holds mem ptr (List.replicate k 0) → extensionEnd = ptr + k → k < fuel →
    parse fuel ptr = value []
  element : ∀ {e : GenericExtension} {fuel ptr}, e.Typed → ¬e.skipped type →
    Holds mem ptr (e.encode type) → ptr + e.encodedSize type ≤ extensionEnd →
    parse (fuel + 1) ptr = do
      let next ← skipPadding mem extensionEnd (extensionEnd + 1) (ptr + e.encodedSize type)
      let rest ← parse fuel next
      return rest ++ [(e.id, ptr)]

theorem ElementLoop.parse_written {parse : ℕ → ℕ → Checked (List (ℕ × ℕ))}
    (hloop : ElementLoop type mem extensionEnd parse) (hes : ∀ e ∈ es, e.Typed)
    (h : Holds mem ptr (written type es ++ List.replicate k 0))
    (hend : extensionEnd = ptr + (written type es).length + k)
    (hfuel : (written type es).length + k < fuel) :
    parse fuel ptr = value (elementsFrom type es ptr) := by
  induction es generalizing ptr fuel with
  | nil => exact hloop.zeros h hend (by simpa [written] using hfuel)
  | cons e es ih =>
    have hes' : ∀ e' ∈ es, e'.Typed := fun e' he' => hes e' (mem_cons_of_mem e he')
    rw [written] at h hend hfuel
    rw [elementsFrom]
    by_cases hskip : e.skipped type = true
    · rw [if_pos hskip] at h hend hfuel ⊢
      exact ih hes' h hend hfuel
    rw [if_neg hskip] at h hend hfuel ⊢
    have hencode := e.length_encode (Bool.not_eq_true _ ▸ hskip)
    have hpos := length_pos_iff.mpr (e.encode_ne_nil type)
    rw [hencode] at hpos
    rw [length_append, hencode] at hend hfuel
    rw [append_assoc] at h
    obtain ⟨hfirst, hrest⟩ := holds_append.mp h
    rw [hencode] at hrest
    obtain ⟨fuel, rfl⟩ := Nat.exists_eq_succ_of_ne_zero (by omega : fuel ≠ 0)
    rw [hloop.element (hes e mem_cons_self) hskip hfirst (by omega),
      skipPadding_written hes' hrest (by omega) (by omega), value_bind]
    -- at the end of the elements the parser has skipped the padding
    by_cases hlast : written type es = []
    · rw [if_pos hlast, elementsFrom_of_written_nil hlast,
        @ElementLoop.zeros _ _ _ _ hloop fuel extensionEnd 0 nil_prefix rfl (by omega)]
      rfl
    · rw [if_neg hlast, ih hes' hrest (by omega) (by omega)]
      rfl

theorem skipped_oneByte {e : GenericExtension} (h : ¬e.skipped .oneByte = true) :
    (0 < e.id ∧ e.id ≤ 14) ∧ 0 < e.value.length ∧ e.value.length ≤ 16 := by
  simp only [GenericExtension.skipped, decide_eq_true_eq, not_or] at h
  omega

theorem bits_oneByte {id length : ℕ} (hid : id ≤ 14) (hlength : 0 < length ∧ length ≤ 16) :
    bits (UInt8.ofNat (id * 16 + (length - 1) % 16)) 4 4 = id ∧
      bits (UInt8.ofNat (id * 16 + (length - 1) % 16)) 0 4 + 1 = length := by
  unfold bits
  rw [UInt8.toNat_ofNat', Nat.shiftRight_eq_div_pow, Nat.shiftRight_eq_div_pow]
  omega

theorem parseOneByteExtensions_zeros
    (h : Holds mem ptr (List.replicate k 0)) (hend : extensionEnd = ptr + k) (hfuel : k < fuel) :
    parseOneByteExtensions mem extensionEnd fuel ptr = value [] := by
  obtain ⟨fuel, rfl⟩ := Nat.exists_eq_succ_of_ne_zero (by omega : fuel ≠ 0)
  rw [parseOneByteExtensions]
  by_cases hk : k = 0
  · rw [if_neg (by omega)]
    rfl
  obtain ⟨k, rfl⟩ := Nat.exists_eq_succ_of_ne_zero hk
  obtain ⟨fuel, rfl⟩ := Nat.exists_eq_succ_of_ne_zero (by omega : fuel ≠ 0)
  rw [Nat.succ_eq_add_one, replicate_succ] at h
  have hzero : bits 0 4 4 = 0 := by decide
  rw [if_pos (by omega), h.read, value_bind, hzero, if_neg (by decide), if_pos rfl,
    skipPadding_zeros (holds_cons.mp h).2 (by omega) (by omega), value_bind,
    parseOneByteExtensions, if_neg (by omega)]
  rfl

theorem elementLoop_oneByte :
    ElementLoop .oneByte mem extensionEnd (parseOneByteExtensions mem extensionEnd) := by
  refine ⟨parseOneByteExtensions_zeros, fun {e fuel ptr} _ hskip hfirst hroom => ?_⟩
  obtain ⟨hid, hlength⟩ := skipped_oneByte hskip
  obtain ⟨hbitsId, hbitsLength⟩ := bits_oneByte hid.2 hlength
  have hsize : e.encodedSize .oneByte = 1 + e.value.length := if_neg hskip
  have hread : read mem ptr =
      value (UInt8.ofNat (e.id * 16 + (e.value.length - 1) % 16)) := hfirst.read
  rw [hsize] at hroom ⊢
  rw [parseOneByteExtensions, if_pos (by omega), hread, value_bind]
  simp only [hbitsId, hbitsLength]
  rw [if_neg (by omega), if_neg (by omega), if_neg (by omega), Nat.add_assoc ptr]

theorem parseTwoBytesExtensions_zeros
    (h : Holds mem ptr (List.replicate k 0)) (hend : extensionEnd = ptr + k) (hfuel : k < fuel) :
    parseTwoBytesExtensions mem extensionEnd fuel ptr = value [] := by
  obtain ⟨fuel, rfl⟩ := Nat.exists_eq_succ_of_ne_zero (by omega : fuel ≠ 0)
  rw [parseTwoBytesExtensions]
  by_cases hk : k ≤ 1
  · rw [if_neg (by omega)]
    rfl
  obtain ⟨k, rfl⟩ := Nat.exists_eq_add_of_le (not_le.mp hk)
  obtain ⟨fuel, rfl⟩ := Nat.exists_eq_succ_of_ne_zero (by omega : fuel ≠ 0)
  have hcons : List.replicate (Nat.succ 1 + k) (0 : UInt8) =
      0 :: 0 :: List.replicate k 0 := by
    rw [Nat.succ_eq_add_one, Nat.add_comm, replicate_succ, replicate_succ]
  rw [hcons] at h
  have hsecond := (holds_cons.mp h).2
  rw [if_pos (by omega), h.read, value_bind, hsecond.read, value_bind, if_pos rfl,
    skipPadding_zeros (k := k + 1) hsecond (by omega) (by omega), value_bind,
    parseTwoBytesExtensions, if_neg (by omega)]
  rfl

theorem elementLoop_twoBytes :
    ElementLoop .twoBytes mem extensionEnd (parseTwoBytesExtensions mem extensionEnd) := by
  refine ⟨parseTwoBytesExtensions_zeros, fun {e fuel ptr} htyped hskip hfirst hroom => ?_⟩
  have hpos : e.id ≠ 0 := by simpa [GenericExtension.skipped] using hskip
  have hsize : e.encodedSize .twoBytes = 2 + e.value.length := if_neg hskip
  have hreadId : read mem ptr = value (UInt8.ofNat e.id) := hfirst.read
  have hreadLength : read mem (ptr + 1) = value (UInt8.ofNat e.value.length) :=
    (holds_cons.mp hfirst).2.read
  have hbyteId : (UInt8.ofNat e.id).toNat = e.id := by
    rw [UInt8.toNat_ofNat', Nat.mod_eq_of_lt htyped.1]
  have hbyteLength : (UInt8.ofNat e.value.length).toNat = e.value.length := by
    rw [UInt8.toNat_ofNat', Nat.mod_eq_of_lt htyped.2]
  have hne : UInt8.ofNat e.id ≠ 0 := by
    intro h0
    rw [h0] at hbyteId
    exact hpos hbyteId.symm
  rw [hsize] at hroom ⊢
  rw [parseTwoBytesExtensions, if_pos (by omega), hreadId, value_bind, hreadLength, value_bind,
    if_neg hne, hbyteLength, hbyteId, if_neg (by omega), Nat.add_assoc ptr]

/-- The elements as the packet notes them. -/
def ExtensionType.noted : ExtensionType → List (ℕ × ℕ) → List (ℕ × ℕ) × List (ℕ × ℕ)
  | .oneByte, elements => (elements, [])
  | .twoBytes, elements => ([], elements)

variable {pos total : ℕ}

/-- **Written elements are found again**, and nothing else is. -/
theorem elementsAt_written (hes : ∀ e ∈ es, e.Typed) (hlen : pos + 4 ≤ mem.length)
    (hid : type.Matches (be16 mem pos))
    (hlength : be16 mem (pos + 2) * 4 = (written type es).length + k)
    (h : Holds mem (pos + 4) (written type es ++ List.replicate k 0)) :
    elementsAt mem pos = value (type.noted (elementsFrom type es (pos + 4))) := by
  rw [elementsAt, readBe_be16 (by omega), value_bind, readBe_be16 (by omega), value_bind]
  simp only [hlength]
  cases type with
  | oneByte =>
    have hid' : be16 mem pos = 0xBEDE := hid
    rw [if_pos hid', elementLoop_oneByte.parse_written hes h (by omega) (by omega)]
    rfl
  | twoBytes =>
    have hid' : be16 mem pos / 16 = 0x100 := hid
    rw [if_neg (by omega), if_pos hid',
      elementLoop_twoBytes.parse_written hes h (by omega) (by omega)]
    rfl

/-! ### Making room -/

theorem yields_writeHeaderExtension (htotal : total % 4 = 0 ∧ total < 65536)
    (hroom : pos + 4 ≤ mem.length) : (writeHeaderExtension mem pos type total).Yields fun mem' =>
      (type.Matches (be16 mem' pos) ∧ be16 mem' (pos + 2) * 4 = total) ∧
        SameOutside mem mem' pos 4 := by
  refine (yields_store_bytes (by rw [length_toBe16]; omega)).bind fun mem₁ h₁ => ?_
  obtain ⟨hid, ho₁⟩ := h₁
  obtain ⟨mem₂, hstore, hlength, ho₂⟩ := @yields_store_bytes mem₁ (pos + 2) (toBe16 (total / 4))
    (by rw [length_toBe16, ho₁.length_eq]; omega)
  rw [length_toBe16] at ho₁ ho₂
  refine ⟨mem₂, hstore, ⟨?_, ?_⟩, ho₂.length_eq.trans ho₁.length_eq, fun j hj => ?_⟩
  · have hagree : AgreeOn mem₁ mem₂ pos (pos + 2) := ho₂.agreeOn (.inr le_rfl)
    rw [hagree.be16_eq le_rfl (by omega), hid.be16_eq (headerId_lt type)]
    exact matches_headerId type
  · rw [hlength.be16_eq (by omega)]
    omega
  · rw [ho₂.byteAt_eq j (by omega), ho₁.byteAt_eq j (by omega)]

/-- There is room for a header extension value of `total` bytes, with its header in front
of it and the payload and the padding behind it. -/
structure Roomy (mem mem' : List UInt8) (packet : RtpPacket) (type : ExtensionType)
    (total : ℕ) : Prop where
  first : byteAt mem' 0 = setBit (byteAt mem 0) 4 true
  head : AgreeOn mem mem' 1 packet.extensionPos
  id : type.Matches (be16 mem' packet.extensionPos)
  length : be16 mem' (packet.extensionPos + 2) * 4 = total
  body : ∀ j, j < packet.payloadLength + packet.payloadPadding →
    byteAt mem' (packet.extensionPos + 4 + total + j) = byteAt mem (packet.payload + j)

theorem setBit_four_self {first : UInt8} (h : bit first 4 = true) : setBit first 4 true = first :=
  forall_byte (P := fun byte => bit byte 4 = true → setBit byte 4 true = byte)
    (by decide +kernel) first h

/-- **Making room** for a header extension at the exact distance. -/
theorem yields_makeRoom (hv : packet.Framed mem)
    (htotal : total % 4 = 0 ∧ total < 65536) (hext : ∀ pos, packet.headerExtension = some pos →
      type.Matches (be16 mem pos) ∧ bit (byteAt mem 0) 4 = true)
    (hshift : packet.payload + packet.shiftFor mem total = (packet.extensionPos + 4 + total : ℕ))
    (hroom : packet.extensionPos + 4 + total + packet.payloadLength + packet.payloadPadding ≤
      mem.length) :
    (packet.makeRoom mem type total).Yields fun r => Roomy mem r.1 packet type total := by
  have hsize := hv.size_eq
  have hle := hv.size_le
  have h12 : 12 ≤ packet.payload := hv.header_le
  unfold makeRoom
  unfold shiftFor at hshift
  cases hpos : packet.headerExtension with
  | some pos =>
    obtain ⟨hpos12, hend⟩ := hv.extension pos hpos
    have hpos12 : 12 ≤ pos := hpos12
    obtain ⟨hid, hbit⟩ := hext pos hpos
    have hwhere : packet.extensionPos = pos := by rw [extensionPos, hpos]; rfl
    simp only [hpos, hwhere] at hshift hroom
    simp only [getHeaderExtensionLength, hpos, readBe_be16 (show pos + 2 + 2 ≤ mem.length by omega),
      value_bind, pure_eq, hshift]
    refine .ite (fun _ => ?_) fun hzero => yields_value ?_
    · refine (yields_memmove_bytes (by omega) (by omega)).bind fun mem₁ h₁ => ?_
      obtain ⟨hmoved, ho₁⟩ := h₁
      have hroom₂ : pos + 2 + (toBe16 (total / 4)).length ≤ mem₁.length := by
        rw [length_toBe16, ho₁.length_eq]
        omega
      refine (yields_store_bytes hroom₂).bind fun mem₂ h₂ => yields_value ?_
      obtain ⟨hlength, ho₂⟩ := h₂
      rw [length_toBe16] at ho₂
      have hhead : AgreeOn mem mem₂ 0 (pos + 2) :=
        (ho₁.agreeOn (.inr (by omega))).trans (ho₂.agreeOn (.inr le_rfl))
      refine
        { first := ?_, head := hwhere ▸ hhead.mono (Nat.zero_le 1) (by omega), id := ?_
          length := ?_, body := fun j hj => ?_ }
      · rw [hhead.byteAt_eq 0 le_rfl (by omega), setBit_four_self hbit]
      · rw [hwhere, hhead.be16_eq (Nat.zero_le pos) (by omega)]
        exact hid
      · rw [hwhere, hlength.be16_eq (by omega)]
        omega
      · rw [hwhere, ho₂.byteAt_eq _ (by omega), hmoved j hj]
    · -- the header extension has the right size already
      have hsame : pos + 4 + total = packet.payload := by rw [not_not.mp hzero] at hshift; omega
      refine
        { first := (setBit_four_self hbit).symm, head := .refl _ _ _
          id := by rw [hwhere]; exact hid, length := ?_, body := fun j _ => by rw [hwhere, hsame] }
      rw [hwhere]
      show be16 mem (pos + 2) * 4 = total
      omega
  | none =>
    have hwhere : packet.extensionPos = packet.payload := by rw [extensionPos, hpos]; rfl
    rw [hpos] at hshift
    rw [hwhere] at hshift hroom
    simp only [read_byteAt (show 0 < mem.length by omega), value_bind, hshift]
    have hroom₁ : 0 + [setBit (byteAt mem 0) 4 true].length ≤ mem.length := by
      rw [length_singleton]
      omega
    refine (yields_store_bytes hroom₁).bind fun mem₁ h₁ => ?_
    obtain ⟨hfirst, ho₁⟩ := h₁
    have hl₁ := ho₁.length_eq
    rw [length_singleton] at ho₁
    refine (yields_memmove_bytes (by omega) (by omega)).bind fun mem₂ h₂ => ?_
    obtain ⟨hmoved, ho₂⟩ := h₂
    have hl₂ := ho₂.length_eq
    refine (yields_writeHeaderExtension htotal (by omega)).bind fun mem₃ h₃ => yields_value ?_
    obtain ⟨⟨hid, hlength⟩, ho₃⟩ := h₃
    have hl₃ := ho₃.length_eq
    refine
      { first := ?_, head := ⟨hl₃.trans (hl₂.trans hl₁), fun j hlo hhi => ?_⟩
        id := by rw [hwhere]; exact hid, length := by rw [hwhere]; exact hlength
        body := fun j hj => ?_ }
    · rw [ho₃.byteAt_eq 0 (by omega), ho₂.byteAt_eq 0 (by omega)]
      exact hfirst.byteAt_eq (k := 0) Nat.one_pos
    · rw [ho₃.byteAt_eq j (by omega), ho₂.byteAt_eq j (by omega), ho₁.byteAt_eq j (by omega)]
    · rw [hwhere, ho₃.byteAt_eq _ (by omega), hmoved j hj, ho₁.byteAt_eq _ (by omega)]

/-! ### Setting extensions -/

/-- The packet with the elements that were written. -/
def noteElements (packet : RtpPacket) (type : ExtensionType) (elements : List (ℕ × ℕ)) :
    RtpPacket :=
  { packet with oneByteExtensions := (type.noted elements).1
                twoBytesExtensions := (type.noted elements).2 }

theorem yields_writeValue {pos padding : ℕ}
    (hend : pos + 4 + extensionsTotalSize type es + padding = packet.payload)
    (hle : packet.payload ≤ mem.length) :
    (packet.writeValue mem pos type es padding).Yields fun r =>
      r.2 = packet.noteElements type (elementsFrom type es (pos + 4)) ∧
      Holds r.1 (pos + 4) (written type es ++ List.replicate padding 0) ∧
      SameOutside mem r.1 (pos + 4) (extensionsTotalSize type es + padding) := by
  refine (yields_writeExtensions (by omega)).bind fun r hr => ?_
  obtain ⟨mem₁, ptr, elements⟩ := r
  obtain ⟨hnoted, hholds, hout⟩ := hr
  obtain ⟨rfl, rfl⟩ := Prod.mk.inj hnoted
  simp only at hholds hout ⊢
  have hlen := hout.length_eq
  refine (yields_store_bytes (by rw [length_replicate]; omega)).bind fun mem₂ h₂ => ?_
  obtain ⟨hzeros, hout'⟩ := h₂
  rw [length_replicate] at hout'
  have hwritten := length_written type es
  refine (yields_require hend).bind fun _ _ => yields_value
    ⟨?_, holds_append.mpr ⟨?_, ?_⟩, hout'.length_eq.trans hlen, fun j hj => ?_⟩
  · cases type
    · rfl
    · rfl
  · exact hholds.of_agreeOn (hout'.agreeOn (.inr le_rfl)) le_rfl (by omega)
  · rw [hwritten]
    exact hzeros
  · rw [hout'.byteAt_eq j (by omega), hout.byteAt_eq j (by omega)]

theorem returns_writeValue {padding : ℕ} :
    (packet.writeValue mem pos type es padding).Returns fun r =>
      (r.1.length = mem.length ∧ r.2.size = packet.size) ∧
        pos + 4 + extensionsTotalSize type es + padding = packet.payload := by
  refine returns_writeExtensions.bind fun r hr => ?_
  obtain ⟨mem₁, ptr, elements⟩ := r
  refine (returns_store_length _ _ _).bind fun mem₂ h₂ => returns_require.bind fun _ hend => ?_
  refine returns_value ⟨⟨h₂.trans hr.1, ?_⟩, by rw [← hr.2, hend]⟩
  cases type
  · rfl
  · rfl

theorem paddedSize_mod (size : ℕ) : paddedSize size % 4 = 0 ∧ paddedSize size < 65536 := by
  unfold paddedSize
  omega

theorem paddingSize_eq {size total : ℕ} (h : size + paddingSize size = total)
    (hsmall : total < 2 ^ 63) : paddedSize size = total := by
  unfold paddingSize at h
  have := (paddedSize_mod size).2
  omega

theorem toInt16_lt (n : ℤ) : toInt16 n < 32768 := by
  unfold toInt16
  omega

theorem shiftFor_lt (mem : List UInt8) (packet : RtpPacket) (total : ℕ) :
    packet.shiftFor mem total < 32768 := by
  unfold shiftFor
  split
  · exact toInt16_lt _
  · exact toInt16_lt _

theorem Layout.payload_lt (h : packet.Layout mem) : packet.payload < 300000 := by
  have hcsrc : bits (byteAt mem 0) 0 4 < 16 := Nat.mod_lt _ (by decide)
  have hbe : ∀ i, be16 mem i < 65536 := by
    intro i
    have h0 := (byteAt mem i).toNat_lt
    have h1 := (byteAt mem (i + 1)).toNat_lt
    unfold be16
    omega
  have hext : packet.headerExtensionSize mem ≤ 4 + 65535 * 4 := by
    unfold headerExtensionSize
    split
    · omega
    · next pos _ =>
      have := hbe (pos + 2)
      omega
  have h12 : csrcEnd mem = 12 + bits (byteAt mem 0) 0 4 * 4 := rfl
  rw [h.payload, h12]
  omega

theorem Layout.extensionPos_eq (h : packet.Layout mem) : packet.extensionPos = csrcEnd mem := by
  cases hext : packet.headerExtension with
  | none =>
    rw [extensionPos, hext, h.payload, headerExtensionSize, hext]
    rfl
  | some pos =>
    rw [extensionPos, hext]
    exact (h.extension hext).1

/-- The buffer can hold the packet with extensions of `size` bytes, and the `uint16_t` total
and the `int16_t` distance can hold theirs. -/
def CanHold (mem : List UInt8) (packet : RtpPacket) (size : ℕ) : Prop :=
  size ≤ 65532 ∧
  match packet.headerExtension with
  | none => (size + 3) / 4 * 4 + 4 < 32768 ∧ packet.size + 4 + (size + 3) / 4 * 4 ≤ mem.length
  | some pos => (size + 3) / 4 * 4 < be16 mem (pos + 2) * 4 + 32768 ∧
      be16 mem (pos + 2) * 4 ≤ (size + 3) / 4 * 4 + 32768 ∧
      packet.size + (size + 3) / 4 * 4 ≤ mem.length + be16 mem (pos + 2) * 4

instance (mem : List UInt8) (packet : RtpPacket) (size : ℕ) :
    Decidable (packet.CanHold mem size) := by
  unfold CanHold
  cases packet.headerExtension <;> infer_instance

/-- The total is the padded size, the distance is the exact one, and the packet ends inside the
buffer at its new size. -/
theorem canHold_iff {size : ℕ} (hv : packet.Framed mem) :
    packet.CanHold mem size ↔ size + paddingSize size = paddedSize size ∧
      (packet.payload : ℤ) + packet.shiftFor mem (paddedSize size) =
        (packet.extensionPos + 4 + paddedSize size : ℕ) ∧
      packet.extensionPos + 4 + paddedSize size + packet.payloadLength + packet.payloadPadding ≤
        mem.length := by
  have hsize := hv.size_eq
  have hpadded : size + paddingSize size = paddedSize size ↔
      size ≤ 65532 ∧ paddedSize size = (size + 3) / 4 * 4 := by
    unfold paddingSize paddedSize
    omega
  rw [hpadded]
  unfold CanHold shiftFor extensionPos toInt16
  cases hext : packet.headerExtension with
  | none =>
    simp only [Option.getD_none]
    unfold paddedSize
    omega
  | some pos =>
    have hend := (hv.extension pos hext).2
    simp only [Option.getD_some]
    unfold paddedSize
    omega

theorem shiftFor_congr {mem₁ : List UInt8} (h : ∀ pos, packet.headerExtension = some pos →
      be16 mem₁ (pos + 2) = be16 mem (pos + 2)) :
    packet.shiftFor mem₁ total = packet.shiftFor mem total := by
  unfold shiftFor
  split
  · next pos hpos => rw [h pos hpos]
  · rfl

/-- The packet with the extensions. -/
def extended (packet : RtpPacket) (type : ExtensionType) (es : List GenericExtension) : RtpPacket :=
  let payload := packet.extensionPos + 4 + paddedSize (extensionsTotalSize type es)
  let elements := type.noted (elementsFrom type es (packet.extensionPos + 4))
  { packet with
    headerExtension := some packet.extensionPos, payload
    size := payload + packet.payloadLength + packet.payloadPadding
    oneByteExtensions := elements.1, twoBytesExtensions := elements.2 }

/-- The extensions are in the header extension, with zeros behind them. -/
structure Extended (mem mem' : List UInt8) (packet : RtpPacket) (type : ExtensionType)
    (es : List GenericExtension) : Prop
    extends Roomy mem mem' packet type (paddedSize (extensionsTotalSize type es)) where
  value : Holds mem' (packet.extensionPos + 4)
    (written type es ++ List.replicate (paddingSize (extensionsTotalSize type es)) 0)

/-- **Setting extensions.** -/
theorem yields_setExtensions (h : packet.Layout mem)
    (hfits : packet.CanHold mem (extensionsTotalSize type es)) :
    (packet.setExtensions mem type es).Yields fun r =>
      r.2 = packet.extended type es ∧ Extended mem r.1 packet type es := by
  obtain ⟨hpadded, hshift, hroom⟩ := (canHold_iff h.framed).mp hfits
  have hsize := h.size
  have h12 := h.header_le
  refine (yields_setHeaderExtensionId h.framed).bind fun mem₁ h₁ => ?_
  obtain ⟨ho₁, hid⟩ := h₁
  obtain ⟨hfirst, hv₁, hsame⟩ := h.framed.sameOutside ho₁
  -- an extension that exists keeps its place and now has the right id
  have hext : ∀ pos, packet.headerExtension = some pos →
      type.Matches (be16 mem₁ pos) ∧ bit (byteAt mem₁ 0) 4 = true := by
    intro pos hpos
    refine ⟨hid pos hpos, ?_⟩
    have hwhere := h.headerExtension
    rw [hpos] at hwhere
    rw [hfirst]
    by_contra hbit
    rw [if_neg hbit] at hwhere
    cases hwhere
  rw [← shiftFor_congr hsame] at hshift
  rw [← ho₁.length_eq] at hroom
  obtain ⟨⟨mem₂, packet₂, pos⟩, hmake, hroomy⟩ := yields_makeRoom hv₁
    (paddedSize_mod (extensionsTotalSize type es)) hext hshift hroom
  obtain ⟨hl₂, heq⟩ := returns_makeRoom hv₁ _ hmake
  obtain ⟨rfl, rfl⟩ := Prod.mk.inj heq
  rw [hmake, value_bind]
  set shift := packet.shiftFor mem₁ (paddedSize (extensionsTotalSize type es))
  have hpayload : (packet.shifted shift).payload =
      packet.extensionPos + 4 + paddedSize (extensionsTotalSize type es) := by
    show (packet.payload + shift).toNat = _
    rw [hshift, Int.toNat_natCast]
  simp only at hl₂ hroomy
  obtain ⟨r, hr, hpacket, hholds, hout⟩ := @yields_writeValue es mem₂ (packet.shifted shift) type
    packet.extensionPos (paddingSize (extensionsTotalSize type es)) (by omega) (by omega)
  rw [hpadded] at hout
  refine ⟨r, hr, ?_, ?_⟩
  · rw [hpacket, extended, noteElements, RtpPacket.mk.injEq]
    refine ⟨rfl, hpayload, rfl, rfl, ?_, rfl, rfl⟩
    show (packet.size + shift).toNat = _
    omega
  · -- the value goes behind the extension's header and in front of the payload
    have hhead : AgreeOn mem₂ r.1 0 (packet.extensionPos + 4) := hout.agreeOn (.inr le_rfl)
    have hpos := h.extensionPos_eq
    have h12' : 12 ≤ csrcEnd mem := Nat.le_add_right _ _
    have hpos' : packet.extensionPos ≤ packet.payload := by
      rw [h.extensionPos_eq]
      exact h.csrcEnd_le
    refine
      { first := ?_, id := ?_, length := ?_, body := fun j hj => ?_, value := hholds
        head := (ho₁.agreeOn (.inr le_rfl)).trans
          (hroomy.head.trans (hhead.mono (Nat.zero_le 1) (by omega))) }
    · rw [hhead.byteAt_eq 0 le_rfl (by omega), hroomy.first, hfirst]
    · rw [hhead.be16_eq (Nat.zero_le _) (by omega)]
      exact hroomy.id
    · rw [hhead.be16_eq (Nat.zero_le _) (by omega), hroomy.length]
    · rw [hout.byteAt_eq _ (by omega), hroomy.body j hj, ho₁.byteAt_eq _ (by omega)]

/-- A packet with its extensions set inside its buffer could be held there: the assertion shows
that neither the padding nor the distance wrapped around. -/
theorem canHold_of_setExtensions {r : List UInt8 × RtpPacket} (h : packet.Layout mem)
    (hr : packet.setExtensions mem type es = value r) (hle : r.2.size ≤ r.1.length) :
    packet.CanHold mem (extensionsTotalSize type es) := by
  have hsize := h.size
  have hpayload := h.payload_lt
  obtain ⟨mem₁, hid, ho₁, -⟩ := @yields_setHeaderExtensionId mem packet type h.framed
  obtain ⟨-, hv₁, hsame⟩ := h.framed.sameOutside ho₁
  rw [setExtensions, hid, value_bind] at hr
  obtain ⟨⟨mem₂, packet₂, pos⟩, hmake, hr⟩ := bind_eq_value.mp hr
  obtain ⟨hl₂, heq⟩ := returns_makeRoom hv₁ _ hmake
  obtain ⟨rfl, rfl⟩ := Prod.mk.inj heq
  obtain ⟨⟨hl₃, hsize'⟩, hend⟩ := returns_writeValue _ hr
  rw [shiftFor_congr hsame] at hsize' hend
  have hshift := shiftFor_lt mem packet (paddedSize (extensionsTotalSize type es))
  have hl₁ := ho₁.length_eq
  simp only at hl₂ hl₃
  rw [canHold_iff h.framed]
  set shift := packet.shiftFor mem (paddedSize (extensionsTotalSize type es))
  have hnew : (packet.shifted shift).payload = (packet.payload + shift).toNat := rfl
  have hnew' : (packet.shifted shift).size = (packet.size + shift).toNat := rfl
  have hpadded := @paddingSize_eq (extensionsTotalSize type es) _ rfl (by omega)
  refine ⟨hpadded.symm, ?_, ?_⟩
  · omega
  · omega

/-- **The parser finds the extensions** that were set. -/
theorem Layout.extended {mem' : List UInt8} (hes : ∀ e ∈ es, e.Typed) (h : packet.Layout mem)
    (hfits : packet.CanHold mem (extensionsTotalSize type es))
    (he : Extended mem mem' packet type es) : (packet.extended type es).Layout mem' := by
  obtain ⟨hpadded, -, hroom⟩ := (canHold_iff h.framed).mp hfits
  have hlen := he.head.length_eq
  obtain ⟨-, hhead⟩ := sameHead_setBit (byteAt mem 0) true
  obtain ⟨-, -, hextension, hpadding⟩ := bit_setBit (byteAt mem 0) true
  rw [← he.first] at hhead hextension hpadding
  have hcsrc : packet.extensionPos = csrcEnd mem' := by
    rw [h.extensionPos_eq, csrcEnd, csrcEnd, hhead.csrcCount]
  refine
    { size_le := hlen ▸ hroom, version := hhead.version h.version, size := rfl
      headerExtension := ?_, payload := ?_, padded := ?_, padding := fun h0 => ?_
      noElements := by simp [RtpPacket.extended], elements := ?_ }
  · rw [hextension, if_pos rfl, ← hcsrc]
    rfl
  · show packet.extensionPos + 4 + _ = csrcEnd mem' + (4 + be16 mem' (packet.extensionPos + 2) * 4)
    rw [he.length, ← hcsrc, Nat.add_assoc]
  · rw [hpadding]
    exact h.padded
  · have hne : packet.payloadPadding ≠ 0 := h0
    have hbyte := he.body (packet.payloadLength + packet.payloadPadding - 1) (by omega)
    have hlast : packet.payload + (packet.payloadLength + packet.payloadPadding - 1) =
        packet.size - 1 := by have := h.size; omega
    rw [hlast] at hbyte
    refine Eq.trans (congrArg (fun j => (byteAt mem' j).toNat) ?_)
      ((congrArg UInt8.toNat hbyte).trans (h.padding hne))
    show packet.extensionPos + 4 + paddedSize (extensionsTotalSize type es) +
      packet.payloadLength + packet.payloadPadding - 1 = _
    omega
  · rintro _ ⟨⟩
    refine elementsAt_written hes (by omega) he.id ?_ he.value
    rw [he.length, length_written, hpadded]

end RtpPacket

end Mediasoup
