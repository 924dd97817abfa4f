/-
Which bytes `RtpPacket::SetExtensions` writes.

The payload is moved so that the header extension gets its new size, and the new
elements are written in front of it.

* `safe_setExtensions_iff` — for a framed packet all of this stays inside the buffer
  exactly when the buffer has room for the packet at its new size and the distance,
  an `int16_t`, did not wrap around with a payload to move (`RoomFor`).
-/
import Mediasoup.Rtp.RtpPacket
import Mediasoup.Lib.Slices

open List Option Bytes Checked Slices

namespace Mediasoup

namespace RtpPacket

variable {mem : List UInt8} {packet : RtpPacket} {pos : ℕ} {type : ExtensionType} {total : ℕ}

theorem GenericExtension.length_encode (e : GenericExtension) (h : e.skipped type = false) :
    (e.encode type).length = e.encodedSize type := by
  cases type <;> simp [encode, encodedSize, h] <;> omega

theorem GenericExtension.encodedSize_of_skipped (e : GenericExtension) (h : e.skipped type = true) :
    e.encodedSize type = 0 := by
  simp [encodedSize, h]

theorem GenericExtension.encode_ne_nil (e : GenericExtension) (type : ExtensionType) :
    e.encode type ≠ [] := by
  cases type <;> simp [encode]

theorem extensionsTotalSize_cons (type : ExtensionType) (e : GenericExtension)
    (es : List GenericExtension) : extensionsTotalSize type (e :: es) =
      e.encodedSize type + extensionsTotalSize type es := rfl

theorem safe_writeExtensions_iff {es : List GenericExtension} {ptr : ℕ} :
    (writeExtensions type es mem ptr).Safe ↔
      extensionsTotalSize type es = 0 ∨ ptr + extensionsTotalSize type es ≤ mem.length := by
  induction es generalizing mem ptr with
  | nil => exact iff_of_true trivial (.inl rfl)
  | cons e es ih =>
    rw [writeExtensions, extensionsTotalSize_cons]
    split_ifs with hskip
    · rw [e.encodedSize_of_skipped hskip, Nat.zero_add]
      exact ih
    have hlen := e.length_encode (Bool.not_eq_true _ ▸ hskip)
    have hne := e.encode_ne_nil type
    have hpos := length_pos_iff.mpr hne
    by_cases hfit : ptr + e.encodedSize type ≤ mem.length
    · have hroom : ptr + (e.encode type).length ≤ mem.length := by rwa [hlen]
      obtain ⟨mem', hstore, hl⟩ := exists_store (.inr hroom)
      rw [hstore, value_bind, safe_bind_iff, ih, hl]
      refine (and_iff_left fun _ _ => trivial).trans ?_
      omega
    · refine iff_of_false (fun hsafe => ?_) (by omega)
      have := (safe_store_iff.mp (safe_bind_iff.mp hsafe).1).resolve_left hne
      omega

theorem returns_writeExtensions {es : List GenericExtension} {ptr : ℕ} :
    (writeExtensions type es mem ptr).Returns fun r =>
      r.1.length = mem.length ∧ r.2.1 = ptr + extensionsTotalSize type es := by
  induction es generalizing mem ptr with
  | nil => exact returns_value ⟨rfl, rfl⟩
  | cons e es ih =>
    rw [extensionsTotalSize_cons]
    refine .ite (fun hskip => ?_) fun _ => ?_
    · rw [e.encodedSize_of_skipped hskip, Nat.zero_add]
      exact ih
    · refine (returns_store_length _ _ _).bind fun mem' hl => ?_
      refine ih.bind fun r hr => returns_value ⟨hr.1.trans hl, ?_⟩
      rw [hr.2]
      exact Nat.add_assoc _ _ _

theorem writeExtensions_ne_reject (type : ExtensionType) (es : List GenericExtension)
    (mem : List UInt8) (ptr : ℕ) : writeExtensions type es mem ptr ≠ reject := by
  induction es generalizing mem ptr with
  | nil => simp [writeExtensions]
  | cons e es ih =>
    unfold writeExtensions
    split_ifs
    · exact ih _ _
    · exact bind_ne_reject (store_ne_reject _ _ _) fun _ => bind_ne_reject (ih _ _) (by simp)

theorem safe_writeValue_iff {es : List GenericExtension} {padding : ℕ}
    (hpos : 0 < extensionsTotalSize type es) : (packet.writeValue mem pos type es padding).Safe ↔
      pos + 4 + extensionsTotalSize type es + padding ≤ mem.length := by
  rw [writeValue, safe_bind_iff, safe_writeExtensions_iff, or_iff_right hpos.ne']
  constructor
  · rintro ⟨hwrite, hrest⟩
    obtain ⟨⟨mem₁, ptr₁, elements⟩, hval, hl, hptr⟩ := (returns_writeExtensions.ensures
      (safe_writeExtensions_iff.mpr (.inr hwrite))).exists_value
      (writeExtensions_ne_reject _ _ _ _)
    have hpad := safe_store_iff.mp (safe_bind_iff.mp (hrest _ hval)).1
    simp only [length_replicate, replicate_eq_nil_iff] at hpad hl hptr
    omega
  · intro h
    refine ⟨by omega, ?_⟩
    rintro ⟨mem₁, ptr₁, elements⟩ hval
    obtain ⟨hl, hptr⟩ := returns_writeExtensions _ hval
    simp only at hl hptr
    refine .bind (P := fun _ => True) (safe_store_iff.mpr ?_) fun _ _ =>
      ensures_require.bind fun _ _ => trivial
    rw [length_replicate]
    omega

theorem Framed.extension_le (hv : packet.Framed mem) (hpos : packet.headerExtension = some pos) :
    pos + 4 ≤ mem.length := by
  have := (hv.extension pos hpos).2
  have := hv.size_eq
  have := hv.size_le
  omega

/-- The distance that the payload is moved by when the header extension value gets
`total` bytes. -/
def shiftFor (mem : List UInt8) (packet : RtpPacket) (total : ℕ) : ℤ :=
  match packet.headerExtension with
  | some pos => toInt16 (total - (be16 mem (pos + 2) * 4 : ℕ))
  | none => toInt16 (4 + toInt16 total)

/-- The position of the header extension after the change. -/
def extensionPos (packet : RtpPacket) : ℕ := packet.headerExtension.getD packet.payload

/-- The id of a header extension with elements of the format. -/
def ExtensionType.Matches : ExtensionType → ℕ → Prop
  | .oneByte, id => id = 0xBEDE
  | .twoBytes, id => id / 16 = 0x100

theorem matches_headerId (type : ExtensionType) : type.Matches type.headerId := by
  cases type
  · rfl
  · rfl

theorem headerId_lt (type : ExtensionType) : type.headerId < 65536 := by
  cases type <;> decide

theorem yields_setHeaderExtensionId (hv : packet.Framed mem) :
    (packet.setHeaderExtensionId mem type).Yields fun mem' =>
      SameOutside mem mem' packet.extensionPos (min 2 (packet.payload - packet.extensionPos)) ∧
        ∀ pos, packet.headerExtension = some pos → type.Matches (be16 mem' pos) := by
  have hsize := hv.size_eq
  have hle := hv.size_le
  cases hext : packet.headerExtension with
  | none =>
    simp only [setHeaderExtensionId, hasOneByteExtensions, hasTwoBytesExtensions,
      getHeaderExtensionId, hext, pure_eq, value_bind, ite_self]
    exact yields_value ⟨⟨rfl, fun _ _ => rfl⟩, by simp⟩
  | some pos =>
    obtain ⟨-, hend⟩ := hv.extension pos hext
    have hwhere : packet.extensionPos = pos := by rw [extensionPos, hext]; rfl
    have htwo : min 2 (packet.payload - pos) = 2 := by omega
    simp only [setHeaderExtensionId, hasOneByteExtensions, hasTwoBytesExtensions,
      getHeaderExtensionId, hext, readBe_be16 (show pos + 2 ≤ mem.length by omega), value_bind,
      pure_eq, decide_eq_true_eq, hwhere, htwo, Option.some.injEq, forall_eq']
    -- the id is written only when the packet has one of the other type
    refine .ite (fun hone => yields_value ⟨⟨rfl, fun _ _ => rfl⟩, ?_⟩) fun _ => ?_
    · rw [hone.1]
      exact hone.2
    refine .ite (fun htwo => yields_value ⟨⟨rfl, fun _ _ => rfl⟩, ?_⟩) fun _ => ?_
    · rw [htwo.1]
      exact htwo.2
    · obtain ⟨mem', hstore, hholds, hout⟩ := @yields_store_bytes mem pos (toBe16 type.headerId)
        (by rw [length_toBe16]; omega)
      refine ⟨mem', hstore, hout, ?_⟩
      rw [hholds.be16_eq (headerId_lt type)]
      exact matches_headerId type

theorem Framed.congr {mem' : List UInt8} (hv : packet.Framed mem) (hlen : mem'.length = mem.length)
    (hsame : ∀ pos, packet.headerExtension = some pos → be16 mem' (pos + 2) = be16 mem (pos + 2)) :
    packet.Framed mem' where
  size_eq := hv.size_eq
  size_le := hlen ▸ hv.size_le
  header_le := hv.header_le
  extension := by
    intro pos hpos
    rw [hsame pos hpos]
    exact hv.extension pos hpos

theorem Framed.sameOutside {mem₁ : List UInt8} (hv : packet.Framed mem) (hout : SameOutside mem mem₁
      packet.extensionPos (min 2 (packet.payload - packet.extensionPos))) :
    byteAt mem₁ 0 = byteAt mem 0 ∧ packet.Framed mem₁ ∧
      ∀ pos, packet.headerExtension = some pos → be16 mem₁ (pos + 2) = be16 mem (pos + 2) := by
  have hlength : ∀ pos, packet.headerExtension = some pos →
      be16 mem₁ (pos + 2) = be16 mem (pos + 2) := by
    intro pos hpos
    have hwhere : packet.extensionPos = pos := by rw [extensionPos, hpos]; rfl
    have hagree : AgreeOn mem mem₁ (pos + 2) (pos + 4) := hout.agreeOn (.inl (by omega))
    exact hagree.be16_eq le_rfl (by omega)
  refine ⟨hout.byteAt_eq 0 (.inl ?_), hv.congr hout.length_eq hlength, hlength⟩
  have h12 : 12 ≤ packet.payload := hv.header_le
  unfold extensionPos
  cases hpos : packet.headerExtension with
  | none => simp only [getD_none]; omega
  | some pos =>
    have : 12 ≤ pos := (hv.extension pos hpos).1
    simp only [getD_some]
    omega

/-- The moved payload is inside the buffer. -/
def ShiftFits (mem : List UInt8) (packet : RtpPacket) (total : ℕ) : Prop :=
  packet.shiftFor mem total = 0 ∨ packet.payloadLength + packet.payloadPadding = 0 ∨
    (0 ≤ packet.payload + packet.shiftFor mem total ∧
      packet.size + packet.shiftFor mem total ≤ mem.length)

theorem makeRoom_ne_reject : packet.makeRoom mem type total ≠ reject := by
  unfold makeRoom
  split
  · next pos hext =>
    rw [getHeaderExtensionLength, hext]
    refine bind_ne_reject (bind_ne_reject (readBe_ne_reject _ _ _) (by simp)) fun length => ?_
    simp only
    split_ifs
    · exact bind_ne_reject (memmove_ne_reject _ _ _ _) fun _ =>
        bind_ne_reject (store_ne_reject _ _ _) (by simp)
    · simp
  · refine bind_ne_reject (read_ne_reject _ _) fun _ => ?_
    refine bind_ne_reject (store_ne_reject _ _ _) fun _ => ?_
    refine bind_ne_reject (memmove_ne_reject _ _ _ _) fun _ => ?_
    exact bind_ne_reject (bind_ne_reject (store_ne_reject _ _ _) fun _ => store_ne_reject _ _ _)
      (by simp)

theorem returns_writeHeaderExtension :
    (writeHeaderExtension mem pos type total).Returns fun mem' => mem'.length = mem.length :=
  (returns_store_length _ _ _).bind fun _ h₁ mem₂ h₂ =>
    (returns_store_length _ _ _ mem₂ h₂).trans h₁

theorem safe_writeHeaderExtension_iff :
    (writeHeaderExtension mem pos type total).Safe ↔ pos + 4 ≤ mem.length := by
  rw [writeHeaderExtension, safe_bind_iff]
  simp only [safe_store_iff, toBe16, length_cons, length_nil, reduceCtorEq, false_or]
  constructor
  · rintro ⟨hid, hlength⟩
    obtain ⟨mem₁, hstore, hl⟩ := @exists_store mem pos (toBe16 type.headerId) (.inr hid)
    have := hlength mem₁ hstore
    omega
  · intro h
    refine ⟨by omega, fun mem₁ hstore => ?_⟩
    have := returns_store_length _ _ _ mem₁ hstore
    omega

/-- The packet at the new position of its payload. -/
def shifted (packet : RtpPacket) (shift : ℤ) : RtpPacket :=
  { packet with headerExtension := some packet.extensionPos
                payload := (packet.payload + shift).toNat
                size := (packet.size + shift).toNat }

theorem returns_makeRoom (hv : packet.Framed mem) :
    (packet.makeRoom mem type total).Returns fun r => r.1.length = mem.length ∧
      r.2 = (packet.shifted (packet.shiftFor mem total), packet.extensionPos) := by
  unfold makeRoom shifted shiftFor extensionPos
  cases hext : packet.headerExtension with
  | some pos =>
    have hlen : pos + 2 + 2 ≤ mem.length := hv.extension_le hext
    simp only [getHeaderExtensionLength, hext, readBe_be16 hlen, value_bind, pure_eq]
    refine .ite (fun _ => ?_) fun h0 => ?_
    · refine (returns_memmove_length _ _ _ _).bind fun mem₁ h₁ => ?_
      refine (returns_store_length _ _ _).bind fun mem₂ h₂ => ?_
      exact returns_value ⟨h₂.trans h₁, rfl⟩
    · refine returns_value ⟨rfl, ?_⟩
      simp only [not_not.mp h0, Int.add_zero, Int.toNat_natCast, getD_some]
      rw [← hext]
  | none =>
    refine (returns_any _).bind fun first _ => (returns_store_length _ _ _).bind fun mem₁ h₁ => ?_
    refine (returns_memmove_length _ _ _ _).bind fun mem₂ h₂ => ?_
    refine returns_writeHeaderExtension.bind fun mem₃ h₃ => ?_
    exact returns_value ⟨h₃.trans (h₂.trans h₁), rfl⟩

/-- Making room stays in the buffer exactly when the moved payload and the header of
the header extension do. -/
theorem safe_makeRoom_iff {mem : List UInt8} {packet : RtpPacket} {type : ExtensionType}
    {total : ℕ} (hv : packet.Framed mem) (hne : packet.headerExtension = none → total < 32764) :
    (packet.makeRoom mem type total).Safe ↔
      packet.ShiftFits mem total ∧ packet.extensionPos + 4 ≤ mem.length := by
  have hsize := hv.size_eq
  have hcap := hv.size_le
  have hhead : 12 ≤ packet.payload := hv.header_le
  unfold makeRoom ShiftFits shiftFor extensionPos
  cases hext : packet.headerExtension with
  | some pos =>
    have hpos := hv.extension_le hext
    obtain ⟨length, hlen, hl⟩ := (ensures_getHeaderExtensionLength hext hpos).exists_value (by
      rw [getHeaderExtensionLength, hext]
      exact bind_ne_reject (readBe_ne_reject _ _ _) (by simp))
    simp only [hlen, value_bind, hl, getD_some]
    set shift := toInt16 (total - (be16 mem (pos + 2) * 4 : ℕ)) with hshift
    refine (Iff.symm (and_iff_left hpos)).trans (and_congr_left fun _ => ?_)
    by_cases h0 : shift = 0
    · rw [if_neg (by simpa using h0)]
      exact iff_of_true trivial (.inl h0)
    rw [if_pos h0, or_iff_right h0]
    have hsrc : packet.payload + (packet.payloadLength + packet.payloadPadding) ≤ mem.length := by
      omega
    constructor
    · intro h
      have hmove := (safe_memmove_iff hsrc).mp (safe_bind_iff.mp h).1
      omega
    · intro h
      have hmove := (@safe_memmove_iff mem (packet.payload + shift) _ _ hsrc).mpr (by omega)
      refine ((returns_memmove_length _ _ _ _).ensures hmove).bind fun mem₁ h₁ => ?_
      refine .bind (P := fun _ => True) ?_ fun _ _ => trivial
      refine safe_store_iff.mpr (.inr ?_)
      simp only [toBe16, length_cons, length_nil]
      omega
  | none =>
    -- without an extension the shift is the four bytes of its header and the value
    have h16 : toInt16 (4 + toInt16 total) = 4 + total := by
      have := hne hext
      unfold toInt16
      omega
    simp only [h16, getD_none]
    have hsrc : packet.payload + (packet.payloadLength + packet.payloadPadding) ≤ mem.length := by
      omega
    obtain ⟨first, hfirst, -⟩ := (ensures_read (by omega)).exists_value (read_ne_reject mem 0)
    obtain ⟨mem₁, hstore, hl₁⟩ := @exists_store mem 0 [setBit first 4 true]
      (.inr (by simp only [length_cons, length_nil]; omega))
    rw [hfirst, value_bind, hstore, value_bind]
    constructor
    · intro h
      obtain ⟨hmove, hrest⟩ := safe_bind_iff.mp h
      obtain ⟨mem₂, hm₂, hl₂⟩ := ((returns_memmove_length _ _ _ _).ensures hmove).exists_value
        (memmove_ne_reject _ _ _ _)
      have hheader := safe_writeHeaderExtension_iff.mp (safe_bind_iff.mp (hrest mem₂ hm₂)).1
      rw [safe_memmove_iff (by omega)] at hmove
      omega
    · rintro ⟨hfit, hheader⟩
      have hmove := (@safe_memmove_iff mem₁ (packet.payload + (4 + (total : ℤ))) packet.payload
        (packet.payloadLength + packet.payloadPadding) (by omega)).mpr (by omega)
      refine ((returns_memmove_length _ _ _ _).ensures hmove).bind fun mem₂ hl₂ => ?_
      refine .bind (P := fun _ => True) ?_ fun _ _ => trivial
      exact safe_writeHeaderExtension_iff.mpr (by omega)

/-- The buffer has room for the packet with a header extension value of `total`
bytes.  With an old value that is more than 32768 bytes longer the distance wraps
around to a positive one, and only a packet without payload survives that. -/
def RoomFor (mem : List UInt8) (packet : RtpPacket) (total : ℕ) : Prop :=
  match packet.headerExtension with
  | none => packet.size + 4 + total ≤ mem.length
  | some pos => packet.size + total ≤ mem.length + be16 mem (pos + 2) * 4 ∧
      (be16 mem (pos + 2) * 4 ≤ total + 32768 ∨
        packet.payloadLength + packet.payloadPadding = 0)

theorem roomFor_iff (hv : packet.Framed mem) (hcap : mem.length ≤ 65536) (htotal : total < 32764) :
    packet.ShiftFits mem total ∧ packet.extensionPos + 4 + total ≤ mem.length ↔
      packet.RoomFor mem total := by
  have hsize := hv.size_eq
  have hle := hv.size_le
  unfold ShiftFits shiftFor extensionPos RoomFor toInt16
  cases hext : packet.headerExtension with
  | none =>
    simp only [getD_none]
    omega
  | some pos =>
    have hpay := (hv.extension pos hext).2
    have h12 : 12 ≤ pos := (hv.extension pos hext).1
    simp only [getD_some]
    omega

/-- **Setting extensions** of a packet writes only bytes of the buffer exactly when
the buffer has room for it. -/
theorem safe_setExtensions_iff {extensions : List GenericExtension} (hv : packet.Framed mem)
    (hcap : mem.length ≤ 65536) (hpos : 0 < extensionsTotalSize type extensions)
    (hsmall : extensionsTotalSize type extensions ≤ 32000) :
    (packet.setExtensions mem type extensions).Safe ↔
      packet.RoomFor mem ((extensionsTotalSize type extensions + 3) / 4 * 4) := by
  set total := extensionsTotalSize type extensions with htotal
  have hpadded : paddedSize total = (total + 3) / 4 * 4 := by
    unfold paddedSize
    omega
  have hpadding : total + paddingSize total = (total + 3) / 4 * 4 := by
    unfold paddingSize
    rw [hpadded]
    omega
  obtain ⟨mem₁, hid, hout, -⟩ := @yields_setHeaderExtensionId _ _ type hv
  have hl₁ := hout.length_eq
  obtain ⟨-, hv₁, hsame⟩ := hv.sameOutside hout
  -- writing the id does not move what `RoomFor` reads
  have hroom : packet.RoomFor mem₁ ((total + 3) / 4 * 4) ↔
      packet.RoomFor mem ((total + 3) / 4 * 4) := by
    unfold RoomFor
    cases hext : packet.headerExtension with
    | none => simp only [hl₁]
    | some pos => simp only [hl₁, hsame pos hext]
  have hmake : ∀ {r}, (packet.makeRoom mem₁ type (paddedSize total)) = value r →
      ((r.2.1.writeValue r.1 r.2.2 type extensions (paddingSize total)).Safe ↔
        packet.extensionPos + 4 + (total + 3) / 4 * 4 ≤ mem₁.length) := by
    intro r hr
    obtain ⟨hl₂, hpos₂⟩ := returns_makeRoom hv₁ r hr
    rw [safe_writeValue_iff hpos, (Prod.ext_iff.mp hpos₂).2, hl₂, ← htotal,
      Nat.add_assoc _ total, hpadding]
  rw [← hroom, ← roomFor_iff hv₁ (hl₁ ▸ hcap) (by omega), setExtensions, hid, value_bind,
    ← htotal, safe_bind_iff, safe_makeRoom_iff hv₁ fun _ => by omega]
  constructor
  · rintro ⟨hfits, hrest⟩
    have hsafe := (@safe_makeRoom_iff _ _ type _ hv₁ fun _ => by omega).mpr hfits
    obtain ⟨r, hr, -⟩ := hsafe.exists_value (makeRoom_ne_reject)
    exact ⟨hpadded ▸ hfits.1, (hmake hr).mp (hrest r hr)⟩
  · rintro ⟨hfits, hvalue⟩
    exact ⟨⟨hpadded ▸ hfits, by omega⟩, fun r hr => (hmake hr).mpr hvalue⟩

end RtpPacket

end Mediasoup
