/-
The rewriting of a VP8 payload descriptor by a consumer
(`RTC::Codecs::VP8::PayloadDescriptorHandler`).

Each consumer numbers the pictures in its own way.  The payload of the packet is changed
in place and restored before the next consumer gets it.

* `processRtpPacket` — the picture id gets two bytes when the packet is received;
* `process` — the decision of the codec, and the payload as it is sent;
* `restore_process` — what `Restore` leaves is the payload that was received.
-/
import Mediasoup.Codecs.VP8
import Mediasoup.Rtp.SeqManager

open List Bytes Checked

namespace Mediasoup

namespace VP8

/-! ### The payload -/

/-- The one- or two-byte picture id of `Encode`. -/
def PayloadDescriptor.encodePictureId (pd : PayloadDescriptor) (data : List UInt8)
    (pictureId : ℕ) : List UInt8 :=
  if pd.hasTwoBytesPictureId then
    (data.set 2 (UInt8.ofNat (pictureId / 256) ||| 0x80)).set 3 (UInt8.ofNat pictureId)
  else if pd.hasOneBytePictureId then data.set 2 (UInt8.ofNat pictureId)
  else data

def PayloadDescriptor.afterPictureId (pd : PayloadDescriptor) : ℕ :=
  if pd.hasTwoBytesPictureId then 4 else if pd.hasOneBytePictureId then 3 else 2

def PayloadDescriptor.encode (pd : PayloadDescriptor) (data : List UInt8)
    (pictureId tl0PictureIndex : ℕ) : List UInt8 :=
  if !pd.extended then data
  else
    let data' := if pd.i then pd.encodePictureId data pictureId else data
    if pd.l then data'.set (if pd.i then pd.afterPictureId else 2) (UInt8.ofNat tl0PictureIndex)
    else data'

def restore (pd : PayloadDescriptor) (data : List UInt8) : List UInt8 :=
  if pd.hasPictureId && pd.hasTl0PictureIndex then
    pd.encode data pd.pictureId pd.tl0PictureIndex
  else data

/-- `ProcessRtpPacket`: a one-byte picture id is moved into two bytes. -/
def processRtpPacket (data : List UInt8) : List UInt8 × Option PayloadDescriptor :=
  match parse data with
  | value pd =>
    if pd.hasOneBytePictureId then
      (data.take 2 ++ 0x80 :: data.drop 2,
        some { pd with hasOneBytePictureId := false, hasTwoBytesPictureId := true })
    else (data, some pd)
  | _ => (data, none)

/-! ### The decision -/

/-- `SeqManager<uint16_t, 15>`. -/
def pictureIdWidth : SeqWidth := ⟨15, by decide⟩

/-- `SeqManager<uint8_t>`. -/
def tl0PictureIndexWidth : SeqWidth := ⟨8, by decide⟩

/-- The context of a consumer, whose target layer is not `-1` when it sends. -/
structure EncodingContext where
  targetTemporalLayer : ℕ
  currentTemporalLayer : ℤ
  syncRequired : Bool
  pictureIdManager : SeqManager
  tl0PictureIndexManager : SeqManager

namespace EncodingContext

def new : EncodingContext := ⟨0, -1, false, .new, .new⟩

variable (context : EncodingContext) (pd : PayloadDescriptor)

/-- Synchronise the numbers with the packet, if that is required. -/
def sync : EncodingContext :=
  if context.syncRequired && pd.hasPictureId && pd.hasTl0PictureIndex then
    { context with
      pictureIdManager :=
        context.pictureIdManager.sync pictureIdWidth ((pd.pictureId + 65535) % 65536)
      tl0PictureIndexManager :=
        context.tl0PictureIndexManager.sync tl0PictureIndexWidth ((pd.tl0PictureIndex + 255) % 256)
      syncRequired := false }
  else context

def drop : EncodingContext :=
  { context with
    pictureIdManager := context.pictureIdManager.drop pictureIdWidth pd.pictureId
    tl0PictureIndexManager :=
      if pd.tlIndex = 0 then
        context.tl0PictureIndexManager.drop tl0PictureIndexWidth pd.tl0PictureIndex
      else context.tl0PictureIndexManager }

/-- The picture id goes on, and the layer of the packet is above the one that is sent. -/
def isAboveLayer : Bool :=
  pd.hasPictureId && pd.hasTlIndex && pd.hasTl0PictureIndex &&
    !pictureIdWidth.isSeqLowerThan pd.pictureId context.pictureIdManager.maxInput &&
    (decide (context.targetTemporalLayer < pd.tlIndex) ||
      (decide (context.currentTemporalLayer < pd.tlIndex) && !pd.y))

/-- The current temporal layer after a packet that passes. -/
def updateLayer : EncodingContext :=
  let current : ℤ :=
    if pd.hasTlIndex then max context.currentTemporalLayer pd.tlIndex else 0
  { context with currentTemporalLayer := min current context.targetTemporalLayer }

/-- `Input` of the picture id; there is no number to send without one. -/
def inputPictureId : EncodingContext × Option ℕ :=
  if pd.hasPictureId then
    let (manager, output) := context.pictureIdManager.input pictureIdWidth pd.pictureId
    ({ context with pictureIdManager := manager }, output)
  else (context, some 0)

def inputTl0PictureIndex : EncodingContext × Option ℕ :=
  if pd.hasTl0PictureIndex then
    let (manager, output) :=
      context.tl0PictureIndexManager.input tl0PictureIndexWidth pd.tl0PictureIndex
    ({ context with tl0PictureIndexManager := manager }, output)
  else (context, some 0)

end EncodingContext

/-- `Process`, with the payload if the packet passes. -/
def process (context : EncodingContext) (pd : PayloadDescriptor) (data : List UInt8) :
    EncodingContext × Option (List UInt8) :=
  let context := context.sync pd
  if context.isAboveLayer pd then (context.drop pd, none)
  else match context.inputPictureId pd with
    | (context, none) => (context, none)
    | (context, some pictureId) =>
      match context.inputTl0PictureIndex pd with
      | (context, none) => (context, none)
      | (context, some tl0PictureIndex) =>
        (context.updateLayer pd,
          some (if pd.hasPictureId && pd.hasTl0PictureIndex then
            pd.encode data pictureId tl0PictureIndex else data))

/-! ### The payload is restored -/

variable {pd : PayloadDescriptor} {data : List UInt8}

theorem encodePictureId_twice (a b : ℕ) :
    pd.encodePictureId (pd.encodePictureId data a) b = pd.encodePictureId data b := by
  unfold PayloadDescriptor.encodePictureId
  split_ifs
  · rw [set_comm _ _ (by decide : (3 : ℕ) ≠ 2), set_set, set_set]
  · rw [set_set]
  · rfl

variable {a : ℕ} {payload : List UInt8}

theorem encodePictureId_set (byte : UInt8) :
    pd.encodePictureId (data.set pd.afterPictureId byte) a =
      (pd.encodePictureId data a).set pd.afterPictureId byte := by
  unfold PayloadDescriptor.encodePictureId PayloadDescriptor.afterPictureId
  split_ifs
  · rw [set_comm _ _ (by decide : (4 : ℕ) ≠ 2), set_comm _ _ (by decide : (4 : ℕ) ≠ 3)]
  · rw [set_comm _ _ (by decide : (3 : ℕ) ≠ 2)]
  · rfl

theorem encode_encode (a b c d : ℕ) : pd.encode (pd.encode data a b) c d = pd.encode data c d := by
  unfold PayloadDescriptor.encode
  cases pd.extended with
  | false => rfl
  | true =>
    cases pd.i with
    | false =>
      cases pd.l with
      | false => rfl
      | true => exact set_set _
    | true =>
      cases pd.l with
      | false => exact encodePictureId_twice a c
      | true =>
        show (pd.encodePictureId ((pd.encodePictureId data a).set pd.afterPictureId _) c).set
          pd.afterPictureId _ = (pd.encodePictureId data c).set pd.afterPictureId _
        rw [encodePictureId_set, encodePictureId_twice, set_set]

/-- The descriptor has the numbers that are in the payload. -/
def Describes (pd : PayloadDescriptor) (data : List UInt8) : Prop :=
  pd.encode data pd.pictureId pd.tl0PictureIndex = data

/-- The picture id of a descriptor, where the parser finds it. -/
structure PictureIdAt (pd : PayloadDescriptor) (data : List UInt8) : Prop where
  twoBytes : pd.hasTwoBytesPictureId → ∃ high low, data[2]? = some high ∧
    data[3]? = some low ∧ bit high 7 ∧ pd.pictureId = bits high 0 7 * 256 + low.toNat
  oneByte : pd.hasOneBytePictureId → pd.hasTwoBytesPictureId = false ∧ ∃ byte,
    data[2]? = some byte ∧ bit byte 7 = false ∧ pd.pictureId = bits byte 0 7
  absent : pd.i = false → pd.hasTwoBytesPictureId = false ∧ pd.hasOneBytePictureId = false

/-- The fields of a descriptor. -/
structure Layout (pd : PayloadDescriptor) (data : List UInt8) : Prop extends
    PictureIdAt pd data where
  tl0PictureIndex : pd.l → ∃ byte,
    data[pd.afterPictureId]? = some byte ∧ pd.tl0PictureIndex = byte.toNat

theorem ensures_readPictureId_layout : (readPictureId data 1).Ensures fun r =>
      if r.2.1 then r.2.2 = 3 ∧ ∃ high low, data[2]? = some high ∧ data[3]? = some low ∧
        bit high 7 ∧ r.1 = bits high 0 7 * 256 + low.toNat
      else r.2.2 = 2 ∧ ∃ byte, data[2]? = some byte ∧ bit byte 7 = false ∧ r.1 = bits byte 0 7 := by
  refine ensures_require.bind fun _ hlen => (ensures_read (by omega)).bind fun byte hbyte => ?_
  refine .ite (fun hbit => ?_) fun hbit => ?_
  · refine ensures_require.bind fun _ hlen => (ensures_read (by omega)).bind fun low hlow => ?_
    exact ⟨rfl, byte, low, hbyte, hlow, hbit, rfl⟩
  · exact ⟨rfl, byte, hbyte, by simpa using hbit, rfl⟩

theorem ensures_parsePictureId_layout (htwo : pd.hasTwoBytesPictureId = false)
    (hone : pd.hasOneBytePictureId = false) : (parsePictureId data pd 1).Ensures fun r =>
      PictureIdAt r.1 data ∧ r.2 + 1 = r.1.afterPictureId ∧ r.1.l = pd.l := by
  refine .ite (fun hi => ?_) fun hi => ?_
  · refine (ensures_readPictureId_layout).bind fun r hr => ?_
    obtain ⟨pictureId, twoBytes, offset⟩ := r
    -- the M bit of the first byte has chosen the width
    cases twoBytes with
    | true =>
      obtain ⟨hoffset, hlayout⟩ := hr
      refine ⟨⟨fun _ => hlayout, fun h => (by cases h), fun h => ?_⟩, ?_, rfl⟩
      · exact absurd h (by simp [hi])
      · show offset + 1 = 4
        rw [show offset = 3 from hoffset]
    | false =>
      obtain ⟨hoffset, hlayout⟩ := hr
      refine ⟨⟨fun h => (by cases h), fun _ => ⟨rfl, hlayout⟩, fun h => ?_⟩, ?_, rfl⟩
      · exact absurd h (by simp [hi])
      · show offset + 1 = 3
        rw [show offset = 2 from hoffset]
  · refine ⟨⟨fun h => ?_, fun h => ?_, fun _ => ⟨htwo, hone⟩⟩, ?_, rfl⟩
    · rw [htwo] at h
      cases h
    · rw [hone] at h
      cases h
    · show 2 = pd.afterPictureId
      simp [PayloadDescriptor.afterPictureId, htwo, hone]

theorem ensures_parseTl0PictureIndex_layout {offset : ℕ} (h : PictureIdAt pd data)
    (hoffset : offset + 1 = pd.afterPictureId) :
    (parseTl0PictureIndex data pd offset).Ensures fun r => Layout r.1 data := by
  refine .ite (fun _ => ?_) fun hl => ?_
  · refine ensures_require.bind fun _ hlen => (ensures_read (by omega)).bind fun byte hbyte => ?_
    rw [hoffset] at hbyte
    exact ⟨⟨h.twoBytes, h.oneByte, h.absent⟩, fun _ => ⟨byte, hbyte, rfl⟩⟩
  · exact ⟨h, fun hl' => absurd hl' hl⟩

theorem parse_layout (h : parse data = value pd) : Layout pd data := by
  have hlayout : (parse data).Returns fun pd => Layout pd data := by
    refine (returns_any _).bind fun _ _ => (returns_any _).bind fun _ _ => ?_
    refine (returns_any _).bind fun _ _ => (returns_any _).bind fun _ _ => ?_
    refine (returns_any _).bind fun _ _ => ?_
    refine .bind (fun _ => (ensures_parsePictureId_layout rfl rfl).of_eq) fun r hr => ?_
    refine .bind (fun _ => (ensures_parseTl0PictureIndex_layout hr.1 hr.2.1).of_eq)
      fun r hr => ?_
    -- the other fields have no part in the layout
    have htlIndex : (parseTlIndex data r.1 r.2).Returns fun r => Layout r.1 data := by
      refine .ite (fun _ => ?_) fun _ => returns_value hr
      refine (returns_any _).bind fun _ _ => (returns_any _).bind fun _ _ => returns_value ?_
      exact ⟨⟨hr.twoBytes, hr.oneByte, hr.absent⟩, hr.tl0PictureIndex⟩
    refine htlIndex.bind fun r hr => .ite (fun _ => ?_) fun _ => returns_value hr
    refine (returns_any _).bind fun byte _ => returns_value ?_
    split_ifs
    · exact hr
    · exact ⟨⟨hr.twoBytes, hr.oneByte, hr.absent⟩, hr.tl0PictureIndex⟩
  exact hlayout pd h

theorem bits_of_bit (byte : UInt8) : if bit byte 7 then UInt8.ofNat (bits byte 0 7) ||| 0x80 = byte
    else bits byte 0 7 = byte.toNat := by
  have hall : ∀ n : Fin 256, if bit (UInt8.ofNat n) 7 then
      UInt8.ofNat (bits (UInt8.ofNat n) 0 7) ||| 0x80 = UInt8.ofNat n
      else bits (UInt8.ofNat n) 0 7 = (UInt8.ofNat n).toNat := by decide +kernel
  have hbyte := hall ⟨byte.toNat, byte.toNat_lt⟩
  rwa [UInt8.ofNat_toNat] at hbyte

theorem set_eq_self {byte : UInt8} {k : ℕ} (h : data[k]? = some byte) : data.set k byte = data := by
  obtain ⟨hlt, rfl⟩ := List.getElem?_eq_some_iff.mp h
  exact set_getElem_self hlt

theorem PictureIdAt.encode_self (h : PictureIdAt pd data) :
    pd.encodePictureId data pd.pictureId = data := by
  unfold PayloadDescriptor.encodePictureId
  split_ifs with htwo hone
  · obtain ⟨high, low, hhigh, hlow, hbit, heq⟩ := h.twoBytes htwo
    -- the seven bits of `high` are the quotient, and its M bit is set again
    have hfirst : UInt8.ofNat (pd.pictureId / 256) ||| 0x80 = high := by
      have hdiv : pd.pictureId / 256 = bits high 0 7 := by
        have := low.toNat_lt
        omega
      have hbits := bits_of_bit high
      rwa [if_pos hbit, ← hdiv] at hbits
    have hlast : UInt8.ofNat pd.pictureId = low := by
      refine UInt8.toNat_inj.mp ?_
      have := low.toNat_lt
      rw [UInt8.toNat_ofNat', heq]
      omega
    rw [hfirst, hlast, set_eq_self hhigh, set_eq_self hlow]
  · obtain ⟨-, byte, hbyte, hbit, heq⟩ := h.oneByte hone
    have hbits := bits_of_bit byte
    rw [if_neg (by simp [hbit])] at hbits
    rw [heq, hbits, UInt8.ofNat_toNat, set_eq_self hbyte]
  · rfl

theorem Layout.describes (h : Layout pd data) : Describes pd data := by
  have hpictureId : (if pd.i then pd.encodePictureId data pd.pictureId else data) = data := by
    split_ifs
    · exact h.encode_self
    · rfl
  have hoffset : (if pd.i then pd.afterPictureId else 2) = pd.afterPictureId := by
    split_ifs with hi
    · rfl
    · have habsent := h.absent (by simpa using hi)
      simp [PayloadDescriptor.afterPictureId, habsent]
  unfold Describes PayloadDescriptor.encode
  rw [hpictureId, hoffset]
  split_ifs with hextended hl
  · rfl
  · obtain ⟨byte, hbyte, heq⟩ := h.tl0PictureIndex hl
    rw [heq, UInt8.ofNat_toNat, set_eq_self hbyte]
  · rfl

theorem Layout.shift (h : Layout pd data) (hone : pd.hasOneBytePictureId) :
    Layout { pd with hasOneBytePictureId := false, hasTwoBytesPictureId := true }
      (data.take 2 ++ 0x80 :: data.drop 2) := by
  obtain ⟨htwo, byte, hbyte, hbit, heq⟩ := h.oneByte hone
  have hlt : 2 < data.length := (List.getElem?_eq_some_iff.mp hbyte).1
  -- behind the inserted byte everything stands one place later
  have hlater : ∀ k, (data.take 2 ++ 0x80 :: data.drop 2)[k + 3]? = data[k + 2]? := by
    intro k
    rw [List.getElem?_append_right (by simp), length_take, Nat.min_eq_left (by omega)]
    show (data.drop 2)[k]? = data[k + 2]?
    rw [List.getElem?_drop, Nat.add_comm]
  have hbits := bits_of_bit byte
  rw [if_neg (by simp [hbit])] at hbits
  refine ⟨⟨fun _ => ⟨0x80, byte, ?_, ?_, rfl, ?_⟩, fun hf => (by cases hf), fun hi => ?_⟩, ?_⟩
  · rw [List.getElem?_append_right (by simp), length_take, Nat.min_eq_left (by omega)]
    rfl
  · rw [hlater 0, hbyte]
  · have hhigh : bits 0x80 0 7 = 0 := by decide
    rw [hhigh, Nat.zero_mul, Nat.zero_add]
    exact heq.trans hbits
  · rw [(h.absent hi).2] at hone
    cases hone
  · intro hl
    obtain ⟨last, hlast, htl0⟩ := h.tl0PictureIndex hl
    refine ⟨last, ?_, htl0⟩
    rw [show pd.afterPictureId = 3 by simp [PayloadDescriptor.afterPictureId, htwo, hone]] at hlast
    show (data.take 2 ++ 0x80 :: data.drop 2)[4]? = some last
    rw [hlater 1, hlast]

theorem processRtpPacket_describes
    (h : processRtpPacket data = (payload, some pd)) : Describes pd payload := by
  unfold processRtpPacket at h
  split at h
  · rename_i parsed hparse
    have hlayout := parse_layout hparse
    split_ifs at h with hone
    · cases h
      exact (hlayout.shift hone).describes
    · cases h
      exact hlayout.describes
  · cases h

theorem process_payload {payload' : List UInt8} {context : EncodingContext}
    (h : (process context pd payload).2 = some payload') : ∃ pictureId tl0PictureIndex, payload' =
      if pd.hasPictureId && pd.hasTl0PictureIndex then
        pd.encode payload pictureId tl0PictureIndex else payload := by
  rw [process] at h
  split at h
  · cases h
  split at h
  · cases h
  rename_i pictureId _
  split at h
  · cases h
  · rename_i tl0PictureIndex _
    exact ⟨pictureId, tl0PictureIndex, (Option.some.inj h).symm⟩

theorem restore_self (h : Describes pd data) : restore pd data = data := by
  unfold restore
  split_ifs
  · exact h
  · rfl

/-- **The payload is restored.**  After a consumer has rewritten it, `Restore` leaves the
payload that was received. -/
theorem restore_process {payload' : List UInt8} {context : EncodingContext}
    (h : Describes pd payload) (hprocess : (process context pd payload).2 = some payload') :
    restore pd payload' = payload := by
  obtain ⟨a, b, rfl⟩ := process_payload hprocess
  unfold restore
  split_ifs
  · rw [encode_encode]
    exact h
  · rfl

end VP8

end Mediasoup
