/-
The feedback parsers of a compound RTCP packet
(`RTC::RTCP::FeedbackRtpPacket::Parse` and `FeedbackPsPacket::Parse`).

Most feedback messages are lists of items.  An item class has a header of a
fixed size, which is all that is checked before an item is taken; for every
class but one the header is the whole item.

* `ensures_feedbackRtp` — transport layer feedback points into its own sub-packet;
* `ensures_feedbackPs` — so does payload-specific feedback, except for the items of
  VBCM messages, whose value may run past the end of the sub-packet
  (`VbcmOverrun`).
-/
import Mediasoup.Rtcp.Reports
import Mediasoup.Rtcp.TransportFeedback

open Bytes Checked

namespace Mediasoup

namespace Rtcp

/-! ### Items -/

inductive FeedbackItem where
  | nack (header : ℕ)
  | tmmb (header ssrc bitrate overhead : ℕ) (isCorrect : Bool)
  | tllei (header : ℕ)
  | ecn (header : ℕ)
  | sli (header first number pictureId : ℕ)
  | rpsi (header length : ℕ) (isCorrect : Bool)
  | fir (header : ℕ)
  | tst (header : ℕ)
  | vbcm (header length : ℕ)
  | lei (header : ℕ)
  deriving DecidableEq

namespace FeedbackItem

def header : FeedbackItem → ℕ
  | nack header | tmmb header _ _ _ _ | tllei header | ecn header | sli header _ _ _
  | rpsi header _ _ | fir header | tst header | vbcm header _ | lei header => header

def getSize : FeedbackItem → ℕ
  | nack _ | tllei _ | sli _ _ _ _ | lei _ => 4
  | tmmb _ _ _ _ _ | rpsi _ _ _ | fir _ | tst _ => 8
  | ecn _ => 20
  | vbcm _ length => padTo4Bytes (8 + length)

def isCorrect : FeedbackItem → Bool
  | tmmb _ _ _ _ isCorrect | rpsi _ _ isCorrect => isCorrect
  | _ => true

def extent (item : FeedbackItem) : Extent := ⟨item.header, item.getSize⟩

end FeedbackItem

structure ItemClass where
  headerSize : ℕ
  new : List UInt8 → ℕ → Checked FeedbackItem

namespace ItemClass

/-- A mantissa and an exponent as a `uint64_t`, and whether no bit was lost. -/
def bitrate (mantissa exponent : ℕ) : ℕ × Bool :=
  let bitrate := mantissa <<< exponent % 2 ^ 64
  (bitrate, bitrate >>> exponent = mantissa)

def nack : ItemClass := ⟨4, fun _ pos => return .nack pos⟩

def tmmb : ItemClass := ⟨8, fun buf pos => do
  let ssrc ← readBe buf 4 pos
  let compact ← readBe buf 4 (pos + 4)
  let (rate, isCorrect) := bitrate (compact >>> 9 % 2 ^ 17) (compact >>> 26)
  return .tmmb pos ssrc rate (compact % 2 ^ 9) isCorrect⟩

def tllei : ItemClass := ⟨4, fun _ pos => return .tllei pos⟩

def ecn : ItemClass := ⟨20, fun _ pos => return .ecn pos⟩

def sli : ItemClass := ⟨4, fun buf pos => do
  let compact ← readBe buf 4 pos
  return .sli pos (compact >>> 19) (compact >>> 6 % 2 ^ 13) (compact % 2 ^ 6)⟩

/-- At most six bytes of bit string; the padding is given in bits.  The length of
the bit string is a `size_t` difference. -/
def rpsi : ItemClass := ⟨8, fun buf pos => do
  let paddingBits ← read buf pos
  let paddingBytes := paddingBits.toNat / 8
  return .rpsi pos ((6 + 2 ^ 64 - paddingBytes) % 2 ^ 64)
    (paddingBits.toNat % 8 = 0 ∧ paddingBytes ≤ 6)⟩

def fir : ItemClass := ⟨8, fun _ pos => return .fir pos⟩

def tst : ItemClass := ⟨8, fun _ pos => return .tst pos⟩

/-- The length of the value, read for `GetSize`, is not compared with the bytes
that are left. -/
def vbcm : ItemClass := ⟨8, fun buf pos => do
  let length ← readBe buf 2 (pos + 6)
  return .vbcm pos length⟩

def lei : ItemClass := ⟨4, fun _ pos => return .lei pos⟩

def parse (cls : ItemClass) (buf : List UInt8) (pos len : ℕ) : Checked (Option FeedbackItem) :=
  if len < cls.headerSize then return none
  else do
    let item ← cls.new buf pos
    return some item

/-- The item loop.  Only payload-specific feedback stops at an incorrect item. -/
def parseItems (cls : ItemClass) (checkCorrect : Bool) (buf : List UInt8) (base len : ℕ) :
    ℕ → ℕ → Checked (List FeedbackItem)
  | 0, _ => outOfFuel
  | fuel + 1, offset =>
    if offset < len then do
      match ← cls.parse buf (base + offset) (len - offset) with
      | none => return []
      | some item =>
        if checkCorrect ∧ !item.isCorrect then return []
        else do
          let items ← parseItems cls checkCorrect buf base len fuel (offset + item.getSize)
          return item :: items
    else return []

/-- The class has items of its header's size, read within the header. -/
def FixedSize (cls : ItemClass) : Prop :=
  0 < cls.headerSize ∧ ∀ {buf : List UInt8} {pos : ℕ}, pos + cls.headerSize ≤ buf.length →
    (cls.new buf pos).Ensures fun item => item.extent = ⟨pos, cls.headerSize⟩

theorem fixedSize_nack : nack.FixedSize := ⟨by decide, fun _ => rfl⟩

theorem fixedSize_tmmb : tmmb.FixedSize := by
  refine ⟨by decide, fun {buf pos} h => ?_⟩
  have h : pos + 8 ≤ buf.length := h
  exact (ensures_readBe (by omega)).bind fun _ _ => (ensures_readBe (by omega)).bind fun _ _ => rfl

theorem fixedSize_tllei : tllei.FixedSize := ⟨by decide, fun _ => rfl⟩

theorem fixedSize_ecn : ecn.FixedSize := ⟨by decide, fun _ => rfl⟩

theorem fixedSize_sli : sli.FixedSize :=
  ⟨by decide, fun h => (ensures_readBe h).bind fun _ _ => rfl⟩

theorem fixedSize_rpsi : rpsi.FixedSize := by
  refine ⟨by decide, fun {buf pos} h => ?_⟩
  have h : pos + 8 ≤ buf.length := h
  exact (ensures_read (by omega)).bind fun _ _ => rfl

theorem fixedSize_fir : fir.FixedSize := ⟨by decide, fun _ => rfl⟩

theorem fixedSize_tst : tst.FixedSize := ⟨by decide, fun _ => rfl⟩

theorem fixedSize_lei : lei.FixedSize := ⟨by decide, fun _ => rfl⟩

theorem FixedSize.ensures_parse {cls : ItemClass} (hcls : cls.FixedSize) {buf : List UInt8}
    {pos len : ℕ} (h : pos + len ≤ buf.length) :
    (cls.parse buf pos len).Ensures fun o => ∀ item, o = some item →
      item.extent = ⟨pos, cls.headerSize⟩ ∧ cls.headerSize ≤ len := by
  refine .ite (fun _ => by simp) fun hroom => ?_
  refine (hcls.2 (by omega)).bind fun item hitem => ?_
  rintro _ ⟨⟩
  exact ⟨hitem, by omega⟩

theorem FixedSize.ensures_parseItems {cls : ItemClass} (hcls : cls.FixedSize) {checkCorrect : Bool}
    {buf : List UInt8} {base len fuel offset : ℕ} (h : base + len ≤ buf.length)
    (hfuel : len - offset < fuel) :
    (cls.parseItems checkCorrect buf base len fuel offset).Ensures fun items =>
      AllInside base len (items.map FeedbackItem.extent) := by
  induction fuel generalizing offset with
  | zero => omega
  | succ fuel ih =>
    refine .ite (fun hlt => ?_) fun _ => allInside_nil
    refine (hcls.ensures_parse (by omega)).bind fun o ho => ?_
    cases o with
    | none => exact allInside_nil
    | some item =>
      obtain ⟨hext, hroom⟩ := ho item rfl
      have hsize : item.getSize = cls.headerSize := congrArg Extent.size hext
      have hpos := hcls.1
      refine .ite (fun _ => allInside_nil) fun _ => (ih (by omega)).bind fun items hitems => ?_
      refine allInside_cons.mpr ⟨?_, hitems⟩
      rw [hext]
      show base ≤ base + offset ∧ base + offset + cls.headerSize ≤ base + len
      omega

end ItemClass

/-! ### VBCM items -/

/-- The size announced by the VBCM item at `pos`: header, value and padding. -/
def vbcmItemSize (buf : List UInt8) (pos : ℕ) : ℕ := padTo4Bytes (8 + be16 buf (pos + 6))

/-- Among the VBCM items in the `len` bytes from `pos` on, one announces more bytes
than are left. -/
inductive VbcmOverrun (buf : List UInt8) : ℕ → ℕ → Prop where
  | here {pos len : ℕ} : 8 ≤ len → len < vbcmItemSize buf pos → VbcmOverrun buf pos len
  | later {pos len : ℕ} : vbcmItemSize buf pos ≤ len →
      VbcmOverrun buf (pos + vbcmItemSize buf pos) (len - vbcmItemSize buf pos) →
      VbcmOverrun buf pos len

theorem le_padTo4Bytes (size : ℕ) : size ≤ padTo4Bytes size := by
  unfold padTo4Bytes
  omega

theorem eight_le_vbcmItemSize (buf : List UInt8) (pos : ℕ) : 8 ≤ vbcmItemSize buf pos :=
  (Nat.le_add_right 8 _).trans (le_padTo4Bytes _)

variable {buf : List UInt8} {base pos len : ℕ}

theorem VbcmOverrun.eight_le (h : VbcmOverrun buf pos len) : 8 ≤ len := by
  cases h with
  | here h8 _ => exact h8
  | later hle _ => exact (eight_le_vbcmItemSize buf pos).trans hle

theorem vbcmOverrun_iff_of_le (h : vbcmItemSize buf pos ≤ len) : VbcmOverrun buf pos len ↔
      VbcmOverrun buf (pos + vbcmItemSize buf pos) (len - vbcmItemSize buf pos) := by
  constructor
  · intro hover
    cases hover with
    | here _ hlt => omega
    | later _ hrest => exact hrest
  · exact VbcmOverrun.later h

theorem ensures_vbcm_parse (h : pos + len ≤ buf.length) :
    (ItemClass.vbcm.parse buf pos len).Ensures fun o =>
      (o = none → len < 8) ∧ ∀ item, o = some item →
        8 ≤ len ∧ item.extent = ⟨pos, vbcmItemSize buf pos⟩ ∧ item.isCorrect := by
  refine .ite (fun hlt => ⟨fun _ => hlt, by simp⟩) fun hroom => ?_
  have hroom : ¬ len < 8 := hroom
  refine .bind (P := fun item => item.extent = ⟨pos, vbcmItemSize buf pos⟩ ∧ item.isCorrect)
    ?_ fun item hitem => ⟨by simp, ?_⟩
  · refine (ensures_readBe_two (by omega)).bind fun length hlength => ?_
    subst hlength
    exact ⟨rfl, rfl⟩
  · rintro _ ⟨⟩
    exact ⟨by omega, hitem⟩

/-- The items of a VBCM message lie inside the sub-packet exactly when none of them
announces more bytes than are left. -/
theorem ensures_vbcm_parseItems {checkCorrect : Bool} {fuel offset : ℕ}
    (h : base + len ≤ buf.length) (hfuel : len - offset < fuel) :
    (ItemClass.vbcm.parseItems checkCorrect buf base len fuel offset).Ensures fun items =>
      AllInside base len (items.map FeedbackItem.extent) ↔
        ¬ VbcmOverrun buf (base + offset) (len - offset) := by
  have hshort : ∀ {offset : ℕ}, len - offset < 8 →
      (AllInside base len ([].map FeedbackItem.extent) ↔
        ¬ VbcmOverrun buf (base + offset) (len - offset)) := fun hlt =>
    iff_of_true allInside_nil fun hover => absurd hover.eight_le (by omega)
  induction fuel generalizing offset with
  | zero => omega
  | succ fuel ih =>
    refine .ite (fun hlt => ?_) fun hge => hshort (by omega)
    refine (ensures_vbcm_parse (by omega)).bind fun o ho => ?_
    cases o with
    | none => exact hshort (ho.1 rfl)
    | some item =>
      obtain ⟨h8, hext, hcorrect⟩ := ho.2 item rfl
      have hsize : item.getSize = vbcmItemSize buf (base + offset) := congrArg Extent.size hext
      have hle := eight_le_vbcmItemSize buf (base + offset)
      refine .ite (fun hc => absurd hc (by simp [hcorrect])) fun _ => ?_
      refine (ih (by omega)).bind fun items hitems => ?_
      rw [pure_eq, ensures_value, List.map_cons, allInside_cons, hext, hitems, hsize]
      -- an item that fits passes the question on to the rest of the list
      by_cases hfit : vbcmItemSize buf (base + offset) ≤ len - offset
      · rw [vbcmOverrun_iff_of_le hfit, Nat.add_assoc, Nat.sub_sub]
        refine and_iff_right ⟨?_, ?_⟩ <;> simp only <;> omega
      · refine iff_of_false (fun hin => ?_) fun hno => hno (.here h8 (by omega))
        have : base + offset + vbcmItemSize buf (base + offset) ≤ base + len := hin.1.2
        omega

theorem vbcm_parseItems_ne_reject {fuel offset : ℕ} :
    ItemClass.vbcm.parseItems true buf base len fuel offset ≠ reject := by
  have hparse : ∀ pos rest, ItemClass.vbcm.parse buf pos rest ≠ reject := by
    intro pos rest
    unfold ItemClass.parse
    split_ifs
    · simp
    · exact bind_ne_reject (bind_ne_reject (readBe_ne_reject _ _ _) (by simp)) (by simp)
  induction fuel generalizing offset with
  | zero => simp [ItemClass.parseItems]
  | succ fuel ih =>
    unfold ItemClass.parseItems
    split_ifs
    · refine bind_ne_reject (hparse _ _) fun o => ?_
      cases o with
      | none => simp
      | some item =>
        simp only
        split_ifs
        · simp
        · exact bind_ne_reject ih (by simp)
    · simp

/-! ### Packets -/

inductive FeedbackPacket where
  | items (list : List FeedbackItem)
  | pli
  | srReq
  | afb (data : Extent)
  | remb (data : Extent) (bitrate : ℕ) (ssrcs : List Ssrc)
  | transport (packet : TransportFeedback.FeedbackRtpTransportPacket)
  deriving DecidableEq

def FeedbackPacket.extents : FeedbackPacket → List Extent
  | items list => list.map FeedbackItem.extent
  | pli | srReq | transport _ => []
  | afb data => [data]
  | remb data _ ssrcs => data :: ssrcs.map Ssrc.extent

/-- `Packet::CommonHeaderSize + FeedbackPacket::HeaderSize`. -/
def feedbackHeaderSize : ℕ := commonHeaderSize + 8

/-- `FeedbackRtpItemsPacket::Parse` and `FeedbackPsItemsPacket::Parse`. -/
def parseItemsPacket (cls : ItemClass) (checkCorrect : Bool) (buf : List UInt8) (base len : ℕ) :
    Checked FeedbackPacket := do
  require (feedbackHeaderSize ≤ len)
  let items ← cls.parseItems checkCorrect buf base len (len + 1) feedbackHeaderSize
  return .items items

def parseSsrcList (buf : List UInt8) : ℕ → ℕ → Checked (List Ssrc)
  | 0, _ => return []
  | n + 1, index => do
    let ssrc ← readSsrc buf index
    let ssrcs ← parseSsrcList buf n (index + 4)
    return ssrc :: ssrcs

/-- The four bytes `REMB`. -/
def uniqueIdentifier : ℕ := 0x52454D42

def FeedbackPsRembPacket.parse (buf : List UInt8) (base availableLen : ℕ) :
    Checked FeedbackPacket := do
  require (feedbackHeaderSize + 8 ≤ availableLen)
  let length ← readBe buf 2 (base + 2)
  let len := (length + 1) * 4
  require (len ≤ availableLen)
  let data := base + feedbackHeaderSize
  let numSsrcs ← read buf (data + 4)
  require (len = feedbackHeaderSize + 8 + numSsrcs.toNat * 4)
  let identifier ← readBe buf 4 data
  require (identifier = uniqueIdentifier)
  let byte ← read buf (data + 5)
  let low ← readBe buf 2 (data + 6)
  let (bitrate, isCorrect) := ItemClass.bitrate (bits byte 0 2 * 2 ^ 16 + low) (byte.toNat >>> 2)
  require isCorrect
  let ssrcs ← parseSsrcList buf numSsrcs.toNat (data + 8)
  return .remb ⟨data, len - feedbackHeaderSize⟩ bitrate ssrcs

/-- The test of `FeedbackPsAfbPacket::Parse` for the identifier. -/
def hasUniqueIdentifier (buf : List UInt8) (base len : ℕ) : Checked Bool :=
  if feedbackHeaderSize + 4 ≤ len then do
    let identifier ← readBe buf 4 (base + feedbackHeaderSize)
    return identifier = uniqueIdentifier
  else return false

def FeedbackPsAfbPacket.parse (buf : List UInt8) (base len : ℕ) : Checked FeedbackPacket := do
  require (feedbackHeaderSize ≤ len)
  let isRemb ← hasUniqueIdentifier buf base len
  if isRemb then FeedbackPsRembPacket.parse buf base len
  else do
    let length ← readBe buf 2 (base + 2)
    return .afb ⟨base + feedbackHeaderSize,
      ((length + 1) * 4 + 2 ^ 64 - feedbackHeaderSize) % 2 ^ 64⟩

def FeedbackRtpPacket.parse (buf : List UInt8) (base len : ℕ) : Checked FeedbackPacket := do
  require (feedbackHeaderSize ≤ len)
  let messageType ← headerCount buf base
  match messageType with
  | 1 => parseItemsPacket .nack false buf base len
  | 3 | 4 => parseItemsPacket .tmmb false buf base len
  | 5 => return .srReq
  | 7 => parseItemsPacket .tllei false buf base len
  | 8 => parseItemsPacket .ecn false buf base len
  | 15 => do
    let packet ← TransportFeedback.parse buf base len
    return .transport packet
  -- RAMS, PS and EXT are not supported
  | _ => reject

def FeedbackPsPacket.parse (buf : List UInt8) (base len : ℕ) : Checked FeedbackPacket := do
  require (feedbackHeaderSize ≤ len)
  let messageType ← headerCount buf base
  match messageType with
  | 1 => return .pli
  | 2 => parseItemsPacket .sli true buf base len
  | 3 => parseItemsPacket .rpsi true buf base len
  | 4 => parseItemsPacket .fir true buf base len
  | 5 | 6 => parseItemsPacket .tst true buf base len
  | 7 => parseItemsPacket .vbcm true buf base len
  | 8 => parseItemsPacket .lei true buf base len
  | 15 => FeedbackPsAfbPacket.parse buf base len
  -- ROI and EXT are not supported
  | _ => reject

theorem ensures_itemsPacket {cls : ItemClass} (hcls : cls.FixedSize) {checkCorrect : Bool}
    (h : base + len ≤ buf.length) :
    (parseItemsPacket cls checkCorrect buf base len).Ensures fun packet =>
      AllInside base len packet.extents := by
  refine ensures_require.bind fun _ _ => ?_
  exact (hcls.ensures_parseItems h (by omega)).bind fun items hitems => hitems

section

variable (h : base + len ≤ buf.length)
include h

theorem ensures_parseSsrcList {n index : ℕ} (hbase : base ≤ index)
    (hroom : index + n * 4 ≤ base + len) : (parseSsrcList buf n index).Ensures fun ssrcs =>
      AllInside base len (ssrcs.map Ssrc.extent) := by
  induction n generalizing index with
  | zero => exact allInside_nil
  | succ n ih =>
    refine (ensures_readSsrc (by omega)).bind fun ssrc hssrc => ?_
    refine (ih (by omega) (by omega)).bind fun ssrcs hssrcs => ?_
    refine allInside_cons.mpr ⟨?_, hssrcs⟩
    rw [hssrc]
    show base ≤ index ∧ index + 4 ≤ base + len
    omega

theorem ensures_remb : (FeedbackPsRembPacket.parse buf base len).Ensures fun packet =>
      AllInside base len packet.extents := by
  refine ensures_require.bind fun _ hlen => ?_
  simp only [feedbackHeaderSize, commonHeaderSize] at hlen ⊢
  refine (ensures_readBe (by omega)).bind fun length _ => ensures_require.bind fun _ havail => ?_
  refine (ensures_read (by omega)).bind fun numSsrcs _ => ensures_require.bind fun _ hsize => ?_
  refine (ensures_readBe (by omega)).bind fun _ _ => ensures_require.bind fun _ _ => ?_
  refine (ensures_read (by omega)).bind fun byte _ => ?_
  refine (ensures_readBe (by omega)).bind fun low _ => ?_
  refine ensures_require.bind fun _ _ => ?_
  refine (ensures_parseSsrcList h (by omega) (by omega)).bind fun ssrcs hssrcs => ?_
  refine allInside_cons.mpr ⟨?_, hssrcs⟩
  constructor <;> simp only <;> omega

theorem safe_hasUniqueIdentifier : (hasUniqueIdentifier buf base len).Safe := by
  refine .ite (fun h16 => ?_) fun _ => trivial
  simp only [feedbackHeaderSize, commonHeaderSize] at h16 ⊢
  exact (ensures_readBe (by omega)).bind fun _ _ => trivial

theorem ensures_afb (hlen : (be16 buf (base + 2) + 1) * 4 = len) :
    (FeedbackPsAfbPacket.parse buf base len).Ensures fun packet =>
      AllInside base len packet.extents := by
  refine ensures_require.bind fun _ h12 => ?_
  simp only [feedbackHeaderSize, commonHeaderSize] at h12 ⊢
  refine (safe_hasUniqueIdentifier h).bind fun isRemb _ => ?_
  refine .ite (fun _ => ensures_remb h) fun _ => ?_
  refine (ensures_readBe_two (by omega)).bind fun length hlength => ?_
  subst hlength
  refine allInside_cons.mpr ⟨⟨Nat.le_add_right _ _, ?_⟩, allInside_nil⟩
  rw [hlen]
  have hmod := Nat.mod_le (len - 12) (2 ^ 64)
  simp only
  omega

/-- **Transport layer feedback** points into its own sub-packet. -/
theorem ensures_feedbackRtp (hlen : (be16 buf (base + 2) + 1) * 4 = len) :
    (FeedbackRtpPacket.parse buf base len).Ensures fun packet =>
      AllInside base len packet.extents := by
  refine ensures_require.bind fun _ h12 => ?_
  simp only [feedbackHeaderSize, commonHeaderSize] at h12
  refine (ensures_headerCount (by omega)).bind fun messageType _ => ?_
  split
  · exact ensures_itemsPacket ItemClass.fixedSize_nack h
  · exact ensures_itemsPacket ItemClass.fixedSize_tmmb h
  · exact ensures_itemsPacket ItemClass.fixedSize_tmmb h
  · exact allInside_nil
  · exact ensures_itemsPacket ItemClass.fixedSize_tllei h
  · exact ensures_itemsPacket ItemClass.fixedSize_ecn h
  · exact (TransportFeedback.safe_parse h hlen).bind fun _ _ => allInside_nil
  · trivial

end

/-- The sub-packet of payload-specific feedback at `base` is a VBCM message with an
item that announces more bytes than are left. -/
def IsVbcmOverrun (buf : List UInt8) (base len : ℕ) : Prop :=
  bits (byteAt buf base) 0 5 = 7 ∧
    VbcmOverrun buf (base + feedbackHeaderSize) (len - feedbackHeaderSize)

theorem IsVbcmOverrun.ne_reject (hbase : base < buf.length) (h : IsVbcmOverrun buf base len) :
    FeedbackPsPacket.parse buf base len ≠ reject := by
  have hroom : feedbackHeaderSize ≤ len := by
    have := h.2.eight_le
    omega
  have hcount : headerCount buf base = value 7 := by
    have hread : Checked.read buf base = value (byteAt buf base) := by
      rw [read_eq_value, byteAt, List.getElem?_eq_getElem hbase, Option.getD_some]
    rw [headerCount, hread, value_bind, h.1]
    rfl
  have hreq : require (feedbackHeaderSize ≤ len) = value () := if_pos hroom
  have hparse : FeedbackPsPacket.parse buf base len =
      parseItemsPacket .vbcm true buf base len := by
    rw [FeedbackPsPacket.parse, hreq, value_bind, hcount, value_bind]
    rfl
  rw [hparse, parseItemsPacket, hreq, value_bind]
  exact bind_ne_reject vbcm_parseItems_ne_reject (by simp)

/-- **Payload-specific feedback** points into its own sub-packet unless it is a VBCM
message with an item that runs over. -/
theorem ensures_feedbackPs (h : base + len ≤ buf.length)
    (hlen : (be16 buf (base + 2) + 1) * 4 = len) :
    (FeedbackPsPacket.parse buf base len).Ensures fun packet =>
      AllInside base len packet.extents ↔ ¬ IsVbcmOverrun buf base len := by
  refine ensures_require.bind fun _ h12 => ?_
  simp only [feedbackHeaderSize, commonHeaderSize] at h12
  refine (ensures_headerCount (by omega)).bind fun messageType htype => ?_
  -- all the messages but one are always inside
  have hother : ∀ {x : Checked FeedbackPacket}, messageType ≠ 7 →
      (x.Ensures fun packet => AllInside base len packet.extents) →
      x.Ensures fun packet => AllInside base len packet.extents ↔ ¬ IsVbcmOverrun buf base len :=
    fun hne hx => hx.mono fun _ hin => iff_of_true hin fun hover => hne (htype.trans hover.1)
  split
  · exact hother (by decide) allInside_nil
  · exact hother (by decide) (ensures_itemsPacket ItemClass.fixedSize_sli h)
  · exact hother (by decide) (ensures_itemsPacket ItemClass.fixedSize_rpsi h)
  · exact hother (by decide) (ensures_itemsPacket ItemClass.fixedSize_fir h)
  · exact hother (by decide) (ensures_itemsPacket ItemClass.fixedSize_tst h)
  · exact hother (by decide) (ensures_itemsPacket ItemClass.fixedSize_tst h)
  · refine ensures_require.bind fun _ _ => ?_
    refine (ensures_vbcm_parseItems h (by omega)).bind fun items hitems => ?_
    exact hitems.trans (not_congr (and_iff_right htype.symm).symm)
  · exact hother (by decide) (ensures_itemsPacket ItemClass.fixedSize_lei h)
  · exact hother (by decide) (ensures_afb h hlen)
  · trivial

end Rtcp

end Mediasoup
