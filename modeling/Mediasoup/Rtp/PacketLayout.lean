/-
Where the parts of an RTP packet are in its buffer, as the parser sees them.

* `Layout` — the parts of the packet are adjacent, and the header, the header extension,
  its elements and the last byte of the padding agree with the fields of the packet;
* `ensures_parse`, `Layout.parse` — these are exactly the packets that the parser returns, and
  it stays inside the received bytes;
* `Layout.getExtension` — where the values of their extensions are.

So an operation that keeps the layout leaves a packet that is parsed again to the very
same fields.
-/
import Mediasoup.Rtp.RtpPacket
import Mediasoup.Lib.Slices

open Bytes Checked

namespace Mediasoup

namespace RtpPacket

/-! ### The extension loops only read the header extension -/

variable {mem : List UInt8} {packet : RtpPacket} {len : ℕ} {mem' : List UInt8}
  {lo extensionEnd fuel ptr : ℕ}

theorem returns_skipPadding :
    (skipPadding mem extensionEnd fuel ptr).Returns fun next => ptr ≤ next := by
  induction fuel generalizing ptr with
  | zero =>
    intro a ha
    cases ha
  | succ fuel ih =>
    refine .ite (fun _ => ?_) fun _ => returns_value le_rfl
    refine (returns_any _).bind fun byte _ => .ite (fun _ => ?_) fun _ => returns_value le_rfl
    intro next hnext
    exact (Nat.le_succ ptr).trans (ih next hnext)

section

variable (h : SameReads mem mem' lo extensionEnd)
include h

theorem skipPadding_congr (hptr : lo ≤ ptr) :
    skipPadding mem' extensionEnd fuel ptr = skipPadding mem extensionEnd fuel ptr := by
  induction fuel generalizing ptr with
  | zero => rfl
  | succ fuel ih =>
    unfold skipPadding
    refine ite_congr rfl (fun hlt => ?_) fun _ => rfl
    rw [h ptr hptr hlt, ih (by omega)]

theorem parseOneByteExtensions_congr (hptr : lo ≤ ptr) :
    parseOneByteExtensions mem' extensionEnd fuel ptr =
      parseOneByteExtensions mem extensionEnd fuel ptr := by
  induction fuel generalizing ptr with
  | zero => rfl
  | succ fuel ih =>
    have hrest : ∀ from', ptr ≤ from' →
        (skipPadding mem extensionEnd (extensionEnd + 1) from').Returns fun next => lo ≤ next :=
      fun from' hfrom next hnext => (hptr.trans hfrom).trans (returns_skipPadding next hnext)
    unfold parseOneByteExtensions
    refine ite_congr rfl (fun hlt => ?_) fun _ => rfl
    rw [h ptr hptr hlt]
    refine bind_congr_returns (returns_any _) fun byte _ => ?_
    refine ite_congr rfl (fun _ => rfl) fun _ => ite_congr rfl (fun _ => ?_) fun _ => ?_
    · rw [skipPadding_congr h (by omega)]
      exact bind_congr_returns (hrest _ (by omega)) fun next hnext => ih hnext
    refine ite_congr rfl (fun _ => rfl) fun _ => ?_
    rw [skipPadding_congr h (by omega)]
    refine bind_congr_returns (hrest _ (by omega)) fun next hnext => ?_
    rw [ih hnext]

theorem parseTwoBytesExtensions_congr (hptr : lo ≤ ptr) :
    parseTwoBytesExtensions mem' extensionEnd fuel ptr =
      parseTwoBytesExtensions mem extensionEnd fuel ptr := by
  induction fuel generalizing ptr with
  | zero => rfl
  | succ fuel ih =>
    have hrest : ∀ from', ptr ≤ from' →
        (skipPadding mem extensionEnd (extensionEnd + 1) from').Returns fun next => lo ≤ next :=
      fun from' hfrom next hnext => (hptr.trans hfrom).trans (returns_skipPadding next hnext)
    unfold parseTwoBytesExtensions
    refine ite_congr rfl (fun hlt => ?_) fun _ => rfl
    rw [h ptr hptr (by omega), h (ptr + 1) (by omega) hlt]
    refine bind_congr_returns (returns_any _) fun id _ => ?_
    refine bind_congr_returns (returns_any _) fun len _ => ?_
    refine ite_congr rfl (fun _ => ?_) fun _ => ite_congr rfl (fun _ => rfl) fun _ => ?_
    · rw [skipPadding_congr h (by omega)]
      exact bind_congr_returns (hrest _ (by omega)) fun next hnext => ih hnext
    rw [skipPadding_congr h (by omega)]
    refine bind_congr_returns (hrest _ (by omega)) fun next hnext => ?_
    rw [ih hnext]

end

/-! ### The elements of a header extension -/

/-- What `ParseExtensions` finds in the header extension at `pos`: its One-Byte and its
Two-Bytes elements. -/
def elementsAt (mem : List UInt8) (pos : ℕ) : Checked (List (ℕ × ℕ) × List (ℕ × ℕ)) := do
  let length ← readBe mem 2 (pos + 2)
  let id ← readBe mem 2 pos
  let extensionEnd := pos + 4 + length * 4
  if id = 0xBEDE then do
    let elements ← parseOneByteExtensions mem extensionEnd (extensionEnd + 1) (pos + 4)
    return (elements, [])
  else if id / 16 = 0x100 then do
    let elements ← parseTwoBytesExtensions mem extensionEnd (extensionEnd + 1) (pos + 4)
    return ([], elements)
  else return ([], [])

def bare (packet : RtpPacket) : RtpPacket :=
  { packet with oneByteExtensions := [], twoBytesExtensions := [] }

variable {pos : ℕ}

theorem parseExtensions_bare {mem : List UInt8} {packet : RtpPacket} {pos : ℕ}
    (hext : packet.headerExtension = some pos) :
    packet.bare.parseExtensions mem pos = elementsAt mem pos >>= fun elements =>
      value { packet with oneByteExtensions := elements.1, twoBytesExtensions := elements.2 } := by
  obtain ⟨headerExtension, payload, payloadLength, payloadPadding, size, one, two⟩ := packet
  obtain rfl : headerExtension = some pos := hext
  simp only [bare, parseExtensions, elementsAt, getHeaderExtensionLength, hasOneByteExtensions,
    hasTwoBytesExtensions, getHeaderExtensionId]
  cases readBe mem 2 (pos + 2) with
  | value length =>
    cases readBe mem 2 pos with
    | value id =>
      simp only [value_bind, pure_eq, decide_eq_true_eq]
      split_ifs with hone htwo
      · cases parseOneByteExtensions mem (pos + 4 + length * 4) (pos + 4 + length * 4 + 1)
          (pos + 4) <;> rfl
      · cases parseTwoBytesExtensions mem (pos + 4 + length * 4) (pos + 4 + length * 4 + 1)
          (pos + 4) <;> rfl
      · rfl
    | reject | outOfBounds | outOfFuel => rfl
  | reject | outOfBounds | outOfFuel => rfl

theorem elementsAt_congr {mem mem' : List UInt8} {pos : ℕ} (hlen : pos + 4 ≤ mem.length)
    (h : SameReads mem mem' pos (pos + 4 + be16 mem (pos + 2) * 4)) :
    elementsAt mem' pos = elementsAt mem pos := by
  unfold elementsAt
  rw [h.readBe_two_eq (by omega) (by omega), h.readBe_two_eq le_rfl (by omega),
    readBe_be16 (by omega), value_bind, value_bind]
  refine bind_congr_returns (returns_any _) fun id _ => ?_
  simp only
  rw [parseOneByteExtensions_congr h (by omega), parseTwoBytesExtensions_congr h (by omega)]

theorem ensures_elementsAt (hpos : rtpHeaderSize ≤ pos)
    (hlen : pos + 4 + be16 mem (pos + 2) * 4 ≤ mem.length) :
    (elementsAt mem pos).Ensures fun elements => (∀ e ∈ elements.1, rtpHeaderSize ≤ e.2 ∧
        e.2 + 1 + (bits (byteAt mem e.2) 0 4 + 1) ≤ pos + 4 + be16 mem (pos + 2) * 4) ∧
      ∀ e ∈ elements.2, rtpHeaderSize ≤ e.2 ∧
        e.2 + 2 + (byteAt mem (e.2 + 1)).toNat ≤ pos + 4 + be16 mem (pos + 2) * 4 := by
  unfold elementsAt
  rw [readBe_be16 (by omega), value_bind, readBe_be16 (by omega), value_bind]
  refine .ite (fun _ => ?_) fun _ => .ite (fun _ => ?_) fun _ => by simp
  · refine (ensures_parseOneByteExtensions hlen (by omega) (by omega)).bind fun elements hel => ?_
    exact ⟨hel, by simp⟩
  · refine (ensures_parseTwoBytesExtensions hlen (by omega) (by omega)).bind fun elements hel => ?_
    exact ⟨by simp, hel⟩

/-! ### The layout of a packet -/

def csrcEnd (mem : List UInt8) : ℕ := rtpHeaderSize + bits (byteAt mem 0) 0 4 * 4

/-- The bytes of the header extension, its id and length included. -/
def headerExtensionSize (mem : List UInt8) (packet : RtpPacket) : ℕ :=
  match packet.headerExtension with
  | none => 0
  | some pos => 4 + be16 mem (pos + 2) * 4

/-- The parts of the packet are where its fields say, one behind the other. -/
structure Layout (mem : List UInt8) (packet : RtpPacket) : Prop where
  size_le : packet.size ≤ mem.length
  version : (127 < byteAt mem 0 ∧ byteAt mem 0 < 192) ∧ bits (byteAt mem 0) 6 2 = 2
  headerExtension : packet.headerExtension =
    if bit (byteAt mem 0) 4 then some (csrcEnd mem) else none
  payload : packet.payload = csrcEnd mem + packet.headerExtensionSize mem
  size : packet.payload + packet.payloadLength + packet.payloadPadding = packet.size
  padded : bit (byteAt mem 0) 5 = decide (packet.payloadPadding ≠ 0)
  padding : packet.payloadPadding ≠ 0 →
    (byteAt mem (packet.size - 1)).toNat = packet.payloadPadding
  noElements : packet.headerExtension = none →
    packet.oneByteExtensions = [] ∧ packet.twoBytesExtensions = []
  elements : ∀ pos, packet.headerExtension = some pos →
    elementsAt mem pos = value (packet.oneByteExtensions, packet.twoBytesExtensions)

section

variable (h : len ≤ mem.length)
include h

theorem ensures_isRtp : (isRtp mem len).Ensures fun ok => ok = true →
      rtpHeaderSize ≤ len ∧ (127 < byteAt mem 0 ∧ byteAt mem 0 < 192) ∧
        bits (byteAt mem 0) 6 2 = 2 := by
  refine .ite (fun _ => by simp) fun hlen => ?_
  have h12 : 12 ≤ len := not_lt.mp hlen
  rw [read_byteAt (by omega), value_bind]
  exact fun hok => ⟨h12, by simpa using hok⟩

theorem ensures_parseHeaderExtension {extension : Bool} (hptr : ptr ≤ len) :
    (parseHeaderExtension mem len ptr extension).Ensures fun r =>
      r.1 = (if extension then some ptr else none) ∧ r.2 ≤ len ∧
        r.2 = ptr + (if extension then 4 + be16 mem (ptr + 2) * 4 else 0) := by
  refine .ite (fun hext => ?_) fun hext => ?_
  · refine ensures_require.bind fun _ h4 => ?_
    rw [readBe_be16 (by omega), value_bind]
    refine ensures_require.bind fun _ hroom => ?_
    simp only [hext, if_true]
    exact ⟨rfl, hroom, by omega⟩
  · simp only [hext, Bool.false_eq_true, if_false]
    exact ⟨rfl, hptr, rfl⟩

theorem ensures_parsePadding {padding : Bool} :
    (parsePadding mem len ptr padding).Ensures fun payloadPadding =>
      payloadPadding ≤ len - ptr ∧ padding = decide (payloadPadding ≠ 0) ∧
        (payloadPadding ≠ 0 → (byteAt mem (len - 1)).toNat = payloadPadding) := by
  refine .ite (fun hpadding => ?_) fun hpadding => ?_
  · refine ensures_require.bind fun _ hne => ?_
    rw [read_byteAt (by omega), value_bind]
    refine ensures_require.bind fun _ h0 => ensures_require.bind fun _ hroom => ?_
    refine ⟨hroom, ?_, fun _ => rfl⟩
    have hnat : (byteAt mem (len - 1)).toNat ≠ 0 := fun h => h0 (UInt8.toNat_inj.mp h)
    rw [hpadding, decide_eq_true hnat]
  · exact ⟨Nat.zero_le _, by simpa using hpadding, fun h => absurd rfl h⟩

/-- **Parsing.**  The parser only reads the received bytes, its loops end, and the packet it
returns has the layout. -/
theorem ensures_parse :
    (parse mem len).Ensures fun packet => packet.size = len ∧ packet.Layout mem := by
  refine (ensures_isRtp h).bind fun ok hok => ensures_require.bind fun _ htrue => ?_
  obtain ⟨h12, hversion⟩ := hok htrue
  have h12' : 12 ≤ len := h12
  rw [read_byteAt (by omega), value_bind]
  refine ensures_require.bind fun _ hcsrc => ?_
  refine (ensures_parseHeaderExtension h hcsrc).bind fun r hr => ?_
  obtain ⟨headerExtension, payload⟩ := r
  obtain ⟨hext, hle, hpay⟩ := hr
  simp only at hext hle hpay
  refine (ensures_parsePadding h).bind fun payloadPadding hpadding => ?_
  obtain ⟨hroom, hflag, hlast⟩ := hpadding
  have hpayload : ∀ packet : RtpPacket, packet.headerExtension = headerExtension →
      payload = csrcEnd mem + packet.headerExtensionSize mem := by
    intro packet hpacket
    rw [hpay, headerExtensionSize, hpacket, hext]
    split_ifs <;> rfl
  cases headerExtension with
  | none =>
    exact ⟨rfl, { size_le := h, version := hversion, headerExtension := hext, padded := hflag
                  payload := hpayload _ rfl, size := by simp only; omega, padding := hlast
                  noElements := fun _ => ⟨rfl, rfl⟩, elements := by simp }⟩
  | some pos =>
    -- the fields of the bare packet stay, the elements are those found at `pos`
    have hsize : payload = csrcEnd mem + (4 + be16 mem (pos + 2) * 4) := hpayload
      { headerExtension := some pos, payload, payloadPadding, size := len
        payloadLength := len - payload - payloadPadding
        oneByteExtensions := [], twoBytesExtensions := [] } rfl
    obtain rfl : pos = csrcEnd mem := by
      split_ifs at hext
      exact Option.some.inj hext
    change ((bare ⟨_, _, _, _, _, [], []⟩).parseExtensions mem (csrcEnd mem)).Ensures _
    rw [parseExtensions_bare rfl]
    have hin : csrcEnd mem + 4 + be16 mem (csrcEnd mem + 2) * 4 ≤ mem.length := by omega
    refine (ensures_elementsAt (Nat.le_add_right _ _) hin).self_eq.bind
      fun elements helements => ⟨rfl, ?_⟩
    exact { size_le := h, version := hversion, headerExtension := hext, padded := hflag
            payload := hpayload _ rfl, size := by simp only; omega, padding := hlast
            noElements := by simp, elements := by rintro _ ⟨⟩; exact helements.1 }

end

section

variable (h : packet.Layout mem)
include h

theorem Layout.payload_le : packet.payload ≤ packet.size := by
  have := h.size
  omega

theorem Layout.csrcEnd_le : csrcEnd mem ≤ packet.payload := by
  rw [h.payload]
  exact Nat.le_add_right _ _

theorem Layout.header_le : 12 ≤ packet.payload :=
  (Nat.le_add_right 12 _).trans h.csrcEnd_le

theorem Layout.extension {pos : ℕ} (hext : packet.headerExtension = some pos) :
    pos = csrcEnd mem ∧ pos + 4 + be16 mem (pos + 2) * 4 = packet.payload := by
  have hwhere := h.headerExtension
  rw [hext] at hwhere
  split_ifs at hwhere with hbit
  have hpos := Option.some.inj hwhere
  refine ⟨hpos, ?_⟩
  rw [h.payload, headerExtensionSize, hext, ← hpos]
  exact Nat.add_assoc _ _ _

theorem Layout.isRtp : isRtp mem packet.size = value true := by
  have h12 : rtpHeaderSize ≤ packet.size := h.header_le.trans h.payload_le
  have hread : read mem 0 = value (byteAt mem 0) :=
    read_byteAt (lt_of_lt_of_le (Nat.succ_pos 11) (h12.trans h.size_le))
  rw [RtpPacket.isRtp, if_neg (not_lt.mpr h12), hread, value_bind]
  exact congrArg value (decide_eq_true h.version)

theorem Layout.parseHeaderExtension :
    parseHeaderExtension mem packet.size (csrcEnd mem) (bit (byteAt mem 0) 4) =
      value (packet.headerExtension, packet.payload) := by
  have hle := h.size_le
  have hpayload := h.payload
  have hsize := h.payload_le
  unfold headerExtensionSize at hpayload
  rw [h.headerExtension] at hpayload ⊢
  unfold RtpPacket.parseHeaderExtension
  split_ifs with hext
  · simp only [hext, if_true] at hpayload
    rw [require_of (by omega), value_bind, readBe_be16 (by omega), value_bind,
      require_of (by omega), value_bind, hpayload]
    exact congrArg (fun n => value (some (csrcEnd mem), n)) (Nat.add_assoc _ _ _)
  · simp only [hext] at hpayload
    rw [hpayload]
    rfl

theorem Layout.parsePadding : parsePadding mem packet.size packet.payload (bit (byteAt mem 0) 5) =
      value packet.payloadPadding := by
  have hle := h.size_le
  have hsize := h.size
  rw [h.padded]
  unfold RtpPacket.parsePadding
  by_cases h0 : packet.payloadPadding = 0
  · rw [if_neg (by simpa using h0), h0]
    rfl
  have hlast := h.padding h0
  have hbyte : byteAt mem (packet.size - 1) ≠ 0 := by
    intro heq
    rw [heq] at hlast
    exact h0 hlast.symm
  rw [if_pos (by simpa using h0), require_of (by omega), value_bind, read_byteAt (by omega),
    value_bind, require_of hbyte, value_bind, hlast, require_of (by omega), value_bind]
  rfl

theorem Layout.parse : parse mem packet.size = value packet := by
  have hle := h.size_le
  have hcsrc : csrcEnd mem ≤ packet.size := h.csrcEnd_le.trans h.payload_le
  have h12 := h.header_le
  have hsize := h.payload_le
  have hlength : packet.size - packet.payload - packet.payloadPadding = packet.payloadLength := by
    have := h.size
    omega
  have hext := h.parseHeaderExtension
  have hpadding := h.parsePadding
  unfold csrcEnd at hext hcsrc
  rw [RtpPacket.parse, h.isRtp, value_bind, require_of rfl, value_bind, read_byteAt (by omega),
    value_bind]
  simp only [require_of hcsrc, hext, hpadding, hlength, value_bind]
  -- the elements are parsed last, over the packet without them
  cases hpos : packet.headerExtension with
  | none =>
    obtain ⟨hone, htwo⟩ := h.noElements hpos
    obtain ⟨headerExtension, payload, payloadLength, payloadPadding, size, one, two⟩ := packet
    subst hpos hone htwo
    rfl
  | some pos =>
    have hparse := @parseExtensions_bare mem packet pos hpos
    rw [h.elements pos hpos, value_bind, RtpPacket.bare, hpos] at hparse
    refine hparse.trans (congrArg value ?_)
    rw [← hpos]

theorem Layout.framed : packet.Framed mem where
  size_eq := h.size
  size_le := h.size_le
  header_le := h.header_le
  extension := by
    intro pos hpos
    obtain ⟨rfl, hend⟩ := h.extension hpos
    exact ⟨Nat.le_add_right _ _, hend⟩

end

/-! ### The extensions of a packet -/

/-- Where the value of an extension is, and its length. -/
def extensionAt (mem : List UInt8) (packet : RtpPacket) (id : ℕ) : Option (ℕ × ℕ) :=
  match packet.oneByteExtensions.lookup id, packet.twoBytesExtensions.lookup id with
  | some ptr, _ => if id = 0 ∨ 14 < id then none else some (ptr + 1, bits (byteAt mem ptr) 0 4 + 1)
  | none, some ptr =>
    if id = 0 ∨ byteAt mem (ptr + 1) = 0 then none
    else some (ptr + 2, (byteAt mem (ptr + 1)).toNat)
  | none, none => none

/-- The elements of the header extension, and that they are of one format. -/
structure Elements (mem : List UInt8) (packet : RtpPacket) : Prop where
  oneByte : ∀ id ptr, packet.oneByteExtensions.lookup id = some ptr →
    rtpHeaderSize ≤ ptr ∧ ptr + 1 + (bits (byteAt mem ptr) 0 4 + 1) ≤ packet.payload
  twoBytes : ∀ id ptr, packet.twoBytesExtensions.lookup id = some ptr →
    rtpHeaderSize ≤ ptr ∧ ptr + 2 + (byteAt mem (ptr + 1)).toNat ≤ packet.payload

section

variable (h : packet.Layout mem)
include h

theorem Layout.elementsIn : packet.Elements mem := by
  cases hext : packet.headerExtension with
  | none =>
    obtain ⟨hone, htwo⟩ := h.noElements hext
    constructor
    · simp [hone]
    · simp [htwo]
  | some pos =>
    obtain ⟨hpos, hend⟩ := h.extension hext
    have hle := h.payload_le.trans h.size_le
    obtain ⟨hone, htwo⟩ := (ensures_elementsAt (hpos ▸ Nat.le_add_right _ _) (by omega)).of_eq
      (h.elements _ hext)
    rw [hend] at hone htwo
    exact ⟨fun id ptr hptr => hone _ (mem_of_lookup hptr),
      fun id ptr hptr => htwo _ (mem_of_lookup hptr)⟩

theorem Layout.getExtension (id : ℕ) :
    packet.getExtension mem id = value (packet.extensionAt mem id) := by
  have hle := h.payload_le.trans h.size_le
  unfold RtpPacket.getExtension extensionAt hasOneByteExtensions hasTwoBytesExtensions
    getHeaderExtensionId
  cases hext : packet.headerExtension with
  | none =>
    obtain ⟨hone, htwo⟩ := h.noElements hext
    simp [hone, htwo]
  | some pos =>
    obtain ⟨-, hend⟩ := h.extension hext
    have helements := h.elements pos hext
    unfold elementsAt at helements
    rw [readBe_be16 (by omega), value_bind, readBe_be16 (by omega), value_bind] at helements
    simp only [readBe_be16 (show pos + 2 ≤ mem.length by omega), value_bind, pure_eq,
      decide_eq_true_eq]
    -- the extension's id decides which of the two tables is filled
    split_ifs at helements with hid hid'
    · obtain ⟨elements, -, hpair⟩ := bind_eq_value.mp helements
      obtain ⟨hone, htwo⟩ := Prod.mk.inj (value.inj hpair)
      cases hptr : packet.oneByteExtensions.lookup id with
      | none => simp [hid, ← htwo]
      | some ptr =>
        have := (h.elementsIn.oneByte id ptr hptr).2
        simp only [hid, if_true, read_byteAt (show ptr < mem.length by omega), value_bind]
        grind
    · obtain ⟨elements, -, hpair⟩ := bind_eq_value.mp helements
      obtain ⟨hone, htwo⟩ := Prod.mk.inj (value.inj hpair)
      cases hptr : packet.twoBytesExtensions.lookup id with
      | none => simp [hid, hid', ← hone]
      | some ptr =>
        have := (h.elementsIn.twoBytes id ptr hptr).2
        simp only [hid, hid', if_true, if_false, ← hone, List.lookup_nil,
          read_byteAt (show ptr + 1 < mem.length by omega), value_bind]
        grind
    · obtain ⟨hone, htwo⟩ := Prod.mk.inj (value.inj helements)
      simp [hid, hid', ← hone, ← htwo]

theorem Layout.extensionAt_le {id pos : ℕ}
    (hat : packet.extensionAt mem id = some (pos, len)) : 0 < len ∧ pos + len ≤ packet.payload := by
  unfold extensionAt at hat
  split at hat
  · next ptr hptr =>
    have := (h.elementsIn.oneByte id ptr hptr).2
    split_ifs at hat
    cases hat
    omega
  · next ptr _ hptr =>
    have := (h.elementsIn.twoBytes id ptr hptr).2
    split_ifs at hat with hne
    cases hat
    refine ⟨Nat.pos_of_ne_zero fun h0 => hne (.inr (UInt8.toNat_inj.mp h0)), by omega⟩
  · cases hat

theorem Layout.extensionAt_congr (hagree : AgreeOn mem mem' rtpHeaderSize packet.payload) (id : ℕ) :
    packet.extensionAt mem' id = packet.extensionAt mem id := by
  unfold extensionAt
  split
  · next ptr hptr =>
    obtain ⟨h12, hend⟩ := h.elementsIn.oneByte id ptr hptr
    rw [hagree.byteAt_eq ptr h12 (by omega)]
  · next ptr _ hptr =>
    obtain ⟨h12, hend⟩ := h.elementsIn.twoBytes id ptr hptr
    rw [hagree.byteAt_eq (ptr + 1) (by omega) (by omega)]
  · rfl

end

end RtpPacket

end Mediasoup
