/-
RTP packets inside the buffer they were received in (`RTC::RtpPacket`).

The buffer is a list of bytes whose length is its capacity, and the packet is in
its first bytes; pointers are positions in the buffer.  The lengths and ids of
the header extension stay in the buffer and are read again when needed.

* `Framed` — the packet lies in its buffer, and its parts are adjacent;
* `ensures_parseOneByteExtensions`, `ensures_parseTwoBytesExtensions` — the loops over the
  elements of the header extension end, inside of it.
-/
import Mediasoup.Lib.Memory

open List Bytes Checked

namespace Mediasoup

/-- `RtpPacket::HeaderSize`. -/
def rtpHeaderSize : ℕ := 12

structure RtpPacket where
  headerExtension : Option ℕ
  payload : ℕ
  payloadLength : ℕ
  payloadPadding : ℕ
  size : ℕ
  /-- The elements of a One-Byte header extension by id, the last one first. -/
  oneByteExtensions : List (ℕ × ℕ)
  /-- The elements of a Two-Bytes header extension by id, the last one first. -/
  twoBytesExtensions : List (ℕ × ℕ)
  deriving DecidableEq

namespace RtpPacket

/-! ### Parsing -/

variable (mem : List UInt8) (packet : RtpPacket)

def isRtp (len : ℕ) : Checked Bool :=
  if len < rtpHeaderSize then return false
  else do
    let first ← read mem 0
    return (127 < first ∧ first < 192) ∧ bits first 6 2 = 2

/-- The header extension announced at `ptr`, and the position behind it. -/
def parseHeaderExtension (len ptr : ℕ) (extension : Bool) : Checked (Option ℕ × ℕ) :=
  if extension then do
    require (ptr + 4 ≤ len)
    let length ← readBe mem 2 (ptr + 2)
    require (ptr + 4 + length * 4 ≤ len)
    return (some ptr, ptr + 4 + length * 4)
  else return (none, ptr)

/-- The padding of the payload, which starts at `ptr`. -/
def parsePadding (len ptr : ℕ) (padding : Bool) : Checked ℕ :=
  if padding then do
    require (len - ptr ≠ 0)
    let payloadPadding ← read mem (len - 1)
    require (payloadPadding ≠ 0)
    require (payloadPadding.toNat ≤ len - ptr)
    return payloadPadding.toNat
  else return 0

/-- Skip the zero bytes between two elements. -/
def skipPadding (mem : List UInt8) (extensionEnd : ℕ) : ℕ → ℕ → Checked ℕ
  | 0, _ => outOfFuel
  | fuel + 1, ptr =>
    if ptr < extensionEnd then do
      let byte ← read mem ptr
      if byte = 0 then skipPadding mem extensionEnd fuel (ptr + 1) else return ptr
    else return ptr

/-- The One-Byte elements from `ptr` on. -/
def parseOneByteExtensions (mem : List UInt8) (extensionEnd : ℕ) : ℕ → ℕ → Checked (List (ℕ × ℕ))
  | 0, _ => outOfFuel
  | fuel + 1, ptr =>
    if ptr < extensionEnd then do
      let byte ← read mem ptr
      let id := bits byte 4 4
      let len := bits byte 0 4 + 1
      -- id 15 means "stop parsing here", id 0 means alignment
      if id = 15 then return []
      else if id = 0 then do
        let ptr ← skipPadding mem extensionEnd (extensionEnd + 1) (ptr + 1)
        parseOneByteExtensions mem extensionEnd fuel ptr
      else if extensionEnd < ptr + 1 + len then return []
      else do
        let next ← skipPadding mem extensionEnd (extensionEnd + 1) (ptr + 1 + len)
        let rest ← parseOneByteExtensions mem extensionEnd fuel next
        return rest ++ [(id, ptr)]
    else return []

/-- The Two-Bytes elements from `ptr` on. -/
def parseTwoBytesExtensions (mem : List UInt8) (extensionEnd : ℕ) : ℕ → ℕ → Checked (List (ℕ × ℕ))
  | 0, _ => outOfFuel
  | fuel + 1, ptr =>
    if ptr + 1 < extensionEnd then do
      let id ← read mem ptr
      let len ← read mem (ptr + 1)
      if id = 0 then do
        let ptr ← skipPadding mem extensionEnd (extensionEnd + 1) (ptr + 1)
        parseTwoBytesExtensions mem extensionEnd fuel ptr
      else if extensionEnd < ptr + 2 + len.toNat then return []
      else do
        let next ← skipPadding mem extensionEnd (extensionEnd + 1) (ptr + 2 + len.toNat)
        let rest ← parseTwoBytesExtensions mem extensionEnd fuel next
        return rest ++ [(id.toNat, ptr)]
    else return []

def getHeaderExtensionId : Checked ℕ :=
  match packet.headerExtension with
  | none => return 0
  | some pos => readBe mem 2 pos

def getHeaderExtensionLength : Checked ℕ :=
  match packet.headerExtension with
  | none => return 0
  | some pos => do
    let length ← readBe mem 2 (pos + 2)
    return length * 4

def hasOneByteExtensions : Checked Bool := do
  let id ← packet.getHeaderExtensionId mem
  return id = 0xBEDE

def hasTwoBytesExtensions : Checked Bool := do
  let id ← packet.getHeaderExtensionId mem
  return id / 16 = 0x100

/-- `ParseExtensions`, of the header extension at `pos`. -/
def parseExtensions (pos : ℕ) : Checked RtpPacket := do
  let length ← packet.getHeaderExtensionLength mem
  let extensionEnd := pos + 4 + length
  let oneByte ← packet.hasOneByteExtensions mem
  let twoBytes ← packet.hasTwoBytesExtensions mem
  if oneByte then do
    let elements ← parseOneByteExtensions mem extensionEnd (extensionEnd + 1) (pos + 4)
    return { packet with oneByteExtensions := elements }
  else if twoBytes then do
    let elements ← parseTwoBytesExtensions mem extensionEnd (extensionEnd + 1) (pos + 4)
    return { packet with twoBytesExtensions := elements }
  else return packet

/-- `Parse`, of the first `len` bytes of the buffer, with the constructor. -/
def parse (len : ℕ) : Checked RtpPacket := do
  let ok ← isRtp mem len
  require ok
  let first ← read mem 0
  let csrcListSize := bits first 0 4 * 4
  require (rtpHeaderSize + csrcListSize ≤ len)
  let (headerExtension, payload) ←
    parseHeaderExtension mem len (rtpHeaderSize + csrcListSize) (bit first 4)
  let payloadPadding ← parsePadding mem len payload (bit first 5)
  let packet : RtpPacket :=
    { headerExtension, payload, payloadPadding, size := len
      payloadLength := len - payload - payloadPadding
      oneByteExtensions := [], twoBytesExtensions := [] }
  match headerExtension with
  | none => return packet
  | some pos => packet.parseExtensions mem pos

/-! ### Reading extensions -/

/-- The position and the length of the value of an extension. -/
def getExtension (id : ℕ) : Checked (Option (ℕ × ℕ)) :=
  if id = 0 then return none
  else do
    let oneByte ← packet.hasOneByteExtensions mem
    let twoBytes ← packet.hasTwoBytesExtensions mem
    if oneByte then
      if 14 < id then return none
      else
        match packet.oneByteExtensions.lookup id with
        | none => return none
        | some ptr => do
          let byte ← read mem ptr
          return some (ptr + 1, bits byte 0 4 + 1)
    else if twoBytes then
      match packet.twoBytesExtensions.lookup id with
      | none => return none
      | some ptr => do
        let len ← read mem (ptr + 1)
        -- a value of length zero counts as absent
        if len = 0 then return none else return some (ptr + 2, len.toNat)
    else return none

/-! ### Writing -/

def setPayloadType (payloadType : ℕ) : Checked (List UInt8) := do
  let byte ← read mem 1
  store mem 1 [byte &&& 0x80 ||| UInt8.ofNat (payloadType % 128)]

def setSsrc (ssrc : ℕ) : Checked (List UInt8) := store mem 8 (toBe32 ssrc)

def setPayloadPaddingFlag (flag : Bool) : Checked (List UInt8) := do
  let byte ← read mem 0
  store mem 0 [setBit byte 5 flag]

/-- Take the original packet out of a retransmission; `none` if there is none. -/
def rtxDecode (payloadType ssrc : ℕ) : Checked (Option (List UInt8 × RtpPacket)) :=
  if packet.payloadLength < 2 then return none
  else do
    let mem ← setPayloadType mem payloadType
    let sequenceNumber ← load mem packet.payload 2
    let mem ← store mem 2 sequenceNumber
    let mem ← setSsrc mem ssrc
    let mem ← memmove mem packet.payload (packet.payload + 2) (packet.payloadLength - 2)
    let packet := { packet with
      payloadLength := packet.payloadLength - 2, size := packet.size - 2 }
    if packet.payloadPadding ≠ 0 then do
      let mem ← setPayloadPaddingFlag mem false
      return some (mem, { packet with
        size := packet.size - packet.payloadPadding, payloadPadding := 0 })
    else return some (mem, packet)

/-- Make or close a gap of `shift` bytes in the payload. -/
def shiftPayload (payloadOffset shift : ℕ) (expand : Bool) : Checked (List UInt8 × RtpPacket) :=
  if shift = 0 then return (mem, packet)
  else do
    require (payloadOffset < packet.payloadLength)
    let offsetPtr := packet.payload + payloadOffset
    if expand then do
      let shiftedLen := packet.payloadLength + packet.payloadPadding - payloadOffset
      let mem ← memmove mem (offsetPtr + shift) offsetPtr shiftedLen
      return (mem, { packet with
        payloadLength := packet.payloadLength + shift, size := packet.size + shift })
    else do
      require (shift ≤ packet.payloadLength - payloadOffset)
      let shiftedLen := packet.payloadLength + packet.payloadPadding - payloadOffset - shift
      let mem ← memmove mem offsetPtr (offsetPtr + shift) shiftedLen
      return (mem, { packet with
        payloadLength := packet.payloadLength - shift, size := packet.size - shift })

/-! ### Setting extensions -/

/-- The two formats of header extension elements. -/
inductive ExtensionType where
  | oneByte
  | twoBytes
  deriving DecidableEq

/-- An extension to be set. -/
structure GenericExtension where
  id : ℕ
  value : List UInt8

namespace GenericExtension

def skipped (e : GenericExtension) : ExtensionType → Bool
  | .oneByte => e.id = 0 ∨ 14 < e.id ∨ e.value.length = 0 ∨ 16 < e.value.length
  | .twoBytes => e.id = 0

def encode (e : GenericExtension) : ExtensionType → List UInt8
  | .oneByte => UInt8.ofNat (e.id * 16 + (e.value.length - 1) % 16) :: e.value
  | .twoBytes => UInt8.ofNat e.id :: UInt8.ofNat e.value.length :: e.value

def encodedSize (e : GenericExtension) (type : ExtensionType) : ℕ :=
  if e.skipped type then 0
  else match type with
    | .oneByte => 1 + e.value.length
    | .twoBytes => 2 + e.value.length

end GenericExtension

/-- The header extension id of a format. -/
def ExtensionType.headerId : ExtensionType → ℕ
  | .oneByte => 0xBEDE
  | .twoBytes => 0x1000

/-- Keep the header extension id if it is one of the requested format. -/
def setHeaderExtensionId (type : ExtensionType) : Checked (List UInt8) := do
  let oneByte ← packet.hasOneByteExtensions mem
  let twoBytes ← packet.hasTwoBytesExtensions mem
  if type = .oneByte ∧ oneByte then return mem
  else if type = .twoBytes ∧ twoBytes then return mem
  else
    match packet.headerExtension with
    | some pos => store mem pos (toBe16 type.headerId)
    | none => return mem

/-- Write the id and the length of a header extension at `pos`. -/
def writeHeaderExtension (pos : ℕ) (type : ExtensionType) (total : ℕ) : Checked (List UInt8) := do
  let mem ← store mem pos (toBe16 type.headerId)
  store mem (pos + 2) (toBe16 (total / 4))

/-- Shift the payload so that the header extension value has `total` bytes.  The
distance is an `int16_t`. -/
def makeRoom (type : ExtensionType) (total : ℕ) : Checked (List UInt8 × RtpPacket × ℕ) :=
  match packet.headerExtension with
  | some pos => do
    let length ← packet.getHeaderExtensionLength mem
    let shift := toInt16 (total - length)
    if shift ≠ 0 then do
      let mem ← memmove mem (packet.payload + shift) packet.payload
        (packet.payloadLength + packet.payloadPadding)
      let mem ← store mem (pos + 2) (toBe16 (total / 4))
      return (mem, { packet with
        payload := (packet.payload + shift).toNat, size := (packet.size + shift).toNat }, pos)
    else return (mem, packet, pos)
  | none => do
    let shift := toInt16 (4 + toInt16 total)
    let pos := packet.payload
    let first ← read mem 0
    let mem ← store mem 0 [setBit first 4 true]
    let mem ← memmove mem (packet.payload + shift) packet.payload
      (packet.payloadLength + packet.payloadPadding)
    let mem ← writeHeaderExtension mem pos type total
    return (mem, { packet with
      headerExtension := some pos, payload := (packet.payload + shift).toNat
      size := (packet.size + shift).toNat }, pos)

/-- The loop that writes the extensions from `ptr` on. -/
def writeExtensions (type : ExtensionType) :
    List GenericExtension → List UInt8 → ℕ → Checked (List UInt8 × ℕ × List (ℕ × ℕ))
  | [], mem, ptr => return (mem, ptr, [])
  | e :: es, mem, ptr =>
    if e.skipped type then writeExtensions type es mem ptr
    else do
      let mem ← store mem ptr (e.encode type)
      let (mem, next, elements) ← writeExtensions type es mem (ptr + e.encodedSize type)
      return (mem, next, elements ++ [(e.id, ptr)])

/-- The size of all extensions, padded to words in `uint16_t`. -/
def paddedSize (size : ℕ) : ℕ := (size % 65536 + 3) / 4 * 4 % 65536

/-- The padding, a `size_t` difference. -/
def paddingSize (size : ℕ) : ℕ := (paddedSize size + 2 ^ 64 - size) % 2 ^ 64

/-- Write the extensions and `padding` zero bytes into the value of the header
extension at `pos`.  A failed assertion ends the run as a rejection. -/
def writeValue (pos : ℕ) (type : ExtensionType) (extensions : List GenericExtension) (padding : ℕ) :
    Checked (List UInt8 × RtpPacket) := do
  let (mem, ptr, elements) ← writeExtensions type extensions mem (pos + 4)
  let mem ← store mem ptr (List.replicate padding 0)
  require (ptr + padding = packet.payload)
  return (mem, match type with
    | .oneByte => { packet with oneByteExtensions := elements, twoBytesExtensions := [] }
    | .twoBytes => { packet with oneByteExtensions := [], twoBytesExtensions := elements })

def extensionsTotalSize (type : ExtensionType) (extensions : List GenericExtension) : ℕ :=
  (extensions.map (·.encodedSize type)).sum

def setExtensions (type : ExtensionType) (extensions : List GenericExtension) :
    Checked (List UInt8 × RtpPacket) := do
  let mem ← packet.setHeaderExtensionId mem type
  let (mem, packet, pos) ←
    packet.makeRoom mem type (paddedSize (extensionsTotalSize type extensions))
  packet.writeValue mem pos type extensions (paddingSize (extensionsTotalSize type extensions))

/-! ### The frame of a packet -/

/-- The packet lies in its buffer, and its parts are adjacent and end at its size. -/
structure Framed (mem : List UInt8) (packet : RtpPacket) : Prop where
  size_eq : packet.payload + packet.payloadLength + packet.payloadPadding = packet.size
  size_le : packet.size ≤ mem.length
  header_le : rtpHeaderSize ≤ packet.payload
  extension : ∀ pos, packet.headerExtension = some pos →
    rtpHeaderSize ≤ pos ∧ pos + 4 + be16 mem (pos + 2) * 4 = packet.payload

variable {mem : List UInt8} {extensionEnd : ℕ} {packet : RtpPacket} {fuel pos ptr : ℕ}

theorem mem_of_lookup {id : ℕ} {elements : List (ℕ × ℕ)} (h : elements.lookup id = some ptr) :
    (id, ptr) ∈ elements := by
  obtain ⟨l, r, rfl, -⟩ := lookup_eq_some_iff.mp h
  simp

theorem ensures_skipPadding (h : extensionEnd ≤ mem.length) (hfuel : extensionEnd - ptr < fuel) :
    (skipPadding mem extensionEnd fuel ptr).Ensures fun next => ptr ≤ next := by
  induction fuel generalizing ptr with
  | zero => omega
  | succ fuel ih =>
    refine .ite (fun hlt => ?_) fun _ => le_rfl
    refine (ensures_read (by omega)).bind fun byte _ => .ite (fun _ => ?_) fun _ => le_rfl
    exact (ih (by omega)).mono fun next hnext => by omega

theorem ensures_parseOneByteExtensions (h : extensionEnd ≤ mem.length)
    (hfuel : extensionEnd - ptr < fuel) (hptr : rtpHeaderSize ≤ ptr) :
    (parseOneByteExtensions mem extensionEnd fuel ptr).Ensures fun elements =>
      ∀ e ∈ elements, rtpHeaderSize ≤ e.2 ∧
        e.2 + 1 + (bits (byteAt mem e.2) 0 4 + 1) ≤ extensionEnd := by
  induction fuel generalizing ptr with
  | zero => omega
  | succ fuel ih =>
    refine .ite (fun hlt => ?_) fun _ => by simp
    refine (ensures_read_eq (by omega)).bind fun byte hbyte => ?_
    subst hbyte
    refine .ite (fun _ => by simp) fun _ => .ite (fun _ => ?_) fun _ => ?_
    · refine (ensures_skipPadding h (by omega)).bind fun next hnext => ?_
      exact ih (by omega) (by omega)
    refine .ite (fun _ => by simp) fun hroom => ?_
    refine (ensures_skipPadding h (by omega)).bind fun next hnext => ?_
    refine (ih (by omega) (by omega)).bind fun rest hrest => ?_
    exact forall_mem_append.mpr ⟨hrest, forall_mem_singleton.mpr ⟨hptr, by simp only; omega⟩⟩

theorem ensures_parseTwoBytesExtensions (h : extensionEnd ≤ mem.length)
    (hfuel : extensionEnd - ptr < fuel) (hptr : rtpHeaderSize ≤ ptr) :
    (parseTwoBytesExtensions mem extensionEnd fuel ptr).Ensures fun elements =>
      ∀ e ∈ elements, rtpHeaderSize ≤ e.2 ∧
        e.2 + 2 + (byteAt mem (e.2 + 1)).toNat ≤ extensionEnd := by
  induction fuel generalizing ptr with
  | zero => omega
  | succ fuel ih =>
    refine .ite (fun hlt => ?_) fun _ => by simp
    refine (ensures_read (by omega)).bind fun id _ => ?_
    refine (ensures_read_eq (by omega)).bind fun len hlen => ?_
    subst hlen
    refine .ite (fun _ => ?_) fun _ => ?_
    · refine (ensures_skipPadding h (by omega)).bind fun next hnext => ?_
      exact ih (by omega) (by omega)
    refine .ite (fun _ => by simp) fun hroom => ?_
    refine (ensures_skipPadding h (by omega)).bind fun next hnext => ?_
    refine (ih (by omega) (by omega)).bind fun rest hrest => ?_
    exact forall_mem_append.mpr ⟨hrest, forall_mem_singleton.mpr ⟨hptr, by simp only; omega⟩⟩

theorem ensures_getHeaderExtensionLength (hext : packet.headerExtension = some pos)
    (h : pos + 4 ≤ mem.length) : (packet.getHeaderExtensionLength mem).Ensures fun length =>
      length = be16 mem (pos + 2) * 4 := by
  rw [getHeaderExtensionLength, hext]
  exact (ensures_readBe_two (by omega)).bind fun length hlength => by rw [hlength]; rfl

end RtpPacket

end Mediasoup
