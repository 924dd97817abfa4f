/-
The VP8 payload descriptor parser (`RTC::Codecs::VP8::Parse`).

The descriptor has a mandatory byte, an extension byte and up to four optional
ones.  Each optional field is read by its own step, which moves the offset to the
last byte read; the invariant `offset < payload length` carries the proof of

* `VP8.safe_parse` — every read of the parser is inside the payload.
-/
import Mediasoup.Lib.Bytes
import Mediasoup.Lib.Checked

open Bytes Checked

namespace Mediasoup

/-- The one- or two-byte picture id after the byte at `offset`, whether it has two
bytes, and the offset of its last byte.  VP8 and VP9 share this layout. -/
def readPictureId (data : List UInt8) (offset : ℕ) : Checked (ℕ × Bool × ℕ) := do
  let offset := offset + 1
  require (offset + 1 ≤ data.length)
  let byte ← read data offset
  if bit byte 7 then do
    let offset := offset + 1
    require (offset + 1 ≤ data.length)
    let low ← read data offset
    return (bits byte 0 7 * 256 + low.toNat, true, offset)
  else return (bits byte 0 7, false, offset)

theorem ensures_readPictureId (data : List UInt8) (offset : ℕ) :
    (readPictureId data offset).Ensures fun r => r.2.2 < data.length := by
  refine ensures_require.bind fun _ hlen => (ensures_read (by omega)).bind fun byte _ => ?_
  refine .ite (fun _ => ?_) fun _ => hlen
  exact ensures_require.bind fun _ hlen => (ensures_read (by omega)).bind fun _ _ => hlen

namespace VP8

/-- Fields the parser leaves unset keep their default. -/
structure PayloadDescriptor where
  -- Mandatory fields.
  extended : Bool := false
  nonReference : Bool := false
  start : Bool := false
  partitionIndex : ℕ := 0
  -- Optional field flags.
  i : Bool := false
  l : Bool := false
  t : Bool := false
  k : Bool := false
  -- Optional fields.
  pictureId : ℕ := 0
  tl0PictureIndex : ℕ := 0
  tlIndex : ℕ := 0
  y : Bool := false
  keyIndex : ℕ := 0
  -- Parsed values.
  isKeyFrame : Bool := false
  hasPictureId : Bool := false
  hasOneBytePictureId : Bool := false
  hasTwoBytesPictureId : Bool := false
  hasTl0PictureIndex : Bool := false
  hasTlIndex : Bool := false

variable (data : List UInt8) (pd : PayloadDescriptor) (offset : ℕ)

def parsePictureId : Checked (PayloadDescriptor × ℕ) :=
  if pd.i then do
    let (pictureId, twoBytes, offset) ← readPictureId data offset
    return ({ pd with
      hasTwoBytesPictureId := twoBytes
      hasOneBytePictureId := !twoBytes
      pictureId := pictureId
      hasPictureId := true }, offset)
  else return (pd, offset)

def parseTl0PictureIndex : Checked (PayloadDescriptor × ℕ) :=
  if pd.l then do
    let offset := offset + 1
    require (offset + 1 ≤ data.length)
    let byte ← read data offset
    return ({ pd with hasTl0PictureIndex := true, tl0PictureIndex := byte.toNat }, offset)
  else return (pd, offset)

def parseTlIndex : Checked (PayloadDescriptor × ℕ) :=
  if pd.t || pd.k then do
    let offset := offset + 1
    require (offset + 1 ≤ data.length)
    let byte ← read data offset
    return ({ pd with
      hasTlIndex := true
      tlIndex := bits byte 6 2
      y := bit byte 5
      keyIndex := bits byte 0 5 }, offset)
  else return (pd, offset)

/-- A key frame starts partition 0 and has the inverse key frame bit unset. -/
def parseKeyFrame : Checked PayloadDescriptor :=
  let offset := offset + 1
  if offset + 1 ≤ data.length ∧ pd.start ∧ pd.partitionIndex = 0 then do
    let byte ← read data offset
    return if bit byte 0 then pd else { pd with isKeyFrame := true }
  else return pd

def parse (data : List UInt8) : Checked PayloadDescriptor := do
  require (1 ≤ data.length)
  let byte ← read data 0
  let pd : PayloadDescriptor := {
    extended := bit byte 7
    nonReference := bit byte 5
    start := bit byte 4
    partitionIndex := bits byte 0 3 }
  require (pd.extended = true)
  require (2 ≤ data.length)
  let byte ← read data 1
  let pd := { pd with i := bit byte 7, l := bit byte 6, t := bit byte 5, k := bit byte 4 }
  let (pd, offset) ← parsePictureId data pd 1
  let (pd, offset) ← parseTl0PictureIndex data pd offset
  let (pd, offset) ← parseTlIndex data pd offset
  parseKeyFrame data pd offset

variable {data : List UInt8} {pd : PayloadDescriptor} {offset : ℕ}

theorem ensures_parsePictureId (h : offset < data.length) :
    (parsePictureId data pd offset).Ensures fun r => r.2 < data.length := by
  refine .ite (fun _ => ?_) fun _ => h
  exact (ensures_readPictureId data offset).bind fun _ ho => ho

theorem ensures_parseTl0PictureIndex (h : offset < data.length) :
    (parseTl0PictureIndex data pd offset).Ensures fun r => r.2 < data.length := by
  refine .ite (fun _ => ?_) fun _ => h
  exact ensures_require.bind fun _ hlen => (ensures_read (by omega)).bind fun _ _ => hlen

theorem ensures_parseTlIndex (h : offset < data.length) :
    (parseTlIndex data pd offset).Ensures fun r => r.2 < data.length := by
  refine .ite (fun _ => ?_) fun _ => h
  exact ensures_require.bind fun _ hlen => (ensures_read (by omega)).bind fun _ _ => hlen

theorem safe_parseKeyFrame : (parseKeyFrame data pd offset).Safe := by
  refine .ite (fun h => ?_) fun _ => trivial
  exact (ensures_read h.1).bind fun _ _ => trivial

/-- **VP8 payload descriptors** are parsed inside the payload. -/
theorem safe_parse (data : List UInt8) : (parse data).Safe := by
  refine ensures_require.bind fun _ h1 => (ensures_read (by omega)).bind fun _ _ => ?_
  refine ensures_require.bind fun _ _ => ensures_require.bind fun _ h2 => ?_
  refine (ensures_read (by omega)).bind fun _ _ => ?_
  refine (ensures_parsePictureId (by omega)).bind fun _ ho => ?_
  refine (ensures_parseTl0PictureIndex ho).bind fun _ ho => ?_
  exact (ensures_parseTlIndex ho).bind fun _ _ => safe_parseKeyFrame

end VP8

end Mediasoup
