/-
The VP9 payload descriptor parser (`RTC::Codecs::VP9::Parse`).

* `VP9.safe_parse` — every read of the parser is inside the payload.
-/
import Mediasoup.Codecs.VP8

open Bytes Checked

namespace Mediasoup

namespace VP9

/-- Fields the parser leaves unset keep their default. -/
structure PayloadDescriptor where
  -- Header.
  i : Bool := false
  p : Bool := false
  l : Bool := false
  f : Bool := false
  b : Bool := false
  e : Bool := false
  v : Bool := false
  -- Extension fields.
  pictureId : ℕ := 0
  slIndex : ℕ := 0
  tlIndex : ℕ := 0
  tl0PictureIndex : ℕ := 0
  switchingUpPoint : Bool := false
  interLayerDependency : Bool := false
  -- Parsed values.
  isKeyFrame : Bool := false
  hasPictureId : Bool := false
  hasOneBytePictureId : Bool := false
  hasTwoBytesPictureId : Bool := false
  hasTl0PictureIndex : Bool := false
  hasSlIndex : Bool := false
  hasTlIndex : Bool := false

def parsePictureId (data : List UInt8) (pd : PayloadDescriptor) (offset : ℕ) :
    Checked (PayloadDescriptor × ℕ) :=
  if pd.i then do
    let (pictureId, twoBytes, offset) ← readPictureId data offset
    return ({ pd with
      pictureId := pictureId
      hasTwoBytesPictureId := twoBytes
      hasOneBytePictureId := !twoBytes
      hasPictureId := true }, offset)
  else return (pd, offset)

/-- Room for the TL0PICIDX byte is required even in flexible mode, where it is
not read. -/
def parseLayerIndices (data : List UInt8) (pd : PayloadDescriptor) (offset : ℕ) :
    Checked PayloadDescriptor :=
  if pd.l then do
    let offset := offset + 1
    require (offset + 1 ≤ data.length)
    let byte ← read data offset
    let pd := { pd with
      interLayerDependency := bit byte 0
      switchingUpPoint := bit byte 4
      slIndex := bits byte 1 3
      tlIndex := bits byte 5 3
      hasSlIndex := true
      hasTlIndex := true }
    let offset := offset + 1
    require (offset + 1 ≤ data.length)
    if pd.f then return pd
    else do
      let byte ← read data offset
      return { pd with tl0PictureIndex := byte.toNat, hasTl0PictureIndex := true }
  else return pd

def parse (data : List UInt8) : Checked PayloadDescriptor := do
  require (1 ≤ data.length)
  let byte ← read data 0
  let pd : PayloadDescriptor := {
    i := bit byte 7, p := bit byte 6, l := bit byte 5, f := bit byte 4
    b := bit byte 3, e := bit byte 2, v := bit byte 1 }
  let (pd, offset) ← parsePictureId data pd 0
  let pd ← parseLayerIndices data pd offset
  return if !pd.p ∧ pd.b ∧ pd.slIndex = 0 then { pd with isKeyFrame := true } else pd

variable {data : List UInt8} {pd : PayloadDescriptor} {offset : ℕ}

theorem safe_parsePictureId : (parsePictureId data pd offset).Safe := by
  refine .ite (fun _ => ?_) fun _ => trivial
  exact (ensures_readPictureId data offset).bind fun _ _ => trivial

theorem safe_parseLayerIndices : (parseLayerIndices data pd offset).Safe := by
  refine .ite (fun _ => ?_) fun _ => trivial
  refine ensures_require.bind fun _ hlen => (ensures_read (by omega)).bind fun byte _ => ?_
  refine ensures_require.bind fun _ hlen => .ite (fun _ => trivial) fun _ => ?_
  exact (ensures_read (by omega)).bind fun _ _ => trivial

/-- **VP9 payload descriptors** are parsed inside the payload. -/
theorem safe_parse (data : List UInt8) : (parse data).Safe := by
  refine ensures_require.bind fun _ h1 => (ensures_read (by omega)).bind fun _ _ => ?_
  refine safe_parsePictureId.bind fun _ _ => ?_
  exact safe_parseLayerIndices.bind fun _ _ => trivial

end VP9

end Mediasoup
