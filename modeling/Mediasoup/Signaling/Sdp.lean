/-
What the signaling server reads in the SDP of a client (`common_util`).

Texts are lists of characters: the strings come out of `json.Unmarshal`, which replaces
what is not UTF-8.

* `lines`, `cut` — `strings.Split` at line ends and `strings.SplitN` with the limit two,
* `getFingerNameContent` — the DTLS fingerprint; the Go function panics on a line without
  a space after the name of the algorithm,
* `scanOffer` — the loop of `ParseUpOfferSDP`.
-/
import Mediasoup.Lib.Json

namespace Mediasoup.Signaling

open Json

/-! ### Strings -/

/-- The loop of `strings.Split(sdp, "\r\n")`; `line` is reversed. -/
def linesFrom (line : Text) : Text → List Text
  | [] => [line.reverse]
  | '\r' :: '\n' :: rest => line.reverse :: linesFrom [] rest
  | c :: rest => linesFrom (c :: line) rest

def lines (sdp : Text) : List Text := linesFrom [] sdp

/-- The text before and after the first occurrence of a separator, which is not empty:
`strings.SplitN` with the limit two. -/
def cut (separator : Text) : Text → Option (Text × Text)
  | [] => none
  | c :: rest =>
    if separator.isPrefixOf (c :: rest) then some ([], (c :: rest).drop separator.length)
    else (cut separator rest).map fun parts => (c :: parts.1, parts.2)

/-- `strings.Contains`. -/
def contains (line word : Text) : Bool := (cut word line).isSome

/-! ### The fingerprint -/

def fingerprintLine (sdp : Text) : Option Text :=
  (lines sdp).find? fun line => "a=fingerprint:".toList.isPrefixOf line

/-- `GetFingerNameContent`; nothing if `inter[1]` is out of range. -/
def getFingerNameContent (sdp : Text) : Option (Text × Text) :=
  match fingerprintLine sdp with
  | none => some ([], [])
  | some line =>
    match cut "sha-".toList line with
    | none => some ([], [])
    | some (_, rest) =>
      match cut " ".toList rest with
      | none => none
      | some (name, content) => some ("sha-".toList ++ name, content)

/-! ### The offer of a producer -/

/-- What `ParseUpOfferSDP` has found so far. -/
structure OfferScan where
  audioSsrc : UInt32 := 0
  videoSsrc1 : UInt32 := 0
  videoSsrc2 : UInt32 := 0
  simulcast : Bool := false

/-- The next SSRC goes to the first variable that is free or has it already. -/
def OfferScan.add (scan : OfferScan) (ssrc : UInt32) : OfferScan :=
  if scan.audioSsrc = 0 ∨ scan.audioSsrc = ssrc then { scan with audioSsrc := ssrc }
  else if scan.videoSsrc1 = 0 ∨ scan.videoSsrc1 = ssrc then { scan with videoSsrc1 := ssrc }
  else if scan.videoSsrc2 = 0 ∨ scan.videoSsrc2 = ssrc then { scan with videoSsrc2 := ssrc }
  else scan

/-- One line; `sscanf` is the number that `fmt.Sscanf` finds, zero if there is none. -/
def OfferScan.line (sscanf : Text → UInt32) (scan : OfferScan) (line : Text) : OfferScan :=
  if contains line "simulcast".toList then { scan with simulcast := true }
  else if "a=ssrc:".toList.isPrefixOf line then
    let ssrcStr := line.drop "a=ssrc:".toList.length
    match cut " ".toList ssrcStr with
    | some (ssrcStr, _) => scan.add (sscanf ssrcStr)
    | none => scan.add (sscanf ssrcStr)
  else scan

def scanOffer (sscanf : Text → UInt32) (sdp : Text) : OfferScan :=
  (lines sdp).foldl (OfferScan.line sscanf) {}

end Mediasoup.Signaling
