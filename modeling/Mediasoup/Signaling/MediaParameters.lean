/-
The RTP parameters that the signaling server hands to the worker (`bean`,
`common_util/up_offer.go` and the loop of `ProcessDownOfferSdp`).

A map of Go has its keys in the order in which `json.Marshal` writes them.

* `getAudioOpusParam`, `getVideoVP8Param`, `getSimulcastVideoVP8Param` — the parameters of
  the producers of an offer,
* `consumeSimple`, `consumeSimulcast` — the consumer of a producer.  The two share slices
  and maps, so that the producer's own parameters change, too.
-/
import Mediasoup.Signaling.Sdp

namespace Mediasoup.Signaling

open Json

/-! ### Identifiers -/

/-- A text over an alphabet. -/
structure TextOver (alphabet : Text) where
  text : Text
  allowed : ∀ c ∈ text, c ∈ alphabet
  deriving DecidableEq

def letterBytes : Text := "abcdefghijklmnopqrstuvwxyzABCDEFGHIJKLMNOPQRSTUVWXYZ".toList

def charset : Text := "abcdefghijklmnopqrstuvwxyz0123456789".toList

/-- A variable that was not set. -/
def TextOver.unset {alphabet : Text} : TextOver alphabet := ⟨[], by simp⟩

/-- What `RandStringBytes` returns. -/
abbrev Letters := TextOver letterBytes

/-- What `RandomStringWithHyphen` returns. -/
abbrev Credential := TextOver charset

/-! ### Parameters -/

structure RtcpFeedback where
  type : Text
  parameter : Text := []
  deriving DecidableEq

structure Codec where
  mimeType : Text
  payloadType : ℕ
  clockRate : ℕ
  channels : ℕ := 0
  parameters : List (Text × ℕ) := []
  rtcpFeedback : List RtcpFeedback := []
  deriving DecidableEq

/-- `rtx` is a map with the key "ssrc" or nil. -/
structure Encoding where
  active : Bool := false
  ssrc : UInt32 := 0
  rid : Text := []
  maxBitrate : ℕ := 0
  scalabilityMode : Text := []
  scaleResolutionDownBy : ℕ := 0
  dtx : Bool := false
  rtx : Option UInt32 := none
  deriving DecidableEq

structure HeaderExtension where
  uri : Text
  id : ℕ
  encrypt : Bool := false
  deriving DecidableEq

structure Rtcp where
  cname : Text
  reducedSize : Bool
  mux : Bool := false
  deriving DecidableEq

structure RtpParameters where
  mid : Text
  codecs : List Codec
  headerExtensions : List HeaderExtension
  encodings : List Encoding
  rtcp : Rtcp
  deriving DecidableEq

structure CodecMapping where
  payloadType : ℕ
  mappedPayloadType : ℕ
  deriving DecidableEq

structure EncodingMapping where
  ssrc : UInt32 := 0
  scalabilityMode : Text := []
  mappedSsrc : UInt32
  rid : Text := []
  deriving DecidableEq

structure RtpMapping where
  codecs : List CodecMapping
  encodings : List EncodingMapping
  deriving DecidableEq

structure MediaParameters where
  producerId : Letters := TextOver.unset
  kind : Text
  rtpParameters : RtpParameters
  rtpMapping : RtpMapping
  paused : Bool := false
  deriving DecidableEq

structure ConsumableRtpEncodings where
  ssrc : UInt32
  active : Bool := false
  maxBitrate : ℕ := 0
  scaleResolutionDownBy : ℕ := 0
  scalabilityMode : Text := []
  deriving DecidableEq

structure Consumer where
  producerId : Letters
  type : Text
  consumerId : Letters
  kind : Text
  rtpParameters : RtpParameters
  consumableRtpEncodings : List ConsumableRtpEncodings
  deriving DecidableEq

/-! ### The producers of an offer -/

def feedback (type parameter : String) : RtcpFeedback :=
  { type := type.toList, parameter := parameter.toList }

def extension (uri : String) (id : ℕ) : HeaderExtension := { uri := uri.toList, id }

def getAudioOpusParam (ssrc : UInt32) : MediaParameters where
  kind := "audio".toList
  rtpParameters :=
    { mid := "0".toList
      codecs :=
        [{ mimeType := "audio/opus".toList, payloadType := 111, clockRate := 48000, channels := 2
           parameters := [("minptime".toList, 10), ("sprop-stereo".toList, 1),
             ("usedtx".toList, 1), ("useinbandfec".toList, 1)]
           rtcpFeedback := [feedback "transport-cc" "", feedback "nack" ""] }]
      headerExtensions :=
        [extension "urn:ietf:params:rtp-hdrext:sdes:mid" 4,
          extension "http://www.webrtc.org/experiments/rtp-hdrext/abs-send-time" 2,
          extension "http://www.ietf.org/id/draft-holmer-rmcat-transport-wide-cc-extensions-01" 3,
          extension "urn:ietf:params:rtp-hdrext:ssrc-audio-level" 1]
      encodings := [{ ssrc }]
      rtcp := { cname := "audio".toList, reducedSize := true } }
  rtpMapping :=
    { codecs := [{ payloadType := 111, mappedPayloadType := 100 }]
      encodings := [{ mappedSsrc := ssrc + 1, ssrc }] }

/-- The codecs of the two video functions. -/
def videoVP8Codecs : List Codec :=
  [{ mimeType := "video/VP8".toList, payloadType := 96, clockRate := 90000
     rtcpFeedback := [feedback "goog-remb" "", feedback "transport-cc" "", feedback "ccm" "fir",
       feedback "nack" "", feedback "nack" "pli"] },
   { mimeType := "video/rtx".toList, payloadType := 97, clockRate := 90000
     parameters := [("apt".toList, 96)] }]

def videoVP8Extensions : List HeaderExtension :=
  [extension "urn:ietf:params:rtp-hdrext:sdes:mid" 4,
    extension "urn:ietf:params:rtp-hdrext:sdes:rtp-stream-id" 10,
    extension "urn:ietf:params:rtp-hdrext:sdes:repaired-rtp-stream-id" 11,
    extension "http://www.webrtc.org/experiments/rtp-hdrext/abs-send-time" 2,
    extension "http://www.ietf.org/id/draft-holmer-rmcat-transport-wide-cc-extensions-01" 3,
    extension "urn:3gpp:video-orientation" 13,
    extension "urn:ietf:params:rtp-hdrext:toffset" 14]

def videoVP8Mapping (encodings : List EncodingMapping) : RtpMapping :=
  { codecs := [{ payloadType := 96, mappedPayloadType := 101 },
      { payloadType := 97, mappedPayloadType := 102 }]
    encodings }

/-- Both video functions, with their encodings. -/
def videoVP8Param (encodings : List Encoding) (mapped : List EncodingMapping) :
    MediaParameters where
  kind := "video".toList
  rtpParameters :=
    { mid := "1".toList, codecs := videoVP8Codecs, headerExtensions := videoVP8Extensions
      encodings, rtcp := { cname := "video-01".toList, reducedSize := true } }
  rtpMapping := videoVP8Mapping mapped

def getVideoVP8Param (ssrc1 ssrc2 : UInt32) : MediaParameters :=
  videoVP8Param [{ ssrc := ssrc1, rtx := some ssrc2 }] [{ mappedSsrc := ssrc1 + 1, ssrc := ssrc1 }]

/-- The layers have the names r0, r1, r2; `ssrc` is random. -/
def getSimulcastVideoVP8Param (ssrc : UInt32) : MediaParameters :=
  let layer (rid : String) (scale maxBitrate : ℕ) : Encoding :=
    { active := true, scalabilityMode := "L1T3".toList, scaleResolutionDownBy := scale
      maxBitrate, rid := rid.toList }
  let mapped (rid : String) (mappedSsrc : UInt32) : EncodingMapping :=
    { mappedSsrc, rid := rid.toList, scalabilityMode := "L1T3".toList }
  videoVP8Param [layer "r0" 4 500000, layer "r1" 2 1000000, layer "r2" 1 5000000]
    [mapped "r0" ssrc, mapped "r1" (ssrc + 1), mapped "r2" (ssrc + 2)]

/-- `ParseUpOfferSDP`; `ssrc` is the random SSRC of a simulcast offer.  The Go function
returns no error. -/
def parseUpOfferSDP (sscanf : Text → UInt32) (ssrc : UInt32) (sdp : Text) :
    MediaParameters × MediaParameters :=
  let scan := scanOffer sscanf sdp
  (getAudioOpusParam scan.audioSsrc,
    if scan.simulcast then getSimulcastVideoVP8Param ssrc
    else getVideoVP8Param scan.videoSsrc1 scan.videoSsrc2)

/-! ### The consumer of a producer -/

def isSimulcast (producer : MediaParameters) : Bool :=
  producer.rtpParameters.encodings.any fun encoding => encoding.rid ≠ []

/-- The payload types of the router, in the codecs of a video producer. -/
def mapVideoCodec (codec : Codec) : Codec :=
  { codec with
    parameters := codec.parameters.map fun parameter =>
      if parameter.1 = "apt".toList then (parameter.1, 101) else parameter
    payloadType :=
      if codec.payloadType = 96 then 101
      else if codec.payloadType = 97 then 102 else codec.payloadType }

/-- A new SSRC in an encoding that the producer shares. -/
def renewEncoding (encoding : Encoding) (ssrc : UInt32) : Encoding :=
  { encoding with
    ssrc
    rtx := encoding.rtx.map fun rtx => if rtx ≠ 0 then ssrc + 1 else rtx }

/-- The branch for producers without simulcast.  The first component is the consumer, the
second one what is left in the producer: the shared codecs and encodings. -/
def consumeSimple (consumerId producerId : Letters) (ssrcs : ℕ → UInt32)
    (producer : MediaParameters) : Consumer × MediaParameters :=
  let encodings := producer.rtpParameters.encodings.mapIdx fun i encoding =>
    renewEncoding encoding (ssrcs i)
  let audio := producer.kind = "audio".toList
  let codecs := producer.rtpParameters.codecs.map fun codec =>
    if audio then { codec with payloadType := 100 } else mapVideoCodec codec
  let cname := (if audio then "audio-" else "video-").toList ++ producerId.text
  let parameters : RtpParameters :=
    { producer.rtpParameters with
      mid := if audio then "0".toList else "1".toList
      codecs, encodings
      -- the loop over the codecs of an audio producer sets it
      rtcp := if audio ∧ codecs = [] then producer.rtpParameters.rtcp
        else { cname, reducedSize := true, mux := true } }
  ({ producerId, type := "simple".toList, consumerId, kind := producer.kind
     rtpParameters := parameters
     consumableRtpEncodings :=
       (producer.rtpMapping.encodings.take 1).map fun mapping => { ssrc := mapping.mappedSsrc } },
    { producer with rtpParameters := { producer.rtpParameters with codecs, encodings } })

/-- The feedback of a simulcast consumer's first codec, also in the producer. -/
def simulcastFeedback : List RtcpFeedback :=
  [feedback "transport-cc" "", feedback "ccm" "fir", feedback "nack" "", feedback "nack" "fir"]

/-- The branch for producers with simulcast: only the codecs are shared.  There is an
encoding for each mapping. -/
def consumeSimulcast (consumerId producerId : Letters) (ssrc : UInt32)
    (producer : MediaParameters) : Consumer × MediaParameters :=
  let codecs := producer.rtpParameters.codecs.mapIdx fun i codec =>
    if i = 0 then { mapVideoCodec codec with rtcpFeedback := simulcastFeedback }
    else mapVideoCodec codec
  let parameters : RtpParameters :=
    { mid := "1".toList, codecs
      encodings := [{ ssrc, rtx := some (ssrc + 1), scalabilityMode := "L3T3".toList
                      maxBitrate := 50000000 }]
      rtcp := { cname := "video-".toList ++ producerId.text, reducedSize := true, mux := true }
      headerExtensions :=
        [extension "urn:ietf:params:rtp-hdrext:sdes:mid" 1,
          extension "http://www.webrtc.org/experiments/rtp-hdrext/abs-send-time" 4,
          extension "http://www.ietf.org/id/draft-holmer-rmcat-transport-wide-cc-extensions-01" 5,
          extension "urn:3gpp:video-orientation" 11,
          extension "urn:ietf:params:rtp-hdrext:toffset" 12] }
  ({ producerId, type := "simulcast".toList, consumerId, kind := producer.kind
     rtpParameters := parameters
     consumableRtpEncodings :=
       (producer.rtpMapping.encodings.zip producer.rtpParameters.encodings).map fun both =>
         { ssrc := both.1.mappedSsrc, active := both.2.active, maxBitrate := both.2.maxBitrate
           scaleResolutionDownBy := both.2.scaleResolutionDownBy
           scalabilityMode := both.2.scalabilityMode } },
    { producer with rtpParameters := { producer.rtpParameters with codecs } })

end Mediasoup.Signaling
