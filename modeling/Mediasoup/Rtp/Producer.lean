/-
How a producer assigns received RTP packets to streams (`RTC::Producer`).

A packet with a known media or RTX SSRC goes to the stream of that SSRC.  Otherwise an
encoding is looked for: by declared SSRC, then by RID, and last, if the only encoding
has neither, without a key.  A media packet creates the stream of the encoding, an RTX
packet is attached to a stream that exists.

* `Producer.new` — the constructor, from the entries of the request.
* `Producer.getRtpStream`, `Producer.receiveRtpPacket` — the lookup and what follows.
* `Producer.step` — a received packet, or a request to pause or resume.
-/
import Mathlib.Data.List.AList
import Mathlib.Data.List.Rotate
import Mediasoup.Rtp.RtpParameters

open Runs

namespace Mediasoup

/-! ### Accepted configurations -/

/-- `RtpParameters::Type`. -/
inductive RtpParametersType where
  | none
  | simple
  | simulcast
  | svc
  | pipe

def RtpParametersType.toString : RtpParametersType → String
  | none => "none"
  | simple => "simple"
  | simulcast => "simulcast"
  | svc => "svc"
  | pipe => "pipe"

def isValidTypeForCodec : RtpParametersType → RtpCodecMimeType → Bool
  | .none, _ => false
  | .simple, _ => true
  | .simulcast, ⟨.video, .vp8⟩ => true
  | .simulcast, ⟨.video, .h264⟩ => true
  | .simulcast, _ => false
  | .svc, ⟨.video, .vp9⟩ => true
  | .svc, ⟨.video, .h264Svc⟩ => true
  | .svc, _ => false
  | .pipe, _ => true

/-- `RtpParameters::GetType`, for the codec of the first encoding. -/
def RtpParameters.getType (params : RtpParameters) (mediaCodec : RtpCodecParameters) :
    RtpParametersType :=
  match params.encodings with
  | [] => .none
  | [encoding] =>
    if 1 < encoding.spatialLayers ∨ 1 < encoding.temporalLayers then
      if isValidTypeForCodec .svc mediaCodec.mimeType then .svc
      else if isValidTypeForCodec .simulcast mediaCodec.mimeType then .simulcast
      else .none
    else .simple
  | _ :: _ :: _ => .simulcast

/-- An entry of `rtpMapping.encodings`: which keys are present, and the mapped SSRC. -/
structure EncodingMapping where
  hasSsrc : Bool
  hasRid : Bool
  mappedSsrc : Option UInt32

/-- The request to create a producer. -/
structure ProducerData where
  rtpParameters : RtpParametersData
  mappingCodecs : List (UInt8 × UInt8)
  mappingEncodings : List EncodingMapping
  headerExtensionIds : List UInt8
  paused : Bool

/-- One round of the loop over `rtpMapping.encodings`. -/
def checkEncodingMapping (mid : String) (numEncodings : ℕ) (mapping : EncodingMapping) :
    Except String UInt32 :=
  if 1 < numEncodings ∧ !mapping.hasSsrc ∧ !mapping.hasRid then
    .error "wrong entry in rtpMapping.encodings (missing ssrc or rid)"
  else if mid = "" ∧ numEncodings = 1 ∧ !mapping.hasSsrc ∧ !mapping.hasRid then
    .error "wrong entry in rtpMapping.encodings (missing ssrc or rid, or rtpParameters.mid)"
  else match mapping.mappedSsrc with
    | none => .error "wrong entry in rtpMapping.encodings (missing mappedSsrc)"
    | some mappedSsrc => .ok mappedSsrc

def checkEncodingMappings (mid : String) (numEncodings : ℕ) :
    List EncodingMapping → Except String (List UInt32)
  | [] => .ok []
  | mapping :: rest => do
    let mappedSsrc ← checkEncodingMapping mid numEncodings mapping
    let mappedSsrcs ← checkEncodingMappings mid numEncodings rest
    return mappedSsrc :: mappedSsrcs

/-! ### The state -/

abbrev StreamId := ℕ

structure RtpStreamRecv where
  encodingIdx : ℕ
  ssrc : UInt32
  payloadType : UInt8
  rid : String
  /-- Payload type and SSRC of the RTX stream, once there is one. -/
  rtx : Option (UInt8 × UInt32)

structure Producer where
  rtpParameters : RtpParameters
  /-- `rtpMapping.codecs` -/
  codecs : AList fun _ : UInt8 => UInt8
  /-- `mappedSsrc` of each of `rtpMapping.encodings` -/
  mappedSsrcs : List UInt32
  paused : Bool
  /-- The stream objects that were created. -/
  streams : List RtpStreamRecv
  mapSsrcRtpStream : AList fun _ : UInt32 => StreamId
  mapRtxSsrcRtpStream : AList fun _ : UInt32 => StreamId
  rtpStreamByEncodingIdx : List (Option StreamId)
  mapRtpStreamMappedSsrc : AList fun _ : StreamId => UInt32

/-- A received packet, with what is not decided by the producer's own state: whether
the stream takes it, and where the iteration over the hash map of streams starts.
Only the first match of an iteration is used, so rotations give every outcome. -/
structure IncomingPacket where
  ssrc : UInt32
  payloadType : UInt8
  rid : Option String
  accepted : Bool
  iterationStart : ℕ

inductive ReceiveRtpPacketResult where
  | discarded
  | media
  | retransmission

/-- Whether an encoding matches as media, or as RTX. -/
inductive PacketKind where
  | media (codec : RtpCodecParameters)
  | rtx

namespace Producer

def new (data : ProducerData) : Except String Producer := do
  let params ← RtpParameters.new data.rtpParameters
  match params.encodings.head?.map params.getCodecForEncoding with
  | some (.ok mediaCodec) =>
    let typeString := (params.getType mediaCodec).toString
    if !isValidTypeForCodec (params.getType mediaCodec) mediaCodec.mimeType then
      .error s!"{mediaCodec.mimeType.toString} codec not supported for {typeString}"
    else do
      let mappedSsrcs ←
        checkEncodingMappings params.mid data.mappingEncodings.length data.mappingEncodings
      if params.encodings.length ≠ mappedSsrcs.length then
        .error "rtpParameters.encodings size does not match rtpMapping.encodings size"
      else if 0 ∈ data.headerExtensionIds then .error "RTP extension id cannot be 0"
      else return {
        rtpParameters := params
        codecs := data.mappingCodecs.foldl (fun codecs entry => codecs.insert entry.1 entry.2) ∅
        mappedSsrcs := mappedSsrcs
        paused := data.paused
        streams := []
        mapSsrcRtpStream := ∅
        mapRtxSsrcRtpStream := ∅
        rtpStreamByEncodingIdx := List.replicate params.encodings.length none
        mapRtpStreamMappedSsrc := ∅ }
  | _ => .error "no valid codec payload type for the given encoding"

/-! ### Looking for the stream of a packet -/

/-- The loops over the encodings: the first that is not skipped and matches the
packet, as media or as RTX. -/
def findEncoding (params : RtpParameters) (payloadType : UInt8)
    (skip isMedia isRtx : RtpEncodingParameters → Bool) :
    ℕ → List RtpEncodingParameters →
      Except Abort (Option (ℕ × RtpEncodingParameters × PacketKind))
  | _, [] => .ok none
  | i, encoding :: rest =>
    if skip encoding then findEncoding params payloadType skip isMedia isRtx (i + 1) rest
    else do
      let mediaCodec ← params.getCodecForEncoding encoding
      let rtxCodec ← params.getRtxCodecForEncoding encoding
      if mediaCodec.payloadType = payloadType ∧ isMedia encoding then
        .ok (some (i, encoding, .media mediaCodec))
      else if rtxCodec.map (·.payloadType) = some payloadType ∧ isRtx encoding then
        .ok (some (i, encoding, .rtx))
      else findEncoding params payloadType skip isMedia isRtx (i + 1) rest

variable (p : Producer)

def insertStream (stream : RtpStreamRecv) (mappedSsrc : UInt32) : Producer :=
  { p with
    streams := p.streams ++ [stream]
    mapSsrcRtpStream := p.mapSsrcRtpStream.insert stream.ssrc p.streams.length
    rtpStreamByEncodingIdx :=
      p.rtpStreamByEncodingIdx.set stream.encodingIdx (some p.streams.length)
    mapRtpStreamMappedSsrc := p.mapRtpStreamMappedSsrc.insert p.streams.length mappedSsrc }

def createRtpStream (packet : IncomingPacket) (mediaCodec : RtpCodecParameters) (encodingIdx : ℕ) :
    Except Abort (Producer × Option StreamId) :=
  if packet.ssrc ∈ p.mapSsrcRtpStream then .error .ssrcAlreadyExists
  else match p.rtpStreamByEncodingIdx[encodingIdx]? with
    | none => .error .outOfRange
    | some (some _) => .error .encodingIndexAlreadyExists
    | some none =>
      match p.rtpParameters.encodings[encodingIdx]?, p.mappedSsrcs[encodingIdx]? with
      | some encoding, some mappedSsrc =>
        .ok (p.insertStream
          ⟨encodingIdx, packet.ssrc, mediaCodec.payloadType, encoding.rid, none⟩ mappedSsrc,
          some p.streams.length)
      | _, _ => .error .outOfRange

/-- `SetRtx` and the entry in the map of RTX SSRCs. -/
def setRtx (id : StreamId) (stream : RtpStreamRecv) (packet : IncomingPacket) : Producer :=
  { p with
    streams := p.streams.set id { stream with rtx := some (packet.payloadType, packet.ssrc) }
    mapRtxSsrcRtpStream := p.mapRtxSsrcRtpStream.insert packet.ssrc id }

/-- An RTX packet for a stream: ignored if there is none (yet), or if it has an RTX
stream already. -/
def attachRtx (packet : IncomingPacket) : Option StreamId → Producer × Option StreamId
  | none => (p, none)
  | some id =>
    match p.streams[id]? with
    | none => (p, none)
    | some stream =>
      match stream.rtx with
      | some _ => (p, none)
      | none => (p.setRtx id stream packet, some id)

/-- `mapSsrcRtpStream` in the order in which it is iterated. -/
def iteration (packet : IncomingPacket) : List StreamId :=
  (p.mapSsrcRtpStream.entries.map Sigma.snd).rotate packet.iterationStart

def findRid (packet : IncomingPacket) (rid : String) : Option StreamId :=
  (p.iteration packet).find? fun id => (p.streams[id]?).map RtpStreamRecv.rid = some rid

/-- The first encoding whose declared media or RTX SSRC is the packet's. -/
def ssrcEncoding (packet : IncomingPacket) :
    Except Abort (Option (ℕ × RtpEncodingParameters × PacketKind)) :=
  findEncoding p.rtpParameters packet.payloadType (fun _ => false)
    (fun encoding => encoding.ssrc = packet.ssrc)
    (fun encoding => encoding.rtx = some packet.ssrc) 0 p.rtpParameters.encodings

/-- The first encoding with the RID whose media or RTX codec has the payload type. -/
def ridEncoding (packet : IncomingPacket) (rid : String) :
    Except Abort (Option (ℕ × RtpEncodingParameters × PacketKind)) :=
  findEncoding p.rtpParameters packet.payloadType (fun encoding => encoding.rid ≠ rid)
    (fun _ => true) (fun _ => true) 0 p.rtpParameters.encodings

def ridLookup (packet : IncomingPacket) (rid : String) :
    Except Abort (Producer × Option StreamId) :=
  match p.ridEncoding packet rid with
  | .error reason => .error reason
  | .ok none => .ok (p, none)
  | .ok (some (i, _, .media codec)) =>
    match p.findRid packet rid with
    | some _ => .ok (p, none)
    | none => p.createRtpStream packet codec i
  | .ok (some (_, _, .rtx)) => .ok (p.attachRtx packet (p.findRid packet rid))

/-- The encoding, if its media or RTX codec has the payload type. -/
def singleEncoding (packet : IncomingPacket) (encoding : RtpEncodingParameters) :
    Except Abort (Option (ℕ × RtpEncodingParameters × PacketKind)) :=
  findEncoding p.rtpParameters packet.payloadType (fun _ => false)
    (fun _ => true) (fun _ => true) 0 [encoding]

/-- For a single encoding without SSRC and RID. -/
def singleLookup (packet : IncomingPacket) : Except Abort (Producer × Option StreamId) :=
  match p.rtpParameters.encodings with
  | [encoding] =>
    if encoding.ssrc = 0 ∧ encoding.rid = "" then
      match p.singleEncoding packet encoding with
      | .error reason => .error reason
      | .ok none => .ok (p, none)
      | .ok (some (_, _, .media codec)) =>
        match p.iteration packet with
        | _ :: _ => .ok (p, none)
        | [] => p.createRtpStream packet codec 0
      | .ok (some (_, _, .rtx)) => .ok (p.attachRtx packet (p.iteration packet).head?)
    else .ok (p, none)
  | _ => .ok (p, none)

/-- A packet with an SSRC that no stream has. -/
def newSsrc (packet : IncomingPacket) : Except Abort (Producer × Option StreamId) :=
  match p.ssrcEncoding packet with
  | .error reason => .error reason
  | .ok (some (i, _, .media codec)) => p.createRtpStream packet codec i
  | .ok (some (_, encoding, .rtx)) =>
    .ok (p.attachRtx packet (p.mapSsrcRtpStream.lookup encoding.ssrc))
  | .ok none =>
    match packet.rid with
    | some rid => p.ridLookup packet rid
    | none => p.singleLookup packet

def getRtpStream (packet : IncomingPacket) : Except Abort (Producer × Option StreamId) :=
  match p.mapSsrcRtpStream.lookup packet.ssrc with
  | some id => .ok (p, some id)
  | none =>
    match p.mapRtxSsrcRtpStream.lookup packet.ssrc with
    | some id => .ok (p, some id)
    | none => p.newSsrc packet

/-! ### Receiving a packet -/

def notifyNewRtpStream (numRtpStreamsBefore : ℕ) (id : StreamId) : Except Abort Unit :=
  if numRtpStreamsBefore < p.mapSsrcRtpStream.entries.length then
    match p.mapRtpStreamMappedSsrc.lookup id with
    | none => .error .outOfRange
    | some _ => .ok ()
  else .ok ()

/-- Whether `MangleRtpPacket` knows the payload type; it also reads the mapped SSRC. -/
def mangle (id : StreamId) (payloadType : UInt8) : Except Abort Bool :=
  match p.codecs.lookup payloadType with
  | none => .ok false
  | some _ =>
    match p.mapRtpStreamMappedSsrc.lookup id with
    | none => .error .outOfRange
    | some _ => .ok true

/-- The rest of `ReceiveRtpPacket` for a packet that the stream took. -/
def passOn (numRtpStreamsBefore : ℕ) (id : StreamId) (payloadType : UInt8)
    (result : ReceiveRtpPacketResult) : Except Abort ReceiveRtpPacketResult := do
  p.notifyNewRtpStream numRtpStreamsBefore id
  if p.paused then return result
  else do
    let known ← p.mangle id payloadType
    return if known then result else .discarded

/-- A packet for the stream that was found.  A decoded RTX packet has the payload type
of the stream. -/
def processPacket (numRtpStreamsBefore : ℕ) (packet : IncomingPacket) (id : StreamId) :
    Except Abort ReceiveRtpPacketResult :=
  match p.streams[id]? with
  | none => .error .outOfRange
  | some stream =>
    if packet.ssrc = stream.ssrc then
      if packet.accepted then
        p.passOn numRtpStreamsBefore id packet.payloadType .media
      else do
        p.notifyNewRtpStream numRtpStreamsBefore id
        return .media
    else if packet.ssrc = (stream.rtx.map Prod.snd).getD 0 then
      if packet.accepted then
        p.passOn numRtpStreamsBefore id stream.payloadType .retransmission
      else return .retransmission
    else .error .streamDoesNotMatchPacket

def receiveRtpPacket (packet : IncomingPacket) :
    Except Abort (Producer × ReceiveRtpPacketResult) := do
  match ← p.getRtpStream packet with
  | (p', none) => return (p', .discarded)
  | (p', some id) => do
    let result ← p'.processPacket p.mapSsrcRtpStream.entries.length packet id
    return (p', result)

inductive Event where
  | rtpPacket (packet : IncomingPacket)
  | pause
  | resume

def step : Event → Except Abort Producer
  | .rtpPacket packet => do
    let (p', _) ← p.receiveRtpPacket packet
    return p'
  | .pause => .ok { p with paused := true }
  | .resume => .ok { p with paused := false }

end Producer

end Mediasoup
