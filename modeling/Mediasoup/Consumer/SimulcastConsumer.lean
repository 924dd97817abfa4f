/-
Layer selection and layer switching of a simulcast consumer
(`RTC::SimulcastConsumer`).

The producer has one stream for each spatial layer.  The consumer chooses a target layer
and switches to it at its next key frame; the timestamps of a layer other than the
reference layer are aligned through the Sender Reports of both.  Absence of a Sender
Report is the time zero, and a missing layer (`-1` in the source) is `none`.

Clocks, bitrates and the answers of the codec are part of the events.

* `SimulcastConsumer.canSwitchToSpatialLayer`, `recalculateTargetLayers`,
  `increaseLayer`, `updateTargetLayers` — the choice of the target;
* `SimulcastConsumer.sendRtpPacket` — the switch;
* `SimulcastConsumer.step` — one event.
-/
import Mathlib.Algebra.Group.Nat.Defs
import Mathlib.Data.List.AList
import Mediasoup.Lib.Runs

open Runs

namespace Mediasoup

/-- `Utils::Time::Ntp2TimeMs`; the fraction is rounded to the nearest millisecond. -/
def ntp2TimeMs (seconds fractions : UInt32) : ℕ :=
  seconds.toNat * 1000 + (fractions.toNat * 1000 + 2 ^ 31) / 2 ^ 32

/-- A stream of the producer (`RtpStreamRecv`), as far as a consumer looks at it. -/
structure ProducerStream where
  score : ℕ
  hasRtpInactivityCheckEnabled : Bool
  temporalLayers : ℕ
  senderReportNtpMs : ℕ
  senderReportTs : UInt32

/-- Clock and bitrates at the time of an event, and the bitrates, corrected by the loss,
that are offered if the available bitrate is distributed. -/
structure Measurements where
  nowMs : ℕ
  activeMs : ℕ → ℕ
  layerBitrate : ℕ → ℕ → ℕ
  bitrate : ℕ → ℤ → ℕ
  ownActiveMs : ℕ
  offers : List ℕ

structure ConsumerPacket where
  ssrc : UInt32
  supported : Bool
  isKeyFrame : Bool
  sequenceNumber : UInt16
  timestamp : UInt32
  /-- `GetMaxPacketTs` of the sending stream. -/
  maxPacketTs : UInt32

inductive ConsumerAbort where
  /-- `CanSwitchToSpatialLayer` -/
  | noProducerRtpStream
  /-- `SendRtpPacket` -/
  | noSenderReportForTsReference
  /-- `SendRtpPacket` -/
  | noSenderReportForTarget
  /-- a null stream is used -/
  | nullStream
  /-- `IncreaseLayer`, `ApplyLayers` -/
  | shouldBeActive
  /-- a mapped SSRC that is not consumable -/
  | unknownMappedSsrc
  deriving DecidableEq

structure SimulcastConsumer where
  mapMappedSsrcSpatialLayer : AList fun _ : UInt32 => ℕ
  temporalLayers : ℕ
  clockRate : UInt32
  transportConnected : Bool
  paused : Bool
  producerPaused : Bool
  externallyManagedBitrate : Bool
  /-- Indexed by spatial layer. -/
  producerRtpStreams : List (Option ProducerStream)
  preferredSpatialLayer : ℤ
  preferredTemporalLayer : ℤ
  provisionalTargetSpatialLayer : Option ℕ
  provisionalTargetTemporalLayer : ℤ
  targetSpatialLayer : Option ℕ
  targetTemporalLayer : ℤ
  currentSpatialLayer : Option ℕ
  tsReferenceSpatialLayer : Option ℕ
  syncRequired : Bool
  spatialLayerToSync : Option ℕ
  snReferenceSpatialLayer : UInt16
  checkingForOldPacketsInSpatialLayer : Bool
  tsOffset : UInt32
  keyFrameForTsOffsetRequested : Bool
  lastBweDowngradeAtMs : ℕ

/-- The number of a layer, with `-1` for none. -/
def layerNumber : Option ℕ → ℤ
  | none => -1
  | some layer => layer

namespace SimulcastConsumer

def clampLayer (layer : ℤ) (numLayers : ℕ) : ℤ := min layer (numLayers - 1)

/-- A new consumer, with the streams that the producer has. -/
def new (mappedSsrcs : List UInt32) (streams : ℕ → Option ProducerStream)
    (temporalLayers : ℕ) (clockRate : UInt32) (preferredLayers : Option (ℤ × Option ℤ))
    (paused producerPaused externallyManagedBitrate : Bool) : SimulcastConsumer where
  mapMappedSsrcSpatialLayer :=
    mappedSsrcs.zipIdx.foldl (fun map entry => map.insert entry.1 entry.2) ∅
  temporalLayers := temporalLayers
  clockRate := clockRate
  transportConnected := false
  paused := paused
  producerPaused := producerPaused
  externallyManagedBitrate := externallyManagedBitrate
  producerRtpStreams := (List.range mappedSsrcs.length).map streams
  preferredSpatialLayer :=
    match preferredLayers with
    | some (spatialLayer, _) => clampLayer spatialLayer mappedSsrcs.length
    | none => mappedSsrcs.length - 1
  preferredTemporalLayer :=
    match preferredLayers with
    | some (_, some temporalLayer) => clampLayer temporalLayer temporalLayers
    | _ => temporalLayers - 1
  provisionalTargetSpatialLayer := none
  provisionalTargetTemporalLayer := -1
  targetSpatialLayer := none
  targetTemporalLayer := -1
  currentSpatialLayer := none
  tsReferenceSpatialLayer := none
  syncRequired := false
  spatialLayerToSync := none
  snReferenceSpatialLayer := 0
  checkingForOldPacketsInSpatialLayer := false
  tsOffset := 0
  keyFrameForTsOffsetRequested := false
  lastBweDowngradeAtMs := 0

variable (c : SimulcastConsumer)

def stream (layer : ℕ) : Option ProducerStream :=
  (c.producerRtpStreams[layer]?).join

/-- `Consumer::IsActive`. -/
def parentIsActive : Bool :=
  c.transportConnected && !c.paused && !c.producerPaused

/-- Whether a stream keeps a consumer active. -/
def isAlive : Option ProducerStream → Bool
  | none => false
  | some stream => 0 < stream.score || !stream.hasRtpInactivityCheckEnabled

def isActive : Bool :=
  c.parentIsActive && c.producerRtpStreams.any isAlive

/-! ### The target layer -/

def senderReportNtpMs (layer : ℕ) : Except ConsumerAbort ℕ :=
  match c.stream layer with
  | none => .error .nullStream
  | some stream => .ok stream.senderReportNtpMs

def canSwitchToSpatialLayer (layer : ℕ) : Except ConsumerAbort Bool :=
  match c.stream layer with
  | none => .error .noProducerRtpStream
  | some stream =>
    match c.tsReferenceSpatialLayer with
    | none => .ok true
    | some reference =>
      if layer = reference then .ok true
      else do
        let ntpMs ← c.senderReportNtpMs reference
        return decide (ntpMs ≠ 0) && decide (stream.senderReportNtpMs ≠ 0)

/-- A downgrade due to the available bitrate was less than ten seconds ago. -/
def recentlyDowngraded (nowMs : ℕ) : Bool :=
  (nowMs + 2 ^ 64 - c.lastBweDowngradeAtMs) % 2 ^ 64 < 10000

def streamMinActiveMs : ℕ := 2000

/-- The loop of `RecalculateTargetLayers`, from a layer on. -/
def recalculateLoop (c : SimulcastConsumer) (m : Measurements) :
    List (Option ProducerStream) → ℕ → Option ℕ → Except ConsumerAbort (Option ℕ)
  | [], _, newTarget => .ok newTarget
  | stream :: rest, layer, newTarget =>
    if c.recentlyDowngraded m.nowMs ∧ newTarget.isSome ∧
        layerNumber c.currentSpatialLayer < layer then
      recalculateLoop c m rest (layer + 1) newTarget
    else match stream with
      | none => recalculateLoop c m rest (layer + 1) newTarget
      | some stream =>
        if stream.score = 0 then recalculateLoop c m rest (layer + 1) newTarget
        else if c.externallyManagedBitrate ∧ newTarget.isSome ∧
            m.activeMs layer < streamMinActiveMs then
          recalculateLoop c m rest (layer + 1) newTarget
        else do
          let canSwitch ← c.canSwitchToSpatialLayer layer
          if !canSwitch then recalculateLoop c m rest (layer + 1) newTarget
          else if c.preferredSpatialLayer ≤ layer then return some layer
          else recalculateLoop c m rest (layer + 1) (some layer)

def temporalLayerFor : Option ℕ → ℤ
  | none => -1
  | some layer =>
    if (layer : ℤ) = c.preferredSpatialLayer then c.preferredTemporalLayer
    else if (layer : ℤ) < c.preferredSpatialLayer then c.temporalLayers - 1
    else 0

def recalculateTargetLayers (m : Measurements) : Except ConsumerAbort (Option ℕ × ℤ) := do
  let newTarget ← c.recalculateLoop m c.producerRtpStreams 0 none
  return (newTarget, c.temporalLayerFor newTarget)

def updateTargetLayers (newTargetSpatialLayer : Option ℕ) (newTargetTemporalLayer : ℤ) :
    SimulcastConsumer :=
  match newTargetSpatialLayer with
  | none =>
    { c with
      targetSpatialLayer := none
      targetTemporalLayer := -1
      currentSpatialLayer := none }
  | some layer =>
    { c with
      tsReferenceSpatialLayer := c.tsReferenceSpatialLayer.or (some layer)
      targetSpatialLayer := some layer
      targetTemporalLayer := newTargetTemporalLayer }

/-! ### The available bitrate -/

/-- The bitrate that a stream needs for a temporal layer, less what the provisional
layer needs if this is the lowest temporal layer of a higher layer. -/
def requiredBitrate (m : Measurements) (layer temporalLayer : ℕ) : Except ConsumerAbort ℕ :=
  let required := m.layerBitrate layer temporalLayer
  match c.provisionalTargetSpatialLayer with
  | none => .ok required
  | some provisional =>
    if required ≠ 0 ∧ temporalLayer = 0 ∧ provisional < layer then
      match c.stream provisional with
      | none => .error .nullStream
      | some _ =>
        let provisionalRequired := m.bitrate provisional c.provisionalTargetTemporalLayer
        .ok (if provisionalRequired < required then required - provisionalRequired else 1)
    else .ok required

/-- The first temporal layer of a stream above the provisional layers. -/
def nextTemporalLayer (layer : ℕ) (stream : ProducerStream) : Option ℕ :=
  (List.range stream.temporalLayers).find? fun temporalLayer =>
    !(some layer = c.provisionalTargetSpatialLayer ∧
      (temporalLayer : ℤ) ≤ c.provisionalTargetTemporalLayer)

/-- The stream has become active only now, and that of the provisional layer has been
active long enough. -/
def waitForStream (m : Measurements) (layer : ℕ) : Except ConsumerAbort Bool :=
  match c.provisionalTargetSpatialLayer with
  | none => .ok false
  | some provisional =>
    if layer ≠ provisional ∧ m.activeMs layer < streamMinActiveMs then
      match c.stream provisional with
      | none => .error .nullStream
      | some _ => .ok (streamMinActiveMs ≤ m.activeMs provisional)
    else .ok false

/-- The next temporal layer of a stream, if it is active: layer, temporal layer and
required bitrate. -/
def nextLayers (m : Measurements) (layer : ℕ) (stream : ProducerStream) :
    Except ConsumerAbort (Option (ℕ × ℕ × ℕ)) :=
  match c.nextTemporalLayer layer stream with
  | none => .ok none
  | some temporalLayer => do
    let required ← c.requiredBitrate m layer temporalLayer
    return if required = 0 then none else some (layer, temporalLayer, required)

/-- The loop of `IncreaseLayer`. -/
def increaseLoop (c : SimulcastConsumer) (m : Measurements) :
    List (Option ProducerStream) → ℕ → Except ConsumerAbort (Option (ℕ × ℕ × ℕ))
  | [], _ => .ok none
  | stream :: rest, layer =>
    if c.recentlyDowngraded m.nowMs ∧ c.provisionalTargetSpatialLayer.isSome ∧
        layerNumber c.currentSpatialLayer < layer then .ok none
    else if (layer : ℤ) < layerNumber c.provisionalTargetSpatialLayer then
      increaseLoop c m rest (layer + 1)
    else match stream with
      | none => increaseLoop c m rest (layer + 1)
      | some stream => do
        let wait ← c.waitForStream m layer
        if wait then increaseLoop c m rest (layer + 1)
        else do
          let canSwitch ← c.canSwitchToSpatialLayer layer
          if !canSwitch then increaseLoop c m rest (layer + 1)
          else do
            let found ← c.nextLayers m layer stream
            if found.isSome then return found
            else if c.preferredSpatialLayer ≤ layer then return none
            else increaseLoop c m rest (layer + 1)

/-- `IncreaseLayer`; the bitrate that is used is of no concern here. -/
def increaseLayer (m : Measurements) (c : SimulcastConsumer) (virtualBitrate : ℕ) :
    Except ConsumerAbort SimulcastConsumer :=
  if !c.isActive then .error .shouldBeActive
  else if layerNumber c.provisionalTargetSpatialLayer = c.preferredSpatialLayer ∧
      c.provisionalTargetTemporalLayer = c.preferredTemporalLayer then .ok c
  else do
    match ← c.increaseLoop m c.producerRtpStreams 0 with
    | none => return c
    | some (layer, temporalLayer, required) =>
      if virtualBitrate < required then return c
      else return { c with
        provisionalTargetSpatialLayer := some layer
        provisionalTargetTemporalLayer := temporalLayer }

def applyLayers (m : Measurements) : Except ConsumerAbort SimulcastConsumer :=
  if !c.isActive then .error .shouldBeActive
  else
    let c' := { c with
      provisionalTargetSpatialLayer := none
      provisionalTargetTemporalLayer := -1 }
    if c.provisionalTargetSpatialLayer ≠ c.targetSpatialLayer ∨
        c.provisionalTargetTemporalLayer ≠ c.targetTemporalLayer then
      let c'' := c'.updateTargetLayers c.provisionalTargetSpatialLayer
        c.provisionalTargetTemporalLayer
      if 8000 < m.ownActiveMs ∧
          layerNumber c''.targetSpatialLayer < layerNumber c''.currentSpatialLayer ∧
          layerNumber c''.currentSpatialLayer ≤ c''.preferredSpatialLayer then
        .ok { c'' with lastBweDowngradeAtMs := m.nowMs }
      else .ok c''
    else .ok c'

/-- What `Transport::DistributeAvailableOutgoingBitrate` does with this consumer: some
offers, then the layers are applied.  An inactive consumer has no priority. -/
def distribute (m : Measurements) : Except ConsumerAbort SimulcastConsumer :=
  if c.isActive then do
    let c' ← run (increaseLayer m) c m.offers
    c'.applyLayers m
  else .ok c

def mayChangeLayers (m : Measurements) (force : Bool) : Except ConsumerAbort SimulcastConsumer := do
  let (newTarget, newTemporal) ← c.recalculateTargetLayers m
  if newTarget ≠ c.targetSpatialLayer ∨ newTemporal ≠ c.targetTemporalLayer then
    if c.externallyManagedBitrate then
      if newTarget ≠ c.targetSpatialLayer ∨ force then c.distribute m else return c
    else return c.updateTargetLayers newTarget newTemporal
  else return c

/-! ### Sending -/

def isSeqLowerThan (lhs rhs : UInt16) : Bool :=
  (lhs < rhs && rhs - lhs ≤ 32767) || (rhs < lhs && 32767 < lhs - rhs)

/-- The difference between the timestamps of a layer and those of the reference. -/
def tsOffsetFor (layer : ℕ) : Except ConsumerAbort UInt32 :=
  if some layer = c.tsReferenceSpatialLayer then .ok 0
  else
    match c.tsReferenceSpatialLayer.bind c.stream, c.targetSpatialLayer.bind c.stream with
    | some reference, some target =>
      if reference.senderReportNtpMs = 0 then .error .noSenderReportForTsReference
      else if target.senderReportNtpMs = 0 then .error .noSenderReportForTarget
      else
        let diffMs : ℤ := target.senderReportNtpMs - reference.senderReportNtpMs
        let diffTs := (diffMs * c.clockRate.toNat).tdiv 1000
        .ok (target.senderReportTs - UInt32.ofInt diffTs - reference.senderReportTs)
    | _, _ => .error .nullStream

/-- The offset that is needed on top when the first packet of the new layer is older
than what was sent, and the highest that is accepted. -/
def tsExtraOffset (packet : ConsumerPacket) (tsOffset : UInt32) : UInt32 × UInt32 :=
  (packet.maxPacketTs - packet.timestamp + tsOffset + 33 * c.clockRate / 1000,
    75 * c.clockRate / 1000)

/-- The offset is set and the stream is in sync. -/
def synced (tsOffset : UInt32) : SimulcastConsumer :=
  { c with
    tsOffset := tsOffset
    syncRequired := false
    spatialLayerToSync := none
    keyFrameForTsOffsetRequested := false }

/-- Synchronise with a key frame.  The packet is dropped (`none`) to ask for another
key frame if the extra offset is too high. -/
def sync (packet : ConsumerPacket) (layer : ℕ) (switching : Bool) :
    Except ConsumerAbort (SimulcastConsumer × Bool) := do
  let tsOffset ← c.tsOffsetFor layer
  if switching ∧ packet.timestamp - tsOffset ≤ packet.maxPacketTs then
    let (extra, highest) := c.tsExtraOffset packet tsOffset
    if extra ≤ highest then return (c.synced (tsOffset - extra), true)
    else if c.keyFrameForTsOffsetRequested then return (c.synced (tsOffset - 1), true)
    else return ({ c with
      keyFrameForTsOffsetRequested := true
      syncRequired := false
      spatialLayerToSync := none }, false)
  else return (c.synced tsOffset, true)

/-- The packet is in sync: it switches the layer, or is checked against the switch. -/
def forward (packet : ConsumerPacket) (switching : Bool) : SimulcastConsumer :=
  if switching then
    { c with
      currentSpatialLayer := c.targetSpatialLayer
      snReferenceSpatialLayer := packet.sequenceNumber
      checkingForOldPacketsInSpatialLayer := true }
  else if c.checkingForOldPacketsInSpatialLayer ∧
      !isSeqLowerThan packet.sequenceNumber c.snReferenceSpatialLayer ∧
      isSeqLowerThan (c.snReferenceSpatialLayer + 100) packet.sequenceNumber then
    { c with checkingForOldPacketsInSpatialLayer := false }
  else c

/-- A packet of the layer that is sent or switched to. -/
def sendLayerPacket (packet : ConsumerPacket) (layer : ℕ) (switching : Bool) :
    Except ConsumerAbort SimulcastConsumer :=
  if c.syncRequired ∧ !packet.isKeyFrame then .ok c
  else if c.syncRequired ∧
      (c.spatialLayerToSync = none ∨ c.spatialLayerToSync = some layer) then do
    let (c', goesOn) ← c.sync packet layer switching
    return if goesOn then c'.forward packet switching else c'
  else .ok (c.forward packet switching)

def sendRtpPacket (packet : ConsumerPacket) : Except ConsumerAbort SimulcastConsumer :=
  if !c.isActive ∨ c.targetTemporalLayer = -1 ∨ !packet.supported then .ok c
  else match c.mapMappedSsrcSpatialLayer.lookup packet.ssrc with
    | none => .error .unknownMappedSsrc
    | some layer =>
      if c.currentSpatialLayer ≠ c.targetSpatialLayer ∧ some layer = c.targetSpatialLayer then
        if !packet.isKeyFrame then .ok c
        else { c with syncRequired := true, spatialLayerToSync := some layer }.sendLayerPacket
          packet layer true
      else if some layer ≠ c.currentSpatialLayer then .ok c
      else c.sendLayerPacket packet layer false

/-! ### Events -/

inductive Event where
  | rtpPacket (packet : ConsumerPacket)
  | newRtpStream (mappedSsrc : UInt32) (hasRtpInactivityCheckEnabled : Bool)
      (temporalLayers : ℕ) (m : Measurements)
  | score (layer : ℕ) (score : ℕ) (m : Measurements)
  | senderReport (layer : ℕ) (ntpSec ntpFrac rtpTs : UInt32) (score : ℕ)
      (m : Measurements)
  | setPreferredLayers (spatialLayer : ℤ) (temporalLayer : Option ℤ) (m : Measurements)
  | pause
  | resume (m : Measurements)
  | producerPaused
  | producerResumed (m : Measurements)
  | transportConnected (m : Measurements)
  | transportDisconnected
  | ownScore (m : Measurements)
  | setExternallyManagedBitrate
  | availableBitrate (m : Measurements)

def setStream (layer : ℕ) (stream : ProducerStream) : SimulcastConsumer :=
  { c with producerRtpStreams := c.producerRtpStreams.set layer (some stream) }

def mayChangeLayersIfActive (m : Measurements) : Except ConsumerAbort SimulcastConsumer :=
  if c.isActive then c.mayChangeLayers m false else .ok c

/-- `ProducerNewRtpStream`; a new stream has score 10 and no Sender Report. -/
def producerNewRtpStream (mappedSsrc : UInt32)
    (hasRtpInactivityCheckEnabled : Bool) (temporalLayers : ℕ) (m : Measurements) :
    Except ConsumerAbort SimulcastConsumer :=
  match c.mapMappedSsrcSpatialLayer.lookup mappedSsrc with
  | none => .error .unknownMappedSsrc
  | some layer =>
    (c.setStream layer
      ⟨10, hasRtpInactivityCheckEnabled, temporalLayers, 0, 0⟩).mayChangeLayersIfActive m

/-- `ProducerRtpStreamScore`, after the change of the score. -/
def producerRtpStreamScore (score previousScore : ℕ) (m : Measurements) :
    Except ConsumerAbort SimulcastConsumer :=
  if c.parentIsActive then
    if !c.isActive then .ok (c.updateTargetLayers none (-1))
    else if !c.externallyManagedBitrate ∨ score = 0 ∨ previousScore = 0 then
      c.mayChangeLayers m false
    else .ok c
  else .ok c

/-- The score of a stream changes, which is told if it is another one. -/
def setScore (layer : ℕ) (stream : ProducerStream) (score : ℕ) (m : Measurements) :
    Except ConsumerAbort SimulcastConsumer :=
  if score = stream.score then .ok c
  else (c.setStream layer { stream with score := score }).producerRtpStreamScore score
    stream.score m

def producerRtcpSenderReport (first : Bool) (m : Measurements) :
    Except ConsumerAbort SimulcastConsumer :=
  if !first then .ok c
  else match c.currentSpatialLayer.bind c.stream with
    | none => .ok c
    | some current =>
      if current.senderReportNtpMs = 0 then .ok c else c.mayChangeLayersIfActive m

/-- `Producer::ReceiveRtcpSenderReport`: the stream, its score, and the consumer. -/
def receiveRtcpSenderReport (layer : ℕ) (ntpSec ntpFrac rtpTs : UInt32)
    (score : ℕ) (m : Measurements) : Except ConsumerAbort SimulcastConsumer :=
  match c.stream layer with
  | none => .ok c
  | some stream => do
    let stream' := { stream with
      senderReportNtpMs := ntp2TimeMs ntpSec ntpFrac
      senderReportTs := rtpTs }
    let c' ← (c.setStream layer stream').setScore layer stream' score m
    c'.producerRtcpSenderReport (stream.senderReportNtpMs = 0) m

/-- `UserOnPaused` and `UserOnTransportDisconnected`. -/
def userOnPaused : SimulcastConsumer :=
  { c with lastBweDowngradeAtMs := 0 }.updateTargetLayers none (-1)

def userOnTransportConnected (m : Measurements) : Except ConsumerAbort SimulcastConsumer :=
  { c with
    syncRequired := true
    spatialLayerToSync := none
    keyFrameForTsOffsetRequested := false }.mayChangeLayersIfActive m

def userOnResumed (m : Measurements) : Except ConsumerAbort SimulcastConsumer :=
  { c with
    syncRequired := true
    spatialLayerToSync := none
    keyFrameForTsOffsetRequested := false
    checkingForOldPacketsInSpatialLayer := false }.mayChangeLayersIfActive m

/-- The layers asked for, at most the last ones. -/
def withPreferredLayers (spatialLayer : ℤ) (temporalLayer : Option ℤ) : SimulcastConsumer :=
  { c with
    preferredSpatialLayer := clampLayer spatialLayer c.producerRtpStreams.length
    preferredTemporalLayer :=
      match temporalLayer with
      | some temporalLayer => clampLayer temporalLayer c.temporalLayers
      | none => c.temporalLayers - 1 }

def setPreferredLayers (spatialLayer : ℤ) (temporalLayer : Option ℤ) (m : Measurements) :
    Except ConsumerAbort SimulcastConsumer :=
  let c' := c.withPreferredLayers spatialLayer temporalLayer
  if c'.isActive ∧ (c'.preferredSpatialLayer ≠ c.preferredSpatialLayer ∨
      c'.preferredTemporalLayer ≠ c.preferredTemporalLayer) then c'.mayChangeLayers m true
  else .ok c'

def step : Event → Except ConsumerAbort SimulcastConsumer
  | .rtpPacket packet => c.sendRtpPacket packet
  | .newRtpStream mappedSsrc inactivityCheck temporalLayers m =>
    c.producerNewRtpStream mappedSsrc inactivityCheck temporalLayers m
  | .score layer score m =>
    match c.stream layer with
    | none => .ok c
    | some stream => c.setScore layer stream score m
  | .senderReport layer ntpSec ntpFrac rtpTs score m =>
    c.receiveRtcpSenderReport layer ntpSec ntpFrac rtpTs score m
  | .setPreferredLayers spatialLayer temporalLayer m =>
    c.setPreferredLayers spatialLayer temporalLayer m
  | .pause =>
    if c.paused then .ok c
    else
      let c' := { c with paused := true }
      .ok (if c.isActive then c'.userOnPaused else c')
  | .resume m =>
    if !c.paused then .ok c
    else
      let c' := { c with paused := false }
      if c'.isActive then c'.userOnResumed m else .ok c'
  | .producerPaused =>
    if c.producerPaused then .ok c
    else
      let c' := { c with producerPaused := true }
      .ok (if c.isActive then c'.userOnPaused else c')
  | .producerResumed m =>
    if !c.producerPaused then .ok c
    else
      let c' := { c with producerPaused := false }
      if c'.isActive then c'.userOnResumed m else .ok c'
  | .transportConnected m =>
    if c.transportConnected then .ok c
    else { c with transportConnected := true }.userOnTransportConnected m
  | .transportDisconnected =>
    if !c.transportConnected then .ok c
    else .ok { c with transportConnected := false }.userOnPaused
  | .ownScore m =>
    if c.isActive ∧ !c.externallyManagedBitrate then c.mayChangeLayers m false else .ok c
  | .setExternallyManagedBitrate => .ok { c with externallyManagedBitrate := true }
  | .availableBitrate m => if c.externallyManagedBitrate then c.distribute m else .ok c

end SimulcastConsumer

end Mediasoup
