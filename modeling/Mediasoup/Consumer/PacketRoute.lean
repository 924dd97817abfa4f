/-
The way of a packet through `RTC::SimulcastConsumer::SendRtpPacket`, up to the codec.

* `SimulcastConsumer.route` — how far a packet gets, and what it does to the layers;
* `route_consumer` — the consumer after it is the one after `SendRtpPacket`;
* `route_cases` — a packet that gets to the codec is of the current layer, or switches to
  its layer with a synchronisation;
* `step_follows` — no other event chooses a layer.
-/
import Mediasoup.Consumer.SenderReports

open Runs

namespace Mediasoup

namespace SimulcastConsumer

/-! ### The way of a packet -/

structure Route where
  layer : ℕ
  /-- The sequence numbers are synchronised with the packet. -/
  synced : Bool
  /-- `shouldSwitchCurrentSpatialLayer`. -/
  switching : Bool
  /-- The packet is previous to the switch and ignored. -/
  old : Bool
  deriving DecidableEq

variable (c : SimulcastConsumer) (packet : ConsumerPacket)

def isOld : Bool :=
  c.checkingForOldPacketsInSpatialLayer &&
    isSeqLowerThan packet.sequenceNumber c.snReferenceSpatialLayer

def routeForward (layer : ℕ) (synced switching : Bool) : SimulcastConsumer × Option Route :=
  (c.forward packet switching, some ⟨layer, synced, switching, !switching && c.isOld packet⟩)

def routeLayerPacket (layer : ℕ) (switching : Bool) :
    Except ConsumerAbort (SimulcastConsumer × Option Route) :=
  if c.syncRequired ∧ !packet.isKeyFrame then .ok (c, none)
  else if c.syncRequired ∧
      (c.spatialLayerToSync = none ∨ c.spatialLayerToSync = some layer) then do
    let (c', goesOn) ← c.sync packet layer switching
    return if goesOn then c'.routeForward packet layer true switching else (c', none)
  else .ok (c.routeForward packet layer false switching)

/-- `SendRtpPacket` up to the codec. -/
def route : Except ConsumerAbort (SimulcastConsumer × Option Route) :=
  if !c.isActive ∨ c.targetTemporalLayer = -1 ∨ !packet.supported then .ok (c, none)
  else match c.mapMappedSsrcSpatialLayer.lookup packet.ssrc with
    | none => .error .unknownMappedSsrc
    | some layer =>
      if c.currentSpatialLayer ≠ c.targetSpatialLayer ∧ some layer = c.targetSpatialLayer then
        if !packet.isKeyFrame then .ok (c, none)
        else { c with syncRequired := true, spatialLayerToSync := some layer }.routeLayerPacket
          packet layer true
      else if some layer ≠ c.currentSpatialLayer then .ok (c, none)
      else c.routeLayerPacket packet layer false

theorem routeLayerPacket_consumer (layer : ℕ) (switching : Bool) :
    (c.routeLayerPacket packet layer switching).map Prod.fst =
      c.sendLayerPacket packet layer switching := by
  rw [routeLayerPacket, sendLayerPacket]
  split_ifs with hkey hsync
  · rfl
  · cases c.sync packet layer switching with
    | error reason => rfl
    | ok result =>
      obtain ⟨c', goesOn⟩ := result
      cases goesOn with
      | false | true => rfl
  · rfl

theorem route_consumer : (c.route packet).map Prod.fst = c.sendRtpPacket packet := by
  rw [route, sendRtpPacket]
  cases c.mapMappedSsrcSpatialLayer.lookup packet.ssrc with
  | none =>
    dsimp only
    split_ifs
    · rfl
    · rfl
  | some layer =>
    dsimp only
    split_ifs
    · rfl
    · rfl
    · exact routeLayerPacket_consumer _ packet layer true
    · rfl
    · exact routeLayerPacket_consumer c packet layer false

/-- The packet goes on where the last one of its layer was, with no synchronisation. -/
def Continues : Prop :=
  c.isActive ∧ packet.supported ∧
    c.mapMappedSsrcSpatialLayer.lookup packet.ssrc = c.currentSpatialLayer ∧
    ¬(c.syncRequired ∧ (c.spatialLayerToSync = none ∨
      c.spatialLayerToSync = c.currentSpatialLayer)) ∧
    ¬c.isOld packet
  deriving Decidable

/-! ### Between two packets -/

/-- What any other event does: the layer is kept or given up, the timestamps are left, and
only an inactive consumer, or one with no layer, is asked to synchronise or is inactive
afterwards. -/
structure Follows (c c' : SimulcastConsumer) : Prop where
  current : c'.currentSpatialLayer = c.currentSpatialLayer ∨ c'.currentSpatialLayer = none
  tsOffset : c'.tsOffset = c.tsOffset
  sync : c'.syncRequired →
    c.syncRequired ∨ c.isActive = false ∨ c'.currentSpatialLayer = none
  idle : c'.isActive = false → c.isActive = false ∨ c'.currentSpatialLayer = none

variable {c c' c'' : SimulcastConsumer}

theorem Follows.of_none (hcurrent : c'.currentSpatialLayer = none)
    (htsOffset : c'.tsOffset = c.tsOffset) : Follows c c' :=
  ⟨.inr hcurrent, htsOffset, fun _ => .inr (.inr hcurrent), fun _ => .inr hcurrent⟩

theorem Follows.none (h : Follows c c') (hnone : c.currentSpatialLayer = none) :
    c'.currentSpatialLayer = none := by
  rcases h.current with hsame | hgone
  · rw [hsame, hnone]
  · exact hgone

theorem Follows.trans (h : Follows c c') (h' : Follows c' c'') : Follows c c'' := by
  refine ⟨?_, h'.tsOffset.trans h.tsOffset, fun hsync => ?_, fun hidle => ?_⟩
  · rcases h'.current with hsame | hgone
    · rw [hsame]
      exact h.current
    · exact .inr hgone
  · rcases h'.sync hsync with hsync' | hidle | hgone
    · exact (h.sync hsync').imp_right (Or.imp_right h'.none)
    · exact .inr ((h.idle hidle).imp_right h'.none)
    · exact .inr (.inr hgone)
  · rcases h'.idle hidle with hidle' | hgone
    · exact (h.idle hidle').imp_right h'.none
    · exact .inr hgone

/-- The consumer after an event, if it does not abort. -/
abbrev Leads (c : SimulcastConsumer) : Except ConsumerAbort SimulcastConsumer → Prop :=
  Meets (fun _ => False) (Follows c)

theorem Follows.refl (c : SimulcastConsumer) : Follows c c := ⟨.inl rfl, rfl, .inl, .inl⟩

theorem Follows.leads (h : Follows c c') {x : Except ConsumerAbort SimulcastConsumer}
    (hx : c'.Leads x) : c.Leads x := hx.mono fun _ => h.trans

/-! ### The layers of a packet -/

variable {packet : ConsumerPacket} {layer : ℕ} {r : Option Route}

/-- The packet would be sent with a timestamp that is not above the highest one, in the
order of the integers. -/
def IsBehind (packet : ConsumerPacket) (tsOffset : UInt32) : Prop :=
  packet.timestamp - tsOffset ≤ packet.maxPacketTs
  deriving Decidable

/-- The extra offset is too high. -/
def ExtraTooHigh (c : SimulcastConsumer) (packet : ConsumerPacket) (tsOffset : UInt32) : Prop :=
  IsBehind packet tsOffset ∧
    (c.tsExtraOffset packet tsOffset).2 < (c.tsExtraOffset packet tsOffset).1
  deriving Decidable

/-- The offset that the first packet of a new layer sets. -/
def switchOffset (c : SimulcastConsumer) (packet : ConsumerPacket) (tsOffset : UInt32) : UInt32 :=
  if c.ExtraTooHigh packet tsOffset then tsOffset - 1
  else if IsBehind packet tsOffset then tsOffset - (c.tsExtraOffset packet tsOffset).1
  else tsOffset

theorem sync_switching : c.sync packet layer true = c.tsOffsetFor layer >>= fun tsOffset =>
      .ok (if c.ExtraTooHigh packet tsOffset ∧ ¬c.keyFrameForTsOffsetRequested then
        ({ c with
          keyFrameForTsOffsetRequested := true
          syncRequired := false
          spatialLayerToSync := none }, false)
      else (c.synced (c.switchOffset packet tsOffset), true)) := by
  rw [sync]
  cases c.tsOffsetFor layer with
  | error reason => rfl
  | ok tsOffset =>
    show (if true ∧ IsBehind packet tsOffset then
      (if (c.tsExtraOffset packet tsOffset).1 ≤ (c.tsExtraOffset packet tsOffset).2 then _
        else if _ then _ else _) else _) = Except.ok _
    unfold switchOffset
    -- only a packet that is behind computes an extra offset
    by_cases hbehind : IsBehind packet tsOffset
    · have hhigh : c.ExtraTooHigh packet tsOffset ↔
          ¬(c.tsExtraOffset packet tsOffset).1 ≤ (c.tsExtraOffset packet tsOffset).2 :=
        (and_iff_right hbehind).trans UInt32.not_le.symm
      rw [if_pos ⟨rfl, hbehind⟩, if_pos hbehind]
      by_cases hextra : (c.tsExtraOffset packet tsOffset).1 ≤ (c.tsExtraOffset packet tsOffset).2
      · have hlow : ¬c.ExtraTooHigh packet tsOffset := fun h => hhigh.mp h hextra
        rw [if_pos hextra, if_neg (fun h => hlow h.1), if_neg hlow]
        rfl
      · rw [if_neg hextra, if_pos (hhigh.mpr hextra)]
        by_cases hrequested : c.keyFrameForTsOffsetRequested
        · rw [if_pos hrequested, if_neg (fun h => h.2 hrequested)]
          rfl
        · rw [if_neg hrequested, if_pos ⟨hhigh.mpr hextra, hrequested⟩]
          rfl
    · have hlow : ¬c.ExtraTooHigh packet tsOffset := fun h => hbehind h.1
      rw [if_neg (fun h => hbehind h.2), if_neg (fun h => hlow h.1), if_neg hlow, if_neg hbehind]
      rfl

/-- The packet switches to its layer, the target, and sets the offset. -/
structure Switches (c : SimulcastConsumer) (packet : ConsumerPacket) (layer : ℕ)
    (c' : SimulcastConsumer) : Prop where
  target : c.targetSpatialLayer = some layer
  current : c'.currentSpatialLayer = some layer
  sync : c'.syncRequired = false
  active : c'.isActive
  tsOffset : ∃ tsOffset, c.tsOffsetFor layer = .ok tsOffset ∧
    c'.tsOffset = c.switchOffset packet tsOffset ∧
    (c.ExtraTooHigh packet tsOffset → c.keyFrameForTsOffsetRequested)

theorem forward_follows : Follows c (c.forward packet false) ∧
      (c.forward packet false).currentSpatialLayer = c.currentSpatialLayer := by
  rw [forward, if_neg Bool.false_ne_true]
  split_ifs
  · exact ⟨⟨.inl rfl, rfl, .inl, .inl⟩, rfl⟩
  · exact ⟨.refl c, rfl⟩

/-- What a packet does to the layers. -/
inductive Routed (c : SimulcastConsumer) (packet : ConsumerPacket) :
    Option Route → SimulcastConsumer → Prop where
  /-- It is dropped. -/
  | ignored {c' : SimulcastConsumer} (follows : Follows c c')
      (current : c'.currentSpatialLayer = c.currentSpatialLayer) : Routed c packet none c'
  /-- It is the key frame that is waited for. -/
  | switches {c' : SimulcastConsumer} (layer) (h : Switches c packet layer c') :
      Routed c packet (some ⟨layer, true, true, false⟩) c'
  /-- It synchronises with the current layer. -/
  | synchronises {c' : SimulcastConsumer} (layer old) (current : c.currentSpatialLayer = some layer)
      (same : c'.currentSpatialLayer = some layer) (sync : c.syncRequired) :
      Routed c packet (some ⟨layer, true, false, old⟩) c'
  /-- It is of the current layer. -/
  | stays {c' : SimulcastConsumer} (layer old) (current : c.currentSpatialLayer = some layer)
      (follows : Follows c c') (same : c'.currentSpatialLayer = some layer)
      (continues : old = false → c.Continues packet) :
      Routed c packet (some ⟨layer, false, false, old⟩) c'

theorem route_cases (h : c.route packet = .ok (c', r)) : Routed c packet r c' := by
  rw [route] at h
  cases hlookup : c.mapMappedSsrcSpatialLayer.lookup packet.ssrc with
  | none =>
    rw [hlookup] at h
    split_ifs at h
    cases h
    exact .ignored (.refl c) rfl
  | some layer =>
    rw [hlookup] at h
    dsimp only at h
    split_ifs at h with hignored hswitch hkey hcurrent
    · cases h
      exact .ignored (.refl c) rfl
    · cases h
      exact .ignored (.refl c) rfl
    · -- the key frame that is waited for
      rw [routeLayerPacket, if_neg (fun hnot => hkey hnot.2), if_pos ⟨rfl, Or.inr rfl⟩,
        sync_switching] at h
      obtain ⟨⟨c₁, goesOn⟩, hs, h⟩ := bind_eq_ok.mp h
      obtain ⟨tsOffset, htsOffset, hs⟩ := bind_eq_ok.mp hs
      split_ifs at hs with hagain
      · cases hs
        cases h
        exact .ignored ⟨.inl rfl, rfl, fun hf => (by cases hf), .inl⟩ rfl
      · cases hs
        cases h
        push Not at hignored hagain
        have hactive : c.isActive := by simpa using hignored.1
        exact .switches layer ⟨hswitch.2.symm, hswitch.2.symm, rfl, hactive, tsOffset, htsOffset,
          rfl, hagain⟩
    · cases h
      exact .ignored (.refl c) rfl
    · rw [not_not] at hcurrent
      rw [routeLayerPacket] at h
      split_ifs at h with hkey hsync
      · cases h
        exact .ignored (.refl c) rfl
      · rw [sync] at h
        obtain ⟨⟨c₁, goesOn⟩, hs, h⟩ := bind_eq_ok.mp h
        obtain ⟨tsOffset, -, hs⟩ := bind_eq_ok.mp hs
        rw [if_neg (fun hnot => Bool.false_ne_true hnot.1)] at hs
        cases hs
        cases h
        exact .synchronises layer _ hcurrent.symm
          (forward_follows.2.trans hcurrent.symm) hsync.1
      · cases h
        obtain ⟨hfollows, hsame⟩ := forward_follows
        refine .stays layer _ hcurrent.symm hfollows (hsame.trans hcurrent.symm) fun hnot => ?_
        push Not at hignored
        refine ⟨by simpa using hignored.1, by simpa using hignored.2.2, ?_, ?_, ?_⟩
        · rw [hlookup, hcurrent]
        · rwa [← hcurrent]
        · simpa using hnot

/-! ### The other events -/

theorem updateTargetLayers_follows (newTarget : Option ℕ)
    (newTemporal : ℤ) : Follows c (c.updateTargetLayers newTarget newTemporal) := by
  cases newTarget with
  | none => exact .of_none rfl rfl
  | some layer => exact ⟨.inl rfl, rfl, .inl, .inl⟩

section

variable (m : Measurements)

theorem increaseLayer_follows
    (virtualBitrate : ℕ) (h : c.increaseLayer m virtualBitrate = .ok c') : Follows c c' := by
  rw [increaseLayer] at h
  split_ifs at h
  · cases h
    exact .refl c
  obtain ⟨found, -, h⟩ := bind_eq_ok.mp h
  cases found with
  | none =>
    cases h
    exact .refl c
  | some layers =>
    dsimp only at h
    split_ifs at h
    · cases h
      exact .refl c
    · cases h
      exact ⟨.inl rfl, rfl, .inl, .inl⟩

theorem applyLayers_follows : c.Leads (c.applyLayers m) := by
  have hfirst : Follows c { c with
      provisionalTargetSpatialLayer := none
      provisionalTargetTemporalLayer := -1 } := ⟨.inl rfl, rfl, .inl, .inl⟩
  have hupdate := hfirst.trans (updateTargetLayers_follows c.provisionalTargetSpatialLayer
    c.provisionalTargetTemporalLayer)
  rw [applyLayers]
  split_ifs
  · exact id
  · dsimp only
    split_ifs
    · exact ⟨hupdate.current, hupdate.tsOffset, hupdate.sync, hupdate.idle⟩
    · exact hupdate
  · exact hfirst

theorem distribute_follows : c.Leads (c.distribute m) := by
  rw [distribute]
  split_ifs
  · cases hrun : run (increaseLayer m) c m.offers with
    | error reason => exact id
    | ok c' =>
      have hoffers : Follows c c' := run_invariant (P := fun _ _ => True)
        (fun c₁ e c₂ h _ hs => h.trans (increaseLayer_follows m e hs)) m.offers c c'
        (.refl c) (along_of_forall (fun _ _ => trivial) _ _) hrun
      exact hoffers.leads (applyLayers_follows m)
  · exact .refl c

theorem mayChangeLayers_follows (force : Bool) : c.Leads (c.mayChangeLayers m force) := by
  rw [mayChangeLayers]
  cases c.recalculateTargetLayers m with
  | error reason => exact id
  | ok result =>
    obtain ⟨newTarget, newTemporal⟩ := result
    show c.Leads (if _ then _ else _)
    split_ifs
    · exact distribute_follows m
    · exact .refl c
    · exact updateTargetLayers_follows newTarget newTemporal
    · exact .refl c

theorem mayChangeLayersIfActive_follows : c.Leads (c.mayChangeLayersIfActive m) := by
  rw [mayChangeLayersIfActive]
  split_ifs
  · exact mayChangeLayers_follows m false
  · exact .refl c

end

theorem Follows.of_idle (hidle : c.isActive = false)
    (hcurrent : c'.currentSpatialLayer = c.currentSpatialLayer)
    (htsOffset : c'.tsOffset = c.tsOffset) : Follows c c' :=
  ⟨.inl hcurrent, htsOffset, fun _ => .inr (.inl hidle), fun _ => .inl hidle⟩

theorem setScore_follows (stream : ProducerStream)
    (score : ℕ) (m : Measurements) : c.Leads (c.setScore layer stream score m) := by
  rw [setScore, producerRtpStreamScore]
  set c₁ := c.setStream layer { stream with score := score } with hc₁
  have hfirst : c₁.isActive → Follows c c₁ := fun hactive =>
    ⟨.inl rfl, rfl, .inl, fun hidle => by rw [hactive] at hidle; cases hidle⟩
  split_ifs with hsame hparent hidle hall
  · exact .refl c
  · exact .of_none rfl rfl
  · exact (hfirst (by simpa using hidle)).leads (mayChangeLayers_follows m false)
  · exact hfirst (by simpa using hidle)
  · refine .of_idle (isActive_of_parent ?_) rfl rfl
    exact Bool.eq_false_iff.mpr hparent

theorem producerRtcpSenderReport_follows (first : Bool)
    (m : Measurements) : c.Leads (c.producerRtcpSenderReport first m) := by
  rw [producerRtcpSenderReport]
  cases c.currentSpatialLayer.bind c.stream with
  | none =>
    split_ifs
    · exact .refl c
    · exact .refl c
  | some current =>
    dsimp only
    split_ifs
    · exact .refl c
    · exact .refl c
    · exact mayChangeLayersIfActive_follows m

theorem setStream_follows {layer : ℕ} {stream stream' : ProducerStream}
    (hs : c.stream layer = some stream) (hscore : stream'.score = stream.score)
    (hcheck : stream'.hasRtpInactivityCheckEnabled = stream.hasRtpInactivityCheckEnabled) :
    Follows c (c.setStream layer stream') := by
  refine ⟨.inl rfl, rfl, .inl, fun hidle => .inl ?_⟩
  rwa [isActive_setStream_of_same hs (by rw [isAlive, isAlive, hscore, hcheck])] at hidle

theorem receiveRtcpSenderReport_follows
    (ntpSec ntpFrac rtpTs : UInt32) (score : ℕ) (m : Measurements) :
    c.Leads (c.receiveRtcpSenderReport layer ntpSec ntpFrac rtpTs score m) := by
  rw [receiveRtcpSenderReport]
  cases hs : c.stream layer with
  | none => exact .refl c
  | some stream =>
    refine (setStream_follows hs ?_ ?_).leads (.bind (setScore_follows _ score m)
      fun c' hc' => hc'.leads (producerRtcpSenderReport_follows _ m))
    · rfl
    · rfl

theorem step_follows (c : SimulcastConsumer) (event : Event)
    (hevent : ∀ packet, event ≠ .rtpPacket packet) : c.Leads (c.step event) := by
  cases event with
  | rtpPacket packet => exact absurd rfl (hevent packet)
  | newRtpStream mappedSsrc inactivityCheck temporalLayers m =>
    rw [step, producerNewRtpStream]
    cases c.mapMappedSsrcSpatialLayer.lookup mappedSsrc with
    | none => exact id
    | some layer =>
      refine Follows.leads ?_ (mayChangeLayersIfActive_follows m)
      -- a new stream is alive
      refine ⟨.inl rfl, rfl, .inl, fun hidle => .inl ?_⟩
      by_contra hactive
      rw [isActive_setStream_of_alive rfl (by simpa using hactive)] at hidle
      cases hidle
  | score layer score m =>
    rw [step]
    cases c.stream layer with
    | none => exact .refl c
    | some stream => exact setScore_follows stream score m
  | senderReport layer ntpSec ntpFrac rtpTs score m =>
    exact receiveRtcpSenderReport_follows ntpSec ntpFrac rtpTs score m
  | setPreferredLayers spatialLayer temporalLayer m =>
    have hfirst : Follows c (c.withPreferredLayers spatialLayer temporalLayer) :=
      ⟨.inl rfl, rfl, .inl, .inl⟩
    rw [step, setPreferredLayers]
    split_ifs
    · exact hfirst.leads (mayChangeLayers_follows m true)
    · exact hfirst
  | pause | producerPaused =>
    simp only [step]
    split_ifs with hpaused hactive
    · exact .refl c
    · exact .of_none rfl rfl
    · exact .of_idle (by simpa using hactive) rfl rfl
  | resume m | producerResumed m =>
    simp only [step]
    split_ifs with hpaused hactive
    · exact .refl c
    · refine Follows.leads ?_ (mayChangeLayersIfActive_follows m)
      exact .of_idle (isActive_of_parent (by simp_all [parentIsActive])) rfl rfl
    · exact .of_idle (isActive_of_parent (by simp_all [parentIsActive])) rfl rfl
  | transportConnected m =>
    simp only [step]
    split_ifs with hconnected
    · exact .refl c
    · refine Follows.leads ?_ (mayChangeLayersIfActive_follows m)
      exact .of_idle (isActive_of_parent (by simp_all [parentIsActive])) rfl rfl
  | transportDisconnected =>
    simp only [step]
    split_ifs
    · exact .refl c
    · exact .of_none rfl rfl
  | ownScore m =>
    simp only [step]
    split_ifs
    · exact mayChangeLayers_follows m false
    · exact .refl c
  | setExternallyManagedBitrate => exact ⟨.inl rfl, rfl, .inl, .inl⟩
  | availableBitrate m =>
    simp only [step]
    split_ifs
    · exact distribute_follows m
    · exact .refl c

end SimulcastConsumer

end Mediasoup
