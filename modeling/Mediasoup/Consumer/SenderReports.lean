/-
The Sender Reports that a simulcast consumer relies on when it switches layers.

A layer is chosen as the target only if there are Sender Reports for it and for the
reference layer; they are asserted when its key frame arrives.

* `Switchable` — a layer may be the target;
* `Settled` — the invariant between two events;
* `KeepsReports` — the event does not take away a Sender Report that a pending switch
  needs: by a report with the time zero, or by a new stream;
* `run_senderReports` — over a run of such events no assertion about streams and Sender
  Reports fails.
-/
import Mathlib.Tactic.ByContra
import Mediasoup.Consumer.SimulcastConsumer

open List Runs

namespace Mediasoup

namespace SimulcastConsumer

variable {c : SimulcastConsumer}

/-! ### Streams and their reports -/

def HasStream (c : SimulcastConsumer) (layer : ℕ) : Prop :=
  ∃ stream, c.stream layer = some stream

/-- There is a stream with a Sender Report. -/
def Reported (c : SimulcastConsumer) (layer : ℕ) : Prop :=
  ∃ stream, c.stream layer = some stream ∧ stream.senderReportNtpMs ≠ 0

def Switchable (c : SimulcastConsumer) (layer : ℕ) : Prop :=
  HasStream c layer ∧ ∀ reference, c.tsReferenceSpatialLayer = some reference →
    reference ≠ layer → Reported c reference ∧ Reported c layer

/-- What holds also between the parts of an event. -/
structure Core (c : SimulcastConsumer) : Prop where
  reference : ∀ layer, c.tsReferenceSpatialLayer = some layer → HasStream c layer
  target : ∀ layer, c.targetSpatialLayer = some layer →
    HasStream c layer ∧ c.tsReferenceSpatialLayer ≠ none
  pending : ∀ layer, c.targetSpatialLayer = some layer → c.currentSpatialLayer ≠ some layer →
    Switchable c layer
  sync : c.syncRequired → c.currentSpatialLayer = none
  temporal : c.targetSpatialLayer = none → c.targetTemporalLayer = -1

/-- The invariant between two events. -/
structure Settled (c : SimulcastConsumer) : Prop extends Core c where
  idle : c.isActive = false → c.targetSpatialLayer = none ∧ c.currentSpatialLayer = none
  provisional : c.provisionalTargetSpatialLayer = none

/-- Anything but a mapped SSRC that the consumer does not know. -/
def Unexpected (reason : ConsumerAbort) : Prop := reason ≠ .unknownMappedSsrc

abbrev Settles (x : Except ConsumerAbort SimulcastConsumer) : Prop :=
  Meets Unexpected Settled x

theorem new_settled (mappedSsrcs : List UInt32) (streams : ℕ → Option ProducerStream)
    (temporalLayers : ℕ) (clockRate : UInt32) (preferredLayers : Option (ℤ × Option ℤ))
    (paused producerPaused externallyManagedBitrate : Bool) :
    Settled (new mappedSsrcs streams temporalLayers clockRate preferredLayers paused
      producerPaused externallyManagedBitrate) := by
  refine ⟨⟨?_, ?_, ?_, fun _ => rfl, fun _ => rfl⟩, fun _ => ⟨rfl, rfl⟩, rfl⟩
  · intro layer h
    cases h
  · intro layer h
    cases h
  · intro layer h
    cases h

/-! ### The choice of a layer -/

variable {layer other : ℕ} {stream : ProducerStream}

theorem senderReportNtpMs_ok (h : HasStream c layer) :
    ∃ ntpMs, c.senderReportNtpMs layer = .ok ntpMs ∧ (ntpMs ≠ 0 → Reported c layer) := by
  obtain ⟨stream, hs⟩ := h
  refine ⟨stream.senderReportNtpMs, ?_, fun hne => ⟨stream, hs, hne⟩⟩
  rw [senderReportNtpMs, hs]

variable {Bad : ConsumerAbort → Prop}

theorem canSwitch_meets (hc : ∀ layer, c.tsReferenceSpatialLayer = some layer → HasStream c layer)
    (h : HasStream c layer) :
    Meets Bad (fun canSwitch => canSwitch = true → Switchable c layer)
      (c.canSwitchToSpatialLayer layer) := by
  obtain ⟨stream, hs⟩ := h
  unfold canSwitchToSpatialLayer
  rw [hs]
  -- without a reference, or for the reference itself, no report is needed
  cases href : c.tsReferenceSpatialLayer with
  | none =>
    intro _
    refine ⟨⟨stream, hs⟩, fun reference h => ?_⟩
    rw [href] at h
    cases h
  | some reference =>
    dsimp only
    split
    · rename_i heq
      intro _
      refine ⟨⟨stream, hs⟩, fun r h hne => ?_⟩
      rw [href] at h
      exact absurd ((Option.some.inj h).symm.trans heq.symm) hne
    · -- any other layer needs its own report and the reference's
      obtain ⟨ntpMs, hntp, hreported⟩ := senderReportNtpMs_ok (hc reference href)
      rw [hntp]
      intro h
      have hboth : ntpMs ≠ 0 ∧ stream.senderReportNtpMs ≠ 0 := by simpa using h
      refine ⟨⟨stream, hs⟩, fun r hr _ => ?_⟩
      rw [href] at hr
      cases hr
      exact ⟨hreported hboth.1, stream, hs, hboth.2⟩

theorem drop_eq_cons {α : Type*} {l rest : List α} {a : α} {i : ℕ} (h : l.drop i = a :: rest) :
    l[i]? = some a ∧ l.drop (i + 1) = rest := by
  constructor
  · have hget := @List.getElem?_drop _ l i 0
    rw [h] at hget
    simpa using hget.symm
  · rw [← drop_drop, h]
    rfl

theorem stream_of_drop {rest : List (Option ProducerStream)}
    (h : c.producerRtpStreams.drop layer = some stream :: rest) : c.stream layer = some stream := by
  rw [SimulcastConsumer.stream, (drop_eq_cons h).1]
  rfl

/-- Only layers that may be the target are chosen. -/
abbrev ChoosesSwitchable (c : SimulcastConsumer) (result : Option ℕ) : Prop :=
  ∀ layer, result = some layer → Switchable c layer

variable {m : Measurements}

theorem recalculateLoop_meets
    (hc : ∀ layer, c.tsReferenceSpatialLayer = some layer → HasStream c layer) :
    ∀ (streams : List (Option ProducerStream)) (layer : ℕ) (newTarget : Option ℕ),
      c.producerRtpStreams.drop layer = streams → ChoosesSwitchable c newTarget →
      Meets Bad (ChoosesSwitchable c) (c.recalculateLoop m streams layer newTarget) := by
  intro streams
  induction streams with
  | nil => exact fun layer newTarget _ hnew => hnew
  | cons stream rest ih =>
    intro layer newTarget hdrop hnew
    -- whatever is skipped, the rest of the loop keeps the choice so far
    have hrest : ∀ newTarget, ChoosesSwitchable c newTarget → Meets Bad
        (ChoosesSwitchable c) (c.recalculateLoop m rest (layer + 1) newTarget) :=
      fun newTarget h => ih (layer + 1) newTarget (drop_eq_cons hdrop).2 h
    unfold recalculateLoop
    split
    · exact hrest newTarget hnew
    cases stream with
    | none => exact hrest newTarget hnew
    | some stream =>
      dsimp only
      split
      · exact hrest newTarget hnew
      split
      · exact hrest newTarget hnew
      refine (canSwitch_meets hc ⟨stream, stream_of_drop hdrop⟩).bind ?_
      intro canSwitch hcan
      cases canSwitch with
      | false => exact hrest newTarget hnew
      | true =>
        -- the one branch that changes the choice, after `canSwitch` has agreed
        have hlayer : ChoosesSwitchable c (some layer) := by
          rintro l ⟨⟩
          exact hcan rfl
        simp only [Bool.not_true, Bool.false_eq_true, if_false]
        split
        · exact hlayer
        · exact hrest (some layer) hlayer

theorem recalculateTargetLayers_meets
    (hc : ∀ layer, c.tsReferenceSpatialLayer = some layer → HasStream c layer) :
    Meets Bad (fun result => ChoosesSwitchable c result.1)
      (c.recalculateTargetLayers m) := by
  refine (recalculateLoop_meets hc c.producerRtpStreams 0 none rfl ?_).bind fun _ h => h
  intro layer h
  cases h

theorem Core.updateTargetLayers (hc : Core c) {newTarget : Option ℕ}
    (hnew : ChoosesSwitchable c newTarget) (temporalLayer : ℤ) :
    Core (c.updateTargetLayers newTarget temporalLayer) := by
  cases newTarget with
  | none =>
    refine ⟨hc.reference, ?_, ?_, fun _ => rfl, fun _ => rfl⟩
    · intro layer h
      cases h
    · intro layer h
      cases h
  | some layer =>
    have hlayer := hnew layer rfl
    -- `updateTargetLayers` sets the reference only when there is none
    have href : ∀ reference,
        c.tsReferenceSpatialLayer.or (some layer) = some reference →
        c.tsReferenceSpatialLayer = some reference ∨ reference = layer := by
      intro reference h
      cases hold : c.tsReferenceSpatialLayer with
      | none =>
        rw [hold] at h
        exact .inr (Option.some.inj h).symm
      | some r =>
        rw [hold] at h
        exact .inl h
    refine ⟨?_, ?_, ?_, hc.sync, fun h => nomatch h⟩
    · intro reference h
      rcases href reference h with h | rfl
      · exact hc.reference reference h
      · exact hlayer.1
    · rintro l ⟨⟩
      exact ⟨hlayer.1, by simp [SimulcastConsumer.updateTargetLayers]⟩
    · rintro l ⟨⟩ -
      refine ⟨hlayer.1, fun reference h hne => ?_⟩
      rcases href reference h with h | rfl
      · exact hlayer.2 reference h hne
      · exact absurd rfl hne

theorem Core.updateTargetLayers_settled (hc : Core c) (hactive : c.isActive)
    (hprovisional : c.provisionalTargetSpatialLayer = none) {newTarget : Option ℕ}
    (hnew : ChoosesSwitchable c newTarget) (temporalLayer : ℤ) :
    Settled (c.updateTargetLayers newTarget temporalLayer) := by
  refine ⟨hc.updateTargetLayers hnew temporalLayer, fun hidle => ?_, ?_⟩
  · cases newTarget with
    | none => exact ⟨rfl, rfl⟩
    | some layer => exact absurd (hactive.symm.trans hidle) (by simp)
  · cases newTarget with
    | none | some layer => exact hprovisional

theorem Core.unsetTargetLayers (hc : Core c)
    (hprovisional : c.provisionalTargetSpatialLayer = none) :
    Settled (c.updateTargetLayers none (-1)) := by
  have hnone : ChoosesSwitchable c none := by
    intro layer h
    cases h
  exact ⟨hc.updateTargetLayers hnone (-1), fun _ => ⟨rfl, rfl⟩, hprovisional⟩

/-! ### The distribution of the available bitrate -/

/-- The layers that an offer looks at have streams. -/
structure Anchored (c : SimulcastConsumer) : Prop where
  reference : ∀ layer, c.tsReferenceSpatialLayer = some layer → HasStream c layer
  provisional : ∀ layer, c.provisionalTargetSpatialLayer = some layer → HasStream c layer

theorem Settled.anchored (h : Settled c) : Anchored c := by
  refine ⟨h.reference, fun layer hlayer => ?_⟩
  rw [h.provisional] at hlayer
  cases hlayer

/-- Between the offers of a distribution. -/
structure Offered (c : SimulcastConsumer) : Prop extends Core c where
  active : c.isActive
  provisional : ChoosesSwitchable c c.provisionalTargetSpatialLayer

/-- A layer, temporal layer and required bitrate above the provisional layers. -/
def Above (c : SimulcastConsumer) (layers : ℕ × ℕ × ℕ) : Prop :=
  layers.2.2 ≠ 0 ∧ (layerNumber c.provisionalTargetSpatialLayer < layers.1 ∨
    layerNumber c.provisionalTargetSpatialLayer = layers.1 ∧
      c.provisionalTargetTemporalLayer < layers.2.1)

theorem waitForStream_meets (hc : Anchored c) :
    Meets Bad (fun _ => True) (c.waitForStream m layer) := by
  unfold waitForStream
  split
  · trivial
  rename_i provisional hprovisional
  obtain ⟨stream, hs⟩ := hc.provisional provisional hprovisional
  split
  · rw [hs]
    trivial
  · trivial

theorem requiredBitrate_meets (hc : Anchored c) (layer temporalLayer : ℕ) :
    Meets Bad (fun _ => True) (c.requiredBitrate m layer temporalLayer) := by
  unfold requiredBitrate
  split
  · trivial
  rename_i provisional hprovisional
  obtain ⟨stream, hs⟩ := hc.provisional provisional hprovisional
  simp only [hs]
  split
  · trivial
  · trivial

theorem nextTemporalLayer_above {temporalLayer : ℕ}
    (h : c.nextTemporalLayer layer stream = some temporalLayer)
    (hlayer : c.provisionalTargetSpatialLayer = some layer) :
    c.provisionalTargetTemporalLayer < temporalLayer := by
  have hfound := List.find?_some h
  simp only [hlayer, true_and, Bool.not_eq_true', decide_eq_false_iff_not] at hfound
  exact Int.not_le.mp hfound

theorem nextLayers_meets (hc : Anchored c)
    (hlayer : ¬(layer : ℤ) < layerNumber c.provisionalTargetSpatialLayer) :
    Meets Bad (fun found => ∀ result, found = some result → result.1 = layer ∧ Above c result)
      (c.nextLayers m layer stream) := by
  unfold nextLayers
  split
  · rintro result ⟨⟩
  rename_i temporalLayer hnext
  refine (requiredBitrate_meets hc layer temporalLayer).bind fun required _ => ?_
  intro result h
  split at h
  · cases h
  rename_i hne
  cases h
  refine ⟨rfl, hne, (Int.lt_or_eq_of_le (Int.not_lt.mp hlayer)).imp id fun heq => ⟨heq, ?_⟩⟩
  refine nextTemporalLayer_above hnext ?_
  cases hprovisional : c.provisionalTargetSpatialLayer with
  | none =>
    rw [hprovisional] at heq
    exact absurd heq (by simp only [layerNumber]; omega)
  | some provisional =>
    rw [hprovisional] at heq
    exact congrArg some (Int.ofNat_inj.mp heq)

theorem increaseLoop_meets (hc : Anchored c) (m : Measurements) :
    ∀ (streams : List (Option ProducerStream)) (layer : ℕ),
      c.producerRtpStreams.drop layer = streams →
      Meets Bad (fun found => ∀ result, found = some result →
        Switchable c result.1 ∧ Above c result) (c.increaseLoop m streams layer) := by
  intro streams
  induction streams with
  | nil =>
    rintro layer - result h
    cases h
  | cons stream rest ih =>
    intro layer hdrop
    have hrest := ih (layer + 1) (drop_eq_cons hdrop).2
    unfold increaseLoop
    split
    · rintro result ⟨⟩
    split
    · exact hrest
    rename_i hlayer
    cases stream with
    | none => exact hrest
    | some stream =>
      -- the three calls of the body can throw; with the streams there, none does
      refine (waitForStream_meets hc).bind fun wait _ => ?_
      split
      · exact hrest
      refine (canSwitch_meets hc.reference ⟨stream, stream_of_drop hdrop⟩).bind ?_
      intro canSwitch hcan
      cases canSwitch with
      | false => exact hrest
      | true =>
        refine (nextLayers_meets hc hlayer).bind fun found hfound => ?_
        split
        · intro result h
          obtain ⟨heq, habove⟩ := hfound result h
          refine ⟨?_, habove⟩
          rw [heq]
          exact hcan rfl
        · split
          · rintro result ⟨⟩
          · exact hrest

theorem increaseLayer_meets (m : Measurements) (c : SimulcastConsumer) (virtualBitrate : ℕ)
    (hc : Offered c) : Meets Unexpected Offered (increaseLayer m c virtualBitrate) := by
  unfold increaseLayer
  rw [hc.active]
  simp only [Bool.not_true, Bool.false_eq_true, if_false]
  split
  · exact hc
  refine (increaseLoop_meets ⟨hc.reference, fun layer h => (hc.provisional layer h).1⟩ m
    c.producerRtpStreams 0 rfl).bind fun found hfound => ?_
  cases found with
  | none => exact hc
  | some result =>
    dsimp only
    split
    · exact hc
    · refine ⟨⟨hc.reference, hc.target, hc.pending, hc.sync, hc.temporal⟩, hc.active, ?_⟩
      rintro layer ⟨⟩
      exact (hfound result rfl).1

theorem applyLayers_settles (hc : Offered c) : Settles (c.applyLayers m) := by
  unfold applyLayers
  rw [hc.active]
  simp only [Bool.not_true, Bool.false_eq_true, if_false]
  have hreset : Core { c with
      provisionalTargetSpatialLayer := none, provisionalTargetTemporalLayer := -1 } :=
    ⟨hc.reference, hc.target, hc.pending, hc.sync, hc.temporal⟩
  split
  · have hsettled := hreset.updateTargetLayers_settled hc.active rfl
      hc.provisional c.provisionalTargetTemporalLayer
    split
    · exact ⟨⟨hsettled.reference, hsettled.target, hsettled.pending, hsettled.sync,
        hsettled.temporal⟩, hsettled.idle, hsettled.provisional⟩
    · exact hsettled
  · refine ⟨hreset, fun hidle => ?_, rfl⟩
    exact absurd (hc.active.symm.trans hidle) (by simp)

theorem distribute_settles (hc : Core c) (hactive : c.isActive)
    (hprovisional : c.provisionalTargetSpatialLayer = none) :
    Settles (c.distribute m) := by
  have hoffered : Offered c := by
    refine ⟨hc, hactive, fun layer h => ?_⟩
    rw [hprovisional] at h
    cases h
  unfold distribute
  rw [if_pos hactive]
  exact (run_meets (increaseLayer_meets m) m.offers c hoffered).bind
    fun c' hc' => applyLayers_settles hc'

theorem mayChangeLayers_settles (hc : Core c) (hactive : c.isActive)
    (hprovisional : c.provisionalTargetSpatialLayer = none) (force : Bool) :
    Settles (c.mayChangeLayers m force) := by
  have hsame : Settled c := by
    refine ⟨hc, fun hidle => ?_, hprovisional⟩
    exact absurd (hactive.symm.trans hidle) (by simp)
  refine (recalculateTargetLayers_meets hc.reference).bind ?_
  rintro ⟨newTarget, newTemporal⟩ hnew
  dsimp only
  split
  · split
    · split
      · exact distribute_settles hc hactive hprovisional
      · exact hsame
    · exact hc.updateTargetLayers_settled hactive hprovisional hnew newTemporal
  · exact hsame

theorem mayChangeLayersIfActive_settles (hc : Core c)
    (hprovisional : c.provisionalTargetSpatialLayer = none)
    (hidle : c.isActive = false → c.targetSpatialLayer = none ∧ c.currentSpatialLayer = none) :
    Settles (c.mayChangeLayersIfActive m) := by
  unfold mayChangeLayersIfActive
  split
  · rename_i hactive
    exact mayChangeLayers_settles hc hactive hprovisional false
  · exact ⟨hc, hidle, hprovisional⟩

/-! ### The switch -/

theorem tsOffsetFor_meets (hc : Core c) (htarget : c.targetSpatialLayer = some layer)
    (hpending : c.currentSpatialLayer ≠ some layer) :
    Meets Unexpected (fun _ => True) (c.tsOffsetFor layer) := by
  unfold tsOffsetFor
  split
  · trivial
  rename_i hne
  obtain ⟨reference, href⟩ := Option.ne_none_iff_exists'.mp (hc.target layer htarget).2
  have hother : reference ≠ layer := by
    rintro rfl
    exact hne href.symm
  obtain ⟨⟨stream, hs, hntp⟩, ⟨stream', hs', hntp'⟩⟩ :=
    (hc.pending layer htarget hpending).2 reference href hother
  rw [href, htarget]
  simp only [Option.bind_some, hs, hs', if_neg hntp, if_neg hntp']
  trivial

theorem sendLayerPacket_switching (hc : Settled c) {packet : ConsumerPacket}
    (hkey : packet.isKeyFrame) (htarget : c.targetSpatialLayer = some layer)
    (hpending : c.currentSpatialLayer ≠ some layer) :
    Settles (({ c with
      syncRequired := true, spatialLayerToSync := some layer } : SimulcastConsumer).sendLayerPacket
        packet layer true) := by
  -- the switch, whatever the offset is
  have hswitched : ∀ tsOffset, Settled ((({ c with
      syncRequired := true, spatialLayerToSync := some layer } : SimulcastConsumer).synced
        tsOffset).forward packet true) := by
    intro tsOffset
    exact ⟨⟨hc.reference, hc.target, fun _ ht hne => absurd ht hne, fun hf => (by cases hf),
      hc.temporal⟩, fun hidle => ⟨(hc.idle hidle).1, (hc.idle hidle).1⟩, hc.provisional⟩
  have hsync : Meets Unexpected (fun result : SimulcastConsumer × Bool =>
      Settled (if result.2 then result.1.forward packet true else result.1))
      (({ c with
        syncRequired := true, spatialLayerToSync := some layer } : SimulcastConsumer).sync
          packet layer true) := by
    have hoffset := tsOffsetFor_meets hc.toCore htarget hpending
    refine .bind (Q := fun _ => True) hoffset fun tsOffset _ => ?_
    split
    · dsimp only
      split
      · exact hswitched _
      split
      · exact hswitched _
      · exact ⟨⟨hc.reference, hc.target, hc.pending, fun hf => (by cases hf), hc.temporal⟩,
          hc.idle, hc.provisional⟩
    · exact hswitched _
  simp only [sendLayerPacket, hkey, Bool.not_true, Bool.false_eq_true, and_false, if_false,
    or_true, and_self, if_true]
  refine hsync.bind ?_
  rintro ⟨c', goesOn⟩ h
  exact h

theorem sendRtpPacket_settles (hc : Settled c) (packet : ConsumerPacket) :
    Settles (c.sendRtpPacket packet) := by
  unfold sendRtpPacket
  split
  · exact hc
  split
  · exact fun h => h rfl
  rename_i layer _
  split
  · rename_i hswitch
    split
    · exact hc
    rename_i hkey
    have hpending : c.currentSpatialLayer ≠ some layer := fun h =>
      hswitch.1 (h.trans hswitch.2)
    exact sendLayerPacket_switching hc (by simpa using hkey) hswitch.2.symm hpending
  · split
    · exact hc
    -- the layer is current, so the stream is in sync
    rename_i hcurrent
    have hsome : some layer = c.currentSpatialLayer := not_not.mp hcurrent
    have hsynced : c.syncRequired = false := by
      cases hsync : c.syncRequired with
      | false => rfl
      | true =>
        have hnone := hc.sync hsync
        rw [← hsome] at hnone
        cases hnone
    simp only [sendLayerPacket, hsynced, Bool.false_eq_true, false_and, if_false]
    unfold forward
    rw [if_neg Bool.false_ne_true]
    split
    · exact ⟨⟨hc.reference, hc.target, hc.pending, hc.sync, hc.temporal⟩, hc.idle,
        hc.provisional⟩
    · exact hc

/-! ### Changes of a stream -/

theorem stream_setStream_ne (h : other ≠ layer) :
    (c.setStream layer stream).stream other = c.stream other := by
  rw [SimulcastConsumer.stream, setStream, List.getElem?_set_ne h.symm]
  rfl

theorem stream_setStream_self (h : layer < c.producerRtpStreams.length) (stream : ProducerStream) :
    (c.setStream layer stream).stream layer = some stream := by
  rw [SimulcastConsumer.stream, setStream, List.getElem?_set_self h]
  rfl

theorem lt_of_stream (h : c.stream layer = some stream) : layer < c.producerRtpStreams.length := by
  by_contra hge
  rw [SimulcastConsumer.stream, List.getElem?_eq_none (by omega)] at h
  cases h

theorem HasStream.setStream (h : HasStream c other) (stream : ProducerStream) :
    HasStream (c.setStream layer stream) other := by
  obtain ⟨old, hold⟩ := h
  by_cases heq : other = layer
  · subst heq
    exact ⟨stream, stream_setStream_self (lt_of_stream hold) stream⟩
  · exact ⟨old, (stream_setStream_ne heq).trans hold⟩

theorem Reported.setStream (h : Reported c other)
    (hkeep : other = layer → stream.senderReportNtpMs ≠ 0) :
    Reported (c.setStream layer stream) other := by
  obtain ⟨old, hold, hntp⟩ := h
  by_cases heq : other = layer
  · subst heq
    exact ⟨stream, stream_setStream_self (lt_of_stream hold) stream, hkeep rfl⟩
  · exact ⟨old, (stream_setStream_ne heq).trans hold, hntp⟩

/-- A switch to a layer other than the reference is pending, and it needs the Sender
Report of the layer. -/
def PendingOn (c : SimulcastConsumer) (layer : ℕ) : Prop :=
  c.targetSpatialLayer ≠ none ∧ c.currentSpatialLayer ≠ c.targetSpatialLayer ∧
    c.tsReferenceSpatialLayer ≠ none ∧ c.tsReferenceSpatialLayer ≠ c.targetSpatialLayer ∧
    (c.targetSpatialLayer = some layer ∨ c.tsReferenceSpatialLayer = some layer)
  deriving Decidable

theorem pendingOn_iff {target reference : ℕ} (htarget : c.targetSpatialLayer = some target)
    (hcurrent : c.currentSpatialLayer ≠ some target)
    (hreference : c.tsReferenceSpatialLayer = some reference) (hne : reference ≠ target) :
    PendingOn c layer ↔ target = layer ∨ reference = layer := by
  simp [PendingOn, htarget, hcurrent, hreference, hne]

theorem Core.reported (hc : Core c) (h : PendingOn c layer) : Reported c layer := by
  obtain ⟨htarget, hcurrent, hreference, hne, hlayer⟩ := h
  obtain ⟨target, htarget⟩ := Option.ne_none_iff_exists'.mp htarget
  obtain ⟨reference, hreference⟩ := Option.ne_none_iff_exists'.mp hreference
  rw [htarget] at hcurrent hne hlayer
  rw [hreference] at hne hlayer
  obtain ⟨h, h'⟩ := (hc.pending target htarget hcurrent).2 reference hreference
    fun heq => hne (congrArg some heq)
  rcases hlayer with hlayer | hlayer
  · cases hlayer
    exact h'
  · cases hlayer
    exact h

theorem Core.setStream (hc : Core c) (hkeep : PendingOn c layer → stream.senderReportNtpMs ≠ 0) :
    Core (c.setStream layer stream) := by
  refine ⟨?_, ?_, ?_, hc.sync, hc.temporal⟩
  · intro other h
    exact (hc.reference other h).setStream stream
  · intro other h
    exact ⟨(hc.target other h).1.setStream stream, (hc.target other h).2⟩
  · intro target htarget hpending
    obtain ⟨hstream, hreported⟩ := hc.pending target htarget hpending
    refine ⟨hstream.setStream stream, fun reference href hne => ?_⟩
    obtain ⟨h, h'⟩ := hreported reference href hne
    refine ⟨h.setStream fun heq => ?_, h'.setStream fun heq => ?_⟩
    · exact hkeep ((pendingOn_iff htarget hpending href hne).mpr (.inr heq))
    · exact hkeep ((pendingOn_iff htarget hpending href hne).mpr (.inl heq))

theorem isActive_setStream_of_alive (halive : isAlive (some stream)) (hactive : c.isActive) :
    (c.setStream layer stream).isActive := by
  by_cases hlt : layer < c.producerRtpStreams.length
  · rw [isActive, Bool.and_eq_true] at hactive ⊢
    refine ⟨hactive.1, any_eq_true.mpr ⟨some stream, ?_, halive⟩⟩
    exact mem_set hlt (some stream)
  · rwa [setStream, set_eq_of_length_le (by omega)]

theorem isActive_setStream_of_same {stream' : ProducerStream} (hs : c.stream layer = some stream)
    (hsame : isAlive (some stream') = isAlive (some stream)) :
    (c.setStream layer stream').isActive = c.isActive := by
  have hlt := lt_of_stream hs
  have hget : c.producerRtpStreams[layer] = some stream := by
    rw [SimulcastConsumer.stream, List.getElem?_eq_getElem hlt] at hs
    exact hs
  -- `isActive` reads a stream only through `isAlive`
  have hmap : (c.producerRtpStreams.set layer (some stream')).map isAlive =
      c.producerRtpStreams.map isAlive := by
    rw [map_set, hsame, ← hget]
    refine ext_getElem (by simp) fun i h h' => ?_
    by_cases hi : layer = i
    · subst hi
      simp
    · simp [getElem_set_ne hi]
  rw [isActive, isActive]
  congr 1
  have hany : ∀ l : List (Option ProducerStream), l.any isAlive = (l.map isAlive).any id := by
    intro l
    rw [any_map]
    rfl
  rw [hany, hany]
  exact congrArg (fun l => List.any l id) hmap

/-! ### Events -/

/-- The layer whose Sender Report is lost: a report with the time zero cannot be told
from none, and a new stream has none. -/
def loses (c : SimulcastConsumer) : Event → Option ℕ
  | .senderReport layer ntpSec ntpFrac _ _ _ =>
    if ntp2TimeMs ntpSec ntpFrac = 0 then some layer else none
  | .newRtpStream mappedSsrc _ _ _ => c.mapMappedSsrcSpatialLayer.lookup mappedSsrc
  | _ => none

/-- The event takes away no Sender Report that a pending switch needs. -/
def KeepsReports (c : SimulcastConsumer) (event : Event) : Prop :=
  ∀ layer ∈ c.loses event, ¬PendingOn c layer
  deriving Decidable

theorem producerNewRtpStream_settles (hc : Settled c) {mappedSsrc : UInt32}
    (hkeep : ∀ layer, c.mapMappedSsrcSpatialLayer.lookup mappedSsrc = some layer →
      ¬PendingOn c layer) (inactivityCheck : Bool) (temporalLayers : ℕ) :
    Settles (c.producerNewRtpStream mappedSsrc inactivityCheck temporalLayers m) := by
  unfold producerNewRtpStream
  split
  · exact fun h => h rfl
  rename_i layer hlayer
  refine mayChangeLayersIfActive_settles
    (hc.toCore.setStream fun h => absurd h (hkeep layer hlayer)) hc.provisional ?_
  -- a new stream is alive, so the consumer was not active before
  intro hidle
  refine hc.idle ?_
  cases hactive : c.isActive with
  | false => rfl
  | true =>
    have halive : isAlive (some ⟨10, inactivityCheck, temporalLayers, 0, 0⟩) := rfl
    exact absurd ((isActive_setStream_of_alive halive hactive).symm.trans hidle) (by simp)

theorem producerRtpStreamScore_settles (hc : Core c)
    (hprovisional : c.provisionalTargetSpatialLayer = none)
    (hidle : c.parentIsActive = false →
      c.targetSpatialLayer = none ∧ c.currentSpatialLayer = none)
    (score previousScore : ℕ) :
    Settles (c.producerRtpStreamScore score previousScore m) := by
  unfold producerRtpStreamScore
  split
  · split
    · exact hc.unsetTargetLayers hprovisional
    rename_i hactive
    have hactive' : c.isActive := by simpa using hactive
    split
    · exact mayChangeLayers_settles hc hactive' hprovisional false
    · refine ⟨hc, fun h => ?_, hprovisional⟩
      exact absurd (hactive'.symm.trans h) (by simp)
  · rename_i hparent
    exact ⟨hc, fun _ => hidle (by simpa using hparent), hprovisional⟩

theorem isActive_of_parent (h : c.parentIsActive = false) : c.isActive = false := by
  rw [isActive, h, Bool.false_and]

section

variable (hc : Settled c)
include hc

theorem Settled.parentIdle (h : c.parentIsActive = false) :
    c.targetSpatialLayer = none ∧ c.currentSpatialLayer = none := hc.idle (isActive_of_parent h)

variable {m : Measurements}

theorem setScore_settles (hs : c.stream layer = some stream) (score : ℕ) :
    Settles (c.setScore layer stream score m) := by
  unfold setScore
  split
  · exact hc
  refine producerRtpStreamScore_settles (hc.toCore.setStream ?_) hc.provisional
    (fun h => hc.parentIdle h) score stream.score
  -- the report stays the same
  intro hpending
  obtain ⟨old, hold, hntp⟩ := hc.toCore.reported hpending
  rw [hs] at hold
  cases hold
  exact hntp

theorem producerRtcpSenderReport_settles (first : Bool) :
    Settles (c.producerRtcpSenderReport first m) := by
  unfold producerRtcpSenderReport
  split
  · exact hc
  split
  · exact hc
  · split
    · exact hc
    · exact mayChangeLayersIfActive_settles hc.toCore hc.provisional hc.idle

theorem Settled.setReport (hs : c.stream layer = some stream) (ntpMs : ℕ)
    (rtpTs : UInt32) (hkeep : ntpMs = 0 → ¬PendingOn c layer) :
    Settled (c.setStream layer
      { stream with senderReportNtpMs := ntpMs, senderReportTs := rtpTs }) := by
  refine ⟨hc.toCore.setStream fun hpending hzero => hkeep hzero hpending, ?_, hc.provisional⟩
  intro hidle
  exact hc.idle ((isActive_setStream_of_same hs (by rfl)).symm.trans hidle)

theorem receiveRtcpSenderReport_settles {ntpSec ntpFrac : UInt32}
    (hkeep : ntp2TimeMs ntpSec ntpFrac = 0 → ¬PendingOn c layer) (rtpTs : UInt32) (score : ℕ)
    (m : Measurements) :
    Settles (c.receiveRtcpSenderReport layer ntpSec ntpFrac rtpTs score m) := by
  unfold receiveRtcpSenderReport
  generalize ntp2TimeMs ntpSec ntpFrac = ntpMs at hkeep ⊢
  split
  · exact hc
  rename_i stream hs
  have hself := stream_setStream_self (lt_of_stream hs)
    { stream with senderReportNtpMs := ntpMs, senderReportTs := rtpTs }
  exact (setScore_settles (hc.setReport hs ntpMs rtpTs hkeep) hself score).bind
    fun c' hc' => producerRtcpSenderReport_settles hc' _

theorem Settled.userOnPaused (paused producerPaused transportConnected : Bool) : Settled ({ c with
      paused := paused, producerPaused := producerPaused,
      transportConnected := transportConnected } : SimulcastConsumer).userOnPaused := by
  have hcore : Core ({ c with
      paused := paused, producerPaused := producerPaused,
      transportConnected := transportConnected, lastBweDowngradeAtMs := 0 } : SimulcastConsumer) :=
    ⟨hc.reference, hc.target, hc.pending, hc.sync, hc.temporal⟩
  exact hcore.unsetTargetLayers hc.provisional

/-- A consumer without a selected layer may be set to any state of the transport and the
producer, and has to be synchronised. -/
theorem Settled.reset (hidle : c.targetSpatialLayer = none ∧ c.currentSpatialLayer = none)
    {connected paused producerPaused sync requested checking : Bool} {toSync : Option ℕ} :
    Settled { c with
      transportConnected := connected, paused := paused, producerPaused := producerPaused,
      syncRequired := sync, spatialLayerToSync := toSync,
      keyFrameForTsOffsetRequested := requested,
      checkingForOldPacketsInSpatialLayer := checking } :=
  ⟨⟨hc.reference, hc.target, hc.pending, fun _ => hidle.2, hc.temporal⟩, fun _ => hidle,
    hc.provisional⟩

theorem Settled.mayChange (m : Measurements) : Settles (c.mayChangeLayersIfActive m) :=
  mayChangeLayersIfActive_settles hc.toCore hc.provisional hc.idle

theorem mayChangeLayersWhen_settles (wanted : Prop) [Decidable wanted] (force : Bool) :
    Settles (if c.isActive ∧ wanted then c.mayChangeLayers m force else .ok c) := by
  split
  · rename_i h
    exact mayChangeLayers_settles hc.toCore h.1 hc.provisional force
  · exact hc

end

/-- **Every event that keeps the reports keeps the invariant.** -/
theorem step_settles (c : SimulcastConsumer) (event : Event) (hc : Settled c)
    (hkeep : KeepsReports c event) : Settles (c.step event) := by
  cases event with
  | rtpPacket packet => exact sendRtpPacket_settles hc packet
  | newRtpStream mappedSsrc inactivityCheck temporalLayers m =>
    exact producerNewRtpStream_settles hc hkeep inactivityCheck temporalLayers
  | score layer score m =>
    simp only [step]
    split
    · exact hc
    · rename_i stream hs
      exact setScore_settles hc hs score
  | senderReport layer ntpSec ntpFrac rtpTs score m =>
    refine receiveRtcpSenderReport_settles hc (fun hzero => hkeep layer ?_) rtpTs score m
    exact Option.mem_def.mpr (if_pos hzero)
  | setPreferredLayers spatialLayer temporalLayer m =>
    have h : Settled (c.withPreferredLayers spatialLayer temporalLayer) :=
      ⟨⟨hc.reference, hc.target, hc.pending, hc.sync, hc.temporal⟩, hc.idle, hc.provisional⟩
    exact mayChangeLayersWhen_settles h
      ((c.withPreferredLayers spatialLayer temporalLayer).preferredSpatialLayer ≠
          c.preferredSpatialLayer ∨
        (c.withPreferredLayers spatialLayer temporalLayer).preferredTemporalLayer ≠
          c.preferredTemporalLayer) true
  | pause | producerPaused =>
    simp only [step]
    split
    · exact hc
    split
    · exact hc.userOnPaused ..
    · rename_i hactive
      exact hc.reset (hc.idle (by simpa using hactive))
  | resume m | producerResumed m =>
    simp only [step]
    split
    · exact hc
    rename_i hpaused
    -- a paused consumer was inactive, so it holds no target to lose
    have hidle := hc.parentIdle (by simp_all [parentIsActive])
    split
    · exact (hc.reset hidle).mayChange m
    · exact hc.reset hidle
  | transportConnected m =>
    simp only [step]
    split
    · exact hc
    · rename_i hconnected
      have hidle := hc.parentIdle (by simp [parentIsActive, hconnected])
      exact (hc.reset hidle).mayChange m
  | transportDisconnected =>
    simp only [step]
    split
    · exact hc
    · exact hc.userOnPaused c.paused c.producerPaused false
  | ownScore m => exact mayChangeLayersWhen_settles hc (!c.externallyManagedBitrate) false
  | setExternallyManagedBitrate =>
    exact ⟨⟨hc.reference, hc.target, hc.pending, hc.sync, hc.temporal⟩, hc.idle, hc.provisional⟩
  | availableBitrate m =>
    simp only [step]
    split
    · by_cases hactive : c.isActive
      · exact distribute_settles hc.toCore hactive hc.provisional
      · rw [distribute, if_neg hactive]
        exact hc
    · exact hc

/-- **Sender Reports and layer switches.**  From a new consumer, over every run in which
no event takes away a Sender Report that a pending switch needs, no assertion about
streams and Sender Reports fails: the only thing that can stop the worker is a mapped
SSRC that the consumer does not know. -/
theorem run_senderReports (mappedSsrcs : List UInt32) (streams : ℕ → Option ProducerStream)
    (temporalLayers : ℕ) (clockRate : UInt32) (preferredLayers : Option (ℤ × Option ℤ))
    (paused producerPaused externallyManagedBitrate : Bool) {events : List Event}
    (hkeep : Along step KeepsReports (new mappedSsrcs streams temporalLayers clockRate
      preferredLayers paused producerPaused externallyManagedBitrate) events)
    {reason : ConsumerAbort} (hrun : run step (new mappedSsrcs streams temporalLayers clockRate
      preferredLayers paused producerPaused externallyManagedBitrate) events = .error reason) :
    reason = .unknownMappedSsrc := by
  have hmeets := run_meets_along step_settles events _ (new_settled mappedSsrcs streams
    temporalLayers clockRate preferredLayers paused producerPaused externallyManagedBitrate) hkeep
  rw [hrun] at hmeets
  exact not_not.mp hmeets

/-! ### A consumer of two layers -/

/-- Two layers of which the first has a stream. -/
def twoLayers : SimulcastConsumer :=
  new [1000, 1001] (fun layer => if layer = 0 then some ⟨10, true, 1, 0, 0⟩ else none) 1 90000
    none false false false

def steadyMeasurements : Measurements where
  nowMs := 10000
  activeMs := fun _ => 5000
  layerBitrate := fun _ _ => 100000
  bitrate := fun _ _ => 100000
  ownActiveMs := 5000
  offers := []

/-- The first layer is sent, the second one appears, and both are reported: a switch to
the second one is pending. -/
def untilPending : List Event :=
  [.transportConnected steadyMeasurements,
    .rtpPacket ⟨1000, true, true, 1, 1000, 0⟩,
    .newRtpStream 1001 true 1 steadyMeasurements,
    .senderReport 0 100 0 1000 10 steadyMeasurements,
    .senderReport 1 100 0 1000 10 steadyMeasurements]

/-- The second layer is sent after its key frame, after which its report may be lost; a
packet with an unknown SSRC ends the run. -/
def untilUnknown : List Event :=
  untilPending ++ [.rtpPacket ⟨1001, true, true, 1, 1000, 0⟩,
    .senderReport 1 0 0 2000 10 steadyMeasurements, .rtpPacket ⟨7, true, true, 2, 2000, 0⟩]

theorem run_untilUnknown_senderReports :
    Along step KeepsReports twoLayers untilUnknown ∧
      ∃ reason, run step twoLayers untilUnknown = .error reason ∧ reason = .unknownMappedSsrc := by
  have hkeep : Along step KeepsReports twoLayers untilUnknown := by decide +kernel
  have hrun : run step twoLayers untilUnknown = .error .unknownMappedSsrc :=
    stopReason_eq_some.mp (by decide +kernel)
  exact ⟨hkeep, _, hrun, run_senderReports _ _ _ _ _ _ _ _ hkeep hrun⟩

/-- While the switch is pending, a Sender Report with the NTP time zero is received.  The
key frame of the second layer aborts the worker. -/
theorem run_zeroReport_aborts :
    run step twoLayers (untilPending ++ [.senderReport 1 0 0 2000 10 steadyMeasurements,
      .rtpPacket ⟨1001, true, true, 1, 1000, 0⟩]) = .error .noSenderReportForTarget := by
  exact stopReason_eq_some.mp (by decide +kernel)

end SimulcastConsumer

end Mediasoup
