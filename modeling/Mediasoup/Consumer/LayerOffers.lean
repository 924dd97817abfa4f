/-
What the consumers do with bitrate that is offered to them (`IncreaseLayer`).

While the transport distributes its available bitrate it offers what is left to one
consumer after the other.  A simulcast or SVC consumer moves its provisional layers up by
one step if the bitrate covers it, a simple consumer takes what its stream needs; each
answers with the bitrate that it used.

* `SimulcastConsumer.offerLayer`, `SvcConsumer.increaseLayer`,
  `SimpleConsumer.increaseLayer` — the three answers;
* `Answers` — what any of them guarantees: no more is used than was offered, and if any
  bitrate is used then the provisional layers have moved up;
* `offerLayer_map` — the provisional layers of a simulcast consumer are those that
  `increaseLayer` finds;
* `managed_of_run` — a simulcast consumer that a run reaches may be offered bitrate.
-/
import Mathlib.Data.Prod.Lex
import Mediasoup.Consumer.SenderReports

open Runs

namespace Mediasoup

structure Reading extends Measurements where
  /-- The bitrate of the whole stream of a simple consumer. -/
  streamBitrate : ℕ
  /-- The virtual bitrate, by the loss of the consumer's stream. -/
  lossAdjusted : ℕ → ℕ

/-- The bitrate that the layers of a consumer are compared with. -/
def Reading.virtualBitrate (r : Reading) (considerLoss : Bool) (bitrate : ℕ) : ℕ :=
  if considerLoss then r.lossAdjusted bitrate else bitrate

def usedBitrate (required bitrate virtualBitrate : ℕ) : ℕ :=
  if required ≤ bitrate then required
  else if required ≤ virtualBitrate then bitrate
  else required

theorem usedBitrate_le {required bitrate virtualBitrate : ℕ} (h : required ≤ virtualBitrate) :
    usedBitrate required bitrate virtualBitrate ≤ bitrate := by
  unfold usedBitrate
  rw [if_pos h]
  split
  · assumption
  · exact le_rfl

/-- Failed assertions of `GetBitratePriority`, `IncreaseLayer` and `ApplyLayers`. -/
inductive OfferAbort where
  | notExternallyManaged
  | shouldBeVideo
  | layer (reason : ConsumerAbort)

theorem assert_of {α : Type} {b : Bool} (h : b = true) (x y : α) : (if !b then x else y) = y := by
  rw [h]
  rfl

/-! ### Simulcast consumers -/

namespace SimulcastConsumer

/-- `IncreaseLayer`, with the bitrate that is used. -/
def offerLayer (r : Reading) (considerLoss : Bool) (bitrate : ℕ) (c : SimulcastConsumer) :
    Except OfferAbort (ℕ × SimulcastConsumer) :=
  if !c.externallyManagedBitrate then .error .notExternallyManaged
  else if !c.isActive then .error (.layer .shouldBeActive)
  else if layerNumber c.provisionalTargetSpatialLayer = c.preferredSpatialLayer ∧
      c.provisionalTargetTemporalLayer = c.preferredTemporalLayer then .ok (0, c)
  else do
    match ← (c.increaseLoop r.toMeasurements c.producerRtpStreams 0).mapError .layer with
    | none => return (0, c)
    | some (layer, temporalLayer, required) =>
      if r.virtualBitrate considerLoss bitrate < required then return (0, c)
      else return (usedBitrate required bitrate (r.virtualBitrate considerLoss bitrate),
        { c with
          provisionalTargetSpatialLayer := some layer
          provisionalTargetTemporalLayer := temporalLayer })

theorem offerLayer_map {c : SimulcastConsumer} (h : c.externallyManagedBitrate = true)
    (r : Reading) (considerLoss : Bool) (bitrate : ℕ) :
    (c.offerLayer r considerLoss bitrate).map Prod.snd =
      (c.increaseLayer r.toMeasurements (r.virtualBitrate considerLoss bitrate)).mapError
        .layer := by
  unfold offerLayer increaseLayer
  rw [assert_of h]
  split
  · rfl
  split
  · rfl
  cases c.increaseLoop r.toMeasurements c.producerRtpStreams 0 with
  | error reason => rfl
  | ok found =>
    obtain _ | ⟨layer, temporalLayer, required⟩ := found
    · rfl
    -- both compare the virtual bitrate with what the layers need
    show (if _ then Except.ok (0, c) else _ : Except OfferAbort _).map Prod.snd =
      (if _ then Except.ok c else _ : Except ConsumerAbort _).mapError _
    split <;> rfl

def provisionalLayers (c : SimulcastConsumer) : ℤ × ℤ :=
  (layerNumber c.provisionalTargetSpatialLayer, c.provisionalTargetTemporalLayer)

end SimulcastConsumer

/-! ### SVC consumers -/

/-- The stream of the producer of an SVC consumer. -/
structure SvcStream where
  score : ℕ
  hasRtpInactivityCheckEnabled : Bool
  spatialLayers : ℕ
  temporalLayers : ℕ

/-- `RTC::SvcConsumer`; target and current layers are those of its encoding context. -/
structure SvcConsumer where
  transportConnected : Bool
  paused : Bool
  producerPaused : Bool
  externallyManagedBitrate : Bool
  producerRtpStream : Option SvcStream
  preferredSpatialLayer : ℤ
  preferredTemporalLayer : ℤ
  provisionalTargetSpatialLayer : ℤ
  provisionalTargetTemporalLayer : ℤ
  targetSpatialLayer : ℤ
  targetTemporalLayer : ℤ
  currentSpatialLayer : ℤ
  currentTemporalLayer : ℤ
  ksvc : Bool
  lastBweDowngradeAtMs : ℕ

namespace SvcConsumer

variable (c : SvcConsumer)

def isActive : Bool :=
  c.transportConnected && !c.paused && !c.producerPaused &&
    match c.producerRtpStream with
    | none => false
    | some stream => 0 < stream.score || !stream.hasRtpInactivityCheckEnabled

def recentlyDowngraded (nowMs : ℕ) : Bool :=
  (nowMs + 2 ^ 64 - c.lastBweDowngradeAtMs) % 2 ^ 64 < 10000

def nextTemporalLayer (layer : ℕ) (stream : SvcStream) : Option ℕ :=
  (List.range stream.temporalLayers).find? fun temporalLayer =>
    !((layer : ℤ) = c.provisionalTargetSpatialLayer ∧
      (temporalLayer : ℤ) ≤ c.provisionalTargetTemporalLayer)

/-- The bitrate that a layer needs; with K-SVC the lowest temporal layer of a higher layer
takes the place of the provisional layers. -/
def requiredBitrate (m : Measurements) (layer temporalLayer : ℕ) : ℕ :=
  let required := m.layerBitrate layer temporalLayer
  if c.ksvc ∧ required ≠ 0 ∧ temporalLayer = 0 ∧ -1 < c.provisionalTargetSpatialLayer ∧
      c.provisionalTargetSpatialLayer < layer then
    let provisionalRequired :=
      m.bitrate c.provisionalTargetSpatialLayer.toNat c.provisionalTargetTemporalLayer
    if provisionalRequired < required then required - provisionalRequired else 1
  else required

/-- The next temporal layer of a spatial layer, if it is active. -/
def nextLayers (m : Measurements) (stream : SvcStream) (layer : ℕ) :
    Option (ℕ × ℕ × ℕ) :=
  match c.nextTemporalLayer layer stream with
  | none => none
  | some temporalLayer =>
    let required := c.requiredBitrate m layer temporalLayer
    if required = 0 then none else some (layer, temporalLayer, required)

/-- The loop of `IncreaseLayer` over the spatial layers that are left. -/
def increaseLoop (c : SvcConsumer) (m : Measurements) (stream : SvcStream) :
    ℕ → ℕ → Option (ℕ × ℕ × ℕ)
  | 0, _ => none
  | left + 1, layer =>
    if c.recentlyDowngraded m.nowMs ∧ -1 < c.provisionalTargetSpatialLayer ∧
        c.currentSpatialLayer < layer then none
    else if (layer : ℤ) < c.provisionalTargetSpatialLayer then
      increaseLoop c m stream left (layer + 1)
    else match c.nextLayers m stream layer with
      | some found => some found
      | none =>
        if c.preferredSpatialLayer ≤ layer then none
        else increaseLoop c m stream left (layer + 1)

def increaseLayer (r : Reading) (considerLoss : Bool) (bitrate : ℕ) (c : SvcConsumer) :
    Except OfferAbort (ℕ × SvcConsumer) :=
  if !c.externallyManagedBitrate then .error .notExternallyManaged
  else if !c.isActive then .error (.layer .shouldBeActive)
  else match c.producerRtpStream with
    | none => .error (.layer .nullStream)
    | some stream =>
      if stream.score = 0 then .ok (0, c)
      else if c.provisionalTargetSpatialLayer = c.preferredSpatialLayer ∧
          c.provisionalTargetTemporalLayer = c.preferredTemporalLayer then .ok (0, c)
      else match c.increaseLoop r.toMeasurements stream stream.spatialLayers 0 with
        | none => .ok (0, c)
        | some (layer, temporalLayer, required) =>
          if r.virtualBitrate considerLoss bitrate < required then .ok (0, c)
          else .ok (usedBitrate required bitrate (r.virtualBitrate considerLoss bitrate),
            { c with
              provisionalTargetSpatialLayer := layer
              provisionalTargetTemporalLayer := temporalLayer })

def updateTargetLayers (newTargetSpatialLayer newTargetTemporalLayer : ℤ) :
    SvcConsumer :=
  if newTargetSpatialLayer = -1 then
    { c with
      targetSpatialLayer := -1
      targetTemporalLayer := -1
      currentSpatialLayer := -1
      currentTemporalLayer := -1 }
  else
    { c with
      targetSpatialLayer := newTargetSpatialLayer
      targetTemporalLayer := newTargetTemporalLayer }

def applyLayers (m : Measurements) (c : SvcConsumer) : Except OfferAbort SvcConsumer :=
  if !c.externallyManagedBitrate then .error .notExternallyManaged
  else if !c.isActive then .error (.layer .shouldBeActive)
  else
    let c' := { c with
      provisionalTargetSpatialLayer := -1
      provisionalTargetTemporalLayer := -1 }
    if c.provisionalTargetSpatialLayer ≠ c.targetSpatialLayer ∨
        c.provisionalTargetTemporalLayer ≠ c.targetTemporalLayer then
      let c'' := c'.updateTargetLayers c.provisionalTargetSpatialLayer
        c.provisionalTargetTemporalLayer
      if 8000 < m.ownActiveMs ∧ c''.targetSpatialLayer < c''.currentSpatialLayer ∧
          c''.currentSpatialLayer ≤ c''.preferredSpatialLayer then
        .ok { c'' with lastBweDowngradeAtMs := m.nowMs }
      else .ok c''
    else .ok c'

def provisionalLayers : ℤ × ℤ :=
  (c.provisionalTargetSpatialLayer, c.provisionalTargetTemporalLayer)

end SvcConsumer

/-! ### Simple consumers -/

structure SimpleConsumer where
  video : Bool
  transportConnected : Bool
  paused : Bool
  producerPaused : Bool
  externallyManagedBitrate : Bool
  producerRtpStream : Option ProducerStream
  managingBitrate : Bool

namespace SimpleConsumer

def isActive (c : SimpleConsumer) : Bool :=
  c.transportConnected && !c.paused && !c.producerPaused &&
    SimulcastConsumer.isAlive c.producerRtpStream

def increaseLayer (r : Reading) (bitrate : ℕ) (c : SimpleConsumer) :
    Except OfferAbort (ℕ × SimpleConsumer) :=
  if !c.externallyManagedBitrate then .error .notExternallyManaged
  else if !c.video then .error .shouldBeVideo
  else if !c.isActive then .error (.layer .shouldBeActive)
  else if c.managingBitrate then .ok (0, c)
  else .ok (if r.streamBitrate < bitrate then r.streamBitrate else bitrate,
    { c with managingBitrate := true })

def applyLayers (c : SimpleConsumer) : Except OfferAbort SimpleConsumer :=
  if !c.externallyManagedBitrate then .error .notExternallyManaged
  else if !c.video then .error .shouldBeVideo
  else if !c.isActive then .error (.layer .shouldBeActive)
  else .ok { c with managingBitrate := false }

end SimpleConsumer

/-! ### Any consumer -/

inductive AnyConsumer where
  | simple (c : SimpleConsumer)
  | simulcast (c : SimulcastConsumer)
  | svc (c : SvcConsumer)

namespace AnyConsumer

def externallyManagedBitrate : AnyConsumer → Bool
  | .simple c => c.externallyManagedBitrate
  | .simulcast c => c.externallyManagedBitrate
  | .svc c => c.externallyManagedBitrate

/-- The consumer takes part in the distribution: it is active, and of video if simple. -/
def participates : AnyConsumer → Bool
  | .simple c => c.video && c.isActive
  | .simulcast c => c.isActive
  | .svc c => c.isActive

/-- `GetBitratePriority` of a consumer with the priority. -/
def getBitratePriority (c : AnyConsumer) (priority : UInt8) : Except OfferAbort UInt8 :=
  if !c.externallyManagedBitrate then .error .notExternallyManaged
  else .ok (if c.participates then priority else 0)

def increaseLayer (r : Reading) (considerLoss : Bool) (bitrate : ℕ) :
    AnyConsumer → Except OfferAbort (ℕ × AnyConsumer)
  | .simple c => (c.increaseLayer r bitrate).map fun answer => (answer.1, .simple answer.2)
  | .simulcast c =>
    (c.offerLayer r considerLoss bitrate).map fun answer => (answer.1, .simulcast answer.2)
  | .svc c => (c.increaseLayer r considerLoss bitrate).map fun answer => (answer.1, .svc answer.2)

def applyLayers (m : Measurements) : AnyConsumer → Except OfferAbort AnyConsumer
  | .simple c => c.applyLayers.map .simple
  | .simulcast c =>
    if !c.externallyManagedBitrate then .error .notExternallyManaged
    else ((c.applyLayers m).map .simulcast).mapError .layer
  | .svc c => (c.applyLayers m).map .svc

def isSimple : AnyConsumer → Bool
  | .simple _ => true
  | _ => false

def provisionalLayers : AnyConsumer → ℤ × ℤ
  | .simple _ => (-1, -1)
  | .simulcast c => c.provisionalLayers
  | .svc c => c.provisionalLayers

/-- A simple consumer that has had its offer. -/
def spent : AnyConsumer → Bool
  | .simple c => c.managingBitrate
  | _ => false

/-- What holds of the consumers of a transport that manages their bitrate. -/
structure Managed (c : AnyConsumer) : Prop where
  externally : c.externallyManagedBitrate
  anchored : ∀ s, c = .simulcast s → s.Anchored

theorem managed_of_run {c₀ c : SimulcastConsumer} {events : List SimulcastConsumer.Event}
    (hnew : c₀.Settled)
    (hkeep : Along SimulcastConsumer.step SimulcastConsumer.KeepsReports c₀ events)
    (hrun : run SimulcastConsumer.step c₀ events = .ok c) (h : c.externallyManagedBitrate) :
    (simulcast c).Managed := by
  have hsettled := run_meets_along SimulcastConsumer.step_settles events _ hnew hkeep
  rw [hrun] at hsettled
  refine ⟨h, ?_⟩
  rintro s ⟨⟩
  exact hsettled.anchored

/-- The consumer `c` was offered `bitrate` and used `used` of it. -/
structure Answers (c : AnyConsumer) (bitrate used : ℕ) (c' : AnyConsumer) : Prop where
  managed : c'.Managed
  participates : c'.participates
  simple : c'.isSimple = c.isSimple
  used_le : used ≤ bitrate
  climbs : used ≠ 0 → c.isSimple = false →
    toLex c.provisionalLayers < toLex c'.provisionalLayers
  spent : c.isSimple → used ≠ 0 → c.spent = false ∧ c'.spent
  once : c.spent → c'.spent

theorem Managed.refuses {c : AnyConsumer} (hc : c.Managed) (hp : c.participates) (bitrate : ℕ) :
    c.Answers bitrate 0 c where
  managed := hc
  participates := hp
  simple := rfl
  used_le := Nat.zero_le _
  climbs := fun h => absurd rfl h
  spent := fun _ h => absurd rfl h
  once := id

theorem simple_meets {c : SimpleConsumer} (hc : (simple c).Managed) (hp : (simple c).participates)
    (r : Reading) (bitrate : ℕ) :
    Meets (fun _ => True) (fun answer => (simple c).Answers bitrate answer.1 (.simple answer.2))
      (c.increaseLayer r bitrate) := by
  have hext : c.externallyManagedBitrate = true := hc.externally
  have hpart : c.video = true ∧ c.isActive = true := Bool.and_eq_true_iff.mp hp
  unfold SimpleConsumer.increaseLayer
  rw [assert_of hext, assert_of hpart.1, assert_of hpart.2]
  split
  · exact hc.refuses hp bitrate
  rename_i hfirst
  have hfirst : c.managingBitrate = false := by simpa using hfirst
  refine
    { managed := ⟨hc.externally, fun s h => ?_⟩, participates := hp, simple := rfl
      used_le := ?_, climbs := fun _ h => ?_, spent := fun _ _ => ⟨hfirst, rfl⟩
      once := fun _ => rfl }
  · cases h
  · dsimp only
    split
    · omega
    · exact le_rfl
  · cases h

theorem simulcast_meets {c : SimulcastConsumer} (hc : (simulcast c).Managed)
    (hp : (simulcast c).participates) (r : Reading) (considerLoss : Bool) (bitrate : ℕ) :
    Meets (fun _ => True)
      (fun answer => (simulcast c).Answers bitrate answer.1 (.simulcast answer.2))
      (c.offerLayer r considerLoss bitrate) := by
  have hext : c.externallyManagedBitrate = true := hc.externally
  have hactive : c.isActive = true := hp
  have hanchored := hc.anchored c rfl
  unfold SimulcastConsumer.offerLayer
  rw [assert_of hext, assert_of hactive]
  split
  · exact hc.refuses hp bitrate
  -- the loop finds only switchable layers above the provisional ones
  have hloop := @SimulcastConsumer.increaseLoop_meets c (fun _ => True) hanchored r.toMeasurements
    c.producerRtpStreams 0 rfl
  refine (Meets.mapError hloop).bind fun found hfound => ?_
  cases found with
  | none => exact hc.refuses hp bitrate
  | some layers =>
    obtain ⟨layer, temporalLayer, required⟩ := layers
    obtain ⟨hswitchable, hne, habove⟩ := hfound _ rfl
    dsimp only
    split
    · exact hc.refuses hp bitrate
    -- what is left is a layer that fits the bitrate
    rename_i hcovers
    refine
      { managed := ⟨hext, ?_⟩, participates := hactive, simple := rfl
        used_le := usedBitrate_le (by omega), climbs := fun _ _ => ?_
        spent := fun h => ?_, once := fun h => ?_ }
    · rintro s ⟨⟩
      refine ⟨hanchored.reference, ?_⟩
      rintro l ⟨⟩
      exact hswitchable.1
    · exact Prod.Lex.toLex_lt_toLex.mpr habove
    · cases h
    · cases h

end AnyConsumer

namespace SvcConsumer

theorem nextLayers_above {c : SvcConsumer} {m : Measurements} {stream : SvcStream}
    {layer : ℕ} {layers : ℕ × ℕ × ℕ} (hlayer : ¬(layer : ℤ) < c.provisionalTargetSpatialLayer)
    (h : c.nextLayers m stream layer = some layers) : c.provisionalTargetSpatialLayer < layers.1 ∨
      c.provisionalTargetSpatialLayer = layers.1 ∧
        c.provisionalTargetTemporalLayer < layers.2.1 := by
  unfold nextLayers at h
  split at h
  · cases h
  rename_i temporalLayer hnext
  dsimp only at h
  split at h
  · cases h
  cases h
  refine (Int.lt_or_eq_of_le (Int.not_lt.mp hlayer)).imp id fun heq => ⟨heq, ?_⟩
  have hfound := List.find?_some hnext
  simp only [heq, true_and, Bool.not_eq_true', decide_eq_false_iff_not] at hfound
  exact Int.not_le.mp hfound

theorem increaseLoop_above {c : SvcConsumer} {m : Measurements} {stream : SvcStream}
    {layers : ℕ × ℕ × ℕ} : ∀ (left layer : ℕ), c.increaseLoop m stream left layer = some layers →
      c.provisionalTargetSpatialLayer < layers.1 ∨ c.provisionalTargetSpatialLayer = layers.1 ∧
          c.provisionalTargetTemporalLayer < layers.2.1 := by
  intro left
  induction left with
  | zero =>
    intro layer h
    cases h
  | succ left ih =>
    intro layer h
    unfold increaseLoop at h
    split at h
    · cases h
    split at h
    · exact ih _ h
    -- a layer below the provisional one is skipped, so this one is not below
    rename_i hlayer
    split at h
    · rename_i found hfound
      cases h
      exact nextLayers_above hlayer hfound
    · split at h
      · cases h
      · exact ih _ h

end SvcConsumer

namespace AnyConsumer

theorem svc_meets {c : SvcConsumer} (hc : (svc c).Managed) (hp : (svc c).participates)
    (r : Reading) (considerLoss : Bool) (bitrate : ℕ) :
    Meets (fun _ => True) (fun answer => (svc c).Answers bitrate answer.1 (.svc answer.2))
      (c.increaseLayer r considerLoss bitrate) := by
  have hext : c.externallyManagedBitrate = true := hc.externally
  have hactive : c.isActive = true := hp
  have hrefuses := hc.refuses hp bitrate
  unfold SvcConsumer.increaseLayer
  rw [assert_of hext, assert_of hactive]
  split
  · -- an active consumer has a stream
    rename_i hstream
    simp [SvcConsumer.isActive, hstream] at hactive
  · split
    · exact hrefuses
    split
    · exact hrefuses
    split
    · exact hrefuses
    rename_i layer temporalLayer required hfound
    split
    · exact hrefuses
    refine
      { managed := ⟨hext, fun s h => ?_⟩, participates := hactive, simple := rfl
        used_le := usedBitrate_le (by omega), climbs := fun _ _ => ?_
        spent := fun h => ?_, once := fun h => ?_ }
    · cases h
    · exact Prod.Lex.toLex_lt_toLex.mpr (SvcConsumer.increaseLoop_above _ _ hfound)
    · cases h
    · cases h

/-- **One offer** to any consumer. -/
theorem increaseLayer_meets {c : AnyConsumer} (hc : c.Managed) (hp : c.participates)
    (r : Reading) (considerLoss : Bool) (bitrate : ℕ) :
    Meets (fun _ => True) (fun answer => c.Answers bitrate answer.1 answer.2)
      (c.increaseLayer r considerLoss bitrate) := by
  cases c with
  | simple c => exact (simple_meets hc hp r bitrate).map fun _ h => h
  | simulcast c => exact (simulcast_meets hc hp r considerLoss bitrate).map fun _ h => h
  | svc c => exact (svc_meets hc hp r considerLoss bitrate).map fun _ h => h

/-! ### The layers are applied -/

/-- The consumer is ready for the next distribution. -/
structure Rested (c : AnyConsumer) : Prop extends Managed c where
  provisional : c.provisionalLayers = (-1, -1)
  fresh : c.spent = false

end AnyConsumer

namespace SimulcastConsumer

theorem Anchored.updateTargetLayers {c : SimulcastConsumer} (hc : c.Anchored)
    (hnone : c.provisionalTargetSpatialLayer = none) {newTarget : Option ℕ}
    (hnew : ∀ layer, newTarget = some layer → HasStream c layer) (temporalLayer : ℤ) :
    (c.updateTargetLayers newTarget temporalLayer).Anchored ∧
      (c.updateTargetLayers newTarget temporalLayer).provisionalLayers =
        (-1, c.provisionalTargetTemporalLayer) ∧
      (c.updateTargetLayers newTarget temporalLayer).externallyManagedBitrate =
        c.externallyManagedBitrate := by
  have hprovisional : ∀ layer, c.provisionalTargetSpatialLayer = some layer → False := by
    intro layer h
    rw [hnone] at h
    cases h
  have hlayers : layerNumber c.provisionalTargetSpatialLayer = -1 := by
    rw [hnone]
    rfl
  cases newTarget with
  | none =>
    refine ⟨⟨hc.reference, fun layer h => (hprovisional layer h).elim⟩, ?_, rfl⟩
    exact congrArg (·, c.provisionalTargetTemporalLayer) hlayers
  | some layer =>
    refine ⟨⟨fun reference h => ?_, fun layer h => (hprovisional layer h).elim⟩, ?_, rfl⟩
    · -- the first target becomes the reference
      cases hold : c.tsReferenceSpatialLayer with
      | none =>
        simp only [SimulcastConsumer.updateTargetLayers, hold, Option.none_or,
          Option.some.injEq] at h
        exact h ▸ hnew layer rfl
      | some old =>
        simp only [SimulcastConsumer.updateTargetLayers, hold, Option.some_or,
          Option.some.injEq] at h
        exact h ▸ hc.reference old hold
    · exact congrArg (·, c.provisionalTargetTemporalLayer) hlayers

theorem applyLayers_meets {c : SimulcastConsumer} (hc : c.Anchored) (hactive : c.isActive = true)
    (m : Measurements) :
    Meets (fun _ => True) (fun c' => c'.Anchored ∧ c'.provisionalLayers = (-1, -1) ∧
      c'.externallyManagedBitrate = c.externallyManagedBitrate) (c.applyLayers m) := by
  unfold applyLayers
  rw [assert_of hactive]
  have hreset : Anchored { c with
      provisionalTargetSpatialLayer := none, provisionalTargetTemporalLayer := -1 } :=
    ⟨hc.reference, by rintro layer ⟨⟩⟩
  have hupdate := hreset.updateTargetLayers rfl hc.provisional c.provisionalTargetTemporalLayer
  dsimp only
  split
  · split
    · exact ⟨⟨hupdate.1.reference, hupdate.1.provisional⟩, hupdate.2⟩
    · exact hupdate
  · exact ⟨hreset, rfl, rfl⟩

end SimulcastConsumer

namespace AnyConsumer

theorem svc_rested {c : SvcConsumer} (hext : c.externallyManagedBitrate = true)
    (hprovisional : c.provisionalLayers = (-1, -1)) : (svc c).Rested where
  externally := hext
  anchored := by rintro s ⟨⟩
  provisional := hprovisional
  fresh := rfl

theorem svc_applyLayers_meets {c : SvcConsumer} (hext : c.externallyManagedBitrate = true)
    (hactive : c.isActive = true) (m : Measurements) :
    Meets (fun _ => True) (fun c' => (svc c').Rested) (c.applyLayers m) := by
  have hupdate : ∀ (c' : SvcConsumer) (spatial temporal : ℤ), (svc c').Rested →
      (svc (c'.updateTargetLayers spatial temporal)).Rested := by
    intro c' spatial temporal h
    unfold SvcConsumer.updateTargetLayers
    split <;> exact svc_rested h.externally h.provisional
  unfold SvcConsumer.applyLayers
  rw [assert_of hext, assert_of hactive]
  dsimp only
  have hreset : (svc { c with
      provisionalTargetSpatialLayer := -1, provisionalTargetTemporalLayer := -1 }).Rested :=
    svc_rested hext rfl
  have hupdated := hupdate _ c.provisionalTargetSpatialLayer c.provisionalTargetTemporalLayer hreset
  split
  · split
    · exact svc_rested hupdated.externally hupdated.provisional
    · exact hupdated
  · exact hreset

theorem simple_applyLayers_meets {c : SimpleConsumer} (hext : c.externallyManagedBitrate = true)
    (hvideo : c.video = true) (hactive : c.isActive = true) :
    Meets (fun _ => True) (fun c' => (simple c').Rested) c.applyLayers := by
  unfold SimpleConsumer.applyLayers
  rw [assert_of hext, assert_of hvideo, assert_of hactive]
  exact ⟨⟨hext, by rintro s ⟨⟩⟩, rfl, rfl⟩

theorem applyLayers_meets {c : AnyConsumer} (hc : c.Managed) (hp : c.participates)
    (m : Measurements) : Meets (fun _ => True) Rested (c.applyLayers m) := by
  have hext := hc.externally
  cases c with
  | simple c =>
    have hpart : c.video = true ∧ c.isActive = true := Bool.and_eq_true_iff.mp hp
    exact (simple_applyLayers_meets hext hpart.1 hpart.2).map fun _ h => h
  | simulcast c =>
    have hmanaged : c.externallyManagedBitrate = true := hext
    show Meets _ _ (if !c.externallyManagedBitrate then _ else _)
    rw [assert_of hmanaged]
    have happly := SimulcastConsumer.applyLayers_meets (hc.anchored c rfl) hp m
    refine Meets.mapError (happly.map fun c' h => ?_)
    refine ⟨⟨h.2.2.trans hmanaged, ?_⟩, h.2.1, rfl⟩
    rintro s ⟨⟩
    exact h.1
  | svc c => exact (svc_applyLayers_meets hext hp m).map fun _ h => h

end AnyConsumer

end Mediasoup
