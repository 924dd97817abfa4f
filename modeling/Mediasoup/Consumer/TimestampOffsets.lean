/-
The timestamps that a simulcast consumer sends.

A packet is sent with its timestamp less an offset, which is set when the consumer
synchronises: the difference between the Sender Reports of the packet's stream and of
the reference stream, and an extra offset if the first packet of a new layer would be
older than what was sent.

* `switch_timestamp` — when the first packet of a new layer is newer than what was sent;
* `OffsetConsumer.run_offsets` — over every run the offset is that of the stream whose
  packets are sent.
-/
import Mediasoup.Consumer.PacketRoute
import Mediasoup.Rtp.SeqManager

open Runs Circular

namespace Mediasoup

namespace SimulcastConsumer

variable {c c' : SimulcastConsumer} {packet : ConsumerPacket} {layer : ℕ} {tsOffset : UInt32}

/-! ### The first packet of a layer -/

/-- The extra offset is too high even after another key frame was asked for. -/
def GivesUp (c : SimulcastConsumer) (packet : ConsumerPacket) (tsOffset : UInt32) : Prop :=
  c.keyFrameForTsOffsetRequested ∧ c.ExtraTooHigh packet tsOffset
  deriving Decidable

/-- The offset makes up for what the packet is behind, or the packet is ahead by less
than half a circle. -/
def MovesForward (c : SimulcastConsumer) (packet : ConsumerPacket) (tsOffset : UInt32) : Prop :=
  if IsBehind packet tsOffset then 1000 ≤ 33 * c.clockRate
  else packet.timestamp - tsOffset - packet.maxPacketTs < 2147483648
  deriving Decidable

/-- **The first packet of a layer.**  If the code does not give up, it is sent with a
timestamp above the highest one, in the circular order, exactly if it moves forward. -/
theorem switch_timestamp {r : Route} (h : c.route packet = .ok (c', some r))
    (hswitching : r.switching) : ∃ tsOffset, c.tsOffsetFor r.layer = .ok tsOffset ∧
      (¬c.GivesUp packet tsOffset →
        (timestampHigherThan (packet.timestamp - c'.tsOffset) packet.maxPacketTs ↔
          c.MovesForward packet tsOffset)) := by
  cases route_cases h with
  | switches layer hswitches =>
    obtain ⟨tsOffset, htsOffset, happlied, hrequested⟩ := hswitches.tsOffset
    refine ⟨tsOffset, htsOffset, fun hgives => ?_⟩
    have hlow : ¬c.ExtraTooHigh packet tsOffset := fun hhigh => hgives ⟨hrequested hhigh, hhigh⟩
    rw [happlied, switchOffset, if_neg hlow, timestampHigherThan_iff, MovesForward]
    split_ifs with hbehind
    · -- the extra offset puts the packet 33 ms after the highest one sent
      have hsent : packet.timestamp - (tsOffset - (c.tsExtraOffset packet tsOffset).1) =
          packet.maxPacketTs + 33 * c.clockRate / 1000 := by
        rw [tsExtraOffset]
        grind
      have hmax := packet.maxPacketTs.toNat_lt
      have hstep := (33 * c.clockRate).toNat_lt
      rw [hsent, UInt32.toNat_add, UInt32.toNat_div, UInt32.le_iff_toNat_le, Lower]
      simp only [UInt32.reduceToNat]
      omega
    · have hahead := UInt32.not_le.mp hbehind
      have hlt := UInt32.lt_iff_toNat_lt.mp hahead
      rw [UInt32.lt_iff_toNat_lt, UInt32.toNat_sub_of_le _ _ (UInt32.le_of_lt hahead), Lower]
      simp only [UInt32.reduceToNat]
      omega
  | synchronises layer old current same sync
  | stays layer old current follows same continues => cases hswitching

/-- A key frame of the second layer, with the timestamp that was sent last. -/
theorem switch_timestamp_behind : ∃ c c' r, run step twoLayers untilPending = .ok c ∧
      c.route ⟨1001, true, true, 1, 1000, 1000⟩ = .ok (c', some r) ∧ r.switching ∧
      ∃ tsOffset, c.tsOffsetFor r.layer = .ok tsOffset ∧
        (¬c.GivesUp ⟨1001, true, true, 1, 1000, 1000⟩ tsOffset →
          (timestampHigherThan (1000 - c'.tsOffset) 1000 ↔
            c.MovesForward ⟨1001, true, true, 1, 1000, 1000⟩ tsOffset)) := by
  obtain ⟨c, hrun, hc⟩ := exists_ok_of_map (x := run step twoLayers untilPending)
    (f := fun c => (c.route ⟨1001, true, true, 1, 1000, 1000⟩).toOption.map Prod.snd)
    (b := some (some ⟨1, true, true, false⟩)) (by decide +kernel)
  obtain ⟨⟨c', r⟩, hroute, rfl⟩ := exists_ok_of_map hc
  exact ⟨c, c', _, hrun, hroute, rfl, switch_timestamp hroute rfl⟩

/-- The timestamps that are sent have just wrapped, and the key frame of the second layer
is from before.  No extra offset is applied, and it is sent behind the others. -/
theorem switch_wrapped_behind : ∃ c c' r,
    run step twoLayers untilPending = .ok c ∧ c.keyFrameForTsOffsetRequested = false ∧
      c.route ⟨1001, true, true, 1, 4294967040, 10⟩ = .ok (c', some r) ∧ r.switching ∧
      c'.tsOffset = 0 ∧ ¬timestampHigherThan (4294967040 - c'.tsOffset) 10 := by
  obtain ⟨c, hrun, hc⟩ := exists_ok_of_map (x := run step twoLayers untilPending)
    (f := fun c => (c.keyFrameForTsOffsetRequested,
      (c.route ⟨1001, true, true, 1, 4294967040, 10⟩).toOption.map
        fun result => (result.2, result.1.tsOffset)))
    (b := (false, some (some ⟨1, true, true, false⟩, 0))) (by decide +kernel)
  obtain ⟨hrequested, hc⟩ := Prod.mk.inj hc
  obtain ⟨⟨c', r⟩, hroute, hr⟩ := exists_ok_of_map hc
  obtain ⟨rfl, htsOffset⟩ := Prod.mk.inj hr
  refine ⟨c, c', _, hrun, hrequested, hroute, rfl, htsOffset, ?_⟩
  rw [htsOffset]
  decide

end SimulcastConsumer

/-! ### The offset over a run -/

open SimulcastConsumer

/-- The packet that set the offset, and the consumer that received it. -/
structure OffsetSetting where
  consumer : SimulcastConsumer
  packet : ConsumerPacket
  layer : ℕ

/-- A consumer and the last packet that set its offset. -/
structure OffsetConsumer where
  consumer : SimulcastConsumer
  setBy : Option OffsetSetting

namespace OffsetConsumer

variable {s s' : OffsetConsumer} {c : SimulcastConsumer} {packet : ConsumerPacket}

def receive (s : OffsetConsumer) (packet : ConsumerPacket) :
    Except ConsumerAbort (OffsetConsumer × Option Route) := do
  let (consumer, route) ← s.consumer.route packet
  return (⟨consumer, ((route.filter Route.synced).map fun route =>
    ⟨s.consumer, packet, route.layer⟩).or s.setBy⟩, route)

def step (s : OffsetConsumer) : Event → Except ConsumerAbort OffsetConsumer
  | .rtpPacket packet => do return (← s.receive packet).1
  | event => do return { s with consumer := ← s.consumer.step event }

theorem step_other (s : OffsetConsumer) {event : Event}
    (hevent : ∀ packet, event ≠ .rtpPacket packet) :
    s.step event = s.consumer.step event >>= fun c => .ok { s with consumer := c } := by
  cases event with
  | rtpPacket packet => exact absurd rfl (hevent packet)
  | _ => rfl

theorem step_consumer (s : OffsetConsumer) (event : Event) :
    (s.step event).map OffsetConsumer.consumer = s.consumer.step event := by
  by_cases hpacket : ∃ packet, event = .rtpPacket packet
  · obtain ⟨packet, rfl⟩ := hpacket
    rw [SimulcastConsumer.step, ← route_consumer, step, receive]
    cases s.consumer.route packet with
    | error reason | ok result => rfl
  · rw [step_other s fun packet heq => hpacket ⟨packet, heq⟩]
    cases s.consumer.step event with
    | error reason | ok c => rfl

/-- The offset was set by a packet of the layer when the layer was the target, from the
Sender Reports of that stream and of the reference. -/
def Owns (s : OffsetConsumer) (layer : ℕ) : Prop :=
  ∃ set ∈ s.setBy, set.layer = layer ∧ set.consumer.targetSpatialLayer = some layer ∧
    ∃ tsOffset, set.consumer.tsOffsetFor layer = .ok tsOffset ∧
      s.consumer.tsOffset = set.consumer.switchOffset set.packet tsOffset

structure Aligned (s : OffsetConsumer) : Prop where
  sync : s.consumer.syncRequired → s.consumer.currentSpatialLayer = none
  idle : s.consumer.isActive = false → s.consumer.currentSpatialLayer = none
  own : ∀ layer, s.consumer.currentSpatialLayer = some layer → s.Owns layer

theorem Aligned.follows (h : Aligned s) (hf : Follows s.consumer c) :
    Aligned { s with consumer := c } := by
  refine ⟨fun hsync => ?_, fun hidle => ?_, fun layer hlayer => ?_⟩
  · rcases hf.sync hsync with hsync | hidle | hgone
    · exact hf.none (h.sync hsync)
    · exact hf.none (h.idle hidle)
    · exact hgone
  · rcases hf.idle hidle with hidle | hgone
    · exact hf.none (h.idle hidle)
    · exact hgone
  · rcases hf.current with hsame | hgone
    · obtain ⟨set, hset, hown, htarget, tsOffset, hoffset, happlied⟩ := h.own layer (hsame ▸ hlayer)
      exact ⟨set, hset, hown, htarget, tsOffset, hoffset, hf.tsOffset.trans happlied⟩
    · rw [show c.currentSpatialLayer = none from hgone] at hlayer
      cases hlayer

theorem Aligned.receive (h : Aligned s) {r : Option Route}
    (hreceive : s.receive packet = .ok (s', r)) : Aligned s' ∧ ∀ route ∈ r,
      (route.synced → s.consumer.targetSpatialLayer = some route.layer) ∧ s'.Owns route.layer := by
  obtain ⟨⟨c, r⟩, hroute, hreceive⟩ := bind_eq_ok.mp hreceive
  cases hreceive
  cases route_cases hroute with
  | ignored follows current => exact ⟨h.follows follows, fun _ hroute => (by cases hroute)⟩
  | switches layer hswitches =>
    obtain ⟨tsOffset, htsOffset, happlied, -⟩ := hswitches.tsOffset
    have howns : OffsetConsumer.Owns ⟨c, some ⟨s.consumer, packet, layer⟩⟩ layer :=
      ⟨_, rfl, rfl, hswitches.target, tsOffset, htsOffset, happlied⟩
    refine ⟨⟨fun hsync => ?_, fun hidle => ?_, fun layer' hlayer => ?_⟩, ?_⟩
    · rw [show c.syncRequired = false from hswitches.sync] at hsync
      cases hsync
    · rw [show c.isActive = true from hswitches.active] at hidle
      cases hidle
    · rw [show c.currentSpatialLayer = some layer from hswitches.current] at hlayer
      cases hlayer
      exact howns
    · rintro route ⟨rfl⟩
      exact ⟨fun _ => hswitches.target, howns⟩
  | synchronises layer old current same sync =>
    -- a consumer with a layer is in sync
    rw [h.sync sync] at current
    cases current
  | stays layer old current follows same continues =>
    have haligned := h.follows follows
    refine ⟨haligned, ?_⟩
    rintro route ⟨rfl⟩
    exact ⟨fun hf => (by cases hf), haligned.own layer same⟩

theorem step_aligned (event : Event) (h : Aligned s)
    (hstep : s.step event = .ok s') : Aligned s' := by
  by_cases hpacket : ∃ packet, event = .rtpPacket packet
  · obtain ⟨packet, rfl⟩ := hpacket
    obtain ⟨⟨s₁, r⟩, hreceive, hstep⟩ := bind_eq_ok.mp hstep
    cases hstep
    exact (h.receive hreceive).1
  · have hevent : ∀ packet, event ≠ .rtpPacket packet := fun packet heq => hpacket ⟨packet, heq⟩
    have hleads := step_follows s.consumer event hevent
    rw [step_other s hevent] at hstep
    obtain ⟨c, hc, hstep⟩ := bind_eq_ok.mp hstep
    cases hstep
    rw [hc] at hleads
    exact h.follows hleads

/-- **Offsets belong to their stream.**  In every run of a new consumer, a packet that
sets the offset is of the target layer, and every packet that gets to the codec is of
the layer of the last packet that set it: its offset comes from the Sender Reports of
its own stream and of the reference stream. -/
theorem run_offsets (mappedSsrcs : List UInt32) (streams : ℕ → Option ProducerStream)
    (temporalLayers : ℕ) (clockRate : UInt32) (preferredLayers : Option (ℤ × Option ℤ))
    (paused producerPaused externallyManagedBitrate : Bool) {events : List Event}
    {r : Route} (hrun : run step ⟨.new mappedSsrcs streams temporalLayers clockRate
      preferredLayers paused producerPaused externallyManagedBitrate, none⟩ events = .ok s)
    (hreceive : s.receive packet = .ok (s', some r)) :
    (r.synced → s.consumer.targetSpatialLayer = some r.layer) ∧ s'.Owns r.layer := by
  have haligned : Aligned s := run_invariant (P := fun _ _ => True)
    (fun s e s' h _ => step_aligned e h) events _ s
    ⟨fun _ => rfl, fun _ => rfl, fun _ hf => (by cases hf)⟩
    (along_of_forall (fun _ _ => trivial) _ _) hrun
  exact (haligned.receive hreceive).2 r rfl

/-- The second layer is switched to. -/
theorem run_offsets_twoLayers : ∃ s s' r, run step ⟨twoLayers, none⟩ untilPending = .ok s ∧
    s.receive ⟨1001, true, true, 1, 1000, 1000⟩ = .ok (s', some r) ∧
    (r.synced → s.consumer.targetSpatialLayer = some r.layer) ∧ s'.Owns r.layer := by
  obtain ⟨s, hrun, hs⟩ := exists_ok_of_map (x := run step ⟨twoLayers, none⟩ untilPending)
    (f := fun s => (s.receive ⟨1001, true, true, 1, 1000, 1000⟩).toOption.map Prod.snd)
    (b := some (some ⟨1, true, true, false⟩)) (by decide +kernel)
  obtain ⟨⟨s', r⟩, hreceive, rfl⟩ := exists_ok_of_map hs
  exact ⟨s, s', _, hrun, hreceive, run_offsets _ _ _ _ _ _ _ _ hrun hreceive⟩

end OffsetConsumer

end Mediasoup
