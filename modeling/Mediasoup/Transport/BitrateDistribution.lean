/-
The distribution of the available bitrate of a transport
(`Transport::DistributeAvailableOutgoingBitrate`).

The consumers are served by descending priority, in rounds: in the first round each gets
one offer, later as many in a row as its priority says.  The counter of these offers is a
`uint8_t`, so with the priority 255 only a refused offer ends them.  The rounds end when
nothing is left or nobody used anything.

* `distributeAvailableOutgoingBitrate` — the distribution; the clock and the bitrates of
  the streams may be others at every offer;
* `Slot` — a consumer with the answers it gave;
* `Slot.Orderly` — what every offer keeps: no answer exceeds its offer, layers only move up,
  and a simple consumer uses bitrate once;
* `distribution_within_budget` — every distribution ends without an abort, with no more
  used than was available.
-/
import Mathlib.Algebra.GroupWithZero.Nat
import Mediasoup.Consumer.LayerOffers

open List Runs

namespace Mediasoup

namespace BitrateDistribution

/-- An answer of a consumer to an offer. -/
structure Answer where
  given : ℕ
  used : ℕ
  before : AnyConsumer
  after : AnyConsumer

/-- A consumer in the map of priorities, with its answers so far, the latest first. -/
structure Slot where
  priority : UInt8
  consumer : AnyConsumer
  answers : List Answer

inductive Abort where
  | consumer (reason : OfferAbort)
  /-- "Consumer used more layer bitrate than given" -/
  | usedMore
  /-- the loop goes on -/
  | outOfFuel

/-- What is left, and the number of offers made. -/
structure Budget where
  available : ℕ
  offers : ℕ

/-! ### The map of priorities -/

/-- `multimap::emplace`: behind the entries with the same priority. -/
def emplace (slot : Slot) : List Slot → List Slot
  | [] => [slot]
  | head :: rest =>
    if slot.priority < head.priority then slot :: head :: rest else head :: emplace slot rest

/-- The consumers that want bitrate. -/
def fill : List (UInt8 × AnyConsumer) → List Slot → Except Abort (List Slot)
  | [], slots => .ok slots
  | (priority, consumer) :: rest, slots => do
    let priority ← (consumer.getBitratePriority priority).mapError Abort.consumer
    fill rest (if 0 < priority then emplace ⟨priority, consumer, []⟩ slots else slots)

/-! ### Offers -/

section Loops

variable (env : ℕ → Reading) (considerLoss : Bool)

/-- Offer what is left to a consumer. -/
def offer (budget : Budget) (slot : Slot) : Except Abort (ℕ × Budget × Slot) := do
  let (used, consumer) ← (slot.consumer.increaseLayer (env budget.offers) considerLoss
    budget.available).mapError Abort.consumer
  if budget.available < used then .error .usedMore
  else return (used, ⟨budget.available - used, budget.offers + 1⟩,
    { slot with
      consumer := consumer
      answers := ⟨budget.available, used, slot.consumer, consumer⟩ :: slot.answers })

/-- The offers to one consumer, from the counter `i` on. -/
def offerLoop (limit : UInt8) : ℕ → UInt8 → Budget → Slot → Except Abort (Budget × Slot)
  | 0, _, _, _ => .error .outOfFuel
  | fuel + 1, i, budget, slot =>
    if i ≤ limit then do
      let (used, budget, slot) ← offer env considerLoss budget slot
      if used = 0 then return (budget, slot)
      else offerLoop limit fuel (i + 1) budget slot
    else .ok (budget, slot)

def round (fuel : ℕ) (baseAllocation : Bool) :
    List Slot → Budget → Except Abort (Budget × List Slot)
  | [], budget => .ok (budget, [])
  | slot :: rest, budget => do
    let (budget, slot) ←
      offerLoop env considerLoss (if baseAllocation then 1 else slot.priority) fuel 1 budget slot
    let (budget, rest) ← round fuel baseAllocation rest budget
    return (budget, slot :: rest)

def rounds (inner : ℕ) : ℕ → Bool → Budget → List Slot → Except Abort (Budget × List Slot)
  | 0, _, _, _ => .error .outOfFuel
  | fuel + 1, baseAllocation, budget, slots =>
    if 0 < budget.available then do
      let (budget', slots) ← round env considerLoss inner baseAllocation slots budget
      if budget'.available = budget.available then return (budget', slots)
      else rounds inner fuel false budget' slots
    else .ok (budget, slots)

end Loops

def applyAll (m : Measurements) : List Slot → Except Abort (List AnyConsumer)
  | [] => .ok []
  | slot :: rest => do
    let consumer ← (slot.consumer.applyLayers m).mapError Abort.consumer
    let rest ← applyAll m rest
    return consumer :: rest

/-- What a distribution leaves: the answers, and the consumers with their new layers. -/
structure Result where
  left : ℕ
  slots : List Slot
  consumers : List AnyConsumer

/-- `DistributeAvailableOutgoingBitrate`, with the clock and bitrates of each offer and of
the end. -/
def distributeAvailableOutgoingBitrate (env : ℕ → Reading) (m : Measurements)
    (considerLoss : Bool) (fuel : ℕ) (consumers : List (UInt8 × AnyConsumer))
    (availableBitrate : ℕ) : Except Abort Result := do
  let slots ← fill consumers []
  if slots.isEmpty then return ⟨availableBitrate, [], []⟩
  else do
    -- the map is walked through from its end
    let (budget, slots) ← rounds env considerLoss fuel fuel true ⟨availableBitrate, 0⟩ slots.reverse
    let consumers ← applyAll m slots
    return ⟨budget.available, slots, consumers⟩

/-! ### What the offers keep -/

def Slot.usedTotal (slot : Slot) : ℕ := (slot.answers.map Answer.used).sum

def usedTotal (slots : List Slot) : ℕ := (slots.map Slot.usedTotal).sum

def Slot.nonZero (slot : Slot) : List Answer := slot.answers.filter fun a => a.used ≠ 0

/-- No more than the offer was used, and for it the layers have moved up. -/
structure Answer.Fair (a : Answer) : Prop where
  used_le : a.used ≤ a.given
  climbs : a.used ≠ 0 → a.before.isSimple = false →
    toLex a.before.provisionalLayers < toLex a.after.provisionalLayers

structure Slot.Orderly (slot : Slot) : Prop where
  managed : slot.consumer.Managed
  participates : slot.consumer.participates
  fair : ∀ a ∈ slot.answers, a.Fair
  once : slot.consumer.isSimple → slot.nonZero.length ≤ 1
  unspent : slot.consumer.isSimple → slot.consumer.spent = false → slot.nonZero = []

variable {considerLoss : Bool} {env : ℕ → Reading} {slot : Slot} {slots : List Slot}

/-- **One offer.** -/
theorem offer_meets {budget : Budget} (h : slot.Orderly) :
    Meets (fun _ => True) (fun r => r.2.2.Orderly ∧ r.2.1.available + r.1 = budget.available ∧
      r.2.1.available + r.2.2.usedTotal = budget.available + slot.usedTotal)
      (offer env considerLoss budget slot) := by
  refine (Meets.mapError (AnyConsumer.increaseLayer_meets h.managed h.participates
    (env budget.offers) considerLoss budget.available)).bind fun answer hanswer => ?_
  obtain ⟨used, consumer⟩ := answer
  have hle : used ≤ budget.available := hanswer.used_le
  show Meets _ _ (if budget.available < used then _ else _)
  rw [if_neg (Nat.not_lt.mpr hle)]
  have hsimple : consumer.isSimple = slot.consumer.isSimple := hanswer.simple
  refine ⟨⟨hanswer.managed, hanswer.participates, ?_, fun hs => ?_, fun hs hfresh => ?_⟩, ?_, ?_⟩
  · exact forall_mem_cons.mpr ⟨⟨hle, hanswer.climbs⟩, h.fair⟩
  · -- bitrate is only used by a simple consumer that has not used any before
    have hs : slot.consumer.isSimple = true := hsimple ▸ hs
    by_cases hused : used = 0
    · simpa [Slot.nonZero, hused] using h.once hs
    have hbefore := h.unspent hs (hanswer.spent hs hused).1
    show (List.filter _ (_ :: slot.answers)).length ≤ 1
    rw [filter_cons_of_pos (by simpa using hused)]
    exact (congrArg (fun l => List.length l + 1) hbefore).le
  · have hs : slot.consumer.isSimple = true := hsimple ▸ hs
    have hbefore : slot.consumer.spent = false := by
      by_contra hspent
      exact absurd (hanswer.once (by simpa using hspent)) (by simp [hfresh])
    have hused : used = 0 := by
      by_contra hused
      exact absurd (hanswer.spent hs hused).2 (by simp [hfresh])
    simpa [Slot.nonZero, hused] using h.unspent hs hbefore
  · exact Nat.sub_add_cancel hle
  · show budget.available - used + (used + slot.usedTotal) = _
    omega

/-- What a loop over offers leaves of a budget and of the consumers it served. -/
structure Spends (budget : Budget) (total : ℕ) (budget' : Budget) (total' : ℕ) : Prop where
  available_le : budget'.available ≤ budget.available
  total_eq : budget'.available + total' = budget.available + total

theorem offerLoop_meets (limit : UInt8) :
    ∀ (fuel : ℕ) (i : UInt8) (budget : Budget) (slot : Slot), slot.Orderly →
      budget.available < fuel → Meets (fun _ => True)
        (fun r => r.2.Orderly ∧ Spends budget slot.usedTotal r.1 r.2.usedTotal)
        (offerLoop env considerLoss limit fuel i budget slot) := by
  intro fuel
  induction fuel with
  | zero =>
    intro i budget slot _ hfuel
    exact absurd hfuel (Nat.not_lt_zero _)
  | succ fuel ih =>
    intro i budget slot h hfuel
    unfold offerLoop
    split
    · refine (offer_meets h).bind fun r hr => ?_
      obtain ⟨used, budget', slot'⟩ := r
      obtain ⟨horderly, hused, htotal⟩ := hr
      simp only at horderly hused htotal ⊢
      split
      · exact ⟨horderly, by simp only; omega, htotal⟩
      · refine (ih (i + 1) budget' slot' horderly (by omega)).mono fun r hr => ?_
        obtain ⟨horderly', hle, htotal'⟩ := hr
        exact ⟨horderly', by omega, by omega⟩
    · exact ⟨h, le_rfl, rfl⟩

theorem usedTotal_cons : usedTotal (slot :: slots) = slot.usedTotal + usedTotal slots := rfl

theorem round_meets (fuel : ℕ) (baseAllocation : Bool) :
    ∀ (slots : List Slot) (budget : Budget), (∀ slot ∈ slots, slot.Orderly) →
      budget.available < fuel → Meets (fun _ => True) (fun r => (∀ slot ∈ r.2, slot.Orderly) ∧
        Spends budget (usedTotal slots) r.1 (usedTotal r.2))
        (round env considerLoss fuel baseAllocation slots budget) := by
  intro slots
  induction slots with
  | nil =>
    intro budget h _
    exact ⟨h, le_rfl, rfl⟩
  | cons slot rest ih =>
    intro budget h hfuel
    refine (offerLoop_meets _ fuel 1 budget slot (h slot mem_cons_self)
      hfuel).bind fun r hr => ?_
    obtain ⟨budget₁, slot'⟩ := r
    obtain ⟨horderly, hle, htotal⟩ := hr
    simp only at horderly hle htotal
    refine (ih budget₁ (fun s hs => h s (mem_cons_of_mem slot hs)) (by omega)).bind
      fun r hr => ?_
    obtain ⟨budget₂, rest'⟩ := r
    obtain ⟨hrest, hle', htotal'⟩ := hr
    simp only at hrest hle' htotal'
    refine ⟨fun s hs => ?_, hle'.trans hle, ?_⟩
    · rcases mem_cons.mp hs with rfl | hs
      · exact horderly
      · exact hrest s hs
    · show budget₂.available + usedTotal (slot' :: rest') = _
      rw [usedTotal_cons, usedTotal_cons]
      omega

theorem rounds_meets (inner : ℕ) :
    ∀ (fuel : ℕ) (baseAllocation : Bool) (budget : Budget) (slots : List Slot),
      (∀ slot ∈ slots, slot.Orderly) → budget.available < inner → budget.available < fuel →
      Meets (fun _ => True) (fun r => (∀ slot ∈ r.2, slot.Orderly) ∧
        Spends budget (usedTotal slots) r.1 (usedTotal r.2))
        (rounds env considerLoss inner fuel baseAllocation budget slots) := by
  intro fuel
  induction fuel with
  | zero =>
    intro baseAllocation budget slots _ _ hfuel
    exact absurd hfuel (Nat.not_lt_zero _)
  | succ fuel ih =>
    intro baseAllocation budget slots h hinner hfuel
    unfold rounds
    split
    · refine (round_meets inner baseAllocation slots budget h hinner).bind
        fun r hr => ?_
      obtain ⟨budget', slots'⟩ := r
      obtain ⟨horderly, hle, htotal⟩ := hr
      simp only at horderly hle htotal ⊢
      split
      · exact ⟨horderly, hle, htotal⟩
      · -- a round that goes on has spent something, so the fuel suffices
        refine (ih false budget' slots' horderly (by omega) (by omega)).mono fun r hr => ?_
        obtain ⟨horderly', hle', htotal'⟩ := hr
        exact ⟨horderly', hle'.trans hle, htotal'.trans htotal⟩
    · exact ⟨h, le_rfl, rfl⟩

/-! ### The whole distribution -/

theorem mem_emplace {s : Slot} (h : s ∈ emplace slot slots) : s = slot ∨ s ∈ slots := by
  induction slots with
  | nil => exact .inl (mem_singleton.mp h)
  | cons head rest ih =>
    unfold emplace at h
    split at h
    · exact mem_cons.mp h
    · rcases mem_cons.mp h with rfl | h
      · exact .inr mem_cons_self
      · exact (ih h).imp id (mem_cons_of_mem head)

theorem fill_meets : ∀ (consumers : List (UInt8 × AnyConsumer)) (slots : List Slot),
    (∀ c ∈ consumers, c.2.Managed) → (∀ slot ∈ slots, slot.Orderly ∧ slot.answers = []) →
    Meets (fun _ => True) (fun slots' => ∀ slot ∈ slots', slot.Orderly ∧ slot.answers = [])
      (fill consumers slots) := by
  intro consumers
  induction consumers with
  | nil => exact fun slots _ h => h
  | cons entry rest ih =>
    obtain ⟨priority, consumer⟩ := entry
    intro slots hmanaged h
    have hconsumer : consumer.Managed := hmanaged _ mem_cons_self
    have hrest := fun c hc => hmanaged c (mem_cons_of_mem (priority, consumer) hc)
    show Meets _ _ ((consumer.getBitratePriority priority).mapError Abort.consumer >>= _)
    rw [AnyConsumer.getBitratePriority, assert_of hconsumer.externally]
    refine ih _ hrest ?_
    by_cases hp : consumer.participates = true
    · rw [if_pos hp]
      split
      · intro slot hslot
        rcases mem_emplace hslot with rfl | hslot
        · refine ⟨⟨hconsumer, hp, ?_, fun _ => Nat.zero_le 1, fun _ _ => rfl⟩, rfl⟩
          rintro a ⟨⟩
        · exact h slot hslot
      · exact h
    · -- a consumer that does not take part has the priority zero
      rw [if_neg hp, if_neg (by decide)]
      exact h

theorem applyAll_meets (m : Measurements) : ∀ slots : List Slot, (∀ slot ∈ slots, slot.Orderly) →
    Meets (fun _ => True) (fun consumers => ∀ c ∈ consumers, c.Rested) (applyAll m slots) := by
  intro slots
  induction slots with
  | nil =>
    rintro - c ⟨⟩
  | cons slot rest ih =>
    intro h
    have hslot := h slot mem_cons_self
    refine (Meets.mapError (AnyConsumer.applyLayers_meets hslot.managed hslot.participates m)).bind
      fun consumer hconsumer => ?_
    refine (ih fun s hs => h s (mem_cons_of_mem slot hs)).bind fun consumers hrest => ?_
    exact forall_mem_cons.mpr ⟨hconsumer, hrest⟩

theorem usedTotal_eq_zero (h : ∀ slot ∈ slots, slot.answers = []) : usedTotal slots = 0 := by
  induction slots with
  | nil => rfl
  | cons slot rest ih =>
    rw [usedTotal_cons, Slot.usedTotal, h slot mem_cons_self,
      ih fun s hs => h s (mem_cons_of_mem slot hs)]
    rfl

/-- **The distribution** ends without an abort, for any consumers, priorities, bitrates and
clocks.  The consumers use no more than is available and no more than is offered to them;
with each bitrate that a simulcast or SVC consumer uses its provisional layers move up, a
simple consumer uses bitrate at most once, and afterwards all are ready for the next one. -/
theorem distribution_within_budget (env : ℕ → Reading) (m : Measurements) (considerLoss : Bool)
    (consumers : List (UInt8 × AnyConsumer)) (hmanaged : ∀ c ∈ consumers, c.2.Managed)
    (availableBitrate fuel : ℕ) (hfuel : availableBitrate < fuel) :
    ∃ result, distributeAvailableOutgoingBitrate env m considerLoss fuel consumers
        availableBitrate = .ok result ∧ usedTotal result.slots + result.left = availableBitrate ∧
      (∀ slot ∈ result.slots, (∀ a ∈ slot.answers, a.used ≤ a.given ∧
        (a.used ≠ 0 → a.before.isSimple = false →
          toLex a.before.provisionalLayers < toLex a.after.provisionalLayers)) ∧
        (slot.consumer.isSimple → slot.nonZero.length ≤ 1)) ∧ ∀ c ∈ result.consumers, c.Rested := by
  refine Meets.exists_ok ?_
  refine (fill_meets consumers [] hmanaged (by rintro slot ⟨⟩)).bind fun slots hslots => ?_
  split
  · refine ⟨Nat.zero_add _, ?_, ?_⟩
    · rintro slot ⟨⟩
    · rintro c ⟨⟩
  have hreverse : ∀ slot ∈ slots.reverse, slot.Orderly ∧ slot.answers = [] :=
    fun slot h => hslots slot (mem_reverse.mp h)
  refine (rounds_meets fuel fuel true ⟨availableBitrate, 0⟩ slots.reverse
    (fun slot h => (hreverse slot h).1) hfuel hfuel).bind fun r hr => ?_
  obtain ⟨budget, slots'⟩ := r
  obtain ⟨horderly, -, htotal⟩ := hr
  refine (applyAll_meets m slots' horderly).bind fun consumers' hrested => ?_
  rw [usedTotal_eq_zero fun slot h => (hreverse slot h).2] at htotal
  refine ⟨(Nat.add_comm _ _).trans htotal, fun slot hslot => ?_, hrested⟩
  refine ⟨fun a ha => ?_, (horderly slot hslot).once⟩
  exact ⟨((horderly slot hslot).fair a ha).used_le, ((horderly slot hslot).fair a ha).climbs⟩

/-- A simple consumer, an SVC consumer with two temporal layers and a simulcast consumer with
two streams. -/
private def sampleConsumers : List (UInt8 × AnyConsumer) :=
  [(1, .simple ⟨true, true, false, false, true, some ⟨10, true, 1, 0, 0⟩, false⟩),
    (255, .svc ⟨true, false, false, true, some ⟨10, true, 1, 2⟩, 0, 1, -1, -1, -1, -1, -1, -1,
      false, 0⟩),
    (7, .simulcast { SimulcastConsumer.new [5, 6] (fun _ => some ⟨10, true, 1, 0, 0⟩) 1 90000
      none false false true with transportConnected := true })]

private def sampleReading : Reading where
  nowMs := 20000
  activeMs := fun _ => 5000
  layerBitrate := fun layer temporalLayer => 100 * (layer + 1) + 10 * temporalLayer
  bitrate := fun layer _ => 100 * (layer + 1)
  ownActiveMs := 5000
  offers := []
  streamBitrate := 150
  lossAdjusted := fun bitrate => bitrate * 108 / 100

theorem sampleConsumers_managed : ∀ c ∈ sampleConsumers, c.2.Managed := by
  intro c hc
  simp only [sampleConsumers, mem_cons, not_mem_nil, or_false] at hc
  rcases hc with rfl | rfl | rfl
  · exact ⟨rfl, by rintro s ⟨⟩⟩
  · exact ⟨rfl, by rintro s ⟨⟩⟩
  refine ⟨rfl, ?_⟩
  rintro s ⟨⟩
  refine ⟨?_, ?_⟩
  · rintro layer ⟨⟩
  · rintro layer ⟨⟩

theorem distribution_sample : (∀ c ∈ sampleConsumers, c.2.Managed) ∧
    ∃ result, distributeAvailableOutgoingBitrate (fun _ => sampleReading)
        sampleReading.toMeasurements true 1001 sampleConsumers 1000 = .ok result ∧
      usedTotal result.slots + result.left = 1000 ∧
      (∀ slot ∈ result.slots, (∀ a ∈ slot.answers, a.used ≤ a.given ∧
        (a.used ≠ 0 → a.before.isSimple = false →
          toLex a.before.provisionalLayers < toLex a.after.provisionalLayers)) ∧
        (slot.consumer.isSimple → slot.nonZero.length ≤ 1)) ∧ ∀ c ∈ result.consumers, c.Rested :=
  ⟨sampleConsumers_managed, distribution_within_budget (fun _ => sampleReading)
    sampleReading.toMeasurements true sampleConsumers sampleConsumers_managed 1000 1001 (by decide)⟩

end BitrateDistribution

end Mediasoup
