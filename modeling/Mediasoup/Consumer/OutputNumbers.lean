/-
The sequence numbers that a simulcast consumer sends.

The packets of the current layer are numbered by a `SeqManager`, which is synchronised
with each key frame that switches the layer.  The answers of the codec and the value of
the uninitialised variable for the number are part of the events.

* `NumberedConsumer.step` — one event of the consumer with its numbers, and the history
  of the packets that were sent;
* `NumberedConsumer.Regular` — a packet between two switches is not from before the
  first one, and does not pass the codec after it was dropped;
* `run_outputs_distinct` — over a run of such events different packets have different
  numbers, and all numbers come from the manager.
-/
import Mediasoup.Consumer.PacketRoute
import Mediasoup.Consumer.SenderReports
import Mediasoup.Rtp.RtpStream
import Mediasoup.Rtp.SeqEpochs

open List Runs Circular

namespace Mediasoup

open SimulcastConsumer

/-! ### The numbers -/

/-- The codec's answer for a packet, its marker, what is in the variable for the output
number before `Input`, and the time. -/
structure Answers where
  passes : Bool
  marker : Bool
  uninitialised : UInt16
  nowMs : UInt64 := 0

structure SentPacket where
  layer : ℕ
  sequenceNumber : UInt16
  output : UInt16
  /-- `Input` returned `true`. -/
  accepted : Bool
  /-- How far the highest output has come in all. -/
  travelled : ℕ
  deriving DecidableEq

/-- A consumer with its numbers; the last four fields are history. -/
structure NumberedConsumer where
  consumer : SimulcastConsumer
  rtpSeqManager : SeqManager
  lastSentPacketHasMarker : Bool
  rtpStream : RtpStream
  /-- The latest comes first. -/
  sent : List SentPacket
  travelled : ℕ
  /-- The highest number seen, counted from the number of the last `Sync`. -/
  highest : ℕ
  /-- The highest number sent, counted in the same way. -/
  top : ℕ

namespace NumberedConsumer

def new (consumer : SimulcastConsumer) : NumberedConsumer :=
  ⟨consumer, .new, false, {}, [], 0, 0, 0⟩

variable (s : NumberedConsumer)

/-- A number counted from the number of the last `Sync`; those before it are at zero. -/
def position (seq : UInt16) : ℕ :=
  if gap 32768 s.rtpSeqManager.maxInput seq.toNat < 32768 then
    s.highest + gap 32768 s.rtpSeqManager.maxInput seq.toNat
  else s.highest - gap 32768 seq.toNat s.rtpSeqManager.maxInput

def sync (seq : UInt16) : NumberedConsumer :=
  { s with
    rtpSeqManager :=
      s.rtpSeqManager.sync .uint16 (seq - if s.lastSentPacketHasMarker then 1 else 2).toNat
    highest := 0
    top := 0 }

def drop (seq : UInt16) : NumberedConsumer :=
  { s with
    rtpSeqManager := s.rtpSeqManager.drop .uint16 seq.toNat
    highest := max s.highest (s.position seq) }

def send (packet : ConsumerPacket) (answers : Answers) (layer : ℕ) : NumberedConsumer :=
  let seq := packet.sequenceNumber
  let (manager, result) := s.rtpSeqManager.input .uint16 seq.toNat
  let output := (result.map UInt16.ofNat).getD answers.uninitialised
  let travelled := s.travelled + gap 32768 s.rtpSeqManager.maxOutput manager.maxOutput
  let (stream, valid) := s.rtpStream.receiveStreamPacket
    ⟨output, packet.timestamp - s.consumer.tsOffset, answers.nowMs⟩
  { s with
    rtpSeqManager := manager
    lastSentPacketHasMarker :=
      if valid && manager.maxOutput == output.toNat then answers.marker
      else s.lastSentPacketHasMarker
    rtpStream := stream
    sent :=
      if valid then ⟨layer, seq, output, result.isSome, travelled⟩ :: s.sent else s.sent
    travelled := travelled
    highest := max s.highest (s.position seq)
    top := max s.top (s.position seq) }

/-- `SendRtpPacket` from the codec on. -/
def handle (packet : ConsumerPacket) (answers : Answers) (route : SimulcastConsumer.Route) :
    NumberedConsumer :=
  let s := if route.synced then s.sync packet.sequenceNumber else s
  if route.old then s
  else if !route.switching && !answers.passes then s.drop packet.sequenceNumber
  else s.send packet answers route.layer

/-- The packet with what the consumer knows of its stream. -/
def received (packet : ConsumerPacket) : ConsumerPacket :=
  { packet with maxPacketTs := s.rtpStream.maxPacketTs }

def step (event : SimulcastConsumer.Event × Answers) : Except ConsumerAbort NumberedConsumer :=
  match event.1 with
  | .rtpPacket packet => do
    let (consumer, route) ← s.consumer.route (s.received packet)
    let s' := { s with consumer := consumer }
    return match route with
      | none => s'
      | some route => s'.handle packet event.2 route
  | other => do
    let consumer ← s.consumer.step other
    return { s with consumer := consumer }

theorem step_other {event : SimulcastConsumer.Event} (answers : Answers)
    (hevent : ∀ packet, event ≠ .rtpPacket packet) : s.step (event, answers) =
      s.consumer.step event >>= fun c => .ok { s with consumer := c } := by
  cases event with
  | rtpPacket packet => exact absurd rfl (hevent packet)
  | _ => rfl

theorem handle_consumer (packet : ConsumerPacket) (answers : Answers)
    (route : SimulcastConsumer.Route) : (s.handle packet answers route).consumer = s.consumer := by
  rw [handle]
  split_ifs
  all_goals rfl

theorem step_consumer (event : SimulcastConsumer.Event)
    (answers : Answers) : (s.step (event, answers)).map NumberedConsumer.consumer =
      match event with
      | .rtpPacket packet => s.consumer.sendRtpPacket (s.received packet)
      | event => s.consumer.step event := by
  split
  · rename_i packet
    rw [← route_consumer]
    show (s.consumer.route (s.received packet) >>= _).map _ = _
    cases s.consumer.route (s.received packet) with
    | error reason => rfl
    | ok result =>
      obtain ⟨c, route⟩ := result
      cases route with
      | none => rfl
      | some route => exact congrArg Except.ok (handle_consumer { s with consumer := c } _ _ _)
  · rename_i hevent
    rw [step_other s answers hevent]
    cases s.consumer.step event with
    | error reason | ok c => rfl

/-! ### Regular packets -/

/-- The number is above that of the last `Sync`, and less than half a circle away from
the highest number sent and the highest one seen.  A packet that the codec lets pass was
not dropped before, and one that it drops is after those that are recorded. -/
structure InPlace (seq : UInt16) (passes : Bool) : Prop where
  pos : 0 < s.position seq
  ahead : s.position seq < s.top + 32768
  behind : s.highest < s.position seq + 32768
  passed : passes → seq.toNat ∉ s.rtpSeqManager.dropped
  dropped : passes = false → s.highest < s.position seq →
    ∀ last ∈ s.rtpSeqManager.dropped.getLast?,
      SeqWidth.uint16.isSeqLowerThan last seq.toNat

instance (s : NumberedConsumer) (seq : UInt16) (passes : Bool) : Decidable (s.InPlace seq passes) :=
  decidable_of_iff (0 < s.position seq ∧ s.position seq < s.top + 32768 ∧
      s.highest < s.position seq + 32768 ∧
      (passes → seq.toNat ∉ s.rtpSeqManager.dropped) ∧
      (passes = false → s.highest < s.position seq →
        ∀ last ∈ s.rtpSeqManager.dropped.getLast?,
          SeqWidth.uint16.isSeqLowerThan last seq.toNat))
    ⟨fun ⟨h₁, h₂, h₃, h₄, h₅⟩ => ⟨h₁, h₂, h₃, h₄, h₅⟩,
      fun h => ⟨h.pos, h.ahead, h.behind, h.passed, h.dropped⟩⟩

/-- A packet that goes on with no synchronisation is in place. -/
def Regular (event : SimulcastConsumer.Event × Answers) : Prop :=
  match event.1 with
  | .rtpPacket packet =>
    s.consumer.Continues packet → s.InPlace packet.sequenceNumber event.2.passes
  | _ => True

instance (s : NumberedConsumer) (event : SimulcastConsumer.Event × Answers) :
    Decidable (s.Regular event) := by
  unfold Regular
  split <;> infer_instance

end NumberedConsumer

/-! ### The invariant -/

namespace SentPacket

/-- The output, counted on without a wrap. -/
def position (e : SentPacket) : ℕ :=
  e.travelled - gap 32768 e.output.toNat (e.travelled % 65536)

theorem position_eq {e : SentPacket} {n : ℕ} (hout : e.output.toNat = n % 65536)
    (hle : n ≤ e.travelled) (hlt : e.travelled < n + 65536) : e.position = n := by
  have hgap : gap 32768 (n % 65536) (e.travelled % 65536) = e.travelled - n :=
    @gap_mod 32768 n e.travelled hle hlt
  rw [position, hout, hgap]
  omega

/-- Two packets of different sources: another layer or another number. -/
def Differs (e e' : SentPacket) : Prop :=
  e.layer ≠ e'.layer ∨ e.sequenceNumber ≠ e'.sequenceNumber

end SentPacket

namespace NumberedConsumer

open SeqManager

variable {s : NumberedConsumer} {layer x start : ℕ} {R : List ℕ}

/-- The packet was sent in the epoch after `Sync(x)`, in which the outputs are above
`start`. -/
def SentIn (layer x start top : ℕ) (R : List ℕ) (e : SentPacket) : Prop :=
  ∃ j, 0 < j ∧ j ≤ top ∧ j ∉ R ∧ e.layer = layer ∧
    e.sequenceNumber.toNat = SeqWidth.uint16.num x j ∧ e.position = start + advance R j

/-- The numbers in the epoch after `Sync(x)`, in which packets of a layer are sent. -/
structure Epoch (s : NumberedConsumer) (layer x start : ℕ) (R : List ℕ) : Prop where
  numbers : Numbers .uint16 x start s.highest s.top R s.rtpSeqManager
  travelled : s.travelled = start + advance R s.top
  entries : ∀ e ∈ s.sent, e.position ≤ start ∨ SentIn layer x start s.top R e
  numbered : ∀ e ∈ s.sent, e.accepted ∧ e.output.toNat = e.position % 65536 ∧
    e.position ≤ e.travelled ∧ e.travelled < e.position + 32768
  distinct : ∀ e ∈ s.sent, ∀ e' ∈ s.sent, e.Differs e' → e.position ≠ e'.position

theorem Epoch.num_position (h : Epoch s layer x start R) {seq : UInt16}
    (hpos : 0 < s.position seq) : SeqWidth.uint16.num x (s.position seq) = seq.toNat := by
  have hmax : s.rtpSeqManager.maxInput = (x + s.highest) % 65536 := h.numbers.maxInput
  have hseq := seq.toNat_lt
  have hlt : s.rtpSeqManager.maxInput < 65536 := by
    rw [hmax]
    exact Nat.mod_lt _ (by omega)
  show (x + s.position seq) % 65536 = seq.toNat
  unfold position gap at *
  split_ifs at * <;> omega

theorem Epoch.maxOutput (h : Epoch s layer x start R) :
    s.rtpSeqManager.maxOutput = s.travelled % 65536 := by
  rw [h.numbers.maxOutput, h.travelled]
  rfl

variable {e : SentPacket} {seq : UInt16} {packet : ConsumerPacket}

theorem Epoch.position_le (h : Epoch s layer x start R) (he : e ∈ s.sent) :
    e.position ≤ s.travelled := by
  rw [h.travelled]
  rcases h.entries e he with hle | ⟨j, -, hj, -, -, -, hpos⟩
  · omega
  · have := (advance_le_advance h.numbers.sorted hj).1
    omega

theorem Epoch.sync (h : Epoch s layer x start R) (seq : UInt16) (layer' : ℕ) :
    Epoch (s.sync seq) layer' (seq - if s.lastSentPacketHasMarker then 1 else 2).toNat
      s.travelled [] where
  numbers := numbers_sync (Nat.le_of_lt_succ (UInt16.toNat_lt _)) h.maxOutput
  travelled := rfl
  entries := fun _ he => .inl (h.position_le he)
  numbered := h.numbered
  distinct := h.distinct

theorem inPlace_sync (passes : Bool) : (s.sync seq).InPlace seq passes := by
  have hposition : (s.sync seq).position seq =
      if s.lastSentPacketHasMarker then 1 else 2 := by
    -- the new reference is one or two numbers before `seq`
    have hgap : gap 32768 (seq - if s.lastSentPacketHasMarker then 1 else 2).toNat seq.toNat =
        if s.lastSentPacketHasMarker then 1 else 2 := by
      rw [← toNat_sub_uint16]
      split_ifs
      · rw [show seq - (seq - 1) = 1 by grind]
        rfl
      · rw [show seq - (seq - 2) = 2 by grind]
        rfl
    show (if gap 32768 (seq - if s.lastSentPacketHasMarker then 1 else 2).toNat seq.toNat < 32768
      then 0 + _ else _) = _
    rw [hgap, if_pos (by split_ifs <;> decide), Nat.zero_add]
    exact hgap
  have hlow : 0 < (s.sync seq).position seq ∧ (s.sync seq).position seq < 32768 := by
    rw [hposition]
    split_ifs <;> decide
  refine ⟨hlow.1, ?_, ?_, fun _ => not_mem_nil, fun _ _ last hlast => (by cases hlast)⟩
  · show _ < 0 + 32768
    omega
  · show 0 < _
    omega

theorem SentIn.extend {top top' : ℕ} {E : List ℕ}
    (h : SentIn layer x start top R e) (htop : top ≤ top') (hE : ∀ p ∈ E, top < p) :
    SentIn layer x start top' (R ++ E) e := by
  obtain ⟨j, hpos, hj, hmem, hlayer, hseq, hposition⟩ := h
  refine ⟨j, hpos, by omega, ?_, hlayer, hseq, ?_⟩
  · rw [mem_append]
    rintro (hR | hmemE)
    · exact hmem hR
    · have := hE j hmemE
      omega
  · rw [hposition, advance_append]
    intro p hp
    have := hE p hp
    omega

theorem Epoch.drop (h : Epoch s layer x start R)
    (hstarted : s.rtpSeqManager.started) (hplace : s.InPlace seq false) :
    ∃ R', Epoch (s.drop seq) layer x start R' := by
  have hnum := h.num_position hplace.pos
  have hdrop := h.numbers.drop hstarted hplace.pos hplace.ahead hplace.behind
    (by rw [hnum]; exact hplace.dropped rfl)
  rw [hnum] at hdrop
  -- the manager ignores a drop behind the highest input and records one ahead of it
  rcases hdrop with ⟨hsame, hle⟩ | ⟨hlt, hd⟩
  · refine ⟨R, ?_, h.travelled, h.entries, h.numbered, h.distinct⟩
    show Numbers .uint16 x start (max s.highest (s.position seq)) s.top R
      (s.rtpSeqManager.drop .uint16 seq.toNat)
    rw [hsame, Nat.max_eq_left hle]
    exact h.numbers
  · have htop := h.numbers.top_le
    have hE : ∀ p ∈ [s.position seq], s.top < p := by
      intro p hp
      rw [mem_singleton.mp hp]
      omega
    refine ⟨R ++ [s.position seq], ?_, ?_, ?_, h.numbered, h.distinct⟩
    · show Numbers .uint16 x start (max s.highest (s.position seq)) s.top
        (R ++ [s.position seq]) (s.rtpSeqManager.drop .uint16 seq.toNat)
      rwa [Nat.max_eq_right hlt.le]
    · rw [show (s.drop seq).travelled = s.travelled from rfl, h.travelled]
      rw [show (s.drop seq).top = s.top from rfl, advance_append]
      exact fun p hp => (hE p hp).le
    · intro e he
      exact (h.entries e he).imp_right fun hin => hin.extend (le_refl _) hE

structure Sends (s : NumberedConsumer) (e : SentPacket) (manager : SeqManager)
    (s' : NumberedConsumer) : Prop where
  rtpSeqManager : s'.rtpSeqManager = manager
  travelled : s'.travelled = e.travelled
  highest : s'.highest = max s.highest (s.position e.sequenceNumber)
  top : s'.top = max s.top (s.position e.sequenceNumber)
  -- the sending stream may refuse it
  sent : s'.sent = s.sent ∨ s'.sent = e :: s.sent

theorem send_sends {manager : SeqManager} {output : ℕ}
    (h : s.rtpSeqManager.input .uint16 packet.sequenceNumber.toNat = (manager, some output))
    (answers : Answers) (layer : ℕ) :
    Sends s ⟨layer, packet.sequenceNumber, UInt16.ofNat output, true,
      s.travelled + gap 32768 s.rtpSeqManager.maxOutput manager.maxOutput⟩ manager
      (s.send packet answers layer) := by
  rw [send, h]
  refine ⟨rfl, rfl, rfl, rfl, ?_⟩
  dsimp only
  split_ifs
  · exact .inr rfl
  · exact .inl rfl

theorem Epoch.position_ne (h : Epoch s layer x start R) {e' : SentPacket} {p : ℕ}
    (hpos : 0 < p) (hmem : p ∉ R) (hlayer : e.layer = layer)
    (hseq : e.sequenceNumber.toNat = SeqWidth.uint16.num x p)
    (hposition : e.position = start + advance R p) (he' : e' ∈ s.sent) (hdiffers : e.Differs e') :
    e.position ≠ e'.position := by
  rcases h.entries e' he' with hold | ⟨j, -, -, hj, hlayer', hseq', hposition'⟩
  · have := advance_pos h.numbers.sorted (fun q hq => (h.numbers.inside q hq).1) hpos
    omega
  have hne : p ≠ j := by
    rintro rfl
    rcases hdiffers with hl | hs
    · exact hl (hlayer.trans hlayer'.symm)
    · exact hs (UInt16.toNat_inj.mp (hseq.trans hseq'.symm))
  rw [hposition, hposition']
  rcases Nat.lt_or_gt_of_ne hne with hlt | hgt
  · have := advance_lt_advance h.numbers.sorted hmem hlt
    omega
  · have := advance_lt_advance h.numbers.sorted hj hgt
    omega

theorem Epoch.send (h : Epoch s layer x start R)
    (hplace : s.InPlace packet.sequenceNumber true) (answers : Answers) :
    Epoch (s.send packet answers layer) layer x start R ∧
      (s.send packet answers layer).rtpSeqManager.started := by
  set p := s.position packet.sequenceNumber with hp
  have hnum := h.num_position hplace.pos
  have hmem : p ∉ R := by
    refine h.numbers.toInEpoch.not_mem hplace.behind ?_
    rw [hnum]
    exact hplace.passed rfl
  obtain ⟨hout, hn⟩ := h.numbers.input hplace.ahead hplace.behind hmem
  rw [hnum] at hout hn
  obtain ⟨manager, hinput⟩ : ∃ manager, s.rtpSeqManager.input .uint16
      packet.sequenceNumber.toNat = (manager, some (SeqWidth.uint16.num start (advance R p))) :=
    ⟨_, Prod.ext rfl hout⟩
  rw [hinput] at hn
  have hsends := send_sends hinput answers layer
  set s' := s.send packet answers layer
  set e : SentPacket := ⟨layer, packet.sequenceNumber,
    UInt16.ofNat (SeqWidth.uint16.num start (advance R p)), true,
    s.travelled + gap 32768 s.rtpSeqManager.maxOutput manager.maxOutput⟩
  have htop := h.numbers.top_le
  have hahead := hplace.ahead
  have hbehind := hplace.behind
  have hfrom := advance_le_advance h.numbers.sorted (Nat.le_max_left s.top p)
  have hto := advance_le_advance h.numbers.sorted (Nat.le_max_right s.top p)
  -- the highest output advances to the one of the highest number sent
  have htravelled : e.travelled = start + advance R (max s.top p) := by
    have hgap : gap 32768 (SeqWidth.uint16.num start (advance R s.top))
        (SeqWidth.uint16.num start (advance R (max s.top p))) =
          advance R (max s.top p) - advance R s.top :=
      SeqWidth.gap_num hfrom.1 (by show _ < _ + 65536; omega)
    show s.travelled + gap 32768 s.rtpSeqManager.maxOutput manager.maxOutput = _
    rw [h.travelled, h.numbers.maxOutput, hn.maxOutput, hgap]
    omega
  have houtput : e.output.toNat = (start + advance R p) % 65536 := by
    show (UInt16.ofNat ((start + advance R p) % 65536)).toNat = _
    rw [UInt16.toNat_ofNat', Nat.mod_mod]
  have hposition : e.position = start + advance R p :=
    SentPacket.position_eq houtput (by omega) (by omega)
  have hnew : ∀ e' ∈ s.sent, e.Differs e' → e.position ≠ e'.position := fun e' he' =>
    h.position_ne hplace.pos hmem rfl hnum.symm hposition he'
  have hmem' : ∀ e' ∈ s'.sent, e' = e ∨ e' ∈ s.sent := by
    intro e' he'
    rcases hsends.sent with hsame | hcons
    · rw [hsame] at he'
      exact .inr he'
    · rw [hcons] at he'
      exact mem_cons.mp he'
  refine ⟨⟨?_, ?_, ?_, ?_, ?_⟩, ?_⟩
  · rw [hsends.highest, hsends.top, hsends.rtpSeqManager]
    exact hn
  · rw [hsends.travelled, hsends.top]
    exact htravelled
  · intro e' he'
    rw [hsends.top]
    rcases hmem' e' he' with rfl | hold
    · exact .inr ⟨p, hplace.pos, Nat.le_max_right _ _, hmem, rfl, hnum.symm, hposition⟩
    · refine (h.entries e' hold).imp_right fun hin => ?_
      have hextend := hin.extend (E := []) (Nat.le_max_left s.top p) (by simp)
      rwa [append_nil] at hextend
  · intro e' he'
    rcases hmem' e' he' with rfl | hold
    · exact ⟨rfl, by rw [houtput, hposition], by omega, by omega⟩
    · exact h.numbered e' hold
  · intro e₁ he₁ e₂ he₂ hdiffers
    rcases hmem' e₁ he₁ with rfl | hold₁
    · rcases hmem' e₂ he₂ with rfl | hold₂
      · exact absurd hdiffers (by simp [SentPacket.Differs])
      · exact hnew e₂ hold₂ hdiffers
    · rcases hmem' e₂ he₂ with rfl | hold₂
      · exact (hnew e₁ hold₁ (hdiffers.imp Ne.symm Ne.symm)).symm
      · exact h.distinct e₁ hold₁ e₂ hold₂ hdiffers
  · rw [hsends.rtpSeqManager]
    have hstarted := (input_maxOutput hout).2.1
    rwa [hinput] at hstarted

/-- The numbers are in an epoch of the current layer, if there is one. -/
def Numbered (s : NumberedConsumer) : Prop :=
  ∃ layer x start R, Epoch s layer x start R ∧
    (s.consumer.currentSpatialLayer = none ∨
      s.consumer.currentSpatialLayer = some layer ∧ s.rtpSeqManager.started)

theorem Epoch.withConsumer (h : Epoch s layer x start R) (c : SimulcastConsumer) :
    Epoch { s with consumer := c } layer x start R :=
  ⟨h.numbers, h.travelled, h.entries, h.numbered, h.distinct⟩

theorem drop_started : (s.drop seq).rtpSeqManager.started = s.rtpSeqManager.started := by
  show (s.rtpSeqManager.drop .uint16 seq.toNat).started = _
  rw [SeqManager.drop]
  split_ifs
  · rfl
  · rfl

theorem Epoch.handle (h : Epoch s layer x start R) {answers : Answers}
    {switching : Bool} (hcurrent : s.consumer.currentSpatialLayer = some layer)
    (hplace : s.InPlace packet.sequenceNumber (switching || answers.passes))
    (hstarted : switching = false → s.rtpSeqManager.started) :
    Numbered (if !switching && !answers.passes then s.drop packet.sequenceNumber
      else s.send packet answers layer) := by
  by_cases hdrop : (!switching && !answers.passes) = true
  · rw [if_pos hdrop]
    rw [Bool.and_eq_true, Bool.not_eq_true', Bool.not_eq_true'] at hdrop
    rw [hdrop.1, hdrop.2] at hplace
    obtain ⟨R', hd⟩ := h.drop (hstarted hdrop.1) hplace
    refine ⟨layer, x, start, R', hd, .inr ⟨hcurrent, ?_⟩⟩
    rw [drop_started]
    exact hstarted hdrop.1
  · rw [if_neg hdrop]
    have hpasses : (switching || answers.passes) = true := by
      simpa [Bool.or_eq_true, or_iff_not_imp_left] using hdrop
    rw [hpasses] at hplace
    obtain ⟨hs, hs'⟩ := h.send hplace answers
    exact ⟨layer, x, start, R, hs, .inr ⟨hcurrent, hs'⟩⟩

theorem step_packet_numbered (h : Numbered s) {answers : Answers}
    {s' : NumberedConsumer} (hstep : s.step (.rtpPacket packet, answers) = .ok s')
    (hregular : s.consumer.Continues packet → s.InPlace packet.sequenceNumber answers.passes) :
    Numbered s' := by
  obtain ⟨⟨c, r⟩, hroute, hstep⟩ := bind_eq_ok.mp hstep
  cases hstep
  obtain ⟨layer, x, start, R, hepoch, hcurrent⟩ := h
  have hepoch' := hepoch.withConsumer c
  -- without a switch the packet is of the current layer
  have hstays : ∀ layer', s.consumer.currentSpatialLayer = some layer' →
      layer' = layer ∧ s.rtpSeqManager.started := by
    intro layer' hlayer
    rcases hcurrent with hnone | ⟨hsome, hstarted⟩
    · rw [hnone] at hlayer
      cases hlayer
    · rw [hsome] at hlayer
      exact ⟨(Option.some.inj hlayer).symm, hstarted⟩
  cases route_cases hroute with
  | ignored follows current => exact ⟨layer, x, start, R, hepoch', by rwa [← current] at hcurrent⟩
  | switches layer' hswitches =>
    exact (hepoch'.sync packet.sequenceNumber layer').handle hswitches.current
      (inPlace_sync _) fun hf : true = false => (by cases hf)
  | synchronises layer' old current same sync =>
    have hsync := hepoch'.sync packet.sequenceNumber layer'
    have hstarted := (hstays layer' current).2
    cases old with
    | true => exact ⟨_, _, _, _, hsync, .inr ⟨same, hstarted⟩⟩
    | false => exact hsync.handle same (inPlace_sync _) fun _ => hstarted
  | stays layer' old current follows same continues =>
    obtain ⟨rfl, hstarted⟩ := hstays layer' current
    cases old with
    | true => exact ⟨layer', x, start, R, hepoch', .inr ⟨same, hstarted⟩⟩
    | false =>
      have hplace := hregular (continues rfl)
      exact hepoch'.handle same
        ⟨hplace.pos, hplace.ahead, hplace.behind, hplace.passed, hplace.dropped⟩ fun _ => hstarted

theorem step_numbered (s : NumberedConsumer) (event : SimulcastConsumer.Event × Answers)
    (s' : NumberedConsumer) (h : Numbered s) (hregular : s.Regular event)
    (hstep : s.step event = .ok s') : Numbered s' := by
  obtain ⟨event, answers⟩ := event
  by_cases hpacket : ∃ packet, event = .rtpPacket packet
  · obtain ⟨packet, rfl⟩ := hpacket
    exact step_packet_numbered h hstep hregular
  have hevent : ∀ packet, event ≠ .rtpPacket packet := fun packet heq => hpacket ⟨packet, heq⟩
  have hfollows := step_follows s.consumer event hevent
  rw [step_other s answers hevent] at hstep
  obtain ⟨c, hc, hstep⟩ := bind_eq_ok.mp hstep
  cases hstep
  rw [hc] at hfollows
  obtain ⟨layer, x, start, R, hepoch, hlayer⟩ := h
  refine ⟨layer, x, start, R, hepoch.withConsumer c, ?_⟩
  rcases SimulcastConsumer.Follows.current hfollows with hsame | hnone
  · show c.currentSpatialLayer = none ∨ c.currentSpatialLayer = some layer ∧ _
    rw [hsame]
    exact hlayer
  · exact .inl hnone

theorem new_numbered {c : SimulcastConsumer} (h : c.currentSpatialLayer = none) :
    Numbered (.new c) := by
  refine ⟨0, 0, 0, [], ⟨?_, rfl, ?_, ?_, ?_⟩, .inl h⟩
  · exact @numbers_sync .uint16 0 .new 0 (Nat.zero_le _) rfl
  all_goals exact fun e he => absurd he not_mem_nil

/-- Every number was accepted by the manager, and packets of different sources have
different numbers unless the highest output has advanced by half a circle between
them. -/
structure OutputsDistinct (s : NumberedConsumer) : Prop where
  accepted : ∀ e ∈ s.sent, e.accepted
  distinct : ∀ e ∈ s.sent, ∀ e' ∈ s.sent, e.Differs e' → e.travelled < e'.travelled + 32768 →
    e'.travelled < e.travelled + 32768 → e.output ≠ e'.output

theorem Numbered.outputsDistinct (h : Numbered s) : OutputsDistinct s := by
  obtain ⟨layer, x, start, R, hepoch, -⟩ := h
  refine ⟨fun e he => (hepoch.numbered e he).1, ?_⟩
  intro e he e' he' hdiffers hlt hlt' heq
  have hne := hepoch.distinct e he e' he' hdiffers
  obtain ⟨-, hout, hle, hnear⟩ := hepoch.numbered e he
  obtain ⟨-, hout', hle', hnear'⟩ := hepoch.numbered e' he'
  -- both positions are in less than a circle
  have hmod : e.position % 65536 = e'.position % 65536 := by rw [← hout, ← hout', heq]
  omega

/-- **Output numbers.**  From a new consumer, in every state that a run of regular events
reaches, each number sent was returned by a successful `Input`, and two packets of
different streams or with different numbers are never sent with the same number while
the highest output advances by less than half a circle. -/
theorem run_outputs_distinct (mappedSsrcs : List UInt32) (streams : ℕ → Option ProducerStream)
    (temporalLayers : ℕ) (clockRate : UInt32) (preferredLayers : Option (ℤ × Option ℤ))
    (paused producerPaused externallyManagedBitrate : Bool)
    {events : List (SimulcastConsumer.Event × Answers)} {s : NumberedConsumer}
    (hregular : Along step Regular (.new (SimulcastConsumer.new mappedSsrcs streams temporalLayers
      clockRate preferredLayers paused producerPaused externallyManagedBitrate)) events)
    (hrun : run step (.new (SimulcastConsumer.new mappedSsrcs streams temporalLayers clockRate
      preferredLayers paused producerPaused externallyManagedBitrate)) events = .ok s) :
    OutputsDistinct s :=
  (run_invariant step_numbered events _ s (new_numbered rfl) hregular hrun).outputsDistinct

open SimulcastConsumer (twoLayers steadyMeasurements)

/-- A packet of the first layer, with the codec's answer. -/
def firstLayer (seq : UInt16) (isKeyFrame : Bool) (timestamp : UInt32) (passes : Bool) :
    SimulcastConsumer.Event × Answers :=
  (.rtpPacket ⟨1000, true, isKeyFrame, seq, timestamp, 0⟩,
    { passes, marker := true, uninitialised := 0 })

def other (event : SimulcastConsumer.Event) : SimulcastConsumer.Event × Answers :=
  (event, { passes := true, marker := false, uninitialised := 0 })

/-- A key frame, a packet that comes twice, one that is dropped and a late one; then a
pause, a new key frame and a packet from before it. -/
def regularEvents : List (SimulcastConsumer.Event × Answers) :=
  [other (.transportConnected steadyMeasurements), firstLayer 65534 true 90000 true,
    firstLayer 65535 false 93000 true, firstLayer 65535 false 93000 true,
    firstLayer 1 false 99000 false, firstLayer 2 false 102000 true, firstLayer 0 false 96000 true,
    other .pause, other (.resume steadyMeasurements), firstLayer 1000 true 180000 true,
    firstLayer 999 false 177000 true, firstLayer 1001 false 183000 true]

theorem run_regularEvents_distinct : Along step Regular (.new twoLayers) regularEvents ∧
      ∃ s, run step (.new twoLayers) regularEvents = .ok s ∧ s.sent.length = 7 ∧
        OutputsDistinct s := by
  have hregular : Along step Regular (.new twoLayers) regularEvents := by decide +kernel
  obtain ⟨s, hs, hlength⟩ := @exists_ok_of_map _ _ _ (run step (.new twoLayers) regularEvents)
    (fun s => s.sent.length) 7 (by decide +kernel)
  exact ⟨hregular, s, hs, hlength, run_outputs_distinct _ _ _ _ _ _ _ _ hregular hs⟩

/-- The pause is ended by the key frame 2000.  Packet 2101 ends the check for old packets,
and packet 1999 gets the number 2 of packet 1000. -/
def lateEvents : List (SimulcastConsumer.Event × Answers) :=
  [other (.transportConnected steadyMeasurements), firstLayer 1000 true 90000 true, other .pause,
    other (.resume steadyMeasurements), firstLayer 2000 true 180000 true,
    firstLayer 2101 false 189000 true, firstLayer 1999 false 177000 true]

/-- Packet 1001 is dropped by the codec, and its duplicate is not. -/
def droppedDuplicate : List (SimulcastConsumer.Event × Answers) :=
  [other (.transportConnected steadyMeasurements), firstLayer 1000 true 90000 true,
    firstLayer 1001 false 93000 false, firstLayer 1001 false 93000 true]

/-- **Late packets and duplicates.**  Packets 1000 and 1999 are sent with the same number,
102 outputs apart; and the duplicate is sent with a number that `Input` did not return. -/
theorem run_late_collides : (∃ s, run step (.new twoLayers) lateEvents = .ok s ∧
      ∃ e ∈ s.sent, ∃ e' ∈ s.sent, e.Differs e' ∧ e.output = e'.output ∧
        e'.travelled ≤ e.travelled ∧ e.travelled ≤ e'.travelled + 102) ∧
    ∃ s, run step (.new twoLayers) droppedDuplicate = .ok s ∧ ∃ e ∈ s.sent, e.accepted = false := by
  constructor
  · obtain ⟨s, hs, hsent⟩ := @exists_ok_of_map _ _ _ (run step (.new twoLayers) lateEvents)
      (fun s => s.sent) [⟨0, 1999, 2, true, 104⟩, ⟨0, 2101, 104, true, 104⟩,
        ⟨0, 2000, 3, true, 3⟩, ⟨0, 1000, 2, true, 2⟩] (by decide +kernel)
    refine ⟨s, hs, ⟨0, 1999, 2, true, 104⟩, ?_, ⟨0, 1000, 2, true, 2⟩, ?_, .inr (by decide), rfl,
      by decide, by decide⟩
    · simp [hsent]
    · simp [hsent]
  · obtain ⟨s, hs, hsent⟩ := @exists_ok_of_map _ _ _ (run step (.new twoLayers) droppedDuplicate)
      (fun s => s.sent) [⟨0, 1001, 0, false, 2⟩, ⟨0, 1000, 2, true, 2⟩] (by decide +kernel)
    exact ⟨s, hs, ⟨0, 1001, 0, false, 2⟩, by simp [hsent], rfl⟩

end NumberedConsumer

end Mediasoup
