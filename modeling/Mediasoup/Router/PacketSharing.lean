/-
A packet of a producer goes to all its consumers
(`RTC::Router::OnTransportProducerRtpPacketReceived`).

The consumers get the same packet one after another.  Each one rewrites it for its
stream, stores and sends it, and restores it.  The first that stores it makes the clone
that the later ones share.

What a consumer decides about a packet (number, timestamp, marker, layers) is part of the
events; the payload is rewritten by the codec.

* `sendRtpPacket` — one consumer;
* `step` — a packet for the consumers, a NACK or a pause;
* `Agree` — the consumers that may store a packet send it with the same payload and marker;
* `run_faithful` — over a run of such packets each retransmission has the payload, the
  marker and the timestamp that its consumer has sent.
-/
import Mediasoup.Codecs.VP8Rewriting
import Mediasoup.Rtp.RtpStreamSend

open List Bytes Runs

namespace Mediasoup

namespace PacketSharing

open RtpStreamSend
open RetransmissionBuffer (Abort)

/-- A packet of the producer, with the descriptor of a VP8 payload. -/
structure Received where
  packet : Packet
  descriptor : Option VP8.PayloadDescriptor
  describes : ∀ pd, descriptor = some pd → VP8.Describes pd packet.payload

/-- A VP8 packet as it is received. -/
def receiveVP8 (packet : Packet) : Received where
  packet := { packet with payload := (VP8.processRtpPacket packet.payload).1 }
  descriptor := (VP8.processRtpPacket packet.payload).2
  describes := fun _ h => VP8.processRtpPacket_describes (Prod.ext rfl h)

/-- What a consumer decides about a packet. -/
structure Handling where
  /-- `SyncRequired` of the encoding context. -/
  syncs : Bool
  /-- The target and the current temporal layer, if they are set. -/
  layers : Option (ℕ × ℤ)
  /-- The packet switches the layer: it is sent whatever the codec says. -/
  switches : Bool
  sequenceNumber : UInt16
  timestamp : UInt32
  marker : Bool
  /-- The sending stream accepts the number, possibly after a reset. -/
  accepted : Bool
  resets : Bool

/-- A consumer, with the history of its packets. -/
structure Consumer where
  stream : Stream
  /-- The context of a consumer that rewrites VP8 payloads. -/
  context : Option VP8.EncodingContext
  sent : List Packet
  retransmitted : List Retransmission

namespace Consumer

def setLayers (context : VP8.EncodingContext) (h : Handling) : VP8.EncodingContext :=
  let context := { context with syncRequired := context.syncRequired || h.syncs }
  match h.layers with
  | none => context
  | some (target, current) =>
    { context with targetTemporalLayer := target, currentTemporalLayer := current }

/-- `ProcessPayload`; without a descriptor there is nothing to rewrite. -/
def processPayload (c : Consumer) (h : Handling) (descriptor : Option VP8.PayloadDescriptor)
    (payload : List UInt8) : Option VP8.EncodingContext × Option (List UInt8) :=
  match c.context, descriptor with
  | some context, some pd =>
    let (context, result) := VP8.process (setLayers context h) pd payload
    (some context, if h.switches then some (result.getD payload) else result)
  | some context, none => (some (setLayers context h), some payload)
  | none, _ => (none, some payload)

/-- The packet as the consumer sends it. -/
def rewrite (c : Consumer) (h : Handling) (packet : Packet) (payload : List UInt8) : Packet :=
  { packet with
    ssrc := c.stream.ssrc
    sequenceNumber := h.sequenceNumber
    timestamp := h.timestamp
    marker := packet.marker || h.marker
    payload := payload }

def restorePayload (c : Consumer) (descriptor : Option VP8.PayloadDescriptor)
    (payload : List UInt8) : List UInt8 :=
  match c.context, descriptor with
  | some _, some pd => VP8.restore pd payload
  | _, _ => payload

def restorePacket (c : Consumer) (descriptor : Option VP8.PayloadDescriptor)
    (packet rewritten : Packet) : Packet :=
  { rewritten with
    ssrc := packet.ssrc
    sequenceNumber := packet.sequenceNumber
    timestamp := packet.timestamp
    marker := packet.marker
    payload := c.restorePayload descriptor rewritten.payload }

end Consumer

structure State where
  heap : Heap
  consumers : List Consumer

structure Loop where
  state : State
  packet : Packet
  sharedPacket : Option (RetransmissionBuffer.Packet ℕ)

def Loop.setConsumer (l : Loop) (k : ℕ) (c : Consumer) : Loop :=
  { l with state := { l.state with consumers := l.state.consumers.set k c } }

/-- `SendRtpPacket` of a consumer that does not ignore the packet. -/
def sendRtpPacket (descriptor : Option VP8.PayloadDescriptor) (l : Loop) (entry : ℕ × Handling) :
    Except Abort Loop :=
  match l.state.consumers[entry.1]? with
  | none => .ok l
  | some c =>
    let (context, payload) := c.processPayload entry.2 descriptor l.packet.payload
    match payload with
    | none => .ok (l.setConsumer entry.1 { c with context := context })
    | some payload =>
      let rewritten := c.rewrite entry.2 l.packet payload
      let restored := c.restorePacket descriptor l.packet rewritten
      if !entry.2.accepted then
        .ok { l.setConsumer entry.1 { c with context := context } with packet := restored }
      else do
        let stream := if entry.2.resets then clearBuffer c.stream else c.stream
        let (stream, heap, sharedPacket) ←
          storePacket stream l.state.heap rewritten l.sharedPacket
        .ok
          { state :=
              { heap := heap
                consumers := l.state.consumers.set entry.1 { c with
                  stream := stream
                  context := context
                  sent := rewritten :: c.sent } }
            packet := restored
            sharedPacket := sharedPacket }

/-- How a new consumer is made. -/
structure Settings where
  ssrc : UInt32
  payloadType : UInt8
  nack : Option NackParams
  rtx : Option Rtx
  rtxSeq : UInt16
  /-- The payloads of VP8 are rewritten. -/
  rewritesVP8 : Bool

def Consumer.new (settings : Settings) : Consumer where
  stream := ⟨settings.ssrc, settings.payloadType, settings.nack, [], settings.rtx, settings.rtxSeq⟩
  context := if settings.rewritesVP8 then some .new else none
  sent := []
  retransmitted := []

inductive Event where
  | newConsumer (settings : Settings)
  /-- A packet, with the consumers that do not ignore it in the order of the loop. -/
  | rtpPacket (received : Received) (order : List (ℕ × Handling))
      (nodup : (order.map Prod.fst).Nodup)
  | nack (consumer : ℕ) (items : List (UInt16 × UInt16)) (rtt : UInt16) (nowMs : UInt64)
  | pause (consumer : ℕ)

def step (s : State) : Event → Except Abort State
  | .newConsumer settings =>
    .ok { s with consumers := s.consumers ++ [Consumer.new settings] }
  | .rtpPacket received order _ => do
    let l ← run (sendRtpPacket received.descriptor) ⟨s, received.packet, none⟩ order
    return l.state
  | .nack k items rtt nowMs =>
    match s.consumers[k]? with
    | none => .ok s
    | some c => do
      let n ← receiveNack c.stream s.heap rtt nowMs items
      return ⟨n.heap, s.consumers.set k { c with
        stream := n.stream
        retransmitted := n.sent ++ c.retransmitted }⟩
  | .pause k =>
    match s.consumers[k]? with
    | none => .ok s
    | some c => .ok { s with consumers := s.consumers.set k { c with
        stream := clearBuffer c.stream } }

/-! ### The condition -/

/-- Payload and marker of the packet as a consumer sends it, if it may store it. -/
def storedContent (s : State) (received : Received) (entry : ℕ × Handling) :
    Option (List UInt8 × Bool) := do
  let c ← s.consumers[entry.1]?
  let payload ← (c.processPayload entry.2 received.descriptor received.packet.payload).2
  let rewritten := c.rewrite entry.2 received.packet payload
  if c.stream.nack.isSome && entry.2.accepted && decide (rewritten.size ≤ mtuSize) then
    some rewritten.content
  else none

/-- The consumers that may store the packet send the same payload and marker. -/
def Agree (s : State) : Event → Prop
  | .rtpPacket received order _ => ∀ entry ∈ order, ∀ entry' ∈ order,
      ∀ content ∈ storedContent s received entry, ∀ content' ∈ storedContent s received entry',
        content = content'
  | _ => True

instance (s : State) (event : Event) : Decidable (Agree s event) := by
  cases event with
  | newConsumer _ | nack _ _ _ _ | pause _ => exact .isTrue trivial
  | rtpPacket received order nodup => exact inferInstanceAs (Decidable (∀ entry ∈ order, _))

/-! ### The packet is restored -/

variable {heap : Heap} {c : Consumer}

theorem restorePayload_processPayload {h : Handling} {descriptor : Option VP8.PayloadDescriptor}
    {payload payload' : List UInt8}
    (hdescribes : ∀ pd, descriptor = some pd → VP8.Describes pd payload)
    (hprocess : (c.processPayload h descriptor payload).2 = some payload') :
    c.restorePayload descriptor payload' = payload := by
  obtain ⟨stream, context, sent, retransmitted⟩ := c
  cases context with
  | none => exact (Option.some.inj hprocess).symm
  | some context =>
    cases descriptor with
    | none => exact (Option.some.inj hprocess).symm
    | some pd =>
      have hpd := hdescribes pd rfl
      change (if h.switches then
        some ((VP8.process (Consumer.setLayers context h) pd payload).2.getD payload)
        else (VP8.process (Consumer.setLayers context h) pd payload).2) = some payload' at hprocess
      -- at a switch the payload goes out even where the descriptor is not rewritten
      cases hresult : (VP8.process (Consumer.setLayers context h) pd payload).2 with
      | none =>
        rw [hresult] at hprocess
        split_ifs at hprocess
        cases hprocess
        exact VP8.restore_self hpd
      | some processed =>
        have hsent : processed = payload' := by
          rw [hresult] at hprocess
          split_ifs at hprocess <;> exact Option.some.inj hprocess
        rw [← hsent]
        exact VP8.restore_process hpd hresult

theorem restorePacket_rewrite {h : Handling} {received : Received} {payload : List UInt8}
    (hprocess : (c.processPayload h received.descriptor received.packet.payload).2 = some payload) :
    c.restorePacket received.descriptor received.packet
      (c.rewrite h received.packet payload) = received.packet := by
  have hpayload := restorePayload_processPayload received.describes hprocess
  show ({ received.packet with payload := c.restorePayload received.descriptor payload } :
    Packet) = received.packet
  rw [hpayload]

/-! ### The invariant -/

/-- A packet that the consumer has sent with the number, timestamp, marker and payload of
the retransmission; with RTX the payload comes after the number. -/
def Faithful (c : Consumer) (r : Retransmission) : Prop :=
  ∃ p ∈ c.sent, p.sequenceNumber = r.sequenceNumber ∧ r.packet.timestamp = p.timestamp ∧
    r.packet.marker = p.marker ∧ r.packet.payload =
      if c.stream.rtx.isSome then toBe16 p.sequenceNumber.toNat ++ p.payload else p.payload

/-- The consumer has sent what is stored in its buffer. -/
def SentRecord (c : Consumer) (heap : Heap) (r : Record) : Prop :=
  ∃ cell, heap[r.address]? = some cell ∧ ∃ p ∈ c.sent, p.sequenceNumber = r.sequenceNumber ∧
    p.timestamp = r.timestamp ∧ p.content = cell.content

structure Keeps (heap : Heap) (c : Consumer) : Prop where
  consistent : Consistent c.stream heap
  stored : ∀ r ∈ records c.stream.buffer, SentRecord c heap r
  faithful : ∀ r ∈ c.retransmitted, Faithful c r

section

variable (h : Keeps heap c)
include h

theorem Keeps.of_contents {heap' : Heap} (hle : heap.length ≤ heap'.length)
    (hcontents : ∀ a < heap.length, heap'[a]?.map Packet.content = heap[a]?.map Packet.content) :
    Keeps heap' c := by
  refine ⟨⟨h.consistent.represents, ?_, h.consistent.distinct⟩, ?_, h.faithful⟩
  · intro r hr
    exact (h.consistent.bounded r hr).trans_le hle
  · intro r hr
    obtain ⟨cell, hcell, p, hp, hseq, hts, hcontent⟩ := h.stored r hr
    have hsame := hcontents r.address (h.consistent.bounded r hr)
    rw [hcell] at hsame
    obtain ⟨cell', hcell', heq⟩ := Option.map_eq_some_iff.mp hsame
    exact ⟨cell', hcell', p, hp, hseq, hts, hcontent.trans heq.symm⟩

theorem Keeps.append (packet : Packet) : Keeps (heap ++ [packet]) c := by
  refine h.of_contents (by simp) fun a ha => ?_
  rw [List.getElem?_append_left ha]

theorem Keeps.clear : Keeps heap { c with stream := clearBuffer c.stream } := by
  refine ⟨⟨fun _ _ => RetransmissionBuffer.represents_nil, ?_, ?_⟩, ?_, h.faithful⟩
  all_goals exact fun r hr => absurd hr not_mem_nil

theorem Keeps.withContext (context : Option VP8.EncodingContext) :
    Keeps heap { c with context := context } :=
  ⟨h.consistent, h.stored, h.faithful⟩

theorem Keeps.send {packet : Packet} {buffer : RetransmissionBuffer.Slots ℕ} {new : List Record}
    (hrepresents : ∀ params, c.stream.nack = some params →
      RetransmissionBuffer.Represents params.config buffer)
    (hbuffer : ∀ r ∈ records buffer, r ∈ records c.stream.buffer ∨ r ∈ new)
    (hnew : ∀ r ∈ new, r.sequenceNumber = packet.sequenceNumber ∧ r.timestamp = packet.timestamp ∧
      ∃ cell, heap[r.address]? = some cell ∧ cell.content = packet.content)
    (hfresh : ∀ r ∈ records c.stream.buffer, ∀ r' ∈ new, r.address ≠ r'.address)
    (context : Option VP8.EncodingContext) :
    Keeps heap { c with
      stream := { c.stream with buffer := buffer }
      context := context
      sent := packet :: c.sent } := by
  refine ⟨⟨hrepresents, ?_, ?_⟩, ?_, ?_⟩
  · intro r hr
    rcases hbuffer r hr with hold | hr'
    · exact h.consistent.bounded r hold
    · obtain ⟨-, -, cell, hcell, -⟩ := hnew r hr'
      exact (List.getElem?_eq_some_iff.mp hcell).1
  · -- two records at one address: both old, both the packet's, or a fresh address
    intro r hr r' hr' heq
    rcases hbuffer r hr with hold | hr₁
    · rcases hbuffer r' hr' with hold' | hr₂
      · exact h.consistent.distinct r hold r' hold' heq
      · exact absurd heq (hfresh r hold r' hr₂)
    · rcases hbuffer r' hr' with hold' | hr₂
      · exact absurd heq.symm (hfresh r' hold' r hr₁)
      · rw [(hnew r hr₁).1, (hnew r' hr₂).1]
  · intro r hr
    rcases hbuffer r hr with hold | hr'
    · obtain ⟨cell, hcell, p, hp, hrest⟩ := h.stored r hold
      exact ⟨cell, hcell, p, mem_cons_of_mem _ hp, hrest⟩
    · obtain ⟨hseq, hts, cell, hcell, hcontent⟩ := hnew r hr'
      exact ⟨cell, hcell, packet, mem_cons_self, hseq.symm, hts.symm, hcontent.symm⟩
  · intro r hr
    obtain ⟨p, hp, hrest⟩ := h.faithful r hr
    exact ⟨p, mem_cons_of_mem _ hp, hrest⟩

theorem Keeps.nack {n : Nacked} (hn : Answered c.stream heap n) :
    Keeps n.heap { c with stream := n.stream, retransmitted := n.sent ++ c.retransmitted } := by
  refine ⟨hn.consistent, ?_, ?_⟩
  · -- the answer restores every cell it wrote to, so the contents are as before
    intro r hr
    rw [hn.same.records] at hr
    obtain ⟨cell, hcell, p, hp, hseq, hts, hcontent⟩ := h.stored r hr
    have hsame := hn.contents r.address
    rw [hcell] at hsame
    obtain ⟨cell', hcell', heq⟩ := Option.map_eq_some_iff.mp hsame
    exact ⟨cell', hcell', p, hp, hseq, hts, hcontent.trans heq.symm⟩
  · intro r hr
    show ∃ p ∈ c.sent, _ ∧ _ ∧ _ ∧ r.packet.payload = if n.stream.rtx.isSome then _ else _
    rw [hn.same.rtx]
    rcases mem_append.mp hr with hnew | hold
    · -- what went out is read from the cell of a record that was stored when sent
      obtain ⟨item, hitem, cell, hcell, hseq, hretransmits⟩ := hn.sent r hnew
      obtain ⟨cell', hcell', p, hp, hseq', hts, hcontent⟩ := h.stored item hitem
      obtain rfl : cell = cell' := Option.some.inj (hcell.symm.trans hcell')
      refine ⟨p, hp, hseq'.trans hseq.symm, ?_, ?_, ?_⟩
      · rw [hretransmits.timestamp, hts]
      · rw [hretransmits.marker, ← hcontent]
        rfl
      · rw [hretransmits.payload, ← hcontent, hseq']
        rfl
    · exact h.faithful r hold

end

/-! ### The loop over the consumers -/

/-- The loop after some consumers, when others still wait for the packet: it is as it was
received, and its clone has the content that a consumer gave it. -/
structure InLoop (s : State) (received : Received) (order waiting : List (ℕ × Handling))
    (l : Loop) : Prop where
  packet : l.packet = received.packet
  keeps : ∀ c ∈ l.state.consumers, Keeps l.state.heap c
  waiting : ∀ entry ∈ waiting, l.state.consumers[entry.1]? = s.consumers[entry.1]?
  shared : (l.sharedPacket = none ∧ l.state.heap = s.heap) ∨
    ∃ p cell, l.sharedPacket = some p ∧ p.content = s.heap.length ∧
      l.state.heap = s.heap ++ [cell] ∧
      ∃ entry ∈ order, storedContent s received entry = some cell.content

variable {s : State} {received : Received} {order waiting : List (ℕ × Handling)} {l : Loop}

theorem keeps_set {consumers : List Consumer} {k : ℕ} (h : ∀ c ∈ consumers, Keeps heap c)
    (hc : Keeps heap c) : ∀ c' ∈ consumers.set k c, Keeps heap c' := by
  intro c' hmem
  rcases mem_or_eq_of_mem_set hmem with hold | rfl
  · exact h c' hold
  · exact hc

theorem waiting_set {consumers consumers₀ : List Consumer} {entry : ℕ × Handling}
    (h : ∀ e ∈ entry :: waiting, consumers[e.1]? = consumers₀[e.1]?)
    (hnot : entry.1 ∉ waiting.map Prod.fst) :
    ∀ e ∈ waiting, (consumers.set entry.1 c)[e.1]? = consumers₀[e.1]? := by
  intro e he
  have hne : entry.1 ≠ e.1 := fun heq => hnot (heq ▸ mem_map_of_mem he)
  rw [List.getElem?_set_ne hne]
  exact h e (mem_cons_of_mem _ he)

theorem storePacket_inLoop {c : Consumer} {entry : ℕ × Handling} {rewritten : Packet}
    (hagree : ∀ entry' ∈ order, ∀ content' ∈ storedContent s received entry',
      c.stream.nack.isSome → rewritten.size ≤ mtuSize → content' = rewritten.content)
    (hstored : c.stream.nack.isSome → rewritten.size ≤ mtuSize →
      storedContent s received entry = some rewritten.content)
    (hentry : entry ∈ order) (hnot : entry.1 ∉ waiting.map Prod.fst)
    (hkeeps₀ : Keeps s.heap c) (hkeeps : Keeps l.state.heap c)
    (h : InLoop s received order (entry :: waiting) l)
    (context : Option VP8.EncodingContext) :
    ∃ stream heap shared,
      storePacket c.stream l.state.heap rewritten l.sharedPacket = .ok (stream, heap, shared) ∧
        InLoop s received order waiting ⟨⟨heap, l.state.consumers.set entry.1 { c with
          stream := stream, context := context, sent := rewritten :: c.sent }⟩,
          received.packet, shared⟩ := by
  obtain ⟨buffer, heap, shared, new, hstore, hrepresents, hbuffer, hstores⟩ :=
    storePacket_stores hkeeps.consistent.represents l.state.heap rewritten l.sharedPacket
  have hshared := h.shared
  -- the buffer has no packet with the address of the clone
  have hfresh : ∀ r ∈ records c.stream.buffer, ∀ r' ∈ [recordOf rewritten s.heap.length],
      r.address ≠ r'.address := by
    intro r hr r' hr'
    rw [mem_singleton.mp hr']
    exact (hkeeps₀.consistent.bounded r hr).ne
  refine ⟨_, heap, shared, hstore, rfl, ?_, waiting_set h.waiting hnot, ?_⟩
  · generalize l.sharedPacket = before at hshared hstores
    cases hstores with
    | not =>
      refine keeps_set h.keeps (hkeeps.send hrepresents hbuffer ?_ ?_ context)
      · exact fun r hr => absurd hr not_mem_nil
      · exact fun r _ r' hr' => absurd hr' not_mem_nil
    | @shared p hnack hsize =>
      obtain ⟨⟨⟩, -⟩ | ⟨_, cell, ⟨⟩, haddress, hheap, entry', hentry', hcontent⟩ := hshared
      rw [haddress] at hbuffer
      have hsame := hagree entry' hentry' cell.content hcontent hnack hsize
      refine keeps_set h.keeps (hkeeps.send hrepresents hbuffer ?_ hfresh context)
      intro r hr
      rw [mem_singleton.mp hr]
      refine ⟨rfl, rfl, cell, ?_, hsame⟩
      show l.state.heap[s.heap.length]? = some cell
      rw [hheap, List.getElem?_concat_length]
    | @cloned p hnack hsize haddress =>
      obtain ⟨-, hheap⟩ | ⟨_, _, ⟨⟩, -⟩ := hshared
      rw [haddress, hheap] at hbuffer
      refine keeps_set (fun c' hc' => (h.keeps c' hc').append rewritten)
        ((hkeeps.append rewritten).send hrepresents hbuffer ?_ hfresh context)
      intro r hr
      rw [mem_singleton.mp hr]
      refine ⟨rfl, rfl, rewritten, ?_, rfl⟩
      show (l.state.heap ++ [rewritten])[s.heap.length]? = some rewritten
      rw [hheap, List.getElem?_concat_length]
  · generalize l.sharedPacket = before at hshared hstores
    cases hstores with
    | not | shared _ _ => exact hshared
    | @cloned p hnack hsize haddress =>
      obtain ⟨-, hheap⟩ | ⟨_, _, ⟨⟩, -⟩ := hshared
      rw [hheap] at haddress
      refine .inr ⟨p, rewritten, rfl, haddress, ?_, entry, hentry, hstored hnack hsize⟩
      rw [hheap]

theorem sendRtpPacket_inLoop (hs : ∀ c ∈ s.consumers, Keeps s.heap c)
    (hagree : ∀ entry ∈ order, ∀ entry' ∈ order, ∀ content ∈ storedContent s received entry,
      ∀ content' ∈ storedContent s received entry', content = content')
    {entry : ℕ × Handling} (hentry : entry ∈ order) (hnot : entry.1 ∉ waiting.map Prod.fst)
    (h : InLoop s received order (entry :: waiting) l) :
    ∃ l', sendRtpPacket received.descriptor l entry = .ok l' ∧
      InLoop s received order waiting l' := by
  have hcons := h.waiting entry mem_cons_self
  rw [sendRtpPacket, hcons]
  cases hc : s.consumers[entry.1]? with
  | none =>
    exact ⟨l, rfl, h.packet, h.keeps, fun e he => h.waiting e (mem_cons_of_mem _ he), h.shared⟩
  | some c =>
    rw [hc] at hcons
    have hkeeps := h.keeps c (mem_of_getElem? hcons)
    have hkeeps₀ := hs c (mem_of_getElem? hc)
    dsimp only
    rw [h.packet]
    cases hprocess : c.processPayload entry.2 received.descriptor received.packet.payload with
    | mk context result =>
    cases result with
    | none =>
      exact ⟨_, rfl, h.packet, keeps_set h.keeps (hkeeps.withContext context),
        waiting_set h.waiting hnot, h.shared⟩
    | some payload =>
      have hpayload : (c.processPayload entry.2 received.descriptor received.packet.payload).2 =
          some payload := by rw [hprocess]
      dsimp only
      rw [restorePacket_rewrite hpayload]
      by_cases haccepted : entry.2.accepted
      · rw [if_neg (by simp [haccepted])]
        -- the buffer is empty after a reset
        have hreset : ∀ {heap}, Keeps heap c → Keeps heap { c with
            stream := if entry.2.resets then clearBuffer c.stream else c.stream } := by
          intro heap hk
          split_ifs
          · exact hk.clear
          · exact hk
        have hstored : c.stream.nack.isSome →
            (c.rewrite entry.2 received.packet payload).size ≤ mtuSize →
            storedContent s received entry =
              some (c.rewrite entry.2 received.packet payload).content := by
          intro hnack hsize
          simp [storedContent, hc, hpayload, hnack, haccepted, hsize]
        have hnack : (if entry.2.resets then clearBuffer c.stream else c.stream).nack =
            c.stream.nack := by
          split_ifs
          · rfl
          · rfl
        obtain ⟨stream, heap, shared, hstore, hin⟩ := @storePacket_inLoop s received order waiting l
          { c with stream := if entry.2.resets then clearBuffer c.stream else c.stream } entry
          (c.rewrite entry.2 received.packet payload)
          (fun entry' hentry' content' hcontent' hn hsize => hagree entry' hentry' entry hentry _
            hcontent' _ (hstored (hnack ▸ hn) hsize))
          (fun hn => hstored (hnack ▸ hn)) hentry hnot (hreset hkeeps₀) (hreset hkeeps) h context
        exact ⟨_, by rw [hstore]; rfl, hin⟩
      · rw [if_pos (by simp [haccepted])]
        exact ⟨_, rfl, rfl, keeps_set h.keeps (hkeeps.withContext context),
          waiting_set h.waiting hnot, h.shared⟩

theorem run_sendRtpPacket_inLoop (hs : ∀ c ∈ s.consumers, Keeps s.heap c)
    (hagree : ∀ entry ∈ order, ∀ entry' ∈ order, ∀ content ∈ storedContent s received entry,
      ∀ content' ∈ storedContent s received entry', content = content')
    (hsub : ∀ entry ∈ waiting, entry ∈ order) (hnodup : (waiting.map Prod.fst).Nodup)
    (h : InLoop s received order waiting l) :
    ∃ l', run (sendRtpPacket received.descriptor) l waiting = .ok l' ∧
      InLoop s received order [] l' := by
  induction waiting generalizing l with
  | nil => exact ⟨l, rfl, h⟩
  | cons entry waiting ih =>
    obtain ⟨hnot, hnodup'⟩ := nodup_cons.mp hnodup
    obtain ⟨l₁, hstep, h₁⟩ :=
      sendRtpPacket_inLoop hs hagree (hsub entry mem_cons_self) hnot h
    rw [run_cons_ok hstep]
    exact ih (fun e he => hsub e (mem_cons_of_mem _ he)) hnodup' h₁

/-! ### Runs -/

theorem keeps_new (heap : Heap) (settings : Settings) : Keeps heap (Consumer.new settings) := by
  refine ⟨⟨fun _ _ => RetransmissionBuffer.represents_nil, ?_, ?_⟩, ?_, ?_⟩
  all_goals exact fun r hr => absurd hr not_mem_nil

theorem step_keeps (s : State) (event : Event) (hs : ∀ c ∈ s.consumers, Keeps s.heap c)
    (hagree : Agree s event) : Meets (fun _ => True)
      (fun s' => ∀ c ∈ s'.consumers, Keeps s'.heap c) (step s event) := by
  cases event with
  | newConsumer settings =>
    exact forall_mem_append.mpr ⟨hs, forall_mem_singleton.mpr (keeps_new s.heap settings)⟩
  | rtpPacket received order nodup =>
    -- the producer's packet is untouched before the first consumer
    have hstart : InLoop s received order order ⟨s, received.packet, none⟩ :=
      ⟨rfl, hs, fun _ _ => rfl, .inl ⟨rfl, rfl⟩⟩
    obtain ⟨l, hrun, hl⟩ := run_sendRtpPacket_inLoop hs hagree (fun _ he => he) nodup hstart
    rw [step, hrun]
    exact hl.keeps
  | nack k items rtt nowMs =>
    rw [step]
    cases hc : s.consumers[k]? with
    | none => exact hs
    | some c =>
      have hkeeps := hs c (mem_of_getElem? hc)
      obtain ⟨n, hn, hanswered⟩ := receiveNack_answered hkeeps.consistent rtt nowMs items
      dsimp only
      rw [hn]
      refine keeps_set (fun c' hc' => ?_) (hkeeps.nack hanswered)
      exact (hs c' hc').of_contents hanswered.length.ge fun a _ => hanswered.contents a
  | pause k =>
    rw [step]
    cases hc : s.consumers[k]? with
    | none => exact hs
    | some c => exact keeps_set hs (hs c (mem_of_getElem? hc)).clear

/-- **Retransmissions.**  Over every run in which the consumers that may store a packet
send it with the same payload and marker, nothing aborts, and each packet that a consumer
retransmits for a sequence number has the payload, the marker and the timestamp of a
packet that the same consumer has sent with that number. -/
theorem run_faithful {events : List Event} (hagree : Along step Agree ⟨[], []⟩ events) :
    ∃ s, run step ⟨[], []⟩ events = .ok s ∧
      ∀ c ∈ s.consumers, ∀ r ∈ c.retransmitted, Faithful c r := by
  obtain ⟨s, hrun, hs⟩ := (run_meets_along step_keeps events ⟨[], []⟩
    (fun c hc => absurd hc not_mem_nil) hagree).exists_ok
  exact ⟨s, hrun, fun c hc => (hs c hc).faithful⟩

instance (c : Consumer) (r : Retransmission) : Decidable (Faithful c r) :=
  inferInstanceAs (Decidable (∃ p ∈ c.sent, _))

def videoSettings (ssrc : UInt32) (rewritesVP8 : Bool) : Settings :=
  ⟨ssrc, 96, some ⟨2000, 90000, RetransmissionBuffer.video.clockRate_pos⟩, some ⟨97, ssrc + 1⟩, 100,
    rewritesVP8⟩

def keyFramePacket (pictureId : UInt8) (seq : UInt16) (timestamp : UInt32) : Received :=
  receiveVP8 ⟨96, true, 1000, seq, timestamp, 12,
    [0x90, 0xE0, 0x80, pictureId, 1, 0, 0, 1, 2, 3], 0⟩

/-- The packet is sent with a number; `syncs` for the first one of a consumer. -/
def sends (syncs : Bool) (seq : UInt16) (timestamp : UInt32) (marker : Bool) : Handling :=
  ⟨syncs, some (0, 0), syncs, seq, timestamp, marker, true, false⟩

/-- Two consumers that leave the packets as they are; each asks for its first packet. -/
def agreeingEvents : List Event :=
  [.newConsumer (videoSettings 1 false), .newConsumer (videoSettings 3 false),
    .rtpPacket (keyFramePacket 10 500 90000)
      [(0, sends true 2 90000 false), (1, sends true 2 90000 false)] (by decide),
    .rtpPacket (keyFramePacket 11 501 93000)
      [(1, sends false 3 93000 false), (0, sends false 3 93000 false)] (by decide),
    .nack 0 [(2, 1)] 100 5000, .nack 1 [(2, 0)] 100 5000]

theorem run_agreeingEvents_faithful :
    Along step Agree ⟨[], []⟩ agreeingEvents ∧ ∃ s, run step ⟨[], []⟩ agreeingEvents = .ok s ∧
      s.consumers.map (fun c => c.retransmitted.length) = [2, 1] ∧
      ∀ c ∈ s.consumers, ∀ r ∈ c.retransmitted, Faithful c r := by
  have hagree : Along step Agree ⟨[], []⟩ agreeingEvents := by decide +kernel
  obtain ⟨s, hs, hlengths⟩ := @exists_ok_of_map _ _ _ (run step ⟨[], []⟩ agreeingEvents)
    (fun s => s.consumers.map fun c => c.retransmitted.length) [2, 1] (by decide +kernel)
  obtain ⟨s', hs', hfaithful⟩ := run_faithful hagree
  obtain rfl : s = s' := Except.ok.inj (hs.symm.trans hs')
  exact ⟨hagree, s, hs, hlengths, hfaithful⟩

/-- The second consumer starts at the second picture, which gets the number 2 and the picture
id 1 there, and the number 3 and the picture id 2 from the first consumer. -/
def pictureIdEvents : List Event :=
  [.newConsumer (videoSettings 1 true),
    .rtpPacket (keyFramePacket 10 500 90000) [(0, sends true 2 90000 false)] (by decide),
    .newConsumer (videoSettings 3 true),
    .rtpPacket (keyFramePacket 11 501 93000)
      [(0, sends false 3 93000 false), (1, sends true 2 93000 false)] (by decide),
    .nack 1 [(2, 0)] 100 5000]

/-- The first consumer sets the marker of a packet of a lower spatial layer. -/
def markerEvents : List Event :=
  [.newConsumer (videoSettings 1 false), .newConsumer (videoSettings 3 false),
    .rtpPacket ⟨⟨98, false, 1000, 500, 90000, 12, [0x80, 1, 2, 3], 0⟩, none, by simp⟩
      [(0, sends true 2 90000 true), (1, sends true 2 90000 false)] (by decide),
    .nack 1 [(2, 0)] 100 5000]

/-- **Shared packets.**  In both runs the second consumer retransmits a packet that it has
not sent: with the picture id, or with the marker, of the first consumer. -/
theorem run_shared_unfaithful : (∃ s, run step ⟨[], []⟩ pictureIdEvents = .ok s ∧
      ∃ c ∈ s.consumers, ∃ r ∈ c.retransmitted, ¬Faithful c r) ∧
    ∃ s, run step ⟨[], []⟩ markerEvents = .ok s ∧
      ∃ c ∈ s.consumers, ∃ r ∈ c.retransmitted, ¬Faithful c r := by
  have hfound : ∀ events, (run step ⟨[], []⟩ events).toOption.map (fun s =>
      s.consumers.any fun c => c.retransmitted.any fun r => !decide (Faithful c r)) = some true →
      ∃ s, run step ⟨[], []⟩ events = .ok s ∧
        ∃ c ∈ s.consumers, ∃ r ∈ c.retransmitted, ¬Faithful c r := by
    intro events hall
    obtain ⟨s, hs, hany⟩ := exists_ok_of_map hall
    obtain ⟨c, hc, hany⟩ := any_eq_true.mp hany
    obtain ⟨r, hr, hnot⟩ := any_eq_true.mp hany
    exact ⟨s, hs, c, hc, r, hr, by simpa using hnot⟩
  exact ⟨hfound _ (by decide +kernel), hfound _ (by decide +kernel)⟩

end PacketSharing

end Mediasoup
