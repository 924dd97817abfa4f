/-
Storing and retransmitting packets (`RTC::RtpStreamSend`).

A packet that is stored is a clone that several streams share: an item of a
retransmission buffer has its address, and header fields of its own.  To retransmit it
the fields are written into the shared packet, which with RTX is encoded in place and
decoded once it is sent.

* `storePacket` — the clone is made by the first stream that stores the packet;
* `receiveNack` — the loop over the requested packets;
* `Prepared` — the packets of a container are encoded, the others are as they were;
* `receiveNack_answered` — each packet sent has the timestamp of its item and the content of
  its shared packet, and no content is changed;
* `shows_rtxEncode`, `shows_rtxDecode` — the encoding and the decoding are those of a packet
  in its buffer.
-/
import Mediasoup.Rtp.PacketOperations
import Mediasoup.Rtp.RetransmissionBuffer

open List Bytes Runs

namespace Mediasoup

open RetransmissionBuffer

namespace RtpStreamSend

open RetransmissionBuffer (Item Slots Config Abort)

/-! ### Packets -/

/-- A packet of which the CSRCs and the extensions are not looked at. -/
structure Packet where
  payloadType : UInt8
  marker : Bool
  ssrc : UInt32
  sequenceNumber : UInt16
  timestamp : UInt32
  headerSize : ℕ
  payload : List UInt8
  payloadPadding : ℕ

namespace Packet

def size (p : Packet) : ℕ := p.headerSize + p.payload.length + p.payloadPadding

def withItem (p : Packet) (item : Item ℕ) : Packet :=
  { p with
    ssrc := item.ssrc
    sequenceNumber := item.sequenceNumber
    timestamp := item.timestamp }

def rtxEncode (p : Packet) (payloadType : UInt8) (ssrc : UInt32) (seq : UInt16) : Packet :=
  { p with
    payloadType := payloadType
    ssrc := ssrc
    -- the original sequence number is at the beginning of the payload
    payload := toBe16 p.sequenceNumber.toNat ++ p.payload
    sequenceNumber := seq
    payloadPadding := 0 }

def rtxDecode (p : Packet) (payloadType : UInt8) (ssrc : UInt32) : Packet :=
  if p.payload.length < 2 then p
  else
    { p with
      payloadType := payloadType
      sequenceNumber := UInt16.ofNat (be16 p.payload 0)
      ssrc := ssrc
      payload := p.payload.drop 2
      payloadPadding := 0 }

def content (p : Packet) : List UInt8 × Bool := (p.payload, p.marker)

end Packet

abbrev Heap := List Packet

/-! ### The stream -/

structure Rtx where
  payloadType : UInt8
  ssrc : UInt32

/-- The parameters of the retransmission buffer, other than its size. -/
structure NackParams where
  maxRetransmissionDelayMs : UInt32
  clockRate : UInt32
  clockRate_pos : 0 < clockRate

/-- `RetransmissionBufferMaxItems`. -/
def NackParams.config (params : NackParams) : Config :=
  ⟨2500, params.maxRetransmissionDelayMs, params.clockRate,
    video.maxItems_pos, params.clockRate_pos⟩

theorem NackParams.maxItems_le (params : NackParams) : params.config.maxItems.toNat ≤ 32767 := by
  show (2500 : UInt16).toNat ≤ 32767
  decide

structure Stream where
  ssrc : UInt32
  payloadType : UInt8
  /-- There is a buffer only if NACK is used. -/
  nack : Option NackParams
  buffer : Slots ℕ
  rtx : Option Rtx
  rtxSeq : UInt16

/-- `MtuSize`. -/
def mtuSize : ℕ := 1500

/-- `StorePacket`: the stream, the shared packets, and the one that is shared from here
on.  A clone has the next address. -/
def storePacket (s : Stream) (heap : Heap) (packet : Packet)
    (sharedPacket : Option (RetransmissionBuffer.Packet ℕ)) :
    Except Abort (Stream × Heap × Option (RetransmissionBuffer.Packet ℕ)) :=
  match s.nack with
  | none => .ok (s, heap, sharedPacket)
  | some params =>
    if mtuSize < packet.size then .ok (s, heap, sharedPacket)
    else do
      let (buffer, sharedPacket') ← insert params.config s.buffer
        ⟨packet.ssrc, packet.sequenceNumber, packet.timestamp, heap.length⟩ sharedPacket
      let heap' := if sharedPacket.isNone && sharedPacket'.isSome then heap ++ [packet] else heap
      .ok ({ s with buffer := buffer }, heap', sharedPacket')

/-- `Pause` and `UserOnSequenceNumberReset`. -/
def clearBuffer (s : Stream) : Stream := { s with buffer := [] }

/-! ### Retransmission -/

/-- The sequence numbers of a NACK item, as the loop over the bitmask comes to them. -/
def requestedFrom : ℕ → UInt16 → Bool → ℕ → List UInt16
  | 0, _, _, _ => []
  | rounds + 1, currentSeq, requested, bitmask =>
    if requested ∨ bitmask ≠ 0 then
      let later := requestedFrom rounds (currentSeq + 1) (bitmask % 2 = 1) (bitmask / 2)
      if requested then currentSeq :: later else later
    else []

/-- The bitmask has 16 bits. -/
def requested (seq bitmask : UInt16) : List UInt16 := requestedFrom 17 seq true bitmask.toNat

/-- The stream and the shared packets while a container is filled. -/
structure Filling where
  stream : Stream
  heap : Heap
  container : List (Item ℕ)

/-- The item of a sequence number is sent once more. -/
def resent (seq : UInt16) (nowMs : UInt64) (item : Item ℕ) : Item ℕ :=
  if item.sequenceNumber = seq then
    { item with resentAtMs := nowMs, sentTimes := item.sentTimes + 1 }
  else item

def markResent (b : Slots ℕ) (seq : UInt16) (nowMs : UInt64) : Slots ℕ :=
  b.map (Option.map (resent seq nowMs))

def resentLately (item : Item ℕ) (rtt : UInt16) (nowMs : UInt64) : Bool :=
  item.resentAtMs != 0 && decide (nowMs - item.resentAtMs ≤ rtt.toUInt64)

def fillItem (rtt : UInt16) (nowMs : UInt64) (f : Filling) (item : Item ℕ) : Filling :=
  let heap := f.heap.modify item.packet.content (·.withItem item)
  if resentLately item rtt nowMs then { f with heap := heap }
  else
    let buffer := markResent f.stream.buffer item.sequenceNumber nowMs
    match f.stream.rtx with
    | none => ⟨{ f.stream with buffer := buffer }, heap, f.container ++ [item]⟩
    | some rtx =>
      let rtxSeq := f.stream.rtxSeq + 1
      ⟨{ f.stream with buffer := buffer, rtxSeq := rtxSeq },
        heap.modify item.packet.content (·.rtxEncode rtx.payloadType rtx.ssrc rtxSeq),
        f.container ++ [item]⟩

def fillRequested (rtt : UInt16) (nowMs : UInt64) (f : Filling) (seq : UInt16) :
    Except Abort Filling := do
  match ← get f.stream.buffer seq with
  | none => return f
  | some item => return fillItem rtt nowMs f item

def fillRetransmissionContainer (s : Stream) (heap : Heap) (rtt : UInt16) (nowMs : UInt64)
    (seq bitmask : UInt16) : Except Abort Filling :=
  if s.nack.isNone then .ok ⟨s, heap, []⟩
  else run (fillRequested rtt nowMs) ⟨s, heap, []⟩ (requested seq bitmask)

/-- A packet sent for an item. -/
structure Retransmission where
  sequenceNumber : UInt16
  packet : Packet

/-- Send the packets of the container, and restore them. -/
def sendContainer (s : Stream) : Heap → List (Item ℕ) → Heap × List Retransmission
  | heap, [] => (heap, [])
  | heap, item :: container =>
    let heap' :=
      if s.rtx.isSome then heap.modify item.packet.content (·.rtxDecode s.payloadType item.ssrc)
      else heap
    let (heap'', later) := sendContainer s heap' container
    match heap[item.packet.content]? with
    | none => (heap'', later)
    | some packet => (heap'', ⟨item.sequenceNumber, packet⟩ :: later)

/-- The stream, the shared packets and what was sent for a NACK so far. -/
structure Nacked where
  stream : Stream
  heap : Heap
  sent : List Retransmission

def receiveNackItem (rtt : UInt16) (nowMs : UInt64) (n : Nacked) (item : UInt16 × UInt16) :
    Except Abort Nacked := do
  let f ← fillRetransmissionContainer n.stream n.heap rtt nowMs item.1 item.2
  let (heap, sent) := sendContainer f.stream f.heap f.container
  return ⟨f.stream, heap, n.sent ++ sent⟩

/-- `ReceiveNack`, with the packet ids and bitmasks of its items. -/
def receiveNack (s : Stream) (heap : Heap) (rtt : UInt16) (nowMs : UInt64)
    (items : List (UInt16 × UInt16)) : Except Abort Nacked :=
  run (receiveNackItem rtt nowMs) ⟨s, heap, []⟩ items

/-! ### The requested numbers -/

variable {seq rtt : UInt16} {b : Slots ℕ} {nowMs : UInt64} {f : Packet → Packet}
  {params : NackParams}

theorem mem_requestedFrom {rounds bitmask : ℕ} {seq' : UInt16} {requested : Bool}
    (h : seq' ∈ requestedFrom rounds seq requested bitmask) :
    ∃ k < rounds, seq' = seq + UInt16.ofNat k := by
  induction rounds generalizing seq requested bitmask with
  | zero => exact absurd h not_mem_nil
  | succ rounds ih =>
    have hlater : ∀ {r b}, seq' ∈ requestedFrom rounds (seq + 1) r b →
        ∃ k < rounds + 1, seq' = seq + UInt16.ofNat k := by
      intro r b hmem
      obtain ⟨k, hk, rfl⟩ := ih hmem
      refine ⟨k + 1, by omega, ?_⟩
      rw [UInt16.ofNat_add]
      grind
    rw [requestedFrom] at h
    split_ifs at h
    · rcases mem_cons.mp h with rfl | hmem
      · exact ⟨0, by omega, by simp⟩
      · exact hlater hmem
    · exact hlater h
    · exact absurd h not_mem_nil

theorem nodup_requestedFrom {rounds bitmask : ℕ} (hrounds : rounds < 65536)
    {requested : Bool} : (requestedFrom rounds seq requested bitmask).Nodup := by
  induction rounds generalizing seq requested bitmask with
  | zero => exact nodup_nil
  | succ rounds ih =>
    rw [requestedFrom]
    split_ifs
    · refine nodup_cons.mpr ⟨?_, ih (by omega)⟩
      intro hmem
      obtain ⟨k, hk, heq⟩ := mem_requestedFrom hmem
      have hone : (1 : UInt16) + UInt16.ofNat k = 0 := by grind
      have hnat := congrArg UInt16.toNat hone
      rw [← UInt16.ofNat_one, ← UInt16.ofNat_add, UInt16.toNat_ofNat'] at hnat
      rw [UInt16.toNat_zero, Nat.mod_eq_of_lt (by omega)] at hnat
      omega
    · exact ih (by omega)
    · exact nodup_nil

/-! ### What a stream has stored -/

/-- An item without its times: the address of the packet, the number and the timestamp. -/
structure Record where
  address : ℕ
  sequenceNumber : UInt16
  timestamp : UInt32

def record (item : Item ℕ) : Record := ⟨item.packet.content, item.sequenceNumber, item.timestamp⟩

def records (b : Slots ℕ) : List Record := b.reduceOption.map record

theorem mem_records {r : Record} : r ∈ records b ↔ ∃ item, some item ∈ b ∧ record item = r := by
  rw [records, mem_map]
  simp only [reduceOption_mem_iff]

theorem record_resent (item : Item ℕ) : record (resent seq nowMs item) = record item := by
  rw [resent]
  split_ifs
  · rfl
  · rfl

theorem records_markResent : records (markResent b seq nowMs) = records b := by
  induction b with
  | nil => rfl
  | cons slot b ih =>
    have htail : (List.reduceOption (markResent b seq nowMs)).map record =
        b.reduceOption.map record := ih
    cases slot with
    | none =>
      show (List.reduceOption (none :: markResent b seq nowMs)).map record = _
      rw [records, reduceOption_cons_of_none, reduceOption_cons_of_none, htail]
    | some item =>
      show (List.reduceOption (some (resent seq nowMs item) :: markResent b seq nowMs)).map
        record = _
      rw [records, reduceOption_cons_of_some, reduceOption_cons_of_some, map_cons,
        map_cons, htail, record_resent]

theorem represents_markResent {cfg : Config} (h : RetransmissionBuffer.Represents cfg b) :
    RetransmissionBuffer.Represents cfg (markResent b seq nowMs) := by
  have hsize : (markResent b seq nowMs).length = b.length := length_map _
  have hseq : ∀ item, (resent seq nowMs item).sequenceNumber = item.sequenceNumber := fun item =>
    congrArg Record.sequenceNumber (record_resent item)
  refine ⟨by rw [hsize]; exact h.size, ?_⟩
  rcases h.ends with rfl | ⟨oldest, newest, hspans⟩
  · exact .inl rfl
  right
  refine ⟨resent seq nowMs oldest, resent seq nowMs newest, ?_, ?_, ?_⟩
  · rw [markResent, List.head?_map, hspans.head]
    rfl
  · rw [markResent, List.getLast?_map, hspans.last]
    rfl
  · intro k item hk
    rw [markResent, List.getElem?_map, Option.map_eq_some_iff] at hk
    obtain ⟨slot, hslot, hitem⟩ := hk
    cases slot with
    | none => cases hitem
    | some old =>
      rw [← Option.some.inj hitem, hseq, hseq]
      exact hspans.aligned k old hslot

/-- The record that a stream has of a packet. -/
def recordOf (packet : Packet) (address : ℕ) : Record :=
  ⟨address, packet.sequenceNumber, packet.timestamp⟩

/-- What `StorePacket` may do with the shared packet: nothing, store it, or clone it. -/
inductive Stores (s : Stream) (heap : Heap) (packet : Packet) :
    Option (RetransmissionBuffer.Packet ℕ) → List Record → Heap →
      Option (RetransmissionBuffer.Packet ℕ) → Prop
  | not {shared} : Stores s heap packet shared [] heap shared
  | shared {p} (hnack : s.nack.isSome) (hsize : packet.size ≤ mtuSize) :
      Stores s heap packet (some p) [recordOf packet p.content] heap (some p)
  | cloned {p} (hnack : s.nack.isSome) (hsize : packet.size ≤ mtuSize)
      (haddress : p.content = heap.length) :
      Stores s heap packet none [recordOf packet p.content] (heap ++ [packet]) (some p)

theorem storePacket_stores {s : Stream} (hs : ∀ params, s.nack = some params →
    RetransmissionBuffer.Represents params.config s.buffer) (heap : Heap) (packet : Packet)
    (shared : Option (RetransmissionBuffer.Packet ℕ)) : ∃ buffer heap' shared' new,
      storePacket s heap packet shared = .ok ({ s with buffer := buffer }, heap', shared') ∧
      (∀ params, s.nack = some params → RetransmissionBuffer.Represents params.config buffer) ∧
      (∀ r ∈ records buffer, r ∈ records s.buffer ∨ r ∈ new) ∧
      Stores s heap packet shared new heap' shared' := by
  obtain ⟨ssrc, payloadType, nack, slots, rtx, rtxSeq⟩ := s
  cases nack with
  | none =>
    exact ⟨slots, heap, shared, [], rfl, fun _ h => (by cases h), fun r hr => .inl hr, .not⟩
  | some params =>
    have hslots := hs params rfl
    rw [storePacket]
    dsimp only
    by_cases hsize : mtuSize < packet.size
    · refine ⟨slots, heap, shared, [], if_pos hsize, hs, fun r hr => .inl hr, .not⟩
    set clone : RetransmissionBuffer.Packet ℕ :=
      ⟨packet.ssrc, packet.sequenceNumber, packet.timestamp, heap.length⟩
    obtain ⟨buffer, stored, hinsert, hbuffer, hmem⟩ :=
      insertItem_represents hslots params.maxItems_le
        (RetransmissionBuffer.fillItem clone shared)
    -- `insert` may evict, but adds no record besides the packet's own
    have hnew : ∀ r ∈ records buffer, r ∈ records slots ∨ stored = true ∧
        r = recordOf packet (shared.getD clone).content := by
      intro r hr
      obtain ⟨other, hother, rfl⟩ := mem_records.mp hr
      rcases hmem other hother with hold | ⟨hstored, rfl⟩
      · exact .inl (mem_records.mpr ⟨other, hold, rfl⟩)
      · exact .inr ⟨hstored, rfl⟩
    have hinsert' : insert params.config slots clone shared =
        .ok (buffer, if stored then some (shared.getD clone) else shared) := by
      rw [RetransmissionBuffer.insert]
      rw [hinsert]
      rfl
    rw [if_neg hsize, hinsert']
    have hrepresents : ∀ params', some params = some params' →
        RetransmissionBuffer.Represents params'.config buffer := by
      rintro _ ⟨⟩
      exact hbuffer
    have hsize' : packet.size ≤ mtuSize := Nat.le_of_not_lt hsize
    cases stored with
    | false =>
      refine ⟨buffer, heap, shared, [], ?_, hrepresents, ?_, .not⟩
      · cases shared with
        | none | some p => rfl
      · intro r hr
        exact (hnew r hr).imp_right fun hf => absurd hf.1 Bool.false_ne_true
    | true =>
      have hrecords : ∀ r ∈ records buffer, r ∈ records slots ∨
          r ∈ [recordOf packet (shared.getD clone).content] := by
        intro r hr
        exact (hnew r hr).imp_right fun hf => mem_singleton.mpr hf.2
      cases shared with
      | none => exact ⟨buffer, _, _, _, rfl, hrepresents, hrecords, .cloned rfl hsize' rfl⟩
      | some p => exact ⟨buffer, _, _, _, rfl, hrepresents, hrecords, .shared rfl hsize'⟩

/-! ### The packets of a container -/

/-- The packet that is sent for an item, from the shared packet as it was stored. -/
structure Retransmits (rtx : Bool) (item : Record) (content : List UInt8 × Bool)
    (packet : Packet) : Prop where
  marker : packet.marker = content.2
  timestamp : packet.timestamp = item.timestamp
  payload : packet.payload =
    if rtx then toBe16 item.sequenceNumber.toNat ++ content.1 else content.1

def addresses (container : List (Item ℕ)) : List ℕ := container.map fun item => item.packet.content

/-- The packets of the container are ready to be sent, the content of the others is as it
was. -/
structure Prepared (heap₀ : Heap) (rtx : Bool) (heap : Heap) (container : List (Item ℕ)) :
    Prop where
  nodup : (addresses container).Nodup
  length : heap.length = heap₀.length
  untouched : ∀ a : ℕ, a ∉ addresses container →
    heap[a]?.map Packet.content = heap₀[a]?.map Packet.content
  ready : ∀ item ∈ container, ∃ cell packet, heap₀[item.packet.content]? = some cell ∧
    heap[item.packet.content]? = some packet ∧ Retransmits rtx (record item) cell.content packet

variable {heap₀ heap : Heap} {rtx : Bool} {container : List (Item ℕ)} {item : Item ℕ}

theorem ne_of_mem (hnew : item.packet.content ∉ addresses container) {item' : Item ℕ}
    (h : item' ∈ container) : item.packet.content ≠ item'.packet.content := by
  intro heq
  exact hnew (heq ▸ mem_map_of_mem h)

theorem getElem?_modify_other {a b : ℕ} (hne : a ≠ b) : (heap.modify a f)[b]? = heap[b]? := by
  rw [List.getElem?_modify_ne _ _ hne]

theorem Prepared.modify (h : Prepared heap₀ rtx heap container)
    (hnew : item.packet.content ∉ addresses container)
    (hf : ∀ p, (f p).content = p.content) :
    Prepared heap₀ rtx (heap.modify item.packet.content f) container := by
  refine ⟨h.nodup, (length_modify _ _ _).trans h.length, ?_, ?_⟩
  · intro a ha
    rw [← h.untouched a ha]
    by_cases heq : item.packet.content = a
    · rw [heq, List.getElem?_modify_eq]
      cases heap[a]? with
      | none => rfl
      | some p => exact congrArg some (hf p)
    · rw [getElem?_modify_other heq]
  · intro item' hitem'
    obtain ⟨cell, packet, hcell, hpacket, hready⟩ := h.ready item' hitem'
    refine ⟨cell, packet, hcell, ?_, hready⟩
    rw [getElem?_modify_other (ne_of_mem hnew hitem'), hpacket]

theorem Prepared.add (h : Prepared heap₀ rtx heap container)
    (hnew : item.packet.content ∉ addresses container) (hlt : item.packet.content < heap₀.length)
    (hf : ∀ p : Packet, Retransmits rtx (record item) p.content (f p)) :
    Prepared heap₀ rtx (heap.modify item.packet.content f) (container ++ [item]) := by
  have haddresses :
      addresses (container ++ [item]) = addresses container ++ [item.packet.content] := map_append
  refine ⟨?_, (length_modify _ _ _).trans h.length, ?_, ?_⟩
  · rw [haddresses, nodup_append]
    refine ⟨h.nodup, nodup_singleton _, ?_⟩
    intro a ha b hb
    rw [mem_singleton.mp hb]
    rintro rfl
    exact hnew ha
  · intro a ha
    rw [haddresses, mem_append, mem_singleton, not_or] at ha
    rw [getElem?_modify_other (Ne.symm ha.2), h.untouched a ha.1]
  · intro item' hitem'
    rcases mem_append.mp hitem' with hold | hlast
    · obtain ⟨cell, packet, hcell, hpacket, hready⟩ := h.ready item' hold
      refine ⟨cell, packet, hcell, ?_, hready⟩
      rw [getElem?_modify_other (ne_of_mem hnew hold), hpacket]
    · obtain rfl := mem_singleton.mp hlast
      have hcell := List.getElem?_eq_getElem hlt
      have huntouched := h.untouched _ hnew
      obtain ⟨p, hp⟩ : ∃ p, heap[item'.packet.content]? = some p :=
        ⟨_, List.getElem?_eq_getElem (by rw [h.length]; exact hlt)⟩
      rw [hp, hcell] at huntouched
      refine ⟨_, f p, hcell, ?_, ?_⟩
      · rw [List.getElem?_modify_eq, hp]
        rfl
      · have hready := hf p
        rwa [show p.content = _ from Option.some.inj huntouched] at hready

theorem rtxDecode_content {payloadType : UInt8} {ssrc : UInt32} {cell packet : Packet}
    (h : Retransmits true (record item) cell.content packet) :
    (packet.rtxDecode payloadType ssrc).content = cell.content := by
  have hpayload : packet.payload = toBe16 item.sequenceNumber.toNat ++ cell.payload := h.payload
  have hlen : ¬packet.payload.length < 2 := by
    rw [hpayload, length_append]
    show ¬2 + _ < 2
    omega
  rw [Packet.rtxDecode, if_neg hlen]
  rw [hpayload, h.marker]
  rfl

/-- The container is sent: each packet is ready when it is its turn, and at the end all
contents are as they were. -/
theorem Prepared.send {s : Stream} (hrtx : s.rtx.isSome = rtx)
    (h : Prepared heap₀ rtx heap container) :
    Prepared heap₀ rtx (sendContainer s heap container).1 [] ∧
      ∀ r ∈ (sendContainer s heap container).2, ∃ item ∈ container, ∃ cell,
        heap₀[item.packet.content]? = some cell ∧ r.sequenceNumber = item.sequenceNumber ∧
          Retransmits rtx (record item) cell.content r.packet := by
  induction container generalizing heap with
  | nil => exact ⟨h, fun r hr => absurd hr not_mem_nil⟩
  | cons item container ih =>
    obtain ⟨cell, packet, hcell, hpacket, hready⟩ := h.ready item mem_cons_self
    obtain ⟨hnew, hnodup⟩ := nodup_cons.mp h.nodup
    have hnext : Prepared heap₀ rtx (if s.rtx.isSome then
        heap.modify item.packet.content (·.rtxDecode s.payloadType item.ssrc) else heap)
        container := by
      refine ⟨hnodup, ?_, ?_, ?_⟩
      · split_ifs
        · exact (length_modify _ _ _).trans h.length
        · exact h.length
      · intro a ha
        -- the cell just sent is decoded back; the others were not written
        by_cases heq : item.packet.content = a
        · rw [← heq, hcell, hrtx]
          cases rtx with
          | true =>
            rw [if_pos rfl, List.getElem?_modify_eq, hpacket]
            exact congrArg some (rtxDecode_content hready)
          | false =>
            rw [if_neg Bool.false_ne_true, hpacket]
            exact congrArg some (Prod.ext hready.payload hready.marker)
        · rw [← h.untouched a (by
            rintro (_ | ⟨_, hmem⟩)
            · exact heq rfl
            · exact ha hmem)]
          split_ifs
          · rw [getElem?_modify_other heq]
          · rfl
      · intro item' hitem'
        obtain ⟨cell', packet', hcell', hpacket', hready'⟩ :=
          h.ready item' (mem_cons_of_mem _ hitem')
        refine ⟨cell', packet', hcell', ?_, hready'⟩
        split_ifs
        · rw [getElem?_modify_other (ne_of_mem hnew hitem'), hpacket']
        · exact hpacket'
    obtain ⟨hend, hsent⟩ := ih hnext
    rw [sendContainer, hpacket]
    refine ⟨hend, ?_⟩
    intro r hr
    rcases mem_cons.mp hr with rfl | hlater
    · exact ⟨item, mem_cons_self, cell, hcell, rfl, hready⟩
    · obtain ⟨item', hitem', hrest⟩ := hsent r hlater
      exact ⟨item', mem_cons_of_mem _ hitem', hrest⟩

/-! ### A NACK -/

/-- The buffer is in order and its items are of different shared packets. -/
structure Consistent (s : Stream) (heap : Heap) : Prop where
  represents : ∀ params, s.nack = some params →
    RetransmissionBuffer.Represents params.config s.buffer
  bounded : ∀ r ∈ records s.buffer, r.address < heap.length
  distinct : ∀ r ∈ records s.buffer, ∀ r' ∈ records s.buffer, r.address = r'.address →
    r.sequenceNumber = r'.sequenceNumber

/-- Only times and the RTX sequence number are different. -/
structure SameStream (s s' : Stream) : Prop where
  nack : s'.nack = s.nack
  rtx : s'.rtx = s.rtx
  records : records s'.buffer = records s.buffer

/-- A container that is being filled with the items of some numbers. -/
structure Fills (s : Stream) (heap₀ : Heap) (asked : List UInt16) (f : Filling) : Prop where
  same : SameStream s f.stream
  represents : ∀ params, s.nack = some params →
    RetransmissionBuffer.Represents params.config f.stream.buffer
  prepared : Prepared heap₀ s.rtx.isSome f.heap f.container
  asked : ∀ item ∈ f.container, record item ∈ records s.buffer ∧ item.sequenceNumber ∈ asked

variable {s : Stream} {asked : List UInt16} {f : Filling}

theorem modify_modify (heap : Heap) (a : ℕ) (f g : Packet → Packet) :
    (heap.modify a f).modify a g = heap.modify a fun p => g (f p) := by
  refine ext_getElem? fun b => ?_
  by_cases heq : a = b
  · rw [← heq, List.getElem?_modify_eq, List.getElem?_modify_eq, List.getElem?_modify_eq]
    cases heap[a]? with
    | none | some p => rfl
  · rw [getElem?_modify_other heq, getElem?_modify_other heq, getElem?_modify_other heq]

theorem Fills.mono {asked' : List UInt16} (h : Fills s heap₀ asked f) (hsub : asked ⊆ asked') :
    Fills s heap₀ asked' f :=
  ⟨h.same, h.represents, h.prepared, fun item hitem =>
    ⟨(h.asked item hitem).1, hsub (h.asked item hitem).2⟩⟩

section

variable (hs : Consistent s heap₀)
include hs

theorem fillItem_fills (h : Fills s heap₀ asked f)
    (hitem : record item ∈ records s.buffer) (hnew : item.sequenceNumber ∉ asked) :
    Fills s heap₀ (item.sequenceNumber :: asked) (fillItem rtt nowMs f item) := by
  -- one address is one number, so the item's cell is still as stored
  have haddress : item.packet.content ∉ addresses f.container := by
    intro hmem
    obtain ⟨item', hitem', heq⟩ := mem_map.mp hmem
    obtain ⟨hrecord, hasked⟩ := h.asked item' hitem'
    have hseq : item'.sequenceNumber = item.sequenceNumber := hs.distinct _ hrecord _ hitem heq
    exact hnew (hseq ▸ hasked)
  have hlt : item.packet.content < heap₀.length := hs.bounded _ hitem
  have hcontainer : ∀ item' ∈ f.container ++ [item], record item' ∈ records s.buffer ∧
      item'.sequenceNumber ∈ item.sequenceNumber :: asked := by
    intro item' hitem'
    rcases mem_append.mp hitem' with hold | hlast
    · obtain ⟨hrecord, hasked⟩ := h.asked item' hold
      exact ⟨hrecord, mem_cons_of_mem _ hasked⟩
    · obtain rfl := mem_singleton.mp hlast
      exact ⟨hitem, mem_cons_self⟩
  have hrecords : records (markResent f.stream.buffer item.sequenceNumber nowMs) =
      records s.buffer := records_markResent.trans h.same.records
  have hrepresents : ∀ params, s.nack = some params → RetransmissionBuffer.Represents params.config
      (markResent f.stream.buffer item.sequenceNumber nowMs) := fun params hparams =>
    represents_markResent (h.represents params hparams)
  have hprepared := h.prepared
  have hrtx := h.same.rtx
  rw [fillItem]
  dsimp only
  split_ifs with hlately
  · refine ⟨h.same, h.represents, hprepared.modify haddress fun p => rfl, ?_⟩
    intro item' hitem'
    exact hcontainer item' (mem_append_left _ hitem')
  · cases hcase : s.rtx
    all_goals
      rw [hcase] at hrtx hprepared
      rw [hrtx]
      refine ⟨⟨h.same.nack, hcase.symm, hrecords⟩, hrepresents, ?_, hcontainer⟩
      rw [hcase]
    · exact hprepared.add haddress hlt fun _ => ⟨rfl, rfl, rfl⟩
    · dsimp only
      rw [modify_modify]
      exact hprepared.add haddress hlt fun _ => ⟨rfl, rfl, rfl⟩

theorem fillRequested_fills (hparams : s.nack = some params) (h : Fills s heap₀ asked f)
    (hnew : seq ∉ asked) :
    ∃ f', fillRequested rtt nowMs f seq = .ok f' ∧ Fills s heap₀ (seq :: asked) f' := by
  obtain ⟨found, hget, hfound⟩ := (h.represents params hparams).get params.maxItems_le seq
  rw [fillRequested, hget]
  cases found with
  | none => exact ⟨f, rfl, h.mono (subset_cons_self _ _)⟩
  | some item =>
    obtain ⟨hmem, rfl⟩ := (hfound item).mp rfl
    have hitem : record item ∈ records s.buffer := by
      rw [← h.same.records]
      exact mem_records.mpr ⟨item, hmem, rfl⟩
    exact ⟨_, rfl, fillItem_fills hs h hitem hnew⟩

theorem run_fillRequested (hparams : s.nack = some params) {seqs : List UInt16}
    (hnodup : seqs.Nodup) (hnew : ∀ seq ∈ seqs, seq ∉ asked) (h : Fills s heap₀ asked f) :
    ∃ f' asked', run (fillRequested rtt nowMs) f seqs = .ok f' ∧ Fills s heap₀ asked' f' := by
  induction seqs generalizing asked f with
  | nil => exact ⟨f, asked, rfl, h⟩
  | cons seq seqs ih =>
    obtain ⟨hnot, hrest⟩ := nodup_cons.mp hnodup
    obtain ⟨f₁, hstep, hf₁⟩ :=
      fillRequested_fills hs hparams h (hnew seq mem_cons_self)
    rw [run_cons_ok hstep]
    refine ih hrest ?_ hf₁
    intro seq' hmem hasked
    rcases mem_cons.mp hasked with rfl | hold
    · exact hnot hmem
    · exact hnew seq' (mem_cons_of_mem _ hmem) hold

theorem fillRetransmissionContainer_fills (seq bitmask : UInt16) : ∃ f asked,
      fillRetransmissionContainer s heap₀ rtt nowMs seq bitmask = .ok f ∧
        Fills s heap₀ asked f := by
  have hstart : Fills s heap₀ [] ⟨s, heap₀, []⟩ :=
    ⟨⟨rfl, rfl, rfl⟩, hs.represents,
      ⟨nodup_nil, rfl, fun _ _ => rfl, fun _ h => absurd h not_mem_nil⟩,
      fun _ h => absurd h not_mem_nil⟩
  rw [fillRetransmissionContainer]
  cases hparams : s.nack with
  | none => exact ⟨_, [], rfl, hstart⟩
  | some params =>
    exact run_fillRequested hs hparams (nodup_requestedFrom (by decide))
      (fun _ _ => not_mem_nil) hstart

end

/-- What was sent for a NACK, and that the contents are as they were. -/
structure Answered (s : Stream) (heap : Heap) (n : Nacked) : Prop where
  same : SameStream s n.stream
  consistent : Consistent n.stream n.heap
  length : n.heap.length = heap.length
  contents : ∀ a : ℕ, n.heap[a]?.map Packet.content = heap[a]?.map Packet.content
  sent : ∀ r ∈ n.sent, ∃ item ∈ records s.buffer, ∃ cell, heap[item.address]? = some cell ∧
    r.sequenceNumber = item.sequenceNumber ∧
      Retransmits s.rtx.isSome item cell.content r.packet

theorem receiveNackItem_answered {n : Nacked} (h : Answered s heap n) (item : UInt16 × UInt16) :
    ∃ n', receiveNackItem rtt nowMs n item = .ok n' ∧ Answered s heap n' := by
  obtain ⟨f, asked, hfill, hf⟩ :=
    fillRetransmissionContainer_fills h.consistent item.1 item.2
  have hrtx : f.stream.rtx.isSome = n.stream.rtx.isSome := by rw [hf.same.rtx]
  obtain ⟨hend, hsent⟩ := hf.prepared.send hrtx
  refine ⟨_, by rw [receiveNackItem, hfill]; rfl, ?_⟩
  have hrecords := hf.same.records
  have hlength := hend.length
  refine ⟨⟨hf.same.nack.trans h.same.nack, hf.same.rtx.trans h.same.rtx,
    hrecords.trans h.same.records⟩, ⟨?_, ?_, ?_⟩, hlength.trans h.length, ?_, ?_⟩
  · intro params hparams
    rw [hf.same.nack] at hparams
    exact hf.represents params hparams
  · intro r hr
    rw [hrecords] at hr
    rw [hlength]
    exact h.consistent.bounded r hr
  · intro r hr r' hr'
    rw [hrecords] at hr hr'
    exact h.consistent.distinct r hr r' hr'
  · intro a
    exact (hend.untouched a not_mem_nil).trans (h.contents a)
  · intro r hr
    rcases mem_append.mp hr with hold | hnew
    · exact h.sent r hold
    obtain ⟨item, hitem, cell, hcell, hseq, hretransmits⟩ := hsent r hnew
    -- the cell it read has the content of the start
    have hcontents := h.contents item.packet.content
    rw [hcell] at hcontents
    obtain ⟨cell₀, hcell₀, heq⟩ := Option.map_eq_some_iff.mp hcontents.symm
    refine ⟨record item, ?_, cell₀, hcell₀, hseq, ?_⟩
    · rw [← h.same.records]
      exact (hf.asked item hitem).1
    · rw [heq, ← h.same.rtx]
      exact hretransmits

/-- **A NACK** changes no content, and each packet that is sent for it has the number and
the timestamp of an item and the content of its shared packet. -/
theorem receiveNack_answered (hs : Consistent s heap) (rtt : UInt16) (nowMs : UInt64)
    (items : List (UInt16 × UInt16)) :
    ∃ n, receiveNack s heap rtt nowMs items = .ok n ∧ Answered s heap n := by
  have hstart : Answered s heap ⟨s, heap, []⟩ :=
    ⟨⟨rfl, rfl, rfl⟩, hs, rfl, fun _ => rfl, fun _ h => absurd h not_mem_nil⟩
  have hstep : ∀ n item, Answered s heap n →
      Meets (fun _ => True) (Answered s heap) (receiveNackItem rtt nowMs n item) := by
    intro n item h
    obtain ⟨n', hn', h'⟩ := receiveNackItem_answered h item
    rw [hn']
    exact h'
  exact (run_meets hstep items _ hstart).exists_ok

/-! ### The packet in its buffer -/

section

open Checked Slices

def secondByte (marker : Bool) (payloadType : UInt8) : UInt8 :=
  (if marker then 0x80 else 0) ||| payloadType

/-- The packet in the buffer has the fields and the payload of `p`. -/
structure Shows (mem : List UInt8) (packet : RtpPacket) (p : Packet) : Prop where
  layout : packet.Layout mem
  payloadType_lt : p.payloadType.toNat < 128
  second : byteAt mem 1 = secondByte p.marker p.payloadType
  sequenceNumber : Holds mem 2 (toBe16 p.sequenceNumber.toNat)
  timestamp : Holds mem 4 (toBe32 p.timestamp.toNat)
  ssrc : Holds mem 8 (toBe32 p.ssrc.toNat)
  headerSize : packet.payload = p.headerSize
  payloadLength : packet.payloadLength = p.payload.length
  payload : ∀ k, k < p.payload.length → byteAt mem (packet.payload + k) = byteAt p.payload k
  payloadPadding : packet.payloadPadding = p.payloadPadding

variable {mem : List UInt8} {packet : RtpPacket} {p : Packet} {payloadType : UInt8}

theorem secondByte_rewritten {marker : Bool} {old : UInt8} (hold : old.toNat < 128)
    (hnew : payloadType.toNat < 128) :
    secondByte marker old &&& 0x80 ||| UInt8.ofNat (payloadType.toNat % 128) =
      secondByte marker payloadType := by
  have hmarker : ∀ (marker : Bool) (n : Fin 128),
      secondByte marker (UInt8.ofNat n) &&& 0x80 = if marker then 0x80 else 0 := by decide +kernel
  have hmask := hmarker marker ⟨old.toNat, hold⟩
  rw [UInt8.ofNat_toNat] at hmask
  rw [hmask, Nat.mod_eq_of_lt hnew, UInt8.ofNat_toNat, secondByte]

theorem toBe16_be16 (buf : List UInt8) :
    toBe16 (UInt16.ofNat (be16 buf 0)).toNat = [byteAt buf 0, byteAt buf 1] := by
  have h0 := (byteAt buf 0).toNat_lt
  have h1 := (byteAt buf 1).toNat_lt
  simp only [toBe16, be16, Nat.zero_add, cons.injEq, and_true, ← UInt8.toNat_inj,
    UInt8.toNat_ofNat', UInt16.toNat_ofNat']
  omega

/-- **`RtxEncode` in the buffer** is `rtxEncode`. -/
theorem shows_rtxEncode (h : Shows mem packet p)
    (hroom : packet.payload + packet.payloadLength + 2 ≤ mem.length)
    (hlt : payloadType.toNat < 128) (ssrc : UInt32) (seq : UInt16) :
    (packet.rtxEncode mem payloadType.toNat ssrc.toNat seq.toNat).Yields fun r =>
      Shows r.1 r.2 (p.rtxEncode payloadType ssrc seq) := by
  obtain ⟨⟨mem', _⟩, hencode, rfl, hr, hseq, hbody⟩ :=
    @RtpPacket.yields_rtxEncode mem packet payloadType.toNat ssrc.toNat seq.toNat h.layout hroom
  have hfirst : byteAt mem 2 = _ := h.sequenceNumber.byteAt_eq (k := 0) Nat.two_pos
  have hsecond : byteAt mem 3 = _ := h.sequenceNumber.byteAt_eq (k := 1) Nat.one_lt_two
  refine ⟨_, hencode, h.layout.rewritten hr hroom, hlt, ?_, hr.sequenceNumber,
    h.timestamp.of_agreeOn hr.timestamp le_rfl le_rfl, hr.ssrc, h.headerSize, ?_, ?_, rfl⟩
  · rw [hr.payloadType, h.second, secondByte_rewritten h.payloadType_lt hlt]
    rfl
  · show packet.payloadLength + 2 = (toBe16 _ ++ p.payload).length
    rw [length_append, length_toBe16, h.payloadLength, Nat.add_comm]
  · intro k hk
    replace hk : k < 2 + p.payload.length := by
      rwa [Packet.rtxEncode, length_append, length_toBe16] at hk
    show byteAt mem' (packet.payload + k) = byteAt (toBe16 _ ++ p.payload) k
    -- the old number, then the old payload
    match k, hk with
    | 0, _ => exact (hseq.byteAt_eq (k := 0) Nat.two_pos).trans hfirst
    | 1, _ => exact (hseq.byteAt_eq (k := 1) Nat.one_lt_two).trans hsecond
    | k + 2, hk =>
      have hmoved := hbody k (by rw [h.payloadLength]; omega)
      rw [Nat.add_assoc, Nat.add_comm 2 k, h.payload k (by omega)] at hmoved
      exact hmoved

/-- **`RtxDecode` in the buffer** is `rtxDecode`; where it fails, the buffer is as it was. -/
theorem shows_rtxDecode (h : Shows mem packet p) (hlt : payloadType.toNat < 128) (ssrc : UInt32) :
    (packet.rtxDecode mem payloadType.toNat ssrc.toNat).Yields fun r =>
      Shows (r.getD (mem, packet)).1 (r.getD (mem, packet)).2 (p.rtxDecode payloadType ssrc) := by
  by_cases htwo : p.payload.length < 2
  · rw [RtpPacket.rtxDecode, if_pos (h.payloadLength ▸ htwo), Packet.rtxDecode, if_pos htwo]
    exact yields_value h
  obtain ⟨_, hdecode, mem', rfl, hr, hbody⟩ :=
    @RtpPacket.yields_rtxDecode mem packet payloadType.toNat ssrc.toNat h.layout
      (h.payloadLength ▸ not_lt.mp htwo)
  have hsize := h.layout.size
  have hle := h.layout.size_le
  have hlen := h.payloadLength
  rw [Packet.rtxDecode, if_neg htwo]
  refine ⟨_, hdecode, h.layout.rewritten hr (by omega), hlt, ?_, ?_,
    h.timestamp.of_agreeOn hr.timestamp le_rfl le_rfl, hr.ssrc, h.headerSize, ?_, ?_, rfl⟩
  · exact hr.payloadType.trans (h.second ▸ secondByte_rewritten h.payloadType_lt hlt)
  · rw [toBe16_be16]
    have hnumber := hr.sequenceNumber
    rwa [← Nat.add_zero packet.payload, h.payload 0 (by omega), Nat.add_zero,
      h.payload 1 (by omega)] at hnumber
  · exact (congrArg (· - 2) hlen).trans (length_drop ..).symm
  · intro k hk
    replace hk : k < p.payload.length - 2 := by rwa [length_drop] at hk
    show byteAt mem' (packet.payload + k) = byteAt (p.payload.drop 2) k
    rw [hbody k (by omega), Nat.add_assoc, h.payload (2 + k) (by omega), byteAt, byteAt,
      List.getElem?_drop]

end

end RtpStreamSend

end Mediasoup
