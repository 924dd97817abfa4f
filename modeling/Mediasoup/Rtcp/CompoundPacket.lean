/-
The compound packets that a transport sends (`RTC::RTCP::CompoundPacket`).

A transport adds the reports of its consumers and producers as long as the announced size
stays within `MaxSize`, serializes the packet into a buffer and sends as many bytes of the
buffer as the announced size.

* `CompoundPacket.add` — the overloads of `Add`, which take back what does not fit.
* `length_serialize` — the announced size is larger than what is written by the headers of
  the RTCP packets that `GetSize` counts for a number of entries that is a multiple of 31.
* `serialize_getSize_iff` — when the two agree.
-/
import Mediasoup.Rtcp.Serialize

open List Bytes Groups

namespace Mediasoup

namespace Rtcp

namespace Compound

/-- A pointer to an object of the heap. -/
structure Pointer (α : Type) where
  address : ℕ
  object : α

/-- Erase the first pointer to this object. -/
def remove {α : Type} (pointers : List (Pointer α)) (pointer : Pointer α) : List (Pointer α) :=
  pointers.eraseP fun other => other.address = pointer.address

structure CompoundPacket where
  senderReports : List (Pointer Report) := []
  receiverReports : List (Pointer Report) := []
  sdesChunks : List (Pointer SdesChunk) := []
  xrReports : List (Pointer ExtendedReportBlock) := []

/-- What an overload of `Add` is given: for a consumer, for a consumer of a pipe, for a
producer. -/
inductive Addition where
  | consumer (senderReport : Option (Pointer Report)) (sdesChunk : Option (Pointer SdesChunk))
      (delaySinceLastRrReport : Option (Pointer ExtendedReportBlock))
  | pipeConsumer (senderReports : List (Pointer Report)) (sdesChunks : List (Pointer SdesChunk))
      (delaySinceLastRrReports : List (Pointer ExtendedReportBlock))
  | producer (receiverReports : List (Pointer Report))
      (receiverReferenceTimeReport : Option (Pointer ExtendedReportBlock))

namespace CompoundPacket

/-- `MtuSize` without the IPv6 and TCP headers and what SRTP adds. -/
def maxSize : ℕ := 1500 - 40 - 20 - 148

variable (p : CompoundPacket)

def getSize : ℕ :=
  (if p.senderReports = [] then 0
    else SenderReportPacket.getSize (p.senderReports.map Pointer.object)) +
  (if p.receiverReports = [] then 0
    else ReceiverReportPacket.getSize (p.receiverReports.map Pointer.object)) +
  (if p.sdesChunks = [] then 0 else SdesPacket.getSize (p.sdesChunks.map Pointer.object)) +
  (if p.xrReports = [] then 0 else ExtendedReportPacket.getSize (p.xrReports.map Pointer.object))

/-- The bytes written, or `none` if the assertion fails.  The SSRCs of the receiver report
packet and of the extended report packet are never set. -/
def serialize : Option (List UInt8) :=
  if p.senderReports = [] ∧ p.receiverReports = [] then none
  else some (
    (if p.senderReports = [] then []
      else SenderReportPacket.serialize (p.senderReports.map Pointer.object)) ++
    (if p.receiverReports = [] then []
      else ReceiverReportPacket.serialize 0 (p.receiverReports.map Pointer.object)) ++
    (if p.sdesChunks = [] then [] else SdesPacket.serialize (p.sdesChunks.map Pointer.object)) ++
    (if p.xrReports = [] then []
      else ExtendedReportPacket.serialize 0 (p.xrReports.map Pointer.object)))

/-- Add the items; if the packet is then too large, remove them again. -/
def addItems (senderReports receiverReports : List (Pointer Report))
    (sdesChunks : List (Pointer SdesChunk)) (xrReports : List (Pointer ExtendedReportBlock)) :
    CompoundPacket × Bool :=
  let p : CompoundPacket :=
    { senderReports := p.senderReports ++ senderReports
      receiverReports := p.receiverReports ++ receiverReports
      sdesChunks := p.sdesChunks ++ sdesChunks
      xrReports := p.xrReports ++ xrReports }
  if p.getSize ≤ maxSize then (p, true)
  else
    ({ senderReports := senderReports.foldl remove p.senderReports
       receiverReports := receiverReports.foldl remove p.receiverReports
       sdesChunks := sdesChunks.foldl remove p.sdesChunks
       xrReports := xrReports.foldl remove p.xrReports }, false)

def add : Addition → CompoundPacket × Bool
  | .consumer senderReport sdesChunk delaySinceLastRrReport =>
    p.addItems senderReport.toList [] sdesChunk.toList delaySinceLastRrReport.toList
  | .pipeConsumer senderReports sdesChunks delaySinceLastRrReports =>
    p.addItems senderReports [] sdesChunks delaySinceLastRrReports
  | .producer receiverReports receiverReferenceTimeReport =>
    p.addItems [] receiverReports [] receiverReferenceTimeReport.toList

/-- The packet after these additions. -/
def afterAdditions (additions : List Addition) : CompoundPacket :=
  additions.foldl (fun p addition => (p.add addition).1) {}

def HasReport : Prop := p.senderReports ≠ [] ∨ p.receiverReports ≠ []

/-! ### Announced and written sizes -/

theorem packets_add_surplus (n : ℕ) :
    (n + (maxPerPacket - 1)) / maxPerPacket + (if n % maxPerPacket = 0 then 1 else 0) =
      n / maxPerPacket + 1 := by
  rw [maxPerPacket]
  split_ifs <;> omega

theorem SenderReportPacket.length_serialize (reports : List Report) :
    (SenderReportPacket.serialize reports).length = SenderReportPacket.getSize reports := by
  rw [SenderReportPacket.serialize, PacketLoop.length_write (SenderReportPacket.measures reports),
    SenderReportPacket.getSize, map_const', sum_replicate_nat]
  show (4 + 0) * ((reports.length + 0) / 1) + (reports.map fun r => r.header.length).sum =
    reports.length * (4 + 24)
  rw [sum_reports, Nat.div_one]
  omega

theorem ReceiverReportPacket.length_serialize (ssrc : UInt32) (reports : List Report) :
    (ReceiverReportPacket.serialize ssrc reports).length +
        (if reports.length % maxPerPacket = 0 then 8 else 0) =
      ReceiverReportPacket.getSize reports := by
  have hpackets := packets_add_surplus reports.length
  rw [ReceiverReportPacket.serialize,
    PacketLoop.length_write (ReceiverReportPacket.measures ssrc reports),
    ReceiverReportPacket.getSize, ← hpackets]
  show (4 + 4) * ((reports.length + (maxPerPacket - 1)) / maxPerPacket) +
    (reports.map fun r => r.header.length).sum + _ = (4 + 4) * _ + 24 * reports.length
  rw [sum_reports]
  split_ifs <;> omega

theorem SdesPacket.length_serialize (chunks : List SdesChunk) :
    (SdesPacket.serialize chunks).length +
        (if chunks.length % maxPerPacket = 0 then 4 else 0) = SdesPacket.getSize chunks := by
  have hpackets := packets_add_surplus chunks.length
  have hchunks : (fun chunk => (SdesChunk.serialize chunk).length) = SdesChunk.getSize :=
    funext SdesChunk.length_serialize
  rw [SdesPacket.serialize, PacketLoop.length_write (SdesPacket.measures chunks),
    SdesPacket.getSize, ← hpackets]
  show (4 + 0) * ((chunks.length + (maxPerPacket - 1)) / maxPerPacket) +
    (chunks.map fun chunk => chunk.serialize.length).sum + _ = 4 * _ + _
  rw [hchunks]
  split_ifs <;> omega

/-- The headers that `GetSize` counts for a packet that is never opened. -/
def surplus {α : Type} (entries : List α) (size : ℕ) : ℕ :=
  if entries ≠ [] ∧ entries.length % maxPerPacket = 0 then size else 0

theorem length_part {α : Type} (entries : List α) {bytes : List UInt8} {size extra : ℕ}
    (h : bytes.length + (if entries.length % maxPerPacket = 0 then extra else 0) = size) :
    (if entries = [] then [] else bytes).length + surplus entries extra =
      if entries = [] then 0 else size := by
  by_cases hnil : entries = []
  · simp [hnil, surplus]
  · rw [if_neg hnil, if_neg hnil, ← h, surplus]
    simp [hnil]

/-- **The announced size.**  A multiple of 31 receiver reports adds 8 bytes to it, and one
of 31 chunks 4 bytes. -/
theorem length_serialize {p : CompoundPacket} (h : p.HasReport) :
    ∃ bytes, p.serialize = some bytes ∧
      bytes.length + surplus p.receiverReports 8 + surplus p.sdesChunks 4 = p.getSize := by
  have hassert : ¬(p.senderReports = [] ∧ p.receiverReports = []) := by
    rintro ⟨hsender, hreceiver⟩
    exact h.elim (· hsender) (· hreceiver)
  refine ⟨_, if_neg hassert, ?_⟩
  have hplain {α : Type} (entries : List α) {bytes : List UInt8} {size : ℕ}
      (hsize : bytes.length = size) :
      bytes.length + (if entries.length % maxPerPacket = 0 then 0 else 0) = size := by
    rw [ite_self, Nat.add_zero, hsize]
  have hsender := length_part p.senderReports (hplain p.senderReports
    (SenderReportPacket.length_serialize (p.senderReports.map Pointer.object)))
  have hreceiver := ReceiverReportPacket.length_serialize 0 (p.receiverReports.map Pointer.object)
  have hsdes := SdesPacket.length_serialize (p.sdesChunks.map Pointer.object)
  have hxr := length_part p.xrReports (hplain p.xrReports
    (ExtendedReportPacket.length_serialize 0 (p.xrReports.map Pointer.object)))
  rw [length_map] at hreceiver hsdes
  have hzero {α : Type} (entries : List α) : surplus entries 0 = 0 := ite_self 0
  rw [getSize, ← hsender, ← length_part _ hreceiver, ← length_part _ hsdes, ← hxr, hzero, hzero,
    length_append, length_append, length_append]
  omega

/-- The last RTCP packet for these entries has room for another one. -/
def EndsInsidePacket {α : Type} (entries : List α) : Prop :=
  entries = [] ∨ entries.length % maxPerPacket ≠ 0

theorem surplus_eq_zero {α : Type} {entries : List α} {size : ℕ} (hsize : size ≠ 0) :
    surplus entries size = 0 ↔ EndsInsidePacket entries := by
  rw [surplus, EndsInsidePacket]
  by_cases hnil : entries = []
  · simp [hnil]
  · simp [hnil, hsize]

/-- **Written and announced size agree** exactly when neither the receiver reports nor the
chunks fill their last RTCP packet. -/
theorem serialize_getSize_iff (additions : List Addition)
    (h : (afterAdditions additions).HasReport) :
    (∃ bytes, (afterAdditions additions).serialize = some bytes ∧
      bytes.length = (afterAdditions additions).getSize) ↔
      EndsInsidePacket (afterAdditions additions).receiverReports ∧
        EndsInsidePacket (afterAdditions additions).sdesChunks := by
  obtain ⟨bytes, hbytes, hlength⟩ := length_serialize h
  rw [← @surplus_eq_zero _ _ 8 (by decide), ← @surplus_eq_zero _ _ 4 (by decide)]
  constructor
  · rintro ⟨bytes', hbytes', hsame⟩
    obtain rfl : bytes = bytes' := Option.some.inj (hbytes.symm.trans hbytes')
    omega
  · rintro ⟨hreceiver, hsdes⟩
    exact ⟨bytes, hbytes, by omega⟩

/-- The receiver reports of a producer with this many streams. -/
def blankReports (count : ℕ) : List (Pointer Report) :=
  (List.range count).map fun i => ⟨i, List.replicate 24 0, rfl⟩

theorem serialize_two_reports :
    ∃ bytes, (afterAdditions [.producer (blankReports 2) none]).serialize = some bytes ∧
      bytes.length = (afterAdditions [.producer (blankReports 2) none]).getSize :=
  (serialize_getSize_iff [.producer (blankReports 2) none] (.inr (by decide +kernel))).mpr
    ⟨.inr (by decide +kernel), .inl rfl⟩

/-- For 31 reports 760 bytes are announced and 752 are written. -/
theorem serialize_full_packet : (afterAdditions [.producer (blankReports 31) none]).HasReport ∧
      (afterAdditions [.producer (blankReports 31) none]).getSize = 760 ∧
      (afterAdditions [.producer (blankReports 31) none]).serialize.map List.length = some 752 := by
  refine ⟨.inr ?_, ?_, ?_⟩ <;> decide +kernel

end CompoundPacket

end Compound

end Rtcp

end Mediasoup
