/-
The serializers of sender reports, receiver reports, source descriptions and extended
reports (`RTC::RTCP::SenderReportPacket`, `ReceiverReportPacket`, `SdesPacket`,
`ExtendedReportPacket`).

The first three write one RTCP packet after the other, each with as many entries as it can
hold, and rewrite the count and the length in the header of the current packet after every
entry.

* `PacketLoop`, `PacketLoop.write` — this loop, and what the three differ in.
* `PacketLoop.write_eq` — what it writes is, for each group of entries, one packet with the
  header that belongs to the group.
-/
import Mathlib.Algebra.GroupWithZero.Nat
import Mathlib.Tactic.IntervalCases
import Mediasoup.Lib.Groups
import Mediasoup.Rtcp.Reports

open List Bytes Groups

namespace Mediasoup

namespace Rtcp

namespace Compound

/-! ### What is serialized -/

/-- A sender or a receiver report: its header, which holds all of its fields. -/
structure Report where
  header : List UInt8
  length_header : header.length = 24

structure SdesItem where
  type : UInt8
  value : List UInt8
  length_value : value.length ≤ 255

structure SdesChunk where
  ssrc : UInt32
  items : List SdesItem

structure SsrcInfo where
  body : List UInt8
  length_body : body.length = 12

/-- `ReceiverReferenceTime` with its body, or `DelaySinceLastRr`. -/
inductive ExtendedReportBlock where
  | receiverReferenceTime (ntpSec ntpFrac : UInt32)
  | delaySinceLastRr (ssrcInfos : List SsrcInfo)

namespace SdesItem

def serialize (item : SdesItem) : List UInt8 :=
  item.type :: UInt8.ofNat item.value.length :: item.value

def getSize (item : SdesItem) : ℕ := 2 + item.value.length

theorem length_serialize (item : SdesItem) : item.serialize.length = item.getSize := by
  show item.value.length + 1 + 1 = 2 + item.value.length
  omega

end SdesItem

namespace SdesChunk

/-- The SSRC, the items and the mandatory null octet. -/
def content (chunk : SdesChunk) : List UInt8 :=
  toBe32 chunk.ssrc.toNat ++ chunk.items.flatMap SdesItem.serialize ++ [0]

/-- `(-offset) & 3`. -/
def padding (offset : ℕ) : ℕ := (4 - offset % 4) % 4

def serialize (chunk : SdesChunk) : List UInt8 :=
  chunk.content ++ List.replicate (padding chunk.content.length) 0

def getSize (chunk : SdesChunk) : ℕ :=
  padTo4Bytes (4 + (chunk.items.map SdesItem.getSize).sum + 1)

theorem length_content (chunk : SdesChunk) :
    chunk.content.length = 4 + (chunk.items.map SdesItem.getSize).sum + 1 := by
  have hitems : (fun item => (SdesItem.serialize item).length) = SdesItem.getSize :=
    funext SdesItem.length_serialize
  rw [content, length_append, length_append, length_flatMap, hitems]
  rfl

theorem length_serialize (chunk : SdesChunk) : chunk.serialize.length = chunk.getSize := by
  rw [serialize, length_append, length_replicate, length_content, getSize,
    padTo4Bytes, padding]
  omega

theorem getSize_pos (chunk : SdesChunk) : 0 < chunk.getSize := by
  rw [getSize, padTo4Bytes]
  omega

end SdesChunk

namespace ExtendedReportBlock

def serialize : ExtendedReportBlock → List UInt8
  | receiverReferenceTime ntpSec ntpFrac =>
    [4, 0] ++ toBe16 2 ++ toBe32 ntpSec.toNat ++ toBe32 ntpFrac.toNat
  | delaySinceLastRr ssrcInfos =>
    [5, 0] ++ toBe16 (12 * ssrcInfos.length / 4) ++ ssrcInfos.flatMap SsrcInfo.body

def getSize : ExtendedReportBlock → ℕ
  | receiverReferenceTime _ _ => 4 + 8
  | delaySinceLastRr ssrcInfos => 4 + (ssrcInfos.map fun _ => 12).sum

theorem length_serialize (block : ExtendedReportBlock) :
    block.serialize.length = block.getSize := by
  cases block with
  | receiverReferenceTime ntpSec ntpFrac => rfl
  | delaySinceLastRr ssrcInfos =>
    have hbodies : (fun info => (SsrcInfo.body info).length) = fun _ => 12 :=
      funext SsrcInfo.length_body
    rw [serialize, length_append, length_flatMap, hbodies]
    rfl

end ExtendedReportBlock

/-! ### Headers -/

/-- `Packet::Serialize`: a common header for the announced count and size. -/
def packetHeader (type : UInt8) (count size : ℕ) : List UInt8 :=
  (0x80 ||| UInt8.ofNat (count % 32)) :: type :: toBe16 (size / 4 - 1)

/-- Adjust the count field of the header at `header`. -/
def setCount (bytes : List UInt8) (header count : ℕ) : List UInt8 :=
  bytes.modify header fun byte => byte &&& 0xE0 ||| UInt8.ofNat (count % 32)

/-- Adjust the length field of the header at `header`, in 32-bit words minus one. -/
def setLength (bytes : List UInt8) (header length : ℕ) : List UInt8 :=
  (bytes.set (header + 2) (UInt8.ofNat ((length / 4 - 1) / 256))).set (header + 3)
    (UInt8.ofNat (length / 4 - 1))

/-! ### The loop over the entries -/

/-- What the loops of the three packets differ in.  `getCount`, `getSize` and `ssrc` are
written where a packet starts; `count` and `length` are announced after an entry, given its
place in its packet, the length before and the entry. -/
structure PacketLoop (α : Type) where
  max : ℕ
  type : UInt8
  getCount : ℕ
  getSize : ℕ
  ssrc : List UInt8
  entry : α → List UInt8
  count : ℕ → ℕ
  length : ℕ → ℕ → α → ℕ

/-- The bytes written, the position of the current header and the length it announces. -/
structure Writer where
  bytes : List UInt8
  header : ℕ
  length : ℕ

namespace PacketLoop

variable {α : Type} (loop : PacketLoop α)

def opening : List UInt8 := packetHeader loop.type loop.getCount loop.getSize ++ loop.ssrc

/-- Start a new packet for each `max` entries. -/
def openPacket (i : ℕ) (w : Writer) : Writer :=
  if i % loop.max = 0 then { w with bytes := w.bytes ++ loop.opening, header := w.bytes.length }
  else w

def writeEntry (i : ℕ) (a : α) (w : Writer) : Writer :=
  let w := loop.openPacket i w
  let bytes := w.bytes ++ loop.entry a
  let bytes := setCount bytes w.header (loop.count (i % loop.max))
  let length := loop.length (i % loop.max) w.length a
  { w with bytes := setLength bytes w.header length, length := length }

def writeFrom : ℕ → List α → Writer → Writer
  | _, [], w => w
  | i, a :: rest, w => writeFrom (i + 1) rest (loop.writeEntry i a w)

def write (entries : List α) : List UInt8 := (loop.writeFrom 0 entries ⟨[], 0, 0⟩).bytes

end PacketLoop

/-! ### The packets -/

def SenderReportPacket.getSize (reports : List Report) : ℕ :=
  (reports.map fun _ => commonHeaderSize + 24).sum

/-- One packet for each report, with no report blocks. -/
def SenderReportPacket.loop (reports : List Report) : PacketLoop Report where
  max := 1
  type := 200
  getCount := reports.length
  getSize := SenderReportPacket.getSize reports
  ssrc := []
  entry := Report.header
  count _ := 0
  length _ _ _ := commonHeaderSize + 24

def SenderReportPacket.serialize (reports : List Report) : List UInt8 :=
  (SenderReportPacket.loop reports).write reports

/-- `MaxReportsPerPacket` and `MaxChunksPerPacket`. -/
def maxPerPacket : ℕ := 31

def ReceiverReportPacket.getSize (reports : List Report) : ℕ :=
  (commonHeaderSize + 4) * (reports.length / maxPerPacket + 1) + 24 * reports.length

def ReceiverReportPacket.loop (ssrc : UInt32) (reports : List Report) : PacketLoop Report where
  max := maxPerPacket
  type := 201
  getCount := reports.length
  getSize := ReceiverReportPacket.getSize reports
  ssrc := toBe32 ssrc.toNat
  entry := Report.header
  count place := place + 1
  length place _ _ := commonHeaderSize + 4 + 24 * (place + 1)

def ReceiverReportPacket.serialize (ssrc : UInt32) (reports : List Report) : List UInt8 :=
  (ReceiverReportPacket.loop ssrc reports).write reports

def SdesPacket.getSize (chunks : List SdesChunk) : ℕ :=
  commonHeaderSize * (chunks.length / maxPerPacket + 1) + (chunks.map SdesChunk.getSize).sum

def SdesPacket.loop (chunks : List SdesChunk) : PacketLoop SdesChunk where
  max := maxPerPacket
  type := 202
  getCount := chunks.length
  getSize := SdesPacket.getSize chunks
  ssrc := []
  entry := SdesChunk.serialize
  count place := place + 1
  length place length chunk :=
    (if place = 0 then commonHeaderSize else length) + chunk.serialize.length

def SdesPacket.serialize (chunks : List SdesChunk) : List UInt8 :=
  (SdesPacket.loop chunks).write chunks

def ExtendedReportPacket.getSize (reports : List ExtendedReportBlock) : ℕ :=
  commonHeaderSize + 4 + (reports.map ExtendedReportBlock.getSize).sum

def ExtendedReportPacket.serialize (ssrc : UInt32) (reports : List ExtendedReportBlock) :
    List UInt8 :=
  packetHeader 207 0 (ExtendedReportPacket.getSize reports) ++ toBe32 ssrc.toNat ++
    reports.flatMap ExtendedReportBlock.serialize

/-! ### What the loop writes -/

theorem length_packetHeader (type : UInt8) (count size : ℕ) :
    (packetHeader type count size).length = commonHeaderSize := rfl

variable {count : ℕ} {done tail : List UInt8}

theorem setCount_append (byte : UInt8) : setCount (done ++ byte :: tail) done.length count =
      done ++ (byte &&& 0xE0 ||| UInt8.ofNat (count % 32)) :: tail := by
  rw [setCount, modify_eq_take_drop, take_left, drop_left]
  rfl

theorem setLength_append (a b c d : UInt8) (length : ℕ) :
    setLength (done ++ a :: b :: c :: d :: tail) done.length length =
      done ++ a :: b :: (toBe16 (length / 4 - 1) ++ tail) := by
  rw [setLength, set_append_right _ _ (Nat.le_add_right _ _), Nat.add_sub_cancel_left,
    set_append_right _ _ (Nat.le_add_right _ _), Nat.add_sub_cancel_left]
  rfl

theorem version_of_count : (0x80 ||| UInt8.ofNat (count % 32) : UInt8) &&& 0xE0 = 0x80 := by
  have hlt : count % 32 < 32 := Nat.mod_lt _ (by decide)
  generalize count % 32 = n at hlt
  interval_cases n <;> decide

/-- **A header is rewritten.** -/
theorem announce_append (type : UInt8) (count size newCount newSize : ℕ) :
    setLength (setCount (done ++ (packetHeader type count size ++ tail)) done.length newCount)
        done.length newSize =
      done ++ (packetHeader type newCount newSize ++ tail) := by
  show setLength (setCount (done ++ _ :: _ :: _ :: _ :: tail) done.length newCount)
    done.length newSize = _
  rw [setCount_append, setLength_append, version_of_count]
  rfl

namespace PacketLoop

variable {α : Type} (loop : PacketLoop α)

def size (g : List α) : ℕ :=
  commonHeaderSize + loop.ssrc.length + (g.map fun a => (loop.entry a).length).sum

def packet (g : List α) : List UInt8 :=
  packetHeader loop.type (loop.count (g.length - 1)) (loop.size g) ++
    (loop.ssrc ++ g.flatMap loop.entry)

theorem length_packet (g : List α) : (loop.packet g).length = loop.size g := by
  rw [packet, length_append, length_append, length_flatMap, length_packetHeader,
    size, Nat.add_assoc]

/-- The length that the loop announces is that of the packet. -/
structure Measures : Prop where
  max_pos : 0 < loop.max
  first : ∀ length a, loop.length 0 length a = loop.size [a]
  next : ∀ g a, g ≠ [] → g.length < loop.max →
    loop.length g.length (loop.size g) a = loop.size (g ++ [a])

/-- The writer has finished the packets in `done` and is in the packet of the group. -/
structure Writing (done : List UInt8) (g : List α) (w : Writer) : Prop where
  bytes : w.bytes = done ++ loop.packet g
  header : w.header = done.length
  length : w.length = loop.size g

variable {loop}

section

variable (h : loop.Measures)
include h

variable {i : ℕ}

theorem writeEntry_opens (hi : i % loop.max = 0) (a : α)
    (w : Writer) : loop.Writing w.bytes [a] (loop.writeEntry i a w) := by
  have hopened : loop.openPacket i w =
      { w with bytes := w.bytes ++ loop.opening, header := w.bytes.length } := by
    rw [openPacket, if_pos hi]
  refine ⟨?_, ?_, ?_⟩
  · rw [writeEntry, hopened, hi, h.first]
    show setLength (setCount (w.bytes ++ (packetHeader _ _ _ ++ loop.ssrc) ++ loop.entry a)
      w.bytes.length _) w.bytes.length _ = _
    rw [append_assoc w.bytes, append_assoc, announce_append, packet,
      flatMap_singleton]
    rfl
  · rw [writeEntry, hopened]
  · rw [writeEntry, hopened, hi, h.first]

theorem Writing.writeEntry {done : List UInt8} {g : List α} {w : Writer}
    (hw : loop.Writing done g w) (hg : g ≠ []) (hi : i % loop.max = g.length) (a : α) :
    loop.Writing done (g ++ [a]) (loop.writeEntry i a w) := by
  have hpos : g.length ≠ 0 := fun hzero => hg (length_eq_zero_iff.mp hzero)
  have hsame : loop.openPacket i w = w := by
    rw [openPacket, if_neg (by rw [hi]; exact hpos)]
  have hlength : loop.length (i % loop.max) w.length a = loop.size (g ++ [a]) := by
    rw [hi, hw.length, h.next g a hg (hi ▸ Nat.mod_lt i h.max_pos)]
  have hcount : (g ++ [a]).length - 1 = i % loop.max := by
    rw [length_append, hi]
    rfl
  refine ⟨?_, ?_, ?_⟩
  · show setLength (setCount ((loop.openPacket i w).bytes ++ loop.entry a) _ _) _
      (loop.length _ (loop.openPacket i w).length a) = _
    rw [hsame, hlength, hw.bytes, hw.header, packet, append_assoc, append_assoc,
      announce_append, packet, hcount, append_assoc, flatMap_append,
      flatMap_singleton]
  · rw [PacketLoop.writeEntry, hsame]
    exact hw.header
  · show loop.length _ (loop.openPacket i w).length a = _
    rw [hsame, hlength]

theorem writeFrom_eq (entries : List α) {done : List UInt8} {g : List α}
    {w : Writer} (hw : loop.Writing done g w) (hg : g ≠ []) (hmax : g.length ≤ loop.max)
    (hi : i % loop.max = g.length % loop.max) :
    (loop.writeFrom i entries w).bytes =
      done ++ (groupsFrom loop.max g entries).flatMap loop.packet := by
  induction entries generalizing done g w i with
  | nil =>
    rw [writeFrom, hw.bytes, groupsFrom, if_neg (by simpa using hg), flatMap_singleton]
  | cons a rest ih =>
    rw [writeFrom, groupsFrom]
    by_cases hfull : g.length = loop.max
    · -- the packet is full, so a new one is opened behind it
      have hzero : i % loop.max = 0 := by rw [hi, hfull, Nat.mod_self]
      have hnext : (i + 1) % loop.max = [a].length % loop.max := by
        rw [← Nat.mod_add_mod, hzero]
        rfl
      rw [if_pos hfull, ih (writeEntry_opens h hzero a w) (by simp) h.max_pos hnext,
        hw.bytes, flatMap_cons, append_assoc]
    · have hplace : i % loop.max = g.length := by
        rw [hi]
        exact Nat.mod_eq_of_lt (by omega)
      have hlength : (g ++ [a]).length = g.length + 1 := length_append
      have hnext : (i + 1) % loop.max = (g ++ [a]).length % loop.max := by
        rw [← Nat.mod_add_mod, hplace, hlength]
      rw [if_neg hfull, ih (hw.writeEntry h hg hplace a) (by simp) (by omega) hnext]

/-- **One packet for each group of entries.** -/
theorem write_eq (entries : List α) :
    loop.write entries = (groups loop.max entries).flatMap loop.packet := by
  cases entries with
  | nil => rfl
  | cons a rest =>
    have hopened := writeEntry_opens h (Nat.zero_mod _) a ⟨[], 0, 0⟩
    have hne : ¬([] : List α).length = loop.max := Nat.ne_of_lt h.max_pos
    have hrest := writeFrom_eq h rest hopened (by simp) h.max_pos (i := 1) rfl
    rw [groups, groupsFrom, if_neg hne]
    exact hrest

theorem length_write (entries : List α) : (loop.write entries).length =
      (commonHeaderSize + loop.ssrc.length) * ((entries.length + (loop.max - 1)) / loop.max) +
        (entries.map fun a => (loop.entry a).length).sum := by
  have hsum : ∀ gs : List (List α), (gs.flatMap loop.packet).length =
      (commonHeaderSize + loop.ssrc.length) * gs.length +
        (gs.flatten.map fun a => (loop.entry a).length).sum := by
    intro gs
    induction gs with
    | nil => rfl
    | cons g gs ih =>
      rw [flatMap_cons, length_append, ih, length_packet, size, flatten_cons,
        map_append, sum_append, length_cons, Nat.mul_succ]
      omega
  rw [write_eq h, hsum, flatten_groups, length_groups h.max_pos]

end

end PacketLoop

/-! ### The three loops -/

theorem sum_reports (reports : List Report) :
    (reports.map fun report => report.header.length).sum = 24 * reports.length := by
  have hentries : (fun report : Report => report.header.length) = fun _ => 24 :=
    funext Report.length_header
  rw [hentries, map_const', sum_replicate_nat, Nat.mul_comm]

theorem SenderReportPacket.measures (reports : List Report) :
    (SenderReportPacket.loop reports).Measures := by
  refine ⟨Nat.one_pos, ?_, ?_⟩
  · intro length a
    show commonHeaderSize + 24 = commonHeaderSize + 0 + ([a].map fun r => r.header.length).sum
    rw [sum_reports]
    rfl
  · intro g a hg hlt
    -- a packet holds one report
    exact absurd (length_pos_iff.mpr hg) (Nat.not_lt.mpr (Nat.le_of_lt_succ hlt))

theorem ReceiverReportPacket.measures (ssrc : UInt32) (reports : List Report) :
    (ReceiverReportPacket.loop ssrc reports).Measures := by
  have hsize (g : List Report) :
      (ReceiverReportPacket.loop ssrc reports).size g = 8 + 24 * g.length := by
    show 4 + 4 + (g.map fun r => r.header.length).sum = _
    rw [sum_reports]
  refine ⟨Nat.succ_pos _, ?_, ?_⟩
  · intro length a
    rw [hsize]
    rfl
  · intro g a hg hlt
    rw [hsize (g ++ [a]), length_append]
    rfl

theorem SdesPacket.measures (chunks : List SdesChunk) : (SdesPacket.loop chunks).Measures := by
  refine ⟨Nat.succ_pos _, ?_, ?_⟩
  · intro length a
    rfl
  · intro g a hg hlt
    have hpos : g.length ≠ 0 := fun hzero => hg (length_eq_zero_iff.mp hzero)
    show (if g.length = 0 then _ else _) + a.serialize.length = _
    rw [if_neg hpos, PacketLoop.size, PacketLoop.size, map_append, sum_append,
      Nat.add_assoc]
    rfl

theorem ExtendedReportPacket.length_serialize (ssrc : UInt32) (reports : List ExtendedReportBlock) :
    (ExtendedReportPacket.serialize ssrc reports).length =
      ExtendedReportPacket.getSize reports := by
  have hblocks : (fun block => (ExtendedReportBlock.serialize block).length) =
      ExtendedReportBlock.getSize := funext ExtendedReportBlock.length_serialize
  rw [ExtendedReportPacket.serialize, length_append, length_flatMap, hblocks]
  rfl

end Compound

end Rtcp

end Mediasoup
