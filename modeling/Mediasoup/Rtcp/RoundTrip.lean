/-
Serialized reports and source descriptions are parsed back.

The parser gets the packets for sender reports, for receiver reports and for chunks one
after the other, as the serializers write them.

* `Contents`, `contents` — what the returned packets say of their reports and chunks, read
  from the bytes that they point to.
* `Parses` — the walk over the sub-packets goes on behind these bytes, with packets of this
  contents.
* `parse_serialize` — the whole walk returns the original reports and chunks.

The length of an RTCP packet is a 16-bit number of words, so a packet with chunks has to
stay within `maxLength` bytes.

A bitrate estimation (`roundTrip`) comes back rounded down to a mantissa of 18 bits.
-/
import Mathlib.Algebra.BigOperators.Ring.List
import Mathlib.Algebra.GroupWithZero.Nat
import Mediasoup.Lib.Slices
import Mediasoup.Rtcp.Packet
import Mediasoup.Rtcp.Serialize

open List Bytes Checked Groups Slices

namespace Mediasoup

open Rtcp.SdesChunk

namespace Rtcp

namespace Compound

/-! ### What the returned packets say -/

/-- The sender reports, the receiver reports with the SSRC of their packet, and the chunks
as their SSRC and their items, each a type and a value. -/
structure Contents where
  senderReports : List (List UInt8) := []
  receiverReports : List (ℕ × List UInt8) := []
  sdesChunks : List (ℕ × List (UInt8 × List UInt8)) := []

namespace Contents

def append (a b : Contents) : Contents :=
  ⟨a.senderReports ++ b.senderReports, a.receiverReports ++ b.receiverReports,
    a.sdesChunks ++ b.sdesChunks⟩

theorem append_assoc (a b c : Contents) : (a.append b).append c = a.append (b.append c) := by
  simp only [append, List.append_assoc]

theorem append_empty (a : Contents) : a.append {} = a := by
  simp only [append, append_nil]

end Contents

/-- `GetType`, `GetLength` and `GetValue` of an item. -/
def itemFields (buf : List UInt8) (item : Extent) : UInt8 × List UInt8 :=
  (byteAt buf item.start, slice buf ⟨item.start + 2, (byteAt buf (item.start + 1)).toNat⟩)

def chunkFields (buf : List UInt8) (chunk : Rtcp.SdesChunk) : ℕ × List (UInt8 × List UInt8) :=
  (chunk.ssrc.value, chunk.items.map (itemFields buf))

def bodyContents (buf : List UInt8) : Body → Contents
  | .senderReport reports => { senderReports := reports.map (slice buf) }
  | .receiverReport packet =>
    { receiverReports := packet.reports.map fun report => (packet.ssrc.value, slice buf report) }
  | .sdes chunks => { sdesChunks := chunks.map (chunkFields buf) }
  | _ => {}

def contents (buf : List UInt8) (packets : List Packet) : Contents :=
  packets.foldr (fun packet rest => (bodyContents buf packet.body).append rest) {}

theorem contents_append (buf : List UInt8) (packets packets' : List Packet) :
    contents buf (packets ++ packets') = (contents buf packets).append (contents buf packets') := by
  induction packets with
  | nil => rfl
  | cons packet packets ih =>
    show (bodyContents buf packet.body).append (contents buf (packets ++ packets')) = _
    rw [ih, ← Contents.append_assoc]
    rfl

/-! ### Items and chunks -/

variable {buf : List UInt8} {pos len : ℕ}
variable {chunks : List SdesChunk} {bytes : List UInt8} {reports : List Report}

theorem byteAt_of_holds {x : UInt8} (h : Holds buf pos (x :: bytes)) : byteAt buf pos = x := by
  rw [byteAt, read_eq_value.mp h.read, Option.getD_some]

theorem toNat_length (item : SdesItem) :
    (UInt8.ofNat item.value.length).toNat = item.value.length := by
  rw [UInt8.toNat_ofNat']
  exact Nat.mod_eq_of_lt (Nat.lt_succ_of_le item.length_value)

theorem parse_sdesItem {item : SdesItem} (h : Holds buf pos item.serialize) (htype : item.type ≠ 0)
    (hlen : item.getSize ≤ len) :
    Rtcp.SdesItem.parse buf pos len = value (some ⟨pos, item.getSize⟩) := by
  have hroom : 2 + item.value.length ≤ len := hlen
  obtain ⟨htypeAt, hrest⟩ := holds_cons.mp h
  rw [Rtcp.SdesItem.parse, htypeAt.read, value_bind, if_neg htype, if_neg (by omega), hrest.read,
    value_bind, toNat_length, if_neg (by omega)]
  rfl

theorem parse_sdesItem_end (h : Holds buf pos (0 :: bytes)) :
    Rtcp.SdesItem.parse buf pos len = value none := by
  rw [Rtcp.SdesItem.parse, h.read]
  rfl

def itemExtents : ℕ → List SdesItem → List Extent
  | _, [] => []
  | pos, item :: items => ⟨pos, item.getSize⟩ :: itemExtents (pos + item.getSize) items

theorem sum_itemExtents (items : List SdesItem) :
    ((itemExtents pos items).map Extent.size).sum = (items.map SdesItem.getSize).sum := by
  induction items generalizing pos with
  | nil => rfl
  | cons item items ih => rw [itemExtents, map_cons, sum_cons, ih]; rfl

theorem itemFields_itemExtents {items : List SdesItem}
    (h : Holds buf pos (items.flatMap SdesItem.serialize ++ bytes)) :
    (itemExtents pos items).map (itemFields buf) = items.map fun i => (i.type, i.value) := by
  induction items generalizing pos with
  | nil => rfl
  | cons item items ih =>
    rw [flatMap_cons, append_assoc] at h
    obtain ⟨hitem, hitems⟩ := holds_append.mp h
    rw [SdesItem.length_serialize] at hitems
    obtain ⟨htype, hrest⟩ := holds_cons.mp hitem
    obtain ⟨hlength, hvalue⟩ := holds_cons.mp hrest
    rw [itemExtents, map_cons, ih hitems, itemFields, byteAt_of_holds htype,
      byteAt_of_holds hlength, toNat_length, hvalue.slice]
    rfl

theorem parseItems_serialize {items : List SdesItem} {bytes : List UInt8} {offset fuel : ℕ}
    (h : Holds buf (pos + offset) (items.flatMap SdesItem.serialize ++ 0 :: bytes))
    (htypes : ∀ item ∈ items, item.type ≠ 0)
    (hlen : offset + (items.map SdesItem.getSize).sum < len) (hfuel : len < fuel + offset) :
    parseItems buf pos len fuel offset =
      value (itemExtents (pos + offset) items, offset + (items.map SdesItem.getSize).sum) := by
  induction items generalizing offset fuel with
  | nil =>
    obtain ⟨fuel, rfl⟩ : ∃ fuel', fuel = fuel' + 1 := ⟨fuel - 1, by omega⟩
    have hlt : offset < len := hlen
    rw [parseItems, if_pos hlt, parse_sdesItem_end h]
    rfl
  | cons item items ih =>
    obtain ⟨fuel, rfl⟩ : ∃ fuel', fuel = fuel' + 1 := ⟨fuel - 1, by omega⟩
    rw [flatMap_cons, append_assoc] at h
    obtain ⟨hitem, hitems⟩ := holds_append.mp h
    rw [SdesItem.length_serialize, Nat.add_assoc] at hitems
    rw [map_cons, sum_cons] at hlen ⊢
    have hsize : 2 ≤ item.getSize := Nat.le_add_right _ _
    have hrest := @ih (offset + item.getSize) fuel hitems
      (fun i hi => htypes i (mem_cons_of_mem _ hi)) (by omega) (by omega)
    rw [parseItems, if_pos (by omega),
      parse_sdesItem hitem (htypes item mem_cons_self) (by omega), value_bind]
    show (parseItems buf pos len fuel (offset + item.getSize) >>= _) = _
    rw [hrest, value_bind, itemExtents, Nat.add_assoc, Nat.add_assoc]
    rfl

variable {offset : ℕ} {chunk : SdesChunk}

theorem parseNullOctets_replicate {needed offset : ℕ}
    (h : Holds buf (pos + offset) (List.replicate needed 0)) (hlen : offset + needed ≤ len) :
    parseNullOctets buf pos len needed offset = value () := by
  induction needed generalizing offset with
  | zero => rfl
  | succ needed ih =>
    obtain ⟨hoctet, hrest⟩ := holds_cons.mp h
    rw [parseNullOctets, require, if_pos (by omega), value_bind, hoctet.read,
      value_bind, require, if_pos rfl, value_bind]
    exact ih hrest (by omega)

/-- What is parsed from the bytes of a chunk at `pos`. -/
def chunkView (pos : ℕ) (chunk : SdesChunk) : Rtcp.SdesChunk where
  ssrc := ⟨⟨pos, 4⟩, chunk.ssrc.toNat⟩
  items := itemExtents (pos + 4) chunk.items

theorem getSize_chunkView : (chunkView pos chunk).getSize = chunk.getSize := by
  rw [getSize, chunkView, sum_itemExtents]
  rfl

theorem needed_eq_padding (n : ℕ) :
    (padTo4Bytes (n % 65536) - n % 65536) % 65536 = SdesChunk.padding n := by
  rw [padTo4Bytes, SdesChunk.padding]
  omega

theorem holds_chunk (h : Holds buf pos chunk.serialize) : Holds buf pos (toBe32 chunk.ssrc.toNat) ∧
      Holds buf (pos + 4) (chunk.items.flatMap SdesItem.serialize ++ [0]) ∧
      Holds buf (pos + chunk.content.length)
        (List.replicate (SdesChunk.padding chunk.content.length) 0) := by
  obtain ⟨hcontent, hpadding⟩ := holds_append.mp h
  rw [SdesChunk.content, append_assoc] at hcontent
  obtain ⟨hssrc, hitems⟩ := holds_append.mp hcontent
  exact ⟨hssrc, hitems, hpadding⟩

theorem readSsrc_of_holds {ssrc : UInt32} (h : Holds buf pos (toBe32 ssrc.toNat)) :
    readSsrc buf pos = value ⟨⟨pos, 4⟩, ssrc.toNat⟩ := by
  rw [readSsrc, h.readBe_four, value_bind, Nat.mod_eq_of_lt ssrc.toNat_lt]
  rfl

/-- **A chunk is parsed back.** -/
theorem parse_sdesChunk {chunk : SdesChunk} (h : Holds buf pos chunk.serialize)
    (htypes : ∀ item ∈ chunk.items, item.type ≠ 0) (hlen : chunk.getSize ≤ len) :
    parse buf pos len = value (chunkView pos chunk) := by
  obtain ⟨hssrc, hitems, hpadding⟩ := holds_chunk h
  have hcontent := chunk.length_content
  have hsize : chunk.content.length + SdesChunk.padding chunk.content.length ≤ len := by
    have hserialize := chunk.length_serialize
    rw [SdesChunk.serialize, length_append, length_replicate] at hserialize
    omega
  set total := (chunk.items.map SdesItem.getSize).sum with htotal
  have hparsed := @parseItems_serialize buf pos len chunk.items [] 4 (len + 1) hitems htypes
    (by omega) (by omega)
  -- behind the items stands the null octet, behind it the padding
  have hnull : Holds buf (pos + (4 + total)) [0] := by
    have hlength := (holds_append.mp hitems).2
    rw [length_flatMap, funext SdesItem.length_serialize, Nat.add_assoc] at hlength
    exact hlength
  have hmandatory : parseMandatoryNullOctet buf pos len (4 + total) =
      value () := by
    rw [parseMandatoryNullOctet, require, if_pos (by omega), value_bind,
      if_pos (by omega), hnull.read, value_bind, require, if_pos rfl]
  have hoctets := @parseNullOctets_replicate buf pos len _ _ hpadding hsize
  rw [parse, require, if_pos (by omega), value_bind, readSsrc_of_holds hssrc,
    value_bind, hparsed, value_bind]
  show (parseMandatoryNullOctet buf pos len (4 + total) >>= _) = _
  rw [hmandatory, value_bind, ← hcontent]
  show (parseNullOctets buf pos len ((padTo4Bytes (chunk.content.length % 65536) -
    chunk.content.length % 65536) % 65536) chunk.content.length >>= _) = _
  rw [needed_eq_padding, hoctets]
  rfl

/-- Where the chunks are when the first one is at `pos`. -/
def chunkViews : ℕ → List SdesChunk → List Rtcp.SdesChunk
  | _, [] => []
  | pos, chunk :: chunks => chunkView pos chunk :: chunkViews (pos + chunk.getSize) chunks

theorem length_chunkViews : (chunkViews pos chunks).length = chunks.length := by
  induction chunks generalizing pos with
  | nil => rfl
  | cons chunk chunks ih => rw [chunkViews, length_cons, ih, length_cons]

theorem chunkFields_chunkViews (h : Holds buf pos (chunks.flatMap SdesChunk.serialize)) :
    (chunkViews pos chunks).map (chunkFields buf) =
      chunks.map fun c => (c.ssrc.toNat, c.items.map fun i => (i.type, i.value)) := by
  induction chunks generalizing pos with
  | nil => rfl
  | cons chunk chunks ih =>
    obtain ⟨hchunk, hchunks⟩ := holds_append.mp (flatMap_cons ▸ h)
    rw [SdesChunk.length_serialize] at hchunks
    have hitems := itemFields_itemExtents (holds_chunk hchunk).2.1
    rw [chunkViews, map_cons, ih hchunks, chunkFields, chunkView, hitems]
    rfl

theorem parseChunks_serialize (h : Holds buf (pos + offset) (chunks.flatMap SdesChunk.serialize))
    (htypes : ∀ chunk ∈ chunks, ∀ item ∈ chunk.items, item.type ≠ 0)
    (hlen : offset + (chunks.map SdesChunk.getSize).sum ≤ len) :
    Rtcp.SdesPacket.parseChunks buf pos len chunks.length offset =
      value (chunkViews (pos + offset) chunks) := by
  induction chunks generalizing offset with
  | nil => rfl
  | cons chunk chunks ih =>
    obtain ⟨hchunk, hchunks⟩ := holds_append.mp (flatMap_cons ▸ h)
    rw [SdesChunk.length_serialize, Nat.add_assoc] at hchunks
    rw [map_cons, sum_cons] at hlen
    have hpos := chunk.getSize_pos
    have hparsed := @parse_sdesChunk buf _ (len - offset) _ hchunk
      (htypes chunk mem_cons_self) (by omega)
    have hrest := ih hchunks (fun c hc => htypes c (mem_cons_of_mem _ hc)) (by omega)
    rw [length_cons, Rtcp.SdesPacket.parseChunks, if_pos (by omega), hparsed]
    show (Rtcp.SdesPacket.parseChunks buf pos len chunks.length
      (offset + (chunkView (pos + offset) chunk).getSize) >>= _) = _
    rw [getSize_chunkView, hrest, value_bind, chunkViews, Nat.add_assoc]
    rfl

/-! ### Reports -/

/-- Where the reports are when the first one is at `pos`. -/
def reportExtents : ℕ → List Report → List Extent
  | _, [] => []
  | pos, _ :: reports => ⟨pos, 24⟩ :: reportExtents (pos + 24) reports

theorem slice_reportExtents (h : Holds buf pos (reports.flatMap Report.header)) :
    (reportExtents pos reports).map (slice buf) = reports.map Report.header := by
  induction reports generalizing pos with
  | nil => rfl
  | cons report reports ih =>
    obtain ⟨hreport, hreports⟩ := holds_append.mp (flatMap_cons ▸ h)
    have hslice := hreport.slice
    rw [report.length_header] at hreports hslice
    rw [reportExtents, map_cons, ih hreports, hslice]
    rfl

theorem parseReports_serialize (hlen : offset + 24 * reports.length ≤ len) :
    Rtcp.ReceiverReportPacket.parseReports pos len reports.length offset =
      reportExtents (pos + offset) reports := by
  induction reports generalizing offset with
  | nil => rfl
  | cons report reports ih =>
    rw [length_cons] at hlen
    have hreport : ReceiverReport.parse (pos + offset) (len - offset) =
        some ⟨pos + offset, 24⟩ := if_neg (by omega)
    rw [length_cons, Rtcp.ReceiverReportPacket.parseReports, if_pos (by omega), hreport]
    show _ :: Rtcp.ReceiverReportPacket.parseReports pos len reports.length (offset + 24) = _
    rw [ih (by omega), reportExtents, Nat.add_assoc]

/-! ### Sub-packets -/

variable {base : ℕ} {type : UInt8} {count size : ℕ}

section

variable (h : Holds buf base (packetHeader type count size))
include h

theorem holds_packetHeader :
    read buf base = value (0x80 ||| UInt8.ofNat (count % 32)) ∧ read buf (base + 1) = value type ∧
      readBe buf 2 (base + 2) = value ((size / 4 - 1) % 65536) := by
  obtain ⟨hfirst, hrest⟩ := holds_cons.mp h
  obtain ⟨htype, hlength⟩ := holds_cons.mp hrest
  exact ⟨hfirst.read, htype.read, hlength.readBe_two⟩

theorem headerCount_of_holds : headerCount buf base = value (count % 32) := by
  have hbits : bits (0x80 ||| UInt8.ofNat (count % 32)) 0 5 = count % 32 := by
    have hlt : count % 32 < 32 := Nat.mod_lt _ (by decide)
    generalize count % 32 = n at hlt
    interval_cases n <;> decide
  rw [headerCount, (holds_packetHeader h).1, value_bind, hbits]
  rfl

theorem isRtcp_of_holds (hlen : 4 ≤ len)
    (htype : 192 ≤ type ∧ type ≤ 223) : Packet.isRtcp buf base len = value true := by
  have hfirst : (127 < (0x80 ||| UInt8.ofNat (count % 32)) ∧
      (0x80 ||| UInt8.ofNat (count % 32)) < 192) ∧
      bits (0x80 ||| UInt8.ofNat (count % 32)) 6 2 = 2 := by
    have hlt : count % 32 < 32 := Nat.mod_lt _ (by decide)
    generalize count % 32 = n at hlt
    interval_cases n <;> decide
  obtain ⟨hread, htypeAt, -⟩ := holds_packetHeader h
  rw [Packet.isRtcp, if_neg (by rw [commonHeaderSize]; omega), hread, value_bind, htypeAt,
    value_bind]
  simp [hfirst, htype]

end

def maxLength : ℕ := 4 * 65536

theorem parseFrom_packet {fuel : ℕ} {packets : List Packet}
    (h : Holds buf base (packetHeader type count size)) (htype : 192 ≤ type ∧ type ≤ 223)
    (hsize : 4 ≤ size) (hwords : 4 ∣ size) (hmax : size ≤ maxLength) (hlen : size ≤ len)
    (hpackets : Packet.parseSubPacket buf base size = value packets) :
    Packet.parseFrom buf (fuel + 1) base len =
      Packet.parseFrom buf fuel (base + size) (len - size) >>= fun rest =>
        value (packets ++ rest) := by
  rw [maxLength] at hmax
  have hlength : ((size / 4 - 1) % 65536 + 1) * 4 = size := by omega
  rw [Packet.parseFrom, if_pos (by omega), isRtcp_of_holds h (by omega) htype, value_bind,
    if_pos rfl, (holds_packetHeader h).2.2, value_bind]
  simp only [hlength]
  rw [if_neg (by omega), hpackets]
  rfl

theorem parseSubPacket_senderReport {report : Report} (h : Holds buf base (packetHeader 200 0 28)) :
    Packet.parseSubPacket buf base 28 =
      value [⟨base, 28, .senderReport (reportExtents (base + 4) [report])⟩] := by
  rw [Packet.parseSubPacket, (holds_packetHeader h).2.1, value_bind]
  rw [Packet.parseSenderReport, headerCount_of_holds h]
  rfl

theorem parseSubPacket_receiverReport {ssrc : UInt32} (hcount : reports.length ≤ maxPerPacket)
    (h : Holds buf base (packetHeader 201 reports.length (8 + 24 * reports.length) ++
      toBe32 ssrc.toNat)) : Packet.parseSubPacket buf base (8 + 24 * reports.length) =
      value [⟨base, 8 + 24 * reports.length, .receiverReport
        ⟨⟨⟨base + 4, 4⟩, ssrc.toNat⟩, reportExtents (base + 8) reports⟩⟩] := by
  rw [maxPerPacket] at hcount
  obtain ⟨hheader, hssrc⟩ := holds_append.mp h
  rw [length_packetHeader] at hssrc
  rw [Packet.parseSubPacket, (holds_packetHeader hheader).2.1, value_bind]
  rw [Rtcp.ReceiverReportPacket.parse, require, if_pos (by rw [commonHeaderSize]; omega),
    value_bind, readSsrc_of_holds hssrc, value_bind, headerCount_of_holds hheader,
    Nat.mod_eq_of_lt (by omega)]
  show value [_] = _
  rw [if_pos rfl, parseReports_serialize (by rw [commonHeaderSize])]
  rfl

theorem parseSubPacket_sdes (hcount : chunks.length ≤ maxPerPacket)
    (hsize : size = 4 + (chunks.map SdesChunk.getSize).sum)
    (htypes : ∀ chunk ∈ chunks, ∀ item ∈ chunk.items, item.type ≠ 0)
    (h : Holds buf base (packetHeader 202 chunks.length size ++
      chunks.flatMap SdesChunk.serialize)) : Packet.parseSubPacket buf base size =
      value [⟨base, size, .sdes (chunkViews (base + 4) chunks)⟩] := by
  rw [maxPerPacket] at hcount
  obtain ⟨hheader, hchunks⟩ := holds_append.mp h
  rw [length_packetHeader] at hchunks
  rw [Packet.parseSubPacket, (holds_packetHeader hheader).2.1, value_bind]
  rw [Rtcp.SdesPacket.parse, headerCount_of_holds hheader, value_bind,
    Nat.mod_eq_of_lt (by omega),
    parseChunks_serialize hchunks htypes (by rw [hsize, commonHeaderSize]), value_bind, require,
    if_pos (length_chunkViews)]
  rfl

/-! ### The walk -/

/-- The walk goes on behind these bytes, with packets of this contents that cover them. -/
def Parses (bytes : List UInt8) (c : Contents) : Prop :=
  ∀ buf base len fuel, Holds buf base bytes → bytes.length ≤ len → len < fuel →
    ∃ packets fuel', len - bytes.length < fuel' ∧
      (Packet.parseFrom buf fuel base len =
        Packet.parseFrom buf fuel' (base + bytes.length) (len - bytes.length) >>= fun rest =>
          value (packets ++ rest)) ∧
      contents buf packets = c ∧ (packets.map Packet.len).sum = bytes.length

theorem parses_nil : Parses [] {} := by
  intro buf base len fuel _ _ hfuel
  refine ⟨[], fuel, hfuel, ?_, rfl, rfl⟩
  cases Packet.parseFrom buf fuel base len <;> rfl

theorem Parses.append {a b : List UInt8} {c d : Contents} (ha : Parses a c) (hb : Parses b d) :
    Parses (a ++ b) (c.append d) := by
  intro buf base len fuel hholds hlen hfuel
  obtain ⟨hholdsA, hholdsB⟩ := holds_append.mp hholds
  rw [length_append] at hlen ⊢
  obtain ⟨packets, fuel₁, hfuel₁, hparse, hcontents, hcover⟩ :=
    ha buf base len fuel hholdsA (by omega) hfuel
  obtain ⟨packets', fuel₂, hfuel₂, hparse', hcontents', hcover'⟩ :=
    hb buf _ _ fuel₁ hholdsB (by omega) hfuel₁
  refine ⟨packets ++ packets', fuel₂, by omega, ?_, ?_, ?_⟩
  · rw [hparse, hparse', Nat.sub_sub, Nat.add_assoc]
    cases Packet.parseFrom buf fuel₂ (base + (a.length + b.length)) (len - (a.length + b.length))
      with
    | value rest => exact congrArg value (append_assoc packets packets' rest).symm
    | reject | outOfBounds | outOfFuel => rfl
  · rw [contents_append, hcontents, hcontents']
  · rw [map_append, sum_append, hcover, hcover']

theorem parses_packet {body : List UInt8} {c : Contents} (htype : 192 ≤ type ∧ type ≤ 223)
    (hsize : size = 4 + body.length) (hwords : 4 ∣ size) (hmax : size ≤ maxLength)
    (h : ∀ buf base, Holds buf base (packetHeader type count size ++ body) → ∃ parsed,
      Packet.parseSubPacket buf base size = value [⟨base, size, parsed⟩] ∧
        bodyContents buf parsed = c) : Parses (packetHeader type count size ++ body) c := by
  intro buf base len fuel hholds hlen hfuel
  have hlength : (packetHeader type count size ++ body).length = size := by
    rw [length_append, length_packetHeader, hsize, commonHeaderSize]
  obtain ⟨parsed, hparsed, hcontents⟩ := h buf base hholds
  obtain ⟨fuel, rfl⟩ : ∃ fuel', fuel = fuel' + 1 := ⟨fuel - 1, by omega⟩
  rw [hlength] at hlen ⊢
  refine ⟨[⟨base, size, parsed⟩], fuel, by omega, ?_, ?_, rfl⟩
  · exact parseFrom_packet (holds_append.mp hholds).1 htype (by omega) hwords hmax hlen hparsed
  · rw [← hcontents]
    exact Contents.append_empty _

/-- A contents that is made entry by entry. -/
structure IsGathered {α : Type} (f : List α → Contents) : Prop where
  nil : f [] = {}
  append : ∀ a b, f (a ++ b) = (f a).append (f b)

theorem parses_flatMap {α : Type} {f : List α → Contents} (hf : IsGathered f)
    {packet : List α → List UInt8} {gs : List (List α)}
    (h : ∀ g ∈ gs, Parses (packet g) (f g)) : Parses (gs.flatMap packet) (f gs.flatten) := by
  induction gs with
  | nil =>
    rw [flatten_nil, hf.nil]
    exact parses_nil
  | cons g gs ih =>
    rw [flatMap_cons, flatten_cons, hf.append]
    exact (h g mem_cons_self).append (ih fun g' hg' => h g' (mem_cons_of_mem _ hg'))

/-- **What a loop writes is parsed** if each of its packets is. -/
theorem parses_write {α : Type} {loop : PacketLoop α} (hloop : loop.Measures)
    {f : List α → Contents} (hf : IsGathered f) (entries : List α)
    (hmax : 0 < loop.max) (h : ∀ g ∈ groups loop.max entries, g.length - 1 + 1 = g.length →
      g.length ≤ loop.max → Parses (loop.packet g) (f g)) :
    Parses (loop.write entries) (f entries) := by
  have hparses := parses_flatMap hf fun g hg =>
    have hbounds := groups_bounds hmax entries g hg
    h g hg (Nat.sub_add_cancel (length_pos_iff.mpr hbounds.1)) hbounds.2
  rwa [flatten_groups, ← PacketLoop.write_eq hloop] at hparses

theorem parses_senderReports (reports : List Report) : Parses (SenderReportPacket.serialize reports)
      { senderReports := reports.map Report.header } := by
  refine parses_write (SenderReportPacket.measures reports)
    (f := fun g => { senderReports := g.map Report.header })
    ⟨rfl, fun a b => by simp [Contents.append]⟩ reports Nat.one_pos
    fun g _ hcount (hlength : _ ≤ 1) => ?_
  -- each packet has one report
  obtain ⟨report, rfl⟩ : ∃ report, g = [report] := length_eq_one_iff.mp (by omega)
  have hbody : [report].flatMap Report.header = report.header := flatMap_singleton _ _
  have hsize : (SenderReportPacket.loop reports).size [report] = 28 := by
    show 4 + 0 + (report.header.length + 0) = 28
    rw [report.length_header]
  rw [PacketLoop.packet, hsize]
  show Parses (packetHeader 200 0 28 ++ [report].flatMap Report.header) _
  refine parses_packet (by decide) ?_ (by decide) (by decide) fun buf base hholds => ?_
  · rw [hbody, report.length_header]
  · obtain ⟨hheader, hreport⟩ := holds_append.mp hholds
    rw [length_packetHeader, commonHeaderSize] at hreport
    refine ⟨_, @parseSubPacket_senderReport _ _ report hheader, ?_⟩
    show ({ senderReports := (reportExtents (base + 4) [report]).map (slice buf) } : Contents) = _
    rw [slice_reportExtents hreport]

theorem parses_receiverReports (ssrc : UInt32) (reports : List Report) :
    Parses (ReceiverReportPacket.serialize ssrc reports)
      { receiverReports := reports.map fun report => (ssrc.toNat, report.header) } := by
  refine parses_write (ReceiverReportPacket.measures ssrc reports)
    (f := fun g => { receiverReports := g.map fun report => (ssrc.toNat, report.header) })
    ⟨rfl, fun a b => by simp [Contents.append]⟩ reports (Nat.succ_pos _)
    fun g _ hcount (hlength : _ ≤ 31) => ?_
  have hsize : (ReceiverReportPacket.loop ssrc reports).size g = 8 + 24 * g.length := by
    show 4 + 4 + (g.map fun r => r.header.length).sum = _
    rw [sum_reports]
  rw [PacketLoop.packet, hsize]
  show Parses (packetHeader 201 (g.length - 1 + 1) (8 + 24 * g.length) ++
    (toBe32 ssrc.toNat ++ g.flatMap Report.header)) _
  rw [hcount]
  refine parses_packet (by decide) ?_ (by omega) (by rw [maxLength]; omega)
    fun buf base hholds => ?_
  · rw [length_append, length_flatMap, sum_reports]
    show 8 + 24 * g.length = 4 + (4 + 24 * g.length)
    omega
  · rw [← append_assoc] at hholds
    obtain ⟨hheader, hreports⟩ := holds_append.mp hholds
    refine ⟨_, parseSubPacket_receiverReport hlength hheader, ?_⟩
    have hslices := slice_reportExtents hreports
    have hmap := congrArg (List.map fun bytes => (ssrc.toNat, bytes)) hslices
    rw [map_map, map_map] at hmap
    exact congrArg (fun l => ({ receiverReports := l } : Contents)) hmap

/-- Each RTCP packet with chunks stays within the length that its header can hold. -/
def PacketsFit (chunks : List SdesChunk) : Prop :=
  ∀ g ∈ groups maxPerPacket chunks, 4 + (g.map SdesChunk.getSize).sum ≤ maxLength

theorem parses_sdesChunks (htypes : ∀ chunk ∈ chunks, ∀ item ∈ chunk.items, item.type ≠ 0)
    (hfit : PacketsFit chunks) :
    Parses (SdesPacket.serialize chunks) { sdesChunks := chunks.map fun c =>
      (c.ssrc.toNat, c.items.map fun i => (i.type, i.value)) } := by
  refine parses_write (SdesPacket.measures chunks)
    (f := fun g => { sdesChunks := g.map fun c =>
      (c.ssrc.toNat, c.items.map fun i => (i.type, i.value)) })
    ⟨rfl, fun a b => by simp [Contents.append]⟩ chunks (Nat.succ_pos _)
    fun g hg hcount hlength => ?_
  have hmem : ∀ c ∈ g, c ∈ chunks := by
    intro c hc
    rw [← flatten_groups maxPerPacket chunks]
    exact mem_flatten.mpr ⟨g, hg, hc⟩
  have hsizes : (fun chunk => (SdesChunk.serialize chunk).length) = SdesChunk.getSize :=
    funext SdesChunk.length_serialize
  have hsize : (SdesPacket.loop chunks).size g = 4 + (g.map SdesChunk.getSize).sum := by
    show 4 + 0 + (g.map fun c => c.serialize.length).sum = _
    rw [hsizes]
  -- the length field counts words, and every chunk is padded to them
  have hwords : 4 ∣ (g.map SdesChunk.getSize).sum :=
    dvd_sum fun n hn => by
      obtain ⟨c, -, rfl⟩ := mem_map.mp hn
      exact Dvd.intro_left _ rfl
  rw [PacketLoop.packet, hsize]
  show Parses (packetHeader 202 (g.length - 1 + 1) _ ++ ([] ++ g.flatMap SdesChunk.serialize)) _
  rw [hcount, nil_append]
  refine parses_packet (by decide) ?_ (Nat.dvd_add (by decide) hwords) (hfit g hg)
    fun buf base hholds => ?_
  · rw [length_flatMap, hsizes]
  · have hchunks := (holds_append.mp hholds).2
    rw [length_packetHeader, commonHeaderSize] at hchunks
    refine ⟨_, parseSubPacket_sdes hlength rfl (fun c hc => htypes c (hmem c hc)) hholds, ?_⟩
    show ({ sdesChunks := (chunkViews (base + 4) g).map (chunkFields buf) } : Contents) = _
    rw [chunkFields_chunkViews hchunks]

/-- The bytes that the three serializers write, one after the other. -/
def serializeAll (senderReports : List Report) (ssrc : UInt32) (receiverReports : List Report)
    (chunks : List SdesChunk) : List UInt8 :=
  SenderReportPacket.serialize senderReports ++
    (ReceiverReportPacket.serialize ssrc receiverReports ++ SdesPacket.serialize chunks)

/-- **Round trip.**  The parser returns packets that cover all the bytes, and whose reports
and chunks are the original ones in their order. -/
theorem parse_serialize (senderReports : List Report) (ssrc : UInt32)
    (receiverReports : List Report) (chunks : List SdesChunk)
    (htypes : ∀ chunk ∈ chunks, ∀ item ∈ chunk.items, item.type ≠ 0) (hfit : PacketsFit chunks) :
    ∃ packets, Packet.parse (serializeAll senderReports ssrc receiverReports chunks) =
        value packets ∧ contents (serializeAll senderReports ssrc receiverReports chunks) packets =
        { senderReports := senderReports.map Report.header
          receiverReports := receiverReports.map fun report => (ssrc.toNat, report.header)
          sdesChunks := chunks.map fun c =>
            (c.ssrc.toNat, c.items.map fun i => (i.type, i.value)) } ∧
      (packets.map Packet.len).sum =
        (serializeAll senderReports ssrc receiverReports chunks).length := by
  have hparses := (parses_senderReports senderReports).append
    ((parses_receiverReports ssrc receiverReports).append (parses_sdesChunks htypes hfit))
  change Parses (serializeAll senderReports ssrc receiverReports chunks) _ at hparses
  set data := serializeAll senderReports ssrc receiverReports chunks
  obtain ⟨packets, fuel, hfuel, hparse, hcontents, hcover⟩ :=
    hparses data 0 data.length (data.length + 1) (holds_self data) le_rfl (Nat.lt_succ_self _)
  obtain ⟨fuel, rfl⟩ : ∃ fuel', fuel = fuel' + 1 := ⟨fuel - 1, by omega⟩
  refine ⟨packets, ?_, ?_, hcover⟩
  · rw [Packet.parse, hparse, Nat.sub_self, Packet.parseFrom, if_neg (Nat.lt_irrefl 0), pure_eq,
      value_bind, append_nil]
  · rw [hcontents]
    simp [Contents.append]

instance (chunks : List SdesChunk) : Decidable (PacketsFit chunks) :=
  inferInstanceAs (Decidable (∀ g ∈ groups maxPerPacket chunks, _))

/-- A chunk with a CNAME of this many bytes. -/
def cnameChunk (ssrc : UInt32) (length : ℕ) (h : length ≤ 255) : SdesChunk :=
  ⟨ssrc, [⟨1, List.replicate length 97, by rwa [length_replicate]⟩]⟩

theorem parse_sampleReports :
    ∃ packets, Packet.parse (serializeAll [⟨List.replicate 24 7, rfl⟩] 5
        [⟨List.replicate 24 8, rfl⟩] [cnameChunk 6 3 (by decide)]) = value packets ∧
      contents (serializeAll [⟨List.replicate 24 7, rfl⟩] 5
          [⟨List.replicate 24 8, rfl⟩] [cnameChunk 6 3 (by decide)]) packets =
        { senderReports := [List.replicate 24 7]
          receiverReports := [(5, List.replicate 24 8)]
          sdesChunks := [(6, [(1, List.replicate 3 97)])] } := by
  obtain ⟨packets, hparse, hcontents, -⟩ := parse_serialize [⟨List.replicate 24 7, rfl⟩] 5
    [⟨List.replicate 24 8, rfl⟩] [cnameChunk 6 3 (by decide)] (by decide) (by decide)
  exact ⟨packets, hparse, hcontents⟩

theorem serialize_chunk : SdesPacket.serialize [chunk] =
      packetHeader 202 1 (4 + chunk.getSize) ++ chunk.serialize := by
  rw [SdesPacket.serialize, PacketLoop.write_eq (SdesPacket.measures _)]
  show (SdesPacket.loop [chunk]).packet [chunk] ++ [] = _
  rw [append_nil, PacketLoop.packet]
  show packetHeader 202 1 (4 + 0 + (chunk.serialize.length + 0)) ++
    ([] ++ (chunk.serialize ++ [])) = _
  rw [chunk.length_serialize, append_nil, nil_append]
  rfl

/-- A chunk of 262144 bytes, which needs a packet of 65537 words. -/
def longChunk : SdesChunk :=
  ⟨0, List.replicate 1057 ⟨1, List.replicate 246 97, by rw [length_replicate]; decide⟩⟩

theorem getSize_longChunk : longChunk.getSize = 262144 := by
  rw [SdesChunk.getSize, longChunk, map_replicate, sum_replicate, SdesItem.getSize,
    length_replicate]
  rfl

/-- The length in the header of a packet with this chunk is that of the header alone, and
the parser returns nothing. -/
theorem parse_longChunk : (∀ item ∈ longChunk.items, item.type ≠ 0) ∧
      Packet.parse (serializeAll [] 0 [] [longChunk]) = value [] := by
  constructor
  · intro item hitem
    rw [eq_of_mem_replicate hitem]
    decide
  have hdata : serializeAll [] 0 [] [longChunk] =
      packetHeader 202 1 262148 ++ longChunk.serialize := by
    show SdesPacket.serialize [longChunk] = _
    rw [serialize_chunk, getSize_longChunk]
  set data := serializeAll [] 0 [] [longChunk]
  have hheader : Holds data 0 (packetHeader 202 1 262148) := by
    have hall := holds_self data
    rw [hdata] at hall ⊢
    exact (holds_append.mp hall).1
  have hlength : 4 ≤ data.length := by
    rw [hdata, length_append, length_packetHeader, commonHeaderSize]
    exact Nat.le_add_right _ _
  -- the length field has wrapped to 0: the packet is read as its header alone
  have hsub : Packet.parseSubPacket data 0 4 = reject := by
    rw [Packet.parseSubPacket, (holds_packetHeader hheader).2.1, value_bind]
    rw [Rtcp.SdesPacket.parse, headerCount_of_holds hheader]
    rfl
  rw [Packet.parse, Packet.parseFrom, if_pos (by omega),
    isRtcp_of_holds hheader hlength (by decide), value_bind, if_pos rfl,
    (holds_packetHeader hheader).2.2, value_bind]
  rw [if_neg (by omega)]
  rw [hsub]
  rfl

end Compound

open Compound

/-! ### The bitrate estimation -/

/-- A bitrate estimation. -/
structure FeedbackPsRembPacket where
  senderSsrc : UInt32
  mediaSsrc : UInt32
  bitrate : ℕ
  bitrate_lt : bitrate < 2 ^ 64
  ssrcs : List UInt32

namespace FeedbackPsRembPacket

def header (p : FeedbackPsRembPacket) : List UInt8 :=
  toBe32 p.senderSsrc.toNat ++ toBe32 p.mediaSsrc.toNat

/-- The loop of `Serialize` over the mantissa and the exponent. -/
def normalize (mantissa exponent : ℕ) : ℕ × ℕ :=
  if 0x3FFFF < mantissa then normalize (mantissa >>> 1) (exponent + 1) else (mantissa, exponent)
  termination_by mantissa
  decreasing_by rw [Nat.shiftRight_one]; omega

def bytes (p : FeedbackPsRembPacket) : ℕ × ℕ → List UInt8
  | (mantissa, exponent) =>
    packetHeader 206 15 (20 + 4 * p.ssrcs.length) ++ (p.header ++ (toBe32 uniqueIdentifier ++
      (UInt8.ofNat p.ssrcs.length :: UInt8.ofNat (exponent <<< 2 ||| mantissa >>> 16) ::
        (toBe16 mantissa ++ p.ssrcs.flatMap fun ssrc => toBe32 ssrc.toNat))))

def serialize (p : FeedbackPsRembPacket) : List UInt8 := p.bytes (normalize p.bitrate 0)

/-- The packet that is parsed from these bytes; its header stays where it is. -/
def Parsed (buf : List UInt8) (p : FeedbackPsRembPacket) : Prop :=
  ∃ data ssrcs, parse buf 0 buf.length = value (.remb data p.bitrate ssrcs) ∧
    ssrcs.map Ssrc.value = p.ssrcs.map UInt32.toNat ∧ slice buf ⟨commonHeaderSize, 8⟩ = p.header

/-- A mantissa of 18 bits, the highest of them set unless the exponent is zero. -/
def Normal (mantissa exponent : ℕ) : Prop :=
  mantissa < 2 ^ 18 ∧ (exponent = 0 ∨ 2 ^ 17 ≤ mantissa)

variable {b k m : ℕ}

theorem exists_normal : ∃ k, Normal (b / 2 ^ k) k := by
  induction b using Nat.strong_induction_on with
  | _ b ih =>
    by_cases hb : b < 2 ^ 18
    · exact ⟨0, by simpa using hb, .inl rfl⟩
    obtain ⟨k, hlt, hk⟩ := ih (b / 2) (by omega)
    rw [Nat.div_div_eq_div_mul, ← pow_succ'] at hlt hk
    refine ⟨k + 1, hlt, .inr (hk.elim ?_ id)⟩
    rintro rfl
    rw [zero_add, pow_one]
    omega

theorem normalize_eq {b k : ℕ} (h : Normal (b / 2 ^ k) k) (e : ℕ) :
    normalize b e = (b / 2 ^ k, e + k) := by
  induction k generalizing b e with
  | zero =>
    have hlt := h.1
    rw [pow_zero, Nat.div_one] at hlt ⊢
    rw [normalize, if_neg (by omega), add_zero]
  | succ k ih =>
    have hlt := h.1
    have hhigh := h.2.resolve_left (Nat.succ_ne_zero k)
    rw [pow_succ' 2 k, ← Nat.div_div_eq_div_mul] at hlt hhigh ⊢
    have hle := Nat.div_le_self (b / 2) (2 ^ k)
    rw [normalize, if_pos (by omega), Nat.shiftRight_one, ih ⟨hlt, Or.inr hhigh⟩]
    congr 1
    omega

theorem Normal.lost (h : Normal (b / 2 ^ k) k) (hb : 0 < b) :
    (b - b / 2 ^ k * 2 ^ k) * 2 ^ 17 < b := by
  have hmod := Nat.div_add_mod' b (2 ^ k)
  rw [show b - b / 2 ^ k * 2 ^ k = b % 2 ^ k by omega]
  rcases h.2 with rfl | hhigh
  · simpa [Nat.mod_one] using hb
  have hlt : b % 2 ^ k < 2 ^ k := Nat.mod_lt _ (by positivity)
  calc b % 2 ^ k * 2 ^ 17 < 2 ^ k * 2 ^ 17 := by gcongr
    _ ≤ b / 2 ^ k * 2 ^ k := by rw [mul_comm]; gcongr
    _ ≤ b := Nat.div_mul_le_self b _

theorem Normal.exact {j : ℕ} (h : Normal (b / 2 ^ k) k) (hm : m < 2 ^ 18)
    (hb : b = m * 2 ^ j) : b / 2 ^ k * 2 ^ k = b := by
  refine Nat.div_mul_cancel ?_
  rcases le_or_gt k j with hle | hlt
  · exact hb ▸ (pow_dvd_pow 2 hle).mul_left m
  -- otherwise the mantissa would be shorter
  obtain ⟨i, rfl⟩ := Nat.exists_eq_add_of_lt hlt
  have hhigh := h.2.resolve_left (by omega)
  rw [hb, show j + i + 1 = j + (i + 1) by omega, pow_add, mul_comm m,
    Nat.mul_div_mul_left _ _ (by positivity), pow_succ' 2 i, ← Nat.div_div_eq_div_mul] at hhigh
  have hle := Nat.div_le_self (m / 2) (2 ^ i)
  omega

theorem parseSsrcList_written {buf : List UInt8} {ssrcs : List UInt32} {pos : ℕ}
    (h : Holds buf pos (ssrcs.flatMap fun ssrc => toBe32 ssrc.toNat)) :
    ∃ parsed, parseSsrcList buf ssrcs.length pos = value parsed ∧
      parsed.map Ssrc.value = ssrcs.map UInt32.toNat := by
  induction ssrcs generalizing pos with
  | nil => exact ⟨[], rfl, rfl⟩
  | cons ssrc ssrcs ih =>
    rw [flatMap_cons] at h
    obtain ⟨hssrc, hrest⟩ := holds_append.mp h
    obtain ⟨parsed, hparsed, hvalues⟩ := ih hrest
    have hread := hssrc.readBe_four
    rw [Nat.mod_eq_of_lt ssrc.toNat_lt] at hread
    refine ⟨⟨⟨pos, 4⟩, ssrc.toNat⟩ :: parsed, ?_, by rw [map_cons, hvalues, map_cons]⟩
    rw [length_cons, parseSsrcList, readSsrc, hread]
    exact congrArg (· >>= _) hparsed

theorem bits_packed (hm : m < 2 ^ 18) (hk : k < 64) :
    bits (UInt8.ofNat (k <<< 2 ||| m >>> 16)) 0 2 * 2 ^ 16 + m % 65536 = m ∧
      (UInt8.ofNat (k <<< 2 ||| m >>> 16)).toNat >>> 2 = k := by
  have hhigh : m >>> 16 < 2 ^ 2 := by
    rw [Nat.shiftRight_eq_div_pow]
    omega
  rw [bits, ← Nat.shiftLeft_add_eq_or_of_lt hhigh, UInt8.toNat_ofNat', Nat.shiftRight_eq_div_pow,
    Nat.shiftRight_eq_div_pow, Nat.shiftRight_eq_div_pow, Nat.shiftLeft_eq]
  omega

theorem parsed_bytes {p : FeedbackPsRembPacket} (hlen : p.ssrcs.length ≤ 255)
    (hm : m < 2 ^ 18) (hk : k < 64) (hbitrate : p.bitrate = m * 2 ^ k) :
    Parsed (p.bytes (m, k)) p := by
  have h := holds_self (p.bytes (m, k))
  have hsize : (p.bytes (m, k)).length = 20 + p.ssrcs.length * 4 := by
    simp [bytes, header, packetHeader, toBe16, toBe32]
    omega
  -- the bytes, field by field, in the order `parse` reads them
  obtain ⟨hcommon, h⟩ := holds_append.mp h
  obtain ⟨hheader, h⟩ := holds_append.mp h
  obtain ⟨hid, h⟩ := holds_append.mp h
  obtain ⟨hcount, h⟩ := holds_cons.mp h
  obtain ⟨hpacked, h⟩ := holds_cons.mp h
  obtain ⟨hlow, hssrcs⟩ := holds_append.mp h
  obtain ⟨parsed, hparsed, hvalues⟩ := parseSsrcList_written hssrcs
  obtain ⟨hmantissa, hexponent⟩ := bits_packed hm hk
  refine ⟨⟨0 + feedbackHeaderSize, (p.ssrcs.length + 4 + 1) * 4 - feedbackHeaderSize⟩, parsed, ?_,
    hvalues, hheader.slice⟩
  have hnum : (UInt8.ofNat p.ssrcs.length).toNat = p.ssrcs.length := by
    rw [UInt8.toNat_ofNat', Nat.mod_eq_of_lt (by omega)]
  have hrate : ItemClass.bitrate m k = (p.bitrate, true) := by
    rw [ItemClass.bitrate, Nat.shiftLeft_eq, ← hbitrate, Nat.mod_eq_of_lt p.bitrate_lt, hbitrate,
      Nat.shiftRight_eq_div_pow, Nat.mul_div_cancel _ (by positivity), decide_eq_true rfl]
  generalize p.bytes (m, k) = buf at *
  have hlength : readBe buf 2 (0 + 2) = value (p.ssrcs.length + 4) :=
    (holds_packetHeader hcommon).2.2.trans (congrArg value (by omega))
  simp only [parse, hlength, value_bind, hnum, hmantissa, hexponent, hrate,
    show readBe buf 4 (0 + feedbackHeaderSize) = value uniqueIdentifier from hid.readBe_four,
    show Checked.read buf (0 + feedbackHeaderSize + 4) = _ from hcount.read,
    show Checked.read buf (0 + feedbackHeaderSize + 5) = _ from hpacked.read,
    show readBe buf 2 (0 + feedbackHeaderSize + 6) = _ from hlow.readBe_two,
    show parseSsrcList buf _ (0 + feedbackHeaderSize + 8) = _ from hparsed]
  rw [require_of (by rw [hsize, feedbackHeaderSize, commonHeaderSize]; omega), value_bind,
    require_of (by omega), value_bind,
    require_of (by rw [feedbackHeaderSize, commonHeaderSize]; omega)]
  rfl

/-- **Written estimations are read again**, with the bitrate rounded down to a mantissa of 18
bits. -/
theorem roundTrip (p : FeedbackPsRembPacket) (hlen : p.ssrcs.length ≤ 255) :
    ∃ q, Parsed p.serialize q ∧ q.ssrcs = p.ssrcs ∧ q.bitrate ≤ p.bitrate ∧
      (0 < p.bitrate → (p.bitrate - q.bitrate) * 2 ^ 17 < p.bitrate) ∧
      ((p.bitrate < 2 ^ 18 ∨ ∃ m k, m < 2 ^ 18 ∧ p.bitrate = m * 2 ^ k) →
        q.bitrate = p.bitrate) ∧ q.serialize = p.serialize := by
  obtain ⟨k, hk⟩ := exists_normal
  have hle := Nat.div_mul_le_self p.bitrate (2 ^ k)
  have hcancel := Nat.mul_div_cancel (p.bitrate / 2 ^ k) (show 0 < 2 ^ k by positivity)
  have hagain := normalize_eq (hcancel.symm ▸ hk) 0
  rw [hcancel, ← normalize_eq hk 0] at hagain
  -- what is read back is the bitrate rounded down to its eighteen bits
  let q := { p with
    bitrate := p.bitrate / 2 ^ k * 2 ^ k, bitrate_lt := hle.trans_lt p.bitrate_lt }
  have hsame : q.serialize = p.serialize := congrArg p.bytes hagain
  refine ⟨q, ?_, rfl, hle, hk.lost, ?_, hsame⟩
  · have hshort : k < 64 := by
      rcases hk.2 with rfl | hhigh
      · decide
      · have hpow := Nat.le_mul_of_pos_left (2 ^ k) (show 0 < p.bitrate / 2 ^ k by omega)
        exact (Nat.pow_lt_pow_iff_right Nat.one_lt_two).mp
          ((hpow.trans hle).trans_lt p.bitrate_lt)
    rw [serialize, normalize_eq hk, zero_add]
    exact parsed_bytes (p := q) hlen hk.1 hshort rfl
  · rintro (hb | ⟨m, j, hm, hb⟩)
    · exact hk.exact hb (j := 0) (mul_one _).symm
    · exact hk.exact hm hb

def sample (bitrate : UInt64) : FeedbackPsRembPacket :=
  ⟨1, 2, bitrate.toNat, bitrate.toNat_lt, [3, 4]⟩

/-- The lowest bit of a bitrate of 19 bits is lost. -/
theorem roundTrip_odd : ∃ q, Parsed (sample 262145).serialize q ∧ q.ssrcs = [3, 4] ∧
    (262145 - q.bitrate) * 2 ^ 17 < 262145 := by
  obtain ⟨q, hparsed, hssrcs, -, hlost, -⟩ := roundTrip (sample 262145) (by decide)
  exact ⟨q, hparsed, hssrcs, hlost (by decide)⟩

theorem roundTrip_zero : ∃ q, Parsed (sample 0).serialize q ∧ ¬(0 - q.bitrate) * 2 ^ 17 < 0 := by
  have hnormalize : normalize (sample 0).bitrate 0 = (0, 0) :=
    @normalize_eq 0 0 ⟨by decide, .inl rfl⟩ 0
  refine ⟨sample 0, ?_, Nat.not_lt_zero _⟩
  rw [serialize, hnormalize]
  exact parsed_bytes (by decide) (by decide) (by decide) rfl

end FeedbackPsRembPacket

end Rtcp

end Mediasoup
