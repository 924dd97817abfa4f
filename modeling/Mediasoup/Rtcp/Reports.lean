/-
The report parsers of a compound RTCP packet: sender and receiver reports,
source descriptions, BYE and extended reports (`RTC::RTCP::SenderReportPacket`,
`ReceiverReportPacket`, `SdesPacket`, `ByePacket`, `ExtendedReportPacket`).

Each parser gets one sub-packet, the `len` bytes from `base` on.  The objects it
returns point into the buffer, so they are modelled by the bytes they point to.

* `ensures_receiverReportPacket`, `ensures_sdesPacket`, `ensures_byePacket`,
  `ensures_extendedReportPacket` — every parser only reads bytes of the buffer,
  its loops end, and what it returns points into its own sub-packet.
-/
import Mediasoup.Lib.Checked

open List Bytes Checked

namespace Mediasoup

namespace Rtcp

def commonHeaderSize : ℕ := 4

/-- A 32-bit number with the bytes it was read from. -/
structure Ssrc where
  extent : Extent
  value : ℕ
  deriving DecidableEq

def readSsrc (buf : List UInt8) (pos : ℕ) : Checked Ssrc := do
  let value ← readBe buf 4 pos
  return ⟨⟨pos, 4⟩, value⟩

/-- The count field of the common header, also the message type of feedback. -/
def headerCount (buf : List UInt8) (base : ℕ) : Checked ℕ := do
  let byte ← read buf base
  return bits byte 0 5

/-- The smallest multiple of four from `size` on. -/
def padTo4Bytes (size : ℕ) : ℕ := (size + 3) / 4 * 4

/-- Every extent of the list lies inside the `len` bytes from `base` on. -/
def AllInside (base len : ℕ) (extents : List Extent) : Prop := ∀ e ∈ extents, e.Inside base len

variable {buf : List UInt8} {base pos len : ℕ} {es : List Extent} {count fuel offset : ℕ}

@[simp] theorem allInside_nil : AllInside base len [] := by
  simp [AllInside]

@[simp] theorem allInside_cons {e : Extent} :
    AllInside base len (e :: es) ↔ e.Inside base len ∧ AllInside base len es := by
  simp [AllInside]

@[simp] theorem allInside_append {es' : List Extent} :
    AllInside base len (es ++ es') ↔ AllInside base len es ∧ AllInside base len es' := by
  simp [AllInside, or_imp, forall_and]

theorem ensures_readSsrc (h : pos + 4 ≤ buf.length) :
    (readSsrc buf pos).Ensures fun ssrc => ssrc.extent = ⟨pos, 4⟩ :=
  (ensures_readBe h).bind fun _ _ => rfl

theorem ensures_headerCount (h : base < buf.length) :
    (headerCount buf base).Ensures fun count => count = bits (byteAt buf base) 0 5 :=
  (ensures_read_eq h).bind fun byte hbyte => by rw [hbyte]; rfl

/-! ### Sender and receiver reports -/

/-- A report of a fixed size, if there is room for it: only a pointer is kept. -/
def parseFixed (size pos len : ℕ) : Option Extent := if len < size then none else some ⟨pos, size⟩

def SenderReport.parse (pos len : ℕ) : Option Extent := parseFixed 24 pos len

def ReceiverReport.parse (pos len : ℕ) : Option Extent := parseFixed 24 pos len

/-- The reports of a sender report packet: one, or none if the packet is too short. -/
def SenderReportPacket.parse (base len : ℕ) : List Extent :=
  (SenderReport.parse (base + commonHeaderSize) (len - commonHeaderSize)).toList

def SenderReportPacket.getSize (reports : List Extent) : ℕ :=
  (reports.map fun report => commonHeaderSize + report.size).sum

structure ReceiverReportPacket where
  ssrc : Ssrc
  reports : List Extent
  deriving DecidableEq

/-- The report loop; `count` is the number of reports still announced. -/
def ReceiverReportPacket.parseReports (base len : ℕ) : ℕ → ℕ → List Extent
  | 0, _ => []
  | count + 1, offset =>
    if offset < len then
      match ReceiverReport.parse (base + offset) (len - offset) with
      | some report => report :: parseReports base len count (offset + report.size)
      | none => []
    else []

/-- `offset` is the place of the first report, `0` for the usual one. -/
def ReceiverReportPacket.parse (buf : List UInt8) (base len offset : ℕ) :
    Checked ReceiverReportPacket := do
  require (commonHeaderSize + 4 ≤ len)
  let ssrc ← readSsrc buf (base + commonHeaderSize)
  let offset := if offset = 0 then commonHeaderSize + 4 else offset
  let count ← headerCount buf base
  return { ssrc, reports := parseReports base len count offset }

theorem parseFixed_eq_some {size : ℕ} {e : Extent} (h : parseFixed size pos len = some e) :
    size ≤ len ∧ e = ⟨pos, size⟩ := by
  unfold parseFixed at h
  split_ifs at h with hlen
  exact ⟨by omega, (Option.some.inj h).symm⟩

theorem allInside_senderReport {base len : ℕ} (h : commonHeaderSize ≤ len) :
    AllInside base len (SenderReportPacket.parse base len) := by
  intro e he
  rw [SenderReportPacket.parse, Option.mem_toList] at he
  obtain ⟨hroom, rfl⟩ := parseFixed_eq_some he
  show base ≤ base + commonHeaderSize ∧ base + commonHeaderSize + 24 ≤ base + len
  omega

theorem allInside_parseReports :
    AllInside base len (ReceiverReportPacket.parseReports base len count offset) := by
  induction count generalizing offset with
  | zero => exact allInside_nil
  | succ count ih =>
    unfold ReceiverReportPacket.parseReports
    split_ifs with hlt
    · split
      · next report hreport =>
        obtain ⟨hroom, rfl⟩ := parseFixed_eq_some hreport
        refine allInside_cons.mpr ⟨?_, ih⟩
        show base ≤ base + offset ∧ base + offset + 24 ≤ base + len
        omega
      · exact allInside_nil
    · exact allInside_nil

def ReceiverReportPacket.extents (packet : ReceiverReportPacket) : List Extent :=
  packet.ssrc.extent :: packet.reports

theorem ensures_receiverReportPacket (offset : ℕ) (h : base + len ≤ buf.length) :
    (ReceiverReportPacket.parse buf base len offset).Ensures fun packet =>
      AllInside base len packet.extents := by
  refine ensures_require.bind fun _ hlen => ?_
  simp only [commonHeaderSize] at hlen ⊢
  refine (ensures_readSsrc (by omega)).bind fun ssrc hssrc => ?_
  refine (ensures_headerCount (by omega)).bind fun count _ => ?_
  refine allInside_cons.mpr ⟨?_, allInside_parseReports⟩
  rw [hssrc]
  show base ≤ base + 4 ∧ base + 4 + 4 ≤ base + len
  omega

/-! ### Source descriptions -/

/-- An item, or `none` at the end of the items or if there is no room for it. -/
def SdesItem.parse (buf : List UInt8) (pos len : ℕ) : Checked (Option Extent) := do
  let type ← read buf pos
  if type = 0 then return none
  else if len < 2 then return none
  else do
    let length ← read buf (pos + 1)
    if len < 2 + length.toNat then return none else return some ⟨pos, 2 + length.toNat⟩

structure SdesChunk where
  ssrc : Ssrc
  items : List Extent
  deriving DecidableEq

/-- `SdesChunk::GetSize`: the mandatory null octet and the padding count too. -/
def SdesChunk.getSize (chunk : SdesChunk) : ℕ :=
  padTo4Bytes (4 + (chunk.items.map Extent.size).sum + 1)

def SdesChunk.extents (chunk : SdesChunk) : List Extent := chunk.ssrc.extent :: chunk.items

/-- The item loop: the items and the offset behind them. -/
def SdesChunk.parseItems (buf : List UInt8) (pos len : ℕ) : ℕ → ℕ → Checked (List Extent × ℕ)
  | 0, _ => outOfFuel
  | fuel + 1, offset =>
    if offset < len then do
      match ← SdesItem.parse buf (pos + offset) (len - offset) with
      | none => return ([], offset)
      | some item => do
        let (items, offset) ← parseItems buf pos len fuel (offset + item.size)
        return (item :: items, offset)
    else return ([], offset)

/-- The check that a null octet ends the items. -/
def SdesChunk.parseMandatoryNullOctet (buf : List UInt8) (pos len offset : ℕ) : Checked Unit := do
  require (offset ≠ len)
  if offset < len then do
    let octet ← read buf (pos + offset)
    require (octet = 0)
  else return ()

/-- The loop over the additional null octets.  Fewer than needed is an error. -/
def SdesChunk.parseNullOctets (buf : List UInt8) (pos len : ℕ) : ℕ → ℕ → Checked Unit
  | 0, _ => return ()
  | needed + 1, offset => do
    require (offset < len)
    let octet ← read buf (pos + offset)
    require (octet = 0)
    parseNullOctets buf pos len needed (offset + 1)

/-- `chunkLength` of the source advances together with `offset`, and the number of
octets needed is computed in `uint16_t`. -/
def SdesChunk.parse (buf : List UInt8) (pos len : ℕ) : Checked SdesChunk := do
  require (4 ≤ len)
  let ssrc ← readSsrc buf pos
  let (items, offset) ← parseItems buf pos len (len + 1) 4
  parseMandatoryNullOctet buf pos len offset
  let chunkLength := (offset + 1) % 65536
  let needed := (padTo4Bytes chunkLength - chunkLength) % 65536
  parseNullOctets buf pos len needed (offset + 1)
  return { ssrc, items }

/-- The chunk loop; `count` is the number of chunks still announced. -/
def SdesPacket.parseChunks (buf : List UInt8) (base len : ℕ) : ℕ → ℕ → Checked (List SdesChunk)
  | 0, _ => return []
  | count + 1, offset =>
    if offset < len then do
      match ← (SdesChunk.parse buf (base + offset) (len - offset)).attempt with
      | none => return []
      | some chunk => do
        let chunks ← parseChunks buf base len count (offset + chunk.getSize)
        return chunk :: chunks
    else return []

def SdesPacket.parse (buf : List UInt8) (base len : ℕ) : Checked (List SdesChunk) := do
  let count ← headerCount buf base
  let chunks ← parseChunks buf base len count commonHeaderSize
  require (chunks.length = count)
  return chunks

section

variable (h : pos + len ≤ buf.length)
include h

theorem ensures_sdesItem (hlen : 0 < len) :
    (SdesItem.parse buf pos len).Ensures fun o => ∀ item, o = some item →
      item.start = pos ∧ 0 < item.size ∧ item.size ≤ len := by
  refine (ensures_read (by omega)).bind fun type _ => ?_
  refine .ite (fun _ => by simp) fun _ => .ite (fun _ => by simp) fun h2 => ?_
  refine (ensures_read (by omega)).bind fun length _ => ?_
  refine .ite (fun _ => by simp) fun hroom => ?_
  intro item hitem
  obtain rfl := Option.some.inj hitem
  exact ⟨rfl, by simp only; omega, by simp only; omega⟩

theorem ensures_parseItems (hoffset : offset ≤ len)
    (hfuel : len < fuel + offset) : (SdesChunk.parseItems buf pos len fuel offset).Ensures fun r =>
      AllInside pos len r.1 ∧ r.2 ≤ len := by
  induction fuel generalizing offset with
  | zero => omega
  | succ fuel ih =>
    refine .ite (fun hlt => ?_) fun _ => ⟨allInside_nil, hoffset⟩
    refine (ensures_sdesItem (by omega) (by omega)).bind fun o ho => ?_
    cases o with
    | none => exact ⟨allInside_nil, hoffset⟩
    | some item =>
      obtain ⟨hstart, hpos, hsize⟩ := ho item rfl
      refine (ih (by omega) (by omega)).bind fun r hr => ?_
      refine ⟨allInside_cons.mpr ⟨?_, hr.1⟩, hr.2⟩
      rw [Extent.Inside, hstart]
      omega

theorem ensures_parseMandatoryNullOctet :
    (SdesChunk.parseMandatoryNullOctet buf pos len offset).Safe := by
  refine ensures_require.bind fun _ _ => .ite (fun hlt => ?_) fun _ => trivial
  exact (ensures_read (by omega)).bind fun _ _ => ensures_require.safe

theorem ensures_parseNullOctets {needed : ℕ} :
    (SdesChunk.parseNullOctets buf pos len needed offset).Safe := by
  induction needed generalizing offset with
  | zero => trivial
  | succ needed ih =>
    refine ensures_require.bind fun _ hlt => (ensures_read (by omega)).bind fun _ _ => ?_
    exact ensures_require.bind fun _ _ => ih

theorem ensures_sdesChunk :
    (SdesChunk.parse buf pos len).Ensures fun chunk => AllInside pos len chunk.extents := by
  refine ensures_require.bind fun _ h4 => (ensures_readSsrc (by omega)).bind fun ssrc hssrc => ?_
  refine (ensures_parseItems h h4 (by omega)).bind fun r hr => ?_
  refine (ensures_parseMandatoryNullOctet h).bind fun _ _ => ?_
  refine (ensures_parseNullOctets h).bind fun _ _ => ?_
  refine allInside_cons.mpr ⟨?_, hr.1⟩
  rw [hssrc]
  exact ⟨le_rfl, by simpa using h4⟩

end

theorem AllInside.mono {base' len' : ℕ} (h : AllInside base len es) (hbase : base' ≤ base)
    (hlen : base + len ≤ base' + len') : AllInside base' len' es := by
  intro e he
  obtain ⟨h1, h2⟩ := h e he
  exact ⟨hbase.trans h1, h2.trans hlen⟩

theorem ensures_parseChunks (h : base + len ≤ buf.length) :
    (SdesPacket.parseChunks buf base len count offset).Ensures fun chunks =>
      AllInside base len (chunks.flatMap SdesChunk.extents) := by
  induction count generalizing offset with
  | zero => exact allInside_nil
  | succ count ih =>
    refine .ite (fun hlt => ?_) fun _ => allInside_nil
    refine (ensures_sdesChunk (by omega)).attempt.bind fun o ho => ?_
    cases o with
    | none => exact allInside_nil
    | some chunk =>
      refine ih.bind fun chunks hchunks => ?_
      have hchunk := (ho.1 chunk rfl).2.mono (Nat.le_add_right base offset)
        (by omega : base + offset + (len - offset) ≤ base + len)
      rw [pure_eq, ensures_value, flatMap_cons, allInside_append]
      exact ⟨hchunk, hchunks⟩

theorem ensures_sdesPacket (h : base + len ≤ buf.length) (hlen : commonHeaderSize ≤ len) :
    (SdesPacket.parse buf base len).Ensures fun chunks =>
      AllInside base len (chunks.flatMap SdesChunk.extents) := by
  simp only [commonHeaderSize] at hlen
  refine (ensures_headerCount (by omega)).bind fun count _ => ?_
  refine (ensures_parseChunks h).bind fun chunks hchunks => ?_
  exact ensures_require.bind fun _ _ => hchunks

/-! ### BYE -/

structure ByePacket where
  ssrcs : List Ssrc
  reason : Option Extent
  deriving DecidableEq

def ByePacket.extents (packet : ByePacket) : List Extent :=
  packet.ssrcs.map Ssrc.extent ++ packet.reason.toList

/-- The SSRC loop: the SSRCs and the offset behind them. -/
def ByePacket.parseSsrcs (buf : List UInt8) (base len : ℕ) : ℕ → ℕ → Checked (List Ssrc × ℕ)
  | 0, offset => return ([], offset)
  | count + 1, offset =>
    if offset < len then do
      require (4 ≤ len - offset)
      let ssrc ← readSsrc buf (base + offset)
      let (ssrcs, offset) ← parseSsrcs buf base len count (offset + 4)
      return (ssrc :: ssrcs, offset)
    else return ([], offset)

/-- The optional reason; one that does not fit is left out. -/
def ByePacket.parseReason (buf : List UInt8) (base len offset : ℕ) : Checked (Option Extent) :=
  if offset < len then do
    let length ← read buf (base + offset)
    let offset := offset + 1
    if length.toNat ≤ len - offset then do
      let _ ← readBe buf length.toNat (base + offset)
      return some ⟨base + offset, length.toNat⟩
    else return none
  else return none

def ByePacket.parse (buf : List UInt8) (base len : ℕ) : Checked ByePacket := do
  let count ← headerCount buf base
  let (ssrcs, offset) ← parseSsrcs buf base len count commonHeaderSize
  let reason ← parseReason buf base len offset
  return { ssrcs, reason }

theorem ensures_parseSsrcs (h : base + len ≤ buf.length) :
    (ByePacket.parseSsrcs buf base len count offset).Ensures fun r =>
      AllInside base len (r.1.map Ssrc.extent) := by
  induction count generalizing offset with
  | zero => exact allInside_nil
  | succ count ih =>
    refine .ite (fun hlt => ?_) fun _ => allInside_nil
    refine ensures_require.bind fun _ h4 => ?_
    refine (ensures_readSsrc (by omega)).bind fun ssrc hssrc => ih.bind fun r hr => ?_
    refine allInside_cons.mpr ⟨?_, hr⟩
    rw [hssrc]
    show base ≤ base + offset ∧ base + offset + 4 ≤ base + len
    omega

theorem ensures_parseReason (h : base + len ≤ buf.length) :
    (ByePacket.parseReason buf base len offset).Ensures fun o => AllInside base len o.toList := by
  refine .ite (fun hlt => ?_) fun _ => allInside_nil
  refine (ensures_read (by omega)).bind fun length _ => .ite (fun hroom => ?_) fun _ =>
    allInside_nil
  refine (ensures_readBe (by omega)).bind fun _ _ => allInside_cons.mpr ⟨?_, allInside_nil⟩
  show base ≤ base + (offset + 1) ∧ base + (offset + 1) + length.toNat ≤ base + len
  omega

theorem ensures_byePacket (h : base + len ≤ buf.length) (hlen : commonHeaderSize ≤ len) :
    (ByePacket.parse buf base len).Ensures fun packet => AllInside base len packet.extents := by
  simp only [commonHeaderSize] at hlen
  refine (ensures_headerCount (by omega)).bind fun count _ => ?_
  refine (ensures_parseSsrcs h).bind fun r hr => ?_
  refine (ensures_parseReason h).bind fun reason hreason => ?_
  exact allInside_append.mpr ⟨hr, hreason⟩

/-! ### Extended reports -/

inductive ExtendedReportBlock where
  | receiverReferenceTime (block : Extent)
  | delaySinceLastRr (header : ℕ) (ssrcInfos : List Extent)
  deriving DecidableEq

namespace ExtendedReportBlock

def getSize : ExtendedReportBlock → ℕ
  | receiverReferenceTime _ => 4 + 8
  | delaySinceLastRr _ ssrcInfos => 4 + (ssrcInfos.map Extent.size).sum

def extents : ExtendedReportBlock → List Extent
  | receiverReferenceTime block => [block]
  | delaySinceLastRr header ssrcInfos =>
    ⟨header, getSize (delaySinceLastRr header ssrcInfos)⟩ :: ssrcInfos

end ExtendedReportBlock

def SsrcInfo.parse (pos len : ℕ) : Option Extent := parseFixed 12 pos len

/-- The sub-block loop.  The source advances `offset` twice for each sub-block, so
every second one is left out. -/
def DelaySinceLastRr.parseSsrcInfos (pos len : ℕ) : ℕ → ℕ → ℕ → Checked (List Extent)
  | 0, _, _ => outOfFuel
  | fuel + 1, offset, reportLength =>
    if offset < len ∧ 12 ≤ reportLength then
      match SsrcInfo.parse (pos + offset) (len - offset) with
      | none => return []
      | some ssrcInfo => do
        let rest ← parseSsrcInfos pos len fuel (offset + ssrcInfo.size + ssrcInfo.size)
          (reportLength - 12)
        return ssrcInfo :: rest
    else return []

def DelaySinceLastRr.parse (buf : List UInt8) (pos len : ℕ) : Checked ExtendedReportBlock := do
  let length ← readBe buf 2 (pos + 2)
  let reportLength := length * 4 % 65536
  let ssrcInfos ← parseSsrcInfos pos len (len + 1) 4 reportLength
  return .delaySinceLastRr pos ssrcInfos

/-- A block, or `none` if it does not fit or has an unknown type. -/
def ExtendedReportBlock.parse (buf : List UInt8) (pos len : ℕ) :
    Checked (Option ExtendedReportBlock) :=
  if len < commonHeaderSize then return none
  else do
    let blockType ← read buf pos
    match blockType.toNat with
    | 4 => return (parseFixed (4 + 8) pos len).map receiverReferenceTime
    | 5 => do
      let block ← DelaySinceLastRr.parse buf pos len
      return some block
    | _ => return none

structure ExtendedReportPacket where
  ssrc : Ssrc
  reports : List ExtendedReportBlock
  deriving DecidableEq

def ExtendedReportPacket.extents (packet : ExtendedReportPacket) : List Extent :=
  packet.ssrc.extent :: packet.reports.flatMap ExtendedReportBlock.extents

def ExtendedReportPacket.parseReports (buf : List UInt8) (base len : ℕ) :
    ℕ → ℕ → Checked (List ExtendedReportBlock)
  | 0, _ => outOfFuel
  | fuel + 1, offset =>
    if offset < len then do
      match ← ExtendedReportBlock.parse buf (base + offset) (len - offset) with
      | none => return []
      | some report => do
        let reports ← parseReports buf base len fuel (offset + report.getSize)
        return report :: reports
    else return []

def ExtendedReportPacket.parse (buf : List UInt8) (base len : ℕ) :
    Checked ExtendedReportPacket := do
  require (commonHeaderSize + 4 ≤ len)
  let ssrc ← readSsrc buf (base + commonHeaderSize)
  let reports ← parseReports buf base len (len + 1) (commonHeaderSize + 4)
  return { ssrc, reports }

/-- The sub-blocks lie inside the bytes of the block, and so does the block with the
size it reports, although the sub-blocks are read at twice their distance. -/
theorem ensures_parseSsrcInfos {reportLength : ℕ} (hfuel : len - offset < fuel) :
    (DelaySinceLastRr.parseSsrcInfos pos len fuel offset reportLength).Ensures fun infos =>
      AllInside pos len infos ∧ (infos = [] ∨ offset + (infos.map Extent.size).sum ≤ len) := by
  induction fuel generalizing offset reportLength with
  | zero => omega
  | succ fuel ih =>
    refine .ite (fun hlt => ?_) fun _ => ⟨allInside_nil, .inl rfl⟩
    split
    · exact ⟨allInside_nil, .inl rfl⟩
    next ssrcInfo hinfo =>
    obtain ⟨hroom, rfl⟩ := parseFixed_eq_some hinfo
    refine (ih (by simp only; omega)).bind fun infos hinfos => ⟨?_, .inr ?_⟩
    · refine allInside_cons.mpr ⟨?_, hinfos.1⟩
      show pos ≤ pos + offset ∧ pos + offset + 12 ≤ pos + len
      omega
    · rw [map_cons, sum_cons]
      rcases hinfos.2 with rfl | hsum
      · simp only [map_nil, sum_nil]
        omega
      · simp only at hsum ⊢
        omega

/-- What a parser of blocks may return. -/
def ExtendedReportBlock.Fits (pos len : ℕ) (block : ExtendedReportBlock) : Prop :=
  AllInside pos len block.extents ∧ 0 < block.getSize

theorem ensures_delaySinceLastRr (h : pos + len ≤ buf.length) (hlen : 4 ≤ len) :
    (DelaySinceLastRr.parse buf pos len).Ensures (ExtendedReportBlock.Fits pos len) := by
  refine (ensures_readBe (by omega)).bind fun length _ => ?_
  refine (ensures_parseSsrcInfos (by omega)).bind fun infos hinfos => ?_
  refine ⟨allInside_cons.mpr ⟨?_, hinfos.1⟩, ?_⟩
  · refine ⟨le_rfl, ?_⟩
    simp only [ExtendedReportBlock.getSize]
    rcases hinfos.2 with rfl | hsum
    · simpa using hlen
    · omega
  · show 0 < 4 + _
    omega

theorem ensures_extendedReportBlock (h : pos + len ≤ buf.length) :
    (ExtendedReportBlock.parse buf pos len).Ensures fun o => ∀ block, o = some block →
      block.Fits pos len := by
  refine .ite (fun _ => by simp) fun hlen => ?_
  simp only [commonHeaderSize] at hlen
  refine (ensures_read (by omega)).bind fun blockType _ => ?_
  split
  · intro block hblock
    obtain ⟨extent, hextent, rfl⟩ := Option.map_eq_some_iff.mp hblock
    obtain ⟨hroom, rfl⟩ := parseFixed_eq_some hextent
    refine ⟨allInside_cons.mpr ⟨⟨le_rfl, ?_⟩, allInside_nil⟩, ?_⟩
    · simpa using hroom
    · show 0 < 4 + 8
      omega
  · refine (ensures_delaySinceLastRr h (by omega)).bind fun block hblock => ?_
    rintro _ ⟨⟩
    exact hblock
  · simp

theorem ensures_parseReports (h : base + len ≤ buf.length) (hfuel : len - offset < fuel) :
    (ExtendedReportPacket.parseReports buf base len fuel offset).Ensures fun reports =>
      AllInside base len (reports.flatMap ExtendedReportBlock.extents) := by
  induction fuel generalizing offset with
  | zero => omega
  | succ fuel ih =>
    refine .ite (fun hlt => ?_) fun _ => allInside_nil
    refine (ensures_extendedReportBlock (by omega)).bind fun o ho => ?_
    cases o with
    | none => exact allInside_nil
    | some report =>
      obtain ⟨hinside, hpos⟩ := ho report rfl
      refine (ih (by omega)).bind fun reports hreports => ?_
      rw [pure_eq, ensures_value, flatMap_cons, allInside_append]
      exact ⟨hinside.mono (Nat.le_add_right base offset) (by omega), hreports⟩

theorem ensures_extendedReportPacket (h : base + len ≤ buf.length) :
    (ExtendedReportPacket.parse buf base len).Ensures fun packet =>
      AllInside base len packet.extents := by
  refine ensures_require.bind fun _ hlen => ?_
  simp only [commonHeaderSize] at hlen ⊢
  refine (ensures_readSsrc (by omega)).bind fun ssrc hssrc => ?_
  refine (ensures_parseReports h (by omega)).bind fun reports hreports => ?_
  refine allInside_cons.mpr ⟨?_, hreports⟩
  rw [hssrc]
  show base ≤ base + 4 ∧ base + 4 + 4 ≤ base + len
  omega

end Rtcp

end Mediasoup
