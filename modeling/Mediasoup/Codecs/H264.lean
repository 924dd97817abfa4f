/-
The H264 and H264-SVC payload parsers (`RTC::Codecs::H264::Parse` and
`RTC::Codecs::H264_SVC::Parse`).

Both detect key frames in single NAL units, in aggregation packets (STAP-A) and
in fragmentation units (FU-A, FU-B).  The walk over an aggregation packet keeps
`offset + len` equal to the payload length.

* `H264.safe_parse` — every read of the H264 parser is inside the payload and its
  walk over aggregated units ends.
* `H264Svc.safe_parse_iff` — the H264-SVC parser reads the second byte of a unit
  of type 14 or 20 before checking that there is one: it stays inside the payload
  exactly when no such unit is cut right after its first byte.
-/
import Mediasoup.Codecs.VP9

open List Bytes Checked

namespace Mediasoup

/-- The frame marking header extension. -/
structure FrameMarking where
  start : Bool
  end_ : Bool
  independent : Bool
  discardable : Bool
  base : Bool
  tid : ℕ
  lid : ℕ
  tl0picidx : ℕ

def nalType (byte : UInt8) : ℕ := bits byte 0 5

namespace H264

structure PayloadDescriptor where
  -- Fields in frame-marking extension.
  s : Bool := false
  e : Bool := false
  i : Bool := false
  d : Bool := false
  b : Bool := false
  tid : ℕ := 0
  lid : ℕ := 0
  tl0picidx : ℕ := 0
  -- Parsed values.
  hasLid : Bool := false
  hasTid : Bool := false
  hasTl0picidx : Bool := false
  isKeyFrame : Bool := false
  deriving DecidableEq

def readFrameMarking (fm : FrameMarking) (frameMarkingLen : ℕ) : PayloadDescriptor :=
  { s := fm.start, e := fm.end_, i := fm.independent, d := fm.discardable, b := fm.base
    tid := fm.tid
    hasTid := true
    hasLid := 2 ≤ frameMarkingLen
    lid := if 2 ≤ frameMarkingLen then fm.lid else 0
    hasTl0picidx := frameMarkingLen = 3
    tl0picidx := if frameMarkingLen = 3 then fm.tl0picidx else 0
    isKeyFrame := fm.start && fm.independent }

/-- The walk over the units of a STAP-A packet: `offset` is the position of the
next unit's size field and `len` the number of bytes from there on. -/
def iterateNalUnits (data : List UInt8) (pd : PayloadDescriptor) :
    ℕ → ℕ → ℕ → Checked PayloadDescriptor
  | 0, _, _ => outOfFuel
  | fuel + 1, offset, len =>
    if 3 ≤ len then do
      let naluSize ← readBe data 2 offset
      let subnal ← read data (offset + 2)
      if nalType subnal = 7 then return { pd with isKeyFrame := true }
      -- Check if there is room for the indicated NAL unit size.
      else if len < naluSize + 2 then return pd
      else iterateNalUnits data pd fuel (offset + (naluSize + 2)) (len - (naluSize + 2))
    else return pd

def parsePayload (data : List UInt8) (pd : PayloadDescriptor) : Checked PayloadDescriptor := do
  let nal ← read data 0
  match nalType nal with
  | 7 => return { pd with isKeyFrame := true }
  | 24 => iterateNalUnits data pd data.length 1 (data.length - 1)
  | 28 | 29 => do
    let subnal ← read data 1
    return if nalType subnal = 7 ∧ bit subnal 7 then { pd with isKeyFrame := true } else pd
  | _ => return pd

def parse (data : List UInt8) (frameMarking : Option FrameMarking) (frameMarkingLen : ℕ) :
    Checked PayloadDescriptor := do
  require (2 ≤ data.length)
  let pd := frameMarking.elim {} (readFrameMarking · frameMarkingLen)
  if frameMarking.isNone ∨ !pd.isKeyFrame then parsePayload data pd else return pd

theorem safe_iterateNalUnits {data : List UInt8} {pd : PayloadDescriptor} {fuel offset len : ℕ}
    (hlen : offset + len = data.length) (hfuel : len < fuel) :
    (iterateNalUnits data pd fuel offset len).Safe := by
  induction fuel generalizing offset len with
  | zero => omega
  | succ fuel ih =>
    refine .ite (fun h3 => ?_) fun _ => trivial
    refine (ensures_readBe (by omega)).bind fun naluSize _ => ?_
    refine (ensures_read (by omega)).bind fun _ _ => ?_
    refine .ite (fun _ => trivial) fun _ => .ite (fun _ => trivial) fun hroom => ?_
    exact ih (by omega) (by omega)

theorem safe_parsePayload {data : List UInt8} (pd : PayloadDescriptor) (h : 2 ≤ data.length) :
    (parsePayload data pd).Safe := by
  refine (ensures_read (by omega)).bind fun nal _ => ?_
  split
  · trivial
  · exact safe_iterateNalUnits (by omega) (by omega)
  · exact (ensures_read (by omega)).bind fun _ _ => trivial
  · exact (ensures_read (by omega)).bind fun _ _ => trivial
  · trivial

/-- **H264 payloads** are parsed inside the payload, and the walk over aggregated
units ends. -/
theorem safe_parse (data : List UInt8) (frameMarking : Option FrameMarking)
    (frameMarkingLen : ℕ) : (parse data frameMarking frameMarkingLen).Safe := by
  refine ensures_require.bind fun _ h2 => ?_
  exact .ite (fun _ => safe_parsePayload _ h2) fun _ => trivial

end H264

namespace H264Svc

structure PayloadDescriptor where
  -- Fields in frame-marking extension.
  s : Bool := false
  e : Bool := false
  i : Bool := false
  d : Bool := false
  b : Bool := false
  slIndex : ℕ := 0
  tlIndex : ℕ := 0
  tl0picidx : ℕ := 0
  -- Parsed values.
  hasSlIndex : Bool := false
  hasTlIndex : Bool := false
  hasTl0picidx : Bool := false
  isKeyFrame : Bool := false
  -- Extension fields.
  idr : Bool := false
  priorityId : ℕ := 0
  noIntLayerPredFlag : Bool := true
  deriving DecidableEq

def readFrameMarking (fm : FrameMarking) (frameMarkingLen : ℕ) : PayloadDescriptor :=
  { s := fm.start, e := fm.end_, i := fm.independent, d := fm.discardable, b := fm.base
    tlIndex := fm.tid
    hasTlIndex := true
    hasSlIndex := 2 ≤ frameMarkingLen
    slIndex := if 2 ≤ frameMarkingLen then fm.lid >>> 4 % 8 else 0
    hasTl0picidx := frameMarkingLen = 3
    tl0picidx := if frameMarkingLen = 3 then fm.tl0picidx else 0
    isKeyFrame := fm.start && fm.independent }

/-- The header extension of a unit of type 14 or 20.  Its first byte is read
before any check of the length. -/
def parseNaluExtension (data : List UInt8) (base len : ℕ) (pd : PayloadDescriptor)
    (isStartBit : Bool) : Checked PayloadDescriptor := do
  let byte ← read data (base + 1)
  let pd := { pd with
    idr := bit byte 6
    priorityId := (byte &&& 6).toNat
    isKeyFrame := isStartBit && bit byte 6 }
  require (3 ≤ len)
  let byte ← read data (base + 2)
  let pd := { pd with noIntLayerPredFlag := bit byte 7, slIndex := bits byte 4 2 }
  require (4 ≤ len)
  let byte ← read data (base + 3)
  return { pd with
    tlIndex := bits byte 5 2
    hasSlIndex := pd.slIndex ≠ 0
    hasTlIndex := bits byte 5 2 ≠ 0 }

/-- A unit given as the `len` bytes of `data` from `base` on. -/
def parseSingleNalu (data : List UInt8) (base len : ℕ) (pd : PayloadDescriptor)
    (isStartBit : Bool) : Checked PayloadDescriptor := do
  let nal ← read data base
  match nalType nal with
  | 5 => return { pd with
      isKeyFrame := true, slIndex := 0, tlIndex := 0, hasSlIndex := false, hasTlIndex := false }
  | 1 => return { pd with slIndex := 0, tlIndex := 0, hasSlIndex := false, hasTlIndex := false }
  | 14 | 20 => parseNaluExtension data base len pd isStartBit
  | 7 => return { pd with isKeyFrame := isStartBit }
  | _ => return pd

/-- The walk over the units of a STAP-A packet: `offset` is the position of the
next unit's size field and `len` the number of bytes from there on. -/
def iterateNalUnits (data : List UInt8) : ℕ → ℕ → ℕ → PayloadDescriptor → Checked PayloadDescriptor
  | 0, _, _, _ => outOfFuel
  | fuel + 1, offset, len, pd =>
    if 3 ≤ len then do
      let naluSize ← readBe data 2 offset
      let pd ← parseSingleNalu data (offset + 2) (len - 2) pd true
      if pd.isKeyFrame then return pd
      -- Check if there is room for the indicated NAL unit size.
      else if len < naluSize + 2 then return pd
      else iterateNalUnits data fuel (offset + (naluSize + 2)) (len - (naluSize + 2)) pd
    else return pd

def parsePayload (data : List UInt8) (pd : PayloadDescriptor) : Checked PayloadDescriptor := do
  let nal ← read data 0
  match nalType nal with
  | 1 | 5 | 7 | 14 | 20 => parseSingleNalu data 0 data.length pd true
  | 24 => iterateNalUnits data data.length 1 (data.length - 1) pd
  | 28 | 29 => do
    let indicator ← read data 1
    if bit indicator 7 then parseSingleNalu data 1 (data.length - 1) pd true else return pd
  | _ => return pd

def parse (data : List UInt8) (frameMarking : Option FrameMarking) (frameMarkingLen : ℕ) :
    Checked PayloadDescriptor := do
  require (2 ≤ data.length)
  let pd := frameMarking.elim {} (readFrameMarking · frameMarkingLen)
  if frameMarking.isNone ∨ !pd.isKeyFrame then parsePayload data pd else return pd

/-! ### Units cut after their first byte -/

/-- Units of these types carry a three-byte header extension. -/
def HasExtension (byte : UInt8) : Prop := nalType byte = 14 ∨ nalType byte = 20

instance (byte : UInt8) : Decidable (HasExtension byte) := inferInstanceAs (Decidable (_ ∨ _))

/-- The walk goes on behind `unit`: it is no key frame and, if it has a header
extension, the extension is complete. -/
def GoesOn : List UInt8 → Prop
  | [] => False
  | byte :: rest =>
    nalType byte ≠ 5 ∧ nalType byte ≠ 7 ∧
      (HasExtension byte → 3 ≤ rest.length ∧ ∃ ext, rest[0]? = some ext ∧ bit ext 6 = false)

/-- From a unit's size field on, the walk over an aggregation packet comes to a
unit with a header extension of which nothing but the first byte is left. -/
inductive ReachesCutNalu : List UInt8 → Prop
  | here {hi lo byte : UInt8} (h : HasExtension byte) : ReachesCutNalu [hi, lo, byte]
  | next {hi lo : UInt8} {unit : List UInt8} (hgo : GoesOn unit)
      (hroom : hi.toNat * 256 + lo.toNat ≤ unit.length)
      (hrest : ReachesCutNalu (unit.drop (hi.toNat * 256 + lo.toNat))) :
      ReachesCutNalu (hi :: lo :: unit)

theorem ReachesCutNalu.three_le_length {rest : List UInt8} (h : ReachesCutNalu rest) :
    3 ≤ rest.length := by
  cases h with
  | here h => simp
  | @next hi lo unit hgo hroom hrest =>
    cases unit with
    | nil => exact absurd hgo id
    | cons byte unit => simp

variable {data : List UInt8} {pd : PayloadDescriptor}

theorem parseSingleNalu_cases {base : ℕ} {byte : UInt8} {tail : List UInt8}
    (hd : data.drop base = byte :: tail) (hpd : pd.isKeyFrame = false) :
    (HasExtension byte ∧ tail = [] ∧
      parseSingleNalu data base (tail.length + 1) pd true = outOfBounds) ∨
    (¬ (HasExtension byte ∧ tail = []) ∧ ¬ GoesOn (byte :: tail) ∧
      parseSingleNalu data base (tail.length + 1) pd true = reject) ∨
    (¬ (HasExtension byte ∧ tail = []) ∧ ∃ pd',
      parseSingleNalu data base (tail.length + 1) pd true = value pd' ∧
      (pd'.isKeyFrame = false ↔ GoesOn (byte :: tail))) := by
  have hget : ∀ k, data[base + k]? = (byte :: tail)[k]? := by
    intro k
    rw [← hd, List.getElem?_drop]
  have h0 : read data base = value byte := read_eq_value.mpr (hget 0)
  by_cases hext : HasExtension byte
  · -- the length checks come one byte too late
    have hparse : parseSingleNalu data base (tail.length + 1) pd true =
        parseNaluExtension data base (tail.length + 1) pd true := by
      rcases hext with h | h <;> simp only [parseSingleNalu, h0, value_bind, h]
    rw [hparse]
    have hno : nalType byte ≠ 5 ∧ nalType byte ≠ 7 := by
      rcases hext with h | h <;> simp [h]
    cases tail with
    | nil =>
      refine .inl ⟨hext, rfl, ?_⟩
      have h1 : read data (base + 1) = outOfBounds := by
        rw [Checked.read, hget 1]
        rfl
      rw [parseNaluExtension, h1, outOfBounds_bind]
    | cons b1 tail =>
      have h1 : read data (base + 1) = value b1 := read_eq_value.mpr (hget 1)
      refine .inr ?_
      rcases tail with _ | ⟨b2, _ | ⟨b3, tail⟩⟩
      · refine .inl ⟨by simp, by simp [GoesOn, hext], ?_⟩
        simp [parseNaluExtension, h1, require]
      · refine .inl ⟨by simp, by simp [GoesOn, hext], ?_⟩
        have h2 : read data (base + 2) = value b2 := read_eq_value.mpr (hget 2)
        simp [parseNaluExtension, h1, h2, require]
      · have h2 : read data (base + 2) = value b2 := read_eq_value.mpr (hget 2)
        have h3 : read data (base + 3) = value b3 := read_eq_value.mpr (hget 3)
        refine .inr ⟨by simp, ?_⟩
        simp [parseNaluExtension, h1, h2, h3, require, GoesOn, hno, hext]
  · refine .inr (.inr ⟨fun h => hext h.1, ?_⟩)
    rw [parseSingleNalu, h0, value_bind]
    unfold HasExtension at hext
    split <;> simp_all [GoesOn, HasExtension]

theorem safe_iterateNalUnits_iff {fuel offset len : ℕ} (hlen : offset + len = data.length)
    (hfuel : len < fuel) (hpd : pd.isKeyFrame = false) :
    (iterateNalUnits data fuel offset len pd).Safe ↔ ¬ ReachesCutNalu (data.drop offset) := by
  induction fuel generalizing offset len pd with
  | zero => omega
  | succ fuel ih =>
    have hdl : (data.drop offset).length = len := by
      rw [length_drop]
      omega
    rw [iterateNalUnits]
    by_cases h3 : 3 ≤ len
    · rw [if_pos h3]
      obtain ⟨hi, lo, byte, tail, hd⟩ :
          ∃ hi lo byte tail, data.drop offset = hi :: lo :: byte :: tail := by
        match h : data.drop offset with
        | hi :: lo :: byte :: tail => exact ⟨hi, lo, byte, tail, rfl⟩
        | [] | [_] | [_, _] => simp_all; omega
      have hget : ∀ k, data[offset + k]? = (hi :: lo :: byte :: tail)[k]? := by
        intro k
        rw [← hd, List.getElem?_drop]
      have hsize : readBe data 2 offset = value (hi.toNat * 256 + lo.toNat) := by
        have hhi : Checked.read data offset = value hi := read_eq_value.mpr (hget 0)
        have hlo : Checked.read data (offset + 1) = value lo := read_eq_value.mpr (hget 1)
        simp [readBe, hhi, hlo]
      have hd2 : data.drop (offset + 2) = byte :: tail := by
        rw [← drop_drop, hd]
        rfl
      have htail : len - 2 = tail.length + 1 := by
        rw [← hdl, hd]
        simp
      rw [hsize, value_bind, htail, hd]
      -- what the unit does: reads past the end, is rejected, or lets the loop go on
      rcases parseSingleNalu_cases hd2 hpd with
        ⟨hext, rfl, hp⟩ | ⟨hcut, hgo, hp⟩ | ⟨hcut, pd', hp, hkey⟩
      · rw [hp, outOfBounds_bind]
        exact iff_of_false not_safe_outOfBounds (not_not_intro (.here hext))
      · rw [hp, reject_bind]
        refine iff_of_true safe_reject ?_
        rintro (h | ⟨hgo', -, -⟩)
        · exact hcut ⟨h, rfl⟩
        · exact hgo hgo'
      · rw [hp, value_bind]
        -- a key frame ends the loop, and so does a size field that leaves the packet
        by_cases hk : pd'.isKeyFrame = false
        · have hgo := hkey.mp hk
          simp only [hk, Bool.false_eq_true, if_false]
          by_cases hroom : len < hi.toNat * 256 + lo.toNat + 2
          · rw [if_pos hroom]
            refine iff_of_true (safe_value _) ?_
            rintro (h | ⟨-, hr, -⟩)
            · exact hcut ⟨h, rfl⟩
            · rw [length_cons] at hr
              omega
          · rw [if_neg hroom, ih (by omega) (by omega) hk, ← drop_drop, hd, not_iff_not]
            have hdrop : ∀ n, (hi :: lo :: byte :: tail).drop (n + 2) = (byte :: tail).drop n :=
              fun _ => rfl
            rw [hdrop]
            constructor
            · intro h
              exact .next hgo (by rw [length_cons]; omega) h
            · rintro (h | ⟨-, -, h⟩)
              · exact absurd ⟨h, rfl⟩ hcut
              · exact h
        · rw [Bool.not_eq_false] at hk
          rw [if_pos hk]
          refine iff_of_true (safe_value _) ?_
          rintro (h | ⟨hgo', -, -⟩)
          · exact hcut ⟨h, rfl⟩
          · simp [hkey.mpr hgo'] at hk
    · rw [if_neg h3]
      refine iff_of_true (safe_value _) fun h => ?_
      have := h.three_le_length
      omega

/-- The payload makes the parser look at a unit of type 14 or 20 that is cut right
after its first byte: as the last unit of an aggregation packet, or as the first
fragment of a unit. -/
def CutNalu : List UInt8 → Prop
  | [] => False
  | byte :: rest =>
    (nalType byte = 24 ∧ ReachesCutNalu rest) ∨
    ((nalType byte = 28 ∨ nalType byte = 29) ∧
      ∃ indicator, rest = [indicator] ∧ bit indicator 7 ∧ HasExtension indicator)

theorem safe_parseSingleNalu_iff {base : ℕ} {byte : UInt8} {tail : List UInt8}
    (hd : data.drop base = byte :: tail) (hpd : pd.isKeyFrame = false) :
    (parseSingleNalu data base (tail.length + 1) pd true).Safe ↔
      ¬ (HasExtension byte ∧ tail = []) := by
  rcases parseSingleNalu_cases hd hpd with
    ⟨hext, ht, hp⟩ | ⟨hcut, -, hp⟩ | ⟨hcut, pd', hp, -⟩
  · rw [hp]
    exact iff_of_false not_safe_outOfBounds (not_not_intro ⟨hext, ht⟩)
  · rw [hp]
    exact iff_of_true safe_reject hcut
  · rw [hp]
    exact iff_of_true (safe_value pd') hcut

theorem safe_parsePayload_iff (h2 : 2 ≤ data.length) (hpd : pd.isKeyFrame = false) :
    (parsePayload data pd).Safe ↔ ¬ CutNalu data := by
  obtain ⟨byte, second, rest, rfl⟩ : ∃ byte second rest, data = byte :: second :: rest := by
    match data, h2 with
    | byte :: second :: rest, _ => exact ⟨byte, second, rest, rfl⟩
  have h0 : Checked.read (byte :: second :: rest) 0 = value byte := rfl
  have h1 : Checked.read (byte :: second :: rest) 1 = value second := rfl
  have hsingle : (parseSingleNalu (byte :: second :: rest) 0 (byte :: second :: rest).length
      pd true).Safe :=
    (safe_parseSingleNalu_iff rfl hpd).mpr (by simp)
  have hfu : (nalType byte = 28 ∨ nalType byte = 29) →
      ((if bit second 7 then parseSingleNalu (byte :: second :: rest) 1
        ((byte :: second :: rest).length - 1) pd true else value pd).Safe ↔
        ¬ CutNalu (byte :: second :: rest)) := by
    intro hty
    have hcut : CutNalu (byte :: second :: rest) ↔
        bit second 7 ∧ HasExtension second ∧ rest = [] := by
      have h24 : nalType byte ≠ 24 := by omega
      simp [CutNalu, h24, hty, and_assoc, and_comm, and_left_comm]
    rw [hcut]
    by_cases hb : bit second 7
    · rw [if_pos hb, length_cons, length_cons, Nat.add_sub_cancel,
        safe_parseSingleNalu_iff rfl hpd]
      simp [hb]
    · rw [if_neg hb]
      exact iff_of_true (safe_value pd) (by simp [hb])
  rw [parsePayload, h0, value_bind, h1, value_bind]
  -- only aggregation packets and fragmentation units can hold a cut unit
  have hother : nalType byte ≠ 24 → nalType byte ≠ 28 → nalType byte ≠ 29 →
      ¬ CutNalu (byte :: second :: rest) := by
    intro h24 h28 h29
    simp [CutNalu, h24, h28, h29]
  split
  case h_6 ht =>
    rw [safe_iterateNalUnits_iff (by simp; omega) (by simp) hpd]
    simp [CutNalu, ht]
  case h_7 ht => exact hfu (.inl ht)
  case h_8 ht => exact hfu (.inr ht)
  case h_9 h => exact iff_of_true (safe_value pd) (hother (by simp_all) (by simp_all) (by simp_all))
  all_goals exact iff_of_true hsingle (hother (by omega) (by omega) (by omega))

/-- **H264-SVC payloads** are parsed inside the payload exactly when the frame
marking already shows a key frame or the payload has no unit of type 14 or 20 cut
right after its first byte in a place the parser looks at. -/
theorem safe_parse_iff (frameMarking : Option FrameMarking)
    (frameMarkingLen : ℕ) : (parse data frameMarking frameMarkingLen).Safe ↔
      (frameMarking.any fun fm => fm.start && fm.independent) ∨ ¬ CutNalu data := by
  rw [parse]
  by_cases h2 : 2 ≤ data.length
  · simp only [require, h2, if_true, value_bind]
    cases frameMarking with
    | none => simpa using safe_parsePayload_iff h2 rfl
    | some fm =>
      by_cases hk : (fm.start && fm.independent) = true
      · have hkey : (readFrameMarking fm frameMarkingLen).isKeyFrame = true := hk
        simp [hkey, hk]
      · rw [Bool.not_eq_true] at hk
        have hkey : (readFrameMarking fm frameMarkingLen).isKeyFrame = false := hk
        simpa [hkey, hk] using safe_parsePayload_iff h2 hkey
  · simp only [require, h2, if_false, reject_bind, safe_reject, true_iff]
    -- `parse` returns at once, and one byte is too short to hold a cut unit
    refine .inr ?_
    rcases data with _ | ⟨byte, _ | ⟨second, rest⟩⟩
    · exact id
    · rintro (⟨-, h⟩ | ⟨-, x, h, -⟩)
      · exact absurd h.three_le_length (by simp)
      · simp at h
    · simp at h2

end H264Svc

/-- **The four payload parsers**: for every payload, whatever the frame marking,
all of them read inside the payload and end their walks over aggregated units,
exactly when the frame marking already shows a key frame or the payload has no
unit of type 14 or 20 cut right after its first byte where H264-SVC looks. -/
theorem payloadParsers_safe_iff (data : List UInt8) (frameMarking : Option FrameMarking)
    (frameMarkingLen : ℕ) : ((VP8.parse data).Safe ∧ (VP9.parse data).Safe ∧
      (H264.parse data frameMarking frameMarkingLen).Safe ∧
      (H264Svc.parse data frameMarking frameMarkingLen).Safe) ↔
      (frameMarking.any fun fm => fm.start && fm.independent) ∨ ¬ H264Svc.CutNalu data := by
  rw [← H264Svc.safe_parse_iff frameMarking frameMarkingLen]
  constructor
  · rintro ⟨-, -, -, h⟩
    exact h
  · intro h
    exact ⟨VP8.safe_parse data, VP9.safe_parse data,
      H264.safe_parse data frameMarking frameMarkingLen, h⟩

/-- An aggregation packet whose only unit is one byte of type 14 makes the
H264-SVC parser read index 4 of a four-byte payload; so does the two-byte first
fragment of such a unit at index 2. -/
theorem h264Svc_cut_nalu_out_of_bounds : H264Svc.parse [24, 0, 1, 14] none 0 = .outOfBounds ∧
      H264Svc.parse [28, 142] none 0 = .outOfBounds := by
  decide

end Mediasoup
