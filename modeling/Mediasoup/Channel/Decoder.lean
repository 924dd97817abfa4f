/-
The Go side's decoder of worker messages (`common_util.Decoder`).

The worker writes each message as a 4-byte little-endian length followed by the
payload.  `Decoder.feed` is handed the bytes of one socket read and walks them
with a three-state machine.  This file follows that machine step by step and
proves what one call to `feed` does:

* `feed_eq` — from a reset decoder a call returns, sends exactly the payloads
  `delivered data` describes and leaves the decoder reset again.

Nothing of a read survives into the next one, so a sequence of reads sends the
concatenation of what each read sends on its own (`feedAll_eq`).  Whatever the bytes
of a read are, what it sends are separate pieces of it that have the form of a frame's
payload (`feed_sound`).
-/
import Mathlib.Data.Nat.Init
import Mathlib.Tactic.ByContra
import Mathlib.Tactic.Push
import Mathlib.Tactic.Set
import Mediasoup.Lib.Bytes

open List Bytes

namespace Mediasoup

def startSymbolLeftBrace : UInt8 := 123

def endSymbolRightBrace : UInt8 := 125

/-- The longest payload the decoder takes. -/
def msgRespMaxLen : ℕ := 4194304

/-- What the decoder looks for next. -/
inductive DecoderState where
  | parseLength
  | parseSeparator
  | parseData
  | parseEnd
  deriving DecidableEq

/-- The decoder; `outputCh` holds everything ever sent on the output channel. -/
structure Decoder where
  parsedData : List UInt8
  length : ℕ
  state : DecoderState
  outputCh : List (List UInt8)
  deriving DecidableEq

/-- The errors `parse` returns. -/
inductive DecodeError where
  /-- `"data too large"` -/
  | dataTooLarge
  /-- `"ERR_DATA_LEN_INVALID_PARSELENGTH"` -/
  | dataLenInvalid

namespace Decoder

def newDecoder : Decoder := ⟨[], 0, .parseLength, []⟩

variable (d : Decoder) (i : ℕ) (data : List UInt8)

def reset : Decoder :=
  { d with length := 0, parsedData := [], state := .parseLength }

def parseEnd : Decoder × ℕ × Option DecodeError :=
  let d := if data[i]? = some endSymbolRightBrace then
    { d with outputCh := d.outputCh ++ [d.parsedData] } else d
  (d.reset, i + 1, none)

def parseData : Decoder × ℕ × Option DecodeError :=
  let dataSize := data.length - i
  if d.length > dataSize then (d, i, some .dataTooLarge)
  else
    let dataLength := min d.length dataSize
    let d := { d with
      parsedData := d.parsedData ++ (data.drop i).take dataLength
      length := d.length - dataLength }
    if d.length = 0 then ({ d with state := .parseEnd }, i + dataLength - 1, none)
    else (d, i + dataLength - 1, some .dataTooLarge)

/-- The guard also prints `data[i:i+5]`; when that slice panics the deferred
`recover` of `Feed` resets the decoder exactly as the error return does. -/
def parseLengthForPre4Byte : Decoder × ℕ × Option DecodeError :=
  let rest := data.drop i
  if rest.length < 4 ∨ (rest.length > 4 ∧ rest[4]? ≠ some startSymbolLeftBrace) then
    (d, i, some .dataTooLarge)
  else
    let dataLength := le (rest.take 4)
    if dataLength ≤ 0 ∨ dataLength > rest.length ∨ dataLength > msgRespMaxLen then
      (d, i, some .dataLenInvalid)
    else ({ d with length := dataLength, state := .parseData }, i + 4, none)

def parse : Decoder × ℕ × Option DecodeError :=
  match d.state with
  | .parseLength => d.parseLengthForPre4Byte i data
  | .parseData => d.parseData i data
  | .parseEnd => d.parseEnd i data
  | .parseSeparator => (d, i, none)

/-- The loop of `Feed`; `none` when the fuel runs out before the loop ends. -/
def feedLoop : ℕ → Decoder → ℕ → List UInt8 → Option Decoder
  | 0, _, _, _ => none
  | fuel + 1, d, i, data =>
    if i < data.length then
      match d.parse i data with
      | (d', _, some _) => some d'
      | (d', i', none) => feedLoop fuel d' i' data
    else some d

/-- One call to `Feed`: walk the read, then reset whatever happened. -/
def feed : Option Decoder :=
  (feedLoop (data.length + 1) d 0 data).map reset

/-- Successive reads, as `readLoop` makes them. -/
def feedAll (reads : List (List UInt8)) : Option Decoder :=
  reads.foldlM feed d

/-! ### What one read delivers -/

/-- The length field at the start of `data`. -/
def frameLen (data : List UInt8) : ℕ := le (data.take 4)

/-- `data` starts with a complete frame the decoder takes: a length in range,
`'{'` as the first payload byte, and the whole payload. -/
def StartsFrame (data : List UInt8) : Prop :=
  data[4]? = some startSymbolLeftBrace ∧ 0 < frameLen data ∧
    frameLen data ≤ msgRespMaxLen ∧ frameLen data + 4 ≤ data.length

instance (data : List UInt8) : Decidable (StartsFrame data) :=
  inferInstanceAs (Decidable (_ ∧ _))

def framePayload (data : List UInt8) : List UInt8 := (data.drop 4).take (frameLen data)

/-- A payload is sent only if it ends in `'}'`. -/
def sent (p : List UInt8) : List (List UInt8) :=
  if p.getLast? = some endSymbolRightBrace then [p] else []

/-- The payloads one read delivers: those ending in `'}'` among the frames that
follow each other from the start of the read, up to the first position where no
acceptable frame starts. -/
def delivered (data : List UInt8) : List (List UInt8) :=
  if _h : StartsFrame data then
    sent (framePayload data) ++ delivered (data.drop (frameLen data + 4))
  else []
termination_by data.length
decreasing_by
  obtain ⟨-, -, -, hlen⟩ := _h
  rw [length_drop]
  omega

variable {data : List UInt8} {i : ℕ}

theorem delivered_of_startsFrame (h : StartsFrame data) : delivered data =
      sent (framePayload data) ++ delivered (data.drop (frameLen data + 4)) := by
  rw [delivered, dif_pos h]

theorem delivered_of_not_startsFrame (h : ¬ StartsFrame data) : delivered data = [] := by
  rw [delivered, dif_neg h]

/-- The decoder between two frames, with `out` already sent. -/
def idle (out : List (List UInt8)) : Decoder := ⟨[], 0, .parseLength, out⟩

theorem feedLoop_frame (h : StartsFrame (data.drop i)) (fuel : ℕ) (out : List (List UInt8)) :
    feedLoop (fuel + 3) (idle out) i data =
      feedLoop fuel (idle (out ++ sent (framePayload (data.drop i))))
        (i + (frameLen (data.drop i) + 4)) data := by
  obtain ⟨hbrace, hpos, hmax, hlen⟩ := h
  set n := frameLen (data.drop i) with hn
  rw [length_drop] at hlen
  have hi : i < data.length := by omega
  have hlength : (idle out).parse i data =
      (⟨[], n, .parseData, out⟩, i + 4, none) := by
    have h1 : ¬ ((data.drop i).length < 4 ∨
        ((data.drop i).length > 4 ∧ (data.drop i)[4]? ≠ some startSymbolLeftBrace)) := by
      simp only [hbrace, length_drop, ne_eq, not_true_eq_false, and_false, or_false]
      omega
    have h2 : ¬ (n ≤ 0 ∨ n > (data.drop i).length ∨ n > msgRespMaxLen) := by
      simp only [length_drop]
      omega
    simp only [parse, idle, parseLengthForPre4Byte]
    rw [if_neg h1, show le ((data.drop i).take 4) = n from rfl, if_neg h2]
  have hdata : parse ⟨[], n, .parseData, out⟩ (i + 4) data =
      (⟨framePayload (data.drop i), 0, .parseEnd, out⟩, i + 4 + n - 1, none) := by
    have hmin : min n (data.length - (i + 4)) = n := by omega
    simp only [parse, parseData, hmin, Nat.sub_self, if_true, nil_append, framePayload,
      drop_drop, ← hn]
    rw [if_neg (by omega)]
  -- the third round looks at the last payload byte again
  have hend : parse ⟨framePayload (data.drop i), 0, .parseEnd, out⟩ (i + 4 + n - 1) data =
      (idle (out ++ sent (framePayload (data.drop i))), i + (n + 4), none) := by
    have hlast : (framePayload (data.drop i)).getLast? = data[i + 4 + n - 1]? := by
      rw [framePayload, ← hn, List.getLast?_eq_getElem?, length_take, length_drop,
        length_drop, List.getElem?_take_of_lt (by omega), List.getElem?_drop,
        List.getElem?_drop]
      congr 1
      omega
    simp only [parse, parseEnd, sent, hlast, idle, reset]
    split <;> simp <;> omega
  have hstep : ∀ (k : ℕ) (d d' : Decoder) (j j' : ℕ), j < data.length →
      d.parse j data = (d', j', none) →
      feedLoop (k + 1) d j data = feedLoop k d' j' data := by
    intro k d d' j j' hj hp
    simp only [feedLoop, hj, if_true, hp]
  rw [hstep _ _ _ _ _ hi hlength, hstep _ _ _ _ _ (by omega) hdata,
    hstep _ _ _ _ _ (by omega) hend]

theorem feedLoop_stop (hi : i < data.length) (h : ¬ StartsFrame (data.drop i)) (fuel : ℕ)
    (out : List (List UInt8)) :
    ∃ d, feedLoop (fuel + 2) (idle out) i data = some d ∧ d.outputCh = out := by
  set n := frameLen (data.drop i) with hn
  have hparse : (idle out).parse i data = (idle out).parseLengthForPre4Byte i data := rfl
  rw [feedLoop, if_pos hi, hparse, parseLengthForPre4Byte]
  by_cases h1 : (data.drop i).length < 4 ∨
      ((data.drop i).length > 4 ∧ (data.drop i)[4]? ≠ some startSymbolLeftBrace)
  · rw [if_pos h1]
    exact ⟨_, rfl, rfl⟩
  · rw [if_neg h1, show le ((data.drop i).take 4) = n from rfl]
    by_cases h2 : n ≤ 0 ∨ n > (data.drop i).length ∨ n > msgRespMaxLen
    · rw [if_pos h2]
      exact ⟨_, rfl, rfl⟩
    -- the length was taken, so it is the payload that is missing or cut
    rw [if_neg h2]
    push Not at h1 h2
    simp only [length_drop] at h1 h2
    by_cases hlt : i + 4 < data.length
    · have hshort : n > data.length - (i + 4) := by
        by_contra hc
        exact h ⟨h1.2 (by omega), by omega, by omega, by rw [length_drop]; omega⟩
      refine ⟨⟨[], n, .parseData, out⟩, ?_, rfl⟩
      simp only [idle, feedLoop, hlt, if_true, parse, parseData, hshort]
    · refine ⟨⟨[], n, .parseData, out⟩, ?_, rfl⟩
      simp only [idle, feedLoop, hlt, if_false]

theorem feedLoop_eq (data : List UInt8) (fuel i : ℕ) (out : List (List UInt8))
    (hfuel : data.length - i < fuel) : ∃ d, feedLoop fuel (idle out) i data = some d ∧
      d.outputCh = out ++ delivered (data.drop i) := by
  induction fuel using Nat.strong_induction_on generalizing i out with
  | _ fuel ih =>
    by_cases hs : StartsFrame (data.drop i)
    · have hlen := hs.2.2.2
      have hpos := hs.2.1
      rw [length_drop] at hlen
      obtain ⟨k, rfl⟩ : ∃ k, fuel = k + 3 := ⟨fuel - 3, by omega⟩
      rw [feedLoop_frame hs, delivered_of_startsFrame hs, drop_drop, ← append_assoc]
      exact ih k (by omega) _ _ (by omega)
    · rw [delivered_of_not_startsFrame hs, append_nil]
      by_cases hi : i < data.length
      · obtain ⟨k, rfl⟩ : ∃ k, fuel = k + 2 := ⟨fuel - 2, by omega⟩
        exact feedLoop_stop hi hs k out
      · obtain ⟨k, rfl⟩ : ∃ k, fuel = k + 1 := ⟨fuel - 1, by omega⟩
        exact ⟨idle out, by rw [feedLoop, if_neg hi], rfl⟩

/-- **One call to `Feed`** terminates, sends the payloads `delivered` describes
and leaves a reset decoder. -/
theorem feed_eq (out : List (List UInt8)) (data : List UInt8) :
    feed (idle out) data = some (idle (out ++ delivered data)) := by
  obtain ⟨d, hd, hout⟩ := feedLoop_eq data (data.length + 1) 0 out (by omega)
  rw [feed, hd, Option.map_some, reset, hout, drop_zero]
  rfl

theorem feedAll_idle (reads : List (List UInt8)) (out : List (List UInt8)) :
    feedAll (idle out) reads = some (idle (out ++ reads.flatMap delivered)) := by
  induction reads generalizing out with
  | nil => simp [feedAll]
  | cons r rs ih =>
    have hcons : feedAll (idle out) (r :: rs) = (feed (idle out) r).bind (feedAll · rs) := rfl
    rw [hcons, feed_eq, Option.bind_some, ih, flatMap_cons, append_assoc]

/-- Reads are independent of each other: a new decoder sends what each of them
delivers on its own. -/
theorem feedAll_eq (reads : List (List UInt8)) :
    feedAll newDecoder reads = some (idle (reads.flatMap delivered)) := by
  have h := feedAll_idle reads []
  rwa [nil_append] at h

/-! ### Arbitrary reads -/

/-- `n` bytes from position `p` on are a payload in braces, with its length before it. -/
def PayloadAt (data : List UInt8) (p n : ℕ) : Prop :=
  4 ≤ p ∧ p + n ≤ data.length ∧ le ((data.drop (p - 4)).take 4) = n ∧
    ((data.drop p).take n).head? = some startSymbolLeftBrace ∧
    ((data.drop p).take n).getLast? = some endSymbolRightBrace

theorem StartsFrame.payloadAt (h : StartsFrame (data.drop i))
    (hlast : (framePayload (data.drop i)).getLast? = some endSymbolRightBrace) :
    PayloadAt data (i + 4) (frameLen (data.drop i)) := by
  obtain ⟨hbrace, hpos, -, hlen⟩ := h
  have hpayload : (data.drop (i + 4)).take (frameLen (data.drop i)) =
      framePayload (data.drop i) := by
    rw [framePayload, drop_drop]
  rw [length_drop] at hlen
  refine ⟨by omega, by omega, by rw [Nat.add_sub_cancel]; rfl, ?_, by rw [hpayload]; exact hlast⟩
  rw [List.head?_take, if_neg (by omega), List.head?_drop, ← hbrace, List.getElem?_drop]

theorem exists_spans (data : List UInt8) (i : ℕ) :
    ∃ spans : List (ℕ × ℕ),
      delivered (data.drop i) = spans.map (fun x => (data.drop x.1).take x.2) ∧
      spans.Pairwise (fun x y => x.1 + x.2 ≤ y.1) ∧
      ∀ x ∈ spans, i ≤ x.1 ∧ PayloadAt data x.1 x.2 := by
  induction hn : data.length - i using Nat.strong_induction_on generalizing i with
  | _ n ih =>
    by_cases h : StartsFrame (data.drop i)
    · have hlen := h.2.2.2
      rw [length_drop] at hlen
      obtain ⟨spans, hspans, hsorted, hsound⟩ :=
        ih _ (by omega) (i + (frameLen (data.drop i) + 4)) rfl
      rw [delivered_of_startsFrame h, drop_drop, hspans, sent]
      by_cases hlast : (framePayload (data.drop i)).getLast? = some endSymbolRightBrace
      · -- the frame at `i` comes before all that follow
        refine ⟨(i + 4, frameLen (data.drop i)) :: spans, ?_, ?_, ?_⟩
        · rw [if_pos hlast, map_cons, framePayload, drop_drop]
          rfl
        · refine pairwise_cons.mpr ⟨fun y hy => ?_, hsorted⟩
          have hy := (hsound y hy).1
          show i + 4 + frameLen (data.drop i) ≤ y.1
          omega
        · intro x hx
          obtain rfl | hx := mem_cons.mp hx
          · exact ⟨by simp, h.payloadAt hlast⟩
          · exact ⟨by have hx := (hsound x hx).1; omega, (hsound x hx).2⟩
      · refine ⟨spans, by rw [if_neg hlast, nil_append], hsorted, fun x hx => ?_⟩
        exact ⟨by have hx := (hsound x hx).1; omega, (hsound x hx).2⟩
    · exact ⟨[], by rw [delivered_of_not_startsFrame h, map_nil], .nil, nofun⟩

/-- **Any read after any reads**: `Feed` returns, sends what `delivered` gives for this read
alone, and that is a list of separate pieces of the read, in order, each of which is a payload
in braces behind its length. -/
theorem feed_sound (earlier : List (List UInt8)) (data : List UInt8) :
    ∃ d, feedAll newDecoder earlier = some d ∧
      feed d data = some { d with outputCh := d.outputCh ++ delivered data } ∧
      ∃ spans : List (ℕ × ℕ), delivered data = spans.map (fun x => (data.drop x.1).take x.2) ∧
        spans.Pairwise (fun x y => x.1 + x.2 ≤ y.1) ∧ ∀ x ∈ spans, PayloadAt data x.1 x.2 := by
  obtain ⟨spans, hspans, hsorted, hsound⟩ := exists_spans data 0
  exact ⟨_, feedAll_eq earlier, feed_eq _ data, spans, hspans, hsorted,
    fun x hx => (hsound x hx).2⟩

end Decoder

end Mediasoup
