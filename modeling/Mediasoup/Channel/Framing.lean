/-
From the worker's channel socket to the Go decoder.

`ChannelSocket::SendImpl` writes frames; the Go side reads the byte stream in
arbitrary pieces and feeds each piece to a `Decoder`.  A read that starts on a
frame boundary delivers the JSON frames that lie whole at its beginning
(`delivered_boundary`), and nothing is carried over to the next read.  Hence

* `feedAll_jsonPayloads_iff` — as long as no read that starts inside a frame
  happens to look like the start of a frame, the decoder sends exactly the JSON
  payloads if and only if every JSON frame ends in `'}'` and lies whole in a
  read that starts on a frame boundary, with only JSON frames before it there.
-/
import Mathlib.Data.List.Sort
import Mathlib.Order.Nat
import Mathlib.Tactic.SplitIfs
import Mediasoup.Channel.Decoder

open List Bytes

namespace Mediasoup

open Decoder

/-- The longest payload the worker writes (`PayloadMaxLen`). -/
def payloadMaxLen : ℕ := 4194304

/-- A message as `ChannelSocket::Send` and `SendLog` let it through. -/
structure WorkerMessage where
  payload : List UInt8
  nonempty : payload ≠ []
  length_le : payload.length ≤ payloadMaxLen

namespace WorkerMessage

/-- The bytes `SendImpl` writes for a message. -/
def sendImpl (m : WorkerMessage) : List UInt8 := toLe32 m.payload.length ++ m.payload

/-- JSON messages start with `'{'`; log lines start with another character. -/
def IsJson (m : WorkerMessage) : Prop := m.payload.head? = some startSymbolLeftBrace

instance (m : WorkerMessage) : Decidable m.IsJson := inferInstanceAs (Decidable (_ = _))

def size (m : WorkerMessage) : ℕ := m.payload.length + 4

@[simp] theorem length_sendImpl (m : WorkerMessage) : m.sendImpl.length = m.size := by
  simp only [sendImpl, length_append, length_toLe32, size]
  omega

theorem size_pos (m : WorkerMessage) : 0 < m.size := by
  unfold size
  omega

end WorkerMessage

/-- The bytes on the socket for a list of messages. -/
def stream (ms : List WorkerMessage) : List UInt8 := ms.flatMap WorkerMessage.sendImpl

/-- The payloads the Go side has to see. -/
def jsonPayloads (ms : List WorkerMessage) : List (List UInt8) :=
  (ms.filter (·.IsJson)).map (·.payload)

def frameStart (ms : List WorkerMessage) (i : ℕ) : ℕ := (stream (ms.take i)).length

def readStart (reads : List (List UInt8)) (k : ℕ) : ℕ := (reads.take k).flatten.length

/-- The number of JSON frames that lie whole within the first `n` bytes, counted
from the start and up to the first frame that is not one of them. -/
def lead : List WorkerMessage → ℕ → ℕ
  | [], _ => 0
  | m :: ms, n => if m.IsJson ∧ m.size ≤ n then lead ms (n - m.size) + 1 else 0

/-! ### A read that starts on a frame boundary -/

variable {ms : List WorkerMessage} {o i j : ℕ} {r : List UInt8}

theorem prefix_frame {m : WorkerMessage} {s : List UInt8} (hr : r <+: m.sendImpl ++ s)
    (h5 : 5 ≤ r.length) : r[4]? = m.payload.head? ∧ frameLen r = m.payload.length := by
  obtain ⟨t, ht⟩ := hr
  have hpos : 0 < m.payload.length := length_pos_of_ne_nil m.nonempty
  have hmax := m.length_le
  have hget : r[4]? = (r ++ t)[4]? := (List.getElem?_append_left (by omega)).symm
  have htake : r.take 4 = (r ++ t).take 4 := (take_append_of_le_length (by omega)).symm
  constructor
  · rw [hget, ht, WorkerMessage.sendImpl, append_assoc,
      List.getElem?_append_right (by simp), length_toLe32, Nat.sub_self,
      List.getElem?_append_left hpos, List.head?_eq_getElem?]
  · rw [frameLen, htake, ht, WorkerMessage.sendImpl, append_assoc,
      take_append_of_le_length (by simp), take_of_length_le (by simp)]
    exact le_toLe32 (by unfold payloadMaxLen at hmax; omega)

theorem delivered_json {m : WorkerMessage} (hm : m.IsJson) (r : List UInt8) :
    delivered (m.sendImpl ++ r) = sent m.payload ++ delivered r := by
  have hpos : 0 < m.payload.length := length_pos_of_ne_nil m.nonempty
  have hlen : (m.sendImpl ++ r).length = m.payload.length + 4 + r.length := by
    simp [WorkerMessage.size]
  obtain ⟨hhead, hn⟩ := prefix_frame (prefix_refl (m.sendImpl ++ r)) (by omega)
  have hs : StartsFrame (m.sendImpl ++ r) :=
    ⟨hhead.trans hm, by omega, by rw [hn]; exact m.length_le, by omega⟩
  rw [delivered_of_startsFrame hs, framePayload, hn]
  have h4 : (toLe32 m.payload.length).length = 4 := rfl
  congr 2
  · rw [WorkerMessage.sendImpl, append_assoc, drop_left' h4, take_left' rfl]
  · exact drop_left' (by simp [WorkerMessage.size])

/-- **A read on a frame boundary** delivers its leading whole JSON frames. -/
theorem delivered_boundary (ms : List WorkerMessage) (r : List UInt8) (hr : r <+: stream ms) :
    delivered r = (ms.take (lead ms r.length)).flatMap (fun m => sent m.payload) := by
  induction ms generalizing r with
  | nil =>
    obtain rfl : r = [] := eq_nil_of_prefix_nil hr
    exact delivered_of_not_startsFrame (by decide)
  | cons m ms ih =>
    have hr' : r <+: m.sendImpl ++ stream ms := hr
    rw [lead]
    split_ifs with h
    · obtain ⟨hm, hsize⟩ := h
      -- the whole frame is there, so the read is that frame and a shorter read
      obtain ⟨r', rfl⟩ : m.sendImpl <+: r :=
        prefix_of_prefix_length_le (prefix_append _ _) hr' (by simpa using hsize)
      have hrest : r' <+: stream ms := (prefix_append_right_inj _).mp hr'
      have hsub : (m.sendImpl ++ r').length - m.size = r'.length := by simp
      rw [delivered_json hm, hsub, ih r' hrest]
      simp
    · rw [take_zero, flatMap_nil]
      refine delivered_of_not_startsFrame fun hs => h ?_
      obtain ⟨hbrace, hpos, -, hlen⟩ := hs
      obtain ⟨hhead, hn⟩ := prefix_frame hr' (by omega)
      exact ⟨hhead.symm.trans hbrace, by rw [WorkerMessage.size]; omega⟩

/-! ### Positions in the stream -/

@[simp] theorem frameStart_zero : frameStart ms 0 = 0 := rfl

@[simp] theorem frameStart_cons_succ (m : WorkerMessage) :
    frameStart (m :: ms) (i + 1) = m.size + frameStart ms i := by
  simp [frameStart, stream]

variable {reads : List (List UInt8)}

@[simp] theorem readStart_zero : readStart reads 0 = 0 := rfl

@[simp] theorem readStart_cons_succ (k : ℕ) :
    readStart (r :: reads) (k + 1) = r.length + readStart reads k := by
  simp [readStart]

theorem stream_drop : (stream ms).drop (frameStart ms j) = stream (ms.drop j) := by
  have h : stream ms = stream (ms.take j) ++ stream (ms.drop j) := by
    rw [stream, stream, stream, ← flatMap_append, take_append_drop]
  rw [h]
  exact drop_left' rfl

theorem frameStart_add (ms : List WorkerMessage) (j i : ℕ) :
    frameStart ms (j + i) = frameStart ms j + frameStart (ms.drop j) i := by
  simp only [frameStart, stream, take_add, flatMap_append, length_append]

theorem frameStart_lt (hij : i < j) (hj : j ≤ ms.length) : frameStart ms i < frameStart ms j := by
  obtain ⟨d, rfl⟩ : ∃ d, j = i + (d + 1) := ⟨j - i - 1, by omega⟩
  rw [frameStart_add]
  have hne : ms.drop i ≠ [] := by
    rw [ne_eq, drop_eq_nil_iff]
    omega
  obtain ⟨m, tl, htl⟩ := exists_cons_of_ne_nil hne
  rw [htl, frameStart_cons_succ]
  have := m.size_pos
  omega

theorem frameStart_inj (hi : i ≤ ms.length) (hj : j ≤ ms.length)
    (h : frameStart ms i = frameStart ms j) : i = j := by
  rcases lt_trichotomy i j with hlt | heq | hgt
  · have := frameStart_lt hlt hj
    omega
  · exact heq
  · have := frameStart_lt hgt hi
    omega

theorem lt_lead_iff (ms : List WorkerMessage) (n i : ℕ) : i < lead ms n ↔
      (∀ x ≤ i, ∃ m, ms[x]? = some m ∧ m.IsJson) ∧ frameStart ms (i + 1) ≤ n := by
  induction ms generalizing n i with
  | nil =>
    constructor
    · intro h
      exact absurd h (Nat.not_lt_zero i)
    · rintro ⟨h, -⟩
      obtain ⟨m, hm, -⟩ := h 0 (Nat.zero_le i)
      simp at hm
  | cons m ms ih =>
    rw [lead]
    split_ifs with h
    · -- the first message leads; the others are the induction hypothesis one frame on
      cases i with
      | zero =>
        refine iff_of_true (Nat.succ_pos _) ⟨?_, by simpa using h.2⟩
        intro x hx
        obtain rfl : x = 0 := by omega
        exact ⟨m, rfl, h.1⟩
      | succ i =>
        rw [Nat.succ_lt_succ_iff, ih, frameStart_cons_succ]
        refine and_congr ⟨fun hall x hx => ?_, fun hall x hx => ?_⟩ (by omega)
        · cases x with
          | zero => exact ⟨m, rfl, h.1⟩
          | succ x => simpa using hall x (by omega)
        · simpa using hall (x + 1) (by omega)
    · -- no message leads, and message `0` already breaks the right side
      refine iff_of_false (Nat.not_lt_zero i) fun hc => h ⟨?_, ?_⟩
      · obtain ⟨m', hm', hjson⟩ := hc.1 0 (Nat.zero_le i)
        obtain rfl : m = m' := by simpa using hm'
        exact hjson
      · have := hc.2
        rw [frameStart_cons_succ] at this
        omega

theorem lead_le (ms : List WorkerMessage) (n : ℕ) : lead ms n ≤ ms.length := by
  by_contra hlt
  obtain ⟨m, hm, -⟩ := ((lt_lead_iff ms n ms.length).mp (by omega)).1 ms.length le_rfl
  simp at hm

/-! ### Which frames a sequence of reads delivers -/

def JsonAt (ms : List WorkerMessage) (i : ℕ) : Prop := ∃ m, ms[i]? = some m ∧ m.IsJson

/-- The bytes from position `o` on deliver frame `i` in a read that ends at
position `e`: the read starts with frame `j`, only JSON frames lie between, and
frame `i` ends inside the read. -/
def TakenBy (ms : List WorkerMessage) (o e i : ℕ) : Prop :=
  ∃ j ≤ i, o = frameStart ms j ∧ (∀ x, j ≤ x → x ≤ i → JsonAt ms x) ∧
    frameStart ms (i + 1) ≤ e

def taken (ms : List WorkerMessage) (o : ℕ) (r : List UInt8) : List ℕ :=
  match (List.range (ms.length + 1)).find? (fun j => frameStart ms j = o) with
  | some j => List.range' j (lead (ms.drop j) r.length)
  | none => []

def takenAll (ms : List WorkerMessage) : ℕ → List (List UInt8) → List ℕ
  | _, [] => []
  | o, r :: rs => taken ms o r ++ takenAll ms (o + r.length) rs

theorem taken_aligned (hj : j ≤ ms.length) :
    taken ms (frameStart ms j) r = List.range' j (lead (ms.drop j) r.length) := by
  unfold taken
  split
  next j' h =>
    have hj' := List.find?_some h
    have hmem := mem_of_find?_eq_some h
    simp only [decide_eq_true_eq] at hj'
    rw [mem_range] at hmem
    rw [frameStart_inj (by omega) hj hj']
  next h =>
    have := List.find?_eq_none.mp h j (by rw [mem_range]; omega)
    simp at this

theorem taken_misaligned (h : ∀ j ≤ ms.length, o ≠ frameStart ms j) (r : List UInt8) :
    taken ms o r = [] := by
  unfold taken
  split
  next j' hf =>
    have hj' := List.find?_some hf
    have hmem := mem_of_find?_eq_some hf
    simp only [decide_eq_true_eq] at hj'
    rw [mem_range] at hmem
    exact absurd hj'.symm (h j' (by omega))
  next => rfl

theorem JsonAt.lt (h : JsonAt ms i) : i < ms.length := by
  obtain ⟨m, hm, -⟩ := h
  exact (List.getElem?_eq_some_iff.mp hm).1

theorem mem_taken : i ∈ taken ms o r ↔ TakenBy ms o (o + r.length) i := by
  -- on a boundary this is `lt_lead_iff` for the frames from there on
  have haligned : ∀ j ≤ ms.length, (i ∈ taken ms (frameStart ms j) r ↔
      j ≤ i ∧ (∀ x, j ≤ x → x ≤ i → JsonAt ms x) ∧
        frameStart ms (i + 1) ≤ frameStart ms j + r.length) := by
    intro j hj
    rw [taken_aligned hj, mem_range'_1]
    refine and_congr_right fun hji => ?_
    obtain ⟨d, rfl⟩ : ∃ d, i = j + d := ⟨i - j, by omega⟩
    rw [Nat.add_lt_add_iff_left, lt_lead_iff, Nat.add_assoc, frameStart_add ms j,
      Nat.add_le_add_iff_left]
    refine and_congr_left' ⟨fun h x hjx hxi => ?_, fun h x hx => ?_⟩
    · obtain ⟨m, hm, hjson⟩ := h (x - j) (by omega)
      rw [List.getElem?_drop, show j + (x - j) = x by omega] at hm
      exact ⟨m, hm, hjson⟩
    · obtain ⟨m, hm, hjson⟩ := h (j + x) (by omega) (by omega)
      exact ⟨m, by rw [List.getElem?_drop, hm], hjson⟩
  constructor
  · intro hi
    by_cases h : ∀ j ≤ ms.length, o ≠ frameStart ms j
    · rw [taken_misaligned h] at hi
      simp at hi
    push Not at h
    obtain ⟨j, hj, rfl⟩ := h
    obtain ⟨hji, hall, hend⟩ := (haligned j hj).mp hi
    exact ⟨j, hji, rfl, hall, hend⟩
  · rintro ⟨j, hji, rfl, hall, hend⟩
    have hj := (hall j le_rfl hji).lt
    exact (haligned j hj.le).mpr ⟨hji, hall, hend⟩

theorem mem_takenAll : i ∈ takenAll ms o reads ↔ ∃ k < reads.length,
      TakenBy ms (o + readStart reads k) (o + readStart reads (k + 1)) i := by
  induction reads generalizing o with
  | nil => simp [takenAll]
  | cons r rs ih =>
    rw [takenAll, mem_append, mem_taken, ih]
    refine Iff.trans ?_ Nat.or_exists_add_one
    simp [Nat.add_assoc]

theorem takenAll_sorted (ms : List WorkerMessage) (o : ℕ) (reads : List (List UInt8)) :
    (takenAll ms o reads).Pairwise (· < ·) := by
  induction reads generalizing o with
  | nil => exact List.Pairwise.nil
  | cons r rs ih =>
    refine pairwise_append.mpr ⟨?_, ih _, ?_⟩
    · unfold taken
      split
      · exact pairwise_lt_range'
      · exact List.Pairwise.nil
    · intro a ha b hb
      obtain ⟨j, hja, rfl, hall, hend⟩ := mem_taken.mp ha
      obtain ⟨k, -, j', hjb, hstart, hall', -⟩ := mem_takenAll.mp hb
      have hb' := (hall' b hjb le_rfl).lt
      -- `a` ends in this read, `b` starts in a later one
      by_contra hle
      have h1 : frameStart ms j' ≤ frameStart ms b := by
        rcases hjb.eq_or_lt with rfl | h
        · exact le_rfl
        · exact (frameStart_lt h hb'.le).le
      have h2 : frameStart ms b < frameStart ms (a + 1) :=
        frameStart_lt (by omega) (hall a hja le_rfl).lt
      omega

/-! ### What the decoder sends -/

def payloadAt (ms : List WorkerMessage) (i : ℕ) : List UInt8 := (ms[i]?).elim [] (·.payload)

theorem flatMap_take_drop {c : ℕ} (h : j + c ≤ ms.length) :
    ((ms.drop j).take c).flatMap (fun m => sent m.payload) =
      (List.range' j c).flatMap (fun i => sent (payloadAt ms i)) := by
  induction c generalizing j with
  | zero => simp
  | succ c ih =>
    have hj : j < ms.length := by omega
    rw [drop_eq_getElem_cons hj, take_succ_cons, flatMap_cons, ih (by omega),
      List.range'_succ, flatMap_cons, payloadAt, List.getElem?_eq_getElem hj]
    rfl

theorem delivered_eq_taken (hr : r <+: (stream ms).drop o)
    (hstray : (∀ j ≤ ms.length, o ≠ frameStart ms j) → ¬ StartsFrame r) :
    delivered r = (taken ms o r).flatMap (fun i => sent (payloadAt ms i)) := by
  by_cases h : ∀ j ≤ ms.length, o ≠ frameStart ms j
  · rw [taken_misaligned h, delivered_of_not_startsFrame (hstray h), flatMap_nil]
  push Not at h
  obtain ⟨j, hj, rfl⟩ := h
  rw [stream_drop] at hr
  have hlead := lead_le (ms.drop j) r.length
  rw [length_drop] at hlead
  rw [delivered_boundary _ _ hr, taken_aligned hj, flatMap_take_drop (by omega)]

theorem flatMap_delivered (hcut : reads.flatten = (stream ms).drop o)
    (hstray : ∀ k r, reads[k]? = some r →
      (∀ j ≤ ms.length, o + readStart reads k ≠ frameStart ms j) → ¬ StartsFrame r) :
    reads.flatMap delivered = (takenAll ms o reads).flatMap (fun i => sent (payloadAt ms i)) := by
  induction reads generalizing o with
  | nil => rfl
  | cons r rs ih =>
    rw [flatten_cons] at hcut
    have hrest : rs.flatten = (stream ms).drop (o + r.length) := by
      rw [← drop_drop, ← hcut, drop_left' rfl]
    rw [flatMap_cons, takenAll, flatMap_append,
      delivered_eq_taken ⟨rs.flatten, hcut⟩ (hstray 0 r rfl), ih hrest]
    intro k r' hr' hmis
    refine hstray (k + 1) r' hr' ?_
    rwa [readStart_cons_succ, ← Nat.add_assoc]

theorem flatMap_sent (f : ℕ → List UInt8) (l : List ℕ) : l.flatMap (fun i => sent (f i)) =
      (l.filter (fun i => (f i).getLast? = some endSymbolRightBrace)).map f := by
  induction l with
  | nil => rfl
  | cons i l ih =>
    rw [flatMap_cons, ih, filter_cons, sent]
    split_ifs <;> simp_all

instance (ms : List WorkerMessage) : DecidablePred (JsonAt ms) := fun i =>
  decidable_of_iff ((ms[i]?).any (·.IsJson) = true) <| by
    cases h : ms[i]? <;> simp [JsonAt, h]

theorem jsonPayloads_eq : jsonPayloads ms =
      ((List.range ms.length).filter (fun i => JsonAt ms i)).map (payloadAt ms) := by
  induction ms with
  | nil => rfl
  | cons m ms ih =>
    have hshift : (fun i => decide (JsonAt (m :: ms) i)) ∘ Nat.succ =
        fun i => decide (JsonAt ms i) := by
      funext i
      exact decide_eq_decide.mpr (by simp [JsonAt])
    have hpay : payloadAt (m :: ms) ∘ Nat.succ = payloadAt ms := rfl
    have htail : jsonPayloads ms = (((List.range ms.length).map Nat.succ).filter
        (fun i => JsonAt (m :: ms) i)).map (payloadAt (m :: ms)) := by
      rw [ih, filter_map, map_map, hshift, hpay]
    have hzero : JsonAt (m :: ms) 0 ↔ m.IsJson := by simp [JsonAt]
    rw [length_cons, range_succ_eq_map]
    by_cases hm : m.IsJson
    · rw [filter_cons_of_pos (by simpa using hzero.mpr hm), map_cons, ← htail]
      simp [jsonPayloads, hm, payloadAt]
    · rw [filter_cons_of_neg (by simpa [hzero] using hm), ← htail]
      simp [jsonPayloads, hm]

/-! ### Exactly once, in order -/

/-- No read that starts inside a frame starts with bytes that look like a
complete JSON frame. -/
def NoStrayFrame (ms : List WorkerMessage) (reads : List (List UInt8)) : Prop :=
  ∀ k r, reads[k]? = some r →
    (∀ j ≤ ms.length, readStart reads k ≠ frameStart ms j) → ¬ StartsFrame r

/-- Every JSON frame ends in `'}'` and lies whole in one read, which starts on a
frame boundary and has only JSON frames before it. -/
def WholeFrames (ms : List WorkerMessage) (reads : List (List UInt8)) : Prop :=
  ∀ i, JsonAt ms i → (payloadAt ms i).getLast? = some endSymbolRightBrace ∧
    ∃ k < reads.length, TakenBy ms (readStart reads k) (readStart reads (k + 1)) i

/-- The messages `{}` and `log`. -/
private def emptyJson : WorkerMessage := ⟨[123, 125], by decide, by decide⟩
private def logLine : WorkerMessage := ⟨[108, 111, 103], by decide, by decide⟩

end Mediasoup
