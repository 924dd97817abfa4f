/-
Packets on a byte stream, each behind its length.

A reader sees the stream in pieces.  What it holds, followed by what is still to come, is
the stream of the packets it has not taken yet; as soon as the first of these lies whole in
what it holds, the reader can take it.

* `LengthField.decode_of_stream`, `LengthField.packet_of_stream` — the first packet of the
  stream, as the reader finds it,
* `LengthField.eq_nil_of_stalled` — a reader that holds no whole packet at the end of the
  stream has taken them all,
* `Progress` — a computation takes the first packets of a list; the rules for its steps,
* `Inbox` — a listener that gets packets until it closes its connection.
-/
import Mediasoup.Lib.Bytes

open List Bytes

namespace Frames

/-! ### Streams -/

/-- A field of fixed width for the lengths below a limit. -/
structure LengthField where
  width : ℕ
  limit : ℕ
  encode : ℕ → List UInt8
  decode : List UInt8 → ℕ
  length_encode : ∀ n, (encode n).length = width
  decode_encode : ∀ n, n < limit → decode (encode n) = n

def fieldBe16 : LengthField where
  width := 2
  limit := 65536
  encode := toBe16
  decode field := be16 field 0
  length_encode _ := rfl
  decode_encode n hn := by
    show (UInt8.ofNat (n / 256)).toNat * 256 + (UInt8.ofNat n).toNat = n
    rw [UInt8.toNat_ofNat', UInt8.toNat_ofNat']
    omega

def fieldLe32 : LengthField where
  width := 4
  limit := 4294967296
  encode := toLe32
  decode := le
  length_encode _ := rfl
  decode_encode _ hn := le_toLe32 hn

namespace LengthField

variable (f : LengthField)

def frame (p : List UInt8) : List UInt8 := f.encode p.length ++ p

def stream (ps : List (List UInt8)) : List UInt8 := ps.flatMap f.frame

/-- The first packet, if there is one, does not lie whole in `held` bytes. -/
def Stalled (held : ℕ) (ps : List (List UInt8)) : Prop :=
  ∀ p ∈ ps.head?, held < f.width + p.length

variable {f} {held later p : List UInt8} {ps : List (List UInt8)}

theorem stream_cons (p : List UInt8) (ps : List (List UInt8)) :
    f.stream (p :: ps) = f.encode p.length ++ (p ++ f.stream ps) := by
  rw [← append_assoc]
  rfl

theorem decode_of_stream (h : held ++ later = f.stream (p :: ps)) (hp : p.length < f.limit)
    (hheld : f.width ≤ held.length) : f.decode (held.take f.width) = p.length := by
  have htake : (held ++ later).take f.width = held.take f.width :=
    take_append_of_le_length hheld
  rw [← htake, h, stream_cons, take_left' (f.length_encode _), f.decode_encode _ hp]

theorem packet_of_stream (h : held ++ later = f.stream (p :: ps))
    (hheld : f.width + p.length ≤ held.length) : (held.drop f.width).take p.length = p ∧
      held.drop (f.width + p.length) ++ later = f.stream ps := by
  have hdrop : held.drop f.width ++ later = p ++ f.stream ps := by
    rw [← drop_append_of_le_length (by omega), h, stream_cons,
      drop_left' (f.length_encode _)]
  have hroom : p.length ≤ (held.drop f.width).length := by
    rw [length_drop]
    omega
  constructor
  · have htake : (held.drop f.width ++ later).take p.length = (held.drop f.width).take p.length :=
      take_append_of_le_length hroom
    rw [← htake, hdrop, take_left' rfl]
  · rw [← drop_drop, ← drop_append_of_le_length hroom, hdrop, drop_left' rfl]

theorem held_eq_nil (h : held ++ later = f.stream []) : held = [] :=
  (append_eq_nil_iff.mp h).1

theorem eq_nil_of_stalled (h : held = f.stream ps) (hstalled : f.Stalled held.length ps) :
    ps = [] := by
  cases ps with
  | nil => rfl
  | cons p ps =>
    have hlen := hstalled p rfl
    rw [h, stream, flatMap_cons, length_append, frame, length_append,
      f.length_encode] at hlen
    omega

end LengthField

/-! ### Progress -/

section Progress

variable {σ : Type*} (take : σ → List UInt8 → σ)

/-- The first packets of the list are taken; `Q` holds of the state after them and of the
others. -/
def Progress (s : σ) (ps : List (List UInt8)) (Q : σ → List (List UInt8) → Prop) : Prop :=
  ∃ taken rest, ps = taken ++ rest ∧ Q (taken.foldl take s) rest

variable {take} {s : σ} {p : List UInt8} {ps : List (List UInt8)}
  {Q R : σ → List (List UInt8) → Prop}

theorem Progress.nothing (h : Q s ps) : Progress take s ps Q := ⟨[], ps, rfl, h⟩

theorem Progress.cons (h : Progress take (take s p) ps Q) : Progress take s (p :: ps) Q := by
  obtain ⟨taken, rest, rfl, hQ⟩ := h
  exact ⟨p :: taken, rest, rfl, hQ⟩

theorem Progress.bind (h : Progress take s ps Q)
    (hQ : ∀ s' rest, Q s' rest → Progress take s' rest R) : Progress take s ps R := by
  obtain ⟨taken, rest, rfl, hrest⟩ := h
  obtain ⟨taken', rest', rfl, hR⟩ := hQ _ _ hrest
  refine ⟨taken ++ taken', rest', (append_assoc _ _ _).symm, ?_⟩
  rwa [foldl_append]

end Progress

/-! ### Readers -/

/-- Why a reader does not return. -/
inductive ReadFault where
  | outOfBounds
  | outOfFuel
  deriving DecidableEq

def fetch (buffer : List UInt8) (i n : ℕ) : Except ReadFault (List UInt8) :=
  if i + n ≤ buffer.length then .ok ((buffer.drop i).take n) else .error .outOfBounds

theorem fetch_of_le {buffer : List UInt8} {i n : ℕ} (h : i + n ≤ buffer.length) :
    fetch buffer i n = .ok ((buffer.drop i).take n) := if_pos h

/-- What a listener has been handed, and whether it closed the connection. -/
structure Inbox where
  received : List (List UInt8) := []
  closed : Bool := false

namespace Inbox

/-- The listener may close the connection at any packet: `stops` sees all that it was
handed. -/
def take (stops : List (List UInt8) → Bool) (inbox : Inbox) (p : List UInt8) : Inbox :=
  if inbox.closed then inbox
  else { received := inbox.received ++ [p], closed := stops (inbox.received ++ [p]) }

variable {stops : List (List UInt8) → Bool}

theorem foldl_take_of_closed {inbox : Inbox} (h : inbox.closed) (ps : List (List UInt8)) :
    ps.foldl (take stops) inbox = inbox := by
  induction ps with
  | nil => rfl
  | cons p ps ih => rw [foldl_cons, take, if_pos h, ih]

theorem foldl_take_of_open (hopen : ∀ received, stops received = false) (ps : List (List UInt8)) :
    ∀ inbox : Inbox, inbox.closed = false →
      ps.foldl (take stops) inbox = ⟨inbox.received ++ ps, false⟩ := by
  induction ps with
  | nil =>
    rintro ⟨received, closed⟩ rfl
    rw [append_nil]
    rfl
  | cons p ps ih =>
    rintro ⟨received, closed⟩ rfl
    have htake : take stops ⟨received, false⟩ p = ⟨received ++ [p], false⟩ := by
      rw [take, if_neg Bool.false_ne_true, hopen]
    rw [foldl_cons, htake, ih _ rfl, append_assoc, singleton_append]

end Inbox

end Frames
