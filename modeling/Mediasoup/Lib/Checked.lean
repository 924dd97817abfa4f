/-
Parsers over a byte buffer, with their faults made explicit.

A run of such a parser ends in one of four ways: it returns a value, it rejects
its input, it reads outside the buffer, or it never ends (a loop that runs out
of the fuel its model is given).  The last two are faults.  `Ensures x Q` says
that `x` has no fault and that what it returns, if anything, satisfies `Q`; it
composes along `>>=` (`Ensures.bind`), so the safety of a parser is proved one
read at a time.

* `ensures_read` — a read below the length of the buffer has no fault,
* `ensures_require` — after a passed check its condition holds,
* `Ensures.bind`, `Ensures.mono`, `Ensures.ite`, `Ensures.attempt` — the rules for
  composed parsers;
* `Returns`, `Yields` — partial and total correctness, with the same rules.
-/
import Mathlib.Tactic.Linarith
import Mathlib.Tactic.SplitIfs
import Mediasoup.Lib.Bytes

/-- The outcome of a parser that may reject its input or go wrong. -/
inductive Checked (α : Type) where
  | value (a : α)
  | reject
  | outOfBounds
  | outOfFuel
  deriving DecidableEq

namespace Checked

variable {α β : Type}

protected def bind : Checked α → (α → Checked β) → Checked β
  | value a, f => f a
  | reject, _ => reject
  | outOfBounds, _ => outOfBounds
  | outOfFuel, _ => outOfFuel

instance : Monad Checked where
  pure := value
  bind := Checked.bind

@[simp] theorem pure_eq (a : α) : (pure a : Checked α) = value a := rfl

@[simp] theorem value_bind (a : α) (f : α → Checked β) : (value a >>= f) = f a := rfl

@[simp] theorem reject_bind (f : α → Checked β) : (reject >>= f) = reject := rfl

@[simp] theorem outOfBounds_bind (f : α → Checked β) : (outOfBounds >>= f) = outOfBounds := rfl

@[simp] theorem outOfFuel_bind (f : α → Checked β) : (outOfFuel >>= f) = outOfFuel := rfl

def read (buf : List UInt8) (i : ℕ) : Checked UInt8 :=
  match buf[i]? with
  | some b => value b
  | none => outOfBounds

/-- The big-endian number in the `n` bytes at index `i`. -/
def readBe (buf : List UInt8) : ℕ → ℕ → Checked ℕ
  | 0, _ => value 0
  | n + 1, i => do
    let b ← read buf i
    let rest ← readBe buf n (i + 1)
    return b.toNat * 256 ^ n + rest

/-- Go on only if `p` holds. -/
def require (p : Prop) [Decidable p] : Checked Unit := if p then value () else reject

/-- Turn a rejection into `none`, for a caller that goes on after it. -/
def attempt : Checked α → Checked (Option α)
  | value a => value (some a)
  | reject => value none
  | outOfBounds => outOfBounds
  | outOfFuel => outOfFuel

/-- No fault, and `Q` of whatever is returned. -/
def Ensures (x : Checked α) (Q : α → Prop) : Prop :=
  match x with
  | value a => Q a
  | reject => True
  | outOfBounds => False
  | outOfFuel => False

/-- No fault. -/
def Safe (x : Checked α) : Prop := x.Ensures fun _ => True

variable {buf : List UInt8} {c p : Prop} {x : Checked α} {a : α} {i : ℕ} {f : α → Checked β}
  {P : α → Prop} {y : Checked α} {Q : α → Prop}

@[simp] theorem ensures_value : (value a).Ensures Q ↔ Q a := Iff.rfl

@[simp] theorem safe_value (a : α) : (value a).Safe := trivial

@[simp] theorem safe_reject : (reject : Checked α).Safe := trivial

@[simp] theorem not_safe_outOfBounds : ¬ (outOfBounds : Checked α).Safe := id

@[simp] theorem not_safe_outOfFuel : ¬ (outOfFuel : Checked α).Safe := id

theorem bind_eq_value {b : β} : (x >>= f) = value b ↔ ∃ a, x = value a ∧ f a = value b := by
  cases x <;> simp

theorem Ensures.bind {Q : β → Prop} (hx : x.Ensures P) (hf : ∀ a, P a → (f a).Ensures Q) :
    (x >>= f).Ensures Q := by
  cases x with
  | value a => exact hf a hx
  | reject => trivial
  | outOfBounds | outOfFuel => exact hx

theorem Ensures.mono (hx : x.Ensures P) (h : ∀ a, P a → Q a) : x.Ensures Q := by
  cases x with
  | value a => exact h a hx
  | reject => trivial
  | outOfBounds | outOfFuel => exact hx

theorem Ensures.safe (hx : x.Ensures P) : x.Safe :=
  hx.mono fun _ _ => trivial

theorem Ensures.ite [Decidable c] (hx : c → x.Ensures Q) (hy : ¬ c → y.Ensures Q) :
    (if c then x else y).Ensures Q := by
  split_ifs with h
  · exact hx h
  · exact hy h

theorem Ensures.attempt (hx : x.Ensures P) :
    x.attempt.Ensures fun o => (∀ a, o = some a → x = value a ∧ P a) ∧ (o = none → x = reject) := by
  cases x with
  | value a =>
    refine ⟨?_, fun h => absurd h (by simp)⟩
    rintro b h
    obtain rfl : a = b := by simpa using h
    exact ⟨rfl, hx⟩
  | reject => exact ⟨fun a h => absurd h (by simp), fun _ => rfl⟩
  | outOfBounds | outOfFuel => exact hx

theorem Ensures.self_eq (hx : x.Ensures Q) : x.Ensures fun a => x = value a ∧ Q a := by
  cases x with
  | value a => exact ⟨rfl, hx⟩
  | reject => trivial
  | outOfBounds | outOfFuel => exact hx

theorem Ensures.of_eq (hx : x.Ensures Q) (h : x = value a) : Q a := by
  subst h
  exact hx

theorem ensures_read (h : i < buf.length) : (read buf i).Ensures fun b => buf[i]? = some b := by
  rw [read, List.getElem?_eq_getElem h]
  rfl

theorem ensures_read_eq (h : i < buf.length) :
    (read buf i).Ensures fun b => b = Bytes.byteAt buf i :=
  (ensures_read h).mono fun b hb => by rw [Bytes.byteAt, hb, Option.getD_some]

theorem read_eq_value {b : UInt8} : read buf i = value b ↔ buf[i]? = some b := by
  unfold read
  split <;> simp_all

theorem read_byteAt (h : i < buf.length) : read buf i = value (Bytes.byteAt buf i) := by
  rw [read_eq_value, Bytes.byteAt, List.getElem?_eq_getElem h]
  rfl

theorem ensures_readBe {n : ℕ} (h : i + n ≤ buf.length) :
    (readBe buf n i).Ensures fun v => v < 256 ^ n := by
  induction n generalizing i with
  | zero => exact Nat.one_pos
  | succ n ih =>
    refine (ensures_read (by omega)).bind fun b _ => (ih (by omega)).bind fun v hv => ?_
    have hb := Nat.mul_le_mul_right (256 ^ n) (Nat.le_of_lt_succ b.toNat_lt)
    rw [pure_eq, ensures_value, pow_succ]
    linarith

theorem ensures_readBe_two (h : i + 2 ≤ buf.length) :
    (readBe buf 2 i).Ensures fun v => v = Bytes.be16 buf i := by
  have h0 : buf[i]? = some buf[i] := List.getElem?_eq_getElem (by omega)
  have h1 : buf[i + 1]? = some buf[i + 1] := List.getElem?_eq_getElem (by omega)
  simp [readBe, Checked.read, h0, h1, Bytes.be16, Bytes.byteAt]

theorem readBe_two_eq_value {v : ℕ} (h : readBe buf 2 i = value v) :
    ∃ hi lo rest, buf.drop i = hi :: lo :: rest ∧ v = hi.toNat * 256 + lo.toNat := by
  match hd : buf.drop i with
  | [] | [_] =>
    have hlen : buf.length ≤ i + 1 := by
      have := congrArg List.length hd
      simp only [List.length_drop, List.length_nil, List.length_singleton] at this
      omega
    have hnone : buf[i + 1]? = none := List.getElem?_eq_none hlen
    cases hi : buf[i]? <;> simp [readBe, Checked.read, hi, hnone] at h
  | hi :: lo :: rest =>
    have hget : ∀ k, buf[i + k]? = (hi :: lo :: rest)[k]? := by
      intro k
      rw [← hd, List.getElem?_drop]
    have h0 : Checked.read buf i = value hi := read_eq_value.mpr (hget 0)
    have h1 : Checked.read buf (i + 1) = value lo := read_eq_value.mpr (hget 1)
    simp only [readBe, h0, h1, value_bind, pure_eq, value.injEq] at h
    exact ⟨hi, lo, rest, rfl, by omega⟩

theorem require_of [Decidable p] (h : p) : require p = value () := if_pos h

theorem ensures_require [Decidable p] : (require p).Ensures fun _ => p := by
  unfold require
  split_ifs with h
  · exact h
  · trivial

/-! ### Parsers that do not reject -/

theorem bind_ne_reject (hx : x ≠ reject) (hf : ∀ a, f a ≠ reject) : (x >>= f) ≠ reject := by
  cases x with
  | value a => exact hf a
  | reject => exact absurd rfl hx
  | outOfBounds | outOfFuel => simp

theorem attempt_ne_reject (x : Checked α) : x.attempt ≠ reject := by
  cases x <;> simp [attempt]

theorem Ensures.exists_value (hx : x.Ensures Q) (hne : x ≠ reject) : ∃ a, x = value a ∧ Q a := by
  cases x with
  | value a => exact ⟨a, rfl, hx⟩
  | reject => exact absurd rfl hne
  | outOfBounds | outOfFuel => exact hx.elim

theorem read_ne_reject (buf : List UInt8) (i : ℕ) : read buf i ≠ reject := by
  unfold read
  split <;> simp

theorem readBe_ne_reject (buf : List UInt8) (n i : ℕ) : readBe buf n i ≠ reject := by
  induction n generalizing i with
  | zero => simp [readBe]
  | succ n ih => exact bind_ne_reject (read_ne_reject _ _) fun _ => bind_ne_reject (ih _) (by simp)

theorem readBe_be16 (h : i + 2 ≤ buf.length) : readBe buf 2 i = value (Bytes.be16 buf i) := by
  obtain ⟨v, hv, rfl⟩ := (ensures_readBe_two h).exists_value (readBe_ne_reject buf 2 i)
  exact hv

/-! ### What a returned value satisfies

`Returns x Q` is the partial-correctness half of `Ensures x Q`: faults are
allowed, and only a returned value is spoken about. -/

def Returns (x : Checked α) (Q : α → Prop) : Prop := ∀ a, x = value a → Q a

theorem Returns.bind {Q : β → Prop} (hx : x.Returns P) (hf : ∀ a, P a → (f a).Returns Q) :
    (x >>= f).Returns Q := by
  intro b hb
  cases x with
  | value a => exact hf a (hx a rfl) b hb
  | reject | outOfBounds | outOfFuel => exact absurd hb (by simp)

theorem Returns.ite [Decidable c] (hx : c → x.Returns Q) (hy : ¬ c → y.Returns Q) :
    (if c then x else y).Returns Q := by
  split_ifs with h
  · exact hx h
  · exact hy h

theorem returns_value (h : Q a) : (value a).Returns Q := by
  intro b hb
  obtain rfl : a = b := by simpa using hb
  exact h

theorem returns_require [Decidable p] : (require p).Returns fun _ => p := by
  unfold require
  split_ifs with h
  · exact returns_value h
  · exact fun b hb => absurd hb (by simp)

theorem Returns.ensures (hr : x.Returns Q) (hx : x.Safe) : x.Ensures Q := by
  cases x with
  | value a => exact hr a rfl
  | reject => trivial
  | outOfBounds | outOfFuel => exact hx

theorem bind_congr_returns {g : α → Checked β} (hx : x.Returns P) (h : ∀ a, P a → f a = g a) :
    (x >>= f) = (x >>= g) := by
  cases x with
  | value a => exact h a (hx a rfl)
  | reject | outOfBounds | outOfFuel => rfl

theorem returns_any (x : Checked α) : x.Returns fun _ => True := fun _ _ => trivial

/-! ### Parsers that return

`Yields x Q` is total correctness: there is a value, and it satisfies `Q`. -/

def Yields (x : Checked α) (Q : α → Prop) : Prop := ∃ a, x = value a ∧ Q a

theorem yields_value (h : Q a) : (value a).Yields Q := ⟨a, rfl, h⟩

theorem Yields.bind {Q : β → Prop} (hx : x.Yields P) (hf : ∀ a, P a → (f a).Yields Q) :
    (x >>= f).Yields Q := by
  obtain ⟨a, rfl, ha⟩ := hx
  exact hf a ha

theorem Yields.ite [Decidable c] (hx : c → x.Yields Q) (hy : ¬ c → y.Yields Q) :
    (if c then x else y).Yields Q := by
  split_ifs with h
  · exact hx h
  · exact hy h

theorem Yields.returns (hx : x.Yields Q) : x.Returns Q := by
  obtain ⟨a, rfl, ha⟩ := hx
  exact returns_value ha

theorem yields_require [Decidable p] (h : p) : (require p).Yields fun _ => p :=
  ⟨(), require_of h, h⟩

end Checked
