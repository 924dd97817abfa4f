/-
Loads and stores of blocks of bytes in a buffer of fixed capacity.

A buffer is a list of bytes whose length is its capacity.  A block access
outside the capacity is a fault of `Checked`; an access to no bytes is not.

* `safe_store_iff` — a store has no fault exactly when its bytes fit,
* `ensures_store` — it keeps the capacity and every byte outside the block,
* `AgreeOn` — two states of a buffer agree on a range; the frame condition that
  stores elsewhere keep (`ensures_store_agreeOn`);
* `SameReads` — the same for two buffers whose capacities may differ.
-/
import Mediasoup.Lib.Checked

open List Option Bytes

namespace Checked

variable {α β : Type}

/-- The `n` bytes from index `i` on. -/
def load (mem : List UInt8) (i n : ℕ) : Checked (List UInt8) :=
  if n = 0 ∨ i + n ≤ mem.length then value ((mem.drop i).take n) else outOfBounds

/-- Write the bytes `bs` from index `i` on. -/
def store (mem : List UInt8) (i : ℕ) (bs : List UInt8) : Checked (List UInt8) :=
  if bs = [] ∨ i + bs.length ≤ mem.length
  then value (mem.take i ++ bs ++ mem.drop (i + bs.length)) else outOfBounds

/-- Copy `n` bytes from `src` to `dst`; the blocks may overlap. -/
def memmove (mem : List UInt8) (dst : ℤ) (src n : ℕ) : Checked (List UInt8) := do
  let bs ← load mem src n
  if bs = [] then return mem
  else if 0 ≤ dst then store mem dst.toNat bs
  else outOfBounds

/-- The buffers have the same capacity and the same bytes from `lo` up to `hi`. -/
structure AgreeOn (mem mem' : List UInt8) (lo hi : ℕ) : Prop where
  length_eq : mem'.length = mem.length
  byteAt_eq : ∀ j, lo ≤ j → j < hi → byteAt mem' j = byteAt mem j

theorem AgreeOn.refl (mem : List UInt8) (lo hi : ℕ) : AgreeOn mem mem lo hi :=
  ⟨rfl, fun _ _ _ => rfl⟩

variable {mem mem' : List UInt8} {lo hi i n : ℕ} {bs : List UInt8}

section

variable (h : AgreeOn mem mem' lo hi)
include h

theorem AgreeOn.trans {mem'' : List UInt8}
    (h' : AgreeOn mem' mem'' lo hi) : AgreeOn mem mem'' lo hi :=
  ⟨h'.length_eq.trans h.length_eq,
    fun j hlo hhi => (h'.byteAt_eq j hlo hhi).trans (h.byteAt_eq j hlo hhi)⟩

theorem AgreeOn.mono {lo' hi' : ℕ} (hlo : lo ≤ lo') (hhi : hi' ≤ hi) : AgreeOn mem mem' lo' hi' :=
  ⟨h.length_eq, fun j h1 h2 => h.byteAt_eq j (hlo.trans h1) (h2.trans_le hhi)⟩

theorem AgreeOn.be16_eq (hlo : lo ≤ i) (hhi : i + 1 < hi) : be16 mem' i = be16 mem i := by
  rw [be16, be16, h.byteAt_eq i hlo (by omega), h.byteAt_eq (i + 1) (by omega) hhi]

theorem AgreeOn.read_eq (hlo : lo ≤ i) (hhi : i < hi) : read mem' i = read mem i := by
  by_cases hlen : i < mem.length
  · have hlen' : i < mem'.length := h.length_eq ▸ hlen
    have hbyte := h.byteAt_eq i hlo hhi
    rw [byteAt, byteAt, List.getElem?_eq_getElem hlen, List.getElem?_eq_getElem hlen',
      getD_some, getD_some] at hbyte
    rw [Checked.read, Checked.read, List.getElem?_eq_getElem hlen,
      List.getElem?_eq_getElem hlen', hbyte]
  · have hlen' : ¬ i < mem'.length := h.length_eq ▸ hlen
    rw [Checked.read, Checked.read, List.getElem?_eq_none (by omega),
      List.getElem?_eq_none (by omega)]

end

/-- Both buffers have the same bytes from `lo` up to `hi`; their capacities may differ. -/
def SameReads (mem mem' : List UInt8) (lo hi : ℕ) : Prop :=
  ∀ i, lo ≤ i → i < hi → read mem' i = read mem i

theorem AgreeOn.sameReads (h : AgreeOn mem mem' lo hi) : SameReads mem mem' lo hi :=
  fun _ hlo hhi => h.read_eq hlo hhi

section

variable (h : SameReads mem mem' lo hi)
include h

theorem SameReads.mono {lo' hi' : ℕ} (hlo : lo ≤ lo')
    (hhi : hi' ≤ hi) : SameReads mem mem' lo' hi' :=
  fun i h1 h2 => h i (hlo.trans h1) (h2.trans_le hhi)

theorem SameReads.readBe_two_eq (hlo : lo ≤ i) (hhi : i + 2 ≤ hi) :
    readBe mem' 2 i = readBe mem 2 i := by
  simp only [readBe, h i hlo (by omega), h (i + 1) (by omega) (by omega)]

theorem SameReads.byteAt_eq (hlo : lo ≤ i) (hhi : i < hi)
    (hlen : i < mem.length) : byteAt mem' i = byteAt mem i := by
  have hread := h i hlo hhi
  rw [read_byteAt hlen, read_eq_value] at hread
  rw [byteAt, hread, getD_some]

theorem SameReads.be16_eq (hlo : lo ≤ i) (hhi : i + 2 ≤ hi)
    (hlen : i + 2 ≤ mem.length) : be16 mem' i = be16 mem i := by
  rw [be16, be16, h.byteAt_eq hlo (by omega) (by omega),
    h.byteAt_eq (i := i + 1) (by omega) (by omega) (by omega)]

end

theorem ensures_load (h : n = 0 ∨ i + n ≤ mem.length) :
    (load mem i n).Ensures fun bs => bs.length = n := by
  rw [load, if_pos h, ensures_value, length_take, length_drop]
  omega

theorem load_ne_reject (mem : List UInt8) (i n : ℕ) : load mem i n ≠ reject := by
  unfold load
  split_ifs <;> simp

theorem store_ne_reject (mem : List UInt8) (i : ℕ) (bs : List UInt8) : store mem i bs ≠ reject := by
  unfold store
  split_ifs <;> simp

theorem memmove_ne_reject (mem : List UInt8) (dst : ℤ) (src n : ℕ) :
    memmove mem dst src n ≠ reject := by
  refine bind_ne_reject (load_ne_reject _ _ _) fun bs => ?_
  split_ifs
  · simp
  · exact store_ne_reject _ _ _
  · simp

theorem safe_store_iff : (store mem i bs).Safe ↔ bs = [] ∨ i + bs.length ≤ mem.length := by
  unfold store
  split_ifs with h
  · exact iff_of_true trivial h
  · exact iff_of_false id h

theorem ensures_store (h : bs = [] ∨ i + bs.length ≤ mem.length) :
    (store mem i bs).Ensures fun mem' => mem'.length = mem.length ∧
      ∀ j, j < i ∨ i + bs.length ≤ j → byteAt mem' j = byteAt mem j := by
  rw [store, if_pos h, ensures_value]
  rcases h with rfl | h
  · simp
  refine ⟨by simp; omega, fun j hj => ?_⟩
  have hlen : (mem.take i).length = i := by
    rw [length_take]
    omega
  rcases hj with hj | hj
  · rw [byteAt, byteAt, append_assoc, List.getElem?_append_left (by omega),
      List.getElem?_take_of_lt hj]
  rw [byteAt, byteAt, List.getElem?_append_right (by simp; omega), List.getElem?_drop]
  congr 2
  simp only [length_append, hlen]
  omega

theorem exists_store {mem : List UInt8} {i : ℕ} {bs : List UInt8}
    (h : bs = [] ∨ i + bs.length ≤ mem.length) :
    ∃ mem', store mem i bs = value mem' ∧ mem'.length = mem.length := by
  obtain ⟨mem', hmem', hlen, -⟩ := (ensures_store h).exists_value (store_ne_reject _ _ _)
  exact ⟨mem', hmem', hlen⟩

theorem ensures_store_agreeOn (lo hi : ℕ) (h : bs = [] ∨ i + bs.length ≤ mem.length)
    (hdisj : i + bs.length ≤ lo ∨ hi ≤ i) :
    (store mem i bs).Ensures fun mem' => AgreeOn mem mem' lo hi := by
  refine (ensures_store h).mono fun mem' hmem' => ⟨hmem'.1, fun j hlo hhi => hmem'.2 j ?_⟩
  omega

theorem safe_memmove_iff {mem : List UInt8} {dst : ℤ} {src n : ℕ} (hsrc : src + n ≤ mem.length) :
    (memmove mem dst src n).Safe ↔ n = 0 ∨ (0 ≤ dst ∧ dst + n ≤ mem.length) := by
  have hload : load mem src n = value ((mem.drop src).take n) := if_pos (.inr hsrc)
  have hlen : ((mem.drop src).take n).length = n := by
    rw [length_take, length_drop]
    omega
  rw [memmove, hload, value_bind]
  split_ifs with hnil hdst
  · rw [hnil, length_nil] at hlen
    exact iff_of_true trivial (.inl hlen.symm)
  · rw [safe_store_iff, or_iff_right hnil, hlen]
    have hn : n ≠ 0 := by
      rintro rfl
      exact hnil (by simp)
    omega
  · refine iff_of_false id ?_
    rintro (rfl | h)
    · exact hnil (by simp)
    · exact hdst h.1

theorem returns_store_length (mem : List UInt8) (i : ℕ) (bs : List UInt8) :
    (store mem i bs).Returns fun mem' => mem'.length = mem.length := by
  intro mem' hstore
  have hsafe : (store mem i bs).Safe := by
    rw [hstore]
    trivial
  have hkeep := ensures_store (safe_store_iff.mp hsafe)
  rw [hstore] at hkeep
  exact hkeep.1

theorem returns_memmove_length (mem : List UInt8) (dst : ℤ) (src n : ℕ) :
    (memmove mem dst src n).Returns fun mem' => mem'.length = mem.length := by
  refine (returns_any _).bind fun bs _ => .ite (fun _ => returns_value rfl) fun _ => ?_
  refine .ite (fun _ => returns_store_length _ _ _) fun _ => ?_
  intro a ha
  exact absurd ha (by simp)

theorem safe_bind_iff {x : Checked α} {f : α → Checked β} :
    (x >>= f).Safe ↔ x.Safe ∧ ∀ a, x = value a → (f a).Safe := by
  cases x <;> simp

theorem yields_load (h : n = 0 ∨ i + n ≤ mem.length) :
    (load mem i n).Yields fun bs => bs.length = n :=
  (ensures_load h).exists_value (load_ne_reject _ _ _)

theorem yields_memmove {dst : ℤ} {src : ℕ} (hsrc : src + n ≤ mem.length)
    (hdst : n = 0 ∨ 0 ≤ dst ∧ dst + n ≤ mem.length) :
    (memmove mem dst src n).Yields fun mem' => mem'.length = mem.length :=
  ((returns_memmove_length _ _ _ _).ensures ((safe_memmove_iff hsrc).mpr hdst)).exists_value
    (memmove_ne_reject _ _ _ _)

end Checked
