/-
Stretches of a buffer with known bytes, and what a parser reads there.

`Holds buf pos bytes` says that the buffer has the bytes from `pos` on.  A serializer shows
which bytes these are, a parser reads them one field at a time: the rules here split a
stretch into its fields and evaluate the reads of `Checked` in them.

* `holds_append`, `holds_cons` — a stretch is one field after the other.
* `Holds.read`, `Holds.readBe_two`, `Holds.readBe_three`, `Holds.readBe_four`,
  `Holds.readBe_eight` — reads of known fields.
* `Holds.load`, `Holds.slice` — the bytes of a known stretch.
* `returns_store`, `returns_memmove` — the stretches that a store or a move leaves.
* `yields_store_bytes`, `yields_memmove_bytes` — the same byte by byte, if there is room.
-/
import Mediasoup.Lib.Memory

open List Bytes Checked

namespace Slices

/-- From `pos` on the buffer has these bytes. -/
def Holds (buf : List UInt8) (pos : ℕ) (bytes : List UInt8) : Prop := bytes <+: buf.drop pos

def slice (buf : List UInt8) (e : Extent) : List UInt8 := (buf.drop e.start).take e.size

variable {buf bytes : List UInt8} {pos : ℕ}

theorem holds_self (buf : List UInt8) : Holds buf 0 buf := prefix_rfl

theorem holds_append {a b : List UInt8} :
    Holds buf pos (a ++ b) ↔ Holds buf pos a ∧ Holds buf (pos + a.length) b := by
  constructor
  · rintro ⟨rest, hrest⟩
    refine ⟨⟨b ++ rest, by rw [← append_assoc, hrest]⟩, ⟨rest, ?_⟩⟩
    rw [← drop_drop, ← hrest, append_assoc, drop_left]
  · rintro ⟨⟨rest, hrest⟩, ⟨rest', hrest'⟩⟩
    rw [← drop_drop, ← hrest, drop_left] at hrest'
    exact ⟨rest', by rw [append_assoc, hrest', hrest]⟩

theorem holds_cons {x : UInt8} :
    Holds buf pos (x :: bytes) ↔ Holds buf pos [x] ∧ Holds buf (pos + 1) bytes :=
  holds_append (a := [x])

theorem Holds.length_le (h : Holds buf pos bytes) (hne : bytes ≠ []) :
    pos + bytes.length ≤ buf.length := by
  have hle := List.IsPrefix.length_le h
  have hpos := length_pos_iff.mpr hne
  rw [length_drop] at hle
  omega

theorem Holds.read {x : UInt8} (h : Holds buf pos (x :: bytes)) : read buf pos = value x := by
  obtain ⟨rest, hrest⟩ := h
  rw [read_eq_value, ← List.head?_drop, ← hrest]
  rfl

variable {n i : ℕ}

theorem Holds.readBe_two (h : Holds buf pos (toBe16 n)) : readBe buf 2 pos = value (n % 65536) := by
  obtain ⟨h0, h1⟩ := holds_cons.mp h
  simp only [readBe, h0.read, h1.read, value_bind, pure_eq, value.injEq, UInt8.toNat_ofNat']
  omega

theorem Holds.readBe_three (h : Holds buf pos (toBe24 n)) :
    readBe buf 3 pos = value (n % 16777216) := by
  obtain ⟨h0, h⟩ := holds_cons.mp h
  obtain ⟨h1, h2⟩ := holds_cons.mp h
  simp only [readBe, h0.read, h1.read, h2.read, value_bind, pure_eq, value.injEq,
    UInt8.toNat_ofNat']
  omega

theorem Holds.readBe_four (h : Holds buf pos (toBe32 n)) :
    readBe buf 4 pos = value (n % 4294967296) := by
  obtain ⟨h0, h⟩ := holds_cons.mp h
  obtain ⟨h1, h⟩ := holds_cons.mp h
  obtain ⟨h2, h3⟩ := holds_cons.mp h
  simp only [readBe, h0.read, h1.read, h2.read, h3.read, value_bind, pure_eq, value.injEq,
    UInt8.toNat_ofNat']
  omega

theorem Holds.readBe_eight {m : ℕ} (h : Holds buf pos (toBe32 n ++ toBe32 m)) :
    readBe buf 8 pos = value (n % 4294967296 * 4294967296 + m % 4294967296) := by
  obtain ⟨h0, h⟩ := holds_cons.mp h
  obtain ⟨h1, h⟩ := holds_cons.mp h
  obtain ⟨h2, h⟩ := holds_cons.mp h
  obtain ⟨h3, h⟩ := holds_cons.mp h
  obtain ⟨h4, h⟩ := holds_cons.mp h
  obtain ⟨h5, h⟩ := holds_cons.mp h
  obtain ⟨h6, h7⟩ := holds_cons.mp h
  simp only [readBe, h0.read, h1.read, h2.read, h3.read, h4.read, h5.read, h6.read, h7.read,
    value_bind, pure_eq, value.injEq, UInt8.toNat_ofNat']
  omega

theorem Holds.load (h : Holds buf pos bytes) : load buf pos bytes.length = value bytes := by
  have hroom : bytes.length = 0 ∨ pos + bytes.length ≤ buf.length := by
    by_cases hnil : bytes = []
    · exact .inl (length_eq_zero_iff.mpr hnil)
    · exact .inr (h.length_le hnil)
  obtain ⟨rest, hrest⟩ := h
  rw [Checked.load, if_pos hroom, ← hrest, take_left]

theorem Holds.slice (h : Holds buf pos bytes) : slice buf ⟨pos, bytes.length⟩ = bytes := by
  obtain ⟨rest, hrest⟩ := h
  rw [Slices.slice, ← hrest, take_left]

/-! ### Stretches that were just written -/

theorem holds_iff_getElem? :
    Holds buf pos bytes ↔ ∀ k, k < bytes.length → buf[pos + k]? = bytes[k]? := by
  constructor
  · rintro ⟨rest, hrest⟩ k hk
    rw [← List.getElem?_drop, ← hrest, List.getElem?_append_left hk]
  · intro h
    refine prefix_iff_getElem?.mpr fun k hk => ?_
    rw [List.getElem?_drop, h k hk, List.getElem?_eq_getElem hk]

theorem Holds.of_agreeOn {buf' : List UInt8} {lo hi : ℕ} (h : Holds buf pos bytes)
    (hagree : AgreeOn buf buf' lo hi) (hlo : lo ≤ pos) (hhi : pos + bytes.length ≤ hi) :
    Holds buf' pos bytes := by
  refine holds_iff_getElem?.mpr fun k hk => ?_
  have hbyte := holds_iff_getElem?.mp h k hk
  rw [List.getElem?_eq_getElem hk] at hbyte ⊢
  rw [← read_eq_value] at hbyte ⊢
  rw [hagree.read_eq (by omega) (by omega), hbyte]

theorem Holds.byteAt_eq (h : Holds buf pos bytes) {k : ℕ} (hk : k < bytes.length) :
    byteAt buf (pos + k) = byteAt bytes k := by
  rw [byteAt, byteAt, holds_iff_getElem?.mp h k hk]

theorem Holds.be16_eq (h : Holds buf pos (toBe16 n)) (hn : n < 65536) : be16 buf pos = n := by
  have h0 := h.byteAt_eq (k := 0) Nat.zero_lt_two
  have h1 := h.byteAt_eq (k := 1) Nat.one_lt_two
  rw [be16, ← Nat.add_zero pos, h0, Nat.add_zero, h1]
  show (UInt8.ofNat (n / 256)).toNat * 256 + (UInt8.ofNat n).toNat = n
  rw [UInt8.toNat_ofNat', UInt8.toNat_ofNat']
  omega

theorem returns_store (mem : List UInt8) (bs : List UInt8) :
    (store mem i bs).Returns fun mem' => Holds mem' i bs ∧
      ∀ lo hi, i + bs.length ≤ lo ∨ hi ≤ i → AgreeOn mem mem' lo hi := by
  intro mem' hstore
  have hroom : bs = [] ∨ i + bs.length ≤ mem.length :=
    safe_store_iff.mp (by rw [hstore]; trivial)
  refine ⟨?_, fun lo hi hdisj => (ensures_store_agreeOn lo hi hroom hdisj).of_eq hstore⟩
  rcases hroom with rfl | hroom
  · exact nil_prefix
  rw [Checked.store, if_pos (Or.inr hroom)] at hstore
  obtain rfl := value.inj hstore
  have hlen : (mem.take i).length = i := by
    rw [length_take]
    omega
  refine ⟨mem.drop (i + bs.length), ?_⟩
  rw [append_assoc]
  exact (drop_left' hlen).symm

theorem returns_load (mem : List UInt8) (i n : ℕ) :
    (load mem i n).Returns fun bs => bs.length = n ∧ (n = 0 ∨ i + n ≤ mem.length) ∧
      ∀ k, k < n → bs[k]? = mem[i + k]? := by
  refine .ite (fun hroom => returns_value ⟨?_, hroom, fun k hk => ?_⟩) fun _ bs hbs => ?_
  · rw [length_take, length_drop]
    omega
  · rw [List.getElem?_take_of_lt hk, List.getElem?_drop]
  · cases hbs

theorem returns_memmove (mem : List UInt8) (dst : ℤ) (src n : ℕ) :
    (memmove mem dst src n).Returns fun mem' =>
      (n ≠ 0 → 0 ≤ dst ∧ ∀ k, k < n → byteAt mem' (dst.toNat + k) = byteAt mem (src + k)) ∧
      ∀ lo hi : ℕ, n = 0 ∨ dst + n ≤ lo ∨ hi ≤ dst → AgreeOn mem mem' lo hi := by
  refine (returns_load mem src n).bind fun bs hload => ?_
  obtain ⟨hlen, -, hbytes⟩ := hload
  refine .ite (fun hnil => returns_value ⟨fun hn => ?_, fun lo hi _ => ?_⟩) fun hnil => ?_
  · exact absurd (hlen.symm.trans (length_eq_zero_iff.mpr hnil)) hn
  · exact .refl mem lo hi
  have hn : n ≠ 0 := by
    rintro rfl
    exact hnil (length_eq_zero_iff.mp hlen)
  refine .ite (fun hdst mem' hstore => ?_) fun _ mem' hfault => ?_
  · obtain ⟨hholds, hagree⟩ := returns_store _ _ mem' hstore
    refine ⟨fun _ => ⟨hdst, fun k hk => ?_⟩, fun lo hi hdisj => hagree lo hi (by omega)⟩
    rw [hholds.byteAt_eq (by omega), byteAt, byteAt, hbytes k hk]
  · cases hfault

/-! ### Byte by byte -/

variable {mem : List UInt8}

/-- Only the `n` bytes from `i` on have changed. -/
structure SameOutside (mem mem' : List UInt8) (i n : ℕ) : Prop where
  length_eq : mem'.length = mem.length
  byteAt_eq : ∀ j, j < i ∨ i + n ≤ j → byteAt mem' j = byteAt mem j

theorem SameOutside.agreeOn {mem' : List UInt8} {lo hi : ℕ} (h : SameOutside mem mem' i n)
    (hdisj : i + n ≤ lo ∨ hi ≤ i) : AgreeOn mem mem' lo hi :=
  ⟨h.length_eq, fun j hlo hhi => h.byteAt_eq j (by omega)⟩

theorem yields_store_bytes {i : ℕ} {bs : List UInt8} (hroom : i + bs.length ≤ mem.length) :
    (store mem i bs).Yields fun mem' => Holds mem' i bs ∧ SameOutside mem mem' i bs.length := by
  obtain ⟨mem', hmem', hlen⟩ := exists_store (.inr hroom)
  obtain ⟨hholds, hagree⟩ := returns_store _ _ mem' hmem'
  refine ⟨mem', hmem', hholds, hlen, fun j hj => ?_⟩
  exact (hagree j (j + 1) (by omega)).byteAt_eq j le_rfl (Nat.lt_succ_self j)

theorem yields_memmove_bytes {dst src n : ℕ} (hsrc : src + n ≤ mem.length)
    (hdst : dst + n ≤ mem.length) : (memmove mem dst src n).Yields fun mem' =>
      (∀ k, k < n → byteAt mem' (dst + k) = byteAt mem (src + k)) ∧ SameOutside mem mem' dst n := by
  obtain ⟨mem', hmem', hlen⟩ := @yields_memmove mem n dst src hsrc (by omega)
  obtain ⟨hmoved, hagree⟩ := returns_memmove _ _ _ _ mem' hmem'
  refine ⟨mem', hmem', fun k hk => (hmoved (by omega)).2 k hk, hlen, fun j hj => ?_⟩
  exact (hagree j (j + 1) (by omega)).byteAt_eq j le_rfl (Nat.lt_succ_self j)

theorem load_two (hroom : i + 2 ≤ mem.length) :
    load mem i 2 = value [byteAt mem i, byteAt mem (i + 1)] := by
  have h0 : i < mem.length := by omega
  have h1 : i + 1 < mem.length := by omega
  rw [load, if_pos (Or.inr hroom), drop_eq_getElem_cons h0, drop_eq_getElem_cons h1,
    byteAt, byteAt, List.getElem?_eq_getElem h0, List.getElem?_eq_getElem h1]
  rfl

end Slices
