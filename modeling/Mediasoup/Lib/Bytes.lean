/-
Byte strings and the fixed-width integers stored in them.

Everything here is over plain bytes and lists of bytes: the bits of a byte, and
the 32-bit little-endian length field that length-prefixed framings use.

* `le_toLe32` — a number below `2 ^ 32` survives its little-endian encoding.
-/
import Mathlib.Algebra.Group.Nat.Defs

namespace Bytes

/-- Bit `n` of a byte, bit 0 being the least significant one. -/
def bit (byte : UInt8) (n : ℕ) : Bool := byte.toNat.testBit n

/-- Bits `lo`, …, `lo + width - 1` of a byte as a number. -/
def bits (byte : UInt8) (lo width : ℕ) : ℕ := byte.toNat >>> lo % 2 ^ width

def toLe32 (n : ℕ) : List UInt8 :=
  [UInt8.ofNat n, UInt8.ofNat (n / 256), UInt8.ofNat (n / 65536),
    UInt8.ofNat (n / 16777216)]

def toBe16 (n : ℕ) : List UInt8 := [UInt8.ofNat (n / 256), UInt8.ofNat n]

def toBe24 (n : ℕ) : List UInt8 := [UInt8.ofNat (n / 65536), UInt8.ofNat (n / 256), UInt8.ofNat n]

def toBe32 (n : ℕ) : List UInt8 :=
  [UInt8.ofNat (n / 16777216), UInt8.ofNat (n / 65536), UInt8.ofNat (n / 256), UInt8.ofNat n]

/-- A byte with bit `n` set to `b`. -/
def setBit (byte : UInt8) (n : ℕ) (b : Bool) : UInt8 :=
  if b then byte ||| UInt8.ofNat (2 ^ n) else byte &&& ~~~ UInt8.ofNat (2 ^ n)

/-- An integer as an `int16_t`. -/
def toInt16 (n : ℤ) : ℤ := (n + 32768) % 65536 - 32768

/-- The value of a byte string read least significant byte first. -/
def le : List UInt8 → ℕ
  | [] => 0
  | b :: bs => b.toNat + 256 * le bs

def byteAt (buf : List UInt8) (i : ℕ) : UInt8 := buf[i]?.getD 0

/-- The big-endian number in the two bytes at index `i`. -/
def be16 (buf : List UInt8) (i : ℕ) : ℕ := (byteAt buf i).toNat * 256 + (byteAt buf (i + 1)).toNat

/-- A stretch of a buffer: `size` bytes from `start` on. -/
structure Extent where
  start : ℕ
  size : ℕ
  deriving DecidableEq

/-- The stretch lies inside the `len` bytes from `base` on. -/
def Extent.Inside (e : Extent) (base len : ℕ) : Prop :=
  base ≤ e.start ∧ e.start + e.size ≤ base + len

instance (e : Extent) (base len : ℕ) : Decidable (e.Inside base len) :=
  inferInstanceAs (Decidable (_ ∧ _))

@[simp] theorem length_toLe32 (n : ℕ) : (toLe32 n).length = 4 := rfl

theorem length_toBe16 (n : ℕ) : (toBe16 n).length = 2 := rfl

theorem le_toLe32 {n : ℕ} (h : n < 4294967296) : le (toLe32 n) = n := by
  simp only [toLe32, le, UInt8.toNat_ofNat']
  omega

end Bytes
