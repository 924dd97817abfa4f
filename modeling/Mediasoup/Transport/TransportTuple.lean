/-
Tuples of a transport (`RTC::TransportTuple`) and when two of them count as one.

`Compare` compares 64-bit hashes of the protocol, the remote address and the remote port.
The hash of an IPv4 tuple holds all three.  That of an IPv6 tuple holds the exclusive or of
the four words of the address and 14 bits of the first one.

* `hash_eq_iff` — two tuples have one hash exactly when they are equal or IPv6 tuples of
  one protocol and port whose addresses agree in those bits (`Collides`).
-/
import Mathlib.Data.Nat.Notation
import Mathlib.Data.Nat.Bitwise
import Mathlib.Tactic.Tauto

namespace Mediasoup

inductive Protocol where
  | udp
  | tcp
  deriving DecidableEq

/-- A remote address: an IPv4 address as a number, or an IPv6 address as the four words
that its 16 bytes are when they are read as an array of words. -/
inductive IpAddress where
  | v4 (address : UInt32)
  | v6 (a0 a1 a2 a3 : UInt32)
  deriving DecidableEq

/-- What a tuple says of the remote side. -/
structure TransportTuple where
  protocol : Protocol
  ip : IpAddress
  port : UInt16
  deriving DecidableEq

namespace TransportTuple

def protocolBit : Protocol → UInt64
  | .udp => 0x0000
  | .tcp => 0x0001

/-- The bits of the first word of an IPv6 address that are in the hash by themselves. -/
def wordBits (address2 : UInt32) : UInt32 := address2 >>> 16 &&& 0xFFFC

/-- `SetHash`. -/
def hash (t : TransportTuple) : UInt64 :=
  let port := t.port.toUInt64
  match t.ip with
  | .v4 address => port <<< 48 ||| address.toUInt64 <<< 16 ||| 0x0000 ||| protocolBit t.protocol
  | .v6 a0 a1 a2 a3 =>
    let address1 := a0 ^^^ a1 ^^^ a2 ^^^ a3
    let address2 := a0
    port <<< 48 ||| address1.toUInt64 <<< 16 ||| (wordBits address2).toUInt64 |||
      0x0002 ||| protocolBit t.protocol

def compare (t u : TransportTuple) : Bool := t.hash == u.hash

/-- Different IPv6 tuples that agree in everything that the hash takes from them. -/
def Collides (t u : TransportTuple) : Prop :=
  match t.ip, u.ip with
  | .v6 a0 a1 a2 a3, .v6 b0 b1 b2 b3 =>
    t ≠ u ∧ t.protocol = u.protocol ∧ t.port = u.port ∧
      a0 ^^^ a1 ^^^ a2 ^^^ a3 = b0 ^^^ b1 ^^^ b2 ^^^ b3 ∧
      wordBits a0 = wordBits b0
  | _, _ => False

/-! ### The parts of a hash -/

theorem toNat_pack (port : UInt16) (address : UInt32) {low : UInt64} (hlow : low.toNat < 65536) :
    (port.toUInt64 <<< 48 ||| address.toUInt64 <<< 16 ||| low).toNat =
      port.toNat * 2 ^ 48 + address.toNat * 2 ^ 16 + low.toNat := by
  have hport := port.toNat_lt
  have haddress := address.toNat_lt
  have h48 : (port.toUInt64 <<< 48).toNat = port.toNat * 2 ^ 48 := by
    rw [UInt64.toNat_shiftLeft, UInt16.toNat_toUInt64]
    show port.toNat <<< 48 % 2 ^ 64 = _
    rw [Nat.shiftLeft_eq]
    omega
  have h16 : (address.toUInt64 <<< 16).toNat = address.toNat * 2 ^ 16 := by
    rw [UInt64.toNat_shiftLeft, UInt32.toNat_toUInt64]
    show address.toNat <<< 16 % 2 ^ 64 = _
    rw [Nat.shiftLeft_eq]
    omega
  -- the three fields do not overlap, so `|||` adds
  have hupper : port.toNat * 2 ^ 48 ||| address.toNat * 2 ^ 16 =
      (port.toNat * 2 ^ 32 + address.toNat) * 2 ^ 16 := by
    have h := Nat.two_pow_add_eq_or_of_lt (i := 48)
      (show address.toNat * 2 ^ 16 < 2 ^ 48 by omega) port.toNat
    rw [Nat.mul_comm, ← h]
    omega
  have hall := Nat.two_pow_add_eq_or_of_lt (i := 16) (show low.toNat < 2 ^ 16 by omega)
    (port.toNat * 2 ^ 32 + address.toNat)
  rw [UInt64.toNat_or, UInt64.toNat_or, h48, h16, hupper, Nat.mul_comm, ← hall]
  omega

theorem pack_inj {port port' : UInt16} {address address' : UInt32} {low low' : UInt64}
    (hlow : low.toNat < 65536) (hlow' : low'.toNat < 65536) :
    port.toUInt64 <<< 48 ||| address.toUInt64 <<< 16 ||| low =
        port'.toUInt64 <<< 48 ||| address'.toUInt64 <<< 16 ||| low' ↔
      port = port' ∧ address = address' ∧ low = low' := by
  constructor
  · intro h
    have hnat := congrArg UInt64.toNat h
    rw [toNat_pack _ _ hlow, toNat_pack _ _ hlow'] at hnat
    have ha := address.toNat_lt
    have ha' := address'.toNat_lt
    refine ⟨UInt16.toNat_inj.mp (by omega), UInt32.toNat_inj.mp (by omega),
      UInt64.toNat_inj.mp (by omega)⟩
  · rintro ⟨rfl, rfl, rfl⟩
    rfl

theorem and_0xFFFC {n : ℕ} (h : n < 65536) : n &&& 0xFFFC = 2 ^ 2 * (n / 4) := by
  apply Nat.eq_of_testBit_eq
  intro i
  have hmask : (0xFFFC : ℕ) = (2 ^ 14 - 1) <<< 2 := rfl
  have hdiv : 2 ^ 2 * (n / 4) = (n >>> 2) <<< 2 := by
    rw [Nat.shiftLeft_eq, Nat.shiftRight_eq_div_pow, Nat.mul_comm]
  rw [hmask, hdiv, Nat.testBit_and, Nat.testBit_shiftLeft, Nat.testBit_shiftLeft,
    Nat.testBit_two_pow_sub_one, Nat.testBit_shiftRight]
  by_cases hi : 2 ≤ i
  · rw [Nat.add_sub_cancel' hi]
    by_cases hlt : i - 2 < 14
    · simp [hi, hlt]
    · have hbig : n.testBit i = false :=
        Nat.testBit_lt_two_pow
          (h.trans_le (Nat.pow_le_pow_right (n := 2) (by decide) (by omega : 16 ≤ i)))
      simp [hbig]
  · simp [hi]

/-- The 32 bits of an address in the middle of the hash. -/
def addressBits : IpAddress → UInt32
  | .v4 address => address
  | .v6 a0 a1 a2 a3 => a0 ^^^ a1 ^^^ a2 ^^^ a3

/-- What an address adds to the lowest 16 bits. -/
def familyBits : IpAddress → UInt64
  | .v4 _ => 0x0000
  | .v6 a0 _ _ _ => (wordBits a0).toUInt64 ||| 0x0002

theorem hash_eq_pack (t : TransportTuple) : t.hash =
    t.port.toUInt64 <<< 48 ||| (addressBits t.ip).toUInt64 <<< 16 |||
      (familyBits t.ip ||| protocolBit t.protocol) := by
  obtain ⟨protocol, ip, port⟩ := t
  cases ip with
  | v4 address | v6 a0 a1 a2 a3 => simp only [hash, addressBits, familyBits, UInt64.or_assoc]

theorem toNat_wordBits (word : UInt32) :
    (wordBits word).toNat = 2 ^ 2 * (word.toNat / 65536 / 4) := by
  have hword := word.toNat_lt
  rw [wordBits, UInt32.toNat_and, UInt32.toNat_shiftRight]
  show word.toNat >>> 16 &&& 0xFFFC = _
  rw [Nat.shiftRight_eq_div_pow, and_0xFFFC (by omega)]

theorem toNat_familyBits_v6 (a0 a1 a2 a3 : UInt32) :
    (familyBits (.v6 a0 a1 a2 a3)).toNat = (wordBits a0).toNat + 2 := by
  show ((wordBits a0).toUInt64 ||| 0x0002).toNat = _
  have h2 : (0x0002 : UInt64).toNat < 2 ^ 2 := by decide
  rw [UInt64.toNat_or, UInt32.toNat_toUInt64, toNat_wordBits,
    ← Nat.two_pow_add_eq_or_of_lt h2]
  rfl

theorem familyBits_spec (ip : IpAddress) :
    (familyBits ip).toNat % 2 = 0 ∧ (familyBits ip).toNat < 65536 := by
  cases ip with
  | v4 address => exact ⟨rfl, show (0 : UInt64).toNat < 65536 by decide⟩
  | v6 a0 a1 a2 a3 =>
    have hword := a0.toNat_lt
    rw [toNat_familyBits_v6, toNat_wordBits]
    omega

theorem toNat_lowBits (ip : IpAddress) (protocol : Protocol) :
    (familyBits ip ||| protocolBit protocol).toNat =
      (familyBits ip).toNat + (protocolBit protocol).toNat := by
  have hbit : (protocolBit protocol).toNat < 2 ^ 1 := by cases protocol <;> decide
  obtain ⟨heven, -⟩ := familyBits_spec ip
  have hfamily : (familyBits ip).toNat = 2 ^ 1 * ((familyBits ip).toNat / 2) := by omega
  rw [UInt64.toNat_or, hfamily, ← Nat.two_pow_add_eq_or_of_lt hbit]

theorem lowBits_inj {ip ip' : IpAddress} {protocol protocol' : Protocol} :
    familyBits ip ||| protocolBit protocol = familyBits ip' ||| protocolBit protocol' ↔
      familyBits ip = familyBits ip' ∧ protocol = protocol' := by
  constructor
  · intro h
    have hnat := congrArg UInt64.toNat h
    rw [toNat_lowBits, toNat_lowBits] at hnat
    have heven := (familyBits_spec ip).1
    have heven' := (familyBits_spec ip').1
    have hbit : ∀ p, (protocolBit p).toNat < 2 := by
      intro p
      cases p <;> decide
    have hlt := hbit protocol
    have hlt' := hbit protocol'
    refine ⟨UInt64.toNat_inj.mp (by omega), ?_⟩
    have hsame : (protocolBit protocol).toNat = (protocolBit protocol').toNat := by omega
    cases protocol <;> cases protocol' <;> first | rfl | exact absurd hsame (by decide)
  · rintro ⟨hfamily, rfl⟩
    rw [hfamily]

variable {t u : TransportTuple}

theorem hash_eq_iff_parts : t.hash = u.hash ↔
    t.port = u.port ∧ addressBits t.ip = addressBits u.ip ∧ familyBits t.ip = familyBits u.ip ∧
      t.protocol = u.protocol := by
  have hlow : ∀ v : TransportTuple, (familyBits v.ip ||| protocolBit v.protocol).toNat < 65536 := by
    intro v
    obtain ⟨heven, hlt⟩ := familyBits_spec v.ip
    have hbit : (protocolBit v.protocol).toNat < 2 := by cases v.protocol <;> decide
    rw [toNat_lowBits]
    omega
  rw [hash_eq_pack, hash_eq_pack, pack_inj (hlow t) (hlow u), lowBits_inj]

theorem familyBits_v4_ne_v6 (address a0 a1 a2 a3 : UInt32) :
    familyBits (.v4 address) ≠ familyBits (.v6 a0 a1 a2 a3) := by
  intro h
  have hnat := congrArg UInt64.toNat h
  rw [toNat_familyBits_v6] at hnat
  exact absurd hnat (by simp [familyBits])

theorem familyBits_v6_inj {a0 a1 a2 a3 b0 b1 b2 b3 : UInt32} :
    familyBits (.v6 a0 a1 a2 a3) = familyBits (.v6 b0 b1 b2 b3) ↔ wordBits a0 = wordBits b0 := by
  rw [← UInt64.toNat_inj, toNat_familyBits_v6, toNat_familyBits_v6, Nat.add_right_cancel_iff,
    UInt32.toNat_inj]

/-- **One hash** is one tuple, or two IPv6 tuples that collide. -/
theorem hash_eq_iff : t.hash = u.hash ↔ t = u ∨ Collides t u := by
  rw [hash_eq_iff_parts]
  obtain ⟨protocol, ip, port⟩ := t
  obtain ⟨protocol', ip', port'⟩ := u
  cases ip with
  | v4 address =>
    cases ip' with
    | v4 address' =>
      simp only [addressBits, familyBits, Collides, mk.injEq, IpAddress.v4.injEq]
      tauto
    | v6 b0 b1 b2 b3 =>
      have hne := familyBits_v4_ne_v6 address b0 b1 b2 b3
      simp [hne, Collides]
  | v6 a0 a1 a2 a3 =>
    cases ip' with
    | v4 address' =>
      have hne := familyBits_v4_ne_v6 address' a0 a1 a2 a3
      simp [hne.symm, Collides]
    | v6 b0 b1 b2 b3 =>
      simp only [addressBits, familyBits_v6_inj, Collides]
      grind

theorem compare_iff : t.compare u = true ↔ t = u ∨ Collides t u := by
  rw [compare, beq_iff_eq, hash_eq_iff]

end TransportTuple

end Mediasoup
