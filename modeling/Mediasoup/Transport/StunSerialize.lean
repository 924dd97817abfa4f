/-
Serialized STUN packets (`RTC::StunPacket::Serialize`) and what `Parse` makes of them.

`Serialize` writes the header and the attributes that are set, then MESSAGE-INTEGRITY over
what is written so far, with the length field as it is without FINGERPRINT, and then
FINGERPRINT.  The padding of USERNAME is not written: it is what the buffer held before.

* `OutgoingStun`, `OutgoingStun.serialize` — a packet to be sent, and its bytes.
* `Walks` — the walk of the parser over an attribute.
* `stun_roundTrip` — a serialized packet is parsed back and authenticated, if `IsStun`
  takes its message type for one of STUN (`IsDemultiplexed`).
-/
import Mediasoup.Lib.Slices
import Mediasoup.Transport.StunPacket

open List Bytes Checked Slices

namespace Mediasoup

open StunPacket

/-- The two bits of a class in the message type. -/
def StunClass.toBits : StunClass → ℕ
  | request => 0
  | indication => 1
  | successResponse => 2
  | errorResponse => 3

/-- A `sockaddr` with an IPv4 or IPv6 address, in network order. -/
inductive SocketAddress where
  | inet (port : UInt16) (address : List UInt8) (length_address : address.length = 4)
  | inet6 (port : UInt16) (address : List UInt8) (length_address : address.length = 16)

structure OutgoingStun where
  klass : StunClass
  method : ℕ
  method_lt : method < 4096
  transactionId : List UInt8
  length_transactionId : transactionId.length = 12
  username : List UInt8
  length_username : username.length ≤ 512
  priority : UInt32
  iceControlling : UInt64
  iceControlled : UInt64
  hasUseCandidate : Bool
  xorMappedAddress : Option SocketAddress
  errorCode : UInt16
  password : List UInt8

namespace OutgoingStun

variable (p : OutgoingStun)

/-- XOR-MAPPED-ADDRESS is for successful Binding responses. -/
def mappedAddress : Option SocketAddress :=
  if p.method = 1 ∧ p.klass = .successResponse then p.xorMappedAddress else none

def addErrorCode : Bool := p.errorCode ≠ 0 ∧ p.klass = .errorResponse

def addMessageIntegrity : Bool := p.klass ≠ .errorResponse ∧ p.password ≠ []

/-- `PadTo4Bytes` of the length of the username. -/
def usernamePaddedLen : ℕ := padTo4Bytes p.username.length

def getSize : ℕ :=
  20 + (if p.username ≠ [] then 4 + p.usernamePaddedLen else 0) +
    (if p.priority ≠ 0 then 4 + 4 else 0) +
    (if p.iceControlling ≠ 0 then 4 + 8 else 0) +
    (if p.iceControlled ≠ 0 then 4 + 8 else 0) +
    (if p.hasUseCandidate then 4 else 0) +
    (match p.mappedAddress with
      | none => 0
      | some (.inet ..) => 4 + 8
      | some (.inet6 ..) => 4 + 20) +
    (if p.addErrorCode then 4 + 4 else 0) +
    (if p.addMessageIntegrity then 4 + 20 else 0) +
    (4 + 4)

/-- The message type, with the bits of the class between those of the method. -/
def mergeType (method : ℕ) (klass : StunClass) : ℕ :=
  ((method &&& 0x0f80) <<< 2) ||| ((method &&& 0x0070) <<< 1) ||| (method &&& 0x000f) |||
    ((klass.toBits &&& 0x02) <<< 7) ||| ((klass.toBits &&& 0x01) <<< 4)

def typeField : ℕ := mergeType p.method p.klass

def magicCookie : List UInt8 := [0x21, 0x12, 0xA4, 0x42]

def header (length : ℕ) : List UInt8 :=
  toBe16 p.typeField ++ (toBe16 length ++ (magicCookie ++ p.transactionId))

/-- An attribute whose value needs no padding. -/
def encodeAttribute (type : ℕ) (value : List UInt8) : List UInt8 :=
  toBe16 type ++ (toBe16 value.length ++ value)

/-- USERNAME; `stale` are the bytes of the buffer before, by position. -/
def usernameAttribute (stale : ℕ → UInt8) : List UInt8 :=
  if p.username ≠ [] then
    encodeAttribute 0x0006 p.username ++
      (List.range' (20 + 4 + p.username.length) (p.usernamePaddedLen - p.username.length)).map stale
  else []

def priorityAttribute : List UInt8 :=
  if p.priority ≠ 0 then encodeAttribute 0x0024 (toBe32 p.priority.toNat) else []

def toBe64 (n : UInt64) : List UInt8 :=
  toBe32 (n.toNat / 4294967296) ++ toBe32 n.toNat

def iceControllingAttribute : List UInt8 :=
  if p.iceControlling ≠ 0 then encodeAttribute 0x802A (toBe64 p.iceControlling) else []

def iceControlledAttribute : List UInt8 :=
  if p.iceControlled ≠ 0 then encodeAttribute 0x8029 (toBe64 p.iceControlled) else []

def useCandidateAttribute : List UInt8 :=
  if p.hasUseCandidate then encodeAttribute 0x0025 [] else []

/-- Bytes of an address, hidden by exclusive or. -/
def xorBytes (bytes mask : List UInt8) : List UInt8 := List.zipWith (· ^^^ ·) bytes mask

def mappedAddressAttribute : List UInt8 :=
  match p.mappedAddress with
  | none => []
  | some (.inet port address _) =>
    encodeAttribute 0x0020 ([0, 0x01] ++ (xorBytes (toBe16 port.toNat) magicCookie ++
      xorBytes address magicCookie))
  | some (.inet6 port address _) =>
    encodeAttribute 0x0020 ([0, 0x02] ++ (xorBytes (toBe16 port.toNat) magicCookie ++
      xorBytes address (magicCookie ++ p.transactionId)))

/-- The class and the number of the error code, in 8-bit arithmetic. -/
def errorCodeAttribute : List UInt8 :=
  if p.addErrorCode then
    let codeClass : UInt8 := UInt8.ofNat (p.errorCode.toNat / 100)
    let codeNumber : UInt8 := UInt8.ofNat p.errorCode.toNat - codeClass * 100
    encodeAttribute 0x0009 [0, 0, codeClass, codeNumber]
  else []

/-- The attributes before MESSAGE-INTEGRITY. -/
def attributes (stale : ℕ → UInt8) : List UInt8 :=
  p.usernameAttribute stale ++ (p.priorityAttribute ++ (p.iceControllingAttribute ++
    (p.iceControlledAttribute ++ (p.useCandidateAttribute ++
      (p.mappedAddressAttribute ++ p.errorCodeAttribute)))))

/-- MESSAGE-INTEGRITY of the packet up to here, without FINGERPRINT (8 bytes) in the length. -/
def messageIntegrityAttribute (hmacSha1 : List UInt8 → List UInt8 → Digest)
    (stale : ℕ → UInt8) : List UInt8 :=
  if p.addMessageIntegrity then
    encodeAttribute 0x0008 (hmacSha1 p.password
      (p.header (p.getSize - 20 - 8) ++ p.attributes stale)).bytes
  else []

def fingerprintAttribute (crc32 : List UInt8 → UInt32) (covered : List UInt8) : List UInt8 :=
  encodeAttribute 0x8028 (toBe32 (crc32 covered ^^^ 0x5354554e).toNat)

/-- The bytes up to the position where `Serialize` ends, or `none` if its assertion on that
position fails. -/
def serialize (crc32 : List UInt8 → UInt32) (hmacSha1 : List UInt8 → List UInt8 → Digest)
    (stale : ℕ → UInt8) : Option (List UInt8) :=
  let covered := p.header (p.getSize - 20) ++
    (p.attributes stale ++ p.messageIntegrityAttribute hmacSha1 stale)
  let data := covered ++ fingerprintAttribute crc32 covered
  if data.length = p.getSize then some data else none

/-! ### Sizes -/

variable (crc32 : List UInt8 → UInt32) (hmacSha1 : List UInt8 → List UInt8 → Digest)
  (stale : ℕ → UInt8)

theorem length_encodeAttribute (type : ℕ) (value : List UInt8) :
    (encodeAttribute type value).length = 4 + value.length := by
  show (value.length + 1 + 1) + 1 + 1 = 4 + value.length
  omega

theorem usernamePaddedLen_spec :
    p.username.length ≤ p.usernamePaddedLen ∧ p.usernamePaddedLen < p.username.length + 4 ∧
      p.usernamePaddedLen % 4 = 0 := by
  have hle := p.length_username
  have hmod : p.username.length % 65536 = p.username.length := Nat.mod_eq_of_lt (by omega)
  rw [usernamePaddedLen, padTo4Bytes, hmod]
  split_ifs <;> omega

theorem length_usernameAttribute : (p.usernameAttribute stale).length =
      if p.username ≠ [] then 4 + p.usernamePaddedLen else 0 := by
  have hpadded := p.usernamePaddedLen_spec
  rw [usernameAttribute]
  split_ifs
  · rw [length_append, length_encodeAttribute, length_map, length_range']
    omega
  · rfl

theorem length_mappedAddressAttribute : p.mappedAddressAttribute.length = match p.mappedAddress with
      | none => 0
      | some (.inet ..) => 4 + 8
      | some (.inet6 ..) => 4 + 20 := by
  rw [mappedAddressAttribute]
  cases p.mappedAddress with
  | none => rfl
  | some mapped =>
    cases mapped with
    | inet port address hlength =>
      rw [length_encodeAttribute]
      simp [xorBytes, hlength, magicCookie, toBe16]
    | inet6 port address hlength =>
      rw [length_encodeAttribute]
      simp [xorBytes, hlength, magicCookie, toBe16, p.length_transactionId]

theorem length_attributes :
    20 + (p.attributes stale).length + (if p.addMessageIntegrity then 4 + 20 else 0) + (4 + 4) =
      p.getSize := by
  have hpriority : p.priorityAttribute.length = if p.priority ≠ 0 then 4 + 4 else 0 := by
    rw [priorityAttribute, apply_ite List.length, length_encodeAttribute]
    rfl
  have hcontrolling :
      p.iceControllingAttribute.length = if p.iceControlling ≠ 0 then 4 + 8 else 0 := by
    rw [iceControllingAttribute, apply_ite List.length, length_encodeAttribute]
    rfl
  have hcontrolled :
      p.iceControlledAttribute.length = if p.iceControlled ≠ 0 then 4 + 8 else 0 := by
    rw [iceControlledAttribute, apply_ite List.length, length_encodeAttribute]
    rfl
  have hcandidate : p.useCandidateAttribute.length = if p.hasUseCandidate then 4 else 0 := by
    rw [useCandidateAttribute, apply_ite List.length, length_encodeAttribute]
    rfl
  have herror : p.errorCodeAttribute.length = if p.addErrorCode then 4 + 4 else 0 := by
    rw [errorCodeAttribute, apply_ite List.length, length_encodeAttribute]
    rfl
  simp only [attributes, length_append, length_usernameAttribute, hpriority, hcontrolling,
    hcontrolled, hcandidate, length_mappedAddressAttribute, herror, getSize]
  omega

theorem length_header (length : ℕ) : (p.header length).length = 20 := by
  simp [header, toBe16, magicCookie, p.length_transactionId]

theorem length_messageIntegrityAttribute : (p.messageIntegrityAttribute hmacSha1 stale).length =
      if p.addMessageIntegrity then 4 + 20 else 0 := by
  rw [messageIntegrityAttribute, apply_ite List.length, length_encodeAttribute, Digest.length_eq]
  rfl

/-- **The assertion holds**: what is written is as long as announced. -/
theorem serialize_eq : ∃ covered, covered = p.header (p.getSize - 20) ++
        (p.attributes stale ++ p.messageIntegrityAttribute hmacSha1 stale) ∧
      p.serialize crc32 hmacSha1 stale = some (covered ++ fingerprintAttribute crc32 covered) ∧
      (covered ++ fingerprintAttribute crc32 covered).length = p.getSize := by
  refine ⟨_, rfl, ?_⟩
  set covered := p.header (p.getSize - 20) ++
    (p.attributes stale ++ p.messageIntegrityAttribute hmacSha1 stale) with hcovered
  have hlength : (covered ++ fingerprintAttribute crc32 covered).length = p.getSize := by
    have hfingerprint : (fingerprintAttribute crc32 covered).length = 4 + 4 := by
      rw [fingerprintAttribute, length_encodeAttribute]
      rfl
    have hattributes := length_attributes p stale
    rw [length_append, hfingerprint, hcovered, length_append, length_append,
      length_header, length_messageIntegrityAttribute]
    omega
  exact ⟨if_pos hlength, hlength⟩

/-! ### The walk over the attributes -/

open StunPacket (Walk setAttribute parseAttributes)

/-- Neither MESSAGE-INTEGRITY nor FINGERPRINT has been seen. -/
def Plain (walk : Walk) : Prop :=
  walk.packet.hasFingerprint = false ∧ walk.packet.messageIntegrity = none

/-- The walk goes over these bytes, and changes what it has found by `f`. -/
structure Walks (bytes : List UInt8) (f : Walk → Walk) : Prop where
  aligned : bytes.length % 4 = 0
  plain : ∀ walk, Plain walk → Plain (f walk)
  parse : ∀ data pos fuel walk, Holds data pos bytes → pos % 4 = 0 →
    pos + bytes.length ≤ data.length → data.length ≤ 65535 → data.length - pos < fuel →
    Plain walk → ∃ fuel', data.length - (pos + bytes.length) < fuel' ∧
      parseAttributes data fuel pos walk = parseAttributes data fuel' (pos + bytes.length) (f walk)

theorem walks_nil : Walks [] id :=
  ⟨rfl, fun _ h => h, fun _ _ fuel _ _ _ _ _ hfuel _ => ⟨fuel, hfuel, rfl⟩⟩

variable {data : List UInt8} {pos type : ℕ} {f : Walk → Walk}

theorem Walks.append {a b : List UInt8} {g : Walk → Walk} (ha : Walks a f) (hb : Walks b g) :
    Walks (a ++ b) (g ∘ f) where
  aligned := by
    have hfirst := ha.aligned
    have hsecond := hb.aligned
    rw [length_append]
    omega
  plain walk h := hb.plain _ (ha.plain _ h)
  parse := by
    intro data pos fuel walk hholds hpos hroom hlen hfuel hplain
    obtain ⟨hfirst, hsecond⟩ := holds_append.mp hholds
    have haligned := ha.aligned
    rw [length_append] at hroom ⊢
    obtain ⟨fuel₁, hfuel₁, hparse₁⟩ :=
      ha.parse data pos fuel walk hfirst hpos (by omega) hlen hfuel hplain
    obtain ⟨fuel₂, hfuel₂, hparse₂⟩ := hb.parse data (pos + a.length) fuel₁ (f walk) hsecond
      (by omega) (by omega) hlen hfuel₁ (ha.plain _ hplain)
    rw [Nat.add_assoc] at hfuel₂ hparse₂
    exact ⟨fuel₂, hfuel₂, hparse₁.trans hparse₂⟩

theorem holds_attribute {value : List UInt8} (h : Holds data pos (encodeAttribute type value)) :
    readBe data 2 pos = Checked.value (type % 65536) ∧
      readBe data 2 (pos + 2) = Checked.value (value.length % 65536) ∧
      Holds data (pos + 4) value := by
  obtain ⟨htype, hrest⟩ := holds_append.mp h
  obtain ⟨hlength, hvalue⟩ := holds_append.mp hrest
  exact ⟨htype.readBe_two, hlength.readBe_two, hvalue⟩

theorem padTo4Bytes_eq {pos n padding : ℕ} (hpos : pos % 4 = 0) (hpadding : padding < 4)
    (haligned : (n + padding) % 4 = 0) (hlen : pos + 4 + n + padding ≤ 65535) :
    padTo4Bytes (pos + 4 + n) = pos + (4 + n + padding) := by
  have hmod : (pos + 4 + n) % 65536 = pos + 4 + n := Nat.mod_eq_of_lt (by omega)
  rw [padTo4Bytes, hmod]
  split_ifs <;> omega

theorem parse_attribute {fuel : ℕ} {value : List UInt8} {walk walk' : Walk}
    (h : Holds data pos (encodeAttribute type value)) (htype : type < 65536)
    (hroom : pos + 4 + value.length ≤ data.length) (hlen : data.length ≤ 65535)
    (hfingerprint : walk.packet.hasFingerprint = false)
    (hintegrity : walk.packet.messageIntegrity = none ∨ StunAttribute.ofType type = .fingerprint)
    (hset : setAttribute data (StunAttribute.ofType type) pos value.length walk =
      Checked.value walk') : parseAttributes data (fuel + 1) pos walk =
      parseAttributes data fuel (padTo4Bytes (pos + 4 + value.length)) walk' := by
  obtain ⟨htypeAt, hlengthAt, -⟩ := holds_attribute h
  rw [Nat.mod_eq_of_lt htype] at htypeAt
  rw [Nat.mod_eq_of_lt (by omega)] at hlengthAt
  rw [parseAttributes, if_pos (by omega), htypeAt, value_bind, hlengthAt, value_bind, require,
    if_pos hroom, value_bind, require, if_pos hfingerprint, value_bind, require,
    if_pos hintegrity, value_bind, hset, value_bind]

theorem walks_attribute {value padding : List UInt8} (htype : type < 65536)
    (hpadding : padding.length < 4) (haligned : (value.length + padding.length) % 4 = 0)
    (hplain : ∀ walk, Plain walk → Plain (f walk))
    (hset : ∀ data pos walk, Holds data (pos + 4) value →
      setAttribute data (StunAttribute.ofType type) pos value.length walk =
        Checked.value (f walk)) : Walks (encodeAttribute type value ++ padding) f where
  aligned := by
    rw [length_append, length_encodeAttribute]
    omega
  plain := hplain
  parse := by
    intro data pos fuel walk hholds hpos hroom hlen hfuel hwalk
    have hattribute := (holds_append.mp hholds).1
    rw [length_append, length_encodeAttribute] at hroom ⊢
    obtain ⟨fuel, rfl⟩ : ∃ fuel', fuel = fuel' + 1 := ⟨fuel - 1, by omega⟩
    refine ⟨fuel, by omega, ?_⟩
    rw [parse_attribute hattribute htype (by omega) hlen hwalk.1 (.inl hwalk.2)
      (hset data pos walk (holds_attribute hattribute).2.2),
      padTo4Bytes_eq hpos hpadding haligned (by omega)]

theorem walks_unpadded {value : List UInt8} (words : ℕ) (hlength : value.length = 4 * words)
    (htype : type < 65536) (hplain : ∀ walk, Plain walk → Plain (f walk))
    (hset : ∀ data pos walk, Holds data (pos + 4) value →
      setAttribute data (StunAttribute.ofType type) pos value.length walk =
        Checked.value (f walk)) : Walks (encodeAttribute type value) f := by
  have haligned : (value.length + ([] : List UInt8).length) % 4 = 0 := by
    rw [hlength, length_nil]
    omega
  rw [← append_nil (encodeAttribute type value)]
  exact walks_attribute htype (by decide) haligned hplain hset

/-! ### The attributes one by one -/

theorem walks_username : Walks (p.usernameAttribute stale) fun walk =>
      { walk with packet := { walk.packet with
          username := if p.username ≠ [] then p.username else walk.packet.username } } := by
  have hpadded := p.usernamePaddedLen_spec
  rw [usernameAttribute]
  split_ifs
  · refine walks_attribute (by decide) ?_ ?_ (fun _ h => h) fun data pos walk hvalue => ?_
    · rw [length_map, length_range']
      omega
    · rw [length_map, length_range']
      omega
    · show (load data (pos + 4) p.username.length >>= _) = _
      rw [hvalue.load]
      rfl
  · exact walks_nil

theorem walks_priority : Walks p.priorityAttribute fun walk =>
      { walk with packet := { walk.packet with
          priority := if p.priority ≠ 0 then p.priority.toNat else walk.packet.priority } } := by
  rw [priorityAttribute]
  split_ifs
  · refine walks_unpadded 1 rfl (by decide) (fun _ h => h) fun data pos walk hvalue => ?_
    show (readBe data 4 (pos + 4) >>= _) = _
    rw [hvalue.readBe_four, Nat.mod_eq_of_lt p.priority.toNat_lt]
    rfl
  · exact walks_nil

theorem readBe_toBe64 {n : UInt64} (h : Holds data pos (toBe64 n)) :
    readBe data 8 pos = value n.toNat := by
  have hlt := n.toNat_lt
  rw [h.readBe_eight]
  congr 1
  omega

theorem walks_iceControlling : Walks p.iceControllingAttribute fun walk =>
      { walk with packet := { walk.packet with
          iceControlling := if p.iceControlling ≠ 0 then p.iceControlling.toNat
            else walk.packet.iceControlling } } := by
  rw [iceControllingAttribute]
  split_ifs
  · refine walks_unpadded 2 rfl (by decide) (fun _ h => h) fun data pos walk hvalue => ?_
    show (readBe data 8 (pos + 4) >>= _) = _
    rw [readBe_toBe64 hvalue]
    rfl
  · exact walks_nil

theorem walks_iceControlled : Walks p.iceControlledAttribute fun walk =>
      { walk with packet := { walk.packet with
          iceControlled := if p.iceControlled ≠ 0 then p.iceControlled.toNat
            else walk.packet.iceControlled } } := by
  rw [iceControlledAttribute]
  split_ifs
  · refine walks_unpadded 2 rfl (by decide) (fun _ h => h) fun data pos walk hvalue => ?_
    show (readBe data 8 (pos + 4) >>= _) = _
    rw [readBe_toBe64 hvalue]
    rfl
  · exact walks_nil

theorem walks_useCandidate : Walks p.useCandidateAttribute fun walk =>
      { walk with packet := { walk.packet with
          hasUseCandidate :=
            if p.hasUseCandidate then true else walk.packet.hasUseCandidate } } := by
  rw [useCandidateAttribute]
  split_ifs
  · exact walks_unpadded 0 rfl (by decide) (fun _ h => h) fun data pos walk _ => rfl
  · exact walks_nil

theorem walks_mappedAddress : Walks p.mappedAddressAttribute id := by
  have hlength := length_mappedAddressAttribute p
  rw [mappedAddressAttribute] at hlength ⊢
  cases hmapped : p.mappedAddress with
  | none => exact walks_nil
  | some mapped =>
    rw [hmapped] at hlength
    cases mapped with
    | inet port address _ =>
      have hvalue := Nat.add_left_cancel ((length_encodeAttribute _ _).symm.trans hlength)
      exact walks_unpadded 2 hvalue (by decide) (fun _ h => h) fun data pos walk _ => rfl
    | inet6 port address _ =>
      have hvalue := Nat.add_left_cancel ((length_encodeAttribute _ _).symm.trans hlength)
      exact walks_unpadded 5 hvalue (by decide) (fun _ h => h) fun data pos walk _ => rfl

theorem errorCode_parts {code : UInt16} (h : code.toNat ≤ 699) :
    (UInt8.ofNat (code.toNat / 100)).toNat * 100 +
      (UInt8.ofNat code.toNat - UInt8.ofNat (code.toNat / 100) * 100).toNat = code.toNat := by
  generalize code.toNat = n at h
  rw [UInt8.toNat_sub, UInt8.toNat_mul, UInt8.toNat_ofNat', UInt8.toNat_ofNat']
  show n / 100 % 256 * 100 + (256 - n / 100 % 256 * 100 % 256 + n % 256) % 256 = n
  omega

theorem walks_errorCode (h : p.errorCode.toNat ≤ 699) :
    Walks p.errorCodeAttribute fun walk =>
      { walk with packet := { walk.packet with
          errorCode := if p.addErrorCode then p.errorCode.toNat else walk.packet.errorCode } } := by
  rw [errorCodeAttribute]
  split_ifs
  · refine walks_unpadded 1 rfl (by decide) (fun _ h => h) fun data pos walk hvalue => ?_
    obtain ⟨-, hrest⟩ := holds_cons.mp hvalue
    obtain ⟨-, hrest⟩ := holds_cons.mp hrest
    obtain ⟨hclass, hnumber⟩ := holds_cons.mp hrest
    show (Checked.read data (pos + 4 + 2) >>= _) = _
    rw [hclass.read, value_bind, hnumber.read, value_bind, errorCode_parts h]
    rfl
  · exact walks_nil

/-! ### The whole packet -/

/-- What the walk has found before MESSAGE-INTEGRITY. -/
def exposedPacket (p : OutgoingStun) : StunPacket where
  klass := p.klass
  method := p.method
  size := p.getSize
  username := p.username
  priority := p.priority.toNat
  iceControlling := p.iceControlling.toNat
  iceControlled := p.iceControlled.toNat
  hasUseCandidate := p.hasUseCandidate
  errorCode := if p.addErrorCode then p.errorCode.toNat else 0

theorem walk_attributes (herror : p.errorCode.toNat ≤ 699) :
    ∃ f, Walks (p.attributes stale) f ∧
      f { packet := { klass := p.klass, method := p.method, size := p.getSize } } =
        { packet := p.exposedPacket } := by
  refine ⟨_, (walks_username p stale).append ((walks_priority p).append
    ((walks_iceControlling p).append ((walks_iceControlled p).append
      ((walks_useCandidate p).append ((walks_mappedAddress p).append
        (walks_errorCode p herror)))))), ?_⟩
  -- an attribute that is left out has the default that the walk starts with
  have hdefault : ∀ {α β : Type} [DecidableEq α] (f : α → β) (a x : α),
      (if x ≠ a then f x else f a) = f x := by
    intro α β _ f a x
    split_ifs with h
    · rfl
    · rw [not_not.mp h]
  have hcandidate : (if p.hasUseCandidate then true else false) = p.hasUseCandidate := by
    cases p.hasUseCandidate <;> rfl
  simp only [Function.comp, id, hcandidate, exposedPacket]
  congr 2
  · exact hdefault id [] p.username
  · exact hdefault UInt32.toNat 0 p.priority
  · exact hdefault UInt64.toNat 0 p.iceControlling
  · exact hdefault UInt64.toNat 0 p.iceControlled

theorem ite_bounds (c : Prop) [Decidable c] {n : ℕ} (hn : n % 4 = 0) :
    (if c then n else 0) ≤ n ∧ (if c then n else 0) % 4 = 0 := by
  split_ifs <;> omega

theorem getSize_bounds : p.getSize ≤ 65535 ∧ p.getSize % 4 = 0 ∧ 28 ≤ p.getSize := by
  have hpadded := p.usernamePaddedLen_spec
  have hlength := p.length_username
  have hmapped : p.mappedAddressAttribute.length ≤ 24 ∧
      p.mappedAddressAttribute.length % 4 = 0 := by
    rw [length_mappedAddressAttribute]
    split <;> omega
  rw [length_mappedAddressAttribute] at hmapped
  have h1 := ite_bounds (p.username ≠ []) (show (4 + p.usernamePaddedLen) % 4 = 0 by omega)
  have h2 := ite_bounds (p.priority ≠ 0) (show (4 + 4) % 4 = 0 by rfl)
  have h3 := ite_bounds (p.iceControlling ≠ 0) (show (4 + 8) % 4 = 0 by rfl)
  have h4 := ite_bounds (p.iceControlled ≠ 0) (show (4 + 8) % 4 = 0 by rfl)
  have h5 := ite_bounds p.hasUseCandidate (show 4 % 4 = 0 by rfl)
  have h6 := ite_bounds p.addErrorCode (show (4 + 4) % 4 = 0 by rfl)
  have h7 := ite_bounds p.addMessageIntegrity (show (4 + 20) % 4 = 0 by rfl)
  rw [getSize]
  omega

/-- `IsStun` looks at the first byte, which has to be below 3. -/
def IsDemultiplexed (p : OutgoingStun) : Prop :=
  p.method < 128 ∨ (p.method < 256 ∧ (p.klass = .request ∨ p.klass = .indication))

/-- The message type passes `IsStun`, and method and class are read back from it. -/
def TypeIsReadBack (method : ℕ) (klass : StunClass) : Prop :=
  UInt8.ofNat (mergeType method klass / 256) < 3 ∧ mergeType method klass < 65536 ∧
    methodOf (mergeType method klass) = method ∧
    StunClass.ofBits (bits (UInt8.ofNat (mergeType method klass / 256)) 0 1 * 2 +
      bits (UInt8.ofNat (mergeType method klass)) 4 1) = klass

instance (method : ℕ) (klass : StunClass) : Decidable (TypeIsReadBack method klass) :=
  inferInstanceAs (Decidable (_ ∧ _))

theorem typeIsReadBack_of_lt_128 : ∀ method < 128, ∀ klass ∈
    [StunClass.request, .indication, .successResponse, .errorResponse],
    TypeIsReadBack method klass := by
  decide +kernel

theorem typeIsReadBack_of_lt_256 : ∀ method < 256, ∀ klass ∈ [StunClass.request, .indication],
    TypeIsReadBack method klass := by
  decide +kernel

theorem IsDemultiplexed.typeIsReadBack (h : p.IsDemultiplexed) :
    TypeIsReadBack p.method p.klass := by
  rcases h with hmethod | ⟨hmethod, hklass⟩
  · exact typeIsReadBack_of_lt_128 p.method hmethod p.klass (by cases p.klass <;> decide)
  refine typeIsReadBack_of_lt_256 p.method hmethod p.klass ?_
  rcases hklass with hklass | hklass
  · rw [hklass]
    decide
  · rw [hklass]
    decide

/-- The parts of a serialized packet and where they are. -/
structure Written (crc32 : List UInt8 → UInt32) (hmacSha1 : List UInt8 → List UInt8 → Digest)
    (stale : ℕ → UInt8) (p : OutgoingStun) (data : List UInt8) : Prop where
  length_eq : data.length = p.getSize
  header : Holds data 0 (p.header (p.getSize - 20))
  attributes : Holds data 20 (p.attributes stale)
  integrity : Holds data (20 + (p.attributes stale).length)
    (p.messageIntegrityAttribute hmacSha1 stale)
  fingerprint : ∃ covered, Holds data 0 covered ∧ covered.length = p.getSize - 8 ∧
    Holds data (p.getSize - 8) (fingerprintAttribute crc32 covered)

theorem written_serialize :
    ∃ data, p.serialize crc32 hmacSha1 stale = some data ∧ Written crc32 hmacSha1 stale p data := by
  obtain ⟨covered, hcovered, hserialize, hlength⟩ := p.serialize_eq crc32 hmacSha1 stale
  have hfingerprint : (fingerprintAttribute crc32 covered).length = 8 := by
    rw [fingerprintAttribute, length_encodeAttribute]
    rfl
  have hsize := hlength
  rw [length_append, hfingerprint] at hsize
  set data := covered ++ fingerprintAttribute crc32 covered
  obtain ⟨hheld, hlast⟩ := holds_append.mp (holds_self data)
  have hparts : Holds data 0 (p.header (p.getSize - 20) ++
      (p.attributes stale ++ p.messageIntegrityAttribute hmacSha1 stale)) := hcovered ▸ hheld
  obtain ⟨hheader, hrest⟩ := holds_append.mp hparts
  rw [length_header, Nat.zero_add] at hrest
  obtain ⟨hattributes, hintegrity⟩ := holds_append.mp hrest
  have hlast' : covered.length = p.getSize - 8 := by omega
  rw [Nat.zero_add, hlast'] at hlast
  exact ⟨data, hserialize, hlength, hheader, hattributes, hintegrity,
    covered, hheld, hlast', hlast⟩

section

variable {p} {crc32} {hmacSha1} {stale} {data : List UInt8}

/-- The packet that the parser returns. -/
def parsedPacket (p : OutgoingStun) (stale : ℕ → UInt8) : StunPacket :=
  { p.exposedPacket with
    messageIntegrity :=
      if p.addMessageIntegrity then some (20 + (p.attributes stale).length + 4) else none
    hasFingerprint := true }

section

variable (h : Written crc32 hmacSha1 stale p data)
include h

theorem walk_integrity {fuel : ℕ}
    (hfuel : data.length - (20 + (p.attributes stale).length) < fuel) :
    ∃ fuel', 8 < fuel' ∧
      parseAttributes data fuel (20 + (p.attributes stale).length) { packet := p.exposedPacket } =
        parseAttributes data fuel' (p.getSize - 8)
          { packet := { p.parsedPacket stale with hasFingerprint := false } } := by
  have hsize := length_attributes p stale
  have hbounds := p.getSize_bounds
  have hlength := h.length_eq
  have hintegrity := h.integrity
  rw [messageIntegrityAttribute] at hintegrity
  by_cases hadd : p.addMessageIntegrity
  · rw [if_pos hadd] at hintegrity hsize
    set digest := hmacSha1 p.password (p.header (p.getSize - 20 - 8) ++ p.attributes stale)
    have hdigest := digest.length_eq
    obtain ⟨fuel, rfl⟩ : ∃ fuel', fuel = fuel' + 1 := ⟨fuel - 1, by omega⟩
    have hset : setAttribute data (StunAttribute.ofType 0x0008) (20 + (p.attributes stale).length)
        digest.bytes.length { packet := p.exposedPacket } =
        value { packet := { p.parsedPacket stale with hasFingerprint := false } } := by
      show (require (digest.bytes.length = 20) >>= _) = _
      rw [require, if_pos hdigest, parsedPacket, if_pos hadd]
      rfl
    have hnext := @padTo4Bytes_eq (20 + (p.attributes stale).length) digest.bytes.length 0
      (by omega) (by decide) (by omega) (by omega)
    refine ⟨fuel, by omega, ?_⟩
    rw [parse_attribute hintegrity (by decide) (by omega) (by omega) rfl (.inl rfl) hset, hnext]
    congr 1
    omega
  · rw [if_neg hadd] at hsize
    refine ⟨fuel, by omega, ?_⟩
    have hpos : 20 + (p.attributes stale).length = p.getSize - 8 := by omega
    rw [hpos, parsedPacket, if_neg hadd]
    rfl

theorem walk_fingerprint {fuel : ℕ} (hfuel : 8 < fuel) :
    ∃ covered, Holds data 0 covered ∧ covered.length = p.getSize - 8 ∧
      parseAttributes data fuel (p.getSize - 8)
          { packet := { p.parsedPacket stale with hasFingerprint := false } } =
        value (data.length,
          { packet := p.parsedPacket stale
            fingerprint := some (p.getSize - 8, (crc32 covered ^^^ 0x5354554e).toNat) }) := by
  have hbounds := p.getSize_bounds
  have hlength := h.length_eq
  obtain ⟨covered, hcovered, hlast, hattribute⟩ := h.fingerprint
  refine ⟨covered, hcovered, hlast, ?_⟩
  obtain ⟨fuel, rfl⟩ : ∃ fuel', fuel = fuel' + 2 := ⟨fuel - 2, by omega⟩
  have hvalue := (holds_attribute hattribute).2.2.readBe_four
  rw [Nat.mod_eq_of_lt (UInt32.toNat_lt _)] at hvalue
  -- FINGERPRINT is the last attribute: the walk ends behind it
  have hset : setAttribute data (StunAttribute.ofType 0x8028) (p.getSize - 8)
      (toBe32 (crc32 covered ^^^ 0x5354554e).toNat).length
      { packet := { p.parsedPacket stale with hasFingerprint := false } } =
      value
        { packet := p.parsedPacket stale
          fingerprint := some (p.getSize - 8, (crc32 covered ^^^ 0x5354554e).toNat) } := by
    show (readBe data 4 (p.getSize - 8 + 4) >>= _) = _
    rw [hvalue]
    rfl
  have hnext := @padTo4Bytes_eq (p.getSize - 8)
    (toBe32 (crc32 covered ^^^ 0x5354554e).toNat).length 0 (by omega) (by decide)
    (show (4 + 0) % 4 = 0 by decide)
    (show p.getSize - 8 + 4 + 4 + 0 ≤ 65535 by omega)
  rw [parse_attribute hattribute (by decide) (show p.getSize - 8 + 4 + 4 ≤ data.length by omega)
    (by omega) rfl (.inr rfl) hset, hnext]
  have hend : p.getSize - 8 + (4 + (toBe32 (crc32 covered ^^^ 0x5354554e).toNat).length + 0) =
      data.length := by
    show p.getSize - 8 + 8 = data.length
    omega
  rw [hend, parseAttributes, if_neg (by omega)]
  rfl

theorem isStun_of_written (hp : p.IsDemultiplexed) : isStun data = value true := by
  have hbounds := p.getSize_bounds
  have hlength := h.length_eq
  obtain ⟨htype, hrest⟩ := holds_append.mp h.header
  obtain ⟨-, hcookie⟩ := holds_append.mp hrest
  have hloaded : load data 4 4 = value magicCookie := (holds_append.mp hcookie).1.load
  have hfirst : read data 0 = value (UInt8.ofNat (p.typeField / 256)) := htype.read
  rw [isStun, if_pos (by omega), hfirst, value_bind, hloaded, value_bind]
  have hlt : UInt8.ofNat (p.typeField / 256) < 3 := hp.typeIsReadBack.1
  simp [hlt, magicCookie]

/-- **A serialized packet is parsed.** -/
theorem parse_written (hp : p.IsDemultiplexed) (herror : p.errorCode.toNat ≤ 699) :
    parse crc32 data = value (p.parsedPacket stale) := by
  have hbounds := p.getSize_bounds
  have hlength := h.length_eq
  have hsize := length_attributes p stale
  obtain ⟨-, htypeLt, hmethod, hklass⟩ : _ ∧ p.typeField < 65536 ∧
    methodOf p.typeField = p.method ∧
    StunClass.ofBits (bits (UInt8.ofNat (p.typeField / 256)) 0 1 * 2 +
      bits (UInt8.ofNat p.typeField) 4 1) = p.klass := hp.typeIsReadBack
  obtain ⟨htype, hrest⟩ := holds_append.mp h.header
  have hmsgType := htype.readBe_two
  rw [Nat.mod_eq_of_lt htypeLt] at hmsgType
  have hmsgLength : readBe data 2 2 = value ((p.getSize - 20) % 65536) :=
    (holds_append.mp hrest).1.readBe_two
  rw [Nat.mod_eq_of_lt (by omega)] at hmsgLength
  have hbyte0 : read data 0 = value (UInt8.ofNat (p.typeField / 256)) := htype.read
  have hbyte1 : read data 1 = value (UInt8.ofNat p.typeField) := (holds_cons.mp htype).2.read
  -- the walk: the attributes, MESSAGE-INTEGRITY, FINGERPRINT
  obtain ⟨f, hwalks, hfound⟩ := walk_attributes p stale herror
  have hroom : 20 + (p.attributes stale).length ≤ data.length := by omega
  obtain ⟨fuel, hfuel, hparse⟩ := hwalks.parse data 20 data.length
    { packet := { klass := p.klass, method := p.method, size := p.getSize } }
    h.attributes rfl hroom (by omega) (by omega) ⟨rfl, rfl⟩
  obtain ⟨fuel', hfuel', hparse'⟩ := walk_integrity h hfuel
  obtain ⟨covered, hcovered, hlast, hparse''⟩ := walk_fingerprint h hfuel'
  rw [hfound, hparse', hparse''] at hparse
  have hcheck : checkFingerprint crc32 data
      (some (p.getSize - 8, (crc32 covered ^^^ 0x5354554e).toNat)) = value () := by
    show (load data 0 (p.getSize - 8) >>= _) = _
    rw [← hlast, hcovered.load, value_bind, require, if_pos rfl]
  rw [parse, isStun_of_written h hp, value_bind, require, if_pos rfl, value_bind,
    hmsgType, value_bind, hmsgLength, value_bind, require,
    if_pos ⟨by omega, by omega⟩, value_bind, hbyte0, value_bind, hbyte1, value_bind]
  rw [hlength] at hparse
  simp only [hklass, hmethod, hlength]
  rw [hparse, value_bind]
  rw [require, if_pos rfl, value_bind, hcheck]
  rfl

theorem coveredBytes_written (hadd : p.addMessageIntegrity) :
    coveredBytes data (20 + (p.attributes stale).length + 4) =
      p.header (p.getSize - 20 - 8) ++ p.attributes stale := by
  have hsize := length_attributes p stale
  rw [if_pos hadd] at hsize
  set stop := 20 + (p.attributes stale).length with hstop
  have hlengthField : stop + 4 + 20 - 20 = p.getSize - 20 - 8 := by omega
  -- the buffer is the type, the length, and a rest that begins with what is covered
  obtain ⟨rest, hrest⟩ := holds_append.mpr ⟨h.header, by rw [length_header]; exact h.attributes⟩
  have hdata : data = toBe16 p.typeField ++ (toBe16 (p.getSize - 20) ++
      ((magicCookie ++ p.transactionId) ++ p.attributes stale ++ rest)) := by
    rw [← drop_zero (l := data), ← hrest, header]
    simp only [append_assoc]
  have hwith (n : ℕ) : withLength data n =
      (p.header n ++ p.attributes stale) ++ rest := by
    rw [hdata]
    rw [header]
    simp only [append_assoc]
    rfl
  rw [coveredBytes, hlengthField, hwith]
  refine take_left' ?_
  rw [length_append, length_header]
  omega

end

end

/-- **Round trip.**  What is written is as long as announced, is parsed back with the same
fields and a verified FINGERPRINT, and a request for a user with a password is
authenticated. -/
theorem stun_roundTrip (crc32 : List UInt8 → UInt32)
    (hmacSha1 : List UInt8 → List UInt8 → Digest) (stale : ℕ → UInt8) (p : OutgoingStun)
    (hp : p.IsDemultiplexed) (herror : p.errorCode.toNat ≤ 699) :
    ∃ data packet, p.serialize crc32 hmacSha1 stale = some data ∧ data.length = p.getSize ∧
      parse crc32 data = value packet ∧
      packet.klass = p.klass ∧ packet.method = p.method ∧
      slice data ⟨8, 12⟩ = p.transactionId ∧ packet.username = p.username ∧
      packet.priority = p.priority.toNat ∧ packet.iceControlling = p.iceControlling.toNat ∧
      packet.iceControlled = p.iceControlled.toNat ∧ packet.hasUseCandidate = p.hasUseCandidate ∧
      packet.errorCode = (if p.klass = .errorResponse then p.errorCode.toNat else 0) ∧
      packet.hasFingerprint = true ∧ ∀ localUsername rest, p.klass = .request → p.password ≠ [] →
        p.username = localUsername ++ 58 :: rest →
        checkAuthentication hmacSha1 packet data localUsername p.password =
          value (.ok, data) := by
  obtain ⟨data, hserialize, h⟩ := p.written_serialize crc32 hmacSha1 stale
  have hparse := parse_written h hp herror
  refine ⟨data, p.parsedPacket stale, hserialize, h.length_eq, hparse, rfl, rfl, ?_, rfl, rfl, rfl,
    rfl, rfl, ?_, rfl, ?_⟩
  · obtain ⟨-, hrest⟩ := holds_append.mp h.header
    obtain ⟨-, hrest⟩ := holds_append.mp hrest
    have hid : Holds data 8 p.transactionId := (holds_append.mp hrest).2
    have hslice := hid.slice
    rwa [p.length_transactionId] at hslice
  · show (if p.addErrorCode then p.errorCode.toNat else 0) = _
    by_cases hklass : p.klass = .errorResponse
    · by_cases hcode : p.errorCode = 0
      · simp [addErrorCode, hcode]
      · simp [addErrorCode, hcode, hklass]
    · simp [addErrorCode, hklass]
  · intro localUsername rest hklass hpassword husername
    have hadd : p.addMessageIntegrity := by simp [addMessageIntegrity, hklass, hpassword]
    have haccepted := (ensures_parse crc32
      (h.length_eq.trans_le p.getSize_bounds.1)).of_eq hparse
    obtain ⟨result, hcheck, hiff⟩ := checkAuthentication_spec hmacSha1 haccepted
      localUsername p.password
    -- the digest was computed over the bytes that the check covers
    have hok : result = .ok := by
      refine hiff.mpr ⟨.inl hklass, ⟨rest, ?_⟩, 20 + (p.attributes stale).length + 4, ?_, ?_⟩
      · rw [append_assoc]
        exact husername.symm
      · show (if p.addMessageIntegrity then _ else _) = _
        rw [if_pos hadd]
      · have hintegrity := h.integrity
        rw [messageIntegrityAttribute, if_pos hadd] at hintegrity
        have hdigest := (holds_attribute hintegrity).2.2.slice
        rw [Digest.length_eq] at hdigest
        rw [coveredBytes_written h hadd]
        exact hdigest
    rw [hcheck, hok]

open StunPacket (sampleCrc32 sampleHmacSha1)

/-- A request of `a:b` with this method and password. -/
def sampleOutgoing (method : ℕ) (h : method < 4096) (password : List UInt8) : OutgoingStun where
  klass := .request
  method := method
  method_lt := h
  transactionId := List.replicate 12 7
  length_transactionId := rfl
  username := [97, 58, 98]
  length_username := by decide
  priority := 1
  iceControlling := 2
  iceControlled := 0
  hasUseCandidate := true
  xorMappedAddress := none
  errorCode := 0
  password := password

theorem sampleOutgoing_roundTrip : ∃ data packet,
    (sampleOutgoing 1 (by decide) [112]).serialize sampleCrc32 sampleHmacSha1 (fun _ => 0) =
        some data ∧
      parse sampleCrc32 data = value packet ∧ packet.username = [97, 58, 98] ∧
      checkAuthentication sampleHmacSha1 packet data [97] [112] = value (.ok, data) := by
  obtain ⟨data, packet, hserialize, -, hparse, -, -, -, husername, -, -, -, -, -, -, hauth⟩ :=
    stun_roundTrip sampleCrc32 sampleHmacSha1 (fun _ => 0) (sampleOutgoing 1 (by decide) [112])
      (.inl (by decide)) (by decide)
  exact ⟨data, packet, hserialize, hparse, husername, hauth [97] [98] rfl (by decide) rfl⟩

/-- The type of a request with method 0xfff begins with the byte 0x3e, which `IsStun` leaves
to other protocols.  A request with an empty password has no MESSAGE-INTEGRITY. -/
theorem sampleOutgoing_rejected : (∃ data,
    (sampleOutgoing 0xfff (by decide) [112]).serialize sampleCrc32 sampleHmacSha1 (fun _ => 0) =
        some data ∧
      parse sampleCrc32 data = reject) ∧
    ∃ data packet, (sampleOutgoing 1 (by decide) []).serialize sampleCrc32 sampleHmacSha1
        (fun _ => 0) = some data ∧
      parse sampleCrc32 data = value packet ∧
      checkAuthentication sampleHmacSha1 packet data [97] [] = value (.badRequest, data) := by
  constructor
  · exact Option.map_eq_some_iff.mp (by decide +kernel)
  · have heval : ((sampleOutgoing 1 (by decide) []).serialize sampleCrc32 sampleHmacSha1
        (fun _ => 0)).map (fun data => parse sampleCrc32 data >>= fun packet =>
          checkAuthentication sampleHmacSha1 packet data [97] [] >>= fun answer =>
            require (answer = (.badRequest, data))) = some (value ()) := by decide +kernel
    obtain ⟨data, hserialize, heval⟩ := Option.map_eq_some_iff.mp heval
    obtain ⟨packet, hparse, heval⟩ := bind_eq_value.mp heval
    obtain ⟨answer, hanswer, heval⟩ := bind_eq_value.mp heval
    refine ⟨data, packet, hserialize, hparse, hanswer.trans (congrArg value ?_)⟩
    by_contra hne
    exact absurd ((if_neg hne).symm.trans heval) (by simp)

end OutgoingStun

end Mediasoup
