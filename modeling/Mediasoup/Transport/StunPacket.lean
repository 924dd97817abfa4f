/-
STUN packets (`RTC::StunPacket::Parse` and `RTC::StunPacket::CheckAuthentication`).

`Parse` walks over the attributes of a packet.  After MESSAGE-INTEGRITY only FINGERPRINT
may follow, and after FINGERPRINT nothing.  `CheckAuthentication` hides a FINGERPRINT by
rewriting the length field of the header for as long as the HMAC is computed.

* `ensures_parseAttributes` — what the walk keeps: all attributes that a packet exposes
  end before its MESSAGE-INTEGRITY attribute, which ends where the walk stands or right
  before FINGERPRINT.
* `parse_authenticates` — parsing stays inside the buffer, and a packet is authentic
  exactly when its MESSAGE-INTEGRITY is the HMAC of all that is before it.

The HMAC and the CRC are those of other libraries and arbitrary here.
-/
import Mediasoup.Lib.Memory

open List Bytes Checked

namespace Mediasoup

/-- `StunPacket::Class`. -/
inductive StunClass where
  | request
  | indication
  | successResponse
  | errorResponse
  deriving DecidableEq

/-- The class in the two class bits of the message type. -/
def StunClass.ofBits : ℕ → StunClass
  | 0 => request
  | 1 => indication
  | 2 => successResponse
  | _ => errorResponse

/-- The attributes that `Parse` looks into. -/
inductive StunAttribute where
  | username
  | messageIntegrity
  | errorCode
  | priority
  | useCandidate
  | fingerprint
  | iceControlled
  | iceControlling
  | nomination
  | other
  deriving DecidableEq

def StunAttribute.ofType : ℕ → StunAttribute
  | 0x0006 => username
  | 0x0008 => messageIntegrity
  | 0x0009 => errorCode
  | 0x0024 => priority
  | 0x0025 => useCandidate
  | 0x8028 => fingerprint
  | 0x8029 => iceControlled
  | 0x802A => iceControlling
  | 0xC001 => nomination
  | _ => other

inductive Authentication where
  | ok
  | unauthorized
  | badRequest
  deriving DecidableEq

/-- What `GetHmacSha1` returns. -/
structure Digest where
  bytes : List UInt8
  length_eq : bytes.length = 20

/-- A parsed packet.  The buffer that its `data` points to is passed beside it. -/
structure StunPacket where
  klass : StunClass
  method : ℕ
  size : ℕ
  username : List UInt8 := []
  priority : ℕ := 0
  iceControlling : ℕ := 0
  iceControlled : ℕ := 0
  hasNomination : Bool := false
  nomination : ℕ := 0
  hasUseCandidate : Bool := false
  /-- The position of the 20 bytes that the pointer points to. -/
  messageIntegrity : Option ℕ := none
  hasFingerprint : Bool := false
  errorCode : ℕ := 0
  deriving DecidableEq

namespace StunPacket

/-! ### Parsing -/

/-- `PadTo4Bytes` on 16 bits. -/
def padTo4Bytes (size : ℕ) : ℕ :=
  let size := size % 65536
  if size % 4 ≠ 0 then (size - size % 4 + 4) % 65536 else size

def isStun (data : List UInt8) : Checked Bool :=
  if 20 ≤ data.length then do
    let first ← read data 0
    let cookie ← load data 4 4
    return first < 3 && cookie == [0x21, 0x12, 0xA4, 0x42]
  else return false

/-- The state of the walk over the attributes: the packet, and the position and value of
the FINGERPRINT attribute.  The walk's two flags are those of the packet. -/
structure Walk where
  packet : StunPacket
  fingerprint : Option (ℕ × ℕ) := none

/-- The `switch` over the type of the attribute at `pos`. -/
def setAttribute (data : List UInt8) (attrType : StunAttribute) (pos attrLength : ℕ)
    (walk : Walk) : Checked Walk :=
  let packet := walk.packet
  match attrType with
  | .username => do
    let username ← load data (pos + 4) attrLength
    return { walk with packet := { packet with username := username } }
  | .priority => do
    require (attrLength = 4)
    let priority ← readBe data 4 (pos + 4)
    return { walk with packet := { packet with priority := priority } }
  | .iceControlling => do
    require (attrLength = 8)
    let iceControlling ← readBe data 8 (pos + 4)
    return { walk with packet := { packet with iceControlling := iceControlling } }
  | .iceControlled => do
    require (attrLength = 8)
    let iceControlled ← readBe data 8 (pos + 4)
    return { walk with packet := { packet with iceControlled := iceControlled } }
  | .useCandidate => do
    require (attrLength = 0)
    return { walk with packet := { packet with hasUseCandidate := true } }
  | .nomination => do
    require (attrLength = 4)
    let nomination ← readBe data 4 (pos + 4)
    return { walk with packet := { packet with hasNomination := true, nomination := nomination } }
  | .messageIntegrity => do
    require (attrLength = 20)
    return { walk with packet := { packet with messageIntegrity := some (pos + 4) } }
  | .fingerprint => do
    require (attrLength = 4)
    let fingerprint ← readBe data 4 (pos + 4)
    return { packet := { packet with hasFingerprint := true }
             fingerprint := some (pos, fingerprint) }
  | .errorCode => do
    require (4 ≤ attrLength)
    let errorClass ← read data (pos + 4 + 2)
    let errorNumber ← read data (pos + 4 + 3)
    return { walk with packet :=
      { packet with errorCode := errorClass.toNat * 100 + errorNumber.toNat } }
  | .other => return walk

/-- The loop over the attributes: where it ends, and what it has found. -/
def parseAttributes (data : List UInt8) : ℕ → ℕ → Walk → Checked (ℕ × Walk)
  | 0, _, _ => outOfFuel
  | fuel + 1, pos, walk =>
    if pos + 4 ≤ data.length then do
      let attrType ← readBe data 2 pos
      let attrLength ← readBe data 2 (pos + 2)
      require (pos + 4 + attrLength ≤ data.length)
      -- FINGERPRINT must be the last attribute.
      require (walk.packet.hasFingerprint = false)
      -- After a MESSAGE-INTEGRITY attribute just FINGERPRINT is allowed.
      require (walk.packet.messageIntegrity = none ∨
        StunAttribute.ofType attrType = .fingerprint)
      let walk ← setAttribute data (StunAttribute.ofType attrType) pos attrLength walk
      parseAttributes data fuel (padTo4Bytes (pos + 4 + attrLength)) walk
    else return (pos, walk)

/-- The method bits of the message type. -/
def methodOf (msgType : ℕ) : ℕ :=
  (msgType &&& 0x000f) ||| ((msgType &&& 0x00e0) >>> 1) ||| ((msgType &&& 0x3E00) >>> 2)

/-- The check of the FINGERPRINT attribute, if there is one. -/
def checkFingerprint (crc32 : List UInt8 → UInt32) (data : List UInt8) :
    Option (ℕ × ℕ) → Checked Unit
  | none => return ()
  | some (fingerprintAttrPos, fingerprint) => do
    let covered ← load data 0 fingerprintAttrPos
    require (fingerprint = (crc32 covered ^^^ 0x5354554e).toNat)

def parse (crc32 : List UInt8 → UInt32) (data : List UInt8) : Checked StunPacket := do
  let stun ← isStun data
  require stun
  let msgType ← readBe data 2 0
  let msgLength ← readBe data 2 2
  require (msgLength = data.length - 20 ∧ msgLength % 4 = 0)
  let byte0 ← read data 0
  let byte1 ← read data 1
  let packet : StunPacket :=
    { klass := StunClass.ofBits (bits byte0 0 1 * 2 + bits byte1 4 1)
      method := methodOf msgType
      size := data.length }
  let (pos, walk) ← parseAttributes data data.length 20 { packet }
  require (pos = data.length)
  checkFingerprint crc32 data walk.fingerprint
  return walk.packet

/-! ### Authentication -/

/-- USERNAME begins with the local username and a colon. -/
def usernameMatches (username localUsername : List UInt8) : Bool :=
  localUsername.length < username.length && username[localUsername.length]? == some 58 &&
    username.take localUsername.length == localUsername

/-- Rewrite the length field of a packet with FINGERPRINT. -/
def setLength (packet : StunPacket) (data : List UInt8) (length : ℕ) : Checked (List UInt8) :=
  if packet.hasFingerprint then store data 2 (toBe16 length) else return data

/-- The comparison of MESSAGE-INTEGRITY with the HMAC, and the buffer after it. -/
def checkIntegrity (hmacSha1 : List UInt8 → List UInt8 → Digest) (packet : StunPacket)
    (data : List UInt8) (messageIntegrity : ℕ) (localPassword : List UInt8) :
    Checked (Authentication × List UInt8) := do
  -- FINGERPRINT (8 bytes) does not count for MESSAGE-INTEGRITY.
  let data ← setLength packet data (packet.size - 20 - 8)
  let covered ← load data 0 (messageIntegrity - 4)
  let received ← load data messageIntegrity 20
  let result := if received = (hmacSha1 localPassword covered).bytes
    then Authentication.ok else Authentication.unauthorized
  let data ← setLength packet data (packet.size - 20)
  return (result, data)

/-- The result of the check, and the buffer after it. -/
def checkAuthentication (hmacSha1 : List UInt8 → List UInt8 → Digest) (packet : StunPacket)
    (data localUsername localPassword : List UInt8) : Checked (Authentication × List UInt8) :=
  if packet.klass = .request ∨ packet.klass = .indication then
    match packet.messageIntegrity with
    | none => return (.badRequest, data)
    | some messageIntegrity =>
      if packet.username = [] then return (.badRequest, data)
      else if !usernameMatches packet.username localUsername then return (.unauthorized, data)
      else checkIntegrity hmacSha1 packet data messageIntegrity localPassword
  -- We are ICE-Lite and don't generate requests, so there is no password for responses.
  else return (.badRequest, data)

/-! ### What the walk keeps -/

/-- There is an attribute of the given type and length at `pos`. -/
def AttributeAt (data : List UInt8) (pos : ℕ) (attrType : StunAttribute) (attrLength : ℕ) : Prop :=
  ∃ type, readBe data 2 pos = value type ∧ StunAttribute.ofType type = attrType ∧
    readBe data 2 (pos + 2) = value attrLength

/-- An attribute after the header ends at `stop` or before, and its value at `valuePos`
and of length `attrLength` satisfies `P valuePos attrLength`. -/
def ValueBefore (data : List UInt8) (stop : ℕ) (attrType : StunAttribute)
    (P : ℕ → ℕ → Prop) : Prop :=
  ∃ pos attrLength, 20 ≤ pos ∧ pos + 4 + attrLength ≤ stop ∧
    AttributeAt data pos attrType attrLength ∧ P (pos + 4) attrLength

/-- Everything that the packet exposes, FINGERPRINT apart, is a default or the value of an
attribute that ends at `stop` or before. -/
structure ExposedBefore (data : List UInt8) (stop : ℕ) (packet : StunPacket) : Prop where
  username : packet.username = [] ∨ ValueBefore data stop .username fun valuePos attrLength =>
    load data valuePos attrLength = value packet.username
  priority : packet.priority = 0 ∨ ValueBefore data stop .priority fun valuePos _ =>
    readBe data 4 valuePos = value packet.priority
  iceControlling : packet.iceControlling = 0 ∨ ValueBefore data stop .iceControlling
    fun valuePos _ => readBe data 8 valuePos = value packet.iceControlling
  iceControlled : packet.iceControlled = 0 ∨ ValueBefore data stop .iceControlled
    fun valuePos _ => readBe data 8 valuePos = value packet.iceControlled
  hasUseCandidate : packet.hasUseCandidate = false ∨
    ValueBefore data stop .useCandidate fun _ attrLength => attrLength = 0
  nomination : (packet.hasNomination = false ∧ packet.nomination = 0) ∨
    ValueBefore data stop .nomination fun valuePos _ =>
      readBe data 4 valuePos = value packet.nomination
  errorCode : packet.errorCode = 0 ∨ ValueBefore data stop .errorCode fun valuePos _ =>
    ∃ errorClass errorNumber, read data (valuePos + 2) = value errorClass ∧
      read data (valuePos + 3) = value errorNumber ∧
      packet.errorCode = errorClass.toNat * 100 + errorNumber.toNat

variable {data : List UInt8} {pos : ℕ} {walk : Walk} {packet : StunPacket}

theorem ValueBefore.mono {stop stop' : ℕ} {attrType : StunAttribute} {P : ℕ → ℕ → Prop}
    (h : ValueBefore data stop attrType P) (hle : stop ≤ stop') :
    ValueBefore data stop' attrType P := by
  obtain ⟨pos, attrLength, hpos, hstop, hattr, hP⟩ := h
  exact ⟨pos, attrLength, hpos, hstop.trans hle, hattr, hP⟩

theorem ExposedBefore.mono {stop stop' : ℕ} (h : ExposedBefore data stop packet)
    (hle : stop ≤ stop') : ExposedBefore data stop' packet where
  username := h.username.imp id (·.mono hle)
  priority := h.priority.imp id (·.mono hle)
  iceControlling := h.iceControlling.imp id (·.mono hle)
  iceControlled := h.iceControlled.imp id (·.mono hle)
  hasUseCandidate := h.hasUseCandidate.imp id (·.mono hle)
  nomination := h.nomination.imp id (·.mono hle)
  errorCode := h.errorCode.imp id (·.mono hle)

/-- The walk stands at `pos`: before MESSAGE-INTEGRITY all of the packet ends here, and
after it the rest of the way is that attribute and FINGERPRINT. -/
structure Walked (data : List UInt8) (pos : ℕ) (walk : Walk) : Prop where
  start_le : 20 ≤ pos
  le_length : pos ≤ data.length
  aligned : pos % 4 = 0
  size_eq : walk.packet.size = data.length
  exposed : ExposedBefore data (walk.packet.messageIntegrity.elim pos (· - 4)) walk.packet
  integrity : ∀ mi, walk.packet.messageIntegrity = some mi → 24 ≤ mi ∧
    AttributeAt data (mi - 4) .messageIntegrity 20 ∧
    mi + 20 + (if walk.packet.hasFingerprint then 8 else 0) = pos
  fingerprint_le : ∀ fp, walk.fingerprint = some fp → fp.1 ≤ data.length

theorem padTo4Bytes_spec {n : ℕ} (hlen : data.length ≤ 65535) (hdata : data.length % 4 = 0)
    (h : n ≤ data.length) : n ≤ padTo4Bytes n ∧ padTo4Bytes n < n + 4 ∧ padTo4Bytes n % 4 = 0 ∧
      padTo4Bytes n ≤ data.length := by
  have hn : n % 65536 = n := Nat.mod_eq_of_lt (by omega)
  simp only [padTo4Bytes, hn]
  split_ifs with h4
  · have hlt : n - n % 4 + 4 < 65536 := by omega
    rw [Nat.mod_eq_of_lt hlt]
    omega
  · omega

theorem Walked.expose {next : ℕ} (h : Walked data pos walk) (hle : pos ≤ next)
    (hnext : next % 4 = 0 ∧ next ≤ data.length) (hsize : packet.size = walk.packet.size)
    (hsame : packet.messageIntegrity = walk.packet.messageIntegrity)
    (hmi : walk.packet.messageIntegrity = none)
    (hexposed : ExposedBefore data next walk.packet → ExposedBefore data next packet) :
    Walked data next { walk with packet := packet } where
  start_le := h.start_le.trans hle
  le_length := hnext.2
  aligned := hnext.1
  size_eq := hsize.trans h.size_eq
  exposed := by
    have hex := h.exposed
    rw [hmi] at hex
    rw [hsame, hmi]
    exact hexposed (hex.mono hle)
  integrity := by
    intro mi hsome
    rw [show packet.messageIntegrity = none from hsame.trans hmi] at hsome
    cases hsome
  fingerprint_le := h.fingerprint_le

theorem ensures_setAttribute {attrLength next : ℕ} {attrType : StunAttribute}
    (h : Walked data pos walk) (hattr : AttributeAt data pos attrType attrLength)
    (hroom : pos + 4 + attrLength ≤ data.length)
    (hnext : pos + 4 + attrLength ≤ next ∧ next < pos + 4 + attrLength + 4 ∧ next % 4 = 0 ∧
      next ≤ data.length) (hfp : walk.packet.hasFingerprint = false)
    (hmi : walk.packet.messageIntegrity = none ∨ attrType = .fingerprint) :
    (setAttribute data attrType pos attrLength walk).Ensures (Walked data next) := by
  obtain ⟨hlo, hhi, h4, hend⟩ := hnext
  have hstart := h.start_le
  have haligned := h.aligned
  have hle : pos ≤ next := by omega
  -- before MESSAGE-INTEGRITY a new value ends at `next` or before
  have hbefore : ∀ P : ℕ → ℕ → Prop, P (pos + 4) attrLength →
      ValueBefore data next attrType P :=
    fun P hP => ⟨pos, attrLength, hstart, hlo, hattr, hP⟩
  have hnone := hmi.resolve_right
  cases attrType with
  | fingerprint =>
    refine ensures_require.bind fun _ h4' => ?_
    refine (ensures_readBe (by omega)).bind fun fingerprint _ => ?_
    refine
      { start_le := by omega, le_length := hend, aligned := h4, size_eq := h.size_eq
        exposed := ?_, integrity := ?_, fingerprint_le := ?_ }
    · have hex := h.exposed
      cases hsome : walk.packet.messageIntegrity with
      | none =>
        rw [hsome] at hex
        exact { hex.mono hle with }
      | some mi =>
        rw [hsome] at hex
        exact { hex with }
    · intro mi hsome
      obtain ⟨hge, hat, hpos⟩ := h.integrity mi hsome
      rw [hfp] at hpos
      refine ⟨hge, hat, ?_⟩
      simp only [Bool.false_eq_true, if_false, if_true] at hpos ⊢
      omega
    · rintro fp hfp'
      obtain rfl := Option.some.inj hfp'
      exact h.le_length
  | messageIntegrity =>
    have hnone := hnone (by simp)
    refine ensures_require.bind fun _ h20 => ?_
    have hex := h.exposed
    rw [hnone] at hex
    refine
      { start_le := by omega, le_length := hend, aligned := h4, size_eq := h.size_eq
        exposed := ?_, integrity := ?_, fingerprint_le := h.fingerprint_le }
    · exact { hex.mono (Nat.le_refl pos) with }
    · rintro mi hsome
      obtain rfl : pos + 4 = mi := Option.some.inj hsome
      subst h20
      refine ⟨by omega, hattr, ?_⟩
      simp only [hfp, Bool.false_eq_true, if_false]
      omega
  | username =>
    have hload : load data (pos + 4) attrLength = value _ := if_pos (.inr hroom)
    rw [setAttribute, hload, value_bind]
    exact h.expose hle ⟨h4, hend⟩ rfl rfl (hnone (by simp)) fun hex =>
      { hex with username := .inr (hbefore _ hload) }
  | priority =>
    refine ensures_require.bind fun _ hlen => ?_
    refine (ensures_readBe (by omega)).self_eq.bind fun priority hread => ?_
    exact h.expose hle ⟨h4, hend⟩ rfl rfl (hnone (by simp)) fun hex =>
      { hex with priority := .inr (hbefore _ hread.1) }
  | iceControlling =>
    refine ensures_require.bind fun _ hlen => ?_
    refine (ensures_readBe (by omega)).self_eq.bind fun iceControlling hread => ?_
    exact h.expose hle ⟨h4, hend⟩ rfl rfl (hnone (by simp)) fun hex =>
      { hex with iceControlling := .inr (hbefore _ hread.1) }
  | iceControlled =>
    refine ensures_require.bind fun _ hlen => ?_
    refine (ensures_readBe (by omega)).self_eq.bind fun iceControlled hread => ?_
    exact h.expose hle ⟨h4, hend⟩ rfl rfl (hnone (by simp)) fun hex =>
      { hex with iceControlled := .inr (hbefore _ hread.1) }
  | useCandidate =>
    refine ensures_require.bind fun _ hlen => ?_
    exact h.expose hle ⟨h4, hend⟩ rfl rfl (hnone (by simp)) fun hex =>
      { hex with hasUseCandidate := .inr (hbefore _ hlen) }
  | nomination =>
    refine ensures_require.bind fun _ hlen => ?_
    refine (ensures_readBe (by omega)).self_eq.bind fun nomination hread => ?_
    exact h.expose hle ⟨h4, hend⟩ rfl rfl (hnone (by simp)) fun hex =>
      { hex with nomination := .inr (hbefore _ hread.1) }
  | errorCode =>
    refine ensures_require.bind fun _ hlen => ?_
    refine (ensures_read (by omega)).self_eq.bind fun errorClass hclass => ?_
    refine (ensures_read (by omega)).self_eq.bind fun errorNumber hnumber => ?_
    exact h.expose hle ⟨h4, hend⟩ rfl rfl (hnone (by simp)) fun hex => { hex with
      errorCode := .inr (hbefore _ ⟨errorClass, errorNumber, hclass.1, hnumber.1, rfl⟩) }
  | other =>
    exact h.expose hle ⟨h4, hend⟩ rfl rfl (hnone (by simp)) fun hex => hex

/-- **The walk** ends, stays inside the buffer and keeps its invariant. -/
theorem ensures_parseAttributes (hlen : data.length ≤ 65535) (hdata : data.length % 4 = 0)
    {fuel : ℕ} (h : Walked data pos walk) (hfuel : data.length - pos < fuel) :
    (parseAttributes data fuel pos walk).Ensures fun result => Walked data result.1 result.2 := by
  induction fuel generalizing pos walk with
  | zero => omega
  | succ fuel ih =>
    refine .ite (fun hroom => ?_) fun _ => h
    refine (ensures_readBe (by omega)).self_eq.bind fun type htype => ?_
    refine (ensures_readBe (by omega)).self_eq.bind fun attrLength hlength => ?_
    refine ensures_require.bind fun _ hfits => ensures_require.bind fun _ hfp => ?_
    refine ensures_require.bind fun _ hmi => ?_
    have hnext := padTo4Bytes_spec hlen hdata hfits
    have hattr : AttributeAt data pos (StunAttribute.ofType type) attrLength :=
      ⟨type, htype.1, rfl, hlength.1⟩
    refine (ensures_setAttribute h hattr hfits hnext hfp hmi).bind fun walk' hwalk' => ?_
    exact ih hwalk' (by omega)

/-! ### Accepted packets -/

/-- The buffer with another number in the length field of its header. -/
def withLength (data : List UInt8) (length : ℕ) : List UInt8 :=
  data.take 2 ++ toBe16 length ++ data.drop 4

/-- What `Parse` guarantees of the packets that it accepts. -/
structure Accepted (data : List UInt8) (packet : StunPacket) : Prop where
  header_le : 20 ≤ data.length
  lengthField : withLength data (data.length - 20) = data
  size_eq : packet.size = data.length
  exposed : ∀ mi, packet.messageIntegrity = some mi → ExposedBefore data (mi - 4) packet
  integrity : ∀ mi, packet.messageIntegrity = some mi → 24 ≤ mi ∧
    AttributeAt data (mi - 4) .messageIntegrity 20 ∧
    mi + 20 + (if packet.hasFingerprint then 8 else 0) = data.length

theorem withLength_of_readBe {length : ℕ} (h : readBe data 2 2 = value length) :
    withLength data length = data := by
  obtain ⟨hi, lo, rest, hdrop, rfl⟩ := readBe_two_eq_value h
  have hbytes : toBe16 (hi.toNat * 256 + lo.toNat) = [hi, lo] := by
    have hlo := lo.toNat_lt
    have hdiv : (hi.toNat * 256 + lo.toNat) / 256 = hi.toNat := by omega
    rw [toBe16, hdiv, UInt8.ofNat_toNat]
    congr 2
    apply UInt8.toNat_inj.mp
    rw [UInt8.toNat_ofNat']
    omega
  have hdrop4 : data.drop 4 = rest := by
    rw [← drop_drop (i := 2) (j := 2), hdrop]
    rfl
  rw [withLength, hbytes, hdrop4, append_assoc, cons_append, cons_append,
    nil_append, ← hdrop, take_append_drop]

theorem ensures_isStun : (isStun data).Ensures fun stun => stun = true → 20 ≤ data.length := by
  refine .ite (fun h20 => ?_) fun _ h => absurd h (by simp)
  refine (ensures_read (by omega)).bind fun _ _ => ?_
  exact (ensures_load (.inr (by omega))).bind fun _ _ _ => h20

theorem safe_checkFingerprint {crc32 : List UInt8 → UInt32} {fingerprint : Option (ℕ × ℕ)}
    (h : ∀ fp, fingerprint = some fp → fp.1 ≤ data.length) :
    (checkFingerprint crc32 data fingerprint).Safe := by
  cases fingerprint with
  | none => trivial
  | some fp =>
    have hle := h fp rfl
    exact (ensures_load (.inr (by omega))).bind fun _ _ => ensures_require.safe

/-- **Parsing** a buffer of at most 65535 bytes ends and stays inside the buffer. -/
theorem ensures_parse (crc32 : List UInt8 → UInt32) (hlen : data.length ≤ 65535) :
    (parse crc32 data).Ensures (Accepted data) := by
  refine (ensures_isStun).bind fun stun hstun => ?_
  refine ensures_require.bind fun _ hstun' => ?_
  have h20 := hstun hstun'
  refine (ensures_readBe (by omega)).bind fun msgType _ => ?_
  refine (ensures_readBe (by omega)).self_eq.bind fun msgLength hlength => ?_
  refine ensures_require.bind fun _ hmatch => ?_
  obtain ⟨rfl, hmod⟩ := hmatch
  refine (ensures_read (by omega)).bind fun byte0 _ => ?_
  refine (ensures_read (by omega)).bind fun byte1 _ => ?_
  -- no attribute has been seen yet, so everything exposed is a default
  refine (ensures_parseAttributes hlen (by omega) ?_ (by omega)).bind fun result hwalk => ?_
  · exact
      { start_le := Nat.le_refl 20, le_length := h20, aligned := rfl, size_eq := rfl
        exposed := ⟨.inl rfl, .inl rfl, .inl rfl, .inl rfl, .inl rfl, .inl ⟨rfl, rfl⟩, .inl rfl⟩
        integrity := fun mi h => (by cases h)
        fingerprint_le := fun fp h => (by cases h) }
  refine ensures_require.bind fun _ hpos => ?_
  refine (safe_checkFingerprint hwalk.fingerprint_le).bind fun _ _ => ?_
  refine
    { header_le := h20, lengthField := withLength_of_readBe hlength.1, size_eq := hwalk.size_eq
      exposed := ?_, integrity := ?_ }
  · intro mi hmi
    have hex := hwalk.exposed
    rw [hmi] at hex
    exact hex
  · intro mi hmi
    have hint := hwalk.integrity mi hmi
    rw [hpos] at hint
    exact hint

/-! ### Authentic packets -/

/-- The bytes before the MESSAGE-INTEGRITY attribute whose value is at `mi`, with the
header's length set to end right after that attribute. -/
def coveredBytes (data : List UInt8) (mi : ℕ) : List UInt8 :=
  (withLength data (mi + 20 - 20)).take (mi - 4)

/-- What MESSAGE-INTEGRITY is for: a request or an indication for the local user, whose
sender knows the password. -/
def Authentic (hmacSha1 : List UInt8 → List UInt8 → Digest) (packet : StunPacket)
    (data localUsername localPassword : List UInt8) : Prop :=
  (packet.klass = .request ∨ packet.klass = .indication) ∧
    localUsername ++ [58] <+: packet.username ∧
    ∃ mi ∈ packet.messageIntegrity,
      (data.drop mi).take 20 = (hmacSha1 localPassword (coveredBytes data mi)).bytes

instance (hmacSha1 : List UInt8 → List UInt8 → Digest) (packet : StunPacket)
    (data localUsername localPassword : List UInt8) :
    Decidable (Authentic hmacSha1 packet data localUsername localPassword) :=
  inferInstanceAs (Decidable (_ ∧ _ ∧ _))

theorem usernameMatches_iff {username localUsername : List UInt8} :
    usernameMatches username localUsername = true ↔ localUsername ++ [58] <+: username := by
  simp only [usernameMatches, Bool.and_eq_true, decide_eq_true_eq, beq_iff_eq]
  rw [prefix_iff_eq_take, length_append, length_singleton, take_add_one]
  constructor
  · rintro ⟨⟨-, hcolon⟩, htake⟩
    rw [htake, hcolon]
    rfl
  · intro h
    have hlen := congrArg List.length h
    -- the colon is there, since otherwise the right side would be too short
    cases hcolon : username[localUsername.length]? with
    | none =>
      rw [hcolon] at hlen
      simp at hlen
      omega
    | some colon =>
      rw [hcolon] at h
      obtain ⟨hlt, -⟩ := List.getElem?_eq_some_iff.mp hcolon
      have hsame : localUsername.length = (username.take localUsername.length).length := by
        rw [length_take]
        omega
      obtain ⟨hname, hlast⟩ := append_inj h hsame
      exact ⟨⟨hlt, congrArg some (singleton_inj.mp hlast).symm⟩, hname.symm⟩

section

variable {data : List UInt8}

theorem length_withLength (h : 4 ≤ data.length) (n : ℕ) :
    (withLength data n).length = data.length := by
  simp [withLength, toBe16]
  omega

theorem withLength_withLength (h : 4 ≤ data.length) (n m : ℕ) :
    withLength (withLength data n) m = withLength data m := by
  have htake : (data.take 2).length = 2 := by
    rw [length_take]
    omega
  have hfirst : (withLength data n).take 2 = data.take 2 := by
    rw [withLength, append_assoc, take_left' htake]
  have hrest : (withLength data n).drop 4 = data.drop 4 :=
    drop_left' (by rw [length_append, htake]; rfl)
  rw [withLength, hfirst, hrest, withLength]

variable {n : ℕ}

theorem drop_withLength (h : 4 ≤ data.length) {i : ℕ} (hi : 4 ≤ i) :
    (withLength data n).drop i = data.drop i := by
  have hhead : (data.take 2 ++ toBe16 n).length = 4 := by
    rw [length_append, length_take, Nat.min_eq_left (by omega)]
    rfl
  rw [withLength, drop_append, hhead, drop_drop,
    drop_eq_nil_of_le (by omega : (data.take 2 ++ toBe16 n).length ≤ i), nil_append,
    Nat.add_sub_cancel' hi]

theorem setLength_eq (h : 4 ≤ data.length) : setLength packet data n =
      value (if packet.hasFingerprint then withLength data n else data) := by
  rw [setLength]
  split_ifs with hfp
  · exact if_pos (.inr (show 2 + 2 ≤ data.length by omega))
  · rfl

end

theorem checkIntegrity_eq (hmacSha1 : List UInt8 → List UInt8 → Digest) (h : Accepted data packet)
    {mi : ℕ} (hmi : packet.messageIntegrity = some mi) (localPassword : List UInt8) :
    checkIntegrity hmacSha1 packet data mi localPassword = value
      (if (data.drop mi).take 20 = (hmacSha1 localPassword (coveredBytes data mi)).bytes
        then .ok else .unauthorized, data) := by
  obtain ⟨hge, -, hend⟩ := h.integrity mi hmi
  have h4 : 4 ≤ data.length := le_trans (by decide) h.header_le
  have hlen := length_withLength h4 mi
  -- both with and without FINGERPRINT the length field now says `mi`
  have hfirst : (if packet.hasFingerprint then withLength data (packet.size - 20 - 8) else data) =
      withLength data mi := by
    rw [h.size_eq]
    split_ifs with hfp
    · rw [if_pos hfp] at hend
      congr 1
      omega
    · rw [if_neg hfp] at hend
      have hmi' : data.length - 20 = mi := by omega
      rw [← hmi', h.lengthField]
  have hlast : (if packet.hasFingerprint then withLength (withLength data mi) (packet.size - 20)
      else withLength data mi) = data := by
    rw [h.size_eq, withLength_withLength h4, h.lengthField]
    split_ifs with hfp
    · rfl
    · rw [if_neg hfp] at hfirst
      exact hfirst.symm
  have hcovered : load (withLength data mi) 0 (mi - 4) = value (coveredBytes data mi) :=
    if_pos (.inr (by rw [hlen]; omega))
  have hreceived : load (withLength data mi) mi 20 = value ((data.drop mi).take 20) := by
    rw [← drop_withLength h4 (by omega : 4 ≤ mi)]
    exact if_pos (.inr (by rw [hlen]; omega))
  rw [checkIntegrity, setLength_eq h4, hfirst, value_bind, hcovered, value_bind,
    hreceived, value_bind, setLength_eq (by rw [hlen]; exact h4), hlast, value_bind, pure_eq]

/-- **Authentication** is decided by the bytes before MESSAGE-INTEGRITY and leaves the
buffer as it was. -/
theorem checkAuthentication_spec (hmacSha1 : List UInt8 → List UInt8 → Digest)
    (h : Accepted data packet) (localUsername localPassword : List UInt8) :
    ∃ result, checkAuthentication hmacSha1 packet data localUsername localPassword =
        value (result, data) ∧
      (result = .ok ↔ Authentic hmacSha1 packet data localUsername localPassword) := by
  rw [checkAuthentication, Authentic, ← usernameMatches_iff]
  by_cases hclass : packet.klass = .request ∨ packet.klass = .indication
  swap
  · rw [if_neg hclass]
    exact ⟨.badRequest, rfl, by simp [hclass]⟩
  rw [if_pos hclass]
  cases hmi : packet.messageIntegrity with
  | none => exact ⟨.badRequest, rfl, by simp⟩
  | some mi =>
    split_ifs with hempty hname
    · exact ⟨.badRequest, rfl, by simp [hempty, usernameMatches]⟩
    · exact ⟨.unauthorized, rfl, by simp_all⟩
    · refine ⟨_, checkIntegrity_eq hmacSha1 h hmi localPassword, ?_⟩
      have hname' : usernameMatches packet.username localUsername = true := by simpa using hname
      simp [hclass, hname']

/-- **STUN integrity covers everything used.**  Parsing ends and reads inside the buffer.
A packet that it accepts is authenticated exactly when it is authentic; the buffer is as
before, and what the packet exposes ends before its MESSAGE-INTEGRITY attribute. -/
theorem parse_authenticates (crc32 : List UInt8 → UInt32)
    (hmacSha1 : List UInt8 → List UInt8 → Digest) (data : List UInt8) (hlen : data.length ≤ 65535) :
    (parse crc32 data).Ensures fun packet => (∀ localUsername localPassword, ∃ result,
        checkAuthentication hmacSha1 packet data localUsername localPassword =
          value (result, data) ∧
        (result = .ok ↔ Authentic hmacSha1 packet data localUsername localPassword)) ∧
      ∀ mi, packet.messageIntegrity = some mi →
        AttributeAt data (mi - 4) .messageIntegrity 20 ∧ ExposedBefore data (mi - 4) packet := by
  refine (ensures_parse crc32 hlen).mono fun packet hpacket => ⟨?_, fun mi hmi => ?_⟩
  · exact checkAuthentication_spec hmacSha1 hpacket
  · exact ⟨(hpacket.integrity mi hmi).2.1, hpacket.exposed mi hmi⟩

/-- A CRC and an HMAC to run the model with. -/
def sampleCrc32 (_ : List UInt8) : UInt32 := 0

def sampleHmacSha1 (key data : List UInt8) : Digest where
  bytes := List.replicate 20 (UInt8.ofNat (key.length + data.length))
  length_eq := length_replicate

/-- A Binding request of `a:b` with PRIORITY, MESSAGE-INTEGRITY and FINGERPRINT, for the
password `p`. -/
def sampleRequest : List UInt8 :=
  [0x00, 0x01, 0x00, 0x30, 0x21, 0x12, 0xA4, 0x42] ++ List.replicate 12 0 ++
    [0x00, 0x06, 0x00, 0x03, 97, 58, 98, 0] ++ [0x00, 0x24, 0x00, 0x04, 0, 0, 0, 1] ++
    [0x00, 0x08, 0x00, 0x14] ++ List.replicate 20 37 ++
    [0x80, 0x28, 0x00, 0x04, 0x53, 0x54, 0x55, 0x4e]

theorem parse_sampleRequest_authenticates : ∃ packet,
    parse sampleCrc32 sampleRequest = value packet ∧ packet.messageIntegrity = some 40 ∧
    checkAuthentication sampleHmacSha1 packet sampleRequest [97] [112] =
      value (.ok, sampleRequest) ∧ ExposedBefore sampleRequest 36 packet := by
  have hspec := parse_authenticates sampleCrc32 sampleHmacSha1 sampleRequest (by decide)
  have hparse : parse sampleCrc32 sampleRequest = value
      { klass := .request, method := 1, size := 68, username := [97, 58, 98], priority := 1
        messageIntegrity := some 40, hasFingerprint := true } := by decide +kernel
  rw [hparse] at hspec ⊢
  obtain ⟨hauth, hexposed⟩ := hspec
  obtain ⟨result, hcheck, hok⟩ := hauth [97] [112]
  refine ⟨_, rfl, rfl, ?_, (hexposed 40 rfl).2⟩
  rw [hcheck, hok.mpr (by decide +kernel)]

end StunPacket

end Mediasoup
