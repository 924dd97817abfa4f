/-
The RTP parameters of a producer (`RTC::RtpParameters`): codecs and encodings, and
the checks that its constructor makes.

Entries are taken after the conversion from JSON, so a field has the type that it is
stored in; an absent SSRC is `0` and an absent RID is empty.

* `RtpParameters` — carries what the checks establish: payload types are distinct,
  and every encoding names the payload type of a media codec.
* `RtpParameters.new` — the checks, with the messages of the errors they throw.
* `getCodecForEncoding_eq` — the codec of an encoding is always found.
-/
import Mathlib.Data.List.Nodup
import Mediasoup.Lib.Runs
import Mediasoup.Rtp.Mangle

open List Runs

namespace Mediasoup

/-- `RtpCodecMimeType::Subtype`. -/
inductive RtpCodecSubtype where
  | opus | multiopus | pcma | pcmu | isac | g722 | ilbc | silk
  | vp8 | vp9 | h264 | h264Svc | xH264uc | h265
  | cn | telephoneEvent
  | rtx | ulpfec | xUlpfecuc | flexfec | red
  deriving DecidableEq

namespace RtpCodecSubtype

def toNat : RtpCodecSubtype → ℕ
  | opus => 100 | multiopus => 101 | pcma => 102 | pcmu => 103
  | isac => 104 | g722 => 105 | ilbc => 106 | silk => 107
  | vp8 => 200 | vp9 => 201 | h264 => 202 | h264Svc => 203 | xH264uc => 204 | h265 => 205
  | cn => 300 | telephoneEvent => 301
  | rtx => 400 | ulpfec => 401 | xUlpfecuc => 402 | flexfec => 403 | red => 404

/-- `subtype2String`. -/
def toString : RtpCodecSubtype → String
  | opus => "opus" | multiopus => "multiopus" | pcma => "PCMA" | pcmu => "PCMU"
  | isac => "ISAC" | g722 => "G722" | ilbc => "iLBC" | silk => "SILK"
  | vp8 => "VP8" | vp9 => "VP9" | h264 => "H264" | h264Svc => "H264-SVC"
  | xH264uc => "X-H264UC" | h265 => "H265"
  | cn => "CN" | telephoneEvent => "telephone-event"
  | rtx => "rtx" | ulpfec => "ulpfec" | xUlpfecuc => "x-ulpfecuc" | flexfec => "flexfec"
  | red => "red"

def isMediaCodec (subtype : RtpCodecSubtype) : Bool :=
  100 ≤ subtype.toNat && subtype.toNat < 300

def isFeatureCodec (subtype : RtpCodecSubtype) : Bool :=
  400 ≤ subtype.toNat

theorem not_isFeatureCodec_of_isMediaCodec {subtype : RtpCodecSubtype}
    (h : subtype.isMediaCodec) : ¬subtype.isFeatureCodec := by
  simp only [isMediaCodec, isFeatureCodec, Bool.and_eq_true, decide_eq_true_eq] at h ⊢
  omega

end RtpCodecSubtype

structure RtpCodecMimeType where
  type : MediaKind
  subtype : RtpCodecSubtype

def RtpCodecMimeType.toString (mimeType : RtpCodecMimeType) : String :=
  (match mimeType.type with
    | .audio => "audio/"
    | .video => "video/") ++ mimeType.subtype.toString

/-- The value of a codec parameter (`Parameters::Value`); only integers are looked
into. -/
inductive ParameterValue where
  | boolean
  | integer (value : ℤ)
  | double
  | string
  | arrayOfIntegers

/-- `integerValue`, which stays zero in a value of another type. -/
def ParameterValue.integerValue : ParameterValue → ℤ
  | integer value => value
  | _ => 0

structure RtpCodecParameters where
  mimeType : RtpCodecMimeType
  payloadType : UInt8
  /-- The parameter `apt`, if there is one. -/
  apt : Option ParameterValue

structure RtpEncodingParameters where
  ssrc : UInt32
  rid : String
  codecPayloadType : UInt8
  hasCodecPayloadType : Bool
  /-- `rtx.ssrc`, if the encoding has `rtx`. -/
  rtx : Option UInt32
  spatialLayers : ℕ
  temporalLayers : ℕ

/-- What can stop the worker while a producer receives RTP, with the function that
asserts it. -/
inductive Abort where
  /-- `RtpParameters::GetCodecForEncoding` -/
  | noValidCodecPayloadType
  /-- `Parameters::GetInteger` -/
  | keyDoesNotExist
  /-- `Producer::CreateRtpStream` -/
  | ssrcAlreadyExists
  /-- `Producer::CreateRtpStream` -/
  | encodingIndexAlreadyExists
  /-- `Producer::ReceiveRtpPacket` -/
  | streamDoesNotMatchPacket
  /-- a vector index or map key that does not exist -/
  | outOfRange
  deriving DecidableEq

/-! ### The checks of the constructor -/

/-- `RtpCodecParameters::CheckCodec`. -/
def checkCodec (codec : RtpCodecParameters) : Except String Unit :=
  if codec.mimeType.subtype = .rtx then
    match codec.apt with
    | some (.integer value) =>
      if 0 ≤ value then .ok () else .error "missing apt parameter in RTX codec"
    | _ => .error "missing apt parameter in RTX codec"
  else .ok ()

variable (codecs : List RtpCodecParameters)

/-- The codec that an RTX codec refers to must exist and carry media. -/
def checkApt (apt : ℤ) : Except String Unit :=
  match codecs.find? fun codec => (codec.payloadType.toNat : ℤ) = apt with
  | none => .error "apt in RTX codec points to a non existing codec"
  | some codec =>
    match codec.mimeType.subtype with
    | .rtx => .error "apt in RTX codec points to a RTX codec"
    | .ulpfec => .error "apt in RTX codec points to a ULPFEC codec"
    | .flexfec => .error "apt in RTX codec points to a FLEXFEC codec"
    | _ => .ok ()

/-- One round of the loop of `ValidateCodecs`. -/
def validateCodec (payloadTypes : List UInt8) (codec : RtpCodecParameters) : Except String Unit :=
  if codec.payloadType ∈ payloadTypes then .error "duplicated payloadType"
  else if codec.mimeType.subtype = .rtx then
    checkApt codecs ((codec.apt.map ParameterValue.integerValue).getD 0)
  else .ok ()

/-- `ValidateCodecs`, from the codecs whose payload types were seen. -/
def validateCodecs (codecs : List RtpCodecParameters) :
    List UInt8 → List RtpCodecParameters → Except String Unit
  | _, [] => .ok ()
  | payloadTypes, codec :: rest => do
    validateCodec codecs payloadTypes codec
    validateCodecs codecs (codec.payloadType :: payloadTypes) rest

/-- One round of the loop of `ValidateEncodings`. -/
def validateEncoding (firstMediaPayloadType : UInt8)
    (numEncodings : ℕ) (encoding : RtpEncodingParameters) : Except String RtpEncodingParameters :=
  if 1 < encoding.spatialLayers ∧ 1 < numEncodings then
    .error "cannot use both simulcast and encodings with multiple SVC spatial layers"
  else if encoding.hasCodecPayloadType then
    match codecs.find? fun codec => codec.payloadType = encoding.codecPayloadType with
    | none => .error "unknown codecPayloadType"
    | some codec =>
      if codec.mimeType.subtype.isMediaCodec then .ok encoding
      else .error "invalid codecPayloadType"
  else .ok { encoding with
    codecPayloadType := firstMediaPayloadType, hasCodecPayloadType := true }

/-- The loop of `ValidateEncodings`. -/
def validateEachEncoding (codecs : List RtpCodecParameters) (firstMediaPayloadType : UInt8)
    (numEncodings : ℕ) :
    List RtpEncodingParameters → Except String (List RtpEncodingParameters)
  | [] => .ok []
  | encoding :: rest => do
    let encoding ← validateEncoding codecs firstMediaPayloadType numEncodings encoding
    let rest ← validateEachEncoding codecs firstMediaPayloadType numEncodings rest
    return encoding :: rest

def validateEncodings (encodings : List RtpEncodingParameters) :
    Except String (List RtpEncodingParameters) :=
  match codecs.find? fun codec => codec.mimeType.subtype.isMediaCodec with
  | none => .error "no media codecs found"
  | some codec => validateEachEncoding codecs codec.payloadType encodings.length encodings

/-! ### What the checks establish -/

/-- The payload type of one of the media codecs. -/
def IsMediaPayloadType (payloadType : UInt8) : Prop :=
  ∃ codec ∈ codecs, codec.payloadType = payloadType ∧ codec.mimeType.subtype.isMediaCodec

variable {codecs : List RtpCodecParameters}

theorem nodup_of_validateCodecs : ∀ (rest : List RtpCodecParameters) (payloadTypes : List UInt8),
      validateCodecs codecs payloadTypes rest = .ok () →
      (rest.map RtpCodecParameters.payloadType).Nodup ∧
        ∀ codec ∈ rest, codec.payloadType ∉ payloadTypes := by
  intro rest
  induction rest with
  | nil => intro payloadTypes _; simp
  | cons codec rest ih =>
    intro payloadTypes h
    obtain ⟨⟨⟩, hcodec, hrest⟩ := bind_eq_ok.mp h
    obtain ⟨hnodup, hnotin⟩ := ih _ hrest
    have hnew : codec.payloadType ∉ payloadTypes := by
      intro hmem
      rw [validateCodec, if_pos hmem] at hcodec
      cases hcodec
    refine ⟨?_, ?_⟩
    · rw [map_cons, nodup_cons]
      refine ⟨fun hmem => ?_, hnodup⟩
      obtain ⟨other, hother, heq⟩ := mem_map.mp hmem
      exact hnotin other hother (heq ▸ mem_cons_self)
    · rintro c (_ | ⟨_, hc⟩)
      · exact hnew
      · exact fun hmem => hnotin c hc (mem_cons_of_mem _ hmem)

theorem isMediaPayloadType_of_validateEncoding {first : UInt8}
    (hfirst : IsMediaPayloadType codecs first) {n : ℕ} {encoding encoding' : RtpEncodingParameters}
    (h : validateEncoding codecs first n encoding = .ok encoding') :
    IsMediaPayloadType codecs encoding'.codecPayloadType := by
  unfold validateEncoding at h
  split at h
  · cases h
  split at h
  · split at h
    · cases h
    rename_i codec hfind
    split at h
    · rename_i hmedia
      cases h
      exact ⟨codec, mem_of_find?_eq_some hfind,
        by simpa using List.find?_some hfind, hmedia⟩
    · cases h
  · cases h
    exact hfirst

theorem validateEachEncoding_spec {first : UInt8} (hfirst : IsMediaPayloadType codecs first)
    {n : ℕ} : ∀ (encodings encodings' : List RtpEncodingParameters),
      validateEachEncoding codecs first n encodings = .ok encodings' →
      encodings'.length = encodings.length ∧
        ∀ encoding ∈ encodings', IsMediaPayloadType codecs encoding.codecPayloadType := by
  intro encodings
  induction encodings with
  | nil => intro encodings' h; cases h; simp
  | cons encoding rest ih =>
    intro encodings' h
    obtain ⟨e, he, h⟩ := bind_eq_ok.mp h
    obtain ⟨es, hes, h⟩ := bind_eq_ok.mp h
    cases h
    obtain ⟨hlen, hall⟩ := ih es hes
    refine ⟨by simp [hlen], ?_⟩
    rintro c (_ | ⟨_, hc⟩)
    · exact isMediaPayloadType_of_validateEncoding hfirst he
    · exact hall c hc

theorem validateEncodings_spec {encodings encodings' : List RtpEncodingParameters}
    (h : validateEncodings codecs encodings = .ok encodings') :
    encodings'.length = encodings.length ∧
      ∀ encoding ∈ encodings', IsMediaPayloadType codecs encoding.codecPayloadType := by
  unfold validateEncodings at h
  split at h
  · cases h
  · rename_i codec hfind
    refine validateEachEncoding_spec ⟨codec, mem_of_find?_eq_some hfind, rfl, ?_⟩ _ _ h
    simpa using List.find?_some hfind

/-! ### The parameters -/

/-- The entries of `rtpParameters` in the request. -/
structure RtpParametersData where
  mid : Option String
  codecs : List RtpCodecParameters
  encodings : List RtpEncodingParameters

/-- Parameters that passed the checks. -/
structure RtpParameters where
  mid : String
  codecs : List RtpCodecParameters
  encodings : List RtpEncodingParameters
  payloadTypes_nodup : (codecs.map RtpCodecParameters.payloadType).Nodup
  encodings_ne_nil : encodings ≠ []
  mediaPayloadType : ∀ encoding ∈ encodings,
    IsMediaPayloadType codecs encoding.codecPayloadType

namespace RtpParameters

def new (data : RtpParametersData) : Except String RtpParameters :=
  if data.mid = some "" then .error "empty mid"
  else match data.codecs.forM checkCodec with
  | .error message => .error message
  | .ok () =>
    if data.codecs = [] then .error "empty codecs"
    else if hne : data.encodings = [] then .error "empty encodings"
    else match hcodecs : validateCodecs data.codecs [] data.codecs with
    | .error message => .error message
    | .ok () =>
      match hencodings : validateEncodings data.codecs data.encodings with
      | .error message => .error message
      | .ok encodings => .ok
        { mid := data.mid.getD ""
          codecs := data.codecs
          encodings := encodings
          payloadTypes_nodup := (nodup_of_validateCodecs _ _ hcodecs).1
          encodings_ne_nil := by
            intro h
            have hlen := (validateEncodings_spec hencodings).1
            rw [h, length_nil] at hlen
            exact hne (length_eq_zero_iff.mp hlen.symm)
          mediaPayloadType := (validateEncodings_spec hencodings).2 }

def getCodecForEncoding (params : RtpParameters) (encoding : RtpEncodingParameters) :
    Except Abort RtpCodecParameters :=
  match params.codecs.find? fun codec => codec.payloadType = encoding.codecPayloadType with
  | some codec => .ok codec
  | none => .error .noValidCodecPayloadType

/-- The loop of `GetRtxCodecForEncoding`: the first feature codec whose `apt` is the
payload type.  A feature codec without `apt` aborts. -/
def findRtxCodec (payloadType : UInt8) :
    List RtpCodecParameters → Except Abort (Option RtpCodecParameters)
  | [] => .ok none
  | codec :: rest =>
    if codec.mimeType.subtype.isFeatureCodec then
      match codec.apt with
      | none => .error .keyDoesNotExist
      | some apt =>
        if apt.integerValue = payloadType.toNat then .ok (some codec)
        else findRtxCodec payloadType rest
    else findRtxCodec payloadType rest

def getRtxCodecForEncoding (params : RtpParameters) (encoding : RtpEncodingParameters) :
    Except Abort (Option RtpCodecParameters) :=
  findRtxCodec encoding.codecPayloadType params.codecs

theorem getCodecForEncoding_eq (params : RtpParameters) {encoding : RtpEncodingParameters}
    (h : encoding ∈ params.encodings) :
    ∃ codec ∈ params.codecs, params.getCodecForEncoding encoding = .ok codec ∧
      codec.payloadType = encoding.codecPayloadType := by
  obtain ⟨codec, hmem, hpt, -⟩ := params.mediaPayloadType encoding h
  unfold getCodecForEncoding
  cases hfind : params.codecs.find? fun codec => codec.payloadType = encoding.codecPayloadType with
  | none =>
    have hnone := List.find?_eq_none.mp hfind codec hmem
    simp [hpt] at hnone
  | some found =>
    exact ⟨found, mem_of_find?_eq_some hfind, rfl, by simpa using List.find?_some hfind⟩

theorem findRtxCodec_ok {payloadType : UInt8} {codec : RtpCodecParameters} :
    ∀ (codecs : List RtpCodecParameters), findRtxCodec payloadType codecs = .ok (some codec) →
      codec ∈ codecs ∧ codec.mimeType.subtype.isFeatureCodec := by
  intro codecs
  fun_induction findRtxCodec payloadType codecs with
  | case1 | case2 => intro h; cases h
  | case3 c rest hfeature apt hapt heq =>
    intro h
    cases h
    exact ⟨mem_cons_self, hfeature⟩
  | case4 c rest hfeature apt hapt hne ih | case5 c rest hfeature ih =>
    intro h
    exact ⟨mem_cons_of_mem _ (ih h).1, (ih h).2⟩

theorem findRtxCodec_error {payloadType : UInt8} {reason : Abort} :
    ∀ (codecs : List RtpCodecParameters), findRtxCodec payloadType codecs = .error reason →
      reason = .keyDoesNotExist := by
  intro codecs
  fun_induction findRtxCodec payloadType codecs with
  | case1 | case3 => intro h; cases h
  | case2 => intro h; cases h; rfl
  | case4 _ _ _ _ _ _ ih | case5 _ _ _ ih => exact ih

/-- No packet has both the payload type of an encoding's media codec and that of an
encoding's RTX codec. -/
theorem mediaPayloadType_ne_rtx (params : RtpParameters)
    {encoding other : RtpEncodingParameters} (h : encoding ∈ params.encodings)
    {rtxCodec : RtpCodecParameters}
    (hrtx : params.getRtxCodecForEncoding other = .ok (some rtxCodec)) :
    rtxCodec.payloadType ≠ encoding.codecPayloadType := by
  intro heq
  obtain ⟨codec, hmem, hpt, hmedia⟩ := params.mediaPayloadType encoding h
  obtain ⟨hrtxmem, hfeature⟩ := findRtxCodec_ok _ hrtx
  have hsame : rtxCodec = codec :=
    inj_on_of_nodup_map params.payloadTypes_nodup hrtxmem hmem (heq.trans hpt.symm)
  exact RtpCodecSubtype.not_isFeatureCodec_of_isMediaCodec hmedia (hsame ▸ hfeature)

end RtpParameters

end Mediasoup
