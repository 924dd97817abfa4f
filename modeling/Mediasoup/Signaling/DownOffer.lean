/-
The offer that the signaling server sends to a subscriber (`common_util/down_offer.go`).

The offer has a section for each consumer of the subscriber.  The users and their consumers
come in the order in which Go iterates over the maps.  A line is kept as what it says: how it
is printed is left out.

* `generateDownOfferSdp` — the offer; nothing if a consumer has no encoding, where the Go
  function panics,
* `negotiatedConsumers` — what the function leaves in the maps: the consumer of an audio
  section has the mid of its section, a video consumer keeps the one it had.
-/
import Mathlib.Algebra.GroupWithZero.Nat
import Mathlib.Data.List.AList
import Mediasoup.Signaling.MediaParameters

namespace Mediasoup.Signaling

open List Option Json

/-! ### Lines -/

/-- `strconv.FormatInt` in base ten. -/
def decimal (n : ℕ) : Text := Nat.toDigits 10 n

inductive SdpLine where
  | bundle (mids : List ℕ)
  | mid (n : ℕ)
  | ssrc (ssrc : UInt32) (detail : Text)
  | ssrcGroup (ssrc1 ssrc2 : UInt32)
  | other (line : Text)

namespace SdpLine

def mid? : SdpLine → Option ℕ
  | .mid n => some n
  | _ => none

def bundle? : SdpLine → Option (List ℕ)
  | bundle mids => some mids
  | _ => none

def const (line : String) : SdpLine := other line.toList

end SdpLine

open SdpLine

/-- What the sections of an offer share. -/
structure OfferSettings where
  algorithmName : Text
  algorithmValue : Text
  iceUfrag : Text
  icePwd : Text
  msid : Text
  ip : Text
  port : ℕ
  unixNano : ℕ

namespace OfferSettings

variable (p : OfferSettings)

def udpCandidate : SdpLine :=
  other ("a=candidate:udpcandidate 1 udp 1076302079 ".toList ++ p.ip ++ ' ' :: decimal p.port ++
    " typ host generation 0".toList)

def transportLines : List SdpLine :=
  [other ("c=IN IP4 ".toList ++ p.ip), const "a=rtcp:9 IN IP4 0.0.0.0", p.udpCandidate,
    other ("a=ice-ufrag:".toList ++ p.iceUfrag), other ("a=ice-pwd:".toList ++ p.icePwd),
    const "a=ice-options:renomination",
    other ("a=fingerprint:".toList ++ p.algorithmName ++ ' ' :: p.algorithmValue),
    const "a=setup:actpass"]

def extensionLines : List SdpLine :=
  [const "a=extmap:1 urn:ietf:params:rtp-hdrext:sdes:mid",
    const "a=extmap:4 http://www.webrtc.org/experiments/rtp-hdrext/abs-send-time",
    const "a=extmap:5 http://www.webrtc.org/experiments/rtp-hdrext/playout-delay",
    const "a=extmap:11 urn:ietf:params:rtp-hdrext:sdes:repaired-rtp-stream-id",
    const "a=extmap:12 urn:ietf:params:rtp-hdrext:toffset", const "a=sendonly"]

def msidLine (name : Text) : SdpLine := other ("a=msid:".toList ++ p.msid ++ ' ' :: name)

/-- The section of an audio consumer of user number `i`. -/
def audio (i : ℕ) (consumer : Consumer) (encoding : Encoding) : List SdpLine :=
  let audioSsrc := encoding.ssrc
  let audioName := consumer.rtpParameters.rtcp.cname
  [other ("m=audio ".toList ++ decimal p.port ++ " UDP/TLS/RTP/SAVPF 100".toList),
    p.msidLine audioName, mid (2 * i)] ++ p.transportLines ++ extensionLines ++
  [const "a=rtcp-mux", const "a=rtcp-rsize", const "a=rtpmap:100 opus/48000/2",
    const "a=rtcp-fb:100 transport-cc", const "a=rtcp-fb:100 nack",
    ssrc audioSsrc ("cname:".toList ++ audioName),
    ssrc audioSsrc ("msid:".toList ++ p.msid ++ " audio-".toList ++ decimal audioSsrc.toNat)]

/-- The section of a video consumer.  The function gets a copy of the consumer, and the mid
that it sets there is lost. -/
def videoVP8 (i : ℕ) (consumer : Consumer) (encoding : Encoding) : List SdpLine :=
  let videoSsrc1 := encoding.ssrc
  let videoSsrc2 := encoding.rtx.getD 0
  let videoName := consumer.rtpParameters.rtcp.cname
  other ("m=video ".toList ++ decimal p.port ++ " UDP/TLS/RTP/SAVPF 101 102".toList) ::
    p.transportLines ++ [mid (2 * i + 1)] ++ extensionLines ++
  [p.msidLine videoName, const "a=extmap-allow-mixed", const "a=rtcp-mux",
    const "a=rtcp-rsize", const "a=rtpmap:101 VP8/90000", const "a=rtcp-fb:101 transport-cc",
    const "a=rtcp-fb:101 ccm fir", const "a=rtcp-fb:101 nack", const "a=rtcp-fb:101 nack pli",
    const "a=rtpmap:102 rtx/90000", const "a=fmtp:102 apt=101", ssrcGroup videoSsrc1 videoSsrc2,
    ssrc videoSsrc1 ("cname:".toList ++ videoName),
    ssrc videoSsrc2 ("cname:".toList ++ videoName)]

end OfferSettings

/-! ### The offer -/

/-- The consumers of a remote user, in the order of iteration. -/
abbrev Remote := Text × List (Sigma fun _ : Letters => Consumer)

structure DownOffer where
  session : List SdpLine
  sections : List (List SdpLine)

namespace DownOffer

/-- The mids of the line `a=group:BUNDLE`. -/
def bundleMids (offer : DownOffer) : List ℕ := (offer.session.filterMap bundle?).flatten

/-- The values of the lines `a=mid`. -/
def sectionMids (offer : DownOffer) : List ℕ := offer.sections.flatten.filterMap mid?

end DownOffer

def Consumer.isAudio (consumer : Consumer) : Bool := consumer.kind = "audio".toList

variable (p : OfferSettings)

/-- One consumer of user number `i`: its section is added to those of the audio consumers, or
it replaces that of another video consumer. -/
def addSection (i : ℕ) (sections : List (List SdpLine) × List (List SdpLine))
    (consumer : Consumer) : Option (List (List SdpLine) × List (List SdpLine)) :=
  match consumer.rtpParameters.encodings with
  | [] => none
  | encoding :: _ =>
    if consumer.isAudio then some (sections.1 ++ [p.audio i consumer encoding], sections.2)
    else some (sections.1, [p.videoVP8 i consumer encoding])

/-- The loop over the users, from number `i` on. -/
def sectionsFrom : ℕ → List Remote → Option (List (List SdpLine))
  | _, [] => some []
  | i, remote :: remotes => do
    let (audio, video) ← remote.2.foldlM (fun sections entry => addSection p i sections entry.2)
      ([], [])
    let rest ← sectionsFrom (i + 1) remotes
    return audio ++ video ++ rest

def midSize (remotes : List Remote) : ℕ := (remotes.map fun remote => remote.2.length).sum

def generateDownOfferSdp (remotes : List Remote) : Option DownOffer := do
  let sections ← sectionsFrom p 0 remotes
  return {
    session :=
      [const "v=0", other ("o=- ".toList ++ decimal p.unixNano ++ " 2 IN IP4 127.0.0.1".toList),
        const "s=-", const "t=0 0", bundle (List.range (midSize remotes)),
        other ("a=msid-semantic: WMS ".toList ++ p.msid), const "a=ice-lite"]
    sections }

/-- What is left in the map of user number `i`: an audio consumer has a new mid. -/
def negotiated (i : ℕ) (consumer : Consumer) : Consumer :=
  if consumer.isAudio then
    { consumer with rtpParameters := { consumer.rtpParameters with mid := decimal (2 * i) } }
  else consumer

def negotiatedFrom : ℕ → List Remote → List Remote
  | _, [] => []
  | i, remote :: remotes =>
    (remote.1, remote.2.map fun entry => ⟨entry.1, negotiated i entry.2⟩) ::
      negotiatedFrom (i + 1) remotes

def negotiatedConsumers (remotes : List Remote)
    (consumers : AList fun _ : Text => AList fun _ : Letters => Consumer) :
    AList fun _ : Text => AList fun _ : Letters => Consumer :=
  (negotiatedFrom 0 remotes).foldl (fun consumers remote =>
    consumers.insert remote.1 (remote.2.foldl (fun inner entry => inner.insert entry.1 entry.2)
      ((consumers.lookup remote.1).getD ∅))) consumers

/-! ### The mids of the sections -/

def isAudioEntry (entry : Sigma fun _ : Letters => Consumer) : Bool := entry.2.isAudio

def isVideoEntry (entry : Sigma fun _ : Letters => Consumer) : Bool := !entry.2.isAudio

namespace Remote

def audioCount (remote : Remote) : ℕ := remote.2.countP isAudioEntry

def videoCount (remote : Remote) : ℕ := remote.2.countP isVideoEntry

/-- Each consumer has an encoding. -/
def Encoded (remote : Remote) : Prop :=
  ∀ entry ∈ remote.2, entry.2.rtpParameters.encodings ≠ []

/-- At most one audio and at most one video consumer. -/
def OneOfEach (remote : Remote) : Prop := remote.audioCount ≤ 1 ∧ remote.videoCount ≤ 1

theorem length_eq (remote : Remote) : remote.2.length = remote.audioCount + remote.videoCount := by
  rw [length_eq_countP_add_countP isAudioEntry, audioCount, videoCount]
  congr 2
  funext entry
  cases h : entry.2.isAudio
  · simp [isAudioEntry, isVideoEntry, h]
  · simp [isAudioEntry, isVideoEntry, h]

end Remote

def midsOf (sections : List (List SdpLine)) : List ℕ := sections.flatten.filterMap mid?

/-- The mids of the sections of user number `i`. -/
def userMids (i : ℕ) (remote : Remote) : List ℕ :=
  List.replicate remote.audioCount (2 * i) ++ if remote.videoCount ≠ 0 then [2 * i + 1] else []

def midsFrom : ℕ → List Remote → List ℕ
  | _, [] => []
  | i, remote :: remotes => userMids i remote ++ midsFrom (i + 1) remotes

variable {p}

theorem midsOf_append (sections sections' : List (List SdpLine)) :
    midsOf (sections ++ sections') = midsOf sections ++ midsOf sections' := by
  rw [midsOf, flatten_append, filterMap_append]
  rfl

theorem midsOf_audio (i : ℕ) (consumer : Consumer) (encoding : Encoding) :
    midsOf [p.audio i consumer encoding] = [2 * i] := rfl

theorem midsOf_videoVP8 (i : ℕ) (consumer : Consumer) (encoding : Encoding) :
    midsOf [p.videoVP8 i consumer encoding] = [2 * i + 1] := rfl

theorem foldlM_addSection (i : ℕ) (entries : List (Sigma fun _ : Letters => Consumer))
    (hencoded : ∀ entry ∈ entries, entry.2.rtpParameters.encodings ≠ [])
    (sections : List (List SdpLine) × List (List SdpLine)) : ∃ audio video,
      entries.foldlM (fun sections entry => addSection p i sections entry.2) sections =
        some (audio, video) ∧ midsOf audio = midsOf sections.1 ++
        List.replicate (entries.countP isAudioEntry) (2 * i) ∧
      midsOf video = if entries.countP isVideoEntry ≠ 0 then [2 * i + 1]
        else midsOf sections.2 := by
  induction entries generalizing sections with
  | nil => exact ⟨sections.1, sections.2, rfl, by simp, by simp⟩
  | cons entry entries ih =>
    obtain ⟨encoding, rest, hencoding⟩ :=
      exists_cons_of_ne_nil (hencoded entry mem_cons_self)
    have hrest := fun e he => hencoded e (mem_cons_of_mem entry he)
    -- audio sections pile up; a video section replaces the one before
    by_cases haudio : entry.2.isAudio
    · obtain ⟨audio, video, hfold, hmids, hvideo⟩ :=
        ih hrest (sections.1 ++ [p.audio i entry.2 encoding], sections.2)
      refine ⟨audio, video, ?_, ?_, ?_⟩
      · rw [foldlM_cons, addSection, hencoding]
        simpa [haudio] using hfold
      · rw [hmids, midsOf_append, midsOf_audio, countP_cons_of_pos (p := isAudioEntry) haudio,
          replicate_succ, append_assoc, singleton_append]
      · rw [hvideo, countP_cons_of_neg (p := isVideoEntry) (by simpa [isVideoEntry] using haudio)]
    · obtain ⟨audio, video, hfold, hmids, hvideo⟩ :=
        ih hrest (sections.1, [p.videoVP8 i entry.2 encoding])
      refine ⟨audio, video, ?_, ?_, ?_⟩
      · rw [foldlM_cons, addSection, hencoding]
        simpa [haudio] using hfold
      · rw [hmids, countP_cons_of_neg (p := isAudioEntry) haudio]
      · rw [hvideo, midsOf_videoVP8,
          countP_cons_of_pos (p := isVideoEntry) (by simpa [isVideoEntry] using haudio),
          if_pos (Nat.succ_ne_zero _), ite_self]

theorem foldlM_addSection_none (i : ℕ) (entries : List (Sigma fun _ : Letters => Consumer))
    (h : ∃ entry ∈ entries, entry.2.rtpParameters.encodings = [])
    (sections : List (List SdpLine) × List (List SdpLine)) :
    entries.foldlM (fun sections entry => addSection p i sections entry.2) sections = none := by
  induction entries generalizing sections with
  | nil =>
    obtain ⟨entry, hentry, -⟩ := h
    cases hentry
  | cons entry entries ih =>
    rw [foldlM_cons, addSection]
    obtain ⟨e, he, hnil⟩ := h
    rcases mem_cons.mp he with rfl | he
    · rw [hnil]
      rfl
    cases entry.2.rtpParameters.encodings with
    | nil => rfl
    | cons encoding rest =>
      have hlater := fun sections => ih ⟨e, he, hnil⟩ sections
      by_cases haudio : entry.2.isAudio
      · simpa [haudio] using hlater _
      · simpa [haudio] using hlater _

theorem sectionsFrom_of_encoded (i : ℕ) (remotes : List Remote)
    (h : ∀ remote ∈ remotes, remote.Encoded) :
    ∃ sections, sectionsFrom p i remotes = some sections ∧
      midsOf sections = midsFrom i remotes := by
  induction remotes generalizing i with
  | nil => exact ⟨[], rfl, rfl⟩
  | cons remote remotes ih =>
    obtain ⟨audio, video, hfold, hmids, hvideo⟩ :=
      foldlM_addSection i remote.2 (h remote mem_cons_self) ([], [])
    obtain ⟨sections, hsections, hrest⟩ :=
      ih (i + 1) fun r hr => h r (mem_cons_of_mem remote hr)
    refine ⟨audio ++ video ++ sections, ?_, ?_⟩
    · rw [sectionsFrom, hfold, hsections]
      rfl
    · rw [midsOf_append, midsOf_append, hmids, hvideo, hrest]
      rfl

variable {i : ℕ} {remotes : List Remote}

theorem encoded_of_sectionsFrom {sections : List (List SdpLine)}
    (h : sectionsFrom p i remotes = some sections) : ∀ remote ∈ remotes, remote.Encoded := by
  induction remotes generalizing i sections with
  | nil => exact fun _ hmem => by cases hmem
  | cons remote remotes ih =>
    rw [sectionsFrom] at h
    obtain ⟨both, hfold, hrest⟩ := bind_eq_some_iff.mp h
    obtain ⟨rest, hsections, -⟩ := bind_eq_some_iff.mp hrest
    intro r hr
    rcases mem_cons.mp hr with rfl | hr
    · intro entry hentry hnil
      rw [foldlM_addSection_none i r.2 ⟨entry, hentry, hnil⟩] at hfold
      cases hfold
    · exact ih hsections r hr

/-! ### The line `a=group:BUNDLE` -/

/-- In the order of iteration, users with an audio and a video consumer come first, then at
most one with an audio consumer only, then users without consumers. -/
def Paired : List Remote → Prop
  | [] => True
  | remote :: remotes =>
    remote.audioCount = 1 ∧ remote.videoCount = 1 ∧ Paired remotes ∨
      remote.videoCount = 0 ∧ ∀ later ∈ remotes, later.2 = []

theorem le_of_mem_midsFrom {n : ℕ} (h : n ∈ midsFrom i remotes) : 2 * i ≤ n := by
  induction remotes generalizing i with
  | nil => cases h
  | cons remote remotes ih =>
    rcases mem_append.mp h with huser | hlater
    · rcases mem_append.mp huser with haudio | hvideo
      · rw [eq_of_mem_replicate haudio]
      split_ifs at hvideo with hcount
      · rw [mem_singleton.mp hvideo]
        omega
      · cases hvideo
    · have := ih hlater
      omega

theorem midSize_cons (remote : Remote) :
    midSize (remote :: remotes) = remote.audioCount + remote.videoCount + midSize remotes := by
  rw [midSize, map_cons, sum_cons, remote.length_eq]
  rfl

theorem midSize_eq_zero : midSize remotes = 0 ↔ ∀ remote ∈ remotes, remote.2 = [] := by
  induction remotes with
  | nil => simp [midSize]
  | cons remote remotes ih =>
    rw [midSize, map_cons, sum_cons, Nat.add_eq_zero_iff, length_eq_zero_iff,
      forall_mem_cons, ← ih]
    rfl

theorem range'_perm_midsFrom_of_gap {start : ℕ} (hgap : start < 2 * i) {size : ℕ} :
    (List.range' start size).Perm (midsFrom i remotes) ↔ size = 0 ∧ midsFrom i remotes = [] := by
  constructor
  · intro hperm
    have hzero : size = 0 := by
      by_contra hpos
      have hmem := hperm.mem_iff.mp (mem_range'_1.mpr ⟨Nat.le_refl start, by omega⟩)
      have := le_of_mem_midsFrom hmem
      omega
    subst hzero
    exact ⟨rfl, nil_perm.mp hperm⟩
  · rintro ⟨rfl, hnil⟩
    rw [hnil]
    exact List.Perm.refl _

theorem length_midsFrom {i : ℕ} {remotes : List Remote} (h : ∀ remote ∈ remotes, remote.OneOfEach) :
    (midsFrom i remotes).length = midSize remotes := by
  induction remotes generalizing i with
  | nil => rfl
  | cons remote remotes ih =>
    have hone := (h remote mem_cons_self).2
    rw [midsFrom, length_append, ih fun r hr => h r (mem_cons_of_mem _ hr),
      midSize_cons, userMids, length_append, length_replicate]
    split_ifs with hvideo
    · rw [length_singleton]
      omega
    · rw [length_nil]
      omega

/-- **The mids are consecutive** exactly if the users are paired. -/
theorem range'_perm_midsFrom_iff {i : ℕ} {remotes : List Remote}
    (h : ∀ remote ∈ remotes, remote.OneOfEach) :
    (List.range' (2 * i) (midSize remotes)).Perm (midsFrom i remotes) ↔ Paired remotes := by
  induction remotes generalizing i with
  | nil => exact iff_of_true (List.Perm.refl _) trivial
  | cons remote remotes ih =>
    have hrest := fun r hr => h r (mem_cons_of_mem remote hr)
    have hlen := @length_midsFrom (i + 1) remotes hrest
    obtain ⟨haudio, hvideo⟩ := h remote mem_cons_self
    have hgap : ∀ start, start < 2 * (i + 1) →
        ((List.range' start (midSize remotes)).Perm (midsFrom (i + 1) remotes) ↔
          ∀ later ∈ remotes, later.2 = []) := by
      intro start hstart
      rw [range'_perm_midsFrom_of_gap hstart, ← midSize_eq_zero]
      refine ⟨And.left, fun hzero => ⟨hzero, ?_⟩⟩
      exact length_eq_zero_iff.mp (hlen.trans hzero)
    rw [midSize_cons, midsFrom, userMids, Paired]
    by_cases ha : remote.audioCount = 0
    · by_cases hv : remote.videoCount = 0
      · -- nothing of this user
        rw [ha, hv, replicate_zero, if_neg (not_not.mpr rfl), Nat.zero_add,
          nil_append, nil_append, hgap _ (by omega)]
        simp
      · -- the mid of its audio section is missing
        have hone : remote.videoCount = 1 := by omega
        rw [ha, hone, replicate_zero, if_pos Nat.one_ne_zero, nil_append]
        refine iff_of_false (fun hperm => ?_) (by simp)
        have hmem := hperm.mem_iff.mp (mem_range'_1.mpr ⟨Nat.le_refl (2 * i), by omega⟩)
        rcases mem_cons.mp hmem with heq | hlater
        · omega
        · have := le_of_mem_midsFrom hlater
          omega
    · have hone : remote.audioCount = 1 := by omega
      by_cases hv : remote.videoCount = 0
      · -- no other section may follow
        rw [hone, hv, if_neg (not_not.mpr rfl), Nat.add_zero, Nat.add_comm 1, List.range'_succ,
          append_nil, replicate_one, singleton_append, perm_cons,
          hgap _ (by omega)]
        simp
      · have hboth : remote.videoCount = 1 := by omega
        rw [hone, hboth, if_pos Nat.one_ne_zero, show 1 + 1 + midSize remotes =
          midSize remotes + 1 + 1 by omega, List.range'_succ, List.range'_succ,
          replicate_one]
        show (2 * i :: (2 * i + 1) :: List.range' (2 * (i + 1)) _).Perm
          (2 * i :: (2 * i + 1) :: midsFrom (i + 1) remotes) ↔ _
        rw [perm_cons, perm_cons, ih hrest]
        simp

/-- **The BUNDLE line** has the mids of the sections, in some order and without repetition,
exactly if the users are paired in the order of iteration.  Every consumer needs an
encoding for there to be an offer. -/
theorem bundle_matches_iff (p : OfferSettings) (remotes : List Remote)
    (hkinds : ∀ remote ∈ remotes, remote.OneOfEach) :
    (∃ offer, generateDownOfferSdp p remotes = some offer ∧
      offer.bundleMids.Perm offer.sectionMids ∧ offer.sectionMids.Nodup) ↔
      (∀ remote ∈ remotes, remote.Encoded) ∧ Paired remotes := by
  -- the sections' mids depend on the remotes only
  have hmids : ∀ sections, sectionsFrom p 0 remotes = some sections →
      midsOf sections = midsFrom 0 remotes := by
    intro sections hsections
    obtain ⟨sections', hsections', hmids⟩ :=
      @sectionsFrom_of_encoded p 0 remotes (encoded_of_sectionsFrom hsections)
    rwa [← Option.some.inj (hsections'.symm.trans hsections)]
  constructor
  · rintro ⟨offer, hoffer, hperm, -⟩
    obtain ⟨sections, hsections, hpure⟩ := bind_eq_some_iff.mp hoffer
    refine ⟨encoded_of_sectionsFrom hsections, ?_⟩
    obtain rfl := Option.some.inj hpure
    rw [← @range'_perm_midsFrom_iff 0 remotes hkinds, ← hmids sections hsections,
      Nat.mul_zero, ← range_eq_range']
    have hbundle : (List.range (midSize remotes) ++ []).Perm (midsOf sections) := hperm
    rwa [append_nil] at hbundle
  · rintro ⟨hencoded, hpaired⟩
    obtain ⟨sections, hsections, hmids'⟩ := @sectionsFrom_of_encoded p 0 remotes hencoded
    have hperm : (List.range (midSize remotes)).Perm (midsOf sections) := by
      rw [hmids', range_eq_range', ← Nat.mul_zero 2, range'_perm_midsFrom_iff hkinds]
      exact hpaired
    refine ⟨_, by rw [generateDownOfferSdp, hsections]; rfl, ?_, ?_⟩
    · show (List.range (midSize remotes) ++ []).Perm (midsOf sections)
      rwa [append_nil]
    · exact hperm.nodup_iff.mp nodup_range

def plainConsumer (kind : String) (ssrc : UInt32) : Consumer where
  producerId := TextOver.unset
  type := "simple".toList
  consumerId := TextOver.unset
  kind := kind.toList
  rtpParameters :=
    { mid := "1".toList, codecs := [], headerExtensions := [], encodings := [{ ssrc }]
      rtcp := { cname := kind.toList, reducedSize := true } }
  consumableRtpEncodings := []

def pairedRemote : Remote :=
  ("a".toList, [⟨TextOver.unset, plainConsumer "audio" 1⟩,
    ⟨TextOver.unset, plainConsumer "video" 2⟩])

def plainSettings : OfferSettings :=
  { algorithmName := "sha-256".toList, algorithmValue := "AA".toList, iceUfrag := "u".toList
    icePwd := "p".toList, msid := "m".toList, ip := "127.0.0.1".toList, port := 44445
    unixNano := 1 }

instance (remote : Remote) : Decidable remote.OneOfEach := inferInstanceAs (Decidable (_ ∧ _))

instance (remote : Remote) : Decidable remote.Encoded :=
  inferInstanceAs (Decidable (∀ entry ∈ remote.2, _))

/-- A user with an audio consumer may be the last one. -/
theorem bundle_matches_two :
    ∃ offer, generateDownOfferSdp plainSettings
        [pairedRemote, ("b".toList, [⟨TextOver.unset, plainConsumer "audio" 3⟩])] = some offer ∧
      offer.bundleMids.Perm offer.sectionMids ∧ offer.sectionMids.Nodup := by
  refine (bundle_matches_iff plainSettings _ (by decide)).mpr ⟨by decide, ?_⟩
  refine .inl ⟨by decide, by decide, .inr ⟨by decide, fun later hlater => ?_⟩⟩
  cases hlater

/-- The first user has no consumers yet. -/
theorem bundle_misses_user :
    (∀ remote ∈ [("b".toList, []), pairedRemote], Remote.OneOfEach remote) ∧
    ∃ offer, generateDownOfferSdp plainSettings [("b".toList, []), pairedRemote] = some offer ∧
      offer.bundleMids = [0, 1] ∧ offer.sectionMids = [2, 3] ∧
      ¬offer.bundleMids.Perm offer.sectionMids :=
  ⟨by decide, _, rfl, rfl, rfl, by decide⟩

end Mediasoup.Signaling
