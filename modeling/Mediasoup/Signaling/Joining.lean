/-
What an up offer does to the rooms (`ProcessUpOfferSdp`).

* `Enters` — the user is stored in its room, which is created with its router and two
  observers if there is none,
* `Supplies` — the producers of the user are created, and the audio producer is added to an
  observer,
* `processUpOfferSdp_spec` — the whole handler, in these parts.
-/
import Mediasoup.Signaling.Subscriptions

namespace Mediasoup.Signaling

open List AList Json

/-- The requests for the transport of a new user. -/
def Request.Admits : Request → Prop
  | .createWebRtcTransportWithServer .. | .enableTraceEvent _ | .setMaxIncomingBitrate _
  | .connect .. => True
  | _ => False

/-- The requests that neither create an audio level observer nor concern its producers. -/
def Request.Aside : Request → Prop
  | .createAudioLevelObserver .. | .produce .. | .addProducer .. => False
  | _ => True

theorem Request.Admits.aside {request : Request} (h : request.Admits) : request.Aside := by
  cases request <;> first | exact trivial | cases h

theorem Request.Renews.aside {roomId : Text} {request : Request} (h : request.Renews roomId) :
    request.Aside := by
  cases request <;> first | exact trivial | cases h

namespace Server

/-! ### The room -/

/-- The user has entered its room.  The ids of the observers are stored the wrong way round, so
that the second one is the audio level observer for the first user only. -/
structure Enters (s s₁ : Server) (conn : Conn) (offer : SdpRequest) (observerId : Letters) :
    Prop where
  self : s₁.user offer.roomId offer.userId = some { conn }
  others : ∀ r u, ¬(r = offer.roomId ∧ u = offer.userId) → s₁.profile r u = s.profile r u
  notices : s₁.notices = s.notices
  observers : ∀ r, r ≠ offer.roomId → s₁.observers r = s.observers r
  room : (∃ ids, s.observers offer.roomId = some ids ∧ s₁.observers offer.roomId = some ids ∧
      observerId = ids.2 ∧ s₁.requests = s.requests) ∨
    ∃ audioLevel activeSpeaker, s.observers offer.roomId = none ∧
      s₁.observers offer.roomId = some (audioLevel, activeSpeaker) ∧ observerId = audioLevel ∧
      s₁.requests = s.requests ++ [.createRouter offer.roomId,
        .createAudioLevelObserver offer.roomId audioLevel,
        .createActiveSpeakerObserver offer.roomId activeSpeaker]

variable (env : Env)

theorem enterRoom_enters (s : Server) (conn : Conn) (offer : SdpRequest) :
    ∃ observerId s₁, s.enterRoom env conn offer = (observerId, s₁) ∧
      Enters s s₁ conn offer observerId := by
  cases hroom : s.roomMap.lookup offer.roomId with
  | none =>
    have hobservers : s.observers offer.roomId = none := by
      rw [observers, hroom]
      rfl
    have hnobody : ∀ u, s.profile offer.roomId u = none := fun u => by
      rw [profile, user, hroom]
      rfl
    set audioLevel := env.randStringBytes s.choices
    set activeSpeaker := env.randStringBytes (s.choices + 1)
    set room : Room :=
      { activeSpeakerObserverId := audioLevel, audioLevelObserverId := activeSpeaker
        userIdUserMap := AList.singleton offer.userId { conn } }
    -- a new room: three requests, and the user is its only one
    obtain ⟨s₁, hs₁, hmap, hnotices, hrequests⟩ : ∃ s₁, s.enterRoom env conn offer =
        (audioLevel, s₁) ∧ s₁.roomMap = s.roomMap.insert offer.roomId room ∧
        s₁.notices = s.notices ∧ s₁.requests = s.requests ++ [.createRouter offer.roomId,
          .createAudioLevelObserver offer.roomId audioLevel,
          .createActiveSpeakerObserver offer.roomId activeSpeaker] := by
      rw [enterRoom, hroom]
      refine ⟨_, rfl, rfl, rfl, ?_⟩
      show List.map Prod.snd (((s.sent ++ [_]) ++ [_]) ++ [_]) = _
      rw [append_assoc, append_assoc, map_append]
      rfl
    refine ⟨audioLevel, s₁, hs₁, ?_, fun r u hid => ?_, hnotices, fun r hr => ?_,
      Or.inr ⟨audioLevel, activeSpeaker, hobservers, ?_, rfl, hrequests⟩⟩
    · rw [user_insert hmap, if_pos rfl]
      exact dlookup_cons_eq _ _ _
    · rw [profile, user_insert hmap]
      by_cases hr : r = offer.roomId
      · have hu : u ≠ offer.userId := fun hu => hid ⟨hr, hu⟩
        rw [if_pos hr, hr, hnobody]
        have hnone : room.userIdUserMap.lookup u = none := dlookup_cons_ne [] _ hu
        rw [hnone]
        rfl
      · rw [if_neg hr]
        rfl
    · rw [observers, hmap, lookup_insert_ne hr]
      rfl
    · rw [observers, hmap, lookup_insert]
      rfl
  | some room =>
    have hobservers : s.observers offer.roomId = some room.observers := by
      rw [observers, hroom]
      rfl
    have hmem : offer.roomId ∈ s.roomMap := lookup_isSome.mp (by rw [hroom]; rfl)
    have huser := user_storeUser hmem offer.userId { conn }
    have hids := observers_storeUser s offer.roomId offer.userId { conn }
    rw [enterRoom, hroom]
    refine ⟨_, _, rfl, (huser _ _).trans (if_pos ⟨rfl, rfl⟩), fun r u hid => ?_, ?_,
      fun r _ => hids r, .inl ⟨room.observers, hobservers, (hids _).trans hobservers, rfl, ?_⟩⟩
    · rw [profile, huser, if_neg hid]
      rfl
    · rw [storeUser, hroom]
    · rw [storeUser, hroom]
      rfl

/-! ### The transport -/

theorem createProducerTransport_keeps {s : Server} {conn : Conn} {offer : SdpRequest}
    (huser : s.user offer.roomId offer.userId = some { conn }) :
    ∃ producer s', s.createProducerTransport env offer = (producer, s') ∧
      producer.producers = ∅ ∧ Keeps Request.Admits s s' := by
  have hcreate : Keeps Request.Admits s (s.createTransport env offer.roomId).2 :=
    (Keeps.choose s (Nat.le_add_right _ 3)).trans (Keeps.write _ trivial)
  refine ⟨_, _, rfl, rfl, (hcreate.trans (Keeps.modifyUser _ fun user huser' => ?_)).trans
    (Keeps.writeAll _ (by simp [Request.Admits]))⟩
  obtain rfl : { conn } = user := Option.some.inj (huser.symm.trans huser')
  rfl

/-! ### The producers -/

theorem parseUpOfferSDP_spec (sscanf : Text → UInt32) (ssrc : UInt32) (sdp : Text) :
    (parseUpOfferSDP sscanf ssrc sdp).1.kind = "audio".toList ∧
      (parseUpOfferSDP sscanf ssrc sdp).1.rtpParameters.encodings ≠ [] ∧
      (parseUpOfferSDP sscanf ssrc sdp).2.kind = "video".toList ∧
      (parseUpOfferSDP sscanf ssrc sdp).2.rtpParameters.encodings ≠ [] := by
  refine ⟨rfl, cons_ne_nil _ _, ?_⟩
  rw [parseUpOfferSDP]
  split_ifs
  · exact ⟨rfl, cons_ne_nil _ _⟩
  · exact ⟨rfl, cons_ne_nil _ _⟩

/-- The producers of the user are created. -/
structure Supplies (s s' : Server) (offer : SdpRequest) (observerId : Letters) : Prop where
  self : ∃ old profile, s.profile offer.roomId offer.userId = some old ∧
    s'.profile offer.roomId offer.userId = some profile ∧ profile.conn = old.conn ∧
    ∀ producerId outline, profile.producers producerId = some outline → outline.2 = false
  others : ∀ r u, ¬(r = offer.roomId ∧ u = offer.userId) → s'.profile r u = s.profile r u
  observers : ∀ r, s'.observers r = s.observers r
  requests : ∃ transportId audio video, audio.kind = "audio".toList ∧
    video.kind = "video".toList ∧ s'.requests = s.requests ++ [.produce transportId audio,
      .addProducer observerId audio.producerId, .produce transportId video]

theorem produce_supplies {s : Server} {conn : Conn} {offer : SdpRequest} (observerId : Letters)
    {producer : ProducerTransport} (hempty : producer.producers = ∅) {user : User}
    (huser : s.user offer.roomId offer.userId = some user) :
    Supplies s (s.produce env conn offer observerId producer) offer observerId := by
  set ssrc := env.generateSsrc s.choices
  obtain ⟨haudio, hencoded, hvideo, hencoded'⟩ := parseUpOfferSDP_spec env.sscanf ssrc offer.sdp
  set audio : MediaParameters := { (parseUpOfferSDP env.sscanf ssrc offer.sdp).1 with
    producerId := env.randStringBytes (s.choices + 1) } with haudioDef
  set video : MediaParameters := { (parseUpOfferSDP env.sscanf ssrc offer.sdp).2 with
    producerId := env.randStringBytes (s.choices + 1 + 1) } with hvideoDef
  set stocked : ProducerTransport := { producer with
    producers := (producer.producers.insert audio.producerId audio).insert video.producerId video }
    with hstocked
  set s₁ : Server := { s with choices := s.choices + 1 + 1 + 1 }
  have hstep : s.produce env conn offer observerId producer =
      ((s₁.modifyUser offer.roomId offer.userId
        fun user => { user with producer := stocked }).writeAll
        [.produce producer.transportId audio, .addProducer observerId audio.producerId,
          .produce producer.transportId video]).notify (.answer conn stocked offer.sdp) := rfl
  have hprofile : ∀ r u, (s.produce env conn offer observerId producer).profile r u =
      (s₁.modifyUser offer.roomId offer.userId
        fun user => { user with producer := stocked }).profile r u := fun r u => by
    rw [hstep, Server.profile, Server.profile]
    exact congrArg (Option.map User.profile) (congrFun₂ (user_congr (roomMap_writeAll _ _)) r u)
  refine ⟨⟨user.profile, ({ user with producer := stocked } : User).profile,
    profile_of_user huser, ?_, rfl, fun producerId outline houtline => ?_⟩, fun r u hid => ?_,
    fun r => ?_, producer.transportId, audio, video, haudio, hvideo, ?_⟩
  · rw [hprofile, profile_modifyUser, if_pos ⟨rfl, rfl⟩]
    exact congrArg (Option.map _) huser
  · -- only these two producers are stored
    obtain ⟨params, hparams, rfl⟩ := Option.map_eq_some_iff.mp houtline
    have hlookup : ((producer.producers.insert audio.producerId audio).insert video.producerId
        video).lookup producerId = some params := hparams
    rw [hempty] at hlookup
    by_cases hid : producerId = video.producerId
    · rw [hid, lookup_insert] at hlookup
      obtain rfl := Option.some.inj hlookup
      exact isEmpty_eq_false_iff.mpr hencoded'
    · rw [lookup_insert_ne hid] at hlookup
      by_cases hid' : producerId = audio.producerId
      · rw [hid', lookup_insert] at hlookup
        obtain rfl := Option.some.inj hlookup
        exact isEmpty_eq_false_iff.mpr hencoded
      · rw [lookup_insert_ne hid'] at hlookup
        cases hlookup
  · rw [hprofile, profile_modifyUser, if_neg hid]
    rfl
  · rw [hstep, Server.observers]
    show Option.map _ (AList.lookup r (Server.roomMap (writeAll _ _))) = _
    rw [roomMap_writeAll]
    exact observers_modifyUser s₁ offer.roomId offer.userId _ r
  · rw [hstep]
    show Server.requests (writeAll _ _) = _
    rw [requests_writeAll, requests_modifyUser]
    rfl

/-! ### The handler -/

/-- **An up offer.**  After the user has entered its room and has a transport, either the SDP has
a fingerprint with no space after its `sha-` and the handler panics, or the producers are
created and the room gets new offers.  An SDP without such a line gives two empty texts. -/
theorem processUpOfferSdp_spec (s : Server) (conn : Conn) (offer : SdpRequest) :
    ∃ observerId s₁ s₂, Enters s s₁ conn offer observerId ∧ Keeps Request.Admits s₁ s₂ ∧
      (getFingerNameContent offer.sdp = none ∧ s.processUpOfferSdp env conn offer = .error s₂ ∨
        getFingerNameContent offer.sdp ≠ none ∧ ∃ s₃, Supplies s₂ s₃ offer observerId ∧
          s.processUpOfferSdp env conn offer = .ok (s₃.processDownOfferSdp env offer.roomId)) := by
  obtain ⟨observerId, s₁, henter, henters⟩ := enterRoom_enters env s conn offer
  obtain ⟨producer, s₂, hcreate, hempty, hkeeps⟩ :=
    createProducerTransport_keeps env henters.self
  obtain ⟨user, huser, -⟩ := Option.map_eq_some_iff.mp
    ((hkeeps.profiles _ _).trans (profile_of_user henters.self))
  rw [processUpOfferSdp]
  simp only [henter, hcreate]
  cases hfinger : getFingerNameContent offer.sdp with
  | none => exact ⟨observerId, s₁, s₂, henters, hkeeps, .inl ⟨rfl, rfl⟩⟩
  | some finger =>
    have hconnect : Keeps Request.Admits s₂
        (s₂.write (.connect producer.transportId finger.1 finger.2 "auto".toList)) :=
      Keeps.write s₂ trivial
    exact ⟨observerId, s₁, _, henters, hkeeps.trans hconnect, .inr ⟨by simp, _,
      produce_supplies env observerId hempty huser, rfl⟩⟩

end Server

end Mediasoup.Signaling
