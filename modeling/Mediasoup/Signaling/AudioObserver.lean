/-
The observer that an audio producer is added to (`ProcessUpOfferSdp`).

The user that creates a room adds its audio producer to the audio level observer.  The ids of
the room's two observers are stored the wrong way round, and the users that come later use
what is stored.

* `Observed` — in every state that is reached, the audio level observer of a room is stored as
  its active speaker observer,
* `run_addsAudio_iff` — an audio producer is added to the audio level observer exactly if its
  user creates the room.
-/
import Mediasoup.Signaling.Departure

namespace Mediasoup.Signaling

open List Json

def createdAudioLevel (routerId : Text) : Request → Option Letters
  | .createAudioLevelObserver id rtpObserverId => if id = routerId then some rtpObserverId else none
  | _ => none

/-- The audio level observer that was created for the router of this name, the last one if the
router was closed and created again. -/
def audioLevelObserver (requests : List Request) (routerId : Text) : Option Letters :=
  (requests.filterMap (createdAudioLevel routerId)).getLast?

variable {routerId : Text}

theorem createdAudioLevel_aside {request : Request} (h : request.Aside) :
    createdAudioLevel routerId request = none := by
  cases request with
  | createAudioLevelObserver => cases h
  | _ => rfl

theorem audioLevelObserver_append (requests : List Request) {more : List Request}
    (h : ∀ request ∈ more, request.Aside) :
    audioLevelObserver (requests ++ more) routerId = audioLevelObserver requests routerId := by
  have hnone : more.filterMap (createdAudioLevel routerId) = [] :=
    filterMap_eq_nil_iff.mpr fun request hrequest =>
      createdAudioLevel_aside (h request hrequest)
  rw [audioLevelObserver, filterMap_append, hnone, append_nil]
  rfl

theorem audioLevelObserver_create (requests : List Request) (roomId routerId : Text)
    (audioLevel activeSpeaker : Letters) : audioLevelObserver (requests ++ [.createRouter roomId,
        .createAudioLevelObserver roomId audioLevel,
        .createActiveSpeakerObserver roomId activeSpeaker]) routerId =
      if roomId = routerId then some audioLevel else audioLevelObserver requests routerId := by
  rw [audioLevelObserver, filterMap_append]
  by_cases hid : roomId = routerId
  · rw [if_pos hid]
    have hnew : [Request.createRouter roomId, .createAudioLevelObserver roomId audioLevel,
        .createActiveSpeakerObserver roomId activeSpeaker].filterMap
          (createdAudioLevel routerId) = [audioLevel] := by
      simp [filterMap_cons, createdAudioLevel, hid]
    rw [hnew, List.getLast?_concat]
  · rw [if_neg hid]
    have hnone : [Request.createRouter roomId, .createAudioLevelObserver roomId audioLevel,
        .createActiveSpeakerObserver roomId activeSpeaker].filterMap
          (createdAudioLevel routerId) = [] := by
      simp [filterMap_cons, createdAudioLevel, hid]
    rw [hnone, append_nil]
    rfl

/-- A request that creates a producer or adds it to an observer. -/
def Request.supplies : Request → Prop
  | .produce .. | .addProducer .. => True
  | _ => False

theorem Request.Aside.not_supplies {request : Request} (h : request.Aside) : ¬request.supplies := by
  cases request with
  | produce | addProducer => cases h
  | _ => exact fun hsupplies => hsupplies

namespace Server

/-! ### What is stored for a room -/

/-- The audio level observer of a room is stored as its active speaker observer. -/
def Observed (s : Server) : Prop :=
  ∀ roomId ids, s.observers roomId = some ids →
    audioLevelObserver s.requests roomId = some ids.1

variable {s : Server}

theorem Observed.aside {s' : Server} (h : s.Observed)
    (hrequests : ∃ more, s'.requests = s.requests ++ more ∧ ∀ request ∈ more, request.Aside)
    (hobservers : ∀ r ids, s'.observers r = some ids → s.observers r = some ids) : s'.Observed := by
  intro roomId ids hids
  obtain ⟨more, hmore, haside⟩ := hrequests
  rw [hmore, audioLevelObserver_append _ haside]
  exact h roomId ids (hobservers roomId ids hids)

variable {conn : Conn} {offer : SdpRequest}

theorem Enters.observed {s₁ : Server} {observerId : Letters}
    (h : Enters s s₁ conn offer observerId) (hobserved : s.Observed) : s₁.Observed := by
  intro roomId ids hids
  rcases h.room with ⟨old, hold, hsame, -, hrequests⟩ |
      ⟨audioLevel, activeSpeaker, hnone, hnew, -, hrequests⟩
  · rw [hrequests]
    refine hobserved roomId ids ?_
    by_cases hid : roomId = offer.roomId
    · rwa [hid, hold, ← hsame, ← hid]
    · rwa [← h.observers roomId hid]
  · rw [hrequests, audioLevelObserver_create]
    split_ifs with hid
    · rw [← hid, hnew] at hids
      exact congrArg (fun ids => some ids.1) (Option.some.inj hids)
    · exact hobserved roomId ids ((h.observers roomId fun heq => hid heq.symm).symm.trans hids)

theorem Enters.written {s₁ : Server} {observerId : Letters}
    (h : Enters s s₁ conn offer observerId) : ∃ entered, s₁.requests = s.requests ++ entered ∧
      ∀ request ∈ entered, ¬Request.supplies request := by
  rcases h.room with ⟨-, -, -, -, hrequests⟩ | ⟨audioLevel, activeSpeaker, -, -, -, hrequests⟩
  · exact ⟨[], by rw [hrequests, append_nil], by simp⟩
  · exact ⟨_, hrequests, by simp [Request.supplies]⟩

variable (env : Env)

theorem clearUserInfo_aside (hencoded : s.Encoded) :
    (∃ more, (s.clearUserInfo env conn).requests = s.requests ++ more ∧
      ∀ request ∈ more, request.Aside) ∧
    ∀ r ids, (s.clearUserInfo env conn).observers r = some ids → s.observers r = some ids := by
  obtain ⟨s₁, h⟩ := clearUserInfo_cleared env conn hencoded
  obtain ⟨more, hmore, hcloses⟩ := h.closed
  obtain ⟨more', hmore', hrenews⟩ := h.serves.requests
  refine ⟨⟨more ++ more', ?_, fun request hrequest => ?_⟩, fun r ids hids => ?_⟩
  · rw [hmore', hmore, append_assoc]
  · rcases mem_append.mp hrequest with hrequest | hrequest
    · exact (hcloses request hrequest).aside
    · exact (hrenews request hrequest).aside
  · rw [h.serves.observers] at hids
    exact h.observers r ids hids

theorem upOffer_parts (hencoded : s.Encoded) :
    ∃ observerId s₁ before more, Enters s s₁ conn offer observerId ∧
      (∀ request ∈ before, request.Aside) ∧
      (∀ r ids, (step env s (.upOffer conn offer)).observers r = some ids →
        s₁.observers r = some ids) ∧
      (step env s (.upOffer conn offer)).requests = s₁.requests ++ before ++ more ∧
      (getFingerNameContent offer.sdp = none ∧ more = [] ∨
        getFingerNameContent offer.sdp ≠ none ∧ ∃ transportId audio video after,
          audio.kind = "audio".toList ∧ video.kind = "video".toList ∧
          (∀ request ∈ after, request.Aside) ∧
          more = [.produce transportId audio, .addProducer observerId audio.producerId,
            .produce transportId video] ++ after) := by
  obtain ⟨observerId, s₁, s₂, henters, hkeeps, hrest⟩ := processUpOfferSdp_spec env s conn offer
  obtain ⟨before, hbefore, hadmits⟩ := hkeeps.requests
  have haside : ∀ request ∈ before, request.Aside := fun r hr => (hadmits r hr).aside
  rw [step]
  -- a missing fingerprint panics, and the recovery clears the connection
  rcases hrest with ⟨hfinger, hpanic⟩ | ⟨hfinger, s₃, hsupplies, hok⟩
  · obtain ⟨⟨cleared, hcleared, haside'⟩, hobservers⟩ := clearUserInfo_aside env
      (hkeeps.encoded (henters.encoded hencoded))
    refine ⟨observerId, s₁, before ++ cleared, [], henters, fun request hrequest => ?_,
      fun r ids hids => ?_, ?_, .inl ⟨hfinger, rfl⟩⟩
    · exact (mem_append.mp hrequest).elim (haside request) (haside' request)
    · rw [hpanic] at hids
      rw [← hkeeps.observers]
      exact hobservers r ids hids
    · rw [hpanic, append_nil, ← append_assoc, ← hbefore]
      exact hcleared
  · obtain ⟨transportId, audio, video, haudio, hvideo, hproduce⟩ := hsupplies.requests
    have hserves := processDownOfferSdp_serves env s₃ offer.roomId
    obtain ⟨after, hafter, hrenews⟩ := hserves.requests
    refine ⟨observerId, s₁, before, _, henters, haside, fun r ids hids => ?_, ?_,
      Or.inr ⟨hfinger, transportId, audio, video, after, haudio, hvideo,
        fun request hrequest => (hrenews request hrequest).aside, rfl⟩⟩
    · rw [hok] at hids
      rw [← hkeeps.observers, ← hsupplies.observers, ← hserves.observers]
      exact hids
    · rw [hok, ← hbefore, ← append_assoc, ← hproduce]
      exact hafter

theorem step_observed (hencoded : s.Encoded) (hobserved : s.Observed)
    (event : Event) : (step env s event).Observed := by
  cases event with
  | upOffer conn offer =>
    obtain ⟨observerId, s₁, before, more, henters, hbefore, hobservers, hrequests, hmore⟩ :=
      upOffer_parts env hencoded
    intro roomId ids hids
    have hone := henters.observed hobserved roomId ids (hobservers roomId ids hids)
    -- the producers come between requests of other kinds
    have hproduce : more.filterMap (createdAudioLevel roomId) = [] := by
      rcases hmore with ⟨-, rfl⟩ | ⟨-, transportId, audio, video, after, -, -, hafter, rfl⟩
      · rfl
      · rw [filterMap_append, filterMap_eq_nil_iff.mpr fun request hrequest =>
          createdAudioLevel_aside (hafter request hrequest)]
        rfl
    rw [hrequests, audioLevelObserver, filterMap_append, hproduce, append_nil]
    exact (audioLevelObserver_append _ hbefore).trans hone
  | downAnswer conn answer =>
    obtain ⟨s', hs', hkeeps⟩ := processDownAnswerSdp_keeps env s answer
    have hobserved' : s'.Observed := hobserved.aside hkeeps.requests fun r ids hids =>
      (hkeeps.observers r).symm.trans hids
    rw [step]
    rcases hs' with hok | hpanic
    · rw [hok]
      exact hobserved'
    · rw [hpanic]
      obtain ⟨hrequests, hobservers⟩ := clearUserInfo_aside env (hkeeps.encoded hencoded)
      exact hobserved'.aside hrequests hobservers
  | disconnect conn =>
    obtain ⟨hrequests, hobservers⟩ := clearUserInfo_aside env hencoded
    exact hobserved.aside hrequests hobservers

theorem run_observed (events : List Event) :
    (events.foldl (step env) {}).Encoded ∧ (events.foldl (step env) {}).Observed := by
  refine List.foldlRecOn (motive := fun s => s.Encoded ∧ s.Observed) events (step env)
    ⟨run_encoded env [], fun roomId ids hids => by cases hids⟩ fun s hs event _ => ?_
  exact ⟨step_encoded env hs.1 event, step_observed env hs.1 hs.2 event⟩

/-! ### Audio producers -/

/-- Each audio producer that was created since a state is added to the audio level observer of
the room, and to no other observer. -/
def AddsAudio (s s' : Server) (roomId : Text) : Prop :=
  ∀ transportId audio, .produce transportId audio ∈ writtenSince s s' →
    audio.kind = "audio".toList →
    (∃ observerId, .addProducer observerId audio.producerId ∈ writtenSince s s') ∧
    ∀ observerId, .addProducer observerId audio.producerId ∈ writtenSince s s' →
      audioLevelObserver s'.requests roomId = some observerId

theorem upOffer_written (hencoded : s.Encoded) :
    ∃ observerId s₁, Enters s s₁ conn offer observerId ∧
      audioLevelObserver (step env s (.upOffer conn offer)).requests offer.roomId =
        audioLevelObserver s₁.requests offer.roomId ∧
      (getFingerNameContent offer.sdp = none ∧ (∀ request : Request, request.supplies →
          request ∉ writtenSince s (step env s (.upOffer conn offer))) ∨
        getFingerNameContent offer.sdp ≠ none ∧ ∃ transportId audio video,
          audio.kind = "audio".toList ∧ video.kind = "video".toList ∧
          ∀ request : Request, request.supplies →
            (request ∈ writtenSince s (step env s (.upOffer conn offer)) ↔
              request ∈ [.produce transportId audio, .addProducer observerId audio.producerId,
                .produce transportId video])) := by
  obtain ⟨observerId, s₁, before, more, henters, hbefore, -, hrequests, hmore⟩ :=
    upOffer_parts env hencoded
  set s' := step env s (.upOffer conn offer)
  obtain ⟨entered, hentered, hnone⟩ := henters.written
  have hwritten : writtenSince s s' = (entered ++ before) ++ more := by
    rw [writtenSince, hrequests, hentered, append_assoc, append_assoc, drop_left,
      append_assoc]
  -- only the last part of what is written can supply a producer
  have hmem : ∀ request : Request, request.supplies →
      (request ∈ writtenSince s s' ↔ request ∈ more) := by
    intro request hsupplies
    rw [hwritten, mem_append, or_iff_right]
    intro hrequest
    rcases mem_append.mp hrequest with hrequest | hrequest
    · exact hnone request hrequest hsupplies
    · exact (hbefore request hrequest).not_supplies hsupplies
  refine ⟨observerId, s₁, henters, ?_, ?_⟩
  · rw [hrequests]
    rcases hmore with ⟨-, rfl⟩ | ⟨-, transportId, audio, video, after, -, -, hafter, rfl⟩
    · rw [append_nil, audioLevelObserver_append _ hbefore]
    rw [← append_assoc, audioLevelObserver_append _ hafter, audioLevelObserver,
      filterMap_append]
    exact (congrArg List.getLast? (append_nil _)).trans
      (audioLevelObserver_append _ hbefore)
  · rcases hmore with ⟨hfinger, rfl⟩ |
      ⟨hfinger, transportId, audio, video, after, haudio, hvideo, hafter, rfl⟩
    · exact .inl ⟨hfinger, fun request hsupplies hrequest =>
        not_mem_nil ((hmem request hsupplies).mp hrequest)⟩
    · refine .inr ⟨hfinger, transportId, audio, video, haudio, hvideo, fun request hsupplies => ?_⟩
      rw [hmem request hsupplies, mem_append, or_iff_left]
      exact fun hrequest => (hafter request hrequest).not_supplies hsupplies

/-- **Audio producers and the audio level observer.**  In every state that is reached, the audio
producer of the next up offer is added to the audio level observer of its room, and to no
other, exactly if there is no such room yet or its two observers have the same id.  There is
no producer at all if the handler panics on a fingerprint with no space after its `sha-`. -/
theorem run_addsAudio_iff (events : List Event) (conn : Conn) (offer : SdpRequest) :
    AddsAudio (events.foldl (step env) {})
        (step env (events.foldl (step env) {}) (.upOffer conn offer)) offer.roomId ↔
      getFingerNameContent offer.sdp = none ∨
        ∀ ids, (events.foldl (step env) {}).observers offer.roomId = some ids → ids.1 = ids.2 := by
  obtain ⟨hencoded, hobserved⟩ := run_observed env events
  set s := events.foldl (step env) {}
  obtain ⟨observerId, s₁, henters, hsame, hwritten⟩ := upOffer_written env hencoded
  set s' := step env s (.upOffer conn offer)
  rcases hwritten with ⟨hfinger, hnone⟩ | ⟨hfinger, transportId, audio, video, haudio, hvideo, hmem⟩
  · refine iff_of_true (fun transportId audio hproduce => ?_) (.inl hfinger)
    exact absurd hproduce (hnone _ trivial)
  have hproduce := fun transportId audio => hmem (.produce transportId audio) trivial
  have hadd := fun observerId producerId => hmem (.addProducer observerId producerId) trivial
  -- the one audio producer is added to one observer
  have hadds : AddsAudio s s' offer.roomId ↔
      audioLevelObserver s₁.requests offer.roomId = some observerId := by
    rw [← hsame]
    constructor
    · intro h
      exact (h transportId audio ((hproduce _ _).mpr (by simp)) haudio).2 observerId
        ((hadd _ _).mpr (by simp))
    · intro h transportId' audio' hcreated haudio'
      obtain rfl : audio' = audio := by
        have hproduce' := (hproduce _ _).mp hcreated
        simp only [mem_cons, Request.produce.injEq, reduceCtorEq, not_mem_nil,
          or_false, false_or] at hproduce'
        rcases hproduce' with ⟨-, heq⟩ | ⟨-, rfl⟩
        · exact heq
        · rw [hvideo] at haudio'
          exact absurd haudio' (by decide)
      refine ⟨⟨observerId, (hadd _ _).mpr (by simp)⟩, fun observerId' hadded => ?_⟩
      have hadd' := (hadd _ _).mp hadded
      simp only [mem_cons, Request.addProducer.injEq, reduceCtorEq, not_mem_nil,
        or_false, false_or, and_true] at hadd'
      rw [hadd']
      exact h
  rw [hadds, or_iff_right hfinger]
  rcases henters.room with ⟨ids, hids, -, hobserver, hrequests⟩ |
    ⟨audioLevel, activeSpeaker, hnone, -, hobserver, hrequests⟩
  · -- a later user
    rw [hrequests, hobserved _ ids hids, hobserver, Option.some_inj, hids]
    exact ⟨fun h ids' heq => Option.some.inj heq ▸ h, fun h => h ids rfl⟩
  · rw [hrequests, audioLevelObserver_create, if_pos rfl, hobserver, hnone]
    exact iff_of_true rfl fun ids hids => by cases hids

def firstJoin : Server := step sampleEnv {} (.upOffer 1 (sampleRequest "ann"))

def secondJoin : Server := step sampleEnv firstJoin (.upOffer 2 (sampleRequest "bob"))

/-- The second user adds its audio producer to the active speaker observer. -/
theorem secondJoin_not_addsAudio :
    audioLevelObserver secondJoin.requests "room".toList = some (sampleLetters 0) ∧
    .createActiveSpeakerObserver "room".toList (sampleLetters 1) ∈ secondJoin.requests ∧
    (∃ producerId, .addProducer (sampleLetters 1) producerId ∈ writtenSince firstJoin secondJoin) ∧
    ¬AddsAudio firstJoin secondJoin "room".toList := by
  have haudioLevel : audioLevelObserver secondJoin.requests "room".toList =
      some (sampleLetters 0) := by decide +kernel
  have hproduce : ((writtenSince firstJoin secondJoin).any fun request => match request with
      | .produce _ audio => audio.kind = "audio".toList ∧
        .addProducer (sampleLetters 1) audio.producerId ∈ writtenSince firstJoin secondJoin
      | _ => false) = true := by decide +kernel
  obtain ⟨request, hmem, hrequest⟩ := any_eq_true.mp hproduce
  cases request with
  | produce transportId audio =>
    obtain ⟨haudio, hadd⟩ := of_decide_eq_true hrequest
    refine ⟨haudioLevel, by decide +kernel, ⟨audio.producerId, hadd⟩, fun hadds => ?_⟩
    have hsame := (hadds transportId audio hmem haudio).2 _ hadd
    rw [haudioLevel] at hsame
    exact absurd hsame (by decide)
  | _ => cases hrequest

end Server

end Mediasoup.Signaling
