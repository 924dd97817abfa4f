/-
What an offer does to the users of a room.

A user is seen through its `Profile`: the connection, the consumer transport, and for each
producer its kind and whether it has no encoding.  To make consumers changes the codecs and
SSRCs of the producers that they share them with, and a profile has neither.

* `Keeps` — parts of a handler that change no profile and send nothing,
* `Subscribes` — a user has a new consumer transport; its consumers are drawn from the
  producers of the other users of the room,
* `notifyUser_spec` — the new transport is stored and offered.
-/
import Mediasoup.Signaling.Server
import Mathlib.Data.Set.Function
import Mathlib.Order.Interval.Set.Basic

namespace Mediasoup.Signaling

open List AList Json

/-- The kind of a producer, and whether it has no encoding. -/
def MediaParameters.outline (producer : MediaParameters) : Text × Bool :=
  (producer.kind, producer.rtpParameters.encodings.isEmpty)

structure Profile where
  conn : Conn
  consumer : ConsumerTransport
  producers : Letters → Option (Text × Bool)

/-- What does not change when a user gets a new transport. -/
def Profile.person (profile : Profile) : Conn × (Letters → Option (Text × Bool)) :=
  (profile.conn, profile.producers)

def User.profile (user : User) : Profile where
  conn := user.conn
  consumer := user.consumer
  producers producerId :=
    (user.producer.producers.lookup producerId).map MediaParameters.outline

def Room.observers (room : Room) : Letters × Letters :=
  (room.activeSpeakerObserverId, room.audioLevelObserverId)

/-- The requests for new streams in a room. -/
def Request.Renews (roomId : Text) : Request → Prop
  | .createWebRtcTransportWithServer routerId .. => routerId = roomId
  | .closeConsumer .. | .closeTransport .. | .enableTraceEvent _ | .setMaxIncomingBitrate _ => True
  | _ => False

namespace Server

def profile (s : Server) (roomId userId : Text) : Option Profile :=
  (s.user roomId userId).map User.profile

def observers (s : Server) (roomId : Text) : Option (Letters × Letters) :=
  (s.roomMap.lookup roomId).map Room.observers

variable {s : Server} {roomId otherUserId : Text} {profile : Profile} {userId : Text}
  {producerId : Letters} {producer : MediaParameters} {user : User} {consumer : ConsumerTransport}

theorem profile_of_user (h : s.user roomId userId = some user) :
    s.profile roomId userId = some user.profile := by
  rw [profile, h]
  rfl

theorem profile_eq_none : s.profile roomId userId = none ↔ s.user roomId userId = none :=
  Option.map_eq_none_iff

theorem mem_roomMap_iff_observers : roomId ∈ s.roomMap ↔ (s.observers roomId).isSome := by
  rw [observers, Option.isSome_map, lookup_isSome]

theorem observers_storeUser (s : Server) (roomId userId : Text) (user : User) (r : Text) :
    (s.storeUser roomId userId user).observers r = s.observers r := by
  rw [storeUser]
  cases hlookup : s.roomMap.lookup roomId with
  | none => rfl
  | some room =>
    rw [observers, observers]
    by_cases hr : r = roomId
    · rw [hr, hlookup, lookup_insert]
      rfl
    · rw [lookup_insert_ne hr]

theorem observers_modifyUser (s : Server) (roomId userId : Text) (f : User → User) (r : Text) :
    (s.modifyUser roomId userId f).observers r = s.observers r := by
  rw [modifyUser]
  cases s.user roomId userId with
  | none => rfl
  | some user => exact observers_storeUser s roomId userId (f user) r

theorem observers_deleteUser (s : Server) (roomId userId r : Text) :
    (s.deleteUser roomId userId).observers r = s.observers r := by
  rw [deleteUser]
  cases hlookup : s.roomMap.lookup roomId with
  | none => rfl
  | some room =>
    rw [observers, observers]
    by_cases hr : r = roomId
    · rw [hr, hlookup, lookup_insert]
      rfl
    · rw [lookup_insert_ne hr]

theorem notices_writeAll (s : Server) (requests : List Request) :
    (s.writeAll requests).notices = s.notices := by
  induction requests generalizing s with
  | nil => rfl
  | cons request requests ih => exact ih (s.write request)

theorem choices_writeAll (s : Server) (requests : List Request) :
    (s.writeAll requests).choices = s.choices := by
  induction requests generalizing s with
  | nil => rfl
  | cons request requests ih => exact ih (s.write request)

theorem choices_modifyUser (s : Server) (roomId userId : Text) (f : User → User) :
    (s.modifyUser roomId userId f).choices = s.choices := by
  unfold modifyUser storeUser
  split
  · rfl
  · split <;> rfl

theorem notices_modifyUser (f : User → User) :
    (s.modifyUser roomId userId f).notices = s.notices := by
  unfold modifyUser storeUser
  split
  · rfl
  · split <;> rfl

theorem profile_modifyUser (s : Server) (roomId userId : Text) (f : User → User)
    (roomId' userId' : Text) : (s.modifyUser roomId userId f).profile roomId' userId' =
      if roomId' = roomId ∧ userId' = userId then
        (s.user roomId userId).map fun user => (f user).profile else s.profile roomId' userId' := by
  rw [profile, user_modifyUser]
  split_ifs
  · rw [Option.map_map]
    rfl
  · rfl

/-! ### Parts that nobody sees -/

/-- No profile and no room changes, nothing is sent, and the requests are of one kind. -/
structure Keeps (allowed : Request → Prop) (s s' : Server) : Prop where
  requests : ∃ more, s'.requests = s.requests ++ more ∧ ∀ r ∈ more, allowed r
  observers : ∀ r, s'.observers r = s.observers r
  notices : s'.notices = s.notices
  profiles : ∀ r u, s'.profile r u = s.profile r u
  choices : s.choices ≤ s'.choices

namespace Keeps

variable {allowed : Request → Prop} {s s₁ s₂ : Server}

theorem trans (h : Keeps allowed s s₁) (h' : Keeps allowed s₁ s₂) : Keeps allowed s s₂ := by
  obtain ⟨more, hmore, hallowed⟩ := h.requests
  obtain ⟨more', hmore', hallowed'⟩ := h'.requests
  refine ⟨⟨more ++ more', ?_, ?_⟩, fun r => (h'.observers r).trans (h.observers r),
    h'.notices.trans h.notices, fun r u => (h'.profiles r u).trans (h.profiles r u),
    h.choices.trans h'.choices⟩
  · rw [hmore', hmore, append_assoc]
  · exact forall_mem_append.mpr ⟨hallowed, hallowed'⟩

theorem of_roomMap {more : List Request} (hmap : s₁.roomMap = s.roomMap)
    (hnotices : s₁.notices = s.notices) (hmore : s₁.requests = s.requests ++ more)
    (hallowed : ∀ r ∈ more, allowed r) (hchoices : s.choices ≤ s₁.choices) : Keeps allowed s s₁ :=
  ⟨⟨more, hmore, hallowed⟩, fun r => by rw [Server.observers, Server.observers, hmap], hnotices,
    fun r u => by rw [profile, profile, user_congr hmap], hchoices⟩

theorem refl (s : Server) : Keeps allowed s s :=
  of_roomMap rfl rfl (append_nil _).symm (by simp) (Nat.le_refl _)

theorem choose (s : Server) {n : ℕ} (h : s.choices ≤ n) : Keeps allowed s { s with choices := n } :=
  of_roomMap rfl rfl (append_nil _).symm (by simp) h

theorem write (s : Server) {request : Request} (h : allowed request) :
    Keeps allowed s (s.write request) :=
  of_roomMap rfl rfl (requests_write s request) (by simpa using h) (Nat.le_refl _)

theorem writeAll (s : Server) {requests : List Request} (h : ∀ r ∈ requests, allowed r) :
    Keeps allowed s (s.writeAll requests) :=
  of_roomMap (roomMap_writeAll s requests) (notices_writeAll s requests)
    (requests_writeAll s requests) h (choices_writeAll s requests).ge

theorem modifyUser (s : Server) {roomId userId : Text} {f : User → User}
    (hf : ∀ user, s.user roomId userId = some user → (f user).profile = user.profile) :
    Keeps allowed s (s.modifyUser roomId userId f) := by
  refine ⟨⟨[], ?_, by simp⟩, observers_modifyUser s roomId userId f,
    notices_modifyUser f, fun r u => ?_, (choices_modifyUser s roomId userId f).ge⟩
  · rw [requests_modifyUser, append_nil]
  · rw [profile_modifyUser]
    split_ifs with hid
    · rw [hid.1, hid.2, profile]
      cases huser : s.user roomId userId with
      | none => rfl
      | some user => exact congrArg some (hf user huser)
    · rfl

theorem foldl {α τ : Type} (server : τ → Server) {f : τ → α → τ}
    (h : ∀ t a, Keeps allowed (server t) (server (f t a))) (l : List α) (t : τ) :
    Keeps allowed (server t) (server (l.foldl f t)) := by
  induction l generalizing t with
  | nil => exact refl (server t)
  | cons a l ih => exact (h t a).trans (ih (f t a))

end Keeps

variable (env : Env)

theorem closeConsumers_keeps (allowed : Request → Prop) (s : Server)
    (consumer : ConsumerTransport) (idOf : Letters → Consumer → Letters)
    (hclose : ∀ transportId consumerId, allowed (.closeConsumer transportId consumerId)) :
    Keeps allowed s (s.closeConsumers env consumer idOf) := by
  refine (Keeps.choose s (Nat.le_succ _)).trans (Keeps.foldl (fun s => s) (fun s remote => ?_) _ _)
  refine (Keeps.choose s (Nat.le_succ _)).trans (Keeps.writeAll _ fun r hr => ?_)
  obtain ⟨entry, -, rfl⟩ := mem_map.mp hr
  exact hclose _ _

/-! ### The consumers of a producer -/

/-- The consumer of a producer of a user.  Only an audio consumer gets another mid later. -/
structure Drawn (profile : Profile) (consumer : Consumer) : Prop where
  producer : profile.producers consumer.producerId =
    some (consumer.kind, consumer.rtpParameters.encodings.isEmpty)
  mid : ¬consumer.isAudio → consumer.rtpParameters.mid = "1".toList

theorem isEmpty_mapIdx {α β : Type} (f : ℕ → α → β) (l : List α) :
    (l.mapIdx f).isEmpty = l.isEmpty := by
  rw [Bool.eq_iff_iff, List.isEmpty_iff, List.isEmpty_iff, mapIdx_eq_nil_iff]

variable {consumerId : Letters}

theorem drawn_consumeSimple (h : profile.producers producerId = some producer.outline)
    (ssrcs : ℕ → UInt32) :
    Drawn profile (consumeSimple consumerId producerId ssrcs producer).1 := by
  refine ⟨?_, fun hkind => ?_⟩
  · show profile.producers producerId = some (producer.kind, List.isEmpty (List.mapIdx _ _))
    rw [h, isEmpty_mapIdx]
    rfl
  · have hvideo : ¬producer.kind = "audio".toList := fun heq => hkind (decide_eq_true heq)
    exact if_neg hvideo

theorem encodings_ne_nil_of_isSimulcast (h : isSimulcast producer) :
    producer.rtpParameters.encodings.isEmpty = false := by
  obtain ⟨encoding, hmem, -⟩ := any_eq_true.mp h
  rw [isEmpty_eq_false_iff]
  exact ne_nil_of_mem hmem

theorem drawn_consumeSimulcast (h : profile.producers producerId = some producer.outline)
    (hsimulcast : isSimulcast producer) (ssrc : UInt32) :
    Drawn profile (consumeSimulcast consumerId producerId ssrc producer).1 := by
  refine ⟨?_, fun _ => rfl⟩
  show profile.producers producerId = some (producer.kind, false)
  rw [h, MediaParameters.outline, encodings_ne_nil_of_isSimulcast hsimulcast]

theorem outline_shared (ssrcs : ℕ → UInt32) :
    (if isSimulcast producer then consumeSimulcast consumerId producerId (ssrcs 0) producer
      else consumeSimple consumerId producerId ssrcs producer).2.outline = producer.outline := by
  split_ifs
  · rfl
  · show (producer.kind, List.isEmpty (List.mapIdx _ _)) = _
    rw [isEmpty_mapIdx]
    rfl

theorem consumeProducer_spec (allowed : Request → Prop)
    (hprofile : s.profile roomId otherUserId = some profile)
    (h : profile.producers producerId = some producer.outline) :
    ∃ consumer s', s.consumeProducer env roomId otherUserId producerId producer = (consumer, s') ∧
      consumer.consumerId = env.randStringBytes s.choices ∧ consumer.producerId = producerId ∧
      Drawn profile consumer ∧ Keeps allowed s s' ∧ s.choices < s'.choices := by
  refine ⟨_, _, rfl, ?_, ?_, ?_,
    (Keeps.choose s (Nat.le_trans (Nat.le_add_right _ 2) (Nat.le_add_right _ _))).trans
      (Keeps.modifyUser _ fun user huser => ?_), ?_⟩
  · show (if isSimulcast producer then _ else _ : Consumer × MediaParameters).1.consumerId = _
    split_ifs
    · rfl
    · rfl
  · show (if isSimulcast producer then _ else _ : Consumer × MediaParameters).1.producerId = _
    split_ifs
    · rfl
    · rfl
  · show Drawn profile (if isSimulcast producer then _ else _ : Consumer × MediaParameters).1
    split_ifs with hsimulcast
    · exact drawn_consumeSimulcast h hsimulcast _
    · exact drawn_consumeSimple h _
  · -- the producer itself is stored again
    obtain rfl : user.profile = profile :=
      Option.some.inj ((profile_of_user (s := s) huser).symm.trans hprofile)
    show Profile.mk _ _ _ = Profile.mk _ _ _
    congr 1
    funext id
    by_cases hid : id = producerId
    · rw [hid, lookup_insert]
      exact (congrArg some (outline_shared _)).trans h.symm
    · rw [lookup_insert_ne hid]
  · show _ < (modifyUser _ _ _ _).choices
    rw [choices_modifyUser]
    show s.choices < s.choices + 1 + 1 + producer.rtpParameters.encodings.length
    omega

/-- The consumers of some producers of a user, with ids drawn from choice `start` on and
before choice `finish`. -/
structure Stocked (start finish : ℕ) (profile : Profile) (producerIds : List Letters)
    (consumers : AList fun _ : Letters => Consumer) : Prop where
  drawn : ∀ consumerId c, consumers.lookup consumerId = some c →
    Drawn profile c ∧ c.producerId ∈ producerIds
  ids : ∀ consumerId c, consumers.lookup consumerId = some c →
    ∃ i, start ≤ i ∧ i < finish ∧ env.randStringBytes i = consumerId
  single : ∀ consumerId c consumerId' c', consumers.lookup consumerId = some c →
    consumers.lookup consumerId' = some c' → c.producerId = c'.producerId →
    consumerId = consumerId'
  /-- No consumer is lost if the ids differ. -/
  all : Set.InjOn env.randStringBytes (Set.Ico start finish) → ∀ producerId ∈ producerIds,
    ∃ consumerId c, consumers.lookup consumerId = some c ∧ c.producerId = producerId

namespace Stocked

variable {env} {start finish finish' : ℕ} {profile : Profile} {producerIds : List Letters}
  {consumers : AList fun _ : Letters => Consumer}

theorem empty (start finish : ℕ) (profile : Profile) : Stocked env start finish profile [] ∅ :=
  ⟨fun _ _ h => (by cases h), fun _ _ h => (by cases h), fun _ _ _ _ h => (by cases h),
    fun _ _ h => (by cases h)⟩

theorem mono {start' : ℕ} (h : Stocked env start finish profile producerIds consumers)
    (hstart : start' ≤ start) (hfinish : finish ≤ finish') :
    Stocked env start' finish' profile producerIds consumers := by
  refine ⟨h.drawn, fun consumerId c hc => ?_, h.single, fun hinj => h.all (Set.InjOn.mono ?_ hinj)⟩
  · obtain ⟨i, hi, hlt, hid⟩ := h.ids consumerId c hc
    exact ⟨i, hstart.trans hi, hlt.trans_le hfinish, hid⟩
  · exact Set.Ico_subset_Ico hstart hfinish

theorem insert (h : Stocked env start finish profile producerIds consumers)
    {producerId : Letters} (hnew : producerId ∉ producerIds) {consumer : Consumer}
    (hdrawn : Drawn profile consumer) (hproducer : consumer.producerId = producerId)
    (hid : consumer.consumerId = env.randStringBytes finish) (hstart : start ≤ finish) :
    Stocked env start (finish + 1) profile (producerId :: producerIds)
      (consumers.insert consumer.consumerId consumer) := by
  have hlookup : ∀ consumerId c,
      (consumers.insert consumer.consumerId consumer).lookup consumerId = some c →
        consumerId = consumer.consumerId ∧ c = consumer ∨
          consumers.lookup consumerId = some c := by
    intro consumerId c hc
    by_cases heq : consumerId = consumer.consumerId
    · rw [heq, lookup_insert] at hc
      exact .inl ⟨heq, (Option.some.inj hc).symm⟩
    · rw [lookup_insert_ne heq] at hc
      exact .inr hc
  refine ⟨fun consumerId c hc => ?_, fun consumerId c hc => ?_,
    fun consumerId c consumerId' c' hc hc' hsame => ?_, fun hinj other hother => ?_⟩
  · rcases hlookup consumerId c hc with ⟨-, rfl⟩ | hc
    · exact ⟨hdrawn, hproducer ▸ mem_cons_self⟩
    · exact ⟨(h.drawn consumerId c hc).1, mem_cons_of_mem _ (h.drawn consumerId c hc).2⟩
  · rcases hlookup consumerId c hc with ⟨rfl, -⟩ | hc
    · exact ⟨finish, hstart, Nat.lt_succ_self finish, hid.symm⟩
    · obtain ⟨i, hi, hlt, heq⟩ := h.ids consumerId c hc
      exact ⟨i, hi, Nat.lt_succ_of_lt hlt, heq⟩
  · -- the new producer has no other consumer
    have hother : ∀ id c, consumers.lookup id = some c → c.producerId ≠ consumer.producerId := by
      intro id c hc heq
      exact hnew (hproducer ▸ heq ▸ (h.drawn id c hc).2)
    rcases hlookup consumerId c hc with ⟨rfl, rfl⟩ | hold
    · rcases hlookup consumerId' c' hc' with ⟨rfl, -⟩ | hc'
      · rfl
      · exact absurd hsame.symm (hother consumerId' c' hc')
    · rcases hlookup consumerId' c' hc' with ⟨-, heq⟩ | hc'
      · exact absurd (hsame.trans (congrArg Consumer.producerId heq)) (hother consumerId c hold)
      · exact h.single consumerId c consumerId' c' hold hc' hsame
  · rcases mem_cons.mp hother with rfl | hother
    · exact ⟨_, consumer, lookup_insert _, hproducer⟩
    have hinj' := Set.InjOn.mono (Set.Ico_subset_Ico_right (Nat.le_succ finish)) hinj
    obtain ⟨consumerId, c, hc, hother⟩ := h.all hinj' other hother
    obtain ⟨i, hi, hlt, heq⟩ := h.ids consumerId c hc
    have hne : consumerId ≠ consumer.consumerId := by
      intro hsame
      have := hinj ⟨hi, Nat.lt_succ_of_lt hlt⟩ ⟨hstart, Nat.lt_succ_self finish⟩
        (heq.trans (hsame.trans hid))
      omega
    exact ⟨consumerId, c, (lookup_insert_ne hne).trans hc, hother⟩

end Stocked

theorem consumeProducers_spec (allowed : Request → Prop) {start : ℕ}
    (producers : List (Sigma fun _ : Letters => MediaParameters))
    (h : ∀ entry ∈ producers, profile.producers entry.1 = some entry.2.outline)
    (hnodup : producers.NodupKeys) :
    ∀ (done : List Letters) (remoteConsumer : AList fun _ : Letters => Consumer) (s : Server),
      s.profile roomId otherUserId = some profile → start ≤ s.choices →
      (∀ entry ∈ producers, entry.1 ∉ done) →
      Stocked env start s.choices profile done remoteConsumer →
      ∃ remoteConsumer' s', producers.foldl (fun (remoteConsumer, s) entry =>
          let (consumer, s) := s.consumeProducer env roomId otherUserId entry.1 entry.2
          (remoteConsumer.insert consumer.consumerId consumer, s)) (remoteConsumer, s) =
          (remoteConsumer', s') ∧
        Keeps allowed s s' ∧
        Stocked env start s'.choices profile (producers.keys.reverse ++ done) remoteConsumer' := by
  induction producers with
  | nil =>
    exact fun done remoteConsumer s _ _ _ hstocked =>
      ⟨remoteConsumer, s, rfl, .refl s, hstocked⟩
  | cons entry producers ih =>
    intro done remoteConsumer s hprofile hstart hdone hstocked
    obtain ⟨hkey, hnodup⟩ := nodupKeys_cons.mp hnodup
    obtain ⟨consumer, s₁, hconsume, hid, hproducer, hdrawn, hkeeps, hlt⟩ :=
      consumeProducer_spec env allowed hprofile (h entry mem_cons_self)
    have hstocked₁ := (hstocked.insert (hdone entry mem_cons_self) hdrawn hproducer hid
      hstart).mono le_rfl hlt
    -- the keys of the map differ, so no producer is consumed twice
    have hdone₁ : ∀ e ∈ producers, e.1 ∉ entry.1 :: done := by
      intro e he hmem
      rcases mem_cons.mp hmem with heq | hmem
      · exact hkey (heq ▸ mem_keys_of_mem he)
      · exact hdone e (mem_cons_of_mem entry he) hmem
    obtain ⟨remoteConsumer', s', hfold, hkeeps', hstocked'⟩ :=
      ih (fun e he => h e (mem_cons_of_mem entry he)) hnodup _ _ s₁
        ((hkeeps.profiles _ _).trans hprofile) (hstart.trans hlt.le) hdone₁ hstocked₁
    refine ⟨remoteConsumer', s', ?_, hkeeps.trans hkeeps', ?_⟩
    · rw [foldl_cons]
      simpa only [hconsume] using hfold
    · rw [keys_cons, reverse_cons, append_assoc, singleton_append]
      exact hstocked'

/-! ### A new transport for a user -/

/-- The user has a new consumer transport, with consumers of the other users of the room. -/
structure Subscribes (s₀ s : Server) (roomId userId : Text) (consumer : ConsumerTransport) :
    Prop where
  self : ∃ old, s₀.profile roomId userId = some old ∧
    s.profile roomId userId = some { old with consumer }
  others : ∀ r u, ¬(r = roomId ∧ u = userId) → s.profile r u = s₀.profile r u
  observers : ∀ r, s.observers r = s₀.observers r
  notices : s.notices = s₀.notices
  requests : ∃ more, s.requests = s₀.requests ++ more ∧ (∀ r ∈ more, r.Renews roomId) ∧
    .createWebRtcTransportWithServer roomId consumer.transportId consumer.fingerprint
      consumer.fingerPassword ∈ more
  choices : s₀.choices ≤ s.choices
  stocked : ∀ otherUserId consumers, consumer.consumers.lookup otherUserId = some consumers →
    otherUserId ≠ userId ∧ ∃ profile producerIds, s₀.profile roomId otherUserId = some profile ∧
      (∀ producerId, producerId ∈ producerIds ↔ (profile.producers producerId).isSome) ∧
      Stocked env s₀.choices s.choices profile producerIds consumers

theorem renewConsumerTransport_subscribes (huser : s.user roomId userId = some user) :
    ∃ consumer, Subscribes env s (s.renewConsumerTransport env roomId userId user.consumer) roomId
      userId consumer := by
  have hclosed := closeConsumers_keeps env (Request.Renews roomId) s user.consumer
    (fun consumerId _ => consumerId) fun _ _ => trivial
  unfold renewConsumerTransport
  set s₁ := s.closeConsumers env user.consumer fun consumerId _ => consumerId
  -- the old transport is closed, if there is one
  have hold : Keeps (Request.Renews roomId) s₁ (if user.consumer.transportId.text ≠ [] then
      s₁.write (.closeTransport roomId user.consumer.transportId) else s₁) := by
    split_ifs
    · exact Keeps.write s₁ trivial
    · exact .refl s₁
  obtain ⟨more, hmore, hrenews⟩ := (hclosed.trans hold).requests
  have hkeeps := hclosed.trans hold
  set s₂ := if user.consumer.transportId.text ≠ [] then
      s₁.write (.closeTransport roomId user.consumer.transportId) else s₁
  obtain ⟨old, hold', hprofile⟩ : ∃ old, s₂.user roomId userId = some old ∧
      old.profile = user.profile :=
    Option.map_eq_some_iff.mp ((hkeeps.profiles _ _).trans (profile_of_user huser))
  set transportId := env.randStringBytes s₂.choices
  set fingerprint := env.randomStringWithHyphen (s₂.choices + 1)
  set fingerPassword := env.randomStringWithHyphen (s₂.choices + 1 + 1)
  set s₃ := ({ s₂ with choices := s₂.choices + 1 + 1 + 1 } : Server).write
    (.createWebRtcTransportWithServer roomId transportId fingerprint fingerPassword) with hs₃
  set f := fun user : User =>
    { user with consumer := { transportId, fingerprint, fingerPassword : ConsumerTransport } }
  have hlast : Keeps (Request.Renews roomId) (s₃.modifyUser roomId userId f)
      ((s₃.modifyUser roomId userId f).writeAll
        [.enableTraceEvent transportId, .setMaxIncomingBitrate transportId]) :=
    Keeps.writeAll _ (by simp [Request.Renews])
  obtain ⟨last, hlast', hrenews'⟩ := hlast.requests
  refine ⟨{ transportId, fingerprint, fingerPassword },
    ⟨user.profile, profile_of_user huser, ?_⟩, fun r u hid => ?_, fun r => ?_, ?_,
    ⟨more ++ .createWebRtcTransportWithServer roomId transportId fingerprint fingerPassword :: last,
      ?_, ?_, by simp⟩, ?_, ?_⟩
  · refine (hlast.profiles _ _).trans ?_
    rw [profile_modifyUser, if_pos ⟨rfl, rfl⟩, ← hprofile]
    exact congrArg (Option.map fun user => (f user).profile) hold'
  · refine (hlast.profiles _ _).trans ?_
    rw [profile_modifyUser, if_neg hid]
    exact hkeeps.profiles r u
  · refine (hlast.observers r).trans ?_
    rw [observers_modifyUser]
    exact hkeeps.observers r
  · refine hlast.notices.trans ?_
    rw [notices_modifyUser]
    exact hkeeps.notices
  · refine hlast'.trans ?_
    rw [requests_modifyUser, hs₃, requests_write, ← append_assoc, ← hmore,
      append_assoc, singleton_append]
    rfl
  · exact forall_mem_append.mpr ⟨hrenews, forall_mem_cons.mpr ⟨rfl, hrenews'⟩⟩
  · refine hkeeps.choices.trans (Nat.le_trans ?_ hlast.choices)
    rw [choices_modifyUser]
    exact Nat.le_add_right s₂.choices 3
  · exact fun otherUserId consumers hlookup => by cases hlookup

theorem consumeUser_subscribes {s₀ : Server} (h : Subscribes env s₀ s roomId userId consumer)
    (hother : otherUserId ≠ userId) :
    ∃ consumers, Subscribes env s₀ (consumeUser env roomId userId s otherUserId) roomId userId
        { consumer with consumers } ∧
      ∀ u, (s₀.profile roomId u).isSome → u ∈ consumer.consumers ∨ u = otherUserId →
        u ∈ consumers := by
  have hsame : s₀.profile roomId otherUserId = s.profile roomId otherUserId :=
    (h.others roomId otherUserId fun hid => hother hid.2).symm
  cases huser : s.user roomId otherUserId with
  | none =>
    rw [consumeUser, huser]
    refine ⟨consumer.consumers, h, fun u hu hmem => hmem.elim (fun h => h) fun heq => ?_⟩
    rw [heq, hsame, profile_eq_none.mpr huser] at hu
    cases hu
  | some otherUser =>
    have hprofile : s₀.profile roomId otherUserId = some otherUser.profile :=
      hsame.trans (profile_of_user huser)
    set producers := env.order s.choices otherUser.producer.producers.entries with hproducers
    have hperm : producers.Perm otherUser.producer.producers.entries := env.order_perm _ _
    have hkeys : producers.NodupKeys :=
      (perm_nodupKeys hperm).mpr otherUser.producer.producers.nodupKeys
    obtain ⟨remoteConsumer, s₁, hfold, hkeeps, hstocked⟩ :=
      consumeProducers_spec env (Request.Renews roomId) producers
        (fun entry hentry => congrArg (Option.map MediaParameters.outline)
          (mem_lookup_iff.mpr (hperm.mem_iff.mp hentry))) hkeys
        [] ∅ { s with choices := s.choices + 1 } (profile_of_user huser)
        (h.choices.trans (Nat.le_succ _)) (fun _ _ hnil => by cases hnil)
        (Stocked.empty s₀.choices _ otherUser.profile)
    -- the new consumers become the entry of the other user, in one write
    have hstep : consumeUser env roomId userId s otherUserId =
        s₁.modifyUser roomId userId fun user =>
          { user with consumer :=
            { user.consumer with
              consumers := user.consumer.consumers.insert otherUserId remoteConsumer } } := by
      rw [consumeUser, huser]
      simp only [choose, ← hproducers, hfold]
    replace hkeeps := (Keeps.choose s (Nat.le_succ _)).trans hkeeps
    obtain ⟨old, hold, hself⟩ := h.self
    obtain ⟨more, hmore, hrenews⟩ := hkeeps.requests
    obtain ⟨before, hbefore, hrenews', hcreate⟩ := h.requests
    have hchoices : (consumeUser env roomId userId s otherUserId).choices = s₁.choices := by
      rw [hstep, choices_modifyUser]
    refine ⟨consumer.consumers.insert otherUserId remoteConsumer, ⟨⟨old, hold, ?_⟩,
      fun r u hid => ?_, fun r => ?_, ?_, ⟨before ++ more, ?_, fun r hr => ?_, ?_⟩, ?_,
      fun other consumers hlookup => ?_⟩, fun u hu hmem => ?_⟩
    · obtain ⟨user, huser', hprofile'⟩ :=
        Option.map_eq_some_iff.mp ((hkeeps.profiles roomId userId).trans hself)
      have hconsumer : user.consumer = consumer := congrArg Profile.consumer hprofile'
      rw [hstep, profile_modifyUser, if_pos ⟨rfl, rfl⟩, huser', Option.map_some]
      show some (Profile.mk user.profile.conn { user.consumer with consumers := _ }
        user.profile.producers) = _
      rw [hprofile', hconsumer]
    · rw [hstep, profile_modifyUser, if_neg hid]
      exact (hkeeps.profiles r u).trans (h.others r u hid)
    · rw [hstep, observers_modifyUser]
      exact (hkeeps.observers r).trans (h.observers r)
    · rw [hstep, notices_modifyUser]
      exact hkeeps.notices.trans h.notices
    · rw [hstep, requests_modifyUser, hmore, hbefore, append_assoc]
    · exact (mem_append.mp hr).elim (hrenews' r) (hrenews r)
    · exact mem_append_left more hcreate
    · rw [hchoices]
      exact h.choices.trans hkeeps.choices
    · rw [hchoices]
      by_cases hid : other = otherUserId
      · rw [hid, lookup_insert] at hlookup
        obtain rfl := Option.some.inj hlookup
        refine ⟨hid ▸ hother, otherUser.profile, _, hid ▸ hprofile, fun producerId => ?_, hstocked⟩
        show _ ↔ ((otherUser.producer.producers.lookup producerId).map _).isSome
        rw [append_nil, mem_reverse, Option.isSome_map, lookup_isSome]
        exact (hperm.map Sigma.fst).mem_iff
      · rw [lookup_insert_ne hid] at hlookup
        obtain ⟨hne, profile, producerIds, hprofile', hmem, hstocked'⟩ :=
          h.stocked other consumers hlookup
        exact ⟨hne, profile, producerIds, hprofile', hmem, hstocked'.mono le_rfl hkeeps.choices⟩
    · exact (mem_insert _).mpr hmem.symm

theorem renewConsumers_subscribes {room : Room} (hroom : s.roomMap.lookup roomId = some room)
    (huser : s.user roomId userId = some user) :
    ∃ consumer, Subscribes env s (renewConsumers env roomId s room userId user) roomId userId
        consumer ∧ ∀ u, u ≠ userId → (s.profile roomId u).isSome → u ∈ consumer.consumers := by
  obtain ⟨consumer, hself, hothers, hobservers, hnotices, hrequests, hchoices, hstocked⟩ :=
    renewConsumerTransport_subscribes env (s := { s with choices := s.choices + 1 }) huser
  have hnew : Subscribes env s (renewConsumerTransport env { s with choices := s.choices + 1 }
      roomId userId user.consumer) roomId userId consumer := by
    refine ⟨hself, hothers, hobservers, hnotices, hrequests, (Nat.le_succ _).trans hchoices,
      fun other consumers hlookup => ?_⟩
    obtain ⟨hne, profile, producerIds, hprofile, hmem, hstocked'⟩ :=
      hstocked other consumers hlookup
    exact ⟨hne, profile, producerIds, hprofile, hmem, hstocked'.mono (Nat.le_succ _) le_rfl⟩
  -- the users dealt with so far have an entry
  have hloop : ∀ (userIds : List Text) (s' : Server) (consumer : ConsumerTransport),
      (∀ u ∈ userIds, u ≠ userId) → Subscribes env s s' roomId userId consumer →
      ∃ consumer', Subscribes env s (userIds.foldl (consumeUser env roomId userId) s') roomId
          userId consumer' ∧
        ∀ u, (s.profile roomId u).isSome → u ∈ consumer.consumers ∨ u ∈ userIds →
          u ∈ consumer'.consumers := by
    intro userIds
    induction userIds with
    | nil =>
      intro s' consumer _ h'
      exact ⟨consumer, h', fun u _ hmem => hmem.elim (fun h => h) fun hnil => by cases hnil⟩
    | cons other userIds ih =>
      intro s' consumer hne h'
      obtain ⟨consumers, hstep, hmore⟩ := consumeUser_subscribes env h' (hne other mem_cons_self)
      obtain ⟨consumer', hrest, hall⟩ :=
        ih _ _ (fun u hu => hne u (mem_cons_of_mem other hu)) hstep
      refine ⟨consumer', hrest, fun u hu hmem => hall u hu ?_⟩
      rcases hmem with hmem | hmem
      · exact .inl (hmore u hu (.inl hmem))
      · exact (mem_cons.mp hmem).imp (fun heq => hmore u hu (.inr heq)) fun h => h
  obtain ⟨consumer', hsubscribes, hall⟩ :=
    hloop ((env.order s.choices room.userIdUserMap.keys).filter (· ≠ userId)) _ consumer
      (fun u hu => of_decide_eq_true (mem_filter.mp hu).2) hnew
  refine ⟨consumer', hsubscribes, fun u hne hu => hall u hu (.inr ?_)⟩
  obtain ⟨profile, hprofile⟩ := Option.isSome_iff_exists.mp hu
  obtain ⟨user', huser', -⟩ := Option.map_eq_some_iff.mp hprofile
  obtain ⟨room', hroom', hlookup⟩ := user_eq_some.mp huser'
  obtain rfl := Option.some.inj (hroom'.symm.trans hroom)
  refine mem_filter.mpr ⟨(env.order_perm _ _).mem_iff.mpr ?_, decide_eq_true hne⟩
  exact lookup_isSome.mp (by rw [hlookup]; rfl)

/-! ### The offer -/

/-- The consumers of a user, in the order in which an offer lists them. -/
def listing (s : Server) (roomId userId : Text) : List Remote :=
  match s.user roomId userId with
  | none => []
  | some user => remotes env user.consumer s.choices

def settings (s : Server) (roomId userId : Text) : OfferSettings :=
  let user := (s.user roomId userId).getD { conn := 0 }
  offerSettings env user.consumer (s.choices + 1 + (s.listing env roomId userId).length)

theorem listing_of_user (huser : s.user roomId userId = some user) :
    s.listing env roomId userId = remotes env user.consumer s.choices := by
  rw [listing, huser]

theorem settings_of_user (huser : s.user roomId userId = some user) :
    s.settings env roomId userId = offerSettings env user.consumer
      (s.choices + 1 + (remotes env user.consumer s.choices).length) := by
  rw [settings, huser, listing_of_user env huser]
  rfl

/-- The user is sent an offer for its transport, as it is stored then. -/
structure Offers (s s' : Server) (roomId userId : Text) (consumer : ConsumerTransport)
    (sdp : DownOffer) : Prop where
  self : ∃ old, s.profile roomId userId = some old ∧
    s'.profile roomId userId = some { old with consumer } ∧
    s'.notices = s.notices ++ [.offer old.conn consumer sdp]
  others : ∀ r u, ¬(r = roomId ∧ u = userId) → s'.profile r u = s.profile r u
  observers : ∀ r, s'.observers r = s.observers r
  requests : s'.requests = s.requests

theorem sendOffer_offers (huser : s.user roomId userId = some user) {sdp : DownOffer}
    (hsdp : generateDownOfferSdp (s.settings env roomId userId) (s.listing env roomId userId) =
      some sdp) :
    Offers s (sendOffer env roomId s userId) roomId userId
      { user.consumer with
        consumers := negotiatedConsumers (s.listing env roomId userId) user.consumer.consumers }
      sdp := by
  have hlisting := listing_of_user env huser
  have hsettings := settings_of_user env huser
  set consumer : ConsumerTransport := { user.consumer with
    consumers := negotiatedConsumers (s.listing env roomId userId) user.consumer.consumers }
    with hconsumer
  -- the iterations only draw choices; what is stored is what is sent
  obtain ⟨n, hsend⟩ : ∃ n, sendOffer env roomId s userId =
      (({ s with choices := n } : Server).modifyUser roomId userId fun user =>
        { user with consumer }).notify (.offer user.conn consumer sdp) := by
    rw [hsettings, hlisting] at hsdp
    rw [sendOffer, huser]
    simp only [choose, hsdp, hconsumer, hlisting]
    exact ⟨_, rfl⟩
  have hprofile := profile_modifyUser { s with choices := n } roomId userId fun user =>
    { user with consumer }
  refine ⟨⟨user.profile, profile_of_user huser, ?_, ?_⟩, fun r u hid => ?_, fun r => ?_, ?_⟩
  · rw [hsend]
    refine (hprofile roomId userId).trans ?_
    rw [if_pos ⟨rfl, rfl⟩]
    exact congrArg (Option.map _) huser
  · rw [hsend]
    show Server.notices (modifyUser _ _ _ _) ++ _ = _
    rw [notices_modifyUser]
    rfl
  · rw [hsend]
    refine (hprofile r u).trans ?_
    rw [if_neg hid]
    rfl
  · rw [hsend]
    exact observers_modifyUser { s with choices := n } roomId userId _ r
  · rw [hsend]
    exact requests_modifyUser { s with choices := n } roomId userId _

theorem sendOffer_keeps {allowed : Request → Prop} (huser : s.user roomId userId = some user)
    (hnone : generateDownOfferSdp (s.settings env roomId userId) (s.listing env roomId userId) =
      none) : Keeps allowed s (sendOffer env roomId s userId) := by
  have hlisting := listing_of_user env huser
  have hsettings := settings_of_user env huser
  rw [hsettings, hlisting] at hnone
  rw [sendOffer, huser]
  simp only [choose, hnone]
  exact Keeps.choose s (by omega)

/-! ### What stays in a room -/

/-- New streams for users of one room. -/
structure Serves (roomId : Text) (s s' : Server) : Prop where
  requests : ∃ more, s'.requests = s.requests ++ more ∧ ∀ r ∈ more, r.Renews roomId
  observers : ∀ r, s'.observers r = s.observers r
  notices : ∃ more, s'.notices = s.notices ++ more
  elsewhere : ∀ r u, r ≠ roomId → s'.profile r u = s.profile r u
  people : ∀ r u, (s'.profile r u).map Profile.person = (s.profile r u).map Profile.person

namespace Serves

variable {roomId : Text} {s s₁ s₂ : Server}

theorem of_keeps (h : Keeps (Request.Renews roomId) s s₁) : Serves roomId s s₁ :=
  ⟨h.requests, h.observers, ⟨[], h.notices.trans (append_nil _).symm⟩,
    fun r u _ => h.profiles r u, fun r u => by rw [h.profiles]⟩

theorem trans (h : Serves roomId s s₁) (h' : Serves roomId s₁ s₂) : Serves roomId s s₂ := by
  obtain ⟨more, hmore, hrenews⟩ := h.requests
  obtain ⟨more', hmore', hrenews'⟩ := h'.requests
  obtain ⟨sent, hsent⟩ := h.notices
  obtain ⟨sent', hsent'⟩ := h'.notices
  refine ⟨⟨more ++ more', ?_, fun r hr => ?_⟩, fun r => (h'.observers r).trans (h.observers r),
    ⟨sent ++ sent', ?_⟩, fun r u hr => (h'.elsewhere r u hr).trans (h.elsewhere r u hr),
    fun r u => (h'.people r u).trans (h.people r u)⟩
  · rw [hmore', hmore, append_assoc]
  · exact (mem_append.mp hr).elim (hrenews r) (hrenews' r)
  · rw [hsent', hsent, append_assoc]

theorem of_consumer {old : Profile}
    (hrequests : ∃ more, s₁.requests = s.requests ++ more ∧ ∀ r ∈ more, r.Renews roomId)
    (hobservers : ∀ r, s₁.observers r = s.observers r)
    (hnotices : ∃ more, s₁.notices = s.notices ++ more) (hold : s.profile roomId userId = some old)
    (hself : s₁.profile roomId userId = some { old with consumer })
    (hothers : ∀ r u, ¬(r = roomId ∧ u = userId) → s₁.profile r u = s.profile r u) :
    Serves roomId s s₁ := by
  refine ⟨hrequests, hobservers, hnotices, fun r u hr => hothers r u fun hid => hr hid.1,
    fun r u => ?_⟩
  by_cases hid : r = roomId ∧ u = userId
  · rw [hid.1, hid.2, hself, hold]
    rfl
  · rw [hothers r u hid]

end Serves

theorem Subscribes.serves {s₀ : Server} (h : Subscribes env s₀ s roomId userId consumer) :
    Serves roomId s₀ s := by
  obtain ⟨more, hmore, hrenews, -⟩ := h.requests
  obtain ⟨old, hold, hself⟩ := h.self
  exact Serves.of_consumer ⟨more, hmore, hrenews⟩ h.observers
    ⟨[], h.notices.trans (append_nil _).symm⟩ hold hself h.others

theorem Offers.serves {s' : Server} {sdp : DownOffer} (h : Offers s s' roomId userId consumer sdp) :
    Serves roomId s s' := by
  obtain ⟨old, hold, hself, hnotices⟩ := h.self
  exact Serves.of_consumer ⟨[], h.requests.trans (append_nil _).symm, by simp⟩ h.observers
    ⟨_, hnotices⟩ hold hself h.others

theorem notifyUser_serves (s : Server) (roomId userId : Text) :
    Serves roomId s (notifyUser env roomId s userId) := by
  unfold notifyUser
  split
  · rename_i room user hroom huser
    obtain ⟨consumer, hrenewed, -⟩ := renewConsumers_subscribes env hroom huser
    refine (hrenewed.serves env).trans ?_
    obtain ⟨old, -, hself⟩ := hrenewed.self
    obtain ⟨user', huser', -⟩ := Option.map_eq_some_iff.mp hself
    set s₁ := renewConsumers env roomId s room userId user
    cases hsdp : generateDownOfferSdp (s₁.settings env roomId userId)
        (s₁.listing env roomId userId) with
    | none => exact Serves.of_keeps (sendOffer_keeps env huser' hsdp)
    | some sdp => exact (sendOffer_offers env huser' hsdp).serves
  · exact Serves.of_keeps (.refl s)

theorem processDownOfferSdp_serves (s : Server) (roomId : Text) :
    Serves roomId s (s.processDownOfferSdp env roomId) := by
  unfold processDownOfferSdp
  split
  · exact Serves.of_keeps (.refl s)
  rename_i room hroom
  have hchosen : Serves roomId s { s with choices := s.choices + 1 } :=
    Serves.of_keeps (Keeps.choose s (Nat.le_succ _))
  show Serves roomId s (if _ then _ else _)
  by_cases hfew : (env.order s.choices room.userIdUserMap.keys).length ≤ 1
  · rw [if_pos hfew]
    exact hchosen
  · rw [if_neg hfew]
    exact List.foldlRecOn (motive := Serves roomId s) _ (notifyUser env roomId) hchosen
      fun s' h' userId _ => h'.trans (notifyUser_serves env s' roomId userId)

end Server

end Mediasoup.Signaling
