/-
What the consumers of a subscriber do to the stored producers.

The parameters of a consumer are made in a copy of the producer's parameters that shares the
slices of codecs and encodings, and the maps in them.  So each producer that is consumed is
stored with the payload types and SSRCs of its consumer.

* `Reworks` — which producers a part of the handler has changed, and how,
* `renewConsumers_reworks` — the consumers for one user change the producers of all others,
* `notifyUser_producers_iff` — when that changes nothing.
-/
import Mediasoup.Signaling.WorkerObjects

namespace Mediasoup.Signaling

open List AList Option Json

/-- What is left in a producer that is consumed with these SSRCs. -/
def sharedWith (ssrcs : ℕ → UInt32) (producer : MediaParameters) : MediaParameters :=
  (if isSimulcast producer then
    consumeSimulcast TextOver.unset TextOver.unset (ssrcs 0) producer
  else consumeSimple TextOver.unset TextOver.unset ssrcs producer).2

namespace Server

def producers (s : Server) (roomId userId : Text) (producerId : Letters) : Option MediaParameters :=
  (s.user roomId userId).bind fun user => user.producer.producers.lookup producerId

variable {s : Server} {otherUserId roomId notifyUserId : Text}

theorem producers_congr {s' : Server} (h : s'.user = s.user) : s'.producers = s.producers := by
  funext roomId userId producerId
  rw [producers, producers, h]

theorem producers_modifyUser (s : Server) (roomId userId : Text) {f : User → User}
    (hf : ∀ user, (f user).producer = user.producer) :
    (s.modifyUser roomId userId f).producers = s.producers := by
  funext r u id
  rw [producers, producers, user_modifyUser]
  split_ifs with hid
  · rw [hid.1, hid.2, bind_map]
    refine congrArg _ (funext fun user => ?_)
    show (f user).producer.producers.lookup id = _
    rw [hf]
  · rfl

variable (env : Env)

/-- The producers that `touched` selects were consumed, each with the SSRCs of some choices;
the others are as they were. -/
def Reworks (touched : Text → Text → Letters → Prop) (s s' : Server) : Prop :=
  ∀ r u id, (touched r u id → ∃ i, s'.producers r u id =
      (s.producers r u id).map (sharedWith fun k => env.generateSsrc (i + k))) ∧
    (¬touched r u id → s'.producers r u id = s.producers r u id)

namespace Reworks

variable {env} {touched touched' : Text → Text → Letters → Prop} {s s₁ s₂ : Server}

theorem of_eq (h : s₁.producers = s.producers) : Reworks env (fun _ _ _ => False) s s₁ :=
  fun r u id => ⟨False.elim, fun _ => by rw [h]⟩

theorem of_producers (h : Reworks env touched s s₁) (hsame : s₂.producers = s₁.producers) :
    Reworks env touched s s₂ := by
  intro r u id
  rw [hsame]
  exact h r u id

theorem trans (h : Reworks env touched s s₁) (h' : Reworks env touched' s₁ s₂)
    (hdisjoint : ∀ r u id, touched r u id → ¬touched' r u id) :
    Reworks env (fun r u id => touched r u id ∨ touched' r u id) s s₂ := by
  intro r u id
  refine ⟨?_, fun hnot => ?_⟩
  · rintro (ht | ht)
    · rw [(h' r u id).2 (hdisjoint r u id ht)]
      exact (h r u id).1 ht
    · rw [← (h r u id).2 fun ht' => hdisjoint r u id ht' ht]
      exact (h' r u id).1 ht
  · rw [(h' r u id).2 fun ht => hnot (.inr ht), (h r u id).2 fun ht => hnot (.inl ht)]

theorem congr (h : Reworks env touched s s₁)
    (hsame : ∀ r u id, s.producers r u id ≠ none → (touched' r u id ↔ touched r u id)) :
    Reworks env touched' s s₁ := by
  intro r u id
  by_cases hnone : s.producers r u id = none
  · -- no producer appears
    have hkept : s₁.producers r u id = none := by
      by_cases ht : touched r u id
      · obtain ⟨i, hi⟩ := (h r u id).1 ht
        rw [hi, hnone]
        rfl
      · rw [(h r u id).2 ht, hnone]
    rw [hkept, hnone]
    exact ⟨fun _ => ⟨0, rfl⟩, fun _ => rfl⟩
  · rw [hsame r u id hnone]
    exact h r u id

end Reworks

theorem consumeProducer_reworks {producerId : Letters}
    {producer : MediaParameters} (h : s.producers roomId otherUserId producerId = some producer) :
    Reworks env (fun r u id => r = roomId ∧ u = otherUserId ∧ id = producerId) s
      (s.consumeProducer env roomId otherUserId producerId producer).2 := by
  obtain ⟨user, huser, hlookup⟩ := bind_eq_some_iff.mp h
  have hshared : ∀ consumerId : Letters, ∀ ssrcs : ℕ → UInt32,
      (if isSimulcast producer then consumeSimulcast consumerId producerId (ssrcs 0) producer
        else consumeSimple consumerId producerId ssrcs producer).2 = sharedWith ssrcs producer := by
    intro consumerId ssrcs
    rw [sharedWith]
    split_ifs <;> rfl
  -- the branches differ in the parameters they write back, not in where
  have hstate : (s.consumeProducer env roomId otherUserId producerId producer).2 =
      ({ s with choices := s.choices + 1 + 1 + producer.rtpParameters.encodings.length }).modifyUser
        roomId otherUserId fun user => { user with producer := { user.producer with
          producers := user.producer.producers.insert producerId
            (sharedWith (fun k => env.generateSsrc (s.choices + 1 + k)) producer) } } := by
    rw [← hshared (env.randStringBytes s.choices)]
    rfl
  intro r u id
  have hproducers :
      (s.consumeProducer env roomId otherUserId producerId producer).2.producers r u id =
      if r = roomId ∧ u = otherUserId then (user.producer.producers.insert producerId
        (sharedWith (fun k => env.generateSsrc (s.choices + 1 + k)) producer)).lookup id
      else s.producers r u id := by
    rw [hstate, producers, user_modifyUser]
    by_cases hid : r = roomId ∧ u = otherUserId
    · rw [if_pos hid, if_pos hid]
      show ((s.user roomId otherUserId).map _).bind _ = _
      rw [huser]
      rfl
    · rw [if_neg hid, if_neg hid]
      rfl
  rw [hproducers]
  constructor
  · rintro ⟨rfl, rfl, rfl⟩
    refine ⟨s.choices + 1, ?_⟩
    rw [if_pos ⟨rfl, rfl⟩, lookup_insert, h]
    rfl
  · intro hnot
    split_ifs with hid
    · rw [hid.1, hid.2, lookup_insert_ne fun hid' => hnot ⟨hid.1, hid.2, hid'⟩, producers, huser]
      rfl
    · rfl

theorem consumeProducers_reworks
    (l : List (Sigma fun _ : Letters => MediaParameters)) (hnodup : l.NodupKeys) :
    ∀ (remoteConsumer : AList fun _ : Letters => Consumer) (s : Server),
      (∀ entry ∈ l, s.producers roomId otherUserId entry.1 = some entry.2) →
      Reworks env (fun r u id => r = roomId ∧ u = otherUserId ∧ id ∈ l.keys) s
        (l.foldl (fun (remoteConsumer, s) entry =>
          let (consumer, s) := s.consumeProducer env roomId otherUserId entry.1 entry.2
          (remoteConsumer.insert consumer.consumerId consumer, s)) (remoteConsumer, s)).2 := by
  induction l with
  | nil => exact fun _ s _ => (Reworks.of_eq rfl).congr (by simp)
  | cons entry l ih =>
    intro remoteConsumer s h
    obtain ⟨hkey, hnodup⟩ := nodupKeys_cons.mp hnodup
    have hfirst := consumeProducer_reworks env (h entry mem_cons_self)
    refine (hfirst.trans (ih hnodup _ _ fun e he => ?_) ?_).congr fun r u id _ => ?_
    · rw [(hfirst roomId otherUserId e.1).2 ?_]
      · exact h e (mem_cons_of_mem entry he)
      · rintro ⟨-, -, heq⟩
        exact hkey (heq ▸ mem_keys_of_mem he)
    · rintro r u id ⟨-, -, rfl⟩ ⟨-, -, hmem⟩
      exact hkey hmem
    · rw [keys_cons, mem_cons]
      tauto

theorem consumeUser_reworks : Reworks env (fun r u _ => r = roomId ∧ u = otherUserId) s
      (consumeUser env roomId notifyUserId s otherUserId) := by
  rw [consumeUser]
  cases huser : s.user roomId otherUserId with
  | none =>
    refine (Reworks.of_eq rfl).congr ?_
    rintro r u id hsome
    refine iff_of_false ?_ not_false
    rintro ⟨rfl, rfl⟩
    exact hsome (by rw [producers, huser]; rfl)
  | some otherUser =>
    have hperm := env.order_perm s.choices otherUser.producer.producers.entries
    have hentries : ∀ entry ∈ env.order s.choices otherUser.producer.producers.entries,
        (s.choose fun i => env.order i otherUser.producer.producers.entries).2.producers roomId
          otherUserId entry.1 = some entry.2 := by
      intro entry hentry
      show (s.user roomId otherUserId).bind _ = _
      rw [huser]
      exact mem_lookup_iff.mpr (hperm.mem_iff.mp hentry)
    have hloop := consumeProducers_reworks env _
      ((perm_nodupKeys hperm).mpr otherUser.producer.producers.nodupKeys) ∅ _ hentries
    -- the consumers are stored with the subscriber
    refine Reworks.of_producers (Reworks.congr hloop fun r u id hsome => ?_)
      (producers_modifyUser _ roomId notifyUserId fun _ => rfl)
    have hmem : r = roomId → u = otherUserId →
        id ∈ (env.order s.choices otherUser.producer.producers.entries).keys := by
      rintro rfl rfl
      obtain ⟨producer, hproducer⟩ := ne_none_iff_exists'.mp hsome
      obtain ⟨user, huser', hlookup⟩ := bind_eq_some_iff.mp hproducer
      obtain rfl : otherUser = user := Option.some.inj (huser.symm.trans huser')
      exact mem_keys_of_mem (hperm.mem_iff.mpr (mem_lookup_iff.mp hlookup))
    exact ⟨fun hid => ⟨hid.1, hid.2, hmem hid.1 hid.2⟩, fun hid => ⟨hid.1, hid.2.1⟩⟩

theorem consumeUsers_reworks (roomId notifyUserId : Text) (l : List Text) (hnodup : l.Nodup) :
    ∀ s : Server, Reworks env (fun r u _ => r = roomId ∧ u ∈ l) s
      (l.foldl (consumeUser env roomId notifyUserId) s) := by
  induction l with
  | nil => exact fun s => (Reworks.of_eq rfl).congr (by simp)
  | cons otherUserId l ih =>
    intro s
    obtain ⟨hnew, hnodup⟩ := nodup_cons.mp hnodup
    refine Reworks.congr ((consumeUser_reworks env).trans
      (ih hnodup _) ?_) fun r u id _ => ?_
    · rintro r u id ⟨-, rfl⟩ ⟨-, hmem⟩
      exact hnew hmem
    · rw [mem_cons]
      tauto

theorem roomMap_closeConsumers (consumer : ConsumerTransport)
    (idOf : Letters → Consumer → Letters) :
    (s.closeConsumers env consumer idOf).roomMap = s.roomMap := by
  have hloop (l : List (Sigma fun _ : Text => AList fun _ : Letters => Consumer)) (s : Server) :
      (l.foldl (fun s remote => writeAll { s with choices := s.choices + 1 }
        ((env.order s.choices remote.2.entries).map fun entry =>
          .closeConsumer consumer.transportId (idOf entry.1 entry.2))) s).roomMap = s.roomMap := by
    induction l generalizing s with
    | nil => rfl
    | cons remote l ih =>
      rw [foldl_cons, ih]
      exact roomMap_writeAll _ _
  exact hloop _ _

theorem producers_renewConsumerTransport (consumer : ConsumerTransport) :
    (s.renewConsumerTransport env roomId notifyUserId consumer).producers = s.producers := by
  rw [renewConsumerTransport]
  set s₁ := s.closeConsumers env consumer fun consumerId _ => consumerId with hs₁
  have hclosed : (if consumer.transportId.text ≠ [] then
      s₁.write (.closeTransport roomId consumer.transportId) else s₁).roomMap = s.roomMap := by
    split_ifs <;> exact roomMap_closeConsumers env consumer _
  simp only [createTransport, choose]
  refine (producers_congr (user_congr (roomMap_writeAll _ _))).trans ?_
  refine (producers_modifyUser _ _ _ ?_).trans (producers_congr (user_congr hclosed))
  exact fun _ => rfl

theorem renewConsumers_reworks {room : Room}
    (hroom : s.roomMap.lookup roomId = some room) (notified : User) :
    Reworks env (fun r u _ => r = roomId ∧ u ≠ notifyUserId) s
      (s.renewConsumers env roomId room notifyUserId notified) := by
  have hperm := env.order_perm s.choices room.userIdUserMap.keys
  have hnodup := (hperm.nodup_iff.mpr room.userIdUserMap.keys_nodup).filter (· ≠ notifyUserId)
  have hloop := consumeUsers_reworks env roomId notifyUserId _ hnodup
    (renewConsumerTransport env { s with choices := s.choices + 1 } roomId notifyUserId
      notified.consumer)
  have hstart : (renewConsumerTransport env { s with choices := s.choices + 1 } roomId notifyUserId
      notified.consumer).producers = s.producers :=
    producers_renewConsumerTransport env notified.consumer
  refine Reworks.congr (fun r u id => by rw [← hstart]; exact hloop r u id) fun r u id hsome => ?_
  refine and_congr_right fun hr => ?_
  subst hr
  obtain ⟨producer, hproducer⟩ := ne_none_iff_exists'.mp hsome
  obtain ⟨user, huser, -⟩ := bind_eq_some_iff.mp hproducer
  obtain ⟨room', hroom', hlookup⟩ := user_eq_some.mp huser
  obtain rfl : room = room' := Option.some.inj (hroom.symm.trans hroom')
  have hmem : u ∈ room.userIdUserMap.keys :=
    mem_keys.mpr (lookup_isSome.mp (by rw [hlookup]; rfl))
  rw [mem_filter, decide_eq_true_eq, and_iff_right (hperm.mem_iff.mpr hmem)]

end Server

/-- A codec with the payload types of the router. -/
def Mapped (codec : Codec) : Prop :=
  codec.payloadType ≠ 96 ∧ codec.payloadType ≠ 97 ∧
    ∀ parameter ∈ codec.parameters, parameter.1 = "apt".toList → parameter.2 = 101

/-- A producer in which its consumers leave nothing new. -/
structure Settled (producer : MediaParameters) : Prop where
  encodings : isSimulcast producer ∨ producer.rtpParameters.encodings = []
  codecs : ∀ codec ∈ producer.rtpParameters.codecs,
    if producer.kind = "audio".toList ∧ ¬isSimulcast producer then codec.payloadType = 100
    else Mapped codec
  feedback : isSimulcast producer → ∀ codec, producer.rtpParameters.codecs.head? = some codec →
    codec.rtcpFeedback = simulcastFeedback

theorem map_eq_self_iff {α : Type} {f : α → α} {l : List α} : l.map f = l ↔ ∀ a ∈ l, f a = a := by
  conv_lhs => rhs; rw [← map_id l]
  exact map_inj_left

theorem mapVideoCodec_eq_self {codec : Codec} : mapVideoCodec codec = codec ↔ Mapped codec := by
  have hparameters : codec.parameters.map (fun parameter =>
      if parameter.1 = "apt".toList then (parameter.1, 101) else parameter) = codec.parameters ↔
      ∀ parameter ∈ codec.parameters, parameter.1 = "apt".toList → parameter.2 = 101 := by
    rw [map_eq_self_iff]
    refine forall₂_congr fun parameter _ => ?_
    split_ifs with hapt
    · simp only [hapt, forall_const, Prod.ext_iff, true_and]
      exact eq_comm
    · exact ⟨fun _ h => absurd h hapt, fun _ => rfl⟩
  have htype : (if codec.payloadType = 96 then 101 else if codec.payloadType = 97 then 102
      else codec.payloadType) = codec.payloadType ↔
      codec.payloadType ≠ 96 ∧ codec.payloadType ≠ 97 := by
    split_ifs <;> omega
  cases codec
  simp only [mapVideoCodec, Codec.mk.injEq, Mapped, true_and, and_true] at hparameters htype ⊢
  rw [hparameters, htype]
  tauto

variable {producer : MediaParameters}

theorem sharedWith_eq_iff (ssrcs : ℕ → UInt32) :
    sharedWith ssrcs producer = producer ↔ if isSimulcast producer then
        producer.rtpParameters.codecs.mapIdx (fun i codec =>
          if i = 0 then { mapVideoCodec codec with rtcpFeedback := simulcastFeedback }
          else mapVideoCodec codec) = producer.rtpParameters.codecs else
        producer.rtpParameters.codecs.map (fun codec =>
          if producer.kind = "audio".toList then { codec with payloadType := 100 }
          else mapVideoCodec codec) = producer.rtpParameters.codecs ∧
        producer.rtpParameters.encodings.mapIdx (fun i encoding =>
          renewEncoding encoding (ssrcs i)) = producer.rtpParameters.encodings := by
  rw [sharedWith]
  by_cases hsimulcast : isSimulcast producer
  · rw [if_pos hsimulcast, if_pos hsimulcast]
    constructor
    · intro h
      exact congrArg (fun producer => producer.rtpParameters.codecs) h
    · intro h
      show { producer with rtpParameters := { producer.rtpParameters with codecs := _ } } = producer
      rw [h]
  · rw [if_neg hsimulcast, if_neg hsimulcast]
    constructor
    · intro h
      exact ⟨congrArg (fun producer => producer.rtpParameters.codecs) h,
        congrArg (fun producer => producer.rtpParameters.encodings) h⟩
    · rintro ⟨hcodecs, hencodings⟩
      rw [consumeSimple]
      simp only [hcodecs, hencodings]

theorem renewed_iff {l : List Encoding} :
    (∀ ssrc : UInt32, l.mapIdx (fun _ encoding => renewEncoding encoding ssrc) = l) ↔ l = [] := by
  constructor
  · intro h
    cases l with
    | nil => rfl
    | cons encoding l =>
      have hfirst := (List.cons.inj ((mapIdx_cons ..).symm.trans
        (h (encoding.ssrc + 1)))).1
      exact absurd (congrArg Encoding.ssrc hfirst) (by simp [renewEncoding])
  · rintro rfl _
    rfl

theorem mapIdx_eq_self_iff {α : Type} {f : ℕ → α → α} {l : List α} :
    l.mapIdx f = l ↔ ∀ i a, l[i]? = some a → f i a = a := by
  rw [mapIdx_eq_iff]
  refine forall_congr' fun i => ?_
  cases l[i]? with
  | none => simp
  | some a => simp [eq_comm]

theorem simulcastCodecs_iff {l : List Codec} : l.mapIdx (fun i codec =>
      if i = 0 then { mapVideoCodec codec with rtcpFeedback := simulcastFeedback }
      else mapVideoCodec codec) = l ↔ (∀ codec ∈ l, Mapped codec) ∧ ∀ codec, l.head? = some codec →
      codec.rtcpFeedback = simulcastFeedback := by
  have hfirst (codec : Codec) :
      { mapVideoCodec codec with rtcpFeedback := simulcastFeedback } = codec ↔
        Mapped codec ∧ codec.rtcpFeedback = simulcastFeedback := by
    rw [← mapVideoCodec_eq_self]
    constructor
    · intro h
      have hfeedback : codec.rtcpFeedback = simulcastFeedback :=
        (congrArg Codec.rtcpFeedback h).symm
      refine ⟨?_, hfeedback⟩
      rw [← hfeedback] at h
      exact h
    · rintro ⟨h, hfeedback⟩
      rw [h, ← hfeedback]
  rw [mapIdx_eq_self_iff]
  constructor
  · intro h
    refine ⟨fun codec hmem => ?_, fun codec hhead => ?_⟩
    · obtain ⟨i, hi⟩ := mem_iff_getElem?.mp hmem
      have hcodec := h i codec hi
      split_ifs at hcodec
      · exact ((hfirst codec).mp hcodec).1
      · exact mapVideoCodec_eq_self.mp hcodec
    · rw [List.head?_eq_getElem?] at hhead
      exact ((hfirst codec).mp ((if_pos rfl).symm.trans (h 0 codec hhead))).2
  · rintro ⟨hmapped, hfeedback⟩ i codec hi
    have hcodec := hmapped codec (mem_of_getElem? hi)
    split_ifs with hzero
    · rw [hzero, ← List.head?_eq_getElem?] at hi
      exact (hfirst codec).mpr ⟨hcodec, hfeedback codec hi⟩
    · exact mapVideoCodec_eq_self.mpr hcodec

theorem sharedWith_eq_self_iff :
    (∀ ssrc, sharedWith (fun _ => ssrc) producer = producer) ↔ Settled producer := by
  simp only [sharedWith_eq_iff]
  by_cases hsimulcast : isSimulcast producer
  · simp only [if_pos hsimulcast, forall_const, simulcastCodecs_iff]
    constructor
    · rintro ⟨hmapped, hfeedback⟩
      exact ⟨.inl hsimulcast, fun codec hmem => (by
        rw [if_neg fun h => h.2 hsimulcast]; exact hmapped codec hmem), fun _ => hfeedback⟩
    · intro h
      refine ⟨fun codec hmem => ?_, h.feedback hsimulcast⟩
      have hcodec := h.codecs codec hmem
      rwa [if_neg fun h => h.2 hsimulcast] at hcodec
  · have hcodec (codec : Codec) : (if producer.kind = "audio".toList then
        { codec with payloadType := 100 } else mapVideoCodec codec) = codec ↔
        if producer.kind = "audio".toList ∧ ¬isSimulcast producer then codec.payloadType = 100
        else Mapped codec := by
      by_cases haudio : producer.kind = "audio".toList
      · rw [if_pos haudio, if_pos ⟨haudio, hsimulcast⟩]
        constructor
        · exact fun h => (congrArg Codec.payloadType h).symm
        · intro h
          rw [← h]
      · rw [if_neg haudio, if_neg fun h => haudio h.1, mapVideoCodec_eq_self]
    simp only [if_neg hsimulcast, forall_and, forall_const, map_eq_self_iff, hcodec, renewed_iff]
    constructor
    · rintro ⟨hcodecs, hencodings⟩
      exact ⟨.inr hencodings, hcodecs, fun h => absurd h hsimulcast⟩
    · intro h
      exact ⟨h.codecs, h.encodings.resolve_left hsimulcast⟩

theorem Settled.sharedWith_eq (h : Settled producer)
    (ssrcs : ℕ → UInt32) : sharedWith ssrcs producer = producer := by
  have hconst := (sharedWith_eq_iff _).mp (sharedWith_eq_self_iff.mpr h 0)
  rw [sharedWith_eq_iff]
  by_cases hsimulcast : isSimulcast producer
  · rwa [if_pos hsimulcast] at hconst ⊢
  · rw [if_neg hsimulcast] at hconst ⊢
    rw [h.encodings.resolve_left hsimulcast]
    exact ⟨hconst.1, rfl⟩

namespace Server

theorem producers_sendOffer (env : Env) (roomId : Text) (s : Server) (userId : Text) :
    (sendOffer env roomId s userId).producers = s.producers := by
  rw [sendOffer]
  cases s.user roomId userId with
  | none => rfl
  | some user =>
    dsimp only [choose]
    split
    · rfl
    · refine (producers_modifyUser { s with choices := _ } roomId userId ?_).trans rfl
      exact fun _ => rfl

theorem producers_notifyUser (env : Env) {s : Server} {roomId notifyUserId : Text}
    (hnotified : (s.user roomId notifyUserId).isSome) :
    Reworks env (fun r u _ => r = roomId ∧ u ≠ notifyUserId) s
      (notifyUser env roomId s notifyUserId) := by
  obtain ⟨notified, hnotified⟩ := isSome_iff_exists.mp hnotified
  obtain ⟨room, hroom, -⟩ := user_eq_some.mp hnotified
  rw [notifyUser, hroom, hnotified]
  exact (renewConsumers_reworks env hroom notified).of_producers (producers_sendOffer env ..)

/-- **The stored producers** are kept when a user gets a new offer, whatever SSRCs are drawn,
exactly if all producers of the other users of the room are settled. -/
theorem notifyUser_producers_iff (env : Env) (s : Server) (roomId notifyUserId : Text) :
    (∀ generateSsrc : ℕ → UInt32,
        (notifyUser { env with generateSsrc } roomId s notifyUserId).producers = s.producers) ↔
      ((s.user roomId notifyUserId).isSome → ∀ userId ≠ notifyUserId, ∀ producerId producer,
        s.producers roomId userId producerId = some producer → Settled producer) := by
  constructor
  · intro h hnotified userId hother producerId producer hproducer
    refine (sharedWith_eq_self_iff).mp fun ssrc => ?_
    obtain ⟨i, hi⟩ := (producers_notifyUser { env with generateSsrc := fun _ => ssrc } hnotified
      roomId userId producerId).1 ⟨rfl, hother⟩
    rw [h, hproducer, map_some] at hi
    exact (Option.some.inj hi).symm
  · intro h generateSsrc
    by_cases hnotified : (s.user roomId notifyUserId).isSome
    · funext r u id
      have hreworks := producers_notifyUser { env with generateSsrc } hnotified r u id
      by_cases htouched : r = roomId ∧ u ≠ notifyUserId
      · obtain ⟨i, hi⟩ := hreworks.1 htouched
        rw [hi]
        cases hproducer : s.producers r u id with
        | none => rfl
        | some producer =>
          rw [htouched.1] at hproducer
          rw [map_some, (h hnotified u htouched.2 id producer hproducer).sharedWith_eq]
      · exact hreworks.2 htouched
    · -- there is no such user
      rw [notifyUser, not_isSome_iff_eq_none.mp hnotified]
      cases s.roomMap.lookup roomId <;> rfl

/-- One user is in the room with its producers, and the next one has just been stored. -/
def sampleArrival : Server :=
  (enterRoom sampleEnv (step sampleEnv {} (.upOffer 1 (sampleRequest "ann"))) 2
    (sampleRequest "bob")).2

/-- The consumer for "bob" gives the stored audio producer of "ann" the payload type 100, and
each later subscriber finds it there. -/
theorem sampleArrival_changes_producer : ∃ audio : Letters,
    (sampleArrival.producers "room".toList "ann".toList audio).map
        (fun producer => producer.rtpParameters.codecs.map Codec.payloadType) = some [111] ∧
    ((notifyUser sampleEnv "room".toList sampleArrival "bob".toList).producers "room".toList
        "ann".toList audio).map
      (fun producer => producer.rtpParameters.codecs.map Codec.payloadType) = some [100] :=
  ⟨sampleLetters 6, by decide +kernel, by decide +kernel⟩

end Server

end Mediasoup.Signaling
