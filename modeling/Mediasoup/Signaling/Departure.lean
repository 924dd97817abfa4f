/-
What happens when a connection is closed (`ClearUserInfo`).

The users of the connection are taken out of all rooms, rooms that nobody is left in are
removed, and one room gets new offers: the one that the iteration over the rooms visited
last, whether or not the connection had a user there.

* `Leaves` — the loops that take users out,
* `Reoffered` — a user has a new transport, of which it was sent an offer, with consumers of
  the users that are still in the room,
* `clearUserInfo_iff` — when a disconnect is dealt with as it should be.
-/
import Mediasoup.Signaling.Joining
import Mediasoup.Signaling.NegotiatedMids
import Mathlib.Data.Finset.Card

namespace Mediasoup.Signaling

open List AList Json
open Option (some.inj map_eq_some_iff isSome_map)

/-- The requests of a user that leaves. -/
def Request.Closes : Request → Prop
  | .closeConsumer .. | .closeProducer .. | .closeTransport .. | .closeRouter _ => True
  | _ => False

def Notice.conn : Notice → Conn
  | .answer conn .. | .offer conn .. => conn

theorem Request.Closes.aside {request : Request} (h : request.Closes) : request.Aside := by
  cases request <;> first | exact trivial | cases h

namespace Server

/-! ### Users that leave -/

/-- The users of a connection that were seen have left, and some rooms were removed. -/
structure Leaves (conn : Conn) (seen : Text → Text → Prop) (removed : Text → Prop)
    (s s' : Server) : Prop where
  requests : ∃ more, s'.requests = s.requests ++ more ∧ ∀ r ∈ more, r.Closes
  notices : s'.notices = s.notices
  profiles : ∀ r u profile, s'.profile r u = some profile ↔
    s.profile r u = some profile ∧ ¬(seen r u ∧ profile.conn = conn)
  observers : ∀ r ids, s'.observers r = some ids ↔ s.observers r = some ids ∧ ¬removed r

namespace Leaves

variable {conn : Conn} {seen seen' : Text → Text → Prop} {removed removed' : Text → Prop}
  {s s₁ s₂ : Server}

theorem of_keeps (h : Keeps Request.Closes s s₁) :
    Leaves conn (fun _ _ => False) (fun _ => False) s s₁ :=
  ⟨h.requests, h.notices, fun r u profile => by rw [h.profiles]; simp,
    fun r ids => by rw [h.observers]; simp⟩

theorem trans (h : Leaves conn seen removed s s₁) (h' : Leaves conn seen' removed' s₁ s₂) :
    Leaves conn (fun r u => seen r u ∨ seen' r u) (fun r => removed r ∨ removed' r) s s₂ := by
  obtain ⟨more, hmore, hcloses⟩ := h.requests
  obtain ⟨more', hmore', hcloses'⟩ := h'.requests
  refine ⟨⟨more ++ more', ?_, fun r hr => ?_⟩, h'.notices.trans h.notices,
    fun r u profile => ?_, fun r ids => ?_⟩
  · rw [hmore', hmore, append_assoc]
  · exact (mem_append.mp hr).elim (hcloses r) (hcloses' r)
  · rw [h'.profiles, h.profiles, and_assoc, or_and_right, not_or]
  · rw [h'.observers, h.observers, and_assoc, not_or]

theorem congr (h : Leaves conn seen removed s s₁)
    (hseen : ∀ r u profile, s.profile r u = some profile → profile.conn = conn →
      (seen r u ↔ seen' r u)) (hremoved : ∀ r, (s.observers r).isSome → (removed r ↔ removed' r)) :
    Leaves conn seen' removed' s s₁ := by
  refine ⟨h.requests, h.notices, fun r u profile => ?_, fun r ids => ?_⟩
  · rw [h.profiles]
    refine and_congr_right fun hprofile => not_congr (and_congr_left fun hconn => ?_)
    exact hseen r u profile hprofile hconn
  · rw [h.observers]
    exact and_congr_right fun hids => not_congr (hremoved r (by rw [hids]; rfl))

end Leaves

theorem profile_deleteUser (s : Server) (roomId userId r u : Text) :
    (s.deleteUser roomId userId).profile r u =
      if r = roomId ∧ u = userId then none else s.profile r u := by
  rw [profile, user_deleteUser]
  split_ifs
  · rfl
  · rfl

theorem notices_deleteUser (s : Server) (roomId userId : Text) :
    (s.deleteUser roomId userId).notices = s.notices := by
  rw [deleteUser]
  split
  · rfl
  · rfl

variable (env : Env)
variable {s : Server} {roomId : Text} {s' : Server}

variable {userId r u : Text} {conn : Conn}

theorem leave_leaves {user : User} (huser : s.user roomId userId = some user) :
    Leaves user.conn (fun r u => r = roomId ∧ u = userId) (fun _ => False) s
      (s.leave env roomId userId user) := by
  have hproducers : Keeps Request.Closes s (s.closeProducers env user.producer) := by
    refine (Keeps.choose s (Nat.le_succ _)).trans (Keeps.writeAll _ fun r hr => ?_)
    obtain ⟨entry, -, rfl⟩ := mem_map.mp hr
    exact trivial
  set s₁ := s.closeProducers env user.producer
  have hup : Keeps Request.Closes s₁
      (s₁.write (.closeTransport roomId user.producer.transportId)) := Keeps.write s₁ trivial
  set s₂ := s₁.write (.closeTransport roomId user.producer.transportId)
  have hconsumers := closeConsumers_keeps env Request.Closes s₂ user.consumer
    (fun _ consumer => consumer.consumerId) fun _ _ => trivial
  set s₃ := s₂.closeConsumers env user.consumer fun _ consumer => consumer.consumerId
  have hdown : Keeps Request.Closes s₃
      (s₃.write (.closeTransport roomId user.consumer.transportId)) := Keeps.write s₃ trivial
  set s₄ := s₃.write (.closeTransport roomId user.consumer.transportId)
  have hkeeps := ((hproducers.trans hup).trans hconsumers).trans hdown
  obtain ⟨more, hmore, hcloses⟩ := hkeeps.requests
  show Leaves user.conn _ _ s (s₄.deleteUser roomId userId)
  refine ⟨⟨more, (requests_deleteUser _ _ _).trans hmore, hcloses⟩,
    (notices_deleteUser _ _ _).trans hkeeps.notices, fun r u profile => ?_, fun r ids => ?_⟩
  · rw [profile_deleteUser, hkeeps.profiles]
    split_ifs with hid
    · -- the user itself
      rw [hid.1, hid.2, profile_of_user huser]
      refine iff_of_false (by simp) ?_
      rintro ⟨hprofile, hne⟩
      cases hprofile
      exact hne ⟨⟨rfl, rfl⟩, rfl⟩
    · exact (and_iff_left fun h => hid h.1).symm
  · rw [observers_deleteUser, hkeeps.observers]
    exact (and_iff_left fun h => h).symm

/-- Whether somebody of another connection is among these users. -/
def Stays (s : Server) (conn : Conn) (roomId userId : Text) : Prop :=
  ∃ profile, s.profile roomId userId = some profile ∧ profile.conn ≠ conn

theorem Leaves.stays_iff {seen : Text → Text → Prop} {removed : Text → Prop}
    (h : Leaves conn seen removed s s') (r u : Text) : s'.Stays conn r u ↔ s.Stays conn r u := by
  refine exists_congr fun profile => ?_
  rw [h.profiles]
  tauto

theorem clearUsers_leaves (userIds : List Text) : ∀ (total : ℕ) (s : Server), ∃ total' s',
      userIds.foldl (clearUser env conn roomId) (total, s) = (total', s') ∧
        Leaves conn (fun r u => r = roomId ∧ u ∈ userIds) (fun _ => False) s s' ∧
        total ≤ total' ∧ (total' = total ↔ ∀ u ∈ userIds, ¬s.Stays conn roomId u) := by
  induction userIds with
  | nil =>
    intro total s
    exact ⟨total, s, rfl, (Leaves.of_keeps (.refl s)).congr (by simp) (by simp), le_rfl, by simp⟩
  | cons userId userIds ih =>
    intro total s
    rw [foldl_cons]
    -- what happens to the first user
    obtain ⟨total₁, s₁, hclear, hleaves, hle, hstays⟩ : ∃ total₁ s₁,
        clearUser env conn roomId (total, s) userId = (total₁, s₁) ∧
        Leaves conn (fun r u => r = roomId ∧ u = userId) (fun _ => False) s s₁ ∧
        total ≤ total₁ ∧ (total₁ = total ↔ ¬s.Stays conn roomId userId) := by
      have hsame : (∀ profile, s.profile roomId userId = some profile → profile.conn ≠ conn) →
          Leaves conn (fun r u => r = roomId ∧ u = userId) (fun _ => False) s s := by
        intro hne
        refine (Leaves.of_keeps (.refl s)).congr (fun r u profile hprofile hconn => ?_)
          fun _ _ => Iff.rfl
        refine iff_of_false (fun h => h) ?_
        rintro ⟨rfl, rfl⟩
        exact hne profile hprofile hconn
      rw [clearUser]
      cases huser : s.user roomId userId with
      | none =>
        have hnone := profile_eq_none.mpr huser
        refine ⟨total, s, rfl, hsame fun profile hprofile => ?_, le_rfl, iff_of_true rfl ?_⟩
        · rw [hnone] at hprofile
          cases hprofile
        · rintro ⟨profile, hprofile, -⟩
          rw [hnone] at hprofile
          cases hprofile
      | some user =>
        have hprofile := profile_of_user huser
        by_cases hconn : user.conn = conn
        · refine ⟨total, s.leave env roomId userId user, if_pos hconn,
            hconn ▸ leave_leaves env huser, le_rfl, iff_of_true rfl ?_⟩
          rintro ⟨profile, hprofile', hne⟩
          obtain rfl := some.inj (hprofile.symm.trans hprofile')
          exact hne hconn
        · refine ⟨total + 1, s, if_neg hconn, hsame fun profile hprofile' => ?_, Nat.le_succ total,
            iff_of_false (Nat.succ_ne_self total) (not_not.mpr ⟨user.profile, hprofile, hconn⟩)⟩
          obtain rfl := some.inj (hprofile.symm.trans hprofile')
          exact hconn
    obtain ⟨total₂, s₂, hfold, hleaves₂, hle₂, hstays₂⟩ := ih total₁ s₁
    rw [hclear, hfold]
    refine ⟨total₂, s₂, rfl, (hleaves.trans hleaves₂).congr ?_ (by simp), hle.trans hle₂, ?_⟩
    · intro r u profile _ _
      rw [mem_cons, ← and_or_left]
    · -- who stays is the same after the first user
      have hsame := fun u (_ : u ∈ userIds) => not_congr (hleaves.stays_iff roomId u)
      rw [forall_mem_cons, ← hstays, ← forall₂_congr hsame, ← hstays₂]
      omega

/-- Nobody of another connection is in the room. -/
def Deserted (s : Server) (conn : Conn) (roomId : Text) : Prop := ∀ u, ¬s.Stays conn roomId u

theorem removeRoom_leaves (hempty : ∀ u, s.profile roomId u = none) :
    Leaves conn (fun _ _ => False) (fun r => r = roomId) s
      { s.write (.closeRouter roomId) with roomMap := s.roomMap.erase roomId } := by
  refine ⟨⟨[.closeRouter roomId], requests_write s _, by simp [Request.Closes]⟩, rfl,
    fun r u profile => ?_, fun r ids => ?_⟩
  · rw [Server.profile, Server.user]
    by_cases hr : r = roomId
    · rw [hr, hempty, lookup_erase]
      exact iff_of_false (by simp) (by simp)
    · rw [lookup_erase_ne hr]
      exact (and_iff_left fun h => h.1).symm
  · rw [observers]
    by_cases hr : r = roomId
    · rw [hr, lookup_erase]
      exact iff_of_false (by simp) (by simp)
    · rw [lookup_erase_ne hr]
      exact (and_iff_left hr).symm

theorem clearRoom_leaves (conn : Conn) (s : Server) (roomId : Text) :
    Leaves conn (fun r _ => r = roomId) (fun r => r = roomId ∧ s.Deserted conn r) s
      (clearRoom env conn s roomId) := by
  rw [clearRoom]
  cases hroom : s.roomMap.lookup roomId with
  | none =>
    -- there is no such room
    refine (Leaves.of_keeps (.refl s)).congr (fun r u profile hprofile _ => ?_)
      fun r hobservers => ?_
    · refine iff_of_false (fun h => h) ?_
      rintro rfl
      rw [Server.profile, Server.user, hroom] at hprofile
      cases hprofile
    · refine iff_of_false (fun h => h) ?_
      rintro ⟨rfl, -⟩
      rw [observers, hroom] at hobservers
      cases hobservers
  | some room =>
    set userIds := env.order s.choices room.userIdUserMap.keys with huserIds
    have hmem : ∀ u, u ∈ userIds ↔ (s.profile roomId u).isSome := by
      intro u
      rw [huserIds, (env.order_perm _ _).mem_iff, profile, user, hroom, isSome_map]
      exact lookup_isSome.symm
    obtain ⟨total, s₁, hfold, hleaves, -, hzero⟩ :=
      clearUsers_leaves env userIds 0 { s with choices := s.choices + 1 }
    have hdeserted : total = 0 ↔ s.Deserted conn roomId := by
      refine hzero.trans ⟨fun h u => ?_, fun h u _ => h u⟩
      rintro ⟨profile, hprofile, hne⟩
      exact h u ((hmem u).mpr (by rw [hprofile]; rfl)) ⟨profile, hprofile, hne⟩
    replace hleaves := (Leaves.of_keeps (Keeps.choose s (Nat.le_succ _))).trans hleaves
    simp only [choose, ← huserIds, hfold]
    have hseen : ∀ r u profile, s.profile r u = some profile → profile.conn = conn →
        (False ∨ r = roomId ∧ u ∈ userIds ↔ r = roomId) := by
      intro r u profile hprofile _
      rw [false_or, and_iff_left_iff_imp]
      rintro rfl
      exact (hmem u).mpr (by rw [hprofile]; rfl)
    by_cases htotal : total = 0
    · -- the room is removed
      have hempty : ∀ u, s₁.profile roomId u = none := by
        intro u
        cases hprofile : s₁.profile roomId u with
        | none => rfl
        | some profile =>
          obtain ⟨hold, hgone⟩ := (hleaves.profiles _ _ _).mp hprofile
          refine absurd ⟨profile, hold, fun hconn => hgone ⟨?_, hconn⟩⟩ (hdeserted.mp htotal u)
          exact (hseen roomId u profile hold hconn).mpr rfl
      rw [if_pos htotal]
      refine (hleaves.trans (removeRoom_leaves hempty)).congr (fun r u profile hprofile hconn => ?_)
        fun r _ => ?_
      · rw [or_false]
        exact hseen r u profile hprofile hconn
      · rw [or_self, false_or]
        exact (and_iff_left_of_imp fun hr => hr ▸ hdeserted.mp htotal).symm
    · rw [if_neg htotal]
      refine hleaves.congr hseen fun r _ => ?_
      rw [or_self, false_iff]
      rintro ⟨rfl, hr⟩
      exact htotal (hdeserted.mpr hr)

theorem clearRooms_leaves (conn : Conn) (roomIds : List Text) :
    ∀ s : Server, Leaves conn (fun r _ => r ∈ roomIds)
      (fun r => r ∈ roomIds ∧ s.Deserted conn r) s (roomIds.foldl (clearRoom env conn) s) := by
  induction roomIds with
  | nil => exact fun s => (Leaves.of_keeps (.refl s)).congr (by simp) (by simp)
  | cons roomId roomIds ih =>
    intro s
    have hfirst := clearRoom_leaves env conn s roomId
    refine (hfirst.trans (ih _)).congr (fun r u profile _ _ => mem_cons.symm) fun r _ => ?_
    have hsame : (clearRoom env conn s roomId).Deserted conn r ↔ s.Deserted conn r :=
      forall_congr' fun u => not_congr (hfirst.stays_iff r u)
    rw [hsame, mem_cons, or_and_right]

/-! ### New offers -/

def sentSince (s₀ s : Server) : List Notice := s.notices.drop s₀.notices.length

def writtenSince (s₀ s : Server) : List Request := s.requests.drop s₀.requests.length

/-- The user has a new transport and was sent an offer of it, with a section only for its
consumers, which are of producers of other users that are in the room. -/
def Reoffered (s₀ s : Server) (roomId userId : Text) : Prop :=
  ∃ old consumer sdp, s₀.profile roomId userId = some old ∧
    s.profile roomId userId = some { old with consumer } ∧
    .offer old.conn consumer sdp ∈ sentSince s₀ s ∧
    .createWebRtcTransportWithServer roomId consumer.transportId consumer.fingerprint
      consumer.fingerPassword ∈ writtenSince s₀ s ∧
    (∀ lines ∈ sdp.sections, ∃ other consumerId c encoding rest,
      storedConsumer consumer.consumers other consumerId = some c ∧
        c.rtpParameters.encodings = encoding :: rest ∧ Carries lines encoding.ssrc) ∧
    ∀ other consumerId c, storedConsumer consumer.consumers other consumerId = some c →
      ∃ outline, s.Produces roomId userId other c.producerId outline

theorem Serves.produces_iff (h : Serves roomId s s') (r u other : Text) (producerId : Letters)
    (outline : Text × Bool) :
    s'.Produces r u other producerId outline ↔ s.Produces r u other producerId outline := by
  have hperson : ∀ s : Server, s.Produces r u other producerId outline ↔
      other ≠ u ∧ ∃ person, (s.profile r other).map Profile.person = some person ∧
        person.2 producerId = some outline := by
    intro s
    simp [Produces, Profile.person]
  rw [hperson, hperson, h.people]

theorem mem_drop_append {α : Type} {a : α} {l more : List α} {n : ℕ} (h : a ∈ l.drop n) :
    a ∈ (l ++ more).drop n := by
  rw [drop_append]
  exact mem_append_left _ h

namespace Reoffered

variable {s s₁ s₂ : Server} {roomId userId : Text}

theorem later (h : Reoffered s s₁ roomId userId) (hserves : Serves roomId s₁ s₂)
    (hsame : s₂.profile roomId userId = s₁.profile roomId userId) :
    Reoffered s s₂ roomId userId := by
  obtain ⟨old, consumer, sdp, hold, hself, hsent, hwritten, hsections, hstored⟩ := h
  obtain ⟨more, hmore, -⟩ := hserves.requests
  obtain ⟨notices, hnotices⟩ := hserves.notices
  refine ⟨old, consumer, sdp, hold, hsame.trans hself, ?_, ?_, hsections,
    fun other consumerId c hc => ?_⟩
  · rw [sentSince, hnotices]
    exact mem_drop_append hsent
  · rw [writtenSince, hmore]
    exact mem_drop_append hwritten
  · obtain ⟨outline, hproduces⟩ := hstored other consumerId c hc
    exact ⟨outline, (hserves.produces_iff ..).mpr hproduces⟩

theorem after (h : Reoffered s₁ s₂ roomId userId)
    (hsame : s₁.profile roomId userId = s.profile roomId userId)
    (hrequests : s.requests.length ≤ s₁.requests.length)
    (hnotices : s.notices.length ≤ s₁.notices.length) : Reoffered s s₂ roomId userId := by
  obtain ⟨old, consumer, sdp, hold, hself, hsent, hwritten, hrest⟩ := h
  exact ⟨old, consumer, sdp, hsame.symm.trans hold, hself, drop_subset_drop_left _ hnotices hsent,
    drop_subset_drop_left _ hrequests hwritten, hrest⟩

end Reoffered

/-- Each producer of the users of the room has an encoding. -/
def EncodedIn (s : Server) (roomId : Text) : Prop :=
  ∀ u profile producerId outline, s.profile roomId u = some profile →
    profile.producers producerId = some outline → outline.2 = false

theorem Serves.encodedIn (h : Serves roomId s s') (hencoded : s.EncodedIn r) : s'.EncodedIn r := by
  intro u profile producerId outline hprofile hproducer
  have hpeople := h.people r u
  rw [hprofile] at hpeople
  obtain ⟨old, hold, hperson⟩ := map_eq_some_iff.mp hpeople.symm
  have hproducers : old.producers = profile.producers := congrArg Prod.snd hperson
  exact hencoded u old producerId outline hold (hproducers ▸ hproducer)

theorem exists_offer (p : OfferSettings) {listed : List Remote}
    (hencoded : ∀ remote ∈ listed, remote.Encoded) : ∃ sdp,
      generateDownOfferSdp p listed = some sdp ∧ sectionsFrom p 0 listed = some sdp.sections := by
  obtain ⟨sections, hsections, -⟩ := @sectionsFrom_of_encoded p 0 listed hencoded
  refine ⟨_, by rw [generateDownOfferSdp, hsections]; rfl, hsections⟩

theorem notifyUser_reoffered (hencoded : s.EncodedIn roomId)
    (hpresent : (s.user roomId userId).isSome) :
    Reoffered s (notifyUser env roomId s userId) roomId userId ∧ ∀ r u, ¬(r = roomId ∧ u = userId) →
        (notifyUser env roomId s userId).profile r u = s.profile r u := by
  obtain ⟨user, hnotify, huser, hsubscribes, -, hlists⟩ := beforeOffer_spec env hpresent
  have hmatches := matches_of_subscribes env hsubscribes hlists
  have hserves := notifyUser_serves env s roomId userId
  rw [hnotify] at hserves ⊢
  set s₁ := s.beforeOffer env roomId userId
  -- each consumer has an encoding, so there is an offer
  have hlisted : ∀ remote ∈ s₁.listing env roomId userId, remote.Encoded := by
    intro remote hremote entry hentry
    obtain ⟨i, hi⟩ := mem_iff_getElem?.mp hremote
    obtain ⟨-, profile, hprofile, hproducer⟩ :=
      hmatches.drawn i remote.1 entry.1 entry.2 ⟨remote, hi, rfl, hentry⟩
    exact isEmpty_eq_false_iff.mp (hencoded _ _ _ _ hprofile hproducer)
  obtain ⟨sdp, hsdp, hsections⟩ := exists_offer (s₁.settings env roomId userId) hlisted
  have hoffers := sendOffer_offers env huser hsdp
  obtain ⟨old, hold, hself⟩ := hsubscribes.self
  obtain ⟨old', hold', hself', hnotices⟩ := hoffers.self
  obtain rfl : { old with consumer := user.consumer } = old' :=
    some.inj (hself.symm.trans hold')
  obtain ⟨more, hmore, -, hcreate⟩ := hsubscribes.requests
  have hstored := storedConsumer_negotiated hlists
  refine ⟨⟨old, _, sdp, hold, hself', ?_, ?_, fun lines hlines => ?_,
    fun other consumerId c hc => ?_⟩, fun r u hid => ?_⟩
  · rw [sentSince, hnotices, hsubscribes.notices, drop_left]
    exact mem_singleton.mpr rfl
  · rw [writtenSince, hoffers.requests, hmore, drop_left]
    exact hcreate
  · obtain ⟨i, other, consumerId, c, hc, hsection⟩ := exists_listed_of_mem hsections hlines
    obtain ⟨encoding, rest, hencodings, hcarries⟩ := hsection.carries
    exact ⟨other, consumerId, negotiated i c, encoding, rest,
      (hstored _ _ _).mpr ⟨i, c, hc, rfl⟩, (encodings_negotiated i c).trans hencodings, hcarries⟩
  · obtain ⟨i, consumer, hentry, rfl⟩ := (hstored _ _ _).mp hc
    refine ⟨(consumer.kind, consumer.rtpParameters.encodings.isEmpty),
      (hserves.produces_iff ..).mpr ?_⟩
    have hproducer : (negotiated i consumer).producerId = consumer.producerId := by
      rw [negotiated]
      split_ifs
      · rfl
      · rfl
    rw [hproducer]
    exact hmatches.drawn i other consumerId consumer hentry
  · exact (hoffers.others r u hid).trans (hsubscribes.others r u hid)

theorem notifyUsers_reoffered (userIds : List Text) (hnodup : userIds.Nodup) :
    ∀ s : Server, s.EncodedIn roomId → (∀ u ∈ userIds, (s.profile roomId u).isSome) →
      Serves roomId s (userIds.foldl (notifyUser env roomId) s) ∧
      (∀ u ∈ userIds, Reoffered s (userIds.foldl (notifyUser env roomId) s) roomId u) ∧
      ∀ u ∉ userIds, (userIds.foldl (notifyUser env roomId) s).profile roomId u =
        s.profile roomId u := by
  induction userIds with
  | nil =>
    exact fun s _ _ => ⟨Serves.of_keeps (.refl s), fun u hu => (by cases hu), fun u _ => rfl⟩
  | cons userId userIds ih =>
    intro s hencoded hpresent
    obtain ⟨hnew, hnodup⟩ := nodup_cons.mp hnodup
    have huser : (s.user roomId userId).isSome := by
      rw [← isSome_map]
      exact hpresent userId mem_cons_self
    obtain ⟨hfirst, hsame⟩ := notifyUser_reoffered env hencoded huser
    have hserves := notifyUser_serves env s roomId userId
    rw [foldl_cons]
    set s₁ := notifyUser env roomId s userId
    -- an offer to one user leaves the profiles of the others alone
    have hothers : ∀ u, u ≠ userId → s₁.profile roomId u = s.profile roomId u :=
      fun u hne => hsame roomId u fun h => hne h.2
    have hrest : ∀ u ∈ userIds, u ≠ userId := fun u hu heq => hnew (heq ▸ hu)
    obtain ⟨hserves', hlater, hkept⟩ := ih hnodup s₁ (hserves.encodedIn hencoded) fun u hu => by
      rw [hothers u (hrest u hu)]
      exact hpresent u (mem_cons_of_mem userId hu)
    obtain ⟨more, hmore, -⟩ := hserves.requests
    obtain ⟨notices, hnotices⟩ := hserves.notices
    refine ⟨hserves.trans hserves', fun u hu => ?_, fun u hu => ?_⟩
    · rcases mem_cons.mp hu with rfl | hu
      · exact hfirst.later hserves' (hkept u hnew)
      refine (hlater u hu).after (hothers u (hrest u hu)) ?_ ?_
      · rw [hmore, length_append]
        exact Nat.le_add_right _ _
      · rw [hnotices, length_append]
        exact Nat.le_add_right _ _
    · rw [mem_cons, not_or] at hu
      rw [hkept u hu.2, hothers u hu.1]

/-- Two users are in the room. -/
def Crowded (s : Server) (roomId : Text) : Prop :=
  ∃ u v, u ≠ v ∧ (s.profile roomId u).isSome ∧ (s.profile roomId v).isSome

theorem crowded_iff {room : Room} (hroom : s.roomMap.lookup roomId = some room) :
    s.Crowded roomId ↔ 1 < room.userIdUserMap.keys.length := by
  have hmem : ∀ u, u ∈ room.userIdUserMap.keys.toFinset ↔ (s.profile roomId u).isSome := by
    intro u
    rw [mem_toFinset, Server.profile, Server.user, hroom, isSome_map]
    exact lookup_isSome.symm
  rw [← toFinset_card_of_nodup room.userIdUserMap.keys_nodup, Finset.one_lt_card]
  simp only [Crowded, hmem]
  grind

/-- **New offers for a room** with two or more users: each user gets one. -/
theorem processDownOfferSdp_reoffers (hencoded : s.EncodedIn roomId)
    (hcrowded : s.Crowded roomId) (hu : (s.profile roomId u).isSome) :
    Reoffered s (s.processDownOfferSdp env roomId) roomId u := by
  cases hroom : s.roomMap.lookup roomId with
  | none =>
    rw [Server.profile, Server.user, hroom] at hu
    cases hu
  | some room =>
    set userIds := env.order s.choices room.userIdUserMap.keys with huserIds
    have hperm : userIds.Perm room.userIdUserMap.keys := env.order_perm _ _
    have hmem : ∀ u, u ∈ userIds ↔ (s.profile roomId u).isSome := by
      intro u
      rw [hperm.mem_iff, Server.profile, Server.user, hroom, isSome_map]
      exact lookup_isSome.symm
    have hmany : ¬userIds.length ≤ 1 := by
      rw [hperm.length_eq, not_le]
      exact (crowded_iff hroom).mp hcrowded
    have hstep : s.processDownOfferSdp env roomId =
        userIds.foldl (notifyUser env roomId) { s with choices := s.choices + 1 } := by
      rw [processDownOfferSdp, hroom]
      exact if_neg hmany
    obtain ⟨-, hall, -⟩ := notifyUsers_reoffered env userIds
      (hperm.nodup_iff.mpr room.userIdUserMap.keys_nodup) { s with choices := s.choices + 1 }
      hencoded fun u hu => (hmem u).mp hu
    rw [hstep]
    exact hall u ((hmem u).mpr hu)

theorem processDownOfferSdp_keeps {allowed : Request → Prop} (hsingle : ¬s.Crowded roomId) :
    Keeps allowed s (s.processDownOfferSdp env roomId) := by
  rw [processDownOfferSdp]
  cases hroom : s.roomMap.lookup roomId with
  | none => exact .refl s
  | some room =>
    have hfew : (env.order s.choices room.userIdUserMap.keys).length ≤ 1 := by
      rw [(env.order_perm _ _).length_eq, ← not_lt, ← crowded_iff hroom]
      exact hsingle
    show Keeps allowed s (if (env.order s.choices room.userIdUserMap.keys).length ≤ 1 then _ else _)
    rw [if_pos hfew]
    exact Keeps.choose s (Nat.le_succ _)

/-! ### Disconnects -/

def Attends (s : Server) (conn : Conn) (roomId : Text) : Prop :=
  ∃ u profile, s.profile roomId u = some profile ∧ profile.conn = conn

/-- Two users of other connections are in the room. -/
def CrowdedWithout (s : Server) (conn : Conn) (roomId : Text) : Prop :=
  ∃ u v, u ≠ v ∧ s.Stays conn roomId u ∧ s.Stays conn roomId v

/-- The last room of the iteration. -/
def lastRoom (s : Server) : Option Text := (env.order s.choices s.roomMap.keys).getLast?

/-- What a disconnect should do. -/
structure Departed (conn : Conn) (s s' : Server) : Prop where
  gone : ∀ r, ¬s'.Attends conn r
  occupied : ∀ r, r ∈ s'.roomMap → ∃ u, (s'.profile r u).isSome
  reoffered : ∀ r, s.Attends conn r → s'.Crowded r →
    ∀ u, (s'.profile r u).isSome → Reoffered s s' r u
  elsewhere : ∀ r, ¬s.Attends conn r → (∀ u, s'.profile r u = s.profile r u) ∧
    ∀ transportId finger password,
      .createWebRtcTransportWithServer r transportId finger password ∉ writtenSince s s'

/-- Each producer of each user has an encoding. -/
def Encoded (s : Server) : Prop := ∀ roomId, s.EncodedIn roomId

/-- The two parts of `clearUserInfo`: users leave, and one room may get new offers. -/
structure Cleared (conn : Conn) (clean : Text) (s s₁ s' : Server) : Prop where
  profiles : ∀ r u profile, s₁.profile r u = some profile ↔
    s.profile r u = some profile ∧ profile.conn ≠ conn
  occupied : ∀ r, r ∈ s₁.roomMap → ∃ u, (s₁.profile r u).isSome
  observers : ∀ r ids, s₁.observers r = some ids → s.observers r = some ids
  closed : ∃ more, s₁.requests = s.requests ++ more ∧ ∀ r ∈ more, r.Closes
  notices : s₁.notices = s.notices
  serves : Serves clean s₁ s'
  idle : ¬(clean ≠ [] ∧ s₁.Crowded clean) → Keeps (fun _ => False) s₁ s'
  reoffers : clean ≠ [] → s₁.Crowded clean →
    ∀ u, (s₁.profile clean u).isSome → Reoffered s₁ s' clean u

theorem clearUserInfo_cleared (conn : Conn) (hencoded : s.Encoded) :
    ∃ s₁, Cleared conn ((s.lastRoom env).getD []) s s₁ (s.clearUserInfo env conn) := by
  have hmem : ∀ r, r ∈ env.order s.choices s.roomMap.keys ↔ r ∈ s.roomMap :=
    fun r => (env.order_perm _ _).mem_iff
  have hleaves := (Leaves.of_keeps (Keeps.choose s (Nat.le_succ _))).trans (clearRooms_leaves env
    conn (env.order s.choices s.roomMap.keys) { s with choices := s.choices + 1 })
  set s₁ := (env.order s.choices s.roomMap.keys).foldl (clearRoom env conn)
    { s with choices := s.choices + 1 }
  set clean := (s.lastRoom env).getD []
  have hclear : s.clearUserInfo env conn =
      if clean ≠ [] then s₁.processDownOfferSdp env clean else s₁ := rfl
  have hprofiles : ∀ r u profile, s₁.profile r u = some profile ↔
      s.profile r u = some profile ∧ profile.conn ≠ conn := by
    intro r u profile
    rw [hleaves.profiles, false_or, hmem]
    refine and_congr_right fun hprofile => not_congr (and_iff_right ?_)
    obtain ⟨user, huser, -⟩ := map_eq_some_iff.mp hprofile
    obtain ⟨room, hroom, -⟩ := user_eq_some.mp huser
    exact lookup_isSome.mp (by rw [hroom]; rfl)
  refine ⟨s₁, hprofiles, fun r hr => ?_, fun r ids hids => ((hleaves.observers r ids).mp hids).1,
    hleaves.requests, hleaves.notices, ?_, fun hidle => ?_,
    fun hne hcrowded u hu => ?_⟩
  · -- a room without users was removed
    obtain ⟨ids, hids⟩ := Option.isSome_iff_exists.mp (mem_roomMap_iff_observers.mp hr)
    obtain ⟨hold, hkept⟩ := (hleaves.observers r ids).mp hids
    rw [false_or, hmem, mem_roomMap_iff_observers, hold] at hkept
    have hstays : ¬s.Deserted conn r := fun hdeserted => hkept ⟨rfl, hdeserted⟩
    obtain ⟨u, hu⟩ := not_forall.mp hstays
    obtain ⟨profile, hprofile, hconn⟩ := not_not.mp hu
    exact ⟨u, by rw [(hprofiles r u profile).mpr ⟨hprofile, hconn⟩]; rfl⟩
  · rw [hclear]
    split_ifs
    · exact processDownOfferSdp_serves env s₁ clean
    · exact Serves.of_keeps (.refl s₁)
  · rw [hclear]
    split_ifs with hne
    · exact processDownOfferSdp_keeps env fun hcrowded => hidle ⟨hne, hcrowded⟩
    · exact .refl s₁
  · rw [hclear, if_pos hne]
    refine processDownOfferSdp_reoffers env (fun u profile producerId outline hprofile => ?_)
      hcrowded hu
    exact hencoded clean u profile producerId outline ((hprofiles _ _ _).mp hprofile).1

namespace Cleared

variable {conn : Conn} {clean : Text} {s s₁ s' : Server}

section

variable (h : Cleared conn clean s s₁ s')
include h

theorem stays_iff (r u : Text) : (s₁.profile r u).isSome ↔ s.Stays conn r u := by
  rw [Option.isSome_iff_exists]
  exact exists_congr fun profile => h.profiles r u profile

theorem isSome_iff (r u : Text) : (s'.profile r u).isSome ↔ s.Stays conn r u := by
  rw [← h.stays_iff, Bool.coe_iff_coe, ← isSome_map, h.serves.people, isSome_map]

theorem crowded_iff (r : Text) : s₁.Crowded r ↔ s.CrowdedWithout conn r :=
  exists₂_congr fun u v => by rw [h.stays_iff, h.stays_iff]

theorem crowded_iff' (r : Text) : s'.Crowded r ↔ s.CrowdedWithout conn r :=
  exists₂_congr fun u v => by rw [h.isSome_iff, h.isSome_iff]

variable {u r : Text}

theorem reoffered (hne : clean ≠ [])
    (hcrowded : s.CrowdedWithout conn clean) (hu : s.Stays conn clean u) :
    Reoffered s s' clean u := by
  obtain ⟨more, hmore, -⟩ := h.closed
  have ⟨profile, hprofile, hconn⟩ := hu
  have hreoffered := h.reoffers hne ((h.crowded_iff clean).mpr hcrowded) u
    ((h.stays_iff clean u).mpr hu)
  refine hreoffered.after ?_ ?_ ?_
  · rw [hprofile]
    exact (h.profiles clean u profile).mpr ⟨hprofile, hconn⟩
  · rw [hmore, length_append]
    exact Nat.le_add_right _ _
  · rw [h.notices]

theorem created {r : Text} {transportId : Letters} {finger password : Credential}
    (hmem : .createWebRtcTransportWithServer r transportId finger password ∈ writtenSince s s') :
    r = clean ∧ clean ≠ [] ∧ s.CrowdedWithout conn clean := by
  obtain ⟨more, hmore, hcloses⟩ := h.closed
  obtain ⟨more', hmore', hrenews⟩ := h.serves.requests
  rw [writtenSince, hmore', hmore, append_assoc, drop_left] at hmem
  rcases mem_append.mp hmem with hmem | hmem
  · exact (hcloses _ hmem).elim
  refine ⟨hrenews _ hmem, ?_⟩
  rw [← h.crowded_iff]
  by_contra hidle
  obtain ⟨none, hnone, hfalse⟩ := (h.idle hidle).requests
  rw [append_cancel_left (hmore'.symm.trans hnone)] at hmem
  exact hfalse _ hmem

theorem profile_eq (hr : ¬s.Attends conn r) (u : Text) : s₁.profile r u = s.profile r u := by
  refine Option.ext fun profile => ?_
  rw [h.profiles]
  exact and_iff_left_of_imp fun hprofile hconn => hr ⟨u, profile, hprofile, hconn⟩

end

end Cleared

/-! ### Runs -/

theorem Keeps.encoded {allowed : Request → Prop} (h : Keeps allowed s s') (hencoded : s.Encoded) :
    s'.Encoded := by
  intro r u profile producerId outline hprofile
  rw [h.profiles] at hprofile
  exact hencoded r u profile producerId outline hprofile

theorem clearUserInfo_encoded (hencoded : s.Encoded) : (s.clearUserInfo env conn).Encoded := by
  obtain ⟨s₁, h⟩ := clearUserInfo_cleared env conn hencoded
  intro r
  refine h.serves.encodedIn fun u profile producerId outline hprofile => ?_
  exact hencoded r u profile producerId outline ((h.profiles r u profile).mp hprofile).1

theorem Enters.encoded {s₁ : Server} {offer : SdpRequest} {observerId : Letters}
    (h : Enters s s₁ conn offer observerId) (hencoded : s.Encoded) : s₁.Encoded := by
  intro r u profile producerId outline hprofile hproducer
  by_cases hid : r = offer.roomId ∧ u = offer.userId
  · rw [hid.1, hid.2, profile_of_user h.self] at hprofile
    cases hprofile
    cases hproducer
  · rw [h.others r u hid] at hprofile
    exact hencoded r u profile producerId outline hprofile hproducer

theorem Supplies.encoded {offer : SdpRequest} {observerId : Letters}
    (h : Supplies s s' offer observerId) (hencoded : s.Encoded) : s'.Encoded := by
  intro r u profile producerId outline hprofile hproducer
  by_cases hid : r = offer.roomId ∧ u = offer.userId
  · obtain ⟨old, new, -, hnew, -, hall⟩ := h.self
    rw [hid.1, hid.2, hnew] at hprofile
    cases hprofile
    exact hall producerId outline hproducer
  · rw [h.others r u hid] at hprofile
    exact hencoded r u profile producerId outline hprofile hproducer

theorem processDownAnswerSdp_keeps (s : Server) (answer : SdpRequest) : ∃ s',
    (s.processDownAnswerSdp env answer = .ok s' ∨ s.processDownAnswerSdp env answer = .error s') ∧
      Keeps Request.Aside s s' := by
  rw [processDownAnswerSdp]
  cases s.user answer.roomId answer.userId with
  | none => exact ⟨s, .inl rfl, .refl s⟩
  | some user =>
    cases getFingerNameContent answer.sdp with
    | none => exact ⟨s, .inr rfl, .refl s⟩
    | some finger =>
      refine ⟨_, .inl rfl, (Keeps.write s trivial).trans ((Keeps.choose _ (Nat.le_succ _)).trans
        (Keeps.foldl (fun s => s) (fun s remote => ?_) _ _))⟩
      refine (Keeps.choose s (Nat.le_succ _)).trans (Keeps.writeAll _ fun r hr => ?_)
      obtain ⟨entry, -, hr⟩ := mem_flatMap.mp hr
      rcases mem_pair.mp hr with rfl | rfl
      · exact trivial
      · exact trivial

theorem step_encoded (hencoded : s.Encoded) (event : Event) : (step env s event).Encoded := by
  cases event with
  | upOffer conn offer =>
    obtain ⟨observerId, s₁, s₂, henters, hkeeps, hrest⟩ := processUpOfferSdp_spec env s conn offer
    have hencoded₂ := hkeeps.encoded (henters.encoded hencoded)
    rw [step]
    rcases hrest with ⟨-, hpanic⟩ | ⟨-, s₃, hsupplies, hok⟩
    · rw [hpanic]
      exact clearUserInfo_encoded env hencoded₂
    rw [hok]
    intro r
    exact (processDownOfferSdp_serves env s₃ offer.roomId).encodedIn
      (hsupplies.encoded hencoded₂ r)
  | downAnswer conn answer =>
    -- the answer only writes requests, and a panic clears the connection
    obtain ⟨s', hs', hkeeps⟩ := processDownAnswerSdp_keeps env s answer
    rw [step]
    rcases hs' with hok | hpanic
    · rw [hok]
      exact hkeeps.encoded hencoded
    · rw [hpanic]
      exact clearUserInfo_encoded env (hkeeps.encoded hencoded)
  | disconnect conn => exact clearUserInfo_encoded env hencoded

theorem run_encoded (events : List Event) : (events.foldl (step env) {}).Encoded :=
  List.foldlRecOn (motive := Encoded) events (step env)
    (fun r u profile producerId outline hprofile => by cases hprofile)
    fun s hs event _ => step_encoded env hs event

/-- **Disconnects.**  A disconnect does what it should exactly if, of the rooms with two or more
remaining users, the connection was in the one that the iteration visits last, and in no
other.  The room with the empty name never gets new offers. -/
theorem clearUserInfo_iff (s : Server) (conn : Conn) (hencoded : s.Encoded) :
    Departed conn s (s.clearUserInfo env conn) ↔
      (∀ r, s.Attends conn r → s.CrowdedWithout conn r → s.lastRoom env = some r ∧ r ≠ []) ∧
      ∀ r, s.lastRoom env = some r → r ≠ [] → s.CrowdedWithout conn r → s.Attends conn r := by
  obtain ⟨s₁, h⟩ := clearUserInfo_cleared env conn hencoded
  set clean := (s.lastRoom env).getD [] with hclean
  set s' := s.clearUserInfo env conn
  have hlast : ∀ r, r ≠ [] → (s.lastRoom env = some r ↔ clean = r) := by
    intro r hr
    rw [hclean]
    cases s.lastRoom env with
    | none => exact iff_of_false (by simp) hr.symm
    | some last => exact Option.some_inj
  constructor
  · intro hdeparted
    refine ⟨fun r hattends hmany => ?_, fun r hr hne hmany => ?_⟩
    · have ⟨u, _, _, hu, _⟩ := hmany
      obtain ⟨old, consumer, sdp, -, -, -, hwritten, -⟩ := hdeparted.reoffered r hattends
        ((h.crowded_iff' r).mpr hmany) u ((h.isSome_iff r u).mpr hu)
      obtain ⟨rfl, hne, -⟩ := h.created hwritten
      exact ⟨(hlast clean hne).mpr rfl, hne⟩
    · -- the last room gets new transports
      obtain rfl := (hlast r hne).mp hr
      by_contra hattends
      have ⟨u, _, _, hu, _⟩ := hmany
      obtain ⟨old, consumer, sdp, -, -, -, hwritten, -⟩ := h.reoffered hne hmany hu
      exact (hdeparted.elsewhere clean hattends).2 _ _ _ hwritten
  · rintro ⟨hcrowded, helsewhere⟩
    refine ⟨fun r => ?_, fun r hr => ?_, fun r hattends hmany u hu => ?_, fun r hattends => ?_⟩
    · rintro ⟨u, profile, hprofile, hconn⟩
      have hpeople := h.serves.people r u
      rw [hprofile] at hpeople
      obtain ⟨profile₁, hprofile₁, hperson⟩ := map_eq_some_iff.mp hpeople.symm
      have hconn₁ : profile₁.conn = profile.conn := congrArg Prod.fst hperson
      exact ((h.profiles r u profile₁).mp hprofile₁).2 (hconn₁.trans hconn)
    · rw [mem_roomMap_iff_observers, h.serves.observers, ← mem_roomMap_iff_observers] at hr
      obtain ⟨u, hu⟩ := h.occupied r hr
      exact ⟨u, (h.isSome_iff r u).mpr ((h.stays_iff r u).mp hu)⟩
    · have hmany' := (h.crowded_iff' r).mp hmany
      obtain ⟨hr, hne⟩ := hcrowded r hattends hmany'
      obtain rfl := (hlast r hne).mp hr
      exact h.reoffered hne hmany' ((h.isSome_iff clean u).mp hu)
    · -- the room with new offers is another one, or has none
      have hother : ¬(r = clean ∧ clean ≠ [] ∧ s.CrowdedWithout conn clean) := by
        rintro ⟨rfl, hne, hmany⟩
        exact hattends (helsewhere clean ((hlast clean hne).mpr rfl) hne hmany)
      refine ⟨fun u => ?_, fun transportId finger password hmem => hother (h.created hmem)⟩
      rw [← h.profile_eq hattends u]
      by_cases hr : r = clean
      · rw [hr]
        refine (h.idle fun hboth => hother ⟨hr, hboth.1, ?_⟩).profiles clean u
        exact (h.crowded_iff clean).mp hboth.2
      · exact h.serves.elsewhere r u hr

def sampleOffer (roomId userId : String) : SdpRequest :=
  { sampleRequest userId with roomId := roomId.toList }

def oneRoom : Server :=
  [Event.upOffer 1 (sampleOffer "x" "ann"), .upOffer 2 (sampleOffer "x" "bob"),
    .upOffer 3 (sampleOffer "x" "cid")].foldl (step sampleEnv) {}

/-- If there is one room it is the last one. -/
theorem oneRoom_departed : Departed 1 oneRoom (oneRoom.clearUserInfo sampleEnv 1) := by
  have hkeys : oneRoom.roomMap.keys = ["x".toList] := by decide +kernel
  -- the sample has one room, which is then the last of the iteration
  have hroom : ∀ r u profile, oneRoom.profile r u = some profile → r = "x".toList := by
    intro r u profile hprofile
    obtain ⟨user, huser, -⟩ := map_eq_some_iff.mp hprofile
    obtain ⟨room, hlookup, -⟩ := user_eq_some.mp huser
    have hmem : r ∈ oneRoom.roomMap.keys := lookup_isSome.mp (by rw [hlookup]; rfl)
    rwa [hkeys, mem_singleton] at hmem
  have hlast : oneRoom.lastRoom sampleEnv = some "x".toList := by
    show oneRoom.roomMap.keys.getLast? = _
    rw [hkeys]
    rfl
  have hann : oneRoom.Attends 1 "x".toList := by
    have h : (oneRoom.user "x".toList "ann".toList).map (fun user => decide (user.conn = 1)) =
        some true := by decide +kernel
    obtain ⟨user, huser, hconn⟩ := map_eq_some_iff.mp h
    exact ⟨_, user.profile, profile_of_user huser, of_decide_eq_true hconn⟩
  refine (clearUserInfo_iff sampleEnv oneRoom 1 (run_encoded sampleEnv _)).mpr ⟨?_, ?_⟩
  · rintro r ⟨u, profile, hprofile, -⟩ -
    rw [hroom r u profile hprofile]
    exact ⟨hlast, by decide⟩
  · intro r hr _ _
    obtain rfl := some.inj (hlast.symm.trans hr)
    exact hann

def twoRooms : Server :=
  [Event.upOffer 4 (sampleOffer "y" "dan"), .upOffer 5 (sampleOffer "y" "eve"),
    .upOffer 1 (sampleOffer "x" "ann"), .upOffer 2 (sampleOffer "x" "bob"),
    .upOffer 3 (sampleOffer "x" "cid")].foldl (step sampleEnv) {}

/-- "ann" was in the room "x", but the users of the room "y" get new offers. -/
theorem twoRooms_not_departed :
    (sentSince twoRooms (twoRooms.clearUserInfo sampleEnv 1)).map Notice.conn = [4, 5] ∧
    ((twoRooms.clearUserInfo sampleEnv 1).user "x".toList "bob".toList).map User.conn = some 2 ∧
    ((twoRooms.clearUserInfo sampleEnv 1).user "x".toList "cid".toList).map User.conn = some 3 ∧
    ¬Departed 1 twoRooms (twoRooms.clearUserInfo sampleEnv 1) := by
  have hsent : (sentSince twoRooms (twoRooms.clearUserInfo sampleEnv 1)).map Notice.conn =
      [4, 5] := by decide +kernel
  have hbob : ((twoRooms.clearUserInfo sampleEnv 1).user "x".toList "bob".toList).map User.conn =
      some 2 := by decide +kernel
  have hcid : ((twoRooms.clearUserInfo sampleEnv 1).user "x".toList "cid".toList).map User.conn =
      some 3 := by decide +kernel
  have hann : (twoRooms.user "x".toList "ann".toList).map User.conn = some 1 := by decide +kernel
  refine ⟨hsent, hbob, hcid, fun hdeparted => ?_⟩
  obtain ⟨ann, huser, hconn⟩ := map_eq_some_iff.mp hann
  obtain ⟨bob, hbob', hconn'⟩ := map_eq_some_iff.mp hbob
  obtain ⟨cid, hcid', -⟩ := map_eq_some_iff.mp hcid
  have hpresent : ∀ {u user}, (twoRooms.clearUserInfo sampleEnv 1).user "x".toList u = some user →
      ((twoRooms.clearUserInfo sampleEnv 1).profile "x".toList u).isSome := fun h => by
    rw [profile_of_user h]
    rfl
  obtain ⟨old, consumer, sdp, -, hself, hoffer, -⟩ := hdeparted.reoffered "x".toList
    ⟨_, ann.profile, profile_of_user huser, hconn⟩
    ⟨_, _, by decide, hpresent hbob', hpresent hcid'⟩ _ (hpresent hbob')
  -- an offer to "bob" would be among the notices
  have hold : old.conn = 2 := by
    have hprofile := some.inj ((profile_of_user hbob').symm.trans hself)
    exact (congrArg Profile.conn hprofile).symm.trans hconn'
  have hmem := mem_map_of_mem (f := Notice.conn) hoffer
  rw [hsent] at hmem
  rw [show (Notice.offer old.conn consumer sdp).conn = 2 from hold] at hmem
  exact absurd hmem (by decide)

end Server

end Mediasoup.Signaling
