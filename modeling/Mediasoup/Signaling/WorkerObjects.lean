/-
The objects that the worker creates and closes for the signaling server.

The worker (`Worker`) answers the requests in order.  A request that creates an object is
refused if an object has that id already; the runs in question are those in which nothing
that creates an object is refused.

* `Tracks` — what the requests written so far leave open: the transports of a table and the
  routers of a set of rooms.  There is a rule for each request that matters.
* `Quiet` — what most of a handler does: it creates and closes nothing.
* `run_objects` — if no user joins a room that it is in already, then the open transports
  and routers are those of the users and rooms that the server has stored.
-/
import Mediasoup.Lib.Ownership
import Mediasoup.Lib.Runs
import Mediasoup.Signaling.Server
import Mathlib.Data.Finset.Card
import Mathlib.Data.Finset.Image

open List AList Option Runs Ownership Function

namespace Mediasoup.Signaling

open Json

/-! ### The worker -/

/-- The routers, and the transports with their routers. -/
structure Worker where
  routers : Finset Text := ∅
  transports : Finset (Text × Text) := ∅

namespace Worker

/-- An id that `RegisterHandler` does not accept. -/
def Registered (w : Worker) (id : Text) : Prop :=
  id ∈ w.routers ∨ id ∈ w.transports.image Prod.snd

instance (w : Worker) (id : Text) : Decidable (w.Registered id) :=
  inferInstanceAs (Decidable (_ ∨ _))

/-- A request to close an object that does not exist changes nothing.  A router is closed
with its transports. -/
def handle (w : Worker) : Request → Except Request Worker
  | .createRouter routerId =>
    if w.Registered routerId then .error (.createRouter routerId)
    else .ok { w with routers := insert routerId w.routers }
  | .createWebRtcTransportWithServer routerId transportId finger password =>
    if routerId ∈ w.routers ∧ ¬w.Registered transportId.text then
      .ok { w with transports := insert (routerId, transportId.text) w.transports }
    else .error (.createWebRtcTransportWithServer routerId transportId finger password)
  | .closeTransport routerId transportId =>
    .ok { w with transports := w.transports.erase (routerId, transportId.text) }
  | .closeRouter routerId =>
    .ok { routers := w.routers.erase routerId
          transports := w.transports.filter fun transport => transport.1 ≠ routerId }
  | _ => .ok w

end Worker

/-- The requests that neither create nor close routers or transports. -/
def Request.neutral : Request → Bool
  | .createRouter _ | .createWebRtcTransportWithServer .. | .closeTransport .. | .closeRouter _ =>
    false
  | _ => true

theorem handle_neutral (w : Worker) {request : Request} (h : request.neutral) :
    w.handle request = .ok w := by
  cases request with
  | createRouter | createWebRtcTransportWithServer | closeTransport | closeRouter => cases h
  | _ => rfl

theorem run_neutral (w : Worker) {requests : List Request} (h : ∀ r ∈ requests, r.neutral) :
    run Worker.handle w requests = .ok w := by
  induction requests with
  | nil => rfl
  | cons r requests ih =>
    rw [run_cons_ok (handle_neutral w (h r mem_cons_self))]
    exact ih fun r' hr' => h r' (mem_cons_of_mem r hr')

/-! ### What is open after some requests -/

/-- The two transports of a user. -/
inductive Direction where
  | up
  | down
  deriving DecidableEq

/-- A transport of a user in a room. -/
abbrev Place := Text × Text × Direction

/-- After these requests the open transports are those of the table, and the open routers
those of the rooms. -/
def Tracks (requests : List Request) (table : Place → Option (Text × Text))
    (rooms : Text → Prop) : Prop :=
  ∀ w, run Worker.handle {} requests = .ok w →
    Owned table w.transports ∧ ∀ r, r ∈ w.routers ↔ rooms r

namespace Tracks

variable {requests : List Request} {table : Place → Option (Text × Text)} {rooms : Text → Prop}

theorem start : Tracks [] (fun _ => none) fun _ => False := by
  intro w hw
  cases hw
  exact ⟨Owned.empty, by simp⟩

section

variable (h : Tracks requests table rooms)
include h

theorem neutral {more : List Request}
    (hmore : ∀ r ∈ more, r.neutral) : Tracks (requests ++ more) table rooms := by
  intro w hw
  rw [run_append] at hw
  obtain ⟨w₁, hw₁, hrun⟩ := bind_eq_ok.mp hw
  rw [run_neutral w₁ hmore] at hrun
  cases hrun
  exact h w hw₁

theorem snoc {request : Request} {table' : Place → Option (Text × Text)} {rooms' : Text → Prop}
    (hstep : ∀ w w' : Worker, Owned table w.transports → (∀ r, r ∈ w.routers ↔ rooms r) →
      w.handle request = .ok w' → Owned table' w'.transports ∧ ∀ r, r ∈ w'.routers ↔ rooms' r) :
    Tracks (requests ++ [request]) table' rooms' := by
  intro w hw
  rw [run_append] at hw
  obtain ⟨w₁, hw₁, hrun⟩ := bind_eq_ok.mp hw
  cases hhandle : w₁.handle request with
  | error reason =>
    rw [run_cons_error hhandle] at hrun
    cases hrun
  | ok w₂ =>
    rw [run_cons_ok hhandle] at hrun
    cases hrun
    obtain ⟨howned, hrouters⟩ := h w₁ hw₁
    exact hstep w₁ w howned hrouters hhandle

theorem createRouter (routerId : Text) :
    Tracks (requests ++ [.createRouter routerId]) table fun r => r = routerId ∨ rooms r := by
  refine h.snoc fun w w' howned hrouters hhandle => ?_
  simp only [Worker.handle] at hhandle
  split_ifs at hhandle
  cases hhandle
  exact ⟨howned, fun r => by rw [Finset.mem_insert, hrouters]⟩

theorem createTransport (routerId : Text)
    (transportId : Letters) (finger password : Credential) {k : Place} (hk : table k = none) :
    Tracks (requests ++ [.createWebRtcTransportWithServer routerId transportId finger password])
      (update table k (some (routerId, transportId.text))) rooms := by
  refine h.snoc fun w w' howned hrouters hhandle => ?_
  simp only [Worker.handle] at hhandle
  split_ifs at hhandle with hnew
  cases hhandle
  refine ⟨howned.acquire hk fun hmem => hnew.2 (.inr ?_), hrouters⟩
  exact Finset.mem_image_of_mem Prod.snd hmem

theorem closeTransport (routerId : Text) (transportId : Letters) {k : Place}
    (hk : ∀ x, table k = some x → x = (routerId, transportId.text))
    (hhere : ∀ k', table k' = some (routerId, transportId.text) →
      table k = some (routerId, transportId.text)) :
    Tracks (requests ++ [.closeTransport routerId transportId]) (update table k none) rooms := by
  refine h.snoc fun w w' howned hrouters hhandle => ?_
  cases hhandle
  refine ⟨howned.release hk fun hmem => ?_, hrouters⟩
  obtain ⟨k', hk'⟩ := (howned.mem_iff _).mp hmem
  exact hhere k' hk'

theorem closeRouter (routerId : Text) (hempty : ∀ k x, table k = some x → x.1 ≠ routerId) :
    Tracks (requests ++ [.closeRouter routerId]) table fun r => r ≠ routerId ∧ rooms r := by
  refine h.snoc fun w w' howned hrouters hhandle => ?_
  cases hhandle
  have hsame : w.transports.filter (fun transport => transport.1 ≠ routerId) = w.transports := by
    refine Finset.filter_true_of_mem fun x hx => ?_
    obtain ⟨k, hk⟩ := (howned.mem_iff x).mp hx
    exact hempty k x hk
  refine ⟨?_, fun r => by rw [Finset.mem_erase, hrouters]⟩
  rwa [hsame]

end

end Tracks

/-! ### The table of the server -/

def User.transportId (user : User) : Direction → Text
  | .up => user.producer.transportId.text
  | .down => user.consumer.transportId.text

/-- What stands in the table for a transport.  The empty text is no transport. -/
def holding (roomId transportId : Text) : Option (Text × Text) :=
  if transportId = [] then none else some (roomId, transportId)

namespace Server

/-- The connection and the transports of a user. -/
def core (s : Server) (roomId userId : Text) : Option (Conn × (Direction → Text)) :=
  (s.user roomId userId).map fun user => (user.conn, user.transportId)

def table (s : Server) (place : Place) : Option (Text × Text) :=
  (s.core place.1 place.2.1).bind fun core => holding place.1 (core.2 place.2.2)

/-- The open objects are those that are stored. -/
def Tracked (s : Server) : Prop := Tracks s.requests s.table (· ∈ s.roomMap)

variable {s s' : Server} {roomId userId : Text} {conn : Conn} {offer : SdpRequest} {user : User}
  {core : Conn × (Direction → Text)}

theorem core_of_user (h : s.user roomId userId = some user) :
    s.core roomId userId = some (user.conn, user.transportId) := by
  rw [core, h]
  rfl

theorem table_of_core (h : s.core roomId userId = some core) (direction : Direction) :
    s.table (roomId, userId, direction) = holding roomId (core.2 direction) := by
  rw [table, h]
  rfl

theorem table_eq_some {place : Place} {x : Text × Text} (h : s.table place = some x) :
    ∃ core, s.core place.1 place.2.1 = some core ∧ core.2 place.2.2 ≠ [] ∧
      x = (place.1, core.2 place.2.2) := by
  obtain ⟨core, hcore, hholding⟩ := bind_eq_some_iff.mp h
  rw [holding] at hholding
  split_ifs at hholding with hempty
  exact ⟨core, hcore, hempty, (Option.some.inj hholding).symm⟩

theorem table_congr (h : ∀ r u, s'.core r u = s.core r u) : s'.table = s.table := by
  funext place
  rw [table, table, h]

theorem table_update {core' : Conn × (Direction → Text)} {direction : Direction}
    (hcore : s.core roomId userId = some core) (hcore' : s'.core roomId userId = some core')
    (hother : ∀ r u, ¬(r = roomId ∧ u = userId) → s'.core r u = s.core r u)
    (hdirection : ∀ d, d ≠ direction → core'.2 d = core.2 d) : s'.table =
      update s.table (roomId, userId, direction) (holding roomId (core'.2 direction)) := by
  funext place
  obtain ⟨r, u, d⟩ := place
  by_cases hplace : (r, u, d) = (roomId, userId, direction)
  · rw [hplace, update_self, table_of_core hcore']
  rw [update_of_ne hplace]
  by_cases hid : r = roomId ∧ u = userId
  · obtain ⟨rfl, rfl⟩ := hid
    have hne : d ≠ direction := fun heq => hplace (by rw [heq])
    rw [table_of_core hcore', table_of_core hcore, hdirection d hne]
  · show (s'.core r u).bind _ = (s.core r u).bind _
    rw [hother r u hid]

theorem table_delete (hgone : s'.core roomId userId = none)
    (hother : ∀ r u, ¬(r = roomId ∧ u = userId) → s'.core r u = s.core r u) : s'.table =
      update (update s.table (roomId, userId, .up) none) (roomId, userId, .down) none := by
  funext place
  obtain ⟨r, u, d⟩ := place
  simp only [update_apply, Prod.mk.injEq, ← and_assoc, table]
  by_cases hid : r = roomId ∧ u = userId
  · rw [hid.1, hid.2, hgone]
    cases d with
    | up | down => simp
  · simp only [hid, false_and, if_false, hother r u hid]

/-! ### What most of a handler does -/

/-- Nothing is created or closed, and the transports of the users stay as they are. -/
structure Quiet (s s' : Server) : Prop where
  requests : ∃ more, s'.requests = s.requests ++ more ∧ ∀ r ∈ more, r.neutral
  rooms : ∀ r, r ∈ s'.roomMap ↔ r ∈ s.roomMap
  cores : ∀ r u, s'.core r u = s.core r u

namespace Quiet

variable {s s₁ s₂ : Server}

theorem refl (s : Server) : Quiet s s :=
  ⟨⟨[], (append_nil _).symm, by simp⟩, fun _ => Iff.rfl, fun _ _ => rfl⟩

theorem trans (h : Quiet s s₁) (h' : Quiet s₁ s₂) : Quiet s s₂ := by
  obtain ⟨more, hmore, hneutral⟩ := h.requests
  obtain ⟨more', hmore', hneutral'⟩ := h'.requests
  refine ⟨⟨more ++ more', ?_, ?_⟩, fun r => (h'.rooms r).trans (h.rooms r),
    fun r u => (h'.cores r u).trans (h.cores r u)⟩
  · rw [hmore', hmore, append_assoc]
  · exact forall_mem_append.mpr ⟨hneutral, hneutral'⟩

theorem of_roomMap {more : List Request} (hmap : s₁.roomMap = s.roomMap)
    (hmore : s₁.requests = s.requests ++ more) (hneutral : ∀ r ∈ more, r.neutral) : Quiet s s₁ :=
  ⟨⟨more, hmore, hneutral⟩, fun r => by rw [hmap], fun r u => by rw [core, core, user_congr hmap]⟩

theorem write (s : Server) (request : Request) (h : request.neutral) : Quiet s (s.write request) :=
  of_roomMap rfl (requests_write s request) (by simpa using h)

theorem writeAll (s : Server) (requests : List Request) (h : ∀ r ∈ requests, r.neutral) :
    Quiet s (s.writeAll requests) :=
  of_roomMap (roomMap_writeAll s requests) (requests_writeAll s requests) h

theorem choices (s : Server) (n : ℕ) : Quiet s { s with choices := n } :=
  of_roomMap rfl (append_nil _).symm (by simp)

theorem notify (s : Server) (notice : Notice) : Quiet s (s.notify notice) :=
  of_roomMap rfl (append_nil _).symm (by simp)

theorem modifyUser (s : Server) (roomId userId : Text) {f : User → User}
    (hconn : ∀ u, (f u).conn = u.conn) (hf : ∀ u, s.user roomId userId = some u →
      (f u).transportId = u.transportId) : Quiet s (s.modifyUser roomId userId f) := by
  refine ⟨⟨[], ?_, by simp⟩, mem_modifyUser s roomId userId f, fun r u => ?_⟩
  · rw [requests_modifyUser, append_nil]
  · rw [core, core, user_modifyUser]
    split_ifs with hid
    · rw [hid.1, hid.2]
      cases huser : s.user roomId userId with
      | none => rfl
      | some v =>
        show some ((f v).conn, (f v).transportId) = some (v.conn, v.transportId)
        rw [hconn, hf v huser]
    · rfl

theorem foldl {α τ : Type} (server : τ → Server) {f : τ → α → τ}
    (h : ∀ t a, Quiet (server t) (server (f t a))) (l : List α) (t : τ) :
    Quiet (server t) (server (l.foldl f t)) := by
  induction l generalizing t with
  | nil => exact refl (server t)
  | cons a l ih => exact (h t a).trans (ih (f t a))

end Quiet

theorem Tracked.quiet (h : s.Tracked) (hq : Quiet s s') : s'.Tracked := by
  obtain ⟨more, hmore, hneutral⟩ := hq.requests
  have htracks := h.neutral hneutral
  show Tracks s'.requests s'.table (· ∈ s'.roomMap)
  rw [hmore, table_congr hq.cores, funext fun r => propext (hq.rooms r)]
  exact htracks

variable (env : Env)

/-! ### New transports -/

theorem modifyUser_tracked {requests : List Request} {direction : Direction} {f : User → User}
    {transportId : Letters} {finger password : Credential}
    (h : Tracks requests (update s.table (roomId, userId, direction) none) (· ∈ s.roomMap))
    (hmap : s'.roomMap = s.roomMap) (hrequests : s'.requests = requests ++
      [.createWebRtcTransportWithServer roomId transportId finger password])
    (huser : s.user roomId userId = some user)
    (hdirection : ∀ d, d ≠ direction → (f user).transportId d = user.transportId d)
    (hid : (f user).transportId direction = transportId.text) (hne : transportId.text ≠ []) :
    (s'.modifyUser roomId userId f).Tracked ∧
      (s'.modifyUser roomId userId f).user roomId userId = some (f user) := by
  have hnew := user_modifyUser s' roomId userId f
  have hstored := hnew roomId userId
  rw [if_pos ⟨rfl, rfl⟩, user_congr hmap, huser] at hstored
  have hother : ∀ r u, ¬(r = roomId ∧ u = userId) →
      (s'.modifyUser roomId userId f).core r u = s.core r u := by
    intro r u hid
    rw [core, core, hnew, if_neg hid, user_congr hmap]
  have htracks := h.createTransport roomId transportId finger password (update_self ..)
  rw [update_idem] at htracks
  refine ⟨?_, hstored⟩
  show Tracks (s'.modifyUser roomId userId f).requests _ _
  rw [requests_modifyUser, hrequests,
    table_update (core_of_user huser) (core_of_user hstored) hother hdirection,
    show (_, (f user).transportId).2 direction = _ from hid, holding, if_neg hne,
    funext fun r => propext (mem_modifyUser s' roomId userId f r), hmap]
  exact htracks

theorem tracks_closeTransport {requests : List Request} {table : Place → Option (Text × Text)}
    {rooms : Text → Prop} (h : Tracks requests table rooms) (place : Place)
    (transportId : Letters) (hplace : table place = holding roomId transportId.text)
    (hne : ∀ k x, table k = some x → x.2 ≠ []) :
    Tracks (requests ++ [.closeTransport roomId transportId]) (update table place none) rooms := by
  refine h.closeTransport roomId transportId (fun x hx => ?_) fun k hk => ?_
  · rw [hplace, holding] at hx
    split_ifs at hx
    exact (Option.some.inj hx).symm
  · rw [hplace, holding, if_neg (hne k _ hk)]

theorem table_ne_nil (k : Place) (x : Text × Text) (h : s.table k = some x) : x.2 ≠ [] := by
  obtain ⟨core, -, hne, rfl⟩ := table_eq_some h
  exact hne

theorem randStringBytes_ne (i : ℕ) : (env.randStringBytes i).text ≠ [] := by
  intro h
  have hlength := env.length_randStringBytes i
  rw [h] at hlength
  cases hlength

theorem createTransport_spec (s : Server) (roomId : Text) :
    ∃ transportId finger password s', s.createTransport env roomId =
        ((transportId, finger, password), s') ∧ transportId.text ≠ [] ∧ s'.roomMap = s.roomMap ∧
      s'.requests = s.requests ++
        [.createWebRtcTransportWithServer roomId transportId finger password] :=
  ⟨_, _, _, _, rfl, randStringBytes_ne env _, rfl, requests_write _ _⟩

/-! ### Down offers -/

theorem closeConsumers_quiet (s : Server) (consumer : ConsumerTransport)
    (idOf : Letters → Consumer → Letters) : Quiet s (s.closeConsumers env consumer idOf) := by
  refine (Quiet.choices s _).trans (.foldl (fun s => s) (fun s remote => ?_) _ _)
  refine (Quiet.choices s _).trans (.writeAll _ _ fun r hr => ?_)
  obtain ⟨entry, -, rfl⟩ := mem_map.mp hr
  rfl

theorem consumeProducer_quiet (roomId otherUserId : Text) (producerId : Letters)
    (producer : MediaParameters) :
    Quiet s (s.consumeProducer env roomId otherUserId producerId producer).2 := by
  refine (Quiet.choices s _).trans (.modifyUser _ _ _ ?_ ?_)
  · exact fun _ => rfl
  · intro u _
    funext d
    cases d <;> rfl

theorem consumeUser_quiet (roomId notifyUserId : Text) (otherUserId : Text) :
    Quiet s (consumeUser env roomId notifyUserId s otherUserId) := by
  unfold consumeUser
  split
  · exact .refl s
  refine (Quiet.choices s _).trans ((Quiet.foldl Prod.snd (fun t entry => ?_) _
    (∅, { s with choices := s.choices + 1 })).trans (.modifyUser _ _ _ ?_ ?_))
  · exact consumeProducer_quiet env roomId otherUserId entry.1 entry.2
  · exact fun _ => rfl
  · intro u _
    funext d
    cases d <;> rfl

theorem closeConsumerTransport_tracks (h : s.Tracked) (hcore : s.core roomId userId = some core)
    {transportId : Letters} (hid : core.2 .down = transportId.text) :
    ∃ s', (if transportId.text ≠ [] then s.write (.closeTransport roomId transportId) else s) =
        s' ∧ s'.roomMap = s.roomMap ∧
      Tracks s'.requests (update s.table (roomId, userId, .down) none) (· ∈ s.roomMap) := by
  refine ⟨_, rfl, ?_⟩
  by_cases hne : transportId.text ≠ []
  · rw [if_pos hne, requests_write]
    exact ⟨rfl, tracks_closeTransport h _ _ (by rw [table_of_core hcore, hid]) table_ne_nil⟩
  have htable : s.table (roomId, userId, .down) = none := by
    rw [table_of_core hcore, hid]
    exact if_pos (not_not.mp hne)
  rw [if_neg hne, update_eq_self_iff.mpr htable.symm]
  exact ⟨rfl, h⟩

theorem renewConsumerTransport_tracked (h : s.Tracked) (huser : s.user roomId userId = some user) :
    (s.renewConsumerTransport env roomId userId user.consumer).Tracked := by
  have hquiet := closeConsumers_quiet env s user.consumer fun consumerId _ => consumerId
  unfold renewConsumerTransport
  set s₀ := s.closeConsumers env user.consumer fun consumerId _ => consumerId
  have hcore : s₀.core roomId userId = some (user.conn, user.transportId) :=
    (hquiet.cores roomId userId).trans (core_of_user huser)
  obtain ⟨s₁, hs₁, hmap₁, htracks⟩ := closeConsumerTransport_tracks (h.quiet hquiet) hcore rfl
  obtain ⟨transportId, finger, password, s₂, hs₂, hne, hmap₂, hrequests⟩ :=
    createTransport_spec env s₁ roomId
  simp only [hs₁, hs₂]
  refine Tracked.quiet ?_ (.writeAll _ _ (by simp [Request.neutral]))
  -- the new transport is stored
  obtain ⟨old, hold, -⟩ := map_eq_some_iff.mp hcore
  refine (modifyUser_tracked htracks (hmap₂.trans hmap₁) hrequests hold (fun d hd => ?_) rfl hne).1
  cases d with
  | up => rfl
  | down => exact absurd rfl hd

theorem sendOffer_quiet : Quiet s (sendOffer env roomId s userId) := by
  unfold sendOffer
  split
  · exact .refl s
  rename_i user huser
  simp only [choose]
  split
  · exact .choices s _
  refine (Quiet.choices s _).trans ((Quiet.modifyUser _ _ _ ?_ ?_).trans (.notify _ _))
  · exact fun _ => rfl
  · intro u hu
    obtain rfl : user = u := Option.some.inj (huser.symm.trans hu)
    funext d
    cases d <;> rfl

theorem renewConsumers_tracked (h : s.Tracked) (room : Room)
    (huser : s.user roomId userId = some user) :
    (renewConsumers env roomId s room userId user).Tracked := by
  have hchosen : { s with choices := s.choices + 1 }.Tracked := h.quiet (.choices s _)
  exact (renewConsumerTransport_tracked env hchosen huser).quiet (.foldl (fun s => s)
    (fun s other => consumeUser_quiet env roomId userId other)
    ((env.order s.choices room.userIdUserMap.keys).filter (· ≠ userId)) _)

theorem notifyUser_tracked (h : s.Tracked) : (notifyUser env roomId s userId).Tracked := by
  unfold notifyUser
  split
  · rename_i room user hroom huser
    exact (renewConsumers_tracked env h room huser).quiet (sendOffer_quiet env)
  · exact h

theorem processDownOfferSdp_tracked (h : s.Tracked) (roomId : Text) :
    (s.processDownOfferSdp env roomId).Tracked := by
  unfold processDownOfferSdp
  split
  · exact h
  rename_i room hroom
  have hchosen : { s with choices := s.choices + 1 }.Tracked := h.quiet (.choices s _)
  show Tracked (if _ then _ else _)
  by_cases hfew : (env.order s.choices room.userIdUserMap.keys).length ≤ 1
  · rw [if_pos hfew]
    exact hchosen
  · rw [if_neg hfew]
    exact List.foldlRecOn (motive := Tracked) _ (notifyUser env roomId) hchosen
      fun s hs userId _ => notifyUser_tracked env hs

/-! ### Offers and answers of clients -/

theorem table_newUser (hnew : s.user roomId userId = none) (huser : ∀ r u, s'.user r u =
      if r = roomId ∧ u = userId then some { conn } else s.user r u) : s'.table = s.table := by
  funext place
  obtain ⟨r, u, d⟩ := place
  by_cases hid : r = roomId ∧ u = userId
  · obtain ⟨rfl, rfl⟩ := hid
    have hnone : s.table (r, u, d) = none := by
      rw [table, core, hnew]
      rfl
    rw [table_of_core (core_of_user ((huser r u).trans (if_pos ⟨rfl, rfl⟩))), hnone]
    cases d <;> rfl
  · rw [table, table, core, core, huser, if_neg hid]

theorem enterRoom_first (hroom : s.roomMap.lookup offer.roomId = none) :
    ∃ observerId room more s', s.enterRoom env conn offer = (observerId, s') ∧
      s'.roomMap = s.roomMap.insert offer.roomId room ∧
      room.userIdUserMap = AList.singleton offer.userId { conn } ∧
      s'.requests = s.requests ++ [.createRouter offer.roomId] ++ more ∧ ∀ r ∈ more, r.neutral := by
  rw [enterRoom, hroom]
  refine ⟨_, _, [.createAudioLevelObserver offer.roomId (env.randStringBytes s.choices),
    .createActiveSpeakerObserver offer.roomId (env.randStringBytes (s.choices + 1))], _, rfl, rfl,
    rfl, ?_, by simp [Request.neutral]⟩
  simp [requests, write]

theorem enterRoom_tracked (h : s.Tracked) (conn : Conn)
    (hnew : s.user offer.roomId offer.userId = none) : (s.enterRoom env conn offer).2.Tracked ∧
      (s.enterRoom env conn offer).2.user offer.roomId offer.userId = some { conn } := by
  cases hroom : s.roomMap.lookup offer.roomId with
  | none =>
    obtain ⟨observerId, room, more, s', henter, hmap, husers, hrequests, hneutral⟩ :=
      enterRoom_first env hroom
    have huser : ∀ r u, s'.user r u =
        if r = offer.roomId ∧ u = offer.userId then some { conn } else s.user r u := by
      refine user_insert_user hmap ?_ fun v hv => ?_
      · rw [husers, ← insert_empty]
        exact lookup_insert _
      · rw [husers, ← insert_empty, lookup_insert_ne hv, user, hroom]
        rfl
    -- the router comes first, the two observers are no transports
    have htracks := (Tracks.createRouter h offer.roomId).neutral hneutral
    rw [henter]
    refine ⟨?_, (huser _ _).trans (if_pos ⟨rfl, rfl⟩)⟩
    show Tracks s'.requests s'.table (· ∈ s'.roomMap)
    rw [hrequests, table_newUser hnew huser, hmap]
    simp only [mem_insert]
    exact htracks
  | some room =>
    have hmem : offer.roomId ∈ s.roomMap := lookup_isSome.mp (by rw [hroom]; rfl)
    have huser := user_storeUser hmem offer.userId { conn }
    have hrequests : (s.storeUser offer.roomId offer.userId { conn }).requests = s.requests := by
      rw [storeUser, hroom]
      rfl
    rw [enterRoom, hroom]
    refine ⟨?_, (huser _ _).trans (if_pos ⟨rfl, rfl⟩)⟩
    show Tracks (s.storeUser offer.roomId offer.userId { conn }).requests _ _
    rw [hrequests, table_newUser hnew huser, funext fun r => propext (mem_storeUser s _ _ _ r)]
    exact h

theorem createProducerTransport_tracked (h : s.Tracked)
    (huser : s.user offer.roomId offer.userId = some { conn }) :
    ∃ producer s', s.createProducerTransport env offer = (producer, s') ∧ s'.Tracked ∧
      s'.user offer.roomId offer.userId = some { conn, producer } := by
  obtain ⟨transportId, finger, password, s₁, hs₁, hne, hmap, hrequests⟩ :=
    createTransport_spec env s offer.roomId
  set producer : ProducerTransport :=
    { transportId, fingerprint := finger, fingerPassword := password }
  have hempty : s.table (offer.roomId, offer.userId, .up) = none :=
    table_of_core (core_of_user huser) .up
  have htracks : Tracks s.requests (update s.table (offer.roomId, offer.userId, .up) none)
      (· ∈ s.roomMap) := by
    rw [update_eq_self_iff.mpr hempty.symm]
    exact h
  obtain ⟨htracked, hstored⟩ := modifyUser_tracked (f := fun user => { user with producer })
    htracks hmap hrequests huser (fun d hd => by cases d with
      | up => exact absurd rfl hd
      | down => rfl) rfl hne
  refine ⟨producer, _, by rw [createProducerTransport, hs₁],
    htracked.quiet (.writeAll _ _ (by simp [Request.neutral])), ?_⟩
  rw [user_congr (roomMap_writeAll _ _)]
  exact hstored

theorem produce_quiet (observerId : Letters) {producer : ProducerTransport}
    (huser : s.user offer.roomId offer.userId = some { conn, producer }) :
    Quiet s (s.produce env conn offer observerId producer) := by
  refine (Quiet.choices s _).trans ((Quiet.modifyUser _ _ _ ?_ ?_).trans
    ((Quiet.writeAll _ _ ?_).trans (.notify _ _)))
  · exact fun _ => rfl
  · intro u hu
    have hu : s.user offer.roomId offer.userId = some u := hu
    rw [huser] at hu
    cases hu
    funext d
    cases d <;> rfl
  · simp [Request.neutral]

theorem processUpOfferSdp_tracked (h : s.Tracked) (hnew : s.user offer.roomId offer.userId = none) :
    ∃ s', s'.Tracked ∧ (s.processUpOfferSdp env conn offer = .ok s' ∨
      s.processUpOfferSdp env conn offer = .error s') := by
  obtain ⟨hentered, huser⟩ := enterRoom_tracked env h conn hnew
  obtain ⟨producer, s₁, hs₁, htracked, hstored⟩ :=
    createProducerTransport_tracked env hentered huser
  unfold processUpOfferSdp
  simp only [hs₁]
  split
  · exact ⟨s₁, htracked, .inr rfl⟩
  rename_i name content hfinger
  have hconnected := htracked.quiet (.write s₁
    (.connect producer.transportId name content "auto".toList) rfl)
  have hproduced := hconnected.quiet (produce_quiet env
    (s.enterRoom env conn offer).1 hstored)
  exact ⟨_, processDownOfferSdp_tracked env hproduced offer.roomId, .inl rfl⟩

theorem processDownAnswerSdp_tracked (h : s.Tracked) (answer : SdpRequest) :
    ∃ s', s'.Tracked ∧ (s.processDownAnswerSdp env answer = .ok s' ∨
      s.processDownAnswerSdp env answer = .error s') := by
  unfold processDownAnswerSdp
  split
  · exact ⟨s, h, .inl rfl⟩
  rename_i user huser
  split
  · exact ⟨s, h, .inr rfl⟩
  rename_i name content hfinger
  refine ⟨_, ?_, .inl rfl⟩
  have hconnected := h.quiet (.write s
    (.connect user.consumer.transportId name content "client".toList) rfl)
  refine hconnected.quiet ((Quiet.choices _ _).trans
    (Quiet.foldl (fun s => s) (fun s remote => ?_) _ _))
  refine (Quiet.choices s _).trans (.writeAll _ _ fun r hr => ?_)
  obtain ⟨entry, -, hr⟩ := mem_flatMap.mp hr
  rcases mem_pair.mp hr with rfl | rfl
  · rfl
  · rfl

/-! ### Disconnects -/

theorem closeProducers_quiet (s : Server) (producer : ProducerTransport) :
    Quiet s (s.closeProducers env producer) := by
  refine (Quiet.choices s _).trans (.writeAll _ _ fun r hr => ?_)
  obtain ⟨entry, -, rfl⟩ := mem_map.mp hr
  rfl

theorem leave_spec (h : s.Tracked) (huser : s.user roomId userId = some user) :
    (s.leave env roomId userId user).Tracked ∧
      (∀ r, r ∈ (s.leave env roomId userId user).roomMap ↔ r ∈ s.roomMap) ∧
      ∀ r u, (s.leave env roomId userId user).core r u =
        if r = roomId ∧ u = userId then none else s.core r u := by
  have hquiet₁ := closeProducers_quiet env s user.producer
  unfold leave
  set s₁ := s.closeProducers env user.producer
  have htracked : s₁.Tracked := h.quiet hquiet₁
  have hcore : s₁.core roomId userId = some (user.conn, user.transportId) :=
    (hquiet₁.cores roomId userId).trans (core_of_user huser)
  set s₂ := s₁.write (.closeTransport roomId user.producer.transportId) with hs₂
  have hquiet₃ := closeConsumers_quiet env s₂ user.consumer
    fun _ consumer => consumer.consumerId
  set s₃ := s₂.closeConsumers env user.consumer fun _ consumer => consumer.consumerId
  obtain ⟨more, hmore, hneutral⟩ := hquiet₃.requests
  -- both places are emptied in the table, one after the other
  have hup : Tracks s₂.requests (update s₁.table (roomId, userId, .up) none) (· ∈ s₁.roomMap) := by
    rw [hs₂, requests_write]
    exact tracks_closeTransport htracked _ _ (table_of_core hcore .up) table_ne_nil
  have hdown := tracks_closeTransport (hup.neutral hneutral) (roomId, userId, .down)
    user.consumer.transportId (by rw [update_of_ne (by simp)]; exact table_of_core hcore .down)
    (fun k x hx => by
      by_cases hk : k = (roomId, userId, .up)
      · rw [hk, update_self] at hx
        cases hx
      · rw [update_of_ne hk] at hx
        exact table_ne_nil k x hx)
  set s₄ := s₃.write (.closeTransport roomId user.consumer.transportId)
  have hrooms : ∀ r, r ∈ (s₄.deleteUser roomId userId).roomMap ↔ r ∈ s₁.roomMap :=
    fun r => (mem_deleteUser s₄ roomId userId r).trans (hquiet₃.rooms r)
  have hcores : ∀ r u, (s₄.deleteUser roomId userId).core r u =
      if r = roomId ∧ u = userId then none else s₁.core r u := by
    intro r u
    rw [core, user_deleteUser]
    split_ifs
    · rfl
    · exact hquiet₃.cores r u
  refine ⟨?_, fun r => (hrooms r).trans (hquiet₁.rooms r), fun r u => ?_⟩
  · show Tracks (s₄.deleteUser roomId userId).requests _ _
    rw [requests_deleteUser, requests_write, hmore, funext fun r => propext (hrooms r),
      table_delete (s := s₁) ((hcores roomId userId).trans (if_pos ⟨rfl, rfl⟩))
        fun r u hid => (hcores r u).trans (if_neg hid)]
    exact hdown
  · rw [hcores, hquiet₁.cores]

/-- Users of a room leave it, or they are counted. -/
structure Clears (roomId : Text) (userIds : List Text) (a b : ℕ × Server) : Prop where
  tracked : b.2.Tracked
  le : a.1 ≤ b.1
  absent : ∀ u, a.2.core roomId u = none → b.2.core roomId u = none
  gone : b.1 = a.1 → ∀ u ∈ userIds, b.2.core roomId u = none

theorem clearUser_clears (conn : Conn) (roomId userId : Text) (total : ℕ) (h : s.Tracked) :
    Clears roomId [userId] (total, s) (clearUser env conn roomId (total, s) userId) := by
  unfold clearUser
  cases huser : s.user roomId userId with
  | none =>
    simp only [huser]
    refine ⟨h, le_rfl, fun _ hu => hu, fun _ => ?_⟩
    rw [forall_mem_singleton, core, huser]
    rfl
  | some user =>
    simp only [huser]
    -- a user of another connection stays and is counted
    by_cases hconn : user.conn = conn
    · obtain ⟨hleft, -, hcores⟩ := leave_spec env h huser
      rw [if_pos hconn]
      refine ⟨hleft, le_rfl, fun u hu => ?_, fun _ => ?_⟩
      · rw [hcores]
        split_ifs
        · rfl
        · exact hu
      · rw [forall_mem_singleton, hcores, if_pos ⟨rfl, rfl⟩]
    · rw [if_neg hconn]
      exact ⟨h, Nat.le_succ total, fun _ hu => hu,
        fun hsame => absurd hsame (Nat.succ_ne_self total)⟩

theorem clearUsers_clears (conn : Conn) (roomId : Text) (userIds : List Text) :
    ∀ {p : ℕ × Server}, p.2.Tracked →
      Clears roomId userIds p (userIds.foldl (clearUser env conn roomId) p) := by
  induction userIds with
  | nil => exact fun h => ⟨h, le_rfl, fun _ hu => hu, by simp⟩
  | cons userId userIds ih =>
    intro p h
    have hfirst := clearUser_clears env conn roomId userId p.1 h
    have hrest := ih hfirst.tracked
    have hle := hfirst.le.trans hrest.le
    refine ⟨hrest.tracked, hle, fun u hu => hrest.absent u (hfirst.absent u hu), fun hsame => ?_⟩
    have hsame' := hfirst.le.antisymm (hrest.le.trans hsame.le)
    exact forall_mem_cons.mpr ⟨hrest.absent _ (hfirst.gone hsame'.symm _ mem_cons_self),
      hrest.gone (hsame.trans hsame')⟩

theorem closeRoom_tracked (h : s.Tracked) (hempty : ∀ u, s.core roomId u = none) :
    { s.write (.closeRouter roomId) with roomMap := s.roomMap.erase roomId : Server }.Tracked := by
  have htracks := Tracks.closeRouter h roomId fun place x hx heq => by
    obtain ⟨core, hcore, -, rfl⟩ := table_eq_some hx
    have hroom : place.1 = roomId := heq
    rw [hroom, hempty] at hcore
    cases hcore
  have hcores : ∀ r u, ({ s.write (.closeRouter roomId) with
      roomMap := s.roomMap.erase roomId } : Server).core r u = s.core r u := by
    intro r u
    by_cases hr : r = roomId
    · rw [hr, hempty, core, user, lookup_erase]
      rfl
    · rw [core, core, user, user, lookup_erase_ne hr]
  show Tracks (s.write (.closeRouter roomId)).requests _ (· ∈ s.roomMap.erase roomId)
  rw [requests_write, table_congr hcores]
  simp only [mem_erase]
  exact htracks

theorem clearRoom_tracked (h : s.Tracked) (conn : Conn) (roomId : Text) :
    (clearRoom env conn s roomId).Tracked := by
  unfold clearRoom
  split
  · exact h
  rename_i room hroom
  have hclears := clearUsers_clears env conn roomId
    (env.order s.choices room.userIdUserMap.keys) (p := (0, _))
    (h.quiet (.choices s (s.choices + 1)))
  generalize hfold : List.foldl _ _ _ = cleared at hclears
  obtain ⟨htracked, -, hnone, hgone⟩ := hclears
  simp only [choose, hfold]
  split_ifs with hzero
  · refine closeRoom_tracked htracked fun u => ?_
    by_cases hu : u ∈ room.userIdUserMap
    · exact hgone hzero u ((env.order_perm _ _).mem_iff.mpr hu)
    refine hnone u ?_
    show (s.user roomId u).map _ = none
    rw [user, hroom, bind_some, lookup_eq_none.mpr hu]
    rfl
  · exact htracked

theorem clearUserInfo_tracked (h : s.Tracked) : (s.clearUserInfo env conn).Tracked := by
  have hcleared : ((env.order s.choices s.roomMap.keys).foldl (clearRoom env conn)
      { s with choices := s.choices + 1 }).Tracked :=
    List.foldlRecOn (motive := Tracked) _ (clearRoom env conn) (h.quiet (.choices s _))
      fun s hs roomId _ => clearRoom_tracked env hs conn roomId
  show Tracked (if _ then _ else _)
  split_ifs
  · exact processDownOfferSdp_tracked env hcleared _
  · exact hcleared

/-! ### Runs -/

/-- An up offer is of a user that is not in the room. -/
def JoinsOnce (s : Server) : Event → Prop
  | .upOffer _ offer => s.user offer.roomId offer.userId = none
  | _ => True

instance (s : Server) : ∀ event, Decidable (JoinsOnce s event)
  | .upOffer _ offer => inferInstanceAs (Decidable (s.user offer.roomId offer.userId = none))
  | .downAnswer .. => .isTrue trivial
  | .disconnect _ => .isTrue trivial

theorem step_tracked (h : s.Tracked) {event : Event} (hjoin : JoinsOnce s event) :
    (step env s event).Tracked := by
  have hrecovered : ∀ conn result, (∃ s', s'.Tracked ∧ (result = .ok s' ∨ result = .error s')) →
      (recovered env conn result).Tracked := by
    rintro conn result ⟨s', htracked, rfl | rfl⟩
    · exact htracked
    · exact clearUserInfo_tracked env htracked
  cases event with
  | upOffer conn offer => exact hrecovered conn _ (processUpOfferSdp_tracked env h hjoin)
  | downAnswer conn answer => exact hrecovered conn _ (processDownAnswerSdp_tracked env h answer)
  | disconnect conn => exact clearUserInfo_tracked env h

theorem tracked_start : ({} : Server).Tracked := by
  have htable : ({} : Server).table = fun _ => none := funext fun _ => rfl
  have hrooms : (· ∈ ({} : Server).roomMap) = fun _ => False := by
    funext r
    exact propext ⟨fun h => (by cases h), False.elim⟩
  show Tracks [] _ _
  rw [htable, hrooms]
  exact Tracks.start

theorem run_tracked {events : List Event} (h : s.Tracked)
    (hjoin : Along (always (step env)) JoinsOnce s events) :
    (events.foldl (step env) s).Tracked := by
  induction events generalizing s with
  | nil => exact h
  | cons event events ih =>
    obtain ⟨hfirst, hrest⟩ := along_always_cons.mp hjoin
    exact ih (step_tracked env h hfirst) hrest

/-- The ids of the transports that are stored in the users of all rooms. -/
def storedTransportIds (s : Server) : Finset Text :=
  (s.roomMap.entries.flatMap fun room => room.2.userIdUserMap.entries.flatMap fun user =>
    [user.2.transportId .up, user.2.transportId .down]).toFinset.erase []

theorem mem_storedTransportIds {transportId : Text} :
    transportId ∈ s.storedTransportIds ↔ ∃ place roomId, s.table place =
      some (roomId, transportId) := by
  simp only [storedTransportIds, Finset.mem_erase, List.mem_toFinset, mem_flatMap]
  constructor
  · rintro ⟨hne, room, hroom, user, huser, hid⟩
    have hstored : s.user room.1 user.1 = some user.2 :=
      user_eq_some.mpr ⟨room.2, mem_lookup_iff.mpr hroom, mem_lookup_iff.mpr huser⟩
    obtain ⟨direction, rfl⟩ : ∃ direction, user.2.transportId direction = transportId := by
      rcases mem_pair.mp hid with rfl | rfl
      · exact ⟨.up, rfl⟩
      · exact ⟨.down, rfl⟩
    refine ⟨(room.1, user.1, direction), room.1, ?_⟩
    rw [table_of_core (core_of_user hstored)]
    exact if_neg hne
  · rintro ⟨⟨r, u, direction⟩, roomId, htable⟩
    obtain ⟨core, hcore, hne, heq⟩ := table_eq_some htable
    obtain ⟨user, huser, rfl⟩ := map_eq_some_iff.mp hcore
    obtain ⟨room, hroom, hlookup⟩ := user_eq_some.mp huser
    rw [(Prod.mk.inj heq).2]
    refine ⟨hne, ⟨r, room⟩, mem_lookup_iff.mp hroom, ⟨u, user⟩,
      mem_lookup_iff.mp hlookup, ?_⟩
    cases direction <;> simp

/-- **No leaked or dangling objects.**  If no user joins a room that it is in, and the worker
refuses nothing that creates an object, then the open transports and routers are those that
the server has stored. -/
theorem run_objects (events : List Event) (w : Worker)
    (hjoin : Along (always (step env)) JoinsOnce {} events)
    (hworker : run Worker.handle {} (events.foldl (step env) {}).requests = .ok w) :
    w.transports.image Prod.snd = (events.foldl (step env) {}).storedTransportIds ∧
      w.routers = (events.foldl (step env) {}).roomMap.keys.toFinset := by
  obtain ⟨howned, hrouters⟩ := run_tracked env tracked_start hjoin w hworker
  constructor
  · ext transportId
    rw [mem_storedTransportIds, Finset.mem_image]
    simp only [howned.mem_iff, Prod.exists]
    grind
  · ext roomId
    rw [hrouters, List.mem_toFinset]
    rfl

/-- A text of ten equal letters. -/
def sampleLetters (i : ℕ) : Letters where
  text := List.replicate 10 (letterBytes.get ⟨i % 52, Nat.mod_lt i (by decide)⟩)
  allowed c hc := by
    rw [(mem_replicate.mp hc).2]
    exact get_mem _ _

def sampleEnv : Env where
  randStringBytes := sampleLetters
  length_randStringBytes _ := length_replicate ..
  randomStringWithHyphen _ := TextOver.unset
  generateSsrc i := UInt32.ofNat (1000 + i)
  order _ l := l
  order_perm _ l := List.Perm.refl l
  sscanf _ := 0
  localIp := "127.0.0.1".toList
  sha256 := "AA".toList
  generateMsid _ := "msid".toList
  unixNano i := i

def sampleRequest (userId : String) : SdpRequest :=
  { roomId := "room".toList, userId := userId.toList
    sdp := "a=fingerprint:sha-256 AB:CD\r\n".toList }

def sampleVisit : List Event :=
  [.upOffer 1 (sampleRequest "ann"), .upOffer 2 (sampleRequest "bob"),
    .downAnswer 2 (sampleRequest "bob"), .disconnect 1]

theorem run_sampleVisit_objects : ∃ w,
    run Worker.handle {} (sampleVisit.foldl (step sampleEnv) {}).requests = .ok w ∧
      w.transports.image Prod.snd = (sampleVisit.foldl (step sampleEnv) {}).storedTransportIds ∧
      w.routers = (sampleVisit.foldl (step sampleEnv) {}).roomMap.keys.toFinset := by
  obtain ⟨w, hw, -⟩ : ∃ w, run Worker.handle {} (sampleVisit.foldl (step sampleEnv) {}).requests =
      .ok w ∧ w.transports.card = 2 := exists_ok_of_map (by decide +kernel)
  exact ⟨w, hw, run_objects sampleEnv sampleVisit w (by decide +kernel) hw⟩

def sampleRejoin : List Event :=
  [.upOffer 1 (sampleRequest "ann"), .upOffer 1 (sampleRequest "ann")]

/-- The transport of the first time is still open, and nobody knows it. -/
theorem run_sampleRejoin_leaks : ∃ w,
    run Worker.handle {} (sampleRejoin.foldl (step sampleEnv) {}).requests = .ok w ∧
      w.transports.image Prod.snd ≠
        (sampleRejoin.foldl (step sampleEnv) {}).storedTransportIds := by
  obtain ⟨w, hw, hcard⟩ : ∃ w, run Worker.handle {}
      (sampleRejoin.foldl (step sampleEnv) {}).requests = .ok w ∧
      decide (w.transports.image Prod.snd =
        (sampleRejoin.foldl (step sampleEnv) {}).storedTransportIds) = false :=
    exists_ok_of_map (by decide +kernel)
  exact ⟨w, hw, of_decide_eq_false hcard⟩

end Server

end Mediasoup.Signaling
