/-
The signaling server (`worker.go`): rooms, users and the requests that it writes to the
worker.

A handler takes the state and returns the state after it; a handler that panics returns the
state in which it does.  Requests are kept in the order in which they are written, and all
writes succeed.  What the program does not determine comes from `Env`: random texts, the clock
and the order of a map.

* `processUpOfferSdp`, `processDownOfferSdp`, `processDownAnswerSdp`, `clearUserInfo` — the
  handlers,
* `step` — an event of a client.  A panic unwinds to `handleWebSocket`, whose deferred
  function clears the user.
-/
import Mediasoup.Signaling.DownOffer

namespace Mediasoup.Signaling

open AList Json

/-! ### Requests -/

/-- The requests to the worker, with what is not constant in them. -/
inductive Request where
  | createRouter (routerId : Text)
  | createAudioLevelObserver (routerId : Text) (rtpObserverId : Letters)
  | createActiveSpeakerObserver (routerId : Text) (rtpObserverId : Letters)
  | createWebRtcTransportWithServer (routerId : Text) (transportId : Letters)
      (finger password : Credential)
  | enableTraceEvent (transportId : Letters)
  | setMaxIncomingBitrate (transportId : Letters)
  | connect (transportId : Letters) (name content role : Text)
  | produce (transportId : Letters) (parameters : MediaParameters)
  | addProducer (rtpObserverId producerId : Letters)
  | consume (transportId : Letters) (consumer : Consumer)
  | resume (consumerId : Letters)
  | closeConsumer (transportId consumerId : Letters)
  | closeProducer (transportId producerId : Letters)
  | closeTransport (routerId : Text) (transportId : Letters)
  | closeRouter (routerId : Text)
  deriving DecidableEq

/-! ### The state -/

/-- A websocket connection.  Two connections are the same if `RemoteAddr` returns the same
pointer. -/
abbrev Conn := ℕ

structure ProducerTransport where
  transportId : Letters := TextOver.unset
  fingerprint : Credential := TextOver.unset
  fingerPassword : Credential := TextOver.unset
  producers : AList fun _ : Letters => MediaParameters := ∅

/-- The consumers are those of each remote user. -/
structure ConsumerTransport where
  transportId : Letters := TextOver.unset
  fingerprint : Credential := TextOver.unset
  fingerPassword : Credential := TextOver.unset
  consumers : AList fun _ : Text => AList fun _ : Letters => Consumer := ∅

/-- A user is stored under its `UserId`, in the room with its `RoomId`. -/
structure User where
  conn : Conn
  producer : ProducerTransport := {}
  consumer : ConsumerTransport := {}

structure Room where
  activeSpeakerObserverId : Letters
  audioLevelObserverId : Letters
  userIdUserMap : AList fun _ : Text => User

/-- What clients are sent: all that an answer is generated from, and an offer with the
transport that it is for. -/
inductive Notice where
  | answer (conn : Conn) (producer : ProducerTransport) (offerSdp : Text)
  | offer (conn : Conn) (consumer : ConsumerTransport) (sdp : DownOffer)

structure Server where
  roomMap : AList fun _ : Text => Room := ∅
  /-- The counter of `GneId`; `StartWorker` has written the first request. -/
  id : Int64 := 1
  /-- The number of choices that `Env` has made. -/
  choices : ℕ := 0
  sent : List (Int64 × Request) := []
  notices : List Notice := []

/-- What the program does not determine, choice by choice. -/
structure Env where
  randStringBytes : ℕ → Letters
  length_randStringBytes : ∀ i, (randStringBytes i).text.length = 10
  randomStringWithHyphen : ℕ → Credential
  generateSsrc : ℕ → UInt32
  /-- The order in which a map is iterated. -/
  order : ∀ {α : Type}, ℕ → List α → List α
  order_perm : ∀ {α : Type} (i : ℕ) (l : List α), (order i l).Perm l
  /-- `fmt.Sscanf` with the format "%d". -/
  sscanf : Text → UInt32
  localIp : Text
  /-- The fingerprint of the worker. -/
  sha256 : Text
  generateMsid : ℕ → Text
  unixNano : ℕ → ℕ

namespace Server

/-! ### Elementary operations -/

def write (s : Server) (request : Request) : Server :=
  { s with id := s.id + 1, sent := s.sent ++ [(s.id + 1, request)] }

def writeAll (s : Server) (requests : List Request) : Server := requests.foldl write s

def notify (s : Server) (notice : Notice) : Server := { s with notices := s.notices ++ [notice] }

/-- The choice that is made next. -/
def choose {α : Type} (s : Server) (pick : ℕ → α) : α × Server :=
  (pick s.choices, { s with choices := s.choices + 1 })

def user (s : Server) (roomId userId : Text) : Option User :=
  (s.roomMap.lookup roomId).bind fun room => room.userIdUserMap.lookup userId

/-- The user of a room is stored, over one with the same id. -/
def storeUser (s : Server) (roomId userId : Text) (user : User) : Server :=
  match s.roomMap.lookup roomId with
  | none => s
  | some room => { s with
      roomMap := s.roomMap.insert roomId
        { room with userIdUserMap := room.userIdUserMap.insert userId user } }

/-- A change through a pointer to a user. -/
def modifyUser (s : Server) (roomId userId : Text) (f : User → User) : Server :=
  match s.user roomId userId with
  | none => s
  | some user => s.storeUser roomId userId (f user)

def deleteUser (s : Server) (roomId userId : Text) : Server :=
  match s.roomMap.lookup roomId with
  | none => s
  | some room => { s with
      roomMap := s.roomMap.insert roomId
        { room with userIdUserMap := room.userIdUserMap.erase userId } }

def requests (s : Server) : List Request := s.sent.map Prod.snd

theorem requests_write (s : Server) (request : Request) :
    (s.write request).requests = s.requests ++ [request] := by
  simp [requests, write]

theorem requests_writeAll (s : Server) (requests : List Request) :
    (s.writeAll requests).requests = s.requests ++ requests := by
  induction requests generalizing s with
  | nil => exact (List.append_nil _).symm
  | cons request requests ih =>
    show ((s.write request).writeAll requests).requests = _
    rw [ih, requests_write, List.append_assoc, List.singleton_append]

theorem roomMap_writeAll (s : Server) (requests : List Request) :
    (s.writeAll requests).roomMap = s.roomMap := by
  induction requests generalizing s with
  | nil => rfl
  | cons request requests ih => exact ih (s.write request)

variable {s : Server} {roomId : Text}

theorem user_eq_some {userId : Text} {user : User} : s.user roomId userId = some user ↔
      ∃ room, s.roomMap.lookup roomId = some room ∧ room.userIdUserMap.lookup userId = some user :=
  Option.bind_eq_some_iff

variable {s' : Server} {room : Room}

theorem user_congr (h : s'.roomMap = s.roomMap) : s'.user = s.user := by
  funext roomId userId
  rw [user, user, h]

theorem user_insert (h : s'.roomMap = s.roomMap.insert roomId room)
    (roomId' userId : Text) : s'.user roomId' userId =
      if roomId' = roomId then room.userIdUserMap.lookup userId else s.user roomId' userId := by
  rw [user, h]
  split_ifs with hroom
  · rw [hroom, lookup_insert]
    rfl
  · rw [lookup_insert_ne hroom]
    rfl

theorem user_insert_user {userId : Text} {u : Option User}
    (h : s'.roomMap = s.roomMap.insert roomId room) (hself : room.userIdUserMap.lookup userId = u)
    (hother : ∀ v, v ≠ userId → room.userIdUserMap.lookup v = s.user roomId v)
    (roomId' userId' : Text) : s'.user roomId' userId' =
      if roomId' = roomId ∧ userId' = userId then u else s.user roomId' userId' := by
  rw [user_insert h]
  grind

theorem mem_insert_iff (h : s.roomMap.lookup roomId = some room) (room' : Room)
    (r : Text) : r ∈ s.roomMap.insert roomId room' ↔ r ∈ s.roomMap := by
  have hmem : roomId ∈ s.roomMap := lookup_isSome.mp (by rw [h]; rfl)
  rw [mem_insert]
  constructor
  · rintro (rfl | hr)
    · exact hmem
    · exact hr
  · exact .inr

theorem user_storeUser (hroom : roomId ∈ s.roomMap) (userId : Text) (u : User)
    (roomId' userId' : Text) : (s.storeUser roomId userId u).user roomId' userId' =
      if roomId' = roomId ∧ userId' = userId then some u else s.user roomId' userId' := by
  obtain ⟨room, hlookup⟩ := Option.isSome_iff_exists.mp (lookup_isSome.mpr hroom)
  have hmap : (s.storeUser roomId userId u).roomMap = s.roomMap.insert roomId
      { room with userIdUserMap := room.userIdUserMap.insert userId u } := by
    rw [storeUser, hlookup]
  refine user_insert_user hmap (lookup_insert _) (fun v hv => ?_) roomId' userId'
  rw [user, hlookup]
  exact lookup_insert_ne hv

theorem mem_storeUser (s : Server) (roomId userId : Text) (u : User) (r : Text) :
    r ∈ (s.storeUser roomId userId u).roomMap ↔ r ∈ s.roomMap := by
  cases hlookup : s.roomMap.lookup roomId with
  | none => rw [storeUser, hlookup]
  | some room =>
    rw [storeUser, hlookup]
    exact mem_insert_iff hlookup _ r

theorem user_modifyUser (s : Server) (roomId userId : Text) (f : User → User)
    (roomId' userId' : Text) : (s.modifyUser roomId userId f).user roomId' userId' =
      if roomId' = roomId ∧ userId' = userId then (s.user roomId userId).map f
      else s.user roomId' userId' := by
  cases huser : s.user roomId userId with
  | none =>
    rw [modifyUser, huser]
    split_ifs with hid
    · rw [hid.1, hid.2, huser]
      rfl
    · rfl
  | some u =>
    have hroom : roomId ∈ s.roomMap := by
      obtain ⟨room, hlookup, -⟩ := user_eq_some.mp huser
      exact lookup_isSome.mp (by rw [hlookup]; rfl)
    rw [modifyUser, huser]
    exact user_storeUser hroom userId (f u) roomId' userId'

theorem mem_modifyUser (s : Server) (roomId userId : Text) (f : User → User) (r : Text) :
    r ∈ (s.modifyUser roomId userId f).roomMap ↔ r ∈ s.roomMap := by
  cases huser : s.user roomId userId with
  | none => rw [modifyUser, huser]
  | some u =>
    rw [modifyUser, huser]
    exact mem_storeUser s roomId userId (f u) r

theorem requests_modifyUser (s : Server) (roomId userId : Text) (f : User → User) :
    (s.modifyUser roomId userId f).requests = s.requests := by
  unfold modifyUser storeUser
  split
  · rfl
  · split <;> rfl

theorem user_deleteUser (s : Server) (roomId userId roomId' userId' : Text) :
    (s.deleteUser roomId userId).user roomId' userId' =
      if roomId' = roomId ∧ userId' = userId then none else s.user roomId' userId' := by
  cases hlookup : s.roomMap.lookup roomId with
  | none =>
    rw [deleteUser, hlookup]
    split_ifs with hid
    · rw [hid.1, user, hlookup]
      rfl
    · rfl
  | some room =>
    have hmap : (s.deleteUser roomId userId).roomMap = s.roomMap.insert roomId
        { room with userIdUserMap := room.userIdUserMap.erase userId } := by
      rw [deleteUser, hlookup]
    refine user_insert_user hmap (lookup_erase _ _) (fun v hv => ?_) roomId' userId'
    rw [user, hlookup]
    exact lookup_erase_ne hv

theorem mem_deleteUser (s : Server) (roomId userId r : Text) :
    r ∈ (s.deleteUser roomId userId).roomMap ↔ r ∈ s.roomMap := by
  cases hlookup : s.roomMap.lookup roomId with
  | none => rw [deleteUser, hlookup]
  | some room =>
    rw [deleteUser, hlookup]
    exact mem_insert_iff hlookup _ r

theorem requests_deleteUser (s : Server) (roomId userId : Text) :
    (s.deleteUser roomId userId).requests = s.requests := by
  unfold deleteUser
  split <;> rfl

variable (env : Env) (s : Server)

/-- A new transport in the router of a room: its id, finger and password. -/
def createTransport (roomId : Text) : (Letters × Credential × Credential) × Server :=
  let (transportId, s) := s.choose env.randStringBytes
  let (finger, s) := s.choose env.randomStringWithHyphen
  let (password, s) := s.choose env.randomStringWithHyphen
  ((transportId, finger, password),
    s.write (.createWebRtcTransportWithServer roomId transportId finger password))

/-! ### Down offers -/

/-- The consumers of a transport are closed; `idOf` is where their ids are taken from. -/
def closeConsumers (consumer : ConsumerTransport) (idOf : Letters → Consumer → Letters) : Server :=
  let (remotes, s) := s.choose fun i => env.order i consumer.consumers.entries
  remotes.foldl (fun s remote =>
    let (consumers, s) := s.choose fun i => env.order i remote.2.entries
    s.writeAll (consumers.map fun entry =>
      .closeConsumer consumer.transportId (idOf entry.1 entry.2))) s

/-- The consumer of one producer of another user. -/
def consumeProducer (roomId otherUserId : Text) (producerId : Letters)
    (producer : MediaParameters) : Consumer × Server :=
  let (consumerId, s) := s.choose env.randStringBytes
  let (ssrcs, s) := s.choose fun i j => env.generateSsrc (i + j)
  let (consumer, shared) :=
    if isSimulcast producer then consumeSimulcast consumerId producerId (ssrcs 0) producer
    else consumeSimple consumerId producerId ssrcs producer
  let s := { s with choices := s.choices + producer.rtpParameters.encodings.length }
  (consumer, s.modifyUser roomId otherUserId fun user =>
    { user with producer :=
      { user.producer with producers := user.producer.producers.insert producerId shared } })

/-- The consumers of the producers of another user. -/
def consumeUser (roomId notifyUserId : Text) (s : Server) (otherUserId : Text) : Server :=
  match s.user roomId otherUserId with
  | none => s
  | some otherUser =>
    let (producers, s) := s.choose fun i => env.order i otherUser.producer.producers.entries
    let (remoteConsumer, s) := producers.foldl
      (fun (remoteConsumer, s) entry =>
        let (consumer, s) := s.consumeProducer env roomId otherUserId entry.1 entry.2
        (remoteConsumer.insert consumer.consumerId consumer, s))
      ((∅ : AList fun _ : Letters => Consumer), s)
    s.modifyUser roomId notifyUserId fun user =>
      { user with consumer :=
        { user.consumer with
          consumers := user.consumer.consumers.insert otherUserId remoteConsumer } }

/-- The streams of a user are closed, with their transport, and there is a new transport. -/
def renewConsumerTransport (roomId notifyUserId : Text) (consumer : ConsumerTransport) : Server :=
  let s := s.closeConsumers env consumer fun consumerId _ => consumerId
  let s := if consumer.transportId.text ≠ [] then
      s.write (.closeTransport roomId consumer.transportId)
    else s
  let ((transportId, fingerprint, fingerPassword), s) := s.createTransport env roomId
  let s := s.modifyUser roomId notifyUserId fun user =>
    { user with consumer := { transportId, fingerprint, fingerPassword } }
  s.writeAll [.enableTraceEvent transportId, .setMaxIncomingBitrate transportId]

/-- The consumers of a transport in the order of iteration. -/
def remotes (consumer : ConsumerTransport) (i : ℕ) : List Remote :=
  (env.order i consumer.consumers.entries).mapIdx fun j remote =>
    (remote.1, env.order (i + 1 + j) remote.2.entries)

def offerSettings (consumer : ConsumerTransport) (i : ℕ) : OfferSettings where
  algorithmName := "sha-256".toList
  algorithmValue := env.sha256
  iceUfrag := consumer.fingerprint.text
  icePwd := consumer.fingerPassword.text
  msid := env.generateMsid i
  ip := env.localIp
  port := 44445
  unixNano := env.unixNano i

/-- The offer is generated, which changes the stored consumers, and sent.  Without an offer
the Go function has panicked; it does not, since each consumer has an encoding. -/
def sendOffer (roomId : Text) (s : Server) (notifyUserId : Text) : Server :=
  match s.user roomId notifyUserId with
  | none => s
  | some user =>
    let (listed, s) := s.choose (remotes env user.consumer)
    let (p, s) := { s with choices := s.choices + listed.length }.choose
      (offerSettings env user.consumer)
    match generateDownOfferSdp p listed with
    | none => s
    | some sdp =>
      let consumer := { user.consumer with
        consumers := negotiatedConsumers listed user.consumer.consumers }
      let s := s.modifyUser roomId notifyUserId fun user => { user with consumer }
      s.notify (.offer user.conn consumer sdp)

/-- The streams of a user are made anew. -/
def renewConsumers (roomId : Text) (s : Server) (room : Room) (notifyUserId : Text)
    (notified : User) : Server :=
  let (userIds, s) := s.choose fun i => env.order i room.userIdUserMap.keys
  let s := s.renewConsumerTransport env roomId notifyUserId notified.consumer
  (userIds.filter (· ≠ notifyUserId)).foldl (consumeUser env roomId notifyUserId) s

/-- One user of the room gets a new transport and an offer. -/
def notifyUser (roomId : Text) (s : Server) (notifyUserId : Text) : Server :=
  match s.roomMap.lookup roomId, s.user roomId notifyUserId with
  | some room, some notified =>
    sendOffer env roomId (renewConsumers env roomId s room notifyUserId notified) notifyUserId
  | _, _ => s

def processDownOfferSdp (roomId : Text) : Server :=
  match s.roomMap.lookup roomId with
  | none => s
  | some room =>
    let (roomUsers, s) := s.choose fun i => env.order i room.userIdUserMap.keys
    if roomUsers.length ≤ 1 then s else roomUsers.foldl (notifyUser env roomId) s

/-! ### Offers and answers of clients -/

/-- `OfferReq` or `AnswerReq`. -/
structure SdpRequest where
  roomId : Text
  userId : Text
  sdp : Text

/-- The user is stored in its room.  The first user of a room creates the router and two
observers, whose ids are stored the wrong way round.  Returns the id of the observer that
the audio producer is added to. -/
def enterRoom (conn : Conn) (offer : SdpRequest) : Letters × Server :=
  let user : User := { conn }
  match s.roomMap.lookup offer.roomId with
  | none =>
    let s := s.write (.createRouter offer.roomId)
    let (audioLevelObserverId, s) := s.choose env.randStringBytes
    let s := s.write (.createAudioLevelObserver offer.roomId audioLevelObserverId)
    let (activeSpeakerObserverId, s) := s.choose env.randStringBytes
    let s := s.write (.createActiveSpeakerObserver offer.roomId activeSpeakerObserverId)
    let room : Room :=
      { activeSpeakerObserverId := audioLevelObserverId
        audioLevelObserverId := activeSpeakerObserverId
        userIdUserMap := AList.singleton offer.userId user }
    (audioLevelObserverId, { s with roomMap := s.roomMap.insert offer.roomId room })
  | some room => (room.audioLevelObserverId, s.storeUser offer.roomId offer.userId user)

/-- The transport of a new user. -/
def createProducerTransport (offer : SdpRequest) : ProducerTransport × Server :=
  let ((transportId, fingerprint, fingerPassword), s) := s.createTransport env offer.roomId
  let producer : ProducerTransport := { transportId, fingerprint, fingerPassword }
  let s := s.modifyUser offer.roomId offer.userId fun user => { user with producer }
  (producer, s.writeAll [.enableTraceEvent transportId, .setMaxIncomingBitrate transportId])

/-- The producers of a new user, and the answer. -/
def produce (conn : Conn) (offer : SdpRequest) (audioLevelObserverId : Letters)
    (producer : ProducerTransport) : Server :=
  let (ssrc, s) := s.choose env.generateSsrc
  let (audioParams, videoParams) := parseUpOfferSDP env.sscanf ssrc offer.sdp
  let (audioProduceId, s) := s.choose env.randStringBytes
  let (videoProduceId, s) := s.choose env.randStringBytes
  let audioParams := { audioParams with producerId := audioProduceId }
  let videoParams := { videoParams with producerId := videoProduceId }
  let producer := { producer with
    producers := (producer.producers.insert audioProduceId audioParams).insert videoProduceId
      videoParams }
  let s := s.modifyUser offer.roomId offer.userId fun user => { user with producer }
  let s := s.writeAll [.produce producer.transportId audioParams,
    .addProducer audioLevelObserverId audioProduceId, .produce producer.transportId videoParams]
  s.notify (.answer conn producer offer.sdp)

def processUpOfferSdp (conn : Conn) (offer : SdpRequest) : Except Server Server :=
  let (audioLevelObserverId, s) := s.enterRoom env conn offer
  let (producer, s) := s.createProducerTransport env offer
  match getFingerNameContent offer.sdp with
  | none => .error s
  | some (name, content) =>
    let s := s.write (.connect producer.transportId name content "auto".toList)
    let s := s.produce env conn offer audioLevelObserverId producer
    .ok (s.processDownOfferSdp env offer.roomId)

/-- The consumers that a client has accepted. -/
def consumeAll (consumer : ConsumerTransport) : Server :=
  let (remotes, s) := s.choose fun i => env.order i consumer.consumers.entries
  remotes.foldl (fun s remote =>
    let (consumers, s) := s.choose fun i => env.order i remote.2.entries
    s.writeAll (consumers.flatMap fun entry =>
      [.consume consumer.transportId entry.2, .resume entry.2.consumerId])) s

def processDownAnswerSdp (answer : SdpRequest) : Except Server Server :=
  match s.user answer.roomId answer.userId with
  | none => .ok s
  | some user =>
    match getFingerNameContent answer.sdp with
    | none => .error s
    | some (name, content) =>
      let s := s.write (.connect user.consumer.transportId name content "client".toList)
      .ok (s.consumeAll env user.consumer)

/-! ### Disconnects -/

def closeProducers (producer : ProducerTransport) : Server :=
  let (producers, s) := s.choose fun i => env.order i producer.producers.entries
  s.writeAll (producers.map fun entry => .closeProducer producer.transportId entry.2.producerId)

/-- The objects of a user are closed and the user is deleted. -/
def leave (roomId userId : Text) (user : User) : Server :=
  let s := s.closeProducers env user.producer
  let s := s.write (.closeTransport roomId user.producer.transportId)
  let s := s.closeConsumers env user.consumer fun _ consumer => consumer.consumerId
  let s := s.write (.closeTransport roomId user.consumer.transportId)
  s.deleteUser roomId userId

/-- One user of a room; `total` counts those who stay. -/
def clearUser (conn : Conn) (roomId : Text) (state : ℕ × Server) (userId : Text) : ℕ × Server :=
  let (total, s) := state
  match s.user roomId userId with
  | none => (total, s)
  | some user =>
    if user.conn = conn then (total, s.leave env roomId userId user) else (total + 1, s)

def clearRoom (conn : Conn) (s : Server) (roomId : Text) : Server :=
  match s.roomMap.lookup roomId with
  | none => s
  | some room =>
    let (userIds, s) := s.choose fun i => env.order i room.userIdUserMap.keys
    let (total, s) := userIds.foldl (clearUser env conn roomId) (0, s)
    if total = 0 then
      let s := s.write (.closeRouter roomId)
      { s with roomMap := s.roomMap.erase roomId }
    else s

/-- `ClearUserInfo`.  Only the last room of the iteration gets new offers. -/
def clearUserInfo (conn : Conn) : Server :=
  let (roomIds, s) := s.choose fun i => env.order i s.roomMap.keys
  let s := roomIds.foldl (clearRoom env conn) s
  let cleanRoomId := roomIds.getLast?.getD []
  if cleanRoomId ≠ [] then s.processDownOfferSdp env cleanRoomId else s

/-! ### Events -/

inductive Event where
  | upOffer (conn : Conn) (offer : SdpRequest)
  | downAnswer (conn : Conn) (answer : SdpRequest)
  | disconnect (conn : Conn)

/-- A handler of a connection returns or panics. -/
def recovered (conn : Conn) : Except Server Server → Server
  | .ok s => s
  | .error s => s.clearUserInfo env conn

def step : Event → Server
  | .upOffer conn offer => recovered env conn (s.processUpOfferSdp env conn offer)
  | .downAnswer conn answer => recovered env conn (s.processDownAnswerSdp env answer)
  | .disconnect conn => s.clearUserInfo env conn

end Server

end Mediasoup.Signaling
