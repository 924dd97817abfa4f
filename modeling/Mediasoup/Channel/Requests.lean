/-
Requests on the worker's channel, and the replies to them.

The text of a request is "id:method:handlerId:data".  It is answered by its constructor, if
the method is unknown, by the handler of the method, or by the socket, which catches the errors
that handlers throw.  Errors that the constructor throws are only logged.

* `Exchange` — what was replied on the channel, and whether the request at hand was replied to,
* `ChannelRequest.new`, `Worker.handleRequest` — the constructor and the dispatcher,
* `Worker.Answers` — each handler replies once, or throws before,
* `onConsumerSocketMessage_answers_iff` — when a request gets its reply.
-/
import Mathlib.Data.List.TakeWhile
import Mathlib.Data.Nat.Digits.Defs
import Mediasoup.Channel.ChannelSocket
import Mediasoup.Channel.PayloadChannelSocket
import Mediasoup.Lib.Handlers
import Mediasoup.Lib.Json

open List Option Handling

namespace Mediasoup

/-! ### Replies -/

inductive ErrorType where
  | error
  | typeError

inductive Reply (δ : Type) where
  | accepted (id : UInt32) (data : Option δ)
  | failed (id : UInt32) (type : ErrorType) (reason : List UInt8)

def Reply.id {δ : Type} : Reply δ → UInt32
  | accepted id _ => id
  | failed id _ _ => id

/-- The text is the UTF-8 encoding of some string. -/
def Utf8 (text : List UInt8) : Prop := ByteArray.IsValidUTF8 ⟨text.toArray⟩

instance (text : List UInt8) : Decidable (Utf8 text) :=
  inferInstanceAs (Decidable (ByteArray.IsValidUTF8 _))

/-- `nlohmann::json`, with the replies that it writes.  It does not write a text that is not
UTF-8 (`json::type_error`), and writes at most six characters for a byte. -/
structure JsonLibrary (δ : Type) where
  parse : List UInt8 → Except (List UInt8) δ
  isObject : δ → Bool
  isStructured : δ → Bool
  null : δ
  object : δ
  dump : Reply δ → Option (List UInt8)
  dump_failed : ∀ id type reason, (dump (.failed id type reason)).isSome ↔ Utf8 reason
  length_dump_failed : ∀ id type reason text, dump (.failed id type reason) = some text →
    text.length ≤ 64 + 6 * reason.length

/-- `MediaSoupError` and `MediaSoupTypeError`, `json::parse_error`, and all others. -/
inductive Exception where
  | mediaSoup (type : ErrorType) (what : List UInt8)
  | parseError
  | other

/-- A `%s` of `std::snprintf`. -/
def cString (text : List UInt8) : List UInt8 := text.takeWhile (· ≠ 0)

/-- `MS_THROW_ERROR` and `MS_THROW_TYPE_ERROR` with a buffer of 2000 bytes. -/
def throwing {σ α : Type} (type : ErrorType) (description : List UInt8) : Handling σ Exception α :=
  throw (.mediaSoup type (description.take 1999))

/-- The channel while a request is handled; `world` is all that the handlers work on. -/
structure Exchange (ω δ : Type) where
  world : ω
  closed : Bool := false
  replied : Bool := false
  sent : List (Reply δ) := []

section

variable {ω δ : Type} (lib : JsonLibrary δ)

abbrev Handler (ω δ α : Type) : Type := Handling (Exchange ω δ) Exception α

/-- `Send`, where the text is not too long. -/
def send (reply : Reply δ) (text : List UInt8) : Handler ω δ Unit :=
  modify fun s =>
    if s.closed ∨ ChannelSocket.payloadMaxLen < text.length then s
    else { s with sent := s.sent ++ [reply] }

/-- `Send` of a JSON value. -/
def sendJson (reply : Reply δ) : Handler ω δ Unit := do
  let s ← get
  if s.closed then return
  let text ← expect (lib.dump reply) .other
  send reply text

/-- A request is replied to once. -/
def markReplied : Handler ω δ Unit := do
  let s ← get
  assert (s.replied = false)
  modify fun s => { s with replied := true }

def accept (id : UInt32) : Handler ω δ Unit := do
  markReplied
  send (.accepted id none)
    (ascii "\x7b\"id\":" ++ ascii (String.ofList (Nat.toDigits 10 id.toNat)) ++
      ascii ",\"accepted\":true\x7d")

def acceptData (id : UInt32) (data : δ) : Handler ω δ Unit := do
  markReplied
  sendJson lib (.accepted id (if lib.isStructured data then some data else none))

/-- `Error` and `TypeError`. -/
def fail (id : UInt32) (type : ErrorType) (reason : List UInt8) : Handler ω δ Unit := do
  markReplied
  sendJson lib (.failed id type reason)

/-- The sockets reply to a request whose handler has thrown. -/
def answering (id : UInt32) (handle : Handler ω δ Unit) : Handler ω δ Unit :=
  catching handle fun
    | .mediaSoup type what => fail lib id type what
    | e => throw e

/-- The worker adds the method to an error of a handler, and may change its type. -/
def namingMethod {α : Type} (retype : ErrorType → ErrorType) (method : List UInt8)
    (handle : Handler ω δ α) : Handler ω δ α :=
  catching handle fun
    | .mediaSoup type what =>
      throwing (retype type) (cString what ++ ascii " [method:" ++ cString method ++ ascii "]")
    | e => throw e

end

/-! ### Requests -/

inductive MethodId where
  | workerClose | workerDump | workerGetResourceUsage | workerUpdateSettings
  | workerCreateWebRtcServer | workerCreateRouter | workerWebRtcServerClose | webRtcServerDump
  | workerCloseRouter | routerDump | routerCreateWebRtcTransport
  | routerCreateWebRtcTransportWithServer | routerCreatePlainTransport | routerCreatePipeTransport
  | routerCreateDirectTransport | routerCloseTransport | routerCreateActiveSpeakerObserver
  | routerCreateAudioLevelObserver | routerCloseRtpObserver | transportDump | transportGetStats
  | transportConnect | transportSetMaxIncomingBitrate | transportSetMaxOutgoingBitrate
  | transportSetMinOutgoingBitrate | transportRestartIce | transportProduce | transportConsume
  | transportProduceData | transportConsumeData | transportEnableTraceEvent
  | transportCloseProducer | producerDump | producerGetStats | producerPause | producerResume
  | producerEnableTraceEvent | transportCloseConsumer | consumerDump | consumerGetStats
  | consumerPause | consumerResume | consumerSetPreferredLayers | consumerSetPriority
  | consumerRequestKeyFrame | consumerEnableTraceEvent | transportCloseDataProducer
  | dataProducerDump | dataProducerGetStats | transportCloseDataConsumer | dataConsumerDump
  | dataConsumerGetStats | dataConsumerGetBufferedAmount
  | dataConsumerSetBufferedAmountLowThreshold | rtpObserverPause | rtpObserverResume
  | rtpObserverAddProducer | rtpObserverRemoveProducer
  deriving DecidableEq

namespace ChannelRequest

def string2MethodId : List (String × MethodId) :=
  [("worker.close", .workerClose), ("worker.dump", .workerDump),
   ("worker.getResourceUsage", .workerGetResourceUsage),
   ("worker.updateSettings", .workerUpdateSettings),
   ("worker.createWebRtcServer", .workerCreateWebRtcServer),
   ("worker.createRouter", .workerCreateRouter),
   ("worker.closeWebRtcServer", .workerWebRtcServerClose),
   ("webRtcServer.dump", .webRtcServerDump), ("worker.closeRouter", .workerCloseRouter),
   ("router.dump", .routerDump), ("router.createWebRtcTransport", .routerCreateWebRtcTransport),
   ("router.createWebRtcTransportWithServer", .routerCreateWebRtcTransportWithServer),
   ("router.createPlainTransport", .routerCreatePlainTransport),
   ("router.createPipeTransport", .routerCreatePipeTransport),
   ("router.createDirectTransport", .routerCreateDirectTransport),
   ("router.closeTransport", .routerCloseTransport),
   ("router.createActiveSpeakerObserver", .routerCreateActiveSpeakerObserver),
   ("router.createAudioLevelObserver", .routerCreateAudioLevelObserver),
   ("router.closeRtpObserver", .routerCloseRtpObserver), ("transport.dump", .transportDump),
   ("transport.getStats", .transportGetStats), ("transport.connect", .transportConnect),
   ("transport.setMaxIncomingBitrate", .transportSetMaxIncomingBitrate),
   ("transport.setMaxOutgoingBitrate", .transportSetMaxOutgoingBitrate),
   ("transport.setMinOutgoingBitrate", .transportSetMinOutgoingBitrate),
   ("transport.restartIce", .transportRestartIce), ("transport.produce", .transportProduce),
   ("transport.consume", .transportConsume), ("transport.produceData", .transportProduceData),
   ("transport.consumeData", .transportConsumeData),
   ("transport.enableTraceEvent", .transportEnableTraceEvent),
   ("transport.closeProducer", .transportCloseProducer),
   ("transport.closeConsumer", .transportCloseConsumer),
   ("transport.closeDataProducer", .transportCloseDataProducer),
   ("transport.closeDataConsumer", .transportCloseDataConsumer), ("producer.dump", .producerDump),
   ("producer.getStats", .producerGetStats), ("producer.pause", .producerPause),
   ("producer.resume", .producerResume), ("producer.enableTraceEvent", .producerEnableTraceEvent),
   ("consumer.dump", .consumerDump), ("consumer.getStats", .consumerGetStats),
   ("consumer.pause", .consumerPause), ("consumer.resume", .consumerResume),
   ("consumer.setPreferredLayers", .consumerSetPreferredLayers),
   ("consumer.setPriority", .consumerSetPriority),
   ("consumer.requestKeyFrame", .consumerRequestKeyFrame),
   ("consumer.enableTraceEvent", .consumerEnableTraceEvent),
   ("dataProducer.dump", .dataProducerDump), ("dataProducer.getStats", .dataProducerGetStats),
   ("dataConsumer.dump", .dataConsumerDump), ("dataConsumer.getStats", .dataConsumerGetStats),
   ("dataConsumer.getBufferedAmount", .dataConsumerGetBufferedAmount),
   ("dataConsumer.setBufferedAmountLowThreshold", .dataConsumerSetBufferedAmountLowThreshold),
   ("rtpObserver.pause", .rtpObserverPause), ("rtpObserver.resume", .rtpObserverResume),
   ("rtpObserver.addProducer", .rtpObserverAddProducer),
   ("rtpObserver.removeProducer", .rtpObserverRemoveProducer)]

end ChannelRequest

structure ChannelRequest (δ : Type) where
  id : UInt32
  method : List UInt8
  methodId : MethodId
  handlerId : List UInt8
  data : δ

namespace ChannelRequest

variable {ω δ : Type} (lib : JsonLibrary δ)

def findMethodId (method : List UInt8) : Option MethodId :=
  (string2MethodId.find? fun entry => ascii entry.1 = method).map Prod.snd

/-- The data of a request, which has to be a JSON text. -/
def readData : Option (List UInt8) → Except (List UInt8) δ
  | none => .ok lib.null
  | some data =>
    if data = ascii "undefined" then .ok lib.null
    else (lib.parse data).map fun value => if lib.isObject value then value else lib.object

/-- The constructor after it has read the id; `more` are the handler id and the data. -/
def build (id : UInt32) (method : List UInt8) (more : List (List UInt8)) :
    Handler ω δ (ChannelRequest δ) :=
  match findMethodId method with
  | none => do
    fail lib id .error (ascii "unknown method")
    throwing .error (ascii "unknown method '" ++ cString method ++ ascii "'")
  | some methodId =>
    match readData lib more[1]? with
    | .error what => throwing .typeError (ascii "JSON parsing error: " ++ cString what)
    | .ok data => pure { id, method, methodId, handlerId := definedItem more[0]?, data }

/-- `msg` contains "id:method:handlerId:data". -/
def new (msg : List UInt8) : Handler ω δ (ChannelRequest δ) := do
  modify fun s => { s with replied := false }
  match split 58 3 msg with
  | idText :: method :: more =>
    let id ← expect (stoul idText) .other
    build lib (UInt32.ofNat id) method more
  | _ => throwing .error (ascii "too few arguments")

end ChannelRequest

/-! ### The worker -/

/-- What the worker does with a request, apart from the replies. -/
structure Worker (ω δ : Type) where
  Server : Type
  Router : Type
  closed : ω → Bool
  close : Handler ω δ Unit
  fillJson : Handler ω δ δ
  fillJsonResourceUsage : Handler ω δ δ
  /-- `Settings::HandleRequest`. -/
  updateSettings : ChannelRequest δ → Handler ω δ Unit
  /-- A new server; the fingerprints are returned. -/
  createWebRtcServer : δ → Handler ω δ δ
  getWebRtcServerFromData : δ → Handler ω δ Server
  deleteWebRtcServer : Server → Handler ω δ Unit
  setNewRouterIdFromData : δ → Handler ω δ (List UInt8)
  createRouter : List UInt8 → Handler ω δ Unit
  getRouterFromData : δ → Handler ω δ Router
  deleteRouter : Router → Handler ω δ Unit
  getChannelRequestHandler : ω → List UInt8 → Option (ChannelRequest δ → Handler ω δ Unit)

namespace Worker

variable {ω δ : Type} (lib : JsonLibrary δ) (worker : Worker ω δ)

def handleRequest (request : ChannelRequest δ) : Handler ω δ Unit :=
  match request.methodId with
  | .workerClose => do
    let s ← get
    if worker.closed s.world then return
    worker.close
  | .workerDump => do
    let data ← worker.fillJson
    acceptData lib request.id data
  | .workerGetResourceUsage => do
    let data ← worker.fillJsonResourceUsage
    acceptData lib request.id data
  | .workerUpdateSettings => worker.updateSettings request
  | .workerCreateWebRtcServer => namingMethod (fun type => type) request.method do
    let data ← worker.createWebRtcServer request.data
    acceptData lib request.id data
  | .workerWebRtcServerClose => do
    let server ← namingMethod (fun _ => .error) request.method
      (worker.getWebRtcServerFromData request.data)
    worker.deleteWebRtcServer server
    accept request.id
  | .workerCreateRouter => do
    let routerId ← namingMethod (fun _ => .error) request.method
      (worker.setNewRouterIdFromData request.data)
    worker.createRouter routerId
    accept request.id
  | .workerCloseRouter => do
    let router ← namingMethod (fun _ => .error) request.method
      (worker.getRouterFromData request.data)
    worker.deleteRouter router
    accept request.id
  | _ => namingMethod (fun type => type) request.method do
    let s ← get
    match worker.getChannelRequestHandler s.world request.handlerId with
    | none => throwing .error (ascii "Channel request handler with ID " ++
        cString request.handlerId ++ ascii " not found")
    | some handle => handle request

/-- A message on the channel.  An error that gets here is logged; all other exceptions end the
worker. -/
def onConsumerSocketMessage (msg : List UInt8) : Handler ω δ Unit :=
  catching
    (do
      let request ← ChannelRequest.new lib msg
      answering lib request.id (worker.handleRequest lib request))
    fun
      | .other => throw .other
      | _ => pure ()

end Worker

/-! ### One reply -/

namespace Exchange

variable {ω δ : Type}

/-- Exactly one reply was sent, to the request with this id. -/
def Answered (id : UInt32) (s s' : Exchange ω δ) : Prop :=
  ∃ reply : Reply δ, reply.id = id ∧ s'.sent = s.sent ++ [reply]

/-- Nothing was replied. -/
structure Silent (s s' : Exchange ω δ) : Prop where
  closed : s'.closed = s.closed
  replied : s'.replied = s.replied
  sent : s'.sent = s.sent

theorem Silent.answered {id : UInt32} {s s₁ s₂ : Exchange ω δ} (h : Silent s s₁)
    (ha : Answered id s₁ s₂) : Answered id s s₂ := by
  obtain ⟨reply, hid, hsent⟩ := ha
  exact ⟨reply, hid, by rw [hsent, h.sent]⟩

/-- A MediaSoup error was thrown before a reply. -/
def Refused (s : Exchange ω δ) (e : Exception) (s' : Exchange ω δ) : Prop :=
  (∃ type what, e = .mediaSoup type what ∧ what.length ≤ 1999) ∧ Silent s s'

theorem Refused.of_silent {s s₁ s₂ : Exchange ω δ} {e : Exception} (h : Silent s s₁)
    (hr : Refused s₁ e s₂) : Refused s e s₂ :=
  ⟨hr.1, hr.2.closed.trans h.closed, hr.2.replied.trans h.replied, hr.2.sent.trans h.sent⟩

/-- The channel is open and the request is not replied to. -/
structure Ready (s : Exchange ω δ) : Prop where
  closed : s.closed = false
  replied : s.replied = false

theorem Ready.of_silent {s s' : Exchange ω δ} (h : s.Ready) (hs : Silent s s') : s'.Ready :=
  ⟨hs.closed.trans h.closed, hs.replied.trans h.replied⟩

end Exchange

open Exchange

section

variable {ω δ : Type} {lib : JsonLibrary δ} {s : Exchange ω δ} {id : UInt32}

theorem markReplied_apply (h : s.Ready) :
    markReplied s = .returned () { s with replied := true } := by
  rw [markReplied, bind_returned (get_apply s), assert, if_pos h.replied]
  rfl

theorem send_apply {text : List UInt8} (hopen : s.closed = false)
    (hlen : text.length ≤ ChannelSocket.payloadMaxLen) (reply : Reply δ) :
    send reply text s = .returned () { s with sent := s.sent ++ [reply] } := by
  rw [send, modify_apply, if_neg (by rw [hopen]; simpa using hlen)]

theorem sendJson_apply {text : List UInt8} {reply : Reply δ} (hopen : s.closed = false)
    (hdump : lib.dump reply = some text) (hlen : text.length ≤ ChannelSocket.payloadMaxLen) :
    sendJson lib reply s = .returned () { s with sent := s.sent ++ [reply] } := by
  rw [sendJson, bind_returned (get_apply s), if_neg (by rw [hopen]; decide), hdump]
  exact send_apply hopen hlen reply

theorem meets_accept {E : Exception → Exchange ω δ → Prop} (h : s.Ready) :
    Meets (accept id) s (fun _ => Answered id s) E := by
  have hdigits := Nat.toDigits_length 10 id.toNat 10 (by decide) (id.toNat_lt.trans (by decide))
  refine .step (markReplied_apply h) (meets_of_eq
    (send_apply (s := { s with replied := true }) h.closed ?_ _) ⟨_, rfl, rfl⟩)
  simp only [ascii, length_append, length_map, String.toList_ofList]
  exact (Nat.add_le_add_right (Nat.add_le_add_left hdigits _) _).trans (by decide)

/-- The data can be sent in a reply. -/
def Sendable (lib : JsonLibrary δ) (data : δ) : Prop :=
  ∀ id, ∃ text, lib.dump (.accepted id (if lib.isStructured data then some data else none)) =
    some text ∧ text.length ≤ ChannelSocket.payloadMaxLen

theorem meets_acceptData {E : Exception → Exchange ω δ → Prop} {data : δ} (h : s.Ready)
    (hdata : Sendable lib data) : Meets (acceptData lib id data) s (fun _ => Answered id s) E := by
  obtain ⟨text, hdump, hlen⟩ := hdata id
  exact .step (markReplied_apply h) (meets_of_eq (sendJson_apply h.closed hdump hlen)
    ⟨_, rfl, rfl⟩)

theorem fail_of_utf8 (lib : JsonLibrary δ) (id : UInt32) {reason : List UInt8} (h : s.Ready)
    (hlen : reason.length ≤ 1999) (hutf8 : Utf8 reason) (type : ErrorType) :
    ∃ s', fail lib id type reason s = .returned () s' ∧
      Answered id s s' ∧ s'.closed = false := by
  obtain ⟨text, hdump⟩ := isSome_iff_exists.mp ((lib.dump_failed id type reason).mpr hutf8)
  have htext := lib.length_dump_failed id type reason text hdump
  refine ⟨_, (bind_returned (markReplied_apply h)).trans (sendJson_apply h.closed hdump ?_),
    ⟨_, rfl, rfl⟩, h.closed⟩
  exact htext.trans ((Nat.add_le_add_left (Nat.mul_le_mul_left 6 hlen) 64).trans (by decide))

theorem fail_of_not_utf8 {reason : List UInt8} (h : s.Ready) (hutf8 : ¬Utf8 reason)
    (type : ErrorType) : ∃ s', fail lib id type reason s = .thrown .other s' := by
  have hdump : lib.dump (.failed id type reason) = none := by
    rw [← not_isSome_iff_eq_none, lib.dump_failed]
    exact hutf8
  refine ⟨{ s with replied := true }, (bind_returned (markReplied_apply h)).trans ?_⟩
  rw [sendJson, bind_returned (get_apply _), if_neg (by rw [h.closed]; decide), hdump]
  rfl

/-- The handler replies once, or throws before. -/
def Answering (id : UInt32) (handle : Handler ω δ Unit) : Prop :=
  ∀ s, s.Ready → Meets handle s (fun _ => Answered id s) (Refused s)

/-- The handler does not reply. -/
def Quiet {α : Type} (P : α → Prop) (x : Handler ω δ α) : Prop :=
  ∀ s, Meets x s (fun a s' => P a ∧ Silent s s') (Refused s)

theorem meets_namingMethod {α : Type} {x : Handler ω δ α} {Q : α → Exchange ω δ → Prop}
    (h : Meets x s Q (Refused s)) (retype : ErrorType → ErrorType) (method : List UInt8) :
    Meets (namingMethod retype method x) s Q (Refused s) := by
  refine meets_catching h ?_
  rintro e s' ⟨⟨type, what, rfl, -⟩, hsilent⟩
  exact meets_throw ⟨⟨_, _, rfl, length_take_le ..⟩, hsilent⟩

theorem answering_thrown (lib : JsonLibrary δ) (id : UInt32) {handle : Handler ω δ Unit}
    {type : ErrorType} {what : List UInt8} {s' : Exchange ω δ} (hready : s.Ready)
    (hthrown : handle s = .thrown (.mediaSoup type what) s') (hlen : what.length ≤ 1999)
    (hsilent : Silent s s') :
    (∃ s'', answering lib id handle s = .returned () s'' ∧ Answered id s s'' ∧ Utf8 what) ∨
      ∃ s'', answering lib id handle s = .thrown .other s'' ∧ ¬Utf8 what := by
  have hcaught : answering lib id handle s = fail lib id type what s' := catching_thrown hthrown
  rw [hcaught]
  by_cases hutf8 : Utf8 what
  · obtain ⟨s'', hfail, hanswered, -⟩ :=
      fail_of_utf8 lib id (hready.of_silent hsilent) hlen hutf8 type
    exact .inl ⟨s'', hfail, hsilent.answered hanswered, hutf8⟩
  · obtain ⟨s'', hfail⟩ := fail_of_not_utf8 (hready.of_silent hsilent) hutf8 type
    exact .inr ⟨s'', hfail, hutf8⟩

end

namespace Worker

variable {ω δ : Type} {lib : JsonLibrary δ} {worker : Worker ω δ}

/-- Each handler of a method replies once, or throws before. -/
structure Answers (lib : JsonLibrary δ) (worker : Worker ω δ) : Prop where
  fillJson : Quiet (Sendable lib) worker.fillJson
  fillJsonResourceUsage : Quiet (Sendable lib) worker.fillJsonResourceUsage
  updateSettings : ∀ request, Answering request.id (worker.updateSettings request)
  createWebRtcServer : ∀ data, Quiet (Sendable lib) (worker.createWebRtcServer data)
  getWebRtcServerFromData : ∀ data, Quiet (fun _ => True) (worker.getWebRtcServerFromData data)
  deleteWebRtcServer : ∀ server, Quiet (fun _ => True) (worker.deleteWebRtcServer server)
  setNewRouterIdFromData : ∀ data, Quiet (fun _ => True) (worker.setNewRouterIdFromData data)
  createRouter : ∀ routerId, Quiet (fun _ => True) (worker.createRouter routerId)
  getRouterFromData : ∀ data, Quiet (fun _ => True) (worker.getRouterFromData data)
  deleteRouter : ∀ router, Quiet (fun _ => True) (worker.deleteRouter router)
  handler : ∀ world handlerId handle,
    worker.getChannelRequestHandler world handlerId = some handle →
      ∀ request, Answering request.id (handle request)

theorem answering_data {id : UInt32} {x : Handler ω δ δ} (h : Quiet (Sendable lib) x) :
    Answering id (x >>= fun data => acceptData lib id data) := by
  intro s hready
  refine (h s).bind ?_
  rintro data s' ⟨hdata, hsilent⟩
  exact (meets_acceptData (hready.of_silent hsilent) hdata).mono
    (fun _ _ ha => hsilent.answered ha) fun _ _ hr => hr

theorem answering_plain {id : UInt32} {α : Type} {x : Handler ω δ α} {f : α → Handler ω δ Unit}
    (h : Quiet (fun _ => True) x) (hf : ∀ a, Quiet (fun _ => True) (f a))
    (retype : ErrorType → ErrorType) (method : List UInt8) :
    Answering id (namingMethod retype method x >>= fun a => f a >>= fun _ => accept id) := by
  intro s hready
  refine (meets_namingMethod (h s) retype method).bind ?_
  rintro a s₁ ⟨-, hsilent₁⟩
  refine ((hf a s₁).bind ?_).mono (fun _ _ ha => hsilent₁.answered ha)
    fun _ _ hr => hr.of_silent hsilent₁
  rintro _ s₂ ⟨-, hsilent₂⟩
  exact (meets_accept ((hready.of_silent hsilent₁).of_silent hsilent₂)).mono
    (fun _ _ ha => hsilent₂.answered ha) fun _ _ hr => hr

theorem handleRequest_answering (h : worker.Answers lib) (request : ChannelRequest δ)
    (hmethod : request.methodId ≠ .workerClose) :
    Answering request.id (worker.handleRequest lib request) := by
  intro s hready
  unfold handleRequest
  split
  case h_1 hclose => exact absurd hclose hmethod
  case h_2 => exact answering_data h.fillJson s hready
  case h_3 => exact answering_data h.fillJsonResourceUsage s hready
  case h_4 => exact h.updateSettings request s hready
  case h_5 =>
    exact meets_namingMethod (answering_data (h.createWebRtcServer request.data) s hready) _ _
  case h_6 =>
    exact answering_plain (h.getWebRtcServerFromData _) h.deleteWebRtcServer _ _ s hready
  case h_7 => exact answering_plain (h.setNewRouterIdFromData _) h.createRouter _ _ s hready
  case h_8 => exact answering_plain (h.getRouterFromData _) h.deleteRouter _ _ s hready
  case h_9 =>
    refine meets_namingMethod (.step (get_apply s) ?_) _ _
    cases hhandle : worker.getChannelRequestHandler s.world request.handlerId with
    | none => exact meets_throw ⟨⟨_, _, rfl, length_take_le ..⟩, rfl, rfl, rfl⟩
    | some handle => exact h.handler _ _ handle hhandle request s hready

end Worker

/-! ### Messages -/

def requestText (idText method handlerId data : List UInt8) : List UInt8 :=
  idText ++ 58 :: (method ++ 58 :: (handlerId ++ 58 :: data))

theorem splitItem_append {α : Type} [DecidableEq α] {separator : α} {before : List α}
    (hbefore : separator ∉ before) (limit items : ℕ) (item rest : List α) :
    splitItem separator limit items item (before ++ separator :: rest) =
      if limit ≠ 0 ∧ limit ≤ items + 1 then [item.reverse ++ before, rest]
      else if rest = [] then [item.reverse ++ before]
      else (item.reverse ++ before) :: splitItem separator limit (items + 1) [] rest := by
  induction before generalizing item with
  | nil => rw [nil_append, splitItem, if_pos rfl, append_nil]
  | cons c before ih =>
    rw [mem_cons, not_or] at hbefore
    rw [cons_append, splitItem, if_neg (Ne.symm hbefore.1), ih hbefore.2, reverse_cons,
      append_assoc, singleton_append]

theorem split_requestText {idText method handlerId data : List UInt8} (hid : 58 ∉ idText)
    (hmethod : 58 ∉ method) (hhandler : 58 ∉ handlerId) :
    split 58 3 (requestText idText method handlerId data) = [idText, method, handlerId, data] := by
  have hne (before after : List UInt8) : before ++ 58 :: after ≠ [] := by simp
  rw [split, requestText, if_neg (hne _ _), splitItem_append hid, if_neg (by decide),
    if_neg (hne _ _), splitItem_append hmethod, if_neg (by decide), if_neg (hne _ _),
    splitItem_append hhandler, if_pos (by decide)]
  rfl

theorem stoul_digits {text : List UInt8} (hne : text ≠ []) (hdigits : ∀ b ∈ text, isDigitByte b)
    (hvalue : digitsValue text < 2 ^ 64) : stoul text = some (digitsValue text) := by
  have hall : text.takeWhile isDigitByte = text := takeWhile_eq_self_iff.mpr hdigits
  have hread : stoulDigits false text = some (digitsValue text) := by
    simp only [stoulDigits, hall]
    rw [if_neg (by simp only [hne, false_or]; omega)]
    rfl
  obtain ⟨b, rest, rfl⟩ := exists_cons_of_ne_nil hne
  have hb := hdigits b mem_cons_self
  have hlow : (48 : UInt8) ≤ b := by
    rw [isDigitByte, Bool.and_eq_true] at hb
    exact of_decide_eq_true hb.1
  -- the first byte is a digit: no sign and no blank, so `stoul` skips nothing
  have hplus : b ≠ 43 := by rintro rfl; exact absurd hlow (by decide)
  have hminus : b ≠ 45 := by rintro rfl; exact absurd hlow (by decide)
  have hspace : ¬isSpaceByte b := by
    simp only [isSpaceByte, Bool.or_eq_true, Bool.and_eq_true, decide_eq_true_eq]
    rintro (rfl | ⟨-, hle⟩)
    · exact absurd hlow (by decide)
    · exact absurd (UInt8.le_trans hlow hle) (by decide)
  rw [stoul, dropWhile_cons_of_neg hspace]
  split
  case h_1 heq => exact absurd (List.cons.inj heq).1 hplus
  case h_2 heq => exact absurd (List.cons.inj heq).1 hminus
  case h_3 => exact hread

namespace ChannelRequest

variable {ω δ : Type} {lib : JsonLibrary δ} {s : Exchange ω δ}
  {idText method handlerId data : List UInt8}

/-- The three fields before the data have no separator in them, and the first is a number. -/
structure WellFormed (idText method handlerId : List UInt8) : Prop where
  ne_nil : idText ≠ []
  digits : ∀ b ∈ idText, isDigitByte b
  lt : digitsValue idText < 2 ^ 32
  method : 58 ∉ method
  handlerId : 58 ∉ handlerId

theorem new_eq_build (h : WellFormed idText method handlerId) :
    new lib (requestText idText method handlerId data) s =
      build lib (UInt32.ofNat (digitsValue idText)) method [handlerId, data]
        { s with replied := false } := by
  rw [new, bind_returned (modify_apply ..),
    split_requestText (fun hmem => absurd (h.digits 58 hmem) (by decide)) h.method h.handlerId]
  show (expect (stoul idText) Exception.other >>= _) _ = _
  rw [stoul_digits h.ne_nil h.digits (h.lt.trans (by decide))]
  rfl

def read (idText method : List UInt8) (methodId : MethodId) (handlerId : List UInt8) (data : δ) :
    ChannelRequest δ :=
  { id := UInt32.ofNat (digitsValue idText), method, methodId
    handlerId := definedItem (some handlerId), data }

theorem eq_of_findMethodId (h : findMethodId method = some .workerClose) :
    method = ascii "worker.close" := by
  obtain ⟨entry, hfind, hid⟩ := map_eq_some_iff.mp h
  have hname : ∀ entry ∈ string2MethodId, entry.2 = .workerClose → entry.1 = "worker.close" := by
    decide
  rw [← hname entry (mem_of_find?_eq_some hfind) hid]
  have hfound := List.find?_some hfind
  exact (of_decide_eq_true hfound).symm

end ChannelRequest

namespace Worker

open ChannelRequest

variable {ω δ : Type} {lib : JsonLibrary δ} {worker : Worker ω δ} {s : Exchange ω δ}
  {idText method handlerId data : List UInt8}

theorem discarded {msg what : List UInt8} {type : ErrorType} {s' : Exchange ω δ}
    (hnew : new lib msg s = .thrown (.mediaSoup type what) s') :
    worker.onConsumerSocketMessage lib msg s = .returned () s' := by
  rw [onConsumerSocketMessage, catching_thrown (bind_thrown hnew)]
  rfl

section

variable (h : WellFormed idText method handlerId)
include h

theorem unknownMethod_answered (hopen : s.closed = false) (hmethod : findMethodId method = none) :
    ∃ s', worker.onConsumerSocketMessage lib (requestText idText method handlerId data) s =
      .returned () s' ∧ Answered (UInt32.ofNat (digitsValue idText)) s s' := by
  have hready : Ready { s with replied := false } := ⟨hopen, rfl⟩
  have hutf8 : Utf8 (ascii "unknown method") := by decide
  obtain ⟨s', hfail, hanswered, -⟩ := fail_of_utf8 lib (UInt32.ofNat (digitsValue idText)) hready
    (by decide) hutf8 .error
  refine ⟨s', ?_, hanswered⟩
  apply discarded
  rw [new_eq_build h, build, hmethod]
  exact bind_returned hfail

theorem unreadableData_discarded {methodId : MethodId}
    {what : List UInt8} (hmethod : findMethodId method = some methodId)
    (hdata : readData lib (some data) = .error what) :
    worker.onConsumerSocketMessage lib (requestText idText method handlerId data) s =
      .returned () { s with replied := false } := by
  apply discarded
  rw [new_eq_build h, build, hmethod]
  show (match readData lib (some data) with
    | .error what => _
    | .ok data => _ : Handler ω δ _) _ = _
  rw [hdata]
  rfl

theorem handedOver {methodId : MethodId} {value : δ}
    (hmethod : findMethodId method = some methodId) (hdata : readData lib (some data) = .ok value) :
    worker.onConsumerSocketMessage lib (requestText idText method handlerId data) s =
      catching (answering lib (UInt32.ofNat (digitsValue idText))
        (worker.handleRequest lib (read idText method methodId handlerId value)))
        (fun | .other => throw .other | _ => pure ()) { s with replied := false } := by
  have hnew : new lib (requestText idText method handlerId data) s =
      .returned (read idText method methodId handlerId value) { s with replied := false } := by
    rw [new_eq_build h, build, hmethod]
    show (match readData lib (some data) with | .error what => _ | .ok data => _ :
      Handler ω δ _) _ = _
    rw [hdata]
    rfl
  rw [onConsumerSocketMessage, catching, bind_returned hnew]
  rfl

end

/-- **One reply.**  A request with another method than `worker.close` is answered exactly once
if and only if the method is unknown, or its data is read and the error that it gets, if any, is
UTF-8. -/
theorem onConsumerSocketMessage_answers_iff (hanswers : worker.Answers lib)
    (hopen : s.closed = false) (h : WellFormed idText method handlerId)
    (hclose : method ≠ ascii "worker.close") :
    (∃ s', worker.onConsumerSocketMessage lib (requestText idText method handlerId data) s =
        .returned () s' ∧ Answered (UInt32.ofNat (digitsValue idText)) s s') ↔
      ∀ methodId, findMethodId method = some methodId →
        ∃ value, readData lib (some data) = .ok value ∧ ∀ type what s',
          worker.handleRequest lib (read idText method methodId handlerId value)
            { s with replied := false } = .thrown (.mediaSoup type what) s' → Utf8 what := by
  cases hmethod : findMethodId method with
  | none =>
    refine iff_of_true (unknownMethod_answered h hopen hmethod) fun methodId hsome => ?_
    cases hsome
  | some methodId =>
    simp only [Option.some.injEq, forall_eq']
    cases hdata : readData lib (some data) with
    | error what =>
      rw [unreadableData_discarded h hmethod hdata]
      refine iff_of_false ?_ (fun ⟨_, hvalue, _⟩ => by cases hvalue)
      rintro ⟨s', heq, reply, -, hsent⟩
      cases heq
      simp at hsent
    | ok value =>
      simp only [Except.ok.injEq, exists_eq_left']
      rw [handedOver h hmethod hdata]
      have hready : Ready { s with replied := false } := ⟨hopen, rfl⟩
      have hnot : methodId ≠ .workerClose := by
        rintro rfl
        exact hclose (eq_of_findMethodId hmethod)
      rcases (handleRequest_answering hanswers
        (read idText method methodId handlerId value) hnot _ hready).cases with
        ⟨_, s', heq, hanswered⟩ | ⟨e, s', heq, ⟨type, what, rfl, hlen⟩, hsilent⟩
      · -- the handler has replied
        refine iff_of_true ⟨s', catching_returned (catching_returned heq), hanswered⟩ ?_
        intro type what s'' hthrown
        rw [heq] at hthrown
        cases hthrown
      · have hiff : (∀ type' what' s'', worker.handleRequest lib
            (read idText method methodId handlerId value) { s with replied := false } =
              .thrown (.mediaSoup type' what') s'' → Utf8 what') ↔ Utf8 what := by
          rw [heq]
          simp
        rw [hiff]
        rcases answering_thrown lib (UInt32.ofNat (digitsValue idText)) hready heq hlen hsilent
          with ⟨s'', hreturned, hanswered, hutf8⟩ | ⟨s'', hthrown, hutf8⟩
        · exact iff_of_true ⟨s'', catching_returned hreturned, hanswered⟩ hutf8
        refine iff_of_false ?_ hutf8
        rintro ⟨s₃, hreturned, -⟩
        rw [catching_thrown hthrown] at hreturned
        cases hreturned

/-- The members of a reply, in their order. -/
def replyMembers : Reply Json.Value → List (Json.Text × Json.Value)
  | .accepted n data =>
    ("accepted".toList, .bool true) :: (data.map (Prod.mk "data".toList)).toList ++
      [("id".toList, .number (Nat.toDigits 10 n.toNat))]
  | .failed n type reason =>
    [("error".toList, .string (match type with
        | .error => "Error"
        | .typeError => "TypeError").toList),
      ("id".toList, .number (Nat.toDigits 10 n.toNat)),
      ("reason".toList, .string (reason.map fun byte => Char.ofNat byte.toNat))]

def replyText (reply : Reply Json.Value) : List UInt8 :=
  ascii (String.ofList (Json.print (.object (replyMembers reply))))

theorem length_replyText_failed (id : UInt32) (type : ErrorType) (reason : List UInt8) :
    (replyText (.failed id type reason)).length ≤ 64 + 6 * reason.length := by
  have hdigits := Nat.toDigits_length 10 id.toNat 10 (by decide) (id.toNat_lt.trans (by decide))
  have hreason := Json.length_quote_le (reason.map fun byte => Char.ofNat byte.toNat)
  rw [length_map] at hreason
  cases type <;>
  · simp only [replyText, ascii, replyMembers, Json.print, Json.printMembers, length_append,
      length_cons, length_map, length_nil, String.toList_ofList]
    have hnames : (Json.quote "error".toList).length + (Json.quote "id".toList).length +
      (Json.quote "reason".toList).length + (Json.quote "TypeError".toList).length = 30 := by decide
    have herror : (Json.quote "Error".toList).length = 7 := by decide
    omega

/-- A library for JSON texts whose characters are single bytes. -/
def sampleLibrary : JsonLibrary Json.Value where
  parse text :=
    (Json.parse (text.map fun byte => Char.ofNat byte.toNat)).elim
      (.error (ascii "syntax error")) .ok
  isObject := Json.Value.isObject
  isStructured := Json.Value.isStructured
  null := .null
  object := .object []
  dump
    | .accepted n data => some (replyText (.accepted n data))
    | .failed n type reason =>
      if Utf8 reason then some (replyText (.failed n type reason)) else none
  dump_failed _ _ reason := by
    by_cases h : Utf8 reason <;> simp [h]
  length_dump_failed id type reason text h := by
    replace h : (if Utf8 reason then some (replyText (.failed id type reason)) else none) =
      some text := h
    split_ifs at h
    cases h
    exact length_replyText_failed id type reason

/-- A worker without any object. -/
def sampleWorker : Worker Unit Json.Value where
  Server := Unit
  Router := Unit
  closed _ := false
  close := pure ()
  fillJson := pure (.object [])
  fillJsonResourceUsage := pure (.object [])
  updateSettings request := accept request.id
  createWebRtcServer _ := pure (.array [])
  getWebRtcServerFromData _ := throwing .error (ascii "WebRtcServer not found")
  deleteWebRtcServer _ := pure ()
  setNewRouterIdFromData _ := pure (ascii "router")
  createRouter _ := pure ()
  getRouterFromData _ := throwing .error (ascii "Router not found")
  deleteRouter _ := pure ()
  getChannelRequestHandler _ _ := none

theorem sampleWorker_answers : sampleWorker.Answers sampleLibrary := by
  have hsendable {data : Json.Value} (hdata : data.isStructured = true)
      (hlen : (Json.print data).length = 2) : Sendable sampleLibrary data := by
    intro id
    -- `id` is the only part of the reply whose length varies: at most ten digits
    have hdigits := Nat.toDigits_length 10 id.toNat 10 (by decide) (id.toNat_lt.trans (by decide))
    refine ⟨_, rfl, ?_⟩
    have hnames : (Json.quote "accepted".toList).length + (Json.quote "data".toList).length +
      (Json.quote "id".toList).length = 20 := by decide
    show (replyText (.accepted id (if data.isStructured then some data else none))).length ≤ 4194304
    simp only [hdata, if_true, replyText, ascii, replyMembers, Json.print, Json.printMembers,
      length_append, length_cons, length_map, length_nil, String.toList_ofList, Option.map_some,
      Option.toList_some, cons_append, nil_append]
    omega
  have hpure {α : Type} {P : α → Prop} {a : α} (ha : P a) :
      Quiet P (pure a : Handler Unit Json.Value α) := fun _ => meets_pure ⟨ha, rfl, rfl, rfl⟩
  have hthrow {α : Type} {P : α → Prop} (description : List UInt8) :
      Quiet P (throwing .error description : Handler Unit Json.Value α) :=
    fun _ => meets_throw ⟨⟨_, _, rfl, length_take_le ..⟩, rfl, rfl, rfl⟩
  exact {
    fillJson := hpure (hsendable rfl rfl)
    fillJsonResourceUsage := hpure (hsendable rfl rfl)
    updateSettings := fun _ _ hready => meets_accept hready
    createWebRtcServer := fun _ => hpure (hsendable rfl rfl)
    getWebRtcServerFromData := fun _ => hthrow _
    deleteWebRtcServer := fun _ => hpure trivial
    setNewRouterIdFromData := fun _ => hpure trivial
    createRouter := fun _ => hpure trivial
    getRouterFromData := fun _ => hthrow _
    deleteRouter := fun _ => hpure trivial
    handler := fun _ _ _ h => by cases h }

/-- A request that is refused by the worker gets one reply. -/
theorem closeRouter_answered : ∃ s', sampleWorker.onConsumerSocketMessage sampleLibrary
      (requestText (ascii "7") (ascii "worker.closeRouter") [] (ascii "\x7b\x7d")) { world := () } =
    .returned () s' ∧ Answered 7 { world := () } s' := by
  have hwell : WellFormed (ascii "7") (ascii "worker.closeRouter") [] := by
    refine ⟨?_, ?_, ?_, ?_, ?_⟩ <;> decide +kernel
  refine (onConsumerSocketMessage_answers_iff sampleWorker_answers rfl hwell (by decide)).mpr ?_
  rintro methodId hmethod
  obtain rfl : methodId = .workerCloseRouter :=
    Option.some.inj (hmethod.symm.trans (by decide +kernel))
  refine ⟨.object [], rfl, fun type what s' hthrown => ?_⟩
  cases hthrown
  decide

/-- The same request gets none if its data is not a JSON text. -/
theorem closeRouter_discarded : ¬∃ s', sampleWorker.onConsumerSocketMessage sampleLibrary
      (requestText (ascii "7") (ascii "worker.closeRouter") [] (ascii "x")) { world := () } =
    .returned () s' ∧ Answered 7 { world := () } s' := by
  have hwell : WellFormed (ascii "7") (ascii "worker.closeRouter") [] := by
    refine ⟨?_, ?_, ?_, ?_, ?_⟩ <;> decide +kernel
  have hmethod : findMethodId (ascii "worker.closeRouter") = some .workerCloseRouter := by
    decide +kernel
  rw [unreadableData_discarded hwell hmethod rfl]
  rintro ⟨s', heq, reply, -, hsent⟩
  cases heq
  cases hsent

end Worker

end Mediasoup
