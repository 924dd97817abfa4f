/-
The payload channel of the worker (`PayloadChannel::PayloadChannelSocket`).

The application writes pairs of messages: a header, which is a request or a notification in
text, and the payload that belongs to it.  The socket remembers a header that it has
accepted and takes the next message for its payload; without one it takes the next message
for a header.

* `PayloadChannelRequest.new`, `PayloadChannelNotification.new` — the constructors, with the
  exceptions that they throw,
* `PayloadChannelSocket.onConsumerSocketMessage` — one message.
-/
import Mathlib.Algebra.Group.Nat.Defs

namespace Mediasoup

/-- The bytes of an ASCII text. -/
def ascii (text : String) : List UInt8 := text.toList.map fun c => UInt8.ofNat c.toNat

/-! ### Strings -/

section

variable {α : Type} [DecidableEq α]

/-- The loop of `Split` inside an item, whose first characters are `item` in reverse, after
`items` whole ones. -/
def splitItem (separator : α) (limit items : ℕ) (item : List α) : List α → List (List α)
  | [] => [item.reverse]
  | c :: rest =>
    if c = separator then
      -- Limit reached, add the remaining buffer to the last item.
      if limit ≠ 0 ∧ limit ≤ items + 1 then [item.reverse, rest]
      else if rest = [] then [item.reverse]
      else item.reverse :: splitItem separator limit (items + 1) [] rest
    else splitItem separator limit items (c :: item) rest

def split (separator : α) (limit : ℕ) (str : List α) : List (List α) :=
  if str = [] then [] else splitItem separator limit 0 [] str

example : split 0 3 [1, 0, 2, 0, 3, 0, 4, 0, 5] = [[1], [2], [3], [4, 0, 5]] := by decide

end

/-- The characters that `std::stoul` skips. -/
def isSpaceByte (byte : UInt8) : Bool := byte = 32 || (9 ≤ byte && byte ≤ 13)

def isDigitByte (byte : UInt8) : Bool := 48 ≤ byte && byte ≤ 57

def digitsValue (digits : List UInt8) : ℕ :=
  digits.foldl (fun value digit => value * 10 + (digit.toNat - 48)) 0

/-- The digits at the beginning of a text, as an `unsigned long`. -/
def stoulDigits (negative : Bool) (text : List UInt8) : Option ℕ :=
  let digits := text.takeWhile isDigitByte
  let value := digitsValue digits
  if digits = [] ∨ 2 ^ 64 ≤ value then none
  else some (if negative then (2 ^ 64 - value) % 2 ^ 64 else value)

/-- `std::stoul`; nothing if it throws `std::invalid_argument` or `std::out_of_range`. -/
def stoul (text : List UInt8) : Option ℕ :=
  match text.dropWhile isSpaceByte with
  | 43 :: rest => stoulDigits false rest
  | 45 :: rest => stoulDigits true rest
  | rest => stoulDigits false rest

/-! ### Headers -/

/-- `PayloadChannelRequest::MethodId`. -/
inductive PayloadMethodId where
  | dataConsumerSend
  deriving DecidableEq

def string2MethodId (method : List UInt8) : Option PayloadMethodId :=
  if method = ascii "dataConsumer.send" then some .dataConsumerSend else none

/-- `PayloadChannelNotification::EventId`. -/
inductive PayloadEventId where
  | transportSendRtcp
  | producerSend
  | dataProducerSend
  deriving DecidableEq

def string2EventId (event : List UInt8) : Option PayloadEventId :=
  if event = ascii "transport.sendRtcp" then some .transportSendRtcp
  else if event = ascii "producer.send" then some .producerSend
  else if event = ascii "dataProducer.send" then some .dataProducerSend
  else none

/-- The exceptions of the constructors.  Nobody catches those of `std::stoul`. -/
inductive HeaderError where
  | wrongData
  | tooFewArguments
  | unknownMethod (id : UInt32)
  | unknownEvent
  | invalidId
  deriving DecidableEq

/-- An optional item of a header, which may be the text "undefined". -/
def definedItem : Option (List UInt8) → List UInt8
  | some text => if text = ascii "undefined" then [] else text
  | none => []

structure PayloadChannelRequest where
  id : UInt32
  method : List UInt8
  methodId : PayloadMethodId
  handlerId : List UInt8
  data : List UInt8
  deriving DecidableEq

/-- `msg` contains "id:method:handlerId:data". -/
def PayloadChannelRequest.new (msg : List UInt8) : Except HeaderError PayloadChannelRequest :=
  match split 58 3 msg with
  | idText :: method :: more =>
    match stoul idText with
    | none => .error .invalidId
    | some id =>
      match string2MethodId method with
      | none => .error (.unknownMethod (UInt32.ofNat id))
      | some methodId => .ok
        { id := UInt32.ofNat id, method, methodId
          handlerId := definedItem more[0]?, data := definedItem more[1]? }
  | _ => .error .tooFewArguments

def PayloadChannelRequest.isRequest (msg : List UInt8) : Bool :=
  2 < msg.length && msg.take 2 == ascii "r:"

structure PayloadChannelNotification where
  event : List UInt8
  eventId : PayloadEventId
  handlerId : List UInt8
  data : List UInt8
  deriving DecidableEq

def PayloadChannelNotification.new (msg : List UInt8) :
    Except HeaderError PayloadChannelNotification :=
  match split 58 0 msg with
  | event :: more =>
    match string2EventId event with
    | none => .error .unknownEvent
    | some eventId => .ok
      { event, eventId, handlerId := definedItem more[0]?, data := definedItem more[1]? }
  | [] => .error .tooFewArguments

def PayloadChannelNotification.isNotification (msg : List UInt8) : Bool :=
  2 < msg.length && msg.take 2 == ascii "n:"

/-- What the socket remembers of an accepted header. -/
inductive PayloadHeader where
  | request (request : PayloadChannelRequest)
  | notification (notification : PayloadChannelNotification)
  deriving DecidableEq

def parseHeader (msg : List UInt8) : Except HeaderError PayloadHeader :=
  if PayloadChannelRequest.isRequest msg then
    (PayloadChannelRequest.new (msg.drop 2)).map .request
  else if PayloadChannelNotification.isNotification msg then
    (PayloadChannelNotification.new (msg.drop 2)).map .notification
  else .error .wrongData

/-! ### The socket -/

/-- What the socket does: the messages have the numbers 0, 1, … in the order in which they
come. -/
inductive PayloadEntry where
  | parsedHeader (number : ℕ) (msg : List UInt8)
  | sentError (id : UInt32)
  | handled (number : ℕ) (header : PayloadHeader) (payload : List UInt8)
  deriving DecidableEq

structure PayloadChannelSocket where
  ongoingNotification : Option PayloadChannelNotification := none
  ongoingRequest : Option PayloadChannelRequest := none
  received : ℕ := 0
  /-- The latest entry comes first. -/
  history : List PayloadEntry := []

namespace PayloadChannelSocket

/-- The next message is dealt with. -/
def log (s : PayloadChannelSocket) (entries : List PayloadEntry) : PayloadChannelSocket :=
  { s with received := s.received + 1, history := entries ++ s.history }

/-- A message while no payload is awaited.  An exception that is not caught ends the worker
in the state that is returned. -/
def onHeader (s : PayloadChannelSocket) (msg : List UInt8) :
    Except PayloadChannelSocket PayloadChannelSocket :=
  let parsed := PayloadEntry.parsedHeader s.received msg
  match parseHeader msg with
  | .ok (.request request) => .ok { s.log [parsed] with ongoingRequest := some request }
  | .ok (.notification notification) =>
    .ok { s.log [parsed] with ongoingNotification := some notification }
  | .error .invalidId => .error (s.log [parsed])
  | .error (.unknownMethod id) => .ok (s.log [.sentError id, parsed])
  | .error _ => .ok (s.log [parsed])

/-- What the listener does with a request or a notification does not come back to the
socket. -/
def onConsumerSocketMessage (s : PayloadChannelSocket) (msg : List UInt8) :
    Except PayloadChannelSocket PayloadChannelSocket :=
  match s.ongoingNotification, s.ongoingRequest with
  | none, none => s.onHeader msg
  | some notification, _ =>
    .ok { s.log [.handled s.received (.notification notification) msg] with
      ongoingNotification := none }
  | none, some request =>
    .ok { s.log [.handled s.received (.request request) msg] with ongoingRequest := none }

end PayloadChannelSocket

end Mediasoup
