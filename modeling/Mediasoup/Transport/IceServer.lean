/-
The ICE server of a WebRTC transport (`RTC::IceServer`).

The server answers Binding requests, keeps the tuples from which authenticated ones came
and selects one of them.  Other data of the transport is taken from those tuples only, and
may select the tuple from which it came.

* `IceServer` — the fields of the server, with the history of the packets that it was given
  and of what it told its listener.
* `IceServer.step` — one event of the transport.

The stored tuples have different hashes (`Invariant.distinct` of the module on valid
tuples), so a pointer to a stored tuple is the tuple here.
-/
import Mediasoup.Lib.Runs
import Mediasoup.Transport.StunPacket
import Mediasoup.Transport.TransportTuple
import Mediasoup.Transport.WebRtcTransport

open Checked

namespace Mediasoup

/-- What a UDP datagram or a TCP frame brings. -/
structure Datagram where
  bytes : List UInt8
  length_le : bytes.length ≤ 65535
  deriving DecidableEq

structure IceCredentials where
  usernameFragment : List UInt8
  password : List UInt8
  deriving DecidableEq

/-- An answer to a Binding request: an error code, or a success response and the password
that it is authenticated with. -/
inductive StunResponse where
  | error (code : ℕ)
  | success (password : List UInt8)
  deriving DecidableEq

/-- What has happened: packets that were received, with the credentials of that moment, and
the calls of the listener. -/
inductive IceEntry where
  | received (tuple : TransportTuple) (data : Datagram) (current old : IceCredentials)
  | sentStunPacket (tuple : TransportTuple) (response : StunResponse)
  | usernameFragmentAdded (usernameFragment : List UInt8)
  | usernameFragmentRemoved (usernameFragment : List UInt8)
  | tupleAdded (tuple : TransportTuple)
  | tupleRemoved (tuple : TransportTuple)
  | selectedTuple (tuple : TransportTuple)
  | connected
  | completed
  | disconnected
  deriving DecidableEq

structure IceServer where
  usernameFragment : List UInt8
  password : List UInt8
  oldUsernameFragment : List UInt8 := []
  oldPassword : List UInt8 := []
  state : IceState := .new
  remoteNomination : ℕ := 0
  tuples : List TransportTuple := []
  selectedTuple : Option TransportTuple := none
  /-- The latest entry comes first. -/
  history : List IceEntry := []

/-- The failed assertions, and a fault of the STUN parser. -/
inductive IceAbort where
  | unexpectedSelectedTuple
  | noTuples
  | noSelectedTuple
  | noTupleToRemove
  | stunFault

namespace IceServer

def maxTuples : ℕ := 8

def log (s : IceServer) (entry : IceEntry) : IceServer := { s with history := entry :: s.history }

def initial (usernameFragment password : List UInt8) : IceServer :=
  log { usernameFragment, password } (.usernameFragmentAdded usernameFragment)

variable (s : IceServer)

def reply (tuple : TransportTuple) (response : StunResponse) : IceServer :=
  s.log (.sentStunPacket tuple response)

/-! ### The stored tuples -/

def hasTuple (tuple : TransportTuple) : Option TransportTuple :=
  -- Check the current selected tuple (if any), otherwise the other stored tuples.
  (s.selectedTuple.filter (·.compare tuple)).or (s.tuples.find? (·.compare tuple))

def isValidTuple (tuple : TransportTuple) : Bool := (s.hasTuple tuple).isSome

def setSelectedTuple (storedTuple : TransportTuple) : IceServer :=
  if s.selectedTuple = some storedTuple then s
  else log { s with selectedTuple := some storedTuple } (.selectedTuple storedTuple)

/-- Remove a stored tuple from the list, after notifying the listener. -/
def eraseTuple (removedTuple : TransportTuple) : IceServer :=
  { s.log (.tupleRemoved removedTuple) with tuples := s.tuples.erase removedTuple }

/-- Store the tuple; the result is the stored one. -/
def addTuple (tuple : TransportTuple) : Except IceAbort (IceServer × TransportTuple) :=
  match s.hasTuple tuple with
  | some storedTuple => .ok (s, storedTuple)
  | none =>
    let s := log { s with tuples := tuple :: s.tuples } (.tupleAdded tuple)
    if maxTuples < s.tuples.length then
      -- The oldest tuple which is neither the added one nor the selected one.
      match s.tuples.reverse.find? fun other => other ≠ tuple ∧ s.selectedTuple ≠ some other with
      | some removedTuple => .ok (s.eraseTuple removedTuple, tuple)
      | none => .error .noTupleToRemove
    else .ok (s, tuple)

def removeTuple (tuple : TransportTuple) : IceServer :=
  match s.tuples.find? (·.compare tuple) with
  | none => s
  | some removedTuple =>
    let s := s.eraseTuple removedTuple
    if s.selectedTuple = some removedTuple then
      let s := { s with selectedTuple := none }
      -- Mark the first tuple as selected tuple (if any).
      match s.tuples with
      | first :: _ => s.setSelectedTuple first
      | [] => log { s with state := .disconnected, remoteNomination := 0 } .disconnected
    else s

def mayForceSelectedTuple (tuple : TransportTuple) : IceServer :=
  if s.state = .connected ∨ s.state = .completed then
    match s.hasTuple tuple with
    | some storedTuple => s.setSelectedTuple storedTuple
    | none => s
  else s

/-! ### Binding requests -/

/-- The attributes of a request that may nominate its tuple. -/
structure Nomination where
  hasUseCandidate : Bool
  hasNomination : Bool
  nomination : ℕ

/-- The request does not ask for its tuple to be selected. -/
def Nomination.isPlain (n : Nomination) : Bool := !n.hasUseCandidate && !n.hasNomination

def isNewNomination (n : Nomination) : Bool :=
  (n.hasNomination && s.remoteNomination < n.nomination) || !n.hasNomination

def updateNomination (n : Nomination) : IceServer :=
  if n.hasNomination && s.remoteNomination < n.nomination
  then { s with remoteNomination := n.nomination } else s

/-- Select a nominated tuple and complete. -/
def complete (storedTuple : TransportTuple) (n : Nomination) : IceServer :=
  let s := s.setSelectedTuple storedTuple
  let s := { s with state := .completed }
  (s.updateNomination n).log .completed

/-- States 'new' and 'disconnected'. -/
def handleFirstTuple (tuple : TransportTuple) (n : Nomination) : Except IceAbort IceServer :=
  if s.selectedTuple.isSome then .error .unexpectedSelectedTuple
  else do
    let (s, storedTuple) ← s.addTuple tuple
    if n.isPlain then
      let s := s.setSelectedTuple storedTuple
      return log { s with state := .connected } .connected
    else if s.isNewNomination n then return s.complete storedTuple n
    else return s

def handleTuple (tuple : TransportTuple) (n : Nomination) : Except IceAbort IceServer :=
  match s.state with
  | .new | .disconnected => s.handleFirstTuple tuple n
  | .connected =>
    if s.tuples = [] then .error .noTuples
    else if s.selectedTuple = none then .error .noSelectedTuple
    else do
      let (s, storedTuple) ← s.addTuple tuple
      if !n.isPlain && s.isNewNomination n then return s.complete storedTuple n else return s
  | .completed =>
    if s.tuples = [] then .error .noTuples
    else if s.selectedTuple = none then .error .noSelectedTuple
    else do
      let (s, storedTuple) ← s.addTuple tuple
      if !n.isPlain && s.isNewNomination n
      then return (s.setSelectedTuple storedTuple).updateNomination n else return s

def acceptRequest (packet : StunPacket) (tuple : TransportTuple) : Except IceAbort IceServer :=
  -- The remote peer must be ICE controlling.
  if packet.iceControlled ≠ 0 then .ok (s.reply tuple (.error 487))
  else
    let s := s.reply tuple (.success (if s.oldPassword = [] then s.password else s.oldPassword))
    let nomination := if packet.hasNomination then packet.nomination else 0
    s.handleTuple tuple ⟨packet.hasUseCandidate, packet.hasNomination, nomination⟩

section

variable (crc32 : List UInt8 → UInt32) (hmacSha1 : List UInt8 → List UInt8 → Digest)

/-- `CheckAuthentication`, with the faults of the parser as an abort. -/
def authenticate (packet : StunPacket) (data usernameFragment password : List UInt8) :
    Except IceAbort (Authentication × List UInt8) :=
  match packet.checkAuthentication hmacSha1 data usernameFragment password with
  | value result => .ok result
  | _ => .error .stunFault

/-- The previous credentials count until a request with the current ones has come. -/
def hasOldCredentials : Bool := s.oldUsernameFragment ≠ [] ∧ s.oldPassword ≠ []

def applyNewCredentials : IceServer :=
  if s.hasOldCredentials then
    { s.log (.usernameFragmentRemoved s.oldUsernameFragment) with
      oldUsernameFragment := [], oldPassword := [] }
  else s

/-- The branch of `ProcessStunPacket` for requests. -/
def processRequest (s : IceServer) (packet : StunPacket) (data : List UInt8)
    (tuple : TransportTuple) : Except IceAbort IceServer :=
  -- USERNAME, MESSAGE-INTEGRITY and PRIORITY are required.
  if packet.messageIntegrity = none ∨ packet.priority = 0 ∨ packet.username = []
  then .ok (s.reply tuple (.error 400))
  else do
    let (result, data) ← authenticate hmacSha1 packet data s.usernameFragment s.password
    match result with
    | .ok => s.applyNewCredentials.acceptRequest packet tuple
    | .unauthorized =>
      -- We may have changed our credentials, so check the old ones.
      if s.hasOldCredentials then
        let (result, _) ← authenticate hmacSha1 packet data s.oldUsernameFragment s.oldPassword
        if result = .ok then s.acceptRequest packet tuple
        else return s.reply tuple (.error 401)
      else return s.reply tuple (.error 401)
    | .badRequest => return s.reply tuple (.error 400)

/-- A packet that is answered with 400 if it is a request, and ignored otherwise. -/
def rejectPacket (packet : StunPacket) (tuple : TransportTuple) : IceServer :=
  if packet.klass = .request then s.reply tuple (.error 400) else s

def processStunPacket (s : IceServer) (packet : StunPacket) (data : List UInt8)
    (tuple : TransportTuple) : Except IceAbort IceServer :=
  -- Must be a Binding method.
  if packet.method ≠ 1 then .ok (s.rejectPacket packet tuple)
  -- Must use FINGERPRINT (optional for ICE STUN indications).
  else if !packet.hasFingerprint ∧ packet.klass ≠ .indication
  then .ok (s.rejectPacket packet tuple)
  else if packet.klass = .request then processRequest hmacSha1 s packet data tuple
  else .ok s

/-! ### Events of the transport -/

def onStunDataReceived (s : IceServer) (tuple : TransportTuple) (data : Datagram) :
    Except IceAbort IceServer :=
  let s := s.log (.received tuple data ⟨s.usernameFragment, s.password⟩
    ⟨s.oldUsernameFragment, s.oldPassword⟩)
  match StunPacket.parse crc32 data.bytes with
  | value packet => processStunPacket hmacSha1 s packet data.bytes tuple
  | reject => .ok s
  | _ => .error .stunFault

end

def onDtlsDataReceived (tuple : TransportTuple) : IceServer :=
  if s.isValidTuple tuple then s.mayForceSelectedTuple tuple else s

/-- `isReady`: DTLS is connected and there is an SRTP session.  `isDecrypted`: the packet
was decrypted and is an RTP packet. -/
def onRtpDataReceived (tuple : TransportTuple) (isReady isDecrypted : Bool) : IceServer :=
  if isReady && s.isValidTuple tuple && isDecrypted then s.mayForceSelectedTuple tuple else s

def restartIce (usernameFragment password : List UInt8) : IceServer :=
  let s := if s.oldUsernameFragment ≠ []
    then s.log (.usernameFragmentRemoved s.oldUsernameFragment) else s
  log { s with
    oldUsernameFragment := s.usernameFragment, usernameFragment := usernameFragment
    oldPassword := s.password, password := password, remoteNomination := 0 }
    (.usernameFragmentAdded usernameFragment)

/-- What reaches the server.  RTCP is checked for a valid tuple and changes nothing. -/
inductive Event where
  | stun (tuple : TransportTuple) (data : Datagram)
  | dtls (tuple : TransportTuple)
  | rtp (tuple : TransportTuple) (isReady isDecrypted : Bool)
  | rtcp (tuple : TransportTuple)
  | removeTuple (tuple : TransportTuple)
  | restartIce (usernameFragment password : List UInt8)

def step (crc32 : List UInt8 → UInt32) (hmacSha1 : List UInt8 → List UInt8 → Digest)
    (s : IceServer) : Event → Except IceAbort IceServer
  | .stun tuple data => onStunDataReceived crc32 hmacSha1 s tuple data
  | .dtls tuple => .ok (s.onDtlsDataReceived tuple)
  | .rtp tuple isReady isDecrypted => .ok (s.onRtpDataReceived tuple isReady isDecrypted)
  | .rtcp _ => .ok s
  | .removeTuple tuple => .ok (s.removeTuple tuple)
  | .restartIce usernameFragment password => .ok (s.restartIce usernameFragment password)

end IceServer

end Mediasoup
