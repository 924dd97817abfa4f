/-
The DTLS side of a WebRTC transport (`RTC::DtlsTransport`, `RTC::WebRtcTransport`).

The transport runs DTLS when ICE is up, compares the peer's certificate with the
fingerprint of the connect request, and passes decrypted data to its parent.  What the
DTLS library answers (handshake completion, certificate, alerts, decrypted records,
timeouts) is part of the events, and so are ICE's states and SRTP's answers.

* `WebRtcTransport` — the fields of both objects that decide what happens, and the
  history of sessions, fingerprint checks and data that was passed on.
* `WebRtcTransport.step` — one event.
-/
import Mathlib.Data.Int.Notation
import Mathlib.Data.Nat.Notation
import Mediasoup.Lib.Runs

open Runs

namespace Mediasoup

/-! ### What the library and the network bring -/

inductive IceState where
  | new
  | connected
  | completed
  | disconnected
  deriving DecidableEq

inductive DtlsState where
  | new
  | connecting
  | connected
  | failed
  | closed
  deriving DecidableEq

/-- `DtlsTransport::Role`. -/
inductive DtlsRole where
  | none
  | auto
  | client
  | server
  deriving DecidableEq

inductive FingerprintAlgorithm where
  | sha1
  | sha224
  | sha256
  | sha384
  | sha512

structure Fingerprint where
  algorithm : FingerprintAlgorithm
  value : String

/-- The peer's certificate: the answers of `X509_digest` and of the conversion to PEM. -/
structure Certificate where
  digest : FingerprintAlgorithm → Option (List UInt8)
  pem : Option String

/-- The answers of `DTLSv1_get_timeout` and `DTLSv1_handle_timeout`.  A running timeout
is not zero; the others have run out. -/
inductive Timeout where
  | running (timeoutMs : ℕ)
  | nothing
  | failed
  | retransmitted (handshakeDone : Bool) (next : Timeout)

/-- A call of `SSL_write`: its result, whether a handshake was completed in it, and
whether the connection was then closed or broken. -/
structure SslWrite where
  len : ℕ
  written : ℤ
  handshakeDone : Bool
  closed : Bool

/-- What is asked for once a handshake is done. -/
structure HandshakeAnswers where
  certificate : Option Certificate
  /-- An SRTP crypto suite was negotiated. -/
  srtpCryptoSuite : Bool
  /-- The SRTP sessions could be created. -/
  srtpRecvSession : Bool
  /-- What SCTP sends when it is told that the transport is connected. -/
  writes : List SslWrite

/-- A call of `SSL_read`, and what follows. -/
structure SslRead where
  read : ℤ
  handshakeDone : Bool
  closed : Bool
  handshake : HandshakeAnswers
  timeout : Timeout

inductive DataKind where
  | rtp
  | rtcp
  | sctp
  deriving DecidableEq

/-- The history of a transport. -/
inductive Entry where
  | sessionStarted
  | sessionReset
  | handshakeDone
  | fingerprintSet
  | fingerprintChecked (valid : Bool)
  | passedOn (kind : DataKind)
  deriving DecidableEq

/-- What the parent class tells of the connection: the `transportConnected` flags of the
consumers, and whether the congestion control client, if there is one, has its controller. -/
structure Parent where
  consumers : List Bool := []
  tccClient : Option Bool := none

structure WebRtcTransport where
  iceState : IceState
  dtlsRole : DtlsRole
  connectCalled : Bool
  srtpRecvSession : Bool
  localRole : DtlsRole
  state : DtlsState
  remoteFingerprint : Option Fingerprint
  handshakeDone : Bool
  handshakeDoneNow : Bool
  timerActive : Bool
  parent : Parent
  /-- Latest first. -/
  history : List Entry

inductive DtlsAbort where
  | invalidDtlsState
  | handshakeNotDone
  | remoteFingerprintNotSet
  | localRoleNotSet
  /-- `ProcessHandshake` is called again by what it has called. -/
  | nestedHandshake
  /-- `TransportCongestionControlClient::TransportDisconnected` without a controller. -/
  | noController

namespace WebRtcTransport

def initial : WebRtcTransport where
  iceState := .new
  dtlsRole := .auto
  connectCalled := false
  srtpRecvSession := false
  localRole := .none
  state := .new
  remoteFingerprint := none
  handshakeDone := false
  handshakeDoneNow := false
  timerActive := false
  parent := {}
  history := []

variable (t : WebRtcTransport)

def log (entry : Entry) : WebRtcTransport :=
  { t with history := entry :: t.history }

/-! ### The DTLS transport -/

def isRunning : Bool :=
  t.state = .connecting ∨ t.state = .connected

def reset : WebRtcTransport :=
  if t.isRunning then
    { t with
      timerActive := false
      localRole := .none
      state := .new
      handshakeDone := false
      handshakeDoneNow := false
      history := .sessionReset :: t.history }
  else t

/-- `Reset`, then the state that is told to the listener. -/
def resetTo (state : DtlsState) : WebRtcTransport :=
  { t.reset with state := state }

def hexDigit (n : ℕ) : Char :=
  if n < 10 then Char.ofNat (48 + n) else Char.ofNat (55 + n)

/-- A digest in uppercase hexadecimal, with colons. -/
def hexFingerprint (digest : List UInt8) : String :=
  ":".intercalate (digest.map fun byte =>
    String.ofList [hexDigit (byte.toNat / 16), hexDigit (byte.toNat % 16)])

def checkRemoteFingerprint (fingerprint : Fingerprint) : Option Certificate → Bool
  | none => false
  | some certificate =>
    match certificate.digest fingerprint.algorithm with
    | none => false
    | some digest =>
      if fingerprint.value ≠ hexFingerprint digest then false
      else match certificate.pem with
        | none => false
        | some pem => pem ≠ ""

def completeHandshake : WebRtcTransport :=
  { t with
    handshakeDoneNow := false
    handshakeDone := true
    timerActive := false
    history := .handshakeDone :: t.history }

/-- `Transport::Disconnected`. -/
def parentDisconnected : Except DtlsAbort WebRtcTransport :=
  if t.parent.tccClient = some false then .error .noController
  else .ok { t with
    parent := { t.parent with consumers := t.parent.consumers.map fun _ => false } }

/-- The peer has closed the session, or it is broken. -/
def closeSession : Except DtlsAbort WebRtcTransport :=
  if t.state = .connected then (t.resetTo .closed).parentDisconnected
  else .ok (t.resetTo .failed)

/-- `CheckStatus`: whether the session goes on.  `processHandshake` is what is done
when the handshake has just been completed and the fingerprint is known. -/
def checkStatus (processHandshake : WebRtcTransport → Except DtlsAbort (WebRtcTransport × Bool))
    (t : WebRtcTransport) (closed : Bool) : Except DtlsAbort (WebRtcTransport × Bool) :=
  if t.handshakeDoneNow then
    if !t.handshakeDone ∧ t.remoteFingerprint.isSome then processHandshake t.completeHandshake
    else .ok (t.completeHandshake, true)
  else if closed then do
    let t' ← t.closeSession
    return (t', false)
  else .ok (t, true)

def sendApplicationData (write : SslWrite) : Except DtlsAbort WebRtcTransport :=
  if t.state ≠ .connected ∨ write.len = 0 then .ok t
  else
    let t' := { t with handshakeDoneNow := t.handshakeDoneNow || write.handshakeDone }
    if write.written < 0 then do
      let (t'', _) ← checkStatus (fun _ => .error .nestedHandshake) t' write.closed
      return t''
    else .ok t'

def iceIsUp : Bool :=
  t.iceState = .connected ∨ t.iceState = .completed

def isConnected : Bool := t.iceIsUp ∧ t.state = .connected

def sendSctpData (write : SslWrite) : Except DtlsAbort WebRtcTransport :=
  if t.isConnected then t.sendApplicationData write else .ok t

/-- `Transport::Connected`: the consumers are told, SCTP may send, and the congestion control
client gets its controller. -/
def parentConnected (writes : List SslWrite) : Except DtlsAbort WebRtcTransport := do
  let t' ← run sendSctpData { t with
    parent := { t.parent with consumers := t.parent.consumers.map fun _ => true } } writes
  return { t' with
    parent := { t'.parent with tccClient := t'.parent.tccClient.map fun _ => true } }

/-- The end of `ExtractSrtpKeys`, and `OnDtlsTransportConnected`. -/
def connected (answers : HandshakeAnswers) : Except DtlsAbort WebRtcTransport :=
  let t' := { t with state := .connected, srtpRecvSession := answers.srtpRecvSession }
  if answers.srtpRecvSession then t'.parentConnected answers.writes else .ok t'

def processHandshake (answers : HandshakeAnswers) (t : WebRtcTransport) :
    Except DtlsAbort (WebRtcTransport × Bool) :=
  if !t.handshakeDone then .error .handshakeNotDone
  else match t.remoteFingerprint with
    | none => .error .remoteFingerprintNotSet
    | some fingerprint =>
      let valid := checkRemoteFingerprint fingerprint answers.certificate
      let t' := t.log (.fingerprintChecked valid)
      if !valid then .ok (t'.resetTo .failed, false)
      else if answers.srtpCryptoSuite then do
        let t'' ← t'.connected answers
        return (t'', true)
      else .ok (t'.resetTo .failed, false)

/-- `SetTimeout`, with what `OnTimer` does if the timeout has run out. -/
def setTimeoutWith (onTimer : WebRtcTransport → Except DtlsAbort WebRtcTransport)
    (t : WebRtcTransport) (timeout : Timeout) : Except DtlsAbort (WebRtcTransport × Bool) :=
  if !t.isRunning then .error .invalidDtlsState
  else match timeout with
    | .running timeoutMs =>
      if timeoutMs < 30000 then .ok ({ t with timerActive := true }, true)
      else .ok (t.resetTo .failed, false)
    | _ => do
      let t' ← onTimer t
      return (t', true)

def onTimer : Timeout → WebRtcTransport → Except DtlsAbort WebRtcTransport
  | .running _, t => .ok t
  | .nothing, t => .ok t
  | .failed, t => if t.handshakeDone then .ok t else .ok (t.resetTo .failed)
  | .retransmitted handshakeDone next, t =>
    if t.handshakeDone then .ok t
    else do
      let t' := { t with handshakeDoneNow := t.handshakeDoneNow || handshakeDone }
      let (t'', _) ← setTimeoutWith (onTimer next) t' next
      return t''

def setTimeout (timeout : Timeout) : Except DtlsAbort (WebRtcTransport × Bool) :=
  setTimeoutWith (onTimer timeout) t timeout

/-- What is left of an earlier session when a new one starts. -/
def endSession : WebRtcTransport :=
  if t.localRole = .client ∨ t.localRole = .server then t.reset else t

def startSession (localRole : DtlsRole) (handshakeDone : Bool) : WebRtcTransport :=
  { t with
    localRole := localRole
    state := .connecting
    handshakeDoneNow := t.handshakeDoneNow || handshakeDone
    history := .sessionStarted :: t.history }

/-- `DtlsTransport::Run`.  The handshake may be completed by the first call. -/
def runDtls (localRole : DtlsRole) (handshakeDone : Bool) (timeout : Timeout) :
    Except DtlsAbort WebRtcTransport :=
  if localRole = t.localRole then .ok t
  else if localRole = .client then do
    let (t', _) ← (t.endSession.startSession localRole handshakeDone).setTimeout timeout
    return t'
  else .ok (t.endSession.startSession localRole handshakeDone)

def setRemoteFingerprint (fingerprint : Fingerprint) (answers : HandshakeAnswers) :
    Except DtlsAbort (WebRtcTransport × Bool) :=
  let t' := { t with
    remoteFingerprint := some fingerprint
    history := .fingerprintSet :: t.history }
  if t.handshakeDone ∧ t.state ≠ .connected then processHandshake answers t'
  else .ok (t', true)

/-- The last part of `ProcessDtlsData`. -/
def passOnApplicationData (read : ℤ) : WebRtcTransport :=
  if 0 < read ∧ t.handshakeDone then t.log (.passedOn .sctp) else t

def processDtlsData (answer : SslRead) : Except DtlsAbort WebRtcTransport :=
  if !t.isRunning then .ok t
  else do
    let t' := { t with handshakeDoneNow := t.handshakeDoneNow || answer.handshakeDone }
    let (t₁, goesOn) ← checkStatus (processHandshake answer.handshake) t' answer.closed
    if !goesOn then return t₁
    else do
      let (t₂, timeoutSet) ← t₁.setTimeout answer.timeout
      return if timeoutSet then t₂.passOnApplicationData answer.read else t₂

/-! ### The WebRTC transport -/

def mayRunDtlsTransport (handshakeDone : Bool) (timeout : Timeout) :
    Except DtlsAbort WebRtcTransport :=
  if t.localRole = t.dtlsRole then .ok t
  else match t.dtlsRole with
    | .auto =>
      if t.iceIsUp then { t with dtlsRole := .server }.runDtls .server handshakeDone timeout
      else .ok t
    | .client => if t.iceIsUp then t.runDtls .client handshakeDone timeout else .ok t
    | .server => if t.iceIsUp then t.runDtls .server handshakeDone timeout else .ok t
    | .none => .error .localRoleNotSet

/-- The local role for the remote role of a connect request; without one it is `auto`. -/
def localRoleFor : DtlsRole → DtlsRole
  | .client => .server
  | _ => .client

inductive Event where
  | ice (state : IceState) (handshakeDone : Bool) (timeout : Timeout) (writes : List SslWrite)
  | connect (fingerprint : Fingerprint) (remoteRole : DtlsRole) (answers : HandshakeAnswers)
      (handshakeDone : Bool) (timeout : Timeout)
  | dtlsData (validTuple : Bool) (answer : SslRead)
  | rtpData (validTuple decrypted parsed : Bool)
  | rtcpData (validTuple decrypted parsed : Bool)
  | timer (timeout : Timeout)
  | sctpSend (write : SslWrite)
  | consume (createTccClient : Bool)

/-- `OnIceServerConnected`, `OnIceServerCompleted`, `OnIceServerDisconnected`. -/
def onIceState (state : IceState) (handshakeDone : Bool)
    (timeout : Timeout) (writes : List SslWrite) : Except DtlsAbort WebRtcTransport :=
  let t' := { t with iceState := state }
  if t'.iceIsUp then do
    let t'' ← t'.mayRunDtlsTransport handshakeDone timeout
    if t''.state = .connected then t''.parentConnected writes else return t''
  else if t'.state = .connected then t'.parentDisconnected
  else .ok t'

/-- `TRANSPORT_CONNECT`; a second request is refused. -/
def connect (fingerprint : Fingerprint) (remoteRole : DtlsRole)
    (answers : HandshakeAnswers) (handshakeDone : Bool) (timeout : Timeout) :
    Except DtlsAbort WebRtcTransport :=
  if t.connectCalled ∨ remoteRole = .none then .ok t
  else do
    let t' := { t with dtlsRole := localRoleFor remoteRole, connectCalled := true }
    let (t'', fine) ← t'.setRemoteFingerprint fingerprint answers
    if fine then t''.mayRunDtlsTransport handshakeDone timeout else return t''

def onDtlsDataReceived (validTuple : Bool) (answer : SslRead) : Except DtlsAbort WebRtcTransport :=
  if validTuple ∧ t.isRunning then t.processDtlsData answer else .ok t

/-- `OnRtpDataReceived` and `OnRtcpDataReceived`. -/
def onSrtpDataReceived (kind : DataKind) (validTuple decrypted parsed : Bool) : WebRtcTransport :=
  if t.state = .connected ∧ t.srtpRecvSession ∧ validTuple ∧ decrypted ∧ parsed then
    t.log (.passedOn kind)
  else t

/-- The connection in `TRANSPORT_CONSUME`: a new consumer, and a congestion control client if
it is the first one that asks for it. -/
def consume (createTccClient : Bool) : WebRtcTransport :=
  { t with parent :=
    { consumers := t.isConnected :: t.parent.consumers
      tccClient := if createTccClient ∧ t.parent.tccClient = none then some t.isConnected
        else t.parent.tccClient } }

def step : Event → Except DtlsAbort WebRtcTransport
  | .ice state handshakeDone timeout writes => t.onIceState state handshakeDone timeout writes
  | .connect fingerprint remoteRole answers handshakeDone timeout =>
    t.connect fingerprint remoteRole answers handshakeDone timeout
  | .dtlsData validTuple answer => t.onDtlsDataReceived validTuple answer
  | .rtpData validTuple decrypted parsed =>
    .ok (t.onSrtpDataReceived .rtp validTuple decrypted parsed)
  | .rtcpData validTuple decrypted parsed =>
    .ok (t.onSrtpDataReceived .rtcp validTuple decrypted parsed)
  | .timer timeout =>
    if t.timerActive then onTimer timeout { t with timerActive := false } else .ok t
  | .sctpSend write => t.sendSctpData write
  | .consume createTccClient => .ok (t.consume createTccClient)

end WebRtcTransport

end Mediasoup
