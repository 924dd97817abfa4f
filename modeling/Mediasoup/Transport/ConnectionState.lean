/-
What the consumers of a WebRTC transport are told of its connection.

A transport is connected when ICE and DTLS are.  Its parent class is told so from the callbacks
of both, and tells the consumers and the congestion control client; a consumer that is created
later asks for itself.

* `Coherent` — the consumers know the state of the connection,
* `Steady` — the events that keep it so,
* `run_coherent` — after a run of such events the flag of each consumer is right, and nobody
  has been told of a disconnection without a congestion controller.
-/
import Mediasoup.Transport.Authentication

open List Runs

namespace Mediasoup

namespace WebRtcTransport

/-- No congestion control client is told of a disconnection before it has a controller. -/
abbrev Guarded {α : Type} (Q : α → Prop) (x : Except DtlsAbort α) : Prop :=
  Meets (fun reason => reason = .noController) Q x

structure Matches (t : WebRtcTransport) : Prop where
  flags : ∀ flag ∈ t.parent.consumers, flag = t.isConnected
  role : t.iceIsUp → t.isRunning → t.localRole = t.dtlsRole
  done : t.state = .connected → t.handshakeDone
  fresh : t.remoteFingerprint.isSome ∨ t.state = .connected → t.connectCalled
  called : t.connectCalled → t.dtlsRole ≠ .auto

/-- The consumers know the state of the connection, and the congestion control client has its
controller while the transport is connected. -/
structure Coherent (t : WebRtcTransport) : Prop extends Matches t where
  controller : t.isConnected → t.parent.tccClient ≠ some false

theorem initial_coherent : Coherent initial := by
  refine ⟨⟨?_, ?_, ?_, ?_, ?_⟩, ?_⟩ <;> simp [initial, isConnected, iceIsUp]

variable {t : WebRtcTransport}

theorem isConnected_eq_false (h : t.state ≠ .connected) : t.isConnected = false := by
  rw [← Bool.not_eq_true, isConnected_iff]
  exact fun hboth => h hboth.2

/-- The fields that the connection depends on are the same. -/
structure Alike (t t' : WebRtcTransport) : Prop where
  iceState : t'.iceState = t.iceState
  dtlsRole : t'.dtlsRole = t.dtlsRole
  connectCalled : t'.connectCalled = t.connectCalled
  localRole : t'.localRole = t.localRole
  state : t'.state = t.state
  remoteFingerprint : t'.remoteFingerprint = t.remoteFingerprint
  parent : t'.parent = t.parent
  handshakeDone : t.handshakeDone → t'.handshakeDone

variable {t' : WebRtcTransport} {answers : HandshakeAnswers}

theorem Alike.isConnected (ha : Alike t t') : t'.isConnected = t.isConnected := by
  rw [Bool.eq_iff_iff, isConnected_iff, isConnected_iff, iceIsUp, iceIsUp, ha.iceState, ha.state]

theorem Matches.congr (h : Matches t) (ha : Alike t t') : Matches t' := by
  refine ⟨?_, ?_, ?_, ?_, ?_⟩
  · rw [ha.parent, ha.isConnected]
    exact h.flags
  · simpa only [iceIsUp, isRunning, ha.iceState, ha.state, ha.localRole, ha.dtlsRole] using h.role
  · rw [ha.state]
    exact fun hc => ha.handshakeDone (h.done hc)
  · rw [ha.remoteFingerprint, ha.state, ha.connectCalled]
    exact h.fresh
  · rw [ha.connectCalled, ha.dtlsRole]
    exact h.called

theorem Coherent.congr (h : Coherent t) (ha : Alike t t') : Coherent t' := by
  refine ⟨h.toMatches.congr ha, ?_⟩
  rw [ha.parent, ha.isConnected]
  exact h.controller

structure Idle (t : WebRtcTransport) : Prop where
  flags : ∀ flag ∈ t.parent.consumers, flag = false
  fresh : t.remoteFingerprint.isSome ∨ t.state = .connected → t.connectCalled
  called : t.connectCalled → t.dtlsRole ≠ .auto

theorem Coherent.idle (h : Coherent t) (hidle : t.isConnected = false) : Idle t :=
  ⟨by simpa only [hidle] using h.flags, h.fresh, h.called⟩

theorem Idle.coherent (h : Idle t) (hstate : t.state ≠ .connected)
    (hrole : t.iceIsUp → t.isRunning → t.localRole = t.dtlsRole) : Coherent t := by
  have hidle := isConnected_eq_false hstate
  refine ⟨⟨?_, hrole, fun hc => absurd hc hstate, h.fresh, h.called⟩, ?_⟩
  · rw [hidle]
    exact h.flags
  · rw [hidle]
    exact fun hc => absurd hc Bool.false_ne_true

/-! ### Sessions that end -/

theorem resetTo_same (state : DtlsState) :
    (t.resetTo state).parent = t.parent ∧ (t.resetTo state).dtlsRole = t.dtlsRole ∧
      (t.resetTo state).remoteFingerprint = t.remoteFingerprint ∧
      (t.resetTo state).connectCalled = t.connectCalled := by
  unfold resetTo reset
  split_ifs <;> exact ⟨rfl, rfl, rfl, rfl⟩

theorem isRunning_resetTo {state : DtlsState} (hne : state ≠ .connecting)
    (hne' : state ≠ .connected) : ¬(t.resetTo state).isRunning := by
  simp [isRunning, resetTo, hne, hne']

theorem Idle.resetTo (h : Idle t) {state : DtlsState} (hne : state ≠ .connecting)
    (hne' : state ≠ .connected) : Coherent (t.resetTo state) := by
  obtain ⟨hparent, hrole, hknown, hcalled⟩ := resetTo_same state
  have hidle : Idle (t.resetTo state) := by
    refine ⟨?_, ?_, ?_⟩
    · rw [hparent]
      exact h.flags
    · rw [hknown, hcalled]
      exact fun hor => h.fresh (hor.imp_right fun hc => absurd hc hne')
    · rw [hcalled, hrole]
      exact h.called
  exact hidle.coherent hne' fun _ hrun => absurd hrun (isRunning_resetTo hne hne')

theorem parentDisconnected_coherent (htcc : t.parent.tccClient ≠ some false)
    (hconnected : t.isConnected = false)
    (hrole : t.iceIsUp → t.isRunning → t.localRole = t.dtlsRole)
    (hdone : t.state = .connected → t.handshakeDone)
    (hfresh : t.remoteFingerprint.isSome ∨ t.state = .connected → t.connectCalled)
    (hcalled : t.connectCalled → t.dtlsRole ≠ .auto) :
    Guarded (fun t' => Coherent t' ∧ t'.parent.tccClient = t.parent.tccClient)
      t.parentDisconnected := by
  rw [parentDisconnected, if_neg htcc]
  have hsame : ({ t with parent := { t.parent with
      consumers := t.parent.consumers.map fun _ => false } } : WebRtcTransport).isConnected =
      false := hconnected
  refine ⟨⟨⟨fun flag hflag => ?_, hrole, hdone, hfresh, hcalled⟩, fun _ => htcc⟩, rfl⟩
  obtain ⟨_, -, rfl⟩ := mem_map.mp hflag
  exact hsame.symm

theorem closeSession_connected (h : Matches t) (hstate : t.state = .connected)
    (htcc : t.parent.tccClient ≠ some false) :
    Guarded (fun t' => Coherent t' ∧ t'.parent.tccClient = t.parent.tccClient) t.closeSession := by
  obtain ⟨hparent, hrole, hknown, hcalled⟩ := resetTo_same .closed
  rw [closeSession, if_pos hstate, ← hparent]
  refine parentDisconnected_coherent ?_ (isConnected_eq_false (by simp [resetTo])) ?_ ?_ ?_ ?_
  · rwa [hparent]
  · exact fun _ hrun => absurd hrun (isRunning_resetTo (by simp) (by simp))
  · exact fun hc => by cases hc
  · rw [hknown, hcalled]
    exact fun hor => h.fresh (hor.imp_right fun hc => by cases hc)
  · rw [hcalled, hrole]
    exact h.called

theorem closeSession_coherent (h : Coherent t)
    (htcc : t.state = .connected → t.parent.tccClient ≠ some false) :
    Guarded Coherent t.closeSession := by
  by_cases hstate : t.state = .connected
  · exact (closeSession_connected h.toMatches hstate (htcc hstate)).mono fun _ ht' => ht'.1
  · rw [closeSession, if_neg hstate]
    exact (h.idle (isConnected_eq_false hstate)).resetTo (by simp) (by simp)

/-! ### Telling the consumers -/

/-- None of these calls of SCTP ends the session before there is a congestion controller. -/
def Quiet (t : WebRtcTransport) (writes : List SslWrite) : Prop :=
  t.parent.tccClient = some false → ∀ write ∈ writes, write.closed = false

instance (t : WebRtcTransport) (writes : List SslWrite) : Decidable (Quiet t writes) :=
  inferInstanceAs (Decidable (_ → _))

theorem checkStatus_connected (h : Matches t) (hstate : t.state = .connected) {closed : Bool}
    (hquiet : t.parent.tccClient = some false → closed = false) :
    Guarded (fun result => Matches result.1 ∧ result.1.parent.tccClient = t.parent.tccClient)
      (checkStatus (fun _ => .error .nestedHandshake) t closed) := by
  rw [checkStatus]
  split_ifs with hnow hprocess hclosed
  · exact fun hc => by cases hc
  · exact ⟨h.congr ⟨rfl, rfl, rfl, rfl, rfl, rfl, rfl, fun _ => rfl⟩, rfl⟩
  · refine (closeSession_connected h hstate fun htcc => ?_).bind fun t' ht' =>
      ⟨ht'.1.toMatches, ht'.2⟩
    rw [hquiet htcc] at hclosed
    cases hclosed
  · exact ⟨h, rfl⟩

theorem sendSctpData_matches (h : Matches t) {write : SslWrite}
    (hquiet : t.parent.tccClient = some false → write.closed = false) :
    Guarded (fun t' => Matches t' ∧ t'.parent.tccClient = t.parent.tccClient)
      (t.sendSctpData write) := by
  by_cases hconnected : t.isConnected
  · have hstate := (isConnected_iff.mp hconnected).2
    have h' : Matches { t with
        handshakeDoneNow := t.handshakeDoneNow || write.handshakeDone } :=
      h.congr ⟨rfl, rfl, rfl, rfl, rfl, rfl, rfl, fun hd => hd⟩
    rw [sendSctpData, if_pos hconnected, sendApplicationData]
    split_ifs
    · exact ⟨h, rfl⟩
    · exact (checkStatus_connected h' hstate hquiet).bind fun result hresult => hresult
    · exact ⟨h', rfl⟩
  · rw [sendSctpData, if_neg hconnected]
    exact ⟨h, rfl⟩

variable {writes : List SslWrite} {timeout : Timeout}

theorem run_sendSctpData_matches :
    ∀ t, Matches t → Quiet t writes → Guarded Matches (run sendSctpData t writes) := by
  induction writes with
  | nil => exact fun t h _ => h
  | cons write writes ih =>
    intro t h hquiet
    have hfirst := sendSctpData_matches h fun htcc => hquiet htcc write mem_cons_self
    cases hsend : t.sendSctpData write with
    | error reason =>
      rw [run_cons_error hsend]
      rwa [hsend] at hfirst
    | ok t' =>
      rw [run_cons_ok hsend]
      rw [hsend] at hfirst
      refine ih t' hfirst.1 fun htcc later hlater => ?_
      exact hquiet (hfirst.2.symm.trans htcc) later (mem_cons_of_mem write hlater)

/-- **Connected.**  All consumers are told, whatever they knew. -/
theorem parentConnected_coherent (hconnected : t.isConnected)
    (hrole : t.localRole = t.dtlsRole) (hdone : t.handshakeDone) (hcalled : t.connectCalled)
    (hauto : t.dtlsRole ≠ .auto) (hquiet : Quiet t writes) :
    Guarded Coherent (t.parentConnected writes) := by
  have htold : Matches { t with
      parent := { t.parent with consumers := t.parent.consumers.map fun _ => true } } := by
    refine ⟨fun flag hflag => ?_, fun _ _ => hrole, fun _ => hdone, fun _ => hcalled,
      fun _ => hauto⟩
    obtain ⟨_, -, rfl⟩ := mem_map.mp hflag
    exact hconnected.symm
  refine (run_sendSctpData_matches _ htold hquiet).bind fun t' ht' => ?_
  refine ⟨⟨ht'.flags, ht'.role, ht'.done, ht'.fresh, ht'.called⟩, fun _ htcc => ?_⟩
  obtain ⟨_, -, hfalse⟩ := Option.map_eq_some_iff.mp htcc
  cases hfalse

/-! ### Handshakes -/

/-- The handshake is accepted. -/
def Accepts (answers : HandshakeAnswers) (fingerprint : Fingerprint) : Prop :=
  checkRemoteFingerprint fingerprint answers.certificate ∧ answers.srtpCryptoSuite

instance (answers : HandshakeAnswers) (fingerprint : Fingerprint) :
    Decidable (Accepts answers fingerprint) :=
  inferInstanceAs (Decidable (_ ∧ _))

/-- A handshake of the session at hand can be accepted: ICE is up, the session has the role that
it is to have, and the consumers can be told. -/
structure Timely (t : WebRtcTransport) (answers : HandshakeAnswers) : Prop where
  iceIsUp : t.iceIsUp
  role : t.localRole = t.dtlsRole
  srtpRecvSession : answers.srtpRecvSession
  quiet : Quiet t answers.writes

instance (t : WebRtcTransport) (answers : HandshakeAnswers) : Decidable (Timely t answers) :=
  decidable_of_iff
    (t.iceIsUp ∧ t.localRole = t.dtlsRole ∧ answers.srtpRecvSession ∧ Quiet t answers.writes)
    ⟨fun h => ⟨h.1, h.2.1, h.2.2.1, h.2.2.2⟩, fun h => ⟨h.1, h.2, h.3, h.4⟩⟩

theorem processHandshake_coherent (h : Idle t) (hcalled : t.connectCalled)
    (htimely : ∀ fingerprint, t.remoteFingerprint = some fingerprint →
      Accepts answers fingerprint → Timely t answers) : Guarded (fun result => Coherent result.1 ∧
        (result.2 → ∃ fingerprint ∈ t.remoteFingerprint, Accepts answers fingerprint))
      (processHandshake answers t) := by
  have hfailed {p : Prop} (hfalse : false = true) : p := absurd hfalse Bool.false_ne_true
  rw [processHandshake]
  by_cases hdone : t.handshakeDone
  · rw [if_neg (by simp [hdone])]
    cases hknown : t.remoteFingerprint with
    | none => exact fun hc => by cases hc
    | some fingerprint =>
      have hlog (valid : Bool) : Idle (t.log (.fingerprintChecked valid)) :=
        ⟨h.flags, h.fresh, h.called⟩
      dsimp only
      -- a wrong fingerprint or no SRTP suite resets; otherwise the parent is told
      split_ifs with hvalid hsuite
      · exact ⟨(hlog _).resetTo (by simp) (by simp), hfailed⟩
      · have haccepts : Accepts answers fingerprint := ⟨by simpa using hvalid, hsuite⟩
        have ht := htimely fingerprint hknown haccepts
        have htold (valid : Bool) :
            Guarded Coherent ((t.log (.fingerprintChecked valid)).connected answers) := by
          rw [connected, if_pos ht.srtpRecvSession]
          apply parentConnected_coherent
          · exact isConnected_iff.mpr ⟨ht.iceIsUp, rfl⟩
          · exact ht.role
          · exact hdone
          · exact hcalled
          · exact h.called hcalled
          · exact ht.quiet
        exact (htold _).bind fun t' ht' => ⟨ht', fun _ => ⟨fingerprint, rfl, haccepts⟩⟩
      · exact ⟨(hlog _).resetTo (by simp) (by simp), hfailed⟩
  · rw [if_pos (by simp [hdone])]
    exact fun hc => by cases hc

/-- A handshake that is completed now is accepted. -/
def Completes (t : WebRtcTransport) (answers : HandshakeAnswers) : Prop :=
  t.handshakeDoneNow ∧ ¬t.handshakeDone ∧
    ∃ fingerprint ∈ t.remoteFingerprint, Accepts answers fingerprint

instance (t : WebRtcTransport) (answers : HandshakeAnswers) : Decidable (Completes t answers) :=
  inferInstanceAs (Decidable (_ ∧ _ ∧ _))

theorem checkStatus_coherent (h : Coherent t) (htimely : Completes t answers → Timely t answers)
    {closed : Bool} (htcc : closed → t.state = .connected → t.parent.tccClient ≠ some false) :
    Guarded (fun result => Coherent result.1 ∧
        (result.2 → result.1.state = .connected → t.state = .connected ∨ Completes t answers))
      (checkStatus (processHandshake answers) t closed) := by
  have hcomplete : Coherent t.completeHandshake :=
    h.congr ⟨rfl, rfl, rfl, rfl, rfl, rfl, rfl, fun _ => rfl⟩
  rw [checkStatus]
  split_ifs with hnow hprocess hclosed
  · have hnew : ¬t.handshakeDone := by simpa using hprocess.1
    have hidle : Idle t.completeHandshake :=
      hcomplete.idle (isConnected_eq_false fun hc => hnew (h.done hc))
    refine (processHandshake_coherent hidle (h.fresh (.inl hprocess.2)) ?_).mono
      fun result hresult => ⟨hresult.1, fun hon _ => .inr ⟨hnow, hnew, hresult.2 hon⟩⟩
    intro fingerprint hknown haccepts
    have ht := htimely ⟨hnow, hnew, fingerprint, hknown, haccepts⟩
    exact ⟨ht.iceIsUp, ht.role, ht.srtpRecvSession, ht.quiet⟩
  · exact ⟨hcomplete, fun _ hc => .inl hc⟩
  · exact (closeSession_coherent h (htcc hclosed)).bind fun t' ht' =>
      ⟨ht', fun hfalse => absurd hfalse Bool.false_ne_true⟩
  · exact ⟨h, fun _ hc => .inl hc⟩

/-! ### Timeouts -/

def TimerFits : Timeout → Prop
  | .running timeoutMs => timeoutMs < 30000
  | _ => True

instance : DecidablePred TimerFits
  | .running timeoutMs => inferInstanceAs (Decidable (timeoutMs < 30000))
  | .nothing | .failed | .retransmitted _ _ => inferInstanceAs (Decidable True)

/-- A coherent transport, connected only if it was before. -/
def Settled (t t' : WebRtcTransport) : Prop :=
  Coherent t' ∧ (t'.state = .connected → t.state = .connected)

theorem Coherent.settled_resetTo (h : Coherent t) (hidle : t.isConnected = false) :
    Settled t (t.resetTo .failed) :=
  ⟨(h.idle hidle).resetTo (by simp) (by simp), fun hc => by cases hc⟩

theorem setTimeoutWith_settled {timer : WebRtcTransport → Except DtlsAbort WebRtcTransport}
    (htimer : ∀ t, Coherent t → Guarded (Settled t) (timer t)) (h : Coherent t)
    (hfits : t.isConnected → TimerFits timeout) :
    Guarded (fun result => Settled t result.1) (setTimeoutWith timer t timeout) := by
  unfold setTimeoutWith
  split
  · exact fun hc => by cases hc
  split
  · split
    · exact ⟨h.congr ⟨rfl, rfl, rfl, rfl, rfl, rfl, rfl, fun hd => hd⟩, fun hc => hc⟩
    · rename_i hhigh
      exact h.settled_resetTo (Bool.eq_false_iff.mpr fun hc => hhigh (hfits hc))
  · exact (htimer t h).bind fun t' ht' => ht'

theorem onTimer_settled : ∀ t, Coherent t → Guarded (Settled t) (onTimer timeout t) := by
  induction timeout with
  | running timeoutMs | nothing => exact fun t h => ⟨h, fun hc => hc⟩
  | failed =>
    intro t h
    rw [onTimer]
    split_ifs with hdone
    · exact ⟨h, fun hc => hc⟩
    · exact h.settled_resetTo (isConnected_eq_false fun hc => hdone (h.done hc))
  | retransmitted handshakeDone next ih =>
    intro t h
    rw [onTimer]
    split_ifs with hdone
    · exact ⟨h, fun hc => hc⟩
    have h' : Coherent { t with handshakeDoneNow := t.handshakeDoneNow || handshakeDone } :=
      h.congr ⟨rfl, rfl, rfl, rfl, rfl, rfl, rfl, fun hd => hd⟩
    refine (setTimeoutWith_settled ih h' fun hc => ?_).bind fun result ht' => ht'
    exact absurd (h.done (isConnected_iff.mp hc).2) hdone

theorem setTimeout_settled (h : Coherent t) (hfits : t.isConnected → TimerFits timeout) :
    Guarded (fun result => Settled t result.1) (t.setTimeout timeout) :=
  setTimeoutWith_settled (onTimer_settled) h hfits

/-! ### Sessions that start -/

theorem startSession_same (role : DtlsRole) (handshakeDone : Bool) :
    (t.endSession.startSession role handshakeDone).parent = t.parent ∧
      (t.endSession.startSession role handshakeDone).dtlsRole = t.dtlsRole ∧
      (t.endSession.startSession role handshakeDone).remoteFingerprint = t.remoteFingerprint ∧
      (t.endSession.startSession role handshakeDone).connectCalled = t.connectCalled := by
  unfold startSession endSession reset
  split_ifs <;> exact ⟨rfl, rfl, rfl, rfl⟩

theorem runDtls_coherent (h : Idle t) {role : DtlsRole} (hrole : t.dtlsRole = role)
    (hlocal : t.localRole = role → t.state ≠ .connected) (handshakeDone : Bool) :
    Guarded (fun t' => Coherent t' ∧ t'.state ≠ .connected)
      (t.runDtls role handshakeDone timeout) := by
  obtain ⟨hparent, hrole', hknown, hcalled⟩ := startSession_same role handshakeDone
  have hnew : (t.endSession.startSession role handshakeDone).state ≠ .connected := by
    simp [startSession]
  -- a new session leaves the parent, the role and the calls as they were
  have hidle : Idle (t.endSession.startSession role handshakeDone) := by
    refine ⟨?_, ?_, ?_⟩
    · rw [hparent]
      exact h.flags
    · rw [hknown, hcalled]
      exact fun hor => h.fresh (hor.imp_right fun hc => absurd hc hnew)
    · rw [hcalled, hrole']
      exact h.called
  have hstarted : Coherent (t.endSession.startSession role handshakeDone) :=
    hidle.coherent hnew fun _ _ => hrole.symm.trans hrole'.symm
  rw [runDtls]
  split_ifs with hsame
  · exact ⟨h.coherent (hlocal hsame.symm) fun _ _ => hsame.symm.trans hrole.symm,
      hlocal hsame.symm⟩
  · have hfits (hc : (t.endSession.startSession role handshakeDone).isConnected) :
        TimerFits timeout := absurd (isConnected_iff.mp hc).2 hnew
    refine (setTimeout_settled hstarted hfits).bind fun result ht' => ?_
    exact ⟨ht'.1, fun hc => hnew (ht'.2 hc)⟩
  · exact ⟨hstarted, hnew⟩

theorem mayRunDtlsTransport_idle (h : Idle t) (hlocal : t.localRole ≠ t.dtlsRole)
    (hup : t.iceIsUp) (handshakeDone : Bool) :
    Guarded (fun t' => Coherent t' ∧ t'.state ≠ .connected)
      (t.mayRunDtlsTransport handshakeDone timeout) := by
  rw [mayRunDtlsTransport, if_neg hlocal]
  split
  case h_1 hrole =>
    rw [if_pos hup]
    have hserver : Idle { t with dtlsRole := .server } := ⟨h.flags, h.fresh, fun _ => by simp⟩
    refine runDtls_coherent hserver rfl (fun _ hc => ?_) handshakeDone
    exact h.called (h.fresh (.inr hc)) hrole
  case h_2 hrole =>
    rw [if_pos hup]
    exact runDtls_coherent h hrole (fun hl => absurd (hl.trans hrole.symm) hlocal) _
  case h_3 hrole =>
    rw [if_pos hup]
    exact runDtls_coherent h hrole (fun hl => absurd (hl.trans hrole.symm) hlocal) _
  case h_4 => exact fun hc => by cases hc

theorem mayRunDtlsTransport_down (hup : ¬t.iceIsUp) (handshakeDone : Bool) :
    Guarded (fun t' => t' = t) (t.mayRunDtlsTransport handshakeDone timeout) := by
  rw [mayRunDtlsTransport]
  split_ifs
  · rfl
  · split
    case h_4 => exact fun hc => by cases hc
    all_goals rfl

theorem mayRunDtlsTransport_coherent (hkept : t.localRole = t.dtlsRole ∨ ¬t.iceIsUp → Coherent t)
    (hidle : t.localRole ≠ t.dtlsRole → t.iceIsUp → Idle t) (handshakeDone : Bool) :
    Guarded Coherent (t.mayRunDtlsTransport handshakeDone timeout) := by
  by_cases hlocal : t.localRole = t.dtlsRole
  · rw [mayRunDtlsTransport, if_pos hlocal]
    exact hkept (.inl hlocal)
  · by_cases hup : t.iceIsUp
    · exact (mayRunDtlsTransport_idle (hidle hlocal hup) hlocal hup _).mono fun _ ht' => ht'.1
    · exact (mayRunDtlsTransport_down hup _).mono fun _ ht' => ht' ▸ hkept (.inr hup)

theorem Coherent.idle_of_role (h : Coherent t) (hlocal : t.localRole ≠ t.dtlsRole) : Idle t := by
  refine h.idle (Bool.eq_false_iff.mpr fun hc => hlocal ?_)
  obtain ⟨hup, hstate⟩ := isConnected_iff.mp hc
  exact h.role hup (by simp [isRunning, hstate])

/-! ### The events -/

theorem onIceState_coherent (h : Coherent t) {state : IceState}
    (htcc : ¬({ t with iceState := state } : WebRtcTransport).iceIsUp → t.state = .connected →
      t.parent.tccClient ≠ some false)
    (hquiet : t.state = .connected → t.localRole = t.dtlsRole → Quiet t writes)
    (handshakeDone : Bool) :
    Guarded Coherent (t.onIceState state handshakeDone timeout writes) := by
  have hmoved (hidle : Idle t) : Idle { t with iceState := state } :=
    ⟨hidle.flags, hidle.fresh, hidle.called⟩
  rw [onIceState]
  split_ifs with hup hstate
  · -- with the session's role unchanged only the parent is told
    by_cases hlocal : t.localRole = t.dtlsRole
    · rw [mayRunDtlsTransport, if_pos hlocal]
      show Guarded Coherent (if t.state = .connected then _ else _)
      split_ifs with hstate
      · have hcalled := h.fresh (.inr hstate)
        apply parentConnected_coherent
        · exact isConnected_iff.mpr ⟨hup, hstate⟩
        · exact hlocal
        · exact h.done hstate
        · exact hcalled
        · exact h.called hcalled
        · exact hquiet hstate hlocal
      · exact (hmoved (h.idle (isConnected_eq_false hstate))).coherent hstate fun _ _ => hlocal
    · -- otherwise DTLS starts again, and cannot have connected yet
      have hidle := hmoved (h.idle_of_role hlocal)
      refine (mayRunDtlsTransport_idle hidle hlocal hup _).bind fun t' ht' => ?_
      rw [if_neg ht'.2]
      exact ht'.1
  · -- ICE went down under a connected DTLS
    have hdown : ({ t with iceState := state } : WebRtcTransport).isConnected = false :=
      Bool.eq_false_iff.mpr fun hc => hup (isConnected_iff.mp hc).1
    refine (parentDisconnected_coherent ?_ hdown ?_ ?_ ?_ ?_).mono fun _ ht' => ht'.1
    · exact htcc hup hstate
    · exact fun hup' => absurd hup' hup
    · exact h.done
    · exact h.fresh
    · exact h.called
  · exact (hmoved (h.idle (isConnected_eq_false hstate))).coherent hstate
      fun hup' => absurd hup' hup

theorem setRemoteFingerprint_coherent (h : Idle t) (hstate : t.state ≠ .connected)
    (hcalled : t.connectCalled) (fingerprint : Fingerprint)
    (htimely : t.handshakeDone → Accepts answers fingerprint → Timely t answers) :
    Guarded (fun result => Coherent result.1 ∨
        result.2 ∧ Idle result.1 ∧ result.1.state ≠ .connected)
      (t.setRemoteFingerprint fingerprint answers) := by
  have hknown : Idle { t with
      remoteFingerprint := some fingerprint
      history := .fingerprintSet :: t.history } := ⟨h.flags, fun _ => hcalled, h.called⟩
  rw [setRemoteFingerprint]
  split_ifs with hdone
  · refine (processHandshake_coherent hknown hcalled ?_).mono fun _ hresult => .inl hresult.1
    rintro _ ⟨⟩ haccepts
    have ht := htimely hdone.1 haccepts
    exact ⟨ht.iceIsUp, ht.role, ht.srtpRecvSession, ht.quiet⟩
  · exact .inr ⟨rfl, hknown, hstate⟩

theorem connect_coherent (h : Coherent t) {fingerprint : Fingerprint} {remoteRole : DtlsRole}
    (htimely : ¬t.connectCalled → t.handshakeDone → Accepts answers fingerprint →
      Timely { t with dtlsRole := localRoleFor remoteRole } answers) (handshakeDone : Bool) :
    Guarded Coherent (t.connect fingerprint remoteRole answers handshakeDone timeout) := by
  rw [connect]
  split_ifs with hrefused
  · exact h
  have hfirst : ¬t.connectCalled := fun hc => hrefused (.inl hc)
  -- DTLS needs the fingerprint of this first call, so it has not connected
  have hstate : t.state ≠ .connected := fun hc => hfirst (h.fresh (.inr hc))
  have hauto : localRoleFor remoteRole ≠ .auto := by
    cases remoteRole <;> simp [localRoleFor]
  have hidle : Idle { t with dtlsRole := localRoleFor remoteRole, connectCalled := true } :=
    ⟨(h.idle (isConnected_eq_false hstate)).flags, fun _ => rfl, fun _ => hauto⟩
  refine (setRemoteFingerprint_coherent hidle hstate rfl fingerprint
    fun hdone haccepts => ?_).bind fun result hresult => ?_
  · have ht := htimely hfirst hdone haccepts
    exact ⟨ht.iceIsUp, ht.role, ht.srtpRecvSession, ht.quiet⟩
  · show Guarded Coherent (if result.2 then _ else _)
    -- the handshake has been processed, or is still to come
    obtain hresult | ⟨hfine, hresult, hstate'⟩ := hresult
    · split_ifs
      · exact mayRunDtlsTransport_coherent (fun _ => hresult)
          (fun hlocal _ => hresult.idle_of_role hlocal) handshakeDone
      · exact hresult
    · rw [if_pos hfine]
      refine mayRunDtlsTransport_coherent (fun hkept => ?_) (fun _ _ => hresult) _
      exact hresult.coherent hstate' fun hup _ => hkept.resolve_right fun hdown => hdown hup

def afterRead (t : WebRtcTransport) (answer : SslRead) : WebRtcTransport :=
  { t with handshakeDoneNow := t.handshakeDoneNow || answer.handshakeDone }

theorem processDtlsData_coherent (h : Coherent t) {answer : SslRead}
    (htimely : Completes (t.afterRead answer) answer.handshake → Timely t answer.handshake)
    (htcc : answer.closed → t.state = .connected → t.parent.tccClient ≠ some false)
    (hfits : t.state = .connected ∨ Completes (t.afterRead answer) answer.handshake →
      TimerFits answer.timeout) : Guarded Coherent (t.processDtlsData answer) := by
  have hread : Coherent (t.afterRead answer) :=
    h.congr ⟨rfl, rfl, rfl, rfl, rfl, rfl, rfl, fun hd => hd⟩
  rw [processDtlsData]
  split_ifs
  · exact h
  refine (checkStatus_coherent hread (fun hcompletes => ?_) htcc).bind fun result hresult => ?_
  · have ht := htimely hcompletes
    exact ⟨ht.iceIsUp, ht.role, ht.srtpRecvSession, ht.quiet⟩
  · obtain ⟨t₁, goesOn⟩ := result
    show Guarded Coherent (if !goesOn then _ else _)
    split_ifs with hon
    · exact hresult.1
    -- the status allows to go on, so the session is still the one checked
    have hgoes : goesOn = true := by simpa using hon
    refine (setTimeout_settled hresult.1 fun hc => ?_).bind fun result' hresult' => ?_
    · exact hfits (hresult.2 hgoes (isConnected_iff.mp hc).2)
    · show Guarded Coherent (.ok (if result'.2 then _ else _))
      unfold passOnApplicationData
      split_ifs
      · exact hresult'.1.congr ⟨rfl, rfl, rfl, rfl, rfl, rfl, rfl, fun hd => hd⟩
      · exact hresult'.1
      · exact hresult'.1

theorem onSrtpDataReceived_coherent (h : Coherent t) (kind : DataKind)
    (validTuple decrypted parsed : Bool) :
    Coherent (t.onSrtpDataReceived kind validTuple decrypted parsed) := by
  rw [onSrtpDataReceived]
  split_ifs
  · exact h.congr ⟨rfl, rfl, rfl, rfl, rfl, rfl, rfl, fun hd => hd⟩
  · exact h

theorem sendSctpData_coherent (h : Coherent t) (write : SslWrite) :
    Guarded Coherent (t.sendSctpData write) := by
  by_cases hconnected : t.isConnected
  · have htcc := h.controller hconnected
    refine (sendSctpData_matches h.toMatches fun hnone => absurd hnone htcc).mono fun t' ht' => ?_
    refine ⟨ht'.1, fun _ => ?_⟩
    rw [ht'.2]
    exact htcc
  · rw [sendSctpData, if_neg hconnected]
    exact h

theorem consume_coherent (h : Coherent t) (createTccClient : Bool) :
    Coherent (t.consume createTccClient) := by
  refine ⟨⟨?_, h.role, h.done, h.fresh, h.called⟩, fun hconnected => ?_⟩
  · intro flag hflag
    obtain rfl | hflag := mem_cons.mp hflag
    · rfl
    · exact h.flags flag hflag
  · have hnow : t.isConnected = true := hconnected
    show (if _ then _ else _) ≠ some false
    split_ifs
    · simp [hnow]
    · exact h.controller hnow

/-- **The events that keep the consumers informed.**  A session in the state connected is ended,
by ICE or by the peer, only if the congestion control client has its controller; a handshake is
accepted only while ICE is up, by a session in the role that it is to have, and with SRTP
sessions; the timeouts of a connected session are not too high. -/
def Steady (t : WebRtcTransport) : Event → Prop
  | .ice state _ _ writes =>
    (¬({ t with iceState := state } : WebRtcTransport).iceIsUp → t.state = .connected →
      t.parent.tccClient ≠ some false) ∧
    (t.state = .connected → t.localRole = t.dtlsRole → Quiet t writes)
  | .connect fingerprint remoteRole answers _ _ =>
    ¬t.connectCalled → t.handshakeDone → Accepts answers fingerprint →
      Timely { t with dtlsRole := localRoleFor remoteRole } answers
  | .dtlsData validTuple answer => validTuple → t.isRunning →
    (Completes (t.afterRead answer) answer.handshake → Timely t answer.handshake) ∧
    (answer.closed → t.state = .connected → t.parent.tccClient ≠ some false) ∧
    (t.state = .connected ∨ Completes (t.afterRead answer) answer.handshake →
      TimerFits answer.timeout)
  | _ => True

instance (t : WebRtcTransport) : DecidablePred (Steady t)
  | .ice .. => inferInstanceAs (Decidable (_ ∧ _))
  | .connect .. => inferInstanceAs (Decidable (_ → _ → _ → _))
  | .dtlsData .. => inferInstanceAs (Decidable (_ → _ → _ ∧ _ ∧ _))
  | .rtpData .. | .rtcpData .. | .timer _ | .sctpSend _ | .consume _ =>
    inferInstanceAs (Decidable True)

theorem step_coherent (t : WebRtcTransport) (event : Event) (h : Coherent t)
    (hsteady : Steady t event) : Guarded Coherent (t.step event) := by
  cases event with
  | ice state handshakeDone timeout writes => exact onIceState_coherent h hsteady.1 hsteady.2 _
  | connect fingerprint remoteRole answers handshakeDone timeout =>
    exact connect_coherent h hsteady _
  | dtlsData validTuple answer =>
    rw [step, onDtlsDataReceived]
    split_ifs with hprocessed
    · obtain ⟨htimely, htcc, hfits⟩ := hsteady hprocessed.1 hprocessed.2
      exact processDtlsData_coherent h htimely htcc hfits
    · exact h
  | rtpData validTuple decrypted parsed | rtcpData validTuple decrypted parsed =>
    exact onSrtpDataReceived_coherent h _ _ _ _
  | timer timeout =>
    rw [step]
    split_ifs
    · have h' : Coherent { t with timerActive := false } :=
        h.congr ⟨rfl, rfl, rfl, rfl, rfl, rfl, rfl, fun hd => hd⟩
      exact (onTimer_settled _ h').mono fun _ ht' => ht'.1
    · exact h
  | sctpSend write => exact sendSctpData_coherent h write
  | consume createTccClient => exact consume_coherent h createTccClient

/-- **Consumers and connection.**  After each event the flag of every consumer says whether the
transport is connected, and no congestion control client was told of a disconnection before it
had its controller. -/
theorem run_coherent {events : List Event} (hsteady : Along step Steady initial events) :
    Guarded (fun t => ∀ flag ∈ t.parent.consumers, flag = t.isConnected)
      (run step initial events) :=
  (run_meets_along step_coherent events initial initial_coherent hsteady).mono
    fun _ ht => ht.flags

/-- A consumer before the connection and one after it; the session is closed by the peer. -/
def consumersAround : List Event :=
  [.ice .connected false .nothing [],
    .consume true,
    .dtlsData true ⟨0, true, false, peerAnswers, .nothing⟩,
    .connect ⟨.sha256, "AB:01"⟩ .client peerAnswers false .nothing,
    .consume false,
    .dtlsData true ⟨0, false, true, peerAnswers, .nothing⟩]

/-- The flags of the consumers and the state of the connection at the end of a run. -/
def connectionAfter (events : List Event) : Option (List Bool × Bool) :=
  (run step initial events).toOption.map fun t => (t.parent.consumers, t.isConnected)

theorem consumersAround_coherent :
    connectionAfter (consumersAround.take 5) = some ([true, true], true) ∧
      Guarded (fun t => ∀ flag ∈ t.parent.consumers, flag = t.isConnected)
        (run step initial consumersAround) := by
  refine ⟨by decide +kernel, run_coherent ?_⟩
  decide +kernel

/-- A session that the server side has completed is accepted and reset in the same request: the
consumer is told of the connection and not of its end. -/
theorem roleChange_incoherent : connectionAfter [.ice .connected false .nothing [], .consume false,
      .dtlsData true ⟨0, true, false, peerAnswers, .nothing⟩,
      .connect ⟨.sha256, "AB:01"⟩ .auto peerAnswers false .nothing] = some ([true], false) := by
  decide +kernel

end WebRtcTransport

end Mediasoup
