/-
Which data a WebRTC transport passes on, over every sequence of events.

* `Invariant` — what the state of the transport says about its history.
* `step_keeps` — every event keeps it.
* `run_passesOnProperly` — RTP and RTCP are passed on only after the fingerprint of the
  current session was found valid; SCTP only after the handshake of the current session,
  and after a valid fingerprint as soon as a fingerprint is set.
-/
import Mathlib.Tactic.ByContra
import Mathlib.Tactic.SplitIfs
import Mediasoup.Transport.WebRtcTransport

open Runs

namespace Mediasoup

namespace WebRtcTransport

/-! ### The history -/

/-- A session starts or ends here. -/
def isBoundary : Entry → Bool
  | .sessionStarted => true
  | .sessionReset => true
  | _ => false

/-- `CheckRemoteFingerprint` has returned true for the current session. -/
def validated : List Entry → Bool :=
  SinceLast isBoundary fun entry => entry = .fingerprintChecked true

/-- The handshake of the current session is done. -/
def established : List Entry → Bool :=
  SinceLast isBoundary fun entry => entry = .handshakeDone

def PassesOnProperly : Entry → List Entry → Prop
  | .passedOn .sctp, earlier =>
    established earlier ∧ (.fingerprintSet ∈ earlier → validated earlier)
  | .passedOn _, earlier => validated earlier
  | _, _ => True

/-! ### The state against the history -/

structure Core (t : WebRtcTransport) : Prop where
  dtlsRole : t.dtlsRole ≠ .none
  role_iff : (t.localRole = .client ∨ t.localRole = .server) ↔ t.isRunning
  done : t.handshakeDone → t.isRunning ∧ established t.history
  known : t.remoteFingerprint.isSome ↔ .fingerprintSet ∈ t.history
  proper : Each PassesOnProperly t.history

structure Invariant (t : WebRtcTransport) : Prop extends Core t where
  connected : t.state = .connected → t.handshakeDone ∧ validated t.history
  checked : t.handshakeDone → t.remoteFingerprint.isSome → validated t.history

/-- The only assertion that may fail is that of `SetTimeout`; besides, the congestion control
client may be without its controller. -/
def Unexpected (reason : DtlsAbort) : Prop := reason ≠ .invalidDtlsState ∧ reason ≠ .noController

abbrev Keeps (x : Except DtlsAbort WebRtcTransport) : Prop :=
  Meets Unexpected Invariant x

/-- A step that also answers whether the session goes on. -/
abbrev KeepsFst (x : Except DtlsAbort (WebRtcTransport × Bool)) : Prop :=
  Meets Unexpected (fun result => Invariant result.1) x

theorem initial_invariant : Invariant initial := by
  constructor
  · constructor <;> simp [initial, isRunning, Each]
  · intro h
    cases h
  · intro h
    cases h

variable {t : WebRtcTransport}

theorem Invariant.congr (ht : Invariant t) {t' : WebRtcTransport} (hrole : t'.dtlsRole ≠ .none)
    (hlocal : t'.localRole = t.localRole) (hstate : t'.state = t.state)
    (hdone : t'.handshakeDone = t.handshakeDone)
    (hknown : t'.remoteFingerprint = t.remoteFingerprint) (hhistory : t'.history = t.history) :
    Invariant t' := by
  have hrun : t'.isRunning = t.isRunning := by simp only [isRunning, hstate]
  refine ⟨⟨hrole, ?_, ?_, ?_, ?_⟩, ?_, ?_⟩
  · rw [hlocal, hrun]
    exact ht.role_iff
  · rw [hdone, hrun, hhistory]
    exact ht.done
  · rw [hknown, hhistory]
    exact ht.known
  · rw [hhistory]
    exact ht.proper
  · rw [hstate, hdone, hhistory]
    exact ht.connected
  · rw [hdone, hknown, hhistory]
    exact ht.checked

theorem Invariant.setHandshakeDoneNow (ht : Invariant t) (now : Bool) :
    Invariant { t with handshakeDoneNow := now } :=
  ht.congr ht.dtlsRole rfl rfl rfl rfl rfl

theorem Core.resetTo (ht : Core t) {state : DtlsState} (hne : state ≠ .connecting)
    (hne' : state ≠ .connected) : Invariant (t.resetTo state) := by
  have hrun : ({ t.reset with state := state } : WebRtcTransport).isRunning = false := by
    simp [isRunning, hne, hne']
  -- `Reset` does nothing unless DTLS runs; without it no handshake is done
  by_cases h : t.isRunning
  · have hreset : t.reset = { t with
        timerActive := false, localRole := .none, state := .new, handshakeDone := false,
        handshakeDoneNow := false, history := .sessionReset :: t.history } := by
      rw [reset, if_pos h]
    refine ⟨⟨?_, ?_, ?_, ?_, ?_⟩, fun hc => absurd hc hne', ?_⟩
    · simpa [WebRtcTransport.resetTo, hreset] using ht.dtlsRole
    · rw [WebRtcTransport.resetTo, hrun]
      simp [hreset]
    · simp [WebRtcTransport.resetTo, hreset]
    · simpa [WebRtcTransport.resetTo, hreset] using ht.known
    · simpa [WebRtcTransport.resetTo, hreset, Each, PassesOnProperly] using ht.proper
    · simp [WebRtcTransport.resetTo, hreset]
  · have hreset : t.reset = t := by rw [reset, if_neg h]
    have hdone : t.handshakeDone = false := by
      cases hd : t.handshakeDone with
      | false => rfl
      | true => exact absurd (ht.done hd).1 h
    refine ⟨⟨?_, ?_, ?_, ?_, ?_⟩, fun hc => absurd hc hne', ?_⟩
    · simpa [WebRtcTransport.resetTo, hreset] using ht.dtlsRole
    · rw [WebRtcTransport.resetTo, hrun, hreset]
      simp only [Bool.false_eq_true, iff_false]
      exact fun hr => h (ht.role_iff.mp hr)
    · simp [WebRtcTransport.resetTo, hreset, hdone]
    · simpa [WebRtcTransport.resetTo, hreset] using ht.known
    · simpa [WebRtcTransport.resetTo, hreset] using ht.proper
    · simp [WebRtcTransport.resetTo, hreset, hdone]

theorem parentDisconnected_keeps (ht : Invariant t) : Keeps t.parentDisconnected := by
  unfold parentDisconnected
  split
  · exact fun h => h.2 rfl
  · exact ht.congr ht.dtlsRole rfl rfl rfl rfl rfl

theorem closeSession_keeps (ht : Invariant t) : Keeps t.closeSession := by
  unfold closeSession
  split
  · exact parentDisconnected_keeps (ht.toCore.resetTo (by simp) (by simp))
  · exact ht.toCore.resetTo (by simp) (by simp)

/-! ### The handshake -/

/-- The status check of a running session, for any way to process a handshake that
leads from the core to the invariant. -/
theorem checkStatus_keeps (ht : Invariant t) (hrun : t.isRunning) (closed : Bool)
    {processHandshake : WebRtcTransport → Except DtlsAbort (WebRtcTransport × Bool)}
    (hprocess : ∀ t', Core t' → t'.handshakeDone → t'.remoteFingerprint.isSome →
      t.handshakeDone = false → KeepsFst (processHandshake t')) :
    KeepsFst (checkStatus processHandshake t closed) := by
  unfold checkStatus
  split
  · -- the handshake was completed just now
    have hcore : Core t.completeHandshake := by
      refine ⟨ht.dtlsRole, ht.role_iff, fun _ => ⟨hrun, ?_⟩, ?_, ⟨trivial, ht.proper⟩⟩
      · exact SinceLast.of_good rfl t.history
      · simpa [completeHandshake] using ht.known
    split
    · rename_i h
      exact hprocess t.completeHandshake hcore rfl h.2 (by simpa using h.1)
    rename_i h
    refine ⟨hcore, fun hc => ⟨rfl, SinceLast.cons rfl (ht.connected hc).2⟩, fun _ hf => ?_⟩
    -- the fingerprint is known, so the handshake had been done before
    have hdone : t.handshakeDone := by
      by_contra hd
      exact h ⟨by simpa using hd, hf⟩
    exact SinceLast.cons rfl (ht.checked hdone hf)
  · split
    · exact (closeSession_keeps ht).bind fun t' ht' => ht'
    · exact ht

theorem isConnected_iff : t.isConnected ↔ t.iceIsUp ∧ t.state = .connected := by
  rw [isConnected, decide_eq_true_iff]

theorem sendSctpData_keeps (t : WebRtcTransport) (write : SslWrite) (ht : Invariant t) :
    Keeps (t.sendSctpData write) := by
  unfold sendSctpData
  split
  · rename_i hconnected
    have hup := isConnected_iff.mp hconnected
    unfold sendApplicationData
    split
    · exact ht
    have ht' := ht.setHandshakeDoneNow (t.handshakeDoneNow || write.handshakeDone)
    split
    · -- connected, so the handshake is not processed again
      have hdone := (ht.connected hup.2).1
      refine (checkStatus_keeps ht' (by simp [isRunning, hup.2]) write.closed ?_).bind
        fun result h => h
      intro t' _ _ _ hnot
      rw [hdone] at hnot
      cases hnot
    · exact ht'
  · exact ht

theorem parentConnected_keeps (ht : Invariant t) (writes : List SslWrite) :
    Keeps (t.parentConnected writes) := by
  refine (run_meets sendSctpData_keeps writes _ ?_).bind fun t' ht' => ?_
  · exact ht.congr ht.dtlsRole rfl rfl rfl rfl rfl
  · exact ht'.congr ht'.dtlsRole rfl rfl rfl rfl rfl

theorem processHandshake_keeps (answers : HandshakeAnswers) (ht : Core t)
    (hdone : t.handshakeDone) (hknown : t.remoteFingerprint.isSome) :
    KeepsFst (processHandshake answers t) := by
  obtain ⟨fingerprint, hfingerprint⟩ := Option.isSome_iff_exists.mp hknown
  obtain ⟨hrun, hestablished⟩ := ht.done hdone
  have hcore : ∀ valid, Core (t.log (.fingerprintChecked valid)) := by
    intro valid
    refine ⟨ht.dtlsRole, ht.role_iff, fun _ => ⟨hrun, SinceLast.cons rfl hestablished⟩, ?_,
      ⟨trivial, ht.proper⟩⟩
    simpa [log] using ht.known
  have hvalid : validated (.fingerprintChecked true :: t.history) :=
    SinceLast.of_good rfl t.history
  -- the state becomes connected only right after a valid check
  have hconnected : Invariant { t.log (.fingerprintChecked true) with
      state := .connected, srtpRecvSession := answers.srtpRecvSession } := by
    refine ⟨⟨ht.dtlsRole, ?_, fun _ => ⟨rfl, ((hcore true).done hdone).2⟩, (hcore true).known,
      (hcore true).proper⟩, fun _ => ⟨hdone, hvalid⟩, fun _ _ => hvalid⟩
    simpa [isRunning, log, hrun] using ht.role_iff.mpr hrun
  simp only [processHandshake, hdone, hfingerprint, Bool.not_true, Bool.false_eq_true, if_false]
  cases checkRemoteFingerprint fingerprint answers.certificate with
  | false => exact (hcore false).resetTo (by simp) (by simp)
  | true =>
    split
    · contradiction
    split
    · have hkeeps : Keeps ((t.log (.fingerprintChecked true)).connected answers) := by
        unfold connected
        split
        · exact parentConnected_keeps hconnected answers.writes
        · exact hconnected
      exact hkeeps.bind fun t' ht' => ht'
    · exact (hcore true).resetTo (by simp) (by simp)

/-! ### Timeouts -/

theorem setTimeoutWith_keeps {timer : WebRtcTransport → Except DtlsAbort WebRtcTransport}
    (htimer : ∀ t, Invariant t → Keeps (timer t)) (ht : Invariant t) (timeout : Timeout) :
    KeepsFst (setTimeoutWith timer t timeout) := by
  unfold setTimeoutWith
  split
  · exact fun h => h.1 rfl
  split
  · split
    · exact ht.congr ht.dtlsRole rfl rfl rfl rfl rfl
    · exact ht.toCore.resetTo (by simp) (by simp)
  · exact (htimer t ht).bind fun t' ht' => ht'

theorem onTimer_keeps (timeout : Timeout) : ∀ t, Invariant t → Keeps (onTimer timeout t) := by
  induction timeout with
  | running timeoutMs | nothing => exact fun t ht => ht
  | failed =>
    intro t ht
    rw [onTimer]
    split
    · exact ht
    · exact ht.toCore.resetTo (by simp) (by simp)
  | retransmitted handshakeDone next ih =>
    intro t ht
    rw [onTimer]
    split
    · exact ht
    · exact (setTimeoutWith_keeps ih (ht.setHandshakeDoneNow _) next).bind fun result h => h

section

variable (ht : Invariant t)
include ht

variable {timeout : Timeout}

theorem setTimeout_keeps : KeepsFst (t.setTimeout timeout) :=
  setTimeoutWith_keeps (onTimer_keeps timeout) ht timeout

/-! ### Sessions -/

theorem endSession_handshakeDone : t.endSession.handshakeDone = false := by
  by_cases h : t.isRunning
  · rw [endSession, if_pos (ht.role_iff.mpr h), reset, if_pos h]
  rw [endSession, if_neg fun hr => h (ht.role_iff.mp hr)]
  cases hd : t.handshakeDone with
  | false => rfl
  | true => exact absurd (ht.done hd).1 h

theorem startSession_invariant {role : DtlsRole}
    (hrole : role = .client ∨ role = .server) (handshakeDone : Bool) :
    Invariant (t.endSession.startSession role handshakeDone) := by
  have hdone := endSession_handshakeDone ht
  have hrest : t.endSession.dtlsRole ≠ .none ∧
      (t.endSession.remoteFingerprint.isSome ↔ .fingerprintSet ∈ t.endSession.history) ∧
      Each PassesOnProperly t.endSession.history := by
    unfold endSession reset
    split_ifs
    · exact ⟨ht.dtlsRole, by simpa using ht.known, trivial, ht.proper⟩
    · exact ⟨ht.dtlsRole, ht.known, ht.proper⟩
    · exact ⟨ht.dtlsRole, ht.known, ht.proper⟩
  obtain ⟨hdtlsRole, hknown, hproper⟩ := hrest
  refine ⟨⟨hdtlsRole, ?_, ?_, ?_, ⟨trivial, hproper⟩⟩, fun h => (by cases h), ?_⟩
  · simpa [startSession, isRunning] using hrole
  · simp [startSession, hdone]
  · simpa [startSession] using hknown
  · simp [startSession, hdone]

theorem runDtls_keeps {role : DtlsRole}
    (hrole : role = .client ∨ role = .server) (handshakeDone : Bool) :
    Keeps (t.runDtls role handshakeDone timeout) := by
  have hstarted := startSession_invariant ht hrole handshakeDone
  unfold runDtls
  split
  · exact ht
  · split
    · exact (setTimeout_keeps hstarted).bind fun result h => h
    · exact hstarted

theorem mayRunDtlsTransport_keeps (handshakeDone : Bool) :
    Keeps (t.mayRunDtlsTransport handshakeDone timeout) := by
  unfold mayRunDtlsTransport
  split
  · exact ht
  split
  · split
    · have ht' : Invariant { t with dtlsRole := .server } :=
        ht.congr (by simp) rfl rfl rfl rfl rfl
      exact runDtls_keeps ht' (.inr rfl) _
    · exact ht
  · split
    · exact runDtls_keeps ht (.inl rfl) _
    · exact ht
  · split
    · exact runDtls_keeps ht (.inr rfl) _
    · exact ht
  · rename_i hnone
    exact absurd hnone ht.dtlsRole

theorem setRemoteFingerprint_keeps (fingerprint : Fingerprint)
    (answers : HandshakeAnswers) : KeepsFst (t.setRemoteFingerprint fingerprint answers) := by
  have hcore : Core { t with
      remoteFingerprint := some fingerprint, history := .fingerprintSet :: t.history } := by
    refine ⟨ht.dtlsRole, ht.role_iff, fun h => ?_, by simp, ⟨trivial, ht.proper⟩⟩
    exact ⟨(ht.done h).1, SinceLast.cons rfl (ht.done h).2⟩
  unfold setRemoteFingerprint
  split
  · rename_i h
    exact processHandshake_keeps answers hcore h.1 rfl
  rename_i h
  refine ⟨hcore, fun hc => ?_, fun hd _ => ?_⟩
  · exact ⟨(ht.connected hc).1, SinceLast.cons rfl (ht.connected hc).2⟩
  · have hc : t.state = .connected := not_not.mp fun hne => h ⟨hd, hne⟩
    exact SinceLast.cons rfl (ht.connected hc).2

/-! ### Data -/

theorem Invariant.log_passedOn {kind : DataKind}
    (hproper : PassesOnProperly (.passedOn kind) t.history) :
    Invariant (t.log (.passedOn kind)) := by
  refine ⟨⟨ht.dtlsRole, ht.role_iff, fun h => ?_, ?_, hproper, ht.proper⟩, fun h => ?_,
    fun h hf => ?_⟩
  · exact ⟨(ht.done h).1, SinceLast.cons rfl (ht.done h).2⟩
  · simpa [log] using ht.known
  · exact ⟨(ht.connected h).1, SinceLast.cons rfl (ht.connected h).2⟩
  · exact SinceLast.cons rfl (ht.checked h hf)

theorem passOnApplicationData_invariant (read : ℤ) : Invariant (t.passOnApplicationData read) := by
  unfold passOnApplicationData
  split
  · rename_i h
    refine ht.log_passedOn ⟨(ht.done h.2).2, fun hset => ?_⟩
    exact ht.checked h.2 (ht.known.mpr hset)
  · exact ht

theorem onSrtpDataReceived_invariant {kind : DataKind}
    (hkind : kind ≠ .sctp) (validTuple decrypted parsed : Bool) :
    Invariant (t.onSrtpDataReceived kind validTuple decrypted parsed) := by
  unfold onSrtpDataReceived
  split
  · rename_i h
    refine ht.log_passedOn ?_
    have hvalid := (ht.connected h.1).2
    cases kind with
    | rtp | rtcp => exact hvalid
    | sctp => exact absurd rfl hkind
  · exact ht

theorem processDtlsData_keeps (answer : SslRead) : Keeps (t.processDtlsData answer) := by
  unfold processDtlsData
  split
  · exact ht
  rename_i hrun
  have ht' := ht.setHandshakeDoneNow (t.handshakeDoneNow || answer.handshakeDone)
  have hrun' : t.isRunning := by simpa using hrun
  refine (checkStatus_keeps ht' hrun' answer.closed
    fun t' hcore hdone hknown _ => processHandshake_keeps _ hcore hdone hknown).bind ?_
  rintro ⟨t₁, goesOn⟩ ht₁
  dsimp only
  split
  · exact ht₁
  refine (setTimeout_keeps ht₁).bind ?_
  rintro ⟨t₂, timeoutSet⟩ ht₂
  cases timeoutSet with
  | true => exact passOnApplicationData_invariant ht₂ answer.read
  | false => exact ht₂

end

/-- **Every event keeps the invariant.** -/
theorem step_keeps (t : WebRtcTransport) (event : Event) (ht : Invariant t) :
    Keeps (t.step event) := by
  cases event with
  | ice state handshakeDone timeout writes =>
    -- the ICE state itself is no part of the invariant
    have ht' : Invariant { t with iceState := state } := ht.congr ht.dtlsRole rfl rfl rfl rfl rfl
    simp only [step, onIceState]
    split
    · refine (mayRunDtlsTransport_keeps ht' handshakeDone).bind fun t₁ ht₁ => ?_
      split
      · exact parentConnected_keeps ht₁ writes
      · exact ht₁
    · split
      · exact parentDisconnected_keeps ht'
      · exact ht'
  | connect fingerprint remoteRole answers handshakeDone timeout =>
    simp only [step, connect]
    split
    · exact ht
    have hrole : localRoleFor remoteRole ≠ .none := by cases remoteRole <;> simp [localRoleFor]
    have ht' : Invariant { t with
        dtlsRole := localRoleFor remoteRole, connectCalled := true } :=
      ht.congr hrole rfl rfl rfl rfl rfl
    refine (setRemoteFingerprint_keeps ht' fingerprint answers).bind ?_
    rintro ⟨t₁, fine⟩ ht₁
    cases fine with
    | true => exact mayRunDtlsTransport_keeps ht₁ handshakeDone
    | false => exact ht₁
  | dtlsData validTuple answer =>
    simp only [step, onDtlsDataReceived]
    split
    · exact processDtlsData_keeps ht answer
    · exact ht
  | rtpData validTuple decrypted parsed | rtcpData validTuple decrypted parsed =>
    exact onSrtpDataReceived_invariant ht (by simp) validTuple decrypted parsed
  | timer timeout =>
    simp only [step]
    split
    · exact onTimer_keeps timeout _ (ht.congr ht.dtlsRole rfl rfl rfl rfl rfl)
    · exact ht
  | sctpSend write => exact sendSctpData_keeps t write ht
  | consume createTccClient => exact ht.congr ht.dtlsRole rfl rfl rfl rfl rfl

/-- **Authenticated data.**  In every run, RTP and RTCP are passed on only after a valid
fingerprint for the current session; SCTP only once the current session is established,
and after a valid fingerprint if a fingerprint is set. -/
theorem run_passesOnProperly {events : List Event} {t : WebRtcTransport}
    (h : run step initial events = .ok t) : Each PassesOnProperly t.history := by
  have hkeeps := run_meets step_keeps events initial initial_invariant
  rw [h] at hkeeps
  exact hkeeps.proper

/-- A peer with a certificate whose digest is `AB:01`. -/
def peerAnswers : HandshakeAnswers where
  certificate := some ⟨fun _ => some [0xAB, 0x01], some "cert"⟩
  srtpCryptoSuite := true
  srtpRecvSession := true
  writes := [⟨12, 12, false, false⟩]

/-- ICE comes up, the peer completes the handshake, the connect request follows, and
RTP and SCTP arrive. -/
def lateConnect : List Event :=
  [.ice .connected false .nothing [],
    .dtlsData true ⟨0, true, false, peerAnswers, .nothing⟩,
    .connect ⟨.sha256, "AB:01"⟩ .client peerAnswers false .nothing,
    .rtpData true true true,
    .dtlsData true ⟨5, false, false, peerAnswers, .nothing⟩]

def historyOf (events : List Event) : Option (List Entry) :=
  (run step initial events).toOption.map history

theorem exists_of_historyOf {events : List Event} {entries : List Entry}
    (h : historyOf events = some entries) :
    ∃ t, run step initial events = .ok t ∧ t.history = entries := by
  unfold historyOf at h
  cases hrun : run step initial events with
  | error reason =>
    rw [hrun] at h
    cases h
  | ok t =>
    rw [hrun] at h
    exact ⟨t, rfl, Option.some.inj h⟩

theorem run_lateConnect_passesOn : ∃ t, run step initial lateConnect = .ok t ∧
    t.history = [.passedOn .sctp, .passedOn .rtp, .fingerprintChecked true, .fingerprintSet,
      .handshakeDone, .sessionStarted] ∧ Each PassesOnProperly t.history := by
  have h : historyOf lateConnect = some [.passedOn .sctp, .passedOn .rtp,
      .fingerprintChecked true, .fingerprintSet, .handshakeDone, .sessionStarted] := by
    decide +kernel
  obtain ⟨t, hrun, hhistory⟩ := exists_of_historyOf h
  exact ⟨t, hrun, hhistory, run_passesOnProperly hrun⟩

/-- Every kind of data only after a valid fingerprint. -/
def PassesOnValidated : Entry → List Entry → Prop
  | .passedOn _, earlier => validated earlier
  | _, _ => True

/-- SCTP data is passed on before the fingerprint is known. -/
theorem run_earlySctp_notValidated : ∃ t, run step initial [.ice .connected false .nothing [],
      .dtlsData true ⟨5, true, false, peerAnswers, .nothing⟩] = .ok t ∧
    ¬Each PassesOnValidated t.history := by
  have h : historyOf [.ice .connected false .nothing [],
      .dtlsData true ⟨5, true, false, peerAnswers, .nothing⟩] =
      some [.passedOn .sctp, .handshakeDone, .sessionStarted] := by decide +kernel
  obtain ⟨t, hrun, hhistory⟩ := exists_of_historyOf h
  refine ⟨t, hrun, ?_⟩
  rw [hhistory]
  rintro ⟨hvalid, -⟩
  have hnot : validated [.handshakeDone, .sessionStarted] = false := rfl
  exact Bool.false_ne_true (hnot.symm.trans hvalid)

end WebRtcTransport

end Mediasoup
