/-
Which tuples an ICE server takes for valid, over every sequence of events.

* `Authenticated` — an authentic Binding request came from exactly this tuple, and the
  tuple was not removed since.
* `Invariant` — the stored tuples have different hashes and are authenticated, and the
  selected one is stored.
* `Sound` — moreover they are the tuples that were reported as added and not as removed
  since.
* `step_keeps` — every event keeps it, and no assertion fails.
* `run_validTuples` — the selected tuple is authenticated, and so is every valid tuple
  that does not collide with a stored one.
* `run_iceState` — what holds between the state, the selected tuple, the stored tuples and
  the reports in every state that a run reaches.

A call of `MayForceSelectedTuple` with any tuple is the event `dtls`
(`onDtlsDataReceived_eq`).
-/
import Mathlib.Data.List.Perm.Subperm
import Mathlib.Data.List.Nodup
import Mathlib.Tactic.Set
import Mathlib.Tactic.SplitIfs
import Mediasoup.Transport.IceServer

open List Option Checked Runs

namespace Mediasoup

open TransportTuple

namespace IceServer

section

variable (crc32 : List UInt8 → UInt32) (hmacSha1 : List UInt8 → List UInt8 → Digest)

/-! ### The history -/

/-- The bytes are a Binding request with the USERNAME and the MESSAGE-INTEGRITY for the
credentials. -/
def isAuthenticRequest (data : List UInt8) (credentials : IceCredentials) : Bool :=
  match StunPacket.parse crc32 data with
  | value packet => packet.klass = .request ∧ packet.method = 1 ∧
      packet.Authentic hmacSha1 data credentials.usernameFragment credentials.password
  | _ => false

def removes (tuple : TransportTuple) (entry : IceEntry) : Bool := entry = .tupleRemoved tuple

/-- An authentic request for the current or the previous credentials from the tuple. -/
def authenticates (tuple : TransportTuple) : IceEntry → Bool
  | .received from_ data current old => from_ = tuple ∧
      (isAuthenticRequest crc32 hmacSha1 data.bytes current ∨
        (old.usernameFragment ≠ [] ∧ old.password ≠ [] ∧
          isAuthenticRequest crc32 hmacSha1 data.bytes old))
  | _ => false

/-- An authentic request has come from the tuple, which was not removed since. -/
def Authenticated (tuple : TransportTuple) (history : List IceEntry) : Bool :=
  SinceLast (removes tuple) (authenticates crc32 hmacSha1 tuple) history

/-- The tuples that a listener knows of.  The latest entry comes first. -/
def reportedTuples : List IceEntry → List TransportTuple
  | [] => []
  | .tupleAdded tuple :: earlier => tuple :: reportedTuples earlier
  | .tupleRemoved tuple :: earlier => (reportedTuples earlier).erase tuple
  | _ :: earlier => reportedTuples earlier

/-- The entry reports no tuple as added or removed. -/
def IsSilent (entry : IceEntry) : Prop :=
  ∀ history, reportedTuples (entry :: history) = reportedTuples history

/-! ### The state against the history -/

structure Invariant (s : IceServer) : Prop where
  distinct : (s.tuples.map hash).Nodup
  bounded : s.tuples.length ≤ maxTuples
  selected_mem : ∀ u, s.selectedTuple = some u → u ∈ s.tuples
  selected_iff : s.selectedTuple.isSome ↔ s.state = .connected ∨ s.state = .completed
  authenticated : ∀ u ∈ s.tuples, Authenticated crc32 hmacSha1 u s.history

/-- The listener knows of the stored tuples, in the same order. -/
structure Sound (s : IceServer) : Prop extends Invariant crc32 hmacSha1 s where
  reported : reportedTuples s.history = s.tuples

end

variable {crc32 : List UInt8 → UInt32} {hmacSha1 : List UInt8 → List UInt8 → Digest}
  {s : IceServer} {tuple : TransportTuple}
variable {u : TransportTuple} {data : Datagram} {packet : StunPacket}

theorem authenticated_log {history : List IceEntry} (h : Authenticated crc32 hmacSha1 u history)
    {entry : IceEntry} (hentry : entry ≠ .tupleRemoved u) :
    Authenticated crc32 hmacSha1 u (entry :: history) :=
  SinceLast.cons (by simp [removes, hentry]) h

theorem Sound.congr (h : Sound crc32 hmacSha1 s) {s' : IceServer}
    (htuples : s'.tuples = s.tuples) (hselected : s'.selectedTuple = s.selectedTuple)
    (hstate : s'.state = s.state) (hhistory : s'.history = s.history ∨
      ∃ entry, IsSilent entry ∧ s'.history = entry :: s.history) : Sound crc32 hmacSha1 s' := by
  refine ⟨⟨htuples ▸ h.distinct, htuples ▸ h.bounded, ?_, ?_, ?_⟩, ?_⟩
  · rw [hselected, htuples]
    exact h.selected_mem
  · rw [hselected, hstate]
    exact h.selected_iff
  · intro u hu
    have hauth := h.authenticated u (htuples ▸ hu)
    rcases hhistory with hsame | ⟨entry, hentry, hnew⟩
    · rw [hsame]
      exact hauth
    rw [hnew]
    refine authenticated_log hauth ?_
    rintro rfl
    simpa [reportedTuples] using hentry [.tupleAdded u]
  · rw [htuples]
    rcases hhistory with hsame | ⟨entry, hentry, hnew⟩
    · rw [hsame]
      exact h.reported
    · rw [hnew, hentry]
      exact h.reported

theorem Sound.log (h : Sound crc32 hmacSha1 s) {entry : IceEntry}
    (hentry : IsSilent entry) : Sound crc32 hmacSha1 (s.log entry) :=
  h.congr rfl rfl rfl (.inr ⟨entry, hentry, rfl⟩)

theorem Sound.reply (h : Sound crc32 hmacSha1 s) (tuple : TransportTuple)
    (response : StunResponse) : Sound crc32 hmacSha1 (s.reply tuple response) :=
  h.log fun _ => rfl

variable {password usernameFragment : List UInt8}

theorem initial_sound : Sound crc32 hmacSha1 (initial usernameFragment password) := by
  refine ⟨⟨nodup_nil, Nat.zero_le _, ?_, ?_, ?_⟩, rfl⟩
  · intro u hu
    cases hu
  · simp [initial, IceServer.log]
  · intro u hu
    cases hu

/-! ### The stored tuples -/

theorem hasTuple_eq_some (h : Sound crc32 hmacSha1 s) (hu : s.hasTuple tuple = some u) :
    u ∈ s.tuples ∧ u.compare tuple = true := by
  rw [hasTuple, or_eq_some_iff] at hu
  rcases hu with hselected | ⟨-, hfound⟩
  · obtain ⟨hselected, hcompare⟩ := filter_eq_some_iff.mp hselected
    exact ⟨h.selected_mem u hselected, hcompare⟩
  · have hcompare := List.find?_some hfound
    exact ⟨mem_of_find?_eq_some hfound, hcompare⟩

theorem hasTuple_eq_none (hnone : s.hasTuple tuple = none) :
    ∀ u ∈ s.tuples, u.compare tuple = false := by
  intro u hu
  rw [hasTuple, or_eq_none_iff] at hnone
  simpa using List.find?_eq_none.mp hnone.2 u hu

/-- **Valid** are the stored tuples and those that collide with one. -/
theorem isValidTuple_iff (h : Sound crc32 hmacSha1 s) : s.isValidTuple tuple = true ↔
      tuple ∈ s.tuples ∨ ∃ u ∈ s.tuples, TransportTuple.Collides u tuple := by
  have hcompare : s.isValidTuple tuple = true ↔ ∃ u ∈ s.tuples, u.compare tuple = true := by
    rw [isValidTuple]
    constructor
    · intro hvalid
      obtain ⟨u, hu⟩ := isSome_iff_exists.mp hvalid
      exact ⟨u, hasTuple_eq_some h hu⟩
    · rintro ⟨u, hu, hcompare⟩
      cases hnone : s.hasTuple tuple with
      | some v => rfl
      | none =>
        rw [hasTuple_eq_none hnone u hu] at hcompare
        cases hcompare
  rw [hcompare]
  simp [compare_iff, and_or_left, exists_or]

theorem Sound.setSelectedTuple {state : IceState} (h : Sound crc32 hmacSha1 s)
    (hu : u ∈ s.tuples) (hstate : state = .connected ∨ state = .completed) :
    Sound crc32 hmacSha1 { s.setSelectedTuple u with state := state } := by
  rw [IceServer.setSelectedTuple]
  split_ifs with hsame
  · refine ⟨⟨h.distinct, h.bounded, h.selected_mem, ?_, h.authenticated⟩, h.reported⟩
    simp [hsame, hstate]
  refine ⟨⟨h.distinct, h.bounded, ?_, ?_, ?_⟩, h.reported⟩
  · intro v hv
    obtain rfl : u = v := Option.some.inj hv
    exact hu
  · simp [IceServer.log, hstate]
  · intro v hv
    exact authenticated_log (h.authenticated v hv) (by simp)

theorem Sound.eraseTuple {removed : TransportTuple} (hdistinct : (s.tuples.map hash).Nodup)
    (hbounded : s.tuples.length ≤ maxTuples + 1) (hremoved : removed ∈ s.tuples)
    (hselected : s.selectedTuple ≠ some removed)
    (hmem : ∀ u, s.selectedTuple = some u → u ∈ s.tuples)
    (hstate : s.selectedTuple.isSome ↔ s.state = .connected ∨ s.state = .completed)
    (hauth : ∀ u ∈ s.tuples, Authenticated crc32 hmacSha1 u s.history)
    (hreported : reportedTuples s.history = s.tuples) :
    Sound crc32 hmacSha1 (s.eraseTuple removed) := by
  have hnodup : s.tuples.Nodup := hdistinct.of_map _
  refine ⟨⟨hdistinct.sublist (erase_sublist.map _), ?_, ?_, hstate, ?_⟩,
    congrArg (List.erase · removed) hreported⟩
  · show (s.tuples.erase removed).length ≤ maxTuples
    rw [length_erase_of_mem hremoved]
    omega
  · intro u hu
    have hne : u ≠ removed := by
      rintro rfl
      exact hselected hu
    exact (mem_erase_of_ne hne).mpr (hmem u hu)
  · intro u hu
    obtain ⟨hne, hu'⟩ := hnodup.mem_erase_iff.mp hu
    exact authenticated_log (hauth u hu') fun heq => hne (IceEntry.tupleRemoved.inj heq).symm

theorem exists_removable {tuples : List TransportTuple} (hnodup : tuples.Nodup)
    (hlen : 2 < tuples.length) (selected : Option TransportTuple) :
    ∃ other, tuples.reverse.find? (fun other => other ≠ tuple ∧ selected ≠ some other) =
      some other := by
  cases hfind : tuples.reverse.find? fun other => other ≠ tuple ∧ selected ≠ some other with
  | some other => exact ⟨other, rfl⟩
  | none =>
    exfalso
    have hall := List.find?_eq_none.mp hfind
    -- otherwise all of them are among the new one and the selected one
    have hsub : tuples ⊆ tuple :: selected.toList := by
      intro other hother
      have hother' := hall other (mem_reverse.mpr hother)
      by_cases hne : other = tuple
      · exact hne ▸ mem_cons_self
      · have hsel : selected = some other := by simpa [hne] using hother'
        exact mem_cons_of_mem _ (by simp [hsel])
    have hle := (subperm_of_subset hnodup hsub).length_le
    cases selected <;> simp at hle <;> omega

section

variable (h : Sound crc32 hmacSha1 s)
include h

/-- **Storing** an authenticated tuple. -/
theorem addTuple_meets (hauth : Authenticated crc32 hmacSha1 tuple s.history) :
    Meets (fun _ => True) (fun result => Sound crc32 hmacSha1 result.1 ∧
      result.2 ∈ result.1.tuples ∧ result.1.state = s.state ∧
      result.1.selectedTuple = s.selectedTuple) (s.addTuple tuple) := by
  rw [addTuple]
  cases hhas : s.hasTuple tuple with
  | some u => exact ⟨h, (hasTuple_eq_some h hhas).1, rfl, rfl⟩
  | none =>
    have hnew := hasTuple_eq_none hhas
    set pushed := IceServer.log { s with tuples := tuple :: s.tuples } (.tupleAdded tuple)
      with hpushed
    have hdistinct : (pushed.tuples.map hash).Nodup := by
      refine nodup_cons.mpr ⟨?_, h.distinct⟩
      intro hmem
      obtain ⟨u, hu, hhash⟩ := mem_map.mp hmem
      have hfalse := hnew u hu
      rw [TransportTuple.compare, hhash, beq_self_eq_true] at hfalse
      cases hfalse
    have hselected : ∀ u, pushed.selectedTuple = some u → u ∈ pushed.tuples :=
      fun u hu => mem_cons_of_mem _ (h.selected_mem u hu)
    have hall : ∀ u ∈ pushed.tuples, Authenticated crc32 hmacSha1 u pushed.history := by
      intro u hu
      rcases mem_cons.mp hu with rfl | hu
      · exact authenticated_log hauth (by simp)
      · exact authenticated_log (h.authenticated u hu) (by simp)
    have hbounded : pushed.tuples.length ≤ maxTuples + 1 := Nat.succ_le_succ h.bounded
    have hreported : reportedTuples pushed.history = pushed.tuples :=
      congrArg (tuple :: ·) h.reported
    -- the ninth tuple takes the place of the oldest that is not selected
    by_cases hfull : maxTuples < pushed.tuples.length
    · rw [if_pos hfull]
      obtain ⟨other, hfind⟩ := exists_removable (hdistinct.of_map _)
        (Nat.lt_of_le_of_lt (by decide) hfull) pushed.selectedTuple
      rw [hfind]
      obtain ⟨hne, hnotSelected⟩ : other ≠ tuple ∧ pushed.selectedTuple ≠ some other := by
        simpa using List.find?_some hfind
      have hother : other ∈ pushed.tuples := mem_reverse.mp (mem_of_find?_eq_some hfind)
      refine ⟨?_, ?_, rfl, rfl⟩
      · exact Sound.eraseTuple hdistinct hbounded hother hnotSelected hselected
          h.selected_iff hall hreported
      · exact (mem_erase_of_ne hne.symm).mpr mem_cons_self
    · rw [if_neg hfull]
      refine ⟨⟨⟨hdistinct, Nat.not_lt.mp hfull, hselected, h.selected_iff, hall⟩, hreported⟩, ?_,
        rfl, rfl⟩
      exact mem_cons_self

theorem removeTuple_sound : Sound crc32 hmacSha1 (s.removeTuple tuple) := by
  rw [removeTuple]
  cases hfind : s.tuples.find? (·.compare tuple) with
  | none => exact h
  | some removed =>
    have hremoved := mem_of_find?_eq_some hfind
    show Sound crc32 hmacSha1 (if s.selectedTuple = some removed then _ else _)
    by_cases hselected : s.selectedTuple = some removed
    swap
    · rw [if_neg hselected]
      exact Sound.eraseTuple h.distinct (Nat.le_succ_of_le h.bounded) hremoved hselected
        h.selected_mem h.selected_iff h.authenticated h.reported
    rw [if_pos hselected]
    -- without the selected tuple the rest is as in state 'disconnected'
    have hrest : Sound crc32 hmacSha1
        (IceServer.eraseTuple { s with selectedTuple := none, state := .disconnected } removed) :=
      Sound.eraseTuple h.distinct (Nat.le_succ_of_le h.bounded) hremoved (by simp) (by simp)
        (by simp) h.authenticated h.reported
    have hstate := h.selected_iff.mp (by simp [hselected])
    dsimp only
    split
    · rename_i first rest htuples
      have htuples : s.tuples.erase removed = first :: rest := htuples
      have hfirst : first ∈ s.tuples.erase removed := by rw [htuples]; exact mem_cons_self
      exact Sound.setSelectedTuple hrest hfirst hstate
    · exact hrest.congr (by simp [IceServer.log, IceServer.eraseTuple]) rfl rfl
        (.inr ⟨.disconnected, fun _ => rfl, rfl⟩)

theorem Sound.reselect (hu : u ∈ s.tuples) (hstate : s.state = .connected ∨ s.state = .completed) :
    Sound crc32 hmacSha1 (s.setSelectedTuple u) := by
  have hsame : ({ s.setSelectedTuple u with state := s.state } : IceServer) =
      s.setSelectedTuple u := by
    rw [IceServer.setSelectedTuple]
    split_ifs <;> rfl
  rw [← hsame]
  exact h.setSelectedTuple hu hstate

theorem mayForceSelectedTuple_sound : Sound crc32 hmacSha1 (s.mayForceSelectedTuple tuple) := by
  rw [mayForceSelectedTuple]
  by_cases hstate : s.state = .connected ∨ s.state = .completed
  · rw [if_pos hstate]
    cases hhas : s.hasTuple tuple with
    | none => exact h
    | some u => exact h.reselect (hasTuple_eq_some h hhas).1 hstate
  · rw [if_neg hstate]
    exact h

/-! ### Binding requests -/

theorem Sound.updateNomination (n : Nomination) : Sound crc32 hmacSha1 (s.updateNomination n) := by
  rw [IceServer.updateNomination]
  split_ifs
  · exact h.congr rfl rfl rfl (.inl rfl)
  · exact h

theorem Sound.complete {u : TransportTuple}
    (hu : u ∈ s.tuples) (n : Nomination) : Sound crc32 hmacSha1 (s.complete u n) :=
  ((h.setSelectedTuple hu (.inr rfl)).updateNomination n).log fun _ => rfl

section

variable (hauth : Authenticated crc32 hmacSha1 tuple s.history)
include hauth

theorem handleFirstTuple_keeps (n : Nomination) (hnone : s.selectedTuple = none) :
    Meets (fun _ => True) (Sound crc32 hmacSha1) (s.handleFirstTuple tuple n) := by
  rw [handleFirstTuple, if_neg (by simp [hnone])]
  refine (addTuple_meets h hauth).bind fun result hresult => ?_
  obtain ⟨hinv, hstored, -, -⟩ := hresult
  show Meets _ _ (if n.isPlain then _ else _)
  split_ifs
  · exact (hinv.setSelectedTuple hstored (.inl rfl)).log fun _ => rfl
  · exact hinv.complete hstored n
  · exact hinv

/-- **A request from the tuple is handled.**  No assertion fails. -/
theorem handleTuple_keeps (n : Nomination) :
    Meets (fun _ => True) (Sound crc32 hmacSha1) (s.handleTuple tuple n) := by
  have hiff := h.selected_iff
  -- with a selected tuple the assertions of the last two states hold
  have hsome : s.state = .connected ∨ s.state = .completed →
      s.tuples ≠ [] ∧ s.selectedTuple ≠ none := by
    intro hstate
    obtain ⟨u, hu⟩ := isSome_iff_exists.mp (hiff.mpr hstate)
    exact ⟨ne_nil_of_mem (h.selected_mem u hu), by simp [hu]⟩
  have hnone : ¬(s.state = .connected ∨ s.state = .completed) → s.selectedTuple = none := by
    intro hstate
    rw [← hiff] at hstate
    simpa using hstate
  rw [handleTuple]
  cases hstate : s.state with
  | new | disconnected => exact handleFirstTuple_keeps h hauth n (hnone (by simp [hstate]))
  | connected =>
    obtain ⟨htuples, hselected⟩ := hsome (.inl hstate)
    rw [if_neg htuples, if_neg hselected]
    refine (addTuple_meets h hauth).bind fun result hresult => ?_
    show Meets _ _ (if _ then _ else _)
    split_ifs
    · exact hresult.1.complete hresult.2.1 n
    · exact hresult.1
  | completed =>
    obtain ⟨htuples, hselected⟩ := hsome (.inr hstate)
    show Meets _ _ (if s.tuples = [] then _ else _)
    rw [if_neg htuples, if_neg hselected]
    refine (addTuple_meets h hauth).bind fun result hresult => ?_
    obtain ⟨hinv, hstored, hsame, -⟩ := hresult
    show Meets _ _ (if _ then _ else _)
    split_ifs
    · exact (hinv.reselect hstored (.inr (hsame.trans hstate))).updateNomination n
    · exact hinv

theorem acceptRequest_keeps :
    Meets (fun _ => True) (Sound crc32 hmacSha1) (s.acceptRequest packet tuple) := by
  rw [acceptRequest]
  split_ifs
  · exact h.reply tuple _
  all_goals exact handleTuple_keeps (h.reply tuple _) (authenticated_log hauth (by simp)) _

theorem applyNewCredentials_keeps : Sound crc32 hmacSha1 s.applyNewCredentials ∧
      Authenticated crc32 hmacSha1 tuple s.applyNewCredentials.history := by
  rw [applyNewCredentials]
  split_ifs
  · exact ⟨h.congr rfl rfl rfl (.inr ⟨_, fun _ => rfl, rfl⟩), authenticated_log hauth (by simp)⟩
  · exact ⟨h, hauth⟩

end

end

theorem authenticate_eq {packet : StunPacket} {data : List UInt8}
    (haccepted : StunPacket.Accepted data packet) (usernameFragment password : List UInt8) :
    ∃ result, authenticate hmacSha1 packet data usernameFragment password = .ok (result, data) ∧
      (result = .ok ↔ packet.Authentic hmacSha1 data usernameFragment password) := by
  obtain ⟨result, hcheck, hiff⟩ :=
    StunPacket.checkAuthentication_spec hmacSha1 haccepted usernameFragment password
  exact ⟨result, by rw [authenticate, hcheck], hiff⟩

/-- The server has just been given a Binding request from the tuple. -/
structure Requested (crc32 : List UInt8 → UInt32) (s : IceServer) (tuple : TransportTuple)
    (data : Datagram) (packet : StunPacket) : Prop where
  parsed : StunPacket.parse crc32 data.bytes = value packet
  klass : packet.klass = .request
  method : packet.method = 1
  history : ∃ earlier, s.history = .received tuple data ⟨s.usernameFragment, s.password⟩
    ⟨s.oldUsernameFragment, s.oldPassword⟩ :: earlier

theorem Requested.isAuthenticRequest (hreq : Requested crc32 s tuple data packet)
    (h : packet.Authentic hmacSha1 data.bytes usernameFragment password) :
    isAuthenticRequest crc32 hmacSha1 data.bytes ⟨usernameFragment, password⟩ := by
  simp [IceServer.isAuthenticRequest, hreq.parsed, hreq.klass, hreq.method, h]

theorem Requested.authenticated (hreq : Requested crc32 s tuple data packet)
    (h : packet.Authentic hmacSha1 data.bytes s.usernameFragment s.password ∨ (s.hasOldCredentials ∧
        packet.Authentic hmacSha1 data.bytes s.oldUsernameFragment s.oldPassword)) :
    Authenticated crc32 hmacSha1 tuple s.history := by
  obtain ⟨earlier, hhistory⟩ := hreq.history
  rw [hhistory]
  refine SinceLast.of_good ?_ earlier
  rcases h with hcurrent | ⟨hold, hprevious⟩
  · simp [authenticates, hreq.isAuthenticRequest hcurrent]
  · have hold' : s.oldUsernameFragment ≠ [] ∧ s.oldPassword ≠ [] := by
      simpa [hasOldCredentials] using hold
    simp [authenticates, hreq.isAuthenticRequest hprevious, hold']

section

variable (h : Sound crc32 hmacSha1 s)
include h

theorem processRequest_keeps
    (hreq : Requested crc32 s tuple data packet) : Meets (fun _ => True) (Sound crc32 hmacSha1)
      (processRequest hmacSha1 s packet data.bytes tuple) := by
  have haccepted := (StunPacket.ensures_parse crc32 data.length_le).of_eq hreq.parsed
  rw [processRequest]
  by_cases hrequired : packet.messageIntegrity = none ∨ packet.priority = 0 ∨ packet.username = []
  · rw [if_pos hrequired]
    exact h.reply tuple _
  rw [if_neg hrequired]
  obtain ⟨result, hresult, hiff⟩ :=
    @authenticate_eq hmacSha1 _ _ haccepted s.usernameFragment s.password
  rw [hresult]
  cases result with
  | badRequest => exact h.reply tuple _
  | ok =>
    have hauth := hreq.authenticated (.inl (hiff.mp rfl))
    obtain ⟨hinv, hauth'⟩ := applyNewCredentials_keeps h hauth
    exact acceptRequest_keeps hinv hauth'
  | unauthorized =>
    show Meets _ _ (if s.hasOldCredentials then _ else _)
    -- the old credentials are tried after the current ones
    by_cases hold : s.hasOldCredentials
    · rw [if_pos hold]
      obtain ⟨result', hresult', hiff'⟩ :=
        @authenticate_eq hmacSha1 _ _ haccepted s.oldUsernameFragment s.oldPassword
      rw [hresult']
      show Meets _ _ (if result' = .ok then _ else _)
      split_ifs with hok
      · exact acceptRequest_keeps h (hreq.authenticated (.inr ⟨hold, hiff'.mp hok⟩))
      · exact h.reply tuple _
    · rw [if_neg hold]
      exact h.reply tuple _

theorem Sound.rejectPacket (packet : StunPacket)
    (tuple : TransportTuple) : Sound crc32 hmacSha1 (s.rejectPacket packet tuple) := by
  rw [IceServer.rejectPacket]
  split_ifs
  · exact h.reply tuple _
  · exact h

theorem onStunDataReceived_keeps : Meets (fun _ => True) (Sound crc32 hmacSha1)
      (onStunDataReceived crc32 hmacSha1 s tuple data) := by
  set received := s.log (.received tuple data ⟨s.usernameFragment, s.password⟩
    ⟨s.oldUsernameFragment, s.oldPassword⟩) with hreceived
  have hinv : Sound crc32 hmacSha1 received := h.log fun _ => rfl
  have hsafe := StunPacket.ensures_parse crc32 data.length_le
  rw [onStunDataReceived]
  cases hparse : StunPacket.parse crc32 data.bytes with
  | value packet =>
    show Meets _ _ (processStunPacket hmacSha1 received packet data.bytes tuple)
    rw [processStunPacket]
    split_ifs with hmethod hfingerprint hclass
    · exact hinv.rejectPacket packet tuple
    · exact hinv.rejectPacket packet tuple
    · exact processRequest_keeps hinv ⟨hparse, hclass, not_not.mp hmethod, s.history, rfl⟩
    · exact hinv
  | reject => exact hinv
  | outOfBounds | outOfFuel =>
    rw [hparse] at hsafe
    exact hsafe.elim

/-! ### Runs -/

theorem restartIce_sound (usernameFragment password : List UInt8) :
    Sound crc32 hmacSha1 (s.restartIce usernameFragment password) := by
  rw [restartIce]
  split_ifs
  · have hlog : Sound crc32 hmacSha1
        (s.log (.usernameFragmentRemoved s.oldUsernameFragment)) := h.log fun _ => rfl
    exact hlog.congr rfl rfl rfl (.inr ⟨_, fun _ => rfl, rfl⟩)
  · exact h.congr rfl rfl rfl (.inr ⟨_, fun _ => rfl, rfl⟩)

end

/-- **Every event** keeps the invariant, and no assertion fails. -/
theorem step_keeps (s : IceServer) (event : Event) (h : Sound crc32 hmacSha1 s) :
    Meets (fun _ => True) (Sound crc32 hmacSha1) (step crc32 hmacSha1 s event) := by
  cases event with
  | stun tuple data => exact onStunDataReceived_keeps h
  | dtls tuple =>
    show Sound crc32 hmacSha1 (if s.isValidTuple tuple then _ else _)
    split_ifs
    · exact mayForceSelectedTuple_sound h
    · exact h
  | rtp tuple isReady isDecrypted =>
    show Sound crc32 hmacSha1 (if isReady && s.isValidTuple tuple && isDecrypted then _ else _)
    split_ifs
    · exact mayForceSelectedTuple_sound h
    · exact h
  | rtcp tuple => exact h
  | removeTuple tuple => exact removeTuple_sound h
  | restartIce usernameFragment password => exact restartIce_sound h usernameFragment password

/-- **Only authenticated tuples are valid.**  In every state that a run reaches the selected
tuple is authenticated, and so is every valid tuple that collides with no stored one. -/
theorem run_validTuples (crc32 : List UInt8 → UInt32)
    (hmacSha1 : List UInt8 → List UInt8 → Digest) (usernameFragment password : List UInt8)
    (events : List Event) :
    ∃ s, run (step crc32 hmacSha1) (initial usernameFragment password) events = .ok s ∧
      (∀ u, s.selectedTuple = some u → Authenticated crc32 hmacSha1 u s.history) ∧
      ∀ tuple, (∀ u ∈ s.tuples, ¬TransportTuple.Collides u tuple) →
        s.isValidTuple tuple → Authenticated crc32 hmacSha1 tuple s.history := by
  obtain ⟨s, hs, hinv⟩ :=
    (run_meets step_keeps events _ (initial_sound)).exists_ok
  refine ⟨s, hs, fun u hu => hinv.authenticated u (hinv.selected_mem u hu), ?_⟩
  intro tuple hfree hvalid
  rcases (isValidTuple_iff hinv).mp hvalid with hmem | ⟨u, hu, hcollides⟩
  · exact hinv.authenticated tuple hmem
  · exact absurd hcollides (hfree u hu)

open StunPacket (sampleCrc32 sampleHmacSha1 sampleRequest)

def runSample (tuple : TransportTuple) : Except IceAbort IceServer :=
  run (step sampleCrc32 sampleHmacSha1) (initial [97] [112])
    [.stun tuple ⟨sampleRequest, by decide⟩, .dtls tuple]

/-- Two IPv6 clients, whose second and third words are exchanged. -/
def clientV6 : TransportTuple := ⟨.udp, .v6 0xB80D0120 1 2 3, 5000⟩

def strangerV6 : TransportTuple := ⟨.udp, .v6 0xB80D0120 2 1 3, 5000⟩

theorem run_clientV6_valid : ∃ s, runSample clientV6 = .ok s ∧
    s.selectedTuple = some clientV6 ∧ s.isValidTuple clientV6 ∧
    Authenticated sampleCrc32 sampleHmacSha1 clientV6 s.history := by
  obtain ⟨s, hs, -, hvalid⟩ := run_validTuples sampleCrc32 sampleHmacSha1 [97] [112]
    [.stun clientV6 ⟨sampleRequest, by decide⟩, .dtls clientV6]
  have heval : (runSample clientV6).toOption.map (fun s => (s.tuples, s.selectedTuple)) =
      some ([clientV6], some clientV6) := by decide +kernel
  obtain ⟨s', hs', hfields⟩ := exists_ok_of_map heval
  obtain rfl : s' = s := Except.ok.inj (hs'.symm.trans hs)
  obtain ⟨htuples, hselected⟩ := Prod.mk.inj hfields
  have hisValid : s'.isValidTuple clientV6 := by
    simp [isValidTuple, hasTuple, hselected, TransportTuple.compare]
  refine ⟨s', hs', hselected, hisValid, hvalid clientV6 ?_ hisValid⟩
  -- An address does not collide with itself.
  rw [htuples]
  simp [TransportTuple.Collides, clientV6]

/-- After a request from one of them the other one is valid too, from which nothing came. -/
theorem run_strangerV6_valid : ∃ s, runSample clientV6 = .ok s ∧ s.isValidTuple strangerV6 ∧
    Authenticated sampleCrc32 sampleHmacSha1 strangerV6 s.history = false := by
  have heval : (runSample clientV6).toOption.map (fun s => (s.isValidTuple strangerV6,
      Authenticated sampleCrc32 sampleHmacSha1 strangerV6 s.history)) = some (true, false) := by
    decide +kernel
  obtain ⟨s, hs, hfields⟩ := exists_ok_of_map heval
  obtain ⟨hvalid, hauth⟩ := Prod.mk.inj hfields
  exact ⟨s, hs, hvalid, hauth⟩

/-! ### The state of the server -/

theorem mayForceSelectedTuple_of_not_isValidTuple
    (h : ¬s.isValidTuple tuple) : s.mayForceSelectedTuple tuple = s := by
  have hnone : s.hasTuple tuple = none := by simpa [isValidTuple] using h
  rw [mayForceSelectedTuple, hnone]
  split_ifs <;> rfl

theorem onDtlsDataReceived_eq : s.onDtlsDataReceived tuple = s.mayForceSelectedTuple tuple := by
  rw [onDtlsDataReceived]
  split_ifs with hvalid
  · rfl
  · exact (mayForceSelectedTuple_of_not_isValidTuple hvalid).symm

theorem pairwise_not_compare (h : Sound crc32 hmacSha1 s) :
    s.tuples.Pairwise fun t u => t.compare u = false := by
  refine (pairwise_map.mp h.distinct).imp fun {t u} hne => ?_
  rw [TransportTuple.compare, beq_eq_false_iff_ne]
  exact hne

/-- **The state of the server.**  No assertion fails in a run, and in the state that it
reaches a tuple is selected exactly in the states 'connected' and 'completed', the selected
tuple is stored, there are at most `MaxTuples` stored tuples, no two of which count as one,
and they are the tuples that were reported as added and not as removed. -/
theorem run_iceState (crc32 : List UInt8 → UInt32)
    (hmacSha1 : List UInt8 → List UInt8 → Digest) (usernameFragment password : List UInt8)
    (events : List Event) :
    ∃ s, run (step crc32 hmacSha1) (initial usernameFragment password) events = .ok s ∧
      (s.state = .connected ∨ s.state = .completed ↔ s.selectedTuple.isSome) ∧
      (∀ u, s.selectedTuple = some u → u ∈ s.tuples) ∧ s.tuples.length ≤ maxTuples ∧
      (s.tuples.Pairwise fun t u => t.compare u = false) ∧ reportedTuples s.history = s.tuples := by
  obtain ⟨s, hs, hinv⟩ :=
    (run_meets step_keeps events _ (initial_sound)).exists_ok
  exact ⟨s, hs, hinv.selected_iff.symm, hinv.selected_mem, hinv.bounded,
    pairwise_not_compare hinv, hinv.reported⟩

end IceServer

end Mediasoup
