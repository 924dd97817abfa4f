/-
Messages of an SCTP association (`SctpAssociation::OnUsrSctpReceiveSctpData`).

The SCTP stack hands over the chunks of a message one by one, the last one with a flag.  The
association puts them together in one buffer, which all streams share, and gives the message
to its listener.  A chunk that would exceed the maximal size is skipped, and the buffer keeps
what it has.

* `sctp_reassembles` — if the last chunk of each message that is too long is skipped, and no
  other message begins with the SSN of the bytes in the buffer, then the listener gets
  exactly the messages that are not too long.
-/
import Mediasoup.Lib.Runs
import Mathlib.Data.Nat.Notation
import Mathlib.Tactic.SplitIfs

open List Runs

namespace Mediasoup

structure SctpMessage where
  streamId : UInt16
  ppid : UInt32
  bytes : List UInt8

/-- A message as the peer sends it, in chunks of any size.  The protocol identifier 50 is that
of data channel control. -/
structure SentMessage where
  streamId : UInt16
  ssn : UInt16
  ppid : UInt32
  chunks : List (List UInt8)
  ppid_ne : ppid ≠ 50
  nonempty : chunks ≠ []
  chunks_ne : ∀ c ∈ chunks, c ≠ []

namespace SentMessage

def bytes (m : SentMessage) : List UInt8 := m.chunks.flatten

def received (m : SentMessage) : SctpMessage := ⟨m.streamId, m.ppid, m.bytes⟩

end SentMessage

/-- A chunk of a message.  The association sees the numbers of the message, the bytes and
whether the chunk is the last one. -/
structure Arrival where
  message : SentMessage
  data : List UInt8
  first : Bool
  eor : Bool

/-- The chunks that are still to come. -/
def arrivalsFrom (m : SentMessage) (first : Bool) : List (List UInt8) → List Arrival
  | [] => []
  | [c] => [⟨m, c, first, true⟩]
  | c :: c' :: cs => ⟨m, c, first, false⟩ :: arrivalsFrom m false (c' :: cs)

def arrivals (m : SentMessage) : List Arrival := arrivalsFrom m true m.chunks

/-- A write outside the buffer, or without one. -/
inductive BufferFault where
  | outOfBounds
  | notAllocated

/-- `notified` has an entry for each chunk: the message that the listener got at it. -/
structure SctpAssociation where
  /-- The first `messageBufferLen` bytes. -/
  messageBuffer : List UInt8 := []
  allocated : Bool := false
  lastSsnReceived : UInt16 := 0
  notified : List (Option SctpMessage) := []

namespace SctpAssociation

variable (maxSctpMessageSize : ℕ)

variable (s : SctpAssociation)

def notify (message : Option SctpMessage) : SctpAssociation :=
  { s with notified := s.notified ++ [message] }

/-- The copy to the end of the buffer. -/
def append (data : List UInt8) : Except BufferFault SctpAssociation :=
  if ¬s.allocated then .error .notAllocated
  else if s.messageBuffer.length + data.length ≤ maxSctpMessageSize then
    .ok { s with messageBuffer := s.messageBuffer ++ data }
  else .error .outOfBounds

/-- The bytes of another message are discarded; the SSN tells. -/
def discardOther (ssn : UInt16) : SctpAssociation :=
  if s.messageBuffer.length ≠ 0 ∧ ssn ≠ s.lastSsnReceived then { s with messageBuffer := [] }
  else s

/-- The chunk does not fit after the bytes of its message. -/
def Exceeds (ssn : UInt16) (len : ℕ) : Prop :=
  maxSctpMessageSize < (s.discardOther ssn).messageBuffer.length + len

instance (s : SctpAssociation) (ssn : UInt16) (len : ℕ) :
    Decidable (Exceeds maxSctpMessageSize s ssn len) := inferInstanceAs (Decidable (_ < _))

def onUsrSctpReceiveSctpData (streamId ssn : UInt16) (ppid : UInt32)
    (eor : Bool) (data : List UInt8) : Except BufferFault SctpAssociation :=
  if ppid = 50 then .ok (s.notify none)
  else
    let s := { s.discardOther ssn with lastSsnReceived := ssn }
    if s.messageBuffer.length + data.length > maxSctpMessageSize then
      .ok ({ s with lastSsnReceived := 0 }.notify none)
    else if eor ∧ s.messageBuffer.length = 0 then .ok (s.notify (some ⟨streamId, ppid, data⟩))
    else if eor then do
      let s ← s.append maxSctpMessageSize data
      return { s with messageBuffer := [] }.notify (some ⟨streamId, ppid, s.messageBuffer⟩)
    else do
      let s ← { s with allocated := true }.append maxSctpMessageSize data
      return s.notify none

def received : List SctpMessage := s.notified.filterMap id

def step (a : Arrival) : Except BufferFault SctpAssociation :=
  s.onUsrSctpReceiveSctpData maxSctpMessageSize a.message.streamId a.message.ssn a.message.ppid
    a.eor a.data

/-! ### One chunk -/

/-- A message that is too long ends with a chunk that is skipped.  Any other message does not
begin with the SSN of the bytes in the buffer. -/
def Orderly (a : Arrival) : Prop :=
  (a.eor ∧ maxSctpMessageSize < a.message.bytes.length →
    Exceeds maxSctpMessageSize s a.message.ssn a.data.length) ∧
  (a.first ∧ a.message.bytes.length ≤ maxSctpMessageSize →
    s.messageBuffer = [] ∨ a.message.ssn ≠ s.lastSsnReceived)

instance (s : SctpAssociation) (a : Arrival) : Decidable (Orderly maxSctpMessageSize s a) :=
  inferInstanceAs (Decidable (_ ∧ _))

/-- What the listener has to get at a chunk. -/
def expected (a : Arrival) : Option SctpMessage :=
  if a.eor ∧ a.message.bytes.length ≤ maxSctpMessageSize then some a.message.received else none

/-- Bytes are kept in an allocated buffer only, and they fit into it. -/
structure Sound : Prop where
  allocated : s.messageBuffer ≠ [] → s.allocated
  length_le : s.messageBuffer.length ≤ maxSctpMessageSize

variable {maxSctpMessageSize} {s : SctpAssociation} {streamId ssn : UInt16} {ppid : UInt32}
  {data : List UInt8}

theorem discardOther_cases :
    s.discardOther ssn = s ∨ s.discardOther ssn = { s with messageBuffer := [] } := by
  unfold discardOther
  split_ifs
  · exact .inr rfl
  · exact .inl rfl

theorem Sound.discardOther (h : Sound maxSctpMessageSize s) (ssn : UInt16) :
    Sound maxSctpMessageSize (s.discardOther ssn) := by
  rcases discardOther_cases with heq | heq
  · rwa [heq]
  · rw [heq]
    exact ⟨fun hne => absurd rfl hne, Nat.zero_le _⟩

theorem receive_of_exceeds (hppid : ppid ≠ 50) {eor : Bool}
    (h : Exceeds maxSctpMessageSize s ssn data.length) :
    s.onUsrSctpReceiveSctpData maxSctpMessageSize streamId ssn ppid eor data =
      .ok (notify { s.discardOther ssn with lastSsnReceived := 0 } none) := by
  rw [onUsrSctpReceiveSctpData, if_neg hppid]
  exact if_pos h

theorem receive_of_continues (hppid : ppid ≠ 50)
    (h : ¬Exceeds maxSctpMessageSize s ssn data.length) :
    s.onUsrSctpReceiveSctpData maxSctpMessageSize streamId ssn ppid false data =
      .ok (notify { s.discardOther ssn with
        allocated := true
        lastSsnReceived := ssn
        messageBuffer := (s.discardOther ssn).messageBuffer ++ data } none) := by
  have hroom : (s.discardOther ssn).messageBuffer.length + data.length ≤ maxSctpMessageSize :=
    Nat.le_of_not_lt h
  rw [onUsrSctpReceiveSctpData, if_neg hppid]
  simp only [append, hroom, Nat.not_lt.mpr hroom, if_false, if_true, Bool.false_eq_true,
    false_and, not_true_eq_false]
  rfl

theorem receive_of_ends (hsound : Sound maxSctpMessageSize s) (hppid : ppid ≠ 50)
    (h : ¬Exceeds maxSctpMessageSize s ssn data.length) :
    s.onUsrSctpReceiveSctpData maxSctpMessageSize streamId ssn ppid true data =
      .ok (notify { s.discardOther ssn with messageBuffer := [], lastSsnReceived := ssn }
        (some ⟨streamId, ppid, (s.discardOther ssn).messageBuffer ++ data⟩)) := by
  have hroom : (s.discardOther ssn).messageBuffer.length + data.length ≤ maxSctpMessageSize :=
    Nat.le_of_not_lt h
  have hallocated := (hsound.discardOther ssn).allocated
  rw [onUsrSctpReceiveSctpData, if_neg hppid]
  generalize s.discardOther ssn = t at *
  rw [if_neg (Nat.not_lt.mpr hroom)]
  by_cases hempty : t.messageBuffer = []
  · -- the message has one chunk, and the buffer is not used
    rw [if_pos ⟨rfl, by rw [hempty]; rfl⟩, hempty]
    obtain ⟨messageBuffer, allocated, lastSsn, notified⟩ := t
    obtain rfl : messageBuffer = [] := hempty
    rfl
  · have hlen : t.messageBuffer.length ≠ 0 := fun h => hempty (length_eq_zero_iff.mp h)
    rw [if_neg fun h => hlen h.2, if_pos rfl, append, if_neg (not_not.mpr (hallocated hempty)),
      if_pos hroom]
    rfl

theorem notified_discardOther (s : SctpAssociation) (ssn : UInt16) :
    (s.discardOther ssn).notified = s.notified := by
  rcases discardOther_cases with heq | heq
  · rw [heq]
  · rw [heq]

/-- The bytes of the message so far are in the buffer, and those of another message are not. -/
def Holds (s : SctpAssociation) (ssn : UInt16) (sofar : List UInt8) : Prop :=
  (s.discardOther ssn).messageBuffer = sofar

theorem holds_of_same {sofar : List UInt8} (hbuffer : s.messageBuffer = sofar)
    (hssn : s.lastSsnReceived = ssn) : Holds s ssn sofar := by
  rw [Holds, discardOther, if_neg fun h => h.2 hssn.symm, hbuffer]

theorem holds_nil (h : s.messageBuffer = [] ∨ ssn ≠ s.lastSsnReceived) : Holds s ssn [] := by
  rw [Holds, discardOther]
  by_cases hempty : s.messageBuffer = []
  · rw [if_neg fun hboth => hboth.1 (by rw [hempty]; rfl), hempty]
  · rw [if_pos ⟨fun hlen => hempty (length_eq_zero_iff.mp hlen), h.resolve_left hempty⟩]

variable {a : Arrival} {sofar : List UInt8}

theorem step_skips (hsound : Sound maxSctpMessageSize s)
    (h : Exceeds maxSctpMessageSize s a.message.ssn a.data.length) :
    ∃ s', s.step maxSctpMessageSize a = .ok s' ∧ Sound maxSctpMessageSize s' ∧
      s'.notified = s.notified ++ [none] := by
  have hother := hsound.discardOther a.message.ssn
  refine ⟨_, receive_of_exceeds a.message.ppid_ne h, ⟨?_, ?_⟩, ?_⟩
  · exact hother.allocated
  · exact hother.length_le
  · rw [← notified_discardOther s a.message.ssn]
    rfl

theorem step_continues (hholds : Holds s a.message.ssn sofar) (heor : a.eor = false)
    (h : ¬Exceeds maxSctpMessageSize s a.message.ssn a.data.length) :
    ∃ s', s.step maxSctpMessageSize a = .ok s' ∧ Sound maxSctpMessageSize s' ∧
      s'.notified = s.notified ++ [none] ∧ Holds s' a.message.ssn (sofar ++ a.data) := by
  rw [step, heor]
  refine ⟨_, receive_of_continues a.message.ppid_ne h, ⟨fun _ => rfl, ?_⟩, ?_, ?_⟩
  · show (_ ++ _ : List UInt8).length ≤ _
    rw [length_append]
    exact Nat.le_of_not_lt h
  · rw [← notified_discardOther s a.message.ssn]
    rfl
  · refine holds_of_same ?_ rfl
    rw [← show (s.discardOther a.message.ssn).messageBuffer = sofar from hholds]
    rfl

theorem step_ends (hsound : Sound maxSctpMessageSize s) (hholds : Holds s a.message.ssn sofar)
    (heor : a.eor = true) (h : ¬Exceeds maxSctpMessageSize s a.message.ssn a.data.length) :
    ∃ s', s.step maxSctpMessageSize a = .ok s' ∧ Sound maxSctpMessageSize s' ∧
      s'.notified = s.notified ++ [some ⟨a.message.streamId, a.message.ppid, sofar ++ a.data⟩] := by
  rw [step, heor]
  refine ⟨_, receive_of_ends hsound a.message.ppid_ne h, ⟨fun hne => absurd rfl hne, ?_⟩, ?_⟩
  · exact Nat.zero_le _
  · rw [← notified_discardOther s a.message.ssn,
      ← show (s.discardOther a.message.ssn).messageBuffer = sofar from hholds]
    rfl

/-! ### One message -/

theorem expected_of_not_eor (h : a.eor = false) : expected maxSctpMessageSize a = none := by
  refine if_neg fun hboth => ?_
  rw [h] at hboth
  exact Bool.false_ne_true hboth.1

/-- The chunks are processed without a fault, and the listener gets what it has to. -/
def Reassembles (maxSctpMessageSize : ℕ) (s : SctpAssociation) (as : List Arrival) : Prop :=
  ∃ s', run (step maxSctpMessageSize) s as = .ok s' ∧ Sound maxSctpMessageSize s' ∧
    s'.notified = s.notified ++ as.map (expected maxSctpMessageSize)

theorem Reassembles.nil (hsound : Sound maxSctpMessageSize s) :
    Reassembles maxSctpMessageSize s [] := ⟨s, rfl, hsound, (append_nil _).symm⟩

theorem Reassembles.cons {s' : SctpAssociation} {as : List Arrival}
    (hstep : s.step maxSctpMessageSize a = .ok s')
    (hnotified : s'.notified = s.notified ++ [expected maxSctpMessageSize a])
    (h : Reassembles maxSctpMessageSize s' as) : Reassembles maxSctpMessageSize s (a :: as) := by
  obtain ⟨s'', hrun, hsound, hrest⟩ := h
  refine ⟨s'', by rw [run_cons_ok hstep, hrun], hsound, ?_⟩
  rw [hrest, hnotified, append_assoc, singleton_append, map_cons]

variable {cs : List (List UInt8)} {m : SentMessage}

/-- **A message that is not too long** goes to the listener at its last chunk. -/
theorem reassembles_within (hm : m.bytes.length ≤ maxSctpMessageSize) {first : Bool}
    (hsound : Sound maxSctpMessageSize s)
    (hholds : Holds s m.ssn sofar) (hbytes : sofar ++ cs.flatten = m.bytes) :
    Reassembles maxSctpMessageSize s (arrivalsFrom m first cs) := by
  induction cs generalizing s first sofar with
  | nil => exact Reassembles.nil hsound
  | cons c cs ih =>
    -- nothing exceeds the maximum
    have hlen := congrArg List.length hbytes
    rw [flatten_cons, length_append, length_append] at hlen
    have hfits : ¬Exceeds maxSctpMessageSize s m.ssn c.length := by
      rw [Exceeds, show (s.discardOther m.ssn).messageBuffer = sofar from hholds]
      omega
    cases cs with
    | nil =>
      obtain ⟨s', hstep, hsound', hnotified⟩ :=
        @step_ends maxSctpMessageSize s ⟨m, c, first, true⟩ sofar hsound hholds rfl hfits
      refine Reassembles.cons hstep ?_ (Reassembles.nil hsound')
      rw [hnotified, expected, if_pos ⟨rfl, hm⟩]
      show _ = _ ++ [some (⟨m.streamId, m.ppid, m.bytes⟩ : SctpMessage)]
      rw [← hbytes, flatten_cons, flatten_nil, append_nil]
    | cons c' cs =>
      obtain ⟨s', hstep, hsound', hnotified, hholds'⟩ :=
        @step_continues maxSctpMessageSize s ⟨m, c, first, false⟩ sofar hholds rfl hfits
      refine Reassembles.cons hstep ?_ (ih hsound' hholds' ?_)
      · rw [hnotified, expected_of_not_eor rfl]
      · rw [append_assoc, ← flatten_cons, hbytes]

/-- **A message that is too long** does not go to the listener. -/
theorem reassembles_tooLong (hm : maxSctpMessageSize < m.bytes.length) {first : Bool}
    (hsound : Sound maxSctpMessageSize s)
    (horderly : Along (step maxSctpMessageSize) (Orderly maxSctpMessageSize) s
      (arrivalsFrom m first cs)) : Reassembles maxSctpMessageSize s (arrivalsFrom m first cs) := by
  induction cs generalizing s first with
  | nil => exact Reassembles.nil hsound
  | cons c cs ih =>
    cases cs with
    | nil =>
      obtain ⟨s', hstep, hsound', hnotified⟩ :=
        @step_skips maxSctpMessageSize s ⟨m, c, first, true⟩ hsound (horderly.1.1 ⟨rfl, hm⟩)
      refine Reassembles.cons hstep ?_ (Reassembles.nil hsound')
      rw [hnotified, expected, if_neg fun hboth => Nat.not_lt.mpr hboth.2 hm]
    | cons c' cs =>
      -- whether or not it is skipped, the listener gets nothing
      have hnone : ∃ s', s.step maxSctpMessageSize ⟨m, c, first, false⟩ = .ok s' ∧
          Sound maxSctpMessageSize s' ∧ s'.notified = s.notified ++ [none] := by
        by_cases hexceeds : Exceeds maxSctpMessageSize s m.ssn c.length
        · exact step_skips hsound hexceeds
        · obtain ⟨s', hstep, hsound', hnotified, -⟩ :=
            @step_continues maxSctpMessageSize s ⟨m, c, first, false⟩ _ rfl rfl hexceeds
          exact ⟨s', hstep, hsound', hnotified⟩
      obtain ⟨s', hstep, hsound', hnotified⟩ := hnone
      refine Reassembles.cons hstep ?_ (ih hsound' (horderly.2 s' hstep))
      rw [hnotified, expected_of_not_eor rfl]

/-! ### Runs -/

theorem Reassembles.append {as later : List Arrival} (h : Reassembles maxSctpMessageSize s as)
    (hlater : ∀ s', run (step maxSctpMessageSize) s as = .ok s' → Sound maxSctpMessageSize s' →
      Reassembles maxSctpMessageSize s' later) :
    Reassembles maxSctpMessageSize s (as ++ later) := by
  obtain ⟨s', hrun, hsound, hnotified⟩ := h
  obtain ⟨s'', hrun', hsound', hnotified'⟩ := hlater s' hrun hsound
  refine ⟨s'', ?_, hsound', ?_⟩
  · rw [run_append, hrun]
    exact hrun'
  · rw [hnotified', hnotified, append_assoc, map_append]

theorem reassembles_message (hsound : Sound maxSctpMessageSize s)
    (horderly : Along (step maxSctpMessageSize) (Orderly maxSctpMessageSize) s (arrivals m)) :
    Reassembles maxSctpMessageSize s (arrivals m) := by
  by_cases hm : m.bytes.length ≤ maxSctpMessageSize
  · -- the first chunk finds nothing of another message
    have hholds : Holds s m.ssn [] := by
      refine holds_nil ?_
      rw [arrivals] at horderly
      obtain ⟨c, cs, hcs⟩ := exists_cons_of_ne_nil m.nonempty
      rw [hcs] at horderly
      cases cs with
      | nil | cons c' cs => exact horderly.1.2 ⟨rfl, hm⟩
    exact reassembles_within hm hsound hholds rfl
  · exact reassembles_tooLong (Nat.lt_of_not_le hm) hsound horderly

theorem reassembles_run (ms : List SentMessage) (hsound : Sound maxSctpMessageSize s)
    (horderly : Along (step maxSctpMessageSize) (Orderly maxSctpMessageSize) s
      (ms.flatMap arrivals)) : Reassembles maxSctpMessageSize s (ms.flatMap arrivals) := by
  induction ms generalizing s with
  | nil => exact Reassembles.nil hsound
  | cons m ms ih =>
    rw [flatMap_cons] at horderly ⊢
    obtain ⟨hm, hms⟩ := horderly.append
    exact (reassembles_message hsound hm).append fun s' hrun hsound' => ih hsound' (hms s' hrun)

theorem run_sound (as : List Arrival) (hsound : Sound maxSctpMessageSize s) :
    ∃ s', run (step maxSctpMessageSize) s as = .ok s' ∧ Sound maxSctpMessageSize s' := by
  have hstep : ∀ (s : SctpAssociation) (a : Arrival), Sound maxSctpMessageSize s →
      Meets (fun _ => True) (Sound maxSctpMessageSize) (s.step maxSctpMessageSize a) := by
    intro s a hsound
    by_cases hexceeds : Exceeds maxSctpMessageSize s a.message.ssn a.data.length
    · obtain ⟨s', hok, hsound', -⟩ := step_skips hsound hexceeds
      rw [hok]
      exact hsound'
    cases heor : a.eor with
    | false =>
      obtain ⟨s', hok, hsound', -⟩ := step_continues rfl heor hexceeds
      rw [hok]
      exact hsound'
    | true =>
      obtain ⟨s', hok, hsound', -⟩ := step_ends hsound rfl heor hexceeds
      rw [hok]
      exact hsound'
  exact (run_meets hstep as s hsound).exists_ok

theorem filterMap_expected (m : SentMessage) (first : Bool)
    (hcs : cs ≠ []) : ((arrivalsFrom m first cs).map (expected maxSctpMessageSize)).filterMap id =
      if m.bytes.length ≤ maxSctpMessageSize then [m.received] else [] := by
  induction cs generalizing first with
  | nil => exact absurd rfl hcs
  | cons c cs ih =>
    cases cs with
    | nil =>
      by_cases hm : m.bytes.length ≤ maxSctpMessageSize
      · simp [arrivalsFrom, expected, hm]
      · simp [arrivalsFrom, expected, hm]
    | cons c' cs =>
      rw [arrivalsFrom, map_cons, expected_of_not_eor rfl]
      exact ih false (cons_ne_nil _ _)

/-- **Reassembly.**  Whatever the messages and their chunks, nothing is written outside the
buffer.  If each message that is too long ends with a chunk that is skipped, and no other
message begins with the SSN of bytes that are still in the buffer, then the listener gets, at
their last chunks and in their order, exactly the messages that are not too long. -/
theorem sctp_reassembles (maxSctpMessageSize : ℕ) (ms : List SentMessage) :
    ∃ s, run (step maxSctpMessageSize) {} (ms.flatMap arrivals) = .ok s ∧
      (Along (step maxSctpMessageSize) (Orderly maxSctpMessageSize) {} (ms.flatMap arrivals) →
        s.notified = (ms.flatMap arrivals).map (expected maxSctpMessageSize) ∧ s.received =
          (ms.filter fun m => m.bytes.length ≤ maxSctpMessageSize).map (·.received)) := by
  have hnew : Sound maxSctpMessageSize {} := ⟨fun hne => absurd rfl hne, Nat.zero_le _⟩
  obtain ⟨s, hrun, -⟩ := run_sound (ms.flatMap arrivals) hnew
  refine ⟨s, hrun, fun horderly => ?_⟩
  obtain ⟨s', hrun', -, hnotified⟩ := reassembles_run ms hnew horderly
  obtain rfl : s' = s := Except.ok.inj (hrun'.symm.trans hrun)
  refine ⟨hnotified, ?_⟩
  rw [received, hnotified]
  -- message by message
  clear hnotified hrun hrun' horderly
  induction ms with
  | nil => rfl
  | cons m ms ih =>
    have hm : ((arrivals m).map (expected maxSctpMessageSize)).filterMap id = _ :=
      filterMap_expected m true m.nonempty
    rw [nil_append] at ih ⊢
    rw [flatMap_cons, map_append, filterMap_append, hm, ih, filter_cons]
    by_cases hlen : m.bytes.length ≤ maxSctpMessageSize
    · simp [hlen]
    · simp [hlen]

/-- A message in two chunks, one that is too long, and one with another SSN. -/
theorem sctp_reassembles_three :
    ∃ s, run (step 4) {} (List.flatMap arrivals
      [⟨1, 1, 51, [[1, 2], [3]], by decide, by decide, by decide⟩,
       ⟨1, 2, 51, [[1, 2, 3], [4, 5]], by decide, by decide, by decide⟩,
       ⟨2, 3, 53, [[9]], by decide, by decide, by decide⟩]) = .ok s ∧
      s.received = [⟨1, 51, [1, 2, 3]⟩, ⟨2, 53, [9]⟩] := by
  obtain ⟨s, hrun, hreceived⟩ := sctp_reassembles 4
    [⟨1, 1, 51, [[1, 2], [3]], by decide, by decide, by decide⟩,
     ⟨1, 2, 51, [[1, 2, 3], [4, 5]], by decide, by decide, by decide⟩,
     ⟨2, 3, 53, [[9]], by decide, by decide, by decide⟩]
  exact ⟨s, hrun, (hreceived (by decide)).2⟩

/-- The end of a message that is too long goes to the listener, and so do its first bytes, in
front of the next message with the SSN zero. -/
theorem sctp_delivers_tooLong : (∃ s, run (step 4) {} (List.flatMap arrivals
        [⟨1, 5, 51, [[1, 2, 3], [4, 5], [6]], by decide, by decide, by decide⟩]) = .ok s ∧
      s.received = [⟨1, 51, [6]⟩]) ∧
    ∃ s, run (step 4) {} (List.flatMap arrivals
        [⟨1, 5, 51, [[1, 2, 3], [4, 5]], by decide, by decide, by decide⟩,
         ⟨2, 0, 53, [[9]], by decide, by decide, by decide⟩]) = .ok s ∧
      s.received = [⟨2, 53, [1, 2, 3, 9]⟩] :=
  ⟨⟨_, rfl, rfl⟩, _, rfl, rfl⟩

end SctpAssociation

end Mediasoup
