/-
The tables by which a transport finds the producer of a packet (`RTC::RtpListener`).

* `addProducer`, `removeProducer`, `getProducer` — the tables with each call.
* `Extends` — a table that only gained entries of one producer; what `AddProducer` does
  until it returns or throws.
* `reached_sound` — over every run of calls the entries point to added producers, what an
  added producer declares leads to it, and an error leaves the tables as they were.
-/
import Mathlib.Logic.Function.Basic
import Mediasoup.Rtp.RtpParameters

open Function List

namespace Mediasoup

/-- What the listener reads of the RTP parameters of a producer. -/
structure Declaration where
  encodings : List RtpEncodingParameters := []
  mid : String := ""

/-- A key of `ssrcTable`, `midTable` or `ridTable`. -/
inductive ListenerKey where
  | ssrc (ssrc : UInt32)
  | mid (mid : String)
  | rid (rid : String)
  deriving DecidableEq

/-- No SSRC, MID or RID is given. -/
def ListenerKey.absent : ListenerKey → Bool
  | .ssrc n => n = 0
  | .mid text | .rid text => text = ""

abbrev RtpListener (P : Type) := ListenerKey → Option P

namespace RtpListener

variable {P : Type}

/-- The keys that `AddProducer` goes through, each with the error if it is taken. -/
def keys (d : Declaration) : List (ListenerKey × String) :=
  d.encodings.flatMap (fun encoding =>
    [(.ssrc encoding.ssrc, s!"ssrc already exists in RTP listener [ssrc:{encoding.ssrc}]"),
      (.ssrc (encoding.rtx.getD 0),
        s!"RTX ssrc already exists in RTP listener [ssrc:{encoding.rtx.getD 0}]")]) ++
    (.mid d.mid, s!"MID already exists in RTP listener [mid:{d.mid}]") ::
    d.encodings.map fun encoding => (.rid encoding.rid,
      s!"RID already exists in RTP listener and no MID is given [rid:{encoding.rid}]")

/-- With a MID, a RID that is taken is passed over. -/
def mayBeTaken (d : Declaration) : ListenerKey → Bool
  | .rid _ => d.mid ≠ ""
  | _ => false

def removeProducer [DecidableEq P] (l : RtpListener P) (producer : P) : RtpListener P :=
  fun key => if l key = some producer then none else l key

/-- The loops of `AddProducer`, with the error that is thrown. -/
def addKeys [DecidableEq P] (producer : P) (d : Declaration) :
    List (ListenerKey × String) → RtpListener P → RtpListener P × Option String
  | [], l => (l, none)
  | (key, message) :: rest, l =>
    if key.absent then addKeys producer d rest l
    else if l key = none then addKeys producer d rest (update l key (some producer))
    else if mayBeTaken d key then addKeys producer d rest l
    else (l.removeProducer producer, some message)

def addProducer [DecidableEq P] (l : RtpListener P) (producer : P) (d : Declaration) :
    RtpListener P × Option String :=
  addKeys producer d (keys d) l

/-- `GetProducer` of a packet with this SSRC and what `ReadMid` and `ReadRid` give. -/
def getProducer (l : RtpListener P) (ssrc : UInt32) (mid rid : Option String) :
    RtpListener P × Option P :=
  match l (.ssrc ssrc) with
  | some producer => (l, some producer)
  | none =>
    match (mid.bind fun mid => l (.mid mid)).or (rid.bind fun rid => l (.rid rid)) with
    | some producer => (update l (.ssrc ssrc) (some producer), some producer)
    | none => (l, none)

/-! ### Adding a producer -/

variable {producer p : P} {d : Declaration} {key : ListenerKey} {l l' : RtpListener P}

/-- Only free keys changed, and they lead to the producer. -/
def Extends (producer : P) (l l' : RtpListener P) : Prop :=
  ∀ key, l' key = l key ∨ l key = none ∧ l' key = some producer

theorem Extends.keep (h : Extends producer l l') (hkey : l key = some p) : l' key = some p := by
  rcases h key with heq | ⟨hnone, -⟩
  · rw [heq, hkey]
  · rw [hnone] at hkey
    cases hkey

theorem Extends.of_update (hkey : l key = none)
    (h : Extends producer (update l key (some producer)) l') : Extends producer l l' := by
  intro k
  by_cases hk : k = key
  · subst hk
    exact .inr ⟨hkey, h.keep (update_self ..)⟩
  · simpa only [update_of_ne hk] using h k

variable [DecidableEq P]

theorem Extends.removeProducer (h : Extends producer l l') (hnew : ∀ key, l key ≠ some producer) :
    l'.removeProducer producer = l := by
  funext key
  rcases h key with heq | ⟨hnone, hsome⟩
  · rw [RtpListener.removeProducer, heq, if_neg (hnew key)]
  · rw [RtpListener.removeProducer, if_pos hsome, hnone]

/-- Without an error every key is inserted; an error comes with a removal. -/
def Adds (producer : P) (d : Declaration) (keys : List (ListenerKey × String))
    (l : RtpListener P) : RtpListener P × Option String → Prop
  | (l', none) => Extends producer l l' ∧ ∀ k ∈ keys, k.1.absent = false →
      mayBeTaken d k.1 = false → l' k.1 = some producer
  | (l', some _) => ∃ l₁, Extends producer l l₁ ∧ l' = l₁.removeProducer producer

theorem Adds.cons {keys : List (ListenerKey × String)} {r : RtpListener P × Option String}
    {k : ListenerKey × String} (h : Adds producer d keys l' r)
    (hext : ∀ l₁, Extends producer l' l₁ → Extends producer l l₁)
    (hkey : ∀ l₁, Extends producer l' l₁ → k.1.absent = false → mayBeTaken d k.1 = false →
      l₁ k.1 = some producer) : Adds producer d (k :: keys) l r := by
  obtain ⟨l₁, _ | error⟩ := r
  · exact ⟨hext l₁ h.1, forall_mem_cons.mpr ⟨hkey l₁ h.1, h.2⟩⟩
  · obtain ⟨l₂, hl₂, heq⟩ := h
    exact ⟨l₂, hext l₂ hl₂, heq⟩

theorem addKeys_adds (producer : P) (d : Declaration) (keys : List (ListenerKey × String))
    (l : RtpListener P) : Adds producer d keys l (addKeys producer d keys l) := by
  induction keys generalizing l with
  | nil => exact ⟨fun key => .inl rfl, fun k hk => by cases hk⟩
  | cons k rest ih =>
    rw [addKeys]
    split_ifs with habsent hfree htaken
    · exact (ih l).cons (fun _ h => h) fun _ _ h => by simp [habsent] at h
    · exact (ih _).cons (fun _ h => h.of_update hfree) fun _ h _ _ => h.keep (update_self ..)
    · exact (ih l).cons (fun _ h => h) fun _ _ _ h => by simp [htaken] at h
    · exact ⟨l, fun key => .inl rfl, rfl⟩

/-! ### Runs of calls -/

inductive Call (P : Type) where
  | addProducer (producer : P) (d : Declaration)
  | removeProducer (producer : P)
  | getProducer (ssrc : UInt32) (mid rid : Option String)

/-- The tables, and the added producers with what they declared. -/
structure State (P : Type) where
  tables : RtpListener P := fun _ => none
  added : P → Option Declaration := fun _ => none

def step (s : State P) : Call P → State P
  | .addProducer producer d =>
    match s.tables.addProducer producer d with
    | (tables, none) => ⟨tables, update s.added producer (some d)⟩
    | (tables, some _) => { s with tables }
  | .removeProducer producer =>
    ⟨s.tables.removeProducer producer, update s.added producer none⟩
  | .getProducer ssrc mid rid => { s with tables := (s.tables.getProducer ssrc mid rid).1 }

/-- Only a producer that is not added is added. -/
def New (s : State P) : Call P → Prop
  | .addProducer producer _ => s.added producer = none
  | _ => True

/-- The SSRCs, RTX SSRCs and the MID of a producer. -/
def Declares (d : Declaration) : ListenerKey → Prop
  | .ssrc n => n ≠ 0 ∧ ∃ encoding ∈ d.encodings, encoding.ssrc = n ∨ encoding.rtx = some n
  | .mid mid => mid ≠ "" ∧ d.mid = mid
  | .rid _ => False

theorem Declares.mem_keys (h : Declares d key) :
    ∃ message, (key, message) ∈ keys d ∧ key.absent = false ∧ mayBeTaken d key = false := by
  cases key with
  | ssrc n =>
    obtain ⟨hne, encoding, hmem, h⟩ := h
    have hkey : encoding.ssrc = n ∨ encoding.rtx.getD 0 = n := h.imp_right fun h => by rw [h]; rfl
    simp only [keys, mem_append, mem_flatMap]
    rcases hkey with rfl | rfl
    · exact ⟨_, .inl ⟨encoding, hmem, mem_cons_self⟩, decide_eq_false hne, rfl⟩
    · exact ⟨_, .inl ⟨encoding, hmem, mem_cons_of_mem _ mem_cons_self⟩, decide_eq_false hne, rfl⟩
  | mid text =>
    obtain ⟨hne, rfl⟩ := h
    exact ⟨_, mem_append_right _ mem_cons_self, decide_eq_false hne, rfl⟩
  | rid text => exact h.elim

/-- Entries point to added producers, and what an added producer declares leads to it. -/
structure Sound (s : State P) : Prop where
  points : ∀ key p, s.tables key = some p → (s.added p).isSome
  declared : ∀ p d key, s.added p = some d → Declares d key → s.tables key = some p

variable {s : State P}

theorem Sound.addProducer_cases (h : Sound s) (hnew : s.added producer = none) :
    (∃ l', s.tables.addProducer producer d = (l', none) ∧ Extends producer s.tables l' ∧
      ∀ key, Declares d key → l' key = some producer) ∨
    ∃ message, s.tables.addProducer producer d = (s.tables, some message) := by
  have hadds := addKeys_adds producer d (keys d) s.tables
  rw [addProducer]
  generalize addKeys producer d (keys d) s.tables = r at hadds
  obtain ⟨l', _ | message⟩ := r
  · refine .inl ⟨l', rfl, hadds.1, fun key hdecl => ?_⟩
    obtain ⟨message, hmem, habsent, htaken⟩ := hdecl.mem_keys
    exact hadds.2 _ hmem habsent htaken
  · obtain ⟨l₁, hl₁, rfl⟩ := hadds
    rw [hl₁.removeProducer fun key hkey => by simpa [hnew] using h.points key producer hkey]
    exact .inr ⟨message, rfl⟩

theorem step_sound (h : Sound s) {call : Call P} (hnew : New s call) : Sound (step s call) := by
  obtain ⟨hpoints, hdeclared⟩ := id h
  cases call with
  | addProducer producer d =>
    rcases h.addProducer_cases hnew with ⟨l', hr, hext, hkeys⟩ | ⟨message, hr⟩
    · rw [step, hr]
      constructor
      all_goals
        simp only [update_apply]
        grind [Extends]
    · rw [step, hr]
      exact h
  | removeProducer producer =>
    constructor
    all_goals
      simp only [step, removeProducer, update_apply]
      grind
  | getProducer ssrc mid rid =>
    simp only [step, getProducer]
    split
    · exact h
    split
    · rename_i p hp
      -- what `GetProducer` adds to the SSRC table was found in another one
      have hfound : ∃ key, s.tables key = some p := by
        rcases Option.or_eq_some_iff.mp hp with hp | ⟨-, hp⟩
        all_goals
          obtain ⟨text, -, hkey⟩ := Option.bind_eq_some_iff.mp hp
          exact ⟨_, hkey⟩
      constructor
      all_goals
        simp only [update_apply]
        grind
    · exact h

/-- The states that calls lead to, if only producers that are not added are added. -/
inductive Reached : State P → Prop
  | start : Reached {}
  | call {s : State P} (call : Call P) (h : Reached s) (hnew : New s call) : Reached (step s call)

/-- **The tables of the listener** in every state that calls lead to. -/
theorem reached_sound (hs : Reached s) : Sound s ∧ ∀ producer d, s.added producer = none →
    (s.tables.addProducer producer d).2 ≠ none →
    (s.tables.addProducer producer d).1 = s.tables := by
  have hsound : Sound s := by
    induction hs with
    | start => exact ⟨fun key p h => (by cases h), fun p d key h => by cases h⟩
    | call call h hnew ih => exact step_sound ih hnew
  refine ⟨hsound, fun producer d hproducer hthrown => ?_⟩
  rcases hsound.addProducer_cases hproducer with ⟨l', hr, -⟩ | ⟨message, hr⟩
  · exact absurd (congrArg Prod.snd hr) hthrown
  · rw [hr]

/-- A producer is found by its MID, and the SSRC of the packet then leads to it. -/
def sampleState : State Bool :=
  step (step {} (.addProducer true { mid := "0" })) (.getProducer 5 (some "0") none)

theorem reached_sound_sample : Sound sampleState ∧ sampleState.tables (.ssrc 5) = some true :=
  ⟨(reached_sound (.call (.getProducer 5 (some "0") none)
    (.call (.addProducer true { mid := "0" }) .start rfl) trivial)).1, by decide⟩

end RtpListener

end Mediasoup
