/-
Up offers that are processed at the same time (`ProcessUpOfferSdp`, up to where the user is
stored).

Each connection has its own goroutine.  The rooms are on a heap: `roomMap` holds pointers, and
a handler that has loaded a pointer stores its user through it, whatever `roomMap` holds by
then.  A step is a request or one operation on a map.

* `join` — the steps of a call,
* `run_solo` — a call that is not interrupted does what `enterRoom` does,
* `firstJoin_iff` — of several calls for a new room, all find themselves in it exactly if no
  call starts before the first one has stored the room.
-/
import Mathlib.Tactic.IntervalCases
import Mediasoup.Lib.Interleaving
import Mediasoup.Signaling.WorkerObjects

open List Interleaving

namespace Mediasoup.Signaling

open Json

/-! ### The heap -/

/-- The rooms that were allocated, and what the handlers share besides. -/
structure Shared where
  rooms : List Room := []
  roomMap : AList fun _ : Text => ℕ := ∅
  choices : ℕ := 0
  requests : List Request := []

namespace Shared

def write (s : Shared) (request : Request) : Shared :=
  { s with requests := s.requests ++ [request] }

def choose {α : Type} (s : Shared) (pick : ℕ → α) : α × Shared :=
  (pick s.choices, { s with choices := s.choices + 1 })

/-- A new room is stored in `roomMap`. -/
def storeRoom (s : Shared) (roomId : Text) (room : Room) : Shared :=
  { s with
    rooms := s.rooms ++ [room]
    roomMap := s.roomMap.insert roomId s.rooms.length }

/-- A user is stored in the room at a pointer. -/
def storeUser (s : Shared) (pointer : ℕ) (userId : Text) (user : User) : Shared :=
  { s with
    rooms := s.rooms.modify pointer fun room =>
      { room with userIdUserMap := room.userIdUserMap.insert userId user } }

end Shared

/-! ### The steps of a call -/

structure Caller where
  conn : Conn
  userId : Text

/-- Where a call is, with the local variables that it needs. -/
inductive JoinPhase where
  | load
  | createRouter
  | createAudioLevelObserver
  | createActiveSpeakerObserver (audioLevelObserverId : Letters)
  | storeRoom (audioLevelObserverId activeSpeakerObserverId : Letters)
  | storeUser (pointer : ℕ)
  | stored
  deriving DecidableEq

variable {n : ℕ} (env : Env) (roomId : Text) (caller : Fin n → Caller)

/-- The next step of a call. -/
def join (i : Fin n) (phase : JoinPhase) (s : Shared) : JoinPhase × Shared :=
  match phase with
  | .load =>
    match s.roomMap.lookup roomId with
    | none => (.createRouter, s)
    | some pointer => (.storeUser pointer, s)
  | .createRouter => (.createAudioLevelObserver, s.write (.createRouter roomId))
  | .createAudioLevelObserver =>
    let (audioLevelObserverId, s) := s.choose env.randStringBytes
    (.createActiveSpeakerObserver audioLevelObserverId,
      s.write (.createAudioLevelObserver roomId audioLevelObserverId))
  | .createActiveSpeakerObserver audioLevelObserverId =>
    let (activeSpeakerObserverId, s) := s.choose env.randStringBytes
    (.storeRoom audioLevelObserverId activeSpeakerObserverId,
      s.write (.createActiveSpeakerObserver roomId activeSpeakerObserverId))
  | .storeRoom audioLevelObserverId activeSpeakerObserverId =>
    (.stored, s.storeRoom roomId
      { activeSpeakerObserverId := audioLevelObserverId
        audioLevelObserverId := activeSpeakerObserverId
        userIdUserMap := AList.singleton (caller i).userId { conn := (caller i).conn } })
  | .storeUser pointer =>
    (.stored, s.storeUser pointer (caller i).userId { conn := (caller i).conn })
  | .stored => (.stored, s)

def begin (s : Shared) : Config (Fin n) JoinPhase Shared := ⟨s, fun _ => .load⟩

/-- The number of steps in which a call creates a room. -/
def creationSteps : ℕ := 5

/-- The client is a user of the room at a pointer. -/
def StoredAt (s : Shared) (who : Caller) (pointer : ℕ) : Prop :=
  ∃ room user, s.rooms[pointer]? = some room ∧
    room.userIdUserMap.lookup who.userId = some user ∧ user.conn = who.conn

/-- The routers that were created for the room. -/
def created (s : Shared) : ℕ := s.requests.count (.createRouter roomId)

/-- One router was created, and each client is a user of the room that `roomMap` holds. -/
def JoinedOnce (s₀ s : Shared) : Prop :=
  created roomId s = created roomId s₀ + 1 ∧
    ∃ pointer, s.roomMap.lookup roomId = some pointer ∧ ∀ i, StoredAt s (caller i) pointer

/-! ### What a step does -/

/-- A call that is about to create a router. -/
def pending (phase : JoinPhase) : ℕ := if phase = .createRouter then 1 else 0

variable {i : Fin n}

theorem created_join (phase : JoinPhase) (s : Shared) :
    created roomId (join env roomId caller i phase s).2 = created roomId s + pending phase := by
  cases phase with
  | load =>
    simp only [join]
    split <;> rfl
  | _ => simp [join, created, pending, Shared.write, Shared.choose, Shared.storeRoom,
      Shared.storeUser]

/-- No step takes a router back, or the intention to create one. -/
theorem created_move_le (c : Config (Fin n) JoinPhase Shared) (k : Fin n) {j : Fin n}
    (hij : i ≠ j) : created roomId c.shared + pending (c.locals i) + pending (c.locals j) ≤
      created roomId (move (join env roomId caller) c k).shared +
        pending ((move (join env roomId caller) c k).locals i) +
        pending ((move (join env roomId caller) c k).locals j) := by
  have hk : created roomId (move (join env roomId caller) c k).shared =
      created roomId c.shared + pending (c.locals k) := created_join ..
  -- only the call that takes the step changes its phase
  by_cases hi : i = k
  · subst hi
    rw [hk, locals_move_of_ne c hij.symm]
    omega
  · rw [hk, locals_move_of_ne c hi]
    by_cases hj : j = k
    · subst hj
      omega
    · rw [locals_move_of_ne c hj]
      omega

/-! ### A call alone -/

variable {env roomId caller}
variable {s : Shared} {pointer : ℕ}

/-- Before it stores the room, a call that began alone has created or is to create a router. -/
theorem run_opening (hnew : s.roomMap.lookup roomId = none) {k : ℕ} (hk : 0 < k)
    (hk' : k < creationSteps) : let c := run (join env roomId caller) (begin s) (List.replicate k i)
    c.shared.roomMap.lookup roomId = none ∧ c.locals i ≠ .stored ∧
      created roomId c.shared + pending (c.locals i) = created roomId s + 1 := by
  unfold creationSteps at hk'
  interval_cases k <;>
    simp [run, List.replicate, move, begin, join, hnew, created, pending, Shared.write,
      Shared.choose]

variable (env roomId) in
/-- The shared state after a call has created the room without an interruption. -/
def createRoom (s : Shared) (who : Caller) : Shared where
  rooms := s.rooms ++ [
    { activeSpeakerObserverId := env.randStringBytes s.choices
      audioLevelObserverId := env.randStringBytes (s.choices + 1)
      userIdUserMap := AList.singleton who.userId { conn := who.conn } }]
  roomMap := s.roomMap.insert roomId s.rooms.length
  choices := s.choices + 2
  requests := s.requests ++ [.createRouter roomId,
    .createAudioLevelObserver roomId (env.randStringBytes s.choices),
    .createActiveSpeakerObserver roomId (env.randStringBytes (s.choices + 1))]

theorem run_creation (hnew : s.roomMap.lookup roomId = none) :
    run (join env roomId caller) (begin s) (List.replicate creationSteps i) =
      ⟨createRoom env roomId s (caller i), Function.update (fun _ => .load) i .stored⟩ := by
  simp [creationSteps, run, List.replicate, move, begin, join, hnew, createRoom, Shared.write,
    Shared.choose, Shared.storeRoom]

/-- The room that `roomMap` holds. -/
def Shared.room (s : Shared) (roomId : Text) : Option Room :=
  (s.roomMap.lookup roomId).bind fun pointer => s.rooms[pointer]?

/-- The heap holds the room as the server has it. -/
structure Views (roomId : Text) (s : Shared) (server : Server) : Prop where
  room : s.room roomId = server.roomMap.lookup roomId
  allocated : ∀ pointer, s.roomMap.lookup roomId = some pointer → pointer < s.rooms.length
  choices : s.choices = server.choices
  requests : s.requests = server.requests

theorem Views.lookup_eq {server : Server} (h : Views roomId s server)
    (hroom : s.roomMap.lookup roomId = some pointer) :
    ∃ room, s.rooms[pointer]? = some room ∧ server.roomMap.lookup roomId = some room := by
  have hlt := h.allocated pointer hroom
  rw [← h.room, Shared.room, hroom]
  exact ⟨_, getElem?_eq_getElem hlt, getElem?_eq_getElem hlt⟩

/-- A call that is not interrupted does what `enterRoom` does. -/
theorem run_solo {server : Server} {offer : Server.SdpRequest} (h : Views offer.roomId s server)
    (hid : (caller i).userId = offer.userId) :
    let c := run (join env offer.roomId caller) (begin s) (List.replicate creationSteps i)
    c.locals i = .stored ∧
      Views offer.roomId c.shared (server.enterRoom env (caller i).conn offer).2 := by
  cases hroom : s.roomMap.lookup offer.roomId with
  | none =>
    have hnew : server.roomMap.lookup offer.roomId = none := by
      rw [← h.room, Shared.room, hroom]
      rfl
    rw [run_creation hroom]
    refine ⟨by simp only [Function.update_self], ?_, ?_, ?_, ?_⟩ <;>
      simp [Shared.room, createRoom, Server.enterRoom, hnew, Server.write, Server.choose, h.choices,
        h.requests, Server.requests, hid]
  | some pointer =>
    obtain ⟨room, hstored, hserver⟩ := h.lookup_eq hroom
    -- the room is there: the caller stores its user through the pointer
    have hrun : run (join env offer.roomId caller) (begin s) (List.replicate creationSteps i) =
        ⟨s.storeUser pointer (caller i).userId { conn := (caller i).conn },
          Function.update (fun _ => .load) i .stored⟩ := by
      simp [creationSteps, run, List.replicate, move, begin, join, hroom]
    rw [hrun]
    simp only [Server.enterRoom, hserver, Server.storeUser]
    refine ⟨by simp only [Function.update_self], ?_, fun p hp => ?_, h.choices, h.requests⟩
    · simp [Shared.room, Shared.storeUser, hroom, hstored, hid]
    · simpa [Shared.storeUser] using h.allocated p hp

/-! ### The calls together -/

/-- No two connections join under one user id. -/
def OwnIds (caller : Fin n → Caller) : Prop :=
  ∀ i j, (caller i).userId = (caller j).userId → (caller i).conn = (caller j).conn

/-- One call has stored the room before any other call starts. -/
def FirstAlone (schedule : List (Fin n)) : Prop :=
  ∃ i rest, schedule = List.replicate creationSteps i ++ rest

/-- A call has yet to load the room, has loaded it, or has stored its user there. -/
def Admitted (s : Shared) (pointer : ℕ) (who : Caller) (phase : JoinPhase) : Prop :=
  phase = .load ∨ phase = .storeUser pointer ∨ phase = .stored ∧ StoredAt s who pointer

/-- The room is in `roomMap`, and no call creates another one. -/
structure Entering (roomId : Text) (caller : Fin n → Caller) (routers pointer : ℕ)
    (c : Config (Fin n) JoinPhase Shared) : Prop where
  created : created roomId c.shared = routers
  room : c.shared.roomMap.lookup roomId = some pointer
  allocated : pointer < c.shared.rooms.length
  phases : ∀ i, Admitted c.shared pointer (caller i) (c.locals i)

/-- A user that is stored in a room replaces no user of another id. -/
theorem storedAt_storeUser {who : Caller} (other : Caller)
    (hid : other.userId = who.userId → other.conn = who.conn) (h : StoredAt s who pointer) :
    StoredAt (s.storeUser pointer other.userId { conn := other.conn }) who pointer := by
  obtain ⟨room, user, hroom, huser, hconn⟩ := h
  refine ⟨{ room with
    userIdUserMap := room.userIdUserMap.insert other.userId { conn := other.conn } }, ?_⟩
  have hroom' : (s.storeUser pointer other.userId { conn := other.conn }).rooms[pointer]? =
      some { room with
        userIdUserMap := room.userIdUserMap.insert other.userId { conn := other.conn } } := by
    simp [Shared.storeUser, hroom]
  by_cases he : other.userId = who.userId
  · refine ⟨{ conn := other.conn }, hroom', ?_, hid he⟩
    rw [← he]
    exact AList.lookup_insert _
  · exact ⟨user, hroom', (AList.lookup_insert_ne (Ne.symm he)).trans huser, hconn⟩

/-- The user that was just stored. -/
theorem storedAt_storeUser_self (who : Caller) (h : pointer < s.rooms.length) :
    StoredAt (s.storeUser pointer who.userId { conn := who.conn }) who pointer := by
  refine ⟨{ s.rooms[pointer] with
    userIdUserMap := s.rooms[pointer].userIdUserMap.insert who.userId { conn := who.conn } },
    { conn := who.conn }, ?_, AList.lookup_insert _, rfl⟩
  simp [Shared.storeUser, List.getElem?_eq_getElem h]

theorem entering_move (hids : OwnIds caller) {routers : ℕ} (c : Config (Fin n) JoinPhase Shared)
    (k : Fin n) (h : Entering roomId caller routers pointer c) :
    Entering roomId caller routers pointer (move (join env roomId caller) c k) := by
  have hmove (phase : JoinPhase) (s : Shared)
      (hstep : join env roomId caller k (c.locals k) c.shared = (phase, s)) :
      move (join env roomId caller) c k = ⟨s, Function.update c.locals k phase⟩ := by
    rw [move, hstep]
  rcases h.phases k with hk | hk | ⟨hk, -⟩
  · -- the room is found
    rw [hmove (.storeUser pointer) c.shared (by simp only [hk, join, h.room])]
    refine ⟨h.created, h.room, h.allocated, fun i => ?_⟩
    by_cases hi : i = k
    · subst hi
      exact .inr (.inl (Function.update_self ..))
    · simp only [Function.update_of_ne hi]
      exact h.phases i
  · -- the user is stored, and the users that were stored before keep their places
    rw [hmove .stored (c.shared.storeUser pointer (caller k).userId { conn := (caller k).conn })
      (by simp only [hk, join])]
    refine ⟨h.created, h.room, ?_, fun i => ?_⟩
    · simpa [Shared.storeUser] using h.allocated
    · by_cases hi : i = k
      · subst hi
        exact .inr (.inr ⟨Function.update_self .., storedAt_storeUser_self _ h.allocated⟩)
      · simp only [Function.update_of_ne hi]
        refine (h.phases i).imp_right (Or.imp_right fun hin => ⟨hin.1, ?_⟩)
        exact storedAt_storeUser (caller k) (hids k i) hin.2
  · rwa [move_eq_self (by simp only [hk, join])]

theorem entering_run_creation (hnew : s.roomMap.lookup roomId = none) :
    Entering roomId caller (created roomId s + 1) s.rooms.length
      (run (join env roomId caller) (begin s) (List.replicate creationSteps i)) := by
  rw [run_creation hnew]
  refine ⟨by simp [created, createRoom], AList.lookup_insert _, ?_, fun j => ?_⟩
  · simp [createRoom]
  · by_cases hj : j = i
    · subst hj
      simp only [Function.update_self]
      exact .inr (.inr ⟨rfl, _, _, List.getElem?_concat_length, dlookup_cons_eq .., rfl⟩)
    · simp only [Function.update_of_ne hj]
      exact .inl rfl

/-- Two calls have created or are to create a router each. -/
def Rivals (roomId : Text) (routers : ℕ) (i j : Fin n) (c : Config (Fin n) JoinPhase Shared) :
    Prop :=
  routers + 2 ≤ created roomId c.shared + pending (c.locals i) + pending (c.locals j)

/-- A call that starts before the first one has stored the room creates a second router. -/
theorem rivals_run (hnew : s.roomMap.lookup roomId = none) {j : Fin n} (hij : i ≠ j) {k : ℕ}
    (hk : 0 < k) (hk' : k < creationSteps) (rest : List (Fin n)) :
    Rivals roomId (created roomId s) i j
      (run (join env roomId caller) (begin s) (List.replicate k i ++ j :: rest)) := by
  have hstep (c : Config (Fin n) JoinPhase Shared) (l : Fin n)
      (h : Rivals roomId (created roomId s) i j c) :
      Rivals roomId (created roomId s) i j (move (join env roomId caller) c l) :=
    h.trans (created_move_le env roomId caller c l hij)
  rw [run_append, run_cons]
  refine run_invariant hstep ?_ rest
  set c := run (join env roomId caller) (begin s) (List.replicate k i) with hc
  obtain ⟨hlookup, -, hcreated⟩ : c.shared.roomMap.lookup roomId = none ∧ _ :=
    run_opening hnew hk hk'
  have hload : c.locals j = .load :=
    locals_run_of_notMem _ fun h => hij (eq_of_mem_replicate h).symm
  -- the second call does not find the room either
  have hj : join env roomId caller j (c.locals j) c.shared = (.createRouter, c.shared) := by
    simp only [hload, join, hlookup]
  have hlocal : (move (join env roomId caller) c j).locals j = .createRouter := by
    rw [locals_move_self, hj]
  have hshared : (move (join env roomId caller) c j).shared = c.shared := by
    rw [move, hj]
  rw [Rivals, hlocal, hshared, locals_move_of_ne c hij, hcreated]
  exact le_rfl

/-- If one router was created, the first call was alone until it had stored the room. -/
theorem firstAlone_of_created (hnew : s.roomMap.lookup roomId = none) {schedule : List (Fin n)}
    (hdone : ∀ i, (run (join env roomId caller) (begin s) schedule).locals i = .stored)
    (hone : created roomId (run (join env roomId caller) (begin s) schedule).shared =
      created roomId s + 1) : FirstAlone schedule := by
  obtain _ | ⟨i, schedule⟩ := schedule
  · exact absurd hone (Nat.ne_add_one _)
  refine ⟨i, ?_⟩
  -- by induction on the number of steps that the first call is known to have taken alone
  have halone (k : ℕ) (hk : k < creationSteps) :
      ∃ rest, i :: schedule = List.replicate (k + 1) i ++ rest := by
    induction k with
    | zero => exact ⟨schedule, rfl⟩
    | succ k ih =>
      obtain ⟨rest, hrest⟩ := ih (Nat.lt_of_succ_lt hk)
      rw [hrest] at hdone hone
      obtain _ | ⟨j, rest⟩ := rest
      · rw [append_nil] at hdone
        exact absurd (hdone i) (run_opening hnew k.succ_pos hk).2.1
      by_cases hij : i = j
      · subst hij
        refine ⟨rest, ?_⟩
        rw [hrest, replicate_succ' (n := k + 1), append_assoc]
        rfl
      · have hrivals : Rivals roomId (created roomId s) i j
            (run (join env roomId caller) (begin s) _) := rivals_run hnew hij k.succ_pos hk rest
        rw [Rivals, hdone i, hdone j, hone] at hrivals
        exact absurd hrivals (by simp [pending])
  exact halone 4 (by decide)

/-- Each client is a user of the one room exactly if no other call starts before the first
one has stored the room, and no two connections join under one user id. -/
theorem firstJoin_iff {s : Shared} (hnew : s.roomMap.lookup roomId = none) {schedule : List (Fin n)}
    (hdone : ∀ i, (run (join env roomId caller) (begin s) schedule).locals i = .stored) :
    JoinedOnce roomId caller s (run (join env roomId caller) (begin s) schedule).shared ↔
      OwnIds caller ∧ FirstAlone schedule := by
  constructor
  · rintro ⟨hone, pointer, -, hstored⟩
    refine ⟨fun i j hij => ?_, firstAlone_of_created hnew hdone hone⟩
    obtain ⟨room, user, hroom, huser, hconn⟩ := hstored i
    obtain ⟨room', user', hroom', huser', hconn'⟩ := hstored j
    obtain rfl : room = room' := Option.some.inj (hroom.symm.trans hroom')
    rw [hij, huser'] at huser
    rw [← hconn, ← hconn', Option.some.inj huser]
  · rintro ⟨hids, i, rest, rfl⟩
    have hentering : Entering roomId caller (created roomId s + 1) s.rooms.length
        (run (join env roomId caller) (begin s) (List.replicate creationSteps i ++ rest)) := by
      rw [run_append]
      exact run_invariant (entering_move hids) (entering_run_creation hnew) rest
    refine ⟨hentering.created, _, hentering.room, fun j => ?_⟩
    obtain hj | hj | hj := hentering.phases j
    · cases (hdone j).symm.trans hj
    · cases (hdone j).symm.trans hj
    · exact hj.2

def sampleCaller : Fin 2 → Caller
  | 0 => ⟨1, "ann".toList⟩
  | 1 => ⟨2, "bob".toList⟩

/-- The second client starts when the first one has stored the room. -/
theorem firstJoin_inTurn :
    JoinedOnce "room".toList sampleCaller {} (run (join Server.sampleEnv "room".toList sampleCaller)
      (begin {}) (List.replicate creationSteps 0 ++ [1, 1])).shared :=
  (firstJoin_iff rfl (by decide +kernel)).mpr ⟨by unfold OwnIds; decide +kernel, 0, [1, 1], rfl⟩

/-- Both clients load before either stores: two routers, and only the second room is kept. -/
theorem firstJoin_race : (∀ i, (run (join Server.sampleEnv "room".toList sampleCaller) (begin {})
      [0, 1, 0, 0, 0, 0, 1, 1, 1, 1]).locals i = .stored) ∧
    ¬ JoinedOnce "room".toList sampleCaller {}
      (run (join Server.sampleEnv "room".toList sampleCaller) (begin {})
        [0, 1, 0, 0, 0, 0, 1, 1, 1, 1]).shared := by
  refine ⟨by decide +kernel, fun h => ?_⟩
  exact absurd h.1 (by decide +kernel)

end Mediasoup.Signaling
