/-
Users that leave while others are sent offers (`ProcessDownOfferSdp` and `ClearUserInfo` at the
same time).

Calls run on the heap of `FirstJoin`.  A step is one operation on a map, with the local
computation up to the next one.  A call notes whom it has sent an offer; the streams that the
offer is for, and the requests for them, are those of `renewConsumers` and `sendOffer` and are
not repeated here.

* `leaveStep` — the steps of the calls,
* `orderly_run` — the calls only take users and rooms away, and a call has come as far as its
  phase says,
* `finished_run` — a call that gets enough steps comes to its end,
* `run_offers` — a call that looks up no user that has left has sent an offer to each user of
  its snapshot, if there are two or more of them,
* `served_offers`, `clear_alone` — its offers are those of `processDownOfferSdp`, and a departure
  alone takes away the users that `clearUserInfo` takes away.
-/
import Mathlib.Algebra.Order.BigOperators.Group.List
import Mediasoup.Signaling.Departure
import Mediasoup.Signaling.FirstJoin

open List AList Option Interleaving

namespace Mediasoup.Signaling

open Json

/-! ### The maps -/

namespace Shared

def users (s : Shared) (pointer : ℕ) : AList fun _ : Text => User :=
  (s.rooms[pointer]?.map Room.userIdUserMap).getD ∅

def deleteUser (s : Shared) (pointer : ℕ) (userId : Text) : Shared :=
  { s with
    rooms := s.rooms.modify pointer fun room =>
      { room with userIdUserMap := room.userIdUserMap.erase userId } }

def deleteRoom (s : Shared) (roomId : Text) : Shared :=
  { s with roomMap := s.roomMap.erase roomId }

end Shared

/-! ### The steps of the calls -/

/-- A call: new offers for a room, or a connection that was closed. -/
inductive Task where
  | downOffer (roomId : Text)
  | clear (conn : Conn)

/-- The users that a call has sent an offer, with the connections. -/
abbrev Sent := List (Text × Conn)

/-- Where a call is.  The room that `ClearUserInfo` is at becomes `cleanRoomId`; `rooms` are
those that follow.  A call has `ended` if there was no room to make offers for. -/
inductive Phase where
  | rangeRooms
  | rangeUsers (roomId : Text) (pointer : ℕ) (rooms : List (Text × ℕ))
  | deleteUser (roomId : Text) (pointer : ℕ) (userId : Text) (userIds : List Text) (total : ℕ)
      (rooms : List (Text × ℕ))
  | deleteRoom (roomId : Text) (rooms : List (Text × ℕ))
  | loadRoom (roomId : Text)
  | rangeRoomUsers (pointer : ℕ)
  | rangeOthers (pointer : ℕ) (roomUsers : List Text) (sent : Sent) (userId : Text)
      (userIds : List Text)
  | loadUser (pointer : ℕ) (roomUsers : List Text) (sent : Sent) (userId : Text)
      (userIds : List Text)
  | returned (pointer : ℕ) (roomUsers : List Text) (sent : Sent)
  | panicked (pointer : ℕ) (roomUsers : List Text) (sent : Sent) (userId : Text)
  | ended
  deriving DecidableEq

namespace Phase

/-- The next room of `ClearUserInfo`, or the offers for the last one. -/
def nextRoom (cleanRoomId : Text) : List (Text × ℕ) → Phase
  | [] => if cleanRoomId ≠ [] then .loadRoom cleanRoomId else .ended
  | (roomId, pointer) :: rooms => .rangeUsers roomId pointer rooms

/-- The next user of the connection, or the end of the room. -/
def nextDeparture (roomId : Text) (pointer total : ℕ) (rooms : List (Text × ℕ)) : List Text → Phase
  | [] => if total = 0 then .deleteRoom roomId rooms else nextRoom roomId rooms
  | userId :: userIds => .deleteUser roomId pointer userId userIds total rooms

/-- The next user of the snapshot. -/
def nextOffer (pointer : ℕ) (roomUsers : List Text) (sent : Sent) : List Text → Phase
  | [] => .returned pointer roomUsers sent
  | userId :: userIds => .rangeOthers pointer roomUsers sent userId userIds

/-- The users of a snapshot; one user alone gets no offer. -/
def firstOffer (pointer : ℕ) (roomUsers : List Text) : Phase :=
  if roomUsers.length ≤ 1 then .returned pointer roomUsers []
  else nextOffer pointer roomUsers [] roomUsers

end Phase

variable {n : ℕ} (env : Env) (task : Fin n → Task)

def Task.start : Task → Phase
  | .downOffer roomId => .loadRoom roomId
  | .clear _ => .rangeRooms

/-- The user is of the connection that was closed. -/
def Task.closes : Task → User → Bool
  | .downOffer _, _ => false
  | .clear conn, user => user.conn = conn

def leaveStep (i : Fin n) (phase : Phase) (s : Shared) : Phase × Shared :=
  match phase with
  | .rangeRooms =>
    let (rooms, s) := s.choose fun k => env.order k s.roomMap.entries
    (Phase.nextRoom [] (rooms.map fun entry => (entry.1, entry.2)), s)
  | .rangeUsers roomId pointer rooms =>
    let (users, s) := s.choose fun k => env.order k (s.users pointer).entries
    let leaving := users.filter fun entry => (task i).closes entry.2
    let total := users.countP fun entry => !(task i).closes entry.2
    (Phase.nextDeparture roomId pointer total rooms (leaving.map Sigma.fst), s)
  | .deleteUser roomId pointer userId userIds total rooms =>
    (Phase.nextDeparture roomId pointer total rooms userIds, s.deleteUser pointer userId)
  | .deleteRoom roomId rooms => (Phase.nextRoom roomId rooms, s.deleteRoom roomId)
  | .loadRoom roomId =>
    match s.roomMap.lookup roomId with
    | none => (.ended, s)
    | some pointer => (.rangeRoomUsers pointer, s)
  | .rangeRoomUsers pointer =>
    let (roomUsers, s) := s.choose fun k => env.order k (s.users pointer).keys
    (Phase.firstOffer pointer roomUsers, s)
  | .rangeOthers pointer roomUsers sent userId userIds =>
    -- the streams of the others are what the offer is for
    (.loadUser pointer roomUsers sent userId userIds,
      (s.choose fun k => env.order k (s.users pointer).keys).2)
  | .loadUser pointer roomUsers sent userId userIds =>
    match (s.users pointer).lookup userId with
    | none => (.panicked pointer roomUsers sent userId, s)
    | some user => (Phase.nextOffer pointer roomUsers (sent ++ [(userId, user.conn)]) userIds, s)
  | .returned pointer roomUsers sent => (.returned pointer roomUsers sent, s)
  | .panicked pointer roomUsers sent userId => (.panicked pointer roomUsers sent userId, s)
  | .ended => (.ended, s)

def starting (s : Shared) : Config (Fin n) Phase Shared := ⟨s, fun i => (task i).start⟩

/-! ### What the calls take away -/

theorem Shared.users_deleteUser (s : Shared) (pointer p : ℕ) (userId : Text) :
    (s.deleteUser pointer userId).users p =
      if p = pointer then (s.users p).erase userId else s.users p := by
  by_cases hp : p = pointer
  · subst hp
    rw [if_pos rfl]
    cases hroom : s.rooms[p]? with
    | none =>
      simp only [Shared.users, Shared.deleteUser, List.getElem?_modify_eq, hroom, map_none,
        getD_none]
      rfl
    | some room => simp [Shared.users, Shared.deleteUser, hroom]
  · rw [if_neg hp]
    simp [Shared.users, Shared.deleteUser, Ne.symm hp]

/-- Users and rooms were only taken away. -/
structure Shrunk (s s' : Shared) : Prop where
  users : ∀ pointer, (s'.users pointer).entries.Sublist (s.users pointer).entries
  rooms : s'.roomMap.entries.Sublist s.roomMap.entries

namespace Shrunk

theorem refl (s : Shared) : Shrunk s s := ⟨fun _ => List.Sublist.refl _, List.Sublist.refl _⟩

variable {s s' : Shared} {pointer : ℕ}

section

variable (h : Shrunk s s')
include h

theorem trans {s'' : Shared} (h' : Shrunk s' s'') : Shrunk s s'' :=
  ⟨fun pointer => (h'.users pointer).trans (h.users pointer), h'.rooms.trans h.rooms⟩

theorem lookup_user {userId : Text} {user : User}
    (huser : (s'.users pointer).lookup userId = some user) :
    (s.users pointer).lookup userId = some user :=
  mem_lookup_iff.mpr ((h.users pointer).subset (mem_lookup_iff.mp huser))

theorem mem_users {userId : Text} (hmem : userId ∈ s'.users pointer) :
    userId ∈ s.users pointer := by
  obtain ⟨user, huser⟩ := isSome_iff_exists.mp (lookup_isSome.mpr hmem)
  exact lookup_isSome.mp (isSome_iff_exists.mpr ⟨user, h.lookup_user huser⟩)

theorem lookup_room {roomId : Text}
    (hroom : s'.roomMap.lookup roomId = some pointer) : s.roomMap.lookup roomId = some pointer :=
  mem_lookup_iff.mpr (h.rooms.subset (mem_lookup_iff.mp hroom))

theorem mem_roomMap {roomId : Text} (hmem : roomId ∈ s'.roomMap) : roomId ∈ s.roomMap := by
  obtain ⟨pointer, hroom⟩ := isSome_iff_exists.mp (lookup_isSome.mpr hmem)
  exact lookup_isSome.mp (isSome_iff_exists.mpr ⟨pointer, h.lookup_room hroom⟩)

end

end Shrunk

theorem shrunk_leaveStep (i : Fin n) (phase : Phase) (s : Shared) :
    Shrunk s (leaveStep env task i phase s).2 := by
  cases phase with
  | deleteUser roomId pointer userId userIds total rooms =>
    refine ⟨fun p => ?_, List.Sublist.refl _⟩
    show ((s.deleteUser pointer userId).users p).entries.Sublist _
    rw [Shared.users_deleteUser]
    split
    · exact kerase_sublist ..
    · exact List.Sublist.refl _
  | deleteRoom roomId rooms => exact ⟨fun _ => List.Sublist.refl _, kerase_sublist ..⟩
  | loadRoom roomId | loadUser pointer roomUsers sent userId userIds =>
    simp only [leaveStep]
    split <;> exact .refl s
  | _ => exact ⟨fun _ => List.Sublist.refl _, List.Sublist.refl _⟩

/-! ### A call comes to its end -/

/-- The most users that a room can have. -/
def Shared.capacity (s : Shared) : ℕ :=
  (s.rooms.map fun room => room.userIdUserMap.entries.length).sum

theorem Shared.length_users_le (s : Shared) (pointer : ℕ) :
    (s.users pointer).entries.length ≤ s.capacity := by
  cases hroom : s.rooms[pointer]? with
  | none => simp [Shared.users, hroom]
  | some room =>
    have hmem : room ∈ s.rooms := mem_of_getElem? hroom
    simp only [Shared.users, hroom, map_some, getD_some]
    exact le_sum_of_mem (mem_map_of_mem hmem)

/-- The steps that a call has left at most, if a room has at most so many users and there are
at most so many rooms. -/
def Phase.budget (capacity rooms : ℕ) : Phase → ℕ
  | .rangeRooms => rooms * (capacity + 2) + 2 * capacity + 3
  | .rangeUsers _ _ rest => capacity + 1 + rest.length * (capacity + 2) + 2 * capacity + 3
  | .deleteUser _ _ _ userIds _ rest =>
    userIds.length + 1 + rest.length * (capacity + 2) + 2 * capacity + 3
  | .deleteRoom _ rest => rest.length * (capacity + 2) + 2 * capacity + 3
  | .loadRoom _ => 2 * capacity + 2
  | .rangeRoomUsers _ => 2 * capacity + 1
  | .rangeOthers _ _ _ _ userIds => 2 * userIds.length + 2
  | .loadUser _ _ _ _ userIds => 2 * userIds.length + 1
  | .returned .. | .panicked .. | .ended => 0

namespace Phase

variable (capacity rooms : ℕ)

theorem budget_nextRoom_le (cleanRoomId : Text) (rest : List (Text × ℕ)) :
    (nextRoom cleanRoomId rest).budget capacity rooms ≤
      rest.length * (capacity + 2) + 2 * capacity + 2 := by
  cases rest with
  | nil =>
    rw [nextRoom]
    split <;> simp [budget]
  | cons room rest =>
    simp only [nextRoom, budget, length_cons, Nat.succ_mul]
    omega

theorem budget_nextDeparture_le (roomId : Text) (pointer total : ℕ) (rest : List (Text × ℕ))
    (userIds : List Text) :
    (nextDeparture roomId pointer total rest userIds).budget capacity rooms ≤
      userIds.length + rest.length * (capacity + 2) + 2 * capacity + 3 := by
  cases userIds with
  | nil =>
    have hnext := budget_nextRoom_le capacity rooms roomId rest
    rw [nextDeparture]
    split
    · simp only [budget, length_nil]
      omega
    · rw [length_nil]
      omega
  | cons userId userIds =>
    simp only [nextDeparture, budget, length_cons]
    omega

variable {pointer : ℕ}

theorem budget_nextOffer_le (roomUsers : List Text) (sent : Sent) (userIds : List Text) :
    (nextOffer pointer roomUsers sent userIds).budget capacity rooms ≤ 2 * userIds.length := by
  cases userIds with
  | nil => simp [nextOffer, budget]
  | cons userId userIds =>
    simp only [nextOffer, budget, length_cons]
    omega

theorem budget_firstOffer_le (roomUsers : List Text) :
    (firstOffer pointer roomUsers).budget capacity rooms ≤ 2 * roomUsers.length := by
  rw [firstOffer]
  split
  · exact Nat.zero_le _
  · exact budget_nextOffer_le ..

end Phase

variable {env task}
variable {call : Task} {s₀ s s' : Shared} {pointer : ℕ} {roomUsers : List Text} {sent : Sent}
  {userIds : List Text}

variable {phase : Phase}

theorem budget_leaveStep (h : Shrunk s₀ s) (i : Fin n) :
    (leaveStep env task i phase s).1.budget s₀.capacity s₀.roomMap.entries.length ≤
      phase.budget s₀.capacity s₀.roomMap.entries.length - 1 := by
  have husers (pointer : ℕ) : (s.users pointer).entries.length ≤ s₀.capacity :=
    (h.users pointer).length_le.trans (s₀.length_users_le pointer)
  cases phase with
  | rangeRooms =>
    refine (Phase.budget_nextRoom_le ..).trans ?_
    have hrooms := h.rooms.length_le
    rw [length_map, (env.order_perm _ _).length_eq, Phase.budget]
    have hmul := Nat.mul_le_mul_right (s₀.capacity + 2) hrooms
    omega
  | rangeUsers roomId pointer rooms =>
    refine (Phase.budget_nextDeparture_le ..).trans ?_
    -- the users that leave are among those of the iteration
    have hleaving : ((env.order s.choices (s.users pointer).entries).filter
        fun entry => (task i).closes entry.2).length ≤ s₀.capacity := by
      refine (length_filter_le ..).trans ?_
      rw [(env.order_perm _ _).length_eq]
      exact husers pointer
    simp only [length_map, Phase.budget]
    omega
  | deleteUser roomId pointer userId userIds total rooms =>
    refine (Phase.budget_nextDeparture_le ..).trans ?_
    rw [Phase.budget]
    omega
  | deleteRoom roomId rooms =>
    refine (Phase.budget_nextRoom_le ..).trans ?_
    rw [Phase.budget]
    omega
  | loadRoom roomId =>
    simp only [leaveStep]
    split <;> simp [Phase.budget]
  | rangeRoomUsers pointer =>
    have hkeys : (env.order s.choices (s.users pointer).keys).length ≤ s₀.capacity := by
      rw [(env.order_perm _ _).length_eq, AList.keys, List.keys, length_map]
      exact husers pointer
    refine (Phase.budget_firstOffer_le ..).trans ?_
    simp only [Phase.budget]
    omega
  | rangeOthers pointer roomUsers sent userId userIds => exact le_rfl
  | loadUser pointer roomUsers sent userId userIds =>
    simp only [leaveStep]
    split
    · exact Nat.zero_le _
    · exact Phase.budget_nextOffer_le ..
  | _ => exact Nat.zero_le _

def Shared.stepsNeeded (s : Shared) : ℕ :=
  s.roomMap.entries.length * (s.capacity + 2) + 2 * s.capacity + 3

theorem budget_start_le :
    call.start.budget s.capacity s.roomMap.entries.length ≤ s.stepsNeeded := by
  cases call with
  | downOffer roomId =>
    simp only [Task.start, Phase.budget, Shared.stepsNeeded]
    omega
  | clear conn => exact le_rfl

/-! ### The offers of a call -/

/-- What a call knows of its room: the users that are in it were in it when the call snapshot
them, and no user has come since. -/
structure Snapshot (call : Task) (s₀ s : Shared) (pointer : ℕ) (roomUsers : List Text) : Prop where
  room : ∃ roomId, s₀.roomMap.lookup roomId = some pointer ∧
    ∀ r, call = .downOffer r → r = roomId
  nodup : roomUsers.Nodup
  former : ∀ u ∈ roomUsers, u ∈ s₀.users pointer
  present : ∀ u ∈ s.users pointer, u ∈ roomUsers

/-- The offers went to users of the room, each over the connection of the user. -/
def Own (s₀ : Shared) (pointer : ℕ) (sent : Sent) : Prop :=
  ∀ entry ∈ sent, ∃ user, (s₀.users pointer).lookup entry.1 = some user ∧ user.conn = entry.2

/-- A call is before the lookup of a user. -/
structure Offering (call : Task) (s₀ s : Shared) (pointer : ℕ) (roomUsers : List Text)
    (sent : Sent) (userIds : List Text) : Prop where
  snapshot : Snapshot call s₀ s pointer roomUsers
  crowded : 1 < roomUsers.length
  split : sent.map Prod.fst ++ userIds = roomUsers
  own : Own s₀ pointer sent

/-- A call has returned. -/
structure Served (call : Task) (s₀ s : Shared) (pointer : ℕ) (roomUsers : List Text)
    (sent : Sent) : Prop where
  snapshot : Snapshot call s₀ s pointer roomUsers
  all : sent.map Prod.fst = if roomUsers.length ≤ 1 then [] else roomUsers
  own : Own s₀ pointer sent

/-- How far a call has come. -/
def Progress (call : Task) (s₀ s : Shared) : Phase → Prop
  | .loadRoom roomId => ∀ r, call = .downOffer r → r = roomId
  | .rangeRoomUsers pointer => ∃ roomId, s₀.roomMap.lookup roomId = some pointer ∧
      ∀ r, call = .downOffer r → r = roomId
  | .rangeOthers pointer roomUsers sent userId userIds
  | .loadUser pointer roomUsers sent userId userIds =>
    Offering call s₀ s pointer roomUsers sent (userId :: userIds)
  | .returned pointer roomUsers sent => Served call s₀ s pointer roomUsers sent
  | .panicked pointer roomUsers sent userId => userId ∉ s.users pointer ∧
      ∃ userIds, Offering call s₀ s pointer roomUsers sent (userId :: userIds)
  | .ended => ∀ r, call = .downOffer r → r ∉ s.roomMap
  | .rangeRooms | .rangeUsers .. | .deleteUser .. | .deleteRoom .. =>
    ∀ r, call ≠ .downOffer r

theorem Snapshot.shrunk (h : Snapshot call s₀ s pointer roomUsers) (hs : Shrunk s s') :
    Snapshot call s₀ s' pointer roomUsers :=
  ⟨h.room, h.nodup, h.former, fun u hu => h.present u (hs.mem_users hu)⟩

theorem Offering.shrunk (h : Offering call s₀ s pointer roomUsers sent userIds) (hs : Shrunk s s') :
    Offering call s₀ s' pointer roomUsers sent userIds :=
  ⟨h.snapshot.shrunk hs, h.crowded, h.split, h.own⟩

theorem Progress.shrunk (h : Progress call s₀ s phase) (hs : Shrunk s s') :
    Progress call s₀ s' phase := by
  cases phase with
  | rangeOthers | loadUser => exact Offering.shrunk h hs
  | returned => exact ⟨h.snapshot.shrunk hs, h.all, h.own⟩
  | panicked =>
    obtain ⟨hgone, userIds, hoffering⟩ := h
    exact ⟨fun hmem => hgone (hs.mem_users hmem), userIds, hoffering.shrunk hs⟩
  | ended => exact fun r hr hmem => h r hr (hs.mem_roomMap hmem)
  | _ => exact h

theorem Offering.nextOffer (h : Offering call s₀ s pointer roomUsers sent userIds) :
    Progress call s₀ s (Phase.nextOffer pointer roomUsers sent userIds) := by
  cases userIds with
  | nil =>
    refine ⟨h.snapshot, ?_, h.own⟩
    rw [if_neg (Nat.not_le.mpr h.crowded), ← h.split, append_nil]
  | cons userId userIds => exact h

theorem Offering.send {userId : Text}
    (h : Offering call s₀ s pointer roomUsers sent (userId :: userIds)) (hs : Shrunk s₀ s)
    {user : User} (huser : (s.users pointer).lookup userId = some user) :
    Offering call s₀ s pointer roomUsers (sent ++ [(userId, user.conn)]) userIds := by
  refine ⟨h.snapshot, h.crowded, ?_, fun entry hentry => ?_⟩
  · rw [← h.split]
    simp
  · obtain hold | hnew := mem_append.mp hentry
    · exact h.own entry hold
    · obtain rfl := mem_singleton.mp hnew
      exact ⟨user, hs.lookup_user huser, rfl⟩

theorem progress_firstOffer (h : Snapshot call s₀ s pointer roomUsers) :
    Progress call s₀ s (Phase.firstOffer pointer roomUsers) := by
  have hown : Own s₀ pointer [] := fun entry hentry => absurd hentry not_mem_nil
  rw [Phase.firstOffer]
  split
  case isTrue hfew => exact ⟨h, by rw [if_pos hfew]; rfl, hown⟩
  case isFalse hmany => exact Offering.nextOffer ⟨h, Nat.not_le.mp hmany, rfl, hown⟩

theorem progress_nextRoom (hcall : ∀ r, call ≠ .downOffer r) (cleanRoomId : Text)
    (rooms : List (Text × ℕ)) : Progress call s₀ s (Phase.nextRoom cleanRoomId rooms) := by
  cases rooms with
  | nil =>
    rw [Phase.nextRoom]
    split <;> exact fun r hr => absurd hr (hcall r)
  | cons room rooms => exact hcall

theorem progress_nextDeparture (hcall : ∀ r, call ≠ .downOffer r) (roomId : Text)
    (pointer total : ℕ) (rooms : List (Text × ℕ)) :
    Progress call s₀ s (Phase.nextDeparture roomId pointer total rooms userIds) := by
  cases userIds with
  | nil =>
    rw [Phase.nextDeparture]
    split
    · exact hcall
    · exact progress_nextRoom hcall ..
  | cons userId userIds => exact hcall

theorem progress_leaveStep (hs : Shrunk s₀ s) (i : Fin n) (h : Progress (task i) s₀ s phase) :
    Progress (task i) s₀ (leaveStep env task i phase s).2 (leaveStep env task i phase s).1 := by
  have hstep := shrunk_leaveStep env task i phase s
  cases phase with
  | rangeRooms | deleteRoom => exact progress_nextRoom h ..
  | rangeUsers | deleteUser => exact progress_nextDeparture h ..
  | loadRoom roomId =>
    simp only [leaveStep]
    split
    case h_1 hnone =>
      intro r hr hmem
      rw [h r hr, ← lookup_isSome, hnone] at hmem
      cases hmem
    case h_2 pointer hroom => exact ⟨roomId, hs.lookup_room hroom, h⟩
  | rangeRoomUsers pointer =>
    -- the snapshot holds the users of this moment
    have hperm := env.order_perm s.choices (s.users pointer).keys
    exact progress_firstOffer ⟨h, hperm.nodup_iff.mpr (s.users pointer).keys_nodup,
      fun u hu => hs.mem_users (hperm.mem_iff.mp hu), fun u hu => hperm.mem_iff.mpr hu⟩
  | rangeOthers => exact Offering.shrunk h hstep
  | loadUser pointer roomUsers sent userId userIds =>
    simp only [leaveStep]
    split
    case h_1 hnone => exact ⟨lookup_eq_none.mp hnone, userIds, h⟩
    case h_2 user huser => exact (Offering.send h hs huser).nextOffer
  | returned | panicked | ended => exact h

/-- Users and rooms were only taken away, and each call has come as far as its phase says. -/
structure Orderly (task : Fin n → Task) (s₀ : Shared) (c : Config (Fin n) Phase Shared) :
    Prop where
  shrunk : Shrunk s₀ c.shared
  progress : ∀ i, Progress (task i) s₀ c.shared (c.locals i)

theorem orderly_starting : Orderly task s (starting task s) := by
  refine ⟨.refl s, fun i => ?_⟩
  show Progress (task i) s s (task i).start
  cases task i with
  | downOffer roomId => exact fun r hr => (Task.downOffer.inj hr).symm
  | clear conn => exact fun r hr => nomatch hr

theorem orderly_move (c : Config (Fin n) Phase Shared) (k : Fin n) (h : Orderly task s₀ c) :
    Orderly task s₀ (move (leaveStep env task) c k) := by
  have hstep := shrunk_leaveStep env task k (c.locals k) c.shared
  refine ⟨h.shrunk.trans hstep, fun i => ?_⟩
  by_cases hi : i = k
  · subst hi
    rw [locals_move_self]
    exact progress_leaveStep h.shrunk i (h.progress i)
  · rw [locals_move_of_ne c hi]
    exact (h.progress i).shrunk hstep

theorem orderly_run (schedule : List (Fin n)) :
    Orderly task s (run (leaveStep env task) (starting task s) schedule) :=
  run_invariant orderly_move (orderly_starting) schedule

theorem finished_run {schedule : List (Fin n)} {d : Fin n} (h : s.stepsNeeded ≤ schedule.count d) :
    ((run (leaveStep env task) (starting task s) schedule).locals d).budget s.capacity
      s.roomMap.entries.length = 0 := by
  have huse (c : Config (Fin n) Phase Shared) (hc : Orderly task s c) :
      (leaveStep env task d (c.locals d) c.shared).1.budget s.capacity
        s.roomMap.entries.length ≤
      (c.locals d).budget s.capacity s.roomMap.entries.length - 1 :=
    budget_leaveStep hc.shrunk d
  have hbudget := run_budget orderly_move huse (orderly_starting) schedule
  have hstart : ((starting task s).locals d).budget s.capacity s.roomMap.entries.length ≤
      s.stepsNeeded := budget_start_le
  rw [Nat.sub_eq_zero_of_le (hstart.trans h)] at hbudget
  exact Nat.le_zero.mp hbudget

/-- A call has looked up a user that had left; the users before it were sent an offer. -/
def Stopped (call : Task) (s₀ s : Shared) (phase : Phase) : Prop :=
  ∃ pointer roomUsers sent userId userIds, phase = .panicked pointer roomUsers sent userId ∧
    userId ∉ s.users pointer ∧
    Offering call s₀ s pointer roomUsers sent (userId :: userIds)

/-- A call found no room for its offers. -/
def Roomless (call : Task) (s : Shared) (phase : Phase) : Prop :=
  phase = .ended ∧ ∀ r, call = .downOffer r → r ∉ s.roomMap

/-- A call has sent an offer to each user of its snapshot, if there were two or more. -/
def Completed (call : Task) (s₀ s : Shared) (phase : Phase) : Prop :=
  ∃ pointer roomUsers sent, phase = .returned pointer roomUsers sent ∧
    Served call s₀ s pointer roomUsers sent

/-- However the calls take turns, a call that gets enough steps and looks up no user that has
left has sent an offer to each user of its snapshot, if there were two or more of them. -/
theorem run_offers (env : Env) (task : Fin n → Task) (s : Shared) {schedule : List (Fin n)}
    {d : Fin n} (hsteps : s.stepsNeeded ≤ schedule.count d) :
    let c := run (leaveStep env task) (starting task s) schedule
    Stopped (task d) s c.shared (c.locals d) ∨ Roomless (task d) c.shared (c.locals d) ∨
      Completed (task d) s c.shared (c.locals d) := by
  intro c
  have hfinished : (c.locals d).budget s.capacity s.roomMap.entries.length = 0 :=
    finished_run hsteps
  have hprogress : Progress (task d) s c.shared (c.locals d) :=
    (orderly_run schedule).progress d
  cases hphase : c.locals d with
  | returned pointer roomUsers sent =>
    rw [hphase] at hprogress
    exact .inr (.inr ⟨pointer, roomUsers, sent, rfl, hprogress⟩)
  | panicked pointer roomUsers sent userId =>
    rw [hphase] at hprogress
    obtain ⟨hgone, userIds, hoffering⟩ := hprogress
    exact .inl ⟨pointer, roomUsers, sent, userId, userIds, rfl, hgone, hoffering⟩
  | ended =>
    rw [hphase] at hprogress
    exact .inr (.inl ⟨rfl, hprogress⟩)
  | _ =>
    rw [hphase] at hfinished
    simp [Phase.budget] at hfinished

/-! ### The sequential server -/

section

variable {server : Server} {roomId : Text}

theorem Views.profile (h : Views roomId s server)
    (hroom : s.roomMap.lookup roomId = some pointer) (u : Text) :
    server.profile roomId u = ((s.users pointer).lookup u).map User.profile := by
  obtain ⟨room, hstored, hserver⟩ := h.lookup_eq hroom
  rw [Server.profile, Server.user, hserver, Shared.users, hstored]
  rfl

/-- Each offer of a call is one of `processDownOfferSdp`, over the same connection; and if nobody
has left, no user is without one. -/
theorem served_offers (hviews : Views roomId s₀ server) (hencoded : server.EncodedIn roomId)
    (h : Served (.downOffer roomId) s₀ s pointer roomUsers sent) :
    (∀ entry ∈ sent, ∃ consumer sdp, Notice.offer entry.2 consumer sdp ∈
      Server.sentSince server (server.processDownOfferSdp env roomId)) ∧
    (s.users pointer = s₀.users pointer → server.Crowded roomId →
      ∀ u, (server.profile roomId u).isSome → u ∈ sent.map Prod.fst) := by
  obtain ⟨roomId', hroom, hid⟩ := h.snapshot.room
  obtain rfl := hid roomId rfl
  have hprofile := hviews.profile hroom
  have hmem (u : Text) : (server.profile roomId u).isSome ↔ u ∈ s₀.users pointer := by
    rw [hprofile, isSome_map, lookup_isSome]
  have hall := h.all
  constructor
  · intro entry hentry
    have hcrowded : server.Crowded roomId := by
      match roomUsers, h.snapshot.nodup, h.snapshot.former with
      | [], _, _ | [_], _, _ => simp [map_eq_nil_iff.mp hall] at hentry
      | a :: b :: rest, hnodup, hformer =>
        refine ⟨a, b, ?_, (hmem a).mpr (hformer a (by simp)), (hmem b).mpr (hformer b (by simp))⟩
        rintro rfl
        simp at hnodup
    obtain ⟨user, huser, hconn⟩ := h.own entry hentry
    have huser' := (hprofile entry.1).trans (congrArg _ huser)
    obtain ⟨old, consumer, sdp, hold, -, hoffer, -⟩ := Server.processDownOfferSdp_reoffers env
      hencoded hcrowded (isSome_iff_exists.mpr ⟨_, huser'⟩)
    obtain rfl := some.inj (hold.symm.trans huser')
    exact ⟨consumer, sdp, hconn ▸ hoffer⟩
  · intro hkept hcrowded u hu
    have hlisted (u : Text) (hu : (server.profile roomId u).isSome) : u ∈ roomUsers :=
      h.snapshot.present u (hkept ▸ (hmem u).mp hu)
    -- two users of the room are two users of the snapshot
    obtain ⟨a, b, hne, ha, hb⟩ := hcrowded
    rw [hall, if_neg]
    · exact hlisted u hu
    · intro hfew
      match roomUsers, hlisted a ha, hlisted b hb with
      | [x], ha, hb => exact hne ((mem_singleton.mp ha).trans (mem_singleton.mp hb).symm)

variable {conn : Conn}

/-- No user of the connection is in the room at the pointer. -/
def Left (conn : Conn) (s : Shared) (pointer : ℕ) : Prop :=
  ∀ u user, (s.users pointer).lookup u = some user → user.conn ≠ conn

/-- The connection has left all rooms but those at the pointers that are still to come. -/
def Visits (conn : Conn) (s₀ s : Shared) (pointers : List ℕ) : Prop :=
  ∀ r pointer, s₀.roomMap.lookup r = some pointer → Left conn s pointer ∨ pointer ∈ pointers

/-- How far a departure alone has come. -/
def Clearing (conn : Conn) (s₀ s : Shared) : Phase → Prop
  | .rangeRooms => s.roomMap = s₀.roomMap
  | .rangeUsers _ pointer rooms => Visits conn s₀ s (pointer :: rooms.map Prod.snd)
  | .deleteUser _ pointer userId userIds _ rooms =>
    Visits conn s₀ s (pointer :: rooms.map Prod.snd) ∧
      ∀ u user, (s.users pointer).lookup u = some user → (user.conn = conn ↔ u ∈ userId :: userIds)
  | .deleteRoom _ rooms => Visits conn s₀ s (rooms.map Prod.snd)
  | _ => Visits conn s₀ s []

theorem Left.shrunk (h : Left conn s pointer) (hs : Shrunk s s') : Left conn s' pointer :=
  fun u user huser => h u user (hs.lookup_user huser)

theorem clearing_nextRoom (roomId : Text) {rooms : List (Text × ℕ)}
    (h : Visits conn s₀ s (rooms.map Prod.snd)) :
    Clearing conn s₀ s (Phase.nextRoom roomId rooms) := by
  cases rooms with
  | nil =>
    rw [Phase.nextRoom]
    split <;> exact h
  | cons room rooms => exact h

theorem clearing_nextDeparture (roomId : Text) (total : ℕ) {rooms : List (Text × ℕ)}
    (h : Visits conn s₀ s (pointer :: rooms.map Prod.snd))
    (hleaving : ∀ u user, (s.users pointer).lookup u = some user →
      (user.conn = conn ↔ u ∈ userIds)) :
    Clearing conn s₀ s (Phase.nextDeparture roomId pointer total rooms userIds) := by
  cases userIds with
  | nil =>
    have hleft : Visits conn s₀ s (rooms.map Prod.snd) := by
      intro r p hp
      obtain hgone | hp := h r p hp
      · exact .inl hgone
      · obtain rfl | hp := mem_cons.mp hp
        · exact .inl fun u user huser hconn => not_mem_nil ((hleaving u user huser).mp hconn)
        · exact .inr hp
    rw [Phase.nextDeparture]
    split
    · exact hleft
    · exact clearing_nextRoom roomId hleft
  | cons userId userIds => exact ⟨h, hleaving⟩

theorem clearing_nextOffer (h : Visits conn s₀ s []) :
    Clearing conn s₀ s (Phase.nextOffer pointer roomUsers sent userIds) := by
  cases userIds <;> exact h

theorem Visits.of_users {pointers : List ℕ} (h : Visits conn s₀ s pointers) (hs : Shrunk s s') :
    Visits conn s₀ s' pointers :=
  fun r p hp => (h r p hp).imp_left (·.shrunk hs)

theorem clearing_leaveStep (i : Fin n) (htask : task i = .clear conn)
    (h : Clearing conn s₀ s phase) :
    Clearing conn s₀ (leaveStep env task i phase s).2 (leaveStep env task i phase s).1 := by
  have hstep := shrunk_leaveStep env task i phase s
  cases phase with
  | rangeRooms =>
    refine clearing_nextRoom [] fun r p hp => .inr ?_
    rw [← show s.roomMap = s₀.roomMap from h] at hp
    rw [List.map_map]
    exact List.mem_map.mpr ⟨⟨r, p⟩, (env.order_perm _ _).mem_iff.mpr (mem_lookup_iff.mp hp), rfl⟩
  | rangeUsers roomId pointer rooms =>
    refine clearing_nextDeparture roomId _ h fun u user huser => ?_
    -- the users that leave are those of the connection
    rw [List.mem_map]
    constructor
    · intro hconn
      refine ⟨⟨u, user⟩, mem_filter.mpr ⟨?_, ?_⟩, rfl⟩
      · exact (env.order_perm _ _).mem_iff.mpr (mem_lookup_iff.mp huser)
      · rw [htask]
        exact decide_eq_true hconn
    · rintro ⟨⟨u', user'⟩, hentry, rfl⟩
      obtain ⟨hmem, hcloses⟩ := mem_filter.mp hentry
      obtain rfl := some.inj (huser.symm.trans
        (mem_lookup_iff.mpr ((env.order_perm _ _).mem_iff.mp hmem)))
      rw [htask] at hcloses
      exact of_decide_eq_true hcloses
  | deleteUser roomId pointer userId userIds total rooms =>
    obtain ⟨hvisits, hleaving⟩ := h
    refine clearing_nextDeparture roomId total (hvisits.of_users hstep) fun u user huser => ?_
    rw [hleaving u user (hstep.lookup_user huser), mem_cons, or_iff_right]
    rintro rfl
    replace huser : ((s.deleteUser pointer u).users pointer).lookup u = some user := huser
    rw [Shared.users_deleteUser, if_pos rfl, lookup_erase] at huser
    cases huser
  | deleteRoom roomId rooms => exact clearing_nextRoom roomId (Visits.of_users h hstep)
  | loadRoom roomId =>
    simp only [leaveStep]
    split <;> exact h
  | rangeRoomUsers pointer =>
    simp only [leaveStep, Phase.firstOffer]
    split
    · exact h
    · exact clearing_nextOffer h
  | loadUser pointer roomUsers sent userId userIds =>
    simp only [leaveStep]
    split
    · exact h
    · exact clearing_nextOffer h
  | _ => exact h

theorem kept_leaveStep (i : Fin n) (h : Clearing conn s₀ s phase) {u : Text} {user : User}
    (huser : (s.users pointer).lookup u = some user) (hconn : user.conn ≠ conn) :
    ((leaveStep env task i phase s).2.users pointer).lookup u = some user := by
  cases phase with
  | deleteUser roomId p userId userIds total rooms =>
    show ((s.deleteUser p userId).users pointer).lookup u = some user
    rw [Shared.users_deleteUser]
    split
    case isTrue hp =>
      subst hp
      rwa [lookup_erase_ne]
      rintro rfl
      exact hconn ((h.2 u user huser).mpr mem_cons_self)
    case isFalse => exact huser
  | loadRoom | loadUser =>
    simp only [leaveStep]
    split <;> exact huser
  | _ => exact huser

/-- A departure alone has taken away no user of another connection. -/
structure Emptying (conn : Conn) (s₀ : Shared) (c : Config (Fin 1) Phase Shared) : Prop where
  kept : ∀ pointer u user, (s₀.users pointer).lookup u = some user → user.conn ≠ conn →
    (c.shared.users pointer).lookup u = some user
  clearing : Clearing conn s₀ c.shared (c.locals 0)

/-- A departure alone takes away the users that `clearUserInfo` takes away. -/
theorem clear_alone (hviews : Views roomId s server) (hencoded : server.Encoded)
    (hroom : s.roomMap.lookup roomId = some pointer) {schedule : List (Fin 1)}
    (hsteps : s.stepsNeeded ≤ schedule.count 0) (u : Text) :
    u ∈ (run (leaveStep env fun _ => .clear conn) (starting (fun _ => .clear conn) s)
        schedule).shared.users pointer ↔
      ((server.clearUserInfo env conn).profile roomId u).isSome := by
  set c := run (leaveStep env fun _ : Fin 1 => .clear conn) (starting (fun _ => .clear conn) s)
    schedule
  have hemptying : Emptying conn s c := by
    refine run_invariant (fun c k hc => ?_) ⟨fun _ _ _ h _ => h, rfl⟩ schedule
    obtain rfl := Fin.fin_one_eq_zero k
    refine ⟨fun p u user huser hconn => kept_leaveStep 0 hc.clearing (hc.kept p u user huser hconn)
      hconn, ?_⟩
    rw [locals_move_self]
    exact clearing_leaveStep 0 rfl hc.clearing
  have hleft : Left conn c.shared pointer := by
    have hfinished : (c.locals 0).budget s.capacity s.roomMap.entries.length = 0 :=
      finished_run hsteps
    have hclearing := hemptying.clearing
    -- a call at its end has no room left to visit
    cases hphase : c.locals 0 with
    | returned | panicked | ended =>
      rw [hphase] at hclearing
      exact (hclearing roomId pointer hroom).resolve_right not_mem_nil
    | _ =>
      rw [hphase] at hfinished
      simp [Phase.budget] at hfinished
  obtain ⟨s₁, hcleared⟩ := Server.clearUserInfo_cleared env conn hencoded
  rw [hcleared.isSome_iff, Server.Stays, hviews.profile hroom, ← lookup_isSome,
    isSome_iff_exists]
  constructor
  · rintro ⟨user, huser⟩
    refine ⟨user.profile, ?_, hleft u user huser⟩
    rw [(orderly_run schedule).shrunk.lookup_user huser]
    rfl
  · rintro ⟨profile, hprofile, hconn⟩
    obtain ⟨user, huser, rfl⟩ := map_eq_some_iff.mp hprofile
    exact ⟨user, hemptying.kept pointer u user huser hconn⟩

end

/-! ### Departures -/

def sampleRoom (userIds : List String) : Shared where
  rooms := [
    { activeSpeakerObserverId := Server.sampleLetters 0
      audioLevelObserverId := Server.sampleLetters 1
      userIdUserMap :=
        (userIds.mapIdx fun i userId => (userId.toList, ({ conn := i } : User))).foldl
          (fun users entry => users.insert entry.1 entry.2) ∅ }]
  roomMap := AList.singleton "room".toList 0

/-- New offers for the room, while the second user leaves. -/
def sampleTask : Fin 2 → Task
  | 0 => .downOffer "room".toList
  | 1 => .clear 1

/-- The second user leaves after its own lookup and before that of the first one. -/
theorem offers_beforeDeparture :
    let c := run (leaveStep Server.sampleEnv sampleTask)
      (starting sampleTask (sampleRoom ["ann", "bob"]))
      (List.replicate 4 0 ++ [1, 1, 1] ++ List.replicate 7 0)
    Completed (sampleTask 0) (sampleRoom ["ann", "bob"]) c.shared (c.locals 0) := by
  intro c
  have hphase : ∃ pointer roomUsers sent, c.locals 0 = .returned pointer roomUsers sent :=
    ⟨0, ["bob".toList, "ann".toList], [("bob".toList, 1), ("ann".toList, 0)], by decide +kernel⟩
  obtain ⟨pointer, roomUsers, sent, hphase⟩ := hphase
  have hsteps : (sampleRoom ["ann", "bob"]).stepsNeeded ≤
      (List.replicate 4 (0 : Fin 2) ++ [1, 1, 1] ++ List.replicate 7 0).count 0 := by decide +kernel
  obtain ⟨_, _, _, _, _, hstopped, -⟩ | ⟨hended, -⟩ | hcompleted :=
    run_offers Server.sampleEnv sampleTask (sampleRoom ["ann", "bob"]) hsteps
  · cases hphase.symm.trans hstopped
  · cases hphase.symm.trans hended
  · exact hcompleted

/-- A user that is alone in the room gets no offer; and a user that leaves between the snapshot
and its lookup stops the call, with a user still in the room that was not sent an offer. -/
theorem offers_missed :
    (let c := run (leaveStep Server.sampleEnv fun _ : Fin 1 => .downOffer "room".toList)
      (starting (fun _ => .downOffer "room".toList) (sampleRoom ["ann"])) [0, 0]
    c.locals 0 = .returned 0 ["ann".toList] [] ∧ "ann".toList ∈ c.shared.users 0) ∧
    (let c := run (leaveStep Server.sampleEnv sampleTask)
      (starting sampleTask (sampleRoom ["ann", "bob"])) [0, 0, 1, 1, 1, 0, 0]
    c.locals 0 = .panicked 0 ["bob".toList, "ann".toList] [] "bob".toList ∧
      "bob".toList ∉ c.shared.users 0 ∧ "ann".toList ∈ c.shared.users 0) := by
  refine ⟨⟨by decide +kernel, ?_⟩, by decide +kernel, ?_, ?_⟩
  · exact lookup_isSome.mp (by decide +kernel)
  · exact lookup_eq_none.mp (isNone_iff_eq_none.mp (by decide +kernel))
  · exact lookup_isSome.mp (by decide +kernel)

end Mediasoup.Signaling
