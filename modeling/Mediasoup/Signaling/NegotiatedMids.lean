/-
The mids that the consumers of a user are created with.

An offer numbers its sections, and the number of a section is stored in the consumer that it
is for.  `videoVP8` stores it in a copy, so that a video consumer keeps the mid "1".

* `storedConsumer_negotiated` — what is stored after an offer,
* `negotiated_iff` — the stored mids are those of the sections, and differ, exactly if only
  the first user of the iteration has a video consumer,
* `notifyUser_mids_iff` — the same for a user of a room that is notified.
-/
import Mediasoup.Signaling.Subscriptions
import Mediasoup.Signaling.WorkerObjects

namespace Mediasoup.Signaling

open List AList Json
open Option (some.inj bind_eq_some_iff map_eq_some_iff)

theorem decimal_injective : Function.Injective decimal := by
  intro m n h
  calc
    m = Nat.ofDigitChars 10 (decimal m) 0 := Nat.ofDigitChars_ten_toDigits.symm
    _ = Nat.ofDigitChars 10 (decimal n) 0 := by rw [h]
    _ = n := Nat.ofDigitChars_ten_toDigits

/-! ### Maps that are written back -/

section WriteBack

variable {α : Type} {β : α → Type} [DecidableEq α]

theorem lookup_foldl_insert (entries : List (Sigma β)) (hnodup : entries.NodupKeys)
    (m : AList β) (k : α) : (entries.foldl (fun m entry => m.insert entry.1 entry.2) m).lookup k =
      (entries.dlookup k).or (m.lookup k) := by
  induction entries generalizing m with
  | nil => rfl
  | cons entry entries ih =>
    obtain ⟨k', v⟩ := entry
    rw [nodupKeys_cons] at hnodup
    rw [foldl_cons, ih hnodup.2]
    by_cases hk : k = k'
    · subst hk
      have hnone : entries.dlookup k = none := dlookup_eq_none.mpr hnodup.1
      rw [hnone, lookup_insert, dlookup_cons_eq]
      rfl
    · rw [lookup_insert_ne hk, dlookup_cons_ne _ _ hk]

end WriteBack

abbrev Consumers := AList fun _ : Text => AList fun _ : Letters => Consumer

def storedConsumer (consumers : Consumers) (userId : Text) (consumerId : Letters) :
    Option Consumer :=
  (consumers.lookup userId).bind fun remote => remote.lookup consumerId

/-- A consumer of user number `i`. -/
def Listed (listed : List Remote) (i : ℕ) (userId : Text) (consumerId : Letters)
    (consumer : Consumer) : Prop :=
  ∃ remote, listed[i]? = some remote ∧ remote.1 = userId ∧ ⟨consumerId, consumer⟩ ∈ remote.2

/-- The consumers are listed in some order. -/
structure Lists (listed : List Remote) (consumers : Consumers) : Prop where
  users : (listed.map Prod.fst).Nodup
  remotes : ∀ remote ∈ listed, ∃ stored, consumers.lookup remote.1 = some stored ∧
    remote.2.Perm stored.entries
  all : ∀ userId, userId ∈ consumers → userId ∈ listed.map Prod.fst

namespace Lists

variable {listed : List Remote} {consumers : Consumers}

theorem nodupKeys (h : Lists listed consumers) {remote : Remote} (hremote : remote ∈ listed) :
    remote.2.NodupKeys := by
  obtain ⟨stored, -, hperm⟩ := h.remotes remote hremote
  exact (perm_nodupKeys hperm).mpr stored.nodupKeys

theorem index_unique (h : Lists listed consumers) {i j : ℕ} {remote remote' : Remote}
    (hi : listed[i]? = some remote) (hj : listed[j]? = some remote')
    (huser : remote.1 = remote'.1) : i = j := by
  obtain ⟨hlt, -⟩ := List.getElem?_eq_some_iff.mp hi
  refine (List.getElem?_inj (by rwa [length_map]) h.users).mp ?_
  rw [List.getElem?_map, List.getElem?_map, hi, hj, Option.map_some, Option.map_some, huser]

end Lists

def renewedEntries (i : ℕ) (remote : Remote) : List (Sigma fun _ : Letters => Consumer) :=
  remote.2.map fun entry => ⟨entry.1, negotiated i entry.2⟩

/-- What an iteration of the loop leaves in the maps. -/
def writeBack (consumers : Consumers) (remote : Remote) : Consumers :=
  consumers.insert remote.1 (remote.2.foldl (fun inner entry => inner.insert entry.1 entry.2)
    ((consumers.lookup remote.1).getD ∅))

theorem lookup_writeBack_of_notMem (i : ℕ) (listed : List Remote) (consumers : Consumers)
    {userId : Text} (h : userId ∉ listed.map Prod.fst) :
    ((negotiatedFrom i listed).foldl writeBack consumers).lookup userId =
      consumers.lookup userId := by
  induction listed generalizing i consumers with
  | nil => rfl
  | cons remote listed ih =>
    rw [map_cons, mem_cons, not_or] at h
    rw [negotiatedFrom, foldl_cons, ih (i + 1) _ h.2, writeBack, lookup_insert_ne h.1]

theorem lookup_writeBack (i : ℕ) (listed : List Remote) (consumers : Consumers) {j : ℕ}
    {remote : Remote} (hnodup : (listed.map Prod.fst).Nodup) (hj : listed[j]? = some remote) :
    ((negotiatedFrom i listed).foldl writeBack consumers).lookup remote.1 =
      some ((renewedEntries (i + j) remote).foldl (fun inner entry => inner.insert entry.1 entry.2)
        ((consumers.lookup remote.1).getD ∅)) := by
  induction listed generalizing i j consumers with
  | nil => cases hj
  | cons first listed ih =>
    rw [map_cons, nodup_cons] at hnodup
    rw [negotiatedFrom, foldl_cons]
    cases j with
    | zero =>
      obtain rfl : first = remote := some.inj hj
      rw [lookup_writeBack_of_notMem (i + 1) listed _ hnodup.1, writeBack, lookup_insert]
      rfl
    | succ j =>
      have hne : remote.1 ≠ first.1 := by
        rintro heq
        exact hnodup.1 (heq ▸ mem_map_of_mem (mem_of_getElem? hj))
      rw [ih (i + 1) _ hnodup.2 hj, writeBack, lookup_insert_ne hne,
        Nat.add_right_comm i 1 j, Nat.add_assoc]

variable {i : ℕ} {listed : List Remote} {consumer : Consumer} {lines : List SdpLine}

/-- **What is stored** after an offer: each consumer with the mid that its user's number gives. -/
theorem storedConsumer_negotiated {consumers : Consumers} (h : Lists listed consumers)
    (userId : Text) (consumerId : Letters) (c : Consumer) :
    storedConsumer (negotiatedConsumers listed consumers) userId consumerId = some c ↔
      ∃ i consumer, Listed listed i userId consumerId consumer ∧ c = negotiated i consumer := by
  show (((negotiatedFrom 0 listed).foldl writeBack consumers).lookup userId).bind _ = _ ↔ _
  by_cases huser : userId ∈ listed.map Prod.fst
  · obtain ⟨remote, hremote, rfl⟩ := mem_map.mp huser
    obtain ⟨j, hj⟩ := mem_iff_getElem?.mp hremote
    obtain ⟨stored, hstored, hperm⟩ := h.remotes remote hremote
    have hkeys := h.nodupKeys hremote
    have hsame : (renewedEntries j remote).keys = remote.2.keys := by
      rw [renewedEntries, List.keys, map_map]
      rfl
    have hrenewed : (renewedEntries j remote).NodupKeys := by
      rw [List.NodupKeys, hsame]
      exact hkeys
    have hmem : ⟨consumerId, c⟩ ∈ renewedEntries j remote ↔
        ∃ consumer, ⟨consumerId, consumer⟩ ∈ remote.2 ∧ c = negotiated j consumer := by
      simp [renewedEntries, Sigma.exists, eq_comm]
    rw [lookup_writeBack 0 listed consumers h.users hj, hstored, Option.bind_some, Nat.zero_add,
      Option.getD_some, lookup_foldl_insert _ hrenewed]
    -- a consumer that is stored is written again
    have hor : ((renewedEntries j remote).dlookup consumerId).or (stored.lookup consumerId) =
        (renewedEntries j remote).dlookup consumerId := by
      cases hlookup : (renewedEntries j remote).dlookup consumerId with
      | some c' => rfl
      | none =>
        have hnone : consumerId ∉ remote.2.keys := hsame ▸ dlookup_eq_none.mp hlookup
        refine dlookup_eq_none.mpr fun hmem => hnone ?_
        exact (hperm.map Sigma.fst).mem_iff.mpr hmem
    rw [hor, ← Option.mem_def, mem_dlookup_iff hrenewed, hmem]
    constructor
    · rintro ⟨consumer, hentry, rfl⟩
      exact ⟨j, consumer, ⟨remote, hj, rfl, hentry⟩, rfl⟩
    · rintro ⟨i, consumer, ⟨remote', hi, hid, hentry⟩, rfl⟩
      obtain rfl := h.index_unique hi hj hid
      obtain rfl := some.inj (hi.symm.trans hj)
      exact ⟨consumer, hentry, rfl⟩
  · rw [lookup_writeBack_of_notMem 0 listed consumers huser]
    have hnone : consumers.lookup userId = none :=
      lookup_eq_none.mpr fun hmem => huser (h.all userId hmem)
    rw [hnone]
    refine iff_of_false (by simp) ?_
    rintro ⟨i, consumer, ⟨remote, hi, rfl, -⟩, -⟩
    exact huser (mem_map_of_mem (mem_of_getElem? hi))

theorem lists_remotes (env : Env) (consumer : ConsumerTransport) :
    Lists (Server.remotes env consumer i) consumer.consumers := by
  have hperm := env.order_perm i consumer.consumers.entries
  have husers : (Server.remotes env consumer i).map Prod.fst =
      (env.order i consumer.consumers.entries).keys := by
    refine ext_getElem? fun j => ?_
    rw [Server.remotes, List.keys, List.getElem?_map, List.getElem?_map, List.getElem?_mapIdx,
      Option.map_map]
    rfl
  refine ⟨?_, fun remote hremote => ?_, fun userId huser => ?_⟩
  · rw [husers]
    exact ((perm_nodupKeys hperm).mpr consumer.consumers.nodupKeys)
  · obtain ⟨j, hj, rfl⟩ := mem_mapIdx.mp hremote
    have hentry := hperm.mem_iff.mp (getElem_mem hj)
    exact ⟨_, mem_lookup_iff.mpr hentry, env.order_perm _ _⟩
  · rw [husers]
    exact (hperm.map Sigma.fst).mem_iff.mpr huser

/-! ### Sections and their consumers -/

/-- A section has a line for this SSRC. -/
def Carries (lines : List SdpLine) (source : UInt32) : Prop :=
  ∃ detail, SdpLine.ssrc source detail ∈ lines

/-- The section of a consumer of user number `i`. -/
def IsSection (p : OfferSettings) (i : ℕ) (consumer : Consumer) (lines : List SdpLine) : Prop :=
  ∃ encoding rest, consumer.rtpParameters.encodings = encoding :: rest ∧
    lines = if consumer.isAudio then p.audio i consumer encoding
      else p.videoVP8 i consumer encoding

variable {p : OfferSettings}

/-- The mid in the section of a consumer. -/
def sectionMid (i : ℕ) (consumer : Consumer) : ℕ := if consumer.isAudio then 2 * i else 2 * i + 1

theorem IsSection.midsOf_eq (h : IsSection p i consumer lines) :
    midsOf [lines] = [sectionMid i consumer] := by
  obtain ⟨encoding, rest, -, rfl⟩ := h
  rw [sectionMid]
  split_ifs
  · exact midsOf_audio i consumer encoding
  · exact midsOf_videoVP8 i consumer encoding

theorem IsSection.carries (h : IsSection p i consumer lines) : ∃ encoding rest,
      consumer.rtpParameters.encodings = encoding :: rest ∧ Carries lines encoding.ssrc := by
  obtain ⟨encoding, rest, hencodings, rfl⟩ := h
  refine ⟨encoding, rest, hencodings, "cname:".toList ++ consumer.rtpParameters.rtcp.cname, ?_⟩
  split_ifs
  · simp [OfferSettings.audio]
  · simp [OfferSettings.videoVP8]

theorem foldlM_addSection_sections (entries : List (Sigma fun _ : Letters => Consumer))
    {sections : List (List SdpLine) × List (List SdpLine)} {audio video : List (List SdpLine)}
    (h : entries.foldlM (fun sections entry => addSection p i sections entry.2) sections =
      some (audio, video)) : (∀ lines, lines ∈ audio ↔ lines ∈ sections.1 ∨
      ∃ entry ∈ entries, isAudioEntry entry ∧ IsSection p i entry.2 lines) ∧
    (video = sections.2 ∧ (∀ entry ∈ entries, isAudioEntry entry) ∨
      ∃ entry ∈ entries, isVideoEntry entry ∧ ∃ lines, IsSection p i entry.2 lines ∧
        video = [lines]) := by
  induction entries generalizing sections with
  | nil =>
    obtain rfl := some.inj h
    exact ⟨fun lines => by simp, .inl ⟨rfl, by simp⟩⟩
  | cons entry entries ih =>
    rw [foldlM_cons] at h
    obtain ⟨next, hnext, hrest⟩ := bind_eq_some_iff.mp h
    obtain ⟨haudio, hvideo⟩ := ih hrest
    rw [addSection] at hnext
    cases hencodings : entry.2.rtpParameters.encodings with
    | nil =>
      rw [hencodings] at hnext
      cases hnext
    | cons encoding rest =>
      rw [hencodings] at hnext
      by_cases hkind : entry.2.isAudio
      · -- the section is added
        simp only [if_pos hkind] at hnext
        obtain rfl := some.inj hnext
        have hself : ∀ lines, IsSection p i entry.2 lines ↔ lines = p.audio i entry.2 encoding := by
          intro lines
          simp [IsSection, hencodings, hkind]
        refine ⟨fun lines => ?_, ?_⟩
        · rw [haudio, mem_append, mem_singleton, exists_mem_cons_iff, hself,
            or_assoc]
          simp [isAudioEntry, hkind]
        · rcases hvideo with ⟨hsame, hall⟩ | ⟨e, he, hlast⟩
          · exact .inl ⟨hsame, forall_mem_cons.mpr ⟨hkind, hall⟩⟩
          · exact .inr ⟨e, mem_cons_of_mem entry he, hlast⟩
      · -- the section replaces the one before it
        simp only [if_neg hkind] at hnext
        obtain rfl := some.inj hnext
        refine ⟨fun lines => ?_, .inr ?_⟩
        · rw [haudio, exists_mem_cons_iff]
          simp [isAudioEntry, hkind]
        · rcases hvideo with ⟨hsame, -⟩ | ⟨e, he, hlast⟩
          · refine ⟨entry, mem_cons_self, by simpa [isVideoEntry] using hkind, _,
              ⟨encoding, rest, hencodings, ?_⟩, hsame⟩
            rw [if_neg hkind]
          · exact ⟨e, mem_cons_of_mem entry he, hlast⟩

theorem exists_listed_of_mem {sections : List (List SdpLine)}
    (h : sectionsFrom p i listed = some sections) (hlines : lines ∈ sections) :
    ∃ j userId consumerId consumer, Listed listed j userId consumerId consumer ∧
      IsSection p (i + j) consumer lines := by
  induction listed generalizing i sections with
  | nil =>
    obtain rfl := some.inj h
    cases hlines
  | cons remote listed ih =>
    rw [sectionsFrom] at h
    obtain ⟨⟨audio, video⟩, hfold, hrest⟩ := bind_eq_some_iff.mp h
    obtain ⟨later, hlater, hpure⟩ := bind_eq_some_iff.mp hrest
    obtain rfl := some.inj hpure
    obtain ⟨haudio, hvideo⟩ := foldlM_addSection_sections remote.2 hfold
    have hhere : ∀ entry ∈ remote.2, Listed (remote :: listed) 0 remote.1 entry.1 entry.2 :=
      fun entry hentry => ⟨remote, rfl, rfl, hentry⟩
    rcases mem_append.mp hlines with hlines | hlines
    · rcases mem_append.mp hlines with hlines | hlines
      · obtain hnil | ⟨entry, hentry, -, hsection⟩ := (haudio lines).mp hlines
        · cases hnil
        · exact ⟨0, remote.1, entry.1, entry.2, hhere entry hentry, hsection⟩
      · rcases hvideo with ⟨rfl, -⟩ | ⟨entry, hentry, -, lines', hsection, rfl⟩
        · cases hlines
        · obtain rfl := mem_singleton.mp hlines
          exact ⟨0, remote.1, entry.1, entry.2, hhere entry hentry, hsection⟩
    · obtain ⟨j, userId, consumerId, consumer, hlisted, hsection⟩ := ih hlater hlines
      refine ⟨j + 1, userId, consumerId, consumer, hlisted, ?_⟩
      rwa [Nat.add_assoc, Nat.add_comm 1 j] at hsection

/-- A user of the list has at most one consumer of a kind. -/
def SingleKinds (listed : List Remote) : Prop :=
  ∀ i userId consumerId c consumerId' c', Listed listed i userId consumerId c →
    Listed listed i userId consumerId' c' → c.isAudio = c'.isAudio → consumerId = consumerId'

theorem exists_section_of_listed {sections : List (List SdpLine)}
    (h : sectionsFrom p i listed = some sections) (hsingle : SingleKinds listed)
    (hkeys : ∀ remote ∈ listed, remote.2.NodupKeys) {j : ℕ} {userId : Text} {consumerId : Letters}
    (hlisted : Listed listed j userId consumerId consumer) :
    ∃ lines ∈ sections, IsSection p (i + j) consumer lines := by
  induction listed generalizing i j sections with
  | nil =>
    obtain ⟨remote, hremote, -⟩ := hlisted
    cases hremote
  | cons remote listed ih =>
    have hencoded := encoded_of_sectionsFrom h remote mem_cons_self
    rw [sectionsFrom] at h
    obtain ⟨⟨audio, video⟩, hfold, hrest⟩ := bind_eq_some_iff.mp h
    obtain ⟨later, hlater, hpure⟩ := bind_eq_some_iff.mp hrest
    obtain rfl := some.inj hpure
    obtain ⟨haudio, hvideo⟩ := foldlM_addSection_sections remote.2 hfold
    obtain ⟨remote', hremote', huser, hentry⟩ := hlisted
    cases j with
    | zero =>
      obtain rfl := some.inj hremote'
      by_cases hkind : consumer.isAudio
      · obtain ⟨encoding, rest, hencodings⟩ := exists_cons_of_ne_nil (hencoded _ hentry)
        have hsection : IsSection p i consumer (p.audio i consumer encoding) :=
          ⟨encoding, rest, hencodings, by rw [if_pos hkind]⟩
        exact ⟨_, mem_append_left _ (mem_append_left _
          ((haudio _).mpr (.inr ⟨_, hentry, hkind, hsection⟩))), hsection⟩
      · rcases hvideo with ⟨-, hall⟩ | ⟨⟨id, c⟩, hentry', hkind', lines, hsection, rfl⟩
        · exact absurd (hall _ hentry) hkind
        -- the video section that is left is that of the only video consumer
        have hsame : consumer.isAudio = c.isAudio := by
          rw [Bool.eq_false_iff.mpr hkind]
          simpa [isVideoEntry] using hkind'.symm
        obtain rfl := hsingle 0 remote.1 consumerId consumer id c ⟨remote, rfl, rfl, hentry⟩
          ⟨remote, rfl, rfl, hentry'⟩ hsame
        obtain rfl := (hkeys remote mem_cons_self).eq_of_mk_mem hentry hentry'
        exact ⟨lines, mem_append_left _ (mem_append_right _
          (mem_singleton.mpr rfl)), hsection⟩
    | succ j =>
      obtain ⟨lines, hlines, hsection⟩ := ih hlater
        (fun i u k c k' c' hc hc' => hsingle (i + 1) u k c k' c' hc hc')
        (fun r hr => hkeys r (mem_cons_of_mem _ hr)) ⟨remote', hremote', huser, hentry⟩
      refine ⟨lines, mem_append_right _ hlines, ?_⟩
      rwa [Nat.add_assoc, Nat.add_comm 1 j] at hsection

/-! ### Stored mids and negotiated mids -/

/-- Each stored consumer has the mid of a section with its SSRC, and no two share a mid. -/
structure Negotiated (sdp : DownOffer) (consumers : Consumers) : Prop where
  mids : ∀ userId consumerId c, storedConsumer consumers userId consumerId = some c →
    ∃ encoding rest, c.rtpParameters.encodings = encoding :: rest ∧
      ∃ lines ∈ sdp.sections, Carries lines encoding.ssrc ∧
        ∃ n, midsOf [lines] = [n] ∧ c.rtpParameters.mid = decimal n
  distinct : ∀ userId consumerId c userId' consumerId' c',
    storedConsumer consumers userId consumerId = some c →
    storedConsumer consumers userId' consumerId' = some c' →
    c.rtpParameters.mid = c'.rtpParameters.mid → userId = userId' ∧ consumerId = consumerId'

/-- Each consumer has an encoding, no user has two of a kind, and only the first user of the
iteration has a video consumer. -/
structure Separable (listed : List Remote) : Prop where
  encoded : ∀ i userId consumerId c, Listed listed i userId consumerId c →
    c.rtpParameters.encodings ≠ []
  single : SingleKinds listed
  videoFirst : ∀ i userId consumerId c, Listed listed i userId consumerId c →
    c.isAudio = false → i = 0

/-- The mid that is stored for a consumer of user number `i`. -/
def storedMid (i : ℕ) (consumer : Consumer) : ℕ := if consumer.isAudio then 2 * i else 1

theorem mid_negotiated (h : ¬consumer.isAudio → consumer.rtpParameters.mid = "1".toList) :
    (negotiated i consumer).rtpParameters.mid = decimal (storedMid i consumer) := by
  rw [negotiated, storedMid]
  by_cases hkind : consumer.isAudio
  · rw [if_pos hkind, if_pos hkind]
  · rw [if_neg hkind, if_neg hkind, h hkind]
    rfl

theorem encodings_negotiated (i : ℕ) (consumer : Consumer) :
    (negotiated i consumer).rtpParameters.encodings = consumer.rtpParameters.encodings := by
  rw [negotiated]
  split_ifs
  · rfl
  · rfl

/-- **The stored mids are the negotiated ones** exactly if the list is separable: a video
consumer keeps the mid "1", which only the first user's video section has. -/
theorem negotiated_iff {consumers : Consumers} (h : Lists listed consumers)
    (hmid : ∀ i userId consumerId c, Listed listed i userId consumerId c →
      ¬c.isAudio → c.rtpParameters.mid = "1".toList) :
    (∃ sdp, generateDownOfferSdp p listed = some sdp ∧
      Negotiated sdp (negotiatedConsumers listed consumers)) ↔ Separable listed := by
  have hstored : ∀ {i userId consumerId c}, Listed listed i userId consumerId c →
      storedConsumer (negotiatedConsumers listed consumers) userId consumerId =
        some (negotiated i c) := fun {i userId consumerId c} hlisted =>
    (storedConsumer_negotiated h userId consumerId _).mpr ⟨i, c, hlisted, rfl⟩
  have hmids : ∀ {i userId consumerId c}, Listed listed i userId consumerId c →
      (negotiated i c).rtpParameters.mid = decimal (storedMid i c) := fun hlisted =>
    mid_negotiated (hmid _ _ _ _ hlisted)
  constructor
  · rintro ⟨sdp, hsdp, hnegotiated⟩
    obtain ⟨sections, hsections, hpure⟩ := bind_eq_some_iff.mp hsdp
    obtain rfl := some.inj hpure
    refine ⟨fun i userId consumerId c hlisted => ?_,
      fun i userId consumerId c consumerId' c' hlisted hlisted' hkind => ?_,
      fun i userId consumerId c hlisted hkind => ?_⟩
    · obtain ⟨remote, hremote, -, hentry⟩ := hlisted
      exact encoded_of_sectionsFrom hsections remote (mem_of_getElem? hremote) _ hentry
    · -- both would have the same mid
      refine (hnegotiated.distinct _ _ _ _ _ _ (hstored hlisted) (hstored hlisted') ?_).2
      rw [hmids hlisted, hmids hlisted', storedMid, storedMid, hkind]
    · -- the mid "1" is that of the first user's video section
      obtain ⟨-, -, -, lines, hlines, -, n, hn, hmid'⟩ :=
        hnegotiated.mids _ _ _ (hstored hlisted)
      obtain ⟨j, userId', consumerId', c', hlisted', hsection⟩ :=
        exists_listed_of_mem hsections hlines
      rw [hmids hlisted, storedMid, hkind, if_neg Bool.false_ne_true] at hmid'
      rw [hsection.midsOf_eq, Nat.zero_add] at hn
      have hone : sectionMid j c' = 1 :=
        (List.cons.inj hn).1.trans (decimal_injective hmid').symm
      rw [sectionMid] at hone
      split_ifs at hone with hkind'
      · omega
      obtain rfl : j = 0 := by omega
      have hsame : (negotiated i c).rtpParameters.mid = (negotiated 0 c').rtpParameters.mid := by
        rw [hmids hlisted, hmids hlisted', storedMid, storedMid, hkind,
          if_neg Bool.false_ne_true, if_neg hkind']
      obtain ⟨rfl, -⟩ := hnegotiated.distinct _ _ _ _ _ _ (hstored hlisted) (hstored hlisted')
        hsame
      obtain ⟨remote, hremote, huser, -⟩ := hlisted
      obtain ⟨remote', hremote', huser', -⟩ := hlisted'
      exact h.index_unique hremote hremote' (huser.trans huser'.symm)
  · intro hseparable
    have hencoded : ∀ remote ∈ listed, remote.Encoded := by
      intro remote hremote entry hentry
      obtain ⟨i, hi⟩ := mem_iff_getElem?.mp hremote
      exact hseparable.encoded i remote.1 entry.1 entry.2 ⟨remote, hi, rfl, hentry⟩
    obtain ⟨sections, hsections, -⟩ := @sectionsFrom_of_encoded p 0 listed hencoded
    refine ⟨_, by rw [generateDownOfferSdp, hsections]; rfl, ?_, ?_⟩
    · intro userId consumerId c hc
      obtain ⟨i, consumer, hlisted, rfl⟩ := (storedConsumer_negotiated h _ _ _).mp hc
      obtain ⟨lines, hlines, hsection⟩ :=
        exists_section_of_listed hsections hseparable.single (fun _ => h.nodupKeys) hlisted
      rw [Nat.zero_add] at hsection
      obtain ⟨encoding, rest, hencodings, hcarries⟩ := hsection.carries
      refine ⟨encoding, rest, (encodings_negotiated i consumer).trans hencodings, lines, hlines,
        hcarries, _, hsection.midsOf_eq, ?_⟩
      rw [hmids hlisted, storedMid, sectionMid]
      by_cases hkind : consumer.isAudio
      · rw [if_pos hkind, if_pos hkind]
      · obtain rfl := hseparable.videoFirst i _ _ _ hlisted (Bool.eq_false_iff.mpr hkind)
        rw [if_neg hkind]
    · intro userId consumerId c userId' consumerId' c' hc hc' hsame
      obtain ⟨i, consumer, hlisted, rfl⟩ := (storedConsumer_negotiated h _ _ _).mp hc
      obtain ⟨i', consumer', hlisted', rfl⟩ := (storedConsumer_negotiated h _ _ _).mp hc'
      rw [hmids hlisted, hmids hlisted'] at hsame
      have heq := decimal_injective hsame
      -- equal mids are those of the same user and kind
      obtain ⟨rfl, hkind⟩ : i = i' ∧ consumer.isAudio = consumer'.isAudio := by
        rw [storedMid, storedMid] at heq
        split_ifs at heq with hkind hkind' hkind'
        · exact ⟨by omega, hkind.trans hkind'.symm⟩
        · omega
        · omega
        · rw [Bool.not_eq_true] at hkind hkind'
          exact ⟨(hseparable.videoFirst i _ _ _ hlisted hkind).trans
            (hseparable.videoFirst i' _ _ _ hlisted' hkind').symm, hkind.trans hkind'.symm⟩
      have huser : userId = userId' := by
        obtain ⟨remote, hremote, rfl, -⟩ := hlisted
        obtain ⟨remote', hremote', rfl, -⟩ := hlisted'
        rw [some.inj (hremote.symm.trans hremote')]
      subst huser
      exact ⟨rfl, hseparable.single i userId _ _ _ _ hlisted hlisted' hkind⟩

theorem separable_iff : Separable listed ↔ (∀ remote ∈ listed, remote.Encoded) ∧
    (∀ remote ∈ listed, ∀ entry ∈ remote.2, ∀ entry' ∈ remote.2,
      isAudioEntry entry = isAudioEntry entry' → entry.1 = entry'.1) ∧
    ∀ remote ∈ listed.tail, ∀ entry ∈ remote.2, isAudioEntry entry := by
  constructor
  · intro h
    refine ⟨fun remote hremote entry hentry => ?_,
      fun remote hremote entry hentry entry' hentry' => ?_, fun remote hremote entry hentry => ?_⟩
    · obtain ⟨i, hi⟩ := mem_iff_getElem?.mp hremote
      exact h.encoded i remote.1 entry.1 entry.2 ⟨remote, hi, rfl, hentry⟩
    · obtain ⟨i, hi⟩ := mem_iff_getElem?.mp hremote
      exact h.single i remote.1 entry.1 entry.2 entry'.1 entry'.2 ⟨remote, hi, rfl, hentry⟩
        ⟨remote, hi, rfl, hentry'⟩
    · obtain ⟨i, hi⟩ := mem_iff_getElem?.mp hremote
      rw [List.getElem?_tail] at hi
      by_contra hkind
      exact absurd (h.videoFirst (i + 1) remote.1 entry.1 entry.2 ⟨remote, hi, rfl, hentry⟩
        (Bool.eq_false_iff.mpr hkind)) (Nat.succ_ne_zero i)
  · rintro ⟨hencoded, hsingle, htail⟩
    refine ⟨?_, ?_, ?_⟩
    · rintro i _ consumerId c ⟨remote, hi, rfl, hentry⟩
      exact hencoded remote (mem_of_getElem? hi) _ hentry
    · rintro i _ consumerId c consumerId' c' ⟨remote, hi, rfl, hentry⟩ ⟨remote', hi', -, hentry'⟩
      obtain rfl := some.inj (hi.symm.trans hi')
      exact hsingle remote (mem_of_getElem? hi) _ hentry _ hentry'
    · rintro i _ consumerId c ⟨remote, hi, rfl, hentry⟩ hkind
      by_contra hne
      obtain ⟨j, rfl⟩ := Nat.exists_eq_succ_of_ne_zero hne
      rw [← List.getElem?_tail] at hi
      have haudio : c.isAudio = true := htail remote (mem_of_getElem? hi) _ hentry
      rw [hkind] at haudio
      cases haudio

instance (listed : List Remote) : Decidable (Separable listed) :=
  decidable_of_iff _ separable_iff.symm

namespace Server

variable (env : Env)

/-! ### The consumers that are created -/

theorem mem_requests_consumeAll (s : Server) (consumer : ConsumerTransport) (request : Request) :
    request ∈ (s.consumeAll env consumer).requests ↔ request ∈ s.requests ∨
      ∃ userId consumerId c, storedConsumer consumer.consumers userId consumerId = some c ∧
        (request = .consume consumer.transportId c ∨ request = .resume c.consumerId) := by
  -- the order of the iteration does not matter for what is written
  have hloop : ∀ (remotes : List (Sigma fun _ : Text => AList fun _ : Letters => Consumer))
      (s : Server), request ∈ (remotes.foldl (fun s remote =>
        writeAll { s with choices := s.choices + 1 }
          ((env.order s.choices remote.2.entries).flatMap fun entry =>
            [.consume consumer.transportId entry.2, .resume entry.2.consumerId])) s).requests ↔
      request ∈ s.requests ∨ ∃ remote ∈ remotes, ∃ consumerId c,
        remote.2.lookup consumerId = some c ∧
          (request = .consume consumer.transportId c ∨ request = .resume c.consumerId) := by
    intro remotes
    induction remotes with
    | nil => simp
    | cons remote remotes ih =>
      intro s
      rw [foldl_cons, ih, exists_mem_cons_iff, ← or_assoc]
      refine or_congr_left ?_
      rw [requests_writeAll, mem_append, mem_flatMap]
      refine or_congr_right ?_
      simp [(env.order_perm _ _).mem_iff, ← mem_lookup_iff]
  refine (hloop _ _).trans (or_congr_right ?_)
  simp only [(env.order_perm _ _).mem_iff, Sigma.exists, ← mem_lookup_iff, storedConsumer,
    bind_eq_some_iff, Option.mem_def]
  grind

variable {s : Server} {roomId : Text} {listed : List Remote} {consumers : Consumers} {userId : Text}

theorem processDownAnswerSdp_consumes {s' : Server} {answer : SdpRequest} {user : User}
    (huser : s.user answer.roomId answer.userId = some user)
    (hs' : s.processDownAnswerSdp env answer = .ok s') (transportId : Letters) (c : Consumer) :
    .consume transportId c ∈ s'.requests ↔ .consume transportId c ∈ s.requests ∨
      transportId = user.consumer.transportId ∧ ∃ userId consumerId,
        storedConsumer user.consumer.consumers userId consumerId = some c := by
  rw [processDownAnswerSdp, huser] at hs'
  cases hfinger : getFingerNameContent answer.sdp with
  | none =>
    simp only [hfinger] at hs'
    cases hs'
  | some finger =>
    simp only [hfinger] at hs'
    cases hs'
    rw [mem_requests_consumeAll, requests_write, mem_append, mem_singleton]
    simp only [reduceCtorEq, or_false]
    refine or_congr_right ?_
    simp [and_comm]

/-! ### A user that is notified -/

/-- The state from which the offer to a user is generated. -/
def beforeOffer (s : Server) (roomId userId : Text) : Server :=
  match s.roomMap.lookup roomId, s.user roomId userId with
  | some room, some user => renewConsumers env roomId s room userId user
  | _, _ => s

/-- The consumers in the order in which that offer lists them. -/
def offered (s : Server) (roomId userId : Text) : List Remote :=
  (s.beforeOffer env roomId userId).listing env roomId userId

/-- Another user of the room has this producer. -/
def Produces (s : Server) (roomId userId otherUserId : Text) (producerId : Letters)
    (outline : Text × Bool) : Prop :=
  otherUserId ≠ userId ∧ ∃ profile, s.profile roomId otherUserId = some profile ∧
    profile.producers producerId = some outline

/-- The producers of the other users have encodings, nobody has two of a kind, and only the
user that the offer lists first has a video producer. -/
structure OneVideo (s : Server) (roomId userId : Text) (first : Option Text) : Prop where
  encoded : ∀ other producerId outline,
    s.Produces roomId userId other producerId outline → outline.2 = false
  single : ∀ other producerId outline producerId' outline',
    s.Produces roomId userId other producerId outline →
    s.Produces roomId userId other producerId' outline' →
    (outline.1 = "audio".toList ↔ outline'.1 = "audio".toList) → producerId = producerId'
  videoFirst : ∀ other producerId outline,
    s.Produces roomId userId other producerId outline → outline.1 ≠ "audio".toList →
    first = some other

/-- The consumers in the list and the producers of the other users. -/
structure Matches (s : Server) (roomId userId : Text) (listed : List Remote) : Prop where
  drawn : ∀ i other consumerId c, Listed listed i other consumerId c →
    s.Produces roomId userId other c.producerId (c.kind, c.rtpParameters.encodings.isEmpty)
  mid : ∀ i other consumerId c, Listed listed i other consumerId c →
    ¬c.isAudio → c.rtpParameters.mid = "1".toList
  single : ∀ i other consumerId c i' consumerId' c', Listed listed i other consumerId c →
    Listed listed i' other consumerId' c' → c.producerId = c'.producerId → consumerId = consumerId'

def Complete (s : Server) (roomId userId : Text) (listed : List Remote) : Prop :=
  ∀ other producerId outline, s.Produces roomId userId other producerId outline →
    ∃ i consumerId c, Listed listed i other consumerId c ∧ c.producerId = producerId

theorem listed_iff_stored (h : Lists listed consumers) (consumerId : Letters)
    (c : Consumer) : (∃ i, Listed listed i userId consumerId c) ↔
      storedConsumer consumers userId consumerId = some c := by
  constructor
  · rintro ⟨i, remote, hi, rfl, hentry⟩
    obtain ⟨stored, hstored, hperm⟩ := h.remotes remote (mem_of_getElem? hi)
    exact bind_eq_some_iff.mpr
      ⟨stored, hstored, mem_lookup_iff.mpr (hperm.mem_iff.mp hentry)⟩
  · intro hc
    obtain ⟨stored, hstored, hlookup⟩ := bind_eq_some_iff.mp hc
    have huser := h.all userId (lookup_isSome.mp (by rw [hstored]; rfl))
    obtain ⟨remote, hremote, rfl⟩ := mem_map.mp huser
    obtain ⟨i, hi⟩ := mem_iff_getElem?.mp hremote
    obtain ⟨stored', hstored', hperm⟩ := h.remotes remote hremote
    obtain rfl := some.inj (hstored.symm.trans hstored')
    exact ⟨i, remote, hi, rfl, hperm.mem_iff.mpr (mem_lookup_iff.mp hlookup)⟩

theorem matches_of_subscribes {s₁ : Server} {consumer : ConsumerTransport}
    (h : Subscribes env s s₁ roomId userId consumer) (hlists : Lists listed consumer.consumers) :
    Matches s roomId userId listed := by
  have hstored : ∀ {i other consumerId c}, Listed listed i other consumerId c →
      ∃ consumers, consumer.consumers.lookup other = some consumers ∧
        consumers.lookup consumerId = some c := fun hlisted =>
    bind_eq_some_iff.mp ((listed_iff_stored hlists _ _).mp ⟨_, hlisted⟩)
  refine ⟨fun i other consumerId c hlisted => ?_, fun i other consumerId c hlisted => ?_,
    fun i other consumerId c i' consumerId' c' hlisted hlisted' hsame => ?_⟩
  · obtain ⟨consumers, hlookup, hc⟩ := hstored hlisted
    obtain ⟨hne, profile, producerIds, hprofile, -, hstocked⟩ := h.stocked other consumers hlookup
    exact ⟨hne, profile, hprofile, (hstocked.drawn consumerId c hc).1.producer⟩
  · obtain ⟨consumers, hlookup, hc⟩ := hstored hlisted
    obtain ⟨-, profile, producerIds, -, -, hstocked⟩ := h.stocked other consumers hlookup
    exact (hstocked.drawn consumerId c hc).1.mid
  · obtain ⟨consumers, hlookup, hc⟩ := hstored hlisted
    obtain ⟨consumers', hlookup', hc'⟩ := hstored hlisted'
    obtain rfl := some.inj (hlookup.symm.trans hlookup')
    obtain ⟨-, profile, producerIds, -, -, hstocked⟩ := h.stocked other consumers hlookup
    exact hstocked.single consumerId c consumerId' c' hc hc' hsame

theorem complete_of_subscribes {s₁ : Server} {consumer : ConsumerTransport}
    (h : Subscribes env s s₁ roomId userId consumer)
    (hall : ∀ u, u ≠ userId → (s.profile roomId u).isSome → u ∈ consumer.consumers)
    (hlists : Lists listed consumer.consumers)
    (hfresh : Set.InjOn env.randStringBytes (Set.Ico s.choices s₁.choices)) :
    Complete s roomId userId listed := by
  rintro other producerId outline ⟨hne, profile, hprofile, hproducer⟩
  obtain ⟨consumers, hlookup⟩ := Option.isSome_iff_exists.mp
    (lookup_isSome.mpr (hall other hne (by rw [hprofile]; rfl)))
  obtain ⟨-, profile', producerIds, hprofile', hmem, hstocked⟩ := h.stocked other consumers hlookup
  obtain rfl := some.inj (hprofile.symm.trans hprofile')
  obtain ⟨consumerId, c, hc, hid⟩ :=
    hstocked.all hfresh producerId ((hmem producerId).mpr (by rw [hproducer]; rfl))
  obtain ⟨i, hlisted⟩ := (listed_iff_stored hlists consumerId c).mpr
    (bind_eq_some_iff.mpr ⟨consumers, hlookup, hc⟩)
  exact ⟨i, consumerId, c, hlisted, hid⟩

theorem separable_iff_oneVideo (hlists : Lists listed consumers)
    (hmatches : Matches s roomId userId listed) (hcomplete : Complete s roomId userId listed) :
    Separable listed ↔ s.OneVideo roomId userId (listed.head?.map Prod.fst) := by
  have hkind : ∀ c : Consumer, c.isAudio ↔ c.kind = "audio".toList := fun c => decide_eq_true_iff
  -- a producer has the outline of its consumer
  have hconsumer : ∀ other producerId outline, s.Produces roomId userId other producerId outline →
      ∃ i consumerId c, Listed listed i other consumerId c ∧ c.producerId = producerId ∧
        outline = (c.kind, c.rtpParameters.encodings.isEmpty) := by
    intro other producerId outline hproduces
    obtain ⟨i, consumerId, c, hlisted, rfl⟩ := hcomplete other producerId outline hproduces
    obtain ⟨-, profile, hprofile, hproducer⟩ := hproduces
    obtain ⟨-, profile', hprofile', hproducer'⟩ := hmatches.drawn i other consumerId c hlisted
    obtain rfl := some.inj (hprofile.symm.trans hprofile')
    exact ⟨i, consumerId, c, hlisted, rfl, some.inj (hproducer.symm.trans hproducer')⟩
  have hfirst : ∀ i other consumerId c, Listed listed i other consumerId c →
      (i = 0 ↔ listed.head?.map Prod.fst = some other) := by
    rintro i _ consumerId c ⟨remote, hi, rfl, -⟩
    rw [List.head?_eq_getElem?]
    constructor
    · rintro rfl
      rw [hi]
      rfl
    · intro hhead
      obtain ⟨remote', hremote', huser⟩ := map_eq_some_iff.mp hhead
      exact hlists.index_unique hi hremote' huser.symm
  constructor
  · intro h
    refine ⟨fun other producerId outline hproduces => ?_,
      fun other producerId outline producerId' outline' hproduces hproduces' hsame => ?_,
      fun other producerId outline hproduces hvideo => ?_⟩
    · obtain ⟨i, consumerId, c, hlisted, -, rfl⟩ := hconsumer _ _ _ hproduces
      exact isEmpty_eq_false_iff.mpr (h.encoded i other consumerId c hlisted)
    · obtain ⟨i, consumerId, c, hlisted, rfl, rfl⟩ := hconsumer _ _ _ hproduces
      obtain ⟨i', consumerId', c', hlisted', rfl, rfl⟩ := hconsumer _ _ _ hproduces'
      obtain ⟨remote, hi, huser, hentry⟩ := hlisted
      obtain ⟨remote', hi', huser', hentry'⟩ := hlisted'
      obtain rfl := hlists.index_unique hi hi' (huser.trans huser'.symm)
      obtain rfl := some.inj (hi.symm.trans hi')
      obtain rfl := h.single i other consumerId c consumerId' c' ⟨remote, hi, huser, hentry⟩
        ⟨remote, hi, huser, hentry'⟩ (Bool.eq_iff_iff.mpr (by rw [hkind, hkind]; exact hsame))
      rw [(hlists.nodupKeys (mem_of_getElem? hi)).eq_of_mk_mem hentry hentry']
    · obtain ⟨i, consumerId, c, hlisted, -, rfl⟩ := hconsumer _ _ _ hproduces
      refine (hfirst i other consumerId c hlisted).mp
        (h.videoFirst i other consumerId c hlisted (Bool.eq_false_iff.mpr ?_))
      rwa [Ne, hkind]
  · intro h
    refine ⟨fun i other consumerId c hlisted => ?_,
      fun i other consumerId c consumerId' c' hlisted hlisted' hsame => ?_,
      fun i other consumerId c hlisted hvideo => ?_⟩
    · exact isEmpty_eq_false_iff.mp
        (h.encoded other _ _ (hmatches.drawn i other consumerId c hlisted))
    · refine hmatches.single i other consumerId c i consumerId' c' hlisted hlisted' ?_
      refine h.single other _ _ _ _ (hmatches.drawn i other consumerId c hlisted)
        (hmatches.drawn i other consumerId' c' hlisted') ?_
      rw [← hkind, ← hkind, hsame]
    · refine (hfirst i other consumerId c hlisted).mpr
        (h.videoFirst other _ _ (hmatches.drawn i other consumerId c hlisted) ?_)
      rw [Ne, ← hkind, hvideo]
      exact Bool.false_ne_true

theorem beforeOffer_spec (hpresent : (s.user roomId userId).isSome) :
    ∃ user, notifyUser env roomId s userId =
        sendOffer env roomId (s.beforeOffer env roomId userId) userId ∧
      (s.beforeOffer env roomId userId).user roomId userId = some user ∧
      Subscribes env s (s.beforeOffer env roomId userId) roomId userId user.consumer ∧
      (∀ u, u ≠ userId → (s.profile roomId u).isSome → u ∈ user.consumer.consumers) ∧
      Lists (s.offered env roomId userId) user.consumer.consumers := by
  obtain ⟨old, hold⟩ := Option.isSome_iff_exists.mp hpresent
  obtain ⟨room, hroom, -⟩ := user_eq_some.mp hold
  have hbefore : s.beforeOffer env roomId userId =
      renewConsumers env roomId s room userId old := by
    rw [beforeOffer, hroom, hold]
  obtain ⟨consumer, hsubscribes, hall⟩ := renewConsumers_subscribes env hroom hold
  rw [← hbefore] at hsubscribes
  obtain ⟨_, -, hself⟩ := hsubscribes.self
  obtain ⟨user, huser, hprofile⟩ := map_eq_some_iff.mp hself
  obtain rfl : user.consumer = consumer := congrArg Profile.consumer hprofile
  refine ⟨user, ?_, huser, hsubscribes, hall, ?_⟩
  · rw [notifyUser, hroom, hold, hbefore]
  · rw [offered, listing_of_user env huser]
    exact lists_remotes env user.consumer

/-- The user is sent an offer, and each of the consumers that are stored then, which are those
that the worker is to create after an answer, has the mid that the offer gives it. -/
def OffersNegotiated (s s' : Server) (roomId userId : Text) : Prop :=
  ∃ user sdp, s'.user roomId userId = some user ∧
    s'.notices = s.notices ++ [.offer user.conn user.consumer sdp] ∧
    Negotiated sdp user.consumer.consumers ∧
    ∀ answer s'', answer.roomId = roomId → answer.userId = userId →
      s'.processDownAnswerSdp env answer = .ok s'' → ∀ transportId c,
        .consume transportId c ∈ s''.requests ↔ .consume transportId c ∈ s'.requests ∨
          transportId = user.consumer.transportId ∧ ∃ otherUserId consumerId,
            storedConsumer user.consumer.consumers otherUserId consumerId = some c

/-- **The mids of a user's consumers** are the negotiated ones exactly if, of the consumers that
the offer lists, only those of the first user have video and no user has two of a kind.  If
the random ids of this call differ, this says that of the producers of the other users. -/
theorem notifyUser_mids_iff (s : Server) (roomId userId : Text)
    (hpresent : (s.user roomId userId).isSome) :
    (OffersNegotiated env s (notifyUser env roomId s userId) roomId userId ↔
      Separable (s.offered env roomId userId)) ∧ (Set.InjOn env.randStringBytes
        (Set.Ico s.choices (s.beforeOffer env roomId userId).choices) →
      (Separable (s.offered env roomId userId) ↔
        s.OneVideo roomId userId ((s.offered env roomId userId).head?.map Prod.fst))) := by
  obtain ⟨user, hnotify, huser, hsubscribes, hall, hlists⟩ := beforeOffer_spec env hpresent
  have hmatches := matches_of_subscribes env hsubscribes hlists
  refine ⟨?_, fun hfresh => separable_iff_oneVideo hlists hmatches
    (complete_of_subscribes env hsubscribes hall hlists hfresh)⟩
  set s₁ := s.beforeOffer env roomId userId
  rw [← negotiated_iff (p := s₁.settings env roomId userId) hlists hmatches.mid, hnotify]
  constructor
  · rintro ⟨user', sdp, huser', hnotices, hnegotiated, -⟩
    rw [← hsubscribes.notices] at hnotices
    cases hsdp : generateDownOfferSdp (s₁.settings env roomId userId)
        (s₁.listing env roomId userId) with
    | none =>
      -- without an offer there is no notice
      have hkeeps : Keeps (fun _ => True) s₁ _ := sendOffer_keeps env huser hsdp
      rw [hkeeps.notices] at hnotices
      exact absurd hnotices (by simp)
    | some sdp' =>
      obtain ⟨old, -, hself, hnotices'⟩ := (sendOffer_offers env huser hsdp).self
      have hlast := append_cancel_left (hnotices.symm.trans hnotices')
      obtain ⟨-, -, rfl⟩ := Notice.offer.inj (singleton_inj.mp hlast)
      have hsame := congrArg Profile.consumer (some.inj
        ((profile_of_user huser').symm.trans hself))
      have hconsumers : user'.consumer.consumers = _ := congrArg ConsumerTransport.consumers hsame
      rw [hconsumers] at hnegotiated
      exact ⟨sdp, hsdp, hnegotiated⟩
  · rintro ⟨sdp, hsdp, hnegotiated⟩
    obtain ⟨old, -, hself, hnotices⟩ := (sendOffer_offers env huser hsdp).self
    obtain ⟨user', huser', hprofile⟩ := map_eq_some_iff.mp hself
    have hsame : user'.consumer = _ := congrArg Profile.consumer hprofile
    have hconn : user'.conn = old.conn := congrArg Profile.conn hprofile
    refine ⟨user', sdp, huser', ?_, ?_, ?_⟩
    · rw [hnotices, hsubscribes.notices, hconn, hsame]
    · rw [hsame]
      exact hnegotiated
    · rintro answer s'' rfl rfl hs''
      exact processDownAnswerSdp_consumes env huser' hs''

/-- Two users: the other one is listed first. -/
def midsOfTwo : Server :=
  [Event.upOffer 1 (sampleRequest "ann"), .upOffer 2 (sampleRequest "bob")].foldl
    (step sampleEnv) {}

theorem mids_of_two : OffersNegotiated sampleEnv midsOfTwo
      (notifyUser sampleEnv "room".toList midsOfTwo "ann".toList) "room".toList "ann".toList :=
  (notifyUser_mids_iff sampleEnv midsOfTwo "room".toList "ann".toList
    (by decide +kernel)).1.mpr (by decide +kernel)

def midsOfUser (consumers : Consumers) (userId : Text) : List Text :=
  ((consumers.lookup userId).map fun remote =>
    remote.entries.map fun entry => entry.2.rtpParameters.mid).getD []

theorem exists_stored_of_mem {mid : Text} (h : mid ∈ midsOfUser consumers userId) : ∃ consumerId c,
      storedConsumer consumers userId consumerId = some c ∧ c.rtpParameters.mid = mid := by
  rw [midsOfUser] at h
  cases hlookup : consumers.lookup userId with
  | none =>
    rw [hlookup] at h
    cases h
  | some remote =>
    rw [hlookup] at h
    obtain ⟨entry, hentry, rfl⟩ := mem_map.mp h
    exact ⟨entry.1, entry.2,
      bind_eq_some_iff.mpr ⟨remote, hlookup, mem_lookup_iff.mpr hentry⟩, rfl⟩

def midsOfThree : Server :=
  [Event.upOffer 1 (sampleRequest "ann"), .upOffer 2 (sampleRequest "bob"),
    .upOffer 3 (sampleRequest "cid")].foldl (step sampleEnv) {}

/-- Both remote users of "ann" have a video consumer with the mid "1", which her offer gives
to one section only. -/
theorem mids_of_three_shared :
    ∃ user consumer sdp, midsOfThree.user "room".toList "ann".toList = some user ∧
      .offer user.conn consumer sdp ∈ midsOfThree.notices ∧
      consumer.transportId = user.consumer.transportId ∧ sdp.sectionMids = [0, 1, 2, 3] ∧
      midsOfUser user.consumer.consumers "bob".toList = ["1".toList, "0".toList] ∧
      midsOfUser user.consumer.consumers "cid".toList = ["1".toList, "2".toList] ∧
      ∀ sdp', ¬Negotiated sdp' user.consumer.consumers := by
  have hrun : (midsOfThree.user "room".toList "ann".toList).map (fun user =>
      (midsOfThree.notices.any fun notice => match notice with
        | .offer conn consumer sdp => conn = user.conn ∧
          consumer.transportId = user.consumer.transportId ∧ sdp.sectionMids = [0, 1, 2, 3]
        | _ => false) &&
      decide (midsOfUser user.consumer.consumers "bob".toList = ["1".toList, "0".toList] ∧
        midsOfUser user.consumer.consumers "cid".toList = ["1".toList, "2".toList])) =
      some true := by
    decide +kernel
  obtain ⟨user, huser, hcheck⟩ := map_eq_some_iff.mp hrun
  rw [Bool.and_eq_true] at hcheck
  obtain ⟨notice, hmem, hoffer⟩ := any_eq_true.mp hcheck.1
  obtain ⟨hbob, hcid⟩ := of_decide_eq_true hcheck.2
  cases notice with
  | answer => cases hoffer
  | offer conn consumer sdp =>
    obtain ⟨rfl, hid, hmids⟩ := of_decide_eq_true hoffer
    refine ⟨user, consumer, sdp, huser, hmem, hid, hmids, hbob, hcid, fun sdp' hnegotiated => ?_⟩
    -- two users' consumers have the mid 1, whatever was offered
    have hone : "1".toList ∈ midsOfUser user.consumer.consumers "bob".toList := by
      rw [hbob]
      exact mem_cons_self
    have hone' : "1".toList ∈ midsOfUser user.consumer.consumers "cid".toList := by
      rw [hcid]
      exact mem_cons_self
    obtain ⟨_, c, hc, hmid⟩ := exists_stored_of_mem hone
    obtain ⟨_, c', hc', hmid'⟩ := exists_stored_of_mem hone'
    exact absurd (hnegotiated.distinct _ _ _ _ _ _ hc hc' (hmid.trans hmid'.symm)).1 (by decide)

end Server

end Mediasoup.Signaling
