/-
The timestamps in the retransmission buffer.

The removal of old packets stops at the first one that is not too old, so it relies on the
items being in the order of their timestamps.  That order is circular.

* `Ordered`, `Fresh` — no timestamp is above a later one, and no item is too old;
* `Inserted.ordered` — an `Insert` keeps both, if a packet that becomes the newest one is
  not below the oldest one;
* `run_ordered` — the same for runs.
-/
import Mediasoup.Rtp.RetransmissionBuffer

open List Circular

namespace Mediasoup

namespace RetransmissionBuffer

variable {π : Type} {b c : Slots π} {oldest newest item x y z : Item π} {cfg : Config}

def NotAfter (x y : Item π) : Prop := ¬timestampHigherThan x.timestamp y.timestamp

theorem notAfter_iff : NotAfter x y ↔ ¬Lower 2147483648 y.timestamp.toNat x.timestamp.toNat := by
  rw [NotAfter, timestampHigherThan_iff]

theorem notAfter_refl : NotAfter x x := by
  rw [notAfter_iff]
  exact lower_irrefl

def stored (b : Slots π) : List (Item π) := b.reduceOption

theorem mem_stored : x ∈ stored b ↔ some x ∈ b := reduceOption_mem_iff

theorem stored_append : stored (b ++ c) = stored b ++ stored c := reduceOption_append b c

variable {n : ℕ}

theorem stored_blank : stored (List.replicate n none : Slots π) = [] :=
  reduceOption_replicate_none

theorem stored_singleton : stored [some x] = [x] := rfl

def Ordered (b : Slots π) : Prop := (stored b).Pairwise NotAfter

/-- No item is too old with respect to the newest one. -/
def Fresh (cfg : Config) (b : Slots π) : Prop :=
  ∀ newest, getNewest b = some newest → ∀ x, some x ∈ b →
    isTooOldTimestamp cfg x.timestamp newest.timestamp = false

theorem Ordered.suffix (h : Ordered b) (hsuffix : c <:+ b) : Ordered c := by
  obtain ⟨front, rfl⟩ := hsuffix
  rw [Ordered, stored_append] at h
  exact (pairwise_append.mp h).2.1

section

variable (h : Spans b oldest newest)
include h

theorem Spans.notAfter_newest (ho : Ordered b) (hx : some x ∈ b) : NotAfter x newest := by
  obtain ⟨front, rfl⟩ := List.getLast?_eq_some_iff.mp h.last
  rw [Ordered, stored_append, stored_singleton] at ho
  rw [← mem_stored, stored_append, stored_singleton, mem_append, mem_singleton] at hx
  rcases hx with hx | rfl
  · exact (pairwise_append.mp ho).2.2 x hx newest mem_cons_self
  · exact notAfter_refl

theorem Spans.oldest_notAfter (ho : Ordered b) (hx : some x ∈ b) : NotAfter oldest x := by
  obtain ⟨rest, rfl⟩ := List.head?_eq_some_iff.mp h.head
  rw [← singleton_append] at ho hx
  rw [Ordered, stored_append, stored_singleton] at ho
  rw [← mem_stored, stored_append, stored_singleton, mem_append, mem_singleton] at hx
  rcases hx with rfl | hx
  · exact notAfter_refl
  · exact (pairwise_append.mp ho).2.2 oldest mem_cons_self x hx

theorem Spans.mem_oldest : some oldest ∈ b :=
  mem_of_mem_head? h.head

theorem Spans.mem_newest : some newest ∈ b :=
  mem_of_getLast? h.last

end

/-! ### Ages -/

def ageMs (cfg : Config) (timestamp newestTimestamp : UInt32) : ℕ :=
  gap 2147483648 timestamp.toNat newestTimestamp.toNat * 1000 / cfg.clockRate.toNat

theorem isTooOldTimestamp_eq_false (hclock : 1000 ≤ cfg.clockRate.toNat) {t u : UInt32} :
    isTooOldTimestamp cfg t u = false ↔
      timestampHigherThan t u ∨ ageMs cfg t u ≤ cfg.maxRetransmissionDelayMs.toNat := by
  have ht := t.toNat_lt
  have hu := u.toNat_lt
  have hgap : gap 2147483648 t.toNat u.toNat < 2 * 2147483648 := by
    unfold gap
    split_ifs <;> omega
  have hage : ageMs cfg t u < 4294967296 := by
    rw [ageMs, Nat.div_lt_iff_lt_mul (by omega)]
    calc gap 2147483648 t.toNat u.toNat * 1000 < 4294967296 * 1000 := by omega
      _ ≤ 4294967296 * cfg.clockRate.toNat := by omega
  have hof : (UInt32.ofNat (ageMs cfg t u)).toNat = ageMs cfg t u := by
    rw [UInt32.toNat_ofNat', Nat.mod_eq_of_lt hage]
  rw [isTooOldTimestamp, toNat_sub_uint32]
  dsimp only
  rw [← ageMs]
  by_cases hhigher : timestampHigherThan t u
  · simp [hhigher]
  · rw [if_neg hhigher, decide_eq_false_iff_not, UInt32.lt_iff_toNat_lt, hof]
    simp [hhigher]

theorem isTooOldTimestamp_of_gap_le (hclock : 1000 ≤ cfg.clockRate.toNat) {t t' u : UInt32}
    (hfresh : isTooOldTimestamp cfg t u = false) (horder : ¬timestampHigherThan t u)
    (hgap : gap 2147483648 t'.toNat u.toNat ≤ gap 2147483648 t.toNat u.toNat) :
    isTooOldTimestamp cfg t' u = false := by
  rw [isTooOldTimestamp_eq_false hclock] at hfresh ⊢
  have hage := hfresh.resolve_left horder
  exact .inr ((Nat.div_le_div_right (Nat.mul_le_mul_right 1000 hgap)).trans hage)

theorem isTooOldTimestamp_self (t : UInt32) : isTooOldTimestamp cfg t t = false := by
  rw [isTooOldTimestamp]
  split_ifs
  · rfl
  · simp

theorem fresh_between (hclock : 1000 ≤ cfg.clockRate.toNat) (hxy : NotAfter x y)
    (hyz : NotAfter y z) (hxz : NotAfter x z)
    (hfresh : isTooOldTimestamp cfg x.timestamp z.timestamp = false) :
    isTooOldTimestamp cfg y.timestamp z.timestamp = false := by
  refine isTooOldTimestamp_of_gap_le hclock hfresh hxz ?_
  have hx := x.timestamp.toNat_lt
  have hy := y.timestamp.toNat_lt
  rw [notAfter_iff] at hxy hyz hxz
  have hsum := @gap_of_order 2147483648 _ _ _ (by omega) (by omega) hxy hyz hxz
  omega

/-! ### What `Insert` keeps -/

theorem getNewest_append (hc : c ≠ []) : getNewest (b ++ c) = getNewest c := by
  rw [getNewest, List.getLast?_append_of_ne_nil _ hc, getNewest]

theorem Fresh.suffix (h : Fresh cfg b) (hsuffix : c <:+ b) (hne : c ≠ []) : Fresh cfg c := by
  obtain ⟨front, rfl⟩ := hsuffix
  intro newest hnewest x hx
  exact h newest (by rw [getNewest_append hne, hnewest]) x (mem_append_right _ hx)

theorem ordered_fresh_singleton : Ordered [some item] ∧ Fresh cfg [some item] := by
  constructor
  · exact pairwise_singleton _ _
  · intro newest hnewest x hx
    obtain rfl : item = newest := Option.some.inj hnewest
    obtain rfl : x = item := by simpa using hx
    exact isTooOldTimestamp_self _

theorem Spans.notAfter_item (h : Spans b oldest newest) (ho : Ordered b) (hx : some x ∈ b)
    (hnewest : ¬timestampLowerThan item.timestamp newest.timestamp)
    (holdest : ¬timestampLowerThan item.timestamp oldest.timestamp) : NotAfter x item := by
  have hfirst := h.oldest_notAfter ho hx
  have hlast := h.notAfter_newest ho hx
  have hends := h.oldest_notAfter ho h.mem_newest
  rw [timestampLowerThan_iff] at hnewest holdest
  rw [notAfter_iff] at hfirst hlast hends ⊢
  exact not_lower_above oldest.timestamp.toNat_lt x.timestamp.toNat_lt newest.timestamp.toNat_lt
    hfirst hlast hends hnewest holdest

theorem newestTimestamp_eq (h : ¬timestampLowerThan item.timestamp newest.timestamp) :
    newestTimestamp item newest = item.timestamp := by
  rw [newestTimestamp]
  split_ifs with hhigher
  · rfl
  rw [timestampLowerThan_iff] at h
  rw [timestampHigherThan_iff] at hhigher
  by_contra hne
  have hne' : newest.timestamp.toNat ≠ item.timestamp.toNat := by
    rwa [Ne, UInt32.toNat_inj]
  rcases @lower_total 2147483648 _ _ hne' with hlower | hlower
  · exact hhigher hlower
  · exact h hlower

theorem ordered_fresh_newest {d : Slots π} (hclock : 1000 ≤ cfg.clockRate.toNat)
    (h : Spans b oldest newest) (ho : Ordered b)
    (hc : Cleared cfg (newestTimestamp item newest) b c) (hd : d <:+ c) (hne : d ≠ [])
    (hnewest : ¬timestampLowerThan item.timestamp newest.timestamp)
    (holdest : ¬timestampLowerThan item.timestamp oldest.timestamp) :
    Ordered (d ++ List.replicate n none ++ [some item]) ∧
      Fresh cfg (d ++ List.replicate n none ++ [some item]) := by
  have hmem : ∀ x, some x ∈ d → some x ∈ c := fun x hx => hd.subset hx
  have hafter : ∀ x, some x ∈ c → NotAfter x item := fun x hx =>
    h.notAfter_item ho (hc.suffix.subset hx) hnewest holdest
  have hcne : c ≠ [] := by
    rintro rfl
    exact hne (suffix_nil.mp hd)
  obtain ⟨front, hspans⟩ := h.suffix hc.suffix hcne hc.no_blank
  constructor
  · rw [Ordered, stored_append, stored_append, stored_blank, append_nil, stored_singleton]
    refine pairwise_append.mpr ⟨ho.suffix (hd.trans hc.suffix),
      pairwise_singleton _ _, ?_⟩
    intro x hx y hy
    rw [mem_singleton.mp hy]
    exact hafter x (hmem x (mem_stored.mp hx))
  · intro newest' hnewest' x hx
    obtain rfl : item = newest' := by
      rw [getNewest_append (by simp)] at hnewest'
      exact Option.some.inj hnewest'
    rcases mem_append.mp hx with hx | hx
    · rcases mem_append.mp hx with hx | hx
      · -- it is nearer than the first item that is not too old
        have hfresh := hc.fresh front hspans.head
        rw [newestTimestamp_eq hnewest] at hfresh
        have hfront := hspans.oldest_notAfter (ho.suffix hc.suffix) (hmem x hx)
        exact fresh_between hclock hfront (hafter x (hmem x hx))
          (hafter front hspans.mem_oldest) hfresh
      · cases eq_of_mem_replicate hx
    · obtain rfl : x = item := by simpa using hx
      exact isTooOldTimestamp_self _

theorem Spans.seqLowerThan_newest (h : Spans b oldest newest) (hlen : b.length ≤ 32767)
    {seq : UInt16} (hlower : seqLowerThan seq oldest.sequenceNumber)
    (hhigher : ¬seqHigherThan seq newest.sequenceNumber) :
    seqLowerThan seq newest.sequenceNumber := by
  have hspan := h.gap_newest hlen
  have hseq := seq.toNat_lt
  have hold := oldest.sequenceNumber.toNat_lt
  have hnew := newest.sequenceNumber.toNat_lt
  rw [seqHigherThan_iff] at hhigher
  rw [seqLowerThan_iff] at hlower ⊢
  unfold Lower at hhigher hlower ⊢
  unfold gap at hspan
  split_ifs at hspan <;> omega

theorem ordered_fresh_oldest (h : Spans b oldest newest) (ho : Ordered b)
    (hf : Fresh cfg b) (hnewest : ¬timestampHigherThan item.timestamp newest.timestamp)
    (holdest : ¬timestampHigherThan item.timestamp oldest.timestamp)
    (hfresh : isTooOldTimestamp cfg item.timestamp newest.timestamp = false) :
    Ordered (some item :: List.replicate n none ++ b) ∧
      Fresh cfg (some item :: List.replicate n none ++ b) := by
  constructor
  · rw [← singleton_append, Ordered, stored_append, stored_append, stored_blank,
      append_nil, stored_singleton]
    refine pairwise_append.mpr ⟨pairwise_singleton _ _, ho, ?_⟩
    intro x hx y hy
    rw [mem_singleton.mp hx]
    have hfirst := h.oldest_notAfter ho (mem_stored.mp hy)
    have hlast := h.notAfter_newest ho (mem_stored.mp hy)
    have hends := h.oldest_notAfter ho h.mem_newest
    rw [timestampHigherThan_iff] at hnewest holdest
    rw [notAfter_iff] at hfirst hlast hends ⊢
    exact not_lower_below oldest.timestamp.toNat_lt y.timestamp.toNat_lt
      item.timestamp.toNat_lt hfirst hlast hends holdest hnewest
  · intro newest' hnewest' x hx
    rw [getNewest_append h.ne_nil, h.getNewest] at hnewest'
    obtain rfl := Option.some.inj hnewest'
    rcases mem_append.mp hx with hx | hx
    · rcases mem_cons.mp hx with hx | hx
      · cases hx
        exact hfresh
      · cases eq_of_mem_replicate hx
    · exact hf newest h.getNewest x hx

theorem Spans.neighbours {l r : Slots π} (h : Spans (l ++ none :: r) oldest newest)
    (ho : Ordered (l ++ none :: r)) (hl : l ≠ []) (hr : r ≠ []) :
    ∃ older newer, (stored l).getLast? = some older ∧ (stored r).head? = some newer ∧
      NotAfter older newer ∧ (∀ x ∈ stored l, NotAfter x older ∧ NotAfter x newer) ∧
      ∀ y ∈ stored r, NotAfter newer y ∧ NotAfter older y := by
  have hhead := h.head
  have hlast := h.last
  rw [List.head?_append_of_ne_nil _ hl] at hhead
  rw [List.getLast?_append_of_ne_nil _ (by simp), List.getLast?_cons_of_ne_nil hr] at hlast
  have hlmem : oldest ∈ stored l := mem_stored.mpr (mem_of_mem_head? hhead)
  have hrmem : newest ∈ stored r := mem_stored.mpr (mem_of_getLast? hlast)
  obtain ⟨older, holder⟩ : ∃ older, (stored l).getLast? = some older :=
    ⟨_, List.getLast?_eq_some_getLast (ne_nil_of_mem hlmem)⟩
  obtain ⟨newer, hnewer⟩ : ∃ newer, (stored r).head? = some newer :=
    ⟨_, List.head?_eq_some_head (ne_nil_of_mem hrmem)⟩
  have hsplit : stored (l ++ none :: r) = stored l ++ stored r := stored_append
  rw [Ordered, hsplit] at ho
  obtain ⟨hleft, hright, hcross⟩ := pairwise_append.mp ho
  have holdermem := mem_of_getLast? holder
  have hnewermem := mem_of_mem_head? hnewer
  refine ⟨older, newer, holder, hnewer, hcross older holdermem newer hnewermem, ?_, ?_⟩
  · intro x hx
    refine ⟨?_, hcross x hx newer hnewermem⟩
    obtain ⟨front, hfront⟩ := List.getLast?_eq_some_iff.mp holder
    rw [hfront] at hleft hx
    rcases mem_append.mp hx with hx | hx
    · exact (pairwise_append.mp hleft).2.2 x hx older mem_cons_self
    · rw [mem_singleton.mp hx]
      exact notAfter_refl
  · intro y hy
    refine ⟨?_, hcross older holdermem y hy⟩
    obtain ⟨rest, hrest⟩ := List.head?_eq_some_iff.mp hnewer
    rw [hrest] at hright hy
    rcases mem_cons.mp hy with rfl | hy
    · exact notAfter_refl
    · exact rel_of_pairwise_cons hright hy

theorem ordered_fresh_between {l r : Slots π} (hclock : 1000 ≤ cfg.clockRate.toNat)
    (h : Spans (l ++ none :: r) oldest newest) (ho : Ordered (l ++ none :: r))
    (hf : Fresh cfg (l ++ none :: r)) (hl : l ≠ []) (hr : r ≠ [])
    (holder : ∀ older ∈ (stored l).getLast?, older.timestamp ≤ item.timestamp)
    (hnewer : ∀ newer ∈ (stored r).head?, item.timestamp ≤ newer.timestamp) :
    Ordered (l ++ some item :: r) ∧ Fresh cfg (l ++ some item :: r) := by
  obtain ⟨older, newer, holder', hnewer', hmiddle, hleft, hright⟩ := h.neighbours ho hl hr
  have hfrom := UInt32.le_iff_toNat_le.mp (holder older holder')
  have hto := UInt32.le_iff_toNat_le.mp (hnewer newer hnewer')
  rw [notAfter_iff] at hmiddle
  -- `NotAfter` is not transitive; the neighbours' plain order bridges the wrap
  have hbefore : ∀ x ∈ stored l, NotAfter x item := by
    intro x hx
    obtain ⟨hxolder, hxnewer⟩ := hleft x hx
    rw [notAfter_iff] at hxolder hxnewer ⊢
    unfold Lower at hxolder hmiddle hxnewer ⊢
    omega
  have hafter : ∀ y ∈ stored r, NotAfter item y := by
    intro y hy
    obtain ⟨hnewery, holdery⟩ := hright y hy
    rw [notAfter_iff] at hnewery holdery ⊢
    unfold Lower at hmiddle hnewery holdery ⊢
    omega
  have hsplit : stored (l ++ none :: r) = stored l ++ stored r := stored_append
  have hsplit' : stored (l ++ some item :: r) = stored l ++ item :: stored r := stored_append
  rw [Ordered, hsplit] at ho
  obtain ⟨hl', hr', hcross⟩ := pairwise_append.mp ho
  constructor
  · rw [Ordered, hsplit']
    refine pairwise_append.mpr ⟨hl', pairwise_cons.mpr ⟨hafter, hr'⟩, ?_⟩
    intro x hx y hy
    rcases mem_cons.mp hy with rfl | hy
    · exact hbefore x hx
    · exact hcross x hx y hy
  · intro newest' hnewest' x hx
    have hlast : getNewest (l ++ none :: r) = getNewest (l ++ some item :: r) := by
      rw [getNewest_append (by simp), getNewest_append (by simp), getNewest, getNewest,
        List.getLast?_cons_of_ne_nil hr, List.getLast?_cons_of_ne_nil hr]
    rw [← hlast, h.getNewest] at hnewest'
    obtain rfl := Option.some.inj hnewest'
    have hold : ∀ x, x ∈ stored l ∨ x ∈ stored r →
        isTooOldTimestamp cfg x.timestamp newest.timestamp = false := by
      intro x hx
      refine hf newest h.getNewest x (mem_stored.mp ?_)
      rw [hsplit, mem_append]
      exact hx
    have hnewest : newest ∈ stored r := by
      have hlast := h.last
      rw [List.getLast?_append_of_ne_nil _ (by simp), List.getLast?_cons_of_ne_nil hr] at hlast
      exact mem_stored.mpr (mem_of_getLast? hlast)
    rw [← mem_stored, hsplit', mem_append, mem_cons] at hx
    rcases hx with hx | rfl | hx
    · exact hold x (.inl hx)
    · have hmem := mem_of_getLast? holder'
      exact fresh_between hclock (hbefore older hmem) (hafter newest hnewest)
        (hright newest hnewest).2 (hold older (.inl hmem))
    · exact hold x (.inr hx)

/-- A packet that is to become the newest one is not below the oldest one. -/
def InTimestampOrder (b : Slots π) : Event π → Prop
  | .insert packet _ => ∀ oldest newest, getOldest b = some oldest → getNewest b = some newest →
      seqHigherThan packet.sequenceNumber newest.sequenceNumber →
      ¬timestampLowerThan packet.timestamp newest.timestamp →
      ¬timestampLowerThan packet.timestamp oldest.timestamp
  | .clear => True

theorem Inserted.ordered_fresh {b' : Slots π} {isStored : Bool}
    (hi : Inserted cfg b newest item b' isStored) (hclock : 1000 ≤ cfg.clockRate.toNat)
    (h : Spans b oldest newest) (hlen : b.length ≤ 32767) (ho : Ordered b) (hf : Fresh cfg b)
    (horder : seqHigherThan item.sequenceNumber newest.sequenceNumber →
      ¬timestampLowerThan item.timestamp newest.timestamp →
      ¬timestampLowerThan item.timestamp oldest.timestamp) : Ordered b' ∧ Fresh cfg b' := by
  cases hi with
  | alone => exact ordered_fresh_singleton
  | discarded hc hne => exact ⟨ho.suffix hc.suffix, hf.suffix hc.suffix hne⟩
  | newest hc hd hne _ hseq htimestamp _ =>
    exact ordered_fresh_newest hclock h ho hc hd hne htimestamp (horder hseq htimestamp)
  | @oldest c front hc hfront hlower hhigher hreset hfresh htimestamp _ =>
    have hne : c ≠ [] := by
      rintro rfl
      cases hfront
    obtain ⟨front', h'⟩ := h.suffix hc.suffix hne hc.no_blank
    obtain rfl : front = front' := by simpa using hfront.symm.trans h'.head
    have hlower' := h'.seqLowerThan_newest (hc.suffix.length_le.trans hlen) hlower hhigher
    exact ordered_fresh_oldest h' (ho.suffix hc.suffix) (hf.suffix hc.suffix hne)
      (fun hts => hreset ⟨hlower', hts⟩) htimestamp hfresh
  | @between l r front hc hfront hr _ holder hnewer =>
    have hl : l ≠ [] := by
      rintro rfl
      cases hfront
    obtain ⟨front', h'⟩ := h.suffix hc.suffix (by simp) hc.no_blank
    exact ordered_fresh_between hclock h' (ho.suffix hc.suffix)
      (hf.suffix hc.suffix (by simp)) hl hr holder hnewer

/-- The buffer is in order, with the timestamps too. -/
structure InOrder (cfg : Config) (b : Slots π) : Prop where
  represents : Represents cfg b
  ordered : Ordered b
  fresh : Fresh cfg b

theorem inOrder_nil : InOrder cfg ([] : Slots π) :=
  ⟨represents_nil, List.Pairwise.nil, fun _ _ _ h => (by cases h)⟩

theorem step_inOrder (hmax : cfg.maxItems.toNat ≤ 32767) (hclock : 1000 ≤ cfg.clockRate.toNat)
    (h : InOrder cfg b) {e : Event π} (he : InTimestampOrder b e) :
    ∃ b', step cfg b e = .ok b' ∧ InOrder cfg b' := by
  cases e with
  | clear => exact ⟨[], rfl, inOrder_nil⟩
  | insert packet sharedPacket =>
    rcases h.represents.ends with rfl | ⟨oldest, newest, hspans⟩
    · obtain ⟨b', hstep, hrep⟩ := step_represents hmax h.represents (.insert packet sharedPacket)
      have hsingle : step cfg [] (.insert packet sharedPacket) =
          .ok [some (fillItem packet sharedPacket)] := rfl
      obtain rfl := Except.ok.inj (hsingle.symm.trans hstep)
      obtain ⟨ho, hf⟩ := ordered_fresh_singleton
      exact ⟨_, hstep, hrep, ho, hf⟩
    · have hsize := h.represents.size
      obtain ⟨b', isStored, heq, hi⟩ :=
        insertItem_inserted hspans hmax hsize (fillItem packet sharedPacket)
      obtain ⟨hends, hsize'⟩ := hi.spans hspans hsize
      obtain ⟨ho, hf⟩ := hi.ordered_fresh hclock hspans (hsize.trans hmax) h.ordered h.fresh
        (he oldest newest hspans.getOldest hspans.getNewest)
      exact ⟨b', step_insert heq, ⟨hsize', .inr hends⟩, ho, hf⟩

/-- **The order of the timestamps.** -/
theorem run_ordered (cfg : Config) (hmax : cfg.maxItems ≤ 32767) (hclock : 1000 ≤ cfg.clockRate)
    (events : List (Event π)) (horder : Runs.Along (step cfg) InTimestampOrder [] events) :
    ∃ b, Runs.run (step cfg) [] events = .ok b ∧
      (∀ (i j : ℕ) (x y : Item π), i < j → b[i]? = some (some x) → b[j]? = some (some y) →
        ¬timestampHigherThan x.timestamp y.timestamp) ∧
      ∀ newest, getNewest b = some newest → ∀ x, some x ∈ b →
        isTooOldTimestamp cfg x.timestamp newest.timestamp = false := by
  have hstep : ∀ (b : Slots π) (e : Event π), InOrder cfg b → InTimestampOrder b e →
      Runs.Meets (fun _ => True) (InOrder cfg) (step cfg b e) := by
    intro b e h he
    obtain ⟨b', heq, h'⟩ := step_inOrder (UInt16.le_iff_toNat_le.mp hmax)
      (UInt32.le_iff_toNat_le.mp hclock) h he
    rw [heq]
    exact h'
  obtain ⟨b, hrun, h⟩ := (Runs.run_meets_along hstep events [] inOrder_nil horder).exists_ok
  refine ⟨b, hrun, ?_, h.fresh⟩
  intro i j x y hij hi hj
  have hslots := pairwise_filterMap.mp h.ordered
  obtain ⟨hilt, hi'⟩ := List.getElem?_eq_some_iff.mp hi
  obtain ⟨hjlt, hj'⟩ := List.getElem?_eq_some_iff.mp hj
  exact pairwise_iff_getElem.mp hslots i j hilt hjlt hij x hi' y hj'

instance (b : Slots π) : (e : Event π) → Decidable (InTimestampOrder b e)
  | .clear => .isTrue trivial
  | .insert packet _ =>
    match ho : getOldest b, hn : getNewest b with
    | none, _ => .isTrue fun _ _ h => (by rw [ho] at h; cases h)
    | some _, none => .isTrue fun _ _ _ h => (by rw [hn] at h; cases h)
    | some oldest, some newest =>
      decidable_of_iff (seqHigherThan packet.sequenceNumber newest.sequenceNumber →
        ¬timestampLowerThan packet.timestamp newest.timestamp →
        ¬timestampLowerThan packet.timestamp oldest.timestamp) (by simp [InTimestampOrder, ho, hn])

/-- A late packet, and one that makes the first one too old. -/
theorem run_ordered_video : ∃ b, Runs.run (step video) [] [.insert ⟨1, 65535, 4294967000, ()⟩ none,
        .insert ⟨1, 3, 3000, ()⟩ none, .insert ⟨1, 1, 1500, ()⟩ none,
        .insert ⟨1, 4, 180500, ()⟩ none] = .ok b ∧
      (∀ (i j : ℕ) (x y : Item Unit), i < j → b[i]? = some (some x) → b[j]? = some (some y) →
        ¬timestampHigherThan x.timestamp y.timestamp) ∧
      ∀ newest, getNewest b = some newest → ∀ x, some x ∈ b →
        isTooOldTimestamp video x.timestamp newest.timestamp = false :=
  run_ordered video (by decide) (by decide) _ (by decide +kernel)

/-- The timestamps `0`, `100` and `2 ^ 31 + 50` in sequence: the first one is above the last
one, so it stays, and with it the second one, which is too old. -/
theorem run_jump_unordered :
    ∃ x y z : Item Unit, Runs.run (step video) [] [.insert ⟨1, 0, 0, ()⟩ none,
        .insert ⟨1, 1, 100, ()⟩ none, .insert ⟨1, 2, 2147483698, ()⟩ none] =
          .ok [some x, some y, some z] ∧ timestampHigherThan x.timestamp z.timestamp ∧
      isTooOldTimestamp video y.timestamp z.timestamp :=
  ⟨fillItem ⟨1, 0, 0, ()⟩ none, fillItem ⟨1, 1, 100, ()⟩ none,
    fillItem ⟨1, 2, 2147483698, ()⟩ none, by rfl, by decide +kernel, by decide +kernel⟩

end RetransmissionBuffer

end Mediasoup
