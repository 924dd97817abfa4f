/-
What the signaling server takes from the sections of an up offer.

The mids are found twice: `GetOfferSDPMid` scans the lines for the answer, `ParseUpOfferSDP`
has constants for the producers.  The SSRCs go to the audio and to the video producer in the
order in which they first appear in the whole text.

* `mids_agree_iff` — when both kinds of mids are those of the sections,
* `ssrcs_agree_iff` — when the SSRCs are those that the sections declare.
-/
import Mediasoup.Signaling.MediaParameters
import Mediasoup.Signaling.DownOffer
import Mathlib.Data.List.Induction

namespace Mediasoup.Signaling

open List Json

/-! ### Sections -/

/-- A media section: what follows "m=" in its first line, and its other lines. -/
structure Section where
  media : Text
  body : List Text
  notMedia : ∀ line ∈ body, "m=".toList.isPrefixOf line = false

/-- An offer: the lines before the first section, and the sections. -/
structure UpOffer where
  session : List Text
  sections : List Section
  notMedia : ∀ line ∈ session, "m=".toList.isPrefixOf line = false

namespace Section

def isAudio (x : Section) : Bool := "audio ".toList.isPrefixOf x.media

def isVideo (x : Section) : Bool := "video ".toList.isPrefixOf x.media

theorem not_isVideo_of_isAudio {x : Section} (h : x.isAudio) : ¬x.isVideo := by
  intro h'
  obtain ⟨rest, hrest⟩ := isPrefixOf_iff_prefix.mp h
  obtain ⟨rest', hrest'⟩ := isPrefixOf_iff_prefix.mp h'
  exact absurd (List.cons.inj (hrest.trans hrest'.symm)).1 (by decide)

def lines (x : Section) : List Text := ("m=".toList ++ x.media) :: x.body

def linesWith (start : String) (x : Section) : List Text :=
  x.lines.filter fun line => start.toList.isPrefixOf line

end Section

def UpOffer.lines (offer : UpOffer) : List Text :=
  offer.session ++ offer.sections.flatMap Section.lines

/-- A section with given lines, as far as they are no media lines. -/
def Section.of (media : String) (body : List String) : Section where
  media := media.toList
  body := (body.map String.toList).filter fun line => !"m=".toList.isPrefixOf line
  notMedia line h := by simpa using (mem_filter.mp h).2

theorem UpOffer.filter_lines {offer : UpOffer} {start : String}
    (h : ∀ line ∈ offer.session, start.toList.isPrefixOf line = false) :
    offer.lines.filter (fun line => start.toList.isPrefixOf line) =
      offer.sections.flatMap (Section.linesWith start) := by
  have hsession : offer.session.filter (fun line => start.toList.isPrefixOf line) = [] :=
    filter_eq_nil_iff.mpr fun line hline => by rw [h line hline]; exact Bool.false_ne_true
  rw [lines, filter_append, hsession, nil_append, filter_flatMap]
  rfl

/-! ### Mids -/

/-- The loop of `GetOfferSDPMid`.  The second condition of the body holds right after the first
one has set `video`. -/
def offerMids (audioMid videoMid : Text) (video : Bool) : List Text → Text × Text
  | [] => (audioMid, videoMid)
  | line :: rest =>
    if "a=mid:".toList.isPrefixOf line then
      match cut ":".toList line with
      | none => (audioMid, videoMid)
      | some (_, mid) => offerMids (if video then audioMid else mid) mid true rest
    else offerMids audioMid videoMid video rest

def getOfferSDPMid (sdp : Text) : Text × Text :=
  offerMids "0".toList "1".toList false (lines sdp)

def midLine (mid : Text) : Text := "a=mid:".toList ++ mid

theorem cut_midLine (mid : Text) : cut ":".toList (midLine mid) = some ("a=mid".toList, mid) := by
  simp [midLine, cut]

theorem offerMids_eq (audioMid videoMid : Text) (video : Bool) (l : List Text) (mids : List Text)
    (h : l.filter (fun line => "a=mid:".toList.isPrefixOf line) = mids.map midLine) :
    offerMids audioMid videoMid video l =
      (if video then audioMid else mids.head?.getD audioMid, mids.getLast?.getD videoMid) := by
  induction l generalizing audioMid videoMid video mids with
  | nil =>
    obtain rfl : mids = [] := map_eq_nil_iff.mp h.symm
    cases video <;> rfl
  | cons line rest ih =>
    rw [offerMids]
    split
    case isTrue hline =>
      rw [filter_cons_of_pos hline] at h
      obtain ⟨mid, mids, rfl, rfl, hrest⟩ := map_eq_cons_iff.mp h.symm
      rw [cut_midLine]
      show offerMids _ mid true rest = _
      rw [ih _ _ _ mids hrest.symm, List.getLast?_cons]
      cases video <;> rfl
    case isFalse hline =>
      rw [filter_cons_of_neg hline] at h
      exact ih audioMid videoMid video mids h

variable {ssrc : UInt32} {ssrcs : List UInt32}

theorem mid_parseUpOfferSDP (sscanf : Text → UInt32) (sdp : Text) :
    (parseUpOfferSDP sscanf ssrc sdp).1.rtpParameters.mid = "0".toList ∧
      (parseUpOfferSDP sscanf ssrc sdp).2.rtpParameters.mid = "1".toList := by
  refine ⟨rfl, ?_⟩
  simp only [parseUpOfferSDP]
  split <;> rfl

/-- The offers with one audio and one video section, and one mid in each section. -/
structure HasMids (offer : UpOffer) (mid : Section → Text) (audio video : Section) : Prop where
  session : ∀ line ∈ offer.session, "a=mid:".toList.isPrefixOf line = false
  mids : ∀ x ∈ offer.sections, x.linesWith "a=mid:" = [midLine (mid x)]
  audio : offer.sections.filter Section.isAudio = [audio]
  video : offer.sections.filter Section.isVideo = [video]

/-- **The mids of the answer and of the producers** are those of the sections exactly if the
audio section has the mid 0, which the first section has, too, and the video section the mid
1, which the last section has. -/
theorem mids_agree_iff {sdp : Text} {offer : UpOffer} (hsdp : lines sdp = offer.lines)
    {mid : Section → Text} {audio video : Section} (h : HasMids offer mid audio video)
    (sscanf : Text → UInt32) (ssrc : UInt32) : getOfferSDPMid sdp = (mid audio, mid video) ∧
      (parseUpOfferSDP sscanf ssrc sdp).1.rtpParameters.mid = mid audio ∧
      (parseUpOfferSDP sscanf ssrc sdp).2.rtpParameters.mid = mid video ↔
    mid audio = "0".toList ∧ mid video = "1".toList ∧
      offer.sections.head?.map mid = some "0".toList ∧
      offer.sections.getLast?.map mid = some "1".toList := by
  have hfilter : (lines sdp).filter (fun line => "a=mid:".toList.isPrefixOf line) =
      (offer.sections.map mid).map midLine := by
    rw [hsdp, UpOffer.filter_lines h.session, map_map, flatMap_def,
      map_congr_left h.mids, ← flatMap_def]
    exact flatMap_pure_eq_map ..
  have hne : offer.sections ≠ [] := by
    intro hnil
    have haudio := h.audio
    rw [hnil] at haudio
    cases haudio
  obtain ⟨x, rest, hcons⟩ := exists_cons_of_ne_nil hne
  have hmids := offerMids_eq "0".toList "1".toList false (lines sdp) _ hfilter
  rw [hcons] at hmids ⊢
  obtain ⟨hparsed, hparsed'⟩ := mid_parseUpOfferSDP sscanf sdp
  rw [getOfferSDPMid, hmids, hparsed, hparsed', List.getLast?_map, List.getLast?_cons]
  simp only [map_cons, List.head?_cons, Option.getD_some, Option.map_some,
    Option.some.injEq, Prod.mk.injEq, Bool.false_eq_true, if_false]
  grind

/-- The sections of an offer with two mids. -/
def audioMidZero : Section := .of "audio 9" ["a=mid:0"]

def videoMidOne : Section := .of "video 9" ["a=mid:1"]

def pairMid (x : Section) : Text := if x.isAudio then "0".toList else "1".toList

theorem hasMids_pair {sections : List Section}
    (h : sections = [audioMidZero, videoMidOne] ∨ sections = [videoMidOne, audioMidZero]) :
    HasMids ⟨[], sections, nofun⟩ pairMid audioMidZero videoMidOne where
  session := nofun
  mids x hx := by
    rcases h with rfl | rfl <;> rcases mem_pair.mp hx with rfl | rfl <;> decide +kernel
  audio := by rcases h with rfl | rfl <;> rfl
  video := by rcases h with rfl | rfl <;> rfl

theorem mids_agree_audio_first :
    getOfferSDPMid "m=audio 9\r\na=mid:0\r\nm=video 9\r\na=mid:1".toList =
      (pairMid audioMidZero, pairMid videoMidOne) :=
  ((mids_agree_iff (by decide +kernel) (hasMids_pair (.inl rfl)) (fun _ => 0) 0).mpr
    (by decide +kernel)).1

/-- A video section that comes first has the mid that is taken for the audio section. -/
theorem mids_differ_video_first : lines "m=video 9\r\na=mid:1\r\nm=audio 9\r\na=mid:0".toList =
      UpOffer.lines ⟨[], [videoMidOne, audioMidZero], nofun⟩ ∧
    HasMids ⟨[], [videoMidOne, audioMidZero], nofun⟩ pairMid audioMidZero videoMidOne ∧
    getOfferSDPMid "m=video 9\r\na=mid:1\r\nm=audio 9\r\na=mid:0".toList ≠
      (pairMid audioMidZero, pairMid videoMidOne) :=
  ⟨by decide +kernel, hasMids_pair (.inr rfl), by decide +kernel⟩

/-! ### SSRCs -/

/-- The line of an SSRC: its number, and an attribute behind a space if there is one. -/
def Declares (line : Text) (ssrc : UInt32) : Prop :=
  ∃ rest, line = "a=ssrc:".toList ++ decimal ssrc.toNat ++ rest ∧
    (rest = [] ∨ ∃ value, rest = ' ' :: value)

/-- `fmt.Sscanf` reads decimal numbers. -/
def ReadsDecimals (sscanf : Text → UInt32) : Prop :=
  ∀ n : UInt32, sscanf (decimal n.toNat) = n

theorem cut_space {word rest : Text} (h : ' ' ∉ word) :
    cut " ".toList (word ++ rest) = (cut " ".toList rest).map fun parts =>
      (word ++ parts.1, parts.2) := by
  induction word with
  | nil => simp
  | cons c word ih =>
    have hc : ' ' ≠ c := fun hc => h (hc ▸ mem_cons_self)
    rw [cons_append, cut, if_neg (by simpa using hc), ih fun hmem =>
      h (mem_cons_of_mem c hmem), Option.map_map]
    rfl

theorem space_notMem_decimal (n : ℕ) : ' ' ∉ decimal n := by
  intro h
  exact absurd (Nat.isDigit_of_mem_toDigits (by decide) (by decide) h) (by decide)

variable {sscanf : Text → UInt32}

theorem line_of_declares (hscan : ReadsDecimals sscanf) {line : Text} (h : Declares line ssrc)
    (hplain : contains line "simulcast".toList = false) (scan : OfferScan) :
    scan.line sscanf line = scan.add ssrc := by
  obtain ⟨rest, rfl, hrest⟩ := h
  have hprefix : "a=ssrc:".toList.isPrefixOf ("a=ssrc:".toList ++ decimal ssrc.toNat ++ rest) :=
    isPrefixOf_iff_prefix.mpr ((prefix_append ..).trans (prefix_append ..))
  have hdrop : ("a=ssrc:".toList ++ decimal ssrc.toNat ++ rest).drop "a=ssrc:".toList.length =
      decimal ssrc.toNat ++ rest := by
    rw [append_assoc, drop_left]
  rw [OfferScan.line, if_neg (by rw [hplain]; exact Bool.false_ne_true), if_pos hprefix]
  simp only [hdrop, cut_space (space_notMem_decimal _)]
  rcases hrest with rfl | ⟨value, rfl⟩
  · simp [cut, hscan ssrc]
  · simp [cut, hscan ssrc]

theorem scan_eq (hscan : ReadsDecimals sscanf) {l : List Text}
    (hplain : ∀ line ∈ l, contains line "simulcast".toList = false)
    (h : List.Forall₂ Declares (l.filter fun line => "a=ssrc:".toList.isPrefixOf line) ssrcs)
    (scan : OfferScan) : l.foldl (OfferScan.line sscanf) scan = ssrcs.foldl OfferScan.add scan := by
  induction l generalizing scan ssrcs with
  | nil =>
    cases h
    rfl
  | cons line l ih =>
    have hline := hplain line mem_cons_self
    have hrest := fun x hx => hplain x (mem_cons_of_mem line hx)
    rw [foldl_cons]
    by_cases hssrc : "a=ssrc:".toList.isPrefixOf line
    · rw [filter_cons_of_pos hssrc] at h
      obtain ⟨ssrc, rest, hdeclares, hforall, rfl⟩ := List.forall₂_cons_left_iff.mp h
      rw [line_of_declares hscan hdeclares hline, foldl_cons]
      exact ih hrest hforall _
    · rw [filter_cons_of_neg hssrc] at h
      rw [OfferScan.line, if_neg (by rw [hline]; exact Bool.false_ne_true), if_neg hssrc]
      exact ih hrest h scan

/-- The first SSRC that is neither 0 nor among some others; 0 if there is none. -/
def firstOther (others ssrcs : List UInt32) : UInt32 :=
  (ssrcs.find? fun x => x ≠ 0 ∧ x ∉ others).getD 0

section FirstOther

variable {others ssrcs : List UInt32} {x : UInt32}

theorem firstOther_cases : firstOther others ssrcs = 0 ∧ (∀ x ∈ ssrcs, x = 0 ∨ x ∈ others) ∨
      firstOther others ssrcs ≠ 0 ∧ firstOther others ssrcs ∈ ssrcs ∧
        firstOther others ssrcs ∉ others := by
  rw [firstOther]
  cases hfind : ssrcs.find? (fun x => x ≠ 0 ∧ x ∉ others) with
  | none =>
    refine .inl ⟨rfl, fun x hx => ?_⟩
    simpa [or_iff_not_imp_left] using List.find?_eq_none.mp hfind x hx
  | some y =>
    have hy : y ≠ 0 ∧ y ∉ others := by simpa using List.find?_some hfind
    exact .inr ⟨hy.1, mem_of_find?_eq_some hfind, hy.2⟩

theorem firstOther_found (h : firstOther others ssrcs ≠ 0) :
    firstOther others ssrcs ∈ ssrcs ∧ firstOther others ssrcs ∉ others :=
  ((firstOther_cases).resolve_left fun hnone => h hnone.1).2

theorem firstOther_ne_zero (hx : x ∈ ssrcs) (hne : x ≠ 0) (hother : x ∉ others) :
    firstOther others ssrcs ≠ 0 := by
  rcases firstOther_cases with ⟨-, hnone⟩ | ⟨h, -⟩
  · exact ((hnone x hx).elim hne hother).elim
  · exact h

theorem firstOther_eq_zero_of_subset {others' : List UInt32} (h : firstOther others ssrcs = 0)
    (hsub : others ⊆ others') : firstOther others' ssrcs = 0 := by
  by_contra hne
  obtain ⟨hmem, hother⟩ := firstOther_found hne
  exact firstOther_ne_zero hmem hne (fun hx => hother (hsub hx)) h

theorem firstOther_cons_of_ne (hne : x ≠ 0) (hother : x ∉ others) :
    firstOther others (x :: ssrcs) = x := by
  simp [firstOther, hne, hother]

theorem firstOther_append (later : List UInt32) : firstOther others (ssrcs ++ later) =
      if firstOther others ssrcs = 0 then firstOther others later else firstOther others ssrcs := by
  rw [firstOther, firstOther, List.find?_append]
  cases hfind : ssrcs.find? (fun x => x ≠ 0 ∧ x ∉ others) with
  | none => rfl
  | some y =>
    have hy : y ≠ 0 ∧ y ∉ others := by simpa using List.find?_some hfind
    simp [hy.1]

theorem firstOther_concat : firstOther others (ssrcs ++ [x]) =
      if firstOther others ssrcs = 0 ∧ x ∉ others then x else firstOther others ssrcs := by
  have hone : firstOther others [x] = if x ∈ others then 0 else x := by
    by_cases hx : x = 0 <;> by_cases ho : x ∈ others <;> simp_all [firstOther]
  rw [firstOther_append, hone]
  by_cases h : firstOther others ssrcs = 0 <;> by_cases ho : x ∈ others <;> simp [h, ho]

theorem firstOther_append_right {earlier : List UInt32} (h : ∀ x ∈ earlier, x ∈ others) :
    firstOther others (earlier ++ ssrcs) = firstOther others ssrcs := by
  have hnone : firstOther others earlier = 0 := by
    by_contra hne
    exact (firstOther_found hne).2 (h _ (firstOther_found hne).1)
  rw [firstOther_append, if_pos hnone]

end FirstOther

theorem foldl_add : ssrcs.foldl OfferScan.add {} = let audioSsrc := firstOther [] ssrcs
      let videoSsrc1 := firstOther [audioSsrc] ssrcs
      { audioSsrc, videoSsrc1, videoSsrc2 := firstOther [audioSsrc, videoSsrc1] ssrcs } := by
  induction ssrcs using List.reverseRecOn with
  | nil => rfl
  | append_singleton ssrcs x ih =>
    rw [foldl_append, ih, foldl_cons, foldl_nil]
    by_cases haudio : firstOther [] ssrcs = 0
    · -- all SSRCs so far are 0
      have hzero (others : List UInt32) : firstOther others ssrcs = 0 :=
        firstOther_eq_zero_of_subset haudio (nil_subset _)
      simp [OfferScan.add, firstOther_concat, hzero]
    · by_cases hx : x = firstOther [] ssrcs
      · simp [OfferScan.add, firstOther_concat, ← hx]
      by_cases hvideo : firstOther [firstOther [] ssrcs] ssrcs = 0
      · have hzero (y : UInt32) : firstOther [firstOther [] ssrcs, y] ssrcs = 0 :=
          firstOther_eq_zero_of_subset hvideo (by simp)
        simp [OfferScan.add, firstOther_concat, haudio, hvideo, hzero, hx, Ne.symm hx]
      · simp only [OfferScan.add, firstOther_concat, haudio, hvideo, false_and, false_or, if_false,
          Ne.symm hx]
        by_cases hx' : x = firstOther [firstOther [] ssrcs] ssrcs
        · simp [← hx']
        · rw [if_neg (Ne.symm hx')]
          split_ifs with h₁ h₂ h₂ <;> simp_all

section Order

variable {a media rtx : UInt32} {audioSsrcs videoSsrcs : List UInt32}
  (haudio : ∀ x ∈ audioSsrcs, x = a) (hmem : a ∈ audioSsrcs)
  (hvideo : ∀ x ∈ videoSsrcs, x = media ∨ x = rtx) (hmedia : media ∈ videoSsrcs)
  (hrtx : rtx ∈ videoSsrcs) (hne : media ≠ rtx)

theorem not_found_of_video_first (hmedia : media ∈ videoSsrcs) (hrtx : rtx ∈ videoSsrcs)
    (hvideo : ∀ x ∈ videoSsrcs, x = media ∨ x = rtx) (hne : media ≠ rtx)
    (h : firstOther [] (videoSsrcs ++ audioSsrcs) = a)
    (h₁ : firstOther [a] (videoSsrcs ++ audioSsrcs) = media)
    (h₂ : firstOther [a, media] (videoSsrcs ++ audioSsrcs) = rtx) : False := by
  -- one of the two is not 0, so that the audio SSRC is one of them
  have hfound : firstOther [] videoSsrcs ≠ 0 := by
    by_cases hzero : media = 0
    · exact firstOther_ne_zero hrtx (fun h => hne (hzero.trans h.symm)) not_mem_nil
    · exact firstOther_ne_zero hmedia hzero not_mem_nil
  rw [firstOther_append, if_neg hfound] at h
  have hzero : a ≠ 0 := h ▸ hfound
  rcases hvideo a (h ▸ (firstOther_found hfound).1) with rfl | rfl
  · exact (firstOther_found (h₁.symm ▸ hzero)).2 (h₁.symm ▸ mem_cons_self)
  · exact (firstOther_found (h₂.symm ▸ hzero)).2 (h₂.symm ▸ mem_cons_self)

include haudio hmem hvideo hmedia hrtx hne in
theorem found_iff_of_audio_first : firstOther [] (audioSsrcs ++ videoSsrcs) = a ∧
      firstOther [a] (audioSsrcs ++ videoSsrcs) = media ∧
      firstOther [a, media] (audioSsrcs ++ videoSsrcs) = rtx ↔
    a ≠ 0 ∧ media ≠ 0 ∧ a ≠ media ∧ a ≠ rtx ∧ (rtx = 0 ∨ videoSsrcs.head? = some media) := by
  -- past the first scan the audio numbers are all taken
  have hvideo₁ : firstOther [a] (audioSsrcs ++ videoSsrcs) = firstOther [a] videoSsrcs :=
    firstOther_append_right fun x hx => mem_singleton.mpr (haudio x hx)
  have hvideo₂ : firstOther [a, media] (audioSsrcs ++ videoSsrcs) =
      firstOther [a, media] videoSsrcs :=
    firstOther_append_right fun x hx => by simp [haudio x hx]
  rw [hvideo₁, hvideo₂]
  constructor
  · rintro ⟨h, h₁, h₂⟩
    -- media and RTX differ, so one of them is not 0 and would be found
    have hzero : a ≠ 0 := by
      rintro rfl
      by_cases hm : media = 0
      · exact firstOther_ne_zero (mem_append_right _ hrtx)
          (fun h => hne (hm.trans h.symm)) not_mem_nil h
      · exact firstOther_ne_zero (mem_append_right _ hmedia) hm not_mem_nil h
    have hrtxne : a ≠ rtx := by
      rintro rfl
      exact (firstOther_found (h₂.symm ▸ hzero)).2 (h₂.symm ▸ mem_cons_self)
    have hm : media ≠ 0 := by
      rintro rfl
      refine firstOther_ne_zero hrtx hne.symm ?_ h₁
      simpa using hrtxne.symm
    refine ⟨hzero, hm, ?_, hrtxne, ?_⟩
    · rintro rfl
      exact (firstOther_found (h₁.symm ▸ hm)).2 (h₁.symm ▸ mem_cons_self)
    · by_cases hr : rtx = 0
      · exact .inl hr
      right
      obtain ⟨x, rest, rfl⟩ := exists_cons_of_ne_nil (ne_nil_of_mem hmedia)
      rcases hvideo x mem_cons_self with rfl | rfl
      · rfl
      · rw [firstOther_cons_of_ne hr (by simpa using hrtxne.symm)] at h₁
        exact absurd h₁.symm hne
  · rintro ⟨hzero, hm, ham, har, hfirst⟩
    have hfound := firstOther_ne_zero hmedia hm (by simpa using Ne.symm ham : media ∉ [a])
    refine ⟨?_, ?_, ?_⟩
    · obtain ⟨x, rest, rfl⟩ := exists_cons_of_ne_nil (ne_nil_of_mem hmem)
      rw [cons_append, haudio x mem_cons_self]
      exact firstOther_cons_of_ne hzero not_mem_nil
    · rcases hfirst with rfl | hhead
      · exact (hvideo _ ((firstOther_found hfound).1)).resolve_right hfound
      · obtain ⟨rest, rfl⟩ := List.head?_eq_some_iff.mp hhead
        exact firstOther_cons_of_ne hm (by simpa using Ne.symm ham)
    · by_cases hfound : firstOther [a, media] videoSsrcs = 0
      · rw [hfound]
        by_contra hr
        refine firstOther_ne_zero hrtx (Ne.symm hr) ?_ hfound
        simpa using ⟨har.symm, hne.symm⟩
      · refine (hvideo _ ((firstOther_found hfound).1)).resolve_left fun he => ?_
        exact (firstOther_found hfound).2 (by simp [he])

end Order

theorem flatMap_eq_flatMap_filter {α β : Type} {p : α → Bool} {f : α → List β} {l : List α}
    (h : ∀ x ∈ l, p x = false → f x = []) : l.flatMap f = (l.filter p).flatMap f := by
  induction l with
  | nil => rfl
  | cons x l ih =>
    rw [flatMap_cons, ih fun y hy => h y (mem_cons_of_mem x hy)]
    cases hx : p x with
    | true => rw [filter_cons_of_pos hx, flatMap_cons]
    | false =>
      rw [filter_cons_of_neg (by simp [hx]), h x mem_cons_self hx, nil_append]

/-- The offers without simulcast, with one audio and one video section.  The audio section
declares one SSRC, the video section a group of two, each on at least one line; other sections
declare none. -/
structure HasSsrcs (offer : UpOffer) (audio video : Section) (a media rtx : UInt32)
    (videoSsrcs : List UInt32) : Prop where
  session : ∀ line ∈ offer.session, "a=ssrc:".toList.isPrefixOf line = false
  plain : ∀ line ∈ offer.lines, contains line "simulcast".toList = false
  tracks : offer.sections.filter (fun x => x.isAudio || x.isVideo) = [audio, video] ∨
    offer.sections.filter (fun x => x.isAudio || x.isVideo) = [video, audio]
  kinds : audio.isAudio ∧ video.isVideo
  others : ∀ x ∈ offer.sections, x.isAudio = false → x.isVideo = false →
    x.linesWith "a=ssrc:" = []
  audioLines : audio.linesWith "a=ssrc:" ≠ []
  audioSsrc : ∀ line ∈ audio.linesWith "a=ssrc:", Declares line a
  group : "a=ssrc-group:FID ".toList ++ decimal media.toNat ++ ' ' :: decimal rtx.toNat ∈ video.body
  videoLines : List.Forall₂ Declares (video.linesWith "a=ssrc:") videoSsrcs
  media_mem : media ∈ videoSsrcs
  rtx_mem : rtx ∈ videoSsrcs
  only : ∀ x ∈ videoSsrcs, x = media ∨ x = rtx
  ne : media ≠ rtx

namespace HasSsrcs

variable {offer : UpOffer} {audio video : Section} {a media rtx : UInt32} {videoSsrcs : List UInt32}
  (h : HasSsrcs offer audio video a media rtx videoSsrcs)

/-- The SSRC of the audio section, as often as it has lines. -/
def audioSsrcs (audio : Section) (a : UInt32) : List UInt32 :=
  (audio.linesWith "a=ssrc:").map fun _ => a

include h in
theorem forall₂_audio : List.Forall₂ Declares (audio.linesWith "a=ssrc:") (audioSsrcs audio a) :=
  List.forall₂_map_right_iff.mpr (List.forall₂_same.mpr h.audioSsrc)

include h in
theorem filter_lines : offer.lines.filter (fun line => "a=ssrc:".toList.isPrefixOf line) =
      (offer.sections.filter fun x => x.isAudio || x.isVideo).flatMap
        (Section.linesWith "a=ssrc:") := by
  rw [UpOffer.filter_lines h.session]
  refine flatMap_eq_flatMap_filter fun x hx hkind => ?_
  rw [Bool.or_eq_false_iff] at hkind
  exact h.others x hx hkind.1 hkind.2

include h in
theorem scanOffer_eq (hscan : ReadsDecimals sscanf) {sdp : Text}
    (hsdp : Signaling.lines sdp = offer.lines) {ssrcs : List UInt32}
    (hssrcs : List.Forall₂ Declares ((offer.sections.filter fun x =>
      x.isAudio || x.isVideo).flatMap (Section.linesWith "a=ssrc:")) ssrcs) :
    scanOffer sscanf sdp = ssrcs.foldl OfferScan.add {} := by
  rw [scanOffer, hsdp]
  refine scan_eq hscan h.plain ?_ _
  rw [h.filter_lines]
  exact hssrcs

end HasSsrcs

theorem parsed_iff {sdp : Text}
    (hscan : scanOffer sscanf sdp = ssrcs.foldl OfferScan.add {}) (ssrc a media rtx : UInt32) :
    (parseUpOfferSDP sscanf ssrc sdp).1.rtpParameters.encodings = [{ ssrc := a }] ∧
      (parseUpOfferSDP sscanf ssrc sdp).2.rtpParameters.encodings =
        [{ ssrc := media, rtx := some rtx }] ∧
      (∀ mapping ∈ (parseUpOfferSDP sscanf ssrc sdp).1.rtpMapping.encodings ++
        (parseUpOfferSDP sscanf ssrc sdp).2.rtpMapping.encodings, mapping.mappedSsrc ≠ 0) ↔
    (firstOther [] ssrcs = a ∧ firstOther [a] ssrcs = media ∧ firstOther [a, media] ssrcs = rtx) ∧
      a + 1 ≠ 0 ∧ media + 1 ≠ 0 := by
  simp only [parseUpOfferSDP, hscan, foldl_add, getAudioOpusParam, getVideoVP8Param, videoVP8Param,
    videoVP8Mapping, Bool.false_eq_true, if_false, List.cons.injEq, Encoding.mk.injEq,
    Option.some.injEq, and_true, true_and, mem_append, mem_singleton, forall_eq_or_imp, forall_eq]
  grind

/-- **The SSRCs of the producers** are those that the sections declare, and their mapped SSRCs
are not 0, exactly if the audio section comes first, its SSRC is not 0, nor the largest one,
nor that of the video section, and the same holds of the media SSRC, which has the first line
unless the other one is 0. -/
theorem ssrcs_agree_iff {sscanf : Text → UInt32} (hscan : ReadsDecimals sscanf) {sdp : Text}
    {offer : UpOffer} (hsdp : lines sdp = offer.lines) {audio video : Section}
    {a media rtx : UInt32} {videoSsrcs : List UInt32}
    (h : HasSsrcs offer audio video a media rtx videoSsrcs) (ssrc : UInt32) :
    (parseUpOfferSDP sscanf ssrc sdp).1.rtpParameters.encodings = [{ ssrc := a }] ∧
      (parseUpOfferSDP sscanf ssrc sdp).2.rtpParameters.encodings =
        [{ ssrc := media, rtx := some rtx }] ∧
      (∀ mapping ∈ (parseUpOfferSDP sscanf ssrc sdp).1.rtpMapping.encodings ++
        (parseUpOfferSDP sscanf ssrc sdp).2.rtpMapping.encodings, mapping.mappedSsrc ≠ 0) ↔
    offer.sections.filter (fun x => x.isAudio || x.isVideo) = [audio, video] ∧
      a ≠ 0 ∧ media ≠ 0 ∧ a ≠ media ∧ a ≠ rtx ∧ (rtx = 0 ∨ videoSsrcs.head? = some media) ∧
      a + 1 ≠ 0 ∧ media + 1 ≠ 0 := by
  have haudio : ∀ x ∈ HasSsrcs.audioSsrcs audio a, x = a := by
    intro x hx
    obtain ⟨-, -, rfl⟩ := mem_map.mp hx
    rfl
  have hmem : a ∈ HasSsrcs.audioSsrcs audio a := by
    obtain ⟨line, hline⟩ := exists_mem_of_ne_nil _ h.audioLines
    exact mem_map.mpr ⟨line, hline, rfl⟩
  rcases h.tracks with htracks | htracks
  · have hssrcs : List.Forall₂ Declares _ (HasSsrcs.audioSsrcs audio a ++ videoSsrcs) :=
      rel_append h.forall₂_audio h.videoLines
    rw [parsed_iff (h.scanOffer_eq hscan hsdp (by simpa [htracks] using hssrcs)),
      found_iff_of_audio_first haudio hmem h.only h.media_mem h.rtx_mem h.ne]
    simp only [htracks, true_and, and_assoc]
  · have hssrcs : List.Forall₂ Declares _ (videoSsrcs ++ HasSsrcs.audioSsrcs audio a) :=
      rel_append h.videoLines h.forall₂_audio
    rw [parsed_iff (h.scanOffer_eq hscan hsdp (by simpa [htracks] using hssrcs))]
    refine ⟨fun hfound => ?_, fun hfirst => ?_⟩
    · obtain ⟨⟨h₀, h₁, h₂⟩, -⟩ := hfound
      exact (not_found_of_video_first h.media_mem h.rtx_mem h.only h.ne h₀ h₁ h₂).elim
    · -- a section is not of both kinds
      have hsame := (List.cons.inj (htracks.symm.trans hfirst.1)).1
      exact absurd h.kinds.2 (by rw [hsame]; exact Section.not_isVideo_of_isAudio h.kinds.1)

def audioSsrcOne : Section := .of "audio 9" ["a=ssrc:1 cname:a", "a=ssrc:1"]

def videoSsrcsTwoThree : Section := .of "video 9" ["a=ssrc-group:FID 2 3", "a=ssrc:2", "a=ssrc:3"]

theorem hasSsrcs_pair {sections : List Section} (h : sections = [audioSsrcOne, videoSsrcsTwoThree] ∨
      sections = [videoSsrcsTwoThree, audioSsrcOne]) :
    HasSsrcs ⟨[], sections, nofun⟩ audioSsrcOne videoSsrcsTwoThree 1 2 3 [2, 3] where
  session := nofun
  plain := by rcases h with rfl | rfl <;> decide +kernel
  tracks := by
    rcases h with rfl | rfl
    · exact .inl rfl
    · exact .inr rfl
  kinds := by decide +kernel
  others x hx := by
    rcases h with rfl | rfl <;> rcases mem_pair.mp hx with rfl | rfl <;> decide +kernel
  audioLines := by decide +kernel
  audioSsrc line hline := by
    rcases mem_pair.mp hline with rfl | rfl
    · exact ⟨" cname:a".toList, by decide +kernel, .inr ⟨_, rfl⟩⟩
    · exact ⟨[], by decide +kernel, .inl rfl⟩
  group := by decide +kernel
  videoLines := .cons ⟨[], by decide +kernel, .inl rfl⟩
    (.cons ⟨[], by decide +kernel, .inl rfl⟩ .nil)
  media_mem := by decide
  rtx_mem := by decide
  only := by simp
  ne := by decide

/-- `fmt.Sscanf` on decimal numbers. -/
def scanDecimal (text : Text) : UInt32 := UInt32.ofNat (Nat.ofDigitChars 10 text 0)

theorem ssrcs_agree_audio_first :
    (parseUpOfferSDP scanDecimal 0 ("m=audio 9\r\na=ssrc:1 cname:a\r\na=ssrc:1\r\n" ++
      "m=video 9\r\na=ssrc-group:FID 2 3\r\na=ssrc:2\r\n" ++
      "a=ssrc:3").toList).2.rtpParameters.encodings = [{ ssrc := 2, rtx := some 3 }] :=
  ((ssrcs_agree_iff (fun n => by
      rw [scanDecimal, decimal, Nat.ofDigitChars_ten_toDigits, UInt32.ofNat_toNat])
    (by decide +kernel) (hasSsrcs_pair (.inl rfl)) 0).mpr
      ⟨rfl, by decide, by decide, by decide, by decide, .inr rfl, by decide, by decide⟩).2.1

/-- A video section that comes first gives its media SSRC to the audio producer. -/
theorem ssrcs_differ_video_first :
    lines ("m=video 9\r\na=ssrc-group:FID 2 3\r\na=ssrc:2\r\na=ssrc:3\r\n" ++
      "m=audio 9\r\na=ssrc:1 cname:a\r\na=ssrc:1").toList =
        UpOffer.lines ⟨[], [videoSsrcsTwoThree, audioSsrcOne], nofun⟩ ∧
    HasSsrcs ⟨[], [videoSsrcsTwoThree, audioSsrcOne], nofun⟩ audioSsrcOne videoSsrcsTwoThree
      1 2 3 [2, 3] ∧
    (parseUpOfferSDP scanDecimal 0 ("m=video 9\r\na=ssrc-group:FID 2 3\r\na=ssrc:2\r\n" ++
      "a=ssrc:3\r\n" ++
      "m=audio 9\r\na=ssrc:1 cname:a\r\na=ssrc:1").toList).1.rtpParameters.encodings ≠
        [{ ssrc := 1 }] :=
  ⟨by decide +kernel, hasSsrcs_pair (.inr rfl), by decide +kernel⟩

end Mediasoup.Signaling
