/-
The streams of a producer over a run of received packets.

* `Lookup` and `getRtpStream_ok` — all that a lookup can do: find a stream, create
  one, attach an RTX SSRC to one, or nothing.
* `Consistent` — the maps and the streams agree; every step keeps it.
* `Collides` — the packet brings the declared SSRC of an encoding whose stream exists
  under another SSRC.
* `run_streams_separate` — over a run from an accepted configuration the streams stay
  apart, and no assertion fails exactly when no packet collides.
-/
import Mediasoup.Rtp.Producer

open List AList Option Runs

namespace Mediasoup

namespace Producer

/-! ### The maps and the streams agree -/

/-- The four maps describe the same streams. -/
structure Consistent (p : Producer) : Prop where
  ssrc_iff : ∀ ssrc id, p.mapSsrcRtpStream.lookup ssrc = some id ↔
    ∃ stream : RtpStreamRecv, p.streams[id]? = some stream ∧ stream.ssrc = ssrc
  rtx_iff : ∀ ssrc id, p.mapRtxSsrcRtpStream.lookup ssrc = some id ↔
    ∃ stream : RtpStreamRecv, p.streams[id]? = some stream ∧ stream.rtx.map Prod.snd = some ssrc
  idx_iff : ∀ i id, p.rtpStreamByEncodingIdx[i]? = some (some id) ↔
    ∃ stream : RtpStreamRecv, p.streams[id]? = some stream ∧ stream.encodingIdx = i
  rid_eq : ∀ (id : StreamId) (stream : RtpStreamRecv), p.streams[id]? = some stream →
    (p.rtpParameters.encodings[stream.encodingIdx]?).map RtpEncodingParameters.rid =
      some stream.rid
  idx_length : p.rtpStreamByEncodingIdx.length = p.rtpParameters.encodings.length
  mapped_length : p.mappedSsrcs.length = p.rtpParameters.encodings.length
  mapped : ∀ id < p.streams.length, ∃ mappedSsrc,
    p.mapRtpStreamMappedSsrc.lookup id = some mappedSsrc

theorem consistent_new {data : ProducerData} {p : Producer} (h : new data = .ok p) :
    p.Consistent := by
  obtain ⟨params, -, h⟩ := bind_eq_ok.mp h
  split at h
  · split at h
    · cases h
    obtain ⟨mappedSsrcs, -, h⟩ := bind_eq_ok.mp h
    split at h
    · cases h
    rename_i hlen
    split at h
    · cases h
    cases h
    -- no stream yet
    constructor
    all_goals try simp
    · intro i id
      simp [List.getElem?_replicate]
    · simpa using (not_not.mp hlen).symm
  · cases h

variable {i : ℕ} {id : StreamId} {stream : RtpStreamRecv} {encoding : RtpEncodingParameters}

theorem getElem?_concat_eq_some_iff {α : Type*} {l : List α} {a b : α} :
    (l ++ [a])[i]? = some b ↔ l[i]? = some b ∨ (i = l.length ∧ b = a) := by
  rcases lt_trichotomy i l.length with h | rfl | h
  · rw [List.getElem?_append_left h]
    exact ⟨.inl, fun h' => h'.resolve_right fun h'' => by omega⟩
  · simp [eq_comm]
  · rw [List.getElem?_eq_none (by simp; omega), List.getElem?_eq_none (by omega)]
    simp
    omega

theorem exists_concat_iff {α : Type*} {l : List α} {a : α} {P : α → Prop} :
    (∃ b, (l ++ [a])[i]? = some b ∧ P b) ↔ (∃ b, l[i]? = some b ∧ P b) ∨ (i = l.length ∧ P a) := by
  simp [getElem?_concat_eq_some_iff, or_and_right, exists_or, and_assoc]

theorem Consistent.insertStream {p : Producer} (hp : p.Consistent) {mappedSsrc : UInt32}
    (hnew : p.mapSsrcRtpStream.lookup stream.ssrc = none)
    (hfree : p.rtpStreamByEncodingIdx[stream.encodingIdx]? = some none)
    (hrid : (p.rtpParameters.encodings[stream.encodingIdx]?).map RtpEncodingParameters.rid =
      some stream.rid) (hrtx : stream.rtx = none) :
    (p.insertStream stream mappedSsrc).Consistent := by
  have hlt : stream.encodingIdx < p.rtpStreamByEncodingIdx.length :=
    (List.getElem?_eq_some_iff.mp hfree).1
  constructor
  · intro ssrc id
    simp only [Producer.insertStream, exists_concat_iff]
    -- the new entry is for an ssrc that no stream had
    by_cases h : ssrc = stream.ssrc
    · rw [h, lookup_insert, ← hp.ssrc_iff, hnew]
      simp [eq_comm]
    · rw [lookup_insert_ne h, hp.ssrc_iff]
      simp [Ne.symm h]
  · intro ssrc id
    simp [Producer.insertStream, exists_concat_iff, hp.rtx_iff, hrtx]
  · intro i id
    simp only [Producer.insertStream, exists_concat_iff]
    by_cases h : i = stream.encodingIdx
    · rw [h, List.getElem?_set_self hlt, ← hp.idx_iff, hfree]
      simp [eq_comm]
    · rw [List.getElem?_set_ne (Ne.symm h), hp.idx_iff]
      simp [Ne.symm h]
  · intro id s hs
    rcases getElem?_concat_eq_some_iff.mp hs with hs | ⟨-, rfl⟩
    · exact hp.rid_eq id s hs
    · exact hrid
  · simpa [Producer.insertStream] using hp.idx_length
  · exact hp.mapped_length
  · intro id hid
    simp only [Producer.insertStream, length_append, length_singleton] at hid ⊢
    by_cases h : id = p.streams.length
    · exact ⟨mappedSsrc, by rw [h, lookup_insert]⟩
    · rw [lookup_insert_ne h]
      exact hp.mapped id (by omega)

theorem Consistent.setRtx {p : Producer} (hp : p.Consistent) {packet : IncomingPacket}
    (hs : p.streams[id]? = some stream) (hrtx : stream.rtx = none)
    (hnew : p.mapRtxSsrcRtpStream.lookup packet.ssrc = none) :
    (p.setRtx id stream packet).Consistent := by
  have hlt : id < p.streams.length := (List.getElem?_eq_some_iff.mp hs).1
  -- the changed stream differs from the old one in its RTX data only
  have hkeep : ∀ {Q : RtpStreamRecv → Prop}
      (_ : Q { stream with rtx := some (packet.payloadType, packet.ssrc) } ↔ Q stream) (j : ℕ),
      (∃ s, (p.setRtx id stream packet).streams[j]? = some s ∧ Q s) ↔
        ∃ s, p.streams[j]? = some s ∧ Q s := by
    intro Q hQ j
    simp only [Producer.setRtx]
    by_cases h : j = id
    · subst h
      rw [List.getElem?_set_self hlt, hs]
      simpa using hQ
    · rw [List.getElem?_set_ne (Ne.symm h)]
  constructor
  · intro ssrc j
    rw [hkeep Iff.rfl]
    exact hp.ssrc_iff ssrc j
  · intro ssrc j
    simp only [Producer.setRtx]
    by_cases h : ssrc = packet.ssrc
    · subst h
      rw [lookup_insert]
      by_cases hj : j = id
      · subst hj
        simp [List.getElem?_set_self hlt]
      · rw [List.getElem?_set_ne (Ne.symm hj), ← hp.rtx_iff, hnew]
        simp [Ne.symm hj]
    · rw [lookup_insert_ne h, hp.rtx_iff]
      by_cases hj : j = id
      · subst hj
        simp [List.getElem?_set_self hlt, hs, hrtx, Ne.symm h]
      · rw [List.getElem?_set_ne (Ne.symm hj)]
  · intro i j
    rw [hkeep Iff.rfl]
    exact hp.idx_iff i j
  · intro j s hs'
    simp only [Producer.setRtx] at hs' ⊢
    by_cases h : j = id
    · subst h
      rw [List.getElem?_set_self hlt] at hs'
      cases hs'
      exact hp.rid_eq j stream hs
    · rw [List.getElem?_set_ne (Ne.symm h)] at hs'
      exact hp.rid_eq j s hs'
  · exact hp.idx_length
  · exact hp.mapped_length
  · intro j hj
    simp only [Producer.setRtx, length_set] at hj ⊢
    exact hp.mapped j hj

/-! ### What a lookup can do -/

/-- The effects of looking for the stream of a packet. -/
inductive Lookup (p : Producer) (packet : IncomingPacket) : Producer → Option StreamId → Prop
  | nothing : Lookup p packet p none
  | found {id : StreamId}
      (h : p.mapSsrcRtpStream.lookup packet.ssrc = some id ∨
        p.mapRtxSsrcRtpStream.lookup packet.ssrc = some id) :
      Lookup p packet p (some id)
  | created {stream : RtpStreamRecv} {mappedSsrc : UInt32} (hssrc : stream.ssrc = packet.ssrc)
      (hnew : p.mapSsrcRtpStream.lookup packet.ssrc = none)
      (hfree : p.rtpStreamByEncodingIdx[stream.encodingIdx]? = some none)
      (hrid : (p.rtpParameters.encodings[stream.encodingIdx]?).map RtpEncodingParameters.rid =
        some stream.rid)
      (hrtx : stream.rtx = none) :
      Lookup p packet (p.insertStream stream mappedSsrc) (some p.streams.length)
  | attached {id : StreamId} {stream : RtpStreamRecv} (hs : p.streams[id]? = some stream)
      (hrtx : stream.rtx = none) (hnew : p.mapRtxSsrcRtpStream.lookup packet.ssrc = none) :
      Lookup p packet (p.setRtx id stream packet) (some id)

/-- A lookup ends with one of its effects, unless a feature codec has no `apt`. -/
def Looks (p : Producer) (packet : IncomingPacket) :
    Except Abort (Producer × Option StreamId) → Prop
  | .ok (p', found) => Lookup p packet p' found
  | .error reason => reason = .keyDoesNotExist

theorem Lookup.consistent {p p' : Producer} {packet : IncomingPacket} {found : Option StreamId}
    (h : Lookup p packet p' found) (hp : p.Consistent) : p'.Consistent := by
  cases h with
  | nothing | found => exact hp
  | created hssrc hnew hfree hrid hrtx =>
    exact hp.insertStream (hssrc ▸ hnew) hfree hrid hrtx
  | attached hs hrtx hnew => exact hp.setRtx hs hrtx hnew

theorem Lookup.matches {p p' : Producer} {packet : IncomingPacket}
    (h : Lookup p packet p' (some id)) (hp : p.Consistent) :
    ∃ stream, p'.streams[id]? = some stream ∧
      (stream.ssrc = packet.ssrc ∨ stream.rtx.map Prod.snd = some packet.ssrc) := by
  cases h with
  | found h =>
    rcases h with h | h
    · obtain ⟨stream, hs, heq⟩ := (hp.ssrc_iff _ _).mp h
      exact ⟨stream, hs, .inl heq⟩
    · obtain ⟨stream, hs, heq⟩ := (hp.rtx_iff _ _).mp h
      exact ⟨stream, hs, .inr heq⟩
  | @created stream _ hssrc =>
    exact ⟨stream, by simp [Producer.insertStream], .inl hssrc⟩
  | @attached _ stream hs =>
    refine ⟨{ stream with rtx := some (packet.payloadType, packet.ssrc) }, ?_, .inr rfl⟩
    exact List.getElem?_set_self (List.getElem?_eq_some_iff.mp hs).1

/-! ### The loops over the encodings -/

section FindEncoding

variable {params : RtpParameters} {payloadType : UInt8}
  {skip isMedia isRtx : RtpEncodingParameters → Bool}

theorem findEncoding_cons {i : ℕ} {encoding : RtpEncodingParameters}
    {rest : List RtpEncodingParameters} (hskip : skip encoding = false)
    {mediaCodec : RtpCodecParameters} {rtxCodec : Option RtpCodecParameters}
    (hmedia : params.getCodecForEncoding encoding = .ok mediaCodec)
    (hrtx : params.getRtxCodecForEncoding encoding = .ok rtxCodec) :
    findEncoding params payloadType skip isMedia isRtx i (encoding :: rest) =
      if mediaCodec.payloadType = payloadType ∧ isMedia encoding then
        .ok (some (i, encoding, .media mediaCodec))
      else if rtxCodec.map (·.payloadType) = some payloadType ∧ isRtx encoding then
        .ok (some (i, encoding, .rtx))
      else findEncoding params payloadType skip isMedia isRtx (i + 1) rest := by
  rw [findEncoding, hskip, hmedia, hrtx]
  rfl

theorem findEncoding_error {reason : Abort} : ∀ (encodings : List RtpEncodingParameters) (i : ℕ),
      (∀ encoding ∈ encodings, encoding ∈ params.encodings) →
      findEncoding params payloadType skip isMedia isRtx i encodings = .error reason →
      reason = .keyDoesNotExist := by
  intro encodings
  induction encodings with
  | nil => intro i _ h; cases h
  | cons encoding rest ih =>
    intro i hmem h
    have hrest := ih (i + 1) fun e he => hmem e (mem_cons_of_mem _ he)
    cases hskip : skip encoding with
    | true =>
      rw [findEncoding, hskip] at h
      exact hrest h
    | false =>
      obtain ⟨mediaCodec, -, hmedia, -⟩ :=
        params.getCodecForEncoding_eq (hmem encoding mem_cons_self)
      -- the media codec exists, so only the RTX lookup can throw
      cases hrtx : params.getRtxCodecForEncoding encoding with
      | error reason' =>
        rw [findEncoding, hskip, hmedia, hrtx] at h
        cases h
        exact RtpParameters.findRtxCodec_error _ hrtx
      | ok rtxCodec =>
        rw [findEncoding_cons hskip hmedia hrtx] at h
        split_ifs at h
        exact hrest h

theorem findEncoding_some {j : ℕ} {encoding : RtpEncodingParameters} {kind : PacketKind} :
    ∀ (encodings : List RtpEncodingParameters) (i : ℕ),
      findEncoding params payloadType skip isMedia isRtx i encodings =
        .ok (some (j, encoding, kind)) →
      ∃ k, j = i + k ∧ encodings[k]? = some encoding ∧ skip encoding = false := by
  intro encodings
  induction encodings with
  | nil => intro i h; cases h
  | cons e rest ih =>
    intro i h
    have hrest : findEncoding params payloadType skip isMedia isRtx (i + 1) rest =
        .ok (some (j, encoding, kind)) →
        ∃ k, j = i + k ∧ (e :: rest)[k]? = some encoding ∧ skip encoding = false := by
      intro h
      obtain ⟨k, rfl, hk, hskip⟩ := ih (i + 1) h
      exact ⟨k + 1, by omega, hk, hskip⟩
    cases hskip : skip e with
    | true =>
      rw [findEncoding, hskip] at h
      exact hrest h
    | false =>
      rw [findEncoding, hskip, if_neg Bool.false_ne_true] at h
      obtain ⟨mediaCodec, -, h⟩ := bind_eq_ok.mp h
      obtain ⟨rtxCodec, -, h⟩ := bind_eq_ok.mp h
      split_ifs at h
      · cases h
        exact ⟨0, rfl, rfl, hskip⟩
      · cases h
        exact ⟨0, rfl, rfl, hskip⟩
      · exact hrest h

end FindEncoding

/-! ### Creating and attaching -/

variable {p : Producer} {packet : IncomingPacket}

theorem attachRtx_looks (hnew : p.mapRtxSsrcRtpStream.lookup packet.ssrc = none)
    (target : Option StreamId) : Looks p packet (.ok (p.attachRtx packet target)) := by
  unfold attachRtx
  split
  · exact .nothing
  split
  · exact .nothing
  rename_i stream hs
  split
  · exact .nothing
  · rename_i hrtx
    exact .attached hs hrtx hnew

section

variable (hp : p.Consistent)
include hp

theorem createRtpStream_looks (hnew : p.mapSsrcRtpStream.lookup packet.ssrc = none)
    (henc : p.rtpParameters.encodings[i]? = some encoding)
    (hfree : p.rtpStreamByEncodingIdx[i]? = some none) (codec : RtpCodecParameters) :
    Looks p packet (p.createRtpStream packet codec i) := by
  have hlt : i < p.mappedSsrcs.length := by
    rw [hp.mapped_length]
    exact (List.getElem?_eq_some_iff.mp henc).1
  rw [createRtpStream, if_neg (lookup_eq_none.mp hnew), hfree]
  simp only [henc, List.getElem?_eq_getElem hlt]
  exact .created rfl hnew hfree (by rw [henc]; rfl) rfl

theorem Consistent.slot (henc : p.rtpParameters.encodings[i]? = some encoding) :
    p.rtpStreamByEncodingIdx[i]? = some none ∨
      ∃ id, p.rtpStreamByEncodingIdx[i]? = some (some id) := by
  have hlt : i < p.rtpStreamByEncodingIdx.length := by
    rw [hp.idx_length]
    exact (List.getElem?_eq_some_iff.mp henc).1
  cases hslot : p.rtpStreamByEncodingIdx[i] with
  | none => exact .inl (by rw [List.getElem?_eq_getElem hlt, hslot])
  | some id => exact .inr ⟨id, by rw [List.getElem?_eq_getElem hlt, hslot]⟩

theorem Consistent.mem_iteration (packet : IncomingPacket)
    (hs : p.streams[id]? = some stream) : id ∈ p.iteration packet := by
  have hlookup := (hp.ssrc_iff stream.ssrc id).mpr ⟨stream, hs, rfl⟩
  have hmem := mem_lookup_iff.mp (mem_def.mpr hlookup)
  exact mem_rotate.mpr (mem_map.mpr ⟨_, hmem, rfl⟩)

theorem Consistent.slot_of_findRid {rid : String}
    (hrid : p.findRid packet rid = none) (henc : p.rtpParameters.encodings[i]? = some encoding)
    (heq : encoding.rid = rid) : p.rtpStreamByEncodingIdx[i]? = some none := by
  refine (hp.slot henc).resolve_right ?_
  rintro ⟨id, hid⟩
  obtain ⟨stream, hs, rfl⟩ := (hp.idx_iff i id).mp hid
  have hstream := hp.rid_eq id stream hs
  rw [henc] at hstream
  have hnone := List.find?_eq_none.mp hrid id (hp.mem_iteration packet hs)
  rw [hs] at hnone
  exact hnone (by simpa [heq] using hstream.symm)

theorem Consistent.slot_of_iteration (hnil : p.iteration packet = [])
    (henc : p.rtpParameters.encodings[i]? = some encoding) :
    p.rtpStreamByEncodingIdx[i]? = some none := by
  refine (hp.slot henc).resolve_right ?_
  rintro ⟨id, hid⟩
  obtain ⟨stream, hs, -⟩ := (hp.idx_iff i id).mp hid
  have hmem := hp.mem_iteration packet hs
  rw [hnil] at hmem
  cases hmem

end

section NewSsrc

variable (hp : p.Consistent) (hnew : p.mapSsrcRtpStream.lookup packet.ssrc = none)
  (hnew' : p.mapRtxSsrcRtpStream.lookup packet.ssrc = none)

include hp hnew hnew'

theorem ridLookup_looks (rid : String) : Looks p packet (p.ridLookup packet rid) := by
  unfold ridLookup
  split
  · rename_i h
    exact findEncoding_error _ _ (fun _ h => h) h
  · exact .nothing
  · rename_i i encoding codec h
    obtain ⟨k, rfl, henc, hskip⟩ := findEncoding_some _ _ h
    split
    · exact .nothing
    rename_i hrid
    rw [Nat.zero_add]
    exact createRtpStream_looks hp hnew henc
      (hp.slot_of_findRid hrid henc (by simpa using hskip)) codec
  · exact attachRtx_looks hnew' _

theorem singleLookup_looks : Looks p packet (p.singleLookup packet) := by
  unfold singleLookup
  split
  · rename_i encoding hsingle
    split
    · split
      · rename_i h
        refine findEncoding_error _ _ (fun e he => ?_) h
        rw [hsingle]
        exact he
      · exact .nothing
      · rename_i codec h
        split
        · exact .nothing
        · rename_i hnil
          have henc : p.rtpParameters.encodings[0]? = some encoding := by rw [hsingle]; rfl
          exact createRtpStream_looks hp hnew henc (hp.slot_of_iteration hnil henc) codec
      · exact attachRtx_looks hnew' _
    · exact .nothing
  · exact .nothing

end NewSsrc

/-! ### Collisions -/

/-- The encoding declares the packet's SSRC, and its codec has the payload type.  An
encoding without SSRC declares `0`. -/
def declares (packet : IncomingPacket) (encoding : RtpEncodingParameters) : Bool :=
  encoding.codecPayloadType = packet.payloadType ∧ encoding.ssrc = packet.ssrc

/-- The packet has an SSRC that no stream has, and the first encoding that declares it
has a stream already.  (The condition on the codecs says that the lookup gets that far:
it stops at a feature codec without `apt`.) -/
structure Collides (p : Producer) (packet : IncomingPacket) (i : ℕ) : Prop where
  media_new : packet.ssrc ∉ p.mapSsrcRtpStream
  rtx_new : packet.ssrc ∉ p.mapRtxSsrcRtpStream
  declared : p.rtpParameters.encodings.findIdx? (declares packet) = some i
  codecs : ∀ encoding ∈ p.rtpParameters.encodings.take (i + 1), ∃ codec,
    p.rtpParameters.getRtxCodecForEncoding encoding = .ok codec
  occupied : ∃ id, p.rtpStreamByEncodingIdx[i]? = some (some id)

theorem findEncoding_media_iff {params : RtpParameters} {j : ℕ} :
    ∀ (encodings : List RtpEncodingParameters) (i : ℕ),
      (∀ encoding ∈ encodings, encoding ∈ params.encodings) →
      ((∃ encoding codec, findEncoding params packet.payloadType (fun _ => false)
          (fun encoding => encoding.ssrc = packet.ssrc)
          (fun encoding => encoding.rtx = some packet.ssrc) i encodings =
            .ok (some (j, encoding, .media codec))) ↔
        ∃ k, j = i + k ∧ encodings.findIdx? (declares packet) = some k ∧
          ∀ encoding ∈ encodings.take (k + 1), ∃ codec,
            params.getRtxCodecForEncoding encoding = .ok codec) := by
  intro encodings
  induction encodings with
  | nil => simp [findEncoding]
  | cons e rest ih =>
    intro i hmem
    obtain ⟨mediaCodec, -, hmedia, hpt⟩ := params.getCodecForEncoding_eq (hmem e mem_cons_self)
    have hrest := ih (i + 1) fun e he => hmem e (mem_cons_of_mem _ he)
    cases hrtx : params.getRtxCodecForEncoding e with
    | error reason =>
      have herror : findEncoding params packet.payloadType (fun _ => false)
          (fun encoding => encoding.ssrc = packet.ssrc)
          (fun encoding => encoding.rtx = some packet.ssrc) i (e :: rest) = .error reason := by
        rw [findEncoding, if_neg Bool.false_ne_true, hmedia, hrtx]
        rfl
      simp [herror, hrtx]
    | ok rtxCodec =>
      rw [findEncoding_cons rfl hmedia hrtx, hpt, List.findIdx?_cons]
      by_cases hdecl : declares packet e
      · have hmatch : e.codecPayloadType = packet.payloadType ∧
            decide (e.ssrc = packet.ssrc) = true := by simpa [declares] using hdecl
        rw [if_pos hmatch, if_pos hdecl]
        simp [hrtx, eq_comm]
      · have hmatch : ¬(e.codecPayloadType = packet.payloadType ∧
            decide (e.ssrc = packet.ssrc) = true) := by simpa [declares] using hdecl
        rw [if_neg hmatch, if_neg hdecl]
        split_ifs with hisRtx
        · -- the payload type is that of an RTX codec, so no encoding takes it as media
          constructor
          · rintro ⟨_, _, h⟩
            cases h
          · rintro ⟨k, -, hk, -⟩
            obtain ⟨k', hk', -⟩ := map_eq_some_iff.mp hk
            obtain ⟨hlt, hdecl', -⟩ := List.findIdx?_eq_some_iff_getElem.mp hk'
            obtain ⟨codec, rfl, hcodec⟩ := map_eq_some_iff.mp hisRtx.1
            have hmem' := hmem _ (mem_cons_of_mem _ (getElem_mem hlt))
            refine absurd ?_ (params.mediaPayloadType_ne_rtx hmem' hrtx)
            simp only [declares, decide_eq_true_eq] at hdecl'
            exact hcodec.trans hdecl'.1.symm
        · rw [hrest]
          simp [hrtx, Nat.add_assoc, Nat.add_comm 1]

theorem ssrcEncoding_media_iff :
    (∃ encoding codec, p.ssrcEncoding packet = .ok (some (i, encoding, .media codec))) ↔
      p.rtpParameters.encodings.findIdx? (declares packet) = some i ∧
        ∀ encoding ∈ p.rtpParameters.encodings.take (i + 1), ∃ codec,
          p.rtpParameters.getRtxCodecForEncoding encoding = .ok codec := by
  rw [ssrcEncoding, findEncoding_media_iff _ 0 fun _ h => h]
  simp

theorem Collides.getRtpStream (h : Collides p packet i) :
    p.getRtpStream packet = .error .encodingIndexAlreadyExists := by
  obtain ⟨encoding, codec, hssrc⟩ := ssrcEncoding_media_iff.mpr ⟨h.declared, h.codecs⟩
  obtain ⟨id, hid⟩ := h.occupied
  have hnew := lookup_eq_none.mpr h.media_new
  rw [Producer.getRtpStream, hnew, lookup_eq_none.mpr h.rtx_new]
  simp only [newSsrc, hssrc]
  rw [createRtpStream, if_neg (lookup_eq_none.mp hnew), hid]

theorem getRtpStream_looks (hp : p.Consistent) (hfree : ∀ i, ¬Collides p packet i) :
    Looks p packet (p.getRtpStream packet) := by
  unfold Producer.getRtpStream
  split
  · rename_i id h
    exact .found (.inl h)
  rename_i hnew
  split
  · rename_i id h
    exact .found (.inr h)
  rename_i hnew'
  unfold newSsrc
  split
  · rename_i h
    exact findEncoding_error _ _ (fun _ h => h) h
  · rename_i i encoding codec h
    obtain ⟨k, hk, henc, -⟩ := findEncoding_some _ _ h
    rw [Nat.zero_add] at hk
    subst hk
    obtain ⟨hdecl, hcodecs⟩ := ssrcEncoding_media_iff.mp ⟨encoding, codec, h⟩
    refine createRtpStream_looks hp hnew henc ((hp.slot henc).resolve_right ?_) codec
    -- an occupied encoding would be a collision
    intro hocc
    exact hfree i ⟨lookup_eq_none.mp hnew, lookup_eq_none.mp hnew', hdecl,
      hcodecs, hocc⟩
  · exact attachRtx_looks hnew' _
  · split
    · exact ridLookup_looks hp hnew hnew' _
    · exact singleLookup_looks hp hnew hnew'

/-! ### Steps and runs -/

section Process

variable {id : StreamId} {stream : RtpStreamRecv}

theorem Consistent.notifyNewRtpStream (hp : p.Consistent) (hs : p.streams[id]? = some stream)
    (n : ℕ) : p.notifyNewRtpStream n id = .ok () := by
  obtain ⟨mappedSsrc, hmapped⟩ := hp.mapped id (List.getElem?_eq_some_iff.mp hs).1
  simp [Producer.notifyNewRtpStream, hmapped]

theorem Consistent.mangle (hp : p.Consistent) (hs : p.streams[id]? = some stream)
    (payloadType : UInt8) : ∃ known, p.mangle id payloadType = .ok known := by
  obtain ⟨mappedSsrc, hmapped⟩ := hp.mapped id (List.getElem?_eq_some_iff.mp hs).1
  unfold Producer.mangle
  split
  · exact ⟨false, rfl⟩
  · exact ⟨true, by rw [hmapped]⟩

theorem Consistent.passOn (hp : p.Consistent) (hs : p.streams[id]? = some stream) (n : ℕ)
    (payloadType : UInt8) (result : ReceiveRtpPacketResult) :
    ∃ result', p.passOn n id payloadType result = .ok result' := by
  obtain ⟨known, hknown⟩ := hp.mangle hs payloadType
  rw [Producer.passOn, hp.notifyNewRtpStream hs, hknown]
  cases p.paused with
  | true => exact ⟨result, rfl⟩
  | false => exact ⟨_, rfl⟩

theorem Consistent.processPacket (hp : p.Consistent) (hs : p.streams[id]? = some stream)
    (hmatch : stream.ssrc = packet.ssrc ∨ stream.rtx.map Prod.snd = some packet.ssrc) (n : ℕ) :
    ∃ result, p.processPacket n packet id = .ok result := by
  unfold Producer.processPacket
  simp only [hs]
  split_ifs with hmedia haccepted hrtx haccepted
  · exact hp.passOn hs n _ _
  · rw [hp.notifyNewRtpStream hs]
    exact ⟨.media, rfl⟩
  · exact hp.passOn hs n _ _
  · exact ⟨.retransmission, rfl⟩
  · rcases hmatch with h | h
    · exact absurd h.symm hmedia
    · rw [h] at hrtx
      exact absurd rfl hrtx

end Process

/-- The event is a packet that collides. -/
def Collision (p : Producer) : Event → Prop
  | .rtpPacket packet => ∃ i, Collides p packet i
  | .pause => False
  | .resume => False

/-- The assertions and aborts of the producer's own functions; `Parameters::GetInteger`
asserts that the key exists. -/
def AssertsInProducer (reason : Abort) : Prop := reason ≠ .keyDoesNotExist

/-- A packet that does not collide leads to a consistent state, or to a feature codec
without `apt`. -/
theorem receiveRtpPacket_spec (hp : p.Consistent) (hfree : ∀ i, ¬Collides p packet i) :
    p.receiveRtpPacket packet = .error .keyDoesNotExist ∨
      ∃ p' result, p'.Consistent ∧ p.receiveRtpPacket packet = .ok (p', result) := by
  have hlooks := getRtpStream_looks hp hfree
  rw [receiveRtpPacket]
  cases hget : p.getRtpStream packet with
  | error reason =>
    rw [hget] at hlooks
    exact .inl (congrArg Except.error hlooks)
  | ok result =>
    obtain ⟨p', found⟩ := result
    rw [hget] at hlooks
    -- the lookup only adds streams, and the one found matches the packet
    have hlookup : Lookup p packet p' found := hlooks
    have hp' := hlookup.consistent hp
    cases found with
    | none => exact .inr ⟨p', .discarded, hp', rfl⟩
    | some id =>
      obtain ⟨stream, hs, hmatch⟩ := hlookup.matches hp
      obtain ⟨result, hresult⟩ :=
        hp'.processPacket hs hmatch p.mapSsrcRtpStream.entries.length
      refine .inr ⟨p', result, hp', ?_⟩
      show (do
        let result ← p'.processPacket p.mapSsrcRtpStream.entries.length packet id
        return (p', result)) = _
      rw [hresult]
      rfl

theorem Consistent.setPaused (hp : p.Consistent) (paused : Bool) :
    ({ p with paused := paused } : Producer).Consistent :=
  ⟨hp.ssrc_iff, hp.rtx_iff, hp.idx_iff, hp.rid_eq, hp.idx_length, hp.mapped_length, hp.mapped⟩

theorem step_collides (h : Collides p packet i) :
    p.step (.rtpPacket packet) = .error .encodingIndexAlreadyExists := by
  rw [step, receiveRtpPacket, h.getRtpStream]
  rfl

theorem step_spec (hp : p.Consistent) {event : Event} (hfree : ¬Collision p event) :
    p.step event = .error .keyDoesNotExist ∨ ∃ p', p'.Consistent ∧ p.step event = .ok p' := by
  cases event with
  | rtpPacket packet =>
    rcases receiveRtpPacket_spec hp (not_exists.mp hfree) with h | ⟨p', result, hp', h⟩
    · exact .inl (by rw [step, h]; rfl)
    · exact .inr ⟨p', hp', by rw [step, h]; rfl⟩
  | pause => exact .inr ⟨_, hp.setPaused true, rfl⟩
  | resume => exact .inr ⟨_, hp.setPaused false, rfl⟩

theorem step_consistent (p : Producer) (event : Event) (p' : Producer) (hp : p.Consistent)
    (h : p.step event = .ok p') : p'.Consistent := by
  by_cases hfree : Collision p event
  · -- a collision does not give a state
    cases event with
    | rtpPacket packet =>
      obtain ⟨i, hi⟩ := hfree
      rw [step_collides hi] at h
      cases h
    | pause | resume => exact hfree.elim
  · rcases step_spec hp hfree with h' | ⟨q, hq, h'⟩
    · rw [h'] at h
      cases h
    · rw [h'] at h
      cases h
      exact hq

theorem not_collision_iff (p : Producer) (event : Event) (hp : p.Consistent) :
    ¬Collision p event ↔ Avoids AssertsInProducer (p.step event) := by
  constructor
  · intro hfree reason h
    rcases step_spec hp hfree with h' | ⟨q, -, h'⟩
    · rw [h'] at h
      cases h
      exact fun hne => hne rfl
    · rw [h'] at h
      cases h
  · intro havoid hcol
    cases event with
    | rtpPacket packet =>
      obtain ⟨i, hi⟩ := hcol
      exact havoid _ (step_collides hi) (by simp [AssertsInProducer])
    | pause | resume => exact hcol

/-- Encodings, media SSRCs and RTX SSRCs are not shared between streams. -/
structure StreamsSeparate (p : Producer) : Prop where
  encoding : ∀ (id id' : StreamId) (stream stream' : RtpStreamRecv),
    p.streams[id]? = some stream → p.streams[id']? = some stream' →
    stream.encodingIdx = stream'.encodingIdx → id = id'
  media : ∀ ssrc ssrc' id, p.mapSsrcRtpStream.lookup ssrc = some id →
    p.mapSsrcRtpStream.lookup ssrc' = some id → ssrc = ssrc'
  rtx : ∀ ssrc ∈ p.mapRtxSsrcRtpStream, ∃! id : StreamId, ∃ stream : RtpStreamRecv,
    p.streams[id]? = some stream ∧ stream.rtx.map Prod.snd = some ssrc

theorem Consistent.streamsSeparate (hp : p.Consistent) : p.StreamsSeparate := by
  constructor
  · intro id id' stream stream' hs hs' heq
    have h := (hp.idx_iff stream.encodingIdx id).mpr ⟨stream, hs, rfl⟩
    have h' := (hp.idx_iff stream'.encodingIdx id').mpr ⟨stream', hs', rfl⟩
    rw [heq, h'] at h
    exact (Option.some.inj (Option.some.inj h)).symm
  · intro ssrc ssrc' id h h'
    obtain ⟨stream, hs, rfl⟩ := (hp.ssrc_iff ssrc id).mp h
    obtain ⟨stream', hs', rfl⟩ := (hp.ssrc_iff ssrc' id).mp h'
    rw [hs] at hs'
    cases hs'
    rfl
  · intro ssrc hmem
    obtain ⟨id, hid⟩ := isSome_iff_exists.mp (lookup_isSome.mpr hmem)
    refine ⟨id, (hp.rtx_iff ssrc id).mp hid, fun id' h' => ?_⟩
    have h := (hp.rtx_iff ssrc id').mpr h'
    rw [hid] at h
    exact (Option.some.inj h).symm

/-- **Received RTP and the streams of a producer.**  From an accepted configuration,
whatever is received, the streams are kept apart; and none of the producer's assertions
fails exactly when no packet collides with the stream of its encoding. -/
theorem run_streams_separate {data : ProducerData} {p : Producer} (h : new data = .ok p)
    (events : List Event) : (∀ q, run step p events = .ok q → q.StreamsSeparate) ∧
      (Avoids AssertsInProducer (run step p events) ↔
        Along step (fun q event => ¬Collision q event) p events) := by
  have hp := consistent_new h
  refine ⟨fun q hq => ?_, ?_⟩
  · have hall : Along step (fun _ _ => True) p events :=
      along_of_forall (fun _ _ => trivial) events p
    exact (run_invariant (fun q e q' hq _ => step_consistent q e q' hq) events p q hp hall
      hq).streamsSeparate
  · exact along_iff_run_ok step_consistent not_collision_iff events p hp

/-- One VP8 encoding that declares a RID and no SSRC. -/
def ridOnlyData : ProducerData where
  rtpParameters :=
    { mid := some "0"
      codecs := [⟨⟨.video, .vp8⟩, 96, none⟩, ⟨⟨.video, .rtx⟩, 97, some (.integer 96)⟩]
      encodings := [⟨0, "r0", 0, false, none, 1, 1⟩] }
  mappingCodecs := [(96, 101), (97, 102)]
  mappingEncodings := [⟨false, true, some 1000⟩]
  headerExtensionIds := [4]
  paused := false

theorem ridOnlyData_accepted : ∃ p, new ridOnlyData = .ok p := by
  cases h : new ridOnlyData with
  | ok p => exact ⟨p, rfl⟩
  | error message =>
    have hok : (new ridOnlyData).toBool = true := by decide +kernel
    rw [h] at hok
    cases hok

/-- A stream found by RID, its RTX stream, and a second SSRC with the same RID. -/
theorem run_ridOnly_separate : ∃ p, new ridOnlyData = .ok p ∧
    (∀ q, run step p [.rtpPacket ⟨5, 96, some "r0", true, 0⟩,
      .rtpPacket ⟨6, 97, some "r0", true, 0⟩, .rtpPacket ⟨7, 96, some "r0", true, 0⟩] = .ok q →
      q.StreamsSeparate) := by
  obtain ⟨p, hp⟩ := ridOnlyData_accepted
  exact ⟨p, hp, (run_streams_separate hp _).1⟩

/-- Why a run from a request stops, if it does. -/
def abortOf (data : ProducerData) (events : List Event) : Option Abort :=
  match new data with
  | .error _ => none
  | .ok p => stopReason (run step p events)

/-- The encoding without SSRC declares SSRC zero: once its stream was found by RID, a
packet with SSRC zero aborts. -/
theorem run_ssrcZero_aborts : ∃ p, new ridOnlyData = .ok p ∧
    run step p [.rtpPacket ⟨5, 96, some "r0", true, 0⟩, .rtpPacket ⟨0, 96, none, true, 0⟩] =
      .error .encodingIndexAlreadyExists := by
  obtain ⟨p, hp⟩ := ridOnlyData_accepted
  have habort : abortOf ridOnlyData [.rtpPacket ⟨5, 96, some "r0", true, 0⟩,
      .rtpPacket ⟨0, 96, none, true, 0⟩] = some .encodingIndexAlreadyExists := by decide +kernel
  refine ⟨p, hp, ?_⟩
  simp only [abortOf, hp] at habort
  exact stopReason_eq_some.mp habort

end Producer

end Mediasoup
