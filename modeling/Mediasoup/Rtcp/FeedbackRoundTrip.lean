/-
Locally generated transport-wide feedback packets are parsed back.

`Serialize` writes each chunk as a 16-bit word and then the deltas.  The parser reads the
words until it has as many statuses as the header announces, and then one delta for each
status of a received packet.

* `Chunk.Reads`, `Readable` — the chunks that the parser reads as they were written, given
  the number of statuses still missing.
* `Chunk.parse_reads`, `parseChunks_readable`, `parseDeltas_written` — what the loops of the
  parser return on written chunks and deltas.
* `feedback_roundTrip` — after calls of `AddPacket` that all succeed and all fit, the serialized
  packet is accepted and has the results of the original one.
-/
import Mathlib.Tactic.Ring
import Mediasoup.Lib.Runs
import Mediasoup.Lib.Slices
import Mediasoup.Rtcp.FeedbackBuilder
import Mediasoup.Rtcp.Serialize

open List Bytes Checked Runs Slices

namespace Mediasoup

namespace TransportFeedback

/-! ### The serializer -/

def Status.code : Status → ℕ
  | notReceived => 0
  | smallDelta => 1
  | largeDelta => 2
  | reserved => 3
  | none => 4

namespace Chunk

/-- Symbols of `width` bits one after the other, the first one at bit `i`. -/
def symbols (width : ℕ) : List Status → ℕ → ℕ
  | [], _ => 0
  | s :: rest, i => s.code <<< i ||| symbols width rest (i - width)

def word : Chunk → ℕ
  | runLength status count => status.code <<< 13 ||| count &&& 0x1FFF
  | oneBitVector statuses => 0x8000 ||| symbols 1 statuses 13
  | twoBitVector statuses => 0x8000 ||| 1 <<< 14 ||| symbols 2 statuses 12

def serialize (chunk : Chunk) : Except Assertion (List UInt8) :=
  match chunk with
  | runLength _ _ => .ok (toBe16 chunk.word)
  | oneBitVector statuses =>
    if statuses.length ≤ 14 then .ok (toBe16 chunk.word) else .error .packetInfoSize
  | twoBitVector statuses =>
    if statuses.length ≤ 7 then .ok (toBe16 chunk.word) else .error .packetInfoSize

end Chunk

def serializeChunks : List Chunk → Except Assertion (List UInt8)
  | [] => .ok []
  | chunk :: chunks => do
    let bytes ← chunk.serialize
    let rest ← serializeChunks chunks
    return bytes ++ rest

/-- One byte for a small delta, two bytes for any other. -/
def deltaBytes (delta : ℤ) : List UInt8 :=
  if 0 ≤ delta ∧ delta ≤ 255 then [UInt8.ofNat delta.toNat] else toBe16 (delta % 65536).toNat

namespace LocalFeedback

def getSize (p : LocalFeedback) : ℕ := Rtcp.padTo4Bytes (12 + 8 + p.deltasAndChunksSize)

/-- The common header, the SSRCs and the fixed fields. -/
def headerBytes (p : LocalFeedback) : List UInt8 :=
  Rtcp.Compound.packetHeader 205 15 p.getSize ++ toBe32 p.senderSsrc.toNat ++
    toBe32 p.mediaSsrc.toNat ++ toBe16 p.baseSequenceNumber ++ toBe16 p.packetStatusCount ++
    toBe24 (p.referenceTime % 16777216).toNat ++ [UInt8.ofNat p.feedbackPacketCount]

/-- The bytes, and the packet with its pending chunks added. -/
def serialize (p : LocalFeedback) : Except Assertion (LocalFeedback × List UInt8) := do
  let p ← p.addPendingChunks
  let chunks ← serializeChunks p.chunks
  let bytes := p.headerBytes ++ chunks ++ p.deltas.flatMap deltaBytes
  return (p, bytes ++ List.replicate ((4 - bytes.length % 4) % 4) 0)

end LocalFeedback

/-! ### Chunks -/

variable {buf : List UInt8} {s : Status} {chunks : List Chunk} {missing : ℕ} {deltas : List ℤ}
  {pos : ℕ}

theorem Status.code_lt (h : s ≠ .none) : s.code < 4 := by
  cases s with
  | none => exact absurd rfl h
  | _ => decide

theorem Status.ofCode_code (h : s ≠ .none) : Status.ofCode s.code = s := by
  cases s with
  | none => exact absurd rfl h
  | _ => rfl

theorem Status.IsSymbol.ne_none (h : s.IsSymbol) : s ≠ .none := by
  rintro rfl
  rcases h with h | h <;> cases h

theorem Status.IsSymbol.ne_reserved (h : s.IsSymbol) : s ≠ .reserved := by
  rintro rfl
  rcases h with h | h <;> cases h

namespace Chunk

/-- The parser reads the word of this chunk as the chunk, when `missing` statuses are
missing. -/
def Reads : Chunk → ℕ → Prop
  | runLength status count, missing => status.IsSymbol ∧ 0 < count ∧
      count ≤ maxMissingPackets ∧ count ≤ missing
  | oneBitVector _, _ => False
  | twoBitVector statuses, missing => (∀ s ∈ statuses, s.IsSymbol) ∧ 0 < missing ∧
      statuses.length = min 7 missing

variable {chunk : Chunk}

theorem Full.reads (h : chunk.Full .written) (hle : chunk.getCount ≤ missing) :
    chunk.Reads missing := by
  cases chunk with
  | runLength status count => exact ⟨h.1, h.2.1, h.2.2.1, hle⟩
  | oneBitVector statuses => exact h.elim
  | twoBitVector statuses =>
    have hle : statuses.length ≤ missing := hle
    obtain ⟨hsymbol, h7⟩ := h
    exact ⟨hsymbol, by omega, by omega⟩

theorem Reads.getCount_pos (h : chunk.Reads missing) :
    0 < chunk.getCount ∧ chunk.getCount ≤ missing := by
  cases chunk with
  | runLength status count => exact ⟨h.2.1, h.2.2.2⟩
  | oneBitVector statuses => exact h.elim
  | twoBitVector statuses =>
    obtain ⟨-, hpos, hlen⟩ := h
    show 0 < statuses.length ∧ statuses.length ≤ missing
    omega

theorem Reads.serialize (h : chunk.Reads missing) : chunk.serialize = .ok (toBe16 chunk.word) := by
  cases chunk with
  | runLength status count => rfl
  | oneBitVector statuses => exact h.elim
  | twoBitVector statuses =>
    have hlen : statuses.length ≤ 7 := by
      obtain ⟨-, -, hlen⟩ := h
      omega
    exact if_pos hlen

theorem symbols_two {statuses : List Status} {k : ℕ} (hlen : statuses.length ≤ k + 1)
    (hsome : ∀ s ∈ statuses, s ≠ .none) : symbols 2 statuses (2 * k) < 4 ^ (k + 1) ∧
      ∀ i s, statuses[i]? = some s → symbols 2 statuses (2 * k) / 4 ^ (k - i) % 4 = s.code := by
  induction statuses generalizing k with
  | nil => exact ⟨Nat.pow_pos (by decide), fun i s h => nomatch h⟩
  | cons s rest ih =>
    have hs := Status.code_lt (hsome s mem_cons_self)
    have hrest := fun s' hs' => hsome s' (mem_cons_of_mem s hs')
    cases k with
    | zero =>
      obtain rfl : rest = [] := length_eq_zero_iff.mp (by simpa using hlen)
      have hval : symbols 2 [s] (2 * 0) = s.code := Nat.or_zero _
      rw [hval]
      refine ⟨hs, fun i s' hi => ?_⟩
      cases i with
      | zero =>
        obtain rfl : s = s' := Option.some.inj hi
        rw [Nat.sub_zero, pow_zero, Nat.div_one, Nat.mod_eq_of_lt hs]
      | succ i => exact nomatch hi
    | succ k =>
      obtain ⟨hlt, hdigit⟩ := ih (Nat.le_of_succ_le_succ hlen) hrest
      set w := symbols 2 rest (2 * k) with hw
      -- the first symbol stands above the others
      have hval : symbols 2 (s :: rest) (2 * (k + 1)) = s.code * 4 ^ (k + 1) + w := by
        have hlt' : w < 2 ^ (2 * (k + 1)) := by rwa [Nat.pow_mul]
        show s.code <<< (2 * (k + 1)) ||| w = _
        rw [← Nat.shiftLeft_add_eq_or_of_lt hlt', Nat.shiftLeft_eq, Nat.pow_mul]
      rw [hval]
      have hpow : 0 < 4 ^ (k + 1) := Nat.pow_pos (by decide)
      refine ⟨?_, fun i s' hi => ?_⟩
      · have hmul := Nat.mul_le_mul_right (4 ^ (k + 1)) (Nat.le_of_lt_succ hs)
        rw [Nat.pow_succ 4 (k + 1)]
        omega
      · cases i with
        | zero =>
          obtain rfl : s = s' := Option.some.inj hi
          rw [Nat.sub_zero, Nat.add_comm, Nat.add_mul_div_right _ _ hpow,
            Nat.div_eq_of_lt hlt, Nat.zero_add, Nat.mod_eq_of_lt hs]
        | succ i =>
          have hi : rest[i]? = some s' := hi
          have hik : i ≤ k := by
            have := (List.getElem?_eq_some_iff.mp hi).1
            have : rest.length + 1 ≤ k + 1 + 1 := hlen
            omega
          have hsplit : s.code * 4 ^ (k + 1) = s.code * 4 ^ i * 4 * 4 ^ (k - i) := by
            rw [show k + 1 = i + 1 + (k - i) by omega, Nat.pow_add, Nat.pow_succ]
            ring
          rw [Nat.add_sub_add_right, hsplit, Nat.add_comm,
            Nat.add_mul_div_right _ _ (Nat.pow_pos (by decide)), Nat.add_mul_mod_self_right]
          exact hdigit i s' hi

theorem word_runLength {status : Status} (hstatus : status.IsSymbol) {count : ℕ}
    (hle : count ≤ maxMissingPackets) :
    (runLength status count).word = status.code * 8192 + count ∧ status.code < 3 := by
  have hlt : count < 2 ^ 13 := hle.trans_lt (by decide)
  have hmask : count &&& 0x1FFF = count := by
    rw [show 0x1FFF = 2 ^ 13 - 1 from rfl, Nat.and_two_pow_sub_one_eq_mod, Nat.mod_eq_of_lt hlt]
  have hcode := Status.code_lt hstatus.ne_none
  have hne : status.code ≠ 3 := by
    intro h
    cases status with
    | reserved => exact hstatus.ne_reserved rfl
    | _ => cases h
  refine ⟨?_, by omega⟩
  rw [word, hmask, ← Nat.shiftLeft_add_eq_or_of_lt hlt, Nat.shiftLeft_eq]

theorem twoBitStatuses_word {statuses : List Status} (hsymbol : ∀ s ∈ statuses, s.IsSymbol)
    (hlen : statuses.length = min 7 missing) :
    twoBitStatuses (twoBitVector statuses).word missing = statuses := by
  have hsome : ∀ s ∈ Status.reserved :: statuses, s ≠ .none := by
    intro s hs
    rcases mem_cons.mp hs with rfl | hs
    · exact fun h => nomatch h
    · exact (hsymbol s hs).ne_none
  have hlen' : (Status.reserved :: statuses).length ≤ 7 + 1 := by
    rw [length_cons]
    omega
  obtain ⟨-, hdigit⟩ := symbols_two hlen' hsome
  rw [show (twoBitVector statuses).word = symbols 2 (.reserved :: statuses) (2 * 7) from rfl]
  refine ext_getElem ?_ fun i hi hi' => ?_
  · rw [twoBitStatuses, length_map, length_range, hlen]
  · have := hdigit (i + 1) statuses[i] (List.getElem?_eq_getElem hi')
    rw [← Nat.sub_sub, Nat.sub_right_comm] at this
    simp only [twoBitStatuses, getElem_map, getElem_range]
    rw [Nat.shiftRight_eq_div_pow, Nat.pow_mul, this]
    exact Status.ofCode_code (hsymbol _ (getElem_mem hi')).ne_none

theorem word_twoBitVector_bounds {statuses : List Status} (hsymbol : ∀ s ∈ statuses, s.IsSymbol)
    (hlen : statuses.length ≤ 7) :
    49152 ≤ (twoBitVector statuses).word ∧ (twoBitVector statuses).word < 65536 := by
  have hlt := (symbols_two (k := 6) hlen fun s hs => (hsymbol s hs).ne_none).1
  have hword : (twoBitVector statuses).word = 3 <<< 14 ||| symbols 2 statuses (2 * 6) := rfl
  rw [hword, ← Nat.shiftLeft_add_eq_or_of_lt (show symbols 2 statuses (2 * 6) < 2 ^ 14 from hlt),
    Nat.shiftLeft_eq]
  omega

/-- **A chunk is read back.** -/
theorem parse_reads {len : ℕ} {chunk : Chunk}
    (h : chunk.Reads missing) (hholds : Holds buf pos (toBe16 chunk.word)) (hlen : 2 ≤ len) :
    Chunk.parse buf pos len missing = value chunk := by
  have hread := hholds.readBe_two
  have hfirst := hholds.read
  simp only [Chunk.parse, require, if_pos hlen, value_bind, hread, hfirst]
  cases chunk with
  | runLength status count =>
    obtain ⟨hsymbol, -, hle, -⟩ := h
    obtain ⟨hword, hcode⟩ := word_runLength hsymbol hle
    have hcount : count < 8192 := hle.trans_lt (by decide)
    rw [hword, Nat.mod_eq_of_lt (by omega : status.code * 8192 + count < 65536)]
    -- the type bit is 0, the symbol stands above the thirteen bits of the count
    have h13 : (status.code * 8192 + count) >>> 13 = status.code := by
      rw [Nat.shiftRight_eq_div_pow]
      omega
    have h15 : (status.code * 8192 + count) >>> 15 % 2 = 0 := by
      rw [Nat.shiftRight_eq_div_pow]
      omega
    rw [if_pos h15, h13, Status.ofCode_code hsymbol.ne_none, if_pos hsymbol.ne_reserved,
      value_bind, show (status.code * 8192 + count) % 8192 = count by omega]
    rfl
  | oneBitVector statuses => exact h.elim
  | twoBitVector statuses =>
    obtain ⟨hsymbol, -, hcount⟩ := h
    obtain ⟨hge, hlt⟩ := word_twoBitVector_bounds hsymbol (by omega)
    have hstatuses := twoBitStatuses_word hsymbol hcount
    set w := (twoBitVector statuses).word with hw
    -- type bit 1 and size bit 1: seven symbols of two bits
    have h15 : ¬ w >>> 15 % 2 = 0 := by
      rw [Nat.shiftRight_eq_div_pow]
      omega
    have hbit : bit (UInt8.ofNat (w / 256)) 6 := by
      rw [bit, Nat.testBit_eq_decide_div_mod_eq, decide_eq_true_eq, UInt8.toNat_ofNat']
      omega
    rw [Nat.mod_eq_of_lt hlt, if_neg h15, if_pos hbit, hstatuses]
    rfl

end Chunk

/-- The chunks together list the missing statuses, and each of them is read back. -/
def Readable : List Chunk → ℕ → Prop
  | [], missing => missing = 0
  | chunk :: chunks, missing => chunk.Reads missing ∧ Readable chunks (missing - chunk.getCount)

theorem readable_append {later : List Chunk} (h : ∀ chunk ∈ chunks, chunk.Full .written)
    (hlater : Readable later missing) :
    Readable (chunks ++ later) ((chunks.map Chunk.getCount).sum + missing) := by
  induction chunks with
  | nil =>
    rw [map_nil, sum_nil, Nat.zero_add]
    exact hlater
  | cons chunk chunks ih =>
    have hrest := ih fun c hc => h c (mem_cons_of_mem chunk hc)
    rw [map_cons, sum_cons, Nat.add_assoc]
    refine ⟨(h chunk mem_cons_self).reads (Nat.le_add_right _ _), ?_⟩
    rwa [Nat.add_sub_cancel_left]

theorem Readable.serialize (h : Readable chunks missing) :
    serializeChunks chunks = .ok (chunks.flatMap fun chunk => toBe16 chunk.word) := by
  induction chunks generalizing missing with
  | nil => rfl
  | cons chunk chunks ih =>
    rw [serializeChunks, h.1.serialize, ih h.2]
    rfl

/-- **The chunk loop** on written chunks. -/
theorem parseChunks_readable {buf : List UInt8} {contentData contentLen psc : ℕ}
    (hpsc : psc < 65536) {chunks : List Chunk} {fuel offset count received : ℕ}
    (h : Readable chunks (psc - count)) (hcount : count ≤ psc) (hreceived : received ≤ count)
    (hholds : Holds buf (contentData + offset) (chunks.flatMap fun chunk => toBe16 chunk.word))
    (hroom : offset + 2 * chunks.length ≤ contentLen) (hfuel : chunks.length < fuel) :
    parseChunks buf contentData contentLen psc fuel offset count received =
      value (offset + 2 * chunks.length, psc,
        received + (chunks.map Chunk.getReceivedStatusCount).sum, chunks) := by
  induction chunks generalizing fuel offset count received with
  | nil =>
    obtain ⟨fuel, rfl⟩ : ∃ n, fuel = n + 1 := ⟨fuel - 1, by omega⟩
    have hall : psc - count = 0 := h
    rw [parseChunks, if_neg (by omega), show count = psc by omega]
    rfl
  | cons chunk chunks ih =>
    obtain ⟨fuel, rfl⟩ : ∃ n, fuel = n + 1 := ⟨fuel - 1, by omega⟩
    obtain ⟨hpos, hle⟩ := h.1.getCount_pos
    have hreceived' := getReceivedStatusCount_le chunk
    obtain ⟨hword, hrest⟩ := holds_append.mp hholds
    rw [length_cons] at hroom hfuel
    rw [parseChunks, if_pos (by omega), require, if_pos (by omega : 2 ≤ contentLen - offset),
      value_bind, Chunk.parse_reads h.1 hword (by omega), value_bind]
    -- the counters stay below the announced count, so they do not wrap
    rw [Nat.mod_eq_of_lt (by omega : count + chunk.getCount < 65536),
      Nat.mod_eq_of_lt (by omega : received + chunk.getReceivedStatusCount < 65536)]
    have hrest' : Holds buf (contentData + (offset + 2))
        (chunks.flatMap fun chunk => toBe16 chunk.word) := by
      rw [← Nat.add_assoc]
      exact hrest
    have hreadable : Readable chunks (psc - (count + chunk.getCount)) := by
      rw [← Nat.sub_sub]
      exact h.2
    rw [ih hreadable (by omega) (by omega) hrest' (by omega) (by omega)]
    show value (offset + 2 + 2 * chunks.length, psc, received + chunk.getReceivedStatusCount +
      (chunks.map Chunk.getReceivedStatusCount).sum, chunk :: chunks) = _
    rw [length_cons, map_cons, sum_cons, Nat.mul_succ, Nat.add_assoc received,
      Nat.add_assoc offset, Nat.add_comm 2]

/-! ### Deltas -/

/-- The deltas that `AddPacket` takes. -/
def InRange (delta : ℤ) : Prop := -maxPacketDelta ≤ delta ∧ delta ≤ maxPacketDelta

theorem length_deltaBytes (delta : ℤ) :
    (deltaBytes delta).length = (deltaStatus delta).deltaSize := by
  unfold deltaBytes deltaStatus
  split_ifs <;> rfl

theorem readDelta_written {delta : ℤ} (hrange : InRange delta)
    (h : Holds buf pos (deltaBytes delta)) :
    Chunk.readDelta buf (deltaStatus delta) pos = value delta := by
  obtain ⟨hlow, hhigh⟩ := hrange
  unfold maxPacketDelta at hlow hhigh
  unfold deltaBytes at h
  unfold Chunk.readDelta deltaStatus
  by_cases hsmall : 0 ≤ delta ∧ delta ≤ 255
  · rw [if_pos hsmall] at h ⊢
    have hval : (UInt8.ofNat delta.toNat).toNat = delta.toNat := by
      rw [UInt8.toNat_ofNat']
      omega
    have hread : readBe buf 1 pos = value delta.toNat := by
      simp only [readBe, h.read, value_bind, pure_eq, hval, pow_zero, Nat.mul_one, Nat.add_zero]
    show (readBe buf 1 pos >>= _) = _
    rw [hread, value_bind, if_pos (by omega)]
    show value (delta.toNat : ℤ) = _
    rw [Int.toNat_of_nonneg hsmall.1]
  · rw [if_neg hsmall] at h ⊢
    show (readBe buf 2 pos >>= _) = _
    rw [h.readBe_two, value_bind, Nat.mod_eq_of_lt (by omega)]
    -- the sign is the top bit
    by_cases hneg : delta < 0
    · rw [if_neg (by omega), show (((delta % 65536).toNat : ℤ) - 65536) = delta by omega]
      rfl
    · rw [if_pos (by omega), show ((delta % 65536).toNat : ℤ) = delta by omega]
      rfl

theorem readDeltas_written {status : Status} (hrange : ∀ d ∈ deltas, InRange d)
    (hstatus : ∀ d ∈ deltas, deltaStatus d = status)
    (h : Holds buf pos (deltas.flatMap deltaBytes)) :
    Chunk.readDeltas buf status deltas.length pos = value deltas := by
  induction deltas generalizing pos with
  | nil => rfl
  | cons d rest ih =>
    obtain ⟨hd, hrest⟩ := holds_append.mp h
    have hs := hstatus d mem_cons_self
    rw [length_deltaBytes, hs] at hrest
    have hread := readDelta_written (hrange d mem_cons_self) hd
    rw [hs] at hread
    have htail := ih (fun e he => hrange e (mem_cons_of_mem d he))
      (fun e he => hstatus e (mem_cons_of_mem d he)) hrest
    rw [length_cons, Chunk.readDeltas, hread, value_bind, htail]
    rfl

theorem readVectorDeltas_written {statuses : List Status} {len : ℕ}
    (hrange : ∀ d ∈ deltas, InRange d)
    (hstatus : deltas.map deltaStatus = statuses.filter Status.isReceived)
    (h : Holds buf pos (deltas.flatMap deltaBytes))
    (hlen : (deltas.flatMap deltaBytes).length ≤ len) :
    Chunk.readVectorDeltas buf true statuses pos len =
      value (deltas, (deltas.flatMap deltaBytes).length) := by
  induction statuses generalizing deltas pos len with
  | nil =>
    obtain rfl : deltas = [] := map_eq_nil_iff.mp hstatus
    rfl
  | cons s statuses ih =>
    -- only a received status has a delta to read
    by_cases hs : s.isReceived
    · rw [filter_cons_of_pos hs] at hstatus
      obtain ⟨d, rest, rfl, hd, hrest⟩ := map_eq_cons_iff.mp hstatus
      obtain ⟨hhead, htail⟩ := holds_append.mp h
      rw [flatMap_cons, length_append, length_deltaBytes, hd] at hlen
      rw [length_deltaBytes, hd] at htail
      have hread := readDelta_written (hrange d mem_cons_self) hhead
      rw [hd] at hread
      rw [Chunk.readVectorDeltas, if_pos hs, require, if_pos (.inl rfl), value_bind, require,
        if_pos (by omega : s.deltaSize ≤ len), value_bind, hread, value_bind,
        ih (fun e he => hrange e (mem_cons_of_mem d he)) hrest htail (by omega),
        flatMap_cons, length_append, length_deltaBytes, hd, Nat.add_comm]
      rfl
    · rw [filter_cons_of_neg hs] at hstatus
      rw [Chunk.readVectorDeltas, if_neg hs, require, if_pos (.inl rfl), value_bind]
      exact ih hrange hstatus h hlen

theorem addDeltas_written {chunk : Chunk} (hreads : chunk.Reads missing) {len : ℕ}
    (hrange : ∀ d ∈ deltas, InRange d)
    (hstatus : deltas.map deltaStatus = chunk.statuses.filter Status.isReceived)
    (h : Holds buf pos (deltas.flatMap deltaBytes))
    (hlen : (deltas.flatMap deltaBytes).length ≤ len) :
    chunk.addDeltas buf pos len = value (deltas, (deltas.flatMap deltaBytes).length) := by
  cases chunk with
  | oneBitVector statuses => exact hreads.elim
  | twoBitVector statuses => exact readVectorDeltas_written hrange hstatus h hlen
  | runLength status count =>
    have hstatus : deltas.map deltaStatus = (List.replicate count status).filter _ := hstatus
    by_cases hs : status.isReceived
    · rw [filter_replicate_of_pos hs] at hstatus
      obtain ⟨hcount, hall⟩ := eq_replicate_iff.mp hstatus
      rw [length_map] at hcount
      have hall : ∀ d ∈ deltas, deltaStatus d = status :=
        fun d hd => hall _ (mem_map_of_mem hd)
      -- the deltas of a run have one width, which `addDeltas` checks at once
      have hsize : (deltas.flatMap deltaBytes).length = count * status.deltaSize := by
        have hconst : deltas.map (fun d => (deltaBytes d).length) =
            List.replicate count status.deltaSize := by
          rw [← hcount, ← map_const']
          exact map_congr_left fun d hd => by rw [length_deltaBytes, hall d hd]
        rw [length_flatMap, hconst, sum_replicate_nat]
      rw [Chunk.addDeltas, if_pos hs, require, if_pos (hsize ▸ hlen), value_bind, ← hcount,
        readDeltas_written hrange hall h, hsize, hcount]
      rfl
    · rw [filter_replicate_of_neg hs] at hstatus
      obtain rfl : deltas = [] := map_eq_nil_iff.mp hstatus
      rw [Chunk.addDeltas, if_neg hs]
      rfl

/-- **The delta loop** on written deltas. -/
theorem parseDeltas_written {contentData contentLen : ℕ} (hreadable : Readable chunks missing)
    {offset : ℕ} (hrange : ∀ d ∈ deltas, InRange d) (hstatus : deltas.map deltaStatus =
      (chunks.flatMap Chunk.statuses).filter Status.isReceived)
    (h : Holds buf (contentData + offset) (deltas.flatMap deltaBytes))
    (hroom : offset + (deltas.flatMap deltaBytes).length ≤ contentLen) :
    parseDeltas buf contentData contentLen chunks offset = value deltas := by
  induction chunks generalizing missing deltas offset with
  | nil =>
    obtain rfl : deltas = [] := map_eq_nil_iff.mp hstatus
    rfl
  | cons chunk chunks ih =>
    rw [flatMap_cons, filter_append] at hstatus
    obtain ⟨ds, rest, rfl, hds, hrest⟩ := map_eq_append_iff.mp hstatus
    rw [flatMap_append] at h
    rw [flatMap_append, length_append] at hroom
    obtain ⟨hhead, htail⟩ := holds_append.mp h
    have hrangeRest := fun d hd => hrange d (mem_append_right ds hd)
    by_cases hleft : offset < contentLen
    · rw [Nat.add_assoc] at htail
      rw [parseDeltas, if_pos hleft, addDeltas_written hreadable.1
        (fun d hd => hrange d (mem_append_left rest hd)) hds hhead (by omega), value_bind]
      show (parseDeltas buf contentData contentLen chunks (offset + _) >>= _) = _
      rw [ih hreadable.2 hrangeRest hrest htail (by omega)]
      rfl
    · -- nothing is left to read, so there are no deltas left
      have hnil : ds ++ rest = [] := by
        rw [← length_eq_zero_iff]
        have hpos : ∀ l : List ℤ, l.length ≤ (l.flatMap deltaBytes).length := by
          intro l
          induction l with
          | nil => exact Nat.le_refl 0
          | cons d l ihl =>
            have hd : 0 < (deltaBytes d).length := by
              unfold deltaBytes
              split_ifs <;> exact Nat.succ_pos _
            rw [flatMap_cons, length_append, length_cons]
            omega
        have := hpos ds
        have := hpos rest
        rw [length_append]
        omega
      rw [parseDeltas, if_neg hleft, hnil]
      rfl

/-! ### A whole packet -/

theorem sum_deltaSize_filter (statuses : List Status) : (statuses.map Status.deltaSize).sum =
      ((statuses.filter Status.isReceived).map Status.deltaSize).sum := by
  induction statuses with
  | nil => rfl
  | cons s rest ih =>
    by_cases hs : s.isReceived
    · rw [filter_cons_of_pos hs, map_cons, map_cons, sum_cons, sum_cons, ih]
    have hzero : s.deltaSize = 0 := by
      cases s with
      | smallDelta | largeDelta => exact absurd rfl hs
      | _ => rfl
    rw [filter_cons_of_neg hs, map_cons, sum_cons, ih, hzero, Nat.zero_add]

theorem length_flatMap_deltaBytes :
    (deltas.flatMap deltaBytes).length = ((deltas.map deltaStatus).map Status.deltaSize).sum := by
  rw [length_flatMap, map_map]
  congr 1
  exact map_congr_left fun d _ => length_deltaBytes d

theorem length_flatMap_word :
    (chunks.flatMap fun chunk => toBe16 chunk.word).length = 2 * chunks.length := by
  rw [length_flatMap, show (fun chunk : Chunk => (toBe16 chunk.word).length) = fun _ => 2
    from rfl, map_const', sum_replicate_nat, Nat.mul_comm]

namespace LocalFeedback

/-- The fixed fields hold what their widths allow. -/
structure FieldsFit (p : LocalFeedback) : Prop where
  base_lt : p.baseSequenceNumber < 65536
  time_nonneg : 0 ≤ p.referenceTime
  time_lt : p.referenceTime < 8388608
  feedbackCount_lt : p.feedbackPacketCount < 256

variable {p : LocalFeedback}

theorem FieldsFit.of_frame {p' : LocalFeedback} (h : p.FieldsFit) (hframe : p'.frame = p.frame) :
    p'.FieldsFit := by
  obtain ⟨hbase, htime, hfb, -⟩ : p'.baseSequenceNumber = p.baseSequenceNumber ∧
      p'.referenceTime = p.referenceTime ∧ p'.feedbackPacketCount = p.feedbackPacketCount ∧
      _ := by
    simpa only [frame, Prod.mk.injEq] using hframe
  exact ⟨hbase ▸ h.base_lt, htime ▸ h.time_nonneg, htime ▸ h.time_lt, hfb ▸ h.feedbackCount_lt⟩

/-- A packet without pending statuses that the parser can read. -/
structure Complete (p : LocalFeedback) : Prop where
  fields : p.FieldsFit
  count_lt : p.packetStatusCount < 65536
  readable : Readable p.chunks p.packetStatusCount
  range : ∀ d ∈ p.deltas, InRange d
  deltas_eq : p.deltas.map deltaStatus =
    (p.chunks.flatMap Chunk.statuses).filter Status.isReceived
  sized : p.deltasAndChunksSize = 2 * p.chunks.length + (p.deltas.flatMap deltaBytes).length
  small : p.deltasAndChunksSize ≤ 3 * maxPacketStatusCount + 2

theorem Complete.received (h : p.Complete) :
    (p.chunks.map Chunk.getReceivedStatusCount).sum = p.deltas.length := by
  have hlen := congrArg List.length h.deltas_eq
  rw [length_map, ← countP_eq_length_filter, countP_flatMap] at hlen
  rw [hlen]
  congr 1
  exact map_congr_left fun c _ => (countP_statuses c).symm

/-- The bytes of a packet without pending statuses. -/
def bytes (p : LocalFeedback) : List UInt8 :=
  let content := p.headerBytes ++ (p.chunks.flatMap fun chunk => toBe16 chunk.word) ++
    p.deltas.flatMap deltaBytes
  content ++ List.replicate ((4 - content.length % 4) % 4) 0

theorem length_headerBytes : p.headerBytes.length = 20 := rfl

theorem Complete.length_bytes (h : p.Complete) : p.bytes.length = p.getSize := by
  have hcontent : (p.headerBytes ++ (p.chunks.flatMap fun chunk => toBe16 chunk.word) ++
      p.deltas.flatMap deltaBytes).length = 20 + p.deltasAndChunksSize := by
    rw [length_append, length_append, length_headerBytes, length_flatMap_word, h.sized,
      Nat.add_assoc]
  rw [bytes, length_append, length_replicate, hcontent, getSize, Rtcp.padTo4Bytes]
  omega

/-- **A complete packet is parsed back.** -/
theorem Complete.parse (h : p.Complete) :
    TransportFeedback.parse p.bytes 0 p.bytes.length =
      value { p.toFeedbackRtpTransportPacket with size := p.getSize } := by
  have hlen := h.length_bytes
  have hsmall := h.small
  have hsize : p.getSize = (20 + p.deltasAndChunksSize + 3) / 4 * 4 := rfl
  unfold maxPacketStatusCount at hsmall
  obtain ⟨hcontent, -⟩ := holds_append.mp (holds_self p.bytes)
  obtain ⟨hcontent, hdeltas⟩ := holds_append.mp hcontent
  obtain ⟨hheader, hchunks⟩ := holds_append.mp hcontent
  -- the fields of the header, from the last one to the first
  obtain ⟨hheader, hfb⟩ := holds_append.mp hheader
  obtain ⟨hheader, htime⟩ := holds_append.mp hheader
  obtain ⟨hheader, hcount⟩ := holds_append.mp hheader
  obtain ⟨hheader, hbase⟩ := holds_append.mp hheader
  obtain ⟨hheader, -⟩ := holds_append.mp hheader
  obtain ⟨hheader, -⟩ := holds_append.mp hheader
  obtain ⟨-, hheader⟩ := holds_cons.mp hheader
  obtain ⟨-, hlength⟩ := holds_cons.mp hheader
  rw [length_append, length_headerBytes, length_flatMap_word, Nat.zero_add] at hdeltas
  have hfields := h.fields
  have htime' : toSigned24 ((p.referenceTime % 16777216).toNat % 16777216) = p.referenceTime := by
    have := hfields.time_nonneg
    have := hfields.time_lt
    rw [toSigned24]
    split_ifs <;> omega
  have hfb' : (UInt8.ofNat p.feedbackPacketCount).toNat = p.feedbackPacketCount := by
    rw [UInt8.toNat_ofNat', Nat.mod_eq_of_lt hfields.feedbackCount_lt]
  have hlenField : (p.getSize / 4 - 1) % 65536 = p.getSize / 4 - 1 := Nat.mod_eq_of_lt (by omega)
  have hannounced : (p.getSize / 4 - 1 + 1) * 4 = p.bytes.length := by omega
  have hcontentLen : (p.bytes.length + 2 ^ 64 - 20) % 2 ^ 64 = p.bytes.length - 20 := by omega
  have hroom : 20 + 2 * p.chunks.length + (p.deltas.flatMap deltaBytes).length ≤
      p.bytes.length := by
    have := h.sized
    omega
  have hloop : parseChunks p.bytes 20 (p.bytes.length - 20) p.packetStatusCount
      (p.bytes.length + 1) 0 0 0 = value (2 * p.chunks.length, p.packetStatusCount,
        p.deltas.length, p.chunks) := by
    have hwritten := @parseChunks_readable p.bytes 20 (p.bytes.length - 20) _ h.count_lt
      p.chunks (p.bytes.length + 1) 0 0 0 h.readable (Nat.zero_le _) (Nat.le_refl 0) hchunks
      (by omega) (by omega)
    rwa [Nat.zero_add, Nat.zero_add, h.received] at hwritten
  have hdeltaLoop : parseDeltas p.bytes 20 (p.bytes.length - 20) p.chunks (2 * p.chunks.length) =
      value p.deltas :=
    parseDeltas_written h.readable h.range h.deltas_eq hdeltas (by omega)
  have hreadLength : readBe p.bytes 2 2 = value (p.getSize / 4 - 1) := by
    rw [← hlenField]
    exact hlength.readBe_two
  have hreadBase : readBe p.bytes 2 12 = value p.baseSequenceNumber := by
    rw [← Nat.mod_eq_of_lt hfields.base_lt]
    exact hbase.readBe_two
  have hreadCount : readBe p.bytes 2 14 = value p.packetStatusCount := by
    rw [← Nat.mod_eq_of_lt h.count_lt]
    exact hcount.readBe_two
  have hreadTime : readBe p.bytes 3 16 =
      value ((p.referenceTime % 16777216).toNat % 16777216) := htime.readBe_three
  have hreadFb : Checked.read p.bytes 19 = value (UInt8.ofNat p.feedbackPacketCount) := hfb.read
  rw [← hlen]
  simp only [TransportFeedback.parse, require, if_pos (by omega : 20 ≤ p.bytes.length), value_bind,
    Nat.zero_add, Nat.reduceAdd, hreadLength, hannounced, le_refl, if_true, hreadBase, hreadCount,
    hreadTime, hreadFb, hcontentLen, hloop, hdeltaLoop, htime', hfb', pure_eq]

end LocalFeedback

/-! ### The calls before -/

theorem sum_deltaSize_le (statuses : List Status) :
    (statuses.map Status.deltaSize).sum ≤ statuses.length * 2 := by
  rw [← length_map (f := Status.deltaSize), ← Nat.nsmul_eq_mul]
  refine sum_le_card_nsmul _ _ fun n hn => ?_
  obtain ⟨s, -, rfl⟩ := mem_map.mp hn
  cases s <;> decide

theorem Chunk.Full.size_le {limit : RunLimit} {chunk : Chunk} (h : chunk.Full limit) :
    2 + (chunk.statuses.map Status.deltaSize).sum ≤ 3 * chunk.getCount := by
  have hle := sum_deltaSize_le chunk.statuses
  rw [length_statuses] at hle
  cases chunk with
  | oneBitVector statuses => exact h.elim
  | twoBitVector statuses =>
    have h7 : (Chunk.twoBitVector statuses).getCount = 7 := h.2
    omega
  | runLength status count =>
    obtain ⟨-, hpos, -, hnone | htwo⟩ := h
    · subst hnone
      have hzero :
          ((Chunk.runLength .notReceived count).statuses.map Status.deltaSize).sum = 0 := by
        show ((List.replicate count Status.notReceived).map Status.deltaSize).sum = 0
        rw [map_replicate, sum_replicate]
        rfl
      show 2 + _ ≤ 3 * count
      omega
    · have hle : _ ≤ count * 2 := hle
      show 2 + _ ≤ 3 * count
      omega

namespace LocalFeedback

/-- What the calls that succeed and fit keep. -/
structure Recorded (limit : RunLimit) (p : LocalFeedback) : Prop where
  fields : p.FieldsFit
  coherent : p.Coherent limit
  ready : p.context.Ready
  run_le : p.context.statuses.length ≤ limit.count
  range : ∀ d ∈ p.deltas, InRange d
  deltas_eq : p.deltas.map deltaStatus = p.listed.filter Status.isReceived
  listed_le : p.listed.length ≤ maxPacketStatusCount

variable {limit : RunLimit}

theorem length_listed (p : LocalFeedback) :
    p.listed.length = (p.chunks.map Chunk.getCount).sum + p.context.statuses.length := by
  rw [listed, length_append, length_flatMap]
  simp only [length_statuses]

variable {p : LocalFeedback}

theorem Recorded.count_eq (h : p.Recorded limit) :
    p.packetStatusCount = (p.chunks.map Chunk.getCount).sum := by
  have hle := h.listed_le
  rw [length_listed, maxPacketStatusCount] at hle
  rw [h.coherent.counted, Nat.mod_eq_of_lt (by omega)]

theorem Recorded.size_le (h : p.Recorded limit) : p.deltasAndChunksSize ≤ 3 * p.listed.length := by
  have hchunks : ∀ chunks : List Chunk, (∀ c ∈ chunks, c.Full limit) →
      2 * chunks.length + ((chunks.flatMap Chunk.statuses).map Status.deltaSize).sum ≤
        3 * (chunks.map Chunk.getCount).sum := by
    intro chunks
    induction chunks with
    | nil => exact fun _ => Nat.le_refl 0
    | cons c cs ih =>
      intro hfull
      have hc := (hfull c mem_cons_self).size_le
      have hcs := ih fun c' hc' => hfull c' (mem_cons_of_mem c hc')
      rw [flatMap_cons, map_append, sum_append, length_cons, map_cons,
        sum_cons]
      omega
  have hcontext := sum_deltaSize_le p.context.statuses
  have := hchunks p.chunks h.coherent.full
  rw [h.coherent.sized, length_listed, listed, map_append, sum_append]
  omega

theorem Recorded.complete {p p' : LocalFeedback} (h : p.Recorded .written) {last : List Chunk}
    (hchunks : p'.chunks = p.chunks ++ last)
    (hlast : last.flatMap Chunk.statuses = p.context.statuses)
    (hreads : Readable last p.context.statuses.length)
    (hframe : p'.frame = p.frame) (hdeltas : p'.deltas = p.deltas)
    (hcount : p'.packetStatusCount = p.packetStatusCount + p.context.statuses.length)
    (hsize : p'.deltasAndChunksSize = p.deltasAndChunksSize + 2 * last.length)
    (hone : last.length ≤ 1) : p'.Complete := by
  have hlisted : p'.chunks.flatMap Chunk.statuses = p.listed := by
    rw [hchunks, flatMap_append, hlast, listed]
  have htotal : p'.packetStatusCount = p.listed.length := by
    rw [hcount, length_listed, h.count_eq]
  have hle := h.listed_le
  have hsizele := h.size_le
  refine ⟨h.fields.of_frame hframe, ?_, ?_, hdeltas ▸ h.range, ?_, ?_, ?_⟩
  · rw [htotal]
    unfold maxPacketStatusCount at hle
    omega
  · rw [hcount, h.count_eq, hchunks]
    exact readable_append h.coherent.full hreads
  · rw [hdeltas, hlisted, h.deltas_eq]
  · rw [hsize, h.coherent.sized, hchunks, length_append, length_flatMap_deltaBytes, hdeltas,
      h.deltas_eq, ← sum_deltaSize_filter]
    omega
  · omega

theorem Recorded.addPendingChunks (h : p.Recorded .written) :
    ∃ p', p.addPendingChunks = .ok p' ∧ p'.Complete := by
  have hmod : p.context.statuses.length % 65536 = p.context.statuses.length :=
    Nat.mod_eq_of_lt (h.run_le.trans_lt (by decide))
  have hcount : (p.packetStatusCount + p.context.statuses.length % 65536) % 65536 =
      p.packetStatusCount + p.context.statuses.length := by
    have hle := h.listed_le
    rw [length_listed, ← h.count_eq, maxPacketStatusCount] at hle
    rw [hmod, Nat.mod_eq_of_lt (by omega)]
  obtain ⟨p', hpending, hcases⟩ := addPendingChunks_cases h.ready
  refine ⟨p', hpending, ?_⟩
  -- nothing pending, one run, or one vector that is not full
  obtain ⟨hempty, rfl⟩ | ⟨hempty, hsame, rfl⟩ | ⟨hempty, hshort, rfl⟩ := hcases
  · refine @Recorded.complete _ _ h [] (append_nil _).symm hempty.symm ?_ rfl rfl ?_ rfl
      (Nat.zero_le 1)
    · rw [hempty]
      rfl
    · rw [hempty]
      rfl
  · have hpos : 0 < p.context.statuses.length := length_pos_iff.mpr hempty
    have hrun := h.ready.same hsame
    have hsymbol : p.context.currentStatus.IsSymbol := by
      obtain ⟨s, hs⟩ := exists_mem_of_length_pos hpos
      exact hrun s hs ▸ h.coherent.symbol s hs
    refine @Recorded.complete p p.flushRun h
      [.runLength p.context.currentStatus p.context.statuses.length] ?_ ?_ ?_ rfl rfl hcount rfl
      (Nat.le_refl 1)
    · show p.chunks ++ [Chunk.runLength _ (p.context.statuses.length % 65536)] = _
      rw [hmod]
    · rw [flatMap_singleton]
      exact (eq_replicate_of_mem hrun).symm
    · exact ⟨⟨hsymbol, hpos, h.run_le, Nat.le_refl _⟩, Nat.sub_self _⟩
  · have hpos : 0 < p.context.statuses.length := length_pos_iff.mpr hempty
    refine @Recorded.complete p p.flushVector h [.twoBitVector p.context.statuses] rfl
      (flatMap_singleton _ _) ?_ rfl rfl hcount rfl (Nat.le_refl 1)
    exact ⟨⟨h.coherent.symbol, hpos, by omega⟩, Nat.sub_self _⟩

theorem Complete.serialize {p' : LocalFeedback} (h : p'.Complete)
    (hpending : p.addPendingChunks = .ok p') : p.serialize = .ok (p', p'.bytes) := by
  rw [LocalFeedback.serialize, hpending]
  show (serializeChunks p'.chunks >>= _) = _
  rw [h.readable.serialize]
  rfl

theorem recorded_fresh (senderSsrc mediaSsrc : UInt32) :
    (fresh senderSsrc mediaSsrc).Recorded limit := by
  refine ⟨⟨Nat.zero_lt_succ _, Int.le_refl 0, Int.ofNat_lt.mpr (Nat.zero_lt_succ _),
      Nat.zero_lt_succ _⟩, ⟨?_, ?_, rfl, rfl⟩, ⟨?_, ?_, fun _ => rfl⟩,
    Nat.zero_le _, ?_, rfl, Nat.zero_le _⟩
  · exact fun c hc => absurd hc not_mem_nil
  · exact fun s hs => absurd hs not_mem_nil
  · exact fun _ s hs => absurd hs not_mem_nil
  · exact fun _ => Nat.zero_lt_succ 6
  · exact fun d hd => absurd hd not_mem_nil

theorem Recorded.setBase (h : p.Recorded limit) (sequenceNumber : UInt16) (timestamp : UInt64) :
    (p.setBase sequenceNumber timestamp).Recorded limit := by
  have htime : ((timestamp &&& 0x1FFFFFC0) / 64).toNat < 8388608 := by
    rw [referenceTime_eq]
    exact Nat.mod_lt _ (by decide)
  refine ⟨⟨(sequenceNumber + 1).toNat_lt, Int.natCast_nonneg _, ?_, h.fields.feedbackCount_lt⟩,
    ⟨h.coherent.full, h.coherent.symbol, h.coherent.counted, h.coherent.sized⟩, h.ready, h.run_le,
    h.range, h.deltas_eq, h.listed_le⟩
  exact Int.ofNat_lt.mpr htime

theorem Recorded.of_adds {q : LocalFeedback} (h : p.Recorded limit) {delta : ℤ}
    (hadds : Adds limit p (List.replicate missing .notReceived ++ [deltaStatus delta]) q)
    (hframe : q.frame = p.frame) (hdeltas : q.deltas = p.deltas ++ [delta])
    (hready : q.context.Ready) (hrun : q.context.statuses.length ≤ limit.count)
    (hrange : InRange delta) (hfits : p.Fits limit missing (deltaStatus delta)) :
    q.Recorded limit := by
  have hfilter : (List.replicate missing Status.notReceived ++ [deltaStatus delta]).filter
      Status.isReceived = [deltaStatus delta] := by
    rw [filter_append, filter_replicate_of_neg (by decide), nil_append,
      filter_cons_of_pos (deltaStatus_received delta), filter_nil]
  refine ⟨h.fields.of_frame hframe, hadds.coherent, hready, hrun, ?_, ?_, ?_⟩
  · rw [hdeltas]
    exact forall_mem_append.mpr ⟨h.range, forall_mem_singleton.mpr hrange⟩
  · rw [hdeltas, hadds.listed_eq, map_append, filter_append, hfilter, h.deltas_eq]
    rfl
  · have htotal := hfits.total_le
    rw [h.count_eq, ← length_listed] at htotal
    rw [hadds.listed_eq, length_append, length_append, length_replicate]
    exact htotal

theorem Recorded.setLatest {q : LocalFeedback} (h : q.Recorded limit) (sequenceNumber : UInt16)
    (timestamp : UInt64) : LocalFeedback.Recorded limit { q with
      latestSequenceNumber := sequenceNumber
      latestTimestamp := timestamp } :=
  ⟨⟨h.fields.base_lt, h.fields.time_nonneg, h.fields.time_lt, h.fields.feedbackCount_lt⟩,
    ⟨h.coherent.full, h.coherent.symbol, h.coherent.counted, h.coherent.sized⟩, h.ready, h.run_le,
    h.range, h.deltas_eq, h.listed_le⟩

theorem Recorded.record (h : p.Recorded limit) {sequenceNumber : UInt16} {timestamp : UInt64}
    (hrange : InRange (p.delta64 timestamp))
    (hfits : p.Fits limit (missingPackets p.latestSequenceNumber sequenceNumber)
      (deltaStatus (p.delta64 timestamp))) :
    (p.record sequenceNumber timestamp).Recorded limit := by
  obtain ⟨hadds, hrun⟩ := listed_fillChunk h.coherent h.ready h.run_le hfits
  have hfilled := h.of_adds hadds (frame_fillChunk p _ _ _) (deltas_fillChunk p _ _ _)
    (ready_fillChunk h.ready _ _ _) hrun hrange hfits
  exact hfilled.setLatest sequenceNumber timestamp

end LocalFeedback

structure Arrival where
  sequenceNumber : UInt16
  timestamp : UInt64
  maxRtcpPacketLen : ℕ

/-- Why a sequence of calls does not go on. -/
inductive Stop where
  | assertion (assertion : Assertion)
  | result (result : AddPacketResult)

/-- A call that has to return `SUCCESS`. -/
def addArrival (p : LocalFeedback) (a : Arrival) : Except Stop LocalFeedback :=
  match p.addPacket a.sequenceNumber a.timestamp a.maxRtcpPacketLen with
  | .ok (p', .success) => .ok p'
  | .ok (_, result) => .error (.result result)
  | .error assertion => .error (.assertion assertion)

theorem addArrival_outcome {p p' : LocalFeedback} {a : Arrival} (h : addArrival p a = .ok p') :
    p.Outcome a.sequenceNumber a.timestamp a.maxRtcpPacketLen p' .success := by
  unfold addArrival at h
  split at h
  · next p'' heq =>
    cases h
    exact (LocalFeedback.addPacket_outcome heq).2
  · cases h
  · cases h

/-- If the call gets as far as `FillChunk`, its packets fit. -/
def Arrival.Fits (p : LocalFeedback) (a : Arrival) : Prop :=
  p.latestTimestamp ≠ 0 → seqHigherThan a.sequenceNumber p.latestSequenceNumber →
    p.Fits .written (missingPackets p.latestSequenceNumber a.sequenceNumber)
      (deltaStatus (p.delta64 a.timestamp))

theorem recorded_addArrival (p : LocalFeedback) (a : Arrival) (p' : LocalFeedback)
    (h : p.Recorded .written) (hfits : a.Fits p) (hcall : addArrival p a = .ok p') :
    p'.Recorded .written := by
  cases addArrival_outcome hcall with
  | base hunset => exact h.setBase _ _
  | ignored hset hold => exact h
  | recorded hset hnew hgap hdelta hsize => exact h.record hdelta (hfits hset hnew)

/-- **The round trip of feedback packets.**  After calls of `AddPacket` that all succeed and
fit, the serialized packet is accepted and has the results of the original one. -/
theorem feedback_roundTrip (senderSsrc mediaSsrc : UInt32) (arrivals : List Arrival)
    (p : LocalFeedback) (hsuccess : run addArrival (.fresh senderSsrc mediaSsrc) arrivals = .ok p)
    (hfits : Along addArrival (fun p a => a.Fits p) (.fresh senderSsrc mediaSsrc) arrivals) :
    ∃ p' bytes parsed results, p.serialize = .ok (p', bytes) ∧
      parse bytes 0 bytes.length = value parsed ∧
      getPacketResults p'.toFeedbackRtpTransportPacket = some results ∧
      getPacketResults parsed = some results := by
  have hrecorded : p.Recorded .written :=
    run_invariant recorded_addArrival arrivals _ p
      (LocalFeedback.recorded_fresh senderSsrc mediaSsrc) hfits hsuccess
  obtain ⟨p', hpending, hcomplete⟩ := hrecorded.addPendingChunks
  obtain ⟨results, hresults, -⟩ :=
    @getPacketResults_spec p'.toFeedbackRtpTransportPacket hcomplete.received.le
  exact ⟨p', p'.bytes, _, results, hcomplete.serialize hpending, hcomplete.parse, hresults,
    hresults⟩

instance (p : LocalFeedback) (missing : ℕ) (status : Status) :
    Decidable (p.Fits .written missing status) :=
  decidable_of_iff (missing ≤ maxMissingPackets + p.room ∧
      (p.context.statuses.length < maxMissingPackets ∨ 0 < missing ∨
        status ≠ p.context.currentStatus) ∧
      p.packetStatusCount + p.context.statuses.length + missing + 1 ≤ maxPacketStatusCount)
    ⟨fun h => ⟨h.1, h.2.1, h.2.2⟩, fun h => ⟨h.missing_le, h.run_lt, h.total_le⟩⟩

instance (p : LocalFeedback) (a : Arrival) : Decidable (a.Fits p) :=
  inferInstanceAs (Decidable (_ → _ → _))

/-- A base, seven packets with small deltas, two missing packets, a packet that was reordered
and one with a negative delta. -/
private def sampleArrivals : List Arrival :=
  [⟨65530, 1000000, 1500⟩, ⟨65531, 1000001, 1500⟩, ⟨65532, 1000003, 1500⟩,
    ⟨65533, 1000003, 1500⟩, ⟨65534, 1000010, 1500⟩, ⟨65535, 1000011, 1500⟩, ⟨0, 1000012, 1500⟩,
    ⟨1, 1000013, 1500⟩, ⟨4, 1000100, 1500⟩, ⟨2, 1000101, 1500⟩, ⟨5, 1000050, 1500⟩]

theorem parse_sampleArrivals :
    ∃ p, run addArrival (.fresh 1 2) sampleArrivals = .ok p ∧ p.isSerializable = true ∧
      ∃ p' bytes parsed results, p.serialize = .ok (p', bytes) ∧
        parse bytes 0 bytes.length = value parsed ∧
        getPacketResults p'.toFeedbackRtpTransportPacket = some results ∧
        getPacketResults parsed = some results := by
  obtain ⟨p, hp, hserializable⟩ :=
    exists_ok_of_map (x := run addArrival (.fresh 1 2) sampleArrivals)
      (f := LocalFeedback.isSerializable) (b := true) (by decide +kernel)
  exact ⟨p, hp, hserializable, feedback_roundTrip 1 2 sampleArrivals p hp (by decide +kernel)⟩

/-- From `65000` on to `20000` there are `20535` missing packets, but their number is
negative where it is compared with `maxMissingPackets`. -/
private def wideGap : List Arrival := [⟨65000, 1000, 1500⟩, ⟨20000, 1000, 1500⟩]

/-- The packet is serialized, and the run of the missing packets loses its high bits. -/
theorem wideGap_rejected :
    ∃ p, run addArrival (.fresh 1 2) wideGap = .ok p ∧ p.isSerializable = true ∧
      ∃ p' bytes, p.serialize = .ok (p', bytes) ∧ parse bytes 0 bytes.length = reject := by
  obtain ⟨p, hp, hresult⟩ :=
    exists_ok_of_map (x := run addArrival (.fresh 1 2) wideGap)
      (f := fun p => (p.isSerializable, p.serialize.toOption.map
        fun r => decide (parse r.2 0 r.2.length = reject))) (b := (true, some true))
      (by decide +kernel)
  obtain ⟨hserializable, hrejected⟩ := Prod.mk.inj hresult
  obtain ⟨⟨p', bytes⟩, hserialize, hparse⟩ := exists_ok_of_map hrejected
  exact ⟨p, hp, hserializable, p', bytes, hserialize, of_decide_eq_true hparse⟩

end TransportFeedback

end Mediasoup
