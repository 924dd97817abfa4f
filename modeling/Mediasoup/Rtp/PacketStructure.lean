/-
An RTP packet under any sequence of operations.

The packet comes out of the parser, and then extensions are set, the payload is resized,
shifted, wrapped into a retransmission and taken out of it again, and the packet is copied.

* `yields_apply` — an operation that fits (`Fits`) returns: there is room in the buffer, and
  its arguments pass the assertions of the source;
* `packet_structure` — after every sequence of operations the size is the sum of the parts,
  and the parser finds the very same packet in the buffer again.
-/
import Mediasoup.Rtp.WrittenExtensions
import Mediasoup.Lib.Runs

open Bytes Checked Slices Runs

namespace Mediasoup

namespace RtpPacket

/-! ### Operations that return -/

variable {mem : List UInt8} {s : Placed} {packet : RtpPacket} {op : Operation}
  {payloadType ssrc : ℕ} {r : List UInt8 × RtpPacket}

theorem returns_rtxEncode {seq : ℕ}
    (hsize : packet.payload + packet.payloadLength + packet.payloadPadding = packet.size) :
    (packet.rtxEncode mem payloadType ssrc seq).Returns fun r =>
      r.1.length = mem.length ∧ r.2.size = packet.payload + packet.payloadLength + 2 := by
  have htype : (setPayloadType mem payloadType).Returns fun mem' => mem'.length = mem.length :=
    (returns_any _).bind fun _ _ => returns_store_length _ _ _
  refine htype.bind fun mem₁ h₁ => (returns_store_length _ _ _).bind fun mem₂ h₂ => ?_
  refine (returns_memmove_length _ _ _ _).bind fun mem₃ h₃ => (returns_any _).bind fun _ _ => ?_
  refine (returns_store_length _ _ _).bind fun mem₄ h₄ => ?_
  refine (returns_store_length _ _ _).bind fun mem₅ h₅ => .ite (fun _ => ?_) fun h0 => ?_
  · have hflag : (setPayloadPaddingFlag mem₅ false).Returns fun mem' =>
        mem'.length = mem₅.length := (returns_any _).bind fun _ _ => returns_store_length _ _ _
    refine hflag.bind fun mem₆ h₆ => returns_value ⟨?_, ?_⟩ <;> dsimp only <;> omega
  · refine returns_value ⟨?_, ?_⟩ <;> dsimp only at h0 ⊢ <;> omega

theorem yields_decoded (h : packet.Layout mem) :
    (packet.rtxDecode mem payloadType ssrc).Yields fun o =>
      (o.getD (mem, packet)).2.Layout (o.getD (mem, packet)).1 := by
  have hsize := h.size
  have hle := h.size_le
  by_cases htwo : packet.payloadLength < 2
  · rw [rtxDecode, if_pos htwo]
    exact yields_value h
  obtain ⟨_, ho, mem', rfl, hwritten, -⟩ :=
    @yields_rtxDecode mem packet payloadType ssrc h (by omega)
  have hlayout : (packet.withPayload (packet.payloadLength - 2)).Layout mem' :=
    h.rewritten hwritten (by omega)
  exact ⟨_, ho, hlayout⟩

theorem returns_memcpy {buffer : List UInt8} {dst src n : ℕ} :
    (memcpy buffer dst mem src n).Returns fun buffer' => buffer'.length = buffer.length :=
  (returns_any _).bind fun _ _ => returns_store_length _ _ _

theorem returns_parseExtensions {pos : ℕ} :
    (packet.parseExtensions mem pos).Returns fun packet' => packet'.size = packet.size := by
  refine (returns_any _).bind fun _ _ => (returns_any _).bind fun _ _ => ?_
  refine (returns_any _).bind fun _ _ => .ite (fun _ => ?_) fun _ => ?_
  · exact (returns_any _).bind fun _ _ => returns_value rfl
  · refine .ite (fun _ => ?_) fun _ => returns_value rfl
    exact (returns_any _).bind fun _ _ => returns_value rfl

theorem returns_clone {new : CloneBuffer} : (packet.clone mem new).Returns fun r =>
      r.1.length = cloneCapacity ∧ r.2.size = packet.size := by
  have hextension : ∀ buffer ptr, (packet.cloneHeaderExtension mem buffer ptr).Returns fun r =>
      r.1.length = buffer.length := by
    intro buffer ptr
    unfold cloneHeaderExtension
    split
    · exact returns_value rfl
    · refine (returns_any _).bind fun _ _ => ?_
      exact returns_memcpy.bind fun buffer' hlen => returns_value hlen
  -- every copy keeps the length of the buffer it writes into
  have hbytes : (packet.cloneBytes mem new).Returns fun r => r.1.length = cloneCapacity := by
    refine returns_memcpy.bind fun buffer₁ h₁ => (returns_any _).bind fun _ _ => ?_
    refine returns_memcpy.bind fun buffer₂ h₂ => (hextension _ _).bind fun r h₃ => ?_
    refine returns_memcpy.bind fun buffer₄ h₄ => ?_
    have hpadding : (packet.clonePadding buffer₄ (r.2.2 + packet.payloadLength)).Returns
        fun buffer₅ => buffer₅.length = buffer₄.length :=
      Returns.ite (fun _ => returns_store_length _ _ _) fun _ => returns_value rfl
    refine hpadding.bind fun buffer₅ h₅ => (returns_any _).bind fun _ _ => returns_value ?_
    rw [h₅, h₄, h₃, h₂, h₁, new.length_eq]
  refine hbytes.bind fun r hr => ?_
  obtain ⟨buffer, headerExtension, payload⟩ := r
  cases headerExtension with
  | none => exact returns_value ⟨hr, rfl⟩
  | some pos => exact returns_parseExtensions.bind fun copy hcopy => returns_value ⟨hr, hcopy⟩

/-! ### Sequences of operations -/

/-- A packet and the buffer it is in. -/
structure Placed where
  mem : List UInt8
  packet : RtpPacket

/-- The operations that move bytes of the packet. -/
inductive Operation where
  | setExtensions (type : ExtensionType) (extensions : List GenericExtension)
      (typed : ∀ e ∈ extensions, e.Typed)
  | setPayloadLength (length : ℕ)
  | shiftPayload (payloadOffset shift : ℕ) (expand : Bool)
  | rtxEncode (payloadType ssrc seq : ℕ)
  | rtxDecode (payloadType ssrc : ℕ)
  | clone (new : CloneBuffer)

inductive Fault where
  | assertion
  | outOfBounds
  | outOfFuel

/-- After `Clone` the copy is worked on; a packet that is no retransmission stays as it is. -/
def Placed.apply (s : Placed) : Operation → Checked (List UInt8 × RtpPacket)
  | .setExtensions type extensions _ => s.packet.setExtensions s.mem type extensions
  | .setPayloadLength length => s.packet.setPayloadLength s.mem length
  | .shiftPayload payloadOffset shift expand =>
    s.packet.shiftPayload s.mem payloadOffset shift expand
  | .rtxEncode payloadType ssrc seq => s.packet.rtxEncode s.mem payloadType ssrc seq
  | .rtxDecode payloadType ssrc => do
    let decoded ← s.packet.rtxDecode s.mem payloadType ssrc
    return decoded.getD (s.mem, s.packet)
  | .clone new => s.packet.clone s.mem new

def Placed.step (s : Placed) (op : Operation) : Except Fault Placed :=
  match s.apply op with
  | .value r => .ok ⟨r.1, r.2⟩
  | .reject => .error .assertion
  | .outOfBounds => .error .outOfBounds
  | .outOfFuel => .error .outOfFuel

/-- After the operation the packet is within the capacity of its buffer. -/
def WithinCapacity (s : Placed) (op : Operation) : Prop :=
  ∀ s', s.step op = .ok s' → s'.packet.size ≤ s'.mem.length

/-- There is room for the result of the operation, and its arguments pass the assertions. -/
def Fits (s : Placed) : Operation → Prop
  | .setExtensions type extensions _ =>
    s.packet.CanHold s.mem (extensionsTotalSize type extensions)
  | .setPayloadLength length => s.packet.payload + paddedSize length ≤ s.mem.length
  | .shiftPayload payloadOffset shift expand =>
    s.packet.CanShift s.mem payloadOffset shift expand
  | .rtxEncode _ _ _ => s.packet.payload + s.packet.payloadLength + 2 ≤ s.mem.length
  | .rtxDecode _ _ => True
  | .clone _ => s.packet.size ≤ cloneCapacity

instance (s : Placed) (op : Operation) : Decidable (Fits s op) := by
  cases op with
  | shiftPayload => exact inferInstanceAs (Decidable (_ ∨ _))
  | _ => unfold Fits; infer_instance

/-- The size is the sum of the parts, and the parser finds the packet again. -/
structure Structured (s : Placed) : Prop where
  size_eq : s.packet.size = rtpHeaderSize + 4 * bits (byteAt s.mem 0) 0 4 +
    s.packet.headerExtensionSize s.mem + s.packet.payloadLength + s.packet.payloadPadding
  parsed : parse s.mem s.packet.size = value s.packet

theorem Layout.structured (h : s.packet.Layout s.mem) : Structured s where
  size_eq := by
    have hpayload := h.payload
    have hsize := h.size
    unfold csrcEnd at hpayload
    omega
  parsed := h.parse

/-- **One operation** that fits returns, and keeps the layout. -/
theorem yields_apply (h : s.packet.Layout s.mem) (hfits : Fits s op) :
    (s.apply op).Yields fun r => r.2.Layout r.1 := by
  cases op with
  | setExtensions type extensions typed =>
    obtain ⟨r, hr, hpacket, hextended⟩ := yields_setExtensions h hfits
    refine ⟨r, hr, ?_⟩
    simp only [hpacket]
    exact h.extended typed hfits hextended
  | setPayloadLength length =>
    obtain ⟨r, hr, ⟨hlen, hsize⟩, hlayout⟩ := yields_setPayloadLength h
    exact ⟨r, hr, hlayout (by rw [hsize, hlen]; exact hfits)⟩
  | shiftPayload payloadOffset shift expand =>
    obtain ⟨r, hr, -, hlayout⟩ := yields_shiftPayload h hfits
    exact ⟨r, hr, hlayout⟩
  | rtxEncode payloadType ssrc seq =>
    obtain ⟨r, hr, hpacket, hwritten, -⟩ := yields_rtxEncode h hfits
    refine ⟨r, hr, ?_⟩
    simp only [hpacket]
    exact h.rewritten hwritten hfits
  | rtxDecode payloadType ssrc =>
    exact (yields_decoded h).bind fun decoded hdecoded => yields_value hdecoded
  | clone new =>
    obtain ⟨r, hr, hpacket, hcopy⟩ := yields_clone h hfits
    refine ⟨r, hr, ?_⟩
    simp only [hpacket]
    exact hcopy.layout h hfits

theorem fits_of_apply (h : s.packet.Layout s.mem) (hr : s.apply op = value r)
    (hle : r.2.size ≤ r.1.length) : Fits s op := by
  cases op with
  | setExtensions type extensions typed => exact canHold_of_setExtensions h hr hle
  | setPayloadLength length =>
    obtain ⟨⟨hlen, hsize⟩, -⟩ := (yields_setPayloadLength h).returns r hr
    rwa [hlen, hsize] at hle
  | shiftPayload payloadOffset shift expand => exact canShift_of_shiftPayload h r hr
  | rtxEncode payloadType ssrc seq =>
    obtain ⟨hlen, hsize⟩ := returns_rtxEncode h.size r hr
    rwa [hlen, hsize] at hle
  | rtxDecode payloadType ssrc => trivial
  | clone new =>
    obtain ⟨hlen, hsize⟩ := returns_clone r hr
    rwa [hlen, hsize] at hle

theorem apply_of_step {s' : Placed} (h : s.step op = .ok s') :
    s.apply op = value (s'.mem, s'.packet) := by
  unfold Placed.step at h
  split at h
  · next r hr =>
    cases h
    exact hr
  · cases h
  · cases h
  · cases h

def Placed.Laid (s : Placed) : Prop := s.packet.Layout s.mem

theorem step_meets (s : Placed) (op : Operation) (h : s.Laid) (hfits : Fits s op) :
    Meets (fun _ => True) Placed.Laid (s.step op) := by
  obtain ⟨r, hr, hlaid⟩ := yields_apply h hfits
  have hstep : s.step op = .ok ⟨r.1, r.2⟩ := by rw [Placed.step, hr]
  rw [hstep]
  exact hlaid

theorem step_laid (s : Placed) (op : Operation) (s' : Placed) (h : s.Laid)
    (hcap : WithinCapacity s op) (hstep : s.step op = .ok s') : s'.Laid :=
  (yields_apply h (fits_of_apply h (apply_of_step hstep) (hcap s' hstep))).returns _
    (apply_of_step hstep)

/-- **The structure of a packet.**  From a parsed packet on, every sequence of operations
that returns within the capacity of the buffer leaves a packet whose size is the sum of its
parts and which is parsed again to the same packet; and operations that fit do return. -/
theorem packet_structure (mem : List UInt8) (len : ℕ) (hlen : len ≤ mem.length)
    (packet : RtpPacket) (hparse : parse mem len = value packet) (ops : List Operation) :
    (∀ s, Along Placed.step WithinCapacity ⟨mem, packet⟩ ops →
      run Placed.step ⟨mem, packet⟩ ops = .ok s → Structured s) ∧
    (Along Placed.step Fits ⟨mem, packet⟩ ops →
      ∃ s, run Placed.step ⟨mem, packet⟩ ops = .ok s ∧ Structured s) := by
  have hlaid : Placed.Laid ⟨mem, packet⟩ := ((ensures_parse hlen).of_eq hparse).2
  constructor
  · intro s halong hrun
    exact Layout.structured (run_invariant step_laid ops _ s hlaid halong hrun)
  · intro halong
    obtain ⟨s, hrun, hs⟩ := (run_meets_along step_meets ops _ hlaid halong).exists_ok
    exact ⟨s, hrun, Layout.structured hs⟩

/-- A packet with four bytes of payload and two of padding, in a larger buffer. -/
private def paddedBuffer : List UInt8 :=
  [0xA0, 96, 0, 1, 0, 0, 0, 5, 0, 0, 0, 9, 1, 2, 3, 4, 0, 2] ++ List.replicate 62 7

private def paddedOperations : List Operation :=
  [.setExtensions .oneByte [⟨3, [10, 11]⟩, ⟨0, [1]⟩, ⟨5, [12]⟩] (by decide),
    .shiftPayload 1 2 true, .clone ⟨List.replicate 1600 0, List.length_replicate⟩,
    .rtxEncode 97 10 7, .setExtensions .twoBytes [⟨30, []⟩] (by decide), .rtxDecode 96 9,
    .setPayloadLength 9]

theorem packet_structure_padded : ∃ packet, parse paddedBuffer 18 = value packet ∧
    Along Placed.step Fits ⟨paddedBuffer, packet⟩ paddedOperations ∧
    ∃ s, run Placed.step ⟨paddedBuffer, packet⟩ paddedOperations = .ok s ∧ Structured s := by
  have hparse : parse paddedBuffer 18 = value ⟨none, 12, 4, 2, 18, [], []⟩ := by decide +kernel
  have hfits : Along Placed.step Fits ⟨paddedBuffer, ⟨none, 12, 4, 2, 18, [], []⟩⟩
      paddedOperations := by decide +kernel
  have hstructure := packet_structure paddedBuffer 18 (by decide) _ hparse paddedOperations
  exact ⟨_, hparse, hfits, hstructure.2 hfits⟩

end RtpPacket

end Mediasoup
