/-
A message that the application sends through a data consumer (`dataConsumer.send`).

The reply is made by a callback that goes with the message through the data consumer and its
transport to the SCTP association, which calls it when the SCTP stack has taken the message or
has refused it.  A data consumer that is not active drops the message, and the callback with it.

* `DataConsumer.handleRequest` — the request, from its checks to the result of `usrsctp_sendv`,
* `send_answers_iff` — it is answered exactly if it is refused or the data consumer is active.
* `DataConsumer.run_notifiesExactly` — when a low buffered amount is notified as it should be.
-/
import Mathlib.Data.List.Induction
import Mediasoup.Channel.Requests

open List Handling

namespace Mediasoup

open Exchange

/-! ### Texts -/

def Plain (text : List UInt8) : Prop := ∀ b ∈ text, b < 128

variable {text : List UInt8}

theorem Plain.append {text' : List UInt8} (h : Plain text) (h' : Plain text') :
    Plain (text ++ text') := fun b hb => (mem_append.mp hb).elim (h b) (h' b)

theorem Plain.sublist {text' : List UInt8} (h : Plain text) (hs : text'.Sublist text) :
    Plain text' := fun b hb => h b (hs.subset hb)

theorem Plain.utf8 (h : Plain text) : Utf8 text := by
  have hsingle : ∀ n : Fin 128, Utf8 [UInt8.ofNat n.val] := by decide +kernel
  induction text with
  | nil => decide
  | cons b text ih =>
    have hb : Utf8 [b] := by
      have hlt : b.toNat < 128 := UInt8.lt_iff_toNat_lt.mp (h b mem_cons_self)
      simpa using hsingle ⟨b.toNat, hlt⟩
    have happend := ByteArray.IsValidUTF8.append hb (ih fun c hc => h c (mem_cons_of_mem b hc))
    have heq : (⟨(b :: text).toArray⟩ : ByteArray) = ⟨[b].toArray⟩ ++ ⟨text.toArray⟩ :=
      ByteArray.ext (by simp [ByteArray.data_append])
    rwa [Utf8, heq]

theorem plain_ascii {text : String} (h : text.toList.all fun c => c.toNat < 128) :
    Plain (ascii text) := by
  intro b hb
  obtain ⟨c, hc, rfl⟩ := mem_map.mp hb
  have hlt : c.toNat < 128 := of_decide_eq_true (all_eq_true.mp h c hc)
  rw [UInt8.lt_iff_toNat_lt, UInt8.toNat_ofNat']
  exact (Nat.mod_le _ _).trans_lt hlt

def decimalText (n : ℕ) : List UInt8 := ascii (String.ofList (Nat.toDigits 10 n))

theorem plain_decimalText (n : ℕ) : Plain (decimalText n) := by
  refine plain_ascii (all_eq_true.mpr fun c hc => decide_eq_true ?_)
  rw [String.toList_ofList] at hc
  have hdigit := Nat.isDigit_of_mem_toDigits (by decide) (le_refl 10) hc
  rw [Char.isDigit, Bool.and_eq_true, decide_eq_true_eq, decide_eq_true_eq] at hdigit
  have hle : c.toNat ≤ 57 := UInt32.le_iff_toNat_le.mp hdigit.2
  exact hle.trans_lt (by decide)

/-- `std::stoi`; nothing if it throws. -/
def stoiDigits (negative : Bool) (text : List UInt8) : Option ℤ :=
  let digits := text.takeWhile isDigitByte
  let value : ℤ := if negative then -digitsValue digits else digitsValue digits
  if digits = [] ∨ value < -2 ^ 31 ∨ 2 ^ 31 ≤ value then none else some value

def stoi (text : List UInt8) : Option ℤ :=
  match text.dropWhile isSpaceByte with
  | 43 :: rest => stoiDigits false rest
  | 45 :: rest => stoiDigits true rest
  | rest => stoiDigits false rest

/-! ### Data consumers -/

/-- `DataConsumer::Type`. -/
inductive DataConsumerType where
  | sctp
  | direct
  deriving DecidableEq

structure SctpStreamParameters where
  streamId : UInt16 := 0
  ordered : Bool := true
  maxPacketLifeTime : UInt16 := 0
  maxRetransmits : UInt16 := 0

structure DataConsumer where
  id : List UInt8
  type : DataConsumerType
  sctpStreamParameters : SctpStreamParameters := {}
  transportConnected : Bool := false
  sctpAssociationConnected : Bool := false
  dataProducerClosed : Bool := false
  messagesSent : ℕ := 0
  bytesSent : ℕ := 0
  bufferedAmount : UInt32 := 0
  bufferedAmountLowThreshold : UInt32 := 0
  forceTriggerBufferedAmountLow : Bool := false

/-- The notifications on the channel. -/
inductive DataConsumerEvent where
  | bufferedAmountLow (bufferedAmount : UInt32)
  | sctpSendBufferFull

/-- The transport of a data consumer.  Its size limit is also that of its association, of which
only the buffered amount is used. -/
structure DataTransport where
  mapDataConsumers : List DataConsumer
  sctpBufferedAmount : Option ℕ
  maxMessageSize : ℕ
  emitted : List (List UInt8 × DataConsumerEvent) := []

namespace DataConsumer

def isActive (c : DataConsumer) : Bool :=
  c.transportConnected && (decide (c.type = .direct) || c.sctpAssociationConnected) &&
    !c.dataProducerClosed

/-- `SctpAssociationBufferedAmount`, with the notification. -/
def sctpAssociationBufferedAmount (c : DataConsumer) (bufferedAmount : UInt32) :
    DataConsumer × List (List UInt8 × DataConsumerEvent) :=
  let previousBufferedAmount := c.bufferedAmount
  let c := { c with bufferedAmount }
  if (c.forceTriggerBufferedAmountLow ∨ c.bufferedAmountLowThreshold < previousBufferedAmount) ∧
      c.bufferedAmount ≤ c.bufferedAmountLowThreshold then
    ({ c with forceTriggerBufferedAmountLow := false }, [(c.id, .bufferedAmountLow bufferedAmount)])
  else (c, [])

end DataConsumer

namespace DataTransport

variable (t : DataTransport)

def onSctpAssociationBufferedAmount (bufferedAmount : UInt32) : DataTransport :=
  let renewed := t.mapDataConsumers.map fun c =>
    if c.type = .sctp then c.sctpAssociationBufferedAmount bufferedAmount else (c, [])
  { t with
    mapDataConsumers := renewed.map Prod.fst
    emitted := t.emitted ++ renewed.flatMap Prod.snd }

/-- The association counts a message before it is sent. -/
def addBufferedAmount (len : ℕ) : DataTransport :=
  let amount := t.sctpBufferedAmount.map (· + len)
  { t with sctpBufferedAmount := amount }.onSctpAssociationBufferedAmount
    (UInt32.ofNat (amount.getD 0))

/-- The data consumer counts a message. -/
def countMessage (id : List UInt8) (len : ℕ) : DataTransport :=
  { t with mapDataConsumers := t.mapDataConsumers.map fun c =>
      if c.id = id then
        { c with messagesSent := c.messagesSent + 1, bytesSent := c.bytesSent + len }
      else c }

def emit (id : List UInt8) (event : DataConsumerEvent) : DataTransport :=
  { t with emitted := t.emitted ++ [(id, event)] }

end DataTransport

/-! ### Sending -/

/-- The reliability of a message. -/
inductive PrPolicy where
  | none
  | ttl (maxPacketLifeTime : UInt16)
  | rtx (maxRetransmits : UInt16)

/-- `sctp_sendv_spa`. -/
structure SendvSpa where
  sid : UInt16
  ppid : UInt32
  unordered : Bool
  policy : PrPolicy

/-- The result of `usrsctp_sendv`, with `EWOULDBLOCK` and `EAGAIN` apart from other errors. -/
inductive SendvResult where
  | sent
  | failed (sctpSendBufferFull : Bool)

def SendvSpa.of (parameters : SctpStreamParameters) (ppid : UInt32) : SendvSpa where
  sid := parameters.streamId
  ppid
  unordered := !parameters.ordered
  policy :=
    if parameters.ordered then .none
    else if parameters.maxPacketLifeTime ≠ 0 then .ttl parameters.maxPacketLifeTime
    else if parameters.maxRetransmits ≠ 0 then .rtx parameters.maxRetransmits
    else .none

section

variable {δ : Type} (lib : JsonLibrary δ) (sendv : SendvSpa → List UInt8 → SendvResult)

def modifyTransport (f : DataTransport → DataTransport) : Handler DataTransport δ Unit :=
  modify fun s => { s with world := f s.world }

/-- `SctpAssociation::SendSctpMessage` with a callback. -/
def sendSctpMessage (c : DataConsumer) (ppid : UInt32) (msg : List UInt8)
    (cb : Bool → Bool → Handler DataTransport δ Unit) : Handler DataTransport δ Unit := do
  let s ← get
  assert (msg.length ≤ s.world.maxMessageSize)
  modifyTransport fun t => t.addBufferedAmount msg.length
  match sendv (.of c.sctpStreamParameters ppid) msg with
  | .sent => cb true false
  | .failed sctpSendBufferFull => do
    cb false sctpSendBufferFull
    if sctpSendBufferFull then modifyTransport fun t => t.emit c.id .sctpSendBufferFull

namespace DataConsumer

/-- `SendMessage`; each transport with an association hands the message to it. -/
def sendMessage (c : DataConsumer) (ppid : UInt32) (msg : List UInt8)
    (cb : Bool → Bool → Handler DataTransport δ Unit) : Handler DataTransport δ Unit := do
  if c.isActive then
    let s ← get
    if msg.length ≤ s.world.maxMessageSize then
      modifyTransport fun t => t.countMessage c.id msg.length
      sendSctpMessage sendv c ppid msg cb

/-- The callback of a request. -/
def onQueued (id : UInt32) (queued sctpSendBufferFull : Bool) : Handler DataTransport δ Unit :=
  if queued then accept id
  else fail lib id .error
    (if sctpSendBufferFull then ascii "sctpsendbufferfull" else ascii "message send failed")

/-- `HandleRequest`, with the only method there is. -/
def handleRequest (c : DataConsumer) (request : PayloadChannelRequest) (payload : List UInt8) :
    Handler DataTransport δ Unit := do
  let s ← get
  if c.type ≠ .sctp then
    throwing .typeError (ascii "invalid DataConsumer type")
  else if s.world.sctpBufferedAmount = none then
    throwing .error (ascii "no SCTP association present")
  else match stoi request.data with
    | none => throwing .typeError (ascii "invalid PPID value: stoi")
    | some ppid =>
      if s.world.maxMessageSize < payload.length then
        -- the two numbers are in the wrong order
        throwing .typeError (ascii "given message exceeds maxMessageSize value [maxMessageSize:" ++
          decimalText payload.length ++ ascii ", len:" ++ decimalText s.world.maxMessageSize ++
          ascii "]")
      else c.sendMessage sendv (UInt32.ofInt ppid) payload (onQueued lib request.id)

end DataConsumer

/-- The payload of the request has come: the socket and the worker hand it to its data consumer. -/
def handleSend (request : PayloadChannelRequest) (payload : List UInt8) :
    Handler DataTransport δ Unit :=
  answering lib request.id <| namingMethod (fun type => type) request.method do
    let s ← get
    match s.world.mapDataConsumers.find? fun c => c.id = request.handlerId with
    | none => throwing .error (ascii "PayloadChannel request handler with ID " ++
        cString request.handlerId ++ ascii " not found")
    | some c => c.handleRequest lib sendv request payload

end

/-! ### Replies -/

section

variable {δ : Type} {lib : JsonLibrary δ} {sendv : SendvSpa → List UInt8 → SendvResult}
  {s : Exchange DataTransport δ} {c : DataConsumer} {id : UInt32}

theorem silent_modifyTransport (s : Exchange DataTransport δ) (f : DataTransport → DataTransport) :
    Silent s { s with world := f s.world } := ⟨rfl, rfl, rfl⟩

theorem onQueued_answers (lib : JsonLibrary δ) (id : UInt32) (hready : s.Ready)
    (queued full : Bool) :
    Meets (DataConsumer.onQueued lib id queued full) s (fun _ => Answered id s)
      fun _ _ => False := by
  have hfailed (text : String) (hlen : (ascii text).length ≤ 1999)
      (hplain : text.toList.all fun c => c.toNat < 128) :
      Meets (fail lib id .error (ascii text)) s (fun _ => Answered id s) fun _ _ => False := by
    obtain ⟨s', hfail, hanswered, -⟩ :=
      fail_of_utf8 lib id hready hlen (plain_ascii hplain).utf8 .error
    exact meets_of_eq hfail hanswered
  rw [DataConsumer.onQueued]
  split_ifs
  · exact meets_accept hready
  · exact hfailed "sctpsendbufferfull" (by decide) (by decide)
  · exact hfailed "message send failed" (by decide) (by decide)

variable {msg : List UInt8}

theorem sendSctpMessage_answers (hready : s.Ready)
    (hlen : msg.length ≤ s.world.maxMessageSize) (ppid : UInt32) :
    Meets (sendSctpMessage sendv c ppid msg (DataConsumer.onQueued lib id)) s
      (fun _ => Answered id s) fun _ _ => False := by
  have hsilent := silent_modifyTransport s fun t => t.addBufferedAmount msg.length
  have hcallback (queued full : Bool) :=
    onQueued_answers lib id (hready.of_silent hsilent) queued full
  refine .step (get_apply s) (.asserted hlen (.step (modify_apply ..) ?_))
  cases sendv (.of c.sctpStreamParameters ppid) msg with
  | sent => exact (hcallback true false).mono (fun _ _ ha => hsilent.answered ha) fun _ _ h => h
  | failed full =>
    refine (hcallback false full).bind fun _ s' hanswered => ?_
    have hreplied := hsilent.answered hanswered
    cases full with
    | false => exact meets_pure hreplied
    | true => exact hreplied

theorem sendMessage_active (hready : s.Ready) (hactive : c.isActive)
    (hlen : msg.length ≤ s.world.maxMessageSize) (ppid : UInt32) :
    Meets (c.sendMessage sendv ppid msg (DataConsumer.onQueued lib id)) s
      (fun _ => Answered id s) fun _ _ => False := by
  have hsilent := silent_modifyTransport s fun t => t.countMessage c.id msg.length
  rw [DataConsumer.sendMessage, if_pos hactive]
  refine .step (get_apply s) ?_
  rw [if_pos hlen]
  refine .step (modify_apply ..) ?_
  exact (sendSctpMessage_answers (hready.of_silent hsilent) hlen ppid).mono
    (fun _ _ ha => hsilent.answered ha) fun _ _ h => h

/-- The request fails one of the checks. -/
def Refuses (t : DataTransport) (c : DataConsumer) (request : PayloadChannelRequest)
    (payload : List UInt8) : Prop :=
  c.type ≠ .sctp ∨ t.sctpBufferedAmount = none ∨ stoi request.data = none ∨
    t.maxMessageSize < payload.length

variable {request : PayloadChannelRequest} {payload : List UInt8}

theorem handleRequest_refused (h : Refuses s.world c request payload) :
    ∃ type what, c.handleRequest lib sendv request payload s = .thrown (.mediaSoup type what) s ∧
      Plain what := by
  rw [DataConsumer.handleRequest, bind_returned (get_apply s)]
  by_cases htype : c.type = .sctp
  · rw [if_neg (not_not_intro htype)]
    by_cases hassociation : s.world.sctpBufferedAmount = none
    · rw [if_pos hassociation]
      exact ⟨_, _, rfl, (plain_ascii (by decide)).sublist (take_sublist ..)⟩
    rw [if_neg hassociation]
    cases hppid : stoi request.data with
    | none => exact ⟨_, _, rfl, (plain_ascii (by decide)).sublist (take_sublist ..)⟩
    | some ppid =>
      -- the three earlier checks have passed, so it is the size that refuses
      have hlen : s.world.maxMessageSize < payload.length := by
        rcases h with h | h | h | h
        · exact absurd htype h
        · exact absurd h hassociation
        · rw [hppid] at h
          cases h
        · exact h
      show ∃ type what, (if s.world.maxMessageSize < payload.length then _ else _ :
        Handler DataTransport δ Unit) s = _ ∧ _
      rw [if_pos hlen]
      refine ⟨_, _, rfl, Plain.sublist ?_ (take_sublist ..)⟩
      exact ((((plain_ascii (by decide)).append (plain_decimalText _)).append
        (plain_ascii (by decide))).append (plain_decimalText _)).append (plain_ascii (by decide))
  · rw [if_pos htype]
    exact ⟨_, _, rfl, (plain_ascii (by decide)).sublist (take_sublist ..)⟩

theorem handleRequest_taken (h : ¬Refuses s.world c request payload) : ∃ ppid,
    c.handleRequest lib sendv request payload s =
      c.sendMessage sendv ppid payload (DataConsumer.onQueued lib request.id) s ∧
    payload.length ≤ s.world.maxMessageSize := by
  simp only [Refuses, not_or, not_not, not_lt] at h
  obtain ⟨htype, hassociation, hppid, hlen⟩ := h
  obtain ⟨ppid, hppid⟩ := Option.ne_none_iff_exists'.mp hppid
  refine ⟨UInt32.ofInt ppid, ?_, hlen⟩
  rw [DataConsumer.handleRequest, bind_returned (get_apply s), if_neg (not_not_intro htype),
    if_neg hassociation, hppid]
  show (if s.world.maxMessageSize < payload.length then _ else _ : Handler DataTransport δ Unit) s =
    _
  rw [if_neg (Nat.not_lt.mpr hlen)]

theorem method_of_new (h : PayloadChannelRequest.new msg = .ok request) :
    request.method = ascii "dataConsumer.send" := by
  unfold PayloadChannelRequest.new at h
  split at h
  · split at h
    · cases h
    split at h
    · cases h
    case h_2 method _ _ _ _ methodId hmethod =>
      cases h
      rw [string2MethodId] at hmethod
      split_ifs at hmethod with heq
      exact heq
  · cases h

theorem handleSend_eq
    (hfind : s.world.mapDataConsumers.find? (fun c => c.id = request.handlerId) = some c) :
    handleSend lib sendv request payload s = answering lib request.id
      (namingMethod (fun type => type) request.method
        (c.handleRequest lib sendv request payload)) s := by
  refine catching_congr (catching_congr ?_)
  rw [bind_returned (get_apply s), hfind]

/-- **One reply.**  A request to send a message is answered exactly once if and only if it fails
one of the checks or its data consumer is active, whatever the SCTP stack says. -/
theorem send_answers_iff (lib : JsonLibrary δ) (sendv : SendvSpa → List UInt8 → SendvResult)
    {msg : List UInt8} (hready : s.Ready) (hnew : PayloadChannelRequest.new msg = .ok request)
    (hfind : s.world.mapDataConsumers.find? (fun c => c.id = request.handlerId) = some c)
    (payload : List UInt8) :
    (∃ s', handleSend lib sendv request payload s = .returned () s' ∧ Answered request.id s s') ↔
      Refuses s.world c request payload ∨ c.isActive := by
  rw [handleSend_eq hfind]
  by_cases hrefuses : Refuses s.world c request payload
  · refine iff_of_true ?_ (.inl hrefuses)
    obtain ⟨type, what, hthrown, hplain⟩ := handleRequest_refused hrefuses
    -- the text of the reply is still ASCII, with the method in it
    have hnamed := (catching_thrown hthrown :
      namingMethod (fun type => type) request.method (c.handleRequest lib sendv request payload) s =
        throwing type (cString what ++ ascii " [method:" ++ cString request.method ++ ascii "]") s)
    have hmethod : Plain (cString request.method) := by
      rw [method_of_new hnew]
      exact (plain_ascii (by decide)).sublist (takeWhile_sublist _)
    have htext : Plain (cString what ++ ascii " [method:" ++ cString request.method ++ ascii "]") :=
      (((hplain.sublist (takeWhile_sublist _)).append (plain_ascii (by decide))).append
        hmethod).append (plain_ascii (by decide))
    rcases answering_thrown lib request.id hready hnamed (length_take_le ..) ⟨rfl, rfl, rfl⟩ with
      ⟨s', hreturned, hanswered, -⟩ | ⟨s', -, hutf8⟩
    · exact ⟨s', hreturned, hanswered⟩
    · exact absurd (htext.sublist (take_sublist ..)).utf8 hutf8
  · rw [or_iff_right hrefuses]
    obtain ⟨ppid, hsend, hlen⟩ := handleRequest_taken hrefuses
    by_cases hactive : c.isActive
    · refine iff_of_true ?_ hactive
      rcases (sendMessage_active hready hactive hlen ppid).cases with
        ⟨_, s', heq, hanswered⟩ | ⟨_, _, _, hfalse⟩
      · exact ⟨s', catching_returned (catching_returned (hsend.trans heq)), hanswered⟩
      · exact hfalse.elim
    · -- the message is dropped, and the callback with it
      refine iff_of_false ?_ hactive
      have hdropped : c.handleRequest lib sendv request payload s = .returned () s := by
        rw [hsend, DataConsumer.sendMessage, if_neg hactive]
        rfl
      have hnone : answering lib request.id (namingMethod (fun type => type) request.method
          (c.handleRequest lib sendv request payload)) s = .returned () s :=
        catching_returned (catching_returned hdropped)
      rw [hnone]
      rintro ⟨s', heq, reply, -, hsent⟩
      cases heq
      simp at hsent

def sampleTransport (connected : Bool) : DataTransport where
  mapDataConsumers := [{ id := ascii "c", type := .sctp, transportConnected := true
                         sctpAssociationConnected := connected }]
  sctpBufferedAmount := some 0
  maxMessageSize := 1000

def sampleSend : PayloadChannelRequest where
  id := 7
  method := ascii "dataConsumer.send"
  methodId := .dataConsumerSend
  handlerId := ascii "c"
  data := ascii "51"

theorem new_sampleSend :
    PayloadChannelRequest.new (ascii "7:dataConsumer.send:c:51") = .ok sampleSend := by
  decide +kernel

/-- The SCTP stack has no room for the message. -/
theorem sampleSend_answered : ∃ s', handleSend Worker.sampleLibrary (fun _ _ => .failed true)
      sampleSend [1, 2, 3] { world := sampleTransport true } = .returned () s' ∧
    Answered 7 { world := sampleTransport true } s' :=
  (send_answers_iff Worker.sampleLibrary _ ⟨rfl, rfl⟩ new_sampleSend rfl _).mpr (.inr rfl)

/-- The association is not connected yet: no reply, and the SCTP stack is not asked. -/
theorem sampleSend_unanswered : ∃ s', handleSend Worker.sampleLibrary (fun _ _ => .sent) sampleSend
      [1, 2, 3] { world := sampleTransport false } = .returned () s' ∧ s'.sent = [] :=
  ⟨_, rfl, rfl⟩

end

/-! ### A low buffered amount -/

namespace DataConsumer

/-- The request `dataConsumer.setBufferedAmountLowThreshold`, with the notification.  The data
has a threshold if it is an unsigned number. -/
def setBufferedAmountLowThreshold (c : DataConsumer) (threshold : Option ℕ) :
    Except String (DataConsumer × List (List UInt8 × DataConsumerEvent)) :=
  if c.type ≠ .sctp then .error "invalid DataConsumer type"
  else match threshold with
  | none => .error "wrong bufferedAmountThreshold (not an unsigned number)"
  | some threshold =>
    let c := { c with bufferedAmountLowThreshold := UInt32.ofNat threshold }
    if c.bufferedAmount ≤ c.bufferedAmountLowThreshold then
      .ok (c, [(c.id, .bufferedAmountLow c.bufferedAmount)])
    else .ok ({ c with forceTriggerBufferedAmountLow := true }, [])

/-- What a data consumer is told. -/
inductive Change where
  | threshold (data : Option ℕ)
  | bufferedAmount (amount : UInt32)

def step (c : DataConsumer) : Change → DataConsumer
  | .threshold data => ((c.setBufferedAmountLowThreshold data).map Prod.fst).toOption.getD c
  | .bufferedAmount amount => (c.sctpAssociationBufferedAmount amount).1

def run (c : DataConsumer) (changes : List Change) : DataConsumer := changes.foldl step c

/-- The event is emitted when the amount gets low, and when it is low for a new threshold. -/
def NotifiesExactly (c : DataConsumer) : Change → Prop
  | .threshold data => ∀ threshold ∈ data, ∀ next,
      c.setBufferedAmountLowThreshold data = .ok next →
      (next.2 ≠ [] ↔ c.bufferedAmount.toNat ≤ threshold)
  | .bufferedAmount amount => ((c.sctpAssociationBufferedAmount amount).2 ≠ [] ↔
      c.bufferedAmountLowThreshold < c.bufferedAmount ∧ amount ≤ c.bufferedAmountLowThreshold)

/-- The threshold is above the amount, but its 32 bits are not; or the amount was low before, but
an earlier threshold still forces the event. -/
def Misfires (c : DataConsumer) : Change → Prop
  | .threshold data => c.type = .sctp ∧ ∃ threshold ∈ data,
      UInt32.ofNat threshold < c.bufferedAmount ∧ c.bufferedAmount.toNat ≤ threshold
  | .bufferedAmount amount => c.forceTriggerBufferedAmountLow ∧
      c.bufferedAmount ≤ c.bufferedAmountLowThreshold ∧ amount ≤ c.bufferedAmountLowThreshold

/-- A forced event is one that is still due. -/
def Due (c : DataConsumer) : Prop :=
  c.forceTriggerBufferedAmountLow → c.bufferedAmountLowThreshold < c.bufferedAmount

/-- A threshold has 32 bits, and while an event is forced none is met at once. -/
def Patient (c : DataConsumer) : Change → Prop
  | .threshold data => ∀ threshold ∈ data, threshold < UInt32.size ∧
      (c.forceTriggerBufferedAmountLow → threshold < c.bufferedAmount.toNat)
  | .bufferedAmount _ => True

variable {c : DataConsumer} {change : Change}

theorem le_ofNat_of_le {amount : UInt32} {threshold : ℕ} (h : amount ≤ UInt32.ofNat threshold) :
    amount.toNat ≤ threshold := by
  rw [UInt32.le_iff_toNat_le, UInt32.toNat_ofNat'] at h
  exact h.trans (Nat.mod_le _ _)

theorem notifiesExactly_iff : NotifiesExactly c change ↔ ¬Misfires c change := by
  cases change with
  | threshold data =>
    cases data with
    | none => simp [NotifiesExactly, Misfires]
    | some threshold =>
      have hle := @le_ofNat_of_le c.bufferedAmount threshold
      by_cases htype : c.type = .sctp
      · by_cases hlow : c.bufferedAmount ≤ UInt32.ofNat threshold
        · simp [NotifiesExactly, Misfires, setBufferedAmountLowThreshold, htype, hlow, hle hlow]
        · simp [NotifiesExactly, Misfires, setBufferedAmountLowThreshold, htype, hlow,
            UInt32.not_le.mp hlow]
      · simp [NotifiesExactly, Misfires, setBufferedAmountLowThreshold, htype]
  | bufferedAmount amount =>
    simp only [NotifiesExactly, Misfires, sctpAssociationBufferedAmount]
    grind

theorem Due.step (h : c.Due) (hpatient : c.Patient change) : (c.step change).Due := by
  unfold Due at h ⊢
  cases change with
  | threshold data =>
    simp only [DataConsumer.step, setBufferedAmountLowThreshold]
    cases data with
    | none => grind [Except.map, Except.toOption]
    | some threshold =>
      have hlt := (hpatient threshold rfl).2
      rw [← UInt32.toNat_ofNat_of_lt' (hpatient threshold rfl).1, ← UInt32.lt_iff_toNat_lt] at hlt
      grind [Except.map, Except.toOption]
  | bufferedAmount amount =>
    simp only [DataConsumer.step, sctpAssociationBufferedAmount]
    grind

theorem Due.not_misfires (h : c.Due) (hpatient : c.Patient change) : ¬Misfires c change := by
  cases change with
  | threshold data =>
    rintro ⟨-, threshold, hdata, hlt, hle⟩
    rw [UInt32.lt_iff_toNat_lt, UInt32.toNat_ofNat_of_lt' (hpatient threshold hdata).1] at hlt
    omega
  | bufferedAmount amount => exact fun hlow => absurd hlow.2.1 (UInt32.not_le.mpr (h hlow.1))

/-- **Low buffered amounts.**  After any changes, the next one notifies as it should exactly if
it does not misfire.  None does if the changes are patient. -/
theorem run_notifiesExactly (c : DataConsumer) (changes : List Change) (change : Change) :
    (NotifiesExactly (c.run changes) change ↔ ¬Misfires (c.run changes) change) ∧
    (c.Due → (∀ before next after, changes ++ [change] = before ++ next :: after →
      (c.run before).Patient next) → NotifiesExactly (c.run changes) change) := by
  refine ⟨notifiesExactly_iff, fun hdue hpatient => notifiesExactly_iff.mpr ?_⟩
  refine Due.not_misfires ?_ (hpatient changes change [] rfl)
  induction changes using List.reverseRecOn generalizing change with
  | nil => exact hdue
  | append_singleton changes last ih =>
    rw [run, List.foldl_append, List.foldl_cons, List.foldl_nil]
    have hlast : ∀ before next after, changes ++ [last] = before ++ next :: after →
        (c.run before).Patient next := fun before next after heq =>
      hpatient before next (after ++ [change]) (by rw [heq, List.append_assoc, List.cons_append])
    exact (ih last hlast).step (hlast changes last [] rfl)

/-- A threshold that is too low, then one that is met at once: the next amount, which is as low
as the last one, notifies again. -/
theorem notifies_again : ¬NotifiesExactly (run { id := [], type := .sctp }
    [.bufferedAmount 10, .threshold (some 5), .threshold (some 20)]) (.bufferedAmount 15) := by
  rw [notifiesExactly_iff, not_not]
  exact ⟨rfl, by decide, by decide⟩

end DataConsumer

end Mediasoup
