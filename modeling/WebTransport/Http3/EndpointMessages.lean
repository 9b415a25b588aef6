import WebTransport.Http3.Message

/-!
# The messages of an exchange

The frames of every request stream go through a machine (`http3/request.c`). The endpoint reads
the header sections of requests and responses with the dynamic table the peer fills
(`http3/endpoint.c`).
-/

namespace WebTransport

/-! ## The machine of a request stream -/

inductive RequestState
  | expectHeaders
  | body
  | complete
deriving DecidableEq, Repr

structure RequestStream where
  state : RequestState
  ended : Bool
deriving DecidableEq, Repr

def http3RequestInit : RequestStream := ⟨.expectHeaders, false⟩

/-- A frame arrives on a request stream. -/
def http3RequestOnFrame (request : RequestStream) (type : ℕ) : RequestStream × Reply :=
  if request.ended then (request, (.state, .noError))
  else
    match request.state with
    | .expectHeaders =>
      if type = http3FrameHeaders then ({ request with state := .body }, Reply.good)
      else (request, (.protocol, .frameUnexpected))
    | .body =>
      if type = http3FrameData then (request, Reply.good)
      else if type = http3FrameHeaders then ({ request with state := .complete }, Reply.good)
      else (request, (.protocol, .frameUnexpected))
    | .complete => (request, (.protocol, .frameUnexpected))

/-! ## The endpoint -/

structure EndpointRequest where
  streamId : ℕ
  responseSeen : Bool
  request : RequestStream
deriving DecidableEq, Repr

/-- The part of the endpoint that messages go through: the request streams, and the dynamic
table of the decoder with the insertions it has told its sections of. -/
structure MessageEndpoint where
  peerQpackEncoderSeen : Bool
  requests : List EndpointRequest
  decoderTable : DynamicTable
  decoderInsertCount : ℕ
  decoderAckedInsertCount : ℕ
  decoderCapacitySet : Bool
deriving DecidableEq, Repr

def messageEndpointInit : MessageEndpoint :=
  { peerQpackEncoderSeen := false
    requests := []
    decoderTable := qpackDynamicInit 0
    decoderInsertCount := 0
    decoderAckedInsertCount := 0
    decoderCapacitySet := false }

/-- The endpoint is told which capacity it has advertised. -/
def http3EndpointSetDecoderCapacity (e : MessageEndpoint) (capacity : ℕ) :
    MessageEndpoint × Status :=
  if e.decoderCapacitySet then
    if e.decoderTable.capacity = capacity then (e, .ok) else (e, .state)
  else
    ({ e with
        decoderTable := qpackDynamicInit capacity
        decoderInsertCount := 0
        decoderAckedInsertCount := 0
        decoderCapacitySet := true }, .ok)

/-- Whether an entry is the one of a stream. -/
def EndpointRequest.isOf (streamId : ℕ) (r : EndpointRequest) : Bool := r.streamId = streamId

def findRequest (e : MessageEndpoint) (streamId : ℕ) : Option EndpointRequest :=
  e.requests.find? (EndpointRequest.isOf streamId)

/-- Change the first entry of a stream. -/
def updateRequest (change : EndpointRequest → EndpointRequest) (streamId : ℕ) :
    List EndpointRequest → List EndpointRequest
  | [] => []
  | r :: rs =>
    if r.isOf streamId then change r :: rs else r :: updateRequest change streamId rs

/-- A frame arrives on a stream the endpoint may be tracking. -/
def http3EndpointOnRequestFrame (e : MessageEndpoint) (streamId type : ℕ) :
    MessageEndpoint × Reply :=
  match findRequest e streamId with
  | none => (e, (.state, .noError))
  | some r =>
    ({ e with
        requests := updateRequest (fun r => { r with
          request := (http3RequestOnFrame r.request type).1 }) streamId e.requests },
      (http3RequestOnFrame r.request type).2)

/-- Decode a section with what the endpoint's table holds now. -/
def MessageEndpoint.decode (e : MessageEndpoint) (type : HeaderMessage) (payload : List UInt8)
    (scratch : ℕ) : Except Reply Message :=
  http3MessageDecode type payload (some e.decoderTable) (qpackMaxEntries e.decoderTable.capacity)
    e.decoderInsertCount scratch

@[simp] lemma decode_requests (e : MessageEndpoint) (requests : List EndpointRequest)
    (type : HeaderMessage) (payload : List UInt8) (scratch : ℕ) :
    ({ e with requests } : MessageEndpoint).decode type payload scratch =
      e.decode type payload scratch := rfl

/-- Where the machine of a stream stands: the last entry of the stream decides. -/
def stateBefore (e : MessageEndpoint) (streamId : ℕ) : RequestState :=
  match (e.requests.filter (EndpointRequest.isOf streamId)).getLast? with
  | none => .expectHeaders
  | some r => r.request.state

/-- A message carries a pseudo-header of a request that is not empty. -/
def carriesPseudo (message : Message) : Prop :=
  valueLength message.method ≠ 0 ∨ valueLength message.scheme ≠ 0 ∨
    valueLength message.path ≠ 0 ∨ valueLength message.authority ≠ 0 ∨
    valueLength message.protocol ≠ 0

instance (message : Message) : Decidable (carriesPseudo message) :=
  inferInstanceAs (Decidable (_ ∨ _))

/-- A HEADERS frame of a request: the machine goes on before the section is decoded. -/
def http3EndpointOnRequestHeaders (e : MessageEndpoint) (streamId : ℕ) (payload : List UInt8)
    (scratch : ℕ) : MessageEndpoint × Except Reply Message :=
  let advanced := http3EndpointOnRequestFrame e streamId http3FrameHeaders
  if advanced.2.1 ≠ .ok then (advanced.1, .error advanced.2)
  else
    match advanced.1.decode .request payload scratch with
    | .error reply => (advanced.1, .error reply)
    | .ok message =>
      -- A trailer is decoded with the rules of a request.
      if stateBefore e streamId ≠ .expectHeaders ∧ carriesPseudo message then
        (advanced.1, .error messageRefusal)
      else (advanced.1, .ok message)

/-- A HEADERS frame of a response: the stream is marked before the section is decoded. -/
def http3EndpointOnResponseHeaders (e : MessageEndpoint) (streamId : ℕ) (payload : List UInt8)
    (scratch : ℕ) : MessageEndpoint × Except Reply Message :=
  match findRequest e streamId with
  | none => (e, .error (.state, .noError))
  | some r =>
    if r.request.ended then (e, .error (.state, .noError))
    else if r.responseSeen then (e, .error (.state, .noError))
    else
      let marked := { e with
        requests := updateRequest (fun r => { r with responseSeen := true }) streamId e.requests }
      (marked, marked.decode .response payload scratch)

/-- A call of the endpoint for a HEADERS frame. -/
abbrev HeadersCall := MessageEndpoint → ℕ → List UInt8 → ℕ → MessageEndpoint × Except Reply Message

/-- The call for the sections of a type. -/
def headersCall : HeaderMessage → HeadersCall
  | .request => http3EndpointOnRequestHeaders
  | .response => http3EndpointOnResponseHeaders

/-! ## What the calls leave -/

section Calls

variable {e : MessageEndpoint} {streamId type scratch : ℕ} {payload : List UInt8}
  {change : EndpointRequest → EndpointRequest} {r : EndpointRequest} {reply : Reply}
  {message : Message}

lemma updateRequest_ne {rs : List EndpointRequest} (hfind : rs.find? (EndpointRequest.isOf
    streamId) = some r) (hchange : change r ≠ r) : updateRequest change streamId rs ≠ rs := by
  induction rs with
  | nil => cases hfind
  | cons x rs ih =>
    rw [updateRequest]
    by_cases hx : x.isOf streamId
    · rw [List.find?_cons_of_pos hx] at hfind
      obtain rfl := Option.some.inj hfind
      rw [if_pos hx]
      exact fun heq => hchange (List.cons.inj heq).1
    · rw [List.find?_cons_of_neg hx] at hfind
      rw [if_neg hx]
      exact fun heq => ih hfind (List.cons.inj heq).2

/-- A HEADERS frame that is accepted moves the machine, and never back to the start. -/
lemma http3RequestOnFrame_moves {request : RequestStream}
    (h : (http3RequestOnFrame request http3FrameHeaders).2.1 = .ok) :
    (http3RequestOnFrame request http3FrameHeaders).1.state ≠ request.state ∧
      (http3RequestOnFrame request http3FrameHeaders).1.state ≠ .expectHeaders := by
  obtain ⟨state, ended⟩ := request
  cases ended with
  | true => cases h
  | false =>
    cases state with
    | expectHeaders => exact ⟨nofun, nofun⟩
    | body => exact ⟨nofun, nofun⟩
    | complete => cases h

/-- A HEADERS frame of a request is refused for its place, or its section is looked at with the
machine moved on. -/
lemma http3EndpointOnRequestHeaders_cases (e : MessageEndpoint) (streamId : ℕ)
    (payload : List UInt8) (scratch : ℕ) :
    ((http3EndpointOnRequestFrame e streamId http3FrameHeaders).2.1 ≠ .ok ∧
      (http3EndpointOnRequestHeaders e streamId payload scratch).2 =
        .error (http3EndpointOnRequestFrame e streamId http3FrameHeaders).2) ∨
    (http3EndpointOnRequestFrame e streamId http3FrameHeaders).2.1 = .ok ∧
      (http3EndpointOnRequestHeaders e streamId payload scratch).1 =
        (http3EndpointOnRequestFrame e streamId http3FrameHeaders).1 := by
  unfold http3EndpointOnRequestHeaders
  dsimp only
  by_cases hframe : (http3EndpointOnRequestFrame e streamId http3FrameHeaders).2.1 = .ok
  · rw [if_neg (not_not.mpr hframe)]
    refine .inr ⟨hframe, ?_⟩
    split
    · rfl
    · split_ifs <;> rfl
  · rw [if_pos hframe]
    exact .inl ⟨hframe, rfl⟩

/-- The machine answers with its own codes only. -/
lemma http3RequestOnFrame_reply (request : RequestStream) (type : ℕ) :
    (http3RequestOnFrame request type).2 ∈
      [Reply.good, (.state, .noError), (.protocol, .frameUnexpected)] := by
  obtain ⟨state, ended⟩ := request
  unfold http3RequestOnFrame
  cases ended with
  | true => simp
  | false =>
    cases state with
    | expectHeaders => by_cases htype : type = http3FrameHeaders <;> simp [htype]
    | body =>
      simp only [Bool.false_eq_true, if_false]
      split_ifs <;> simp
    | complete => simp

lemma http3EndpointOnRequestFrame_reply (e : MessageEndpoint) (streamId type : ℕ) :
    (http3EndpointOnRequestFrame e streamId type).2 ∈
      [Reply.good, (.state, .noError), (.protocol, .frameUnexpected)] := by
  unfold http3EndpointOnRequestFrame
  split
  · simp
  · exact http3RequestOnFrame_reply _ _

/-- Frames and sections change nothing but the table of requests. -/
lemma http3EndpointOnRequestFrame_only (e : MessageEndpoint) (streamId type : ℕ) :
    ∃ requests, (http3EndpointOnRequestFrame e streamId type).1 = { e with requests } := by
  unfold http3EndpointOnRequestFrame
  split
  · exact ⟨e.requests, rfl⟩
  · exact ⟨_, rfl⟩

lemma http3EndpointOnRequestHeaders_only (e : MessageEndpoint) (streamId : ℕ)
    (payload : List UInt8) (scratch : ℕ) :
    ∃ requests, (http3EndpointOnRequestHeaders e streamId payload scratch).1 =
      { e with requests } := by
  obtain ⟨requests, hframe⟩ := http3EndpointOnRequestFrame_only e streamId http3FrameHeaders
  refine ⟨requests, ?_⟩
  rw [← hframe]
  unfold http3EndpointOnRequestHeaders
  dsimp only
  split_ifs
  · rfl
  · split
    · rfl
    · split_ifs <;> rfl

lemma http3EndpointOnResponseHeaders_only (e : MessageEndpoint) (streamId : ℕ)
    (payload : List UInt8) (scratch : ℕ) :
    ∃ requests, (http3EndpointOnResponseHeaders e streamId payload scratch).1 =
      { e with requests } := by
  unfold http3EndpointOnResponseHeaders
  split
  · exact ⟨e.requests, rfl⟩
  · split_ifs
    · exact ⟨e.requests, rfl⟩
    · exact ⟨e.requests, rfl⟩
    · exact ⟨_, rfl⟩

/-- A HEADERS frame that the frame rules accept changes the table of requests. -/
lemma requests_moved (h : (http3EndpointOnRequestFrame e streamId http3FrameHeaders).2.1 = .ok) :
    (http3EndpointOnRequestFrame e streamId http3FrameHeaders).1.requests ≠ e.requests := by
  unfold http3EndpointOnRequestFrame at h ⊢
  cases hfind : findRequest e streamId with
  | none =>
    rw [hfind] at h
    cases h
  | some r =>
    rw [hfind] at h
    obtain ⟨hmoves, -⟩ := http3RequestOnFrame_moves h
    exact updateRequest_ne hfind fun heq => hmoves (congrArg (·.request.state) heq)

end Calls

/-! ## One entry for a stream -/

/-- The stream has one entry. -/
def MessageEndpoint.Tracks (e : MessageEndpoint) (streamId : ℕ) (r : EndpointRequest) : Prop :=
  e.requests.filter (EndpointRequest.isOf streamId) = [r]

section Tracked

variable {e : MessageEndpoint} {streamId scratch : ℕ} {payload : List UInt8}
  {change : EndpointRequest → EndpointRequest} {r : EndpointRequest} {message : Message}

lemma find?_of_filter {rs : List EndpointRequest}
    (h : rs.filter (EndpointRequest.isOf streamId) = [r]) :
    rs.find? (EndpointRequest.isOf streamId) = some r := by
  rw [← List.head?_filter, h]
  rfl

lemma MessageEndpoint.Tracks.find (h : e.Tracks streamId r) : findRequest e streamId = some r :=
  find?_of_filter h

lemma MessageEndpoint.Tracks.isOf (h : e.Tracks streamId r) : r.isOf streamId = true := by
  have hmem : r ∈ e.requests.filter (EndpointRequest.isOf streamId) := by
    rw [h]
    exact List.mem_singleton_self r
  exact (List.mem_filter.mp hmem).2

lemma MessageEndpoint.Tracks.stateBefore (h : e.Tracks streamId r) :
    stateBefore e streamId = r.request.state := by
  rw [WebTransport.stateBefore, h]
  rfl

/-- The entry of the stream is the only one that changes. -/
lemma filter_updateRequest (change : EndpointRequest → EndpointRequest)
    {rs : List EndpointRequest} (h : rs.filter (EndpointRequest.isOf streamId) = [r])
    (hchange : (change r).isOf streamId = true) :
    (updateRequest change streamId rs).filter (EndpointRequest.isOf streamId) = [change r] := by
  induction rs with
  | nil => cases h
  | cons x rs ih =>
    rw [updateRequest]
    by_cases hx : x.isOf streamId
    · rw [List.filter_cons_of_pos hx] at h
      obtain ⟨rfl, hrest⟩ := List.cons.inj h
      rw [if_pos hx, List.filter_cons_of_pos hchange, hrest]
    · rw [List.filter_cons_of_neg hx] at h
      rw [if_neg hx, List.filter_cons_of_neg hx]
      exact ih h

/-- The first section of a request: what the decoder makes of it. -/
lemma http3EndpointOnRequestHeaders_first (h : e.Tracks streamId r)
    (hended : r.request.ended = false) (hstate : r.request.state = .expectHeaders) :
    (http3EndpointOnRequestHeaders e streamId payload scratch).2 =
      e.decode .request payload scratch := by
  have hframe : http3RequestOnFrame r.request http3FrameHeaders =
      (⟨.body, false⟩, Reply.good) := by
    rw [http3RequestOnFrame, hended, hstate]
    rfl
  unfold http3EndpointOnRequestHeaders http3EndpointOnRequestFrame
  rw [h.find]
  dsimp only
  rw [hframe, if_neg (by decide), decode_requests, h.stateBefore, hstate]
  cases e.decode .request payload scratch with
  | error reply => rfl
  | ok message => rfl

/-- No later section of a request is accepted: the decoder asks for a method, and a trailer must
not have one. -/
lemma http3EndpointOnRequestHeaders_later (h : e.Tracks streamId r)
    (hstate : r.request.state ≠ .expectHeaders) :
    (http3EndpointOnRequestHeaders e streamId payload scratch).2 ≠ .ok message := by
  unfold http3EndpointOnRequestHeaders
  dsimp only
  split_ifs with hframe
  · exact nofun
  · split
    · exact nofun
    · next read hread =>
      have hmethod := http3MessageDecode_request_method hread
      rw [if_pos ⟨h.stateBefore ▸ hstate, .inl hmethod⟩]
      exact nofun

/-- The entry after a HEADERS frame that the machine accepts. -/
lemma http3EndpointOnRequestFrame_tracks (h : e.Tracks streamId r)
    (hframe : (http3EndpointOnRequestFrame e streamId http3FrameHeaders).2.1 = .ok) :
    ∃ r', (http3EndpointOnRequestFrame e streamId http3FrameHeaders).1.Tracks streamId r' ∧
      r'.request.state ≠ .expectHeaders := by
  have hkeeps := filter_updateRequest (fun r =>
    { r with request := (http3RequestOnFrame r.request http3FrameHeaders).1 }) h h.isOf
  unfold http3EndpointOnRequestFrame at hframe ⊢
  rw [h.find] at hframe ⊢
  exact ⟨_, hkeeps, (http3RequestOnFrame_moves hframe).2⟩

lemma http3EndpointOnRequestHeaders_tracks (h : e.Tracks streamId r)
    (hok : (http3EndpointOnRequestHeaders e streamId payload scratch).2 = .ok message) :
    ∃ r', (http3EndpointOnRequestHeaders e streamId payload scratch).1.Tracks streamId r' ∧
      r'.request.state ≠ .expectHeaders := by
  rcases http3EndpointOnRequestHeaders_cases e streamId payload scratch with
    ⟨-, hrefused⟩ | ⟨hframe, heq⟩
  · rw [hok] at hrefused
    cases hrefused
  · rw [heq]
    exact http3EndpointOnRequestFrame_tracks h hframe

/-- The response of a stream that has had none: what the decoder makes of it, and the stream is
marked. -/
lemma http3EndpointOnResponseHeaders_first (h : e.Tracks streamId r)
    (hended : r.request.ended = false) (hseen : r.responseSeen = false) :
    (http3EndpointOnResponseHeaders e streamId payload scratch).2 =
        e.decode .response payload scratch ∧
      (http3EndpointOnResponseHeaders e streamId payload scratch).1.Tracks streamId
        { r with responseSeen := true } := by
  have hkeeps := filter_updateRequest (fun r => { r with responseSeen := true }) h h.isOf
  unfold http3EndpointOnResponseHeaders
  rw [h.find]
  dsimp only
  rw [hended, hseen, if_neg (by decide), if_neg (by decide)]
  exact ⟨rfl, hkeeps⟩

lemma http3EndpointOnResponseHeaders_later (h : e.Tracks streamId r)
    (hseen : r.responseSeen = true) :
    http3EndpointOnResponseHeaders e streamId payload scratch =
      (e, .error (.state, .noError)) := by
  unfold http3EndpointOnResponseHeaders
  rw [h.find]
  dsimp only
  rw [hseen, if_pos rfl]
  split_ifs <;> rfl

end Tracked

end WebTransport
