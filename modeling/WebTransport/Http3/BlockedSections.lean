import WebTransport.Http3.EncoderStream

/-!
# Blocked sections

A section that needs insertions the decoder has not received is blocked, and its caller may
present it again once they have arrived. By then the endpoint has moved its request machine or
marked the response as seen: a section that was blocked once is never accepted.
-/

namespace WebTransport

/-- The section is blocked on insertions that have not been received. -/
def Blocked (type : HeaderMessage) (e : MessageEndpoint) (streamId : ℕ) (payload : List UInt8)
    (scratch : ℕ) : Prop :=
  ∃ code, (headersCall type e streamId payload scratch).2 = .error (.again, code)

/-- The call left the requests as they were, and after more of the encoder stream it answers as
if it had come only then. -/
structure CanRetry (type : HeaderMessage) (e : MessageEndpoint) (streamId : ℕ)
    (payload : List UInt8) (scratch : ℕ) : Prop where
  unchanged : (headersCall type e streamId payload scratch).1.requests = e.requests
  retry : ∀ bytes,
    (headersCall type (http3EndpointOnQpackEncoderBytes
        (headersCall type e streamId payload scratch).1 bytes).endpoint streamId payload scratch).2 =
      (headersCall type (http3EndpointOnQpackEncoderBytes e bytes).endpoint streamId payload
        scratch).2

section Blocked

variable {type : HeaderMessage} {e : MessageEndpoint} {streamId scratch : ℕ}
  {payload : List UInt8} {r : EndpointRequest}

/-- A blocked section of a request has moved the machine. -/
lemma blocked_request_moves (h : Blocked .request e streamId payload scratch) :
    (http3EndpointOnRequestFrame e streamId http3FrameHeaders).2.1 = .ok ∧
      (http3EndpointOnRequestHeaders e streamId payload scratch).1 =
        (http3EndpointOnRequestFrame e streamId http3FrameHeaders).1 := by
  obtain ⟨code, hagain⟩ := h
  rcases http3EndpointOnRequestHeaders_cases e streamId payload scratch with
    ⟨-, hrefused⟩ | hmoved
  · have hreply := http3EndpointOnRequestFrame_reply e streamId http3FrameHeaders
    change (http3EndpointOnRequestHeaders e streamId payload scratch).2 = _ at hagain
    rw [hrefused] at hagain
    rw [Except.error.inj hagain] at hreply
    simp [Reply.good] at hreply
  · exact hmoved

/-- A blocked section of a response has marked the stream. -/
lemma blocked_response_marks (h : Blocked .response e streamId payload scratch) :
    ∃ r, findRequest e streamId = some r ∧ r.responseSeen = false ∧
      (http3EndpointOnResponseHeaders e streamId payload scratch).1.requests =
        updateRequest (fun r => { r with responseSeen := true }) streamId e.requests := by
  obtain ⟨code, hagain⟩ := h
  change (http3EndpointOnResponseHeaders e streamId payload scratch).2 = _ at hagain
  unfold http3EndpointOnResponseHeaders at hagain ⊢
  cases hfind : findRequest e streamId with
  | none =>
    rw [hfind] at hagain
    cases hagain
  | some r =>
    rw [hfind] at hagain
    dsimp only at hagain ⊢
    split_ifs at hagain ⊢ with hended hseen
    · cases hagain
    · cases hagain
    · exact ⟨r, rfl, Bool.eq_false_iff.mpr hseen, rfl⟩

/-- **No blocked section can be retried**: the call has changed the entry of the stream. -/
theorem blocked_cannot_retry (h : Blocked type e streamId payload scratch) :
    ¬CanRetry type e streamId payload scratch := by
  intro hretry
  have hunchanged := hretry.unchanged
  cases type with
  | request =>
    obtain ⟨hframe, hmoved⟩ := blocked_request_moves h
    change (http3EndpointOnRequestHeaders e streamId payload scratch).1.requests = _ at hunchanged
    rw [hmoved] at hunchanged
    exact requests_moved hframe hunchanged
  | response =>
    obtain ⟨r, hfind, hseen, hmarked⟩ := blocked_response_marks h
    have hsame := hmarked.symm.trans hunchanged
    refine updateRequest_ne hfind ?_ hsame
    intro heq
    have hmark := congrArg EndpointRequest.responseSeen heq
    rw [hseen] at hmark
    cases hmark

end Blocked

/-! ## A response that is blocked -/

/-- A client that has advertised a capacity and waits for the response on stream 0. -/
def waitingClient : MessageEndpoint :=
  { messageEndpointInit with
    peerQpackEncoderSeen := true
    requests := [⟨0, false, http3RequestInit⟩]
    decoderTable := qpackDynamicInit 64
    decoderCapacitySet := true }

/-- A section of one line, which names the first insertion. -/
def dynamicSection : List UInt8 := [0x02, 0x00, 0x80]

/-- The instruction that inserts `:status: 200`. -/
def insertStatus : List UInt8 := [0xd9, 0x03, 0x32, 0x30, 0x30]

theorem waitingClient_cannot_retry : ¬CanRetry .response waitingClient 0 dynamicSection 0 := by
  have hblocked : Blocked .response waitingClient 0 dynamicSection 0 := ⟨.noError, by decide⟩
  exact blocked_cannot_retry hblocked

/-- **The response that was blocked is refused**, and would be accepted had its insertion come
first. -/
theorem blocked_response_refused :
    Blocked .response waitingClient 0 dynamicSection 0 ∧
      (headersCall .response (http3EndpointOnQpackEncoderBytes
        (headersCall .response waitingClient 0 dynamicSection 0).1 insertStatus).endpoint 0
          dynamicSection 0).2 = .error (.state, .noError) ∧
      (∃ message, (headersCall .response (http3EndpointOnQpackEncoderBytes waitingClient
        insertStatus).endpoint 0 dynamicSection 0).2 = .ok message ∧ message.status = some 200) ∧
      ¬CanRetry .response waitingClient 0 dynamicSection 0 := by
  refine ⟨⟨.noError, by decide⟩, by decide, ⟨_, rfl, by decide⟩, ?_⟩
  intro hretry
  have hsame := hretry.retry insertStatus
  revert hsame
  decide

end WebTransport
