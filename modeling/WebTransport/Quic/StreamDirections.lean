import WebTransport.Quic.VisitStream

/-!
# Frames for the half a stream does not have

A unidirectional stream has no receive half at the end that opened it and no send half at the
other. Which of the two a frame is about depends on its kind, and `ensure_peer_stream` looks at
neither: it refuses only this endpoint's own numbers, and only while the table does not know
them.
-/

namespace WebTransport

/-! ## The error a connection was closed with -/

section Fault

variable {env : Env} {fuel : ℕ} {visit : Visit} {frame : Frame} {streamId : ℕ}
  {c c' : Connection} {reply : VisitReply}

/-- A connection that is open was not closed for an error of a stream. -/
lemma fault_of_open (h : quicConnectionIsClosed c = false) : c.close.fault = none := by
  have hopen : ¬c.close.kind = .transport := by
    intro hkind
    simp [quicConnectionIsClosed, quicCloseIsClosed, hkind] at h
  unfold CloseState.fault
  rw [if_neg (fun h => hopen h.1)]

/-- The error of a stream that a connection was closed with is the one it names. -/
lemma fault_eq_some {state : CloseState} {code : QuicError} (hcode : code ∈ streamErrors) :
    state.fault = some code ↔ state.kind = .transport ∧ state.errorCode = code := by
  unfold CloseState.fault
  constructor
  · intro h
    split at h
    · rename_i hclosed
      exact ⟨hclosed.1, Option.some.inj h⟩
    · cases h
  · rintro ⟨hkind, rfl⟩
    rw [if_pos ⟨hkind, hcode⟩]

/-- An open connection that is closed names the error. -/
lemma closeWith_of_open (h : quicConnectionIsClosed c = false) (errorCode frameType now : ℕ) :
    (closeWith c errorCode frameType now).2 = .ok ∧
      (closeWith c errorCode frameType now).1.close.fault =
        if errorCode ∈ streamErrors then some errorCode else none := by
  have hopen : c.close.kind = .none := by
    simp only [quicConnectionIsClosed, quicCloseIsClosed, Bool.or_eq_false_iff] at h
    simpa using h.2
  unfold closeWith quicConnectionClose quicCloseTransport closeCommon
  rw [if_neg (by simp [h]), if_neg (by simp [hopen])]
  refine ⟨rfl, ?_⟩
  simp [CloseState.fault]

lemma closeWith_flow (c : Connection) (errorCode frameType now : ℕ) :
    (closeWith c errorCode frameType now).1.flow = c.flow := by
  unfold closeWith quicConnectionClose
  split
  · rfl
  · rfl

/-- Quiet changes close a connection for no error of a stream. -/
lemma Quiet.fault {F : Frame → Prop} (h : Quiet env F c c') : c'.close.fault = c.close.fault :=
  congrArg Outside.fault h.outside

/-- Closing a connection names another error of a stream only if it is the one closed with. -/
lemma closeWith_fault_ne {code : QuicError} {errorCode : ℕ} (herror : errorCode ≠ code)
    (hopen : c.close.fault ≠ some code) (frameType now : ℕ) :
    (closeWith c errorCode frameType now).1.close.fault ≠ some code := by
  cases hclosed : quicConnectionIsClosed c with
  | true =>
    unfold closeWith quicConnectionClose
    rw [if_pos hclosed]
    exact hopen
  | false =>
    rw [(closeWith_of_open hclosed errorCode frameType now).2]
    split
    · exact fun h => herror (Option.some.inj h)
    · exact fun h => by cases h

/-- A STREAM frame is refused for the limits or the final size, never for the state. -/
lemma streamDataError_ne (f : StreamFrame) (stream : Stream) (flow : Flow) :
    streamDataError f stream flow ≠ quicStreamStateError := by
  unfold streamDataError
  simp only
  split_ifs <;> decide

/-- The error with which the machine of a stream answers a frame that it refuses. -/
def refusalOf (stream : Stream) (flow : Flow) : Frame → Option QuicError
  | .resetStream _ errorCode finalSize =>
    if (quicStreamOnResetReceived stream errorCode finalSize).2 = .ok then none
    else some quicFinalSizeError
  | .resetStreamAt _ errorCode finalSize reliableSize =>
    if (quicStreamOnResetAtReceived stream errorCode finalSize reliableSize).2 = .ok then none
    else some (if finalSize < reliableSize then quicFrameEncodingError else quicStreamStateError)
  | .stream f =>
    let r := quicStreamOnData stream flow f.offset f.data.length f.fin
    if r.2.2.1 = .ok then none else some (streamDataError f r.1 r.2.1)
  | .maxStreamData _ maximum =>
    match quicStreamOnMaxStreamData stream maximum with
    | .ok _ => none
    | .error _ => some quicProtocolViolation
  | _ => none

/-- A machine closes the connection with the error it answers the frame with. -/
lemma visitStream_fault {stream : Stream} {code : QuicError} (hopen : c.close.fault ≠ some code)
    (h : visitStream env fuel visit frame stream c = some (c', reply))
    (hfault : c'.close.fault = some code) : refusalOf stream c.flow frame = some code := by
  have hclosed : ∀ (c₁ : Connection) (errorCode frameType : ℕ),
      (closeWith c₁ errorCode frameType visit.now).1.close.fault = some code →
        c₁.close = c.close → some errorCode = some code := by
    intro c₁ errorCode frameType hcode hclose
    by_contra hne
    refine closeWith_fault_ne (fun heq => hne (by rw [heq])) ?_ frameType visit.now hcode
    rw [hclose]
    exact hopen
  unfold visitStream at h
  unfold refusalOf
  split at h
  · split at h
    · cases h
      exact absurd hfault hopen
    · rename_i stream' status hne heq
      cases h
      simp only [heq]
      rw [if_neg hne]
      exact hclosed _ _ _ hfault rfl
  · split at h
    · cases h
      exact absurd hfault hopen
    · rename_i stream' status hne heq
      cases h
      simp only [heq]
      rw [if_neg hne]
      exact hclosed _ _ _ hfault rfl
  · cases h
    exact absurd hfault hopen
  · unfold visitStreamData at h
    split at h
    · split at h
      · cases h
      rename_i c₁ hdata
      split at h
      · cases h
      rename_i c₂ hstream
      cases h
      -- The grants close nothing.
      obtain ⟨flow, maximum, hout⟩ := grantMaxData_outside hdata
      obtain ⟨streams, hout', -⟩ := grantMaxStreamData_outside hstream
      have hfault₁ : c₁.close.fault = c.close.fault := congrArg Outside.fault hout
      have hfault₂ : c₂.close.fault = c₁.close.fault := congrArg Outside.fault hout'
      have hfault : c₂.close.fault = some code := hfault
      rw [hfault₂, hfault₁] at hfault
      exact absurd hfault hopen
    · rename_i stream' flow' status arrival hne heq
      cases h
      simp only [heq]
      rw [if_neg hne]
      exact hclosed _ _ _ hfault rfl
  · split at h
    · cases h
      exact absurd hfault hopen
    · rename_i status heq
      cases h
      simp only [heq]
      exact hclosed _ _ _ hfault rfl
  · cases h
    exact absurd hfault hopen

/-- A machine that closes the connection for the state of a stream has refused a
RESET_STREAM_AT. -/
lemma visitStream_stateError {stream : Stream}
    (hopen : c.close.fault ≠ some quicStreamStateError)
    (h : visitStream env fuel visit frame stream c = some (c', reply))
    (hfault : c'.close.fault = some quicStreamStateError) :
    ∃ id errorCode finalSize reliableSize,
      frame = .resetStreamAt id errorCode finalSize reliableSize ∧
        reliableSize ≤ finalSize ∧
        (quicStreamOnResetAtReceived stream errorCode finalSize reliableSize).2 ≠ .ok ∧
        c'.streams = c.streams.setStream
          (quicStreamOnResetAtReceived stream errorCode finalSize reliableSize).1 := by
  have hrefusal := visitStream_fault hopen h hfault
  unfold refusalOf at hrefusal
  split at hrefusal
  · split at hrefusal <;> cases hrefusal
  · rename_i id errorCode finalSize reliableSize
    split at hrefusal
    · cases hrefusal
    rename_i hne
    have hsize : ¬finalSize < reliableSize := by
      intro hlt
      rw [if_pos hlt] at hrefusal
      cases hrefusal
    refine ⟨id, errorCode, finalSize, reliableSize, rfl, not_lt.mp hsize, hne, ?_⟩
    simp only [visitStream] at h
    cases h
    exact closeWith_streams _ _ _ _
  · simp only at hrefusal
    split at hrefusal
    · cases hrefusal
    · exact absurd (Option.some.inj hrefusal) (streamDataError_ne _ _ _)
  · split at hrefusal <;> cases hrefusal
  · cases hrefusal

end Fault

/-! ## The wrong way -/

/-- Whether a frame is about the receive half of the stream it names. -/
def aboutRecvHalf : Frame → Bool
  | .stream _ | .resetStream .. | .resetStreamAt .. | .streamDataBlocked .. => true
  | _ => false

/-- Whether a frame is about the send half of the stream it names. -/
def aboutSendHalf : Frame → Bool
  | .maxStreamData .. | .stopSending .. => true
  | _ => false

/-- A frame is about a half that the stream it names does not have here. -/
structure WrongWay (c : Connection) (frame : Frame) (streamId : ℕ) : Prop where
  names : frameStreamId frame = some streamId
  oneWay : quicStreamIdIsBidirectional streamId = false
  half : if peerOpens c streamId then aboutSendHalf frame = true else aboutRecvHalf frame = true

/-- The connection was closed with STREAM_STATE_ERROR, and no stream and no account changed. -/
structure RefusedForState (c c' : Connection) : Prop where
  wasOpen : quicConnectionIsClosed c = false
  kind : c'.close.kind = .transport
  errorCode : c'.close.errorCode = quicStreamStateError
  streams : c'.streams = c.streams
  flow : c'.flow = c.flow

/-- A RESET_STREAM_AT that contradicts what the stream has been told before, and for that reason
changes nothing of it. -/
def Stream.RefusesResetAt (stream : Stream) (errorCode finalSize reliableSize : ℕ) : Prop :=
  reliableSize ≤ finalSize ∧
    (stream.peerReset = true ∧ stream.peerResetAt = false ∨
      stream.hasRecvFinalSize = true ∧ stream.recvFinalSize ≠ finalSize ∨
      finalSize < stream.recvHighest ∨
      stream.peerResetAt = true ∧ stream.peerErrorCode ≠ errorCode ∧
        stream.hasRecvFinalSize = true ∧ stream.recvState ≠ .recv)

/-- A stream refuses a frame as one that contradicts its state. -/
def Stream.RefusesFrame (stream : Stream) : Frame → Prop
  | .resetStreamAt _ errorCode finalSize reliableSize =>
    stream.RefusesResetAt errorCode finalSize reliableSize
  | _ => False

/-- When a RESET_STREAM_AT is refused and leaves the stream as it is. -/
lemma quicStreamOnResetAtReceived_refused_iff (stream : Stream)
    (errorCode finalSize reliableSize : ℕ) :
    (reliableSize ≤ finalSize ∧
        (quicStreamOnResetAtReceived stream errorCode finalSize reliableSize).2 ≠ .ok ∧
        (quicStreamOnResetAtReceived stream errorCode finalSize reliableSize).1 = stream) ↔
      stream.RefusesResetAt errorCode finalSize reliableSize := by
  unfold quicStreamOnResetAtReceived Stream.RefusesResetAt
  by_cases hsize : finalSize < reliableSize
  · simp [hsize]
  rw [if_neg hsize]
  refine and_congr_right fun _ => ?_
  by_cases hplain : (stream.peerReset && !stream.peerResetAt) = true
  · have hfirst : stream.peerReset = true ∧ stream.peerResetAt = false := by simpa using hplain
    rw [if_pos hplain]
    simp [hfirst]
  rw [if_neg hplain]
  have hfirst : ¬(stream.peerReset = true ∧ stream.peerResetAt = false) := by simpa using hplain
  unfold checkFinalSize
  by_cases hknown : (stream.hasRecvFinalSize && stream.recvFinalSize ≠ finalSize) = true
  · have hsecond : stream.hasRecvFinalSize = true ∧ stream.recvFinalSize ≠ finalSize := by
      simpa using hknown
    rw [if_pos hknown]
    simp [hsecond]
  rw [if_neg hknown]
  have hsecond : ¬(stream.hasRecvFinalSize = true ∧ stream.recvFinalSize ≠ finalSize) := by
    simpa using hknown
  by_cases hhighest : finalSize < stream.recvHighest
  · rw [if_pos hhighest]
    simp [hhighest]
  rw [if_neg hhighest]
  simp only [hfirst, hsecond, hhighest, false_or]
  by_cases hat : stream.peerResetAt = true
  · simp only [hat, if_true]
    by_cases hcode : stream.peerErrorCode = errorCode
    · simp only [hcode, ne_eq, not_true_eq_false, if_false, false_and, and_false]
      split <;> simp
    · rw [if_pos hcode]
      constructor
      · rintro ⟨-, hsame⟩
        have hhas := congrArg Stream.hasRecvFinalSize hsame
        have hstate := congrArg Stream.recvState hsame
        refine ⟨trivial, hcode, hhas.symm, ?_⟩
        intro hrecv
        simp only [hrecv, if_true] at hstate
        split at hstate
        · cases hstate
        · cases hstate
      · rintro ⟨-, -, hhas, hstate⟩
        have hfinal : stream.recvFinalSize = finalSize := by
          by_contra hne
          exact hsecond ⟨hhas, hne⟩
        refine ⟨(fun h => by cases h), ?_⟩
        cases stream
        simp_all
  · simp [hat]

section Refused

variable {env : Env} {fuel : ℕ} {visit : Visit} {frame : Frame} {streamId : ℕ}
  {c c' : Connection} {reply : VisitReply}

/-- A final size leaves the number of the stream alone. -/
lemma checkFinalSize_id (stream : Stream) (finalSize : ℕ) :
    (checkFinalSize stream finalSize).1.id = stream.id := by
  unfold checkFinalSize
  split_ifs <;> rfl

/-- A RESET_STREAM_AT leaves the number of the stream alone. -/
lemma quicStreamOnResetAtReceived_id (stream : Stream) (errorCode finalSize reliableSize : ℕ) :
    (quicStreamOnResetAtReceived stream errorCode finalSize reliableSize).1.id = stream.id := by
  have hid := checkFinalSize_id stream finalSize
  unfold quicStreamOnResetAtReceived
  split
  · rfl
  split
  · rfl
  split
  · rename_i stream' heq
    rw [heq] at hid
    split_ifs <;> exact hid
  · rename_i stream' status _ heq
    rw [heq] at hid
    exact hid

/-- A stream that is written back and changes nothing is the one that was there. -/
lemma eq_of_setStream {table : StreamTable} {stream stream' : Stream}
    (hfind : quicStreamTableFind table streamId = some stream) (hid : stream'.id = stream.id)
    (h : table.setStream stream' = table) : stream' = stream := by
  have hid' := id_of_find hfind
  obtain ⟨i, hslot, hi⟩ := quicStreamTableFind_eq_some.mp hfind
  unfold StreamTable.setStream at h
  rw [hid, hid', hslot] at h
  have hsame := congrArg (fun t => t.slots i) h
  simp only [Function.update_self, hi] at hsame
  exact Option.some.inj hsame

/-- Looking up a stream of the peer never closes the connection for the state of a stream. -/
lemma ensurePeerStream_fault (hpeer : peerOpens c streamId = true)
    (hopen : quicConnectionIsClosed c = false) (frameType now : ℕ) :
    (ensurePeerStream streamId frameType now c).1.close.fault ≠ some quicStreamStateError := by
  have hsame : c.close.fault ≠ some quicStreamStateError := by
    rw [fault_of_open hopen]
    exact fun h => by cases h
  have hown : ¬quicStreamIdFromClient streamId = decide (c.config.role = .client) := by
    simpa [peerOpens] using hpeer
  rw [ensurePeerStream_eq]
  split
  · exact hsame
  rw [if_neg hown]
  split
  · exact closeWith_fault_ne (by decide) hsame _ _
  split
  · split
    · exact hsame
    · exact hsame
  · exact hsame

/-- What is refused for the state of a stream was let in: the connection was open and the frame
came in the Application space. -/
lemma takes_of_refused (hframe : frameStreamId frame = some streamId)
    (hvisit : visitFrame env fuel visit frame c = some (c', reply))
    (h : RefusedForState c c') : visit.Takes c := by
  have hfault := (fault_eq_some (by decide)).mpr ⟨h.kind, h.errorCode⟩
  have hignored : frameIgnored frame (countFrame frame c) = false := by
    simp [frameIgnored, h.wasOpen]
  cases hallowed : frameForbiddenInSpace frame visit.space with
  | false => exact takes_of_acted hframe hignored hallowed
  | true =>
    unfold visitFrame at hvisit
    simp only [hignored, hallowed, Bool.false_eq_true, if_false, if_true] at hvisit
    cases hvisit
    have hopen : (countFrame frame c).close.fault ≠ some quicStreamStateError := by
      rw [fault_of_open (c := countFrame frame c) h.wasOpen]
      exact fun h => by cases h
    exact absurd hfault (closeWith_fault_ne (by decide) hopen _ _)

/-- A stream of the peer's is never refused for its state. -/
lemma not_refused_of_peer (h : WrongWay c frame streamId) (hpeer : peerOpens c streamId = true)
    (hvisit : visitFrame env fuel visit frame c = some (c', reply)) : ¬RefusedForState c c' := by
  intro hrefused
  have htakes := takes_of_refused h.names hvisit hrefused
  have hfault := (fault_eq_some (by decide)).mpr ⟨hrefused.kind, hrefused.errorCode⟩
  have hensure := ensurePeerStream_fault (c := countFrame frame c) hpeer htakes.isOpen
    (wireTypeOf frame) visit.now
  have hhalf : aboutSendHalf frame = true := by simpa [hpeer] using h.half
  rw [visitFrame_of_streamId htakes h.names] at hvisit
  unfold visitStreamFrame at hvisit
  split at hvisit
  · rename_i c₁ stream heq
    rw [heq] at hensure
    obtain ⟨id, errorCode, finalSize, reliableSize, rfl, -⟩ :=
      visitStream_stateError hensure hvisit hfault
    cases hhalf
  · rename_i c₁ heq
    rw [heq] at hensure
    cases hvisit
    exact hensure hfault
  · rename_i c₁ status _ _ _ heq
    rw [heq] at hensure
    cases hvisit
    exact hensure hfault

/-- A frame about the receive half of this endpoint's own stream, which the table does not
know, is refused. -/
lemma refused_of_unknown (h : WrongWay c frame streamId) (hown : peerOpens c streamId = false)
    (htakes : visit.Takes c) (hfind : quicStreamTableFind c.streams streamId = none) :
    ∃ c' reply, visitFrame env fuel visit frame c = some (c', reply) ∧ RefusedForState c c' := by
  have hopen : quicConnectionIsClosed (countFrame frame c) = false := htakes.isOpen
  obtain ⟨hstatus, hfault⟩ :=
    closeWith_of_open hopen quicStreamStateError (wireTypeOf frame) visit.now
  have hclient : quicStreamIdFromClient streamId = decide (c.config.role = .client) := by
    simpa [peerOpens] using hown
  have hclient' : quicStreamIdFromClient streamId =
      decide ((countFrame frame c).config.role = .client) := hclient
  have hensure : ensurePeerStream streamId (wireTypeOf frame) visit.now (countFrame frame c) =
      ((closeWith (countFrame frame c) quicStreamStateError (wireTypeOf frame) visit.now).1, .ok,
        none) := by
    rw [ensurePeerStream_eq, countFrame_streams, hfind]
    simp only
    rw [if_pos hclient', hstatus]
  rw [visitFrame_of_streamId htakes h.names]
  unfold visitStreamFrame
  rw [hensure]
  refine ⟨_, _, rfl, ?_⟩
  obtain ⟨hkind, hcode⟩ := (fault_eq_some (by decide)).mp hfault
  refine ⟨htakes.isOpen, hkind, hcode, ?_, ?_⟩
  · exact closeWith_streams _ _ _ _
  · exact closeWith_flow _ _ _ _

/-- A RESET_STREAM_AT that a stream refuses as it is closes the connection for the state. -/
lemma refused_of_resetAt {stream : Stream} (hframe : frameStreamId frame = some streamId)
    (htakes : visit.Takes c) (hfind : quicStreamTableFind c.streams streamId = some stream)
    (h : stream.RefusesFrame frame) :
    ∃ c' reply, visitFrame env fuel visit frame c = some (c', reply) ∧ RefusedForState c c' := by
  cases frame with
  | resetStreamAt id errorCode finalSize reliableSize =>
    obtain ⟨hsize, hstatus, hsame⟩ := (quicStreamOnResetAtReceived_refused_iff _ _ _ _).mpr h
    obtain ⟨stream', status, heq⟩ : ∃ stream' status, quicStreamOnResetAtReceived stream errorCode
        finalSize reliableSize = (stream', status) := ⟨_, _, rfl⟩
    rw [heq] at hstatus hsame
    cases hsame
    rw [visitFrame_of_find htakes hframe hfind]
    unfold visitStream
    simp only [heq, countFrame_streams, StreamTable.setStream_of_find hfind]
    cases status with
    | ok => exact absurd rfl hstatus
    | _ =>
      refine ⟨_, _, rfl, ?_⟩
      rw [if_neg (not_lt.mpr hsize)]
      have hopen : quicConnectionIsClosed
          (countFrame (.resetStreamAt id errorCode finalSize reliableSize) c) = false :=
        htakes.isOpen
      obtain ⟨hkind, hcode⟩ := (fault_eq_some (by decide)).mp
        (closeWith_of_open hopen quicStreamStateError 0x24 visit.now).2
      exact ⟨htakes.isOpen, hkind, hcode, closeWith_streams _ _ _ _, closeWith_flow _ _ _ _⟩
  | _ => exact h.elim

/-- A frame about a half that its stream does not have here is refused exactly when it is about
this endpoint's own stream, arrives where it may, and the table does not know the stream, or the
stream refuses it as a contradiction of an earlier reset. -/
theorem wrong_way_refused_iff (h : WrongWay c frame streamId) :
    (∃ c' reply, visitFrame env fuel visit frame c = some (c', reply) ∧ RefusedForState c c') ↔
      visit.Takes c ∧ peerOpens c streamId = false ∧
        ∀ stream, quicStreamTableFind c.streams streamId = some stream →
          stream.RefusesFrame frame := by
  constructor
  · rintro ⟨c', reply, hvisit, hrefused⟩
    have htakes := takes_of_refused h.names hvisit hrefused
    refine ⟨htakes, ?_, ?_⟩
    · by_contra hpeer
      exact not_refused_of_peer h (Bool.eq_true_of_not_eq_false hpeer) hvisit hrefused
    · intro stream hfind
      have hopen : (countFrame frame c).close.fault ≠ some quicStreamStateError := by
        rw [fault_of_open (c := countFrame frame c) htakes.isOpen]
        exact fun h => by cases h
      have hfault := (fault_eq_some (by decide)).mpr ⟨hrefused.kind, hrefused.errorCode⟩
      rw [visitFrame_of_find htakes h.names hfind] at hvisit
      obtain ⟨id, errorCode, finalSize, reliableSize, rfl, hsize, hstatus, hstreams⟩ :=
        visitStream_stateError hopen hvisit hfault
      rw [hrefused.streams, countFrame_streams] at hstreams
      have hsame := eq_of_setStream hfind
        (quicStreamOnResetAtReceived_id stream errorCode finalSize reliableSize) hstreams.symm
      exact (quicStreamOnResetAtReceived_refused_iff _ _ _ _).mp ⟨hsize, hstatus, hsame⟩
  · rintro ⟨htakes, hown, hknown⟩
    cases hfind : quicStreamTableFind c.streams streamId with
    | none => exact refused_of_unknown h hown htakes hfind
    | some stream => exact refused_of_resetAt h.names htakes hfind (hknown stream hfind)

end Refused

/-! ## A server's own stream -/

/-- A server that may open one unidirectional stream. -/
def allowedServer : Connection :=
  { keyedServer with peerLimits := { initialMaxStreamsUni := 1, set := true } }

/-- The server after it opened its stream, number 3. -/
def openedServer : Connection := (quicConnectionOpenStream false allowedServer).1

/-- A cancellation of the server's stream, before any byte of it. -/
def foreignReset : Frame := .resetStream 3 7 0

/-- The peer cancels a stream that the server has not opened yet. -/
theorem foreign_reset_refused :
    ∃ c' reply, visitFrame steadyEnv 0 atStart foreignReset allowedServer = some (c', reply) ∧
      RefusedForState allowedServer c' :=
  (wrong_way_refused_iff ⟨rfl, rfl, by decide⟩).mpr
    ⟨⟨rfl, rfl⟩, by decide, fun stream h => by cases h⟩

/-- The peer cancels the server's stream once it is open: the connection stays open, and the
receive half that the stream does not have is reset. -/
theorem foreign_reset_accepted :
    WrongWay openedServer foreignReset 3 ∧
      ∃ c' reply, visitFrame steadyEnv 0 atStart foreignReset openedServer = some (c', reply) ∧
        quicConnectionIsClosed c' = false ∧
        (quicStreamTableFind c'.streams 3).map Stream.recvState = some .resetRecvd ∧
        ¬RefusedForState openedServer c' := by
  refine ⟨⟨rfl, rfl, by decide⟩, _, _, rfl, by decide, by decide, ?_⟩
  intro h
  exact absurd h.kind (by decide)

end WebTransport
