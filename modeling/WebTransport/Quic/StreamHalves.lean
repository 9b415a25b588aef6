import WebTransport.Quic.StreamDirections

/-!
# The two halves of a stream

One record holds the state of both halves. Each operation on a stream is about one of them, and
leaves the other alone, but for a STOP_SENDING of the peer: it is about the send half, and sets
the flag that records a STOP_SENDING of this endpoint's own, which is about the receive half. It
also ends the send half as if the cancellation had been sent, so that the call that would send
it is refused.
-/

namespace WebTransport

/-! ## Halves and operations -/

/-- The fields of the send half. -/
structure SendHalf where
  sendState : SendState
  sendOffset : ℕ
  sendAcked : ℕ
  finalSize : ℕ
  hasFinalSize : Bool
  finSent : Bool
  peerMaxStreamData : ℕ

/-- The fields of the receive half. -/
structure RecvHalf where
  recvState : RecvState
  recvOffset : ℕ
  recvHighest : ℕ
  recvFinalSize : ℕ
  hasRecvFinalSize : Bool
  maxStreamData : ℕ
  window : ℕ
  sentStopSending : Bool
  peerReset : Bool
  peerErrorCode : ℕ
  peerReliableSize : ℕ
  peerResetAt : Bool

/-- The send half of a stream. -/
def Stream.sendHalf (stream : Stream) : SendHalf :=
  ⟨stream.sendState, stream.sendOffset, stream.sendAcked, stream.finalSize, stream.hasFinalSize,
    stream.finSent, stream.peerMaxStreamData⟩

/-- The receive half of a stream. -/
def Stream.recvHalf (stream : Stream) : RecvHalf :=
  ⟨stream.recvState, stream.recvOffset, stream.recvHighest, stream.recvFinalSize,
    stream.hasRecvFinalSize, stream.maxStreamData, stream.window, stream.sentStopSending,
    stream.peerReset, stream.peerErrorCode, stream.peerReliableSize, stream.peerResetAt⟩

/-- Whether the stream lets this endpoint send a STOP_SENDING. -/
def Stream.mayStopSending (stream : Stream) : Bool :=
  !stream.sentStopSending && !quicStreamRecvFinished stream

/-- Whether the stream lets this endpoint send a RESET_STREAM. -/
def Stream.mayReset (stream : Stream) : Bool := !quicStreamSendFinished stream

/-- The operations on one stream: the frames that are received for it and the calls of this
endpoint. -/
inductive StreamOp
  | stopSendingReceived
  | maxStreamDataReceived (maximum : ℕ)
  | dataSent (length : ℕ)
  | finSent
  | resetSent
  | acknowledged (upTo : ℕ)
  | dataReceived (flow : Flow) (offset length : ℕ) (fin : Bool)
  | resetReceived (errorCode finalSize : ℕ)
  | resetAtReceived (errorCode finalSize reliableSize : ℕ)
  | dataRead (length : ℕ)
  | resetRead
  | maxStreamDataSent (maximum : ℕ)
  | stopSendingSent
deriving DecidableEq

/-- Whether an operation is about the send half. -/
def StreamOp.aboutSend : StreamOp → Bool
  | .stopSendingReceived | .maxStreamDataReceived _ | .dataSent _ | .finSent | .resetSent
  | .acknowledged _ => true
  | _ => false

/-- A stream after an operation that may have been refused. -/
def streamOr (stream : Stream) : Except Status Stream → Stream
  | .ok stream' => stream'
  | .error _ => stream

/-- The stream after an operation. -/
def StreamOp.apply (stream : Stream) : StreamOp → Stream
  | .stopSendingReceived => quicStreamOnStopSending stream
  | .maxStreamDataReceived maximum => streamOr stream (quicStreamOnMaxStreamData stream maximum)
  | .dataSent length => streamOr stream (quicStreamOnDataSent stream length)
  | .finSent => streamOr stream (quicStreamOnFinSent stream)
  | .resetSent => streamOr stream (quicStreamOnResetSent stream)
  | .acknowledged upTo => quicStreamOnAck stream upTo
  | .dataReceived flow offset length fin => (quicStreamOnData stream flow offset length fin).1
  | .resetReceived errorCode finalSize => (quicStreamOnResetReceived stream errorCode finalSize).1
  | .resetAtReceived errorCode finalSize reliableSize =>
    (quicStreamOnResetAtReceived stream errorCode finalSize reliableSize).1
  | .dataRead length => (quicStreamOnDataRead stream length).1
  | .resetRead => (quicStreamOnResetRead stream).1
  | .maxStreamDataSent maximum => quicStreamOnMaxStreamDataSent stream maximum
  | .stopSendingSent => { stream with sentStopSending := true }

/-- An operation leaves the half that it is not about as it is, and what may still be asked or
sent there. -/
def StreamOp.LeavesOtherHalf (op : StreamOp) (stream : Stream) : Prop :=
  if op.aboutSend then
    (op.apply stream).recvHalf = stream.recvHalf ∧
      (op.apply stream).mayStopSending = stream.mayStopSending
  else
    (op.apply stream).sendHalf = stream.sendHalf ∧ (op.apply stream).mayReset = stream.mayReset

section Leaves

variable (stream : Stream)

/-- The receive half decides whether a STOP_SENDING may be sent. -/
lemma Stream.mayStopSending_congr {stream stream' : Stream} (h : stream'.recvHalf = stream.recvHalf) :
    stream'.mayStopSending = stream.mayStopSending := by
  have hstate : stream'.recvState = stream.recvState := congrArg RecvHalf.recvState h
  have hasked : stream'.sentStopSending = stream.sentStopSending :=
    congrArg RecvHalf.sentStopSending h
  unfold Stream.mayStopSending quicStreamRecvFinished
  rw [hstate, hasked]

/-- The send half decides whether a RESET_STREAM may be sent. -/
lemma Stream.mayReset_congr {stream stream' : Stream} (h : stream'.sendHalf = stream.sendHalf) :
    stream'.mayReset = stream.mayReset := by
  have hstate : stream'.sendState = stream.sendState := congrArg SendHalf.sendState h
  unfold Stream.mayReset quicStreamSendFinished
  rw [hstate]

lemma quicStreamOnMaxStreamData_recvHalf (maximum : ℕ) :
    (streamOr stream (quicStreamOnMaxStreamData stream maximum)).recvHalf = stream.recvHalf := by
  unfold quicStreamOnMaxStreamData
  split <;> rfl

lemma quicStreamOnDataSent_recvHalf (length : ℕ) :
    (streamOr stream (quicStreamOnDataSent stream length)).recvHalf = stream.recvHalf := by
  unfold quicStreamOnDataSent
  split <;> rfl

lemma quicStreamOnFinSent_recvHalf :
    (streamOr stream (quicStreamOnFinSent stream)).recvHalf = stream.recvHalf := by
  unfold quicStreamOnFinSent
  split <;> rfl

lemma quicStreamOnResetSent_recvHalf :
    (streamOr stream (quicStreamOnResetSent stream)).recvHalf = stream.recvHalf := by
  unfold quicStreamOnResetSent
  split <;> rfl

lemma quicStreamOnAck_recvHalf (upTo : ℕ) :
    (quicStreamOnAck stream upTo).recvHalf = stream.recvHalf := by
  unfold quicStreamOnAck
  simp only
  split_ifs <;> rfl

lemma checkFinalSize_sendHalf (finalSize : ℕ) :
    (checkFinalSize stream finalSize).1.sendHalf = stream.sendHalf := by
  unfold checkFinalSize
  split_ifs <;> rfl

lemma quicStreamOnResetReceived_sendHalf (errorCode finalSize : ℕ) :
    (quicStreamOnResetReceived stream errorCode finalSize).1.sendHalf = stream.sendHalf := by
  have hcheck := checkFinalSize_sendHalf stream finalSize
  unfold quicStreamOnResetReceived
  split
  · rename_i stream' heq
    rw [heq] at hcheck
    exact hcheck
  · rename_i stream' status _ heq
    rw [heq] at hcheck
    exact hcheck

lemma quicStreamOnResetAtReceived_sendHalf (errorCode finalSize reliableSize : ℕ) :
    (quicStreamOnResetAtReceived stream errorCode finalSize reliableSize).1.sendHalf =
      stream.sendHalf := by
  have hcheck := checkFinalSize_sendHalf stream finalSize
  unfold quicStreamOnResetAtReceived
  split
  · rfl
  split
  · rfl
  split
  · rename_i stream' heq
    rw [heq] at hcheck
    split_ifs <;> exact hcheck
  · rename_i stream' status _ heq
    rw [heq] at hcheck
    exact hcheck

lemma recvCompletion_sendHalf : (recvCompletion stream).sendHalf = stream.sendHalf := by
  unfold recvCompletion
  split_ifs <;> rfl

lemma quicStreamOnData_sendHalf (flow : Flow) (offset length : ℕ) (fin : Bool) :
    (quicStreamOnData stream flow offset length fin).1.sendHalf = stream.sendHalf := by
  unfold quicStreamOnData
  split
  · rfl
  split
  · rfl
  simp only
  split
  · rfl
  -- The highest offset may move, and what that costs is not about the send half.
  generalize hmoved : (if stream.recvHighest < offset + length then
    { stream with recvHighest := offset + length } else stream) = moved
  have hsame : moved.sendHalf = stream.sendHalf := by
    rw [← hmoved]
    split <;> rfl
  generalize (if stream.recvHighest < offset + length then
    offset + length - stream.recvHighest else 0) = credit
  split
  · rfl
  split
  · rfl
  split
  · have hcheck := checkFinalSize_sendHalf moved (offset + length)
    split
    · rename_i stream' heq
      rw [heq] at hcheck
      exact ((recvCompletion_sendHalf stream').trans hcheck).trans hsame
    · rename_i stream' status _ heq
      rw [heq] at hcheck
      exact hcheck.trans hsame
  · exact (recvCompletion_sendHalf moved).trans hsame

lemma quicStreamOnDataRead_sendHalf (length : ℕ) :
    (quicStreamOnDataRead stream length).1.sendHalf = stream.sendHalf := by
  unfold quicStreamOnDataRead
  simp only
  split_ifs <;> rfl

lemma quicStreamOnResetRead_sendHalf :
    (quicStreamOnResetRead stream).1.sendHalf = stream.sendHalf := by
  unfold quicStreamOnResetRead
  split <;> rfl

lemma quicStreamOnMaxStreamDataSent_sendHalf (maximum : ℕ) :
    (quicStreamOnMaxStreamDataSent stream maximum).sendHalf = stream.sendHalf := by
  unfold quicStreamOnMaxStreamDataSent
  split <;> rfl

/-- A STOP_SENDING of the peer sets the flag for this endpoint's own, and nothing else of the
receive half. -/
lemma quicStreamOnStopSending_recvHalf :
    (quicStreamOnStopSending stream).recvHalf = { stream.recvHalf with sentStopSending := true } := by
  unfold quicStreamOnStopSending
  split <;> rfl

/-- An operation leaves the other half alone, unless it is a STOP_SENDING of the peer that
arrives before this endpoint has sent one of its own. -/
theorem leavesOtherHalf_iff (op : StreamOp) :
    op.LeavesOtherHalf stream ↔ (op = .stopSendingReceived → stream.sentStopSending = true) := by
  have hsend : ∀ op : StreamOp, op.aboutSend = true → op ≠ .stopSendingReceived →
      (op.apply stream).recvHalf = stream.recvHalf → (op.LeavesOtherHalf stream ↔
        (op = .stopSendingReceived → stream.sentStopSending = true)) := by
    intro op habout hne hsame
    refine iff_of_true ?_ (fun h => absurd h hne)
    unfold StreamOp.LeavesOtherHalf
    rw [if_pos habout]
    exact ⟨hsame, Stream.mayStopSending_congr hsame⟩
  have hrecv : ∀ op : StreamOp, op.aboutSend = false → op ≠ .stopSendingReceived →
      (op.apply stream).sendHalf = stream.sendHalf → (op.LeavesOtherHalf stream ↔
        (op = .stopSendingReceived → stream.sentStopSending = true)) := by
    intro op habout hne hsame
    refine iff_of_true ?_ (fun h => absurd h hne)
    unfold StreamOp.LeavesOtherHalf
    rw [if_neg (by simp [habout])]
    exact ⟨hsame, Stream.mayReset_congr hsame⟩
  cases op with
  | stopSendingReceived =>
    have hhalf := quicStreamOnStopSending_recvHalf stream
    have habout : StreamOp.stopSendingReceived.aboutSend = true := rfl
    unfold StreamOp.LeavesOtherHalf
    rw [if_pos habout]
    constructor
    · rintro ⟨hsame, -⟩ -
      have hflag : true = stream.sentStopSending :=
        congrArg RecvHalf.sentStopSending (hhalf.symm.trans hsame)
      exact hflag.symm
    · intro hasked
      have hsame : (quicStreamOnStopSending stream).recvHalf = stream.recvHalf := by
        rw [hhalf, ← hasked rfl]
        rfl
      exact ⟨hsame, Stream.mayStopSending_congr hsame⟩
  | maxStreamDataReceived maximum =>
    exact hsend _ rfl (fun h => by cases h) (quicStreamOnMaxStreamData_recvHalf stream maximum)
  | dataSent length =>
    exact hsend _ rfl (fun h => by cases h) (quicStreamOnDataSent_recvHalf stream length)
  | finSent => exact hsend _ rfl (fun h => by cases h) (quicStreamOnFinSent_recvHalf stream)
  | resetSent => exact hsend _ rfl (fun h => by cases h) (quicStreamOnResetSent_recvHalf stream)
  | acknowledged upTo =>
    exact hsend _ rfl (fun h => by cases h) (quicStreamOnAck_recvHalf stream upTo)
  | dataReceived flow offset length fin =>
    exact hrecv _ rfl (fun h => by cases h) (quicStreamOnData_sendHalf stream flow offset length fin)
  | resetReceived errorCode finalSize =>
    exact hrecv _ rfl (fun h => by cases h)
      (quicStreamOnResetReceived_sendHalf stream errorCode finalSize)
  | resetAtReceived errorCode finalSize reliableSize =>
    exact hrecv _ rfl (fun h => by cases h)
      (quicStreamOnResetAtReceived_sendHalf stream errorCode finalSize reliableSize)
  | dataRead length =>
    exact hrecv _ rfl (fun h => by cases h) (quicStreamOnDataRead_sendHalf stream length)
  | resetRead => exact hrecv _ rfl (fun h => by cases h) (quicStreamOnResetRead_sendHalf stream)
  | maxStreamDataSent maximum =>
    exact hrecv _ rfl (fun h => by cases h) (quicStreamOnMaxStreamDataSent_sendHalf stream maximum)
  | stopSendingSent => exact hrecv _ rfl (fun h => by cases h) rfl

end Leaves

/-! ## Cancelling after a STOP_SENDING -/

section Cancel

variable {env : Env} {fuel : ℕ} {visit : Visit} {c c₁ : Connection} {reply : VisitReply}
  {stream : Stream} {op : StreamOp} {errorCode now : ℕ}

/-- Cancelling a stream puts a RESET_STREAM with a final size on the wire. -/
def PutsReset (env : Env) (fuel streamId errorCode finalSize now : ℕ) (c : Connection) : Prop :=
  ∃ c' n payload, quicConnectionResetStream env fuel streamId errorCode now c = some (c', .ok) ∧
    .sent .application n (some (.resetStream streamId errorCode finalSize)) payload ∈
      c'.trace.drop c.trace.length

/-- An operation on a stream leaves the other half alone, and a stream whose send half was not
over can still be cancelled after a STOP_SENDING of the peer. -/
structure HalvesIndependent (env : Env) (fuel : ℕ) (visit : Visit) (c : Connection)
    (stream : Stream) (op : StreamOp) (errorCode now : ℕ) : Prop where
  otherHalf : op.LeavesOtherHalf stream
  stillResets : op = .stopSendingReceived → quicStreamSendFinished stream = false →
    visit.Takes c → ∀ code c₁ reply,
      visitFrame env fuel visit (.stopSending stream.id code) c = some (c₁, reply) →
        PutsReset env fuel stream.id errorCode stream.sendOffset now c₁

/-- After a STOP_SENDING nothing more may be sent on the stream. -/
lemma quicStreamOnStopSending_sendFinished (stream : Stream) :
    quicStreamSendFinished (quicStreamOnStopSending stream) = true := by
  unfold quicStreamOnStopSending
  split
  · rename_i hfinished
    exact hfinished
  · rfl

lemma quicStreamOnStopSending_id (stream : Stream) :
    (quicStreamOnStopSending stream).id = stream.id := by
  unfold quicStreamOnStopSending
  split <;> rfl

/-- A STOP_SENDING for a stream in the table ends its send half. -/
lemma visitFrame_stopSending (htakes : visit.Takes c)
    (hfind : quicStreamTableFind c.streams stream.id = some stream) (code : ℕ) :
    ∃ c₁ reply, visitFrame env fuel visit (.stopSending stream.id code) c = some (c₁, reply) ∧
      quicStreamTableFind c₁.streams stream.id = some (quicStreamOnStopSending stream) := by
  rw [visitFrame_of_find htakes rfl hfind]
  refine ⟨_, _, rfl, ?_⟩
  exact quicStreamTableFind_setStream hfind (quicStreamOnStopSending_id stream)

/-- A stream on which nothing more may be sent is not cancelled. -/
lemma not_putsReset {streamId finalSize : ℕ} (hfind : quicStreamTableFind c.streams streamId = some stream)
    (hfinished : quicStreamSendFinished stream = true) :
    ¬PutsReset env fuel streamId errorCode finalSize now c := by
  have hreset : quicStreamOnResetSent stream = .error .state := by
    unfold quicStreamOnResetSent
    rw [if_pos hfinished]
  have hrefused : quicConnectionResetStream env fuel streamId errorCode now c = some (c, .state) := by
    unfold quicConnectionResetStream resetWith
    simp [hfind, hreset]
  rintro ⟨c', n, payload, hcall, -⟩
  rw [hrefused] at hcall
  cases hcall

/-- The halves are independent exactly when the operation is no STOP_SENDING of the peer, or
one that finds this endpoint's own already sent and, where it is taken, nothing more to be
sent. -/
theorem halves_independent_iff (hfind : quicStreamTableFind c.streams stream.id = some stream) :
    HalvesIndependent env fuel visit c stream op errorCode now ↔
      (op = .stopSendingReceived → stream.sentStopSending = true ∧
        (visit.Takes c → quicStreamSendFinished stream = true)) := by
  constructor
  · rintro ⟨hleaves, hresets⟩ hop
    refine ⟨(leavesOtherHalf_iff stream op).mp hleaves hop, ?_⟩
    intro htakes
    by_contra hunfinished
    obtain ⟨c₁, reply, hvisit, hfind₁⟩ := visitFrame_stopSending htakes hfind 0
    have hputs := hresets hop (Bool.eq_false_iff.mpr hunfinished) htakes 0 c₁ reply hvisit
    exact not_putsReset hfind₁ (quicStreamOnStopSending_sendFinished stream) hputs
  · intro hcond
    refine ⟨(leavesOtherHalf_iff stream op).mpr fun hop => (hcond hop).1, ?_⟩
    intro hop hunfinished htakes
    rw [(hcond hop).2 htakes] at hunfinished
    cases hunfinished

end Cancel

/-! ## A server that is asked to stop -/

/-- A server that may open one bidirectional stream. -/
def pairServer : Connection :=
  { keyedServer with peerLimits := { initialMaxStreamsBidi := 1, set := true } }

/-- The server's stream after a few operations. -/
def pairStream (ops : List StreamOp) : Stream :=
  ops.foldl StreamOp.apply (quicStreamInit 1 true true 0 0)

/-- The server with its stream in the table. -/
def pairConnection (ops : List StreamOp) : Connection :=
  let c := (quicConnectionOpenStream true pairServer).1
  { c with streams := c.streams.setStream (pairStream ops) }

/-- A stream that is over on the sending side and was asked to stop on the other. -/
theorem stop_sending_after_own :
    HalvesIndependent steadyEnv 50 atStart (pairConnection [.finSent, .stopSendingSent])
      (pairStream [.finSent, .stopSendingSent]) .stopSendingReceived 7 0 :=
  (halves_independent_iff (by decide)).mpr fun _ => ⟨by decide, fun _ => by decide⟩

/-- A STOP_SENDING that arrives after five bytes were sent: this endpoint may no longer send
its own, and cancelling the stream is refused, with nothing put on the wire. -/
theorem stop_sending_silences_reset :
    let c := pairConnection [.dataSent 5]
    let stream := pairStream [.dataSent 5]
    quicStreamTableFind c.streams 1 = some stream ∧ stream.mayStopSending = true ∧
      (StreamOp.stopSendingReceived.apply stream).mayStopSending = false ∧
      (∃ c₁ reply, visitFrame steadyEnv 50 atStart (.stopSending 1 7) c = some (c₁, reply) ∧
        (quicConnectionResetStream steadyEnv 50 1 7 0 c₁).map (fun r => (r.1.trace, r.2)) =
          some (c₁.trace, .state)) ∧
      ¬HalvesIndependent steadyEnv 50 atStart c stream .stopSendingReceived 7 0 := by
  refine ⟨by decide, by decide, by decide, ⟨_, _, rfl, rfl⟩, ?_⟩
  rintro ⟨hleaves, -⟩
  exact absurd ((leavesOtherHalf_iff _ _).mp hleaves rfl) (by decide)

end WebTransport
