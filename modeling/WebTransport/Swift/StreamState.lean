import WebTransport.Lib.Checked
import WebTransport.Swift.ByteCursor
import WebTransport.Swift.Frame

/-!
# The streams of the Swift endpoint

The halves of a stream and their flow (`QUICStreamState` in `QUICCoreStreamFlowState.swift`), and a
stream of a WebTransport session with the payloads that wait to be read (`WebTransportStreamState`
in `WebTransportStreams.swift`). An unsigned number of 64 bits is a natural number, and an addition
that would not fit is refused where the code refuses it.
-/

namespace WebTransport

/-! ## Stream IDs -/

/-- The role of an endpoint (`HTTP3ConnectionRole`, and `QUICEndpointRole`), and of the one that
opened a stream (`QUICStreamInitiator`). -/
inductive HTTP3ConnectionRole
  | client
  | server
deriving DecidableEq, Repr

/-- The other role. -/
def HTTP3ConnectionRole.peer : HTTP3ConnectionRole → HTTP3ConnectionRole
  | client => server
  | server => client

namespace QUICStreamID

/-- `direction(of:)`. -/
def direction (streamID : ℕ) : WebTransportStreamForm :=
  if streamID &&& 0x02 = 0 then .bidirectional else .unidirectional

/-- `initiator(of:)`. -/
def initiator (streamID : ℕ) : HTTP3ConnectionRole :=
  if streamID &&& 0x01 = 0 then .client else .server

end QUICStreamID

/-! ## The halves of a stream -/

/-- What a stream throws (its part of `QUICStateError`). -/
inductive QUICStreamError
  | flowControlViolation (limit attempted : ℕ)
  | streamStateViolation (message : String)
  | finalSizeViolation (message : String)
deriving DecidableEq, Repr

/-- A stream (`QUICStreamState`). -/
structure QUICStreamState where
  id : ℕ
  localRole : HTTP3ConnectionRole
  direction : WebTransportStreamForm
  initiator : HTTP3ConnectionRole
  maxSendOffset : ℕ
  maxReceiveOffset : ℕ
  sendOffset : ℕ := 0
  receiveOffset : ℕ := 0
  finalReceiveSize : Option ℕ := none
  sendClosed : Bool := false
  receiveClosed : Bool := false
  resetSent : Bool := false
  stopSendingSent : Bool := false
deriving DecidableEq, Repr

namespace QUICStreamState

/-- `UInt64.max`. -/
def offsetMax : ℕ := Checked.bound - 1

/-- A stream from its ID (`init`). -/
def init (id : ℕ) (localRole : HTTP3ConnectionRole) (maxSendOffset maxReceiveOffset : ℕ) :
    QUICStreamState where
  id := id
  localRole := localRole
  direction := QUICStreamID.direction id
  initiator := QUICStreamID.initiator id
  maxSendOffset := maxSendOffset
  maxReceiveOffset := maxReceiveOffset

/-- Whether this endpoint owns the send half. -/
def hasSendHalf (s : QUICStreamState) : Bool :=
  s.direction = .bidirectional || s.localRole = s.initiator

/-- Whether this endpoint owns the receive half. -/
def hasReceiveHalf (s : QUICStreamState) : Bool :=
  s.direction = .bidirectional || s.localRole ≠ s.initiator

/-- `ensureCanSend`. -/
def ensureCanSend (s : QUICStreamState) : Except QUICStreamError Unit :=
  if s.sendClosed || s.resetSent then .error (.streamStateViolation "send side is closed")
  else if !s.hasSendHalf then
    .error (.streamStateViolation "cannot send on peer-initiated unidirectional stream")
  else .ok ()

/-- `ensureCanReceive`. -/
def ensureCanReceive (s : QUICStreamState) : Except QUICStreamError Unit :=
  if s.receiveClosed || s.stopSendingSent then
    .error (.streamStateViolation "receive side is closed")
  else if !s.hasReceiveHalf then
    .error (.streamStateViolation "cannot receive on locally initiated unidirectional stream")
  else .ok ()

/-- Send some bytes (`send`, for a frame of any size). -/
def send (s : QUICStreamState) (data : List UInt8) (fin : Bool) :
    Except QUICStreamError (QUICFrame × QUICStreamState) := do
  s.ensureCanSend
  match Checked.add s.sendOffset data.length with
  | none => .error (.flowControlViolation s.maxSendOffset offsetMax)
  | some attempted =>
    if s.maxSendOffset < attempted then
      .error (.flowControlViolation s.maxSendOffset attempted)
    else
      .ok (.stream s.id (some s.sendOffset) fin data,
        { s with
          sendOffset := attempted
          sendClosed := s.sendClosed || fin })

/-- Check the bytes of a frame against a final size that is known. -/
def checkFinalSize (s : QUICStreamState) (attempted : Option ℕ) (fin : Bool) :
    Except QUICStreamError Unit :=
  match s.finalReceiveSize with
  | none => .ok ()
  | some final =>
    match attempted with
    | none => .error (.finalSizeViolation "STREAM data exceeds final size")
    | some attempted =>
      if final < attempted then .error (.finalSizeViolation "STREAM data exceeds final size")
      else if fin ∧ attempted ≠ final then
        .error (.finalSizeViolation "inconsistent final stream size")
      else .ok ()

/-- The payload of a STREAM frame of this stream (`receiveStream`). -/
def receiveStream (s : QUICStreamState) (offset : Option ℕ) (fin : Bool) (data : List UInt8) :
    Except QUICStreamError QUICStreamState := do
  let frameOffset := offset.getD 0
  s.checkFinalSize (Checked.add frameOffset data.length) fin
  s.ensureCanReceive
  match Checked.add frameOffset data.length with
  | none => .error (.flowControlViolation s.maxReceiveOffset offsetMax)
  | some attempted =>
    if frameOffset ≠ s.receiveOffset then
      .error (.streamStateViolation "out-of-order STREAM data is not accepted")
    else if s.maxReceiveOffset < attempted then
      .error (.flowControlViolation s.maxReceiveOffset attempted)
    else
      .ok { s with
        receiveOffset := attempted
        finalReceiveSize := if fin then some attempted else s.finalReceiveSize
        receiveClosed := s.receiveClosed || fin }

/-- Abort the send half (`reset`, whose frame nobody uses). -/
def reset (s : QUICStreamState) : QUICStreamState :=
  { s with
    resetSent := true
    sendClosed := true }

/-- Abort the receive half (`stopSending`). -/
def stopSending (s : QUICStreamState) (applicationErrorCode : ℕ) : QUICFrame × QUICStreamState :=
  (.stopSending s.id applicationErrorCode,
    { s with
      stopSendingSent := true
      receiveClosed := true })

/-- What a stream is whatever happens on it. -/
def identity (s : QUICStreamState) :
    ℕ × HTTP3ConnectionRole × WebTransportStreamForm × HTTP3ConnectionRole :=
  (s.id, s.localRole, s.direction, s.initiator)

variable {s s' : QUICStreamState}

lemma send_ok {data : List UInt8} {fin : Bool} {frame : QUICFrame}
    (h : s.send data fin = .ok (frame, s')) :
    frame = .stream s.id (some s.sendOffset) fin data ∧ s'.identity = s.identity := by
  unfold send at h
  cases hsend : s.ensureCanSend with
  | error e =>
    rw [hsend] at h
    cases h
  | ok _ =>
    rw [hsend] at h
    change (match Checked.add s.sendOffset data.length with
      | none => _
      | some attempted => _) = _ at h
    split at h
    · cases h
    · split_ifs at h
      obtain ⟨rfl, rfl⟩ := Prod.mk.inj (Except.ok.inj h)
      exact ⟨rfl, rfl⟩

lemma receiveStream_identity {offset : Option ℕ} {fin : Bool} {data : List UInt8}
    (h : s.receiveStream offset fin data = .ok s') : s'.identity = s.identity := by
  unfold receiveStream at h
  simp only at h
  cases hfinal : s.checkFinalSize (Checked.add (offset.getD 0) data.length) fin with
  | error e =>
    rw [hfinal] at h
    cases h
  | ok _ =>
    rw [hfinal] at h
    cases hreceive : s.ensureCanReceive with
    | error e =>
      rw [hreceive] at h
      cases h
    | ok _ =>
      rw [hreceive] at h
      change (match Checked.add (offset.getD 0) data.length with
        | none => _
        | some attempted => _) = _ at h
      split at h
      · cases h
      · split_ifs at h
        · obtain rfl := Except.ok.inj h
          rfl
        · obtain rfl := Except.ok.inj h
          rfl

end QUICStreamState

/-! ## The streams of a session -/

/-- A stream of a session (`WebTransportStreamState`). The payloads that were popped and not yet
reclaimed are not held here. -/
structure WebTransportStreamState where
  streamID : ℕ
  sessionID : ℕ
  form : WebTransportStreamForm
  quicStream : QUICStreamState
  bufferedPayloads : List (List UInt8) := []
  bufferedPayloadBytes : ℕ := 0
  maxBufferedBytes : ℤ
deriving DecidableEq, Repr

/-- What an operation on a stream throws. -/
inductive WebTransportStreamError
  | codec (e : QUICCodecError)
  | stream (e : QUICStreamError)
deriving DecidableEq, Repr

namespace WebTransportStreamState

/-- A stream from its parts (`init`); the limits of its offsets are those that its callers give. -/
def init (streamID sessionID : ℕ) (form : WebTransportStreamForm)
    (localRole : HTTP3ConnectionRole) (maxBufferedBytes : ℤ) :
    Except QUICCodecError WebTransportStreamState :=
  if maxBufferedBytes < 0 then
    .error (.valueOutOfRange "stream receive buffer must not be negative")
  else
    .ok {
      streamID := streamID
      sessionID := sessionID
      form := form
      quicStream :=
        QUICStreamState.init streamID localRole QUICStreamState.offsetMax QUICStreamState.offsetMax
      maxBufferedBytes := maxBufferedBytes }

/-- Whether this endpoint owns the send half (`hasSendHalf`). -/
def hasSendHalf (s : WebTransportStreamState) : Bool := s.quicStream.hasSendHalf

/-- Whether this endpoint owns the receive half (`hasReceiveHalf`). -/
def hasReceiveHalf (s : WebTransportStreamState) : Bool := s.quicStream.hasReceiveHalf

/-- Check that a payload fits into the buffer, and count its bytes as received. -/
def admitPayload (s : WebTransportStreamState) (data : List UInt8) :
    Except WebTransportStreamError WebTransportStreamState :=
  if max 0 (s.maxBufferedBytes - s.bufferedPayloadBytes) < data.length then
    .error (.codec (.malformed "WebTransport stream receive buffer limit exceeded"))
  else
    match s.quicStream.receiveStream (some s.quicStream.receiveOffset) false data with
    | .error e => .error (.stream e)
    | .ok quicStream => .ok { s with quicStream := quicStream }

/-- Take a payload that arrived (`receivePayload`). -/
def receivePayload (s : WebTransportStreamState) (data : List UInt8) :
    Except WebTransportStreamError WebTransportStreamState := do
  let s ← s.admitPayload data
  .ok { s with
    bufferedPayloads := s.bufferedPayloads ++ [data]
    bufferedPayloadBytes := s.bufferedPayloadBytes + data.length }

/-- The oldest payload, if there is one (`popPayload`). -/
def popPayload (s : WebTransportStreamState) : Option (List UInt8) × WebTransportStreamState :=
  match s.bufferedPayloads with
  | [] => (none, s)
  | first :: rest =>
    (some first,
      { s with
        bufferedPayloads := rest
        bufferedPayloadBytes := s.bufferedPayloadBytes - first.length })

/-- Take a payload that arrived, and give the oldest (`receivePayloadDeliveringImmediately`). -/
def receivePayloadDeliveringImmediately (s : WebTransportStreamState) (data : List UInt8) :
    Except WebTransportStreamError (List UInt8 × WebTransportStreamState) := do
  let s ← s.admitPayload data
  if s.bufferedPayloads = [] then .ok (data, s)
  else
    let (popped, s) := popPayload { s with
      bufferedPayloads := s.bufferedPayloads ++ [data]
      bufferedPayloadBytes := s.bufferedPayloadBytes + data.length }
    .ok (popped.getD data, s)

/-- Send a payload (`sendPayload`). -/
def sendPayload (s : WebTransportStreamState) (data : List UInt8) (fin : Bool) :
    Except QUICStreamError (QUICFrame × WebTransportStreamState) := do
  let (frame, quicStream) ← s.quicStream.send data fin
  .ok (frame, { s with quicStream := quicStream })

/-- Abort the send half (`reset`). -/
def reset (s : WebTransportStreamState) (applicationErrorCode : ℕ) :
    QUICFrame × WebTransportStreamState :=
  let quicStream := s.quicStream.reset
  (.resetStreamAt s.streamID applicationErrorCode quicStream.sendOffset quicStream.sendOffset,
    { s with quicStream := quicStream })

/-- Abort the receive half (`stopSending`). -/
def stopSending (s : WebTransportStreamState) (applicationErrorCode : ℕ) :
    QUICFrame × WebTransportStreamState :=
  let (frame, quicStream) := s.quicStream.stopSending applicationErrorCode
  (frame, { s with quicStream := quicStream })

/-- What a stream is whatever happens on it. -/
def identity (s : WebTransportStreamState) :
    ℕ × ℕ × ℕ × HTTP3ConnectionRole × WebTransportStreamForm × HTTP3ConnectionRole :=
  (s.streamID, s.sessionID, s.quicStream.identity)

variable {s s' : WebTransportStreamState}

lemma admitPayload_identity {data : List UInt8} (h : s.admitPayload data = .ok s') :
    s'.identity = s.identity := by
  unfold admitPayload at h
  split_ifs at h
  split at h
  · cases h
  · rename_i hreceive
    obtain rfl := Except.ok.inj h
    have hsame := QUICStreamState.receiveStream_identity hreceive
    unfold identity
    rw [hsame]

lemma receivePayload_identity {data : List UInt8} (h : s.receivePayload data = .ok s') :
    s'.identity = s.identity := by
  unfold receivePayload at h
  cases hallow : s.admitPayload data with
  | error e =>
    rw [hallow] at h
    cases h
  | ok s₁ =>
    rw [hallow] at h
    obtain rfl := Except.ok.inj h
    have hsame := admitPayload_identity hallow
    exact hsame

lemma popPayload_identity (s : WebTransportStreamState) : s.popPayload.2.identity = s.identity := by
  unfold popPayload
  split
  · rfl
  · rfl

lemma receivePayloadDeliveringImmediately_identity {data delivered : List UInt8}
    (h : s.receivePayloadDeliveringImmediately data = .ok (delivered, s')) :
    s'.identity = s.identity := by
  unfold receivePayloadDeliveringImmediately at h
  cases hallow : s.admitPayload data with
  | error e =>
    rw [hallow] at h
    cases h
  | ok s₁ =>
    rw [hallow] at h
    have hsame := admitPayload_identity hallow
    change (if s₁.bufferedPayloads = [] then _ else _) = _ at h
    split_ifs at h
    · obtain ⟨-, rfl⟩ := Prod.mk.inj (Except.ok.inj h)
      exact hsame
    · obtain ⟨-, rfl⟩ := Prod.mk.inj (Except.ok.inj h)
      exact (popPayload_identity _).trans hsame

lemma sendPayload_ok {data : List UInt8} {fin : Bool} {frame : QUICFrame}
    (h : s.sendPayload data fin = .ok (frame, s')) :
    frame = .stream s.quicStream.id (some s.quicStream.sendOffset) fin data ∧
      s'.identity = s.identity := by
  unfold sendPayload at h
  cases hsend : s.quicStream.send data fin with
  | error e =>
    rw [hsend] at h
    cases h
  | ok r =>
    obtain ⟨frame', quicStream⟩ := r
    rw [hsend] at h
    obtain ⟨rfl, rfl⟩ := Prod.mk.inj (Except.ok.inj h)
    obtain ⟨hframe, hsame⟩ := QUICStreamState.send_ok hsend
    refine ⟨hframe, ?_⟩
    unfold identity
    rw [hsame]

lemma reset_identity (s : WebTransportStreamState) (applicationErrorCode : ℕ) :
    (s.reset applicationErrorCode).2.identity = s.identity := rfl

lemma stopSending_identity (s : WebTransportStreamState) (applicationErrorCode : ℕ) :
    (s.stopSending applicationErrorCode).2.identity = s.identity := rfl

end WebTransportStreamState

end WebTransport
