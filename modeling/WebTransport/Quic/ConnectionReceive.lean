import WebTransport.Quic.ConnectionStream

/-!
# The frame visitor

What one received frame does to a connection (`visit_frame` in `quic/connection_receive.c`).

A frame this layer has no rule for, and most frames it has one for, go on to the handler the
caller installed. The handler is the layer above and may call back into the connection, so
the visitor is cut in two where it calls it: `visitFrame` is everything before, and
`handlerReturned` is what the connection does with the handler's answer.
-/

namespace WebTransport

/-- `WT_QUIC_INTERNAL_ERROR`. -/
def quicInternalError : QuicError := 0x01

/-- What the visitor knows of the packet a frame came in (`wt_quic_visit_t`). -/
structure Visit where
  space : Space
  now : ℕ
  destinationSequence : ℕ
deriving DecidableEq, Repr

/-- The frame type a close names for a frame. -/
def wireTypeOf : Frame → ℕ
  | .padding => 0x00
  | .ping => 0x01
  | .ack _ => 0x02
  | .resetStream .. => 0x04
  | .stopSending .. => 0x05
  | .crypto .. => 0x06
  | .newToken _ => 0x07
  | .stream _ => 0x08
  | .maxData _ => 0x10
  | .maxStreamData .. => 0x11
  | .maxStreams .. => 0x12
  | .dataBlocked _ => 0x14
  | .streamDataBlocked .. => 0x15
  | .streamsBlocked .. => 0x16
  | .newConnectionId _ => 0x18
  | .retireConnectionId _ => 0x19
  | .pathChallenge _ => 0x1a
  | .pathResponse _ => 0x1b
  | .connectionCloseTransport _ => 0x1c
  | .connectionCloseApplication _ => 0x1d
  | .handshakeDone => 0x1e
  | .resetStreamAt .. => 0x24
  | .datagram _ => 0x30

/-- The stream a frame names, for the frames that name one. -/
def frameStreamId : Frame → Option ℕ
  | .stream f => some f.id
  | .resetStream id .. => some id
  | .resetStreamAt id .. => some id
  | .stopSending id _ => some id
  | .maxStreamData id _ => some id
  | .streamDataBlocked id _ => some id
  | _ => none

/-- Whether a frame may not appear in packets of a space. -/
def frameForbiddenInSpace (frame : Frame) (space : Space) : Bool :=
  match frame with
  | .padding | .ping | .ack _ | .connectionCloseTransport _ | .connectionCloseApplication _
  | .crypto .. => false
  | _ => decide (space ≠ .application)

/-- Whether a frame asks for an acknowledgement. -/
def frameAckEliciting : Frame → Bool
  | .ack _ | .padding | .connectionCloseTransport _ | .connectionCloseApplication _ => false
  | _ => true

/-- What the visitor answers: a status, or that the handler is to be called. -/
inductive VisitReply
  | returned (status : Status)
  | deliver
deriving DecidableEq, Repr

/-- A result that ends the visit. -/
def finished (r : Connection × Status) : Connection × VisitReply := (r.1, .returned r.2)

/-- Hand a frame on to the handler. -/
def deliverToHandler (c : Connection) : Connection × VisitReply :=
  ({ c with counters := { c.counters with
      framesDelivered := c.counters.framesDelivered + 1 } }, .deliver)

/-- What the connection does with the handler's answer: a refusal closes it, with the code
the handler asked for. -/
def handlerReturned (visit : Visit) (frame : Frame) (status : Status) (c : Connection) :
    Connection × Status :=
  if status = .ok then (c, .ok)
  else
    let hint := c.closeHint.getD ⟨quicInternalError, 0, false⟩
    let c := { c with
      closeHint := none
      closeCause := status
      closeCauseFrame := wireTypeOf frame }
    if hint.application then
      ({ c with
          close := (quicCloseApplication c.close hint.code [] visit.now (ptoOf c)).1 }, status)
    else ((closeWith c hint.code hint.frameType visit.now).1, status)

/-- The peer closed the connection. -/
def handleConnectionClose (f : ConnectionCloseFrame) (now : ℕ) (c : Connection) :
    Connection × Status :=
  let frameType := if f.hasFrameType then f.frameType else 0
  let c := { c with peerClosed := true }
  ({ c with
      close := (quicCloseTransport c.close f.errorCode frameType [] now (ptoOf c)).1
      closeSent := true }, .ok)

/-! ## Frames that name a stream -/

/-- The error a STREAM frame that was refused is answered with. -/
def streamDataError (f : StreamFrame) (stream : Stream) (flow : Flow) : QuicError :=
  if 2 ^ 64 - 1 - f.data.length < f.offset then quicFrameEncodingError
  else
    let finish := f.offset + f.data.length
    let needed := if stream.recvHighest < finish then finish - stream.recvHighest else 0
    if stream.maxStreamData < finish ∨ flow.maxData < u64Add flow.dataReceived needed then
      quicFlowControlError
    else quicFinalSizeError

/-- Raise the connection limit once it has been reached. -/
def grantMaxData (env : Env) (fuel : ℕ) (now : ℕ) (c : Connection) : Option Connection :=
  if !quicFlowShouldExtend c.flow then some c
  else
    let next := quicFlowNextMaxData c.flow
    match sendOneFrame env fuel .application (.maxData next) true none now c with
    | none => none
    | some (c, .ok) =>
      some { c with flow := quicFlowOnMaxDataSent c.flow next, localMaxData := next }
    | some (c, _) => some c

/-- Raise the limit of a stream once it has been reached. -/
def grantMaxStreamData (env : Env) (fuel : ℕ) (streamId now : ℕ) (c : Connection) :
    Option Connection :=
  match quicStreamTableFind c.streams streamId with
  | none => some c
  | some stream =>
    if !quicStreamShouldExtend stream then some c
    else
      let next := quicStreamNextMaxStreamData stream
      match sendOneFrame env fuel .application (.maxStreamData streamId next) true none now c with
      | none => none
      | some (c, .ok) =>
        some { c with
          streams := match quicStreamTableFind c.streams streamId with
            | none => c.streams
            | some stream => c.streams.setStream (quicStreamOnMaxStreamDataSent stream next) }
      | some (c, _) => some c

/-- The bytes of a STREAM frame are accounted for, and the limits follow them. -/
def visitStreamData (env : Env) (fuel : ℕ) (visit : Visit) (f : StreamFrame) (stream : Stream)
    (c : Connection) : Option (Connection × VisitReply) :=
  match quicStreamOnData stream c.flow f.offset f.data.length f.fin with
  | (stream, flow, .ok, _) =>
    match grantMaxData env fuel visit.now
        { c with streams := c.streams.setStream stream, flow := flow } with
    | none => none
    | some c =>
      match grantMaxStreamData env fuel f.id visit.now c with
      | none => none
      | some c => some (deliverToHandler c)
  | (stream, flow, _, _) =>
    some (finished (closeWith { c with streams := c.streams.setStream stream, flow := flow }
      (streamDataError f stream flow) 0x08 visit.now))

/-- The stream's own machine sees a frame before the handler does. -/
def visitStream (env : Env) (fuel : ℕ) (visit : Visit) (frame : Frame) (stream : Stream)
    (c : Connection) : Option (Connection × VisitReply) :=
  match frame with
  | .resetStream _ errorCode finalSize =>
    match quicStreamOnResetReceived stream errorCode finalSize with
    | (stream, .ok) => some (deliverToHandler { c with streams := c.streams.setStream stream })
    | (stream, _) =>
      some (finished (closeWith { c with streams := c.streams.setStream stream }
        quicFinalSizeError 0x04 visit.now))
  | .resetStreamAt _ errorCode finalSize reliableSize =>
    match quicStreamOnResetAtReceived stream errorCode finalSize reliableSize with
    | (stream, .ok) => some (deliverToHandler { c with streams := c.streams.setStream stream })
    | (stream, _) =>
      let code := if finalSize < reliableSize then quicFrameEncodingError
        else quicStreamStateError
      some (finished (closeWith { c with streams := c.streams.setStream stream } code 0x24
        visit.now))
  | .stopSending .. =>
    some (deliverToHandler
      { c with streams := c.streams.setStream (quicStreamOnStopSending stream) })
  | .stream f => visitStreamData env fuel visit f stream c
  | .maxStreamData _ maximum =>
    match quicStreamOnMaxStreamData stream maximum with
    | .ok stream => some (deliverToHandler { c with streams := c.streams.setStream stream })
    | .error _ => some (finished (closeWith c quicProtocolViolation 0x11 visit.now))
  | _ => some (deliverToHandler c)

/-- A frame that names a stream. Without one, the connection was closed on the way, and the
frame goes to the handler all the same. -/
def visitStreamFrame (env : Env) (fuel : ℕ) (visit : Visit) (streamId : ℕ) (frame : Frame)
    (c : Connection) : Option (Connection × VisitReply) :=
  match ensurePeerStream streamId (wireTypeOf frame) visit.now c with
  | (c, .ok, some stream) => visitStream env fuel visit frame stream c
  | (c, .ok, none) => some (deliverToHandler c)
  | (c, status, _) => some (c, .returned status)

/-! ## The visitor -/

/-- The peer raised one of the limits it grants; a lower one is an error. -/
def raiseLimit (granted maximum : ℕ) (raised : Connection) (frameType now : ℕ)
    (c : Connection) : Connection × Status :=
  if maximum < granted then closeWith c quicProtocolViolation frameType now else (raised, .ok)

/-- Count a frame that is walked over. -/
def countFrame (frame : Frame) (c : Connection) : Connection :=
  { c with counters := { c.counters with
      framesWalked := c.counters.framesWalked + 1
      streamFramesSeen :=
        match frame with
        | .stream _ => c.counters.streamFramesSeen + 1
        | _ => c.counters.streamFramesSeen } }

/-- The rules of the connection for a frame that may appear where it did. -/
def actOnFrame (env : Env) (fuel : ℕ) (visit : Visit) (frame : Frame) (c : Connection) :
    Option (Connection × VisitReply) :=
  match frame with
  | .padding => some (c, .returned .ok)
  | .ack f => (handleAck env fuel visit.space f visit.now c).map finished
  | .connectionCloseTransport f | .connectionCloseApplication f =>
    some (finished (handleConnectionClose f visit.now c))
  | .maxData maximum =>
    some (finished (raiseLimit c.peerLimits.initialMaxData maximum
      { c with peerLimits := { c.peerLimits with initialMaxData := maximum } } 0x10 visit.now c))
  | .maxStreams .bidirectional maximum =>
    some (finished (raiseLimit c.peerLimits.initialMaxStreamsBidi maximum
      { c with peerLimits := { c.peerLimits with initialMaxStreamsBidi := maximum } } 0x12
      visit.now c))
  | .maxStreams .unidirectional maximum =>
    some (finished (raiseLimit c.peerLimits.initialMaxStreamsUni maximum
      { c with peerLimits := { c.peerLimits with initialMaxStreamsUni := maximum } } 0x12
      visit.now c))
  | .handshakeDone =>
    if c.config.role = .server then
      some (finished (closeWith c quicProtocolViolation 0x1e visit.now))
    else some (deliverToHandler c)
  | .maxStreamData id _ | .resetStream id _ _ | .resetStreamAt id _ _ _ | .stopSending id _
  | .streamDataBlocked id _ => visitStreamFrame env fuel visit id frame c
  | .stream f => visitStreamFrame env fuel visit f.id frame c
  | .newConnectionId f => (handleNewConnectionId env fuel f visit.now c).map finished
  | .retireConnectionId sequence =>
    let c := { c with counters := { c.counters with
      retiresReceived := c.counters.retiresReceived + 1 } }
    if sequence = visit.destinationSequence ∨ c.nextIssuedSequence ≤ sequence then
      some (finished (closeWith c quicProtocolViolation 0x19 visit.now))
    else
      match idSlot c.issuedIds (·.sequence = sequence) with
      | none => some (deliverToHandler c)
      | some slot =>
        some (deliverToHandler
          { c with
            issuedIds := Function.update c.issuedIds slot none
            issuedCount := c.issuedCount - 1 })
  | .pathChallenge data =>
    match sendControlFrame env fuel .application (.pathResponse data) true visit.now c with
    | none => none
    | some (c, .ok) =>
      some (deliverToHandler { c with counters := { c.counters with
        pathResponsesSent := c.counters.pathResponsesSent + 1 } })
    | some (c, _) => some (deliverToHandler c)
  | .pathResponse data =>
    some (deliverToHandler
      (if c.pathValidating ∧ c.pathChallenge = data then
        { c with
          pathValidating := false
          pathChallengePending := false
          pathValidated := true
          counters := { c.counters with
            pathResponsesMatched := c.counters.pathResponsesMatched + 1 } }
      else c))
  | .ping | .crypto .. | .newToken _ | .dataBlocked _ | .streamsBlocked .. | .datagram _ =>
    some (deliverToHandler c)

/-- Whether a frame is passed over because the connection has closed. -/
def frameIgnored (frame : Frame) (c : Connection) : Bool :=
  quicConnectionIsClosed c && !quicCloseAcceptsFrameType (wireTypeOf frame)

/-- One received frame, up to the call of the handler. -/
def visitFrame (env : Env) (fuel : ℕ) (visit : Visit) (frame : Frame) (c : Connection) :
    Option (Connection × VisitReply) :=
  let c := countFrame frame c
  if frameIgnored frame c then some (c, .returned .ok)
  else if frameForbiddenInSpace frame visit.space then
    some (finished (closeWith c quicProtocolViolation (wireTypeOf frame) visit.now))
  else actOnFrame env fuel visit frame c

end WebTransport
