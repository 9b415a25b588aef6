import WebTransport.Quic.Frame

/-!
# Streams and flow control

The flow control of a connection, the two halves of a stream and the bounded table of
streams (`quic/stream.c`). The arrays `used[]` and `streams[]` of the table are one function
from slots to streams; a slot that is not used holds none.
-/

namespace WebTransport

/-- `WT_QUIC_STREAM_TABLE_MAX`. -/
def quicStreamTableMax : ℕ := 32

/-! ## The connection -/

/-- The flow control of a connection (`wt_quic_flow_t`). -/
structure Flow where
  maxData : ℕ := 0
  dataReceived : ℕ := 0
  window : ℕ := 0
  peerMaxData : ℕ := 0
  dataSent : ℕ := 0
deriving DecidableEq, Repr

/-- The flow control of a new connection. -/
def quicFlowInit (initialMaxData peerInitialMaxData : ℕ) : Flow :=
  { maxData := initialMaxData, peerMaxData := peerInitialMaxData, window := initialMaxData / 2 }

/-- How many bytes the peer's limit still allows. -/
def quicFlowSendAllowance (flow : Flow) : ℕ :=
  if flow.peerMaxData ≤ flow.dataSent then 0 else flow.peerMaxData - flow.dataSent

/-- Whether a number of bytes fits under the peer's limit. -/
def quicFlowCanSend (flow : Flow) (length : ℕ) : Bool := length ≤ quicFlowSendAllowance flow

/-- Account for sent bytes. -/
def quicFlowOnSent (flow : Flow) (length : ℕ) : Except Status Flow :=
  if !quicFlowCanSend flow length then .error .state
  else .ok { flow with dataSent := u64Add flow.dataSent length }

/-- The peer raised its connection limit. -/
def quicFlowOnMaxData (flow : Flow) (newMax : ℕ) : Except Status Flow :=
  if newMax < flow.peerMaxData then .error .protocol else .ok { flow with peerMaxData := newMax }

/-- Account for received bytes. -/
def quicFlowOnReceived (flow : Flow) (length : ℕ) : Except Status Flow :=
  if u64Sub flow.maxData flow.dataReceived < length then .error .protocol
  else .ok { flow with dataReceived := u64Add flow.dataReceived length }

/-- Whether the received bytes have reached the advertised limit. -/
def quicFlowShouldExtend (flow : Flow) : Bool := flow.maxData ≤ flow.dataReceived

/-- The limit to advertise next. -/
def quicFlowNextMaxData (flow : Flow) : ℕ := u64Add flow.dataReceived flow.window

/-- Record the limit that was advertised. -/
def quicFlowOnMaxDataSent (flow : Flow) (newMax : ℕ) : Flow :=
  if flow.maxData < newMax then { flow with maxData := newMax } else flow

/-! ## Streams -/

/-- The states of a stream's send half (`wt_quic_send_state_t`). -/
inductive SendState
  | ready
  | send
  | dataSent
  | dataRecvd
  | resetSent
  | resetRecvd
deriving DecidableEq, Repr

/-- The states of a stream's receive half (`wt_quic_recv_state_t`). -/
inductive RecvState
  | recv
  | sizeKnown
  | dataRecvd
  | dataRead
  | resetRecvd
  | resetRead
deriving DecidableEq, Repr

/-- One stream (`wt_quic_stream_t`). -/
structure Stream where
  id : ℕ
  initiatedByUs : Bool
  bidirectional : Bool
  sendState : SendState := .ready
  recvState : RecvState := .recv
  sendOffset : ℕ := 0
  sendAcked : ℕ := 0
  finalSize : ℕ := 0
  hasFinalSize : Bool := false
  finSent : Bool := false
  peerMaxStreamData : ℕ := 0
  recvOffset : ℕ := 0
  recvHighest : ℕ := 0
  recvFinalSize : ℕ := 0
  hasRecvFinalSize : Bool := false
  maxStreamData : ℕ := 0
  window : ℕ := 0
  sentStopSending : Bool := false
  peerReset : Bool := false
  peerErrorCode : ℕ := 0
  peerReliableSize : ℕ := 0
  peerResetAt : Bool := false
deriving DecidableEq, Repr

/-- A stream that has not been used. -/
def quicStreamInit (id : ℕ) (initiatedByUs bidirectional : Bool)
    (maxStreamData peerMaxStreamData : ℕ) : Stream :=
  { id := id
    initiatedByUs := initiatedByUs
    bidirectional := bidirectional
    maxStreamData := maxStreamData
    window := maxStreamData / 2
    peerMaxStreamData := peerMaxStreamData }

/-- Whether nothing more may be sent on the stream. -/
def quicStreamSendFinished (stream : Stream) : Bool :=
  stream.sendState ∈ [.dataSent, .dataRecvd, .resetSent, .resetRecvd]

/-- Whether the receive half is over. -/
def quicStreamRecvFinished (stream : Stream) : Bool :=
  stream.recvState ∈ [.dataRead, .resetRead]

/-- Whether both halves are over. -/
def quicStreamComplete (stream : Stream) : Bool :=
  quicStreamSendFinished stream && quicStreamRecvFinished stream

/-- Bytes were sent on the stream. -/
def quicStreamOnDataSent (stream : Stream) (length : ℕ) : Except Status Stream :=
  if quicStreamSendFinished stream then .error .state
  else
    .ok { stream with
      sendState := if stream.sendState = .ready ∧ length ≠ 0 then .send else stream.sendState
      sendOffset := u64Add stream.sendOffset length }

/-- The end of the stream was sent. -/
def quicStreamOnFinSent (stream : Stream) : Except Status Stream :=
  if stream.finSent || quicStreamSendFinished stream then .error .state
  else
    .ok { stream with
      finSent := true
      finalSize := stream.sendOffset
      hasFinalSize := true
      sendState := .dataSent }

/-- The peer acknowledged the bytes of the stream up to a point. -/
def quicStreamOnAck (stream : Stream) (acknowledged : ℕ) : Stream :=
  let stream :=
    if stream.sendAcked < acknowledged then { stream with sendAcked := acknowledged } else stream
  let stream :=
    if stream.sendState = .dataSent ∧ stream.hasFinalSize ∧
        stream.finalSize ≤ stream.sendAcked then
      { stream with sendState := .dataRecvd }
    else stream
  if stream.sendState = .resetSent ∧ stream.finalSize ≤ stream.sendAcked then
    { stream with sendState := .resetRecvd }
  else stream

/-- A reset of the send half was sent. -/
def quicStreamOnResetSent (stream : Stream) : Except Status Stream :=
  if quicStreamSendFinished stream then .error .state
  else
    .ok { stream with
      finalSize := stream.sendOffset, hasFinalSize := true, sendState := .resetSent }

/-- Fix the size of the receive half; the two ways to learn it have to agree. -/
def checkFinalSize (stream : Stream) (finalSize : ℕ) : Stream × Status :=
  if stream.hasRecvFinalSize && stream.recvFinalSize ≠ finalSize then (stream, .protocol)
  else if finalSize < stream.recvHighest then (stream, .protocol)
  else
    ({ stream with
        recvFinalSize := finalSize
        hasRecvFinalSize := true
        recvState :=
          if stream.recvState = .recv then
            if finalSize ≤ stream.recvOffset then .dataRecvd else .sizeKnown
          else stream.recvState }, .ok)

/-- A RESET_STREAM arrived. -/
def quicStreamOnResetReceived (stream : Stream) (errorCode finalSize : ℕ) : Stream × Status :=
  match checkFinalSize stream finalSize with
  | (stream, .ok) =>
    ({ stream with peerReset := true, peerErrorCode := errorCode, recvState := .resetRecvd }, .ok)
  | (stream, status) => (stream, status)

/-- A RESET_STREAM_AT arrived. -/
def quicStreamOnResetAtReceived (stream : Stream) (errorCode finalSize reliableSize : ℕ) :
    Stream × Status :=
  if finalSize < reliableSize then (stream, .protocol)
  else if stream.peerReset && !stream.peerResetAt then (stream, .state)
  else
    match checkFinalSize stream finalSize with
    | (stream, .ok) =>
      if stream.peerResetAt then
        if stream.peerErrorCode ≠ errorCode then (stream, .protocol)
        else if stream.peerReliableSize ≤ reliableSize then (stream, .ok)
        else ({ stream with peerReliableSize := reliableSize }, .ok)
      else
        ({ stream with
            peerReset := true
            peerResetAt := true
            peerErrorCode := errorCode
            peerReliableSize := reliableSize
            recvState := .resetRecvd }, .ok)
    | (stream, status) => (stream, status)

/-- A STOP_SENDING arrived: the send half is over. -/
def quicStreamOnStopSending (stream : Stream) : Stream :=
  if quicStreamSendFinished stream then { stream with sentStopSending := true }
  else
    { stream with
      sentStopSending := true
      finalSize := stream.sendOffset
      hasFinalSize := true
      sendState := .resetSent }

/-- The peer raised the limit of the stream. -/
def quicStreamOnMaxStreamData (stream : Stream) (newMax : ℕ) : Except Status Stream :=
  if newMax < stream.peerMaxStreamData then .error .protocol
  else .ok { stream with peerMaxStreamData := newMax }

/-- How many bytes the stream's and the connection's limits still allow. -/
def quicStreamSendAllowance (stream : Stream) (flow : Flow) : ℕ :=
  if quicStreamSendFinished stream then 0
  else
    let streamAllowance :=
      if stream.peerMaxStreamData ≤ stream.sendOffset then 0
      else stream.peerMaxStreamData - stream.sendOffset
    let connectionAllowance := quicFlowSendAllowance flow
    if streamAllowance < connectionAllowance then streamAllowance else connectionAllowance

/-- Whether a number of bytes may be sent on the stream. -/
def quicStreamCanSend (stream : Stream) (flow : Flow) (length : ℕ) : Bool :=
  length ≤ quicStreamSendAllowance stream flow

/-- What `wt_quic_stream_on_data` reports besides its status: the credit the frame cost and
whether it starts at the next byte to deliver. -/
structure DataArrival where
  credit : ℕ := 0
  inOrder : Bool := false
deriving DecidableEq, Repr

/-- The completion of the receive half once every byte up to the final size has arrived. -/
def recvCompletion (stream : Stream) : Stream :=
  if stream.hasRecvFinalSize ∧ stream.recvFinalSize ≤ stream.recvHighest ∧
      stream.recvState = .sizeKnown then
    { stream with recvState := .dataRecvd }
  else stream

/-- Bytes arrived on the stream: they are accounted against both limits. -/
def quicStreamOnData (stream : Stream) (flow : Flow) (offset length : ℕ) (fin : Bool) :
    Stream × Flow × Status × DataArrival :=
  if (stream.recvState = .dataRead ∨ stream.recvState = .resetRead) ∧ (length ≠ 0 ∨ fin) then
    (stream, flow, .state, {})
  else if 2 ^ 64 - 1 - length < offset then (stream, flow, .protocol, {})
  else
    let finish := offset + length
    if stream.hasRecvFinalSize ∧
        (stream.recvFinalSize < finish ∨ fin ∧ finish ≠ stream.recvFinalSize) then
      (stream, flow, .protocol, {})
    else
      let credit := if stream.recvHighest < finish then finish - stream.recvHighest else 0
      if stream.maxStreamData < u64Add stream.recvHighest credit then
        (stream, flow, .protocol, {})
      else
        match quicFlowOnReceived flow credit with
        | .error status => (stream, flow, status, {})
        | .ok flow =>
          let stream :=
            if stream.recvHighest < finish then { stream with recvHighest := finish } else stream
          let arrival : DataArrival :=
            { credit := credit, inOrder := decide (offset = stream.recvOffset) }
          if fin then
            match checkFinalSize stream finish with
            | (stream, .ok) => (recvCompletion stream, flow, .ok, arrival)
            | (stream, status) => (stream, flow, status, arrival)
          else (recvCompletion stream, flow, .ok, arrival)

/-- The application took bytes off the stream. -/
def quicStreamOnDataRead (stream : Stream) (length : ℕ) : Stream × Status :=
  if stream.recvState = .resetRecvd ∨ stream.recvState = .resetRead then (stream, .state)
  else if u64Sub stream.recvHighest stream.recvOffset < length then (stream, .invalidArgument)
  else
    let stream := { stream with recvOffset := u64Add stream.recvOffset length }
    if stream.recvState = .dataRecvd ∧ stream.recvFinalSize ≤ stream.recvOffset then
      ({ stream with recvState := .dataRead }, .ok)
    else (stream, .ok)

/-- The application took note of a reset. -/
def quicStreamOnResetRead (stream : Stream) : Stream × Status :=
  if stream.recvState ≠ .resetRecvd then (stream, .state)
  else ({ stream with recvState := .resetRead }, .ok)

/-- Whether the received bytes have reached the stream's limit. -/
def quicStreamShouldExtend (stream : Stream) : Bool := stream.maxStreamData ≤ stream.recvHighest

/-- The limit of the stream to advertise next. -/
def quicStreamNextMaxStreamData (stream : Stream) : ℕ := u64Add stream.recvHighest stream.window

/-- Record the limit of the stream that was advertised. -/
def quicStreamOnMaxStreamDataSent (stream : Stream) (newMax : ℕ) : Stream :=
  if stream.maxStreamData < newMax then { stream with maxStreamData := newMax } else stream

/-! ## Stream numbers -/

/-- The place of a stream among those of its class. -/
def quicStreamIdIndex (streamId : ℕ) : ℕ := streamId / 4

/-- Whether the client opens streams of this number. -/
def quicStreamIdFromClient (streamId : ℕ) : Bool := streamId % 2 = 0

/-- Whether streams of this number carry data both ways. -/
def quicStreamIdIsBidirectional (streamId : ℕ) : Bool := streamId / 2 % 2 = 0

/-- The number of a stream of a class. -/
def quicStreamIdMake (fromClient bidirectional : Bool) (index : ℕ) : ℕ :=
  index * 4 % 2 ^ 64 + (if fromClient then 0 else 1) + if bidirectional then 0 else 2

/-! ## The table -/

/-- The streams of a connection (`wt_quic_stream_table_t`). -/
structure StreamTable where
  slots : ℕ → Option Stream := fun _ => none
  count : ℕ := 0
  openedByUsBidi : ℕ := 0
  openedByUsUni : ℕ := 0
  openedByPeerBidi : ℕ := 0
  openedByPeerUni : ℕ := 0

/-- The slot of a stream. -/
def tableSlot (table : StreamTable) (streamId : ℕ) : Option ℕ :=
  (List.range quicStreamTableMax).find? fun i =>
    (table.slots i).any fun stream => stream.id = streamId

/-- The stream of a number. -/
def quicStreamTableFind (table : StreamTable) (streamId : ℕ) : Option Stream :=
  (tableSlot table streamId).bind table.slots

/-- Write a stream back to its slot. -/
def StreamTable.setStream (table : StreamTable) (stream : Stream) : StreamTable :=
  match tableSlot table stream.id with
  | none => table
  | some i => { table with slots := Function.update table.slots i (some stream) }

/-- How many streams of a class were opened. -/
def StreamTable.opened (table : StreamTable) (initiatedByUs bidirectional : Bool) : ℕ :=
  if initiatedByUs then if bidirectional then table.openedByUsBidi else table.openedByUsUni
  else if bidirectional then table.openedByPeerBidi else table.openedByPeerUni

/-- Count one more stream of a class. -/
def StreamTable.countOpened (table : StreamTable) (initiatedByUs bidirectional : Bool) :
    StreamTable :=
  if initiatedByUs then
    if bidirectional then { table with openedByUsBidi := table.openedByUsBidi + 1 }
    else { table with openedByUsUni := table.openedByUsUni + 1 }
  else if bidirectional then { table with openedByPeerBidi := table.openedByPeerBidi + 1 }
  else { table with openedByPeerUni := table.openedByPeerUni + 1 }

/-- Whether a slot holds a stream that is complete. -/
def slotComplete (table : StreamTable) (i : ℕ) : Bool := (table.slots i).any quicStreamComplete

/-- Free every slot whose stream is complete. -/
def reclaimComplete (table : StreamTable) : StreamTable :=
  { table with
    slots := fun i => if slotComplete table i then none else table.slots i
    count := table.count - ((List.range quicStreamTableMax).filter (slotComplete table)).length }

/-- Open a stream. Complete streams give up their slots when none is free. -/
def quicStreamTableOpen (table : StreamTable) (streamId : ℕ) (initiatedByUs : Bool)
    (limit : ℕ) : StreamTable × Status :=
  let bidirectional := quicStreamIdIsBidirectional streamId
  if (tableSlot table streamId).isSome then (table, .state)
  else if limit ≤ table.opened initiatedByUs bidirectional then (table, .limit)
  else
    let free := fun t : StreamTable =>
      (List.range quicStreamTableMax).find? fun i => (t.slots i).isNone
    let swept := if (free table).isNone then reclaimComplete table else table
    match free swept with
    | none => (swept, .limit)
    | some slot =>
      let stream := quicStreamInit streamId initiatedByUs bidirectional 0 0
      let opened :=
        { swept with
          slots := Function.update swept.slots slot (some stream)
          count := swept.count + 1 }
      (opened.countOpened initiatedByUs bidirectional, .ok)

/-- Forget a stream that is complete. -/
def quicStreamTableClose (table : StreamTable) (streamId : ℕ) : StreamTable × Status :=
  match tableSlot table streamId with
  | none => (table, .state)
  | some slot =>
    if !slotComplete table slot then (table, .state)
    else
      ({ table with slots := Function.update table.slots slot none, count := table.count - 1 }, .ok)

end WebTransport
