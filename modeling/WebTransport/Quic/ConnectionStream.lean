import WebTransport.Quic.ConnectionLoss

/-!
# The streams of a connection

The stream table and the flow control over it (`quic/connection_stream.c`), and the
connection IDs the two ends issue to each other (`quic/connection_retry.c`).
-/

namespace WebTransport

/-! ## Streams -/

/-- The stream a frame names, opened when the peer may open it. A frame that names a stream
the peer may not open closes the connection, and then there is no stream. -/
def ensurePeerStream (streamId frameType now : ℕ) (c : Connection) :
    Connection × Status × Option Stream :=
  match quicStreamTableFind c.streams streamId with
  | some stream => (c, .ok, some stream)
  | none =>
    if quicStreamIdFromClient streamId = decide (c.config.role = .client) then
      let r := closeWith c quicStreamStateError frameType now
      (r.1, r.2, none)
    else
      let direction := if quicStreamIdIsBidirectional streamId then
        StreamDirection.bidirectional else .unidirectional
      let granted := c.localMaxStreams direction
      if granted ≤ quicStreamIdIndex streamId then
        let r := closeWith c quicStreamLimitError frameType now
        (r.1, r.2, none)
      else
        match quicStreamTableOpen c.streams streamId false granted with
        | (streams, .ok) =>
          match quicStreamTableFind streams streamId with
          | none => ({ c with streams := streams }, .ok, none)
          | some stream =>
            let stream := { stream with
              maxStreamData := c.config.localMaxStreamData
              window := c.config.localMaxStreamData }
            ({ c with streams := streams.setStream stream }, .ok, some stream)
        | (streams, status) => ({ c with streams := streams }, status, none)

/-- Set the connection limit this endpoint grants. -/
def quicConnectionSetMaxData (maximum : ℕ) (c : Connection) : Connection × Status :=
  if c.localMaxDataSet ∧ maximum < c.localMaxData then (c, .limit)
  else
    ({ c with
        localMaxData := maximum
        localMaxDataSet := true
        flow := { c.flow with maxData := maximum, window := maximum } }, .ok)

/-- Announce a higher connection limit. -/
def quicConnectionSendMaxData (env : Env) (fuel : ℕ) (maximum now : ℕ) (c : Connection) :
    Option (Connection × Status) :=
  if !c.localMaxDataSet then some (c, .state)
  else if maximum < c.localMaxData then some (c, .limit)
  else
    match sendControlFrame env fuel .application (.maxData maximum) true now c with
    | none => none
    | some (c, .ok) => some ({ c with localMaxData := maximum }, .ok)
    | some (c, status) => some (c, status)

/-- Grant streams of a direction. -/
def quicConnectionSetMaxStreams (direction : StreamDirection) (maximum : ℕ) (c : Connection) :
    Connection × Status :=
  if c.localMaxStreamsSet direction ∧ maximum < c.localMaxStreams direction then (c, .limit)
  else
    ({ c with
        localMaxStreams := Function.update c.localMaxStreams direction maximum
        localMaxStreamsSet := Function.update c.localMaxStreamsSet direction true }, .ok)

/-- Announce that more streams of a direction are granted. -/
def quicConnectionSendMaxStreams (env : Env) (fuel : ℕ) (direction : StreamDirection)
    (maximum now : ℕ) (c : Connection) : Option (Connection × Status) :=
  if !c.localMaxStreamsSet direction then some (c, .state)
  else if maximum < c.localMaxStreams direction then some (c, .limit)
  else
    match sendControlFrame env fuel .application (.maxStreams direction maximum) true now c with
    | none => none
    | some (c, .ok) =>
      some ({ c with localMaxStreams := Function.update c.localMaxStreams direction maximum }, .ok)
    | some (c, status) => some (c, status)

/-- Whether this endpoint may send on a stream number. -/
def streamIdAllowed (c : Connection) (streamId : ℕ) : Bool :=
  let ours := quicStreamIdFromClient streamId = decide (c.config.role = .client)
  let bidi := quicStreamIdIsBidirectional streamId
  if !ours then bidi
  else
    decide (quicStreamIdIndex streamId <
      if bidi then c.peerLimits.initialMaxStreamsBidi else c.peerLimits.initialMaxStreamsUni)

/-- Whether this endpoint sends on a stream: its own, and the peer's bidirectional ones. -/
def sendsOn (c : Connection) (streamId : ℕ) : Bool :=
  quicStreamIdFromClient streamId = decide (c.config.role = .client) ||
    quicStreamIdIsBidirectional streamId

/-- Ask the peer to stop sending on a stream. -/
def quicConnectionStopSending (env : Env) (fuel : ℕ) (streamId errorCode now : ℕ)
    (c : Connection) : Option (Connection × Status) :=
  if !c.peerLimits.set then some (c, .state)
  else
    match quicStreamTableFind c.streams streamId with
    | none => some (c, .state)
    | some stream =>
      if !quicStreamIdIsBidirectional streamId ∧
          quicStreamIdFromClient streamId = decide (c.config.role = .client) then some (c, .state)
      else if stream.sentStopSending then some (c, .state)
      else if quicStreamRecvFinished stream then some (c, .state)
      else
        let asked := { c with
          streams := c.streams.setStream { stream with sentStopSending := true } }
        match sendControlFrame env fuel .application (.stopSending streamId errorCode) true now
            asked with
        | none => none
        | some (c, .ok) => some (c, .ok)
        | some (c, status) =>
          -- The stream is as it was, so a caller that retries is not told it has asked.
          some ({ c with streams := match quicStreamTableFind c.streams streamId with
            | none => c.streams
            | some stream => c.streams.setStream { stream with sentStopSending := false } },
            status)

/-- Reset the send half of a stream with the frame that says so. -/
def resetWith (env : Env) (fuel : ℕ) (streamId now : ℕ) (frame : Stream → Frame)
    (c : Connection) : Option (Connection × Status) :=
  match quicStreamTableFind c.streams streamId with
  | none => some (c, .state)
  | some stream =>
    match quicStreamOnResetSent stream with
    | .error status => some (c, status)
    | .ok stream =>
      sendControlFrame env fuel .application (frame stream) true now
        { c with streams := c.streams.setStream stream }

/-- Cancel a stream this endpoint sends on. -/
def quicConnectionResetStream (env : Env) (fuel : ℕ) (streamId errorCode now : ℕ)
    (c : Connection) : Option (Connection × Status) :=
  if !c.peerLimits.set then some (c, .state)
  else if (quicStreamTableFind c.streams streamId).isNone then some (c, .state)
  else if !sendsOn c streamId then some (c, .state)
  else
    resetWith env fuel streamId now
      (fun stream => .resetStream streamId errorCode stream.finalSize) c

/-- Cancel a stream but commit to its first bytes. -/
def quicConnectionResetStreamAt (env : Env) (fuel : ℕ)
    (streamId errorCode reliableSize now : ℕ) (c : Connection) : Option (Connection × Status) :=
  if !c.peerLimits.set then some (c, .state)
  else if !c.peerLimits.resetStreamAt then some (c, .state)
  else
    match quicStreamTableFind c.streams streamId with
    | none => some (c, .state)
    | some stream =>
      if !sendsOn c streamId then some (c, .state)
      else if stream.sendOffset < reliableSize then some (c, .invalidArgument)
      else
        resetWith env fuel streamId now
          (fun stream => .resetStreamAt streamId errorCode stream.finalSize reliableSize) c

/-- Send bytes of a stream at an offset. The limits the peer granted are not consulted. -/
def quicConnectionSendStream (env : Env) (fuel : ℕ) (streamId offset : ℕ) (data : List UInt8)
    (fin : Bool) (now : ℕ) (c : Connection) : Option (Connection × Status) :=
  if !c.peerLimits.set then some (c, .state)
  else if !streamIdAllowed c streamId then some (c, .limit)
  else
    sendOneFrame env fuel .application
      (.stream
        { id := streamId, offset := offset, hasOffset := decide (offset ≠ 0), fin := fin,
          hasLength := true, data := data })
      true (some ⟨false, streamId, offset, data.length⟩) now c

/-- Open a stream of this endpoint's own. -/
def quicConnectionOpenStream (bidirectional : Bool) (c : Connection) :
    Connection × Except Status ℕ :=
  if !c.peerLimits.set then (c, .error .state)
  else
    let index := c.streams.opened true bidirectional
    let streamId := quicStreamIdMake (c.config.role = .client) bidirectional index
    let limit := if bidirectional then c.peerLimits.initialMaxStreamsBidi
      else c.peerLimits.initialMaxStreamsUni
    match quicStreamTableOpen c.streams streamId true limit with
    | (streams, .ok) =>
      let streams :=
        match quicStreamTableFind streams streamId with
        | none => streams
        | some stream =>
          streams.setStream { stream with
            maxStreamData := c.config.localMaxStreamData
            window := c.config.localMaxStreamData
            peerMaxStreamData :=
              if bidirectional then c.peerLimits.initialMaxStreamDataBidiRemote
              else c.peerLimits.initialMaxStreamDataUni }
      ({ c with streams := streams }, .ok streamId)
    | (streams, status) => ({ c with streams := streams }, .error status)

/-! ## Connection IDs -/

/-- The first slot that holds a connection ID with a property. -/
def idSlot (ids : ℕ → Option ConnectionIdEntry) (p : ConnectionIdEntry → Bool) : Option ℕ :=
  (List.range quicConnectionIdsMax).find? fun i => (ids i).any p

/-- Tell the peer that one of its connection IDs is given up, and forget it. -/
def forgetPeerConnectionId (env : Env) (fuel : ℕ) (sequence now : ℕ) (c : Connection) :
    Option (Connection × Status) :=
  match idSlot c.peerIds (·.sequence = sequence) with
  | none => some (c, .ok)
  | some slot =>
    match quicConnectionSendFrame env fuel .application (.retireConnectionId sequence) true now
        c with
    | none => none
    | some (c, .ok) =>
      some ({ c with
        peerIds := Function.update c.peerIds slot none
        peerIdCount := c.peerIdCount - 1
        currentPeerSequence :=
          if c.currentPeerSequence = some sequence then none else c.currentPeerSequence
        counters := { c.counters with peerIdsRetired := c.counters.peerIdsRetired + 1 } }, .ok)
    | some (c, status) => some (c, status)

/-- Send to a connection ID the peer issued. -/
def adoptStoredPeerId (slot : ℕ) (c : Connection) : Connection :=
  match c.peerIds slot with
  | none => c
  | some entry =>
    { adoptPeerConnectionId c entry.id with currentPeerSequence := some entry.sequence }

/-- Give up every connection ID below a sequence number. One is forgotten in each round, so
the table's size bounds the rounds. -/
def forgetBelow (env : Env) (fuel : ℕ) (retirePriorTo now : ℕ) :
    ℕ → Connection → Option (Connection × Status)
  | 0, c => some (c, .ok)
  | rounds + 1, c =>
    match (idSlot c.peerIds (·.sequence < retirePriorTo)).bind c.peerIds with
    | none => some (c, .ok)
    | some entry =>
      match forgetPeerConnectionId env fuel entry.sequence now c with
      | none => none
      | some (c, .ok) => forgetBelow env fuel retirePriorTo now rounds c
      | some (c, status) => some (c, status)

/-- The peer issued a connection ID. -/
def handleNewConnectionId (env : Env) (fuel : ℕ) (f : NewConnectionIdFrame) (now : ℕ)
    (c : Connection) : Option (Connection × Status) :=
  if f.connectionId.length = 0 ∨ quicMaxConnectionIdLength < f.connectionId.length then
    some (closeWith c quicFrameEncodingError 0x18 now)
  else if f.sequence < f.retirePriorTo then some (closeWith c quicFrameEncodingError 0x18 now)
  else
    match (idSlot c.peerIds (·.sequence = f.sequence)).bind c.peerIds with
    | some known =>
      if known.id ≠ f.connectionId ∨ known.resetToken ≠ f.statelessResetToken then
        some (closeWith c quicProtocolViolation 0x18 now)
      else some (c, .ok)
    | none =>
      let droppedCurrent := (idSlot c.peerIds fun e =>
        e.sequence < f.retirePriorTo && c.currentPeerSequence = some e.sequence).isSome
      let c := { c with retireCurrentAfterStore := droppedCurrent }
      match (List.range quicConnectionIdsMax).find? fun i => (c.peerIds i).isNone with
      | none => some (closeWith c quicConnectionIdLimitError 0x18 now)
      | some slot =>
        let limit := c.config.localActiveConnectionIdLimit
        let allowed := (if limit = 0 then 2 else limit) - 1
        if allowed ≤ c.peerIdCount then some (closeWith c quicConnectionIdLimitError 0x18 now)
        else
          let stored := { c with
            peerIds := Function.update c.peerIds slot
              (some ⟨f.sequence, f.connectionId, f.statelessResetToken⟩)
            peerIdCount := c.peerIdCount + 1
            retireCurrentAfterStore := false }
          let adopted := if c.retireCurrentAfterStore then adoptStoredPeerId slot stored else stored
          forgetBelow env fuel f.retirePriorTo now quicConnectionIdsMax adopted

/-- Issue a connection ID to the peer. -/
def quicConnectionIssueConnectionId (env : Env) (fuel : ℕ) (id resetToken : List UInt8)
    (now : ℕ) (c : Connection) : Option (Connection × Status) :=
  if id.length = 0 ∨ quicMaxConnectionIdLength < id.length then some (c, .invalidArgument)
  else if id.length ≠ c.config.localConnectionId.length then some (c, .invalidArgument)
  else if !c.peerLimits.set then some (c, .state)
  else if (idSlot c.issuedIds (·.id = id)).isSome then some (c, .state)
  else
    match (List.range quicConnectionIdsMax).find? fun i => (c.issuedIds i).isNone with
    | none => some (c, .limit)
    | some slot =>
      if c.peerLimits.activeConnectionIdLimit - 1 ≤ c.issuedCount then some (c, .limit)
      else
        match sendControlFrame env fuel .application
            (.newConnectionId ⟨c.nextIssuedSequence, 0, id, resetToken⟩) true now c with
        | none => none
        | some (c, .ok) =>
          some ({ c with
            issuedIds := Function.update c.issuedIds slot
              (some ⟨c.nextIssuedSequence, id, resetToken⟩)
            issuedCount := c.issuedCount + 1
            nextIssuedSequence := c.nextIssuedSequence + 1 }, .ok)
        | some (c, status) => some (c, status)

end WebTransport
