import WebTransport.Swift.SessionCalls

/-!
# The calls of the session manager

The public operations of `WebTransportSessionManager` on streams and datagrams, and all its calls
with the frames that they yield. The operations on bidirectional and on unidirectional streams
differ in the form only.
-/

namespace WebTransport

open Throwing

/-! ## Prefixes -/

/-- `wtStreamFrame` and `webTransportStream`. -/
def streamMarker : WebTransportStreamForm → ℕ
  | .bidirectional => 0x41
  | .unidirectional => 0x54

/-- The first bytes of a stream (`serializePrefix`). -/
def serializeStreamPrefix (form : WebTransportStreamForm) (sessionID : ℕ) :
    Except QUICCodecError (List UInt8) := do
  .ok ((← QUICVarInt.encode (streamMarker form)) ++ (← QUICVarInt.encode sessionID))

/-- What stands before the payload of a stream (`WebTransportStreamPrefix`). -/
structure WebTransportStreamPrefix where
  form : WebTransportStreamForm
  sessionID : ℕ
  bytesConsumed : ℕ
  remainingPayload : List UInt8
deriving DecidableEq, Repr

/-- The form that a marker stands for. -/
def formOfMarker (marker : ℕ) : Except ManagerError WebTransportStreamForm :=
  if marker = streamMarker .bidirectional then .ok .bidirectional
  else if marker = streamMarker .unidirectional then .ok .unidirectional
  else .error (.malformed s!"unknown WebTransport stream marker: {marker}")

/-- `parsePrefix`. All bytes are read, the rest as payload. -/
def parseStreamPrefix (bytes : List UInt8) : Except ManagerError WebTransportStreamPrefix := do
  let (marker, cursor) ← ofCodec (QUICVarInt.read bytes)
  let form ← formOfMarker marker
  let (sessionRaw, cursor) ← ofCodec (QUICVarInt.read cursor)
  match fromRequestStreamID sessionRaw with
  | .error _ => .error (.draft16 .h3ID "invalid WebTransport stream session ID")
  | .ok sessionID => .ok ⟨form, sessionID, bytes.length, cursor⟩

/-- `WebTransportDatagramSignaling.serialize`. -/
def serializeDatagram (sessionID : ℕ) (payload : List UInt8) :
    Except QUICCodecError (List UInt8) :=
  if sessionID % 4 ≠ 0 then
    .error (.malformed
      "WebTransport datagram session ID must be a client-initiated bidirectional stream ID")
  else do .ok ((← QUICVarInt.encode (sessionID / 4)) ++ payload)

/-- The session and the payload of a datagram (`WebTransportDatagramSignaling.parse`). -/
def parseDatagram (bytes : List UInt8) : Except ManagerError (ℕ × List UInt8) := do
  let (quarterStreamID, cursor) ← ofCodec (QUICVarInt.read bytes)
  if QUICStreamState.offsetMax / 4 < quarterStreamID then
    .error (.valueOutOfRange
      "WebTransport datagram quarter stream ID overflows request stream ID")
  else
    let sessionID ← fromRequestStreamID (quarterStreamID * 4)
    .ok (sessionID, cursor)

/-- `wtApplicationErrorRange.lowerBound`. -/
def wtApplicationErrorFirst : ℕ := 0x52e4a40fa8db

/-- `mapApplicationErrorCode`. -/
def mapApplicationErrorCode (applicationErrorCode : ℕ) : Except ManagerError ℕ :=
  if 2 ^ 32 - 1 < applicationErrorCode then
    .error (.valueOutOfRange "WebTransport application error code exceeds UInt32")
  else .ok (wtApplicationErrorFirst + applicationErrorCode + applicationErrorCode / 0x1e)

/-- The frames that the end of a session yields. -/
def WebTransportSessionTerminationActions.frames (a : WebTransportSessionTerminationActions) :
    List QUICFrame :=
  a.connectFINFrame :: a.connectStopSendingFrame.toList ++ a.streamResetFrames ++
    a.streamStopSendingFrames

namespace WebTransportSessionManager

variable (env : ManagerEnv)

/-! ## Opening and accepting streams -/

/-- What must hold before a stream is opened, and its session. -/
def admitOwnStream (m : WebTransportSessionManager) (form : WebTransportStreamForm)
    (streamID sessionID : ℕ) : Except ManagerError WebTransportSession := do
  m.validateSettingsReady env
  let session ← m.writableSession sessionID
  m.validateStreamIdentity streamID form m.http3.role
  .ok session

/-- A stream of this connection. -/
def newStream (m : WebTransportSessionManager) (form : WebTransportStreamForm)
    (streamID sessionID : ℕ) : Except ManagerError WebTransportStreamState :=
  ofCodec (WebTransportStreamState.init streamID sessionID form m.http3.role
    env.maxStreamReceiveBufferBytes)

/-- `openBidirectionalStream` and `openUnidirectionalStream`. -/
def openStream (form : WebTransportStreamForm) (streamID sessionID : ℕ) :
    ManagerM (List UInt8) := do
  let session ← consult fun m => m.admitOwnStream env form streamID sessionID
  reserveStream env session.id form false
  let stream ← consult fun m => m.newStream env form streamID session.id
  modify fun m => m.register stream
  demand (ofCodec (serializeStreamPrefix form session.id))

/-- `WebTransportIncomingStreamResult`. -/
structure IncomingStreamResult where
  streamPrefix : Option WebTransportStreamPrefix
  rejectionFrame : Option QUICFrame
deriving DecidableEq, Repr

/-- The form as its error text names it. -/
def formName : WebTransportStreamForm → String
  | .bidirectional => "bidirectional"
  | .unidirectional => "unidirectional"

/-- What must hold before a stream is accepted, its prefix, and its session where that is
known. -/
def admitPeerStream (m : WebTransportSessionManager) (form : WebTransportStreamForm)
    (streamID : ℕ) (firstBytes : List UInt8) :
    Except ManagerError (WebTransportStreamPrefix × Option WebTransportSession) := do
  m.validateSettingsReady env
  m.validateStreamIdentity streamID form m.http3.role.peer
  let head ← parseStreamPrefix firstBytes
  if head.form ≠ form then
    .error (.malformed s!"invalid form for {formName form} stream accept")
  else
    let session ← m.sessionForIngressOrPending head.sessionID
    .ok (head, session)

/-- Whether streams are accepted for a session, not buffered. -/
def acceptsStreams (session : Option WebTransportSession) : Bool :=
  session.any fun session => session.state.IsWritable

/-- Count a stream that the peer opened with its first payload. -/
def reserveIncoming (accepts : Bool) (head : WebTransportStreamPrefix) : ManagerM Unit :=
  if accepts then do
    reserveStream env head.sessionID head.form true
    reserveData env head.sessionID head.remainingPayload.length true
  else pure ()

/-- `receiveInitialPayloadIfPresent`. -/
def receiveInitialPayload (payload : List UInt8) (stream : WebTransportStreamState)
    (buffering : Bool) : Except ManagerError WebTransportStreamState :=
  if payload = [] then .ok stream
  else match stream.receivePayload payload with
    | .ok stream => .ok stream
    | .error e =>
      if buffering then
        .error (.draft16 .bufferedStreamRejected
          "buffered WebTransport stream exceeds receive limit")
      else ofStreamState (.error e)

/-- Register a stream that was accepted, or let it wait. -/
def admitStream (accepts : Bool) (stream : WebTransportStreamState) : ManagerM Unit :=
  if accepts then modify fun m => m.register stream else buffer env stream

/-- Take an incoming stream, or refuse it when it cannot be buffered. -/
def takeStream (accepts : Bool) (head : WebTransportStreamPrefix)
    (stream : WebTransportStreamState) : ManagerM IncomingStreamResult :=
  tryCatch
    (do
      let stream ← demand (receiveInitialPayload head.remainingPayload stream !accepts)
      admitStream env accepts stream
      pure ⟨some head, none⟩)
    fun e =>
      if e.IsKind .bufferedStreamRejected then
        pure ⟨none, some (bufferedStreamRejectedFrame stream.streamID)⟩
      else throw e

/-- `acceptBidirectionalStreamWithActions` and `acceptUnidirectionalStreamWithActions`. -/
def acceptStreamWithActions (form : WebTransportStreamForm) (streamID : ℕ)
    (firstBytes : List UInt8) : ManagerM IncomingStreamResult := do
  let (head, session) ← consult fun m => m.admitPeerStream env form streamID firstBytes
  reserveIncoming env (acceptsStreams session) head
  let stream ← consult fun m => m.newStream env form streamID head.sessionID
  takeStream env (acceptsStreams session) head stream

/-- `acceptBidirectionalStream` and `acceptUnidirectionalStream`. -/
def acceptStream (form : WebTransportStreamForm) (streamID : ℕ) (firstBytes : List UInt8) :
    ManagerM WebTransportStreamPrefix := do
  match (← acceptStreamWithActions env form streamID firstBytes).streamPrefix with
  | some head => pure head
  | none =>
    throw (.draft16 .bufferedStreamRejected "buffered WebTransport stream exceeds receive limit")

/-! ## Payloads -/

/-- A stream that is live. -/
def liveStream (m : WebTransportSessionManager) (streamID : ℕ) :
    Except ManagerError WebTransportStreamState :=
  match m.streamsByID.get? streamID with
  | none => .error unknownStream
  | some stream => .ok stream

/-- The session of a stream that a payload arrives on (`payloadDeliverySessionID`). -/
def payloadDeliverySessionID (m : WebTransportSessionManager) (streamID : ℕ) :
    Except ManagerError ℕ :=
  match m.streamsByID.get? streamID with
  | some stream => do
    let _ ← m.sessionForIngress stream.sessionID
    .ok stream.sessionID
  | none =>
    match (m.closedStreamSessionIDsByStreamID.get? streamID).bind m.sessionsByID.get? with
    | none => .error unknownStream
    | some session =>
      match session.state with
      | .closed .. => .error sessionClosed
      | .rejected _ => .error sessionRejected
      | .requested | .accepted | .draining => .error unknownStream

/-- `receiveStreamPayload`. -/
def receiveStreamPayload (streamID : ℕ) (payload : List UInt8) : ManagerM Unit := do
  let sessionID ← consult fun m => m.payloadDeliverySessionID streamID
  reserveData env sessionID payload.length true
  let m ← get
  match m.streamsByID.get? streamID with
  | none => pure ()
  | some stream => do
    let stream ← demand (ofStreamState (stream.receivePayload payload))
    modify fun m => m.setStream streamID stream

/-- `receiveAndPopStreamPayload`. -/
def receiveAndPopStreamPayload (streamID : ℕ) (payload : List UInt8) : ManagerM (List UInt8) := do
  let sessionID ← consult fun m => m.payloadDeliverySessionID streamID
  reserveData env sessionID payload.length true
  let stream ← consult fun m => m.liveStream streamID
  let (delivered, stream) ←
    demand (ofStreamState (stream.receivePayloadDeliveringImmediately payload))
  modify fun m => m.setStream streamID stream
  pure delivered

/-- A live stream whose session may send. -/
def sendableStream (m : WebTransportSessionManager) (streamID : ℕ) :
    Except ManagerError WebTransportStreamState := do
  let stream ← m.liveStream streamID
  let _ ← m.writableSession stream.sessionID
  .ok stream

/-- `sendStreamPayload`. -/
def sendStreamPayload (streamID : ℕ) (payload : List UInt8) (fin : Bool) :
    ManagerM QUICFrame := do
  let stream ← consult fun m => m.sendableStream streamID
  reserveData env stream.sessionID payload.length false
  let (frame, stream) ← demand (ofStream (stream.sendPayload payload fin))
  modify fun m => m.setStream streamID stream
  pure frame

/-- `popStreamPayload`. -/
def popStreamPayload (streamID : ℕ) : ManagerM (Option (List UInt8)) := do
  let m ← get
  match m.streamsByID.get? streamID with
  | none => pure none
  | some stream => do
    modify fun m => m.setStream streamID stream.popPayload.2
    pure stream.popPayload.1

/-- A live stream, of which this endpoint owns a half. -/
def ownedStream (m : WebTransportSessionManager) (owns : WebTransportStreamState → Bool)
    (refusal : String) (streamID : ℕ) : Except ManagerError WebTransportStreamState := do
  let stream ← m.liveStream streamID
  if owns stream then .ok stream
  else .error (.stream (.streamStateViolation refusal))

/-- `resetStream`. -/
def resetStream (streamID applicationErrorCode : ℕ) : ManagerM QUICFrame := do
  let stream ← consult fun m => m.ownedStream (·.hasSendHalf)
    "cannot reset a stream half this endpoint does not own" streamID
  let code ← demand (mapApplicationErrorCode applicationErrorCode)
  modify fun m => m.setStream streamID (stream.reset code).2
  pure (stream.reset code).1

/-- `stopSendingStream`. -/
def stopSendingStream (streamID applicationErrorCode : ℕ) : ManagerM QUICFrame := do
  let stream ← consult fun m => m.ownedStream (·.hasReceiveHalf)
    "cannot stop a stream half this endpoint does not own" streamID
  let code ← demand (mapApplicationErrorCode applicationErrorCode)
  modify fun m => m.setStream streamID (stream.stopSending code).2
  pure (stream.stopSending code).1

/-! ## Datagrams -/

/-- `makeDatagramFrame`, which changes nothing. -/
def makeDatagramFrame (m : WebTransportSessionManager) (sessionID : ℕ) (payload : List UInt8) :
    Except ManagerError QUICFrame := do
  m.validateSettingsReady env
  let _ ← m.writableSession sessionID
  let datagramPayload ← ofCodec (serializeDatagram sessionID payload)
  if env.maxSendableDatagramFrameSize < datagramPayload.length then
    .error (.valueOutOfRange (s!"WebTransport datagram payload exceeds the sendable frame size " ++
      s!"of {env.maxSendableDatagramFrameSize}"))
  else .ok (.datagram datagramPayload)

/-- What must hold before a datagram is looked at, its session, where that is known, and its
payload. -/
def admitDatagram (m : WebTransportSessionManager) (frame : QUICFrame) :
    Except ManagerError (ℕ × Option WebTransportSession × List UInt8) := do
  m.validateSettingsReady env
  match frame with
  | .datagram payload =>
    if env.maxDatagramFrameSize < payload.length then
      .error (.valueOutOfRange (s!"WebTransport datagram payload exceeds maximum frame size " ++
        s!"of {env.maxDatagramFrameSize}"))
    else
      match parseDatagram payload with
      | .error _ => .error (.draft16 .h3ID "invalid WebTransport datagram session ID")
      | .ok (sessionID, payload) =>
        let session ← m.sessionForIngressOrPending sessionID
        .ok (sessionID, session, payload)
  | _ => .error (.malformed "expected DATAGRAM frame")

/-- What is counted of the datagrams that wait. -/
def datagramPayloadBytes (m : WebTransportSessionManager) (sessionID : ℕ) : ℕ :=
  (m.datagramPayloadBytesBySessionID.get? sessionID).getD 0

/-- Whether a datagram of a session is queued (`true`) or dropped. -/
def admitsDatagram (m : WebTransportSessionManager) (sessionID : ℕ)
    (session : Option WebTransportSession) (payload : List UInt8) : Except ManagerError Bool :=
  if env.maxDatagramReceiveBufferBytes <
      (m.datagramPayloadBytes sessionID + payload.length : ℕ) then
    if session.all fun session => session.state = .requested then .ok false
    else .error (.valueOutOfRange "WebTransport datagram receive buffer limit exceeded")
  else if acceptsStreams session then .ok true
  else do
    m.ensureCanBufferIngress env sessionID
    .ok ((m.datagrams sessionID).length < env.maxBufferedDatagramsPerSession)

/-- Queue a datagram. -/
def pushDatagram (m : WebTransportSessionManager) (sessionID : ℕ) (payload : List UInt8) :
    WebTransportSessionManager :=
  { m with
    datagramsBySessionID :=
      m.datagramsBySessionID.insert sessionID (m.datagrams sessionID ++ [payload])
    datagramPayloadBytesBySessionID := m.datagramPayloadBytesBySessionID.insert sessionID
      (m.datagramPayloadBytes sessionID + payload.length) }

/-- `receiveDatagramFrame`. -/
def receiveDatagramFrame (frame : QUICFrame) : ManagerM ℕ := do
  let (sessionID, session, payload) ← consult fun m => m.admitDatagram env frame
  let admits ← consult fun m => m.admitsDatagram env sessionID session payload
  if admits then do
    modify fun m => m.pushDatagram sessionID payload
    pure sessionID
  else pure sessionID

/-- The manager without the oldest datagram of a session. -/
def dropDatagram (m : WebTransportSessionManager) (sessionID : ℕ) (payload : List UInt8)
    (queue : List (List UInt8)) : WebTransportSessionManager :=
  { m with
    datagramsBySessionID := m.datagramsBySessionID.insert sessionID queue
    datagramPayloadBytesBySessionID := m.datagramPayloadBytesBySessionID.insert sessionID
      (m.datagramPayloadBytes sessionID - payload.length) }

/-- `popDatagramPayload`. -/
def popDatagramPayload (sessionID : ℕ) : ManagerM (Option (List UInt8)) := do
  let m ← get
  match m.datagrams sessionID with
  | [] => pure none
  | payload :: queue => do
    modify fun m => m.dropDatagram sessionID payload queue
    pure (some payload)

/-! ## Calls -/

/-- The frames that received capsules yield. -/
def ConnectStreamCapsuleResult.frames (r : ConnectStreamCapsuleResult) : List QUICFrame :=
  r.receivedCapsules.flatMap (fun received =>
      received.terminationActions.elim [] WebTransportSessionTerminationActions.frames) ++
    r.connectResetFrame.toList ++
    r.terminationActions.elim [] WebTransportSessionTerminationActions.frames

end WebTransportSessionManager

open WebTransportSessionManager

/-- The calls of the embedder. -/
inductive ManagerCall
  | makeGoawayFrame (streamID : ℕ)
  | makeClientSessionRequest (streamID : ℕ) (request : WebTransportSessionRequest)
      (isZeroRTT : Bool)
  | receiveServerSessionResponse (streamID : ℕ) (frame : HTTP3Frame)
  | receivePeerControlStream (bytes : List UInt8)
  | receiveClientSessionRequest (streamID : ℕ) (frame : HTTP3Frame)
      (policy : WebTransportServerSessionPolicy)
  | receiveControlFrame (frame : HTTP3Frame)
  | makeDrainSessionCapsule (sessionID : ℕ)
  | makeCloseSessionCapsule (sessionID applicationErrorCode : ℕ) (message : List UInt8)
  | finishConnectStream (streamID : ℕ)
  | receiveFlowControlCapsule (sessionID : ℕ) (bytes : List UInt8)
  | receiveConnectStreamCapsules (streamID : ℕ) (bytes : List UInt8)
  | receiveConnectStreamData (streamID : ℕ) (data : List UInt8)
  | popFlowControlCapsule (sessionID : ℕ)
  | openStream (form : WebTransportStreamForm) (streamID sessionID : ℕ)
  | acceptStreamWithActions (form : WebTransportStreamForm) (streamID : ℕ)
      (firstBytes : List UInt8)
  | acceptStream (form : WebTransportStreamForm) (streamID : ℕ) (firstBytes : List UInt8)
  | receiveStreamPayload (streamID : ℕ) (payload : List UInt8)
  | receiveAndPopStreamPayload (streamID : ℕ) (payload : List UInt8)
  | sendStreamPayload (streamID : ℕ) (payload : List UInt8) (fin : Bool)
  | popStreamPayload (streamID : ℕ)
  | resetStream (streamID applicationErrorCode : ℕ)
  | stopSendingStream (streamID applicationErrorCode : ℕ)
  | makeDatagramFrame (sessionID : ℕ) (payload : List UInt8)
  | receiveDatagramFrame (frame : QUICFrame)
  | popDatagramPayload (sessionID : ℕ)

/-- Make a call; it returns the frames that it yields. -/
def ManagerCall.perform (env : ManagerEnv) : ManagerCall → ManagerM (List QUICFrame)
  | makeGoawayFrame streamID => do
    let _ ← WebTransportSessionManager.makeGoawayFrame streamID
    pure []
  | makeClientSessionRequest streamID request isZeroRTT => do
    let _ ← WebTransportSessionManager.makeClientSessionRequest env streamID request isZeroRTT
    pure []
  | receiveServerSessionResponse streamID frame => do
    let _ ← WebTransportSessionManager.receiveServerSessionResponse env streamID frame
    pure []
  | receivePeerControlStream bytes => do
    let _ ← WebTransportSessionManager.receivePeerControlStream env bytes
    pure []
  | receiveClientSessionRequest streamID frame policy => do
    let _ ← WebTransportSessionManager.receiveClientSessionRequest env streamID frame policy
    pure []
  | receiveControlFrame frame => do
    WebTransportSessionManager.receiveControlFrame frame
    pure []
  | makeDrainSessionCapsule sessionID => do
    let _ ← WebTransportSessionManager.makeDrainSessionCapsule env sessionID
    pure []
  | makeCloseSessionCapsule sessionID applicationErrorCode message => do
    let r ← makeCloseSessionCapsuleResult env sessionID applicationErrorCode message
    pure r.2.frames
  | finishConnectStream streamID => do
    let actions ← WebTransportSessionManager.finishConnectStream env streamID
    pure actions.frames
  | receiveFlowControlCapsule sessionID bytes => do
    let received ← receiveFlowControlCapsuleWithActions env sessionID bytes
    pure (received.terminationActions.elim [] WebTransportSessionTerminationActions.frames)
  | receiveConnectStreamCapsules streamID bytes => do
    let r ← receiveConnectStreamCapsulesWithActions env streamID bytes
    pure r.frames
  | receiveConnectStreamData streamID data => do
    let frame ← WebTransportSessionManager.receiveConnectStreamData env streamID data
    pure frame.toList
  | popFlowControlCapsule sessionID => do
    let _ ← WebTransportSessionManager.popFlowControlCapsule sessionID
    pure []
  | openStream form streamID sessionID => do
    let _ ← WebTransportSessionManager.openStream env form streamID sessionID
    pure []
  | acceptStreamWithActions form streamID firstBytes => do
    let r ← WebTransportSessionManager.acceptStreamWithActions env form streamID firstBytes
    pure r.rejectionFrame.toList
  | acceptStream form streamID firstBytes => do
    let _ ← WebTransportSessionManager.acceptStream env form streamID firstBytes
    pure []
  | receiveStreamPayload streamID payload => do
    WebTransportSessionManager.receiveStreamPayload env streamID payload
    pure []
  | receiveAndPopStreamPayload streamID payload => do
    let _ ← WebTransportSessionManager.receiveAndPopStreamPayload env streamID payload
    pure []
  | sendStreamPayload streamID payload fin => do
    let frame ← WebTransportSessionManager.sendStreamPayload env streamID payload fin
    pure [frame]
  | popStreamPayload streamID => do
    let _ ← WebTransportSessionManager.popStreamPayload streamID
    pure []
  | resetStream streamID applicationErrorCode => do
    let frame ← WebTransportSessionManager.resetStream streamID applicationErrorCode
    pure [frame]
  | stopSendingStream streamID applicationErrorCode => do
    let frame ← WebTransportSessionManager.stopSendingStream streamID applicationErrorCode
    pure [frame]
  | makeDatagramFrame sessionID payload => do
    let frame ← consult fun m =>
      WebTransportSessionManager.makeDatagramFrame env m sessionID payload
    pure [frame]
  | receiveDatagramFrame frame => do
    let _ ← WebTransportSessionManager.receiveDatagramFrame env frame
    pure []
  | popDatagramPayload sessionID => do
    let _ ← WebTransportSessionManager.popDatagramPayload sessionID
    pure []

/-- A manager on a connection, before any call. -/
def WebTransportSessionManager.start (http3 : HTTP3ConnectionState) :
    WebTransportSessionManager where
  http3 := http3

/-! ## A manager to compute with -/

/-- The fields of a CONNECT request. -/
def connectFields : List HTTPFieldLine :=
  [⟨":method", "CONNECT"⟩, ⟨":scheme", "https"⟩, ⟨":authority", "a"⟩, ⟨":path", "/"⟩,
    ⟨":protocol", "webtransport-h3"⟩]

/-- A request and two responses, as QPACK without a dynamic table has them. -/
def connectSections : List (List HTTPFieldLine × List UInt8) :=
  [(connectFields,
      [0x00, 0x00, 0xcf, 0xd7, 0x50, 0x01, 0x61, 0xc1, 0x27, 0x02, 0x3a, 0x70, 0x72, 0x6f, 0x74,
        0x6f, 0x63, 0x6f, 0x6c, 0x0f, 0x77, 0x65, 0x62, 0x74, 0x72, 0x61, 0x6e, 0x73, 0x70, 0x6f,
        0x72, 0x74, 0x2d, 0x68, 0x33]),
    ([⟨":status", "200"⟩], [0x00, 0x00, 0xd9]),
    ([⟨":status", "404"⟩], [0x00, 0x00, 0xdb])]

/-- A check of the fields of a message, for the messages that are known here. -/
def requireFields (expected fields : List HTTPFieldLine) : Except ManagerError Unit :=
  if fields = expected then .ok ()
  else .error (.malformed "missing or invalid WebTransport HTTP/3 pseudo-header")

/-- What a manager is given where only these messages are sent and received. -/
def connectEnv : ManagerEnv where
  decodeHeadersFrame frame :=
    match connectSections.find? fun section' => section'.2 = frame.payload with
    | some section' => .ok section'.1
    | none => .error (.malformed "unsupported QPACK field-line representation")
  headersFrame fields :=
    match connectSections.find? fun section' => section'.1 = fields with
    | some section' => .ok ⟨HTTP3FrameType.headers, section'.2⟩
    | none => .error (.malformed "HTTP field name must not be empty")
  validateConnectRequest fields _ := requireFields connectFields fields
  validateSuccessfulResponse := requireFields [⟨":status", "200"⟩]
  requestHeaders _ _ := .ok connectFields
  request fields _ := do
    requireFields connectFields fields
    .ok ⟨"a", "/", none, []⟩
  status fields := .ok (if fields = [⟨":status", "200"⟩] then 200 else 404)
  selectedProtocol _ := .ok none
  validateProtocols _ := .ok ()
  selectProtocol _ _ := .ok none
  responseFrame status _ :=
    .ok ⟨HTTP3FrameType.headers, if status = 200 then [0x00, 0x00, 0xd9] else [0x00, 0x00, 0xdb]⟩
  enumerate ids := ⟨ids.keys, List.Perm.refl _⟩
  settingsValidation := .draft16Strict
  maxDatagramFrameSize := 65535
  maxSendableDatagramFrameSize := 65535
  maxDatagramReceiveBufferBytes := 65535
  maxStreamReceiveBufferBytes := 65535
  maxBufferedStreamsPerSession := 4
  maxBufferedDatagramsPerSession := 4
  maxBufferedSessions := 4
  maxRetainedClosedSessions := 4
  maxRetainedClosedStreams := 4

/-- The settings that the draft requires. -/
def draftSettings : HTTP3Settings :=
  ((∅ : HTTP3Settings).insert HTTP3SettingID.enableConnectProtocol 1
    |>.insert HTTP3SettingID.h3Datagram 1).insert HTTP3SettingID.wtEnabled 1

/-- The control stream of a peer with these settings. -/
def draftControlStream : List UInt8 :=
  [0x00, 0x04, 0x09, 0x08, 0x01, 0x33, 0x01, 0xac, 0x7c, 0xf0, 0x00, 0x01]

/-- The request of a client. -/
def connectRequest : WebTransportSessionRequest := ⟨"a", "/", none, []⟩

/-- The answer of a server, accepting or not. -/
def connectResponse (accepts : Bool) : HTTP3Frame :=
  ⟨HTTP3FrameType.headers, [0x00, 0x00, if accepts then 0xd9 else 0xdb]⟩

/-- The manager of an endpoint with the settings of the draft, before any call. -/
def draftManager (role : HTTP3ConnectionRole) : WebTransportSessionManager :=
  .start { role := role, localSettings := draftSettings }

end WebTransport
