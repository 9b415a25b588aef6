import WebTransport.Swift.SessionManager

/-!
# The operations of the session manager

The public operations of `WebTransportSessionManager` on sessions, on the capsules of their CONNECT
streams and on GOAWAY.
-/

namespace WebTransport

open Throwing

namespace WebTransportSessionManager

variable (env : ManagerEnv)

/-! ## Sessions -/

/-- `makeGoawayFrame`. -/
def makeGoawayFrame (streamID : ℕ) : ManagerM HTTP3Frame := do
  modify fun m => { m with http3 := m.http3.noteGoaway streamID }
  demand (ofCodec (HTTP3Frame.ofVarInt HTTP3FrameType.goaway streamID))

/-- A new request stream of the connection. -/
def newRequestStream (new : HTTP3ConnectionState → ℕ →
      Except ManagerError (HTTP3RequestStream × HTTP3ConnectionState)) (streamID : ℕ) :
    ManagerM HTTP3RequestStream := do
  let (stream, http3) ← consult fun m => new m.http3 streamID
  modify fun m => { m with http3 := http3 }
  pure stream

/-- Replace a request stream of the connection. -/
def storeRequestStream (stream : HTTP3RequestStream) : ManagerM Unit :=
  modify fun m => { m with http3 := m.http3.storeRequestStream stream }

/-- What must hold before a session is requested, by either side. -/
def validateNewSession (m : WebTransportSessionManager) (streamID : ℕ) : Except ManagerError ℕ := do
  m.validateRequestAllowedByGoaway streamID
  let sessionID ← fromRequestStreamID streamID
  if (m.sessionsByID.get? sessionID).isSome then
    .error (.malformed "WebTransport session already exists")
  else
    m.validateSessionAdmission
    .ok sessionID

/-- What must hold before `makeClientSessionRequest` asks for a session. -/
def validateOwnSessionRequest (m : WebTransportSessionManager) (streamID : ℕ) (isZeroRTT : Bool) :
    Except ManagerError ℕ :=
  if m.http3.role ≠ .client then
    .error (.malformed "only clients create WebTransport CONNECT requests")
  else do
    m.validateSettingsReady env
    if isZeroRTT then
      .error (.draft16 .requirementsNotMet
        "WebTransport CONNECT requests are not allowed on 0-RTT")
    else m.validateNewSession streamID

/-- `makeClientSessionRequest`. -/
def makeClientSessionRequest (streamID : ℕ) (request : WebTransportSessionRequest)
    (isZeroRTT : Bool) : ManagerM HTTP3Frame := do
  let sessionID ← consult fun m => m.validateOwnSessionRequest env streamID isZeroRTT
  let requestStream ← newRequestStream (·.openRequestStream) streamID
  let fields ← demand (env.requestHeaders request env.settingsValidation.upgradeToken)
  let (frame, requestStream) ← demand (requestStream.makeRequestHeadersFrame env.toFieldSections
    fields env.settingsValidation.acceptedUpgradeTokens)
  storeRequestStream requestStream
  modify fun m => m.store
    { request with
      id := sessionID
      requestStreamID := streamID
      selectedProtocol := none
      state := .requested }
  pure frame

/-- The protocol that a response selects, which must be one that was offered. -/
def selectedProtocolOf (session : WebTransportSession) (fields : List HTTPFieldLine) :
    Except ManagerError (Option String) := do
  match ← env.selectedProtocol fields with
  | none => .ok none
  | some selected =>
    env.validateProtocols [selected]
    if selected ∈ session.availableProtocols then .ok (some selected)
    else
      .error (.draft16 .alpn
        "server selected a WebTransport protocol the client did not offer")

/-- The session and its request stream after a response, before they are stored. -/
def answeredSession (m : WebTransportSessionManager) (streamID : ℕ) (frame : HTTP3Frame) :
    Except ManagerError (WebTransportSession × HTTP3RequestStream) :=
  if m.http3.role ≠ .client then
    .error (.malformed "only clients receive WebTransport CONNECT responses")
  else do
    m.validateSettingsReady env
    let sessionID ← fromRequestStreamID streamID
    match m.sessionsByID.get? sessionID with
    | none => .error (.malformed "unknown WebTransport session")
    | some session =>
      let requestStream := (m.http3.requestStreams.get? streamID).getD ⟨streamID, .client, .idle⟩
      let fields ← env.decodeHeadersFrame frame
      let status ← env.status fields
      if 200 ≤ status ∧ status < 300 then
        env.validateSuccessfulResponse fields
        let selected ← selectedProtocolOf env session fields
        -- The stream takes the draft's token only, whatever the manager accepts.
        let requestStream ← requestStream.receive env.toFieldSections frame ["webtransport-h3"]
        .ok ({ session with selectedProtocol := selected, state := .accepted }, requestStream)
      else .ok ({ session with state := .rejected status }, requestStream)

/-- Store a session whose request was answered, and do with what waits for it as the answer
says. -/
def settle (session : WebTransportSession) : ManagerM Unit := do
  modify fun m => m.store session
  if session.state = .accepted then promoteBufferedStreams env session.id
  else
    modify fun m =>
      (m.discardBufferedIngress env session.id).recordClosedSession env session.id

/-- `receiveServerSessionResponse`. -/
def receiveServerSessionResponse (streamID : ℕ) (frame : HTTP3Frame) :
    ManagerM WebTransportSession := do
  let (session, requestStream) ← consult fun m => m.answeredSession env streamID frame
  storeRequestStream requestStream
  settle env session
  pure session

/-- `receivePeerControlStream`. -/
def receivePeerControlStream (bytes : List UInt8) : ManagerM (List HTTP3Frame) := do
  let (frames, http3) ←
    consult fun m => m.http3.receivePeerControlStream bytes env.settingsValidation
  modify fun m => { m with http3 := http3 }
  pure frames

/-- Why a server rejects a request (`rejection`). -/
def rejection (request : WebTransportSessionRequest) (selectedProtocol : Option String)
    (policy : WebTransportServerSessionPolicy) : Option (ℕ × ManagerError) :=
  if policy.allowedAuthorities.any (request.authority ∉ ·) then
    some (405, .draft16 .requirementsNotMet "WebTransport authority is not allowed")
  else if policy.allowedPaths.any (request.path ∉ ·) then
    some (405, .draft16 .requirementsNotMet "WebTransport path is not allowed")
  else if policy.allowedOrigins.any fun origins => request.origin.all (· ∉ origins) then
    some (403, .draft16 .requirementsNotMet "WebTransport origin is not allowed")
  else if policy.requireProtocolSelection ∧ selectedProtocol = none then
    some (400, .draft16 .requirementsNotMet "WebTransport protocol selection is required")
  else none

/-- What a server answers to a request (`WebTransportServerSessionDecision`). -/
structure WebTransportServerSessionDecision where
  session : WebTransportSession
  responseFrame : HTTP3Frame
  rejectionError : Option ManagerError

/-- What must hold before a request is looked at (`validateClientSessionRequest`). -/
def validateClientSessionRequest (m : WebTransportSessionManager) (streamID : ℕ)
    (frame : HTTP3Frame) : Except ManagerError ℕ :=
  if m.http3.role ≠ .server then
    .error (.malformed "only servers receive WebTransport CONNECT requests")
  else do
    m.validateSettingsReady env
    let sessionID ← m.validateNewSession streamID
    if frame.type = HTTP3FrameType.headers then .ok sessionID
    else
      .error (.draft16 .requirementsNotMet "WebTransport CONNECT stream must start with HEADERS")

/-- The answer to the request of a frame. -/
def decideRequest (sessionID streamID : ℕ) (frame : HTTP3Frame)
    (policy : WebTransportServerSessionPolicy) :
    Except ManagerError WebTransportServerSessionDecision := do
  let fields ← env.decodeHeadersFrame frame
  let request ← env.request fields env.settingsValidation.acceptedUpgradeTokens
  let selectedProtocol ← env.selectProtocol request.availableProtocols policy
  let refused := rejection request selectedProtocol policy
  let responseFrame ← match refused with
    | some (status, _) => env.responseFrame status none
    | none => env.responseFrame 200 selectedProtocol
  .ok {
    session := { request with
      id := sessionID
      requestStreamID := streamID
      selectedProtocol := selectedProtocol
      state := refused.elim .accepted fun r => .rejected r.1 }
    responseFrame := responseFrame
    rejectionError := refused.map Prod.snd }

/-- `receiveClientSessionRequest`. -/
def receiveClientSessionRequest (streamID : ℕ) (frame : HTTP3Frame)
    (policy : WebTransportServerSessionPolicy) : ManagerM WebTransportServerSessionDecision := do
  let sessionID ← consult fun m => m.validateClientSessionRequest env streamID frame
  let requestStream ← newRequestStream (·.acceptRequestStream) streamID
  let requestStream ← demand (requestStream.receive env.toFieldSections frame
    env.settingsValidation.acceptedUpgradeTokens)
  storeRequestStream requestStream
  let decision ← demand (decideRequest env sessionID streamID frame policy)
  settle env decision.session
  pure decision

/-- Let every accepted session drain. -/
def drainSessions (m : WebTransportSessionManager) : WebTransportSessionManager :=
  { m with
    sessionsByID := m.sessionsByID.mapValues fun session =>
      if session.state = .accepted then { session with state := .draining } else session }

/-- `receiveControlFrame`. -/
def receiveControlFrame (frame : HTTP3Frame) : ManagerM Unit := do
  let http3 ← consult fun m => m.http3.receiveControlFrame frame
  modify fun m => { m with http3 := http3 }
  if frame.type = HTTP3FrameType.goaway then modify drainSessions else pure ()

/-- The session that a capsule is made for. -/
def lookupSession (m : WebTransportSessionManager) (sessionID : ℕ) :
    Except ManagerError WebTransportSession := do
  m.validateSettingsReady env
  match m.sessionsByID.get? sessionID with
  | none => .error unknownSession
  | some session => .ok session

/-- `makeDrainSessionCapsule`. -/
def makeDrainSessionCapsule (sessionID : ℕ) : ManagerM (List UInt8) := do
  let session ← consult fun m => m.lookupSession env sessionID
  match session.state with
  | .closed .. => demand (ofCodec (WebTransportFlowCapsule.drainSession.serialize))
  | .rejected _ => throw sessionRejected
  | .requested => throw (.malformed "WT_DRAIN_SESSION requires an established session")
  | .accepted | .draining => do
    markSessionDraining sessionID
    demand (ofCodec (WebTransportFlowCapsule.drainSession.serialize))

/-- `makeCloseSessionCapsuleResult`: the bytes of the capsule and what has to be sent. -/
def makeCloseSessionCapsuleResult (sessionID applicationErrorCode : ℕ) (message : List UInt8) :
    ManagerM (List UInt8 × WebTransportSessionTerminationActions) := do
  let session ← consult fun m => m.lookupSession env sessionID
  let capsuleBytes ← demand (ofCodec
    (WebTransportFlowCapsule.closeSession applicationErrorCode message).serialize)
  match session.state with
  | .closed .. =>
    pure (capsuleBytes, ⟨.stream session.requestStreamID none true [], none, [], []⟩)
  | .rejected _ => throw sessionRejected
  | .requested | .accepted | .draining => do
    let actions ← markSessionClosed env sessionID applicationErrorCode message false
    pure (capsuleBytes, actions)

/-- The session of a CONNECT stream. -/
def connectSession (m : WebTransportSessionManager) (streamID : ℕ) : Except ManagerError ℕ :=
  match m.sessionIDsByRequestStreamID.get? streamID with
  | none => .error (.draft16 .h3ID "unknown WebTransport CONNECT stream")
  | some sessionID => .ok sessionID

/-- `finishConnectStream`. -/
def finishConnectStream (streamID : ℕ) : ManagerM WebTransportSessionTerminationActions := do
  let sessionID ← consult fun m => m.connectSession streamID
  markSessionClosed env sessionID 0 [] false

/-! ## Capsules -/

/-- A capsule that was received (`WebTransportReceivedFlowControlCapsule`). -/
structure ReceivedFlowControlCapsule where
  capsule : WebTransportFlowCapsule
  terminationActions : Option WebTransportSessionTerminationActions

/-- What a capsule does to its session. -/
def enactCapsule (sessionID : ℕ) :
    WebTransportFlowCapsule → ManagerM (Option WebTransportSessionTerminationActions)
  | .drainSession => do
    markSessionDraining sessionID
    pure none
  | .closeSession applicationErrorCode message => do
    let actions ← markSessionClosed env sessionID applicationErrorCode message true
    pure (some actions)
  | _ => pure none

/-- What must hold before a capsule is looked at, and its type. -/
def admitCapsule (m : WebTransportSessionManager) (sessionID : ℕ) (bytes : List UInt8) :
    Except ManagerError ℕ := do
  m.validateSettingsReady env
  let _ ← m.sessionForIngress sessionID
  let (type, _) ← ofCodec (QUICVarInt.read bytes)
  .ok type

/-- A capsule that is not ignored. -/
def takeCapsule (sessionID : ℕ) (bytes : List UInt8) : ManagerM ReceivedFlowControlCapsule := do
  let parsed ← closingOnFlowControl env sessionID (demand (WebTransportFlowCapsule.parse bytes))
  let actions ← enactCapsule env sessionID parsed.capsule
  let state ← closingOnFlowControl env sessionID
    (consult fun m => (m.credit false sessionID).apply parsed.capsule)
  modify fun m => m.setCredit false sessionID state
  pure ⟨parsed.capsule, actions⟩

/-- `receiveFlowControlCapsuleWithActions`. -/
def receiveFlowControlCapsuleWithActions (sessionID : ℕ) (bytes : List UInt8) :
    ManagerM ReceivedFlowControlCapsule := do
  let capsuleType ← consult fun m => m.admitCapsule env sessionID bytes
  let m ← get
  if !m.webTransportFlowControlNegotiated ∧
      capsuleType ∈ WebTransportFlowCapsule.flowControlTypes then do
    let ignored ← demand (ofCodec (WebTransportFlowCapsule.ignoredEnvelope bytes))
    pure ⟨ignored.capsule, none⟩
  else takeCapsule env sessionID bytes

/-- What the capsules of a CONNECT stream led to (`WebTransportConnectStreamCapsuleResult`). -/
structure ConnectStreamCapsuleResult where
  receivedCapsules : List ReceivedFlowControlCapsule
  connectResetFrame : Option QUICFrame
  terminationActions : Option WebTransportSessionTerminationActions

/-- The first capsule of a CONNECT stream, and how many bytes it took. -/
def firstCapsule (sessionID : ℕ) (remaining : List UInt8) :
    ManagerM (ReceivedFlowControlCapsule × ℕ) := do
  let parsed ← demand (WebTransportFlowCapsule.parse remaining)
  let result ← receiveFlowControlCapsuleWithActions env sessionID
    (remaining.take parsed.bytesConsumed)
  pure (result, parsed.bytesConsumed)

/-- The first capsule, `none` when it is a close that cannot be read. -/
def nextCapsule (sessionID : ℕ) (remaining : List UInt8) :
    ManagerM (Option (ReceivedFlowControlCapsule × ℕ)) := do
  let (capsuleType, _) ← demand (ofCodec (QUICVarInt.read remaining))
  tryCatch (some <$> firstCapsule env sessionID remaining) fun e =>
    if e.IsKind .flowControl then do
      closeForFlowControlViolation env sessionID
      throw e
    else if capsuleType = WebTransportFlowCapsule.wtCloseSession then pure none
    else throw e

/-- A close that cannot be read still closes its session (`handleCloseSessionCapsule`). -/
def handleCloseSessionCapsule (streamID sessionID : ℕ)
    (received : List ReceivedFlowControlCapsule)
    (actions : Option WebTransportSessionTerminationActions) :
    ManagerM ConnectStreamCapsuleResult := do
  let m ← get
  if (m.sessionsByID.get? sessionID).any fun session =>
      match session.state with
      | .closed .. => true
      | _ => false
  then pure ⟨received, some (connectMessageErrorReset streamID), actions⟩
  else do
    let actions ← tryCatch (some <$> markSessionClosed env sessionID 0 [] false)
      fun _ => pure none
    pure ⟨received, some (connectMessageErrorReset streamID), actions⟩

/-- The loop over the capsules of a CONNECT stream. Each takes bytes, so that as many rounds as
there are bytes are enough. -/
def connectCapsules (streamID sessionID : ℕ) :
    ℕ → List UInt8 → List ReceivedFlowControlCapsule →
      Option WebTransportSessionTerminationActions → ManagerM ConnectStreamCapsuleResult
  | 0, _, received, actions => pure ⟨received, none, actions⟩
  | rounds + 1, remaining, received, actions =>
    if remaining = [] then pure ⟨received, none, actions⟩
    else do
      let m ← get
      if streamID ∈ m.closedRequestStreamIDs then
        pure ⟨received, some (connectMessageErrorReset streamID), actions⟩
      else do
        match ← nextCapsule env sessionID remaining with
        | none => handleCloseSessionCapsule env streamID sessionID received actions
        | some (result, consumed) =>
          connectCapsules streamID sessionID rounds (remaining.drop consumed)
            (received ++ [result]) (result.terminationActions.or actions)

/-- `receiveConnectStreamCapsulesWithActions`. -/
def receiveConnectStreamCapsulesWithActions (streamID : ℕ) (bytes : List UInt8) :
    ManagerM ConnectStreamCapsuleResult := do
  let sessionID ← consult fun m => m.connectSession streamID
  connectCapsules env streamID sessionID bytes.length bytes [] none

/-- `receiveConnectStreamData`. -/
def receiveConnectStreamData (streamID : ℕ) (data : List UInt8) : ManagerM (Option QUICFrame) :=
  if data = [] then pure none
  else do
    let result ← receiveConnectStreamCapsulesWithActions env streamID data
    pure result.connectResetFrame

/-- `popFlowControlCapsule`. -/
def popFlowControlCapsule (sessionID : ℕ) : ManagerM (Option (List UInt8)) := do
  let m ← get
  match (m.blockedFlowCapsulesBySessionID.get? sessionID).getD [] with
  | [] => pure none
  | capsule :: queue => do
    modify fun m => { m with
      blockedFlowCapsulesBySessionID := m.blockedFlowCapsulesBySessionID.insert sessionID queue }
    let bytes ← demand (ofCodec capsule.serialize)
    pure (some bytes)

end WebTransportSessionManager

end WebTransport
