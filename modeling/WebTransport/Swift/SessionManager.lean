import WebTransport.Lib.Throwing
import WebTransport.Swift.FlowCapsules

/-!
# The session manager of the Swift endpoint

The sessions of a connection with their streams, datagrams and credit
(`WebTransportSessionManager`): the state, the checks, and what the operations are made of. An
operation that throws keeps what it changed before, so that operations are programs that throw. A
set is a dictionary without values, which gives its members in order.
-/

namespace WebTransport

open Throwing

/-! ## Sessions -/

/-- The states of a session (`WebTransportSessionState`). -/
inductive WebTransportSessionState
  | requested
  | accepted
  | draining
  | closed (applicationErrorCode : ℕ) (message : List UInt8)
  | rejected (status : ℕ)
deriving DecidableEq, Repr

namespace WebTransportSessionState

/-- Whether streams may be opened and data sent. -/
def IsWritable : WebTransportSessionState → Prop
  | accepted | draining => True
  | _ => False

/-- Whether the session has not ended. -/
def IsLive : WebTransportSessionState → Prop
  | requested | accepted | draining => True
  | _ => False

instance : DecidablePred IsWritable := fun s => by
  unfold IsWritable
  split <;> infer_instance

instance : DecidablePred IsLive := fun s => by
  unfold IsLive
  split <;> infer_instance

end WebTransportSessionState

/-- A request for a session (`WebTransportSessionRequest`). -/
structure WebTransportSessionRequest where
  authority : String
  path : String
  origin : Option String
  availableProtocols : List String
deriving DecidableEq, Repr

/-- A session (`WebTransportSession`); its ID is the number of its request stream. -/
structure WebTransportSession extends WebTransportSessionRequest where
  id : ℕ
  requestStreamID : ℕ
  selectedProtocol : Option String
  state : WebTransportSessionState
deriving DecidableEq, Repr

/-- The session ID of a request stream (`fromRequestStreamID`). -/
def fromRequestStreamID (streamID : ℕ) : Except ManagerError ℕ :=
  if QUICStreamID.direction streamID ≠ .bidirectional ∨ QUICStreamID.initiator streamID ≠ .client
  then
    .error (.malformed
      "WebTransport session ID must be a client-initiated bidirectional request stream ID")
  else .ok streamID

/-- What a server accepts (`WebTransportServerSessionPolicy`). -/
structure WebTransportServerSessionPolicy where
  allowedAuthorities : Option (List String) := none
  allowedPaths : Option (List String) := none
  allowedOrigins : Option (List String) := none
  supportedProtocols : List String := []
  requireProtocolSelection : Bool := false
deriving DecidableEq, Repr

/-- What has to be sent when a session ends (`WebTransportSessionTerminationActions`). -/
structure WebTransportSessionTerminationActions where
  connectFINFrame : QUICFrame
  connectStopSendingFrame : Option QUICFrame
  streamResetFrames : List QUICFrame
  streamStopSendingFrames : List QUICFrame
deriving DecidableEq, Repr

/-! ## The state -/

/-- A set of stream IDs. -/
abbrev StreamIDSet : Type := Dictionary ℕ Unit

/-- The manager (`WebTransportSessionManager`), without its limits and its cost probe. The last
field observes the sessions whose state was released. -/
structure WebTransportSessionManager where
  http3 : HTTP3ConnectionState
  sessionsByID : Dictionary ℕ WebTransportSession := ∅
  sessionIDsByRequestStreamID : Dictionary ℕ ℕ := ∅
  streamsByID : Dictionary ℕ WebTransportStreamState := ∅
  streamIDsBySessionID : Dictionary ℕ StreamIDSet := ∅
  bufferedStreamsByID : Dictionary ℕ WebTransportStreamState := ∅
  bufferedStreamIDsBySessionID : Dictionary ℕ StreamIDSet := ∅
  datagramsBySessionID : Dictionary ℕ (List (List UInt8)) := ∅
  flowControlStateBySessionID : Dictionary ℕ WebTransportFlowControlState := ∅
  receiveFlowControlStateBySessionID : Dictionary ℕ WebTransportFlowControlState := ∅
  blockedFlowCapsulesBySessionID : Dictionary ℕ (List WebTransportFlowCapsule) := ∅
  datagramPayloadBytesBySessionID : Dictionary ℕ ℕ := ∅
  closedStreamSessionIDsByStreamID : Dictionary ℕ ℕ := ∅
  closedRequestStreamIDs : Finset ℕ := ∅
  closedSessionOrder : List ℕ := []
  closedStreamOrder : List ℕ := []
  closedStreamHead : ℕ := 0
  retainedClosedStreamIDs : Finset ℕ := ∅
  released : List WebTransportSession := []

/-- What a manager is given once: its limits, the fields of CONNECT messages, and the order in
which a set is gone through, which is not specified. -/
structure ManagerEnv extends FieldSections where
  requestHeaders : WebTransportSessionRequest → String → Except ManagerError (List HTTPFieldLine)
  request : List HTTPFieldLine → List String → Except ManagerError WebTransportSessionRequest
  status : List HTTPFieldLine → Except ManagerError ℕ
  selectedProtocol : List HTTPFieldLine → Except ManagerError (Option String)
  validateProtocols : List String → Except ManagerError Unit
  selectProtocol : List String → WebTransportServerSessionPolicy →
    Except ManagerError (Option String)
  responseFrame : ℕ → Option String → Except ManagerError HTTP3Frame
  enumerate : ∀ ids : StreamIDSet, {l : List ℕ // l.Perm ids.keys}
  settingsValidation : HTTP3WebTransportSettingsValidation
  maxDatagramFrameSize : ℤ
  maxSendableDatagramFrameSize : ℤ
  maxDatagramReceiveBufferBytes : ℤ
  maxStreamReceiveBufferBytes : ℤ
  maxBufferedStreamsPerSession : ℤ
  maxBufferedDatagramsPerSession : ℤ
  maxBufferedSessions : ℤ
  maxRetainedClosedSessions : ℕ
  maxRetainedClosedStreams : ℕ

/-- A program of the manager. -/
abbrev ManagerM : Type → Type := EStateM ManagerError WebTransportSessionManager

/-- `wtSessionGoneError`. -/
def wtSessionGoneError : ℕ := 0x170d7b68

/-- `wtFlowControlError`. -/
def wtFlowControlError : ℕ := 0x045d4487

/-- `wtBufferedStreamRejectedError`. -/
def wtBufferedStreamRejectedError : ℕ := 0x3994bd84

/-- `HTTP3ApplicationErrorCode.messageError`. -/
def http3MessageError : ℕ := 0x10e

/-- The frame that refuses a stream that cannot be buffered (`bufferedStreamRejectedFrame`). -/
def bufferedStreamRejectedFrame (streamID : ℕ) : QUICFrame :=
  .resetStreamAt streamID wtBufferedStreamRejectedError 0 0

/-- The frame that resets a CONNECT stream (`connectMessageErrorReset`). -/
def connectMessageErrorReset (streamID : ℕ) : QUICFrame :=
  .resetStream streamID http3MessageError 0

namespace WebTransportSessionManager

variable (env : ManagerEnv) (m : WebTransportSessionManager)

/-! ## Lookups and checks -/

def unknownSession : ManagerError := .draft16 .h3ID "unknown WebTransport session"
def sessionClosed : ManagerError := .draft16 .sessionGone "WebTransport session is closed"
def sessionRejected : ManagerError := .draft16 .sessionGone "WebTransport session was rejected"
def unknownStream : ManagerError := .malformed "unknown WebTransport stream"

/-- A session that may send (`writableSession`). -/
def writableSession (sessionID : ℕ) : Except ManagerError WebTransportSession :=
  match m.sessionsByID.get? sessionID with
  | none => .error unknownSession
  | some session =>
    match session.state with
    | .accepted | .draining => .ok session
    | .closed .. => .error sessionClosed
    | .rejected _ => .error sessionRejected
    | .requested => .error (.malformed "WebTransport session is not accepted")

/-- A session that has not ended (`sessionForIngress`). -/
def sessionForIngress (sessionID : ℕ) : Except ManagerError WebTransportSession :=
  match m.sessionsByID.get? sessionID with
  | none => .error unknownSession
  | some session =>
    match session.state with
    | .requested | .accepted | .draining => .ok session
    | .closed .. => .error sessionClosed
    | .rejected _ => .error sessionRejected

/-- The same, where a server may not know the session yet (`sessionForIngressOrPending`). -/
def sessionForIngressOrPending (sessionID : ℕ) :
    Except ManagerError (Option WebTransportSession) :=
  match m.sessionsByID.get? sessionID with
  | none => if m.http3.role = .server then .ok none else .error unknownSession
  | some _ => some <$> m.sessionForIngress sessionID

/-- `validateSettingsReady`. -/
def validateSettingsReady : Except ManagerError Unit := do
  env.settingsValidation.validate m.http3.localSettings none
  match m.http3.remoteSettings with
  | none =>
    .error (.malformed
      "peer HTTP/3 SETTINGS are required before WebTransport session establishment")
  | some remoteSettings =>
    env.settingsValidation.validate remoteSettings (some m.http3.role.peer)

/-- `webTransportFlowControlNegotiated`. -/
def webTransportFlowControlNegotiated : Bool :=
  match m.http3.remoteSettings with
  | none => false
  | some remoteSettings =>
    m.http3.localSettings.flowControlEnabled && remoteSettings.flowControlEnabled

/-- `validateSessionAdmission`. -/
def validateSessionAdmission : Except ManagerError Unit :=
  if m.webTransportFlowControlNegotiated then .ok ()
  else if m.sessionsByID.entries.all fun e => ¬e.2.state.IsLive then .ok ()
  else
    .error (.draft16 (if m.http3.role = .server then .requestRejected else .requirementsNotMet)
      "multiple simultaneous WebTransport sessions require WebTransport flow control")

/-- `validateRequestAllowedByGoaway`. -/
def validateRequestAllowedByGoaway (streamID : ℕ) : Except ManagerError Unit :=
  match m.http3.receivedGoawayID with
  | none => .ok ()
  | some goawayID =>
    if streamID < goawayID then .ok ()
    else .error (.draft16 .sessionGone "new WebTransport session is blocked by GOAWAY")

/-- `validateStreamIdentity`. -/
def validateStreamIdentity (streamID : ℕ) (direction : WebTransportStreamForm)
    (initiator : HTTP3ConnectionRole) : Except ManagerError Unit :=
  if (m.streamsByID.get? streamID).isSome then
    .error (.malformed "WebTransport stream already exists")
  else if (m.bufferedStreamsByID.get? streamID).isSome then
    .error (.malformed "WebTransport stream is already buffered")
  else if (m.closedStreamSessionIDsByStreamID.get? streamID).any fun sessionID =>
      (m.sessionsByID.get? sessionID).isSome then
    .error (.draft16 .sessionGone "WebTransport stream belongs to a terminated session")
  else if QUICStreamID.direction streamID ≠ direction then
    .error (.malformed "stream direction mismatch for WebTransport stream")
  else if QUICStreamID.initiator streamID ≠ initiator then
    .error (.malformed "stream initiator mismatch for WebTransport stream")
  else .ok ()

/-- The streams of a session, or those that are buffered for it. -/
def streamIDs (sessionID : ℕ) : StreamIDSet := (m.streamIDsBySessionID.get? sessionID).getD ∅

@[inherit_doc streamIDs]
def bufferedStreamIDs (sessionID : ℕ) : StreamIDSet :=
  (m.bufferedStreamIDsBySessionID.get? sessionID).getD ∅

/-- The datagrams of a session that wait to be read. -/
def datagrams (sessionID : ℕ) : List (List UInt8) :=
  (m.datagramsBySessionID.get? sessionID).getD []

/-- `hasBufferedIngress`. -/
def hasBufferedIngress (sessionID : ℕ) : Bool :=
  m.bufferedStreamIDs sessionID ≠ ∅ || m.datagrams sessionID ≠ []

/-- The sessions with anything buffered (`bufferedIngressSessionCount`). -/
def bufferedIngressSessionCount : ℕ :=
  ((m.bufferedStreamIDsBySessionID.keys ++ m.datagramsBySessionID.keys).filter
    m.hasBufferedIngress).dedup.length

/-- `ensureCanBufferIngress`. -/
def ensureCanBufferIngress (sessionID : ℕ) : Except ManagerError Unit :=
  if m.hasBufferedIngress sessionID ∨ m.bufferedIngressSessionCount < env.maxBufferedSessions then
    .ok ()
  else
    .error (.draft16 .bufferedStreamRejected
      "buffered WebTransport session count exceeds receive limit")

/-- Whether a stream finds room in the buffers of its session, the guards of `buffer`. -/
def ensureCanBuffer (stream : WebTransportStreamState) : Except ManagerError Unit := do
  m.ensureCanBufferIngress env stream.sessionID
  let ids := m.bufferedStreamIDs stream.sessionID
  let bufferedPayloadBytes := (ids.keys.map fun streamID =>
    (m.bufferedStreamsByID.get? streamID).elim 0 (·.bufferedPayloadBytes)).sum
  if ids.count < env.maxBufferedStreamsPerSession ∧
      ((bufferedPayloadBytes + stream.bufferedPayloadBytes : ℕ) : ℤ) ≤
        env.maxStreamReceiveBufferBytes then .ok ()
  else
    .error (.draft16 .bufferedStreamRejected
      "buffered WebTransport stream exceeds receive limit")

/-! ## Storing and releasing -/

/-- Store a session, with the maps that belong to it (`store`). -/
def store (session : WebTransportSession) : WebTransportSessionManager :=
  let negotiated := m.webTransportFlowControlNegotiated
  { m with
    sessionsByID := m.sessionsByID.insert session.id session
    sessionIDsByRequestStreamID :=
      m.sessionIDsByRequestStreamID.insert session.requestStreamID session.id
    datagramsBySessionID := m.datagramsBySessionID.insert session.id (m.datagrams session.id)
    flowControlStateBySessionID := m.flowControlStateBySessionID.insert session.id
      ((m.flowControlStateBySessionID.get? session.id).getD
        -- The defaults of the draft, which are not sent, have no limits of flow control.
        (.ofSettings (m.http3.remoteSettings.getD ∅) negotiated))
    receiveFlowControlStateBySessionID := m.receiveFlowControlStateBySessionID.insert session.id
      ((m.receiveFlowControlStateBySessionID.get? session.id).getD
        (.ofSettings m.http3.localSettings negotiated))
    datagramPayloadBytesBySessionID := m.datagramPayloadBytesBySessionID.insert session.id
      ((m.datagramPayloadBytesBySessionID.get? session.id).getD 0)
    blockedFlowCapsulesBySessionID := m.blockedFlowCapsulesBySessionID.insert session.id
      ((m.blockedFlowCapsulesBySessionID.get? session.id).getD []) }

/-- Replace a session. -/
def setSession (sessionID : ℕ) (session : WebTransportSession) : WebTransportSessionManager :=
  { m with sessionsByID := m.sessionsByID.insert sessionID session }

/-- Drop every trace of a session (`releaseSessionState`). -/
def releaseSessionState (sessionID : ℕ) : WebTransportSessionManager :=
  let m := match m.sessionsByID.get? sessionID with
    | none => m
    | some session =>
      { m with
        sessionsByID := m.sessionsByID.erase sessionID
        sessionIDsByRequestStreamID := m.sessionIDsByRequestStreamID.erase session.requestStreamID
        closedRequestStreamIDs := m.closedRequestStreamIDs.erase session.requestStreamID
        released := m.released ++ [session] }
  { m with
    streamIDsBySessionID := m.streamIDsBySessionID.erase sessionID
    bufferedStreamIDsBySessionID := m.bufferedStreamIDsBySessionID.erase sessionID
    datagramsBySessionID := m.datagramsBySessionID.erase sessionID
    datagramPayloadBytesBySessionID := m.datagramPayloadBytesBySessionID.erase sessionID
    flowControlStateBySessionID := m.flowControlStateBySessionID.erase sessionID
    receiveFlowControlStateBySessionID := m.receiveFlowControlStateBySessionID.erase sessionID
    blockedFlowCapsulesBySessionID := m.blockedFlowCapsulesBySessionID.erase sessionID }

/-- Release the oldest of the sessions that ended, while there are too many. -/
def evictClosedSessions (limit : ℕ) :
    List ℕ → WebTransportSessionManager → WebTransportSessionManager
  | [], m => { m with closedSessionOrder := [] }
  | oldest :: rest, m =>
    if limit < rest.length + 1 then evictClosedSessions limit rest (m.releaseSessionState oldest)
    else { m with closedSessionOrder := oldest :: rest }

/-- Record a session that ended (`recordClosedSession`). -/
def recordClosedSession (sessionID : ℕ) : WebTransportSessionManager :=
  evictClosedSessions env.maxRetainedClosedSessions
    (m.closedSessionOrder.erase sessionID ++ [sessionID]) m

/-- How many streams that ended are remembered (`retainedClosedStreamCount`). -/
def retainedClosedStreamCount : ℕ := m.closedStreamOrder.length - m.closedStreamHead

/-- Forget the oldest of the streams that ended, while there are too many. Every round forgets
one, so that as many rounds as there are entries are enough. -/
def evictClosedStreams (limit : ℕ) : ℕ → WebTransportSessionManager → WebTransportSessionManager
  | 0, m => m
  | rounds + 1, m =>
    if limit < m.retainedClosedStreamCount then
      match m.closedStreamOrder[m.closedStreamHead]? with
      | none => m
      | some evicted =>
        evictClosedStreams limit rounds
          { m with
            closedStreamHead := m.closedStreamHead + 1
            retainedClosedStreamIDs := m.retainedClosedStreamIDs.erase evicted
            closedStreamSessionIDsByStreamID :=
              m.closedStreamSessionIDsByStreamID.erase evicted }
    else m

/-- Reclaim the forgotten entries (`compactClosedStreamOrderIfWorthwhile`). -/
def compactClosedStreamOrder : WebTransportSessionManager :=
  if m.closedStreamHead = 0 then m
  else if m.closedStreamHead = m.closedStreamOrder.length ∨
      m.closedStreamOrder.length ≤ m.closedStreamHead * 2 then
    { m with
      closedStreamOrder := m.closedStreamOrder.drop m.closedStreamHead
      closedStreamHead := 0 }
  else m

/-- Record a stream that ended (`recordClosedStream`). -/
def recordClosedStream (streamID : ℕ) : WebTransportSessionManager :=
  if streamID ∈ m.retainedClosedStreamIDs then m
  else
    (evictClosedStreams env.maxRetainedClosedStreams (m.closedStreamOrder.length + 1)
      { m with
        retainedClosedStreamIDs := insert streamID m.retainedClosedStreamIDs
        closedStreamOrder := m.closedStreamOrder ++ [streamID] }).compactClosedStreamOrder

/-- Remember of which session a stream was that ends now. -/
def tombstone (sessionID streamID : ℕ) : WebTransportSessionManager :=
  recordClosedStream env
    { m with
      closedStreamSessionIDsByStreamID :=
        m.closedStreamSessionIDsByStreamID.insert streamID sessionID } streamID

/-- A new stream of its session (`register`). -/
def register (stream : WebTransportStreamState) : WebTransportSessionManager :=
  { m with
    streamsByID := m.streamsByID.insert stream.streamID stream
    streamIDsBySessionID := m.streamIDsBySessionID.insert stream.sessionID
      ((m.streamIDs stream.sessionID).insert stream.streamID ()) }

/-- A stream that waits for its session (the end of `buffer`). -/
def hold (stream : WebTransportStreamState) : WebTransportSessionManager :=
  { m with
    bufferedStreamsByID := m.bufferedStreamsByID.insert stream.streamID stream
    bufferedStreamIDsBySessionID := m.bufferedStreamIDsBySessionID.insert stream.sessionID
      ((m.bufferedStreamIDs stream.sessionID).insert stream.streamID ()) }

/-- Replace a stream. -/
def setStream (streamID : ℕ) (stream : WebTransportStreamState) : WebTransportSessionManager :=
  { m with streamsByID := m.streamsByID.insert streamID stream }

/-- No stream waits any more, and no datagram (the end of `discardBufferedIngress`). -/
def clearIngress (sessionID : ℕ) : WebTransportSessionManager :=
  { m with
    bufferedStreamIDsBySessionID := m.bufferedStreamIDsBySessionID.insert sessionID ∅
    datagramsBySessionID := m.datagramsBySessionID.insert sessionID []
    datagramPayloadBytesBySessionID := m.datagramPayloadBytesBySessionID.insert sessionID 0 }

/-- Drop a buffered stream and remember it. -/
def discardStream (sessionID streamID : ℕ) : WebTransportSessionManager :=
  { m.tombstone env sessionID streamID with
    bufferedStreamsByID := m.bufferedStreamsByID.erase streamID }

/-- Drop what waits for a session that was rejected (`discardBufferedIngress`, which every caller
has remember the streams). -/
def discardBufferedIngress (sessionID : ℕ) : WebTransportSessionManager :=
  ((env.enumerate (m.bufferedStreamIDs sessionID)).1.foldl
    (fun m streamID => m.discardStream env sessionID streamID) m).clearIngress sessionID

/-! ## The end of a session -/

/-- The streams that are live, or those that are buffered. -/
def heldStreams (buffered : Bool) : Dictionary ℕ WebTransportStreamState :=
  if buffered then m.bufferedStreamsByID else m.streamsByID

/-- Drop a live or a buffered stream. -/
def dropStream (buffered : Bool) (streamID : ℕ) : WebTransportSessionManager :=
  if buffered then { m with bufferedStreamsByID := m.bufferedStreamsByID.erase streamID }
  else { m with streamsByID := m.streamsByID.erase streamID }

/-- The frames that reset and stop streams. -/
structure AbortFrames where
  resets : List QUICFrame := []
  stops : List QUICFrame := []
deriving DecidableEq, Repr

/-- Abort the halves of a stream that this endpoint owns. -/
def abortStream (stream : WebTransportStreamState) (frames : AbortFrames) : AbortFrames where
  resets :=
    if stream.hasSendHalf then frames.resets ++ [(stream.reset wtSessionGoneError).1]
    else frames.resets
  stops :=
    if stream.hasReceiveHalf then frames.stops ++ [(stream.stopSending wtSessionGoneError).1]
    else frames.stops

/-- End streams of a session, the live or the buffered ones. -/
def terminateStreams (buffered : Bool) (sessionID : ℕ) :
    List ℕ → AbortFrames → WebTransportSessionManager →
      AbortFrames × WebTransportSessionManager
  | [], frames, m => (frames, m)
  | streamID :: rest, frames, m =>
    match (m.heldStreams buffered).get? streamID with
    | none => terminateStreams buffered sessionID rest frames m
    | some stream =>
      terminateStreams buffered sessionID rest (abortStream stream frames)
        ((m.tombstone env sessionID streamID).dropStream buffered streamID)

/-- End all streams of a session (`terminateAssociatedStreams`). -/
def terminateAssociatedStreams (sessionID requestStreamID : ℕ) :
    WebTransportSessionTerminationActions × WebTransportSessionManager :=
  let (frames, m) := terminateStreams env false sessionID (m.streamIDs sessionID).keys {} m
  let (frames, m) :=
    terminateStreams env true sessionID (m.bufferedStreamIDs sessionID).keys frames m
  ({ connectFINFrame := .stream requestStreamID none true []
     connectStopSendingFrame := some (.stopSending requestStreamID wtSessionGoneError)
     streamResetFrames := frames.resets
     streamStopSendingFrames := frames.stops },
   { m with
     streamIDsBySessionID := m.streamIDsBySessionID.insert sessionID ∅
     bufferedStreamIDsBySessionID := m.bufferedStreamIDsBySessionID.insert sessionID ∅ })

/-- Store a session as closed. -/
def storeClosed (session : WebTransportSession) (sessionID applicationErrorCode : ℕ)
    (message : List UInt8) (closeCapsuleReceived : Bool) : WebTransportSessionManager :=
  { m.setSession sessionID { session with state := .closed applicationErrorCode message } with
    closedRequestStreamIDs :=
      if closeCapsuleReceived then insert session.requestStreamID m.closedRequestStreamIDs
      else m.closedRequestStreamIDs }

/-- No datagram waits any more. -/
def clearDatagrams (sessionID : ℕ) : WebTransportSessionManager :=
  { m with
    datagramsBySessionID := m.datagramsBySessionID.insert sessionID []
    datagramPayloadBytesBySessionID := m.datagramPayloadBytesBySessionID.insert sessionID 0 }

/-- Close a session that has not ended (`markSessionClosed` after its lookup). -/
def closeSession (session : WebTransportSession) (sessionID applicationErrorCode : ℕ)
    (message : List UInt8) (closeCapsuleReceived : Bool) :
    WebTransportSessionTerminationActions × WebTransportSessionManager :=
  let (actions, m) :=
    (m.storeClosed session sessionID applicationErrorCode message
      closeCapsuleReceived).terminateAssociatedStreams env sessionID session.requestStreamID
  (actions, (m.clearDatagrams sessionID).recordClosedSession env sessionID)

/-- `markSessionClosed`. -/
def markSessionClosed (sessionID applicationErrorCode : ℕ) (message : List UInt8)
    (closeCapsuleReceived : Bool) : ManagerM WebTransportSessionTerminationActions := do
  let session ← consult fun m => m.sessionForIngress sessionID
  modifyGet fun m =>
    m.closeSession env session sessionID applicationErrorCode message closeCapsuleReceived

/-- `markSessionDraining`. -/
def markSessionDraining (sessionID : ℕ) : ManagerM Unit := do
  let session ← consult fun m => m.sessionForIngress sessionID
  if session.state = .requested then
    throw (.malformed "WT_DRAIN_SESSION requires an established session")
  else if session.state = .accepted then
    modify fun m => m.setSession sessionID { session with state := .draining }
  else pure ()

/-- The message of a session that is closed for its flow control. -/
def flowControlViolationMessage : List UInt8 :=
  "WebTransport flow-control violation".toUTF8.toList

/-- `closeForFlowControlViolation`. -/
def closeForFlowControlViolation (sessionID : ℕ) : ManagerM Unit := do
  let _ ← markSessionClosed env sessionID wtFlowControlError flowControlViolationMessage false
  pure ()

/-- Close a session for an error of flow control that something throws. -/
def closingOnFlowControl {α : Type} (sessionID : ℕ) (x : ManagerM α) : ManagerM α :=
  tryCatch x fun e =>
    if e.IsKind .flowControl then do
      closeForFlowControlViolation env sessionID
      throw e
    else throw e

/-! ## Credit -/

/-- The credit of a session, of what it sends or of what it receives. -/
def credit (receiveSide : Bool) (sessionID : ℕ) : WebTransportFlowControlState :=
  ((if receiveSide then m.receiveFlowControlStateBySessionID
    else m.flowControlStateBySessionID).get? sessionID).getD .off

/-- Replace the credit of a session. -/
def setCredit (receiveSide : Bool) (sessionID : ℕ) (state : WebTransportFlowControlState) :
    WebTransportSessionManager :=
  if receiveSide then
    { m with
      receiveFlowControlStateBySessionID :=
        m.receiveFlowControlStateBySessionID.insert sessionID state }
  else
    { m with
      flowControlStateBySessionID := m.flowControlStateBySessionID.insert sessionID state }

/-- `enqueueBlockedFlowCapsule`, for the capsule that there may be. -/
def enqueueBlockedFlowCapsule (capsule : Option WebTransportFlowCapsule) (sessionID : ℕ) :
    WebTransportSessionManager :=
  match capsule with
  | none => m
  | some capsule =>
    let queue := (m.blockedFlowCapsulesBySessionID.get? sessionID).getD []
    { m with
      blockedFlowCapsulesBySessionID := m.blockedFlowCapsulesBySessionID.insert sessionID
        (if capsule ∈ queue then queue else queue ++ [capsule]) }

/-- Credit was not enough: close the session when the peer sent too much, or say that this endpoint
has to wait. -/
def outOfCredit (state : WebTransportFlowControlState) (capsule : Option WebTransportFlowCapsule)
    (sessionID : ℕ) (receiveSide : Bool) : ManagerM Unit :=
  if receiveSide then closeForFlowControlViolation env sessionID
  else
    modify fun m => (m.enqueueBlockedFlowCapsule capsule sessionID).setCredit false sessionID state

/-- Count something against the credit of a session. -/
def reserve (count : WebTransportFlowControlState →
      Except ManagerError WebTransportFlowControlState)
    (blocked : WebTransportFlowControlState → Option WebTransportFlowCapsule)
    (sessionID : ℕ) (receiveSide : Bool) : ManagerM Unit := do
  let m ← get
  let state := m.credit receiveSide sessionID
  match count state with
  | .ok state => modify fun m => m.setCredit receiveSide sessionID state
  | .error e =>
    outOfCredit env state (blocked state) sessionID receiveSide
    throw e

/-- `reserveStream`. -/
def reserveStream (sessionID : ℕ) (form : WebTransportStreamForm) (receiveSide : Bool) :
    ManagerM Unit :=
  reserve env (·.registerStream form) (·.blockedCapsule form) sessionID receiveSide

/-- `reserveData`. -/
def reserveData (sessionID byteCount : ℕ) (receiveSide : Bool) : ManagerM Unit :=
  reserve env (·.recordData byteCount) (fun state => state.maxDataState.asUInt64.map .dataBlocked)
    sessionID receiveSide

/-! ## Buffered streams -/

/-- Make buffered streams streams of their session, one after the other. -/
def promoteStreams (sessionID : ℕ) : List ℕ → ManagerM Unit
  | [] => pure ()
  | streamID :: rest => do
    let m ← get
    match m.bufferedStreamsByID.get? streamID with
    | none => promoteStreams sessionID rest
    | some stream =>
      reserveStream env sessionID stream.form true
      reserveData env sessionID stream.bufferedPayloadBytes true
      modify fun m => { m.register stream with
        bufferedStreamsByID := m.bufferedStreamsByID.erase streamID }
      promoteStreams sessionID rest

/-- `promoteBufferedStreams`. -/
def promoteBufferedStreams (sessionID : ℕ) : ManagerM Unit := do
  let m ← get
  match m.bufferedStreamIDsBySessionID.get? sessionID with
  | none => pure ()
  | some streamIDs =>
    promoteStreams env sessionID streamIDs.keys
    modify fun m => { m with
      bufferedStreamIDsBySessionID := m.bufferedStreamIDsBySessionID.insert sessionID ∅ }

/-- `buffer`. -/
def buffer (stream : WebTransportStreamState) : ManagerM Unit := do
  consult fun m => m.ensureCanBuffer env stream
  modify fun m => m.hold stream

end WebTransportSessionManager

end WebTransport
