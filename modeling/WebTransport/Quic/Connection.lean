import WebTransport.Quic.Close
import WebTransport.Quic.Congestion
import WebTransport.Quic.Loss
import WebTransport.Quic.Stream

/-!
# The state of a connection

What one connection remembers (`quic/connection.h`), how it is set up and closed
(`quic/connection.c`) and the update of its keys (`quic/connection_handshake.c`).

A field that the source pairs with a flag that says whether it is set is an `Option`. The
arrays over packet number spaces are functions from `Space`, the other tables are functions
from slot numbers of which only those below the table's bound are used. The packet
protection, the socket and the random generator are the environment of the connection: what
they answer is a parameter, and the `n`-th call of the socket or of the generator may answer
differently from the ones before.
-/

namespace WebTransport

/-! ## Packet number spaces and keys -/

/-- The packet number spaces (`wt_quic_space_t`). -/
inductive Space
  | initial
  | handshake
  | application
deriving DecidableEq, Repr

/-- The number of a space in the source's arrays. -/
def Space.index : Space → ℕ
  | .initial => 0
  | .handshake => 1
  | .application => 2

/-- The spaces in the order of their numbers. -/
def Space.all : List Space := [.initial, .handshake, .application]

/-- Which end of the connection this is (`wt_quic_role_t`). -/
inductive Role
  | client
  | server
deriving DecidableEq, Repr

/-- The suites a packet can be protected with (`wt_aead_t`). -/
inductive Aead
  | aes128Gcm
  | chacha20Poly1305
deriving DecidableEq, Repr

/-- The keys of one direction of a space (`wt_quic_packet_keys_t`). -/
structure PacketKeys where
  secret : List UInt8
deriving DecidableEq, Repr

/-! ## What the connection is made of -/

/-- `WT_QUIC_CONNECTION_FRAMES_MAX`. -/
def quicConnectionFramesMax : ℕ := 16
/-- `WT_QUIC_CONTROL_FRAMES_MAX`. -/
def quicControlFramesMax : ℕ := 8
/-- `WT_QUIC_CONTROL_WIRE_MAX`. -/
def quicControlWireMax : ℕ := 64
/-- `WT_QUIC_CONTROL_STREAM_ID`. -/
def quicControlStreamId : ℕ := 2 ^ 64 - 1
/-- `WT_QUIC_CONNECTION_INITIAL_PTO`. -/
def quicConnectionInitialPto : ℕ := 1333000
/-- `WT_QUIC_PEER_CONNECTION_IDS_MAX` and `WT_QUIC_CONNECTION_IDS_MAX`. -/
def quicConnectionIdsMax : ℕ := 8

/-- The configuration (`wt_quic_connection_config_t`). -/
structure ConnectionConfig where
  role : Role
  version : ℕ
  localConnectionId : List UInt8
  peerConnectionId : List UInt8
  aead : Aead
  maxAckDelay : ℕ
  localMaxAckDelay : ℕ
  localActiveConnectionIdLimit : ℕ
  localMaxStreamData : ℕ
  idleTimeout : ℕ
  maxDatagramSize : ℕ
deriving DecidableEq, Repr

/-- What the peer allows (`wt_quic_peer_limits_t`). -/
structure PeerLimits where
  maxIdleTimeout : ℕ := 0
  initialMaxData : ℕ := 0
  initialMaxStreamDataBidiLocal : ℕ := 0
  initialMaxStreamDataBidiRemote : ℕ := 0
  initialMaxStreamDataUni : ℕ := 0
  initialMaxStreamsBidi : ℕ := 0
  initialMaxStreamsUni : ℕ := 0
  activeConnectionIdLimit : ℕ := 0
  maxDatagramFrameSize : ℕ := 0
  resetStreamAt : Bool := false
  set : Bool := false
deriving DecidableEq, Repr

/-- What a sent packet carried (`wt_quic_tx_frame_t`). -/
structure TxFrame where
  inUse : Bool := false
  space : Space := .initial
  isCrypto : Bool := false
  streamId : ℕ := 0
  offset : ℕ := 0
  length : ℕ := 0
deriving DecidableEq, Repr

/-- A control frame that is kept until it is acknowledged (`wt_quic_control_frame_t`). -/
structure ControlFrame where
  inUse : Bool := false
  resendPending : Bool := false
  space : Space := .initial
  wire : List UInt8 := []
deriving DecidableEq, Repr

/-- A connection ID that one end issued to the other (`wt_quic_peer_connection_id_t`,
`wt_quic_issued_connection_id_t`). -/
structure ConnectionIdEntry where
  sequence : ℕ
  id : List UInt8
  resetToken : List UInt8
deriving DecidableEq, Repr

/-- The error code a frame handler asks the close to name. -/
structure CloseHint where
  code : ℕ
  frameType : ℕ
  application : Bool
deriving DecidableEq, Repr

/-- The counters a connection keeps for diagnostics; nothing reads them back. -/
structure ConnectionCounters where
  packetsSent : ℕ := 0
  packetsSentBySpace : Space → ℕ := fun _ => 0
  bytesSent : ℕ := 0
  framesWalked : ℕ := 0
  streamFramesSeen : ℕ := 0
  framesDelivered : ℕ := 0
  packetsDeclaredLost : Space → ℕ := fun _ => 0
  lostWithoutDescriptor : ℕ := 0
  packetsAcked : Space → ℕ := fun _ => 0
  controlFramesUnretained : ℕ := 0
  controlFramesResendDeferred : ℕ := 0
  pathChallengesSent : ℕ := 0
  pathResponsesSent : ℕ := 0
  pathResponsesMatched : ℕ := 0
  pathValidationFailures : ℕ := 0
  peerIdsRetired : ℕ := 0
  retiresReceived : ℕ := 0
  keyUpdateErrors : ℕ := 0

/-- What an observer of the connection sees: the packets that went out, with the frame each
carries unless it repeats retained bytes, the packets declared lost, and what was reported to
the lost handler. -/
inductive ConnectionEvent
  | sent (space : Space) (packetNumber : ℕ) (frame : Option Frame) (payload : List UInt8)
  | declaredLost (packet : SentPacket)
  | lostFrame (descriptor : TxFrame)
deriving DecidableEq, Repr

/-- One connection (`wt_quic_connection_t`). -/
structure Connection where
  config : ConnectionConfig
  hasPeer : Bool := false
  originalDestinationId : List UInt8 := []
  keysIn : Space → Option PacketKeys := fun _ => none
  keysOut : Space → Option PacketKeys := fun _ => none
  spaces : Space → PnSpace := fun _ => {}
  loss : Loss := quicLossInit
  congestion : Congestion
  close : CloseState := {}
  peerLimits : PeerLimits := {}
  localMaxData : ℕ := 0
  localMaxDataSet : Bool := false
  localMaxStreams : StreamDirection → ℕ := fun _ => 0
  localMaxStreamsSet : StreamDirection → Bool := fun _ => false
  issuedIds : ℕ → Option ConnectionIdEntry := fun _ => none
  issuedCount : ℕ := 0
  nextIssuedSequence : ℕ := 1
  peerIds : ℕ → Option ConnectionIdEntry := fun _ => none
  peerIdCount : ℕ := 0
  currentPeerSequence : Option ℕ := none
  retireCurrentAfterStore : Bool := false
  streams : StreamTable := {}
  flow : Flow := quicFlowInit 0 0
  pathValidating : Bool := false
  pathChallengePending : Bool := false
  pathChallenge : List UInt8 := []
  pathValidationAttempts : ℕ := 0
  pathValidationDeadline : ℕ := 0
  pathValidated : Bool := false
  frames : ℕ → TxFrame := fun _ => {}
  controlFrames : ℕ → ControlFrame := fun _ => {}
  closeHint : Option CloseHint := none
  closeCause : Status := .ok
  closeCauseFrame : ℕ := 0
  lastActivity : ℕ := 0
  receivedAt : Space → ℕ := fun _ => 0
  handshakeConfirmed : Bool := false
  retryToken : List UInt8 := []
  retryAccepted : Bool := false
  retryPendingKeys : Bool := false
  keyPhase : Bool := false
  keyPhaseIn : Bool := false
  nextKeysIn : Option PacketKeys := none
  nextKeysOut : Option PacketKeys := none
  previousKeysIn : Option PacketKeys := none
  keyPhaseFirstPn : Option ℕ := none
  keyPhaseInFirstPn : Option ℕ := none
  keyUpdateAwaitingConfirmation : Bool := false
  keyUpdateResponsePending : Bool := false
  keyUpdatesInitiated : ℕ := 0
  keyUpdatesResponded : ℕ := 0
  aeadEncrypted : Space → ℕ := fun _ => 0
  aeadFailed : ℕ := 0
  aeadConfidentialityLimit : ℕ
  aeadIntegrityLimit : ℕ
  closeSent : Bool := false
  closeFrameSent : Bool := false
  peerClosed : Bool := false
  counters : ConnectionCounters := {}
  udpCalls : ℕ := 0
  randomCalls : ℕ := 0
  trace : List ConnectionEvent := []

/-- A packet that is about to be protected (`wt_quic_packet_build_t`). -/
structure PacketBuild where
  space : Space
  version : ℕ
  destinationConnectionId : List UInt8
  sourceConnectionId : List UInt8
  token : List UInt8
  packetNumber : ℕ
  packetNumberLength : ℕ
  keyPhase : Bool
  payload : List UInt8
  keys : PacketKeys
deriving DecidableEq, Repr

/-- What the connection calls outside of itself: the packet protection, the socket, the key
schedule and the random generator. A failure has a status of its own. -/
structure Env where
  packetBuild : PacketBuild → Except Status (List UInt8)
  udpSend : ℕ → Status
  packetKeysUpdate : PacketKeys → Except Status PacketKeys
  randomBytes : ℕ → Except Status (List UInt8)
  packetBuild_failed : ∀ b, packetBuild b ≠ .error .ok
  packetKeysUpdate_failed : ∀ k, packetKeysUpdate k ≠ .error .ok
  randomBytes_failed : ∀ n, randomBytes n ≠ .error .ok

namespace Connection

/-- Replace one packet number space. -/
def setSpace (c : Connection) (space : Space) (s : PnSpace) : Connection :=
  { c with spaces := Function.update c.spaces space s }

/-- Replace one descriptor. -/
def setFrame (c : Connection) (tag : ℕ) (f : TxFrame) : Connection :=
  { c with frames := Function.update c.frames tag f }

/-- Replace one slot of the control frames. -/
def setControl (c : Connection) (slot : ℕ) (f : ControlFrame) : Connection :=
  { c with controlFrames := Function.update c.controlFrames slot f }

/-- Record what an observer sees. -/
def observe (c : Connection) (event : ConnectionEvent) : Connection :=
  { c with trace := c.trace ++ [event] }

section Updates

variable (c : Connection) (space : Space) (s : PnSpace) (tag slot : ℕ) (f : TxFrame)
  (k : ControlFrame) (event : ConnectionEvent)

@[simp] lemma setSpace_spaces : (c.setSpace space s).spaces = Function.update c.spaces space s := rfl
@[simp] lemma setSpace_loss : (c.setSpace space s).loss = c.loss := rfl
@[simp] lemma setSpace_frames : (c.setSpace space s).frames = c.frames := rfl
@[simp] lemma setSpace_controlFrames : (c.setSpace space s).controlFrames = c.controlFrames := rfl
@[simp] lemma setFrame_frames : (c.setFrame tag f).frames = Function.update c.frames tag f := rfl
@[simp] lemma setFrame_loss : (c.setFrame tag f).loss = c.loss := rfl
@[simp] lemma setFrame_spaces : (c.setFrame tag f).spaces = c.spaces := rfl
@[simp] lemma setFrame_controlFrames : (c.setFrame tag f).controlFrames = c.controlFrames := rfl
@[simp] lemma setFrame_lastActivity : (c.setFrame tag f).lastActivity = c.lastActivity := rfl
@[simp] lemma setFrame_trace : (c.setFrame tag f).trace = c.trace := rfl
@[simp] lemma setControl_controlFrames :
    (c.setControl slot k).controlFrames = Function.update c.controlFrames slot k := rfl
@[simp] lemma setControl_loss : (c.setControl slot k).loss = c.loss := rfl
@[simp] lemma setControl_spaces : (c.setControl slot k).spaces = c.spaces := rfl
@[simp] lemma setControl_frames : (c.setControl slot k).frames = c.frames := rfl
@[simp] lemma setControl_trace : (c.setControl slot k).trace = c.trace := rfl
@[simp] lemma observe_loss : (c.observe event).loss = c.loss := rfl
@[simp] lemma observe_spaces : (c.observe event).spaces = c.spaces := rfl
@[simp] lemma observe_frames : (c.observe event).frames = c.frames := rfl
@[simp] lemma observe_controlFrames : (c.observe event).controlFrames = c.controlFrames := rfl
@[simp] lemma observe_trace : (c.observe event).trace = c.trace ++ [event] := rfl

end Updates

end Connection

/-- The loss list inside a connection. -/
def connectionHost : LossHost Connection where
  loss c := c.loss
  setLoss l c := { c with loss := l }
  loss_setLoss _ _ := rfl

/-! ## Setting up -/

/-- The usage limits of a suite: how many packets one key may protect, and how many forged
packets a connection may see. -/
def aeadLimitsFor : Aead → ℕ × ℕ
  | .aes128Gcm => (2 ^ 23, 2 ^ 52)
  | .chacha20Poly1305 => (2 ^ 64 - 1, 2 ^ 36)

/-- `WT_QUIC_MAX_PACKET`. -/
def quicMaxPacket : ℕ := 1200

/-- A new connection, refused when the configuration breaks one of its bounds. -/
def quicConnectionInit (config : ConnectionConfig) : Except Status Connection :=
  if quicMaxConnectionIdLength < config.localConnectionId.length ∨
      quicMaxConnectionIdLength < config.peerConnectionId.length then .error .invalidArgument
  else if config.maxDatagramSize < quicMaxPacket then .error .invalidArgument
  else
    .ok
      { config := config
        congestion := quicCongestionInit config.maxDatagramSize
        aeadConfidentialityLimit := (aeadLimitsFor config.aead).1
        aeadIntegrityLimit := (aeadLimitsFor config.aead).2 }

/-- Install the keys of one direction of a space. -/
def quicConnectionSetKeys (c : Connection) (space : Space) (inbound : Bool) (keys : PacketKeys) :
    Connection :=
  if inbound then { c with keysIn := Function.update c.keysIn space (some keys) }
  else { c with keysOut := Function.update c.keysOut space (some keys) }

/-- Forget the keys of a space, in both directions. -/
def quicConnectionDiscardKeys (c : Connection) (space : Space) : Connection :=
  { c with
    keysIn := Function.update c.keysIn space none
    keysOut := Function.update c.keysOut space none }

/-- Take another connection ID as the destination of what is sent. -/
def adoptPeerConnectionId (c : Connection) (id : List UInt8) : Connection :=
  if quicMaxConnectionIdLength < id.length then c
  else { c with config := { c.config with peerConnectionId := id } }

/-! ## Deadlines and closing -/

/-- The shorter of the two idle timeouts, `0` for none. -/
def idleTimeoutOf (c : Connection) : ℕ :=
  let own := c.config.idleTimeout
  let peer := c.peerLimits.maxIdleTimeout
  if own = 0 then peer else if peer = 0 then own else if own < peer then own else peer

/-- How long the peer may delay an acknowledgement in a space. -/
def maxAckDelayFor (c : Connection) (space : Space) : ℕ :=
  if space = .application then c.config.maxAckDelay else 0

/-- How long this endpoint may delay an acknowledgement in a space. -/
def ackDelayFor (c : Connection) (space : Space) : ℕ :=
  if space = .application then c.config.localMaxAckDelay else 0

/-- The probe timeout of the first space that has one, the Application space first. -/
def ptoOf (c : Connection) : ℕ :=
  ([.application, .handshake, .initial] : List Space).findSome?
    (fun space =>
      match quicRttPto (c.spaces space).rtt (maxAckDelayFor c space) with
      | .ok pto => some pto
      | .error _ => none)
    |>.getD quicConnectionInitialPto

/-- Whether either end has closed. -/
def quicConnectionIsClosed (c : Connection) : Bool := c.peerClosed || quicCloseIsClosed c.close

/-- Close, unless the connection is closed already. -/
def quicConnectionClose (c : Connection) (errorCode frameType : ℕ) (reason : List UInt8)
    (now : ℕ) : Connection × Status :=
  if quicConnectionIsClosed c then (c, .ok)
  else
    let r := quicCloseTransport c.close errorCode frameType reason now (ptoOf c)
    ({ c with close := r.1 }, r.2)

/-- Close with a transport error and no reason. -/
def closeWith (c : Connection) (errorCode frameType now : ℕ) : Connection × Status :=
  quicConnectionClose c errorCode frameType [] now

/-! ## Updating the keys -/

/-- Whether this endpoint may start a key update now. -/
def quicConnectionKeyUpdateAllowed (c : Connection) : Bool :=
  c.handshakeConfirmed && (c.keysOut .application).isSome && !c.keyUpdateAwaitingConfirmation &&
    (c.keyPhaseFirstPn.isSome || c.keyUpdatesInitiated = 0 && c.keyUpdatesResponded = 0)

/-- Derive the keys that follow, unless that has been done. -/
def ensureNext (env : Env) (next current : Option PacketKeys) : Option PacketKeys × Status :=
  match next, current with
  | some keys, _ => (some keys, .ok)
  | none, none => (none, .state)
  | none, some keys =>
    match env.packetKeysUpdate keys with
    | .ok keys => (some keys, .ok)
    | .error status => (none, status)

/-- Start a key update. -/
def quicConnectionInitiateKeyUpdate (env : Env) (c : Connection) : Connection × Status :=
  match c.keysOut .application with
  | none => (c, .state)
  | some keysOut =>
    if !c.handshakeConfirmed then (c, .state)
    else if c.keyUpdateAwaitingConfirmation then (c, .state)
    else
      match env.packetKeysUpdate keysOut with
      | .error status => (c, status)
      | .ok keysOut =>
        -- A space without inbound keys has zeroed ones in the source's array.
        let previous := (c.keysIn .application).getD ⟨[]⟩
        let c :=
          { c with
            keysOut := Function.update c.keysOut .application (some keysOut)
            previousKeysIn := some previous }
        match env.packetKeysUpdate previous with
        | .error status => (c, status)
        | .ok keysIn =>
          let installed := (c.keysIn .application).map fun _ => keysIn
          ({ c with
              keysIn := Function.update c.keysIn .application installed
              keyPhase := !c.keyPhase
              keyPhaseIn := !c.keyPhaseIn
              nextKeysOut := (ensureNext env none (some keysOut)).1
              nextKeysIn := (ensureNext env none installed).1
              keyPhaseFirstPn := none
              keyPhaseInFirstPn := none
              keyUpdateAwaitingConfirmation := true
              keyUpdatesInitiated := c.keyUpdatesInitiated + 1
              aeadEncrypted := Function.update c.aeadEncrypted .application 0 }, .ok)

/-! ## A server to start from -/

/-- An environment in which nothing fails. -/
def steadyEnv : Env where
  packetBuild _ := .ok (List.replicate 40 0)
  udpSend _ := .ok
  packetKeysUpdate keys := .ok keys
  randomBytes _ := .ok (List.replicate 8 0)
  packetBuild_failed := by simp
  packetKeysUpdate_failed := by simp
  randomBytes_failed := by simp

/-- The configuration of a server. -/
def serverConfig : ConnectionConfig where
  role := .server
  version := 1
  localConnectionId := []
  peerConnectionId := []
  aead := .aes128Gcm
  maxAckDelay := 0
  localMaxAckDelay := 0
  localActiveConnectionIdLimit := 2
  localMaxStreamData := 0
  idleTimeout := 0
  maxDatagramSize := 1200

/-- A server that can send in every space. -/
def keyedServer : Connection :=
  { config := serverConfig
    congestion := quicCongestionInit 1200
    aeadConfidentialityLimit := 2 ^ 23
    aeadIntegrityLimit := 2 ^ 52
    hasPeer := true
    keysOut := fun _ => some ⟨[]⟩ }

end WebTransport
