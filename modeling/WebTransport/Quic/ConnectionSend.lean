import WebTransport.Quic.Connection

/-!
# The send path

How one packet goes out (`quic/connection_send.c`), how control frames are kept until they
are acknowledged, and what a lost packet sets off (`on_lost` in `quic/connection_loss.c`).

The last two belong together. A packet is only sent when the sent list has room to remember
it, and when it has not, the send path declares packets lost; a lost control frame is sent
again by the visitor of that very loop. The recursion runs on fuel, and no result stands for
a call that does not return.
-/

namespace WebTransport

/-- `WT_QUIC_CONNECTION_PAYLOAD_MAX`. -/
def quicConnectionPayloadMax : ℕ := quicMaxPacket + 64
/-- `WT_QUIC_MIN_INITIAL_DATAGRAM_SIZE`. -/
def quicMinInitialDatagramSize : ℕ := 1200

/-! ## Descriptors -/

/-- What a descriptor says about the frame it stands for. -/
structure Descriptor where
  isCrypto : Bool
  streamId : ℕ
  offset : ℕ
  length : ℕ
deriving DecidableEq, Repr

/-- The first descriptor that is not in use. -/
def freeTag (frames : ℕ → TxFrame) : Option ℕ :=
  (List.range quicConnectionFramesMax).find? fun i => !(frames i).inUse

/-- Take a free descriptor. -/
def allocFrame (c : Connection) (space : Space) (d : Descriptor) : Option (Connection × ℕ) :=
  (freeTag c.frames).map fun tag =>
    (c.setFrame tag
      { inUse := true, space := space, isCrypto := d.isCrypto, streamId := d.streamId,
        offset := d.offset, length := d.length }, tag)

/-- Give a descriptor back; a tag past the table names none. -/
def freeFrame (c : Connection) (tag : ℕ) : Connection :=
  if tag < quicConnectionFramesMax then c.setFrame tag { c.frames tag with inUse := false } else c

/-- A descriptor for the control frame in a slot; the tag past the table when none is free. -/
def tagForControl (c : Connection) (slot : ℕ) : Connection × ℕ :=
  let kept := c.controlFrames slot
  (allocFrame c kept.space
    { isCrypto := false, streamId := quicControlStreamId, offset := slot,
      length := kept.wire.length }).getD (c, quicConnectionFramesMax)

/-! ## One packet -/

/-- The length of an encoded packet number. -/
def packetNumberLengthFor (next : ℕ) (space : PnSpace) : ℕ :=
  let difference := if space.hasLargestAcked then u64Sub next space.largestAcked else u64Add next 1
  if difference < 0x80 then 1
  else if difference < 0x8000 then 2
  else if difference < 0x800000 then 3
  else 4

/-- The shortest payload that leaves room for a header protection sample. -/
def sampleMinimum (packetNumberLength : ℕ) : ℕ :=
  if 4 ≤ packetNumberLength then 0 else 4 - packetNumberLength

/-- What is handed to the packet layer, and what the sent list will say about it. -/
structure Outgoing where
  space : Space
  frame : Option Frame
  payload : List UInt8
  ackEliciting : Bool
  tag : ℕ
  now : ℕ

/-- Whether a packet may be protected at all. -/
inductive SendGuard
  | refuse (c : Connection) (status : Status)
  | pass (c : Connection)

/-- The checks that come before the sent list: keys, a peer, the size of the payload and the
usage limit of the keys, which is answered by an update or by closing. -/
def sendGuard (env : Env) (o : Outgoing) (c : Connection) : SendGuard :=
  if (c.keysOut o.space).isNone then .refuse c .state
  else if !c.hasPeer ∧ c.config.role = .client then .refuse c .state
  else if quicConnectionPayloadMax - 128 < o.payload.length then .refuse c .limit
  else if c.aeadConfidentialityLimit ≤ c.aeadEncrypted o.space then
    if o.space = .application ∧ quicConnectionKeyUpdateAllowed c then
      match quicConnectionInitiateKeyUpdate env c with
      | (c, .ok) => .pass c
      | (c, status) => .refuse c status
    else
      let r := closeWith c quicAeadLimitReached 0 o.now
      .refuse r.1 r.2
  else .pass c

/-- The passes that expand a client's Initial packet to the size a datagram has to have; the
length of the packet that results. -/
def padInitial (env : Env) (build : PacketBuild) : ℕ → ℕ → ℕ → Except Status ℕ
  | 0, _, length => .ok length
  | pass + 1, padding, length =>
    if length = quicMinInitialDatagramSize then .ok length
    else if padding < length - quicMinInitialDatagramSize then .ok length
    else
      let padding := padding + (quicMinInitialDatagramSize - length) -
        (length - quicMinInitialDatagramSize)
      if quicConnectionPayloadMax < build.payload.length + padding then .error .limit
      else
        match env.packetBuild
            { build with payload := build.payload ++ List.replicate padding 0 } with
        | .error status => .error status
        | .ok packet => padInitial env build pass padding packet.length

/-- Protect a packet; the length of what results. -/
def buildPacket (env : Env) (c : Connection) (build : PacketBuild) : Except Status ℕ :=
  match env.packetBuild build with
  | .error status => .error status
  | .ok packet =>
    if build.space = .initial ∧ c.config.role = .client ∧
        packet.length < quicMinInitialDatagramSize then
      match padInitial env build 4 0 packet.length with
      | .error status => .error status
      | .ok length => if length < quicMinInitialDatagramSize then .error .state else .ok length
    else .ok packet.length

/-- The packet the connection is about to send with a number. -/
def packetToBuild (c : Connection) (o : Outgoing) (packetNumber length : ℕ) : PacketBuild :=
  { space := o.space
    version := c.config.version
    destinationConnectionId := c.config.peerConnectionId
    sourceConnectionId := if o.space = .application then [] else c.config.localConnectionId
    token := if o.space = .initial ∧ c.retryAccepted then c.retryToken else []
    packetNumber := packetNumber
    packetNumberLength := length
    keyPhase := c.keyPhase
    payload := o.payload
    keys := (c.keysOut o.space).getD ⟨[]⟩ }

/-- What the sent list remembers of a packet. -/
def sentPacketOf (o : Outgoing) (packetNumber length : ℕ) : SentPacket :=
  { packetNumberSpace := o.space.index
    packetNumber := packetNumber
    timeSent := o.now
    size := length
    tag := o.tag
    ackEliciting := o.ackEliciting
    inFlight := true }

/-- Count a protected packet against its keys and note the first one of a key phase. -/
def countProtected (c : Connection) (space : Space) (packetNumber : ℕ) : Connection :=
  let c := { c with
    aeadEncrypted := Function.update c.aeadEncrypted space (u64Add (c.aeadEncrypted space) 1) }
  if space = .application then
    { c with
      keyPhaseFirstPn := if c.keyPhaseFirstPn.isNone then some packetNumber else c.keyPhaseFirstPn
      keyUpdateResponsePending := false }
  else c

/-- The rest of `send_packet`, once the sent list has room: the congestion window, the packet
number, the protection, the socket and the record in the sent list. -/
def sendProtected (env : Env) (o : Outgoing) (c : Connection) : Connection × Status :=
  let space := c.spaces o.space
  if !quicCongestionCanSend c.congestion c.loss.bytesInFlight then (c, .again)
  else
    match quicPnSpaceNext space with
    | .error status => (c, status)
    | .ok (packetNumber, space') =>
      let c := c.setSpace o.space space'
      if o.space = .initial ∧ c.retryPendingKeys then (c, .again)
      else
        match buildPacket env c
            (packetToBuild c o packetNumber (packetNumberLengthFor space.nextSend space)) with
        | .error status => (c, status)
        | .ok length =>
          if c.config.maxDatagramSize < length then (c, .limit)
          else
            let c := countProtected c o.space packetNumber
            let status := env.udpSend c.udpCalls
            let c := { c with udpCalls := c.udpCalls + 1 }
            if status ≠ .ok then (c, status)
            else
              let c := c.observe (.sent o.space packetNumber o.frame o.payload)
              match quicLossOnSent c.loss (sentPacketOf o packetNumber length) with
              | .error status => (c, status)
              | .ok loss =>
                ({ c with
                    loss := loss
                    lastActivity := o.now
                    counters := { c.counters with
                      packetsSent := c.counters.packetsSent + 1
                      packetsSentBySpace := Function.update c.counters.packetsSentBySpace o.space
                        (c.counters.packetsSentBySpace o.space + 1)
                      bytesSent := c.counters.bytesSent + length } }, .ok)

/-! ## Losses and the packets they cause -/

/-- Send a payload that is encoded already; a failure gives its descriptor back. -/
def sendEncodedFrame (send : Outgoing → Connection → Option (Connection × Status))
    (o : Outgoing) (c : Connection) : Option (Connection × Status) :=
  match send o c with
  | none => none
  | some (c, .ok) => some (c, .ok)
  | some (c, status) =>
    some (if o.tag ≠ quicConnectionFramesMax then freeFrame c o.tag else c, status)

/-- A retained control frame is sent again from its slot, and flagged when that fails. -/
def resendLost (send : Outgoing → Connection → Option (Connection × Status)) (slot : ℕ)
    (c : Connection) : Option Connection :=
  let kept := c.controlFrames slot
  let (c, tag) := tagForControl c slot
  match sendEncodedFrame send
      { space := kept.space, frame := none, payload := kept.wire, ackEliciting := true,
        tag := tag, now := c.lastActivity } c with
  | none => none
  | some (c, .ok) => some c
  | some (c, _) =>
    some { c.setControl slot { c.controlFrames slot with resendPending := true } with
      counters := { c.counters with
        controlFramesResendDeferred := c.counters.controlFramesResendDeferred + 1 } }

/-- What a lost packet's descriptor sets off: the connection's own frame is sent again, and
any other is reported to the lost handler. -/
def answerLost (send : Outgoing → Connection → Option (Connection × Status))
    (descriptor : TxFrame) (c : Connection) : Option Connection :=
  if descriptor.streamId = quicControlStreamId then
    if descriptor.offset < quicControlFramesMax ∧ (c.controlFrames descriptor.offset).inUse then
      resendLost send descriptor.offset c
    else some c
  else some (c.observe (.lostFrame descriptor))

/-- Count a lost packet in its space. -/
def countLost (c : Connection) (packet : SentPacket) : Connection :=
  { c with counters := { c.counters with
      packetsDeclaredLost := fun space =>
        if space.index = packet.packetNumberSpace then c.counters.packetsDeclaredLost space + 1
        else c.counters.packetsDeclaredLost space } }

/-- The visitor of the loss loops (`on_lost`), called with the index of the packet: the send
time is read again from there once the descriptor has been answered for. -/
def onLost (send : Outgoing → Connection → Option (Connection × Status)) (c : Connection)
    (i : ℕ) (packet : SentPacket) : Option Connection :=
  let c := countLost (c.observe (.declaredLost packet)) packet
  if quicConnectionFramesMax ≤ packet.tag ∨ !(c.frames packet.tag).inUse then
    some { c with counters := { c.counters with
      lostWithoutDescriptor := c.counters.lostWithoutDescriptor + 1 } }
  else
    match answerLost send (c.frames packet.tag) (freeFrame c packet.tag) with
    | none => none
    | some c =>
      match c.loss.sent[i]? with
      | none => none
      | some there =>
        some { c with
          congestion := quicCongestionOnLoss c.congestion there.timeSent there.timeSent }

/-- Declare lost what a space has to give up, as the send path and the timer do. -/
def detectLost (send : Outgoing → Connection → Option (Connection × Status)) (fuel : ℕ)
    (space : Space) (now largestAcked : ℕ) (c : Connection) : Option Connection :=
  quicLossDetect connectionHost fuel space.index (c.spaces space).rtt now largestAcked
    (onLost send) c

/-- The largest acknowledged number of a space, `0` before there is one. -/
def PnSpace.ackedSoFar (s : PnSpace) : ℕ := if s.hasLargestAcked then s.largestAcked else 0

/-- Send one packet. -/
def sendPacket (env : Env) : ℕ → Outgoing → Connection → Option (Connection × Status)
  | 0, _, _ => none
  | fuel + 1, o, c =>
    match sendGuard env o c with
    | .refuse c status => some (c, status)
    | .pass c =>
      if c.loss.sent.length < quicSentPacketsMax then some (sendProtected env o c)
      else
        match detectLost (sendPacket env fuel) fuel o.space o.now
            (c.spaces o.space).ackedSoFar c with
        | none => none
        | some c =>
          if quicSentPacketsMax ≤ c.loss.sent.length then some (c, .limit)
          else some (sendProtected env o c)

/-! ## Frames -/

/-- Send one frame in a packet of its own, with a descriptor when a loss has to be answered
for; whether it was sent is the status. -/
def sendOneFrame (env : Env) (fuel : ℕ) (space : Space) (frame : Frame) (ackEliciting : Bool)
    (descriptor : Option Descriptor) (now : ℕ) (c : Connection) : Option (Connection × Status) :=
  if (c.keysOut space).isNone then some (c, .state)
  else
    match quicFrameEncode (writerInit quicConnectionPayloadMax) frame with
    | .error status => some (c, status)
    | .ok w =>
      if !w.ok then some (c, .limit)
      else
        let minimum := sampleMinimum (packetNumberLengthFor (c.spaces space).nextSend
          (c.spaces space))
        let payload := w.bytes ++ List.replicate (minimum - w.bytes.length) 0
        match descriptor with
        | none =>
          sendEncodedFrame (sendPacket env fuel)
            ⟨space, some frame, payload, ackEliciting, quicConnectionFramesMax, now⟩ c
        | some d =>
          match allocFrame c space d with
          | none => some (c, .limit)
          | some (c, tag) =>
            sendEncodedFrame (sendPacket env fuel)
              ⟨space, some frame, payload, ackEliciting, tag, now⟩ c

/-- The frames whose loss the connection answers for itself. -/
def controlFrameIsRetained : Frame → Bool
  | .resetStream .. | .resetStreamAt .. | .stopSending .. | .newToken .. | .maxData ..
  | .maxStreamData .. | .maxStreams .. | .dataBlocked .. | .streamDataBlocked ..
  | .streamsBlocked .. | .newConnectionId .. | .retireConnectionId .. | .handshakeDone => true
  | _ => false

/-- The first slot that keeps no control frame. -/
def freeSlot (controlFrames : ℕ → ControlFrame) : Option ℕ :=
  (List.range quicControlFramesMax).find? fun i => !(controlFrames i).inUse

/-- The bytes of a frame, when they fit a slot. -/
def retainedWire (frame : Frame) : Option (List UInt8) :=
  match quicFrameEncode (writerInit quicControlWireMax) frame with
  | .error _ => none
  | .ok w => if w.ok then some w.bytes else none

/-- Send one of the connection's own frames, and keep its bytes until it is acknowledged. -/
def sendControlFrame (env : Env) (fuel : ℕ) (space : Space) (frame : Frame)
    (ackEliciting : Bool) (now : ℕ) (c : Connection) : Option (Connection × Status) :=
  if !controlFrameIsRetained frame then sendOneFrame env fuel space frame ackEliciting none now c
  else
    match freeSlot c.controlFrames, retainedWire frame with
    | some slot, some wire =>
      let c := c.setControl slot
        { inUse := true, resendPending := false, space := space, wire := wire }
      match sendOneFrame env fuel space frame ackEliciting
          (some ⟨false, quicControlStreamId, slot, wire.length⟩) now c with
      | none => none
      | some (c, .ok) => some (c, .ok)
      | some (c, status) =>
        some (c.setControl slot { c.controlFrames slot with inUse := false }, status)
    | _, _ =>
      sendOneFrame env fuel space frame ackEliciting none now
        { c with counters := { c.counters with
            controlFramesUnretained := c.counters.controlFramesUnretained + 1 } }

/-- Send a frame of any kind on behalf of a caller. -/
def quicConnectionSendFrame (env : Env) (fuel : ℕ) (space : Space) (frame : Frame)
    (ackEliciting : Bool) (now : ℕ) (c : Connection) : Option (Connection × Status) :=
  if quicConnectionIsClosed c then some (c, .state)
  else sendControlFrame env fuel space frame ackEliciting now c

/-- Send bytes of the handshake stream of a space. -/
def quicConnectionSendCrypto (env : Env) (fuel : ℕ) (space : Space) (offset : ℕ)
    (data : List UInt8) (now : ℕ) (c : Connection) : Option (Connection × Status) :=
  if data = [] then some (c, .invalidArgument)
  else
    sendOneFrame env fuel space (.crypto offset data) true (some ⟨true, 0, offset, data.length⟩)
      now c

/-- Send a retained control frame again because an earlier attempt failed. -/
def resumeControlFrame (env : Env) (fuel : ℕ) (slot now : ℕ) (c : Connection) :
    Option Connection :=
  let deferred := fun c : Connection =>
    { c with counters := { c.counters with
        controlFramesResendDeferred := c.counters.controlFramesResendDeferred + 1 } }
  let kept := c.controlFrames slot
  let (c, tag) := tagForControl c slot
  if quicConnectionFramesMax ≤ tag then some (deferred c)
  else
    match sendEncodedFrame (sendPacket env fuel)
        { space := kept.space, frame := none, payload := kept.wire, ackEliciting := true,
          tag := tag, now := now } c with
    | none => none
    | some (c, .ok) => some (c.setControl slot { c.controlFrames slot with resendPending := false })
    | some (c, _) => some (deferred c)

/-- Send every flagged control frame again. -/
def resumePendingControlFrames (env : Env) (fuel : ℕ) (now : ℕ) (c : Connection) :
    Option Connection :=
  (List.range quicControlFramesMax).foldlM
    (fun c slot =>
      if (c.controlFrames slot).inUse ∧ (c.controlFrames slot).resendPending then
        resumeControlFrame env fuel slot now c
      else some c) c

end WebTransport
