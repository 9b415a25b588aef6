import WebTransport.Quic.ConnectionReceive

/-!
# Received datagrams

How a datagram becomes frames (`wt_quic_connection_receive` and `process_packet` in
`quic/connection_receive.c`): the coalesced packets one after the other, the keys each is opened
with, the walk over its frames, and the record of its number, which comes last.

The packet protection is a parameter, as it is for sending: it takes the mask off a header and
opens what is behind it. The handler of the layer above is one too.
-/

namespace WebTransport

/-! ## The packet protection -/

/-- A packet without its header protection. -/
structure Unprotected where
  bytes : List UInt8
  pnOffset : ℕ
  pnLength : ℕ
  totalLength : ℕ

/-- A packet that was opened (`wt_quic_received_packet_t`). -/
structure ReceivedPacket where
  shortHeader : Bool
  destinationConnectionId : List UInt8
  sourceConnectionId : List UInt8
  packetNumber : ℕ
  totalLength : ℕ
  payload : List UInt8
deriving DecidableEq, Repr

/-- A Retry packet (`wt_quic_retry_packet_t`). -/
structure RetryPacket where
  version : ℕ
  sourceConnectionId : List UInt8
  token : List UInt8

/-- The packet protection on the receiving side. The length of the local connection ID tells
where a short header ends, the largest number received completes a truncated one. -/
structure PacketLayer where
  unprotectHeader : PacketKeys → ℕ → List UInt8 → Except Status Unprotected
  openPacket : PacketKeys → ℕ → ℕ → Unprotected → Except Status ReceivedPacket
  retryDecode : List UInt8 → Option RetryPacket
  retryVerify : List UInt8 → List UInt8 → Bool
  unprotect_failed : ∀ keys idLength bytes, unprotectHeader keys idLength bytes ≠ .error .ok
  open_failed : ∀ keys idLength largest u, openPacket keys idLength largest u ≠ .error .ok
  opened_length : ∀ {keys idLength largest u packet},
    openPacket keys idLength largest u = .ok packet → packet.totalLength = u.totalLength

/-- Take the mask off and open what is behind it. -/
def quicPacketRead (layer : PacketLayer) (keys : PacketKeys) (idLength largest : ℕ)
    (bytes : List UInt8) : Except Status ReceivedPacket :=
  match layer.unprotectHeader keys idLength bytes with
  | .error status => .error status
  | .ok u => layer.openPacket keys idLength largest u

/-! ## Headers -/

/-- The kinds of packets told apart by their first bytes (`wt_quic_packet_kind_t`). -/
inductive PacketKind
  | long
  | short
  | versionNegotiation
deriving DecidableEq, Repr

/-- The version in a long header. -/
def headerVersion (bytes : List UInt8) : ℕ := ((bytes.drop 1).take 4).foldl BigEndian.push 0

/-- The kind of the packet that starts here. -/
def quicPacketKind : List UInt8 → Except Status PacketKind
  | [] => .error .truncated
  | first :: rest =>
    if first.toNat < 0x80 then .ok .short
    else if (first :: rest).length < 5 then .error .truncated
    else if headerVersion (first :: rest) = 0 then .ok .versionNegotiation
    else .ok .long

/-- The types of a long header (`wt_quic_long_packet_type_t`). -/
inductive LongType
  | initial
  | zeroRtt
  | handshake
  | retry
deriving DecidableEq, Repr

/-- The type bits of a first byte. -/
def longType (first : UInt8) : LongType :=
  match first.toNat / 16 % 4 with
  | 0 => .initial
  | 1 => .zeroRtt
  | 2 => .handshake
  | _ => .retry

/-- The space of the packet that starts here, by its unmasked header; Retry and 0-RTT packets
are of none. -/
def headerSpace (bytes : List UInt8) : Option Space :=
  let first := bytes.headD 0
  if first.toNat < 0x80 then some .application
  else
    match longType first with
    | .initial => some .initial
    | .handshake => some .handshake
    | .zeroRtt | .retry => none

/-- The number of values a truncated packet number of some bytes can have. -/
def quicPacketNumberWindow (byteCount : ℕ) : ℕ := 2 ^ (8 * byteCount)

/-- Complete a truncated packet number against the largest one received. -/
def quicPacketNumberDecode (truncated byteCount largestReceived : ℕ) : ℕ :=
  if byteCount = 0 ∨ 4 < byteCount then 0
  else
    let expected := u64Add largestReceived 1
    let window := quicPacketNumberWindow byteCount
    let half := window / 2
    if window - 1 < truncated then 0
    else
      let candidate := expected / window * window + truncated
      if u64Add candidate half ≤ expected ∧ candidate < 2 ^ 62 - window then candidate + window
      else if u64Add expected half < candidate ∧ window ≤ candidate then candidate - window
      else candidate

/-! ## The receiving state -/

/-- A packet whose frames were walked over: its space, its number and its bytes. -/
structure Processed where
  space : Space
  packetNumber : ℕ
  wire : List UInt8
deriving DecidableEq, Repr

/-- What tells packets apart. -/
def Processed.key (p : Processed) : Space × ℕ := (p.space, p.packetNumber)

/-- A connection with what the receive path remembers besides, and the packets it has handed to
the visitor. -/
structure Receiver where
  connection : Connection
  peerSourceConnectionId : Option (List UInt8) := none
  serverPacketReceived : Bool := false
  retrySourceConnectionId : List UInt8 := []
  processed : List Processed := []

/-- Replace the connection. -/
def Receiver.withConnection (r : Receiver) (c : Connection) : Receiver := { r with connection := c }

/-! ## Keys of the Application space -/

/-- `WT_QUIC_KEY_UPDATE_ERROR`. -/
def quicKeyUpdateError : QuicError := 0x0e

/-- Answer the peer's key update. -/
def keyUpdateRespond (env : Env) (now : ℕ) (c : Connection) : Connection × Status :=
  if c.keyUpdateResponsePending ∧ c.keyPhaseFirstPn.isNone then
    closeWith { c with counters := { c.counters with
      keyUpdateErrors := c.counters.keyUpdateErrors + 1 } } quicKeyUpdateError 0 now
  else
    let c := { c with
      previousKeysIn := c.keysIn .application
      keysIn := Function.update c.keysIn .application c.nextKeysIn
      nextKeysIn := none }
    -- A space without outbound keys has zeroed ones in the source's array.
    match env.packetKeysUpdate ((c.keysOut .application).getD ⟨[]⟩) with
    | .error status => (c, status)
    | .ok keysOut =>
      ({ c with
          keysOut := Function.update c.keysOut .application
            ((c.keysOut .application).map fun _ => keysOut)
          keyPhase := !c.keyPhase
          keyPhaseIn := !c.keyPhaseIn
          keyPhaseFirstPn := none
          keyPhaseInFirstPn := none
          keyUpdateResponsePending := true
          keyUpdateAwaitingConfirmation := true
          nextKeysOut := none
          keyUpdatesResponded := c.keyUpdatesResponded + 1
          aeadEncrypted := Function.update c.aeadEncrypted .application 0 }, .ok)

/-- `WT_QUIC_KEY_PHASE_BIT`, read off the first byte. -/
def keyPhaseBit (bytes : List UInt8) : Bool := (bytes.headD 0).toNat / 4 % 2 = 1

/-- The truncated packet number of a packet without its mask. -/
def truncatedNumber (u : Unprotected) : ℕ :=
  ((u.bytes.drop u.pnOffset).take u.pnLength).foldl (fun acc b => acc * 256 % 2 ^ 64 + b.toNat) 0

/-- The keys of the phase after the current one open the packet, or the retired ones do. -/
def openNextPhase (layer : PacketLayer) (env : Env) (largest now : ℕ) (u : Unprotected)
    (c : Connection) : Connection × Except Status ReceivedPacket :=
  let idLength := c.config.localConnectionId.length
  let keepCopy := c.previousKeysIn.isSome && decide (u.totalLength ≤ quicMaxPacket)
  match ensureNext env c.nextKeysIn (c.keysIn .application) with
  | (some next, .ok) =>
    let c := { c with nextKeysIn := some next }
    match layer.openPacket next idLength largest u with
    | .ok packet =>
      match keyUpdateRespond env now c with
      | (c, .ok) => (c, .ok packet)
      | (c, status) => (c, .error status)
    | .error status =>
      if status ≠ .authentication ∨ !keepCopy then (c, .error status)
      else
        match layer.openPacket (c.previousKeysIn.getD ⟨[]⟩) idLength largest u with
        | .error _ => (c, .error .authentication)
        | .ok packet =>
          if c.keyPhaseInFirstPn.isSome then
            match closeWith { c with counters := { c.counters with
                keyUpdateErrors := c.counters.keyUpdateErrors + 1 } } quicKeyUpdateError 0 now with
            | (c, .ok) => (c, .ok packet)
            | (c, status) => (c, .error status)
          else (c, .ok packet)
  | (next, status) => ({ c with nextKeysIn := next }, .error status)

/-- Read a packet of the Application space: its Key Phase bit and its number choose the keys. -/
def readApplicationPacket (layer : PacketLayer) (env : Env) (keys : PacketKeys)
    (largest now : ℕ) (bytes : List UInt8) (c : Connection) :
    Connection × Except Status ReceivedPacket :=
  let idLength := c.config.localConnectionId.length
  match layer.unprotectHeader keys idLength bytes with
  | .error status => (c, .error status)
  | .ok u =>
    if keyPhaseBit u.bytes = c.keyPhaseIn then
      match layer.openPacket keys idLength largest u with
      | .error status => (c, .error status)
      | .ok packet =>
        ({ c with keyPhaseInFirstPn :=
            if c.keyPhaseInFirstPn.isNone then some packet.packetNumber
            else c.keyPhaseInFirstPn }, .ok packet)
    else
      let packetNumber := quicPacketNumberDecode (truncatedNumber u) u.pnLength largest
      if c.keyPhaseInFirstPn.any (packetNumber < ·) then
        match c.previousKeysIn with
        | none => (c, .error .authentication)
        | some previous => (c, layer.openPacket previous idLength largest u)
      else openNextPhase layer env largest now u c

/-! ## Frames of a packet -/

/-- What the layer above does with a frame; no result stands for a call that does not return. -/
abbrev FrameHandler := Visit → Frame → Connection → Option (Connection × Status)

/-- The visitor with the handler it calls. -/
def visitAndHandle (env : Env) (handler : FrameHandler) (fuel : ℕ) (visit : Visit) (frame : Frame)
    (c : Connection) : Option (Connection × Status) :=
  match visitFrame env fuel visit frame c with
  | none => none
  | some (c, .returned status) => some (c, status)
  | some (c, .deliver) =>
    match handler visit frame c with
    | none => none
    | some (c, status) => some (handlerReturned visit frame status c)

/-- Whether a frame makes its packet ask for an acknowledgement. -/
def asksForAck (visit : Visit) (frame : Frame) (c : Connection) : Bool :=
  !frameIgnored frame c && !frameForbiddenInSpace frame visit.space && frameAckEliciting frame

/-- The walk over the frames of a payload: the status, the error a frame that cannot be decoded
names, and whether the packet asks for an acknowledgement. A frame takes at least one byte, so
the length of the payload bounds the rounds. -/
def quicFramesDecode (env : Env) (handler : FrameHandler) (fuel : ℕ) (visit : Visit) :
    ℕ → List UInt8 → Bool → Connection → Option (Connection × FrameError × Bool)
  | _, [], asks, c => some (c, ⟨.ok, none⟩, asks)
  | 0, _, asks, c => some (c, ⟨.ok, none⟩, asks)
  | rounds + 1, payload, asks, c =>
    match quicFrameDecode payload with
    | .error error => some (c, error, asks)
    | .ok (frame, rest) =>
      let asks := asks || asksForAck visit frame c
      match visitAndHandle env handler fuel visit frame c with
      | none => none
      | some (c, .ok) => quicFramesDecode env handler fuel visit rounds rest asks c
      | some (c, status) => some (c, ⟨status, none⟩, asks)

/-- Hand the frames of a packet to the visitor; one that cannot be decoded closes the
connection. -/
def processPacket (env : Env) (handler : FrameHandler) (fuel : ℕ) (visit : Visit)
    (payload : List UInt8) (c : Connection) : Option (Connection × Status × Bool) :=
  match quicFramesDecode env handler fuel visit payload.length payload false c with
  | none => none
  | some (c, ⟨.ok, _⟩, asks) => some (c, .ok, asks)
  | some (c, ⟨status, error⟩, asks) =>
    let c :=
      if !quicConnectionIsClosed c ∧ (status = .protocol ∨ status = .truncated) then
        (closeWith c (error.getD quicFrameEncodingError) 0 visit.now).1
      else c
    if quicConnectionIsClosed c then some (c, .ok, asks) else some (c, status, false)

/-! ## Packets of a datagram -/

/-- The sequence number of one of this endpoint's connection IDs. -/
def localConnectionIdSequence (c : Connection) (id : List UInt8) : Option ℕ :=
  if id = c.config.localConnectionId then some 0
  else if !c.handshakeConfirmed ∧ c.originalDestinationId ≠ [] ∧ id = c.originalDestinationId then
    some 0
  else ((idSlot c.issuedIds (·.id = id)).bind c.issuedIds).map (·.sequence)

/-- `WT_QUIC_MAX_RETRY_TOKEN`. -/
def quicMaxRetryToken : ℕ := 256

/-- A Retry is answered, not read. -/
def onRetryPacket (layer : PacketLayer) (env : Env) (fuel : ℕ) (bytes : List UInt8)
    (r : Receiver) : Option (Receiver × Status) :=
  let c := r.connection
  if c.config.role ≠ .client ∨ c.retryAccepted ∨ r.serverPacketReceived then some (r, .ok)
  else
    match layer.retryDecode bytes with
    | none => some (r, .ok)
    | some retry =>
      if retry.version ≠ c.config.version ∨ retry.token = [] ∨ retry.sourceConnectionId = [] ∨
          (c.originalDestinationId ≠ [] ∧ retry.sourceConnectionId = c.originalDestinationId) ∨
          !layer.retryVerify c.originalDestinationId bytes ∨
          quicMaxRetryToken < retry.token.length then some (r, .ok)
      else
        let c := { adoptPeerConnectionId { c with retryToken := retry.token }
            retry.sourceConnectionId with
          retryAccepted := true
          retryPendingKeys := true }
        (quicLossDiscardSpace connectionHost fuel Space.initial.index
          (onLost (sendPacket env fuel)) c).map fun lost =>
            ({ r with
                connection := lost.1
                retrySourceConnectionId := retry.sourceConnectionId }, .ok)

/-- What one round of the loop over a datagram comes to: the loop ends, or goes on behind the
packet. -/
inductive RoundEnd
  | done (status : Status)
  | next (totalLength : ℕ)
deriving DecidableEq, Repr

/-- The largest number received in a space, `0` before there is one. -/
def PnSpace.receivedSoFar (s : PnSpace) : ℕ :=
  if s.received.hasLargest then s.received.largestReceived else 0

/-- Open the packet of a space that starts here. -/
def readPacket (layer : PacketLayer) (env : Env) (space : Space) (keys : PacketKeys) (now : ℕ)
    (bytes : List UInt8) (c : Connection) : Connection × Except Status ReceivedPacket :=
  let largest := (c.spaces space).receivedSoFar
  if space = .application then readApplicationPacket layer env keys largest now bytes c
  else (c, quicPacketRead layer keys c.config.localConnectionId.length largest bytes)

/-- A packet that was opened: its frames are walked over, and then its number is recorded. -/
def takePacket (env : Env) (handler : FrameHandler) (fuel : ℕ) (space : Space) (now : ℕ)
    (bytes : List UInt8) (packet : ReceivedPacket) (r : Receiver) : Option (Receiver × RoundEnd) :=
  match localConnectionIdSequence r.connection packet.destinationConnectionId with
  | none => some (r, .done .ok)
  | some sequence =>
    let r := { r with
      peerSourceConnectionId :=
        if !packet.shortHeader ∧ r.peerSourceConnectionId.isNone ∧
            packet.sourceConnectionId.length ≤ quicMaxConnectionIdLength then
          some packet.sourceConnectionId
        else r.peerSourceConnectionId
      processed := ⟨space, packet.packetNumber, bytes.take packet.totalLength⟩ :: r.processed }
    match processPacket env handler fuel ⟨space, now, sequence⟩ packet.payload r.connection with
    | none => none
    | some (c, .ok, asks) =>
      let c := if space = .handshake then quicConnectionDiscardKeys c .initial else c
      let c := { c.setSpace space
          { c.spaces space with
            received := quicAckRecord (c.spaces space).received packet.packetNumber asks } with
        receivedAt := Function.update c.receivedAt space now }
      let r := { r with
        connection := c
        serverPacketReceived :=
          r.serverPacketReceived || decide (space = .initial ∧ c.config.role = .client) }
      if packet.totalLength = 0 ∨ bytes.length < packet.totalLength then some (r, .done .state)
      else some (r, .next packet.totalLength)
    | some (c, status, _) => some (r.withConnection c, .done status)

/-- One packet for which this endpoint may have keys. -/
def receiveInSpace (layer : PacketLayer) (env : Env) (handler : FrameHandler) (fuel : ℕ)
    (space : Space) (now : ℕ) (bytes : List UInt8) (r : Receiver) : Option (Receiver × RoundEnd) :=
  match r.connection.keysIn space with
  | none => some (r, .done .ok)
  | some keys =>
    match readPacket layer env space keys now bytes r.connection with
    | (c, .ok packet) => takePacket env handler fuel space now bytes packet (r.withConnection c)
    | (c, .error .authentication) =>
      let c := { c with aeadFailed := c.aeadFailed + 1 }
      if c.aeadIntegrityLimit < c.aeadFailed then
        let closed := closeWith c quicAeadLimitReached 0 now
        some (r.withConnection closed.1, .done closed.2)
      else some (r.withConnection c, .done .ok)
    | (c, .error .truncated) => some (r.withConnection c, .done .ok)
    | (c, .error status) => some (r.withConnection c, .done status)

/-- One round of the loop: the packet that starts the rest of the datagram. -/
def receiveRound (layer : PacketLayer) (env : Env) (handler : FrameHandler)
    (fuel datagramLength now : ℕ) (bytes : List UInt8) (r : Receiver) :
    Option (Receiver × RoundEnd) :=
  let role := r.connection.config.role
  match quicPacketKind bytes with
  | .error .truncated => some (r, .done .ok)
  | .error status => some (r, .done status)
  | .ok .versionNegotiation => some (r, .done .ok)
  | .ok .short => receiveInSpace layer env handler fuel .application now bytes r
  | .ok .long =>
    if headerVersion bytes ≠ r.connection.config.version then some (r, .done .ok)
    else
      match longType (bytes.headD 0) with
      | .initial =>
        if role = .server ∧ datagramLength < quicMinInitialDatagramSize then some (r, .done .ok)
        else receiveInSpace layer env handler fuel .initial now bytes r
      | .handshake => receiveInSpace layer env handler fuel .handshake now bytes r
      | .retry =>
        match onRetryPacket layer env fuel bytes r with
        | none => none
        | some (r, status) => some (r, .done status)
      | .zeroRtt => some (r, .done .ok)

/-- The loop over the coalesced packets. A packet takes at least one byte, so the length of the
datagram bounds the rounds. -/
def receiveLoop (layer : PacketLayer) (env : Env) (handler : FrameHandler)
    (fuel datagramLength now : ℕ) : ℕ → List UInt8 → Receiver → Option (Receiver × Status)
  | _, [], r => some (r, .ok)
  | 0, _, r => some (r, .ok)
  | rounds + 1, bytes, r =>
    match receiveRound layer env handler fuel datagramLength now bytes r with
    | none => none
    | some (r, .done status) => some (r, status)
    | some (r, .next totalLength) =>
      receiveLoop layer env handler fuel datagramLength now rounds (bytes.drop totalLength) r

/-- A datagram that arrived, from the address of the peer or from another one. -/
def quicConnectionReceive (layer : PacketLayer) (env : Env) (handler : FrameHandler) (fuel : ℕ)
    (fromPeer : Bool) (datagram : List UInt8) (now : ℕ) (r : Receiver) :
    Option (Receiver × Status) :=
  if r.connection.hasPeer ∧ !fromPeer then some (r, .ok)
  else
    let r := r.withConnection { r.connection with hasPeer := true }
    if datagram = [] then some (r, .ok)
    else
      receiveLoop layer env handler fuel datagram.length now datagram.length datagram
        (r.withConnection { r.connection with lastActivity := now })

end WebTransport
