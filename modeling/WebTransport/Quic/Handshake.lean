import WebTransport.Quic.ConnectionSend
import WebTransport.Quic.CryptoStream
import WebTransport.Tls.Session

/-!
# The TLS handshake over CRYPTO frames

The driver between a connection and a TLS machine (`quic/handshake.c`). CRYPTO frames are put
together per encryption level, whole messages are handed to the machine one at a time, what
the machine writes goes to the send stream of its level, and the keys a message makes
available are installed into the connection. A loss comes back as an entry of the retransmit
table, from which `flush` sends the bytes again.

The connection reports a lost descriptor while it works, and the driver's handler touches only
the retransmit table, which the connection never reads. So the reports of a call are taken
from what the connection recorded, when the call has returned.
-/

namespace WebTransport

/-- `WT_QUIC_HANDSHAKE_FLIGHT_MAX`. -/
def quicHandshakeFlightMax : ℕ := 4096

/-- `WT_QUIC_HANDSHAKE_MESSAGE_MAX`. -/
def quicHandshakeMessageMax : ℕ := 1024

/-- `WT_QUIC_HANDSHAKE_PACKET_RESERVE`. -/
def quicHandshakePacketReserve : ℕ := 128

/-- `WT_QUIC_HANDSHAKE_RETRANSMIT_MAX`. -/
def quicHandshakeRetransmitMax : ℕ := 8

/-- `WT_QUIC_HANDSHAKE_ALPN_MAX`. -/
def quicHandshakeAlpnMax : ℕ := 64

/-- `WT_QUIC_HANDSHAKE_PARAMETERS_MAX`. -/
def quicHandshakeParametersMax : ℕ := 1024

/-- `WT_QUIC_FRAME_CRYPTO`. -/
def quicFrameCrypto : ℕ := 0x06

/-- The error code of a refused handshake: CRYPTO_ERROR with the alert in its low byte. -/
def alertFor : Status → ℕ
  | .invalidArgument => 0x0100 + 47
  | .protocol | .truncated => 0x0100 + 50
  | .tls => 0x0100 + 40
  | .state => 0x0100 + 10
  | .trust => 0x0100 + 42
  | .authentication => 0x0100 + 51
  | .ok | .outOfMemory | .timeout | .closed | .again | .limit | .overflow | .unsupported | .io =>
    0x0100 + 80

/-- The states of the driver (`wt_quic_handshake_state_t`). -/
inductive HandshakeState
  | idle
  | clientWaiting
  | serverWaiting
  | connected
  | failed
deriving DecidableEq, Repr

/-- A range of CRYPTO bytes that has to be sent again (`wt_quic_handshake_retransmit_t`). -/
structure HandshakeRetransmit where
  inUse : Bool := false
  space : Space := .initial
  offset : ℕ := 0
  length : ℕ := 0
deriving DecidableEq, Repr

/-- A message that was handed to the machine: the space it was read from, what the machine
answered, and the machine before and after. -/
structure Handing (C S : Type) where
  space : Space
  message : List UInt8
  status : Status
  before : TlsMachine C S
  after : TlsMachine C S
deriving DecidableEq, Repr

/-- The driver (`wt_quic_handshake_t`), with the connection it works on. `handed` is what an
observer of the machine sees. -/
structure Handshake (C S : Type) where
  connection : Connection
  tls : TlsMachine C S
  send : Space → CryptoSend := fun _ => .empty
  recv : Space → CryptoRecv := fun _ => .empty
  retransmit : ℕ → HandshakeRetransmit := fun _ => {}
  state : HandshakeState := .idle
  failure : Status := .ok
  errorCode : ℕ := 0
  handshakeKeysInstalled : Bool := false
  applicationKeysInstalled : Bool := false
  serverFlightBuilt : Bool := false
  handshakeDonePending : Bool := false
  confirmed : Bool := false
  alpn : List UInt8 := []
  peerParameters : List UInt8 := []
  handed : List (Handing C S) := []

/-- What the driver calls outside of itself: the steps of the machines and the packet keys of
a traffic secret. -/
structure HandshakeEnv (C S : Type) extends TlsSteps C S where
  clientBegin : Except Refusal (C × List UInt8)
  serverBegin : Except Refusal S
  packetKeysFromSecret : List UInt8 → Aead → Except Refusal PacketKeys

variable {C S : Type}

namespace Handshake

/-- Name the code the connection is to close with. -/
def hintClose (h : Handshake C S) (code frameType : ℕ) : Handshake C S :=
  { h with connection := { h.connection with
      closeHint := some ⟨code, frameType,
        (h.connection.closeHint.map CloseHint.application).getD false⟩ } }

/-- The handshake fails with a code. -/
def failWith (h : Handshake C S) (status : Status) (code frameType : ℕ) : Handshake C S :=
  { h with state := .failed, failure := status, errorCode := code }.hintClose code frameType

/-- The handshake fails with the alert of a status. -/
def fail (h : Handshake C S) (status : Status) (frameType : ℕ) : Handshake C S :=
  h.failWith status (alertFor status) frameType

/-- Replace one entry of the retransmit table. -/
def setRetransmit (h : Handshake C S) (i : ℕ) (entry : HandshakeRetransmit) : Handshake C S :=
  { h with retransmit := Function.update h.retransmit i entry }

/-- Replace the send stream of a space. -/
def setSend (h : Handshake C S) (space : Space) (send : CryptoSend) : Handshake C S :=
  { h with send := Function.update h.send space send }

/-- Replace the receive stream of a space. -/
def setRecv (h : Handshake C S) (space : Space) (recv : CryptoRecv) : Handshake C S :=
  { h with recv := Function.update h.recv space recv }

end Handshake

/-! ## Keys and messages -/

section Messages

variable (tls : HandshakeEnv C S)

/-- Install the keys of one level from its traffic secrets. -/
def installLevel (space : Space) (secrets : List UInt8 × List UInt8) (h : Handshake C S) :
    Handshake C S × Status :=
  match tls.packetKeysFromSecret secrets.1 h.connection.config.aead with
  | .error status => (h, status.1)
  | .ok keys =>
    let h := { h with connection := quicConnectionSetKeys h.connection space true keys }
    match tls.packetKeysFromSecret secrets.2 h.connection.config.aead with
    | .error status => (h, status.1)
    | .ok keys =>
      ({ h with connection := quicConnectionSetKeys h.connection space false keys }, .ok)

/-- Install the handshake keys, once. -/
def installHandshakeKeys (h : Handshake C S) : Handshake C S × Status :=
  if h.handshakeKeysInstalled then (h, .ok)
  else
    match h.tls.handshakeSecrets tls.toTlsSteps with
    | .error status => (h, status)
    | .ok secrets =>
      if h.connection.keysIn .initial = none then (h, .state)
      else
        match installLevel tls .handshake secrets h with
        | (h, .ok) => ({ h with handshakeKeysInstalled := true }, .ok)
        | (h, status) => (h, status)

/-- Install the application keys, once. -/
def installApplicationKeys (h : Handshake C S) : Handshake C S × Status :=
  if h.applicationKeysInstalled then (h, .ok)
  else
    match h.tls.applicationSecrets tls.toTlsSteps with
    | .error status => (h, status)
    | .ok secrets =>
      match installLevel tls .application secrets h with
      | (h, .ok) => ({ h with applicationKeysInstalled := true }, .ok)
      | (h, status) => (h, status)

/-- Append a message of the machine's to the level it belongs to. -/
def queueMessage (space : Space) (message : List UInt8) (h : Handshake C S) :
    Handshake C S × Status :=
  match quicCryptoSendAppend (h.send space) message with
  | .ok send => (h.setSend space send, .ok)
  | .error .limit => (h.fail .limit 0, .limit)
  | .error status => (h, status)

/-- Keep the negotiated protocol, the first time it is reported. -/
def keepAlpn (h : Handshake C S) : Handshake C S :=
  let view := h.tls.alpn tls.toTlsSteps
  if h.alpn = [] ∧ view.length ≤ quicHandshakeAlpnMax then { h with alpn := view } else h

/-- Keep the peer's transport parameters, the first time they are reported. -/
def keepParameters (h : Handshake C S) : Handshake C S × Status :=
  let view := h.tls.transportParameters tls.toTlsSteps
  if h.peerParameters ≠ [] then (h, .ok)
  else if quicHandshakeParametersMax < view.length then
    (h.failWith .limit quicTransportParameterError quicFrameCrypto, .limit)
  else ({ h with peerParameters := view }, .ok)

/-- A step of the driver that fails the handshake when it does not succeed. -/
def orFail (r : Handshake C S × Status) : Handshake C S × Status :=
  if r.2 = .ok then r else (r.1.fail r.2 quicFrameCrypto, r.2)

/-- From the ServerHello on, a client has the handshake keys. -/
def clientHandshakeLevel (client : TlsClient C) (h : Handshake C S) : Handshake C S × Status :=
  if client.state = .start ∨ client.state = .waitServerHello then (h, .ok)
  else orFail (installHandshakeKeys tls h)

/-- What a consumed message makes available to a client. -/
def clientAdvance (client : TlsClient C) (h : Handshake C S) : Handshake C S × Status :=
  match clientHandshakeLevel tls client h with
  | (h, .ok) =>
    if client.state = .connected then
      match orFail (installApplicationKeys tls h) with
      | (h, .ok) => ({ h with state := .connected }, .ok)
      | (h, status) => (h, status)
    else (h, .ok)
  | (h, status) => (h, status)

/-- The rest of the server's flight, built once. -/
def buildFlight (server : TlsServer S) (h : Handshake C S) : Handshake C S × Status :=
  if h.serverFlightBuilt then (h, .ok)
  else
    let answer := tlsServerFlight tls.toTlsSteps server quicHandshakeFlightMax
    let h := { h with tls := .server answer.machine }
    if answer.status ≠ .ok then (h.fail answer.status quicFrameCrypto, answer.status)
    else queueMessage .handshake answer.output { h with serverFlightBuilt := true }

/-- From the ClientHello on, a server has the handshake keys and its flight is built. -/
def serverHandshakeLevel (server : TlsServer S) (h : Handshake C S) : Handshake C S × Status :=
  if server.state = .start ∨ server.state = .waitClientHello then (h, .ok)
  else
    match orFail (installHandshakeKeys tls h) with
    | (h, .ok) => buildFlight tls server h
    | (h, status) => (h, status)

/-- What a consumed message makes available to a server. -/
def serverAdvance (server : TlsServer S) (h : Handshake C S) : Handshake C S × Status :=
  match serverHandshakeLevel tls server h with
  | (h, .ok) =>
    if server.state = .connected then
      match orFail (installApplicationKeys tls h) with
      | (h, .ok) =>
        ({ h with
            state := .connected
            confirmed := true
            handshakeDonePending := true
            connection := quicConnectionDiscardKeys h.connection .handshake }, .ok)
      | (h, status) => (h, status)
    else (h, .ok)
  | (h, status) => (h, status)

/-- What follows a message the machine consumed: its views are copied, its bytes are taken
from the stream, what the machine wrote is queued and the keys are installed. -/
def afterMessage (space : Space) (length : ℕ) (output : List UInt8) (h : Handshake C S) :
    Handshake C S × Status :=
  match keepParameters tls (keepAlpn tls h) with
  | (h, .ok) =>
    match quicCryptoRecvConsume (h.recv space) length with
    | .error status => (h, status)
    | .ok recv =>
      let h := h.setRecv space recv
      let outputSpace := if h.tls.isClient then Space.handshake else .initial
      match if output = [] then (h, .ok) else queueMessage outputSpace output h with
      | (h, .ok) =>
        match h.tls with
        | .client client => clientAdvance tls client h
        | .server server => serverAdvance tls server h
      | (h, status) => (h, status)
  | (h, status) => (h, status)

/-- One whole message of a space is handed to the machine. -/
def processMessage (space : Space) (message : List UInt8) (h : Handshake C S) :
    Handshake C S × Status :=
  let answer := h.tls.receive tls.toTlsSteps message quicHandshakeMessageMax
  let h := { h with
    tls := answer.machine
    handed := h.handed ++ [⟨space, message, answer.status, h.tls, answer.machine⟩] }
  if answer.status ≠ .ok then (h.fail answer.status quicFrameCrypto, answer.status)
  else afterMessage tls space message.length answer.output h

/-- Every whole message a level has is handed to the machine, in order. Each takes bytes from
the stream, so as many rounds as there are bytes are enough. -/
def processMessages (space : Space) : ℕ → Handshake C S → Handshake C S × Status
  | 0, h => (h, .ok)
  | rounds + 1, h =>
    let available := quicCryptoRecvAvailable (h.recv space)
    let length := tlsHandshakeMessageLen available
    if length = 0 then (h, .ok)
    else
      match processMessage tls space (available.take length) h with
      | (h, .ok) => processMessages space rounds h
      | (h, status) => (h, status)

/-- Start a client's handshake: the ClientHello goes to the Initial stream. -/
def quicHandshakeStartClient (connection : Connection) : Except Status (Handshake C S) :=
  match tls.clientBegin with
  | .error status => .error status.1
  | .ok (data, hello) =>
    let h : Handshake C S :=
      { connection := connection, tls := .client ⟨.waitServerHello, data⟩ }
    match queueMessage .initial hello h with
    | (h, .ok) => .ok { h with state := .clientWaiting }
    | (_, status) => .error status

/-- Start a server's handshake, which sends nothing before a ClientHello arrives. -/
def quicHandshakeStartServer (connection : Connection) : Except Status (Handshake C S) :=
  match tls.serverBegin with
  | .error status => .error status.1
  | .ok data =>
    .ok {
      connection := connection
      tls := .server ⟨.waitClientHello, false, data⟩
      state := .serverWaiting }

/-- The handler of CRYPTO and HANDSHAKE_DONE frames (`wt_quic_handshake_on_frame`). -/
def quicHandshakeOnFrame (space : Space) (frame : Frame) (h : Handshake C S) :
    Handshake C S × Status :=
  if h.state = .failed then (h, .ok)
  else
    match frame with
    | .crypto offset data =>
      match quicCryptoRecvInsert (h.recv space) offset data with
      | .error .limit => (h.failWith .limit quicCryptoBufferExceeded quicFrameCrypto, .limit)
      | .error status => (h, status)
      | .ok recv =>
        let h := h.setRecv space recv
        processMessages tls space (quicCryptoRecvAvailable (h.recv space)).length h
    | .handshakeDone =>
      if h.tls.isClient then
        ({ h with
            confirmed := true
            connection := { quicConnectionDiscardKeys h.connection .handshake with
              handshakeConfirmed := true } }, .ok)
      else (h, .ok)
    -- Not this layer's frame: the next handler sees it.
    | _ => (h, .ok)

end Messages

/-! ## Losses and sending -/

/-- The connection reports a lost descriptor (`wt_quic_handshake_on_lost`). A table without a
free entry drops the report. -/
def quicHandshakeOnLost (descriptor : TxFrame) (h : Handshake C S) : Handshake C S :=
  if !descriptor.isCrypto then h
  else
    match (List.range quicHandshakeRetransmitMax).find? (fun i => !(h.retransmit i).inUse) with
    | some i =>
      h.setRetransmit i ⟨true, descriptor.space, descriptor.offset, descriptor.length⟩
    | none => h

/-- Take the reports out of what a connection recorded. -/
def reportEvents : List ConnectionEvent → Handshake C S → Handshake C S
  | [], h => h
  | .lostFrame descriptor :: events, h => reportEvents events (quicHandshakeOnLost descriptor h)
  | .sent .. :: events, h => reportEvents events h
  | .declaredLost _ :: events, h => reportEvents events h

/-- A call left the connection as `c`, and its reports reach the driver. -/
def returned (c : Connection) (h : Handshake C S) : Handshake C S :=
  { reportEvents (c.trace.drop h.connection.trace.length) h with connection := c }

/-- The room of one CRYPTO frame in a packet. -/
def cryptoRangeMax (c : Connection) : ℕ :=
  let reserved :=
    if c.retryAccepted ∧ c.retryToken.length < quicHandshakePacketReserve then
      quicHandshakePacketReserve + c.retryToken.length
    else quicHandshakePacketReserve
  if c.config.maxDatagramSize ≤ reserved then 1 else c.config.maxDatagramSize - reserved

section Flush

variable (env : Env) (fuel now : ℕ)

/-- Send CRYPTO bytes through the connection. -/
def sendCrypto (space : Space) (offset : ℕ) (data : List UInt8) (h : Handshake C S) :
    Option (Handshake C S × Status) :=
  match quicConnectionSendCrypto env fuel space offset data now h.connection with
  | none => none
  | some (c, status) => some (returned c h, status)

/-- The answer of `flush` when a send does not succeed: a send that has to wait is no error. -/
def flushAnswer (status : Status) : Status :=
  if status = .again ∨ status = .limit then .ok else status

/-- What a loss asked for is sent first. The second component is the answer of `flush` when it
returns here. -/
def flushRetransmits : List ℕ → Handshake C S → Option (Handshake C S × Option Status)
  | [], h => some (h, none)
  | i :: rest, h =>
    let entry := h.retransmit i
    if !entry.inUse then flushRetransmits rest h
    else
      match quicCryptoSendRetransmit (h.send entry.space) entry.offset entry.length with
      | .error _ => flushRetransmits rest (h.setRetransmit i { entry with inUse := false })
      | .ok data =>
        match sendCrypto env fuel now entry.space entry.offset data h with
        | none => none
        | some (h, .ok) => flushRetransmits rest
            (h.setRetransmit i { h.retransmit i with inUse := false })
        | some (h, status) => some (h, some (flushAnswer status))

/-- The bytes of a space that were never sent. Every round hands out at least one of them. -/
def flushUnsent (space : Space) : ℕ → Handshake C S → Option (Handshake C S × Option Status)
  | 0, h => some (h, none)
  | rounds + 1, h =>
    match quicCryptoSendNext (h.send space) (cryptoRangeMax h.connection) with
    | .error .state => some (h, none)
    | .error status => some (h, some status)
    | .ok (offset, data) =>
      match sendCrypto env fuel now space offset data h with
      | none => none
      | some (h, .ok) =>
        match quicCryptoSendAdvance (h.send space) data.length with
        | .error status => some (h, some status)
        | .ok send => flushUnsent space rounds (h.setSend space send)
      | some (h, status) => some (h, some (flushAnswer status))

/-- The spaces, the oldest level first. -/
def flushUnsentSpaces : List Space → Handshake C S → Option (Handshake C S × Option Status)
  | [], h => some (h, none)
  | space :: rest, h =>
    match flushUnsent env fuel now space (h.send space).data.length h with
    | none => none
    | some (h, none) => flushUnsentSpaces rest h
    | some (h, some status) => some (h, some status)

/-- The server's confirmation, once the handshake is complete. -/
def flushDone (h : Handshake C S) : Option (Handshake C S × Status) :=
  if h.handshakeDonePending ∧ (h.connection.keysOut .application).isSome then
    match quicConnectionSendFrame env fuel .application .handshakeDone true now h.connection with
    | none => none
    | some (c, .ok) => some ({ returned c h with handshakeDonePending := false }, .ok)
    | some (c, status) => some (returned c h, flushAnswer status)
  else some (h, .ok)

/-- Send what the handshake has to send (`wt_quic_handshake_flush`). -/
def quicHandshakeFlush (h : Handshake C S) : Option (Handshake C S × Status) :=
  if h.state = .idle ∨ h.state = .failed then some (h, .ok)
  else
    match flushRetransmits env fuel now (List.range quicHandshakeRetransmitMax) h with
    | none => none
    | some (h, some status) => some (h, status)
    | some (h, none) =>
      match flushUnsentSpaces env fuel now Space.all h with
      | none => none
      | some (h, some status) => some (h, status)
      | some (h, none) => flushDone env fuel now h

end Flush

/-- Whether the handshake has something to send. -/
def quicHandshakePending (h : Handshake C S) : Bool :=
  if h.state = .idle ∨ h.state = .failed then false
  else
    Space.all.any (fun space => quicCryptoSendPending (h.send space)) ||
      (List.range quicHandshakeRetransmitMax).any (fun i => (h.retransmit i).inUse) ||
      h.handshakeDonePending

end WebTransport
