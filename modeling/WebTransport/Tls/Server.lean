import WebTransport.Tls.HelloBuild
import WebTransport.Tls.KeySchedule

/-!
# The TLS server

The server's machine with everything it keeps (`tls/session_server.c`). The ClientHello is answered
with a ServerHello, the rest of the flight is built by a call of its own, and the client's Finished
ends the handshake. The flight absorbs each of its four messages as it writes it.
-/

namespace WebTransport

/-- `wt_tls_server_identity_t`. -/
structure TlsServerIdentity where
  certificate : List (List UInt8)
  privateKey : List UInt8
  signatureScheme : ℕ
deriving DecidableEq, Repr

/-- `wt_tls_server_config_t`. -/
structure TlsServerConfig where
  identity : TlsServerIdentity
  alpn : Option (List UInt8)
  requireTransportParameters : Bool
  transportParameters : List UInt8
  x25519Private : Option (List UInt8)
deriving DecidableEq, Repr

/-- The room for a signature in a flight. -/
def tlsSignatureMax : ℕ := 1024

/-- `wt_tls_server_t`. The transcript is the messages it absorbed. -/
structure TlsServerMachine where
  config : TlsServerConfig
  state : TlsServerState
  transcript : List UInt8
  privateKey : List UInt8
  publicKey : List UInt8
  handshakeSecret : List UInt8
  masterSecret : List UInt8
  clientHandshakeSecret : List UInt8
  serverHandshakeSecret : List UInt8
  clientApplicationSecret : List UInt8
  serverApplicationSecret : List UInt8
  serverRandom : List UInt8
  sessionId : List UInt8
  flightBuilt : Bool
  peerTransportParameters : List UInt8
  negotiatedAlpn : List UInt8
deriving DecidableEq, Repr

/-- A step of a handler: it gives a result, or the machine is left as it is with a refusal. -/
abbrev TlsServerStep := Except (TlsServerMachine × Refusal)

namespace TlsServerMachine

/-- Zero every secret and the private key (`server_scrub`). -/
def scrub (server : TlsServerMachine) : TlsServerMachine :=
  { server with
    handshakeSecret := tls13Zeros
    masterSecret := tls13Zeros
    clientHandshakeSecret := tls13Zeros
    serverHandshakeSecret := tls13Zeros
    clientApplicationSecret := tls13Zeros
    serverApplicationSecret := tls13Zeros
    privateKey := tls13Zeros }

/-- Give the handshake up (`server_fail`): the transcript is released as well. -/
def fail (server : TlsServerMachine) : TlsServerMachine :=
  { server.scrub with transcript := [], state := .failed }

/-- A machine of zeros with a configuration. -/
def zeroed (config : TlsServerConfig) : TlsServerMachine where
  config                  := config
  state                   := .start
  transcript              := []
  privateKey              := tls13Zeros
  publicKey               := tls13Zeros
  handshakeSecret         := tls13Zeros
  masterSecret            := tls13Zeros
  clientHandshakeSecret   := tls13Zeros
  serverHandshakeSecret   := tls13Zeros
  clientApplicationSecret := tls13Zeros
  serverApplicationSecret := tls13Zeros
  serverRandom            := []
  sessionId               := []
  flightBuilt             := false
  peerTransportParameters := []
  negotiatedAlpn          := []

/-- A check of a handler, of a machine that is left as it is. -/
def check {α : Type} (server : TlsServerMachine) (x : Except Refusal α) : TlsServerStep α :=
  x.mapError fun refusal => (server, refusal)

/-- Absorb a message. -/
def absorb (server : TlsServerMachine) (message : List UInt8) : TlsServerStep TlsServerMachine :=
  (server.check (tls13TranscriptAppend server.transcript message)).map fun transcript =>
    { server with transcript := transcript }

end TlsServerMachine

/-- `wt_tls_server_begin`. -/
def tlsServerBegin (server : TlsServerMachine) (config : TlsServerConfig)
    (random : Except Refusal (List UInt8)) : TlsServerMachine × Status :=
  if config.identity.certificate = [] ∨
      config.identity.certificate.length > tlsCertificateMaxEntries then
    (server, .invalidArgument)
  else if config.identity.privateKey = [] then (server, .invalidArgument)
  else
    match random with
    | .error refusal => ({ TlsServerMachine.zeroed config with state := .failed }, refusal.1)
    | .ok random =>
      ({ TlsServerMachine.zeroed config with
        serverRandom := random
        state := .waitClientHello }, .ok)

variable {P : Type} (crypto : TlsCrypto P)

/-! ## The ClientHello -/

/-- The client's x25519 key share (`client_x25519_share`). -/
def clientX25519Share (hello : TlsClientHelloMessage) : Except Refusal TlsKeyShare :=
  match tlsExtensionsFind hello.extensions tlsExtensionKeyShare with
  | none => .error .tls
  | some extension => do
    let shares ← tlsKeyShareClient extension.data tlsMaxKeyShares
    match shares.find? fun share => share.group = tlsGroupX25519 with
    | none => .error .tls
    | some share => return share

/-- What a ClientHello has to say before anything is configured, and the key share it gives. -/
def checkClientHello (hello : TlsClientHelloMessage) : Except Refusal TlsKeyShare :=
  if tlsCipherSuite ∉ hello.cipherSuites then .error .tls
  else
    match tlsExtensionsFind hello.extensions tlsExtensionSupportedVersions with
    | none => .error .tls
    | some extension => do
      let versions ← tlsSupportedVersionsClient extension.data tlsMaxNamedGroups
      if tlsVersion13 ∉ versions then .error .tls else clientX25519Share hello

section

attribute [local instance] lawfulBEq_protocolName

/-- The protocol of the configuration, which has to be one that was offered. -/
def offeredAlpn (wanted : List UInt8) (extensions : List TlsExtension) : Except Refusal Unit :=
  match tlsExtensionsFind extensions tlsExtensionAlpn with
  | none => .error .tls
  | some extension => do
    let names ← tlsAlpnParse extension.data
    if wanted ∈ names then return () else .error .tls

end

/-- The transport parameters of the client, where they are required. -/
def clientTransportParameters (extensions : List TlsExtension) : Except Refusal (List UInt8) :=
  match tlsExtensionsFind extensions tlsExtensionQuicTransportParameters with
  | none => .error .tls
  | some extension => if extension.data = [] then .error .tls else .ok extension.data

/-- Keep the protocol of the configuration, if there is one. -/
def serverKeepAlpn (server : TlsServerMachine) (extensions : List TlsExtension) :
    TlsServerStep TlsServerMachine :=
  match server.config.alpn with
  | none => .ok server
  | some wanted => (server.check (offeredAlpn wanted extensions)).map fun _ =>
    { server with negotiatedAlpn := wanted }

/-- Keep the client's transport parameters, if the configuration requires them. -/
def serverKeepParameters (server : TlsServerMachine) (extensions : List TlsExtension) :
    TlsServerStep TlsServerMachine :=
  if server.config.requireTransportParameters then
    (server.check (clientTransportParameters extensions)).map fun parameters =>
      { server with peerTransportParameters := parameters }
  else .ok server

/-- `check_client_extensions`. -/
def checkClientExtensions (server : TlsServerMachine) (extensions : List TlsExtension) :
    TlsServerStep TlsServerMachine := do
  let server ← serverKeepAlpn server extensions
  serverKeepParameters server extensions

/-- The key pair of a handshake, the caller's or a generated one. -/
def serverKeyPair (config : TlsServerConfig)
    (generated : Except Refusal (List UInt8 × List UInt8)) :
    Except Refusal (List UInt8 × List UInt8) :=
  match config.x25519Private with
  | none => generated
  | some privateKey => (tlsKeySharePublicKey crypto privateKey).map fun key => (privateKey, key)

/-- What a server answers a ClientHello with. -/
def serverHelloParams (server : TlsServerMachine) : TlsServerHelloParams where
  random           := server.serverRandom
  sessionId        := server.sessionId
  cipherSuite      := tlsCipherSuite
  keyShare         := ⟨tlsGroupX25519, server.publicKey⟩
  supportedVersion := tlsVersion13

/-- The secrets over the transcript through the ServerHello (`server_derive_handshake`). -/
def serverDeriveHandshake (server : TlsServerMachine) (share : TlsKeyShare) :
    TlsServerStep TlsServerMachine := do
  let ecdhe ← server.check (tlsKeyShareSharedSecret crypto server.privateKey share.key)
  let handshakeSecret ←
    server.check (tls13HandshakeSecret crypto (tls13EarlySecret crypto) ecdhe)
  let traffic :=
    tls13HandshakeTrafficSecrets crypto handshakeSecret (crypto.sha256 server.transcript)
  return { server with
    handshakeSecret := handshakeSecret
    clientHandshakeSecret := traffic.1
    serverHandshakeSecret := traffic.2
    masterSecret := tls13MasterSecret crypto handshakeSecret }

/-- Answer a ClientHello with a ServerHello in a buffer of some capacity. -/
def serverReceiveClientHello (server : TlsServerMachine) (message : List UInt8) (capacity : ℕ)
    (generated : Except Refusal (List UInt8 × List UInt8)) :
    TlsServerStep (TlsServerMachine × List UInt8) := do
  let hello ← server.check (tlsClientHelloParse message)
  let share ← server.check (checkClientHello hello)
  let server ← checkClientExtensions server hello.extensions
  let (privateKey, publicKey) ← server.check (serverKeyPair crypto server.config generated)
  let server := { server with
    privateKey := privateKey
    publicKey := publicKey
    sessionId := hello.sessionId }
  let output ← server.check (tlsServerHelloBuild (serverHelloParams server) capacity)
  let server ← server.absorb message
  let server ← server.absorb output
  let server ← serverDeriveHandshake crypto server share
  return ({ server with state := .waitClientFinished }, output)

/-! ## The client's Finished -/

/-- The client's Finished is over what the transcript holds, and so are the application secrets. -/
def serverReceiveFinished (server : TlsServerMachine) (message : List UInt8) :
    TlsServerStep TlsServerMachine := do
  let verifyData ← server.check (tlsFinishedParse message)
  server.check (tls13FinishedCheck crypto server.clientHandshakeSecret
    (crypto.sha256 server.transcript) verifyData)
  let traffic := tls13ApplicationTrafficSecrets crypto server.masterSecret
    (crypto.sha256 server.transcript)
  let server := { server with
    clientApplicationSecret := traffic.1
    serverApplicationSecret := traffic.2 }
  let server ← server.absorb message
  return { server with state := .connected }

/-! ## The flight -/

/-- The protocol of the configuration as an extension: a list of one name. -/
def serverAlpnExtension (config : TlsServerConfig) : Except Refusal (List TlsExtension) :=
  match config.alpn with
  | none => .ok []
  | some name =>
    if name.length = 0 ∨ name.length > tlsMaxProtocolName then .error .invalidArgument
    else
      .ok [⟨tlsExtensionAlpn, BigEndian.bytes 2 (1 + name.length) ++
        (BigEndian.bytes 1 name.length ++ name)⟩]

/-- The list of the EncryptedExtensions (`server_encrypted_extensions`). -/
def serverEncryptedExtensions (config : TlsServerConfig) : Except Refusal (List TlsExtension) :=
  (serverAlpnExtension config).map fun alpn =>
    if config.transportParameters = [] then alpn
    else alpn ++ [⟨tlsExtensionQuicTransportParameters, config.transportParameters⟩]

/-- The chain of an identity, as a message. -/
def TlsServerIdentity.message (identity : TlsServerIdentity) : TlsCertificateMessage where
  requestContext := []
  entries        := identity.certificate.map fun der => ⟨der, []⟩

/-- Write a message of the flight and absorb what was written. -/
def flightMessage (server : TlsServerMachine) (w : Writer) (encode : Writer → Writer × Status) :
    TlsServerStep (TlsServerMachine × Writer) :=
  let written := encode w
  if h : written.2 ≠ .ok then .error (server, ⟨written.2, h⟩)
  else (server.absorb (written.1.bytes.drop w.bytes.length)).map fun server => (server, written.1)

/-- The Finished of the flight, over the transcript through the CertificateVerify. -/
def flightFinished (server : TlsServerMachine) (w : Writer) :
    TlsServerStep (TlsServerMachine × Writer) := do
  let verifyData := tls13FinishedVerifyData crypto server.serverHandshakeSecret
    (crypto.sha256 server.transcript)
  let finished ← server.check
    (tlsFinishedBuild verifyData (tls13FinishedLen + tlsHandshakeHeaderLen))
  let w := w.put finished
  if w.ok = false then .error (server, .limit)
  else (server.absorb finished).map fun server => (server, w)

/-- The four messages of the flight, into a buffer of some capacity. A refusal leaves the machine
with the messages that were absorbed before it. -/
def serverBuildFlight (server : TlsServerMachine) (capacity : ℕ)
    (sign : List UInt8 → Except Refusal (List UInt8)) :
    TlsServerStep (TlsServerMachine × List UInt8) := do
  let identity := server.config.identity
  let extensions ← server.check (serverEncryptedExtensions server.config)
  let (server, w) ←
    flightMessage server (writerInit capacity) (tlsEncryptedExtensionsEncode extensions)
  let (server, w) ← flightMessage server w (tlsCertificateEncode identity.message)
  let signature ←
    server.check (sign (tlsCertificateVerifyContent (crypto.sha256 server.transcript)))
  if signature.length > tlsSignatureMax then .error (server, .limit)
  else do
    let (server, w) ←
      flightMessage server w (tlsCertificateVerifyEncode ⟨identity.signatureScheme, signature⟩)
    let (server, w) ← flightFinished crypto server w
    return ({ server with flightBuilt := true }, w.bytes)

/-- `wt_tls_server_flight`, with what the private key makes of a content in this call. A refusal
is answered as it is: the machine does not fail with it. -/
def tlsServerMachineFlight (server : TlsServerMachine) (capacity : ℕ)
    (sign : List UInt8 → Except Refusal (List UInt8)) : TlsAnswer TlsServerMachine :=
  if server.state ≠ .waitClientFinished ∨ server.flightBuilt then ⟨server, .state, []⟩
  else
    match serverBuildFlight crypto server capacity sign with
    | .error (server, refusal) => ⟨server, refusal.1, []⟩
    | .ok (server, flight) => ⟨server, .ok, flight⟩

/-! ## Receive -/

/-- What a server does with a message whose framing is in order, by its state. -/
def serverDispatch (server : TlsServerMachine) (type : UInt8) (message : List UInt8)
    (capacity : ℕ) (generated : Except Refusal (List UInt8 × List UInt8)) :
    TlsServerStep (TlsServerMachine × List UInt8) :=
  match server.state with
  | .waitClientHello =>
    if type ≠ tlsClientHello then .error (server, .state)
    else serverReceiveClientHello crypto server message capacity generated
  | .waitClientFinished =>
    if type ≠ tlsFinished then .error (server, .state)
    else (serverReceiveFinished crypto server message).map fun next => (next, [])
  | .start | .connected | .failed => .error (server, .state)

/-- `wt_tls_server_receive`, with the key pair that would be generated in this call. -/
def tlsServerMachineReceive (server : TlsServerMachine) (message : List UInt8) (capacity : ℕ)
    (generated : Except Refusal (List UInt8 × List UInt8)) : TlsAnswer TlsServerMachine :=
  if server.state = .failed then ⟨server, .state, []⟩
  else if message.length < tlsHandshakeHeaderLen then ⟨server.fail, .truncated, []⟩
  else
    match tlsHandshakeHeaderParse message with
    | .error refusal => ⟨server.fail, refusal.1, []⟩
    | .ok type =>
      match serverDispatch crypto server type message capacity generated with
      | .error (server, refusal) => ⟨server.fail, refusal.1, []⟩
      | .ok (server, output) => ⟨server, .ok, output⟩

end WebTransport
