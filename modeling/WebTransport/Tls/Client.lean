import WebTransport.Tls.HelloBuild
import WebTransport.Tls.KeySchedule

/-!
# The TLS client

The client's machine with everything it keeps (`tls/session_client.c`): the transcript of the
messages it sent and accepted, the secrets, and what it learned of the server. Each handler reads
one message, checks it, absorbs it and goes to the next state. A message that is refused ends the
handshake, and nothing of its keys is left.
-/

namespace WebTransport

/-- `wt_tls_client_config_t`. -/
structure TlsClientConfig (P : Type) where
  hostName : Option (List UInt8)
  alpn : List (List UInt8)
  requireTransportParameters : Bool
  transportParameters : List UInt8
  trust : P
  sessionId : List UInt8
  x25519Private : Option (List UInt8)

/-- `WT_TLS_CLIENT_HELLO_MAX`. -/
def tlsClientHelloMax : ℕ := 1024

/-- `wt_tls_client_t`. The transcript is the messages it absorbed. -/
structure TlsClientMachine (P : Type) where
  config : TlsClientConfig P
  state : TlsClientState
  transcript : List UInt8
  privateKey : List UInt8
  publicKey : List UInt8
  handshakeSecret : List UInt8
  masterSecret : List UInt8
  clientHandshakeSecret : List UInt8
  serverHandshakeSecret : List UInt8
  clientApplicationSecret : List UInt8
  serverApplicationSecret : List UInt8
  peerSpki : List UInt8
  peerTransportParameters : List UInt8
  negotiatedAlpn : List UInt8

variable {P : Type} (crypto : TlsCrypto P)

namespace TlsClientMachine

/-- Zero every secret and the private key (`client_scrub`). -/
def scrub (client : TlsClientMachine P) : TlsClientMachine P :=
  { client with
    handshakeSecret := tls13Zeros
    masterSecret := tls13Zeros
    clientHandshakeSecret := tls13Zeros
    serverHandshakeSecret := tls13Zeros
    clientApplicationSecret := tls13Zeros
    serverApplicationSecret := tls13Zeros
    privateKey := tls13Zeros }

/-- Give the handshake up (`fail`): the transcript is released as well. -/
def fail (client : TlsClientMachine P) : TlsClientMachine P :=
  { client.scrub with transcript := [], state := .failed }

/-- A machine of zeros with a configuration. -/
def zeroed (config : TlsClientConfig P) : TlsClientMachine P where
  config                  := config
  state                   := .start
  transcript              := []
  privateKey              := tls13Zeros
  publicKey               := tls13Zeros
  handshakeSecret         := tls13Zeros
  masterSecret            := tls13Zeros
  clientHandshakeSecret   := tls13Zeros
  serverHandshakeSecret   := tls13Zeros
  clientApplicationSecret := tls13Zeros
  serverApplicationSecret := tls13Zeros
  peerSpki                := []
  peerTransportParameters := []
  negotiatedAlpn          := []

end TlsClientMachine

/-- A step of a handler: it gives a result, or the machine is left as it is with a refusal. -/
abbrev TlsClientStep (P : Type) := Except (TlsClientMachine P × Refusal)

/-- A check of a handler, of a machine that is left as it is. -/
def TlsClientMachine.check {α : Type} (client : TlsClientMachine P) (x : Except Refusal α) :
    TlsClientStep P α :=
  x.mapError fun refusal => (client, refusal)

/-! ## Begin -/

/-- The key pair of a handshake, the caller's or a generated one. -/
def clientKeyPair (config : TlsClientConfig P)
    (generated : Except Refusal (List UInt8 × List UInt8)) :
    Except Refusal (List UInt8 × List UInt8) :=
  match config.x25519Private with
  | none => generated
  | some privateKey => (tlsKeySharePublicKey crypto privateKey).map fun key => (privateKey, key)

/-- `begin_common`. A configuration that is refused leaves the machine as it is, and a key pair that
cannot be had leaves a failed machine. -/
def clientBeginCommon (client : TlsClientMachine P) (config : TlsClientConfig P)
    (generated : Except Refusal (List UInt8 × List UInt8)) :
    TlsClientStep P (TlsClientMachine P) :=
  if config.sessionId.length > tlsSessionIdMax then .error (client, .limit)
  else
    match clientKeyPair crypto config generated with
    | .error refusal =>
      .error ({ TlsClientMachine.zeroed config with
        state := .failed
        privateKey := config.x25519Private.getD tls13Zeros }, refusal)
    | .ok (privateKey, publicKey) =>
      .ok { TlsClientMachine.zeroed config with
        privateKey := privateKey
        publicKey := publicKey }

/-- Begin with a ClientHello that was sent. -/
def tlsClientBegin (client : TlsClientMachine P) (config : TlsClientConfig P)
    (generated : Except Refusal (List UInt8 × List UInt8)) (clientHello : List UInt8) :
    TlsClientMachine P × Status :=
  match clientBeginCommon crypto client config generated with
  | .error (client, refusal) => (client, refusal.1)
  | .ok client =>
    if clientHello = [] then (client.fail, .invalidArgument)
    else
      match tls13TranscriptAppend client.transcript clientHello with
      | .error refusal => (client.fail, refusal.1)
      | .ok transcript =>
        ({ client with transcript := transcript, state := .waitServerHello }, .ok)

/-- What a client of a configuration offers. -/
def clientHelloParams (client : TlsClientMachine P) (random : List UInt8) :
    TlsClientHelloParams where
  random              := random
  sessionId           := client.config.sessionId
  cipherSuites        := [tlsCipherSuite]
  hostName            := client.config.hostName
  supportedGroups     := [tlsGroupX25519]
  signatureSchemes    := [0x0403, 0x0804, 0x0807]
  keyShares           := [⟨tlsGroupX25519, client.publicKey⟩]
  alpn                := client.config.alpn
  transportParameters := client.config.transportParameters

/-- The ClientHello for a buffer of some capacity, with the transcript through it. -/
def clientBuildHello (client : TlsClientMachine P) (random : Except Refusal (List UInt8))
    (capacity : ℕ) : Except Refusal (List UInt8 × List UInt8) := do
  let random ← random
  let hello ← tlsClientHelloBuild (clientHelloParams client random) tlsClientHelloMax
  if capacity < hello.length then .error .limit
  else do
    let transcript ← tls13TranscriptAppend client.transcript hello
    return (hello, transcript)

/-- Build the ClientHello into a buffer of some capacity and begin with it. The answer is the
machine, the status and what the buffer holds. -/
def tlsClientBeginBuilt (client : TlsClientMachine P) (config : TlsClientConfig P)
    (generated : Except Refusal (List UInt8 × List UInt8)) (random : Except Refusal (List UInt8))
    (capacity : ℕ) : TlsAnswer (TlsClientMachine P) :=
  match clientBeginCommon crypto client config generated with
  | .error (client, refusal) => ⟨client, refusal.1, []⟩
  | .ok client =>
    match clientBuildHello client random capacity with
    | .error refusal => ⟨client.fail, refusal.1, []⟩
    | .ok (hello, transcript) =>
      ⟨{ client with transcript := transcript, state := .waitServerHello }, .ok, hello⟩

/-! ## Handlers -/

/-- What a ServerHello has to say, and the key share it gives. -/
def checkServerHello (config : TlsClientConfig P) (message : List UInt8) :
    Except Refusal TlsKeyShare := do
  let hello ← tlsServerHelloParse message
  if hello.cipherSuite ≠ tlsCipherSuite then .error .tls
  else if hello.sessionId ≠ config.sessionId then .error .tls
  else
    match tlsExtensionsFind hello.extensions tlsExtensionSupportedVersions with
    | none => .error .tls
    | some extension => do
      let version ← tlsSupportedVersionsServer extension.data
      if version ≠ tlsVersion13 then .error .tls
      else
        match tlsExtensionsFind hello.extensions tlsExtensionKeyShare with
        | none => .error .tls
        | some extension => do
          let share ← tlsKeyShareServer extension.data
          if share.group ≠ tlsGroupX25519 then .error .tls else return share

/-- The secrets over the transcript through the ServerHello (`derive_after_server_hello`). -/
def deriveAfterServerHello (client : TlsClientMachine P) (share : TlsKeyShare) :
    TlsClientStep P (TlsClientMachine P) := do
  let ecdhe ← client.check (tlsKeyShareSharedSecret crypto client.privateKey share.key)
  let handshakeSecret ←
    client.check (tls13HandshakeSecret crypto (tls13EarlySecret crypto) ecdhe)
  let traffic :=
    tls13HandshakeTrafficSecrets crypto handshakeSecret (crypto.sha256 client.transcript)
  return { client with
    handshakeSecret := handshakeSecret
    clientHandshakeSecret := traffic.1
    serverHandshakeSecret := traffic.2
    masterSecret := tls13MasterSecret crypto handshakeSecret }

def receiveServerHello (client : TlsClientMachine P) (message : List UInt8) :
    TlsClientStep P (TlsClientMachine P) := do
  let share ← client.check (checkServerHello client.config message)
  let transcript ← client.check (tls13TranscriptAppend client.transcript message)
  let client ← deriveAfterServerHello crypto { client with transcript := transcript } share
  return { client with state := .waitEncryptedExtensions }

section

attribute [local instance] lawfulBEq_protocolName

/-- The one protocol that the server selected, which has to be one that was offered. -/
def selectedAlpn (config : TlsClientConfig P) (extensions : List TlsExtension) :
    Except Refusal (List UInt8) :=
  match tlsExtensionsFind extensions tlsExtensionAlpn with
  | none => .error .tls
  | some extension => do
    let names ← tlsAlpnParse extension.data
    match names with
    | [name] => if name ∈ config.alpn then return name else .error .tls
    | _ => .error .tls

end

/-- The transport parameters of the server, which may have to be there. -/
def serverTransportParameters (config : TlsClientConfig P) (extensions : List TlsExtension) :
    Except Refusal (Option (List UInt8)) :=
  match tlsExtensionsFind extensions tlsExtensionQuicTransportParameters with
  | none => if config.requireTransportParameters then .error .tls else .ok none
  | some extension =>
    if config.requireTransportParameters ∧ extension.data = [] then .error .tls
    else .ok (some extension.data)

/-- Keep the selected protocol, when any was offered. -/
def keepSelectedAlpn (client : TlsClientMachine P) (extensions : List TlsExtension) :
    TlsClientStep P (TlsClientMachine P) :=
  if client.config.alpn = [] then .ok client
  else (client.check (selectedAlpn client.config extensions)).map fun name =>
    { client with negotiatedAlpn := name }

def receiveEncryptedExtensions (client : TlsClientMachine P) (message : List UInt8) :
    TlsClientStep P (TlsClientMachine P) := do
  let extensions ← client.check (tlsEncryptedExtensionsParse message)
  let client ← keepSelectedAlpn client extensions
  let parameters ← client.check (serverTransportParameters client.config extensions)
  let client :=
    { client with peerTransportParameters := parameters.getD client.peerTransportParameters }
  let transcript ← client.check (tls13TranscriptAppend client.transcript message)
  return { client with transcript := transcript, state := .waitCertificate }

def receiveCertificate (client : TlsClientMachine P) (message : List UInt8) :
    TlsClientStep P (TlsClientMachine P) := do
  let certificate ← client.check (tlsCertificateParse message)
  if certificate.requestContext ≠ [] then .error (client, .protocol)
  else if certificate.entries = [] then .error (client, .trust)
  else do
    let spki ← client.check (crypto.trustVerify client.config.trust certificate)
    let client := { client with peerSpki := spki }
    let transcript ← client.check (tls13TranscriptAppend client.transcript message)
    return { client with transcript := transcript, state := .waitCertificateVerify }

/-- The signature is over the transcript through the Certificate, before this message. -/
def receiveCertificateVerify (client : TlsClientMachine P) (message : List UInt8) :
    TlsClientStep P (TlsClientMachine P) := do
  let verify ← client.check (tlsCertificateVerifyParse message)
  let content := tlsCertificateVerifyContent (crypto.sha256 client.transcript)
  client.check (crypto.signatureVerify client.peerSpki verify.scheme content verify.signature)
  let transcript ← client.check (tls13TranscriptAppend client.transcript message)
  return { client with transcript := transcript, state := .waitFinished }

/-- The server's Finished is over the transcript through CertificateVerify; ours, which is the
answer, is over the transcript through this message. -/
def receiveFinished (client : TlsClientMachine P) (message : List UInt8) (capacity : ℕ) :
    TlsClientStep P (TlsClientMachine P × List UInt8) := do
  let verifyData ← client.check (tlsFinishedParse message)
  client.check (tls13FinishedCheck crypto client.serverHandshakeSecret
    (crypto.sha256 client.transcript) verifyData)
  let transcript ← client.check (tls13TranscriptAppend client.transcript message)
  let throughFinished := crypto.sha256 transcript
  let traffic := tls13ApplicationTrafficSecrets crypto client.masterSecret throughFinished
  let client := { client with
    transcript := transcript
    clientApplicationSecret := traffic.1
    serverApplicationSecret := traffic.2 }
  let ours := tls13FinishedVerifyData crypto client.clientHandshakeSecret throughFinished
  let finished ← client.check (tlsFinishedBuild ours capacity)
  let transcript ← client.check (tls13TranscriptAppend client.transcript finished)
  return ({ client with transcript := transcript, state := .connected }, finished)

/-! ## Receive -/

/-- A handler that writes no message. -/
def TlsClientStep.silent (step : TlsClientStep P (TlsClientMachine P)) :
    TlsClientStep P (TlsClientMachine P × List UInt8) :=
  step.map fun next => (next, [])

/-- What a client does with a message whose framing is in order, by its state. -/
def clientDispatch (client : TlsClientMachine P) (type : UInt8) (message : List UInt8)
    (capacity : ℕ) : TlsClientStep P (TlsClientMachine P × List UInt8) :=
  match client.state with
  | .waitServerHello =>
    if type ≠ tlsServerHello then .error (client, .state)
    else .silent (receiveServerHello crypto client message)
  | .waitEncryptedExtensions =>
    if type ≠ tlsEncryptedExtensions then .error (client, .state)
    else .silent (receiveEncryptedExtensions client message)
  | .waitCertificate =>
    if type ≠ tlsCertificate then .error (client, .state)
    else .silent (receiveCertificate crypto client message)
  | .waitCertificateVerify =>
    if type ≠ tlsCertificateVerify then .error (client, .state)
    else .silent (receiveCertificateVerify crypto client message)
  | .waitFinished =>
    if type ≠ tlsFinished then .error (client, .state)
    else receiveFinished crypto client message capacity
  | .connected =>
    -- A session ticket is skipped without being read.
    if type ≠ tlsNewSessionTicket then .error (client, .state) else .ok (client, [])
  | .start | .failed => .error (client, .state)

/-- Consume one message of the server's. -/
def tlsClientMachineReceive (client : TlsClientMachine P) (message : List UInt8) (capacity : ℕ) :
    TlsAnswer (TlsClientMachine P) :=
  if client.state = .failed then ⟨client, .state, []⟩
  else if message.length < tlsHandshakeHeaderLen then ⟨client.fail, .truncated, []⟩
  else
    match tlsHandshakeHeaderParse message with
    | .error refusal => ⟨client.fail, refusal.1, []⟩
    | .ok type =>
      match clientDispatch crypto client type message capacity with
      | .error (client, refusal) => ⟨client.fail, refusal.1, []⟩
      | .ok (client, output) => ⟨client, .ok, output⟩

/-- The application secrets for reading and writing (`wt_tls_client_application_secrets`). -/
def TlsClientMachine.applicationSecrets (client : TlsClientMachine P) :
    Except Refusal (List UInt8 × List UInt8) :=
  if client.state ≠ .connected then .error .state
  else .ok (client.serverApplicationSecret, client.clientApplicationSecret)

end WebTransport
