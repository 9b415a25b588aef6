import WebTransport.Tls.ExtensionValues
import WebTransport.Tls.Handshake

/-!
# Building the Hellos

The builders of the ClientHello and of the ServerHello (`tls/handshake.c`). The extension writer and
the body writer run twice, into measuring writers and then into the message, whose length has to be
what was measured.
-/

namespace WebTransport

open BigEndian (bytes)

/-- What our client offers (`wt_tls_client_hello_params_t`). -/
structure TlsClientHelloParams where
  random : List UInt8
  sessionId : List UInt8
  cipherSuites : List ℕ
  hostName : Option (List UInt8)
  supportedGroups : List ℕ
  signatureSchemes : List ℕ
  keyShares : List TlsKeyShare
  alpn : List (List UInt8)
  transportParameters : List UInt8
deriving DecidableEq, Repr

/-- What our server answers (`wt_tls_server_hello_params_t`). -/
structure TlsServerHelloParams where
  random : List UInt8
  sessionId : List UInt8
  cipherSuite : ℕ
  keyShare : TlsKeyShare
  supportedVersion : ℕ
deriving DecidableEq, Repr

/-- The extensions of our ClientHello, one after another. -/
def clientHelloExtensionList (params : TlsClientHelloParams) (w : Writer) : Writer :=
  let w := match params.hostName with
    | none => w
    | some name => tlsExtensionServerNameWrite w name
  let w := if params.supportedGroups = [] then w
    else tlsExtensionU16List w tlsExtensionSupportedGroups params.supportedGroups
  let w := if params.signatureSchemes = [] then w
    else tlsExtensionU16List w tlsExtensionSignatureAlgorithms params.signatureSchemes
  let w := tlsExtensionSupportedVersionsClient w [tlsVersion13]
  let w := if params.keyShares = [] then w else tlsExtensionKeyShareClient w params.keyShares
  let w := if params.alpn = [] then w else tlsExtensionAlpnWrite w params.alpn
  let w := tlsExtensionPskKeyExchangeModesWrite w
  if params.transportParameters = [] then w
  else tlsExtensionTransportParameters w params.transportParameters

/-- A block of extensions behind its length, with the length measured by the same writes. -/
def writeExtensionBlock (list : Writer → Writer) (w : Writer) : Writer × Status :=
  let measure := list writerMeasure
  if measure.ok = false then (w, .limit)
  else if measure.bytes.length > 0xffff then (w, .limit)
  else
    let w' := list (w.put (bytes 2 measure.bytes.length))
    (w', if w'.ok then .ok else .limit)

/-- `client_hello_extensions`. -/
def clientHelloExtensions (params : TlsClientHelloParams) (w : Writer) : Writer × Status :=
  writeExtensionBlock (clientHelloExtensionList params) w

/-- The extensions of our ServerHello, one after another. -/
def serverHelloExtensionList (params : TlsServerHelloParams) (w : Writer) : Writer :=
  tlsExtensionKeyShareServer (tlsExtensionSupportedVersionsServer w params.supportedVersion)
    params.keyShare

/-- `server_hello_extensions`. -/
def serverHelloExtensions (params : TlsServerHelloParams) (w : Writer) : Writer × Status :=
  if params.keyShare.key.length = 0 ∨ params.keyShare.key.length > 0xffff then
    (w, .invalidArgument)
  else writeExtensionBlock (serverHelloExtensionList params) w

/-- Measure a message, then write it into a buffer of some capacity (the two passes of the
builders). -/
def buildMessage (type : UInt8) (prefixBody : Writer → Writer)
    (extensions : Writer → Writer × Status) (capacity : ℕ) : Except Refusal (List UInt8) :=
  let block := extensions writerMeasure
  if h : block.2 ≠ .ok then .error ⟨block.2, h⟩
  else
    let measure := prefixBody writerMeasure
    if measure.ok = false then .error .limit
    else
      let bodyLen := measure.bytes.length + block.1.bytes.length
      let total := bodyLen + tlsHandshakeHeaderLen
      if bodyLen > tlsHandshakeMaxBody then .error .limit
      else if capacity < total then .error .limit
      else
        let header := tlsHandshakeHeaderEncode (writerInit capacity) type bodyLen
        if header.2 ≠ .ok then .error .limit
        else
          let written := extensions (prefixBody header.1)
          if written.2 ≠ .ok then .error .limit
          -- The measuring pass and the writing pass disagree.
          else if written.1.bytes.length ≠ total then .error .state
          else .ok written.1.bytes

/-- The fixed fields of our ClientHello. -/
def TlsClientHelloParams.fixed (params : TlsClientHelloParams) : TlsClientHelloMessage where
  legacyVersion      := tlsLegacyVersion
  random             := params.random
  sessionId          := params.sessionId
  cipherSuites       := params.cipherSuites
  compressionMethods := [0]
  extensions         := []

def tlsClientHelloBuild (params : TlsClientHelloParams) (capacity : ℕ) :
    Except Refusal (List UInt8) :=
  if params.sessionId.length > tlsSessionIdMax then .error .limit
  else if params.cipherSuites = [] ∨ params.cipherSuites.length > tlsCipherSuitesMax then
    .error .invalidArgument
  else
    buildMessage tlsClientHello (clientHelloPrefixBody params.fixed) (clientHelloExtensions params)
      capacity

/-- The fixed fields of our ServerHello. -/
def TlsServerHelloParams.fixed (params : TlsServerHelloParams) : TlsServerHelloMessage where
  legacyVersion     := tlsLegacyVersion
  random            := params.random
  sessionId         := params.sessionId
  cipherSuite       := params.cipherSuite
  compressionMethod := 0
  extensions        := []

def tlsServerHelloBuild (params : TlsServerHelloParams) (capacity : ℕ) :
    Except Refusal (List UInt8) :=
  if params.sessionId.length > tlsSessionIdMax then .error .limit
  else
    buildMessage tlsServerHello (serverHelloPrefixBody params.fixed) (serverHelloExtensions params)
      capacity

end WebTransport
