import WebTransport.Tls.Extension

/-!
# TLS handshake messages

The parsers and the encoders of the handshake messages (`tls/handshake.c`,
`tls/handshake_messages.c`). Every encoder runs the function that writes its body twice, into a
measuring writer to learn the length for the header and then into the message.
-/

namespace WebTransport

open BigEndian (bytes)

/-- `WT_TLS_HANDSHAKE_MAX_BODY`. -/
def tlsHandshakeMaxBody : ℕ := 0xffffff

/-- `WT_TLS_RANDOM_LEN`. -/
def tlsRandomLen : ℕ := 32

/-- `WT_TLS_SESSION_ID_MAX`. -/
def tlsSessionIdMax : ℕ := 32

/-- `WT_TLS_CIPHER_SUITES_MAX`. -/
def tlsCipherSuitesMax : ℕ := 16

/-- `WT_TLS_COMPRESSION_METHODS_MAX`. -/
def tlsCompressionMethodsMax : ℕ := 4

/-- `WT_TLS_CERTIFICATE_MAX_ENTRIES`. -/
def tlsCertificateMaxEntries : ℕ := 8

/-- `WT_TLS13_FINISHED_LEN`. -/
def tls13FinishedLen : ℕ := 32

/-- `WT_TLS_LEGACY_VERSION`. -/
def tlsLegacyVersion : ℕ := 0x0303

/-! ## Messages -/

/-- `wt_tls_client_hello_t`. -/
structure TlsClientHelloMessage where
  legacyVersion : ℕ
  random : List UInt8
  sessionId : List UInt8
  cipherSuites : List ℕ
  compressionMethods : List ℕ
  extensions : List TlsExtension
deriving DecidableEq, Repr

/-- `wt_tls_server_hello_t`. -/
structure TlsServerHelloMessage where
  legacyVersion : ℕ
  random : List UInt8
  sessionId : List UInt8
  cipherSuite : ℕ
  compressionMethod : ℕ
  extensions : List TlsExtension
deriving DecidableEq, Repr

/-- One certificate of a chain, with the extension block of its own that is carried as it is
(`wt_tls_certificate_entry_t`). -/
structure TlsCertificateEntry where
  der : List UInt8
  extensions : List UInt8
deriving DecidableEq, Repr

/-- `wt_tls_certificate_t`. -/
structure TlsCertificateMessage where
  requestContext : List UInt8
  entries : List TlsCertificateEntry
deriving DecidableEq, Repr

/-- `wt_tls_certificate_verify_t`. -/
structure TlsCertificateVerifyMessage where
  scheme : ℕ
  signature : List UInt8
deriving DecidableEq, Repr

/-! ## Framing -/

/-- The body of a message of a given type, with its framing checked (`message_body`). -/
def tlsMessageBody (message : List UInt8) (type : UInt8) : Except Refusal (List UInt8) :=
  if message.length < tlsHandshakeHeaderLen then .error .truncated
  else
    match tlsHandshakeHeaderParse message with
    | .error refusal => .error refusal
    | .ok found =>
      if found ≠ type then .error .protocol else .ok (message.drop tlsHandshakeHeaderLen)

def tlsHandshakeHeaderEncode (w : Writer) (type : UInt8) (bodyLen : ℕ) : Writer × Status :=
  if bodyLen > tlsHandshakeMaxBody then (w, .limit)
  else
    let w' := w.putAll [[type], bytes 3 bodyLen]
    (w', if w'.ok then .ok else .limit)

/-- Write a message with the function that writes its body (`frame_and_write`). -/
def tlsFrameAndWrite (body : Writer → Writer × Status) (type : UInt8) (w : Writer) :
    Writer × Status :=
  let measure := (body writerMeasure).1
  if measure.ok = false then (w, .limit)
  else if measure.bytes.length > tlsHandshakeMaxBody then (w, .limit)
  else
    let header := tlsHandshakeHeaderEncode w type measure.bytes.length
    if header.2 ≠ .ok then (header.1, .limit)
    else
      let written := body header.1
      (written.1, if written.2 ≠ .ok then .limit else if written.1.ok then .ok else .limit)

/-! ## Encoders -/

/-- Everything of a ClientHello but the extension block (`client_hello_prefix_body`). -/
def clientHelloPrefixBody (hello : TlsClientHelloMessage) (w : Writer) : Writer :=
  w.putAll
    ([bytes 2 hello.legacyVersion, hello.random, bytes 1 hello.sessionId.length, hello.sessionId,
      bytes 2 (2 * hello.cipherSuites.length)] ++ hello.cipherSuites.map (bytes 2) ++
      [bytes 1 hello.compressionMethods.length] ++ hello.compressionMethods.map (bytes 1))

/-- Everything of a ServerHello but the extension block (`server_hello_prefix_body`). -/
def serverHelloPrefixBody (hello : TlsServerHelloMessage) (w : Writer) : Writer :=
  w.putAll
    [bytes 2 hello.legacyVersion, hello.random, bytes 1 hello.sessionId.length, hello.sessionId,
      bytes 2 hello.cipherSuite, bytes 1 hello.compressionMethod]

def tlsClientHelloEncode (hello : TlsClientHelloMessage) (w : Writer) : Writer × Status :=
  if hello.sessionId.length > tlsSessionIdMax then (w, .limit)
  else if hello.cipherSuites.length = 0 ∨ hello.cipherSuites.length > tlsCipherSuitesMax then
    (w, .limit)
  else if hello.compressionMethods.length = 0 ∨
      hello.compressionMethods.length > tlsCompressionMethodsMax then
    (w, .limit)
  else
    tlsFrameAndWrite
      (fun w => tlsExtensionsEncode (clientHelloPrefixBody hello w) hello.extensions)
      tlsClientHello w

def tlsServerHelloEncode (hello : TlsServerHelloMessage) (w : Writer) : Writer × Status :=
  if hello.sessionId.length > tlsSessionIdMax then (w, .limit)
  else
    tlsFrameAndWrite
      (fun w => tlsExtensionsEncode (serverHelloPrefixBody hello w) hello.extensions)
      tlsServerHello w

def tlsEncryptedExtensionsEncode (extensions : List TlsExtension) (w : Writer) :
    Writer × Status :=
  tlsFrameAndWrite (fun w => tlsExtensionsEncode w extensions) tlsEncryptedExtensions w

/-- What an entry takes of the list. -/
def TlsCertificateEntry.listLen (entry : TlsCertificateEntry) : ℕ :=
  3 + entry.der.length + 2 + entry.extensions.length

/-- What the encoder writes of one entry. -/
def TlsCertificateEntry.pieces (entry : TlsCertificateEntry) : List (List UInt8) :=
  [bytes 3 entry.der.length, entry.der, bytes 2 entry.extensions.length, entry.extensions]

/-- `certificate_body`. -/
def certificateBody (certificate : TlsCertificateMessage) (w : Writer) : Writer × Status :=
  let listLen := (certificate.entries.map TlsCertificateEntry.listLen).sum
  (w.putAll ([bytes 1 certificate.requestContext.length, certificate.requestContext,
    bytes 3 listLen] ++ certificate.entries.flatMap TlsCertificateEntry.pieces), .ok)

/-- The first fault of the entries (the loop of `certificate_check`). -/
def certificateCheckEntries : List TlsCertificateEntry → Status
  | [] => .ok
  | entry :: entries =>
    if entry.der.length = 0 then .invalidArgument
    else if entry.der.length > tlsHandshakeMaxBody then .limit
    else if entry.extensions.length > 0xffff then .limit
    else certificateCheckEntries entries

/-- `certificate_check`. -/
def certificateCheck (certificate : TlsCertificateMessage) : Status :=
  if certificate.requestContext.length > 255 then .limit
  else if certificate.entries.length > tlsCertificateMaxEntries then .limit
  else if certificateCheckEntries certificate.entries ≠ .ok then
    certificateCheckEntries certificate.entries
  else if (certificate.entries.map TlsCertificateEntry.listLen).sum > tlsHandshakeMaxBody then
    .limit
  else .ok

def tlsCertificateEncode (certificate : TlsCertificateMessage) (w : Writer) : Writer × Status :=
  if certificateCheck certificate ≠ .ok then (w, certificateCheck certificate)
  else tlsFrameAndWrite (certificateBody certificate) tlsCertificate w

/-- `certificate_verify_body`. -/
def certificateVerifyBody (verify : TlsCertificateVerifyMessage) (w : Writer) : Writer × Status :=
  (w.putAll [bytes 2 verify.scheme, bytes 2 verify.signature.length, verify.signature], .ok)

def tlsCertificateVerifyEncode (verify : TlsCertificateVerifyMessage) (w : Writer) :
    Writer × Status :=
  if verify.signature.length > 0xffff then (w, .limit)
  else tlsFrameAndWrite (certificateVerifyBody verify) tlsCertificateVerify w

/-- A Finished with its verify data, into a buffer of some capacity. -/
def tlsFinishedBuild (verifyData : List UInt8) (capacity : ℕ) : Except Refusal (List UInt8) :=
  if capacity < tls13FinishedLen + tlsHandshakeHeaderLen then .error .limit
  else
    let header := tlsHandshakeHeaderEncode (writerInit capacity) tlsFinished tls13FinishedLen
    if header.2 ≠ .ok then .error .limit
    else
      let w := header.1.put verifyData
      if w.ok = false then .error .limit else .ok w.bytes

/-! ## Parsers -/

/-- The two fields that every Hello starts with (`hello_prefix`). -/
def helloPrefix (x : List UInt8) : Except Refusal ((ℕ × List UInt8) × List UInt8) := do
  let (version, x) ← tlsU16 x
  let (random, x) ← tlsTake tlsRandomLen x
  if version ≠ tlsLegacyVersion then .error .protocol else return ((version, random), x)

/-- The session ID of a Hello. -/
def helloSessionId (x : List UInt8) : Except Refusal (List UInt8 × List UInt8) := do
  let (length, x) ← tlsU8 x
  if length > tlsSessionIdMax then .error .protocol else tlsTake length x

/-- The cipher suites of a ClientHello. -/
def clientHelloCipherSuites (x : List UInt8) : Except Refusal (List ℕ × List UInt8) := do
  let (length, x) ← tlsU16 x
  if length = 0 ∨ length % 2 ≠ 0 then .error .protocol
  else if length / 2 > tlsCipherSuitesMax then .error .limit
  else Codec.times tlsU16 (length / 2) x

/-- The compression methods of a ClientHello: one, and it is zero. -/
def clientHelloCompression (x : List UInt8) : Except Refusal (List ℕ × List UInt8) := do
  let (length, x) ← tlsU8 x
  if length ≠ 1 then .error .protocol
  else do
    let (method, x) ← tlsU8 x
    if method ≠ 0 then .error .protocol else return ([method], x)

def tlsClientHelloParse (message : List UInt8) : Except Refusal TlsClientHelloMessage := do
  let x ← tlsMessageBody message tlsClientHello
  let ((version, random), x) ← helloPrefix x
  let (sessionId, x) ← helloSessionId x
  let (cipherSuites, x) ← clientHelloCipherSuites x
  let (compressionMethods, x) ← clientHelloCompression x
  let (extensions, x) ← tlsExtensionsParse x
  tlsEnd x ⟨version, random, sessionId, cipherSuites, compressionMethods, extensions⟩

/-- The compression method of a ServerHello. -/
def serverHelloCompression (x : List UInt8) : Except Refusal (ℕ × List UInt8) := do
  let (method, x) ← tlsU8 x
  if method ≠ 0 then .error .protocol else return (method, x)

def tlsServerHelloParse (message : List UInt8) : Except Refusal TlsServerHelloMessage := do
  let x ← tlsMessageBody message tlsServerHello
  let ((version, random), x) ← helloPrefix x
  let (sessionId, x) ← helloSessionId x
  let (cipherSuite, x) ← tlsU16 x
  let (compressionMethod, x) ← serverHelloCompression x
  let (extensions, x) ← tlsExtensionsParse x
  tlsEnd x ⟨version, random, sessionId, cipherSuite, compressionMethod, extensions⟩

def tlsEncryptedExtensionsParse (message : List UInt8) : Except Refusal (List TlsExtension) := do
  let x ← tlsMessageBody message tlsEncryptedExtensions
  let (extensions, x) ← tlsExtensionsParse x
  tlsEnd x extensions

/-- One certificate of a chain. -/
def certificateEntry (x : List UInt8) : Except Refusal (TlsCertificateEntry × List UInt8) := do
  let (derLen, x) ← tlsU24 x
  if derLen = 0 then .error .protocol
  else do
    let (der, x) ← tlsTake derLen x
    let (extensionsLen, x) ← tlsU16 x
    let (extensions, x) ← tlsTake extensionsLen x
    return (⟨der, extensions⟩, x)

def tlsCertificateParse (message : List UInt8) : Except Refusal TlsCertificateMessage := do
  let x ← tlsMessageBody message tlsCertificate
  let (contextLen, x) ← tlsU8 x
  let (requestContext, x) ← tlsTake contextLen x
  let (listLen, x) ← tlsU24 x
  let (region, x) ← tlsTake listLen x
  let entries ← Codec.items .limit .protocol tlsCertificateMaxEntries (fun _ _ => false)
    certificateEntry region.length [] region
  tlsEnd x ⟨requestContext, entries⟩

def tlsCertificateVerifyParse (message : List UInt8) :
    Except Refusal TlsCertificateVerifyMessage := do
  let x ← tlsMessageBody message tlsCertificateVerify
  let (scheme, x) ← tlsU16 x
  let (signatureLen, x) ← tlsU16 x
  let (signature, x) ← tlsTake signatureLen x
  tlsEnd x ⟨scheme, signature⟩

def tlsFinishedParse (message : List UInt8) : Except Refusal (List UInt8) := do
  let x ← tlsMessageBody message tlsFinished
  if x.length ≠ tls13FinishedLen then .error .protocol
  else do
    let (verifyData, x) ← tlsTake tls13FinishedLen x
    tlsEnd x verifyData

end WebTransport
