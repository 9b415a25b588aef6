import WebTransport.Tls.ExtensionValues
import WebTransport.Tls.Handshake

/-!
# The key schedule

The secrets of a handshake and the Finished MACs over its transcript (`tls/keyschedule.c`), and the
key agreement (`tls/keyshare.c`). The hash functions, the scalar multiplication, the validation of a
chain and of a signature are the parameters of `TlsCrypto`.
-/

namespace WebTransport

/-- `WT_TLS13_SECRET_LEN`. -/
def tls13SecretLen : ℕ := 32

/-- `WT_TLS_X25519_KEY_LEN`. -/
def tlsX25519KeyLen : ℕ := 32

/-- The cryptography under the machines, with the trust policies of the caller. -/
structure TlsCrypto (P : Type) where
  sha256 : List UInt8 → List UInt8
  hmacSha256 : List UInt8 → List UInt8 → List UInt8
  hmacSha256_length : ∀ key data, (hmacSha256 key data).length = tls13FinishedLen
  /-- `wt_hkdf_extract_sha256`, of a salt and the keying material. -/
  hkdfExtract : List UInt8 → List UInt8 → List UInt8
  /-- `wt_hkdf_expand_label_sha256`, of a secret, a label, a context and a length. -/
  hkdfExpandLabel : List UInt8 → String → List UInt8 → ℕ → List UInt8
  /-- The scalar multiplication (`x25519_derive`). -/
  x25519 : List UInt8 → List UInt8 → Except Refusal (List UInt8)
  x25519_length : ∀ {scalar point shared : List UInt8},
    x25519 scalar point = .ok shared → shared.length = tlsX25519KeyLen
  /-- `wt_tls_trust_verify`, which answers the key of the chain's leaf. -/
  trustVerify : P → TlsCertificateMessage → Except Refusal (List UInt8)
  /-- `wt_tls_signature_verify`, of a key, a scheme, the content and the signature. -/
  signatureVerify : List UInt8 → ℕ → List UInt8 → List UInt8 → Except Refusal Unit

/-- `wt_tls13_zeros`. -/
def tls13Zeros : List UInt8 := List.replicate tls13SecretLen 0

variable {P : Type} (crypto : TlsCrypto P)

/-! ## The transcript -/

/-- Absorb a whole handshake message. -/
def tls13TranscriptAppend (transcript message : List UInt8) : Except Refusal (List UInt8) :=
  match message with
  | _ :: a :: b :: c :: body =>
    if tlsBodyLen a b c ≠ body.length then .error .protocol else .ok (transcript ++ message)
  | _ => .error .truncated

/-! ## The secrets -/

/-- `wt_tls13_derive_secret`. -/
def tls13DeriveSecret (secret : List UInt8) (label : String) (transcriptHash : List UInt8) :
    List UInt8 :=
  crypto.hkdfExpandLabel secret label transcriptHash tls13SecretLen

/-- `wt_tls13_derived`. -/
def tls13Derived (secret : List UInt8) : List UInt8 :=
  tls13DeriveSecret crypto secret "derived" (crypto.sha256 [])

/-- The early secret of a handshake without a pre-shared key. -/
def tls13EarlySecret : List UInt8 := crypto.hkdfExtract tls13Zeros tls13Zeros

def tls13HandshakeSecret (earlySecret ecdhe : List UInt8) : Except Refusal (List UInt8) :=
  if ecdhe = [] then .error .invalidArgument
  else if ecdhe.all (· = 0) then .error .protocol
  else .ok (crypto.hkdfExtract (tls13Derived crypto earlySecret) ecdhe)

def tls13MasterSecret (handshakeSecret : List UInt8) : List UInt8 :=
  crypto.hkdfExtract (tls13Derived crypto handshakeSecret) tls13Zeros

/-- The client's and the server's secret of the handshake. -/
def tls13HandshakeTrafficSecrets (handshakeSecret transcriptHash : List UInt8) :
    List UInt8 × List UInt8 :=
  (tls13DeriveSecret crypto handshakeSecret "c hs traffic" transcriptHash,
    tls13DeriveSecret crypto handshakeSecret "s hs traffic" transcriptHash)

/-- The client's and the server's secret of the application. -/
def tls13ApplicationTrafficSecrets (masterSecret transcriptHash : List UInt8) :
    List UInt8 × List UInt8 :=
  (tls13DeriveSecret crypto masterSecret "c ap traffic" transcriptHash,
    tls13DeriveSecret crypto masterSecret "s ap traffic" transcriptHash)

/-! ## Finished -/

/-- `wt_tls13_finished_key`. -/
def tls13FinishedKey (baseKey : List UInt8) : List UInt8 :=
  crypto.hkdfExpandLabel baseKey "finished" [] tls13FinishedLen

def tls13FinishedVerifyData (baseKey transcriptHash : List UInt8) : List UInt8 :=
  crypto.hmacSha256 (tls13FinishedKey crypto baseKey) transcriptHash

lemma tls13FinishedVerifyData_length (baseKey transcriptHash : List UInt8) :
    (tls13FinishedVerifyData crypto baseKey transcriptHash).length = tls13FinishedLen :=
  crypto.hmacSha256_length _ _

def tls13FinishedCheck (baseKey transcriptHash verifyData : List UInt8) : Except Refusal Unit :=
  if verifyData.length ≠ tls13FinishedLen then .error .invalidArgument
  else if tls13FinishedVerifyData crypto baseKey transcriptHash ≠ verifyData then
    .error .authentication
  else .ok ()

/-! ## Key agreement -/

/-- The base point, nine and zeros. -/
def x25519BasePoint : List UInt8 := 9 :: List.replicate 31 0

def tlsKeySharePublicKey (privateKey : List UInt8) : Except Refusal (List UInt8) :=
  crypto.x25519 privateKey x25519BasePoint

def tlsKeyShareSharedSecret (privateKey peerPublic : List UInt8) : Except Refusal (List UInt8) := do
  if peerPublic.length ≠ tlsX25519KeyLen then .error .invalidArgument
  else do
    let shared ← crypto.x25519 privateKey peerPublic
    if shared.all (· = 0) then .error .protocol else return shared

/-! ## Signatures -/

/-- What a server's CertificateVerify signs (`wt_tls_certificate_verify_content`). -/
def tlsCertificateVerifyContent (transcriptHash : List UInt8) : List UInt8 :=
  List.replicate 64 0x20 ++
    ("TLS 1.3, server CertificateVerify".toList.map fun c => UInt8.ofNat c.toNat) ++
    0 :: transcriptHash

end WebTransport
