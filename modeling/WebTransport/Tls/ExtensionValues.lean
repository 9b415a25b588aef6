import WebTransport.Tls.Extension

/-!
# The values of TLS extensions

The typed readers and writers of `tls/extension.c` for the extensions that the two handshake
machines use. A reader takes the value of an extension to its last byte; a writer puts a whole
extension, or nothing when the value cannot be expressed.
-/

namespace WebTransport

open BigEndian (bytes)

/-! ## Types and values -/

/-- The types of extensions (`WT_TLS_EXTENSION_*`). -/
def tlsExtensionServerName : ℕ := 0x0000

@[inherit_doc tlsExtensionServerName]
def tlsExtensionSupportedGroups : ℕ := 0x000a

@[inherit_doc tlsExtensionServerName]
def tlsExtensionSignatureAlgorithms : ℕ := 0x000d

@[inherit_doc tlsExtensionServerName]
def tlsExtensionAlpn : ℕ := 0x0010

@[inherit_doc tlsExtensionServerName]
def tlsExtensionSupportedVersions : ℕ := 0x002b

@[inherit_doc tlsExtensionServerName]
def tlsExtensionPskKeyExchangeModes : ℕ := 0x002d

@[inherit_doc tlsExtensionServerName]
def tlsExtensionKeyShare : ℕ := 0x0033

@[inherit_doc tlsExtensionServerName]
def tlsExtensionQuicTransportParameters : ℕ := 0x0039

/-- `WT_TLS_MAX_NAMED_GROUPS`, the room for the versions of a ClientHello too. -/
def tlsMaxNamedGroups : ℕ := 16

/-- `WT_TLS_MAX_SIGNATURE_SCHEMES`. -/
def tlsMaxSignatureSchemes : ℕ := 16

/-- `WT_TLS_MAX_KEY_SHARES`. -/
def tlsMaxKeyShares : ℕ := 4

/-- `WT_TLS_MAX_PROTOCOLS`. -/
def tlsMaxProtocols : ℕ := 8

/-- `WT_TLS_MAX_PROTOCOL_NAME`. -/
def tlsMaxProtocolName : ℕ := 255

lemma lawfulBEq_protocolName : LawfulBEq (List UInt8) := inferInstance

/-- `WT_TLS_VERSION_1_3`. -/
def tlsVersion13 : ℕ := 0x0304

/-- `WT_TLS_CIPHER_SUITE`, the one cipher suite that both sides have a schedule for. -/
def tlsCipherSuite : ℕ := 0x1301

/-- `WT_TLS_GROUP_X25519`. -/
def tlsGroupX25519 : ℕ := 0x001d

/-- `WT_TLS_PSK_MODE_PSK_DHE_KE`. -/
def tlsPskModePskDheKe : ℕ := 1

/-- A key of a group (`wt_tls_key_share_t`). -/
structure TlsKeyShare where
  group : ℕ
  key : List UInt8
deriving DecidableEq, Repr

/-! ## Readers -/

def tlsSupportedVersionsClient (data : List UInt8) (capacity : ℕ) : Except Refusal (List ℕ) := do
  let (length, x) ← tlsU8 data
  if length = 0 ∨ length % 2 ≠ 0 then .error .protocol
  else if length / 2 > capacity then .error .limit
  else do
    let (versions, x) ← Codec.times tlsU16 (length / 2) x
    tlsEnd x versions

def tlsSupportedVersionsServer (data : List UInt8) : Except Refusal ℕ := do
  let (version, x) ← tlsU16 data
  tlsEnd x version

def tlsU16ListParse (data : List UInt8) (capacity : ℕ) : Except Refusal (List ℕ) := do
  let (length, x) ← tlsU16 data
  if length = 0 ∨ length % 2 ≠ 0 then .error .protocol
  else if length / 2 > capacity then .error .limit
  else do
    let (values, x) ← Codec.times tlsU16 (length / 2) x
    tlsEnd x values

/-- One key share (`key_share_entry`). -/
def keyShareEntry (x : List UInt8) : Except Refusal (TlsKeyShare × List UInt8) := do
  let (group, x) ← tlsU16 x
  let (keyLen, x) ← tlsU16 x
  if keyLen = 0 then .error .protocol
  else do
    let (key, x) ← tlsTake keyLen x
    return (⟨group, key⟩, x)

def tlsKeyShareClient (data : List UInt8) (capacity : ℕ) : Except Refusal (List TlsKeyShare) := do
  let (total, x) ← tlsU16 data
  let (block, x) ← tlsTake total x
  let shares ← Codec.items .limit .protocol capacity (fun _ _ => false) keyShareEntry
    block.length [] block
  tlsEnd x shares

def tlsKeyShareServer (data : List UInt8) : Except Refusal TlsKeyShare := do
  let (share, x) ← keyShareEntry data
  tlsEnd x share

/-- One protocol name. -/
def alpnName (x : List UInt8) : Except Refusal (List UInt8 × List UInt8) := do
  let (length, x) ← tlsU8 x
  if length = 0 then .error .protocol else tlsTake length x

def tlsAlpnParse (data : List UInt8) : Except Refusal (List (List UInt8)) := do
  let (total, x) ← tlsU16 data
  if total < 2 then .error .protocol
  else do
    let (block, x) ← tlsTake total x
    let names ← Codec.items .limit .protocol tlsMaxProtocols (fun _ _ => false) alpnName
      block.length [] block
    tlsEnd x names

/-! ## Writers -/

def tlsExtensionSupportedVersionsClient (w : Writer) (versions : List ℕ) : Writer :=
  if versions.length = 0 ∨ versions.length > 127 then w
  else
    w.putAll ([bytes 2 tlsExtensionSupportedVersions, bytes 2 (1 + 2 * versions.length),
      bytes 1 (2 * versions.length)] ++ versions.map (bytes 2))

def tlsExtensionSupportedVersionsServer (w : Writer) (version : ℕ) : Writer :=
  w.putAll [bytes 2 tlsExtensionSupportedVersions, bytes 2 2, bytes 2 version]

def tlsExtensionU16List (w : Writer) (type : ℕ) (values : List ℕ) : Writer :=
  if values.length = 0 ∨ values.length > 0x7fff then w
  else
    w.putAll ([bytes 2 type, bytes 2 (2 + 2 * values.length), bytes 2 (2 * values.length)] ++
      values.map (bytes 2))

/-- What the writers put of one key share. -/
def TlsKeyShare.pieces (share : TlsKeyShare) : List (List UInt8) :=
  [bytes 2 share.group, bytes 2 share.key.length, share.key]

def tlsExtensionKeyShareClient (w : Writer) (shares : List TlsKeyShare) : Writer :=
  let total := (shares.map fun share => 4 + share.key.length).sum
  if shares.length = 0 ∨ shares.length > 0x7fff then w
  else if shares.any fun share => share.key.length = 0 || share.key.length > 0xffff then w
  else if total > 0xffff then w
  else
    w.putAll ([bytes 2 tlsExtensionKeyShare, bytes 2 (2 + total), bytes 2 total] ++
      shares.flatMap TlsKeyShare.pieces)

def tlsExtensionKeyShareServer (w : Writer) (share : TlsKeyShare) : Writer :=
  if share.key.length = 0 ∨ share.key.length > 0xffff then w
  else
    w.putAll [bytes 2 tlsExtensionKeyShare, bytes 2 (4 + share.key.length), bytes 2 share.group,
      bytes 2 share.key.length, share.key]

def tlsExtensionAlpnWrite (w : Writer) (names : List (List UInt8)) : Writer :=
  let total := (names.map fun name => 1 + name.length).sum
  if names.length = 0 ∨ names.length > 0x7fff then w
  else if names.any fun name => name.length = 0 || name.length > tlsMaxProtocolName then w
  else if total > 0xffff then w
  else
    w.putAll ([bytes 2 tlsExtensionAlpn, bytes 2 (2 + total), bytes 2 total] ++
      names.flatMap fun name => [bytes 1 name.length, name])

def tlsExtensionTransportParameters (w : Writer) (data : List UInt8) : Writer :=
  if data.length > 0xffff then w
  else
    w.putAll [bytes 2 tlsExtensionQuicTransportParameters, bytes 2 data.length, data]

def tlsExtensionPskKeyExchangeModesWrite (w : Writer) : Writer :=
  w.putAll [bytes 2 tlsExtensionPskKeyExchangeModes, bytes 2 2, bytes 1 1,
    bytes 1 tlsPskModePskDheKe]

def tlsExtensionServerNameWrite (w : Writer) (hostName : List UInt8) : Writer :=
  if hostName.length = 0 ∨ hostName.length > 0xfffe then w
  else
    w.putAll [bytes 2 tlsExtensionServerName, bytes 2 (2 + 1 + 2 + hostName.length),
      bytes 2 (1 + 2 + hostName.length), bytes 1 0, bytes 2 hostName.length, hostName]

end WebTransport
