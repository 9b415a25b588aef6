import WebTransport.Quic.RetryPacket

/-!
# The server's half of a Retry

A server answers a client's first Initial packet with a Retry, and checks the token of the packet
that comes back (`runtime/server_retry.c`). Between the two it keeps a secret and a connection ID,
and nothing of the client.
-/

namespace WebTransport

/-! ## Addresses -/

/-- `wt_udp_family_t`. -/
inductive UdpFamily
  | ipv4
  | ipv6
deriving DecidableEq, Repr

/-- The value of a family. -/
def UdpFamily.toByte : UdpFamily → UInt8
  | .ipv4 => 0
  | .ipv6 => 1

/-- `wt_udp_address_t`. The bytes of an address that is shorter than sixteen are zero. -/
structure UdpAddress where
  family : UdpFamily
  port : UInt16
  scopeId : UInt32
  bytes : Fin 16 → UInt8
deriving DecidableEq

/-- `WT_UDP_ADDRESS_ENCODED_LENGTH`. -/
def udpAddressEncodedLength : ℕ := 23

/-- `wt_udp_address_encode`: nothing when there is no room. -/
def udpAddressEncode (address : UdpAddress) (capacity : ℕ) : List UInt8 :=
  if capacity < udpAddressEncodedLength then []
  else address.family.toByte :: (List.ofFn address.bytes ++
    (BigEndian.bytes 2 address.port.toNat ++ BigEndian.bytes 4 address.scopeId.toNat))

/-! ## The server -/

/-- `WT_RUNTIME_SERVER_RETRY_MIN_ID`. -/
def runtimeServerRetryMinId : ℕ := 1

/-- `WT_RUNTIME_SERVER_RETRY_MAX`. -/
def runtimeServerRetryMax : ℕ := 256

/-- `wt_runtime_server_retry_t`. -/
structure ServerRetry where
  secret : List UInt8
  sourceConnectionId : List UInt8
  tokenMaxAge : UInt64
  retriesSent : UInt32
  tokensRefused : UInt32
  armed : Bool
deriving DecidableEq, Repr

/-- A server of zeros. -/
def ServerRetry.zeroed : ServerRetry := ⟨[], [], 0, 0, 0, false⟩

/-- `wt_runtime_server_retry_arm`, with what the random generator gives for the secret and for the
connection ID. -/
def runtimeServerRetryArm (connectionIdLength : ℕ) (tokenMaxAge : UInt64)
    (secret id : Except Status (List UInt8)) : ServerRetry × Status :=
  if connectionIdLength < runtimeServerRetryMinId ∨
      quicMaxConnectionIdLength < connectionIdLength then (.zeroed, .invalidArgument)
  else
    match secret with
    | .error status => (.zeroed, status)
    | .ok secret =>
      match id with
      | .error status => ({ ServerRetry.zeroed with secret := secret }, status)
      | .ok id => (⟨secret, id, tokenMaxAge, 0, 0, true⟩, .ok)

/-- What a server reads of an Initial packet that it may have only the front of
(`retry_initial_t`). -/
structure RetryInitial where
  destinationConnectionId : List UInt8
  sourceConnectionId : List UInt8
  token : List UInt8
deriving DecidableEq, Repr

/-- `read_initial`: nothing when the datagram is no Initial packet for this server. -/
def readInitial (datagram : List UInt8) : Except Status (Option RetryInitial) :=
  if datagram.length = 0 then .error .invalidArgument
  else
    match quicLongHeaderConnectionIds datagram with
    | .error _ => .ok none
    | .ok (destination, source) =>
      match quicInitialToken datagram with
      | .error _ => .ok none
      | .ok token => .ok (some ⟨destination, source, token⟩)

variable (crypto : RetryCrypto)

/-- The Retry that answers an Initial packet. It is written twice: the tag covers what the first
pass wrote in front of it. -/
def writeRetry (retry : ServerRetry) (header : RetryInitial) (token : List UInt8) (capacity : ℕ) :
    Except Status (List UInt8) := do
  let encode := quicRetryPacketEncode (writerInit capacity) quicVersion1
    header.sourceConnectionId retry.sourceConnectionId token
  let first ← encode (List.replicate quicRetryIntegrityTagLen 0)
  let tag ← quicRetryIntegrityTag crypto header.destinationConnectionId
    (first.bytes.take (first.bytes.length - quicRetryIntegrityTagLen))
  let second ← encode tag
  return second.bytes

/-- `wt_runtime_server_retry_build`: a Retry for a datagram, or nothing to send. -/
def runtimeServerRetryBuild (retry : ServerRetry) (datagram : List UInt8) (peer : UdpAddress)
    (now : UInt64) (capacity : ℕ) : ServerRetry × Status × Option (List UInt8) :=
  if !retry.armed then (retry, .state, none)
  else
    match readInitial datagram with
    | .error status => (retry, status, none)
    | .ok none => (retry, .ok, none)
    | .ok (some header) =>
      -- A packet with a token is an answer to a Retry: another one would be a loop.
      if header.token.length ≠ 0 then (retry, .ok, none)
      else if header.sourceConnectionId.length = 0 ∨ header.destinationConnectionId.length = 0 then
        (retry, .ok, none)
      else
        let address := udpAddressEncode peer udpAddressEncodedLength
        if address.length = 0 then (retry, .invalidArgument, none)
        else
          match quicRetryTokenBuild crypto retry.secret address header.destinationConnectionId now
              quicRetryTokenMax >>= fun token => writeRetry crypto retry header token capacity with
          | .error status => (retry, status, none)
          | .ok packet => ({ retry with retriesSent := retry.retriesSent + 1 }, .ok, some packet)

/-- `wt_runtime_server_retry_accept`: the connection ID that the client's first packet was for, or
nothing when the token is not accepted. -/
def runtimeServerRetryAccept (retry : ServerRetry) (datagram : List UInt8) (peer : UdpAddress)
    (now : UInt64) (capacity : ℕ) : ServerRetry × Status × Option (List UInt8) :=
  if !retry.armed then (retry, .state, none)
  else
    match readInitial datagram with
    | .error status => (retry, status, none)
    | .ok none => (retry, .ok, none)
    | .ok (some header) =>
      if header.token.length = 0 then (retry, .ok, none)
      else if header.destinationConnectionId ≠ retry.sourceConnectionId then (retry, .ok, none)
      else
        let address := udpAddressEncode peer udpAddressEncodedLength
        if address.length = 0 then (retry, .invalidArgument, none)
        else
          match quicRetryTokenValidate crypto retry.secret address now retry.tokenMaxAge
              header.token capacity with
          | .error status =>
            ({ retry with tokensRefused := retry.tokensRefused + 1 }, status, none)
          | .ok original => (retry, .ok, some original)

end WebTransport
