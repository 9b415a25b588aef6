import WebTransport.Http3.Control

/-!
# The HTTP/3 endpoint's streams

The part of `http3/endpoint.c` that the driver asks: the peer's unidirectional streams and
what their type prefix made of them, the request streams, and the rules of the control
stream that depend on the endpoint's role.
-/

namespace WebTransport

inductive Http3Role
  | client
  | server
deriving DecidableEq, Repr

/-- What the type prefix of a peer's unidirectional stream made of it. -/
inductive EndpointStreamKind
  | control
  | push
  | qpackEncoder
  | qpackDecoder
  | webtransport
  | unknown
deriving DecidableEq, Repr

structure EndpointStream where
  streamId : ℕ
  kind : EndpointStreamKind
  type : ℕ
deriving DecidableEq, Repr

/-- The endpoint's tables. A request stream is recorded by its ID and by who opened it. -/
structure Endpoint where
  role : Http3Role
  peerControl : ControlStream
  peerQpackEncoderSeen : Bool
  peerQpackDecoderSeen : Bool
  peerWebtransportStreamsSeen : Bool
  streams : List EndpointStream
  requests : List (ℕ × Bool)

def http3EndpointStreamsMax : ℕ := 32
def http3EndpointRequestsMax : ℕ := 8

def http3StreamControl : ℕ := 0x00
def http3StreamPush : ℕ := 0x01
def http3StreamQpackEncoder : ℕ := 0x02
def http3StreamQpackDecoder : ℕ := 0x03
def webtransportStreamUni : ℕ := 0x54
def webtransportStreamBidi : ℕ := 0x41

/-- An endpoint no stream has reached. -/
def http3EndpointInit (role : Http3Role) : Endpoint :=
  { role
    peerControl := http3ControlInit
    peerQpackEncoderSeen := false
    peerQpackDecoderSeen := false
    peerWebtransportStreamsSeen := false
    streams := []
    requests := [] }

/-- The kind recorded for a stream, `unknown` when none is. -/
def http3EndpointStreamKind (endpoint : Endpoint) (streamId : ℕ) : EndpointStreamKind :=
  match endpoint.streams.find? (fun s => s.streamId = streamId) with
  | some s => s.kind
  | none => .unknown

/-- Whether a request stream is tracked (`wt_http3_endpoint_request_state` answers
`WT_OK`). -/
def http3EndpointRequestTracked (endpoint : Endpoint) (streamId : ℕ) : Bool :=
  endpoint.requests.any (fun r => r.1 = streamId)

/-- Track a request stream. -/
def trackRequest (endpoint : Endpoint) (streamId : ℕ) (locallyOpened : Bool) :
    Endpoint × Reply :=
  if http3EndpointRequestTracked endpoint streamId then (endpoint, .state, .noError)
  else if endpoint.requests.length ≥ http3EndpointRequestsMax then (endpoint, .limit, .noError)
  else ({ endpoint with requests := endpoint.requests ++ [(streamId, locallyOpened)] },
    Reply.good)

/-- A request stream this endpoint opens. -/
def http3EndpointOpenRequest (endpoint : Endpoint) (streamId : ℕ) : Endpoint × Reply :=
  if endpoint.role ≠ .client then (endpoint, .state, .noError)
  else trackRequest endpoint streamId true

/-- A request stream the peer opened. -/
def http3EndpointOnRequestStream (endpoint : Endpoint) (streamId : ℕ) : Endpoint × Reply :=
  if endpoint.role = .client then (endpoint, .protocol, .streamCreationError)
  else trackRequest endpoint streamId false

/-- The table's last entry fills the hole a removed one leaves (`forget_stream`). -/
def forgetStream (streams : List EndpointStream) (streamId : ℕ) : List EndpointStream :=
  match streams.findIdx? (fun s => s.streamId = streamId), streams.getLast? with
  | some i, some tail => (streams.set i tail).dropLast
  | _, _ => streams

/-- The record of a classified stream, when the table has room for it. -/
def recordStream (endpoint : Endpoint) (stream : EndpointStream) :
    Endpoint × Reply × EndpointStreamKind :=
  if endpoint.streams.length ≥ http3EndpointStreamsMax then
    (endpoint, (.limit, .noError), .unknown)
  else
    ({ endpoint with streams := endpoint.streams ++ [stream] }, Reply.good, stream.kind)

/-- Classify a peer's unidirectional stream by the prefix in `bytes`. -/
def http3EndpointOnUniStream (endpoint : Endpoint) (streamId : ℕ) (bytes : List UInt8) :
    Endpoint × Reply × EndpointStreamKind :=
  if endpoint.streams.any (fun s => s.streamId = streamId) then
    (endpoint, (.state, .noError), .unknown)
  else
    match quicVarintDecode bytes with
    | .error _ => (endpoint, (.truncated, .noError), .unknown)
    | .ok (type, _) =>
      if type = webtransportStreamUni then
        recordStream { endpoint with peerWebtransportStreamsSeen := true }
          ⟨streamId, .webtransport, type⟩
      else if type = http3StreamControl then
        match http3ControlPeerOpened endpoint.peerControl with
        | (control, .ok, _) =>
          recordStream { endpoint with peerControl := control } ⟨streamId, .control, type⟩
        | (control, reply) => ({ endpoint with peerControl := control }, reply, .unknown)
      else if type = http3StreamQpackEncoder then
        if endpoint.peerQpackEncoderSeen then
          (endpoint, (.protocol, .streamCreationError), .unknown)
        else
          recordStream { endpoint with peerQpackEncoderSeen := true }
            ⟨streamId, .qpackEncoder, type⟩
      else if type = http3StreamQpackDecoder then
        if endpoint.peerQpackDecoderSeen then
          (endpoint, (.protocol, .streamCreationError), .unknown)
        else
          recordStream { endpoint with peerQpackDecoderSeen := true }
            ⟨streamId, .qpackDecoder, type⟩
      else if type = http3StreamPush then
        if endpoint.role = .client then (endpoint, (.protocol, .idError), .unknown)
        else (endpoint, (.protocol, .streamCreationError), .unknown)
      else (endpoint, Reply.good, .unknown)

/-- The header of a frame on the peer's control stream. -/
def http3EndpointOnControlFrame (endpoint : Endpoint) (type : ℕ) : Endpoint × Reply :=
  if type = http3FrameMaxPushId ∧ endpoint.role = .client then
    (endpoint, .protocol, .frameUnexpected)
  else
    let r := http3ControlOnFrame endpoint.peerControl type
    ({ endpoint with peerControl := r.1 }, r.2)

/-- A piece of payload on the peer's control stream. -/
def http3EndpointOnControlPayload (endpoint : Endpoint) (type : ℕ) (payload : List UInt8)
    (last : Bool) : Endpoint × Reply :=
  let r := http3ControlOnFramePayload endpoint.peerControl type payload last
  ({ endpoint with peerControl := r.1 }, r.2)

/-- A peer's unidirectional stream ended. -/
def http3EndpointOnUniStreamEnd (endpoint : Endpoint) (streamId : ℕ) : Endpoint × Reply :=
  match http3EndpointStreamKind endpoint streamId with
  | .unknown => (endpoint, Reply.good)
  | .control =>
    let r := http3ControlOnClosed endpoint.peerControl
    ({ endpoint with
        peerControl := r.1, streams := forgetStream endpoint.streams streamId }, r.2)
  | .qpackEncoder | .qpackDecoder =>
    ({ endpoint with streams := forgetStream endpoint.streams streamId },
      .protocol, .closedCriticalStream)
  | .push | .webtransport =>
    ({ endpoint with streams := forgetStream endpoint.streams streamId }, Reply.good)

end WebTransport
