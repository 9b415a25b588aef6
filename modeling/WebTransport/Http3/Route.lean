import WebTransport.Lib.SwapRemove
import WebTransport.Quic.Stream
import WebTransport.Http3.Driver

/-!
# The HTTP/3 driver: routing a connection's frames

Every frame the connection delivers passes through `http3/driver_route.c`: it belongs to a
data stream, to a request stream or to one of HTTP/3's own unidirectional streams. A stream
the driver does not know yet begins with a prefix, which is reassembled across frames in the
table of pending prefixes (`http3/driver_stream.c` for the unidirectional streams,
`http3/driver_send.c` for the bidirectional ones).
-/

namespace WebTransport

open SwapRemove

def http3DriverPrefixMax : ℕ := 16
def http3DriverPendingMax : ℕ := 8
def http3DriverDataStreamsMax : ℕ := 32

/-! ## The driver's tables -/

/-- Remember a stream whose prefix is settled: the bytes after it are the session's. -/
def rememberDataStream (d : Driver) (streamId ourPrefixLength : ℕ) (sessionId : Option ℕ) :
    Driver × Status :=
  if d.dataStreams.length ≥ http3DriverDataStreamsMax then (d, .limit)
  else
    ({ d with dataStreams := d.dataStreams ++ [⟨streamId, ourPrefixLength, sessionId⟩] }, .ok)

def http3DriverIsDataStream (d : Driver) (streamId : ℕ) : Bool :=
  d.dataStreams.any (fun e => e.streamId = streamId)

def http3DriverSetSessionId (d : Driver) (sessionId : ℕ) : Driver :=
  { d with sessionId := some sessionId }

/-- The session a prefix names is another one than the driver's. -/
def foreignSession (d : Driver) (sessionId : ℕ) : Bool := d.sessionId.any (· ≠ sessionId)

def findPending (d : Driver) (streamId : ℕ) : Option PendingPrefix :=
  d.pending.find? (fun p => p.streamId = streamId)

def forgetPending (d : Driver) (streamId : ℕ) : Driver :=
  { d with pending := swapRemove (fun p => p.streamId = streamId) d.pending }

/-- The bytes held of a stream's prefix. -/
def heldBytes (d : Driver) (streamId : ℕ) : List UInt8 :=
  match findPending d streamId with
  | some p => p.bytes
  | none => []

/-- Replace the bytes of the first entry of a stream. -/
def replacePending (streamId : ℕ) (bytes : List UInt8) : List PendingPrefix → List PendingPrefix
  | [] => []
  | p :: ps =>
    if p.streamId = streamId then { p with bytes := bytes } :: ps
    else p :: replacePending streamId bytes ps

/-- Hold the bytes of a prefix that is not complete, in the stream's entry or in a new one. -/
def holdPending (d : Driver) (streamId : ℕ) (bytes : List UInt8) : Driver × Status :=
  if (findPending d streamId).isSome then
    ({ d with pending := replacePending streamId bytes d.pending }, .ok)
  else if d.pending.length ≥ http3DriverPendingMax then (d, .limit)
  else ({ d with pending := d.pending ++ [⟨streamId, bytes⟩] }, .ok)

/-! ## Prefixes -/

/-- The bytes an integer takes, by its first byte. -/
def prefixNeeded (first : UInt8) : ℕ := 1 <<< (first.toNat >>> 6)

/-- How many bytes the whole prefix of a unidirectional stream needs, as far as `bytes`
tells: the stream type and, for a WebTransport stream, the session ID after it. -/
def uniPrefixLength (bytes : List UInt8) : ℕ :=
  match bytes with
  | [] => 1
  | first :: _ =>
    let typeWidth := prefixNeeded first
    if bytes.length < typeWidth then typeWidth
    else
      match quicVarintDecode (bytes.take typeWidth) with
      | .error _ => typeWidth
      | .ok (type, _) =>
        if type ≠ webtransportStreamUni then typeWidth
        else
          match bytes.drop typeWidth with
          | [] => typeWidth + 1
          | second :: _ => typeWidth + prefixNeeded second

/-- Take from the frame's bytes what the prefix still needs: the bytes assembled and the
bytes not taken. Every turn takes a byte, so `fuel` beyond the number of bytes is enough. -/
def assemblePrefix : ℕ → List UInt8 → List UInt8 → List UInt8 × List UInt8
  | 0, held, data => (held, data)
  | fuel + 1, held, data =>
    let needed := uniPrefixLength held
    let want := min (needed - held.length) data.length
    if held.length ≥ needed ∨ want = 0 then (held, data)
    else assemblePrefix fuel (held ++ data.take want) (data.drop want)

/-- What a call made of a unidirectional stream's bytes: the driver, the answer, the kind of
the stream and the bytes after the prefix. -/
structure UniStart where
  driver : Driver
  reply : Reply
  kind : EndpointStreamKind
  payload : List UInt8

/-- Tell the endpoint about a stream whose prefix is complete. -/
def classifyUniStream (d : Driver) (streamId : ℕ) (bytes : List UInt8)
    (payload : List UInt8) : UniStart :=
  let r := http3EndpointOnUniStream d.endpoint streamId bytes
  if r.2.1.1 ≠ .ok then ⟨d.setEndpoint r.1, r.2.1, r.2.2, []⟩
  else ⟨d.setEndpoint r.1, Reply.good, r.2.2, payload⟩

/-- A unidirectional stream whose prefix is complete in `bytes`: the session it names must be
the driver's, and the endpoint is asked before the stream is remembered. -/
def settleUniPrefix (d : Driver) (streamId : ℕ) (bytes payload : List UInt8) : UniStart :=
  match quicVarintDecode bytes with
  | .error _ => ⟨d, (.truncated, .noError), .unknown, []⟩
  | .ok (type, session) =>
    if type = webtransportStreamUni then
      match quicVarintDecode session with
      | .error _ => ⟨d, (.truncated, .noError), .unknown, []⟩
      | .ok (sessionId, _) =>
        if foreignSession d sessionId then ⟨d, (.protocol, .idError), .unknown, []⟩
        else
          let start := classifyUniStream d streamId bytes payload
          if start.reply.1 ≠ .ok then start
          else
            let r := rememberDataStream start.driver streamId 0 (some sessionId)
            if r.2 ≠ .ok then ⟨r.1, (r.2, .noError), start.kind, []⟩
            else { start with driver := r.1 }
    else classifyUniStream d streamId bytes payload

/-- Bytes of a peer's unidirectional stream that the endpoint has not classified. -/
def http3DriverOnUniStreamData (d : Driver) (streamId offset : ℕ) (data : List UInt8) :
    UniStart :=
  let held := heldBytes d streamId
  if offset ≠ held.length then ⟨d, (.state, .noError), .unknown, []⟩
  else if data = [] then ⟨d, Reply.good, .unknown, []⟩
  else
    let assembled := assemblePrefix (data.length + 1) held data
    if assembled.1.length < uniPrefixLength assembled.1 then
      let r := holdPending d streamId assembled.1
      ⟨r.1, (r.2, .noError), .unknown, []⟩
    else settleUniPrefix (forgetPending d streamId) streamId assembled.1 assembled.2

/-- A peer's unidirectional stream ended. -/
def http3DriverOnUniStreamEnd (d : Driver) (streamId : ℕ) : Driver × Reply :=
  if (findPending d streamId).isSome then
    (http3DriverForgetFrame (forgetPending d streamId) streamId, Reply.good)
  else
    let r := http3EndpointOnUniStreamEnd d.endpoint streamId
    (http3DriverForgetFrame (d.setEndpoint r.1) streamId, r.2)

/-- What a bidirectional stream begins with: a request, or a WebTransport prefix of so many
bytes. -/
inductive BidiStart
  | request
  | webtransport (sessionId consumed : ℕ)
deriving DecidableEq, Repr

/-- Classify the first bytes of a bidirectional stream. -/
def http3DriverClassifyBidiStart (bytes : List UInt8) : Except Status BidiStart :=
  match quicVarintDecode bytes with
  | .error _ => .error .truncated
  | .ok (type, session) =>
    if type ≠ webtransportStreamBidi then .ok .request
    else
      match quicVarintDecode session with
      | .error _ => .error .truncated
      | .ok (sessionId, rest) => .ok (.webtransport sessionId (bytes.length - rest.length))

/-! ## Routing -/

/-- Whether this endpoint is the one that opens a stream with this ID. -/
def streamIsOurs (endpoint : Endpoint) (streamId : ℕ) : Bool :=
  if endpoint.role = .client then quicStreamIdFromClient streamId
  else !quicStreamIdFromClient streamId

def Feed.setDriver (s : Feed) (driver : Driver) : Feed := { s with driver }

@[simp] lemma Feed.setDriver_driver (s : Feed) (d : Driver) : (s.setDriver d).driver = d := rfl

@[simp] lemma Feed.setDriver_log (s : Feed) (d : Driver) : (s.setDriver d).log = s.log := rfl

section Route

variable (sink : Sink) (maxFrameBytes : ℕ)

/-- Deliver what follows the prefix of a data stream: first what was assembled with it, then
what the assembly had no room for. -/
def deliverAfterPrefix (streamId : ℕ) (assembled left : List UInt8) (fin : Bool) (s : Feed) :
    Feed × Reply :=
  if sink.onStreamData.isNone then (s, Reply.good)
  else
    let first :=
      if assembled ≠ [] then
        s.report sink.onStreamData
          (.streamData streamId assembled (if left ≠ [] then false else fin))
      else (s, Reply.good)
    if first.2.1 ≠ .ok then first
    else if left ≠ [] then
      first.1.report sink.onStreamData (.streamData streamId left fin)
    else (first.1, Reply.good)

/-- Bytes of a request stream, which is tracked from its first bytes on. -/
def routeRequest (tracked : Bool) (f : StreamFrame) (s : Feed) : Option (Feed × Reply) :=
  let r :=
    if tracked then (s.driver.endpoint, Reply.good)
    else http3EndpointOnRequestStream s.driver.endpoint f.id
  let s := s.setEndpoint r.1
  if r.2.1 ≠ .ok then some (s, r.2)
  else http3DriverOnStreamBytes sink maxFrameBytes f.id f.data f.fin s

/-- A STREAM frame on a bidirectional stream that is not a data stream. -/
def routeBidi (f : StreamFrame) (s : Feed) : Option (Feed × Reply) :=
  let tracked := http3EndpointRequestTracked s.driver.endpoint f.id
  if !tracked ∧ ((findPending s.driver f.id).isSome ∨ f.offset = 0 ∧ f.data.length > 0) then
    let held := heldBytes s.driver f.id
    let copied := min f.data.length (http3DriverPrefixMax - held.length)
    let assembled := held ++ f.data.take copied
    match http3DriverClassifyBidiStart assembled with
    | .error _ =>
      let r := holdPending s.driver f.id assembled
      some (s.setDriver r.1, r.2, .noError)
    | .ok start =>
      let s := s.setDriver (forgetPending s.driver f.id)
      match start with
      | .webtransport sessionId consumed =>
        if foreignSession s.driver sessionId then some (s, .protocol, .noError)
        else
          let r := rememberDataStream s.driver f.id 0 (some sessionId)
          if r.2 ≠ .ok then some (s.setDriver r.1, r.2, .noError)
          else
            some (deliverAfterPrefix sink f.id (assembled.drop consumed) (f.data.drop copied)
              f.fin (s.setDriver r.1))
      | .request =>
        if held.length > 0 then
          match http3DriverOnStreamBytes sink maxFrameBytes f.id held false s with
          | none => none
          | some (s, reply) =>
            if reply.1 ≠ .ok then some (s, reply.1, .noError)
            else routeRequest sink maxFrameBytes tracked f s
        else routeRequest sink maxFrameBytes tracked f s
  else routeRequest sink maxFrameBytes tracked f s

/-- Bytes of a classified unidirectional stream: the session's own, or HTTP/3 frames. -/
def routeUniPayload (kind : EndpointStreamKind) (streamId : ℕ) (payload : List UInt8)
    (fin : Bool) (s : Feed) : Option (Feed × Reply) :=
  if kind = .webtransport then
    if payload ≠ [] then
      some (s.report sink.onStreamData (.streamData streamId payload fin))
    else some (s, Reply.good)
  else
    match
      if payload ≠ [] ∨ fin then
        http3DriverOnStreamBytes sink maxFrameBytes streamId payload fin s
      else some (s, Reply.good) with
    | none => none
    | some (s, reply) =>
      if reply.1 ≠ .ok then some (s, reply)
      else if fin then
        let r := http3DriverOnUniStreamEnd s.driver streamId
        some (s.setDriver r.1, r.2)
      else some (s, Reply.good)

/-- A STREAM frame on a peer's unidirectional stream that is not a data stream. -/
def routeUni (f : StreamFrame) (s : Feed) : Option (Feed × Reply) :=
  let kind := http3EndpointStreamKind s.driver.endpoint f.id
  if kind ≠ .unknown then routeUniPayload sink maxFrameBytes kind f.id f.data f.fin s
  else
    let start := http3DriverOnUniStreamData s.driver f.id f.offset f.data
    let s := s.setDriver start.driver
    if start.reply.1 ≠ .ok then some (s, start.reply)
    else if start.kind = .unknown then some (s, Reply.good)
    else routeUniPayload sink maxFrameBytes start.kind f.id start.payload f.fin s

/-- A STREAM frame. -/
def routeStreamFrame (f : StreamFrame) (s : Feed) : Option (Feed × Reply) :=
  if http3DriverIsDataStream s.driver f.id then
    some (s.report sink.onStreamData (.streamData f.id f.data f.fin))
  else if streamIsOurs s.driver.endpoint f.id ∧ !quicStreamIdIsBidirectional f.id then
    some (s, Reply.good)
  else if quicStreamIdIsBidirectional f.id then routeBidi sink maxFrameBytes f s
  else routeUni sink maxFrameBytes f s

/-- A frame of the connection: STREAM and DATAGRAM frames are this layer's. -/
def routeQuicFrame (frame : Frame) (s : Feed) : Option (Feed × Reply) :=
  match frame with
  | .stream f => routeStreamFrame sink maxFrameBytes f s
  | .datagram data => some (s.report sink.onDatagram (.datagram data))
  | _ => some (s, Reply.good)

/-- What a routed frame did: the driver with its sink, the status, and the HTTP/3 error the
connection is closed with. -/
structure Routed where
  feed : Feed
  status : Status
  close : Option Http3Error

/-- Route a frame, and state a refusal that names an HTTP/3 error to the connection. -/
def http3DriverOnQuicFrame (frame : Frame) (s : Feed) : Option Routed :=
  (routeQuicFrame sink maxFrameBytes frame s).map fun r =>
    ⟨r.1, r.2.1, if r.2.1 ≠ .ok ∧ r.2.2 ≠ .noError then some r.2.2 else none⟩

end Route

end WebTransport
