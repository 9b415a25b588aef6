import WebTransport.Lib.Loop
import WebTransport.Http3.Endpoint

/-!
# The HTTP/3 driver: frame boundaries

The driver's tables (`http3/driver.c`) and the function that turns the bytes of one stream
into frames (`wt_http3_driver_on_stream_bytes` of `http3/driver_stream.c`). The table of
half-read frames is an array of which the first `frameCount` entries are live: the entries
above are dead but still there, and the loop goes on using the slot it started with even
after that slot has been released.
-/

namespace WebTransport

/-! ## The driver's state -/

/-- A stream part way through a frame: the header bytes held, or the frame it is in. -/
structure FrameState where
  streamId : ℕ
  header : List UInt8
  inFrame : Bool
  type : ℕ
  payloadLength : ℕ
  payloadReceived : ℕ
deriving DecidableEq, Repr

/-- A marked CONNECT stream; `headersPending` until its one HEADERS frame has passed. -/
structure CapsuleStream where
  streamId : ℕ
  headersPending : Bool
deriving DecidableEq, Repr

/-- A WebTransport data stream whose prefix is settled. -/
structure DataStream where
  streamId : ℕ
  prefixLength : ℕ
  sessionId : Option ℕ
deriving DecidableEq, Repr

/-- The bytes held of a stream prefix that has not arrived completely. -/
structure PendingPrefix where
  streamId : ℕ
  bytes : List UInt8
deriving DecidableEq, Repr

structure Driver where
  endpoint : Endpoint
  pending : List PendingPrefix
  frames : ℕ → FrameState
  frameCount : ℕ
  sessionId : Option ℕ
  dataStreams : List DataStream
  capsuleStreams : List CapsuleStream

def http3DriverFramesMax : ℕ := 8
def http3DriverFrameHeaderMax : ℕ := 16
def http3DriverCapsuleStreamsMax : ℕ := 8

/-- An array entry that has never been used. -/
def FrameState.zero : FrameState := ⟨0, [], false, 0, 0, 0⟩

/-- A driver that has seen no stream. -/
def http3DriverInit (endpoint : Endpoint) : Driver :=
  { endpoint
    pending := []
    frames := fun _ => FrameState.zero
    frameCount := 0
    sessionId := none
    dataStreams := []
    capsuleStreams := [] }

def Driver.setFrame (d : Driver) (k : ℕ) (f : FrameState) : Driver :=
  { d with frames := Function.update d.frames k f }

def Driver.setEndpoint (d : Driver) (endpoint : Endpoint) : Driver := { d with endpoint }

@[simp] lemma setFrame_frames (d : Driver) (k : ℕ) (f : FrameState) :
    (d.setFrame k f).frames = Function.update d.frames k f := rfl

@[simp] lemma setFrame_frameCount (d : Driver) (k : ℕ) (f : FrameState) :
    (d.setFrame k f).frameCount = d.frameCount := rfl

@[simp] lemma setFrame_endpoint (d : Driver) (k : ℕ) (f : FrameState) :
    (d.setFrame k f).endpoint = d.endpoint := rfl

@[simp] lemma setFrame_capsuleStreams (d : Driver) (k : ℕ) (f : FrameState) :
    (d.setFrame k f).capsuleStreams = d.capsuleStreams := rfl

@[simp] lemma setEndpoint_frames (d : Driver) (e : Endpoint) :
    (d.setEndpoint e).frames = d.frames := rfl

@[simp] lemma setEndpoint_frameCount (d : Driver) (e : Endpoint) :
    (d.setEndpoint e).frameCount = d.frameCount := rfl

@[simp] lemma setEndpoint_endpoint (d : Driver) (e : Endpoint) :
    (d.setEndpoint e).endpoint = e := rfl

@[simp] lemma setEndpoint_capsuleStreams (d : Driver) (e : Endpoint) :
    (d.setEndpoint e).capsuleStreams = d.capsuleStreams := rfl

/-- The first live entry of a stream. -/
def findFrameState (d : Driver) (streamId : ℕ) : Option ℕ :=
  (List.range d.frameCount).find? (fun i => (d.frames i).streamId = streamId)

/-- Release a stream's entry: the table's last entry fills the hole. -/
def http3DriverForgetFrame (d : Driver) (streamId : ℕ) : Driver :=
  match findFrameState d streamId with
  | none => d
  | some i =>
    { d.setFrame i (d.frames (d.frameCount - 1)) with frameCount := d.frameCount - 1 }

/-- The mark of a CONNECT stream. -/
def findCapsuleStream (d : Driver) (streamId : ℕ) : Option CapsuleStream :=
  d.capsuleStreams.find? (fun m => m.streamId = streamId)

/-- Mark a CONNECT stream; the first mark's state stands. -/
def http3DriverMarkCapsuleStream (d : Driver) (streamId : ℕ) (headersPending : Bool) :
    Driver × Status :=
  if (findCapsuleStream d streamId).isSome then (d, .ok)
  else if d.capsuleStreams.length ≥ http3DriverCapsuleStreamsMax then (d, .limit)
  else ({ d with capsuleStreams := d.capsuleStreams ++ [⟨streamId, headersPending⟩] }, .ok)

/-- Whether a stream carries the session's capsules by now. -/
def http3DriverIsCapsuleStream (d : Driver) (streamId : ℕ) : Bool :=
  match findCapsuleStream d streamId with
  | some m => !m.headersPending
  | none => false

/-- Clear the pending flag of the first mark of a stream. -/
def clearPending (streamId : ℕ) : List CapsuleStream → List CapsuleStream
  | [] => []
  | m :: ms =>
    if m.streamId = streamId then { m with headersPending := false } :: ms
    else m :: clearPending streamId ms

/-- The HEADERS frame of a marked stream has been delivered: its capsules begin here, and
its frame state is dropped with the mark. -/
def settleCapsuleStream (d : Driver) (streamId : ℕ) : Driver :=
  match findCapsuleStream d streamId with
  | none => d
  | some m =>
    if !m.headersPending then d
    else
      http3DriverForgetFrame
        { d with capsuleStreams := clearPending streamId d.capsuleStreams } streamId

/-! ## The sink -/

/-- What the driver reports to the session. -/
inductive SinkEvent
  | framePayload (streamId type : ℕ) (payload : List UInt8) (last : Bool)
  | streamData (streamId : ℕ) (data : List UInt8) (fin : Bool)
  | datagram (data : List UInt8)
deriving DecidableEq, Repr

/-- The session's callbacks, each of which may be missing. A callback answers with a status
that may depend on everything it has been told so far. -/
structure Sink where
  onFramePayload : Option (List SinkEvent → Status)
  onStreamData : Option (List SinkEvent → Status)
  onDatagram : Option (List SinkEvent → Status)

/-- A sink that records everything and refuses nothing. -/
def Sink.accepting : Sink := ⟨some fun _ => .ok, some fun _ => .ok, some fun _ => .ok⟩

/-- The driver with what its sink has been told. -/
structure Feed where
  driver : Driver
  log : List SinkEvent

/-- Tell one callback about an event. -/
def Feed.report (s : Feed) (callback : Option (List SinkEvent → Status)) (event : SinkEvent) :
    Feed × Reply :=
  match callback with
  | none => (s, Reply.good)
  | some answer =>
    ({ s with log := s.log ++ [event] }, answer (s.log ++ [event]), .noError)

def Feed.setFrame (s : Feed) (k : ℕ) (f : FrameState) : Feed :=
  { s with driver := s.driver.setFrame k f }

def Feed.setEndpoint (s : Feed) (endpoint : Endpoint) : Feed :=
  { s with driver := s.driver.setEndpoint endpoint }

@[simp] lemma Feed.setFrame_driver (s : Feed) (k : ℕ) (f : FrameState) :
    (s.setFrame k f).driver = s.driver.setFrame k f := rfl

@[simp] lemma Feed.setFrame_log (s : Feed) (k : ℕ) (f : FrameState) :
    (s.setFrame k f).log = s.log := rfl

@[simp] lemma Feed.setEndpoint_driver (s : Feed) (e : Endpoint) :
    (s.setEndpoint e).driver = s.driver.setEndpoint e := rfl

@[simp] lemma Feed.setEndpoint_log (s : Feed) (e : Endpoint) :
    (s.setEndpoint e).log = s.log := rfl

/-! ## From bytes to frames -/

/-- The type and the length of a frame whose header is complete in `bytes`. -/
def readFrameHeader (bytes : List UInt8) : Option (ℕ × ℕ) :=
  match quicVarintDecode bytes with
  | .error _ => none
  | .ok (type, rest) =>
    match quicVarintDecode rest with
    | .error _ => none
    | .ok (payloadLength, _) => some (type, payloadLength)

/-- How the header loop ended. -/
inductive HeaderEnd
  | incomplete
  | excessive
  | complete
deriving DecidableEq, Repr

/-- Fill the header one byte at a time until both integers are there; the bytes that were
not needed are returned. -/
def fillHeader (maxFrameBytes : ℕ) (f : FrameState) :
    List UInt8 → FrameState × HeaderEnd × List UInt8
  | [] => (f, .incomplete, [])
  | b :: data =>
    if f.header.length < http3DriverFrameHeaderMax then
      match readFrameHeader (f.header ++ [b]) with
      | none => fillHeader maxFrameBytes { f with header := f.header ++ [b] } data
      | some (type, payloadLength) =>
        if payloadLength > maxFrameBytes then ({ f with header := [] }, .excessive, data)
        else
          ({ f with
              header := [], inFrame := true, type := type, payloadLength := payloadLength,
              payloadReceived := 0 }, .complete, data)
    else (f, .incomplete, b :: data)

section Stream

variable (sink : Sink) (streamId : ℕ) (isControl : Bool)

/-- Deliver one piece of a frame's payload: the control machine first, then the rule for
CONNECT streams, then the sink. -/
def deliverFramePayload (s : Feed) (type : ℕ) (payload : List UInt8) (last : Bool) :
    Feed × Reply :=
  let control :=
    if isControl then http3EndpointOnControlPayload s.driver.endpoint type payload last
    else (s.driver.endpoint, Reply.good)
  let s := s.setEndpoint control.1
  if control.2.1 ≠ .ok then (s, control.2)
  else if http3DriverIsCapsuleStream s.driver streamId then
    if type ≠ http3FrameData then
      if http3FrameTypeIsKnown type || http3FrameTypeIsReserved type then
        (s, .protocol, .frameUnexpected)
      else (s, Reply.good)
    else s.report sink.onStreamData (.streamData streamId payload false)
  else s.report sink.onFramePayload (.framePayload streamId type payload last)

/-- One turn of the loop: it goes on with the bytes left, or the call returns. -/
inductive Turn
  | next (s : Feed) (data : List UInt8)
  | stop (s : Feed) (reply : Reply)

/-- The end of the turn: a frame whose payload is complete is over. -/
def frameEnd (k : ℕ) (s : Feed) (data : List UInt8) : Turn :=
  let f := s.driver.frames k
  if f.payloadReceived = f.payloadLength then
    let empty :=
      if f.payloadLength = 0 then
        deliverFramePayload sink streamId isControl s f.type [] true
      else (s, Reply.good)
    if empty.2.1 ≠ .ok then .stop empty.1 empty.2
    else
      -- The flag is cleared before the settle, which may move another entry to this slot.
      let s := empty.1.setFrame k { f with inFrame := false }
      if f.type = http3FrameHeaders then
        .next { s with driver := settleCapsuleStream s.driver streamId } data
      else .next s data
  else .next s data

/-- Deliver what has arrived of the payload, up to `remaining`. -/
def takePayload (k remaining : ℕ) (s : Feed) (data : List UInt8) : Turn :=
  let f := s.driver.frames k
  let take := min data.length remaining
  if take > 0 then
    let r := deliverFramePayload sink streamId isControl s f.type (data.take take)
      (take = remaining)
    if r.2.1 ≠ .ok then .stop r.1 r.2
    else
      frameEnd sink streamId isControl k
        (r.1.setFrame k { f with payloadReceived := f.payloadReceived + take })
        (data.drop take)
  else frameEnd sink streamId isControl k s data

/-- The part of a turn inside a frame. Bytes held with the header would be the start of the
payload. -/
def framePayload (k : ℕ) (s : Feed) (data : List UInt8) : Turn :=
  let f := s.driver.frames k
  let remaining := f.payloadLength - f.payloadReceived
  if f.header.length > 0 then
    let fromHeader := min f.header.length remaining
    let r := deliverFramePayload sink streamId isControl s f.type (f.header.take fromHeader)
      (fromHeader = remaining)
    if r.2.1 ≠ .ok then .stop r.1 r.2
    else
      let f := { f with payloadReceived := f.payloadReceived + fromHeader, header := [] }
      if f.payloadReceived = f.payloadLength then
        let s := r.1.setFrame k { f with inFrame := false }
        if f.type = http3FrameHeaders then
          .next { s with driver := settleCapsuleStream s.driver streamId } data
        else .next s data
      else takePayload sink streamId isControl k remaining (r.1.setFrame k f) data
  else takePayload sink streamId isControl k remaining s data

/-- A turn of the loop on at least one byte. -/
def streamTurn (maxFrameBytes k : ℕ) (s : Feed) (data : List UInt8) : Turn :=
  let f := s.driver.frames k
  if f.inFrame then framePayload sink streamId isControl k s data
  else
    match fillHeader maxFrameBytes f data with
    | (f, .excessive, _) => .stop (s.setFrame k f) (.limit, .excessiveLoad)
    | (f, .incomplete, rest) => .next (s.setFrame k f) rest
    | (f, .complete, rest) =>
      let s := s.setFrame k f
      if isControl then
        let r := http3EndpointOnControlFrame s.driver.endpoint f.type
        if r.2.1 ≠ .ok then
          .stop ((s.setEndpoint r.1).setFrame k { f with inFrame := false }) r.2
        else framePayload sink streamId isControl k (s.setEndpoint r.1) rest
      else framePayload sink streamId isControl k s rest

/-- The loop's step: it is over when no byte is left, and returns early on a refusal. -/
def streamStep (maxFrameBytes k : ℕ) : Feed × List UInt8 → (Feed × List UInt8) ⊕ (Feed × Reply ⊕ Feed)
  | (s, []) => .inr (.inr s)
  | (s, b :: data) =>
    match streamTurn sink streamId isControl maxFrameBytes k s (b :: data) with
    | .next s data => .inl (s, data)
    | .stop s reply => .inr (.inl (s, reply))

end Stream

/-- What the stream's own end adds after the loop. -/
def streamFin (sink : Sink) (streamId k : ℕ) (fin : Bool) (s : Feed) : Feed × Reply :=
  if !fin then (s, Reply.good)
  else
    let f := s.driver.frames k
    let incomplete := f.inFrame || decide (f.header.length > 0)
    let wasCapsule := http3DriverIsCapsuleStream s.driver streamId
    let s := { s with driver := http3DriverForgetFrame s.driver streamId }
    if incomplete then (s, .truncated, .frameError)
    else if wasCapsule then s.report sink.onStreamData (.streamData streamId [] true)
    else (s, Reply.good)

/-- The stream's slot, a fresh one when it has none; `none` when the table is full. -/
def openFrameState (d : Driver) (streamId : ℕ) : Option (Driver × ℕ) :=
  match findFrameState d streamId with
  | some k => some (d, k)
  | none =>
    if d.frameCount ≥ http3DriverFramesMax then none
    else
      some ({ d.setFrame d.frameCount
                { d.frames d.frameCount with streamId := streamId, header := [], inFrame := false }
              with frameCount := d.frameCount + 1 }, d.frameCount)

/-- Bytes of one stream (`wt_http3_driver_on_stream_bytes`); `none` would be a call whose
loop does not end. -/
def http3DriverOnStreamBytes (sink : Sink) (maxFrameBytes streamId : ℕ) (data : List UInt8)
    (fin : Bool) (s : Feed) : Option (Feed × Reply) :=
  match openFrameState s.driver streamId with
  | none => some (s, .limit, .noError)
  | some (driver, k) =>
    let isControl := decide (http3EndpointStreamKind driver.endpoint streamId = .control)
    match Loop.run (streamStep sink streamId isControl maxFrameBytes k)
        (2 * data.length + 3) ({ s with driver }, data) with
    | none => none
    | some (.inl r) => some r
    | some (.inr s) => some (streamFin sink streamId k fin s)

end WebTransport
