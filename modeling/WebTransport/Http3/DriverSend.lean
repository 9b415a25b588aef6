import WebTransport.Lib.Memory
import WebTransport.Http3.Message
import WebTransport.Http3.Route
import WebTransport.Http3.SendAllowance
import WebTransport.Quic.Draining

/-!
# What the driver sends

The outbound half of the driver (`http3/driver_send.c`) over a connection: its own streams, a
request and its message, a data stream, a datagram. A message is built in a buffer that the driver
keeps, and a request that was sent may be sent from it again.
-/

namespace WebTransport

open Memory

/-! ## The driver that sends -/

/-- The size of the driver's buffers. -/
def http3DriverScratch : ℕ := 1024

/-- The strings an extended CONNECT may name in its `:protocol`. -/
inductive UpgradeToken
  | draft16
  | legacy
deriving DecidableEq, Repr

def webtransportUpgradeTokenValue : UpgradeToken → List UInt8
  | .draft16 => ascii "webtransport-h3"
  | .legacy => ascii "webtransport"

/-- The driver with what it needs to send: which streams of its own the endpoint has begun, the
buffer a message is built in, and the request that was sent from it. -/
structure SendingDriver where
  driver : Driver
  begun : EndpointStreamKind → Bool
  upgradeToken : UpgradeToken
  sessionEnded : Bool
  scratch : List UInt8
  requestStreamId : ℕ
  requestLength : ℕ
  requestRetained : Bool

/-- The driver and the connection it sends over. -/
structure Sending where
  sender : SendingDriver
  connection : Connection

/-- Write into the buffer. -/
def SendingDriver.putScratch (d : SendingDriver) (offset : ℕ) (bytes : List UInt8) :
    SendingDriver :=
  { d with scratch := copyTo d.scratch offset bytes }

/-! ## Building -/

/-- Write one frame (`wt_http3_frame_encode`). -/
def http3FrameEncode (w : Writer) (type : ℕ) (payload : List UInt8) : Writer × Status :=
  if type > quicVarintMax then (w, .invalidArgument)
  else if payload.length > quicVarintMax then (w, .invalidArgument)
  else
    let w := quicWriterVarint (quicWriterVarint w type) payload.length
    let w := if payload.length ≠ 0 then w.put payload else w
    (w, if w.ok then .ok else .limit)

/-- The payload of a SETTINGS frame, in the order of the identifiers. -/
def http3SettingsEncodePayload (w : Writer) (settings : Http3Settings) : Writer :=
  (settings.insertionSort fun a b => a.1 ≤ b.1).foldl
    (fun w setting => quicWriterVarint (quicWriterVarint w setting.1) setting.2) w

/-- The section of a message and the frame around it (`wt_http3_endpoint_write_headers`). -/
def http3EndpointWriteHeaders (message : Message) (peerMaxEntries : ℕ) (w : Writer) :
    Writer × Status :=
  match http3MessageEncode (writerInit http3DriverScratch) message peerMaxEntries with
  | .error reply => (w, reply.1)
  | .ok measured =>
    if !measured.ok then (w, .limit) else http3FrameEncode w http3FrameHeaders measured.bytes

/-- The type of a stream that an endpoint begins with a prefix. -/
def ownStreamType : EndpointStreamKind → Option ℕ
  | .control => some http3StreamControl
  | .qpackEncoder => some http3StreamQpackEncoder
  | .qpackDecoder => some http3StreamQpackDecoder
  | .push | .webtransport | .unknown => none

/-- The prefix of a stream of the endpoint's own, once for each kind. -/
def http3EndpointWritePrefix (d : SendingDriver) (kind : EndpointStreamKind) (w : Writer) :
    SendingDriver × Writer × Status :=
  match ownStreamType kind with
  | none => (d, w, .invalidArgument)
  | some type =>
    if d.begun kind then (d, w, .state)
    else
      let w := quicWriterVarint w type
      -- A prefix that was refused has begun nothing.
      if w.ok then ({ d with begun := Function.update d.begun kind true }, w, .ok)
      else (d, w, .limit)

/-- The control stream's prefix and SETTINGS. The frame goes into the first half of the buffer, and
its payload is measured in the second. -/
def http3DriverStartControl (settings : Http3Settings) (d : SendingDriver) :
    SendingDriver × Writer × Status :=
  match http3EndpointWritePrefix d .control (writerInit (http3DriverScratch / 2)) with
  | (d, w, .ok) =>
    let payload := http3SettingsEncodePayload (writerInit (http3DriverScratch / 2)) settings
    let d := d.putScratch (http3DriverScratch / 2) payload.bytes
    if !payload.ok then (d, w, .limit)
    else (d, http3FrameEncode w http3FrameSettings payload.bytes)
  | r => r

def http3DriverStartQpackStream (encoder : Bool) (d : SendingDriver) :
    SendingDriver × Writer × Status :=
  http3EndpointWritePrefix d (if encoder then .qpackEncoder else .qpackDecoder)
    (writerInit (http3DriverScratch / 2))

/-! ## Sending -/

section Send

variable (env : Env) (fuel now : ℕ)

/-- Go on with what succeeded. -/
def andThen (r : Option (Sending × Status)) (next : Sending → Option (Sending × Status)) :
    Option (Sending × Status) :=
  match r with
  | some (s, .ok) => next s
  | r => r

/-- Write to a stream through the transport. -/
def sendOnStream (streamId : ℕ) (bytes : List UInt8) (fin : Bool) (s : Sending) :
    Option (Sending × Status) :=
  (quicSendStream env fuel streamId bytes fin now s.connection).map fun r =>
    ({ s with connection := r.1 }, r.2)

/-- Open a stream through the transport and write its first bytes. -/
def openAndSend (bidirectional : Bool) (bytes : List UInt8) (fin : Bool) (s : Sending) :
    Option (Sending × Status) :=
  match quicOpenStream bidirectional s.connection with
  | (c, .error status) => some ({ s with connection := c }, status)
  | (c, .ok streamId) => sendOnStream env fuel now streamId bytes fin { s with connection := c }

/-- Build the first bytes of a stream of the endpoint's own, and only then open it. -/
def startOwnStream (build : SendingDriver → SendingDriver × Writer × Status) (s : Sending) :
    Option (Sending × Status) :=
  match build s.sender with
  | (d, w, .ok) =>
    openAndSend env fuel now false w.bytes false { s with sender := d.putScratch 0 w.bytes }
  | (d, w, status) => some ({ s with sender := d.putScratch 0 w.bytes }, status)

def http3DriverStartOwnStreams (settings : Http3Settings) (s : Sending) :
    Option (Sending × Status) :=
  andThen (startOwnStream env fuel now (http3DriverStartControl settings) s) fun s =>
    andThen (startOwnStream env fuel now (http3DriverStartQpackStream true) s) fun s =>
      startOwnStream env fuel now (http3DriverStartQpackStream false) s

/-- Open a request stream. -/
def http3DriverOpenRequest (s : Sending) : Sending × Except Status ℕ :=
  match quicOpenStream true s.connection with
  | (c, .error status) => ({ s with connection := c }, .error status)
  | (c, .ok streamId) =>
    let r := http3EndpointOpenRequest s.sender.driver.endpoint streamId
    ({ sender := { s.sender with driver := s.sender.driver.setEndpoint r.1 }, connection := c },
      if r.2.1 ≠ .ok then .error r.2.1 else .ok streamId)

/-- Send a message, and keep where it lies. -/
def http3DriverSendMessage (streamId : ℕ) (message : Message) (peerMaxEntries : ℕ) (fin : Bool)
    (s : Sending) : Option (Sending × Status) :=
  match http3EndpointWriteHeaders message peerMaxEntries (writerInit http3DriverScratch) with
  | (w, .ok) =>
    let sender := { s.sender.putScratch 0 w.bytes with
      requestStreamId := streamId, requestLength := w.bytes.length, requestRetained := true }
    sendOnStream env fuel now streamId (sender.scratch.take w.bytes.length) fin { s with sender }
  | (w, status) => some ({ s with sender := s.sender.putScratch 0 w.bytes }, status)

/-- The prefix of a data stream (`wt_webtransport_stream_prefix_write`). -/
def webtransportStreamPrefixWrite (w : Writer) (unidirectional : Bool) (sessionId : ℕ) :
    Writer × Status :=
  if sessionId % 4 ≠ 0 then (w, .invalidArgument)
  else
    let w := quicWriterVarint
      (quicWriterVarint w (if unidirectional then webtransportStreamUni else webtransportStreamBidi))
      sessionId
    (w, if w.ok then .ok else .limit)

/-- Open a data stream of the session with its first bytes. -/
def http3DriverOpenDataStream (unidirectional : Bool) (data : List UInt8) (fin : Bool)
    (s : Sending) : Option (Sending × Status) :=
  if data.length > http3DriverScratch then some (s, .limit)
  else
    match s.sender.driver.sessionId with
    | none => some (s, .state)
    | some sessionId =>
      if s.sender.sessionEnded then some (s, .state)
      else if s.sender.driver.dataStreams.length ≥ http3DriverDataStreamsMax then some (s, .limit)
      else
        match webtransportStreamPrefixWrite
            (writerInit (http3DriverPrefixMax + http3DriverScratch)) unidirectional sessionId with
        | (prefixed, .ok) =>
          let framed := prefixed.put data
          if !framed.ok then some (s, .limit)
          else
            match quicOpenStream (!unidirectional) s.connection with
            | (c, .error status) => some ({ s with connection := c }, status)
            | (c, .ok streamId) =>
              if quicStreamIdIsBidirectional streamId ≠ !unidirectional then
                some ({ s with connection := c }, .state)
              else
                andThen (sendOnStream env fuel now streamId framed.bytes fin
                  { s with connection := c }) fun s =>
                    let r := rememberDataStream s.sender.driver streamId prefixed.bytes.length
                      (some sessionId)
                    some ({ s with sender := { s.sender with driver := r.1 } }, r.2)
        | (_, _) => some (s, .limit)

/-- The streams of a session: the endpoint's own, and the request that is the session. -/
def http3DriverOpenSessionStream (settings : Http3Settings) (s : Sending) :
    Option (Sending × Except Status ℕ) :=
  match http3DriverStartOwnStreams env fuel now settings s with
  | none => none
  | some (s, .ok) =>
    match http3DriverOpenRequest s with
    | (s, .error status) => some (s, .error status)
    | (s, .ok streamId) =>
      let r := http3DriverMarkCapsuleStream (http3DriverSetSessionId s.sender.driver streamId)
        streamId true
      some ({ s with sender := { s.sender with driver := r.1 } },
        if r.2 ≠ .ok then .error r.2 else .ok streamId)
  | some (s, status) => some (s, .error status)

/-- The extended CONNECT that asks for a session. -/
def sessionRequest (authority path : List UInt8) (token : UpgradeToken) : Message :=
  { type      := .request
    method    := some (ascii "CONNECT")
    scheme    := some (ascii "https")
    authority := some authority
    path      := some path
    protocol  := some (webtransportUpgradeTokenValue token) }

def http3DriverSendSessionRequest (streamId : ℕ) (authority path : List UInt8)
    (peerMaxEntries : ℕ) (s : Sending) : Option (Sending × Status) :=
  http3DriverSendMessage env fuel now streamId
    (sessionRequest authority path s.sender.upgradeToken) peerMaxEntries false s

def http3DriverStartSession (settings : Http3Settings) (authority path : List UInt8)
    (peerMaxEntries : ℕ) (s : Sending) : Option (Sending × Status) :=
  match http3DriverOpenSessionStream env fuel now settings s with
  | none => none
  | some (s, .error status) => some (s, status)
  | some (s, .ok streamId) =>
    http3DriverSendSessionRequest env fuel now streamId authority path peerMaxEntries s

/-- Answer a request: the stream is the session from here on. -/
def http3DriverSendResponse (streamId status peerMaxEntries : ℕ) (fin : Bool) (s : Sending) :
    Option (Sending × Status) :=
  http3DriverSendMessage env fuel now streamId { type := .response, status := some status }
    peerMaxEntries fin { s with sender := { s.sender with
      driver := http3DriverSetSessionId s.sender.driver streamId } }

def http3DriverSendDatagram (data : List UInt8) (s : Sending) : Option (Sending × Status) :=
  if s.sender.sessionEnded then some (s, .state)
  else
    (quicConnectionSendDatagram env fuel data 0 s.connection).map fun r =>
      ({ s with connection := r.1 }, r.2)

/-- Send the request that was kept once more. -/
def http3DriverResendRequest (s : Sending) : Option (Sending × Status) :=
  if s.sender.requestRetained = false ∨ s.sender.requestLength = 0 then some (s, .state)
  else
    sendOnStream env fuel now s.sender.requestStreamId
      (s.sender.scratch.take s.sender.requestLength) false s

end Send

/-! ## Runs of sends -/

/-- A send of the driver. -/
inductive DriverSend
  | startOwnStreams (settings : Http3Settings)
  | openRequest
  | sendMessage (streamId : ℕ) (message : Message) (peerMaxEntries : ℕ) (fin : Bool)
  | openDataStream (unidirectional : Bool) (data : List UInt8) (fin : Bool)
  | openSessionStream (settings : Http3Settings)
  | sendSessionRequest (streamId : ℕ) (authority path : List UInt8) (peerMaxEntries : ℕ)
  | startSession (settings : Http3Settings) (authority path : List UInt8) (peerMaxEntries : ℕ)
  | sendResponse (streamId status peerMaxEntries : ℕ) (fin : Bool)
  | sendDatagram (data : List UInt8)
  | resendRequest

/-- What is left after a send, whatever it answers. -/
def driverSend (env : Env) (fuel now : ℕ) (s : Sending) : DriverSend → Option Sending
  | .startOwnStreams settings =>
    (http3DriverStartOwnStreams env fuel now settings s).map Prod.fst
  | .openRequest => some (http3DriverOpenRequest s).1
  | .sendMessage streamId message peerMaxEntries fin =>
    (http3DriverSendMessage env fuel now streamId message peerMaxEntries fin s).map Prod.fst
  | .openDataStream unidirectional data fin =>
    (http3DriverOpenDataStream env fuel now unidirectional data fin s).map Prod.fst
  | .openSessionStream settings =>
    (http3DriverOpenSessionStream env fuel now settings s).map Prod.fst
  | .sendSessionRequest streamId authority path peerMaxEntries =>
    (http3DriverSendSessionRequest env fuel now streamId authority path peerMaxEntries s).map
      Prod.fst
  | .startSession settings authority path peerMaxEntries =>
    (http3DriverStartSession env fuel now settings authority path peerMaxEntries s).map Prod.fst
  | .sendResponse streamId status peerMaxEntries fin =>
    (http3DriverSendResponse env fuel now streamId status peerMaxEntries fin s).map Prod.fst
  | .sendDatagram data => (http3DriverSendDatagram env fuel data s).map Prod.fst
  | .resendRequest => (http3DriverResendRequest env fuel now s).map Prod.fst

/-- Sends one after the other, each at a time of its own. -/
inductive Sends (env : Env) : Sending → Sending → Prop
  | refl (s : Sending) : Sends env s s
  | send {s s' s'' : Sending} {fuel now : ℕ} {call : DriverSend} (h : Sends env s s')
    (hcall : driverSend env fuel now s' call = some s'') : Sends env s s''

end WebTransport
