import WebTransport.Lib.Dictionary
import WebTransport.Swift.StreamState

/-!
# The HTTP/3 connection under a session manager

Frames, settings, request streams and the state of the connection (`HTTP3Frame.swift`,
`HTTP3Settings.swift`, `HTTP3Connection.swift`), as far as the session manager uses them. The field
sections of CONNECT messages are read and written by functions that are given.
-/

namespace WebTransport

/-! ## Errors -/

/-- The kinds of errors of the draft (`WebTransportDraft16ErrorKind`). -/
inductive WebTransportDraft16ErrorKind
  | bufferedStreamRejected
  | sessionGone
  | flowControl
  | alpn
  | requirementsNotMet
  | h3ID
  | requestRejected
deriving DecidableEq, Repr

/-- What an operation of the session manager throws: an error of a codec, of a stream, of the draft
(`WebTransportDraft16Error`) or of the connection (`HTTP3ConnectionError`). -/
inductive ManagerError
  | codec (e : QUICCodecError)
  | stream (e : QUICStreamError)
  | draft16 (kind : WebTransportDraft16ErrorKind) (message : String)
  | connection (code : ℕ) (reason : String)
deriving DecidableEq, Repr

namespace ManagerError

/-- `QUICCodecError.malformed`. -/
def malformed (message : String) : ManagerError := .codec (.malformed message)

/-- `QUICCodecError.valueOutOfRange`. -/
def valueOutOfRange (message : String) : ManagerError := .codec (.valueOutOfRange message)

/-- Whether this is an error of the draft, of a kind. -/
def IsKind (kind : WebTransportDraft16ErrorKind) (e : ManagerError) : Prop :=
  ∃ message, e = .draft16 kind message

instance (kind : WebTransportDraft16ErrorKind) (e : ManagerError) : Decidable (e.IsKind kind) :=
  match e with
  | .draft16 kind' message =>
    decidable_of_iff (kind' = kind) (by
      constructor
      · rintro rfl
        exact ⟨message, rfl⟩
      · rintro ⟨_, h⟩
        exact (ManagerError.draft16.inj h).1)
  | .codec _ => .isFalse nofun
  | .stream _ => .isFalse nofun
  | .connection .. => .isFalse nofun

end ManagerError

/-- What a part of the codec throws, the manager throws. -/
def ofCodec {α : Type} : Except QUICCodecError α → Except ManagerError α
  | .ok a => .ok a
  | .error e => .error (.codec e)

/-- What a stream throws, the manager throws. -/
def ofStream {α : Type} : Except QUICStreamError α → Except ManagerError α
  | .ok a => .ok a
  | .error e => .error (.stream e)

/-- What a stream of a session throws, the manager throws. -/
def ofStreamState {α : Type} : Except WebTransportStreamError α → Except ManagerError α
  | .ok a => .ok a
  | .error (.codec e) => .error (.codec e)
  | .error (.stream e) => .error (.stream e)

/-! ## Frames -/

namespace HTTP3FrameType

def data : ℕ := 0x00
def headers : ℕ := 0x01
def settings : ℕ := 0x04
def goaway : ℕ := 0x07

end HTTP3FrameType

/-- An HTTP/3 frame. -/
structure HTTP3Frame where
  type : ℕ
  payload : List UInt8
deriving DecidableEq, Repr

namespace HTTP3Frame

/-- A frame from its parts (`init(type:payload:)`). -/
def make (type : ℕ) (payload : List UInt8) : Except QUICCodecError HTTP3Frame :=
  if QUICVarInt.maximum < type then
    .error (.valueOutOfRange "HTTP/3 frame type exceeds QUIC varint range")
  else if QUICVarInt.maximum < payload.length then
    .error (.valueOutOfRange "HTTP/3 frame payload length exceeds QUIC varint range")
  else .ok ⟨type, payload⟩

/-- A frame whose payload is an integer (`init(type:varIntValue:)`). -/
def ofVarInt (type value : ℕ) : Except QUICCodecError HTTP3Frame := do
  make type (← QUICVarInt.encode value)

/-- Read a frame (`decode(from:)`). -/
def decode (cursor : List UInt8) : Except QUICCodecError (HTTP3Frame × List UInt8) := do
  let (type, cursor) ← QUICVarInt.read cursor
  let (length, cursor) ← QUICVarInt.read cursor
  if 2 ^ 63 - 1 < length then
    .error (.valueOutOfRange "HTTP/3 frame length exceeds Int.max")
  else
    let (payload, cursor) ← readBytes length cursor
    .ok (← make type payload, cursor)

/-- Read frames up to the end. Each takes bytes, so that as many rounds as there are bytes are
enough. -/
def decodeRounds : ℕ → List UInt8 → Except QUICCodecError (List HTTP3Frame)
  | 0, _ => .ok []
  | rounds + 1, cursor =>
    if cursor = [] then .ok []
    else do
      let (frame, cursor) ← decode cursor
      .ok (frame :: (← decodeRounds rounds cursor))

/-- `decodeFrames`. -/
def decodeFrames (bytes : List UInt8) : Except QUICCodecError (List HTTP3Frame) :=
  decodeRounds bytes.length bytes

/-- The integer that is the payload (`singleVarIntPayload`). -/
def singleVarIntPayload (frame : HTTP3Frame) : Except QUICCodecError ℕ := do
  let (value, cursor) ← QUICVarInt.read frame.payload
  if cursor = [] then .ok value
  else .error (.malformed "HTTP/3 frame payload has trailing bytes")

end HTTP3Frame

/-! ## Settings -/

/-- Settings: the values of their identifiers. -/
abbrev HTTP3Settings : Type := Dictionary ℕ ℕ

/-- `HTTP3ApplicationErrorCode.settingsError`. -/
def http3SettingsError : ℕ := 0x109

namespace HTTP3SettingID

def enableConnectProtocol : ℕ := 0x08
def h3Datagram : ℕ := 0x33
def legacyEnableWebTransport : ℕ := 0x2b603742
def wtEnabled : ℕ := 0x2c7cf000
def wtInitialMaxStreamsUni : ℕ := 0x2b64
def wtInitialMaxStreamsBidi : ℕ := 0x2b65
def wtInitialMaxData : ℕ := 0x2b61

/-- `isReservedHTTP2Setting`. -/
def reservedHTTP2 : List ℕ := [0x02, 0x03, 0x04, 0x05]

end HTTP3SettingID

namespace HTTP3Settings

/-- Check an entry (`validate(identifier:value:)`). -/
def validate (identifier value : ℕ) : Except QUICCodecError Unit :=
  if QUICVarInt.maximum < identifier then
    .error (.valueOutOfRange "HTTP/3 SETTINGS identifier exceeds QUIC varint range")
  else if QUICVarInt.maximum < value then
    .error (.valueOutOfRange "HTTP/3 SETTINGS value exceeds QUIC varint range")
  else if identifier ∈ HTTP3SettingID.reservedHTTP2 then
    .error (.malformed "reserved HTTP/2 SETTINGS identifier is invalid in HTTP/3")
  else .ok ()

/-- Read entries up to the end. Each takes bytes, so that as many rounds as there are bytes are
enough. -/
def decodeRounds : ℕ → HTTP3Settings → List UInt8 → Except QUICCodecError HTTP3Settings
  | 0, values, _ => .ok values
  | rounds + 1, values, cursor =>
    if cursor = [] then .ok values
    else do
      let (identifier, cursor) ← QUICVarInt.read cursor
      let (value, cursor) ← QUICVarInt.read cursor
      validate identifier value
      if (values.get? identifier).isSome then
        .error (.malformed "duplicate HTTP/3 SETTINGS identifier")
      else decodeRounds rounds (values.insert identifier value) cursor

/-- The settings of a frame (`decodeFrame`). -/
def decodeFrame (frame : HTTP3Frame) : Except QUICCodecError HTTP3Settings :=
  if frame.type ≠ HTTP3FrameType.settings then
    .error (.malformed "HTTP/3 SETTINGS decoder received non-SETTINGS frame")
  else decodeRounds frame.payload.length ∅ frame.payload

/-- A check, which throws unless its condition holds. -/
def require (condition : Bool) (e : ManagerError) : Except ManagerError Unit :=
  if condition then .ok () else .error e

/-- `validateWebTransportDraft16Requirements`. -/
def validateDraft16 (s : HTTP3Settings) (peerRole : Option HTTP3ConnectionRole) :
    Except ManagerError Unit := do
  require ((s.get? HTTP3SettingID.wtEnabled).all (· ≤ 1))
    (.connection http3SettingsError "SETTINGS_WT_ENABLED values greater than 1 are invalid")
  require (peerRole = some .client || s.get? HTTP3SettingID.enableConnectProtocol = some 1)
    (.malformed "WebTransport over HTTP/3 requires server SETTINGS_ENABLE_CONNECT_PROTOCOL = 1")
  require (s.get? HTTP3SettingID.h3Datagram = some 1)
    (.malformed "WebTransport over HTTP/3 requires SETTINGS_H3_DATAGRAM = 1")
  require (s.get? HTTP3SettingID.wtEnabled = some 1)
    (.malformed "WebTransport over HTTP/3 requires SETTINGS_WT_ENABLE_WEBTRANSPORT = 1")

/-- Whether a setting says that WebTransport is enabled, an old one or the draft's. -/
def enablesWebTransport (s : HTTP3Settings) : Bool :=
  s.get? HTTP3SettingID.wtEnabled = some 1 ||
    s.get? HTTP3SettingID.legacyEnableWebTransport = some 1

/-- `validateWebTransportChromiumInteropRequirements`. -/
def validateChromiumInterop (s : HTTP3Settings) (peerRole : Option HTTP3ConnectionRole) :
    Except ManagerError Unit := do
  require (peerRole = some .client || s.get? HTTP3SettingID.enableConnectProtocol = some 1)
    (.malformed
      "Chromium WebTransport interop requires server SETTINGS_ENABLE_CONNECT_PROTOCOL = 1")
  require (s.get? HTTP3SettingID.h3Datagram = some 1)
    (.malformed "Chromium WebTransport interop requires SETTINGS_H3_DATAGRAM = 1")
  require (peerRole = some .client || s.enablesWebTransport)
    (.malformed "Chromium WebTransport interop requires a WebTransport enable setting")

/-- `validateWebTransportPyWebTransportStreamInteropRequirements`. -/
def validatePyWebTransportStreamInterop (s : HTTP3Settings)
    (peerRole : Option HTTP3ConnectionRole) : Except ManagerError Unit := do
  require (peerRole = some .client || s.get? HTTP3SettingID.enableConnectProtocol = some 1)
    (.malformed
      "pywebtransport stream interop requires server SETTINGS_ENABLE_CONNECT_PROTOCOL = 1")
  require (s.get? HTTP3SettingID.h3Datagram ≠ some 1 || s.enablesWebTransport)
    (.malformed ("pywebtransport stream interop requires a WebTransport enable setting when " ++
      "H3_DATAGRAM is advertised"))

/-- `webTransportFlowControlEnabled`, of one endpoint. -/
def flowControlEnabled (s : HTTP3Settings) : Bool :=
  0 < (s.get? HTTP3SettingID.wtInitialMaxData).getD 0 ||
    0 < (s.get? HTTP3SettingID.wtInitialMaxStreamsBidi).getD 0 ||
    0 < (s.get? HTTP3SettingID.wtInitialMaxStreamsUni).getD 0

end HTTP3Settings

/-- Which settings and tokens of the peer are acceptable
(`HTTP3WebTransportSettingsValidation`). -/
inductive HTTP3WebTransportSettingsValidation
  | draft16Strict
  | interoperable
  | chromiumInterop
  | pywebtransportStreamInterop
deriving DecidableEq, Repr

namespace HTTP3WebTransportSettingsValidation

/-- `upgradeToken`. -/
def upgradeToken : HTTP3WebTransportSettingsValidation → String
  | draft16Strict | interoperable => "webtransport-h3"
  | chromiumInterop | pywebtransportStreamInterop => "webtransport"

/-- `acceptedUpgradeTokens`. -/
def acceptedUpgradeTokens : HTTP3WebTransportSettingsValidation → List String
  | draft16Strict => ["webtransport-h3"]
  | _ => ["webtransport-h3", "webtransport"]

/-- Check settings by the rules of a profile. -/
def validate (s : HTTP3Settings) (peerRole : Option HTTP3ConnectionRole) :
    HTTP3WebTransportSettingsValidation → Except ManagerError Unit
  | draft16Strict => s.validateDraft16 peerRole
  | interoperable | chromiumInterop => s.validateChromiumInterop peerRole
  | pywebtransportStreamInterop => s.validatePyWebTransportStreamInterop peerRole

end HTTP3WebTransportSettingsValidation

/-! ## Request streams -/

/-- A field line (`HTTPFieldLine`). -/
structure HTTPFieldLine where
  name : String
  value : String
deriving DecidableEq, Repr

/-- The states of a request stream (`HTTP3RequestStreamState`). -/
inductive HTTP3RequestStreamState
  | idle
  | open
  | halfClosedRemote
  | closed
deriving DecidableEq, Repr

/-- A request stream (`HTTP3RequestStream`). -/
structure HTTP3RequestStream where
  streamID : ℕ
  role : HTTP3ConnectionRole
  state : HTTP3RequestStreamState := .idle
deriving DecidableEq, Repr

/-- The coding of field sections and the rules of the fields of CONNECT messages. -/
structure FieldSections where
  decodeHeadersFrame : HTTP3Frame → Except ManagerError (List HTTPFieldLine)
  headersFrame : List HTTPFieldLine → Except ManagerError HTTP3Frame
  validateConnectRequest : List HTTPFieldLine → List String → Except ManagerError Unit
  validateSuccessfulResponse : List HTTPFieldLine → Except ManagerError Unit

namespace HTTP3RequestStream

variable (sections : FieldSections) (s : HTTP3RequestStream)

/-- The HEADERS of a request (`makeRequestHeadersFrame`). -/
def makeRequestHeadersFrame (fields : List HTTPFieldLine) (tokens : List String) :
    Except ManagerError (HTTP3Frame × HTTP3RequestStream) :=
  if s.role ≠ .client then .error (.malformed "only clients send HTTP/3 request HEADERS")
  else if s.state ≠ .idle then .error (.malformed "request HEADERS already sent")
  else do
    sections.validateConnectRequest fields tokens
    .ok (← sections.headersFrame fields, { s with state := .open })

/-- The HEADERS of the peer (`receiveHeaders`). -/
def receiveHeaders (fields : List HTTPFieldLine) (tokens : List String) :
    Except ManagerError HTTP3RequestStream :=
  match s.role with
  | .client =>
    if s.state ≠ .open ∧ s.state ≠ .halfClosedRemote then
      .error (.malformed "client received response HEADERS in invalid request state")
    else do
      sections.validateSuccessfulResponse fields
      .ok { s with state := .open }
  | .server =>
    if s.state ≠ .idle then .error (.malformed "server received duplicate request HEADERS")
    else do
      sections.validateConnectRequest fields tokens
      .ok { s with state := .open }

/-- A frame of the stream (`receive`, which rejects DATA for all callers here). -/
def receive (frame : HTTP3Frame) (tokens : List String) :
    Except ManagerError HTTP3RequestStream :=
  if frame.type = HTTP3FrameType.headers then do
    s.receiveHeaders sections (← sections.decodeHeadersFrame frame) tokens
  else if frame.type = HTTP3FrameType.data then
    if s.state ≠ .open ∧ s.state ≠ .halfClosedRemote then
      .error (.malformed "DATA received in invalid request state")
    else
      .error (.malformed
        "DATA frames are not accepted on WebTransport CONNECT request streams")
  else if frame.type = HTTP3FrameType.goaway ∨ frame.type = HTTP3FrameType.settings then
    .error (.malformed "connection-level HTTP/3 frame received on request stream")
  else .ok s

end HTTP3RequestStream

/-! ## The connection -/

/-- The connection (`HTTP3ConnectionState`). -/
structure HTTP3ConnectionState where
  role : HTTP3ConnectionRole
  localSettings : HTTP3Settings
  remoteSettings : Option HTTP3Settings := none
  receivedPeerControlStream : Bool := false
  sentGoawayID : Option ℕ := none
  receivedGoawayID : Option ℕ := none
  requestStreams : Dictionary ℕ HTTP3RequestStream := ∅

/-- `HTTP3StreamType.control`. -/
def http3StreamTypeControl : ℕ := 0x00

namespace HTTP3ConnectionState

variable (c : HTTP3ConnectionState)

/-- The frames after SETTINGS on the control stream, with the identifier of the last GOAWAY
(`scanControlFrames`). -/
def scanControlFrames : List HTTP3Frame → Option ℕ → Except ManagerError (Option ℕ)
  | [], goawayID => .ok goawayID
  | frame :: rest, goawayID =>
    if frame.type = HTTP3FrameType.settings then
      .error (.malformed "duplicate HTTP/3 SETTINGS frame")
    else if frame.type = HTTP3FrameType.goaway then do
      let id ← ofCodec frame.singleVarIntPayload
      scanControlFrames rest (some id)
    else if frame.type = HTTP3FrameType.data ∨ frame.type = HTTP3FrameType.headers then
      .error (.malformed "request-only HTTP/3 frame received on control stream")
    else scanControlFrames rest goawayID

/-- The peer's control stream (`receivePeerControlStream`). -/
def receivePeerControlStream (bytes : List UInt8)
    (validation : HTTP3WebTransportSettingsValidation) :
    Except ManagerError (List HTTP3Frame × HTTP3ConnectionState) :=
  if c.receivedPeerControlStream then
    .error (.malformed "duplicate HTTP/3 control stream")
  else do
    let (type, remaining) ← ofCodec (QUICVarInt.read bytes)
    if type ≠ http3StreamTypeControl then .error (.malformed "expected HTTP/3 control stream")
    else
      let frames ← ofCodec (HTTP3Frame.decodeFrames remaining)
      match frames with
      | [] => .error (.malformed "HTTP/3 control stream must start with SETTINGS")
      | first :: rest =>
        if first.type ≠ HTTP3FrameType.settings then
          .error (.malformed "HTTP/3 control stream must start with SETTINGS")
        else
          let decodedSettings ← ofCodec (HTTP3Settings.decodeFrame first)
          validation.validate decodedSettings (some c.role.peer)
          let goawayID ← scanControlFrames rest c.receivedGoawayID
          .ok (frames,
            { c with
              remoteSettings := some decodedSettings
              receivedGoawayID := goawayID
              receivedPeerControlStream := true })

/-- One more frame of the control stream (`receiveControlFrame`). -/
def receiveControlFrame (frame : HTTP3Frame) : Except ManagerError HTTP3ConnectionState :=
  if frame.type = HTTP3FrameType.settings then
    .error (.malformed "duplicate HTTP/3 SETTINGS frame")
  else if frame.type = HTTP3FrameType.goaway then do
    let id ← ofCodec frame.singleVarIntPayload
    .ok { c with receivedGoawayID := some id }
  else if frame.type = HTTP3FrameType.data ∨ frame.type = HTTP3FrameType.headers then
    .error (.malformed "request-only HTTP/3 frame received on control stream")
  else .ok c

/-- The identifier of a GOAWAY is noted before its frame is made (`makeGoawayFrame`). -/
def noteGoaway (streamID : ℕ) : HTTP3ConnectionState := { c with sentGoawayID := some streamID }

/-- A new request stream, which is stored (`openRequestStream` and `acceptRequestStream`, which
differ in the role that may call). -/
def newRequestStream (role : HTTP3ConnectionRole) (refusal : String) (streamID : ℕ) :
    Except ManagerError (HTTP3RequestStream × HTTP3ConnectionState) :=
  if c.role ≠ role then .error (.malformed refusal)
  else if QUICStreamID.direction streamID ≠ .bidirectional ∨
      QUICStreamID.initiator streamID ≠ .client then
    .error (.malformed
      "HTTP/3 request streams must be client-initiated bidirectional streams")
  else if (c.requestStreams.get? streamID).isSome then
    .error (.malformed "HTTP/3 request stream already exists")
  else
    let stream : HTTP3RequestStream := ⟨streamID, c.role, .idle⟩
    .ok (stream, { c with requestStreams := c.requestStreams.insert streamID stream })

/-- `openRequestStream`. -/
def openRequestStream : ℕ → Except ManagerError (HTTP3RequestStream × HTTP3ConnectionState) :=
  c.newRequestStream .client "only clients open request streams"

/-- `acceptRequestStream`. -/
def acceptRequestStream : ℕ → Except ManagerError (HTTP3RequestStream × HTTP3ConnectionState) :=
  c.newRequestStream .server "only servers accept request streams"

/-- `storeRequestStream`. -/
def storeRequestStream (stream : HTTP3RequestStream) : HTTP3ConnectionState :=
  { c with requestStreams := c.requestStreams.insert stream.streamID stream }

end HTTP3ConnectionState

end WebTransport
