import WebTransport.Session.Capsule
import WebTransport.Swift.HTTP3Connection

/-!
# Capsules and credit of the Swift endpoint

The capsules of a CONNECT stream, their codec, and the credit of a session, as
`WebTransportFlowControl.swift` has them.
-/

namespace WebTransport

/-! ## Capsules -/

/-- A capsule (`WebTransportFlowCapsule`). The message of a close is its UTF-8 bytes. -/
inductive WebTransportFlowCapsule
  | drainSession
  | closeSession (applicationErrorCode : ℕ) (message : List UInt8)
  | maxData (limit : ℕ)
  | maxStreamsBidi (limit : ℕ)
  | maxStreamsUni (limit : ℕ)
  | dataBlocked (limit : ℕ)
  | streamsBlockedBidi (limit : ℕ)
  | streamsBlockedUni (limit : ℕ)
  | unknown (type : ℕ) (payload : List UInt8)
deriving DecidableEq, Repr

/-- A capsule that was read, and how many bytes it took (`WebTransportFlowCapsuleEnvelope`). -/
structure WebTransportFlowCapsuleEnvelope where
  capsule : WebTransportFlowCapsule
  bytesConsumed : ℕ
  payload : List UInt8
deriving DecidableEq, Repr

namespace WebTransportFlowCapsule

/-! The types of capsules. -/

def wtDrainSession : ℕ := 0x78ae
def wtCloseSession : ℕ := 0x2843
def wtMaxData : ℕ := 0x190b4d3d
def wtMaxStreamData : ℕ := 0x190b4d3e
def wtMaxStreamsBidi : ℕ := 0x190b4d3f
def wtMaxStreamsUni : ℕ := 0x190b4d40
def wtDataBlocked : ℕ := 0x190b4d41
def wtStreamDataBlocked : ℕ := 0x190b4d42
def wtStreamsBlockedBidi : ℕ := 0x190b4d43
def wtStreamsBlockedUni : ℕ := 0x190b4d44

/-- `wtCloseSessionMaxMessageBytes`. -/
def closeSessionMaxMessageBytes : ℕ := 1024

/-- `maximumMaxStreamsValue`. -/
def maximumMaxStreamsValue : ℕ := 2 ^ 60

/-- The types that concern flow control (`isHTTP3FlowControlCapsuleType`). -/
def flowControlTypes : List ℕ :=
  [wtMaxData, wtMaxStreamsBidi, wtMaxStreamsUni, wtDataBlocked, wtStreamsBlockedBidi,
    wtStreamsBlockedUni]

/-- The message that a close is refused for when it is too long. -/
def messageTooLong : QUICCodecError :=
  .valueOutOfRange s!"WT_CLOSE_SESSION message exceeds {closeSessionMaxMessageBytes} bytes"

/-- The type and the payload of a capsule (`serializedTypeAndPayload`). -/
def serializedTypeAndPayload :
    WebTransportFlowCapsule → Except QUICCodecError (ℕ × List UInt8)
  | drainSession => .ok (wtDrainSession, [])
  | closeSession applicationErrorCode message =>
    if closeSessionMaxMessageBytes < message.length then .error messageTooLong
    else
      .ok (wtCloseSession,
        ([24, 16, 8, 0].map fun shift => .ofNat (applicationErrorCode >>> shift &&& 0xff)) ++
          message)
  | maxData limit => do .ok (wtMaxData, ← QUICVarInt.encode limit)
  | maxStreamsBidi limit => do .ok (wtMaxStreamsBidi, ← QUICVarInt.encode limit)
  | maxStreamsUni limit => do .ok (wtMaxStreamsUni, ← QUICVarInt.encode limit)
  | dataBlocked limit => do .ok (wtDataBlocked, ← QUICVarInt.encode limit)
  | streamsBlockedBidi limit => do .ok (wtStreamsBlockedBidi, ← QUICVarInt.encode limit)
  | streamsBlockedUni limit => do .ok (wtStreamsBlockedUni, ← QUICVarInt.encode limit)
  | unknown type payload => .ok (type, payload)

/-- The bytes of a capsule (`serialize`). -/
def serialize (capsule : WebTransportFlowCapsule) : Except QUICCodecError (List UInt8) := do
  let (type, payload) ← capsule.serializedTypeAndPayload
  .ok ((← QUICVarInt.encode type) ++ (← QUICVarInt.encode payload.length) ++ payload)

/-- The payload of a close (`parseCloseSession`). -/
def parseCloseSession (payload : List UInt8) :
    Except QUICCodecError WebTransportFlowCapsule :=
  if payload.length < 4 then
    .error (.malformed "WT_CLOSE_SESSION capsule payload is shorter than 32-bit error code")
  else
    let errorCode := (payload.take 4).foldl (fun code byte => code <<< 8 ||| byte.toNat) 0
    let messageBytes := payload.drop 4
    if closeSessionMaxMessageBytes < messageBytes.length then .error messageTooLong
    else if !utf8IsWellFormed messageBytes then
      .error (.malformed "WT_CLOSE_SESSION message must be UTF-8")
    else .ok (.closeSession errorCode messageBytes)

/-- A payload that is one limit (`readSingleVarInt`), which for numbers of streams is bounded. -/
def readSingleVarInt (label : String) (bounded : Bool) (payload : List UInt8) :
    Except ManagerError ℕ :=
  if payload = [] then
    .error (.malformed s!"flow control capsule has empty payload for {label}")
  else do
    let (value, rest) ← ofCodec (QUICVarInt.read payload)
    if rest ≠ [] then
      .error (.malformed s!"flow control capsule payload has trailing bytes for {label}")
    else if bounded ∧ maximumMaxStreamsValue < value then
      .error (.draft16 .flowControl s!"{label} exceeds the draft-16 2^60 maximum")
    else .ok value

/-- The capsules whose payload is one limit (`parseLimitCapsule`); `none` for other types. -/
def parseLimitCapsule (type : ℕ) (payload : List UInt8) :
    Option (Except ManagerError WebTransportFlowCapsule) :=
  if type = wtMaxData then
    some (maxData <$> readSingleVarInt "wt-max-data" false payload)
  else if type = wtMaxStreamsBidi then
    some (maxStreamsBidi <$> readSingleVarInt "wt-max-streams-bidi" true payload)
  else if type = wtMaxStreamsUni then
    some (maxStreamsUni <$> readSingleVarInt "wt-max-streams-uni" true payload)
  else if type = wtDataBlocked then
    some (dataBlocked <$> readSingleVarInt "wt-data-blocked" false payload)
  else if type = wtStreamsBlockedBidi then
    some (streamsBlockedBidi <$> readSingleVarInt "wt-streams-blocked-bidi" true payload)
  else if type = wtStreamsBlockedUni then
    some (streamsBlockedUni <$> readSingleVarInt "wt-streams-blocked-uni" true payload)
  else none

/-- The type, the payload and the bytes after it of what stands first. -/
def readEnvelope (bytes : List UInt8) : Except QUICCodecError (ℕ × List UInt8 × List UInt8) := do
  let (type, cursor) ← QUICVarInt.read bytes
  let (payloadLength, cursor) ← QUICVarInt.read cursor
  if 2 ^ 63 - 1 < payloadLength then
    .error (.valueOutOfRange "flow control capsule payload length exceeds Int.max")
  else
    let (payload, cursor) ← readBytes payloadLength cursor
    .ok (type, payload, cursor)

/-- The capsule of a type and a payload. -/
def ofPayload (type : ℕ) (payload : List UInt8) : Except ManagerError WebTransportFlowCapsule :=
  if type = wtDrainSession then
    if payload = [] then .ok .drainSession
    else .error (.malformed "WT_DRAIN_SESSION capsule must have an empty payload")
  else if type = wtCloseSession then ofCodec (parseCloseSession payload)
  else if type = wtMaxStreamData ∨ type = wtStreamDataBlocked then
    .error (.draft16 .flowControl "per-stream flow-control capsules are prohibited over HTTP/3")
  else (parseLimitCapsule type payload).getD (.ok (.unknown type payload))

/-- Read a capsule (`parse`). -/
def parse (bytes : List UInt8) : Except ManagerError WebTransportFlowCapsuleEnvelope := do
  let (type, payload, cursor) ← ofCodec (readEnvelope bytes)
  .ok ⟨← ofPayload type payload, bytes.length - cursor.length, payload⟩

/-- The envelope of a capsule that is ignored (`ignoredFlowControlCapsuleEnvelope`). -/
def ignoredEnvelope (bytes : List UInt8) :
    Except QUICCodecError WebTransportFlowCapsuleEnvelope := do
  let (type, payload, cursor) ← readEnvelope bytes
  .ok ⟨.unknown type payload, bytes.length - cursor.length, payload⟩

end WebTransportFlowCapsule

/-! ## Credit -/

/-- A limit (`WebTransportFlowControlLimitState`). -/
inductive WebTransportFlowControlLimitState
  | disabled
  | zero
  | unlimited
  | limited (value : ℕ)
deriving DecidableEq, Repr

namespace WebTransportFlowControlLimitState

/-- A limit from a number (`init(_:isEnabled:)`). -/
def make (limit : Option ℕ) (isEnabled : Bool) : WebTransportFlowControlLimitState :=
  if !isEnabled then disabled
  else match limit with
    | none => unlimited
    | some limit => if limit = 0 then zero else limited limit

/-- `asUInt64`. -/
def asUInt64 : WebTransportFlowControlLimitState → Option ℕ
  | zero => some 0
  | limited value => some value
  | disabled | unlimited => none

/-- Raise a limit (`setMonotonicLimit`). -/
def setMonotonic (current : WebTransportFlowControlLimitState) (value : ℕ) (label : String) :
    Except ManagerError WebTransportFlowControlLimitState :=
  if current.asUInt64.any (value ≤ ·) then
    .error (.draft16 .flowControl s!"{label} must strictly increase")
  else .ok (make (some value) true)

end WebTransportFlowControlLimitState

/-- The credit of a session, in one direction (`WebTransportFlowControlState`). -/
structure WebTransportFlowControlState where
  isEnabled : Bool
  maxDataState : WebTransportFlowControlLimitState
  maxStreamsBidiState : WebTransportFlowControlLimitState
  maxStreamsUniState : WebTransportFlowControlLimitState
  usedData : ℕ := 0
  openedBidiStreams : ℕ := 0
  openedUniStreams : ℕ := 0
deriving DecidableEq, Repr

namespace WebTransportFlowControlState

open WebTransportFlowControlLimitState in
/-- The credit that settings give (`init(settings:isEnabled:)`). -/
def ofSettings (settings : HTTP3Settings) (isEnabled : Bool) : WebTransportFlowControlState where
  isEnabled := isEnabled
  maxDataState := make (some ((settings.get? HTTP3SettingID.wtInitialMaxData).getD 0)) isEnabled
  maxStreamsBidiState :=
    make (some ((settings.get? HTTP3SettingID.wtInitialMaxStreamsBidi).getD 0)) isEnabled
  maxStreamsUniState :=
    make (some ((settings.get? HTTP3SettingID.wtInitialMaxStreamsUni).getD 0)) isEnabled

/-- Credit that counts nothing (`init()`). -/
def off : WebTransportFlowControlState := ⟨false, .disabled, .disabled, .disabled, 0, 0, 0⟩

/-- What the limit of streams of a form is refused for when it is too high. -/
def exceedsMaximum (label : String) : ManagerError :=
  .draft16 .flowControl s!"{label} exceeds the draft-16 2^60 maximum"

/-- `setMaxData`. -/
def setMaxData (s : WebTransportFlowControlState) (value : ℕ) :
    Except ManagerError WebTransportFlowControlState :=
  if !s.isEnabled then .ok s
  else do
    let limit ← s.maxDataState.setMonotonic value "WT_MAX_DATA"
    .ok { s with maxDataState := limit }

/-- `setMaxStreamsBidi`. -/
def setMaxStreamsBidi (s : WebTransportFlowControlState) (value : ℕ) :
    Except ManagerError WebTransportFlowControlState :=
  if !s.isEnabled then .ok s
  else if WebTransportFlowCapsule.maximumMaxStreamsValue < value then
    .error (exceedsMaximum "WT_MAX_STREAMS_BIDI")
  else do
    let limit ← s.maxStreamsBidiState.setMonotonic value "WT_MAX_STREAMS_BIDI"
    .ok { s with maxStreamsBidiState := limit }

/-- `setMaxStreamsUni`. -/
def setMaxStreamsUni (s : WebTransportFlowControlState) (value : ℕ) :
    Except ManagerError WebTransportFlowControlState :=
  if !s.isEnabled then .ok s
  else if WebTransportFlowCapsule.maximumMaxStreamsValue < value then
    .error (exceedsMaximum "WT_MAX_STREAMS_UNI")
  else do
    let limit ← s.maxStreamsUniState.setMonotonic value "WT_MAX_STREAMS_UNI"
    .ok { s with maxStreamsUniState := limit }

/-- A capsule of the peer (`apply`). -/
def apply (s : WebTransportFlowControlState) :
    WebTransportFlowCapsule → Except ManagerError WebTransportFlowControlState
  | .maxData limit => s.setMaxData limit
  | .maxStreamsBidi limit => s.setMaxStreamsBidi limit
  | .maxStreamsUni limit => s.setMaxStreamsUni limit
  | .drainSession | .closeSession .. | .dataBlocked _ | .streamsBlockedBidi _
  | .streamsBlockedUni _ | .unknown .. => .ok s

/-- What data beyond the limit is refused for. -/
def dataLimitExceeded : ManagerError :=
  .valueOutOfRange "WebTransport session data limit exceeded"

/-- Count some bytes (`recordData`). -/
def recordData (s : WebTransportFlowControlState) (bytes : ℕ) :
    Except ManagerError WebTransportFlowControlState :=
  if !s.isEnabled then .ok s
  else match s.maxDataState with
    | .disabled | .unlimited => .ok s
    | .zero => .error dataLimitExceeded
    | .limited limit =>
      match Checked.add s.usedData bytes with
      | none => .error dataLimitExceeded
      | some newUsage =>
        if limit < newUsage then .error dataLimitExceeded else .ok { s with usedData := newUsage }

/-- Whether there may be one more stream (`ensureCanOpen`). -/
def ensureCanOpen (form : String) (current : ℕ) (limit : WebTransportFlowControlLimitState) :
    Except ManagerError Unit :=
  match limit.asUInt64 with
  | none => .ok ()
  | some limit =>
    if min limit (2 ^ 63 - 1) < current + 1 then
      .error (.valueOutOfRange s!"WebTransport {form} stream limit exceeded")
    else .ok ()

/-- Count a stream (`registerStream`). -/
def registerStream (s : WebTransportFlowControlState) :
    WebTransportStreamForm → Except ManagerError WebTransportFlowControlState
  | .bidirectional =>
    if !s.isEnabled then .ok s
    else do
      ensureCanOpen "bidirectional" s.openedBidiStreams s.maxStreamsBidiState
      .ok { s with openedBidiStreams := s.openedBidiStreams + 1 }
  | .unidirectional =>
    if !s.isEnabled then .ok s
    else do
      ensureCanOpen "unidirectional" s.openedUniStreams s.maxStreamsUniState
      .ok { s with openedUniStreams := s.openedUniStreams + 1 }

/-- The capsule that says that a stream has to wait (`blockedCapsule(for:state:)`). -/
def blockedCapsule (s : WebTransportFlowControlState) :
    WebTransportStreamForm → Option WebTransportFlowCapsule
  | .bidirectional => s.maxStreamsBidiState.asUInt64.map .streamsBlockedBidi
  | .unidirectional => s.maxStreamsUniState.asUInt64.map .streamsBlockedUni

end WebTransportFlowControlState

end WebTransport
