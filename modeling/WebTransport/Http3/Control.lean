import WebTransport.Quic.Varint

/-!
# The peer's HTTP/3 control stream

The rules of the control stream (`http3/control.c`) and of the SETTINGS payload it
reassembles (`http3/settings.c`), with the frame types both are written in
(`http3/frame.c`).
-/

namespace WebTransport

/-- The error codes of the HTTP/3 layer that the modelled functions raise. -/
inductive Http3Error
  | noError
  | streamCreationError
  | closedCriticalStream
  | frameUnexpected
  | frameError
  | excessiveLoad
  | idError
  | settingsError
  | missingSettings
  | requestIncomplete
  | messageError
  | qpackDecompressionFailed
  | qpackEncoderStreamError
  | qpackDecoderStreamError
deriving DecidableEq, Repr

/-- What a call of the HTTP/3 layer answers: its status and the error code beside it. -/
abbrev Reply := Status × Http3Error

/-- The answer of a call with nothing to object to. -/
def Reply.good : Reply := (.ok, .noError)

/-! ## Frame types -/

def http3FrameData : ℕ := 0x00
def http3FrameHeaders : ℕ := 0x01
def http3FrameCancelPush : ℕ := 0x03
def http3FrameSettings : ℕ := 0x04
def http3FramePushPromise : ℕ := 0x05
def http3FrameGoaway : ℕ := 0x07
def http3FrameMaxPushId : ℕ := 0x0d

/-- The frame types of HTTP/2 that have no HTTP/3 equivalent. -/
def http3FrameTypeIsReserved (type : ℕ) : Bool :=
  type = 0x02 || type = 0x06 || type = 0x08 || type = 0x09

/-- The frame types this build has a name for. -/
def http3FrameTypeIsKnown (type : ℕ) : Bool :=
  type = http3FrameData || type = http3FrameHeaders || type = http3FrameCancelPush ||
    type = http3FrameSettings || type = http3FramePushPromise || type = http3FrameGoaway ||
    type = http3FrameMaxPushId

/-! ## SETTINGS -/

/-- Identifier and value of each stored setting, in order of arrival. -/
abbrev Http3Settings := List (ℕ × ℕ)

def http3SettingEnableConnectProtocol : ℕ := 0x08
def http3SettingH3Datagram : ℕ := 0x33
def http3SettingsMaxEntries : ℕ := 16

/-- The HTTP/2 identifiers HTTP/3 has no equivalent for. -/
def http3SettingIsReservedHttp2 (identifier : ℕ) : Bool :=
  identifier = 0x02 || identifier = 0x03 || identifier = 0x04 || identifier = 0x05

/-- The identifiers reserved to exercise that unknown ones are ignored. -/
def http3SettingIsExerciser (identifier : ℕ) : Bool :=
  if identifier < 0x21 then false else (identifier - 0x21) % 0x1f = 0

/-- Store one setting. -/
def http3SettingsSet (settings : Http3Settings) (identifier value : ℕ) :
    Except Status Http3Settings :=
  if identifier > quicVarintMax ∨ value > quicVarintMax then .error .invalidArgument
  else if http3SettingIsReservedHttp2 identifier then .error .invalidArgument
  else if identifier = http3SettingEnableConnectProtocol ∧ value > 1 then
    .error .invalidArgument
  else if identifier = http3SettingH3Datagram ∧ value > 1 then .error .invalidArgument
  else if settings.any (fun e => e.1 = identifier) then .error .state
  else if settings.length ≥ http3SettingsMaxEntries then .error .limit
  else .ok (settings ++ [(identifier, value)])

lemma quicVarintDecode_length_lt {c rest : List UInt8} {v : ℕ}
    (h : quicVarintDecode c = .ok (v, rest)) : rest.length < c.length := by
  cases c with
  | nil => cases h
  | cons first c =>
    simp only [quicVarintDecode, quicVarintDecodeSized] at h
    split at h
    · cases h
    · cases h
      simp

/-- The loop of `wt_http3_settings_parse` over the bytes still unread. -/
def settingsParseFrom (parsed : Http3Settings) (c : List UInt8) :
    Except Reply Http3Settings :=
  if c = [] then .ok parsed
  else
    match _hid : quicVarintDecode c with
    | .error _ => .error (.truncated, .settingsError)
    | .ok (identifier, c₁) =>
      match _hvalue : quicVarintDecode c₁ with
      | .error _ => .error (.truncated, .settingsError)
      | .ok (value, c₂) =>
        if http3SettingIsReservedHttp2 identifier then .error (.protocol, .settingsError)
        else if http3SettingIsExerciser identifier then settingsParseFrom parsed c₂
        else if identifier = http3SettingEnableConnectProtocol ∧ value > 1 then
          .error (.protocol, .settingsError)
        else if identifier = http3SettingH3Datagram ∧ value > 1 then
          .error (.protocol, .settingsError)
        else
          match http3SettingsSet parsed identifier value with
          | .ok parsed => settingsParseFrom parsed c₂
          | .error .limit => .error (.limit, .excessiveLoad)
          | .error .state => .error (.protocol, .settingsError)
          | .error status => .error (status, .settingsError)
termination_by c.length
decreasing_by
  all_goals exact (quicVarintDecode_length_lt _hvalue).trans (quicVarintDecode_length_lt _hid)

/-- Validate a complete SETTINGS payload. -/
def http3SettingsParse (payload : List UInt8) : Except Reply Http3Settings :=
  settingsParseFrom [] payload

/-! ## The control machine -/

/-- The most SETTINGS payload the control machine reassembles
(`WT_HTTP3_CONTROL_SETTINGS_MAX`). -/
def http3ControlSettingsMax : ℕ := 512

/-- The state of the peer's control stream. The bytes held of a SETTINGS payload never
exceed the buffer they are copied into. -/
structure ControlStream where
  opened : Bool
  settingsReceived : Bool
  closed : Bool
  settingsPayload : List UInt8
  settingsFailed : Bool
  fits : settingsPayload.length ≤ http3ControlSettingsMax

/-- A control stream nobody has opened. -/
def http3ControlInit : ControlStream := ⟨false, false, false, [], false, Nat.zero_le _⟩

/-- The peer opened a control stream. -/
def http3ControlPeerOpened (control : ControlStream) : ControlStream × Reply :=
  if control.opened then (control, .protocol, .streamCreationError)
  else ({ control with opened := true }, Reply.good)

/-- The header of a frame arrived on the control stream. -/
def http3ControlOnFrame (control : ControlStream) (type : ℕ) : ControlStream × Reply :=
  if !control.opened || control.closed then (control, .state, .noError)
  else if !control.settingsReceived then
    if type = http3FrameSettings then
      ({ control with
          settingsReceived := true, settingsPayload := [], settingsFailed := false,
          fits := Nat.zero_le _ }, Reply.good)
    else (control, .protocol, .missingSettings)
  else if http3FrameTypeIsReserved type then (control, .protocol, .frameUnexpected)
  else if type = http3FrameSettings then (control, .protocol, .frameUnexpected)
  else if type = http3FrameData ∨ type = http3FrameHeaders ∨ type = http3FramePushPromise then
    (control, .protocol, .frameUnexpected)
  else (control, Reply.good)

/-- A piece of a frame's payload arrived on the control stream. -/
def http3ControlOnFramePayload (control : ControlStream) (type : ℕ) (payload : List UInt8)
    (last : Bool) : ControlStream × Reply :=
  if type ≠ http3FrameSettings then (control, Reply.good)
  else if !control.settingsReceived then (control, .state, .noError)
  else if control.settingsFailed then (control, .limit, .excessiveLoad)
  else if h : payload.length > http3ControlSettingsMax - control.settingsPayload.length then
    ({ control with settingsFailed := true, settingsPayload := [], fits := Nat.zero_le _ },
      .limit, .excessiveLoad)
  else if !last then
    ({ control with
        settingsPayload := control.settingsPayload ++ payload,
        fits := by
          have := control.fits
          rw [List.length_append]
          omega }, Reply.good)
  else
    -- The buffer is emptied on the way out, whatever the parser says.
    ({ control with settingsPayload := [], fits := Nat.zero_le _ },
      match http3SettingsParse (control.settingsPayload ++ payload) with
      | .ok _ => Reply.good
      | .error reply => reply)

/-- The peer closed its control stream. -/
def http3ControlOnClosed (control : ControlStream) : ControlStream × Reply :=
  if !control.opened || control.closed then (control, .state, .noError)
  else ({ control with closed := true }, .protocol, .closedCriticalStream)

end WebTransport
