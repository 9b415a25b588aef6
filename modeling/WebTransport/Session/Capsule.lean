import WebTransport.Http3.Control

/-!
# Capsules

The control messages of a WebTransport session (`webtransport/capsule.c`): a type, a length and a
value, carried on the CONNECT stream. The capsules that end a session and the ones that grant flow
control are read here, and the limits a peer has granted are kept.
-/

namespace WebTransport

/-- The number an HTTP/3 error is registered under (`wt_http3_error_t`). -/
def Http3Error.code : Http3Error → ℕ
  | .noError => 0x0100
  | .streamCreationError => 0x0103
  | .closedCriticalStream => 0x0104
  | .frameUnexpected => 0x0105
  | .frameError => 0x0106
  | .excessiveLoad => 0x0107
  | .idError => 0x0108
  | .settingsError => 0x0109
  | .missingSettings => 0x010a
  | .requestIncomplete => 0x010d
  | .messageError => 0x010e
  | .qpackDecompressionFailed => 0x0200
  | .qpackEncoderStreamError => 0x0201
  | .qpackDecoderStreamError => 0x0202

/-- The draft's registered code for a limit that goes backwards or too far
(`WT_WEBTRANSPORT_FLOW_CONTROL_ERROR`). -/
def webtransportFlowControlError : ℕ := 0x045d4487

/-- What a call of the capsule layer answers: its status and the number in the error slot, which
holds HTTP/3's codes and the draft's own. -/
abbrev CapsuleReply := Status × ℕ

/-- The answer of a capsule call with nothing to object to. -/
def CapsuleReply.good : CapsuleReply := (.ok, Http3Error.noError.code)

/-- A capsule whose bytes break a rule. -/
def CapsuleReply.malformed : CapsuleReply := (.protocol, Http3Error.messageError.code)

/-- A capsule that has not fully arrived. -/
def CapsuleReply.short : CapsuleReply := (.truncated, Http3Error.noError.code)

/-! ## Capsule types -/

def capsuleDrainSession : ℕ := 0x78ae
def capsuleCloseWebtransportSession : ℕ := 0x2843
def capsuleMaxData : ℕ := 0x190b4d3d
def capsuleMaxStreamData : ℕ := 0x190b4d3e
def capsuleMaxStreamsBidi : ℕ := 0x190b4d3f
def capsuleMaxStreamsUni : ℕ := 0x190b4d40
def capsuleStreamDataBlocked : ℕ := 0x190b4d42
def capsuleStreamsBlockedBidi : ℕ := 0x190b4d43
def capsuleStreamsBlockedUni : ℕ := 0x190b4d44

/-- The longest close reason (`WT_CAPSULE_CLOSE_MAX_REASON`). -/
def capsuleCloseMaxReason : ℕ := 1024

/-- One capsule (`wt_webtransport_capsule_t`). -/
structure Capsule where
  type : ℕ
  value : List UInt8
deriving DecidableEq, Repr

/-- Read one capsule: the capsule and the bytes after it. -/
def webtransportCapsuleDecode (maxLength : ℕ) (c : List UInt8) :
    Except CapsuleReply (Capsule × List UInt8) :=
  match quicVarintDecode c with
  | .error _ => .error CapsuleReply.short
  | .ok (type, c₁) =>
    match quicVarintDecode c₁ with
    | .error _ => .error CapsuleReply.short
    | .ok (length, c₂) =>
      if maxLength < length then .error (.limit, Http3Error.excessiveLoad.code)
      else if c₂.length < length then .error CapsuleReply.short
      else .ok (⟨type, c₂.take length⟩, c₂.drop length)

/-! ## The capsules that end a session -/

/-- How many bytes follow a lead byte and the bits it carries itself; no sequence begins with the
other bytes. -/
def utf8Lead (lead : UInt8) : Option (ℕ × ℕ) :=
  if lead &&& 0xe0 = 0xc0 then some (1, (lead &&& 0x1f).toNat)
  else if lead &&& 0xf0 = 0xe0 then some (2, (lead &&& 0x0f).toNat)
  else if lead &&& 0xf8 = 0xf0 then some (3, (lead &&& 0x07).toNat)
  else none

/-- The loop of `utf8_is_well_formed`. Each turn takes at least one byte, so the length of the
bytes is fuel enough. -/
def utf8Within : ℕ → List UInt8 → Bool
  | _, [] => true
  | 0, _ :: _ => true
  | fuel + 1, lead :: c =>
    if lead < 0x80 then utf8Within fuel c
    else
      match utf8Lead lead with
      | none => false
      | some (extra, bits) =>
        let value := (c.take extra).foldl (fun v b => v <<< 6 ||| (b &&& 0x3f).toNat) bits
        if c.length < extra then false
        else if (c.take extra).any fun b => b &&& 0xc0 != 0x80 then false
        -- The shortest form for the length, and the two ranges the standard excludes.
        else if extra = 1 ∧ value < 0x80 then false
        else if extra = 2 ∧ value < 0x800 then false
        else if extra = 3 ∧ value < 0x10000 then false
        else if 0xd800 ≤ value ∧ value ≤ 0xdfff then false
        else if 0x10ffff < value then false
        else utf8Within fuel (c.drop extra)

/-- Whether `bytes` is well-formed UTF-8. -/
def utf8IsWellFormed (bytes : List UInt8) : Bool := utf8Within bytes.length bytes

/-- The value of a close capsule: the error code and the reason. -/
def webtransportCloseSessionParse (capsule : Capsule) : Except CapsuleReply (ℕ × List UInt8) :=
  if capsule.type ≠ capsuleCloseWebtransportSession then
    .error (.invalidArgument, Http3Error.messageError.code)
  else if capsule.value.length < 4 then .error CapsuleReply.malformed
  else if capsule.value.length - 4 > capsuleCloseMaxReason then .error CapsuleReply.malformed
  else if !utf8IsWellFormed (capsule.value.drop 4) then .error CapsuleReply.malformed
  else .ok ((capsule.value.take 4).foldl BigEndian.push 0, capsule.value.drop 4)

/-- What a writer answers when everything was written. -/
def writerStatus (w : Writer) : Status := if w.ok then .ok else .limit

/-- Write a close capsule. -/
def webtransportCloseSessionWrite (w : Writer) (errorCode : ℕ) (reason : List UInt8) :
    Writer × Status :=
  if reason.length > capsuleCloseMaxReason then (w, .limit)
  else
    let typed := quicWriterVarint w capsuleCloseWebtransportSession
    let sized := quicWriterVarint typed (4 + reason.length)
    let coded := sized.put (BigEndian.bytes 4 errorCode)
    let written := if reason = [] then coded else coded.put reason
    (written, writerStatus written)

/-- Write a drain capsule, which has no value. -/
def webtransportDrainSessionWrite (w : Writer) : Writer × Status :=
  let written := quicWriterVarint (quicWriterVarint w capsuleDrainSession) 0
  (written, writerStatus written)

/-! ## The capsules of flow control -/

/-- One integer, exactly (`parse_one`). -/
def capsuleParseOne (capsule : Capsule) (expectedType : ℕ) : Except CapsuleReply ℕ :=
  if capsule.type ≠ expectedType then .error (.invalidArgument, Http3Error.messageError.code)
  else
    match quicVarintDecode capsule.value with
    | .error _ => .error CapsuleReply.malformed
    | .ok (value, rest) => if rest ≠ [] then .error CapsuleReply.malformed else .ok value

/-- The draft's ceiling on a stream count (`WT_WEBTRANSPORT_MAX_STREAMS_VALUE`). -/
def webtransportMaxStreamsValue : ℕ := 2 ^ 60

/-- One stream count, with the ceiling applied after the value was read
(`parse_stream_count`). -/
def capsuleParseStreamCount (capsule : Capsule) : Except CapsuleReply ℕ :=
  match capsuleParseOne capsule capsule.type with
  | .error reply => .error reply
  | .ok maximum =>
    if maximum ≤ webtransportMaxStreamsValue then .ok maximum
    else .error (.protocol, webtransportFlowControlError)

section Parse

variable {capsule : Capsule} {reply : CapsuleReply}

/-- A value that is refused is not accepted, and it is not incomplete either. -/
lemma capsuleParseOne_error {expectedType : ℕ}
    (h : capsuleParseOne capsule expectedType = .error reply) :
    reply.1 ≠ .ok ∧ reply.1 ≠ .truncated := by
  unfold capsuleParseOne at h
  split_ifs at h
  · cases h
    exact ⟨nofun, nofun⟩
  · split at h
    · cases h
      exact ⟨nofun, nofun⟩
    · split_ifs at h
      cases h
      exact ⟨nofun, nofun⟩

lemma capsuleParseStreamCount_error (h : capsuleParseStreamCount capsule = .error reply) :
    reply.1 ≠ .ok ∧ reply.1 ≠ .truncated := by
  unfold capsuleParseStreamCount at h
  cases hone : capsuleParseOne capsule capsule.type with
  | error refusal =>
    rw [hone] at h
    cases h
    exact capsuleParseOne_error hone
  | ok maximum =>
    rw [hone] at h
    dsimp only at h
    split_ifs at h
    cases h
    exact ⟨nofun, nofun⟩

/-- The status of a close that is refused. -/
lemma webtransportCloseSessionParse_error
    (h : webtransportCloseSessionParse capsule = .error reply) :
    reply.1 ≠ .ok ∧ reply.1 ≠ .truncated := by
  unfold webtransportCloseSessionParse at h
  split_ifs at h <;> cases h <;> exact ⟨nofun, nofun⟩

end Parse

def webtransportMaxDataParse (capsule : Capsule) : Except CapsuleReply ℕ :=
  capsuleParseOne capsule capsuleMaxData

def webtransportMaxStreamsParse (capsule : Capsule) : Except CapsuleReply ℕ :=
  if capsule.type = capsuleMaxStreamsBidi ∨ capsule.type = capsuleMaxStreamsUni then
    capsuleParseStreamCount capsule
  else .error (.invalidArgument, Http3Error.messageError.code)

def webtransportStreamsBlockedParse (capsule : Capsule) : Except CapsuleReply ℕ :=
  if capsule.type = capsuleStreamsBlockedBidi ∨ capsule.type = capsuleStreamsBlockedUni then
    capsuleParseStreamCount capsule
  else .error (.invalidArgument, Http3Error.messageError.code)

/-- The limits a session's peer has granted (`wt_webtransport_flow_limits_t`). -/
structure FlowLimits where
  maxData : ℕ
  maxDataSet : Bool
  maxStreamsBidi : ℕ
  maxStreamsBidiSet : Bool
  maxStreamsUni : ℕ
  maxStreamsUniSet : Bool
deriving DecidableEq, Repr

/-- No limit granted yet. -/
def webtransportFlowLimitsInit : FlowLimits where
  maxData           := 0
  maxDataSet        := false
  maxStreamsBidi    := 0
  maxStreamsBidiSet := false
  maxStreamsUni     := 0
  maxStreamsUniSet  := false

/-- The code of a limit call that was accepted is zero. -/
def webtransportFlowOnMaxData (limits : FlowLimits) (maximum : ℕ) : FlowLimits × Status × ℕ :=
  if limits.maxDataSet ∧ maximum ≤ limits.maxData then
    (limits, .protocol, webtransportFlowControlError)
  else ({ limits with maxData := maximum, maxDataSet := true }, .ok, 0)

def webtransportFlowOnMaxStreams (limits : FlowLimits) (bidirectional : Bool) (maximum : ℕ) :
    FlowLimits × Status × ℕ :=
  if maximum > webtransportMaxStreamsValue then (limits, .protocol, webtransportFlowControlError)
  else if bidirectional then
    if limits.maxStreamsBidiSet ∧ maximum ≤ limits.maxStreamsBidi then
      (limits, .protocol, webtransportFlowControlError)
    else ({ limits with maxStreamsBidi := maximum, maxStreamsBidiSet := true }, .ok, 0)
  else if limits.maxStreamsUniSet ∧ maximum ≤ limits.maxStreamsUni then
    (limits, .protocol, webtransportFlowControlError)
  else ({ limits with maxStreamsUni := maximum, maxStreamsUniSet := true }, .ok, 0)

end WebTransport
