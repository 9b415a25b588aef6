import WebTransport.Quic.Varint

/-!
# QUIC frames

The frame type, the decoder `wt_quic_frame_decode`, the walk over a packet payload and the
encoder `wt_quic_frame_encode` (`quic/frame.c`, `quic/frame_encode.c`). A view into the
packet buffer is modelled by the bytes it shows, so a pointer and its length are one list.
-/

namespace WebTransport

/-! ## Error codes -/

/-- A transport error code (`wt_quic_error_t`). -/
abbrev QuicError := ℕ

/-- `WT_QUIC_NO_ERROR`. -/
def quicNoError : QuicError := 0x00
/-- `WT_QUIC_FLOW_CONTROL_ERROR`. -/
def quicFlowControlError : QuicError := 0x03
/-- `WT_QUIC_STREAM_LIMIT_ERROR`. -/
def quicStreamLimitError : QuicError := 0x04
/-- `WT_QUIC_STREAM_STATE_ERROR`. -/
def quicStreamStateError : QuicError := 0x05
/-- `WT_QUIC_FINAL_SIZE_ERROR`. -/
def quicFinalSizeError : QuicError := 0x06
/-- `WT_QUIC_FRAME_ENCODING_ERROR`. -/
def quicFrameEncodingError : QuicError := 0x07
/-- `WT_QUIC_TRANSPORT_PARAMETER_ERROR`. -/
def quicTransportParameterError : QuicError := 0x08
/-- `WT_QUIC_CONNECTION_ID_LIMIT_ERROR`. -/
def quicConnectionIdLimitError : QuicError := 0x09
/-- `WT_QUIC_PROTOCOL_VIOLATION`. -/
def quicProtocolViolation : QuicError := 0x0a
/-- `WT_QUIC_CRYPTO_BUFFER_EXCEEDED`. -/
def quicCryptoBufferExceeded : QuicError := 0x0d
/-- `WT_QUIC_AEAD_LIMIT_REACHED`. -/
def quicAeadLimitReached : QuicError := 0x0f

/-! ## Frames -/

/-- A stream direction (`wt_quic_stream_direction_t`). -/
inductive StreamDirection
  | bidirectional
  | unidirectional
deriving DecidableEq, Repr

/-- One additional ACK range on the wire (`wt_quic_ack_range_t`). -/
structure AckRange where
  gap : ℕ
  length : ℕ
deriving DecidableEq, Repr

/-- The fields of an ACK frame; the additional ranges are kept as their wire bytes. -/
structure AckFrame where
  largest : ℕ
  delay : ℕ
  firstRange : ℕ
  ranges : List UInt8
  rangeCount : ℕ
  hasEcn : Bool := false
  ect0 : ℕ := 0
  ect1 : ℕ := 0
  ecnCe : ℕ := 0
deriving DecidableEq, Repr

/-- The fields of a STREAM frame. -/
structure StreamFrame where
  id : ℕ
  offset : ℕ
  hasOffset : Bool
  fin : Bool
  hasLength : Bool
  data : List UInt8
deriving DecidableEq, Repr

/-- The fields of a NEW_CONNECTION_ID frame. -/
structure NewConnectionIdFrame where
  sequence : ℕ
  retirePriorTo : ℕ
  connectionId : List UInt8
  statelessResetToken : List UInt8
deriving DecidableEq, Repr

/-- The fields of a CONNECTION_CLOSE frame of either form. -/
structure ConnectionCloseFrame where
  hasFrameType : Bool
  errorCode : ℕ
  frameType : ℕ
  reason : List UInt8
deriving DecidableEq, Repr

/-- A parsed frame (`wt_quic_frame_t`). -/
inductive Frame
  | padding
  | ping
  | ack (f : AckFrame)
  | resetStream (id applicationErrorCode finalSize : ℕ)
  | stopSending (id applicationErrorCode : ℕ)
  | crypto (offset : ℕ) (data : List UInt8)
  | newToken (token : List UInt8)
  | stream (f : StreamFrame)
  | maxData (maximum : ℕ)
  | maxStreamData (id maximum : ℕ)
  | maxStreams (direction : StreamDirection) (maximum : ℕ)
  | dataBlocked (maximum : ℕ)
  | streamDataBlocked (id offset : ℕ)
  | streamsBlocked (direction : StreamDirection) (maximum : ℕ)
  | newConnectionId (f : NewConnectionIdFrame)
  | retireConnectionId (sequence : ℕ)
  | pathChallenge (data : List UInt8)
  | pathResponse (data : List UInt8)
  | connectionCloseTransport (f : ConnectionCloseFrame)
  | connectionCloseApplication (f : ConnectionCloseFrame)
  | handshakeDone
  | resetStreamAt (id applicationErrorCode finalSize reliableSize : ℕ)
  | datagram (data : List UInt8)
deriving DecidableEq, Repr

/-- `WT_QUIC_MAX_CONNECTION_ID_LENGTH`. -/
def quicMaxConnectionIdLength : ℕ := 20
/-- `WT_QUIC_STATELESS_RESET_TOKEN_LENGTH`. -/
def quicStatelessResetTokenLength : ℕ := 16
/-- `WT_QUIC_PATH_CHALLENGE_LENGTH`. -/
def quicPathChallengeLength : ℕ := 8

/-! ## The decoder -/

/-- A refused parse: the status, and the transport error code when the decoder sets one. -/
structure FrameError where
  status : Status
  error : Option QuicError
deriving DecidableEq, Repr

/-- The bytes ran out. -/
def frameTruncated : FrameError := ⟨.truncated, none⟩

/-- A malformed frame, with the code to close with (`wt_quic_decode_fail`). -/
def quicDecodeFail (code : QuicError) : FrameError := ⟨.protocol, some code⟩

/-- Read an integer, turning the cursor's failure into the codec's (`wt_quic_read_varint`). -/
def quicReadVarint (c : List UInt8) : Except FrameError (ℕ × List UInt8) :=
  match quicVarintDecode c with
  | .ok r => .ok r
  | .error _ => .error frameTruncated

/-- Take exactly `length` bytes (`wt_quic_take`, `wt_cursor_bytes`). -/
def quicTake (c : List UInt8) (length : ℕ) : Except FrameError (List UInt8 × List UInt8) :=
  if c.length < length then .error frameTruncated else .ok (c.take length, c.drop length)

/-- How many bytes `rangeCount` ranges occupy at the front of `rest`. -/
def ackRangesConsumed : ℕ → List UInt8 → Except FrameError ℕ
  | 0, _ => .ok 0
  | n + 1, rest => do
    let (_, r1) ← quicReadVarint rest
    let (_, r2) ← quicReadVarint r1
    let consumed ← ackRangesConsumed n r2
    .ok (rest.length - r2.length + consumed)

/-- The body of an ACK frame, after its type. -/
def decodeAck (ecn : Bool) (c : List UInt8) : Except FrameError (Frame × List UInt8) := do
  let (largest, c) ← quicReadVarint c
  let (delay, c) ← quicReadVarint c
  let (rangeCount, c) ← quicReadVarint c
  let (firstRange, c) ← quicReadVarint c
  let consumed ← ackRangesConsumed rangeCount c
  let frame : AckFrame :=
    { largest := largest, delay := delay, firstRange := firstRange,
      ranges := c.take consumed, rangeCount := rangeCount }
  let c := c.drop consumed
  if ecn then
    let (ect0, c) ← quicReadVarint c
    let (ect1, c) ← quicReadVarint c
    let (ecnCe, c) ← quicReadVarint c
    .ok (.ack { frame with hasEcn := true, ect0 := ect0, ect1 := ect1, ecnCe := ecnCe }, c)
  else .ok (.ack frame, c)

/-- The body of a STREAM frame, whose type carries the flags OFF, LEN and FIN. -/
def decodeStream (type : ℕ) (c : List UInt8) : Except FrameError (Frame × List UInt8) := do
  let hasOffset : Bool := type &&& 0x04 ≠ 0
  let hasLength : Bool := type &&& 0x02 ≠ 0
  let fin : Bool := type &&& 0x01 ≠ 0
  let (id, c) ← quicReadVarint c
  let (offset, c) ← if hasOffset then quicReadVarint c else .ok (0, c)
  let (data, c) ←
    if hasLength then do
      let (length, c) ← quicReadVarint c
      quicTake c length
    -- Without a length the data runs to the end of the packet.
    else .ok (c, [])
  .ok (.stream ⟨id, offset, hasOffset, fin, hasLength, data⟩, c)

/-- The body of a frame that carries a stream count, which may not exceed `2 ^ 60`. -/
def decodeStreamCount (mk : ℕ → Frame) (c : List UInt8) :
    Except FrameError (Frame × List UInt8) := do
  let (maximum, c) ← quicReadVarint c
  if 2 ^ 60 < maximum then .error (quicDecodeFail quicFrameEncodingError)
  else .ok (mk maximum, c)

/-- The body of a NEW_CONNECTION_ID frame. -/
def decodeNewConnectionId (c : List UInt8) : Except FrameError (Frame × List UInt8) := do
  let (sequence, c) ← quicReadVarint c
  let (retirePriorTo, c) ← quicReadVarint c
  let (at1, c) ← quicTake c 1
  let length := (at1.headD 0).toNat
  if length < 1 ∨ quicMaxConnectionIdLength < length then
    .error (quicDecodeFail quicFrameEncodingError)
  else do
    let (connectionId, c) ← quicTake c length
    let (token, c) ← quicTake c quicStatelessResetTokenLength
    if sequence < retirePriorTo then .error (quicDecodeFail quicFrameEncodingError)
    else .ok (.newConnectionId ⟨sequence, retirePriorTo, connectionId, token⟩, c)

/-- The body of a CONNECTION_CLOSE frame of the transport form. -/
def decodeCloseTransport (c : List UInt8) : Except FrameError (Frame × List UInt8) := do
  let (errorCode, c) ← quicReadVarint c
  let (frameType, c) ← quicReadVarint c
  let (reasonLength, c) ← quicReadVarint c
  let (reason, c) ← quicTake c reasonLength
  .ok (.connectionCloseTransport ⟨true, errorCode, frameType, reason⟩, c)

/-- The body of a CONNECTION_CLOSE frame of the application form. -/
def decodeCloseApplication (c : List UInt8) : Except FrameError (Frame × List UInt8) := do
  let (errorCode, c) ← quicReadVarint c
  let (reasonLength, c) ← quicReadVarint c
  let (reason, c) ← quicTake c reasonLength
  .ok (.connectionCloseApplication ⟨false, errorCode, 0, reason⟩, c)

/-- The body of a frame, by its type. -/
def decodeBody (type : ℕ) (c : List UInt8) : Except FrameError (Frame × List UInt8) :=
  match type with
  | 0x00 => .ok (.padding, c)
  | 0x01 => .ok (.ping, c)
  | 0x02 => decodeAck false c
  | 0x03 => decodeAck true c
  | 0x04 => do
    let (id, c) ← quicReadVarint c
    let (code, c) ← quicReadVarint c
    let (finalSize, c) ← quicReadVarint c
    .ok (.resetStream id code finalSize, c)
  | 0x24 => do
    let (id, c) ← quicReadVarint c
    let (code, c) ← quicReadVarint c
    let (finalSize, c) ← quicReadVarint c
    let (reliableSize, c) ← quicReadVarint c
    if finalSize < reliableSize then .error (quicDecodeFail quicFrameEncodingError)
    else .ok (.resetStreamAt id code finalSize reliableSize, c)
  | 0x05 => do
    let (id, c) ← quicReadVarint c
    let (code, c) ← quicReadVarint c
    .ok (.stopSending id code, c)
  | 0x06 => do
    let (offset, c) ← quicReadVarint c
    let (length, c) ← quicReadVarint c
    let (data, c) ← quicTake c length
    .ok (.crypto offset data, c)
  | 0x07 => do
    let (length, c) ← quicReadVarint c
    if length = 0 then .error (quicDecodeFail quicFrameEncodingError)
    else do
      let (token, c) ← quicTake c length
      .ok (.newToken token, c)
  | 0x10 => do
    let (maximum, c) ← quicReadVarint c
    .ok (.maxData maximum, c)
  | 0x11 => do
    let (id, c) ← quicReadVarint c
    let (maximum, c) ← quicReadVarint c
    .ok (.maxStreamData id maximum, c)
  | 0x12 => decodeStreamCount (.maxStreams .bidirectional) c
  | 0x13 => decodeStreamCount (.maxStreams .unidirectional) c
  | 0x14 => do
    let (maximum, c) ← quicReadVarint c
    .ok (.dataBlocked maximum, c)
  | 0x15 => do
    let (id, c) ← quicReadVarint c
    let (offset, c) ← quicReadVarint c
    .ok (.streamDataBlocked id offset, c)
  | 0x16 => decodeStreamCount (.streamsBlocked .bidirectional) c
  | 0x17 => decodeStreamCount (.streamsBlocked .unidirectional) c
  | 0x18 => decodeNewConnectionId c
  | 0x19 => do
    let (sequence, c) ← quicReadVarint c
    .ok (.retireConnectionId sequence, c)
  | 0x1a => do
    let (data, c) ← quicTake c quicPathChallengeLength
    .ok (.pathChallenge data, c)
  | 0x1b => do
    let (data, c) ← quicTake c quicPathChallengeLength
    .ok (.pathResponse data, c)
  | 0x1c => decodeCloseTransport c
  | 0x1d => decodeCloseApplication c
  | 0x1e => .ok (.handshakeDone, c)
  -- Without a length the datagram runs to the end of the packet.
  | 0x30 => .ok (.datagram c, [])
  | 0x31 => do
    let (length, c) ← quicReadVarint c
    let (data, c) ← quicTake c length
    .ok (.datagram data, c)
  | type =>
    if 0x08 ≤ type ∧ type ≤ 0x0f then decodeStream type c
    else .error (quicDecodeFail quicFrameEncodingError)

/-- Parse one frame: the frame and the bytes after it. -/
def quicFrameDecode (c : List UInt8) : Except FrameError (Frame × List UInt8) :=
  match quicVarintDecodeSized c with
  | .error _ => .error frameTruncated
  | .ok (type, size, c) =>
    if quicVarintIsMinimal type size then decodeBody type c
    else .error (quicDecodeFail quicProtocolViolation)

/-! ## The encoder -/

/-- The ranges of an ACK frame, walked from the first byte to the range at `index`. -/
def ackRangeWalk : ℕ → List UInt8 → Except Status AckRange
  | 0, c => do
    let (gap, c) ← quicVarintDecode c
    let (length, _) ← quicVarintDecode c
    .ok ⟨gap, length⟩
  | n + 1, c => do
    let (_, c) ← quicVarintDecode c
    let (_, c) ← quicVarintDecode c
    ackRangeWalk n c

/-- The range at `index` (`wt_quic_frame_ack_range_at`). -/
def quicFrameAckRangeAt (f : AckFrame) (index : ℕ) : Except Status AckRange :=
  if f.rangeCount ≤ index then .error .invalidArgument
  else
    match ackRangeWalk index f.ranges with
    | .ok r => .ok r
    | .error _ => .error .truncated

/-- The loop of the encoder that writes `n` ranges from index `i` on. -/
def encodeAckRanges (f : AckFrame) : ℕ → ℕ → Writer → Except Status Writer
  | 0, _, w => .ok w
  | n + 1, i, w =>
    match quicFrameAckRangeAt f i with
    | .error _ => .error .invalidArgument
    | .ok range =>
      encodeAckRanges f n (i + 1) (quicWriterVarint (quicWriterVarint w range.gap) range.length)

/-- The status of a finished encoding: the writer, unless it overflowed. -/
def writerResult (w : Writer) : Except Status Writer :=
  if w.ok then .ok w else .error .limit

/-- Write the integers of `values` one after another. -/
def quicWriterVarints (w : Writer) (values : List ℕ) : Writer := values.foldl quicWriterVarint w

/-- The ACK case of the encoder. -/
def encodeAck (w : Writer) (f : AckFrame) : Except Status Writer := do
  let w := quicWriterVarints w
    [if f.hasEcn then 0x03 else 0x02, f.largest, f.delay, f.rangeCount, f.firstRange]
  let w ← encodeAckRanges f f.rangeCount 0 w
  writerResult (if f.hasEcn then quicWriterVarints w [f.ect0, f.ect1, f.ecnCe] else w)

/-- The STREAM case of the encoder. -/
def encodeStream (w : Writer) (f : StreamFrame) : Except Status Writer :=
  let flags := (if f.hasOffset then 0x04 else 0) ||| (if f.hasLength then 0x02 else 0) |||
    (if f.fin then 0x01 else 0)
  let w := quicWriterVarints w [0x08 ||| flags, f.id]
  let w := if f.hasOffset then quicWriterVarint w f.offset else w
  let w := if f.hasLength then quicWriterVarint w f.data.length else w
  writerResult (w.put f.data)

/-- The NEW_CONNECTION_ID case of the encoder. -/
def encodeNewConnectionId (w : Writer) (f : NewConnectionIdFrame) : Except Status Writer :=
  if f.connectionId.length < 1 ∨ quicMaxConnectionIdLength < f.connectionId.length then
    .error .invalidArgument
  else if f.sequence < f.retirePriorTo then .error .invalidArgument
  else
    let w := quicWriterVarints w [0x18, f.sequence, f.retirePriorTo]
    let w := (w.put [UInt8.ofNat f.connectionId.length]).put f.connectionId
    writerResult (w.put (f.statelessResetToken.take quicStatelessResetTokenLength))

/-- The CONNECTION_CLOSE case of the encoder, for the transport form or the application form. -/
def encodeConnectionClose (w : Writer) (transport : Bool) (f : ConnectionCloseFrame) :
    Except Status Writer :=
  let w := quicWriterVarints w [if transport then 0x1c else 0x1d, f.errorCode]
  if f.hasFrameType && !transport then .error .invalidArgument
  else
    let w := if f.hasFrameType then quicWriterVarint w f.frameType
      else if transport then quicWriterVarint w 0 else w
    writerResult ((quicWriterVarint w f.reason.length).put f.reason)

/-- Encode a frame: the writer with the frame appended, or the status of the refusal. -/
def quicFrameEncode (w : Writer) (frame : Frame) : Except Status Writer :=
  if w.overflow then .error .limit
  else
    match frame with
    | .padding => .ok (quicWriterVarint w 0x00)
    | .ping => .ok (quicWriterVarint w 0x01)
    | .ack f => encodeAck w f
    | .crypto offset data =>
      writerResult ((quicWriterVarints w [0x06, offset, data.length]).put data)
    | .newToken token =>
      if token.length = 0 then .error .invalidArgument
      else writerResult ((quicWriterVarints w [0x07, token.length]).put token)
    | .stream f => encodeStream w f
    | .resetStream id code finalSize =>
      writerResult (quicWriterVarints w [0x04, id, code, finalSize])
    | .resetStreamAt id code finalSize reliableSize =>
      if finalSize < reliableSize then .error .invalidArgument
      else writerResult (quicWriterVarints w [0x24, id, code, finalSize, reliableSize])
    | .stopSending id code => writerResult (quicWriterVarints w [0x05, id, code])
    | .maxData maximum => writerResult (quicWriterVarints w [0x10, maximum])
    | .maxStreamData id maximum => writerResult (quicWriterVarints w [0x11, id, maximum])
    | .maxStreams direction maximum =>
      writerResult (quicWriterVarints w
        [if direction = .bidirectional then 0x12 else 0x13, maximum])
    | .dataBlocked maximum => writerResult (quicWriterVarints w [0x14, maximum])
    | .streamDataBlocked id offset => writerResult (quicWriterVarints w [0x15, id, offset])
    | .streamsBlocked direction maximum =>
      writerResult (quicWriterVarints w
        [if direction = .bidirectional then 0x16 else 0x17, maximum])
    | .newConnectionId f => encodeNewConnectionId w f
    | .retireConnectionId sequence => writerResult (quicWriterVarints w [0x19, sequence])
    | .pathChallenge data =>
      writerResult ((quicWriterVarint w 0x1a).put (data.take quicPathChallengeLength))
    | .pathResponse data =>
      writerResult ((quicWriterVarint w 0x1b).put (data.take quicPathChallengeLength))
    | .connectionCloseTransport f => encodeConnectionClose w true f
    | .connectionCloseApplication f => encodeConnectionClose w false f
    | .handshakeDone => .ok (quicWriterVarint w 0x1e)
    | .datagram data =>
      writerResult ((quicWriterVarints w [0x31, data.length]).put data)

/-! ## Runs of integers -/

/-- The wire form of a run of integers. -/
def varintsBytes (values : List ℕ) : List UInt8 := values.flatMap quicVarintBytes

@[simp] theorem varintsBytes_nil : varintsBytes [] = [] := rfl

@[simp] theorem varintsBytes_cons (v : ℕ) (vs : List ℕ) :
    varintsBytes (v :: vs) = quicVarintBytes v ++ varintsBytes vs := rfl

@[simp] theorem varintsBytes_append (vs ws : List ℕ) :
    varintsBytes (vs ++ ws) = varintsBytes vs ++ varintsBytes ws := by
  simp [varintsBytes]

/-- Reading back an encoded integer in the frame decoder. -/
@[simp] theorem quicReadVarint_bytes {v : ℕ} (hv : v ≤ quicVarintMax) (rest : List UInt8) :
    quicReadVarint (quicVarintBytes v ++ rest) = .ok (v, rest) := by
  simp [quicReadVarint, hv]

@[simp] theorem quicWriterVarints_nil (w : Writer) : quicWriterVarints w [] = w := rfl

@[simp] theorem quicWriterVarints_cons (w : Writer) (v : ℕ) (vs : List ℕ) :
    quicWriterVarints w (v :: vs) = quicWriterVarints (quicWriterVarint w v) vs := rfl

/-- Writing one run after another writes both. -/
theorem quicWriterVarints_append (w : Writer) (vs ws : List ℕ) :
    quicWriterVarints w (vs ++ ws) = quicWriterVarints (quicWriterVarints w vs) ws := by
  simp [quicWriterVarints]

/-- What an accepted run of integers leaves behind: every value fits, and its bytes follow. -/
theorem quicWriterVarints_ok {w : Writer} {vs : List ℕ}
    (h : (quicWriterVarints w vs).ok = true) :
    w.ok = true ∧ (∀ v ∈ vs, v ≤ quicVarintMax) ∧
      (quicWriterVarints w vs).bytes = w.bytes ++ varintsBytes vs := by
  induction vs generalizing w with
  | nil => simpa using h
  | cons v vs ih =>
    rw [quicWriterVarints_cons] at h
    obtain ⟨hw, hle, hbytes⟩ := ih h
    obtain ⟨hw', hv, hbytes'⟩ := quicWriterVarint_ok hw
    refine ⟨hw', by simpa using ⟨hv, hle⟩, ?_⟩
    rw [quicWriterVarints_cons, hbytes, hbytes', varintsBytes_cons, List.append_assoc]

/-! ## What an encoding begins with -/

/-- One writer goes on from another: what the first wrote is still there, unless a write was
refused. -/
def Writer.Extends (w w' : Writer) : Prop := w'.ok = true → w.ok = true ∧ w.bytes <+: w'.bytes

namespace Writer.Extends

variable {w w' w'' : Writer}

lemma refl (w : Writer) : w.Extends w := fun h => ⟨h, List.prefix_rfl⟩

lemma trans (h : w.Extends w') (h' : w'.Extends w'') : w.Extends w'' := by
  intro hok
  obtain ⟨hok', hstarts'⟩ := h' hok
  obtain ⟨hok'', hstarts⟩ := h hok'
  exact ⟨hok'', hstarts.trans hstarts'⟩

lemma put (w : Writer) (data : List UInt8) : w.Extends (w.put data) := by
  intro hok
  obtain ⟨hw, hbytes⟩ := Writer.put_ok hok
  exact ⟨hw, ⟨data, hbytes.symm⟩⟩

lemma varint (w : Writer) (v : ℕ) : w.Extends (quicWriterVarint w v) := by
  intro hok
  obtain ⟨hw, -, hbytes⟩ := quicWriterVarint_ok hok
  exact ⟨hw, ⟨_, hbytes.symm⟩⟩

lemma varints (w : Writer) (vs : List ℕ) : w.Extends (quicWriterVarints w vs) := by
  intro hok
  obtain ⟨hw, -, hbytes⟩ := quicWriterVarints_ok hok
  exact ⟨hw, ⟨_, hbytes.symm⟩⟩

/-- A write that is made under a condition only. -/
lemma ite {p : Prop} [Decidable p] {w₁ w₂ : Writer} (h₁ : w.Extends w₁) (h₂ : w.Extends w₂) :
    w.Extends (if p then w₁ else w₂) := by
  split
  · exact h₁
  · exact h₂

end Writer.Extends

/-- The type a frame is encoded with. -/
def encodedType : Frame → ℕ
  | .padding => 0x00
  | .ping => 0x01
  | .ack f => if f.hasEcn then 0x03 else 0x02
  | .crypto .. => 0x06
  | .newToken _ => 0x07
  | .stream f => 0x08 ||| ((if f.hasOffset then 0x04 else 0) ||| (if f.hasLength then 0x02 else 0) |||
    (if f.fin then 0x01 else 0))
  | .resetStream .. => 0x04
  | .resetStreamAt .. => 0x24
  | .stopSending .. => 0x05
  | .maxData _ => 0x10
  | .maxStreamData .. => 0x11
  | .maxStreams direction _ => if direction = .bidirectional then 0x12 else 0x13
  | .dataBlocked _ => 0x14
  | .streamDataBlocked .. => 0x15
  | .streamsBlocked direction _ => if direction = .bidirectional then 0x16 else 0x17
  | .newConnectionId _ => 0x18
  | .retireConnectionId _ => 0x19
  | .pathChallenge _ => 0x1a
  | .pathResponse _ => 0x1b
  | .connectionCloseTransport _ => 0x1c
  | .connectionCloseApplication _ => 0x1d
  | .handshakeDone => 0x1e
  | .datagram _ => 0x31

/-- A finished encoding is the writer that was finished. -/
lemma writerResult_ok {w w' : Writer} (h : writerResult w = .ok w') : w' = w := by
  unfold writerResult at h
  split at h
  · cases h
    rfl
  · cases h

/-- The ranges of an ACK frame go on from what was written. -/
lemma encodeAckRanges_extends {f : AckFrame} {n i : ℕ} {w w' : Writer}
    (h : encodeAckRanges f n i w = .ok w') : w.Extends w' := by
  induction n generalizing i w with
  | zero =>
    cases h
    exact .refl _
  | succ n ih =>
    rw [encodeAckRanges] at h
    split at h
    · cases h
    · exact ((Writer.Extends.varint w _).trans (.varint _ _)).trans (ih h)

/-- A CONNECTION_CLOSE begins with the type of its form. -/
lemma encodeConnectionClose_extends {transport : Bool} {f : ConnectionCloseFrame} {w w' : Writer}
    (h : encodeConnectionClose w transport f = .ok w') :
    (quicWriterVarint w (if transport then 0x1c else 0x1d)).Extends w' := by
  simp only [encodeConnectionClose] at h
  split at h
  · cases h
  cases writerResult_ok h
  have hhead : (quicWriterVarint w (if transport then 0x1c else 0x1d)).Extends
      (quicWriterVarints w [if transport then 0x1c else 0x1d, f.errorCode]) :=
    .varints (quicWriterVarint w _) [f.errorCode]
  exact ((hhead.trans (.ite (.varint _ _) (.ite (.varint _ _) (.refl _)))).trans
    (.varint _ _)).trans (.put _ _)

/-- An encoding begins with the type of the frame. -/
theorem quicFrameEncode_extends {frame : Frame} {w w' : Writer}
    (h : quicFrameEncode w frame = .ok w') :
    (quicWriterVarint w (encodedType frame)).Extends w' := by
  have hrun : ∀ type rest, (quicWriterVarint w type).Extends (quicWriterVarints w (type :: rest)) :=
    fun type rest => .varints (quicWriterVarint w type) rest
  unfold quicFrameEncode at h
  split at h
  · cases h
  cases frame with
  | padding | ping | handshakeDone =>
    cases h
    exact .refl _
  | resetStream | stopSending | maxData | maxStreamData | dataBlocked | streamDataBlocked
  | retireConnectionId =>
    cases writerResult_ok h
    exact hrun _ _
  | maxStreams direction | streamsBlocked direction =>
    cases writerResult_ok h
    exact hrun _ _
  | crypto offset data | datagram data =>
    cases writerResult_ok h
    exact (hrun _ _).trans (.put _ _)
  | pathChallenge data | pathResponse data =>
    cases writerResult_ok h
    exact .put _ _
  | newToken token =>
    simp only at h
    split at h
    · cases h
    · cases writerResult_ok h
      exact (hrun _ _).trans (.put _ _)
  | resetStreamAt id code finalSize reliableSize =>
    simp only at h
    split at h
    · cases h
    · cases writerResult_ok h
      exact hrun _ _
  | ack f =>
    simp only [encodeAck] at h
    cases hranges : encodeAckRanges f f.rangeCount 0 (quicWriterVarints w
        [if f.hasEcn then 0x03 else 0x02, f.largest, f.delay, f.rangeCount, f.firstRange]) with
    | error status =>
      rw [hranges] at h
      cases h
    | ok w₁ =>
      rw [hranges] at h
      cases writerResult_ok h
      exact ((hrun _ _).trans (encodeAckRanges_extends hranges)).trans (.ite (.varints _ _) (.refl _))
  | stream f =>
    simp only [encodeStream] at h
    cases writerResult_ok h
    have hhead := hrun (encodedType (.stream f)) [f.id]
    exact ((hhead.trans (.ite (.varint _ _) (.refl _))).trans (.ite (.varint _ _) (.refl _))).trans
      (.put _ _)
  | newConnectionId f =>
    simp only [encodeNewConnectionId] at h
    split at h
    · cases h
    split at h
    · cases h
    cases writerResult_ok h
    exact (((hrun _ _).trans (.put _ _)).trans (.put _ _)).trans (.put _ _)
  | connectionCloseTransport f | connectionCloseApplication f =>
    exact encodeConnectionClose_extends h

/-- An accepted encoding in an empty writer begins with the type of the frame. -/
lemma encodedType_starts {frame : Frame} {cap : ℕ} {w : Writer}
    (h : quicFrameEncode (writerInit cap) frame = .ok w) (hok : w.ok = true) :
    quicVarintBytes (encodedType frame) <+: w.bytes := by
  obtain ⟨hhead, hstarts⟩ := quicFrameEncode_extends h hok
  obtain ⟨-, -, hbytes⟩ := quicWriterVarint_ok hhead
  rw [hbytes] at hstarts
  exact hstarts

/-- Integers that begin the same bytes are the same. -/
lemma eq_of_varint_starts {v v' : ℕ} {bytes : List UInt8} (hv : v ≤ quicVarintMax)
    (hv' : v' ≤ quicVarintMax) (h : quicVarintBytes v <+: bytes) (h' : quicVarintBytes v' <+: bytes) :
    v = v' := by
  obtain ⟨rest, rfl⟩ := h
  obtain ⟨rest', heq⟩ := h'
  have hread := quicReadVarint_bytes hv rest
  rw [← heq, quicReadVarint_bytes hv' rest'] at hread
  cases hread
  rfl

/-- Every type fits the shortest integers. -/
lemma encodedType_le (frame : Frame) : encodedType frame ≤ quicVarintMax := by
  have h : encodedType frame ≤ 0x31 := by
    cases frame with
    | stream f =>
      simp only [encodedType]
      cases f.hasOffset <;> cases f.hasLength <;> cases f.fin <;> decide
    | ack f =>
      simp only [encodedType]
      split <;> decide
    | maxStreams direction | streamsBlocked direction =>
      simp only [encodedType]
      split <;> decide
    | _ => simp [encodedType]
  exact h.trans (by decide)

lemma eq_maxData_of_encodedType {frame : Frame} (h : encodedType frame = 0x10) :
    ∃ maximum, frame = .maxData maximum := by
  cases frame with
  | maxData maximum => exact ⟨maximum, rfl⟩
  | stream f =>
    refine absurd h ?_
    simp only [encodedType]
    cases f.hasOffset <;> cases f.hasLength <;> cases f.fin <;> decide
  | ack f =>
    simp only [encodedType] at h
    split at h <;> cases h
  | maxStreams direction | streamsBlocked direction =>
    simp only [encodedType] at h
    split at h <;> cases h
  | _ => cases h

/-! ## What the decoder lets through -/

/-- A count of streams a frame carries is one the decoder lets through. -/
def Frame.CountChecked : Frame → Prop
  | .maxStreams _ maximum => maximum ≤ 2 ^ 60
  | _ => True

/-- Every frame a parser returns has a property. -/
def Yields (P : Frame → Prop) (parsed : Except FrameError (Frame × List UInt8)) : Prop :=
  ∀ r, parsed = .ok r → P r.1

lemma Yields.ok {P : Frame → Prop} {frame : Frame} {rest : List UInt8} (h : P frame) :
    Yields P (.ok (frame, rest)) := by
  intro r hr
  cases hr
  exact h

lemma Yields.error {P : Frame → Prop} {e : FrameError} : Yields P (.error e) := by
  intro r hr
  cases hr

lemma Yields.bind {P : Frame → Prop} {α : Type} {x : Except FrameError α}
    {f : α → Except FrameError (Frame × List UInt8)} (h : ∀ a, Yields P (f a)) :
    Yields P (x >>= f) := by
  intro r hr
  cases x with
  | error e => cases hr
  | ok a => exact h a r hr

lemma decodeStreamCount_yields {mk : ℕ → Frame} (h : ∀ n ≤ 2 ^ 60, (mk n).CountChecked)
    (c : List UInt8) : Yields Frame.CountChecked (decodeStreamCount mk c) := by
  refine .bind fun ⟨maximum, c⟩ => ?_
  simp only
  split
  · exact .error
  · rename_i hle
    exact .ok (h _ (not_lt.mp hle))

lemma decodeNewConnectionId_yields (c : List UInt8) :
    Yields Frame.CountChecked (decodeNewConnectionId c) := by
  refine .bind fun sequence => .bind fun retirePriorTo => .bind fun length => ?_
  simp only
  split
  · exact .error
  refine .bind fun connectionId => .bind fun token => ?_
  split
  · exact .error
  · exact .ok trivial

lemma decodeAck_yields (ecn : Bool) (c : List UInt8) :
    Yields Frame.CountChecked (decodeAck ecn c) := by
  refine .bind fun largest => .bind fun delay => .bind fun rangeCount => .bind fun firstRange =>
    .bind fun consumed => ?_
  simp only
  split
  · exact .bind fun ect0 => .bind fun ect1 => .bind fun ecnCe => .ok trivial
  · exact .ok trivial

lemma decodeStream_yields (type : ℕ) (c : List UInt8) :
    Yields Frame.CountChecked (decodeStream type c) := by
  refine .bind fun id => ?_
  simp only
  -- The two optional fields are branches, and every path ends in a STREAM frame.
  repeat' first
    | exact Yields.ok trivial
    | refine Yields.bind fun r => ?_
    | split

/-- Every body the decoder parses carries a checked count. -/
lemma decodeBody_yields (type : ℕ) (c : List UInt8) :
    Yields Frame.CountChecked (decodeBody type c) := by
  unfold decodeBody
  split
  case h_3 | h_4 => exact decodeAck_yields _ _
  case h_12 | h_13 =>
    refine decodeStreamCount_yields ?_ c
    exact fun n hn => hn
  case h_16 | h_17 =>
    refine decodeStreamCount_yields ?_ c
    exact fun n hn => trivial
  case h_18 => exact decodeNewConnectionId_yields c
  all_goals
    repeat' first
      | exact Yields.error
      | exact Yields.ok trivial
      | exact decodeStream_yields _ _
      | (refine Yields.bind fun r => ?_)
      | (split)

/-- A decoded frame carries a count of streams that is at most `2 ^ 60`. -/
theorem quicFrameDecode_countChecked {bytes rest : List UInt8} {frame : Frame}
    (h : quicFrameDecode bytes = .ok (frame, rest)) : frame.CountChecked := by
  unfold quicFrameDecode at h
  split at h
  · cases h
  split at h
  · exact decodeBody_yields _ _ _ h
  · cases h

end WebTransport
