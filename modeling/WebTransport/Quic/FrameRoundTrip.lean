import WebTransport.Quic.ConnectionDatagram

/-!
# The round trip of the frame codec

What the encoder writes for a frame is read back by the decoder, whatever bytes follow, and a run of
encoded frames is handed to the visitor one by one. What is read back is the frame as the wire
carries it: a close of the transport always has a frame type on the wire, fields that a frame does
not carry are zero, and the ranges of an ACK come back in their shortest form.
-/

namespace WebTransport

/-! ## Frames as the wire carries them -/

/-- The additional ranges of an ACK frame, read one by one as the encoder does. -/
def AckFrame.rangesFrom (f : AckFrame) (i n : ℕ) : List AckRange :=
  (List.range' i n).filterMap fun j => (quicFrameAckRangeAt f j).toOption

/-- An ACK frame as it is read back: its ranges in their shortest form, and counts of ECN marks only
when it carries them. -/
def AckFrame.onWire (f : AckFrame) : AckFrame :=
  { f with
    ranges := varintsBytes (ackRangeValues (f.rangesFrom 0 f.rangeCount))
    ect0 := if f.hasEcn then f.ect0 else 0
    ect1 := if f.hasEcn then f.ect1 else 0
    ecnCe := if f.hasEcn then f.ecnCe else 0 }

/-- A frame as it is read back. -/
def Frame.onWire : Frame → Frame
  | .ack f => .ack f.onWire
  | .connectionCloseTransport f => .connectionCloseTransport
    { f with hasFrameType := true, frameType := if f.hasFrameType then f.frameType else 0 }
  | .connectionCloseApplication f => .connectionCloseApplication { f with frameType := 0 }
  | frame => frame

/-- The arrays of fixed size have their size. -/
def Frame.Sized : Frame → Prop
  | .newConnectionId f => f.statelessResetToken.length = quicStatelessResetTokenLength
  | .pathChallenge data => data.length = quicPathChallengeLength
  | .pathResponse data => data.length = quicPathChallengeLength
  | _ => True

/-- A STREAM frame carries its offset when it is not zero. -/
def Frame.OffsetCarried : Frame → Prop
  | .stream f => f.offset ≠ 0 → f.hasOffset = true
  | _ => True

/-- A STREAM frame without a length, which runs to the end of the packet. -/
def Frame.RunsToEnd : Frame → Prop
  | .stream f => f.hasLength = false
  | _ => False

/-- A count of streams that the decoder takes. -/
def Frame.CountReadable : Frame → Prop
  | .maxStreams _ maximum => maximum ≤ 2 ^ 60
  | .streamsBlocked _ maximum => maximum ≤ 2 ^ 60
  | _ => True

/-- A frame that can be asked to come back: its arrays have their size, its offset is carried and
its count of streams is one the decoder takes. -/
structure Frame.Carried (frame : Frame) : Prop where
  sized : frame.Sized
  offset : frame.OffsetCarried
  count : frame.CountReadable

/-- A frame that its own rules forbid. -/
def Frame.Forbidden : Frame → Prop
  | .newToken token => token = []
  | .newConnectionId f => f.connectionId.length < 1 ∨
    quicMaxConnectionIdLength < f.connectionId.length ∨ f.sequence < f.retirePriorTo
  | .resetStreamAt _ _ finalSize reliableSize => finalSize < reliableSize
  | _ => False

/-! ## Reading one frame back -/

/-- The bytes a frame was encoded in are read back, whatever follows them. -/
def ReadsBack (frame : Frame) (w w' : Writer) : Prop :=
  ∃ bytes, bytes ≠ [] ∧ w'.bytes = w.bytes ++ bytes ∧
    ∀ rest, (frame.RunsToEnd → rest = []) → quicFrameDecode (bytes ++ rest) = .ok (frame.onWire, rest)

section Reading

variable {frame : Frame} {w w' : Writer} {type : ℕ}

/-- The decoder goes on with the body of a frame whose type is written shortest. -/
lemma quicFrameDecode_type (htype : type ≤ quicVarintMax) (c : List UInt8) :
    quicFrameDecode (quicVarintBytes type ++ c) = decodeBody type c := by
  unfold quicFrameDecode
  rw [quicVarintDecodeSized_bytes htype c]
  simp [quicVarintIsMinimal]

@[simp] lemma quicTake_append (data rest : List UInt8) :
    quicTake (data ++ rest) data.length = .ok (data, rest) := by
  unfold quicTake
  rw [if_neg (by simp), List.take_left, List.drop_left]

/-- It is enough that the body is read back after the type. -/
lemma readsBack_of_body (htype : type ≤ quicVarintMax) {body : List UInt8}
    (hbytes : w'.bytes = w.bytes ++ (quicVarintBytes type ++ body))
    (hbody : ∀ rest, (frame.RunsToEnd → rest = []) →
      decodeBody type (body ++ rest) = .ok (frame.onWire, rest)) : ReadsBack frame w w' := by
  refine ⟨quicVarintBytes type ++ body, ?_, hbytes, ?_⟩
  · exact fun h => quicVarintBytes_ne_nil htype (List.append_eq_nil_iff.mp h).1
  · intro rest hrest
    rw [List.append_assoc, quicFrameDecode_type htype]
    exact hbody rest hrest

lemma readsBack_varints {values : List ℕ} (h : writerResult (quicWriterVarints w (type :: values)) = .ok w')
    (hok : w'.ok = true)
    (hbody : (∀ v ∈ values, v ≤ quicVarintMax) → ∀ rest,
      decodeBody type (varintsBytes values ++ rest) = .ok (frame.onWire, rest)) :
    ReadsBack frame w w' := by
  cases writerResult_ok h
  obtain ⟨-, hle, hbytes⟩ := quicWriterVarints_ok hok
  refine readsBack_of_body (hle type List.mem_cons_self) hbytes ?_
  intro rest _
  exact hbody (fun v hv => hle v (List.mem_cons_of_mem _ hv)) rest

/-- A frame of integers with data after them. -/
lemma readsBack_data {values : List ℕ} {data : List UInt8}
    (h : writerResult ((quicWriterVarints w (type :: values)).put data) = .ok w')
    (hok : w'.ok = true)
    (hbody : (∀ v ∈ values, v ≤ quicVarintMax) → ∀ rest, (frame.RunsToEnd → rest = []) →
      decodeBody type (varintsBytes values ++ (data ++ rest)) = .ok (frame.onWire, rest)) :
    ReadsBack frame w w' := by
  cases writerResult_ok h
  obtain ⟨hput, hdata⟩ := Writer.put_ok hok
  obtain ⟨-, hle, hbytes⟩ := quicWriterVarints_ok hput
  rw [hbytes, varintsBytes_cons, List.append_assoc, List.append_assoc] at hdata
  refine readsBack_of_body (hle type List.mem_cons_self) hdata ?_
  intro rest hrest
  rw [List.append_assoc]
  exact hbody (fun v hv => hle v (List.mem_cons_of_mem _ hv)) rest hrest

/-- The integers in front of the data of a STREAM frame. -/
def StreamFrame.fields (f : StreamFrame) : List ℕ :=
  f.id :: ((if f.hasOffset then [f.offset] else []) ++ if f.hasLength then [f.data.length] else [])

/-- A STREAM frame is its type, with the flags for the fields that follow, these fields and data. -/
lemma encodeStream_eq (w : Writer) (f : StreamFrame) :
    encodeStream w f =
      writerResult ((quicWriterVarints w (encodedType (.stream f) :: f.fields)).put f.data) := by
  obtain ⟨id, offset, hasOffset, fin, hasLength, data⟩ := f
  cases hasOffset <;> cases hasLength <;> rfl

/-- The flags tell the decoder which fields to read. -/
lemma decodeBody_stream {f : StreamFrame} (hoffset : f.offset ≠ 0 → f.hasOffset = true)
    (hle : ∀ v ∈ f.fields, v ≤ quicVarintMax) {rest : List UInt8}
    (hrest : f.hasLength = false → rest = []) :
    decodeBody (encodedType (.stream f)) (varintsBytes f.fields ++ (f.data ++ rest)) =
      .ok (.stream f, rest) := by
  obtain ⟨id, offset, hasOffset, fin, hasLength, data⟩ := f
  have hid : id ≤ quicVarintMax := hle _ List.mem_cons_self
  have hoffset : hasOffset = false → offset = 0 := by
    intro hnot
    by_contra hne
    exact absurd ((hoffset hne).symm.trans hnot) (by decide)
  have hcarried : hasOffset = true → offset ≤ quicVarintMax := by
    rintro rfl
    exact hle _ (by simp [StreamFrame.fields])
  have hlength : hasLength = true → data.length ≤ quicVarintMax := by
    rintro rfl
    exact hle _ (by simp [StreamFrame.fields])
  cases hasOffset <;> cases hasLength <;> cases fin <;>
    simp_all [decodeBody, decodeStream, encodedType, StreamFrame.fields, bind, Except.bind]

lemma readsBack_stream {f : StreamFrame} (h : encodeStream w f = .ok w') (hok : w'.ok = true)
    (hoffset : f.offset ≠ 0 → f.hasOffset = true) : ReadsBack (.stream f) w w' := by
  rw [encodeStream_eq] at h
  refine readsBack_data h hok ?_
  intro hle rest hrest
  exact decodeBody_stream hoffset hle hrest

lemma readsBack_newConnectionId {f : NewConnectionIdFrame} (h : encodeNewConnectionId w f = .ok w')
    (hok : w'.ok = true) (hsized : f.statelessResetToken.length = quicStatelessResetTokenLength) :
    ReadsBack (.newConnectionId f) w w' := by
  unfold encodeNewConnectionId at h
  split at h
  · cases h
  rename_i hlength
  split at h
  · cases h
  rename_i hretire
  cases writerResult_ok h
  -- The length of the ID is one byte, then come the ID and the token.
  rw [List.take_of_length_le hsized.le] at hok ⊢
  obtain ⟨hput, htoken⟩ := Writer.put_ok hok
  obtain ⟨hput, hid⟩ := Writer.put_ok hput
  obtain ⟨hput, hone⟩ := Writer.put_ok hput
  obtain ⟨-, hle, hbytes⟩ := quicWriterVarints_ok hput
  have hbyte : (UInt8.ofNat f.connectionId.length).toNat = f.connectionId.length := by
    unfold quicMaxConnectionIdLength at hlength
    rw [UInt8.toNat_ofNat']
    omega
  rw [hid, hone, hbytes, varintsBytes_cons] at htoken
  simp only [List.append_assoc] at htoken
  refine readsBack_of_body (by decide) htoken ?_
  intro rest _
  simp only [List.forall_mem_cons] at hle
  obtain ⟨-, hsequence, hprior, -⟩ := hle
  have hfirst : ∀ c, quicTake (UInt8.ofNat f.connectionId.length :: c) 1 =
      .ok ([UInt8.ofNat f.connectionId.length], c) := fun c => quicTake_append [_] c
  simp only [decodeBody, decodeNewConnectionId, varintsBytes_cons, varintsBytes_nil, List.append_assoc,
    List.nil_append, List.cons_append, quicReadVarint_bytes hsequence, quicReadVarint_bytes hprior,
    hfirst, bind, Except.bind, List.headD_cons, hbyte, hlength, if_false, quicTake_append, ← hsized,
    hretire]
  rfl

/-- A close of the transport, whose frame type is zero when it has none. -/
lemma readsBack_closeTransport {f : ConnectionCloseFrame}
    (h : encodeConnectionClose w true f = .ok w') (hok : w'.ok = true) :
    ReadsBack (.connectionCloseTransport f) w w' := by
  obtain ⟨hasFrameType, errorCode, frameType, reason⟩ := f
  have hencode : encodeConnectionClose w true ⟨hasFrameType, errorCode, frameType, reason⟩ =
      writerResult ((quicWriterVarints w [0x1c, errorCode, if hasFrameType then frameType else 0,
        reason.length]).put reason) := by
    unfold encodeConnectionClose
    cases hasFrameType <;> rfl
  rw [hencode] at h
  refine readsBack_data h hok ?_
  intro hle rest _
  simp only [List.forall_mem_cons] at hle
  obtain ⟨hcode, htype, hreason, -⟩ := hle
  simp only [decodeBody, decodeCloseTransport, varintsBytes_cons, varintsBytes_nil,
    List.append_assoc, List.nil_append, quicReadVarint_bytes hcode, quicReadVarint_bytes htype,
    quicReadVarint_bytes hreason, quicTake_append, bind, Except.bind, Frame.onWire]

/-- A close of the application, which has no frame type. -/
lemma readsBack_closeApplication {f : ConnectionCloseFrame}
    (h : encodeConnectionClose w false f = .ok w') (hok : w'.ok = true) :
    ReadsBack (.connectionCloseApplication f) w w' := by
  obtain ⟨hasFrameType, errorCode, frameType, reason⟩ := f
  cases hasFrameType with
  | true => cases h
  | false =>
    have hencode : encodeConnectionClose w false ⟨false, errorCode, frameType, reason⟩ =
        writerResult ((quicWriterVarints w [0x1d, errorCode, reason.length]).put reason) := rfl
    rw [hencode] at h
    refine readsBack_data h hok ?_
    intro hle rest _
    simp only [List.forall_mem_cons] at hle
    obtain ⟨hcode, hreason, -⟩ := hle
    simp only [decodeBody, decodeCloseApplication, varintsBytes_cons, varintsBytes_nil,
      List.append_assoc, List.nil_append, quicReadVarint_bytes hcode, quicReadVarint_bytes hreason,
      quicTake_append, bind, Except.bind, Frame.onWire]

/-- What the encoder writes for the ranges is their shortest form. -/
lemma encodeAckRanges_rangesFrom {f : AckFrame} {n i : ℕ} (h : encodeAckRanges f n i w = .ok w') :
    w' = quicWriterVarints w (ackRangeValues (f.rangesFrom i n)) ∧
      (f.rangesFrom i n).length = n := by
  induction n generalizing i w with
  | zero =>
    cases h
    exact ⟨rfl, rfl⟩
  | succ n ih =>
    rw [encodeAckRanges] at h
    split at h
    · cases h
    · rename_i range hrange
      obtain ⟨hw, hlength⟩ := ih h
      have hcons : f.rangesFrom i (n + 1) = range :: f.rangesFrom (i + 1) n := by
        unfold AckFrame.rangesFrom
        rw [List.range'_succ, List.filterMap_cons, hrange]
        rfl
      rw [hcons]
      exact ⟨hw, congrArg (· + 1) hlength⟩

/-- The integers of an ACK frame after its type. -/
def AckFrame.fields (f : AckFrame) : List ℕ :=
  [f.largest, f.delay, f.rangeCount, f.firstRange] ++
    (ackRangeValues (f.rangesFrom 0 f.rangeCount) ++
      if f.hasEcn then [f.ect0, f.ect1, f.ecnCe] else [])

/-- An accepted ACK frame is its type and its integers. -/
lemma encodeAck_eq {f : AckFrame} (h : encodeAck w f = .ok w') :
    writerResult (quicWriterVarints w ((if f.hasEcn then 0x03 else 0x02) :: f.fields)) = .ok w' ∧
      (f.rangesFrom 0 f.rangeCount).length = f.rangeCount := by
  simp only [encodeAck] at h
  cases hranges : encodeAckRanges f f.rangeCount 0 (quicWriterVarints w
      [if f.hasEcn then 0x03 else 0x02, f.largest, f.delay, f.rangeCount, f.firstRange]) with
  | error status =>
    rw [hranges] at h
    cases h
  | ok w₁ =>
    rw [hranges] at h
    obtain ⟨rfl, hlength⟩ := encodeAckRanges_rangesFrom hranges
    refine ⟨?_, hlength⟩
    rw [← h]
    unfold AckFrame.fields
    cases f.hasEcn with
    | true => simp only [if_true, ← List.cons_append, quicWriterVarints_append, bind, Except.bind]
    | false =>
      simp only [Bool.false_eq_true, if_false, ← List.cons_append, quicWriterVarints_append,
        List.append_nil, bind, Except.bind]

/-- The decoder measures the ranges by their count and reads the marks when the type says so. -/
lemma decodeAck_fields {f : AckFrame} (hlength : (f.rangesFrom 0 f.rangeCount).length = f.rangeCount)
    (hle : ∀ v ∈ f.fields, v ≤ quicVarintMax) (rest : List UInt8) :
    decodeAck f.hasEcn (varintsBytes f.fields ++ rest) = .ok (.ack f.onWire, rest) := by
  unfold AckFrame.fields at hle ⊢
  simp only [List.forall_mem_append, List.forall_mem_cons] at hle
  obtain ⟨⟨hlargest, hdelay, hcount, hfirst, -⟩, hranges, hecn⟩ := hle
  have hconsumed := ackRangesConsumed_bytes hranges
  rw [hlength] at hconsumed
  simp only [decodeAck, varintsBytes_append, varintsBytes_cons, varintsBytes_nil, List.append_assoc,
    List.nil_append, quicReadVarint_bytes hlargest, quicReadVarint_bytes hdelay,
    quicReadVarint_bytes hcount, quicReadVarint_bytes hfirst, bind, Except.bind, hconsumed,
    List.take_left, List.drop_left]
  obtain ⟨largest, delay, firstRange, ranges, rangeCount, hasEcn, ect0, ect1, ecnCe⟩ := f
  cases hasEcn with
  | true =>
    simp only [if_true, List.forall_mem_cons] at hecn
    obtain ⟨hect0, hect1, hecnCe, -⟩ := hecn
    simp only [if_true, varintsBytes_cons, varintsBytes_nil, List.append_assoc, List.nil_append,
      quicReadVarint_bytes hect0, quicReadVarint_bytes hect1, quicReadVarint_bytes hecnCe]
    rfl
  | false => rfl

lemma readsBack_ack {f : AckFrame} (h : encodeAck w f = .ok w') (hok : w'.ok = true) :
    ReadsBack (.ack f) w w' := by
  obtain ⟨hencode, hlength⟩ := encodeAck_eq h
  refine readsBack_varints hencode hok ?_
  intro hle rest
  have hbody : decodeBody (if f.hasEcn then 0x03 else 0x02) (varintsBytes f.fields ++ rest) =
      decodeAck f.hasEcn (varintsBytes f.fields ++ rest) := by
    cases f.hasEcn <;> rfl
  rw [hbody]
  exact decodeAck_fields hlength hle rest

/-- A count of streams that is not too large is read back. -/
lemma decodeStreamCount_bytes {mk : ℕ → Frame} {maximum : ℕ} (hle : maximum ≤ quicVarintMax)
    (hcount : maximum ≤ 2 ^ 60) (rest : List UInt8) :
    decodeStreamCount mk (quicVarintBytes maximum ++ rest) = .ok (mk maximum, rest) := by
  simp only [decodeStreamCount, quicReadVarint_bytes hle, bind, Except.bind]
  rw [if_neg (not_lt.mpr hcount)]

/-- The eight bytes of a PATH_CHALLENGE or a PATH_RESPONSE. -/
lemma readsBack_path {data : List UInt8} (hsized : data.length = quicPathChallengeLength)
    (h : writerResult ((quicWriterVarint w type).put (data.take quicPathChallengeLength)) = .ok w')
    (hok : w'.ok = true)
    (hbody : ∀ rest, quicTake (data ++ rest) quicPathChallengeLength = .ok (data, rest) →
      decodeBody type (data ++ rest) = .ok (frame.onWire, rest)) : ReadsBack frame w w' := by
  rw [List.take_of_length_le hsized.le] at h
  have h : writerResult ((quicWriterVarints w [type]).put data) = .ok w' := h
  refine readsBack_data h hok ?_
  intro _ rest _
  refine hbody rest ?_
  rw [← hsized]
  exact quicTake_append data rest

/-- Every encoded frame that can be asked to come back is read back. -/
theorem quicFrameEncode_readsBack (hframe : frame.Carried) (h : quicFrameEncode w frame = .ok w')
    (hok : w'.ok = true) : ReadsBack frame w w' := by
  obtain ⟨hsized, hoffset, hcount⟩ := hframe
  unfold quicFrameEncode at h
  split at h
  · cases h
  cases frame with
  | padding | ping | handshakeDone =>
    cases h
    obtain ⟨-, hle, hbytes⟩ := quicWriterVarint_ok hok
    refine readsBack_of_body hle (hbytes.trans (congrArg _ (List.append_nil _).symm)) ?_
    intro rest _
    rfl
  | ack f => exact readsBack_ack h hok
  | stream f => exact readsBack_stream h hok hoffset
  | newConnectionId f => exact readsBack_newConnectionId h hok hsized
  | connectionCloseTransport f => exact readsBack_closeTransport h hok
  | connectionCloseApplication f => exact readsBack_closeApplication h hok
  | resetStream | stopSending | maxData | maxStreamData | dataBlocked | streamDataBlocked
  | retireConnectionId =>
    refine readsBack_varints h hok ?_
    intro hle rest
    simp only [List.forall_mem_cons] at hle
    simp [decodeBody, hle, bind, Except.bind, Frame.onWire]
  | maxStreams direction maximum | streamsBlocked direction maximum =>
    refine readsBack_varints h hok ?_
    intro hle rest
    have hle : maximum ≤ quicVarintMax := hle maximum List.mem_cons_self
    rw [varintsBytes_cons, varintsBytes_nil, List.append_nil]
    cases direction with
    | bidirectional => exact decodeStreamCount_bytes hle hcount rest
    | unidirectional => exact decodeStreamCount_bytes hle hcount rest
  | resetStreamAt id code finalSize reliableSize =>
    simp only at h
    split at h
    · cases h
    rename_i hreliable
    refine readsBack_varints h hok ?_
    intro hle rest
    simp only [List.forall_mem_cons] at hle
    simp [decodeBody, hle, hreliable, bind, Except.bind, Frame.onWire]
  | newToken token =>
    simp only at h
    split at h
    · cases h
    rename_i hempty
    refine readsBack_data h hok ?_
    intro hle rest _
    simp only [List.forall_mem_cons] at hle
    simp [decodeBody, hle, hempty, bind, Except.bind, Frame.onWire]
  | crypto offset data | datagram data =>
    refine readsBack_data h hok ?_
    intro hle rest _
    simp only [List.forall_mem_cons] at hle
    simp [decodeBody, hle, bind, Except.bind, Frame.onWire]
  | pathChallenge data | pathResponse data =>
    refine readsBack_path hsized h hok ?_
    intro rest htake
    simp [decodeBody, htake, bind, Except.bind, Frame.onWire]

end Reading

/-! ## A run of frames -/

section Runs

variable {σ : Type} (visit : Frame → σ → Option (σ × Status))

/-- The walk over the frames of a buffer (`wt_quic_frames_decode`) with a visitor that keeps a state
and may not return. A frame takes at least one byte, so the length of the buffer bounds the rounds. -/
def framesVisited : ℕ → List UInt8 → σ → Option (σ × FrameError)
  | _, [], s => some (s, ⟨.ok, none⟩)
  | 0, _, s => some (s, ⟨.ok, none⟩)
  | rounds + 1, payload, s =>
    match quicFrameDecode payload with
    | .error error => some (s, error)
    | .ok (frame, rest) =>
      match visit frame s with
      | none => none
      | some (s, .ok) => framesVisited rounds rest s
      | some (s, status) => some (s, ⟨status, none⟩)

/-- Hand the frames of a list to a visitor, until it refuses one. -/
def delivered : List Frame → σ → Option (σ × FrameError)
  | [], s => some (s, ⟨.ok, none⟩)
  | frame :: frames, s =>
    match visit frame s with
    | none => none
    | some (s, .ok) => delivered frames s
    | some (s, status) => some (s, ⟨status, none⟩)

/-- Encode frames one after the other. -/
def encodeFrames : Writer → List Frame → Except Status Writer
  | w, [] => .ok w
  | w, frame :: frames => do
    let w ← quicFrameEncode w frame
    encodeFrames w frames

/-- Only the last frame of a list may run to the end of the packet. -/
def EndsOnce (frames : List Frame) : Prop :=
  ∀ front frame back, frames = front ++ frame :: back → frame.RunsToEnd → back = []

variable {visit}

lemma endsOnce_nil : EndsOnce [] := by
  intro front frame back hsplit
  cases front <;> cases hsplit

lemma endsOnce_cons {frame : Frame} {frames : List Frame} :
    EndsOnce (frame :: frames) ↔ (frame.RunsToEnd → frames = []) ∧ EndsOnce frames := by
  constructor
  · intro h
    refine ⟨h [] frame frames rfl, ?_⟩
    intro front frame' back hsplit
    refine h (frame :: front) frame' back ?_
    rw [hsplit, List.cons_append]
  · rintro ⟨hhead, htail⟩ front frame' back hsplit
    cases front with
    | nil =>
      cases hsplit
      exact hhead
    | cons x front =>
      obtain ⟨-, hsplit⟩ := List.cons.inj hsplit
      exact htail front frame' back hsplit

/-- An encoding goes on from a writer that was fine. -/
lemma quicFrameEncode_ok {frame : Frame} {w w' : Writer} (h : quicFrameEncode w frame = .ok w')
    (hok : w'.ok = true) : w.ok = true := by
  obtain ⟨hhead, -⟩ := quicFrameEncode_extends h hok
  exact (quicWriterVarint_ok hhead).1

lemma encodeFrames_ok {frames : List Frame} {w w' : Writer} (h : encodeFrames w frames = .ok w')
    (hok : w'.ok = true) : w.ok = true := by
  induction frames generalizing w with
  | nil =>
    cases h
    exact hok
  | cons frame frames ih =>
    rw [encodeFrames] at h
    cases hframe : quicFrameEncode w frame with
    | error status =>
      rw [hframe] at h
      cases h
    | ok w₁ =>
      rw [hframe] at h
      exact quicFrameEncode_ok hframe (ih h)

/-- The walk over what was encoded hands over the frames of the list, whatever the visitor does. -/
theorem framesVisited_encodeFrames {frames : List Frame} (hframes : ∀ frame ∈ frames, frame.Carried)
    (hlast : EndsOnce frames) {w w' : Writer} (h : encodeFrames w frames = .ok w')
    (hok : w'.ok = true) :
    ∃ bytes, w'.bytes = w.bytes ++ bytes ∧ (frames = [] → bytes = []) ∧
      ∀ rounds s, bytes.length ≤ rounds →
        framesVisited visit rounds bytes s = delivered visit (frames.map Frame.onWire) s := by
  induction frames generalizing w with
  | nil =>
    cases h
    refine ⟨[], (List.append_nil _).symm, fun _ => rfl, ?_⟩
    intro rounds s _
    rw [framesVisited]
    rfl
  | cons frame frames ih =>
    rw [encodeFrames] at h
    cases hframe : quicFrameEncode w frame with
    | error status =>
      rw [hframe] at h
      cases h
    | ok w₁ =>
      rw [hframe] at h
      obtain ⟨hends, hlast⟩ := endsOnce_cons.mp hlast
      obtain ⟨bytes, hbytes, hnil, hwalk⟩ :=
        ih (fun f hf => hframes f (List.mem_cons_of_mem _ hf)) hlast h
      obtain ⟨first, hfirst, hfirstBytes, hread⟩ :=
        quicFrameEncode_readsBack (hframes frame List.mem_cons_self) hframe (encodeFrames_ok h hok)
      refine ⟨first ++ bytes, ?_, nofun, ?_⟩
      · rw [hbytes, hfirstBytes, List.append_assoc]
      intro rounds s hrounds
      -- The first frame is decoded, and the walk goes on with one round less.
      have hdecode : quicFrameDecode (first ++ bytes) = .ok (frame.onWire, bytes) := by
        refine hread bytes ?_
        intro hruns
        exact hnil (hends hruns)
      obtain ⟨b, first', rfl⟩ := List.exists_cons_of_ne_nil hfirst
      obtain ⟨rounds, rfl⟩ : ∃ r, rounds = r + 1 := by
        refine Nat.exists_eq_succ_of_ne_zero ?_
        rintro rfl
        simp at hrounds
      have hless : bytes.length ≤ rounds := by
        simp only [List.length_append, List.length_cons] at hrounds
        omega
      rw [List.cons_append] at hdecode ⊢
      rw [List.map_cons, delivered]
      simp only [framesVisited, hdecode, hwalk rounds _ hless]

end Runs

/-- A visitor that keeps every frame. -/
def collect (frame : Frame) (seen : List Frame) : Option (List Frame × Status) :=
  some (seen ++ [frame], .ok)

lemma delivered_collect (frames seen : List Frame) :
    delivered collect frames seen = some (seen ++ frames, ⟨.ok, none⟩) := by
  induction frames generalizing seen with
  | nil => rw [delivered, List.append_nil]
  | cons frame frames ih =>
    rw [delivered, collect]
    simp only
    rw [ih, List.append_assoc, List.singleton_append]

/-- The encoder refuses what a frame's own rules forbid. -/
lemma quicFrameEncode_forbidden {frame : Frame} (h : frame.Forbidden) (w : Writer) :
    ∃ status, quicFrameEncode w frame = .error status := by
  unfold quicFrameEncode
  split
  · exact ⟨_, rfl⟩
  cases frame with
  | newToken token =>
    refine ⟨.invalidArgument, if_pos ?_⟩
    obtain rfl : token = [] := h
    rfl
  | newConnectionId f =>
    refine ⟨.invalidArgument, ?_⟩
    simp only [encodeNewConnectionId]
    rcases h with h | h | h
    · exact if_pos (.inl h)
    · exact if_pos (.inr h)
    · rw [if_pos h]
      exact ite_self _
  | resetStreamAt id code finalSize reliableSize => exact ⟨.invalidArgument, if_pos h⟩
  | _ => exact h.elim

/-- Every frame whose count of streams the decoder takes is read back as the wire carries it, whatever
follows, from exactly the bytes that were written for it; the encoder refuses what a frame's own
rules forbid; and a list of encoded frames is delivered as that list. -/
theorem quic_frame_round_trip :
    (∀ (frame : Frame) (w w' : Writer), frame.Carried → quicFrameEncode w frame = .ok w' →
      w'.ok = true → ReadsBack frame w w') ∧
      (∀ (frame : Frame) (w : Writer), frame.Forbidden →
        ∃ status, quicFrameEncode w frame = .error status) ∧
      ∀ (frames : List Frame) (w w' : Writer), (∀ frame ∈ frames, frame.Carried) → EndsOnce frames →
        encodeFrames w frames = .ok w' → w'.ok = true →
        ∃ bytes, w'.bytes = w.bytes ++ bytes ∧
          framesVisited collect bytes.length bytes [] =
            some (frames.map Frame.onWire, ⟨.ok, none⟩) := by
  refine ⟨fun frame w w' => quicFrameEncode_readsBack, fun frame w h => quicFrameEncode_forbidden h w, ?_⟩
  intro frames w w' hframes hlast h hok
  obtain ⟨bytes, hbytes, -, hwalk⟩ := framesVisited_encodeFrames hframes hlast h hok
  refine ⟨bytes, hbytes, ?_⟩
  rw [hwalk bytes.length [] le_rfl, delivered_collect, List.nil_append]

/-- A ping, an ACK with marks and a STREAM frame that runs to the end of the packet. -/
theorem quic_frame_round_trip_three :
    let frames := [Frame.ping, .ack ⟨9, 3, 1, [2, 1], 1, true, 7, 0, 0⟩,
      .stream ⟨4, 100, true, true, false, [1, 2]⟩]
    ∃ w bytes, encodeFrames (writerInit 64) frames = .ok w ∧ w.bytes = bytes ∧
      framesVisited collect bytes.length bytes [] = some (frames, ⟨.ok, none⟩) := by
  intro frames
  have hframes : ∀ frame ∈ frames, frame.Carried := by
    simp only [frames, List.forall_mem_cons]
    refine ⟨⟨trivial, trivial, trivial⟩, ⟨trivial, trivial, trivial⟩, ⟨trivial, fun _ => rfl, trivial⟩, ?_⟩
    exact nofun
  have hlast : EndsOnce frames := by
    refine endsOnce_cons.mpr ⟨False.elim, endsOnce_cons.mpr ⟨False.elim, endsOnce_cons.mpr ⟨fun _ => rfl, ?_⟩⟩⟩
    exact endsOnce_nil
  obtain ⟨bytes, hbytes, hwalk⟩ :=
    quic_frame_round_trip.2.2 frames (writerInit 64) _ hframes hlast rfl rfl
  refine ⟨_, bytes, rfl, hbytes, ?_⟩
  exact hwalk

/-- A close of the transport that names no frame is read back with the frame type zero. -/
theorem quic_frame_close_gains_type :
    let frame := Frame.connectionCloseTransport ⟨false, 0x0a, 0, []⟩
    ∃ w, quicFrameEncode (writerInit 16) frame = .ok w ∧ w.ok = true ∧
      quicFrameDecode w.bytes = .ok (.connectionCloseTransport ⟨true, 0x0a, 0, []⟩, []) ∧
      quicFrameDecode w.bytes ≠ .ok (frame, []) := by
  refine ⟨_, rfl, rfl, rfl, ?_⟩
  have hne : quicFrameDecode [0x1c, 0x0a, 0x00, 0x00] ≠
      .ok (Frame.connectionCloseTransport ⟨false, 0x0a, 0, []⟩, []) := by
    decide
  exact hne

end WebTransport
