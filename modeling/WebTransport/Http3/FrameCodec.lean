import WebTransport.Http3.DriverSend
import WebTransport.Session.CapsuleCuts

/-!
# The frame codec

The encoder and the decoder of HTTP/3 frames (`http3/frame.c`), and the way a DATA frame is put
around a payload where it lies: the payload is written behind room for the longest header, and moves
down to the header that it gets. Both ways leave the same bytes.
-/

namespace WebTransport

open Memory

/-- The longest header of a DATA frame: its type in one byte and its length in eight. -/
def http3FrameDataHeaderMax : ℕ := 9

/-- The size of the frame that `http3FrameEncode` writes. -/
def http3FrameEncodedSize (type length : ℕ) : Except Status ℕ :=
  if type > quicVarintMax then .error .invalidArgument
  else if length > quicVarintMax then .error .invalidArgument
  else
    let total := quicVarintSize type + quicVarintSize length
    if total > 2 ^ 64 - 1 - length then .error .overflow else .ok (total + length)

/-- Read a frame: its type, its payload and the bytes after it. -/
def frameDecodeAt (c : List UInt8) : Except Reply ((ℕ × List UInt8) × List UInt8) :=
  match quicVarintDecode c with
  | .error _ => .error (.truncated, .frameError)
  | .ok (type, c) =>
    match quicVarintDecode c with
    | .error _ => .error (.truncated, .frameError)
    | .ok (length, c) =>
      if length > 2 ^ 64 - 1 then .error (.limit, .frameError)
      else if c.length < length then .error (.truncated, .frameError)
      else .ok ((type, c.take length), c.drop length)

/-- Read a frame from a cursor, which stays where it was when there is none. -/
def http3FrameDecode (c : List UInt8) : List UInt8 × Except Reply (ℕ × List UInt8) :=
  match frameDecodeAt c with
  | .error reply => (c, .error reply)
  | .ok (frame, c') => (c', .ok frame)

/-- A writer for the payload of a DATA frame, behind the room for its header. -/
def http3FrameDataWriter (capacity : ℕ) : Writer :=
  if capacity < http3FrameDataHeaderMax then writerInit 0
  else writerInit (capacity - http3FrameDataHeaderMax)

/-- The buffer of a data writer with what was written to it. -/
def dataWritten (buffer : List UInt8) (w : Writer) : List UInt8 :=
  copyTo buffer http3FrameDataHeaderMax w.bytes

/-- Put a DATA frame around the payload behind the room for its header: the buffer, the length of
the frame and the status. -/
def http3FrameWrapDataInPlace (buffer : List UInt8) (payloadLength : ℕ) :
    List UInt8 × ℕ × Status :=
  if payloadLength > quicVarintMax then (buffer, 0, .invalidArgument)
  else if buffer.length < http3FrameDataHeaderMax ∨
      payloadLength > buffer.length - http3FrameDataHeaderMax then (buffer, 0, .limit)
  else
    let lengthBytes := quicVarintEncode payloadLength (http3FrameDataHeaderMax - 1)
    if lengthBytes.length = 0 then (buffer, 0, .invalidArgument)
    else
      let header := UInt8.ofNat http3FrameData :: lengthBytes
      if header.length > buffer.length - payloadLength then (buffer, 0, .limit)
      else
        -- The two regions overlap: what moves is what was there before.
        let moved :=
          copyTo buffer header.length (slice buffer http3FrameDataHeaderMax payloadLength)
        (copyTo moved 0 header, header.length + payloadLength, .ok)

/-! ## What is written -/

/-- The bytes of a frame. -/
def frameBytes (type : ℕ) (payload : List UInt8) : List UInt8 :=
  quicVarintBytes type ++ (quicVarintBytes payload.length ++ payload)

section Written

variable {w : Writer} {type : ℕ} {payload : List UInt8}

lemma length_frameBytes (htype : type ≤ quicVarintMax) (hlength : payload.length ≤ quicVarintMax) :
    (frameBytes type payload).length =
      quicVarintSize type + quicVarintSize payload.length + payload.length := by
  rw [frameBytes, List.length_append, List.length_append, length_quicVarintBytes htype,
    length_quicVarintBytes hlength, Nat.add_assoc]

lemma quicVarintSize_le (value : ℕ) : quicVarintSize value ≤ 8 := by
  unfold quicVarintSize
  split_ifs <;> omega

lemma ok_of_status {w : Writer} (h : (if w.ok = true then Status.ok else .limit) = .ok) :
    w.ok = true := by
  by_contra hok
  rw [if_neg hok] at h
  cases h

/-- A frame that is accepted is in range, and its three parts are what is written. -/
lemma http3FrameEncode_ok (h : (http3FrameEncode w type payload).2 = .ok) :
    type ≤ quicVarintMax ∧ payload.length ≤ quicVarintMax ∧
      (http3FrameEncode w type payload).1.bytes = w.bytes ++ frameBytes type payload := by
  unfold http3FrameEncode at h ⊢
  split_ifs at h ⊢ with htype hlength hdata
  · have hwritten := ok_of_status h
    obtain ⟨hheader, hbytes⟩ := Writer.put_ok hwritten
    obtain ⟨htypeOk, hlengthLe, hlengthBytes⟩ := quicWriterVarint_ok hheader
    obtain ⟨-, htypeLe, htypeBytes⟩ := quicWriterVarint_ok htypeOk
    refine ⟨htypeLe, hlengthLe, hbytes.trans ?_⟩
    rw [hlengthBytes, htypeBytes, frameBytes, List.append_assoc, List.append_assoc]
  · obtain ⟨htypeOk, hlengthLe, hlengthBytes⟩ := quicWriterVarint_ok (ok_of_status h)
    obtain ⟨-, htypeLe, htypeBytes⟩ := quicWriterVarint_ok htypeOk
    have hnil : payload = [] := List.length_eq_zero_iff.mp (not_not.mp hdata)
    refine ⟨htypeLe, hlengthLe, hlengthBytes.trans ?_⟩
    rw [htypeBytes, frameBytes, hnil, List.append_nil, List.append_assoc]

lemma http3FrameEncode_fits (hok : w.ok = true) (htype : type ≤ quicVarintMax)
    (hlength : payload.length ≤ quicVarintMax)
    (hfits : w.bytes.length + (frameBytes type payload).length ≤ w.cap) :
    (http3FrameEncode w type payload).2 = .ok := by
  rw [frameBytes, List.length_append, List.length_append] at hfits
  obtain ⟨htypeOk, htypeBytes, htypeCap⟩ :=
    Writer.put_of_fits (quicVarintBytes type) hok (by omega)
  rw [← quicWriterVarint_of_le htype] at htypeOk htypeBytes htypeCap
  obtain ⟨hlengthOk, hlengthBytes, hlengthCap⟩ :=
    Writer.put_of_fits (quicVarintBytes payload.length) htypeOk (by
      rw [htypeBytes, htypeCap, List.length_append]
      omega)
  rw [← quicWriterVarint_of_le hlength] at hlengthOk hlengthBytes hlengthCap
  have hpayload := (Writer.put_of_fits payload hlengthOk (by
    rw [hlengthBytes, hlengthCap, htypeBytes, htypeCap, List.length_append, List.length_append]
    omega)).1
  unfold http3FrameEncode
  rw [if_neg (by omega), if_neg (by omega)]
  dsimp only
  split_ifs with hdata
  · rfl
  · rfl

end Written

/-! ## Reading it back -/

section Read

variable {type : ℕ} {payload : List UInt8}

lemma frameDecodeAt_frameBytes (htype : type ≤ quicVarintMax)
    (hlength : payload.length ≤ quicVarintMax) (rest : List UInt8) :
    frameDecodeAt (frameBytes type payload ++ rest) = .ok ((type, payload), rest) := by
  rw [frameDecodeAt, frameBytes, List.append_assoc, quicVarintDecode_bytes htype]
  dsimp only
  rw [List.append_assoc, quicVarintDecode_bytes hlength]
  have hle : payload.length ≤ 2 ^ 64 - 1 := hlength.trans (by norm_num [quicVarintMax])
  dsimp only
  rw [if_neg (by omega), if_neg (by rw [List.length_append]; omega), List.take_left,
    List.drop_left]

/-- What comes after a frame makes no difference to it, and a part of it is cut short. -/
lemma stable_frameDecodeAt : Reader.Stable (.truncated, .frameError) frameDecodeAt :=
  @stable_typeLengthValue _ _ _ _ (2 ^ 64 - 1) Prod.mk _ fun _ => rfl

lemma http3FrameDecode_frameBytes (htype : type ≤ quicVarintMax)
    (hlength : payload.length ≤ quicVarintMax) (rest : List UInt8) :
    http3FrameDecode (frameBytes type payload ++ rest) = (rest, .ok (type, payload)) := by
  rw [http3FrameDecode, frameDecodeAt_frameBytes htype hlength]

/-- A frame that is cut short leaves the cursor where it was. -/
lemma http3FrameDecode_part (htype : type ≤ quicVarintMax)
    (hlength : payload.length ≤ quicVarintMax) {part missing : List UInt8}
    (hpart : part ++ missing = frameBytes type payload) (hmissing : missing ≠ []) :
    http3FrameDecode part = (part, .error (.truncated, .frameError)) := by
  have hwhole := frameDecodeAt_frameBytes htype hlength []
  rw [List.append_nil, ← hpart] at hwhole
  rw [http3FrameDecode, stable_frameDecodeAt.short_of_part hwhole hmissing]

end Read

/-! ## The frame around a payload in place -/

section InPlace

variable {buffer : List UInt8} {w : Writer}

lemma frameBytes_data (payload : List UInt8) : frameBytes http3FrameData payload =
    (UInt8.ofNat http3FrameData :: quicVarintBytes payload.length) ++ payload :=
  rfl

/-- The payload lies behind the room for the header, as it was written. -/
lemma slice_dataWritten (hroom : http3FrameDataHeaderMax + w.bytes.length ≤ buffer.length) :
    slice (dataWritten buffer w) http3FrameDataHeaderMax w.bytes.length = w.bytes := by
  have hfront : (buffer.take http3FrameDataHeaderMax).length = http3FrameDataHeaderMax := by
    rw [List.length_take]
    omega
  have hslice := @slice_of_take _ _ w.bytes (buffer.take http3FrameDataHeaderMax) []
    (http3FrameDataHeaderMax + w.bytes.length) (by
      rw [List.append_nil]
      exact take_copyTo hroom)
  rwa [hfront] at hslice

/-- The buffer holds the header and the payload behind it, whatever length the header has. -/
lemma http3FrameWrapDataInPlace_bytes (hlength : w.bytes.length ≤ quicVarintMax)
    (hroom : http3FrameDataHeaderMax + w.bytes.length ≤ buffer.length) :
    ∃ wrapped, http3FrameWrapDataInPlace (dataWritten buffer w) w.bytes.length =
        (wrapped, (frameBytes http3FrameData w.bytes).length, .ok) ∧
      wrapped.take (frameBytes http3FrameData w.bytes).length =
        frameBytes http3FrameData w.bytes := by
  have hsize : (dataWritten buffer w).length = buffer.length := length_copyTo hroom
  have hbytes := length_quicVarintBytes hlength
  have hle := quicVarintSize_le w.bytes.length
  have hpositive := List.length_pos_of_ne_nil (quicVarintBytes_ne_nil hlength)
  have hheader : (UInt8.ofNat http3FrameData :: quicVarintBytes w.bytes.length).length ≤
      http3FrameDataHeaderMax := by
    rw [List.length_cons, hbytes, http3FrameDataHeaderMax]
    omega
  refine ⟨copyTo (copyTo (dataWritten buffer w)
    (UInt8.ofNat http3FrameData :: quicVarintBytes w.bytes.length).length w.bytes) 0
    (UInt8.ofNat http3FrameData :: quicVarintBytes w.bytes.length), ?_, ?_⟩
  · unfold http3FrameWrapDataInPlace
    rw [if_neg (by omega), hsize, if_neg (by omega), slice_dataWritten hroom]
    change (if (quicVarintBytes w.bytes.length).length = 0 then _ else if
      (UInt8.ofNat http3FrameData :: quicVarintBytes w.bytes.length).length >
        buffer.length - w.bytes.length then _ else _) = _
    rw [if_neg (by omega), if_neg (by omega), frameBytes_data, List.length_append]
    rfl
  · rw [frameBytes_data, List.length_append]
    apply take_copyTo_copyTo
    omega

end InPlace

/-! ## Agreement -/

/-- The three ways to a frame agree. A frame that the encoder accepts has the size that was
announced, is read back whole and never from a part of it, and a payload that a data writer has put
down behind the room for its header becomes, where it lies, the frame the encoder writes. -/
theorem http3Frame_agree :
    (∀ (w : Writer) (type : ℕ) (payload : List UInt8),
      (http3FrameEncode w type payload).2 = .ok →
      ∃ bytes, (http3FrameEncode w type payload).1.bytes = w.bytes ++ bytes ∧
        http3FrameEncodedSize type payload.length = .ok bytes.length ∧
        (∀ rest, http3FrameDecode (bytes ++ rest) = (rest, .ok (type, payload))) ∧
        ∀ part missing, part ++ missing = bytes → missing ≠ [] →
          http3FrameDecode part = (part, .error (.truncated, .frameError))) ∧
    ∀ (buffer : List UInt8) (w : Writer), w.cap = (http3FrameDataWriter buffer.length).cap →
      http3FrameDataHeaderMax ≤ buffer.length →
      ∃ wrapped written, http3FrameWrapDataInPlace (dataWritten buffer w) w.bytes.length =
          (wrapped, written,
            (http3FrameEncode (writerInit buffer.length) http3FrameData w.bytes).2) ∧
        wrapped.take written =
          (http3FrameEncode (writerInit buffer.length) http3FrameData w.bytes).1.bytes ∧
        written =
          (http3FrameEncode (writerInit buffer.length) http3FrameData w.bytes).1.bytes.length := by
  constructor
  · intro w type payload h
    obtain ⟨htype, hlength, hbytes⟩ := http3FrameEncode_ok h
    refine ⟨frameBytes type payload, hbytes, ?_,
      fun rest => http3FrameDecode_frameBytes htype hlength rest,
      fun part missing hpart hmissing => http3FrameDecode_part htype hlength hpart hmissing⟩
    have htypeSize := quicVarintSize_le type
    have hlengthSize := quicVarintSize_le payload.length
    have hmax : quicVarintMax + 16 ≤ 2 ^ 64 - 1 := by norm_num [quicVarintMax]
    unfold http3FrameEncodedSize
    rw [if_neg (by omega), if_neg (by omega)]
    dsimp only
    rw [if_neg (by omega), length_frameBytes htype hlength]
  · intro buffer w hw hcapacity
    have hroom : http3FrameDataHeaderMax + w.bytes.length ≤ buffer.length := by
      have hfits := w.fits
      rw [hw, http3FrameDataWriter, if_neg (by omega)] at hfits
      change w.bytes.length ≤ buffer.length - http3FrameDataHeaderMax at hfits
      omega
    have htype : http3FrameData ≤ quicVarintMax := Nat.zero_le _
    by_cases hlength : w.bytes.length ≤ quicVarintMax
    · obtain ⟨wrapped, hwrapped, hbytes⟩ := http3FrameWrapDataInPlace_bytes hlength hroom
      have hsize := length_frameBytes htype hlength
      have hheader := quicVarintSize_le w.bytes.length
      have hencoded : (http3FrameEncode (writerInit buffer.length) http3FrameData w.bytes).2 =
          .ok := by
        apply http3FrameEncode_fits rfl htype hlength
        change 0 + (frameBytes http3FrameData w.bytes).length ≤ buffer.length
        have hone : quicVarintSize http3FrameData = 1 := rfl
        rw [http3FrameDataHeaderMax] at hroom
        omega
      have hwritten := (http3FrameEncode_ok hencoded).2.2
      rw [hencoded, hwritten]
      exact ⟨wrapped, _, hwrapped, hbytes, rfl⟩
    · -- A length that no varint carries is refused both ways, and nothing is written.
      have hrefused : http3FrameEncode (writerInit buffer.length) http3FrameData w.bytes =
          (writerInit buffer.length, .invalidArgument) := by
        rw [http3FrameEncode, if_neg (by omega), if_pos (by omega)]
      refine ⟨dataWritten buffer w, 0, ?_, ?_, ?_⟩
      · rw [http3FrameWrapDataInPlace, hrefused, if_pos (by omega)]
      · rw [hrefused]
        rfl
      · rw [hrefused]
        rfl

/-- A frame of an unknown type, and two bytes of data wrapped in a buffer of eleven. -/
theorem http3Frame_agree_two :
    (∃ bytes, (http3FrameEncode (writerInit 8) 0x21 [0xaa]).1.bytes = [] ++ bytes ∧
      http3FrameEncodedSize 0x21 1 = .ok bytes.length ∧
      (∀ rest, http3FrameDecode (bytes ++ rest) = (rest, .ok (0x21, [0xaa]))) ∧
      ∀ part missing, part ++ missing = bytes → missing ≠ [] →
        http3FrameDecode part = (part, .error (.truncated, .frameError))) ∧
    ∃ wrapped written,
      http3FrameWrapDataInPlace
          (dataWritten (List.replicate 11 0) ((http3FrameDataWriter 11).put [0xaa, 0xbb])) 2 =
        (wrapped, written,
          (http3FrameEncode (writerInit 11) http3FrameData [0xaa, 0xbb]).2) ∧
      wrapped.take written =
        (http3FrameEncode (writerInit 11) http3FrameData [0xaa, 0xbb]).1.bytes ∧
      written =
        (http3FrameEncode (writerInit 11) http3FrameData [0xaa, 0xbb]).1.bytes.length :=
  ⟨http3Frame_agree.1 (writerInit 8) 0x21 [0xaa] (by decide),
    http3Frame_agree.2 (List.replicate 11 0) ((http3FrameDataWriter 11).put [0xaa, 0xbb])
      (by decide) (by decide)⟩

end WebTransport
