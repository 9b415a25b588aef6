import WebTransport.Quic.PacketLayout

/-!
# Packet headers

The header encoders (`quic/packet_encode.c`) and decoders (`quic/packet.c`). The Length field is
computed by the encoder, from the lengths of the packet number and of the payload; the decoder
reads it once more after the layout walk has, and the two readings agree.
-/

namespace WebTransport

/-- A decoded long header (`wt_quic_long_header_t`). The payload is still sealed. -/
structure QuicLongHeader where
  type : LongType
  version : ℕ
  destinationConnectionId : List UInt8
  sourceConnectionId : List UInt8
  token : List UInt8
  packetNumber : ℕ
  packetNumberLength : ℕ
  payload : List UInt8
  headerLength : ℕ
  totalLength : ℕ
  /-- Reported, not refused: the rule is about packets that have authenticated. -/
  reservedBitsSet : Bool
deriving DecidableEq, Repr

/-- A decoded short header (`wt_quic_short_header_t`). -/
structure QuicShortHeader where
  keyPhase : Bool
  spin : Bool
  reservedBitsSet : Bool
  destinationConnectionId : List UInt8
  packetNumber : ℕ
  packetNumberLength : ℕ
  payload : List UInt8
  headerLength : ℕ
  totalLength : ℕ
deriving DecidableEq, Repr

/-! ## The decoders -/

/-- A connection ID behind its length byte (`wt_quic_read_connection_id`). -/
def takeConnectionId : List UInt8 → Except Status (List UInt8 × List UInt8)
  | [] => .error .truncated
  | length :: c =>
    if quicMaxConnectionIdLength < length.toNat then .error .protocol
    else if c.length < length.toNat then .error .truncated
    else .ok (c.take length.toNat, c.drop length.toNat)

/-- The token of an Initial packet. -/
def takeToken (c : List UInt8) : Except Status (List UInt8 × List UInt8) :=
  match readHeaderVarint c with
  | .error status => .error status
  | .ok (length, c) =>
    if c.length < length then .error .truncated else .ok (c.take length, c.drop length)

/-- The fields of a long header behind its version. -/
structure LongFields where
  destinationConnectionId : List UInt8
  sourceConnectionId : List UInt8
  token : List UInt8
  length : ℕ
deriving DecidableEq, Repr

/-- Read the fields of a long header behind its version. -/
def takeLongFields (type : LongType) (c : List UInt8) : Except Status (LongFields × List UInt8) :=
  match takeConnectionId c with
  | .error status => .error status
  | .ok (destination, c) =>
    match takeConnectionId c with
    | .error status => .error status
    | .ok (source, c) =>
      match if type = .initial then takeToken c else .ok ([], c) with
      | .error status => .error status
      | .ok (token, c) =>
        match readHeaderVarint c with
        | .error status => .error status
        | .ok (length, c) => .ok (⟨destination, source, token, length⟩, c)

/-- The packet number length in an unmasked first byte. -/
def packetNumberLength (first : UInt8) : ℕ := (first &&& 0x03).toNat + 1

/-- Decode a long header whose mask is off. -/
def quicLongHeaderDecode : List UInt8 → Except Status QuicLongHeader
  | [] => .error .truncated
  | first :: c =>
    if first.toNat < 0x80 then .error .protocol
    else if first &&& 0x40 = 0 then .error .protocol
    else if longType first = .retry then .error .protocol
    else if c.length < 4 then .error .truncated
    else
      match takeLongFields (longType first) (c.drop 4) with
      | .error status => .error status
      | .ok (fields, rest) =>
        let pnLength := packetNumberLength first
        let headerLength := (first :: c).length - rest.length + pnLength
        if rest.length < pnLength then .error .truncated
        -- A Length that does not reach past the number is no payload of negative size.
        else if fields.length < pnLength then .error .protocol
        else if rest.length - pnLength < fields.length - pnLength then .error .truncated
        else
          .ok
            { type := longType first
              version := headerVersion (first :: c)
              destinationConnectionId := fields.destinationConnectionId
              sourceConnectionId := fields.sourceConnectionId
              token := fields.token
              packetNumber := (rest.take pnLength).foldl BigEndian.push 0
              packetNumberLength := pnLength
              payload := (rest.drop pnLength).take (fields.length - pnLength)
              headerLength := headerLength
              totalLength := headerLength + (fields.length - pnLength)
              reservedBitsSet := first &&& 0x0c ≠ 0 }

/-- Decode a short header whose mask is off; the payload is everything left. -/
def quicShortHeaderDecode (idLength : ℕ) (bytes : List UInt8) : Except Status QuicShortHeader :=
  if quicMaxConnectionIdLength < idLength then .error .invalidArgument
  else
    match bytes with
    | [] => .error .truncated
    | first :: c =>
      let pnLength := packetNumberLength first
      if ¬first.toNat < 0x80 then .error .protocol
      else if first &&& 0x40 = 0 then .error .protocol
      else if c.length < idLength then .error .truncated
      else if (c.drop idLength).length < pnLength then .error .truncated
      else
        let payload := c.drop (idLength + pnLength)
        .ok
          { keyPhase := first &&& 0x04 ≠ 0
            spin := first &&& 0x20 ≠ 0
            reservedBitsSet := first &&& 0x18 ≠ 0
            destinationConnectionId := c.take idLength
            packetNumber := ((c.drop idLength).take pnLength).foldl BigEndian.push 0
            packetNumberLength := pnLength
            payload := payload
            headerLength := pnLength + 1 + idLength
            totalLength := pnLength + 1 + idLength + payload.length }

/-! ## The encoders -/

/-- The type bits of a first byte. -/
def LongType.bits : LongType → ℕ
  | .initial => 0
  | .zeroRtt => 1
  | .handshake => 2
  | .retry => 3

/-- The low bytes of a packet number; none for a length no packet number has. -/
def quicPacketNumberEncode (packetNumber byteCount : ℕ) : List UInt8 :=
  if byteCount = 0 ∨ 4 < byteCount then [] else BigEndian.bytes byteCount packetNumber

/-- Write a connection ID behind its length. -/
def quicWriteConnectionId (w : Writer) (id : List UInt8) : Writer :=
  (w.put [UInt8.ofNat id.length]).put id

/-- Write the token of an Initial packet; no other packet has one. -/
def writeToken (w : Writer) (type : LongType) (token : List UInt8) : Writer :=
  if type = .initial then (quicWriterVarint w token.length).put token else w

/-- The first byte of a long header. -/
def longFirstByte (type : LongType) (pnLength : ℕ) : UInt8 :=
  UInt8.ofNat (0x80 ||| 0x40 ||| type.bits <<< 4 ||| (pnLength - 1))

/-- The first byte of a short header. -/
def shortFirstByte (pnLength : ℕ) (keyPhase spin : Bool) : UInt8 :=
  UInt8.ofNat (0x40 ||| (pnLength - 1)) ||| (if spin then 0x20 else 0) |||
    (if keyPhase then 0x04 else 0)

/-- Write a long header up to its packet number, for a payload of some length that the caller
produces. -/
def quicLongHeaderEncodePrefix (w : Writer) (type : LongType) (version : UInt32)
    (destination source token : List UInt8) (packetNumber pnLength payloadLength : ℕ) :
    Except Status Writer :=
  if type = .retry then .error .invalidArgument
  else if quicMaxConnectionIdLength < destination.length ∨
      quicMaxConnectionIdLength < source.length then .error .invalidArgument
  else if pnLength = 0 ∨ 4 < pnLength then .error .invalidArgument
  else if type ≠ .initial ∧ token.length ≠ 0 then .error .invalidArgument
  else if pnLength ≠ (quicPacketNumberEncode packetNumber pnLength).length then
    .error .invalidArgument
  else if 2 ^ 64 ≤ pnLength + payloadLength then .error .overflow
  else if quicVarintSize (pnLength + payloadLength) = 0 then .error .overflow
  else
    let w := w.put [longFirstByte type pnLength]
    let w := w.put (BigEndian.bytes 4 version.toNat)
    let w := quicWriteConnectionId w destination
    let w := quicWriteConnectionId w source
    let w := writeToken w type token
    let w := quicWriterVarint w (pnLength + payloadLength)
    let w := w.put (quicPacketNumberEncode packetNumber pnLength)
    if w.ok then .ok w else .error .limit

/-- Write a short header and a payload behind it. -/
def quicShortHeaderEncode (w : Writer) (destination : List UInt8) (packetNumber pnLength : ℕ)
    (keyPhase spin : Bool) (payload : List UInt8) : Except Status Writer :=
  if quicMaxConnectionIdLength < destination.length then .error .invalidArgument
  else if pnLength = 0 ∨ 4 < pnLength then .error .invalidArgument
  else if (quicPacketNumberEncode packetNumber pnLength).length ≠ pnLength then
    .error .invalidArgument
  else
    let w := w.put [shortFirstByte pnLength keyPhase spin]
    let w := w.put destination
    let w := w.put (quicPacketNumberEncode packetNumber pnLength)
    let w := w.put payload
    if w.ok then .ok w else .error .limit

/-! ## The two readings agree -/

section Agreement

variable {bytes c rest : List UInt8} {idLength : ℕ} {type : LongType}

lemma quicReadConnectionId_eq :
    quicReadConnectionId c = (takeConnectionId c).map Prod.snd := by
  cases c with
  | nil => rfl
  | cons length c =>
    rw [quicReadConnectionId, takeConnectionId]
    split_ifs <;> rfl

lemma readToken_eq : readToken c = (takeToken c).map Prod.snd := by
  unfold readToken takeToken
  cases readHeaderVarint c with
  | error status => rfl
  | ok r =>
    simp only
    split_ifs <;> rfl

/-- The layout walk steps over what the decoder reads. -/
lemma readLongFields_eq :
    readLongFields type c = (takeLongFields type c).map fun r => (r.1.length, r.2) := by
  unfold readLongFields takeLongFields
  rw [quicReadConnectionId_eq]
  cases takeConnectionId c with
  | error status => rfl
  | ok destination =>
    simp only [Except.map]
    rw [quicReadConnectionId_eq]
    cases takeConnectionId destination.2 with
    | error status => rfl
    | ok source =>
      simp only [Except.map]
      by_cases hinitial : type = .initial
      · rw [if_pos hinitial, if_pos hinitial, readToken_eq]
        cases takeToken source.2 with
        | error status => rfl
        | ok token =>
          simp only [Except.map]
          cases readHeaderVarint token.2 <;> rfl
      · rw [if_neg hinitial, if_neg hinitial]
        simp only
        cases readHeaderVarint source.2 <;> rfl

/-! A header that cannot be decoded has a status of its own. -/

lemma quicLongHeaderDecode_failed : quicLongHeaderDecode bytes ≠ .error .ok := by
  intro h
  cases bytes with
  | nil => cases h
  | cons first c =>
    rw [quicLongHeaderDecode] at h
    by_cases hlong : first.toNat < 0x80
    · rw [if_pos hlong] at h
      cases h
    rw [if_neg hlong] at h
    by_cases hfixed : first &&& 0x40 = 0
    · rw [if_pos hfixed] at h
      cases h
    rw [if_neg hfixed] at h
    by_cases hretry : longType first = .retry
    · rw [if_pos hretry] at h
      cases h
    rw [if_neg hretry] at h
    by_cases hversion : c.length < 4
    · rw [if_pos hversion] at h
      cases h
    rw [if_neg hversion] at h
    have hwalk : readLongFields (longType first) (c.drop 4) = _ := readLongFields_eq
    split at h
    · rename_i status hfields
      obtain rfl := Except.error.inj h
      rw [hfields] at hwalk
      exact readLongFields_failed hwalk
    · simp only at h
      split_ifs at h <;> cases h

lemma quicShortHeaderDecode_failed : quicShortHeaderDecode idLength bytes ≠ .error .ok := by
  intro h
  unfold quicShortHeaderDecode at h
  split_ifs at h
  · cases h
  · split at h
    · cases h
    · simp only at h
      split_ifs at h <;> cases h

/-- Where the layout walk and a decoder both accept a byte string, the packet number starts and
the packet ends at the same places. -/
def Agrees (layout : PacketLayout) (headerLength pnLength totalLength : ℕ) : Prop :=
  layout.pnOffset + pnLength = headerLength ∧ layout.totalLength = totalLength

lemma quicLongHeaderDecode_agrees {layout : PacketLayout} {header : QuicLongHeader}
    (hlayout : quicProtectedPnOffset idLength bytes = .ok layout)
    (hheader : quicLongHeaderDecode bytes = .ok header) :
    Agrees layout header.headerLength header.packetNumberLength header.totalLength := by
  cases bytes with
  | nil => cases hlayout
  | cons first c =>
    rw [quicLongHeaderDecode] at hheader
    rw [quicProtectedPnOffset] at hlayout
    by_cases hlong : first.toNat < 0x80
    · rw [if_pos hlong] at hheader
      cases hheader
    rw [if_neg hlong] at hheader hlayout
    rw [readLongFields_eq] at hlayout
    split_ifs at hheader with hfixed hretry hversion
    rw [if_neg hversion] at hlayout
    split_ifs at hlayout with hzero
    cases hfields : takeLongFields (longType first) (c.drop 4) with
    | error status =>
      rw [hfields] at hheader
      cases hheader
    | ok r =>
      rw [hfields] at hheader hlayout
      simp only [Except.map] at hheader hlayout
      split_ifs at hlayout with hend
      split_ifs at hheader with hshort hlength hpayload
      obtain rfl := Except.ok.inj hlayout
      obtain rfl := Except.ok.inj hheader
      constructor
      · rfl
      · change _ + r.1.length = _ + packetNumberLength first + (r.1.length - _)
        omega

lemma quicShortHeaderDecode_agrees {layout : PacketLayout} {header : QuicShortHeader}
    (hlayout : quicProtectedPnOffset idLength bytes = .ok layout)
    (hheader : quicShortHeaderDecode idLength bytes = .ok header) :
    Agrees layout header.headerLength header.packetNumberLength header.totalLength := by
  unfold quicShortHeaderDecode at hheader
  split_ifs at hheader with hid
  cases bytes with
  | nil => cases hlayout
  | cons first c =>
    simp only at hheader
    split_ifs at hheader with hlong hfixed hdestination hnumber
    rw [quicProtectedPnOffset, if_pos hlong, if_neg hid] at hlayout
    split_ifs at hlayout with hlength
    obtain rfl := Except.ok.inj hlayout
    obtain rfl := Except.ok.inj hheader
    rw [List.length_drop] at hnumber
    constructor
    · change 1 + idLength + packetNumberLength first = packetNumberLength first + 1 + idLength
      omega
    · change c.length + 1 = _ + (c.drop _).length
      rw [List.length_drop]
      omega

end Agreement

/-! ## What is written is read back -/

/-- A connection ID on the wire. -/
def connectionIdBytes (id : List UInt8) : List UInt8 := UInt8.ofNat id.length :: id

/-- The token of a long header on the wire. -/
def tokenBytes (type : LongType) (token : List UInt8) : List UInt8 :=
  if type = .initial then quicVarintBytes token.length ++ token else []

/-- The fields of a long header between its version and its packet number. -/
def longFieldBytes (type : LongType) (fields : LongFields) : List UInt8 :=
  connectionIdBytes fields.destinationConnectionId ++
    (connectionIdBytes fields.sourceConnectionId ++
      (tokenBytes type fields.token ++ quicVarintBytes fields.length))

/-- A long header can be written with these fields. -/
structure LongWritable (type : LongType) (fields : LongFields) (pnLength : ℕ) : Prop where
  type_ne : type ≠ .retry
  destination_le : fields.destinationConnectionId.length ≤ quicMaxConnectionIdLength
  source_le : fields.sourceConnectionId.length ≤ quicMaxConnectionIdLength
  token_le : fields.token.length ≤ quicVarintMax
  token_nil : type ≠ .initial → fields.token = []
  length_le : fields.length ≤ quicVarintMax
  pnLength_pos : 1 ≤ pnLength
  pnLength_le : pnLength ≤ 4
  pnLength_fits : pnLength ≤ fields.length

section RoundTrip

variable {w w' : Writer} {type : LongType} {version : UInt32} {keyPhase spin : Bool}
  {id destination source token payload rest c : List UInt8} {fields : LongFields}
  {packetNumber pnLength payloadLength idLength : ℕ}

lemma quicPacketNumberEncode_eq (hpos : 1 ≤ pnLength) (hle : pnLength ≤ 4) :
    quicPacketNumberEncode packetNumber pnLength = BigEndian.bytes pnLength packetNumber := by
  unfold quicPacketNumberEncode
  rw [if_neg (by omega)]

lemma quicWriteConnectionId_ok (h : (quicWriteConnectionId w id).ok = true) :
    w.ok = true ∧ (quicWriteConnectionId w id).bytes = w.bytes ++ connectionIdBytes id := by
  unfold quicWriteConnectionId at h ⊢
  obtain ⟨hlength, hid⟩ := Writer.put_ok h
  obtain ⟨hw, hbytes⟩ := Writer.put_ok hlength
  refine ⟨hw, ?_⟩
  rw [hid, hbytes, List.append_assoc]
  rfl

lemma writeToken_ok (h : (writeToken w type token).ok = true) :
    w.ok = true ∧ (type = .initial → token.length ≤ quicVarintMax) ∧
      (writeToken w type token).bytes = w.bytes ++ tokenBytes type token := by
  unfold writeToken tokenBytes at *
  by_cases hinitial : type = .initial
  · rw [if_pos hinitial] at h ⊢
    obtain ⟨hlength, htoken⟩ := Writer.put_ok h
    obtain ⟨hw, hle, hbytes⟩ := quicWriterVarint_ok hlength
    refine ⟨hw, fun _ => hle, ?_⟩
    rw [if_pos hinitial, htoken, hbytes, List.append_assoc]
  · rw [if_neg hinitial] at h ⊢
    refine ⟨h, fun hinitial' => absurd hinitial' hinitial, ?_⟩
    rw [if_neg hinitial, List.append_nil]

lemma takeConnectionId_bytes (h : id.length ≤ quicMaxConnectionIdLength) :
    takeConnectionId (connectionIdBytes id ++ rest) = .ok (id, rest) := by
  have hlength : (UInt8.ofNat id.length).toNat = id.length := by
    rw [UInt8.toNat_ofNat']
    unfold quicMaxConnectionIdLength at h
    omega
  unfold connectionIdBytes
  rw [List.cons_append, takeConnectionId, hlength, if_neg (not_lt.mpr h),
    if_neg (by rw [List.length_append]; omega), List.take_left, List.drop_left]

lemma readHeaderVarint_bytes {n : ℕ} (h : n ≤ quicVarintMax) :
    readHeaderVarint (quicVarintBytes n ++ rest) = .ok (n, rest) := by
  unfold readHeaderVarint
  rw [quicVarintDecode_bytes h]

lemma takeToken_bytes (h : token.length ≤ quicVarintMax) :
    takeToken (quicVarintBytes token.length ++ token ++ rest) = .ok (token, rest) := by
  unfold takeToken
  rw [List.append_assoc, readHeaderVarint_bytes h]
  simp only
  rw [if_neg (by rw [List.length_append]; omega), List.take_left, List.drop_left]

/-- The fields of a long header are read back from what was written for them. -/
lemma takeLongFields_bytes (h : LongWritable type fields pnLength) :
    takeLongFields type (longFieldBytes type fields ++ rest) = .ok (fields, rest) := by
  unfold takeLongFields longFieldBytes
  rw [List.append_assoc, takeConnectionId_bytes h.destination_le]
  simp only
  rw [List.append_assoc, takeConnectionId_bytes h.source_le]
  simp only
  unfold tokenBytes
  by_cases hinitial : type = .initial
  · rw [if_pos hinitial, if_pos hinitial, List.append_assoc, takeToken_bytes h.token_le]
    simp only
    rw [readHeaderVarint_bytes h.length_le]
  · rw [if_neg hinitial, if_neg hinitial, List.nil_append]
    simp only
    rw [readHeaderVarint_bytes h.length_le, ← h.token_nil hinitial]

lemma quicLongHeaderEncodePrefix_ok
    (h : quicLongHeaderEncodePrefix w type version destination source token packetNumber pnLength
      payloadLength = .ok w') :
    LongWritable type ⟨destination, source, token, pnLength + payloadLength⟩ pnLength ∧
      w'.bytes = w.bytes ++ (longFirstByte type pnLength :: (BigEndian.bytes 4 version.toNat ++
        (longFieldBytes type ⟨destination, source, token, pnLength + payloadLength⟩ ++
          BigEndian.bytes pnLength packetNumber))) := by
  unfold quicLongHeaderEncodePrefix at h
  split_ifs at h with htype hids hnumber htoken hencoded hsum hsize
  simp only at h
  split_ifs at h with hok
  obtain rfl := Except.ok.inj h
  obtain ⟨hdestination, hsource⟩ := not_or.mp hids
  obtain ⟨hpos, hle⟩ := not_or.mp hnumber
  obtain ⟨hlengthOk, hlast⟩ := Writer.put_ok hok
  obtain ⟨htokenOk, hlength, hlengthBytes⟩ := quicWriterVarint_ok hlengthOk
  obtain ⟨hsourceOk, htokenLe, htokenBytes⟩ := writeToken_ok htokenOk
  obtain ⟨hdestinationOk, hsourceBytes⟩ := quicWriteConnectionId_ok hsourceOk
  obtain ⟨hversionOk, hdestinationBytes⟩ := quicWriteConnectionId_ok hdestinationOk
  obtain ⟨hfirstOk, hversionBytes⟩ := Writer.put_ok hversionOk
  obtain ⟨-, hfirstBytes⟩ := Writer.put_ok hfirstOk
  have hnil : type ≠ .initial → token = [] := by
    intro hinitial
    by_contra hne
    exact htoken ⟨hinitial, fun hzero => hne (List.length_eq_zero_iff.mp hzero)⟩
  have htokenMax : token.length ≤ quicVarintMax := by
    by_cases hinitial : type = .initial
    · exact htokenLe hinitial
    · rw [hnil hinitial]
      exact Nat.zero_le _
  constructor
  · exact ⟨htype, not_lt.mp hdestination, not_lt.mp hsource, htokenMax, hnil, hlength,
      Nat.one_le_iff_ne_zero.mpr hpos, not_lt.mp hle, Nat.le_add_right _ _⟩
  · rw [hlast, hlengthBytes, htokenBytes, hsourceBytes, hdestinationBytes, hversionBytes,
      hfirstBytes, quicPacketNumberEncode_eq (by omega) (by omega)]
    unfold longFieldBytes
    simp only [List.append_assoc, List.cons_append, List.nil_append]

lemma quicShortHeaderEncode_ok
    (h : quicShortHeaderEncode w destination packetNumber pnLength keyPhase spin payload =
      .ok w') :
    destination.length ≤ quicMaxConnectionIdLength ∧ 1 ≤ pnLength ∧ pnLength ≤ 4 ∧
      w'.bytes = w.bytes ++ (shortFirstByte pnLength keyPhase spin :: (destination ++
        (BigEndian.bytes pnLength packetNumber ++ payload))) := by
  unfold quicShortHeaderEncode at h
  split_ifs at h with hid hnumber hencoded
  simp only at h
  split_ifs at h with hok
  obtain rfl := Except.ok.inj h
  obtain ⟨hpos, hle⟩ := not_or.mp hnumber
  obtain ⟨hnumberOk, hpayloadBytes⟩ := Writer.put_ok hok
  obtain ⟨hdestinationOk, hnumberBytes⟩ := Writer.put_ok hnumberOk
  obtain ⟨hfirstOk, hdestinationBytes⟩ := Writer.put_ok hdestinationOk
  obtain ⟨-, hfirstBytes⟩ := Writer.put_ok hfirstOk
  refine ⟨not_lt.mp hid, Nat.one_le_iff_ne_zero.mpr hpos, not_lt.mp hle, ?_⟩
  rw [hpayloadBytes, hnumberBytes, hdestinationBytes, hfirstBytes,
    quicPacketNumberEncode_eq (by omega) (by omega)]
  simp only [List.append_assoc, List.cons_append, List.nil_append]

/-- What the bits of a long header's first byte say. -/
lemma longFirstByte_bits (htype : type ≠ .retry) (hpos : 1 ≤ pnLength) (hle : pnLength ≤ 4) :
    ¬(longFirstByte type pnLength).toNat < 0x80 ∧ ¬longFirstByte type pnLength &&& 0x40 = 0 ∧
      longType (longFirstByte type pnLength) = type ∧
      packetNumberLength (longFirstByte type pnLength) = pnLength ∧
      longFirstByte type pnLength &&& 0x0c = 0 := by
  interval_cases pnLength <;> cases type <;> first | exact absurd rfl htype | decide

/-- What the bits of a short header's first byte say. -/
lemma shortFirstByte_bits (keyPhase spin : Bool) (hpos : 1 ≤ pnLength) (hle : pnLength ≤ 4) :
    (shortFirstByte pnLength keyPhase spin).toNat < 0x80 ∧
      ¬shortFirstByte pnLength keyPhase spin &&& 0x40 = 0 ∧
      packetNumberLength (shortFirstByte pnLength keyPhase spin) = pnLength ∧
      (decide (shortFirstByte pnLength keyPhase spin &&& 0x04 ≠ 0)) = keyPhase ∧
      (decide (shortFirstByte pnLength keyPhase spin &&& 0x20 ≠ 0)) = spin ∧
      shortFirstByte pnLength keyPhase spin &&& 0x18 = 0 := by
  interval_cases pnLength <;> cases keyPhase <;> cases spin <;> decide

/-- The packet number on the wire, read as a number. -/
lemma foldl_packetNumber :
    (BigEndian.bytes pnLength packetNumber).foldl BigEndian.push 0 =
      packetNumber % quicPacketNumberWindow pnLength := by
  rw [BigEndian.foldl_push_bytes, zero_mul, zero_add]
  unfold quicPacketNumberWindow
  rw [pow_mul]
  norm_num

lemma headerVersion_bytes {first : UInt8} :
    headerVersion (first :: (BigEndian.bytes 4 version.toNat ++ rest)) = version.toNat := by
  have hfit : version.toNat < 256 ^ 4 := version.toNat_lt
  have hlength : (BigEndian.bytes 4 version.toNat).length = 4 := BigEndian.length_bytes _ _
  unfold headerVersion
  rw [List.drop_succ_cons, List.drop_zero, List.take_left' hlength, BigEndian.foldl_push_bytes,
    zero_mul, zero_add, Nat.mod_eq_of_lt hfit]

/-- A long header on the wire. -/
def longHeaderBytes (type : LongType) (version : UInt32) (fields : LongFields)
    (packetNumber pnLength : ℕ) : List UInt8 :=
  longFirstByte type pnLength :: (BigEndian.bytes 4 version.toNat ++
    (longFieldBytes type fields ++ BigEndian.bytes pnLength packetNumber))

/-- A long header and the payload it announces are read back. -/
lemma quicLongHeaderDecode_bytes (h : LongWritable type fields pnLength)
    (hpayload : pnLength + payload.length = fields.length) :
    quicLongHeaderDecode (longHeaderBytes type version fields packetNumber pnLength ++ payload) =
      .ok
        { type := type
          version := version.toNat
          destinationConnectionId := fields.destinationConnectionId
          sourceConnectionId := fields.sourceConnectionId
          token := fields.token
          packetNumber := packetNumber % quicPacketNumberWindow pnLength
          packetNumberLength := pnLength
          payload := payload
          headerLength := (longHeaderBytes type version fields packetNumber pnLength).length
          totalLength :=
            (longHeaderBytes type version fields packetNumber pnLength).length + payload.length
          reservedBitsSet := false } := by
  obtain ⟨hlong, hfixed, htype, hnumber, hreserved⟩ :=
    longFirstByte_bits h.type_ne h.pnLength_pos h.pnLength_le
  have hversion : (BigEndian.bytes 4 version.toNat).length = 4 := BigEndian.length_bytes _ _
  have hbytes : longHeaderBytes type version fields packetNumber pnLength ++ payload =
      longFirstByte type pnLength :: (BigEndian.bytes 4 version.toNat ++
        (longFieldBytes type fields ++ (BigEndian.bytes pnLength packetNumber ++ payload))) := by
    simp only [longHeaderBytes, List.cons_append, List.append_assoc]
  have hheader : (longHeaderBytes type version fields packetNumber pnLength).length =
      1 + 4 + (longFieldBytes type fields).length + pnLength := by
    simp only [longHeaderBytes, List.length_cons, List.length_append, BigEndian.length_bytes]
    omega
  have hdrop : (BigEndian.bytes pnLength packetNumber ++ payload).drop pnLength = payload :=
    List.drop_left' (BigEndian.length_bytes _ _)
  have htake : (BigEndian.bytes pnLength packetNumber ++ payload).take pnLength =
      BigEndian.bytes pnLength packetNumber := List.take_left' (BigEndian.length_bytes _ _)
  have hrest : fields.length - pnLength = payload.length := by omega
  rw [hbytes, quicLongHeaderDecode, if_neg hlong, if_neg hfixed, htype, if_neg h.type_ne,
    if_neg (by rw [List.length_append]; omega), List.drop_left' hversion, takeLongFields_bytes h]
  simp only
  rw [hnumber, if_neg (by rw [List.length_append, BigEndian.length_bytes]; omega),
    if_neg (not_lt.mpr h.pnLength_fits),
    if_neg (by rw [List.length_append, BigEndian.length_bytes]; omega), headerVersion_bytes, hdrop,
    htake, hrest, List.take_length, foldl_packetNumber, hreserved, hheader]
  have hlength : (longFirstByte type pnLength :: (BigEndian.bytes 4 version.toNat ++
      (longFieldBytes type fields ++ (BigEndian.bytes pnLength packetNumber ++ payload)))).length -
        (BigEndian.bytes pnLength packetNumber ++ payload).length + pnLength =
      1 + 4 + (longFieldBytes type fields).length + pnLength := by
    simp only [List.length_cons, List.length_append, BigEndian.length_bytes]
    omega
  rw [hlength]
  rfl

/-- A short header on the wire. -/
def shortHeaderBytes (destination : List UInt8) (packetNumber pnLength : ℕ)
    (keyPhase spin : Bool) : List UInt8 :=
  shortFirstByte pnLength keyPhase spin :: (destination ++ BigEndian.bytes pnLength packetNumber)

/-- A short header and the payload behind it are read back. -/
lemma quicShortHeaderDecode_bytes (hid : destination.length ≤ quicMaxConnectionIdLength)
    (hpos : 1 ≤ pnLength) (hle : pnLength ≤ 4) :
    quicShortHeaderDecode destination.length
        (shortHeaderBytes destination packetNumber pnLength keyPhase spin ++ payload) =
      .ok
        { keyPhase := keyPhase
          spin := spin
          reservedBitsSet := false
          destinationConnectionId := destination
          packetNumber := packetNumber % quicPacketNumberWindow pnLength
          packetNumberLength := pnLength
          payload := payload
          headerLength :=
            (shortHeaderBytes destination packetNumber pnLength keyPhase spin).length
          totalLength :=
            (shortHeaderBytes destination packetNumber pnLength keyPhase spin).length +
              payload.length } := by
  obtain ⟨hshort, hfixed, hnumber, hphase, hspin, hreserved⟩ :=
    shortFirstByte_bits keyPhase spin hpos hle
  have hbytes : shortHeaderBytes destination packetNumber pnLength keyPhase spin ++ payload =
      shortFirstByte pnLength keyPhase spin ::
        (destination ++ (BigEndian.bytes pnLength packetNumber ++ payload)) := by
    simp only [shortHeaderBytes, List.cons_append, List.append_assoc]
  have hheader : (shortHeaderBytes destination packetNumber pnLength keyPhase spin).length =
      pnLength + 1 + destination.length := by
    simp only [shortHeaderBytes, List.length_cons, List.length_append, BigEndian.length_bytes]
    omega
  have hdrop : (BigEndian.bytes pnLength packetNumber ++ payload).drop pnLength = payload :=
    List.drop_left' (BigEndian.length_bytes _ _)
  have htake : (BigEndian.bytes pnLength packetNumber ++ payload).take pnLength =
      BigEndian.bytes pnLength packetNumber := List.take_left' (BigEndian.length_bytes _ _)
  unfold quicShortHeaderDecode
  rw [if_neg (not_lt.mpr hid), hbytes]
  simp only
  rw [if_neg (not_not.mpr hshort), if_neg hfixed, if_neg (by rw [List.length_append]; omega),
    ← List.drop_drop, List.drop_left, List.take_left, hnumber,
    if_neg (by rw [List.length_append, BigEndian.length_bytes]; omega), hdrop, htake,
    foldl_packetNumber, hphase, hspin, hreserved, hheader]
  rfl

/-- The layout walk finds the packet number of a long header whose mask is still on. -/
lemma quicProtectedPnOffset_longHeader (idLength : ℕ) (rest : List UInt8) {first : UInt8}
    (h : LongWritable type fields pnLength)
    (hfirst : first.toNat / 2 ^ 4 = (longFirstByte type pnLength).toNat / 2 ^ 4)
    (hversion : version ≠ 0) (hlength : c.length = fields.length) :
    quicProtectedPnOffset idLength (first :: (BigEndian.bytes 4 version.toNat ++
        (longFieldBytes type fields ++ (c ++ rest)))) =
      .ok ⟨1 + 4 + (longFieldBytes type fields).length,
        1 + 4 + (longFieldBytes type fields).length + c.length, false⟩ := by
  obtain ⟨hlong, -, htype, -⟩ := longFirstByte_bits h.type_ne h.pnLength_pos h.pnLength_le
  have hbytes : (BigEndian.bytes 4 version.toNat).length = 4 := BigEndian.length_bytes _ _
  have hlongMasked : ¬first.toNat < 0x80 := by omega
  have htypeMasked : longType first = type := by
    rw [← htype]
    unfold longType
    rw [show first.toNat / 16 = (longFirstByte type pnLength).toNat / 16 from hfirst]
  have hversionNat : version.toNat ≠ 0 := fun hzero => hversion (UInt32.toNat_inj.mp hzero)
  rw [quicProtectedPnOffset, if_neg hlongMasked, if_neg (by rw [List.length_append]; omega),
    if_neg (by rw [headerVersion_bytes]; exact hversionNat), htypeMasked, if_neg h.type_ne,
    List.drop_left' hbytes, readLongFields_eq, takeLongFields_bytes h]
  simp only [Except.map]
  rw [if_neg (by rw [List.length_append]; omega), ← hlength]
  have hoffset : (first :: (BigEndian.bytes 4 version.toNat ++
      (longFieldBytes type fields ++ (c ++ rest)))).length - (c ++ rest).length =
        1 + 4 + (longFieldBytes type fields).length := by
    simp only [List.length_cons, List.length_append, hbytes]
    omega
  rw [hoffset]

/-- The layout walk gives a short header the whole of what is left. -/
lemma quicProtectedPnOffset_shortHeader {first : UInt8}
    (hid : destination.length ≤ quicMaxConnectionIdLength) (hshort : first.toNat < 0x80)
    (hlength : 0 < c.length) :
    quicProtectedPnOffset destination.length (first :: (destination ++ c)) =
      .ok ⟨1 + destination.length, 1 + destination.length + c.length, true⟩ := by
  have htotal : (first :: (destination ++ c)).length = 1 + destination.length + c.length := by
    simp only [List.length_cons, List.length_append]
    omega
  rw [quicProtectedPnOffset, if_pos hshort, if_neg (not_lt.mpr hid), htotal, if_neg (by omega)]

/-- A packet number is in the truncation window of a receiver: its distance from the number the
receiver expects next is not above half of the window. -/
def InWindow (packetNumber pnLength largest : ℕ) : Prop :=
  largest + 1 < packetNumber + quicPacketNumberWindow pnLength / 2 ∧
    packetNumber ≤ largest + 1 + quicPacketNumberWindow pnLength / 2

instance {packetNumber pnLength largest : ℕ} : Decidable (InWindow packetNumber pnLength largest) :=
  inferInstanceAs (Decidable (_ ∧ _))

/-- A truncated number of the window is completed to the number it was. -/
lemma quicPacketNumberDecode_truncated {largest : ℕ} (hpos : 1 ≤ pnLength) (hle : pnLength ≤ 4)
    (hmax : packetNumber < 2 ^ 62) (hwindow : InWindow packetNumber pnLength largest) :
    quicPacketNumberDecode (packetNumber % quicPacketNumberWindow pnLength) pnLength largest =
      packetNumber := by
  obtain ⟨hlow, hhigh⟩ := hwindow
  have hlargest : largest + 1 < 2 ^ 62 + 2 ^ 31 := by
    have hhalf : quicPacketNumberWindow pnLength / 2 ≤ 2 ^ 31 := by
      unfold quicPacketNumberWindow
      interval_cases pnLength <;> norm_num
    omega
  unfold quicPacketNumberDecode
  rw [if_neg (by omega), u64Add_of_lt (by omega)]
  unfold quicPacketNumberWindow at *
  simp only
  interval_cases pnLength <;> norm_num at * <;> unfold u64Add <;> split_ifs <;> omega

end RoundTrip

end WebTransport
