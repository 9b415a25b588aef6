import WebTransport.Quic.PacketHeader
import WebTransport.Quic.RetryToken

/-!
# Retry packets

The codec of a Retry packet (`quic/packet.c`, `quic/packet_encode.c`), its integrity tag
(`quic/protection.c`), and what a server reads of an Initial packet that it has only the front of.
The tag covers the packet without the tag, behind the connection ID that the client's first packet
was for.
-/

namespace WebTransport

open BigEndian (bytes)

/-! ## The front of an Initial packet -/

/-- A connection ID of a header that is peeked at; every failure is a truncation. -/
def peekConnectionId (c : List UInt8) : Except Status (List UInt8 × List UInt8) :=
  (takeConnectionId c).mapError fun _ => .truncated

/-- The destination and the source ID of a long header (`wt_quic_long_header_connection_ids`). -/
def quicLongHeaderConnectionIds : List UInt8 → Except Status (List UInt8 × List UInt8)
  | [] => .error .truncated
  | first :: c =>
    if first.toNat < 0x80 then .error .protocol
    else if first &&& 0x40 = 0 then .error .protocol
    else if c.length < 4 then .error .truncated
    else do
      let (destination, c) ← peekConnectionId (c.drop 4)
      let (source, _) ← peekConnectionId c
      return (destination, source)

/-- The token of an Initial packet (`wt_quic_initial_token`). -/
def quicInitialToken : List UInt8 → Except Status (List UInt8)
  | [] => .error .truncated
  | first :: c =>
    if first.toNat < 0x80 ∨ first &&& 0x40 = 0 then .error .protocol
    else if longType first ≠ .initial then .error .protocol
    else if c.length < 4 then .error .truncated
    -- The type bits of a Version Negotiation packet are arbitrary.
    else if headerVersion (first :: c) = 0 then .error .protocol
    else do
      let (_, c) ← peekConnectionId (c.drop 4)
      let (_, c) ← peekConnectionId c
      let (length, c) ← readHeaderVarint c
      if length = 0 then return []
      else if c.length < length then .error .truncated
      else return c.take length

/-! ## The packet -/

/-- `WT_QUIC_RETRY_INTEGRITY_TAG_LEN`. -/
def quicRetryIntegrityTagLen : ℕ := 16

/-- `WT_QUIC_VERSION_1`. -/
def quicVersion1 : UInt32 := 1

/-- A decoded Retry packet (`wt_quic_retry_packet_t`). -/
structure QuicRetryPacket extends RetryPacket where
  destinationConnectionId : List UInt8
  integrityTag : List UInt8
  headerLength : ℕ
  totalLength : ℕ

/-- `wt_quic_retry_packet_decode`. The token is what is left between the header and the tag. -/
def quicRetryPacketDecode : List UInt8 → Except Status QuicRetryPacket
  | [] => .error .truncated
  | first :: c =>
    if (first :: c).length < 1 + 4 + 1 + 1 + quicRetryIntegrityTagLen then .error .truncated
    else if first.toNat < 0x80 ∨ first &&& 0x40 = 0 then .error .protocol
    else if longType first ≠ .retry then .error .protocol
    else do
      let (destination, rest) ← takeConnectionId (c.drop 4)
      let (source, rest) ← takeConnectionId rest
      if rest.length < quicRetryIntegrityTagLen then .error .truncated
      else
        return {
          version := headerVersion (first :: c)
          sourceConnectionId := source
          token := rest.take (rest.length - quicRetryIntegrityTagLen)
          destinationConnectionId := destination
          integrityTag := rest.drop (rest.length - quicRetryIntegrityTagLen)
          headerLength := (first :: c).length - rest.length
          totalLength := (first :: c).length }

/-- The first byte of a Retry packet; the bits that are not used are zero. -/
def retryFirstByte : UInt8 := UInt8.ofNat (0x80 ||| 0x40 ||| LongType.retry.bits <<< 4)

/-- `wt_quic_retry_packet_encode`. -/
def quicRetryPacketEncode (w : Writer) (version : UInt32)
    (destination source token integrityTag : List UInt8) : Except Status Writer :=
  if quicMaxConnectionIdLength < destination.length ∨
      quicMaxConnectionIdLength < source.length then .error .invalidArgument
  else if source.length = 0 then .error .invalidArgument
  else
    let w := w.put [retryFirstByte]
    let w := w.put (bytes 4 version.toNat)
    let w := quicWriteConnectionId w destination
    let w := quicWriteConnectionId w source
    let w := w.put token
    let w := w.put integrityTag
    if w.ok then .ok w else .error .limit

/-! ## The integrity tag -/

variable (crypto : RetryCrypto)

/-- `WT_QUIC_RETRY_PSEUDO_MAX`. -/
def quicRetryPseudoMax : ℕ := 1 + 20 + 1500

/-- `wt_quic_retry_integrity_tag`. -/
def quicRetryIntegrityTag (original packet : List UInt8) : Except Status (List UInt8) :=
  if 20 < original.length then .error .limit
  else if quicRetryPseudoMax - 1 - original.length < packet.length then .error .limit
  else .ok (crypto.sealEmpty (UInt8.ofNat original.length :: (original ++ packet)))

/-- `wt_quic_retry_integrity_verify`. -/
def quicRetryIntegrityVerify (original packet : List UInt8) : Except Status Unit :=
  let length := packet.length - quicRetryIntegrityTagLen
  if packet.length < quicRetryIntegrityTagLen then .error .truncated
  else do
    let expected ← quicRetryIntegrityTag crypto original (packet.take length)
    if expected ≠ packet.drop length then .error .authentication else return ()

/-- A packet layer that reads Retry packets as the code does. -/
def PacketLayer.withRetry (layer : PacketLayer) : PacketLayer :=
  { layer with
    retryDecode := fun packet => (quicRetryPacketDecode packet).toOption.map (·.toRetryPacket)
    retryVerify := fun original packet => (quicRetryIntegrityVerify crypto original packet).isOk }

/-! ## What is written is read -/

section RoundTrip

variable {version : UInt32} {destination source token tag original : List UInt8} {capacity : ℕ}

/-- A Retry packet in front of its tag. -/
def retryPacketFront (version : UInt32) (destination source token : List UInt8) : List UInt8 :=
  retryFirstByte :: (bytes 4 version.toNat ++
    (connectionIdBytes destination ++ (connectionIdBytes source ++ token)))

/-- The IDs of a Retry packet can be written. -/
structure RetryWritable (destination source : List UInt8) : Prop where
  destination_le : destination.length ≤ quicMaxConnectionIdLength
  source_le : source.length ≤ quicMaxConnectionIdLength
  source_ne : source ≠ []

lemma quicRetryPacketEncode_eq (h : RetryWritable destination source)
    (hroom : (retryPacketFront version destination source token ++ tag).length ≤ capacity) :
    ∃ w, quicRetryPacketEncode (writerInit capacity) version destination source token tag = .ok w ∧
      w.bytes = retryPacketFront version destination source token ++ tag := by
  let w := (writerInit capacity).putAll [[retryFirstByte], bytes 4 version.toNat,
    [UInt8.ofNat destination.length], destination, [UInt8.ofNat source.length], source, token, tag]
  have hflat : [[retryFirstByte], bytes 4 version.toNat, [UInt8.ofNat destination.length],
      destination, [UInt8.ofNat source.length], source, token, tag].flatten =
      retryPacketFront version destination source token ++ tag := by
    simp [retryPacketFront, connectionIdBytes]
  have hok : w.ok = true := by
    refine (Writer.putAll_ok_iff _ rfl).mpr ?_
    rw [hflat]
    exact (Nat.zero_add _).symm ▸ hroom
  have hpos := List.length_pos_iff.mpr h.source_ne
  refine ⟨w, ?_, ?_⟩
  · rw [quicRetryPacketEncode, if_neg (by
      have hdestination := h.destination_le
      have hsource := h.source_le
      omega), if_neg (by omega)]
    exact if_pos hok
  · rw [(Writer.putAll_ok hok).2, hflat]
    rfl

lemma quicRetryPacketDecode_bytes (h : RetryWritable destination source)
    (htag : tag.length = quicRetryIntegrityTagLen) :
    quicRetryPacketDecode (retryPacketFront version destination source token ++ tag) = .ok {
      version := version.toNat
      sourceConnectionId := source
      token := token
      destinationConnectionId := destination
      integrityTag := tag
      headerLength := (retryPacketFront version destination source []).length
      totalLength := (retryPacketFront version destination source token ++ tag).length } := by
  have hshape : retryPacketFront version destination source token ++ tag =
      retryFirstByte :: (bytes 4 version.toNat ++ (connectionIdBytes destination ++
        (connectionIdBytes source ++ (token ++ tag)))) := by
    simp [retryPacketFront]
  have hlong : ¬(retryFirstByte :: (bytes 4 version.toNat ++ (connectionIdBytes destination ++
      (connectionIdBytes source ++ (token ++ tag))))).length <
        1 + 4 + 1 + 1 + quicRetryIntegrityTagLen := by
    simp only [List.length_cons, List.length_append, BigEndian.length_bytes, connectionIdBytes,
      htag]
    omega
  have hfirst : ¬(retryFirstByte.toNat < 0x80 ∨ retryFirstByte &&& 0x40 = 0) := by decide
  have htype : ¬longType retryFirstByte ≠ .retry := by decide
  have hdrop : (bytes 4 version.toNat ++ (connectionIdBytes destination ++
      (connectionIdBytes source ++ (token ++ tag)))).drop 4 =
        connectionIdBytes destination ++ (connectionIdBytes source ++ (token ++ tag)) :=
    List.drop_left' (BigEndian.length_bytes _ _)
  have hcut : (token ++ tag).length - quicRetryIntegrityTagLen = token.length := by
    rw [List.length_append, htag, Nat.add_sub_cancel]
  rw [hshape, quicRetryPacketDecode, if_neg hlong, if_neg hfirst, if_neg htype, hdrop,
    takeConnectionId_bytes h.destination_le]
  dsimp only [bind, Except.bind]
  rw [takeConnectionId_bytes h.source_le]
  dsimp only
  rw [if_neg (by rw [List.length_append, htag]; omega), headerVersion_bytes, hcut, List.take_left,
    List.drop_left, ← hshape]
  have hheader : (retryPacketFront version destination source token ++ tag).length -
      (token ++ tag).length = (retryPacketFront version destination source []).length := by
    simp only [retryPacketFront, List.length_append, List.length_cons, List.append_nil]
    omega
  rw [hheader]
  rfl

/-- The packet that carries its own tag is verified with the ID that the tag is for. -/
lemma quicRetryIntegrityVerify_tag {front : List UInt8}
    (htag : quicRetryIntegrityTag crypto original front = .ok tag) :
    quicRetryIntegrityVerify crypto original (front ++ tag) = .ok () := by
  have hsealed : tag = crypto.sealEmpty (UInt8.ofNat original.length :: (original ++ front)) := by
    obtain ⟨-, h₁⟩ := Guard.of_ok htag
    obtain ⟨-, h₂⟩ := Guard.of_ok h₁
    exact (Except.ok.inj h₂).symm
  have hlen : tag.length = quicRetryIntegrityTagLen := by
    rw [hsealed]
    exact crypto.sealEmpty_length _
  have hcut : (front ++ tag).length - quicRetryIntegrityTagLen = front.length := by
    rw [List.length_append, hlen, Nat.add_sub_cancel]
  rw [quicRetryIntegrityVerify, if_neg (by rw [List.length_append, hlen]; omega), hcut,
    List.take_left, List.drop_left, htag]
  exact if_neg (not_not.mpr rfl)

end RoundTrip

end WebTransport
