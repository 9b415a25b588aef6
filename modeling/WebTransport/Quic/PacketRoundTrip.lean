import WebTransport.Quic.PacketProtection
import WebTransport.Quic.PacketsOnce

/-!
# What is built is read back

A packet that was built is read back by a receiver with the same keys, whatever follows it in the
datagram when its header is long. The layout walk, which comes before the mask is off, and the
decoders, which come after, agree about where the packet number starts and where the packet ends.
-/

namespace WebTransport

section RoundTrip

variable {b : CryptoBackend} {params : PacketParams} {capacity cipherLength : ℕ}
  {keys : PacketKeys} {header plain sealedFrames packet : List UInt8}
  {packetNumber idLength largest : ℕ}

lemma quicProtectFrames_ok {expanded : ExpandedKeys}
    (h : b.quicProtectFrames expanded packetNumber header plain capacity = .ok sealedFrames) :
    ∃ cipher tag, b.aeadSeal expanded.aead expanded.key
      (quicPacketNonce expanded.iv packetNumber) header plain = .ok (cipher, tag) ∧
        sealedFrames = cipher ++ tag := by
  unfold CryptoBackend.quicProtectFrames at h
  split_ifs at h
  split at h
  · cases h
  rename_i cipher tag hseal
  exact ⟨cipher, tag, hseal, (Except.ok.inj h).symm⟩

lemma quicPacketBuild_ok (h : b.quicPacketBuild params capacity = .ok packet) :
    ∃ w cipher tag, 1 ≤ params.packetNumberLength ∧ params.packetNumberLength ≤ 4 ∧
      buildHeader params capacity
        ((paddedPayload params.payload params.packetNumberLength).length + aeadTagLength) = .ok w ∧
      b.aeadSeal (b.expand params.keys).aead (b.expand params.keys).key
        (quicPacketNonce (b.expand params.keys).iv params.packetNumber) w.bytes
          (paddedPayload params.payload params.packetNumberLength) = .ok (cipher, tag) ∧
      b.quicProtectHeader (b.expand params.keys) (w.bytes ++ (cipher ++ tag))
        (w.bytes.length - params.packetNumberLength) params.packetNumberLength = .ok packet := by
  unfold CryptoBackend.quicPacketBuild at h
  simp only at h
  split_ifs at h with hnumber hsize hcapacity
  obtain ⟨hpos, hle⟩ := not_or.mp hnumber
  split at h
  · cases h
  rename_i w hheader
  split_ifs at h with hroom
  split at h
  · cases h
  rename_i sealedFrames hframes
  obtain ⟨cipher, tag, hseal, rfl⟩ := quicProtectFrames_ok hframes
  exact ⟨w, cipher, tag, Nat.one_le_iff_ne_zero.mpr hpos, not_lt.mp hle, hheader, hseal, h⟩

/-- The plaintext is the payload and then only zeros. -/
lemma paddedPayload_eq (payload : List UInt8) (n : ℕ) :
    ∃ zeros, paddedPayload payload n = payload ++ List.replicate zeros 0 := by
  unfold paddedPayload
  split_ifs
  · exact ⟨_, rfl⟩
  · exact ⟨0, (List.append_nil payload).symm⟩

/-- What was sealed behind a header opens when the header decodes to what it was. -/
lemma quicPacketOpen_sealed (hlawful : b.Lawful) (largest : ℕ) {cipher tag : List UInt8}
    {decoded : OpenedPacket}
    (hseal : b.aeadSeal (b.expand keys).aead (b.expand keys).key
      (quicPacketNonce (b.expand keys).iv packetNumber) header plain = .ok (cipher, tag))
    (hdecode : decodeHeader idLength (header ++ (cipher ++ tag)) = .ok (decoded, false))
    (hheader : decoded.headerLength = header.length) (hpayload : decoded.payload = cipher ++ tag)
    (hnumber : quicPacketNumberDecode decoded.packetNumber decoded.packetNumberLength largest =
      packetNumber) :
    b.quicPacketOpen keys idLength largest (header ++ (cipher ++ tag))
        (header ++ (cipher ++ tag)).length =
      .ok { decoded with
        packetNumber := packetNumber
        totalLength := (header ++ (cipher ++ tag)).length
        payload := plain } := by
  obtain ⟨-, htag⟩ := hlawful.seal_length hseal
  have hcipher : (cipher ++ tag).length - aeadTagLength = cipher.length := by
    rw [List.length_append, htag, Nat.add_sub_cancel]
  unfold CryptoBackend.quicPacketOpen
  rw [List.take_length, hdecode]
  simp only
  rw [hpayload, hheader, hnumber, if_neg (by rw [List.length_append]; omega), hcipher,
    List.take_left, List.take_left, List.drop_left]
  unfold CryptoBackend.quicUnprotectFrames
  rw [hlawful.open_seal hseal]
  simp only
  rw [if_neg (by decide)]

/-- A receiver that can take a packet back: it knows the length of the connection ID that it
issued, a packet with a short header is the last of its datagram, the version is not the one of
Version Negotiation, and the number is one of QUIC and in the receiver's window. -/
structure Receivable (params : PacketParams) (rest : List UInt8) (idLength largest : ℕ) :
    Prop where
  number_lt : params.packetNumber < 2 ^ 62
  window : InWindow params.packetNumber params.packetNumberLength largest
  version_ne : params.shortHeader = false → params.version ≠ 0
  id_length : params.shortHeader = true → idLength = params.destinationConnectionId.length
  last : params.shortHeader = true → rest = []

/-- What was read is what was built. The payload may have zeros behind it; the type and the version
are on the wire in a long header, the key phase in a short one. -/
structure Recovers (params : PacketParams) (packet : List UInt8) (received : OpenedPacket) :
    Prop where
  shortHeader : received.shortHeader = params.shortHeader
  destination : received.destinationConnectionId = params.destinationConnectionId
  source : received.sourceConnectionId = params.sourceConnectionId
  packetNumber : received.packetNumber = params.packetNumber
  packetNumberLength : received.packetNumberLength = params.packetNumberLength
  payload : ∃ zeros, received.payload = params.payload ++ List.replicate zeros 0
  totalLength : received.totalLength = packet.length
  type : params.shortHeader = false → received.type = params.type
  version : params.shortHeader = false → received.version = params.version.toNat
  keyPhase : params.shortHeader = true → received.keyPhase = params.keyPhase

lemma decodeHeader_long (idLength : ℕ) {type : LongType} {version : UInt32} {fields : LongFields} {n : ℕ}
    {payload : List UInt8} (h : LongWritable type fields n)
    (hpayload : n + payload.length = fields.length) :
    decodeHeader idLength (longHeaderBytes type version fields packetNumber n ++ payload) =
      .ok
        ({ shortHeader := false
           destinationConnectionId := fields.destinationConnectionId
           sourceConnectionId := fields.sourceConnectionId
           packetNumber := packetNumber % quicPacketNumberWindow n
           totalLength :=
             (longHeaderBytes type version fields packetNumber n).length + payload.length
           payload := payload
           type := type
           version := version.toNat
           packetNumberLength := n
           headerLength := (longHeaderBytes type version fields packetNumber n).length
           keyPhase := false }, false) := by
  obtain ⟨hlong, -⟩ := longFirstByte_bits h.type_ne h.pnLength_pos h.pnLength_le
  have hform : ¬((longHeaderBytes type version fields packetNumber n ++ payload).headD 0).toNat <
      0x80 := hlong
  unfold decodeHeader
  rw [if_neg hform, quicLongHeaderDecode_bytes h hpayload]

lemma decodeHeader_short {destination payload : List UInt8} {n : ℕ} {keyPhase : Bool}
    (hid : destination.length ≤ quicMaxConnectionIdLength) (hpos : 1 ≤ n) (hle : n ≤ 4) :
    decodeHeader destination.length
        (shortHeaderBytes destination packetNumber n keyPhase false ++ payload) =
      .ok
        ({ shortHeader := true
           destinationConnectionId := destination
           sourceConnectionId := []
           packetNumber := packetNumber % quicPacketNumberWindow n
           totalLength :=
             (shortHeaderBytes destination packetNumber n keyPhase false).length + payload.length
           payload := payload
           type := .initial
           version := 0
           packetNumberLength := n
           headerLength := (shortHeaderBytes destination packetNumber n keyPhase false).length
           keyPhase := keyPhase }, false) := by
  obtain ⟨hshort, -⟩ := shortFirstByte_bits keyPhase false hpos hle
  have hform : ((shortHeaderBytes destination packetNumber n keyPhase false ++ payload).headD
      0).toNat < 0x80 := hshort
  unfold decodeHeader
  rw [if_pos hform, quicShortHeaderDecode_bytes hid hpos hle]

/-- A packet with a long header as it was built: its fields, what is sealed behind them, and its
first byte and its packet number under the mask. -/
structure LongBuilt (b : CryptoBackend) (params : PacketParams) (packet : List UInt8)
    (fields : LongFields) (sealedFrames : List UInt8 × List UInt8) (first : UInt8)
    (number : List UInt8) : Prop where
  destination : fields.destinationConnectionId = params.destinationConnectionId
  source : fields.sourceConnectionId = params.sourceConnectionId
  writable : LongWritable params.type fields params.packetNumberLength
  covers : params.packetNumberLength + (sealedFrames.1 ++ sealedFrames.2).length = fields.length
  seals : b.aeadSeal (b.expand params.keys).aead (b.expand params.keys).key
    (quicPacketNonce (b.expand params.keys).iv params.packetNumber)
    (longHeaderBytes params.type params.version fields params.packetNumber
      params.packetNumberLength)
    (paddedPayload params.payload params.packetNumberLength) = .ok sealedFrames
  high_bits : first.toNat / 2 ^ 4 =
    (longFirstByte params.type params.packetNumberLength).toNat / 2 ^ 4
  number_length : number.length = params.packetNumberLength
  packet_eq : packet = first :: (BigEndian.bytes 4 params.version.toNat ++
    (longFieldBytes params.type fields ++ (number ++ (sealedFrames.1 ++ sealedFrames.2))))
  unmask : b.quicUnprotectHeader params.keys packet
    (1 + 4 + (longFieldBytes params.type fields).length) =
      .ok (longHeaderBytes params.type params.version fields params.packetNumber
        params.packetNumberLength ++ (sealedFrames.1 ++ sealedFrames.2), params.packetNumberLength)

/-- A packet with a short header as it was built. -/
structure ShortBuilt (b : CryptoBackend) (params : PacketParams) (packet : List UInt8)
    (sealedFrames : List UInt8 × List UInt8) (first : UInt8) (number : List UInt8) : Prop where
  destination_le : params.destinationConnectionId.length ≤ quicMaxConnectionIdLength
  source_nil : params.sourceConnectionId = []
  number_pos : 1 ≤ params.packetNumberLength
  number_le : params.packetNumberLength ≤ 4
  seals : b.aeadSeal (b.expand params.keys).aead (b.expand params.keys).key
    (quicPacketNonce (b.expand params.keys).iv params.packetNumber)
    (shortHeaderBytes params.destinationConnectionId params.packetNumber
      params.packetNumberLength params.keyPhase false)
    (paddedPayload params.payload params.packetNumberLength) = .ok sealedFrames
  short : first.toNat < 0x80
  number_length : number.length = params.packetNumberLength
  packet_eq : packet = first :: (params.destinationConnectionId ++
    (number ++ (sealedFrames.1 ++ sealedFrames.2)))
  unmask : b.quicUnprotectHeader params.keys packet
    (1 + params.destinationConnectionId.length) =
      .ok (shortHeaderBytes params.destinationConnectionId params.packetNumber
        params.packetNumberLength params.keyPhase false ++ (sealedFrames.1 ++ sealedFrames.2),
        params.packetNumberLength)

/-- What a build of a packet with a long header gives. -/
lemma quicPacketBuild_long (hlawful : b.Lawful)
    (hbuild : b.quicPacketBuild params capacity = .ok packet)
    (hlong : params.shortHeader = false) :
    ∃ fields sealedFrames first number,
      LongBuilt b params packet fields sealedFrames first number := by
  obtain ⟨w, cipher, tag, hpos, hle, hheader, hseal, hprotect⟩ := quicPacketBuild_ok hbuild
  obtain ⟨hcipher, htag⟩ := hlawful.seal_length hseal
  unfold buildHeader at hheader
  rw [if_neg (by rw [hlong]; decide)] at hheader
  obtain ⟨hwritable, hwritten⟩ := quicLongHeaderEncodePrefix_ok hheader
  generalize hfields : LongFields.mk params.destinationConnectionId params.sourceConnectionId
    params.token _ = fields at hwritable hwritten
  have hbytes : w.bytes = longHeaderBytes params.type params.version fields params.packetNumber
      params.packetNumberLength := hwritten
  obtain ⟨hhigh, -, -, hnumberLength, -⟩ := longFirstByte_bits hwritable.type_ne hpos hle
  have hfour : (BigEndian.bytes 4 params.version.toNat).length = 4 := BigEndian.length_bytes _ _
  have hnumber : (BigEndian.bytes params.packetNumberLength params.packetNumber).length =
      params.packetNumberLength := BigEndian.length_bytes _ _
  have hfront : (BigEndian.bytes 4 params.version.toNat ++
      longFieldBytes params.type fields).length =
        4 + (longFieldBytes params.type fields).length := by
    rw [List.length_append, hfour]
  have hsplit : w.bytes ++ (cipher ++ tag) = longFirstByte params.type params.packetNumberLength ::
      ((BigEndian.bytes 4 params.version.toNat ++ longFieldBytes params.type fields) ++
        (BigEndian.bytes params.packetNumberLength params.packetNumber ++ (cipher ++ tag))) := by
    rw [hbytes]
    simp only [longHeaderBytes, List.cons_append, List.append_assoc]
  have hoffset : w.bytes.length - params.packetNumberLength =
      1 + (BigEndian.bytes 4 params.version.toNat ++ longFieldBytes params.type fields).length := by
    rw [hbytes, hfront]
    simp only [longHeaderBytes, List.length_cons, List.length_append, hfour, hnumber]
    omega
  rw [hsplit, hoffset] at hprotect
  obtain ⟨mask, number, hpacket, hmasked, hunmask⟩ :=
    quicUnprotectHeader_protect hlawful hnumber hnumberLength hprotect
  rw [← hsplit, hbytes, hfront, ← Nat.add_assoc] at hunmask
  refine ⟨fields, (cipher, tag), longFirstByte params.type params.packetNumberLength ^^^
    firstByteMask (longFirstByte params.type params.packetNumberLength) mask, number, ?_⟩
  exact
    { destination := by rw [← hfields]
      source := by rw [← hfields]
      writable := hwritable
      covers := by rw [← hfields, List.length_append, hcipher, htag]
      seals := by rw [← hbytes]; exact hseal
      high_bits := toNat_firstByteMask_long mask hhigh
      number_length := hmasked
      packet_eq := by rw [hpacket, List.append_assoc]
      unmask := hunmask }

/-- What a build of a packet with a short header gives. -/
lemma quicPacketBuild_short (hlawful : b.Lawful)
    (hbuild : b.quicPacketBuild params capacity = .ok packet)
    (hshort : params.shortHeader = true) :
    ∃ sealedFrames first number, ShortBuilt b params packet sealedFrames first number := by
  obtain ⟨w, cipher, tag, hpos, hle, hheader, hseal, hprotect⟩ := quicPacketBuild_ok hbuild
  unfold buildHeader at hheader
  rw [if_pos hshort] at hheader
  split_ifs at hheader with hnone
  obtain ⟨hsource, -⟩ := not_or.mp hnone
  obtain ⟨hid, -, -, hwritten⟩ := quicShortHeaderEncode_ok hheader
  have hbytes : w.bytes = shortHeaderBytes params.destinationConnectionId params.packetNumber
      params.packetNumberLength params.keyPhase false := by
    rw [hwritten, List.append_nil]
    rfl
  obtain ⟨hform, -, hnumberLength, -⟩ := shortFirstByte_bits params.keyPhase false hpos hle
  have hnumber : (BigEndian.bytes params.packetNumberLength params.packetNumber).length =
      params.packetNumberLength := BigEndian.length_bytes _ _
  have hsplit : w.bytes ++ (cipher ++ tag) =
      shortFirstByte params.packetNumberLength params.keyPhase false ::
        (params.destinationConnectionId ++
          (BigEndian.bytes params.packetNumberLength params.packetNumber ++ (cipher ++ tag))) := by
    rw [hbytes]
    simp only [shortHeaderBytes, List.cons_append, List.append_assoc]
  have hoffset : w.bytes.length - params.packetNumberLength =
      1 + params.destinationConnectionId.length := by
    rw [hbytes]
    simp only [shortHeaderBytes, List.length_cons, List.length_append, hnumber]
    omega
  rw [hsplit, hoffset] at hprotect
  obtain ⟨mask, number, hpacket, hmasked, hunmask⟩ :=
    quicUnprotectHeader_protect hlawful hnumber hnumberLength hprotect
  rw [← hsplit, hbytes] at hunmask
  have hhigh := toNat_firstByteMask
    (shortFirstByte params.packetNumberLength params.keyPhase false) mask
  refine ⟨(cipher, tag), shortFirstByte params.packetNumberLength params.keyPhase false ^^^
    firstByteMask (shortFirstByte params.packetNumberLength params.keyPhase false) mask, number,
    ?_⟩
  exact
    { destination_le := hid
      source_nil := List.length_eq_zero_iff.mp (not_not.mp hsource)
      number_pos := hpos
      number_le := hle
      seals := by rw [← hbytes]; exact hseal
      short := by omega
      number_length := hmasked
      packet_eq := hpacket
      unmask := hunmask }

/-- The layout walk finds a packet with a long header, whatever follows it. -/
lemma LongBuilt.layout {fields : LongFields} {sealedFrames : List UInt8 × List UInt8}
    {first : UInt8} {number : List UInt8}
    (h : LongBuilt b params packet fields sealedFrames first number) (hversion : params.version ≠ 0)
    (idLength : ℕ) (rest : List UInt8) :
    quicProtectedPnOffset idLength (packet ++ rest) =
      .ok ⟨1 + 4 + (longFieldBytes params.type fields).length, packet.length, false⟩ := by
  have hbody : (number ++ (sealedFrames.1 ++ sealedFrames.2)).length = fields.length := by
    rw [List.length_append, h.number_length, h.covers]
  have hlayout :=
    quicProtectedPnOffset_longHeader idLength rest h.writable h.high_bits hversion hbody
  have htotal : packet.length =
      1 + 4 + (longFieldBytes params.type fields).length +
        (number ++ (sealedFrames.1 ++ sealedFrames.2)).length := by
    rw [h.packet_eq, List.length_cons, List.length_append, List.length_append,
      BigEndian.length_bytes]
    omega
  rw [htotal, ← hlayout, h.packet_eq]
  simp only [List.cons_append, List.append_assoc]

/-- The layout walk gives a packet with a short header all there is. -/
lemma ShortBuilt.layout {sealedFrames : List UInt8 × List UInt8} {first : UInt8}
    {number : List UInt8} (h : ShortBuilt b params packet sealedFrames first number) :
    quicProtectedPnOffset params.destinationConnectionId.length packet =
      .ok ⟨1 + params.destinationConnectionId.length, packet.length, true⟩ := by
  have hpos : 0 < (number ++ (sealedFrames.1 ++ sealedFrames.2)).length := by
    have hnumber := h.number_pos
    rw [List.length_append, h.number_length]
    omega
  have htotal : packet.length = 1 + params.destinationConnectionId.length +
      (number ++ (sealedFrames.1 ++ sealedFrames.2)).length := by
    rw [h.packet_eq, List.length_cons, List.length_append]
    omega
  rw [htotal, ← quicProtectedPnOffset_shortHeader h.destination_le h.short hpos, h.packet_eq]

/-- A packet is read by unmasking and opening it, once the layout walk has found it. -/
lemma quicPacketRead_found {unmasked rest : List UInt8} {pnOffset n : ℕ} {short : Bool}
    (hlayout : quicProtectedPnOffset idLength (packet ++ rest) =
      .ok ⟨pnOffset, packet.length, short⟩)
    (hunmask : b.quicUnprotectHeader keys packet pnOffset = .ok (unmasked, n)) (largest : ℕ) :
    b.quicPacketRead keys idLength largest (packet ++ rest) =
      b.quicPacketOpen keys idLength largest unmasked packet.length := by
  unfold CryptoBackend.quicPacketRead quicPacketUnprotectHeader
  rw [hlayout]
  simp only
  rw [List.take_left, hunmask]

/-- The long header of a packet is masked, found and read back. -/
lemma quicPacketRead_long (hlawful : b.Lawful) {rest : List UInt8}
    (hbuild : b.quicPacketBuild params capacity = .ok packet) (hlong : params.shortHeader = false)
    (hreceive : Receivable params rest idLength largest) :
    ∃ received, b.quicPacketRead params.keys idLength largest (packet ++ rest) = .ok received ∧
      Recovers params packet received := by
  obtain ⟨fields, sealedFrames, first, number, hbuilt⟩ := quicPacketBuild_long hlawful hbuild hlong
  have hlength : packet.length = (longHeaderBytes params.type params.version fields
      params.packetNumber params.packetNumberLength ++
        (sealedFrames.1 ++ sealedFrames.2)).length := by
    rw [hbuilt.packet_eq]
    simp only [longHeaderBytes, List.length_cons, List.length_append, BigEndian.length_bytes,
      hbuilt.number_length]
    omega
  have hopen := quicPacketOpen_sealed hlawful largest hbuilt.seals
    (decodeHeader_long idLength hbuilt.writable hbuilt.covers) rfl rfl
    (quicPacketNumberDecode_truncated hbuilt.writable.pnLength_pos hbuilt.writable.pnLength_le
      hreceive.number_lt hreceive.window)
  rw [quicPacketRead_found (hbuilt.layout (hreceive.version_ne hlong) idLength rest)
    hbuilt.unmask largest, hlength]
  refine ⟨_, hopen, ?_⟩
  exact
    { shortHeader := hlong.symm
      destination := hbuilt.destination
      source := hbuilt.source
      packetNumber := rfl
      packetNumberLength := rfl
      payload := paddedPayload_eq _ _
      totalLength := hlength.symm
      type := fun _ => rfl
      version := fun _ => rfl
      keyPhase := fun hshort => absurd (hlong.symm.trans hshort) (by decide) }

/-- The short header of a packet that ends its datagram is masked, found and read back. -/
lemma quicPacketRead_short (hlawful : b.Lawful)
    (hbuild : b.quicPacketBuild params capacity = .ok packet) (hshort : params.shortHeader = true)
    (hreceive : Receivable params [] idLength largest) :
    ∃ received, b.quicPacketRead params.keys idLength largest packet = .ok received ∧
      Recovers params packet received := by
  obtain ⟨sealedFrames, first, number, hbuilt⟩ := quicPacketBuild_short hlawful hbuild hshort
  obtain rfl := hreceive.id_length hshort
  have hlength : packet.length = (shortHeaderBytes params.destinationConnectionId
      params.packetNumber params.packetNumberLength params.keyPhase false ++
        (sealedFrames.1 ++ sealedFrames.2)).length := by
    rw [hbuilt.packet_eq]
    simp only [shortHeaderBytes, List.length_cons, List.length_append, BigEndian.length_bytes,
      hbuilt.number_length]
    omega
  have hopen := quicPacketOpen_sealed hlawful largest hbuilt.seals
    (decodeHeader_short hbuilt.destination_le hbuilt.number_pos hbuilt.number_le) rfl rfl
    (quicPacketNumberDecode_truncated hbuilt.number_pos hbuilt.number_le hreceive.number_lt
      hreceive.window)
  have hlayout : quicProtectedPnOffset params.destinationConnectionId.length (packet ++ []) =
      .ok ⟨1 + params.destinationConnectionId.length, packet.length, true⟩ := by
    rw [List.append_nil]
    exact hbuilt.layout
  have hread := quicPacketRead_found hlayout hbuilt.unmask largest
  rw [List.append_nil] at hread
  rw [hread, hlength]
  refine ⟨_, hopen, ?_⟩
  exact
    { shortHeader := hshort.symm
      destination := rfl
      source := hbuilt.source_nil.symm
      packetNumber := rfl
      packetNumberLength := rfl
      payload := paddedPayload_eq _ _
      totalLength := hlength.symm
      type := fun hlong => absurd (hlong.symm.trans hshort) (by decide)
      version := fun hlong => absurd (hlong.symm.trans hshort) (by decide)
      keyPhase := fun _ => rfl }

/-- Reading inverts building, for every receiver that can take the packet back; and where the
layout walk and a header decoder accept the same bytes, they agree about where the packet number
starts and where the packet ends. -/
theorem packet_read_build (b : CryptoBackend) (hlawful : b.Lawful) :
    (∀ params capacity packet, b.quicPacketBuild params capacity = .ok packet →
      ∀ rest idLength largest, Receivable params rest idLength largest →
        ∃ received,
          b.quicPacketRead params.keys idLength largest (packet ++ rest) = .ok received ∧
            Recovers params packet received) ∧
    (∀ bytes idLength layout, quicProtectedPnOffset idLength bytes = .ok layout →
      (∀ header, quicLongHeaderDecode bytes = .ok header →
        Agrees layout header.headerLength header.packetNumberLength header.totalLength) ∧
      (∀ header, quicShortHeaderDecode idLength bytes = .ok header →
        Agrees layout header.headerLength header.packetNumberLength header.totalLength)) := by
  constructor
  · intro params capacity packet hbuild rest idLength largest hreceive
    cases hform : params.shortHeader with
    | false => exact quicPacketRead_long hlawful hbuild hform hreceive
    | true =>
      obtain rfl := hreceive.last hform
      rw [List.append_nil]
      exact quicPacketRead_short hlawful hbuild hform hreceive
  · intro bytes idLength layout hlayout
    constructor
    · intro header hheader
      exact quicLongHeaderDecode_agrees hlayout hheader
    · intro header hheader
      exact quicShortHeaderDecode_agrees hlayout hheader

end RoundTrip

/-! ## The packet layer of a connection -/

section Layer

variable {b : CryptoBackend} {keys : PacketKeys} {idLength largest : ℕ} {bytes : List UInt8}

lemma decodeHeader_failed : decodeHeader idLength bytes ≠ .error .ok := by
  intro h
  unfold decodeHeader at h
  split_ifs at h with hform
  · split at h
    · rename_i status hstatus
      obtain rfl := Except.error.inj h
      exact quicShortHeaderDecode_failed hstatus
    · cases h
  · split at h
    · rename_i status hstatus
      obtain rfl := Except.error.inj h
      exact quicLongHeaderDecode_failed hstatus
    · cases h

lemma quicUnprotectHeader_failed (hlawful : b.Lawful) {pnOffset : ℕ} :
    b.quicUnprotectHeader keys bytes pnOffset ≠ .error .ok := by
  intro h
  unfold CryptoBackend.quicUnprotectHeader at h
  split_ifs at h with hempty
  · cases h
  split at h
  · rename_i status hsample
    obtain rfl := Except.error.inj h
    unfold quicHeaderProtectionSample at hsample
    simp only at hsample
    split_ifs at hsample
    cases hsample
  split at h
  · rename_i status hmask
    obtain rfl := Except.error.inj h
    exact quicHeaderProtectionMask_failed hlawful hmask
  · simp only at h
    split_ifs at h
    cases h

lemma quicPacketOpen_failed (hlawful : b.Lawful) {total : ℕ} :
    b.quicPacketOpen keys idLength largest bytes total ≠ .error .ok := by
  intro h
  unfold CryptoBackend.quicPacketOpen at h
  split at h
  · cases h
  · rename_i status hprotocol hdecode
    obtain rfl := Except.error.inj h
    exact decodeHeader_failed hdecode
  · rename_i header reserved hdecode
    by_cases hshort : header.payload.length < aeadTagLength
    · rw [if_pos hshort] at h
      cases h
    · rw [if_neg hshort] at h
      simp only at h
      generalize hopen : b.quicUnprotectFrames _ _ _ _ _ = opened at h
      cases opened with
      | error status =>
        obtain rfl := Except.error.inj h
        exact hlawful.open_failed hopen
      | ok payload =>
        simp only at h
        split_ifs at h <;> cases h

lemma quicPacketOpen_totalLength {total : ℕ} {received : OpenedPacket}
    (h : b.quicPacketOpen keys idLength largest bytes total = .ok received) :
    received.totalLength = total := by
  unfold CryptoBackend.quicPacketOpen at h
  split at h
  · cases h
  · cases h
  · rename_i header reserved hdecode
    by_cases hshort : header.payload.length < aeadTagLength
    · rw [if_pos hshort] at h
      cases h
    · rw [if_neg hshort] at h
      simp only at h
      generalize b.quicUnprotectFrames _ _ _ _ _ = opened at h
      cases opened with
      | error status => cases h
      | ok payload =>
        simp only at h
        split_ifs at h
        rw [← Except.ok.inj h]

/-- The packet protection as a connection calls it. -/
def CryptoBackend.packetLayer (b : CryptoBackend) (hlawful : b.Lawful)
    (retryDecode : List UInt8 → Option RetryPacket)
    (retryVerify : List UInt8 → List UInt8 → Bool) : PacketLayer where
  unprotectHeader := quicPacketUnprotectHeader b.quicUnprotectHeader
  openPacket keys idLength largest u :=
    (b.quicPacketOpen keys idLength largest u.bytes u.totalLength).map
      OpenedPacket.toReceivedPacket
  retryDecode := retryDecode
  retryVerify := retryVerify
  unprotect_failed := by
    intro keys idLength bytes h
    unfold quicPacketUnprotectHeader at h
    split at h
    · rename_i status hlayout
      obtain rfl := Except.error.inj h
      exact quicProtectedPnOffset_failed hlayout
    · split at h
      · rename_i status hunmask
        obtain rfl := Except.error.inj h
        exact quicUnprotectHeader_failed hlawful hunmask
      · cases h
  open_failed := by
    intro keys idLength largest u h
    cases hopen : b.quicPacketOpen keys idLength largest u.bytes u.totalLength with
    | error status =>
      rw [hopen] at h
      obtain rfl := Except.error.inj h
      exact quicPacketOpen_failed hlawful hopen
    | ok received =>
      rw [hopen] at h
      cases h
  opened_length := by
    intro keys idLength largest u packet h
    cases hopen : b.quicPacketOpen keys idLength largest u.bytes u.totalLength with
    | error status =>
      rw [hopen] at h
      cases h
    | ok received =>
      rw [hopen] at h
      rw [← Except.ok.inj h]
      exact quicPacketOpen_totalLength hopen

end Layer

/-! ## A known packet -/

/-- The keys of the ChaCha20-Poly1305 packet of `tests/vectors/rfc9001_vectors.h`. -/
def chachaKeys : ExpandedKeys where
  aead := .chacha20Poly1305
  key :=
    [0xc6, 0xd9, 0x8f, 0xf3, 0x44, 0x1c, 0x3f, 0xe1, 0xb2, 0x18, 0x20, 0x94, 0xf6, 0x9c, 0xaa, 0x2e,
      0xd4, 0xb7, 0x16, 0xb6, 0x54, 0x88, 0x96, 0x0a, 0x7a, 0x98, 0x49, 0x79, 0xfb, 0x23, 0xe1,
      0xc8]
  iv := [0xe0, 0x45, 0x9b, 0x34, 0x74, 0xbd, 0xd0, 0xe4, 0x4a, 0x41, 0xc1, 0x44]
  hp :=
    [0x25, 0xa2, 0x82, 0xb9, 0xe8, 0x2f, 0x06, 0xf2, 0x1f, 0x48, 0x89, 0x17, 0xa4, 0xfc, 0x8f, 0x1b,
      0x73, 0x57, 0x36, 0x85, 0x60, 0x85, 0x97, 0xd0, 0xef, 0xcb, 0x07, 0x6b, 0x0a, 0xb7, 0xa7,
      0xa4]

/-- What the AEAD is given for that packet: its nonce and its header. -/
def chachaNonce : List UInt8 :=
  [0xe0, 0x45, 0x9b, 0x34, 0x74, 0xbd, 0xd0, 0xe4, 0x6d, 0x41, 0x7e, 0xb0]

def chachaHeader : List UInt8 := [0x42, 0x00, 0xbf, 0xf4]

/-- Its sealed PING frame, and the tag. -/
def chachaSealed : List UInt8 × List UInt8 :=
  ([0x65], [0x5e, 0x5c, 0xd5, 0x5c, 0x41, 0xf6, 0x90, 0x80, 0x57, 0x5d, 0x79, 0x99, 0xc2, 0x5a,
    0x5b, 0xfb])

/-- The published values of the primitives, and nothing else. -/
def chachaBackend : CryptoBackend where
  expand _ := chachaKeys
  aeadSeal aead key nonce aad plain :=
    if aead = .chacha20Poly1305 ∧ key = chachaKeys.key ∧ nonce = chachaNonce ∧
        aad = chachaHeader ∧ plain = [0x01] then .ok chachaSealed
    else .error .unsupported
  aeadOpen aead key nonce aad cipher tag :=
    if aead = .chacha20Poly1305 ∧ key = chachaKeys.key ∧ nonce = chachaNonce ∧
        aad = chachaHeader ∧ (cipher, tag) = chachaSealed then .ok [0x01]
    else .error .authentication
  aes128EcbEncryptBlock _ _ := .error .unsupported
  chacha20Xor key nonce counter input :=
    if key = chachaKeys.hp ∧ nonce = chachaSealed.2.drop 4 ∧ counter = 0x5cd55c5e ∧
        input = List.replicate 5 0 then .ok [0xae, 0xfe, 0xfe, 0x7d, 0x03]
    else .error .unsupported

lemma chachaBackend_lawful : chachaBackend.Lawful := by
  constructor
  · intro aead key nonce aad plain cipher tag h
    simp only [chachaBackend] at h
    split_ifs at h with hcase
    obtain ⟨-, -, -, -, rfl⟩ := hcase
    obtain ⟨rfl, rfl⟩ := Prod.mk.inj (Except.ok.inj h)
    decide
  · intro aead key nonce aad plain cipher tag h
    simp only [chachaBackend] at h ⊢
    split_ifs at h with hcase
    obtain ⟨haead, hkey, hnonce, haad, rfl⟩ := hcase
    rw [if_pos ⟨haead, hkey, hnonce, haad, (Except.ok.inj h).symm⟩]
  · intro key sample block h
    cases h
  · intro key nonce counter input output h
    simp only [chachaBackend] at h
    split_ifs at h with hcase
    obtain ⟨-, -, -, rfl⟩ := hcase
    obtain rfl := Except.ok.inj h
    decide
  · intro aead key nonce aad plain h
    simp only [chachaBackend] at h
    split_ifs at h
    cases h
  · intro aead key nonce aad cipher tag h
    simp only [chachaBackend] at h
    split_ifs at h
    cases h
  · intro key sample h
    cases h
  · intro key nonce counter input h
    simp only [chachaBackend] at h
    split_ifs at h
    cases h

/-- The parameters of that packet. -/
def chachaParams : PacketParams where
  type := .initial
  shortHeader := true
  version := 1
  destinationConnectionId := []
  sourceConnectionId := []
  token := []
  packetNumber := 654360564
  packetNumberLength := 3
  keyPhase := false
  payload := [0x01]
  keys := ⟨[]⟩

/-- The packet as it is published. -/
def chachaPacket : List UInt8 := [0x4c, 0xfe, 0x41, 0x89] ++ (chachaSealed.1 ++ chachaSealed.2)

/-- The published packet is built, and read back. -/
theorem chachaPacket_read :
    chachaBackend.quicPacketBuild chachaParams 1200 = .ok chachaPacket ∧
      ∃ received, chachaBackend.quicPacketRead ⟨[]⟩ 0 654360563 chachaPacket = .ok received ∧
        Recovers chachaParams chachaPacket received := by
  have hbuild : chachaBackend.quicPacketBuild chachaParams 1200 = .ok chachaPacket := by
    decide +kernel
  have hreceive : Receivable chachaParams [] 0 654360563 :=
    { number_lt := by decide
      window := by decide
      version_ne := fun _ => by decide
      id_length := fun _ => rfl
      last := fun _ => rfl }
  obtain ⟨received, hread, hrecovers⟩ :=
    (packet_read_build chachaBackend chachaBackend_lawful).1 chachaParams 1200 chachaPacket hbuild
      [] 0 654360563 hreceive
  rw [List.append_nil] at hread
  exact ⟨hbuild, received, hread, hrecovers⟩

/-! ## What is not read back -/

/-- A cipher that hides nothing: the tag and the mask are zeros. -/
def nullBackend : CryptoBackend where
  expand _ := ⟨.aes128Gcm, List.replicate 16 0, List.replicate 12 0, List.replicate 16 0⟩
  aeadSeal _ _ _ _ plain := .ok (plain, List.replicate 16 0)
  aeadOpen _ _ _ _ cipher tag :=
    if tag = List.replicate 16 0 then .ok cipher else .error .authentication
  aes128EcbEncryptBlock _ _ := .ok (List.replicate 16 0)
  chacha20Xor _ _ _ input := .ok input

lemma nullBackend_lawful : nullBackend.Lawful := by
  constructor
  · intro aead key nonce aad plain cipher tag h
    obtain ⟨rfl, rfl⟩ := Prod.mk.inj (Except.ok.inj h)
    exact ⟨rfl, rfl⟩
  · intro aead key nonce aad plain cipher tag h
    obtain ⟨rfl, rfl⟩ := Prod.mk.inj (Except.ok.inj h)
    simp only [nullBackend]
    exact if_pos trivial
  · intro key sample block h
    obtain rfl := Except.ok.inj h
    rfl
  · intro key nonce counter input output h
    obtain rfl := Except.ok.inj h
    rfl
  · intro aead key nonce aad plain h
    cases h
  · intro aead key nonce aad cipher tag h
    simp only [nullBackend] at h
    split_ifs at h
    cases h
  · intro key sample h
    cases h
  · intro key nonce counter input h
    cases h

/-- A small packet of three frame bytes. -/
def smallParams (shortHeader : Bool) (version : UInt32) (packetNumber : ℕ) : PacketParams where
  type := .handshake
  shortHeader := shortHeader
  version := version
  destinationConnectionId := [7]
  sourceConnectionId := []
  token := []
  packetNumber := packetNumber
  packetNumberLength := 1
  keyPhase := true
  payload := [1, 2, 3]
  keys := ⟨[]⟩

/-- The small packet with a short header. -/
def smallShort : List UInt8 := [0x44, 7, 5, 1, 2, 3] ++ List.replicate 16 0

/-- The small packet with a long header. -/
def smallLong (version number : UInt8) : List UInt8 :=
  [0xe0, 0, 0, 0, version, 1, 7, 0, 20, number, 1, 2, 3] ++ List.replicate 16 0

/-- What `Receivable` asks for is needed. A short header packet is lost when a byte follows it, and
misread when the length of its connection ID is not known; a version of zero is refused, and a
number from `2 ^ 62` on is completed to another one. A short header has no type and no version, a
long one no key phase. -/
theorem packet_not_read_back :
    nullBackend.Lawful ∧
    (nullBackend.quicPacketBuild (smallParams true 1 5) 64 = .ok smallShort ∧ InWindow 5 1 4 ∧
      nullBackend.quicPacketRead ⟨[]⟩ 1 4 (smallShort ++ [9]) = .error .authentication) ∧
    (nullBackend.quicPacketRead ⟨[]⟩ 0 4 smallShort).map (·.destinationConnectionId) = .ok [] ∧
    (nullBackend.quicPacketRead ⟨[]⟩ 1 4 smallShort).map (fun r => (r.type, r.version)) =
      .ok (.initial, 0) ∧
    (nullBackend.quicPacketBuild (smallParams false 0 5) 64 = .ok (smallLong 0 5) ∧
      nullBackend.quicPacketRead ⟨[]⟩ 1 4 (smallLong 0 5) = .error .invalidArgument) ∧
    (nullBackend.quicPacketBuild (smallParams false 1 (2 ^ 62)) 64 = .ok (smallLong 1 0) ∧
      InWindow (2 ^ 62) 1 (2 ^ 62 - 100) ∧
      (nullBackend.quicPacketRead ⟨[]⟩ 1 (2 ^ 62 - 100) (smallLong 1 0)).map (·.packetNumber) =
        .ok (2 ^ 62 - 256)) ∧
    (nullBackend.quicPacketBuild (smallParams false 1 5) 64 = .ok (smallLong 1 5) ∧
      (nullBackend.quicPacketRead ⟨[]⟩ 1 4 (smallLong 1 5)).map (·.keyPhase) = .ok false) := by
  refine ⟨nullBackend_lawful, ?_⟩
  decide +kernel

/-! ## A sealed packet in a connection -/

section Delivery

variable {b : CryptoBackend} {keys : PacketKeys} {idLength largest capacity : ℕ}
  {bytes packet rest : List UInt8} {params : PacketParams}
  {retryDecode : List UInt8 → Option RetryPacket} {retryVerify : List UInt8 → List UInt8 → Bool}

/-- A packet with a long header is told by its first bytes, masked as they are. -/
lemma LongBuilt.kind {fields : LongFields} {sealedFrames : List UInt8 × List UInt8} {first : UInt8}
    {number : List UInt8} (h : LongBuilt b params packet fields sealedFrames first number)
    (hversion : params.version ≠ 0) (rest : List UInt8) :
    quicPacketKind (packet ++ rest) = .ok .long ∧
      headerVersion (packet ++ rest) = params.version.toNat ∧
        longType ((packet ++ rest).headD 0) = params.type := by
  obtain ⟨hform, -, htype, -⟩ := longFirstByte_bits h.writable.type_ne h.writable.pnLength_pos
    h.writable.pnLength_le
  have hhigh : first.toNat / 16 = (longFirstByte params.type params.packetNumberLength).toNat / 16 :=
    h.high_bits
  have hfirst : ¬first.toNat < 0x80 := by omega
  have hbytes : packet ++ rest = first :: (BigEndian.bytes 4 params.version.toNat ++
      (longFieldBytes params.type fields ++ (number ++ (sealedFrames.1 ++ sealedFrames.2)) ++
        rest)) := by
    rw [h.packet_eq]
    simp only [List.cons_append, List.append_assoc]
  have hread : headerVersion (packet ++ rest) = params.version.toNat :=
    hbytes ▸ headerVersion_bytes
  refine ⟨?_, hread, ?_⟩
  · rw [hbytes, quicPacketKind, if_neg hfirst, if_neg, if_neg]
    · rw [← hbytes, hread]
      exact fun hzero => hversion (UInt32.toNat_inj.mp hzero)
    · simp only [List.length_cons, List.length_append, BigEndian.length_bytes]
      omega
  · rw [hbytes, ← htype]
    show longType first = _
    rw [longType, longType, hhigh]

/-- The connection reads a packet as the packet layer does. -/
lemma packetLayer_read (hlawful : b.Lawful) :
    quicPacketRead (b.packetLayer hlawful retryDecode retryVerify) keys idLength largest bytes =
      (b.quicPacketRead keys idLength largest bytes).map OpenedPacket.toReceivedPacket := by
  have hlayer : (b.packetLayer hlawful retryDecode retryVerify).unprotectHeader keys idLength bytes =
    quicPacketUnprotectHeader b.quicUnprotectHeader keys idLength bytes := rfl
  rw [quicPacketRead, CryptoBackend.quicPacketRead, hlayer]
  cases quicPacketUnprotectHeader b.quicUnprotectHeader keys idLength bytes with
  | error status => rfl
  | ok u => rfl

/-- **What one end seals, the other opens.** A packet of the Initial or the Handshake space, built
with the keys that a connection expects, of its version and in its window, is found at the start of
what is left of a datagram, whatever follows it, and its own frames are handed on. -/
theorem receiveRound_built (hlawful : b.Lawful)
    (hbuild : b.quicPacketBuild params capacity = .ok packet) (hlong : params.shortHeader = false)
    {space : Space}
    (htype : params.type = .initial ∧ space = .initial ∨
      params.type = .handshake ∧ space = .handshake)
    {env : Env} {handler : FrameHandler} {fuel datagramLength now : ℕ} {r : Receiver}
    (hversion : params.version.toNat = r.connection.config.version)
    (hkeys : r.connection.keysIn space = some params.keys)
    (hreceive : Receivable params rest r.connection.config.localConnectionId.length
      (r.connection.spaces space).receivedSoFar)
    (hsize : r.connection.config.role = .server → space = .initial →
      quicMinInitialDatagramSize ≤ datagramLength) :
    ∃ received, Recovers params packet received ∧
      receiveRound (b.packetLayer hlawful retryDecode retryVerify) env handler fuel datagramLength
          now (packet ++ rest) r =
        takePacket env handler fuel space now (packet ++ rest) received.toReceivedPacket r := by
  obtain ⟨fields, sealedFrames, first, number, hbuilt⟩ := quicPacketBuild_long hlawful hbuild hlong
  obtain ⟨hkind, hwire, hwireType⟩ := hbuilt.kind (hreceive.version_ne hlong) rest
  obtain ⟨received, hread, hrecovers⟩ := quicPacketRead_long hlawful hbuild hlong hreceive
  refine ⟨received, hrecovers, ?_⟩
  have hspace : receiveInSpace (b.packetLayer hlawful retryDecode retryVerify) env handler fuel
      space now (packet ++ rest) r =
        takePacket env handler fuel space now (packet ++ rest) received.toReceivedPacket r := by
    have happlication : space ≠ .application := by
      rcases htype with ⟨-, rfl⟩ | ⟨-, rfl⟩ <;> decide
    rw [receiveInSpace, hkeys]
    dsimp only
    rw [readPacket, if_neg happlication, packetLayer_read, hread]
    rfl
  rw [receiveRound, hkind]
  dsimp only
  rw [if_neg (not_not.mpr (hwire.trans hversion)), hwireType]
  rcases htype with ⟨htype, rfl⟩ | ⟨htype, rfl⟩
  · rw [htype]
    dsimp only
    rw [if_neg fun h => absurd h.2 (not_lt.mpr (hsize h.1 rfl))]
    exact hspace
  · rw [htype]
    exact hspace

/-- A server takes the small packet from the front of a datagram. -/
theorem receiveRound_built_small : ∃ received,
    Recovers (smallParams false 1 5) (smallLong 1 5) received ∧
      receiveRound (nullBackend.packetLayer nullBackend_lawful (fun _ => none) fun _ _ => false)
          steadyEnv acceptFrame 1 30 0 (smallLong 1 5 ++ [9]) listening =
        takePacket steadyEnv acceptFrame 1 .handshake 0 (smallLong 1 5 ++ [9])
          received.toReceivedPacket listening := by
  have hbuild : nullBackend.quicPacketBuild (smallParams false 1 5) 64 = .ok (smallLong 1 5) := by
    decide +kernel
  have hreceive : Receivable (smallParams false 1 5) [9] 0 0 :=
    ⟨by decide, by decide +kernel, by decide, by decide, by decide⟩
  exact receiveRound_built nullBackend_lawful hbuild rfl (.inr ⟨rfl, rfl⟩) rfl rfl hreceive
    (by decide)

end Delivery

end WebTransport
