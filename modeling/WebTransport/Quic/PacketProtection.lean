import WebTransport.Lib.ByteMask
import WebTransport.Quic.PacketHeader

/-!
# Packet protection

One packet out and one packet in (`quic/packet_io.c`, `quic/protection.c`): the header is written
first, because the AEAD authenticates it, and masked last, because the mask is computed from a
sample of the ciphertext. Reading takes the same steps backwards.

The cipher primitives are a parameter, a `CryptoBackend`. A build is read back by a receiver with
the same keys; what a short header or a long one does not carry is left zeroed.
-/

namespace WebTransport

/-- `wt_aead_key_len`. -/
def aeadKeyLength : Aead → ℕ
  | .aes128Gcm => 16
  | .chacha20Poly1305 => 32

/-- `WT_AEAD_TAG_LEN`. -/
def aeadTagLength : ℕ := 16
/-- `WT_QUIC_HP_SAMPLE_OFFSET`. -/
def quicHpSampleOffset : ℕ := 4
/-- `WT_QUIC_HP_SAMPLE_LENGTH`. -/
def quicHpSampleLength : ℕ := 16

/-- What a secret is expanded to: the rest of `wt_quic_packet_keys_t`. -/
structure ExpandedKeys where
  aead : Aead
  key : List UInt8
  iv : List UInt8
  hp : List UInt8
deriving DecidableEq, Repr

/-- The cipher primitives (`crypto/crypto.h`), and the keys that belong to a secret. -/
structure CryptoBackend where
  expand : PacketKeys → ExpandedKeys
  aeadSeal : Aead → List UInt8 → List UInt8 → List UInt8 → List UInt8 →
    Except Status (List UInt8 × List UInt8)
  aeadOpen : Aead → List UInt8 → List UInt8 → List UInt8 → List UInt8 → List UInt8 →
    Except Status (List UInt8)
  aes128EcbEncryptBlock : List UInt8 → List UInt8 → Except Status (List UInt8)
  chacha20Xor : List UInt8 → List UInt8 → ℕ → List UInt8 → Except Status (List UInt8)

/-- What the code relies on: a ciphertext is as long as its plaintext and has a tag of sixteen
bytes, what was sealed opens again, a block has sixteen bytes, a stream cipher keeps lengths, and
no failure is called a success. -/
structure CryptoBackend.Lawful (b : CryptoBackend) : Prop where
  seal_length : ∀ {aead key nonce aad plain cipher tag},
    b.aeadSeal aead key nonce aad plain = .ok (cipher, tag) →
      cipher.length = plain.length ∧ tag.length = aeadTagLength
  open_seal : ∀ {aead key nonce aad plain cipher tag},
    b.aeadSeal aead key nonce aad plain = .ok (cipher, tag) →
      b.aeadOpen aead key nonce aad cipher tag = .ok plain
  block_length : ∀ {key sample block},
    b.aes128EcbEncryptBlock key sample = .ok block → block.length = 16
  stream_length : ∀ {key nonce counter input output},
    b.chacha20Xor key nonce counter input = .ok output → output.length = input.length
  seal_failed : ∀ {aead key nonce aad plain}, b.aeadSeal aead key nonce aad plain ≠ .error .ok
  open_failed : ∀ {aead key nonce aad cipher tag},
    b.aeadOpen aead key nonce aad cipher tag ≠ .error .ok
  block_failed : ∀ {key sample}, b.aes128EcbEncryptBlock key sample ≠ .error .ok
  stream_failed : ∀ {key nonce counter input}, b.chacha20Xor key nonce counter input ≠ .error .ok

/-- What building a packet needs (`wt_quic_packet_build_t`). -/
structure PacketParams where
  type : LongType
  shortHeader : Bool
  version : UInt32
  destinationConnectionId : List UInt8
  sourceConnectionId : List UInt8
  token : List UInt8
  packetNumber : ℕ
  packetNumberLength : ℕ
  keyPhase : Bool
  payload : List UInt8
  keys : PacketKeys
deriving DecidableEq, Repr

/-- What reading a packet produced: the fields of `wt_quic_received_packet_t` that
`ReceivedPacket` leaves out. -/
structure OpenedPacket extends ReceivedPacket where
  type : LongType
  version : ℕ
  packetNumberLength : ℕ
  headerLength : ℕ
  keyPhase : Bool
deriving DecidableEq, Repr

/-! ## The two protections -/

/-- The nonce of a packet: its number lies over the last eight bytes of the IV. -/
def quicPacketNonce (iv : List UInt8) (packetNumber : ℕ) : List UInt8 :=
  ByteMask.xorAt 4 (BigEndian.bytes 8 packetNumber) iv

/-- The sample that a mask is computed from. It starts where the longest packet number ends, so
that it can be taken before the length of the number is known. -/
def quicHeaderProtectionSample (pnOffset : ℕ) (packet : List UInt8) :
    Except Status (List UInt8) :=
  let rest := packet.drop (pnOffset + quicHpSampleOffset)
  if packet.length < pnOffset + quicHpSampleOffset ∨ rest.length < quicHpSampleLength then
    .error .truncated
  else .ok (rest.take quicHpSampleLength)

/-- Whether a first byte is masked in its low four or its low five bits. -/
def firstByteMask (first mask : UInt8) : UInt8 :=
  if first &&& 0x80 ≠ 0 then mask &&& 0x0f else mask &&& 0x1f

/-! ## What is sealed, and the header before and behind it -/

/-- The plaintext of a packet: its payload, filled up with PADDING frames to the length that a
sample needs. -/
def paddedPayload (payload : List UInt8) (pnLength : ℕ) : List UInt8 :=
  if payload.length + pnLength + aeadTagLength < quicHpSampleOffset + quicHpSampleLength then
    payload ++ List.replicate
      (quicHpSampleOffset + quicHpSampleLength - aeadTagLength - pnLength - payload.length) 0
  else payload

/-- Write the header of a packet. -/
def buildHeader (params : PacketParams) (capacity cipherLength : ℕ) : Except Status Writer :=
  if params.shortHeader = true then
    -- Neither field exists in a short header.
    if params.sourceConnectionId.length ≠ 0 ∨ params.token.length ≠ 0 then .error .invalidArgument
    else
      quicShortHeaderEncode (writerInit capacity) params.destinationConnectionId
        params.packetNumber params.packetNumberLength params.keyPhase false []
  else
    quicLongHeaderEncodePrefix (writerInit capacity) params.type params.version
      params.destinationConnectionId params.sourceConnectionId params.token params.packetNumber
      params.packetNumberLength cipherLength

/-- The header of a packet whose mask is off, the payload still sealed, and whether its reserved
bits are set. What the header does not carry is zero, and the packet number is not yet completed
from its truncation. -/
def decodeHeader (idLength : ℕ) (packet : List UInt8) : Except Status (OpenedPacket × Bool) :=
  if (packet.headD 0).toNat < 0x80 then
    match quicShortHeaderDecode idLength packet with
    | .error status => .error status
    | .ok header =>
      .ok
        ({ shortHeader := true
           destinationConnectionId := header.destinationConnectionId
           sourceConnectionId := []
           packetNumber := header.packetNumber
           totalLength := header.totalLength
           payload := header.payload
           type := .initial
           version := 0
           packetNumberLength := header.packetNumberLength
           headerLength := header.headerLength
           keyPhase := header.keyPhase }, header.reservedBitsSet)
  else
    match quicLongHeaderDecode packet with
    | .error status => .error status
    | .ok header =>
      .ok
        ({ shortHeader := false
           destinationConnectionId := header.destinationConnectionId
           sourceConnectionId := header.sourceConnectionId
           packetNumber := header.packetNumber
           totalLength := header.totalLength
           payload := header.payload
           type := header.type
           version := header.version
           packetNumberLength := header.packetNumberLength
           headerLength := header.headerLength
           keyPhase := false }, header.reservedBitsSet)

namespace CryptoBackend

variable (b : CryptoBackend)

/-- The mask that a sample gives. -/
def quicHeaderProtectionMask (aead : Aead) (hp sample : List UInt8) :
    Except Status (List UInt8) :=
  if hp.length < aeadKeyLength aead then .error .invalidArgument
  else
    match aead with
    | .aes128Gcm => (b.aes128EcbEncryptBlock hp sample).map (List.take 5)
    | .chacha20Poly1305 =>
      -- The counter is little-endian.
      b.chacha20Xor hp (sample.drop 4) ((sample.take 4).reverse.foldl BigEndian.push 0)
        (List.replicate 5 0)

/-- Mask the header of a packet. -/
def quicProtectHeader (keys : ExpandedKeys) (packet : List UInt8) (pnOffset pnLength : ℕ) :
    Except Status (List UInt8) :=
  if pnLength = 0 ∨ 4 < pnLength then .error .invalidArgument
  else if packet.length ≤ pnOffset then .error .invalidArgument
  else if packet.length - pnOffset < pnLength then .error .invalidArgument
  else
    match quicHeaderProtectionSample pnOffset packet with
    | .error status => .error status
    | .ok sample =>
      match b.quicHeaderProtectionMask keys.aead keys.hp sample with
      | .error status => .error status
      | .ok mask =>
        let packet := ByteMask.xorAt 0 [firstByteMask (packet.headD 0) (mask.headD 0)] packet
        .ok (ByteMask.xorAt pnOffset ((mask.drop 1).take pnLength) packet)

/-- Take the mask off the header of a packet; the length of the packet number is under it. -/
def quicUnprotectHeader (keys : PacketKeys) (packet : List UInt8) (pnOffset : ℕ) :
    Except Status (List UInt8 × ℕ) :=
  if packet.length ≤ pnOffset then .error .invalidArgument
  else
    match quicHeaderProtectionSample pnOffset packet with
    | .error status => .error status
    | .ok sample =>
      match b.quicHeaderProtectionMask (b.expand keys).aead (b.expand keys).hp sample with
      | .error status => .error status
      | .ok mask =>
        let packet := ByteMask.xorAt 0 [firstByteMask (packet.headD 0) (mask.headD 0)] packet
        let pnLength := packetNumberLength (packet.headD 0)
        if packet.length - pnOffset < pnLength then .error .truncated
        else .ok (ByteMask.xorAt pnOffset ((mask.drop 1).take pnLength) packet, pnLength)

/-- Seal the frames of a packet; the tag comes behind them. -/
def quicProtectFrames (keys : ExpandedKeys) (packetNumber : ℕ) (aad frames : List UInt8)
    (capacity : ℕ) : Except Status (List UInt8) :=
  if capacity < frames.length ∨ capacity - frames.length < aeadTagLength then .error .limit
  else
    match b.aeadSeal keys.aead keys.key (quicPacketNonce keys.iv packetNumber) aad frames with
    | .error status => .error status
    | .ok (cipher, tag) => .ok (cipher ++ tag)

/-- Open the frames of a packet. -/
def quicUnprotectFrames (keys : ExpandedKeys) (packetNumber : ℕ) (aad cipher tag : List UInt8) :
    Except Status (List UInt8) :=
  b.aeadOpen keys.aead keys.key (quicPacketNonce keys.iv packetNumber) aad cipher tag

/-! ## One packet out -/

/-- Build one protected packet into a buffer of some capacity. -/
def quicPacketBuild (params : PacketParams) (capacity : ℕ) : Except Status (List UInt8) :=
  let keys := b.expand params.keys
  if params.packetNumberLength = 0 ∨ 4 < params.packetNumberLength then .error .invalidArgument
  else
    let plain := paddedPayload params.payload params.packetNumberLength
    let cipherLength := plain.length + aeadTagLength
    if 2 ^ 64 - 1 - aeadTagLength < plain.length then .error .overflow
    else if capacity < cipherLength then .error .limit
    else
      match buildHeader params capacity cipherLength with
      | .error status => .error status
      | .ok w =>
        let header := w.bytes
        if capacity - header.length < cipherLength then .error .limit
        else
          match b.quicProtectFrames keys params.packetNumber header plain
              (capacity - header.length) with
          | .error status => .error status
          | .ok sealedFrames =>
            b.quicProtectHeader keys (header ++ sealedFrames)
              (header.length - params.packetNumberLength) params.packetNumberLength

/-! ## One packet in -/

/-- Open a packet of some length whose mask is off. -/
def quicPacketOpen (keys : PacketKeys) (idLength largest : ℕ) (packet : List UInt8)
    (totalLength : ℕ) : Except Status OpenedPacket :=
  match decodeHeader idLength (packet.take totalLength) with
  -- A header that cannot be parsed is no evidence against the peer, who may not have sent it.
  | .error .protocol => .error .authentication
  | .error status => .error status
  | .ok (header, reservedBitsSet) =>
    let packetNumber :=
      quicPacketNumberDecode header.packetNumber header.packetNumberLength largest
    if header.payload.length < aeadTagLength then .error .truncated
    else
      let cipherLength := header.payload.length - aeadTagLength
      match b.quicUnprotectFrames (b.expand keys) packetNumber (packet.take header.headerLength)
          (header.payload.take cipherLength) (header.payload.drop cipherLength) with
      | .error status => .error status
      | .ok payload =>
        if reservedBitsSet = true then .error .protocol
        else
          .ok
            { header with
              packetNumber := packetNumber
              totalLength := totalLength
              payload := payload }

/-- Read the first packet of a datagram. -/
def quicPacketRead (keys : PacketKeys) (idLength largest : ℕ) (datagram : List UInt8) :
    Except Status OpenedPacket :=
  match quicPacketUnprotectHeader b.quicUnprotectHeader keys idLength datagram with
  | .error status => .error status
  | .ok u => b.quicPacketOpen keys idLength largest u.bytes u.totalLength

end CryptoBackend

/-! ## The mask comes off again -/

section Mask

variable {b : CryptoBackend} {first mask : UInt8} {front number number' body packet : List UInt8}
  {keys : PacketKeys} {n : ℕ}

/-- The mask of a first byte leaves the form bit alone. -/
lemma firstByteMask_form : (first ^^^ firstByteMask first mask) &&& 0x80 = first &&& 0x80 := by
  have hlow : mask &&& 0x0f &&& 0x80 = 0 := by
    rw [UInt8.and_assoc, show (0x0f : UInt8) &&& 0x80 = 0 from rfl, UInt8.and_zero]
  have hlow' : mask &&& 0x1f &&& 0x80 = 0 := by
    rw [UInt8.and_assoc, show (0x1f : UInt8) &&& 0x80 = 0 from rfl, UInt8.and_zero]
  unfold firstByteMask
  split_ifs
  · exact ByteMask.xor_and hlow
  · exact ByteMask.xor_and hlow'

lemma firstByteMask_twice :
    (first ^^^ firstByteMask first mask) ^^^
      firstByteMask (first ^^^ firstByteMask first mask) mask = first := by
  have hsame : firstByteMask (first ^^^ firstByteMask first mask) mask = firstByteMask first mask := by
    conv_lhs => rw [firstByteMask, firstByteMask_form]
    rfl
  rw [hsame, UInt8.xor_assoc, UInt8.xor_self, UInt8.xor_zero]

/-- A mask that fits the first byte leaves its upper bits alone. -/
lemma toNat_firstByteMask_long (mask : UInt8) (hlong : ¬first.toNat < 0x80) :
    (first ^^^ firstByteMask first mask).toNat / 2 ^ 4 = first.toNat / 2 ^ 4 := by
  have hform : first &&& 0x80 ≠ 0 := by
    intro hzero
    have hnat : first.toNat &&& 0x80 = 0 := congrArg UInt8.toNat hzero
    have hbit := Nat.testBit_and first.toNat 0x80 7
    rw [hnat] at hbit
    have hhigh : first.toNat.testBit 7 = true := by
      rw [Nat.testBit_eq_decide_div_mod_eq, decide_eq_true_eq]
      have hlt := first.toNat_lt
      omega
    rw [hhigh] at hbit
    exact absurd hbit (by decide)
  have hmask : firstByteMask first mask = mask &&& 0x0f := by rw [firstByteMask, if_pos hform]
  have hlow : (mask &&& 0x0f).toNat < 2 ^ 4 := by
    rw [UInt8.toNat_and]
    exact Nat.and_lt_two_pow _ (by decide)
  rw [hmask]
  exact ByteMask.toNat_xor_div hlow

lemma toNat_firstByteMask (first mask : UInt8) :
    (first ^^^ firstByteMask first mask).toNat / 2 ^ 5 = first.toNat / 2 ^ 5 := by
  have hlow : (firstByteMask first mask).toNat < 2 ^ 5 := by
    unfold firstByteMask
    split_ifs <;> rw [UInt8.toNat_and] <;> exact Nat.and_lt_two_pow _ (by decide)
  exact ByteMask.toNat_xor_div hlow

lemma quicHeaderProtectionMask_length {aead : Aead} {hp sample mask : List UInt8}
    (hlawful : b.Lawful) (h : b.quicHeaderProtectionMask aead hp sample = .ok mask) :
    mask.length = 5 := by
  unfold CryptoBackend.quicHeaderProtectionMask at h
  split_ifs at h with hkey
  cases aead with
  | aes128Gcm =>
    simp only at h
    cases hblock : b.aes128EcbEncryptBlock hp sample with
    | error status =>
      rw [hblock] at h
      cases h
    | ok block =>
      rw [hblock] at h
      rw [← Except.ok.inj h, List.length_take, hlawful.block_length hblock]
      rfl
  | chacha20Poly1305 =>
    rw [hlawful.stream_length h, List.length_replicate]

lemma quicHeaderProtectionMask_failed {aead : Aead} {hp sample : List UInt8} (hlawful : b.Lawful) :
    b.quicHeaderProtectionMask aead hp sample ≠ .error .ok := by
  intro h
  unfold CryptoBackend.quicHeaderProtectionMask at h
  split_ifs at h with hkey
  · cases h
  cases aead with
  | aes128Gcm =>
    simp only at h
    cases hblock : b.aes128EcbEncryptBlock hp sample with
    | error status =>
      rw [hblock] at h
      obtain rfl := Except.error.inj h
      exact hlawful.block_failed hblock
    | ok block =>
      rw [hblock] at h
      cases h
  | chacha20Poly1305 => exact hlawful.stream_failed h

/-- The sample is taken behind the longest packet number, so it does not depend on the number. -/
lemma quicHeaderProtectionSample_number (first' : UInt8) (hnumber : number'.length = number.length)
    (hle : number.length ≤ 4) :
    quicHeaderProtectionSample (1 + front.length) (first' :: (front ++ (number' ++ body))) =
      quicHeaderProtectionSample (1 + front.length) (first :: (front ++ (number ++ body))) := by
  have hdrop : ∀ (first : UInt8) (number : List UInt8), number.length ≤ 4 →
      (first :: (front ++ (number ++ body))).drop (1 + front.length + quicHpSampleOffset) =
        body.drop (4 - number.length) := by
    intro first number hle
    have hsplit : 1 + front.length + quicHpSampleOffset =
        (first :: (front ++ number)).length + (4 - number.length) := by
      unfold quicHpSampleOffset
      simp only [List.length_cons, List.length_append]
      omega
    rw [show first :: (front ++ (number ++ body)) = (first :: (front ++ number)) ++ body by
      rw [List.cons_append, List.append_assoc], hsplit, ← List.drop_drop, List.drop_left]
  unfold quicHeaderProtectionSample
  rw [hdrop first' number' (by omega), hdrop first number hle, hnumber]
  simp only [List.length_cons, List.length_append, hnumber]

/-- Where the two masks of a header lie. -/
lemma xorAt_header {pnMask : List UInt8} (k : UInt8) (hnumber : number.length = pnMask.length) :
    ByteMask.xorAt (1 + front.length) pnMask
        (ByteMask.xorAt 0 [k] (first :: (front ++ (number ++ body)))) =
      (first ^^^ k) :: (front ++ (ByteMask.xor number pnMask ++ body)) := by
  rw [ByteMask.xorAt_cons]
  have hfront : ((first ^^^ k) :: front).length = 1 + front.length := Nat.add_comm _ _
  exact ByteMask.xorAt_append hfront hnumber

/-- The mask that was put on a header comes off again. -/
lemma quicUnprotectHeader_protect (hlawful : b.Lawful) (hnumber : number.length = n)
    (hfirst : packetNumberLength first = n)
    (h : b.quicProtectHeader (b.expand keys) (first :: (front ++ (number ++ body)))
      (1 + front.length) n = .ok packet) :
    ∃ mask number', packet = (first ^^^ firstByteMask first mask) :: (front ++ (number' ++ body)) ∧
      number'.length = n ∧
      b.quicUnprotectHeader keys packet (1 + front.length) =
        .ok (first :: (front ++ (number ++ body)), n) := by
  unfold CryptoBackend.quicProtectHeader at h
  split_ifs at h with hrange hempty hshort
  obtain ⟨hpos, hle⟩ := not_or.mp hrange
  split at h
  · cases h
  rename_i sample hsample
  split at h
  · cases h
  rename_i mask hmask
  have hlength := quicHeaderProtectionMask_length hlawful hmask
  have hpnMask : ((mask.drop 1).take n).length = n := by
    rw [List.length_take, List.length_drop]
    omega
  simp only [List.headD_cons] at h
  rw [xorAt_header _ (by rw [hnumber, hpnMask])] at h
  have hpacket := (Except.ok.inj h).symm
  have hmasked : (ByteMask.xor number ((mask.drop 1).take n)).length = number.length := by
    rw [ByteMask.length_xor, hpnMask, hnumber, Nat.min_self]
  refine ⟨mask.headD 0, ByteMask.xor number ((mask.drop 1).take n), hpacket,
    hmasked.trans hnumber, ?_⟩
  -- The sample, and so the mask, is what it was; added twice, the mask is gone.
  have hsame : quicHeaderProtectionSample (1 + front.length) packet = .ok sample := by
    rw [hpacket, quicHeaderProtectionSample_number _ hmasked (by omega)]
    exact hsample
  have hlong : packet.length = 1 + front.length + n + body.length := by
    rw [hpacket]
    simp only [List.length_cons, List.length_append, hmasked, hnumber]
    omega
  unfold CryptoBackend.quicUnprotectHeader
  rw [if_neg (by omega), hsame]
  simp only
  rw [hmask]
  simp only
  have hback : ByteMask.xorAt 0 [firstByteMask (packet.headD 0) (mask.headD 0)] packet =
      first :: (front ++ (ByteMask.xor number ((mask.drop 1).take n) ++ body)) := by
    rw [hpacket, List.headD_cons, ByteMask.xorAt_cons, firstByteMask_twice]
  have hlengthBack : (first :: (front ++
      (ByteMask.xor number ((mask.drop 1).take n) ++ body))).length = packet.length := by
    rw [hpacket, List.length_cons, List.length_cons]
  rw [hback, List.headD_cons, hfirst, hlengthBack, if_neg (by omega)]
  have hzero : first :: (front ++ (ByteMask.xor number ((mask.drop 1).take n) ++ body)) =
      ByteMask.xorAt 0 [0]
        (first :: (front ++ (ByteMask.xor number ((mask.drop 1).take n) ++ body))) := by
    rw [ByteMask.xorAt_cons, UInt8.xor_zero]
  rw [hzero, xorAt_header _ (by rw [hmasked, hnumber, hpnMask]), UInt8.xor_zero,
    ByteMask.xor_xor (by rw [hpnMask, hnumber])]

end Mask

end WebTransport
