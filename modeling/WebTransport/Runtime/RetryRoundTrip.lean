import WebTransport.Quic.PacketsOnce
import WebTransport.Quic.RetryAcceptance
import WebTransport.Runtime.ServerRetry

/-!
# A Retry round trip

A Retry that the server writes is taken by the client whose packet it answers, and the token in it
is accepted from the address that the packet came from, and from no other, for as long as it may be
used. The server and the client keep nothing of each other, so that all of this rests on the layouts
of the token, of the address and of the packet.
-/

namespace WebTransport

/-! ## The server -/

/-- A server whose secret and connection ID were drawn. -/
structure ServerRetry.Armed (retry : ServerRetry) : Prop where
  armed : retry.armed = true
  secretLen : retry.secret.length = quicRetryTokenSecretLen
  id_ne : retry.sourceConnectionId ≠ []
  idLen : retry.sourceConnectionId.length ≤ quicMaxConnectionIdLength

/-- What of a server does not change with the packets that it answers. -/
def ServerRetry.keys (retry : ServerRetry) : ServerRetry :=
  { retry with retriesSent := 0, tokensRefused := 0 }

section Server

variable {crypto : RetryCrypto} {retry : ServerRetry} {datagram : List UInt8} {peer : UdpAddress}
  {now : UInt64} {capacity : ℕ} {header : RetryInitial}

lemma runtimeServerRetryArm_armed {length : ℕ} {maxAge : UInt64} {secret id : List UInt8}
    (hsecret : secret.length = quicRetryTokenSecretLen) (hid : id.length = length)
    (h : runtimeServerRetryArm length maxAge (.ok secret) (.ok id) = (retry, .ok)) :
    retry.Armed ∧ retry.tokenMaxAge = maxAge := by
  unfold runtimeServerRetryArm at h
  split_ifs at h with hlength
  · cases h
  · obtain ⟨rfl, -⟩ := Prod.mk.inj h
    unfold runtimeServerRetryMinId at hlength
    refine ⟨⟨rfl, hsecret, List.ne_nil_of_length_pos ?_, ?_⟩, rfl⟩
    · dsimp only
      omega
    · dsimp only
      omega

lemma ServerRetry.Armed.of_keys {later : ServerRetry} (h : retry.Armed)
    (hkeys : later.keys = retry.keys) :
    later.Armed ∧ later.secret = retry.secret ∧
      later.sourceConnectionId = retry.sourceConnectionId ∧
      later.tokenMaxAge = retry.tokenMaxAge := by
  unfold keys at hkeys
  obtain ⟨hsecret, hid, hage, -, -, harmed⟩ := ServerRetry.mk.inj hkeys
  exact ⟨⟨harmed.trans h.armed, hsecret ▸ h.secretLen, hid ▸ h.id_ne, hid ▸ h.idLen⟩, hsecret, hid,
    hage⟩

/-! ## Addresses -/

lemma length_udpAddressEncode (address : UdpAddress) :
    (udpAddressEncode address udpAddressEncodedLength).length = udpAddressEncodedLength := by
  rw [udpAddressEncode, if_neg (lt_irrefl _)]
  simp [udpAddressEncodedLength]

lemma UdpFamily.toByte_injective : Function.Injective UdpFamily.toByte := by
  intro family family'
  cases family <;> cases family' <;> decide

/-- Addresses that differ in the family, the bytes, the port or the scope are encoded apart. -/
lemma udpAddressEncode_injective :
    Function.Injective fun address => udpAddressEncode address udpAddressEncodedLength := by
  intro address other h
  dsimp only at h
  rw [udpAddressEncode, udpAddressEncode, if_neg (lt_irrefl _), if_neg (lt_irrefl _)] at h
  obtain ⟨hfamily, h₁⟩ := List.cons.inj h
  obtain ⟨hbytes, h₂⟩ := List.append_inj h₁ (by simp)
  obtain ⟨hport, hscope⟩ := List.append_inj h₂ (by simp)
  have hport' := BigEndian.bytes_injective (k := 2) address.port.toNat_lt other.port.toNat_lt hport
  have hscope' :=
    BigEndian.bytes_injective (k := 4) address.scopeId.toNat_lt other.scopeId.toNat_lt hscope
  cases address with
  | mk family port scopeId bytes =>
    cases other with
    | mk family' port' scopeId' bytes' =>
      obtain rfl := UdpFamily.toByte_injective hfamily
      obtain rfl := List.ofFn_injective hbytes
      obtain rfl := UInt16.toNat_inj.mp hport'
      obtain rfl := UInt32.toNat_inj.mp hscope'
      rfl

/-! ## The Retry that is written -/

lemma takeConnectionId_length {c id rest : List UInt8} (h : takeConnectionId c = .ok (id, rest)) :
    id.length ≤ quicMaxConnectionIdLength := by
  cases c with
  | nil => cases h
  | cons length c =>
    obtain ⟨hlength, h₁⟩ := Guard.of_ok h
    obtain ⟨-, h₂⟩ := Guard.of_ok h₁
    obtain ⟨rfl, -⟩ := Prod.mk.inj (Except.ok.inj h₂)
    rw [List.length_take]
    omega

lemma peekConnectionId_length {c id rest : List UInt8} (h : peekConnectionId c = .ok (id, rest)) :
    id.length ≤ quicMaxConnectionIdLength := by
  unfold peekConnectionId at h
  cases htake : takeConnectionId c with
  | error status =>
    rw [htake] at h
    cases h
  | ok taken =>
    rw [htake] at h
    obtain rfl := Except.ok.inj h
    exact takeConnectionId_length htake

/-- The IDs of a packet that is read are of the length of IDs. -/
lemma readInitial_lengths (h : readInitial datagram = .ok (some header)) :
    header.destinationConnectionId.length ≤ quicMaxConnectionIdLength ∧
      header.sourceConnectionId.length ≤ quicMaxConnectionIdLength := by
  obtain ⟨-, h₁⟩ := Guard.of_ok h
  cases hids : quicLongHeaderConnectionIds datagram with
  | error status =>
    rw [hids] at h₁
    cases h₁
  | ok ids =>
    rw [hids] at h₁
    dsimp only at h₁
    cases htoken : quicInitialToken datagram with
    | error status =>
      rw [htoken] at h₁
      cases h₁
    | ok token =>
      rw [htoken] at h₁
      obtain rfl := Option.some.inj (Except.ok.inj h₁)
      cases datagram with
      | nil => cases hids
      | cons first c =>
        obtain ⟨-, h₂⟩ := Guard.of_ok hids
        obtain ⟨-, h₃⟩ := Guard.of_ok h₂
        obtain ⟨-, h₄⟩ := Guard.of_ok h₃
        obtain ⟨⟨destination, c₁⟩, hdestination, h₅⟩ := Guard.of_bind_ok h₄
        obtain ⟨⟨source, c₂⟩, hsource, h₆⟩ := Guard.of_bind_ok h₅
        obtain rfl := Except.ok.inj h₆
        exact ⟨peekConnectionId_length hdestination, peekConnectionId_length hsource⟩

/-- A client's first packet: an Initial packet without a token, with both IDs. -/
structure FirstInitial (datagram : List UInt8) (header : RetryInitial) : Prop where
  read : readInitial datagram = .ok (some header)
  untokened : header.token = []
  destination_ne : header.destinationConnectionId ≠ []
  source_ne : header.sourceConnectionId ≠ []

/-- The token for the address of a peer. -/
def peerToken (crypto : RetryCrypto) (secret : List UInt8) (issuedAt : UInt64) (peer : UdpAddress)
    (original : List UInt8) : List UInt8 :=
  retryToken crypto secret issuedAt (udpAddressEncode peer udpAddressEncodedLength) original

/-- The Retry in front of its tag. -/
def serverRetryFront (crypto : RetryCrypto) (retry : ServerRetry) (header : RetryInitial)
    (peer : UdpAddress) (now : UInt64) : List UInt8 :=
  retryPacketFront quicVersion1 header.sourceConnectionId retry.sourceConnectionId
    (peerToken crypto retry.secret now peer header.destinationConnectionId)

/-- The Retry with its tag. -/
def serverRetryPacket (crypto : RetryCrypto) (retry : ServerRetry) (header : RetryInitial)
    (peer : UdpAddress) (now : UInt64) : List UInt8 :=
  serverRetryFront crypto retry header peer now ++
    crypto.sealEmpty (UInt8.ofNat header.destinationConnectionId.length ::
      (header.destinationConnectionId ++ serverRetryFront crypto retry header peer now))

lemma length_peerToken (secret : List UInt8) (issuedAt : UInt64) (original : List UInt8) :
    (peerToken crypto secret issuedAt peer original).length = 58 + original.length := by
  have haddress : (udpAddressEncode peer udpAddressEncodedLength).length ≤
      quicRetryTokenAddressMax := by
    rw [length_udpAddressEncode]
    decide
  have hlen := (@retryToken_split crypto secret (udpAddressEncode peer udpAddressEncodedLength)
    original issuedAt haddress).1
  rw [peerToken, hlen]
  unfold quicRetryTokenOffsetOdcid quicRetryTokenOffsetOdcidLength quicRetryTokenOffsetAddress
    quicRetryTokenAddressMax quicRetryTokenTagLen
  omega

lemma length_serverRetryFront (harmed : retry.Armed) (hfirst : FirstInitial datagram header) :
    (serverRetryFront crypto retry header peer now).length ≤ 128 := by
  obtain ⟨hdestination, hsource⟩ := readInitial_lengths hfirst.read
  have hid := harmed.idLen
  unfold quicMaxConnectionIdLength at hdestination hsource hid
  simp only [serverRetryFront, retryPacketFront, connectionIdBytes, List.length_cons,
    List.length_append, BigEndian.length_bytes, length_peerToken]
  omega

/-- A server that is armed answers a first packet with a Retry, when it has room for one. -/
lemma runtimeServerRetryBuild_eq (harmed : retry.Armed) (hfirst : FirstInitial datagram header)
    (hroom : runtimeServerRetryMax ≤ capacity) :
    runtimeServerRetryBuild crypto retry datagram peer now capacity =
      ({ retry with retriesSent := retry.retriesSent + 1 }, .ok,
        some (serverRetryPacket crypto retry header peer now)) := by
  obtain ⟨hdestination, hsource⟩ := readInitial_lengths hfirst.read
  have hfront := @length_serverRetryFront crypto retry datagram peer now header harmed hfirst
  have haddress := length_udpAddressEncode peer
  unfold runtimeServerRetryMax at hroom
  have htoken : quicRetryTokenBuild crypto retry.secret
      (udpAddressEncode peer udpAddressEncodedLength) header.destinationConnectionId now
      quicRetryTokenMax =
        .ok (peerToken crypto retry.secret now peer header.destinationConnectionId) := by
    refine quicRetryTokenBuild_eq crypto (List.ne_nil_of_length_pos ?_) ?_ hfirst.destination_ne
      hdestination le_rfl
    · rw [haddress]
      decide
    · rw [haddress]
      decide
  have hwritable : RetryWritable header.sourceConnectionId retry.sourceConnectionId :=
    ⟨hsource, harmed.idLen, harmed.id_ne⟩
  have hencode : ∀ tag : List UInt8, tag.length = quicRetryIntegrityTagLen →
      ∃ w, quicRetryPacketEncode (writerInit capacity) quicVersion1 header.sourceConnectionId
          retry.sourceConnectionId
          (peerToken crypto retry.secret now peer header.destinationConnectionId) tag = .ok w ∧
        w.bytes = serverRetryFront crypto retry header peer now ++ tag := by
    intro tag htag
    refine quicRetryPacketEncode_eq hwritable ?_
    rw [List.length_append, htag]
    unfold serverRetryFront at hfront
    unfold quicRetryIntegrityTagLen
    omega
  obtain ⟨first, hfirstPass, hfirstBytes⟩ := hencode (List.replicate quicRetryIntegrityTagLen 0)
    List.length_replicate
  have hcut : first.bytes.take (first.bytes.length - quicRetryIntegrityTagLen) =
      serverRetryFront crypto retry header peer now := by
    rw [hfirstBytes, List.length_append, List.length_replicate, Nat.add_sub_cancel, List.take_left]
  have htag : quicRetryIntegrityTag crypto header.destinationConnectionId
      (serverRetryFront crypto retry header peer now) =
        .ok (crypto.sealEmpty (UInt8.ofNat header.destinationConnectionId.length ::
          (header.destinationConnectionId ++ serverRetryFront crypto retry header peer now))) := by
    unfold quicMaxConnectionIdLength at hdestination
    rw [quicRetryIntegrityTag, if_neg (not_lt.mpr hdestination), if_neg]
    unfold quicRetryPseudoMax
    omega
  obtain ⟨second, hsecondPass, hsecondBytes⟩ := hencode _ (crypto.sealEmpty_length
    (UInt8.ofNat header.destinationConnectionId.length ::
      (header.destinationConnectionId ++ serverRetryFront crypto retry header peer now)))
  have hwrite : writeRetry crypto retry header
      (peerToken crypto retry.secret now peer header.destinationConnectionId) capacity =
        .ok (serverRetryPacket crypto retry header peer now) := by
    unfold writeRetry
    dsimp only [bind, Except.bind]
    rw [hfirstPass]
    dsimp only
    rw [hcut, htag]
    dsimp only
    rw [hsecondPass]
    exact congrArg Except.ok hsecondBytes
  have hdestinationPos := List.length_pos_iff.mpr hfirst.destination_ne
  have hsourcePos := List.length_pos_iff.mpr hfirst.source_ne
  rw [runtimeServerRetryBuild, if_neg (by rw [harmed.armed]; exact nofun), hfirst.read]
  dsimp only
  rw [if_neg (by rw [hfirst.untokened]; exact not_not.mpr rfl), if_neg (by omega),
    if_neg (by rw [haddress]; decide), htoken]
  dsimp only [bind, Except.bind]
  rw [hwrite]

/-! ## The token that comes back -/

lemma retryDecode_serverRetryPacket (layer : PacketLayer) (harmed : retry.Armed)
    (hfirst : FirstInitial datagram header) :
    (layer.withRetry crypto).retryDecode (serverRetryPacket crypto retry header peer now) =
      some ⟨quicVersion1.toNat, retry.sourceConnectionId,
        peerToken crypto retry.secret now peer header.destinationConnectionId⟩ := by
  have hdecode : quicRetryPacketDecode (serverRetryPacket crypto retry header peer now) = _ :=
    quicRetryPacketDecode_bytes ⟨(readInitial_lengths hfirst.read).2, harmed.idLen, harmed.id_ne⟩
      (crypto.sealEmpty_length _)
  change (quicRetryPacketDecode (serverRetryPacket crypto retry header peer now)).toOption.map
    _ = _
  rw [hdecode]
  rfl

/-- A client of the version of the Retry takes the one that answers its packet. -/
lemma onRetryPacket_serverRetryPacket {env : Env} (layer : PacketLayer) {r : Receiver}
    (harmed : retry.Armed) (hfirst : FirstInitial datagram header)
    (hother : retry.sourceConnectionId ≠ header.destinationConnectionId)
    (hwaits : AwaitsRetry env header.destinationConnectionId r)
    (hversion : r.connection.config.version = quicVersion1.toNat) {fuel : ℕ}
    (hfuel : 3 * quicSentPacketsMax < fuel) :
    ∃ r', onRetryPacket (layer.withRetry crypto) env fuel
        (serverRetryPacket crypto retry header peer now) r = some (r', .ok) ∧
      RetryTaken ⟨quicVersion1.toNat, retry.sourceConnectionId,
        peerToken crypto retry.secret now peer header.destinationConnectionId⟩ r' := by
  have hdestination := (readInitial_lengths hfirst.read).1
  have hfront := @length_serverRetryFront crypto retry datagram peer now header harmed hfirst
  have htokenLen := @length_peerToken crypto peer retry.secret now header.destinationConnectionId
  unfold quicMaxConnectionIdLength at hdestination
  have htag : quicRetryIntegrityTag crypto header.destinationConnectionId
      (serverRetryFront crypto retry header peer now) =
        .ok (crypto.sealEmpty (UInt8.ofNat header.destinationConnectionId.length ::
          (header.destinationConnectionId ++ serverRetryFront crypto retry header peer now))) := by
    rw [quicRetryIntegrityTag, if_neg (not_lt.mpr hdestination), if_neg]
    unfold quicRetryPseudoMax
    omega
  refine onRetryPacket_taken hwaits (retryDecode_serverRetryPacket layer harmed hfirst)
    hversion.symm ?_ ?_ harmed.id_ne harmed.idLen hother ?_ hfuel
  · refine List.ne_nil_of_length_pos ?_
    dsimp only
    omega
  · unfold quicMaxRetryToken
    dsimp only
    omega
  · change (quicRetryIntegrityVerify crypto header.destinationConnectionId
      (serverRetryPacket crypto retry header peer now)).isOk = true
    rw [serverRetryPacket, quicRetryIntegrityVerify_tag crypto htag]
    rfl

/-- A valid token in a packet for the server's ID is accepted. -/
lemma runtimeServerRetryAccept_eq {original : List UInt8} (harmed : retry.Armed)
    (hread : readInitial datagram = .ok (some header))
    (hid : header.destinationConnectionId = retry.sourceConnectionId)
    (hvalid : quicRetryTokenValidate crypto retry.secret
      (udpAddressEncode peer udpAddressEncodedLength) now retry.tokenMaxAge header.token capacity =
        .ok original) :
    runtimeServerRetryAccept crypto retry datagram peer now capacity =
      (retry, .ok, some original) := by
  have htoken : ¬header.token.length = 0 := by
    intro hzero
    obtain ⟨-, -, -, issuedAt, htext, -⟩ := (quicRetryTokenValidate_eq_ok crypto).mp hvalid
    have hlen := @length_peerToken crypto peer retry.secret issuedAt original
    rw [peerToken, ← htext, hzero] at hlen
    omega
  rw [runtimeServerRetryAccept, if_neg (by rw [harmed.armed]; exact nofun), hread]
  dsimp only
  rw [if_neg htoken, if_neg (not_not.mpr hid),
    if_neg (by rw [length_udpAddressEncode]; decide), hvalid]

/-- What is accepted is a valid token in a packet for the server's ID. -/
lemma valid_of_runtimeServerRetryAccept {original : List UInt8}
    (h : (runtimeServerRetryAccept crypto retry datagram peer now capacity).2.2 = some original) :
    ∃ header, readInitial datagram = .ok (some header) ∧
      header.destinationConnectionId = retry.sourceConnectionId ∧
      quicRetryTokenValidate crypto retry.secret (udpAddressEncode peer udpAddressEncodedLength)
        now retry.tokenMaxAge header.token capacity = .ok original := by
  unfold runtimeServerRetryAccept at h
  by_cases harmed : (!retry.armed) = true
  · rw [if_pos harmed] at h
    cases h
  rw [if_neg harmed] at h
  split at h
  · cases h
  · cases h
  · rename_i header hread
    by_cases htoken : header.token.length = 0
    · rw [if_pos htoken] at h
      cases h
    rw [if_neg htoken] at h
    by_cases hid : header.destinationConnectionId = retry.sourceConnectionId
    · rw [if_neg (not_not.mpr hid)] at h
      dsimp only at h
      rw [if_neg (by rw [length_udpAddressEncode]; decide)] at h
      split at h
      · cases h
      · rename_i validated hvalid
        obtain rfl := Option.some.inj h
        exact ⟨header, hread, hid, hvalid⟩
    · rw [if_pos hid] at h
      cases h

/-- A token in front of its tag. -/
def tokenFront (token : List UInt8) : List UInt8 :=
  token.take (token.length - quicRetryTokenTagLen)

/-- The tag of a token. -/
def tokenTag (token : List UInt8) : List UInt8 :=
  token.drop (token.length - quicRetryTokenTagLen)

/-- What an accepted token says: it was issued for the peer, at a time that is not yet to come nor
too long ago, with the secret and the ID of the server. Where no two inputs of the tag have the same
tag, a token of another secret, another peer, another ID or another time is not accepted, and
neither is one that has only its tag, or only what is in front of the tag, from an issued one. -/
structure RetryValidated (crypto : RetryCrypto) (keyed : Set (List UInt8 × List UInt8))
    (retry : ServerRetry) (header : RetryInitial) (peer : UdpAddress) (now : UInt64)
    (original : List UInt8) : Prop where
  addressed : header.destinationConnectionId = retry.sourceConnectionId
  issued : ∃ issuedAt, header.token = peerToken crypto retry.secret issuedAt peer original ∧
    issuedAt ≤ now ∧ now - issuedAt ≤ retry.tokenMaxAge
  bound : ∀ secret issuedAt peer' original',
    header.token = peerToken crypto secret issuedAt peer' original' →
    (secret, tokenFront header.token) ∈ keyed → (retry.secret, tokenFront header.token) ∈ keyed →
    secret = retry.secret ∧ peer' = peer ∧ original' = original ∧
      issuedAt ≤ now ∧ now - issuedAt ≤ retry.tokenMaxAge
  unaltered : ∀ token issuedAt peer' original',
    token = peerToken crypto retry.secret issuedAt peer' original' → header.token ≠ token →
    (retry.secret, tokenFront token) ∈ keyed → (retry.secret, tokenFront header.token) ∈ keyed →
    tokenFront header.token ≠ tokenFront token ∧ tokenTag header.token ≠ tokenTag token

lemma runtimeServerRetryAccept_validated {keyed : Set (List UInt8 × List UInt8)}
    (hkeyed : keyed.InjOn fun input => retryTokenTag crypto input.1 input.2)
    (hage : retry.tokenMaxAge ≠ 0) {original : List UInt8}
    (h : (runtimeServerRetryAccept crypto retry datagram peer now capacity).2.2 = some original) :
    ∃ header, readInitial datagram = .ok (some header) ∧
      RetryValidated crypto keyed retry header peer now original := by
  obtain ⟨header, hread, hid, hvalid⟩ := valid_of_runtimeServerRetryAccept h
  obtain ⟨-, -, -, issuedAt, htext, htime⟩ := (quicRetryTokenValidate_eq_ok crypto).mp hvalid
  have hshort : ∀ peer : UdpAddress,
      (udpAddressEncode peer udpAddressEncodedLength).length ≤ quicRetryTokenAddressMax := by
    intro peer
    rw [length_udpAddressEncode]
    decide
  have hfront : ∀ (secret : List UInt8) (issuedAt : UInt64) (peer : UdpAddress)
      (original : List UInt8), tokenFront (peerToken crypto secret issuedAt peer original) =
        retryTokenBody issuedAt (udpAddressEncode peer udpAddressEncodedLength) original :=
    fun _ _ peer _ => (retryToken_split crypto (hshort peer)).2.1
  have hlength : ∀ peer' : UdpAddress,
      (udpAddressEncode peer udpAddressEncodedLength).length =
        (udpAddressEncode peer' udpAddressEncodedLength).length := by
    intro peer'
    rw [length_udpAddressEncode, length_udpAddressEncode]
  obtain ⟨hpast, hyoung⟩ := htime hage
  refine ⟨header, hread, hid, ⟨issuedAt, htext, hpast, hyoung⟩, ?_, ?_⟩
  · intro secret issuedAt' peer' original' hmade hmem hmem'
    have hours : tokenFront header.token = _ :=
      (congrArg tokenFront htext).trans (hfront retry.secret issuedAt peer original)
    have htheirs : tokenFront header.token = _ :=
      (congrArg tokenFront hmade).trans (hfront secret issuedAt' peer' original')
    rw [htheirs] at hmem
    rw [hours] at hmem'
    obtain ⟨hsecret, hissued, haddress, horiginal⟩ :=
      retryToken_injective crypto hkeyed (hshort peer) (hlength peer') hmem' hmem
        (htext.symm.trans hmade)
    exact ⟨hsecret.symm, (udpAddressEncode_injective haddress).symm, horiginal.symm,
      hissued ▸ hpast, hissued ▸ hyoung⟩
  · rintro token issuedAt' peer' original' rfl hne hmem hmem'
    have hours : header.token = peerToken crypto retry.secret issuedAt peer original := htext
    rw [hours] at hne hmem' ⊢
    rw [hfront] at hmem hmem'
    exact retryToken_apart crypto hkeyed (hshort peer) (hshort peer') hmem' hmem hne

end Server

variable (crypto : RetryCrypto)

/-- A Retry that answers a first packet of version 1 is taken by the client that sent it, its token
is accepted from the same peer as long as it may be used, and names the ID that the first packet
was for; and what is accepted is a token that was issued for the peer. -/
theorem serverRetry_validatesAddress (retry : ServerRetry) (harmed : retry.Armed)
    (hage : retry.tokenMaxAge ≠ 0) (initial : List UInt8) (header : RetryInitial)
    (hfirst : FirstInitial initial header)
    (hversion : headerVersion initial = quicVersion1.toNat)
    (hother : retry.sourceConnectionId ≠ header.destinationConnectionId) (peer : UdpAddress)
    (now : UInt64) (capacity : ℕ) (hroom : runtimeServerRetryMax ≤ capacity) :
    let token := peerToken crypto retry.secret now peer header.destinationConnectionId
    (∃ after packet,
      runtimeServerRetryBuild crypto retry initial peer now capacity =
        (after, .ok, some packet) ∧ after.keys = retry.keys ∧
      ∀ (layer : PacketLayer) (env : Env) (r : Receiver),
        AwaitsRetry env header.destinationConnectionId r →
        r.connection.config.version = headerVersion initial →
        ∀ fuel, 3 * quicSentPacketsMax < fuel →
          ∃ r', onRetryPacket (layer.withRetry crypto) env fuel packet r = some (r', .ok) ∧
            RetryTaken ⟨headerVersion initial, retry.sourceConnectionId, token⟩ r') ∧
    (∀ later : ServerRetry, later.keys = retry.keys →
      ∀ (answer : List UInt8) (header' : RetryInitial) (now' : UInt64) (room : ℕ),
        readInitial answer = .ok (some header') → header'.token = token →
        header'.destinationConnectionId = retry.sourceConnectionId →
        now ≤ now' → now' - now ≤ retry.tokenMaxAge →
        header.destinationConnectionId.length ≤ room →
        runtimeServerRetryAccept crypto later answer peer now' room =
          (later, .ok, some header.destinationConnectionId)) ∧
    ∀ keyed : Set (List UInt8 × List UInt8),
      (keyed.InjOn fun input => retryTokenTag crypto input.1 input.2) →
      ∀ other : ServerRetry, other.tokenMaxAge ≠ 0 →
      ∀ (datagram : List UInt8) (peer' : UdpAddress) (now' : UInt64) (room : ℕ)
        (original : List UInt8),
        (runtimeServerRetryAccept crypto other datagram peer' now' room).2.2 = some original →
        ∃ header', readInitial datagram = .ok (some header') ∧
          RetryValidated crypto keyed other header' peer' now' original := by
  dsimp only
  refine ⟨⟨_, _, runtimeServerRetryBuild_eq harmed hfirst hroom, rfl, ?_⟩, ?_, ?_⟩
  · intro layer env r hwaits hsent fuel hfuel
    rw [hversion] at hsent ⊢
    exact onRetryPacket_serverRetryPacket layer harmed hfirst hother hwaits hsent hfuel
  · intro later hkeys answer header' now' room hread htoken hid hpast hyoung hfits
    obtain ⟨hlater, hsecret, hsource, hmaxAge⟩ := harmed.of_keys hkeys
    have haddress := length_udpAddressEncode peer
    have hvalid : quicRetryTokenValidate crypto later.secret
        (udpAddressEncode peer udpAddressEncodedLength) now' later.tokenMaxAge header'.token room =
          .ok header.destinationConnectionId := by
      refine (quicRetryTokenValidate_eq_ok crypto).mpr ⟨⟨List.ne_nil_of_length_pos ?_, ?_⟩,
        ⟨hfirst.destination_ne, (readInitial_lengths hfirst.read).1⟩, hfits, now, ?_, fun _ => ?_⟩
      · rw [haddress]
        decide
      · rw [haddress]
        decide
      · rw [htoken, hsecret]
        rfl
      · rw [hmaxAge]
        exact ⟨hpast, hyoung⟩
    exact runtimeServerRetryAccept_eq hlater hread (hid.trans hsource.symm) hvalid
  · intro keyed hkeyed other hotherAge datagram peer' now' room original haccept
    exact runtimeServerRetryAccept_validated hkeyed hotherAge haccept

/-- A cryptography of prefixes, to run a round trip with. -/
def plainRetryCrypto : RetryCrypto where
  hmacSha256        := fun _ data => (data ++ List.replicate 32 0).take 32
  hmacSha256_length := fun _ data => by simp
  sealEmpty         := fun data => (data ++ List.replicate 16 0).take 16
  sealEmpty_length  := fun data => by simp

/-- A server that was armed. -/
def plainServerRetry : ServerRetry :=
  (runtimeServerRetryArm 8 1000 (.ok (List.replicate 32 7)) (.ok (List.replicate 8 9))).1

/-- An address of the local host. -/
def localPeer : UdpAddress where
  family  := .ipv4
  port    := 4433
  scopeId := 0
  bytes   := fun i => if i = 0 then 127 else if i = 3 then 1 else 0

/-- The front of an Initial packet of a version, for an ID and with a token behind its length. -/
def initialFront (version : UInt8) (destination token : List UInt8) : List UInt8 :=
  [0xc0, 0, 0, 0, version, 8] ++ destination ++ [4, 6, 6, 6, 6] ++ token

/-- What a server reads of a first packet. -/
def plainInitial : RetryInitial := ⟨List.replicate 8 5, [6, 6, 6, 6], []⟩

/-- A client of a version that has sent nothing but its first packet. -/
def retryWaitingClient (version : ℕ) : Receiver where
  connection := { keyedServer with
    config := { serverConfig with role := .client, version := version }
    originalDestinationId := List.replicate 8 5 }

lemma plainServerRetry_armed : plainServerRetry.Armed :=
  (runtimeServerRetryArm_armed (List.length_replicate) (List.length_replicate)
    (show runtimeServerRetryArm 8 1000 (.ok (List.replicate 32 7)) (.ok (List.replicate 8 9)) =
      (plainServerRetry, .ok) from rfl)).1

lemma firstInitial_plain (version : UInt8)
    (h : readInitial (initialFront version (List.replicate 8 5) [0]) = .ok (some plainInitial)) :
    FirstInitial (initialFront version (List.replicate 8 5) [0]) plainInitial :=
  ⟨h, rfl, by decide, by decide⟩

lemma waitingClient_awaits (version : ℕ) :
    AwaitsRetry steadyEnv plainInitial.destinationConnectionId (retryWaitingClient version) where
  role := rfl
  original := rfl
  first := rfl
  unanswered := rfl
  reachable := ⟨{ serverConfig with role := .client, version := version }, _, rfl,
    .single (.other (.of_eq rfl rfl))⟩
  unacked _ := rfl

/-- A round trip: the server answers, the client takes the Retry, and half a second later the token
is accepted. -/
theorem serverRetry_validatesAddress_local :
    let token := peerToken plainRetryCrypto plainServerRetry.secret 50 localPeer
      (List.replicate 8 5)
    (∃ after packet r', runtimeServerRetryBuild plainRetryCrypto plainServerRetry
        (initialFront 1 (List.replicate 8 5) [0]) localPeer 50 256 = (after, .ok, some packet) ∧
      onRetryPacket (pingLayer.withRetry plainRetryCrypto) steadyEnv 1000 packet
        (retryWaitingClient 1) = some (r', .ok) ∧
      RetryTaken ⟨1, List.replicate 8 9, token⟩ r') ∧
    runtimeServerRetryAccept plainRetryCrypto plainServerRetry
      (initialFront 1 (List.replicate 8 9) ([0x40, 66] ++ token)) localPeer 550 20 =
        (plainServerRetry, .ok, some (List.replicate 8 5)) := by
  obtain ⟨⟨after, packet, hbuild, -, htaken⟩, haccept, -⟩ :=
    serverRetry_validatesAddress plainRetryCrypto plainServerRetry plainServerRetry_armed
      (by decide) (initialFront 1 (List.replicate 8 5) [0]) plainInitial
      (firstInitial_plain 1 (by decide +kernel)) (by decide) (by decide) localPeer 50 256 le_rfl
  obtain ⟨r', htake, hretry⟩ := htaken pingLayer steadyEnv (retryWaitingClient 1)
    (waitingClient_awaits 1) rfl 1000 (by decide)
  exact ⟨⟨after, packet, r', hbuild, htake, hretry⟩,
    haccept plainServerRetry rfl _ ⟨List.replicate 8 9, [6, 6, 6, 6], _⟩ 550 20
      (by decide +kernel) rfl rfl (by decide) (by decide) (by decide)⟩

/-- A client of another version throws the Retry away that answers its first packet. And a token
that differs from an issued one is accepted when it was issued itself, at another time. -/
theorem serverRetry_otherVersion :
    (∃ after packet, FirstInitial (initialFront 2 (List.replicate 8 5) [0]) plainInitial ∧
      AwaitsRetry steadyEnv plainInitial.destinationConnectionId (retryWaitingClient 2) ∧
      (retryWaitingClient 2).connection.config.version =
        headerVersion (initialFront 2 (List.replicate 8 5) [0]) ∧
      runtimeServerRetryBuild plainRetryCrypto plainServerRetry
        (initialFront 2 (List.replicate 8 5) [0]) localPeer 50 256 = (after, .ok, some packet) ∧
      ∀ fuel, onRetryPacket (pingLayer.withRetry plainRetryCrypto) steadyEnv fuel packet
        (retryWaitingClient 2) = some (retryWaitingClient 2, .ok)) ∧
    let token := peerToken plainRetryCrypto plainServerRetry.secret 50 localPeer
      (List.replicate 8 5)
    let later := peerToken plainRetryCrypto plainServerRetry.secret 60 localPeer
      (List.replicate 8 5)
    later ≠ token ∧
      (runtimeServerRetryAccept plainRetryCrypto plainServerRetry
        (initialFront 1 (List.replicate 8 9) ([0x40, 66] ++ later)) localPeer 550 20).2.2 =
          some (List.replicate 8 5) := by
  have hfirst := firstInitial_plain 2 (by decide +kernel)
  refine ⟨⟨_, _, hfirst, waitingClient_awaits 2, by decide,
    runtimeServerRetryBuild_eq plainServerRetry_armed hfirst le_rfl, fun fuel => ?_⟩,
    by decide +kernel⟩
  exact onRetryPacket_otherVersion
    (retryDecode_serverRetryPacket pingLayer plainServerRetry_armed hfirst) (by decide) fuel

end WebTransport
