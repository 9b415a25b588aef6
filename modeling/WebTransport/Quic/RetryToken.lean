import WebTransport.Lib.Guard
import WebTransport.Quic.Frame
import Mathlib.Data.Set.Function

/-!
# Retry tokens

What a server hands out to validate the address of a client (`quic/retry_token.c`). It keeps
nothing of the client, so that a token carries what is checked later: the time, the address and the
connection ID that the client's first packet was for, with a tag over all of them. A token is valid
exactly when it is the one that would have been built.
-/

namespace WebTransport

/-- The cryptography under a Retry. -/
structure RetryCrypto where
  hmacSha256 : List UInt8 → List UInt8 → List UInt8
  hmacSha256_length : ∀ key data, (hmacSha256 key data).length = 32
  /-- The tag of an empty text under the key and the nonce of a Retry (`wt_aead_seal`), over the
  data that is authenticated. -/
  sealEmpty : List UInt8 → List UInt8
  sealEmpty_length : ∀ data, (sealEmpty data).length = 16

/-- `WT_QUIC_RETRY_TOKEN_FORMAT`. -/
def quicRetryTokenFormat : UInt8 := 0x01

/-- `WT_QUIC_RETRY_TOKEN_SECRET_LEN`. -/
def quicRetryTokenSecretLen : ℕ := 32

/-- `WT_QUIC_RETRY_TOKEN_ADDRESS_MAX`. -/
def quicRetryTokenAddressMax : ℕ := 32

/-- `WT_QUIC_RETRY_TOKEN_TAG_LEN`. -/
def quicRetryTokenTagLen : ℕ := 16

/-- `WT_QUIC_RETRY_TOKEN_MAX`. -/
def quicRetryTokenMax : ℕ := 78

/-- `WT_QUIC_RETRY_TOKEN_OFFSET_TIME`. -/
def quicRetryTokenOffsetTime : ℕ := 1

/-- `WT_QUIC_RETRY_TOKEN_OFFSET_ADDRESS`. -/
def quicRetryTokenOffsetAddress : ℕ := 9

/-- `WT_QUIC_RETRY_TOKEN_OFFSET_ODCID_LENGTH`. -/
def quicRetryTokenOffsetOdcidLength : ℕ := quicRetryTokenOffsetAddress + quicRetryTokenAddressMax

/-- `WT_QUIC_RETRY_TOKEN_OFFSET_ODCID`. -/
def quicRetryTokenOffsetOdcid : ℕ := quicRetryTokenOffsetOdcidLength + 1

/-- An address with zeros behind it, so that what follows it has a place of its own. -/
def paddedAddress (address : List UInt8) : List UInt8 :=
  address ++ List.replicate (quicRetryTokenAddressMax - address.length) 0

/-- What the tag covers (`token_body_header`, and the connection ID behind it). -/
def retryTokenBody (issuedAt : UInt64) (address original : List UInt8) : List UInt8 :=
  quicRetryTokenFormat :: (BigEndian.bytes 8 issuedAt.toNat ++
    (paddedAddress address ++ (UInt8.ofNat original.length :: original)))

variable (crypto : RetryCrypto)

/-- `token_tag`. -/
def retryTokenTag (secret body : List UInt8) : List UInt8 :=
  (crypto.hmacSha256 secret body).take quicRetryTokenTagLen

/-- A token: its body and the tag. -/
def retryToken (secret : List UInt8) (issuedAt : UInt64) (address original : List UInt8) :
    List UInt8 :=
  retryTokenBody issuedAt address original ++
    retryTokenTag crypto secret (retryTokenBody issuedAt address original)

/-- `wt_quic_retry_token_build`. -/
def quicRetryTokenBuild (secret address original : List UInt8) (now : UInt64) (capacity : ℕ) :
    Except Status (List UInt8) :=
  if address.length = 0 ∨ quicRetryTokenAddressMax < address.length then .error .invalidArgument
  else if original.length = 0 ∨ quicMaxConnectionIdLength < original.length then
    .error .invalidArgument
  else
    let bodyLength := quicRetryTokenOffsetOdcid + original.length
    if capacity < bodyLength + quicRetryTokenTagLen then .error .limit
    else if quicRetryTokenMax < bodyLength + quicRetryTokenTagLen then .error .limit
    else .ok (retryToken crypto secret now address original)

/-- `wt_quic_retry_token_validate`: the connection ID that a token was built for. -/
def quicRetryTokenValidate (secret address : List UInt8) (now maxAge : UInt64)
    (token : List UInt8) (capacity : ℕ) : Except Status (List UInt8) :=
  if address.length = 0 ∨ quicRetryTokenAddressMax < address.length then .error .invalidArgument
  else if token.length < quicRetryTokenOffsetOdcid + 1 + quicRetryTokenTagLen ∨
      quicRetryTokenMax < token.length then .error .authentication
  else if token.headD 0 ≠ quicRetryTokenFormat then .error .authentication
  else
    let originalLength := ((token.drop quicRetryTokenOffsetOdcidLength).headD 0).toNat
    if originalLength = 0 ∨ quicMaxConnectionIdLength < originalLength then .error .authentication
    else
      let bodyLength := quicRetryTokenOffsetOdcid + originalLength
      if bodyLength + quicRetryTokenTagLen ≠ token.length then .error .authentication
      -- The tag first: no other field is looked at before it has authenticated the token.
      else if retryTokenTag crypto secret (token.take bodyLength) ≠ token.drop bodyLength then
        .error .authentication
      else if paddedAddress address ≠
          (token.drop quicRetryTokenOffsetAddress).take quicRetryTokenAddressMax then
        .error .authentication
      else
        let issuedAt :=
          UInt64.ofNat (((token.drop quicRetryTokenOffsetTime).take 8).foldl BigEndian.push 0)
        if maxAge ≠ 0 ∧ (now < issuedAt ∨ maxAge < now - issuedAt) then .error .state
        else if capacity < originalLength then .error .limit
        else .ok ((token.drop quicRetryTokenOffsetOdcid).take originalLength)

/-! ## The layout -/

section Layout

variable {secret address original : List UInt8} {issuedAt now maxAge : UInt64} {capacity : ℕ}

lemma length_paddedAddress (h : address.length ≤ quicRetryTokenAddressMax) :
    (paddedAddress address).length = quicRetryTokenAddressMax := by
  rw [paddedAddress, List.length_append, List.length_replicate]
  omega

lemma length_retryTokenBody (h : address.length ≤ quicRetryTokenAddressMax) :
    (retryTokenBody issuedAt address original).length =
      quicRetryTokenOffsetOdcid + original.length := by
  rw [retryTokenBody, List.length_cons, List.length_append, List.length_append, List.length_cons,
    BigEndian.length_bytes, length_paddedAddress h]
  unfold quicRetryTokenOffsetOdcid quicRetryTokenOffsetOdcidLength quicRetryTokenOffsetAddress
  omega

lemma length_retryTokenTag (secret body : List UInt8) :
    (retryTokenTag crypto secret body).length = quicRetryTokenTagLen := by
  rw [retryTokenTag, List.length_take, crypto.hmacSha256_length]
  rfl

/-- A token is built when the ID and the address are of their lengths and there is room. -/
lemma quicRetryTokenBuild_eq (hsome : address ≠ [])
    (haddress : address.length ≤ quicRetryTokenAddressMax) (hid : original ≠ [])
    (hidLen : original.length ≤ quicMaxConnectionIdLength) (hroom : quicRetryTokenMax ≤ capacity) :
    quicRetryTokenBuild crypto secret address original now capacity =
      .ok (retryToken crypto secret now address original) := by
  have hmax : quicRetryTokenOffsetOdcid + original.length + quicRetryTokenTagLen ≤
      quicRetryTokenMax := by
    unfold quicRetryTokenMax quicRetryTokenTagLen quicRetryTokenOffsetOdcid
      quicRetryTokenOffsetOdcidLength quicRetryTokenOffsetAddress quicRetryTokenAddressMax
    unfold quicMaxConnectionIdLength at hidLen
    omega
  have haddress' := List.length_pos_iff.mpr hsome
  have hid' := List.length_pos_iff.mpr hid
  rw [quicRetryTokenBuild, if_neg (by omega), if_neg (by omega)]
  dsimp only
  rw [if_neg (by omega), if_neg (by omega)]

/-- The fields of a text that begins like a body, behind its format. -/
lemma body_parts (time padded rest : List UInt8) (length : UInt8) (htime : time.length = 8)
    (hpadded : padded.length = quicRetryTokenAddressMax) :
    let text := quicRetryTokenFormat :: (time ++ (padded ++ (length :: rest)))
    text.drop quicRetryTokenOffsetTime = time ++ (padded ++ (length :: rest)) ∧
      text.drop quicRetryTokenOffsetAddress = padded ++ (length :: rest) ∧
      text.drop quicRetryTokenOffsetOdcidLength = length :: rest ∧
      text.drop quicRetryTokenOffsetOdcid = rest := by
  have haddress : (quicRetryTokenFormat :: (time ++ (padded ++ (length :: rest)))).drop
      quicRetryTokenOffsetAddress = padded ++ (length :: rest) := by
    change (time ++ (padded ++ (length :: rest))).drop 8 = _
    rw [← htime, List.drop_left]
  have hlength : (quicRetryTokenFormat :: (time ++ (padded ++ (length :: rest)))).drop
      quicRetryTokenOffsetOdcidLength = length :: rest := by
    rw [quicRetryTokenOffsetOdcidLength, ← List.drop_drop, haddress, ← hpadded, List.drop_left]
  refine ⟨rfl, haddress, hlength, ?_⟩
  rw [quicRetryTokenOffsetOdcid, ← List.drop_drop, hlength]
  rfl

/-- A text of the right length that begins with the format has the fields of a body. -/
lemma exists_body_parts {token : List UInt8}
    (hlen : quicRetryTokenOffsetOdcid ≤ token.length)
    (hformat : token.headD 0 = quicRetryTokenFormat) :
    ∃ (time padded rest : List UInt8) (length : UInt8), time.length = 8 ∧
      padded.length = quicRetryTokenAddressMax ∧
      token = quicRetryTokenFormat :: (time ++ (padded ++ (length :: rest))) := by
  unfold quicRetryTokenOffsetOdcid quicRetryTokenOffsetOdcidLength quicRetryTokenOffsetAddress
    quicRetryTokenAddressMax at hlen
  match token with
  | [] => cases hlen
  | first :: text =>
    obtain rfl : first = quicRetryTokenFormat := hformat
    rw [List.length_cons] at hlen
    have hrest : (text.drop 8).drop 32 ≠ [] := by
      refine List.ne_nil_of_length_pos ?_
      rw [List.length_drop, List.length_drop]
      omega
    obtain ⟨length, rest, hsplit⟩ := List.exists_cons_of_ne_nil hrest
    refine ⟨text.take 8, (text.drop 8).take 32, rest, length, ?_, ?_, ?_⟩
    · rw [List.length_take]
      omega
    · rw [List.length_take, List.length_drop]
      unfold quicRetryTokenAddressMax
      omega
    · rw [← hsplit, List.take_append_drop, List.take_append_drop]

/-- A time that is written is read back. -/
lemma time_of_bytes (issuedAt : UInt64) :
    UInt64.ofNat ((BigEndian.bytes 8 issuedAt.toNat).foldl BigEndian.push 0) = issuedAt := by
  have hlt : issuedAt.toNat < 2 ^ 64 := issuedAt.toNat_lt
  rw [BigEndian.foldl_push_bytes, Nat.zero_mul, Nat.zero_add, Nat.mod_eq_of_lt (by omega)]
  exact UInt64.ofNat_toNat

/-- Eight bytes are those of the time that is read from them. -/
lemma bytes_of_time {time : List UInt8} (h : time.length = 8) :
    BigEndian.bytes 8 (UInt64.ofNat (time.foldl BigEndian.push 0)).toNat = time := by
  have hlt := BigEndian.foldl_push_lt time
  rw [h] at hlt
  rw [UInt64.toNat_ofNat_of_lt' (by omega), ← h]
  exact BigEndian.bytes_foldl_push time

/-- A token is valid exactly when it is the one that would have been built at some time, for the
same address and with the same secret, and the time is right. -/
theorem quicRetryTokenValidate_eq_ok {token : List UInt8} :
    quicRetryTokenValidate crypto secret address now maxAge token capacity = .ok original ↔
      (address ≠ [] ∧ address.length ≤ quicRetryTokenAddressMax) ∧
      (original ≠ [] ∧ original.length ≤ quicMaxConnectionIdLength) ∧
      original.length ≤ capacity ∧
      ∃ issuedAt, token = retryToken crypto secret issuedAt address original ∧
        (maxAge ≠ 0 → issuedAt ≤ now ∧ now - issuedAt ≤ maxAge) := by
  constructor
  · intro h
    obtain ⟨haddress, h₁⟩ := Guard.of_ok h
    obtain ⟨hlen, h₂⟩ := Guard.of_ok h₁
    obtain ⟨hformat, h₃⟩ := Guard.of_ok h₂
    obtain ⟨hid, h₄⟩ := Guard.of_ok h₃
    obtain ⟨htotal, h₅⟩ := Guard.of_ok h₄
    obtain ⟨htag, h₆⟩ := Guard.of_ok h₅
    obtain ⟨hpadded, h₇⟩ := Guard.of_ok h₆
    obtain ⟨htime, h₈⟩ := Guard.of_ok h₇
    obtain ⟨hroom, h₉⟩ := Guard.of_ok h₈
    push Not at haddress hlen hformat hid htotal htag hpadded htime hroom
    obtain ⟨time, padded, rest, length, htimeLen, hpaddedLen, rfl⟩ :=
      exists_body_parts (by omega) hformat
    obtain ⟨hafterFormat, hafterTime, hafterAddress, hafterLength⟩ :=
      body_parts time padded rest length htimeLen hpaddedLen
    rw [hafterAddress, List.headD_cons] at hid htotal htag hroom h₉
    have htextLen : (quicRetryTokenFormat :: (time ++ (padded ++ (length :: rest)))).length =
        quicRetryTokenOffsetOdcid + rest.length := by
      simp only [List.length_cons, List.length_append, htimeLen, hpaddedLen]
      unfold quicRetryTokenOffsetOdcid quicRetryTokenOffsetOdcidLength quicRetryTokenOffsetAddress
      omega
    have hrestLen : rest.length = length.toNat + quicRetryTokenTagLen := by omega
    obtain rfl : rest.take length.toNat = original := by
      rw [hafterLength] at h₉
      exact Except.ok.inj h₉
    have hidLen : (rest.take length.toNat).length = length.toNat := by
      rw [List.length_take]
      omega
    have haddressEq : padded = paddedAddress address := by
      rw [hafterTime, List.take_left' hpaddedLen] at hpadded
      exact hpadded.symm
    have hbody : (quicRetryTokenFormat :: (time ++ (padded ++ (length :: rest)))).take
        (quicRetryTokenOffsetOdcid + length.toNat) =
        retryTokenBody (UInt64.ofNat (time.foldl BigEndian.push 0)) address
          (rest.take length.toNat) := by
      rw [List.take_add, hafterLength, retryTokenBody, bytes_of_time htimeLen, hidLen,
        UInt8.ofNat_toNat, ← haddressEq]
      have hfront : (quicRetryTokenFormat :: (time ++ (padded ++ (length :: rest)))).take
          quicRetryTokenOffsetOdcid = quicRetryTokenFormat :: (time ++ (padded ++ [length])) := by
        have hsplit : quicRetryTokenFormat :: (time ++ (padded ++ (length :: rest))) =
            (quicRetryTokenFormat :: (time ++ (padded ++ [length]))) ++ rest := by simp
        rw [hsplit]
        refine List.take_left' ?_
        simp only [List.length_cons, List.length_append, htimeLen, hpaddedLen]
        rfl
      rw [hfront]
      simp
    refine ⟨⟨List.ne_nil_of_length_pos (by omega), haddress.2⟩,
      ⟨List.ne_nil_of_length_pos (by omega), by omega⟩, by omega,
      UInt64.ofNat (time.foldl BigEndian.push 0), ?_, fun hage => ?_⟩
    · rw [retryToken, ← hbody, htag, List.take_append_drop]
    · rw [hafterFormat, List.take_left' htimeLen] at htime
      obtain ⟨hpast, hyoung⟩ := htime hage
      exact ⟨UInt64.not_lt.mp hpast, UInt64.not_lt.mp hyoung⟩
  · rintro ⟨⟨hsome, haddress⟩, ⟨hid, hidLen⟩, hroom, issuedAt, rfl, htime⟩
    have hpos := List.length_pos_iff.mpr hsome
    have hidPos := List.length_pos_iff.mpr hid
    have hbody := @length_retryTokenBody address original issuedAt haddress
    have htag := length_retryTokenTag crypto secret (retryTokenBody issuedAt address original)
    have hlen : (retryToken crypto secret issuedAt address original).length =
        quicRetryTokenOffsetOdcid + original.length + quicRetryTokenTagLen := by
      rw [retryToken, List.length_append, hbody, htag]
    have hshape : retryToken crypto secret issuedAt address original =
        quicRetryTokenFormat :: (BigEndian.bytes 8 issuedAt.toNat ++ (paddedAddress address ++
          (UInt8.ofNat original.length ::
            (original ++ retryTokenTag crypto secret
              (retryTokenBody issuedAt address original))))) := by
      simp only [retryToken, retryTokenBody, List.cons_append, List.append_assoc]
    obtain ⟨hafterFormat, hafterTime, hafterAddress, hafterLength⟩ :=
      body_parts (BigEndian.bytes 8 issuedAt.toNat) (paddedAddress address)
        (original ++ retryTokenTag crypto secret (retryTokenBody issuedAt address original))
        (UInt8.ofNat original.length) (BigEndian.length_bytes _ _) (length_paddedAddress haddress)
    rw [← hshape] at hafterFormat hafterTime hafterAddress hafterLength
    have hidNat : (UInt8.ofNat original.length).toNat = original.length := by
      rw [UInt8.toNat_ofNat']
      unfold quicMaxConnectionIdLength at hidLen
      omega
    have hread : ((retryToken crypto secret issuedAt address original).drop
        quicRetryTokenOffsetTime).take 8 = BigEndian.bytes 8 issuedAt.toNat := by
      rw [hafterFormat]
      exact List.take_left' (BigEndian.length_bytes _ _)
    have hsame : ((retryToken crypto secret issuedAt address original).drop
        quicRetryTokenOffsetAddress).take quicRetryTokenAddressMax = paddedAddress address := by
      rw [hafterTime]
      exact List.take_left' (length_paddedAddress haddress)
    have hcut : (retryToken crypto secret issuedAt address original).take
          (quicRetryTokenOffsetOdcid + original.length) = retryTokenBody issuedAt address original ∧
        (retryToken crypto secret issuedAt address original).drop
          (quicRetryTokenOffsetOdcid + original.length) =
            retryTokenTag crypto secret (retryTokenBody issuedAt address original) :=
      ⟨List.take_left' hbody, List.drop_left' hbody⟩
    have hmax : quicRetryTokenOffsetOdcid + original.length + quicRetryTokenTagLen ≤
        quicRetryTokenMax := by
      unfold quicRetryTokenMax quicRetryTokenTagLen quicRetryTokenOffsetOdcid
        quicRetryTokenOffsetOdcidLength quicRetryTokenOffsetAddress quicRetryTokenAddressMax
      unfold quicMaxConnectionIdLength at hidLen
      omega
    have hformat : (retryToken crypto secret issuedAt address original).headD 0 =
        quicRetryTokenFormat := by
      rw [hshape]
      rfl
    rw [quicRetryTokenValidate, if_neg (by omega),
      if_neg (by rw [hlen]; omega), if_neg (not_not.mpr hformat)]
    dsimp only
    rw [hafterAddress, List.headD_cons, hidNat, if_neg (by omega),
      if_neg (not_not.mpr hlen.symm), hcut.1, hcut.2, if_neg (not_not.mpr rfl), hsame,
      if_neg (not_not.mpr rfl), hread, time_of_bytes, if_neg, if_neg (not_lt.mpr hroom),
      hafterLength, List.take_left]
    rintro ⟨hage, hlate⟩
    obtain ⟨hpast, hyoung⟩ := htime hage
    exact hlate.elim (UInt64.not_lt.mpr hpast) (UInt64.not_lt.mpr hyoung)

/-! ## Tokens apart -/

variable {secret' address' original' : List UInt8} {issuedAt' : UInt64}

lemma retryTokenBody_injective (haddress : address.length ≤ quicRetryTokenAddressMax)
    (hsame : address.length = address'.length)
    (h : retryTokenBody issuedAt address original = retryTokenBody issuedAt' address' original') :
    issuedAt = issuedAt' ∧ address = address' ∧ original = original' := by
  obtain ⟨-, h₁⟩ := List.cons.inj h
  obtain ⟨htime, h₂⟩ := List.append_inj h₁ (by simp)
  obtain ⟨hpadded, h₃⟩ := List.append_inj h₂ (by
    rw [length_paddedAddress haddress, length_paddedAddress (by omega)])
  have htime' := BigEndian.bytes_injective (k := 8) issuedAt.toNat_lt issuedAt'.toNat_lt htime
  exact ⟨UInt64.toNat_inj.mp htime', (List.append_inj hpadded hsame).1, (List.cons.inj h₃).2⟩

/-- A token ends in its tag. -/
lemma retryToken_split (haddress : address.length ≤ quicRetryTokenAddressMax) :
    let token := retryToken crypto secret issuedAt address original
    token.length = quicRetryTokenOffsetOdcid + original.length + quicRetryTokenTagLen ∧
      token.take (token.length - quicRetryTokenTagLen) =
        retryTokenBody issuedAt address original ∧
      token.drop (token.length - quicRetryTokenTagLen) =
        retryTokenTag crypto secret (retryTokenBody issuedAt address original) := by
  have hbody := @length_retryTokenBody address original issuedAt haddress
  have hlen : (retryToken crypto secret issuedAt address original).length =
      quicRetryTokenOffsetOdcid + original.length + quicRetryTokenTagLen := by
    rw [retryToken, List.length_append, hbody, length_retryTokenTag]
  dsimp only
  rw [hlen, Nat.add_sub_cancel]
  exact ⟨rfl, List.take_left' hbody, List.drop_left' hbody⟩

/-- Two tokens that are the same text were built of the same things, with the same secret, where
no two inputs of the tag have the same tag. -/
lemma retryToken_injective {keyed : Set (List UInt8 × List UInt8)}
    (hkeyed : keyed.InjOn fun input => retryTokenTag crypto input.1 input.2)
    (haddress : address.length ≤ quicRetryTokenAddressMax)
    (hsame : address.length = address'.length)
    (hmem : (secret, retryTokenBody issuedAt address original) ∈ keyed)
    (hmem' : (secret', retryTokenBody issuedAt' address' original') ∈ keyed)
    (h : retryToken crypto secret issuedAt address original =
      retryToken crypto secret' issuedAt' address' original') :
    secret = secret' ∧ issuedAt = issuedAt' ∧ address = address' ∧ original = original' := by
  obtain ⟨hlen, hbody, htag⟩ :=
    @retryToken_split crypto secret address original issuedAt haddress
  obtain ⟨hlen', hbody', htag'⟩ :=
    @retryToken_split crypto secret' address' original' issuedAt' (hsame ▸ haddress)
  have hid : original.length = original'.length := by
    rw [h, hlen'] at hlen
    omega
  have hbodies : retryTokenBody issuedAt address original =
      retryTokenBody issuedAt' address' original' := by
    rw [← hbody, ← hbody', h]
  have htags : retryTokenTag crypto secret (retryTokenBody issuedAt address original) =
      retryTokenTag crypto secret' (retryTokenBody issuedAt' address' original') := by
    rw [← htag, ← htag', h]
  exact ⟨(Prod.mk.inj (hkeyed hmem hmem' htags)).1,
    retryTokenBody_injective haddress hsame hbodies⟩

/-- Two tokens of one secret that differ at all differ both in front of the tag and in the tag,
where no two inputs of the tag have the same tag. -/
lemma retryToken_apart {keyed : Set (List UInt8 × List UInt8)}
    (hkeyed : keyed.InjOn fun input => retryTokenTag crypto input.1 input.2)
    (haddress : address.length ≤ quicRetryTokenAddressMax)
    (haddress' : address'.length ≤ quicRetryTokenAddressMax)
    (hmem : (secret, retryTokenBody issuedAt address original) ∈ keyed)
    (hmem' : (secret, retryTokenBody issuedAt' address' original') ∈ keyed)
    (h : retryToken crypto secret issuedAt address original ≠
      retryToken crypto secret issuedAt' address' original') :
    let token := retryToken crypto secret issuedAt address original
    let token' := retryToken crypto secret issuedAt' address' original'
    token.take (token.length - quicRetryTokenTagLen) ≠
        token'.take (token'.length - quicRetryTokenTagLen) ∧
      token.drop (token.length - quicRetryTokenTagLen) ≠
        token'.drop (token'.length - quicRetryTokenTagLen) := by
  obtain ⟨-, hbody, htag⟩ := @retryToken_split crypto secret address original issuedAt haddress
  obtain ⟨-, hbody', htag'⟩ :=
    @retryToken_split crypto secret address' original' issuedAt' haddress'
  dsimp only
  rw [hbody, htag, hbody', htag']
  have hdiffer : retryTokenBody issuedAt address original ≠
      retryTokenBody issuedAt' address' original' := by
    intro hsame
    exact h (by rw [retryToken, retryToken, hsame])
  exact ⟨hdiffer, fun htags => hdiffer (Prod.mk.inj (hkeyed hmem hmem' htags)).2⟩

end Layout

end WebTransport
