import WebTransport.Lib.Reader
import WebTransport.Quic.Frame

/-!
# QPACK's prefixed integers and strings

The integers and strings every QPACK representation is made of (`http3/qpack_primitives.c`):
an integer begins in the low bits of a byte whose high bits are flags, and a string is its
length, with a flag that says its bytes are Huffman-coded, and its bytes. A reader takes its
item off the bytes that are left.
-/

namespace WebTransport

/-- The bytes of an ASCII text. -/
def ascii (text : String) : List UInt8 := text.toList.map fun c => UInt8.ofNat c.toNat

/-! ## Reading -/

/-- The groups of seven bits after a full prefix. -/
def qpackIntegerRest : List UInt8 → ℕ → ℕ → Except Status (ℕ × List UInt8)
  | [], _, _ => .error .truncated
  | byte :: c, shift, value =>
    -- A group that would land at or above bit 63 is refused rather than wrapped.
    if shift ≥ 63 then .error .protocol
    else
      let value := value + (byte.toNat % 128) <<< shift
      if value > quicVarintMax then .error .protocol
      else if byte.toNat.testBit 7 then qpackIntegerRest c (shift + 7) value
      else .ok (value, c)

/-- Read an integer whose prefix is the low bits of the first byte. -/
def qpackIntegerDecode (prefixBits : ℕ) : List UInt8 → Except Status (ℕ × List UInt8)
  | [] => .error .truncated
  | first :: c =>
    let prefixMax := 2 ^ prefixBits - 1
    let value := first.toNat % 2 ^ prefixBits
    if value < prefixMax then .ok (value, c) else qpackIntegerRest c 0 value

/-- A string as it stands on the wire. -/
structure QpackString where
  bytes : List UInt8
  huffman : Bool
deriving DecidableEq, Repr

/-- Read a string. -/
def qpackStringDecode : List UInt8 → Except Status (QpackString × List UInt8)
  | [] => .error .truncated
  | first :: c =>
    match qpackIntegerDecode 7 (first :: c) with
    | .error status => .error status
    | .ok (length, rest) =>
      if rest.length < length then .error .truncated
      else .ok (⟨rest.take length, first.toNat.testBit 7⟩, rest.drop length)

/-! ## Writing -/

/-- The groups of seven bits of a value; nine are enough for every value that is written. -/
def qpackIntegerTail : ℕ → ℕ → List UInt8
  | 0, value => [UInt8.ofNat value]
  | fuel + 1, value =>
    if value ≥ 128 then UInt8.ofNat (value % 128 + 128) :: qpackIntegerTail fuel (value / 128)
    else [UInt8.ofNat value]

/-- The bytes of an integer below some flags. -/
def qpackIntegerBytes (prefixBits flags value : ℕ) : List UInt8 :=
  let prefixMax := 2 ^ prefixBits - 1
  if value < prefixMax then [UInt8.ofNat (flags + value)]
  else UInt8.ofNat (flags + prefixMax) :: qpackIntegerTail 9 (value - prefixMax)

/-- Write an integer. The flags lie above the prefix. -/
def qpackIntegerEncode (w : Writer) (prefixBits flags value : ℕ) : Except Status Writer :=
  if value > quicVarintMax then .error .invalidArgument
  else if prefixBits < 8 ∧ flags % 2 ^ prefixBits ≠ 0 then .error .invalidArgument
  else writerResult (w.put (qpackIntegerBytes prefixBits flags value))

/-- Write a string that is not Huffman-coded. -/
def qpackStringEncode (w : Writer) (bytes : List UInt8) : Except Status Writer :=
  if bytes.length > quicVarintMax then .error .invalidArgument
  else
    match qpackIntegerEncode w 7 0 bytes.length with
    | .error _ => .error .limit
    | .ok w => writerResult (w.put bytes)

/-! ## What is written is read back -/

section RoundTrip

variable {n flags value : ℕ}

lemma testBit_seven {b : ℕ} (hb : b < 128) : (b + 128).testBit 7 = true ∧ b.testBit 7 = false := by
  constructor
  · have hhigh := Nat.testBit_two_pow_mul_add 1 (i := 7) hb 7
    rw [show 2 ^ 7 * 1 + b = b + 128 by omega] at hhigh
    simpa using hhigh
  · exact Nat.testBit_lt_two_pow hb

lemma ofNat_toNat_of_lt {b : ℕ} (hb : b < 256) : (UInt8.ofNat b).toNat = b := by
  rw [UInt8.toNat_ofNat']
  exact Nat.mod_eq_of_lt hb

lemma qpackIntegerRest_last {v shift acc : ℕ} (rest : List UInt8) (hv : v < 128)
    (hshift : shift < 63) (hmax : acc + v * 2 ^ shift ≤ quicVarintMax) :
    qpackIntegerRest (UInt8.ofNat v :: rest) shift acc = .ok (acc + v * 2 ^ shift, rest) := by
  rw [qpackIntegerRest, if_neg (not_le.mpr hshift), ofNat_toNat_of_lt (by omega),
    Nat.mod_eq_of_lt hv, Nat.shiftLeft_eq]
  simp only
  rw [if_neg (not_lt.mpr hmax), (testBit_seven hv).2, if_neg (by simp)]

/-- The groups are read back, whatever follows them. -/
lemma qpackIntegerRest_tail {fuel v shift acc : ℕ} (rest : List UInt8)
    (hfuel : v < 128 ^ (fuel + 1)) (hshift : shift < 63)
    (hmax : acc + v * 2 ^ shift ≤ quicVarintMax) :
    qpackIntegerRest (qpackIntegerTail fuel v ++ rest) shift acc =
      .ok (acc + v * 2 ^ shift, rest) := by
  induction fuel generalizing v shift acc with
  | zero => exact qpackIntegerRest_last rest (by simpa using hfuel) hshift hmax
  | succ fuel ih =>
    rw [qpackIntegerTail]
    by_cases hv : v ≥ 128
    · have hsplit : v * 2 ^ shift = v % 128 * 2 ^ shift + v / 128 * 2 ^ (shift + 7) := by
        rw [pow_add, mul_comm (2 ^ shift), ← mul_assoc, ← add_mul]
        congr 1
        omega
      -- The next group carries a bit, so it is still inside the bound.
      have hroom : shift + 7 < 63 := by
        by_contra hbig
        have hpow : 2 ^ 63 ≤ 2 ^ (shift + 7) := Nat.pow_le_pow_right (by omega) (by omega)
        have hone : 1 * 2 ^ (shift + 7) ≤ v / 128 * 2 ^ (shift + 7) :=
          Nat.mul_le_mul_right _ (by omega)
        unfold quicVarintMax at hmax
        omega
      have hnext : qpackIntegerRest (qpackIntegerTail fuel (v / 128) ++ rest) (shift + 7)
          (acc + v % 128 * 2 ^ shift) = .ok _ := ih
        (by rw [Nat.div_lt_iff_lt_mul (by omega), ← pow_succ]; exact hfuel) hroom (by omega)
      rw [if_pos hv, List.cons_append, qpackIntegerRest, if_neg (not_le.mpr hshift),
        ofNat_toNat_of_lt (by omega), Nat.add_mod_right, Nat.mod_mod, Nat.shiftLeft_eq]
      simp only
      rw [if_neg (by omega), (testBit_seven (Nat.mod_lt v (by omega))).1, if_pos rfl, hnext,
        hsplit, add_assoc]
    · rw [if_neg hv]
      exact qpackIntegerRest_last rest (by omega) hshift hmax

/-- The flags stand above the prefix, whatever value it holds. -/
lemma testBit_flags {low : ℕ} (hflags : flags % 2 ^ n = 0) (hlow : low < 2 ^ n) {i : ℕ}
    (hi : n ≤ i) : (flags + low).testBit i = flags.testBit i := by
  obtain ⟨q, rfl⟩ := Nat.dvd_of_mod_eq_zero hflags
  rw [Nat.testBit_two_pow_mul_add q hlow, if_neg (not_lt.mpr hi), Nat.testBit_two_pow_mul]
  simp [hi]

/-- The first byte of an integer holds the flags and the low bits of the prefix. -/
lemma qpackIntegerBytes_first (n flags value : ℕ) :
    ∃ low c, qpackIntegerBytes n flags value = UInt8.ofNat (flags + low) :: c ∧ low < 2 ^ n := by
  have hpos : 0 < 2 ^ n := by positivity
  unfold qpackIntegerBytes
  by_cases hsmall : value < 2 ^ n - 1
  · exact ⟨value, [], by rw [if_pos hsmall], by omega⟩
  · exact ⟨2 ^ n - 1, _, by rw [if_neg hsmall], by omega⟩

/-- **An integer is read back**, whatever bytes follow it. -/
theorem qpackIntegerDecode_bytes (rest : List UInt8) (hflags : flags % 2 ^ n = 0)
    (hfits : flags + 2 ^ n ≤ 256) (hvalue : value ≤ quicVarintMax) :
    qpackIntegerDecode n (qpackIntegerBytes n flags value ++ rest) = .ok (value, rest) := by
  have hpos : 0 < 2 ^ n := by positivity
  have hlow : ∀ {low : ℕ}, low < 2 ^ n →
      (UInt8.ofNat (flags + low)).toNat % 2 ^ n = low := by
    intro low hlow
    rw [ofNat_toNat_of_lt (by omega), Nat.add_mod, hflags, Nat.zero_add, Nat.mod_mod,
      Nat.mod_eq_of_lt hlow]
  unfold qpackIntegerBytes
  by_cases hsmall : value < 2 ^ n - 1
  · rw [if_pos hsmall, List.singleton_append, qpackIntegerDecode, hlow (by omega),
      if_pos hsmall]
  · rw [if_neg hsmall, List.cons_append, qpackIntegerDecode, hlow (by omega)]
    have hsum : 2 ^ n - 1 + (value - (2 ^ n - 1)) * 2 ^ 0 = value := by omega
    have hfuel : value - (2 ^ n - 1) < 128 ^ (9 + 1) := by
      unfold quicVarintMax at hvalue
      omega
    rw [if_neg (lt_irrefl _), qpackIntegerRest_tail rest hfuel (by omega) (by omega), hsum]

lemma put_of_writerResult {w w' : Writer} {data : List UInt8}
    (h : writerResult (w.put data) = .ok w') : w'.ok = true ∧ w'.bytes = w.bytes ++ data := by
  obtain rfl := writerResult_ok h
  have hok : (w.put data).ok = true := by
    unfold writerResult at h
    split_ifs at h with hok
    exact hok
  exact ⟨hok, (Writer.put_ok hok).2⟩

lemma qpackIntegerEncode_ok {w w' : Writer} (h : qpackIntegerEncode w n flags value = .ok w') :
    value ≤ quicVarintMax ∧ w'.ok = true ∧
      w'.bytes = w.bytes ++ qpackIntegerBytes n flags value := by
  unfold qpackIntegerEncode at h
  by_cases hvalue : value > quicVarintMax
  · rw [if_pos hvalue] at h
    cases h
  · rw [if_neg hvalue] at h
    by_cases hflags : n < 8 ∧ flags % 2 ^ n ≠ 0
    · rw [if_pos hflags] at h
      cases h
    · rw [if_neg hflags] at h
      exact ⟨not_lt.mp hvalue, put_of_writerResult h⟩

/-- The bytes of a string that is not Huffman-coded. -/
def qpackStringBytes (bytes : List UInt8) : List UInt8 :=
  qpackIntegerBytes 7 0 bytes.length ++ bytes

lemma qpackStringEncode_ok {w w' : Writer} {bytes : List UInt8}
    (h : qpackStringEncode w bytes = .ok w') :
    bytes.length ≤ quicVarintMax ∧ w'.ok = true ∧
      w'.bytes = w.bytes ++ qpackStringBytes bytes := by
  unfold qpackStringEncode at h
  by_cases hlength : bytes.length > quicVarintMax
  · rw [if_pos hlength] at h
    cases h
  · rw [if_neg hlength] at h
    cases hint : qpackIntegerEncode w 7 0 bytes.length with
    | error e =>
      rw [hint] at h
      cases h
    | ok w₁ =>
      rw [hint] at h
      obtain ⟨-, -, hbytes⟩ := qpackIntegerEncode_ok hint
      obtain ⟨hok, hput⟩ := put_of_writerResult h
      rw [hput, hbytes, qpackStringBytes, List.append_assoc]
      exact ⟨not_lt.mp hlength, hok, rfl⟩

/-- **A string is read back**, whatever bytes follow it. -/
theorem qpackStringDecode_bytes {bytes : List UInt8} (rest : List UInt8)
    (hlength : bytes.length ≤ quicVarintMax) :
    qpackStringDecode (qpackStringBytes bytes ++ rest) = .ok (⟨bytes, false⟩, rest) := by
  obtain ⟨low, c, hfirst, hlow⟩ := qpackIntegerBytes_first 7 0 bytes.length
  have hread : qpackIntegerDecode 7 (qpackIntegerBytes 7 0 bytes.length ++ (bytes ++ rest)) =
      .ok (bytes.length, bytes ++ rest) :=
    qpackIntegerDecode_bytes (bytes ++ rest) (by omega) (by omega) hlength
  have hplain : (UInt8.ofNat (0 + low)).toNat.testBit 7 = false := by
    rw [ofNat_toNat_of_lt (by omega), testBit_flags (n := 7) (by omega) hlow le_rfl]
    exact Nat.zero_testBit 7
  rw [qpackStringBytes, List.append_assoc, hfirst, List.cons_append, qpackStringDecode]
  rw [hfirst, List.cons_append] at hread
  rw [hread]
  simp only
  rw [if_neg (by rw [List.length_append]; omega), hplain, List.take_left, List.drop_left]

end RoundTrip

/-! ## More input -/

section Stability

open Reader

lemma stable_qpackIntegerRest (shift value : ℕ) :
    Stable Status.truncated fun x => qpackIntegerRest x shift value := by
  constructor
  · intro x
    induction x generalizing shift value with
    | nil =>
      intro b rest hx
      cases hx
    | cons byte c ih =>
      intro b rest hx
      simp only [qpackIntegerRest] at hx
      split_ifs at hx with hshift hbig hmore
      · obtain ⟨p, rfl, hp⟩ := ih _ _ hx
        refine ⟨byte :: p, rfl, fun y => ?_⟩
        simp only [List.cons_append, qpackIntegerRest]
        rw [if_neg hshift, if_neg hbig, if_pos hmore]
        exact hp y
      · cases hx
        refine ⟨[byte], rfl, fun y => ?_⟩
        simp only [List.cons_append, List.nil_append, qpackIntegerRest]
        rw [if_neg hshift, if_neg hbig, if_neg hmore]
  · intro x
    induction x generalizing shift value with
    | nil =>
      intro e hx he
      cases hx
      exact absurd rfl he
    | cons byte c ih =>
      intro e hx he y
      simp only [qpackIntegerRest, List.cons_append] at hx ⊢
      split_ifs at hx ⊢
      · exact hx
      · exact hx
      · exact ih _ _ hx he y

/-- An integer is read alike whatever comes after it. -/
lemma stable_qpackIntegerDecode (prefixBits : ℕ) :
    Stable Status.truncated (qpackIntegerDecode prefixBits) := by
  constructor
  · intro x b rest hx
    cases x with
    | nil => cases hx
    | cons first c =>
      simp only [qpackIntegerDecode] at hx
      split_ifs at hx with hfits
      · cases hx
        refine ⟨[first], rfl, fun y => ?_⟩
        simp only [List.cons_append, List.nil_append, qpackIntegerDecode]
        rw [if_pos hfits]
      · obtain ⟨p, rfl, hp⟩ := (stable_qpackIntegerRest 0 _).ok hx
        refine ⟨first :: p, rfl, fun y => ?_⟩
        simp only [List.cons_append, qpackIntegerDecode]
        rw [if_neg hfits]
        exact hp y
  · intro x e hx he y
    cases x with
    | nil =>
      cases hx
      exact absurd rfl he
    | cons first c =>
      simp only [qpackIntegerDecode, List.cons_append] at hx ⊢
      split_ifs at hx ⊢
      exact (stable_qpackIntegerRest 0 _).error hx he y

/-- A string is its length and so many bytes. -/
lemma qpackStringDecode_eq : qpackStringDecode = byFirst .truncated fun first =>
    andThen (qpackIntegerDecode 7) fun length => andThen (take .truncated length) fun bytes rest =>
      .ok (⟨bytes, first.toNat.testBit 7⟩, rest) := by
  funext x
  cases x with
  | nil => rfl
  | cons first c =>
    rw [qpackStringDecode, byFirst, andThen]
    cases qpackIntegerDecode 7 (first :: c) with
    | error e => rfl
    | ok r =>
      obtain ⟨length, rest⟩ := r
      dsimp only
      rw [andThen, take]
      split_ifs <;> rfl

/-- A string is read alike whatever comes after it. -/
lemma stable_qpackStringDecode : Stable Status.truncated qpackStringDecode := by
  rw [qpackStringDecode_eq]
  apply stable_byFirst
  · intro first
    exact (stable_qpackIntegerDecode 7).andThen fun length =>
      (stable_take _ length).andThen fun bytes => stable_pure _ _
  · intro first
    rfl

end Stability

end WebTransport
