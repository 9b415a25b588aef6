import WebTransport.Lib.BigEndian
import WebTransport.Core.Writer

/-!
# Variable-length integers

The encoder and the decoder of QUIC's variable-length integers (`quic/varint.c`). A cursor
is modelled by the bytes it has left: every reader of the source returns at its first
failure, so the sticky failure flag of `wt_cursor_t` is never read after it is set.
-/

namespace WebTransport

/-- The largest value a variable-length integer can carry (`WT_QUIC_VARINT_MAX`). -/
def quicVarintMax : ℕ := 2 ^ 62 - 1

/-- The number of bytes `value` takes, `0` when it does not fit. -/
def quicVarintSize (value : ℕ) : ℕ :=
  if value < 64 then 1
  else if value < 16384 then 2
  else if value < 1073741824 then 4
  else if value ≤ quicVarintMax then 8
  else 0

/-- The bytes of `value`, empty when it cannot be encoded in `capacity` bytes. -/
def quicVarintEncode (value capacity : ℕ) : List UInt8 :=
  let size := quicVarintSize value
  if size = 0 ∨ capacity < size then []
  else if size = 1 then [UInt8.ofNat (value &&& 0x3F)]
  -- The prefix is the top two bits of the first byte.
  else if size = 2 then BigEndian.bytes 2 (value ||| 0x4000)
  else if size = 4 then BigEndian.bytes 4 (value ||| 0x80000000)
  else BigEndian.bytes 8 (value ||| 0xC000000000000000)

/-- Write `value`, setting the overflow flag when it has no encoding. -/
def quicWriterVarint (w : Writer) (value : ℕ) : Writer :=
  let bytes := quicVarintEncode value 8
  if bytes.length = 0 then w.refuse else w.put bytes

/-- Read one integer: its value, its encoded size and the bytes after it. -/
def quicVarintDecodeSized : List UInt8 → Except Status (ℕ × ℕ × List UInt8)
  | [] => .error .truncated
  | first :: c =>
    let size := 1 <<< (first.toNat >>> 6)
    if c.length < size - 1 then .error .truncated
    else
      .ok ((c.take (size - 1)).foldl BigEndian.push (first.toNat &&& 0x3F), size,
        c.drop (size - 1))

/-- Read one integer: its value and the bytes after it. -/
def quicVarintDecode (c : List UInt8) : Except Status (ℕ × List UInt8) :=
  (quicVarintDecodeSized c).map fun r => (r.1, r.2.2)

/-- Whether `size` is the shortest encoding of `value`. -/
def quicVarintIsMinimal (value size : ℕ) : Bool := quicVarintSize value = size

/-! ## The round trip -/

/-- The encoding of a value that fits, for the writer's eight-byte scratch buffer. -/
def quicVarintBytes (value : ℕ) : List UInt8 := quicVarintEncode value 8

/-- The common form of the four encodings: a two-bit prefix above a big-endian value. -/
lemma decodeSized_prefixed {p k v : ℕ} (hp : p < 4) (hk : k + 1 = 1 <<< p)
    (hv : v < 64 * 256 ^ k) (rest : List UInt8) :
    quicVarintDecodeSized (BigEndian.bytes (k + 1) (p * 64 * 256 ^ k + v) ++ rest) =
      .ok (v, k + 1, rest) := by
  have hpow : (2 : ℕ) ^ (8 * k) = 256 ^ k := by rw [pow_mul]; norm_num
  have hdiv : (p * 64 * 256 ^ k + v) / 256 ^ k = p * 64 + v / 256 ^ k := by
    rw [mul_comm, Nat.mul_add_div (by positivity)]
  have hsmall : v / 256 ^ k < 64 := by
    rw [Nat.div_lt_iff_lt_mul (by positivity)]
    exact hv
  have hfirst : (UInt8.ofNat ((p * 64 * 256 ^ k + v) >>> (8 * k))).toNat
      = p * 64 + v / 256 ^ k := by
    rw [UInt8.toNat_ofNat', Nat.shiftRight_eq_div_pow, hpow, hdiv]
    generalize v / 256 ^ k = q at hsmall
    omega
  have hshift : (p * 64 + v / 256 ^ k) >>> 6 = p := by
    rw [Nat.shiftRight_eq_div_pow]
    generalize v / 256 ^ k = q at hsmall
    omega
  have hmask : (p * 64 + v / 256 ^ k) &&& 0x3F = v / 256 ^ k := by
    rw [show (0x3F : ℕ) = 2 ^ 6 - 1 by norm_num, Nat.and_two_pow_sub_one_eq_mod]
    generalize v / 256 ^ k = q at hsmall
    omega
  have htake : (BigEndian.bytes k (p * 64 * 256 ^ k + v) ++ rest).take k
      = BigEndian.bytes k (p * 64 * 256 ^ k + v) := by
    rw [List.take_append_of_le_length (by simp)]
    exact List.take_of_length_le (by simp)
  have hdrop : (BigEndian.bytes k (p * 64 * 256 ^ k + v) ++ rest).drop k = rest := by
    exact List.drop_left' (by simp)
  have hmod : (p * 64 * 256 ^ k + v) % 256 ^ k = v % 256 ^ k := by
    rw [Nat.mul_add_mod_self_right]
  simp only [BigEndian.bytes, List.cons_append, quicVarintDecodeSized, hfirst, hshift, hmask,
    ← hk, Nat.add_sub_cancel, htake, hdrop, BigEndian.foldl_push_bytes, hmod]
  rw [if_neg (by simp), Nat.div_add_mod']

/-- Every encoding is a two-bit prefix above a big-endian value. -/
lemma quicVarintBytes_eq {v : ℕ} (hv : v ≤ quicVarintMax) :
    ∃ p k, p < 4 ∧ k + 1 = 1 <<< p ∧ v < 64 * 256 ^ k ∧ quicVarintSize v = k + 1 ∧
      quicVarintBytes v = BigEndian.bytes (k + 1) (p * 64 * 256 ^ k + v) := by
  unfold quicVarintMax at hv
  unfold quicVarintBytes quicVarintEncode quicVarintSize quicVarintMax
  have hor : ∀ {i a : ℕ}, v < 2 ^ i → v ||| a * 2 ^ i = a * 2 ^ i + v := by
    intro i a h
    rw [Nat.or_comm, ← Nat.shiftLeft_eq, Nat.shiftLeft_add_eq_or_of_lt h]
  by_cases h1 : v < 64
  · refine ⟨0, 0, by norm_num, by norm_num, by omega, by simp [h1], ?_⟩
    have hmask : v &&& 0x3F = v := by
      rw [show (0x3F : ℕ) = 2 ^ 6 - 1 by norm_num, Nat.and_two_pow_sub_one_eq_mod]
      omega
    simp [h1, hmask, BigEndian.bytes]
  by_cases h2 : v < 16384
  · refine ⟨1, 1, by norm_num, rfl, by omega, by simp [h1, h2], ?_⟩
    have := hor (i := 14) (a := 1) (by omega)
    norm_num at this
    simp [h1, h2, this]
  by_cases h4 : v < 1073741824
  · refine ⟨2, 3, by norm_num, rfl, by omega, by simp [h1, h2, h4], ?_⟩
    have := hor (i := 30) (a := 2) (by omega)
    norm_num at this
    simp [h1, h2, h4, this]
  · refine ⟨3, 7, by norm_num, rfl, by omega, by simp [h1, h2, h4]; omega, ?_⟩
    have := hor (i := 62) (a := 3) (by omega)
    norm_num at this
    have hmax : v ≤ 4611686018427387903 := by omega
    simp [h1, h2, h4, hmax, this]

lemma length_quicVarintBytes {value : ℕ} (hvalue : value ≤ quicVarintMax) :
    (quicVarintBytes value).length = quicVarintSize value := by
  obtain ⟨p, k, -, -, -, hsize, hbytes⟩ := quicVarintBytes_eq hvalue
  rw [hbytes, hsize, BigEndian.length_bytes]

/-- An integer takes at least one byte. -/
lemma quicVarintBytes_ne_nil {v : ℕ} (hv : v ≤ quicVarintMax) : quicVarintBytes v ≠ [] := by
  obtain ⟨p, k, -, -, -, -, hbytes⟩ := quicVarintBytes_eq hv
  rw [hbytes]
  intro h
  have := congrArg List.length h
  simp at this

/-- Reading back an encoded value gives the value, its minimal size and the bytes after it. -/
theorem quicVarintDecodeSized_bytes {v : ℕ} (hv : v ≤ quicVarintMax) (rest : List UInt8) :
    quicVarintDecodeSized (quicVarintBytes v ++ rest) = .ok (v, quicVarintSize v, rest) := by
  obtain ⟨p, k, hp, hk, hlt, hsize, hbytes⟩ := quicVarintBytes_eq hv
  rw [hbytes, hsize]
  exact decodeSized_prefixed hp hk hlt rest

/-- Reading back an encoded value gives the value and the bytes after it. -/
@[simp] theorem quicVarintDecode_bytes {v : ℕ} (hv : v ≤ quicVarintMax) (rest : List UInt8) :
    quicVarintDecode (quicVarintBytes v ++ rest) = .ok (v, rest) := by
  rw [quicVarintDecode, quicVarintDecodeSized_bytes hv]
  rfl

lemma quicVarintDecode_le {c rest : List UInt8} {v : ℕ}
    (h : quicVarintDecode c = .ok (v, rest)) : v ≤ quicVarintMax := by
  cases c with
  | nil => cases h
  | cons first c =>
    rw [quicVarintDecode, quicVarintDecodeSized] at h
    split_ifs at h with hshort
    · cases h
    · obtain ⟨rfl, -⟩ := Prod.mk.inj (Except.ok.inj h)
      have hbyte : first.toNat < 256 := first.toNat_lt
      have hfirst : first.toNat &&& 0x3F < 64 := by
        rw [show (0x3F : ℕ) = 2 ^ 6 - 1 by norm_num, Nat.and_two_pow_sub_one_eq_mod]
        omega
      have hsize : 1 <<< (first.toNat >>> 6) ≤ 2 ^ 3 := by
        rw [Nat.one_shiftLeft, Nat.shiftRight_eq_div_pow]
        exact Nat.pow_le_pow_right (by norm_num) (by omega)
      have hlength := List.length_take_le (1 <<< (first.toNat >>> 6) - 1) c
      dsimp only
      generalize c.take (1 <<< (first.toNat >>> 6) - 1) = taken at hlength
      have hlow := BigEndian.foldl_push_lt taken
      have hpow : 256 ^ taken.length ≤ 256 ^ 7 := Nat.pow_le_pow_right (by norm_num) (by omega)
      have hhigh : (first.toNat &&& 0x3F) * 256 ^ taken.length ≤ 63 * 256 ^ taken.length :=
        Nat.mul_le_mul_right _ (by omega)
      rw [BigEndian.foldl_push_eq]
      unfold quicVarintMax
      omega

/-- An integer that has an encoding is put down as it is. -/
lemma quicWriterVarint_of_le {w : Writer} {v : ℕ} (hv : v ≤ quicVarintMax) :
    quicWriterVarint w v = w.put (quicVarintBytes v) :=
  if_neg fun hlength => quicVarintBytes_ne_nil hv (List.length_eq_zero_iff.mp hlength)

/-- What an accepted write of an integer leaves behind. -/
theorem quicWriterVarint_ok {w : Writer} {v : ℕ} (h : (quicWriterVarint w v).ok = true) :
    w.ok = true ∧ v ≤ quicVarintMax ∧
      (quicWriterVarint w v).bytes = w.bytes ++ quicVarintBytes v := by
  unfold quicWriterVarint at h ⊢
  by_cases hlen : (quicVarintEncode v 8).length = 0
  · simp [hlen, Writer.refuse, Writer.ok] at h
  · simp only [hlen, if_false] at h ⊢
    obtain ⟨hw, hbytes⟩ := Writer.put_ok h
    refine ⟨hw, ?_, hbytes⟩
    by_contra hbig
    have hsize : quicVarintSize v = 0 := by
      unfold quicVarintSize
      unfold quicVarintMax at *
      split_ifs <;> omega
    simp [quicVarintEncode, hsize] at hlen

end WebTransport
