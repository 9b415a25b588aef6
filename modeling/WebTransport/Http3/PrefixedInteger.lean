import WebTransport.Http3.HeaderPrefix
import WebTransport.Lib.Bits

/-!
# Prefixed integers in 64 bits

The reader of prefixed integers adds groups of seven bits in a `uint64_t`. Nothing is lost in it:
the reader in words of 64 bits and the reader in numbers answer alike, and what is cut short is
nothing but the beginning of an integer.
-/

namespace WebTransport

/-! ## The reader in words -/

/-- The groups after a full prefix, in words of 64 bits. -/
def qpackIntegerRestWord : List UInt8 → ℕ → UInt64 → Except Status (UInt64 × List UInt8)
  | [], _, _ => .error .truncated
  | byte :: c, shift, value =>
    if shift ≥ 63 then .error .protocol
    else
      let value := value + (byte.toUInt64 &&& 0x7f) <<< UInt64.ofNat shift
      if value > UInt64.ofNat quicVarintMax then .error .protocol
      else if byte &&& 0x80 = 0 then .ok (value, c)
      else qpackIntegerRestWord c (shift + 7) value

/-- `wt_qpack_integer_decode` in words of 64 bits. -/
def qpackIntegerDecodeWord (prefixBits : ℕ) : List UInt8 → Except Status (UInt64 × List UInt8)
  | [] => .error .truncated
  | first :: c =>
    let prefixMax : UInt64 := 1 <<< UInt64.ofNat prefixBits - 1
    let value := first.toUInt64 &&& prefixMax
    if value < prefixMax then .ok (value, c) else qpackIntegerRestWord c 0 value

/-- An integer that was read, as a word. -/
def readWord (r : ℕ × List UInt8) : UInt64 × List UInt8 := (UInt64.ofNat r.1, r.2)

section Word

variable {v k : ℕ} {byte : UInt8} {c : List UInt8}

lemma continues_iff (byte : UInt8) : byte &&& 0x80 = 0 ↔ byte.toNat.testBit 7 = false := by
  revert byte
  exact Bits.forall_byte (by decide +kernel)

lemma group_lt (byte : UInt8) (hk : k < 9) : byte.toNat % 128 * 2 ^ (7 * k) < 2 ^ 63 := by
  have hpow : 2 ^ (7 * k) ≤ 2 ^ 56 := Nat.pow_le_pow_right (by decide) (by omega)
  calc byte.toNat % 128 * 2 ^ (7 * k) ≤ 127 * 2 ^ 56 := Nat.mul_le_mul (by omega) hpow
    _ < 2 ^ 63 := by decide

/-- A group is moved to its place and added, and no bit is lost. -/
lemma toNat_add_group (hv : v ≤ quicVarintMax) (byte : UInt8) (hk : k < 9) :
    UInt64.ofNat v + (byte.toUInt64 &&& 0x7f) <<< UInt64.ofNat (7 * k) =
      UInt64.ofNat (v + (byte.toNat % 128) <<< (7 * k)) := by
  have hgroup := group_lt byte hk
  unfold quicVarintMax at hv
  have hlow : (byte.toUInt64 &&& 0x7f).toNat = byte.toNat % 128 := by
    rw [UInt64.toNat_and]
    exact Nat.and_two_pow_sub_one_eq_mod byte.toNat 7
  have hshift : ((byte.toUInt64 &&& 0x7f) <<< UInt64.ofNat (7 * k)).toNat =
      byte.toNat % 128 * 2 ^ (7 * k) := by
    rw [UInt64.toNat_shiftLeft, hlow, UInt64.toNat_ofNat',
      Nat.mod_eq_of_lt (by omega : 7 * k < 2 ^ 64), Nat.mod_eq_of_lt (by omega : 7 * k < 64),
      Nat.shiftLeft_eq, Nat.mod_eq_of_lt (by omega)]
  rw [← UInt64.toNat_inj, UInt64.toNat_add, hshift, UInt64.toNat_ofNat', UInt64.toNat_ofNat',
    Nat.shiftLeft_eq, Nat.mod_eq_of_lt (by omega : v < 2 ^ 64)]

lemma qpackIntegerRestWord_eq (hv : v ≤ quicVarintMax) :
    qpackIntegerRestWord c (7 * k) (UInt64.ofNat v) =
      (qpackIntegerRest c (7 * k) v).map readWord := by
  induction c generalizing k v with
  | nil => rfl
  | cons byte c ih =>
    rw [qpackIntegerRestWord, qpackIntegerRest]
    by_cases hk : 7 * k ≥ 63
    · rw [if_pos hk, if_pos hk]
      rfl
    rw [if_neg hk, if_neg hk, toNat_add_group hv byte (by omega)]
    have hgroup := group_lt byte (k := k) (by omega)
    have hbig : UInt64.ofNat (v + (byte.toNat % 128) <<< (7 * k)) > UInt64.ofNat quicVarintMax ↔
        v + (byte.toNat % 128) <<< (7 * k) > quicVarintMax := by
      unfold quicVarintMax at hv ⊢
      rw [gt_iff_lt, UInt64.lt_iff_toNat_lt, UInt64.toNat_ofNat', UInt64.toNat_ofNat',
        Nat.shiftLeft_eq, Nat.mod_eq_of_lt, Nat.mod_eq_of_lt (by omega)]
      decide
    dsimp only
    by_cases hmax : v + (byte.toNat % 128) <<< (7 * k) > quicVarintMax
    · rw [if_pos (hbig.mpr hmax), if_pos hmax]
      rfl
    rw [if_neg (hmax ∘ hbig.mp), if_neg hmax]
    cases hmore : byte.toNat.testBit 7 with
    | false =>
      rw [if_pos ((continues_iff byte).mpr hmore), if_neg (by simp)]
      rfl
    | true =>
      rw [if_neg (fun h => by rw [(continues_iff byte).mp h] at hmore; cases hmore), if_pos rfl]
      exact ih (k := k + 1) (not_lt.mp hmax)

lemma qpackIntegerDecodeWord_eq {n : ℕ} (hn : n ≤ 8) (c : List UInt8) :
    qpackIntegerDecodeWord n c = (qpackIntegerDecode n c).map readWord := by
  cases c with
  | nil => rfl
  | cons first c =>
    have hpow : 2 ^ n ≤ 2 ^ 8 := Nat.pow_le_pow_right (by decide) hn
    have hpos : 0 < 2 ^ n := by positivity
    have hmax : (1 <<< UInt64.ofNat n - 1 : UInt64) = UInt64.ofNat (2 ^ n - 1) := by
      interval_cases n <;> decide
    have hlow : first.toUInt64 &&& UInt64.ofNat (2 ^ n - 1) =
        UInt64.ofNat (first.toNat % 2 ^ n) := by
      have hfirst : first.toNat % 2 ^ n < 2 ^ n := Nat.mod_lt _ hpos
      rw [← UInt64.toNat_inj, UInt64.toNat_and, UInt64.toNat_ofNat', UInt64.toNat_ofNat',
        Nat.mod_eq_of_lt (by omega : 2 ^ n - 1 < 2 ^ 64), Nat.mod_eq_of_lt (by omega)]
      exact Nat.and_two_pow_sub_one_eq_mod first.toNat n
    have hless : UInt64.ofNat (first.toNat % 2 ^ n) < UInt64.ofNat (2 ^ n - 1) ↔
        first.toNat % 2 ^ n < 2 ^ n - 1 := by
      have hfirst : first.toNat % 2 ^ n < 2 ^ n := Nat.mod_lt _ hpos
      rw [UInt64.lt_iff_toNat_lt, UInt64.toNat_ofNat', UInt64.toNat_ofNat',
        Nat.mod_eq_of_lt (by omega : 2 ^ n - 1 < 2 ^ 64), Nat.mod_eq_of_lt (by omega)]
    rw [qpackIntegerDecodeWord, qpackIntegerDecode, hmax, hlow]
    by_cases hfits : first.toNat % 2 ^ n < 2 ^ n - 1
    · rw [if_pos (hless.mpr hfits), if_pos hfits]
      rfl
    · rw [if_neg (hfits ∘ hless.mp), if_neg hfits]
      refine qpackIntegerRestWord_eq (k := 0) ?_
      have hfirst : first.toNat % 2 ^ n < 2 ^ n := Nat.mod_lt _ hpos
      unfold quicVarintMax
      omega

/-! ## What is accepted and what is cut short -/

/-- The number in groups of seven bits, the lowest first. -/
def groupsValue : List UInt8 → ℕ
  | [] => 0
  | byte :: c => byte.toNat % 128 + 128 * groupsValue c

/-- The bytes are an integer without its end: the prefix is full, every group says that another one
follows, and there is room for it. -/
def UnfinishedInteger (prefixBits : ℕ) : List UInt8 → Prop
  | [] => True
  | first :: groups =>
    first.toNat % 2 ^ prefixBits = 2 ^ prefixBits - 1 ∧
      (∀ byte ∈ groups, byte.toNat.testBit 7 = true) ∧ groups.length ≤ 9 ∧
      2 ^ prefixBits - 1 + groupsValue groups ≤ quicVarintMax

lemma qpackIntegerRest_truncated (hk : k ≤ 9) (hv : v ≤ quicVarintMax) :
    qpackIntegerRest c (7 * k) v = .error .truncated ↔
      (∀ byte ∈ c, byte.toNat.testBit 7 = true) ∧ k + c.length ≤ 9 ∧
        v + groupsValue c * 2 ^ (7 * k) ≤ quicVarintMax := by
  induction c generalizing k v with
  | nil => simp [qpackIntegerRest, groupsValue, hk, hv]
  | cons byte c ih =>
    have hsplit : groupsValue (byte :: c) * 2 ^ (7 * k) =
        byte.toNat % 128 * 2 ^ (7 * k) + groupsValue c * 2 ^ (7 * (k + 1)) := by
      rw [groupsValue, Nat.mul_add, pow_add, Nat.add_mul]
      ring
    rw [qpackIntegerRest, hsplit, List.length_cons, List.forall_mem_cons, Nat.shiftLeft_eq]
    by_cases hlast : 7 * k ≥ 63
    · rw [if_pos hlast]
      refine iff_of_false (by simp) ?_
      omega
    rw [if_neg hlast]
    dsimp only
    by_cases hmax : v + byte.toNat % 128 * 2 ^ (7 * k) > quicVarintMax
    · rw [if_pos hmax]
      refine iff_of_false (by simp) ?_
      omega
    rw [if_neg hmax]
    cases hmore : byte.toNat.testBit 7 with
    | false => simp
    | true =>
      rw [if_pos rfl, show 7 * k + 7 = 7 * (k + 1) by omega,
        ih (by omega) (not_lt.mp hmax)]
      constructor
      · rintro ⟨hcontinue, hlength, hvalue⟩
        exact ⟨⟨rfl, hcontinue⟩, by omega, by omega⟩
      · rintro ⟨⟨-, hcontinue⟩, hlength, hvalue⟩
        exact ⟨hcontinue, by omega, by omega⟩

lemma qpackIntegerDecode_truncated {n : ℕ} (hn : n ≤ 8) (c : List UInt8) :
    qpackIntegerDecode n c = .error .truncated ↔ UnfinishedInteger n c := by
  cases c with
  | nil => exact iff_of_true rfl trivial
  | cons first c =>
    have hpow : 2 ^ n ≤ 2 ^ 8 := Nat.pow_le_pow_right (by decide) hn
    have hfirst : first.toNat % 2 ^ n < 2 ^ n := Nat.mod_lt _ (by positivity)
    rw [qpackIntegerDecode, UnfinishedInteger]
    by_cases hfits : first.toNat % 2 ^ n < 2 ^ n - 1
    · rw [if_pos hfits]
      refine iff_of_false (by simp) ?_
      omega
    · have hfull : first.toNat % 2 ^ n = 2 ^ n - 1 := by omega
      have hrest := @qpackIntegerRest_truncated (2 ^ n - 1) 0 c (by decide)
        (by unfold quicVarintMax; omega)
      rw [Nat.mul_zero, pow_zero, Nat.mul_one, Nat.zero_add] at hrest
      rw [if_neg hfits, hfull, hrest]
      simp only [true_and]

lemma qpackIntegerRest_le {shift n : ℕ} {rest : List UInt8}
    (h : qpackIntegerRest c shift v = .ok (n, rest)) : n ≤ quicVarintMax := by
  induction c generalizing shift v with
  | nil => cases h
  | cons byte c ih =>
    rw [qpackIntegerRest] at h
    dsimp only at h
    split_ifs at h with hlast hmax hmore
    · exact ih h
    · cases h
      exact not_lt.mp hmax

lemma qpackIntegerDecode_le {n value : ℕ} {rest : List UInt8} (hn : n ≤ 8)
    (h : qpackIntegerDecode n c = .ok (value, rest)) : value ≤ quicVarintMax := by
  cases c with
  | nil => cases h
  | cons first c =>
    rw [qpackIntegerDecode] at h
    split_ifs at h with hfits
    · cases h
      have hpow : 2 ^ n ≤ 2 ^ 8 := Nat.pow_le_pow_right (by decide) hn
      unfold quicVarintMax
      omega
    · exact qpackIntegerRest_le h

end Word

/-- An integer of at most 62 bits is written below any flags and read back, and no more is read than
was written; and whatever is read, the answer is the one in words of 64 bits, an integer has at most
62 bits, and only the beginning of an integer is cut short. -/
theorem qpackInteger_codec {n : ℕ} (hpos : 1 ≤ n) (hn : n ≤ 8) :
    (∀ flags value : ℕ, flags < 256 → flags % 2 ^ n = 0 → value ≤ quicVarintMax →
      ∃ bytes, (∀ w w', qpackIntegerEncode w n flags value = .ok w' →
          w'.bytes = w.bytes ++ bytes) ∧
        (∀ w : Writer, w.ok = true → w.bytes.length + bytes.length ≤ w.cap →
          ∃ w', qpackIntegerEncode w n flags value = .ok w') ∧
        ∀ rest, qpackIntegerDecode n (bytes ++ rest) = .ok (value, rest)) ∧
    ∀ c, qpackIntegerDecodeWord n c = (qpackIntegerDecode n c).map readWord ∧
      (∀ value rest, qpackIntegerDecode n c = .ok (value, rest) → value ≤ quicVarintMax) ∧
      (qpackIntegerDecode n c = .error .truncated ↔ UnfinishedInteger n c) := by
  refine ⟨?_, fun c => ⟨qpackIntegerDecodeWord_eq hn c,
    fun value rest => qpackIntegerDecode_le hn, qpackIntegerDecode_truncated hn c⟩⟩
  intro flags value hflags hclear hvalue
  have hfits : flags + 2 ^ n ≤ 256 := by
    have hpow : 2 ^ 8 = 2 ^ n * 2 ^ (8 - n) := by
      rw [← pow_add]
      congr 1
      omega
    obtain ⟨q, rfl⟩ := Nat.dvd_of_mod_eq_zero hclear
    have hq : q < 2 ^ (8 - n) := by
      refine Nat.lt_of_mul_lt_mul_left (a := 2 ^ n) ?_
      rw [← hpow]
      exact hflags
    calc 2 ^ n * q + 2 ^ n = 2 ^ n * (q + 1) := by ring
      _ ≤ 2 ^ n * 2 ^ (8 - n) := Nat.mul_le_mul_left _ hq
      _ = 256 := hpow.symm
  refine ⟨qpackIntegerBytes n flags value, ?_, ?_,
    fun rest => qpackIntegerDecode_bytes rest hclear hfits hvalue⟩
  · intro w w' h
    exact (qpackIntegerEncode_ok h).2.2
  · intro w hok hroom
    refine ⟨w.put (qpackIntegerBytes n flags value), ?_⟩
    rw [qpackIntegerEncode, if_neg (not_lt.mpr hvalue), if_neg (fun h => h.2 hclear)]
    exact if_pos (Writer.put_of_fits _ hok hroom).1

/-- An integer below the flags of an indexed field line. -/
theorem qpackInteger_codec_six : ∃ bytes,
    qpackIntegerDecode 6 (bytes ++ []) = .ok (1337, []) := by
  obtain ⟨bytes, -, -, hread⟩ := (@qpackInteger_codec 6 (by decide) (by decide)).1 0xc0 1337
    (by decide) (by decide) (by decide)
  exact ⟨bytes, hread []⟩

end WebTransport
