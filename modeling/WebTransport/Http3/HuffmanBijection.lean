import WebTransport.Http3.QpackHuffmanEncode

/-!
# Huffman coding both ways

A string has one coded form: what the encoder writes is as long as was announced and is read back,
and what the decoder accepts is what the encoder writes for the string it gives. Only the announced
size is computed in 64 bits, and wraps for a string whose codes have more bits than that.
-/

namespace WebTransport

/-! ## The size -/

/-- The bits of the codes of some bytes together. -/
def huffmanLength (bytes : List UInt8) : ℕ := (bytes.map fun byte => (huffmanCode byte).2).sum

section Size

variable {capacity : ℕ} {bytes : List UInt8} {w : HuffmanWriter}

@[simp] lemma huffmanLength_cons (byte : UInt8) (bytes : List UInt8) :
    huffmanLength (byte :: bytes) = (huffmanCode byte).2 + huffmanLength bytes := by
  rw [huffmanLength, List.map_cons, List.sum_cons, huffmanLength]

lemma length_codeBits (bytes : List UInt8) : (codeBits bytes).length = huffmanLength bytes := by
  rw [codeBits, List.length_flatMap, huffmanLength]
  simp only [Bits.length_ofNat]

lemma huffmanBits_exact {bits : ℕ} (h : bits + huffmanLength bytes ≤ 2 ^ 64 - 8) :
    huffmanBits bytes bits = .ok (bits + huffmanLength bytes) := by
  induction bytes generalizing bits with
  | nil => rfl
  | cons byte bytes ih =>
    rw [huffmanLength_cons] at h
    rw [huffmanBits, Nat.mod_eq_of_lt (by omega), if_neg (by omega), ih (by omega),
      huffmanLength_cons, Nat.add_assoc]

/-- A sum that is accepted leaves room for rounding it up. -/
lemma huffmanBits_le {bits total : ℕ} (hbits : bits ≤ 2 ^ 64 - 8)
    (h : huffmanBits bytes bits = .ok total) : total ≤ 2 ^ 64 - 8 := by
  induction bytes generalizing bits with
  | nil =>
    cases h
    exact hbits
  | cons byte bytes ih =>
    rw [huffmanBits] at h
    split_ifs at h with hbig
    exact ih (by omega) h

/-- Whole bytes of codes add up to nothing once their bits wrap. -/
lemma huffmanBits_replicate {byte : UInt8} (hbyte : (huffmanCode byte).2 = 8) (n : ℕ) {bits : ℕ}
    (hbits : bits % 8 = 0) (hless : bits < 2 ^ 64) :
    huffmanBits (List.replicate n byte) bits = .ok ((bits + 8 * n) % 2 ^ 64) := by
  induction n generalizing bits with
  | zero =>
    rw [List.replicate_zero, huffmanBits, Nat.mul_zero, Nat.add_zero, Nat.mod_eq_of_lt hless]
  | succ n ih =>
    have hnext : (bits + 8) % 2 ^ 64 % 8 = 0 := by omega
    rw [List.replicate_succ, huffmanBits, hbyte, if_neg (by omega), ih hnext (by omega)]
    congr 1
    omega

/-! ## Room -/

lemma putCode_of_room {code fuel remaining : ℕ} (hfuel : remaining ≤ fuel)
    (hproduced : w.produced.length = w.used / 8) (hroom : w.used + remaining ≤ 8 * capacity) :
    ∃ w', putCode capacity code fuel remaining w = .ok w' ∧ w'.used = w.used + remaining ∧
      w'.produced.length = w'.used / 8 := by
  induction fuel generalizing remaining w with
  | zero =>
    obtain rfl := Nat.le_zero.mp hfuel
    exact ⟨w, rfl, rfl, hproduced⟩
  | succ fuel ih =>
    rw [putCode]
    by_cases hdone : remaining = 0
    · rw [if_pos hdone, hdone]
      exact ⟨w, rfl, rfl, hproduced⟩
    rw [if_neg hdone, if_neg (by omega)]
    dsimp only
    generalize htake : (if remaining < 8 - w.used % 8 then remaining else 8 - w.used % 8) = take
    have hbounds : 0 < take ∧ take ≤ remaining ∧ w.used % 8 + take ≤ 8 := by
      rw [← htake]
      split_ifs <;> omega
    generalize code >>> (remaining - take) % 2 ^ take = chunk
    have hused : (w.put take chunk).used = w.used + take := by
      rw [HuffmanWriter.put]
      split_ifs <;> rfl
    have hlength : (w.put take chunk).produced.length = (w.put take chunk).used / 8 := by
      rw [hused, HuffmanWriter.put]
      split_ifs with hwhole
      · rw [List.length_append, List.length_singleton]
        omega
      · change w.produced.length = _
        omega
    have hleft : remaining - take ≤ fuel := by omega
    obtain ⟨w', hput, hused', hlength'⟩ := ih hleft hlength (by omega)
    exact ⟨w', hput, by omega, hlength'⟩

lemma putCodes_of_room (hproduced : w.produced.length = w.used / 8)
    (hroom : w.used + huffmanLength bytes ≤ 8 * capacity) :
    ∃ w', putCodes capacity bytes w = .ok w' ∧ w'.used = w.used + huffmanLength bytes ∧
      w'.produced.length = w'.used / 8 := by
  induction bytes generalizing w with
  | nil => exact ⟨w, rfl, rfl, hproduced⟩
  | cons byte bytes ih =>
    rw [huffmanLength_cons] at hroom ⊢
    obtain ⟨w₁, hput, hused, hlength⟩ := @putCode_of_room capacity w (huffmanCode byte).1
      (huffmanCode byte).2 (huffmanCode byte).2 le_rfl hproduced (by omega)
    obtain ⟨w', hputs, hused', hlength'⟩ := ih hlength (by omega)
    refine ⟨w', ?_, by omega, hlength'⟩
    rw [putCodes, hput]
    exact hputs

/-- A string is coded where there is room for its codes. -/
lemma qpackHuffmanEncode_of_room (hroom : huffmanLength bytes ≤ 8 * capacity) :
    ∃ coded, qpackHuffmanEncode bytes capacity = .ok coded := by
  obtain ⟨w, hput, hused, hlength⟩ := @putCodes_of_room capacity bytes ⟨[], 0, 0⟩ rfl (by
    rwa [Nat.zero_add])
  rw [qpackHuffmanEncode, hput]
  dsimp only at hused ⊢
  by_cases hwhole : w.used % 8 = 0
  · exact ⟨w.produced, if_pos hwhole⟩
  · rw [if_neg hwhole, if_neg (by omega)]
    exact ⟨_, rfl⟩

lemma length_flatMap_byteBits (coded : List UInt8) :
    (coded.flatMap byteBits).length = 8 * coded.length := by
  induction coded with
  | nil => rfl
  | cons byte coded ih =>
    rw [List.flatMap_cons, List.length_append, ih, byteBits_eq, Bits.length_ofNat, List.length_cons]
    omega

/-- A coded string is as long as its codes, rounded up. -/
lemma length_qpackHuffmanEncode {coded : List UInt8}
    (h : qpackHuffmanEncode bytes capacity = .ok coded) :
    coded.length = (huffmanLength bytes + 7) / 8 := by
  obtain ⟨padding, hpadding, hbits⟩ := qpackHuffmanEncode_ok h
  have hlength := congrArg List.length hbits
  rw [length_flatMap_byteBits, List.length_append, length_codeBits,
    List.length_replicate] at hlength
  omega

/-- What the announced size is good for: so many bytes are enough, all of them are written, and they
are read back. -/
def SizeHolds (bytes : List UInt8) : Prop :=
  ∃ size, qpackHuffmanEncodedSize bytes = .ok size ∧
    ∀ capacity ≥ size, ∃ coded, qpackHuffmanEncode bytes capacity = .ok coded ∧
      coded.length = size ∧ ∀ room ≥ bytes.length, qpackHuffmanDecode coded room = .ok bytes

lemma sizeHolds_iff (bytes : List UInt8) : SizeHolds bytes ↔ huffmanLength bytes ≤ 2 ^ 64 - 8 := by
  constructor
  · rintro ⟨size, hsize, hholds⟩
    obtain ⟨coded, hcoded, hlength, -⟩ := hholds size le_rfl
    have hexact := length_qpackHuffmanEncode hcoded
    rw [hlength] at hexact
    unfold qpackHuffmanEncodedSize at hsize
    cases hbits : huffmanBits bytes 0 with
    | error status =>
      rw [hbits] at hsize
      cases hsize
    | ok bits =>
      rw [hbits] at hsize
      cases hsize
      have hle := huffmanBits_le (by decide) hbits
      omega
  · intro h
    refine ⟨(huffmanLength bytes + 7) / 8, ?_, fun capacity hcapacity => ?_⟩
    · rw [qpackHuffmanEncodedSize, huffmanBits_exact (by omega), Nat.zero_add]
    · obtain ⟨coded, hcoded⟩ := @qpackHuffmanEncode_of_room capacity bytes (by omega)
      exact ⟨coded, hcoded, length_qpackHuffmanEncode hcoded,
        fun room hroom => qpackHuffmanDecode_encode hcoded hroom⟩

end Size

/-! ## What is accepted -/

section Accepted

variable {capacity code read : ℕ} {bits : List Bool} {out decoded coded : List UInt8}

/-- Every code that is matched is that of its symbol. -/
lemma huffmanRanges_codes : ∀ i < 30, ∀ d < (rfc7541HuffmanRanges.getD i (0, 0, 0)).2.2,
    ∀ symbol ∈ rfc7541HuffmanByCode[(rfc7541HuffmanRanges.getD i (0, 0, 0)).2.1 + d]?,
      rfc7541HuffmanCodes.getD symbol (0, 0) =
        ((rfc7541HuffmanRanges.getD i (0, 0, 0)).1 + d, i + 1) ∧ symbol < 257 := by
  decide +kernel

lemma huffmanSymbol_code {symbol : ℕ} (hread : read < 30)
    (h : huffmanSymbol (read + 1) code = some symbol) :
    rfc7541HuffmanCodes.getD symbol (0, 0) = (code, read + 1) ∧ symbol < 257 := by
  unfold huffmanSymbol at h
  rw [Nat.add_sub_cancel] at h
  cases hrange : rfc7541HuffmanRanges[read]? with
  | none =>
    rw [hrange] at h
    cases h
  | some range =>
    obtain ⟨first, offset, count⟩ := range
    rw [hrange] at h
    dsimp only at h
    split_ifs at h with hbelow habove
    have hget : rfc7541HuffmanRanges.getD read (0, 0, 0) = (first, offset, count) := by
      rw [List.getD_eq_getElem?_getD, hrange, Option.getD_some]
    have hcode := huffmanRanges_codes read hread (code - first)
    rw [hget] at hcode
    have hfound := hcode (not_le.mp habove) symbol h
    rwa [Nat.add_sub_cancel' (by omega : first ≤ code)] at hfound

/-- What is accepted, together with the bits of the code that is begun, are the codes of the bytes
that are put out and padding. -/
lemma huffmanDecodeBits_ok (h : huffmanDecodeBits capacity bits code read out = .ok decoded)
    (hread : read ≤ 30) :
    ∃ more padding, decoded = out ++ more ∧ padding ≤ 7 ∧
      Bits.ofNat read code ++ bits = codeBits more ++ List.replicate padding true := by
  induction bits generalizing code read out with
  | nil =>
    rw [huffmanDecodeBits] at h
    split_ifs at h with hlong hpadding
    cases h
    refine ⟨[], read, (List.append_nil _).symm, by omega, ?_⟩
    rw [List.append_nil, codeBits, List.flatMap_nil, List.nil_append]
    by_cases hzero : read = 0
    · rw [hzero, Bits.ofNat, List.replicate_zero]
    · have hones : code = 2 ^ read - 1 := by
        by_contra hne
        exact hpadding ⟨hzero, hne⟩
      rw [hones, Bits.ofNat_ones]
  | cons bit bits ih =>
    rw [huffmanDecodeBits] at h
    by_cases hmax : read + 1 > rfc7541HuffmanMaxBits
    · rw [if_pos hmax] at h
      cases h
    have hless : read < 30 := by
      unfold rfc7541HuffmanMaxBits at hmax
      omega
    rw [if_neg hmax] at h
    cases hsymbol : huffmanSymbol (read + 1) (2 * code + bit.toNat) with
    | none =>
      rw [hsymbol] at h
      obtain ⟨more, padding, hmore, hpadding, hbits⟩ := ih h hless
      refine ⟨more, padding, hmore, hpadding, ?_⟩
      rw [← hbits, Bits.ofNat_two_mul_add, List.append_assoc, List.singleton_append]
    | some symbol =>
      rw [hsymbol] at h
      dsimp only at h
      split_ifs at h with heos hfull
      obtain ⟨more, padding, hmore, hpadding, hbits⟩ := ih h (Nat.zero_le _)
      obtain ⟨hcode, hsmall⟩ := huffmanSymbol_code hless hsymbol
      have hbyte : (UInt8.ofNat symbol).toNat = symbol := by
        unfold rfc7541HuffmanEos at heos
        rw [UInt8.toNat_ofNat', Nat.mod_eq_of_lt (by omega)]
      refine ⟨UInt8.ofNat symbol :: more, padding, ?_, hpadding, ?_⟩
      · rw [hmore, List.append_assoc, List.singleton_append]
      · rw [Bits.ofNat, List.nil_append] at hbits
        rw [codeBits, List.flatMap_cons, huffmanCode, hbyte, hcode, List.append_assoc]
        change _ = _ ++ (codeBits more ++ _)
        rw [← hbits, Bits.ofNat_two_mul_add, List.append_assoc, List.singleton_append]

lemma flatMap_byteBits_injective {coded' : List UInt8}
    (h : coded.flatMap byteBits = coded'.flatMap byteBits) : coded = coded' := by
  induction coded generalizing coded' with
  | nil =>
    cases coded' with
    | nil => rfl
    | cons byte coded' =>
      have hlength := congrArg List.length h
      rw [length_flatMap_byteBits, length_flatMap_byteBits] at hlength
      simp at hlength
  | cons byte coded ih =>
    cases coded' with
    | nil =>
      have hlength := congrArg List.length h
      rw [length_flatMap_byteBits, length_flatMap_byteBits] at hlength
      simp at hlength
    | cons byte' coded' =>
      rw [List.flatMap_cons, List.flatMap_cons, byteBits_eq, byteBits_eq] at h
      obtain ⟨hfirst, hrest⟩ := List.append_inj h (by
        rw [Bits.length_ofNat, Bits.length_ofNat])
      have hsame : byte.toNat = byte'.toNat := by
        apply Nat.eq_of_testBit_eq
        intro i
        by_cases hi : i < 8
        · exact Bits.testBit_of_ofNat_eq hfirst hi
        · have hpow : 2 ^ 8 ≤ 2 ^ i := Nat.pow_le_pow_right (by decide) (not_lt.mp hi)
          rw [Nat.testBit_lt_two_pow (byte.toNat_lt.trans_le hpow),
            Nat.testBit_lt_two_pow (byte'.toNat_lt.trans_le hpow)]
      rw [UInt8.toNat_inj.mp hsame, ih hrest]

/-- What is accepted is what the encoder writes for the string that it gives. -/
lemma qpackHuffmanDecode_ok (h : qpackHuffmanDecode coded capacity = .ok decoded) :
    (∃ padding ≤ 7,
      coded.flatMap byteBits = codeBits decoded ++ List.replicate padding true) ∧
    ∀ room ≥ coded.length, qpackHuffmanEncode decoded room = .ok coded := by
  obtain ⟨more, padding, hmore, hpadding, hbits⟩ := huffmanDecodeBits_ok h (by decide)
  rw [List.nil_append] at hmore
  subst hmore
  rw [Bits.ofNat, List.nil_append] at hbits
  refine ⟨⟨padding, hpadding, hbits⟩, fun room hroom => ?_⟩
  have hlength := congrArg List.length hbits
  rw [length_flatMap_byteBits, List.length_append, length_codeBits, List.length_replicate]
    at hlength
  obtain ⟨again, hagain⟩ := @qpackHuffmanEncode_of_room room decoded (by omega)
  obtain ⟨padding', hpadding', hbits'⟩ := qpackHuffmanEncode_ok hagain
  have hlength' := congrArg List.length hbits'
  rw [length_flatMap_byteBits, List.length_append, length_codeBits, List.length_replicate]
    at hlength'
  -- Both fill up less than a byte behind the same codes.
  obtain rfl : padding = padding' := by omega
  rw [hagain, flatMap_byteBits_injective (hbits'.trans hbits.symm)]

end Accepted

/-- Huffman coding is a bijection onto what the decoder accepts, for the strings whose codes have a
number of bits that the announced size can hold, and for no others. -/
theorem qpackHuffman_bijection_iff (bytes : List UInt8) :
    (SizeHolds bytes ∧ ∀ coded room, qpackHuffmanDecode coded room = .ok bytes →
      (∃ padding ≤ 7,
        coded.flatMap byteBits = codeBits bytes ++ List.replicate padding true) ∧
      ∀ capacity ≥ coded.length, qpackHuffmanEncode bytes capacity = .ok coded) ↔
    huffmanLength bytes ≤ 2 ^ 64 - 8 :=
  ⟨fun h => (sizeHolds_iff bytes).mp h.1,
    fun h => ⟨(sizeHolds_iff bytes).mpr h, fun _ _ => qpackHuffmanDecode_ok⟩⟩

/-- The codes of so many ampersands have as many bits as a word counts, and no byte is announced for
them. -/
theorem qpackHuffmanEncodedSize_wraps :
    qpackHuffmanEncodedSize (List.replicate (2 ^ 61) 0x26) = .ok 0 ∧
      ¬SizeHolds (List.replicate (2 ^ 61) 0x26) := by
  have hbyte : (huffmanCode 0x26).2 = 8 := by decide
  constructor
  · rw [qpackHuffmanEncodedSize, huffmanBits_replicate hbyte _ (by decide) (by decide)]
    rfl
  · rw [sizeHolds_iff, huffmanLength, List.map_replicate, List.sum_replicate, hbyte]
    decide

end WebTransport
