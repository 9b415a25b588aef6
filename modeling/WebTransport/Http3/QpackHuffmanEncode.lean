import WebTransport.Lib.Bits
import WebTransport.Http3.QpackHuffman

/-!
# Writing QPACK's Huffman code

The encoder of `http3/qpack_huffman.c`, which writes the codes of the bytes one behind the other
from the top bit of a byte on and fills the last byte with ones. The decoder reads the bytes back.
-/

namespace WebTransport

/-- Code and length of each byte, and of the end of the string. -/
def rfc7541HuffmanCodes : List (ℕ × ℕ) :=
  [(0x1ff8, 13), (0x7fffd8, 23), (0xfffffe2, 28), (0xfffffe3, 28), (0xfffffe4, 28),
   (0xfffffe5, 28), (0xfffffe6, 28), (0xfffffe7, 28), (0xfffffe8, 28), (0xffffea, 24),
   (0x3ffffffc, 30), (0xfffffe9, 28), (0xfffffea, 28), (0x3ffffffd, 30), (0xfffffeb, 28),
   (0xfffffec, 28), (0xfffffed, 28), (0xfffffee, 28), (0xfffffef, 28), (0xffffff0, 28),
   (0xffffff1, 28), (0xffffff2, 28), (0x3ffffffe, 30), (0xffffff3, 28), (0xffffff4, 28),
   (0xffffff5, 28), (0xffffff6, 28), (0xffffff7, 28), (0xffffff8, 28), (0xffffff9, 28),
   (0xffffffa, 28), (0xffffffb, 28), (0x14, 6), (0x3f8, 10), (0x3f9, 10), (0xffa, 12),
   (0x1ff9, 13), (0x15, 6), (0xf8, 8), (0x7fa, 11), (0x3fa, 10), (0x3fb, 10), (0xf9, 8),
   (0x7fb, 11), (0xfa, 8), (0x16, 6), (0x17, 6), (0x18, 6), (0x0, 5), (0x1, 5), (0x2, 5),
   (0x19, 6), (0x1a, 6), (0x1b, 6), (0x1c, 6), (0x1d, 6), (0x1e, 6), (0x1f, 6), (0x5c, 7),
   (0xfb, 8), (0x7ffc, 15), (0x20, 6), (0xffb, 12), (0x3fc, 10), (0x1ffa, 13), (0x21, 6),
   (0x5d, 7), (0x5e, 7), (0x5f, 7), (0x60, 7), (0x61, 7), (0x62, 7), (0x63, 7), (0x64, 7),
   (0x65, 7), (0x66, 7), (0x67, 7), (0x68, 7), (0x69, 7), (0x6a, 7), (0x6b, 7), (0x6c, 7),
   (0x6d, 7), (0x6e, 7), (0x6f, 7), (0x70, 7), (0x71, 7), (0x72, 7), (0xfc, 8), (0x73, 7),
   (0xfd, 8), (0x1ffb, 13), (0x7fff0, 19), (0x1ffc, 13), (0x3ffc, 14), (0x22, 6), (0x7ffd, 15),
   (0x3, 5), (0x23, 6), (0x4, 5), (0x24, 6), (0x5, 5), (0x25, 6), (0x26, 6), (0x27, 6), (0x6, 5),
   (0x74, 7), (0x75, 7), (0x28, 6), (0x29, 6), (0x2a, 6), (0x7, 5), (0x2b, 6), (0x76, 7),
   (0x2c, 6), (0x8, 5), (0x9, 5), (0x2d, 6), (0x77, 7), (0x78, 7), (0x79, 7), (0x7a, 7),
   (0x7b, 7), (0x7ffe, 15), (0x7fc, 11), (0x3ffd, 14), (0x1ffd, 13), (0xffffffc, 28),
   (0xfffe6, 20), (0x3fffd2, 22), (0xfffe7, 20), (0xfffe8, 20), (0x3fffd3, 22), (0x3fffd4, 22),
   (0x3fffd5, 22), (0x7fffd9, 23), (0x3fffd6, 22), (0x7fffda, 23), (0x7fffdb, 23),
   (0x7fffdc, 23), (0x7fffdd, 23), (0x7fffde, 23), (0xffffeb, 24), (0x7fffdf, 23),
   (0xffffec, 24), (0xffffed, 24), (0x3fffd7, 22), (0x7fffe0, 23), (0xffffee, 24),
   (0x7fffe1, 23), (0x7fffe2, 23), (0x7fffe3, 23), (0x7fffe4, 23), (0x1fffdc, 21),
   (0x3fffd8, 22), (0x7fffe5, 23), (0x3fffd9, 22), (0x7fffe6, 23), (0x7fffe7, 23),
   (0xffffef, 24), (0x3fffda, 22), (0x1fffdd, 21), (0xfffe9, 20), (0x3fffdb, 22), (0x3fffdc, 22),
   (0x7fffe8, 23), (0x7fffe9, 23), (0x1fffde, 21), (0x7fffea, 23), (0x3fffdd, 22),
   (0x3fffde, 22), (0xfffff0, 24), (0x1fffdf, 21), (0x3fffdf, 22), (0x7fffeb, 23),
   (0x7fffec, 23), (0x1fffe0, 21), (0x1fffe1, 21), (0x3fffe0, 22), (0x1fffe2, 21),
   (0x7fffed, 23), (0x3fffe1, 22), (0x7fffee, 23), (0x7fffef, 23), (0xfffea, 20), (0x3fffe2, 22),
   (0x3fffe3, 22), (0x3fffe4, 22), (0x7ffff0, 23), (0x3fffe5, 22), (0x3fffe6, 22),
   (0x7ffff1, 23), (0x3ffffe0, 26), (0x3ffffe1, 26), (0xfffeb, 20), (0x7fff1, 19),
   (0x3fffe7, 22), (0x7ffff2, 23), (0x3fffe8, 22), (0x1ffffec, 25), (0x3ffffe2, 26),
   (0x3ffffe3, 26), (0x3ffffe4, 26), (0x7ffffde, 27), (0x7ffffdf, 27), (0x3ffffe5, 26),
   (0xfffff1, 24), (0x1ffffed, 25), (0x7fff2, 19), (0x1fffe3, 21), (0x3ffffe6, 26),
   (0x7ffffe0, 27), (0x7ffffe1, 27), (0x3ffffe7, 26), (0x7ffffe2, 27), (0xfffff2, 24),
   (0x1fffe4, 21), (0x1fffe5, 21), (0x3ffffe8, 26), (0x3ffffe9, 26), (0xffffffd, 28),
   (0x7ffffe3, 27), (0x7ffffe4, 27), (0x7ffffe5, 27), (0xfffec, 20), (0xfffff3, 24),
   (0xfffed, 20), (0x1fffe6, 21), (0x3fffe9, 22), (0x1fffe7, 21), (0x1fffe8, 21), (0x7ffff3, 23),
   (0x3fffea, 22), (0x3fffeb, 22), (0x1ffffee, 25), (0x1ffffef, 25), (0xfffff4, 24),
   (0xfffff5, 24), (0x3ffffea, 26), (0x7ffff4, 23), (0x3ffffeb, 26), (0x7ffffe6, 27),
   (0x3ffffec, 26), (0x3ffffed, 26), (0x7ffffe7, 27), (0x7ffffe8, 27), (0x7ffffe9, 27),
   (0x7ffffea, 27), (0x7ffffeb, 27), (0xffffffe, 28), (0x7ffffec, 27), (0x7ffffed, 27),
   (0x7ffffee, 27), (0x7ffffef, 27), (0x7fffff0, 27), (0x3ffffee, 26), (0x3fffffff, 30)]

def huffmanCode (byte : UInt8) : ℕ × ℕ := rfc7541HuffmanCodes.getD byte.toNat (0, 0)

/-! ## The size -/

/-- Add up the lengths of the codes. -/
def huffmanBits : List UInt8 → ℕ → Except Status ℕ
  | [], bits => .ok bits
  | byte :: bytes, bits =>
    let bits := (bits + (huffmanCode byte).2) % 2 ^ 64
    if bits > 2 ^ 64 - 1 - 7 then .error .overflow else huffmanBits bytes bits

def qpackHuffmanEncodedSize (bytes : List UInt8) : Except Status ℕ :=
  match huffmanBits bytes 0 with
  | .error status => .error status
  | .ok bits => .ok ((bits + 7) / 8)

/-! ## The codes -/

/-- What was written: whole bytes, the byte that is begun with zeros below its bits, and the number
of bits. -/
structure HuffmanWriter where
  produced : List UInt8
  begun : ℕ
  used : ℕ

/-- Put some bits below those of the byte that is begun. -/
def HuffmanWriter.put (w : HuffmanWriter) (take chunk : ℕ) : HuffmanWriter :=
  let byte := w.begun ||| chunk <<< (8 - w.used % 8 - take)
  let used := w.used + take
  if used % 8 = 0 then ⟨w.produced ++ [UInt8.ofNat byte], 0, used⟩ else ⟨w.produced, byte, used⟩

/-- Write the low bits of a code, as many at a time as the byte has room for. Every turn takes a
bit, so their number is fuel enough. -/
def putCode (capacity code : ℕ) : ℕ → ℕ → HuffmanWriter → Except Status HuffmanWriter
  | 0, _, w => .ok w
  | fuel + 1, remaining, w =>
    if remaining = 0 then .ok w
    else if w.produced.length = capacity then .error .limit
    else
      let freeBits := 8 - w.used % 8
      let take := if remaining < freeBits then remaining else freeBits
      let chunk := (code >>> (remaining - take)) % 2 ^ take
      putCode capacity code fuel (remaining - take) (w.put take chunk)

/-- Write the codes of some bytes. -/
def putCodes (capacity : ℕ) : List UInt8 → HuffmanWriter → Except Status HuffmanWriter
  | [], w => .ok w
  | byte :: bytes, w =>
    match putCode capacity (huffmanCode byte).1 (huffmanCode byte).2 (huffmanCode byte).2 w
    with
    | .error status => .error status
    | .ok w => putCodes capacity bytes w

/-- Code a string in at most `capacity` bytes. -/
def qpackHuffmanEncode (bytes : List UInt8) (capacity : ℕ) : Except Status (List UInt8) :=
  match putCodes capacity bytes ⟨[], 0, 0⟩ with
  | .error status => .error status
  | .ok w =>
    if w.used % 8 = 0 then .ok w.produced
    else if w.produced.length = capacity then .error .limit
    else .ok (w.produced ++ [UInt8.ofNat (w.begun ||| (2 ^ (8 - w.used % 8) - 1))])

/-! ## What was written -/

/-- The bits of the codes of some bytes. -/
def codeBits (bytes : List UInt8) : List Bool :=
  bytes.flatMap fun byte => Bits.ofNat (huffmanCode byte).2 (huffmanCode byte).1

/-- The bits that were written. -/
def HuffmanWriter.Holds (w : HuffmanWriter) (bits : List Bool) : Prop :=
  ∃ v < 2 ^ (w.used % 8), w.begun = v * 2 ^ (8 - w.used % 8) ∧
    bits = w.produced.flatMap byteBits ++ Bits.ofNat (w.used % 8) v

section Writing

variable {capacity : ℕ} {w w' : HuffmanWriter} {bits : List Bool}

lemma byteBits_eq (byte : UInt8) : byteBits byte = Bits.ofNat 8 byte.toNat := rfl

lemma byteBits_ofNat {v : ℕ} (hv : v < 256) : byteBits (UInt8.ofNat v) = Bits.ofNat 8 v := by
  rw [byteBits_eq, UInt8.toNat_ofNat', Nat.mod_eq_of_lt hv]

/-- Bits fill the place below those of a byte. -/
lemma begun_or {fill take v chunk : ℕ} (hfill : fill + take ≤ 8) (hchunk : chunk < 2 ^ take) :
    v * 2 ^ (8 - fill) ||| chunk <<< (8 - fill - take) =
      (v * 2 ^ take + chunk) * 2 ^ (8 - (fill + take)) := by
  have hroom : 8 - fill = take + (8 - (fill + take)) := by omega
  have hplace : 8 - fill - take = 8 - (fill + take) := by omega
  have hbelow : chunk * 2 ^ (8 - (fill + take)) < 2 ^ (8 - fill) := by
    rw [hroom, pow_add]
    exact Nat.mul_lt_mul_of_pos_right hchunk (by positivity)
  rw [hplace, Nat.shiftLeft_eq, Nat.mul_comm v, ← Nat.two_pow_add_eq_or_of_lt hbelow, hroom,
    pow_add]
  ring

/-- The bits of a turn come behind those that were written. -/
lemma HuffmanWriter.Holds.put (h : w.Holds bits) {take chunk : ℕ} (htake : 0 < take)
    (hfill : w.used % 8 + take ≤ 8) (hchunk : chunk < 2 ^ take) :
    (w.put take chunk).Holds (bits ++ Bits.ofNat take chunk) := by
  obtain ⟨v, hv, hbegun, rfl⟩ := h
  have hbyte := begun_or (v := v) hfill hchunk
  have hbits : Bits.ofNat (w.used % 8 + take) (v * 2 ^ take + chunk) =
      Bits.ofNat (w.used % 8) v ++ Bits.ofNat take chunk := Bits.ofNat_mul_add _ v hchunk
  have hbound : v * 2 ^ take + chunk < 2 ^ (w.used % 8 + take) := by
    rw [pow_add]
    calc v * 2 ^ take + chunk < v * 2 ^ take + 2 ^ take := by omega
      _ = (v + 1) * 2 ^ take := by ring
      _ ≤ 2 ^ (w.used % 8) * 2 ^ take := Nat.mul_le_mul_right _ hv
  unfold HuffmanWriter.put
  dsimp only
  rw [hbegun, hbyte]
  split_ifs with hwhole
  · -- The byte is full.
    have height : w.used % 8 + take = 8 := by omega
    rw [height] at hbits hbound ⊢
    refine ⟨0, by positivity, by rw [Nat.zero_mul], ?_⟩
    rw [hwhole, List.flatMap_append, List.flatMap_singleton, Nat.sub_self, pow_zero, mul_one,
      byteBits_ofNat hbound, hbits, Bits.ofNat, List.append_nil, List.append_assoc]
  · have hmod : (w.used + take) % 8 = w.used % 8 + take := by omega
    refine ⟨v * 2 ^ take + chunk, ?_, ?_, ?_⟩
    · rwa [hmod]
    · rw [hmod]
    · rw [hmod, hbits, List.append_assoc]

lemma putCode_ok {code fuel remaining : ℕ} (h : w.Holds bits) (hfuel : remaining ≤ fuel)
    (hput : putCode capacity code fuel remaining w = .ok w') :
    w'.Holds (bits ++ Bits.ofNat remaining code) := by
  induction fuel generalizing remaining w bits with
  | zero =>
    obtain rfl := Nat.le_zero.mp hfuel
    cases hput
    rwa [Bits.ofNat, List.append_nil]
  | succ fuel ih =>
    rw [putCode] at hput
    by_cases hdone : remaining = 0
    · subst hdone
      cases hput
      rwa [Bits.ofNat, List.append_nil]
    rw [if_neg hdone] at hput
    by_cases hfull : w.produced.length = capacity
    · rw [if_pos hfull] at hput
      cases hput
    rw [if_neg hfull] at hput
    dsimp only at hput
    set take := if remaining < 8 - w.used % 8 then remaining else 8 - w.used % 8 with htake
    have hbounds : 0 < take ∧ take ≤ remaining ∧ w.used % 8 + take ≤ 8 := by
      rw [htake]
      split_ifs <;> omega
    obtain ⟨hpos, hle, hfill⟩ := hbounds
    have hturn := h.put hpos hfill (Nat.mod_lt (code >>> (remaining - take)) (by positivity))
    have hrest := ih hturn (by omega) hput
    have hsplit : Bits.ofNat remaining code =
        Bits.ofNat take (code >>> (remaining - take)) ++ Bits.ofNat (remaining - take) code := by
      rw [← Bits.ofNat_add, Nat.add_sub_cancel' hle]
    rwa [Bits.ofNat_mod le_rfl, List.append_assoc, ← hsplit] at hrest

lemma putCodes_ok {bytes : List UInt8} (h : w.Holds bits)
    (hput : putCodes capacity bytes w = .ok w') : w'.Holds (bits ++ codeBits bytes) := by
  induction bytes generalizing w bits with
  | nil =>
    cases hput
    rwa [codeBits, List.flatMap_nil, List.append_nil]
  | cons byte bytes ih =>
    rw [putCodes] at hput
    cases hcode : putCode capacity (huffmanCode byte).1 (huffmanCode byte).2 (huffmanCode byte).2 w
    with
    | error status =>
      rw [hcode] at hput
      cases hput
    | ok w₁ =>
      rw [hcode] at hput
      have hrest := ih (putCode_ok h le_rfl hcode) hput
      rwa [List.append_assoc] at hrest

/-- A coded string is the codes of its bytes and less than a byte of ones. -/
lemma qpackHuffmanEncode_ok {bytes coded : List UInt8}
    (h : qpackHuffmanEncode bytes capacity = .ok coded) :
    ∃ padding ≤ 7, coded.flatMap byteBits = codeBits bytes ++ List.replicate padding true := by
  unfold qpackHuffmanEncode at h
  cases hput : putCodes capacity bytes ⟨[], 0, 0⟩ with
  | error status =>
    rw [hput] at h
    cases h
  | ok w =>
    rw [hput] at h
    have hstart : HuffmanWriter.Holds ⟨[], 0, 0⟩ [] := ⟨0, by decide, rfl, rfl⟩
    obtain ⟨v, hv, hbegun, hbits⟩ := putCodes_ok hstart hput
    rw [List.nil_append] at hbits
    dsimp only at h
    split_ifs at h with hwhole hfull
    · cases h
      refine ⟨0, by decide, ?_⟩
      rw [hwhole, Bits.ofNat, List.append_nil] at hbits
      rw [hbits, List.replicate_zero, List.append_nil]
    · cases h
      -- The ones stand below the bits of the byte that is begun.
      have hones : 2 ^ (8 - w.used % 8) - 1 < 2 ^ (8 - w.used % 8) := by
        have hpos : 0 < 2 ^ (8 - w.used % 8) := by positivity
        omega
      have hfill : w.used % 8 + (8 - w.used % 8) = 8 := by omega
      have hbyte : v * 2 ^ (8 - w.used % 8) + (2 ^ (8 - w.used % 8) - 1) < 256 := by
        calc _ < v * 2 ^ (8 - w.used % 8) + 2 ^ (8 - w.used % 8) := by omega
          _ = (v + 1) * 2 ^ (8 - w.used % 8) := by ring
          _ ≤ 2 ^ (w.used % 8) * 2 ^ (8 - w.used % 8) := Nat.mul_le_mul_right _ hv
          _ = 256 := by rw [← pow_add, hfill]; rfl
      refine ⟨8 - w.used % 8, by omega, ?_⟩
      have hsplit := Bits.ofNat_mul_add (w.used % 8) v hones
      rw [hfill, Bits.ofNat_ones] at hsplit
      rw [List.flatMap_append, List.flatMap_singleton, hbegun, Nat.mul_comm v,
        ← Nat.two_pow_add_eq_or_of_lt hones, Nat.mul_comm _ v, byteBits_ofNat hbyte, hsplit,
        hbits, List.append_assoc]

end Writing

/-! ## Reading it back -/

/-- A symbol is found at the end of its code and not before. -/
def IsHuffmanCode (code length symbol : ℕ) : Prop :=
  0 < length ∧ length ≤ rfc7541HuffmanMaxBits ∧ code < 2 ^ length ∧
    huffmanSymbol length code = some symbol ∧
    ∀ read < length, 0 < read → huffmanSymbol read (code >>> (length - read)) = none

instance (code length symbol : ℕ) : Decidable (IsHuffmanCode code length symbol) :=
  inferInstanceAs (Decidable (_ ∧ _ ∧ _ ∧ _ ∧ _))

/-- The codes that are written are those that are read. -/
lemma huffmanCodes_read : ∀ symbol < 256,
    IsHuffmanCode (rfc7541HuffmanCodes.getD symbol (0, 0)).1
      (rfc7541HuffmanCodes.getD symbol (0, 0)).2 symbol := by
  decide +kernel

lemma isHuffmanCode_byte (byte : UInt8) :
    IsHuffmanCode (huffmanCode byte).1 (huffmanCode byte).2 byte.toNat :=
  huffmanCodes_read byte.toNat byte.toNat_lt

section Reading

variable {capacity code length : ℕ} {byte : UInt8} {rest : List Bool} {out : List UInt8}

/-- The next bit of a number that is read from the top. -/
lemma shiftRight_read (code left : ℕ) :
    2 * (code >>> (left + 1)) + (code.testBit left).toNat = code >>> left := by
  rw [Nat.shiftRight_succ, Nat.testBit_eq_decide_div_mod_eq, Nat.shiftRight_eq_div_pow]
  rcases Nat.mod_two_eq_zero_or_one (code / 2 ^ left) with h | h
  · rw [h]
    simp only [Nat.zero_ne_one, decide_false, Bool.toNat_false]
    omega
  · rw [h]
    simp only [decide_true, Bool.toNat_true]
    omega

/-- The rest of a code is read, and its symbol is put out. -/
lemma huffmanDecodeBits_code (rest : List Bool) (h : IsHuffmanCode code length byte.toNat)
    (hroom : out.length < capacity) {left : ℕ} (hleft : left < length) :
    huffmanDecodeBits capacity (Bits.ofNat (left + 1) code ++ rest) (code >>> (left + 1))
        (length - (left + 1)) out =
      huffmanDecodeBits capacity rest 0 0 (out ++ [byte]) := by
  obtain ⟨hpos, hmax, hcode, hsymbol, hbefore⟩ := h
  induction left with
  | zero =>
    have hbits : length - (0 + 1) + 1 = length := by omega
    have heos : byte.toNat ≠ rfc7541HuffmanEos := (byte.toNat_lt).ne
    rw [Bits.ofNat, Bits.ofNat, List.cons_append, List.nil_append, huffmanDecodeBits,
      shiftRight_read, Nat.shiftRight_zero, hbits, if_neg (not_lt.mpr hmax), hsymbol]
    dsimp only
    rw [if_neg heos, if_neg hroom.ne, UInt8.ofNat_toNat]
  | succ left ih =>
    have hbits : length - (left + 1 + 1) + 1 = length - (left + 1) := by omega
    have hnone : huffmanSymbol (length - (left + 1)) (code >>> (left + 1)) = none := by
      have hread := hbefore (length - (left + 1)) (by omega) (by omega)
      rwa [show length - (length - (left + 1)) = left + 1 by omega] at hread
    rw [Bits.ofNat, List.cons_append, huffmanDecodeBits, shiftRight_read, hbits,
      if_neg (by omega), hnone]
    exact ih (by omega)

/-- The code of a byte is read back, whatever follows it. -/
lemma huffmanDecodeBits_byte (hroom : out.length < capacity) :
    huffmanDecodeBits capacity
        (Bits.ofNat (huffmanCode byte).2 (huffmanCode byte).1 ++ rest) 0 0 out =
      huffmanDecodeBits capacity rest 0 0 (out ++ [byte]) := by
  have hcode := isHuffmanCode_byte byte
  obtain ⟨hpos, -, hbound, -, -⟩ := id hcode
  have hread := huffmanDecodeBits_code rest hcode hroom
    (Nat.sub_one_lt (Nat.pos_iff_ne_zero.mp hpos))
  rwa [Nat.sub_add_cancel hpos, Nat.sub_self, Nat.shiftRight_eq_div_pow,
    Nat.div_eq_of_lt hbound] at hread

/-- What is left over is padding. -/
lemma huffmanDecodeBits_padding (read : ℕ) {left : ℕ} (h : read + left ≤ 7) :
    huffmanDecodeBits capacity (List.replicate left true) (2 ^ read - 1) read out = .ok out := by
  induction left generalizing read with
  | zero =>
    rw [List.replicate_zero, huffmanDecodeBits, if_neg (by omega), if_neg]
    exact fun hbad => hbad.2 rfl
  | succ left ih =>
    have hpos : 0 < 2 ^ read := by positivity
    have hcode : 2 * (2 ^ read - 1) + true.toNat = 2 ^ (read + 1) - 1 := by
      rw [pow_succ, Bool.toNat_true]
      omega
    have hnone : ∀ bits ≤ 7, huffmanSymbol bits (2 ^ bits - 1) = none := by decide
    rw [List.replicate_succ, huffmanDecodeBits, hcode,
      if_neg (by unfold rfc7541HuffmanMaxBits; omega), hnone _ (by omega)]
    exact ih (read + 1) (by omega)

lemma huffmanDecodeBits_codes {bytes : List UInt8} (hroom : out.length + bytes.length ≤ capacity)
    {padding : ℕ} (hpadding : padding ≤ 7) :
    huffmanDecodeBits capacity (codeBits bytes ++ List.replicate padding true) 0 0 out =
      .ok (out ++ bytes) := by
  induction bytes generalizing out with
  | nil =>
    rw [codeBits, List.flatMap_nil, List.nil_append, List.append_nil]
    exact huffmanDecodeBits_padding 0 (by omega)
  | cons byte bytes ih =>
    rw [List.length_cons] at hroom
    have hnext : (out ++ [byte]).length + bytes.length ≤ capacity := by
      rw [List.length_append, List.length_singleton]
      omega
    have hrest := ih hnext
    rw [codeBits, List.flatMap_cons, List.append_assoc, huffmanDecodeBits_byte (by omega)]
    rw [List.append_assoc] at hrest
    exact hrest

/-- **A coded string is read back** where there is room for it. -/
theorem qpackHuffmanDecode_encode {bytes coded : List UInt8} {scratch : ℕ}
    (h : qpackHuffmanEncode bytes scratch = .ok coded) (hroom : bytes.length ≤ capacity) :
    qpackHuffmanDecode coded capacity = .ok bytes := by
  obtain ⟨padding, hpadding, hbits⟩ := qpackHuffmanEncode_ok h
  have hnone : ([] : List UInt8).length + bytes.length ≤ capacity := by
    rwa [List.length_nil, Nat.zero_add]
  rw [qpackHuffmanDecode, hbits, huffmanDecodeBits_codes hnone hpadding, List.nil_append]

end Reading

/-- The coded form of a host name. -/
example : qpackHuffmanEncode ("www.example.com".toList.map fun c => UInt8.ofNat c.toNat) 16 =
    .ok [0xf1, 0xe3, 0xc2, 0xe5, 0xf2, 0x3a, 0x6b, 0xa0, 0xab, 0x90, 0xf4, 0xff] := by
  decide +kernel

end WebTransport
