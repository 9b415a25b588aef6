import WebTransport.Core.Status

/-!
# The Huffman code of QPACK's strings

The decoder of `http3/qpack_huffman.c` with the two tables it reads
(`http3/qpack_huffman_table.h`): the codes of each length are consecutive, and the symbols are
listed in the order of their codes.
-/

namespace WebTransport

/-- For each length from one bit on, the first code, the place of its symbol and the number of
codes. -/
def rfc7541HuffmanRanges : List (ℕ × ℕ × ℕ) :=
  [(0x0, 0, 0), (0x0, 0, 0), (0x0, 0, 0), (0x0, 0, 0), (0x0, 0, 10), (0x14, 10, 26),
   (0x5c, 36, 32), (0xf8, 68, 6), (0x1fc, 74, 0), (0x3f8, 74, 5), (0x7fa, 79, 3),
   (0xffa, 82, 2), (0x1ff8, 84, 6), (0x3ffc, 90, 2), (0x7ffc, 92, 3), (0xfffe, 95, 0),
   (0x1fffc, 95, 0), (0x3fff8, 95, 0), (0x7fff0, 95, 3), (0xfffe6, 98, 8), (0x1fffdc, 106, 13),
   (0x3fffd2, 119, 26), (0x7fffd8, 145, 29), (0xffffea, 174, 12), (0x1ffffec, 186, 4),
   (0x3ffffe0, 190, 15), (0x7ffffde, 205, 19), (0xfffffe2, 224, 29), (0x1ffffffe, 253, 0),
   (0x3ffffffc, 253, 4)]

/-- The symbols in the order of their codes. -/
def rfc7541HuffmanByCode : List ℕ :=
  [48, 49, 50, 97, 99, 101, 105, 111, 115, 116, 32, 37, 45, 46, 47, 51, 52, 53, 54, 55, 56, 57,
   61, 65, 95, 98, 100, 102, 103, 104, 108, 109, 110, 112, 114, 117, 58, 66, 67, 68, 69, 70,
   71, 72, 73, 74, 75, 76, 77, 78, 79, 80, 81, 82, 83, 84, 85, 86, 87, 89, 106, 107, 113, 118,
   119, 120, 121, 122, 38, 42, 44, 59, 88, 90, 33, 34, 40, 41, 63, 39, 43, 124, 35, 62, 0, 36,
   64, 91, 93, 126, 94, 125, 60, 96, 123, 92, 195, 208, 128, 130, 131, 162, 184, 194, 224, 226,
   153, 161, 167, 172, 176, 177, 179, 209, 216, 217, 227, 229, 230, 129, 132, 133, 134, 136,
   146, 154, 156, 160, 163, 164, 169, 170, 173, 178, 181, 185, 186, 187, 189, 190, 196, 198,
   228, 232, 233, 1, 135, 137, 138, 139, 140, 141, 143, 147, 149, 150, 151, 152, 155, 157, 158,
   165, 166, 168, 174, 175, 180, 182, 183, 188, 191, 197, 231, 239, 9, 142, 144, 145, 148, 159,
   171, 206, 215, 225, 236, 237, 199, 207, 234, 235, 192, 193, 200, 201, 202, 205, 210, 213,
   218, 219, 238, 240, 242, 243, 255, 203, 204, 211, 212, 214, 221, 222, 223, 241, 244, 245,
   246, 247, 248, 250, 251, 252, 253, 254, 2, 3, 4, 5, 6, 7, 8, 11, 12, 14, 15, 16, 17, 18, 19,
   20, 21, 23, 24, 25, 26, 27, 28, 29, 30, 31, 127, 220, 249, 10, 13, 22, 256]

def rfc7541HuffmanEos : ℕ := 256
def rfc7541HuffmanMaxBits : ℕ := 30

/-- The symbol with a code of so many bits. -/
def huffmanSymbol (bits code : ℕ) : Option ℕ :=
  match rfc7541HuffmanRanges[bits - 1]? with
  | none => none
  | some (first, offset, count) =>
    if count = 0 ∨ code < first then none
    else if code - first ≥ count then none
    else rfc7541HuffmanByCode[offset + (code - first)]?

/-- The bits of a byte, from the top one on. -/
def byteBits (byte : UInt8) : List Bool := (List.range 8).map fun i => byte.toNat.testBit (7 - i)

/-- Match the bits against the codes; `code` holds the `bits` bits since the last symbol. -/
def huffmanDecodeBits (capacity : ℕ) : List Bool → ℕ → ℕ → List UInt8 → Except Status (List UInt8)
  | [], code, bits, out =>
    -- What is left must be padding: at most seven bits, all of them one.
    if bits > 7 then .error .protocol
    else if bits ≠ 0 ∧ code ≠ 2 ^ bits - 1 then .error .protocol
    else .ok out
  | bit :: rest, code, bits, out =>
    let code := 2 * code + bit.toNat
    let bits := bits + 1
    if bits > rfc7541HuffmanMaxBits then .error .protocol
    else
      match huffmanSymbol bits code with
      | none => huffmanDecodeBits capacity rest code bits out
      | some symbol =>
        if symbol = rfc7541HuffmanEos then .error .protocol
        else if out.length = capacity then .error .limit
        else huffmanDecodeBits capacity rest 0 0 (out ++ [UInt8.ofNat symbol])

/-- Decode a Huffman-coded string into at most `capacity` bytes. -/
def qpackHuffmanDecode (coded : List UInt8) (capacity : ℕ) : Except Status (List UInt8) :=
  huffmanDecodeBits capacity (coded.flatMap byteBits) 0 0 []

/-- The coded form of a host name is read. -/
example : qpackHuffmanDecode [0xf1, 0xe3, 0xc2, 0xe5, 0xf2, 0x3a, 0x6b, 0xa0, 0xab, 0x90, 0xf4,
    0xff] 16 = .ok ("www.example.com".toList.map fun c => UInt8.ofNat c.toNat) := by
  decide +kernel

end WebTransport
