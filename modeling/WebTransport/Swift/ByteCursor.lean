import Mathlib.Tactic

/-!
# Bytes that are read and written by the Swift endpoint

The cursor of `QUICByteCursor.swift`, whose reads throw, and the variable-length integers of
`QUICVarInt.swift`. A cursor is the bytes that it has not read, and an integer is read from it one
byte at a time.
-/

namespace WebTransport

/-- What reading or writing bytes throws (`QUICCodecError`). -/
inductive QUICCodecError
  | truncated (needed available : ℕ)
  | malformed (message : String)
  | valueOutOfRange (message : String)
deriving DecidableEq, Repr

/-- Read some bytes (`readBytes(count:)`). -/
def readBytes (count : ℕ) (cursor : List UInt8) :
    Except QUICCodecError (List UInt8 × List UInt8) :=
  if cursor.length < count then .error (.truncated count cursor.length)
  else .ok (cursor.take count, cursor.drop count)

namespace QUICVarInt

/-- `QUICVarInt.maximum`. -/
def maximum : ℕ := 0x3fffffffffffffff

/-- Read some more bytes into a value; `none` when there are not so many. -/
def readMore : ℕ → ℕ → List UInt8 → Option (ℕ × List UInt8)
  | 0, value, c => some (value, c)
  | _ + 1, _, [] => none
  | more + 1, value, byte :: c => readMore more (value <<< 8 ||| byte.toNat) c

/-- Read one integer: its value and the bytes after it (`QUICVarInt.decode`); `none` for bytes
that end within it. -/
def decode : List UInt8 → Option (ℕ × List UInt8)
  | [] => none
  | first :: c => readMore (1 <<< (first.toNat >>> 6) - 1) (first.toNat &&& 0x3f) c

/-- Read an integer (`QUICVarInt.decode(from:)`). It is read byte by byte, and what is missing is
the next byte. -/
def read (cursor : List UInt8) : Except QUICCodecError (ℕ × List UInt8) :=
  match decode cursor with
  | none => .error (.truncated 1 0)
  | some r => .ok r

/-- The bytes of an integer (`QUICVarInt.encode`). -/
def encode (value : ℕ) : Except QUICCodecError (List UInt8) :=
  if value < 64 then .ok [.ofNat value]
  else if value < 16384 then .ok [.ofNat (value >>> 8 ||| 0x40), .ofNat (value &&& 0xff)]
  else if value < 1073741824 then
    .ok (.ofNat (value >>> 24 ||| 0x80) ::
      [16, 8, 0].map fun shift => .ofNat (value >>> shift &&& 0xff))
  else if value ≤ maximum then
    .ok (.ofNat (value >>> 56 ||| 0xc0) ::
      [48, 40, 32, 24, 16, 8, 0].map fun shift => .ofNat (value >>> shift &&& 0xff))
  else .error (.valueOutOfRange "QUIC varint exceeds 62 bits")

lemma encode_ok {value : ℕ} (h : value ≤ maximum) : ∃ bytes, encode value = .ok bytes := by
  unfold encode
  split_ifs
  · exact ⟨_, rfl⟩
  · exact ⟨_, rfl⟩
  · exact ⟨_, rfl⟩
  · exact ⟨_, rfl⟩

end QUICVarInt

end WebTransport
