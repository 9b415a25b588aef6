import WebTransport.Http3.QpackTables
import WebTransport.Http3.QpackHuffman

/-!
# QPACK field sections

A field section is a prefix, which says how many insertions it needs and which entry its
indices count from (`http3/qpack_header_prefix.c`), and field lines (`http3/qpack_field.c`),
each of which resolves to a name and a value (`http3/qpack_field_section.c`,
`http3/qpack_field_section_codec.c`).
-/

namespace WebTransport

/-- The error codes of the QPACK layer. -/
inductive QpackError
  | none
  | decompressionFailed
  | encoderStream
  | decoderStream
deriving DecidableEq, Repr

/-! ## The section prefix -/

/-- How many entries a table of some capacity can hold. -/
def qpackMaxEntries (capacity : ℕ) : ℕ := capacity / qpackDynamicEntryOverhead

structure HeaderPrefix where
  requiredInsertCount : ℕ
  base : ℕ
deriving DecidableEq, Repr

/-- Twice the table's size in entries does not fit in 64 bits. -/
def fullRangeOverflows (maxEntries : ℕ) : Prop :=
  maxEntries > 0 ∧ (2 * maxEntries) % 2 ^ 64 < maxEntries

instance (maxEntries : ℕ) : Decidable (fullRangeOverflows maxEntries) :=
  inferInstanceAs (Decidable (_ ∧ _))

/-- The Required Insert Count as it is sent: modulo twice the table's size, plus one. -/
def encodedInsertCount (requiredInsertCount maxEntries : ℕ) : ℕ :=
  if requiredInsertCount = 0 then 0 else requiredInsertCount % (2 * maxEntries % 2 ^ 64) + 1

/-- Write the prefix of a section. -/
def qpackHeaderPrefixEncode (w : Writer) (requiredInsertCount base maxEntries : ℕ) :
    Except Status Writer :=
  if fullRangeOverflows maxEntries then .error .overflow
  else if requiredInsertCount ≠ 0 ∧ maxEntries = 0 then .error .invalidArgument
  else
    -- The Base is a signed difference, with its sign above the seven-bit prefix.
    let negative := decide (base < requiredInsertCount)
    let delta :=
      if negative then requiredInsertCount - base - 1 else base - requiredInsertCount
    if delta > quicVarintMax then .error .invalidArgument
    else
      match qpackIntegerEncode w 8 0 (encodedInsertCount requiredInsertCount maxEntries) with
      | .error _ => .error .limit
      | .ok w => qpackIntegerEncode w 7 (if negative then 0x80 else 0) delta

/-- The Required Insert Count that an encoded count stands for, in the window of a decoder that
has seen `known` insertions. -/
def requiredInsertCountOf (encoded maxEntries known : ℕ) : Option ℕ :=
  let fullRange := 2 * maxEntries % 2 ^ 64
  if encoded = 0 then some 0
  else if encoded > fullRange then none
  else
    let maxValue := (known + maxEntries) % 2 ^ 64
    let maxWrapped := maxValue / fullRange * fullRange
    let required := (maxWrapped + encoded - 1) % 2 ^ 64
    if required > maxValue then
      if required ≤ fullRange then none
      else if required - fullRange = 0 then none
      else some (required - fullRange)
    else if required = 0 then none
    else some required

/-- The Base that a signed difference stands for. -/
def baseOf (requiredInsertCount delta : ℕ) (negative : Bool) : Option ℕ :=
  if negative then
    if delta ≥ requiredInsertCount then none else some (requiredInsertCount - delta - 1)
  else if delta > 2 ^ 64 - 1 - requiredInsertCount then none
  else some (requiredInsertCount + delta)

/-- Read the prefix of a section. -/
def qpackHeaderPrefixDecode (bytes : List UInt8) (maxEntries known : ℕ) :
    Except (Status × QpackError) (HeaderPrefix × List UInt8) :=
  let failed := Except.error (Status.protocol, QpackError.decompressionFailed)
  if fullRangeOverflows maxEntries then failed
  else
    match qpackIntegerDecode 8 bytes with
    | .error .truncated => .error (.truncated, .none)
    | .error _ => failed
    | .ok (_, []) => .error (.truncated, .none)
    | .ok (encoded, first :: c) =>
      match qpackIntegerDecode 7 (first :: c) with
      | .error .truncated => .error (.truncated, .none)
      | .error _ => failed
      | .ok (delta, rest) =>
        match requiredInsertCountOf encoded maxEntries known with
        | none => failed
        | some requiredInsertCount =>
          match baseOf requiredInsertCount delta (first.toNat.testBit 7) with
          | none => failed
          | some base => .ok (⟨requiredInsertCount, base⟩, rest)

/-! ## Field lines -/

/-- The representations of a field line. -/
inductive FieldLineKind
  | indexedStatic
  | indexedDynamic
  | literalNameRefStatic
  | literalNameRefDynamic
  | literalLiteralName
  | postBaseIndex
  | postBaseNameRef
deriving DecidableEq, Repr

/-- A field line as it stands on the wire: what its representation does not carry is empty. -/
structure FieldLine where
  kind : FieldLineKind
  index : ℕ := 0
  name : QpackString := ⟨[], false⟩
  value : QpackString := ⟨[], false⟩
deriving DecidableEq, Repr

/-- An index, and no more. -/
def readIndex (prefixBits : ℕ) (kind : FieldLineKind) (bytes : List UInt8) :
    Except Status (FieldLine × List UInt8) :=
  match qpackIntegerDecode prefixBits bytes with
  | .error status => .error status
  | .ok (index, rest) => .ok ({ kind, index }, rest)

/-- An index and a value. -/
def readNameRef (prefixBits : ℕ) (kind : FieldLineKind) (bytes : List UInt8) :
    Except Status (FieldLine × List UInt8) :=
  match qpackIntegerDecode prefixBits bytes with
  | .error status => .error status
  | .ok (index, rest) =>
    match qpackStringDecode rest with
    | .error status => .error status
    | .ok (value, rest) => .ok ({ kind, index, value }, rest)

/-- A name whose length has a prefix of so many bits, and a value. -/
def readLiteral (prefixBits : ℕ) (nameHuffman : Bool) (bytes : List UInt8) :
    Except Status (FieldLine × List UInt8) :=
  match qpackIntegerDecode prefixBits bytes with
  | .error status => .error status
  | .ok (nameLength, rest) =>
    if rest.length < nameLength then .error .truncated
    else
      match qpackStringDecode (rest.drop nameLength) with
      | .error status => .error status
      | .ok (value, left) =>
        .ok ({ kind := .literalLiteralName, name := ⟨rest.take nameLength, nameHuffman⟩, value },
          left)

/-- Read a field line: the first bits say which representation it is. -/
def qpackFieldLineDecode : List UInt8 → Except Status (FieldLine × List UInt8)
  | [] => .error .truncated
  | first :: c =>
    let flag := first.toNat.testBit
    if flag 7 then
      readIndex 6 (if flag 6 then .indexedStatic else .indexedDynamic) (first :: c)
    else if flag 6 then
      readNameRef 4 (if flag 4 then .literalNameRefStatic else .literalNameRefDynamic) (first :: c)
    else if flag 5 then readLiteral 3 (flag 3) (first :: c)
    else if flag 4 then readIndex 4 .postBaseIndex (first :: c)
    else readNameRef 3 .postBaseNameRef (first :: c)

/-- Write a field line whose name and value are written out and not Huffman-coded. -/
def qpackFieldLineEncodeLiteral (w : Writer) (name value : List UInt8) : Except Status Writer :=
  match qpackIntegerEncode w 3 0x20 name.length with
  | .error _ => .error .limit
  | .ok w =>
    match writerResult (w.put name) with
    | .error _ => .error .limit
    | .ok w => qpackStringEncode w value

/-! ## Resolved fields -/

structure ResolvedField where
  name : List UInt8
  value : List UInt8
deriving DecidableEq, Repr

/-- The plain bytes of a string, with the scratch bytes used so far: a coded one is decoded
into what the section's scratch buffer has left. -/
def materialise (text : QpackString) (capacity used : ℕ) : Except Status (List UInt8 × ℕ) :=
  if !text.huffman then .ok (text.bytes, used)
  else if used > capacity then .error .limit
  else
    match qpackHuffmanDecode text.bytes (capacity - used) with
    | .error status => .error status
    | .ok bytes => .ok (bytes, used + bytes.length)

/-- The code beside a refusal of `materialise`: a bound of this endpoint's has none. -/
def materialiseError (status : Status) : Status × QpackError :=
  (status, if status = .limit then .none else .decompressionFailed)

/-- The absolute index a field line names. -/
def absoluteIndex (sectionPrefix : HeaderPrefix) (kind : FieldLineKind) (index : ℕ) : Option ℕ :=
  match kind with
  | .indexedDynamic | .literalNameRefDynamic =>
    if index ≥ sectionPrefix.base then none else some (sectionPrefix.base - index - 1)
  | _ =>
    if index > 2 ^ 64 - 1 - sectionPrefix.base then none else some (sectionPrefix.base + index)

/-- The entry of the dynamic table a field line names. An index the section was not allowed to
name is refused, whether or not the table holds it. -/
def dynamicLookup (sectionPrefix : HeaderPrefix) (table : Option DynamicTable)
    (kind : FieldLineKind) (index : ℕ) : Option DynamicEntry :=
  match absoluteIndex sectionPrefix kind index with
  | none => none
  | some absolute =>
    if absolute ≥ sectionPrefix.requiredInsertCount then none
    else
      match table with
      | none => none
      | some table => qpackDynamicEntry table absolute

/-- The name and the value of a line whose value is `value` when the line carries one. -/
def resolveLine (sectionPrefix : HeaderPrefix) (table : Option DynamicTable) (line : FieldLine)
    (value : List UInt8) (capacity used : ℕ) :
    Except (Status × QpackError) (ResolvedField × ℕ) :=
  let failed := Except.error (Status.protocol, QpackError.decompressionFailed)
  match line.kind with
  | .indexedStatic =>
    match qpackStaticEntry line.index with
    | none => failed
    | some entry => .ok (⟨entry.1, entry.2⟩, used)
  | .literalNameRefStatic =>
    match qpackStaticEntry line.index with
    | none => failed
    | some entry => .ok (⟨entry.1, value⟩, used)
  | .indexedDynamic | .postBaseIndex =>
    match dynamicLookup sectionPrefix table line.kind line.index with
    | none => failed
    | some entry => .ok (⟨entry.name, entry.value⟩, used)
  | .literalNameRefDynamic | .postBaseNameRef =>
    match dynamicLookup sectionPrefix table line.kind line.index with
    | none => failed
    | some entry => .ok (⟨entry.name, value⟩, used)
  | .literalLiteralName =>
    match materialise line.name capacity used with
    | .error status => .error (materialiseError status)
    | .ok (name, used) => .ok (⟨name, value⟩, used)

/-- Read and resolve the next line of a section that has bytes left. -/
def qpackFieldSectionNext (sectionPrefix : HeaderPrefix) (table : Option DynamicTable)
    (capacity used : ℕ) (bytes : List UInt8) :
    Except (Status × QpackError) (ResolvedField × ℕ × List UInt8) :=
  match qpackFieldLineDecode bytes with
  | .error .truncated => .error (.truncated, .none)
  | .error _ => .error (.protocol, .decompressionFailed)
  | .ok (line, rest) =>
    -- The value is inline in every form but the two indexed ones of the static and the
    -- dynamic table; a post-base index carries an empty one.
    match
      if line.kind = .indexedStatic ∨ line.kind = .indexedDynamic then .ok ([], used)
      else materialise line.value capacity used with
    | .error status => .error (materialiseError status)
    | .ok (value, used) =>
      match resolveLine sectionPrefix table line value capacity used with
      | .error e => .error e
      | .ok (field, used) => .ok (field, used, rest)

/-- Begin a section. One that needs insertions this decoder has not received is blocked. -/
def qpackFieldSectionBegin (maxEntries : ℕ) (bytes : List UInt8) (known : ℕ) :
    Except (Status × QpackError) (HeaderPrefix × List UInt8) :=
  match qpackHeaderPrefixDecode bytes maxEntries known with
  | .error e => .error e
  | .ok (sectionPrefix, rest) =>
    if sectionPrefix.requiredInsertCount > known then .error (.again, .none)
    else .ok (sectionPrefix, rest)

end WebTransport
