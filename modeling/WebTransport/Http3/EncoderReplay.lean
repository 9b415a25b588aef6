import WebTransport.Http3.EncoderStream

/-!
# The encoder's instructions

What the encoder writes on its stream (`http3/qpack_encoder_stream.c`) and what it does to its own
table beside it. The decoder that applies a written instruction does the same to an equal table, and
waits for as long as a byte of it is missing.
-/

namespace WebTransport

open Reader (byFirst andThen)

/-! ## Writing -/

def qpackEncoderStreamWriteCapacity (w : Writer) (capacity : ℕ) : Except Status Writer :=
  qpackIntegerEncode w 5 0x20 capacity

def qpackEncoderStreamWriteInsertNameReference (w : Writer) (fromStatic : Bool) (index : ℕ)
    (value : List UInt8) : Except Status Writer :=
  match qpackIntegerEncode w 6 (if fromStatic then 0xc0 else 0x80) index with
  | .error _ => .error .limit
  | .ok w => qpackStringEncode w value

def qpackEncoderStreamWriteInsertLiteral (w : Writer) (name value : List UInt8) :
    Except Status Writer :=
  match qpackIntegerEncode w 5 0x40 name.length with
  | .error _ => .error .limit
  | .ok w =>
    match writerResult (w.put name) with
    | .error _ => .error .limit
    | .ok w => qpackStringEncode w value

def qpackEncoderStreamWriteDuplicate (w : Writer) (relative : ℕ) : Except Status Writer :=
  qpackIntegerEncode w 5 0x00 relative

/-- What an encoder may do to its table. -/
inductive EncoderOperation
  | setCapacity (capacity : ℕ)
  | insertNameReference (fromStatic : Bool) (index : ℕ) (value : List UInt8)
  | insertLiteral (name value : List UInt8)
  | duplicate (relative : ℕ)

/-- The instruction of an operation. -/
def EncoderOperation.write (w : Writer) : EncoderOperation → Except Status Writer
  | .setCapacity capacity => qpackEncoderStreamWriteCapacity w capacity
  | .insertNameReference fromStatic index value =>
    qpackEncoderStreamWriteInsertNameReference w fromStatic index value
  | .insertLiteral name value => qpackEncoderStreamWriteInsertLiteral w name value
  | .duplicate relative => qpackEncoderStreamWriteDuplicate w relative

/-- An operation whose arguments are valid for the encoder's table, and the table after it. A
relative index counts back from the last insertion, and the entry it names is taken before
anything is evicted. -/
inductive Performs (maxCapacity : ℕ) (t : DynamicTable) : EncoderOperation → DynamicTable → Prop
  | setCapacity {capacity : ℕ} : capacity ≤ maxCapacity →
      Performs maxCapacity t (.setCapacity capacity) (qpackDynamicSetCapacity t capacity)
  | staticName {index : ℕ} {name shown value : List UInt8} {t' : DynamicTable} :
      qpackStaticEntry index = some (name, shown) →
      qpackDynamicInsert t ⟨name, value⟩ = (t', .ok) →
      Performs maxCapacity t (.insertNameReference true index value) t'
  | dynamicName {index : ℕ} {entry : DynamicEntry} {value : List UInt8} {t' : DynamicTable} :
      index < t.insertCount → qpackDynamicEntry t (t.insertCount - 1 - index) = some entry →
      qpackDynamicInsert t ⟨entry.name, value⟩ = (t', .ok) →
      Performs maxCapacity t (.insertNameReference false index value) t'
  | literal {name value : List UInt8} {t' : DynamicTable} :
      qpackDynamicInsert t ⟨name, value⟩ = (t', .ok) →
      Performs maxCapacity t (.insertLiteral name value) t'
  | duplicate {relative : ℕ} {entry : DynamicEntry} {t' : DynamicTable} :
      relative < t.insertCount → qpackDynamicEntry t (t.insertCount - 1 - relative) = some entry →
      qpackDynamicInsert t entry = (t', .ok) →
      Performs maxCapacity t (.duplicate relative) t'

/-! ## Reading what was written -/

/-- The instruction the decoder reads for an operation. -/
def EncoderOperation.instruction : EncoderOperation → EncoderInstruction
  | .setCapacity capacity => .setCapacity capacity
  | .insertNameReference fromStatic index value =>
    .insertNameReference fromStatic index ⟨value, false⟩
  | .insertLiteral name value => .insertLiteral ⟨name, false⟩ ⟨value, false⟩
  | .duplicate relative => .duplicate relative

/-- Its bytes. -/
def EncoderOperation.bytes : EncoderOperation → List UInt8
  | .setCapacity capacity => qpackIntegerBytes 5 0x20 capacity
  | .insertNameReference fromStatic index value =>
    qpackIntegerBytes 6 (if fromStatic then 0xc0 else 0x80) index ++ qpackStringBytes value
  | .insertLiteral name value =>
    qpackIntegerBytes 5 0x40 name.length ++ name ++ qpackStringBytes value
  | .duplicate relative => qpackIntegerBytes 5 0x00 relative

section Replay

variable {maxCapacity : ℕ} {t t' : DynamicTable} {op : EncoderOperation} {w w' : Writer}

/-- The flags of an instruction are the high bits of its first byte. -/
lemma instruction_first (n flags value : ℕ) (hflags : flags % 2 ^ n = 0)
    (hfits : flags + 2 ^ n ≤ 256) (rest : List UInt8) :
    ∃ first c, qpackIntegerBytes n flags value ++ rest = first :: c ∧
      ∀ i, n ≤ i → first.toNat.testBit i = flags.testBit i := by
  obtain ⟨low, c, hbytes, hlow⟩ := qpackIntegerBytes_first n flags value
  refine ⟨UInt8.ofNat (flags + low), c ++ rest, by rw [hbytes]; rfl, fun i hi => ?_⟩
  rw [ofNat_toNat_of_lt (by omega), testBit_flags hflags hlow hi]

lemma EncoderOperation.write_ok (h : op.write w = .ok w') :
    w'.bytes = w.bytes ++ op.bytes ∧
      ∀ rest, encoderInstructionRead (op.bytes ++ rest) = .ok (op.instruction, rest) := by
  cases op with
  | setCapacity capacity =>
    obtain ⟨hvalue, -, hbytes⟩ := qpackIntegerEncode_ok h
    refine ⟨hbytes, fun rest => ?_⟩
    obtain ⟨first, c, hfirst, hbits⟩ :=
      instruction_first 5 0x20 capacity (by decide) (by decide) rest
    rw [EncoderOperation.bytes, encoderInstructionRead, hfirst, byFirst, hbits 7 (by decide),
      hbits 6 (by decide), hbits 5 (by decide), if_neg (by decide), if_neg (by decide),
      if_pos (by decide), ← hfirst, andThen,
      qpackIntegerDecode_bytes rest (by decide) (by decide) hvalue]
    rfl
  | insertNameReference fromStatic index value =>
    change qpackEncoderStreamWriteInsertNameReference w fromStatic index value = _ at h
    unfold qpackEncoderStreamWriteInsertNameReference at h
    cases hindex : qpackIntegerEncode w 6 (if fromStatic then 0xc0 else 0x80) index with
    | error e =>
      rw [hindex] at h
      cases h
    | ok w₁ =>
      rw [hindex] at h
      obtain ⟨hvalue, -, hbytes⟩ := qpackIntegerEncode_ok hindex
      obtain ⟨hlength, -, hbytes'⟩ := qpackStringEncode_ok h
      refine ⟨by rw [hbytes', hbytes, List.append_assoc]; rfl, fun rest => ?_⟩
      have hflags : (if fromStatic then 0xc0 else 0x80) % 2 ^ 6 = 0 := by
        cases fromStatic <;> decide
      have hfits : (if fromStatic then 0xc0 else 0x80) + 2 ^ 6 ≤ 256 := by
        cases fromStatic <;> decide
      obtain ⟨first, c, hfirst, hbits⟩ :=
        instruction_first 6 (if fromStatic then 0xc0 else 0x80) index hflags hfits
          (qpackStringBytes value ++ rest)
      have hseven : (if fromStatic then 0xc0 else 0x80).testBit 7 = true := by
        cases fromStatic <;> decide
      have hsix : (if fromStatic then 0xc0 else 0x80).testBit 6 = fromStatic := by
        cases fromStatic <;> decide
      rw [EncoderOperation.bytes, encoderInstructionRead, List.append_assoc, hfirst, byFirst,
        hbits 7 (by decide), hbits 6 le_rfl, hseven, hsix, if_pos rfl, ← hfirst, andThen,
        qpackIntegerDecode_bytes _ hflags hfits hvalue]
      dsimp only
      rw [andThen, qpackStringDecode_bytes rest hlength]
      rfl
  | insertLiteral name value =>
    change qpackEncoderStreamWriteInsertLiteral w name value = _ at h
    unfold qpackEncoderStreamWriteInsertLiteral at h
    cases hname : qpackIntegerEncode w 5 0x40 name.length with
    | error e =>
      rw [hname] at h
      cases h
    | ok w₁ =>
      rw [hname] at h
      dsimp only at h
      cases hput : writerResult (w₁.put name) with
      | error e =>
        rw [hput] at h
        cases h
      | ok w₂ =>
        rw [hput] at h
        obtain ⟨hvalue, -, hbytes⟩ := qpackIntegerEncode_ok hname
        obtain ⟨-, hbytes'⟩ := put_of_writerResult hput
        obtain ⟨hlength, -, hbytes''⟩ := qpackStringEncode_ok h
        refine ⟨?_, fun rest => ?_⟩
        · rw [hbytes'', hbytes', hbytes, EncoderOperation.bytes]
          simp only [List.append_assoc]
        obtain ⟨first, c, hfirst, hbits⟩ := instruction_first 5 0x40 name.length
          (by decide) (by decide) (name ++ (qpackStringBytes value ++ rest))
        rw [EncoderOperation.bytes, encoderInstructionRead, List.append_assoc, List.append_assoc,
          hfirst, byFirst, hbits 7 (by decide), hbits 6 (by decide), hbits 5 (by decide),
          if_neg (by decide), if_pos (by decide), ← hfirst, andThen,
          qpackIntegerDecode_bytes _ (by decide) (by decide) hvalue]
        dsimp only
        rw [andThen, Reader.take, if_neg (by rw [List.length_append]; omega), List.take_left,
          List.drop_left]
        dsimp only
        rw [andThen, qpackStringDecode_bytes rest hlength]
        rfl
  | duplicate relative =>
    obtain ⟨hvalue, -, hbytes⟩ := qpackIntegerEncode_ok h
    refine ⟨hbytes, fun rest => ?_⟩
    obtain ⟨first, c, hfirst, hbits⟩ :=
      instruction_first 5 0x00 relative (by decide) (by decide) rest
    rw [EncoderOperation.bytes, encoderInstructionRead, hfirst, byFirst, hbits 7 (by decide),
      hbits 6 (by decide), hbits 5 (by decide), if_neg (by decide), if_neg (by decide),
      if_neg (by decide), ← hfirst, andThen,
      qpackIntegerDecode_bytes rest (by decide) (by decide) hvalue]
    rfl

/-! ## Replaying -/

lemma relativeEntry_of_live {relative : ℕ} {entry : DynamicEntry}
    (hrelative : relative < t.insertCount)
    (hentry : qpackDynamicEntry t (t.insertCount - 1 - relative) = some entry) :
    relativeEntry t relative = some entry := by
  have hlive : ¬t.insertCount - 1 - relative < t.dropped := by
    intro hdropped
    rw [qpackDynamicEntry, if_pos hdropped] at hentry
    cases hentry
  rw [relativeEntry, resolveRelative, if_neg (by omega), if_neg hlive]
  exact hentry

lemma applyInsert_of_ok {name value : List UInt8}
    (h : qpackDynamicInsert t ⟨name, value⟩ = (t', .ok)) : applyInsert t name value = (t', .ok) := by
  rw [applyInsert, h]

/-- The decoder does to its table what the encoder did to an equal one. -/
lemma Performs.apply (h : Performs maxCapacity t op t') :
    encoderInstructionApply maxCapacity t op.instruction = (t', .ok) := by
  cases h with
  | setCapacity hcapacity =>
    exact if_neg (not_lt.mpr hcapacity)
  | staticName hentry hinsert =>
    rw [EncoderOperation.instruction, encoderInstructionApply, if_neg (by simp), if_pos rfl,
      hentry]
    exact applyInsert_of_ok hinsert
  | dynamicName hindex hentry hinsert =>
    rw [EncoderOperation.instruction, encoderInstructionApply, if_neg (by simp),
      if_neg (by decide), relativeEntry_of_live hindex hentry]
    exact applyInsert_of_ok hinsert
  | literal hinsert =>
    rw [EncoderOperation.instruction, encoderInstructionApply, if_neg (by simp)]
    exact applyInsert_of_ok hinsert
  | duplicate hrelative hentry hinsert =>
    rw [EncoderOperation.instruction, encoderInstructionApply,
      relativeEntry_of_live hrelative hentry]
    exact applyInsert_of_ok hinsert

/-- **An instruction replays its operation.** The decoder consumes exactly the bytes that were
written and arrives at the encoder's table; of a part of them it says that more must come, and
leaves its table alone. -/
theorem encoderInstruction_replays (h : Performs maxCapacity t op t')
    (hwrite : op.write w = .ok w') :
    ∃ written, w'.bytes = w.bytes ++ written ∧
      (∀ rest, qpackEncoderStreamApply maxCapacity t (written ++ rest) = (t', .ok rest)) ∧
      ∀ part missing, written = part ++ missing → part ≠ [] → missing ≠ [] →
        qpackEncoderStreamApply maxCapacity t part = (t, .error (.truncated, .none)) := by
  obtain ⟨hbytes, hread⟩ := op.write_ok hwrite
  refine ⟨op.bytes, hbytes, fun rest => ?_, fun part missing hsplit hpart hmissing => ?_⟩
  · rw [qpackEncoderStreamApply, hread rest]
    dsimp only
    rw [h.apply]
  · have hwhole := hread []
    rw [List.append_nil, hsplit] at hwhole
    have hshort := stable_encoderInstructionRead.short_of_part hwhole hmissing
    rw [qpackEncoderStreamApply, hshort]
    dsimp only
    rw [if_neg hpart]

/-- A literal insertion into an empty table of 64 bytes. -/
theorem literal_replays :
    ∃ w', (EncoderOperation.insertLiteral [0x61] [0x62]).write (writerInit 16) = .ok w' ∧
      ∃ written, w'.bytes = (writerInit 16).bytes ++ written ∧
      (∀ rest, qpackEncoderStreamApply 64 (qpackDynamicInit 64) (written ++ rest) =
        ((qpackDynamicInsert (qpackDynamicInit 64) ⟨[0x61], [0x62]⟩).1, .ok rest)) ∧
      ∀ part missing, written = part ++ missing → part ≠ [] → missing ≠ [] →
        qpackEncoderStreamApply 64 (qpackDynamicInit 64) part =
          (qpackDynamicInit 64, .error (.truncated, .none)) := by
  have hwrite : (EncoderOperation.insertLiteral [0x61] [0x62]).write (writerInit 16) = .ok _ := rfl
  exact ⟨_, hwrite, encoderInstruction_replays (.literal rfl) hwrite⟩

end Replay

end WebTransport
