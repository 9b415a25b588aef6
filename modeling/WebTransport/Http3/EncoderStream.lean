import WebTransport.Http3.EndpointMessages

/-!
# The peer's encoder stream

The instructions of `http3/qpack_encoder_stream.c` fill the decoder's table. The endpoint applies
the whole instructions of a chunk; what is left over its caller presents again, ahead of the next
chunk. An endpoint that has advertised a capacity keeps its table within it.
-/

namespace WebTransport

open Reader (byFirst andThen)

/-! ## Instructions -/

inductive EncoderInstruction
  | insertNameReference (fromStatic : Bool) (index : ℕ) (value : QpackString)
  | insertLiteral (name value : QpackString)
  | setCapacity (capacity : ℕ)
  | duplicate (relative : ℕ)
deriving DecidableEq, Repr

/-- Read an instruction: the first bits say which one it is. -/
def encoderInstructionRead : List UInt8 → Except Status (EncoderInstruction × List UInt8) :=
  byFirst .truncated fun first =>
    if first.toNat.testBit 7 then
      andThen (qpackIntegerDecode 6) fun index => andThen qpackStringDecode fun value rest =>
        .ok (.insertNameReference (first.toNat.testBit 6) index value, rest)
    else if first.toNat.testBit 6 then
      andThen (qpackIntegerDecode 5) fun nameLength =>
        andThen (Reader.take .truncated nameLength) fun name =>
          andThen qpackStringDecode fun value rest =>
            .ok (.insertLiteral ⟨name, first.toNat.testBit 5⟩ value, rest)
    else if first.toNat.testBit 5 then
      andThen (qpackIntegerDecode 5) fun capacity rest => .ok (.setCapacity capacity, rest)
    else andThen (qpackIntegerDecode 5) fun relative rest => .ok (.duplicate relative, rest)

/-- A relative index counts back from the last insertion. -/
def resolveRelative (t : DynamicTable) (relative : ℕ) : Option ℕ :=
  if relative ≥ t.insertCount then none
  else if t.insertCount - 1 - relative < t.dropped then none
  else some (t.insertCount - 1 - relative)

def relativeEntry (t : DynamicTable) (relative : ℕ) : Option DynamicEntry :=
  match resolveRelative t relative with
  | none => none
  | some absolute => qpackDynamicEntry t absolute

/-- Insert an entry; a bound of this endpoint's stays a bound. -/
def applyInsert (t : DynamicTable) (name value : List UInt8) : DynamicTable × Status :=
  match qpackDynamicInsert t ⟨name, value⟩ with
  | (t, .ok) => (t, .ok)
  | (t, .limit) => (t, .limit)
  | (t, _) => (t, .protocol)

/-- Apply an instruction to the table. Huffman-coded strings are not supported here. -/
def encoderInstructionApply (maxCapacity : ℕ) (t : DynamicTable) :
    EncoderInstruction → DynamicTable × Status
  | .insertNameReference fromStatic index value =>
    if value.huffman then (t, .state)
    else if fromStatic then
      match qpackStaticEntry index with
      | none => (t, .protocol)
      | some entry => applyInsert t entry.1 value.bytes
    else
      match relativeEntry t index with
      | none => (t, .protocol)
      | some entry => applyInsert t entry.name value.bytes
  | .insertLiteral name value =>
    if name.huffman ∨ value.huffman then (t, .state) else applyInsert t name.bytes value.bytes
  | .setCapacity capacity =>
    if capacity > maxCapacity then (t, .protocol) else (qpackDynamicSetCapacity t capacity, .ok)
  | .duplicate relative =>
    match relativeEntry t relative with
    | none => (t, .protocol)
    | some entry => applyInsert t entry.name entry.value

/-- Read an instruction off the stream and apply it. Only where there is nothing to read does an
incomplete instruction name an error. -/
def qpackEncoderStreamApply (maxCapacity : ℕ) (t : DynamicTable) (bytes : List UInt8) :
    DynamicTable × Except (Status × QpackError) (List UInt8) :=
  match encoderInstructionRead bytes with
  | .error .truncated =>
    (t, .error (.truncated, if bytes = [] then .encoderStream else .none))
  | .error _ => (t, .error (.protocol, .encoderStream))
  | .ok (instruction, rest) =>
    match encoderInstructionApply maxCapacity t instruction with
    | (t, .ok) => (t, .ok rest)
    | (t, status) => (t, .error (status, .encoderStream))

/-- What the endpoint looks at of an application. -/
def encoderStep (maxCapacity : ℕ) : Reader.Step DynamicTable UInt8 Status := fun t bytes =>
  match qpackEncoderStreamApply maxCapacity t bytes with
  | (t, .ok rest) => (t, .ok rest)
  | (t, .error (status, _)) => (t, .error status)

/-- Apply the whole instructions of some bytes. -/
def encoderRun (maxCapacity : ℕ) (t : DynamicTable) (bytes : List UInt8) :
    Reader.Drained DynamicTable UInt8 Status :=
  Reader.run .truncated (encoderStep maxCapacity) t bytes

/-- What a call reports: the reply and the bytes it left. -/
structure EncoderBytes where
  endpoint : MessageEndpoint
  reply : Reply
  tail : List UInt8
deriving DecidableEq, Repr

/-- Bytes of the peer's encoder stream arrive, and the table may be set to no more than
`maxCapacity`. A refusal leaves the insertion count as it was. -/
def encoderBytesWithin (maxCapacity : ℕ) (e : MessageEndpoint) (bytes : List UInt8) :
    EncoderBytes :=
  if !e.peerQpackEncoderSeen then ⟨e, (.protocol, .streamCreationError), bytes⟩
  else if !e.decoderCapacitySet then ⟨e, (.protocol, .qpackEncoderStreamError), bytes⟩
  else
    match encoderRun maxCapacity e.decoderTable bytes with
    | ⟨table, tail, none⟩ =>
      ⟨{ e with decoderTable := table, decoderInsertCount := table.insertCount }, Reply.good, tail⟩
    | ⟨table, tail, some _⟩ =>
      ⟨{ e with decoderTable := table }, (.protocol, .qpackEncoderStreamError), tail⟩

/-- Bytes of the peer's encoder stream arrive: the bound is what the table has now. -/
def http3EndpointOnQpackEncoderBytes (e : MessageEndpoint) (bytes : List UInt8) : EncoderBytes :=
  encoderBytesWithin e.decoderTable.capacity e bytes

/-! ## What an instruction does -/

section Instructions

variable {maxCapacity : ℕ} {t t' : DynamicTable} {i : EncoderInstruction} {status : Status}
  {x rest : List UInt8}

/-- The integers and strings of an instruction are read alike whatever comes after them. -/
lemma stable_encoderInstructionRead : Reader.Stable Status.truncated encoderInstructionRead := by
  apply Reader.stable_byFirst
  · intro first
    split_ifs
    · exact (stable_qpackIntegerDecode 6).andThen fun index =>
        stable_qpackStringDecode.andThen fun value => Reader.stable_pure _ _
    · exact (stable_qpackIntegerDecode 5).andThen fun nameLength =>
        (Reader.stable_take _ nameLength).andThen fun name =>
          stable_qpackStringDecode.andThen fun value => Reader.stable_pure _ _
    · exact (stable_qpackIntegerDecode 5).andThen fun capacity => Reader.stable_pure _ _
    · exact (stable_qpackIntegerDecode 5).andThen fun relative => Reader.stable_pure _ _
  · intro first
    split_ifs <;> rfl

lemma encoderInstructionRead_part {x rest : List UInt8}
    (h : encoderInstructionRead x = .ok (i, rest)) :
    ∃ p, p ≠ [] ∧ x = p ++ rest ∧ ∀ y, encoderInstructionRead (p ++ y) = .ok (i, y) :=
  stable_encoderInstructionRead.part (e := .truncated) rfl h

/-- What an instruction may do to a table. -/
structure InstructionEffect (maxCapacity : ℕ) (i : EncoderInstruction) (t t' : DynamicTable)
    (status : Status) : Prop where
  whole : status ≠ .truncated
  refused : status ≠ .ok → t'.capacity = t.capacity ∧ t'.insertCount = t.insertCount
  count : t.insertCount ≤ t'.insertCount ∧ t'.insertCount ≤ t.insertCount + 1
  capacity : t'.capacity = t.capacity ∨ i = .setCapacity t'.capacity ∧ t'.capacity ≤ maxCapacity

lemma applyInsert_effect (t : DynamicTable) (name value : List UInt8) :
    InstructionEffect maxCapacity i t (applyInsert t name value).1 (applyInsert t name value).2 := by
  have hspec := qpackDynamicInsert_spec t ⟨name, value⟩
  unfold applyInsert
  rcases hinsert : qpackDynamicInsert t ⟨name, value⟩ with ⟨t', status⟩
  rw [hinsert] at hspec
  obtain ⟨hcapacity, ⟨rfl, hcount⟩ | ⟨rfl, hcount⟩⟩ := hspec
  · refine ⟨nofun, fun h => absurd rfl h, ?_, .inl hcapacity⟩
    rw [hcount]
    exact ⟨Nat.le_succ _, le_rfl⟩
  · refine ⟨nofun, fun _ => ⟨hcapacity, hcount⟩, ?_, .inl hcapacity⟩
    rw [hcount]
    exact ⟨le_rfl, Nat.le_succ _⟩

lemma instructionEffect_refused (hstatus : status ≠ .truncated) :
    InstructionEffect maxCapacity i t t status :=
  ⟨hstatus, fun _ => ⟨rfl, rfl⟩, ⟨le_rfl, Nat.le_succ _⟩, .inl rfl⟩

lemma encoderInstructionApply_effect (maxCapacity : ℕ) (t : DynamicTable)
    (i : EncoderInstruction) :
    InstructionEffect maxCapacity i t (encoderInstructionApply maxCapacity t i).1
      (encoderInstructionApply maxCapacity t i).2 := by
  cases i with
  | insertNameReference fromStatic index value =>
    rw [encoderInstructionApply]
    split_ifs
    · exact instructionEffect_refused nofun
    · split
      · exact instructionEffect_refused nofun
      · exact applyInsert_effect _ _ _
    · split
      · exact instructionEffect_refused nofun
      · exact applyInsert_effect _ _ _
  | insertLiteral name value =>
    rw [encoderInstructionApply]
    split_ifs
    · exact instructionEffect_refused nofun
    · exact applyInsert_effect _ _ _
  | setCapacity capacity =>
    rw [encoderInstructionApply]
    split_ifs with hlarge
    · exact instructionEffect_refused nofun
    · refine ⟨nofun, fun h => absurd rfl h, ?_, .inr ⟨rfl, not_lt.mp hlarge⟩⟩
      rw [setCapacity_insertCount]
      exact ⟨le_rfl, Nat.le_succ _⟩
  | duplicate relative =>
    rw [encoderInstructionApply]
    split
    · exact instructionEffect_refused nofun
    · exact applyInsert_effect _ _ _

/-- What a step did: it read no instruction, or it applied the one it read. -/
lemma encoderStep_cases (maxCapacity : ℕ) (t : DynamicTable) (x : List UInt8) :
    (∃ e, encoderInstructionRead x = .error e ∧
      encoderStep maxCapacity t x = (t, .error (if e = .truncated then .truncated else .protocol))) ∨
    ∃ i rest, encoderInstructionRead x = .ok (i, rest) ∧
      encoderStep maxCapacity t x = ((encoderInstructionApply maxCapacity t i).1,
        if (encoderInstructionApply maxCapacity t i).2 = .ok then .ok rest
        else .error (encoderInstructionApply maxCapacity t i).2) := by
  unfold encoderStep qpackEncoderStreamApply
  cases hread : encoderInstructionRead x with
  | error e =>
    refine .inl ⟨e, rfl, ?_⟩
    cases e <;> rfl
  | ok r =>
    obtain ⟨i, rest⟩ := r
    refine .inr ⟨i, rest, rfl, ?_⟩
    dsimp only
    obtain ⟨t', status⟩ := encoderInstructionApply maxCapacity t i
    cases status <;> rfl

/-- A step that goes on applied the instruction it read. -/
lemma encoderStep_ok : encoderStep maxCapacity t x = (t', .ok rest) ↔
    ∃ i, encoderInstructionRead x = .ok (i, rest) ∧
      encoderInstructionApply maxCapacity t i = (t', .ok) := by
  obtain ⟨e, hread, hstep⟩ | ⟨i, rest', hread, hstep⟩ := encoderStep_cases maxCapacity t x
  · rw [hstep, hread]
    simp
  · rcases happly : encoderInstructionApply maxCapacity t i with ⟨t'', s⟩
    rw [hstep, hread, happly]
    constructor
    · intro h
      by_cases hs : s = .ok
      · rw [if_pos hs] at h
        cases h
        exact ⟨i, rfl, hs ▸ happly⟩
      · rw [if_neg hs] at h
        cases (Prod.mk.inj h).2
    · rintro ⟨i', hi, happly'⟩
      cases hi
      rw [happly] at happly'
      cases happly'
      rfl

/-- A step that stops read no instruction, or the one it read was refused. -/
lemma encoderStep_error : encoderStep maxCapacity t x = (t', .error status) ↔
    (∃ e, encoderInstructionRead x = .error e ∧ t' = t ∧
        status = if e = .truncated then .truncated else .protocol) ∨
      ∃ i rest, encoderInstructionRead x = .ok (i, rest) ∧
        encoderInstructionApply maxCapacity t i = (t', status) ∧ status ≠ .ok := by
  obtain ⟨e, hread, hstep⟩ | ⟨i, rest', hread, hstep⟩ := encoderStep_cases maxCapacity t x
  · rw [hstep, hread]
    simp [eq_comm]
  · rcases happly : encoderInstructionApply maxCapacity t i with ⟨t'', s⟩
    rw [hstep, hread, happly]
    constructor
    · intro h
      by_cases hs : s = .ok
      · rw [if_pos hs] at h
        cases (Prod.mk.inj h).2
      · rw [if_neg hs] at h
        cases h
        exact .inr ⟨i, rest', rfl, happly, hs⟩
    · rintro (⟨e, he, -⟩ | ⟨i', rest, hi, happly', hs⟩)
      · cases he
      · cases hi
        rw [happly] at happly'
        cases happly'
        rw [if_neg hs]

lemma stableStep_encoderStep (maxCapacity : ℕ) :
    Reader.StableStep Status.truncated (encoderStep maxCapacity) := by
  have hstable := stable_encoderInstructionRead
  constructor
  · intro t t' x rest h
    obtain ⟨i, hread, happly⟩ := encoderStep_ok.mp h
    obtain ⟨p, hne, hp, hpart⟩ := encoderInstructionRead_part hread
    exact ⟨p, hne, hp, fun y => encoderStep_ok.mpr ⟨i, hpart y, happly⟩⟩
  · intro t t' x e h he y
    obtain ⟨e', hread, rfl, rfl⟩ | ⟨i, rest, hread, happly, hok⟩ := encoderStep_error.mp h
    · have hmalformed : e' ≠ .truncated := by
        rintro rfl
        exact he rfl
      exact encoderStep_error.mpr (.inl ⟨e', hstable.error hread hmalformed y, rfl, rfl⟩)
    · obtain ⟨p, -, rfl, hpart⟩ := encoderInstructionRead_part hread
      rw [List.append_assoc]
      exact encoderStep_error.mpr (.inr ⟨i, rest ++ y, hpart _, happly, hok⟩)
  · intro t t' x h
    obtain ⟨e', -, rfl, -⟩ | ⟨i, rest, -, happly, -⟩ := encoderStep_error.mp h
    · rfl
    · have heffect := encoderInstructionApply_effect maxCapacity t i
      rw [happly] at heffect
      exact absurd rfl heffect.whole

/-- A step keeps the capacity within its bound, and an insertion takes input. -/
lemma encoderStep_bounds (hwithin : t.capacity ≤ maxCapacity)
    (h : encoderStep maxCapacity t x = (t', .ok rest)) :
    t'.capacity ≤ maxCapacity ∧ t.insertCount ≤ t'.insertCount ∧
      t'.insertCount + rest.length ≤ t.insertCount + x.length := by
  obtain ⟨i, hread, happly⟩ := encoderStep_ok.mp h
  have heffect := encoderInstructionApply_effect maxCapacity t i
  rw [happly] at heffect
  have hshorter := (stableStep_encoderStep maxCapacity).progress h
  obtain ⟨hlow, hhigh⟩ := heffect.count
  refine ⟨?_, hlow, by dsimp only at hhigh; omega⟩
  rcases heffect.capacity with hsame | ⟨-, hset⟩
  · exact hsame.trans_le hwithin
  · exact hset

/-- A step that stops leaves the capacity and the count of insertions. -/
lemma encoderStep_stops (h : encoderStep maxCapacity t x = (t', .error status)) :
    t'.capacity = t.capacity ∧ t'.insertCount = t.insertCount := by
  obtain ⟨e', -, rfl, -⟩ | ⟨i, rest, -, happly, hok⟩ := encoderStep_error.mp h
  · exact ⟨rfl, rfl⟩
  · have heffect := encoderInstructionApply_effect maxCapacity t i
    rw [happly] at heffect
    exact heffect.refused hok

/-- A run keeps the capacity within its bound, and every insertion takes input. -/
lemma encoderRun_bounds (hwithin : t.capacity ≤ maxCapacity) (x : List UInt8) :
    (encoderRun maxCapacity t x).state.capacity ≤ maxCapacity ∧
      t.insertCount ≤ (encoderRun maxCapacity t x).state.insertCount ∧
      (encoderRun maxCapacity t x).state.insertCount + (encoderRun maxCapacity t x).tail.length ≤
        t.insertCount + x.length := by
  apply Reader.run_invariant (P := fun (t' : DynamicTable) (x' : List UInt8) =>
    t'.capacity ≤ maxCapacity ∧ t.insertCount ≤ t'.insertCount ∧
      t'.insertCount + x'.length ≤ t.insertCount + x.length)
  · rintro t₁ t₂ x₁ rest ⟨hcapacity, hlow, hhigh⟩ hstep
    obtain ⟨hcapacity', hlow', hhigh'⟩ := encoderStep_bounds hcapacity hstep
    exact ⟨hcapacity', hlow.trans hlow', hhigh'.trans hhigh⟩
  · rintro t₁ t₂ x₁ e ⟨hcapacity, hlow, hhigh⟩ hstep
    obtain ⟨hsame, hcount⟩ := encoderStep_stops hstep
    rw [hsame, hcount]
    exact ⟨hcapacity, hlow, hhigh⟩
  · exact ⟨hwithin, le_rfl, le_rfl⟩

end Instructions

/-! ## Endpoints with an advertised capacity -/

/-- An endpoint that has advertised a capacity, after some bytes of the peer's encoder stream
were consumed. What else happens to the endpoint leaves its decoder. -/
inductive DecoderReached (capacity : ℕ) : ℕ → MessageEndpoint → Prop
  | advertise {e : MessageEndpoint} (hunset : e.decoderCapacitySet = false)
      (hsize : capacity < 2 ^ 64) :
      DecoderReached capacity 0 (http3EndpointSetDecoderCapacity e capacity).1
  | again {n : ℕ} {e : MessageEndpoint} (h : DecoderReached capacity n e) (capacity' : ℕ) :
      DecoderReached capacity n (http3EndpointSetDecoderCapacity e capacity').1
  | bytes {n : ℕ} {e : MessageEndpoint} (h : DecoderReached capacity n e) (bytes : List UInt8) :
      DecoderReached capacity
        (n + (bytes.length - (http3EndpointOnQpackEncoderBytes e bytes).tail.length))
        (http3EndpointOnQpackEncoderBytes e bytes).endpoint
  | requestHeaders {n : ℕ} {e : MessageEndpoint} (h : DecoderReached capacity n e)
      (streamId : ℕ) (payload : List UInt8) (scratch : ℕ) :
      DecoderReached capacity n (http3EndpointOnRequestHeaders e streamId payload scratch).1
  | responseHeaders {n : ℕ} {e : MessageEndpoint} (h : DecoderReached capacity n e)
      (streamId : ℕ) (payload : List UInt8) (scratch : ℕ) :
      DecoderReached capacity n (http3EndpointOnResponseHeaders e streamId payload scratch).1
  | other {n : ℕ} {e : MessageEndpoint} (h : DecoderReached capacity n e)
      (requests : List EndpointRequest) (encoderSeen : Bool) (acked : ℕ) :
      DecoderReached capacity n
        { e with requests, peerQpackEncoderSeen := encoderSeen, decoderAckedInsertCount := acked }

/-- What holds of the decoder of such an endpoint. -/
structure MessageEndpoint.Advertised (capacity n : ℕ) (e : MessageEndpoint) : Prop where
  set : e.decoderCapacitySet = true
  size : capacity < 2 ^ 64
  within : e.decoderTable.capacity ≤ capacity
  counted : e.decoderInsertCount ≤ e.decoderTable.insertCount
  received : e.decoderTable.insertCount ≤ n

section Advertised

variable {capacity n : ℕ} {e e' : MessageEndpoint}

/-- Without an encoder stream of the peer nothing is applied. -/
lemma encoderBytesWithin_unseen {maxCapacity : ℕ} {bytes : List UInt8}
    (hseen : e.peerQpackEncoderSeen = false) :
    encoderBytesWithin maxCapacity e bytes = ⟨e, (.protocol, .streamCreationError), bytes⟩ := by
  rw [encoderBytesWithin, hseen, if_pos (by decide)]

/-- Whole instructions are applied, and the endpoint counts what was inserted. -/
lemma encoderBytesWithin_ok {maxCapacity : ℕ} {bytes tail : List UInt8} {table : DynamicTable}
    (hseen : e.peerQpackEncoderSeen = true) (hset : e.decoderCapacitySet = true)
    (hrun : encoderRun maxCapacity e.decoderTable bytes = ⟨table, tail, none⟩) :
    encoderBytesWithin maxCapacity e bytes =
      ⟨{ e with decoderTable := table, decoderInsertCount := table.insertCount }, Reply.good,
        tail⟩ := by
  rw [encoderBytesWithin, if_neg (by simp [hseen]), if_neg (by simp [hset]), hrun]

/-- A refused instruction ends the call; what was applied before it stands. -/
lemma encoderBytesWithin_refused {maxCapacity : ℕ} {bytes tail : List UInt8}
    {table : DynamicTable} {status : Status} (hseen : e.peerQpackEncoderSeen = true)
    (hset : e.decoderCapacitySet = true)
    (hrun : encoderRun maxCapacity e.decoderTable bytes = ⟨table, tail, some status⟩) :
    encoderBytesWithin maxCapacity e bytes =
      ⟨{ e with decoderTable := table }, (.protocol, .qpackEncoderStreamError), tail⟩ := by
  rw [encoderBytesWithin, if_neg (by simp [hseen]), if_neg (by simp [hset]), hrun]

lemma MessageEndpoint.Advertised.congr (h : e.Advertised capacity n)
    (hset : e'.decoderCapacitySet = e.decoderCapacitySet)
    (htable : e'.decoderTable = e.decoderTable)
    (hcount : e'.decoderInsertCount = e.decoderInsertCount) : e'.Advertised capacity n := by
  refine ⟨hset.trans h.set, h.size, ?_, ?_, ?_⟩
  · rw [htable]
    exact h.within
  · rw [htable, hcount]
    exact h.counted
  · rw [htable]
    exact h.received

lemma http3EndpointSetDecoderCapacity_set (h : e.decoderCapacitySet = true) (capacity' : ℕ) :
    (http3EndpointSetDecoderCapacity e capacity').1 = e := by
  unfold http3EndpointSetDecoderCapacity
  rw [h, if_pos rfl]
  split_ifs <;> rfl

lemma MessageEndpoint.Advertised.bytes (h : e.Advertised capacity n) (bytes : List UInt8) :
    (http3EndpointOnQpackEncoderBytes e bytes).endpoint.Advertised capacity
      (n + (bytes.length - (http3EndpointOnQpackEncoderBytes e bytes).tail.length)) := by
  obtain ⟨hcapacity, hlow, hhigh⟩ := encoderRun_bounds (le_refl e.decoderTable.capacity) bytes
  have hreceived := h.received
  unfold http3EndpointOnQpackEncoderBytes
  cases hseen : e.peerQpackEncoderSeen with
  | false =>
    rw [encoderBytesWithin_unseen hseen]
    exact ⟨h.set, h.size, h.within, h.counted, hreceived.trans (Nat.le_add_right _ _)⟩
  | true =>
    rcases hrun : encoderRun e.decoderTable.capacity e.decoderTable bytes with
      ⟨table, tail, refusal⟩
    rw [hrun] at hcapacity hlow hhigh
    dsimp only at hcapacity hlow hhigh
    cases refusal with
    | none =>
      rw [encoderBytesWithin_ok hseen h.set hrun]
      refine ⟨h.set, h.size, hcapacity.trans h.within, le_rfl, ?_⟩
      dsimp only
      omega
    | some status =>
      rw [encoderBytesWithin_refused hseen h.set hrun]
      refine ⟨h.set, h.size, hcapacity.trans h.within, h.counted.trans hlow, ?_⟩
      dsimp only
      omega

lemma DecoderReached.advertised (h : DecoderReached capacity n e) : e.Advertised capacity n := by
  induction h with
  | @advertise e hunset hsize =>
    unfold http3EndpointSetDecoderCapacity
    rw [hunset, if_neg (by decide)]
    exact ⟨rfl, hsize, le_rfl, le_rfl, le_rfl⟩
  | again _ capacity' ih =>
    rw [http3EndpointSetDecoderCapacity_set ih.set]
    exact ih
  | bytes _ bytes ih => exact ih.bytes bytes
  | @requestHeaders n e _ streamId payload scratch ih =>
    obtain ⟨requests, honly⟩ := http3EndpointOnRequestHeaders_only e streamId payload scratch
    rw [honly]
    exact ih.congr rfl rfl rfl
  | @responseHeaders n e _ streamId payload scratch ih =>
    obtain ⟨requests, honly⟩ := http3EndpointOnResponseHeaders_only e streamId payload scratch
    rw [honly]
    exact ih.congr rfl rfl rfl
  | other _ requests encoderSeen acked ih => exact ih.congr rfl rfl rfl

end Advertised

/-- A decoder that has advertised a capacity of 64. -/
def grantedDecoder : MessageEndpoint :=
  (http3EndpointSetDecoderCapacity { messageEndpointInit with peerQpackEncoderSeen := true } 64).1

lemma grantedDecoder_reached : DecoderReached 64 0 grantedDecoder :=
  .advertise rfl (by decide)

end WebTransport
