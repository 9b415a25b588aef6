import WebTransport.Lib.Memory
import WebTransport.Http3.QpackTables

/-!
# The arena of the dynamic table

The dynamic table as it lies in memory (`http3/qpack_dynamic.c`): the bytes of the live entries at
the front of a fixed arena, and for each entry where its bytes are. An eviction moves the bytes that
are left down and every offset with them, while the strings of an insertion may be views into the
same arena.
-/

namespace WebTransport

open Memory

/-! ## Views -/

/-- A string that a caller names: bytes of its own, or a part of the table's arena. -/
inductive View
  | outside (bytes : List UInt8)
  | inside (offset length : ℕ) (fits : offset + length ≤ qpackDynamicMaxBytes)

def View.length : View → ℕ
  | .outside bytes => bytes.length
  | .inside _ length _ => length

/-- The bytes of a view, with the arena as it is when they are read. -/
def View.read (arena : List UInt8) : View → List UInt8
  | .outside bytes => bytes
  | .inside offset length _ => slice arena offset length

/-- Whether a view points into the arena (`aliases_arena`). -/
def View.aliasesArena : View → Bool
  | .outside _ => false
  | .inside _ length _ => length ≠ 0

/-! ## The table -/

/-- Where an entry lies (`wt_qpack_dynamic_entry_meta_t`). -/
structure EntryMeta where
  absoluteIndex : ℕ
  offset : ℕ
  nameLength : ℕ
  valueLength : ℕ
deriving DecidableEq, Repr

/-- The table in memory (`wt_qpack_dynamic_table_t`); the source's `count` is the number of the
entries. -/
structure ArenaTable where
  entries : List EntryMeta
  bytes : List UInt8
  used : ℕ
  size : ℕ
  capacity : ℕ
  insertCount : ℕ
  dropped : ℕ
deriving DecidableEq

def arenaInit (capacity : ℕ) : ArenaTable where
  entries     := []
  bytes       := List.replicate qpackDynamicMaxBytes 0
  used        := 0
  size        := 0
  capacity    := capacity
  insertCount := 0
  dropped     := 0

/-- Evict the oldest entry. -/
def ArenaTable.dropOldest (t : ArenaTable) : ArenaTable :=
  match t.entries with
  | [] => t
  | oldest :: entries =>
    let gone := oldest.nameLength + oldest.valueLength
    { t with
      size := t.size - (gone + qpackDynamicEntryOverhead)
      bytes := moveDown t.bytes gone t.used
      used := t.used - gone
      -- The offsets move with the bytes.
      entries := entries.map fun m => { m with offset := m.offset - gone }
      dropped := t.dropped + 1 }

/-- Evict while the table and `extra` more are above the capacity. Every turn takes an entry, so
their number is fuel enough. -/
def evictFor (extra : ℕ) : ℕ → ArenaTable → ArenaTable
  | 0, t => t
  | fuel + 1, t =>
    if t.entries.length ≠ 0 ∧ t.size + extra > t.capacity then evictFor extra fuel t.dropOldest
    else t

def arenaSetCapacity (t : ArenaTable) (capacity : ℕ) : ArenaTable :=
  evictFor 0 t.entries.length { t with capacity }

/-- Write an entry behind the others. -/
def appendEntry (t : ArenaTable) (name value : View) : ArenaTable :=
  let named := copyTo t.bytes t.used (name.read t.bytes)
  let bytes := copyTo named (t.used + name.length) (value.read named)
  { t with
    bytes := bytes
    entries := t.entries ++ [⟨t.insertCount, t.used, name.length, value.length⟩]
    used := t.used + (name.length + value.length)
    size := t.size + (name.length + value.length + qpackDynamicEntryOverhead)
    insertCount := t.insertCount + 1 }

def arenaInsert (t : ArenaTable) (name value : View) : ArenaTable × Status :=
  let entrySize := name.length + value.length + qpackDynamicEntryOverhead
  if name.length > 0xffff ∨ value.length > 0xffff then (t, .limit)
  else if entrySize > t.capacity then (t, .limit)
  else if t.entries.length ≥ qpackDynamicMaxEntries then (t, .limit)
  else if name.length + value.length > qpackDynamicMaxBytes then (t, .limit)
  else
    -- A view into the arena is staged before anything moves.
    let staged := name.aliasesArena || value.aliasesArena
    let stagedName := if staged then .outside (name.read t.bytes) else name
    let stagedValue := if staged then .outside (value.read t.bytes) else value
    let t := evictFor entrySize t.entries.length t
    if t.used + name.length + value.length > qpackDynamicMaxBytes then (t, .limit)
    else (appendEntry t stagedName stagedValue, .ok)

/-- The name and the value at an absolute index. -/
def arenaEntry (t : ArenaTable) (absoluteIndex : ℕ) : Except Status (List UInt8 × List UInt8) :=
  if absoluteIndex < t.dropped ∨ absoluteIndex ≥ t.insertCount then .error .closed
  else
    match t.entries[absoluteIndex - t.dropped]? with
    | none => .error .closed
    | some m =>
      .ok (slice t.bytes m.offset m.nameLength,
        slice t.bytes (m.offset + m.nameLength) m.valueLength)

/-! ## What the arena stands for -/

/-- The bytes of some entries, one behind the other. -/
def entryBytes (es : List DynamicEntry) : List UInt8 := es.flatMap fun e => e.name ++ e.value

/-- Where entries lie that begin at an offset with an index. -/
def metasFrom (offset index : ℕ) : List DynamicEntry → List EntryMeta
  | [] => []
  | e :: es =>
    ⟨index, offset, e.name.length, e.value.length⟩ :: metasFrom (offset + e.bytes) (index + 1) es

/-- The arena holds the entries of a table: their bytes lie contiguous at its front, and everything
that is counted is counted of them. -/
structure Represents (t : ArenaTable) (a : DynamicTable) : Prop where
  capacity : t.capacity = a.capacity
  dropped : t.dropped = a.dropped
  insertCount : t.insertCount = a.insertCount
  used : t.used = a.used
  size : t.size = (a.entries.map DynamicEntry.size).sum
  entries : t.entries = metasFrom 0 a.dropped a.entries
  arena : t.bytes.length = qpackDynamicMaxBytes
  bytes : t.bytes.take t.used = entryBytes a.entries
  fits : t.used ≤ qpackDynamicMaxBytes

section Represents

variable {t : ArenaTable} {a : DynamicTable} {e : DynamicEntry} {es : List DynamicEntry}
  {offset index : ℕ} {bytes data : List UInt8}

lemma length_entryBytes (es : List DynamicEntry) :
    (entryBytes es).length = (es.map DynamicEntry.bytes).sum := by
  induction es with
  | nil => rfl
  | cons e es ih =>
    rw [entryBytes, List.flatMap_cons, List.length_append, List.length_append, List.map_cons,
      List.sum_cons, ← ih]
    rfl

@[simp] lemma length_metasFrom (offset index : ℕ) (es : List DynamicEntry) :
    (metasFrom offset index es).length = es.length := by
  induction es generalizing offset index with
  | nil => rfl
  | cons e es ih => rw [metasFrom, List.length_cons, List.length_cons, ih]

lemma metasFrom_append (es : List DynamicEntry) (e : DynamicEntry) :
    metasFrom offset index (es ++ [e]) = metasFrom offset index es ++
      [⟨index + es.length, offset + (es.map DynamicEntry.bytes).sum, e.name.length,
        e.value.length⟩] := by
  induction es generalizing offset index with
  | nil => rfl
  | cons e' es ih =>
    rw [List.cons_append, metasFrom, metasFrom, ih, List.cons_append, List.length_cons,
      List.map_cons, List.sum_cons]
    simp only [Nat.add_assoc, Nat.add_comm 1]

/-- Offsets that move down by what was in front of them. -/
lemma metasFrom_moved (offset index gone : ℕ) (es : List DynamicEntry) :
    (metasFrom (offset + gone) index es).map (fun m => { m with offset := m.offset - gone }) =
      metasFrom offset index es := by
  induction es generalizing offset index with
  | nil => rfl
  | cons e es ih =>
    rw [metasFrom, metasFrom, List.map_cons, Nat.add_right_comm offset gone, ih]
    simp only [Nat.add_sub_cancel]

lemma represents_init (capacity : ℕ) :
    Represents (arenaInit capacity) (qpackDynamicInit capacity) := by
  refine ⟨rfl, rfl, rfl, rfl, rfl, rfl, List.length_replicate, rfl, Nat.zero_le _⟩

/-- An eviction moves the bytes that are left to the front, and their offsets with them. -/
lemma Represents.dropOldest {capacity dropped : ℕ} (h : Represents t ⟨capacity, e :: es, dropped⟩) :
    Represents t.dropOldest ⟨capacity, es, dropped + 1⟩ := by
  have hused : t.used = e.bytes + (es.map DynamicEntry.bytes).sum := by
    rw [h.used, DynamicTable.used, List.map_cons, List.sum_cons]
  have hsize : t.size = e.size + (es.map DynamicEntry.size).sum := by
    rw [h.size, List.map_cons, List.sum_cons]
  have harena := h.arena
  have hfits := h.fits
  have hcount := h.insertCount
  have hentries := h.entries
  rw [metasFrom, Nat.zero_add] at hentries
  have hdrop : t.dropOldest =
      { t with
        size := t.size - e.size
        bytes := moveDown t.bytes e.bytes t.used
        used := t.used - e.bytes
        entries := (metasFrom e.bytes (dropped + 1) es).map fun m =>
          { m with offset := m.offset - e.bytes }
        dropped := t.dropped + 1 } := by
    rw [ArenaTable.dropOldest, hentries]
    rfl
  rw [hdrop]
  refine ⟨h.capacity, congrArg (· + 1) h.dropped, ?_, ?_, ?_, ?_, ?_, ?_, ?_⟩
  · rw [hcount, DynamicTable.insertCount, DynamicTable.insertCount, List.length_cons]
    dsimp only
    omega
  · dsimp only [DynamicTable.used]
    omega
  · dsimp only
    omega
  · have hmoved := metasFrom_moved 0 (dropped + 1) e.bytes es
    rw [Nat.zero_add] at hmoved
    exact hmoved
  · dsimp only
    rw [length_moveDown (by omega) (by omega)]
    exact harena
  · dsimp only
    rw [take_moveDown (by omega), h.bytes, entryBytes, List.flatMap_cons]
    exact List.drop_left' (List.length_append ..)
  · dsimp only
    omega

/-- Evictions go on until what is left and `extra` more are within the capacity. -/
lemma Represents.evictFor {extra fuel : ℕ} (h : Represents t a) (hextra : extra ≤ a.capacity)
    (hfuel : a.entries.length ≤ fuel) :
    Represents (evictFor extra fuel t) (a.makeRoom (a.capacity - extra)) := by
  obtain ⟨capacity, es, dropped⟩ := a
  induction fuel generalizing t es dropped with
  | zero =>
    obtain rfl := List.eq_nil_of_length_eq_zero (Nat.le_zero.mp hfuel)
    exact h
  | succ fuel ih =>
    have hlength : t.entries.length = es.length := by
      rw [h.entries, length_metasFrom]
    have hsize := h.size
    have hcapacity := h.capacity
    dsimp only at hextra hfuel hsize hcapacity
    rw [WebTransport.evictFor, DynamicTable.makeRoom]
    cases es with
    | nil =>
      rw [if_neg fun hcond => hcond.1 hlength]
      exact h
    | cons e es =>
      dsimp only
      rw [evictOldest]
      by_cases hover : ((e :: es).map DynamicEntry.size).sum > capacity - extra
      · have hcond : t.entries.length ≠ 0 ∧ t.size + extra > t.capacity := by
          rw [hlength, List.length_cons]
          omega
        have hfuel' : es.length ≤ fuel := by
          rw [List.length_cons] at hfuel
          exact Nat.le_of_succ_le_succ hfuel
        have hnext := ih es (dropped + 1) h.dropOldest hextra hfuel'
        have hshorter := length_evictOldest (capacity - extra) es
        have hcount : dropped + 1 + (es.length - (evictOldest (capacity - extra) es).length) =
            dropped + ((e :: es).length - (evictOldest (capacity - extra) es).length) := by
          rw [List.length_cons]
          omega
        rw [if_pos hcond, if_pos hover, ← hcount]
        exact hnext
      · rw [if_neg (by omega), if_neg hover, Nat.sub_self]
        exact h

lemma Represents.setCapacity (h : Represents t a) (capacity : ℕ) :
    Represents (arenaSetCapacity t capacity) (qpackDynamicSetCapacity a capacity) := by
  have hset : Represents { t with capacity } { a with capacity } :=
    ⟨rfl, h.dropped, h.insertCount, h.used, h.size, h.entries, h.arena, h.bytes, h.fits⟩
  have hfuel : a.entries.length ≤ t.entries.length := by
    rw [h.entries, length_metasFrom]
  exact hset.evictFor (Nat.zero_le _) hfuel

/-! ### Insertions -/

/-- A string that is the same whatever the arena holds. -/
def View.Is (view : View) (data : List UInt8) : Prop :=
  view.length = data.length ∧ ∀ arena, view.read arena = data

lemma View.length_read (view : View) (h : bytes.length = qpackDynamicMaxBytes) :
    (view.read bytes).length = view.length := by
  cases view with
  | outside data => rfl
  | inside offset length fits =>
    rw [View.read, slice, View.length, List.length_take, List.length_drop]
    omega

/-- What does not point into the arena does not change with it. -/
lemma View.is_of_apart {view : View} (h : view.aliasesArena = false) (arena : List UInt8) :
    view.Is (view.read arena) := by
  cases view with
  | outside data => exact ⟨rfl, fun _ => rfl⟩
  | inside offset length fits =>
    obtain rfl : length = 0 := by simpa [View.aliasesArena] using h
    exact ⟨rfl, fun _ => rfl⟩

/-- A view is the same whatever moves, once it is staged where it has to be. -/
lemma View.is_staged {view : View} {staged : Bool} (h : view.aliasesArena = true → staged = true)
    (arena : List UInt8) :
    View.Is (if staged then .outside (view.read arena) else view) (view.read arena) := by
  cases hstaged : staged with
  | true => exact ⟨rfl, fun _ => rfl⟩
  | false =>
    rw [if_neg Bool.false_ne_true]
    refine View.is_of_apart (Bool.eq_false_of_not_eq_true fun haliases => ?_) arena
    rw [h haliases] at hstaged
    cases hstaged

lemma Represents.append {name value : View} (h : Represents t a) (hname : name.Is e.name)
    (hvalue : value.Is e.value) (hroom : t.used + e.bytes ≤ qpackDynamicMaxBytes) :
    Represents (appendEntry t name value) { a with entries := a.entries ++ [e] } := by
  obtain ⟨hnameLength, hnameRead⟩ := hname
  obtain ⟨hvalueLength, hvalueRead⟩ := hvalue
  have hbytes : e.bytes = e.name.length + e.value.length := rfl
  have harena := h.arena
  have hfirst : t.used + e.name.length ≤ t.bytes.length := by omega
  have hnamed := length_copyTo hfirst
  have hsecond : t.used + e.name.length + e.value.length ≤
      (copyTo t.bytes t.used e.name).length := by omega
  rw [appendEntry, hnameRead, hvalueRead, hnameLength, hvalueLength]
  refine ⟨h.capacity, h.dropped, ?_, ?_, ?_, ?_, ?_, ?_, ?_⟩
  · rw [DynamicTable.insertCount, List.length_append, List.length_singleton, ← Nat.add_assoc]
    exact congrArg (· + 1) h.insertCount
  · rw [DynamicTable.used, List.map_append, List.sum_append, List.map_singleton,
      List.sum_singleton]
    exact congrArg (· + e.bytes) h.used
  · rw [List.map_append, List.sum_append, List.map_singleton, List.sum_singleton]
    exact congrArg (· + e.size) h.size
  · dsimp only
    rw [metasFrom_append, Nat.zero_add, ← h.entries, h.insertCount, h.used]
    rfl
  · dsimp only
    rw [length_copyTo hsecond, hnamed]
    exact harena
  · dsimp only
    rw [← Nat.add_assoc, take_copyTo hsecond, take_copyTo hfirst, h.bytes, entryBytes, entryBytes,
      List.flatMap_append, List.flatMap_singleton, List.append_assoc]
  · dsimp only
    omega

/-- **The arena does what the table does.** An insertion answers alike, and what is in memory
afterwards stands for the table afterwards, though its strings be parts of the arena. -/
lemma Represents.insert (h : Represents t a) (name value : View) :
    (arenaInsert t name value).2 =
        (qpackDynamicInsert a ⟨name.read t.bytes, value.read t.bytes⟩).2 ∧
      Represents (arenaInsert t name value).1
        (qpackDynamicInsert a ⟨name.read t.bytes, value.read t.bytes⟩).1 := by
  have hname := name.length_read h.arena
  have hvalue := value.length_read h.arena
  have hlength : t.entries.length = a.entries.length := by
    rw [h.entries, length_metasFrom]
  unfold arenaInsert qpackDynamicInsert DynamicEntry.size DynamicEntry.bytes
  dsimp only
  rw [hname, hvalue, h.capacity, hlength]
  by_cases hlong : name.length > 0xffff ∨ value.length > 0xffff
  · rw [if_pos hlong, if_pos hlong]
    exact ⟨rfl, h⟩
  by_cases hlarge : name.length + value.length + qpackDynamicEntryOverhead > a.capacity
  · rw [if_neg hlong, if_neg hlong, if_pos hlarge, if_pos hlarge]
    exact ⟨rfl, h⟩
  by_cases hmany : a.entries.length ≥ qpackDynamicMaxEntries
  · rw [if_neg hlong, if_neg hlong, if_neg hlarge, if_neg hlarge, if_pos hmany, if_pos hmany]
    exact ⟨rfl, h⟩
  by_cases harena : name.length + value.length > qpackDynamicMaxBytes
  · rw [if_neg hlong, if_neg hlong, if_neg hlarge, if_neg hlarge, if_neg hmany, if_neg hmany,
      if_pos harena, if_pos harena]
    exact ⟨rfl, h⟩
  rw [if_neg hlong, if_neg hlong, if_neg hlarge, if_neg hlarge, if_neg hmany, if_neg hmany,
    if_neg harena, if_neg harena]
  have hroom := h.evictFor (Nat.le_of_not_gt hlarge) (le_refl a.entries.length)
  rw [← hroom.used, ← Nat.add_assoc]
  by_cases hfull : (WebTransport.evictFor
      (name.length + value.length + qpackDynamicEntryOverhead) a.entries.length t).used +
        name.length + value.length > qpackDynamicMaxBytes
  · rw [if_pos hfull, if_pos hfull]
    exact ⟨rfl, hroom⟩
  rw [if_neg hfull, if_neg hfull]
  have hstagedName : name.aliasesArena = true →
      (name.aliasesArena || value.aliasesArena) = true := fun h => by rw [h, Bool.true_or]
  have hstagedValue : value.aliasesArena = true →
      (name.aliasesArena || value.aliasesArena) = true := fun h => by rw [h, Bool.or_true]
  refine ⟨rfl, hroom.append (e := ⟨name.read t.bytes, value.read t.bytes⟩)
    (View.is_staged hstagedName t.bytes) (View.is_staged hstagedValue t.bytes) ?_⟩
  rw [DynamicEntry.bytes, hname, hvalue]
  omega

end Represents

end WebTransport
