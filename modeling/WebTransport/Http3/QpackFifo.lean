import WebTransport.Http3.QpackArena

/-!
# The dynamic table over a run

Calls of the dynamic table from its beginning, with the entries that were inserted (RFC 9204,
section 3.2). The table is a queue of them, and an insertion answers as the queue lets it unless it
has to evict.
-/

namespace WebTransport

open Memory

/-! ## Runs -/

/-- What happens to a table. -/
inductive ArenaCall
  | insert (name value : View)
  | setCapacity (capacity : ℕ)

/-- A table after a call, and the entries that were inserted. -/
def arenaStep (p : ArenaTable × List DynamicEntry) : ArenaCall → ArenaTable × List DynamicEntry
  | .insert name value =>
    let result := arenaInsert p.1 name value
    let inserted := p.2 ++ [⟨name.read p.1.bytes, value.read p.1.bytes⟩]
    (result.1, if result.2 = .ok then inserted else p.2)
  | .setCapacity capacity => (arenaSetCapacity p.1 capacity, p.2)

def arenaRun (capacity : ℕ) (calls : List ArenaCall) : ArenaTable × List DynamicEntry :=
  calls.foldl arenaStep (arenaInit capacity, [])

/-! ## The queue -/

/-- Entries lie one behind the other between two offsets. -/
def Contiguous : ℕ → List EntryMeta → ℕ → Prop
  | start, [], stop => start = stop
  | start, m :: ms, stop =>
    m.offset = start ∧ Contiguous (start + (m.nameLength + m.valueLength)) ms stop

/-- The table is the queue of what was inserted into it. -/
structure Fifo (t : ArenaTable) (inserted : List DynamicEntry) : Prop where
  counted : t.insertCount = t.dropped + t.entries.length
  summed : t.size =
    (t.entries.map fun m => m.nameLength + m.valueLength + qpackDynamicEntryOverhead).sum
  bounded : t.size ≤ t.capacity
  contiguous : Contiguous 0 t.entries t.used
  within : t.used ≤ qpackDynamicMaxBytes
  live : ∀ i, t.dropped ≤ i → i < t.insertCount → ∃ e,
    inserted[i]? = some e ∧ arenaEntry t i = .ok (e.name, e.value)
  gone : ∀ i, i < t.dropped ∨ t.insertCount ≤ i → arenaEntry t i = .error .closed

/-- What an insertion counts against the capacity. -/
def needOf (name value : View) : ℕ := name.length + value.length + qpackDynamicEntryOverhead

/-- The entries that are left after the evictions that an insertion requires. -/
def leftFor (p : ArenaTable × List DynamicEntry) (name value : View) : List DynamicEntry :=
  evictOldest (p.1.capacity - needOf name value) (p.2.drop p.1.dropped)

/-- The arena has room for an insertion besides what is left. -/
def ArenaFits (p : ArenaTable × List DynamicEntry) (name value : View) : Prop :=
  ((leftFor p name value).map DynamicEntry.bytes).sum + (name.length + value.length) ≤
    qpackDynamicMaxBytes

/-- After the evictions it requires, an insertion fits the capacity, the slots and the arena. -/
def ViewsFit (p : ArenaTable × List DynamicEntry) (name value : View) : Prop :=
  needOf name value ≤ p.1.capacity ∧ (leftFor p name value).length < qpackDynamicMaxEntries ∧
    ArenaFits p name value

/-- An insertion that fits succeeds, and one that is refused changes nothing. -/
def InsertionRight (p : ArenaTable × List DynamicEntry) (name value : View) : Prop :=
  (ViewsFit p name value → (arenaInsert p.1 name value).2 = .ok) ∧
    ((arenaInsert p.1 name value).2 ≠ .ok → (arenaInsert p.1 name value).1 = p.1)

/-- Over a run the table is the queue of what was inserted, and every insertion answers as the queue
lets it. -/
structure BoundedFifo (capacity : ℕ) (calls : List ArenaCall) : Prop where
  fifo : ∀ {before : List ArenaCall}, before <+: calls →
    Fifo (arenaRun capacity before).1 (arenaRun capacity before).2
  insertions : ∀ {before : List ArenaCall} {name value : View},
    before ++ [.insert name value] <+: calls → InsertionRight (arenaRun capacity before) name value

/-- An insertion that has to evict, and is within the capacity and the arena, finds a slot free
exactly when the arena has room after the evictions. -/
def RegularInsertion (p : ArenaTable × List DynamicEntry) (name value : View) : Prop :=
  needOf name value ≤ p.1.capacity → name.length + value.length ≤ qpackDynamicMaxBytes →
    p.1.capacity < p.1.size + needOf name value →
      (p.1.entries.length < qpackDynamicMaxEntries ↔ ArenaFits p name value)

/-! ## What every call keeps -/

/-- The table stands for the newest of the entries that were inserted. -/
def QueueOf (p : ArenaTable × List DynamicEntry) : Prop :=
  ∃ a : DynamicTable, Represents p.1 a ∧ a.entries = p.2.drop a.dropped ∧
    a.insertCount = p.2.length ∧ (a.entries.map DynamicEntry.size).sum ≤ a.capacity ∧
    a.entries.length ≤ qpackDynamicMaxEntries

section Queue

variable {p : ArenaTable × List DynamicEntry} {a : DynamicTable} {name value : View}
  {inserted : List DynamicEntry} {limit : ℕ}

lemma queueOf_init (capacity : ℕ) : QueueOf (arenaInit capacity, []) :=
  ⟨qpackDynamicInit capacity, represents_init capacity, rfl, rfl, Nat.zero_le _, Nat.zero_le _⟩

lemma QueueOf.insert (h : QueueOf p) (name value : View) :
    QueueOf (arenaStep p (.insert name value)) := by
  obtain ⟨a, hrepresents, hnewest, hcount, hsize, hlength⟩ := h
  obtain ⟨hstatus, hinsert⟩ := hrepresents.insert name value
  set e : DynamicEntry := ⟨name.read p.1.bytes, value.read p.1.bytes⟩ with he
  have hnew := NewestOf.insert ⟨hnewest, hcount, hsize⟩ e
  rw [arenaStep, hstatus]
  refine ⟨_, hinsert, hnew.newest, hnew.counted, hnew.bounded, ?_⟩
  have hroom : (evictOldest (a.capacity - e.size) a.entries).length ≤ a.entries.length :=
    length_evictOldest _ _
  rcases qpackDynamicInsert_cases a e with heq | ⟨-, hslot, heq | heq⟩
  · rw [heq]
    exact hlength
  · rw [heq]
    exact hroom.trans hlength
  · rw [heq]
    dsimp only
    rw [List.length_append, List.length_singleton]
    exact (Nat.succ_le_succ hroom).trans hslot

lemma QueueOf.setCapacity (h : QueueOf p) (capacity : ℕ) :
    QueueOf (arenaStep p (.setCapacity capacity)) := by
  obtain ⟨a, hrepresents, hnewest, hcount, hsize, hlength⟩ := h
  have hset := NewestOf.setCapacity ⟨hnewest, hcount, hsize⟩ capacity
  exact ⟨_, hrepresents.setCapacity capacity, hset.newest, hset.counted, hset.bounded,
    (length_evictOldest _ _).trans hlength⟩

/-- In every run the table stands for the newest entries that were inserted. -/
lemma queueOf_run (capacity : ℕ) (calls : List ArenaCall) : QueueOf (arenaRun capacity calls) := by
  rw [arenaRun]
  induction calls using List.reverseRecOn with
  | nil => exact queueOf_init capacity
  | append_singleton calls call ih =>
    rw [List.foldl_append]
    cases call with
    | insert name value => exact ih.insert name value
    | setCapacity capacity => exact ih.setCapacity capacity

/-! ## What the entries read -/

lemma contiguous_metasFrom (start index : ℕ) (es : List DynamicEntry) :
    Contiguous start (metasFrom start index es) (start + (es.map DynamicEntry.bytes).sum) := by
  induction es generalizing start index with
  | nil => rfl
  | cons e es ih =>
    rw [List.map_cons, List.sum_cons, ← Nat.add_assoc]
    exact ⟨rfl, ih (start + e.bytes) (index + 1)⟩

lemma sum_metasFrom (start index : ℕ) (es : List DynamicEntry) :
    ((metasFrom start index es).map fun m =>
      m.nameLength + m.valueLength + qpackDynamicEntryOverhead).sum =
        (es.map DynamicEntry.size).sum := by
  induction es generalizing start index with
  | nil => rfl
  | cons e es ih =>
    rw [metasFrom, List.map_cons, List.map_cons, List.sum_cons, List.sum_cons, ih]
    rfl

lemma metasFrom_between {es before after : List DynamicEntry} {e : DynamicEntry}
    (h : es = before ++ e :: after) (start index : ℕ) :
    (metasFrom start index es)[before.length]? = some ⟨index + before.length,
      start + (before.map DynamicEntry.bytes).sum, e.name.length, e.value.length⟩ := by
  induction before generalizing es start index with
  | nil =>
    rw [h]
    rfl
  | cons e' before ih =>
    rw [h, List.cons_append, metasFrom, List.length_cons, List.getElem?_cons_succ, ih rfl,
      List.map_cons, List.sum_cons]
    simp only [Nat.add_assoc, Nat.add_comm 1]

/-- A live index reads the entry that was inserted with it. -/
lemma Represents.entry {t : ArenaTable} (h : Represents t a) {k : ℕ} {e : DynamicEntry}
    (he : a.entries[k]? = some e) : arenaEntry t (a.dropped + k) = .ok (e.name, e.value) := by
  obtain ⟨hk, hget⟩ := List.getElem?_eq_some_iff.mp he
  have hsplit : a.entries = a.entries.take k ++ e :: a.entries.drop (k + 1) := by
    rw [← hget, List.getElem_cons_drop, List.take_append_drop]
  have hlength : (a.entries.take k).length = k := List.length_take_of_le hk.le
  have hmeta := metasFrom_between hsplit 0 a.dropped
  rw [hlength, ← h.entries, Nat.zero_add] at hmeta
  have hcount := h.insertCount
  have hdropped := h.dropped
  rw [DynamicTable.insertCount] at hcount
  have hbytes : t.bytes.take t.used = entryBytes (a.entries.take k) ++
      (e.name ++ (e.value ++ entryBytes (a.entries.drop (k + 1)))) := by
    rw [h.bytes]
    conv_lhs => rw [hsplit, entryBytes, List.flatMap_append, List.flatMap_cons, List.append_assoc]
    rfl
  have hname := slice_of_take hbytes
  have hvalue := slice_of_take (hbytes.trans (List.append_assoc ..).symm)
  rw [List.length_append, length_entryBytes] at hvalue
  rw [length_entryBytes] at hname
  rw [arenaEntry, if_neg (by omega), hdropped, Nat.add_sub_cancel_left, hmeta]
  dsimp only
  rw [hname, hvalue]

/-- A table that stands for the newest entries is the queue of them. -/
lemma QueueOf.fifo (h : QueueOf p) : Fifo p.1 p.2 := by
  obtain ⟨a, hrepresents, hnewest, hcount, hsize, hlength⟩ := h
  have hlive : p.1.entries.length = a.entries.length := by
    rw [hrepresents.entries, length_metasFrom]
  refine ⟨?_, ?_, ?_, ?_, hrepresents.fits, ?_, ?_⟩
  · rw [hrepresents.insertCount, hrepresents.dropped, hlive, DynamicTable.insertCount]
  · rw [hrepresents.size, hrepresents.entries, sum_metasFrom]
  · rw [hrepresents.size, hrepresents.capacity]
    exact hsize
  · have hcontiguous := contiguous_metasFrom 0 a.dropped a.entries
    rw [Nat.zero_add] at hcontiguous
    rw [hrepresents.entries, hrepresents.used]
    exact hcontiguous
  · intro i hfrom hto
    rw [hrepresents.dropped] at hfrom
    rw [hrepresents.insertCount, DynamicTable.insertCount] at hto
    obtain ⟨k, rfl⟩ := Nat.exists_eq_add_of_le hfrom
    have hk : k < a.entries.length := by omega
    have hget : a.entries[k]? = some a.entries[k] := List.getElem?_eq_getElem hk
    refine ⟨a.entries[k], ?_, hrepresents.entry hget⟩
    rw [← hget, hnewest, List.getElem?_drop]
  · intro i hgone
    rw [arenaEntry, if_pos hgone]

/-! ## Insertions -/

variable {t : ArenaTable}

/-- What is refused before anything moves. -/
lemma arenaInsert_refused (h : qpackDynamicMaxBytes < name.length + value.length ∨
    t.capacity < needOf name value ∨ qpackDynamicMaxEntries ≤ t.entries.length) :
    arenaInsert t name value = (t, .limit) := by
  unfold arenaInsert
  dsimp only
  split_ifs with hlong hlarge hmany harena
  · rfl
  · rfl
  · rfl
  · rfl
  all_goals exact absurd h (by unfold needOf; omega)

/-- What is not refused before is stored when the arena has room after the evictions. -/
lemma arenaInsert_room (hbytes : name.length + value.length ≤ qpackDynamicMaxBytes)
    (hneed : needOf name value ≤ t.capacity) (hslot : t.entries.length < qpackDynamicMaxEntries) :
    ((arenaInsert t name value).2 = .ok ↔
        (evictFor (needOf name value) t.entries.length t).used + (name.length + value.length) ≤
          qpackDynamicMaxBytes) ∧
      ((arenaInsert t name value).2 ≠ .ok →
        (arenaInsert t name value).1 = evictFor (needOf name value) t.entries.length t) := by
  have hlong : ¬(name.length > 0xffff ∨ value.length > 0xffff) := by
    unfold qpackDynamicMaxBytes at hbytes
    omega
  unfold needOf at hneed ⊢
  unfold arenaInsert
  rw [if_neg hlong, if_neg (not_lt.mpr hneed), if_neg (not_le.mpr hslot),
    if_neg (not_lt.mpr hbytes), ← Nat.add_assoc]
  dsimp only
  by_cases hfull : (evictFor (name.length + value.length + qpackDynamicEntryOverhead)
      t.entries.length t).used + name.length + value.length > qpackDynamicMaxBytes
  · rw [if_pos hfull]
    exact ⟨⟨nofun, fun hle => absurd hle (not_le.mpr hfull)⟩, fun _ => rfl⟩
  · rw [if_neg hfull]
    exact ⟨⟨fun _ => not_lt.mp hfull, fun _ => rfl⟩, fun hne => absurd rfl hne⟩

/-- Nothing is evicted for what fits beside the entries. -/
lemma evictFor_of_le {extra : ℕ} (fuel : ℕ) (h : t.size + extra ≤ t.capacity) :
    evictFor extra fuel t = t := by
  cases fuel with
  | zero => rfl
  | succ fuel =>
    rw [evictFor, if_neg]
    exact fun hcond => absurd hcond.2 (not_lt.mpr h)

/-- An insertion answers as the queue lets it exactly when it is regular: the evictions come after
the look for a slot and before the look at the arena. -/
lemma QueueOf.insertionRight_iff (h : QueueOf p) :
    InsertionRight p name value ↔ RegularInsertion p name value := by
  obtain ⟨a, hrepresents, hnewest, hcount, hsize, hlength⟩ := h
  have hlive : p.1.entries.length = a.entries.length := by
    rw [hrepresents.entries, length_metasFrom]
  have hleft : leftFor p name value = evictOldest (p.1.capacity - needOf name value) a.entries := by
    rw [leftFor, hrepresents.dropped, hnewest]
  have hshorter : (leftFor p name value).length ≤ a.entries.length := by
    rw [hleft]
    exact length_evictOldest _ _
  by_cases hbytes : name.length + value.length ≤ qpackDynamicMaxBytes
  case neg =>
    -- It is too large for the arena.
    rw [InsertionRight, arenaInsert_refused (.inl (not_le.mp hbytes))]
    refine ⟨fun _ _ hle => absurd hle hbytes, fun _ => ⟨fun hfits => ?_, fun _ => rfl⟩⟩
    exact absurd ((Nat.le_add_left _ _).trans hfits.2.2) hbytes
  by_cases hneed : needOf name value ≤ p.1.capacity
  case neg =>
    rw [InsertionRight, arenaInsert_refused (.inr (.inl (not_le.mp hneed)))]
    exact ⟨fun _ hle => absurd hle hneed,
      fun _ => ⟨fun hfits => absurd hfits.1 hneed, fun _ => rfl⟩⟩
  have hregular : RegularInsertion p name value ↔ (p.1.capacity < p.1.size + needOf name value →
      (p.1.entries.length < qpackDynamicMaxEntries ↔ ArenaFits p name value)) :=
    ⟨fun hall => hall hneed hbytes, fun hall _ _ => hall⟩
  rw [hregular]
  have hlimit : p.1.capacity < p.1.size + needOf name value →
      p.1.capacity - needOf name value < (a.entries.map DynamicEntry.size).sum := by
    rw [hrepresents.size]
    omega
  by_cases hslot : p.1.entries.length < qpackDynamicMaxEntries
  case neg =>
    -- An eviction would free a slot, but there is none.
    rw [InsertionRight, arenaInsert_refused (.inr (.inr (not_lt.mp hslot)))]
    constructor
    · rintro ⟨hstatus, -⟩ hover
      have hfewer := length_evictOldest_lt (hlimit hover)
      rw [← hleft] at hfewer
      exact ⟨fun hlt => absurd hlt hslot, fun harena =>
        nomatch hstatus ⟨hneed, hfewer.trans_le hlength, harena⟩⟩
    · intro hall
      refine ⟨fun hfits => ?_, fun _ => rfl⟩
      by_cases hover : p.1.capacity < p.1.size + needOf name value
      · exact absurd ((hall hover).mpr hfits.2.2) hslot
      · have hwhole : leftFor p name value = a.entries := by
          rw [hleft]
          exact evictOldest_of_le (by rw [← hrepresents.size]; omega)
        have hfew := hfits.2.1
        rw [hwhole, ← hlive] at hfew
        exact absurd hfew hslot
  obtain ⟨hok, hrefused⟩ := arenaInsert_room hbytes hneed hslot
  have hneed' : needOf name value ≤ a.capacity := hrepresents.capacity ▸ hneed
  have hroom := hrepresents.evictFor hneed' hlive.ge
  have harena : (arenaInsert p.1 name value).2 = .ok ↔ ArenaFits p name value := by
    rw [hok, hroom.used, ArenaFits, hleft, hrepresents.capacity]
    rfl
  constructor
  · rintro ⟨-, hsame⟩ hover
    refine ⟨fun _ => ?_, fun _ => hslot⟩
    by_contra hno
    -- The table that is refused has lost entries.
    have hne : (arenaInsert p.1 name value).2 ≠ .ok := fun hstatus => hno (harena.mp hstatus)
    have hfewer := length_evictOldest_lt (hlimit hover)
    have hdropped := hroom.dropped
    rw [← hrefused hne, hsame hne, hrepresents.dropped, DynamicTable.makeRoom,
      ← hrepresents.capacity] at hdropped
    dsimp only at hdropped
    omega
  · intro hall
    refine ⟨fun hfits => harena.mpr hfits.2.2, fun hne => ?_⟩
    rw [hrefused hne]
    apply evictFor_of_le
    exact not_lt.mp fun hover => hne (harena.mpr ((hall hover).mp hslot))

/-- **The dynamic table is a bounded queue of its insertions.** Over every run its counts and ranges
are those of the entries it was given, the newest of which it reads back; and its insertions answer
as the queue lets them exactly when each that has to evict finds a slot free if and only if the
arena has room after the evictions. -/
theorem boundedFifo_iff (capacity : ℕ) (calls : List ArenaCall) :
    BoundedFifo capacity calls ↔ ∀ (before : List ArenaCall) (name value : View),
      before ++ [.insert name value] <+: calls →
        RegularInsertion (arenaRun capacity before) name value := by
  constructor
  · intro h before name value hbefore
    exact (queueOf_run capacity before).insertionRight_iff.mp (h.insertions hbefore)
  · intro h
    refine ⟨fun {before} _ => (queueOf_run capacity before).fifo, fun {before} _ _ hbefore => ?_⟩
    exact (queueOf_run capacity before).insertionRight_iff.mpr (h _ _ _ hbefore)

end Queue

/-! ### A table with no slot free -/

/-- An entry with a name of one byte. -/
def plainInsert : ArenaCall := .insert (.outside [0x61]) (.outside [])

/-- As long as there are slots, the entries are stored one behind the other. -/
lemma arenaRun_plain {n : ℕ} (h : n ≤ 32) :
    (arenaRun 1056 (List.replicate n plainInsert)).1.entries.length = n ∧
      (arenaRun 1056 (List.replicate n plainInsert)).1.size = 33 * n ∧
      (arenaRun 1056 (List.replicate n plainInsert)).1.used = n ∧
      (arenaRun 1056 (List.replicate n plainInsert)).1.capacity = 1056 ∧
      (arenaRun 1056 (List.replicate n plainInsert)).1.dropped = 0 ∧
      (arenaRun 1056 (List.replicate n plainInsert)).2 = List.replicate n ⟨[0x61], []⟩ := by
  induction n with
  | zero => exact ⟨rfl, rfl, rfl, rfl, rfl, rfl⟩
  | succ n ih =>
    obtain ⟨hentries, hsize, hused, hcapacity, hdropped, hinserted⟩ := ih (Nat.le_of_succ_le h)
    rw [List.replicate_succ', arenaRun, List.foldl_append, ← arenaRun]
    set p := arenaRun 1056 (List.replicate n plainInsert) with hp
    have hroom : p.1.size + 33 ≤ p.1.capacity := by omega
    have hinsert : arenaInsert p.1 (.outside [0x61]) (.outside []) =
        (appendEntry p.1 (.outside [0x61]) (.outside []), .ok) := by
      have hlarge : ¬(View.outside [0x61]).length + (View.outside []).length +
          qpackDynamicEntryOverhead > p.1.capacity := by
        rw [hcapacity]
        decide
      have hslot : ¬p.1.entries.length ≥ qpackDynamicMaxEntries := by
        rw [hentries]
        exact not_le.mpr h
      have harena : ¬p.1.used + (View.outside [0x61]).length + (View.outside []).length >
          qpackDynamicMaxBytes := by
        change ¬p.1.used + 1 + 0 > 4096
        omega
      have hevict : evictFor ((View.outside [0x61]).length + (View.outside []).length +
          qpackDynamicEntryOverhead) p.1.entries.length p.1 = p.1 :=
        evictFor_of_le p.1.entries.length hroom
      rw [arenaInsert, if_neg (by decide), if_neg hlarge, if_neg hslot, if_neg (by decide), hevict,
        if_neg harena]
      rfl
    have hstep : [plainInsert].foldl arenaStep p =
        (appendEntry p.1 (.outside [0x61]) (.outside []), p.2 ++ [⟨[0x61], []⟩]) := by
      rw [List.foldl_cons, List.foldl_nil, plainInsert, arenaStep, hinsert]
      rfl
    rw [hstep, hinserted, ← List.replicate_succ']
    refine ⟨?_, ?_, ?_, hcapacity, hdropped, rfl⟩
    · rw [← hentries]
      exact List.length_append
    · exact congrArg (· + 33) hsize
    · exact congrArg (· + 1) hused

/-- A table with all slots in use refuses an entry, though the eviction it requires would free a
slot. -/
theorem fullTable_refuses : ¬BoundedFifo 1056 (List.replicate 33 plainInsert) := by
  intro h
  obtain ⟨hentries, -, -, hcapacity, hdropped, hinserted⟩ := arenaRun_plain (le_refl 32)
  have hstart : List.replicate 32 plainInsert ++ [plainInsert] <+:
      List.replicate 33 plainInsert := List.prefix_rfl
  have hright := h.insertions hstart
  have hfits : ViewsFit (arenaRun 1056 (List.replicate 32 plainInsert)) (.outside [0x61])
      (.outside []) := by
    unfold ViewsFit ArenaFits leftFor
    rw [hcapacity, hdropped, hinserted]
    decide
  have hok := hright.1 hfits
  rw [arenaInsert_refused (.inr (.inr hentries.ge))] at hok
  cases hok

end WebTransport
