import WebTransport.Lib.SlotTable
import WebTransport.Quic.Stream

/-!
# The table of streams

Where a stream is in the table, what writing one back changes, and what opening and closing
streams does to the numbers in the table.
-/

namespace WebTransport

variable {table : StreamTable} {streamId : ℕ} {stream : Stream} {i : ℕ}

lemma tableSlot_eq_some (h : tableSlot table streamId = some i) :
    i < quicStreamTableMax ∧ ∃ stream, table.slots i = some stream ∧ stream.id = streamId := by
  have hid := List.find?_some h
  refine ⟨List.mem_range.mp (List.mem_of_find?_eq_some h), ?_⟩
  cases hslot : table.slots i with
  | none => simp [hslot] at hid
  | some stream => exact ⟨stream, rfl, by simpa [hslot] using hid⟩

/-- A number without a slot is the number of no stream in the table. -/
lemma tableSlot_eq_none :
    tableSlot table streamId = none ↔
      ∀ i < quicStreamTableMax, ∀ stream, table.slots i = some stream → stream.id ≠ streamId := by
  unfold tableSlot
  rw [List.find?_eq_none]
  constructor
  · intro h i hi stream hslot hid
    exact h i (List.mem_range.mpr hi) (by simp [hslot, hid])
  · intro h i hi hany
    cases hslot : table.slots i with
    | none => simp [hslot] at hany
    | some stream => exact h i (List.mem_range.mp hi) stream hslot (by simpa [hslot] using hany)

/-- A stream that is found is in its slot and has the number. -/
lemma quicStreamTableFind_eq_some :
    quicStreamTableFind table streamId = some stream ↔
      ∃ i, tableSlot table streamId = some i ∧ table.slots i = some stream := by
  unfold quicStreamTableFind
  simp [Option.bind_eq_some_iff]

/-- A stream that is found has the number it was looked up with. -/
lemma id_of_find (h : quicStreamTableFind table streamId = some stream) : stream.id = streamId := by
  obtain ⟨i, hslot, hi⟩ := quicStreamTableFind_eq_some.mp h
  obtain ⟨-, stream', hi', hid⟩ := tableSlot_eq_some hslot
  rw [hi] at hi'
  cases hi'
  exact hid

lemma quicStreamTableFind_eq_none :
    quicStreamTableFind table streamId = none ↔ tableSlot table streamId = none := by
  unfold quicStreamTableFind
  cases h : tableSlot table streamId with
  | none => simp
  | some i =>
    obtain ⟨-, stream, hi, -⟩ := tableSlot_eq_some h
    simp [hi]

/-- Writing back the stream that is there changes nothing. -/
lemma StreamTable.setStream_of_find (h : quicStreamTableFind table streamId = some stream) :
    table.setStream stream = table := by
  have hid := id_of_find h
  obtain ⟨i, hslot, hi⟩ := quicStreamTableFind_eq_some.mp h
  unfold StreamTable.setStream
  rw [hid, hslot]
  simp only
  rw [← hi, Function.update_eq_self]

/-! ## The numbers in the table -/

/-- The streams in the table. -/
def StreamTable.streams (table : StreamTable) : List Stream :=
  SlotTable.entries quicStreamTableMax table.slots

/-- The numbers of the streams in the table. -/
def StreamTable.ids (table : StreamTable) : List ℕ := table.streams.map Stream.id

/-- The numbers are distinct, and the count is how many there are. -/
structure StreamTable.Orderly (table : StreamTable) : Prop where
  distinct : table.ids.Nodup
  count : table.count = table.ids.length

/-- A number is in the table exactly when it has a slot. -/
lemma StreamTable.mem_ids : streamId ∈ table.ids ↔ (tableSlot table streamId).isSome = true := by
  constructor
  · intro h
    obtain ⟨stream, hmem, hid⟩ := List.mem_map.mp h
    obtain ⟨i, hi, hslot⟩ := SlotTable.mem_entries.mp hmem
    rw [Option.isSome_iff_ne_none]
    intro hnone
    exact tableSlot_eq_none.mp hnone i hi stream hslot hid
  · intro h
    obtain ⟨i, hi⟩ := Option.isSome_iff_exists.mp h
    obtain ⟨hlt, stream, hslot, hid⟩ := tableSlot_eq_some hi
    exact List.mem_map.mpr ⟨stream, SlotTable.mem_entries.mpr ⟨i, hlt, hslot⟩, hid⟩

/-- A number that is not found is not in the table. -/
lemma StreamTable.not_mem_ids (h : quicStreamTableFind table streamId = none) :
    streamId ∉ table.ids := by
  rw [StreamTable.mem_ids, quicStreamTableFind_eq_none.mp h]
  exact Bool.false_ne_true

/-- Two tables that differ at most in the states of their streams. -/
structure StreamTable.SameIds (table table' : StreamTable) : Prop where
  slots : ∀ i < quicStreamTableMax, (table'.slots i).map Stream.id = (table.slots i).map Stream.id
  count : table'.count = table.count
  opened : table'.opened = table.opened

namespace StreamTable.SameIds

variable {table' table'' : StreamTable}

lemma refl (table : StreamTable) : table.SameIds table := ⟨fun _ _ => rfl, rfl, rfl⟩

lemma trans (h : table.SameIds table') (h' : table'.SameIds table'') : table.SameIds table'' :=
  ⟨fun i hi => (h'.slots i hi).trans (h.slots i hi), h'.count.trans h.count, h'.opened.trans h.opened⟩

lemma ids (h : table.SameIds table') : table'.ids = table.ids := by
  unfold StreamTable.ids StreamTable.streams
  rw [SlotTable.map_entries, SlotTable.map_entries]
  exact SlotTable.entries_congr h.slots

lemma orderly (h : table.SameIds table') (ht : table.Orderly) : table'.Orderly :=
  ⟨h.ids ▸ ht.distinct, by rw [h.count, h.ids]; exact ht.count⟩

lemma setStream (table : StreamTable) (stream : Stream) :
    table.SameIds (table.setStream stream) := by
  unfold StreamTable.setStream
  split
  · exact refl table
  · rename_i slot hslot
    obtain ⟨-, stream', hstream', hid⟩ := tableSlot_eq_some hslot
    refine ⟨fun i _ => ?_, rfl, rfl⟩
    by_cases hi : i = slot
    · subst hi
      simp [hstream', hid]
    · simp [Function.update_of_ne hi]

lemma tableSlot (h : table.SameIds table') (streamId : ℕ) :
    tableSlot table' streamId = tableSlot table streamId := by
  have hany : ∀ i < quicStreamTableMax, (table'.slots i).any (fun stream => stream.id = streamId) =
      (table.slots i).any fun stream => stream.id = streamId := by
    intro i hi
    have hslot := congrArg (fun id => id.any fun id => id = streamId) (h.slots i hi)
    simpa [Option.any_map] using hslot
  unfold WebTransport.tableSlot
  refine List.find?_congr fun i hi => ?_
  exact hany i (List.mem_range.mp hi)

end StreamTable.SameIds

lemma quicStreamTableFind_setStream {stream' : Stream}
    (h : quicStreamTableFind table streamId = some stream) (hid : stream'.id = streamId) :
    quicStreamTableFind (table.setStream stream') streamId = some stream' := by
  obtain ⟨i, hslot, -⟩ := quicStreamTableFind_eq_some.mp h
  refine quicStreamTableFind_eq_some.mpr ⟨i, ?_, ?_⟩
  · rw [(StreamTable.SameIds.setStream table stream').tableSlot]
    exact hslot
  · unfold StreamTable.setStream
    rw [hid, hslot]
    simp

/-- Writing one stream back leaves the others where they are. -/
lemma quicStreamTableFind_setStream_ne {stream' : Stream} (hne : streamId ≠ stream'.id) :
    quicStreamTableFind (table.setStream stream') streamId = quicStreamTableFind table streamId := by
  unfold quicStreamTableFind
  rw [(StreamTable.SameIds.setStream table stream').tableSlot]
  cases hslot : tableSlot table streamId with
  | none => rfl
  | some i =>
    obtain ⟨-, stream, hi, hid⟩ := tableSlot_eq_some hslot
    unfold StreamTable.setStream
    split
    · rfl
    · rename_i j hj
      obtain ⟨-, other, hother, hid'⟩ := tableSlot_eq_some hj
      have hij : i ≠ j := by
        rintro rfl
        rw [hi] at hother
        cases hother
        exact hne (hid.symm.trans hid')
      simp [Function.update_of_ne hij]

/-- A stream in a table without duplicates is found under its number. -/
lemma quicStreamTableFind_of_slot (ht : table.ids.Nodup) (hi : i < quicStreamTableMax)
    (h : table.slots i = some stream) : quicStreamTableFind table stream.id = some stream := by
  cases hslot : tableSlot table stream.id with
  | none => exact absurd rfl (tableSlot_eq_none.mp hslot i hi stream h)
  | some j =>
    obtain ⟨hj, other, hother, hid⟩ := tableSlot_eq_some hslot
    refine quicStreamTableFind_eq_some.mpr ⟨j, hslot, ?_⟩
    by_cases hij : i = j
    · subst hij
      exact h
    · -- Two slots with the same number: taking one out leaves the number in the list.
      have hperm : table.ids.Perm (stream.id :: (SlotTable.entries quicStreamTableMax
          (Function.update table.slots i none)).map Stream.id) :=
        (SlotTable.entries_empty hi h).map Stream.id
      have hnot := (List.nodup_cons.mp (hperm.nodup_iff.mp ht)).1
      refine absurd (List.mem_map.mpr ⟨other, ?_, hid⟩) hnot
      exact SlotTable.mem_entries.mpr ⟨j, hj, by rw [Function.update_of_ne (Ne.symm hij), hother]⟩

/-! ## Opening and closing -/

/-- Whether a table has, or can make, room for one more stream. -/
def StreamTable.HasRoom (table : StreamTable) : Prop :=
  (∃ i < quicStreamTableMax, table.slots i = none) ∨
    ∃ i < quicStreamTableMax, slotComplete table i = true

/-- The first free slot. -/
def freeStreamSlot (table : StreamTable) : Option ℕ :=
  (List.range quicStreamTableMax).find? fun i => (table.slots i).isNone

lemma freeStreamSlot_eq_some (h : freeStreamSlot table = some i) :
    i < quicStreamTableMax ∧ table.slots i = none :=
  ⟨List.mem_range.mp (List.mem_of_find?_eq_some h), by simpa using List.find?_some h⟩

lemma freeStreamSlot_eq_none :
    freeStreamSlot table = none ↔ ∀ i < quicStreamTableMax, table.slots i ≠ none := by
  unfold freeStreamSlot
  simp [List.find?_eq_none]

/-- The table a new stream is put into: complete streams are forgotten when no slot is free. -/
def sweptTable (table : StreamTable) : StreamTable :=
  if (freeStreamSlot table).isNone then reclaimComplete table else table

/-- The table with a new stream in a slot. -/
def StreamTable.openedAt (table : StreamTable) (slot streamId : ℕ) (initiatedByUs : Bool) :
    StreamTable :=
  ({ table with
      slots := Function.update table.slots slot
        (some (quicStreamInit streamId initiatedByUs (quicStreamIdIsBidirectional streamId) 0 0))
      count := table.count + 1 } : StreamTable).countOpened initiatedByUs
    (quicStreamIdIsBidirectional streamId)

lemma quicStreamTableOpen_eq (table : StreamTable) (streamId : ℕ) (initiatedByUs : Bool)
    (limit : ℕ) :
    quicStreamTableOpen table streamId initiatedByUs limit =
      if (tableSlot table streamId).isSome then (table, .state)
      else if limit ≤ table.opened initiatedByUs (quicStreamIdIsBidirectional streamId) then
        (table, .limit)
      else
        match freeStreamSlot (sweptTable table) with
        | none => (sweptTable table, .limit)
        | some slot => ((sweptTable table).openedAt slot streamId initiatedByUs, .ok) := rfl

lemma sweptTable_of_full (h : freeStreamSlot (sweptTable table) = none) :
    table.SameIds (sweptTable table) ∧ ¬table.HasRoom := by
  unfold sweptTable at h ⊢
  split
  · rename_i hfull
    rw [if_pos hfull] at h
    have hused := freeStreamSlot_eq_none.mp (Option.isNone_iff_eq_none.mp hfull)
    have hkept := freeStreamSlot_eq_none.mp h
    have hnone : ∀ i < quicStreamTableMax, slotComplete table i = false := by
      intro i hi
      have := hkept i hi
      by_contra hcomplete
      simp [reclaimComplete, hcomplete] at this
    have hfilter : (List.range quicStreamTableMax).filter (slotComplete table) = [] := by
      rw [List.filter_eq_nil_iff]
      intro i hi
      simp [hnone i (List.mem_range.mp hi)]
    refine ⟨⟨?_, ?_, rfl⟩, ?_⟩
    · intro i hi
      simp [reclaimComplete, hnone i hi]
    · simp [reclaimComplete, hfilter]
    · rintro (⟨i, hi, hfree⟩ | ⟨i, hi, hcomplete⟩)
      · exact hused i hi hfree
      · rw [hnone i hi] at hcomplete
        cases hcomplete
  · rename_i hfull
    rw [if_neg hfull] at h
    rw [h] at hfull
    exact absurd rfl hfull

/-- A slot that is free after the sweep was free or held a complete stream. -/
lemma StreamTable.hasRoom_of_swept (hi : i < quicStreamTableMax)
    (h : (sweptTable table).slots i = none) : table.HasRoom := by
  unfold sweptTable at h
  split at h
  · by_cases hcomplete : slotComplete table i = true
    · exact .inr ⟨i, hi, hcomplete⟩
    · exact .inl ⟨i, hi, by simpa [reclaimComplete, hcomplete] using h⟩
  · exact .inl ⟨i, hi, h⟩

lemma sweptTable_ids (table : StreamTable) :
    (sweptTable table).ids.Sublist table.ids ∧ (sweptTable table).opened = table.opened := by
  unfold sweptTable
  split
  · refine ⟨?_, rfl⟩
    unfold StreamTable.ids StreamTable.streams
    have hslots : (reclaimComplete table).slots = SlotTable.sweep (slotComplete table) table.slots :=
      rfl
    rw [hslots]
    exact (SlotTable.entries_sweep_sublist _).map _
  · exact ⟨List.Sublist.refl _, rfl⟩

lemma StreamTable.Orderly.swept (ht : table.Orderly) : (sweptTable table).Orderly := by
  refine ⟨(sweptTable_ids table).1.nodup ht.distinct, ?_⟩
  unfold sweptTable
  split
  · have hlen := SlotTable.length_entries_sweep (n := quicStreamTableMax) (f := table.slots)
      (p := slotComplete table) (by
        intro i hi
        cases hslot : table.slots i with
        | none => simp [slotComplete, hslot] at hi
        | some stream => rfl)
    have hcount := ht.count
    unfold StreamTable.ids StreamTable.streams at hcount ⊢
    rw [List.length_map] at hcount ⊢
    have hslots : (reclaimComplete table).slots = SlotTable.sweep (slotComplete table) table.slots :=
      rfl
    rw [hslots]
    show table.count - _ = _
    omega
  · exact ht.count

/-- The counter of a class after one more stream was opened. -/
lemma StreamTable.opened_countOpened (table : StreamTable) (ours bidi ours' bidi' : Bool) :
    (table.countOpened ours bidi).opened ours' bidi' =
      table.opened ours' bidi' + if ours = ours' ∧ bidi = bidi' then 1 else 0 := by
  cases ours <;> cases bidi <;> cases ours' <;> cases bidi' <;> rfl

lemma StreamTable.countOpened_slots (table : StreamTable) (ours bidi : Bool) :
    (table.countOpened ours bidi).slots = table.slots := by
  cases ours <;> cases bidi <;> rfl

lemma StreamTable.countOpened_count (table : StreamTable) (ours bidi : Bool) :
    (table.countOpened ours bidi).count = table.count := by
  cases ours <;> cases bidi <;> rfl

/-- What opening a stream comes to. -/
inductive OpenEnd (table : StreamTable) (streamId : ℕ) (ours : Bool) (limit : ℕ) :
    StreamTable × Status → Prop
  | refused {table' : StreamTable} {status : Status} (h : status ≠ .ok)
      (hsame : table.SameIds table')
      (hwhy : streamId ∈ table.ids ∨
        limit ≤ table.opened ours (quicStreamIdIsBidirectional streamId) ∨ ¬table.HasRoom) :
      OpenEnd table streamId ours limit (table', status)
  | opened {slot : ℕ} (hnew : streamId ∉ table.ids)
      (hlimit : table.opened ours (quicStreamIdIsBidirectional streamId) < limit)
      (hslot : slot < quicStreamTableMax) (hfree : (sweptTable table).slots slot = none) :
      OpenEnd table streamId ours limit ((sweptTable table).openedAt slot streamId ours, .ok)

/-- Opening a stream is refused and changes nothing, or puts it into a free slot. -/
theorem quicStreamTableOpen_end (table : StreamTable) (streamId : ℕ) (ours : Bool) (limit : ℕ) :
    OpenEnd table streamId ours limit (quicStreamTableOpen table streamId ours limit) := by
  rw [quicStreamTableOpen_eq]
  split
  · rename_i hknown
    exact .refused (by decide) (.refl _) (.inl (StreamTable.mem_ids.mpr hknown))
  rename_i hnew
  split
  · rename_i hlimit
    exact .refused (by decide) (.refl _) (.inr (.inl hlimit))
  rename_i hlimit
  split
  · rename_i hfull
    obtain ⟨hsame, hroom⟩ := sweptTable_of_full hfull
    exact .refused (by decide) hsame (.inr (.inr hroom))
  · rename_i slot hfree
    obtain ⟨hlt, hnone⟩ := freeStreamSlot_eq_some hfree
    refine .opened ?_ (not_le.mp hlimit) hlt hnone
    rw [StreamTable.mem_ids]
    exact hnew

/-- A new stream in a free slot is one more number. -/
lemma StreamTable.ids_openedAt {slot : ℕ} (hslot : slot < quicStreamTableMax)
    (hfree : table.slots slot = none) (streamId : ℕ) (ours : Bool) :
    (table.openedAt slot streamId ours).ids.Perm (streamId :: table.ids) := by
  unfold StreamTable.ids StreamTable.streams StreamTable.openedAt
  rw [StreamTable.countOpened_slots]
  exact (SlotTable.entries_fill hslot hfree).map Stream.id

lemma StreamTable.Orderly.openedAt (ht : table.Orderly) {slot : ℕ}
    (hslot : slot < quicStreamTableMax) (hfree : table.slots slot = none)
    (hnew : streamId ∉ table.ids) (ours : Bool) : (table.openedAt slot streamId ours).Orderly := by
  have hids := StreamTable.ids_openedAt hslot hfree streamId ours
  refine ⟨?_, ?_⟩
  · rw [hids.nodup_iff]
    exact List.nodup_cons.mpr ⟨hnew, ht.distinct⟩
  · rw [hids.length_eq, List.length_cons]
    unfold StreamTable.openedAt
    rw [StreamTable.countOpened_count]
    show table.count + 1 = _
    rw [ht.count]

/-- What closing a stream does to the numbers. -/
theorem quicStreamTableClose_ids (ht : table.Orderly) (streamId : ℕ) :
    (quicStreamTableClose table streamId).1.Orderly ∧
      (quicStreamTableClose table streamId).1.ids ⊆ table.ids ∧
      (quicStreamTableClose table streamId).1.opened = table.opened := by
  unfold quicStreamTableClose
  split
  · exact ⟨ht, List.Subset.refl _, rfl⟩
  rename_i slot hslot
  split
  · exact ⟨ht, List.Subset.refl _, rfl⟩
  obtain ⟨hlt, stream, hstream, -⟩ := tableSlot_eq_some hslot
  have hids : table.ids.Perm (stream.id :: (SlotTable.entries quicStreamTableMax
      (Function.update table.slots slot none)).map Stream.id) :=
    (SlotTable.entries_empty hlt hstream).map Stream.id
  refine ⟨⟨?_, ?_⟩, ?_, rfl⟩
  · exact (List.nodup_cons.mp (hids.nodup_iff.mp ht.distinct)).2
  · have hlen := hids.length_eq
    have hcount := ht.count
    rw [List.length_cons] at hlen
    have hless : table.count - 1 = ((SlotTable.entries quicStreamTableMax
        (Function.update table.slots slot none)).map Stream.id).length := by omega
    exact hless
  · intro id hid
    exact hids.symm.subset (List.mem_cons_of_mem _ hid)

/-- A new stream leaves the others where they are. -/
lemma quicStreamTableFind_openedAt_ne {slot id : ℕ} (hfree : table.slots slot = none)
    (hne : id ≠ streamId) (ours : Bool) :
    quicStreamTableFind (table.openedAt slot streamId ours) id = quicStreamTableFind table id := by
  have hslots : (table.openedAt slot streamId ours).slots = Function.update table.slots slot
      (some (quicStreamInit streamId ours (quicStreamIdIsBidirectional streamId) 0 0)) := by
    unfold StreamTable.openedAt
    rw [StreamTable.countOpened_slots]
  have hsame : tableSlot (table.openedAt slot streamId ours) id = tableSlot table id := by
    unfold tableSlot
    refine List.find?_congr fun i _ => ?_
    rw [hslots]
    by_cases hi : i = slot
    · subst hi
      simp [hfree, quicStreamInit, hne.symm]
    · rw [Function.update_of_ne hi]
  unfold quicStreamTableFind
  rw [hsame, hslots]
  cases hslot : tableSlot table id with
  | none => rfl
  | some i =>
    obtain ⟨-, stream, hi, -⟩ := tableSlot_eq_some hslot
    have hij : i ≠ slot := by
      rintro rfl
      rw [hfree] at hi
      cases hi
    simp [Function.update_of_ne hij]

lemma quicStreamTableFind_openedAt_self {slot : ℕ} (ht : table.ids.Nodup)
    (hslot : slot < quicStreamTableMax) (hfree : table.slots slot = none)
    (hnew : streamId ∉ table.ids) (ours : Bool) :
    quicStreamTableFind (table.openedAt slot streamId ours) streamId =
      some (quicStreamInit streamId ours (quicStreamIdIsBidirectional streamId) 0 0) := by
  have hids := StreamTable.ids_openedAt hslot hfree streamId ours
  have hnodup : (table.openedAt slot streamId ours).ids.Nodup := by
    rw [hids.nodup_iff]
    exact List.nodup_cons.mpr ⟨hnew, ht⟩
  have hput : (table.openedAt slot streamId ours).slots slot =
      some (quicStreamInit streamId ours (quicStreamIdIsBidirectional streamId) 0 0) := by
    unfold StreamTable.openedAt
    rw [StreamTable.countOpened_slots]
    simp
  exact quicStreamTableFind_of_slot hnodup hslot hput

lemma quicStreamTableFind_of_swept (ht : table.ids.Nodup)
    (h : quicStreamTableFind (sweptTable table) streamId = some stream) :
    quicStreamTableFind table streamId = some stream := by
  obtain ⟨i, hslot, hi⟩ := quicStreamTableFind_eq_some.mp h
  obtain ⟨hlt, -⟩ := tableSlot_eq_some hslot
  have hkept : table.slots i = some stream := by
    unfold sweptTable at hi
    split at hi
    · by_cases hcomplete : slotComplete table i = true
      · simp [reclaimComplete, hcomplete] at hi
      · simpa [reclaimComplete, hcomplete] using hi
    · exact hi
  rw [← id_of_find h]
  exact quicStreamTableFind_of_slot ht hlt hkept

end WebTransport
