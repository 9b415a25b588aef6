import Mathlib.Tactic

/-!
# Dictionaries

Finite maps from the keys of a linear order. The entries are kept by ascending keys, so that two
dictionaries with the same values are equal and the keys of a dictionary come in their order.
-/

/-- A finite map. -/
structure Dictionary (κ α : Type*) [LT κ] where
  entries : List (κ × α)
  sorted : entries.Pairwise fun e e' => e.1 < e'.1

namespace Dictionary

variable {κ α : Type*} [LinearOrder κ] {d d' : Dictionary κ α} {k k' : κ} {a : α}

instance [DecidableEq α] : DecidableEq (Dictionary κ α) := fun d d' =>
  decidable_of_iff (d.entries = d'.entries) (by cases d; cases d'; simp)

instance : EmptyCollection (Dictionary κ α) := ⟨⟨[], List.Pairwise.nil⟩⟩

/-- The value of a key. -/
def get? (d : Dictionary κ α) (k : κ) : Option α :=
  (d.entries.find? fun e => e.1 = k).map Prod.snd

/-- Ascending entries with one more, in the place of the one with its key. -/
def insertEntry (k : κ) (a : α) : List (κ × α) → List (κ × α)
  | [] => [(k, a)]
  | e :: rest =>
    if k < e.1 then (k, a) :: e :: rest
    else if k = e.1 then (k, a) :: rest
    else e :: insertEntry k a rest

lemma mem_insertEntry {e : κ × α} {l : List (κ × α)} (h : e ∈ insertEntry k a l) :
    e = (k, a) ∨ e ∈ l := by
  induction l with
  | nil => exact .inl (List.mem_singleton.mp h)
  | cons e' rest ih =>
    unfold insertEntry at h
    split_ifs at h with hlt heq
    · exact List.mem_cons.mp h
    · rcases List.mem_cons.mp h with rfl | h
      · exact .inl rfl
      · exact .inr (List.mem_cons_of_mem _ h)
    · rcases List.mem_cons.mp h with rfl | h
      · exact .inr List.mem_cons_self
      · exact (ih h).imp_right (List.mem_cons_of_mem _)

lemma sorted_insertEntry {l : List (κ × α)} (h : l.Pairwise fun e e' => e.1 < e'.1) :
    (insertEntry k a l).Pairwise fun e e' => e.1 < e'.1 := by
  induction l with
  | nil => exact List.pairwise_singleton _ _
  | cons e rest ih =>
    obtain ⟨hhead, htail⟩ := List.pairwise_cons.mp h
    unfold insertEntry
    split_ifs with hlt heq
    · refine List.pairwise_cons.mpr ⟨fun e' he' => ?_, h⟩
      rcases List.mem_cons.mp he' with rfl | he'
      · exact hlt
      · exact hlt.trans (hhead e' he')
    · exact List.pairwise_cons.mpr ⟨fun e' he' => heq.trans_lt (hhead e' he'), htail⟩
    · refine List.pairwise_cons.mpr ⟨fun e' he' => ?_, ih htail⟩
      rcases mem_insertEntry he' with rfl | he'
      · exact lt_of_le_of_ne (not_lt.mp hlt) (Ne.symm heq)
      · exact hhead e' he'

/-- The map in which a key has a value. -/
def insert (d : Dictionary κ α) (k : κ) (a : α) : Dictionary κ α :=
  ⟨insertEntry k a d.entries, sorted_insertEntry d.sorted⟩

/-- The map in which a key has no value. -/
def erase (d : Dictionary κ α) (k : κ) : Dictionary κ α :=
  ⟨d.entries.filter fun e => e.1 ≠ k, d.sorted.filter _⟩

/-- The map with other values for the same keys. -/
def mapValues (f : α → α) (d : Dictionary κ α) : Dictionary κ α :=
  ⟨d.entries.map fun e => (e.1, f e.2), List.pairwise_map.mpr d.sorted⟩

/-- The keys, ascending. -/
def keys (d : Dictionary κ α) : List κ := d.entries.map Prod.fst

/-- How many keys have a value. -/
def count (d : Dictionary κ α) : ℕ := d.entries.length

/-! ## Values -/

@[simp] lemma get?_empty : (∅ : Dictionary κ α).get? k = none := rfl

lemma find?_insertEntry (l : List (κ × α)) :
    ((insertEntry k a l).find? fun e => e.1 = k').map Prod.snd =
      if k' = k then some a else (l.find? fun e => e.1 = k').map Prod.snd := by
  induction l with
  | nil =>
    unfold insertEntry
    split_ifs with h
    · simp [h]
    · simp [Ne.symm h]
  | cons e rest ih =>
    unfold insertEntry
    split_ifs with hlt h heq h h
    · simp [h]
    · rw [List.find?_cons_of_neg (by simpa using Ne.symm h)]
    · simp [h]
    · have hne : e.1 ≠ k' := fun he => h (he.symm.trans heq.symm)
      rw [List.find?_cons_of_neg (by simpa using Ne.symm h),
        List.find?_cons_of_neg (by simpa using hne)]
    · have hne : e.1 ≠ k' := fun he => heq (h.symm.trans he.symm)
      rw [List.find?_cons_of_neg (by simpa using hne), ih, if_pos h]
    · rw [if_neg h] at ih
      simp only [List.find?_cons]
      split
      · rfl
      · exact ih

lemma get?_insert : (d.insert k a).get? k' = if k' = k then some a else d.get? k' :=
  find?_insertEntry d.entries

@[simp] lemma get?_insert_self : (d.insert k a).get? k = some a := by
  rw [get?_insert, if_pos rfl]

lemma get?_erase : (d.erase k).get? k' = if k' = k then none else d.get? k' := by
  unfold get? erase
  rw [List.find?_filter]
  split_ifs with h
  · rw [List.find?_eq_none.mpr]
    · rfl
    · intro e he
      simp [h]
  · congr 2
    funext e
    by_cases he : e.1 = k'
    · simp [he, h]
    · simp [he]

@[simp] lemma get?_erase_self : (d.erase k).get? k = none := by
  rw [get?_erase, if_pos rfl]

lemma get?_erase_of_ne (h : k' ≠ k) : (d.erase k).get? k' = d.get? k' := by
  rw [get?_erase, if_neg h]

lemma get?_mapValues {f : α → α} : (d.mapValues f).get? k = (d.get? k).map f := by
  unfold get? mapValues
  rw [List.find?_map, Option.map_map, Option.map_map]
  rfl

lemma mem_entries : (k, a) ∈ d.entries ↔ d.get? k = some a := by
  unfold get?
  constructor
  · intro h
    obtain ⟨l, l', hl⟩ := List.append_of_mem h
    have hsorted := d.sorted
    rw [hl, List.pairwise_append] at hsorted
    rw [hl, List.find?_append, List.find?_eq_none.mpr, Option.none_or, List.find?_cons_of_pos]
    · rfl
    · simp
    · intro e he
      simpa using (hsorted.2.2 e he (k, a) List.mem_cons_self).ne
  · intro h
    obtain ⟨e, he, rfl⟩ := Option.map_eq_some_iff.mp h
    have hkey : e.1 = k := by simpa using List.find?_some he
    rw [← hkey]
    exact List.mem_of_find?_eq_some he

lemma mem_keys : k ∈ d.keys ↔ (d.get? k).isSome := by
  rw [keys, List.mem_map, Option.isSome_iff_exists]
  constructor
  · rintro ⟨e, he, rfl⟩
    exact ⟨e.2, mem_entries.mp he⟩
  · rintro ⟨a, ha⟩
    exact ⟨(k, a), mem_entries.mpr ha, rfl⟩

lemma mem_keys_of_get? (h : d.get? k = some a) : k ∈ d.keys := by
  rw [mem_keys, h]
  rfl

lemma notMem_keys : k ∉ d.keys ↔ d.get? k = none := by
  rw [mem_keys, Option.not_isSome_iff_eq_none]

/-- Keys ascend. -/
lemma keys_sorted (d : Dictionary κ α) : d.keys.Pairwise (· < ·) :=
  List.pairwise_map.mpr d.sorted

lemma keys_nodup (d : Dictionary κ α) : d.keys.Nodup := d.keys_sorted.imp ne_of_lt

/-- A map is known by its values. -/
theorem ext_get? (h : ∀ k, d.get? k = d'.get? k) : d = d' := by
  have hmem : ∀ e, e ∈ d.entries ↔ e ∈ d'.entries := by
    rintro ⟨k, a⟩
    rw [mem_entries, mem_entries, h k]
  have hnodup : ∀ d : Dictionary κ α, d.entries.Nodup := fun d =>
    d.sorted.imp fun hlt heq => hlt.ne (congrArg Prod.fst heq)
  have hperm := (List.perm_ext_iff_of_nodup (hnodup d) (hnodup d')).mpr hmem
  have hentries : d.entries = d'.entries :=
    hperm.eq_of_pairwise (fun _ _ _ _ hlt hgt => absurd hlt hgt.not_gt) d.sorted d'.sorted
  obtain ⟨entries, sorted⟩ := d
  obtain rfl : entries = d'.entries := hentries
  rfl

/-- The values of some entries, without those that are looked up in vain. -/
lemma filterMap_entries {entries : List (κ × α)} {find : κ → Option α} {gone : κ → Prop}
    [DecidablePred gone] (h : ∀ e ∈ entries, find e.1 = if gone e.1 then none else some e.2) :
    (entries.map Prod.fst).filterMap find =
      (entries.filter fun e => ¬gone e.1).map Prod.snd := by
  induction entries with
  | nil => rfl
  | cons e rest ih =>
    obtain ⟨hhead, htail⟩ := List.forall_mem_cons.mp h
    rw [List.map_cons, List.filterMap_cons, hhead, ih htail]
    by_cases hgone : gone e.1
    · simp [hgone]
    · simp [hgone]

/-! ## Numbers of keys -/

@[simp] lemma count_empty : (∅ : Dictionary κ α).count = 0 := rfl

lemma length_keys : d.keys.length = d.count := List.length_map ..

lemma mem_keys_insert : k' ∈ (d.insert k a).keys ↔ k' = k ∨ k' ∈ d.keys := by
  rw [mem_keys, get?_insert, mem_keys]
  split_ifs with h
  · simp [h]
  · simp [h]

lemma mem_keys_erase : k' ∈ (d.erase k).keys ↔ k' ≠ k ∧ k' ∈ d.keys := by
  rw [mem_keys, get?_erase, mem_keys]
  split_ifs with h
  · simp [h]
  · simp [h]

lemma count_eq_card (d : Dictionary κ α) : d.count = d.keys.toFinset.card := by
  rw [List.toFinset_card_of_nodup d.keys_nodup, length_keys]

lemma count_erase (h : k ∈ d.keys) : (d.erase k).count + 1 = d.count := by
  have hkeys : (d.erase k).keys.toFinset = d.keys.toFinset.erase k := by
    ext k'
    rw [List.mem_toFinset, mem_keys_erase, Finset.mem_erase, List.mem_toFinset]
  rw [count_eq_card, count_eq_card, hkeys, Finset.card_erase_add_one (List.mem_toFinset.mpr h)]

lemma count_insert_le : (d.insert k a).count ≤ d.count + 1 := by
  have hkeys : (d.insert k a).keys.toFinset = Insert.insert k d.keys.toFinset := by
    ext k'
    rw [List.mem_toFinset, mem_keys_insert, Finset.mem_insert, List.mem_toFinset]
  rw [count_eq_card, count_eq_card, hkeys]
  exact Finset.card_insert_le _ _

end Dictionary
