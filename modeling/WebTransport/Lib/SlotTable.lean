import Mathlib.Tactic

/-!
# Bounded tables of slots

A table is a function from slot numbers of which only those below a bound are used. `entries`
lists what its used slots hold. Filling a free slot adds one entry, emptying slots takes
entries away.
-/

namespace SlotTable

variable {α β : Type*} {n i : ℕ} {f : ℕ → Option α} {a : α}

/-- What the slots below `n` hold, in the order of the slots. -/
def entries (n : ℕ) (f : ℕ → Option α) : List α := (List.range n).filterMap f

lemma mem_entries : a ∈ entries n f ↔ ∃ i < n, f i = some a := by
  simp [entries]

/-- A function that agrees below the bound lists the same entries. -/
lemma entries_congr {g : ℕ → Option α} (h : ∀ i < n, f i = g i) : entries n f = entries n g :=
  List.filterMap_congr fun i hi => h i (List.mem_range.mp hi)

lemma map_entries (g : α → β) : (entries n f).map g = entries n fun i => (f i).map g := by
  unfold entries
  rw [List.map_filterMap]

/-- Entries of a list of slots after a free one was filled. -/
lemma filterMap_update_perm {l : List ℕ} (hl : l.Nodup) (hi : i ∈ l) (hf : f i = none) :
    (l.filterMap (Function.update f i (some a))).Perm (a :: l.filterMap f) := by
  induction l with
  | nil => cases hi
  | cons j l ih =>
    obtain ⟨hj, hl⟩ := List.nodup_cons.mp hl
    by_cases h : j = i
    · subst h
      have hrest : l.filterMap (Function.update f j (some a)) = l.filterMap f := by
        refine List.filterMap_congr fun k hk => ?_
        rw [Function.update_of_ne]
        rintro rfl
        exact hj hk
      rw [List.filterMap_cons_some (Function.update_self ..), List.filterMap_cons_none hf, hrest]
    · have hmem : i ∈ l := (List.mem_cons.mp hi).resolve_left fun h' => h h'.symm
      have hrest := ih hl hmem
      have hsame : Function.update f i (some a) j = f j := Function.update_of_ne h ..
      cases hfj : f j with
      | none =>
        rw [List.filterMap_cons_none (hsame.trans hfj), List.filterMap_cons_none hfj]
        exact hrest
      | some b =>
        rw [List.filterMap_cons_some (hsame.trans hfj), List.filterMap_cons_some hfj]
        exact (hrest.cons b).trans (List.Perm.swap a b _)

/-- Filling a free slot adds one entry. -/
theorem entries_fill (hi : i < n) (hf : f i = none) :
    (entries n (Function.update f i (some a))).Perm (a :: entries n f) :=
  filterMap_update_perm List.nodup_range (List.mem_range.mpr hi) hf

/-- Emptying a used slot takes one entry away. -/
theorem entries_empty (hi : i < n) (hf : f i = some a) :
    (entries n f).Perm (a :: entries n (Function.update f i none)) := by
  have h := entries_fill (f := Function.update f i none) (a := a) hi (Function.update_self ..)
  rwa [Function.update_idem, ← hf, Function.update_eq_self] at h

/-- Emptying the slots that satisfy `p`. -/
def sweep (p : ℕ → Bool) (f : ℕ → Option α) (i : ℕ) : Option α := if p i then none else f i

/-- Emptying slots leaves a part of the entries. -/
theorem entries_sweep_sublist (p : ℕ → Bool) :
    (entries n (sweep p f)).Sublist (entries n f) := by
  unfold entries
  induction List.range n with
  | nil => exact List.Sublist.slnil
  | cons i l ih =>
    cases hf : f i with
    | none =>
      have hs : sweep p f i = none := by simp [sweep, hf]
      rw [List.filterMap_cons_none hs, List.filterMap_cons_none hf]
      exact ih
    | some b =>
      rw [List.filterMap_cons_some hf]
      by_cases hp : p i
      · rw [List.filterMap_cons_none (by simp [sweep, hp])]
        exact ih.cons b
      · rw [List.filterMap_cons_some (b := b) (by simp [sweep, hp, hf])]
        exact ih.cons_cons b

/-- Every emptied slot takes one entry away. -/
theorem length_entries_sweep {p : ℕ → Bool} (hp : ∀ i, p i = true → (f i).isSome = true) :
    (entries n (sweep p f)).length + ((List.range n).filter p).length = (entries n f).length := by
  unfold entries
  induction List.range n with
  | nil => rfl
  | cons i l ih =>
    by_cases h : p i
    · obtain ⟨b, hb⟩ := Option.isSome_iff_exists.mp (hp i h)
      rw [List.filterMap_cons_none (by simp [sweep, h]), List.filterMap_cons_some hb,
        List.filter_cons_of_pos h, List.length_cons, List.length_cons]
      omega
    · rw [List.filter_cons_of_neg h]
      cases hf : f i with
      | none =>
        rw [List.filterMap_cons_none (by simp [sweep, hf]), List.filterMap_cons_none hf]
        exact ih
      | some b =>
        rw [List.filterMap_cons_some (b := b) (by simp [sweep, h, hf]),
          List.filterMap_cons_some hf, List.length_cons, List.length_cons]
        omega

end SlotTable
