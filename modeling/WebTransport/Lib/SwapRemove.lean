import Mathlib.Tactic

/-!
# Removal from an unordered table

A table whose order carries no meaning gives up an entry by moving its last one into the
hole.
-/

namespace SwapRemove

variable {α : Type*} {p : α → Bool} {l : List α} {x : α}

/-- Remove the first entry that satisfies `p`; the last entry fills the hole. -/
def swapRemove (p : α → Bool) (l : List α) : List α :=
  match l.findIdx? p, l.getLast? with
  | some i, some tail => (l.set i tail).dropLast
  | _, _ => l

/-- With nothing to remove the table is as it was. -/
lemma swapRemove_of_none (h : ∀ y ∈ l, p y = false) : swapRemove p l = l := by
  have hfind : l.findIdx? p = none := List.findIdx?_eq_none_iff.mpr h
  rw [swapRemove, hfind]

/-- The entry added last is removed without moving any other. -/
lemma swapRemove_append (h : ∀ y ∈ l, p y = false) (hx : p x = true) :
    swapRemove p (l ++ [x]) = l := by
  have hfind : (l ++ [x]).findIdx? p = some l.length := by
    have hnone : l.findIdx? p = none := List.findIdx?_eq_none_iff.mpr h
    rw [List.findIdx?_append, hnone]
    simp [List.findIdx?_cons, hx]
  rw [swapRemove, hfind, List.getLast?_concat]
  simp

lemma mem_of_mem_swapRemove (h : x ∈ swapRemove p l) : x ∈ l := by
  unfold swapRemove at h
  split at h
  case h_1 i tail _ htail =>
    have hmem : x ∈ l.set i tail := List.dropLast_subset _ h
    rcases List.mem_or_eq_of_mem_set hmem with hmem | rfl
    · exact hmem
    · exact List.mem_of_getLast? htail
  case h_2 => exact h

/-- The removal is that of the first entry that satisfies `p`, up to the order. -/
theorem swapRemove_perm (p : α → Bool) (l : List α) : (swapRemove p l).Perm (l.eraseP p) := by
  rcases List.exists_or_eq_self_of_eraseP p l with hself | ⟨x, l₁, l₂, hl₁, hx, rfl, herase⟩
  · have hnone : ∀ y ∈ l, p y = false := by
      simpa using List.eraseP_eq_self_iff.mp hself
    rw [hself, swapRemove_of_none hnone]
  · have hfind : (l₁ ++ x :: l₂).findIdx? p = some l₁.length := by
      have hnone : l₁.findIdx? p = none :=
        List.findIdx?_eq_none_iff.mpr fun y hy => by simpa using hl₁ y hy
      rw [List.findIdx?_append, hnone]
      simp [List.findIdx?_cons, hx]
    rw [herase, swapRemove, hfind]
    rcases List.eq_nil_or_concat l₂ with rfl | ⟨l₂, tail, rfl⟩
    · rw [List.getLast?_concat, List.append_nil]
      simp
    · rw [List.concat_eq_append, ← List.cons_append, ← List.append_assoc, List.getLast?_concat]
      simp only
      rw [List.append_assoc, List.set_append_right _ _ (le_refl _), Nat.sub_self,
        List.cons_append, List.set_cons_zero, ← List.cons_append, ← List.append_assoc,
        List.dropLast_concat, ← List.append_assoc]
      apply List.Perm.trans (List.perm_middle)
      rw [List.append_assoc]
      exact (List.perm_append_singleton tail (l₁ ++ l₂)).symm.trans (by rw [List.append_assoc])

section Keys

variable {β : Type*} [DecidableEq β] {f : α → β} {a : β}

/-- With distinct keys no entry of the removed key is left. -/
theorem key_ne_of_mem_swapRemove (hl : (l.map f).Nodup)
    (h : x ∈ swapRemove (fun y => decide (f y = a)) l) : f x ≠ a := by
  have hmem := (swapRemove_perm _ l).mem_iff.mp h
  intro hx
  rcases List.exists_or_eq_self_of_eraseP (fun y => decide (f y = a)) l with
    hself | ⟨z, l₁, l₂, -, hz, rfl, herase⟩
  · have hnone := List.eraseP_eq_self_iff.mp hself x (List.mem_of_mem_eraseP hmem)
    simp [hx] at hnone
  · rw [herase] at hmem
    have hz : f z = a := by simpa using hz
    have hperm : ((l₁ ++ z :: l₂).map f).Perm (f z :: (l₁ ++ l₂).map f) :=
      (List.perm_middle).map f
    have hnodup := (hperm.nodup_iff.mp hl).notMem
    rw [hz, ← hx] at hnodup
    exact hnodup (List.mem_map_of_mem hmem)

omit [DecidableEq β] in
lemma nodup_swapRemove (p : α → Bool) (hl : (l.map f).Nodup) :
    ((swapRemove p l).map f).Nodup := by
  rw [((swapRemove_perm p l).map f).nodup_iff]
  exact hl.sublist (List.eraseP_sublist.map f)

end Keys

end SwapRemove
