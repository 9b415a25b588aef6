import Mathlib.Tactic

/-!
# High-water marks

A log of marks, each under a key and the last one first. What counts for a key is the highest
mark ever made under it, and what counts in all is the sum of these over the keys.
-/

namespace HighWater

variable {κ : Type*} [DecidableEq κ]

/-- The highest mark under a key, `0` when there is none. -/
def mark : List (κ × ℕ) → κ → ℕ
  | [], _ => 0
  | e :: l, k => if e.1 = k then max e.2 (mark l k) else mark l k

/-- The highest marks of all keys together. -/
def total (l : List (κ × ℕ)) : ℕ := ∑ k ∈ (l.map Prod.fst).toFinset, mark l k

variable {l : List (κ × ℕ)} {k k' : κ} {v b : ℕ}

@[simp] lemma mark_nil (k : κ) : mark ([] : List (κ × ℕ)) k = 0 := rfl

@[simp] lemma total_nil : total ([] : List (κ × ℕ)) = 0 := rfl

lemma mark_cons_self : mark ((k, v) :: l) k = max v (mark l k) := if_pos rfl

lemma mark_cons_ne (h : k' ≠ k) : mark ((k', v) :: l) k = mark l k := if_neg h

lemma mark_eq_zero (h : k ∉ l.map Prod.fst) : mark l k = 0 := by
  induction l with
  | nil => rfl
  | cons e l ih =>
    rw [List.map_cons, List.mem_cons, not_or] at h
    rw [mark, if_neg (Ne.symm h.1)]
    exact ih h.2

/-- A new mark raises the sum by as much as it raises the mark of its key. -/
theorem total_cons : total ((k, v) :: l) = total l + (v - mark l k) := by
  have hothers : ∀ s : Finset κ, k ∉ s → ∑ k' ∈ s, mark ((k, v) :: l) k' = ∑ k' ∈ s, mark l k' := by
    intro s hs
    refine Finset.sum_congr rfl ?_
    intro k' hk'
    refine mark_cons_ne ?_
    rintro rfl
    exact hs hk'
  unfold total
  rw [List.map_cons, List.toFinset_cons]
  by_cases hk : k ∈ (l.map Prod.fst).toFinset
  · rw [Finset.insert_eq_of_mem hk, ← Finset.add_sum_erase _ _ hk, ← Finset.add_sum_erase _ _ hk,
      hothers _ (Finset.notMem_erase _ _), mark_cons_self]
    omega
  · rw [Finset.sum_insert hk, hothers _ hk, mark_cons_self,
      mark_eq_zero fun h => hk (List.mem_toFinset.mpr h)]
    omega

end HighWater
