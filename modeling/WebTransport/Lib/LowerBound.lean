import Mathlib.Tactic

/-!
# Searching by halves

The loop that halves an interval until it comes to the first index that is not below a bound. It
is given as many rounds as the interval has indices, which is enough.
-/

namespace LowerBound

/-- The first index from `low` to `high` that is not `below`, found by halving. -/
def search (below : ℕ → Bool) : ℕ → ℕ → ℕ → ℕ
  | 0, low, _ => low
  | rounds + 1, low, high =>
    if low < high then
      let mid := low + (high - low) / 2
      if below mid then search below rounds (mid + 1) high else search below rounds low mid
    else low

variable {below : ℕ → Bool} {bound : ℕ}

/-- What is below the index that is found is `below`, and what is not is not, when the indices
that are `below` come first. -/
theorem search_spec (hfirst : ∀ i j, i ≤ j → j < bound → below j = true → below i = true)
    {rounds low high : ℕ} (hle : low ≤ high) (hbound : high ≤ bound) (hrounds : high - low ≤ rounds)
    (hlow : ∀ i < low, below i = true) (hhigh : ∀ i, high ≤ i → i < bound → below i = false) :
    (∀ i < search below rounds low high, below i = true) ∧
      ∀ i, search below rounds low high ≤ i → i < bound → below i = false := by
  induction rounds generalizing low high with
  | zero =>
    have heq : high = low := by omega
    rw [search]
    exact ⟨hlow, heq ▸ hhigh⟩
  | succ rounds ih =>
    rw [search]
    split
    · rename_i hlt
      simp only
      split
      · rename_i hmid
        refine ih (by omega) hbound (by omega) ?_ hhigh
        intro i hi
        exact hfirst i _ (Nat.lt_succ_iff.mp hi) (by omega) hmid
      · rename_i hmid
        refine ih (by omega) (by omega) (by omega) hlow ?_
        intro i hi hib
        by_contra hbelow
        exact hmid (hfirst _ i hi hib (by simpa using hbelow))
    · rename_i hnot
      have heq : high = low := by omega
      exact ⟨hlow, heq ▸ hhigh⟩

end LowerBound
