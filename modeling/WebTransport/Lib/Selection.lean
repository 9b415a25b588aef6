import Mathlib.Data.List.Sort
import Mathlib.Tactic

/-!
# Selecting the smallest entry again and again

A table is walked for the entry with the smallest key among those that were not taken before, until
every entry is taken. Flags say which are taken, and the number of entries stands for no entry. The
order in which the entries are taken is their order by key.
-/

namespace Selection

variable {κ : Type*} [LinearOrder κ] {n : ℕ} {key : ℕ → κ} {taken : ℕ → Bool}

/-- What the walk has found after its first steps, `n` when it has found nothing. -/
def bestUpTo (n : ℕ) (key : ℕ → κ) (taken : ℕ → Bool) : ℕ → ℕ
  | 0 => n
  | i + 1 =>
    let best := bestUpTo n key taken i
    if taken i then best else if best = n ∨ key i < key best then i else best

/-- The place of the first smallest key that is not taken, `n` when there is none. -/
def best (n : ℕ) (key : ℕ → κ) (taken : ℕ → Bool) : ℕ := bestUpTo n key taken n

/-- The places in the order in which they are taken. -/
def order (n : ℕ) (key : ℕ → κ) : ℕ → (ℕ → Bool) → List ℕ
  | 0, _ => []
  | left + 1, taken =>
    if best n key taken = n then []
    else best n key taken :: order n key left (Function.update taken (best n key taken) true)

/-- The places that are not taken. -/
def remaining (n : ℕ) (taken : ℕ → Bool) : List ℕ := (List.range n).filter fun i => !taken i

@[simp] lemma mem_remaining {i : ℕ} : i ∈ remaining n taken ↔ i < n ∧ taken i = false := by
  simp [remaining]

/-- The walk finds nothing as long as all places are taken, and then the smallest. -/
lemma bestUpTo_spec {m : ℕ} (hm : m ≤ n) :
    (bestUpTo n key taken m = n ∧ ∀ i < m, taken i = true) ∨
      (bestUpTo n key taken m < m ∧ taken (bestUpTo n key taken m) = false ∧
        ∀ i < m, taken i = false → key (bestUpTo n key taken m) ≤ key i) := by
  induction m with
  | zero => exact .inl ⟨rfl, fun i hi => absurd hi (Nat.not_lt_zero i)⟩
  | succ m ih =>
    have hbefore := ih (by omega)
    rw [bestUpTo]
    by_cases htaken : taken m = true
    · rw [if_pos htaken]
      obtain ⟨hnone, hall⟩ | ⟨hlt, hfree, hleast⟩ := hbefore
      · refine .inl ⟨hnone, fun i hi => ?_⟩
        obtain hi | rfl := Nat.lt_succ_iff_lt_or_eq.mp hi
        · exact hall i hi
        · exact htaken
      · refine .inr ⟨by omega, hfree, fun i hi hifree => ?_⟩
        obtain hi | rfl := Nat.lt_succ_iff_lt_or_eq.mp hi
        · exact hleast i hi hifree
        · rw [htaken] at hifree
          cases hifree
    · have hfreem : taken m = false := Bool.eq_false_iff.mpr htaken
      rw [if_neg htaken]
      obtain ⟨hnone, hall⟩ | ⟨hlt, hfree, hleast⟩ := hbefore
      · rw [if_pos (.inl hnone)]
        refine .inr ⟨by omega, hfreem, fun i hi hifree => ?_⟩
        obtain hi | rfl := Nat.lt_succ_iff_lt_or_eq.mp hi
        · rw [hall i hi] at hifree
          cases hifree
        · exact le_rfl
      · by_cases hsmaller : key m < key (bestUpTo n key taken m)
        · rw [if_pos (.inr hsmaller)]
          refine .inr ⟨by omega, hfreem, fun i hi hifree => ?_⟩
          obtain hi | rfl := Nat.lt_succ_iff_lt_or_eq.mp hi
          · exact hsmaller.le.trans (hleast i hi hifree)
          · exact le_rfl
        · rw [if_neg (by
            rintro (hnone | hlt)
            · omega
            · exact hsmaller hlt)]
          refine .inr ⟨by omega, hfree, fun i hi hifree => ?_⟩
          obtain hi | rfl := Nat.lt_succ_iff_lt_or_eq.mp hi
          · exact hleast i hi hifree
          · exact not_lt.mp hsmaller

/-- There is a smallest place as long as one remains. -/
lemma best_spec (h : remaining n taken ≠ []) : best n key taken ∈ remaining n taken ∧
    ∀ i ∈ remaining n taken, key (best n key taken) ≤ key i := by
  obtain ⟨-, hall⟩ | ⟨hlt, hfree, hleast⟩ :=
    @bestUpTo_spec _ _ n key taken n le_rfl
  · obtain ⟨i, hi⟩ := List.exists_mem_of_ne_nil _ h
    rw [mem_remaining] at hi
    rw [hall i hi.1] at hi
    cases hi.2
  · refine ⟨mem_remaining.mpr ⟨hlt, hfree⟩, fun i hi => ?_⟩
    rw [mem_remaining] at hi
    exact hleast i hi.1 hi.2

lemma nodup_remaining : (remaining n taken).Nodup := List.nodup_range.filter _

lemma remaining_update (i : ℕ) :
    remaining n (Function.update taken i true) = (remaining n taken).erase i := by
  rw [nodup_remaining.erase_eq_filter, remaining, remaining, List.filter_filter]
  apply List.filter_congr
  intro j _
  by_cases hj : j = i
  · subst hj
    simp
  · simp [hj]

/-- Every place that remains is taken once, and none before a smaller one. -/
theorem order_spec {count : ℕ} (h : (remaining n taken).length = count) :
    (order n key count taken).Perm (remaining n taken) ∧
      (order n key count taken).Pairwise fun i j => key i ≤ key j := by
  induction count generalizing taken with
  | zero =>
    rw [List.length_eq_zero_iff.mp h]
    exact ⟨List.Perm.nil, List.Pairwise.nil⟩
  | succ count ih =>
    have hsome : remaining n taken ≠ [] := by
      intro hnil
      rw [hnil] at h
      cases h
    obtain ⟨hmem, hleast⟩ := @best_spec _ _ n key taken hsome
    have hlt := (mem_remaining.mp hmem).1
    obtain ⟨hperm, hsorted⟩ := @ih (Function.update taken (best n key taken) true) (by
      rw [remaining_update, List.length_erase_of_mem hmem, h]
      rfl)
    rw [remaining_update] at hperm
    rw [order, if_neg (by omega)]
    refine ⟨(hperm.cons _).trans (List.perm_cons_erase hmem).symm,
      List.pairwise_cons.mpr ⟨fun i hi => ?_, hsorted⟩⟩
    exact hleast i (List.mem_of_mem_erase (hperm.mem_iff.mp hi))

/-- A whole table is taken in the order of its keys. -/
theorem order_all (n : ℕ) (key : ℕ → κ) : (order n key n fun _ => false).Perm (List.range n) ∧
    (order n key n fun _ => false).Pairwise fun i j => key i ≤ key j := by
  have hall : remaining n (fun _ => false) = List.range n :=
    List.filter_eq_self.mpr fun _ _ => rfl
  have h := @order_spec _ _ n key (fun _ => false) n (by rw [hall, List.length_range])
  rwa [hall] at h

end Selection
