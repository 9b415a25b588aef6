import Mathlib.Tactic

/-!
# Lists of closed ranges

A finite set of natural numbers kept as closed ranges, largest first, with at least one
missing number between neighbours. The rules below say how such a list is edited in the
middle: what keeps it separated and what it then contains.
-/

/-- A closed range of natural numbers. -/
structure ClosedRange where
  smallest : ℕ
  largest : ℕ
deriving DecidableEq, Repr, Inhabited

namespace ClosedRange

/-- Whether `n` lies in the range. -/
def Has (r : ClosedRange) (n : ℕ) : Prop := r.smallest ≤ n ∧ n ≤ r.largest

instance (r : ClosedRange) (n : ℕ) : Decidable (r.Has n) :=
  inferInstanceAs (Decidable (_ ∧ _))

end ClosedRange

namespace RangeList

/-- Whether some range of the list holds `n`. -/
def Mem (rs : List ClosedRange) (n : ℕ) : Prop := ∃ r ∈ rs, r.Has n

instance (rs : List ClosedRange) (n : ℕ) : Decidable (Mem rs n) :=
  inferInstanceAs (Decidable (∃ r ∈ rs, r.Has n))

/-- Largest first, none empty, and never two ranges that touch. -/
structure Separated (rs : List ClosedRange) : Prop where
  nonempty : ∀ r ∈ rs, r.smallest ≤ r.largest
  apart : rs.Pairwise fun a b => b.largest + 1 < a.smallest

/-- The empty list is separated. -/
theorem separated_nil : Separated [] := ⟨by simp, List.Pairwise.nil⟩

/-- A list without some of its ranges is still separated. -/
theorem Separated.sublist {rs rs' : List ClosedRange} (h : Separated rs)
    (hsub : rs'.Sublist rs) : Separated rs' :=
  ⟨fun r hr => h.nonempty r (hsub.subset hr), h.apart.sublist hsub⟩

/-- A range placed in the middle keeps the list separated when it touches neither side. -/
theorem Separated.insert {a b : List ClosedRange} {r : ClosedRange} (h : Separated (a ++ b))
    (hr : r.smallest ≤ r.largest) (ha : ∀ x ∈ a, r.largest + 1 < x.smallest)
    (hb : ∀ y ∈ b, y.largest + 1 < r.smallest) : Separated (a ++ r :: b) := by
  obtain ⟨ha', hb', hab⟩ := List.pairwise_append.mp h.apart
  refine ⟨?_, ?_⟩
  · intro x hx
    simp only [List.mem_append, List.mem_cons] at hx
    rcases hx with hx | rfl | hx
    · exact h.nonempty x (by simp [hx])
    · exact hr
    · exact h.nonempty x (by simp [hx])
  · refine List.pairwise_append.mpr ⟨ha', List.pairwise_cons.mpr ⟨hb, hb'⟩, ?_⟩
    intro x hx y hy
    rcases List.mem_cons.mp hy with rfl | hy
    · exact ha x hx
    · exact hab x hx y hy

/-- In a separated list everything after a range is well below it. -/
theorem Separated.below {a b : List ClosedRange} {r : ClosedRange} (h : Separated (a ++ r :: b)) :
    ∀ y ∈ b, y.largest + 1 < r.smallest :=
  (List.pairwise_cons.mp (List.pairwise_append.mp h.apart).2.1).1

/-- In a separated list everything before a range is well above it. -/
theorem Separated.above {a b : List ClosedRange} {r : ClosedRange} (h : Separated (a ++ r :: b)) :
    ∀ x ∈ a, r.largest + 1 < x.smallest := fun x hx =>
  (List.pairwise_append.mp h.apart).2.2 x hx r (by simp)

/-- The numbers of a list with `r` in the middle. -/
theorem mem_insert {a b : List ClosedRange} {r : ClosedRange} {n : ℕ} :
    Mem (a ++ r :: b) n ↔ r.Has n ∨ Mem (a ++ b) n := by
  simp only [Mem, List.mem_append, List.mem_cons]
  constructor
  · rintro ⟨x, hx | rfl | hx, hn⟩
    · exact Or.inr ⟨x, Or.inl hx, hn⟩
    · exact Or.inl hn
    · exact Or.inr ⟨x, Or.inr hx, hn⟩
  · rintro (hn | ⟨x, hx | hx, hn⟩)
    · exact ⟨r, Or.inr (Or.inl rfl), hn⟩
    · exact ⟨x, Or.inl hx, hn⟩
    · exact ⟨x, Or.inr (Or.inr hx), hn⟩

/-! ## One more number -/

/-- A list of ranges after a number was added to it. -/
structure Placed (rs : List ClosedRange) (n : ℕ) (rs' : List ClosedRange) : Prop where
  separated : Separated rs'
  mem : ∀ m, Mem rs' m ↔ m = n ∨ Mem rs m

section Placed

variable {a b : List ClosedRange} {x y : ClosedRange} {n : ℕ}

/-- A number that touches nothing gets a range of its own. -/
theorem placed_alone (h : Separated (a ++ b)) (ha : ∀ x ∈ a, n + 1 < x.smallest)
    (hb : ∀ y ∈ b, y.largest + 1 < n) : Placed (a ++ b) n (a ++ ⟨n, n⟩ :: b) where
  separated := h.insert le_rfl ha hb
  mem m := by
    rw [mem_insert]
    simp only [ClosedRange.Has]
    constructor
    · rintro (hm | hm)
      · exact .inl (by omega)
      · exact .inr hm
    · rintro (rfl | hm)
      · exact .inl ⟨le_rfl, le_rfl⟩
      · exact .inr hm

/-- A number just below a range makes it longer. -/
theorem placed_under (h : Separated (a ++ x :: b)) (hx : x.smallest = n + 1)
    (hb : ∀ y ∈ b, y.largest + 1 < n) :
    Placed (a ++ x :: b) n (a ++ ⟨n, x.largest⟩ :: b) where
  separated := by
    have hne := h.nonempty x (by simp)
    refine (h.sublist ?_).insert ?_ h.above hb
    · exact (List.Sublist.refl a).append (List.sublist_cons_self x b)
    · change n ≤ x.largest
      omega
  mem m := by
    have hne := h.nonempty x (by simp)
    rw [mem_insert, mem_insert]
    simp only [ClosedRange.Has]
    constructor
    · rintro (hm | hm)
      · by_cases heq : m = n
        · exact .inl heq
        · exact .inr (.inl (by omega))
      · exact .inr (.inr hm)
    · rintro (rfl | hm | hm)
      · exact .inl (by omega)
      · exact .inl (by omega)
      · exact .inr hm

/-- A number just above a range makes it longer. -/
theorem placed_over (h : Separated (a ++ y :: b)) (hy : y.largest + 1 = n)
    (ha : ∀ x ∈ a, n + 1 < x.smallest) :
    Placed (a ++ y :: b) n (a ++ ⟨y.smallest, n⟩ :: b) where
  separated := by
    have hne := h.nonempty y (by simp)
    refine (h.sublist ?_).insert ?_ ha h.below
    · exact (List.Sublist.refl a).append (List.sublist_cons_self y b)
    · change y.smallest ≤ n
      omega
  mem m := by
    have hne := h.nonempty y (by simp)
    rw [mem_insert, mem_insert]
    simp only [ClosedRange.Has]
    constructor
    · rintro (hm | hm)
      · by_cases heq : m = n
        · exact .inl heq
        · exact .inr (.inl (by omega))
      · exact .inr (.inr hm)
    · rintro (rfl | hm | hm)
      · exact .inl (by omega)
      · exact .inl (by omega)
      · exact .inr hm

/-- A number that is all there is between two ranges joins them. -/
theorem placed_between (h : Separated (a ++ x :: y :: b)) (hx : x.smallest = n + 1)
    (hy : y.largest + 1 = n) :
    Placed (a ++ x :: y :: b) n (a ++ ⟨y.smallest, x.largest⟩ :: b) where
  separated := by
    have hnex := h.nonempty x (by simp)
    have hney := h.nonempty y (by simp)
    have hy' : Separated ((a ++ [x]) ++ y :: b) := by
      rw [List.append_assoc]
      exact h
    refine (h.sublist ?_).insert ?_ h.above hy'.below
    · refine (List.Sublist.refl a).append ?_
      exact (List.sublist_cons_self y b).trans (List.sublist_cons_self x (y :: b))
    · change y.smallest ≤ x.largest
      omega
  mem m := by
    have hnex := h.nonempty x (by simp)
    have hney := h.nonempty y (by simp)
    have hsplit : Mem (a ++ x :: y :: b) m ↔ x.Has m ∨ y.Has m ∨ Mem (a ++ b) m := by
      rw [mem_insert, mem_insert]
    rw [mem_insert, hsplit]
    simp only [ClosedRange.Has]
    constructor
    · rintro (hm | hm)
      · rcases Nat.lt_trichotomy m n with hlt | heq | hgt
        · exact .inr (.inr (.inl (by omega)))
        · exact .inl heq
        · exact .inr (.inl (by omega))
      · exact .inr (.inr (.inr hm))
    · rintro (rfl | hm | hm | hm)
      · exact .inl (by omega)
      · exact .inl (by omega)
      · exact .inl (by omega)
      · exact .inr hm

end Placed

end RangeList
