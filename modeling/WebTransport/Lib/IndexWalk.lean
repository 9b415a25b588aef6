import Mathlib.Tactic

/-!
# Walking a list by index while removing from it

A loop that walks a list with an index, calls a visitor on every entry that matches and
then removes the entry at the index, without advancing past what moved into its place. The
list is part of a larger state that the visitor may change, so the loop is only known to
return when the visitor is well behaved; it runs on fuel, and `none` stands for a loop that
does not return or that removes an entry which is not there.
-/

namespace IndexWalk

/-- What the loop works on: the list inside the state, how an entry is removed, which
entries match and what is done with one before it is removed. -/
structure Walk (S α : Type*) where
  items : S → List α
  remove : S → ℕ → Option S
  hit : α → Bool
  visit : S → ℕ → α → Option S

variable {S α : Type*} (w : Walk S α)

/-- The loop from index `i` on, counting the removed entries. -/
def run : ℕ → ℕ → ℕ → S → Option (S × ℕ)
  | 0, _, _, _ => none
  | fuel + 1, i, n, s =>
    match (w.items s)[i]? with
    | none => some (s, n)
    | some a =>
      if w.hit a then
        match w.visit s i a with
        | none => none
        | some s₁ =>
          match w.remove s₁ i with
          | none => none
          | some s₂ => run fuel i (n + 1) s₂
      else run fuel (i + 1) n s

/-- The states a loop passes through, with the entries it visits and removes on the way. -/
inductive Visits : S → List α → S → Prop
  | nil (s : S) : Visits s [] s
  | cons {s s₁ s₂ s' : S} {i : ℕ} {a : α} {as : List α} (hget : (w.items s)[i]? = some a)
      (hhit : w.hit a = true) (hvisit : w.visit s i a = some s₁)
      (hremove : w.remove s₁ i = some s₂) (h : Visits s₂ as s') : Visits s (a :: as) s'

/-- A property that every visit with its removal keeps holds of whatever a run returns. -/
theorem run_invariant {P : S → Prop}
    (hstep : ∀ s s₁ s₂ i a, P s → (w.items s)[i]? = some a → w.hit a = true →
      w.visit s i a = some s₁ → w.remove s₁ i = some s₂ → P s₂)
    {fuel i n : ℕ} {s : S} {r : S × ℕ} (h : run w fuel i n s = some r) (hs : P s) : P r.1 := by
  induction fuel generalizing i n s with
  | zero => cases h
  | succ fuel ih =>
    rw [run] at h
    split at h
    · obtain rfl := Option.some.inj h
      exact hs
    · rename_i a hget
      split at h
      · rename_i hhit
        split at h
        · cases h
        · rename_i s₁ hvisit
          split at h
          · cases h
          · rename_i s₂ hremove
            exact ih h (hstep s s₁ s₂ i a hs hget hhit hvisit hremove)
      · exact ih h hs

/-- Under `J` a visit of the first entry that matches returns, its entry can be removed, and
at most one entry that does not match is put at the end of the list. -/
def Gentle (J : S → Prop) : Prop :=
  ∀ s i a, J s → (w.items s)[i]? = some a → w.hit a = true →
    (∀ b ∈ (w.items s).take i, w.hit b = false) →
      ∃ s₁ s₂ extra, w.visit s i a = some s₁ ∧ w.remove s₁ i = some s₂ ∧
        w.items s₂ = (w.items s).eraseIdx i ++ extra ∧ extra.length ≤ 1 ∧
        (∀ b ∈ extra, w.hit b = false) ∧ J s₂

/-- How many steps the loop still has to take from index `i`. -/
def cost (xs : List α) : ℕ := 2 * (xs.filter w.hit).length + xs.length

/-- A loop with a gentle visitor returns: it visits the matching entries in order, removes
exactly those, and keeps the others in their order. -/
theorem run_returns {J : S → Prop} (hg : Gentle w J) {fuel i n : ℕ} {s : S} (hs : J s)
    (hi : i ≤ (w.items s).length) (hfirst : ∀ b ∈ (w.items s).take i, w.hit b = false)
    (hfuel : cost w ((w.items s).drop i) < fuel) :
    ∃ s' extra, run w fuel i n s =
        some (s', n + (((w.items s).drop i).filter w.hit).length) ∧
      Visits w s (((w.items s).drop i).filter w.hit) s' ∧
      w.items s' = (w.items s).take i ++ ((w.items s).drop i).filter (fun a => !w.hit a) ++ extra ∧
      (∀ b ∈ extra, w.hit b = false) ∧ J s' := by
  induction fuel generalizing i n s with
  | zero => omega
  | succ fuel ih =>
    cases hget : (w.items s)[i]? with
    | none =>
      have hnil : (w.items s).drop i = [] :=
        List.drop_eq_nil_of_le (List.getElem?_eq_none_iff.mp hget)
      have htake : (w.items s).take i = w.items s :=
        List.take_of_length_le (List.getElem?_eq_none_iff.mp hget)
      refine ⟨s, [], ?_, ?_, ?_, by simp, hs⟩
      · simp [run, hget, hnil]
      · rw [hnil]
        exact Visits.nil s
      · simp [hnil, htake]
    | some a =>
      obtain ⟨hlt, ha⟩ := List.getElem?_eq_some_iff.mp hget
      have hdrop : (w.items s).drop i = a :: (w.items s).drop (i + 1) := by
        rw [List.drop_eq_getElem_cons hlt, ha]
      by_cases hhit : w.hit a = true
      · obtain ⟨s₁, s₂, extra, hvisit, hremove, hitems, hone, hextra, hJ⟩ :=
          hg s i a hs hget hhit hfirst
        have herase : (w.items s).eraseIdx i =
            (w.items s).take i ++ (w.items s).drop (i + 1) := List.eraseIdx_eq_take_drop_succ ..
        have hlen : ((w.items s).take i).length = i := by
          rw [List.length_take]
          omega
        have htake₂ : (w.items s₂).take i = (w.items s).take i := by
          rw [hitems, herase, List.append_assoc, List.take_left' hlen]
        have hdrop₂ : (w.items s₂).drop i = (w.items s).drop (i + 1) ++ extra := by
          rw [hitems, herase, List.append_assoc, List.drop_left' hlen]
        have hnone : extra.filter w.hit = [] := by
          rw [List.filter_eq_nil_iff]
          intro b hb
          simp [hextra b hb]
        have hall : extra.filter (fun b => !w.hit b) = extra := by
          rw [List.filter_eq_self]
          intro b hb
          simp [hextra b hb]
        have hi₂ : i ≤ (w.items s₂).length := by
          rw [hitems, herase, List.length_append, List.length_append, hlen]
          omega
        have hcost : cost w ((w.items s₂).drop i) < fuel := by
          rw [hdrop] at hfuel
          rw [hdrop₂]
          simp only [cost, List.filter_cons, hhit, if_true, List.filter_append, hnone,
            List.length_cons, List.length_append, List.length_nil] at hfuel ⊢
          omega
        obtain ⟨s', more, hrun, hvisits, hitems', hmore, hJ'⟩ :=
          ih (n := n + 1) hJ hi₂ (by rwa [htake₂]) hcost
        rw [hdrop₂, List.filter_append, hnone, List.append_nil] at hrun hvisits
        rw [hdrop₂, htake₂, List.filter_append, hall] at hitems'
        refine ⟨s', extra ++ more, ?_, ?_, ?_, ?_, hJ'⟩
        · rw [run, hget]
          simp only [hhit, if_true, hvisit, hremove]
          rw [hrun, hdrop, List.filter_cons, if_pos hhit, List.length_cons]
          congr 2
          omega
        · rw [hdrop, List.filter_cons, if_pos hhit]
          exact Visits.cons hget hhit hvisit hremove hvisits
        · rw [hitems', hdrop, List.filter_cons, if_neg (by simp [hhit])]
          simp
        · intro b hb
          rcases List.mem_append.mp hb with hb | hb
          · exact hextra b hb
          · exact hmore b hb
      · have hcost : cost w ((w.items s).drop (i + 1)) < fuel := by
          rw [hdrop] at hfuel
          simp only [cost, List.filter_cons, hhit, List.length_cons] at hfuel ⊢
          simp only [Bool.false_eq_true, if_false] at hfuel
          omega
        have hfirst' : ∀ b ∈ (w.items s).take (i + 1), w.hit b = false := by
          intro b hb
          rw [← List.take_append_getElem hlt, ha, List.mem_append, List.mem_singleton] at hb
          rcases hb with hb | rfl
          · exact hfirst b hb
          · simpa using hhit
        obtain ⟨s', extra, hrun, hvisits, hitems', hextra, hJ'⟩ := ih (n := n) hs hlt hfirst' hcost
        refine ⟨s', extra, ?_, ?_, ?_, hextra, hJ'⟩
        · rw [run, hget]
          simp only [hhit, Bool.false_eq_true, if_false]
          rw [hrun, hdrop, List.filter_cons, if_neg hhit]
        · rw [hdrop, List.filter_cons, if_neg hhit]
          exact hvisits
        · rw [hitems', hdrop, List.filter_cons, if_pos (by simp [hhit]), ← List.take_append_getElem hlt,
            ha]
          simp

/-- A loop over a list in which nothing matches returns the state it was given. -/
theorem run_of_none {fuel : ℕ} {s : S} (hs : ∀ a ∈ w.items s, w.hit a = false)
    (hfuel : (w.items s).length < fuel) : run w fuel 0 0 s = some (s, 0) := by
  have hnone : (w.items s).filter w.hit = [] := by
    rw [List.filter_eq_nil_iff]
    intro a ha
    simp [hs a ha]
  have hgentle : Gentle w (· = s) := by
    rintro _ i a rfl hget hhit
    rw [hs a (List.mem_of_getElem? hget)] at hhit
    cases hhit
  have hcost : cost w ((w.items s).drop 0) < fuel := by simpa [cost, hnone] using hfuel
  obtain ⟨s', extra, hrun, -, -, -, rfl⟩ :=
    run_returns w hgentle (n := 0) rfl (Nat.zero_le _) (by simp) hcost
  simpa [hnone] using hrun

/-- More fuel, and a visitor that returns whenever the old one does, change no result. -/
theorem run_mono (w' : Walk S α) (hitems : w'.items = w.items) (hremove : w'.remove = w.remove)
    (hhit : w'.hit = w.hit)
    (hvisit : ∀ s i a s₁, w.visit s i a = some s₁ → w'.visit s i a = some s₁)
    {fuel fuel' i n : ℕ} (hle : fuel ≤ fuel') {s : S} {r : S × ℕ}
    (h : run w fuel i n s = some r) : run w' fuel' i n s = some r := by
  induction fuel generalizing fuel' i n s with
  | zero => cases h
  | succ fuel ih =>
    obtain ⟨m, rfl⟩ : ∃ m, fuel' = m + 1 := ⟨fuel' - 1, by omega⟩
    have hle' : fuel ≤ m := by omega
    rw [run] at h ⊢
    rw [hitems, hremove, hhit]
    split at h
    · exact h
    · rename_i a hget
      split at h
      · rename_i ha
        split at h
        · cases h
        · rename_i s₁ hv
          split at h
          · cases h
          · rename_i s₂ hr
            simp only [ha, if_true, hvisit _ _ _ _ hv, hr]
            exact ih hle' h
      · rename_i ha
        simp only [ha, Bool.false_eq_true, if_false]
        exact ih hle' h

end IndexWalk
