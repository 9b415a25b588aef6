import Mathlib.Data.List.Dedup

/-!
# Lists with keys

Lists in which no two items have the same key. Changing or removing the item found by its key
changes or removes what has that key, and nothing else. The keys of a sequence of events in the
order of their first occurrences are what is left of the sequence when every later occurrence is
taken out.
-/

namespace KeyedList

variable {α κ : Type*} [DecidableEq κ] {key : α → κ} {l : List α} {a : κ} {i : ℕ}

/-- The item at the place where a key is found has it, and no other item has. -/
lemma split_of_findIdx (hkeys : (l.map key).Nodup)
    (hi : l.findIdx? (fun x => key x = a) = some i) :
    ∃ l₁ x l₂, l = l₁ ++ x :: l₂ ∧ l₁.length = i ∧ key x = a ∧
      (∀ y ∈ l₁, key y ≠ a) ∧ ∀ y ∈ l₂, key y ≠ a := by
  obtain ⟨hlt, hx, -⟩ := List.findIdx?_eq_some_iff_getElem.mp hi
  have hkey : key l[i] = a := of_decide_eq_true hx
  have hsplit : l = l.take i ++ l[i] :: l.drop (i + 1) := by
    rw [List.getElem_cons_drop, List.take_append_drop]
  rw [hsplit, List.map_append, List.map_cons, List.nodup_middle, List.nodup_cons,
    List.mem_append, not_or, hkey] at hkeys
  obtain ⟨⟨hbefore, hafter⟩, -⟩ := hkeys
  refine ⟨l.take i, l[i], l.drop (i + 1), hsplit, ?_, hkey, ?_, ?_⟩
  · exact List.length_take_of_le (Nat.le_of_lt hlt)
  · rintro y hy rfl
    exact hbefore (List.mem_map_of_mem hy)
  · rintro y hy rfl
    exact hafter (List.mem_map_of_mem hy)

/-- Changing the item with a key. -/
theorem modify_eq_map (hkeys : (l.map key).Nodup)
    (hi : l.findIdx? (fun x => key x = a) = some i) (f : α → α) :
    l.modify i f = l.map fun x => if key x = a then f x else x := by
  obtain ⟨l₁, x, l₂, rfl, rfl, hx, hbefore, hafter⟩ := split_of_findIdx hkeys hi
  have hsame : ∀ {m : List α}, (∀ y ∈ m, key y ≠ a) →
      m.map (fun x => if key x = a then f x else x) = m := by
    intro m hm
    refine (List.map_congr_left fun y hy => if_neg (hm y hy)).trans (List.map_id m)
  rw [List.map_append, List.map_cons, hsame hbefore, hsame hafter, if_pos hx]
  rw [List.modify_eq_take_drop, List.take_left, List.drop_left, List.modifyHead_cons]

/-- Removing the item with a key. -/
theorem eraseIdx_eq_filter (hkeys : (l.map key).Nodup)
    (hi : l.findIdx? (fun x => key x = a) = some i) :
    l.eraseIdx i = l.filter fun x => key x ≠ a := by
  obtain ⟨l₁, x, l₂, rfl, rfl, hx, hbefore, hafter⟩ := split_of_findIdx hkeys hi
  have hsame : ∀ {m : List α}, (∀ y ∈ m, key y ≠ a) →
      m.filter (fun x => key x ≠ a) = m := by
    intro m hm
    exact List.filter_eq_self.mpr fun y hy => decide_eq_true (hm y hy)
  rw [List.filter_append, List.filter_cons, hsame hbefore, hsame hafter,
    List.eraseIdx_append_of_length_le (Nat.le_refl _), Nat.sub_self, List.eraseIdx_cons_zero,
    if_neg]
  simp [hx]

/-- The keys of some events, each where it occurs first. -/
def arrivals (events : List κ) : List κ := events.reverse.dedup.reverse

@[simp] lemma arrivals_nil : arrivals ([] : List κ) = [] := rfl

lemma mem_arrivals {events : List κ} : a ∈ arrivals events ↔ a ∈ events := by
  simp [arrivals]

lemma nodup_arrivals (events : List κ) : (arrivals events).Nodup :=
  List.nodup_reverse.mpr (List.nodup_dedup _)

lemma arrivals_again {events : List κ} (h : a ∈ events) :
    arrivals (events ++ [a]) = arrivals events := by
  rw [arrivals, List.reverse_append, List.reverse_singleton, List.singleton_append,
    List.dedup_cons_of_mem (List.mem_reverse.mpr h), arrivals]

/-- A key that occurs for the first time comes last. -/
lemma arrivals_new {events : List κ} (h : a ∉ events) :
    arrivals (events ++ [a]) = arrivals events ++ [a] := by
  rw [arrivals, List.reverse_append, List.reverse_singleton, List.singleton_append,
    List.dedup_cons_of_notMem fun hmem => h (List.mem_reverse.mp hmem), List.reverse_cons,
    arrivals]

end KeyedList
