import Mathlib.Tactic

/-!
# The earliest of several deadlines

A timer is set by going through deadlines one after the other, with the shortest delay found so
far at hand, and stops at the first deadline that has already passed.
-/

namespace Deadline

variable {now : ℕ}

/-- The shorter of a delay and the shortest so far. -/
def earlier (earliest : Option ℕ) (delay : ℕ) : Option ℕ :=
  match earliest with
  | none => some delay
  | some e => some (if delay < e then delay else e)

/-- Take a deadline into account; `none` when it has passed. -/
def arm (now : ℕ) (earliest : Option ℕ) (deadline : ℕ) : Option (Option ℕ) :=
  if deadline ≤ now then none else some (earlier earliest (deadline - now))

/-- Deadlines that are all ahead leave the delay to the first of them, and one that has passed
stops the search. -/
theorem foldlM_arm (ds : List ℕ) (earliest : Option ℕ) :
    (ds.foldlM (arm now) earliest = none ∧ ∃ d ∈ ds, d ≤ now) ∨
      (ds.foldlM (arm now) earliest = some earliest ∧ ds = []) ∨
      ∃ delay, ds.foldlM (arm now) earliest = some (some delay) ∧
        (∀ d ∈ ds, now + delay ≤ d) ∧ (∀ e, earliest = some e → delay ≤ e) ∧
        ((∃ d ∈ ds, d = now + delay) ∨ earliest = some delay) := by
  induction ds generalizing earliest with
  | nil => exact .inr (.inl ⟨rfl, rfl⟩)
  | cons d ds ih =>
    rw [List.foldlM_cons, arm]
    split
    · rename_i hpast
      exact .inl ⟨rfl, d, List.mem_cons_self, hpast⟩
    · rename_i hahead
      rw [Option.bind_eq_bind, Option.bind_some]
      obtain ⟨e, he, hle, hmin, hfrom⟩ : ∃ e, earlier earliest (d - now) = some e ∧ e ≤ d - now ∧
          (∀ x, earliest = some x → e ≤ x) ∧ (e = d - now ∨ earliest = some e) := by
        cases earliest with
        | none => exact ⟨d - now, rfl, le_rfl, by simp, .inl rfl⟩
        | some x =>
          refine ⟨_, rfl, ?_, ?_, ?_⟩
          · split <;> omega
          · intro y hy
            obtain rfl := Option.some.inj hy
            split <;> omega
          · split
            · exact .inl rfl
            · exact .inr rfl
      rcases ih (earlier earliest (d - now)) with ⟨hnone, x, hx, hpast⟩ | ⟨hsome, rfl⟩ |
        ⟨delay, hsome, hall, hbound, horigin⟩
      · exact .inl ⟨hnone, x, List.mem_cons_of_mem _ hx, hpast⟩
      · refine .inr (.inr ⟨e, by rw [hsome, he], ?_, hmin, ?_⟩)
        · intro x hx
          rw [List.mem_singleton.mp hx]
          omega
        · rcases hfrom with rfl | hfrom
          · exact .inl ⟨d, List.mem_cons_self, by omega⟩
          · exact .inr hfrom
      · have hdelay : delay ≤ e := hbound e he
        refine .inr (.inr ⟨delay, hsome, ?_, fun x hx => hdelay.trans (hmin x hx), ?_⟩)
        · intro x hx
          rcases List.mem_cons.mp hx with rfl | hx
          · omega
          · exact hall x hx
        · rcases horigin with ⟨x, hx, heq⟩ | horigin
          · exact .inl ⟨x, List.mem_cons_of_mem _ hx, heq⟩
          · rw [he] at horigin
            obtain rfl := Option.some.inj horigin
            rcases hfrom with rfl | hfrom
            · exact .inl ⟨d, List.mem_cons_self, by omega⟩
            · exact .inr hfrom

end Deadline
