import Mathlib.Logic.Basic

/-!
# Chains of checks

A decoder is a chain of checks and of smaller decoders. It accepts what passes every one of them;
the rules take one link off the front of a chain.
-/

namespace Guard

variable {ε : Type*} {α β : Type} {c : Prop} [Decidable c] {e : ε} {a : α}

lemma of_ok {x : Except ε α} (h : (if c then .error e else x) = .ok a) : ¬c ∧ x = .ok a := by
  by_cases hc : c
  · rw [if_pos hc] at h
    cases h
  · rw [if_neg hc] at h
    exact ⟨hc, h⟩

/-- A smaller decoder that accepted something. -/
lemma of_bind_ok {x : Except ε β} {f : β → Except ε α} (h : (x >>= f) = .ok a) :
    ∃ b, x = .ok b ∧ f b = .ok a := by
  cases x with
  | error e => cases h
  | ok b => exact ⟨b, rfl, h⟩

end Guard
