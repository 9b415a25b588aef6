import Mathlib.Tactic

/-!
# Loops on fuel

A loop given by one step, which either goes on from another state or returns. It runs on
fuel, and what every step keeps holds of whatever it returns.
-/

namespace Loop

variable {σ ρ : Type*}

/-- The loop with `fuel` steps, `none` when they do not suffice. -/
def run (step : σ → σ ⊕ ρ) : ℕ → σ → Option ρ
  | 0, _ => none
  | fuel + 1, s =>
    match step s with
    | .inl s' => run step fuel s'
    | .inr r => some r

/-- An invariant of the steps that go on, and a postcondition of those that return, hold of
whatever a run returns. -/
theorem run_invariant {step : σ → σ ⊕ ρ} {I : σ → Prop} {Q : ρ → Prop}
    (hnext : ∀ s s', I s → step s = .inl s' → I s')
    (hdone : ∀ s r, I s → step s = .inr r → Q r) {fuel : ℕ} {s : σ} {r : ρ} (hs : I s)
    (h : run step fuel s = some r) : Q r := by
  induction fuel generalizing s with
  | zero => cases h
  | succ fuel ih =>
    rw [run] at h
    cases hstep : step s with
    | inl s' =>
      rw [hstep] at h
      exact ih (hnext s s' hs hstep) h
    | inr r' =>
      rw [hstep] at h
      cases h
      exact hdone s r hs hstep

end Loop
