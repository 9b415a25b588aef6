import Mathlib.Tactic

/-!
# Requests and answers

A state that answers requests, one after the other. Where a relation between two states is kept by
every request, and both answer it alike, they answer any requests alike.
-/

namespace Answering

variable {ρ α ε σ τ : Type}

/-- The state after some requests, and the answers to them. -/
def run (serve : ρ → σ → σ × α) : List ρ → σ → σ × List α
  | [], s => (s, [])
  | r :: rs, s =>
    let (s, a) := serve r s
    let (s, as) := run serve rs s
    (s, a :: as)

/-- The state after a request that may be refused, which leaves the state as it was. -/
def settle (s : σ) : Except ε σ → σ × Option ε
  | .ok s' => (s', none)
  | .error e => (s, some e)

/-- Both are granted, with states in the relation, or both are refused for one reason. -/
def Settled (R : σ → τ → Prop) : Except ε σ → Except ε τ → Prop
  | .ok s, .ok t => R s t
  | .error e, .error e' => e = e'
  | _, _ => False

/-- What is known of the states that are granted goes with the relation. -/
lemma Settled.settle {R : σ → τ → Prop} {Q : σ → Prop} {s : σ} {t : τ} {x : Except ε σ}
    {y : Except ε τ} (h : Settled R x y) (hQ : ∀ s', x = .ok s' → Q s') (hs : Q s ∧ R s t) :
    (Q (Answering.settle s x).1 ∧ R (Answering.settle s x).1 (Answering.settle t y).1) ∧
      (Answering.settle s x).2 = (Answering.settle t y).2 := by
  cases x with
  | ok s' =>
    cases y with
    | ok t' => exact ⟨⟨hQ s' rfl, h⟩, rfl⟩
    | error => exact h.elim
  | error e =>
    cases y with
    | ok => exact h.elim
    | error e' => exact ⟨hs, congrArg some h⟩

/-- Every request keeps the relation, and both answer it alike. -/
def Alike (R : σ → τ → Prop) (serve : ρ → σ → σ × α) (serve' : ρ → τ → τ × α) : Prop :=
  ∀ r s t, R s t → R (serve r s).1 (serve' r t).1 ∧ (serve r s).2 = (serve' r t).2

/-- Requests are answered alike, and the relation holds in the end. -/
theorem Alike.run {R : σ → τ → Prop} {serve : ρ → σ → σ × α} {serve' : ρ → τ → τ × α}
    (h : Alike R serve serve') (rs : List ρ) {s : σ} {t : τ} (hR : R s t) :
    R (Answering.run serve rs s).1 (Answering.run serve' rs t).1 ∧
      (Answering.run serve rs s).2 = (Answering.run serve' rs t).2 := by
  induction rs generalizing s t with
  | nil => exact ⟨hR, rfl⟩
  | cons r rs ih =>
    obtain ⟨hstep, hanswer⟩ := h r s t hR
    obtain ⟨hend, hanswers⟩ := ih hstep
    exact ⟨hend, congrArg₂ List.cons hanswer hanswers⟩

end Answering
