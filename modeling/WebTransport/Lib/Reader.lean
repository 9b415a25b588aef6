import Mathlib.Data.List.Basic

/-!
# Readers of a stream that arrives in pieces

A reader takes an item off the front of its input and answers what it read with the input it
left, or an error. One of the errors says that the input is too short. A reader is stable when
more input changes nothing but this answer. A step reads one instruction and applies it to a
state; a stable step can be run over a stream that is cut anywhere, with the input it left in
front of the next piece.
-/

namespace Reader

variable {α β γ ε σ : Type}

/-- What was read is a beginning of the input, and what comes after it makes no difference. An
error stands as well, unless the input was too short. -/
structure Stable (short : ε) (read : List α → Except ε (β × List α)) : Prop where
  ok : ∀ {x : List α} {b : β} {rest : List α}, read x = .ok (b, rest) →
    ∃ p, x = p ++ rest ∧ ∀ y, read (p ++ y) = .ok (b, y)
  error : ∀ {x : List α} {e : ε}, read x = .error e → e ≠ short →
    ∀ y, read (x ++ y) = .error e

section Stable

variable {short : ε} {read : List α → Except ε (β × List α)}

/-- A reader that answers an error to no input takes some. -/
lemma Stable.part (h : Stable short read) {e : ε} (hnil : read [] = .error e) {x rest : List α}
    {b : β} (hx : read x = .ok (b, rest)) :
    ∃ p, p ≠ [] ∧ x = p ++ rest ∧ ∀ y, read (p ++ y) = .ok (b, y) := by
  obtain ⟨p, hp, hread⟩ := h.ok hx
  refine ⟨p, ?_, hp, hread⟩
  rintro rfl
  have hempty := hread []
  rw [List.nil_append, hnil] at hempty
  cases hempty

/-- A beginning of what is read whole is too short. -/
lemma Stable.short_of_part (h : Stable short read) {x y : List α} {b : β}
    (hxy : read (x ++ y) = .ok (b, [])) (hy : y ≠ []) : read x = .error short := by
  cases hx : read x with
  | error e =>
    by_contra hne
    have hstands := h.error hx (fun he => hne (congrArg Except.error he)) y
    rw [hxy] at hstands
    cases hstands
  | ok r =>
    obtain ⟨b', rest⟩ := r
    obtain ⟨p, rfl, hp⟩ := h.ok hx
    rw [List.append_assoc, hp] at hxy
    cases hrest : rest ++ y with
    | nil => exact absurd (List.append_eq_nil_iff.mp hrest).2 hy
    | cons a c =>
      rw [hrest] at hxy
      cases hxy

end Stable

/-- One reader after another. -/
def andThen (read : List α → Except ε (β × List α))
    (next : β → List α → Except ε (γ × List α)) (x : List α) : Except ε (γ × List α) :=
  match read x with
  | .error e => .error e
  | .ok (b, rest) => next b rest

lemma Stable.andThen {short : ε} {read : List α → Except ε (β × List α)}
    {next : β → List α → Except ε (γ × List α)} (h : Stable short read)
    (hnext : ∀ b, Stable short (next b)) : Stable short (andThen read next) := by
  constructor
  · intro x c rest hx
    unfold Reader.andThen at hx
    cases hread : read x with
    | error e =>
      rw [hread] at hx
      cases hx
    | ok r =>
      obtain ⟨b, left⟩ := r
      rw [hread] at hx
      obtain ⟨p, rfl, hp⟩ := h.ok hread
      obtain ⟨q, rfl, hq⟩ := (hnext b).ok hx
      refine ⟨p ++ q, (List.append_assoc p q rest).symm, fun y => ?_⟩
      unfold Reader.andThen
      rw [List.append_assoc, hp]
      exact hq y
  · intro x e hx he y
    unfold Reader.andThen at hx ⊢
    cases hread : read x with
    | error e' =>
      rw [hread] at hx
      cases hx
      rw [h.error hread he y]
    | ok r =>
      obtain ⟨b, left⟩ := r
      rw [hread] at hx
      obtain ⟨p, rfl, hp⟩ := h.ok hread
      rw [List.append_assoc, hp]
      exact (hnext b).error hx he y

lemma stable_pure (short : ε) (b : β) :
    Stable short fun x : List α => (.ok (b, x) : Except ε (β × List α)) := by
  constructor
  · intro x b' rest hx
    cases hx
    exact ⟨[], rfl, fun y => rfl⟩
  · intro x e hx
    cases hx

lemma stable_refuse (short e : ε) :
    Stable short fun _ : List α => (.error e : Except ε (β × List α)) := by
  constructor
  · intro x b rest hx
    cases hx
  · intro x e' hx he y
    exact hx

/-- The errors of a reader under other names. -/
def mapError {ε' : Type} (f : ε → ε') (read : List α → Except ε (β × List α)) (x : List α) :
    Except ε' (β × List α) :=
  match read x with
  | .error e => .error (f e)
  | .ok r => .ok r

lemma Stable.mapError {ε' : Type} {short : ε} {read : List α → Except ε (β × List α)}
    (h : Stable short read) (f : ε → ε') : Stable (f short) (mapError f read) := by
  constructor
  · intro x b rest hx
    unfold Reader.mapError at hx
    cases hread : read x with
    | error e =>
      rw [hread] at hx
      cases hx
    | ok r =>
      rw [hread] at hx
      cases hx
      obtain ⟨p, hp, hmore⟩ := h.ok hread
      refine ⟨p, hp, fun y => ?_⟩
      rw [Reader.mapError, hmore]
  · intro x e hx he y
    unfold Reader.mapError at hx
    cases hread : read x with
    | error e' =>
      rw [hread] at hx
      cases hx
      rw [Reader.mapError, h.error hread (fun hshort => he (congrArg f hshort))]
    | ok r =>
      rw [hread] at hx
      cases hx

/-- Take so many elements. -/
def take (short : ε) (n : ℕ) (x : List α) : Except ε (List α × List α) :=
  if x.length < n then .error short else .ok (x.take n, x.drop n)

lemma stable_take (short : ε) (n : ℕ) : Stable short (take (α := α) short n) := by
  constructor
  · intro x b rest hx
    unfold take at hx
    by_cases hshort : x.length < n
    · rw [if_pos hshort] at hx
      cases hx
    · rw [if_neg hshort] at hx
      have hlength : (x.take n).length = n := List.length_take_of_le (Nat.not_lt.mp hshort)
      cases hx
      refine ⟨x.take n, (List.take_append_drop n x).symm, fun y => ?_⟩
      unfold take
      rw [if_neg (by rw [List.length_append]; omega), List.take_append_of_le_length (by omega),
        List.take_of_length_le (by omega), List.drop_append_of_le_length (by omega),
        List.drop_of_length_le (by omega), List.nil_append]
  · intro x e hx he y
    unfold take at hx
    split_ifs at hx
    cases hx
    exact absurd rfl he

/-- The first element decides how to read. -/
def byFirst (short : ε) (read : α → List α → Except ε (β × List α)) :
    List α → Except ε (β × List α)
  | [] => .error short
  | a :: c => read a (a :: c)

lemma stable_byFirst {short : ε} {read : α → List α → Except ε (β × List α)}
    (h : ∀ a, Stable short (read a)) (hnil : ∀ a, read a [] = .error short) :
    Stable short (byFirst short read) := by
  constructor
  · intro x b rest hx
    cases x with
    | nil => cases hx
    | cons a c =>
      obtain ⟨p, hne, hp, hread⟩ := (h a).part (hnil a) hx
      obtain ⟨a', p, rfl⟩ := List.exists_cons_of_ne_nil hne
      obtain rfl : a = a' := (List.cons.inj hp).1
      exact ⟨a :: p, hp, hread⟩
  · intro x e hx he y
    cases x with
    | nil =>
      cases hx
      exact absurd rfl he
    | cons a c => exact (h a).error hx he y

/-! ## Steps -/

/-- Read an instruction and apply it to a state. A refusal may come after the state was
changed. -/
abbrev Step (σ α ε : Type) := σ → List α → σ × Except ε (List α)

/-- What a step must do for a stream to be cut anywhere. -/
structure StableStep (short : ε) (step : Step σ α ε) : Prop where
  ok : ∀ {s s' : σ} {x rest : List α}, step s x = (s', .ok rest) →
    ∃ p, p ≠ [] ∧ x = p ++ rest ∧ ∀ y, step s (p ++ y) = (s', .ok y)
  error : ∀ {s s' : σ} {x : List α} {e : ε}, step s x = (s', .error e) → e ≠ short →
    ∀ y, step s (x ++ y) = (s', .error e)
  short : ∀ {s s' : σ} {x : List α}, step s x = (s', .error short) → s' = s

section StableStep

variable {short : ε} {step : Step σ α ε} {s s' : σ} {x rest : List α}

lemma StableStep.append (h : StableStep short step) (hstep : step s x = (s', .ok rest))
    (y : List α) : step s (x ++ y) = (s', .ok (rest ++ y)) := by
  obtain ⟨p, -, rfl, hp⟩ := h.ok hstep
  rw [List.append_assoc]
  exact hp (rest ++ y)

lemma StableStep.progress (h : StableStep short step) (hstep : step s x = (s', .ok rest)) :
    rest.length < x.length := by
  obtain ⟨p, hne, rfl, -⟩ := h.ok hstep
  have hpos := List.length_pos_of_ne_nil hne
  rw [List.length_append]
  omega

end StableStep

/-- How a run over some input ended: the state, the input left and the refusal. -/
structure Drained (σ α ε : Type) where
  state : σ
  tail : List α
  refusal : Option ε

variable [DecidableEq ε]

/-- Apply whole instructions until the input ends in the middle of one. Each takes input, so
`fuel` beyond the length of the input is enough. -/
def drain (short : ε) (step : Step σ α ε) : ℕ → σ → List α → Drained σ α ε
  | 0, s, x => ⟨s, x, none⟩
  | fuel + 1, s, x =>
    if x.isEmpty then ⟨s, x, none⟩
    else
      match step s x with
      | (s', .ok rest) => drain short step fuel s' rest
      | (s', .error e) => if e = short then ⟨s', x, none⟩ else ⟨s', x, some e⟩

section Drain

variable {short : ε} {step : Step σ α ε} {s s' : σ} {x y rest : List α}

lemma drain_nil (fuel : ℕ) (s : σ) : drain short step fuel s [] = ⟨s, [], none⟩ := by
  cases fuel with
  | zero => rfl
  | succ fuel => rw [drain, if_pos List.isEmpty_nil]

lemma drain_ok {fuel : ℕ} (hx : x ≠ []) (h : step s x = (s', .ok rest)) :
    drain short step (fuel + 1) s x = drain short step fuel s' rest := by
  rw [drain, if_neg (by simpa using hx), h]

lemma drain_short {fuel : ℕ} (h : step s x = (s', .error short)) :
    drain short step (fuel + 1) s x = if x = [] then ⟨s, x, none⟩ else ⟨s', x, none⟩ := by
  rw [drain, h]
  by_cases hx : x = []
  · rw [if_pos (by simpa using hx), if_pos hx]
  · rw [if_neg (by simpa using hx), if_neg hx]
    exact if_pos rfl

lemma drain_refused {fuel : ℕ} {e : ε} (hx : x ≠ []) (h : step s x = (s', .error e))
    (he : e ≠ short) : drain short step (fuel + 1) s x = ⟨s', x, some e⟩ := by
  rw [drain, if_neg (by simpa using hx), h]
  exact if_neg he

lemma drain_invariant {P : σ → List α → Prop}
    (hok : ∀ {s s' x rest}, P s x → step s x = (s', .ok rest) → P s' rest)
    (herror : ∀ {s s' x e}, P s x → step s x = (s', .error e) → P s' x)
    (fuel : ℕ) (h : P s x) :
    P (drain short step fuel s x).state (drain short step fuel s x).tail := by
  induction fuel generalizing s x with
  | zero => exact h
  | succ fuel ih =>
    by_cases hx : x = []
    · subst hx
      rw [drain_nil]
      exact h
    · rcases hcall : step s x with ⟨s'', e | rest⟩
      · by_cases he : e = short
        · subst he
          rw [drain_short hcall, if_neg hx]
          exact herror h hcall
        · rw [drain_refused hx hcall he]
          exact herror h hcall
      · rw [drain_ok hx hcall]
        exact ih (hok h hcall)

variable (hstep : StableStep short step)
include hstep

lemma drain_tail_length {fuel : ℕ} {r : Drained σ α ε}
    (h : drain short step fuel s x = r) : r.tail.length ≤ x.length := by
  induction fuel generalizing s x with
  | zero =>
    subst h
    exact Nat.le_refl _
  | succ fuel ih =>
    by_cases hx : x = []
    · subst hx
      rw [drain_nil] at h
      subst h
      exact Nat.le_refl _
    · rcases hcall : step s x with ⟨s', e | rest⟩
      · by_cases he : e = short
        · subst he
          rw [drain_short hcall, if_neg hx] at h
          subst h
          exact Nat.le_refl _
        · rw [drain_refused hx hcall he] at h
          subst h
          exact Nat.le_refl _
      · have hshorter := hstep.progress hcall
        rw [drain_ok hx hcall] at h
        exact Nat.le_trans (ih h) (Nat.le_of_lt hshorter)

lemma drain_fuel {fuel fuel' : ℕ} (hfuel : x.length < fuel) (hfuel' : x.length < fuel') :
    drain short step fuel s x = drain short step fuel' s x := by
  induction fuel generalizing s x fuel' with
  | zero => omega
  | succ fuel ih =>
    obtain ⟨fuel', rfl⟩ : ∃ n, fuel' = n + 1 := ⟨fuel' - 1, by omega⟩
    by_cases hx : x = []
    · subst hx
      rw [drain_nil, drain_nil]
    · rcases hcall : step s x with ⟨s', e | rest⟩
      · rw [drain, drain, hcall]
      · have hshorter := hstep.progress hcall
        rw [drain_ok hx hcall, drain_ok hx hcall]
        exact ih (by omega) (by omega)

/-- A run over two parts is the run over the first and, unless that was refused, the run over
what it left with the second. -/
lemma drain_append {fuel fuel' : ℕ} (hfuel : (x ++ y).length < fuel)
    (hfuel' : x.length < fuel') :
    drain short step fuel s (x ++ y) =
      match drain short step fuel' s x with
      | ⟨s', tail, none⟩ => drain short step fuel s' (tail ++ y)
      | ⟨s', tail, some e⟩ => ⟨s', tail ++ y, some e⟩ := by
  induction fuel' generalizing s x fuel with
  | zero => omega
  | succ fuel' ih =>
    by_cases hx : x = []
    · subst hx
      rw [drain_nil]
    · have hxy : x ++ y ≠ [] := List.append_ne_nil_of_left_ne_nil hx y
      rcases hcall : step s x with ⟨s', e | rest⟩
      · by_cases he : e = short
        · subst he
          obtain rfl := hstep.short hcall
          rw [drain_short hcall, if_neg hx]
        · obtain ⟨fuel, rfl⟩ : ∃ n, fuel = n + 1 := ⟨fuel - 1, by omega⟩
          rw [drain_refused hx hcall he, drain_refused hxy (hstep.error hcall he y) he]
      · have hshorter := hstep.progress hcall
        obtain ⟨fuel, rfl⟩ : ∃ n, fuel = n + 1 := ⟨fuel - 1, by omega⟩
        rw [List.length_append] at hfuel
        rw [drain_ok hx hcall, drain_ok hxy (hstep.append hcall y)]
        have hlength : (rest ++ y).length < fuel := by
          rw [List.length_append]
          omega
        rw [ih hlength (by omega)]
        rcases hdrain : drain short step fuel' s' rest with ⟨s'', tail, refusal⟩
        cases refusal with
        | some e => rfl
        | none =>
          have hlen := drain_tail_length hstep hdrain
          dsimp only at hlen
          apply drain_fuel hstep
          · rw [List.length_append]
            omega
          · rw [List.length_append]
            omega

/-- What was applied is a beginning of the input, and it is applied alike on its own. -/
lemma drain_part {fuel : ℕ} {tail : List α} (h : drain short step fuel s x = ⟨s', tail, none⟩)
    (hfuel : x.length < fuel) :
    ∃ p, x = p ++ tail ∧ drain short step fuel s p = ⟨s', [], none⟩ := by
  induction fuel generalizing s x with
  | zero => omega
  | succ fuel ih =>
    by_cases hx : x = []
    · subst hx
      rw [drain_nil] at h
      cases h
      exact ⟨[], rfl, drain_nil _ _⟩
    · rcases hcall : step s x with ⟨s'', e | rest⟩
      · by_cases he : e = short
        · subst he
          obtain rfl := hstep.short hcall
          rw [drain_short hcall, if_neg hx] at h
          cases h
          exact ⟨[], rfl, drain_nil _ _⟩
        · rw [drain_refused hx hcall he] at h
          cases h
      · have hshorter := hstep.progress hcall
        obtain ⟨p, hne, rfl, hp⟩ := hstep.ok hcall
        rw [drain_ok hx hcall] at h
        obtain ⟨q, rfl, hq⟩ := ih h (by omega)
        refine ⟨p ++ q, (List.append_assoc p q tail).symm, ?_⟩
        rw [drain_ok (List.append_ne_nil_of_left_ne_nil hne q) (hp q)]
        exact hq

end Drain

/-! ## Runs -/

/-- Apply all the whole instructions of some input. -/
def run (short : ε) (step : Step σ α ε) (s : σ) (x : List α) : Drained σ α ε :=
  drain short step (x.length + 1) s x

section Run

variable {short : ε} {step : Step σ α ε} {s s' : σ} {x y tail : List α}

lemma run_nil : run short step s [] = ⟨s, [], none⟩ := drain_nil _ _

lemma run_stops {e : ε} (hx : x ≠ []) (h : step s x = (s', .error e)) :
    run short step s x = ⟨s', x, if e = short then none else some e⟩ := by
  by_cases he : e = short
  · subst he
    rw [run, drain_short h, if_neg hx, if_pos rfl]
  · rw [run, drain_refused hx h he, if_neg he]

lemma run_invariant {P : σ → List α → Prop}
    (hok : ∀ {s s' x rest}, P s x → step s x = (s', .ok rest) → P s' rest)
    (herror : ∀ {s s' x e}, P s x → step s x = (s', .error e) → P s' x) (h : P s x) :
    P (run short step s x).state (run short step s x).tail :=
  drain_invariant hok herror _ h

variable (hstep : StableStep short step)
include hstep

lemma run_ok {rest : List α} (hx : x ≠ []) (h : step s x = (s', .ok rest)) :
    run short step s x = run short step s' rest := by
  have hshorter := hstep.progress h
  rw [run, drain_ok hx h]
  exact drain_fuel hstep hshorter (Nat.lt_succ_self _)

/-- **A stream that is cut.** A run over the whole input is the run over its first part and,
unless that was refused, the run over what it left with the second part. -/
theorem run_append (x y : List α) :
    run short step s (x ++ y) =
      match run short step s x with
      | ⟨s', tail, none⟩ => run short step s' (tail ++ y)
      | ⟨s', tail, some e⟩ => ⟨s', tail ++ y, some e⟩ := by
  rw [run, drain_append hstep (Nat.lt_succ_self _) (Nat.lt_succ_self _)]
  change (match run short step s x with
    | ⟨s', tail, none⟩ => drain short step ((x ++ y).length + 1) s' (tail ++ y)
    | ⟨s', tail, some e⟩ => ⟨s', tail ++ y, some e⟩) = _
  rcases hrun : run short step s x with ⟨s', tail, refusal⟩
  cases refusal with
  | some e => rfl
  | none =>
    have hlen := drain_tail_length hstep hrun
    dsimp only at hlen ⊢
    apply drain_fuel hstep
    · rw [List.length_append, List.length_append]
      omega
    · exact Nat.lt_succ_self _

/-- What a run applied is a beginning of its input, and it is applied alike on its own. -/
theorem run_part (h : run short step s x = ⟨s', tail, none⟩) :
    ∃ p, x = p ++ tail ∧ run short step s p = ⟨s', [], none⟩ := by
  obtain ⟨p, rfl, hp⟩ := drain_part hstep h (Nat.lt_succ_self _)
  refine ⟨p, rfl, ?_⟩
  rw [run, ← hp]
  apply drain_fuel hstep (Nat.lt_succ_self _)
  rw [List.length_append]
  omega

/-- What was applied is applied alike whatever comes after it. -/
theorem run_whole (h : run short step s x = ⟨s', [], none⟩) (y : List α) :
    run short step s (x ++ y) = run short step s' y := by
  rw [run_append hstep, h]
  rfl

/-- Before a refusal comes a beginning that was applied, and then the instruction refused. -/
theorem run_refusal {e : ε} (h : run short step s x = ⟨s', tail, some e⟩) :
    ∃ p s'', x = p ++ tail ∧ run short step s p = ⟨s'', [], none⟩ ∧ tail ≠ [] ∧
      step s'' tail = (s', .error e) ∧ e ≠ short := by
  induction hlength : x.length using Nat.strongRecOn generalizing s x with
  | _ n ih =>
    subst hlength
    by_cases hx : x = []
    · subst hx
      rw [run_nil] at h
      cases h
    · rcases hcall : step s x with ⟨s'', e' | rest⟩
      · rw [run_stops hx hcall] at h
        by_cases he : e' = short
        · rw [if_pos he] at h
          cases h
        · rw [if_neg he] at h
          cases h
          exact ⟨[], s, rfl, run_nil, hx, hcall, he⟩
      · have hshorter := hstep.progress hcall
        rw [run_ok hstep hx hcall] at h
        obtain ⟨p, hne, rfl, hp⟩ := hstep.ok hcall
        obtain ⟨q, s₁, rfl, hq, hrest⟩ := ih rest.length hshorter h rfl
        refine ⟨p ++ q, s₁, (List.append_assoc p q tail).symm, ?_, hrest⟩
        rw [run_ok hstep (List.append_ne_nil_of_left_ne_nil hne q) (hp q)]
        exact hq

end Run

end Reader
