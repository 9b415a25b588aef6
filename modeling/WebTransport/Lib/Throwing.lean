import Mathlib.Tactic

/-!
# Programs that throw

Programs on a state, which may throw and then keep what they changed before. `Ends` says what
holds where a program returns and where it throws, and its rules take a program apart as it is
written. A program stays within a step relation when the state it leaves, whether it returns or
throws, is reached by steps.
-/

namespace Throwing

variable {ε σ α β : Type}

/-- Where a chain of expressions gives a value, each of them does. -/
lemma bind_ok {x : Except ε α} {f : α → Except ε β} {b : β} (h : (x >>= f) = .ok b) :
    ∃ a, x = .ok a ∧ f a = .ok b := by
  cases x with
  | ok a => exact ⟨a, rfl, h⟩
  | error e => cases h

/-- What a look at the state gives, or throws. -/
def consult (f : σ → Except ε α) : EStateM ε σ α := fun s =>
  match f s with
  | .ok a => .ok a s
  | .error e => .error e s

/-- The result of an expression that throws. -/
def demand (r : Except ε α) : EStateM ε σ α := consult fun _ => r

/-- The state that a program leaves. -/
def after (x : EStateM ε σ α) (s : σ) : σ :=
  match x s with
  | .ok _ s' | .error _ s' => s'

/-- What a program returns, when it does. -/
def returned? (x : EStateM ε σ α) (s : σ) : Option α :=
  match x s with
  | .ok a _ => some a
  | .error .. => none

/-- What is returned in the end does not change the state. -/
lemma after_bind_pure (x : EStateM ε σ α) (g : α → β) (s : σ) :
    after (x >>= fun a => pure (g a)) s = after x s := by
  show after (EStateM.bind x fun a => pure (g a)) s = after x s
  unfold after EStateM.bind
  cases x s with
  | ok a s' => rfl
  | error e s' => rfl

/-- A look that throws ends the program. -/
lemma consult_bind_error {f : σ → Except ε α} {e : ε} {s : σ} (h : f s = .error e)
    (g : α → EStateM ε σ β) : (consult f >>= g) s = .error e s := by
  show EStateM.bind (consult f) g s = .error e s
  unfold EStateM.bind consult
  rw [h]

/-! ## What holds at the end -/

/-- From `s` the program throws in a state with `E`, or returns what satisfies `Q` in the state it
leaves. -/
def Ends (x : EStateM ε σ α) (s : σ) (E : ε → σ → Prop) (Q : α → σ → Prop) : Prop :=
  match x s with
  | .ok a s' => Q a s'
  | .error e s' => E e s'

namespace Ends

variable {x : EStateM ε σ α} {f : α → EStateM ε σ β} {s : σ} {E E' : ε → σ → Prop}
  {P P' : α → σ → Prop} {Q : β → σ → Prop}

lemma mono (h : Ends x s E P) (hE : ∀ e s', E e s' → E' e s') (hP : ∀ a s', P a s' → P' a s') :
    Ends x s E' P' := by
  unfold Ends at h ⊢
  cases hx : x s with
  | ok a s' =>
    rw [hx] at h
    exact hP a s' h
  | error e s' =>
    rw [hx] at h
    exact hE e s' h

/-- What holds at both ends holds of the state that is left. -/
lemma after {R : σ → Prop} (h : Ends x s (fun _ => R) fun _ => R) : R (after x s) := by
  unfold Ends at h
  unfold Throwing.after
  cases hx : x s with
  | ok a s' =>
    rw [hx] at h
    exact h
  | error e s' =>
    rw [hx] at h
    exact h

lemma returned {a : α} (h : Ends x s E P) (hx : returned? x s = some a) :
    P a (Throwing.after x s) := by
  unfold Ends at h
  unfold returned? at hx
  unfold Throwing.after
  cases hxs : x s with
  | ok b s' =>
    rw [hxs] at h hx
    obtain rfl := Option.some.inj hx
    exact h
  | error e s' =>
    rw [hxs] at hx
    cases hx

lemma cases {R : σ → Prop} (h : Ends x s (fun _ => R) P) :
    (returned? x s = none ∧ R (Throwing.after x s)) ∨
      ∃ a, returned? x s = some a ∧ P a (Throwing.after x s) := by
  unfold Ends at h
  unfold returned? Throwing.after
  cases hx : x s with
  | ok a s' =>
    rw [hx] at h
    exact .inr ⟨a, rfl, h⟩
  | error e s' =>
    rw [hx] at h
    exact .inl ⟨rfl, h⟩

lemma any : Ends x s (fun _ _ => True) fun _ _ => True := by
  unfold Ends
  split
  · trivial
  · trivial

lemma pure {a : α} (h : P a s) : Ends (Pure.pure a : EStateM ε σ α) s E P := h

lemma throw {e : ε} (h : E e s) : Ends (MonadExcept.throw e : EStateM ε σ α) s E P := h

lemma bind (hx : Ends x s E P) (hf : ∀ a s', P a s' → Ends (f a) s' E Q) :
    Ends (x >>= f) s E Q := by
  show match EStateM.bind x f s with
    | .ok a s' => Q a s'
    | .error e s' => E e s'
  unfold Ends at hx
  unfold EStateM.bind
  cases hxs : x s with
  | ok a s' =>
    rw [hxs] at hx
    exact hf a s' hx
  | error e s' =>
    rw [hxs] at hx
    exact hx

lemma map {g : α → β} (hx : Ends x s E fun a => Q (g a)) : Ends (g <$> x) s E Q := by
  show match EStateM.map g x s with
    | .ok a s' => Q a s'
    | .error e s' => E e s'
  unfold Ends at hx
  unfold EStateM.map
  cases hxs : x s with
  | ok a s' =>
    rw [hxs] at hx
    exact hx
  | error e s' =>
    rw [hxs] at hx
    exact hx

lemma consult {f : σ → Except ε α} (hE : ∀ e, f s = .error e → E e s)
    (hP : ∀ a, f s = .ok a → P a s) : Ends (consult f) s E P := by
  unfold Ends Throwing.consult
  cases hf : f s with
  | ok a => exact hP a hf
  | error e => exact hE e hf

lemma demand {r : Except ε α} (hE : ∀ e, r = .error e → E e s) (hP : ∀ a, r = .ok a → P a s) :
    Ends (demand r) s E P :=
  consult hE hP

/-- A look at the state, before something else. -/
lemma consult_bind {g : σ → Except ε α} (hE : ∀ e, g s = .error e → E e s)
    (h : ∀ a, g s = .ok a → Ends (f a) s E Q) : Ends (Throwing.consult g >>= f) s E Q :=
  bind (P := fun a s' => g s = .ok a ∧ s' = s) (consult hE fun a ha => And.intro ha rfl) fun a _ ha =>
    ha.2 ▸ h a ha.1

/-- The result of an expression, before something else. -/
lemma demand_bind {r : Except ε α} (hE : ∀ e, r = .error e → E e s)
    (h : ∀ a, r = .ok a → Ends (f a) s E Q) : Ends (Throwing.demand r >>= f) s E Q :=
  consult_bind hE h

lemma modify_bind {g : σ → σ} {f : PUnit → EStateM ε σ β} (h : Ends (f ⟨⟩) (g s) E Q) :
    Ends (modify g >>= f) s E Q := h

lemma modify {f : σ → σ} {P : PUnit → σ → Prop} (h : P ⟨⟩ (f s)) :
    Ends (modify f : EStateM ε σ PUnit) s E P := h

lemma get_bind {g : σ → EStateM ε σ β} (h : Ends (g s) s E Q) : Ends (get >>= g) s E Q := h

lemma tryCatch {handle : ε → EStateM ε σ α} {F : ε → σ → Prop} (hx : Ends x s F P)
    (hhandle : ∀ e s', x s = .error e s' → F e s' → Ends (handle e) s' E P) :
    Ends (tryCatch x handle) s E P := by
  show match EStateM.tryCatch x handle s with
    | .ok a s' => P a s'
    | .error e s' => E e s'
  unfold Ends at hx
  unfold EStateM.tryCatch
  cases hxs : x s with
  | ok a s' =>
    rw [hxs] at hx
    exact hx
  | error e s' =>
    rw [hxs] at hx
    exact hhandle e s' hxs hx

end Ends

/-! ## Steps -/

/-- From `s` the program makes steps only, and what it returns satisfies `P` in the state it
leaves. -/
def Within (step : σ → σ → Prop) (x : EStateM ε σ α) (s : σ) (P : α → σ → Prop) : Prop :=
  Ends x s (fun _ => Relation.ReflTransGen step s) fun a s' =>
    Relation.ReflTransGen step s s' ∧ P a s'

namespace Within

variable {step step' : σ → σ → Prop} {x : EStateM ε σ α} {f : α → EStateM ε σ β} {s : σ}
  {P P' : α → σ → Prop} {Q : β → σ → Prop}

lemma reached (h : Within step x s P) : Relation.ReflTransGen step s (after x s) :=
  (h.mono (fun _ _ h => h) fun _ _ h => h.1 : Ends x s _ fun _ => _).after

lemma mono (h : Within step x s P) (himp : ∀ a s', P a s' → P' a s') : Within step x s P' :=
  Ends.mono h (fun _ _ h => h) fun a s' h => ⟨h.1, himp a s' h.2⟩

lemma pure {a : α} (h : P a s) : Within step (Pure.pure a : EStateM ε σ α) s P := ⟨.refl, h⟩

lemma throw {e : ε} : Within step (MonadExcept.throw e : EStateM ε σ α) s P :=
  Relation.ReflTransGen.refl

/-- What follows starts in a state that was reached. -/
lemma bind_reached (hx : Within step x s P)
    (hf : ∀ a s', Relation.ReflTransGen step s s' → P a s' → Within step (f a) s' Q) :
    Within step (x >>= f) s Q :=
  Ends.bind hx fun a s' h =>
    Ends.mono (hf a s' h.1 h.2) (fun _ _ hmore => h.1.trans hmore) fun _ _ hmore =>
      ⟨h.1.trans hmore.1, hmore.2⟩

lemma bind (hx : Within step x s P) (hf : ∀ a s', P a s' → Within step (f a) s' Q) :
    Within step (x >>= f) s Q :=
  hx.bind_reached fun a s' _ => hf a s'

lemma map {g : α → β} (hx : Within step x s fun a => Q (g a)) : Within step (g <$> x) s Q :=
  Ends.map hx

lemma consult {f : σ → Except ε α} (h : ∀ a, f s = .ok a → P a s) :
    Within step (consult f) s P :=
  Ends.consult (fun _ _ => .refl) fun a ha => ⟨.refl, h a ha⟩

/-- A look at the state, before something else. -/
lemma consult_bind {g : σ → Except ε α} (h : ∀ a, g s = .ok a → Within step (f a) s Q) :
    Within step (Throwing.consult g >>= f) s Q :=
  Ends.bind (Ends.consult (fun _ _ => .refl) fun a ha => h a ha) fun _ _ h => h

lemma demand {r : Except ε α} (h : ∀ a, r = .ok a → P a s) : Within step (demand r) s P :=
  consult h

lemma demand_bind {r : Except ε α} (h : ∀ a, r = .ok a → Within step (f a) s Q) :
    Within step (Throwing.demand r >>= f) s Q :=
  consult_bind h

lemma modify_bind {g : σ → σ} {f : PUnit → EStateM ε σ β} (hstep : step s (g s))
    (h : Within step (f ⟨⟩) (g s) Q) : Within step (modify g >>= f) s Q :=
  bind (P := fun _ s' => s' = g s) ⟨.single hstep, rfl⟩ fun _ _ heq => heq ▸ h

lemma modify {f : σ → σ} (hstep : step s (f s)) {P : PUnit → σ → Prop} (h : P ⟨⟩ (f s)) :
    Within step (modify f : EStateM ε σ PUnit) s P :=
  ⟨.single hstep, h⟩

lemma get_bind {g : σ → EStateM ε σ β} (h : Within step (g s) s Q) :
    Within step (get >>= g) s Q := h

lemma tryCatch {handle : ε → EStateM ε σ α} (hx : Within step x s P)
    (hhandle : ∀ e s', x s = .error e s' → Within step (handle e) s' P) :
    Within step (tryCatch x handle) s P :=
  Ends.tryCatch hx fun e s' hthrow hs =>
    Ends.mono (hhandle e s' hthrow) (fun _ _ hmore => hs.trans hmore) fun _ _ hmore =>
      ⟨hs.trans hmore.1, hmore.2⟩

end Within

/-! ## Runs -/

section Runs

variable {κ : Type} {step : σ → σ → Prop} {I : σ → Prop} {R : σ → σ → Prop} {s s' : σ}

/-- What one of the calls that may be made does to the state. -/
def CallStep (perform : κ → EStateM ε σ α) (allowed : σ → κ → Prop) (s s' : σ) : Prop :=
  ∃ call, allowed s call ∧ s' = after (perform call) s

/-- A run makes calls that may be made, one after the other. -/
abbrev Run (perform : κ → EStateM ε σ α) (allowed : σ → κ → Prop) : σ → σ → Prop :=
  Relation.ReflTransGen (CallStep perform allowed)

/-- What every step keeps, all that is reached keeps. -/
theorem keeps (hstep : ∀ s s', step s s' → I s → I s') (h : Relation.ReflTransGen step s s')
    (hs : I s) : I s' := by
  induction h with
  | refl => exact hs
  | tail _ hlast ih => exact hstep _ _ hlast ih

/-- A preorder that holds along every step that starts where an invariant holds. -/
theorem relates (hrefl : ∀ s, R s s) (htrans : ∀ s s' s'', I s → R s s' → R s' s'' → R s s'')
    (hstep : ∀ s s', step s s' → I s → I s' ∧ R s s') (h : Relation.ReflTransGen step s s')
    (hs : I s) : I s' ∧ R s s' := by
  induction h with
  | refl => exact ⟨hs, hrefl s⟩
  | tail _ hlast ih =>
    obtain ⟨hkept, hmore⟩ := hstep _ _ hlast ih.1
    exact ⟨hkept, htrans _ _ _ hs ih.2 hmore⟩

/-- The state that calls leave, one after the other. -/
def performAll (perform : κ → EStateM ε σ α) (calls : List κ) (s : σ) : σ :=
  calls.foldl (fun s call => after (perform call) s) s

/-- Each of some calls may be made when its turn comes. -/
def AllAllowed (perform : κ → EStateM ε σ α) (allowed : σ → κ → Prop) : List κ → σ → Prop
  | [], _ => True
  | call :: rest, s => allowed s call ∧ AllAllowed perform allowed rest (after (perform call) s)

/-- Calls that may be made make a run. -/
lemma run_of_allAllowed {perform : κ → EStateM ε σ α} {allowed : σ → κ → Prop} {calls : List κ}
    (h : AllAllowed perform allowed calls s) :
    Run perform allowed s (performAll perform calls s) := by
  induction calls generalizing s with
  | nil => exact .refl
  | cons call rest ih => exact .head ⟨call, h.1, rfl⟩ (ih h.2)

/-- Where every call may be made, calls make a run. -/
lemma run_performAll (perform : κ → EStateM ε σ α) (calls : List κ) (s : σ) :
    Run perform (fun _ _ => True) s (performAll perform calls s) := by
  induction calls generalizing s with
  | nil => exact .refl
  | cons call rest ih => exact .head ⟨call, trivial, rfl⟩ (ih _)

end Runs

end Throwing
