import Mathlib.Tactic

/-!
# A bounded queue

A queue that takes an element while there is room and drops a new one while there is none, and that
hands its first element out to a reader that can take it. What was taken in is what was handed out
and then what is held, in this order, whatever was refused on the way.
-/

namespace BoundedFifo

/-- A writer comes with an element, and a reader with what it can take. -/
inductive Call (α κ : Type)
  | push (a : α)
  | pop (room : κ)

/-- How a call ends. -/
inductive Answer (α : Type)
  | taken
  | dropped
  | empty
  | refused
  | given (a : α)
deriving DecidableEq, Repr

/-- A bound on the elements held, the elements that are let in, and the readers that can take an
element. -/
structure Bounds (α κ : Type) where
  capacity : ℕ
  admits : α → Bool
  fits : κ → α → Bool

variable {α κ : Type} (b : Bounds α κ)

/-- One call: what is held afterwards, and the answer. -/
def step (held : List α) : Call α κ → List α × Answer α
  | .push a =>
    if !b.admits a then (held, .refused)
    else if held.length = b.capacity then (held, .dropped)
    else (held ++ [a], .taken)
  | .pop room =>
    match held with
    | [] => ([], .empty)
    | a :: rest => if b.fits room a then (rest, .given a) else (held, .refused)

/-- Calls in order on any state: the state in the end, and the answers. -/
def runWith {σ : Type} (f : σ → Call α κ → σ × Answer α) (s : σ) :
    List (Call α κ) → σ × List (Answer α)
  | [] => (s, [])
  | call :: calls =>
    let first := f s call
    let rest := runWith f first.1 calls
    (rest.1, first.2 :: rest.2)

/-- Calls in order on what is held. -/
def run (held : List α) (calls : List (Call α κ)) : List α × List (Answer α) :=
  runWith (step b) held calls

lemma runWith_cons {σ : Type} (f : σ → Call α κ → σ × Answer α) (s : σ) (call : Call α κ)
    (calls : List (Call α κ)) : runWith f s (call :: calls) =
      ((runWith f (f s call).1 calls).1, (f s call).2 :: (runWith f (f s call).1 calls).2) := rfl

lemma run_cons (held : List α) (call : Call α κ) (calls : List (Call α κ)) :
    run b held (call :: calls) = ((run b (step b held call).1 calls).1,
      (step b held call).2 :: (run b (step b held call).1 calls).2) := rfl

/-- The elements that calls brought and that were taken in. -/
def taken : List (Call α κ) → List (Answer α) → List α
  | .push a :: calls, .taken :: answers => a :: taken calls answers
  | _ :: calls, _ :: answers => taken calls answers
  | _, _ => []

/-- The elements that were handed out. -/
def given (answers : List (Answer α)) : List α :=
  answers.filterMap fun answer =>
    match answer with
    | .given a => some a
    | _ => none

/-- How often a new element was dropped. -/
def dropped (answers : List (Answer α)) : ℕ :=
  answers.countP fun answer =>
    match answer with
    | .dropped => true
    | _ => false

/-- The first call of a run takes at most its own element in. -/
lemma taken_cons (call : Call α κ) (answer : Answer α) (calls : List (Call α κ))
    (answers : List (Answer α)) :
    taken (call :: calls) (answer :: answers) = taken [call] [answer] ++ taken calls answers := by
  cases call <;> cases answer <;> rfl

lemma dropped_cons (answer : Answer α) (answers : List (Answer α)) :
    dropped (answer :: answers) = dropped [answer] + dropped answers :=
  @List.countP_append _ _ [answer] answers

/-- A state each of whose calls is a call on what it holds answers a run as the queue does. -/
theorem runWith_simulates {σ : Type} {f : σ → Call α κ → σ × Answer α} {held : σ → List α}
    (hf : ∀ s call, (held (f s call).1, (f s call).2) = step b (held s) call) (s : σ)
    (calls : List (Call α κ)) :
    (held (runWith f s calls).1, (runWith f s calls).2) = run b (held s) calls := by
  induction calls generalizing s with
  | nil => rfl
  | cons call calls ih =>
    rw [runWith_cons, run_cons, ← hf s call]
    simp only
    rw [← ih]

/-- A call takes one element in or drops it, at most. -/
lemma taken_add_dropped_le {σ : Type} (f : σ → Call α κ → σ × Answer α) (s : σ)
    (calls : List (Call α κ)) :
    (taken calls (runWith f s calls).2).length + dropped (runWith f s calls).2 ≤ calls.length := by
  induction calls generalizing s with
  | nil => exact le_rfl
  | cons call calls ih =>
    have hrest := ih (f s call).1
    have hone : (taken [call] [(f s call).2]).length + dropped [(f s call).2] ≤ 1 := by
      cases call <;> cases (f s _).2 <;> simp [taken, dropped]
    rw [runWith_cons, taken_cons, dropped_cons, List.length_append, List.length_cons]
    omega

/-- What is handed out is what was held and then what was taken in, up to what is still held. -/
theorem given_append_held (held : List α) (calls : List (Call α κ)) :
    given (run b held calls).2 ++ (run b held calls).1 = held ++ taken calls (run b held calls).2 := by
  induction calls generalizing held with
  | nil => simp [run, runWith, given, taken]
  | cons call calls ih =>
    rw [run_cons]
    cases call with
    | push a =>
      have ih := ih (step b held (.push a)).1
      simp only [step] at ih ⊢
      split_ifs at ih ⊢
      · exact ih
      · exact ih
      · rw [List.append_assoc] at ih
        exact ih
    | pop room =>
      have ih := ih (step b held (.pop room)).1
      cases held with
      | nil => exact ih
      | cons a rest =>
        simp only [step] at ih ⊢
        split_ifs at ih ⊢
        · exact congrArg (a :: ·) ih
        · exact ih

end BoundedFifo
