import Mathlib.Tactic

/-!
# Arithmetic that stops a program

Unsigned numbers of 64 bits whose overflow is not wrapped around but ends the program. What
is computed from them is an `Option`, and `none` stands for a program that was stopped.
-/

namespace Checked

/-- The bound of an unsigned number of 64 bits. -/
def bound : ℕ := 2 ^ 64

/-- Addition, where the sum is such a number. -/
def add (a b : ℕ) : Option ℕ := if a + b < bound then some (a + b) else none

/-- Subtraction, where the difference is not negative. -/
def sub (a b : ℕ) : Option ℕ := if b ≤ a then some (a - b) else none

@[simp] lemma add_of_lt {a b : ℕ} (h : a + b < bound) : add a b = some (a + b) := if_pos h

@[simp] lemma sub_of_le {a b : ℕ} (h : b ≤ a) : sub a b = some (a - b) := if_pos h

end Checked
