import Mathlib.Tactic

/-!
# Bitmaps in bytes

A set of numbers kept as bits, eight to a byte: how a bit is read and set, and what a map that is
built bit by bit holds.
-/

namespace Bitmap

/-- Whether a number is in the map. -/
def test (map : ℕ → UInt8) (i : ℕ) : Bool := (map (i / 8)).toNat.testBit (i % 8)

/-- The map with one more number. -/
def mark (map : ℕ → UInt8) (i : ℕ) : ℕ → UInt8 :=
  Function.update map (i / 8) (map (i / 8) ||| UInt8.ofNat (1 <<< (i % 8)))

/-- The map of the numbers below a bound that meet a condition. -/
def collect (keep : ℕ → Bool) (n : ℕ) : ℕ → UInt8 :=
  (List.range n).foldl (fun map i => if keep i then mark map i else map) fun _ => 0

variable {map : ℕ → UInt8} {i j n : ℕ}

lemma test_empty : test (fun _ => 0) i = false := by
  unfold test
  rw [UInt8.toNat_zero]
  exact Nat.zero_testBit _

lemma test_mark : test (mark map i) j = (decide (i = j) || test map j) := by
  unfold test mark
  by_cases hbyte : j / 8 = i / 8
  · have hbit : (UInt8.ofNat (1 <<< (i % 8))).toNat = 2 ^ (i % 8) := by
      have hsmall : 2 ^ (i % 8) < 2 ^ 8 := Nat.pow_lt_pow_right (by decide) (Nat.mod_lt _ (by decide))
      rw [UInt8.toNat_ofNat', Nat.one_shiftLeft]
      exact Nat.mod_eq_of_lt hsmall
    have hsame : i % 8 = j % 8 ↔ i = j := by omega
    rw [hbyte, Function.update_self, UInt8.toNat_or, hbit, Nat.testBit_or, Nat.testBit_two_pow,
      Bool.or_comm, decide_eq_decide.mpr hsame]
  · have hne : i ≠ j := fun h => hbyte (by rw [h])
    rw [Function.update_of_ne hbyte, decide_eq_false hne, Bool.false_or]

/-- A map that was collected holds what met the condition. -/
lemma test_collect (keep : ℕ → Bool) : test (collect keep n) i = (decide (i < n) && keep i) := by
  unfold collect
  induction n with
  | zero => exact test_empty
  | succ n ih =>
    rw [List.range_succ, List.foldl_append, List.foldl_cons, List.foldl_nil]
    by_cases hlast : n = i
    · subst hlast
      by_cases hkeep : keep n = true
      · rw [if_pos hkeep, test_mark]
        simp [hkeep]
      · rw [if_neg hkeep, ih]
        simp [hkeep]
    · have hbound : decide (i < n + 1) = decide (i < n) := by
        rw [decide_eq_decide]
        omega
      rw [hbound, ← ih]
      split_ifs
      · rw [test_mark, decide_eq_false hlast, Bool.false_or]
      · rfl

end Bitmap
