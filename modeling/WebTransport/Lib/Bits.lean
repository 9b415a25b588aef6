import Mathlib.Data.Nat.Bitwise
import Mathlib.Tactic.Positivity

/-!
# The bits of a number, from the top

A number of so many bits as the list of them, the most significant first: how such lists are cut and
put together. What holds of the eight bits of every byte is found by going through them.
-/

namespace Bits

/-- The low `n` bits of a number, the most significant first. -/
def ofNat : ℕ → ℕ → List Bool
  | 0, _ => []
  | n + 1, v => v.testBit n :: ofNat n v

variable {n m v low : ℕ}

@[simp] lemma length_ofNat (n v : ℕ) : (ofNat n v).length = n := by
  induction n with
  | zero => rfl
  | succ n ih => rw [ofNat, List.length_cons, ih]

/-- The upper bits come first. -/
lemma ofNat_add (m n v : ℕ) : ofNat (m + n) v = ofNat m (v >>> n) ++ ofNat n v := by
  induction m with
  | zero => rw [Nat.zero_add, ofNat, List.nil_append]
  | succ m ih =>
    rw [Nat.add_right_comm, ofNat, ofNat, List.cons_append, ih, Nat.testBit_shiftRight,
      Nat.add_comm n m]

/-- Only the low bits are looked at. -/
lemma ofNat_congr {w : ℕ} (h : ∀ i < n, v.testBit i = w.testBit i) : ofNat n v = ofNat n w := by
  induction n with
  | zero => rfl
  | succ n ih =>
    rw [ofNat, ofNat, h n (Nat.lt_succ_self n), ih fun i hi => h i (Nat.lt_succ_of_lt hi)]

lemma ofNat_mod (hn : n ≤ m) (v : ℕ) : ofNat n (v % 2 ^ m) = ofNat n v := by
  apply ofNat_congr
  intro i hi
  rw [Nat.testBit_mod_two_pow, decide_eq_true (by omega), Bool.true_and]

/-- Two numbers put together are the bits of both. -/
lemma ofNat_mul_add (m v : ℕ) (hlow : low < 2 ^ n) :
    ofNat (m + n) (v * 2 ^ n + low) = ofNat m v ++ ofNat n low := by
  have hhigh : (v * 2 ^ n + low) >>> n = v := by
    rw [Nat.shiftRight_eq_div_pow, Nat.mul_comm, Nat.mul_add_div (by positivity),
      Nat.div_eq_of_lt hlow, Nat.add_zero]
  have hmod : (v * 2 ^ n + low) % 2 ^ n = low := by
    rw [Nat.mul_comm, Nat.mul_add_mod, Nat.mod_eq_of_lt hlow]
  rw [ofNat_add, hhigh, ← ofNat_mod le_rfl (v * 2 ^ n + low), hmod]

/-- The bits of a number that is filled up with ones. -/
lemma ofNat_ones (n : ℕ) : ofNat n (2 ^ n - 1) = List.replicate n true := by
  induction n with
  | zero => rfl
  | succ n ih =>
    have hlow : ofNat n (2 ^ (n + 1) - 1) = ofNat n (2 ^ n - 1) := by
      apply ofNat_congr
      intro i hi
      rw [Nat.testBit_two_pow_sub_one, Nat.testBit_two_pow_sub_one, decide_eq_true hi,
        decide_eq_true (by omega)]
    rw [ofNat, hlow, ih, Nat.testBit_two_pow_sub_one, decide_eq_true (Nat.lt_succ_self n),
      List.replicate_succ]

lemma ofNat_two_mul_add (n v : ℕ) (bit : Bool) :
    ofNat (n + 1) (2 * v + bit.toNat) = ofNat n v ++ [bit] := by
  have hbit : bit.toNat < 2 ^ 1 := by
    cases bit <;> decide
  have hsplit := ofNat_mul_add n v hbit
  rw [pow_one, Nat.mul_comm v] at hsplit
  rw [hsplit]
  congr 1
  cases bit <;> rfl

/-- The bits say what the number is, up to those that are not looked at. -/
lemma testBit_of_ofNat_eq {w : ℕ} (h : ofNat n v = ofNat n w) {i : ℕ} (hi : i < n) :
    v.testBit i = w.testBit i := by
  induction n with
  | zero => exact absurd hi (Nat.not_lt_zero i)
  | succ n ih =>
    obtain ⟨hfirst, hrest⟩ := List.cons.inj h
    rcases Nat.lt_succ_iff_lt_or_eq.mp hi with hless | rfl
    · exact ih hrest hless
    · exact hfirst

/-! ## Bytes -/

/-- Every byte has a property that the numbers below 256 have. -/
lemma forall_byte {p : UInt8 → Prop} (h : ∀ n < 256, p (UInt8.ofNat n)) (b : UInt8) : p b := by
  have hb := h b.toNat b.toNat_lt
  rwa [UInt8.ofNat_toNat] at hb

end Bits
