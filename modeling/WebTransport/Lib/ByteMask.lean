import Mathlib.Tactic

/-!
# Masks over byte strings

Adding a mask to a stretch of a byte string, bit by bit. Doing it twice with the same mask gives
the string back, and a mask below a power of two leaves the bits above it alone.
-/

namespace ByteMask

/-- Add a mask to as many bytes as both have. -/
def xor (bytes mask : List UInt8) : List UInt8 := bytes.zipWith (· ^^^ ·) mask

/-- Add a mask to the bytes from an offset on. -/
def xorAt (offset : ℕ) (mask bytes : List UInt8) : List UInt8 :=
  bytes.take offset ++ xor ((bytes.drop offset).take mask.length) mask ++
    bytes.drop (offset + mask.length)

section

variable {bytes mask front stretch rest : List UInt8} {offset n : ℕ} {b m : UInt8}

@[simp] lemma length_xor : (xor bytes mask).length = min bytes.length mask.length := by
  simp [xor]

lemma xor_xor (h : bytes.length ≤ mask.length) : xor (xor bytes mask) mask = bytes := by
  induction bytes generalizing mask with
  | nil => rfl
  | cons b bytes ih =>
    cases mask with
    | nil => exact absurd h (by simp)
    | cons m mask =>
      have htail : xor (xor bytes mask) mask = bytes := ih (by simpa using h)
      have hhead : b ^^^ m ^^^ m = b := by rw [UInt8.xor_assoc, UInt8.xor_self, UInt8.xor_zero]
      change (b ^^^ m ^^^ m) :: xor (xor bytes mask) mask = b :: bytes
      rw [hhead, htail]

/-- A mask as long as the stretch it lies over changes that stretch alone. -/
lemma xorAt_append (hfront : front.length = offset) (hmask : stretch.length = mask.length) :
    xorAt offset mask (front ++ (stretch ++ rest)) = front ++ (xor stretch mask ++ rest) := by
  subst hfront
  unfold xorAt
  rw [List.take_left, List.drop_left, ← List.drop_drop, List.drop_left, ← hmask, List.take_left,
    List.drop_left, List.append_assoc]

lemma xorAt_cons : xorAt 0 [m] (b :: rest) = (b ^^^ m) :: rest := rfl

lemma xor_and {k : UInt8} (h : m &&& k = 0) : (b ^^^ m) &&& k = b &&& k := by
  apply UInt8.toNat_inj.mp
  have hnat : m.toNat &&& k.toNat = 0 := by rw [← UInt8.toNat_and, h, UInt8.toNat_zero]
  rw [UInt8.toNat_and, UInt8.toNat_xor, UInt8.toNat_and, Nat.and_xor_distrib_right, hnat,
    Nat.xor_zero]

/-- The bits above the mask stay. -/
lemma toNat_xor_div (h : m.toNat < 2 ^ n) : (b ^^^ m).toNat / 2 ^ n = b.toNat / 2 ^ n := by
  rw [UInt8.toNat_xor, ← Nat.shiftRight_eq_div_pow, ← Nat.shiftRight_eq_div_pow,
    Nat.shiftRight_xor_distrib, Nat.shiftRight_eq_zero m.toNat n h, Nat.xor_zero]

end

end ByteMask
