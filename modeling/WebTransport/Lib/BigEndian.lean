import Mathlib.Tactic

/-!
# Fixed-width big-endian numbers

Writing a number as a fixed number of bytes, most significant first, and reading such a
byte string back by shifting an accumulator. Nothing here depends on the wire formats that
are built on top.
-/

namespace BigEndian

/-- The low `k` bytes of `v`, most significant first. -/
def bytes : ℕ → ℕ → List UInt8
  | 0, _ => []
  | k + 1, v => UInt8.ofNat (v >>> (8 * k)) :: bytes k v

/-- Shift the accumulator by one byte and put the next byte below it. -/
def push (acc : ℕ) (b : UInt8) : ℕ := acc <<< 8 ||| b.toNat

/-- `bytes k v` has exactly `k` bytes. -/
@[simp] theorem length_bytes (k v : ℕ) : (bytes k v).length = k := by
  induction k with
  | zero => rfl
  | succ k ih => simp [bytes, ih]

lemma push_eq (acc : ℕ) (b : UInt8) : push acc b = acc * 256 + b.toNat := by
  have hb : b.toNat < 2 ^ 8 := b.toNat_lt
  unfold push
  rw [← Nat.shiftLeft_add_eq_or_of_lt hb, Nat.shiftLeft_eq]

/-- Reading `k` bytes into an accumulator appends the low `k` bytes of the value to it. -/
theorem foldl_push_bytes (k v acc : ℕ) :
    (bytes k v).foldl push acc = acc * 256 ^ k + v % 256 ^ k := by
  induction k generalizing acc with
  | zero => simp [bytes, Nat.mod_one]
  | succ k ih =>
    have hpow : (2 : ℕ) ^ (8 * k) = 256 ^ k := by rw [pow_mul]; norm_num
    have hbyte : (UInt8.ofNat (v >>> (8 * k))).toNat = v / 256 ^ k % 256 := by
      rw [UInt8.toNat_ofNat', Nat.shiftRight_eq_div_pow, hpow]
    have hsplit : v % 256 ^ (k + 1) = v / 256 ^ k % 256 * 256 ^ k + v % 256 ^ k := by
      rw [pow_succ, Nat.mod_mul, mul_comm (256 ^ k)]
      omega
    calc (bytes (k + 1) v).foldl push acc
        = (bytes k v).foldl push (push acc (UInt8.ofNat (v >>> (8 * k)))) := rfl
      _ = (acc * 256 + v / 256 ^ k % 256) * 256 ^ k + v % 256 ^ k := by
          rw [ih, push_eq, hbyte]
      _ = acc * 256 ^ (k + 1) + v % 256 ^ (k + 1) := by
          rw [hsplit]; ring

/-- Numbers that fit are told apart by their bytes. -/
lemma bytes_injective {k v v' : ℕ} (hv : v < 256 ^ k) (hv' : v' < 256 ^ k)
    (h : bytes k v = bytes k v') : v = v' := by
  have hread := congrArg (List.foldl push 0) h
  simpa only [foldl_push_bytes, Nat.zero_mul, Nat.zero_add, Nat.mod_eq_of_lt hv,
    Nat.mod_eq_of_lt hv'] using hread

/-- What is read behind an accumulator is added below it. -/
lemma foldl_push_eq (l : List UInt8) (acc : ℕ) :
    l.foldl push acc = acc * 256 ^ l.length + l.foldl push 0 := by
  induction l generalizing acc with
  | nil => simp
  | cons b l ih =>
    rw [List.foldl_cons, ih, List.foldl_cons, ih (push 0 b), push_eq, push_eq, List.length_cons,
      pow_succ]
    ring

lemma foldl_push_lt (l : List UInt8) : l.foldl push 0 < 256 ^ l.length := by
  induction l with
  | nil => simp
  | cons b l ih =>
    have hb : b.toNat < 256 := b.toNat_lt
    rw [List.foldl_cons, foldl_push_eq, push_eq, Nat.zero_mul, Nat.zero_add, List.length_cons,
      pow_succ]
    calc b.toNat * 256 ^ l.length + l.foldl push 0
        < b.toNat * 256 ^ l.length + 256 ^ l.length := Nat.add_lt_add_left ih _
      _ = (b.toNat + 1) * 256 ^ l.length := by ring
      _ ≤ 256 * 256 ^ l.length := Nat.mul_le_mul_right _ hb
      _ = 256 ^ l.length * 256 := mul_comm _ _

lemma bytes_mod {k n : ℕ} (hkn : k ≤ n) (v : ℕ) : bytes k (v % 256 ^ n) = bytes k v := by
  induction k with
  | zero => rfl
  | succ k ih =>
    have hpow : (2 : ℕ) ^ (8 * k) = 256 ^ k := by rw [pow_mul]; norm_num
    have hbyte : UInt8.ofNat ((v % 256 ^ n) >>> (8 * k)) = UInt8.ofNat (v >>> (8 * k)) := by
      apply UInt8.toNat_inj.mp
      rw [UInt8.toNat_ofNat', UInt8.toNat_ofNat', Nat.shiftRight_eq_div_pow,
        Nat.shiftRight_eq_div_pow, hpow]
      obtain ⟨m, rfl⟩ := Nat.exists_eq_add_of_le hkn
      rw [add_assoc, pow_add, Nat.mod_mul_right_div_self, Nat.mod_mod_of_dvd]
      exact Dvd.intro (256 ^ m) (by rw [pow_add]; norm_num)
    rw [bytes, bytes, hbyte, ih (by omega)]

/-- Writing back what was read from some bytes gives the bytes. -/
theorem bytes_foldl_push (l : List UInt8) : bytes l.length (l.foldl push 0) = l := by
  induction l with
  | nil => rfl
  | cons b l ih =>
    have hpow : (2 : ℕ) ^ (8 * l.length) = 256 ^ l.length := by rw [pow_mul]; norm_num
    have hb : b.toNat < 256 := b.toNat_lt
    have hvalue : (b :: l).foldl push 0 = b.toNat * 256 ^ l.length + l.foldl push 0 := by
      rw [List.foldl_cons, foldl_push_eq, push_eq, Nat.zero_mul, Nat.zero_add]
    have hhigh : UInt8.ofNat ((b :: l).foldl push 0 >>> (8 * l.length)) = b := by
      apply UInt8.toNat_inj.mp
      rw [hvalue, UInt8.toNat_ofNat', Nat.shiftRight_eq_div_pow, hpow, mul_comm,
        Nat.mul_add_div (by positivity), Nat.div_eq_of_lt (foldl_push_lt l), Nat.add_zero]
      exact Nat.mod_eq_of_lt hb
    have hlow : bytes l.length ((b :: l).foldl push 0) = l := by
      rw [hvalue, ← bytes_mod le_rfl, Nat.mul_add_mod_self_right, bytes_mod le_rfl, ih]
    rw [List.length_cons, bytes, hhigh, hlow]

end BigEndian
