import Mathlib.Tactic

/-!
# Status codes and 64-bit arithmetic

The library's one result type, and the unsigned 64-bit arithmetic of its counters. A
`uint64_t` is modelled by a natural number below `2 ^ 64`; the operations that can wrap in
the source are written with `u64Add` and `u64Sub`, which wrap in the same way.
-/

namespace WebTransport

/-- The library's status codes (`wt_status_t`). -/
inductive Status
  | ok
  | invalidArgument
  | outOfMemory
  | timeout
  | protocol
  | tls
  | closed
  | again
  | truncated
  | limit
  | overflow
  | state
  | trust
  | unsupported
  | authentication
  | io
deriving DecidableEq, Repr

/-- The wrapping addition of two `uint64_t` values. -/
def u64Add (a b : ℕ) : ℕ := (a + b) % 2 ^ 64

/-- The wrapping subtraction of two `uint64_t` values. -/
def u64Sub (a b : ℕ) : ℕ := (a + (2 ^ 64 - b)) % 2 ^ 64

/-- An addition that stays below `2 ^ 64` does not wrap. -/
lemma u64Add_of_lt {a b : ℕ} (h : a + b < 2 ^ 64) : u64Add a b = a + b :=
  Nat.mod_eq_of_lt h

/-- A subtraction of a smaller number does not wrap. -/
lemma u64Sub_of_le {a b : ℕ} (h : b ≤ a) (ha : a < 2 ^ 64) : u64Sub a b = a - b := by
  unfold u64Sub
  omega

end WebTransport
