import WebTransport.Core.Status

/-!
# Application error codes in HTTP/3

The mapping of `webtransport/error.c` between the 32-bit error codes of an application and the
codepoints of HTTP/3 that stand for them. Every thirty codes are followed by a codepoint that is
reserved, and the mapping passes over it.
-/

namespace WebTransport

/-! ## The mapping -/

def webtransportApplicationErrorFirst : UInt64 := 0x52e4a40fa8db
def webtransportApplicationErrorLast : UInt64 := 0x52e5ac983162

def webtransportErrorStrideOut : UInt64 := 0x1e
def webtransportErrorStrideIn : UInt64 := 0x1f
def webtransportErrorReservedResidue : UInt64 := 0x21

/-- Whether a codepoint stands for a code of an application. -/
def webtransportErrorIsApplicationRange (http3Error : UInt64) : Bool :=
  if http3Error < webtransportApplicationErrorFirst ∨
      webtransportApplicationErrorLast < http3Error then false
  else if (http3Error - webtransportErrorReservedResidue) % webtransportErrorStrideIn = 0 then
    false
  else true

/-- The codepoint of a code. -/
def webtransportErrorToHttp3 (applicationError : UInt32) : UInt64 :=
  let value := applicationError.toUInt64
  webtransportApplicationErrorFirst + value + value / webtransportErrorStrideOut

/-- The code of a codepoint, before it is narrowed. -/
def webtransportErrorUnshift (http3Error : UInt64) : UInt64 :=
  let shifted := http3Error - webtransportApplicationErrorFirst
  shifted - shifted / webtransportErrorStrideIn

def webtransportErrorFromHttp3 (http3Error : UInt64) : Except Status UInt32 :=
  if !webtransportErrorIsApplicationRange http3Error then .error .invalidArgument
  else .ok (webtransportErrorUnshift http3Error).toUInt32

/-! ## In numbers -/

section Numbers

variable {v : UInt64} {n : UInt32}

/-- Nothing wraps on the way out. -/
lemma toNat_webtransportErrorToHttp3 (n : UInt32) :
    (webtransportErrorToHttp3 n).toNat = 0x52e4a40fa8db + n.toNat + n.toNat / 30 := by
  have hn := n.toNat_lt
  simp only [webtransportErrorToHttp3, webtransportApplicationErrorFirst,
    webtransportErrorStrideOut, UInt64.toNat_add, UInt64.toNat_div, UInt32.toNat_toUInt64,
    UInt64.reduceToNat]
  omega

lemma webtransportErrorIsApplicationRange_iff : webtransportErrorIsApplicationRange v = true ↔
    0x52e4a40fa8db ≤ v.toNat ∧ v.toNat ≤ 0x52e5ac983162 ∧ (v.toNat - 0x21) % 0x1f ≠ 0 := by
  unfold webtransportErrorIsApplicationRange
  have hfirst : v < webtransportApplicationErrorFirst ↔ v.toNat < 0x52e4a40fa8db := Iff.rfl
  have hlast : webtransportApplicationErrorLast < v ↔ 0x52e5ac983162 < v.toNat := Iff.rfl
  by_cases hout : v < webtransportApplicationErrorFirst ∨ webtransportApplicationErrorLast < v
  · rw [if_pos hout]
    rw [hfirst, hlast] at hout
    simp only [Bool.false_eq_true, false_iff]
    omega
  · rw [if_neg hout]
    rw [hfirst, hlast] at hout
    have hle : webtransportErrorReservedResidue ≤ v := by
      rw [UInt64.le_iff_toNat_le]
      change 0x21 ≤ v.toNat
      omega
    have hresidue : (v - webtransportErrorReservedResidue) % webtransportErrorStrideIn = 0 ↔
        (v.toNat - 0x21) % 0x1f = 0 := by
      rw [← UInt64.toNat_inj, UInt64.toNat_mod, UInt64.toNat_sub_of_le _ _ hle]
      rfl
    by_cases hreserved : (v - webtransportErrorReservedResidue) % webtransportErrorStrideIn = 0
    · rw [if_pos hreserved]
      simp only [Bool.false_eq_true, false_iff]
      exact fun h => h.2.2 (hresidue.mp hreserved)
    · rw [if_neg hreserved]
      simp only [true_iff]
      exact ⟨by omega, by omega, fun h => hreserved (hresidue.mpr h)⟩

/-- Nothing wraps on the way back, and a number of 32 bits is left. -/
lemma toNat_webtransportErrorUnshift (h : webtransportErrorIsApplicationRange v = true) :
    (webtransportErrorUnshift v).toNat =
        v.toNat - 0x52e4a40fa8db - (v.toNat - 0x52e4a40fa8db) / 31 ∧
      (webtransportErrorUnshift v).toNat < 2 ^ 32 := by
  obtain ⟨hfirst, hlast, hreserved⟩ := webtransportErrorIsApplicationRange_iff.mp h
  have hle : webtransportApplicationErrorFirst ≤ v := hfirst
  have hshift : (v - webtransportApplicationErrorFirst).toNat = v.toNat - 0x52e4a40fa8db :=
    UInt64.toNat_sub_of_le _ _ hle
  have hdiv : ((v - webtransportApplicationErrorFirst) / webtransportErrorStrideIn).toNat =
      (v.toNat - 0x52e4a40fa8db) / 31 := by
    rw [UInt64.toNat_div, hshift]
    rfl
  have hunder : (v - webtransportApplicationErrorFirst) / webtransportErrorStrideIn ≤
      v - webtransportApplicationErrorFirst := by
    rw [UInt64.le_iff_toNat_le, hdiv, hshift]
    omega
  have heq : (webtransportErrorUnshift v).toNat =
      v.toNat - 0x52e4a40fa8db - (v.toNat - 0x52e4a40fa8db) / 31 := by
    rw [webtransportErrorUnshift, UInt64.toNat_sub_of_le _ _ hunder, hdiv, hshift]
  exact ⟨heq, by omega⟩

/-- A codepoint that is accepted is that of the code it gives. -/
lemma webtransportErrorFromHttp3_ok (h : webtransportErrorFromHttp3 v = .ok n) :
    webtransportErrorIsApplicationRange v = true ∧
      n.toNat = (webtransportErrorUnshift v).toNat := by
  unfold webtransportErrorFromHttp3 at h
  cases hrange : webtransportErrorIsApplicationRange v with
  | false =>
    rw [hrange] at h
    cases h
  | true =>
    rw [hrange] at h
    obtain ⟨-, hbits⟩ := toNat_webtransportErrorUnshift hrange
    cases h
    exact ⟨rfl, by rw [UInt64.toNat_toUInt32, Nat.mod_eq_of_lt hbits]⟩

end Numbers

/-! ## One to one -/

lemma webtransportErrorToHttp3_lt {m n : UInt32} (hmn : m < n) :
    webtransportErrorToHttp3 m < webtransportErrorToHttp3 n := by
  have hlt : m.toNat < n.toNat := hmn
  rw [UInt64.lt_iff_toNat_lt, toNat_webtransportErrorToHttp3, toNat_webtransportErrorToHttp3]
  omega

/-- No code goes to a codepoint out of the range or to a reserved one. -/
lemma webtransportErrorToHttp3_range (n : UInt32) :
    webtransportErrorIsApplicationRange (webtransportErrorToHttp3 n) = true := by
  have hn := n.toNat_lt
  rw [webtransportErrorIsApplicationRange_iff, toNat_webtransportErrorToHttp3]
  omega

lemma webtransportErrorFromHttp3_to (n : UInt32) :
    webtransportErrorFromHttp3 (webtransportErrorToHttp3 n) = .ok n := by
  have hrange := webtransportErrorToHttp3_range n
  obtain ⟨hback, hbits⟩ := toNat_webtransportErrorUnshift hrange
  rw [webtransportErrorFromHttp3, hrange]
  simp only [Bool.not_true, Bool.false_eq_true, if_false, Except.ok.injEq]
  rw [← UInt32.toNat_inj, UInt64.toNat_toUInt32, Nat.mod_eq_of_lt hbits, hback,
    toNat_webtransportErrorToHttp3]
  omega

/-- A codepoint that is accepted is the image of what it gives. -/
lemma webtransportErrorToHttp3_from {v : UInt64} {n : UInt32}
    (h : webtransportErrorFromHttp3 v = .ok n) : webtransportErrorToHttp3 n = v := by
  obtain ⟨hrange, hn⟩ := webtransportErrorFromHttp3_ok h
  obtain ⟨hback, -⟩ := toNat_webtransportErrorUnshift hrange
  obtain ⟨hfirst, hlast, hreserved⟩ := webtransportErrorIsApplicationRange_iff.mp hrange
  rw [← UInt64.toNat_inj, toNat_webtransportErrorToHttp3, hn, hback]
  omega

/-- The codes of applications go one to one to the codepoints of the range that are not reserved:
in order, and back from those codepoints and from no others, with nothing cut off. -/
theorem webtransportError_one_to_one :
    (∀ m n, m < n → webtransportErrorToHttp3 m < webtransportErrorToHttp3 n) ∧
    (∀ n, webtransportApplicationErrorFirst ≤ webtransportErrorToHttp3 n ∧
      webtransportErrorToHttp3 n ≤ webtransportApplicationErrorLast ∧
      ¬∃ k : ℕ, (webtransportErrorToHttp3 n).toNat = 0x1f * k + 0x21) ∧
    (∀ n, webtransportErrorFromHttp3 (webtransportErrorToHttp3 n) = .ok n) ∧
    (∀ v, (∃ n, webtransportErrorFromHttp3 v = .ok n) ↔ ∃ n, webtransportErrorToHttp3 n = v) ∧
    (∀ v n, webtransportErrorFromHttp3 v = .ok n →
      webtransportErrorToHttp3 n = v ∧ n.toNat = (webtransportErrorUnshift v).toNat) := by
  refine ⟨fun m n => webtransportErrorToHttp3_lt, ?_, webtransportErrorFromHttp3_to, ?_, ?_⟩
  · intro n
    obtain ⟨hfirst, hlast, hreserved⟩ :=
      webtransportErrorIsApplicationRange_iff.mp (webtransportErrorToHttp3_range n)
    refine ⟨hfirst, hlast, ?_⟩
    rintro ⟨k, hk⟩
    rw [hk] at hreserved
    omega
  · intro v
    constructor
    · rintro ⟨n, h⟩
      exact ⟨n, webtransportErrorToHttp3_from h⟩
    · rintro ⟨n, rfl⟩
      exact ⟨n, webtransportErrorFromHttp3_to n⟩
  · intro v n h
    exact ⟨webtransportErrorToHttp3_from h, (webtransportErrorFromHttp3_ok h).2⟩

end WebTransport
