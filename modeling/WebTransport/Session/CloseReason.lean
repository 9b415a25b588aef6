import WebTransport.Lib.Bits
import WebTransport.Session.Capsule

/-!
# The reasons that sessions are closed with

What `utf8_is_well_formed` accepts. RFC 3629 encodes a Unicode scalar value in one to four bytes,
and `String.utf8EncodeChar` is that encoding; the loop accepts such encodings, one after another,
and nothing else.
-/

namespace WebTransport

/-! ## Bytes -/

/-- The three kinds of lead bytes. -/
lemma utf8Lead_eq (lead : UInt8) :
    utf8Lead lead =
      if lead.toNat / 32 = 6 then some (1, lead.toNat % 32)
      else if lead.toNat / 16 = 14 then some (2, lead.toNat % 16)
      else if lead.toNat / 8 = 30 then some (3, lead.toNat % 8)
      else none := by
  revert lead
  exact Bits.forall_byte (by decide +kernel)

lemma isContinuation_iff (b : UInt8) : (b &&& 0xc0 != 0x80) = true ↔ b.toNat / 64 ≠ 2 := by
  revert b
  exact Bits.forall_byte (by decide +kernel)

lemma toNat_and_low (b : UInt8) : (b &&& 0x3f).toNat = b.toNat % 64 := by
  revert b
  exact Bits.forall_byte (by decide +kernel)

/-- The value of a sequence: the bits of its lead byte, then six of each byte that follows. -/
def utf8Value (bits : ℕ) (tail : List UInt8) : ℕ :=
  tail.foldl (fun v b => v * 64 + b.toNat % 64) bits

lemma utf8Value_eq (bits : ℕ) (tail : List UInt8) :
    tail.foldl (fun v b => v <<< 6 ||| (b &&& 0x3f).toNat) bits = utf8Value bits tail := by
  have hstep : (fun (v : ℕ) (b : UInt8) => v <<< 6 ||| (b &&& 0x3f).toNat) =
      fun v b => v * 64 + b.toNat % 64 := by
    funext v b
    have hlow : b.toNat % 64 < 2 ^ 6 := Nat.mod_lt _ (by decide)
    rw [toNat_and_low, Nat.shiftLeft_eq, Nat.mul_comm, ← Nat.two_pow_add_eq_or_of_lt hlow,
      Nat.mul_comm]
  rw [hstep, utf8Value]

/-! ## One sequence -/

/-- What the loop asks of a lead byte that is not ASCII and the bytes after it. -/
structure Utf8Sequence (lead : UInt8) (tail : List UInt8) (bits : ℕ) : Prop where
  lead : utf8Lead lead = some (tail.length, bits)
  continues : ∀ b ∈ tail, b.toNat / 64 = 2
  shortest : ¬(tail.length = 1 ∧ utf8Value bits tail < 0x80) ∧
    ¬(tail.length = 2 ∧ utf8Value bits tail < 0x800) ∧
    ¬(tail.length = 3 ∧ utf8Value bits tail < 0x10000)
  scalar : ¬(0xd800 ≤ utf8Value bits tail ∧ utf8Value bits tail ≤ 0xdfff)
  bounded : utf8Value bits tail ≤ 0x10ffff

/-- One turn of the loop takes a whole sequence. -/
lemma utf8Within_succ (fuel : ℕ) {lead : UInt8} (c : List UInt8) (hlead : ¬lead < 0x80) :
    utf8Within (fuel + 1) (lead :: c) = true ↔
      ∃ tail rest bits, c = tail ++ rest ∧ Utf8Sequence lead tail bits ∧
        utf8Within fuel rest = true := by
  rw [utf8Within, if_neg hlead]
  constructor
  · intro h
    cases hbits : utf8Lead lead with
    | none =>
      rw [hbits] at h
      cases h
    | some found =>
      obtain ⟨extra, bits⟩ := found
      rw [hbits] at h
      dsimp only at h
      rw [utf8Value_eq] at h
      split_ifs at h with hshort hcontinues hone htwo hthree hsurrogate hlarge
      have hlen : (c.take extra).length = extra := List.length_take_of_le (not_lt.mp hshort)
      refine ⟨c.take extra, c.drop extra, bits, (List.take_append_drop _ _).symm, ?_, h⟩
      refine ⟨by rw [hlen, hbits], ?_, ?_, hsurrogate, not_lt.mp hlarge⟩
      · intro b hb
        by_contra hne
        exact hcontinues (List.any_eq_true.mpr ⟨b, hb, (isContinuation_iff b).mpr hne⟩)
      · rw [hlen]
        exact ⟨hone, htwo, hthree⟩
  · rintro ⟨tail, rest, bits, rfl, hseq, h⟩
    have hcontinues : ¬(tail.any fun b => b &&& 0xc0 != 0x80) = true := by
      intro hany
      obtain ⟨b, hb, hne⟩ := List.any_eq_true.mp hany
      exact (isContinuation_iff b).mp hne (hseq.continues b hb)
    have hlen : ¬(tail ++ rest).length < tail.length := by
      rw [List.length_append]
      omega
    rw [hseq.lead]
    dsimp only
    rw [List.take_left, List.drop_left, utf8Value_eq, if_neg hlen, if_neg hcontinues,
      if_neg hseq.shortest.1, if_neg hseq.shortest.2.1, if_neg hseq.shortest.2.2,
      if_neg hseq.scalar, if_neg (not_lt.mpr hseq.bounded)]
    exact h

lemma ofNat_byte {v : ℕ} (hv : v < 256) : (UInt8.ofNat v).toNat = v := UInt8.toNat_ofNat_of_lt' hv

lemma eq_ofNat {b : UInt8} {v : ℕ} (hv : v < 256) (h : b.toNat = v) : UInt8.ofNat v = b :=
  UInt8.toNat_inj.mp ((ofNat_byte hv).trans h.symm)

/-- A number that is no surrogate and not too large is that of a scalar value. -/
lemma exists_scalar {v : ℕ} (hsurrogate : ¬(0xd800 ≤ v ∧ v ≤ 0xdfff)) (hlarge : v ≤ 0x10ffff) :
    ∃ ch : Char, ch.val.toNat = v := by
  have hvalid : v.isValidChar := by
    unfold Nat.isValidChar
    omega
  exact ⟨Char.ofNatAux v hvalid, rfl⟩

/-- A scalar value is no surrogate and not too large. -/
lemma scalar_bounds (ch : Char) :
    ¬(0xd800 ≤ ch.val.toNat ∧ ch.val.toNat ≤ 0xdfff) ∧ ch.val.toNat ≤ 0x10ffff := by
  have hvalid : ch.val.toNat.isValidChar := ch.valid
  unfold Nat.isValidChar at hvalid
  omega

/-- The sequences that the loop takes are the encodings of more than a byte. -/
lemma utf8Sequence_iff {lead : UInt8} {tail : List UInt8} (hlead : ¬lead < 0x80) :
    (∃ bits, Utf8Sequence lead tail bits) ↔ ∃ ch, String.utf8EncodeChar ch = lead :: tail := by
  constructor
  · rintro ⟨bits, hseq⟩
    obtain ⟨ch, hch⟩ := exists_scalar hseq.scalar hseq.bounded
    refine ⟨ch, ?_⟩
    have hbits := hseq.lead
    rw [utf8Lead_eq] at hbits
    have hbyte := lead.toNat_lt
    unfold String.utf8EncodeChar
    obtain ⟨hone, htwo, hthree⟩ := hseq.shortest
    have hcontinues := hseq.continues
    match tail with
    | [] =>
      split_ifs at hbits
      all_goals cases hbits
    | [b] =>
      split_ifs at hbits with hclass
      all_goals cases hbits
      have hleast := not_lt.mp fun hless => hone ⟨rfl, hless⟩
      simp only [utf8Value, List.foldl_cons, List.foldl_nil] at hch hleast
      have hb := hcontinues b (by simp)
      rw [if_neg (by omega), if_pos (by omega), eq_ofNat (b := lead) (by omega) (by omega),
        eq_ofNat (b := b) (by omega) (by omega)]
    | [b₁, b₂] =>
      split_ifs at hbits with hclass hclass
      all_goals cases hbits
      have hleast := not_lt.mp fun hless => htwo ⟨rfl, hless⟩
      simp only [utf8Value, List.foldl_cons, List.foldl_nil] at hch hleast
      have hb₁ := hcontinues b₁ (by simp)
      have hb₂ := hcontinues b₂ (by simp)
      rw [if_neg (by omega), if_neg (by omega), if_pos (by omega),
        eq_ofNat (b := lead) (by omega) (by omega), eq_ofNat (b := b₁) (by omega) (by omega),
        eq_ofNat (b := b₂) (by omega) (by omega)]
    | [b₁, b₂, b₃] =>
      split_ifs at hbits with hclass hclass hclass
      all_goals cases hbits
      have hlarge := hseq.bounded
      have hleast := not_lt.mp fun hless => hthree ⟨rfl, hless⟩
      simp only [utf8Value, List.foldl_cons, List.foldl_nil] at hch hlarge hleast
      have hb₁ := hcontinues b₁ (by simp)
      have hb₂ := hcontinues b₂ (by simp)
      have hb₃ := hcontinues b₃ (by simp)
      rw [if_neg (by omega), if_neg (by omega), if_neg (by omega),
        eq_ofNat (b := lead) (by omega) (by omega), eq_ofNat (b := b₁) (by omega) (by omega),
        eq_ofNat (b := b₂) (by omega) (by omega), eq_ofNat (b := b₃) (by omega) (by omega)]
    | _ :: _ :: _ :: _ :: _ =>
      split_ifs at hbits
      all_goals cases hbits
  · rintro ⟨ch, hch⟩
    obtain ⟨hsurrogate, hlarge⟩ := scalar_bounds ch
    unfold String.utf8EncodeChar at hch
    dsimp only at hch
    generalize ch.val.toNat = v at hsurrogate hlarge hch
    split_ifs at hch with hone htwo hthree
    · obtain ⟨rfl, rfl⟩ := List.cons.inj hch
      refine absurd ?_ hlead
      rw [UInt8.lt_iff_toNat_lt, ofNat_byte (by omega)]
      exact Nat.lt_succ_of_le hone
    · obtain ⟨rfl, rfl⟩ := List.cons.inj hch
      have hvalue : utf8Value (v / 64) [UInt8.ofNat (v % 64 + 128)] = v := by
        simp only [utf8Value, List.foldl_cons, List.foldl_nil]
        rw [ofNat_byte (by omega)]
        omega
      have hbits : utf8Lead (UInt8.ofNat (v / 64 % 32 + 192)) = some (1, v / 64) := by
        rw [utf8Lead_eq, ofNat_byte (by omega), if_pos (by omega),
          show (v / 64 % 32 + 192) % 32 = v / 64 by omega]
      refine ⟨v / 64, hbits, ?_, ?_, ?_, ?_⟩
      · simp only [List.mem_singleton, forall_eq]
        rw [ofNat_byte (by omega)]
        omega
      all_goals rw [hvalue]
      · simp only [List.length_singleton]
        omega
      · exact hsurrogate
      · exact hlarge
    · obtain ⟨rfl, rfl⟩ := List.cons.inj hch
      have hvalue : utf8Value (v / 4096) [UInt8.ofNat (v / 64 % 64 + 128),
          UInt8.ofNat (v % 64 + 128)] = v := by
        simp only [utf8Value, List.foldl_cons, List.foldl_nil]
        rw [ofNat_byte (by omega), ofNat_byte (by omega)]
        omega
      have hbits : utf8Lead (UInt8.ofNat (v / 4096 % 16 + 224)) = some (2, v / 4096) := by
        rw [utf8Lead_eq, ofNat_byte (by omega), if_neg (by omega), if_pos (by omega),
          show (v / 4096 % 16 + 224) % 16 = v / 4096 by omega]
      refine ⟨v / 4096, hbits, ?_, ?_, ?_, ?_⟩
      · simp only [List.mem_cons, List.not_mem_nil, or_false, forall_eq_or_imp, forall_eq]
        rw [ofNat_byte (by omega), ofNat_byte (by omega)]
        omega
      all_goals rw [hvalue]
      · simp only [List.length_cons, List.length_nil]
        omega
      · exact hsurrogate
      · exact hlarge
    · obtain ⟨rfl, rfl⟩ := List.cons.inj hch
      have hvalue : utf8Value (v / 262144) [UInt8.ofNat (v / 4096 % 64 + 128),
          UInt8.ofNat (v / 64 % 64 + 128), UInt8.ofNat (v % 64 + 128)] = v := by
        simp only [utf8Value, List.foldl_cons, List.foldl_nil]
        rw [ofNat_byte (by omega), ofNat_byte (by omega), ofNat_byte (by omega)]
        omega
      have hbits : utf8Lead (UInt8.ofNat (v / 262144 % 8 + 240)) = some (3, v / 262144) := by
        rw [utf8Lead_eq, ofNat_byte (by omega), if_neg (by omega), if_neg (by omega),
          if_pos (by omega), show (v / 262144 % 8 + 240) % 8 = v / 262144 by omega]
      refine ⟨v / 262144, hbits, ?_, ?_, ?_, ?_⟩
      · simp only [List.mem_cons, List.not_mem_nil, or_false, forall_eq_or_imp, forall_eq]
        rw [ofNat_byte (by omega), ofNat_byte (by omega), ofNat_byte (by omega)]
        omega
      all_goals rw [hvalue]
      · simp only [List.length_cons, List.length_nil]
        omega
      · exact hsurrogate
      · exact hlarge

/-- An ASCII byte is its own encoding, and no other encoding begins with it. -/
lemma utf8EncodeChar_ascii {lead : UInt8} {tail : List UInt8} (hlead : lead < 0x80) :
    (∃ ch, String.utf8EncodeChar ch = lead :: tail) ↔ tail = [] := by
  have hbyte : lead.toNat < 128 := hlead
  constructor
  · rintro ⟨ch, hch⟩
    unfold String.utf8EncodeChar at hch
    dsimp only at hch
    split_ifs at hch
    · exact (List.cons.inj hch).2.symm
    all_goals
      obtain ⟨hfirst, -⟩ := List.cons.inj hch
      rw [← hfirst, ofNat_byte (by omega)] at hbyte
      omega
  · rintro rfl
    obtain ⟨ch, hch⟩ := @exists_scalar lead.toNat (by omega) (by omega)
    refine ⟨ch, ?_⟩
    unfold String.utf8EncodeChar
    rw [hch, if_pos (by omega), UInt8.ofNat_toNat]

/-! ## The loop -/

lemma utf8Within_iff {fuel : ℕ} {bytes : List UInt8} (hfuel : bytes.length ≤ fuel) :
    utf8Within fuel bytes = true ↔
      ∃ text : List Char, bytes = text.flatMap String.utf8EncodeChar := by
  induction fuel generalizing bytes with
  | zero =>
    obtain rfl := List.length_eq_zero_iff.mp (Nat.le_zero.mp hfuel)
    rw [utf8Within]
    exact iff_of_true rfl ⟨[], rfl⟩
  | succ fuel ih =>
    cases bytes with
    | nil =>
      rw [utf8Within]
      exact iff_of_true rfl ⟨[], rfl⟩
    | cons lead c =>
      rw [List.length_cons] at hfuel
      -- A text that is not empty begins with the encoding that the lead byte begins.
      have hfirst : (∃ text : List Char, lead :: c = text.flatMap String.utf8EncodeChar) ↔
          ∃ tail rest, c = tail ++ rest ∧ (∃ ch, String.utf8EncodeChar ch = lead :: tail) ∧
            ∃ text : List Char, rest = text.flatMap String.utf8EncodeChar := by
        constructor
        · rintro ⟨text, htext⟩
          cases text with
          | nil => cases htext
          | cons ch text =>
            rw [List.flatMap_cons] at htext
            cases hch : String.utf8EncodeChar ch with
            | nil => exact absurd hch String.utf8EncodeChar_ne_nil
            | cons byte tail =>
              rw [hch, List.cons_append] at htext
              obtain ⟨rfl, rfl⟩ := List.cons.inj htext
              exact ⟨tail, _, rfl, ⟨ch, hch⟩, text, rfl⟩
        · rintro ⟨tail, rest, rfl, ⟨ch, hch⟩, text, rfl⟩
          exact ⟨ch :: text, by rw [List.flatMap_cons, hch, List.cons_append]⟩
      rw [hfirst]
      by_cases hlead : lead < 0x80
      · rw [utf8Within, if_pos hlead, ih (by omega)]
        simp only [utf8EncodeChar_ascii hlead]
        constructor
        · rintro ⟨text, htext⟩
          exact ⟨[], c, rfl, rfl, text, htext⟩
        · rintro ⟨tail, rest, rfl, rfl, hrest⟩
          exact hrest
      · rw [utf8Within_succ fuel c hlead]
        constructor
        · rintro ⟨tail, rest, bits, rfl, hseq, hrest⟩
          rw [List.length_append] at hfuel
          exact ⟨tail, rest, rfl, (utf8Sequence_iff hlead).mp ⟨bits, hseq⟩,
            (ih (by omega)).mp hrest⟩
        · rintro ⟨tail, rest, rfl, hch, hrest⟩
          rw [List.length_append] at hfuel
          obtain ⟨bits, hseq⟩ := (utf8Sequence_iff hlead).mpr hch
          exact ⟨tail, rest, bits, rfl, hseq, (ih (by omega)).mpr hrest⟩

/-- The loop accepts the bytes that are the encoding of a text of scalar values, and no others. -/
theorem utf8IsWellFormed_iff (bytes : List UInt8) :
    utf8IsWellFormed bytes = true ↔
      ∃ text : List Char, bytes = text.flatMap String.utf8EncodeChar :=
  utf8Within_iff le_rfl

end WebTransport
