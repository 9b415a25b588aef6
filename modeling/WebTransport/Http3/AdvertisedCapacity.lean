import WebTransport.Http3.EncoderStream
import Mathlib.Data.Int.ModEq

/-!
# Sections and the advertised capacity

A peer encodes the prefix of a section against the capacity that was advertised to it. The
endpoint decodes it against the capacity its table has now, which the peer may have lowered: this
module says for which Required Insert Counts the two agree.
-/

namespace WebTransport

/-! ## Counts in a window -/

/-- In a window as long as the modulus there is one number of each residue. -/
lemma eq_of_mod_eq_of_window {D x y v : ℕ} (hmod : x % D = y % D) (hx : v < x + D) (hxv : x ≤ v)
    (hy : v < y + D) (hyv : y ≤ v) : x = y := by
  have hcongr : x ≡ y [MOD D] := hmod
  apply hcongr.eq_of_abs_lt
  rw [abs_lt]
  omega

section Window

variable {a r M known : ℕ}

/-- The count a decoder reconstructs: the one with the residue that was sent, in the window that
ends so many entries past what is known. -/
lemma requiredInsertCountOf_succ (ha : a < 2 * M) (hrange : 2 * M < 2 ^ 64)
    (hknown : known + M < 2 ^ 64) (hroom : (known + M) / (2 * M) * (2 * M) + a < 2 ^ 64) :
    requiredInsertCountOf (a + 1) M known = some r ↔
      0 < r ∧ r % (2 * M) = a ∧ known < r + M ∧ r ≤ known + M := by
  have hfloor := Nat.div_mul_le_self (known + M) (2 * M)
  have hceil : known + M < (known + M) / (2 * M) * (2 * M) + 2 * M :=
    Nat.lt_div_mul_add (by omega)
  have hresidue : ((known + M) / (2 * M) * (2 * M) + a) % (2 * M) = a := by
    rw [mul_comm, Nat.mul_add_mod, Nat.mod_eq_of_lt ha]
  rw [requiredInsertCountOf, Nat.mod_eq_of_lt (by omega : 2 * M < 2 ^ 64),
    Nat.mod_eq_of_lt (by omega : known + M < 2 ^ 64)]
  dsimp only
  generalize (known + M) / (2 * M) * (2 * M) = wrapped at hfloor hceil hresidue hroom ⊢
  rw [if_neg (Nat.succ_ne_zero a), if_neg (by omega), ← Nat.add_assoc, Nat.add_sub_cancel,
    Nat.mod_eq_of_lt (by omega)]
  -- The window beyond what is known and the one before it hold one candidate each.
  have hlater : r % (2 * M) = a → known < r + M → r ≤ known + M → known + M < wrapped + a →
      wrapped + a = r + 2 * M := by
    intro hr hlow hhigh hpast
    apply eq_of_mod_eq_of_window (D := 2 * M) (v := known + 3 * M)
    · rw [Nat.add_mod_right, hr, hresidue]
    all_goals omega
  have hsame : r % (2 * M) = a → known < r + M → r ≤ known + M → wrapped + a ≤ known + M →
      wrapped + a = r := by
    intro hr hlow hhigh hwithin
    apply eq_of_mod_eq_of_window (D := 2 * M) (v := known + M)
    · rw [hr, hresidue]
    all_goals omega
  split_ifs with hpast hsmall hzero hzero
  · refine ⟨nofun, fun ⟨hpos, hr, hlow, hhigh⟩ => ?_⟩
    have heq := hlater hr hlow hhigh hpast
    omega
  · omega
  · constructor
    · intro heq
      obtain rfl := Option.some.inj heq
      have hback : (wrapped + a - 2 * M) % (2 * M) = a := by
        rw [← Nat.mod_eq_sub_mod (by omega), hresidue]
      exact ⟨by omega, hback, by omega, by omega⟩
    · rintro ⟨hpos, hr, hlow, hhigh⟩
      have heq := hlater hr hlow hhigh hpast
      rw [heq, Nat.add_sub_cancel]
  · refine ⟨nofun, fun ⟨hpos, hr, hlow, hhigh⟩ => ?_⟩
    have heq := hsame hr hlow hhigh (not_lt.mp hpast)
    omega
  · constructor
    · intro heq
      obtain rfl := Option.some.inj heq
      exact ⟨by omega, hresidue, by omega, by omega⟩
    · rintro ⟨hpos, hr, hlow, hhigh⟩
      rw [hsame hr hlow hhigh (not_lt.mp hpast)]

end Window

/-! ## The prefix of a section -/

/-- The prefix an endpoint reads: with the capacity its table has now. -/
def MessageEndpoint.sectionPrefix (e : MessageEndpoint) (payload : List UInt8) :
    Except (Status × QpackError) (HeaderPrefix × List UInt8) :=
  qpackHeaderPrefixDecode payload (qpackMaxEntries e.decoderTable.capacity) e.decoderInsertCount

section Prefix

variable {requiredInsertCount base maxEntries : ℕ} {w w' : Writer}

lemma qpackHeaderPrefixEncode_ok
    (h : qpackHeaderPrefixEncode w requiredInsertCount base maxEntries = .ok w') :
    (requiredInsertCount ≠ 0 → maxEntries ≠ 0) ∧
      encodedInsertCount requiredInsertCount maxEntries ≤ quicVarintMax ∧
      ∃ negative delta, delta ≤ quicVarintMax ∧
        (if negative = true then base + delta + 1 = requiredInsertCount
          else requiredInsertCount + delta = base) ∧
        w'.bytes = w.bytes ++
          (qpackIntegerBytes 8 0 (encodedInsertCount requiredInsertCount maxEntries) ++
            qpackIntegerBytes 7 (if negative then 0x80 else 0) delta) := by
  unfold qpackHeaderPrefixEncode at h
  by_cases hoverflow : fullRangeOverflows maxEntries
  · rw [if_pos hoverflow] at h
    cases h
  rw [if_neg hoverflow] at h
  by_cases hnone : requiredInsertCount ≠ 0 ∧ maxEntries = 0
  · rw [if_pos hnone] at h
    cases h
  rw [if_neg hnone] at h
  dsimp only at h
  refine ⟨fun hcount hentries => hnone ⟨hcount, hentries⟩, ?_⟩
  generalize hdelta : (if decide (base < requiredInsertCount) = true then
    requiredInsertCount - base - 1 else base - requiredInsertCount) = delta at h
  by_cases hlarge : delta > quicVarintMax
  · rw [if_pos hlarge] at h
    cases h
  rw [if_neg hlarge] at h
  cases hint : qpackIntegerEncode w 8 0 (encodedInsertCount requiredInsertCount maxEntries) with
  | error status =>
    rw [hint] at h
    cases h
  | ok w₁ =>
    rw [hint] at h
    obtain ⟨hsmall, -, hbytes₁⟩ := qpackIntegerEncode_ok hint
    obtain ⟨-, -, hbytes₂⟩ := qpackIntegerEncode_ok h
    refine ⟨hsmall, decide (base < requiredInsertCount), delta, not_lt.mp hlarge, ?_, ?_⟩
    · rw [← hdelta]
      split_ifs with hbelow
      · have hless := of_decide_eq_true hbelow
        omega
      · have hmore := of_decide_eq_false (Bool.eq_false_iff.mpr hbelow)
        omega
    · rw [hbytes₂, hbytes₁, List.append_assoc]

/-- A decoder reads the two integers of a prefix, and makes of them what its own size says. -/
lemma qpackHeaderPrefixDecode_written {maxEntries' encoded known delta : ℕ} {negative : Bool}
    (hrange : ¬fullRangeOverflows maxEntries') (hencoded : encoded ≤ quicVarintMax)
    (hdelta : delta ≤ quicVarintMax) (rest : List UInt8) :
    qpackHeaderPrefixDecode (qpackIntegerBytes 8 0 encoded ++
        qpackIntegerBytes 7 (if negative then 0x80 else 0) delta ++ rest) maxEntries' known =
      match requiredInsertCountOf encoded maxEntries' known with
      | none => .error (.protocol, .decompressionFailed)
      | some count =>
        match baseOf count delta negative with
        | none => .error (.protocol, .decompressionFailed)
        | some base => .ok (⟨count, base⟩, rest) := by
  have hflags : (if negative then 0x80 else 0) % 2 ^ 7 = 0 ∧
      (if negative then 0x80 else 0) + 2 ^ 7 ≤ 256 := by
    cases negative <;> decide
  obtain ⟨low, c, hfirst, hlow⟩ := qpackIntegerBytes_first 7 (if negative then 0x80 else 0) delta
  have hcount : qpackIntegerDecode 8 (qpackIntegerBytes 8 0 encoded ++
      (qpackIntegerBytes 7 (if negative then 0x80 else 0) delta ++ rest)) = .ok (encoded, _) :=
    qpackIntegerDecode_bytes _ (by decide) (by decide) hencoded
  have hbase := qpackIntegerDecode_bytes rest hflags.1 hflags.2 hdelta
  have hsign : (UInt8.ofNat ((if negative then 0x80 else 0) + low)).toNat.testBit 7 =
      negative := by
    rw [ofNat_toNat_of_lt (by omega), testBit_flags hflags.1 hlow le_rfl]
    cases negative <;> decide
  rw [hfirst, List.cons_append] at hcount hbase
  rw [hfirst, List.append_assoc, List.cons_append, qpackHeaderPrefixDecode, if_neg hrange, hcount]
  dsimp only
  rw [hbase]
  dsimp only
  cases requiredInsertCountOf encoded maxEntries' known with
  | none => rfl
  | some count =>
    dsimp only
    cases hresult : baseOf count delta negative with
    | none => rw [hsign, hresult]
    | some base => rw [hsign, hresult]

lemma baseOf_written {negative : Bool} {delta : ℕ}
    (h : if negative = true then base + delta + 1 = requiredInsertCount
      else requiredInsertCount + delta = base) (hroom : base < 2 ^ 64) :
    baseOf requiredInsertCount delta negative = some base := by
  unfold baseOf
  cases negative with
  | true =>
    simp only [if_true] at h ⊢
    rw [if_neg (by omega)]
    congr 1
    omega
  | false =>
    simp only [Bool.false_eq_true, if_false] at h ⊢
    rw [if_neg (by omega), h]

end Prefix

/-- The count lies in the window of a decoder that has seen `known` insertions into a table of
`maxEntries` entries. -/
def CountWindow (maxEntries known requiredInsertCount : ℕ) : Prop :=
  known < requiredInsertCount + maxEntries ∧ requiredInsertCount ≤ known + maxEntries

instance (maxEntries known requiredInsertCount : ℕ) :
    Decidable (CountWindow maxEntries known requiredInsertCount) :=
  inferInstanceAs (Decidable (_ ∧ _))

/-- The two sizes send a count alike, and it lies in the window of the smaller. -/
def SentAlike (maxEntries maxEntries' known requiredInsertCount : ℕ) : Prop :=
  requiredInsertCount % (2 * maxEntries) = requiredInsertCount % (2 * maxEntries') ∧
    CountWindow maxEntries' known requiredInsertCount

instance (maxEntries maxEntries' known requiredInsertCount : ℕ) :
    Decidable (SentAlike maxEntries maxEntries' known requiredInsertCount) :=
  inferInstanceAs (Decidable (_ ∧ _))

section Advertised

variable {requiredInsertCount base capacity n maxEntries maxEntries' known : ℕ}
  {e : MessageEndpoint} {w w' : Writer} {bytes : List UInt8}

/-- The count that was sent comes back exactly when the two sizes send it alike. -/
lemma requiredInsertCountOf_encoded (hentries : requiredInsertCount ≠ 0 → maxEntries ≠ 0)
    (hsmall : maxEntries < 2 ^ 59) (hfewer : maxEntries' ≤ maxEntries) (hknown : known < 2 ^ 62) :
    requiredInsertCountOf (encodedInsertCount requiredInsertCount maxEntries) maxEntries' known =
        some requiredInsertCount ↔
      requiredInsertCount = 0 ∨ SentAlike maxEntries maxEntries' known requiredInsertCount := by
  by_cases hzero : requiredInsertCount = 0
  · simp [hzero, encodedInsertCount, requiredInsertCountOf]
  have hpos : maxEntries ≠ 0 := hentries hzero
  rw [encodedInsertCount, if_neg hzero, Nat.mod_eq_of_lt (by omega : 2 * maxEntries < 2 ^ 64)]
  by_cases hfits : requiredInsertCount % (2 * maxEntries) < 2 * maxEntries'
  · have hfloor := Nat.div_mul_le_self (known + maxEntries') (2 * maxEntries')
    rw [requiredInsertCountOf_succ hfits (by omega) (by omega) (by omega)]
    simp only [SentAlike, CountWindow, hzero, Nat.pos_of_ne_zero hzero, true_and, false_or]
    rw [eq_comm]
  · -- The encoded count is beyond the range of the smaller table.
    have hrefused : requiredInsertCountOf (requiredInsertCount % (2 * maxEntries) + 1) maxEntries'
        known = none := by
      rw [requiredInsertCountOf, Nat.mod_eq_of_lt (by omega : 2 * maxEntries' < 2 ^ 64)]
      dsimp only
      rw [if_neg (Nat.succ_ne_zero _), if_pos (by omega)]
    rw [hrefused]
    refine ⟨nofun, ?_⟩
    rintro (habsurd | ⟨hmod, hlow, hhigh⟩)
    · exact absurd habsurd hzero
    · by_cases hempty : maxEntries' = 0
      · subst hempty
        omega
      · have hlt := Nat.mod_lt requiredInsertCount (by omega : 2 * maxEntries' > 0)
        omega

/-- **A section is decoded with the count and the Base its peer used exactly when the capacity
the table has now sends the count alike.** The peer encodes with the capacity that was advertised;
whatever it has done to the table since, the count lies in the window it may use. -/
theorem sectionPrefix_decoded_iff (h : DecoderReached capacity n e) (hn : n ≤ quicVarintMax)
    (hencode : qpackHeaderPrefixEncode w requiredInsertCount base (qpackMaxEntries capacity) =
      .ok w') (hbytes : w'.bytes = w.bytes ++ bytes)
    (hwindow : requiredInsertCount = 0 ∨
      CountWindow (qpackMaxEntries capacity) e.decoderInsertCount requiredInsertCount)
    (lines : List UInt8) :
    e.sectionPrefix (bytes ++ lines) = .ok (⟨requiredInsertCount, base⟩, lines) ↔
      requiredInsertCount = 0 ∨ SentAlike (qpackMaxEntries capacity)
        (qpackMaxEntries e.decoderTable.capacity) e.decoderInsertCount requiredInsertCount := by
  have hadvertised := h.advertised
  have hsmall : qpackMaxEntries capacity < 2 ^ 59 := by
    have hsize := hadvertised.size
    rw [qpackMaxEntries, qpackDynamicEntryOverhead]
    omega
  have hfewer : qpackMaxEntries e.decoderTable.capacity ≤ qpackMaxEntries capacity :=
    Nat.div_le_div_right hadvertised.within
  have hknown : e.decoderInsertCount < 2 ^ 62 := by
    have hcount := hadvertised.counted.trans (hadvertised.received.trans hn)
    unfold quicVarintMax at hcount
    omega
  have hrange : ¬fullRangeOverflows (qpackMaxEntries e.decoderTable.capacity) := by
    rintro ⟨-, hlt⟩
    rw [Nat.mod_eq_of_lt (by omega)] at hlt
    omega
  obtain ⟨hentries, hencoded, negative, delta, hdelta, hbase, hwritten⟩ :=
    qpackHeaderPrefixEncode_ok hencode
  obtain rfl := List.append_cancel_left (hbytes.symm.trans hwritten)
  have hroom : base < 2 ^ 64 := by
    unfold quicVarintMax at hdelta
    unfold CountWindow at hwindow
    split_ifs at hbase <;> omega
  rw [← requiredInsertCountOf_encoded hentries hsmall hfewer hknown, MessageEndpoint.sectionPrefix,
    qpackHeaderPrefixDecode_written hrange hencoded hdelta]
  cases hcount : requiredInsertCountOf (encodedInsertCount requiredInsertCount
      (qpackMaxEntries capacity)) (qpackMaxEntries e.decoderTable.capacity)
      e.decoderInsertCount with
  | none => exact ⟨nofun, nofun⟩
  | some count =>
    dsimp only
    constructor
    · intro hread
      cases hresult : baseOf count delta negative with
      | none =>
        rw [hresult] at hread
        cases hread
      | some base' =>
        rw [hresult] at hread
        cases hread
        rfl
    · intro heq
      obtain rfl := Option.some.inj heq
      rw [baseOf_written hbase hroom]

end Advertised

/-! ## A table that was resized -/

/-- Insert `:status: 200`, duplicate it, and set the capacity to 42, which holds one of them. -/
def resizingBytes : List UInt8 := [0xd9, 0x03, 0x32, 0x30, 0x30, 0x00, 0x3f, 0x0b]

def resizedDecoder : MessageEndpoint :=
  (http3EndpointOnQpackEncoderBytes grantedDecoder resizingBytes).endpoint

lemma resizedDecoder_reached : DecoderReached 64 8 resizedDecoder := by
  have hconsumed : 0 + (resizingBytes.length -
      (http3EndpointOnQpackEncoderBytes grantedDecoder resizingBytes).tail.length) = 8 := by decide
  have hreached := grantedDecoder_reached.bytes resizingBytes
  rwa [hconsumed] at hreached

theorem grantedDecoder_sectionPrefix :
    grantedDecoder.sectionPrefix ([0x02, 0x00] ++ [0x80]) = .ok (⟨1, 1⟩, [0x80]) := by
  have hencode : qpackHeaderPrefixEncode (writerInit 8) 1 1 (qpackMaxEntries 64) = .ok _ := rfl
  exact (sectionPrefix_decoded_iff grantedDecoder_reached (by decide) hencode rfl
    (.inr (by decide)) [0x80]).mpr (.inr (by decide))

/-- **The last entry cannot be named.** The peer names the second insertion, which the table
holds, and the section is refused. -/
theorem resizedDecoder_refuses :
    DecoderReached 64 8 resizedDecoder ∧
      CountWindow (qpackMaxEntries 64) resizedDecoder.decoderInsertCount 2 ∧
      (∃ w, qpackHeaderPrefixEncode (writerInit 8) 2 2 (qpackMaxEntries 64) = .ok w ∧
        w.bytes = [0x03, 0x00]) ∧
      resizedDecoder.decoderTable.entries = [⟨ascii ":status", ascii "200"⟩] ∧
      resizedDecoder.sectionPrefix ([0x03, 0x00] ++ [0x80]) =
        .error (.protocol, .decompressionFailed) :=
  ⟨resizedDecoder_reached, by decide, ⟨_, rfl, by decide⟩, by decide, by decide⟩

end WebTransport
