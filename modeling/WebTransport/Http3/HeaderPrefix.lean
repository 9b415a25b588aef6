import WebTransport.Http3.AdvertisedCapacity

/-!
# The prefix of a section on the wire

The Required Insert Count is sent modulo twice the number of entries, and the decoder takes the one
number of that residue around what it knows (RFC 9204, section 4.5.1). This holds for every count of
its window whose sums fit in 64 bits, and whose residue has an encoding.
-/

namespace WebTransport

variable {maxEntries known requiredInsertCount base : ℕ} {w : Writer}

/-- Neither the end of the decoder's window nor the first candidate for a count wraps. -/
def CountFits (maxEntries known requiredInsertCount : ℕ) : Prop :=
  known + maxEntries < 2 ^ 64 ∧
    (known + maxEntries) / (2 * maxEntries) * (2 * maxEntries) +
      requiredInsertCount % (2 * maxEntries) < 2 ^ 64

/-- A Base that a signed difference to the count can name. -/
def BaseNear (requiredInsertCount base : ℕ) : Prop :=
  base < 2 ^ 64 ∧ base < requiredInsertCount + 2 ^ 62 ∧ requiredInsertCount ≤ base + 2 ^ 62

/-! ## Writing an integer -/

lemma length_qpackIntegerTail (fuel value : ℕ) :
    (qpackIntegerTail fuel value).length ≤ fuel + 1 := by
  induction fuel generalizing value with
  | zero => exact le_rfl
  | succ fuel ih =>
    rw [qpackIntegerTail]
    split_ifs
    · exact Nat.succ_le_succ (ih _)
    · exact Nat.succ_le_succ (Nat.zero_le _)

/-- An integer takes at most eleven bytes. -/
lemma length_qpackIntegerBytes (n flags value : ℕ) :
    (qpackIntegerBytes n flags value).length ≤ 11 := by
  unfold qpackIntegerBytes
  simp only
  split_ifs
  · exact Nat.succ_le_succ (Nat.zero_le _)
  · exact Nat.succ_le_succ (length_qpackIntegerTail 9 _)

/-- An integer is accepted where there is room for it. -/
lemma qpackIntegerEncode_of_room {n flags value : ℕ} (hok : w.ok = true)
    (hroom : w.bytes.length + 11 ≤ w.cap) (hvalue : value ≤ quicVarintMax)
    (hflags : flags % 2 ^ n = 0) :
    ∃ w', qpackIntegerEncode w n flags value = .ok w' ∧ w'.ok = true ∧ w'.cap = w.cap ∧
      w'.bytes = w.bytes ++ qpackIntegerBytes n flags value := by
  have hlength := length_qpackIntegerBytes n flags value
  obtain ⟨hput, hbytes, hcap⟩ := Writer.put_of_fits (qpackIntegerBytes n flags value) hok (by omega)
  refine ⟨w.put (qpackIntegerBytes n flags value), ?_, hput, hcap, hbytes⟩
  rw [qpackIntegerEncode, if_neg (not_lt.mpr hvalue), if_neg (fun h => h.2 hflags)]
  exact if_pos hput

/-- The prefix of a section is written where its two integers have an encoding. -/
lemma qpackHeaderPrefixEncode_of_room (hpos : 1 ≤ maxEntries) (hrange : 2 * maxEntries < 2 ^ 64)
    (hbase : BaseNear requiredInsertCount base)
    (hencoded : encodedInsertCount requiredInsertCount maxEntries ≤ quicVarintMax)
    (hok : w.ok = true) (hroom : w.bytes.length + 22 ≤ w.cap) :
    ∃ w', qpackHeaderPrefixEncode w requiredInsertCount base maxEntries = .ok w' := by
  obtain ⟨-, habove, hbelow⟩ := hbase
  have hfullRange : ¬fullRangeOverflows maxEntries := by
    rintro ⟨-, hless⟩
    rw [Nat.mod_eq_of_lt hrange] at hless
    omega
  unfold qpackHeaderPrefixEncode
  rw [if_neg hfullRange, if_neg (by omega)]
  simp only
  generalize hdelta : (if decide (base < requiredInsertCount) = true then
    requiredInsertCount - base - 1 else base - requiredInsertCount) = delta
  have hsmall : delta ≤ quicVarintMax := by
    unfold quicVarintMax
    rw [← hdelta]
    split_ifs <;> omega
  obtain ⟨w₁, hfirst, hok₁, hcap₁, hbytes₁⟩ :=
    @qpackIntegerEncode_of_room w 8 0 _ hok (by omega) hencoded (by decide)
  have hlength := length_qpackIntegerBytes 8 0 (encodedInsertCount requiredInsertCount maxEntries)
  have hroom₁ : w₁.bytes.length + 11 ≤ w₁.cap := by
    rw [hbytes₁, List.length_append, hcap₁]
    omega
  have hsign : (if decide (base < requiredInsertCount) = true then 0x80 else 0) % 2 ^ 7 = 0 := by
    split_ifs <;> decide
  obtain ⟨w₂, hsecond, -⟩ := qpackIntegerEncode_of_room hok₁ hroom₁ hsmall hsign
  rw [if_neg (not_lt.mpr hsmall), hfirst]
  exact ⟨w₂, hsecond⟩

/-! ## The round trip -/

/-- The prefix of a section is read back by a decoder whose window has the count. -/
lemma qpackHeaderPrefixDecode_encode {w' : Writer} (hpos : 1 ≤ maxEntries)
    (hrange : 2 * maxEntries < 2 ^ 64) (hbase : base < 2 ^ 64)
    (hcount : requiredInsertCount ≠ 0 → CountWindow maxEntries known requiredInsertCount ∧
      CountFits maxEntries known requiredInsertCount)
    (h : qpackHeaderPrefixEncode w requiredInsertCount base maxEntries = .ok w') :
    ∃ bytes, w'.bytes = w.bytes ++ bytes ∧ ∀ rest,
      qpackHeaderPrefixDecode (bytes ++ rest) maxEntries known =
        .ok (⟨requiredInsertCount, base⟩, rest) := by
  obtain ⟨-, hencoded, negative, delta, hdelta, hwritten, hbytes⟩ := qpackHeaderPrefixEncode_ok h
  have hfullRange : ¬fullRangeOverflows maxEntries := by
    rintro ⟨-, hless⟩
    rw [Nat.mod_eq_of_lt hrange] at hless
    omega
  have hback : requiredInsertCountOf (encodedInsertCount requiredInsertCount maxEntries) maxEntries
      known = some requiredInsertCount := by
    by_cases hzero : requiredInsertCount = 0
    · simp [hzero, encodedInsertCount, requiredInsertCountOf]
    · obtain ⟨⟨hlow, hhigh⟩, hknown, hroom⟩ := hcount hzero
      rw [encodedInsertCount, if_neg hzero, Nat.mod_eq_of_lt hrange]
      exact (requiredInsertCountOf_succ (Nat.mod_lt _ (by omega)) hrange hknown hroom).mpr
        ⟨Nat.pos_of_ne_zero hzero, rfl, hlow, hhigh⟩
  refine ⟨_, hbytes, fun rest => ?_⟩
  rw [qpackHeaderPrefixDecode_written hfullRange hencoded hdelta, hback]
  simp only
  rw [baseOf_written hwritten hbase]

/-- Whatever bytes are read, a count that is not zero is one of the decoder's window. -/
lemma qpackHeaderPrefixDecode_window {bytes rest : List UInt8} {p : HeaderPrefix}
    (hpos : 1 ≤ maxEntries) (hrange : 2 * maxEntries < 2 ^ 64)
    (hroom : (known + maxEntries) / (2 * maxEntries) * (2 * maxEntries) + 2 * maxEntries ≤ 2 ^ 64)
    (h : qpackHeaderPrefixDecode bytes maxEntries known = .ok (p, rest))
    (hcount : p.requiredInsertCount ≠ 0) :
    CountWindow maxEntries known p.requiredInsertCount := by
  obtain ⟨encoded, hencoded⟩ : ∃ encoded,
      requiredInsertCountOf encoded maxEntries known = some p.requiredInsertCount := by
    unfold qpackHeaderPrefixDecode at h
    simp only at h
    split_ifs at h
    split at h <;> try cases h
    split at h <;> try cases h
    split at h <;> try cases h
    rename_i hsome
    split at h <;> try cases h
    exact ⟨_, hsome⟩
  have hceil : known + maxEntries <
      (known + maxEntries) / (2 * maxEntries) * (2 * maxEntries) + 2 * maxEntries :=
    Nat.lt_div_mul_add (by omega)
  cases encoded with
  | zero =>
    have hzero : p.requiredInsertCount = 0 := (Option.some.inj hencoded).symm
    exact absurd hzero hcount
  | succ a =>
    have ha : a < 2 * maxEntries := by
      by_contra hlarge
      rw [requiredInsertCountOf, Nat.mod_eq_of_lt hrange] at hencoded
      simp only at hencoded
      rw [if_neg (Nat.succ_ne_zero a), if_pos (by omega)] at hencoded
      cases hencoded
    have hwindow := (requiredInsertCountOf_succ ha hrange (by omega) (by omega)).mp hencoded
    exact hwindow.2.2

/-- A prefix survives the wire for every count of the window whose residue has an encoding and whose
sums fit, and every Base near it; and whatever bytes a decoder is given, the counts that it reads are
those of its window. -/
theorem headerPrefix_window (hpos : 1 ≤ maxEntries) (hrange : 2 * maxEntries < 2 ^ 64) :
    (∀ (requiredInsertCount base : ℕ) (w : Writer),
      (requiredInsertCount ≠ 0 → CountWindow maxEntries known requiredInsertCount ∧
        CountFits maxEntries known requiredInsertCount ∧
        requiredInsertCount % (2 * maxEntries) + 1 ≤ quicVarintMax) →
      BaseNear requiredInsertCount base → w.ok = true → w.bytes.length + 22 ≤ w.cap →
      ∃ w' bytes, qpackHeaderPrefixEncode w requiredInsertCount base maxEntries = .ok w' ∧
        w'.bytes = w.bytes ++ bytes ∧ ∀ rest,
          qpackHeaderPrefixDecode (bytes ++ rest) maxEntries known =
            .ok (⟨requiredInsertCount, base⟩, rest)) ∧
    ((known + maxEntries) / (2 * maxEntries) * (2 * maxEntries) + 2 * maxEntries ≤ 2 ^ 64 →
      ∀ (bytes rest : List UInt8) (p : HeaderPrefix),
        qpackHeaderPrefixDecode bytes maxEntries known = .ok (p, rest) →
        p.requiredInsertCount ≠ 0 → CountWindow maxEntries known p.requiredInsertCount) := by
  refine ⟨fun count base w hcount hbase hok hroom => ?_, fun hroom bytes rest p h hcount =>
    qpackHeaderPrefixDecode_window hpos hrange hroom h hcount⟩
  have hencoded : encodedInsertCount count maxEntries ≤ quicVarintMax := by
    unfold encodedInsertCount
    split_ifs with hzero
    · exact Nat.zero_le _
    · rw [Nat.mod_eq_of_lt hrange]
      exact (hcount hzero).2.2
  obtain ⟨w', hencode⟩ :=
    qpackHeaderPrefixEncode_of_room hpos hrange hbase hencoded hok hroom
  obtain ⟨bytes, hbytes, hdecode⟩ := qpackHeaderPrefixDecode_encode hpos hrange hbase.1
    (fun hzero => ⟨(hcount hzero).1, (hcount hzero).2.1⟩) hencode
  exact ⟨w', bytes, hencode, hbytes, hdecode⟩

/-- The last count of the window of a decoder that knows ten insertions into a table of four
entries. -/
theorem headerPrefix_window_last :
    ∃ w' bytes, qpackHeaderPrefixEncode (writerInit 32) 14 12 4 = .ok w' ∧ w'.bytes = [] ++ bytes ∧
      ∀ rest, qpackHeaderPrefixDecode (bytes ++ rest) 4 10 = .ok (⟨14, 12⟩, rest) :=
  (@headerPrefix_window 4 10 (by decide) (by decide)).1 14 12 (writerInit 32)
    (fun _ => ⟨by decide, ⟨by decide, by decide⟩, by decide⟩) ⟨by decide, by decide, by decide⟩
    rfl (by decide)

/-- The residue of a count in a huge table has no encoding, so the prefix is not written. -/
theorem headerPrefix_beyond_varint : ¬∀ (maxEntries known requiredInsertCount base : ℕ) (w : Writer),
    1 ≤ maxEntries → 2 * maxEntries < 2 ^ 64 → known < 2 ^ 64 → requiredInsertCount < 2 ^ 64 →
    CountWindow maxEntries known requiredInsertCount → BaseNear requiredInsertCount base →
    w.ok = true → w.bytes.length + 22 ≤ w.cap →
    ∃ w' bytes, qpackHeaderPrefixEncode w requiredInsertCount base maxEntries = .ok w' ∧
      w'.bytes = w.bytes ++ bytes ∧ ∀ rest, qpackHeaderPrefixDecode (bytes ++ rest) maxEntries known =
        .ok (⟨requiredInsertCount, base⟩, rest) := by
  intro h
  obtain ⟨w', -, hencode, -⟩ := h (2 ^ 62) (2 ^ 62) (2 ^ 62) (2 ^ 62) (writerInit 32) (by decide)
    (by decide) (by decide) (by decide) (by decide) ⟨by decide, by decide, by decide⟩ rfl (by decide)
  have hsmall := (qpackHeaderPrefixEncode_ok hencode).2.1
  exact absurd hsmall (by decide)

/-- The end of the window wraps, and the count that was sent is refused. -/
example : requiredInsertCountOf (encodedInsertCount (2 ^ 64 - 1) 1) 1 (2 ^ 64 - 1) = none := by
  decide

end WebTransport
