import WebTransport.Quic.Draining

/-!
# The largest payload of a DATAGRAM frame

`wt_quic_datagram_max_payload` starts from the length that leaves only the type byte, and steps back
by what is too many (`quic/datagram.c`). The step takes the width of the length field of the longer
payload with it, so where the field is narrower for the shorter payload the answer falls short.
-/

namespace WebTransport

/-- A payload fits the frame limit of the peer, with the type byte and the length field, and what
the packet has beside its overhead. -/
def DatagramFits (limit maxPacketSize overhead length : ℕ) : Prop :=
  1 + quicVarintSize length + length ≤ limit ∧ length + overhead ≤ maxPacketSize

/-- A length is the largest one that fits, or zero where none does. -/
def IsMaxPayload (limit maxPacketSize overhead length : ℕ) : Prop :=
  (∀ other, DatagramFits limit maxPacketSize overhead other →
    DatagramFits limit maxPacketSize overhead length ∧ other ≤ length) ∧
  ((∀ other, ¬DatagramFits limit maxPacketSize overhead other) → length = 0)

/-- The limits at which a longer payload would fit a frame, with a packet that has room for it: just
above the width of the length field changes. -/
def NearJump (limit room : ℕ) : Prop :=
  (limit = 65 ∧ 63 ≤ room) ∨ (16385 ≤ limit ∧ limit ≤ 16387 ∧ limit ≤ room + 4) ∨
    (1073741825 ≤ limit ∧ limit ≤ 1073741831 ∧ limit ≤ room + 8)

section

variable {limit room maxPacketSize overhead : ℕ}

lemma quicVarintSize_cases (length : ℕ) (h : length ≤ quicVarintMax) :
    (length < 64 ∧ quicVarintSize length = 1) ∨
      (64 ≤ length ∧ length < 16384 ∧ quicVarintSize length = 2) ∨
      (16384 ≤ length ∧ length < 1073741824 ∧ quicVarintSize length = 4) ∨
      (1073741824 ≤ length ∧ quicVarintSize length = 8) := by
  unfold quicVarintSize
  split_ifs <;> omega

lemma datagramFit_done {length : ℕ} (rounds : ℕ)
    (h : 1 + quicVarintSize length + length ≤ limit) :
    datagramFit limit (rounds + 1) length = length := by
  rw [datagramFit]
  exact if_pos h

/-- The search steps back at most once: the length field does not get wider on the way down. -/
lemma datagramFit_eq (hpos : 1 ≤ limit) (hmax : limit ≤ quicVarintMax) :
    datagramFit limit limit (limit - 1) = limit - 1 - quicVarintSize (limit - 1) := by
  obtain ⟨rounds, rfl⟩ : ∃ rounds, limit = rounds + 1 := ⟨limit - 1, by omega⟩
  have hwidth := quicVarintSize_cases rounds (by omega)
  have hshorter := quicVarintSize_cases (rounds - quicVarintSize rounds) (by omega)
  have hexcess : 1 + quicVarintSize rounds + rounds - (rounds + 1) = quicVarintSize rounds := by
    omega
  rw [Nat.add_sub_cancel, datagramFit, if_neg (by omega), hexcess]
  split_ifs with hshort hzero
  · omega
  · omega
  · cases rounds with
    | zero => omega
    | succ rounds => exact datagramFit_done rounds (by omega)

/-- The answer is the largest payload that fits exactly where the limit is not just above a change
of the width, or the packet has no room for more. -/
theorem quicDatagramMaxPayload_largest_iff (hpos : 1 ≤ limit) (hmax : limit ≤ quicVarintMax) :
    IsMaxPayload limit maxPacketSize overhead
        (quicDatagramMaxPayload limit maxPacketSize overhead) ↔
      ¬NearJump limit (maxPacketSize - overhead) := by
  have hanswer : quicDatagramMaxPayload limit maxPacketSize overhead =
      min (limit - 1 - quicVarintSize (limit - 1)) (maxPacketSize - overhead) := by
    unfold quicDatagramMaxPayload
    simp only [datagramFit_eq hpos hmax]
    split_ifs <;> omega
  have hwidth := quicVarintSize_cases (limit - 1) (by omega)
  have hfits : ∀ other, DatagramFits limit maxPacketSize overhead other →
      DatagramFits limit maxPacketSize overhead
        (min (limit - 1 - quicVarintSize (limit - 1)) (maxPacketSize - overhead)) := by
    rintro other ⟨hframe, hpacket⟩
    have hother := quicVarintSize_cases other (by omega)
    have hshorter := quicVarintSize_cases
      (min (limit - 1 - quicVarintSize (limit - 1)) (maxPacketSize - overhead)) (by omega)
    refine ⟨?_, by omega⟩
    rcases hwidth with h | h | h | h <;> omega
  rw [hanswer]
  constructor
  · rintro ⟨hlargest, -⟩ hnear
    -- One byte more fits there.
    have hnext : DatagramFits limit maxPacketSize overhead
        (limit - 1 - quicVarintSize (limit - 1) + 1) := by
      have hnext := quicVarintSize_cases (limit - 1 - quicVarintSize (limit - 1) + 1) (by omega)
      rcases hnear with h | h | h
      · exact ⟨by omega, by omega⟩
      · exact ⟨by omega, by omega⟩
      · exact ⟨by omega, by omega⟩
    obtain ⟨-, hle⟩ := hlargest _ hnext
    omega
  · intro hfar
    refine ⟨fun other hother => ⟨hfits other hother, ?_⟩, fun hnone => ?_⟩
    · obtain ⟨hframe, hpacket⟩ := hother
      have hother := quicVarintSize_cases other (by omega)
      unfold NearJump at hfar
      rcases hwidth with h | h | h | h <;> omega
    · -- Nothing fits, so the packet has no room or the limit is below two.
      have hempty : ¬DatagramFits limit maxPacketSize overhead 0 := hnone 0
      unfold DatagramFits at hempty
      have hzero : quicVarintSize 0 = 1 := by decide
      omega

/-- A limit of 1200 in packets of 1500. -/
theorem quicDatagramMaxPayload_largest_1200 : IsMaxPayload 1200 1500 64 1197 := by
  have hlargest := (@quicDatagramMaxPayload_largest_iff 1200 1500 64 (by decide) (by decide)).mpr
    (by unfold NearJump; omega)
  exact hlargest

/-- At a limit of 65 a payload of 63 bytes fits, with a length field of one byte, and the answer is
62. -/
theorem quicDatagramMaxPayload_65 : ¬∀ limit maxPacketSize overhead, 1 ≤ limit →
    limit ≤ quicVarintMax → IsMaxPayload limit maxPacketSize overhead
      (quicDatagramMaxPayload limit maxPacketSize overhead) := by
  intro h
  have hfits : DatagramFits 65 1200 64 63 := ⟨by decide, by decide⟩
  obtain ⟨-, hle⟩ := (h 65 1200 64 (by decide) (by decide)).1 63 hfits
  exact absurd hle (by decide)

end

end WebTransport
