import WebTransport.Quic.PacketHeader

/-!
# Truncated packet numbers

A packet number goes on the wire as its low one to four bytes (`quic/packet_number.c`). Two
functions choose how many: `wt_quic_packet_number_size` from the distance to the number after the
largest acknowledged one, and the send path of a connection from the distance to that number
itself. Both keep the number within half of the window of a receiver that has seen what was
acknowledged, and a receiver that is not half of the window past the number reads it back.
-/

namespace WebTransport

/-- How many bytes a packet number needs after the largest one acknowledged, or zero where it
cannot be sent. -/
def quicPacketNumberSize (packetNumber largestAcknowledged : ℕ) : ℕ :=
  if packetNumber ≤ largestAcknowledged then 0
  else
    let delta := u64Sub packetNumber (u64Add largestAcknowledged 1)
    match [1, 2, 3].find? fun byteCount => delta < quicPacketNumberWindow byteCount / 2 with
    | some byteCount => byteCount
    | none => if delta < quicPacketNumberWindow 4 / 2 then 4 else 0

/-- What the sender takes for the largest number acknowledged: zero where there is none. -/
def PnSpace.acknowledged (space : PnSpace) : ℕ :=
  if space.hasLargestAcked then space.largestAcked else 0

/-- A packet number is in reach of the numbers that were acknowledged. -/
def PnSpace.InReach (space : PnSpace) (packetNumber : ℕ) : Prop :=
  if space.hasLargestAcked then
    space.largestAcked < packetNumber ∧ packetNumber - space.largestAcked < 2 ^ 31
  else packetNumber < 2 ^ 31 - 1

/-- The widths that the two functions choose for a packet number. The first one is for numbers
from one on where nothing was acknowledged. -/
def PnSpace.Width (space : PnSpace) (packetNumber byteCount : ℕ) : Prop :=
  (byteCount = quicPacketNumberSize packetNumber space.acknowledged ∧ 0 < packetNumber) ∨
    byteCount = packetNumberLengthFor packetNumber space

instance {space : PnSpace} {packetNumber : ℕ} : Decidable (space.InReach packetNumber) := by
  unfold PnSpace.InReach
  exact inferInstance

instance {space : PnSpace} {packetNumber byteCount : ℕ} :
    Decidable (space.Width packetNumber byteCount) :=
  inferInstanceAs (Decidable (_ ∨ _))

section

variable {s : PnSpace} {packetNumber byteCount largest : ℕ}

/-- A width that `quicPacketNumberSize` chooses puts the number within half of the window after
the number that the peer expects. -/
lemma quicPacketNumberSize_covers {acknowledged : ℕ} (hmax : packetNumber ≤ quicPacketNumberMax)
    (hafter : acknowledged < packetNumber) (hreach : packetNumber - (acknowledged + 1) < 2 ^ 31) :
    let byteCount := quicPacketNumberSize packetNumber acknowledged
    (1 ≤ byteCount ∧ byteCount ≤ 4) ∧
      packetNumber ≤ acknowledged + quicPacketNumberWindow byteCount / 2 := by
  unfold quicPacketNumberMax at hmax
  rw [quicPacketNumberSize, if_neg (not_le.mpr hafter), u64Add_of_lt (by omega),
    u64Sub_of_le (by omega) (by omega)]
  simp only
  cases hfind : [1, 2, 3].find? fun byteCount =>
      packetNumber - (acknowledged + 1) < quicPacketNumberWindow byteCount / 2 with
  | some byteCount =>
    have hfits := List.find?_some hfind
    have hmem := List.mem_of_find?_eq_some hfind
    simp only [List.mem_cons, List.not_mem_nil, or_false] at hmem
    simp only [decide_eq_true_eq] at hfits ⊢
    omega
  | none =>
    have hwindow : quicPacketNumberWindow 4 / 2 = 2 ^ 31 := by decide
    simp only
    rw [hwindow, if_pos hreach, hwindow]
    omega

/-- The width of the send path puts the number within half of the window after the largest one
acknowledged. -/
lemma packetNumberLengthFor_covers (hmax : packetNumber ≤ quicPacketNumberMax)
    (hreach : s.InReach packetNumber) :
    let byteCount := packetNumberLengthFor packetNumber s
    (1 ≤ byteCount ∧ byteCount ≤ 4) ∧
      packetNumber < s.acknowledged + quicPacketNumberWindow byteCount / 2 := by
  unfold quicPacketNumberMax at hmax
  obtain ⟨difference, hdifference, habove, hlt⟩ : ∃ difference,
      (if s.hasLargestAcked then u64Sub packetNumber s.largestAcked
        else u64Add packetNumber 1) = difference ∧
        packetNumber ≤ s.acknowledged + difference ∧ difference < 2 ^ 31 := by
    unfold PnSpace.InReach at hreach
    unfold PnSpace.acknowledged
    split_ifs at hreach ⊢
    · exact ⟨_, u64Sub_of_le hreach.1.le (by omega), by omega, hreach.2⟩
    · exact ⟨_, u64Add_of_lt (by omega), by omega, by omega⟩
  have hwindows : quicPacketNumberWindow 1 / 2 = 0x80 ∧ quicPacketNumberWindow 2 / 2 = 0x8000 ∧
      quicPacketNumberWindow 3 / 2 = 0x800000 ∧ quicPacketNumberWindow 4 / 2 = 2 ^ 31 := by
    decide
  obtain ⟨hone, htwo, hthree, hfour⟩ := hwindows
  unfold packetNumberLengthFor
  simp only
  rw [hdifference]
  split_ifs
  · rw [hone]
    omega
  · rw [htwo]
    omega
  · rw [hthree]
    omega
  · rw [hfour]
    omega

/-- Either width is from one to four bytes and covers the number. -/
lemma PnSpace.Width.covers (hwidth : s.Width packetNumber byteCount)
    (hmax : packetNumber ≤ quicPacketNumberMax) (hreach : s.InReach packetNumber) :
    (1 ≤ byteCount ∧ byteCount ≤ 4) ∧
      packetNumber ≤ s.acknowledged + quicPacketNumberWindow byteCount / 2 := by
  rcases hwidth with ⟨rfl, hpos⟩ | rfl
  · apply quicPacketNumberSize_covers hmax
    all_goals
      unfold PnSpace.InReach at hreach
      unfold PnSpace.acknowledged
      split_ifs at hreach ⊢ <;> omega
  · obtain ⟨hbounds, hcovers⟩ := packetNumberLengthFor_covers hmax hreach
    exact ⟨hbounds, hcovers.le⟩

/-- A truncated packet number is read as the number it was, by every receiver that has the largest
number acknowledged and expects a number less than half of the window past this one. -/
theorem quicPacketNumberDecode_encode (hmax : packetNumber ≤ quicPacketNumberMax)
    (hreach : s.InReach packetNumber) (hwidth : s.Width packetNumber byteCount)
    (hlargest : s.hasLargestAcked = true → s.largestAcked ≤ largest)
    (hwindow : largest + 1 < packetNumber + quicPacketNumberWindow byteCount / 2) :
    (1 ≤ byteCount ∧ byteCount ≤ 4) ∧
      (quicPacketNumberEncode packetNumber byteCount).length = byteCount ∧
      quicPacketNumberDecode ((quicPacketNumberEncode packetNumber byteCount).foldl BigEndian.push 0)
        byteCount largest = packetNumber := by
  obtain ⟨⟨hpos, hle⟩, hcovers⟩ := hwidth.covers hmax hreach
  have hacknowledged : s.acknowledged ≤ largest := by
    unfold PnSpace.acknowledged
    split_ifs with hacked
    · exact hlargest hacked
    · exact Nat.zero_le largest
  have hencode : quicPacketNumberEncode packetNumber byteCount =
      BigEndian.bytes byteCount packetNumber := if_neg (by omega)
  rw [hencode, BigEndian.length_bytes, foldl_packetNumber]
  refine ⟨⟨hpos, hle⟩, rfl, quicPacketNumberDecode_truncated hpos hle ?_ ⟨hwindow, by omega⟩⟩
  unfold quicPacketNumberMax at hmax
  omega

/-- The second packet after an acknowledged first one, at a receiver that is 126 numbers past it. -/
theorem quicPacketNumberDecode_encode_late :
    quicPacketNumberDecode ((quicPacketNumberEncode 1 1).foldl BigEndian.push 0) 1 127 = 1 :=
  (quicPacketNumberDecode_encode
    (s := { hasLargestAcked := true, largestAcked := 0 }) (by decide) (by decide) (by decide)
    (by decide) (by decide)).2.2

/-- A receiver that is one number further reads it one window too high: what counts is the distance
to the number expected, which is one above the largest received. -/
theorem quicPacketNumberDecode_half : ¬∀ (s : PnSpace) (packetNumber byteCount largest : ℕ),
    packetNumber ≤ quicPacketNumberMax → s.InReach packetNumber →
    s.Width packetNumber byteCount →
    (s.hasLargestAcked = true → s.largestAcked ≤ largest) →
    largest < packetNumber + quicPacketNumberWindow byteCount / 2 →
    quicPacketNumberDecode ((quicPacketNumberEncode packetNumber byteCount).foldl BigEndian.push 0)
      byteCount largest = packetNumber := by
  intro h
  have hread : quicPacketNumberDecode ((quicPacketNumberEncode 1 1).foldl BigEndian.push 0) 1 128 =
      1 := h { hasLargestAcked := true, largestAcked := 0 } 1 1 128 (by decide) (by decide)
    (by decide) (by decide) (by decide)
  exact absurd hread (by decide)

end

end WebTransport
