import WebTransport.Quic.PnSpace

/-!
# What the round trip estimator keeps to

The estimator of `quic/pn_space.c` over any sequence of samples. What it measures against is the
adjusted samples, from which the delay the peer reported may have been taken off: the smoothed value
never leaves the range they span.
-/

namespace WebTransport

/-! ## Samples -/

/-- What one call of `wt_quic_rtt_update` is given. -/
structure RttSample where
  latest : ℕ
  ackDelay : ℕ
  maxAckDelay : ℕ
  handshakeConfirmed : Bool
deriving DecidableEq, Repr

def Rtt.onSample (rtt : Rtt) (s : RttSample) : Rtt :=
  quicRttUpdate rtt s.latest s.ackDelay s.maxAckDelay s.handshakeConfirmed

/-- The sample that the averages are taken over. -/
def Rtt.adjusted (rtt : Rtt) (s : RttSample) : ℕ :=
  let capped := if s.maxAckDelay < s.ackDelay then s.maxAckDelay else s.ackDelay
  if s.handshakeConfirmed && u64Add (rtt.onSample s).minRtt s.ackDelay ≤ s.latest &&
      capped < s.latest then s.latest - capped
  else s.latest

/-- The estimator after some samples. -/
def rttAfter (samples : List RttSample) : Rtt := samples.foldl Rtt.onSample {}

/-- The adjusted samples, in order. -/
def adjustedSamples (rtt : Rtt) : List RttSample → List ℕ
  | [] => []
  | s :: samples => rtt.adjusted s :: adjustedSamples (rtt.onSample s) samples

/-- A sample and a reported delay far below where the sums wrap. -/
def RttSample.Measured (s : RttSample) : Prop := s.latest < 2 ^ 60 ∧ s.ackDelay < 2 ^ 60

section Samples

variable {rtt : Rtt} {s : RttSample} {samples : List RttSample}

lemma rttAfter_concat (samples : List RttSample) (s : RttSample) :
    rttAfter (samples ++ [s]) = (rttAfter samples).onSample s := by
  rw [rttAfter, List.foldl_append, List.foldl_cons, List.foldl_nil, rttAfter]

lemma adjustedSamples_concat (rtt : Rtt) (samples : List RttSample) (s : RttSample) :
    adjustedSamples rtt (samples ++ [s]) =
      adjustedSamples rtt samples ++ [(samples.foldl Rtt.onSample rtt).adjusted s] := by
  induction samples generalizing rtt with
  | nil => rfl
  | cons first samples ih =>
    rw [List.cons_append, adjustedSamples, ih, adjustedSamples, List.cons_append, List.foldl_cons]

/-! ## One sample -/

/-- The first sample is taken as it is. -/
lemma Rtt.onSample_first (h : rtt.hasSample = false) :
    rtt.onSample s =
      { latest := s.latest, minRtt := s.latest, smoothed := rtt.adjusted s,
        rttvar := rtt.adjusted s / 2, hasSample := true } := by
  have hmin : (rtt.onSample s).minRtt = s.latest := by
    simp only [Rtt.onSample, quicRttUpdate, h]
    rfl
  unfold Rtt.adjusted
  rw [hmin]
  simp only [Rtt.onSample, quicRttUpdate, h]
  rfl

lemma Rtt.onSample_next (h : rtt.hasSample = true) :
    rtt.onSample s =
      { latest := s.latest
        minRtt := if s.latest < rtt.minRtt then s.latest else rtt.minRtt
        rttvar := u64Add (3 * rtt.rttvar % 2 ^ 64)
          (if rtt.adjusted s < rtt.smoothed then rtt.smoothed - rtt.adjusted s
            else rtt.adjusted s - rtt.smoothed) / 4
        smoothed := u64Add (7 * rtt.smoothed % 2 ^ 64) (rtt.adjusted s) / 8
        hasSample := true } := by
  have hmin : (rtt.onSample s).minRtt =
      if s.latest < rtt.minRtt then s.latest else rtt.minRtt := by
    simp only [Rtt.onSample, quicRttUpdate, h]
    simp
  unfold Rtt.adjusted
  rw [hmin]
  simp only [Rtt.onSample, quicRttUpdate, h]
  simp

lemma Rtt.onSample_min (rtt : Rtt) (s : RttSample) : (rtt.onSample s).minRtt ≤ s.latest := by
  cases h : rtt.hasSample with
  | false => rw [Rtt.onSample_first h]
  | true =>
    rw [Rtt.onSample_next h]
    dsimp only
    split_ifs <;> omega

/-- No more is taken off a sample than leaves the smallest one: the guard is about the whole delay
that was reported, and what is taken off is at most that. -/
lemma Rtt.adjusted_between (rtt : Rtt) (hs : s.Measured) :
    (rtt.onSample s).minRtt ≤ rtt.adjusted s ∧ rtt.adjusted s ≤ s.latest := by
  have hmin := rtt.onSample_min s
  obtain ⟨hlatest, hdelay⟩ := hs
  unfold Rtt.adjusted
  rw [u64Add_of_lt (by omega)]
  dsimp only
  generalize hcapped : (if s.maxAckDelay < s.ackDelay then s.maxAckDelay else s.ackDelay) = capped
  have hle : capped ≤ s.ackDelay := by
    rw [← hcapped]
    split_ifs <;> omega
  split_ifs with htaken
  · simp only [Bool.and_eq_true, decide_eq_true_eq] at htaken
    omega
  · exact ⟨hmin, le_rfl⟩

/-! ## All of them -/

/-- Where the estimator is after some samples that were adjusted to some values. -/
structure Rtt.Within (rtt : Rtt) (samples : List RttSample) (adjusted : List ℕ) : Prop where
  sampled : rtt.hasSample = true
  minimum : IsLeast {r | ∃ s ∈ samples, r = s.latest} rtt.minRtt
  notBelow : ∃ a ∈ adjusted, a ≤ rtt.smoothed
  notAbove : ∃ a ∈ adjusted, rtt.smoothed ≤ a
  measured : ∀ a ∈ adjusted, rtt.minRtt ≤ a ∧ a < 2 ^ 60
  variation : rtt.rttvar < 2 ^ 60

/-- An average is between what it is taken of, also when it is rounded down. -/
lemma average_between (smoothed adjusted : ℕ) :
    min smoothed adjusted ≤ (7 * smoothed + adjusted) / 8 ∧
      (7 * smoothed + adjusted) / 8 ≤ max smoothed adjusted := by
  omega

lemma Rtt.Within.first (h : rtt.hasSample = false) (hs : s.Measured) :
    (rtt.onSample s).Within [s] [rtt.adjusted s] := by
  obtain ⟨hmin, hmax⟩ := rtt.adjusted_between hs
  obtain ⟨hlatest, -⟩ := hs
  rw [Rtt.onSample_first h] at hmin ⊢
  refine ⟨rfl, ⟨⟨s, by simp, rfl⟩, ?_⟩, ⟨_, by simp, le_rfl⟩, ⟨_, by simp, le_rfl⟩, ?_, ?_⟩
  · rintro r ⟨s', hs', rfl⟩
    rw [List.mem_singleton.mp hs']
  · intro a ha
    obtain rfl := List.mem_singleton.mp ha
    exact ⟨hmin, by omega⟩
  · dsimp only
    omega

lemma Rtt.Within.next {adjusted : List ℕ} (h : rtt.Within samples adjusted) (hs : s.Measured) :
    (rtt.onSample s).Within (samples ++ [s]) (adjusted ++ [rtt.adjusted s]) := by
  obtain ⟨hmin, hmax⟩ := rtt.adjusted_between hs
  obtain ⟨hlatest, -⟩ := hs
  obtain ⟨low, hlow, hbelow⟩ := h.notBelow
  obtain ⟨high, hhigh, habove⟩ := h.notAbove
  have hbound := (h.measured high hhigh).2
  have hvariation := h.variation
  have hsmoothed : (rtt.onSample s).smoothed = (7 * rtt.smoothed + rtt.adjusted s) / 8 := by
    rw [Rtt.onSample_next h.sampled]
    dsimp only
    rw [Nat.mod_eq_of_lt (by omega), u64Add_of_lt (by omega)]
  obtain ⟨hleast, hgreatest⟩ := average_between rtt.smoothed (rtt.adjusted s)
  rw [← hsmoothed] at hleast hgreatest
  have hmem : rtt.adjusted s ∈ adjusted ++ [rtt.adjusted s] := by simp
  have hminimum : (rtt.onSample s).minRtt = min s.latest rtt.minRtt := by
    rw [Rtt.onSample_next h.sampled]
    dsimp only
    split_ifs <;> omega
  refine ⟨by rw [Rtt.onSample_next h.sampled], ?_, ?_, ?_, ?_, ?_⟩
  · rw [hminimum]
    obtain ⟨⟨first, hfirst, heq⟩, hlower⟩ := h.minimum
    constructor
    · rcases min_choice s.latest rtt.minRtt with hchoice | hchoice
      · exact ⟨s, by simp, hchoice⟩
      · exact ⟨first, by simp [hfirst], hchoice.trans heq⟩
    · rintro r ⟨s', hs', rfl⟩
      rcases List.mem_append.mp hs' with hs' | hs'
      · exact (min_le_right _ _).trans (hlower ⟨s', hs', rfl⟩)
      · rw [List.mem_singleton.mp hs']
        exact min_le_left _ _
  · rcases le_total rtt.smoothed (rtt.adjusted s) with hle | hle
    · exact ⟨low, List.mem_append_left _ hlow, by omega⟩
    · exact ⟨_, hmem, by omega⟩
  · rcases le_total rtt.smoothed (rtt.adjusted s) with hle | hle
    · exact ⟨_, hmem, by omega⟩
    · exact ⟨high, List.mem_append_left _ hhigh, by omega⟩
  · intro a ha
    rcases List.mem_append.mp ha with ha | ha
    · obtain ⟨hover, hunder⟩ := h.measured a ha
      exact ⟨by omega, hunder⟩
    · obtain rfl := List.mem_singleton.mp ha
      exact ⟨hmin, by omega⟩
  · rw [Rtt.onSample_next h.sampled]
    dsimp only
    rw [Nat.mod_eq_of_lt (by omega), u64Add_of_lt (by split_ifs <;> omega)]
    split_ifs <;> omega

lemma rttAfter_within (hne : samples ≠ []) (hs : ∀ s ∈ samples, s.Measured) :
    (rttAfter samples).Within samples (adjustedSamples {} samples) := by
  induction samples using List.reverseRecOn with
  | nil => exact absurd rfl hne
  | append_singleton samples s ih =>
    have hlast := hs s (by simp)
    rw [rttAfter_concat, adjustedSamples_concat]
    by_cases hnil : samples = []
    · subst hnil
      exact .first rfl hlast
    · exact (ih hnil fun s hmem => hs s (by simp [hmem])).next hlast

end Samples

/-- Over any sequence of samples the smallest of them is kept, each adjusted sample is between the
smallest so far and the sample itself, the smoothed value is between adjusted samples and so not
below the smallest, and a probe timeout that does not wrap is a millisecond longer than it. -/
theorem rttAfter_measured {samples : List RttSample} (hs : ∀ s ∈ samples, s.Measured) :
    (∀ early s, early ++ [s] <+: samples →
      (rttAfter (early ++ [s])).minRtt ≤ (rttAfter early).adjusted s ∧
        (rttAfter early).adjusted s ≤ s.latest) ∧
    (samples ≠ [] →
      let rtt := rttAfter samples
      IsLeast {r | ∃ s ∈ samples, r = s.latest} rtt.minRtt ∧
      (∃ a ∈ adjustedSamples {} samples, a ≤ rtt.smoothed) ∧
      (∃ a ∈ adjustedSamples {} samples, rtt.smoothed ≤ a) ∧
      rtt.minRtt ≤ rtt.smoothed ∧
      ∀ maxAckDelay,
        rtt.smoothed + max (4 * rtt.rttvar) quicTimerGranularity + maxAckDelay < 2 ^ 64 →
        ∃ timeout, quicRttPto rtt maxAckDelay = .ok timeout ∧
          rtt.smoothed + quicTimerGranularity ≤ timeout) := by
  constructor
  · rintro early s ⟨later, rfl⟩
    rw [rttAfter_concat]
    exact (rttAfter early).adjusted_between (hs s (by simp))
  · intro hne rtt
    have h : rtt.Within samples (adjustedSamples {} samples) := rttAfter_within hne hs
    obtain ⟨low, hlow, hbelow⟩ := h.notBelow
    refine ⟨h.minimum, ⟨low, hlow, hbelow⟩, h.notAbove, (h.measured low hlow).1.trans hbelow, ?_⟩
    intro maxAckDelay hsum
    have hvariation := h.variation
    refine ⟨rtt.smoothed + max (4 * rtt.rttvar) quicTimerGranularity + maxAckDelay, ?_, by omega⟩
    have hmax : (if 4 * rtt.rttvar % 2 ^ 64 < quicTimerGranularity then quicTimerGranularity
        else 4 * rtt.rttvar % 2 ^ 64) = max (4 * rtt.rttvar) quicTimerGranularity := by
      rw [Nat.mod_eq_of_lt (by omega)]
      split_ifs <;> omega
    rw [quicRttPto, h.sampled]
    simp only [Bool.not_true, Bool.false_eq_true, if_false]
    rw [hmax, @u64Add_of_lt rtt.smoothed _ (by omega), u64Add_of_lt hsum]

/-- Two samples, the second with a delay that is taken off. -/
theorem rttAfter_measured_two :
    (rttAfter [⟨1000, 0, 25000, false⟩, ⟨3000, 500, 25000, true⟩]).minRtt ≤
      (rttAfter [⟨1000, 0, 25000, false⟩, ⟨3000, 500, 25000, true⟩]).smoothed :=
  ((@rttAfter_measured [⟨1000, 0, 25000, false⟩, ⟨3000, 500, 25000, true⟩]
    (by unfold RttSample.Measured; decide)).2 (by decide)).2.2.2.1

/-- With a delay near the largest number the timeout wraps and comes before the smoothed value. -/
theorem quicRttPto_wraps : ¬∀ samples : List RttSample, (∀ s ∈ samples, s.Measured) → samples ≠ [] →
    ∀ maxAckDelay < 2 ^ 64, ∃ timeout, quicRttPto (rttAfter samples) maxAckDelay = .ok timeout ∧
      (rttAfter samples).smoothed + quicTimerGranularity ≤ timeout := by
  intro h
  obtain ⟨timeout, htimeout, hle⟩ := h [⟨1000, 0, 0, false⟩] (by unfold RttSample.Measured; decide)
    (by decide) (2 ^ 64 - 2000) (by decide)
  have hsmoothed : (rttAfter [⟨1000, 0, 0, false⟩]).smoothed = 1000 := by decide
  have hwrapped : quicRttPto (rttAfter [⟨1000, 0, 0, false⟩]) (2 ^ 64 - 2000) = .ok 1000 := by
    decide
  rw [hwrapped] at htimeout
  cases htimeout
  rw [hsmoothed] at hle
  exact absurd hle (by decide)

end WebTransport
