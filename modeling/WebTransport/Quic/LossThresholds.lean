import WebTransport.Quic.LossLedger

/-!
# The loss thresholds

What one call of `wt_quic_loss_detect` takes off the list and what it arms the timer for. The walk
asks whether a packet was sent at or before `now - delay`, where zero stands for a difference that
is not positive; the timer is set for `time_sent + delay`. The two agree on packets that were sent
after time zero: what stays on the list is due later than now.
-/

namespace WebTransport

/-- Both thresholds look only at packets of one space that the acknowledgement has reached. -/
def SentPacket.Reached (space largestAcked : ℕ) (p : SentPacket) : Prop :=
  p.packetNumberSpace = space ∧ p.packetNumber ≤ largestAcked

/-- A packet that one of the thresholds gives up: a packet three or more numbers above it arrived,
or it was sent at least the loss delay ago. -/
def SentPacket.Overdue (rtt : Rtt) (now largestAcked : ℕ) (p : SentPacket) : Prop :=
  p.packetNumber + quicPacketThreshold ≤ largestAcked ∨ p.timeSent + lossDelay rtt ≤ now

instance {space largestAcked : ℕ} : DecidablePred (SentPacket.Reached space largestAcked) :=
  fun _ => inferInstanceAs (Decidable (_ ∧ _))

instance {rtt : Rtt} {now largestAcked : ℕ} :
    DecidablePred (SentPacket.Overdue rtt now largestAcked) :=
  fun _ => inferInstanceAs (Decidable (_ ∨ _))

/-- A packet whose send time and number are what a caller can put there: it was sent at one or
later and not after now, and the sums of the thresholds fit. -/
structure SentPacket.Timely (rtt : Rtt) (now : ℕ) (p : SentPacket) : Prop where
  sent : 1 ≤ p.timeSent
  past : p.timeSent ≤ now
  deadline : p.timeSent + lossDelay rtt < 2 ^ 64
  number : p.packetNumber + quicPacketThreshold < 2 ^ 64

/-- A visitor that returns and does not touch the list. -/
def KeepsLoss {S : Type} (host : LossHost S) (visit : S → ℕ → SentPacket → Option S) : Prop :=
  ∀ s i p, ∃ s', visit s i p = some s' ∧ host.loss s' = host.loss s

/-- The least of some times, where zero stands for none. -/
def IsEarliest (times : List ℕ) (t : ℕ) : Prop :=
  (times = [] → t = 0) ∧ (times ≠ [] → t ∈ times ∧ ∀ u ∈ times, t ≤ u)

section

variable {S : Type} {host : LossHost S} {visit : S → ℕ → SentPacket → Option S} {s : S}
  {rtt : Rtt} {now space largestAcked t : ℕ} {p : SentPacket}

lemma IsEarliest.concat {times : List ℕ} {u : ℕ} (h : IsEarliest times t)
    (hpos : ∀ v ∈ times, 0 < v) : IsEarliest (times ++ [u]) (if t = 0 ∨ u < t then u else t) := by
  refine ⟨fun hnil => by simp at hnil, fun _ => ?_⟩
  by_cases hnil : times = []
  · rw [if_pos (.inl (h.1 hnil)), hnil]
    simp
  · obtain ⟨hmem, hle⟩ := h.2 hnil
    have hne := (hpos t hmem).ne'
    constructor
    · split_ifs
      · exact List.mem_append_right _ (List.mem_singleton_self u)
      · exact List.mem_append_left _ hmem
    · intro v hv
      rcases List.mem_append.mp hv with hv | hv
      · have := hle v hv
        split_ifs <;> omega
      · rw [List.mem_singleton.mp hv]
        split_ifs <;> omega

/-- The thresholds of the walk are those of the definition. -/
lemma packetLost_iff (hp : p.Timely rtt now) (hdelay : 0 < lossDelay rtt) :
    packetLost space rtt now largestAcked p = true ↔
      p.Reached space largestAcked ∧ p.Overdue rtt now largestAcked := by
  have hsent : p.timeSent ≤ lostSendTime rtt now ↔ p.timeSent + lossDelay rtt ≤ now := by
    have := hp.sent
    unfold lostSendTime
    split_ifs <;> omega
  unfold packetLost SentPacket.Reached SentPacket.Overdue
  rw [decide_eq_true_iff, hsent, u64Add_of_lt hp.number, and_assoc]
  simp only [ne_eq, hdelay.ne', not_false_eq_true, true_and]

/-- The search for the next deadline finds the earliest one of the packets that are reached. -/
lemma foldl_earlierLoss {packets : List SentPacket} (hp : ∀ p ∈ packets, p.Timely rtt now)
    (hkept : ∀ p ∈ packets, p.Reached space largestAcked → ¬p.Overdue rtt now largestAcked) :
    IsEarliest ((packets.filter (SentPacket.Reached space largestAcked)).map
        fun p => p.timeSent + lossDelay rtt)
      (packets.foldl (earlierLoss space (lossDelay rtt) largestAcked) 0) := by
  induction packets using List.reverseRecOn with
  | nil => exact ⟨fun _ => rfl, fun h => absurd rfl h⟩
  | append_singleton packets p ih =>
    have ih := ih (fun q hq => hp q (List.mem_append_left _ hq))
      fun q hq => hkept q (List.mem_append_left _ hq)
    have hlast := hp p (List.mem_append_right _ (List.mem_singleton_self p))
    rw [List.foldl_append, List.foldl_cons, List.foldl_nil, List.filter_append, List.map_append]
    by_cases hreached : p.Reached space largestAcked
    · have hnumber : ¬p.packetNumber + quicPacketThreshold ≤ largestAcked := fun h =>
        hkept p (List.mem_append_right _ (List.mem_singleton_self p)) hreached (.inl h)
      rw [List.filter_cons_of_pos (by simpa using hreached), earlierLoss,
        u64Add_of_lt hlast.deadline, u64Add_of_lt hlast.number,
        if_neg (not_not.mpr hreached.1), if_neg (not_lt.mpr hreached.2), if_neg hnumber]
      refine ih.concat fun v hv => ?_
      obtain ⟨q, hq, rfl⟩ := List.mem_map.mp hv
      have := (hp q (List.mem_append_left _ (List.mem_of_mem_filter hq))).sent
      omega
    · rw [List.filter_cons_of_neg (by simpa using hreached), List.filter_nil, List.map_nil,
        List.append_nil]
      have hsame : earlierLoss space (lossDelay rtt) largestAcked
          (packets.foldl (earlierLoss space (lossDelay rtt) largestAcked) 0) p =
            packets.foldl (earlierLoss space (lossDelay rtt) largestAcked) 0 := by
        unfold SentPacket.Reached at hreached
        unfold earlierLoss
        split_ifs <;> first | rfl | omega
      rw [hsame]
      exact ih

/-- A walk whose visitor does not touch the list returns, and leaves the entries that do not
match. -/
lemma lossWalk_filters (hit : SentPacket → Bool) (hvisit : KeepsLoss host visit) {fuel : ℕ}
    (hfuel : 3 * (host.loss s).sent.length < fuel) :
    ∃ s' n, IndexWalk.run (lossWalk host hit visit) fuel 0 0 s = some (s', n) ∧
      (host.loss s').sent = (host.loss s).sent.filter fun p => !hit p := by
  have hgentle : IndexWalk.Gentle (lossWalk host hit visit) fun s' =>
      (host.loss s').sent.filter (fun p => !hit p) =
        (host.loss s).sent.filter fun p => !hit p := by
    intro s₁ i p hsame hget hhit _
    obtain ⟨s₂, hvisited, hloss⟩ := hvisit s₁ i p
    obtain ⟨l, hremove, hsent⟩ := removePacket_isSome hget
    refine ⟨s₂, host.setLoss l s₂, [], hvisited, ?_, ?_, by simp, by simp, ?_⟩
    · simp only [lossWalk, hloss, hremove, Option.map_some]
    · simp only [lossWalk, host.loss_setLoss, hsent, List.append_nil]
    · obtain ⟨hlt, hp⟩ : ∃ hlt : i < (host.loss s₁).sent.length, (host.loss s₁).sent[i] = p :=
        List.getElem?_eq_some_iff.mp hget
      have hhead : hit (host.loss s₁).sent[i] = true := hp ▸ hhit
      rw [host.loss_setLoss, hsent, List.eraseIdx_eq_take_drop_succ, ← hsame]
      conv_rhs => rw [← List.take_append_drop i (host.loss s₁).sent, List.drop_eq_getElem_cons hlt]
      rw [List.filter_append, List.filter_append, List.filter_cons, if_neg (by simp [hhead])]
  have hcost : IndexWalk.cost (lossWalk host hit visit) ((host.loss s).sent.drop 0) < fuel := by
    have := List.length_filter_le hit (host.loss s).sent
    simp only [IndexWalk.cost, lossWalk, List.drop_zero]
    omega
  obtain ⟨s', extra, hrun, -, hitems, hextra, hsame⟩ :=
    IndexWalk.run_returns _ hgentle (n := 0) rfl (Nat.zero_le _) (by simp) hcost
  refine ⟨s', _, hrun, ?_⟩
  have hsent : (host.loss s').sent = (host.loss s).sent.filter (fun p => !hit p) ++ extra := by
    simpa [lossWalk] using hitems
  rw [← hsame, eq_comm, List.filter_eq_self, hsent]
  intro p hp
  rcases List.mem_append.mp hp with hp | hp
  · exact (List.mem_filter.mp hp).2
  · simpa [lossWalk] using hextra p hp

/-- Detection takes off the list exactly the packets that are reached and overdue, and arms the
timer for the earliest deadline of the packets that are reached and stay, which is still to come. -/
theorem quicLossDetect_exact (hvisit : KeepsLoss host visit)
    (hdelay : 0 < lossDelay rtt) (hp : ∀ p ∈ (host.loss s).sent, p.Timely rtt now) {fuel : ℕ}
    (hfuel : 3 * (host.loss s).sent.length < fuel) :
    ∃ s', quicLossDetect host fuel space rtt now largestAcked visit s = some s' ∧
      (host.loss s').sent = (host.loss s).sent.filter (fun p =>
        ¬(p.Reached space largestAcked ∧ p.Overdue rtt now largestAcked)) ∧
      IsEarliest (((host.loss s').sent.filter (SentPacket.Reached space largestAcked)).map
        fun p => p.timeSent + lossDelay rtt) (host.loss s').lossTime ∧
      ((∃ p ∈ (host.loss s').sent, p.Reached space largestAcked) → now < (host.loss s').lossTime) := by
  obtain ⟨s₁, n, hrun, hsent⟩ := lossWalk_filters (packetLost space rtt now largestAcked) hvisit hfuel
  have hfilter : (host.loss s).sent.filter (fun p => !packetLost space rtt now largestAcked p) =
      (host.loss s).sent.filter (fun p =>
        ¬(p.Reached space largestAcked ∧ p.Overdue rtt now largestAcked)) := by
    apply List.filter_congr
    intro p hmem
    have hiff : packetLost space rtt now largestAcked p = true ↔ _ :=
      packetLost_iff (hp p hmem) hdelay
    by_cases hlost : packetLost space rtt now largestAcked p = true
    · simp [hlost, hiff.mp hlost]
    · simp [hlost, mt hiff.mpr hlost]
  rw [hfilter] at hsent
  have htimely : ∀ p ∈ (host.loss s₁).sent, p.Timely rtt now := fun p hmem =>
    hp p (List.mem_of_mem_filter (hsent ▸ hmem))
  have hkept : ∀ p ∈ (host.loss s₁).sent, p.Reached space largestAcked →
      ¬p.Overdue rtt now largestAcked := by
    intro p hmem hreached hoverdue
    rw [hsent, List.mem_filter] at hmem
    exact of_decide_eq_true hmem.2 ⟨hreached, hoverdue⟩
  have hearliest := foldl_earlierLoss htimely hkept
  have htime : quicLossTime (host.loss s₁) space rtt largestAcked =
      (host.loss s₁).sent.foldl (earlierLoss space (lossDelay rtt) largestAcked) 0 :=
    if_neg hdelay.ne'
  refine ⟨host.setLoss { host.loss s₁ with
    lossTime := quicLossTime (host.loss s₁) space rtt largestAcked } s₁, ?_, ?_, ?_, ?_⟩
  · rw [quicLossDetect, hrun]
    rfl
  · rw [host.loss_setLoss]
    exact hsent
  · rw [host.loss_setLoss]
    simp only
    rw [htime]
    exact hearliest
  · rw [host.loss_setLoss]
    simp only
    rw [htime]
    rintro ⟨p, hmem, hreached⟩
    -- The timer is set for a packet that is not overdue.
    obtain ⟨hin, -⟩ := hearliest.2 fun hnil => by
      rw [List.map_eq_nil_iff, List.filter_eq_nil_iff] at hnil
      exact hnil p hmem (by simpa using hreached)
    obtain ⟨q, hq, hqtime⟩ := List.mem_map.mp hin
    obtain ⟨hqmem, hqreached⟩ := List.mem_filter.mp hq
    have hdue : ¬q.timeSent + lossDelay rtt ≤ now := fun hle =>
      hkept q hqmem (by simpa using hqreached) (.inr hle)
    rw [← hqtime]
    omega

/-- Packets 1 and 2 are three or more numbers below packet 5, packet 3 is 10000 old, and packet 4 is
due at 10900. -/
theorem quicLossDetect_exact_timer :
    ∃ l, quicLossDetect ⟨id, fun l _ => l, fun _ _ => rfl⟩ 16 0
        { hasSample := true, smoothed := 800 } 10500 5 (fun l _ _ => some l)
        { sent := (List.range 5).map fun i =>
          ⟨0, i + 1, if i = 2 then 500 else 10000, 10, 0, true, true⟩ } = some l ∧
      l.sent.map SentPacket.packetNumber = [4, 5] ∧ 10500 < l.lossTime := by
  obtain ⟨l, hdetect, hsent, -, htimer⟩ := @quicLossDetect_exact Loss ⟨id, fun l _ => l, fun _ _ => rfl⟩
    (fun l _ _ => some l)
    { sent := (List.range 5).map fun i =>
      ⟨0, i + 1, if i = 2 then 500 else 10000, 10, 0, true, true⟩ }
    { hasSample := true, smoothed := 800 } 10500 0 5 (fun l _ _ => ⟨l, rfl, rfl⟩) (by decide)
    (fun p hp => by
      obtain ⟨i, hi, rfl⟩ := List.mem_map.mp hp
      have := List.mem_range.mp hi
      interval_cases i <;> exact ⟨by decide, by decide, by decide, by decide⟩) 16 (by decide)
  have hleft : l.sent = [⟨0, 4, 10000, 10, 0, true, true⟩, ⟨0, 5, 10000, 10, 0, true, true⟩] :=
    hsent.trans (by decide)
  refine ⟨l, hdetect, ?_, htimer ?_⟩
  · rw [hleft]
    rfl
  · refine ⟨⟨0, 4, 10000, 10, 0, true, true⟩, ?_, by decide⟩
    show _ ∈ l.sent
    rw [hleft]
    exact List.mem_cons_self

end

end WebTransport
