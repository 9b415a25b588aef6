import WebTransport.Quic.CallSteps
import WebTransport.Quic.LossOnce
import WebTransport.Quic.SendClosure

/-!
# Losses and the congestion window

A loss halves the congestion window and starts a recovery period, and the losses of packets that were
sent before the period began are part of the same event. `on_lost` lets the period begin when the
lost packet was sent and not when its loss was found, so of several packets that one call declares
lost, one that was sent after the first begins another period and the window is halved again.
-/

namespace WebTransport

/-! ## The controller -/

/-- The controller after the losses of packets sent at some times, each reported as `on_lost` does. -/
def Congestion.afterLosses (g : Congestion) (times : List ℕ) : Congestion :=
  times.foldl (fun g time => quicCongestionOnLoss g time time) g

/-- A window that is smaller, but not below the minimum unless it was. -/
structure Congestion.Shrinks (g g' : Congestion) : Prop where
  size : g'.maxDatagramSize = g.maxDatagramSize
  cwnd : g'.cwnd ≤ g.cwnd
  minimum : quicCongestionMinimumWindow g.maxDatagramSize ≤ g.cwnd →
    quicCongestionMinimumWindow g.maxDatagramSize ≤ g'.cwnd

section Controller

variable {g g' g'' : Congestion} {time first : ℕ} {times rest : List ℕ}

lemma Congestion.Shrinks.refl (g : Congestion) : g.Shrinks g := ⟨rfl, le_rfl, id⟩

lemma Congestion.Shrinks.trans (h : g.Shrinks g') (h' : g'.Shrinks g'') : g.Shrinks g'' := by
  refine ⟨h'.size.trans h.size, h'.cwnd.trans h.cwnd, ?_⟩
  intro hmin
  have hmin' := h'.minimum
  rw [h.size] at hmin'
  exact hmin' (h.minimum hmin)

end Controller

/-! ## One visit -/

/-- The losses of packets that name a descriptor, in the order of the list. -/
def reportedTimes (sent : List SentPacket) : List ℕ :=
  (sent.filter fun p => decide (p.tag < quicConnectionFramesMax)).map (·.timeSent)

/-- The lost packets that name a descriptor own it: it is in use, and no two of them name one. -/
structure OwnDescriptors (hit : SentPacket → Bool) (c : Connection) : Prop where
  used : ∀ p ∈ c.loss.sent, hit p = true → p.tag < quicConnectionFramesMax →
    (c.frames p.tag).inUse = true
  distinct : (c.loss.sent.filter fun p => hit p && decide (p.tag < quicConnectionFramesMax)).Pairwise
    fun p q => p.tag ≠ q.tag

section Visit

variable {env : Env} {c c' : Connection} {p : SentPacket} {i : ℕ}

/-- The controller does not depend on what the answer of the send path was. -/
lemma resendResult_congestion (slot tag : ℕ) (x : Connection) (status : Status) :
    (resendResult slot tag x status).congestion = x.congestion := by
  unfold resendResult freeFrame
  split
  · rfl
  · simp only
    split <;> rfl

/-- Where a visit answers for a descriptor, the loss is reported with the time at the packet's
place in the list. -/
lemma onLost_congestion_of_answer {send : Outgoing → Connection → Option (Connection × Status)}
    (hlt : p.tag < quicConnectionFramesMax) (huse : (c.frames p.tag).inUse = true) {x : Connection}
    (hanswer : answerLost send (c.frames p.tag) (lostState c p) = some x)
    (hthere : x.loss.sent[i]? = some p) (h : onLost send c i p = some c') :
    c'.congestion = quicCongestionOnLoss x.congestion p.timeSent p.timeSent := by
  unfold onLost at h
  simp only at h
  rw [if_neg (by simp [huse, hlt]), freeFrame_eq_lostState, countLost_frames,
    Connection.observe_frames, hanswer] at h
  simp only [hthere] at h
  rw [← Option.some.inj h]

/-- A visit that sends nothing that is lost in turn reports a packet that names a descriptor in use,
and no other. -/
lemma onLost_congestion (hcount : c.loss.sent.length ≤ quicSentPacketsMax)
    (hget : c.loss.sent[i]? = some p)
    (hquiet : ∀ slot, c.slotOf p = some slot →
      sendDetects env (resendOf c slot quicConnectionFramesMax) c = false)
    {fuel : ℕ} (hfuel : quicSentPacketsMax < fuel)
    (h : onLost (sendPacket env (fuel + 1)) c i p = some c') :
    c'.congestion =
      if p.tag < quicConnectionFramesMax ∧ (c.frames p.tag).inUse = true then
        quicCongestionOnLoss c.congestion p.timeSent p.timeSent
      else c.congestion := by
  by_cases hused : p.tag < quicConnectionFramesMax ∧ (c.frames p.tag).inUse = true
  · rw [if_pos hused]
    obtain ⟨hlt, huse⟩ := hused
    cases hslot : c.slotOf p with
    | none =>
      -- The answer sends nothing.
      have hanswer : ∃ x, answerLost (sendPacket env (fuel + 1)) (c.frames p.tag) (lostState c p) =
          some x ∧ x.loss = c.loss ∧ x.congestion = c.congestion := by
        unfold answerLost
        split
        · rename_i hcontrol
          rw [if_neg]
          · exact ⟨_, rfl, rfl, rfl⟩
          · intro hkept
            unfold Connection.slotOf at hslot
            simp only at hslot
            rw [if_pos ⟨hlt, huse, hcontrol, hkept.1, hkept.2⟩] at hslot
            cases hslot
        · exact ⟨_, rfl, rfl, rfl⟩
      obtain ⟨x, hanswer, hloss, hcongestion⟩ := hanswer
      rw [onLost_congestion_of_answer hlt huse hanswer (by rw [hloss]; exact hget) h, hcongestion]
    | some slot =>
      obtain ⟨tag, htag⟩ := freeTag_freeFrame (c := c) hlt
      obtain ⟨⟨x, status⟩, hsend, hend, -⟩ := sendPacket_end env (o := resendOf c slot tag)
        (c := resendState c p slot tag) hcount
        (sendDetects_resend.trans (hquiet slot hslot)) hfuel
      have hnamed : (c.frames p.tag).streamId = quicControlStreamId ∧
          (c.frames p.tag).offset = slot ∧ slot < quicControlFramesMax ∧
          (c.controlFrames slot).inUse = true := by
        unfold Connection.slotOf at hslot
        simp only at hslot
        split at hslot
        · rename_i hall
          obtain rfl := Option.some.inj hslot
          exact ⟨hall.2.2.1, rfl, hall.2.2.2.1, hall.2.2.2.2⟩
        · cases hslot
      obtain ⟨hcontrol, hoffset, hmax, hkept⟩ := hnamed
      have hanswer : answerLost (sendPacket env (fuel + 1)) (c.frames p.tag) (lostState c p) =
          some (resendResult slot tag x status) := by
        unfold answerLost
        rw [if_pos hcontrol, hoffset]
        exact (if_pos ⟨hmax, hkept⟩).trans (resendLost_eq htag hsend)
      have hthere : (resendResult slot tag x status).loss.sent[i]? = some p := by
        rw [resendResult_loss]
        exact hend.getElem? hget
      have hx : x.congestion = c.congestion := by
        cases hend with
        | unsent hkept' => exact hkept'.congestion
        | recorded _ hkept' => exact hkept'.congestion
      rw [onLost_congestion_of_answer hlt huse hanswer hthere h, resendResult_congestion, hx]
  · rw [if_neg hused]
    unfold onLost at h
    simp only at h
    rw [if_pos] at h
    · rw [← Option.some.inj h]
      rfl
    · rw [countLost_frames, Connection.observe_frames]
      by_cases hlt : p.tag < quicConnectionFramesMax
      · right
        simpa using fun huse => hused ⟨hlt, huse⟩
      · exact .inl (not_lt.mp hlt)

end Visit

/-! ## One call -/

/-- What has been reported so far, and the losses that are still to come. -/
structure ReportedSoFar (hit : SentPacket → Bool) (c s : Connection) : Prop where
  own : OwnDescriptors hit s
  split : ∃ done, done ++ reportedTimes (s.loss.sent.filter hit) =
      reportedTimes (c.loss.sent.filter hit) ∧ s.congestion = c.congestion.afterLosses done

section Call

variable {env : Env} {hit : SentPacket → Bool} {c : Connection} {space : Space} {now largest : ℕ}

/-- A visit gives back the descriptor of the packet, and takes one that was free. -/
lemma LostEnd.inUse {p : SentPacket} {s s₁ : Connection} (hend : LostEnd p s s₁) {tag : ℕ}
    (huse : (s.frames tag).inUse = true) (hne : tag < quicConnectionFramesMax → tag ≠ p.tag) :
    (s₁.frames tag).inUse = true := by
  have hfreed : ((freeFrame s p.tag).frames tag).inUse = true := by
    unfold freeFrame
    split
    · rename_i hlt
      have htag : tag ≠ p.tag := by
        intro heq
        exact hne (heq ▸ hlt) heq
      simp only [Connection.setFrame, Function.update_of_ne htag]
      exact huse
    · exact huse
  have htaken : ∀ {free : ℕ} (f : TxFrame), freeTag (freeFrame s p.tag).frames = some free →
      (Function.update (freeFrame s p.tag).frames free f tag).inUse = true := by
    intro free f hfree
    have htag : tag ≠ free := by
      rintro rfl
      rw [(freeTag_spec hfree).2] at hfreed
      cases hfreed
    rw [Function.update_of_ne htag]
    exact hfreed
  cases hend with
  | released _ _ _ _ hframes _ =>
    rw [hframes]
    exact hfreed
  | unsent _ _ _ _ hfree _ _ htables =>
    rcases htables with ⟨hframes, -⟩ | ⟨hframes, -⟩ <;> rw [hframes] <;> exact htaken _ hfree
  | resent _ _ _ _ _ hfree _ _ _ _ _ hframes _ =>
    rw [hframes]
    exact htaken _ hfree

/-- Both conditions on a packet, one after the other. -/
lemma filter_hit_and (sent : List SentPacket) :
    (sent.filter fun p => hit p && decide (p.tag < quicConnectionFramesMax)) =
      (sent.filter hit).filter fun p => decide (p.tag < quicConnectionFramesMax) := by
  rw [List.filter_filter]
  exact List.filter_congr fun p _ => Bool.and_comm _ _

/-- The packets that are still to be visited keep their descriptors. -/
lemma OwnDescriptors.visit {p : SentPacket} {s s₁ : Connection} {l : Loss} (hown : OwnDescriptors hit s)
    (hend : LostEnd p s s₁) (hfilter : s.loss.sent.filter hit = p :: l.sent.filter hit) :
    OwnDescriptors hit { s₁ with loss := l } := by
  have hdistinct := hown.distinct
  rw [filter_hit_and, hfilter, List.filter_cons] at hdistinct
  constructor
  · intro q hq hhit hlt
    have hmem : q ∈ l.sent.filter hit := List.mem_filter.mpr ⟨hq, hhit⟩
    have hbefore : q ∈ s.loss.sent.filter hit := by
      rw [hfilter]
      exact List.mem_cons_of_mem _ hmem
    refine hend.inUse (hown.used q (List.mem_filter.mp hbefore).1 hhit hlt) ?_
    intro _ heq
    rw [if_pos (by simpa using heq ▸ hlt), List.pairwise_cons] at hdistinct
    exact hdistinct.1 q (List.mem_filter.mpr ⟨hmem, by simpa using hlt⟩) heq.symm
  · show (l.sent.filter _).Pairwise _
    rw [filter_hit_and]
    split at hdistinct
    · exact hdistinct.of_cons
    · exact hdistinct

/-- A visit with its removal reports the packet, if it names a descriptor. -/
lemma ReportedSoFar.visit {s s₁ : Connection} {i : ℕ} {p : SentPacket} {l : Loss}
    (hs : Walkable env hit s) (h : ReportedSoFar hit c s) (hget : s.loss.sent[i]? = some p)
    (hhit : hit p = true) (hfirst : ∀ q ∈ s.loss.sent.take i, hit q = false) {fuel : ℕ}
    (hfuel : quicSentPacketsMax < fuel)
    (hvisit : onLost (sendPacket env (fuel + 1)) s i p = some s₁) (hend : LostEnd p s s₁)
    (hremove : removePacket s₁.loss i = some l) : ReportedSoFar hit c { s₁ with loss := l } := by
  have hfilter := filter_of_visit hs hget hhit hfirst hend hremove
  obtain ⟨done, hsplit, hcongestion⟩ := h.split
  refine ⟨h.own.visit hend hfilter, ?_⟩
  have hquiet : ∀ slot, s.slotOf p = some slot →
      sendDetects env (resendOf s slot quicConnectionFramesMax) s = false := by
    intro slot hslot
    have := hs.quiet
    unfold reenters at this
    simpa [find?_of_first hget hhit hfirst, hslot] using this
  have hnext := onLost_congestion hs.tracked.count hget hquiet hfuel hvisit
  rw [hfilter] at hsplit
  by_cases hlt : p.tag < quicConnectionFramesMax
  · have huse := h.own.used p (List.mem_of_getElem? hget) hhit hlt
    refine ⟨done ++ [p.timeSent], ?_, ?_⟩
    · rw [← hsplit]
      simp [reportedTimes, hlt]
    · show s₁.congestion = _
      rw [hnext, if_pos ⟨hlt, huse⟩, hcongestion]
      simp [Congestion.afterLosses]
  · refine ⟨done, ?_, ?_⟩
    · rw [← hsplit]
      simp [reportedTimes, hlt]
    · show s₁.congestion = _
      rw [hnext, if_neg fun hused => hlt hused.1, hcongestion]

end Call

/-! ## Runs -/

section Runs

variable {env : Env} {c c' : Connection} {now : ℕ}

end Runs

/-! ## A burst -/

section Burst

/-- Whether the lost packets own their descriptors can be computed. -/
instance (hit : SentPacket → Bool) (c : Connection) : Decidable (OwnDescriptors hit c) :=
  decidable_of_iff
    ((∀ p ∈ c.loss.sent, hit p = true → p.tag < quicConnectionFramesMax →
        (c.frames p.tag).inUse = true) ∧
      (c.loss.sent.filter fun p => hit p && decide (p.tag < quicConnectionFramesMax)).Pairwise
        fun p q => p.tag ≠ q.tag)
    ⟨fun h => ⟨h.1, h.2⟩, fun h => ⟨h.used, h.distinct⟩⟩

end Burst

end WebTransport
