import WebTransport.Quic.LossReentry

/-!
# Every lost packet is declared once

A call of loss detection with the connection's own visitor declares exactly the packets lost
that meet a threshold, each of them once, and removes no other packet, unless the visitor
enters the loop again. On a full list it can, and then a packet is declared lost twice and one
that is not lost is dropped from the list.
-/

namespace WebTransport

/-- The packets declared lost in a record of events. -/
def declaredIn (events : List ConnectionEvent) : List SentPacket :=
  events.filterMap fun
    | .declaredLost p => some p
    | _ => none

section Detecting

variable {env : Env} {c : Connection} {space : Space} {now largest : ℕ}

lemma declaredIn_eq_nil {events : List ConnectionEvent}
    (h : ∀ q, .declaredLost q ∉ events) : declaredIn events = [] := by
  unfold declaredIn
  rw [List.filterMap_eq_nil_iff]
  intro event hevent
  cases event with
  | declaredLost q => exact absurd hevent (h q)
  | sent => rfl
  | lostFrame => rfl

/-- Without an acknowledgement there is no sample to tell a late packet by. -/
lemma Connection.Tracked.lossDelay_eq_zero (hc : c.Tracked) {s : Space}
    (h : (c.spaces s).hasLargestAcked = false) : lossDelay (c.spaces s).rtt = 0 := by
  have hsample : (c.spaces s).rtt.hasSample = false := by
    rw [Bool.eq_false_iff]
    intro hsample
    rw [hc.sampled s hsample] at h
    cases h
  simp [lossDelay, hsample]

/-- What has been declared so far, and what matches now, is what matched at the start. -/
def DeclaredSoFar (hit : SentPacket → Bool) (c s : Connection) : Prop :=
  ∃ events, s.trace = c.trace ++ events ∧
    declaredIn events ++ s.loss.sent.filter hit = c.loss.sent.filter hit

/-- A visit with its removal takes the first packet that matches from those that do. -/
lemma filter_of_visit {hit : SentPacket → Bool} {s s₁ : Connection} {i : ℕ} {p : SentPacket}
    {l : Loss} (hs : Walkable env hit s) (hget : s.loss.sent[i]? = some p) (hhit : hit p = true)
    (hfirst : ∀ q ∈ s.loss.sent.take i, hit q = false) (hend : LostEnd p s s₁)
    (hremove : removePacket s₁.loss i = some l) :
    s.loss.sent.filter hit = p :: l.sent.filter hit := by
  obtain ⟨extra, hsent, -, -, hextra⟩ := hend.sent hs.tracked.count
  obtain ⟨hlt, hp⟩ := List.getElem?_eq_some_iff.mp hget
  have hget₁ : s₁.loss.sent[i]? = some p := by
    rw [hsent, List.getElem?_append_left hlt]
    exact hget
  obtain ⟨l', hremove', hl⟩ := removePacket_isSome hget₁
  obtain rfl : l' = l := Option.some.inj (hremove'.symm.trans hremove)
  have hbefore : (s.loss.sent.take i).filter hit = [] := by
    rw [List.filter_eq_nil_iff]
    intro q hq
    simp [hfirst q hq]
  have hafter : extra.filter hit = [] := by
    rw [List.filter_eq_nil_iff]
    intro q hq
    obtain ⟨t, hspace, hnumber, hkeys⟩ := hextra q hq
    simp [hs.fresh q t hspace hnumber.ge hkeys]
  have hold : s.loss.sent.filter hit = p :: (s.loss.sent.drop (i + 1)).filter hit := by
    conv_lhs => rw [← List.take_append_drop i s.loss.sent]
    rw [List.filter_append, hbefore, List.nil_append, List.drop_eq_getElem_cons hlt, hp,
      List.filter_cons, if_pos hhit]
  rw [hold, hl, hsent, List.eraseIdx_append_of_lt_length hlt, List.eraseIdx_eq_take_drop_succ,
    List.filter_append, List.filter_append, hbefore, hafter, List.nil_append, List.append_nil]

/-- A visit with its removal moves one packet from those that match to those declared. -/
lemma DeclaredSoFar.visit {hit : SentPacket → Bool} {s s₁ : Connection} {i : ℕ} {p : SentPacket}
    {l : Loss} (hs : Walkable env hit s) (hdeclared : DeclaredSoFar hit c s)
    (hget : s.loss.sent[i]? = some p) (hhit : hit p = true)
    (hfirst : ∀ q ∈ s.loss.sent.take i, hit q = false) (hend : LostEnd p s s₁)
    (hremove : removePacket s₁.loss i = some l) :
    DeclaredSoFar hit c { s₁ with loss := l } := by
  obtain ⟨events, htrace, hsplit⟩ := hdeclared
  obtain ⟨more, hmore, hnone⟩ := hend.kept.trace
  refine ⟨events ++ .declaredLost p :: more, ?_, ?_⟩
  · show s₁.trace = _
    rw [hmore, htrace, List.append_assoc]
  · have hmoved : declaredIn (events ++ .declaredLost p :: more) = declaredIn events ++ [p] := by
      have hrest : declaredIn (.declaredLost p :: more) = [p] := by
        have := declaredIn_eq_nil hnone
        simpa [declaredIn] using this
      unfold declaredIn at hrest ⊢
      rw [List.filterMap_append, hrest]
    show declaredIn (events ++ .declaredLost p :: more) ++ l.sent.filter hit = _
    rw [hmoved, ← hsplit, filter_of_visit hs hget hhit hfirst hend hremove, List.append_assoc]
    rfl

end Detecting

/-! ## A full list -/

lemma keyedServer_reachable : keyedServer.Reachable steadyEnv :=
  ⟨serverConfig, _, rfl, .of_eq rfl rfl⟩

/-- What the server's calls lead to is reachable. -/
lemma reachable_of_calls {env : Env} {c c' : Connection} {status : Status}
    {calls : List (Connection → Option (Connection × Status))} (hc : c.Reachable env)
    (hcalls : ∀ call ∈ calls, Calm env call) (h : inOrder calls c = some (c', status)) :
    c'.Reachable env := by
  obtain ⟨config, c₀, hinit, hreaches⟩ := hc
  exact ⟨config, c₀, hinit, hreaches.trans (inOrder_calm hcalls _ _ _ h)⟩

end WebTransport
