import WebTransport.Quic.ConnectionCalls

/-!
# Relations that sending keeps

Sending a frame goes through the checks, the packet layer, the loss walk and the tables of
descriptors and slots, and a loss sends again. A relation that each of these small steps keeps
is kept by everything that is sent, however deep the losses go.
-/

namespace WebTransport

/-- What is to be sent carries a frame that `F` allows in its space, or bytes that were kept. -/
def Outgoing.Carries (F : Space → Frame → Prop) (o : Outgoing) : Prop :=
  ∀ f, o.frame = some f → F o.space f

/-- A relation that every small step of sending keeps, for the frames that `F` allows. -/
structure SendClosed (env : Env) (F : Space → Frame → Prop) (R : Connection → Connection → Prop) :
    Prop where
  refl : ∀ c, R c c
  trans : ∀ {c c' c''}, R c c' → R c' c'' → R c c''
  guard : ∀ o c, R c (sendGuard env o c).connection
  protect : ∀ o c, o.Carries F → R c (sendProtected env o c).1
  report : ∀ c (event : ConnectionEvent), event.IsReport → R c (c.observe event)
  control : ∀ c slot k, R c (c.setControl slot k)
  frame : ∀ c tag f, R c (c.setFrame tag f)
  remove : ∀ {c i l}, removePacket c.loss i = some l → R c { c with loss := l }
  lossTime : ∀ c time, R c { c with loss := { c.loss with lossTime := time } }
  counted : ∀ c counters, counters.retiresReceived = c.counters.retiresReceived →
    R c { c with counters := counters }
  congested : ∀ c time, R c { c with congestion := quicCongestionOnLoss c.congestion time time }

namespace SendClosed

variable {env : Env} {F : Space → Frame → Prop} {R : Connection → Connection → Prop}
  (hR : SendClosed env F R) {c c' : Connection} {status : Status}

include hR

lemma freeFrame (c : Connection) (tag : ℕ) : R c (freeFrame c tag) := by
  unfold WebTransport.freeFrame
  split
  · exact hR.frame _ _ _
  · exact hR.refl c

lemma allocFrame {space : Space} {d : Descriptor} {tag : ℕ}
    (h : allocFrame c space d = some (c', tag)) : R c c' := by
  obtain ⟨t, -, heq⟩ := Option.map_eq_some_iff.mp h
  obtain ⟨rfl, -⟩ := Prod.mk.inj heq
  exact hR.frame _ _ _

lemma tagForControl (c : Connection) (slot : ℕ) : R c (tagForControl c slot).1 := by
  unfold WebTransport.tagForControl WebTransport.allocFrame
  cases freeTag c.frames with
  | none => exact hR.refl c
  | some tag => exact hR.frame _ _ _

section Losses

variable {send : Outgoing → Connection → Option (Connection × Status)}
  (hsend : ∀ o c c' status, o.Carries F → send o c = some (c', status) → R c c')

include hsend

lemma sendEncodedFrame {o : Outgoing} (ho : o.Carries F)
    (h : sendEncodedFrame send o c = some (c', status)) : R c c' := by
  unfold WebTransport.sendEncodedFrame at h
  split at h
  · cases h
  · rename_i heq
    obtain ⟨rfl, -⟩ := Prod.mk.inj (Option.some.inj h)
    exact hsend _ _ _ _ ho heq
  · rename_i heq
    obtain ⟨rfl, -⟩ := Prod.mk.inj (Option.some.inj h)
    split
    · exact hR.trans (hsend _ _ _ _ ho heq) (hR.freeFrame _ _)
    · exact hsend _ _ _ _ ho heq

lemma resendLost {slot : ℕ} (h : resendLost send slot c = some c') : R c c' := by
  have htag := hR.tagForControl c slot
  have hkept : ∀ {space payload asks tag now},
      (⟨space, none, payload, asks, tag, now⟩ : Outgoing).Carries F := by
    intro _ _ _ _ _ f hf
    cases hf
  unfold WebTransport.resendLost at h
  simp only at h
  split at h
  · cases h
  · rename_i heq
    obtain rfl := Option.some.inj h
    exact hR.trans htag (hR.sendEncodedFrame hsend hkept heq)
  · rename_i heq
    obtain rfl := Option.some.inj h
    exact hR.trans (hR.trans htag (hR.sendEncodedFrame hsend hkept heq))
      (hR.trans (hR.control _ _ _) (hR.counted _ _ (by rfl)))

lemma answerLost {descriptor : TxFrame} (h : answerLost send descriptor c = some c') : R c c' := by
  unfold WebTransport.answerLost at h
  split_ifs at h
  · exact hR.resendLost hsend h
  · obtain rfl := Option.some.inj h
    exact hR.refl c
  · obtain rfl := Option.some.inj h
    exact hR.report _ (.lostFrame descriptor) trivial

lemma onLost {i : ℕ} {p : SentPacket} (h : onLost send c i p = some c') : R c c' := by
  have hcount : R c (countLost (c.observe (.declaredLost p)) p) :=
    hR.trans (hR.report _ (.declaredLost p) trivial) (hR.counted _ _ (by rfl))
  unfold WebTransport.onLost at h
  simp only at h
  split_ifs at h
  · obtain rfl := Option.some.inj h
    exact hR.trans hcount (hR.counted _ _ (by rfl))
  · split at h
    · cases h
    · rename_i hanswer
      split at h
      · cases h
      · obtain rfl := Option.some.inj h
        exact hR.trans (hR.trans hcount (hR.freeFrame _ _))
          (hR.trans (hR.answerLost hsend hanswer) (hR.congested _ _))

lemma detectLost {fuel now largest : ℕ} {space : Space}
    (h : detectLost send fuel space now largest c = some c') : R c c' := by
  obtain ⟨r, hr, rfl⟩ := Option.map_eq_some_iff.mp h
  have hwalk : R c r.1 := by
    refine IndexWalk.run_invariant _ (P := fun x => R c x) ?_ hr (hR.refl c)
    intro s s₁ s₂ i p hs _ _ hvisit hremove
    have hvisit : WebTransport.onLost send s i p = some s₁ := hvisit
    obtain ⟨l, hl, rfl⟩ := Option.map_eq_some_iff.mp hremove
    exact hR.trans hs (hR.trans (hR.onLost hsend hvisit) (hR.remove hl))
  exact hR.trans hwalk (hR.lossTime _ _)

end Losses

/-- One packet, with the losses that make room for it. -/
theorem sendPacket (fuel : ℕ) :
    ∀ o c c' status, o.Carries F → sendPacket env fuel o c = some (c', status) → R c c' := by
  induction fuel with
  | zero =>
    intro o c c' status _ h
    cases h
  | succ fuel ih =>
    intro o c c' status ho h
    have hguard := hR.guard o c
    rw [WebTransport.sendPacket] at h
    split at h
    · rename_i heq
      obtain ⟨rfl, -⟩ := Prod.mk.inj (Option.some.inj h)
      rw [heq] at hguard
      exact hguard
    · rename_i c₁ heq
      rw [heq] at hguard
      have hprotect : ∀ c₂, R c c₂ → some (sendProtected env o c₂) = some (c', status) →
          R c c' := by
        intro c₂ hkept h
        rw [show c' = (sendProtected env o c₂).1 by rw [Option.some.inj h]]
        exact hR.trans hkept (hR.protect o c₂ ho)
      split_ifs at h
      · exact hprotect _ hguard h
      · split at h
        · cases h
        · rename_i c₂ hdetect
          have hlost := hR.trans hguard (hR.detectLost ih hdetect)
          split_ifs at h
          · obtain ⟨rfl, -⟩ := Prod.mk.inj (Option.some.inj h)
            exact hlost
          · exact hprotect _ hlost h

variable {fuel now : ℕ}

/-- One frame in a packet of its own. -/
theorem sendOneFrame {space : Space} {frame : Frame} {ackEliciting : Bool}
    {descriptor : Option Descriptor} (hframe : F space frame)
    (h : sendOneFrame env fuel space frame ackEliciting descriptor now c = some (c', status)) :
    R c c' := by
  have hcarries : ∀ {payload asks tag now},
      (⟨space, some frame, payload, asks, tag, now⟩ : Outgoing).Carries F := by
    intro _ _ _ _ f hf
    obtain rfl := Option.some.inj hf
    exact hframe
  unfold WebTransport.sendOneFrame at h
  have hsame : ∀ {r : Connection × Status} {s : Status}, some (c, s) = some r → R c r.1 := by
    intro r s h
    obtain rfl := Option.some.inj h
    exact hR.refl c
  split at h
  · exact hsame h
  split at h
  · exact hsame h
  split at h
  · exact hsame h
  simp only at h
  split at h
  · exact hR.sendEncodedFrame (hR.sendPacket fuel) hcarries h
  · split at h
    · exact hsame h
    · rename_i halloc
      exact hR.trans (hR.allocFrame halloc) (hR.sendEncodedFrame (hR.sendPacket fuel) hcarries h)

/-- One of the connection's own frames. -/
theorem sendControlFrame {space : Space} {frame : Frame} {ackEliciting : Bool}
    (hframe : F space frame)
    (h : sendControlFrame env fuel space frame ackEliciting now c = some (c', status)) :
    R c c' := by
  unfold WebTransport.sendControlFrame at h
  split at h
  · exact hR.sendOneFrame hframe h
  split at h
  · simp only at h
    split at h
    · cases h
    · rename_i heq
      obtain ⟨rfl, -⟩ := Prod.mk.inj (Option.some.inj h)
      exact hR.trans (hR.control _ _ _) (hR.sendOneFrame hframe heq)
    · rename_i heq
      obtain ⟨rfl, -⟩ := Prod.mk.inj (Option.some.inj h)
      exact hR.trans (hR.trans (hR.control _ _ _) (hR.sendOneFrame hframe heq)) (hR.control _ _ _)
  · exact hR.trans (hR.counted _ _ (by rfl)) (hR.sendOneFrame hframe h)

/-- A flagged control frame is sent again. -/
theorem resumeControlFrame {slot : ℕ} (h : resumeControlFrame env fuel slot now c = some c') :
    R c c' := by
  have htag := hR.tagForControl c slot
  have hkept : ∀ {space payload asks tag now},
      (⟨space, none, payload, asks, tag, now⟩ : Outgoing).Carries F := by
    intro _ _ _ _ _ f hf
    cases hf
  unfold WebTransport.resumeControlFrame at h
  simp only at h
  split at h
  · obtain rfl := Option.some.inj h
    exact hR.trans htag (hR.counted _ _ (by rfl))
  split at h
  · cases h
  · rename_i heq
    obtain rfl := Option.some.inj h
    exact hR.trans (hR.trans htag (hR.sendEncodedFrame (hR.sendPacket fuel) hkept heq))
      (hR.control _ _ _)
  · rename_i heq
    obtain rfl := Option.some.inj h
    exact hR.trans (hR.trans htag (hR.sendEncodedFrame (hR.sendPacket fuel) hkept heq))
      (hR.counted _ _ (by rfl))

end SendClosed

/-! ## What is recorded -/

section Trace

variable {env : Env} {fuel : ℕ} {o : Outgoing} {c c' : Connection}

lemma sendProtected_sent (h : sendProtected env o c = (c', .ok)) :
    ∃ n, c'.trace = c.trace ++ [.sent o.space n o.frame o.payload] := by
  unfold sendProtected at h
  simp only at h
  split at h
  · cases h
  split at h
  · rename_i status hnext
    have hstatus := (Prod.mk.inj h).2
    subst hstatus
    unfold quicPnSpaceNext at hnext
    split at hnext
    · cases hnext
    · cases hnext
  rename_i n space' hnext
  split at h
  · cases h
  split at h
  · rename_i status hbuild
    have hstatus := (Prod.mk.inj h).2
    subst hstatus
    exact absurd hbuild (buildPacket_failed _ _ _)
  split at h
  · cases h
  obtain ⟨first, pending, hcount⟩ := countProtected_eq (c.setSpace o.space space') o.space n
  rw [hcount] at h
  split at h
  · rename_i hudp
    exact absurd (Prod.mk.inj h).2 hudp
  split at h
  · rename_i status hloss
    have hstatus := (Prod.mk.inj h).2
    subst hstatus
    unfold quicLossOnSent at hloss
    simp only at hloss
    split_ifs at hloss
    all_goals cases hloss
  · cases h
    exact ⟨n, rfl⟩

lemma tracePrefix_closed (env : Env) (F : Space → Frame → Prop) :
    SendClosed env F fun c c' => c.trace <+: c'.trace where
  refl _ := List.prefix_rfl
  trans := List.IsPrefix.trans
  guard o c := by rw [(sendGuard_tables env o c).trace]
  protect o c _ := by
    rcases (sendProtected_trace env o c).2 with h | ⟨n, h⟩
    · rw [h]
    · rw [h]
      exact List.prefix_append _ _
  report _ _ _ := List.prefix_append _ _
  control _ _ _ := List.prefix_rfl
  frame _ _ _ := List.prefix_rfl
  remove _ := List.prefix_rfl
  lossTime _ _ := List.prefix_rfl
  counted _ _ _ := List.prefix_rfl
  congested _ _ := List.prefix_rfl

/-- Checks that refuse without an error have closed the connection. -/
lemma sendGuard_refuse_ok (h : sendGuard env o c = .refuse c' .ok) :
    quicConnectionIsClosed c' = true := by
  unfold sendGuard at h
  split_ifs at h
  · cases h
  · cases h
  · cases h
  · split at h
    · cases h
    · rename_i hne _
      cases h
      exact absurd rfl hne
  · obtain ⟨rfl, -⟩ := SendGuard.refuse.inj h
    unfold closeWith quicConnectionClose
    split
    · assumption
    · rename_i hopen
      have hnone : c.close.kind = .none := by
        by_contra hkind
        exact hopen (by simp [quicConnectionIsClosed, quicCloseIsClosed, hkind])
      simp [quicConnectionIsClosed, quicCloseIsClosed, quicCloseTransport, closeCommon, hnone]

/-- A packet that is sent without an error is recorded, or the connection has closed. -/
lemma sendPacket_ok (h : sendPacket env fuel o c = some (c', .ok)) :
    c.trace.length < c'.trace.length ∨ quicConnectionIsClosed c' = true := by
  have hclosed := tracePrefix_closed env fun _ _ => True
  cases fuel with
  | zero => cases h
  | succ fuel =>
    have hguard := hclosed.guard o c
    rw [sendPacket] at h
    split at h
    · rename_i heq
      cases h
      exact .inr (sendGuard_refuse_ok heq)
    · rename_i c₁ heq
      rw [heq] at hguard
      have hprotect : ∀ c₂, c.trace <+: c₂.trace → sendProtected env o c₂ = (c', .ok) →
          c.trace.length < c'.trace.length := by
        intro c₂ hprefix hsent
        obtain ⟨n, htrace⟩ := sendProtected_sent hsent
        rw [htrace, List.length_append]
        exact Nat.lt_succ_of_le hprefix.length_le
      split_ifs at h
      · exact .inl (hprotect _ hguard (Option.some.inj h))
      · split at h
        · cases h
        · rename_i c₂ hdetect
          split_ifs at h
          · cases h
          · exact .inl (hprotect _
              (hclosed.trans hguard (hclosed.detectLost (hclosed.sendPacket fuel) hdetect))
              (Option.some.inj h))

end Trace

/-! ## What sending has no part in -/

/-- A connection without what sending writes: the packet number spaces, the sent list and the
window, the tables of what was sent, the keys and their use, the close, and the record. The retires
of the peer are none of it. -/
def Connection.aside (c : Connection) : Connection :=
  { c with
    keysIn := fun _ => none
    keysOut := fun _ => none
    spaces := fun _ => {}
    loss := quicLossInit
    congestion := quicCongestionInit 0
    close := {}
    frames := fun _ => {}
    controlFrames := fun _ => {}
    lastActivity := 0
    keyPhase := false
    keyPhaseIn := false
    nextKeysIn := none
    nextKeysOut := none
    previousKeysIn := none
    keyPhaseFirstPn := none
    keyPhaseInFirstPn := none
    keyUpdateAwaitingConfirmation := false
    keyUpdateResponsePending := false
    keyUpdatesInitiated := 0
    aeadEncrypted := fun _ => 0
    counters := { retiresReceived := c.counters.retiresReceived }
    udpCalls := 0
    trace := [] }

section Aside

variable {env : Env} {o : Outgoing} {c c' : Connection}

lemma closeWith_aside (c : Connection) (errorCode frameType now : ℕ) :
    (closeWith c errorCode frameType now).1.aside = c.aside := by
  unfold closeWith quicConnectionClose
  split
  · rfl
  · rfl

lemma sendGuard_aside (env : Env) (o : Outgoing) (c : Connection) :
    (sendGuard env o c).connection.aside = c.aside := by
  rcases sendGuard_cases env o c with h | h | h
  · rw [h]
  · rw [h]
    exact quicConnectionInitiateKeyUpdate_kept env c Connection.aside fun _ => rfl
  · rw [h]
    exact closeWith_aside c _ _ _

/-- A connection without what protecting a packet and handing it over writes. -/
def Connection.unsealed (c : Connection) : Connection :=
  { c with
    spaces := fun _ => {}
    loss := quicLossInit
    lastActivity := 0
    keyPhaseFirstPn := none
    keyUpdateResponsePending := false
    aeadEncrypted := fun _ => 0
    counters := { retiresReceived := c.counters.retiresReceived }
    udpCalls := 0
    trace := [] }

lemma sendProtected_unsealed (env : Env) (o : Outgoing) (c : Connection) :
    (sendProtected env o c).1.unsealed = c.unsealed := by
  have hcount : ∀ (x : Connection) (n : ℕ), (countProtected x o.space n).unsealed = x.unsealed := by
    intro x n
    unfold countProtected
    split
    · rfl
    · rfl
  unfold sendProtected
  simp only
  split
  · rfl
  split
  · rfl
  split
  · rfl
  split
  · rfl
  split
  · rfl
  split
  · exact hcount _ _
  split
  · exact hcount _ _
  · exact hcount _ _

/-- Protecting a packet touches nothing else, however far it comes. -/
lemma sendProtected_kept (env : Env) (o : Outgoing) (c : Connection) {α : Type} (π : Connection → α)
    (hunsealed : ∀ c, π (Connection.unsealed c) = π c) : π (sendProtected env o c).1 = π c := by
  rw [← hunsealed (sendProtected env o c).1, sendProtected_unsealed, hunsealed]

lemma sendProtected_aside (env : Env) (o : Outgoing) (c : Connection) :
    (sendProtected env o c).1.aside = c.aside :=
  sendProtected_kept env o c Connection.aside fun _ => rfl

/-- Sending leaves alone what it has no part in. -/
lemma aside_closed (env : Env) (F : Space → Frame → Prop) :
    SendClosed env F fun c c' => c'.aside = c.aside where
  refl _ := rfl
  trans h h' := h'.trans h
  guard := sendGuard_aside env
  protect o c _ := sendProtected_aside env o c
  report _ _ _ := rfl
  control _ _ _ := rfl
  frame _ _ _ := rfl
  remove _ := rfl
  lossTime _ _ := rfl
  counted c counters h := by
    unfold Connection.aside
    rw [h]
  congested _ _ := rfl

/-- A connection is as open as it was, or has used up its keys. -/
def CloseKept (c c' : Connection) : Prop :=
  c'.close = c.close ∨ c'.close.kind = .transport ∧ c'.close.errorCode = quicAeadLimitReached

lemma sendGuard_closeKept (env : Env) (o : Outgoing) (c : Connection) :
    CloseKept c (sendGuard env o c).connection := by
  rcases sendGuard_cases env o c with h | h | h
  · rw [h]
    exact .inl rfl
  · rw [h]
    exact .inl (quicConnectionInitiateKeyUpdate_kept env c Connection.close fun _ => rfl)
  · rw [h]
    unfold closeWith quicConnectionClose quicCloseTransport closeCommon
    split
    · exact .inl rfl
    split
    · exact .inl rfl
    · exact .inr ⟨rfl, rfl⟩

lemma sendProtected_close (env : Env) (o : Outgoing) (c : Connection) :
    (sendProtected env o c).1.close = c.close :=
  sendProtected_kept env o c Connection.close fun _ => rfl

/-- Sending closes a connection only when its keys are used up. -/
lemma closeKept_closed (env : Env) (F : Space → Frame → Prop) : SendClosed env F CloseKept where
  refl _ := .inl rfl
  trans h h' := by
    rcases h' with h' | h'
    · unfold CloseKept
      rw [h']
      exact h
    · exact .inr h'
  guard := sendGuard_closeKept env
  protect o c _ := .inl (sendProtected_close env o c)
  report _ _ _ := .inl rfl
  control _ _ _ := .inl rfl
  frame _ _ _ := .inl rfl
  remove _ := .inl rfl
  lossTime _ _ := .inl rfl
  counted _ _ _ := .inl rfl
  congested _ _ := .inl rfl

end Aside

end WebTransport
