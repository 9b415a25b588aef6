import WebTransport.Quic.ConnectionRun

/-!
# The calls of a connection

Every function of the connection is a sequence of small changes. Sending a frame, taking an
acknowledgement, flushing and a timer are quiet: they change the sending side and leave the
streams and the limits alone. A received frame may change those too. Either way a state a
connection is in after any calls, or in the middle of one, is a reachable one, and what holds
in every reachable state holds there.
-/

namespace WebTransport

section Calls

variable {env : Env} {F : Frame → Prop} {c c' c'' : Connection}

/-- A call that only changes the sending side and what is around it. -/
def Calm (env : Env) (f : Connection → Option (Connection × Status)) : Prop :=
  ∀ c c' status, f c = some (c', status) → Reaches env c c'

/-- A call that is quiet, and only sends frames that `F` allows. -/
def Quietly (env : Env) (F : Frame → Prop) (f : Connection → Option (Connection × Status)) :
    Prop :=
  ∀ c c' status, f c = some (c', status) → Quiet env F c c'

lemma Quietly.calm {f : Connection → Option (Connection × Status)} (h : Quietly env F f) :
    Calm env f :=
  fun c c' status hcall => (h c c' status hcall).reaches

/-- A quiet call that ends before anything has changed. -/
lemma quiet_of_some_eq {status status' : Status} (h : some (c, status') = some (c', status)) :
    Quiet env F c c' := by
  obtain ⟨rfl, -⟩ := Prod.mk.inj (Option.some.inj h)
  exact .refl

/-- Sending one frame. -/
theorem sendOneFrame_quietly (fuel : ℕ) (space : Space) {frame : Frame} (hframe : F frame)
    (ackEliciting : Bool) (descriptor : Option Descriptor) (now : ℕ) :
    Quietly env F (sendOneFrame env fuel space frame ackEliciting descriptor now) := by
  intro c c' status h
  unfold sendOneFrame at h
  split at h
  · exact quiet_of_some_eq h
  split at h
  · exact quiet_of_some_eq h
  split at h
  · exact quiet_of_some_eq h
  simp only at h
  split at h
  · exact (sendEncodedFrame_quiet (sendPacket_tame env F fuel) h (.of_frame rfl hframe)).1
  · split at h
    · exact quiet_of_some_eq h
    · rename_i c₁ tag halloc
      obtain ⟨t, -, heq⟩ := Option.map_eq_some_iff.mp halloc
      obtain ⟨rfl, rfl⟩ := Prod.mk.inj heq
      have hsent := (sendEncodedFrame_quiet (sendPacket_tame env F fuel) h (.of_frame rfl hframe)).1
      exact hsent.after_other rfl rfl rfl rfl rfl

/-- Sending one of the connection's own frames. -/
theorem sendControlFrame_quietly (fuel : ℕ) (space : Space) {frame : Frame} (hframe : F frame)
    (ackEliciting : Bool) (now : ℕ) :
    Quietly env F (sendControlFrame env fuel space frame ackEliciting now) := by
  intro c c' status h
  unfold sendControlFrame at h
  split at h
  · exact sendOneFrame_quietly _ _ hframe _ _ _ _ _ _ h
  split at h
  · rename_i slot wire hslot hwire
    simp only at h
    have hkeep : Quiet env F c (c.setControl slot
        { inUse := true, resendPending := false, space := space, wire := wire }) :=
      .single (.keep slot hframe hwire)
    split at h
    · cases h
    · rename_i c₁ heq
      obtain ⟨rfl, -⟩ := Prod.mk.inj (Option.some.inj h)
      exact hkeep.trans (sendOneFrame_quietly _ _ hframe _ _ _ _ _ _ heq)
    · rename_i c₁ status₁ _ heq
      obtain ⟨rfl, -⟩ := Prod.mk.inj (Option.some.inj h)
      exact (hkeep.trans (sendOneFrame_quietly _ _ hframe _ _ _ _ _ _ heq)).tail
        (.release slot rfl)
  · exact (sendOneFrame_quietly _ _ hframe _ _ _ _ _ _ h).after_other rfl rfl rfl rfl rfl

/-- Sending a frame on behalf of a caller. -/
theorem quicConnectionSendFrame_quietly (fuel : ℕ) (space : Space) {frame : Frame}
    (hframe : F frame) (ackEliciting : Bool) (now : ℕ) :
    Quietly env F (quicConnectionSendFrame env fuel space frame ackEliciting now) := by
  intro c c' status h
  unfold quicConnectionSendFrame at h
  split at h
  · exact quiet_of_some_eq h
  · exact sendControlFrame_quietly _ _ hframe _ _ _ _ _ h

lemma quicConnectionSendFrame_calm (fuel : ℕ) (space : Space) (frame : Frame)
    (ackEliciting : Bool) (now : ℕ) :
    Calm env (quicConnectionSendFrame env fuel space frame ackEliciting now) :=
  (quicConnectionSendFrame_quietly (F := fun _ => True) fuel space trivial ackEliciting now).calm

/-- An acknowledged packet leaves the list, if it is listed. -/
lemma quicLossOnAck_quiet (c : Connection) (space n : ℕ) :
    Quiet env F c { c with loss := (quicLossOnAck c.loss space n).1 } := by
  rcases quicLossOnAck_cases c.loss space n with ⟨h, -⟩ | ⟨i, p, l, -, -, hremove, h⟩
  · rw [h]
    exact .refl
  · rw [h]
    have hstep : Quiet env F c { c with loss := l } := .single (.remove hremove)
    refine hstep.then_other ?_ rfl rfl rfl rfl
    cases p.ackEliciting <;> rfl

lemma releaseAcked_quiet (tag : ℕ) (c : Connection) : Quiet env F c (releaseAcked tag c) := by
  unfold releaseAcked
  split
  · simp only
    split
    · refine Quiet.trans (.single (.release _ ?_)) (freeFrame_quiet _ _)
      rfl
    · exact freeFrame_quiet _ _
  · exact .refl

lemma ackEntry_quiet (space : Space) (f : AckFrame) (w : AckWalk) (p : SentPacket) :
    Quiet env F w.connection (ackEntry space f w p).connection := by
  unfold ackEntry
  split
  · exact .refl
  simp only
  split
  · exact .refl
  · refine Quiet.trans ?_ (releaseAcked_quiet _ _)
    exact (quicLossOnAck_quiet w.connection space.index p.packetNumber).then_other rfl rfl
      rfl rfl rfl

/-- A covered number is at most the frame's largest. -/
lemma ackCovers_le {f : AckFrame} {n : ℕ} (h : ackCovers f n = true) : n ≤ f.largest := by
  unfold ackCovers at h
  simp only at h
  split at h
  · cases h
  · omega

/-- The walk reports only numbers the frame covers. -/
lemma ackEntry_largest_le {space : Space} {f : AckFrame} {w : AckWalk} {p : SentPacket}
    (hw : ∀ r ∈ w.largest, r.1 ≤ f.largest) :
    ∀ r ∈ (ackEntry space f w p).largest, r.1 ≤ f.largest := by
  unfold ackEntry
  split
  · exact hw
  rename_i hcovers
  have hp := ackCovers_le (by simpa using hcovers : ackCovers f p.packetNumber = true)
  simp only
  split
  · exact hw
  · simp only
    split
    · simpa using hp
    · rename_i number time hlargest
      have := hw (number, time) (by simp [hlargest])
      split <;> simpa

/-- The walk makes only such changes, and reports only numbers the frame covers. -/
lemma ackWalk_quiet (env : Env) (F : Frame → Prop) (space : Space) (f : AckFrame)
    (c : Connection) :
    Quiet env F c (ackWalk space f c).connection ∧
      ∀ r ∈ (ackWalk space f c).largest, r.1 ≤ f.largest := by
  have hfold : ∀ (ps : List SentPacket) (w : AckWalk), (∀ r ∈ w.largest, r.1 ≤ f.largest) →
      Quiet env F w.connection (ps.foldl (ackEntry space f) w).connection ∧
        ∀ r ∈ (ps.foldl (ackEntry space f) w).largest, r.1 ≤ f.largest := by
    intro ps
    induction ps with
    | nil => exact fun w hw => ⟨.refl, hw⟩
    | cons p ps ih =>
      intro w hw
      obtain ⟨hquiet, hlargest⟩ := ih _ (ackEntry_largest_le hw)
      exact ⟨(ackEntry_quiet space f w p).trans hquiet, hlargest⟩
  refine hfold _ { connection := c } ?_
  simp

/-- Moving the largest acknowledged number, with a new round trip estimate. -/
lemma Quiet.sample (env : Env) (F : Frame → Prop) {space : Space} (rtt : Rtt) {number : ℕ}
    (h : number < (c.spaces space).nextSend) :
    Quiet env F c (c.setSpace space
      { c.spaces space with rtt := rtt, largestAcked := number, hasLargestAcked := true }) :=
  .single (.sample space rtt h)

lemma ackSample_quiet {space : Space} {f : AckFrame} {now : ℕ} {w : AckWalk}
    (hw : ∀ r ∈ w.largest, r.1 < (w.connection.spaces space).nextSend) :
    Quiet env F w.connection (ackSample space f now w).1 := by
  unfold ackSample
  split
  · exact .refl
  · rename_i number time hlargest
    have hnumber : number < _ := hw (number, time) (by simp [hlargest])
    simp only
    split
    · rename_i status hrefused
      refine .single (.resample space _ ?_)
      unfold quicPnSpaceOnAck at hrefused
      split at hrefused
      · rename_i hlower
        exact (Bool.and_eq_true_iff.mp hlower).1
      · cases hrefused
    · rename_i s' haccepted
      unfold quicPnSpaceOnAck at haccepted
      split at haccepted
      · cases haccepted
      · obtain rfl := Except.ok.inj haccepted
        have hstep := Quiet.sample env F
          (quicRttUpdate (w.connection.spaces space).rtt (u64Sub now time) f.delay
            (maxAckDelayFor w.connection space) w.connection.handshakeConfirmed) hnumber
        split
        · exact Quiet.then_other hstep rfl rfl rfl rfl rfl
        · exact hstep

/-- Giving back what an acknowledged packet held leaves the spaces alone. -/
lemma releaseAcked_spaces (tag : ℕ) (c : Connection) :
    (releaseAcked tag c).spaces = c.spaces := by
  unfold releaseAcked freeFrame
  split
  · simp only
    split <;> rfl
  · rfl

lemma ackWalk_spaces (space : Space) (f : AckFrame) (c : Connection) :
    (ackWalk space f c).connection.spaces = c.spaces := by
  have hentry : ∀ (w : AckWalk) (p : SentPacket),
      (ackEntry space f w p).connection.spaces = w.connection.spaces := by
    intro w p
    unfold ackEntry
    split
    · rfl
    · simp only
      split
      · rfl
      · exact releaseAcked_spaces _ _
  have hfold : ∀ (ps : List SentPacket) (w : AckWalk),
      (ps.foldl (ackEntry space f) w).connection.spaces = w.connection.spaces := by
    intro ps
    induction ps with
    | nil => exact fun w => rfl
    | cons p ps ih => exact fun w => (ih _).trans (hentry w p)
  exact hfold _ _

/-- Loss detection as the acknowledgement and the timer call it. -/
lemma detectLost_quietly (fuel : ℕ) (space : Space) (now largest : ℕ) :
    Quietly env F fun c =>
      (detectLost (sendPacket env fuel) fuel space now largest c).map fun c => (c, .ok) := by
  intro c c' status h
  obtain ⟨c₁, hdetect, heq⟩ := Option.map_eq_some_iff.mp h
  obtain ⟨rfl, -⟩ := Prod.mk.inj heq
  exact (detectLost_quiet (sendPacket_tame env F fuel) hdetect).1

/-- An acknowledgement. -/
theorem handleAck_quietly (fuel : ℕ) (space : Space) (f : AckFrame) (now : ℕ) :
    Quietly env F (handleAck env fuel space f now) := by
  intro c c' status h
  unfold handleAck at h
  split at h
  · obtain ⟨rfl, -⟩ := Prod.mk.inj (Option.some.inj h)
    exact closeWith_quiet _ (by decide) _ _
  split at h
  · obtain ⟨rfl, -⟩ := Prod.mk.inj (Option.some.inj h)
    exact closeWith_quiet _ (by decide) _ _
  rename_i hsent
  obtain ⟨hwalk, hlargest⟩ := ackWalk_quiet env F space f c
  have hnext : f.largest < (c.spaces space).nextSend := by
    simp only [not_or, not_le] at hsent
    exact hsent.2
  have hsample : Quiet env F (ackWalk space f c).connection
      (ackSample space f now (ackWalk space f c)).1 := by
    refine ackSample_quiet ?_
    intro r hr
    rw [ackWalk_spaces]
    exact (hlargest r hr).trans_lt hnext
  split at h
  · rename_i c₁ heq
    rw [heq] at hsample
    exact (hwalk.trans hsample).trans (detectLost_quietly _ _ _ _ _ _ _ h)
  · rename_i c₁ status₁ _ heq
    rw [heq] at hsample
    obtain ⟨rfl, -⟩ := Prod.mk.inj (Option.some.inj h)
    exact hwalk.trans hsample

lemma handleAck_calm (fuel : ℕ) (space : Space) (f : AckFrame) (now : ℕ) :
    Calm env (handleAck env fuel space f now) :=
  (handleAck_quietly (F := fun _ => True) fuel space f now).calm

/-! ## Flushing and timers -/

/-- The frames a connection sends on its own to keep itself going are allowed. -/
structure Upkeep (F : Frame → Prop) : Prop where
  ping : F .ping
  ack : ∀ f, F (.ack f)
  challenge : ∀ data, F (.pathChallenge data)
  closeTransport : ∀ f, F (.connectionCloseTransport f)
  closeApplication : ∀ f, F (.connectionCloseApplication f)

/-- A call that ends before anything has changed. -/
lemma reaches_of_some_eq {status status' : Status} (h : some (c, status') = some (c', status)) :
    Reaches env c c' := by
  obtain ⟨rfl, -⟩ := Prod.mk.inj (Option.some.inj h)
  exact .refl

lemma inOrder_calm {steps : List (Connection → Option (Connection × Status))}
    (hsteps : ∀ step ∈ steps, Calm env step) : Calm env (inOrder steps) := by
  induction steps with
  | nil => exact fun c c' status h => reaches_of_some_eq h
  | cons step steps ih =>
    intro c c' status h
    have hstep : Calm env step := hsteps step (by simp)
    rw [inOrder] at h
    split at h
    · cases h
    · rename_i c₁ heq
      exact (hstep _ _ _ heq).trans (ih (fun s hs => hsteps s (by simp [hs])) _ _ _ h)
    · rename_i c₁ status₁ _ heq
      obtain ⟨rfl, -⟩ := Prod.mk.inj (Option.some.inj h)
      exact hstep _ _ _ heq

lemma flushSpace_quietly (hF : Upkeep F) (fuel : ℕ) (space : Space) (probe force : Bool)
    (now : ℕ) : Quietly env F (flushSpace env fuel space probe force now) := by
  intro c c' status h
  unfold flushSpace at h
  split at h
  · exact quiet_of_some_eq h
  split at h
  · exact quiet_of_some_eq h
  split at h
  · exact sendControlFrame_quietly _ _ hF.ping _ _ _ _ _ h
  split at h
  · exact quiet_of_some_eq h
  simp only at h
  split at h
  · exact quiet_of_some_eq h
  split at h
  · cases h
  · rename_i c₁ heq
    obtain ⟨rfl, -⟩ := Prod.mk.inj (Option.some.inj h)
    refine (sendControlFrame_quietly _ _ (hF.ack _) _ _ _ _ _ heq).tail
      (.other ⟨rfl, ?_⟩ rfl rfl rfl)
    intro s
    by_cases hs : s = space
    · subst hs
      exact ⟨quicAckSent (c₁.spaces s).received, by simp [acknowledged]⟩
    · exact ⟨(c₁.spaces s).received, by simp [acknowledged, hs]⟩
  · rename_i c₁ status₁ _ heq
    obtain ⟨rfl, -⟩ := Prod.mk.inj (Option.some.inj h)
    exact sendControlFrame_quietly _ _ (hF.ack _) _ _ _ _ _ heq

/-! ## Streams and connection IDs -/

lemma forgetPeerConnectionId_quietly (hF : ∀ n, F (.retireConnectionId n)) (fuel sequence now : ℕ) :
    Quietly env F (forgetPeerConnectionId env fuel sequence now) := by
  intro c c' status h
  unfold forgetPeerConnectionId at h
  split at h
  · exact quiet_of_some_eq h
  split at h
  · cases h
  · rename_i c₁ heq
    obtain ⟨rfl, -⟩ := Prod.mk.inj (Option.some.inj h)
    exact (quicConnectionSendFrame_quietly _ _ (hF _) _ _ _ _ _ heq).then_other rfl rfl rfl rfl rfl
  · rename_i c₁ status₁ _ heq
    obtain ⟨rfl, -⟩ := Prod.mk.inj (Option.some.inj h)
    exact quicConnectionSendFrame_quietly _ _ (hF _) _ _ _ _ _ heq

/-- Giving up every connection ID below a sequence number. -/
lemma forgetBelow_quietly (hF : ∀ n, F (.retireConnectionId n))
    (fuel retirePriorTo now rounds : ℕ) :
    Quietly env F (forgetBelow env fuel retirePriorTo now rounds) := by
  induction rounds with
  | zero => exact fun c c' status h => quiet_of_some_eq h
  | succ rounds ih =>
    intro c c' status h
    rw [forgetBelow] at h
    split at h
    · exact quiet_of_some_eq h
    split at h
    · cases h
    · rename_i c₁ heq
      exact (forgetPeerConnectionId_quietly hF _ _ _ _ _ _ heq).trans (ih _ _ _ h)
    · rename_i c₁ status₁ _ heq
      obtain ⟨rfl, -⟩ := Prod.mk.inj (Option.some.inj h)
      exact forgetPeerConnectionId_quietly hF _ _ _ _ _ _ heq

lemma adoptStoredPeerId_quiet (slot : ℕ) (c : Connection) :
    Quiet env F c (adoptStoredPeerId slot c) := by
  unfold adoptStoredPeerId adoptPeerConnectionId
  split
  · exact .refl
  · simp only
    split
    · exact .of_eq rfl rfl rfl rfl rfl
    · exact .of_eq rfl rfl rfl rfl rfl

lemma handleNewConnectionId_quietly (hF : ∀ n, F (.retireConnectionId n)) (fuel : ℕ)
    (f : NewConnectionIdFrame) (now : ℕ) :
    Quietly env F (handleNewConnectionId env fuel f now) := by
  intro c c' status h
  have hclose : ∀ c₁ code, some (closeWith c₁ code 0x18 now) = some (c', status) →
      code ∉ streamErrors → Quiet env F c c₁ → Quiet env F c c' := by
    intro c₁ code h hcode hquiet
    have h := Option.some.inj h
    rw [show c' = (closeWith c₁ code 0x18 now).1 by rw [h]]
    exact hquiet.trans (closeWith_quiet _ hcode _ _)
  unfold handleNewConnectionId at h
  split at h
  · exact hclose _ _ h (by decide) .refl
  split at h
  · exact hclose _ _ h (by decide) .refl
  split at h
  · split at h
    · exact hclose _ _ h (by decide) .refl
    · exact quiet_of_some_eq h
  simp only at h
  split at h
  · exact hclose _ _ h (by decide) (.of_eq rfl rfl rfl rfl rfl)
  generalize (if c.config.localActiveConnectionIdLimit = 0 then 2
    else c.config.localActiveConnectionIdLimit) - 1 = allowed at h
  split at h
  · exact hclose _ _ h (by decide) (.of_eq rfl rfl rfl rfl rfl)
  · have hforget := forgetBelow_quietly hF _ _ _ _ _ _ _ h
    split at hforget
    · exact ((adoptStoredPeerId_quiet _ _).trans hforget).after_other rfl rfl rfl rfl rfl
    · exact hforget.after_other rfl rfl rfl rfl rfl

/-! ## Received frames -/

end Calls

end WebTransport
