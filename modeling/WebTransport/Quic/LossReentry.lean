import WebTransport.Quic.ConnectionCalls

/-!
# Loss detection that sends

The visitor of the loss loops sends lost control frames again, and a send that finds the sent
list full declares packets lost itself, on the list that is being walked. `reenters` says when
that happens: the list is full, the first packet the loop comes to carries a retained control
frame that may be sent, and the packet that is to carry it again finds something to declare
lost. The loop and the send path are exact otherwise, and only the first visit can go wrong,
because the packet it removes makes room for every later one.
-/

namespace WebTransport

/-! ## What the visitor finds -/

/-- The slot that a packet's descriptor names, when both are in use. -/
def Connection.slotOf (c : Connection) (p : SentPacket) : Option ℕ :=
  let d := c.frames p.tag
  if p.tag < quicConnectionFramesMax ∧ d.inUse ∧ d.streamId = quicControlStreamId ∧
      d.offset < quicControlFramesMax ∧ (c.controlFrames d.offset).inUse then some d.offset
  else none

/-- The packet that carries the frame of a slot again. -/
def resendOf (c : Connection) (slot tag : ℕ) : Outgoing :=
  { space := (c.controlFrames slot).space
    frame := none
    payload := (c.controlFrames slot).wire
    ackEliciting := true
    tag := tag
    now := c.lastActivity }

/-- Whether the checks before a packet is protected let it through. -/
def SendGuard.passes : SendGuard → Bool
  | .pass _ => true
  | .refuse .. => false

/-- Whether a send declares a packet lost when it has to make room. -/
def findsLost (o : Outgoing) (c : Connection) : Bool :=
  c.loss.sent.any (packetLost o.space.index (c.spaces o.space).rtt o.now
    (c.spaces o.space).ackedSoFar)

/-- Whether a send, as things stand, runs loss detection to an effect. -/
def sendDetects (env : Env) (o : Outgoing) (c : Connection) : Bool :=
  decide (quicSentPacketsMax ≤ c.loss.sent.length) && (sendGuard env o c).passes && findsLost o c

/-- Whether a loss loop is entered again from the visit of the first packet it comes to. -/
def reenters (env : Env) (c : Connection) (hit : SentPacket → Bool) : Bool :=
  ((c.loss.sent.find? hit).bind c.slotOf).any fun slot =>
    sendDetects env (resendOf c slot quicConnectionFramesMax) c

/-! ## A send that declares nothing lost -/

/-- The ends `send_packet` can come to when it declares nothing lost. -/
inductive SendEnd (o : Outgoing) (c : Connection) : Connection × Status → Prop
  | unsent {c' : Connection} {status : Status} (hkept : c.Kept o c')
      (hsent : c'.loss.sent = c.loss.sent) (hactivity : c'.lastActivity = c.lastActivity)
      (hspaces : c'.spaces = c.spaces ∨
        ((c.spaces o.space).hasSent = true → (c.spaces o.space).nextSend ≤ quicPacketNumberMax) ∧
          c'.spaces = Function.update c.spaces o.space (c.spaces o.space).numbered) :
      SendEnd o c (c', status)
  | recorded {c' : Connection} (length : ℕ) (hkept : c.Kept o c')
      (hroom : c.loss.sent.length < quicSentPacketsMax)
      (hsent : c'.loss.sent =
        c.loss.sent ++ [sentPacketOf o (c.spaces o.space).nextSend length])
      (hactivity : c'.lastActivity = o.now)
      (hkeys : ¬(o.space = .initial ∧ c.retryPendingKeys = true))
      (hnumber : (c.spaces o.space).hasSent = true →
        (c.spaces o.space).nextSend ≤ quicPacketNumberMax)
      (hspaces : c'.spaces = Function.update c.spaces o.space (c.spaces o.space).numbered) :
      SendEnd o c (c', .ok)

section Sending

variable {env : Env} {o : Outgoing} {c c' : Connection}

/-- The checks before a send leave alone what a send leaves alone. -/
lemma Connection.SameTables.kept (h : c.SameTables c')
    (hbelow : c.aeadEncrypted o.space < c.aeadConfidentialityLimit → c' = c) : c.Kept o c' := by
  refine ⟨h.config, h.hasPeer, h.congestion, h.peerClosed, h.peerLimits, h.streams, h.flow,
    h.frames, h.controlFrames, h.limit, h.retryPendingKeys, ?_, .inl h.trace⟩
  intro hspare
  rw [hbelow hspare]
  exact ⟨rfl, fun _ => Nat.le_add_right _ _⟩

/-- What a send leaves alone after the checks, it leaves alone altogether. -/
lemma Connection.Kept.of_tables {c₁ : Connection} (h : c.SameTables c₁)
    (hbelow : c.aeadEncrypted o.space < c.aeadConfidentialityLimit → c₁ = c)
    (hkept : c₁.Kept o c') : c.Kept o c' := by
  refine ⟨hkept.config.trans h.config, hkept.hasPeer.trans h.hasPeer,
    hkept.congestion.trans h.congestion, hkept.peerClosed.trans h.peerClosed,
    hkept.peerLimits.trans h.peerLimits, hkept.streams.trans h.streams, hkept.flow.trans h.flow,
    hkept.frames.trans h.frames, hkept.controlFrames.trans h.controlFrames,
    hkept.limit.trans h.limit, hkept.retryPendingKeys.trans h.retryPendingKeys, ?_, ?_⟩
  · intro hspare
    obtain rfl := hbelow hspare
    exact hkept.spare hspare
  · rw [← h.trace, ← h.spaces]
    exact hkept.trace

/-- The end of a send after the checks is the end of the whole send. -/
lemma ProtectEnd.sendEnd {c₁ : Connection} {r : Connection × Status}
    (hcount : c.loss.sent.length ≤ quicSentPacketsMax) (h : c.SameTables c₁)
    (hbelow : c.aeadEncrypted o.space < c.aeadConfidentialityLimit → c₁ = c)
    (hend : ProtectEnd o c₁ r) : SendEnd o c r := by
  cases hend with
  | refused hstatus =>
    exact .unsent (h.kept hbelow) (by rw [h.loss]) h.lastActivity (.inl h.spaces)
  | spent hstatus hkept hloss hactivity hroom hspaces =>
    rw [h.spaces] at hroom hspaces
    exact .unsent (.of_tables h hbelow hkept) (by rw [hloss, h.loss])
      (hactivity.trans h.lastActivity) (.inr ⟨hroom, hspaces⟩)
  | recorded length hkept hloss hactivity hkeys hroom hspaces =>
    rw [h.spaces] at hroom hspaces hloss
    rw [h.loss] at hloss
    rw [h.retryPendingKeys] at hkeys
    obtain ⟨-, hlen, hsent, -, -⟩ := quicLossOnSent_ok hloss
    exact .recorded length (.of_tables h hbelow hkept) (lt_of_le_of_ne hcount hlen) hsent hactivity
      hkeys hroom hspaces

/-- Detection that finds nothing only arms the loss timer. -/
lemma detectLost_of_none (send : Outgoing → Connection → Option (Connection × Status)) {fuel : ℕ}
    {space : Space} {now largest : ℕ} (hfuel : c.loss.sent.length < fuel)
    (hnone : ∀ p ∈ c.loss.sent,
      packetLost space.index (c.spaces space).rtt now largest p = false) :
    detectLost send fuel space now largest c = some { c with loss := { c.loss with
      lossTime := quicLossTime c.loss space.index (c.spaces space).rtt largest } } := by
  have hrun := IndexWalk.run_of_none
    (lossWalk connectionHost (packetLost space.index (c.spaces space).rtt now largest) (onLost send))
    (s := c) hnone hfuel
  unfold detectLost quicLossDetect
  rw [hrun]
  rfl

/-- The keys of a space may be used once more, or be followed by others. -/
def Connection.MaySeal (c : Connection) (space : Space) : Prop :=
  c.aeadEncrypted space < c.aeadConfidentialityLimit ∨
    space = .application ∧ quicConnectionKeyUpdateAllowed c = true

/-- A packet that is refused while the keys may be used is refused with a status of its own. -/
lemma sendGuard_refuse_ne_ok (hkeys : c.MaySeal o.space) {status : Status}
    (h : sendGuard env o c = .refuse c' status) : status ≠ .ok := by
  unfold sendGuard at h
  split_ifs at h with hnone hpeer hsize hlimit hupdate
  · cases h
    decide
  · cases h
    decide
  · cases h
    decide
  · split at h
    · cases h
    · rename_i c₁ status₁ hne heq
      cases h
      exact hne
  · exfalso
    rcases hkeys with hroom | hallowed
    · exact absurd hroom (not_lt.mpr hlimit)
    · exact hupdate hallowed

/-- A send that declares nothing lost returns, and ends in one of two ways. When the keys may be
used, a success means that the packet is listed. -/
theorem sendPacket_end (env : Env) (hcount : c.loss.sent.length ≤ quicSentPacketsMax)
    (hquiet : sendDetects env o c = false) {fuel : ℕ} (hfuel : quicSentPacketsMax < fuel) :
    ∃ r, sendPacket env (fuel + 1) o c = some r ∧ SendEnd o c r ∧
      (c.MaySeal o.space → r.2 = .ok → r.1.loss.sent ≠ c.loss.sent) := by
  have htables := sendGuard_tables env o c
  have hbelow : c.aeadEncrypted o.space < c.aeadConfidentialityLimit →
      (sendGuard env o c).connection = c := sendGuard_below
  unfold sendDetects at hquiet
  rw [sendPacket]
  cases hguard : sendGuard env o c with
  | refuse c₁ status =>
    rw [hguard] at htables hbelow
    have htables : c.SameTables c₁ := htables
    exact ⟨_, rfl, .unsent (htables.kept hbelow) (by rw [htables.loss]) htables.lastActivity
      (.inl htables.spaces), fun hkeys hok => absurd hok (sendGuard_refuse_ne_ok hkeys hguard)⟩
  | pass c₁ =>
    rw [hguard] at htables hbelow hquiet
    have htables : c.SameTables c₁ := htables
    simp only
    by_cases hroom : c₁.loss.sent.length < quicSentPacketsMax
    · rw [if_pos hroom]
      have hend := sendProtected_end env o c₁
      refine ⟨_, rfl, hend.sendEnd hcount htables hbelow, ?_⟩
      intro _ hok
      generalize sendProtected env o c₁ = r at hend hok ⊢
      cases hend with
      | refused h => exact absurd hok h
      | spent h => exact absurd hok h
      | recorded length _ hloss =>
        obtain ⟨-, -, hsent, -, -⟩ := quicLossOnSent_ok hloss
        simp only [hsent, htables.loss]
        exact fun heq => by simpa using congrArg List.length heq
    · rw [if_neg hroom]
      have hfull : quicSentPacketsMax ≤ c.loss.sent.length := by
        rw [← htables.loss]
        omega
      -- The list is full, and nothing on it is lost.
      have hnone : ∀ p ∈ c₁.loss.sent, packetLost o.space.index (c₁.spaces o.space).rtt o.now
          (c₁.spaces o.space).ackedSoFar p = false := by
        rw [htables.loss, htables.spaces]
        simpa [SendGuard.passes, hfull, findsLost] using hquiet
      have hlen : c₁.loss.sent.length < fuel := by
        rw [htables.loss]
        omega
      have hdetect := detectLost_of_none (sendPacket env fuel) hlen hnone
      rw [hdetect]
      simp only
      rw [if_pos (by rw [htables.loss]; exact hfull)]
      refine ⟨_, rfl, .unsent ?_ ?_ ?_ ?_, fun _ hok => by cases hok⟩
      · exact ⟨htables.config, htables.hasPeer, htables.congestion, htables.peerClosed,
          htables.peerLimits, htables.streams, htables.flow, htables.frames,
          htables.controlFrames, htables.limit, htables.retryPendingKeys, (htables.kept hbelow).spare,
          .inl htables.trace⟩
      · rw [htables.loss]
      · exact htables.lastActivity
      · exact .inl htables.spaces

end Sending

/-! ## One visit -/

/-- What the visit of a lost packet leaves alone. It is declared lost once, and nothing else
is; as long as the frame it carried may be sent with its keys, the connection stays open. -/
structure Connection.LostKept (p : SentPacket) (c c' : Connection) : Prop where
  config : c'.config = c.config
  peerClosed : c'.peerClosed = c.peerClosed
  limit : c'.aeadConfidentialityLimit = c.aeadConfidentialityLimit
  retryPendingKeys : c'.retryPendingKeys = c.retryPendingKeys
  spare : (∀ slot, c.slotOf p = some slot →
      c.aeadEncrypted (c.controlFrames slot).space < c.aeadConfidentialityLimit) →
    c'.close = c.close ∧ ∀ s, c'.aeadEncrypted s ≤ c.aeadEncrypted s + 1
  trace : ∃ events, c'.trace = c.trace ++ .declaredLost p :: events ∧
    ∀ q, .declaredLost q ∉ events

/-- The descriptor that stands for the frame of a slot. -/
def slotDescriptor (c : Connection) (slot : ℕ) : TxFrame :=
  { inUse := true
    space := (c.controlFrames slot).space
    isCrypto := false
    streamId := quicControlStreamId
    offset := slot
    length := (c.controlFrames slot).wire.length }

/-- The ends the visit of a lost packet can come to. -/
inductive LostEnd (p : SentPacket) (c : Connection) : Connection → Prop
  | released {c' : Connection} (hkept : c.LostKept p c') (hslot : c.slotOf p = none)
      (hsent : c'.loss.sent = c.loss.sent) (hspaces : c'.spaces = c.spaces)
      (hframes : c'.frames = (freeFrame c p.tag).frames)
      (hcontrol : c'.controlFrames = c.controlFrames) : LostEnd p c c'
  | unsent {c' : Connection} (slot tag : ℕ) (hkept : c.LostKept p c')
      (hslot : c.slotOf p = some slot) (htag : freeTag (freeFrame c p.tag).frames = some tag)
      (hsent : c'.loss.sent = c.loss.sent)
      (hspaces : c'.spaces = c.spaces ∨
        ((c.spaces (c.controlFrames slot).space).hasSent = true →
          (c.spaces (c.controlFrames slot).space).nextSend ≤ quicPacketNumberMax) ∧
        c'.spaces = Function.update c.spaces (c.controlFrames slot).space
          (c.spaces (c.controlFrames slot).space).numbered)
      (htables : c'.frames =
            Function.update (freeFrame c p.tag).frames tag (slotDescriptor c slot) ∧
          c'.controlFrames = c.controlFrames ∨
        c'.frames = Function.update (freeFrame c p.tag).frames tag
            { slotDescriptor c slot with inUse := false } ∧
          c'.controlFrames = Function.update c.controlFrames slot
            { c.controlFrames slot with resendPending := true }) : LostEnd p c c'
  | resent {c' : Connection} (slot tag length : ℕ) (hkept : c.LostKept p c')
      (hslot : c.slotOf p = some slot) (htag : freeTag (freeFrame c p.tag).frames = some tag)
      (hroom : c.loss.sent.length < quicSentPacketsMax)
      (hsent : c'.loss.sent = c.loss.sent ++ [sentPacketOf (resendOf c slot tag)
        (c.spaces (c.controlFrames slot).space).nextSend length])
      (hkeys : ¬((c.controlFrames slot).space = .initial ∧ c.retryPendingKeys = true))
      (hnumber : (c.spaces (c.controlFrames slot).space).hasSent = true →
        (c.spaces (c.controlFrames slot).space).nextSend ≤ quicPacketNumberMax)
      (hspaces : c'.spaces = Function.update c.spaces (c.controlFrames slot).space
        (c.spaces (c.controlFrames slot).space).numbered)
      (hframes : c'.frames =
        Function.update (freeFrame c p.tag).frames tag (slotDescriptor c slot))
      (hcontrol : c'.controlFrames = c.controlFrames) : LostEnd p c c'

section Visiting

variable {env : Env} {c : Connection} {p : SentPacket}

/-- The status of a key update depends only on the keys and on the two flags. -/
lemma quicConnectionInitiateKeyUpdate_status (env : Env) {c c' : Connection} (hout : c'.keysOut = c.keysOut)
    (hin : c'.keysIn = c.keysIn) (hconfirmed : c'.handshakeConfirmed = c.handshakeConfirmed)
    (hawaiting : c'.keyUpdateAwaitingConfirmation = c.keyUpdateAwaitingConfirmation) :
    (quicConnectionInitiateKeyUpdate env c').2 = (quicConnectionInitiateKeyUpdate env c).2 := by
  unfold quicConnectionInitiateKeyUpdate
  rw [hout, hin, hconfirmed, hawaiting]
  cases c.keysOut .application with
  | none => rfl
  | some keysOut =>
    simp only
    split_ifs
    · rfl
    · rfl
    · cases env.packetKeysUpdate keysOut with
      | error status => rfl
      | ok keysOut =>
        simp only
        cases env.packetKeysUpdate ((c.keysIn .application).getD ⟨[]⟩) <;> rfl

/-- A packet that needs new keys is let through when it gets them. -/
lemma passes_of_update (r : Connection × Status) :
    (match r with
      | (c, .ok) => SendGuard.pass c
      | (c, status) => SendGuard.refuse c status).passes = decide (r.2 = .ok) := by
  obtain ⟨c, status⟩ := r
  cases status <;> rfl

/-- Whether a packet is let through does not depend on the descriptors, on the record of an
observer or on the counters. -/
lemma sendGuard_passes_congr {o o' : Outgoing} {frames : ℕ → TxFrame}
    {trace : List ConnectionEvent} {counters : ConnectionCounters} (hspace : o'.space = o.space)
    (hpayload : o'.payload = o.payload) :
    (sendGuard env o' { c with frames := frames, trace := trace, counters := counters }).passes =
      (sendGuard env o c).passes := by
  have hallowed : quicConnectionKeyUpdateAllowed
      { c with frames := frames, trace := trace, counters := counters } =
        quicConnectionKeyUpdateAllowed c := rfl
  have hstatus : (quicConnectionInitiateKeyUpdate env
      { c with frames := frames, trace := trace, counters := counters }).2 =
        (quicConnectionInitiateKeyUpdate env c).2 :=
    quicConnectionInitiateKeyUpdate_status env rfl rfl rfl rfl
  unfold sendGuard
  rw [hspace, hpayload]
  simp only [hallowed]
  split_ifs
  · rfl
  · rfl
  · rfl
  · refine (passes_of_update _).trans (Eq.trans ?_ (passes_of_update _).symm)
    rw [hstatus]
  · rfl
  · rfl

/-- Counting a lost packet leaves the descriptors alone. -/
@[simp] lemma countLost_frames : (countLost c p).frames = c.frames := rfl

/-- A packet whose descriptor is not in use holds none to give back. -/
lemma freeFrame_frames_of_unused (h : quicConnectionFramesMax ≤ p.tag ∨ (c.frames p.tag).inUse = false) :
    (freeFrame c p.tag).frames = c.frames := by
  unfold freeFrame
  split
  · rename_i htag
    have hunused : (c.frames p.tag).inUse = false := h.resolve_left (by omega)
    rw [Connection.setFrame_frames]
    refine Function.update_eq_self_iff.mpr ?_
    rw [← hunused]
  · rfl

/-- A descriptor that is given back can be taken again. -/
lemma freeTag_freeFrame (h : p.tag < quicConnectionFramesMax) :
    ∃ tag, freeTag (freeFrame c p.tag).frames = some tag := by
  rw [← Option.isSome_iff_exists]
  unfold freeTag freeFrame
  rw [if_pos h, List.find?_isSome]
  exact ⟨p.tag, by simpa using h, by simp⟩

/-- A lost packet has been counted and its descriptor given back. -/
def lostState (c : Connection) (p : SentPacket) : Connection :=
  { c with
    frames := (freeFrame c p.tag).frames
    trace := c.trace ++ [.declaredLost p]
    counters := (countLost c p).counters }

/-- This is where a visit stands when it answers for the descriptor. -/
lemma freeFrame_eq_lostState :
    freeFrame (countLost (c.observe (.declaredLost p)) p) p.tag = lostState c p := by
  unfold lostState freeFrame
  split <;> rfl

/-- The state in which a lost control frame is sent again. -/
def resendState (c : Connection) (p : SentPacket) (slot tag : ℕ) : Connection :=
  { c with
    frames := Function.update (freeFrame c p.tag).frames tag (slotDescriptor c slot)
    trace := c.trace ++ [.declaredLost p]
    counters := (countLost c p).counters }

/-- What sending the frame again leaves alone, the visit leaves alone. -/
lemma Connection.LostKept.of_resend {slot tag : ℕ} {x c' : Connection}
    (hslot : c.slotOf p = some slot)
    (h : (resendState c p slot tag).Kept (resendOf c slot tag) x) (hconfig : c'.config = x.config)
    (hpeer : c'.peerClosed = x.peerClosed)
    (hlimit : c'.aeadConfidentialityLimit = x.aeadConfidentialityLimit)
    (hretry : c'.retryPendingKeys = x.retryPendingKeys)
    (hclose : c'.close = x.close) (haead : c'.aeadEncrypted = x.aeadEncrypted)
    (htrace : c'.trace = x.trace) : c.LostKept p c' := by
  refine ⟨hconfig.trans h.config, hpeer.trans h.peerClosed, hlimit.trans h.limit,
    hretry.trans h.retryPendingKeys, ?_, ?_⟩
  · intro hspare
    obtain ⟨hc, ha⟩ := h.spare (hspare _ hslot)
    refine ⟨hclose.trans hc, ?_⟩
    intro s
    rw [haead]
    refine (ha s).trans ?_
    have hs : (resendState c p slot tag).aeadEncrypted s = c.aeadEncrypted s := rfl
    rw [hs]
    split <;> omega
  · have hbefore : (resendState c p slot tag).trace = c.trace ++ [.declaredLost p] := rfl
    rw [htrace]
    rcases h.trace with htr | htr
    · exact ⟨[], by rw [htr, hbefore], by simp⟩
    · exact ⟨[_], by rw [htr, hbefore, List.append_assoc]; rfl, by simp⟩

/-- A free descriptor is one of the table's, and not in use. -/
lemma freeTag_spec {frames : ℕ → TxFrame} {tag : ℕ} (h : freeTag frames = some tag) :
    tag < quicConnectionFramesMax ∧ (frames tag).inUse = false := by
  unfold freeTag at h
  have hmem := List.mem_of_find?_eq_some h
  have hfree := List.find?_some h
  exact ⟨by simpa using hmem, by simpa using hfree⟩

/-- What is done with the answer of the send path: a failure is flagged in the slot. -/
def resendResult (slot tag : ℕ) (x : Connection) (status : Status) : Connection :=
  if status = .ok then x
  else
    let x := freeFrame x tag
    { x.setControl slot { x.controlFrames slot with resendPending := true } with
      counters := { x.counters with
        controlFramesResendDeferred := x.counters.controlFramesResendDeferred + 1 } }

lemma resendResult_loss (slot tag : ℕ) (x : Connection) (status : Status) :
    (resendResult slot tag x status).loss = x.loss := by
  unfold resendResult freeFrame
  split
  · rfl
  · simp only
    split <;> rfl

lemma SendEnd.getElem? {o : Outgoing} {r : Connection × Status} (h : SendEnd o c r) {i : ℕ}
    (hget : c.loss.sent[i]? = some p) : r.1.loss.sent[i]? = some p := by
  cases h with
  | unsent hkept hsent _ _ =>
    rw [hsent]
    exact hget
  | recorded length hkept _ hsent _ _ _ _ =>
    rw [hsent, List.getElem?_append_left (List.getElem?_eq_some_iff.mp hget).1]
    exact hget

/-- Sending a lost control frame again is one send, with its descriptor taken before it. -/
lemma resendLost_eq {send : Outgoing → Connection → Option (Connection × Status)} {slot tag : ℕ}
    (htag : freeTag (freeFrame c p.tag).frames = some tag) {x : Connection} {status : Status}
    (hsend : send (resendOf c slot tag) (resendState c p slot tag) = some (x, status)) :
    resendLost send slot (lostState c p) = some (resendResult slot tag x status) := by
  have hlt := (freeTag_spec htag).1
  have htag' : freeTag (lostState c p).frames = some tag := htag
  unfold resendLost tagForControl allocFrame
  simp only [htag', Option.map_some, Option.getD_some]
  have hcall : send (resendOf c slot tag) (resendState c p slot tag) = some (x, status) := hsend
  unfold resendOf resendState slotDescriptor at hcall
  unfold sendEncodedFrame lostState Connection.setFrame
  simp only
  rw [hcall]
  cases status <;> simp [resendResult, hlt.ne]

/-- The send of a lost control frame detects no more in the state it is made in than in the
state before the visit. -/
lemma sendDetects_resend {slot tag : ℕ} :
    sendDetects env (resendOf c slot tag) (resendState c p slot tag) =
      sendDetects env (resendOf c slot quicConnectionFramesMax) c := by
  have hpasses : (sendGuard env (resendOf c slot tag) (resendState c p slot tag)).passes =
      (sendGuard env (resendOf c slot quicConnectionFramesMax) c).passes :=
    sendGuard_passes_congr rfl rfl
  unfold sendDetects
  rw [hpasses]
  rfl

/-- How a visit ends when the frame is sent again. -/
lemma LostEnd.of_resend {slot tag : ℕ} {x c' : Connection} {status : Status}
    (hslot : c.slotOf p = some slot) (htag : freeTag (freeFrame c p.tag).frames = some tag)
    (hend : SendEnd (resendOf c slot tag) (resendState c p slot tag) (x, status))
    (hc' : ∃ congestion, c' = { resendResult slot tag x status with congestion := congestion }) :
    LostEnd p c c' := by
  obtain ⟨congestion, rfl⟩ := hc'
  have hlt := (freeTag_spec htag).1
  cases hend with
  | unsent hkept hsent hactivity hspaces =>
    by_cases hok : status = .ok
    · have hres : resendResult slot tag x status = x := if_pos hok
      rw [hres]
      exact .unsent slot tag (.of_resend hslot hkept rfl rfl rfl rfl rfl rfl rfl) hslot htag hsent hspaces
        (.inl ⟨hkept.frames, hkept.controlFrames⟩)
    · have hres : resendResult slot tag x status =
          { (x.setFrame tag { x.frames tag with inUse := false }).setControl slot
              { x.controlFrames slot with resendPending := true } with
            counters := { x.counters with
              controlFramesResendDeferred := x.counters.controlFramesResendDeferred + 1 } } := by
        unfold resendResult freeFrame
        rw [if_neg hok, if_pos hlt]
        rfl
      rw [hres]
      refine .unsent slot tag (.of_resend hslot hkept rfl rfl rfl rfl rfl rfl rfl) hslot htag hsent hspaces
        (.inr ⟨?_, ?_⟩)
      · show Function.update x.frames tag { x.frames tag with inUse := false } = _
        rw [hkept.frames]
        simp [resendState]
      · show Function.update x.controlFrames slot _ = _
        rw [hkept.controlFrames]
        rfl
  | recorded length hkept hroom hsent hactivity hkeys hnumber hspaces =>
    exact .resent slot tag length (.of_resend hslot hkept rfl rfl rfl rfl rfl rfl rfl) hslot htag hroom hsent
      hkeys hnumber hspaces hkept.frames hkept.controlFrames

/-- A visit whose own send declares nothing lost returns: it names no slot, or the answer is that
send. -/
theorem onLost_answer (hcount : c.loss.sent.length ≤ quicSentPacketsMax) {i : ℕ}
    (hget : c.loss.sent[i]? = some p)
    (hquiet : ∀ slot, c.slotOf p = some slot →
      sendDetects env (resendOf c slot quicConnectionFramesMax) c = false)
    {fuel : ℕ} (hfuel : quicSentPacketsMax < fuel) :
    ∃ c', onLost (sendPacket env (fuel + 1)) c i p = some c' ∧
      (c.slotOf p = none ∧ LostEnd p c c' ∨
        ∃ slot tag x status, c.slotOf p = some slot ∧
          freeTag (freeFrame c p.tag).frames = some tag ∧
          sendPacket env (fuel + 1) (resendOf c slot tag) (resendState c p slot tag) =
            some (x, status) ∧
          SendEnd (resendOf c slot tag) (resendState c p slot tag) (x, status) ∧
          (c.MaySeal (c.controlFrames slot).space → status = .ok → x.loss.sent ≠ c.loss.sent) ∧
          ∃ congestion, c' = { resendResult slot tag x status with congestion := congestion }) := by
  have hlostKept : ∀ {c' : Connection}, (∃ events : List ConnectionEvent,
      c'.trace = c.trace ++ .declaredLost p :: events ∧ ∀ q, .declaredLost q ∉ events) →
      c'.config = c.config → c'.peerClosed = c.peerClosed →
      c'.aeadConfidentialityLimit = c.aeadConfidentialityLimit →
      c'.retryPendingKeys = c.retryPendingKeys → c'.close = c.close →
      c'.aeadEncrypted = c.aeadEncrypted → c.LostKept p c' := by
    intro c' htrace hconfig hpeer hlimit hretry hclose haead
    refine ⟨hconfig, hpeer, hlimit, hretry, fun _ => ⟨hclose, fun s => ?_⟩, htrace⟩
    rw [haead]
    omega
  unfold onLost
  simp only
  split
  · -- The packet names no descriptor that is in use.
    rename_i hunused
    have hunused : quicConnectionFramesMax ≤ p.tag ∨ (c.frames p.tag).inUse = false := by
      simpa using hunused
    have hslot : c.slotOf p = none := by
      unfold Connection.slotOf
      simp only
      rw [if_neg]
      rintro ⟨htag, huse, -⟩
      rcases hunused with h | h
      · omega
      · rw [h] at huse
        cases huse
    exact ⟨_, rfl, .inl ⟨hslot, .released (hlostKept ⟨[], rfl, by simp⟩ rfl rfl rfl rfl rfl rfl)
      hslot rfl rfl (freeFrame_frames_of_unused hunused).symm rfl⟩⟩
  · rename_i hused
    have hp : p.tag < quicConnectionFramesMax := by
      by_contra h
      exact hused (.inl (not_lt.mp h))
    have huse : (c.frames p.tag).inUse = true := by
      by_contra h
      exact hused (.inr (by simpa using h))
    have hlost : (lostState c p).loss.sent[i]? = some p := hget
    rw [freeFrame_eq_lostState, countLost_frames, Connection.observe_frames]
    by_cases hcontrol : (c.frames p.tag).streamId = quicControlStreamId
    · by_cases hkept : (c.frames p.tag).offset < quicControlFramesMax ∧
          (c.controlFrames (c.frames p.tag).offset).inUse = true
      · -- The connection's own frame is sent again from its slot.
        have hslot : c.slotOf p = some (c.frames p.tag).offset :=
          if_pos ⟨hp, huse, hcontrol, hkept.1, hkept.2⟩
        obtain ⟨tag, htag⟩ := freeTag_freeFrame (c := c) hp
        obtain ⟨⟨x, status⟩, hsend, hend, hlisted⟩ := sendPacket_end env
          (o := resendOf c (c.frames p.tag).offset tag)
          (c := resendState c p (c.frames p.tag).offset tag) hcount
          (sendDetects_resend.trans (hquiet _ hslot)) hfuel
        have hanswer : answerLost (sendPacket env (fuel + 1)) (c.frames p.tag) (lostState c p) =
            some (resendResult (c.frames p.tag).offset tag x status) :=
          (if_pos hcontrol).trans ((if_pos hkept).trans (resendLost_eq htag hsend))
        have hthere : (resendResult (c.frames p.tag).offset tag x status).loss.sent[i]? = some p := by
          rw [resendResult_loss]
          exact hend.getElem? hget
        rw [hanswer]
        simp only [hthere]
        exact ⟨_, rfl, .inr ⟨_, tag, x, status, hslot, htag, hsend, hend, hlisted, _, rfl⟩⟩
      · have hslot : c.slotOf p = none := if_neg fun h => hkept ⟨h.2.2.2.1, h.2.2.2.2⟩
        have hanswer : answerLost (sendPacket env (fuel + 1)) (c.frames p.tag) (lostState c p) =
            some (lostState c p) := (if_pos hcontrol).trans (if_neg hkept)
        rw [hanswer]
        simp only [hlost]
        exact ⟨_, rfl, .inl ⟨hslot, .released (hlostKept ⟨[], rfl, by simp⟩ rfl rfl rfl rfl rfl rfl)
          hslot rfl rfl rfl rfl⟩⟩
    · have hslot : c.slotOf p = none := if_neg fun h => hcontrol h.2.2.1
      have hanswer : answerLost (sendPacket env (fuel + 1)) (c.frames p.tag) (lostState c p) =
          some ((lostState c p).observe (.lostFrame (c.frames p.tag))) := if_neg hcontrol
      rw [hanswer]
      simp only [Connection.observe_loss, hlost]
      refine ⟨_, rfl, .inl ⟨hslot, ?_⟩⟩
      exact .released (hlostKept ⟨[.lostFrame (c.frames p.tag)], by simp [lostState], by simp⟩
        rfl rfl rfl rfl rfl rfl) hslot rfl rfl rfl rfl

/-- A visit whose own send declares nothing lost comes to one of its ends. -/
theorem onLost_end (hcount : c.loss.sent.length ≤ quicSentPacketsMax) {i : ℕ}
    (hget : c.loss.sent[i]? = some p)
    (hquiet : ∀ slot, c.slotOf p = some slot →
      sendDetects env (resendOf c slot quicConnectionFramesMax) c = false)
    {fuel : ℕ} (hfuel : quicSentPacketsMax < fuel) :
    ∃ c', onLost (sendPacket env (fuel + 1)) c i p = some c' ∧ LostEnd p c c' := by
  obtain ⟨c', hvisit, ⟨-, hend⟩ | ⟨slot, tag, x, status, hslot, htag, -, hend, -, hc'⟩⟩ :=
    onLost_answer hcount hget hquiet hfuel
  · exact ⟨c', hvisit, hend⟩
  · exact ⟨c', hvisit, .of_resend hslot htag hend hc'⟩

lemma LostEnd.kept {c' : Connection} (h : LostEnd p c c') : c.LostKept p c' := by
  cases h with
  | released hkept => exact hkept
  | unsent _ _ hkept => exact hkept
  | resent _ _ _ hkept => exact hkept

/-- A visit puts at most one packet at the end of the list, with a number that had not been
sent, and only when there is room for it. -/
lemma LostEnd.sent {c' : Connection} (h : LostEnd p c c')
    (hcount : c.loss.sent.length ≤ quicSentPacketsMax) :
    ∃ extra, c'.loss.sent = c.loss.sent ++ extra ∧ extra.length ≤ 1 ∧
      c.loss.sent.length + extra.length ≤ quicSentPacketsMax ∧
      ∀ q ∈ extra, ∃ s : Space, q.packetNumberSpace = s.index ∧
        q.packetNumber = (c.spaces s).nextSend ∧ ¬(s = .initial ∧ c.retryPendingKeys = true) := by
  cases h with
  | released _ _ hsent => exact ⟨[], by simpa using hsent, by simp, by simpa using hcount, by simp⟩
  | unsent _ _ _ _ _ hsent => exact ⟨[], by simpa using hsent, by simp, by simpa using hcount, by simp⟩
  | resent slot tag length _ _ _ hroom hsent hkeys =>
    refine ⟨_, hsent, by simp, hroom, ?_⟩
    intro q hq
    obtain rfl := List.mem_singleton.mp hq
    exact ⟨(c.controlFrames slot).space, rfl, rfl, hkeys⟩

/-- A visit changes nothing in the spaces but the next number of one of them. -/
lemma LostEnd.spaces {c' : Connection} (h : LostEnd p c c') (hc : c.Tracked) (s : Space) :
    (c.spaces s).nextSend ≤ (c'.spaces s).nextSend ∧ (c'.spaces s).rtt = (c.spaces s).rtt ∧
      (c'.spaces s).largestAcked = (c.spaces s).largestAcked ∧
      (c'.spaces s).hasLargestAcked = (c.spaces s).hasLargestAcked := by
  have hnumbered : ∀ {t : Space},
      ((c.spaces t).hasSent = true → (c.spaces t).nextSend ≤ quicPacketNumberMax) →
      c'.spaces = Function.update c.spaces t (c.spaces t).numbered →
      (c.spaces s).nextSend ≤ (c'.spaces s).nextSend ∧ (c'.spaces s).rtt = (c.spaces s).rtt ∧
        (c'.spaces s).largestAcked = (c.spaces s).largestAcked ∧
        (c'.spaces s).hasLargestAcked = (c.spaces s).hasLargestAcked := by
    intro t hroom hspaces
    obtain ⟨hnext, -⟩ := hc.nextSend_numbered hroom
    by_cases hs : s = t
    · subst hs
      rw [hspaces, Function.update_self, hnext]
      exact ⟨Nat.le_succ _, rfl, rfl, rfl⟩
    · rw [hspaces, Function.update_of_ne hs]
      exact ⟨le_rfl, rfl, rfl, rfl⟩
  cases h with
  | released _ _ _ hspaces =>
    rw [hspaces]
    exact ⟨le_rfl, rfl, rfl, rfl⟩
  | unsent _ _ _ _ _ _ hspaces =>
    rcases hspaces with hspaces | ⟨hroom, hspaces⟩
    · rw [hspaces]
      exact ⟨le_rfl, rfl, rfl, rfl⟩
    · exact hnumbered hroom hspaces
  | resent _ _ _ _ _ _ _ _ _ hnumber hspaces => exact hnumbered hnumber hspaces

end Visiting

/-! ## The loop -/

/-- What a loss loop needs at every visit: its next visit does not enter it again, and it does
not match the packets that are yet to be sent. -/
structure Walkable (env : Env) (hit : SentPacket → Bool) (c : Connection) : Prop where
  tracked : c.Tracked
  quiet : reenters env c hit = false
  fresh : ∀ (p : SentPacket) (s : Space), p.packetNumberSpace = s.index →
    (c.spaces s).nextSend ≤ p.packetNumber → ¬(s = .initial ∧ c.retryPendingKeys = true) →
    hit p = false

section Walking

variable {env : Env} {hit : SentPacket → Bool} {c : Connection} {p : SentPacket}

/-- The first packet that matches is the one a search finds. -/
lemma find?_of_first {i : ℕ} (hget : c.loss.sent[i]? = some p) (hhit : hit p = true)
    (hfirst : ∀ q ∈ c.loss.sent.take i, hit q = false) : c.loss.sent.find? hit = some p := by
  obtain ⟨hlt, hp⟩ := List.getElem?_eq_some_iff.mp hget
  rw [List.find?_eq_some_iff_append]
  refine ⟨hhit, c.loss.sent.take i, c.loss.sent.drop (i + 1), ?_, ?_⟩
  · rw [← hp, ← List.drop_eq_getElem_cons hlt, List.take_append_drop]
  · intro q hq
    simp [hfirst q hq]

/-- A list that is not full is not walked by a send. -/
lemma reenters_of_room (h : c.loss.sent.length < quicSentPacketsMax) :
    reenters env c hit = false := by
  unfold reenters sendDetects
  simp [not_le.mpr h]

/-- A visit of the first packet that matches returns. -/
lemma Walkable.visit (hc : Walkable env hit c) {i : ℕ} (hget : c.loss.sent[i]? = some p)
    (hhit : hit p = true) (hfirst : ∀ q ∈ c.loss.sent.take i, hit q = false) {fuel : ℕ}
    (hfuel : quicSentPacketsMax < fuel) :
    ∃ c', onLost (sendPacket env (fuel + 1)) c i p = some c' ∧ LostEnd p c c' := by
  refine onLost_end hc.tracked.count hget ?_ hfuel
  intro slot hslot
  have := hc.quiet
  unfold reenters at this
  simpa [find?_of_first hget hhit hfirst, hslot] using this

/-- After a visit the loop can go on: the packet that is removed has made room. -/
lemma Walkable.next (hc : Walkable env hit c) {i : ℕ} (hget : c.loss.sent[i]? = some p)
    {c' : Connection} (hend : LostEnd p c c') (htracked : c'.Tracked) {l : Loss}
    (hremove : removePacket c'.loss i = some l) : Walkable env hit { c' with loss := l } := by
  obtain ⟨extra, hsent, -, hroom, -⟩ := hend.sent hc.tracked.count
  have hlt := (List.getElem?_eq_some_iff.mp hget).1
  have hget' : c'.loss.sent[i]? = some p := by
    rw [hsent, List.getElem?_append_left hlt]
    exact hget
  have hlen := (removePacket_perm hget' hremove).length_eq
  refine ⟨htracked.remove hremove, ?_, ?_⟩
  · refine reenters_of_room ?_
    rw [hsent, List.length_append, List.length_cons] at hlen
    show l.sent.length < _
    omega
  · intro q s hspace hnumber hkeys
    refine hc.fresh q s hspace ?_ ?_
    · exact (hend.spaces hc.tracked s).1.trans hnumber
    · rw [← hend.kept.retryPendingKeys]
      exact hkeys

/-- What is left of a list after such a loop matches no more. -/
lemma not_hit_of_filter_append {left sent extra : List SentPacket}
    (hleft : left = sent.filter (fun p => !hit p) ++ extra) (hextra : ∀ q ∈ extra, hit q = false) :
    ∀ q ∈ left, hit q = false := by
  intro q hq
  rw [hleft, List.mem_append, List.mem_filter] at hq
  rcases hq with ⟨-, hq⟩ | hq
  · simpa using hq
  · exact hextra q hq

/-- A loss loop returns, removes exactly the packets that match, and keeps whatever every visit
keeps. -/
theorem lossWalk_returns {X : Connection → Prop}
    {fuel : ℕ}
    (hX : ∀ s i p s₁ l, Walkable env hit s → X s → s.loss.sent[i]? = some p → hit p = true →
      (∀ q ∈ s.loss.sent.take i, hit q = false) →
      onLost (sendPacket env fuel) s i p = some s₁ → LostEnd p s s₁ →
      removePacket s₁.loss i = some l → X { s₁ with loss := l })
    (hc : Walkable env hit c) (hx : X c) (hfuel : 3 * quicSentPacketsMax < fuel) :
    ∃ c' n extra,
      IndexWalk.run (lossWalk connectionHost hit (onLost (sendPacket env fuel))) fuel 0 0 c =
        some (c', n) ∧
      c'.loss.sent = c.loss.sent.filter (fun p => !hit p) ++ extra ∧
      (∀ q ∈ extra, hit q = false) ∧ Walkable env hit c' ∧ X c' := by
  obtain ⟨m, rfl⟩ : ∃ m, fuel = m + 1 := ⟨fuel - 1, by omega⟩
  have hm : quicSentPacketsMax < m := by
    unfold quicSentPacketsMax at hfuel ⊢
    omega
  have hgentle : IndexWalk.Gentle
      (lossWalk connectionHost hit (onLost (sendPacket env (m + 1))))
      (fun s => Walkable env hit s ∧ X s) := by
    rintro s i p ⟨hs, hxs⟩ hget hhit hfirst
    have hget : s.loss.sent[i]? = some p := hget
    obtain ⟨s₁, hvisit, hend⟩ := hs.visit hget hhit hfirst hm
    obtain ⟨extra, hsent, hone, -, hextra⟩ := hend.sent hs.tracked.count
    have hlt := (List.getElem?_eq_some_iff.mp hget).1
    have hget₁ : s₁.loss.sent[i]? = some p := by
      rw [hsent, List.getElem?_append_left hlt]
      exact hget
    obtain ⟨l, hremove, hl⟩ := removePacket_isSome hget₁
    have htracked : s₁.Tracked :=
      (onLost_quiet (sendPacket_tame env (fun _ => True) _) hvisit).1.reaches.tracked hs.tracked
    refine ⟨s₁, { s₁ with loss := l }, extra, hvisit, ?_, ?_, hone, ?_,
      hs.next hget hend htracked hremove,
      hX s i p s₁ l hs hxs hget hhit hfirst hvisit hend hremove⟩
    · simp [lossWalk, connectionHost, hremove]
    · show l.sent = s.loss.sent.eraseIdx i ++ extra
      rw [hl, hsent, List.eraseIdx_append_of_lt_length hlt]
    · intro q hq
      obtain ⟨t, hspace, hnumber, hkeys⟩ := hextra q hq
      exact hs.fresh q t hspace hnumber.ge hkeys
  have hcost : IndexWalk.cost (lossWalk connectionHost hit (onLost (sendPacket env (m + 1))))
      (c.loss.sent.drop 0) < m + 1 := by
    have hfilter := List.length_filter_le hit c.loss.sent
    have hcount := hc.tracked.count
    simp only [IndexWalk.cost, lossWalk, List.drop_zero]
    omega
  obtain ⟨c', extra, hrun, -, hitems, hextra, hc', hx'⟩ :=
    IndexWalk.run_returns _ hgentle (n := 0) ⟨hc, hx⟩ (Nat.zero_le _) (by simp) hcost
  exact ⟨c', _, extra, hrun, by simpa [lossWalk, connectionHost] using hitems, hextra, hc', hx'⟩

end Walking

/-! ## Fuel -/

section Fuel

variable {env : Env} {c c' : Connection}
  {send send' : Outgoing → Connection → Option (Connection × Status)}

/-- A send that returns more often makes a visit return more often, with the same result. -/
lemma onLost_mono (hsend : ∀ o c r, send o c = some r → send' o c = some r) {i : ℕ}
    {p : SentPacket} (h : onLost send c i p = some c') : onLost send' c i p = some c' := by
  have hencoded : ∀ o c r, sendEncodedFrame send o c = some r → sendEncodedFrame send' o c = some r := by
    intro o c r h
    unfold sendEncodedFrame at h ⊢
    cases hr : send o c with
    | none =>
      rw [hr] at h
      cases h
    | some r' =>
      rw [hr] at h
      rw [hsend _ _ _ hr]
      exact h
  have hresend : ∀ slot c c', resendLost send slot c = some c' → resendLost send' slot c = some c' := by
    intro slot c c' h
    unfold resendLost at h ⊢
    simp only at h ⊢
    split at h
    · cases h
    · rename_i c₁ heq
      rw [hencoded _ _ _ heq]
      exact h
    · rename_i c₁ status hstatus heq
      rw [hencoded _ _ _ heq]
      cases status <;> first | exact h | exact absurd rfl hstatus
  have hanswer : ∀ d c c', answerLost send d c = some c' → answerLost send' d c = some c' := by
    intro d c c' h
    unfold answerLost at h ⊢
    split_ifs at h ⊢ with hcontrol hslot
    · exact hresend _ _ _ h
    · exact h
    · exact h
  unfold onLost at h ⊢
  simp only at h ⊢
  split_ifs at h ⊢ with hunused
  · exact h
  · split at h
    · cases h
    · rename_i c₁ heq
      rw [hanswer _ _ _ heq]
      exact h

/-- More fuel does not change what detection returns. -/
lemma detectLost_mono (hsend : ∀ o c r, send o c = some r → send' o c = some r)
    {fuel fuel' : ℕ} (hle : fuel ≤ fuel') {space : Space} {now largest : ℕ}
    (h : detectLost send fuel space now largest c = some c') :
    detectLost send' fuel' space now largest c = some c' := by
  obtain ⟨r, hrun, rfl⟩ := Option.map_eq_some_iff.mp h
  have hrun' := IndexWalk.run_mono
    (lossWalk connectionHost (packetLost space.index (c.spaces space).rtt now largest) (onLost send))
    (lossWalk connectionHost (packetLost space.index (c.spaces space).rtt now largest) (onLost send'))
    rfl rfl rfl (fun s i p s₁ hvisit => onLost_mono hsend hvisit) hle hrun
  unfold detectLost quicLossDetect
  rw [hrun']
  rfl

/-- More fuel does not change what a send returns. -/
theorem sendPacket_mono {fuel fuel' : ℕ} (hle : fuel ≤ fuel') {o : Outgoing}
    {r : Connection × Status} (h : sendPacket env fuel o c = some r) :
    sendPacket env fuel' o c = some r := by
  induction fuel generalizing fuel' o c r with
  | zero => cases h
  | succ fuel ih =>
    obtain ⟨m, rfl⟩ : ∃ m, fuel' = m + 1 := ⟨fuel' - 1, by omega⟩
    rw [sendPacket] at h ⊢
    split at h
    · exact h
    · split_ifs at h ⊢ with hroom
      · exact h
      · split at h
        · cases h
        · rename_i c₂ hdetect
          rw [detectLost_mono (fun o c r hr => ih (by omega) hr) (by omega) hdetect]
          exact h

end Fuel

end WebTransport
