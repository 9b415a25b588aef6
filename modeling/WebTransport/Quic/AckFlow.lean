import WebTransport.Quic.Advertised
import WebTransport.Quic.ConnectionDatagram
import WebTransport.Quic.LossOnce

/-!
# Acknowledgements that nobody acknowledges

An endpoint that only receives sends nothing but acknowledgements, and its peer owes it none for
them. `send_packet` lists every packet it sends and counts it as in flight, an acknowledgement too,
so such an endpoint fills its own list or its own window, and from then on `flush_space` refuses the
acknowledgements it owes.
-/

namespace WebTransport

/-! ## The flow -/

/-- A change in which nothing is sent and no acknowledgement is heard of, as when a packet arrives
that asks for one. -/
structure Connection.Silent (c c' : Connection) : Prop where
  loss : c'.loss = c.loss
  congestion : c'.congestion = c.congestion
  spaces : ∀ s, ∃ received, c'.spaces s = { c.spaces s with received := received }

/-- The states of a connection that receives, and sends nothing but the acknowledgements of
`flush_space`. -/
inductive AckFlow (env : Env) (c₀ : Connection) : Connection → Prop
  | start : AckFlow env c₀ c₀
  | receive {c c' : Connection} : AckFlow env c₀ c → c.Silent c' → AckFlow env c₀ c'
  | flush {c c' : Connection} {status : Status} (fuel : ℕ) (space : Space) (force : Bool) (now : ℕ) :
    AckFlow env c₀ c → flushSpace env fuel space false force now c = some (c', status) →
    AckFlow env c₀ c'

/-- A connection with another list of sent packets. -/
def Connection.withLoss (c : Connection) (l : Loss) : Connection := { c with loss := l }

/-- The connection as it would be had its packets that ask for nothing not been listed. -/
def Connection.withoutAcks (c : Connection) : Connection :=
  let sent := c.loss.sent.filter (·.ackEliciting)
  c.withLoss { c.loss with sent := sent, bytesInFlight := flightBytes sent }

/-- An acknowledgement that would go out but for the packets that ask for nothing. -/
def AckSendable (env : Env) (fuel : ℕ) (space : Space) (force : Bool) (now : ℕ) (c : Connection) :
    Prop :=
  ∃ c', flushSpace env fuel space false force now c.withoutAcks = some (c', .ok) ∧
    c'.loss.sent ≠ c.withoutAcks.loss.sent

/-- An acknowledgement that is refused for want of room. -/
def AckBlocked (env : Env) (fuel : ℕ) (space : Space) (force : Bool) (now : ℕ) (c : Connection) :
    Prop :=
  ∃ c' status, flushSpace env fuel space false force now c = some (c', status) ∧
    (status = .limit ∨ status = .again)

/-- The list and the window have room for one more packet. -/
def Connection.HasRoom (c : Connection) : Prop :=
  c.loss.sent.length < quicSentPacketsMax ∧
    quicCongestionCanSend c.congestion c.loss.bytesInFlight = true

/-! ## Sending with another list -/

section WithLoss

variable {env : Env} {o : Outgoing} {c c' : Connection}

/-- What the checks answer, with another list. -/
def SendGuard.withLoss (l : Loss) : SendGuard → SendGuard
  | .refuse c status => .refuse (c.withLoss l) status
  | .pass c => .pass (c.withLoss l)

lemma quicConnectionInitiateKeyUpdate_withLoss (env : Env) (c : Connection) (l : Loss) :
    quicConnectionInitiateKeyUpdate env (c.withLoss l) =
      ((quicConnectionInitiateKeyUpdate env c).1.withLoss l,
        (quicConnectionInitiateKeyUpdate env c).2) := by
  unfold quicConnectionInitiateKeyUpdate Connection.withLoss
  simp only
  cases c.keysOut .application with
  | none => rfl
  | some keysOut =>
    simp only
    split_ifs
    · rfl
    · rfl
    cases env.packetKeysUpdate keysOut with
    | error status => rfl
    | ok keysOut =>
      simp only
      cases env.packetKeysUpdate ((c.keysIn .application).getD ⟨[]⟩) with
      | error status => rfl
      | ok keysIn => rfl

lemma closeWith_withLoss (c : Connection) (l : Loss) (errorCode frameType now : ℕ) :
    closeWith (c.withLoss l) errorCode frameType now =
      ((closeWith c errorCode frameType now).1.withLoss l, (closeWith c errorCode frameType now).2) := by
  have hsame : quicConnectionIsClosed (c.withLoss l) = quicConnectionIsClosed c := rfl
  unfold closeWith quicConnectionClose
  rw [hsame]
  cases quicConnectionIsClosed c with
  | true => rfl
  | false => rfl

/-- The checks before a packet is protected do not look at the list. -/
lemma sendGuard_withLoss (env : Env) (o : Outgoing) (c : Connection) (l : Loss) :
    sendGuard env o (c.withLoss l) = (sendGuard env o c).withLoss l := by
  have hkeys : (c.withLoss l).keysOut = c.keysOut := rfl
  have hpeer : (c.withLoss l).hasPeer = c.hasPeer := rfl
  have hconfig : (c.withLoss l).config = c.config := rfl
  have hlimit : (c.withLoss l).aeadConfidentialityLimit = c.aeadConfidentialityLimit := rfl
  have hcount : (c.withLoss l).aeadEncrypted = c.aeadEncrypted := rfl
  have hallowed : quicConnectionKeyUpdateAllowed (c.withLoss l) = quicConnectionKeyUpdateAllowed c :=
    rfl
  unfold sendGuard
  rw [quicConnectionInitiateKeyUpdate_withLoss, closeWith_withLoss]
  simp only [hkeys, hpeer, hconfig, hlimit, hcount, hallowed]
  split
  · rfl
  split
  · rfl
  split
  · rfl
  split
  · split
    · rcases quicConnectionInitiateKeyUpdate env c with ⟨c₁, status⟩
      cases status <;> rfl
    · rfl
  · rfl

/-- Once the window and the list have room, the rest of a send does not look at the list. -/
lemma sendProtected_withLoss {l : Loss}
    (hcan : quicCongestionCanSend c.congestion c.loss.bytesInFlight = true)
    (hcan' : quicCongestionCanSend c.congestion l.bytesInFlight = true)
    (hlist : ∀ length, ∃ l',
      quicLossOnSent c.loss (sentPacketOf o (c.spaces o.space).nextSend length) = .ok l')
    (hlist' : ∀ length, ∃ l',
      quicLossOnSent l (sentPacketOf o (c.spaces o.space).nextSend length) = .ok l') :
    (sendProtected env o (c.withLoss l)).2 = (sendProtected env o c).2 := by
  have hspaces : (c.withLoss l).spaces = c.spaces := rfl
  have hcongestion : (c.withLoss l).congestion = c.congestion := rfl
  have hloss : (c.withLoss l).loss = l := rfl
  unfold sendProtected
  simp only [hspaces, hcongestion, hloss, hcan, hcan', Bool.not_true, Bool.false_eq_true, if_false]
  cases hnext : quicPnSpaceNext (c.spaces o.space) with
  | error status => rfl
  | ok r =>
    obtain ⟨n, space'⟩ := r
    obtain ⟨rfl, -, -⟩ := quicPnSpaceNext_ok hnext
    have hset : (c.withLoss l).setSpace o.space space' = (c.setSpace o.space space').withLoss l := rfl
    have hset' : (c.setSpace o.space space').loss = c.loss := rfl
    simp only [hset]
    generalize c.setSpace o.space space' = x at hset' ⊢
    have hretry : (x.withLoss l).retryPendingKeys = x.retryPendingKeys := rfl
    have hbuild : ∀ n length, buildPacket env (x.withLoss l) (packetToBuild (x.withLoss l) o n length) =
        buildPacket env x (packetToBuild x o n length) := fun _ _ => rfl
    have hsize : (x.withLoss l).config = x.config := rfl
    simp only [hretry, hbuild, hsize]
    split
    · rfl
    split
    · rfl
    rename_i length _
    split
    · rfl
    -- The packet goes to the socket, and both lists take it.
    obtain ⟨first, pending, hcount⟩ := countProtected_eq x o.space (c.spaces o.space).nextSend
    obtain ⟨first', pending', hcount'⟩ :=
      countProtected_eq (x.withLoss l) o.space (c.spaces o.space).nextSend
    have hcalls : (x.withLoss l).udpCalls = x.udpCalls := rfl
    have hother : (x.withLoss l).loss = l := rfl
    obtain ⟨l₁, hl₁⟩ := hlist length
    obtain ⟨l₂, hl₂⟩ := hlist' length
    simp only [hcount, hcount', hcalls, hother, Connection.observe_loss, hset', hl₁, hl₂]
    split
    · rfl
    · rfl

/-- Ranges that cannot be written are an invalid argument. -/
lemma encodeAckRanges_failed {f : AckFrame} {n i : ℕ} {w : Writer} :
    encodeAckRanges f n i w ≠ .error .ok := by
  induction n generalizing i w with
  | zero =>
    intro h
    cases h
  | succ n ih =>
    rw [encodeAckRanges]
    split
    · intro h
      cases h
    · exact ih

/-- An acknowledgement that cannot be encoded is refused with a status of its own. -/
lemma quicFrameEncode_ack_failed {f : AckFrame} {w : Writer} :
    quicFrameEncode w (.ack f) ≠ .error .ok := by
  have hresult : ∀ w', writerResult w' ≠ .error .ok := by
    intro w'
    unfold writerResult
    split <;> exact nofun
  unfold quicFrameEncode
  split
  · exact nofun
  simp only [encodeAck]
  intro h
  cases hranges : encodeAckRanges f f.rangeCount 0 (quicWriterVarints w
      [if f.hasEcn then 0x03 else 0x02, f.largest, f.delay, f.rangeCount, f.firstRange]) with
  | error status =>
    rw [hranges] at h
    cases h
    exact encodeAckRanges_failed hranges
  | ok w₁ =>
    rw [hranges] at h
    exact hresult _ h

/-- What becomes of a sent acknowledgement. -/
def ackAnswer (space : Space) (r : Connection × Status) : Connection × Status :=
  if r.2 = .ok then (acknowledged space r.1, .ok) else r

/-- An acknowledgement comes to an end before the packet layer, whatever is listed, or it is one
packet that asks for nothing. -/
lemma flushSpace_withLoss (env : Env) (fuel : ℕ) (space : Space) (force : Bool) (now : ℕ)
    (c : Connection) :
    (∃ status, ∀ l, flushSpace env fuel space false force now (c.withLoss l) =
        some (c.withLoss l, status)) ∨
      ∃ o : Outgoing, o.space = space ∧ o.ackEliciting = false ∧
        ∀ l, flushSpace env fuel space false force now (c.withLoss l) =
          (sendPacket env fuel o (c.withLoss l)).map (ackAnswer space) := by
  have hkeys : ∀ l, (c.withLoss l).keysOut = c.keysOut := fun _ => rfl
  have hclosed : ∀ l, quicConnectionIsClosed (c.withLoss l) = quicConnectionIsClosed c := fun _ => rfl
  have hwait : ∀ l, ackMayWait (c.withLoss l) space force now = ackMayWait c space force now :=
    fun _ => rfl
  have hreceived : ∀ l, (c.withLoss l).receivedAt = c.receivedAt := fun _ => rfl
  have hspaces : ∀ l, (c.withLoss l).spaces = c.spaces := fun _ => rfl
  unfold flushSpace
  simp only [hkeys, hclosed, hwait, hreceived, hspaces, Bool.false_eq_true, if_false]
  by_cases hnone : (c.keysOut space).isNone = true
  · exact .inl ⟨.ok, fun l => if_pos hnone⟩
  by_cases hover : quicConnectionIsClosed c = true
  · exact .inl ⟨.ok, fun l => by rw [if_neg hnone, if_pos hover]⟩
  by_cases hearly : ackMayWait c space force now = true
  · exact .inl ⟨.ok, fun l => by rw [if_neg hnone, if_neg hover, if_pos hearly]⟩
  simp only [hnone, hover, hearly]
  cases quicAckBuild (c.spaces space).received
      (if c.receivedAt space ≤ now then now - c.receivedAt space else 0) quicConnectionAckRangesMax with
  | error status => exact .inl ⟨status, fun _ => rfl⟩
  | ok f =>
    simp only [sendControlFrame, controlFrameIsRetained, Bool.not_false, if_true, sendOneFrame, hkeys,
      hnone, hspaces]
    cases hencode : quicFrameEncode (writerInit quicConnectionPayloadMax) (.ack f) with
    | error status =>
      have hne : status ≠ .ok := by
        rintro rfl
        exact quicFrameEncode_ack_failed hencode
      refine .inl ⟨status, fun l => ?_⟩
      cases status <;> first | rfl | exact absurd rfl hne
    | ok w =>
      simp only
      cases hok : w.ok with
      | false => exact .inl ⟨.limit, fun l => rfl⟩
      | true =>
        refine .inr ⟨⟨space, some (.ack f), w.bytes ++ List.replicate (sampleMinimum
          (packetNumberLengthFor (c.spaces space).nextSend (c.spaces space)) - w.bytes.length) 0, false,
          quicConnectionFramesMax, now⟩, rfl, rfl, fun l => ?_⟩
        simp only [Bool.not_true, Bool.false_eq_true, if_false, sendEncodedFrame]
        cases sendPacket env fuel _ (c.withLoss l) with
        | none => rfl
        | some r =>
          obtain ⟨c₁, status⟩ := r
          cases status <;> rfl

end WithLoss

/-! ## The list of a flow -/

/-- Every listed packet asks for nothing and is above what was acknowledged. -/
structure Connection.OnlyAcks (c : Connection) : Prop where
  tracked : c.Tracked
  silent : ∀ p ∈ c.loss.sent, p.ackEliciting = false
  above : ∀ p ∈ c.loss.sent, ∀ s : Space, p.packetNumberSpace = s.index →
    (c.spaces s).hasLargestAcked = true → (c.spaces s).largestAcked < p.packetNumber

section Flow

variable {env : Env} {o : Outgoing} {c c' c₀ : Connection}

lemma Connection.OnlyAcks.not_packetLost (hc : c.OnlyAcks) {p : SentPacket} (hp : p ∈ c.loss.sent)
    (space : Space) (now : ℕ) :
    packetLost space.index (c.spaces space).rtt now (c.spaces space).ackedSoFar p = false := by
  unfold packetLost PnSpace.ackedSoFar
  rw [decide_eq_false_iff_not]
  rintro ⟨hspace, hle, hlost⟩
  cases hacked : (c.spaces space).hasLargestAcked with
  | true =>
    rw [hacked, if_pos rfl] at hle
    exact absurd hle (not_le.mpr (hc.above p hp space hspace hacked))
  | false =>
    rw [hacked] at hle hlost
    simp only [Bool.false_eq_true, if_false] at hle hlost
    rcases hlost with hlost | ⟨hdelay, -⟩
    · rw [Nat.le_zero.mp hle] at hlost
      exact absurd hlost (by decide)
    · exact hdelay (hc.tracked.lossDelay_eq_zero hacked)

/-- Sending a packet of a flow never declares anything lost. -/
lemma Connection.OnlyAcks.not_sendDetects (hc : c.OnlyAcks) : sendDetects env o c = false := by
  have hnone : findsLost o c = false := by
    unfold findsLost
    rw [List.any_eq_false]
    intro p hp hlost
    rw [hc.not_packetLost hp] at hlost
    cases hlost
  unfold sendDetects
  rw [hnone, Bool.and_false]

/-- A packet that asks for nothing joins the list above what was acknowledged. -/
lemma Connection.OnlyAcks.send (hc : c.OnlyAcks) (hsilent : o.ackEliciting = false)
    {r : Connection × Status} (h : SendEnd o c r) :
    (∀ p ∈ r.1.loss.sent, p.ackEliciting = false) ∧
      ∀ p ∈ r.1.loss.sent, ∀ s : Space, p.packetNumberSpace = s.index →
        (r.1.spaces s).hasLargestAcked = true → (r.1.spaces s).largestAcked < p.packetNumber := by
  have hnumbered : ∀ s : Space,
      (Function.update c.spaces o.space (c.spaces o.space).numbered s).hasLargestAcked =
      (c.spaces s).hasLargestAcked ∧
      (Function.update c.spaces o.space (c.spaces o.space).numbered s).largestAcked =
        (c.spaces s).largestAcked := by
    intro s
    by_cases hs : s = o.space
    · subst hs
      rw [Function.update_self]
      exact ⟨rfl, rfl⟩
    · rw [Function.update_of_ne hs]
      exact ⟨rfl, rfl⟩
  cases h with
  | unsent _ hsent _ hspaces =>
    simp only [hsent]
    refine ⟨hc.silent, fun p hp s hs => ?_⟩
    rcases hspaces with hspaces | ⟨-, hspaces⟩
    · rw [hspaces]
      exact hc.above p hp s hs
    · rw [hspaces, (hnumbered s).1, (hnumbered s).2]
      exact hc.above p hp s hs
  | recorded length _ _ hsent _ _ _ hspaces =>
    simp only [hsent, hspaces]
    constructor
    · intro p hp
      rcases List.mem_append.mp hp with hp | hp
      · exact hc.silent p hp
      · obtain rfl := List.mem_singleton.mp hp
        exact hsilent
    · intro p hp s hs
      rw [(hnumbered s).1, (hnumbered s).2]
      rcases List.mem_append.mp hp with hp | hp
      · exact hc.above p hp s hs
      · obtain rfl := List.mem_singleton.mp hp
        obtain rfl : o.space = s := Space.index_injective hs
        exact hc.tracked.acked o.space

/-- An acknowledgement keeps the list one of packets that ask for nothing. -/
lemma Connection.OnlyAcks.flush (hc : c.OnlyAcks) {fuel : ℕ} {space : Space} {force : Bool} {now : ℕ}
    {status : Status} (h : flushSpace env fuel space false force now c = some (c', status)) :
    c'.OnlyAcks := by
  have hupkeep : Upkeep fun _ => True := ⟨trivial, fun _ => trivial, fun _ => trivial,
    fun _ => trivial, fun _ => trivial⟩
  have htracked : c'.Tracked :=
    ((flushSpace_quietly hupkeep fuel space false force now c c' status h).reaches).tracked hc.tracked
  rcases flushSpace_withLoss env fuel space force now c with ⟨status', hflush⟩ | ⟨o, -, hsilent, hflush⟩
  · have h : some (c, status') = some (c', status) := (hflush c.loss).symm.trans h
    obtain ⟨rfl, -⟩ := Prod.mk.inj (Option.some.inj h)
    exact hc
  · have h : (sendPacket env fuel o c).map (ackAnswer space) = some (c', status) :=
      (hflush c.loss).symm.trans h
    obtain ⟨r, hsend, hanswer⟩ := Option.map_eq_some_iff.mp h
    -- With enough fuel the send ends as it did, in one of two ways.
    have hmono := sendPacket_mono (Nat.le_add_right fuel (quicSentPacketsMax + 2)) hsend
    obtain ⟨r', hr', hend, -⟩ := sendPacket_end env hc.tracked.count hc.not_sendDetects
      (show quicSentPacketsMax < fuel + quicSentPacketsMax + 1 by omega)
    obtain rfl : r = r' := Option.some.inj (hmono.symm.trans hr')
    obtain ⟨hlisted, habove⟩ := hc.send hsilent hend
    have hloss : c'.loss = r.1.loss ∧ ∀ s, (c'.spaces s).hasLargestAcked = (r.1.spaces s).hasLargestAcked ∧
        (c'.spaces s).largestAcked = (r.1.spaces s).largestAcked := by
      unfold ackAnswer at hanswer
      split at hanswer
      · cases hanswer
        refine ⟨rfl, fun s => ?_⟩
        unfold acknowledged Connection.setSpace
        by_cases hs : s = space
        · subst hs
          simp
        · simp [Function.update_of_ne hs]
      · cases hanswer
        exact ⟨rfl, fun _ => ⟨rfl, rfl⟩⟩
    refine ⟨htracked, ?_, ?_⟩
    · rw [hloss.1]
      exact hlisted
    · rw [hloss.1]
      intro p hp s hs
      rw [(hloss.2 s).1, (hloss.2 s).2]
      exact habove p hp s hs

lemma Connection.OnlyAcks.receive (hc : c.OnlyAcks) (h : c.Silent c') : c'.OnlyAcks := by
  have hsending : c.SameSending c' := ⟨by rw [h.loss], h.spaces⟩
  have hstep : SendStep steadyEnv c c' := .other hsending
  refine ⟨hstep.tracked hc.tracked, ?_, ?_⟩
  · rw [h.loss]
    exact hc.silent
  · rw [h.loss]
    intro p hp s hs
    obtain ⟨received, hspace⟩ := h.spaces s
    rw [hspace]
    exact hc.above p hp s hs

/-- In every state of a flow that starts with nothing listed, only acknowledgements are. -/
theorem AckFlow.onlyAcks (h₀ : c₀.Reachable env) (hidle : c₀.loss.sent = []) (h : AckFlow env c₀ c) :
    c.OnlyAcks := by
  induction h with
  | start =>
    refine ⟨h₀.tracked, ?_, ?_⟩
    · rw [hidle]
      exact nofun
    · rw [hidle]
      exact nofun
  | receive _ hsilent ih => exact ih.receive hsilent
  | flush fuel space force now _ hflush ih => exact ih.flush hflush

lemma canSend_of_sendProtected (h : (sendProtected env o c).2 = .ok) :
    quicCongestionCanSend c.congestion c.loss.bytesInFlight = true := by
  by_contra hfull
  rw [Bool.not_eq_true] at hfull
  unfold sendProtected at h
  simp only [hfull, Bool.not_false, if_true] at h
  cases h

lemma quicLossOnSent_of_empty {l : Loss} (hempty : l.sent = []) (p : SentPacket) :
    ∃ l', quicLossOnSent l p = .ok l' := by
  have hnew : findPacket l p.packetNumberSpace p.packetNumber = l.sent.length := by
    unfold findPacket
    rw [hempty]
    rfl
  unfold quicLossOnSent
  rw [if_neg (not_not.mpr hnew), if_neg (by rw [hempty]; decide)]
  exact ⟨_, rfl⟩

/-- Without its packets that ask for nothing a flow has nothing listed. -/
lemma Connection.OnlyAcks.withoutAcks_sent (hc : c.OnlyAcks) : c.withoutAcks.loss.sent = [] := by
  refine List.filter_eq_nil_iff.mpr ?_
  intro p hp
  rw [hc.silent p hp]
  decide

/-- What a flow's packet would be answered without the packets that ask for nothing. -/
lemma Connection.OnlyAcks.sendable (hc : c.OnlyAcks) {fuel : ℕ} {r : Connection × Status}
    (hsend : sendPacket env (fuel + 1) o c.withoutAcks = some r) (hok : r.2 = .ok)
    (hlisted : r.1.loss.sent ≠ []) :
    ∃ c₁, sendGuard env o c = .pass c₁ ∧
      (sendProtected env o (c₁.withLoss c.withoutAcks.loss)).2 = .ok := by
  have hempty := hc.withoutAcks_sent
  have hguard : sendGuard env o c.withoutAcks = (sendGuard env o c).withLoss c.withoutAcks.loss :=
    sendGuard_withLoss env o c c.withoutAcks.loss
  rw [sendPacket, hguard] at hsend
  cases hpass : sendGuard env o c with
  | refuse c₁ status =>
    rw [hpass] at hsend
    cases hsend
    exact absurd hempty hlisted
  | pass c₁ =>
    rw [hpass] at hsend
    have hroom : (c₁.withLoss c.withoutAcks.loss).loss.sent.length < quicSentPacketsMax := by
      change c.withoutAcks.loss.sent.length < quicSentPacketsMax
      rw [hempty]
      decide
    simp only [SendGuard.withLoss, hroom, if_true] at hsend
    cases hsend
    exact ⟨c₁, rfl, hok⟩

/-- A packet of a flow that would go out without the packets that ask for nothing goes out when
there is room, and is refused for want of room otherwise. -/
lemma Connection.OnlyAcks.sendPacket_answer (hc : c.OnlyAcks) {c₁ : Connection}
    (hpass : sendGuard env o c = .pass c₁)
    (hfree : (sendProtected env o (c₁.withLoss c.withoutAcks.loss)).2 = .ok) {fuel : ℕ}
    (hfuel : quicSentPacketsMax < fuel) :
    ∃ r, sendPacket env (fuel + 1) o c = some r ∧ (c.HasRoom → r.2 = .ok) ∧
      (¬ c.HasRoom → r.2 = .limit ∨ r.2 = .again) := by
  have htables := sendGuard_tables env o c
  rw [hpass] at htables
  have htables : c.SameTables c₁ := htables
  have hstep : SendStep env c c₁ := .other htables.sending
  have hc₁ : c₁.Tracked := hstep.tracked hc.tracked
  rw [sendPacket, hpass]
  simp only [htables.loss]
  by_cases hroom : c.loss.sent.length < quicSentPacketsMax
  · rw [if_pos hroom]
    refine ⟨_, rfl, ?_, ?_⟩
    · rintro ⟨-, hcan⟩
      rw [← hfree]
      refine (sendProtected_withLoss ?_ ?_ ?_ ?_).symm
      · rw [htables.congestion, htables.loss]
        exact hcan
      · exact canSend_of_sendProtected hfree
      · exact quicLossOnSent_of_tracked hc₁ (by rw [htables.loss]; exact hroom) o
      · exact fun length => quicLossOnSent_of_empty hc.withoutAcks_sent _
    · intro hnot
      have hcan : quicCongestionCanSend c₁.congestion c₁.loss.bytesInFlight = false := by
        rw [htables.congestion, htables.loss, Bool.eq_false_iff]
        exact fun hcan => hnot ⟨hroom, hcan⟩
      right
      unfold sendProtected
      simp only [hcan, Bool.not_false, if_true]
  · rw [if_neg hroom]
    have hnone : ∀ p ∈ c₁.loss.sent, packetLost o.space.index (c₁.spaces o.space).rtt o.now
        (c₁.spaces o.space).ackedSoFar p = false := by
      rw [htables.loss, htables.spaces]
      exact fun p hp => hc.not_packetLost hp o.space o.now
    have hshort : c₁.loss.sent.length < fuel := by
      rw [htables.loss]
      exact hc.tracked.count.trans_lt hfuel
    rw [detectLost_of_none (sendPacket env fuel) hshort hnone]
    simp only [htables.loss]
    rw [if_pos (not_lt.mp hroom)]
    exact ⟨_, rfl, fun h => absurd h.1 hroom, fun _ => .inl rfl⟩

end Flow

/-- In a connection that only receives, every listed packet is an acknowledgement, and one that is
owed and could go out but for them is refused with a limit or until later exactly when they fill the
list or the window. -/
theorem ack_flow_unblocked_iff {env : Env} {c₀ c : Connection} (h₀ : c₀.Reachable env)
    (hidle : c₀.loss.sent = []) (h : AckFlow env c₀ c) :
    (∀ p ∈ c.loss.sent, p.ackEliciting = false) ∧
      ∀ fuel space force now, quicSentPacketsMax + 1 < fuel →
        AckSendable env fuel space force now c →
        (¬ AckBlocked env fuel space force now c ↔ c.HasRoom) := by
  have hc := h.onlyAcks h₀ hidle
  refine ⟨hc.silent, ?_⟩
  rintro fuel space force now hfuel ⟨c', hflush', hlisted⟩
  rw [hc.withoutAcks_sent] at hlisted
  obtain ⟨fuel, rfl⟩ : ∃ f, fuel = f + 1 := ⟨fuel - 1, by omega⟩
  rcases flushSpace_withLoss env (fuel + 1) space force now c with ⟨status, hflush⟩ | ⟨o, -, -, hflush⟩
  · have hsame : some (c.withoutAcks, status) = some (c', .ok) :=
      (hflush c.withoutAcks.loss).symm.trans hflush'
    obtain ⟨rfl, -⟩ := Prod.mk.inj (Option.some.inj hsame)
    exact absurd hc.withoutAcks_sent hlisted
  -- The acknowledgement is one packet, with the list or without it.
  have hthere : (sendPacket env (fuel + 1) o c.withoutAcks).map (ackAnswer space) = some (c', .ok) :=
    (hflush c.withoutAcks.loss).symm.trans hflush'
  have hhere : flushSpace env (fuel + 1) space false force now c =
      (sendPacket env (fuel + 1) o c).map (ackAnswer space) := hflush c.loss
  obtain ⟨r', hsend', hanswer'⟩ := Option.map_eq_some_iff.mp hthere
  have hstatus : ∀ r : Connection × Status, (ackAnswer space r).2 = r.2 := by
    intro r
    unfold ackAnswer
    split
    · rename_i hok
      exact hok.symm
    · rfl
  have hok' : r'.2 = .ok := by rw [← hstatus r', hanswer']
  have hlisted' : r'.1.loss.sent ≠ [] := by
    unfold ackAnswer at hanswer'
    rw [if_pos hok'] at hanswer'
    cases hanswer'
    exact hlisted
  obtain ⟨c₁, hpass, hfree⟩ := hc.sendable hsend' hok' hlisted'
  obtain ⟨r, hsend, hroom, hnot⟩ := hc.sendPacket_answer hpass hfree
    (show quicSentPacketsMax < fuel by omega)
  rw [hsend, Option.map_some] at hhere
  constructor
  · intro hunblocked
    by_contra hfull
    refine hunblocked ⟨(ackAnswer space r).1, (ackAnswer space r).2, hhere, ?_⟩
    rw [hstatus]
    exact hnot hfull
  · rintro hfits ⟨c'', status, hflush'', hrefused⟩
    obtain hsame := Option.some.inj (hhere.symm.trans hflush'')
    have hok : status = .ok := by
      rw [← hroom hfits, ← hstatus r, hsame]
    subst hok
    rcases hrefused with h | h <;> cases h

/-! ## A peer that only sends -/

/-- A packet with a PING arrives in the Application space. -/
def pingArrives (n now : ℕ) (c : Connection) : Option (Connection × Status) :=
  (takePacket steadyEnv (fun _ _ c => some (c, .ok)) 200 .application now [0x40]
    ⟨true, [], [], n, 1, [0x01]⟩ { connection := c }).map fun r => (r.1.connection, .ok)

lemma processPacket_ping (now sequence : ℕ) (c : Connection) :
    ∃ counters asks, processPacket steadyEnv (fun _ _ c => some (c, .ok)) 200
      ⟨.application, now, sequence⟩ [0x01] c = some ({ c with counters := counters }, .ok, asks) := by
  have hdecode : quicFrameDecode [0x01] = .ok (.ping, []) := rfl
  have hallowed : frameForbiddenInSpace .ping .application = false := rfl
  unfold processPacket
  simp only [List.length_cons, List.length_nil, quicFramesDecode, hdecode, visitAndHandle, visitFrame,
    hallowed, Bool.false_eq_true, if_false]
  cases frameIgnored .ping (countFrame .ping c) with
  | true => exact ⟨_, _, rfl⟩
  | false => exact ⟨_, _, rfl⟩

lemma pingArrives_silent {n now : ℕ} {c c' : Connection} {status : Status}
    (h : pingArrives n now c = some (c', status)) : c.Silent c' := by
  unfold pingArrives takePacket at h
  cases hlocal : localConnectionIdSequence c [] with
  | none =>
    simp only [hlocal] at h
    cases h
    exact ⟨rfl, rfl, fun s => ⟨(c.spaces s).received, rfl⟩⟩
  | some sequence =>
    obtain ⟨counters, asks, hprocess⟩ := processPacket_ping now sequence c
    simp only [hlocal, hprocess] at h
    cases h
    refine ⟨rfl, rfl, fun s => ?_⟩
    cases s with
    | initial => exact ⟨(c.spaces .initial).received, rfl⟩
    | handshake => exact ⟨(c.spaces .handshake).received, rfl⟩
    | application => exact ⟨quicAckRecord (c.spaces .application).received n asks, rfl⟩

/-- Packets arrive one by one, and each is acknowledged. -/
def ackRounds (n : ℕ) : List (Connection → Option (Connection × Status)) :=
  (List.range n).flatMap fun i =>
    [pingArrives i 1000, flushSpace steadyEnv 200 .application false true 1000]

/-- Steps that a flow is made of lead through the flow. -/
lemma AckFlow.inOrder {env : Env} {c₀ c c' : Connection} {status : Status}
    {steps : List (Connection → Option (Connection × Status))}
    (hsteps : ∀ step ∈ steps, ∀ c c' status, AckFlow env c₀ c → step c = some (c', status) →
      AckFlow env c₀ c') (h : AckFlow env c₀ c) (hrun : inOrder steps c = some (c', status)) :
    AckFlow env c₀ c' := by
  induction steps generalizing c with
  | nil =>
    cases hrun
    exact h
  | cons step steps ih =>
    rw [WebTransport.inOrder] at hrun
    split at hrun
    · cases hrun
    · rename_i c₁ hstep
      refine ih (fun step' hmem => hsteps step' (List.mem_cons_of_mem _ hmem)) ?_ hrun
      exact hsteps step List.mem_cons_self c c₁ .ok h hstep
    · rename_i hstep
      cases hrun
      exact hsteps step List.mem_cons_self _ _ _ h hstep

/-- Packets that arrive and are acknowledged are a flow. -/
lemma ackRounds_flow {n m : ℕ} {c : Connection} {status : Status}
    (hrun : inOrder (ackRounds n ++ [pingArrives m 1000]) keyedServer = some (c, status)) :
    AckFlow steadyEnv keyedServer c := by
  refine AckFlow.inOrder ?_ .start hrun
  intro step hstep c c' status h heq
  rcases List.mem_append.mp hstep with hstep | hstep
  · obtain ⟨i, -, hstep⟩ := List.mem_flatMap.mp hstep
    rcases List.mem_cons.mp hstep with rfl | hstep
    · exact h.receive (pingArrives_silent heq)
    · obtain rfl := List.mem_singleton.mp hstep
      exact h.flush _ _ _ _ heq
  · obtain rfl := List.mem_singleton.mp hstep
    exact h.receive (pingArrives_silent heq)

/-- What is left to say of a run once its numbers are known. -/
lemma ackRounds_eval {n m listed : ℕ} {answer : Status}
    (heval : (inOrder (ackRounds n ++ [pingArrives m 1000]) keyedServer).map (fun r =>
      (r.1.loss.sent.length,
        (flushSpace steadyEnv 200 .application false true 1000 r.1).map Prod.snd,
        (flushSpace steadyEnv 200 .application false true 1000 r.1.withoutAcks).map fun x =>
          (x.2, x.1.loss.sent.length))) = some (listed, some answer, some (.ok, 1))) :
    ∃ c, AckFlow steadyEnv keyedServer c ∧ c.loss.sent.length = listed ∧
      AckSendable steadyEnv 200 .application true 1000 c ∧
      ∃ c', flushSpace steadyEnv 200 .application false true 1000 c = some (c', answer) := by
  obtain ⟨⟨c, status⟩, hrun, heq⟩ := Option.map_eq_some_iff.mp heval
  have hflow := ackRounds_flow hrun
  simp only [Prod.mk.injEq] at heq
  obtain ⟨hlisted, hanswer, hfree⟩ := heq
  obtain ⟨⟨c₁, status₁⟩, hflush, rfl⟩ := Option.map_eq_some_iff.mp hanswer
  obtain ⟨⟨c₂, status₂⟩, hflush', hsent⟩ := Option.map_eq_some_iff.mp hfree
  obtain ⟨rfl, hlength⟩ := Prod.mk.inj hsent
  refine ⟨c, hflow, hlisted, ⟨c₂, hflush', ?_⟩, c₁, hflush⟩
  rw [(hflow.onlyAcks keyedServer_reachable rfl).withoutAcks_sent]
  intro hempty
  have hlength : c₂.loss.sent.length = 1 := hlength
  rw [hempty] at hlength
  cases hlength

/-- A server that has acknowledged two packets acknowledges the third. -/
theorem ack_flow_unblocked_third :
    ∃ c, AckFlow steadyEnv keyedServer c ∧ c.HasRoom ∧
      AckSendable steadyEnv 200 .application true 1000 c ∧
      ¬ AckBlocked steadyEnv 200 .application true 1000 c := by
  obtain ⟨c, hflow, -, hsendable, c', hflush⟩ : ∃ c, AckFlow steadyEnv keyedServer c ∧
      c.loss.sent.length = 2 ∧ AckSendable steadyEnv 200 .application true 1000 c ∧
      ∃ c', flushSpace steadyEnv 200 .application false true 1000 c = some (c', .ok) := by
    refine ackRounds_eval (n := 2) (m := 2) ?_
    decide +kernel
  obtain ⟨-, hiff⟩ := ack_flow_unblocked_iff keyedServer_reachable rfl hflow
  have hunblocked : ¬ AckBlocked steadyEnv 200 .application true 1000 c := by
    rintro ⟨c'', status, hflush', hrefused⟩
    obtain ⟨-, rfl⟩ := Prod.mk.inj (Option.some.inj (hflush.symm.trans hflush'))
    rcases hrefused with h | h <;> cases h
  exact ⟨c, hflow, (hiff 200 .application true 1000 (by decide) hsendable).mp hunblocked, hsendable,
    hunblocked⟩

/-- A server that has acknowledged 64 packets and sent nothing else refuses the next
acknowledgement, which would go out had it not listed them. -/
theorem ack_flow_fills_list :
    ∃ c, AckFlow steadyEnv keyedServer c ∧ (∀ p ∈ c.loss.sent, p.ackEliciting = false) ∧
      AckSendable steadyEnv 200 .application true 1000 c ∧
      ∃ c', flushSpace steadyEnv 200 .application false true 1000 c = some (c', .limit) := by
  obtain ⟨c, hflow, -, hsendable, hflush⟩ : ∃ c, AckFlow steadyEnv keyedServer c ∧
      c.loss.sent.length = 64 ∧ AckSendable steadyEnv 200 .application true 1000 c ∧
      ∃ c', flushSpace steadyEnv 200 .application false true 1000 c = some (c', .limit) := by
    refine ackRounds_eval (n := 64) (m := 64) ?_
    decide +kernel
  exact ⟨c, hflow, (hflow.onlyAcks keyedServer_reachable rfl).silent, hsendable, hflush⟩

end WebTransport
