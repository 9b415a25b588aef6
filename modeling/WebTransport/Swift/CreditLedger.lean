import WebTransport.Swift.KnownSessions

/-!
# The credit that a session is charged

What is sent and what is opened is counted before it is sent and opened. A session is charged for
just what was sent and opened where nothing fails after it was counted; a payload that is refused by
its stream stays charged.
-/

namespace WebTransport

open Throwing

/-! ## Credit -/

/-- Bytes and streams. -/
@[ext]
structure SessionCharge where
  bytes : ℕ
  bidi : ℕ
  uni : ℕ
deriving DecidableEq, Repr

namespace SessionCharge

instance : Zero SessionCharge := ⟨⟨0, 0, 0⟩⟩

instance : Add SessionCharge := ⟨fun c c' => ⟨c.bytes + c'.bytes, c.bidi + c'.bidi, c.uni + c'.uni⟩⟩

lemma add_zero (c : SessionCharge) : c + 0 = c := rfl

/-- So many bytes. -/
def ofBytes (n : ℕ) : SessionCharge := ⟨n, 0, 0⟩

/-- One stream of a form. -/
def ofStream : WebTransportStreamForm → SessionCharge
  | .bidirectional => ⟨0, 1, 0⟩
  | .unidirectional => ⟨0, 0, 1⟩

end SessionCharge

namespace WebTransportFlowControlState

variable {s s' : WebTransportFlowControlState}

/-- What the credit counts. -/
def charge (s : WebTransportFlowControlState) : SessionCharge :=
  ⟨s.usedData, s.openedBidiStreams, s.openedUniStreams⟩

/-- A limit of data where there is credit at all. -/
def IsLimited (s : WebTransportFlowControlState) : Prop :=
  s.isEnabled → s.maxDataState.asUInt64.isSome

/-- The credit counts something more, if it counts at all. -/
structure Counts (s s' : WebTransportFlowControlState) (charge : SessionCharge) : Prop where
  enabled : s'.isEnabled = s.isEnabled
  limited : s.IsLimited → s'.IsLimited
  counted : s.isEnabled → s'.charge = s.charge + charge
  ignored : s.isEnabled = false → s'.charge = s.charge

lemma Counts.of_disabled (h : s.isEnabled = false) (charge : SessionCharge) :
    s.Counts s charge where
  enabled := rfl
  limited := id
  counted henabled := absurd (h.symm.trans henabled) (by decide)
  ignored _ := rfl

lemma Counts.zero (henabled : s'.isEnabled = s.isEnabled) (hlimited : s.IsLimited → s'.IsLimited)
    (hcharge : s'.charge = s.charge) : s.Counts s' 0 :=
  ⟨henabled, hlimited, fun _ => hcharge, fun _ => hcharge⟩

lemma Counts.of_enabled {charge : SessionCharge} (h : s.isEnabled = true)
    (henabled : s'.isEnabled = s.isEnabled) (hlimited : s'.maxDataState = s.maxDataState)
    (hcharge : s'.charge = s.charge + charge) : s.Counts s' charge := by
  refine ⟨henabled, fun hs => ?_, fun _ => hcharge, fun hno => absurd (hno.symm.trans h) (by decide)⟩
  intro h'
  rw [hlimited]
  exact hs h

lemma recordData_counts {byteCount : ℕ} (hlimited : s.IsLimited)
    (h : s.recordData byteCount = .ok s') : s.Counts s' (.ofBytes byteCount) := by
  unfold recordData at h
  cases henabled : s.isEnabled with
  | false =>
    rw [henabled] at h
    obtain rfl := Except.ok.inj h
    exact .of_disabled henabled _
  | true =>
    rw [henabled] at h
    have hsome := hlimited henabled
    cases hlimit : s.maxDataState with
    | disabled =>
      rw [hlimit] at hsome
      cases hsome
    | unlimited =>
      rw [hlimit] at hsome
      cases hsome
    | zero =>
      rw [hlimit] at h
      cases h
    | limited limit =>
      rw [hlimit] at h
      unfold Checked.add at h
      by_cases hfits : s.usedData + byteCount < Checked.bound
      · rw [if_pos hfits] at h
        simp only at h
        split_ifs at h
        · contradiction
        · obtain rfl := Except.ok.inj h
          exact .of_enabled henabled henabled.symm hlimit.symm rfl
      · rw [if_neg hfits] at h
        cases h

lemma registerStream_counts {form : WebTransportStreamForm} (h : s.registerStream form = .ok s') :
    s.Counts s' (.ofStream form) := by
  cases henabled : s.isEnabled with
  | false =>
    have heq : s' = s := by
      cases form with
      | bidirectional =>
        unfold registerStream at h
        rw [henabled] at h
        exact (Except.ok.inj h).symm
      | unidirectional =>
        unfold registerStream at h
        rw [henabled] at h
        exact (Except.ok.inj h).symm
    obtain rfl := heq
    exact .of_disabled henabled _
  | true =>
    cases form with
    | bidirectional =>
      unfold registerStream at h
      rw [henabled] at h
      obtain ⟨_, -, h⟩ := bind_ok h
      obtain rfl := Except.ok.inj h
      exact .of_enabled henabled henabled.symm rfl rfl
    | unidirectional =>
      unfold registerStream at h
      rw [henabled] at h
      obtain ⟨_, -, h⟩ := bind_ok h
      obtain rfl := Except.ok.inj h
      exact .of_enabled henabled henabled.symm rfl rfl

lemma setMonotonic_isSome {limit limit' : WebTransportFlowControlLimitState} {value : ℕ}
    {label : String} (h : limit.setMonotonic value label = .ok limit') :
    limit'.asUInt64.isSome := by
  unfold WebTransportFlowControlLimitState.setMonotonic at h
  split_ifs at h
  obtain rfl := Except.ok.inj h
  unfold WebTransportFlowControlLimitState.make
  by_cases hzero : value = 0
  · rw [hzero]
    rfl
  · rw [if_neg (by simp)]
    simp only
    rw [if_neg hzero]
    rfl

/-- A capsule of the peer raises limits and counts nothing. -/
lemma apply_counts {capsule : WebTransportFlowCapsule} (h : s.apply capsule = .ok s') :
    s.Counts s' 0 := by
  unfold apply at h
  split at h
  · unfold setMaxData at h
    split_ifs at h
    · obtain rfl := Except.ok.inj h
      exact .zero rfl id rfl
    · obtain ⟨limit, hlimit, h⟩ := bind_ok h
      obtain rfl := Except.ok.inj h
      exact .zero rfl (fun _ _ => setMonotonic_isSome hlimit) rfl
  · unfold setMaxStreamsBidi at h
    split_ifs at h
    · obtain rfl := Except.ok.inj h
      exact .zero rfl id rfl
    · obtain ⟨limit, -, h⟩ := bind_ok h
      obtain rfl := Except.ok.inj h
      exact .zero rfl id rfl
  · unfold setMaxStreamsUni at h
    split_ifs at h
    · obtain rfl := Except.ok.inj h
      exact .zero rfl id rfl
    · obtain ⟨limit, -, h⟩ := bind_ok h
      obtain rfl := Except.ok.inj h
      exact .zero rfl id rfl
  all_goals
    obtain rfl := Except.ok.inj h
    exact .zero rfl id rfl

/-- Credit from settings has limits that are numbers. -/
lemma ofSettings_limited (settings : HTTP3Settings) (isEnabled : Bool) :
    (ofSettings settings isEnabled).IsLimited := by
  intro henabled
  obtain rfl : isEnabled = true := henabled
  show (WebTransportFlowControlLimitState.make (some _) true).asUInt64.isSome
  unfold WebTransportFlowControlLimitState.make
  rw [if_neg (by simp)]
  simp only
  split_ifs
  · rfl
  · rfl

end WebTransportFlowControlState

namespace WebTransportSessionManager

variable {env : ManagerEnv} {L : StepLimits} {m m' m'' : WebTransportSessionManager}
  {sessionID : ℕ} {session : WebTransportSession} {ledger : ℕ → SessionCharge}

/-- Every session has credit, and credit counts what the ledger says. -/
structure Charged (m : WebTransportSessionManager) (ledger : ℕ → SessionCharge) : Prop where
  known : m.Known
  credited : ∀ id session, m.sessionsByID.get? id = some session →
    (m.flowControlStateBySessionID.get? id).isSome
  fresh : ∀ id, m.http3.requestStreams.get? id = none → ledger id = 0
  limited : ∀ id credit, m.flowControlStateBySessionID.get? id = some credit → credit.IsLimited
  charged : ∀ id credit, m.flowControlStateBySessionID.get? id = some credit →
    credit.isEnabled → credit.charge = ledger id

/-- A manager in which the credit of the sessions that are left is the same. -/
structure SameCredit (m m' : WebTransportSessionManager) : Prop where
  fewer : m.FewerSessions m'
  credit : ∀ id credit, m'.flowControlStateBySessionID.get? id = some credit →
    m.flowControlStateBySessionID.get? id = some credit
  credited : ∀ id session', m'.sessionsByID.get? id = some session' →
    (m.flowControlStateBySessionID.get? id).isSome →
    (m'.flowControlStateBySessionID.get? id).isSome

namespace SameCredit

lemma of_same (hfewer : m.FewerSessions m')
    (hcredit : m'.flowControlStateBySessionID = m.flowControlStateBySessionID) :
    m.SameCredit m' where
  fewer := hfewer
  credit id c h := hcredit ▸ h
  credited id _ _ h := hcredit ▸ h

lemma trans (h : m.SameCredit m') (h' : m'.SameCredit m'') : m.SameCredit m'' where
  fewer := h.fewer.trans h'.fewer
  credit id c hget := h.credit id c (h'.credit id c hget)
  credited id session'' hget'' hsome := by
    obtain ⟨session', hget', -, -⟩ := h'.fewer.sessions id session'' hget''
    exact h'.credited id session'' hget'' (h.credited id session' hget' hsome)

lemma charged (h : m.SameCredit m') (hm : m.Charged ledger) : m'.Charged ledger where
  known := h.fewer.known hm.known
  credited id session' hget' := by
    obtain ⟨session, hget, -, -⟩ := h.fewer.sessions id session' hget'
    exact h.credited id session' hget' (hm.credited id session hget)
  fresh id hnone := by
    refine hm.fresh id ?_
    by_contra hsome
    have hmore := h.fewer.streams id (Option.isSome_iff_ne_none.mpr hsome)
    rw [hnone] at hmore
    cases hmore
  limited id c hget := hm.limited id c (h.credit id c hget)
  charged id c hget := hm.charged id c (h.credit id c hget)

end SameCredit

lemma releaseSessionState_sameCredit : m.SameCredit (m.releaseSessionState sessionID) := by
  have hcredit : (m.releaseSessionState sessionID).flowControlStateBySessionID =
      m.flowControlStateBySessionID.erase sessionID := by
    unfold releaseSessionState
    split <;> rfl
  refine ⟨releaseSessionState_fewer, fun id c h => ?_, fun id session' h hsome => ?_⟩
  · rw [hcredit, Dictionary.get?_erase] at h
    split_ifs at h
    exact h
  · rw [hcredit, Dictionary.get?_erase_of_ne]
    · exact hsome
    · rintro rfl
      cases hstored : m.sessionsByID.get? id with
      | none =>
        obtain ⟨session, hsession, -, -⟩ := releaseSessionState_fewer.sessions id session' h
        rw [hstored] at hsession
        cases hsession
      | some session =>
        rw [(releaseSessionState_some hstored).1, Dictionary.get?_erase_self] at h
        cases h

lemma recordClosedSession_sameCredit : m.SameCredit (m.recordClosedSession env sessionID) := by
  unfold recordClosedSession
  generalize m.closedSessionOrder.erase sessionID ++ [sessionID] = order
  induction order generalizing m with
  | nil => exact .of_same (.of_same rfl rfl rfl) rfl
  | cons oldest rest ih =>
    unfold evictClosedSessions
    split_ifs
    · exact releaseSessionState_sameCredit.trans ih
    · exact .of_same (.of_same rfl rfl rfl) rfl

lemma closeSession_sameCredit (hsession : m.sessionsByID.get? sessionID = some session)
    (applicationErrorCode : ℕ) (message : List UInt8) (closeCapsuleReceived : Bool) :
    m.SameCredit (m.closeSession env session sessionID applicationErrorCode message
      closeCapsuleReceived).2 := by
  obtain ⟨m', hstreams, heq⟩ := closeSession_eq env m sessionID session applicationErrorCode message
    closeCapsuleReceived
  have hclosed : m.SameCredit (m.storeClosed session sessionID applicationErrorCode message
      closeCapsuleReceived) := .of_same (storeClosed_fewer hsession _ _ _) rfl
  have hended : (m.storeClosed session sessionID applicationErrorCode message
      closeCapsuleReceived).SameCredit m' :=
    .of_same (.of_streamsOnly hstreams) (by rw [hstreams.same])
  have hcleared : m'.SameCredit (m'.clearDatagrams sessionID) := .of_same (.of_same rfl rfl rfl) rfl
  rw [heq]
  exact (hclosed.trans hended).trans (hcleared.trans recordClosedSession_sameCredit)

lemma discardBufferedIngress_sameCredit :
    m.SameCredit (m.discardBufferedIngress env sessionID) := by
  refine .of_same discardBufferedIngress_fewer ?_
  obtain ⟨m', hstreams, heq⟩ := discardBufferedIngress_eq env m sessionID
  rw [heq]
  show m'.flowControlStateBySessionID = m.flowControlStateBySessionID
  rw [hstreams.same]

/-! ## Counting -/

/-- The credit of a session that has none does not count. -/
lemma credit_limited (hm : m.Charged ledger) (id : ℕ) : (m.credit false id).IsLimited := by
  show ((m.flowControlStateBySessionID.get? id).getD .off).IsLimited
  cases hget : m.flowControlStateBySessionID.get? id with
  | none => exact nofun
  | some credit => exact hm.limited id credit hget

lemma credit_charge (hm : m.Charged ledger) {id : ℕ} (henabled : (m.credit false id).isEnabled) :
    (m.credit false id).charge = ledger id := by
  change ((m.flowControlStateBySessionID.get? id).getD .off).isEnabled at henabled
  show ((m.flowControlStateBySessionID.get? id).getD .off).charge = ledger id
  cases hget : m.flowControlStateBySessionID.get? id with
  | none =>
    rw [hget] at henabled
    cases henabled
  | some credit =>
    rw [hget] at henabled
    exact hm.charged id credit hget henabled

lemma setCredit_charged {credit : WebTransportFlowControlState} {charge : SessionCharge}
    (hm : m.Charged ledger) (hcounts : (m.credit false sessionID).Counts credit charge)
    (hknown : charge = 0 ∨ (m.http3.requestStreams.get? sessionID).isSome) :
    (m.setCredit false sessionID credit).Charged
      (Function.update ledger sessionID (ledger sessionID + charge)) := by
  have hget : ∀ id, (m.setCredit false sessionID credit).flowControlStateBySessionID.get? id =
      if id = sessionID then some credit else m.flowControlStateBySessionID.get? id :=
    fun id => Dictionary.get?_insert
  refine ⟨(setCredit_fewer false credit).known hm.known, fun id session h => ?_,
    fun id hnone => ?_, fun id c h => ?_, fun id c h henabled => ?_⟩
  · rw [hget]
    split_ifs
    · rfl
    · exact hm.credited id session h
  · have hnone' : m.http3.requestStreams.get? id = none := hnone
    rw [Function.update_apply]
    split_ifs with hkey
    · subst hkey
      rcases hknown with rfl | hknown
      · exact hm.fresh id hnone'
      · rw [hnone'] at hknown
        cases hknown
    · exact hm.fresh id hnone'
  · rw [hget] at h
    split_ifs at h
    · obtain rfl := Option.some.inj h
      exact hcounts.limited (credit_limited hm sessionID)
    · exact hm.limited id c h
  · rw [hget] at h
    rw [Function.update_apply]
    split_ifs at h ⊢
    · obtain rfl := Option.some.inj h
      rw [hcounts.enabled] at henabled
      rw [hcounts.counted henabled, credit_charge hm henabled]
    · exact hm.charged id c h henabled

lemma setCredit_uncharged {credit : WebTransportFlowControlState} (hm : m.Charged ledger)
    (hcounts : (m.credit false sessionID).Counts credit 0) :
    (m.setCredit false sessionID credit).Charged ledger := by
  have h := setCredit_charged hm hcounts (.inl rfl)
  rwa [SessionCharge.add_zero, Function.update_eq_self] at h

/-- A session is stored with the credit that it has, or with new credit. -/
lemma store_charged (http3 : HTTP3ConnectionState) (hm : m.Charged ledger)
    (hknown : (({ m with http3 := http3 } : WebTransportSessionManager).store session).Known)
    (hstreams : ∀ id, (m.http3.requestStreams.get? id).isSome →
      (http3.requestStreams.get? id).isSome)
    (hcredit : (m.flowControlStateBySessionID.get? session.id).isSome ∨ ledger session.id = 0) :
    (({ m with http3 := http3 } : WebTransportSessionManager).store session).Charged ledger := by
  have hget : ∀ id, ∃ new : WebTransportFlowControlState, new.IsLimited ∧ new.charge = 0 ∧
      (({ m with http3 := http3 } : WebTransportSessionManager).store
        session).flowControlStateBySessionID.get? id =
          if id = session.id then
            some ((m.flowControlStateBySessionID.get? session.id).getD new)
          else m.flowControlStateBySessionID.get? id := fun id =>
    ⟨_, WebTransportFlowControlState.ofSettings_limited _ _, rfl, Dictionary.get?_insert⟩
  refine ⟨hknown, fun id s h => ?_, fun id hnone => ?_, fun id c h => ?_,
    fun id c h henabled => ?_⟩
  · obtain ⟨new, -, -, heq⟩ := hget id
    rw [heq]
    rw [get?_store] at h
    split_ifs at h ⊢
    · rfl
    · exact hm.credited id s h
  · refine hm.fresh id ?_
    by_contra hsome
    have hmore := hstreams id (Option.isSome_iff_ne_none.mpr hsome)
    have hnone' : http3.requestStreams.get? id = none := hnone
    rw [hnone'] at hmore
    cases hmore
  · obtain ⟨new, hlimited, -, heq⟩ := hget id
    rw [heq] at h
    split_ifs at h
    · obtain rfl := Option.some.inj h
      cases hold : m.flowControlStateBySessionID.get? session.id with
      | none => exact hlimited
      | some credit => exact hm.limited _ credit hold
    · exact hm.limited id c h
  · obtain ⟨new, -, hzero, heq⟩ := hget id
    rw [heq] at h
    split_ifs at h with hkey
    · obtain rfl := Option.some.inj h
      rw [hkey]
      cases hold : m.flowControlStateBySessionID.get? session.id with
      | none =>
        rw [hold] at hcredit
        exact hzero.trans (hcredit.resolve_left nofun).symm
      | some credit =>
        rw [hold] at henabled
        exact hm.charged _ credit hold henabled
    · exact hm.charged id c h henabled

lemma refused_charged (hm : m.Charged ledger) (capsule : Option WebTransportFlowCapsule) :
    ((m.enqueueBlockedFlowCapsule capsule sessionID).setCredit false sessionID
      (m.credit false sessionID)).Charged ledger := by
  have hqueued : (m.enqueueBlockedFlowCapsule capsule sessionID).Charged ledger := by
    refine (SameCredit.of_same (enqueueBlockedFlowCapsule_fewer capsule) ?_).charged hm
    cases capsule
    · rfl
    · rfl
  have hcredit : (m.enqueueBlockedFlowCapsule capsule sessionID).credit false sessionID =
      m.credit false sessionID := by
    cases capsule
    · rfl
    · rfl
  rw [← hcredit]
  exact setCredit_uncharged hqueued (.zero rfl id rfl)

/-! ## Steps -/

/-- A step that does not spend leaves the ledger as it is. -/
theorem step_charged (hspends : ¬L.spends) (hstep : ManagerStep env L m m')
    (hm : m.Charged ledger) : m'.Charged ledger := by
  have hknown := (step_known hstep hm.known).1
  have hsame : ∀ {m' : WebTransportSessionManager}, m.FewerSessions m' →
      m'.flowControlStateBySessionID = m.flowControlStateBySessionID → m'.Charged ledger :=
    fun hfewer hcredit => (SameCredit.of_same hfewer hcredit).charged hm
  cases hstep with
  | goawaySent => exact hsame (.of_same rfl rfl rfl) rfl
  | controlReceived _ hreceive =>
    obtain ⟨_, _, _, _, -, -, rfl⟩ := receivePeerControlStream_ok hreceive
    exact hsame (.of_same rfl rfl rfl) rfl
  | goawayReceived _ hreceive =>
    obtain rfl | ⟨_, -, -, rfl⟩ := receiveControlFrame_ok hreceive
    · exact hsame (.of_same rfl rfl rfl) rfl
    · exact hsame (.of_same rfl rfl rfl) rfl
  | drainedAll => exact hsame drainSessions_fewer rfl
  | requestStreams hmore => exact hsame (.of_moreStreams hmore) rfl
  | begun hmore hfresh =>
    exact store_charged _ hm hknown hmore.more (.inr (hm.fresh _ hfresh))
  | @answered _ old hold =>
    have hcredit := hm.credited _ old hold
    rw [← hm.known.keyed _ _ hold] at hcredit
    exact store_charged m.http3 hm hknown (fun _ h => h) (.inl hcredit)
  | promoted => exact hsame (.of_same rfl rfl rfl) rfl
  | promotionDone => exact hsame (.of_same rfl rfl rfl) rfl
  | discarded =>
    exact (discardBufferedIngress_sameCredit.trans recordClosedSession_sameCredit).charged hm
  | drained hsession => exact hsame (setSession_fewer hsession rfl rfl) rfl
  | closed hsession => exact (closeSession_sameCredit hsession _ _ _).charged hm
  | received => exact hsame (setCredit_fewer true _) rfl
  | spent hallowed => exact absurd hallowed hspends
  | refused sessionID capsule => exact refused_charged hm capsule
  | raised hraise => exact setCredit_uncharged hm (WebTransportFlowControlState.apply_counts hraise)
  | registered => exact hsame (.of_same rfl rfl rfl) rfl
  | held => exact hsame (.of_same rfl rfl rfl) rfl
  | streamSet => exact hsame (.of_same rfl rfl rfl) rfl
  | datagramPushed => exact hsame (.of_same rfl rfl rfl) rfl
  | datagramPopped => exact hsame (.of_same rfl rfl rfl) rfl
  | capsulesSet => exact hsame (.of_same rfl rfl rfl) rfl

/-! ## Opening and sending -/

/-- The credit of every session counts the same. -/
def SameCharges (m m' : WebTransportSessionManager) : Prop :=
  ∀ id, (m'.credit false id).charge = (m.credit false id).charge

lemma setCredit_sameCharges {credit : WebTransportFlowControlState}
    (h : credit.charge = (m.credit false sessionID).charge) :
    m.SameCharges (m.setCredit false sessionID credit) := by
  intro id
  show (((m.flowControlStateBySessionID.insert sessionID credit).get? id).getD .off).charge = _
  rw [Dictionary.get?_insert]
  split_ifs with hkey
  · rw [hkey]
    exact h
  · rfl

lemma reserve_ends {count : WebTransportFlowControlState →
      Except ManagerError WebTransportFlowControlState}
    {blocked : WebTransportFlowControlState → Option WebTransportFlowCapsule} :
    Ends (reserve env count blocked sessionID false) m
      (fun _ m' => ∃ capsule, m' = (m.enqueueBlockedFlowCapsule capsule sessionID).setCredit false
        sessionID (m.credit false sessionID))
      fun _ m' => ∃ credit, count (m.credit false sessionID) = .ok credit ∧
        m' = m.setCredit false sessionID credit := by
  refine Ends.get_bind ?_
  simp only
  split
  · rename_i credit hcount
    exact Ends.modify ⟨credit, hcount, rfl⟩
  · exact Ends.bind (P := fun _ m' => ∃ capsule, m' = (m.enqueueBlockedFlowCapsule capsule
      sessionID).setCredit false sessionID (m.credit false sessionID)) (Ends.modify ⟨_, rfl⟩)
      fun _ _ h => Ends.throw h

lemma refused_sameCharges (capsule : Option WebTransportFlowCapsule) :
    m.SameCharges ((m.enqueueBlockedFlowCapsule capsule sessionID).setCredit false sessionID
      (m.credit false sessionID)) := by
  cases capsule
  · exact setCredit_sameCharges rfl
  · exact setCredit_sameCharges rfl

/-- What is charged where a call throws: nothing. -/
structure Uncharged (m m' : WebTransportSessionManager) (ledger : ℕ → SessionCharge) : Prop where
  charged : m'.Charged ledger
  same : m.SameCharges m'

/-- Credit that was counted is charged, and where it does not count nothing is. -/
lemma counted_charged {credit : WebTransportFlowControlState} {charge : SessionCharge}
    (hm : m.Charged ledger) (hcounts : (m.credit false sessionID).Counts credit charge)
    (hknown : (m.http3.requestStreams.get? sessionID).isSome) :
    (m.setCredit false sessionID credit).Charged
        (Function.update ledger sessionID (ledger sessionID + charge)) ∧
      ((m.credit false sessionID).isEnabled = false ∨ charge = 0 →
        m.Uncharged (m.setCredit false sessionID credit) ledger) := by
  refine ⟨setCredit_charged hm hcounts (.inr hknown), fun h => ?_⟩
  have hcharge : credit.charge = (m.credit false sessionID).charge := by
    cases henabled : (m.credit false sessionID).isEnabled with
    | false => exact hcounts.ignored henabled
    | true =>
      obtain hno | rfl := h
      · exact absurd (henabled.symm.trans hno) (by decide)
      · exact hcounts.counted henabled
  exact ⟨setCredit_uncharged hm (.zero hcounts.enabled hcounts.limited hcharge),
    setCredit_sameCharges hcharge⟩

end WebTransportSessionManager

/-- What can be sent on a stream: it is neither closed nor reset, this endpoint owns its send half,
and its offset stays within its limit. -/
def QUICStreamState.CanSend (s : QUICStreamState) (byteCount : ℕ) : Prop :=
  s.ensureCanSend = .ok () ∧ ∃ attempted, Checked.add s.sendOffset byteCount = some attempted ∧
    attempted ≤ s.maxSendOffset

lemma WebTransportStreamState.sendPayload_of_canSend {s : WebTransportStreamState}
    {data : List UInt8} (h : s.quicStream.CanSend data.length) (fin : Bool) :
    ∃ r, s.sendPayload data fin = .ok r := by
  obtain ⟨hcan, attempted, hadd, hle⟩ := h
  have hsend : ∃ r, s.quicStream.send data fin = .ok r := by
    unfold QUICStreamState.send
    rw [hcan, hadd]
    exact ⟨_, if_neg (not_lt.mpr hle)⟩
  obtain ⟨r, hr⟩ := hsend
  unfold sendPayload
  rw [hr]
  exact ⟨_, rfl⟩

/-- A call that has credit does not fail for another reason: a stream that is opened has a buffer
and an ID of its session that can be written, and a payload can be sent. -/
def ManagerCall.Lands (env : ManagerEnv) (m : WebTransportSessionManager) : ManagerCall → Prop
  | openStream form streamID sessionID => ∀ session credit,
    m.admitOwnStream env form streamID sessionID = .ok session →
    (m.credit false session.id).isEnabled →
    (m.credit false session.id).registerStream form = .ok credit →
      0 ≤ env.maxStreamReceiveBufferBytes ∧ session.id ≤ QUICVarInt.maximum
  | sendStreamPayload streamID payload _ => ∀ stream credit,
    m.sendableStream streamID = .ok stream →
    (m.credit false stream.sessionID).isEnabled →
    (m.credit false stream.sessionID).recordData payload.length = .ok credit →
      payload = [] ∨ stream.quicStream.CanSend payload.length
  | _ => True

namespace WebTransportSessionManager

variable {env : ManagerEnv} {m : WebTransportSessionManager} {sessionID streamID : ℕ}
  {ledger : ℕ → SessionCharge}

lemma register_sameCredit (stream : WebTransportStreamState) : m.SameCredit (m.register stream) :=
  .of_same (.of_same rfl rfl rfl) rfl

lemma setStream_sameCredit (stream : WebTransportStreamState) :
    m.SameCredit (m.setStream streamID stream) :=
  .of_same (.of_same rfl rfl rfl) rfl

lemma newStream_of_limit (form : WebTransportStreamForm)
    (h : 0 ≤ env.maxStreamReceiveBufferBytes) :
    ∃ stream, m.newStream env form streamID sessionID = .ok stream := by
  unfold newStream WebTransportStreamState.init
  rw [if_neg (not_lt.mpr h)]
  exact ⟨_, rfl⟩

lemma serializeStreamPrefix_of_le (form : WebTransportStreamForm)
    (h : sessionID ≤ QUICVarInt.maximum) :
    ∃ bytes, (ofCodec (serializeStreamPrefix form sessionID) :
      Except ManagerError (List UInt8)) = .ok bytes := by
  obtain ⟨bytes, hbytes⟩ := QUICVarInt.encode_ok h
  obtain ⟨marker, hmarker⟩ : ∃ marker, QUICVarInt.encode (streamMarker form) = .ok marker :=
    QUICVarInt.encode_ok (by cases form <;> decide)
  unfold serializeStreamPrefix
  rw [hbytes, hmarker]
  exact ⟨_, rfl⟩

/-- An open that returns is charged, and one that throws is not. -/
lemma openStream_charged (form : WebTransportStreamForm) (hm : m.Charged ledger)
    (hlands : (ManagerCall.openStream form streamID sessionID).Lands env m) :
    Ends (openStream env form streamID sessionID) m (fun _ m' => m.Uncharged m' ledger) fun _ m' =>
      m'.Charged (Function.update ledger sessionID (ledger sessionID + .ofStream form)) := by
  refine Ends.consult_bind (fun _ _ => ⟨hm, fun _ => rfl⟩) fun session hallow => ?_
  obtain ⟨hsession, -, -⟩ := admitOwnStream_ok hallow
  obtain rfl := hm.known.keyed _ _ hsession
  refine Ends.bind (reserve_ends.mono ?_ fun _ _ h => h) ?_
  · rintro _ _ ⟨capsule, rfl⟩
    exact ⟨refused_charged hm capsule, refused_sameCharges capsule⟩
  rintro _ _ ⟨credit, hcount, rfl⟩
  obtain ⟨hcharged, huncharged⟩ := counted_charged hm
    (WebTransportFlowControlState.registerStream_counts hcount) (hm.known.stream _ _ hsession).1
  -- Where credit counts, the rest of the call returns; where it does not, nothing was charged.
  cases henabled : (m.credit false session.id).isEnabled with
  | true =>
    obtain ⟨hlimit, hid⟩ := hlands session credit hallow henabled hcount
    obtain ⟨stream, hstream⟩ := @newStream_of_limit env (m.setCredit false session.id credit)
      session.id streamID form hlimit
    obtain ⟨bytes, hbytes⟩ := serializeStreamPrefix_of_le form hid
    refine Ends.consult_bind (fun e he => ?_) fun stream' _ => Ends.modify_bind ?_
    · rw [hstream] at he
      cases he
    · refine Ends.demand (fun e he => ?_) fun _ _ => (register_sameCredit stream').charged hcharged
      rw [hbytes] at he
      cases he
  | false =>
    have hno := huncharged (.inl henabled)
    refine Ends.consult_bind (fun _ _ => hno) fun stream' _ => Ends.modify_bind ?_
    exact Ends.demand (fun _ _ => ⟨(register_sameCredit stream').charged hno.charged, hno.same⟩)
      fun _ _ => (register_sameCredit stream').charged hcharged

/-- A payload that is sent is charged, and one that is not sent is not. -/
lemma sendStreamPayload_charged {payload : List UInt8} {fin : Bool} (hm : m.Charged ledger)
    (hlands : (ManagerCall.sendStreamPayload streamID payload fin).Lands env m) :
    Ends (sendStreamPayload env streamID payload fin) m (fun _ m' => m.Uncharged m' ledger)
      fun frame m' => ∃ stream, m.streamsByID.get? streamID = some stream ∧
        (∃ id offset, frame = .stream id offset fin payload) ∧
        m'.Charged (Function.update ledger stream.sessionID
          (ledger stream.sessionID + .ofBytes payload.length)) := by
  refine Ends.consult_bind (fun _ _ => ⟨hm, fun _ => rfl⟩) fun stream hsendable => ?_
  obtain ⟨found, hlive, hfound⟩ := bind_ok hsendable
  obtain ⟨session, hwritable, hfound⟩ := bind_ok hfound
  obtain rfl := Except.ok.inj hfound
  obtain ⟨hsession, -⟩ := writableSession_ok hwritable
  refine Ends.bind (reserve_ends.mono ?_ fun _ _ h => h) ?_
  · rintro _ _ ⟨capsule, rfl⟩
    exact ⟨refused_charged hm capsule, refused_sameCharges capsule⟩
  rintro _ _ ⟨credit, hcount, rfl⟩
  obtain ⟨hcharged, huncharged⟩ := counted_charged hm
    (WebTransportFlowControlState.recordData_counts (credit_limited hm _) hcount)
    (hm.known.stream _ _ hsession).1
  have hstream := liveStream_ok hlive
  refine Ends.demand_bind (fun e he => ?_) fun r hsend => ?_
  · -- The stream refuses only what has no credit to count or no bytes.
    refine huncharged ?_
    cases henabled : (m.credit false found.sessionID).isEnabled with
    | false => exact .inl rfl
    | true =>
      rcases hlands found credit hsendable henabled hcount with rfl | hcan
      · exact .inr rfl
      · obtain ⟨r, hr⟩ := WebTransportStreamState.sendPayload_of_canSend hcan fin
        rw [hr] at he
        cases he
  · obtain ⟨frame, stream'⟩ := r
    cases hsent : found.sendPayload payload fin with
    | error e =>
      rw [hsent] at hsend
      cases hsend
    | ok r =>
      rw [hsent] at hsend
      obtain rfl := Except.ok.inj hsend
      obtain ⟨rfl, -⟩ := WebTransportStreamState.sendPayload_ok hsent
      refine Ends.modify_bind (Ends.pure ⟨found, hstream, ⟨_, _, rfl⟩, ?_⟩)
      exact (setStream_sameCredit stream').charged hcharged

end WebTransportSessionManager

open WebTransportSessionManager

/-! ## The ledger -/

/-- The bytes of the payloads of frames. -/
def payloadBytes (frames : List QUICFrame) : ℕ :=
  (frames.map fun frame =>
    match frame with
    | .stream _ _ _ data => data.length
    | _ => 0).sum

/-- What a call charges, and to which session: the payload of the frame that it returned, or the
stream that it opened. -/
def ManagerCall.charge (env : ManagerEnv) (m : WebTransportSessionManager) (call : ManagerCall) :
    Option (ℕ × SessionCharge) :=
  match call, returned? (call.perform env) m with
  | .openStream form _ sessionID, some _ => some (sessionID, .ofStream form)
  | .sendStreamPayload streamID _ _, some frames =>
    (m.streamsByID.get? streamID).map fun stream =>
      (stream.sessionID, .ofBytes (payloadBytes frames))
  | _, _ => none

/-- The ledger after a call. -/
def ManagerCall.enter (env : ManagerEnv) (m : WebTransportSessionManager) (call : ManagerCall)
    (ledger : ℕ → SessionCharge) : ℕ → SessionCharge :=
  match call.charge env m with
  | none => ledger
  | some (sessionID, charge) => Function.update ledger sessionID (ledger sessionID + charge)

/-- The ledger after some calls. -/
def creditLedger (env : ManagerEnv) : List ManagerCall → WebTransportSessionManager →
    (ℕ → SessionCharge) → ℕ → SessionCharge
  | [], _, ledger => ledger
  | call :: rest, m, ledger =>
    creditLedger env rest (after (call.perform env) m) (call.enter env m ledger)

namespace WebTransportSessionManager

variable {env : ManagerEnv} {m : WebTransportSessionManager} {ledger : ℕ → SessionCharge}

lemma charge_of_not_spends {call : ManagerCall} (h : ¬call.Spends) : call.charge env m = none := by
  unfold ManagerCall.charge
  split
  · exact absurd trivial h
  · exact absurd trivial h
  · rfl

/-- A call that lands charges what it enters into the ledger, and nothing where it throws. -/
theorem call_charged {call : ManagerCall} (hlands : call.Lands env m) (hm : m.Charged ledger) :
    (after (call.perform env) m).Charged (call.enter env m ledger) ∧
      (call.Spends → returned? (call.perform env) m = none →
        m.SameCharges (after (call.perform env) m)) := by
  by_cases hspends : call.Spends
  · cases call with
    | openStream form streamID sessionID =>
      have hends : Ends ((ManagerCall.openStream form streamID sessionID).perform env) m
          (fun _ m' => m.Uncharged m' ledger) fun _ m' =>
            m'.Charged (Function.update ledger sessionID (ledger sessionID + .ofStream form)) :=
        Ends.bind (openStream_charged form hm hlands) fun _ _ h => Ends.pure h
      rcases hends.cases with ⟨hnone, huncharged⟩ | ⟨frames, hsome, hcharged⟩
      · unfold ManagerCall.enter ManagerCall.charge
        rw [hnone]
        exact ⟨huncharged.charged, fun _ _ => huncharged.same⟩
      · unfold ManagerCall.enter ManagerCall.charge
        rw [hsome]
        exact ⟨hcharged, nofun⟩
    | sendStreamPayload streamID payload fin =>
      have hends : Ends ((ManagerCall.sendStreamPayload streamID payload fin).perform env) m
          (fun _ m' => m.Uncharged m' ledger) fun frames m' => ∃ stream,
            m.streamsByID.get? streamID = some stream ∧ payloadBytes frames = payload.length ∧
            m'.Charged (Function.update ledger stream.sessionID
              (ledger stream.sessionID + .ofBytes payload.length)) := by
        refine Ends.bind (sendStreamPayload_charged hm hlands) fun frame m' h => Ends.pure ?_
        obtain ⟨stream, hstream, ⟨id, offset, rfl⟩, hcharged⟩ := h
        exact ⟨stream, hstream, rfl, hcharged⟩
      rcases hends.cases with ⟨hnone, huncharged⟩ | ⟨frames, hsome, stream, hstream, hbytes, hcharged⟩
      · unfold ManagerCall.enter ManagerCall.charge
        rw [hnone]
        exact ⟨huncharged.charged, fun _ _ => huncharged.same⟩
      · unfold ManagerCall.enter ManagerCall.charge
        rw [hsome]
        simp only
        rw [hstream, Option.map_some, hbytes]
        exact ⟨hcharged, nofun⟩
    | _ => exact False.elim hspends
  · unfold ManagerCall.enter
    rw [charge_of_not_spends hspends]
    exact ⟨keeps (I := fun m => m.Charged ledger)
      (fun _ _ hstep hm => step_charged (L := call.limits env m) hspends hstep hm)
      (call.perform_within env m).reached hm, fun h => absurd h hspends⟩

lemma start_charged (http3 : HTTP3ConnectionState) : (start http3).Charged fun _ => 0 where
  known := start_known http3
  credited _ _ h := by cases h
  fresh _ _ := rfl
  limited _ _ h := by cases h
  charged _ _ h := by cases h

/-- Calls that land charge what they enter. -/
theorem calls_charged {calls : List ManagerCall}
    (hcalls : AllAllowed (ManagerCall.perform env) (fun m call => call.Lands env m) calls m)
    (hm : m.Charged ledger) :
    (performAll (ManagerCall.perform env) calls m).Charged (creditLedger env calls m ledger) := by
  induction calls generalizing m ledger with
  | nil => exact hm
  | cons call rest ih => exact ih hcalls.2 (call_charged hcalls.1 hm).1

end WebTransportSessionManager

/-! ## Runs -/

/-- After calls that may be made, the credit of a session counts the payloads that were sent and the
streams that were opened, and a call that throws leaves what every session counts. -/
def CreditIsCharged (env : ManagerEnv) (http3 : HTTP3ConnectionState)
    (allowed : WebTransportSessionManager → ManagerCall → Prop) : Prop :=
  ∀ calls, AllAllowed (ManagerCall.perform env) allowed calls (start http3) →
    (∀ id session credit,
      (performAll (ManagerCall.perform env) calls (start http3)).sessionsByID.get? id =
        some session → session.state.IsLive →
      (performAll (ManagerCall.perform env) calls
        (start http3)).flowControlStateBySessionID.get? id = some credit → credit.isEnabled →
      credit.charge = creditLedger env calls (start http3) (fun _ => 0) id) ∧
    ∀ call, call.Spends →
      allowed (performAll (ManagerCall.perform env) calls (start http3)) call →
      returned? (call.perform env) (performAll (ManagerCall.perform env) calls (start http3)) =
        none →
      (performAll (ManagerCall.perform env) calls (start http3)).SameCharges
        (after (call.perform env) (performAll (ManagerCall.perform env) calls (start http3)))

/-- Credit is charged for what was sent and opened, and nothing else, where every call that has
credit lands. -/
theorem credit_isCharged (env : ManagerEnv) (http3 : HTTP3ConnectionState) :
    CreditIsCharged env http3 fun m call => call.Lands env m := by
  intro calls hcalls
  have hm := calls_charged hcalls (start_charged http3)
  exact ⟨fun id _ credit _ _ hcredit henabled => hm.charged id credit hcredit henabled,
    fun call hspends hlands hnone => (call_charged hlands hm).2 hspends hnone⟩

/-- Settings with credit for 50 bytes and four streams. -/
def creditSettings : HTTP3Settings :=
  (draftSettings.insert HTTP3SettingID.wtInitialMaxData 50).insert
    HTTP3SettingID.wtInitialMaxStreamsBidi 4

/-- The control stream of a peer with these settings. -/
def creditControlStream : List UInt8 :=
  [0x00, 0x04, 0x0f, 0x08, 0x01, 0x33, 0x01, 0xac, 0x7c, 0xf0, 0x00, 0x01, 0x6b, 0x61, 0x32, 0x6b,
    0x65, 0x04]

/-- A client finishes a stream with three bytes. -/
def finishingCalls : List ManagerCall :=
  [.receivePeerControlStream creditControlStream, .makeClientSessionRequest 0 connectRequest false,
    .receiveServerSessionResponse 0 (connectResponse true), .openStream .bidirectional 4 0,
    .sendStreamPayload 4 [1, 2, 3] true]

/-- A payload for a stream that is finished is refused, and its bytes are charged. -/
theorem credit_notCharged : ¬∀ (env : ManagerEnv) (http3 : HTTP3ConnectionState),
    CreditIsCharged env http3 fun _ _ => True := by
  intro hall
  obtain ⟨-, hthrows⟩ := hall connectEnv { role := .client, localSettings := creditSettings }
    finishingCalls ⟨trivial, trivial, trivial, trivial, trivial, trivial⟩
  have hsame := hthrows (.sendStreamPayload 4 [4, 5] false) trivial trivial (by decide +kernel) 0
  revert hsame
  decide +kernel

end WebTransport
