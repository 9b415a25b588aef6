import WebTransport.Swift.ManagerCalls

/-!
# What a call can do to the session manager

The changes that the operations of the session manager are made of, each with what is known where
it is made. A call makes such changes only, whether it returns or throws; what holds in every
reachable manager is derived from them. A change that only some calls make is allowed by a limit.
-/

namespace WebTransport

open Throwing WebTransportSessionManager

/-! ## Changes -/

/-- Which changes are allowed: to note a GOAWAY that is sent, to hear of the peer on the control
stream, to count against the credit of what is sent, to settle a session that was answered, and to
answer a session of one state with another. -/
structure StepLimits where
  announces : Prop
  hears : Prop
  spends : Prop
  settles : Prop
  answers : WebTransportSessionState → WebTransportSessionState → Prop

/-- A connection that differs in having more request streams. -/
structure HTTP3ConnectionState.MoreStreams (c c' : HTTP3ConnectionState) : Prop where
  same : c' = { c with requestStreams := c'.requestStreams }
  more : ∀ streamID, (c.requestStreams.get? streamID).isSome →
    (c'.requestStreams.get? streamID).isSome

lemma HTTP3ConnectionState.MoreStreams.role_eq {c c' : HTTP3ConnectionState}
    (h : c.MoreStreams c') : c'.role = c.role := by
  rw [h.same]

/-- A stream as it was made for its session by an endpoint. -/
def WebTransportStreamState.MadeBy (s : WebTransportStreamState) (role : HTTP3ConnectionRole) :
    Prop :=
  s.quicStream.identity =
    (s.streamID, role, QUICStreamID.direction s.streamID, QUICStreamID.initiator s.streamID)

namespace WebTransportSessionManager

/-- No stream has the ID. -/
def IsFree (m : WebTransportSessionManager) (streamID : ℕ) : Prop :=
  m.streamsByID.get? streamID = none ∧ m.bufferedStreamsByID.get? streamID = none

/-- The session is requested, or a server does not know it yet. -/
def IsPending (m : WebTransportSessionManager) (sessionID : ℕ) : Prop :=
  match m.sessionsByID.get? sessionID with
  | none => m.http3.role = .server
  | some session => session.state = .requested

end WebTransportSessionManager

/-- A change of the manager. -/
inductive ManagerStep (env : ManagerEnv) (L : StepLimits) (m : WebTransportSessionManager) :
    WebTransportSessionManager → Prop
  | goawaySent (hannounces : L.announces) (streamID : ℕ) :
    ManagerStep env L m { m with http3 := m.http3.noteGoaway streamID }
  | controlReceived (hhears : L.hears) {bytes : List UInt8} {frames : List HTTP3Frame}
    {http3 : HTTP3ConnectionState}
    (hreceive : m.http3.receivePeerControlStream bytes env.settingsValidation =
      .ok (frames, http3)) :
    ManagerStep env L m { m with http3 := http3 }
  | goawayReceived (hhears : L.hears) {frame : HTTP3Frame} {http3 : HTTP3ConnectionState}
    (hreceive : m.http3.receiveControlFrame frame = .ok http3) :
    ManagerStep env L m { m with http3 := http3 }
  | drainedAll : ManagerStep env L m m.drainSessions
  | requestStreams {http3 : HTTP3ConnectionState} (hmore : m.http3.MoreStreams http3) :
    ManagerStep env L m { m with http3 := http3 }
  | begun {http3 : HTTP3ConnectionState} {session : WebTransportSession}
    (hmore : m.http3.MoreStreams http3)
    (hfresh : m.http3.requestStreams.get? session.id = none)
    (hstream : (http3.requestStreams.get? session.id).isSome)
    (hrequest : session.requestStreamID = session.id)
    (hid : fromRequestStreamID session.id = .ok session.id)
    (hnew : m.sessionsByID.get? session.id = none)
    (hstate : session.state = .requested ∧ m.http3.role = .client ∨
      L.settles ∧ m.http3.role = .server ∧
        (session.state = .accepted ∨ ∃ status, session.state = .rejected status)) :
    ManagerStep env L m ({ m with http3 := http3 }.store session)
  | answered {sessionID : ℕ} {old : WebTransportSession}
    (hold : m.sessionsByID.get? sessionID = some old) (selected : Option String)
    (state : WebTransportSessionState) (hsettles : L.settles) (hanswers : L.answers old.state state)
    (hstate : state = .accepted ∨ ∃ status, state = .rejected status)
    (hrole : m.http3.role = .client) :
    ManagerStep env L m (m.store { old with selectedProtocol := selected, state := state })
  | promoted {sessionID streamID : ℕ} {session : WebTransportSession}
    {stream : WebTransportStreamState} (hsettles : L.settles)
    (hsession : m.sessionsByID.get? sessionID = some session) (hstate : session.state = .accepted)
    (hstream : m.bufferedStreamsByID.get? streamID = some stream) :
    ManagerStep env L m { m.register stream with
      bufferedStreamsByID := m.bufferedStreamsByID.erase streamID }
  | promotionDone (hsettles : L.settles) (sessionID : ℕ) :
    ManagerStep env L m { m with
      bufferedStreamIDsBySessionID := m.bufferedStreamIDsBySessionID.insert sessionID ∅ }
  | discarded (hsettles : L.settles) {sessionID : ℕ} {session : WebTransportSession}
    (hsession : m.sessionsByID.get? sessionID = some session)
    (hrejected : ∃ status, session.state = .rejected status) :
    ManagerStep env L m ((m.discardBufferedIngress env sessionID).recordClosedSession env sessionID)
  | drained {sessionID : ℕ} {session : WebTransportSession}
    (hsession : m.sessionsByID.get? sessionID = some session) (hstate : session.state = .accepted) :
    ManagerStep env L m (m.setSession sessionID { session with state := .draining })
  | closed {sessionID : ℕ} {session : WebTransportSession}
    (hsession : m.sessionsByID.get? sessionID = some session) (hlive : session.state.IsLive)
    (applicationErrorCode : ℕ) (message : List UInt8) (closeCapsuleReceived : Bool) :
    ManagerStep env L m (m.closeSession env session sessionID applicationErrorCode message
      closeCapsuleReceived).2
  | received (sessionID : ℕ) (state : WebTransportFlowControlState) :
    ManagerStep env L m (m.setCredit true sessionID state)
  | spent (hspends : L.spends) (sessionID : ℕ) (state : WebTransportFlowControlState) :
    ManagerStep env L m (m.setCredit false sessionID state)
  | refused (sessionID : ℕ) (capsule : Option WebTransportFlowCapsule) :
    ManagerStep env L m ((m.enqueueBlockedFlowCapsule capsule sessionID).setCredit false sessionID
      (m.credit false sessionID))
  | raised {sessionID : ℕ} {capsule : WebTransportFlowCapsule}
    {state : WebTransportFlowControlState}
    (hraise : (m.credit false sessionID).apply capsule = .ok state) :
    ManagerStep env L m (m.setCredit false sessionID state)
  | registered {sessionID : ℕ} {stream : WebTransportStreamState} {session : WebTransportSession}
    (hfree : m.IsFree stream.streamID)
    (hsession : m.sessionsByID.get? sessionID = some session)
    (hid : stream.sessionID = sessionID ∨ stream.sessionID = session.id)
    (hwritable : session.state.IsWritable) (hmade : stream.MadeBy m.http3.role) :
    ManagerStep env L m (m.register stream)
  | held {stream : WebTransportStreamState} (hfree : m.IsFree stream.streamID)
    (hpending : m.IsPending stream.sessionID) (hmade : stream.MadeBy m.http3.role) :
    ManagerStep env L m (m.hold stream)
  | streamSet {streamID : ℕ} {old stream : WebTransportStreamState}
    (hold : m.streamsByID.get? streamID = some old) (hsame : stream.identity = old.identity) :
    ManagerStep env L m (m.setStream streamID stream)
  | datagramPushed (sessionID : ℕ) (payload : List UInt8) :
    ManagerStep env L m (m.pushDatagram sessionID payload)
  | datagramPopped {sessionID : ℕ} {payload : List UInt8} {queue : List (List UInt8)}
    (hqueue : m.datagrams sessionID = payload :: queue) :
    ManagerStep env L m (m.dropDatagram sessionID payload queue)
  | capsulesSet (sessionID : ℕ) (queue : List WebTransportFlowCapsule) :
    ManagerStep env L m { m with
      blockedFlowCapsulesBySessionID := m.blockedFlowCapsulesBySessionID.insert sessionID queue }

/-! ## Frames -/

/-- A frame that the manager yields as it is. -/
inductive WebTransportSessionManager.Yields (env : ManagerEnv) (m : WebTransportSessionManager) :
    QUICFrame → Prop
  | ended {sessionID : ℕ} {session : WebTransportSession} {applicationErrorCode : ℕ}
    {message : List UInt8} {closeCapsuleReceived : Bool} {frame : QUICFrame}
    (hsession : m.sessionsByID.get? sessionID = some session)
    (hframe : frame ∈ (m.closeSession env session sessionID applicationErrorCode message
      closeCapsuleReceived).1.frames) : Yields env m frame
  | connectReset {streamID sessionID : ℕ}
    (hstream : m.sessionIDsByRequestStreamID.get? streamID = some sessionID) :
    Yields env m (connectMessageErrorReset streamID)
  | reset {streamID : ℕ} {stream : WebTransportStreamState}
    (hstream : m.streamsByID.get? streamID = some stream) (howned : stream.hasSendHalf)
    (code : ℕ) : Yields env m (stream.reset code).1
  | stopped {streamID : ℕ} {stream : WebTransportStreamState}
    (hstream : m.streamsByID.get? streamID = some stream) (howned : stream.hasReceiveHalf)
    (code : ℕ) : Yields env m (stream.stopSending code).1
  | carried (streamID : ℕ) (offset : Option ℕ) (fin : Bool) (data : List UInt8) :
    Yields env m (.stream streamID offset fin data)
  | datagram (payload : List UInt8) : Yields env m (.datagram payload)

/-- The frames that the manager yields after some changes. -/
def WebTransportSessionManager.YieldedFrom (env : ManagerEnv) (L : StepLimits)
    (m : WebTransportSessionManager) (frames : List QUICFrame) : Prop :=
  ∀ frame ∈ frames, ∃ m', Relation.ReflTransGen (ManagerStep env L) m m' ∧ m'.Yields env frame

namespace WebTransportSessionManager.YieldedFrom

variable {env : ManagerEnv} {L : StepLimits} {m m' : WebTransportSessionManager}
  {frames frames' : List QUICFrame}

lemma nil : m.YieldedFrom env L [] := fun _ h => absurd h List.not_mem_nil

lemma singleton {frame : QUICFrame} (h : m.Yields env frame) : m.YieldedFrom env L [frame] := by
  intro frame' hframe
  obtain rfl := List.mem_singleton.mp hframe
  exact ⟨m, .refl, h⟩

lemma append (h : m.YieldedFrom env L frames) (h' : m.YieldedFrom env L frames') :
    m.YieldedFrom env L (frames ++ frames') := fun frame hframe =>
  (List.mem_append.mp hframe).elim (h frame) (h' frame)

lemma of_reached (hreach : Relation.ReflTransGen (ManagerStep env L) m m')
    (h : m'.YieldedFrom env L frames) : m.YieldedFrom env L frames := by
  intro frame hframe
  obtain ⟨m₁, hmore, hyields⟩ := h frame hframe
  exact ⟨m₁, hreach.trans hmore, hyields⟩

end WebTransportSessionManager.YieldedFrom

/-! ## What the checks say -/

section Checks

variable {m : WebTransportSessionManager} {sessionID streamID : ℕ} {session : WebTransportSession}

lemma sessionForIngress_ok (h : m.sessionForIngress sessionID = .ok session) :
    m.sessionsByID.get? sessionID = some session ∧ session.state.IsLive := by
  unfold sessionForIngress at h
  cases hget : m.sessionsByID.get? sessionID with
  | none =>
    rw [hget] at h
    cases h
  | some found =>
    rw [hget] at h
    simp only at h
    split at h <;> cases h
    all_goals
      rename_i hstate
      exact ⟨rfl, by rw [hstate]; trivial⟩

lemma writableSession_ok (h : m.writableSession sessionID = .ok session) :
    m.sessionsByID.get? sessionID = some session ∧ session.state.IsWritable := by
  unfold writableSession at h
  cases hget : m.sessionsByID.get? sessionID with
  | none =>
    rw [hget] at h
    cases h
  | some found =>
    rw [hget] at h
    simp only at h
    split at h <;> cases h
    all_goals
      rename_i hstate
      exact ⟨rfl, by rw [hstate]; trivial⟩

/-- A session that takes streams is known, and one that has them wait is requested or unknown. -/
lemma sessionForIngressOrPending_ok {found : Option WebTransportSession}
    (h : m.sessionForIngressOrPending sessionID = .ok found) :
    if acceptsStreams found then
      ∃ session, m.sessionsByID.get? sessionID = some session ∧ session.state.IsWritable
    else m.IsPending sessionID := by
  unfold sessionForIngressOrPending at h
  cases hget : m.sessionsByID.get? sessionID with
  | none =>
    rw [hget] at h
    simp only at h
    split_ifs at h with hrole
    obtain rfl := Except.ok.inj h
    rw [if_neg (by decide), IsPending, hget]
    exact hrole
  | some stored =>
    rw [hget] at h
    cases hingress : m.sessionForIngress sessionID with
    | error e =>
      rw [hingress] at h
      cases h
    | ok session =>
      rw [hingress] at h
      obtain rfl := Except.ok.inj h
      obtain ⟨hsession, hlive⟩ := sessionForIngress_ok hingress
      obtain rfl : stored = session := Option.some.inj (hget.symm.trans hsession)
      split_ifs with haccepts
      · exact ⟨stored, rfl, by simpa [acceptsStreams] using haccepts⟩
      · have hwritable : ¬stored.state.IsWritable := by simpa [acceptsStreams] using haccepts
        rw [IsPending, hget]
        show stored.state = .requested
        cases hstate : stored.state with
        | requested => rfl
        | accepted => exact absurd (by rw [hstate]; trivial) hwritable
        | draining => exact absurd (by rw [hstate]; trivial) hwritable
        | closed code message =>
          rw [hstate] at hlive
          exact hlive.elim
        | rejected status =>
          rw [hstate] at hlive
          exact hlive.elim

lemma validateStreamIdentity_ok {direction : WebTransportStreamForm}
    {initiator : HTTP3ConnectionRole}
    (h : m.validateStreamIdentity streamID direction initiator = .ok ()) :
    m.IsFree streamID ∧ QUICStreamID.direction streamID = direction ∧
      QUICStreamID.initiator streamID = initiator := by
  unfold validateStreamIdentity at h
  split_ifs at h with hlive hbuffered hclosed hdirection hinitiator
  exact ⟨⟨by simpa using hlive, by simpa using hbuffered⟩, not_not.mp hdirection,
    not_not.mp hinitiator⟩

lemma newStream_ok {env : ManagerEnv} {form : WebTransportStreamForm}
    {stream : WebTransportStreamState} (h : m.newStream env form streamID sessionID = .ok stream) :
    stream.streamID = streamID ∧ stream.sessionID = sessionID ∧ stream.form = form ∧
      stream.MadeBy m.http3.role := by
  unfold newStream WebTransportStreamState.init at h
  split_ifs at h
  · cases h
  · obtain rfl := Except.ok.inj h
    exact ⟨rfl, rfl, rfl, rfl⟩

lemma fromRequestStreamID_ok {id : ℕ} (h : fromRequestStreamID streamID = .ok id) :
    id = streamID := by
  unfold fromRequestStreamID at h
  split_ifs at h
  exact (Except.ok.inj h).symm

end Checks

/-! ## What the parts of the operations do -/

section Parts

variable {env : ManagerEnv} {L : StepLimits} {m : WebTransportSessionManager}
  {sessionID streamID : ℕ}

/-- The frames of a session that ends are those of the manager where it ends. -/
lemma markSessionClosed_within (applicationErrorCode : ℕ) (message : List UInt8)
    (closeCapsuleReceived : Bool) :
    Within (ManagerStep env L)
      (markSessionClosed env sessionID applicationErrorCode message closeCapsuleReceived) m
      fun actions _ => m.YieldedFrom env L actions.frames := by
  refine .consult_bind fun session hingress => ?_
  obtain ⟨hsession, hlive⟩ := sessionForIngress_ok hingress
  exact ⟨.single (.closed hsession hlive _ _ _), fun _ hframe =>
    ⟨m, .refl, .ended hsession hframe⟩⟩

lemma markSessionDraining_within :
    Within (ManagerStep env L) (markSessionDraining sessionID) m fun _ _ => True := by
  refine .consult_bind fun session hingress => ?_
  obtain ⟨hsession, -⟩ := sessionForIngress_ok hingress
  split_ifs with hrequested haccepted
  · exact .throw
  · exact .modify (.drained hsession haccepted) trivial
  · exact .pure trivial

lemma closeForFlowControlViolation_within :
    Within (ManagerStep env L) (closeForFlowControlViolation env sessionID) m fun _ _ => True :=
  (markSessionClosed_within _ _ _).bind fun _ _ _ => .pure trivial

lemma closingOnFlowControl_within {α : Type} {x : ManagerM α}
    {P : α → WebTransportSessionManager → Prop} (hx : Within (ManagerStep env L) x m P) :
    Within (ManagerStep env L) (closingOnFlowControl env sessionID x) m P := by
  refine hx.tryCatch fun e m' _ => ?_
  split_ifs
  · exact closeForFlowControlViolation_within.bind fun _ _ _ => .throw
  · exact .throw

lemma reserve_within {count : WebTransportFlowControlState →
      Except ManagerError WebTransportFlowControlState}
    {blocked : WebTransportFlowControlState → Option WebTransportFlowCapsule}
    {receiveSide : Bool} (hspends : receiveSide = false → L.spends) :
    Within (ManagerStep env L) (reserve env count blocked sessionID receiveSide) m fun _ m' =>
      ∃ state, m' = m.setCredit receiveSide sessionID state := by
  refine .get_bind ?_
  simp only
  split
  · rename_i state _
    refine .modify ?_ ⟨state, rfl⟩
    cases receiveSide with
    | false => exact .spent (hspends rfl) _ _
    | true => exact .received _ _
  · refine .bind (P := fun _ _ => True) ?_ fun _ _ _ => .throw
    unfold outOfCredit
    cases receiveSide with
    | false => exact .modify (.refused _ _) trivial
    | true => exact closeForFlowControlViolation_within

/-- What is received is counted, or its session is closed. -/
lemma reserveStream_within (form : WebTransportStreamForm) :
    Within (ManagerStep env L) (reserveStream env sessionID form true) m fun _ m' =>
      ∃ state, m' = m.setCredit true sessionID state :=
  reserve_within (by rintro ⟨⟩)

@[inherit_doc reserveStream_within]
lemma reserveData_within (byteCount : ℕ) :
    Within (ManagerStep env L) (reserveData env sessionID byteCount true) m fun _ m' =>
      ∃ state, m' = m.setCredit true sessionID state :=
  reserve_within (by rintro ⟨⟩)

lemma promoteStreams_within (hsettles : L.settles) (streamIDs : List ℕ)
    {session : WebTransportSession} (hsession : m.sessionsByID.get? sessionID = some session)
    (hstate : session.state = .accepted) :
    Within (ManagerStep env L) (promoteStreams env sessionID streamIDs) m fun _ _ => True := by
  induction streamIDs generalizing m with
  | nil => exact .pure trivial
  | cons streamID rest ih =>
    refine .get_bind ?_
    split
    · exact ih hsession
    · rename_i stream hstream
      refine (reserveStream_within _).bind ?_
      rintro _ _ ⟨state, rfl⟩
      refine (reserveData_within _).bind ?_
      rintro _ _ ⟨state', rfl⟩
      exact .modify_bind (.promoted hsettles hsession hstate hstream) (ih hsession)

lemma promoteBufferedStreams_within (hsettles : L.settles) {session : WebTransportSession}
    (hsession : m.sessionsByID.get? sessionID = some session) (hstate : session.state = .accepted) :
    Within (ManagerStep env L) (promoteBufferedStreams env sessionID) m fun _ _ => True := by
  refine .get_bind ?_
  split
  · exact .pure trivial
  · exact (promoteStreams_within hsettles _ hsession hstate).bind fun _ _ _ =>
      .modify (.promotionDone hsettles _) trivial

/-- What follows the storing of a session that was answered. -/
lemma settled_within (hsettles : L.settles) {session : WebTransportSession}
    (hsession : m.sessionsByID.get? session.id = some session)
    (hstate : session.state = .accepted ∨ ∃ status, session.state = .rejected status) :
    Within (ManagerStep env L)
      (if session.state = .accepted then promoteBufferedStreams env session.id
        else modify fun m =>
          (m.discardBufferedIngress env session.id).recordClosedSession env session.id) m
      fun _ _ => True := by
  split_ifs with haccepted
  · exact promoteBufferedStreams_within hsettles hsession haccepted
  · exact .modify (.discarded hsettles hsession (hstate.resolve_left haccepted)) trivial

lemma buffer_within {stream : WebTransportStreamState} (hfree : m.IsFree stream.streamID)
    (hpending : m.IsPending stream.sessionID) (hmade : stream.MadeBy m.http3.role) :
    Within (ManagerStep env L) (buffer env stream) m fun _ _ => True :=
  .consult_bind fun _ _ => .modify (.held hfree hpending hmade) trivial

end Parts

end WebTransport
