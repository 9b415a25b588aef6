import WebTransport.Swift.ManagerSteps

/-!
# The steps of every call

Every call of the embedder makes changes of the manager only, and only those that the limits of the
call allow: credit is spent by opening and sending, a session is settled by a request or a response,
and only a response answers a session that there was before.
-/

namespace WebTransport

open Throwing WebTransportSessionManager

namespace WebTransportSessionManager

variable {env : ManagerEnv} {L : StepLimits} {m : WebTransportSessionManager}
  {sessionID streamID : ℕ}

/-! ## Requests and responses -/

lemma makeGoawayFrame_within (hannounces : L.announces) :
    Within (ManagerStep env L) (makeGoawayFrame streamID) m fun _ _ => True :=
  .modify_bind (.goawaySent hannounces streamID) (.demand fun _ _ => trivial)

lemma moreStreams_insert (c : HTTP3ConnectionState) (stream : HTTP3RequestStream) :
    c.MoreStreams (c.storeRequestStream stream) := by
  refine ⟨rfl, fun id hid => ?_⟩
  show ((c.requestStreams.insert stream.streamID stream).get? id).isSome
  rw [Dictionary.get?_insert]
  split_ifs
  · rfl
  · exact hid

lemma MoreStreams.trans {c c' c'' : HTTP3ConnectionState}
    (h : c.MoreStreams c') (h' : c'.MoreStreams c'') : c.MoreStreams c'' := by
  refine ⟨?_, fun id hid => h'.more id (h.more id hid)⟩
  rw [h'.same, h.same]

lemma newRequestStream_ok {c c' : HTTP3ConnectionState} {role : HTTP3ConnectionRole}
    {refusal : String} {stream : HTTP3RequestStream}
    (h : c.newRequestStream role refusal streamID = .ok (stream, c')) :
    c' = c.storeRequestStream stream ∧ stream.streamID = streamID ∧
      c.requestStreams.get? streamID = none := by
  unfold HTTP3ConnectionState.newRequestStream at h
  split_ifs at h with hrole hid hsome
  obtain ⟨rfl, rfl⟩ := Prod.mk.inj (Except.ok.inj h)
  exact ⟨rfl, rfl, by simpa using hsome⟩

lemma makeRequestHeadersFrame_ok {sections : FieldSections} {s s' : HTTP3RequestStream}
    {fields : List HTTPFieldLine} {tokens : List String} {frame : HTTP3Frame}
    (h : s.makeRequestHeadersFrame sections fields tokens = .ok (frame, s')) :
    s'.streamID = s.streamID := by
  unfold HTTP3RequestStream.makeRequestHeadersFrame at h
  split_ifs at h
  obtain ⟨_, -, h⟩ := bind_ok h
  obtain ⟨_, -, h⟩ := bind_ok h
  obtain ⟨-, rfl⟩ := Prod.mk.inj (Except.ok.inj h)
  rfl

lemma receiveHeaders_ok {sections : FieldSections} {s s' : HTTP3RequestStream}
    {fields : List HTTPFieldLine} {tokens : List String}
    (h : s.receiveHeaders sections fields tokens = .ok s') : s'.streamID = s.streamID := by
  unfold HTTP3RequestStream.receiveHeaders at h
  split at h
  · split_ifs at h
    obtain ⟨_, -, h⟩ := bind_ok h
    obtain rfl := Except.ok.inj h
    rfl
  · split_ifs at h
    obtain ⟨_, -, h⟩ := bind_ok h
    obtain rfl := Except.ok.inj h
    rfl

lemma receive_ok {sections : FieldSections} {s s' : HTTP3RequestStream} {frame : HTTP3Frame}
    {tokens : List String} (h : s.receive sections frame tokens = .ok s') :
    s'.streamID = s.streamID := by
  unfold HTTP3RequestStream.receive at h
  split_ifs at h
  · obtain ⟨_, -, h⟩ := bind_ok h
    exact receiveHeaders_ok h
  · obtain rfl := Except.ok.inj h
    rfl

lemma validateNewSession_ok (h : m.validateNewSession streamID = .ok sessionID) :
    sessionID = streamID ∧ fromRequestStreamID streamID = .ok streamID ∧
      m.validateRequestAllowedByGoaway streamID = .ok () ∧
      m.sessionsByID.get? sessionID = none := by
  unfold validateNewSession at h
  obtain ⟨_, hgoaway, hrest⟩ := bind_ok h
  obtain ⟨id, hid, hknown⟩ := bind_ok hrest
  obtain rfl := fromRequestStreamID_ok hid
  split_ifs at hknown with hsome
  obtain ⟨_, -, hlast⟩ := bind_ok hknown
  obtain rfl := Except.ok.inj hlast
  exact ⟨rfl, hid, hgoaway, by simpa using hsome⟩

lemma validateOwnSessionRequest_ok {isZeroRTT : Bool}
    (h : m.validateOwnSessionRequest env streamID isZeroRTT = .ok sessionID) :
    m.http3.role = .client ∧ sessionID = streamID ∧ fromRequestStreamID streamID = .ok streamID ∧
      m.validateRequestAllowedByGoaway streamID = .ok () ∧
      m.sessionsByID.get? sessionID = none := by
  unfold validateOwnSessionRequest at h
  by_cases hrole : m.http3.role = .client
  · rw [if_neg (not_not.mpr hrole)] at h
    obtain ⟨_, -, hready⟩ := bind_ok h
    cases isZeroRTT with
    | true => cases hready
    | false => exact ⟨hrole, validateNewSession_ok hready⟩
  · rw [if_pos hrole] at h
    cases h

/-- A new request stream is stored, and there was none of its number. -/
lemma newRequestStream_ends {role : HTTP3ConnectionRole} {refusal : String} :
    Ends (newRequestStream (·.newRequestStream role refusal) streamID) m (fun _ m' => m' = m)
      fun stream m' => m' = { m with http3 := m.http3.storeRequestStream stream } ∧
        stream.streamID = streamID ∧ m.http3.requestStreams.get? streamID = none := by
  refine .bind (P := fun r m' => m.http3.newRequestStream role refusal streamID = .ok r ∧ m' = m)
    (.consult (fun _ _ => rfl) fun r hr => ⟨hr, rfl⟩) ?_
  rintro ⟨stream, http3⟩ _ ⟨hr, rfl⟩
  obtain ⟨rfl, hid, hfresh⟩ := newRequestStream_ok hr
  exact ⟨rfl, hid, hfresh⟩

/-- The step that a new session makes, after its request stream was stored. -/
lemma begun_step {stream stream' : HTTP3RequestStream} {session : WebTransportSession}
    (hstream : stream'.streamID = session.id)
    (hfresh : m.http3.requestStreams.get? session.id = none)
    (hrequest : session.requestStreamID = session.id)
    (hid : fromRequestStreamID session.id = .ok session.id)
    (hnew : m.sessionsByID.get? session.id = none)
    (hstate : session.state = .requested ∧ m.http3.role = .client ∨
      L.settles ∧ m.http3.role = .server ∧
        (session.state = .accepted ∨ ∃ status, session.state = .rejected status)) :
    ManagerStep env L m
      ({ m with http3 := (m.http3.storeRequestStream stream).storeRequestStream stream' }.store
        session) := by
  refine .begun (MoreStreams.trans (moreStreams_insert _ stream) (moreStreams_insert _ stream'))
    hfresh ?_ hrequest hid hnew hstate
  show (((m.http3.requestStreams.insert stream.streamID stream).insert stream'.streamID
    stream').get? session.id).isSome
  rw [hstream, Dictionary.get?_insert_self]
  rfl

lemma requestStreams_step {stream : HTTP3RequestStream} :
    ManagerStep env L m { m with http3 := m.http3.storeRequestStream stream } :=
  .requestStreams (moreStreams_insert _ _)

lemma makeClientSessionRequest_within (request : WebTransportSessionRequest) (isZeroRTT : Bool) :
    Within (ManagerStep env L) (makeClientSessionRequest env streamID request isZeroRTT) m
      fun _ _ => m.validateRequestAllowedByGoaway streamID = .ok () := by
  refine .consult_bind fun id hvalid => ?_
  obtain ⟨hrole, rfl, hid, hgoaway, hnew⟩ := validateOwnSessionRequest_ok hvalid
  -- Up to the end only request streams are added; the last step begins the session.
  refine Ends.bind (newRequestStream_ends.mono ?_ fun _ _ h => h) ?_
  · rintro _ _ rfl
    exact .refl
  rintro stream _ ⟨rfl, hstream, hfresh⟩
  have hadded : Relation.ReflTransGen (ManagerStep env L) m
      { m with http3 := m.http3.storeRequestStream stream } := .single requestStreams_step
  refine Ends.demand_bind (fun _ _ => hadded) fun fields _ => ?_
  refine Ends.demand_bind (fun _ _ => hadded) fun r hframe => ?_
  obtain ⟨frame, stream'⟩ := r
  have hstream' : stream'.streamID = id := (makeRequestHeadersFrame_ok hframe).trans hstream
  exact ⟨.single (begun_step hstream' hfresh rfl hid hnew (.inl ⟨rfl, hrole⟩)), hgoaway⟩

/-- A session is stored by a step, and what waits for it is settled. -/
lemma settle_ends {m₀ : WebTransportSessionManager} {session : WebTransportSession}
    (hsettles : L.settles) (hstep : ManagerStep env L m₀ (m.store session))
    (hstate : session.state = .accepted ∨ ∃ status, session.state = .rejected status) :
    Ends (settle env session) m (fun _ => Relation.ReflTransGen (ManagerStep env L) m₀)
      fun _ => Relation.ReflTransGen (ManagerStep env L) m₀ := by
  refine Ends.bind (P := fun _ m' => m' = m.store session) (Ends.modify rfl) ?_
  rintro _ _ rfl
  have hstored : (m.store session).sessionsByID.get? session.id = some session :=
    Dictionary.get?_insert_self
  exact Ends.mono (settled_within hsettles hstored hstate) (fun _ _ h => .head hstep h)
    fun _ _ h => .head hstep h.1

lemma answeredSession_ok {frame : HTTP3Frame} {session : WebTransportSession}
    {stream : HTTP3RequestStream}
    (h : m.answeredSession env streamID frame = .ok (session, stream)) :
    m.http3.role = .client ∧ ∃ old, m.sessionsByID.get? streamID = some old ∧
      session = { old with
        selectedProtocol := session.selectedProtocol
        state := session.state } ∧
      (session.state = .accepted ∨ ∃ status, session.state = .rejected status) := by
  unfold answeredSession at h
  by_cases hrole : m.http3.role = .client
  · rw [if_neg (not_not.mpr hrole)] at h
    obtain ⟨_, -, h⟩ := bind_ok h
    obtain ⟨id, hid, h⟩ := bind_ok h
    obtain rfl := fromRequestStreamID_ok hid
    cases hold : m.sessionsByID.get? id with
    | none =>
      rw [hold] at h
      cases h
    | some old =>
      rw [hold] at h
      refine ⟨hrole, old, rfl, ?_⟩
      obtain ⟨fields, -, h⟩ := bind_ok h
      obtain ⟨status, -, h⟩ := bind_ok h
      split_ifs at h with hsuccess
      · obtain ⟨_, -, h⟩ := bind_ok h
        obtain ⟨selected, -, h⟩ := bind_ok h
        obtain ⟨_, -, h⟩ := bind_ok h
        obtain ⟨rfl, -⟩ := Prod.mk.inj (Except.ok.inj h)
        exact ⟨rfl, .inl rfl⟩
      · obtain ⟨rfl, -⟩ := Prod.mk.inj (Except.ok.inj h)
        exact ⟨rfl, .inr ⟨status, rfl⟩⟩
  · rw [if_pos hrole] at h
    cases h

lemma receiveServerSessionResponse_within (frame : HTTP3Frame) (hsettles : L.settles)
    (hanswers : ∀ old session stream, m.sessionsByID.get? streamID = some old →
      m.answeredSession env streamID frame = .ok (session, stream) →
      L.answers old.state session.state) :
    Within (ManagerStep env L) (receiveServerSessionResponse env streamID frame) m
      fun _ _ => True := by
  refine .consult_bind fun r hanswered => ?_
  obtain ⟨session, stream⟩ := r
  obtain ⟨hrole, old, hold, hsession, hstate⟩ := answeredSession_ok hanswered
  refine .modify_bind requestStreams_step ?_
  have hstep : ManagerStep env L { m with http3 := m.http3.storeRequestStream stream }
      ({ m with http3 := m.http3.storeRequestStream stream }.store session) := by
    rw [hsession]
    exact .answered (m := { m with http3 := m.http3.storeRequestStream stream }) hold _ _ hsettles
      (hanswers old session stream hold hanswered) hstate hrole
  exact Ends.bind (settle_ends hsettles hstep hstate) fun _ _ h => And.intro h trivial

lemma validateClientSessionRequest_ok {frame : HTTP3Frame}
    (h : m.validateClientSessionRequest env streamID frame = .ok sessionID) :
    m.http3.role = .server ∧ sessionID = streamID ∧ fromRequestStreamID streamID = .ok streamID ∧
      m.validateRequestAllowedByGoaway streamID = .ok () ∧
      m.sessionsByID.get? sessionID = none := by
  unfold validateClientSessionRequest at h
  by_cases hrole : m.http3.role = .server
  · rw [if_neg (not_not.mpr hrole)] at h
    obtain ⟨_, -, h⟩ := bind_ok h
    obtain ⟨id, hvalid, h⟩ := bind_ok h
    split_ifs at h
    obtain rfl := Except.ok.inj h
    exact ⟨hrole, validateNewSession_ok hvalid⟩
  · rw [if_pos hrole] at h
    cases h

lemma decideRequest_ok {frame : HTTP3Frame} {policy : WebTransportServerSessionPolicy}
    {decision : WebTransportServerSessionDecision}
    (h : decideRequest env sessionID streamID frame policy = .ok decision) :
    decision.session.id = sessionID ∧ decision.session.requestStreamID = streamID ∧
      (decision.session.state = .accepted ∨ ∃ status, decision.session.state = .rejected status) := by
  unfold decideRequest at h
  obtain ⟨fields, -, h⟩ := bind_ok h
  obtain ⟨request, -, h⟩ := bind_ok h
  obtain ⟨selected, -, h⟩ := bind_ok h
  simp only at h
  cases hrejection : rejection request selected policy with
  | none =>
    rw [hrejection] at h
    obtain ⟨_, -, h⟩ := bind_ok h
    obtain rfl := Except.ok.inj h
    exact ⟨rfl, rfl, .inl rfl⟩
  | some refused =>
    rw [hrejection] at h
    obtain ⟨_, -, h⟩ := bind_ok h
    obtain rfl := Except.ok.inj h
    exact ⟨rfl, rfl, .inr ⟨refused.1, rfl⟩⟩

lemma receiveClientSessionRequest_within (frame : HTTP3Frame)
    (policy : WebTransportServerSessionPolicy) (hsettles : L.settles) :
    Within (ManagerStep env L) (receiveClientSessionRequest env streamID frame policy) m
      fun _ _ => True := by
  refine .consult_bind fun id hvalid => ?_
  obtain ⟨hrole, rfl, hid, -, hnew⟩ := validateClientSessionRequest_ok hvalid
  refine Ends.bind (newRequestStream_ends.mono ?_ fun _ _ h => h) ?_
  · rintro _ _ rfl
    exact .refl
  rintro stream _ ⟨rfl, hstream, hfresh⟩
  have hadded : Relation.ReflTransGen (ManagerStep env L) m
      { m with http3 := m.http3.storeRequestStream stream } := .single requestStreams_step
  refine Ends.demand_bind (fun _ _ => hadded) fun stream' hreceive => ?_
  have hstream' : stream'.streamID = id := (receive_ok hreceive).trans hstream
  refine Ends.bind (P := fun _ m' => m' = { m with
    http3 := (m.http3.storeRequestStream stream).storeRequestStream stream' }) (Ends.modify rfl) ?_
  rintro _ _ rfl
  refine Ends.demand_bind (fun _ _ => hadded.tail requestStreams_step) fun decision hdecide => ?_
  obtain ⟨hsession, hrequest, hstate⟩ := decideRequest_ok hdecide
  obtain rfl := hsession
  exact Ends.bind (settle_ends hsettles
    (begun_step hstream' hfresh hrequest hid hnew (.inr ⟨hsettles, hrole, hstate⟩)) hstate)
    fun _ _ h => And.intro h trivial

/-! ## The control stream -/

lemma receivePeerControlStream_within (hhears : L.hears) (bytes : List UInt8) :
    Within (ManagerStep env L) (receivePeerControlStream env bytes) m fun _ _ => True :=
  .consult_bind fun _ hreceive => .modify_bind (.controlReceived hhears hreceive) (.pure trivial)

lemma receiveControlFrame_within (hhears : L.hears) (frame : HTTP3Frame) :
    Within (ManagerStep env L) (receiveControlFrame frame) m fun _ _ => True := by
  refine .consult_bind fun http3 hreceive => .modify_bind (.goawayReceived hhears hreceive) ?_
  split_ifs
  · exact .modify .drainedAll trivial
  · exact .pure trivial

/-! ## Draining and closing -/

lemma makeDrainSessionCapsule_within :
    Within (ManagerStep env L) (makeDrainSessionCapsule env sessionID) m fun _ _ => True := by
  refine .consult_bind fun session _ => ?_
  cases session.state with
  | closed code message => exact .demand fun _ _ => trivial
  | rejected status => exact .throw
  | requested => exact .throw
  | accepted => exact markSessionDraining_within.bind fun _ _ _ => .demand fun _ _ => trivial
  | draining => exact markSessionDraining_within.bind fun _ _ _ => .demand fun _ _ => trivial

lemma makeCloseSessionCapsuleResult_within (applicationErrorCode : ℕ) (message : List UInt8) :
    Within (ManagerStep env L)
      (makeCloseSessionCapsuleResult env sessionID applicationErrorCode message) m
      fun r _ => m.YieldedFrom env L r.2.frames := by
  refine .consult_bind fun session _ => .demand_bind fun capsuleBytes _ => ?_
  have hclose : Within (ManagerStep env L) (do
      let actions ← markSessionClosed env sessionID applicationErrorCode message false
      pure (capsuleBytes, actions)) m fun r _ => m.YieldedFrom env L r.2.frames :=
    (markSessionClosed_within _ _ _).bind fun _ _ h => .pure h
  cases session.state with
  | closed code message => exact .pure (.singleton (.carried _ _ _ _))
  | rejected status => exact .throw
  | requested => exact hclose
  | accepted => exact hclose
  | draining => exact hclose

lemma finishConnectStream_within :
    Within (ManagerStep env L) (finishConnectStream env streamID) m
      fun actions _ => m.YieldedFrom env L actions.frames :=
  .consult_bind fun _ _ => markSessionClosed_within _ _ _

/-! ## Capsules -/

/-- The frames that a received capsule yields. -/
def ReceivedFlowControlCapsule.frames (r : ReceivedFlowControlCapsule) : List QUICFrame :=
  r.terminationActions.elim [] WebTransportSessionTerminationActions.frames

lemma enactCapsule_within (capsule : WebTransportFlowCapsule) :
    Within (ManagerStep env L) (enactCapsule env sessionID capsule) m fun actions _ =>
      m.YieldedFrom env L (actions.elim [] WebTransportSessionTerminationActions.frames) := by
  unfold enactCapsule
  split
  · exact markSessionDraining_within.bind fun _ _ _ => .pure .nil
  · exact (markSessionClosed_within _ _ _).bind fun _ _ h => .pure h
  · exact .pure .nil

lemma takeCapsule_within (bytes : List UInt8) :
    Within (ManagerStep env L) (takeCapsule env sessionID bytes) m fun r _ =>
      m.YieldedFrom env L r.frames := by
  refine (closingOnFlowControl_within (P := fun _ _ => True) (.demand fun _ _ => trivial)
    ).bind_reached fun parsed m₁ hreach _ => ?_
  refine (enactCapsule_within parsed.capsule).bind fun actions m₂ hframes => ?_
  refine (closingOnFlowControl_within (P := fun state m' =>
    (m'.credit false sessionID).apply parsed.capsule = .ok state) (.consult fun _ h => h)
    ).bind fun state m₃ hraise => ?_
  exact .modify_bind (.raised hraise) (.pure (.of_reached hreach hframes))

lemma receiveFlowControlCapsuleWithActions_within (bytes : List UInt8) :
    Within (ManagerStep env L) (receiveFlowControlCapsuleWithActions env sessionID bytes) m
      fun r _ => m.YieldedFrom env L r.frames := by
  refine .consult_bind fun capsuleType _ => .get_bind ?_
  split_ifs
  · exact .demand_bind fun _ _ => .pure .nil
  · exact takeCapsule_within bytes

lemma firstCapsule_within (remaining : List UInt8) :
    Within (ManagerStep env L) (firstCapsule env sessionID remaining) m fun r _ =>
      m.YieldedFrom env L r.1.frames :=
  .demand_bind fun _ _ =>
    (receiveFlowControlCapsuleWithActions_within _).bind fun _ _ h => .pure h

lemma nextCapsule_within (remaining : List UInt8) :
    Within (ManagerStep env L) (nextCapsule env sessionID remaining) m fun r _ =>
      ∀ received, r = some received → m.YieldedFrom env L received.1.frames := by
  refine .demand_bind fun _ _ => .tryCatch (.map ?_) fun e m' _ => ?_
  · refine (firstCapsule_within remaining).mono fun r _ h received heq => ?_
    obtain rfl := Option.some.inj heq
    exact h
  · split_ifs
    · exact closeForFlowControlViolation_within.bind fun _ _ _ => .throw
    · exact .pure fun _ heq => by cases heq
    · exact .throw

/-- The frames of the end of a session, if there was one. -/
def endFrames (actions : Option WebTransportSessionTerminationActions) : List QUICFrame :=
  actions.elim [] WebTransportSessionTerminationActions.frames

/-- What a connection yields with the capsules that were received, the reset and the end. -/
lemma yieldedFrom_result {received : List ReceivedFlowControlCapsule}
    {actions : Option WebTransportSessionTerminationActions}
    (hreceived : m.YieldedFrom env L (received.flatMap ReceivedFlowControlCapsule.frames))
    (hactions : m.YieldedFrom env L (endFrames actions)) {reset : Option QUICFrame}
    (hreset : m.YieldedFrom env L reset.toList) :
    m.YieldedFrom env L (ConnectStreamCapsuleResult.mk received reset actions).frames :=
  (hreceived.append hreset).append hactions

/-- A close that cannot be read ends the session, if it has not ended. -/
lemma handleCloseSessionCapsule_within {m₀ : WebTransportSessionManager}
    (hreach : Relation.ReflTransGen (ManagerStep env L) m₀ m)
    {received : List ReceivedFlowControlCapsule}
    {actions : Option WebTransportSessionTerminationActions}
    (hreceived : m₀.YieldedFrom env L (received.flatMap ReceivedFlowControlCapsule.frames))
    (hactions : m₀.YieldedFrom env L (endFrames actions))
    (hreset : m₀.YieldedFrom env L [connectMessageErrorReset streamID]) :
    Within (ManagerStep env L) (handleCloseSessionCapsule env streamID sessionID received actions)
      m fun r _ => m₀.YieldedFrom env L r.frames := by
  refine .get_bind ?_
  split_ifs
  · exact .pure (yieldedFrom_result hreceived hactions hreset)
  · refine .bind (P := fun actions _ => m₀.YieldedFrom env L (endFrames actions))
      (.tryCatch (.map ?_) fun _ _ _ => .pure .nil) fun actions' _ hactions' =>
        .pure (yieldedFrom_result hreceived hactions' hreset)
    exact (markSessionClosed_within _ _ _).mono fun _ _ h => h.of_reached hreach

/-- The induction is on the rounds: what was yielded before is yielded, and a capsule adds what its
session yields where it is read. -/
lemma connectCapsules_within {m₀ : WebTransportSessionManager}
    (hreset : m₀.YieldedFrom env L [connectMessageErrorReset streamID]) (rounds : ℕ)
    {remaining : List UInt8} {received : List ReceivedFlowControlCapsule}
    {actions : Option WebTransportSessionTerminationActions}
    (hreach : Relation.ReflTransGen (ManagerStep env L) m₀ m)
    (hreceived : m₀.YieldedFrom env L (received.flatMap ReceivedFlowControlCapsule.frames))
    (hactions : m₀.YieldedFrom env L (endFrames actions)) :
    Within (ManagerStep env L)
      (connectCapsules env streamID sessionID rounds remaining received actions) m
      fun r _ => m₀.YieldedFrom env L r.frames := by
  induction rounds generalizing m remaining received actions with
  | zero => exact .pure (yieldedFrom_result hreceived hactions .nil)
  | succ rounds ih =>
    unfold connectCapsules
    split_ifs
    · exact .pure (yieldedFrom_result hreceived hactions .nil)
    · refine .get_bind ?_
      split_ifs
      · exact .pure (yieldedFrom_result hreceived hactions hreset)
      refine (nextCapsule_within remaining).bind_reached fun next m' hmore hnext => ?_
      have hreach' := hreach.trans hmore
      cases next with
      | none => exact handleCloseSessionCapsule_within hreach' hreceived hactions hreset
      | some r =>
        obtain ⟨result, consumed⟩ := r
        have hresult : m₀.YieldedFrom env L result.frames := (hnext _ rfl).of_reached hreach
        refine ih hreach' ?_ ?_
        · rw [List.flatMap_append, List.flatMap_singleton]
          exact hreceived.append hresult
        · cases hended : result.terminationActions with
          | none => exact hactions
          | some ended =>
            unfold ReceivedFlowControlCapsule.frames at hresult
            rw [hended] at hresult
            exact hresult

lemma receiveConnectStreamCapsulesWithActions_within (bytes : List UInt8) :
    Within (ManagerStep env L) (receiveConnectStreamCapsulesWithActions env streamID bytes) m
      fun r _ => m.YieldedFrom env L r.frames := by
  refine .consult_bind fun id hid => ?_
  unfold connectSession at hid
  split at hid
  · cases hid
  · rename_i hstream
    exact connectCapsules_within (.singleton (.connectReset hstream)) _ .refl .nil .nil

lemma receiveConnectStreamData_within (data : List UInt8) :
    Within (ManagerStep env L) (receiveConnectStreamData env streamID data) m
      fun frame _ => m.YieldedFrom env L frame.toList := by
  unfold receiveConnectStreamData
  split_ifs
  · exact .pure .nil
  · refine (receiveConnectStreamCapsulesWithActions_within data).bind fun r _ hframes => .pure ?_
    intro frame hframe
    exact hframes frame (List.mem_append_left _ (List.mem_append_right _ hframe))

lemma popFlowControlCapsule_within :
    Within (ManagerStep env L) (popFlowControlCapsule sessionID) m fun _ _ => True := by
  refine .get_bind ?_
  split
  · exact .pure trivial
  · exact .modify_bind (.capsulesSet _ _) (.demand_bind fun _ _ => .pure trivial)

/-! ## Streams -/

lemma admitOwnStream_ok {form : WebTransportStreamForm} {session : WebTransportSession}
    (h : m.admitOwnStream env form streamID sessionID = .ok session) :
    m.sessionsByID.get? sessionID = some session ∧ session.state.IsWritable ∧
      m.IsFree streamID := by
  unfold admitOwnStream at h
  obtain ⟨_, -, h⟩ := bind_ok h
  obtain ⟨writable, hwritable, h⟩ := bind_ok h
  obtain ⟨_, hidentity, h⟩ := bind_ok h
  obtain rfl := Except.ok.inj h
  obtain ⟨hsession, hstate⟩ := writableSession_ok hwritable
  exact ⟨hsession, hstate, (validateStreamIdentity_ok hidentity).1⟩

lemma openStream_within (form : WebTransportStreamForm) (hspends : L.spends) :
    Within (ManagerStep env L) (openStream env form streamID sessionID) m fun _ _ => True := by
  refine .consult_bind fun session hallow => ?_
  obtain ⟨hsession, hwritable, hfree⟩ := admitOwnStream_ok hallow
  refine (reserve_within fun _ => hspends).bind ?_
  rintro _ _ ⟨credit, rfl⟩
  refine .consult_bind fun stream hnew => ?_
  obtain ⟨hid, hstream, -, hmade⟩ := newStream_ok hnew
  rw [← hid] at hfree
  exact .modify_bind (.registered hfree hsession (.inr hstream) hwritable hmade)
    (.demand fun _ _ => trivial)

lemma admitPeerStream_ok {form : WebTransportStreamForm} {firstBytes : List UInt8}
    {head : WebTransportStreamPrefix} {session : Option WebTransportSession}
    (h : m.admitPeerStream env form streamID firstBytes = .ok (head, session)) :
    m.IsFree streamID ∧ QUICStreamID.direction streamID = form ∧
      QUICStreamID.initiator streamID = m.http3.role.peer ∧ head.form = form ∧
      m.sessionForIngressOrPending head.sessionID = .ok session := by
  unfold admitPeerStream at h
  obtain ⟨_, -, h⟩ := bind_ok h
  obtain ⟨_, hidentity, h⟩ := bind_ok h
  obtain ⟨head', -, h⟩ := bind_ok h
  split_ifs at h with hform
  obtain ⟨session', hingress, h⟩ := bind_ok h
  obtain ⟨rfl, rfl⟩ := Prod.mk.inj (Except.ok.inj h)
  obtain ⟨hfree, hdirection, hinitiator⟩ := validateStreamIdentity_ok hidentity
  exact ⟨hfree, hdirection, hinitiator, not_not.mp hform, hingress⟩

lemma receiveInitialPayload_identity {payload : List UInt8}
    {stream stream' : WebTransportStreamState} {buffering : Bool}
    (h : receiveInitialPayload payload stream buffering = .ok stream') :
    stream'.identity = stream.identity := by
  unfold receiveInitialPayload at h
  by_cases hempty : payload = []
  · rw [if_pos hempty] at h
    obtain rfl := Except.ok.inj h
    rfl
  · rw [if_neg hempty] at h
    cases hreceive : stream.receivePayload payload with
    | ok received =>
      rw [hreceive] at h
      obtain rfl := Except.ok.inj h
      exact WebTransportStreamState.receivePayload_identity hreceive
    | error e =>
      rw [hreceive] at h
      cases buffering with
      | true => cases h
      | false => cases e <;> cases h

lemma reserveIncoming_within (accepts : Bool) (head : WebTransportStreamPrefix) :
    Within (ManagerStep env L) (reserveIncoming env accepts head) m fun _ m' =>
      ∃ credit, m' = { m with receiveFlowControlStateBySessionID := credit } := by
  unfold reserveIncoming
  split_ifs
  · refine (reserveStream_within _).bind ?_
    rintro _ _ ⟨state, rfl⟩
    refine (reserveData_within _).mono ?_
    rintro _ _ ⟨state', rfl⟩
    exact ⟨_, rfl⟩
  · exact .pure ⟨_, rfl⟩

/-- A stream is taken as its session lets it. -/
lemma admitStream_within {accepts : Bool} {stream : WebTransportStreamState}
    (hfree : m.IsFree stream.streamID)
    (hsession : if accepts then
        ∃ session, m.sessionsByID.get? stream.sessionID = some session ∧ session.state.IsWritable
      else m.IsPending stream.sessionID)
    (hmade : stream.MadeBy m.http3.role) :
    Within (ManagerStep env L) (admitStream env accepts stream) m fun _ _ => True := by
  cases accepts with
  | true =>
    obtain ⟨session, hstored, hwritable⟩ := hsession
    exact .modify (.registered hfree hstored (.inl rfl) hwritable hmade) trivial
  | false => exact buffer_within hfree hsession hmade

lemma acceptStreamWithActions_within (form : WebTransportStreamForm) (firstBytes : List UInt8) :
    Within (ManagerStep env L) (acceptStreamWithActions env form streamID firstBytes) m fun r _ =>
      ∀ frame ∈ r.rejectionFrame.toList, frame = bufferedStreamRejectedFrame streamID := by
  refine .consult_bind fun r hallow => ?_
  obtain ⟨head, session⟩ := r
  obtain ⟨hfree, -, -, -, hingress⟩ := admitPeerStream_ok hallow
  refine (reserveIncoming_within _ head).bind ?_
  rintro _ _ ⟨credit, rfl⟩
  refine .consult_bind fun stream hnew => .tryCatch ?_ fun e m' _ => ?_
  · obtain ⟨hid, hstream, -, hmade⟩ := newStream_ok hnew
    refine .demand_bind fun stream' hreceive => ?_
    have hsame := receiveInitialPayload_identity hreceive
    obtain ⟨hid', hsame⟩ := Prod.mk.inj hsame
    obtain ⟨hstream', hquic⟩ := Prod.mk.inj hsame
    have hmade' : stream'.MadeBy m.http3.role := by
      unfold WebTransportStreamState.MadeBy
      rw [hquic, hid']
      exact hmade
    rw [← hid, ← hid'] at hfree
    have hknown := sessionForIngressOrPending_ok hingress
    rw [← hstream, ← hstream'] at hknown
    exact (admitStream_within (m := { m with receiveFlowControlStateBySessionID := credit })
      hfree hknown hmade').bind fun _ _ _ => .pure nofun
  · obtain ⟨hid, -, -, -⟩ := newStream_ok hnew
    split_ifs
    · refine .pure fun frame hframe => ?_
      rw [← hid]
      exact List.mem_singleton.mp hframe
    · exact .throw

lemma acceptStream_within (form : WebTransportStreamForm) (firstBytes : List UInt8) :
    Within (ManagerStep env L) (acceptStream env form streamID firstBytes) m fun _ _ => True := by
  refine (acceptStreamWithActions_within form firstBytes).bind fun r _ _ => ?_
  cases r.streamPrefix with
  | none => exact .throw
  | some head => exact .pure trivial

/-! ## Payloads -/

lemma liveStream_ok {stream : WebTransportStreamState} (h : m.liveStream streamID = .ok stream) :
    m.streamsByID.get? streamID = some stream := by
  unfold liveStream at h
  split at h
  · cases h
  · rename_i hstream
    rw [hstream, Except.ok.inj h]

lemma receivePayload_ok {stream stream' : WebTransportStreamState} {payload : List UInt8}
    (h : ofStreamState (stream.receivePayload payload) = .ok stream') :
    stream'.identity = stream.identity := by
  cases hreceive : stream.receivePayload payload with
  | ok received =>
    rw [hreceive] at h
    obtain rfl := Except.ok.inj h
    exact WebTransportStreamState.receivePayload_identity hreceive
  | error e =>
    rw [hreceive] at h
    cases e <;> cases h

lemma receivePayloadDeliveringImmediately_ok {stream stream' : WebTransportStreamState}
    {payload delivered : List UInt8}
    (h : ofStreamState (stream.receivePayloadDeliveringImmediately payload) =
      .ok (delivered, stream')) : stream'.identity = stream.identity := by
  cases hreceive : stream.receivePayloadDeliveringImmediately payload with
  | ok received =>
    rw [hreceive] at h
    obtain rfl := Except.ok.inj h
    exact WebTransportStreamState.receivePayloadDeliveringImmediately_identity hreceive
  | error e =>
    rw [hreceive] at h
    cases e <;> cases h

lemma receiveStreamPayload_within (payload : List UInt8) :
    Within (ManagerStep env L) (receiveStreamPayload env streamID payload) m fun _ _ => True := by
  refine .consult_bind fun id _ => (reserveData_within _).bind fun _ m' _ => .get_bind ?_
  split
  · exact .pure trivial
  · rename_i stream hstream
    exact .demand_bind fun stream' hreceive =>
      .modify (.streamSet hstream (receivePayload_ok hreceive)) trivial

lemma receiveAndPopStreamPayload_within (payload : List UInt8) :
    Within (ManagerStep env L) (receiveAndPopStreamPayload env streamID payload) m
      fun _ _ => True := by
  refine .consult_bind fun id _ => (reserveData_within _).bind fun _ m' _ => ?_
  refine .consult_bind fun stream hlive => .demand_bind fun r hreceive => ?_
  obtain ⟨delivered, stream'⟩ := r
  exact .modify_bind (.streamSet (liveStream_ok hlive)
    (receivePayloadDeliveringImmediately_ok hreceive)) (.pure trivial)

lemma sendStreamPayload_within (payload : List UInt8) (fin : Bool) (hspends : L.spends) :
    Within (ManagerStep env L) (sendStreamPayload env streamID payload fin) m fun frame _ =>
      m.YieldedFrom env L [frame] := by
  refine .consult_bind fun stream hsendable => ?_
  unfold sendableStream at hsendable
  obtain ⟨found, hlive, hsendable⟩ := bind_ok hsendable
  obtain ⟨_, -, hsendable⟩ := bind_ok hsendable
  obtain rfl := Except.ok.inj hsendable
  refine (reserve_within fun _ => hspends).bind ?_
  rintro _ _ ⟨credit, rfl⟩
  refine .demand_bind fun r hsend => ?_
  obtain ⟨frame, stream'⟩ := r
  cases hsent : found.sendPayload payload fin with
  | error e =>
    rw [hsent] at hsend
    cases hsend
  | ok r =>
    rw [hsent] at hsend
    obtain rfl := Except.ok.inj hsend
    obtain ⟨rfl, hsame⟩ := WebTransportStreamState.sendPayload_ok hsent
    exact .modify_bind (.streamSet (liveStream_ok hlive) hsame)
      (.pure (.singleton (.carried _ _ _ _)))

lemma popStreamPayload_within :
    Within (ManagerStep env L) (popStreamPayload streamID) m fun _ _ => True := by
  refine .get_bind ?_
  split
  · exact .pure trivial
  · rename_i stream hstream
    exact .modify_bind (.streamSet hstream (WebTransportStreamState.popPayload_identity stream))
      (.pure trivial)

lemma ownedStream_ok {owns : WebTransportStreamState → Bool} {refusal : String}
    {stream : WebTransportStreamState} (h : m.ownedStream owns refusal streamID = .ok stream) :
    m.streamsByID.get? streamID = some stream ∧ owns stream := by
  unfold ownedStream at h
  obtain ⟨found, hlive, h⟩ := bind_ok h
  split_ifs at h with howns
  obtain rfl := Except.ok.inj h
  exact ⟨liveStream_ok hlive, howns⟩

lemma resetStream_within (applicationErrorCode : ℕ) :
    Within (ManagerStep env L) (resetStream streamID applicationErrorCode) m fun frame _ =>
      m.YieldedFrom env L [frame] := by
  refine .consult_bind fun stream howned => .demand_bind fun code _ => ?_
  obtain ⟨hstream, howns⟩ := ownedStream_ok howned
  exact .modify_bind (.streamSet hstream (stream.reset_identity code))
    (.pure (.singleton (.reset hstream howns code)))

lemma stopSendingStream_within (applicationErrorCode : ℕ) :
    Within (ManagerStep env L) (stopSendingStream streamID applicationErrorCode) m fun frame _ =>
      m.YieldedFrom env L [frame] := by
  refine .consult_bind fun stream howned => .demand_bind fun code _ => ?_
  obtain ⟨hstream, howns⟩ := ownedStream_ok howned
  exact .modify_bind (.streamSet hstream (stream.stopSending_identity code))
    (.pure (.singleton (.stopped hstream howns code)))

/-! ## Datagrams -/

lemma makeDatagramFrame_ok {payload : List UInt8} {frame : QUICFrame}
    (h : makeDatagramFrame env m sessionID payload = .ok frame) :
    ∃ bytes, frame = .datagram bytes := by
  unfold makeDatagramFrame at h
  obtain ⟨_, -, h⟩ := bind_ok h
  obtain ⟨_, -, h⟩ := bind_ok h
  obtain ⟨bytes, -, h⟩ := bind_ok h
  split_ifs at h
  exact ⟨bytes, (Except.ok.inj h).symm⟩

lemma receiveDatagramFrame_within (frame : QUICFrame) :
    Within (ManagerStep env L) (receiveDatagramFrame env frame) m fun _ _ => True := by
  refine .consult_bind fun r _ => .consult_bind fun admits _ => ?_
  split_ifs
  · exact .modify_bind (.datagramPushed _ _) (.pure trivial)
  · exact .pure trivial

lemma popDatagramPayload_within :
    Within (ManagerStep env L) (popDatagramPayload sessionID) m fun _ _ => True := by
  refine .get_bind ?_
  split
  · exact .pure trivial
  · rename_i payload queue hqueue
    exact .modify_bind (.datagramPopped hqueue) (.pure trivial)

end WebTransportSessionManager

/-! ## Calls -/

/-- Whether a call sends a GOAWAY. -/
def ManagerCall.Announces : ManagerCall → Prop
  | makeGoawayFrame _ => True
  | _ => False

/-- Whether a call reads the control stream of the peer. -/
def ManagerCall.Hears : ManagerCall → Prop
  | receivePeerControlStream _ | receiveControlFrame _ => True
  | _ => False

/-- Whether a call opens a stream or sends on one. -/
def ManagerCall.Spends : ManagerCall → Prop
  | openStream .. | sendStreamPayload .. => True
  | _ => False

/-- Whether a call settles a session. -/
def ManagerCall.Settles : ManagerCall → Prop
  | receiveServerSessionResponse .. | receiveClientSessionRequest .. => True
  | _ => False

/-- Whether a call answers a session of one state with another. -/
def ManagerCall.Answers (env : ManagerEnv) (m : WebTransportSessionManager) :
    ManagerCall → WebTransportSessionState → WebTransportSessionState → Prop
  | receiveServerSessionResponse streamID frame, old, new =>
    ∃ found session stream, m.sessionsByID.get? streamID = some found ∧ found.state = old ∧
      m.answeredSession env streamID frame = .ok (session, stream) ∧ session.state = new
  | _, _, _ => False

/-- The changes that a call may make. -/
def ManagerCall.limits (env : ManagerEnv) (m : WebTransportSessionManager) (call : ManagerCall) :
    StepLimits where
  announces := call.Announces
  hears := call.Hears
  spends := call.Spends
  settles := call.Settles
  answers := call.Answers env m

/-- A call makes only changes that it may make. Its frames are those that the manager yields, and
the one that refuses a stream. -/
theorem ManagerCall.perform_within (env : ManagerEnv) (m : WebTransportSessionManager)
    (call : ManagerCall) :
    Within (ManagerStep env (call.limits env m)) (call.perform env) m fun frames _ =>
      ∀ frame ∈ frames,
        (∃ m', Relation.ReflTransGen (ManagerStep env (call.limits env m)) m m' ∧
          m'.Yields env frame) ∨
        ∃ form streamID firstBytes, call = .acceptStreamWithActions form streamID firstBytes ∧
          frame = bufferedStreamRejectedFrame streamID := by
  cases call with
  | makeGoawayFrame streamID => exact (makeGoawayFrame_within trivial).bind fun _ _ _ => .pure nofun
  | makeClientSessionRequest streamID request isZeroRTT =>
    exact (makeClientSessionRequest_within request isZeroRTT).bind fun _ _ _ => .pure nofun
  | receiveServerSessionResponse streamID frame =>
    refine (receiveServerSessionResponse_within frame trivial ?_).bind fun _ _ _ => .pure nofun
    intro old session stream hold hanswered
    exact ⟨old, session, stream, hold, rfl, hanswered, rfl⟩
  | receivePeerControlStream bytes =>
    exact (receivePeerControlStream_within trivial bytes).bind fun _ _ _ => .pure nofun
  | receiveClientSessionRequest streamID frame policy =>
    exact (receiveClientSessionRequest_within frame policy trivial).bind fun _ _ _ => .pure nofun
  | receiveControlFrame frame =>
    exact (receiveControlFrame_within trivial frame).bind fun _ _ _ => .pure nofun
  | makeDrainSessionCapsule sessionID =>
    exact makeDrainSessionCapsule_within.bind fun _ _ _ => .pure nofun
  | makeCloseSessionCapsule sessionID code message =>
    exact (makeCloseSessionCapsuleResult_within code message).bind fun _ _ h =>
      .pure fun frame hframe => .inl (h frame hframe)
  | finishConnectStream streamID =>
    exact finishConnectStream_within.bind fun _ _ h =>
      .pure fun frame hframe => .inl (h frame hframe)
  | receiveFlowControlCapsule sessionID bytes =>
    exact (receiveFlowControlCapsuleWithActions_within bytes).bind fun _ _ h =>
      .pure fun frame hframe => .inl (h frame hframe)
  | receiveConnectStreamCapsules streamID bytes =>
    exact (receiveConnectStreamCapsulesWithActions_within bytes).bind fun _ _ h =>
      .pure fun frame hframe => .inl (h frame hframe)
  | receiveConnectStreamData streamID data =>
    exact (receiveConnectStreamData_within data).bind fun _ _ h =>
      .pure fun frame hframe => .inl (h frame hframe)
  | popFlowControlCapsule sessionID =>
    exact popFlowControlCapsule_within.bind fun _ _ _ => .pure nofun
  | openStream form streamID sessionID =>
    exact (openStream_within form trivial).bind fun _ _ _ => .pure nofun
  | acceptStreamWithActions form streamID firstBytes =>
    exact (acceptStreamWithActions_within form firstBytes).bind fun _ _ h =>
      .pure fun frame hframe => .inr ⟨form, streamID, firstBytes, rfl, h frame hframe⟩
  | acceptStream form streamID firstBytes =>
    exact (acceptStream_within form firstBytes).bind fun _ _ _ => .pure nofun
  | receiveStreamPayload streamID payload =>
    exact (receiveStreamPayload_within payload).bind fun _ _ _ => .pure nofun
  | receiveAndPopStreamPayload streamID payload =>
    exact (receiveAndPopStreamPayload_within payload).bind fun _ _ _ => .pure nofun
  | sendStreamPayload streamID payload fin =>
    exact (sendStreamPayload_within payload fin trivial).bind fun _ _ h =>
      .pure fun frame hframe => .inl (h frame hframe)
  | popStreamPayload streamID => exact popStreamPayload_within.bind fun _ _ _ => .pure nofun
  | resetStream streamID code =>
    exact (resetStream_within code).bind fun _ _ h =>
      .pure fun frame hframe => .inl (h frame hframe)
  | stopSendingStream streamID code =>
    exact (stopSendingStream_within code).bind fun _ _ h =>
      .pure fun frame hframe => .inl (h frame hframe)
  | makeDatagramFrame sessionID payload =>
    refine .consult_bind fun frame hmake => .pure fun frame' hframe => .inl ⟨m, .refl, ?_⟩
    obtain ⟨bytes, rfl⟩ := makeDatagramFrame_ok hmake
    obtain rfl := List.mem_singleton.mp hframe
    exact .datagram bytes
  | receiveDatagramFrame frame =>
    exact (receiveDatagramFrame_within frame).bind fun _ _ _ => .pure nofun
  | popDatagramPayload sessionID => exact popDatagramPayload_within.bind fun _ _ _ => .pure nofun

end WebTransport
