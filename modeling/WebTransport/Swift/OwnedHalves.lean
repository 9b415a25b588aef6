import WebTransport.Swift.KnownSessions

/-!
# Which halves of streams are aborted

An endpoint resets the halves of streams that it sends on, and stops those that it receives on. The
manager keeps to this for the streams that it has and for CONNECT streams; the frame that refuses a
stream of the peer resets the half that the peer sends on when the stream is unidirectional.
-/

namespace WebTransport

open Throwing

/-- A frame aborts a half that an endpoint owns, if it aborts any. -/
def QUICFrame.OwnedBy (role : HTTP3ConnectionRole) : QUICFrame → Prop
  | resetStream id _ _ | resetStreamAt id _ _ _ =>
    (QUICStreamState.init id role QUICStreamState.offsetMax QUICStreamState.offsetMax).hasSendHalf
  | stopSending id _ =>
    (QUICStreamState.init id role QUICStreamState.offsetMax
      QUICStreamState.offsetMax).hasReceiveHalf
  | _ => True

namespace WebTransportStreamState

variable {s s' : WebTransportStreamState} {role : HTTP3ConnectionRole}

lemma MadeBy.of_identity (h : s.MadeBy role) (hsame : s'.identity = s.identity) :
    s'.streamID = s.streamID ∧ s'.sessionID = s.sessionID ∧ s'.MadeBy role := by
  obtain ⟨hid, hsame⟩ := Prod.mk.inj hsame
  obtain ⟨hsession, hquic⟩ := Prod.mk.inj hsame
  refine ⟨hid, hsession, ?_⟩
  unfold MadeBy
  rw [hquic, hid]
  exact h

lemma MadeBy.halves (h : s.MadeBy role) :
    s.hasSendHalf = (QUICStreamState.init s.streamID role QUICStreamState.offsetMax
      QUICStreamState.offsetMax).hasSendHalf ∧
    s.hasReceiveHalf = (QUICStreamState.init s.streamID role QUICStreamState.offsetMax
      QUICStreamState.offsetMax).hasReceiveHalf := by
  obtain ⟨-, hparts⟩ := Prod.mk.inj h
  obtain ⟨hrole, hparts⟩ := Prod.mk.inj hparts
  obtain ⟨hdirection, hinitiator⟩ := Prod.mk.inj hparts
  unfold hasSendHalf hasReceiveHalf QUICStreamState.hasSendHalf QUICStreamState.hasReceiveHalf
  rw [hrole, hdirection, hinitiator]
  exact ⟨rfl, rfl⟩

lemma MadeBy.reset_owned (h : s.MadeBy role) (howned : s.hasSendHalf) (code : ℕ) :
    (s.reset code).1.OwnedBy role := by
  rw [h.halves.1] at howned
  exact howned

lemma MadeBy.stopSending_owned (h : s.MadeBy role) (howned : s.hasReceiveHalf) (code : ℕ) :
    (s.stopSending code).1.OwnedBy role := by
  rw [h.halves.2] at howned
  have hid : s.quicStream.id = s.streamID := (Prod.mk.inj h).1
  show (QUICStreamState.init s.quicStream.id role _ _).hasReceiveHalf
  rw [hid]
  exact howned

end WebTransportStreamState

/-- A client opens both halves of a request stream. -/
lemma fromRequestStreamID_halves {streamID : ℕ} (h : fromRequestStreamID streamID = .ok streamID)
    (role : HTTP3ConnectionRole) :
    (QUICStreamState.init streamID role QUICStreamState.offsetMax
        QUICStreamState.offsetMax).hasSendHalf ∧
      (QUICStreamState.init streamID role QUICStreamState.offsetMax
        QUICStreamState.offsetMax).hasReceiveHalf := by
  unfold fromRequestStreamID at h
  split_ifs at h with hkind
  have hdirection : QUICStreamID.direction streamID = .bidirectional :=
    not_not.mp fun hne => hkind (.inl hne)
  unfold QUICStreamState.hasSendHalf QUICStreamState.hasReceiveHalf QUICStreamState.init
  rw [hdirection]
  exact ⟨rfl, rfl⟩

namespace WebTransportSessionManager

variable {env : ManagerEnv} {L : StepLimits} {m m' m'' : WebTransportSessionManager}
  {role : HTTP3ConnectionRole} {sessionID streamID : ℕ} {session : WebTransportSession}
  {stream : WebTransportStreamState}

/-! ## The streams of a manager -/

/-- The manager has a stream, which is live or waits for its session. -/
def HasStream (m : WebTransportSessionManager) (streamID : ℕ) (stream : WebTransportStreamState) :
    Prop :=
  m.streamsByID.get? streamID = some stream ∨ m.bufferedStreamsByID.get? streamID = some stream

lemma HasStream.of_held {buffered : Bool}
    (h : (m.heldStreams buffered).get? streamID = some stream) : m.HasStream streamID stream := by
  cases buffered with
  | false => exact .inl h
  | true => exact .inr h

/-- A manager made its streams, in its role and under their IDs. -/
structure Made (role : HTTP3ConnectionRole) (m : WebTransportSessionManager) : Prop where
  role_eq : m.http3.role = role
  made : ∀ id stream, m.HasStream id stream → stream.streamID = id ∧ stream.MadeBy role

/-- A manager with no other streams than before. -/
structure FewerStreams (m m' : WebTransportSessionManager) : Prop where
  role_eq : m'.http3.role = m.http3.role
  streams : ∀ id stream, m'.HasStream id stream → m.HasStream id stream

namespace FewerStreams

lemma refl (m : WebTransportSessionManager) : m.FewerStreams m := ⟨rfl, fun _ _ h => h⟩

lemma trans (h : m.FewerStreams m') (h' : m'.FewerStreams m'') : m.FewerStreams m'' :=
  ⟨h'.role_eq.trans h.role_eq, fun id stream hhas => h.streams id stream (h'.streams id stream hhas)⟩

lemma of_same (hrole : m'.http3.role = m.http3.role) (hlive : m'.streamsByID = m.streamsByID)
    (hheld : m'.bufferedStreamsByID = m.bufferedStreamsByID) : m.FewerStreams m' := by
  refine ⟨hrole, fun id stream h => ?_⟩
  unfold HasStream at h
  rw [hlive, hheld] at h
  exact h

lemma made (h : m.FewerStreams m') (hm : m.Made role) : m'.Made role :=
  ⟨h.role_eq.trans hm.role_eq, fun id stream hhas => hm.made id stream (h.streams id stream hhas)⟩

end FewerStreams

lemma FewerStreams.of_tombstonesOnly (h : m.TombstonesOnly m') : m.FewerStreams m' := by
  refine of_same ?_ ?_ ?_
  · rw [h.same]
  · rw [h.same]
  · rw [h.same]

lemma FewerStreams.of_releasesOnly (h : m.ReleasesOnly m') : m.FewerStreams m' := by
  refine of_same ?_ ?_ ?_
  · rw [h.same]
  · rw [h.same]
  · rw [h.same]

lemma dropStream_fewer (buffered : Bool) : m.FewerStreams (m.dropStream buffered streamID) := by
  have herased : ∀ {d : Dictionary ℕ WebTransportStreamState} {id : ℕ}
      {stream : WebTransportStreamState}, (d.erase streamID).get? id = some stream →
        d.get? id = some stream := by
    intro d id stream h
    rw [Dictionary.get?_erase] at h
    split_ifs at h
    exact h
  cases buffered with
  | false => exact ⟨rfl, fun id stream h => h.imp_left herased⟩
  | true => exact ⟨rfl, fun id stream h => h.imp_right herased⟩

lemma tombstone_fewer : m.FewerStreams (m.tombstone env sessionID streamID) :=
  .of_tombstonesOnly tombstone_tombstonesOnly

lemma discardStream_fewer : m.FewerStreams (m.discardStream env sessionID streamID) := by
  rw [discardStream_eq]
  exact tombstone_fewer.trans (dropStream_fewer true)

lemma discardBufferedIngress_fewerStreams :
    m.FewerStreams (m.discardBufferedIngress env sessionID) := by
  unfold discardBufferedIngress
  generalize (env.enumerate (m.bufferedStreamIDs sessionID)).1 = streamIDs
  induction streamIDs generalizing m with
  | nil => exact .of_same rfl rfl rfl
  | cons streamID rest ih => exact discardStream_fewer.trans ih

/-- The frames abort halves that an endpoint owns. -/
structure AbortFrames.OwnedBy (role : HTTP3ConnectionRole) (frames : AbortFrames) : Prop where
  resets : ∀ frame ∈ frames.resets, frame.OwnedBy role
  stops : ∀ frame ∈ frames.stops, frame.OwnedBy role

lemma abortStream_owned {frames : AbortFrames} (hmade : stream.MadeBy role)
    (hframes : frames.OwnedBy role) : (abortStream stream frames).OwnedBy role := by
  constructor
  · intro frame hframe
    change frame ∈ (if stream.hasSendHalf then _ else _) at hframe
    split_ifs at hframe with howned
    · rcases List.mem_append.mp hframe with hframe | hframe
      · exact hframes.resets frame hframe
      · rw [List.mem_singleton.mp hframe]
        exact hmade.reset_owned howned _
    · exact hframes.resets frame hframe
  · intro frame hframe
    change frame ∈ (if stream.hasReceiveHalf then _ else _) at hframe
    split_ifs at hframe with howned
    · rcases List.mem_append.mp hframe with hframe | hframe
      · exact hframes.stops frame hframe
      · rw [List.mem_singleton.mp hframe]
        exact hmade.stopSending_owned howned _
    · exact hframes.stops frame hframe

/-- The streams of a session end, and the frames abort halves that this endpoint owns. -/
lemma terminateStreams_owned (buffered : Bool) (streamIDs : List ℕ) {frames : AbortFrames}
    (hm : m.Made role) (hframes : frames.OwnedBy role) :
    m.FewerStreams (terminateStreams env buffered sessionID streamIDs frames m).2 ∧
      (terminateStreams env buffered sessionID streamIDs frames m).1.OwnedBy role := by
  induction streamIDs generalizing m frames with
  | nil => exact ⟨.refl m, hframes⟩
  | cons streamID rest ih =>
    unfold terminateStreams
    split
    · exact ih hm hframes
    · rename_i stream hstream
      obtain ⟨-, hmade⟩ := hm.made _ _ (.of_held hstream)
      have hfewer : m.FewerStreams ((m.tombstone env sessionID streamID).dropStream buffered
          streamID) := tombstone_fewer.trans (dropStream_fewer buffered)
      obtain ⟨hmore, howned⟩ := ih (hfewer.made hm) (abortStream_owned hmade hframes)
      exact ⟨hfewer.trans hmore, howned⟩

/-- All streams of a session end, and the frames abort halves that this endpoint owns. -/
lemma terminateAssociatedStreams_owned {requestStreamID : ℕ} (hm : m.Made role)
    (hrequest : fromRequestStreamID requestStreamID = .ok requestStreamID) :
    m.FewerStreams (m.terminateAssociatedStreams env sessionID requestStreamID).2 ∧
      ∀ frame ∈ (m.terminateAssociatedStreams env sessionID requestStreamID).1.frames,
        frame.OwnedBy role := by
  have hnone : ({} : AbortFrames).OwnedBy role :=
    ⟨fun _ h => absurd h List.not_mem_nil, fun _ h => absurd h List.not_mem_nil⟩
  obtain ⟨hlive, hlivef⟩ := @terminateStreams_owned env m role sessionID false
    (m.streamIDs sessionID).keys {} hm hnone
  unfold terminateAssociatedStreams
  generalize terminateStreams env false sessionID (m.streamIDs sessionID).keys {} m = live
    at hlive hlivef ⊢
  obtain ⟨frames, m₁⟩ := live
  obtain ⟨hheld, hheldf⟩ := @terminateStreams_owned env m₁ role sessionID true
    (m₁.bufferedStreamIDs sessionID).keys frames (hlive.made hm) hlivef
  simp only
  generalize terminateStreams env true sessionID (m₁.bufferedStreamIDs sessionID).keys frames m₁ =
    held at hheld hheldf ⊢
  refine ⟨(hlive.trans hheld).trans (.of_same rfl rfl rfl), fun frame hframe => ?_⟩
  rcases List.mem_append.mp hframe with hframe | hframe
  · rcases List.mem_append.mp hframe with hframe | hframe
    · rcases List.mem_cons.mp hframe with rfl | hframe
      · trivial
      · obtain rfl := List.mem_singleton.mp hframe
        exact (fromRequestStreamID_halves hrequest role).2
    · exact hheldf.resets frame hframe
  · exact hheldf.stops frame hframe

/-- A session is closed, and the frames abort halves that this endpoint owns. -/
lemma closeSession_owned (hm : m.Made role)
    (hrequest : fromRequestStreamID session.requestStreamID = .ok session.requestStreamID)
    (applicationErrorCode : ℕ) (message : List UInt8) (closeCapsuleReceived : Bool) :
    m.FewerStreams (m.closeSession env session sessionID applicationErrorCode message
        closeCapsuleReceived).2 ∧
      ∀ frame ∈ (m.closeSession env session sessionID applicationErrorCode message
        closeCapsuleReceived).1.frames, frame.OwnedBy role := by
  have hstored : m.FewerStreams (m.storeClosed session sessionID applicationErrorCode message
      closeCapsuleReceived) := .of_same rfl rfl rfl
  obtain ⟨hended, hframes⟩ := @terminateAssociatedStreams_owned env _ role sessionID _
    (hstored.made hm) hrequest
  unfold closeSession
  generalize (m.storeClosed session sessionID applicationErrorCode message
    closeCapsuleReceived).terminateAssociatedStreams env sessionID session.requestStreamID = ended
    at hended hframes ⊢
  obtain ⟨actions, m₁⟩ := ended
  have hcleared : m₁.FewerStreams (m₁.clearDatagrams sessionID) := .of_same rfl rfl rfl
  exact ⟨((hstored.trans hended).trans hcleared).trans
    (.of_releasesOnly recordClosedSession_releasesOnly), hframes⟩

/-! ## Steps -/

/-- A stream is put in place of what was live under its ID. -/
lemma HasStream.of_inserted {new : WebTransportStreamState} {id : ℕ}
    (hlive : m'.streamsByID = m.streamsByID.insert new.streamID new)
    (hheld : m'.bufferedStreamsByID = m.bufferedStreamsByID)
    (h : m'.HasStream id stream) : m.HasStream id stream ∨ id = new.streamID ∧ stream = new := by
  unfold HasStream at h
  rw [hlive, hheld, Dictionary.get?_insert] at h
  rcases h with h | h
  · split_ifs at h with hid
    · exact .inr ⟨hid, (Option.some.inj h).symm⟩
    · exact .inl (.inl h)
  · exact .inl (.inr h)

lemma Made.inserted {new : WebTransportStreamState} (hm : m.Made role)
    (hrole : m'.http3.role = m.http3.role)
    (hstreams : ∀ id stream, m'.HasStream id stream →
      m.HasStream id stream ∨ id = new.streamID ∧ stream = new)
    (hmade : new.MadeBy role) : m'.Made role := by
  refine ⟨hrole.trans hm.role_eq, fun id stream hhas => ?_⟩
  rcases hstreams id stream hhas with hold | ⟨rfl, rfl⟩
  · exact hm.made id stream hold
  · exact ⟨rfl, hmade⟩

/-- Every step keeps streams as the manager made them. -/
theorem step_made (hstep : ManagerStep env L m m') (hknown : m.Known) (hm : m.Made role) :
    m'.Made role := by
  have hfewer : ∀ {m' : WebTransportSessionManager}, m.FewerStreams m' → m'.Made role :=
    fun h => h.made hm
  cases hstep with
  | goawaySent => exact hfewer (.of_same rfl rfl rfl)
  | controlReceived _ hreceive =>
    obtain ⟨_, _, _, _, -, -, rfl⟩ := receivePeerControlStream_ok hreceive
    exact hfewer (.of_same rfl rfl rfl)
  | goawayReceived _ hreceive =>
    obtain rfl | ⟨_, -, -, rfl⟩ := receiveControlFrame_ok hreceive
    · exact hfewer (.of_same rfl rfl rfl)
    · exact hfewer (.of_same rfl rfl rfl)
  | drainedAll => exact hfewer (.of_same rfl rfl rfl)
  | requestStreams hmore => exact hfewer (.of_same hmore.role_eq rfl rfl)
  | begun hmore => exact hfewer (.of_same hmore.role_eq rfl rfl)
  | answered => exact hfewer (.of_same rfl rfl rfl)
  | @promoted _ streamID _ stream _ _ _ hstream =>
    obtain ⟨-, hmade⟩ := hm.made _ _ (.inr hstream)
    have hregistered : (m.register stream).Made role :=
      hm.inserted rfl (fun _ _ => HasStream.of_inserted rfl rfl) hmade
    exact FewerStreams.made (@dropStream_fewer _ streamID true) hregistered
  | promotionDone => exact hfewer (.of_same rfl rfl rfl)
  | discarded =>
    exact hfewer (discardBufferedIngress_fewerStreams.trans
      (.of_releasesOnly recordClosedSession_releasesOnly))
  | drained => exact hfewer (.of_same rfl rfl rfl)
  | closed hsession =>
    exact hfewer (closeSession_owned hm (hknown.requestStream hsession) _ _ _).1
  | received => exact hfewer (.of_same rfl rfl rfl)
  | spent => exact hfewer (.of_same rfl rfl rfl)
  | refused _ capsule => cases capsule <;> exact hfewer (.of_same rfl rfl rfl)
  | raised => exact hfewer (.of_same rfl rfl rfl)
  | registered _ _ _ _ hmade =>
    exact hm.inserted rfl (fun _ _ => HasStream.of_inserted rfl rfl) (hm.role_eq ▸ hmade)
  | @held stream _ _ hmade =>
    refine hm.inserted rfl (fun id stream' hhas => ?_) (hm.role_eq ▸ hmade)
    rcases hhas with hlive | hheld
    · exact .inl (.inl hlive)
    · have hget : (m.hold stream).bufferedStreamsByID.get? id =
          if id = stream.streamID then some stream else m.bufferedStreamsByID.get? id :=
        Dictionary.get?_insert
      rw [hget] at hheld
      split_ifs at hheld with hid
      · exact .inr ⟨hid, (Option.some.inj hheld).symm⟩
      · exact .inl (.inr hheld)
  | @streamSet _ old stream hold hsame =>
    obtain ⟨hid, hmade⟩ := hm.made _ _ (.inl hold)
    obtain ⟨hid', -, hmade'⟩ := hmade.of_identity hsame
    refine hm.inserted rfl (fun _ _ => HasStream.of_inserted ?_ rfl) hmade'
    rw [hid', hid]
    rfl
  | datagramPushed => exact hfewer (.of_same rfl rfl rfl)
  | datagramPopped => exact hfewer (.of_same rfl rfl rfl)
  | capsulesSet => exact hfewer (.of_same rfl rfl rfl)

/-- What the manager yields aborts halves that this endpoint owns. -/
theorem yields_owned {frame : QUICFrame} (hknown : m.Known) (hm : m.Made role)
    (h : m.Yields env frame) : frame.OwnedBy role := by
  cases h with
  | ended hsession hframe =>
    exact (closeSession_owned hm (hknown.requestStream hsession) _ _ _).2 frame hframe
  | connectReset hstream =>
    exact (fromRequestStreamID_halves (hknown.connect _ _ hstream) role).1
  | reset hstream howned code => exact (hm.made _ _ (.inl hstream)).2.reset_owned howned code
  | stopped hstream howned code =>
    exact (hm.made _ _ (.inl hstream)).2.stopSending_owned howned code
  | carried => trivial
  | datagram => trivial

lemma start_made (http3 : HTTP3ConnectionState) : (start http3).Made http3.role :=
  ⟨rfl, fun _ _ h => by rcases h with h | h <;> cases h⟩

/-- Steps keep what the manager knows of its sessions and its streams. -/
lemma steps_made (hreach : Relation.ReflTransGen (ManagerStep env L) m m')
    (hm : m.Known ∧ m.Made role) : m'.Known ∧ m'.Made role :=
  keeps (I := fun m => m.Known ∧ m.Made role)
    (fun _ _ hstep hm => ⟨(step_known hstep hm.1).1, step_made hstep hm.1 hm.2⟩) hreach hm

/-- In every run the manager knows its sessions and made its streams. -/
theorem run_made {http3 : HTTP3ConnectionState} {allowed : WebTransportSessionManager →
      ManagerCall → Prop} (hrun : Run (ManagerCall.perform env) allowed (start http3) m) :
    m.Known ∧ m.Made http3.role := by
  refine keeps (I := fun m => m.Known ∧ m.Made http3.role) ?_ hrun
    ⟨start_known http3, start_made http3⟩
  rintro m _ ⟨call, -, rfl⟩ hm
  exact steps_made (call.perform_within env m).reached hm

/-! ## Streams that are refused -/

/-- A stream of the peer is refused: its session does not take streams yet, and the stream cannot be
buffered. -/
def RefusesStream (env : ManagerEnv) (m : WebTransportSessionManager)
    (form : WebTransportStreamForm) (streamID : ℕ) (firstBytes : List UInt8) : Prop :=
  ∃ head session stream, m.admitPeerStream env form streamID firstBytes = .ok (head, session) ∧
    acceptsStreams session = false ∧ m.newStream env form streamID head.sessionID = .ok stream ∧
    ∀ stream', receiveInitialPayload head.remainingPayload stream true = .ok stream' →
      m.ensureCanBuffer env stream' ≠ .ok ()

lemma receiveInitialPayload_error {payload : List UInt8} {buffering : Bool} {e : ManagerError}
    (h : receiveInitialPayload payload stream buffering = .error e) :
    e.IsKind .bufferedStreamRejected ↔ buffering = true := by
  unfold receiveInitialPayload at h
  by_cases hempty : payload = []
  · rw [if_pos hempty] at h
    cases h
  · rw [if_neg hempty] at h
    cases hreceive : stream.receivePayload payload with
    | ok received =>
      rw [hreceive] at h
      cases h
    | error refusal =>
      rw [hreceive] at h
      cases buffering with
      | true =>
        obtain rfl := Except.error.inj h
        exact iff_of_true ⟨_, rfl⟩ rfl
      | false =>
        have hkind : ¬e.IsKind .bufferedStreamRejected := by
          rintro ⟨message, rfl⟩
          cases refusal <;> cases h
        exact iff_of_false hkind Bool.false_ne_true

lemma ensureCanBuffer_error {e : ManagerError} (h : m.ensureCanBuffer env stream = .error e) :
    e.IsKind .bufferedStreamRejected := by
  unfold ensureCanBuffer at h
  cases hingress : m.ensureCanBufferIngress env stream.sessionID with
  | error refusal =>
    rw [hingress] at h
    unfold ensureCanBufferIngress at hingress
    split_ifs at hingress
    obtain rfl := Except.error.inj hingress
    obtain rfl := Except.error.inj h
    exact ⟨_, rfl⟩
  | ok _ =>
    rw [hingress] at h
    change (if _ then _ else _) = _ at h
    split_ifs at h
    obtain rfl := Except.error.inj h
    exact ⟨_, rfl⟩

lemma acceptStreamWithActions_refuses {form : WebTransportStreamForm} {firstBytes : List UInt8}
    (hrefused : m.RefusesStream env form streamID firstBytes) :
    Ends (acceptStreamWithActions env form streamID firstBytes) m (fun _ _ => False) fun r _ =>
      r.rejectionFrame = some (bufferedStreamRejectedFrame streamID) := by
  obtain ⟨head, session, stream, hallow, haccepts, hnew, hfull⟩ := hrefused
  refine Ends.consult_bind (fun e herror => ?_) ?_
  · rw [hallow] at herror
    cases herror
  rintro ⟨head', session'⟩ hallow'
  obtain ⟨rfl, rfl⟩ := Prod.mk.inj (Except.ok.inj (hallow.symm.trans hallow'))
  simp only
  rw [haccepts]
  refine Ends.bind (P := fun _ m' => m' = m) (Ends.pure rfl) ?_
  rintro _ _ rfl
  refine Ends.consult_bind (fun e herror => ?_) fun stream' hnew' => ?_
  · rw [hnew] at herror
    cases herror
  obtain rfl := Except.ok.inj (hnew.symm.trans hnew')
  refine Ends.tryCatch (F := fun e _ => e.IsKind .bufferedStreamRejected) ?_ fun e m' _ hkind => ?_
  · refine Ends.demand_bind (fun e herror => (receiveInitialPayload_error herror).mpr rfl)
      fun stream' hreceive => ?_
    refine Ends.bind (P := fun _ _ => False) ?_ fun _ _ h => h.elim
    refine Ends.consult_bind (fun e herror => ensureCanBuffer_error herror) fun _ hroom => ?_
    exact absurd hroom (hfull stream' hreceive)
  · rw [if_pos hkind]
    refine Ends.pure ?_
    rw [(newStream_ok hnew).1]

lemma acceptStreamWithActions_takes {form : WebTransportStreamForm} {firstBytes : List UInt8}
    (htaken : ¬m.RefusesStream env form streamID firstBytes) :
    Ends (acceptStreamWithActions env form streamID firstBytes) m (fun _ _ => True) fun r _ =>
      r.rejectionFrame = none := by
  refine Ends.consult_bind (fun _ _ => trivial) ?_
  rintro ⟨head, session⟩ hallow
  simp only
  cases haccepts : acceptsStreams session with
  | true =>
    refine Ends.bind (P := fun _ _ => True) Ends.any fun _ m' _ => ?_
    refine Ends.consult_bind (fun _ _ => trivial) fun stream _ => ?_
    refine Ends.tryCatch (F := fun e _ => ¬e.IsKind .bufferedStreamRejected) ?_ fun e m' _ hkind => ?_
    · refine Ends.demand_bind (fun e herror hkind =>
        Bool.false_ne_true ((receiveInitialPayload_error herror).mp hkind)) fun stream' _ => ?_
      exact Ends.modify_bind (Ends.pure rfl)
    · rw [if_neg hkind]
      exact Ends.throw trivial
  | false =>
    refine Ends.bind (P := fun _ m' => m = m') (Ends.pure rfl) ?_
    rintro _ _ rfl
    refine Ends.consult_bind (fun _ _ => trivial) fun stream hnew => ?_
    refine Ends.tryCatch (F := fun _ _ => False) ?_ fun _ _ _ h => h.elim
    -- The stream fits, or it would be refused.
    obtain ⟨stream', hreceive, hroom⟩ : ∃ stream',
        receiveInitialPayload head.remainingPayload stream true = .ok stream' ∧
          m.ensureCanBuffer env stream' = .ok () := by
      by_contra hnone
      push Not at hnone
      exact htaken ⟨head, session, stream, hallow, haccepts, hnew, hnone⟩
    refine Ends.demand_bind (fun e herror => ?_) fun received hreceived => ?_
    · cases hreceive.symm.trans herror
    obtain rfl := Except.ok.inj (hreceive.symm.trans hreceived)
    refine Ends.bind (P := fun _ _ => True) ?_ fun _ _ _ => Ends.pure rfl
    refine Ends.consult_bind (fun e herror => ?_) fun _ _ => Ends.modify trivial
    rw [hroom] at herror
    cases herror

end WebTransportSessionManager

open WebTransportSessionManager

/-! ## Calls -/

/-- The frames that a call returns abort only halves that the endpoint owns. -/
def ManagerCall.AbortsOwned (env : ManagerEnv) (role : HTTP3ConnectionRole)
    (m : WebTransportSessionManager) (call : ManagerCall) : Prop :=
  ∀ frames, returned? (call.perform env) m = some frames → ∀ frame ∈ frames, frame.OwnedBy role

/-- A call brings a unidirectional stream of the peer that is refused. -/
def ManagerCall.RefusesUnidirectional (env : ManagerEnv) (m : WebTransportSessionManager) :
    ManagerCall → Prop
  | acceptStreamWithActions .unidirectional streamID firstBytes =>
    m.RefusesStream env .unidirectional streamID firstBytes
  | _ => False

lemma rejected_owned_iff {role : HTTP3ConnectionRole} {streamID : ℕ}
    (hinitiator : QUICStreamID.initiator streamID = role.peer) :
    (bufferedStreamRejectedFrame streamID).OwnedBy role ↔
      QUICStreamID.direction streamID = .bidirectional := by
  have hpeer : role ≠ role.peer := by cases role <;> decide
  show (QUICStreamState.init streamID role _ _).hasSendHalf = true ↔ _
  unfold QUICStreamState.hasSendHalf QUICStreamState.init
  rw [hinitiator]
  simp [hpeer]

/-- In every run a call aborts only halves that the endpoint owns, unless it refuses a unidirectional
stream of the peer. -/
theorem abortsOwned_iff (env : ManagerEnv) (http3 : HTTP3ConnectionState)
    {m : WebTransportSessionManager}
    (hrun : Run (ManagerCall.perform env) (fun _ _ => True) (start http3) m) (call : ManagerCall) :
    call.AbortsOwned env http3.role m ↔ ¬call.RefusesUnidirectional env m := by
  obtain ⟨hknown, hmade⟩ := run_made hrun
  constructor
  · intro howned hrefuses
    obtain ⟨streamID, firstBytes, rfl, hrefused⟩ : ∃ streamID firstBytes,
        call = .acceptStreamWithActions .unidirectional streamID firstBytes ∧
          m.RefusesStream env .unidirectional streamID firstBytes := by
      cases call with
      | acceptStreamWithActions form streamID firstBytes =>
        cases form with
        | bidirectional => exact hrefuses.elim
        | unidirectional => exact ⟨streamID, firstBytes, rfl, hrefuses⟩
      | _ => exact False.elim hrefuses
    obtain ⟨_, _, _, hallow, -⟩ := id hrefused
    obtain ⟨-, hdirection, hinitiator, -⟩ := admitPeerStream_ok hallow
    rw [hmade.role_eq] at hinitiator
    have hends : Ends ((ManagerCall.acceptStreamWithActions .unidirectional streamID
        firstBytes).perform env) m (fun _ _ => False) fun frames _ =>
          frames = [bufferedStreamRejectedFrame streamID] :=
      Ends.bind (acceptStreamWithActions_refuses hrefused) fun r _ hr => Ends.pure (by rw [hr]; rfl)
    rcases hends.cases with ⟨-, hnever⟩ | ⟨frames, hreturned, rfl⟩
    · exact hnever
    · have hframe := howned _ hreturned _ List.mem_cons_self
      rw [rejected_owned_iff hinitiator, hdirection] at hframe
      cases hframe
  · intro htakes frames hreturned frame hframe
    have hyields := ((call.perform_within env m : Ends _ _ _ _).returned hreturned).2 frame hframe
    rcases hyields with ⟨m', hreach, hyields⟩ | ⟨form, streamID, firstBytes, rfl, rfl⟩
    · obtain ⟨hknown', hmade'⟩ := steps_made hreach ⟨hknown, hmade⟩
      exact yields_owned hknown' hmade' hyields
    · by_cases hrefused : m.RefusesStream env form streamID firstBytes
      · obtain ⟨_, _, _, hallow, -⟩ := id hrefused
        obtain ⟨-, hdirection, hinitiator, -⟩ := admitPeerStream_ok hallow
        rw [hmade.role_eq] at hinitiator
        rw [rejected_owned_iff hinitiator, hdirection]
        cases form with
        | bidirectional => rfl
        | unidirectional => exact absurd hrefused htakes
      · have hends : Ends ((ManagerCall.acceptStreamWithActions form streamID
            firstBytes).perform env) m (fun _ _ => True) fun frames _ => frames = [] :=
          Ends.bind (acceptStreamWithActions_takes hrefused) fun r _ hr =>
            Ends.pure (by rw [hr]; rfl)
        rw [hends.returned hreturned] at hframe
        cases hframe

/-- A client opens a stream of either form. -/
def openingCalls : List ManagerCall :=
  [.receivePeerControlStream draftControlStream, .makeClientSessionRequest 0 connectRequest false,
    .receiveServerSessionResponse 0 (connectResponse true), .openStream .bidirectional 4 0,
    .openStream .unidirectional 2 0]

/-- A client ends a session with a stream of either form, and aborts the three halves that it
owns. -/
theorem abortsOwned_close : ∃ frames,
    returned? ((ManagerCall.makeCloseSessionCapsule 0 7 []).perform connectEnv)
      (performAll (ManagerCall.perform connectEnv) openingCalls (draftManager .client)) =
        some frames ∧
      frames.length = 5 ∧ ∀ frame ∈ frames, frame.OwnedBy .client := by
  refine ⟨[.stream 0 none true [], .stopSending 0 wtSessionGoneError,
    .resetStreamAt 2 wtSessionGoneError 0 0, .resetStreamAt 4 wtSessionGoneError 0 0,
    .stopSending 4 wtSessionGoneError], by decide +kernel, rfl, ?_⟩
  exact (abortsOwned_iff connectEnv { role := .client, localSettings := draftSettings }
    (run_performAll _ openingCalls _) (.makeCloseSessionCapsule 0 7 [])).mpr (fun h => h) _
    (by decide +kernel)

/-- A server that has no room for another unidirectional stream of a session that it does not know
yet resets the half that the client sends on. -/
theorem refused_notOwned : ¬∀ (env : ManagerEnv) (http3 : HTTP3ConnectionState)
    (m : WebTransportSessionManager),
    Run (ManagerCall.perform env) (fun _ _ => True) (start http3) m →
      ∀ call : ManagerCall, call.AbortsOwned env http3.role m := by
  intro hall
  have hrun := run_performAll (ManagerCall.perform connectEnv)
    (.receivePeerControlStream draftControlStream :: [2, 6, 10, 14].map fun streamID =>
      .acceptStreamWithActions .unidirectional streamID [0x40, 0x54, 0x00]) (draftManager .server)
  have howned := hall connectEnv { role := .server, localSettings := draftSettings } _ hrun
    (.acceptStreamWithActions .unidirectional 18 [0x40, 0x54, 0x00])
    [bufferedStreamRejectedFrame 18] (by decide +kernel) _ List.mem_cons_self
  revert howned
  show ¬(_ = true)
  decide

/-- **What a manager keeps is its own.** In every run, whatever is called, the role stays; a session
is kept under the number of its request stream, which a client opens in both directions and which
HTTP/3 knows; and a stream, live or buffered, is kept under its number and was made in the role. -/
theorem manager_keepsItsOwn {env : ManagerEnv} {http3 : HTTP3ConnectionState}
    {m : WebTransportSessionManager}
    (hrun : Run (ManagerCall.perform env) (fun _ _ => True) (start http3) m) :
    m.http3.role = http3.role ∧
      (∀ id session, m.sessionsByID.get? id = some session →
        session.id = id ∧ session.requestStreamID = id ∧ fromRequestStreamID id = .ok id ∧
          (m.http3.requestStreams.get? id).isSome) ∧
      ∀ id stream, m.HasStream id stream → stream.streamID = id ∧ stream.MadeBy http3.role := by
  obtain ⟨hknown, hmade⟩ := run_made hrun
  refine ⟨hmade.role_eq, fun id session hsession => ?_, hmade.made⟩
  obtain ⟨hrequest, hkind⟩ := hknown.stream _ _ hsession
  exact ⟨hknown.keyed _ _ hsession, hknown.request _ _ hsession, hkind, hrequest⟩

/-- A client's session 0 is on its request stream 0. -/
theorem manager_keepsItsOwn_opening : ∃ session,
    (performAll (ManagerCall.perform connectEnv) openingCalls (draftManager .client)).sessionsByID.get?
      0 = some session ∧ session.requestStreamID = 0 := by
  obtain ⟨session, hsession⟩ : ∃ session, (performAll (ManagerCall.perform connectEnv) openingCalls
      (draftManager .client)).sessionsByID.get? 0 = some session :=
    Option.isSome_iff_exists.mp (by decide +kernel)
  have hrun := run_performAll (ManagerCall.perform connectEnv) openingCalls (draftManager .client)
  exact ⟨session, hsession, ((manager_keepsItsOwn hrun).2.1 0 session hsession).2.1⟩

end WebTransport
