import WebTransport.Swift.ManagerFrames

/-!
# The sessions that a manager knows

A session has the ID of its request stream, which a client opened and the connection knows. This
holds in every run, so that no session has the ID of another one before it.
-/

namespace WebTransport

open Throwing

namespace WebTransportSessionManager

variable {env : ManagerEnv} {L : StepLimits} {m m' m'' : WebTransportSessionManager}
  {sessionID : ℕ} {session : WebTransportSession}

/-- Sessions have the IDs of their request streams, which are known. -/
structure Known (m : WebTransportSessionManager) : Prop where
  keyed : ∀ id session, m.sessionsByID.get? id = some session → session.id = id
  request : ∀ id session, m.sessionsByID.get? id = some session → session.requestStreamID = id
  stream : ∀ id session, m.sessionsByID.get? id = some session →
    (m.http3.requestStreams.get? id).isSome ∧ fromRequestStreamID id = .ok id
  connect : ∀ streamID id, m.sessionIDsByRequestStreamID.get? streamID = some id →
    fromRequestStreamID streamID = .ok streamID

lemma Known.requestStream (hm : m.Known) (hsession : m.sessionsByID.get? sessionID = some session) :
    fromRequestStreamID session.requestStreamID = .ok session.requestStreamID := by
  rw [hm.request _ _ hsession]
  exact (hm.stream _ _ hsession).2

/-- A manager with no other sessions than before, as far as their IDs go. -/
structure FewerSessions (m m' : WebTransportSessionManager) : Prop where
  streams : ∀ id, (m.http3.requestStreams.get? id).isSome →
    (m'.http3.requestStreams.get? id).isSome
  sessions : ∀ id session', m'.sessionsByID.get? id = some session' →
    ∃ session, m.sessionsByID.get? id = some session ∧ session'.id = session.id ∧
      session'.requestStreamID = session.requestStreamID
  connect : ∀ streamID id, m'.sessionIDsByRequestStreamID.get? streamID = some id →
    m.sessionIDsByRequestStreamID.get? streamID = some id

namespace FewerSessions

lemma refl (m : WebTransportSessionManager) : m.FewerSessions m where
  streams _ h := h
  sessions _ session h := ⟨session, h, rfl, rfl⟩
  connect _ _ h := h

lemma trans (h : m.FewerSessions m') (h' : m'.FewerSessions m'') : m.FewerSessions m'' where
  streams id hid := h'.streams id (h.streams id hid)
  sessions id session'' hget'' := by
    obtain ⟨session', hget', hid', hrequest'⟩ := h'.sessions id session'' hget''
    obtain ⟨session, hget, hid, hrequest⟩ := h.sessions id session' hget'
    exact ⟨session, hget, hid'.trans hid, hrequest'.trans hrequest⟩
  connect streamID id hget := h.connect streamID id (h'.connect streamID id hget)

lemma of_same (hhttp3 : m'.http3.requestStreams = m.http3.requestStreams)
    (hsessions : m'.sessionsByID = m.sessionsByID)
    (hconnect : m'.sessionIDsByRequestStreamID = m.sessionIDsByRequestStreamID) :
    m.FewerSessions m' where
  streams id h := by rw [hhttp3]; exact h
  sessions id session h := ⟨session, hsessions ▸ h, rfl, rfl⟩
  connect streamID id h := hconnect ▸ h

lemma of_moreStreams {http3 : HTTP3ConnectionState} (h : m.http3.MoreStreams http3) :
    m.FewerSessions { m with http3 := http3 } where
  streams := h.more
  sessions _ session h := ⟨session, h, rfl, rfl⟩
  connect _ _ h := h

lemma of_streamsOnly (h : m.StreamsOnly m') : m.FewerSessions m' := by
  refine of_same ?_ ?_ ?_
  · rw [h.same]
  · rw [h.same]
  · rw [h.same]

lemma known (h : m.FewerSessions m') (hm : m.Known) : m'.Known where
  keyed id session' hget' := by
    obtain ⟨session, hget, hid, -⟩ := h.sessions id session' hget'
    exact hid.trans (hm.keyed id session hget)
  request id session' hget' := by
    obtain ⟨session, hget, -, hrequest⟩ := h.sessions id session' hget'
    exact hrequest.trans (hm.request id session hget)
  stream id session' hget' := by
    obtain ⟨session, hget, -, -⟩ := h.sessions id session' hget'
    obtain ⟨hstream, hid⟩ := hm.stream id session hget
    exact ⟨h.streams id hstream, hid⟩
  connect streamID id hget := hm.connect streamID id (h.connect streamID id hget)

end FewerSessions

/-! ## Releasing -/

lemma releaseSessionState_fewer : m.FewerSessions (m.releaseSessionState sessionID) := by
  unfold releaseSessionState
  split
  · exact .of_same rfl rfl rfl
  · refine ⟨fun _ h => h, fun id session' h => ?_, fun streamID id h => ?_⟩
    · rw [Dictionary.get?_erase] at h
      split_ifs at h
      exact ⟨session', h, rfl, rfl⟩
    · rw [Dictionary.get?_erase] at h
      split_ifs at h
      exact h

lemma evictClosedSessions_fewer (limit : ℕ) (order : List ℕ) :
    m.FewerSessions (evictClosedSessions limit order m) := by
  induction order generalizing m with
  | nil => exact .of_same rfl rfl rfl
  | cons oldest rest ih =>
    unfold evictClosedSessions
    split_ifs
    · exact releaseSessionState_fewer.trans ih
    · exact .of_same rfl rfl rfl

lemma recordClosedSession_fewer : m.FewerSessions (m.recordClosedSession env sessionID) :=
  evictClosedSessions_fewer _ _

lemma setSession_fewer {session' : WebTransportSession}
    (hsession : m.sessionsByID.get? sessionID = some session) (hid : session'.id = session.id)
    (hrequest : session'.requestStreamID = session.requestStreamID) :
    m.FewerSessions (m.setSession sessionID session') where
  streams _ h := h
  sessions id s' h := by
    have hget : (m.setSession sessionID session').sessionsByID.get? id =
        if id = sessionID then some session' else m.sessionsByID.get? id := Dictionary.get?_insert
    rw [hget] at h
    split_ifs at h with hkey
    · obtain rfl := Option.some.inj h
      exact ⟨session, hkey ▸ hsession, hid, hrequest⟩
    · exact ⟨s', h, rfl, rfl⟩
  connect _ _ h := h

lemma storeClosed_fewer (hsession : m.sessionsByID.get? sessionID = some session)
    (applicationErrorCode : ℕ) (message : List UInt8) (closeCapsuleReceived : Bool) :
    m.FewerSessions (m.storeClosed session sessionID applicationErrorCode message
      closeCapsuleReceived) :=
  (setSession_fewer hsession rfl rfl : m.FewerSessions (m.setSession sessionID
    { session with state := .closed applicationErrorCode message })).trans (.of_same rfl rfl rfl)

lemma closeSession_fewer (hsession : m.sessionsByID.get? sessionID = some session)
    (applicationErrorCode : ℕ) (message : List UInt8) (closeCapsuleReceived : Bool) :
    m.FewerSessions (m.closeSession env session sessionID applicationErrorCode message
      closeCapsuleReceived).2 := by
  obtain ⟨m', hstreams, heq⟩ := closeSession_eq env m sessionID session applicationErrorCode message
    closeCapsuleReceived
  have hclosed := (storeClosed_fewer hsession applicationErrorCode message
    closeCapsuleReceived).trans (.of_streamsOnly hstreams)
  have hcleared : m'.FewerSessions (m'.clearDatagrams sessionID) := .of_same rfl rfl rfl
  rw [heq]
  exact hclosed.trans (hcleared.trans recordClosedSession_fewer)

lemma discardBufferedIngress_fewer : m.FewerSessions (m.discardBufferedIngress env sessionID) := by
  obtain ⟨m', hstreams, heq⟩ := discardBufferedIngress_eq env m sessionID
  rw [heq]
  exact (FewerSessions.of_streamsOnly hstreams).trans (.of_same rfl rfl rfl)

lemma drainSessions_fewer : m.FewerSessions m.drainSessions where
  streams _ h := h
  sessions id session' h := by
    have hget : m.drainSessions.sessionsByID.get? id = (m.sessionsByID.get? id).map fun session =>
        if session.state = .accepted then { session with state := .draining } else session :=
      Dictionary.get?_mapValues
    rw [hget] at h
    obtain ⟨session, hsession, rfl⟩ := Option.map_eq_some_iff.mp h
    refine ⟨session, hsession, ?_, ?_⟩
    · split_ifs <;> rfl
    · split_ifs <;> rfl
  connect _ _ h := h

lemma setCredit_fewer (receiveSide : Bool) (state : WebTransportFlowControlState) :
    m.FewerSessions (m.setCredit receiveSide sessionID state) := by
  cases receiveSide
  · exact .of_same rfl rfl rfl
  · exact .of_same rfl rfl rfl

lemma enqueueBlockedFlowCapsule_fewer (capsule : Option WebTransportFlowCapsule) :
    m.FewerSessions (m.enqueueBlockedFlowCapsule capsule sessionID) := by
  cases capsule
  · exact .refl m
  · exact .of_same rfl rfl rfl

/-! ## Storing -/

/-- A session is stored under its ID, which is that of its request stream. -/
lemma store_known (http3 : HTTP3ConnectionState) (hm : m.Known)
    (hstreams : ∀ id, (m.http3.requestStreams.get? id).isSome →
      (http3.requestStreams.get? id).isSome)
    (hstream : (http3.requestStreams.get? session.id).isSome)
    (hrequest : session.requestStreamID = session.id)
    (hid : fromRequestStreamID session.id = .ok session.id) :
    (({ m with http3 := http3 } : WebTransportSessionManager).store session).Known := by
  have hget : ∀ id, (({ m with http3 := http3 } : WebTransportSessionManager).store
      session).sessionsByID.get? id =
        if id = session.id then some session else m.sessionsByID.get? id := fun id => get?_store
  refine ⟨?_, ?_, ?_, ?_⟩
  · intro id s h
    rw [hget] at h
    split_ifs at h with hkey
    · obtain rfl := Option.some.inj h
      exact hkey.symm
    · exact hm.keyed id s h
  · intro id s h
    rw [hget] at h
    split_ifs at h with hkey
    · obtain rfl := Option.some.inj h
      exact hrequest.trans hkey.symm
    · exact hm.request id s h
  · intro id s h
    rw [hget] at h
    split_ifs at h with hkey
    · rw [hkey]
      exact ⟨hstream, hid⟩
    · exact ⟨hstreams id (hm.stream id s h).1, (hm.stream id s h).2⟩
  · intro streamID id h
    have hconnect : (({ m with http3 := http3 } : WebTransportSessionManager).store
        session).sessionIDsByRequestStreamID.get? streamID =
          if streamID = session.requestStreamID then some session.id
          else m.sessionIDsByRequestStreamID.get? streamID := Dictionary.get?_insert
    rw [hconnect] at h
    split_ifs at h with hkey
    · rw [hkey, hrequest]
      exact hid
    · exact hm.connect streamID id h

/-! ## Steps and runs -/

/-- Every step keeps what is known of sessions, and request streams. -/
theorem step_known (hstep : ManagerStep env L m m') (hm : m.Known) :
    m'.Known ∧ ∀ id, (m.http3.requestStreams.get? id).isSome →
      (m'.http3.requestStreams.get? id).isSome := by
  have hfewer : ∀ {m' : WebTransportSessionManager}, m.FewerSessions m' → m'.Known ∧
      ∀ id, (m.http3.requestStreams.get? id).isSome →
        (m'.http3.requestStreams.get? id).isSome := fun h => ⟨h.known hm, h.streams⟩
  cases hstep with
  | goawaySent => exact hfewer (.of_same rfl rfl rfl)
  | controlReceived _ hreceive =>
    obtain ⟨_, _, _, _, -, -, rfl⟩ := receivePeerControlStream_ok hreceive
    exact hfewer (.of_same rfl rfl rfl)
  | goawayReceived _ hreceive =>
    obtain rfl | ⟨_, -, -, rfl⟩ := receiveControlFrame_ok hreceive
    · exact hfewer (.of_same rfl rfl rfl)
    · exact hfewer (.of_same rfl rfl rfl)
  | drainedAll => exact hfewer drainSessions_fewer
  | requestStreams hmore => exact hfewer (.of_moreStreams hmore)
  | begun hmore _ hstream hrequest hid =>
    exact ⟨store_known _ hm hmore.more hstream hrequest hid, hmore.more⟩
  | @answered _ old hold selected state =>
    have hkey := hm.keyed _ _ hold
    obtain ⟨hstream, hid⟩ := hm.stream _ _ hold
    rw [← hkey] at hstream hid
    exact ⟨store_known m.http3 hm (fun _ h => h) hstream
      ((hm.request _ _ hold).trans hkey.symm) hid, fun _ h => h⟩
  | promoted => exact hfewer (.of_same rfl rfl rfl)
  | promotionDone => exact hfewer (.of_same rfl rfl rfl)
  | discarded => exact hfewer (discardBufferedIngress_fewer.trans recordClosedSession_fewer)
  | drained hsession => exact hfewer (setSession_fewer hsession rfl rfl)
  | closed hsession => exact hfewer (closeSession_fewer hsession _ _ _)
  | received => exact hfewer (setCredit_fewer _ _)
  | spent => exact hfewer (setCredit_fewer _ _)
  | refused => exact hfewer ((enqueueBlockedFlowCapsule_fewer _).trans (setCredit_fewer _ _))
  | raised => exact hfewer (setCredit_fewer _ _)
  | registered => exact hfewer (.of_same rfl rfl rfl)
  | held => exact hfewer (.of_same rfl rfl rfl)
  | streamSet => exact hfewer (.of_same rfl rfl rfl)
  | datagramPushed => exact hfewer (.of_same rfl rfl rfl)
  | datagramPopped => exact hfewer (.of_same rfl rfl rfl)
  | capsulesSet => exact hfewer (.of_same rfl rfl rfl)

lemma start_known (http3 : HTTP3ConnectionState) : (start http3).Known where
  keyed _ _ h := by cases h
  request _ _ h := by cases h
  stream _ _ h := by cases h
  connect _ _ h := by cases h

end WebTransportSessionManager

end WebTransport
