import WebTransport.Swift.StepsOfCalls

/-!
# What the parts of the session manager leave alone

Ending the streams of a session changes what the manager knows of streams only, and recording a
session that ended releases the sessions that ended first.
-/

namespace WebTransport

open Throwing

namespace WebTransportSessionManager

variable {env : ManagerEnv} {m m' m'' : WebTransportSessionManager} {sessionID streamID : ℕ}

/-! ## The connection -/

/-- What the peer's control stream says of GOAWAY is what its frames after SETTINGS say. -/
lemma receivePeerControlStream_ok {c c' : HTTP3ConnectionState} {bytes : List UInt8}
    {validation : HTTP3WebTransportSettingsValidation} {frames : List HTTP3Frame}
    (h : c.receivePeerControlStream bytes validation = .ok (frames, c')) :
    ∃ first rest settings goawayID, frames = first :: rest ∧
      HTTP3ConnectionState.scanControlFrames rest c.receivedGoawayID = .ok goawayID ∧
      c' = { c with
        remoteSettings := some settings
        receivedGoawayID := goawayID
        receivedPeerControlStream := true } := by
  unfold HTTP3ConnectionState.receivePeerControlStream at h
  split_ifs at h
  obtain ⟨⟨type, remaining⟩, -, h⟩ := bind_ok h
  simp only at h
  split_ifs at h
  obtain ⟨decoded, -, h⟩ := bind_ok h
  cases decoded with
  | nil => cases h
  | cons first rest =>
    simp only at h
    split_ifs at h
    obtain ⟨settings, -, h⟩ := bind_ok h
    obtain ⟨_, -, h⟩ := bind_ok h
    obtain ⟨goawayID, hscan, h⟩ := bind_ok h
    obtain ⟨rfl, rfl⟩ := Prod.mk.inj (Except.ok.inj h)
    exact ⟨first, rest, settings, goawayID, rfl, hscan, rfl⟩

/-- A frame of the control stream says something of GOAWAY or nothing. -/
lemma receiveControlFrame_ok {c c' : HTTP3ConnectionState} {frame : HTTP3Frame}
    (h : c.receiveControlFrame frame = .ok c') :
    c' = c ∨ ∃ id, frame.type = HTTP3FrameType.goaway ∧ frame.singleVarIntPayload = .ok id ∧
      c' = { c with receivedGoawayID := some id } := by
  unfold HTTP3ConnectionState.receiveControlFrame at h
  split_ifs at h with hsettings hgoaway hrequest
  · obtain ⟨id, hid, h⟩ := bind_ok h
    refine .inr ⟨id, hgoaway, ?_, (Except.ok.inj h).symm⟩
    cases hpayload : frame.singleVarIntPayload with
    | error e =>
      rw [hpayload] at hid
      cases hid
    | ok value =>
      rw [hpayload] at hid
      exact congrArg _ (Except.ok.inj hid)
  · exact .inl (Except.ok.inj h).symm

/-! ## Streams -/

/-- A manager that differs in what it knows of streams only. -/
structure StreamsOnly (m m' : WebTransportSessionManager) : Prop where
  same : m' = { m with
    streamsByID := m'.streamsByID
    streamIDsBySessionID := m'.streamIDsBySessionID
    bufferedStreamsByID := m'.bufferedStreamsByID
    bufferedStreamIDsBySessionID := m'.bufferedStreamIDsBySessionID
    closedStreamSessionIDsByStreamID := m'.closedStreamSessionIDsByStreamID
    closedStreamOrder := m'.closedStreamOrder
    closedStreamHead := m'.closedStreamHead
    retainedClosedStreamIDs := m'.retainedClosedStreamIDs }

namespace StreamsOnly

lemma refl (m : WebTransportSessionManager) : m.StreamsOnly m := ⟨rfl⟩

lemma trans (h : m.StreamsOnly m') (h' : m'.StreamsOnly m'') : m.StreamsOnly m'' := by
  constructor
  rw [h'.same, h.same]

end StreamsOnly

/-- A manager that differs in what it remembers of streams that ended. -/
structure TombstonesOnly (m m' : WebTransportSessionManager) : Prop where
  same : m' = { m with
    closedStreamSessionIDsByStreamID := m'.closedStreamSessionIDsByStreamID
    closedStreamOrder := m'.closedStreamOrder
    closedStreamHead := m'.closedStreamHead
    retainedClosedStreamIDs := m'.retainedClosedStreamIDs }

namespace TombstonesOnly

lemma trans (h : m.TombstonesOnly m') (h' : m'.TombstonesOnly m'') : m.TombstonesOnly m'' := by
  constructor
  rw [h'.same, h.same]

lemma streamsOnly (h : m.TombstonesOnly m') : m.StreamsOnly m' := by
  constructor
  rw [h.same]

end TombstonesOnly

lemma evictClosedStreams_tombstonesOnly (limit rounds : ℕ) :
    m.TombstonesOnly (evictClosedStreams limit rounds m) := by
  induction rounds generalizing m with
  | zero => exact ⟨rfl⟩
  | succ rounds ih =>
    unfold evictClosedStreams
    split_ifs
    · split
      · exact ⟨rfl⟩
      · exact .trans ⟨rfl⟩ ih
    · exact ⟨rfl⟩

lemma compactClosedStreamOrder_tombstonesOnly : m.TombstonesOnly m.compactClosedStreamOrder := by
  unfold compactClosedStreamOrder
  split_ifs
  · exact ⟨rfl⟩
  · exact ⟨rfl⟩
  · exact ⟨rfl⟩

lemma tombstone_tombstonesOnly : m.TombstonesOnly (m.tombstone env sessionID streamID) := by
  unfold tombstone recordClosedStream
  split_ifs
  · exact ⟨rfl⟩
  · exact .trans (.trans ⟨rfl⟩ (evictClosedStreams_tombstonesOnly _ _))
      compactClosedStreamOrder_tombstonesOnly

lemma tombstone_streamsOnly : m.StreamsOnly (m.tombstone env sessionID streamID) :=
  tombstone_tombstonesOnly.streamsOnly

lemma dropStream_streamsOnly (buffered : Bool) :
    m.StreamsOnly (m.dropStream buffered streamID) := by
  unfold dropStream
  split_ifs
  · exact ⟨rfl⟩
  · exact ⟨rfl⟩

lemma terminateStreams_streamsOnly (buffered : Bool) (streamIDs : List ℕ) (frames : AbortFrames) :
    m.StreamsOnly (terminateStreams env buffered sessionID streamIDs frames m).2 := by
  induction streamIDs generalizing m frames with
  | nil => exact .refl m
  | cons streamID rest ih =>
    unfold terminateStreams
    split
    · exact ih frames
    · exact .trans (.trans tombstone_streamsOnly (dropStream_streamsOnly buffered)) (ih _)

lemma terminateAssociatedStreams_streamsOnly (requestStreamID : ℕ) :
    m.StreamsOnly (m.terminateAssociatedStreams env sessionID requestStreamID).2 :=
  .trans (.trans (terminateStreams_streamsOnly false _ _) (terminateStreams_streamsOnly true _ _))
    ⟨rfl⟩

/-- A stream that waits is remembered, and dropped. -/
lemma discardStream_eq : m.discardStream env sessionID streamID =
    (m.tombstone env sessionID streamID).dropStream true streamID := by
  have hheld : (m.tombstone env sessionID streamID).bufferedStreamsByID =
      m.bufferedStreamsByID := by
    rw [tombstone_tombstonesOnly.same]
  unfold discardStream dropStream
  rw [if_pos rfl, hheld]

lemma discardStream_streamsOnly : m.StreamsOnly (m.discardStream env sessionID streamID) :=
  .trans tombstone_streamsOnly ⟨rfl⟩

/-- What waits for a session is dropped: streams, and then datagrams. -/
lemma discardBufferedIngress_eq (env : ManagerEnv) (m : WebTransportSessionManager)
    (sessionID : ℕ) : ∃ m', m.StreamsOnly m' ∧
    m.discardBufferedIngress env sessionID = m'.clearIngress sessionID := by
  refine ⟨_, ?_, rfl⟩
  generalize (env.enumerate (m.bufferedStreamIDs sessionID)).1 = streamIDs
  induction streamIDs generalizing m with
  | nil => exact .refl m
  | cons streamID rest ih => exact .trans discardStream_streamsOnly (ih _)

/-! ## Sessions -/

/-- A manager whose dictionary has a session is another one. -/
lemma get?_store {session : WebTransportSession} {id : ℕ} :
    (m.store session).sessionsByID.get? id =
      if id = session.id then some session else m.sessionsByID.get? id :=
  Dictionary.get?_insert

lemma releaseSessionState_some {session : WebTransportSession}
    (h : m.sessionsByID.get? sessionID = some session) :
    (m.releaseSessionState sessionID).sessionsByID = m.sessionsByID.erase sessionID ∧
      (m.releaseSessionState sessionID).released = m.released ++ [session] := by
  unfold releaseSessionState
  rw [h]
  exact ⟨rfl, rfl⟩

/-- A session is stored as closed, its streams end, and it is recorded. -/
lemma closeSession_eq (env : ManagerEnv) (m : WebTransportSessionManager) (sessionID : ℕ)
    (session : WebTransportSession) (applicationErrorCode : ℕ) (message : List UInt8)
    (closeCapsuleReceived : Bool) : ∃ m',
    (m.storeClosed session sessionID applicationErrorCode message closeCapsuleReceived).StreamsOnly
      m' ∧
    (m.closeSession env session sessionID applicationErrorCode message closeCapsuleReceived).2 =
      (m'.clearDatagrams sessionID).recordClosedSession env sessionID :=
  ⟨_, terminateAssociatedStreams_streamsOnly session.requestStreamID, rfl⟩

/-! ## The connection is left alone -/

/-- A manager that differs in what belongs to sessions, not in its connection or its streams. -/
structure ReleasesOnly (m m' : WebTransportSessionManager) : Prop where
  same : m' = { m' with
    http3 := m.http3
    streamsByID := m.streamsByID
    bufferedStreamsByID := m.bufferedStreamsByID
    closedStreamSessionIDsByStreamID := m.closedStreamSessionIDsByStreamID
    closedStreamOrder := m.closedStreamOrder
    closedStreamHead := m.closedStreamHead
    retainedClosedStreamIDs := m.retainedClosedStreamIDs }

lemma ReleasesOnly.trans (h : m.ReleasesOnly m') (h' : m'.ReleasesOnly m'') :
    m.ReleasesOnly m'' := by
  constructor
  rw [h'.same, h.same]

lemma releaseSessionState_releasesOnly : m.ReleasesOnly (m.releaseSessionState sessionID) := by
  unfold releaseSessionState
  split
  · exact ⟨rfl⟩
  · exact ⟨rfl⟩

lemma evictClosedSessions_releasesOnly (limit : ℕ) (order : List ℕ) :
    m.ReleasesOnly (evictClosedSessions limit order m) := by
  induction order generalizing m with
  | nil => exact ⟨rfl⟩
  | cons oldest rest ih =>
    unfold evictClosedSessions
    split_ifs
    · exact releaseSessionState_releasesOnly.trans ih
    · exact ⟨rfl⟩

lemma recordClosedSession_releasesOnly : m.ReleasesOnly (m.recordClosedSession env sessionID) :=
  evictClosedSessions_releasesOnly _ _

lemma recordClosedSession_http3 : (m.recordClosedSession env sessionID).http3 = m.http3 := by
  rw [recordClosedSession_releasesOnly.same]

lemma closeSession_http3 (session : WebTransportSession) (applicationErrorCode : ℕ)
    (message : List UInt8) (closeCapsuleReceived : Bool) :
    (m.closeSession env session sessionID applicationErrorCode message
      closeCapsuleReceived).2.http3 = m.http3 := by
  obtain ⟨m', hstreams, heq⟩ := closeSession_eq env m sessionID session applicationErrorCode message
    closeCapsuleReceived
  rw [heq, recordClosedSession_http3]
  show m'.http3 = m.http3
  rw [hstreams.same]
  rfl

lemma discardBufferedIngress_http3 :
    (m.discardBufferedIngress env sessionID).http3 = m.http3 := by
  obtain ⟨m', hstreams, heq⟩ := discardBufferedIngress_eq env m sessionID
  rw [heq]
  show m'.http3 = m.http3
  rw [hstreams.same]

lemma setCredit_http3 (receiveSide : Bool) (state : WebTransportFlowControlState) :
    (m.setCredit receiveSide sessionID state).http3 = m.http3 := by
  cases receiveSide
  · rfl
  · rfl

lemma enqueueBlockedFlowCapsule_http3 (capsule : Option WebTransportFlowCapsule) :
    (m.enqueueBlockedFlowCapsule capsule sessionID).http3 = m.http3 := by
  cases capsule
  · rfl
  · rfl

/-- A step changes of the connection its request streams only, unless it announces or hears. -/
theorem step_moreStreams {L : StepLimits} (hannounces : ¬L.announces) (hhears : ¬L.hears)
    (hstep : ManagerStep env L m m') : m.http3.MoreStreams m'.http3 := by
  have hsame : ∀ {http3 : HTTP3ConnectionState}, http3 = m.http3 → m.http3.MoreStreams http3 := by
    rintro _ rfl
    exact ⟨rfl, fun _ h => h⟩
  cases hstep with
  | goawaySent hallowed => exact absurd hallowed hannounces
  | controlReceived hallowed => exact absurd hallowed hhears
  | goawayReceived hallowed => exact absurd hallowed hhears
  | requestStreams hmore => exact hmore
  | begun hmore => exact hmore
  | discarded => exact hsame (recordClosedSession_http3.trans discardBufferedIngress_http3)
  | closed => exact hsame (closeSession_http3 _ _ _ _)
  | received => exact hsame (setCredit_http3 _ _)
  | spent => exact hsame (setCredit_http3 _ _)
  | refused _ capsule =>
    exact hsame ((setCredit_http3 _ _).trans (enqueueBlockedFlowCapsule_http3 capsule))
  | raised => exact hsame (setCredit_http3 _ _)
  | drainedAll => exact hsame rfl
  | answered => exact hsame rfl
  | promoted => exact hsame rfl
  | promotionDone => exact hsame rfl
  | drained => exact hsame rfl
  | registered => exact hsame rfl
  | held => exact hsame rfl
  | streamSet => exact hsame rfl
  | datagramPushed => exact hsame rfl
  | datagramPopped => exact hsame rfl
  | capsulesSet => exact hsame rfl

end WebTransportSessionManager

end WebTransport
