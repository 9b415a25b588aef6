import WebTransport.Swift.ManagerFrames

/-!
# The order of the states of a session

A session is requested, accepted, draining and closed, in this order, or it is requested and
rejected, and the sessions that are remembered to have ended have ended. This holds where every
response that is taken meets a session that is requested, or says what the session is already;
nothing checks that, and a late response revives a session that was closed.
-/

namespace WebTransport

open Throwing

namespace WebTransportSessionState

/-- Whether the session has ended. -/
def IsEnded : WebTransportSessionState → Prop
  | closed .. | rejected _ => True
  | _ => False

/-- The orders in which a session may go through its states. -/
inductive Advances : WebTransportSessionState → WebTransportSessionState → Prop
  | same (state : WebTransportSessionState) : Advances state state
  | accepted : Advances requested accepted
  | draining {state : WebTransportSessionState} (h : state.IsLive) : Advances state draining
  | closed {state : WebTransportSessionState} (h : state.IsLive) (code : ℕ)
    (message : List UInt8) : Advances state (closed code message)
  | rejected (status : ℕ) : Advances requested (rejected status)

variable {s s' s'' : WebTransportSessionState}

lemma Advances.isLive (h : Advances s s') (hlive : s'.IsLive) : s.IsLive := by
  cases h with
  | same => exact hlive
  | accepted => trivial
  | draining h => exact h
  | closed h => exact h
  | rejected => exact hlive.elim

lemma Advances.trans (h : Advances s s') (h' : Advances s' s'') : Advances s s'' := by
  cases h' with
  | same => exact h
  | accepted =>
    cases h with
    | same => exact .accepted
  | draining hlive => exact .draining (h.isLive hlive)
  | closed hlive => exact .closed (h.isLive hlive) _ _
  | rejected status =>
    cases h with
    | same => exact .rejected status

/-- What has ended stays as it is. -/
lemma Advances.eq_of_isEnded (h : Advances s s') (hended : s.IsEnded) : s' = s := by
  cases h with
  | same => rfl
  | accepted => exact hended.elim
  | draining hlive => cases s <;> first | exact hended.elim | exact hlive.elim
  | closed hlive => cases s <;> first | exact hended.elim | exact hlive.elim
  | rejected => exact hended.elim

end WebTransportSessionState

/-- A response that the checks of its call let through meets a session that is requested, or says
what the session is already. -/
def ManagerCall.MeetsRequested (env : ManagerEnv) (m : WebTransportSessionManager)
    (call : ManagerCall) : Prop :=
  ∀ old new, call.Answers env m old new → old = .requested ∨ old = new

namespace WebTransportSessionManager

variable {env : ManagerEnv} {L : StepLimits} {m m' m'' : WebTransportSessionManager}
  {sessionID : ℕ} {session : WebTransportSession}

/-! ## What is kept -/

/-- Sessions have their IDs and request streams, and those that are recorded or released have
ended. -/
structure Orderly (m : WebTransportSessionManager) : Prop where
  keyed : ∀ id session, m.sessionsByID.get? id = some session → session.id = id
  known : ∀ id session, m.sessionsByID.get? id = some session →
    (m.http3.requestStreams.get? id).isSome
  ended : ∀ id ∈ m.closedSessionOrder,
    ∃ session, m.sessionsByID.get? id = some session ∧ session.state.IsEnded
  nodup : m.closedSessionOrder.Nodup
  released : ∀ session ∈ m.released, session.state.IsEnded

/-- Sessions advance, and the ID of a session that is gone is not used again. -/
structure Forward (m m' : WebTransportSessionManager) : Prop where
  streams : ∀ id, (m.http3.requestStreams.get? id).isSome →
    (m'.http3.requestStreams.get? id).isSome
  advances : ∀ id session session', m.sessionsByID.get? id = some session →
    m'.sessionsByID.get? id = some session' → session.state.Advances session'.state
  gone : ∀ id, (m.http3.requestStreams.get? id).isSome → m.sessionsByID.get? id = none →
    m'.sessionsByID.get? id = none

/-- A manager whose sessions are the same. -/
structure SameSessions (m m' : WebTransportSessionManager) : Prop where
  streams : ∀ id, (m.http3.requestStreams.get? id).isSome →
    (m'.http3.requestStreams.get? id).isSome
  sessions : m'.sessionsByID = m.sessionsByID
  order : m'.closedSessionOrder = m.closedSessionOrder
  released : m'.released = m.released

namespace SameSessions

lemma refl (m : WebTransportSessionManager) : m.SameSessions m := ⟨fun _ h => h, rfl, rfl, rfl⟩

lemma of_http3 (hhttp3 : m'.http3 = m.http3) (hsessions : m'.sessionsByID = m.sessionsByID)
    (horder : m'.closedSessionOrder = m.closedSessionOrder) (hreleased : m'.released = m.released) :
    m.SameSessions m' :=
  ⟨fun _ h => by rw [hhttp3]; exact h, hsessions, horder, hreleased⟩

lemma of_streamsOnly (h : m.StreamsOnly m') : m.SameSessions m' := by
  refine of_http3 ?_ ?_ ?_ ?_
  · rw [h.same]
  · rw [h.same]
  · rw [h.same]
  · rw [h.same]

lemma forward (h : m.SameSessions m') : m.Forward m' where
  streams := h.streams
  advances id session session' hget hget' := by
    rw [h.sessions, hget] at hget'
    obtain rfl := Option.some.inj hget'
    exact .same _
  gone id _ hnone := by
    rw [h.sessions]
    exact hnone

lemma orderly (h : m.SameSessions m') (hm : m.Orderly) : m'.Orderly where
  keyed id session hget := hm.keyed id session (h.sessions ▸ hget)
  known id session hget := h.streams id (hm.known id session (h.sessions ▸ hget))
  ended id hid := by
    rw [h.sessions]
    exact hm.ended id (h.order ▸ hid)
  nodup := h.order ▸ hm.nodup
  released session hmem := hm.released session (h.released ▸ hmem)

end SameSessions

namespace Forward

lemma refl (m : WebTransportSessionManager) : m.Forward m := (SameSessions.refl m).forward

lemma trans (hknown : ∀ id session, m.sessionsByID.get? id = some session →
      (m.http3.requestStreams.get? id).isSome)
    (h : m.Forward m') (h' : m'.Forward m'') : m.Forward m'' where
  streams id hid := h'.streams id (h.streams id hid)
  advances id session session'' hget hget'' := by
    cases hget' : m'.sessionsByID.get? id with
    | none =>
      -- Its request stream is still known, so that the session does not come back.
      have hgone := h'.gone id (h.streams id (hknown id session hget)) hget'
      rw [hgone] at hget''
      cases hget''
    | some session' =>
      exact (h.advances id session session' hget hget').trans
        (h'.advances id session' session'' hget' hget'')
  gone id hid hnone := h'.gone id (h.streams id hid) (h.gone id hid hnone)

end Forward

/-! ## Storing and releasing -/

/-- One session is replaced, by one that has ended if it had. -/
lemma replaced_orderly (session' : WebTransportSession) (hm : m.Orderly)
    (hsession : m.sessionsByID.get? sessionID = some session) (hid : session'.id = sessionID)
    (hended : session.state.IsEnded → session'.state.IsEnded)
    (hstreams : ∀ id, (m.http3.requestStreams.get? id).isSome →
      (m'.http3.requestStreams.get? id).isSome)
    (hsessions : ∀ id, m'.sessionsByID.get? id =
      if id = sessionID then some session' else m.sessionsByID.get? id)
    (horder : m'.closedSessionOrder = m.closedSessionOrder)
    (hreleased : m'.released = m.released) : m'.Orderly := by
  refine ⟨?_, ?_, ?_, horder ▸ hm.nodup, fun s hs => hm.released s (hreleased ▸ hs)⟩
  · intro id s hget
    rw [hsessions id] at hget
    split_ifs at hget with hkey
    · obtain rfl := Option.some.inj hget
      exact hid.trans hkey.symm
    · exact hm.keyed id s hget
  · intro id s hget
    rw [hsessions id] at hget
    split_ifs at hget with hkey
    · rw [hkey]
      exact hstreams _ (hm.known _ _ hsession)
    · exact hstreams _ (hm.known id s hget)
  · intro id hmem
    obtain ⟨s, hget, hgone⟩ := hm.ended id (horder ▸ hmem)
    rw [hsessions id]
    split_ifs with hkey
    · obtain rfl := hkey
      obtain rfl := Option.some.inj (hsession.symm.trans hget)
      exact ⟨session', rfl, hended hgone⟩
    · exact ⟨s, hget, hgone⟩

/-- One session is replaced by one that it advances to. -/
lemma replaced (session' : WebTransportSession) (hm : m.Orderly)
    (hsession : m.sessionsByID.get? sessionID = some session) (hid : session'.id = sessionID)
    (hadvances : session.state.Advances session'.state)
    (hstreams : ∀ id, (m.http3.requestStreams.get? id).isSome →
      (m'.http3.requestStreams.get? id).isSome)
    (hsessions : ∀ id, m'.sessionsByID.get? id =
      if id = sessionID then some session' else m.sessionsByID.get? id)
    (horder : m'.closedSessionOrder = m.closedSessionOrder)
    (hreleased : m'.released = m.released) : m'.Orderly ∧ m.Forward m' := by
  refine ⟨replaced_orderly session' hm hsession hid (fun hended => ?_) hstreams hsessions horder
    hreleased, hstreams, ?_, ?_⟩
  · rw [hadvances.eq_of_isEnded hended]
    exact hended
  · intro id s s' hget hget'
    rw [hsessions id] at hget'
    split_ifs at hget' with hkey
    · obtain rfl := hkey
      obtain rfl := Option.some.inj (hsession.symm.trans hget)
      obtain rfl := Option.some.inj hget'
      exact hadvances
    · obtain rfl := Option.some.inj (hget.symm.trans hget')
      exact .same _
  · intro id _ hnone
    rw [hsessions id, if_neg]
    · exact hnone
    · rintro rfl
      rw [hsession] at hnone
      cases hnone

/-- The oldest of the sessions that ended is released. -/
lemma release_orderly {oldest : ℕ} {rest : List ℕ}
    (hm : ({ m with closedSessionOrder := oldest :: rest } : WebTransportSessionManager).Orderly) :
    ({ m.releaseSessionState oldest with
      closedSessionOrder := rest } : WebTransportSessionManager).Orderly ∧
      m.Forward (m.releaseSessionState oldest) := by
  obtain ⟨session, hget, hended⟩ := hm.ended oldest List.mem_cons_self
  have hsession : m.sessionsByID.get? oldest = some session := hget
  obtain ⟨hsessions, hreleased⟩ := releaseSessionState_some hsession
  obtain ⟨hfresh, hnodup⟩ := List.nodup_cons.mp hm.nodup
  have hhttp3 : (m.releaseSessionState oldest).http3 = m.http3 := by
    rw [releaseSessionState_releasesOnly.same]
  have hkept : ∀ id s, (m.releaseSessionState oldest).sessionsByID.get? id = some s →
      m.sessionsByID.get? id = some s := by
    intro id s h
    rw [hsessions, Dictionary.get?_erase] at h
    split_ifs at h
    exact h
  refine ⟨⟨fun id s h => hm.keyed id s (hkept id s h), ?_, ?_, hnodup, ?_⟩, ?_, ?_, ?_⟩
  · intro id s h
    show ((m.releaseSessionState oldest).http3.requestStreams.get? id).isSome
    rw [hhttp3]
    exact hm.known id s (hkept id s h)
  · intro id hid
    obtain ⟨s, h, hs⟩ := hm.ended id (List.mem_cons_of_mem _ hid)
    refine ⟨s, ?_, hs⟩
    show (m.releaseSessionState oldest).sessionsByID.get? id = some s
    rw [hsessions, Dictionary.get?_erase_of_ne]
    · exact h
    · rintro rfl
      exact hfresh hid
  · intro s hs
    have hmem : s ∈ m.released ++ [session] := hreleased ▸ hs
    rcases List.mem_append.mp hmem with hs | hs
    · exact hm.released s hs
    · obtain rfl := List.mem_singleton.mp hs
      exact hended
  · intro id hid
    rw [hhttp3]
    exact hid
  · intro id s s' h h'
    obtain rfl := Option.some.inj (h.symm.trans (hkept id s' h'))
    exact .same _
  · intro id _ hnone
    rw [hsessions, Dictionary.get?_erase, hnone, ite_self]

/-- Sessions that ended are released, from the oldest on. -/
lemma evictClosedSessions_orderly (limit : ℕ) (order : List ℕ)
    (hm : ({ m with closedSessionOrder := order } : WebTransportSessionManager).Orderly) :
    (evictClosedSessions limit order m).Orderly ∧
      m.Forward (evictClosedSessions limit order m) := by
  induction order generalizing m with
  | nil => exact ⟨hm, (Forward.refl m).streams, (Forward.refl m).advances,
      (Forward.refl m).gone⟩
  | cons oldest rest ih =>
    unfold evictClosedSessions
    split_ifs with hmany
    · obtain ⟨horderly, hforward⟩ := release_orderly hm
      obtain ⟨horderly', hforward'⟩ := ih horderly
      exact ⟨horderly', hforward.trans hm.known hforward'⟩
    · exact ⟨hm, (Forward.refl m).streams, (Forward.refl m).advances,
      (Forward.refl m).gone⟩

/-- The order in which sessions that have ended are recorded, with one more. -/
lemma recorded_orderly (hm : m.Orderly)
    (hsession : m.sessionsByID.get? sessionID = some session) (hended : session.state.IsEnded) :
    ({ m with closedSessionOrder :=
      m.closedSessionOrder.erase sessionID ++ [sessionID] } : WebTransportSessionManager).Orderly := by
  refine ⟨hm.keyed, hm.known, ?_, ?_, hm.released⟩
  · intro id hid
    rcases List.mem_append.mp hid with hid | hid
    · exact hm.ended id (List.mem_of_mem_erase hid)
    · obtain rfl := List.mem_singleton.mp hid
      exact ⟨session, hsession, hended⟩
  · refine (hm.nodup.erase sessionID).append (List.nodup_singleton _) ?_
    rw [List.disjoint_singleton]
    exact hm.nodup.not_mem_erase

lemma recordClosedSession_orderly (hm : m.Orderly)
    (hsession : m.sessionsByID.get? sessionID = some session) (hended : session.state.IsEnded) :
    (m.recordClosedSession env sessionID).Orderly ∧
      m.Forward (m.recordClosedSession env sessionID) :=
  evictClosedSessions_orderly _ _ (recorded_orderly hm hsession hended)

/-! ## Steps -/

lemma SameSessions.of_moreStreams {http3 : HTTP3ConnectionState}
    (h : m.http3.MoreStreams http3) : m.SameSessions { m with http3 := http3 } :=
  ⟨h.more, rfl, rfl, rfl⟩

lemma begun_forward {http3 : HTTP3ConnectionState} (hm : m.Orderly)
    (hmore : m.http3.MoreStreams http3)
    (hfresh : m.http3.requestStreams.get? session.id = none)
    (hstream : (http3.requestStreams.get? session.id).isSome)
    (hnew : m.sessionsByID.get? session.id = none) :
    (({ m with http3 := http3 } : WebTransportSessionManager).store session).Orderly ∧
      m.Forward (({ m with http3 := http3 } : WebTransportSessionManager).store session) := by
  have hget : ∀ id, (({ m with http3 := http3 } : WebTransportSessionManager).store
      session).sessionsByID.get? id =
        if id = session.id then some session else m.sessionsByID.get? id := fun id => get?_store
  refine ⟨⟨?_, ?_, ?_, hm.nodup, hm.released⟩, hmore.more, ?_, ?_⟩
  · intro id s h
    rw [hget] at h
    split_ifs at h with hkey
    · obtain rfl := Option.some.inj h
      exact hkey.symm
    · exact hm.keyed id s h
  · intro id s h
    rw [hget] at h
    split_ifs at h with hkey
    · rw [hkey]
      exact hstream
    · exact hmore.more id (hm.known id s h)
  · intro id hid
    obtain ⟨s, h, hended⟩ := hm.ended id hid
    refine ⟨s, ?_, hended⟩
    rw [hget, if_neg]
    · exact h
    · rintro rfl
      rw [hnew] at h
      cases h
  · intro id s s' h h'
    rw [hget, if_neg] at h'
    · obtain rfl := Option.some.inj (h.symm.trans h')
      exact .same _
    · rintro rfl
      rw [hnew] at h
      cases h
  · intro id hid hnone
    rw [hget, if_neg]
    · exact hnone
    · rintro rfl
      rw [hfresh] at hid
      cases hid

lemma drainSessions_forward (hm : m.Orderly) : m.drainSessions.Orderly ∧ m.Forward m.drainSessions := by
  have hget : ∀ id, m.drainSessions.sessionsByID.get? id = (m.sessionsByID.get? id).map
      fun session => if session.state = .accepted then { session with state := .draining }
        else session := fun id => Dictionary.get?_mapValues
  have hdrained : ∀ session : WebTransportSession,
      (if session.state = .accepted then { session with state := .draining }
        else session : WebTransportSession).id = session.id ∧
      session.state.Advances (if session.state = .accepted then
        { session with state := .draining } else session : WebTransportSession).state := by
    intro session
    split_ifs with haccepted
    · exact ⟨rfl, .draining (by rw [haccepted]; trivial)⟩
    · exact ⟨rfl, .same _⟩
  have hadvances : ∀ id s s', m.sessionsByID.get? id = some s →
      m.drainSessions.sessionsByID.get? id = some s' → s.state.Advances s'.state := by
    intro id s s' h h'
    rw [hget, h] at h'
    obtain rfl := Option.some.inj h'
    exact (hdrained s).2
  refine ⟨⟨?_, ?_, ?_, hm.nodup, hm.released⟩, fun _ h => h, hadvances, ?_⟩
  · intro id s' h'
    rw [hget] at h'
    obtain ⟨s, h, rfl⟩ := Option.map_eq_some_iff.mp h'
    exact (hdrained s).1.trans (hm.keyed id s h)
  · intro id s' h'
    rw [hget] at h'
    obtain ⟨s, h, -⟩ := Option.map_eq_some_iff.mp h'
    exact hm.known id s h
  · intro id hid
    obtain ⟨s, h, hended⟩ := hm.ended id hid
    have h' := hget id
    rw [h] at h'
    refine ⟨_, h', ?_⟩
    rw [(hadvances id s _ h h').eq_of_isEnded hended]
    exact hended
  · intro id _ hnone
    rw [hget, hnone]
    rfl

/-- A session is stored as closed, and its streams end. -/
lemma closed_forward {applicationErrorCode : ℕ} {message : List UInt8} {closeCapsuleReceived : Bool}
    (hm : m.Orderly) (hsession : m.sessionsByID.get? sessionID = some session)
    (hlive : session.state.IsLive)
    (hstreams : (m.storeClosed session sessionID applicationErrorCode message
      closeCapsuleReceived).StreamsOnly m') :
    ((m'.clearDatagrams sessionID).Orderly ∧ m.Forward (m'.clearDatagrams sessionID)) ∧
      (m'.clearDatagrams sessionID).sessionsByID.get? sessionID =
        some { session with state := .closed applicationErrorCode message } := by
  have hget : ∀ id, (m.storeClosed session sessionID applicationErrorCode message
      closeCapsuleReceived).sessionsByID.get? id = if id = sessionID then
        some { session with state := .closed applicationErrorCode message }
        else m.sessionsByID.get? id := fun id => Dictionary.get?_insert
  have hid : session.id = sessionID := hm.keyed _ _ hsession
  obtain ⟨horderly, hforward⟩ : (m.storeClosed session sessionID applicationErrorCode message
      closeCapsuleReceived).Orderly ∧ m.Forward (m.storeClosed session sessionID
        applicationErrorCode message closeCapsuleReceived) :=
    replaced { session with state := .closed applicationErrorCode message } hm hsession hid
      (.closed hlive applicationErrorCode message) (fun _ h => h) hget rfl rfl
  have hsame : (m.storeClosed session sessionID applicationErrorCode message
      closeCapsuleReceived).SameSessions (m'.clearDatagrams sessionID) := by
    have h := SameSessions.of_streamsOnly hstreams
    exact ⟨h.streams, h.sessions, h.order, h.released⟩
  refine ⟨⟨hsame.orderly horderly, hforward.trans hm.known hsame.forward⟩, ?_⟩
  rw [hsame.sessions, hget, if_pos rfl]

lemma closeSession_forward (hm : m.Orderly) (hsession : m.sessionsByID.get? sessionID = some session)
    (hlive : session.state.IsLive) (applicationErrorCode : ℕ) (message : List UInt8)
    (closeCapsuleReceived : Bool) :
    (m.closeSession env session sessionID applicationErrorCode message
        closeCapsuleReceived).2.Orderly ∧
      m.Forward (m.closeSession env session sessionID applicationErrorCode message
        closeCapsuleReceived).2 := by
  obtain ⟨m', hstreams, heq⟩ := closeSession_eq env m sessionID session applicationErrorCode
    message closeCapsuleReceived
  obtain ⟨⟨horderly, hforward⟩, hended⟩ := closed_forward hm hsession hlive hstreams
  obtain ⟨hrecorded, hmore⟩ := @recordClosedSession_orderly env _ _ _ horderly hended trivial
  rw [heq]
  exact ⟨hrecorded, hforward.trans hm.known hmore⟩

lemma discarded_forward (hm : m.Orderly) (hsession : m.sessionsByID.get? sessionID = some session)
    (hended : session.state.IsEnded) :
    ((m.discardBufferedIngress env sessionID).recordClosedSession env sessionID).Orderly ∧
      m.Forward ((m.discardBufferedIngress env sessionID).recordClosedSession env sessionID) := by
  obtain ⟨m', hstreams, heq⟩ := discardBufferedIngress_eq env m sessionID
  have hsame : m.SameSessions (m.discardBufferedIngress env sessionID) := by
    have h := SameSessions.of_streamsOnly hstreams
    rw [heq]
    exact ⟨h.streams, h.sessions, h.order, h.released⟩
  obtain ⟨hrecorded, hmore⟩ := @recordClosedSession_orderly env _ _ _ (hsame.orderly hm)
    (hsame.sessions ▸ hsession) hended
  exact ⟨hrecorded, hsame.forward.trans hm.known hmore⟩

lemma setCredit_sameSessions (receiveSide : Bool) (state : WebTransportFlowControlState) :
    m.SameSessions (m.setCredit receiveSide sessionID state) := by
  cases receiveSide
  · exact ⟨fun _ h => h, rfl, rfl, rfl⟩
  · exact ⟨fun _ h => h, rfl, rfl, rfl⟩

lemma enqueueBlockedFlowCapsule_sameSessions (capsule : Option WebTransportFlowCapsule) :
    m.SameSessions (m.enqueueBlockedFlowCapsule capsule sessionID) := by
  cases capsule
  · exact .refl m
  · exact ⟨fun _ h => h, rfl, rfl, rfl⟩

lemma SameSessions.kept (h : m.SameSessions m') (hm : m.Orderly) : m'.Orderly ∧ m.Forward m' :=
  ⟨h.orderly hm, h.forward⟩

/-- A step whose responses let sessions advance. -/
theorem step_forward
    (hanswers : ∀ old new, L.answers old new → old = .requested ∨ old = new)
    (hstep : ManagerStep env L m m') (hm : m.Orderly) : m'.Orderly ∧ m.Forward m' := by
  cases hstep with
  | goawaySent => exact SameSessions.kept ⟨fun _ h => h, rfl, rfl, rfl⟩ hm
  | controlReceived _ hreceive =>
    obtain ⟨_, _, _, _, -, -, rfl⟩ := receivePeerControlStream_ok hreceive
    exact SameSessions.kept ⟨fun _ h => h, rfl, rfl, rfl⟩ hm
  | goawayReceived _ hreceive =>
    obtain rfl | ⟨_, -, -, rfl⟩ := receiveControlFrame_ok hreceive
    · exact SameSessions.kept ⟨fun _ h => h, rfl, rfl, rfl⟩ hm
    · exact SameSessions.kept ⟨fun _ h => h, rfl, rfl, rfl⟩ hm
  | drainedAll => exact drainSessions_forward hm
  | requestStreams hmore => exact SameSessions.kept (.of_moreStreams hmore) hm
  | begun hmore hfresh hstream _ _ hnew _ => exact begun_forward hm hmore hfresh hstream hnew
  | @answered _ old hold selected state _ hlimits hstate _ =>
    have hid := hm.keyed _ _ hold
    refine replaced { old with selectedProtocol := selected, state := state } hm hold hid ?_
      (fun _ h => h) (fun id => ?_) rfl rfl
    · rcases hanswers _ _ hlimits with hrequested | rfl
      · rw [hrequested]
        obtain rfl | ⟨status, rfl⟩ := hstate
        · exact .accepted
        · exact .rejected status
      · exact .same _
    · rw [get?_store, hid]
  | promoted => exact SameSessions.kept ⟨fun _ h => h, rfl, rfl, rfl⟩ hm
  | promotionDone => exact SameSessions.kept ⟨fun _ h => h, rfl, rfl, rfl⟩ hm
  | discarded _ hsession hrejected =>
    obtain ⟨status, hstatus⟩ := hrejected
    exact discarded_forward hm hsession (by rw [hstatus]; trivial)
  | @drained _ session hsession haccepted =>
    have hlive : session.state.IsLive := by
      rw [haccepted]
      trivial
    have hid : session.id = _ := hm.keyed _ _ hsession
    exact replaced { session with state := .draining } hm hsession hid (.draining hlive)
      (fun _ h => h) (fun _ => Dictionary.get?_insert) rfl rfl
  | closed hsession hlive code message received =>
    exact closeSession_forward hm hsession hlive code message received
  | received sessionID state => exact (setCredit_sameSessions true state).kept hm
  | spent _ sessionID state => exact (setCredit_sameSessions false state).kept hm
  | refused sessionID capsule =>
    obtain ⟨hm', hforward⟩ := (enqueueBlockedFlowCapsule_sameSessions capsule).kept hm
    obtain ⟨hm'', hforward'⟩ := (setCredit_sameSessions false _).kept hm'
    exact ⟨hm'', hforward.trans hm.known hforward'⟩
  | raised => exact (setCredit_sameSessions false _).kept hm
  | registered => exact SameSessions.kept ⟨fun _ h => h, rfl, rfl, rfl⟩ hm
  | held => exact SameSessions.kept ⟨fun _ h => h, rfl, rfl, rfl⟩ hm
  | streamSet => exact SameSessions.kept ⟨fun _ h => h, rfl, rfl, rfl⟩ hm
  | datagramPushed => exact SameSessions.kept ⟨fun _ h => h, rfl, rfl, rfl⟩ hm
  | datagramPopped => exact SameSessions.kept ⟨fun _ h => h, rfl, rfl, rfl⟩ hm
  | capsulesSet => exact SameSessions.kept ⟨fun _ h => h, rfl, rfl, rfl⟩ hm

/-! ## Runs -/

/-- A call whose response meets a requested session. -/
theorem call_forward {call : ManagerCall} (hcall : call.MeetsRequested env m) (hm : m.Orderly) :
    (after (call.perform env) m).Orderly ∧ m.Forward (after (call.perform env) m) :=
  relates Forward.refl (fun _ _ _ hm h h' => h.trans hm.known h')
    (fun _ _ hstep hm => step_forward (L := call.limits env m) hcall hstep hm)
    (call.perform_within env m).reached hm

lemma start_orderly (http3 : HTTP3ConnectionState) : (start http3).Orderly where
  keyed _ _ h := by cases h
  known _ _ h := by cases h
  ended _ h := absurd h List.not_mem_nil
  nodup := List.nodup_nil
  released _ h := absurd h List.not_mem_nil

end WebTransportSessionManager

open WebTransportSessionManager

/-- A run in which responses meet requested sessions. -/
abbrev TimelyRun (env : ManagerEnv) : WebTransportSessionManager → WebTransportSessionManager → Prop :=
  Run (ManagerCall.perform env) fun m call => call.MeetsRequested env m

/-- Between two managers every session moves forward, and in the second what is recorded or
released has ended. -/
def WebTransportSessionManager.MovesForward (m m' : WebTransportSessionManager) : Prop :=
  (∀ id session session', m.sessionsByID.get? id = some session →
    m'.sessionsByID.get? id = some session' → session.state.Advances session'.state) ∧
  (∀ id ∈ m'.closedSessionOrder,
    ∃ session, m'.sessionsByID.get? id = some session ∧ session.state.IsEnded) ∧
  ∀ session ∈ m'.released, session.state.IsEnded

/-- Where every response that is taken meets a session that is requested, or says what the session
is already, sessions only move forward. -/
theorem sessions_moveForward (env : ManagerEnv) (http3 : HTTP3ConnectionState)
    {m m' : WebTransportSessionManager} (hrun : TimelyRun env (start http3) m)
    (hmore : TimelyRun env m m') : m.MovesForward m' := by
  have hstep : ∀ m m', Throwing.CallStep (ManagerCall.perform env)
      (fun m call => call.MeetsRequested env m) m m' → m.Orderly → m'.Orderly ∧ m.Forward m' := by
    rintro m _ ⟨call, hcall, rfl⟩ hm
    exact call_forward hcall hm
  have hm : m.Orderly := keeps (fun _ _ h hm => (hstep _ _ h hm).1) hrun (start_orderly http3)
  obtain ⟨hm', hforward⟩ := relates Forward.refl (fun _ _ _ hm h h' => h.trans hm.known h') hstep
    hmore hm
  exact ⟨hforward.advances, hm'.ended, hm'.released⟩

/-- A client that requested a session. -/
def requestedSession : WebTransportSessionManager :=
  performAll (ManagerCall.perform connectEnv)
    [.receivePeerControlStream draftControlStream, .makeClientSessionRequest 0 connectRequest false]
    (draftManager .client)

/-- A session that is requested may be answered. -/
lemma meetsRequested_of_requested {env : ManagerEnv} {m : WebTransportSessionManager}
    {streamID : ℕ} (frame : HTTP3Frame)
    (h : (m.sessionsByID.get? streamID).map (·.state) = some .requested) :
    (ManagerCall.receiveServerSessionResponse streamID frame).MeetsRequested env m := by
  rintro old new ⟨found, session, stream, hfound, rfl, -, -⟩
  rw [hfound] at h
  exact .inl (Option.some.inj h)

/-- A session is requested, accepted and closed. -/
theorem sessions_moveForward_closed : ∃ m' : WebTransportSessionManager,
    (m'.sessionsByID.get? 0).map (·.state) = some (.closed 7 []) ∧
      requestedSession.MovesForward m' := by
  refine ⟨performAll (ManagerCall.perform connectEnv)
    [.receiveServerSessionResponse 0 (connectResponse true), .makeCloseSessionCapsule 0 7 []]
    requestedSession, by decide +kernel,
    sessions_moveForward connectEnv { role := .client, localSettings := draftSettings } ?_ ?_⟩
  · exact run_of_allAllowed ⟨fun _ _ h => False.elim h, fun _ _ h => False.elim h, trivial⟩
  · exact run_of_allAllowed ⟨meetsRequested_of_requested _ (by decide +kernel),
      fun _ _ h => False.elim h, trivial⟩

/-- A client closes the session that it requested, and the response of the server, which comes
later, has it accepted again. -/
theorem late_response_revives : ¬∀ (env : ManagerEnv) (http3 : HTTP3ConnectionState)
    (m m' : WebTransportSessionManager),
    Run (ManagerCall.perform env) (fun _ _ => True) (start http3) m →
      Run (ManagerCall.perform env) (fun _ _ => True) m m' → m.MovesForward m' := by
  intro hall
  have hclosed := run_performAll (ManagerCall.perform connectEnv)
    [.receivePeerControlStream draftControlStream, .makeClientSessionRequest 0 connectRequest false,
      .makeCloseSessionCapsule 0 7 []] (draftManager .client)
  have hmore := run_performAll (ManagerCall.perform connectEnv)
    [.receiveServerSessionResponse 0 (connectResponse true)] (performAll
      (ManagerCall.perform connectEnv) [.receivePeerControlStream draftControlStream,
        .makeClientSessionRequest 0 connectRequest false, .makeCloseSessionCapsule 0 7 []]
      (draftManager .client))
  obtain ⟨hadvances, -, -⟩ := hall connectEnv _ _ _ hclosed hmore
  have hrevived := hadvances 0
    { connectRequest with
      id := 0
      requestStreamID := 0
      selectedProtocol := none
      state := .closed 7 [] }
    { connectRequest with
      id := 0
      requestStreamID := 0
      selectedProtocol := none
      state := .accepted } (by decide +kernel) (by decide +kernel)
  cases hrevived

end WebTransport
