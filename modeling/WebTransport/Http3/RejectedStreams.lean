import WebTransport.Http3.DriverRun
import WebTransport.Http3.QuicTransport

/-!
# Late bytes of a stream that was given up

A rejection takes the stream out of the table of data streams, and this entry was all that
told its bytes from the rest. This module says what becomes of a STREAM frame that arrives
after it: it is ignored when the stream is a unidirectional one this endpoint opened, and on
no other stream.
-/

namespace WebTransport

open SwapRemove

section Later

variable {a : ℕ} {s s' : Feed} {act : DriverAct}

/-- What happens after a state, as long as the stream is not handed out again. -/
inductive DriverLater (a : ℕ) (s : Feed) : Feed → Prop
  | refl : DriverLater a s s
  | step {act : DriverAct} {s₁ s₂ : Feed} (h : DriverLater a s s₁) (hstep : DriverStep act s₁ s₂)
      (hopen : ∀ prefixLength, act ≠ .openStream a prefixLength) : DriverLater a s s₂

/-- A data stream is given up: it is rejected, or the session ends. -/
def RemovesDataStream (a : ℕ) (s s' : Feed) : Prop :=
  (DriverStep (.reject a) s s' ∨ DriverStep .endSession s s') ∧
    http3DriverIsDataStream s.driver a = true ∧ http3DriverIsDataStream s'.driver a = false

/-- Every STREAM frame of the stream that comes later is accepted, tells the sink nothing,
opens no request and closes nothing. -/
def LateFramesIgnored (a : ℕ) (s : Feed) : Prop :=
  ∀ s₁, DriverLater a s s₁ → ∀ (sink : Sink) (M : ℕ) (f : StreamFrame), f.id = a →
    ∃ r, http3DriverOnQuicFrame sink M (.stream f) s₁ = some r ∧ r.status = .ok ∧
      r.close = none ∧ r.feed.log = s₁.log ∧
      r.feed.driver.endpoint.requests = s₁.driver.endpoint.requests

/-- Giving a stream up changes the table of data streams only. -/
lemma RemovesDataStream.tables (h : RemovesDataStream a s s') :
    ∃ dataStreams, s' = s.setDriver { s.driver with dataStreams := dataStreams } := by
  rcases h.1 with hstep | hstep
  · cases hstep with
    | reject hreject =>
      obtain ⟨dataStreams, hdriver, -⟩ := rejectDataStream_spec hreject
      rw [hdriver]
      exact ⟨dataStreams, rfl⟩
  · cases hstep with
    | endSession hend =>
      obtain ⟨dataStreams, hdriver, -⟩ := endSessionStreams_spec hend
      rw [hdriver]
      exact ⟨dataStreams, rfl⟩

/-- The endpoint's role is what it was set up with. -/
lemma DriverStep.role (h : DriverStep act s s') :
    s'.driver.endpoint.role = s.driver.endpoint.role := by
  cases hnames : act.names with
  | none => exact (h.touches (a := 0) fun b hb => by rw [hnames] at hb; cases hb).role
  | some b => exact (h.touches fun c hc => by rw [hnames] at hc; exact (Option.some.inj hc).symm).role

lemma streamIsOurs_congr {e e' : Endpoint} (h : e'.role = e.role) (a : ℕ) :
    streamIsOurs e' a = streamIsOurs e a := by
  unfold streamIsOurs
  rw [h]

/-- A frame of a unidirectional stream this endpoint opened is nothing to the driver. -/
lemma routeStreamFrame_ours (sink : Sink) (M : ℕ) {f : StreamFrame}
    (hdata : http3DriverIsDataStream s.driver f.id = false)
    (hours : streamIsOurs s.driver.endpoint f.id = true)
    (huni : quicStreamIdIsBidirectional f.id = false) :
    routeStreamFrame sink M f s = some (s, Reply.good) := by
  rw [routeStreamFrame, hdata, if_neg (by simp), if_pos ⟨hours, by simp [huni]⟩]

/-- **A new data stream** is one the owner opens, or one a STREAM frame begins. -/
lemma DriverStep.newDataStream (h : DriverStep act s s') {e : DataStream}
    (he : e ∈ s'.driver.dataStreams) : e ∈ s.driver.dataStreams ∨
      (∃ prefixLength, act = .openStream e.streamId prefixLength) ∨
      ∃ sink M f, act = .frame sink M (.stream f) ∧ f.id = e.streamId := by
  cases h with
  | frame h =>
    rcases frame_step_effect h with hsame | ⟨f, rfl, heffect⟩
    · rw [hsame] at he
      exact .inl he
    · by_cases hid : e.streamId = f.id
      · exact .inr (.inr ⟨_, _, f, rfl, hid.symm⟩)
      · exact .inl (heffect.touches.dataStreams e he hid)
  | setSession sessionId => exact .inl he
  | mark streamId headersPending =>
    have hsame : (http3DriverMarkCapsuleStream s.driver streamId headersPending).1.dataStreams =
        s.driver.dataStreams := by
      unfold http3DriverMarkCapsuleStream
      split_ifs <;> rfl
    rw [Feed.setDriver_driver, hsame] at he
    exact .inl he
  | openRequest hbidi hnew => exact .inl he
  | endRequest streamId => exact .inl he
  | openStream hnew =>
    rename_i streamId prefixLength
    by_cases hid : e.streamId = streamId
    · exact .inr (.inl ⟨prefixLength, by rw [hid]⟩)
    · refine .inl ((DriverStep.openStream hnew).touches ?_ |>.dataStreams e he hid)
      intro b hb
      exact (Option.some.inj hb).symm
  | reject h =>
    obtain ⟨dataStreams, hdriver, hfewer⟩ := rejectDataStream_spec h
    rw [Feed.setDriver_driver, hdriver] at he
    exact .inl (hfewer e he)
  | endSession h =>
    obtain ⟨dataStreams, hdriver, hfewer⟩ := endSessionStreams_spec h
    rw [Feed.setDriver_driver, hdriver] at he
    exact .inl (hfewer e he)

/-- A unidirectional stream of this endpoint's that is given up stays given up. -/
lemma DriverLater.ours (h : DriverLater a s s')
    (hdata : http3DriverIsDataStream s.driver a = false)
    (hours : streamIsOurs s.driver.endpoint a = true)
    (huni : quicStreamIdIsBidirectional a = false) :
    http3DriverIsDataStream s'.driver a = false ∧ streamIsOurs s'.driver.endpoint a = true := by
  induction h with
  | refl => exact ⟨hdata, hours⟩
  | @step act s₁ s₂ h hstep hopen ih =>
    refine ⟨isDataStream_eq_false fun e he hid => ?_, ?_⟩
    · rcases hstep.newDataStream he with hold | ⟨prefixLength, rfl⟩ | ⟨sink, M, f, rfl, hf⟩
      · exact not_dataStream ih.1 e hold hid
      · exact hopen prefixLength (by rw [hid])
      · -- The frame is one of the stream's own, and the driver is as it was.
        have hsame : s₂ = s₁ := by
          cases hstep with
          | frame h =>
            obtain ⟨reply, hroute, -⟩ := routeQuicFrame_of_step h
            change routeStreamFrame sink M f s₁ = _ at hroute
            have hfid : f.id = a := hf.trans hid
            rw [routeStreamFrame_ours sink M (by rw [hfid]; exact ih.1)
              (by rw [hfid]; exact ih.2) (by rw [hfid]; exact huni)] at hroute
            cases hroute
            rfl
        rw [hsame] at he
        exact not_dataStream ih.1 e he hid
    · rw [streamIsOurs_congr hstep.role]
      exact ih.2

lemma lateFrames_ours (hdata : http3DriverIsDataStream s.driver a = false)
    (hours : streamIsOurs s.driver.endpoint a = true)
    (huni : quicStreamIdIsBidirectional a = false) : LateFramesIgnored a s := by
  rintro s₁ hlater sink M f rfl
  obtain ⟨hdata, hours⟩ := hlater.ours hdata hours huni
  refine ⟨⟨s₁, .ok, none⟩, ?_, rfl, rfl, rfl, rfl⟩
  rw [http3DriverOnQuicFrame, routeQuicFrame, routeStreamFrame_ours sink M hdata hours huni]
  rfl

end Later

/-! ## The other streams -/

section Lost

variable {a : ℕ} {s : Feed} (hdata : ∀ e ∈ s.driver.dataStreams, e.streamId ≠ a)
include hdata

/-- An empty frame on a bidirectional stream opens a request or is refused. -/
lemma lateFrames_bidi (hbidi : quicStreamIdIsBidirectional a = true)
    (hpending : ∀ p ∈ s.driver.pending, p.streamId ≠ a)
    (hrequests : ∀ r ∈ s.driver.endpoint.requests, r.1 ≠ a) : ¬LateFramesIgnored a s := by
  intro hignored
  obtain ⟨r, hroute, hok, -, -, hsame⟩ :=
    hignored s .refl Sink.accepting 0 ⟨a, 1, true, false, true, []⟩ rfl
  obtain ⟨reply, hroute, hstatus⟩ := routeQuicFrame_of_step hroute
  have htracked := requestTracked_eq_false hrequests
  have hrequest : routeRequest Sink.accepting 0 false ⟨a, 1, true, false, true, []⟩ s =
      some (r.feed, reply) := by
    change routeStreamFrame Sink.accepting 0 ⟨a, 1, true, false, true, []⟩ s = _ at hroute
    rw [routeStreamFrame, isDataStream_eq_false hdata, if_neg (by simp),
      if_neg (by simp [hbidi]), if_pos hbidi, routeBidi, htracked, if_neg] at hroute
    · exact hroute
    · simp [findPending_eq_none hpending]
  rcases routeRequest_effect htracked hrequest with hwork | ⟨hrefused, -⟩
  · have hlonger := congrArg List.length (hsame.symm.trans hwork.requests)
    change _ = (s.driver.endpoint.requests ++ [(a, false)]).length at hlonger
    rw [List.length_append] at hlonger
    simp at hlonger
  · rw [hstatus, hok] at hrefused
    exact hrefused rfl

variable (huni : quicStreamIdIsBidirectional a = false)
  (hpeer : streamIsOurs s.driver.endpoint a = false)
include huni hpeer

/-- Where a frame of a peer's unidirectional stream is routed. -/
lemma routeStreamFrame_uni (sink : Sink) (M : ℕ) {f : StreamFrame} (hid : f.id = a) :
    routeStreamFrame sink M f s = routeUni sink M f s := by
  subst hid
  rw [routeStreamFrame, isDataStream_eq_false hdata, if_neg (by simp), if_neg (by simp [hpeer]),
    if_neg (by simp [huni])]

/-- A frame from the middle of a stream the endpoint has not classified is refused. -/
lemma lateFrames_unclassified (hpending : ∀ p ∈ s.driver.pending, p.streamId ≠ a)
    (hkind : http3EndpointStreamKind s.driver.endpoint a = .unknown) :
    ¬LateFramesIgnored a s := by
  intro hignored
  obtain ⟨r, hroute, hok, -⟩ :=
    hignored s .refl Sink.accepting 0 ⟨a, 1, true, false, true, []⟩ rfl
  obtain ⟨reply, hroute, hstatus⟩ := routeQuicFrame_of_step hroute
  change routeStreamFrame Sink.accepting 0 ⟨a, 1, true, false, true, []⟩ s = _ at hroute
  have hstart : http3DriverOnUniStreamData s.driver a 1 [] =
      ⟨s.driver, (.state, .noError), .unknown, []⟩ := by
    rw [http3DriverOnUniStreamData, heldBytes, findPending_eq_none hpending]
    rfl
  rw [routeStreamFrame_uni hdata huni hpeer _ _ rfl, routeUni, hkind, if_neg (by simp)] at hroute
  dsimp only at hroute
  rw [hstart, if_pos (by simp)] at hroute
  have hreply := congrArg Prod.snd (Option.some.inj hroute)
  dsimp only at hreply
  rw [← hreply, hok] at hstatus
  cases hstatus

/-- The sink is told the bytes of a stream the endpoint still takes for the session's. -/
lemma lateFrames_session
    (hkind : http3EndpointStreamKind s.driver.endpoint a = .webtransport) :
    ¬LateFramesIgnored a s := by
  intro hignored
  obtain ⟨r, hroute, -, -, hlog, -⟩ :=
    hignored s .refl Sink.accepting 0 ⟨a, 0, true, false, true, [0]⟩ rfl
  obtain ⟨reply, hroute, hstatus⟩ := routeQuicFrame_of_step hroute
  change routeStreamFrame Sink.accepting 0 ⟨a, 0, true, false, true, [0]⟩ s = _ at hroute
  rw [routeStreamFrame_uni hdata huni hpeer _ _ rfl, routeUni, hkind, if_pos (by simp),
    routeUniPayload, if_pos rfl, if_pos (by simp)] at hroute
  have hfeed := congrArg Prod.fst (Option.some.inj hroute)
  have hlonger : r.feed.log = s.log ++ [.streamData a [0] false] := by
    dsimp only at hfeed
    rw [← hfeed]
    rfl
  rw [hlog] at hlonger
  simp at hlonger

end Lost

lemma mem_of_streamKind {e : Endpoint} {a : ℕ} (h : http3EndpointStreamKind e a ≠ .unknown) :
    ∃ x ∈ e.streams, x.streamId = a ∧ http3EndpointStreamKind e a = x.kind := by
  unfold http3EndpointStreamKind at h ⊢
  cases hfind : e.streams.find? (fun x => x.streamId = a) with
  | none =>
    rw [hfind] at h
    exact absurd rfl h
  | some x =>
    have hid := List.find?_some hfind
    exact ⟨x, List.mem_of_find?_eq_some hfind, by simpa using hid, rfl⟩

/-- **Late frames of a rejected stream** are ignored exactly on the unidirectional streams
this endpoint opened. -/
theorem lateFrames_ignored_iff {role : Http3Role} {a : ℕ} {s s' : Feed}
    (hreach : DriverReached role s) (hremove : RemovesDataStream a s s') :
    LateFramesIgnored a s' ↔
      streamIsOurs s'.driver.endpoint a = true ∧ quicStreamIdIsBidirectional a = false := by
  have hcoherent := hreach.coherent
  obtain ⟨-, hbefore, hafter⟩ := id hremove
  obtain ⟨dataStreams, rfl⟩ := hremove.tables
  obtain ⟨e, he, hid⟩ : ∃ e ∈ s.driver.dataStreams, e.streamId = a := by
    simpa [http3DriverIsDataStream] using hbefore
  have hdata := not_dataStream hafter
  -- The stream was data, so no other table held an entry that could speak for it.
  have hpending : ∀ p ∈ s.driver.pending, p.streamId ≠ a := fun p hp => by
    rw [← hid]
    exact hcoherent.pendingApart p hp e he
  have hrequests : ∀ r ∈ s.driver.endpoint.requests, r.1 ≠ a := fun r hr => by
    rw [← hid]
    exact hcoherent.requestsApart r hr e he
  constructor
  · intro hignored
    cases hbidi : quicStreamIdIsBidirectional a with
    | true => exact absurd hignored (lateFrames_bidi hdata hbidi hpending hrequests)
    | false =>
      refine ⟨?_, rfl⟩
      by_contra hours
      rw [Bool.not_eq_true] at hours
      by_cases hkind : http3EndpointStreamKind s.driver.endpoint a = .unknown
      · exact lateFrames_unclassified hdata hbidi hours hpending hkind hignored
      · obtain ⟨x, hx, hxid, hkindx⟩ := mem_of_streamKind hkind
        have hweb := (hcoherent.streamsKind x hx).2 e he (hxid.trans hid.symm)
        exact lateFrames_session hdata hbidi hours (hkindx.trans hweb) hignored
  · rintro ⟨hours, huni⟩
    exact lateFrames_ours hafter hours huni

/-! ## A server that rejects two of its own streams -/

section Server

/-- A peer that takes streams and resets with a committed size. -/
def resettingPeer : PeerLimits :=
  { initialMaxData := 64, initialMaxStreamDataUni := 64, initialMaxStreamDataBidiRemote := 64,
    initialMaxStreamsUni := 1, initialMaxStreamsBidi := 1, resetStreamAt := true }

/-- A server that has opened a stream and written the prefix of a session on it. -/
def openedForSession (bidirectional : Bool) (streamId : ℕ) : Option Connection :=
  (quicSendStream steadyEnv 1 streamId [0x40, 0x41, 0x00] false 0
    (quicOpenStream bidirectional (takePeerLimits resettingPeer keyedServer)).1).map Prod.fst

/-- The driver of this server. -/
def drivenServer (streamId : ℕ) : Feed :=
  ⟨(rememberDataStream (http3DriverInit (http3EndpointInit .server)) streamId 3 none).1, []⟩

/-- The driver once the stream is rejected. -/
def rejectingServer (streamId : ℕ) : Feed :=
  (drivenServer streamId).setDriver
    { (drivenServer streamId).driver with dataStreams := [] }

lemma drivenServer_reached (streamId : ℕ) : DriverReached .server (drivenServer streamId) :=
  DriverReached.init.step (show DriverStep (.openStream streamId 3) _ _ from
    .openStream (http3DriverInit_noTrace .server streamId))

/-- The rejection is stated to the connection, which accepts it. -/
lemma rejectingServer_rejects (bidirectional : Bool) (streamId : ℕ)
    (hreject : ((http3DriverRejectDataStream steadyEnv 1 0x3994bd84 0 streamId
      (openedForSession bidirectional streamId) (drivenServer streamId).driver).map
        fun r => (r.1.dataStreams.length, r.2.2)) = some (0, .ok)) :
    RemovesDataStream streamId (drivenServer streamId) (rejectingServer streamId) := by
  obtain ⟨r, hr, hresult⟩ := Option.map_eq_some_iff.mp hreject
  obtain ⟨dataStreams, hdriver, -⟩ := rejectDataStream_spec hr
  have hstep := DriverStep.reject (s := drivenServer streamId) hr
  have hnone : dataStreams = [] := by
    rw [hdriver] at hresult
    exact List.eq_nil_of_length_eq_zero (congrArg Prod.fst hresult)
  rw [hdriver, hnone] at hstep
  refine ⟨.inl hstep, ?_, rfl⟩
  simp [drivenServer, rememberDataStream, http3DriverInit, http3DriverIsDataStream,
    http3DriverDataStreamsMax]

/-- The late bytes of the server's unidirectional stream are ignored. -/
theorem lateFrames_ignored_own_uni : LateFramesIgnored 3 (rejectingServer 3) :=
  (lateFrames_ignored_iff (drivenServer_reached 3)
    (rejectingServer_rejects false 3 (by decide +kernel))).mpr ⟨by decide, by decide⟩

/-- Those of its bidirectional stream are not: they open a request. -/
theorem lateFrames_open_request :
    ¬ ∀ (role : Http3Role) (a : ℕ) (s s' : Feed), DriverReached role s →
      RemovesDataStream a s s' → LateFramesIgnored a s' := by
  intro h
  have hignored := h .server 1 (drivenServer 1) (rejectingServer 1) (drivenServer_reached 1)
    (rejectingServer_rejects true 1 (by decide +kernel))
  have hdata : ∀ e ∈ (rejectingServer 1).driver.dataStreams, e.streamId ≠ 1 := fun e he => nomatch he
  exact lateFrames_bidi hdata (by decide) (fun p hp => nomatch hp) (fun r hr => nomatch hr)
    hignored

end Server

end WebTransport
