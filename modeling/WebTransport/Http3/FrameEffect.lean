import WebTransport.Http3.PrefixCuts

/-!
# What a STREAM frame does

The inversion of the routing: everything a STREAM frame can have done to the driver, with the
status it was answered with. What holds across frames is derived from it.
-/

namespace WebTransport

/-- The driver once a request stream is tracked. -/
def Driver.withRequest (d : Driver) (a : ℕ) : Driver :=
  d.setEndpoint { d.endpoint with requests := d.endpoint.requests ++ [(a, false)] }

/-- The driver once a peer's unidirectional stream of HTTP/3's own is classified: a control or
a QPACK stream. -/
structure Classifies (a : ℕ) (d d' : Driver) : Prop where
  pending : d'.pending = d.pending
  frames : d'.frames = d.frames
  frameCount : d'.frameCount = d.frameCount
  dataStreams : d'.dataStreams = d.dataStreams
  capsuleStreams : d'.capsuleStreams = d.capsuleStreams
  role : d'.endpoint.role = d.endpoint.role
  requests : d'.endpoint.requests = d.endpoint.requests
  fresh : ∀ e ∈ d.endpoint.streams, e.streamId ≠ a
  streams : ∃ e, d'.endpoint.streams = d.endpoint.streams ++ [e] ∧ e.streamId = a ∧
    (e.kind = .control ∨ e.kind = .qpackEncoder ∨ e.kind = .qpackDecoder)

/-- The frame carries bytes, and with the held ones they are no start of a stream of an
unknown type. -/
def BeginsKnown (d : Driver) (f : StreamFrame) : Prop :=
  f.data ≠ [] ∧ ∀ type rest, quicVarintDecode (heldBytes d f.id ++ f.data) = .ok (type, rest) →
    ¬UnknownStreamType type

/-- The frames of one of HTTP/3's own streams, and the stream's end. -/
structure UniFrames (f : StreamFrame) (s : Feed) (status : Status) (s' : Feed) : Prop where
  works : ∃ s₁, FrameWork f.id s s₁ ∧
    (s' = s₁ ∧ (status = .ok → f.fin = false) ∨
      s' = s₁.setDriver (http3DriverOnUniStreamEnd s₁.driver f.id).1 ∧
        (http3DriverOnUniStreamEnd s₁.driver f.id).2.1 = status)

/-- What a STREAM frame that is answered with a status has done. -/
inductive FrameEffect (f : StreamFrame) (s : Feed) : Status → Feed → Prop
  | data {status : Status} {s' : Feed} (hdata : http3DriverIsDataStream s.driver f.id = true)
      (hdriver : s'.driver = s.driver) : FrameEffect f s status s'
  | ours (hours : streamIsOurs s.driver.endpoint f.id = true)
      (huni : quicStreamIdIsBidirectional f.id = false) : FrameEffect f s .ok s
  | held {bytes : List UInt8} (hdata : http3DriverIsDataStream s.driver f.id = false)
      (hshort : quicStreamIdIsBidirectional f.id = false →
        f.data ≠ [] ∧ bytes = heldBytes s.driver f.id ++ f.data ∧ readUniPrefix bytes = none)
      (hok : (holdPending s.driver f.id bytes).2 = .ok) :
      FrameEffect f s .ok (s.setDriver (holdPending s.driver f.id bytes).1)
  | bidiSession {status : Status} {s' : Feed} {sessionId : ℕ}
      (hbidi : quicStreamIdIsBidirectional f.id = true)
      (hnew : http3EndpointRequestTracked s.driver.endpoint f.id = false)
      (hdriver : s'.driver = (forgetPending s.driver f.id).withDataStream f.id sessionId) :
      FrameEffect f s status s'
  | tracked {status : Status} {s' : Feed} (hbidi : quicStreamIdIsBidirectional f.id = true)
      (htracked : http3EndpointRequestTracked s.driver.endpoint f.id = true)
      (hwork : FrameWork f.id s s') : FrameEffect f s status s'
  | request {status : Status} {s' : Feed} {d : Driver}
      (hbidi : quicStreamIdIsBidirectional f.id = true)
      (hdata : http3DriverIsDataStream s.driver f.id = false)
      (hd : d = s.driver ∨ d = forgetPending s.driver f.id)
      (hwork : FrameWork f.id (s.setDriver (d.withRequest f.id)) s') : FrameEffect f s status s'
  | empty (huni : quicStreamIdIsBidirectional f.id = false)
      (hunknown : http3EndpointStreamKind s.driver.endpoint f.id = .unknown)
      (hempty : f.data = []) : FrameEffect f s .ok s
  | unknownType {type : ℕ} {rest : List UInt8}
      (huni : quicStreamIdIsBidirectional f.id = false)
      (hread : quicVarintDecode (heldBytes s.driver f.id ++ f.data) = .ok (type, rest))
      (htype : UnknownStreamType type) :
      FrameEffect f s .ok (s.setDriver (forgetPending s.driver f.id))
  | uniSession {status : Status} {s' : Feed} {sessionId : ℕ}
      (huni : quicStreamIdIsBidirectional f.id = false)
      (hstart : BeginsKnown s.driver f)
      (hnew : ∀ e ∈ s.driver.endpoint.streams, e.streamId ≠ f.id)
      (hdriver : s'.driver =
        ((forgetPending s.driver f.id).withUniStream f.id).withDataStream f.id sessionId) :
      FrameEffect f s status s'
  | uniKnown {status : Status} {s' : Feed}
      (hkind : http3EndpointStreamKind s.driver.endpoint f.id = .webtransport)
      (hdriver : s'.driver = s.driver) : FrameEffect f s status s'
  | uniFrames {status : Status} {s' : Feed} (huni : quicStreamIdIsBidirectional f.id = false)
      (hkind : http3EndpointStreamKind s.driver.endpoint f.id ≠ .unknown)
      (hweb : http3EndpointStreamKind s.driver.endpoint f.id ≠ .webtransport)
      (hframes : UniFrames f s status s') : FrameEffect f s status s'
  | uniClassified {status : Status} {s' : Feed} {d : Driver}
      (huni : quicStreamIdIsBidirectional f.id = false)
      (hdata : http3DriverIsDataStream s.driver f.id = false)
      (hstart : BeginsKnown s.driver f)
      (hclassified : Classifies f.id (forgetPending s.driver f.id) d)
      (hframes : UniFrames f (s.setDriver d) status s') : FrameEffect f s status s'
  | refused {status : Status} {s' : Feed} {d : Driver} (hrefused : status ≠ .ok)
      (hd : d = s.driver ∨ d = forgetPending s.driver f.id)
      (hwork : FrameWork f.id (s.setDriver d) s') : FrameEffect f s status s'
  | unremembered {status : Status} (hrefused : status ≠ .ok)
      (huni : quicStreamIdIsBidirectional f.id = false)
      (hnew : ∀ e ∈ s.driver.endpoint.streams, e.streamId ≠ f.id) :
      FrameEffect f s status
        (s.setDriver ((forgetPending s.driver f.id).withUniStream f.id))

section Effect

variable {sink : Sink} {M : ℕ} {f : StreamFrame} {s s' : Feed} {reply : Reply}

lemma report_driver (s : Feed) (callback : Option (List SinkEvent → Status))
    (event : SinkEvent) : (s.report callback event).1.driver = s.driver := by
  cases callback with
  | none => rfl
  | some answer => rfl

lemma deliverAfterPrefix_driver (sink : Sink) (a : ℕ) (assembled left : List UInt8) (fin : Bool) (s : Feed) :
    (deliverAfterPrefix sink a assembled left fin s).1.driver = s.driver := by
  unfold deliverAfterPrefix
  extract_lets first
  have hfirst : first.1.driver = s.driver := by
    by_cases hassembled : assembled ≠ []
    · simp only [first, if_pos hassembled]
      exact report_driver _ _ _
    · simp only [first, if_neg hassembled]
  split_ifs
  · rfl
  · exact hfirst
  · rw [report_driver]
    exact hfirst
  · exact hfirst

lemma rememberDataStream_spec (d : Driver) (a sessionId : ℕ) :
    rememberDataStream d a 0 (some sessionId) = (d, .limit) ∨
      rememberDataStream d a 0 (some sessionId) = (d.withDataStream a sessionId, .ok) := by
  unfold rememberDataStream
  by_cases hfull : d.dataStreams.length ≥ http3DriverDataStreamsMax
  · exact .inl (if_pos hfull)
  · exact .inr (if_neg hfull)

/-- A request stream that is not tracked yet. -/
lemma routeRequest_effect {d : Driver} {log : List SinkEvent}
    (hnew : http3EndpointRequestTracked d.endpoint f.id = false)
    (h : routeRequest sink M false f ⟨d, log⟩ = some (s', reply)) :
    FrameWork f.id ⟨d.withRequest f.id, log⟩ s' ∨ reply.1 ≠ .ok ∧ s' = ⟨d, log⟩ := by
  unfold routeRequest at h
  rcases http3EndpointOnRequestStream_spec hnew with hspec | hspec | hspec
  · simp only [Bool.false_eq_true, if_false, hspec] at h
    cases h
    exact .inr ⟨by simp, rfl⟩
  · simp only [Bool.false_eq_true, if_false, hspec] at h
    cases h
    exact .inr ⟨by simp, rfl⟩
  · simp only [Bool.false_eq_true, if_false, hspec] at h
    rw [if_neg (by simp [Reply.good])] at h
    exact .inl (http3DriverOnStreamBytes_works sink h).1

/-- Working on the frames of a stream before it is tracked or after makes no difference. -/
lemma FrameWork.withRequest {a : ℕ} {d : Driver} {log : List SinkEvent}
    (h : FrameWork a ⟨d, log⟩ s) (h' : FrameWork a (s.setDriver (s.driver.withRequest a)) s') :
    FrameWork a ⟨d.withRequest a, log⟩ s' := by
  obtain ⟨first, hlog, hfirst⟩ := h.events
  obtain ⟨second, hlog', hsecond⟩ := h'.events
  refine ⟨h'.pending.trans h.pending, h'.dataStreams.trans h.dataStreams,
    h'.sessionId.trans h.sessionId, h'.role.trans h.role, h'.streams.trans h.streams, ?_,
    h'.marks.trans h.marks, fun x hx hin => h.entries x hx (h'.entries x hx hin),
    first ++ second, ?_, ?_⟩
  · rw [h'.requests]
    change s.driver.endpoint.requests ++ [(a, false)] = d.endpoint.requests ++ [(a, false)]
    rw [h.requests]
  · rw [hlog', Feed.setDriver_log, hlog, List.append_assoc]
  · intro e he
    rcases List.mem_append.mp he with he | he
    · exact hfirst e he
    · have hwork := hsecond e he
      have hmarks : (s.driver.withRequest a).marked = d.marked := h.marks
      rw [Feed.setDriver_driver, hmarks] at hwork
      exact hwork

lemma holdPending_refused {d : Driver} {a : ℕ} {bytes : List UInt8}
    (hrefused : (holdPending d a bytes).2 ≠ .ok) : (holdPending d a bytes).1 = d := by
  unfold holdPending at hrefused ⊢
  split_ifs at hrefused ⊢
  · exact absurd rfl hrefused
  · rfl
  · exact absurd rfl hrefused

/-- Bytes of a prefix are held, or refused when the table is full. -/
lemma holdPending_effect {bytes : List UInt8}
    (hdata : http3DriverIsDataStream s.driver f.id = false)
    (hshort : quicStreamIdIsBidirectional f.id = false →
      f.data ≠ [] ∧ bytes = heldBytes s.driver f.id ++ f.data ∧ readUniPrefix bytes = none) :
    FrameEffect f s (holdPending s.driver f.id bytes).2
      (s.setDriver (holdPending s.driver f.id bytes).1) := by
  by_cases hok : (holdPending s.driver f.id bytes).2 = .ok
  · rw [hok]
    exact .held hdata hshort hok
  · refine .refused hok (.inl rfl) ?_
    rw [holdPending_refused hok]
    exact FrameWork.refl _ _

lemma routeBidi_effect (hdata : http3DriverIsDataStream s.driver f.id = false)
    (hbidi : quicStreamIdIsBidirectional f.id = true)
    (h : routeBidi sink M f s = some (s', reply)) : FrameEffect f s reply.1 s' := by
  obtain ⟨d, log⟩ := s
  cases htracked : http3EndpointRequestTracked d.endpoint f.id with
  | true =>
    rw [routeBidi, htracked, if_neg (by simp)] at h
    simp only [routeRequest, if_true] at h
    rw [if_neg (by simp [Reply.good])] at h
    exact .tracked hbidi htracked (http3DriverOnStreamBytes_works sink h).1
  | false =>
    rw [routeBidi, htracked] at h
    by_cases hstart : (findPending d f.id).isSome = true ∨ f.offset = 0 ∧ f.data.length > 0
    · rw [if_pos ⟨rfl, hstart⟩] at h
      dsimp only at h
      split at h
      case h_1 =>
        cases h
        exact holdPending_effect hdata (fun huni => absurd (hbidi.symm.trans huni) (by simp))
      case h_2 start _ =>
        cases start with
        | webtransport sessionId consumed =>
          dsimp only at h
          by_cases hforeign : foreignSession (forgetPending d f.id) sessionId = true
          · rw [Feed.setDriver_driver, if_pos hforeign] at h
            cases h
            exact .refused (by simp) (.inr rfl) (FrameWork.refl _ _)
          · rw [Feed.setDriver_driver, if_neg hforeign] at h
            rcases rememberDataStream_spec (forgetPending d f.id) f.id sessionId with
              hspec | hspec
            · rw [hspec, if_pos (by simp)] at h
              cases h
              exact .refused (by simp) (.inr rfl) (FrameWork.refl _ _)
            · rw [hspec, if_neg (by simp)] at h
              have hdriver := deliverAfterPrefix_driver sink f.id
                ((heldBytes d f.id ++ f.data.take
                  (min f.data.length (http3DriverPrefixMax - (heldBytes d f.id).length))).drop
                    consumed)
                (f.data.drop
                  (min f.data.length (http3DriverPrefixMax - (heldBytes d f.id).length)))
                f.fin (Feed.setDriver ⟨d, log⟩
                  ((forgetPending d f.id).withDataStream f.id sessionId))
              have hresult := Option.some.inj h
              simp only [Feed.setDriver] at hresult hdriver
              rw [hresult] at hdriver
              exact .bidiSession hbidi htracked hdriver
        | request =>
          dsimp only at h
          split_ifs at h with hheld
          · cases hreplay : http3DriverOnStreamBytes sink M f.id (heldBytes d f.id) false
                (Feed.setDriver ⟨d, log⟩ (forgetPending d f.id)) with
            | none =>
              rw [hreplay] at h
              cases h
            | some r =>
              obtain ⟨s₁, r⟩ := r
              rw [hreplay] at h
              dsimp only at h
              have hwork := (http3DriverOnStreamBytes_works sink hreplay).1
              by_cases hr : r.1 ≠ .ok
              · rw [if_pos hr] at h
                cases h
                exact .refused hr (.inr rfl) hwork
              · rw [if_neg hr] at h
                have hnew : http3EndpointRequestTracked s₁.driver.endpoint f.id = false := by
                  have hrequests : s₁.driver.endpoint.requests = d.endpoint.requests :=
                    hwork.requests
                  unfold http3EndpointRequestTracked at htracked ⊢
                  rwa [hrequests]
                rcases routeRequest_effect hnew h with hframes | ⟨hrefused, rfl⟩
                · exact .request hbidi hdata (.inr rfl) (hwork.withRequest hframes)
                · exact .refused hrefused (.inr rfl) hwork
          · rcases routeRequest_effect (d := forgetPending d f.id) htracked h with
              hframes | ⟨hrefused, rfl⟩
            · exact .request hbidi hdata (.inr rfl) hframes
            · exact .refused hrefused (.inr rfl) (FrameWork.refl _ _)
    · rw [if_neg (fun hcond => hstart hcond.2)] at h
      rcases routeRequest_effect htracked h with hframes | ⟨hrefused, rfl⟩
      · exact .request hbidi hdata (.inl rfl) hframes
      · exact .refused hrefused (.inl rfl) (FrameWork.refl _ _)

/-- The assembly divides the bytes, and stops short of a complete prefix only when they are
all used. -/
lemma assemblePrefix_spec {fuel : ℕ} (held : List UInt8) {data : List UInt8}
    (hfuel : data.length < fuel) :
    (assemblePrefix fuel held data).1 ++ (assemblePrefix fuel held data).2 = held ++ data ∧
      ((assemblePrefix fuel held data).1.length <
          uniPrefixLength (assemblePrefix fuel held data).1 →
        (assemblePrefix fuel held data).2 = []) := by
  induction fuel generalizing held data with
  | zero => omega
  | succ fuel ih =>
    rw [assemblePrefix]
    by_cases hstop : held.length ≥ uniPrefixLength held ∨
        min (uniPrefixLength held - held.length) data.length = 0
    · rw [if_pos hstop]
      refine ⟨rfl, fun hshort => ?_⟩
      apply List.eq_nil_of_length_eq_zero
      dsimp only at hshort ⊢
      omega
    · rw [if_neg hstop]
      have hshorter : (data.drop (min (uniPrefixLength held - held.length) data.length)).length <
          fuel := by
        rw [List.length_drop]
        omega
      obtain ⟨happend, hrest⟩ := ih (held ++ data.take
        (min (uniPrefixLength held - held.length) data.length)) hshorter
      refine ⟨?_, hrest⟩
      rw [happend, List.append_assoc, List.take_append_drop]

/-- The endpoint's tables after a stream of HTTP/3's own is recorded. -/
structure RecordsStream (a : ℕ) (e : Endpoint) (r : Endpoint × Reply × EndpointStreamKind) :
    Prop where
  role : r.1.role = e.role
  requests : r.1.requests = e.requests
  streams : ∃ x, r.1.streams = e.streams ++ [x] ∧ x.streamId = a ∧ x.kind = r.2.2
  kind : r.2.2 = .control ∨ r.2.2 = .qpackEncoder ∨ r.2.2 = .qpackDecoder

lemma recordStream_accepted {e : Endpoint} {x : EndpointStream}
    (hok : (recordStream e x).2.1.1 = .ok) :
    recordStream e x = ({ e with streams := e.streams ++ [x] }, Reply.good, x.kind) := by
  unfold recordStream at hok ⊢
  by_cases hfull : e.streams.length ≥ http3EndpointStreamsMax
  · rw [if_pos hfull] at hok
    cases hok
  · rw [if_neg hfull]

/-- What the endpoint makes of a stream it accepts. -/
lemma http3EndpointOnUniStream_accepted {e : Endpoint} {a : ℕ} {P : List UInt8}
    (hok : (http3EndpointOnUniStream e a P).2.1.1 = .ok) :
    (∀ x ∈ e.streams, x.streamId ≠ a) ∧ ∃ type rest, quicVarintDecode P = .ok (type, rest) ∧
      (type = webtransportStreamUni ∧ http3EndpointOnUniStream e a P =
          ({ e with
              peerWebtransportStreamsSeen := true
              streams := e.streams ++ [⟨a, .webtransport, webtransportStreamUni⟩] },
            Reply.good, .webtransport) ∨
        UnknownStreamType type ∧ http3EndpointOnUniStream e a P = (e, Reply.good, .unknown) ∨
        (type ≠ webtransportStreamUni ∧ ¬UnknownStreamType type) ∧
          RecordsStream a e (http3EndpointOnUniStream e a P)) := by
  unfold http3EndpointOnUniStream at hok ⊢
  by_cases hknown : e.streams.any (fun s => s.streamId = a) = true
  · rw [if_pos hknown] at hok
    cases hok
  · rw [if_neg hknown] at hok ⊢
    have hnew : ∀ x ∈ e.streams, x.streamId ≠ a := by simpa using hknown
    refine ⟨hnew, ?_⟩
    cases hdecode : quicVarintDecode P with
    | error err =>
      rw [hdecode] at hok
      cases hok
    | ok r =>
      obtain ⟨type, rest⟩ := r
      rw [hdecode] at hok
      refine ⟨type, rest, rfl, ?_⟩
      dsimp only at hok ⊢
      by_cases huni : type = webtransportStreamUni
      · rw [if_pos huni] at hok ⊢
        subst huni
        exact .inl ⟨rfl, recordStream_accepted hok⟩
      rw [if_neg huni] at hok ⊢
      by_cases hcontrol : type = http3StreamControl
      · rw [if_pos hcontrol] at hok ⊢
        right
        right
        split at hok
        case h_1 =>
          rw [recordStream_accepted hok]
          exact ⟨⟨huni, fun htype => htype.1 hcontrol⟩, rfl, rfl, ⟨_, rfl, rfl, rfl⟩, .inl rfl⟩
        case h_2 control reply hnot heq =>
          obtain ⟨status, error⟩ := reply
          obtain rfl : status = .ok := hok
          exact (hnot error rfl).elim
      rw [if_neg hcontrol] at hok ⊢
      by_cases hencoder : type = http3StreamQpackEncoder
      · rw [if_pos hencoder] at hok ⊢
        by_cases hseen : e.peerQpackEncoderSeen = true
        · rw [if_pos hseen] at hok
          cases hok
        · rw [if_neg hseen] at hok ⊢
          rw [recordStream_accepted hok]
          exact .inr (.inr ⟨⟨huni, fun htype => htype.2.2.1 hencoder⟩, rfl, rfl, ⟨_, rfl, rfl, rfl⟩,
            .inr (.inl rfl)⟩)
      rw [if_neg hencoder] at hok ⊢
      by_cases hdecoder : type = http3StreamQpackDecoder
      · rw [if_pos hdecoder] at hok ⊢
        by_cases hseen : e.peerQpackDecoderSeen = true
        · rw [if_pos hseen] at hok
          cases hok
        · rw [if_neg hseen] at hok ⊢
          rw [recordStream_accepted hok]
          exact .inr (.inr ⟨⟨huni, fun htype => htype.2.2.2.1 hdecoder⟩, rfl, rfl, ⟨_, rfl, rfl, rfl⟩,
            .inr (.inr rfl)⟩)
      rw [if_neg hdecoder] at hok ⊢
      by_cases hpush : type = http3StreamPush
      · rw [if_pos hpush] at hok
        split_ifs at hok
      rw [if_neg hpush]
      exact .inr (.inl ⟨⟨hcontrol, hpush, hencoder, hdecoder, huni⟩, rfl⟩)

lemma http3EndpointOnUniStream_refused {e : Endpoint} {a : ℕ} {P : List UInt8}
    (hrefused : (http3EndpointOnUniStream e a P).2.1.1 ≠ .ok) :
    (http3EndpointOnUniStream e a P).1.role = e.role ∧
      (http3EndpointOnUniStream e a P).1.streams = e.streams ∧
      (http3EndpointOnUniStream e a P).1.requests = e.requests := by
  have hrecord : ∀ {e' : Endpoint} {x : EndpointStream}, (recordStream e' x).2.1.1 ≠ .ok →
      (recordStream e' x).1 = e' := by
    intro e' x hx
    unfold recordStream at hx ⊢
    split_ifs at hx ⊢
    · rfl
    · exact absurd rfl hx
  unfold http3EndpointOnUniStream at hrefused ⊢
  by_cases hknown : e.streams.any (fun s => s.streamId = a) = true
  · rw [if_pos hknown]
    exact ⟨rfl, rfl, rfl⟩
  rw [if_neg hknown] at hrefused ⊢
  cases hdecode : quicVarintDecode P with
  | error err => exact ⟨rfl, rfl, rfl⟩
  | ok r =>
    obtain ⟨type, rest⟩ := r
    rw [hdecode] at hrefused
    dsimp only at hrefused ⊢
    by_cases huni : type = webtransportStreamUni
    · rw [if_pos huni] at hrefused ⊢
      rw [hrecord hrefused]
      exact ⟨rfl, rfl, rfl⟩
    rw [if_neg huni] at hrefused ⊢
    by_cases hcontrol : type = http3StreamControl
    · rw [if_pos hcontrol] at hrefused ⊢
      split at hrefused
      · rw [hrecord hrefused]
        exact ⟨rfl, rfl, rfl⟩
      · exact ⟨rfl, rfl, rfl⟩
    rw [if_neg hcontrol] at hrefused ⊢
    by_cases hencoder : type = http3StreamQpackEncoder
    · rw [if_pos hencoder] at hrefused ⊢
      by_cases hseen : e.peerQpackEncoderSeen = true
      · rw [if_pos hseen]
        exact ⟨rfl, rfl, rfl⟩
      · rw [if_neg hseen] at hrefused ⊢
        rw [hrecord hrefused]
        exact ⟨rfl, rfl, rfl⟩
    rw [if_neg hencoder] at hrefused ⊢
    by_cases hdecoder : type = http3StreamQpackDecoder
    · rw [if_pos hdecoder] at hrefused ⊢
      by_cases hseen : e.peerQpackDecoderSeen = true
      · rw [if_pos hseen]
        exact ⟨rfl, rfl, rfl⟩
      · rw [if_neg hseen] at hrefused ⊢
        rw [hrecord hrefused]
        exact ⟨rfl, rfl, rfl⟩
    rw [if_neg hdecoder]
    split_ifs <;> exact ⟨rfl, rfl, rfl⟩

/-- The endpoint takes the stream of a session. -/
lemma classifyUniStream_session {d : Driver} {a : ℕ} {P payload rest : List UInt8}
    (hok : (classifyUniStream d a P payload).reply.1 = .ok)
    (hread : quicVarintDecode P = .ok (webtransportStreamUni, rest)) :
    (∀ e ∈ d.endpoint.streams, e.streamId ≠ a) ∧
      classifyUniStream d a P payload =
        ⟨d.withUniStream a, Reply.good, .webtransport, payload⟩ := by
  unfold classifyUniStream at hok ⊢
  by_cases hrefused : (http3EndpointOnUniStream d.endpoint a P).2.1.1 ≠ .ok
  · rw [if_pos hrefused] at hok
    exact absurd hok hrefused
  · rw [if_neg hrefused]
    obtain ⟨hnew, type, rest', hread', hcases⟩ :=
      http3EndpointOnUniStream_accepted (not_not.mp hrefused)
    rw [hread] at hread'
    cases hread'
    refine ⟨hnew, ?_⟩
    rcases hcases with ⟨-, hweb⟩ | ⟨htype, -⟩ | ⟨⟨hother, -⟩, -⟩
    · rw [hweb]
      rfl
    · exact absurd rfl htype.2.2.2.2
    · exact absurd rfl hother

lemma settleUniPrefix_accepted {d : Driver} {a : ℕ} {P payload : List UInt8} {start : UniStart}
    (hstart : settleUniPrefix d a P payload = start) (hok : start.reply.1 = .ok) :
    (∃ type rest, quicVarintDecode P = .ok (type, rest) ∧ UnknownStreamType type ∧
        start.driver = d ∧ start.kind = .unknown) ∨
      (∃ type rest, quicVarintDecode P = .ok (type, rest) ∧ ¬UnknownStreamType type) ∧
        ((∀ e ∈ d.endpoint.streams, e.streamId ≠ a) ∧
            (∃ sessionId, start.driver = (d.withUniStream a).withDataStream a sessionId) ∧
            start.kind = .webtransport ∨
          Classifies a d start.driver ∧ start.kind ≠ .unknown ∧ start.kind ≠ .webtransport) := by
  have hclassify : ∀ r, classifyUniStream d a P payload = r → r.reply.1 = .ok →
      (http3EndpointOnUniStream d.endpoint a P).2.1.1 = .ok ∧
        r = ⟨d.setEndpoint (http3EndpointOnUniStream d.endpoint a P).1, Reply.good,
          (http3EndpointOnUniStream d.endpoint a P).2.2, payload⟩ := by
    rintro r rfl hr
    unfold classifyUniStream at hr ⊢
    by_cases hrefused : (http3EndpointOnUniStream d.endpoint a P).2.1.1 ≠ .ok
    · rw [if_pos hrefused] at hr
      exact absurd hr hrefused
    · rw [if_neg hrefused]
      exact ⟨not_not.mp hrefused, rfl⟩
  unfold settleUniPrefix at hstart
  cases hdecode : quicVarintDecode P with
  | error err =>
    rw [hdecode] at hstart
    subst hstart
    cases hok
  | ok r =>
    obtain ⟨type, session⟩ := r
    rw [hdecode] at hstart
    dsimp only at hstart
    by_cases huni : type = webtransportStreamUni
    · rw [if_pos huni] at hstart
      cases hsession : quicVarintDecode session with
      | error err =>
        rw [hsession] at hstart
        subst hstart
        cases hok
      | ok q =>
        obtain ⟨sessionId, q⟩ := q
        rw [hsession] at hstart
        dsimp only at hstart
        by_cases hforeign : foreignSession d sessionId = true
        · rw [if_pos hforeign] at hstart
          subst hstart
          cases hok
        · rw [if_neg hforeign] at hstart
          by_cases hrefused : (classifyUniStream d a P payload).reply.1 ≠ .ok
          · rw [if_pos hrefused] at hstart
            subst hstart
            exact absurd hok hrefused
          · rw [if_neg hrefused] at hstart
            obtain ⟨hnew, hclassified⟩ :=
              classifyUniStream_session (not_not.mp hrefused) (huni ▸ hdecode)
            rw [hclassified] at hstart
            dsimp only at hstart
            rcases rememberDataStream_spec (d.withUniStream a) a sessionId with hspec | hspec
            · rw [hspec, if_pos (by simp)] at hstart
              subst hstart
              cases hok
            · rw [hspec, if_neg (by simp)] at hstart
              subst hstart
              exact .inr ⟨⟨type, session, rfl, fun htype => htype.2.2.2.2 huni⟩,
                .inl ⟨hnew, ⟨sessionId, rfl⟩, rfl⟩⟩
    · rw [if_neg huni] at hstart
      obtain ⟨haccepted, rfl⟩ := hclassify _ hstart hok
      obtain ⟨hnew, type', rest', hdecode', hcases⟩ :=
        http3EndpointOnUniStream_accepted haccepted
      rw [hdecode] at hdecode'
      cases hdecode'
      rcases hcases with ⟨htype, -⟩ | ⟨htype, hsame⟩ | ⟨⟨-, htype⟩, hrecords⟩
      · exact absurd htype huni
      · refine .inl ⟨type, session, rfl, htype, ?_, ?_⟩
        · rw [hsame]
          exact setEndpoint_self d
        · rw [hsame]
      · obtain ⟨x, hx, hid, hkind⟩ := hrecords.streams
        refine .inr ⟨⟨type, session, rfl, htype⟩, .inr ⟨⟨rfl, rfl, rfl, rfl, rfl, hrecords.role,
          hrecords.requests, hnew, x, hx, hid, ?_⟩, ?_, ?_⟩⟩
        · rw [hkind]
          exact hrecords.kind
        · rcases hrecords.kind with h | h | h <;> rw [h] <;> simp
        · rcases hrecords.kind with h | h | h <;> rw [h] <;> simp

/-- A prefix the driver refuses: the endpoint's table may have taken the stream already. -/
lemma settleUniPrefix_refused {d : Driver} {a : ℕ} {P payload : List UInt8} (s : Feed)
    (hrefused : (settleUniPrefix d a P payload).reply.1 ≠ .ok) :
    FrameWork a (s.setDriver d) (s.setDriver (settleUniPrefix d a P payload).driver) ∨
      (∀ e ∈ d.endpoint.streams, e.streamId ≠ a) ∧
        (settleUniPrefix d a P payload).driver = d.withUniStream a := by
  have hclassify : (classifyUniStream d a P payload).reply.1 ≠ .ok →
      FrameWork a (s.setDriver d) (s.setDriver (classifyUniStream d a P payload).driver) := by
    intro hr
    unfold classifyUniStream at hr ⊢
    by_cases hendpoint : (http3EndpointOnUniStream d.endpoint a P).2.1.1 ≠ .ok
    · rw [if_pos hendpoint]
      obtain ⟨hrole, hstreams, hrequests⟩ := http3EndpointOnUniStream_refused hendpoint
      exact ⟨rfl, rfl, rfl, hrole, hstreams, hrequests, rfl, fun _ _ h => h, [], by simp,
        by simp⟩
    · rw [if_neg hendpoint] at hr
      exact absurd rfl hr
  unfold settleUniPrefix at hrefused ⊢
  cases hdecode : quicVarintDecode P with
  | error err => exact .inl (FrameWork.refl _ _)
  | ok r =>
    obtain ⟨type, session⟩ := r
    rw [hdecode] at hrefused
    dsimp only at hrefused ⊢
    by_cases huni : type = webtransportStreamUni
    · rw [if_pos huni] at hrefused ⊢
      cases hsession : quicVarintDecode session with
      | error err => exact .inl (FrameWork.refl _ _)
      | ok q =>
        obtain ⟨sessionId, q⟩ := q
        rw [hsession] at hrefused
        dsimp only at hrefused ⊢
        by_cases hforeign : foreignSession d sessionId = true
        · rw [if_pos hforeign]
          exact .inl (FrameWork.refl _ _)
        · rw [if_neg hforeign] at hrefused ⊢
          by_cases hr : (classifyUniStream d a P payload).reply.1 ≠ .ok
          · rw [if_pos hr]
            exact .inl (hclassify hr)
          · rw [if_neg hr] at hrefused ⊢
            obtain ⟨hnew, hclassified⟩ :=
              classifyUniStream_session (not_not.mp hr) (huni ▸ hdecode)
            rw [hclassified] at hrefused ⊢
            dsimp only at hrefused ⊢
            rcases rememberDataStream_spec (d.withUniStream a) a sessionId with hspec | hspec
            · rw [hspec, if_pos (by simp)]
              exact .inr ⟨hnew, rfl⟩
            · rw [hspec, if_neg (by simp)] at hrefused
              exact absurd rfl hrefused
    · rw [if_neg huni] at hrefused ⊢
      exact .inl (hclassify hrefused)

/-- Bytes the driver refuses before it reads a whole prefix change at most the held ones. -/
lemma http3DriverOnUniStreamData_refused {d : Driver} {a offset : ℕ} {data : List UInt8}
    (s : Feed) (hrefused : (http3DriverOnUniStreamData d a offset data).reply.1 ≠ .ok) :
    (∃ d', (d' = d ∨ d' = forgetPending d a) ∧ FrameWork a (s.setDriver d')
        (s.setDriver (http3DriverOnUniStreamData d a offset data).driver)) ∨
      (∀ e ∈ d.endpoint.streams, e.streamId ≠ a) ∧
        (http3DriverOnUniStreamData d a offset data).driver =
          (forgetPending d a).withUniStream a := by
  unfold http3DriverOnUniStreamData at hrefused ⊢
  by_cases hoffset : offset ≠ (heldBytes d a).length
  · rw [if_pos hoffset]
    exact .inl ⟨d, .inl rfl, FrameWork.refl _ _⟩
  · rw [if_neg hoffset] at hrefused ⊢
    by_cases hempty : data = []
    · rw [if_pos hempty]
      exact .inl ⟨d, .inl rfl, FrameWork.refl _ _⟩
    · rw [if_neg hempty] at hrefused ⊢
      by_cases hshort : (assemblePrefix (data.length + 1) (heldBytes d a) data).1.length <
          uniPrefixLength (assemblePrefix (data.length + 1) (heldBytes d a) data).1
      · rw [if_pos hshort] at hrefused ⊢
        refine .inl ⟨d, .inl rfl, ?_⟩
        dsimp only at hrefused ⊢
        rw [holdPending_refused hrefused]
        exact FrameWork.refl _ _
      · rw [if_neg hshort] at hrefused ⊢
        rcases settleUniPrefix_refused s hrefused with hwork | hnew
        · exact .inl ⟨_, .inr rfl, hwork⟩
        · exact .inr hnew

/-- What the driver makes of the bytes of a stream it has not classified. -/
lemma http3DriverOnUniStreamData_accepted {d : Driver} {a offset : ℕ} {data : List UInt8}
    {start : UniStart} (hstart : http3DriverOnUniStreamData d a offset data = start)
    (hok : start.reply.1 = .ok) :
    (data = [] ∧ start.driver = d ∧ start.kind = .unknown) ∨
      (data ≠ [] ∧ readUniPrefix (heldBytes d a ++ data) = none ∧
        start.driver = (holdPending d a (heldBytes d a ++ data)).1 ∧
        (holdPending d a (heldBytes d a ++ data)).2 = .ok ∧ start.kind = .unknown) ∨
      data ≠ [] ∧ ∃ P payload, P ++ payload = heldBytes d a ++ data ∧
        settleUniPrefix (forgetPending d a) a P payload = start := by
  unfold http3DriverOnUniStreamData at hstart
  by_cases hoffset : offset ≠ (heldBytes d a).length
  · rw [if_pos hoffset] at hstart
    subst hstart
    cases hok
  · rw [if_neg hoffset] at hstart
    by_cases hempty : data = []
    · rw [if_pos hempty] at hstart
      subst hstart
      exact .inl ⟨hempty, rfl, rfl⟩
    · rw [if_neg hempty] at hstart
      obtain ⟨happend, hall⟩ :=
        assemblePrefix_spec (heldBytes d a) (Nat.lt_succ_self data.length)
      by_cases hshort : (assemblePrefix (data.length + 1) (heldBytes d a) data).1.length <
          uniPrefixLength (assemblePrefix (data.length + 1) (heldBytes d a) data).1
      · have hbytes : (assemblePrefix (data.length + 1) (heldBytes d a) data).1 =
            heldBytes d a ++ data := by
          rw [← happend, hall hshort, List.append_nil]
        rw [if_pos hshort, hbytes] at hstart
        rw [hbytes] at hshort
        have hnone : readUniPrefix (heldBytes d a ++ data) = none := by
          cases hread : readUniPrefix (heldBytes d a ++ data) with
          | none => rfl
          | some r =>
            obtain ⟨t, i, r⟩ := r
            have hlen := length_of_readUniPrefix_some hread
            omega
        subst hstart
        exact .inr (.inl ⟨hempty, hnone, rfl, hok, rfl⟩)
      · rw [if_neg hshort] at hstart
        exact .inr (.inr ⟨hempty, _, _, happend, hstart⟩)

/-- The frames of one of HTTP/3's own streams. -/
lemma routeUniPayload_frames {kind : EndpointStreamKind} {payload : List UInt8}
    (hkind : kind ≠ .webtransport)
    (h : routeUniPayload sink M kind f.id payload f.fin s = some (s', reply)) :
    UniFrames f s reply.1 s' := by
  unfold routeUniPayload at h
  rw [if_neg hkind] at h
  have hwork : ∀ {r}, (if payload ≠ [] ∨ f.fin = true then
      http3DriverOnStreamBytes sink M f.id payload f.fin s
      else some (s, Reply.good)) = some r → FrameWork f.id s r.1 := by
    intro r hr
    by_cases hbytes : payload ≠ [] ∨ f.fin = true
    · rw [if_pos hbytes] at hr
      exact (http3DriverOnStreamBytes_works sink hr).1
    · rw [if_neg hbytes] at hr
      cases hr
      exact FrameWork.refl _ _
  cases hcall : (if payload ≠ [] ∨ f.fin = true then
      http3DriverOnStreamBytes sink M f.id payload f.fin s
      else some (s, Reply.good)) with
  | none =>
    rw [hcall] at h
    cases h
  | some r =>
    obtain ⟨s₁, r⟩ := r
    have hs₁ := hwork hcall
    rw [hcall] at h
    dsimp only at h
    by_cases hr : r.1 ≠ .ok
    · rw [if_pos hr] at h
      cases h
      exact ⟨_, hs₁, .inl ⟨rfl, fun hok => absurd hok hr⟩⟩
    · rw [if_neg hr] at h
      cases hfin : f.fin with
      | true =>
        rw [hfin, if_pos rfl] at h
        cases h
        exact ⟨s₁, hs₁, .inr ⟨rfl, rfl⟩⟩
      | false =>
        rw [hfin, if_neg (by simp)] at h
        cases h
        exact ⟨s', hs₁, .inl ⟨rfl, fun _ => hfin⟩⟩

lemma routeUniPayload_session {payload : List UInt8}
    (h : routeUniPayload sink M .webtransport f.id payload f.fin s = some (s', reply)) :
    s'.driver = s.driver := by
  unfold routeUniPayload at h
  rw [if_pos rfl] at h
  by_cases hbytes : payload ≠ []
  · rw [if_pos hbytes] at h
    have hdriver := report_driver s sink.onStreamData (.streamData f.id payload f.fin)
    rw [Option.some.inj h] at hdriver
    exact hdriver
  · rw [if_neg hbytes] at h
    cases h
    rfl

lemma routeUni_effect (hdata : http3DriverIsDataStream s.driver f.id = false)
    (huni : quicStreamIdIsBidirectional f.id = false)
    (h : routeUni sink M f s = some (s', reply)) : FrameEffect f s reply.1 s' := by
  unfold routeUni at h
  by_cases hkind : http3EndpointStreamKind s.driver.endpoint f.id ≠ .unknown
  · rw [if_pos hkind] at h
    by_cases hweb : http3EndpointStreamKind s.driver.endpoint f.id = .webtransport
    · rw [hweb] at h
      exact .uniKnown hweb (routeUniPayload_session h)
    · exact .uniFrames huni hkind hweb (routeUniPayload_frames hweb h)
  · rw [if_neg hkind] at h
    have hunknown := not_not.mp hkind
    by_cases hanswer :
        (http3DriverOnUniStreamData s.driver f.id f.offset f.data).reply.1 ≠ .ok
    · rw [if_pos hanswer] at h
      cases h
      rcases http3DriverOnUniStreamData_refused s hanswer with
        ⟨d, hd, hwork⟩ | ⟨hnew, hdriver⟩
      · exact .refused hanswer hd hwork
      · rw [hdriver]
        exact .unremembered hanswer huni hnew
    · rcases hstart : http3DriverOnUniStreamData s.driver f.id f.offset f.data with
        ⟨driver, answer, kind, payload⟩
      rw [hstart] at h hanswer
      dsimp only at h hanswer
      rw [if_neg hanswer] at h
      rcases http3DriverOnUniStreamData_accepted hstart (not_not.mp hanswer) with
        ⟨hempty, hdriver, hk⟩ | ⟨hne, hnone, hdriver, hheld, hk⟩ |
          ⟨hne, P, rest, happend, hsettle⟩
      · dsimp only at hdriver hk
        rw [if_pos hk, hdriver] at h
        cases h
        exact .empty huni hunknown hempty
      · dsimp only at hdriver hk
        rw [if_pos hk, hdriver] at h
        cases h
        exact .held hdata (fun _ => ⟨hne, rfl, hnone⟩) hheld
      · have hbegins : ∀ {type : ℕ} {left : List UInt8}, quicVarintDecode P = .ok (type, left) →
            ¬UnknownStreamType type → BeginsKnown s.driver f := by
          intro type left hdecode htype
          refine ⟨hne, fun type' rest' hread => ?_⟩
          rw [← happend, quicVarintDecode_append hdecode rest] at hread
          cases hread
          exact htype
        rcases settleUniPrefix_accepted hsettle (not_not.mp hanswer) with
          ⟨type, left, hdecode, htype, hdriver, hk⟩ |
            ⟨⟨type, left, hdecode, htype⟩, ⟨hnew, ⟨sessionId, hdriver⟩, hk⟩ |
              ⟨hclassified, hk, hweb⟩⟩
        · dsimp only at hdriver hk
          have hread := quicVarintDecode_append hdecode rest
          rw [happend] at hread
          rw [if_pos hk, hdriver] at h
          cases h
          exact .unknownType huni hread htype
        · dsimp only at hdriver hk
          subst hk
          rw [if_neg (by simp)] at h
          have hsame := routeUniPayload_session h
          rw [Feed.setDriver_driver, hdriver] at hsame
          exact .uniSession huni (hbegins hdecode htype) hnew hsame
        · rw [if_neg hk] at h
          exact .uniClassified huni hdata (hbegins hdecode htype) hclassified
            (routeUniPayload_frames hweb h)

/-- **What a STREAM frame does.** -/
theorem routeStreamFrame_effect (h : routeStreamFrame sink M f s = some (s', reply)) :
    FrameEffect f s reply.1 s' := by
  unfold routeStreamFrame at h
  by_cases hdata : http3DriverIsDataStream s.driver f.id = true
  · rw [if_pos hdata] at h
    have hdriver := report_driver s sink.onStreamData (.streamData f.id f.data f.fin)
    rw [Option.some.inj h] at hdriver
    exact .data hdata hdriver
  · rw [if_neg hdata] at h
    have hnot : http3DriverIsDataStream s.driver f.id = false := by simpa using hdata
    by_cases hours : streamIsOurs s.driver.endpoint f.id = true ∧
        (!quicStreamIdIsBidirectional f.id) = true
    · rw [if_pos hours] at h
      cases h
      exact .ours hours.1 (by simpa using hours.2)
    · rw [if_neg hours] at h
      cases hbidi : quicStreamIdIsBidirectional f.id with
      | true =>
        rw [hbidi, if_pos rfl] at h
        exact routeBidi_effect hnot hbidi h
      | false =>
        rw [hbidi, if_neg (by simp)] at h
        exact routeUni_effect hnot hbidi h

end Effect

end WebTransport
