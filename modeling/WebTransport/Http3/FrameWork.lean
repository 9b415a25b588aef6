import WebTransport.Http3.FrameTurn

/-!
# What the frame loop leaves alone

A call that turns the bytes of one stream into frames works on that stream's entry of the
frame table, on the control machine and on the stream's CONNECT mark. This module says once
what it leaves alone: the other tables, the entries of the other streams, and what the sink
is told about them.
-/

namespace WebTransport

/-- A live entry of the frame table belongs to a stream. -/
def Driver.InFrames (d : Driver) (streamId : ℕ) : Prop :=
  ∃ i < d.frameCount, (d.frames i).streamId = streamId

/-- The streams that carry a CONNECT mark. -/
def Driver.marked (d : Driver) : List ℕ := d.capsuleStreams.map CapsuleStream.streamId

/-- An event that tells the sink about a stream. -/
def SinkEvent.Names (streamId : ℕ) : SinkEvent → Prop
  | .framePayload id _ _ _ => id = streamId
  | .streamData id _ _ => id = streamId
  | .datagram _ => False

/-- What working on the frames of stream `a` leaves alone. On a stream without a mark the
sink is told about pieces of frames only. -/
structure FrameWork (a : ℕ) (s s' : Feed) : Prop where
  pending : s'.driver.pending = s.driver.pending
  dataStreams : s'.driver.dataStreams = s.driver.dataStreams
  sessionId : s'.driver.sessionId = s.driver.sessionId
  role : s'.driver.endpoint.role = s.driver.endpoint.role
  streams : s'.driver.endpoint.streams = s.driver.endpoint.streams
  requests : s'.driver.endpoint.requests = s.driver.endpoint.requests
  marks : s'.driver.marked = s.driver.marked
  entries : ∀ x ≠ a, s'.driver.InFrames x → s.driver.InFrames x
  events : ∃ events, s'.log = s.log ++ events ∧
    ∀ e ∈ events, e.Names a ∧ (a ∉ s.driver.marked → e.IsFramePayload)

section FrameWork

variable {a k : ℕ} {s s' s'' : Feed}

lemma FrameWork.refl (a : ℕ) (s : Feed) : FrameWork a s s :=
  ⟨rfl, rfl, rfl, rfl, rfl, rfl, rfl, fun _ _ h => h, [], by simp, by simp⟩

lemma FrameWork.trans (h : FrameWork a s s') (h' : FrameWork a s' s'') : FrameWork a s s'' := by
  obtain ⟨first, hlog, hfirst⟩ := h.events
  obtain ⟨second, hlog', hsecond⟩ := h'.events
  refine ⟨h'.pending.trans h.pending, h'.dataStreams.trans h.dataStreams,
    h'.sessionId.trans h.sessionId, h'.role.trans h.role, h'.streams.trans h.streams,
    h'.requests.trans h.requests, h'.marks.trans h.marks,
    fun x hx hin => h.entries x hx (h'.entries x hx hin), first ++ second, ?_, ?_⟩
  · rw [hlog', hlog, List.append_assoc]
  · intro e he
    rcases List.mem_append.mp he with he | he
    · exact hfirst e he
    · have hwork := hsecond e he
      rw [h.marks] at hwork
      exact hwork

lemma FrameWork.report (callback : Option (List SinkEvent → Status)) {event : SinkEvent}
    (hnames : event.Names a) (hplain : a ∉ s.driver.marked → event.IsFramePayload) :
    FrameWork a s (s.report callback event).1 := by
  cases callback with
  | none => exact FrameWork.refl a s
  | some answer =>
    refine ⟨rfl, rfl, rfl, rfl, rfl, rfl, rfl, fun _ _ h => h, [event], rfl, ?_⟩
    intro e he
    rw [List.mem_singleton.mp he]
    exact ⟨hnames, hplain⟩

lemma report_error (callback : Option (List SinkEvent → Status)) (event : SinkEvent) :
    (s.report callback event).2.2 = .noError := by
  cases callback with
  | none => rfl
  | some answer => rfl

lemma FrameWork.setEndpoint {e : Endpoint} (hrole : e.role = s.driver.endpoint.role)
    (hstreams : e.streams = s.driver.endpoint.streams)
    (hrequests : e.requests = s.driver.endpoint.requests) : FrameWork a s (s.setEndpoint e) :=
  ⟨rfl, rfl, rfl, hrole, hstreams, hrequests, rfl, fun _ _ h => h, [], by simp, by simp⟩

lemma FrameWork.setFrame {g : FrameState} (hid : g.streamId = (s.driver.frames k).streamId) :
    FrameWork a s (s.setFrame k g) := by
  refine ⟨rfl, rfl, rfl, rfl, rfl, rfl, rfl, ?_, [], by simp, by simp⟩
  rintro x - ⟨i, hi, hx⟩
  refine ⟨i, hi, ?_⟩
  by_cases hik : i = k
  · subst hik
    rw [← hx]
    simp [hid]
  · simpa [hik] using hx

lemma FrameWork.forget (a b : ℕ) (s : Feed) :
    FrameWork a s { s with driver := http3DriverForgetFrame s.driver b } := by
  unfold http3DriverForgetFrame
  cases hfind : findFrameState s.driver b with
  | none => exact FrameWork.refl a s
  | some i =>
    obtain ⟨hi, -⟩ := findFrameState_some hfind
    refine ⟨rfl, rfl, rfl, rfl, rfl, rfl, rfl, ?_, [], by simp, by simp⟩
    rintro x - ⟨j, hj, hx⟩
    simp only [setFrame_frames] at hj hx
    by_cases hji : j = i
    · subst hji
      exact ⟨s.driver.frameCount - 1, by omega, by simpa using hx⟩
    · exact ⟨j, by omega, by simpa [hji] using hx⟩

/-- Clearing a flag leaves the marks in their places. -/
lemma marked_clearPending (a : ℕ) (l : List CapsuleStream) :
    (clearPending a l).map CapsuleStream.streamId = l.map CapsuleStream.streamId := by
  induction l with
  | nil => rfl
  | cons m l ih =>
    by_cases hm : m.streamId = a
    · simp [clearPending, hm]
    · simp [clearPending, hm, ih]

lemma FrameWork.settle (a : ℕ) (s : Feed) :
    FrameWork a s { s with driver := settleCapsuleStream s.driver a } := by
  cases hpending : capsulePending s.driver a with
  | false =>
    rw [settleCapsuleStream_of_not_pending hpending]
    exact FrameWork.refl a s
  | true =>
    rw [settleCapsuleStream_of_pending hpending]
    have hclear : FrameWork a s
        { s with driver :=
            { s.driver with capsuleStreams := clearPending a s.driver.capsuleStreams } } :=
      ⟨rfl, rfl, rfl, rfl, rfl, rfl, marked_clearPending a _, fun _ _ h => h, [], by simp,
        by simp⟩
    exact hclear.trans (FrameWork.forget a a _)

lemma mem_marked_of_isCapsuleStream {d : Driver} (h : http3DriverIsCapsuleStream d a = true) :
    a ∈ d.marked := by
  unfold http3DriverIsCapsuleStream findCapsuleStream at h
  cases hm : d.capsuleStreams.find? (fun m => m.streamId = a) with
  | none => simp [hm] at h
  | some m =>
    have hid : m.streamId = a := by simpa using List.find?_some hm
    rw [← hid]
    exact List.mem_map_of_mem (List.mem_of_find?_eq_some hm)

end FrameWork

/-! ## One turn -/

section Turn

variable (sink : Sink) (a : ℕ) (c : Bool) (M k : ℕ)

/-- What a turn leaves alone, and that a stream other than the control stream is never
refused for an ID. -/
def Turn.Works (s : Feed) : Turn → Prop
  | .next s' _ => FrameWork a s s'
  | .stop s' reply => FrameWork a s s' ∧ (c = false → reply.2 ≠ .idError)

variable {a c}

lemma Turn.Works.after {s s' : Feed} {turn : Turn} (h : FrameWork a s s')
    (hturn : Turn.Works a c s' turn) : Turn.Works a c s turn := by
  cases turn with
  | next s'' data => exact h.trans hturn
  | stop s'' reply => exact ⟨h.trans hturn.1, hturn.2⟩

variable (a c)

/-- Delivering a piece: the control machine, then the sink. -/
lemma deliverFramePayload_works (s : Feed) (type : ℕ) (payload : List UInt8) (last : Bool) :
    FrameWork a s (deliverFramePayload sink a c s type payload last).1 ∧
      (c = false → (deliverFramePayload sink a c s type payload last).2.2 ≠ .idError) := by
  have hcontrol : FrameWork a s (s.setEndpoint
      (if c then http3EndpointOnControlPayload s.driver.endpoint type payload last
        else (s.driver.endpoint, Reply.good)).1) := by
    cases c with
    | false => exact FrameWork.setEndpoint rfl rfl rfl
    | true => exact FrameWork.setEndpoint rfl rfl rfl
  unfold deliverFramePayload
  extract_lets control s₁
  have hs₁ : FrameWork a s s₁ := hcontrol
  by_cases hrefused : control.2.1 ≠ .ok
  · rw [if_pos hrefused]
    refine ⟨hs₁, ?_⟩
    rintro rfl
    exact absurd rfl hrefused
  · rw [if_neg hrefused]
    by_cases hcapsule : http3DriverIsCapsuleStream s₁.driver a = true
    · rw [if_pos hcapsule]
      have hmarked := mem_marked_of_isCapsuleStream hcapsule
      by_cases htype : type ≠ http3FrameData
      · rw [if_pos htype]
        split_ifs
        · exact ⟨hs₁, fun _ => by simp⟩
        · exact ⟨hs₁, fun _ => by simp [Reply.good]⟩
      · rw [if_neg htype]
        refine ⟨hs₁.trans (FrameWork.report _ rfl fun h => absurd hmarked h), fun _ => ?_⟩
        rw [report_error]
        simp
    · rw [if_neg hcapsule]
      refine ⟨hs₁.trans (FrameWork.report _ rfl fun _ => trivial), fun _ => ?_⟩
      rw [report_error]
      simp

lemma frameEnd_works (s : Feed) (data : List UInt8) :
    Turn.Works a c s (frameEnd sink a c k s data) := by
  unfold frameEnd
  extract_lets f empty s₁
  by_cases hdone : f.payloadReceived = f.payloadLength
  · rw [if_pos hdone]
    have hempty : FrameWork a s empty.1 ∧ (c = false → empty.2.2 ≠ .idError) ∧
        empty.1.driver.frames = s.driver.frames := by
      by_cases hzero : f.payloadLength = 0
      · have hempty : empty = deliverFramePayload sink a c s f.type [] true := if_pos hzero
        obtain ⟨e, log, reply, hdeliver, -⟩ := deliverFramePayload_driver sink a c s f.type [] true
        rw [hempty]
        exact ⟨(deliverFramePayload_works sink a c s f.type [] true).1,
          (deliverFramePayload_works sink a c s f.type [] true).2, by rw [hdeliver]; rfl⟩
      · have hempty : empty = (s, Reply.good) := if_neg hzero
        rw [hempty]
        exact ⟨FrameWork.refl a s, fun _ => by simp [Reply.good], rfl⟩
    obtain ⟨hwork, herror, hframes⟩ := hempty
    have hs₁ : FrameWork a s s₁ := by
      refine hwork.trans (FrameWork.setFrame ?_)
      rw [hframes]
    split_ifs
    · exact ⟨hwork, herror⟩
    · exact hs₁.trans (FrameWork.settle a s₁)
    · exact hs₁
  · rw [if_neg hdone]
    exact FrameWork.refl a s

lemma takePayload_works (remaining : ℕ) (s : Feed) (data : List UInt8) :
    Turn.Works a c s (takePayload sink a c k remaining s data) := by
  unfold takePayload
  extract_lets f take r
  by_cases htake : take > 0
  · rw [if_pos htake]
    obtain ⟨hwork, herror⟩ :=
      deliverFramePayload_works sink a c s f.type (data.take take) (take = remaining)
    obtain ⟨e, log, reply, hdeliver, -⟩ :=
      deliverFramePayload_driver sink a c s f.type (data.take take) (take = remaining)
    by_cases hrefused : r.2.1 ≠ .ok
    · rw [if_pos hrefused]
      exact ⟨hwork, herror⟩
    · rw [if_neg hrefused]
      have hframes : r.1.driver.frames = s.driver.frames := by
        simp only [r, hdeliver]
        rfl
      apply Turn.Works.after (hwork.trans (FrameWork.setFrame ?_)) (frameEnd_works sink a c k _ _)
      change f.streamId = (r.1.driver.frames k).streamId
      rw [hframes]
  · rw [if_neg htake]
    exact frameEnd_works sink a c k s data

lemma framePayload_works (s : Feed) (data : List UInt8) :
    Turn.Works a c s (framePayload sink a c k s data) := by
  unfold framePayload
  extract_lets f remaining fromHeader r f₁ s₁
  by_cases hheader : f.header.length > 0
  · rw [if_pos hheader]
    obtain ⟨hwork, herror⟩ := deliverFramePayload_works sink a c s f.type
      (f.header.take fromHeader) (fromHeader = remaining)
    obtain ⟨e, log, reply, hdeliver, -⟩ := deliverFramePayload_driver sink a c s f.type
      (f.header.take fromHeader) (fromHeader = remaining)
    have hframes : r.1.driver.frames = s.driver.frames := by
      simp only [r, hdeliver]
      rfl
    have hset : ∀ g : FrameState, g.streamId = f.streamId → FrameWork a s (r.1.setFrame k g) := by
      intro g hg
      refine hwork.trans (FrameWork.setFrame ?_)
      rw [hframes]
      exact hg
    split_ifs
    · exact ⟨hwork, herror⟩
    · exact (hset { f₁ with inFrame := false } rfl).trans (FrameWork.settle a s₁)
    · exact hset { f₁ with inFrame := false } rfl
    · exact Turn.Works.after (hset f₁ rfl) (takePayload_works sink a c k _ _ _)
  · rw [if_neg hheader]
    exact takePayload_works sink a c k _ _ _

/-- Filling the header does not change whose entry it is. -/
lemma fillHeader_streamId (f : FrameState) (data : List UInt8) :
    (fillHeader M f data).1.streamId = f.streamId := by
  induction data generalizing f with
  | nil => rfl
  | cons b data ih =>
    rw [fillHeader]
    split_ifs
    · cases readFrameHeader (f.header ++ [b]) with
      | none => exact ih _
      | some r =>
        dsimp only
        split_ifs <;> rfl
    · rfl

/-- The header of a control frame leaves the endpoint's tables alone. -/
lemma http3EndpointOnControlFrame_tables (e : Endpoint) (type : ℕ) :
    (http3EndpointOnControlFrame e type).1.role = e.role ∧
      (http3EndpointOnControlFrame e type).1.streams = e.streams ∧
      (http3EndpointOnControlFrame e type).1.requests = e.requests := by
  unfold http3EndpointOnControlFrame
  split_ifs
  · exact ⟨rfl, rfl, rfl⟩
  · exact ⟨rfl, rfl, rfl⟩

/-- A whole turn. -/
theorem streamTurn_works (s : Feed) (data : List UInt8) :
    Turn.Works a c s (streamTurn sink a c M k s data) := by
  unfold streamTurn
  extract_lets f
  by_cases hin : f.inFrame = true
  · rw [if_pos hin]
    exact framePayload_works sink a c k s data
  · rw [if_neg hin]
    have hid := fillHeader_streamId M f data
    rcases hfill : fillHeader M f data with ⟨g, done, rest⟩
    rw [hfill] at hid
    have hset : FrameWork a s (s.setFrame k g) := FrameWork.setFrame hid
    cases done with
    | excessive => exact ⟨hset, fun _ => by simp⟩
    | incomplete => exact hset
    | complete =>
      dsimp only
      cases c with
      | false =>
        rw [if_neg (by simp)]
        exact Turn.Works.after hset (framePayload_works sink a false k _ _)
      | true =>
        rw [if_pos rfl]
        obtain ⟨hrole, hstreams, hrequests⟩ :=
          http3EndpointOnControlFrame_tables (s.setFrame k g).driver.endpoint g.type
        have hend := hset.trans (FrameWork.setEndpoint hrole hstreams hrequests)
        split_ifs
        · refine ⟨hend.trans (FrameWork.setFrame ?_), fun h => nomatch h⟩
          simp
        · exact Turn.Works.after hend (framePayload_works sink a true k _ _)

end Turn

/-! ## The whole call -/

section Call

variable (sink : Sink) {a M k : ℕ} {d d' : Driver}

lemma openFrameState_works {log : List SinkEvent} (h : openFrameState d a = some (d', k)) :
    FrameWork a ⟨d, log⟩ ⟨d', log⟩ := by
  unfold openFrameState at h
  cases hfind : findFrameState d a with
  | some i =>
    rw [hfind] at h
    cases h
    exact FrameWork.refl a _
  | none =>
    rw [hfind] at h
    dsimp only at h
    split_ifs at h
    cases h
    refine ⟨rfl, rfl, rfl, rfl, rfl, rfl, rfl, ?_, [], by simp, by simp⟩
    rintro x hx ⟨i, hi, hid⟩
    simp only [setFrame_frames] at hi hid
    by_cases hik : i = d.frameCount
    · subst hik
      rw [Function.update_self] at hid
      exact absurd hid.symm hx
    · exact ⟨i, by simp only; omega, by simpa [hik] using hid⟩

lemma streamFin_works (k : ℕ) (fin : Bool) (s : Feed) :
    FrameWork a s (streamFin sink a k fin s).1 ∧
      (streamFin sink a k fin s).2.2 ≠ .idError := by
  unfold streamFin
  split_ifs with hfin
  · exact ⟨FrameWork.refl a s, by simp [Reply.good]⟩
  · extract_lets f incomplete wasCapsule s₁
    have hs₁ : FrameWork a s s₁ := FrameWork.forget a a s
    by_cases hincomplete : incomplete = true
    · rw [if_pos hincomplete]
      exact ⟨hs₁, by simp⟩
    · rw [if_neg hincomplete]
      by_cases hcapsule : wasCapsule = true
      · rw [if_pos hcapsule]
        have hmarked : a ∈ s₁.driver.marked := by
          rw [hs₁.marks]
          exact mem_marked_of_isCapsuleStream hcapsule
        refine ⟨hs₁.trans (FrameWork.report _ rfl fun h => absurd hmarked h), ?_⟩
        rw [report_error]
        simp
      · rw [if_neg hcapsule]
        exact ⟨hs₁, by simp [Reply.good]⟩

/-- What is left alone when the loop is over. -/
def LoopWorks (a : ℕ) (c : Bool) (s : Feed) : Feed × Reply ⊕ Feed → Prop
  | .inl (s', reply) => FrameWork a s s' ∧ (c = false → reply.2 ≠ .idError)
  | .inr s' => FrameWork a s s'

lemma streamLoop_works {c : Bool} {fuel : ℕ} {s : Feed} {data : List UInt8}
    {r : Feed × Reply ⊕ Feed}
    (h : Loop.run (streamStep sink a c M k) fuel (s, data) = some r) : LoopWorks a c s r := by
  refine Loop.run_invariant (I := fun p : Feed × List UInt8 => FrameWork a s p.1) ?_ ?_
    (FrameWork.refl a s) h
  · rintro ⟨s₁, data⟩ ⟨s₂, rest⟩ hs hstep
    cases data with
    | nil => cases hstep
    | cons b data =>
      have hturn := streamTurn_works sink a c M k s₁ (b :: data)
      simp only [streamStep] at hstep
      split at hstep
      case h_1 heq =>
        cases hstep
        rw [heq] at hturn
        exact hs.trans hturn
      case h_2 => cases hstep
  · rintro ⟨s₁, data⟩ r hs hstep
    cases data with
    | nil =>
      cases hstep
      exact hs
    | cons b data =>
      have hturn := streamTurn_works sink a c M k s₁ (b :: data)
      simp only [streamStep] at hstep
      split at hstep
      case h_1 => cases hstep
      case h_2 heq =>
        cases hstep
        rw [heq] at hturn
        exact ⟨hs.trans hturn.1, hturn.2⟩

/-- What a call that returns leaves alone. -/
theorem http3DriverOnStreamBytes_works {data : List UInt8} {fin : Bool} {s s' : Feed}
    {reply : Reply} (h : http3DriverOnStreamBytes sink M a data fin s = some (s', reply)) :
    FrameWork a s s' ∧
      (http3EndpointStreamKind s.driver.endpoint a ≠ .control → reply.2 ≠ .idError) := by
  obtain ⟨d, log⟩ := s
  unfold http3DriverOnStreamBytes at h
  cases hopen : openFrameState d a with
  | none =>
    rw [hopen] at h
    cases h
    exact ⟨FrameWork.refl a _, fun _ => by simp⟩
  | some p =>
    obtain ⟨d', k⟩ := p
    rw [hopen] at h
    have hslot : FrameWork a ⟨d, log⟩ ⟨d', log⟩ := openFrameState_works hopen
    have hkind : http3EndpointStreamKind d'.endpoint a = http3EndpointStreamKind d.endpoint a :=
      http3EndpointStreamKind_congr hslot.streams a
    dsimp only at h
    rw [hkind] at h
    cases hrun : Loop.run (streamStep sink a
        (decide (http3EndpointStreamKind d.endpoint a = .control)) M k) (2 * data.length + 3)
        (⟨d', log⟩, data) with
    | none =>
      rw [hrun] at h
      cases h
    | some r =>
      have hloop := streamLoop_works sink hrun
      rw [hrun] at h
      cases r with
      | inl p =>
        cases h
        exact ⟨hslot.trans hloop.1, fun hne => hloop.2 (by simpa using hne)⟩
      | inr s₁ =>
        have hfin := streamFin_works (a := a) sink k fin s₁
        have heq : streamFin sink a k fin s₁ = (s', reply) := Option.some.inj h
        rw [heq] at hfin
        exact ⟨(hslot.trans hloop).trans hfin.1, fun _ => hfin.2⟩

end Call

end WebTransport
