import WebTransport.Http3.RejectedStreams

/-!
# What a finished stream leaves behind

A STREAM frame with FIN ends a stream of the peer. This module says when the driver keeps
nothing of the stream: on a unidirectional stream that no table but the pending one knows, by
a frame that completes a type nobody gives a meaning to, or that is empty from the beginning.
Every other stream keeps an entry.
-/

namespace WebTransport

open SwapRemove

/-- The frame ends a stream the peer opened. -/
def EndsPeerStream (d : Driver) (f : StreamFrame) : Prop :=
  f.fin = true ∧ streamIsOurs d.endpoint f.id = false

/-- The frame ends a unidirectional stream nothing but the pending table knows, and it is
empty with nothing held, or completes the type of a stream nobody knows. -/
def LeavesNothing (d : Driver) (f : StreamFrame) : Prop :=
  quicStreamIdIsBidirectional f.id = false ∧ (forgetPending d f.id).NoTrace f.id ∧
    (f.data = [] ∧ findPending d f.id = none ∨
      ∃ type rest, quicVarintDecode (heldBytes d f.id ++ f.data) = .ok (type, rest) ∧
        UnknownStreamType type)

section Trace

variable {a : ℕ} {d : Driver} {s s' : Feed} {f : StreamFrame}

/-- A stream without any trace has none when its pending entry is gone. -/
lemma Driver.NoTrace.forgetPending (h : d.NoTrace a) :
    (WebTransport.forgetPending d a).NoTrace a :=
  ⟨fun p hp => h.pending p (mem_of_mem_swapRemove hp), h.frames, h.dataStreams, h.marks,
    h.streams, h.requests⟩

/-- Nothing is found of a stream that is not pending. -/
lemma not_pending (h : findPending d a = none) : ∀ p ∈ d.pending, p.streamId ≠ a := by
  intro p hp
  simpa using List.find?_eq_none.mp h p hp

lemma noTrace_of_forgetPending (h : (forgetPending d a).NoTrace a)
    (hpending : findPending d a = none) : d.NoTrace a :=
  ⟨not_pending hpending, h.frames, h.dataStreams, h.marks, h.streams, h.requests⟩

/-- The held bytes are those of the stream's entry. -/
lemma mem_pending_of_heldBytes (h : heldBytes d a ≠ []) :
    ∃ p ∈ d.pending, p.streamId = a ∧ p.bytes = heldBytes d a := by
  unfold heldBytes at h ⊢
  cases hfind : findPending d a with
  | none =>
    rw [hfind] at h
    exact absurd rfl h
  | some p =>
    have hid := List.find?_some hfind
    exact ⟨p, List.mem_of_find?_eq_some hfind, by simpa using hid, rfl⟩

/-- Held bytes of a unidirectional stream are no complete prefix. -/
lemma Driver.Coherent.heldBytes_short (hd : d.Coherent)
    (huni : quicStreamIdIsBidirectional a = false) : readUniPrefix (heldBytes d a) = none := by
  by_cases hheld : heldBytes d a = []
  · rw [hheld]
    rfl
  · obtain ⟨p, hp, rfl, hbytes⟩ := mem_pending_of_heldBytes hheld
    rw [← hbytes]
    exact hd.pendingShort p hp huni

/-- A frame that begins a known type leaves something. -/
lemma BeginsKnown.not_leavesNothing (h : BeginsKnown d f) : ¬LeavesNothing d f := by
  rintro ⟨-, -, ⟨hempty, -⟩ | ⟨type, rest, hread, htype⟩⟩
  · exact h.1 hempty
  · exact h.2 type rest hread htype

/-- A stream of HTTP/3's own ends with a refusal, or its entry is still there. -/
lemma UniFrames.keeps (h : UniFrames f s .ok s') (hfin : f.fin = true)
    (hstream : ∃ x ∈ s.driver.endpoint.streams, x.streamId = f.id)
    (hkind : http3EndpointStreamKind s.driver.endpoint f.id = .control ∨
      http3EndpointStreamKind s.driver.endpoint f.id = .qpackEncoder ∨
      http3EndpointStreamKind s.driver.endpoint f.id = .qpackDecoder) :
    ∃ x ∈ s'.driver.endpoint.streams, x.streamId = f.id := by
  obtain ⟨s₁, hwork, ⟨-, hopen⟩ | ⟨rfl, hend⟩⟩ := h.works
  · rw [hopen rfl] at hfin
    cases hfin
  · rw [← hwork.streams] at hstream
    have hsame : http3EndpointStreamKind s₁.driver.endpoint f.id =
        http3EndpointStreamKind s.driver.endpoint f.id := by
      unfold http3EndpointStreamKind
      rw [hwork.streams]
    rw [← hsame] at hkind
    unfold http3DriverOnUniStreamEnd at hend ⊢
    by_cases hpending : (findPending s₁.driver f.id).isSome = true
    · rw [if_pos hpending, Feed.setDriver_driver]
      obtain ⟨x, hx, hid⟩ := hstream
      refine ⟨x, ?_, hid⟩
      have hforget := (FrameWork.forget f.id f.id ⟨forgetPending s₁.driver f.id, []⟩).streams
      rw [hforget]
      exact hx
    · -- The endpoint refuses the end of a critical stream.
      rw [if_neg hpending] at hend
      dsimp only at hend
      unfold http3EndpointOnUniStreamEnd http3ControlOnClosed at hend
      rcases hkind with hk | hk | hk
      · rw [hk] at hend
        dsimp only at hend
        split_ifs at hend
      · rw [hk] at hend
        cases hend
      · rw [hk] at hend
        cases hend

/-- The kind of a stream that is known is one the driver may keep. -/
lemma Driver.Coherent.streamKind (hd : d.Coherent)
    (hkind : http3EndpointStreamKind d.endpoint a ≠ .unknown)
    (hweb : http3EndpointStreamKind d.endpoint a ≠ .webtransport) :
    http3EndpointStreamKind d.endpoint a = .control ∨
      http3EndpointStreamKind d.endpoint a = .qpackEncoder ∨
      http3EndpointStreamKind d.endpoint a = .qpackDecoder := by
  obtain ⟨x, hx, -, hxk⟩ := mem_of_streamKind hkind
  have hpush := (hd.streamsKind x hx).1
  rw [hxk] at hkind hweb ⊢
  cases hk : x.kind with
  | unknown => exact absurd hk hkind
  | control => exact .inl rfl
  | qpackEncoder => exact .inr (.inl rfl)
  | qpackDecoder => exact .inr (.inr rfl)
  | push => exact absurd hk hpush
  | webtransport => exact absurd hk hweb

/-- The kind of a stream that has just been recorded. -/
lemma Classifies.streamKind {d' : Driver} (h : Classifies a d d') :
    (∃ x ∈ d'.endpoint.streams, x.streamId = a) ∧
      (http3EndpointStreamKind d'.endpoint a = .control ∨
        http3EndpointStreamKind d'.endpoint a = .qpackEncoder ∨
        http3EndpointStreamKind d'.endpoint a = .qpackDecoder) := by
  obtain ⟨x, hx, hid, hkind⟩ := h.streams
  have hfind : d.endpoint.streams.find? (fun y => y.streamId = a) = none :=
    List.find?_eq_none.mpr fun y hy => by simpa using h.fresh y hy
  have hxk : http3EndpointStreamKind d'.endpoint a = x.kind := by
    rw [http3EndpointStreamKind, hx, List.find?_append, hfind]
    simp [hid]
  rw [hx, hxk]
  exact ⟨⟨x, by simp, hid⟩, hkind⟩

/-- **An accepted frame that ends one of the peer's streams** leaves no entry of the stream
exactly under `LeavesNothing`. -/
theorem FrameEffect.noTrace_iff (h : FrameEffect f s .ok s') (hs : s.driver.Coherent)
    (hends : EndsPeerStream s.driver f) :
    s'.driver.NoTrace f.id ↔ LeavesNothing s.driver f := by
  have hbidi_keeps : quicStreamIdIsBidirectional f.id = true → ¬LeavesNothing s.driver f :=
    fun hbidi hleaves => by rw [hleaves.1] at hbidi; cases hbidi
  have hneither : ¬s'.driver.NoTrace f.id → ¬LeavesNothing s.driver f →
      (s'.driver.NoTrace f.id ↔ LeavesNothing s.driver f) := fun h h' => iff_of_false h h'
  have hstream_keeps : (∃ x ∈ s.driver.endpoint.streams, x.streamId = f.id) →
      ¬LeavesNothing s.driver f := by
    rintro ⟨x, hx, hid⟩ hleaves
    exact hleaves.2.1.streams x hx hid
  cases h with
  | data hdata hdriver =>
    obtain ⟨e, he, hid⟩ : ∃ e ∈ s.driver.dataStreams, e.streamId = f.id := by
      simpa [http3DriverIsDataStream] using hdata
    apply hneither
    · rw [hdriver]
      exact fun htrace => htrace.dataStreams e he hid
    · exact fun hleaves => hleaves.2.1.dataStreams e he hid
  | ours hours huni =>
    rw [hends.2] at hours
    cases hours
  | held hdata hshort hok =>
    obtain ⟨l, hl, ⟨p, hp, hid⟩, -, -⟩ := holdPending_spec hok
    apply hneither
    · rw [Feed.setDriver_driver, hl]
      exact fun htrace => htrace.pending p hp hid
    · cases hbidi : quicStreamIdIsBidirectional f.id with
      | true => exact hbidi_keeps hbidi
      | false =>
        obtain ⟨hne, hbytes, hnone⟩ := hshort hbidi
        rintro ⟨-, -, ⟨hempty, -⟩ | ⟨type, rest, hread, htype⟩⟩
        · exact hne hempty
        · rw [← hbytes] at hread
          rw [readUniPrefix_of_type hread htype.2.2.2.2] at hnone
          cases hnone
  | bidiSession hbidi hnew hdriver =>
    apply hneither _ (hbidi_keeps hbidi)
    rw [hdriver]
    exact fun htrace =>
      htrace.dataStreams _ (List.mem_append_right _ (List.mem_singleton_self _)) rfl
  | tracked hbidi htracked hwork =>
    apply hneither _ (hbidi_keeps hbidi)
    intro htrace
    have hnone := requestTracked_eq_false (hwork.requests ▸ htrace.requests)
    rw [htracked] at hnone
    cases hnone
  | request hbidi hdata hd hwork =>
    apply hneither _ (hbidi_keeps hbidi)
    intro htrace
    have hmem : (f.id, false) ∈ s'.driver.endpoint.requests := by
      rw [hwork.requests]
      simp [Driver.withRequest]
    exact htrace.requests _ hmem rfl
  | empty huni hunknown hempty =>
    constructor
    · exact fun htrace => ⟨huni, htrace.forgetPending, .inl ⟨hempty,
        findPending_eq_none htrace.pending⟩⟩
    · rintro ⟨-, hother, ⟨-, hpending⟩ | ⟨type, rest, hread, htype⟩⟩
      · exact noTrace_of_forgetPending hother hpending
      · -- What is held alone would be a complete prefix.
        rw [hempty, List.append_nil] at hread
        have hnone := hs.heldBytes_short huni
        rw [readUniPrefix_of_type hread htype.2.2.2.2] at hnone
        cases hnone
  | unknownType huni hread htype =>
    rw [Feed.setDriver_driver]
    constructor
    · exact fun htrace => ⟨huni, htrace, .inr ⟨_, _, hread, htype⟩⟩
    · exact fun hleaves => hleaves.2.1
  | uniSession huni hstart hnew hdriver =>
    apply hneither _ hstart.not_leavesNothing
    rw [hdriver]
    exact fun htrace =>
      htrace.dataStreams _ (List.mem_append_right _ (List.mem_singleton_self _)) rfl
  | uniKnown hkind hdriver =>
    obtain ⟨x, hx, hid, -⟩ := mem_of_streamKind (e := s.driver.endpoint) (a := f.id)
      (by rw [hkind]; simp)
    apply hneither _ (hstream_keeps ⟨x, hx, hid⟩)
    rw [hdriver]
    exact fun htrace => htrace.streams x hx hid
  | uniFrames huni hkind hweb hframes =>
    obtain ⟨x, hx, hid, -⟩ := mem_of_streamKind hkind
    obtain ⟨y, hy, hyid⟩ := hframes.keeps hends.1 ⟨x, hx, hid⟩ (hs.streamKind hkind hweb)
    exact hneither (fun htrace => htrace.streams y hy hyid) (hstream_keeps ⟨x, hx, hid⟩)
  | uniClassified huni hdata hstart hclassified hframes =>
    obtain ⟨hstream, hkind⟩ := hclassified.streamKind
    obtain ⟨y, hy, hyid⟩ := hframes.keeps hends.1 hstream hkind
    exact hneither (fun htrace => htrace.streams y hy hyid) hstart.not_leavesNothing
  | refused hrefused => exact absurd rfl hrefused
  | unremembered hrefused => exact absurd rfl hrefused

end Trace

/-! ## Runs in which streams are finished -/

/-- The act routes a frame that ends one of the peer's streams, and the frame is accepted. -/
def DriverAct.Finishes (s : Feed) : DriverAct → Prop
  | .frame sink M (.stream f) => EndsPeerStream s.driver f ∧
      ∃ r, http3DriverOnQuicFrame sink M (.stream f) s = some r ∧ r.status = .ok
  | _ => False

/-- A run of the driver with the streams the peer has finished. Every frame that finishes one
meets a condition, and nothing more happens to the stream. -/
inductive FinishingRun (role : Http3Role) (Meets : Driver → StreamFrame → Prop) :
    List ℕ → Feed → Prop
  | init : FinishingRun role Meets [] ⟨http3DriverInit (http3EndpointInit role), []⟩
  | finish {finished : List ℕ} {sink : Sink} {M : ℕ} {f : StreamFrame} {s : Feed} {r : Routed}
      (h : FinishingRun role Meets finished s)
      (hroute : http3DriverOnQuicFrame sink M (.stream f) s = some r) (hok : r.status = .ok)
      (hends : EndsPeerStream s.driver f) (hfresh : f.id ∉ finished)
      (hmeets : Meets s.driver f) : FinishingRun role Meets (f.id :: finished) r.feed
  | other {finished : List ℕ} {act : DriverAct} {s s' : Feed}
      (h : FinishingRun role Meets finished s) (hstep : DriverStep act s s')
      (hfresh : ∀ a, act.names = some a → a ∉ finished) (hother : ¬act.Finishes s) :
      FinishingRun role Meets finished s'

/-- A stream of the peer, in frames of which the last has the FIN and leaves nothing when it
comes. -/
structure PassingStream (d : Driver) (a : ℕ) (pieces : List (List UInt8)) (last : List UInt8) :
    Prop where
  unseen : d.Unseen a
  incomplete : startComplete a pieces.flatten = false
  leaves : LeavesNothing (d.holding a pieces.flatten)
    ⟨a, pieces.flatten.length, true, true, true, last⟩

section Run

variable {role : Http3Role} {Meets : Driver → StreamFrame → Prop} {finished : List ℕ} {a : ℕ}
  {d : Driver} {s s' : Feed} {act : DriverAct}

lemma FinishingRun.reached (h : FinishingRun role Meets finished s) : DriverReached role s := by
  induction h with
  | init => exact .init
  | finish _ hroute _ _ _ _ ih => exact ih.step (.frame hroute)
  | other _ hstep _ _ ih => exact ih.step hstep

/-- A step that does not name a stream without trace leaves it without trace. -/
lemma DriverStep.noTrace (h : DriverStep act s s') (hnames : act.names ≠ some a)
    (ha : s.driver.NoTrace a) : s'.driver.NoTrace a := by
  cases hact : act.names with
  | none =>
    have htouches := h.touches (a := a + 1) fun b hb => by rw [hact] at hb; cases hb
    exact ha.of_touches htouches (Nat.succ_ne_self a).symm
  | some b =>
    have htouches := h.touches (a := b) fun c hc => by
      rw [hact] at hc
      exact (Option.some.inj hc).symm
    exact ha.of_touches htouches fun hab => hnames (by rw [hact, hab])

/-- **In a run whose finishing frames leave nothing** no finished stream has a trace. -/
lemma FinishingRun.noTrace (h : FinishingRun role LeavesNothing finished s) :
    ∀ a ∈ finished, s.driver.NoTrace a := by
  induction h with
  | init => exact fun a ha => nomatch ha
  | @finish finished sink M f s r h hroute hok hends hfresh hmeets ih =>
    intro a ha
    rcases List.mem_cons.mp ha with rfl | ha
    · obtain ⟨reply, hstream, hstatus⟩ := routeQuicFrame_of_step hroute
      have heffect := routeStreamFrame_effect hstream
      rw [hstatus, hok] at heffect
      exact (heffect.noTrace_iff h.reached.coherent hends).mpr hmeets
    · have hne : a ≠ f.id := fun heq => hfresh (heq ▸ ha)
      apply (DriverStep.frame hroute).noTrace _ (ih a ha)
      exact fun hnames => hne (Option.some.inj hnames).symm
  | other _ hstep hfresh _ ih =>
    intro a ha
    exact hstep.noTrace (fun hnames => hfresh a hnames ha) (ih a ha)

/-- A passing stream is accepted, and the driver is as it was. -/
lemma PassingStream.routed (sink : Sink) (M : ℕ) (log : List SinkEvent)
    {pieces : List (List UInt8)} {last : List UInt8} (h : PassingStream d a pieces last)
    (hroom : d.pending.length < http3DriverPendingMax) :
    routeFrames sink M (streamFrames a true 0 (pieces ++ [last])) ⟨d, log⟩ =
      some (⟨d, log⟩, Reply.good) := by
  obtain ⟨huni, -, hlast⟩ := h.leaves
  have hbefore := routeFrames_held sink M log [] h.unseen pieces h.incomplete
    (by rw [huni]; simp)
  rw [holding_nil, List.length_nil, if_pos (.inr (.inr hroom)), List.nil_append] at hbefore
  rw [streamFrames_append pieces (List.cons_ne_nil last []), routeFrames_append_ok hbefore rfl,
    streamFrames, routeFrames, Nat.zero_add]
  have hshort : readUniPrefix pieces.flatten = none := by
    have hincomplete := h.incomplete
    rwa [startComplete_uni huni, Option.isSome_eq_false_iff, Option.isNone_iff_eq_none]
      at hincomplete
  have hroute : routeStreamFrame sink M ⟨a, pieces.flatten.length, true, true, true, last⟩
      ⟨d.holding a pieces.flatten, log⟩ = some (⟨d, log⟩, Reply.good) := by
    rcases hlast with ⟨hempty, hnone⟩ | ⟨type, rest, hread, htype⟩
    · dsimp only at hempty hnone
      have hheld : pieces.flatten = [] := by
        by_contra hne
        rw [findPending_holding h.unseen.noTrace.pending, if_neg hne] at hnone
        cases hnone
      have hheldFrame := routeStreamFrame_held sink M log pieces.flatten
        (f := ⟨a, pieces.flatten.length, true, true, true, last⟩) h.unseen rfl rfl
        (by rw [hempty, List.append_nil]; exact h.incomplete) (by rw [huni]; simp) (.inl hempty)
      rw [hheldFrame, hheld, hempty, List.append_nil, holding_nil]
    · dsimp only at hread
      rw [heldBytes_holding h.unseen.noTrace.pending] at hread
      exact routeStreamFrame_unknown sink M log h.unseen huni rfl rfl hshort htype
        (readUniPrefix_of_type hread htype.2.2.2.2)
  rw [hroute]
  rfl

/-- However many passing streams come one after another, each is accepted. -/
lemma routeFrames_passing (sink : Sink) (M : ℕ)
    (hroom : s.driver.pending.length < http3DriverPendingMax)
    (streams : List (ℕ × List (List UInt8) × List UInt8))
    (hpass : ∀ t ∈ streams, PassingStream s.driver t.1 t.2.1 t.2.2) :
    routeFrames sink M (streams.flatMap fun t => streamFrames t.1 true 0 (t.2.1 ++ [t.2.2])) s =
      some (s, Reply.good) := by
  induction streams with
  | nil => rfl
  | cons t ts ih =>
    have hfirst := (hpass t List.mem_cons_self).routed sink M s.log hroom
    rw [List.flatMap_cons, routeFrames_append_ok hfirst rfl]
    exact ih fun u hu => hpass u (List.mem_cons_of_mem _ hu)

end Run

/-- **Finished streams.** In a run whose finishing frames all leave nothing, no finished
stream has an entry in a table, and streams that come one after another and pass in this way
are accepted however many they are. A frame that finishes a stream and does not meet the
condition leaves an entry. -/
theorem finishedStreams_leave_nothing {role : Http3Role} {finished : List ℕ} {s : Feed}
    (h : FinishingRun role LeavesNothing finished s) :
    (∀ a ∈ finished, s.driver.NoTrace a) ∧
      (s.driver.pending.length < http3DriverPendingMax →
        ∀ (sink : Sink) (M : ℕ) (streams : List (ℕ × List (List UInt8) × List UInt8)),
          (∀ t ∈ streams, PassingStream s.driver t.1 t.2.1 t.2.2) →
          routeFrames sink M
              (streams.flatMap fun t => streamFrames t.1 true 0 (t.2.1 ++ [t.2.2])) s =
            some (s, Reply.good)) ∧
      ∀ (sink : Sink) (M : ℕ) (f : StreamFrame) (r : Routed), EndsPeerStream s.driver f →
        http3DriverOnQuicFrame sink M (.stream f) s = some r → r.status = .ok →
        (r.feed.driver.NoTrace f.id ↔ LeavesNothing s.driver f) := by
  refine ⟨h.noTrace, fun hroom sink M streams => routeFrames_passing sink M hroom streams, ?_⟩
  intro sink M f r hends hroute hok
  obtain ⟨reply, hstream, hstatus⟩ := routeQuicFrame_of_step hroute
  have heffect := routeStreamFrame_effect hstream
  rw [hstatus, hok] at heffect
  exact heffect.noTrace_iff h.reached.coherent hends

section Server

/-- A server that has just been set up. -/
def startedServer : Feed := ⟨http3DriverInit (http3EndpointInit .server), []⟩

/-- The frame that carries the whole of a unidirectional stream of the client. -/
def wholeStream (data : List UInt8) : StreamFrame := ⟨2, 0, true, true, true, data⟩

/-- What the server made of the stream. -/
def afterWhole (data : List UInt8) : Option Routed :=
  http3DriverOnQuicFrame Sink.accepting 100 (.stream (wholeStream data)) startedServer

/-- A stream of the reserved type `0x21` is finished, and nothing is left of it. -/
theorem unknown_stream_leaves_nothing :
    ∃ r, afterWhole [0x21] = some r ∧ r.feed.driver.NoTrace 2 := by
  have hleaves : LeavesNothing startedServer.driver (wholeStream [0x21]) :=
    ⟨rfl, (http3DriverInit_noTrace .server 2).forgetPending,
      .inr ⟨0x21, [], rfl, by unfold UnknownStreamType; decide⟩⟩
  have hroute : ∃ r, afterWhole [0x21] = some r ∧ r.status = .ok := ⟨_, rfl, by decide⟩
  obtain ⟨r, hr, hok⟩ := hroute
  have hrun : FinishingRun .server LeavesNothing [2] r.feed :=
    .finish .init hr hok ⟨rfl, by decide⟩ (List.not_mem_nil) hleaves
  exact ⟨r, hr, (finishedStreams_leave_nothing hrun).1 2 List.mem_cons_self⟩

/-- A stream of a session is finished and stays in the table of data streams. -/
theorem session_stream_leaves_entry :
    ¬ ∀ (role : Http3Role) (finished : List ℕ) (s : Feed),
      FinishingRun role (fun _ _ => True) finished s → ∀ a ∈ finished, s.driver.NoTrace a := by
  intro h
  have hroute : ∃ r, afterWhole [0x40, 0x54, 0x00] = some r ∧ r.status = .ok ∧
      http3DriverIsDataStream r.feed.driver 2 = true := ⟨_, rfl, by decide, by decide⟩
  obtain ⟨r, hr, hok, hdata⟩ := hroute
  have htrace := h .server [2] r.feed
    (.finish .init hr hok ⟨rfl, by decide⟩ (List.not_mem_nil) trivial) 2 List.mem_cons_self
  rw [isDataStream_eq_false htrace.dataStreams] at hdata
  cases hdata

end Server

end WebTransport
