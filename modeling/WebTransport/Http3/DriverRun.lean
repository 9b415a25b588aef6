import WebTransport.Http3.FrameEffect
import WebTransport.Http3.Rejection

/-!
# Runs of the driver

Everything that happens to a driver once it is set up: the frames that are routed, accepted
or refused, and what its owner does. Two facts are kept over a run: how the tables of the
driver fit together, and that a stream nothing happened to has left no trace.
-/

namespace WebTransport

open SwapRemove

/-! ## How the tables fit together -/

/-- What holds of the tables of a driver between two accepted frames. -/
structure Driver.Coherent (d : Driver) : Prop where
  pendingOnce : (d.pending.map PendingPrefix.streamId).Nodup
  pendingShort : ∀ p ∈ d.pending, quicStreamIdIsBidirectional p.streamId = false →
    readUniPrefix p.bytes = none
  pendingApart : ∀ p ∈ d.pending, ∀ e ∈ d.dataStreams, p.streamId ≠ e.streamId
  requestsBidi : ∀ r ∈ d.endpoint.requests, quicStreamIdIsBidirectional r.1 = true
  requestsApart : ∀ r ∈ d.endpoint.requests, ∀ e ∈ d.dataStreams, r.1 ≠ e.streamId
  streamsUni : ∀ x ∈ d.endpoint.streams, quicStreamIdIsBidirectional x.streamId = false
  streamsKind : ∀ x ∈ d.endpoint.streams, x.kind ≠ .push ∧
    ∀ e ∈ d.dataStreams, x.streamId = e.streamId → x.kind = .webtransport

/-- The entries of the streams other than `a` were there before. -/
structure Driver.Touches (a : ℕ) (d d' : Driver) : Prop where
  role : d'.endpoint.role = d.endpoint.role
  pending : ∀ p ∈ d'.pending, p.streamId ≠ a → ∃ q ∈ d.pending, q.streamId = p.streamId
  frames : ∀ x ≠ a, d'.InFrames x → d.InFrames x
  dataStreams : ∀ e ∈ d'.dataStreams, e.streamId ≠ a → e ∈ d.dataStreams
  marks : ∀ x ∈ d'.marked, x ≠ a → x ∈ d.marked
  streams : ∀ x ∈ d'.endpoint.streams, x.streamId ≠ a → x ∈ d.endpoint.streams
  requests : ∀ r ∈ d'.endpoint.requests, r.1 ≠ a → r ∈ d.endpoint.requests

section Tables

variable {a b : ℕ} {d d' d'' : Driver} {s s' : Feed} {f : StreamFrame} {status : Status}

lemma Driver.Touches.refl (a : ℕ) (d : Driver) : d.Touches a d :=
  ⟨rfl, fun p hp _ => ⟨p, hp, rfl⟩, fun _ _ h => h, fun _ h _ => h, fun _ h _ => h,
    fun _ h _ => h, fun _ h _ => h⟩

lemma Driver.Touches.trans (h : d.Touches a d') (h' : d'.Touches a d'') : d.Touches a d'' := by
  refine ⟨h'.role.trans h.role, ?_, fun x hx hin => h.frames x hx (h'.frames x hx hin),
    fun e he hne => h.dataStreams e (h'.dataStreams e he hne) hne,
    fun x hx hne => h.marks x (h'.marks x hx hne) hne,
    fun x hx hne => h.streams x (h'.streams x hx hne) hne,
    fun r hr hne => h.requests r (h'.requests r hr hne) hne⟩
  intro p hp hne
  obtain ⟨q, hq, hqp⟩ := h'.pending p hp hne
  obtain ⟨q', hq', hqq⟩ := h.pending q hq (by rwa [hqp])
  exact ⟨q', hq', hqq.trans hqp⟩

/-- A stream that has left no trace and is not touched has left none after. -/
lemma Driver.NoTrace.of_touches (h : d.Touches b d') (hne : a ≠ b) (ha : d.NoTrace a) :
    d'.NoTrace a := by
  refine ⟨?_, fun hin => ha.frames (h.frames a hne hin), ?_,
    fun hin => ha.marks (h.marks a hin hne), ?_, ?_⟩
  · rintro p hp rfl
    obtain ⟨q, hq, hqp⟩ := h.pending p hp hne
    exact ha.pending q hq hqp
  · rintro e he rfl
    exact ha.dataStreams e (h.dataStreams e he hne) rfl
  · rintro x hx rfl
    exact ha.streams x (h.streams x hx hne) rfl
  · rintro r hr rfl
    exact ha.requests r (h.requests r hr hne) rfl

lemma FrameWork.touches (h : FrameWork a s s') : s.driver.Touches a s'.driver := by
  refine ⟨h.role, ?_, h.entries, ?_, ?_, ?_, ?_⟩
  · rw [h.pending]
    exact fun p hp _ => ⟨p, hp, rfl⟩
  · rw [h.dataStreams]
    exact fun _ he _ => he
  · rw [h.marks]
    exact fun _ hx _ => hx
  · rw [h.streams]
    exact fun _ hx _ => hx
  · rw [h.requests]
    exact fun _ hr _ => hr

lemma touches_forgetPending (a : ℕ) (d : Driver) : d.Touches a (forgetPending d a) :=
  ⟨rfl, fun p hp _ => ⟨p, mem_of_mem_swapRemove hp, rfl⟩, fun _ _ h => h, fun _ h _ => h,
    fun _ h _ => h, fun _ h _ => h, fun _ h _ => h⟩

lemma replacePending_streamId (bytes : List UInt8) (l : List PendingPrefix) :
    (replacePending a bytes l).map PendingPrefix.streamId = l.map PendingPrefix.streamId := by
  induction l with
  | nil => rfl
  | cons p l ih =>
    rw [replacePending]
    split_ifs
    · rfl
    · rw [List.map_cons, List.map_cons, ih]

lemma mem_replacePending {bytes : List UInt8} {l : List PendingPrefix} {p : PendingPrefix}
    (h : p ∈ replacePending a bytes l) : p ∈ l ∨ p.streamId = a ∧ p.bytes = bytes := by
  induction l with
  | nil => cases h
  | cons q l ih =>
    rw [replacePending] at h
    by_cases hq : q.streamId = a
    · rw [if_pos hq] at h
      rcases List.mem_cons.mp h with rfl | h
      · exact .inr ⟨hq, rfl⟩
      · exact .inl (List.mem_cons_of_mem _ h)
    · rw [if_neg hq] at h
      rcases List.mem_cons.mp h with rfl | h
      · exact .inl List.mem_cons_self
      · rcases ih h with h | h
        · exact .inl (List.mem_cons_of_mem _ h)
        · exact .inr h

/-- The table of pending prefixes after some bytes are held. -/
lemma holdPending_spec {bytes : List UInt8} (hok : (holdPending d a bytes).2 = .ok) :
    ∃ l, (holdPending d a bytes).1 = { d with pending := l } ∧
      (∃ p ∈ l, p.streamId = a) ∧
      (∀ p ∈ l, p ∈ d.pending ∨ p.streamId = a ∧ p.bytes = bytes) ∧
      ((d.pending.map PendingPrefix.streamId).Nodup →
        (l.map PendingPrefix.streamId).Nodup) := by
  unfold holdPending at hok ⊢
  cases hfind : findPending d a with
  | some p =>
    rw [Option.isSome_some, if_pos rfl]
    refine ⟨_, rfl, ?_, fun q hq => mem_replacePending hq, ?_⟩
    · have hid : p.streamId = a := by
        have h := List.find?_some hfind
        simpa using h
      have hmem : a ∈ (replacePending a bytes d.pending).map PendingPrefix.streamId := by
        rw [replacePending_streamId, ← hid]
        exact List.mem_map_of_mem (List.mem_of_find?_eq_some hfind)
      obtain ⟨q, hq, hqa⟩ := List.mem_map.mp hmem
      exact ⟨q, hq, hqa⟩
    · rw [replacePending_streamId]
      exact id
  | none =>
    rw [hfind, Option.isSome_none, if_neg (by simp)] at hok
    rw [Option.isSome_none, if_neg (by simp)]
    by_cases hfull : d.pending.length ≥ http3DriverPendingMax
    · rw [if_pos hfull] at hok
      cases hok
    · rw [if_neg hfull]
      refine ⟨_, rfl, ⟨⟨a, bytes⟩, by simp, rfl⟩, ?_, ?_⟩
      · intro p hp
        rcases List.mem_append.mp hp with hp | hp
        · exact .inl hp
        · rw [List.mem_singleton.mp hp]
          exact .inr ⟨rfl, rfl⟩
      · intro hnodup
        rw [List.map_append, List.map_singleton]
        apply List.Nodup.append hnodup (List.nodup_singleton a)
        intro x hx hxa
        obtain rfl := List.mem_singleton.mp hxa
        obtain ⟨p, hp, rfl⟩ := List.mem_map.mp hx
        have hnone := List.find?_eq_none.mp hfind p hp
        simp at hnone

/-- The endpoint's table gives up its entries in the same way. -/
lemma forgetStream_eq (l : List EndpointStream) (a : ℕ) :
    forgetStream l a = swapRemove (fun s : EndpointStream => decide (s.streamId = a)) l := by
  unfold forgetStream swapRemove
  cases l.findIdx? fun s => decide (s.streamId = a) with
  | none => rfl
  | some i =>
    cases l.getLast? with
    | none => rfl
    | some tail => rfl

lemma mem_of_mem_forgetStream {l : List EndpointStream} {x : EndpointStream}
    (h : x ∈ forgetStream l a) : x ∈ l := by
  rw [forgetStream_eq] at h
  exact mem_of_mem_swapRemove h

/-- The end of one of the peer's unidirectional streams. -/
lemma onUniStreamEnd_touches (a : ℕ) (d : Driver) :
    d.Touches a (http3DriverOnUniStreamEnd d a).1 := by
  have hforget : ∀ d : Driver, d.Touches a (http3DriverForgetFrame d a) := fun d =>
    (FrameWork.forget a a ⟨d, []⟩).touches
  unfold http3DriverOnUniStreamEnd
  split_ifs
  · exact (touches_forgetPending a d).trans (hforget _)
  · apply Driver.Touches.trans _ (hforget _)
    have hstreams : ∀ x ∈ (http3EndpointOnUniStreamEnd d.endpoint a).1.streams,
        x ∈ d.endpoint.streams := by
      intro x hx
      unfold http3EndpointOnUniStreamEnd at hx
      split at hx
      · exact hx
      all_goals exact mem_of_mem_forgetStream hx
    have hsame : (http3EndpointOnUniStreamEnd d.endpoint a).1.role = d.endpoint.role ∧
        (http3EndpointOnUniStreamEnd d.endpoint a).1.requests = d.endpoint.requests := by
      unfold http3EndpointOnUniStreamEnd
      split <;> exact ⟨rfl, rfl⟩
    refine ⟨hsame.1, fun p hp _ => ⟨p, hp, rfl⟩, fun _ _ h => h, fun _ h _ => h,
      fun _ h _ => h, fun x hx _ => hstreams x hx, ?_⟩
    intro r hr _
    change r ∈ (http3EndpointOnUniStreamEnd d.endpoint a).1.requests at hr
    rwa [hsame.2] at hr

lemma UniFrames.touches (h : UniFrames f s status s') : s.driver.Touches f.id s'.driver := by
  obtain ⟨s₁, hwork, ⟨rfl, -⟩ | ⟨rfl, -⟩⟩ := h.works
  · exact hwork.touches
  · exact hwork.touches.trans (onUniStreamEnd_touches f.id s₁.driver)

lemma Classifies.touches (h : Classifies a d d') : d.Touches a d' := by
  obtain ⟨x, hx, hid, -⟩ := h.streams
  refine ⟨h.role, ?_, ?_, ?_, ?_, ?_, ?_⟩
  · rw [h.pending]
    exact fun p hp _ => ⟨p, hp, rfl⟩
  · unfold Driver.InFrames
    rw [h.frames, h.frameCount]
    exact fun _ _ h => h
  · rw [h.dataStreams]
    exact fun _ he _ => he
  · unfold Driver.marked
    rw [h.capsuleStreams]
    exact fun _ hx _ => hx
  · intro y hy hne
    rw [hx] at hy
    rcases List.mem_append.mp hy with hy | hy
    · exact hy
    · rw [List.mem_singleton.mp hy] at hne
      exact absurd hid hne
  · rw [h.requests]
    exact fun _ hr _ => hr

lemma touches_remember (entry : DataStream) (d : Driver) :
    d.Touches entry.streamId { d with dataStreams := d.dataStreams ++ [entry] } := by
  refine ⟨rfl, fun p hp _ => ⟨p, hp, rfl⟩, fun _ _ h => h, ?_, fun _ h _ => h,
    fun _ h _ => h, fun _ h _ => h⟩
  intro e he hne
  rcases List.mem_append.mp he with he | he
  · exact he
  · rw [List.mem_singleton.mp he] at hne
    exact absurd rfl hne

lemma touches_withUniStream (a : ℕ) (d : Driver) : d.Touches a (d.withUniStream a) := by
  refine ⟨rfl, fun p hp _ => ⟨p, hp, rfl⟩, fun _ _ h => h, fun _ h _ => h, fun _ h _ => h, ?_,
    fun _ h _ => h⟩
  intro x hx hne
  rcases List.mem_append.mp hx with hx | hx
  · exact hx
  · rw [List.mem_singleton.mp hx] at hne
    exact absurd rfl hne

lemma touches_tracked (a : ℕ) (ours : Bool) (d : Driver) :
    d.Touches a (d.setEndpoint
      { d.endpoint with requests := d.endpoint.requests ++ [(a, ours)] }) := by
  refine ⟨rfl, fun p hp _ => ⟨p, hp, rfl⟩, fun _ _ h => h, fun _ h _ => h, fun _ h _ => h,
    fun _ h _ => h, ?_⟩
  intro r hr hne
  rcases List.mem_append.mp hr with hr | hr
  · exact hr
  · rw [List.mem_singleton.mp hr] at hne
    exact absurd rfl hne

/-- A frame touches the entries of its own stream only. -/
theorem FrameEffect.touches (h : FrameEffect f s status s') :
    s.driver.Touches f.id s'.driver := by
  have hstart : ∀ {d : Driver}, d = s.driver ∨ d = forgetPending s.driver f.id →
      s.driver.Touches f.id d := by
    rintro d (rfl | rfl)
    · exact Driver.Touches.refl _ _
    · exact touches_forgetPending _ _
  cases h with
  | data hdata hdriver =>
    rw [hdriver]
    exact Driver.Touches.refl _ _
  | ours hours huni => exact Driver.Touches.refl _ _
  | held hdata hshort hok =>
    obtain ⟨l, hl, -, hmem, -⟩ := holdPending_spec hok
    rw [Feed.setDriver_driver, hl]
    refine ⟨rfl, ?_, fun _ _ h => h, fun _ h _ => h, fun _ h _ => h, fun _ h _ => h,
      fun _ h _ => h⟩
    intro p hp hne
    rcases hmem p hp with hp | hp
    · exact ⟨p, hp, rfl⟩
    · exact absurd hp.1 hne
  | bidiSession hbidi hnew hdriver =>
    rw [hdriver]
    exact (touches_forgetPending _ _).trans (touches_remember ⟨f.id, 0, _⟩ _)
  | tracked hbidi htracked hwork => exact hwork.touches
  | request hbidi hdata hd hwork =>
    exact ((hstart hd).trans (touches_tracked _ false _)).trans hwork.touches
  | empty huni hunknown hempty => exact Driver.Touches.refl _ _
  | unknownType huni hread htype => exact touches_forgetPending _ _
  | uniSession huni hstart hnew hdriver =>
    rw [hdriver]
    exact ((touches_forgetPending _ _).trans (touches_withUniStream _ _)).trans
      (touches_remember ⟨f.id, 0, _⟩ _)
  | uniKnown hkind hdriver =>
    rw [hdriver]
    exact Driver.Touches.refl _ _
  | uniFrames huni hkind hweb hframes => exact hframes.touches
  | uniClassified huni hdata hstart hclassified hframes =>
    exact ((touches_forgetPending _ _).trans hclassified.touches).trans hframes.touches
  | refused hrefused hd hwork => exact (hstart hd).trans hwork.touches
  | unremembered hrefused huni hnew =>
    exact (touches_forgetPending _ _).trans (touches_withUniStream _ _)

end Tables

/-! ## Coherence is kept -/

section Coherent

variable {a : ℕ} {d d' : Driver} {s s' : Feed} {f : StreamFrame} {status : Status}

lemma Driver.Coherent.fewer (h : d.Coherent)
    (honce : (d'.pending.map PendingPrefix.streamId).Nodup)
    (hpending : ∀ p ∈ d'.pending, p ∈ d.pending)
    (hdata : ∀ e ∈ d'.dataStreams, e ∈ d.dataStreams)
    (hrequests : ∀ r ∈ d'.endpoint.requests, r ∈ d.endpoint.requests)
    (hstreams : ∀ x ∈ d'.endpoint.streams, x ∈ d.endpoint.streams) : d'.Coherent := by
  refine ⟨honce, fun p hp => h.pendingShort p (hpending p hp),
    fun p hp e he => h.pendingApart p (hpending p hp) e (hdata e he),
    fun r hr => h.requestsBidi r (hrequests r hr),
    fun r hr e he => h.requestsApart r (hrequests r hr) e (hdata e he),
    fun x hx => h.streamsUni x (hstreams x hx), ?_⟩
  intro x hx
  obtain ⟨hpush, hkind⟩ := h.streamsKind x (hstreams x hx)
  exact ⟨hpush, fun e he => hkind e (hdata e he)⟩

/-- Coherence speaks of four tables only. -/
lemma Driver.Coherent.congr (h : d.Coherent) (hpending : d'.pending = d.pending)
    (hdata : d'.dataStreams = d.dataStreams)
    (hrequests : d'.endpoint.requests = d.endpoint.requests)
    (hstreams : d'.endpoint.streams = d.endpoint.streams) : d'.Coherent := by
  apply h.fewer
  · rw [hpending]
    exact h.pendingOnce
  · rw [hpending]
    exact fun _ hp => hp
  · rw [hdata]
    exact fun _ he => he
  · rw [hrequests]
    exact fun _ hr => hr
  · rw [hstreams]
    exact fun _ hx => hx

lemma Driver.Coherent.frameWork (h : s.driver.Coherent) (hwork : FrameWork a s s') :
    s'.driver.Coherent :=
  h.congr hwork.pending hwork.dataStreams hwork.requests hwork.streams

lemma Driver.Coherent.forgetPending (h : d.Coherent) (a : ℕ) :
    (forgetPending d a).Coherent :=
  h.fewer (nodup_swapRemove _ h.pendingOnce) (fun _ hp => mem_of_mem_swapRemove hp)
    (fun _ he => he) (fun _ hr => hr) (fun _ hx => hx)

lemma ne_of_mem_forgetPending (h : d.Coherent) {p : PendingPrefix}
    (hp : p ∈ (WebTransport.forgetPending d a).pending) : p.streamId ≠ a :=
  key_ne_of_mem_swapRemove h.pendingOnce hp

lemma not_dataStream (h : http3DriverIsDataStream d a = false) :
    ∀ e ∈ d.dataStreams, e.streamId ≠ a := by
  simpa [http3DriverIsDataStream] using h

lemma not_tracked {e : Endpoint} (h : http3EndpointRequestTracked e a = false) :
    ∀ r ∈ e.requests, r.1 ≠ a := by
  intro r hr
  simpa using List.any_eq_false.mp h r hr

lemma Driver.Coherent.held {bytes : List UInt8} (h : d.Coherent)
    (hdata : http3DriverIsDataStream d a = false)
    (hshort : quicStreamIdIsBidirectional a = false → readUniPrefix bytes = none)
    (hok : (holdPending d a bytes).2 = .ok) : (holdPending d a bytes).1.Coherent := by
  obtain ⟨l, hl, -, hmem, honce⟩ := holdPending_spec hok
  rw [hl]
  refine ⟨honce h.pendingOnce, ?_, ?_, h.requestsBidi, h.requestsApart, h.streamsUni,
    h.streamsKind⟩
  · intro p hp huni
    rcases hmem p hp with hp | ⟨hid, hbytes⟩
    · exact h.pendingShort p hp huni
    · rw [hbytes]
      exact hshort (by rwa [hid] at huni)
  · intro p hp e he
    rcases hmem p hp with hp | ⟨hid, -⟩
    · exact h.pendingApart p hp e he
    · rw [hid]
      exact (not_dataStream hdata e he).symm

/-- A stream that only the endpoint's table of streams may know becomes a data stream. -/
lemma Driver.Coherent.remember {entry : DataStream} (h : d.Coherent)
    (hpending : ∀ p ∈ d.pending, p.streamId ≠ entry.streamId)
    (hrequests : ∀ r ∈ d.endpoint.requests, r.1 ≠ entry.streamId)
    (hstreams : ∀ x ∈ d.endpoint.streams, x.streamId = entry.streamId →
      x.kind = .webtransport) :
    Driver.Coherent { d with dataStreams := d.dataStreams ++ [entry] } := by
  refine ⟨h.pendingOnce, h.pendingShort, ?_, h.requestsBidi, ?_, h.streamsUni, ?_⟩
  · intro p hp e he
    rcases List.mem_append.mp he with he | he
    · exact h.pendingApart p hp e he
    · rw [List.mem_singleton.mp he]
      exact hpending p hp
  · intro r hr e he
    rcases List.mem_append.mp he with he | he
    · exact h.requestsApart r hr e he
    · rw [List.mem_singleton.mp he]
      exact hrequests r hr
  · intro x hx
    refine ⟨(h.streamsKind x hx).1, ?_⟩
    intro e he heq
    rcases List.mem_append.mp he with he | he
    · exact (h.streamsKind x hx).2 e he heq
    · rw [List.mem_singleton.mp he] at heq
      exact hstreams x hx heq

lemma Driver.Coherent.withUniStream (h : d.Coherent)
    (huni : quicStreamIdIsBidirectional a = false) : (d.withUniStream a).Coherent := by
  refine ⟨h.pendingOnce, h.pendingShort, h.pendingApart, h.requestsBidi, h.requestsApart, ?_,
    ?_⟩
  · intro x hx
    rcases List.mem_append.mp hx with hx | hx
    · exact h.streamsUni x hx
    · rw [List.mem_singleton.mp hx]
      exact huni
  · intro x hx
    rcases List.mem_append.mp hx with hx | hx
    · exact h.streamsKind x hx
    · rw [List.mem_singleton.mp hx]
      exact ⟨by simp, fun _ _ _ => rfl⟩

lemma Driver.Coherent.tracked {ours : Bool} (h : d.Coherent)
    (hbidi : quicStreamIdIsBidirectional a = true)
    (hdata : http3DriverIsDataStream d a = false) :
    (d.setEndpoint
      { d.endpoint with requests := d.endpoint.requests ++ [(a, ours)] }).Coherent := by
  refine ⟨h.pendingOnce, h.pendingShort, h.pendingApart, ?_, ?_, h.streamsUni, h.streamsKind⟩
  · intro r hr
    rcases List.mem_append.mp hr with hr | hr
    · exact h.requestsBidi r hr
    · rw [List.mem_singleton.mp hr]
      exact hbidi
  · intro r hr e he
    rcases List.mem_append.mp hr with hr | hr
    · exact h.requestsApart r hr e he
    · rw [List.mem_singleton.mp hr]
      exact (not_dataStream hdata e he).symm

lemma Driver.Coherent.classifies (h : d.Coherent) (hclassified : Classifies a d d')
    (huni : quicStreamIdIsBidirectional a = false)
    (hdata : http3DriverIsDataStream d a = false) : d'.Coherent := by
  obtain ⟨y, hy, hid, hkind⟩ := hclassified.streams
  refine ⟨?_, ?_, ?_, ?_, ?_, ?_, ?_⟩
  · rw [hclassified.pending]
    exact h.pendingOnce
  · rw [hclassified.pending]
    exact h.pendingShort
  · rw [hclassified.pending, hclassified.dataStreams]
    exact h.pendingApart
  · rw [hclassified.requests]
    exact h.requestsBidi
  · rw [hclassified.requests, hclassified.dataStreams]
    exact h.requestsApart
  · intro x hx
    rw [hy] at hx
    rcases List.mem_append.mp hx with hx | hx
    · exact h.streamsUni x hx
    · rw [List.mem_singleton.mp hx, hid]
      exact huni
  · intro x hx
    rw [hy] at hx
    rw [hclassified.dataStreams]
    rcases List.mem_append.mp hx with hx | hx
    · exact h.streamsKind x hx
    · rw [List.mem_singleton.mp hx]
      have hpush : y.kind ≠ .push := by
        rcases hkind with h | h | h <;> rw [h] <;> simp
      refine ⟨hpush, fun e he heq => ?_⟩
      rw [hid] at heq
      exact absurd heq.symm (not_dataStream hdata e he)

lemma Driver.Coherent.onUniStreamEnd (h : d.Coherent) (a : ℕ) :
    (http3DriverOnUniStreamEnd d a).1.Coherent := by
  have hforget : ∀ d : Driver, d.Coherent → (http3DriverForgetFrame d a).Coherent :=
    fun d hd => hd.frameWork (s := ⟨d, []⟩) (FrameWork.forget a a ⟨d, []⟩)
  unfold http3DriverOnUniStreamEnd
  split_ifs
  · exact hforget _ (h.forgetPending a)
  · apply hforget
    have hstreams : ∀ x ∈ (http3EndpointOnUniStreamEnd d.endpoint a).1.streams,
        x ∈ d.endpoint.streams := by
      intro x hx
      unfold http3EndpointOnUniStreamEnd at hx
      split at hx
      · exact hx
      all_goals exact mem_of_mem_forgetStream hx
    have hrequests : (http3EndpointOnUniStreamEnd d.endpoint a).1.requests =
        d.endpoint.requests := by
      unfold http3EndpointOnUniStreamEnd
      split <;> rfl
    have hfewer : ∀ r ∈ (http3EndpointOnUniStreamEnd d.endpoint a).1.requests,
        r ∈ d.endpoint.requests := by
      rw [hrequests]
      exact fun _ hr => hr
    change Driver.Coherent (d.setEndpoint _)
    exact h.fewer h.pendingOnce (fun _ hp => hp) (fun _ he => he) hfewer hstreams

lemma Driver.Coherent.uniFrames (h : s.driver.Coherent)
    (hframes : UniFrames f s status s') : s'.driver.Coherent := by
  obtain ⟨s₁, hwork, ⟨rfl, -⟩ | ⟨rfl, -⟩⟩ := hframes.works
  · exact h.frameWork hwork
  · exact (h.frameWork hwork).onUniStreamEnd f.id

/-- **A frame keeps the tables coherent**, also when it is refused. -/
theorem FrameEffect.coherent (h : FrameEffect f s status s') (hs : s.driver.Coherent) :
    s'.driver.Coherent := by
  cases h with
  | data hdata hdriver =>
    rw [hdriver]
    exact hs
  | ours hours huni => exact hs
  | held hdata hshort hok => exact hs.held hdata (fun huni => (hshort huni).2.2) hok
  | bidiSession hbidi hnew hdriver =>
    rw [hdriver]
    apply (hs.forgetPending f.id).remember (fun p hp => ne_of_mem_forgetPending hs hp)
    · exact not_tracked hnew
    · intro x hx hid
      have huni := hs.streamsUni x hx
      rw [hid, hbidi] at huni
      cases huni
  | tracked hbidi htracked hwork => exact hs.frameWork hwork
  | request hbidi hdata hd hwork =>
    rcases hd with rfl | rfl
    · exact (hs.tracked hbidi hdata).frameWork hwork
    · exact ((hs.forgetPending f.id).tracked hbidi hdata).frameWork hwork
  | empty huni hunknown hempty => exact hs
  | unknownType huni hread htype => exact hs.forgetPending f.id
  | uniSession huni hstart hnew hdriver =>
    rw [hdriver]
    apply ((hs.forgetPending f.id).withUniStream huni).remember
    · exact fun p hp => ne_of_mem_forgetPending hs hp
    · intro r hr hid
      have hbidi := hs.requestsBidi r hr
      rw [hid, huni] at hbidi
      cases hbidi
    · intro x hx hid
      rcases List.mem_append.mp hx with hx | hx
      · exact absurd hid (hnew x hx)
      · rw [List.mem_singleton.mp hx]
  | uniKnown hkind hdriver =>
    rw [hdriver]
    exact hs
  | uniFrames huni hkind hweb hframes => exact hs.uniFrames hframes
  | uniClassified huni hdata hstart hclassified hframes =>
    have hclass := (hs.forgetPending f.id).classifies hclassified huni hdata
    exact Driver.Coherent.uniFrames (s := s.setDriver _) hclass hframes
  | refused hrefused hd hwork =>
    rcases hd with rfl | rfl
    · exact hs.frameWork hwork
    · exact (hs.forgetPending f.id).frameWork hwork
  | unremembered hrefused huni hnew => exact (hs.forgetPending f.id).withUniStream huni

end Coherent

/-! ## Runs -/

/-- What happens to a driver: a frame is routed, or its owner acts. -/
inductive DriverAct
  | frame (sink : Sink) (maxFrameBytes : ℕ) (frame : Frame)
  | setSession (sessionId : ℕ)
  | mark (streamId : ℕ) (headersPending : Bool)
  | openRequest (streamId : ℕ)
  | endRequest (streamId : ℕ)
  | openStream (streamId prefixLength : ℕ)
  | reject (streamId : ℕ)
  | endSession

/-- One thing that happens to a driver. A stream the owner opens is one the connection has
just handed out. -/
inductive DriverStep : DriverAct → Feed → Feed → Prop
  | frame {sink : Sink} {M : ℕ} {frame : Frame} {s : Feed} {r : Routed}
      (h : http3DriverOnQuicFrame sink M frame s = some r) :
      DriverStep (.frame sink M frame) s r.feed
  | setSession (sessionId : ℕ) (s : Feed) :
      DriverStep (.setSession sessionId) s (s.setDriver (http3DriverSetSessionId s.driver sessionId))
  | mark (streamId : ℕ) (headersPending : Bool) (s : Feed) :
      DriverStep (.mark streamId headersPending) s
        (s.setDriver (http3DriverMarkCapsuleStream s.driver streamId headersPending).1)
  | openRequest {streamId : ℕ} {s : Feed} (hbidi : quicStreamIdIsBidirectional streamId = true)
      (hnew : s.driver.NoTrace streamId) :
      DriverStep (.openRequest streamId) s
        (s.setEndpoint (http3EndpointOpenRequest s.driver.endpoint streamId).1)
  | endRequest (streamId : ℕ) (s : Feed) :
      DriverStep (.endRequest streamId) s
        (s.setEndpoint (forgetRequest s.driver.endpoint streamId))
  | openStream {streamId prefixLength : ℕ} {s : Feed} (hnew : s.driver.NoTrace streamId) :
      DriverStep (.openStream streamId prefixLength) s
        (s.setDriver (rememberDataStream s.driver streamId prefixLength s.driver.sessionId).1)
  | reject {env : Env} {fuel streamId errorCode now : ℕ} {connection : Option Connection}
      {s : Feed} {r : Driver × Option Connection × Status}
      (h : http3DriverRejectDataStream env fuel errorCode now streamId connection s.driver =
        some r) : DriverStep (.reject streamId) s (s.setDriver r.1)
  | endSession {env : Env} {fuel now : ℕ} {connection : Option Connection} {s : Feed}
      {r : Driver × Option Connection × Status × ℕ}
      (h : http3DriverEndSessionStreams env fuel now connection s.driver = some r) :
      DriverStep .endSession s (s.setDriver r.1)

/-- The stream an act may enter into a table. -/
def DriverAct.names : DriverAct → Option ℕ
  | .frame _ _ (.stream f) => some f.id
  | .mark streamId _ => some streamId
  | .openRequest streamId => some streamId
  | .openStream streamId _ => some streamId
  | _ => none

/-- The states a driver can be in, with what its sink has been told. -/
inductive DriverReached (role : Http3Role) : Feed → Prop
  | init : DriverReached role ⟨http3DriverInit (http3EndpointInit role), []⟩
  | step {act : DriverAct} {s s' : Feed} (h : DriverReached role s) (hstep : DriverStep act s s') :
      DriverReached role s'

section Steps

variable {a : ℕ} {s s' : Feed} {act : DriverAct}

lemma routeQuicFrame_of_step {sink : Sink} {M : ℕ} {frame : Frame} {r : Routed}
    (h : http3DriverOnQuicFrame sink M frame s = some r) :
    ∃ reply, routeQuicFrame sink M frame s = some (r.feed, reply) ∧ reply.1 = r.status := by
  obtain ⟨⟨feed, reply⟩, hroute, rfl⟩ := Option.map_eq_some_iff.mp h
  exact ⟨reply, hroute, rfl⟩

/-- A frame that is no STREAM frame leaves the driver as it was. -/
lemma routeQuicFrame_other {sink : Sink} {M : ℕ} {frame : Frame} {reply : Reply}
    (h : routeQuicFrame sink M frame s = some (s', reply))
    (hother : ∀ f, frame ≠ .stream f) : s'.driver = s.driver := by
  have hgood : ∀ {r : Reply}, some (s, r) = some (s', reply) → s'.driver = s.driver := by
    intro r hr
    cases hr
    rfl
  cases frame with
  | stream f => exact absurd rfl (hother f)
  | datagram data =>
    have hdriver := report_driver s sink.onDatagram (.datagram data)
    rw [Option.some.inj h] at hdriver
    exact hdriver
  | _ => exact hgood h

/-- What a routed frame does: nothing to the driver, or what a STREAM frame does. -/
lemma frame_step_effect {sink : Sink} {M : ℕ} {frame : Frame} {r : Routed}
    (h : http3DriverOnQuicFrame sink M frame s = some r) :
    r.feed.driver = s.driver ∨ ∃ f, frame = .stream f ∧ FrameEffect f s r.status r.feed := by
  obtain ⟨reply, hroute, hstatus⟩ := routeQuicFrame_of_step h
  by_cases hstream : ∃ f, frame = .stream f
  · obtain ⟨f, rfl⟩ := hstream
    rw [← hstatus]
    exact .inr ⟨f, rfl, routeStreamFrame_effect hroute⟩
  · exact .inl (routeQuicFrame_other hroute fun f hf => hstream ⟨f, hf⟩)

lemma openRequest_spec {d : Driver} (hnew : d.NoTrace a) :
    d.setEndpoint (http3EndpointOpenRequest d.endpoint a).1 = d ∨
      d.setEndpoint (http3EndpointOpenRequest d.endpoint a).1 =
        d.setEndpoint { d.endpoint with requests := d.endpoint.requests ++ [(a, true)] } := by
  unfold http3EndpointOpenRequest trackRequest
  rw [requestTracked_eq_false hnew.requests]
  by_cases hrole : d.endpoint.role ≠ .client
  · rw [if_pos hrole]
    exact .inl rfl
  · rw [if_neg hrole, if_neg (by simp)]
    by_cases hfull : d.endpoint.requests.length ≥ http3EndpointRequestsMax
    · rw [if_pos hfull]
      exact .inl rfl
    · rw [if_neg hfull]
      exact .inr rfl

/-- **A step touches the entries of the stream it names only**, and enters none when it names
no stream. -/
theorem DriverStep.touches (h : DriverStep act s s') (hnames : ∀ b, act.names = some b → b = a) :
    s.driver.Touches a s'.driver := by
  cases h with
  | frame h =>
    rcases frame_step_effect h with hsame | ⟨f, rfl, heffect⟩
    · rw [hsame]
      exact Driver.Touches.refl _ _
    · rw [← hnames f.id rfl]
      exact heffect.touches
  | setSession sessionId =>
    exact ⟨rfl, fun p hp _ => ⟨p, hp, rfl⟩, fun _ _ h => h, fun _ h _ => h, fun _ h _ => h,
      fun _ h _ => h, fun _ h _ => h⟩
  | mark streamId headersPending =>
    rw [← hnames streamId rfl, Feed.setDriver_driver]
    unfold http3DriverMarkCapsuleStream
    split_ifs
    · exact Driver.Touches.refl _ _
    · exact Driver.Touches.refl _ _
    · refine ⟨rfl, fun p hp _ => ⟨p, hp, rfl⟩, fun _ _ h => h, fun _ h _ => h, ?_,
        fun _ h _ => h, fun _ h _ => h⟩
      intro x hx hne
      rw [Driver.marked, List.map_append] at hx
      rcases List.mem_append.mp hx with hx | hx
      · exact hx
      · exact absurd (List.mem_singleton.mp hx) hne
  | openRequest hbidi hnew =>
    rename_i streamId
    rw [← hnames streamId rfl]
    rcases openRequest_spec hnew with hsame | hnow
    · change Driver.Touches _ _ (s.driver.setEndpoint _)
      rw [hsame]
      exact Driver.Touches.refl _ _
    · change Driver.Touches _ _ (s.driver.setEndpoint _)
      rw [hnow]
      exact touches_tracked _ _ _
  | endRequest streamId =>
    exact ⟨rfl, fun p hp _ => ⟨p, hp, rfl⟩, fun _ _ h => h, fun _ h _ => h, fun _ h _ => h,
      fun _ h _ => h, fun r hr _ => mem_of_mem_swapRemove hr⟩
  | openStream hnew =>
    rename_i streamId prefixLength
    rw [← hnames streamId rfl, Feed.setDriver_driver]
    unfold rememberDataStream
    split_ifs
    · exact Driver.Touches.refl _ _
    · exact touches_remember ⟨streamId, prefixLength, s.driver.sessionId⟩ s.driver
  | reject h =>
    obtain ⟨dataStreams, hdriver, hfewer⟩ := rejectDataStream_spec h
    rw [Feed.setDriver_driver, hdriver]
    exact ⟨rfl, fun p hp _ => ⟨p, hp, rfl⟩, fun _ _ h => h, fun e he _ => hfewer e he,
      fun _ h _ => h, fun _ h _ => h, fun _ h _ => h⟩
  | endSession h =>
    obtain ⟨dataStreams, hdriver, hfewer⟩ := endSessionStreams_spec h
    rw [Feed.setDriver_driver, hdriver]
    exact ⟨rfl, fun p hp _ => ⟨p, hp, rfl⟩, fun _ _ h => h, fun e he _ => hfewer e he,
      fun _ h _ => h, fun _ h _ => h, fun _ h _ => h⟩

/-- **A step keeps the tables coherent.** -/
theorem DriverStep.coherent (h : DriverStep act s s') (hs : s.driver.Coherent) :
    s'.driver.Coherent := by
  cases h with
  | frame h =>
    rcases frame_step_effect h with hsame | ⟨f, -, heffect⟩
    · rw [hsame]
      exact hs
    · exact heffect.coherent hs
  | setSession sessionId => exact hs.congr rfl rfl rfl rfl
  | mark streamId headersPending =>
    rw [Feed.setDriver_driver]
    unfold http3DriverMarkCapsuleStream
    split_ifs
    · exact hs
    · exact hs
    · exact hs.congr rfl rfl rfl rfl
  | openRequest hbidi hnew =>
    change Driver.Coherent (s.driver.setEndpoint _)
    rcases openRequest_spec hnew with hsame | hnow
    · rw [hsame]
      exact hs
    · rw [hnow]
      exact hs.tracked hbidi (isDataStream_eq_false hnew.dataStreams)
  | endRequest streamId =>
    change Driver.Coherent (s.driver.setEndpoint _)
    exact hs.fewer hs.pendingOnce (fun _ hp => hp) (fun _ he => he) (fun _ hr => mem_of_mem_swapRemove hr)
      (fun _ hx => hx)
  | openStream hnew =>
    rw [Feed.setDriver_driver]
    unfold rememberDataStream
    split_ifs
    · exact hs
    · exact hs.remember hnew.pending hnew.requests fun x hx hid => absurd hid (hnew.streams x hx)
  | reject h =>
    obtain ⟨dataStreams, hdriver, hfewer⟩ := rejectDataStream_spec h
    rw [Feed.setDriver_driver, hdriver]
    exact hs.fewer hs.pendingOnce (fun _ hp => hp) hfewer (fun _ hr => hr) (fun _ hx => hx)
  | endSession h =>
    obtain ⟨dataStreams, hdriver, hfewer⟩ := endSessionStreams_spec h
    rw [Feed.setDriver_driver, hdriver]
    exact hs.fewer hs.pendingOnce (fun _ hp => hp) hfewer (fun _ hr => hr) (fun _ hx => hx)

/-- **In every state of a run the tables are coherent.** -/
theorem DriverReached.coherent {role : Http3Role} (h : DriverReached role s) :
    s.driver.Coherent := by
  induction h with
  | init =>
    have hempty : ∀ {α : Type} {P : α → Prop} (x : α), x ∈ ([] : List α) → P x := by
      intro α P x hx
      cases hx
    exact ⟨List.nodup_nil, hempty, hempty, hempty, hempty, hempty, hempty⟩
  | step _ hstep ih => exact hstep.coherent ih

/-- A stream has the entries that it had before, or fewer. -/
structure Driver.NoMoreOf (a : ℕ) (d d' : Driver) : Prop where
  pending : ∀ p ∈ d'.pending, p.streamId = a → ∃ q ∈ d.pending, q.streamId = a
  frames : d'.InFrames a → d.InFrames a
  dataStreams : ∀ e ∈ d'.dataStreams, e.streamId = a → e ∈ d.dataStreams
  marks : a ∈ d'.marked → a ∈ d.marked
  streams : ∀ x ∈ d'.endpoint.streams, x.streamId = a → x ∈ d.endpoint.streams
  requests : ∀ r ∈ d'.endpoint.requests, r.1 = a → r ∈ d.endpoint.requests

lemma Driver.NoMoreOf.of_touches {b : ℕ} {d d' d'' : Driver} (h : d.NoMoreOf a d')
    (h' : d'.Touches b d'') (hne : a ≠ b) : d.NoMoreOf a d'' where
  pending p hp hid := by
    obtain ⟨q, hq, hqp⟩ := h'.pending p hp (hid ▸ hne)
    exact h.pending q hq (hqp.trans hid)
  frames hin := h.frames (h'.frames a hne hin)
  dataStreams e he hid := h.dataStreams e (h'.dataStreams e he (hid ▸ hne)) hid
  marks hin := h.marks (h'.marks a hin hne)
  streams x hx hid := h.streams x (h'.streams x hx (hid ▸ hne)) hid
  requests r hr hid := h.requests r (h'.requests r hr (hid ▸ hne)) hid

end Steps

end WebTransport
