import WebTransport.Http3.StreamPrefix
import WebTransport.Http3.FrameWork

/-!
# The first frames of a stream

A stream the driver has no trace of begins with frames that are held until its prefix is
complete. This module follows these frames: what is held after each of them, and what stops
them.
-/

namespace WebTransport

open SwapRemove

/-! ## Streams the driver does not know -/

/-- No table of the driver holds an entry for a stream. -/
structure Driver.NoTrace (d : Driver) (a : ℕ) : Prop where
  pending : ∀ p ∈ d.pending, p.streamId ≠ a
  frames : ¬ d.InFrames a
  dataStreams : ∀ e ∈ d.dataStreams, e.streamId ≠ a
  marks : a ∉ d.marked
  streams : ∀ e ∈ d.endpoint.streams, e.streamId ≠ a
  requests : ∀ r ∈ d.endpoint.requests, r.1 ≠ a

section NoTrace

variable {d : Driver} {a : ℕ}

lemma findPending_eq_none (h : ∀ p ∈ d.pending, p.streamId ≠ a) : findPending d a = none :=
  List.find?_eq_none.mpr fun p hp => by simpa using h p hp

lemma isDataStream_eq_false (h : ∀ e ∈ d.dataStreams, e.streamId ≠ a) :
    http3DriverIsDataStream d a = false :=
  List.any_eq_false.mpr fun e he => by simpa using h e he

lemma streamKind_eq_unknown {e : Endpoint} (h : ∀ x ∈ e.streams, x.streamId ≠ a) :
    http3EndpointStreamKind e a = .unknown := by
  have hfind : e.streams.find? (fun x => x.streamId = a) = none :=
    List.find?_eq_none.mpr fun x hx => by simpa using h x hx
  rw [http3EndpointStreamKind, hfind]

lemma requestTracked_eq_false {e : Endpoint} (h : ∀ r ∈ e.requests, r.1 ≠ a) :
    http3EndpointRequestTracked e a = false :=
  List.any_eq_false.mpr fun r hr => by simpa using h r hr

/-- A driver that has seen no stream has no trace of any. -/
lemma http3DriverInit_noTrace (role : Http3Role) (a : ℕ) :
    (http3DriverInit (http3EndpointInit role)).NoTrace a :=
  ⟨by simp [http3DriverInit], by rintro ⟨i, hi, -⟩; exact absurd hi (Nat.not_lt_zero i),
    by simp [http3DriverInit], by simp [http3DriverInit, Driver.marked],
    by simp [http3DriverInit, http3EndpointInit], by simp [http3DriverInit, http3EndpointInit]⟩

/-- Knowing its session tells the driver nothing about a stream. -/
lemma Driver.NoTrace.setSessionId (h : d.NoTrace a) (sessionId : ℕ) :
    (http3DriverSetSessionId d sessionId).NoTrace a :=
  ⟨h.pending, h.frames, h.dataStreams, h.marks, h.streams, h.requests⟩

end NoTrace

/-! ## Held bytes -/

/-- The driver with some bytes of a stream's prefix held, and no entry when there are none. -/
def Driver.holding (d : Driver) (a : ℕ) (held : List UInt8) : Driver :=
  if held = [] then d else { d with pending := d.pending ++ [⟨a, held⟩] }

section Holding

variable {d : Driver} {a : ℕ} {held bytes : List UInt8}

@[simp] lemma holding_nil : d.holding a [] = d := if_pos rfl

lemma holding_of_ne (h : held ≠ []) :
    d.holding a held = { d with pending := d.pending ++ [⟨a, held⟩] } := if_neg h

@[simp] lemma holding_endpoint : (d.holding a held).endpoint = d.endpoint := by
  unfold Driver.holding
  split_ifs <;> rfl

@[simp] lemma holding_dataStreams : (d.holding a held).dataStreams = d.dataStreams := by
  unfold Driver.holding
  split_ifs <;> rfl

/-- The entry of the stream is the one that is replaced. -/
lemma replacePending_append {l : List PendingPrefix} (hl : ∀ p ∈ l, p.streamId ≠ a) :
    replacePending a bytes (l ++ [⟨a, held⟩]) = l ++ [⟨a, bytes⟩] := by
  induction l with
  | nil => simp [replacePending]
  | cons p l ih =>
    have hp : p.streamId ≠ a := hl p List.mem_cons_self
    rw [List.cons_append, replacePending, if_neg hp,
      ih fun q hq => hl q (List.mem_cons_of_mem _ hq)]
    rfl

variable (hd : ∀ p ∈ d.pending, p.streamId ≠ a)
include hd

lemma findPending_holding :
    findPending (d.holding a held) a = if held = [] then none else some ⟨a, held⟩ := by
  by_cases hheld : held = []
  · subst hheld
    rw [holding_nil, if_pos rfl]
    exact findPending_eq_none hd
  · have hnone : d.pending.find? (fun p => p.streamId = a) = none := findPending_eq_none hd
    rw [holding_of_ne hheld, if_neg hheld, findPending, List.find?_append, hnone]
    simp

lemma heldBytes_holding : heldBytes (d.holding a held) a = held := by
  rw [heldBytes, findPending_holding hd]
  by_cases hheld : held = []
  · rw [if_pos hheld]
    exact hheld.symm
  · rw [if_neg hheld]

lemma forgetPending_holding : forgetPending (d.holding a held) a = d := by
  have hother : ∀ p ∈ d.pending, decide (p.streamId = a) = false := by
    intro p hp
    simpa using hd p hp
  by_cases hheld : held = []
  · subst hheld
    rw [holding_nil, forgetPending, swapRemove_of_none hother]
  · rw [holding_of_ne hheld, forgetPending]
    simp only
    rw [swapRemove_append hother (by simp)]

/-- Holding more of a prefix takes an entry when the stream has none. -/
lemma holdPending_holding (hbytes : bytes ≠ [])
    (hroom : held ≠ [] ∨ d.pending.length < http3DriverPendingMax) :
    holdPending (d.holding a held) a bytes = (d.holding a bytes, .ok) := by
  rw [holdPending, findPending_holding hd, holding_of_ne hbytes]
  by_cases hheld : held = []
  · have hlen : ¬ d.pending.length ≥ http3DriverPendingMax := by
      rcases hroom with hne | hlt
      · exact absurd hheld hne
      · exact not_le.mpr hlt
    subst hheld
    rw [if_pos rfl, holding_nil, if_neg (by simp), if_neg hlen]
  · rw [if_neg hheld, Option.isSome_some, if_pos rfl, holding_of_ne hheld]
    simp only
    rw [replacePending_append hd]

lemma holdPending_full (hfull : ¬ d.pending.length < http3DriverPendingMax) :
    holdPending d a bytes = (d, .limit) := by
  rw [holdPending, findPending_eq_none hd, if_neg (by simp), if_pos (not_lt.mp hfull)]

end Holding

/-! ## The frames of a stream -/

/-- The STREAM frames that carry some pieces in order from an offset on; the last of them
ends the stream when `fin` is set. -/
def streamFrames (a : ℕ) (fin : Bool) : ℕ → List (List UInt8) → List StreamFrame
  | _, [] => []
  | offset, [p] => [⟨a, offset, true, fin, true, p⟩]
  | offset, p :: q :: ps =>
    ⟨a, offset, true, false, true, p⟩ :: streamFrames a fin (offset + p.length) (q :: ps)

/-- Route some STREAM frames in order; the first refusal ends the run. -/
def routeFrames (sink : Sink) (maxFrameBytes : ℕ) :
    List StreamFrame → Feed → Option (Feed × Reply)
  | [], s => some (s, Reply.good)
  | f :: fs, s =>
    match routeStreamFrame sink maxFrameBytes f s with
    | none => none
    | some (s, reply) =>
      if reply.1 ≠ .ok then some (s, reply) else routeFrames sink maxFrameBytes fs s

section Frames

variable {sink : Sink} {M : ℕ} {a offset : ℕ} {fin : Bool} {s s' : Feed} {reply : Reply}

lemma streamFrames_cons {p : List UInt8} {ps : List (List UInt8)} (hps : ps ≠ []) :
    streamFrames a fin offset (p :: ps) =
      ⟨a, offset, true, false, true, p⟩ :: streamFrames a fin (offset + p.length) ps := by
  cases ps with
  | nil => exact absurd rfl hps
  | cons q ps => rfl

/-- Frames that do not end the stream, followed by the others. -/
lemma streamFrames_append (before : List (List UInt8)) {after : List (List UInt8)}
    (hafter : after ≠ []) :
    streamFrames a fin offset (before ++ after) =
      streamFrames a false offset before ++
        streamFrames a fin (offset + before.flatten.length) after := by
  induction before generalizing offset with
  | nil => simp [streamFrames]
  | cons p ps ih =>
    have hne : ps ++ after ≠ [] := List.append_ne_nil_of_right_ne_nil _ hafter
    have hfirst : streamFrames a false offset (p :: ps) =
        ⟨a, offset, true, false, true, p⟩ :: streamFrames a false (offset + p.length) ps := by
      cases ps with
      | nil => rfl
      | cons q ps => rfl
    rw [List.cons_append, streamFrames_cons hne, ih, hfirst, List.cons_append,
      List.flatten_cons, List.length_append, Nat.add_assoc]

lemma routeFrames_append_ok {xs ys : List StreamFrame}
    (h : routeFrames sink M xs s = some (s', reply)) (hok : reply.1 = .ok) :
    routeFrames sink M (xs ++ ys) s = routeFrames sink M ys s' := by
  induction xs generalizing s with
  | nil =>
    cases h
    rfl
  | cons f fs ih =>
    rw [List.cons_append]
    rw [routeFrames] at h ⊢
    cases hroute : routeStreamFrame sink M f s with
    | none =>
      rw [hroute] at h
      cases h
    | some r =>
      obtain ⟨s₁, r⟩ := r
      rw [hroute] at h
      dsimp only at h ⊢
      by_cases hr : r.1 ≠ .ok
      · rw [if_pos hr] at h
        cases h
        exact absurd hok hr
      · rw [if_neg hr] at h ⊢
        exact ih h

lemma routeFrames_append_refused {xs ys : List StreamFrame}
    (h : routeFrames sink M xs s = some (s', reply)) (hrefused : reply.1 ≠ .ok) :
    routeFrames sink M (xs ++ ys) s = some (s', reply) := by
  induction xs generalizing s with
  | nil =>
    cases h
    exact absurd rfl hrefused
  | cons f fs ih =>
    rw [List.cons_append]
    rw [routeFrames] at h ⊢
    cases hroute : routeStreamFrame sink M f s with
    | none =>
      rw [hroute] at h
      cases h
    | some r =>
      obtain ⟨s₁, r⟩ := r
      rw [hroute] at h
      dsimp only at h ⊢
      by_cases hr : r.1 ≠ .ok
      · rw [if_pos hr] at h ⊢
        exact h
      · rw [if_neg hr] at h ⊢
        exact ih h

end Frames

/-! ## Frames inside the prefix -/

/-- The prefix of a stream is complete in `bytes`. -/
def startComplete (a : ℕ) (bytes : List UInt8) : Bool :=
  if quicStreamIdIsBidirectional a then (http3DriverClassifyBidiStart bytes).toBool
  else (readUniPrefix bytes).isSome

section Start

variable {a : ℕ} {bytes : List UInt8}

lemma startComplete_uni (h : quicStreamIdIsBidirectional a = false) :
    startComplete a bytes = (readUniPrefix bytes).isSome := by simp [startComplete, h]

lemma startComplete_bidi (h : quicStreamIdIsBidirectional a = true) :
    startComplete a bytes = (http3DriverClassifyBidiStart bytes).toBool := by
  simp [startComplete, h]

/-- A start that is incomplete was incomplete with fewer bytes. -/
lemma startComplete_left {more : List UInt8} (h : startComplete a (bytes ++ more) = false) :
    startComplete a bytes = false := by
  unfold startComplete at h ⊢
  split_ifs at h ⊢
  · cases hstart : http3DriverClassifyBidiStart bytes with
    | error e => rfl
    | ok start =>
      rw [http3DriverClassifyBidiStart_append hstart] at h
      exact h
  · simp only [Option.isSome_eq_false_iff, Option.isNone_iff_eq_none] at h ⊢
    exact readUniPrefix_none_left h

lemma exists_completing_piece {held : List UInt8} {pieces : List (List UInt8)}
    (hheld : startComplete a held = false)
    (htotal : startComplete a (held ++ pieces.flatten) = true) :
    ∃ before p after, pieces = before ++ p :: after ∧
      startComplete a (held ++ before.flatten) = false ∧
      startComplete a (held ++ before.flatten ++ p) = true := by
  induction pieces generalizing held with
  | nil =>
    rw [List.flatten_nil, List.append_nil, hheld] at htotal
    cases htotal
  | cons p ps ih =>
    cases hp : startComplete a (held ++ p) with
    | true => exact ⟨[], p, ps, rfl, by simpa using hheld, by simpa using hp⟩
    | false =>
      have hrest : startComplete a (held ++ p ++ ps.flatten) = true := by
        simpa [List.append_assoc] using htotal
      obtain ⟨before, q, after, rfl, hbefore, hq⟩ := ih hp hrest
      refine ⟨p :: before, q, after, rfl, ?_, ?_⟩
      · simpa [List.append_assoc] using hbefore
      · simpa [List.append_assoc] using hq

end Start

section Held

variable (sink : Sink) (M : ℕ) (log : List SinkEvent) (held : List UInt8) {a : ℕ} {d : Driver}
  {f : StreamFrame}

/-- A stream the peer opened and the driver has no trace of. -/
structure Driver.Unseen (d : Driver) (a : ℕ) : Prop where
  peer : streamIsOurs d.endpoint a = false
  noTrace : d.NoTrace a

/-- Where a frame of such a stream is routed while its prefix is held. -/
lemma routeStreamFrame_unseen (hd : d.Unseen a) (hid : f.id = a) :
    routeStreamFrame sink M f ⟨d.holding a held, log⟩ =
      if quicStreamIdIsBidirectional a then routeBidi sink M f ⟨d.holding a held, log⟩
      else routeUni sink M f ⟨d.holding a held, log⟩ := by
  subst hid
  have hdata : http3DriverIsDataStream (d.holding f.id held) f.id = false :=
    isDataStream_eq_false (by simpa using hd.noTrace.dataStreams)
  rw [routeStreamFrame, hdata, if_neg (by simp), if_neg]
  simp [hd.peer]

/-- The bidirectional path looks at the held bytes of a stream that is not tracked. -/
lemma routeBidi_start (hd : d.NoTrace a) (hid : f.id = a) (hoffset : f.offset = held.length)
    (hne : held ++ f.data ≠ []) :
    routeBidi sink M f ⟨d.holding a held, log⟩ =
      match http3DriverClassifyBidiStart (assembledStart held f.data) with
      | .error _ =>
        some (⟨(holdPending (d.holding a held) a (assembledStart held f.data)).1, log⟩,
          (holdPending (d.holding a held) a (assembledStart held f.data)).2, .noError)
      | .ok (.webtransport sessionId consumed) =>
        if foreignSession d sessionId then some (⟨d, log⟩, .protocol, .noError)
        else if (rememberDataStream d a 0 (some sessionId)).2 ≠ .ok then
          some (⟨(rememberDataStream d a 0 (some sessionId)).1, log⟩,
            (rememberDataStream d a 0 (some sessionId)).2, .noError)
        else
          some (deliverAfterPrefix sink a ((assembledStart held f.data).drop consumed)
            (beyondStart held f.data) f.fin
            ⟨(rememberDataStream d a 0 (some sessionId)).1, log⟩)
      | .ok .request =>
        if held.length > 0 then
          match http3DriverOnStreamBytes sink M a held false ⟨d, log⟩ with
          | none => none
          | some (s, reply) =>
            if reply.1 ≠ .ok then some (s, reply.1, .noError)
            else routeRequest sink M false f s
        else routeRequest sink M false f ⟨d, log⟩ := by
  subst hid
  have htracked : http3EndpointRequestTracked (d.holding f.id held).endpoint f.id = false := by
    rw [holding_endpoint]
    exact requestTracked_eq_false hd.requests
  have hfirst : (findPending (d.holding f.id held) f.id).isSome = true ∨
      f.offset = 0 ∧ f.data.length > 0 := by
    rw [findPending_holding hd.pending]
    by_cases hheld : held = []
    · subst hheld
      exact .inr ⟨hoffset, List.length_pos_of_ne_nil (by simpa using hne)⟩
    · exact .inl (by simp [hheld])
  simp only [routeBidi, htracked]
  rw [if_pos ⟨rfl, hfirst⟩]
  simp only [heldBytes_holding hd.pending, forgetPending_holding hd.pending, Feed.setDriver]
  unfold assembledStart beyondStart
  cases http3DriverClassifyBidiStart
      (held ++ f.data.take (min f.data.length (http3DriverPrefixMax - held.length))) with
  | error e => rfl
  | ok start =>
    cases start with
    | request => rfl
    | webtransport sessionId consumed => rfl

/-- The unidirectional path reads the prefix of a stream the endpoint has not classified. -/
lemma routeUni_start (hd : d.NoTrace a) (hid : f.id = a) {start : UniStart}
    (hstart : http3DriverOnUniStreamData (d.holding a held) a f.offset f.data = start) :
    routeUni sink M f ⟨d.holding a held, log⟩ =
      if start.reply.1 ≠ .ok then some (⟨start.driver, log⟩, start.reply)
      else if start.kind = .unknown then some (⟨start.driver, log⟩, Reply.good)
      else routeUniPayload sink M start.kind a start.payload f.fin ⟨start.driver, log⟩ := by
  subst hid
  have hunknown : http3EndpointStreamKind (d.holding f.id held).endpoint f.id = .unknown := by
    rw [holding_endpoint]
    exact streamKind_eq_unknown hd.streams
  unfold routeUni
  simp only [hunknown, hstart, ne_eq, not_true_eq_false, if_false]
  rfl

/-- A frame that leaves the prefix incomplete is held. -/
theorem routeStreamFrame_held (hd : d.Unseen a) (hid : f.id = a)
    (hoffset : f.offset = held.length)
    (hincomplete : startComplete a (held ++ f.data) = false)
    (hbidi : quicStreamIdIsBidirectional a = true → held ++ f.data ≠ [])
    (hroom : f.data = [] ∨ held ≠ [] ∨ d.pending.length < http3DriverPendingMax) :
    routeStreamFrame sink M f ⟨d.holding a held, log⟩ =
      some (⟨d.holding a (held ++ f.data), log⟩, Reply.good) := by
  rw [routeStreamFrame_unseen sink M log held hd hid]
  cases hkind : quicStreamIdIsBidirectional a with
  | true =>
    have hne := hbidi hkind
    rw [startComplete_bidi hkind] at hincomplete
    cases hstart : http3DriverClassifyBidiStart (held ++ f.data) with
    | ok start =>
      rw [hstart] at hincomplete
      cases hincomplete
    | error e =>
      have hlong := length_of_unclassified hstart
      rw [List.length_append] at hlong
      have hfits : assembledStart held f.data = held ++ f.data := by
        rw [assembledStart, List.take_of_length_le]
        rw [le_min_iff]
        omega
      have hhold : holdPending (d.holding a held) a (held ++ f.data) =
          (d.holding a (held ++ f.data), .ok) := by
        apply holdPending_holding hd.noTrace.pending hne
        rcases hroom with hnil | hroom
        · left
          simpa [hnil] using hne
        · exact hroom
      rw [if_pos rfl, routeBidi_start sink M log held hd.noTrace hid hoffset hne, hfits, hstart]
      simp only [hhold]
      rfl
  | false =>
    rw [startComplete_uni hkind, Option.isSome_eq_false_iff, Option.isNone_iff_eq_none]
      at hincomplete
    have hstart : http3DriverOnUniStreamData (d.holding a held) a f.offset f.data =
        ⟨d.holding a (held ++ f.data), Reply.good, .unknown, []⟩ := by
      rw [http3DriverOnUniStreamData, heldBytes_holding hd.noTrace.pending]
      simp only
      rw [if_neg (by simpa using hoffset)]
      by_cases hnil : f.data = []
      · rw [if_pos hnil, hnil, List.append_nil]
      · have hne : held ++ f.data ≠ [] := List.append_ne_nil_of_right_ne_nil _ hnil
        rw [if_neg hnil, assemblePrefix_incomplete (Nat.lt_succ_self _) hincomplete,
          if_pos (length_lt_of_readUniPrefix_none hincomplete),
          holdPending_holding hd.noTrace.pending hne (hroom.resolve_left hnil)]
        rfl
    rw [if_neg (by simp), routeUni_start sink M log held hd.noTrace hid hstart]
    simp [Reply.good]

/-- The first frame of a prefix that must be held is refused when the table is full. -/
theorem routeStreamFrame_full (hd : d.Unseen a) (hid : f.id = a) (hoffset : f.offset = 0)
    (hincomplete : startComplete a f.data = false) (hne : f.data ≠ [])
    (hfull : ¬ d.pending.length < http3DriverPendingMax) :
    routeStreamFrame sink M f ⟨d, log⟩ = some (⟨d, log⟩, .limit, .noError) := by
  have hroute := routeStreamFrame_unseen sink M log [] hd hid
  rw [holding_nil] at hroute
  rw [hroute]
  cases hkind : quicStreamIdIsBidirectional a with
  | true =>
    rw [startComplete_bidi hkind] at hincomplete
    cases hstart : http3DriverClassifyBidiStart f.data with
    | ok start =>
      rw [hstart] at hincomplete
      cases hincomplete
    | error e =>
      have hlong := length_of_unclassified hstart
      have hfits : assembledStart [] f.data = f.data := by
        rw [assembledStart, List.nil_append, List.take_of_length_le]
        rw [le_min_iff]
        exact ⟨le_refl _, by simpa using hlong⟩
      have hbidi := routeBidi_start sink M log [] hd.noTrace hid hoffset
        (by simpa using hne)
      rw [holding_nil] at hbidi
      rw [if_pos rfl, hbidi, hfits, hstart]
      simp only [holdPending_full hd.noTrace.pending hfull]
  | false =>
    rw [startComplete_uni hkind, Option.isSome_eq_false_iff, Option.isNone_iff_eq_none]
      at hincomplete
    have hstart : http3DriverOnUniStreamData (d.holding a []) a f.offset f.data =
        ⟨d, (.limit, .noError), .unknown, []⟩ := by
      rw [http3DriverOnUniStreamData, heldBytes_holding hd.noTrace.pending]
      simp only
      rw [if_neg (by simpa using hoffset), if_neg hne,
        assemblePrefix_incomplete (Nat.lt_succ_self _) (by simpa using hincomplete)]
      simp only [List.nil_append, holding_nil]
      rw [if_pos (length_lt_of_readUniPrefix_none hincomplete),
        holdPending_full hd.noTrace.pending hfull]
    have huni := routeUni_start sink M log [] hd.noTrace hid hstart
    rw [holding_nil] at huni
    rw [if_neg (by simp), huni]
    rfl

/-- The frames before the one that completes the prefix: they are held, unless the table has
no room for them. A bidirectional stream must not begin with an empty frame. -/
theorem routeFrames_held (hd : d.Unseen a) (before : List (List UInt8))
    (hincomplete : startComplete a (held ++ before.flatten) = false)
    (hbidi : quicStreamIdIsBidirectional a = true → held = [] → before.head? ≠ some []) :
    routeFrames sink M (streamFrames a false held.length before) ⟨d.holding a held, log⟩ =
      if held ≠ [] ∨ before.flatten = [] ∨ d.pending.length < http3DriverPendingMax then
        some (⟨d.holding a (held ++ before.flatten), log⟩, Reply.good)
      else some (⟨d, log⟩, .limit, .noError) := by
  induction before generalizing held with
  | nil => simp [streamFrames, routeFrames]
  | cons p ps ih =>
    have hframes : streamFrames a false held.length (p :: ps) =
        ⟨a, held.length, true, false, true, p⟩ ::
          streamFrames a false (held ++ p).length ps := by
      rw [List.length_append]
      cases ps with
      | nil => rfl
      | cons q ps => rfl
    have hassoc : held ++ (p :: ps).flatten = held ++ p ++ ps.flatten := by
      rw [List.flatten_cons, List.append_assoc]
    rw [hassoc] at hincomplete
    have hfirst := startComplete_left hincomplete
    rw [hframes, routeFrames, hassoc]
    by_cases hstop : p ≠ [] ∧ held = [] ∧ ¬ d.pending.length < http3DriverPendingMax
    · obtain ⟨hp, rfl, hfull⟩ := hstop
      have hroute := routeStreamFrame_full sink M log
        (f := ⟨a, 0, true, false, true, p⟩) hd rfl rfl (by simpa using hfirst) hp hfull
      rw [holding_nil, List.length_nil, hroute, if_neg]
      · rfl
      · simp [hp, hfull]
    · have hroom : p = [] ∨ held ≠ [] ∨ d.pending.length < http3DriverPendingMax := by
        by_contra hnone
        rw [not_or, not_or] at hnone
        exact hstop ⟨hnone.1, not_not.mp hnone.2.1, hnone.2.2⟩
      have hne : quicStreamIdIsBidirectional a = true → held ++ p ≠ [] := by
        intro hkind hnil
        obtain ⟨rfl, rfl⟩ := List.append_eq_nil_iff.mp hnil
        exact hbidi hkind rfl rfl
      have hroute := routeStreamFrame_held sink M log held
        (f := ⟨a, held.length, true, false, true, p⟩) hd rfl rfl hfirst hne hroom
      rw [hroute]
      dsimp only
      rw [if_neg (by simp [Reply.good]), ih (held ++ p) hincomplete
        (fun hkind hnil => absurd hnil (hne hkind))]
      have hsame : (held ++ p ≠ [] ∨ ps.flatten = [] ∨
          d.pending.length < http3DriverPendingMax) ↔
          (held ≠ [] ∨ (p :: ps).flatten = [] ∨
            d.pending.length < http3DriverPendingMax) := by
        rw [List.flatten_cons, List.append_eq_nil_iff, ne_eq, List.append_eq_nil_iff]
        rcases hroom with hp | hheld | hlt
        · simp [hp]
        · simp [hheld]
        · simp [hlt]
      simp only [hsame]

end Held

end WebTransport
