import WebTransport.Lib.HighWater
import WebTransport.Quic.Advertised

/-!
# The transport of the driver over a connection

How the HTTP/3 driver opens and writes streams of a QUIC connection
(`http3/quic_transport.c`). A write goes out at the stream's own offset and is recorded
afterwards. What the peer granted is consulted neither here nor below: the limits of the peer
are kept by whoever asks for the write.
-/

namespace WebTransport

/-- Open a stream for the driver. -/
def quicOpenStream (bidirectional : Bool) (c : Connection) : Connection × Except Status ℕ :=
  quicConnectionOpenStream bidirectional c

/-- What is recorded of a write once its frame is out. -/
def recordSend (streamId length : ℕ) (fin : Bool) (c : Connection) : Connection × Status :=
  match quicStreamTableFind c.streams streamId with
  | none => (c, .state)
  | some stream =>
    match quicStreamOnDataSent stream length with
    | .error status => (c, status)
    | .ok stream =>
      let c := { c with streams := c.streams.setStream stream }
      if fin then
        match quicStreamOnFinSent stream with
        | .error status => (c, status)
        | .ok stream => ({ c with streams := c.streams.setStream stream }, .ok)
      else (c, .ok)

/-- Write bytes to a stream for the driver. -/
def quicSendStream (env : Env) (fuel streamId : ℕ) (data : List UInt8) (fin : Bool) (now : ℕ)
    (c : Connection) : Option (Connection × Status) :=
  match quicStreamTableFind c.streams streamId with
  | none => some (c, .state)
  | some stream =>
    match quicConnectionSendStream env fuel streamId stream.sendOffset data fin now c with
    | none => none
    | some (c, .ok) => some (recordSend streamId data.length fin c)
    | some (c, status) => some (c, status)

/-- The limits in the peer's transport parameters are taken over. -/
def takePeerLimits (limits : PeerLimits) (c : Connection) : Connection :=
  { c with
    peerLimits := { limits with set := true }
    flow := { c.flow with peerMaxData := limits.initialMaxData } }

/-! ## STREAM frames on the wire -/

/-- The STREAM frames among the events of a connection. -/
def streamFramesOf (events : List ConnectionEvent) : List StreamFrame :=
  events.filterMap fun
    | .sent _ _ (some (.stream f)) _ => some f
    | _ => none

/-- The STREAM frames that went out between two states. -/
def newStreamFrames (c c' : Connection) : List StreamFrame :=
  streamFramesOf (c'.trace.drop c.trace.length)

/-- A frame that is no STREAM frame. -/
def Frame.NoStream (frame : Frame) : Prop := ∀ f, frame ≠ .stream f

/-- The slots keep no STREAM frame, and no packet has repeated one from a slot. -/
structure Connection.RepeatsNoStream (c : Connection) : Prop where
  slots : ∀ slot wire, c.kept slot = some wire →
    ∃ frame : Frame, frame.NoStream ∧ retainedWire frame = some wire
  sent : ∀ space n payload, .sent space n none payload ∈ c.trace →
    ∃ frame : Frame, frame.NoStream ∧ retainedWire frame = some payload

/-- A change of what has no part in sending. -/
structure Connection.SameWire (c c' : Connection) : Prop where
  sending : c.SameSending c'
  kept : c'.kept = c.kept
  trace : c'.trace = c.trace

/-- One change that puts no STREAM frame on the wire. -/
inductive UnstreamedStep (env : Env) (c : Connection) : Connection → Prop
  | quiet {c' : Connection} (h : QuietStep env Frame.NoStream c c') : UnstreamedStep env c c'
  | beside {c' : Connection} (h : c.SameWire c') : UnstreamedStep env c c'

/-- Changes that put no STREAM frame on the wire, one after the other. -/
def Unstreamed (env : Env) : Connection → Connection → Prop :=
  Relation.ReflTransGen (UnstreamedStep env)

section Unstreamed

variable {env : Env} {c c' c'' : Connection}

lemma streamFramesOf_append (l l' : List ConnectionEvent) :
    streamFramesOf (l ++ l') = streamFramesOf l ++ streamFramesOf l' :=
  List.filterMap_append

/-- The STREAM frames of a trace that goes on. -/
lemma newStreamFrames_of_trace {events : List ConnectionEvent} (h : c'.trace = c.trace ++ events) :
    newStreamFrames c c' = streamFramesOf events := by
  unfold newStreamFrames
  rw [h, List.drop_left]

lemma Unstreamed.trans (h : Unstreamed env c c') (h' : Unstreamed env c' c'') :
    Unstreamed env c c'' :=
  Relation.ReflTransGen.trans h h'

lemma Unstreamed.of_quiet (h : Quiet env Frame.NoStream c c') : Unstreamed env c c' := by
  induction h with
  | refl => exact .refl
  | tail _ hstep ih => exact ih.tail (.quiet hstep)

lemma Unstreamed.of_sameWire (h : c.SameWire c') : Unstreamed env c c' := .single (.beside h)

/-- A change of the streams, the limits, the flow control or the counters. -/
lemma Unstreamed.of_eq (hsent : c'.loss.sent = c.loss.sent) (hspaces : c'.spaces = c.spaces)
    (hkept : c'.kept = c.kept) (htrace : c'.trace = c.trace) : Unstreamed env c c' :=
  .of_sameWire ⟨.of_eq hsent hspaces, hkept, htrace⟩

/-- One change on the sending side with no STREAM frame: the trace goes on without one, and the
slots keep none. -/
lemma QuietStep.unstreamed (h : QuietStep env Frame.NoStream c c') (hc : c.RepeatsNoStream) :
    c'.RepeatsNoStream ∧ ∃ events, c'.trace = c.trace ++ events ∧ streamFramesOf events = [] := by
  have hsame : ∀ {c' : Connection}, c'.kept = c.kept → c'.trace = c.trace → c'.RepeatsNoStream ∧
      ∃ events, c'.trace = c.trace ++ events ∧ streamFramesOf events = [] := by
    intro c' hkept htrace
    refine ⟨⟨?_, ?_⟩, [], ?_, rfl⟩
    · rw [hkept]
      exact hc.slots
    · rw [htrace]
      exact hc.sent
    · rw [htrace, List.append_nil]
  have hslot : ∀ (slot : ℕ) (k : ControlFrame), (k.inUse = true → ∃ frame : Frame, frame.NoStream ∧
      retainedWire frame = some k.wire) → (c.setControl slot k).RepeatsNoStream := by
    intro slot k hk
    refine ⟨?_, hc.sent⟩
    intro s wire hs
    rw [Connection.kept_setControl] at hs
    by_cases h : s = slot
    · subst h
      rw [Function.update_self] at hs
      split at hs
      · rename_i huse
        cases hs
        exact hk huse
      · cases hs
    · rw [Function.update_of_ne h] at hs
      exact hc.slots s wire hs
  cases h with
  | other _ _ hkept htrace => exact hsame hkept htrace
  | report event h =>
    refine ⟨⟨hc.slots, ?_⟩, [event], rfl, ?_⟩
    · intro space n payload hsent
      rcases List.mem_append.mp hsent with hsent | hsent
      · exact hc.sent _ _ _ hsent
      · rw [List.mem_singleton] at hsent
        rw [← hsent] at h
        exact h.elim
    · cases event with
      | sent => exact h.elim
      | declaredLost | lostFrame => rfl
  | keep slot hframe hwire =>
    exact ⟨hslot slot _ fun _ => ⟨_, hframe, hwire⟩, [], (List.append_nil _).symm, rfl⟩
  | @release slot k h =>
    refine ⟨hslot slot _ ?_, [], (List.append_nil _).symm, rfl⟩
    intro huse
    rw [h] at huse
    cases huse
  | protect o h =>
    obtain ⟨hkept, htrace⟩ := sendProtected_trace env o c
    rcases htrace with htrace | ⟨n, htrace⟩
    · exact hsame hkept htrace
    · unfold Connection.Sends at h
      refine ⟨⟨by rw [hkept]; exact hc.slots, ?_⟩, _, htrace, ?_⟩
      · intro space n' payload hsent
        rw [htrace, List.mem_append, List.mem_singleton] at hsent
        rcases hsent with hsent | hsent
        · exact hc.sent _ _ _ hsent
        · obtain ⟨-, -, hframe, hpayload⟩ := ConnectionEvent.sent.inj hsent
          rw [← hframe] at h
          obtain ⟨slot, hslot⟩ := h
          rw [hpayload]
          exact hc.slots slot _ hslot
      · cases hframe : o.frame with
        | none => rfl
        | some frame =>
          rw [hframe] at h
          cases frame with
          | stream f => exact absurd rfl (h f)
          | _ => rfl
  | remove h => exact hsame rfl rfl
  | sample space rtt h => exact hsame rfl rfl
  | resample space rtt h => exact hsame rfl rfl

/-- Changes that put no STREAM frame on the wire. -/
theorem Unstreamed.wire (h : Unstreamed env c c') (hc : c.RepeatsNoStream) :
    c'.RepeatsNoStream ∧ ∃ events, c'.trace = c.trace ++ events ∧ streamFramesOf events = [] := by
  induction h with
  | refl => exact ⟨hc, [], (List.append_nil _).symm, rfl⟩
  | @tail c₁ c₂ _ hstep ih =>
    obtain ⟨hc₁, events, htrace, hnone⟩ := ih
    cases hstep with
    | quiet hstep =>
      obtain ⟨hc₂, events', htrace', hnone'⟩ := hstep.unstreamed hc₁
      refine ⟨hc₂, events ++ events', ?_, ?_⟩
      · rw [htrace', htrace, List.append_assoc]
      · rw [streamFramesOf_append, hnone, hnone']
        rfl
    | beside hsame =>
      refine ⟨⟨?_, ?_⟩, events, hsame.trace.trans htrace, hnone⟩
      · rw [hsame.kept]
        exact hc₁.slots
      · rw [hsame.trace]
        exact hc₁.sent

end Unstreamed

/-! ## Calls that write to no stream -/

section Calls

variable {env : Env} {fuel now streamId : ℕ} {c c' : Connection} {status : Status}

lemma Unstreamed.setStreams (streams : StreamTable) :
    Unstreamed env c { c with streams := streams } :=
  .of_eq rfl rfl rfl rfl

lemma closeWith_unstreamed (c : Connection) (errorCode frameType now : ℕ) :
    Unstreamed env c (closeWith c errorCode frameType now).1 := by
  have htables := closeWith_tables c errorCode frameType now
  exact .of_sameWire ⟨htables.sending, Connection.kept_congr htables.controlFrames, htables.trace⟩

lemma sendControlFrame_unstreamed {space : Space} {frame : Frame} {ackEliciting : Bool}
    (hframe : frame.NoStream)
    (h : sendControlFrame env fuel space frame ackEliciting now c = some (c', status)) :
    Unstreamed env c c' :=
  .of_quiet (sendControlFrame_quietly _ _ hframe _ _ _ _ _ h)

lemma grantMaxData_unstreamed (h : grantMaxData env fuel now c = some c') : Unstreamed env c c' := by
  have hframe : ∀ maximum, (Frame.maxData maximum).NoStream := fun _ _ h => by cases h
  unfold grantMaxData at h
  split at h
  · cases h
    exact .refl
  simp only at h
  split at h
  · cases h
  · rename_i c₁ heq
    cases h
    exact (Unstreamed.of_quiet (sendOneFrame_quietly _ _ (hframe _) _ _ _ _ _ _ heq)).trans
      (.of_eq rfl rfl rfl rfl)
  · rename_i c₁ status _ heq
    cases h
    exact .of_quiet (sendOneFrame_quietly _ _ (hframe _) _ _ _ _ _ _ heq)

lemma grantMaxStreamData_unstreamed (h : grantMaxStreamData env fuel streamId now c = some c') :
    Unstreamed env c c' := by
  have hframe : ∀ maximum, (Frame.maxStreamData streamId maximum).NoStream := fun _ _ h => by cases h
  unfold grantMaxStreamData at h
  split at h
  · cases h
    exact .refl
  split at h
  · cases h
    exact .refl
  simp only at h
  split at h
  · cases h
  · rename_i c₁ heq
    cases h
    exact (Unstreamed.of_quiet (sendOneFrame_quietly _ _ (hframe _) _ _ _ _ _ _ heq)).trans
      (.setStreams _)
  · rename_i c₁ status _ heq
    cases h
    exact .of_quiet (sendOneFrame_quietly _ _ (hframe _) _ _ _ _ _ _ heq)

lemma ensurePeerStream_unstreamed (streamId frameType now : ℕ) (c : Connection) :
    Unstreamed env c (ensurePeerStream streamId frameType now c).1 := by
  rw [ensurePeerStream_eq]
  split
  · exact .refl
  split
  · exact closeWith_unstreamed _ _ _ _
  split
  · exact closeWith_unstreamed _ _ _ _
  split
  · split
    · exact .setStreams _
    · exact .setStreams _
  · exact .setStreams _

lemma visitStream_unstreamed {visit : Visit} {frame : Frame} {stream : Stream} {reply : VisitReply}
    (h : visitStream env fuel visit frame stream c = some (c', reply)) : Unstreamed env c c' := by
  have hset : ∀ s, Unstreamed env c (deliverToHandler { c with streams := c.streams.setStream s }).1 :=
    fun s => .of_eq rfl rfl rfl rfl
  have hclose : ∀ s code frameType, Unstreamed env c
      (closeWith { c with streams := c.streams.setStream s } code frameType visit.now).1 :=
    fun s code frameType => (Unstreamed.setStreams _).trans (closeWith_unstreamed _ _ _ _)
  unfold visitStream at h
  split at h
  · split at h
    · cases h
      exact hset _
    · cases h
      exact hclose _ _ _
  · split at h
    · cases h
      exact hset _
    · cases h
      exact hclose _ _ _
  · cases h
    exact hset _
  · unfold visitStreamData at h
    have harrive : ∀ s flow, Unstreamed env c { c with streams := c.streams.setStream s, flow := flow } :=
      fun s flow => .of_eq rfl rfl rfl rfl
    split at h
    · split at h
      · cases h
      rename_i c₁ hdata
      split at h
      · cases h
      rename_i c₂ hstream
      cases h
      exact (((harrive _ _).trans (grantMaxData_unstreamed hdata)).trans
        (grantMaxStreamData_unstreamed hstream)).trans (.of_eq rfl rfl rfl rfl)
    · cases h
      exact (harrive _ _).trans (closeWith_unstreamed _ _ _ _)
  · split at h
    · cases h
      exact hset _
    · cases h
      exact closeWith_unstreamed _ _ _ _
  · cases h
    exact .of_eq rfl rfl rfl rfl

lemma visitStreamFrame_unstreamed {visit : Visit} {frame : Frame} {reply : VisitReply}
    (h : visitStreamFrame env fuel visit streamId frame c = some (c', reply)) :
    Unstreamed env c c' := by
  have hensure : Unstreamed env c _ :=
    ensurePeerStream_unstreamed streamId (wireTypeOf frame) visit.now c
  unfold visitStreamFrame at h
  split at h
  · rename_i heq
    rw [heq] at hensure
    exact hensure.trans (visitStream_unstreamed h)
  · rename_i heq
    rw [heq] at hensure
    cases h
    exact hensure.trans (.of_eq rfl rfl rfl rfl)
  · rename_i heq
    rw [heq] at hensure
    cases h
    exact hensure

lemma actOnFrame_unstreamed {visit : Visit} {frame : Frame} {reply : VisitReply}
    (hframe : frameStreamId frame = none)
    (h : actOnFrame env fuel visit frame c = some (c', reply)) : Unstreamed env c c' := by
  have hraise : ∀ granted maximum limits frameType, Unstreamed env c (raiseLimit granted maximum
      { c with peerLimits := limits } frameType visit.now c).1 := by
    intro granted maximum limits frameType
    unfold raiseLimit
    split
    · exact closeWith_unstreamed _ _ _ _
    · exact .of_eq rfl rfl rfl rfl
  cases hlimit : raisesLimit frame with
  | true =>
    unfold actOnFrame at h
    split at h
    case h_5 | h_6 | h_7 =>
      cases h
      exact hraise _ _ _ _
    all_goals cases hlimit
  | false =>
    cases hclose : closesFromPeer frame with
    | false =>
      refine .of_quiet (actOnFrame_quiet ⟨?_, ?_⟩ hframe hlimit hclose h)
      · exact fun _ _ h => by cases h
      · exact fun _ _ h => by cases h
    | true =>
      unfold actOnFrame at h
      split at h
      case h_3 | h_4 =>
        cases h
        exact .of_eq rfl rfl rfl rfl
      all_goals cases hclose

/-- A received frame is answered without a STREAM frame. -/
theorem visitFrame_unstreamed {visit : Visit} {frame : Frame} {reply : VisitReply}
    (h : visitFrame env fuel visit frame c = some (c', reply)) : Unstreamed env c c' := by
  have hcount : Unstreamed env c (countFrame frame c) := .of_eq rfl rfl rfl rfl
  unfold visitFrame at h
  simp only at h
  split at h
  · cases h
    exact hcount
  split at h
  · cases h
    exact hcount.trans (closeWith_unstreamed _ _ _ _)
  cases hframe : frameStreamId frame with
  | some streamId =>
    rw [actOnFrame_of_streamId hframe] at h
    exact hcount.trans (visitStreamFrame_unstreamed h)
  | none => exact hcount.trans (actOnFrame_unstreamed hframe h)

/-- A call that ends before anything has changed. -/
lemma unstreamed_of_some_eq {status' : Status} (h : some (c, status') = some (c', status)) :
    Unstreamed env c c' :=
  .of_quiet (quiet_of_some_eq h)

lemma resetWith_unstreamed {frame : Stream → Frame} (hframe : ∀ stream, (frame stream).NoStream)
    (h : resetWith env fuel streamId now frame c = some (c', status)) : Unstreamed env c c' := by
  unfold resetWith at h
  split at h
  · exact unstreamed_of_some_eq h
  split at h
  · exact unstreamed_of_some_eq h
  · exact (Unstreamed.setStreams _).trans (sendControlFrame_unstreamed (hframe _) h)

lemma quicConnectionResetStream_unstreamed {errorCode : ℕ}
    (h : quicConnectionResetStream env fuel streamId errorCode now c = some (c', status)) :
    Unstreamed env c c' := by
  unfold quicConnectionResetStream at h
  split_ifs at h
  · exact unstreamed_of_some_eq h
  · exact unstreamed_of_some_eq h
  · exact unstreamed_of_some_eq h
  · exact resetWith_unstreamed (fun _ _ h => by cases h) h

lemma quicConnectionResetStreamAt_unstreamed {errorCode reliableSize : ℕ}
    (h : quicConnectionResetStreamAt env fuel streamId errorCode reliableSize now c =
      some (c', status)) : Unstreamed env c c' := by
  unfold quicConnectionResetStreamAt at h
  split at h
  · exact unstreamed_of_some_eq h
  split at h
  · exact unstreamed_of_some_eq h
  split at h
  · exact unstreamed_of_some_eq h
  split_ifs at h
  · exact unstreamed_of_some_eq h
  · exact unstreamed_of_some_eq h
  · exact resetWith_unstreamed (fun _ _ h => by cases h) h

lemma quicConnectionStopSending_unstreamed {errorCode : ℕ}
    (h : quicConnectionStopSending env fuel streamId errorCode now c = some (c', status)) :
    Unstreamed env c c' := by
  have hframe : (Frame.stopSending streamId errorCode).NoStream := fun _ h => by cases h
  unfold quicConnectionStopSending at h
  split at h
  · exact unstreamed_of_some_eq h
  split at h
  · exact unstreamed_of_some_eq h
  split_ifs at h
  · exact unstreamed_of_some_eq h
  · exact unstreamed_of_some_eq h
  · exact unstreamed_of_some_eq h
  simp only at h
  split at h
  · cases h
  · rename_i c₁ heq
    cases h
    exact (Unstreamed.setStreams _).trans (sendControlFrame_unstreamed hframe heq)
  · rename_i c₁ status₁ _ heq
    cases h
    exact ((Unstreamed.setStreams _).trans (sendControlFrame_unstreamed hframe heq)).trans
      (.setStreams _)

lemma quicOpenStream_unstreamed (bidirectional : Bool) (c : Connection) :
    Unstreamed env c (quicOpenStream bidirectional c).1 := by
  unfold quicOpenStream quicConnectionOpenStream
  split
  · exact .refl
  simp only
  split
  · exact .setStreams _
  · exact .setStreams _

end Calls

/-! ## A write -/

section Write

variable {env : Env} {fuel now streamId : ℕ} {data : List UInt8} {fin : Bool} {c c' : Connection}
  {status : Status}

/-- The frame of a write to a stream. -/
def writtenFrame (stream : Stream) (streamId : ℕ) (data : List UInt8) (fin : Bool) : StreamFrame :=
  { id := streamId, offset := stream.sendOffset, hasOffset := decide (stream.sendOffset ≠ 0),
    fin := fin, hasLength := true, data := data }

/-- A packet with a STREAM frame that goes to the packet layer. -/
lemma sendProtected_wire {o : Outgoing} {f : StreamFrame} (ho : o.frame = some (.stream f))
    (hc : c.RepeatsNoStream) :
    (sendProtected env o c).1.RepeatsNoStream ∧
      ∃ events, (sendProtected env o c).1.trace = c.trace ++ events ∧
        (streamFramesOf events = [] ∨ streamFramesOf events = [f]) := by
  obtain ⟨hkept, htrace⟩ := sendProtected_trace env o c
  rcases htrace with htrace | ⟨n, htrace⟩
  · refine ⟨⟨?_, ?_⟩, [], ?_, .inl rfl⟩
    · rw [hkept]
      exact hc.slots
    · rw [htrace]
      exact hc.sent
    · rw [htrace, List.append_nil]
  · refine ⟨⟨?_, ?_⟩, _, htrace, .inr ?_⟩
    · rw [hkept]
      exact hc.slots
    · intro space n' payload hsent
      rw [htrace, List.mem_append, List.mem_singleton] at hsent
      rcases hsent with hsent | hsent
      · exact hc.sent _ _ _ hsent
      · rw [ho] at hsent
        cases hsent
    · rw [ho]
      rfl

/-- Sending a packet with a STREAM frame puts at most that one on the wire. -/
lemma sendPacket_wire {o : Outgoing} {f : StreamFrame} (ho : o.frame = some (.stream f))
    (hc : c.RepeatsNoStream) (h : sendPacket env fuel o c = some (c', status)) :
    c'.RepeatsNoStream ∧ ∃ events, c'.trace = c.trace ++ events ∧
      (streamFramesOf events = [] ∨ streamFramesOf events = [f]) := by
  rcases sendPacket_cases Frame.NoStream h with hquiet | ⟨c₁, hquiet, -, hsent⟩
  · obtain ⟨hc', events, htrace, hnone⟩ := (Unstreamed.of_quiet hquiet).wire hc
    exact ⟨hc', events, htrace, .inl hnone⟩
  · obtain ⟨hc₁, events, htrace, hnone⟩ := (Unstreamed.of_quiet hquiet).wire hc
    obtain ⟨hc', events', htrace', hframes⟩ := @sendProtected_wire env _ _ _ ho hc₁
    rw [hsent] at hc' htrace'
    refine ⟨hc', events ++ events', ?_, ?_⟩
    · rw [htrace', htrace, List.append_assoc]
    · rw [streamFramesOf_append, hnone, List.nil_append]
      exact hframes

/-- Two changes after each other, of which the second puts no STREAM frame on the wire. -/
lemma wire_then {c₁ : Connection} {f : StreamFrame}
    (h : c₁.RepeatsNoStream ∧ ∃ events, c₁.trace = c.trace ++ events ∧
      (streamFramesOf events = [] ∨ streamFramesOf events = [f]))
    (hafter : Unstreamed env c₁ c') :
    c'.RepeatsNoStream ∧ ∃ events, c'.trace = c.trace ++ events ∧
      (streamFramesOf events = [] ∨ streamFramesOf events = [f]) := by
  obtain ⟨hc₁, events, htrace, hframes⟩ := h
  obtain ⟨hc', events', htrace', hnone⟩ := hafter.wire hc₁
  refine ⟨hc', events ++ events', ?_, ?_⟩
  · rw [htrace', htrace, List.append_assoc]
  · rw [streamFramesOf_append, hnone, List.append_nil]
    exact hframes

lemma sendOneFrame_wire {space : Space} {f : StreamFrame} {ackEliciting : Bool} {d : Descriptor}
    (hc : c.RepeatsNoStream)
    (h : sendOneFrame env fuel space (.stream f) ackEliciting (some d) now c = some (c', status)) :
    c'.RepeatsNoStream ∧ ∃ events, c'.trace = c.trace ++ events ∧
      (streamFramesOf events = [] ∨ streamFramesOf events = [f]) := by
  have hsame : ∀ {status' : Status}, some (c, status') = some (c', status) →
      c'.RepeatsNoStream ∧ ∃ events, c'.trace = c.trace ++ events ∧
        (streamFramesOf events = [] ∨ streamFramesOf events = [f]) := by
    intro status' heq
    cases heq
    exact ⟨hc, [], (List.append_nil _).symm, .inl rfl⟩
  unfold sendOneFrame at h
  split at h
  · exact hsame h
  split at h
  · exact hsame h
  split at h
  · exact hsame h
  simp only at h
  split at h
  · exact hsame h
  rename_i c₁ tag halloc
  obtain ⟨t, -, heq⟩ := Option.map_eq_some_iff.mp halloc
  obtain ⟨rfl, rfl⟩ := Prod.mk.inj heq
  have hc₁ : ∀ entry, (c.setFrame t entry).RepeatsNoStream := fun _ => ⟨hc.slots, hc.sent⟩
  unfold sendEncodedFrame at h
  split at h
  · cases h
  · rename_i c₂ hsent
    cases h
    have hwire := sendPacket_wire rfl (hc₁ _) hsent
    exact hwire
  · rename_i c₂ status₂ _ hsent
    cases h
    have hwire := sendPacket_wire rfl (hc₁ _) hsent
    refine @wire_then env _ _ _ _ hwire ?_
    split
    · exact .of_quiet (freeFrame_quiet _ _)
    · exact .refl

lemma recordSend_unstreamed (streamId length : ℕ) (fin : Bool) (c : Connection) :
    Unstreamed env c (recordSend streamId length fin c).1 := by
  unfold recordSend
  split
  · exact .refl
  split
  · exact .refl
  simp only
  split
  · split
    · exact .setStreams _
    · exact .setStreams _
  · exact .setStreams _

/-- A write puts its frame on the wire, at the offset of the stream, or nothing. -/
theorem quicSendStream_wire (hc : c.RepeatsNoStream)
    (h : quicSendStream env fuel streamId data fin now c = some (c', status)) :
    c'.RepeatsNoStream ∧ (∃ events, c'.trace = c.trace ++ events) ∧
      (newStreamFrames c c' = [] ∨ ∃ stream, quicStreamTableFind c.streams streamId = some stream ∧
        newStreamFrames c c' = [writtenFrame stream streamId data fin]) := by
  have hsame : newStreamFrames c c = [] := by
    unfold newStreamFrames
    rw [List.drop_length]
    rfl
  unfold quicSendStream at h
  split at h
  · cases h
    exact ⟨hc, ⟨[], (List.append_nil _).symm⟩, .inl hsame⟩
  rename_i stream hfind
  have hsend : ∀ c₁ status₁, quicConnectionSendStream env fuel streamId stream.sendOffset data fin
      now c = some (c₁, status₁) → c₁.RepeatsNoStream ∧ ∃ events, c₁.trace = c.trace ++ events ∧
        (streamFramesOf events = [] ∨
          streamFramesOf events = [writtenFrame stream streamId data fin]) := by
    intro c₁ status₁ hcall
    unfold quicConnectionSendStream at hcall
    split at hcall
    · cases hcall
      exact ⟨hc, [], (List.append_nil _).symm, .inl rfl⟩
    split at hcall
    · cases hcall
      exact ⟨hc, [], (List.append_nil _).symm, .inl rfl⟩
    · exact sendOneFrame_wire hc hcall
  have hend : c'.RepeatsNoStream ∧ ∃ events, c'.trace = c.trace ++ events ∧
      (streamFramesOf events = [] ∨
        streamFramesOf events = [writtenFrame stream streamId data fin]) := by
    split at h
    · cases h
    · rename_i c₁ heq
      have hc' := Option.some.inj h
      have hrecord : Unstreamed env c₁ (recordSend streamId data.length fin c₁).1 :=
        recordSend_unstreamed _ _ _ _
      rw [hc'] at hrecord
      exact wire_then (hsend _ _ heq) hrecord
    · rename_i c₁ status₁ _ heq
      cases h
      exact hsend _ _ heq
  obtain ⟨hc', events, htrace, hframes⟩ := hend
  rw [newStreamFrames_of_trace htrace]
  exact ⟨hc', ⟨events, htrace⟩, hframes.imp_right fun h => ⟨stream, hfind, h⟩⟩

end Write

/-! ## What the peer granted -/

/-- What the peer grants in its transport parameters, and later in the frames that raise a
limit. -/
inductive PeerGrant
  | parameters (limits : PeerLimits)
  | update (key : LimitKey) (value : ℕ)

/-- The limit in the transport parameters of the peer for what this endpoint sends on a
stream. -/
def initialStreamLimit (role : Role) (limits : PeerLimits) (streamId : ℕ) : ℕ :=
  if quicStreamIdFromClient streamId = decide (role = .client) then
    if quicStreamIdIsBidirectional streamId then limits.initialMaxStreamDataBidiRemote
    else limits.initialMaxStreamDataUni
  else if quicStreamIdIsBidirectional streamId then limits.initialMaxStreamDataBidiLocal
  else 0

/-- What a grant says about the connection. -/
def PeerGrant.data : PeerGrant → ℕ
  | .parameters limits => limits.initialMaxData
  | .update .data value => value
  | .update _ _ => 0

/-- What a grant says about a stream. -/
def PeerGrant.streamData (role : Role) (streamId : ℕ) : PeerGrant → ℕ
  | .parameters limits => initialStreamLimit role limits streamId
  | .update (.streamData id) value => if id = streamId then value else 0
  | .update _ _ => 0

/-- The most the peer has granted to the connection. -/
def grantedData (granted : List PeerGrant) : ℕ := (granted.map PeerGrant.data).foldr max 0

/-- The most the peer has granted to a stream. -/
def grantedStreamData (role : Role) (granted : List PeerGrant) (streamId : ℕ) : ℕ :=
  (granted.map (PeerGrant.streamData role streamId)).foldr max 0

/-- A STREAM frame that went out, and the stream as it was before. -/
structure SentStream where
  stream : Option Stream
  frame : StreamFrame

/-- Where a STREAM frame ends. -/
def SentStream.mark (s : SentStream) : ℕ × ℕ := (s.frame.id, s.frame.offset + s.frame.data.length)

/-- The highest offset sent on a stream. -/
def highestSent (sent : List SentStream) (streamId : ℕ) : ℕ :=
  HighWater.mark (sent.map SentStream.mark) streamId

/-- The highest offsets sent on all streams together. -/
def totalSent (sent : List SentStream) : ℕ := HighWater.total (sent.map SentStream.mark)

/-- What went out keeps to what the peer granted. -/
structure KeepsToGrants (role : Role) (granted : List PeerGrant) (sent : List SentStream) : Prop where
  unfinished : ∀ s ∈ sent, ∃ stream, s.stream = some stream ∧ quicStreamSendFinished stream = false
  within : ∀ s ∈ sent,
    s.frame.offset + s.frame.data.length ≤ grantedStreamData role granted s.frame.id
  data : totalSent sent ≤ grantedData granted

/-- A stream may take so many more bytes: its send half is not finished, the bytes end within
what the peer granted to the stream, and what they add to the highest offset of the stream is
within what is left of the connection's limit. -/
structure Stream.Permits (role : Role) (granted : List PeerGrant) (sent : List SentStream)
    (stream : Stream) (length : ℕ) : Prop where
  unfinished : quicStreamSendFinished stream = false
  within : stream.sendOffset + length ≤ grantedStreamData role granted stream.id
  data : totalSent sent + (stream.sendOffset + length - highestSent sent stream.id) ≤
    grantedData granted

/-! ## Runs of the transport -/

/-- What happens to a connection under the driver. -/
inductive TransportAct
  | parameters (limits : PeerLimits)
  | openStream (bidirectional : Bool)
  | sendStream (streamId : ℕ) (data : List UInt8) (fin : Bool)
  | receive (frame : Frame)
  | resetStream (streamId errorCode : ℕ)
  | resetStreamAt (streamId errorCode reliableSize : ℕ)
  | stopSending (streamId errorCode : ℕ)
  | other

/-- One step of the transport: the peer's parameters are taken over, the driver opens, writes or
cancels a stream, a frame is received, or something else happens that writes to no stream. -/
inductive TransportStep (env : Env) (c : Connection) : TransportAct → Connection → Prop
  | parameters (limits : PeerLimits) :
      TransportStep env c (.parameters limits) (takePeerLimits limits c)
  | openStream (bidirectional : Bool) :
      TransportStep env c (.openStream bidirectional) (quicOpenStream bidirectional c).1
  | sendStream {fuel streamId now : ℕ} {data : List UInt8} {fin : Bool} {c' : Connection}
      {status : Status}
      (h : quicSendStream env fuel streamId data fin now c = some (c', status)) :
      TransportStep env c (.sendStream streamId data fin) c'
  | receive {fuel : ℕ} {visit : Visit} {frame : Frame} {c' : Connection} {reply : VisitReply}
      (h : visitFrame env fuel visit frame c = some (c', reply)) :
      TransportStep env c (.receive frame) c'
  | resetStream {fuel streamId errorCode now : ℕ} {c' : Connection} {status : Status}
      (h : quicConnectionResetStream env fuel streamId errorCode now c = some (c', status)) :
      TransportStep env c (.resetStream streamId errorCode) c'
  | resetStreamAt {fuel streamId errorCode reliableSize now : ℕ} {c' : Connection}
      {status : Status}
      (h : quicConnectionResetStreamAt env fuel streamId errorCode reliableSize now c =
        some (c', status)) :
      TransportStep env c (.resetStreamAt streamId errorCode reliableSize) c'
  | stopSending {fuel streamId errorCode now : ℕ} {c' : Connection} {status : Status}
      (h : quicConnectionStopSending env fuel streamId errorCode now c = some (c', status)) :
      TransportStep env c (.stopSending streamId errorCode) c'
  | other {c' : Connection} (h : Unstreamed env c c') : TransportStep env c .other c'

/-- What the peer grants in a step. -/
def TransportAct.grants : TransportAct → List PeerGrant
  | .parameters limits => [.parameters limits]
  | .receive frame => ((limitUpdate frame).map fun r => PeerGrant.update r.1 r.2).toList
  | _ => []

/-- The STREAM frames that went out between two states, each with its stream. -/
def newlySent (c c' : Connection) : List SentStream :=
  (newStreamFrames c c').map fun f => ⟨quicStreamTableFind c.streams f.id, f⟩

/-- The runs of a connection under the driver in which every step meets a condition, with what
the peer granted and the STREAM frames that went out, the last ones first. -/
inductive TransportRun (env : Env) (role : Role)
    (Meets : Role → List PeerGrant → List SentStream → Connection → TransportAct → Prop) :
    List PeerGrant → List SentStream → Connection → Prop
  | start {config : ConnectionConfig} {c : Connection} (hrole : config.role = role)
      (h : quicConnectionInit config = .ok c) : TransportRun env role Meets [] [] c
  | step {granted : List PeerGrant} {sent : List SentStream} {c c' : Connection}
      {act : TransportAct} (h : TransportRun env role Meets granted sent c)
      (hstep : TransportStep env c act c') (hmeets : Meets role granted sent c act) :
      TransportRun env role Meets (act.grants ++ granted) (newlySent c c' ++ sent) c'

/-- A write asks for no more than the stream permits. -/
def WritesWithin (role : Role) (granted : List PeerGrant) (sent : List SentStream) (c : Connection) :
    TransportAct → Prop
  | .sendStream streamId data _ => ∀ stream, quicStreamTableFind c.streams streamId = some stream →
      stream.Permits role granted sent data.length
  | _ => True

/-- The log of a run holds every STREAM frame that went out, and none went out but in a packet of
its own. -/
structure LogsWire (sent : List SentStream) (c : Connection) : Prop where
  frames : (sent.map SentStream.frame).reverse = streamFramesOf c.trace
  repeats : c.RepeatsNoStream

section Run

variable {env : Env} {role : Role} {granted : List PeerGrant} {sent : List SentStream}
  {c c' : Connection} {act : TransportAct}
  {Meets : Role → List PeerGrant → List SentStream → Connection → TransportAct → Prop}

/-- A step puts at most one STREAM frame on the wire, and only a write does. -/
lemma TransportStep.wire (h : TransportStep env c act c') (hc : c.RepeatsNoStream) :
    c'.RepeatsNoStream ∧ (∃ events, c'.trace = c.trace ++ events) ∧
      (newStreamFrames c c' = [] ∨ ∃ streamId data fin stream, act = .sendStream streamId data fin ∧
        quicStreamTableFind c.streams streamId = some stream ∧
        newStreamFrames c c' = [writtenFrame stream streamId data fin]) := by
  have hnone : Unstreamed env c c' → c'.RepeatsNoStream ∧ (∃ events, c'.trace = c.trace ++ events) ∧
      (newStreamFrames c c' = [] ∨ ∃ streamId data fin stream, act = .sendStream streamId data fin ∧
        quicStreamTableFind c.streams streamId = some stream ∧
        newStreamFrames c c' = [writtenFrame stream streamId data fin]) := by
    intro hunstreamed
    obtain ⟨hc', events, htrace, hframes⟩ := hunstreamed.wire hc
    refine ⟨hc', ⟨events, htrace⟩, .inl ?_⟩
    rw [newStreamFrames_of_trace htrace]
    exact hframes
  cases h with
  | parameters limits => exact hnone (.of_eq rfl rfl rfl rfl)
  | openStream bidirectional => exact hnone (quicOpenStream_unstreamed bidirectional c)
  | @sendStream fuel streamId now data fin _ status h =>
    obtain ⟨hc', htrace, hframes⟩ := quicSendStream_wire hc h
    refine ⟨hc', htrace, hframes.imp_right ?_⟩
    rintro ⟨stream, hfind, heq⟩
    exact ⟨streamId, data, fin, stream, rfl, hfind, heq⟩
  | receive h => exact hnone (visitFrame_unstreamed h)
  | resetStream h => exact hnone (quicConnectionResetStream_unstreamed h)
  | resetStreamAt h => exact hnone (quicConnectionResetStreamAt_unstreamed h)
  | stopSending h => exact hnone (quicConnectionStopSending_unstreamed h)
  | other h => exact hnone h

lemma LogsWire.step (h : LogsWire sent c) (hstep : TransportStep env c act c') :
    LogsWire (newlySent c c' ++ sent) c' := by
  obtain ⟨hc', ⟨events, htrace⟩, hframes⟩ := hstep.wire h.repeats
  refine ⟨?_, hc'⟩
  have hnew : (newlySent c c').map SentStream.frame = newStreamFrames c c' := by
    unfold newlySent
    rw [List.map_map]
    exact List.map_id _
  have hreverse : (newStreamFrames c c').reverse = newStreamFrames c c' := by
    rcases hframes with hframes | ⟨_, _, _, _, _, _, hframes⟩
    · rw [hframes]
      rfl
    · rw [hframes]
      rfl
  rw [List.map_append, hnew, List.reverse_append, hreverse, h.frames, htrace, streamFramesOf_append,
    newStreamFrames_of_trace htrace]

lemma logsWire_init {config : ConnectionConfig} (h : quicConnectionInit config = .ok c) :
    LogsWire [] c := by
  unfold quicConnectionInit at h
  split at h
  · cases h
  split at h
  · cases h
  · cases h
    refine ⟨rfl, ⟨?_, ?_⟩⟩
    · intro slot wire hkept
      cases hkept
    · intro space n payload hsent
      cases hsent

/-- In every run the log is what is on the wire. -/
theorem TransportRun.logsWire (h : TransportRun env role Meets granted sent c) : LogsWire sent c := by
  induction h with
  | start _ h => exact logsWire_init h
  | step _ hstep _ ih => exact ih.step hstep

lemma foldr_max_append (l l' : List ℕ) : l'.foldr max 0 ≤ (l ++ l').foldr max 0 := by
  induction l with
  | nil => exact le_rfl
  | cons a l ih => exact ih.trans (le_max_right _ _)

lemma grantedData_le (new granted : List PeerGrant) : grantedData granted ≤ grantedData (new ++ granted) := by
  unfold grantedData
  rw [List.map_append]
  exact foldr_max_append _ _

lemma grantedStreamData_le (role : Role) (new granted : List PeerGrant) (streamId : ℕ) :
    grantedStreamData role granted streamId ≤ grantedStreamData role (new ++ granted) streamId := by
  unfold grantedStreamData
  rw [List.map_append]
  exact foldr_max_append _ _

lemma KeepsToGrants.more (h : KeepsToGrants role granted sent) (new : List PeerGrant) :
    KeepsToGrants role (new ++ granted) sent :=
  ⟨h.unfinished, fun s hs => (h.within s hs).trans (grantedStreamData_le _ _ _ _),
    h.data.trans (grantedData_le _ _)⟩

/-- One more STREAM frame keeps to what the peer granted exactly when its stream permitted it. -/
theorem keepsToGrants_cons_iff {streamId : ℕ} {stream : Stream} {data : List UInt8} {fin : Bool}
    (h : KeepsToGrants role granted sent) (hid : stream.id = streamId) :
    KeepsToGrants role granted (⟨some stream, writtenFrame stream streamId data fin⟩ :: sent) ↔
      stream.Permits role granted sent data.length := by
  subst hid
  have htotal : totalSent (⟨some stream, writtenFrame stream stream.id data fin⟩ :: sent) =
      totalSent sent + (stream.sendOffset + data.length - highestSent sent stream.id) :=
    HighWater.total_cons
  constructor
  · intro hnew
    obtain ⟨stream', heq, hunfinished⟩ := hnew.unfinished _ List.mem_cons_self
    cases heq
    refine ⟨hunfinished, hnew.within _ List.mem_cons_self, ?_⟩
    rw [← htotal]
    exact hnew.data
  · intro hpermits
    refine ⟨?_, ?_, ?_⟩
    · intro s hs
      rcases List.mem_cons.mp hs with rfl | hs
      · exact ⟨stream, rfl, hpermits.unfinished⟩
      · exact h.unfinished s hs
    · intro s hs
      rcases List.mem_cons.mp hs with rfl | hs
      · exact hpermits.within
      · exact h.within s hs
    · rw [htotal]
      exact hpermits.data

/-- What a step puts on the wire, with the stream as it was before. -/
lemma TransportStep.newlySent (h : TransportStep env c act c') (hc : c.RepeatsNoStream) :
    newlySent c c' = [] ∨ ∃ streamId data fin stream, act = .sendStream streamId data fin ∧
      quicStreamTableFind c.streams streamId = some stream ∧
      WebTransport.newlySent c c' = [⟨some stream, writtenFrame stream streamId data fin⟩] := by
  obtain ⟨-, -, hframes⟩ := h.wire hc
  unfold WebTransport.newlySent
  rcases hframes with hframes | ⟨streamId, data, fin, stream, rfl, hfind, hframes⟩
  · left
    rw [hframes]
    rfl
  · refine .inr ⟨streamId, data, fin, stream, rfl, hfind, ?_⟩
    rw [hframes, List.map_cons, List.map_nil]
    show [(⟨quicStreamTableFind c.streams streamId, _⟩ : SentStream)] = _
    rw [hfind]

/-- A step in which a write asks for no more than its stream permits. -/
lemma KeepsToGrants.step (h : KeepsToGrants role granted sent) (hc : c.RepeatsNoStream)
    (hstep : TransportStep env c act c') (hmeets : WritesWithin role granted sent c act) :
    KeepsToGrants role (act.grants ++ granted) (newlySent c c' ++ sent) := by
  apply KeepsToGrants.more
  rcases hstep.newlySent hc with hnone | ⟨streamId, data, fin, stream, rfl, hfind, hnew⟩
  · rw [hnone]
    exact h
  · rw [hnew]
    exact (keepsToGrants_cons_iff h (id_of_find hfind)).mpr (hmeets stream hfind)

/-- As long as every write asks for no more than its stream permits, what is on the wire keeps to
what the peer granted; and a write that reaches the wire keeps it so only if it asks for no
more. -/
theorem writes_keep_to_grants (h : TransportRun env role WritesWithin granted sent c) :
    LogsWire sent c ∧ KeepsToGrants role granted sent ∧
      ∀ streamId data fin c', TransportStep env c (.sendStream streamId data fin) c' →
        newlySent c c' ≠ [] →
          (KeepsToGrants role granted (newlySent c c' ++ sent) ↔
            WritesWithin role granted sent c (.sendStream streamId data fin)) := by
  have hkeeps : KeepsToGrants role granted sent := by
    induction h with
    | start _ h =>
      refine ⟨?_, ?_, Nat.zero_le _⟩
      · intro s hs
        cases hs
      · intro s hs
        cases hs
    | step h hstep hmeets ih => exact ih.step h.logsWire.repeats hstep hmeets
  refine ⟨h.logsWire, hkeeps, ?_⟩
  intro streamId data fin c' hstep hsent
  rcases hstep.newlySent h.logsWire.repeats with hnone | ⟨id, data', fin', stream, hact, hfind, hnew⟩
  · exact absurd hnone hsent
  cases hact
  rw [hnew]
  refine (keepsToGrants_cons_iff hkeeps (id_of_find hfind)).trans ?_
  constructor
  · intro hpermits stream' hfind'
    rw [hfind] at hfind'
    cases hfind'
    exact hpermits
  · intro hwithin
    exact hwithin stream hfind

end Run

/-! ## Writes of four and of five bytes -/

section Writes

/-- A peer that grants one stream with four bytes. -/
def fourBytes : PeerLimits :=
  { initialMaxData := 4, initialMaxStreamDataUni := 4, initialMaxStreamsUni := 1 }

/-- A server whose driver has opened the stream. -/
def openedUnderFour : Connection := (quicOpenStream false (takePeerLimits fourBytes keyedServer)).1

/-- The server after a write. -/
def afterWrite (length : ℕ) : Connection :=
  ((quicSendStream steadyEnv 1 3 (List.replicate length 0) false 0 openedUnderFour).map
    Prod.fst).getD openedUnderFour

lemma afterWrite_run
    {Meets : Role → List PeerGrant → List SentStream → Connection → TransportAct → Prop}
    {length : ℕ}
    (hmeets : ∀ granted c act, (∀ streamId data fin, act ≠ .sendStream streamId data fin) →
      Meets .server granted [] c act)
    (hwrite : Meets .server [.parameters fourBytes] [] openedUnderFour
      (.sendStream 3 (List.replicate length 0) false))
    (hsent : (quicSendStream steadyEnv 1 3 (List.replicate length 0) false 0
      openedUnderFour).isSome = true) :
    TransportRun steadyEnv .server Meets [.parameters fourBytes]
      (newlySent openedUnderFour (afterWrite length)) (afterWrite length) := by
  have hstart : TransportRun steadyEnv .server Meets [] []
      { keyedServer with hasPeer := false, keysOut := fun _ => none } :=
    @TransportRun.start _ _ _ serverConfig _ rfl rfl
  have hkeys : Unstreamed steadyEnv { keyedServer with hasPeer := false, keysOut := fun _ => none }
      keyedServer := .of_eq rfl rfl rfl rfl
  have hkeyed : TransportRun steadyEnv .server Meets [] [] keyedServer :=
    hstart.step (.other hkeys) (hmeets _ _ _ fun _ _ _ h => by cases h)
  have htaken : TransportRun steadyEnv .server Meets [.parameters fourBytes] []
      (takePeerLimits fourBytes keyedServer) :=
    hkeyed.step (.parameters fourBytes) (hmeets _ _ _ fun _ _ _ h => by cases h)
  have hopened : TransportRun steadyEnv .server Meets [.parameters fourBytes] [] openedUnderFour :=
    htaken.step (.openStream false) (hmeets _ _ _ fun _ _ _ h => by cases h)
  obtain ⟨⟨c', status⟩, hcall⟩ := Option.isSome_iff_exists.mp hsent
  have heq : afterWrite length = c' := by
    unfold afterWrite
    rw [hcall]
    rfl
  have hrun := hopened.step (.sendStream hcall) hwrite
  rw [List.append_nil] at hrun
  rw [heq]
  exact hrun

/-- A write of as many bytes as the peer granted. -/
theorem write_within_grants :
    totalSent (newlySent openedUnderFour (afterWrite 4)) = 4 ∧
      KeepsToGrants .server [.parameters fourBytes] (newlySent openedUnderFour (afterWrite 4)) := by
  have hwithin : WritesWithin .server [.parameters fourBytes] [] openedUnderFour
      (.sendStream 3 (List.replicate 4 0) false) := by
    intro stream hfind
    have hfresh : quicStreamTableFind openedUnderFour.streams 3 =
        some { quicStreamInit 3 true false 0 0 with peerMaxStreamData := 4 } := by decide
    rw [hfresh] at hfind
    cases hfind
    exact ⟨by decide, by decide, by decide⟩
  have hmeets : ∀ granted c act, (∀ streamId data fin, act ≠ .sendStream streamId data fin) →
      WritesWithin .server granted [] c act := by
    intro granted c act hact
    cases act with
    | sendStream streamId data fin => exact absurd rfl (hact streamId data fin)
    | _ => trivial
  refine ⟨by decide +kernel, ?_⟩
  exact (writes_keep_to_grants (afterWrite_run hmeets hwithin (by decide +kernel))).2.1

/-- A write of one byte more goes out all the same. -/
theorem write_beyond_grants :
    TransportRun steadyEnv .server (fun _ _ _ _ _ => True) [.parameters fourBytes]
        (newlySent openedUnderFour (afterWrite 5)) (afterWrite 5) ∧
      totalSent (newlySent openedUnderFour (afterWrite 5)) = 5 ∧
      grantedData [.parameters fourBytes] = 4 ∧
      ¬KeepsToGrants .server [.parameters fourBytes]
        (newlySent openedUnderFour (afterWrite 5)) := by
  have htotal : totalSent (newlySent openedUnderFour (afterWrite 5)) = 5 := by decide +kernel
  refine ⟨afterWrite_run (fun _ _ _ _ => trivial) trivial (by decide +kernel), htotal, rfl, ?_⟩
  intro h
  have hdata := h.data
  rw [htotal] at hdata
  exact absurd hdata (by decide)

end Writes

end WebTransport
