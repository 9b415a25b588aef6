import WebTransport.Quic.ConnectionCalls
import WebTransport.Quic.StreamTable

/-!
# Frames that name a stream

What the visitor does with a frame for a stream, taken apart into the lookup of the stream
and what its machine says.
-/

namespace WebTransport

/-- A connection that takes frames of the Application space. -/
structure Visit.Takes (visit : Visit) (c : Connection) : Prop where
  space : visit.space = .application
  isOpen : quicConnectionIsClosed c = false

/-- A frame of the Application space that arrives at the start. -/
def atStart : Visit := { space := .application, now := 0, destinationSequence := 0 }

variable {env : Env} {fuel : ℕ} {visit : Visit} {frame : Frame} {streamId : ℕ} {c : Connection}

/-- Counting a frame leaves the connection as open as it was. -/
@[simp] lemma isClosed_countFrame (frame : Frame) (c : Connection) :
    quicConnectionIsClosed (countFrame frame c) = quicConnectionIsClosed c := rfl

@[simp] lemma countFrame_streams (frame : Frame) (c : Connection) :
    (countFrame frame c).streams = c.streams := rfl

@[simp] lemma countFrame_flow (frame : Frame) (c : Connection) :
    (countFrame frame c).flow = c.flow := rfl

/-- The rules for a frame that names a stream are those of its stream. -/
lemma actOnFrame_of_streamId (hframe : frameStreamId frame = some streamId) :
    actOnFrame env fuel visit frame c = visitStreamFrame env fuel visit streamId frame c := by
  cases frame <;> simp_all [frameStreamId, actOnFrame]

/-- Where frames are taken, each is acted on. -/
lemma visitFrame_of_takes (hvisit : visit.Takes c) :
    visitFrame env fuel visit frame c = actOnFrame env fuel visit frame (countFrame frame c) := by
  unfold visitFrame
  have hignored : frameIgnored frame (countFrame frame c) = false := by
    simp [frameIgnored, hvisit.isOpen]
  have hallowed : frameForbiddenInSpace frame visit.space = false := by
    rw [hvisit.space]
    cases frame <;> simp [frameForbiddenInSpace]
  simp only [hignored, hallowed, Bool.false_eq_true, if_false]

/-- A frame that names a stream goes to the stream it names. -/
lemma visitFrame_of_streamId (hvisit : visit.Takes c) (hframe : frameStreamId frame = some streamId) :
    visitFrame env fuel visit frame c =
      visitStreamFrame env fuel visit streamId frame (countFrame frame c) := by
  rw [visitFrame_of_takes hvisit]
  exact actOnFrame_of_streamId hframe

/-- A frame for a stream in the table goes to its machine. -/
lemma visitFrame_of_find {stream : Stream} (hvisit : visit.Takes c)
    (hframe : frameStreamId frame = some streamId)
    (hfind : quicStreamTableFind c.streams streamId = some stream) :
    visitFrame env fuel visit frame c =
      visitStream env fuel visit frame stream (countFrame frame c) := by
  rw [visitFrame_of_streamId hvisit hframe]
  unfold visitStreamFrame ensurePeerStream
  rw [countFrame_streams, hfind]

/-- The connection limit is left alone while there is room under it. -/
lemma grantMaxData_of_room {now : ℕ} (h : quicFlowShouldExtend c.flow = false) :
    grantMaxData env fuel now c = some c := by
  simp [grantMaxData, h]

/-- The limit of a stream is left alone while there is room under it. -/
lemma grantMaxStreamData_of_room {now : ℕ} {stream : Stream}
    (hfind : quicStreamTableFind c.streams streamId = some stream)
    (h : quicStreamShouldExtend stream = false) :
    grantMaxStreamData env fuel streamId now c = some c := by
  simp [grantMaxStreamData, hfind, h]

/-! ## What a frame does to the table -/

/-- Whether a stream is one the peer opens. -/
def peerOpens (c : Connection) (streamId : ℕ) : Bool :=
  quicStreamIdFromClient streamId ≠ decide (c.config.role = .client)

/-- How many streams of a number's class the peer may open. -/
def grantedFor (c : Connection) (streamId : ℕ) : ℕ :=
  c.localMaxStreams
    (if quicStreamIdIsBidirectional streamId then .bidirectional else .unidirectional)

/-- A frame that names a stream opens it: the stream is not in the table, it is the peer's to
open and within the limit, and the table has room. -/
structure Opens (visit : Visit) (frame : Frame) (c : Connection) (streamId : ℕ) : Prop where
  takes : visit.Takes c
  names : frameStreamId frame = some streamId
  absent : streamId ∉ c.streams.ids
  peer : peerOpens c streamId = true
  index : quicStreamIdIndex streamId < grantedFor c streamId
  count : c.streams.opened false (quicStreamIdIsBidirectional streamId) < grantedFor c streamId
  room : c.streams.HasRoom

/-- What a received frame leaves of the numbers in the table: they stay as they are, or the
stream the frame names was opened. -/
inductive TableEnd (visit : Visit) (frame : Frame) (c c' : Connection) : Prop
  | same (h : c.streams.SameIds c'.streams)
  | opened {streamId slot : ℕ} (hopens : Opens visit frame c streamId)
      (hslot : slot < quicStreamTableMax) (hfree : (sweptTable c.streams).slots slot = none)
      (h : ((sweptTable c.streams).openedAt slot streamId false).SameIds c'.streams)

variable {c' : Connection} {reply : VisitReply}

lemma Quiet.streams {F : Frame → Prop} (h : Quiet env F c c') : c'.streams = c.streams :=
  congrArg Outside.streams h.outside

lemma closeWith_streams (c : Connection) (errorCode frameType now : ℕ) :
    (closeWith c errorCode frameType now).1.streams = c.streams := by
  unfold closeWith quicConnectionClose
  split
  · rfl
  · rfl

/-- Raising the connection limit changes the connection's account alone, outside of sending. -/
lemma grantMaxData_outside {now : ℕ} (h : grantMaxData env fuel now c = some c') :
    ∃ flow maximum, c'.outside = { c.outside with flow := flow, localMaxData := maximum } := by
  unfold grantMaxData at h
  split at h
  · cases h
    exact ⟨_, _, rfl⟩
  simp only at h
  split at h
  · cases h
  · rename_i c₁ heq
    cases h
    rw [← (sendOneFrame_quietly (F := fun _ => True) _ _ trivial _ _ _ _ _ _ heq).outside]
    exact ⟨_, _, rfl⟩
  · rename_i c₁ status _ heq
    cases h
    rw [(sendOneFrame_quietly (F := fun _ => True) _ _ trivial _ _ _ _ _ _ heq).outside]
    exact ⟨_, _, rfl⟩

/-- Raising the limit of a stream changes the streams alone, outside of sending, and no number
among them. -/
lemma grantMaxStreamData_outside {now : ℕ}
    (h : grantMaxStreamData env fuel streamId now c = some c') :
    ∃ streams, c'.outside = { c.outside with streams := streams } ∧ c.streams.SameIds streams := by
  unfold grantMaxStreamData at h
  split at h
  · cases h
    exact ⟨_, rfl, .refl _⟩
  split at h
  · cases h
    exact ⟨_, rfl, .refl _⟩
  simp only at h
  split at h
  · cases h
  · rename_i c₁ heq
    cases h
    have hquiet := sendOneFrame_quietly (F := fun _ => True) _ _ trivial _ _ _ _ _ _ heq
    rw [← hquiet.outside, ← hquiet.streams]
    refine ⟨_, rfl, ?_⟩
    simp only
    split
    · exact .refl _
    · exact .setStream _ _
  · rename_i c₁ status _ heq
    cases h
    rw [(sendOneFrame_quietly (F := fun _ => True) _ _ trivial _ _ _ _ _ _ heq).outside]
    exact ⟨_, rfl, .refl _⟩

lemma visitStream_sameIds {stream : Stream}
    (h : visitStream env fuel visit frame stream c = some (c', reply)) :
    c.streams.SameIds c'.streams := by
  have hset := StreamTable.SameIds.setStream c.streams
  unfold visitStream at h
  split at h
  · split at h
    · cases h
      exact hset _
    · cases h
      rw [closeWith_streams]
      exact hset _
  · split at h
    · cases h
      exact hset _
    · cases h
      rw [closeWith_streams]
      exact hset _
  · cases h
    exact hset _
  · unfold visitStreamData at h
    split at h
    · split at h
      · cases h
      rename_i c₁ hdata
      split at h
      · cases h
      rename_i c₂ hstream
      cases h
      obtain ⟨flow, maximum, hout⟩ := grantMaxData_outside hdata
      obtain ⟨streams, hout', hsame⟩ := grantMaxStreamData_outside hstream
      have hstreams : c₁.streams = _ := congrArg Outside.streams hout
      have hstreams' : c₂.streams = streams := congrArg Outside.streams hout'
      rw [hstreams] at hsame
      rw [← hstreams'] at hsame
      exact (hset _).trans hsame
    · cases h
      rw [closeWith_streams]
      exact hset _
  · split at h
    · cases h
      exact hset _
    · cases h
      rw [closeWith_streams]
      exact .refl _
  · cases h
    exact .refl _

/-- Looking up the stream a frame names, with its parts named. -/
lemma ensurePeerStream_eq (streamId frameType now : ℕ) (c : Connection) :
    ensurePeerStream streamId frameType now c =
      match quicStreamTableFind c.streams streamId with
      | some stream => (c, .ok, some stream)
      | none =>
        if quicStreamIdFromClient streamId = decide (c.config.role = .client) then
          let r := closeWith c quicStreamStateError frameType now
          (r.1, r.2, none)
        else if grantedFor c streamId ≤ quicStreamIdIndex streamId then
          let r := closeWith c quicStreamLimitError frameType now
          (r.1, r.2, none)
        else
          match quicStreamTableOpen c.streams streamId false (grantedFor c streamId) with
          | (streams, .ok) =>
            match quicStreamTableFind streams streamId with
            | none => ({ c with streams := streams }, .ok, none)
            | some stream =>
              let stream := { stream with
                maxStreamData := c.config.localMaxStreamData
                window := c.config.localMaxStreamData }
              ({ c with streams := streams.setStream stream }, .ok, some stream)
          | (streams, status) => ({ c with streams := streams }, status, none) := rfl

/-- Looking up the stream a frame names leaves the numbers as they are, or opens it. -/
lemma ensurePeerStream_tableEnd (hvisit : visit.Takes c)
    (hframe : frameStreamId frame = some streamId) (frameType now : ℕ) :
    TableEnd visit frame c (ensurePeerStream streamId frameType now c).1 := by
  rw [ensurePeerStream_eq]
  split
  · exact .same (.refl _)
  split
  · refine .same ?_
    rw [closeWith_streams]
    exact .refl _
  rename_i hpeer
  split
  · refine .same ?_
    rw [closeWith_streams]
    exact .refl _
  rename_i hindex
  have hend := quicStreamTableOpen_end c.streams streamId false (grantedFor c streamId)
  generalize quicStreamTableOpen c.streams streamId false (grantedFor c streamId) = r at hend ⊢
  cases hend with
  | refused h hsame _ =>
    split
    · rename_i heq
      cases heq
      exact absurd rfl h
    · rename_i heq
      cases heq
      exact .same hsame
  | @opened slot hnew hlimit hslot hfree =>
    have hopens : Opens visit frame c streamId :=
      ⟨hvisit, hframe, hnew, by simpa [peerOpens] using hpeer, not_le.mp hindex, hlimit,
        StreamTable.hasRoom_of_swept hslot hfree⟩
    simp only
    split
    · exact .opened hopens hslot hfree (.refl _)
    · exact .opened hopens hslot hfree (.setStream _ _)

/-- The end of a visit, when the numbers change no further. -/
lemma TableEnd.then_same {c₁ : Connection} (h : TableEnd visit frame c c₁)
    (hsame : c₁.streams.SameIds c'.streams) : TableEnd visit frame c c' := by
  cases h with
  | same h => exact .same (h.trans hsame)
  | opened hopens hslot hfree h => exact .opened hopens hslot hfree (h.trans hsame)

/-- A frame that names a stream leaves the numbers as they are, or opens the stream. -/
lemma visitStreamFrame_tableEnd (hvisit : visit.Takes c)
    (hframe : frameStreamId frame = some streamId)
    (h : visitStreamFrame env fuel visit streamId frame c = some (c', reply)) :
    TableEnd visit frame c c' := by
  have hensure := ensurePeerStream_tableEnd hvisit hframe (wireTypeOf frame) visit.now
  unfold visitStreamFrame at h
  split at h
  · rename_i c₁ stream heq
    rw [heq] at hensure
    exact hensure.then_same (visitStream_sameIds h)
  · rename_i c₁ heq
    rw [heq] at hensure
    cases h
    exact hensure.then_same (.refl _)
  · rename_i c₁ status _ _ _ heq
    rw [heq] at hensure
    cases h
    exact hensure

/-- What no frame that names a stream touches: the role, the limits of the peer and the streams
this endpoint grants. -/
def Outside.settings (o : Outside) : Outside :=
  { o with localMaxData := 0, streams := {}, flow := quicFlowInit 0 0, fault := none }

lemma closeWith_settings (c : Connection) (errorCode frameType now : ℕ) :
    (closeWith c errorCode frameType now).1.outside.settings = c.outside.settings := by
  unfold closeWith quicConnectionClose
  split
  · rfl
  · rfl

/-- The machine of a stream leaves the settings alone. -/
lemma visitStream_settings {stream : Stream}
    (h : visitStream env fuel visit frame stream c = some (c', reply)) :
    c'.outside.settings = c.outside.settings := by
  unfold visitStream at h
  split at h
  · split at h
    · cases h
      rfl
    · cases h
      exact closeWith_settings _ _ _ _
  · split at h
    · cases h
      rfl
    · cases h
      exact closeWith_settings _ _ _ _
  · cases h
    rfl
  · unfold visitStreamData at h
    split at h
    · split at h
      · cases h
      rename_i c₁ hdata
      split at h
      · cases h
      rename_i c₂ hstream
      cases h
      obtain ⟨flow, maximum, hout⟩ := grantMaxData_outside hdata
      obtain ⟨streams, hout', -⟩ := grantMaxStreamData_outside hstream
      have hsettings : c₁.outside.settings = c.outside.settings := by
        rw [hout]
        rfl
      have hsettings' : c₂.outside.settings = c₁.outside.settings := by
        rw [hout']
        rfl
      exact hsettings'.trans hsettings
    · cases h
      exact closeWith_settings _ _ _ _
  · split at h
    · cases h
      rfl
    · cases h
      exact closeWith_settings _ _ _ _
  · cases h
    rfl

lemma ensurePeerStream_settings (streamId frameType now : ℕ) (c : Connection) :
    (ensurePeerStream streamId frameType now c).1.outside.settings = c.outside.settings := by
  rw [ensurePeerStream_eq]
  split
  · rfl
  split
  · exact closeWith_settings _ _ _ _
  split
  · exact closeWith_settings _ _ _ _
  split
  · split
    · rfl
    · rfl
  · rfl

/-- A frame that names a stream leaves the settings alone. -/
lemma visitStreamFrame_settings
    (h : visitStreamFrame env fuel visit streamId frame c = some (c', reply)) :
    c'.outside.settings = c.outside.settings := by
  have hensure := ensurePeerStream_settings streamId (wireTypeOf frame) visit.now c
  unfold visitStreamFrame at h
  split at h
  · rename_i c₁ stream heq
    rw [heq] at hensure
    exact (visitStream_settings h).trans hensure
  · rename_i c₁ heq
    rw [heq] at hensure
    cases h
    exact hensure
  · rename_i c₁ status _ _ _ heq
    rw [heq] at hensure
    cases h
    exact hensure

/-- The limits of the peer that a frame may raise. -/
def raisesLimit : Frame → Bool
  | .maxData _ | .maxStreams .. => true
  | _ => false

/-- A call whose status ends the visit, when it is quiet. -/
lemma Quietly.finished {F : Frame → Prop} {f : Connection → Option (Connection × Status)}
    (hf : Quietly env F f) (h : (f c).map finished = some (c', reply)) : Quiet env F c c' := by
  obtain ⟨⟨c₁, status⟩, hcall, heq⟩ := Option.map_eq_some_iff.mp h
  obtain ⟨rfl, -⟩ := Prod.mk.inj heq
  exact hf _ _ _ hcall

/-- Whether a frame is one of the two in which the peer closes the connection. -/
def closesFromPeer : Frame → Bool
  | .connectionCloseTransport _ | .connectionCloseApplication _ => true
  | _ => false

/-- The frames that a received frame is answered with. -/
structure Answers (F : Frame → Prop) : Prop where
  retire : ∀ sequence, F (.retireConnectionId sequence)
  response : ∀ data, F (.pathResponse data)

/-- A frame that names no stream, raises no limit and closes nothing is quiet. -/
lemma actOnFrame_quiet {F : Frame → Prop} (hF : Answers F) (hframe : frameStreamId frame = none)
    (hlimit : raisesLimit frame = false) (hclose : closesFromPeer frame = false)
    (h : actOnFrame env fuel visit frame c = some (c', reply)) : Quiet env F c c' := by
  unfold actOnFrame at h
  split at h
  case h_1 =>
    cases h
    exact .refl
  case h_2 => exact (handleAck_quietly _ _ _ _).finished h
  case h_3 | h_4 => cases hclose
  case h_5 | h_6 | h_7 => cases hlimit
  case h_8 =>
    split at h
    · cases h
      exact closeWith_quiet _ (by decide) _ _
    · cases h
      exact .of_eq rfl rfl rfl rfl rfl
  case h_9 | h_10 | h_11 | h_12 | h_13 | h_14 => cases hframe
  case h_15 => exact (handleNewConnectionId_quietly hF.retire _ _ _).finished h
  case h_16 =>
    simp only at h
    split at h
    · cases h
      exact (closeWith_quiet _ (by decide) _ _).after_other rfl rfl rfl rfl rfl
    split at h
    · cases h
      exact .of_eq rfl rfl rfl rfl rfl
    · cases h
      exact .of_eq rfl rfl rfl rfl rfl
  case h_17 =>
    split at h
    · cases h
    · rename_i c₁ heq
      cases h
      exact (sendControlFrame_quietly _ _ (hF.response _) _ _ _ _ _ heq).then_other rfl rfl rfl rfl rfl
    · rename_i c₁ status _ heq
      cases h
      exact (sendControlFrame_quietly _ _ (hF.response _) _ _ _ _ _ heq).then_other rfl rfl rfl rfl rfl
  case h_18 =>
    cases h
    split
    · exact .of_eq rfl rfl rfl rfl rfl
    · exact .of_eq rfl rfl rfl rfl rfl
  all_goals
    cases h
    exact .of_eq rfl rfl rfl rfl rfl

/-- The limits of the peer with the one a frame carries. -/
def raisedLimits (frame : Frame) (limits : PeerLimits) : PeerLimits :=
  match frame with
  | .maxData maximum => { limits with initialMaxData := maximum }
  | .maxStreams .bidirectional maximum => { limits with initialMaxStreamsBidi := maximum }
  | .maxStreams .unidirectional maximum => { limits with initialMaxStreamsUni := maximum }
  | _ => limits

/-- A frame that raises a limit of the peer leaves the rest outside of sending alone. -/
lemma actOnFrame_of_limit (hlimit : raisesLimit frame = true)
    (h : actOnFrame env fuel visit frame c = some (c', reply)) :
    ∃ limits, c'.outside = { c.outside with peerLimits := limits } ∧
      (limits = c.peerLimits ∨ limits = raisedLimits frame c.peerLimits) := by
  have hraise : ∀ granted maximum limits frameType now, limits = raisedLimits frame c.peerLimits →
      ∃ limits', (raiseLimit granted maximum { c with peerLimits := limits } frameType now c).1.outside =
        { c.outside with peerLimits := limits' } ∧
          (limits' = c.peerLimits ∨ limits' = raisedLimits frame c.peerLimits) := by
    intro granted maximum limits frameType now hlimits
    unfold raiseLimit
    split
    · exact ⟨c.peerLimits, closeWith_outside _ (by decide) _ _, .inl rfl⟩
    · exact ⟨limits, rfl, .inr hlimits⟩
  unfold actOnFrame at h
  split at h
  case h_5 | h_6 | h_7 =>
    cases h
    exact hraise _ _ _ _ _ rfl
  all_goals cases hlimit

/-- What a frame that names no stream leaves outside of sending: it may raise a limit of the
peer, or close the connection. -/
lemma actOnFrame_outside_limits (hframe : frameStreamId frame = none)
    (h : actOnFrame env fuel visit frame c = some (c', reply)) :
    ∃ limits fault, c'.outside = { c.outside with peerLimits := limits, fault := fault } ∧
      (limits = c.peerLimits ∨ limits = raisedLimits frame c.peerLimits) := by
  cases hlimit : raisesLimit frame with
  | true =>
    obtain ⟨limits, hout, hraised⟩ := actOnFrame_of_limit hlimit h
    exact ⟨limits, c.close.fault, hout, hraised⟩
  | false =>
    cases hclose : closesFromPeer frame with
    | false =>
      have hquiet : Quiet env (fun _ => True) c c' :=
        actOnFrame_quiet ⟨fun _ => trivial, fun _ => trivial⟩ hframe hlimit hclose h
      exact ⟨c.peerLimits, c.close.fault, hquiet.outside, .inl rfl⟩
    | true =>
      unfold actOnFrame at h
      split at h
      case h_3 | h_4 =>
        cases h
        exact ⟨c.peerLimits, _, rfl, .inl rfl⟩
      all_goals cases hclose

/-- A frame that names no stream leaves the streams alone. -/
lemma actOnFrame_streams (hframe : frameStreamId frame = none)
    (h : actOnFrame env fuel visit frame c = some (c', reply)) : c'.streams = c.streams := by
  obtain ⟨limits, fault, hout, -⟩ := actOnFrame_outside_limits hframe h
  exact congrArg Outside.streams hout

/-- A received frame leaves the settings alone, up to the limits of the peer that it raises. -/
lemma visitFrame_settings (h : visitFrame env fuel visit frame c = some (c', reply)) :
    ∃ limits, c'.outside.settings = { c.outside.settings with peerLimits := limits } ∧
      (limits = c.peerLimits ∨ limits = raisedLimits frame c.peerLimits) := by
  have hsame : c'.outside.settings = c.outside.settings →
      ∃ limits, c'.outside.settings = { c.outside.settings with peerLimits := limits } ∧
        (limits = c.peerLimits ∨ limits = raisedLimits frame c.peerLimits) :=
    fun h => ⟨c.peerLimits, h, .inl rfl⟩
  unfold visitFrame at h
  simp only at h
  split at h
  · cases h
    exact hsame rfl
  split at h
  · cases h
    exact hsame (closeWith_settings _ _ _ _)
  cases hframe : frameStreamId frame with
  | some streamId =>
    rw [actOnFrame_of_streamId hframe] at h
    have hsettings := visitStreamFrame_settings h
    exact hsame hsettings
  | none =>
    obtain ⟨limits, fault, hout, hraised⟩ := actOnFrame_outside_limits hframe h
    refine ⟨limits, ?_, hraised⟩
    rw [hout]
    rfl

lemma visitFrame_role (h : visitFrame env fuel visit frame c = some (c', reply)) :
    c'.config.role = c.config.role := by
  obtain ⟨limits, hsettings, -⟩ := visitFrame_settings h
  exact congrArg Outside.role hsettings

/-- Counting a frame changes nothing that decides what the frame opens. -/
lemma Opens.of_countFrame (h : Opens visit frame (countFrame frame c) streamId) :
    Opens visit frame c streamId :=
  ⟨⟨h.takes.space, h.takes.isOpen⟩, h.names, h.absent, h.peer, h.index, h.count, h.room⟩

lemma Opens.countFrame (h : Opens visit frame c streamId) :
    Opens visit frame (countFrame frame c) streamId :=
  ⟨⟨h.takes.space, h.takes.isOpen⟩, h.names, h.absent, h.peer, h.index, h.count, h.room⟩

/-- A frame that names a stream is only acted on in an open connection and in the Application
space. -/
lemma takes_of_acted (hframe : frameStreamId frame = some streamId)
    (hignored : frameIgnored frame c = false)
    (hallowed : frameForbiddenInSpace frame visit.space = false) : visit.Takes c := by
  have htype : quicCloseAcceptsFrameType (wireTypeOf frame) = false := by
    cases frame <;> first | rfl | cases hframe
  refine ⟨?_, ?_⟩
  · cases frame <;> simp_all [frameForbiddenInSpace, frameStreamId]
  · simpa [frameIgnored, htype] using hignored

/-- A received frame leaves the numbers in the table as they are, or opens the stream it
names. -/
theorem visitFrame_tableEnd (h : visitFrame env fuel visit frame c = some (c', reply)) :
    TableEnd visit frame c c' := by
  have hcount : c.streams.SameIds (countFrame frame c).streams := .refl _
  unfold visitFrame at h
  simp only at h
  split at h
  · cases h
    exact .same hcount
  rename_i hignored
  split at h
  · cases h
    refine .same ?_
    rw [closeWith_streams]
    exact hcount
  rename_i hallowed
  cases hframe : frameStreamId frame with
  | none =>
    refine .same ?_
    rw [actOnFrame_streams hframe h]
    exact hcount
  | some streamId =>
    have hvisit : visit.Takes (countFrame frame c) :=
      takes_of_acted hframe (by simpa using hignored) (by simpa using hallowed)
    rw [actOnFrame_of_streamId hframe] at h
    cases visitStreamFrame_tableEnd hvisit hframe h with
    | same h => exact .same h
    | opened hopens hslot hfree h => exact .opened hopens.of_countFrame hslot hfree h

lemma StreamTable.mem_ids_openedAt {slot : ℕ} {table : StreamTable}
    (hslot : slot < quicStreamTableMax) (hfree : table.slots slot = none) (ours : Bool) {id : ℕ} :
    id ∈ (table.openedAt slot streamId ours).ids ↔ id = streamId ∨ id ∈ table.ids := by
  rw [(StreamTable.ids_openedAt hslot hfree streamId ours).mem_iff, List.mem_cons]

/-- The table puts a stream that the frame opens into a free slot. -/
lemma Opens.tableOpen (hopens : Opens visit frame c streamId) :
    ∃ slot < quicStreamTableMax, (sweptTable c.streams).slots slot = none ∧
      quicStreamTableOpen c.streams streamId false (grantedFor c streamId) =
        ((sweptTable c.streams).openedAt slot streamId false, .ok) := by
  have hend := quicStreamTableOpen_end c.streams streamId false (grantedFor c streamId)
  generalize quicStreamTableOpen c.streams streamId false (grantedFor c streamId) = r at hend ⊢
  cases hend with
  | refused h hsame hwhy =>
    rcases hwhy with hwhy | hwhy | hwhy
    · exact absurd hwhy hopens.absent
    · exact absurd hopens.count (not_lt.mpr hwhy)
    · exact absurd hopens.room hwhy
  | @opened slot hnew hlimit hslot hfree => exact ⟨slot, hslot, hfree, rfl⟩

/-- Looking up a stream that the frame opens opens it and finds it there. -/
lemma Opens.ensurePeerStream_eq (hopens : Opens visit frame c streamId) (frameType now : ℕ) :
    ensurePeerStream streamId frameType now c =
      match quicStreamTableOpen c.streams streamId false (grantedFor c streamId) with
      | (streams, .ok) =>
        match quicStreamTableFind streams streamId with
        | none => ({ c with streams := streams }, .ok, none)
        | some stream =>
          let stream := { stream with
            maxStreamData := c.config.localMaxStreamData
            window := c.config.localMaxStreamData }
          ({ c with streams := streams.setStream stream }, .ok, some stream)
      | (streams, status) => ({ c with streams := streams }, status, none) := by
  have hfind : quicStreamTableFind c.streams streamId = none := by
    rw [quicStreamTableFind_eq_none, ← Option.not_isSome_iff_eq_none, ← StreamTable.mem_ids]
    exact hopens.absent
  have hpeer : ¬quicStreamIdFromClient streamId = decide (c.config.role = .client) := by
    simpa [peerOpens] using hopens.peer
  rw [WebTransport.ensurePeerStream_eq, hfind]
  simp only
  rw [if_neg hpeer, if_neg (not_le.mpr hopens.index)]

/-- Looking up a stream that the frame opens puts its number into the table. -/
lemma ensurePeerStream_opens (hopens : Opens visit frame c streamId) (frameType now : ℕ) :
    streamId ∈ (ensurePeerStream streamId frameType now c).1.streams.ids := by
  obtain ⟨slot, hslot, hfree, hopen⟩ := hopens.tableOpen
  have hmem : streamId ∈ ((sweptTable c.streams).openedAt slot streamId false).ids :=
    (StreamTable.mem_ids_openedAt hslot hfree false).mpr (.inl rfl)
  rw [hopens.ensurePeerStream_eq, hopen]
  simp only
  split
  · exact hmem
  · rw [(StreamTable.SameIds.setStream _ _).ids]
    exact hmem

/-- A frame that opens a stream puts its number into the table. -/
theorem visitFrame_opens (hopens : Opens visit frame c streamId)
    (h : visitFrame env fuel visit frame c = some (c', reply)) : streamId ∈ c'.streams.ids := by
  have hensure := ensurePeerStream_opens (hopens.countFrame) (wireTypeOf frame) visit.now
  rw [visitFrame_of_streamId hopens.takes hopens.names] at h
  unfold visitStreamFrame at h
  split at h
  · rename_i c₁ stream heq
    rw [heq] at hensure
    rw [(visitStream_sameIds h).ids]
    exact hensure
  · rename_i c₁ heq
    rw [heq] at hensure
    cases h
    exact hensure
  · rename_i c₁ status _ _ _ heq
    rw [heq] at hensure
    cases h
    exact hensure

end WebTransport
