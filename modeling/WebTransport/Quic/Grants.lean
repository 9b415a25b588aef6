import WebTransport.Quic.Advertised

/-!
# Grants that may be lost

Once the received bytes reach a limit, the connection grants more in a MAX_DATA or a
MAX_STREAM_DATA. The frame goes out once, in a packet without a descriptor: no slot keeps it,
and its loss is answered with nothing. A peer that is at its limit sends nothing that would
bring another grant.
-/

namespace WebTransport

/-! ## A STREAM frame on its way to the account -/

/-- What the account of a STREAM frame comes to. -/
def arrivalOf (c : Connection) (f : StreamFrame) : Stream × Flow × Status × DataArrival :=
  quicStreamOnData (accountedStream c f.id) c.flow f.offset f.data.length f.fin

/-- A STREAM frame gets to the account of a stream: the connection takes frames, and knows the
stream or lets the peer open it. -/
structure GetsTo (visit : Visit) (c : Connection) (f : StreamFrame) : Prop where
  takes : visit.Takes c
  found : (quicStreamTableFind c.streams f.id).isSome = true ∨ Opens visit (.stream f) c f.id

/-- What becomes of a STREAM frame: it is passed over, or the account of its stream is asked. -/
inductive StreamVisit (env : Env) (fuel : ℕ) (visit : Visit) (f : StreamFrame)
    (c c' : Connection) (reply : VisitReply) : Prop
  | passed (hnot : ¬GetsTo visit c f)
      (hout : ∃ streams fault, c'.outside = { c.outside with streams := streams, fault := fault })
      (hsame : (accountedStream c' f.id).maxStreamData = (accountedStream c f.id).maxStreamData)
  | accounted {c₁ : Connection} (hgets : GetsTo visit c f)
      (hout : c₁.outside = { c.outside with streams := c₁.streams })
      (hfind : quicStreamTableFind c₁.streams f.id = some (accountedStream c f.id))
      (hsend : c.SameSending c₁) (hkept : c₁.kept = c.kept) (htrace : c₁.trace = c.trace)
      (h : visitStreamData env fuel visit f (accountedStream c f.id) c₁ = some (c', reply))

section Visit

variable {env : Env} {fuel : ℕ} {visit : Visit} {f : StreamFrame} {c c' : Connection}
  {reply : VisitReply}

/-- The account of a stream that neither the table nor a change of it concerns. -/
lemma accountedStream_congr (hfind : quicStreamTableFind c'.streams f.id =
      quicStreamTableFind c.streams f.id)
    (hlimit : c'.config.localMaxStreamData = c.config.localMaxStreamData) :
    accountedStream c' f.id = accountedStream c f.id := by
  unfold accountedStream freshPeerStream
  rw [hfind, hlimit]

lemma closeWith_passed (c : Connection) (errorCode frameType now : ℕ) :
    ∃ fault, (closeWith c errorCode frameType now).1.outside = { c.outside with fault := fault } := by
  unfold closeWith quicConnectionClose
  split
  · exact ⟨_, rfl⟩
  · exact ⟨_, rfl⟩

/-- Looking up a stream changes the streams at most, or closes the connection. -/
lemma ensurePeerStream_outside (streamId frameType now : ℕ) (c : Connection) :
    ∃ streams fault, (ensurePeerStream streamId frameType now c).1.outside =
      { c.outside with streams := streams, fault := fault } := by
  rw [ensurePeerStream_eq]
  split
  · exact ⟨_, _, rfl⟩
  split
  · exact ⟨_, closeWith_passed _ _ _ _⟩
  split
  · exact ⟨_, closeWith_passed _ _ _ _⟩
  split
  · split
    · exact ⟨_, _, rfl⟩
    · exact ⟨_, _, rfl⟩
  · exact ⟨_, _, rfl⟩

/-- A frame is passed over when it changes no account. -/
lemma StreamVisit.of_outside (hnot : ¬GetsTo visit c f)
    (hout : ∃ streams fault, c'.outside = { c.outside with streams := streams, fault := fault })
    (hfind : quicStreamTableFind c'.streams f.id = quicStreamTableFind c.streams f.id) :
    StreamVisit env fuel visit f c c' reply := by
  obtain ⟨streams, fault, heq⟩ := hout
  have hlimit : c'.config.localMaxStreamData = c.config.localMaxStreamData :=
    congrArg Outside.localMaxStreamData heq
  exact .passed hnot ⟨streams, fault, heq⟩ (by rw [accountedStream_congr hfind hlimit])

/-- A STREAM frame whose stream is known or opened gets to its account. -/
lemma visitStreamFrame_found (ht : c.streams.ids.Nodup) (hgets : GetsTo visit c f)
    (h : visitStreamFrame env fuel visit f.id (.stream f) (countFrame (.stream f) c) =
      some (c', reply)) : StreamVisit env fuel visit f c c' reply := by
  obtain ⟨c₁, hensure, hout, hfind, hsend, hkept, htrace⟩ : ∃ c₁ : Connection,
      ensurePeerStream f.id (wireTypeOf (.stream f)) visit.now (countFrame (.stream f) c) =
        (c₁, .ok, some (accountedStream c f.id)) ∧
      c₁.outside = { c.outside with streams := c₁.streams } ∧
      quicStreamTableFind c₁.streams f.id = some (accountedStream c f.id) ∧
      c.SameSending c₁ ∧ c₁.kept = c.kept ∧ c₁.trace = c.trace := by
    unfold accountedStream
    cases hfind : quicStreamTableFind c.streams f.id with
    | some stream =>
      refine ⟨countFrame (.stream f) c, ?_, rfl, hfind, .of_eq rfl rfl, rfl, rfl⟩
      rw [ensurePeerStream_eq, countFrame_streams, hfind]
      rfl
    | none =>
      rcases hgets.found with hsome | hopens
      · rw [hfind] at hsome
        cases hsome
      obtain ⟨slot, hslot, hfree, heq, hself⟩ := ensurePeerStream_of_opens
        (c := countFrame (.stream f) c) ht hopens.countFrame (wireTypeOf (.stream f)) visit.now
      refine ⟨_, heq, rfl, ?_, .of_eq rfl rfl, rfl, rfl⟩
      obtain ⟨stream, hstream⟩ := Option.isSome_iff_exists.mp hself
      exact quicStreamTableFind_setStream hstream rfl
  unfold visitStreamFrame at h
  rw [hensure] at h
  exact .accounted hgets hout hfind hsend hkept htrace h

lemma visitFrame_streamVisit (ht : c.streams.ids.Nodup)
    (h : visitFrame env fuel visit (.stream f) c = some (c', reply)) :
    StreamVisit env fuel visit f c c' reply := by
  have hframe : frameStreamId (.stream f) = some f.id := rfl
  by_cases htakes : visit.Takes c
  · rw [visitFrame_of_streamId htakes hframe] at h
    have htakes' : visit.Takes (countFrame (.stream f) c) := ⟨htakes.space, htakes.isOpen⟩
    by_cases hfound : (quicStreamTableFind c.streams f.id).isSome = true ∨
        Opens visit (.stream f) c f.id
    · exact visitStreamFrame_found ht ⟨htakes, hfound⟩ h
    · have hfind : quicStreamTableFind (countFrame (.stream f) c).streams f.id = none :=
        Option.not_isSome_iff_eq_none.mp fun hsome => hfound (.inl hsome)
      have hno : ¬Opens visit (.stream f) (countFrame (.stream f) c) f.id :=
        fun hopens => hfound (.inr hopens.of_countFrame)
      have hout := ensurePeerStream_outside f.id (wireTypeOf (.stream f)) visit.now
        (countFrame (.stream f) c)
      obtain ⟨hnone, hleft⟩ := ensurePeerStream_of_not_opens htakes' hframe hfind hno
        (wireTypeOf (.stream f)) visit.now
      have hnot : ¬GetsTo visit c f := fun hgets => hfound hgets.found
      unfold visitStreamFrame at h
      split at h
      · rename_i heq
        rw [heq] at hnone
        cases hnone
      · rename_i heq
        rw [heq] at hout hleft
        cases h
        exact .of_outside hnot hout (hleft.trans hfind.symm)
      · rename_i heq
        rw [heq] at hout hleft
        cases h
        exact .of_outside hnot hout (hleft.trans hfind.symm)
  · -- The frame is ignored, or closes the connection.
    have hnot : ¬GetsTo visit c f := fun hgets => htakes hgets.takes
    unfold visitFrame at h
    simp only at h
    split at h
    · cases h
      exact .of_outside hnot ⟨_, _, rfl⟩ rfl
    rename_i hignored
    split at h
    · cases h
      obtain ⟨fault, hout⟩ := closeWith_passed (countFrame (.stream f) c) quicProtocolViolation
        (wireTypeOf (.stream f)) visit.now
      refine .of_outside hnot ⟨_, fault, hout⟩ ?_
      exact congrArg (quicStreamTableFind · f.id) (closeWith_streams _ _ _ _)
    rename_i hallowed
    have hignored : frameIgnored (.stream f) (countFrame (.stream f) c) = false := by
      simpa using hignored
    have hacted : visit.Takes c := takes_of_acted hframe hignored (by simpa using hallowed)
    exact absurd hacted htakes

end Visit

/-! ## A grant that is due -/

/-- A grant is due: the frame is accepted, and takes the account of the connection or of its
stream to its limit. -/
structure GrantDue (visit : Visit) (c : Connection) (f : StreamFrame) : Prop where
  gets : GetsTo visit c f
  accepted : (arrivalOf c f).2.2.1 = .ok
  reached : quicFlowShouldExtend (arrivalOf c f).2.1 = true ∨
    quicStreamShouldExtend (arrivalOf c f).1 = true

/-- What a frame without a grant leaves of the limits and of the account. -/
structure Ungranted (c c' : Connection) (streamId : ℕ) : Prop where
  maxData : c'.flow.maxData = c.flow.maxData
  announced : c'.localMaxData = c.localMaxData
  isSet : c'.localMaxDataSet = c.localMaxDataSet
  received : c.flow.dataReceived < c.flow.maxData → c'.flow.dataReceived < c.flow.maxData
  stream : (accountedStream c' streamId).maxStreamData = (accountedStream c streamId).maxStreamData

section Due

variable {env : Env} {fuel : ℕ} {visit : Visit} {f : StreamFrame} {c c' c₁ : Connection}
  {reply : VisitReply}

/-- Received bytes that are accepted change the account alone. -/
lemma eq_of_quicFlowOnReceived {flow flow' : Flow} {length : ℕ}
    (h : quicFlowOnReceived flow length = .ok flow') :
    flow' = { flow with dataReceived := u64Add flow.dataReceived length } := by
  unfold quicFlowOnReceived at h
  split at h
  · cases h
  · cases h
    rfl

/-- The limits that the account of a frame is held against. -/
lemma arrivalOf_limits (c : Connection) (f : StreamFrame) :
    (arrivalOf c f).1.id = (accountedStream c f.id).id ∧
      (arrivalOf c f).1.maxStreamData = (accountedStream c f.id).maxStreamData ∧
      (∃ n, (arrivalOf c f).2.1 = { c.flow with dataReceived := n }) ∧
      ((arrivalOf c f).2.2.1 ≠ .ok → (arrivalOf c f).2.1.dataReceived ≤ c.flow.dataReceived) := by
  have h := quicStreamOnData_arrival (accountedStream c f.id) c.flow f.offset f.data.length f.fin
  unfold arrivalOf
  generalize quicStreamOnData (accountedStream c f.id) c.flow f.offset f.data.length f.fin = r at h ⊢
  obtain ⟨stream', flow', status, arrival⟩ := r
  simp only at h ⊢
  cases h with
  | refused hstatus => exact ⟨rfl, rfl, ⟨_, rfl⟩, fun _ => le_rfl⟩
  | counted hid hlimit hhighest hflow hstatus =>
    cases eq_of_quicFlowOnReceived hflow
    refine ⟨hid, hlimit, ⟨_, rfl⟩, ?_⟩
    intro hrefused
    have hcounted := hstatus.resolve_left hrefused
    rw [Nat.sub_eq_zero_of_le hcounted]
    exact Nat.mod_le _ _

/-- The number of the stream whose account a frame is held against. -/
lemma accountedStream_id (c : Connection) (streamId : ℕ) : (accountedStream c streamId).id = streamId := by
  unfold accountedStream
  cases hfind : quicStreamTableFind c.streams streamId with
  | none => rfl
  | some stream => exact id_of_find hfind

/-- The connection with the account of a frame, before the grants. -/
def afterArrival (c c₁ : Connection) (f : StreamFrame) : Connection :=
  { c₁ with streams := c₁.streams.setStream (arrivalOf c f).1, flow := (arrivalOf c f).2.1 }

lemma visitStreamData_cases (hflow : c₁.flow = c.flow)
    (h : visitStreamData env fuel visit f (accountedStream c f.id) c₁ = some (c', reply)) :
    (arrivalOf c f).2.2.1 ≠ .ok ∧
        (∃ code, c' = (closeWith (afterArrival c c₁ f) code 0x08 visit.now).1) ∨
      (arrivalOf c f).2.2.1 = .ok ∧ ∃ c₂ c₃, grantMaxData env fuel visit.now (afterArrival c c₁ f) =
          some c₂ ∧ grantMaxStreamData env fuel f.id visit.now c₂ = some c₃ ∧
          c' = (deliverToHandler c₃).1 := by
  unfold visitStreamData at h
  rw [hflow] at h
  unfold afterArrival arrivalOf
  generalize quicStreamOnData (accountedStream c f.id) c.flow f.offset f.data.length f.fin = r at h ⊢
  obtain ⟨stream', flow', status, arrival⟩ := r
  simp only at h ⊢
  split at h
  · rename_i heq
    cases heq
    split at h
    · cases h
    rename_i c₂ hdata
    split at h
    · cases h
    rename_i c₃ hstream
    cases h
    exact .inr ⟨rfl, c₂, c₃, hdata, hstream, rfl⟩
  · rename_i hne heq
    cases heq
    cases h
    exact .inl ⟨hne, _, rfl⟩

/-- A frame without a grant leaves the limits alone. -/
lemma visitFrame_ungranted (ht : c.streams.ids.Nodup) (hdue : ¬GrantDue visit c f)
    (h : visitFrame env fuel visit (.stream f) c = some (c', reply)) : Ungranted c c' f.id := by
  cases visitFrame_streamVisit ht h with
  | passed hnot hout hsame =>
    obtain ⟨streams, fault, hout⟩ := hout
    have hflow : c'.flow = c.flow := congrArg Outside.flow hout
    refine ⟨?_, congrArg Outside.localMaxData hout, congrArg Outside.localMaxDataSet hout, ?_, hsame⟩
    · rw [hflow]
    · rw [hflow]
      exact id
  | @accounted c₁ hgets hout hfind hsend hkept htrace h =>
    have hflow : c₁.flow = c.flow := congrArg Outside.flow hout
    have hlocal : c₁.localMaxData = c.localMaxData := congrArg Outside.localMaxData hout
    have hset : c₁.localMaxDataSet = c.localMaxDataSet := congrArg Outside.localMaxDataSet hout
    obtain ⟨hid, hlimit, ⟨n, hn⟩, hrefused⟩ := arrivalOf_limits c f
    have hmax : (arrivalOf c f).2.1.maxData = c.flow.maxData := by rw [hn]
    have hstream : quicStreamTableFind (c₁.streams.setStream (arrivalOf c f).1) f.id =
        some (arrivalOf c f).1 :=
      quicStreamTableFind_setStream hfind (hid.trans (accountedStream_id c f.id))
    have haccount : ∀ c'' : Connection, c''.streams = c₁.streams.setStream (arrivalOf c f).1 →
        (accountedStream c'' f.id).maxStreamData = (accountedStream c f.id).maxStreamData := by
      intro c'' hstreams
      unfold accountedStream at hlimit ⊢
      rw [hstreams, hstream]
      exact hlimit
    rcases visitStreamData_cases hflow h with ⟨hne, code, rfl⟩ | ⟨hok, c₂, c₃, hdata, hgrant, rfl⟩
    · obtain ⟨fault, hclosed⟩ := closeWith_passed (afterArrival c c₁ f) code 0x08 visit.now
      refine ⟨?_, ?_, ?_, ?_, haccount _ (closeWith_streams _ _ _ _)⟩
      · rw [closeWith_flow]
        exact hmax
      · exact (congrArg Outside.localMaxData hclosed).trans hlocal
      · exact (congrArg Outside.localMaxDataSet hclosed).trans hset
      · intro hroom
        rw [closeWith_flow]
        exact (hrefused hne).trans_lt hroom
    · have hroom : quicFlowShouldExtend (arrivalOf c f).2.1 = false := by
        rw [← Bool.not_eq_true]
        exact fun hreached => hdue ⟨hgets, hok, .inl hreached⟩
      have hroom' : quicStreamShouldExtend (arrivalOf c f).1 = false := by
        rw [← Bool.not_eq_true]
        exact fun hreached => hdue ⟨hgets, hok, .inr hreached⟩
      rw [grantMaxData_of_room (c := afterArrival c c₁ f) hroom] at hdata
      cases hdata
      rw [grantMaxStreamData_of_room (c := afterArrival c c₁ f) hstream hroom'] at hgrant
      cases hgrant
      refine ⟨hmax, hlocal, hset, ?_, haccount _ rfl⟩
      intro _
      have hlt : (arrivalOf c f).2.1.dataReceived < (arrivalOf c f).2.1.maxData := by
        simpa [quicFlowShouldExtend] using hroom
      rw [hmax] at hlt
      exact hlt

/-- The part of a connection that the account of received bytes is held in. -/
structure SameAccount (c c' : Connection) : Prop where
  flow : c'.flow = c.flow
  announced : c'.localMaxData = c.localMaxData
  isSet : c'.localMaxDataSet = c.localMaxDataSet

lemma SameAccount.trans {c₂ : Connection} (h : SameAccount c c₁) (h' : SameAccount c₁ c₂) :
    SameAccount c c₂ :=
  ⟨h'.flow.trans h.flow, h'.announced.trans h.announced, h'.isSet.trans h.isSet⟩

lemma SameAccount.of_outside {limits : PeerLimits} {streams : StreamTable} {fault : Option QuicError}
    (h : c'.outside = { c.outside with peerLimits := limits, streams := streams, fault := fault }) :
    SameAccount c c' :=
  ⟨congrArg Outside.flow h, congrArg Outside.localMaxData h, congrArg Outside.localMaxDataSet h⟩

lemma closeWith_sameAccount (c : Connection) (errorCode frameType now : ℕ) :
    SameAccount c (closeWith c errorCode frameType now).1 := by
  obtain ⟨fault, hout⟩ := closeWith_passed c errorCode frameType now
  exact .of_outside hout

lemma visitStream_sameAccount {frame : Frame} {stream : Stream} (hframe : ∀ f, frame ≠ .stream f)
    (h : visitStream env fuel visit frame stream c = some (c', reply)) : SameAccount c c' := by
  have hset : ∀ s, SameAccount c { c with streams := c.streams.setStream s } :=
    fun s => ⟨rfl, rfl, rfl⟩
  unfold visitStream at h
  split at h
  · split at h
    · cases h
      exact ⟨rfl, rfl, rfl⟩
    · cases h
      exact (hset _).trans (closeWith_sameAccount _ _ _ _)
  · split at h
    · cases h
      exact ⟨rfl, rfl, rfl⟩
    · cases h
      exact (hset _).trans (closeWith_sameAccount _ _ _ _)
  · cases h
    exact ⟨rfl, rfl, rfl⟩
  · exact absurd rfl (hframe _)
  · split at h
    · cases h
      exact ⟨rfl, rfl, rfl⟩
    · cases h
      exact closeWith_sameAccount _ _ _ _
  · cases h
    exact ⟨rfl, rfl, rfl⟩

lemma visitFrame_sameAccount {frame : Frame} (hframe : ∀ f, frame ≠ .stream f)
    (h : visitFrame env fuel visit frame c = some (c', reply)) : SameAccount c c' := by
  have hcount : SameAccount c (countFrame frame c) := ⟨rfl, rfl, rfl⟩
  unfold visitFrame at h
  simp only at h
  split at h
  · cases h
    exact hcount
  split at h
  · cases h
    exact hcount.trans (closeWith_sameAccount _ _ _ _)
  cases hid : frameStreamId frame with
  | none =>
    obtain ⟨limits, fault, hout, -⟩ := actOnFrame_outside_limits hid h
    exact hcount.trans (.of_outside hout)
  | some streamId =>
    rw [actOnFrame_of_streamId hid] at h
    obtain ⟨streams, fault, hout⟩ := ensurePeerStream_outside streamId (wireTypeOf frame) visit.now
      (countFrame frame c)
    unfold visitStreamFrame at h
    split at h
    · rename_i heq
      rw [heq] at hout
      exact (hcount.trans (.of_outside hout)).trans (visitStream_sameAccount hframe h)
    · rename_i heq
      rw [heq] at hout
      cases h
      exact hcount.trans (.of_outside hout)
    · rename_i heq
      rw [heq] at hout
      cases h
      exact hcount.trans (.of_outside hout)

end Due

/-! ## Grants and their slots -/

/-- A packet in flight carries what a slot keeps. -/
def SlotInFlight (c : Connection) (slot : ℕ) : Prop :=
  ∃ p ∈ c.loss.sent, p.tag < quicConnectionFramesMax ∧ (c.frames p.tag).inUse = true ∧
    (c.frames p.tag).streamId = quicControlStreamId ∧ (c.frames p.tag).offset = slot

/-- A slot keeps a frame, and is in flight or marked to be sent again. -/
def GrantHeld (c : Connection) (grant : Frame) : Prop :=
  ∃ slot < quicControlFramesMax, ∃ wire, c.kept slot = some wire ∧ retainedWire grant = some wire ∧
    ((c.controlFrames slot).resendPending = true ∨ SlotInFlight c slot)

/-- The limits by which a received frame raised what is enforced. -/
def grantsMade (c c' : Connection) : Frame → List Frame
  | .stream f =>
    (if c.flow.maxData < c'.flow.maxData then [.maxData c'.flow.maxData] else []) ++
      if (accountedStream c f.id).maxStreamData < (accountedStream c' f.id).maxStreamData then
        [.maxStreamData f.id (accountedStream c' f.id).maxStreamData]
      else []
  | _ => []

/-- A packet that carried a grant is acknowledged by a frame. -/
def AckedBy (visit : Visit) (frame : Frame) (c : Connection) (grant : Frame) : Prop :=
  ∃ f n carried payload, frame = .ack f ∧ visit.space = .application ∧ ackCovers f n = true ∧
    .sent .application n carried payload ∈ c.trace ∧
      (carried = some grant ∨ carried = none ∧ retainedWire grant = some payload)

/-- The grants a connection has made, and those of which a packet has been acknowledged. -/
structure GrantLog where
  made : List Frame := []
  acked : Frame → Prop := fun _ => False

/-- What a step adds to them. -/
def GrantLog.after (log : GrantLog) (act : LimitAct) (c c' : Connection) : GrantLog :=
  match act with
  | .frame visit frame =>
    { made := grantsMade c c' frame ++ log.made
      acked := fun grant => log.acked grant ∨ AckedBy visit frame c grant }
  | _ => log

/-- No grant is lost: a slot holds every grant that has not been acknowledged, and while the
received bytes are at the limit there is one above it. -/
structure GrantsKept (log : GrantLog) (c : Connection) : Prop where
  held : ∀ grant ∈ log.made, log.acked grant ∨ GrantHeld c grant
  above : c.localMaxDataSet = true →
    (c.flow.dataReceived = c.flow.maxData ∨ c.flow.dataReceived = c.localMaxData) →
      ∃ maximum, c.flow.dataReceived < maximum ∧ GrantHeld c (.maxData maximum)

/-- The runs of a connection in which every step meets a condition, with the grants made in
them. -/
inductive GrantRun (env : Env) (Meets : LimitAct → Connection → Prop) : GrantLog → Connection → Prop
  | init {config : ConnectionConfig} {c : Connection} (h : quicConnectionInit config = .ok c) :
      GrantRun env Meets {} c
  | step {log : GrantLog} {act : LimitAct} {c c' : Connection} (h : GrantRun env Meets log c)
      (hstep : LimitStep env c act c') (hmeets : Meets act c) :
      GrantRun env Meets (log.after act c c') c'

/-- No grant becomes due: a limit that is set leaves room, and so does every STREAM frame. -/
def LeavesRoom (act : LimitAct) (c : Connection) : Prop :=
  match act with
  | .setMaxData maximum =>
    c.localMaxDataSet = true ∧ maximum < c.localMaxData ∨ c.flow.dataReceived < maximum
  | .frame visit (.stream f) => ¬GrantDue visit c f
  | _ => True

section Room

variable {env : Env} {act : LimitAct} {log : GrantLog} {c c' : Connection}

/-- What holds as long as no grant has been due. -/
structure RoomLeft (log : GrantLog) (c : Connection) : Prop where
  made : log.made = []
  orderly : c.streams.Orderly
  room : c.localMaxDataSet = true → c.flow.dataReceived < c.flow.maxData
  limits : c.flow.maxData ≤ c.localMaxData

/-- Without a grant, none is lost. -/
lemma RoomLeft.kept (h : RoomLeft log c) : GrantsKept log c := by
  refine ⟨?_, ?_⟩
  · rw [h.made]
    intro grant hgrant
    cases hgrant
  · intro hset hreached
    have hroom := h.room hset
    rcases hreached with hreached | hreached
    · exact absurd hreached hroom.ne
    · exact absurd hreached (hroom.trans_le h.limits).ne

lemma RoomLeft.of_sameAccount (h : RoomLeft log c) (hsame : SameAccount c c')
    (horderly : c'.streams.Orderly) : RoomLeft log c' := by
  refine ⟨h.made, horderly, ?_, ?_⟩
  · rw [hsame.isSet, hsame.flow]
    exact h.room
  · rw [hsame.flow, hsame.announced]
    exact h.limits

lemma grantsMade_of_ungranted {f : StreamFrame} (h : Ungranted c c' f.id) :
    grantsMade c c' (.stream f) = [] := by
  simp [grantsMade, h.maxData, h.stream]

lemma RoomLeft.frame (h : RoomLeft log c) {fuel : ℕ} {visit : Visit} {frame : Frame}
    {reply : VisitReply} (hmeets : LeavesRoom (.frame visit frame) c)
    (hvisit : visitFrame env fuel visit frame c = some (c', reply)) :
    RoomLeft (log.after (.frame visit frame) c c') c' := by
  have horderly := visitFrame_orderly h.orderly hvisit
  by_cases hstream : ∃ f, frame = .stream f
  · obtain ⟨f, rfl⟩ := hstream
    have hungranted := visitFrame_ungranted h.orderly.distinct hmeets hvisit
    refine ⟨?_, horderly, ?_, ?_⟩
    · simp only [GrantLog.after, grantsMade_of_ungranted hungranted, h.made, List.append_nil]
    · rw [hungranted.isSet, hungranted.maxData]
      exact fun hset => hungranted.received (h.room hset)
    · rw [hungranted.maxData, hungranted.announced]
      exact h.limits
  · have hsame := visitFrame_sameAccount (fun f hf => hstream ⟨f, hf⟩) hvisit
    have hmade : grantsMade c c' frame = [] := by
      unfold grantsMade
      split
      · exact absurd ⟨_, rfl⟩ hstream
      · rfl
    have hroom := h.of_sameAccount hsame horderly
    refine ⟨?_, horderly, hroom.room, hroom.limits⟩
    simp only [GrantLog.after, hmade, h.made, List.append_nil]

lemma RoomLeft.step (h : RoomLeft log c) (hstep : LimitStep env c act c')
    (hmeets : LeavesRoom act c) : RoomLeft (log.after act c c') c' := by
  have horderly := hstep.orderly h.orderly
  cases hstep with
  | setMaxData maximum =>
    unfold quicConnectionSetMaxData
    split
    · exact h
    · rename_i hlower
      have hroom := hmeets.resolve_left hlower
      exact ⟨h.made, h.orderly, fun _ => hroom, le_rfl⟩
  | sendMaxData hcall =>
    obtain ⟨announced, hout, hraise⟩ := quicConnectionSendMaxData_outside hcall
    have hflow : c'.flow = c.flow := congrArg Outside.flow hout
    have hset : c'.localMaxDataSet = c.localMaxDataSet := congrArg Outside.localMaxDataSet hout
    have hlocal : c'.localMaxData = announced := congrArg Outside.localMaxData hout
    refine ⟨h.made, horderly, ?_, ?_⟩
    · rw [hset, hflow]
      exact h.room
    · rw [hflow, hlocal]
      exact h.limits.trans hraise
  | frame hvisit => exact h.frame hmeets hvisit
  | quiet hquiet => exact h.of_sameAccount (.of_outside hquiet.outside) horderly
  | other hother hstreams =>
    obtain ⟨sent, peerMaximum, hflow⟩ := hother.flow
    refine ⟨h.made, horderly, ?_, ?_⟩
    · rw [hother.isSet, hflow]
      exact h.room
    · rw [hother.announced, hflow]
      exact h.limits

lemma GrantRun.roomLeft (h : GrantRun env LeavesRoom log c) : RoomLeft log c := by
  induction h with
  | init h =>
    obtain ⟨hadvertised, horderly⟩ := quicConnectionInit_advertised h
    refine ⟨rfl, horderly, ?_, hadvertised.same.le⟩
    unfold quicConnectionInit at h
    split at h
    · cases h
    split at h
    · cases h
    cases h
    intro hset
    cases hset
  | step h hstep hmeets ih => exact ih.step hstep hmeets

end Room

/-! ## A grant that is made -/

section Made

variable {env : Env} {fuel : ℕ} {visit : Visit} {f : StreamFrame} {log : GrantLog} {c c' : Connection}
  {reply : VisitReply} {W : List UInt8 → Prop}

/-- The frames whose bytes a property of the slots allows. -/
def Fits (W : List UInt8 → Prop) (frame : Frame) : Prop :=
  ∀ wire, retainedWire frame = some wire → W wire

/-- The slots keep bytes with a property. -/
def Connection.Slots (W : List UInt8 → Prop) (c : Connection) : Prop :=
  ∀ slot wire, c.kept slot = some wire → W wire

/-- One quiet change puts into the slots what its frames allow. -/
lemma QuietStep.slots (h : QuietStep env (Fits W) c c') (hc : c.Slots W) : c'.Slots W := by
  have hsame : c'.kept = c.kept → c'.Slots W := by
    intro hkept slot wire hwire
    rw [hkept] at hwire
    exact hc slot wire hwire
  cases h with
  | other h hout hkept htrace => exact hsame hkept
  | protect o h => exact hsame (sendProtected_trace env o c).1
  | @keep slot frame k hframe hwire =>
    intro s wire hs
    rw [Connection.kept_setControl] at hs
    by_cases h : s = slot
    · subst h
      rw [Function.update_self] at hs
      split at hs
      · cases hs
        exact hframe _ hwire
      · cases hs
    · rw [Function.update_of_ne h] at hs
      exact hc s wire hs
  | @release slot k h =>
    intro s wire hs
    rw [Connection.kept_setControl] at hs
    by_cases hslot : s = slot
    · subst hslot
      simp [h] at hs
    · rw [Function.update_of_ne hslot] at hs
      exact hc s wire hs
  | report | remove | sample | resample => exact hsame rfl

/-- Quiet changes put into the slots what their frames allow. -/
lemma Quiet.slots (h : Quiet env (Fits W) c c') (hc : c.Slots W) : c'.Slots W := by
  induction h with
  | refl => exact hc
  | tail _ hstep ih => exact hstep.slots ih

/-- Sending a frame without a descriptor puts nothing into the slots. -/
lemma sendOneFrame_slots {space : Space} {frame : Frame} {ackEliciting : Bool} {now : ℕ}
    {status : Status} (hc : c.Slots W)
    (h : sendOneFrame env fuel space frame ackEliciting none now c = some (c', status)) :
    c'.Slots W := by
  have hpacket : ∀ {o : Outgoing} {c₁ : Connection} {status₁ : Status},
      sendPacket env fuel o c = some (c₁, status₁) → c₁.Slots W := by
    intro o c₁ status₁ hsend
    rcases sendPacket_cases (Fits W) hsend with hquiet | ⟨c₂, hquiet, -, hsent⟩
    · exact hquiet.slots hc
    · have hkept := (sendProtected_trace env o c₂).1
      rw [hsent] at hkept
      intro slot wire hwire
      rw [hkept] at hwire
      exact hquiet.slots hc slot wire hwire
  unfold sendOneFrame at h
  split at h
  · cases h
    exact hc
  split at h
  · cases h
    exact hc
  split at h
  · cases h
    exact hc
  simp only [sendEncodedFrame] at h
  split at h
  · cases h
  · rename_i heq
    cases h
    exact hpacket heq
  · rename_i heq
    cases h
    exact hpacket heq

lemma grantMaxData_slots {now : ℕ} (hc : c.Slots W) (h : grantMaxData env fuel now c = some c') :
    c'.Slots W := by
  unfold grantMaxData at h
  split at h
  · cases h
    exact hc
  simp only at h
  split at h
  · cases h
  · rename_i heq
    cases h
    have hslots := sendOneFrame_slots hc heq
    exact hslots
  · rename_i heq
    cases h
    exact sendOneFrame_slots hc heq

/-- A grant on a stream puts nothing into the slots. -/
lemma grantMaxStreamData_slots {streamId now : ℕ} (hc : c.Slots W)
    (h : grantMaxStreamData env fuel streamId now c = some c') : c'.Slots W := by
  unfold grantMaxStreamData at h
  split at h
  · cases h
    exact hc
  split at h
  · cases h
    exact hc
  simp only at h
  split at h
  · cases h
  · rename_i heq
    cases h
    have hslots := sendOneFrame_slots hc heq
    exact hslots
  · rename_i heq
    cases h
    exact sendOneFrame_slots hc heq

/-- A grant moves the limit at most up, and leaves the account. -/
lemma grantMaxData_flow {now : ℕ} (h : grantMaxData env fuel now c = some c') :
    c'.flow.dataReceived = c.flow.dataReceived ∧ c.flow.maxData ≤ c'.flow.maxData := by
  unfold grantMaxData at h
  split at h
  · cases h
    exact ⟨rfl, le_rfl⟩
  simp only at h
  split at h
  · cases h
  · rename_i c₁ heq
    cases h
    have hquiet := sendOneFrame_quietly (F := fun _ => True) _ _ trivial _ _ _ _ _ _ heq
    have hflow : c₁.flow = c.flow := congrArg Outside.flow hquiet.outside
    simp only [hflow]
    unfold quicFlowOnMaxDataSent
    split
    · exact ⟨rfl, le_of_lt ‹_›⟩
    · exact ⟨rfl, le_rfl⟩
  · rename_i c₁ status _ heq
    cases h
    have hquiet := sendOneFrame_quietly (F := fun _ => True) _ _ trivial _ _ _ _ _ _ heq
    have hflow : c'.flow = c.flow := congrArg Outside.flow hquiet.outside
    rw [hflow]
    exact ⟨rfl, le_rfl⟩

/-- What a frame leaves that takes the account of the connection to its limit: the grant may have
raised the limit, and no slot keeps more than before. -/
structure Filled (c c' : Connection) : Prop where
  received : c'.flow.dataReceived = c.flow.maxData
  raised : c.flow.maxData ≤ c'.flow.maxData
  isSet : c'.localMaxDataSet = c.localMaxDataSet
  slots : ∀ {W : List UInt8 → Prop}, c.Slots W → c'.Slots W

/-- A frame that takes the account of the connection to its limit. -/
lemma visitFrame_filled (hsound : c.flow.Sound) (ht : c.streams.ids.Nodup) (hgets : GetsTo visit c f)
    (haccepted : (arrivalOf c f).2.2.1 = .ok)
    (hreached : quicFlowShouldExtend (arrivalOf c f).2.1 = true)
    (hvisit : visitFrame env fuel visit (.stream f) c = some (c', reply)) : Filled c c' := by
  cases visitFrame_streamVisit ht hvisit with
  | passed hnot _ _ => exact absurd hgets hnot
  | @accounted c₁ _ hout _ _ hkept _ hdata =>
    have hflow : c₁.flow = c.flow := congrArg Outside.flow hout
    have hset : c₁.localMaxDataSet = c.localMaxDataSet := congrArg Outside.localMaxDataSet hout
    rcases visitStreamData_cases hflow hdata with ⟨hne, -⟩ | ⟨-, c₂, c₃, hgrant, hgrant', rfl⟩
    · exact absurd haccepted hne
    obtain ⟨n, hn, hcounted⟩ : ∃ n ≤ c.flow.maxData, (arrivalOf c f).2.1 =
        { c.flow with dataReceived := n } := quicStreamOnData_flow hsound
    have hfull : n = c.flow.maxData := by
      rw [hcounted] at hreached
      exact le_antisymm hn (by simpa [quicFlowShouldExtend] using hreached)
    have hstart : (afterArrival c c₁ f).flow = { c.flow with dataReceived := n } := hcounted
    obtain ⟨hreceived, hraise⟩ := grantMaxData_flow hgrant
    rw [hstart] at hreceived hraise
    obtain ⟨flow, announced, hout₂⟩ := grantMaxData_outside hgrant
    obtain ⟨streams, hout₃, -⟩ := grantMaxStreamData_outside hgrant'
    have hflow₃ : c₃.flow = c₂.flow := congrArg Outside.flow hout₃
    have hset₂ : c₂.localMaxDataSet = c₁.localMaxDataSet := congrArg Outside.localMaxDataSet hout₂
    have hset₃ : c₃.localMaxDataSet = c₂.localMaxDataSet := congrArg Outside.localMaxDataSet hout₃
    refine ⟨?_, ?_, hset₃.trans (hset₂.trans hset), ?_⟩
    · exact (congrArg Flow.dataReceived hflow₃).trans (hreceived.trans hfull)
    · exact hraise.trans (congrArg Flow.maxData hflow₃).ge
    · intro W hc
      have hc₁ : c₁.Slots W := by
        intro slot wire hwire
        rw [hkept] at hwire
        exact hc slot wire hwire
      have hc₂ : (afterArrival c c₁ f).Slots W := hc₁
      have hc₃ := grantMaxStreamData_slots (grantMaxData_slots hc₂ hgrant) hgrant'
      exact hc₃

/-- A grant of the connection limit that is due leaves the connection without it: the limit was
raised and no slot keeps the grant, or the received bytes are at the limit and no slot keeps a
grant above it. -/
theorem not_grantsKept_of_due (h : Advertised c) (ht : c.streams.ids.Nodup)
    (hset : c.localMaxDataSet = true) (hacked : ∀ maximum, log.acked (.maxData maximum) →
      maximum ≤ c.flow.maxData)
    (hgets : GetsTo visit c f) (haccepted : (arrivalOf c f).2.2.1 = .ok)
    (hreached : quicFlowShouldExtend (arrivalOf c f).2.1 = true)
    (hvisit : visitFrame env fuel visit (.stream f) c = some (c', reply)) :
    ¬GrantsKept (log.after (.frame visit (.stream f)) c c') c' := by
  intro hkept
  have hfilled := visitFrame_filled h.sound ht hgets haccepted hreached hvisit
  -- No slot keeps a MAX_DATA above the limit.
  have hslots : c.Slots fun wire => ∀ maximum, c.flow.maxData < maximum →
      retainedWire (.maxData maximum) ≠ some wire := by
    intro slot wire hwire maximum habove hmax
    obtain ⟨frame, hannounces, hframe⟩ := h.wired.slots slot wire hwire
    exact absurd (hannounces maximum (eq_of_retainedWire_maxData hframe hmax)) (not_le.mpr habove)
  have hno : ∀ maximum, c.flow.maxData < maximum → ¬GrantHeld c' (.maxData maximum) := by
    rintro maximum habove ⟨slot, -, wire, hwire, hmax, -⟩
    exact hfilled.slots hslots slot wire hwire maximum habove hmax
  rcases hfilled.raised.lt_or_eq with hraised | hsame
  · -- The limit was raised by a grant that nothing keeps.
    have hmade : Frame.maxData c'.flow.maxData ∈ grantsMade c c' (.stream f) := by
      simp [grantsMade, hraised]
    rcases hkept.held _ (List.mem_append_left _ hmade) with (hlog | hack) | hheld
    · exact absurd (hacked _ hlog) (not_le.mpr hraised)
    · obtain ⟨ack, _, _, _, hframe, -⟩ := hack
      cases hframe
    · exact hno _ hraised hheld
  · -- The bytes are at the limit, and no grant is above it.
    have hat : c'.flow.dataReceived = c'.flow.maxData := hfilled.received.trans hsame
    obtain ⟨maximum, habove, hheld⟩ := hkept.above (hfilled.isSet.trans hset) (.inl hat)
    rw [hfilled.received] at habove
    exact hno maximum habove hheld

end Made

/-! ## Runs -/

section Runs

variable {env : Env} {log : GrantLog} {c c' : Connection} {act : LimitAct}

/-- Runs that also announce no limit above the one that is set. -/
def LeavesRoomWithin (act : LimitAct) (c : Connection) : Prop :=
  LeavesRoom act c ∧ KeepsToLimit act c

/-- One step without a grant does not lower the limit. -/
lemma LimitStep.maxData_le (hstep : LimitStep env c act c') (hmeets : LeavesRoom act c)
    (h : Advertised c) (ht : c.streams.Orderly) : c.flow.maxData ≤ c'.flow.maxData := by
  cases hstep with
  | setMaxData maximum =>
    unfold quicConnectionSetMaxData
    split
    · exact le_rfl
    · exact h.le_setMaxData ‹_›
  | sendMaxData hcall =>
    obtain ⟨announced, hout, -⟩ := quicConnectionSendMaxData_outside hcall
    have hflow : c'.flow = c.flow := congrArg Outside.flow hout
    rw [hflow]
  | @frame fuel visit frame _ reply hvisit =>
    by_cases hstream : ∃ f, frame = .stream f
    · obtain ⟨f, rfl⟩ := hstream
      rw [(visitFrame_ungranted ht.distinct hmeets hvisit).maxData]
    · rw [(visitFrame_sameAccount (fun f hf => hstream ⟨f, hf⟩) hvisit).flow]
  | quiet hquiet =>
    have hflow : c'.flow = c.flow := congrArg Outside.flow hquiet.outside
    rw [hflow]
  | other hother hstreams =>
    obtain ⟨sent, peerMaximum, hflow⟩ := hother.flow
    rw [hflow]

lemma GrantRun.acked_le (h : GrantRun env LeavesRoomWithin log c) :
    Advertised c ∧ c.streams.Orderly ∧
      ∀ maximum, log.acked (.maxData maximum) → maximum ≤ c.flow.maxData := by
  induction h with
  | init h =>
    obtain ⟨hadvertised, horderly⟩ := quicConnectionInit_advertised h
    exact ⟨hadvertised, horderly, fun _ h => h.elim⟩
  | @step log act c c' h hstep hmeets ih =>
    obtain ⟨hadvertised, horderly, hacked⟩ := ih
    have hle := hstep.maxData_le hmeets.1 hadvertised horderly
    refine ⟨hstep.advertised hmeets.2 hadvertised, hstep.orderly horderly, ?_⟩
    intro maximum hlog
    cases act with
    | frame visit frame =>
      rcases hlog with hlog | ⟨ack, n, carried, payload, -, -, -, hsent, hcarried⟩
      · exact (hacked maximum hlog).trans hle
      · exact (hadvertised.onWire_le ⟨.application, n, carried, payload, hsent, hcarried⟩).trans hle
    | _ => exact (hacked maximum hlog).trans hle

/-- As long as no grant is due, none is lost. The first grant of the connection limit that comes
due is: after the frame it is not kept, whether it could be sent or not. -/
theorem grants_kept_until_due (h : GrantRun env LeavesRoom log c) :
    GrantsKept log c ∧
      (GrantRun env LeavesRoomWithin log c → c.localMaxDataSet = true →
        ∀ fuel visit f c' reply, GetsTo visit c f → (arrivalOf c f).2.2.1 = .ok →
          quicFlowShouldExtend (arrivalOf c f).2.1 = true →
            visitFrame env fuel visit (.stream f) c = some (c', reply) →
              ¬GrantsKept (log.after (.frame visit (.stream f)) c c') c') := by
  refine ⟨h.roomLeft.kept, ?_⟩
  intro hwithin hset fuel visit f c' reply hgets haccepted hreached hvisit
  obtain ⟨hadvertised, horderly, hacked⟩ := hwithin.acked_le
  exact not_grantsKept_of_due hadvertised horderly.distinct hset hacked hgets haccepted hreached
    hvisit

lemma LimitRun.grantRun {Meets : LimitAct → Connection → Prop} (h : LimitRun env Meets c) :
    ∃ log, GrantRun env Meets log c := by
  induction h with
  | init h => exact ⟨_, .init h⟩
  | step h hstep hmeets ih =>
    obtain ⟨log, hrun⟩ := ih
    exact ⟨_, hrun.step hstep hmeets⟩

lemma GrantRun.mono {Meets Meets' : LimitAct → Connection → Prop}
    (hle : ∀ act c, Meets act c → Meets' act c) (h : GrantRun env Meets log c) :
    GrantRun env Meets' log c := by
  induction h with
  | init h => exact .init h
  | step h hstep hmeets ih => exact ih.step hstep (hle _ _ hmeets)

end Runs

/-! ## The first bytes of a stream -/

section Filled

/-- Bytes at the start of the peer's first stream. -/
def firstBytes (length : ℕ) : StreamFrame :=
  { id := 0, offset := 0, hasOffset := false, fin := false, hasLength := true,
    data := List.replicate length 0 }

/-- The server with a limit of 4 bytes after some of them. -/
def afterBytes (length : ℕ) : Connection :=
  ((visitFrame steadyEnv 1 atStart (.stream (firstBytes length)) limitedServer).map Prod.fst).getD
    limitedServer

/-- Where the visitor returns, it returns that server. -/
lemma visitFrame_afterBytes {length : ℕ}
    (h : (visitFrame steadyEnv 1 atStart (.stream (firstBytes length)) limitedServer).isSome = true) :
    ∃ reply, visitFrame steadyEnv 1 atStart (.stream (firstBytes length)) limitedServer =
      some (afterBytes length, reply) := by
  obtain ⟨⟨c', reply⟩, hvisit⟩ := Option.isSome_iff_exists.mp h
  refine ⟨reply, ?_⟩
  unfold afterBytes
  rw [hvisit]
  rfl

lemma limitedServer_grantRun : ∃ log, GrantRun steadyEnv LeavesRoomWithin log limitedServer := by
  have hset : LeavesRoomWithin (.setMaxData 4) roomyServer := ⟨.inr (by decide), (by decide : 4 < 2 ^ 63)⟩
  exact (limitedServer_run (fun _ => ⟨trivial, trivial⟩) hset).grantRun

/-- Two bytes leave room for two more. -/
theorem grants_kept_below_limit :
    ∃ log, GrantRun steadyEnv LeavesRoom log (afterBytes 2) ∧
      (afterBytes 2).flow.dataReceived = 2 ∧ GrantsKept log (afterBytes 2) := by
  obtain ⟨log, hrun⟩ := limitedServer_grantRun
  obtain ⟨reply, hvisit⟩ := @visitFrame_afterBytes 2 (by decide)
  have hdue : ¬GrantDue atStart limitedServer (firstBytes 2) := by
    intro h
    exact absurd h.reached (by decide)
  have hrun' : GrantRun steadyEnv LeavesRoom (log.after (.frame atStart (.stream (firstBytes 2)))
      limitedServer (afterBytes 2)) (afterBytes 2) :=
    (hrun.mono fun _ _ h => h.1).step (.frame hvisit) hdue
  exact ⟨_, hrun', by decide, (grants_kept_until_due hrun').1⟩

/-- Four bytes reach the limit. The grant of 8 goes out, in a packet that no descriptor and no
slot answers for, and the limit is raised as if it had arrived. -/
theorem grant_at_limit_not_kept :
    ∃ log, GrantRun steadyEnv (fun _ _ => True) log (afterBytes 4) ∧
      .sent .application 0 (some (.maxData 8)) [0x10, 8, 0] ∈ (afterBytes 4).trace ∧
      (afterBytes 4).flow.maxData = 8 ∧
      (∀ slot < quicControlFramesMax, ((afterBytes 4).controlFrames slot).inUse = false) ∧
      ¬GrantsKept log (afterBytes 4) := by
  obtain ⟨log, hrun⟩ := limitedServer_grantRun
  obtain ⟨hadvertised, horderly, hacked⟩ := hrun.acked_le
  obtain ⟨reply, hvisit⟩ := @visitFrame_afterBytes 4 (by decide)
  have hopens : Opens atStart (.stream (firstBytes 4)) limitedServer 0 :=
    ⟨⟨rfl, by decide⟩, rfl, by decide, by decide, by decide, by decide, .inl ⟨0, by decide, rfl⟩⟩
  refine ⟨_, (hrun.mono fun _ _ _ => trivial).step (.frame hvisit) trivial, by decide, by decide,
    by decide, ?_⟩
  exact not_grantsKept_of_due hadvertised horderly.distinct (by decide) hacked
    ⟨hopens.takes, .inr hopens⟩ (by decide) (by decide) hvisit

end Filled

end WebTransport
