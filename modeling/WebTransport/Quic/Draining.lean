import WebTransport.Quic.ConnectionReceive

/-!
# A connection its peer has closed

Once the peer's CONNECTION_CLOSE has been processed an endpoint is to send nothing more. The
calls that ask whether the connection is closed keep to that, and so do the flush and the timer.
The others go on sending: the answer to a PATH_CHALLENGE, and every call on streams, limits,
connection IDs, datagrams and handshake bytes that does not ask.
-/

namespace WebTransport

/-! ## The remaining calls -/

/-- `WT_QUIC_DATAGRAM_PACKET_OVERHEAD`. -/
def quicDatagramPacketOverhead : ℕ := 64

/-- The largest length that fits a frame with its type and its length field. The length shrinks
in every round, so the limit bounds the rounds. -/
def datagramFit (limit : ℕ) : ℕ → ℕ → ℕ
  | 0, _ => 0
  | rounds + 1, length =>
    let needed := 1 + quicVarintSize length + length
    if needed ≤ limit then length
    else if length < needed - limit then 0
    else if length - (needed - limit) = 0 then 0
    else datagramFit limit rounds (length - (needed - limit))

/-- The largest payload of a DATAGRAM frame. -/
def quicDatagramMaxPayload (peerMaxDatagramFrameSize maxPacketSize packetOverhead : ℕ) : ℕ :=
  if maxPacketSize ≤ packetOverhead then 0
  else if peerMaxDatagramFrameSize = 0 then 0
  else
    let length := datagramFit peerMaxDatagramFrameSize peerMaxDatagramFrameSize
      (peerMaxDatagramFrameSize - 1)
    if length < maxPacketSize - packetOverhead then length else maxPacketSize - packetOverhead

/-- The largest payload this connection may send. -/
def quicConnectionMaxDatagramPayload (c : Connection) : ℕ :=
  if !c.peerLimits.set then 0
  else if c.peerLimits.maxDatagramFrameSize = 0 then 0
  else quicDatagramMaxPayload c.peerLimits.maxDatagramFrameSize c.config.maxDatagramSize
    quicDatagramPacketOverhead

/-- Send a DATAGRAM frame. -/
def quicConnectionSendDatagram (env : Env) (fuel : ℕ) (data : List UInt8) (now : ℕ)
    (c : Connection) : Option (Connection × Status) :=
  if !c.peerLimits.set then some (c, .state)
  else if c.peerLimits.maxDatagramFrameSize = 0 then some (c, .unsupported)
  else if quicConnectionMaxDatagramPayload c < data.length then some (c, .limit)
  else sendControlFrame env fuel .application (.datagram data) true now c

/-- Move to another connection ID of the peer, and give up the one in use. -/
def quicConnectionUseNewConnectionId (env : Env) (fuel : ℕ) (now : ℕ) (c : Connection) :
    Option (Connection × Status) :=
  match idSlot c.peerIds fun e => decide (c.currentPeerSequence ≠ some e.sequence) with
  | none => some (c, .state)
  | some slot =>
    let adopted := adoptStoredPeerId slot c
    match c.currentPeerSequence with
    | none => some (adopted, .ok)
    | some abandoned => forgetPeerConnectionId env fuel abandoned now adopted

/-- Give up a connection ID of the peer that is not in use. -/
def quicConnectionRetirePeerConnectionId (env : Env) (fuel : ℕ) (sequence now : ℕ)
    (c : Connection) : Option (Connection × Status) :=
  if quicConnectionIsClosed c then some (c, .state)
  else if c.currentPeerSequence = some sequence then some (c, .state)
  else
    let stored := (idSlot c.peerIds (·.sequence = sequence)).isSome
    match forgetPeerConnectionId env fuel sequence now c with
    | none => none
    | some (c, .ok) => some (c, if stored then .ok else .state)
    | some (c, status) => some (c, status)

/-- Validate the path to the peer. -/
def quicConnectionValidatePath (env : Env) (fuel : ℕ) (now : ℕ) (c : Connection) :
    Option (Connection × Status) :=
  if quicConnectionIsClosed c then some (c, .state)
  else if c.pathValidating then some (c, .ok)
  else
    match armPathChallenge env c with
    | (c, .ok) =>
      flushPathChallenge env fuel now { c with
        pathValidating := true
        pathValidationAttempts := 1
        pathValidationDeadline := u64Add now (ptoOf c) }
    | (c, status) => some (c, status)

/-! ## Operations -/

/-- The operations on a connection that may send. A frame is one up to the call of the layer
above, and the layer above comes back with a status. -/
inductive Operation
  | frame (visit : Visit) (frame : Frame)
  | handled (visit : Visit) (frame : Frame) (status : Status)
  | sendStream (streamId offset : ℕ) (data : List UInt8) (fin : Bool)
  | resetStream (streamId errorCode : ℕ)
  | resetStreamAt (streamId errorCode reliableSize : ℕ)
  | stopSending (streamId errorCode : ℕ)
  | sendDatagram (data : List UInt8)
  | sendMaxData (maximum : ℕ)
  | sendMaxStreams (direction : StreamDirection) (maximum : ℕ)
  | sendCrypto (space : Space) (offset : ℕ) (data : List UInt8)
  | sendFrame (space : Space) (frame : Frame) (ackEliciting : Bool)
  | issueConnectionId (id resetToken : List UInt8)
  | useNewConnectionId
  | retirePeerConnectionId (sequence : ℕ)
  | validatePath
  | flush
  | onTimeout

/-- What an operation does at a time. -/
def Operation.call (env : Env) (fuel now : ℕ) (op : Operation) (c : Connection) :
    Option (Connection × Status) :=
  match op with
  | .frame visit f =>
    (visitFrame env fuel visit f c).map fun r =>
      (r.1, match r.2 with
        | .returned status => status
        | .deliver => .ok)
  | .handled visit f status => some (handlerReturned visit f status c)
  | .sendStream streamId offset data fin =>
    quicConnectionSendStream env fuel streamId offset data fin now c
  | .resetStream streamId errorCode => quicConnectionResetStream env fuel streamId errorCode now c
  | .resetStreamAt streamId errorCode reliableSize =>
    quicConnectionResetStreamAt env fuel streamId errorCode reliableSize now c
  | .stopSending streamId errorCode => quicConnectionStopSending env fuel streamId errorCode now c
  | .sendDatagram data => quicConnectionSendDatagram env fuel data now c
  | .sendMaxData maximum => quicConnectionSendMaxData env fuel maximum now c
  | .sendMaxStreams direction maximum =>
    quicConnectionSendMaxStreams env fuel direction maximum now c
  | .sendCrypto space offset data => quicConnectionSendCrypto env fuel space offset data now c
  | .sendFrame space f ackEliciting =>
    quicConnectionSendFrame env fuel space f ackEliciting now c
  | .issueConnectionId id resetToken =>
    quicConnectionIssueConnectionId env fuel id resetToken now c
  | .useNewConnectionId => quicConnectionUseNewConnectionId env fuel now c
  | .retirePeerConnectionId sequence =>
    quicConnectionRetirePeerConnectionId env fuel sequence now c
  | .validatePath => quicConnectionValidatePath env fuel now c
  | .flush => quicConnectionFlush env fuel now c
  | .onTimeout => quicConnectionOnTimeout env fuel now c

/-- An operation that comes to send a frame without having asked whether the connection is closed:
it passes the checks of its own, and there are keys. -/
def Operation.unguarded (c : Connection) : Operation → Bool
  | .frame visit (.pathChallenge _) =>
    visit.space = .application && (c.keysOut .application).isSome
  | .sendStream streamId _ _ _ =>
    c.peerLimits.set && streamIdAllowed c streamId && (c.keysOut .application).isSome
  | .resetStream streamId _ =>
    c.peerLimits.set && (quicStreamTableFind c.streams streamId).any (fun stream =>
        (quicStreamOnResetSent stream).isOk) &&
      sendsOn c streamId && (c.keysOut .application).isSome
  | .resetStreamAt streamId _ reliableSize =>
    c.peerLimits.set && c.peerLimits.resetStreamAt &&
      (quicStreamTableFind c.streams streamId).any (fun stream =>
        reliableSize ≤ stream.sendOffset && (quicStreamOnResetSent stream).isOk) &&
      sendsOn c streamId && (c.keysOut .application).isSome
  | .stopSending streamId _ =>
    c.peerLimits.set && (quicStreamTableFind c.streams streamId).any (fun stream =>
        !stream.sentStopSending && !quicStreamRecvFinished stream) &&
      (quicStreamIdIsBidirectional streamId ||
        decide (quicStreamIdFromClient streamId ≠ decide (c.config.role = .client))) &&
      (c.keysOut .application).isSome
  | .sendDatagram data =>
    c.peerLimits.set && c.peerLimits.maxDatagramFrameSize ≠ 0 &&
      data.length ≤ quicConnectionMaxDatagramPayload c && (c.keysOut .application).isSome
  | .sendMaxData maximum =>
    c.localMaxDataSet && c.localMaxData ≤ maximum && (c.keysOut .application).isSome
  | .sendMaxStreams direction maximum =>
    c.localMaxStreamsSet direction && c.localMaxStreams direction ≤ maximum &&
      (c.keysOut .application).isSome
  | .sendCrypto space _ data => data ≠ [] && (c.keysOut space).isSome
  | .issueConnectionId id _ =>
    0 < id.length && id.length ≤ quicMaxConnectionIdLength &&
      id.length = c.config.localConnectionId.length && c.peerLimits.set &&
      (idSlot c.issuedIds (·.id = id)).isNone &&
      ((List.range quicConnectionIdsMax).find? fun i => (c.issuedIds i).isNone).isSome &&
      c.issuedCount < c.peerLimits.activeConnectionIdLimit - 1 && (c.keysOut .application).isSome
  | _ => false

/-! ## Silence -/

/-- The peer has closed, and the connection knows that it is over. -/
structure Draining (c : Connection) : Prop where
  peerClosed : c.peerClosed = true
  close : quicCloseIsClosed c.close = true

/-- Nothing has gone out, and whether the connection is closed is as it was. -/
structure Unheard (c c' : Connection) : Prop where
  trace : c'.trace = c.trace
  peerClosed : c'.peerClosed = c.peerClosed
  close : c'.close = c.close

section Silence

variable {env : Env} {fuel now : ℕ} {c c' : Connection} {status : Status}

lemma Unheard.refl (c : Connection) : Unheard c c := ⟨rfl, rfl, rfl⟩

lemma Unheard.draining (h : Unheard c c') (hc : Draining c) : Draining c' :=
  ⟨h.peerClosed.trans hc.peerClosed, by rw [h.close]; exact hc.close⟩

lemma Draining.closed (h : Draining c) : quicConnectionIsClosed c = true := by
  unfold quicConnectionIsClosed
  rw [h.peerClosed]
  rfl

lemma unheard_of_some_eq {status' : Status} (h : some (c, status') = some (c', status)) :
    Unheard c c' := by
  obtain ⟨rfl, -⟩ := Prod.mk.inj (Option.some.inj h)
  exact .refl c

/-- A connection closes once. -/
lemma closeWith_of_closed (h : quicConnectionIsClosed c = true) (errorCode frameType time : ℕ) :
    closeWith c errorCode frameType time = (c, .ok) := by
  unfold closeWith quicConnectionClose
  rw [if_pos h]

lemma closeCommon_of_closed {state : CloseState} (h : quicCloseIsClosed state = true)
    (kind : CloseKind) (errorCode frameType : ℕ) (reason : List UInt8) (time pto : ℕ) :
    (closeCommon state kind errorCode frameType reason time pto).1 = state := by
  unfold closeCommon
  unfold quicCloseIsClosed at h
  rw [if_pos (by simpa using h)]

/-- Nothing goes out in a space without keys. -/
lemma sendOneFrame_unheard {space : Space} {f : Frame} {ackEliciting : Bool}
    {descriptor : Option Descriptor} (hkeys : c.keysOut space = none)
    (h : sendOneFrame env fuel space f ackEliciting descriptor now c = some (c', status)) :
    Unheard c c' := by
  unfold sendOneFrame at h
  rw [hkeys] at h
  exact unheard_of_some_eq h

lemma sendControlFrame_unheard {space : Space} {f : Frame} {ackEliciting : Bool}
    (hkeys : c.keysOut space = none)
    (h : sendControlFrame env fuel space f ackEliciting now c = some (c', status)) :
    Unheard c c' := by
  unfold sendControlFrame at h
  split at h
  · exact sendOneFrame_unheard hkeys h
  split at h
  · simp only at h
    split at h
    · cases h
    · rename_i c₁ hsent
      obtain ⟨rfl, -⟩ := Prod.mk.inj (Option.some.inj h)
      obtain ⟨htrace, hpeer, hclose⟩ := sendOneFrame_unheard (by exact hkeys) hsent
      exact ⟨htrace, hpeer, hclose⟩
    · rename_i c₁ status₁ _ hsent
      obtain ⟨rfl, -⟩ := Prod.mk.inj (Option.some.inj h)
      obtain ⟨htrace, hpeer, hclose⟩ := sendOneFrame_unheard (by exact hkeys) hsent
      exact ⟨htrace, hpeer, hclose⟩
  · obtain ⟨htrace, hpeer, hclose⟩ := sendOneFrame_unheard (by exact hkeys) h
    exact ⟨htrace, hpeer, hclose⟩

lemma quicConnectionSendFrame_draining (hc : Draining c) (space : Space) (f : Frame)
    (ackEliciting : Bool) :
    quicConnectionSendFrame env fuel space f ackEliciting now c = some (c, .state) := by
  unfold quicConnectionSendFrame
  rw [if_pos hc.closed]

/-- A call that would send a control frame and take note of it, in a space without keys. -/
lemma announced_unheard {space : Space} {f : Frame} (hkeys : c.keysOut space = none)
    (record : Connection → Connection) (hrecord : ∀ c, Unheard c (record c))
    (h : (match sendControlFrame env fuel space f true now c with
      | none => none
      | some (c, .ok) => some (record c, .ok)
      | some (c, status) => some (c, status)) = some (c', status)) : Unheard c c' := by
  split at h
  · cases h
  · rename_i c₁ hsent
    obtain ⟨rfl, -⟩ := Prod.mk.inj (Option.some.inj h)
    obtain ⟨htrace, hpeer, hclose⟩ := sendControlFrame_unheard hkeys hsent
    have h₁ := hrecord c₁
    exact ⟨h₁.trace.trans htrace, h₁.peerClosed.trans hpeer, h₁.close.trans hclose⟩
  · rename_i c₁ status₁ _ hsent
    obtain ⟨rfl, -⟩ := Prod.mk.inj (Option.some.inj h)
    exact sendControlFrame_unheard hkeys hsent

/-- A frame that is still processed when the connection is over. -/
lemma visitFrame_unheard {visit : Visit} {f : Frame} {reply : VisitReply} (hc : Draining c)
    (hguard : (Operation.frame visit f).unguarded c = false)
    (h : visitFrame env fuel visit f c = some (c', reply)) : Unheard c c' := by
  have hcounted : Draining (countFrame f c) := ⟨hc.peerClosed, hc.close⟩
  have hcommon := closeCommon_of_closed hc.close
  unfold visitFrame at h
  simp only at h
  split at h
  · obtain ⟨rfl, -⟩ := Prod.mk.inj (Option.some.inj h)
    exact ⟨rfl, rfl, rfl⟩
  rename_i hignored
  split at h
  · rw [closeWith_of_closed hcounted.closed] at h
    obtain ⟨rfl, -⟩ := Prod.mk.inj (Option.some.inj h)
    exact ⟨rfl, rfl, rfl⟩
  rename_i hforbidden
  have haccepted : quicCloseAcceptsFrameType (wireTypeOf f) = true := by
    unfold frameIgnored at hignored
    rw [hcounted.closed] at hignored
    simpa using hignored
  cases f with
  | padding | ping =>
    obtain ⟨rfl, -⟩ := Prod.mk.inj (Option.some.inj h)
    exact ⟨rfl, rfl, rfl⟩
  | connectionCloseTransport f | connectionCloseApplication f =>
    obtain ⟨rfl, -⟩ := Prod.mk.inj (Option.some.inj h)
    exact ⟨rfl, hc.peerClosed.symm, hcommon _ _ _ _ _ _⟩
  | pathResponse data =>
    obtain ⟨rfl, -⟩ := Prod.mk.inj (Option.some.inj h)
    split
    · exact ⟨rfl, rfl, rfl⟩
    · exact ⟨rfl, rfl, rfl⟩
  | pathChallenge data =>
    have hspace : visit.space = .application := by
      simpa [frameForbiddenInSpace] using hforbidden
    have hkeys : c.keysOut .application = none := by
      simpa [Operation.unguarded, hspace] using hguard
    have hkeys : (countFrame (.pathChallenge data) c).keysOut .application = none := hkeys
    unfold actOnFrame at h
    simp only at h
    split at h
    · cases h
    · rename_i c₁ hsent
      obtain ⟨rfl, -⟩ := Prod.mk.inj (Option.some.inj h)
      obtain ⟨htrace, hpeer, hclose⟩ := sendControlFrame_unheard hkeys hsent
      exact ⟨htrace, hpeer, hclose⟩
    · rename_i c₁ status₁ _ hsent
      obtain ⟨rfl, -⟩ := Prod.mk.inj (Option.some.inj h)
      obtain ⟨htrace, hpeer, hclose⟩ := sendControlFrame_unheard hkeys hsent
      exact ⟨htrace, hpeer, hclose⟩
  | _ => cases haccepted

/-- The layer above returns to a connection that is over. -/
lemma handlerReturned_unheard {visit : Visit} {f : Frame} (hc : Draining c) :
    Unheard c (handlerReturned visit f status c).1 := by
  unfold handlerReturned
  split
  · exact .refl c
  simp only
  split
  · exact ⟨rfl, rfl, closeCommon_of_closed hc.close _ _ _ _ _ _⟩
  · rw [closeWith_of_closed (by exact hc.closed)]
    exact ⟨rfl, rfl, rfl⟩

/-- Resetting a stream, in a connection without keys. -/
lemma resetWith_unheard {streamId : ℕ} {frame : Stream → Frame}
    (hguard : (quicStreamTableFind c.streams streamId).any
      (fun stream => (quicStreamOnResetSent stream).isOk) = false ∨
        c.keysOut .application = none)
    (h : resetWith env fuel streamId now frame c = some (c', status)) : Unheard c c' := by
  unfold resetWith at h
  split at h
  · exact unheard_of_some_eq h
  rename_i stream hfind
  split at h
  · exact unheard_of_some_eq h
  rename_i stream' hreset
  have hkeys : c.keysOut .application = none := by
    rcases hguard with hguard | hkeys
    · simp [hfind, hreset, Except.isOk, Except.toBool] at hguard
    · exact hkeys
  obtain ⟨htrace, hpeer, hclose⟩ := sendControlFrame_unheard (by exact hkeys) h
  exact ⟨htrace, hpeer, hclose⟩

lemma quicConnectionResetStream_unheard {streamId errorCode : ℕ}
    (hguard : (Operation.resetStream streamId errorCode).unguarded c = false)
    (h : quicConnectionResetStream env fuel streamId errorCode now c = some (c', status)) :
    Unheard c c' := by
  unfold quicConnectionResetStream at h
  split_ifs at h with hset hfind hsends
  · exact unheard_of_some_eq h
  · exact unheard_of_some_eq h
  · exact unheard_of_some_eq h
  · refine resetWith_unheard ?_ h
    simp only [Operation.unguarded, Bool.and_eq_false_iff] at hguard
    simp only [Bool.not_eq_true', Bool.not_eq_false] at hset hsends
    rcases hguard with ((hguard | hguard) | hguard) | hguard
    · rw [hset] at hguard
      cases hguard
    · exact .inl hguard
    · rw [hsends] at hguard
      cases hguard
    · exact .inr (by simpa using hguard)

lemma quicConnectionResetStreamAt_unheard {streamId errorCode reliableSize : ℕ}
    (hguard : (Operation.resetStreamAt streamId errorCode reliableSize).unguarded c = false)
    (h : quicConnectionResetStreamAt env fuel streamId errorCode reliableSize now c =
      some (c', status)) : Unheard c c' := by
  unfold quicConnectionResetStreamAt at h
  split at h
  · exact unheard_of_some_eq h
  rename_i hset
  split at h
  · exact unheard_of_some_eq h
  rename_i hallowed
  split at h
  · exact unheard_of_some_eq h
  rename_i stream hfind
  split_ifs at h with hsends hsize
  · exact unheard_of_some_eq h
  · exact unheard_of_some_eq h
  · refine resetWith_unheard ?_ h
    simp only [Bool.not_eq_true', Bool.not_eq_false] at hset hallowed hsends
    have hsize : reliableSize ≤ stream.sendOffset := not_lt.mp hsize
    rw [hfind]
    simp only [Operation.unguarded, hset, hallowed, hfind, hsends, hsize, Option.any_some,
      decide_true, Bool.true_and, Bool.and_true, Bool.and_eq_false_iff] at hguard ⊢
    rcases hguard with hguard | hguard
    · exact .inl hguard
    · exact .inr (by simpa using hguard)

lemma quicConnectionStopSending_unheard {streamId errorCode : ℕ}
    (hguard : (Operation.stopSending streamId errorCode).unguarded c = false)
    (h : quicConnectionStopSending env fuel streamId errorCode now c = some (c', status)) :
    Unheard c c' := by
  unfold quicConnectionStopSending at h
  split at h
  · exact unheard_of_some_eq h
  rename_i hset
  split at h
  · exact unheard_of_some_eq h
  rename_i stream hfind
  split_ifs at h with hours hasked hfinished
  · exact unheard_of_some_eq h
  · exact unheard_of_some_eq h
  · exact unheard_of_some_eq h
  have hkeys : c.keysOut .application = none := by
    simp only [Bool.not_eq_true', Bool.not_eq_false] at hset
    have hours : (quicStreamIdIsBidirectional streamId ||
        decide (quicStreamIdFromClient streamId ≠ decide (c.config.role = .client))) = true := by
      simpa [or_iff_not_imp_left] using hours
    simp only [Operation.unguarded, hset, hfind, hours, Option.any_some, hasked, hfinished,
      Bool.not_false, Bool.true_and] at hguard
    simpa using hguard
  simp only at h
  split at h
  · cases h
  · rename_i c₁ hsent
    obtain ⟨rfl, -⟩ := Prod.mk.inj (Option.some.inj h)
    obtain ⟨htrace, hpeer, hclose⟩ := sendControlFrame_unheard (by exact hkeys) hsent
    exact ⟨htrace, hpeer, hclose⟩
  · rename_i c₁ status₁ _ hsent
    obtain ⟨rfl, -⟩ := Prod.mk.inj (Option.some.inj h)
    obtain ⟨htrace, hpeer, hclose⟩ := sendControlFrame_unheard (by exact hkeys) hsent
    exact ⟨htrace, hpeer, hclose⟩

/-- The ID of the peer that is in use cannot be given up any more. -/
lemma quicConnectionUseNewConnectionId_unheard (hc : Draining c)
    (h : quicConnectionUseNewConnectionId env fuel now c = some (c', status)) : Unheard c c' := by
  have hadopted : ∀ slot, Unheard c (adoptStoredPeerId slot c) := by
    intro slot
    unfold adoptStoredPeerId adoptPeerConnectionId
    split
    · exact .refl c
    · simp only
      split
      · exact ⟨rfl, rfl, rfl⟩
      · exact ⟨rfl, rfl, rfl⟩
  unfold quicConnectionUseNewConnectionId at h
  split at h
  · exact unheard_of_some_eq h
  rename_i slot _
  simp only at h
  split at h
  · obtain ⟨rfl, -⟩ := Prod.mk.inj (Option.some.inj h)
    exact hadopted slot
  · unfold forgetPeerConnectionId at h
    rw [quicConnectionSendFrame_draining ((hadopted slot).draining hc)] at h
    split at h
    · obtain ⟨rfl, -⟩ := Prod.mk.inj (Option.some.inj h)
      exact hadopted slot
    · obtain ⟨rfl, -⟩ := Prod.mk.inj (Option.some.inj h)
      exact hadopted slot

/-- An operation on a connection that is over, unless it does not ask, sends nothing. -/
lemma Operation.call_unheard {op : Operation} (hc : Draining c) (hguard : op.unguarded c = false)
    (h : op.call env fuel now c = some (c', status)) : Unheard c c' := by
  cases op with
  | frame visit f =>
    obtain ⟨⟨c₁, reply⟩, hvisit, heq⟩ := Option.map_eq_some_iff.mp h
    obtain ⟨rfl, -⟩ := Prod.mk.inj heq
    exact visitFrame_unheard hc hguard hvisit
  | handled visit f status' =>
    have hreturned : Unheard c (handlerReturned visit f status' c).1 := handlerReturned_unheard hc
    rw [Option.some.inj h] at hreturned
    exact hreturned
  | sendStream streamId offset data fin =>
    have h : quicConnectionSendStream env fuel streamId offset data fin now c = _ := h
    unfold quicConnectionSendStream at h
    split_ifs at h with hset hallowed
    · exact unheard_of_some_eq h
    · exact unheard_of_some_eq h
    · simp only [Bool.not_eq_true', Bool.not_eq_false] at hset hallowed
      refine sendOneFrame_unheard ?_ h
      simpa [Operation.unguarded, hset, hallowed] using hguard
  | resetStream streamId errorCode => exact quicConnectionResetStream_unheard hguard h
  | resetStreamAt streamId errorCode reliableSize =>
    exact quicConnectionResetStreamAt_unheard hguard h
  | stopSending streamId errorCode => exact quicConnectionStopSending_unheard hguard h
  | sendDatagram data =>
    have h : quicConnectionSendDatagram env fuel data now c = _ := h
    unfold quicConnectionSendDatagram at h
    split_ifs at h with hset hoffered hlength
    · exact unheard_of_some_eq h
    · exact unheard_of_some_eq h
    · exact unheard_of_some_eq h
    · simp only [Bool.not_eq_true', Bool.not_eq_false] at hset
      refine sendControlFrame_unheard ?_ h
      simpa [Operation.unguarded, hset, hoffered, not_lt.mp hlength] using hguard
  | sendMaxData maximum =>
    have h : quicConnectionSendMaxData env fuel maximum now c = _ := h
    unfold quicConnectionSendMaxData at h
    split_ifs at h with hset hlower
    · exact unheard_of_some_eq h
    · exact unheard_of_some_eq h
    · simp only [Bool.not_eq_true', Bool.not_eq_false] at hset
      refine announced_unheard ?_ (fun c => { c with localMaxData := maximum })
        (fun c => ⟨rfl, rfl, rfl⟩) h
      simpa [Operation.unguarded, hset, not_lt.mp hlower] using hguard
  | sendMaxStreams direction maximum =>
    have h : quicConnectionSendMaxStreams env fuel direction maximum now c = _ := h
    unfold quicConnectionSendMaxStreams at h
    split_ifs at h with hset hlower
    · exact unheard_of_some_eq h
    · exact unheard_of_some_eq h
    · simp only [Bool.not_eq_true', Bool.not_eq_false] at hset
      refine announced_unheard ?_
        (fun c => { c with localMaxStreams := Function.update c.localMaxStreams direction maximum })
        (fun c => ⟨rfl, rfl, rfl⟩) h
      simpa [Operation.unguarded, hset, not_lt.mp hlower] using hguard
  | sendCrypto space offset data =>
    have h : quicConnectionSendCrypto env fuel space offset data now c = _ := h
    unfold quicConnectionSendCrypto at h
    split_ifs at h with hempty
    · exact unheard_of_some_eq h
    · refine sendOneFrame_unheard ?_ h
      simpa [Operation.unguarded, hempty] using hguard
  | sendFrame space f ackEliciting =>
    have h : quicConnectionSendFrame env fuel space f ackEliciting now c = _ := h
    rw [quicConnectionSendFrame_draining hc] at h
    exact unheard_of_some_eq h
  | issueConnectionId id resetToken =>
    have h : quicConnectionIssueConnectionId env fuel id resetToken now c = _ := h
    unfold quicConnectionIssueConnectionId at h
    split at h
    · exact unheard_of_some_eq h
    rename_i hlength
    split at h
    · exact unheard_of_some_eq h
    rename_i hsame
    split at h
    · exact unheard_of_some_eq h
    rename_i hset
    split at h
    · exact unheard_of_some_eq h
    rename_i hissued
    split at h
    · exact unheard_of_some_eq h
    rename_i slot hslot
    split at h
    · exact unheard_of_some_eq h
    rename_i hroom
    refine announced_unheard ?_
      (fun c => { c with
        issuedIds := Function.update c.issuedIds slot (some ⟨c.nextIssuedSequence, id, resetToken⟩)
        issuedCount := c.issuedCount + 1
        nextIssuedSequence := c.nextIssuedSequence + 1 }) (fun c => ⟨rfl, rfl, rfl⟩) h
    have hpos : 0 < id.length := by omega
    have hmax : id.length ≤ quicMaxConnectionIdLength := by omega
    have hsame : id.length = c.config.localConnectionId.length := not_not.mp hsame
    have hset : c.peerLimits.set = true := by simpa using hset
    have hissued : (idSlot c.issuedIds (·.id = id)).isNone = true := by simpa using hissued
    have hroom : c.issuedCount < c.peerLimits.activeConnectionIdLimit - 1 := not_le.mp hroom
    simp only [Operation.unguarded, hpos, hmax, hset, hissued, hslot, hroom, decide_true,
      Bool.true_and, Option.isSome_some, Bool.and_true] at hguard
    rw [decide_eq_true hsame] at hguard
    simpa using hguard
  | useNewConnectionId => exact quicConnectionUseNewConnectionId_unheard hc h
  | retirePeerConnectionId sequence =>
    have h : quicConnectionRetirePeerConnectionId env fuel sequence now c = _ := h
    unfold quicConnectionRetirePeerConnectionId at h
    rw [if_pos hc.closed] at h
    exact unheard_of_some_eq h
  | validatePath =>
    have h : quicConnectionValidatePath env fuel now c = _ := h
    unfold quicConnectionValidatePath at h
    rw [if_pos hc.closed] at h
    exact unheard_of_some_eq h
  | flush =>
    have h : quicConnectionFlush env fuel now c = _ := h
    unfold quicConnectionFlush at h
    rw [if_pos hc.closed, if_neg (by simp [hc.peerClosed])] at h
    exact unheard_of_some_eq h
  | onTimeout =>
    have h : quicConnectionOnTimeout env fuel now c = _ := h
    unfold quicConnectionOnTimeout at h
    rw [if_pos hc.close] at h
    exact unheard_of_some_eq h

/-! ## Runs -/

/-- A run from a state: operations that meet a condition where they are called, and changes of
other parts of the connection in between. -/
inductive OperationRun (env : Env) (Meets : Operation → Connection → Prop) (c₀ : Connection) :
    Connection → Prop
  | start : OperationRun env Meets c₀ c₀
  | call {c c' : Connection} {fuel now : ℕ} {status : Status} (h : OperationRun env Meets c₀ c)
      (op : Operation) (hmeets : Meets op c) (hcall : op.call env fuel now c = some (c', status)) :
      OperationRun env Meets c₀ c'
  | other {c c' : Connection} (h : OperationRun env Meets c₀ c) (hother : Unheard c c') :
      OperationRun env Meets c₀ c'

lemma visitFrame_close {visit : Visit} {f : ConnectionCloseFrame} {frame : Frame}
    {reply : VisitReply}
    (hframe : frame = .connectionCloseTransport f ∨ frame = .connectionCloseApplication f)
    (h : visitFrame env fuel visit frame c = some (c', reply)) : Draining c' := by
  have haccepted : frameIgnored frame (countFrame frame c) = false ∧
      frameForbiddenInSpace frame visit.space = false := by
    rcases hframe with rfl | rfl
    · exact ⟨Bool.and_false _, rfl⟩
    · exact ⟨Bool.and_false _, rfl⟩
  unfold visitFrame at h
  simp only [haccepted, if_false, Bool.false_eq_true] at h
  rcases hframe with rfl | rfl
  · obtain ⟨rfl, -⟩ := Prod.mk.inj (Option.some.inj h)
    exact ⟨rfl, quicCloseTransport_isClosed _ _ _ _ _⟩
  · obtain ⟨rfl, -⟩ := Prod.mk.inj (Option.some.inj h)
    exact ⟨rfl, quicCloseTransport_isClosed _ _ _ _ _⟩

/-- Operations that are guarded keep a connection silent that its peer has closed. -/
lemma OperationRun.unheard {c₀ : Connection} (h₀ : Draining c₀)
    (h : OperationRun env (fun op c => op.unguarded c = false) c₀ c) : Unheard c₀ c := by
  induction h with
  | start => exact .refl c₀
  | call _ op hmeets hcall ih =>
    have hstep := Operation.call_unheard (ih.draining h₀) hmeets hcall
    exact ⟨hstep.trace.trans ih.trace, hstep.peerClosed.trans ih.peerClosed,
      hstep.close.trans ih.close⟩
  | other _ hother ih =>
    exact ⟨hother.trace.trans ih.trace, hother.peerClosed.trans ih.peerClosed,
      hother.close.trans ih.close⟩

/-- After the peer's close, a run in which no operation sends without having asked puts nothing on
the wire. -/
theorem draining_is_silent {visit : Visit} {f : ConnectionCloseFrame} {frame : Frame}
    {reply : VisitReply} {c₀ c₁ : Connection}
    (hframe : frame = .connectionCloseTransport f ∨ frame = .connectionCloseApplication f)
    (hclose : visitFrame env fuel visit frame c₀ = some (c₁, reply))
    (hrun : OperationRun env (fun op c => op.unguarded c = false) c₁ c) : c.trace = c₁.trace :=
  (hrun.unheard (visitFrame_close hframe hclose)).trace

end Silence

/-! ## A challenge after the close -/

section Challenge

/-- The close of a peer without an error. -/
def peerClose : ConnectionCloseFrame :=
  { hasFrameType := false, errorCode := 0, frameType := 0, reason := [] }

/-- A server that has processed it. -/
def closedByPeer : Connection :=
  ((visitFrame steadyEnv 1 ⟨.application, 0, 0⟩ (.connectionCloseTransport peerClose)
    keyedServer).map Prod.fst).getD keyedServer

/-- The server after an operation. -/
def afterOperation (op : Operation) (c : Connection) : Connection :=
  ((op.call steadyEnv 1 1 c).map Prod.fst).getD c

/-- A PING is received and left unanswered. -/
theorem closed_server_stays_silent :
    closedByPeer.peerClosed = true ∧
      (afterOperation .flush (afterOperation (.frame ⟨.application, 1, 0⟩ .ping)
        closedByPeer)).trace = closedByPeer.trace := by
  have hclose : visitFrame steadyEnv 1 ⟨.application, 0, 0⟩ (.connectionCloseTransport peerClose)
      keyedServer = some (closedByPeer, .returned .ok) := rfl
  have hping : (Operation.frame ⟨.application, 1, 0⟩ .ping).call steadyEnv 1 1 closedByPeer =
      some (afterOperation (.frame ⟨.application, 1, 0⟩ .ping) closedByPeer, .ok) := rfl
  have hflush : Operation.flush.call steadyEnv 1 1
      (afterOperation (.frame ⟨.application, 1, 0⟩ .ping) closedByPeer) =
      some (afterOperation .flush (afterOperation (.frame ⟨.application, 1, 0⟩ .ping)
        closedByPeer), .ok) := rfl
  have hrun : OperationRun steadyEnv (fun op c => op.unguarded c = false) closedByPeer _ :=
    (OperationRun.start.call _ rfl hping).call _ rfl hflush
  exact ⟨rfl, draining_is_silent (.inl rfl) hclose hrun⟩

/-- A PATH_CHALLENGE is answered by a connection that its peer has closed. -/
theorem closed_server_answers_challenge :
    closedByPeer.peerClosed = true ∧ closedByPeer.trace = [] ∧
      ((Operation.frame ⟨.application, 1, 0⟩ (.pathChallenge (List.replicate 8 7))).call steadyEnv
        1 1 closedByPeer).map (fun result => result.1.trace) =
          some [.sent .application 0 (some (.pathResponse (List.replicate 8 7)))
            (0x1b :: List.replicate 8 7)] := by
  refine ⟨rfl, rfl, ?_⟩
  decide +kernel

end Challenge

end WebTransport
