import WebTransport.Quic.AckCoverage
import WebTransport.Quic.ConnectionSend

/-!
# Acknowledgements and timers

What an ACK frame does to a connection and what its timers do when they fire
(`quic/connection_loss.c`), with the flush that sends what is owed (`quic/connection_send.c`).
-/

namespace WebTransport

/-! ## An acknowledgement -/

/-- What the walk over the sent packets has gathered: the connection so far, and the largest
newly acknowledged number with its send time. -/
structure AckWalk where
  connection : Connection
  largest : Option (ℕ × ℕ) := none

/-- Give back the descriptor of an acknowledged packet, with the slot of a control frame. -/
def releaseAcked (tag : ℕ) (c : Connection) : Connection :=
  if tag < quicConnectionFramesMax then
    let f := c.frames tag
    let c :=
      if f.streamId = quicControlStreamId ∧ f.offset < quicControlFramesMax then
        c.setControl f.offset
          { c.controlFrames f.offset with inUse := false, resendPending := false }
      else c
    freeFrame c tag
  else c

/-- One packet of the snapshot. The packet that leaves the list is the one of the frame's
space with this number; everything else is taken from the snapshot's entry. -/
def ackEntry (space : Space) (f : AckFrame) (w : AckWalk) (packet : SentPacket) : AckWalk :=
  if !ackCovers f packet.packetNumber then w
  else
    let r := quicLossOnAck w.connection.loss space.index packet.packetNumber
    if !r.2 then w
    else
      let c := { w.connection with
        loss := r.1
        congestion :=
          if packet.inFlight then
            quicCongestionOnAck w.connection.congestion packet.size packet.timeSent
          else w.connection.congestion
        counters := { w.connection.counters with
          packetsAcked := Function.update w.connection.counters.packetsAcked space
            (w.connection.counters.packetsAcked space + 1) } }
      { connection := releaseAcked packet.tag c
        largest :=
          match w.largest with
          | none => some (packet.packetNumber, packet.timeSent)
          | some (number, time) =>
            if number < packet.packetNumber then some (packet.packetNumber, packet.timeSent)
            else some (number, time) }

/-- The walk over the packets that were listed when the frame arrived. -/
def ackWalk (space : Space) (f : AckFrame) (c : Connection) : AckWalk :=
  c.loss.sent.foldl (ackEntry space f) { connection := c }

/-- The round trip sample of an acknowledgement, the largest acknowledged number and the
confirmation of a key update. -/
def ackSample (space : Space) (f : AckFrame) (now : ℕ) (w : AckWalk) : Connection × Status :=
  match w.largest with
  | none => (w.connection, .ok)
  | some (number, time) =>
    let c := w.connection
    let s := c.spaces space
    let s := { s with
      rtt := quicRttUpdate s.rtt (u64Sub now time) f.delay (maxAckDelayFor c space)
        c.handshakeConfirmed }
    match quicPnSpaceOnAck s number with
    | .error status => (c.setSpace space s, status)
    | .ok s =>
      let c := c.setSpace space s
      if space = .application ∧ c.keyPhaseFirstPn.any (· ≤ number) then
        ({ c with keyUpdateAwaitingConfirmation := false, previousKeysIn := none }, .ok)
      else (c, .ok)

/-- An ACK frame arrived in a space. -/
def handleAck (env : Env) (fuel : ℕ) (space : Space) (f : AckFrame) (now : ℕ) (c : Connection) :
    Option (Connection × Status) :=
  if validateAck f ≠ .ok then some (closeWith c quicFrameEncodingError 0x02 now)
  else if !(c.spaces space).hasSent ∨ (c.spaces space).nextSend ≤ f.largest then
    some (closeWith c quicProtocolViolation 0x02 now)
  else
    match ackSample space f now (ackWalk space f c) with
    | (c, .ok) =>
      (detectLost (sendPacket env fuel) fuel space now f.largest c).map fun c => (c, .ok)
    | (c, status) => some (c, status)

/-! ## Sending what is owed -/

/-- `WT_QUIC_CONNECTION_ACK_RANGES_MAX`. -/
def quicConnectionAckRangesMax : ℕ := 256

/-- An acknowledgement went out. -/
def acknowledged (space : Space) (c : Connection) : Connection :=
  c.setSpace space
    { c.spaces space with received := quicAckSent (c.spaces space).received }

/-- Whether the acknowledgement a space owes may still wait. -/
def ackMayWait (c : Connection) (space : Space) (force : Bool) (now : ℕ) : Bool :=
  let received := (c.spaces space).received
  !received.ackPending || received.ackElicitingSinceAck = 0 ||
    !force && !quicAckShouldSend received &&
      decide (now < u64Add (c.receivedAt space) (ackDelayFor c space))

/-- Send the probe or the acknowledgement a space owes. -/
def flushSpace (env : Env) (fuel : ℕ) (space : Space) (probe force : Bool) (now : ℕ)
    (c : Connection) : Option (Connection × Status) :=
  if (c.keysOut space).isNone then some (c, .ok)
  else if quicConnectionIsClosed c then some (c, .ok)
  else if probe then sendControlFrame env fuel space .ping true now c
  else if ackMayWait c space force now then some (c, .ok)
  else
    let delay := if c.receivedAt space ≤ now then now - c.receivedAt space else 0
    match quicAckBuild (c.spaces space).received delay quicConnectionAckRangesMax with
    | .error status => some (c, status)
    | .ok f =>
      match sendControlFrame env fuel space (.ack f) false now c with
      | none => none
      | some (c, .ok) => some (acknowledged space c, .ok)
      | some (c, status) => some (c, status)

/-- Send the challenge of a path that is being validated. -/
def flushPathChallenge (env : Env) (fuel : ℕ) (now : ℕ) (c : Connection) :
    Option (Connection × Status) :=
  if !c.pathChallengePending then some (c, .ok)
  else if (c.keysOut .application).isNone then some (c, .ok)
  else
    match sendControlFrame env fuel .application (.pathChallenge c.pathChallenge) true now c with
    | none => none
    | some (c, .ok) =>
      some ({ c with
        pathChallengePending := false
        counters := { c.counters with pathChallengesSent := c.counters.pathChallengesSent + 1 } },
        .ok)
    | some (c, status) => some (c, status)

/-- Run steps in order until one fails. -/
def inOrder (steps : List (Connection → Option (Connection × Status))) (c : Connection) :
    Option (Connection × Status) :=
  match steps with
  | [] => some (c, .ok)
  | step :: steps =>
    match step c with
    | none => none
    | some (c, .ok) => inOrder steps c
    | some (c, status) => some (c, status)

/-- Announce a close in the highest space that has keys. -/
def flushClose (env : Env) (fuel : ℕ) (now : ℕ) (c : Connection) : Option (Connection × Status) :=
  match Space.all.reverse.find? fun space => (c.keysOut space).isSome with
  | none => some (c, .ok)
  | some space =>
    match quicCloseFrame c.close with
    | .error status => some (c, status)
    | .ok frame =>
      match sendControlFrame env fuel space frame false now c with
      | none => none
      | some (c, .ok) => some ({ c with closeSent := true, closeFrameSent := true }, .ok)
      | some (c, status) => some (c, status)

/-- Send everything that is owed. -/
def quicConnectionFlush (env : Env) (fuel : ℕ) (now : ℕ) (c : Connection) :
    Option (Connection × Status) :=
  if quicConnectionIsClosed c then
    if !c.closeSent ∧ !c.peerClosed then flushClose env fuel now c else some (c, .ok)
  else
    inOrder
      (Space.all.map (fun space => flushSpace env fuel space false false now) ++
        [fun c => (resumePendingControlFrames env fuel now c).map fun c => (c, .ok),
          flushPathChallenge env fuel now]) c

/-! ## The timer -/

/-- When a space would send a probe. -/
def probeTime (c : Connection) (space : Space) : Option ℕ :=
  match quicLossPto c.loss space.index (c.spaces space).rtt (maxAckDelayFor c space) with
  | .ok time => some time
  | .error _ =>
    if c.loss.ackElicitingInFlight = 0 then none
    else
      let sent := (c.loss.sent.filter (·.ackEliciting)).map (·.timeSent)
      sent.min?.map fun earliest =>
        u64Add earliest (quicConnectionInitialPto * 2 ^ min c.loss.ptoCount 8)

/-- The loss timer of one space. -/
def lossTimer (env : Env) (fuel : ℕ) (space : Space) (now : ℕ) (c : Connection) :
    Option (Connection × Status) :=
  let acked := (c.spaces space).ackedSoFar
  let time := quicLossTime c.loss space.index (c.spaces space).rtt acked
  if time ≠ 0 ∧ time ≤ now then
    (detectLost (sendPacket env fuel) fuel space now acked c).map fun c => (c, .ok)
  else some (c, .ok)

/-- The acknowledgement timer of one space. -/
def ackTimer (env : Env) (fuel : ℕ) (space : Space) (now : ℕ) (c : Connection) :
    Option (Connection × Status) :=
  let received := (c.spaces space).received
  if received.ackPending ∧ received.ackElicitingSinceAck ≠ 0 ∧
      u64Add (c.receivedAt space) (ackDelayFor c space) ≤ now then
    flushSpace env fuel space false true now c
  else some (c, .ok)

/-- `WT_QUIC_PATH_VALIDATION_ATTEMPTS`. -/
def quicPathValidationAttempts : ℕ := 3

/-- Draw the payload of a new challenge. -/
def armPathChallenge (env : Env) (c : Connection) : Connection × Status :=
  let drawn := { c with randomCalls := c.randomCalls + 1 }
  match env.randomBytes c.randomCalls with
  | .error status => (drawn, status)
  | .ok bytes => ({ drawn with pathChallenge := bytes, pathChallengePending := true }, .ok)

/-- The timer of a path validation: another challenge, or giving up. -/
def pathValidationOnTimeout (env : Env) (fuel : ℕ) (now : ℕ) (c : Connection) :
    Option (Connection × Status) :=
  if !c.pathValidating then some (c, .ok)
  else if now < c.pathValidationDeadline then some (c, .ok)
  else if quicPathValidationAttempts ≤ c.pathValidationAttempts then
    some ({ c with
      pathValidating := false
      pathChallengePending := false
      counters := { c.counters with
        pathValidationFailures := c.counters.pathValidationFailures + 1 } }, .ok)
  else
    let c := { c with
      pathValidationAttempts := c.pathValidationAttempts + 1
      pathValidationDeadline := u64Add now (ptoOf c) }
    match armPathChallenge env c with
    | (c, .ok) => flushPathChallenge env fuel now c
    | (c, status) => some (c, status)

/-- The space whose probe is due first. -/
def probeSpace (c : Connection) (now : ℕ) : Option (Space × ℕ) :=
  Space.all.foldl
    (fun earliest space =>
      if (c.keysOut space).isNone then earliest
      else
        match probeTime c space with
        | none => earliest
        | some pto =>
          if pto ≤ now ∧ earliest.all (fun e => pto < e.2) then some (space, pto) else earliest)
    none

/-- The descriptor of the oldest outstanding packet of a space that has one. -/
def oldestDescriptor (c : Connection) (space : Space) : Option TxFrame :=
  let candidates := c.loss.sent.filter fun p =>
    p.packetNumberSpace = space.index ∧ p.ackEliciting ∧ p.tag < quicConnectionFramesMax ∧
      (c.frames p.tag).inUse
  (candidates.argmin (·.timeSent)).map fun p => c.frames p.tag

/-- The probe timeout: the oldest outstanding frame is reported, and a probe goes out. -/
def probeTimer (env : Env) (fuel : ℕ) (now : ℕ) (c : Connection) : Option (Connection × Status) :=
  match probeSpace c now with
  | none => some (c, .ok)
  | some (space, _) =>
    let c :=
      match oldestDescriptor c space with
      | none => c
      | some descriptor => c.observe (.lostFrame descriptor)
    flushSpace env fuel space true false now { c with loss := quicLossOnPto c.loss }

/-- Do what the deadline was armed for. -/
def quicConnectionOnTimeout (env : Env) (fuel : ℕ) (now : ℕ) (c : Connection) :
    Option (Connection × Status) :=
  if quicCloseIsClosed c.close then some (c, .ok)
  else if idleTimeoutOf c ≠ 0 ∧ u64Add c.lastActivity (idleTimeoutOf c) ≤ now then
    some ({ c with
      close := (quicCloseTransport c.close quicNoError 0 [] now (ptoOf c)).1
      closeSent := true }, .ok)
  else
    inOrder
      (Space.all.map (fun space => lossTimer env fuel space now) ++
        Space.all.map (fun space => ackTimer env fuel space now) ++
        [pathValidationOnTimeout env fuel now, probeTimer env fuel now]) c

end WebTransport
