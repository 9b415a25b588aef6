import WebTransport.Quic.ConnectionDatagram

/-!
# What a call consists of

Every call on a connection, and every frame that arrives, comes down to a few steps that matter to
what is sent: a frame is sent, a flagged control frame is sent again, an acknowledgement is walked
over, losses are looked for. In between, a call changes what these steps never read, or closes the
connection.
-/

namespace WebTransport

/-- A connection without what sending and receiving packets never reads: the streams and their
limits, the connection IDs, the path validation, and the notes for diagnostics. -/
def Connection.sending (c : Connection) : Connection :=
  { c with
    config := { c.config with peerConnectionId := [] }
    peerLimits := {}
    localMaxData := 0
    localMaxDataSet := false
    localMaxStreams := fun _ => 0
    localMaxStreamsSet := fun _ => false
    issuedIds := fun _ => none
    issuedCount := 0
    nextIssuedSequence := 0
    peerIds := fun _ => none
    peerIdCount := 0
    currentPeerSequence := none
    retireCurrentAfterStore := false
    streams := {}
    flow := quicFlowInit 0 0
    pathValidating := false
    pathChallengePending := false
    pathChallenge := []
    pathValidationAttempts := 0
    pathValidationDeadline := 0
    pathValidated := false
    closeHint := none
    closeCause := .ok
    closeCauseFrame := 0
    closeSent := false
    closeFrameSent := false
    counters := {}
    randomCalls := 0 }

/-- One step of a call at a time, where `A` says which ACK frames may arrive in which space. -/
inductive CallStep (env : Env) (now : ℕ) (A : Space → AckFrame → Prop) (c : Connection) :
    Connection → Prop
  | other {c' : Connection} (h : c'.sending = c.sending) : CallStep env now A c c'
  | close (errorCode frameType time pto : ℕ) (h : errorCode ≠ quicKeyUpdateError) :
      CallStep env now A c
        { c with close := (quicCloseTransport c.close errorCode frameType [] time pto).1 }
  | closeApplication (errorCode time pto : ℕ) :
      CallStep env now A c { c with close := (quicCloseApplication c.close errorCode [] time pto).1 }
  | peerClose (f : ConnectionCloseFrame) (time : ℕ) :
      CallStep env now A c (handleConnectionClose f time c).1
  | sendOne {fuel : ℕ} {space : Space} {frame : Frame} {ackEliciting : Bool}
      {descriptor : Option Descriptor} {status : Status} {c' : Connection}
      (hframe : ∀ f, frame ≠ .ack f)
      (hdescriptor : ∀ d ∈ descriptor, d.streamId ≠ quicControlStreamId)
      (h : sendOneFrame env fuel space frame ackEliciting descriptor now c = some (c', status)) :
      CallStep env now A c c'
  | sendControl {fuel : ℕ} {space : Space} {frame : Frame} {ackEliciting : Bool} {status : Status}
      {c' : Connection}
      (hframe : ∀ f, frame = .ack f →
        ∃ delay, quicAckBuild (c.spaces space).received delay quicConnectionAckRangesMax = .ok f)
      (h : sendControlFrame env fuel space frame ackEliciting now c = some (c', status)) :
      CallStep env now A c c'
  | resume {fuel slot : ℕ} {c' : Connection} (hslot : (c.controlFrames slot).inUse = true)
      (hpending : (c.controlFrames slot).resendPending = true) (hmax : slot < quicControlFramesMax)
      (h : resumeControlFrame env fuel slot now c = some c') : CallStep env now A c c'
  | acked {space : Space} {f : AckFrame} (hf : A space f) (hvalid : validateAck f = .ok)
      (hsent : (c.spaces space).hasSent = true) (hlargest : f.largest < (c.spaces space).nextSend) :
      CallStep env now A c (ackSample space f now (ackWalk space f c)).1
  | detect {fuel largest : ℕ} {space : Space} {c' : Connection}
      (h : detectLost (sendPacket env fuel) fuel space now largest c = some c') :
      CallStep env now A c c'
  | timeout : CallStep env now A c { c with loss := quicLossOnPto c.loss }
  | report (descriptor : TxFrame) : CallStep env now A c (c.observe (.lostFrame descriptor))
  | acknowledged (space : Space) : CallStep env now A c (acknowledged space c)

end WebTransport
