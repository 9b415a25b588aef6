import WebTransport.Lib.IndexWalk
import WebTransport.Quic.PnSpace

/-!
# Loss detection

The list of sent packets and its counters (`quic/loss.c`). The array `sent[0 .. count)` is a
list, so `count` is its length.

The two loops that remove entries while they walk the list take a visitor. The library's
caller hands in a visitor that sends packets, and so changes the very list that is being
walked; the loops are therefore written over any state that holds a loss list, as instances
of `IndexWalk.run`. Removing an entry past the end of the list reads a dead array slot in
the source; the model gives it no result.
-/

namespace WebTransport

/-- `WT_QUIC_SENT_PACKETS_MAX`. -/
def quicSentPacketsMax : ℕ := 64
/-- `WT_QUIC_PACKET_THRESHOLD`. -/
def quicPacketThreshold : ℕ := 3
/-- `WT_QUIC_PTO_MAX_BACKOFF`. -/
def quicPtoMaxBackoff : ℕ := 16

/-- A packet that was sent (`wt_quic_sent_packet_t`). -/
structure SentPacket where
  packetNumberSpace : ℕ
  packetNumber : ℕ
  timeSent : ℕ
  size : ℕ
  tag : ℕ
  ackEliciting : Bool
  inFlight : Bool
deriving DecidableEq, Repr

/-- What identifies a packet: its space and its number within it. -/
def SentPacket.key (p : SentPacket) : ℕ × ℕ := (p.packetNumberSpace, p.packetNumber)

/-- The sent packets of a connection (`wt_quic_loss_t`). -/
structure Loss where
  sent : List SentPacket := []
  bytesInFlight : ℕ := 0
  ackElicitingInFlight : ℕ := 0
  ptoCount : ℕ := 0
  lossTime : ℕ := 0
deriving DecidableEq, Repr

/-- The state `wt_quic_loss_init` leaves. -/
def quicLossInit : Loss := {}

/-- The index of a packet, the length of the list when it is not listed. -/
def findPacket (loss : Loss) (space packetNumber : ℕ) : ℕ :=
  loss.sent.findIdx fun p => p.packetNumberSpace = space ∧ p.packetNumber = packetNumber

/-- Record a packet that was sent. -/
def quicLossOnSent (loss : Loss) (packet : SentPacket) : Except Status Loss :=
  if findPacket loss packet.packetNumberSpace packet.packetNumber ≠ loss.sent.length then
    .error .invalidArgument
  else if loss.sent.length = quicSentPacketsMax then .error .limit
  else
    .ok { loss with
      sent := loss.sent ++ [packet]
      bytesInFlight :=
        if packet.inFlight then u64Add loss.bytesInFlight packet.size else loss.bytesInFlight
      ackElicitingInFlight :=
        if packet.ackEliciting then loss.ackElicitingInFlight + 1
        else loss.ackElicitingInFlight }

/-- Take the packet at an index off the list and out of the counters. -/
def removePacket (loss : Loss) (i : ℕ) : Option Loss :=
  match loss.sent[i]? with
  | none => none
  | some packet =>
    some { loss with
      sent := loss.sent.eraseIdx i
      bytesInFlight :=
        if packet.inFlight then
          loss.bytesInFlight -
            (if packet.size ≤ loss.bytesInFlight then packet.size else loss.bytesInFlight)
        else loss.bytesInFlight
      ackElicitingInFlight :=
        if packet.ackEliciting && 0 < loss.ackElicitingInFlight then
          loss.ackElicitingInFlight - 1
        else loss.ackElicitingInFlight }

/-- Record that a packet was acknowledged: the list without it, and whether it was listed. -/
def quicLossOnAck (loss : Loss) (space packetNumber : ℕ) : Loss × Bool :=
  let i := findPacket loss space packetNumber
  match loss.sent[i]?, removePacket loss i with
  | some packet, some removed =>
    (if packet.ackEliciting then { removed with ptoCount := 0 } else removed, true)
  | _, _ => (loss, false)

/-- 9/8 of the larger of the smoothed and the latest round trip time. -/
def lossDelay (rtt : Rtt) : ℕ :=
  if !rtt.hasSample then 0
  else
    let base := if rtt.latest < rtt.smoothed then rtt.smoothed else rtt.latest
    base * 9 % 2 ^ 64 / 8

/-- One step of the search for the earliest loss deadline. -/
def earlierLoss (space delay largestAcked : ℕ) (earliest : ℕ) (packet : SentPacket) : ℕ :=
  let when' := u64Add packet.timeSent delay
  if packet.packetNumberSpace ≠ space then earliest
  else if largestAcked < packet.packetNumber then earliest
  else if u64Add packet.packetNumber quicPacketThreshold ≤ largestAcked then earliest
  else if earliest = 0 ∨ when' < earliest then when'
  else earliest

/-- When the next packet will be declared lost by the time threshold, `0` for never. -/
def quicLossTime (loss : Loss) (space : ℕ) (rtt : Rtt) (largestAcked : ℕ) : ℕ :=
  let delay := lossDelay rtt
  if delay = 0 then 0 else loss.sent.foldl (earlierLoss space delay largestAcked) 0

/-- The send time at or before which a packet is overdue. -/
def lostSendTime (rtt : Rtt) (now : ℕ) : ℕ :=
  if lossDelay rtt < now then now - lossDelay rtt else 0

/-- Whether the packet threshold or the time threshold declares a packet lost. -/
def packetLost (space : ℕ) (rtt : Rtt) (now largestAcked : ℕ) (packet : SentPacket) : Bool :=
  packet.packetNumberSpace = space ∧ packet.packetNumber ≤ largestAcked ∧
    (u64Add packet.packetNumber quicPacketThreshold ≤ largestAcked ∨
      lossDelay rtt ≠ 0 ∧ packet.timeSent ≤ lostSendTime rtt now)

/-! ## The loops over the list -/

/-- A state that holds a loss list. -/
structure LossHost (S : Type) where
  loss : S → Loss
  setLoss : Loss → S → S
  loss_setLoss : ∀ l s, loss (setLoss l s) = l

variable {S : Type} (host : LossHost S)

/-- The walk of both loops: visit a matching packet, then remove what is at its index. -/
def lossWalk (hit : SentPacket → Bool) (visit : S → ℕ → SentPacket → Option S) :
    IndexWalk.Walk S SentPacket where
  items s := (host.loss s).sent
  remove s i := (removePacket (host.loss s) i).map fun l => host.setLoss l s
  hit := hit
  visit := visit

/-- Declare packets lost, reporting each through `visit`, and re-arm the loss timer. -/
def quicLossDetect (fuel space : ℕ) (rtt : Rtt) (now largestAcked : ℕ)
    (visit : S → ℕ → SentPacket → Option S) (s : S) : Option S :=
  (IndexWalk.run (lossWalk host (packetLost space rtt now largestAcked) visit) fuel 0 0 s).map
    fun r => host.setLoss
      { host.loss r.1 with
        lossTime := quicLossTime (host.loss r.1) space rtt largestAcked } r.1

/-- Forget every packet of a space, reporting each through `visit`; how many there were. -/
def quicLossDiscardSpace (fuel space : ℕ) (visit : S → ℕ → SentPacket → Option S) (s : S) :
    Option (S × ℕ) :=
  (IndexWalk.run (lossWalk host (fun p => p.packetNumberSpace = space) visit) fuel 0 0 s).map
    fun r =>
      (if 0 < r.2 then host.setLoss { host.loss r.1 with lossTime := 0 } r.1 else r.1, r.2)

/-! ## The probe timeout -/

/-- The base timeout doubled once for each expiry, up to the bound on the backoff. -/
def ptoBackoff (ptoCount base : ℕ) : ℕ :=
  (List.range (min ptoCount quicPtoMaxBackoff)).foldl (fun b _ => b * 2 % 2 ^ 64) base

/-- One step of the search for the earliest probe deadline. -/
def earlierProbe (space base : ℕ) (earliest : ℕ) (packet : SentPacket) : ℕ :=
  let when' := u64Add packet.timeSent base
  if packet.packetNumberSpace ≠ space then earliest
  else if !packet.ackEliciting then earliest
  else if earliest = 0 ∨ when' < earliest then when'
  else earliest

/-- When the next probe is due in a space. -/
def quicLossPto (loss : Loss) (space : ℕ) (rtt : Rtt) (maxAckDelay : ℕ) : Except Status ℕ :=
  if loss.ackElicitingInFlight = 0 then .error .state
  else
    match quicRttPto rtt maxAckDelay with
    | .error status => .error status
    | .ok base =>
      let earliest := loss.sent.foldl (earlierProbe space (ptoBackoff loss.ptoCount base)) 0
      if earliest = 0 then .error .state else .ok earliest

/-- Record that the probe timeout fired. -/
def quicLossOnPto (loss : Loss) : Loss :=
  if loss.ptoCount < quicPtoMaxBackoff then { loss with ptoCount := loss.ptoCount + 1 } else loss

end WebTransport
