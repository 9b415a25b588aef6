import WebTransport.Core.Status

/-!
# Congestion control

The congestion window of a connection (`quic/congestion.c`): slow start, congestion
avoidance and one reduction for each recovery period.
-/

namespace WebTransport

/-- `WT_QUIC_INITIAL_WINDOW_PACKETS`. -/
def quicInitialWindowPackets : ℕ := 10
/-- `WT_QUIC_MINIMUM_WINDOW_PACKETS`. -/
def quicMinimumWindowPackets : ℕ := 2
/-- `WT_QUIC_INITIAL_WINDOW_MAX`. -/
def quicInitialWindowMax : ℕ := 14720
/-- `WT_QUIC_LOSS_REDUCTION_DENOMINATOR`. -/
def quicLossReductionDenominator : ℕ := 2

/-- The congestion controller (`wt_quic_congestion_t`). -/
structure Congestion where
  cwnd : ℕ
  ssthresh : ℕ
  maxDatagramSize : ℕ
  inRecovery : Bool
  recoveryStartTime : ℕ
deriving DecidableEq, Repr

/-- The window a new connection starts with. -/
def quicCongestionInitialWindow (maxDatagramSize : ℕ) : ℕ :=
  let tenPackets := quicInitialWindowPackets * maxDatagramSize % 2 ^ 64
  let floor := quicMinimumWindowPackets * maxDatagramSize % 2 ^ 64
  let bound := if quicInitialWindowMax < floor then floor else quicInitialWindowMax
  if tenPackets < bound then tenPackets else bound

/-- The window a loss never goes below. -/
def quicCongestionMinimumWindow (maxDatagramSize : ℕ) : ℕ :=
  quicMinimumWindowPackets * maxDatagramSize % 2 ^ 64

/-- The controller of a new connection, in slow start. -/
def quicCongestionInit (maxDatagramSize : ℕ) : Congestion :=
  let size := if maxDatagramSize = 0 then 1200 else maxDatagramSize
  { cwnd := quicCongestionInitialWindow size
    ssthresh := 2 ^ 64 - 1
    maxDatagramSize := size
    inRecovery := false
    recoveryStartTime := 0 }

/-- Whether a packet sent at `timeSent` belongs to the current recovery period. -/
def quicCongestionInRecoveryAt (congestion : Congestion) (timeSent : ℕ) : Bool :=
  congestion.inRecovery && timeSent ≤ congestion.recoveryStartTime

/-- The controller after an acknowledgement of `bytesAcked` bytes sent at `timeSent`. -/
def quicCongestionOnAck (congestion : Congestion) (bytesAcked timeSent : ℕ) : Congestion :=
  if quicCongestionInRecoveryAt congestion timeSent then congestion
  else if congestion.cwnd < congestion.ssthresh then
    { congestion with cwnd := u64Add congestion.cwnd bytesAcked }
  else
    let increase := congestion.maxDatagramSize * bytesAcked % 2 ^ 64 / congestion.cwnd
    let increase := if bytesAcked < increase then bytesAcked else increase
    { congestion with cwnd := u64Add congestion.cwnd increase }

/-- The controller after the loss of a packet sent at `timeSent`. -/
def quicCongestionOnLoss (congestion : Congestion) (timeSent now : ℕ) : Congestion :=
  if quicCongestionInRecoveryAt congestion timeSent then congestion
  else
    let halved := congestion.cwnd / quicLossReductionDenominator
    let floor := quicCongestionMinimumWindow congestion.maxDatagramSize
    let reduced := if halved < floor then floor else halved
    { congestion with
      ssthresh := halved
      cwnd := if reduced < congestion.cwnd then reduced else congestion.cwnd
      inRecovery := true
      recoveryStartTime := now }

/-- Whether the window has room for another packet. -/
def quicCongestionCanSend (congestion : Congestion) (bytesInFlight : ℕ) : Bool :=
  bytesInFlight < congestion.cwnd

end WebTransport
