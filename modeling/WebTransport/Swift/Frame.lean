import Mathlib.Tactic

/-!
# The frames of the Swift endpoint

The QUIC frames of the Swift endpoint (`QUICFrame.swift`).
-/

namespace WebTransport

/-- The direction of a stream (`QUICStreamDirection`), and the form of a WebTransport stream
(`WebTransportStreamForm`). -/
inductive WebTransportStreamForm
  | bidirectional
  | unidirectional
deriving DecidableEq, Repr

/-- One more range of an ACK frame (`QUICAckRange`). -/
structure QUICAckRange where
  gap : ℕ
  length : ℕ
deriving DecidableEq, Repr

/-- A frame (`QUICFrame`). -/
inductive QUICFrame
  | padding
  | ping
  | ack (largestAcknowledged ackDelay firstAckRange : ℕ) (ranges : List QUICAckRange)
  | crypto (offset : ℕ) (data : List UInt8)
  | stream (id : ℕ) (offset : Option ℕ) (fin : Bool) (data : List UInt8)
  | resetStream (id applicationErrorCode finalSize : ℕ)
  | resetStreamAt (id applicationErrorCode finalSize reliableSize : ℕ)
  | stopSending (id applicationErrorCode : ℕ)
  | maxData (maximum : ℕ)
  | maxStreamData (id maximum : ℕ)
  | maxStreams (direction : WebTransportStreamForm) (maximum : ℕ)
  | dataBlocked (limit : ℕ)
  | streamDataBlocked (id offset : ℕ)
  | streamsBlocked (direction : WebTransportStreamForm) (maximum : ℕ)
  | newConnectionID (sequence retirePriorTo : ℕ) (connectionID statelessResetToken : List UInt8)
  | retireConnectionID (sequence : ℕ)
  | connectionClose (errorCode : ℕ) (frameType : Option ℕ) (reason : List UInt8)
  | handshakeDone
  | datagram (data : List UInt8)
deriving DecidableEq, Repr

end WebTransport
