import WebTransport.Quic.Frame

/-!
# Closing a connection

The close a connection has decided on and its draining period (`quic/close.c`).
-/

namespace WebTransport

/-- `WT_QUIC_DRAINING_PERIOD_PTO_MULTIPLIER`. -/
def quicDrainingPeriodPtoMultiplier : ℕ := 3

/-- Which frame announces a close (`wt_quic_close_kind_t`). -/
inductive CloseKind
  | none
  | transport
  | application
deriving DecidableEq, Repr

/-- The close of a connection (`wt_quic_close_state_t`). -/
structure CloseState where
  kind : CloseKind := .none
  errorCode : ℕ := 0
  frameType : ℕ := 0
  reason : List UInt8 := []
  closedAt : ℕ := 0
  drainingUntil : ℕ := 0
  hasDrainingDeadline : Bool := false
deriving DecidableEq, Repr

/-- Whether the connection has closed. -/
def quicCloseIsClosed (state : CloseState) : Bool := state.kind ≠ .none

/-- A connection closes once; the deadline is set when a probe timeout is known. -/
def closeCommon (state : CloseState) (kind : CloseKind) (errorCode frameType : ℕ)
    (reason : List UInt8) (now pto : ℕ) : CloseState × Status :=
  if state.kind ≠ .none then (state, .state)
  else
    ({ kind := kind
       errorCode := errorCode
       frameType := frameType
       reason := reason
       closedAt := now
       drainingUntil :=
        if pto ≠ 0 then u64Add now (quicDrainingPeriodPtoMultiplier * pto % 2 ^ 64)
        else state.drainingUntil
       hasDrainingDeadline := if pto ≠ 0 then true else state.hasDrainingDeadline }, .ok)

/-- Close for a transport error, caused by a frame of type `frameType`. -/
def quicCloseTransport (state : CloseState) (errorCode frameType : ℕ) (reason : List UInt8)
    (now pto : ℕ) : CloseState × Status :=
  closeCommon state .transport errorCode frameType reason now pto

/-- A connection that closes is closed. -/
lemma quicCloseTransport_isClosed (state : CloseState) (errorCode frameType now pto : ℕ) :
    quicCloseIsClosed (quicCloseTransport state errorCode frameType [] now pto).1 = true := by
  unfold quicCloseTransport closeCommon quicCloseIsClosed
  split
  · rename_i hkind
    exact decide_eq_true hkind
  · rfl

/-- Close at the application's request. -/
def quicCloseApplication (state : CloseState) (errorCode : ℕ) (reason : List UInt8)
    (now pto : ℕ) : CloseState × Status :=
  closeCommon state .application errorCode 0 reason now pto

/-- Whether the draining period is over. -/
def quicCloseDrainingExpired (state : CloseState) (now : ℕ) : Bool :=
  state.kind ≠ .none && state.hasDrainingDeadline && state.drainingUntil ≤ now

/-- The frame that announces the close. -/
def quicCloseFrame (state : CloseState) : Except Status Frame :=
  match state.kind with
  | .none => .error .state
  | .transport =>
    .ok (.connectionCloseTransport
      { hasFrameType := true, errorCode := state.errorCode, frameType := state.frameType,
        reason := state.reason })
  | .application =>
    .ok (.connectionCloseApplication
      { hasFrameType := false, errorCode := state.errorCode, frameType := 0,
        reason := state.reason })

/-- Whether a frame of a type is still processed once the connection has closed. -/
def quicCloseAcceptsFrameType (frameType : ℕ) : Bool :=
  frameType ∈ [0x1c, 0x1d, 0x00, 0x01, 0x1a, 0x1b]

end WebTransport
