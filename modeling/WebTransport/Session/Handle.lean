import WebTransport.Session.LifecycleOrder

/-!
# The public session handle

The entry point of the API for one capsule (`api/session.c`), and the same flow-control rules as an
observer of the walk. The callbacks of the handle are told what happened and may not call back into
it, so they are left out.
-/

namespace WebTransport

/-- The handle, as far as capsules go (`wt_session_t`): the session, the status and the code the
last operation left behind, the bound on a capsule and the peer's grants. -/
structure SessionHandle where
  machine : WebtransportSession
  errorStatus : Status
  errorCode : ℕ
  maxCapsuleBytes : ℕ
  limits : FlowLimits
  flowEnabled : Bool
deriving DecidableEq, Repr

/-- Record how an operation ended, and answer it (`wt_session_set_error`). -/
def sessionSetError (h : SessionHandle) (status : Status) (code : ℕ) : SessionHandle × Status :=
  ({ h with errorStatus := status, errorCode := code }, status)

/-- An over-limit stream count ends the session (`wt_session_close_for_flow_error`). -/
def sessionCloseForFlowError (h : SessionHandle) : SessionHandle :=
  { h with machine := (webtransportSessionOnClose h.machine true webtransportFlowControlError).1 }

/-- A stream count that was refused, with the session closed where it was over the ceiling. -/
def sessionRefuseCount (h : SessionHandle) (reply : CapsuleReply) : SessionHandle × Status :=
  if reply.2 = webtransportFlowControlError then
    sessionSetError (sessionCloseForFlowError h) reply.1 reply.2
  else sessionSetError h reply.1 reply.2

/-- Record a limit call. -/
def sessionTakeLimits (h : SessionHandle) (r : FlowLimits × Status × ℕ) : SessionHandle × Status :=
  sessionSetError { h with limits := r.1 } r.2.1 r.2.2

/-- Handle one capsule from the CONNECT stream. -/
def sessionOnCapsule (h : SessionHandle) (bytes : List UInt8) : SessionHandle × Status :=
  if h.machine.state = .closed ∧ bytes.length ≠ 0 then
    sessionSetError h .protocol Http3Error.messageError.code
  else
    match webtransportCapsuleDecode h.maxCapsuleBytes bytes with
    | .error reply => sessionSetError h reply.1 reply.2
    | .ok (capsule, _) =>
      if capsule.type = capsuleMaxStreamData ∨ capsule.type = capsuleStreamDataBlocked then
        sessionSetError h .protocol webtransportFlowControlError
      else if capsule.type = capsuleDrainSession then
        if capsule.value.length ≠ 0 then
          sessionSetError h .protocol Http3Error.messageError.code
        else
          let (machine, status) := webtransportSessionOnDrain h.machine false
          sessionSetError { h with machine := machine } status 0
      else if capsule.type = capsuleCloseWebtransportSession then
        match webtransportCloseSessionParse capsule with
        | .error reply => sessionSetError h reply.1 reply.2
        | .ok (code, _) =>
          let (machine, status) := webtransportSessionOnClose h.machine false code
          -- The peer's code travels to the caller.
          sessionSetError { h with machine := machine } status code
      else if capsule.type = capsuleMaxData then
        match webtransportMaxDataParse capsule with
        | .error reply => sessionSetError h reply.1 reply.2
        | .ok maximum =>
          if h.flowEnabled = false then sessionSetError h .ok 0
          else sessionTakeLimits h (webtransportFlowOnMaxData h.limits maximum)
      else if capsule.type = capsuleMaxStreamsBidi ∨ capsule.type = capsuleMaxStreamsUni then
        match webtransportMaxStreamsParse capsule with
        | .error reply => sessionRefuseCount h reply
        | .ok maximum =>
          if h.flowEnabled = false then sessionSetError h .ok 0
          else
            sessionTakeLimits h
              (webtransportFlowOnMaxStreams h.limits (capsule.type = capsuleMaxStreamsBidi) maximum)
      else if capsule.type = capsuleStreamsBlockedBidi ∨
          capsule.type = capsuleStreamsBlockedUni then
        match webtransportStreamsBlockedParse capsule with
        | .error reply => sessionRefuseCount h reply
        | .ok _ => sessionSetError h .ok 0
      else sessionSetError h .ok 0

/-! ## The same rules as an observer -/

/-- What the rules of flow control need of the handle. -/
structure FlowAccount where
  limits : FlowLimits
  flowEnabled : Bool

def SessionHandle.account (h : SessionHandle) : FlowAccount := ⟨h.limits, h.flowEnabled⟩

/-- The answer of the rules to a capsule that grants or blocks, and the limits after it. Drains,
closes and capsules of another kind are nothing to them. -/
def flowRule (k : FlowAccount) (capsule : Capsule) : FlowAccount × CapsuleReply :=
  if capsule.type = capsuleMaxStreamData ∨ capsule.type = capsuleStreamDataBlocked then
    (k, .protocol, webtransportFlowControlError)
  else if capsule.type = capsuleMaxData then
    match webtransportMaxDataParse capsule with
    | .error reply => (k, reply)
    | .ok maximum =>
      if k.flowEnabled = false then (k, CapsuleReply.good)
      else
        let r := webtransportFlowOnMaxData k.limits maximum
        ({ k with limits := r.1 }, r.2)
  else if capsule.type = capsuleMaxStreamsBidi ∨ capsule.type = capsuleMaxStreamsUni then
    match webtransportMaxStreamsParse capsule with
    | .error reply => (k, reply)
    | .ok maximum =>
      if k.flowEnabled = false then (k, CapsuleReply.good)
      else
        let r :=
          webtransportFlowOnMaxStreams k.limits (capsule.type = capsuleMaxStreamsBidi) maximum
        ({ k with limits := r.1 }, r.2)
  else if capsule.type = capsuleStreamsBlockedBidi ∨
      capsule.type = capsuleStreamsBlockedUni then
    match webtransportStreamsBlockedParse capsule with
    | .error reply => (k, reply)
    | .ok _ => (k, CapsuleReply.good)
  else (k, CapsuleReply.good)

/-- Whether a capsule is a stream count over the ceiling, for which the session ends. -/
def overCeiling (capsule : Capsule) : Bool :=
  if capsule.type = capsuleMaxStreamsBidi ∨ capsule.type = capsuleMaxStreamsUni ∨
      capsule.type = capsuleStreamsBlockedBidi ∨ capsule.type = capsuleStreamsBlockedUni then
    match capsuleParseStreamCount capsule with
    | .error reply => reply.2 = webtransportFlowControlError
    | .ok _ => false
  else false

/-- The observer that applies the rules of the handle. -/
def flowObserver : CapsuleFn FlowAccount :=
  fun s k capsule =>
    let s' :=
      if overCeiling capsule then
        (webtransportSessionOnClose s true webtransportFlowControlError).1
      else s
    ((s', (flowRule k capsule).1), (flowRule k capsule).2)

end WebTransport
