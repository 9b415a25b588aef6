import WebTransport.Session.Capsule

/-!
# The lifecycle of a session

The state machine of a WebTransport session (`webtransport/session.c`) and the walk over the
capsules of its CONNECT stream.
-/

namespace WebTransport

/-- Where a session stands (`wt_webtransport_session_state_t`). -/
inductive SessionState
  | establishing
  | established
  | draining
  | closed
deriving DecidableEq, Repr

/-- A session (`wt_webtransport_session_t`). -/
structure WebtransportSession where
  state : SessionState
  closeErrorCode : ℕ
  closeErrorSet : Bool
  drainSent : Bool
  drainReceived : Bool
  closeSent : Bool
  closeReceived : Bool
deriving DecidableEq, Repr

def webtransportSessionInit : WebtransportSession where
  state          := .establishing
  closeErrorCode := 0
  closeErrorSet  := false
  drainSent      := false
  drainReceived  := false
  closeSent      := false
  closeReceived  := false

/-- The response went out. -/
def webtransportSessionEstablished (s : WebtransportSession) : WebtransportSession × Status :=
  if s.state ≠ .establishing then (s, .state) else ({ s with state := .established }, .ok)

/-- A drain was sent or received. -/
def webtransportSessionOnDrain (s : WebtransportSession) (sent : Bool) :
    WebtransportSession × Status :=
  if s.state = .closed then (s, .state)
  else
    ({ s with
        drainSent := s.drainSent || sent
        drainReceived := s.drainReceived || !sent
        state := if s.state = .established then .draining else s.state }, .ok)

/-- A close was sent or received; the first code is the session's. -/
def webtransportSessionOnClose (s : WebtransportSession) (sent : Bool) (errorCode : ℕ) :
    WebtransportSession × Status :=
  ({ s with
      closeSent := s.closeSent || sent
      closeReceived := s.closeReceived || !sent
      closeErrorCode := if s.closeErrorSet then s.closeErrorCode else errorCode
      closeErrorSet := true
      state := .closed }, .ok)

/-- The CONNECT stream ended without a close capsule. -/
def webtransportSessionOnStreamEnd (s : WebtransportSession) : WebtransportSession × Status :=
  if s.state = .closed then (s, .state) else ({ s with state := .closed }, .ok)

def webtransportSessionAllowsNewStreams (s : WebtransportSession) : Bool :=
  s.state = .established

def webtransportSessionWriteDrain (s : WebtransportSession) (w : Writer) :
    (WebtransportSession × Writer) × Status :=
  if s.state = .closed then ((s, w), .state)
  else
    let (written, status) := webtransportDrainSessionWrite w
    if status ≠ .ok then ((s, written), status)
    else
      let (s', status) := webtransportSessionOnDrain s true
      ((s', written), status)

def webtransportSessionWriteClose (s : WebtransportSession) (w : Writer) (errorCode : ℕ)
    (reason : List UInt8) : (WebtransportSession × Writer) × Status :=
  if s.state = .closed then ((s, w), .state)
  -- Never established: there is nothing to close.
  else if s.state = .establishing then ((s, w), .state)
  else
    let (written, status) := webtransportCloseSessionWrite w errorCode reason
    if status ≠ .ok then ((s, written), status)
    else
      let (s', status) := webtransportSessionOnClose s true errorCode
      ((s', written), status)

/-! ## The walk over the capsules -/

/-- What a caller does with a capsule the session does not apply itself. The caller's context may
hold the session. -/
abbrev CapsuleFn (κ : Type) :=
  WebtransportSession → κ → Capsule → (WebtransportSession × κ) × CapsuleReply

/-- A caller that has no hand in the session. -/
def CapsuleFn.apart {κ : Type} (observe : κ → Capsule → κ × CapsuleReply) : CapsuleFn κ :=
  fun s k capsule => ((s, (observe k capsule).1), (observe k capsule).2)

/-- How a walk ended: the session, the caller's context, what the cursor has left and the
answer. -/
structure CapsuleWalk (κ : Type) where
  session : WebtransportSession
  context : κ
  cursor : List UInt8
  reply : CapsuleReply

section Walk

variable {κ : Type}

/-- What a turn of the walk does with a capsule that has `ahead` behind it. -/
def capsuleTurn (observe : Option (CapsuleFn κ)) (s : WebtransportSession) (k : κ)
    (capsule : Capsule) (ahead : List UInt8) : (WebtransportSession × κ) × CapsuleReply :=
  if capsule.type = capsuleDrainSession then
    if capsule.value ≠ [] then ((s, k), CapsuleReply.malformed)
    else
      let (s', status) := webtransportSessionOnDrain s false
      ((s', k), status, Http3Error.noError.code)
  else if capsule.type = capsuleCloseWebtransportSession then
    match webtransportCloseSessionParse capsule with
    | .error reply => ((s, k), reply)
    | .ok (code, _) =>
      let (s', status) := webtransportSessionOnClose s false code
      -- The capsule is the last thing on the CONNECT stream.
      if status = .ok ∧ ahead ≠ [] then ((s', k), CapsuleReply.malformed)
      else ((s', k), status, Http3Error.noError.code)
  else
    match observe with
    | none => ((s, k), CapsuleReply.good)
    | some observe => observe s k capsule

/-- The loop of the walk. A capsule takes at least two bytes, so `fuel` beyond the length of the
bytes is enough; the cursor moves only past a capsule that was accepted. -/
def capsuleWalkWithin (maxCapsuleBytes : ℕ) (observe : Option (CapsuleFn κ)) :
    ℕ → WebtransportSession → κ → List UInt8 → CapsuleWalk κ
  | 0, s, k, c => ⟨s, k, c, CapsuleReply.good⟩
  | fuel + 1, s, k, c =>
    if c = [] then ⟨s, k, c, CapsuleReply.good⟩
    else
      match webtransportCapsuleDecode maxCapsuleBytes c with
      | .error reply => ⟨s, k, c, reply⟩
      | .ok (capsule, ahead) =>
        match capsuleTurn observe s k capsule ahead with
        | ((s', k'), reply) =>
          if reply.1 ≠ .ok then ⟨s', k', c, reply⟩
          else capsuleWalkWithin maxCapsuleBytes observe fuel s' k' ahead

/-- Walk the capsules a peer sent on the CONNECT stream. -/
def webtransportSessionOnCapsuleBytes (maxCapsuleBytes : ℕ) (observe : Option (CapsuleFn κ))
    (s : WebtransportSession) (k : κ) (c : List UInt8) : CapsuleWalk κ :=
  if s.state = .closed ∧ c ≠ [] then ⟨s, k, c, CapsuleReply.malformed⟩
  else capsuleWalkWithin maxCapsuleBytes observe (c.length + 1) s k c

/-- A turn does not depend on what comes after the capsule, but for the bytes after a close, which
are refused. -/
lemma capsuleTurn_ahead (observe : Option (CapsuleFn κ)) (s : WebtransportSession) (k : κ)
    (capsule : Capsule) {ahead : List UInt8} (hahead : ahead ≠ []) :
    capsuleTurn observe s k capsule ahead = capsuleTurn observe s k capsule [] ∨
      ∃ p, p.1.state = .closed ∧
        capsuleTurn observe s k capsule [] = (p, CapsuleReply.good) ∧
        capsuleTurn observe s k capsule ahead = (p, CapsuleReply.malformed) := by
  unfold capsuleTurn
  split_ifs with hdrain hvalue hclose
  · exact .inl rfl
  · exact .inl rfl
  · cases hparse : webtransportCloseSessionParse capsule with
    | error refusal => exact .inl rfl
    | ok r =>
      obtain ⟨code, reason⟩ := r
      right
      refine ⟨((webtransportSessionOnClose s false code).1, k), rfl, ?_, ?_⟩
      · exact if_neg fun h => h.2 rfl
      · exact if_pos ⟨rfl, hahead⟩
  · exact .inl rfl

end Walk

/-! ## Runs of a session -/

/-- The calls that can reach a session. -/
inductive SessionCall : Type 1
  | established
  | onDrain (sent : Bool)
  | onClose (sent : Bool) (errorCode : ℕ)
  | onStreamEnd
  | writeDrain (w : Writer)
  | writeClose (w : Writer) (errorCode : ℕ) (reason : List UInt8)
  | onCapsuleBytes {κ : Type} (maxCapsuleBytes : ℕ)
      (observe : Option (κ → Capsule → κ × CapsuleReply)) (context : κ) (bytes : List UInt8)

/-- The session after a call, and the status of the call. -/
def sessionCall (s : WebtransportSession) : SessionCall → WebtransportSession × Status
  | .established => webtransportSessionEstablished s
  | .onDrain sent => webtransportSessionOnDrain s sent
  | .onClose sent errorCode => webtransportSessionOnClose s sent errorCode
  | .onStreamEnd => webtransportSessionOnStreamEnd s
  | .writeDrain w =>
    ((webtransportSessionWriteDrain s w).1.1, (webtransportSessionWriteDrain s w).2)
  | .writeClose w errorCode reason =>
    ((webtransportSessionWriteClose s w errorCode reason).1.1,
      (webtransportSessionWriteClose s w errorCode reason).2)
  | .onCapsuleBytes maxCapsuleBytes observe context bytes =>
    let walk := webtransportSessionOnCapsuleBytes maxCapsuleBytes (observe.map CapsuleFn.apart) s
      context bytes
    (walk.session, walk.reply.1)

/-- A session after some calls. -/
def sessionRun (calls : List SessionCall) : WebtransportSession :=
  calls.foldl (fun s call => (sessionCall s call).1) webtransportSessionInit

end WebTransport
