import WebTransport.Quic.ConnectionStream
import WebTransport.Http3.Route

/-!
# Streams the endpoint gives up

The operations of `http3/driver.c` that end a data stream on this side: the rejection of one
stream and the end of the session, which abandons all of them. A reset is stated to the
connection the driver is bound to; what is forgotten does not depend on what the connection
makes of it.
-/

namespace WebTransport

open SwapRemove

/-- The code a stream is reset with when its session is over. -/
def webtransportErrorSessionGone : ℕ := 0x170d7b68

def hasSendHalf (c : Connection) (streamId : ℕ) : Bool :=
  quicStreamIdIsBidirectional streamId ||
    quicStreamIdFromClient streamId == decide (c.config.role = .client)

def hasReceiveHalf (c : Connection) (streamId : ℕ) : Bool :=
  quicStreamIdIsBidirectional streamId ||
    quicStreamIdFromClient streamId != decide (c.config.role = .client)

/-- What a reset commits to: the prefix this endpoint wrote, capped by what was sent. -/
def reliableSize (c : Connection) (e : DataStream) : ℕ :=
  match quicStreamTableFind c.streams e.streamId with
  | some stream => if e.prefixLength > stream.sendOffset then stream.sendOffset else e.prefixLength
  | none => e.prefixLength

section Connection

variable (env : Env) (fuel errorCode now : ℕ)

/-- Abort both halves of a data stream; `none` would be a call that does not return. The
answer of the reset is returned, that of the STOP_SENDING is not looked at. -/
def abandonStream (skipReset : Bool) (e : DataStream) (c : Connection) :
    Option (Connection × Status) :=
  match
    if skipReset || !hasSendHalf c e.streamId then some (c, .ok)
    else
      quicConnectionResetStreamAt env fuel e.streamId errorCode (reliableSize c e) now c with
  | none => none
  | some (c, status) =>
    if hasReceiveHalf c e.streamId then
      (quicConnectionStopSending env fuel e.streamId errorCode now c).map fun r => (r.1, status)
    else some (c, status)

/-- Reject one data stream. -/
def http3DriverRejectDataStream (streamId : ℕ) (connection : Option Connection) (d : Driver) :
    Option (Driver × Option Connection × Status) :=
  match connection with
  | none => some (d, none, .state)
  | some c =>
    match d.dataStreams.find? (fun e => e.streamId = streamId) with
    | none => some (d, some c, .closed)
    | some e =>
      (abandonStream env fuel errorCode now false e c).map fun r =>
        ({ d with dataStreams := swapRemove (fun e => e.streamId = streamId) d.dataStreams },
          some r.1, r.2)

/-- Whether the send half of a stream has nothing left to abort. -/
def sendHalfOver (c : Connection) (streamId : ℕ) : Bool :=
  match quicStreamTableFind c.streams streamId with
  | some stream => quicStreamSendFinished stream
  | none => false

/-- Abandon some data streams: the first refusal, and how many were ended. -/
def abandonStreams : List DataStream → Status → ℕ → Connection →
    Option (Connection × Status × ℕ)
  | [], refusal, ended, c => some (c, refusal, ended)
  | e :: es, refusal, ended, c =>
    let skipReset := sendHalfOver c e.streamId
    match abandonStream env fuel webtransportErrorSessionGone now skipReset e c with
    | none => none
    | some (c, status) =>
      if status = .ok then
        abandonStreams es refusal (if skipReset then ended else ended + 1) c
      else abandonStreams es (if refusal = .ok then status else refusal) ended c

/-- The session is over: its data streams are abandoned and forgotten. -/
def http3DriverEndSessionStreams (connection : Option Connection) (d : Driver) :
    Option (Driver × Option Connection × Status × ℕ) :=
  match connection with
  | none => some (d, none, .state, 0)
  | some c =>
    (abandonStreams env fuel now d.dataStreams .ok 0 c).map fun r =>
      ({ d with dataStreams := [] }, some r.1, r.2.1, r.2.2)

end Connection

/-- A request stream ended or was reset: its slot is given back. -/
def forgetRequest (endpoint : Endpoint) (streamId : ℕ) : Endpoint :=
  { endpoint with requests := swapRemove (fun r => r.1 = streamId) endpoint.requests }

section Forgotten

variable {env : Env} {fuel streamId errorCode now : ℕ} {connection : Option Connection}
  {d : Driver}

/-- A rejection takes at most an entry out of the table of data streams. -/
lemma rejectDataStream_spec {r : Driver × Option Connection × Status}
    (h : http3DriverRejectDataStream env fuel errorCode now streamId connection d = some r) :
    ∃ dataStreams, r.1 = { d with dataStreams := dataStreams } ∧
      ∀ e ∈ dataStreams, e ∈ d.dataStreams := by
  unfold http3DriverRejectDataStream at h
  split at h
  · cases h
    exact ⟨d.dataStreams, rfl, fun _ he => he⟩
  · split at h
    · cases h
      exact ⟨d.dataStreams, rfl, fun _ he => he⟩
    · obtain ⟨_, -, rfl⟩ := Option.map_eq_some_iff.mp h
      exact ⟨_, rfl, fun _ he => mem_of_mem_swapRemove he⟩

/-- The end of the session empties the table of data streams. -/
lemma endSessionStreams_spec {r : Driver × Option Connection × Status × ℕ}
    (h : http3DriverEndSessionStreams env fuel now connection d = some r) :
    ∃ dataStreams, r.1 = { d with dataStreams := dataStreams } ∧
      ∀ e ∈ dataStreams, e ∈ d.dataStreams := by
  unfold http3DriverEndSessionStreams at h
  split at h
  · cases h
    exact ⟨d.dataStreams, rfl, fun _ he => he⟩
  · obtain ⟨_, -, rfl⟩ := Option.map_eq_some_iff.mp h
    exact ⟨[], rfl, fun _ he => nomatch he⟩

end Forgotten

end WebTransport
