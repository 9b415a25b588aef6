import WebTransport.Core.Status

/-!
# The TLS handshake machines

The message-at-a-time machines of the client and of the server (`tls/session_client.c` and
`tls/session_server.c`): which message each state waits for, what a refused message does, and
when the secrets are handed out. What a message says (its extensions, the key schedule over
the transcript, the certificate chain, the signatures and the Finished MACs) is checked by the
steps of `TlsSteps`, over data of its own; every result about the machines is for all of them.
-/

namespace WebTransport

/-- A status that is a refusal. -/
abbrev Refusal := { status : Status // status ≠ .ok }

namespace Refusal

def protocol : Refusal := ⟨.protocol, by decide⟩

def limit : Refusal := ⟨.limit, by decide⟩

def truncated : Refusal := ⟨.truncated, by decide⟩

def invalidArgument : Refusal := ⟨.invalidArgument, by decide⟩

def tls : Refusal := ⟨.tls, by decide⟩

def trust : Refusal := ⟨.trust, by decide⟩

def state : Refusal := ⟨.state, by decide⟩

def authentication : Refusal := ⟨.authentication, by decide⟩

end Refusal

/-! ## Messages -/

/-- `WT_TLS_HANDSHAKE_HEADER_LEN`. -/
def tlsHandshakeHeaderLen : ℕ := 4

/-- The types of handshake messages (`WT_TLS_HANDSHAKE_*`). -/
def tlsClientHello : UInt8 := 1

@[inherit_doc tlsClientHello]
def tlsServerHello : UInt8 := 2

@[inherit_doc tlsClientHello]
def tlsNewSessionTicket : UInt8 := 4

@[inherit_doc tlsClientHello]
def tlsEncryptedExtensions : UInt8 := 8

@[inherit_doc tlsClientHello]
def tlsCertificate : UInt8 := 11

@[inherit_doc tlsClientHello]
def tlsCertificateVerify : UInt8 := 15

@[inherit_doc tlsClientHello]
def tlsFinished : UInt8 := 20

/-- The length of the body that a header declares. -/
def tlsBodyLen (a b c : UInt8) : ℕ := a.toNat * 2 ^ 16 + b.toNat * 2 ^ 8 + c.toNat

/-- The length of the message at the front of a buffer, `0` while the message is not whole. -/
def tlsHandshakeMessageLen : List UInt8 → ℕ
  | _ :: a :: b :: c :: body =>
    if body.length < tlsBodyLen a b c then 0 else tlsBodyLen a b c + tlsHandshakeHeaderLen
  | _ => 0

/-- The type of a message whose declared length is the rest of the buffer exactly. -/
def tlsHandshakeHeaderParse : List UInt8 → Except Refusal UInt8
  | type :: a :: b :: c :: body =>
    if body.length ≠ tlsBodyLen a b c then .error .protocol else .ok type
  | _ => .error .truncated

/-- A whole message has a header and fits in the buffer. -/
lemma tlsHandshakeMessageLen_bounds {buffer : List UInt8} (h : tlsHandshakeMessageLen buffer ≠ 0) :
    tlsHandshakeHeaderLen ≤ tlsHandshakeMessageLen buffer ∧
      tlsHandshakeMessageLen buffer ≤ buffer.length := by
  match buffer with
  | [] | [_] | [_, _] | [_, _, _] => exact absurd rfl h
  | _ :: a :: b :: c :: body =>
    rw [tlsHandshakeMessageLen] at h ⊢
    split at h
    · exact absurd rfl h
    · rename_i hle
      rw [if_neg hle]
      refine ⟨Nat.le_add_left _ _, ?_⟩
      simp only [List.length_cons, tlsHandshakeHeaderLen]
      omega

/-! ## The machines -/

/-- The states of the client's machine (`wt_tls_client_state_t`). -/
inductive TlsClientState
  | start
  | waitServerHello
  | waitEncryptedExtensions
  | waitCertificate
  | waitCertificateVerify
  | waitFinished
  | connected
  | failed
deriving DecidableEq, Repr

/-- The states of the server's machine (`wt_tls_server_state_t`). -/
inductive TlsServerState
  | start
  | waitClientHello
  | waitClientFinished
  | connected
  | failed
deriving DecidableEq, Repr

/-- What the machines do with the content of a message, on the client's data `C` and the
server's data `S`. A step answers the data it leaves, with the message it writes into a buffer
of the given capacity where it writes one; or it refuses, and a machine that refused a message
hands out nothing of its data any more. -/
structure TlsSteps (C S : Type) where
  receiveServerHello : C → List UInt8 → Except Refusal C
  receiveEncryptedExtensions : C → List UInt8 → Except Refusal C
  receiveCertificate : C → List UInt8 → Except Refusal C
  receiveCertificateVerify : C → List UInt8 → Except Refusal C
  receiveFinished : C → List UInt8 → ℕ → Except Refusal (C × List UInt8)
  clientHandshakeSecrets : C → List UInt8 × List UInt8
  clientApplicationSecrets : C → List UInt8 × List UInt8
  clientAlpn : C → List UInt8
  clientTransportParameters : C → List UInt8
  serverReceiveClientHello : S → List UInt8 → ℕ → Except Refusal (S × List UInt8)
  serverReceiveFinished : S → List UInt8 → Except Refusal S
  serverBuildFlight : S → ℕ → Except Refusal (S × List UInt8)
  serverHandshakeSecrets : S → List UInt8 × List UInt8
  serverApplicationSecrets : S → List UInt8 × List UInt8
  serverAlpn : S → List UInt8
  serverTransportParameters : S → List UInt8

/-- The client's machine (`wt_tls_client_t`). -/
structure TlsClient (C : Type) where
  state : TlsClientState
  data : C
deriving DecidableEq, Repr

/-- The server's machine (`wt_tls_server_t`). -/
structure TlsServer (S : Type) where
  state : TlsServerState
  flightBuilt : Bool
  data : S
deriving DecidableEq, Repr

/-- What a machine answers to a message: the machine, the status and what it wrote. -/
structure TlsAnswer (M : Type) where
  machine : M
  status : Status
  output : List UInt8

variable {C S : Type} (steps : TlsSteps C S)

/-- The client refuses a message for good. -/
def TlsClient.fail (client : TlsClient C) (status : Refusal) : TlsAnswer (TlsClient C) :=
  ⟨{ client with state := .failed }, status.1, []⟩

/-- The server refuses a message for good. -/
def TlsServer.fail (server : TlsServer S) (status : Refusal) : TlsAnswer (TlsServer S) :=
  ⟨{ server with state := .failed }, status.1, []⟩

lemma TlsClient.fail_ne_ok (client : TlsClient C) (status : Refusal) :
    (client.fail status).status ≠ .ok := status.2

@[inherit_doc TlsClient.fail_ne_ok]
lemma TlsServer.fail_ne_ok (server : TlsServer S) (status : Refusal) :
    (server.fail status).status ≠ .ok := status.2

/-- One message of the handshake's order: its type, its content and the state after it. -/
def TlsClient.expect (client : TlsClient C) (awaited type : UInt8) (next : TlsClientState)
    (step : Except Refusal (C × List UInt8)) : TlsAnswer (TlsClient C) :=
  if type ≠ awaited then client.fail .state
  else
    match step with
    | .error status => client.fail status
    | .ok (data, output) => ⟨⟨next, data⟩, .ok, output⟩

/-- One message of the handshake's order at the server. -/
def TlsServer.expect (server : TlsServer S) (awaited type : UInt8) (next : TlsServerState)
    (step : Except Refusal (S × List UInt8)) : TlsAnswer (TlsServer S) :=
  if type ≠ awaited then server.fail .state
  else
    match step with
    | .error status => server.fail status
    | .ok (data, output) => ⟨{ server with state := next, data := data }, .ok, output⟩

/-- A message that was consumed has the type that was awaited. -/
lemma TlsClient.type_of_expect_ok {client : TlsClient C} {awaited type : UInt8}
    {next : TlsClientState} {step : Except Refusal (C × List UInt8)}
    (h : (client.expect awaited type next step).status = .ok) : type = awaited := by
  unfold expect at h
  split at h
  · exact absurd h (client.fail_ne_ok _)
  · rename_i heq
    exact not_not.mp heq

@[inherit_doc TlsClient.type_of_expect_ok]
lemma TlsServer.type_of_expect_ok {server : TlsServer S} {awaited type : UInt8}
    {next : TlsServerState} {step : Except Refusal (S × List UInt8)}
    (h : (server.expect awaited type next step).status = .ok) : type = awaited := by
  unfold expect at h
  split at h
  · exact absurd h (server.fail_ne_ok _)
  · rename_i heq
    exact not_not.mp heq

/-- A step that writes no message. -/
def silent {D : Type} (step : Except Refusal D) : Except Refusal (D × List UInt8) :=
  step.map fun data => (data, [])

/-- Consume one message of the server's (`wt_tls_client_receive`). -/
def tlsClientReceive (client : TlsClient C) (message : List UInt8) (capacity : ℕ) :
    TlsAnswer (TlsClient C) :=
  if client.state = .failed then ⟨client, .state, []⟩
  else if message.length < tlsHandshakeHeaderLen then client.fail .truncated
  else
    match tlsHandshakeHeaderParse message with
    | .error status => client.fail status
    | .ok type =>
      match client.state with
      | .waitServerHello =>
        client.expect tlsServerHello type .waitEncryptedExtensions
          (silent (steps.receiveServerHello client.data message))
      | .waitEncryptedExtensions =>
        client.expect tlsEncryptedExtensions type .waitCertificate
          (silent (steps.receiveEncryptedExtensions client.data message))
      | .waitCertificate =>
        client.expect tlsCertificate type .waitCertificateVerify
          (silent (steps.receiveCertificate client.data message))
      | .waitCertificateVerify =>
        client.expect tlsCertificateVerify type .waitFinished
          (silent (steps.receiveCertificateVerify client.data message))
      | .waitFinished =>
        client.expect tlsFinished type .connected
          (steps.receiveFinished client.data message capacity)
      | .connected =>
        -- A session ticket is skipped; everything else is unexpected after the handshake.
        client.expect tlsNewSessionTicket type .connected (.ok (client.data, []))
      | .start | .failed => client.fail .state

/-- Consume one message of the client's (`wt_tls_server_receive`). -/
def tlsServerReceive (server : TlsServer S) (message : List UInt8) (capacity : ℕ) :
    TlsAnswer (TlsServer S) :=
  if server.state = .failed then ⟨server, .state, []⟩
  else if message.length < tlsHandshakeHeaderLen then server.fail .truncated
  else
    match tlsHandshakeHeaderParse message with
    | .error status => server.fail status
    | .ok type =>
      match server.state with
      | .waitClientHello =>
        server.expect tlsClientHello type .waitClientFinished
          (steps.serverReceiveClientHello server.data message capacity)
      | .waitClientFinished =>
        server.expect tlsFinished type .connected
          (silent (steps.serverReceiveFinished server.data message))
      | .start | .connected | .failed => server.fail .state

/-- The rest of the server's flight, which is built once (`wt_tls_server_flight`). -/
def tlsServerFlight (server : TlsServer S) (capacity : ℕ) : TlsAnswer (TlsServer S) :=
  if server.state ≠ .waitClientFinished ∨ server.flightBuilt then ⟨server, .state, []⟩
  else
    match steps.serverBuildFlight server.data capacity with
    | .error status => ⟨server, status.1, []⟩
    | .ok (data, flight) => ⟨{ server with data := data, flightBuilt := true }, .ok, flight⟩

/-! ## Either machine -/

/-- The machine of one side of a handshake. -/
inductive TlsMachine (C S : Type)
  | client (client : TlsClient C)
  | server (server : TlsServer S)
deriving DecidableEq, Repr

namespace TlsMachine

/-- Whether this is the client's side. -/
def isClient : TlsMachine C S → Bool
  | client _ => true
  | server _ => false

/-- Consume one message of the peer's. -/
def receive (machine : TlsMachine C S) (message : List UInt8) (capacity : ℕ) :
    TlsAnswer (TlsMachine C S) :=
  match machine with
  | client m =>
    let answer := tlsClientReceive steps m message capacity
    ⟨client answer.machine, answer.status, answer.output⟩
  | server m =>
    let answer := tlsServerReceive steps m message capacity
    ⟨server answer.machine, answer.status, answer.output⟩

/-- The protocol that was negotiated. -/
def alpn : TlsMachine C S → List UInt8
  | client m => steps.clientAlpn m.data
  | server m => steps.serverAlpn m.data

/-- The transport parameters the peer sent. -/
def transportParameters : TlsMachine C S → List UInt8
  | client m => steps.clientTransportParameters m.data
  | server m => steps.serverTransportParameters m.data

/-- The handshake secrets for reading and writing, from the hellos on. -/
def handshakeSecrets : TlsMachine C S → Except Status (List UInt8 × List UInt8)
  | client m =>
    match m.state with
    | .start | .waitServerHello | .failed => .error .state
    | _ => .ok (steps.clientHandshakeSecrets m.data)
  | server m =>
    match m.state with
    | .waitClientFinished | .connected => .ok (steps.serverHandshakeSecrets m.data)
    | _ => .error .state

/-- The application secrets for reading and writing, of a machine that is connected. -/
def applicationSecrets : TlsMachine C S → Except Status (List UInt8 × List UInt8)
  | client m =>
    if m.state = .connected then .ok (steps.clientApplicationSecrets m.data) else .error .state
  | server m =>
    if m.state = .connected then .ok (steps.serverApplicationSecrets m.data) else .error .state

/-- The type of message a machine waits for. -/
def awaits : TlsMachine C S → Option UInt8
  | client m =>
    match m.state with
    | .waitServerHello => some tlsServerHello
    | .waitEncryptedExtensions => some tlsEncryptedExtensions
    | .waitCertificate => some tlsCertificate
    | .waitCertificateVerify => some tlsCertificateVerify
    | .waitFinished => some tlsFinished
    | .connected => some tlsNewSessionTicket
    | .start | .failed => none
  | server m =>
    match m.state with
    | .waitClientHello => some tlsClientHello
    | .waitClientFinished => some tlsFinished
    | .start | .connected | .failed => none

/-- A machine that consumes a message was waiting for one of its type. -/
lemma awaits_of_receive_ok {machine : TlsMachine C S} {message : List UInt8} {capacity : ℕ}
    (h : (machine.receive steps message capacity).status = .ok) :
    ∃ type, tlsHandshakeHeaderParse message = .ok type ∧ machine.awaits = some type := by
  cases machine with
  | client m =>
    simp only [receive, tlsClientReceive] at h
    split_ifs at h
    · exact absurd h (m.fail_ne_ok _)
    split at h
    · exact absurd h (m.fail_ne_ok _)
    · rename_i type hparse
      refine ⟨type, hparse, ?_⟩
      unfold awaits
      split at h <;> rename_i hstate <;> simp only [hstate]
      all_goals first
        | exact congrArg some (TlsClient.type_of_expect_ok h).symm
        | exact absurd h (m.fail_ne_ok _)
  | server m =>
    simp only [receive, tlsServerReceive] at h
    split_ifs at h
    · exact absurd h (m.fail_ne_ok _)
    split at h
    · exact absurd h (m.fail_ne_ok _)
    · rename_i type hparse
      refine ⟨type, hparse, ?_⟩
      unfold awaits
      split at h <;> rename_i hstate <;> simp only [hstate]
      all_goals first
        | exact congrArg some (TlsServer.type_of_expect_ok h).symm
        | exact absurd h (m.fail_ne_ok _)

end TlsMachine

end WebTransport
