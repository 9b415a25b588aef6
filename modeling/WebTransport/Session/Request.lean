import WebTransport.Http3.Message
import WebTransport.Session.Protocol

/-!
# Session requests and their sub-protocol

A session begins with an extended CONNECT. The server decides what a decoded request is and selects
a sub-protocol from what the request offers; the client reads the response's selection against its
own offer (`webtransport/session_request.c`). Both ends come to the first token of the offer that
the server supports.
-/

namespace WebTransport

/-- `WT_WEBTRANSPORT_PROTOCOL_TOKEN`. -/
def webtransportProtocolToken : List UInt8 := ascii "webtransport-h3"

/-- `WT_WEBTRANSPORT_PROTOCOL_TOKEN_LEGACY`. -/
def webtransportProtocolTokenLegacy : List UInt8 := ascii "webtransport"

/-- `WT_WEBTRANSPORT_REJECT_NOT_FOUND`. -/
def webtransportRejectNotFound : ℕ := 404

/-- `WT_WEBTRANSPORT_REJECT_NOT_IMPLEMENTED`. -/
def webtransportRejectNotImplemented : ℕ := 501

/-- `WT_WEBTRANSPORT_REJECT_PROTOCOL_REQUIRED`. -/
def webtransportRejectProtocolRequired : ℕ := 400

inductive RequestOutcome
  | accept
  | notWebtransport
  | reject
deriving DecidableEq, Repr

/-- What the server is willing to serve; an authority or a path that is absent or empty stands for
any. -/
structure RequestPolicy where
  authority : Option (List UInt8)
  path : Option (List UInt8)
  wtEnabled : Bool
deriving DecidableEq, Repr

/-- A decision (`wt_webtransport_session_request_t`). -/
structure SessionRequest where
  outcome : RequestOutcome
  authority : Option (List UInt8)
  path : Option (List UInt8)
  status : ℕ
  selectedProtocol : Option (List UInt8)
deriving DecidableEq, Repr

/-- Whether a scheme is `https` in any case of its letters. -/
def schemeIsHttps (bytes : List UInt8) : Bool :=
  bytes.map (fun byte => if 0x41 ≤ byte ∧ byte ≤ 0x5a then byte + 32 else byte) = ascii "https"

/-- The place of the last byte of a kind. -/
def lastIndexOf (byte : UInt8) (bytes : List UInt8) : Option ℕ :=
  (bytes.reverse.findIdx? (· = byte)).map fun back => bytes.length - 1 - back

/-- The length of an authority without its port: a colon inside a bracketed address is none of a
port. -/
def authorityHostLength (bytes : List UInt8) : ℕ :=
  match lastIndexOf 0x3a bytes with
  | none => bytes.length
  | some colon =>
    match lastIndexOf 0x5d bytes with
    | none => colon
    | some bracket => if colon > bracket then colon else bytes.length

def authorityMatches (bytes : List UInt8) (expected : Option (List UInt8)) : Bool :=
  match expected with
  | none => true
  | some [] => true
  | some host => bytes.take (authorityHostLength bytes) = host

def pathMatches (bytes : List UInt8) (expected : Option (List UInt8)) : Bool :=
  match expected with
  | none => true
  | some [] => true
  | some path => bytes = path

/-- A decision with an outcome and the status of a refusal. -/
def SessionRequest.refusal (outcome : RequestOutcome) (status : ℕ) : SessionRequest where
  outcome          := outcome
  authority        := none
  path             := none
  status           := status
  selectedProtocol := none

/-- Decide what a decoded request is. -/
def sessionRequestValidate (message : Message) (policy : RequestPolicy) : SessionRequest :=
  let protocol := message.protocol.getD []
  if message.type ≠ .request ∨ message.method.getD [] ≠ ascii "CONNECT" then
    .refusal .notWebtransport webtransportRejectNotFound
  else if valueLength message.protocol = 0 ∨
      ¬(protocol = webtransportProtocolToken ∨ protocol = webtransportProtocolTokenLegacy) then
    .refusal .notWebtransport webtransportRejectNotFound
  else if valueLength message.scheme = 0 ∨ valueLength message.authority = 0 ∨
      valueLength message.path = 0 then
    .refusal .reject webtransportRejectNotFound
  else if schemeIsHttps (message.scheme.getD []) = false then
    .refusal .reject webtransportRejectNotFound
  else if policy.wtEnabled = false then
    .refusal .reject webtransportRejectNotImplemented
  else if authorityMatches (message.authority.getD []) policy.authority = false ∨
      pathMatches (message.path.getD []) policy.path = false then
    .refusal .reject webtransportRejectNotFound
  else
    { SessionRequest.refusal .accept webtransportRejectNotFound with
      authority := message.authority
      path := message.path }

/-- Select a sub-protocol for a decision. -/
def sessionRequestNegotiate (decision : SessionRequest) (offered supported : List (List UInt8))
    (requireSelection : Bool) : SessionRequest × Status :=
  if protocolValidate offered ≠ .ok then (decision, protocolValidate offered)
  else if protocolValidate supported ≠ .ok then (decision, protocolValidate supported)
  else if decision.outcome ≠ .accept then (decision, .ok)
  else
    match protocolSelect offered supported with
    | some selected => ({ decision with selectedProtocol := some selected }, .ok)
    | none =>
      if requireSelection then
        ({ decision with
            outcome := .reject
            status := webtransportRejectProtocolRequired
            selectedProtocol := none }, .ok)
      else (decision, .ok)

/-- The client's side: the response names a token that the client offered. -/
def sessionResponseSelectedProtocol (value : List UInt8) (offered : List (List UInt8)) :
    Except Status (List UInt8) :=
  match protocolDecodeItem value with
  | .error status => .error status
  | .ok selected => if offered.any (fun token => token = selected) then .ok selected
    else .error .protocol

section Negotiate

variable {message : Message} {policy : RequestPolicy} {offered supported : List (List UInt8)}

lemma sessionRequestValidate_selectedProtocol (message : Message) (policy : RequestPolicy) :
    (sessionRequestValidate message policy).selectedProtocol = none := by
  unfold sessionRequestValidate
  dsimp only
  split_ifs <;> rfl

lemma any_supported (token : List UInt8) (supported : List (List UInt8)) :
    (supported.any fun other => token = other) = decide (token ∈ supported) := by
  rw [Bool.eq_iff_iff, List.any_eq_true, decide_eq_true_iff]
  exact ⟨fun ⟨other, hother, heq⟩ => of_decide_eq_true heq ▸ hother,
    fun hmem => ⟨token, hmem, decide_eq_true rfl⟩⟩

/-- What is selected was offered and is supported, and nothing offered before it is. -/
lemma protocolSelect_eq_some {token : List UInt8} :
    protocolSelect offered supported = some token ↔
      token ∈ supported ∧ ∃ before after, offered = before ++ token :: after ∧
        ∀ other ∈ before, other ∉ supported := by
  unfold protocolSelect
  simp only [any_supported]
  rw [List.find?_eq_some_iff_append]
  simp

lemma protocolSelect_eq_none :
    protocolSelect offered supported = none ↔ ∀ token ∈ offered, token ∉ supported := by
  unfold protocolSelect
  simp only [any_supported]
  rw [List.find?_eq_none]
  simp

/-- The client reads a valid token that it offered. -/
lemma sessionResponseSelectedProtocol_quoted {token : List UInt8}
    (hvalid : protocolTokenValid token = true) (hoffered : token ∈ offered) :
    sessionResponseSelectedProtocol (quotedToken token) offered = .ok token := by
  have hread : protocolDecodeItem (quotedToken token) = .ok token :=
    protocolDecodeItem_eq_ok.mpr ⟨rfl, hvalid⟩
  rw [sessionResponseSelectedProtocol, hread]
  exact if_pos (by simpa using hoffered)

/-- A negotiation from the client's offer to what the client reads of the answer. -/
structure Negotiated (message : Message) (policy : RequestPolicy)
    (offered supported : List (List UInt8)) (requireSelection : Bool) (w : Writer) : Prop where
  /-- The offer arrives as it was made. -/
  offer : ∃ w' field, protocolEncodeList w offered = (w', .ok) ∧ w'.bytes = w.bytes ++ field ∧
    protocolDecodeList field = .ok offered
  selected :
    ∀ before token after, offered = before ++ token :: after → token ∈ supported →
      (∀ other ∈ before, other ∉ supported) →
      sessionRequestNegotiate (sessionRequestValidate message policy) offered supported
          requireSelection =
        ({ sessionRequestValidate message policy with selectedProtocol := some token }, .ok) ∧
      ∀ wi : Writer, wi.ok = true → wi.bytes.length + token.length + 2 ≤ wi.cap →
        ∃ wi' item, protocolEncodeItem wi token = (wi', .ok) ∧ wi'.bytes = wi.bytes ++ item ∧
          sessionResponseSelectedProtocol item offered = .ok token
  none :
    (∀ token ∈ offered, token ∉ supported) →
      let negotiated := sessionRequestNegotiate (sessionRequestValidate message policy) offered
        supported requireSelection
      negotiated.2 = .ok ∧ negotiated.1.selectedProtocol = none ∧
        (negotiated.1.outcome = .reject ↔ requireSelection = true) ∧
        (negotiated.1.outcome = .accept ↔ requireSelection = false)

/-- The negotiation of every valid offer that is not empty, with every valid list of what the server
supports; and what the server reads as an offer. -/
theorem sessionRequest_negotiated (hoffered : protocolValidate offered = .ok) (hne : offered ≠ [])
    (hsupported : protocolValidate supported = .ok)
    (haccept : (sessionRequestValidate message policy).outcome = .accept)
    (requireSelection : Bool) {w : Writer} (hok : w.ok = true)
    (hroom : w.bytes.length + (listWire true offered).length ≤ w.cap) :
    Negotiated message policy offered supported requireSelection w ∧
      ∀ value list, protocolDecodeList value = .ok list →
        ListText list value ∧ (∀ token ∈ list, protocolTokenValid token = true) ∧ list.Nodup := by
  have hnegotiate : sessionRequestNegotiate (sessionRequestValidate message policy) offered
      supported requireSelection = match protocolSelect offered supported with
        | some selected =>
          ({ sessionRequestValidate message policy with selectedProtocol := some selected }, .ok)
        | none =>
          if requireSelection then
            ({ sessionRequestValidate message policy with
                outcome := .reject
                status := webtransportRejectProtocolRequired
                selectedProtocol := none }, .ok)
          else (sessionRequestValidate message policy, .ok) := by
    rw [sessionRequestNegotiate, if_neg (not_not.mpr hoffered), if_neg (not_not.mpr hsupported),
      if_neg (not_not.mpr haccept)]
  refine ⟨⟨?_, ?_, ?_⟩, ?_⟩
  · obtain ⟨w', hw', hbytes⟩ := protocolEncodeList_fits hoffered hok hroom
    exact ⟨w', _, hw', hbytes, protocolDecodeList_listWire hne hoffered⟩
  · intro before token after hsplit hmem hbefore
    have hselect : protocolSelect offered supported = some token :=
      protocolSelect_eq_some.mpr ⟨hmem, before, after, hsplit, hbefore⟩
    have hin : token ∈ offered := by
      rw [hsplit]
      simp
    have hvalid : protocolTokenValid token = true :=
      ((protocolValidate_eq_ok offered).mp hoffered).2.1 token hin
    rw [hselect] at hnegotiate
    refine ⟨hnegotiate, fun wi hwi hfits => ?_⟩
    obtain ⟨wi', hwi', -, hbytes, -⟩ := protocolEncodeItem_fits hvalid hwi (by
      simp only [quotedToken, List.length_cons, List.length_append, List.length_nil]
      omega)
    exact ⟨wi', _, hwi', hbytes, sessionResponseSelectedProtocol_quoted hvalid hin⟩
  · intro hnone
    rw [protocolSelect_eq_none.mpr hnone] at hnegotiate
    have hclear := sessionRequestValidate_selectedProtocol message policy
    rw [hnegotiate]
    cases requireSelection with
    | true => exact ⟨rfl, rfl, by simp, by simp⟩
    | false => exact ⟨rfl, hclear, by simp [haccept], by simp [haccept]⟩
  · intro value list hread
    obtain ⟨htext, hvalid⟩ := (protocolDecodeList_eq_ok value list).mp hread
    obtain ⟨-, hall, hnodup⟩ := (protocolValidate_eq_ok list).mp hvalid
    exact ⟨htext, hall, hnodup⟩

/-- A request for `chat` or `echo` at a server that supports `echo` and `chat`. -/
theorem sessionRequest_negotiated_chat :
    let message : Message :=
      { type := .request
        method := some (ascii "CONNECT")
        scheme := some (ascii "https")
        path := some (ascii "/")
        authority := some (ascii "localhost")
        protocol := some (ascii "webtransport-h3") }
    let offered := [ascii "chat", ascii "echo"]
    Negotiated message ⟨none, none, true⟩ offered [ascii "echo", ascii "chat"] true
        (writerInit 64) ∧
      ∀ value list, protocolDecodeList value = .ok list →
        ListText list value ∧ (∀ token ∈ list, protocolTokenValid token = true) ∧ list.Nodup :=
  sessionRequest_negotiated (by decide) (by decide) (by decide) (by decide) true rfl (by decide)

end Negotiate

end WebTransport
