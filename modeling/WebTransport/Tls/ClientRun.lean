import WebTransport.Tls.Client

/-!
# How a client becomes connected

A run of the client's machine takes whatever bytes it is given, in whatever order. The invariant of
a run says, by the state, which messages were accepted so far and which checks each of them passed.
A state is left by one message alone, so a client that is connected has seen every check pass.
-/

namespace WebTransport

variable {P : Type} (crypto : TlsCrypto P)

/-! ## Runs -/

/-- Messages given one after another, each with the room for an answer. -/
def clientRun (client : TlsClientMachine P) : List (List UInt8 × ℕ) → TlsClientMachine P
  | [] => client
  | call :: calls =>
    clientRun (tlsClientMachineReceive crypto client call.1 call.2).machine calls

/-- The messages of a run that were accepted. -/
def clientAccepted (client : TlsClientMachine P) : List (List UInt8 × ℕ) → List (List UInt8)
  | [] => []
  | call :: calls =>
    let answer := tlsClientMachineReceive crypto client call.1 call.2
    let more := clientAccepted answer.machine calls
    if answer.status = .ok then call.1 :: more else more

/-- A handshake that has begun, with the ClientHello that was sent. -/
def ClientBegun (config : TlsClientConfig P) (hello : List UInt8) (client : TlsClientMachine P) :
    Prop :=
  ∃ before generated, tlsClientBegin crypto before config generated hello = (client, .ok) ∨
    ∃ random capacity,
      tlsClientBeginBuilt crypto before config generated random capacity = ⟨client, .ok, hello⟩

/-- Every secret and the private key are zeros. -/
structure TlsClientMachine.Scrubbed (client : TlsClientMachine P) : Prop where
  handshakeSecret : client.handshakeSecret = tls13Zeros
  masterSecret : client.masterSecret = tls13Zeros
  clientHandshakeSecret : client.clientHandshakeSecret = tls13Zeros
  serverHandshakeSecret : client.serverHandshakeSecret = tls13Zeros
  clientApplicationSecret : client.clientApplicationSecret = tls13Zeros
  serverApplicationSecret : client.serverApplicationSecret = tls13Zeros
  privateKey : client.privateKey = tls13Zeros

lemma TlsClientMachine.scrubbed_fail (client : TlsClientMachine P) : client.fail.Scrubbed :=
  ⟨rfl, rfl, rfl, rfl, rfl, rfl, rfl⟩

/-! ## What each message had to pass -/

/-- The ServerHello, and the server's secret of the handshake that follows from it. -/
structure ServerHelloPassed (config : TlsClientConfig P) (hello privateKey secret : List UInt8)
    (message : List UInt8) : Prop where
  type : tlsHandshakeHeaderParse message = .ok tlsServerHello
  secret : ∃ share ecdhe handshakeSecret, checkServerHello config message = .ok share ∧
    tlsKeyShareSharedSecret crypto privateKey share.key = .ok ecdhe ∧
    tls13HandshakeSecret crypto (tls13EarlySecret crypto) ecdhe = .ok handshakeSecret ∧
    secret =
      (tls13HandshakeTrafficSecrets crypto handshakeSecret (crypto.sha256 (hello ++ message))).2

/-- EncryptedExtensions, with the protocol it selected if any was offered. -/
structure EncryptedExtensionsPassed (config : TlsClientConfig P) (alpn message : List UInt8) :
    Prop where
  type : tlsHandshakeHeaderParse message = .ok tlsEncryptedExtensions
  selected : config.alpn ≠ [] → ∃ extensions,
    tlsEncryptedExtensionsParse message = .ok extensions ∧
      selectedAlpn config extensions = .ok alpn
  offered : config.alpn ≠ [] → alpn ∈ config.alpn

/-- The chain, with the key of its leaf. -/
structure CertificatePassed (config : TlsClientConfig P) (spki message : List UInt8) : Prop where
  type : tlsHandshakeHeaderParse message = .ok tlsCertificate
  chain : ∃ certificate, tlsCertificateParse message = .ok certificate ∧
    certificate.requestContext = [] ∧ certificate.entries ≠ [] ∧
    crypto.trustVerify config.trust certificate = .ok spki

/-- The signature over a transcript. -/
structure CertificateVerifyPassed (spki transcript message : List UInt8) : Prop where
  type : tlsHandshakeHeaderParse message = .ok tlsCertificateVerify
  signature : ∃ verify, tlsCertificateVerifyParse message = .ok verify ∧
    crypto.signatureVerify spki verify.scheme
      (tlsCertificateVerifyContent (crypto.sha256 transcript)) verify.signature = .ok ()

/-- The MAC over a transcript. -/
structure FinishedPassed (secret transcript message : List UInt8) : Prop where
  type : tlsHandshakeHeaderParse message = .ok tlsFinished
  mac : tlsFinishedParse message =
    .ok (tls13FinishedVerifyData crypto secret (crypto.sha256 transcript))

/-- What a connected client has accepted: the five messages of the server, each with its checks, and
after them nothing but session tickets. -/
structure ClientAuthenticated (config : TlsClientConfig P) (hello privateKey : List UInt8)
    (client : TlsClientMachine P) (sh ee ct cv fin : List UInt8) (tickets : List (List UInt8)) :
    Prop where
  serverHello :
    ServerHelloPassed crypto config hello privateKey client.serverHandshakeSecret sh
  encryptedExtensions : EncryptedExtensionsPassed config client.negotiatedAlpn ee
  certificate : CertificatePassed crypto config client.peerSpki ct
  certificateVerify :
    CertificateVerifyPassed crypto client.peerSpki (hello ++ sh ++ ee ++ ct) cv
  finished :
    FinishedPassed crypto client.serverHandshakeSecret (hello ++ sh ++ ee ++ ct ++ cv) fin
  tickets : ∀ ticket ∈ tickets, tlsHandshakeHeaderParse ticket = .ok tlsNewSessionTicket

/-- The invariant of a run: what was accepted so far, by the state. -/
def ClientInv (config : TlsClientConfig P) (hello privateKey : List UInt8)
    (client : TlsClientMachine P) (accepted : List (List UInt8)) : Prop :=
  match client.state with
  | .start => False
  | .waitServerHello =>
    accepted = [] ∧ client.config = config ∧ client.privateKey = privateKey ∧
      client.transcript = hello
  | .waitEncryptedExtensions => ∃ sh, accepted = [sh] ∧ client.config = config ∧
    client.transcript = hello ++ sh ∧
    ServerHelloPassed crypto config hello privateKey client.serverHandshakeSecret sh
  | .waitCertificate => ∃ sh ee, accepted = [sh, ee] ∧ client.config = config ∧
    client.transcript = hello ++ sh ++ ee ∧
    ServerHelloPassed crypto config hello privateKey client.serverHandshakeSecret sh ∧
    EncryptedExtensionsPassed config client.negotiatedAlpn ee
  | .waitCertificateVerify => ∃ sh ee ct, accepted = [sh, ee, ct] ∧ client.config = config ∧
    client.transcript = hello ++ sh ++ ee ++ ct ∧
    ServerHelloPassed crypto config hello privateKey client.serverHandshakeSecret sh ∧
    EncryptedExtensionsPassed config client.negotiatedAlpn ee ∧
    CertificatePassed crypto config client.peerSpki ct
  | .waitFinished => ∃ sh ee ct cv, accepted = [sh, ee, ct, cv] ∧ client.config = config ∧
    client.transcript = hello ++ sh ++ ee ++ ct ++ cv ∧
    ServerHelloPassed crypto config hello privateKey client.serverHandshakeSecret sh ∧
    EncryptedExtensionsPassed config client.negotiatedAlpn ee ∧
    CertificatePassed crypto config client.peerSpki ct ∧
    CertificateVerifyPassed crypto client.peerSpki (hello ++ sh ++ ee ++ ct) cv
  | .connected => ∃ sh ee ct cv fin tickets, accepted = [sh, ee, ct, cv, fin] ++ tickets ∧
    ClientAuthenticated crypto config hello privateKey client sh ee ct cv fin tickets
  | .failed => client.Scrubbed

/-! ## What a handler does with a message it accepts -/

lemma tls13TranscriptAppend_eq_ok {transcript message after : List UInt8}
    (h : tls13TranscriptAppend transcript message = .ok after) : after = transcript ++ message := by
  unfold tls13TranscriptAppend at h
  split at h
  · obtain ⟨-, h⟩ := Guard.of_ok h
    exact (Except.ok.inj h).symm
  · cases h

lemma TlsClientMachine.of_check_bind {α β : Type} {client : TlsClientMachine P}
    {x : Except Refusal α} {f : α → TlsClientStep P β} {b : β}
    (h : (client.check x >>= f) = .ok b) : ∃ a, x = .ok a ∧ f a = .ok b := by
  cases x with
  | error refusal => cases h
  | ok a => exact ⟨a, rfl, h⟩

/-- The last steps of a handler: the message is absorbed and the state goes on. -/
lemma TlsClientMachine.of_absorb {client next : TlsClientMachine P} {message : List UInt8}
    {f : List UInt8 → TlsClientMachine P}
    (h : (do let transcript ← client.check (tls13TranscriptAppend client.transcript message)
             return f transcript : TlsClientStep P (TlsClientMachine P)) = .ok next) :
    next = f (client.transcript ++ message) := by
  obtain ⟨transcript, happend, hdone⟩ := of_check_bind h
  rw [tls13TranscriptAppend_eq_ok happend] at hdone
  exact (Except.ok.inj hdone).symm

lemma deriveAfterServerHello_eq_ok {client next : TlsClientMachine P} {share : TlsKeyShare}
    (h : deriveAfterServerHello crypto client share = .ok next) :
    ∃ ecdhe handshakeSecret,
      tlsKeyShareSharedSecret crypto client.privateKey share.key = .ok ecdhe ∧
      tls13HandshakeSecret crypto (tls13EarlySecret crypto) ecdhe = .ok handshakeSecret ∧
      next = { client with
        handshakeSecret := handshakeSecret
        clientHandshakeSecret := (tls13HandshakeTrafficSecrets crypto handshakeSecret
          (crypto.sha256 client.transcript)).1
        serverHandshakeSecret := (tls13HandshakeTrafficSecrets crypto handshakeSecret
          (crypto.sha256 client.transcript)).2
        masterSecret := tls13MasterSecret crypto handshakeSecret } := by
  obtain ⟨ecdhe, hecdhe, h₁⟩ := TlsClientMachine.of_check_bind h
  obtain ⟨handshakeSecret, hsecret, h₂⟩ := TlsClientMachine.of_check_bind h₁
  exact ⟨ecdhe, handshakeSecret, hecdhe, hsecret, (Except.ok.inj h₂).symm⟩

lemma receiveServerHello_eq_ok {client next : TlsClientMachine P} {message : List UInt8}
    (h : receiveServerHello crypto client message = .ok next) :
    ∃ share derived, checkServerHello client.config message = .ok share ∧
      deriveAfterServerHello crypto
        { client with transcript := client.transcript ++ message } share = .ok derived ∧
      next = { derived with state := .waitEncryptedExtensions } := by
  obtain ⟨share, hshare, h₁⟩ := TlsClientMachine.of_check_bind h
  obtain ⟨transcript, happend, h₂⟩ := TlsClientMachine.of_check_bind h₁
  obtain ⟨derived, hderived, h₃⟩ := Guard.of_bind_ok h₂
  rw [tls13TranscriptAppend_eq_ok happend] at hderived
  exact ⟨share, derived, hshare, hderived, (Except.ok.inj h₃).symm⟩

lemma mem_of_selectedAlpn {config : TlsClientConfig P} {extensions : List TlsExtension}
    {name : List UInt8} (h : selectedAlpn config extensions = .ok name) : name ∈ config.alpn := by
  unfold selectedAlpn at h
  split at h
  · cases h
  · obtain ⟨names, -, h₁⟩ := Guard.of_bind_ok h
    split at h₁
    · split_ifs at h₁ with hmem
      cases h₁
      exact hmem
    · cases h₁

lemma receiveEncryptedExtensions_eq_ok {client next : TlsClientMachine P} {message : List UInt8}
    (h : receiveEncryptedExtensions client message = .ok next) :
    ∃ extensions alpn parameters, tlsEncryptedExtensionsParse message = .ok extensions ∧
      (client.config.alpn ≠ [] → selectedAlpn client.config extensions = .ok alpn) ∧
      serverTransportParameters client.config extensions = .ok parameters ∧
      next = { client with
        negotiatedAlpn := alpn
        peerTransportParameters := parameters.getD client.peerTransportParameters
        transcript := client.transcript ++ message
        state := .waitCertificate } := by
  obtain ⟨extensions, hparse, h₁⟩ := TlsClientMachine.of_check_bind h
  obtain ⟨named, hnamed, h₂⟩ := Guard.of_bind_ok h₁
  obtain ⟨parameters, hparameters, h₃⟩ := TlsClientMachine.of_check_bind h₂
  have hnext := TlsClientMachine.of_absorb h₃
  unfold keepSelectedAlpn at hnamed
  by_cases halpn : client.config.alpn = []
  · rw [if_pos halpn] at hnamed
    cases hnamed
    exact ⟨extensions, client.negotiatedAlpn, parameters, hparse, fun hne => absurd halpn hne,
      hparameters, hnext⟩
  · rw [if_neg halpn] at hnamed
    cases hselected : selectedAlpn client.config extensions with
    | error refusal =>
      rw [hselected] at hnamed
      cases hnamed
    | ok name =>
      rw [hselected] at hnamed
      cases hnamed
      exact ⟨extensions, name, parameters, hparse, fun _ => hselected, hparameters, hnext⟩

lemma receiveCertificate_eq_ok {client next : TlsClientMachine P} {message : List UInt8}
    (h : receiveCertificate crypto client message = .ok next) :
    ∃ certificate spki, tlsCertificateParse message = .ok certificate ∧
      certificate.requestContext = [] ∧ certificate.entries ≠ [] ∧
      crypto.trustVerify client.config.trust certificate = .ok spki ∧
      next = { client with
        peerSpki := spki
        transcript := client.transcript ++ message
        state := .waitCertificateVerify } := by
  obtain ⟨certificate, hparse, h₁⟩ := TlsClientMachine.of_check_bind h
  obtain ⟨hcontext, h₂⟩ := Guard.of_ok h₁
  obtain ⟨hentries, h₃⟩ := Guard.of_ok h₂
  obtain ⟨spki, htrust, h₄⟩ := TlsClientMachine.of_check_bind h₃
  exact ⟨certificate, spki, hparse, not_not.mp hcontext, hentries, htrust,
    TlsClientMachine.of_absorb h₄⟩

lemma receiveCertificateVerify_eq_ok {client next : TlsClientMachine P} {message : List UInt8}
    (h : receiveCertificateVerify crypto client message = .ok next) :
    ∃ verify, tlsCertificateVerifyParse message = .ok verify ∧
      crypto.signatureVerify client.peerSpki verify.scheme
        (tlsCertificateVerifyContent (crypto.sha256 client.transcript)) verify.signature = .ok () ∧
      next = { client with
        transcript := client.transcript ++ message
        state := .waitFinished } := by
  obtain ⟨verify, hparse, h₁⟩ := TlsClientMachine.of_check_bind h
  obtain ⟨⟨⟩, hsignature, h₂⟩ := TlsClientMachine.of_check_bind h₁
  exact ⟨verify, hparse, hsignature, TlsClientMachine.of_absorb h₂⟩

lemma tls13FinishedCheck_eq_ok {baseKey transcriptHash verifyData : List UInt8}
    (h : tls13FinishedCheck crypto baseKey transcriptHash verifyData = .ok ()) :
    verifyData = tls13FinishedVerifyData crypto baseKey transcriptHash := by
  obtain ⟨-, h₁⟩ := Guard.of_ok h
  obtain ⟨hequal, -⟩ := Guard.of_ok h₁
  exact (not_not.mp hequal).symm

lemma receiveFinished_eq_ok {client next : TlsClientMachine P} {message output : List UInt8}
    {capacity : ℕ} (h : receiveFinished crypto client message capacity = .ok (next, output)) :
    tlsFinishedParse message = .ok (tls13FinishedVerifyData crypto client.serverHandshakeSecret
        (crypto.sha256 client.transcript)) ∧
      tlsFinishedBuild (tls13FinishedVerifyData crypto client.clientHandshakeSecret
        (crypto.sha256 (client.transcript ++ message))) capacity = .ok output ∧
      next = { client with
        transcript := client.transcript ++ message ++ output
        clientApplicationSecret := (tls13ApplicationTrafficSecrets crypto client.masterSecret
          (crypto.sha256 (client.transcript ++ message))).1
        serverApplicationSecret := (tls13ApplicationTrafficSecrets crypto client.masterSecret
          (crypto.sha256 (client.transcript ++ message))).2
        state := .connected } := by
  obtain ⟨verifyData, hparse, h₁⟩ := TlsClientMachine.of_check_bind h
  obtain ⟨⟨⟩, hcheck, h₂⟩ := TlsClientMachine.of_check_bind h₁
  obtain ⟨transcript, happend, h₃⟩ := TlsClientMachine.of_check_bind h₂
  obtain ⟨finished, hbuild, h₄⟩ := TlsClientMachine.of_check_bind h₃
  obtain ⟨whole, hwhole, h₅⟩ := TlsClientMachine.of_check_bind h₄
  have htranscript := tls13TranscriptAppend_eq_ok happend
  have hours := tls13TranscriptAppend_eq_ok hwhole
  obtain ⟨hnext, houtput⟩ := Prod.mk.inj (Except.ok.inj h₅)
  subst htranscript hours houtput
  rw [tls13FinishedCheck_eq_ok crypto hcheck] at hparse
  exact ⟨hparse, hbuild, hnext.symm⟩

/-! ## One message -/

lemma TlsClientStep.of_silent {step : TlsClientStep P (TlsClientMachine P)}
    {next : TlsClientMachine P} {output : List UInt8} (h : step.silent = .ok (next, output)) :
    step = .ok next := by
  cases step with
  | error refused => cases h
  | ok after =>
    cases h
    rfl

/-- A message that a client consumes is the one that its state waits for. -/
lemma clientDispatch_eq_ok {client next : TlsClientMachine P} {type : UInt8}
    {message output : List UInt8} {capacity : ℕ}
    (h : clientDispatch crypto client type message capacity = .ok (next, output)) :
    (client.state = .waitServerHello ∧ type = tlsServerHello ∧
      receiveServerHello crypto client message = .ok next) ∨
    (client.state = .waitEncryptedExtensions ∧ type = tlsEncryptedExtensions ∧
      receiveEncryptedExtensions client message = .ok next) ∨
    (client.state = .waitCertificate ∧ type = tlsCertificate ∧
      receiveCertificate crypto client message = .ok next) ∨
    (client.state = .waitCertificateVerify ∧ type = tlsCertificateVerify ∧
      receiveCertificateVerify crypto client message = .ok next) ∨
    (client.state = .waitFinished ∧ type = tlsFinished ∧
      receiveFinished crypto client message capacity = .ok (next, output)) ∨
    (client.state = .connected ∧ type = tlsNewSessionTicket ∧ next = client) := by
  unfold clientDispatch at h
  split at h
  case h_7 | h_8 => cases h
  all_goals
    rename_i hstate
    obtain ⟨htype, hstep⟩ := Guard.of_ok h
    have htype := not_not.mp htype
  case h_1 => exact .inl ⟨hstate, htype, TlsClientStep.of_silent hstep⟩
  case h_2 => exact .inr (.inl ⟨hstate, htype, TlsClientStep.of_silent hstep⟩)
  case h_3 => exact .inr (.inr (.inl ⟨hstate, htype, TlsClientStep.of_silent hstep⟩))
  case h_4 => exact .inr (.inr (.inr (.inl ⟨hstate, htype, TlsClientStep.of_silent hstep⟩)))
  case h_5 => exact .inr (.inr (.inr (.inr (.inl ⟨hstate, htype, hstep⟩))))
  case h_6 =>
    cases hstep
    exact .inr (.inr (.inr (.inr (.inr ⟨hstate, htype, rfl⟩))))

/-- A call either consumes a message of the type its state waits for, or it refuses it: then the
client had failed already, or it fails. -/
lemma tlsClientMachineReceive_cases (client : TlsClientMachine P) (message : List UInt8)
    (capacity : ℕ) :
    (∃ type next output, tlsHandshakeHeaderParse message = .ok type ∧
      clientDispatch crypto client type message capacity = .ok (next, output) ∧
      tlsClientMachineReceive crypto client message capacity = ⟨next, .ok, output⟩) ∨
    (tlsClientMachineReceive crypto client message capacity).status ≠ .ok ∧
      (client.state = .failed ∧
          (tlsClientMachineReceive crypto client message capacity).machine = client ∨
        ∃ last : TlsClientMachine P,
          (tlsClientMachineReceive crypto client message capacity).machine = last.fail) := by
  unfold tlsClientMachineReceive
  by_cases hfailed : client.state = .failed
  · rw [if_pos hfailed]
    exact .inr ⟨Refusal.state.2, .inl ⟨hfailed, rfl⟩⟩
  rw [if_neg hfailed]
  by_cases hshort : message.length < tlsHandshakeHeaderLen
  · rw [if_pos hshort]
    exact .inr ⟨Refusal.truncated.2, .inr ⟨client, rfl⟩⟩
  rw [if_neg hshort]
  cases hparse : tlsHandshakeHeaderParse message with
  | error refusal => exact .inr ⟨refusal.2, .inr ⟨client, rfl⟩⟩
  | ok type =>
    cases hdispatch : clientDispatch crypto client type message capacity with
    | error refused =>
      simp only [hdispatch]
      exact .inr ⟨refused.2.2, .inr ⟨refused.1, rfl⟩⟩
    | ok answered =>
      simp only [hdispatch]
      exact .inl ⟨type, answered.1, answered.2, rfl, hdispatch, rfl⟩

variable {crypto}

/-- A message that is consumed is one more of the accepted ones. -/
lemma ClientInv.accept {config : TlsClientConfig P} {hello privateKey : List UInt8}
    {client next : TlsClientMachine P} {accepted : List (List UInt8)} {type : UInt8}
    {message output : List UInt8} {capacity : ℕ}
    (h : ClientInv crypto config hello privateKey client accepted)
    (htype : tlsHandshakeHeaderParse message = .ok type)
    (hstep : clientDispatch crypto client type message capacity = .ok (next, output)) :
    ClientInv crypto config hello privateKey next (accepted ++ [message]) := by
  unfold ClientInv at h
  obtain ⟨hs, rfl, hm⟩ | ⟨hs, rfl, hm⟩ | ⟨hs, rfl, hm⟩ | ⟨hs, rfl, hm⟩ | ⟨hs, rfl, hm⟩ |
    ⟨hs, rfl, rfl⟩ := clientDispatch_eq_ok crypto hstep
  · rw [hs] at h
    obtain ⟨rfl, rfl, rfl, rfl⟩ := h
    obtain ⟨share, derived, hshare, hderived, rfl⟩ := receiveServerHello_eq_ok crypto hm
    obtain ⟨ecdhe, secret, hecdhe, hsecret, rfl⟩ := deriveAfterServerHello_eq_ok crypto hderived
    exact ⟨message, rfl, rfl, rfl, htype, share, ecdhe, secret, hshare, hecdhe, hsecret, rfl⟩
  · rw [hs] at h
    obtain ⟨sh, rfl, rfl, htranscript, hsh⟩ := h
    obtain ⟨extensions, alpn, parameters, hparse, halpn, -, rfl⟩ :=
      receiveEncryptedExtensions_eq_ok hm
    refine ⟨sh, message, rfl, rfl, congrArg (· ++ message) htranscript, hsh, htype, ?_, ?_⟩
    · exact fun hne => ⟨extensions, hparse, halpn hne⟩
    · exact fun hne => mem_of_selectedAlpn (halpn hne)
  · rw [hs] at h
    obtain ⟨sh, ee, rfl, rfl, htranscript, hsh, hee⟩ := h
    obtain ⟨certificate, spki, hparse, hcontext, hentries, htrust, rfl⟩ :=
      receiveCertificate_eq_ok crypto hm
    exact ⟨sh, ee, message, rfl, rfl, congrArg (· ++ message) htranscript, hsh, hee, htype,
      certificate, hparse, hcontext, hentries, htrust⟩
  · rw [hs] at h
    obtain ⟨sh, ee, ct, rfl, rfl, htranscript, hsh, hee, hct⟩ := h
    obtain ⟨verify, hparse, hsignature, rfl⟩ := receiveCertificateVerify_eq_ok crypto hm
    rw [htranscript] at hsignature
    exact ⟨sh, ee, ct, message, rfl, rfl, congrArg (· ++ message) htranscript, hsh, hee, hct,
      htype, verify, hparse, hsignature⟩
  · rw [hs] at h
    obtain ⟨sh, ee, ct, cv, rfl, rfl, htranscript, hsh, hee, hct, hcv⟩ := h
    obtain ⟨hmac, -, rfl⟩ := receiveFinished_eq_ok crypto hm
    rw [htranscript] at hmac
    exact ⟨sh, ee, ct, cv, message, [], rfl, hsh, hee, hct, hcv, ⟨htype, hmac⟩, by simp⟩
  · rw [hs] at h
    obtain ⟨sh, ee, ct, cv, fin, tickets, rfl, hauth⟩ := h
    unfold ClientInv
    rw [hs]
    refine ⟨sh, ee, ct, cv, fin, tickets ++ [message], List.append_assoc _ _ _, ?_⟩
    refine { hauth with tickets := fun ticket hticket => ?_ }
    obtain hold | hnew := List.mem_append.mp hticket
    · exact hauth.tickets ticket hold
    · rw [List.mem_singleton.mp hnew]
      exact htype

/-- A failed machine keeps the invariant whatever was accepted before. -/
lemma ClientInv.of_scrubbed {config : TlsClientConfig P} {hello privateKey : List UInt8}
    {client : TlsClientMachine P} (accepted : List (List UInt8)) (hstate : client.state = .failed)
    (h : client.Scrubbed) : ClientInv crypto config hello privateKey client accepted := by
  unfold ClientInv
  rw [hstate]
  exact h

lemma ClientInv.run {config : TlsClientConfig P} {hello privateKey : List UInt8}
    (calls : List (List UInt8 × ℕ)) {client : TlsClientMachine P} {accepted : List (List UInt8)}
    (h : ClientInv crypto config hello privateKey client accepted) :
    ClientInv crypto config hello privateKey (clientRun crypto client calls)
      (accepted ++ clientAccepted crypto client calls) := by
  induction calls generalizing client accepted with
  | nil => rwa [clientAccepted, List.append_nil]
  | cons call calls ih =>
    rw [clientRun, clientAccepted]
    obtain ⟨type, next, output, htype, hstep, hanswer⟩ | ⟨hrefused, hmachine⟩ :=
      tlsClientMachineReceive_cases crypto client call.1 call.2
    · simp only [hanswer, if_true]
      have hnext := ih (h.accept htype hstep)
      rwa [List.append_assoc] at hnext
    · simp only [if_neg hrefused]
      refine ih ?_
      obtain ⟨hfailed, hmachine⟩ | ⟨last, hmachine⟩ := hmachine
      · rwa [hmachine]
      · rw [hmachine]
        exact .of_scrubbed accepted rfl last.scrubbed_fail

/-- What the two ways to begin share leaves a machine that has absorbed nothing. -/
lemma clientBeginCommon_eq_ok {before client : TlsClientMachine P} {config : TlsClientConfig P}
    {generated : Except Refusal (List UInt8 × List UInt8)}
    (h : clientBeginCommon crypto before config generated = .ok client) :
    client.config = config ∧ client.transcript = [] := by
  obtain ⟨-, h₁⟩ := Guard.of_ok h
  split at h₁
  · cases h₁
  · cases h₁
    exact ⟨rfl, rfl⟩

/-- A begun handshake waits for the ServerHello, and its transcript is the ClientHello. -/
lemma ClientBegun.inv {config : TlsClientConfig P} {hello : List UInt8}
    {client : TlsClientMachine P} (h : ClientBegun crypto config hello client) :
    ClientInv crypto config hello client.privateKey client [] := by
  obtain ⟨before, generated, hbegin | ⟨random, capacity, hbegin⟩⟩ := h
  · unfold tlsClientBegin at hbegin
    split at hbegin
    · rename_i refusal hrefused
      exact absurd (Prod.mk.inj hbegin).2 refusal.2
    · rename_i begun hcommon
      obtain ⟨hconfig, hempty⟩ := clientBeginCommon_eq_ok hcommon
      split_ifs at hbegin with hhello
      · exact absurd (Prod.mk.inj hbegin).2 Refusal.invalidArgument.2
      · split at hbegin
        · rename_i refusal hrefused
          exact absurd (Prod.mk.inj hbegin).2 refusal.2
        · rename_i transcript happend
          obtain ⟨rfl, -⟩ := Prod.mk.inj hbegin
          rw [hempty] at happend
          exact ⟨rfl, hconfig, rfl, tls13TranscriptAppend_eq_ok happend⟩
  · unfold tlsClientBeginBuilt at hbegin
    split at hbegin
    · rename_i refusal hrefused
      exact absurd (congrArg TlsAnswer.status hbegin) refusal.2
    · rename_i begun hcommon
      obtain ⟨hconfig, hempty⟩ := clientBeginCommon_eq_ok hcommon
      split at hbegin
      · rename_i refusal hrefused
        exact absurd (congrArg TlsAnswer.status hbegin) refusal.2
      · rename_i built transcript hbuilt
        obtain ⟨rfl, -, rfl⟩ := TlsAnswer.mk.inj hbegin
        obtain ⟨random', -, h₁⟩ := Guard.of_bind_ok hbuilt
        obtain ⟨hello', -, h₂⟩ := Guard.of_bind_ok h₁
        obtain ⟨-, h₃⟩ := Guard.of_ok h₂
        obtain ⟨absorbed, happend, h₄⟩ := Guard.of_bind_ok h₃
        obtain ⟨rfl, rfl⟩ := Prod.mk.inj (Except.ok.inj h₄)
        rw [hempty] at happend
        exact ⟨rfl, hconfig, rfl, tls13TranscriptAppend_eq_ok happend⟩

lemma clientRun_of_failed {client : TlsClientMachine P} (hfailed : client.state = .failed)
    (calls : List (List UInt8 × ℕ)) : clientRun crypto client calls = client := by
  induction calls with
  | nil => rfl
  | cons call calls ih =>
    rw [clientRun, tlsClientMachineReceive, if_pos hfailed]
    exact ih

lemma tlsClientMachineReceive_refused {client : TlsClientMachine P} {message : List UInt8}
    {capacity : ℕ} (h : (tlsClientMachineReceive crypto client message capacity).status ≠ .ok) :
    (tlsClientMachineReceive crypto client message capacity).machine.state = .failed := by
  obtain ⟨type, next, output, -, -, hanswer⟩ | ⟨-, ⟨hfailed, hmachine⟩ | ⟨last, hmachine⟩⟩ :=
    tlsClientMachineReceive_cases crypto client message capacity
  · rw [hanswer] at h
    exact absurd rfl h
  · rwa [hmachine]
  · rw [hmachine]
    rfl

variable (crypto) in
/-- A client is connected only through the whole authenticated sequence. It has the secrets of the
application only then, and a message that it refuses ends the handshake with nothing left of its
keys. -/
theorem tlsClientReceive_authenticated (config : TlsClientConfig P) (hello : List UInt8)
    (client : TlsClientMachine P) (h : ClientBegun crypto config hello client)
    (calls : List (List UInt8 × ℕ)) :
    let after := clientRun crypto client calls
    (after.state = .connected → ∃ sh ee ct cv fin tickets,
      clientAccepted crypto client calls = [sh, ee, ct, cv, fin] ++ tickets ∧
        ClientAuthenticated crypto config hello client.privateKey after sh ee ct cv fin tickets) ∧
    (∀ secrets, after.applicationSecrets = .ok secrets → after.state = .connected) ∧
    (∀ message capacity, (tlsClientMachineReceive crypto after message capacity).status ≠ .ok →
      (tlsClientMachineReceive crypto after message capacity).machine.state = .failed) ∧
    (after.state = .failed → after.Scrubbed ∧ ∀ more, clientRun crypto after more = after) := by
  have hinv := h.inv.run calls
  rw [List.nil_append] at hinv
  unfold ClientInv at hinv
  refine ⟨fun hconnected => ?_, fun secrets hsecrets => ?_,
    fun message capacity => tlsClientMachineReceive_refused, fun hfailed => ⟨?_, ?_⟩⟩
  · rw [hconnected] at hinv
    exact hinv
  · exact not_not.mp (Guard.of_ok hsecrets).1
  · rw [hfailed] at hinv
    exact hinv
  · exact clientRun_of_failed hfailed

/-- A block of the length of a secret. -/
def plainBlock (data : List UInt8) : List UInt8 :=
  (data ++ List.replicate tls13SecretLen 0).take tls13SecretLen

/-- A cryptography of sums and copies, to run handshakes with. -/
def plainCrypto : TlsCrypto Unit where
  sha256            := fun data => List.replicate tls13SecretLen (UInt8.ofNat data.length)
  hmacSha256        := fun _ data => plainBlock data
  hmacSha256_length := fun _ data => by simp [plainBlock, tls13SecretLen, tls13FinishedLen]
  hkdfExtract       := fun _ material => material
  hkdfExpandLabel   := fun secret _ _ _ => secret
  x25519            := fun scalar point =>
    .ok (List.zipWith (· + ·) (plainBlock scalar) (plainBlock point))
  x25519_length     := by
    rintro scalar point shared ⟨⟩
    simp [plainBlock, tls13SecretLen, tlsX25519KeyLen]
  trustVerify       := fun _ chain => .ok (chain.entries.flatMap TlsCertificateEntry.der)
  signatureVerify   := fun _ _ content signature =>
    if signature = content.drop 98 then .ok () else .error .authentication

/-- A client that takes any certificate and asks for one protocol. -/
def plainClientConfig : TlsClientConfig Unit where
  hostName                   := none
  alpn                       := [[0x68, 0x33]]
  requireTransportParameters := false
  transportParameters        := []
  trust                      := ()
  sessionId                  := []
  x25519Private              := some (List.replicate 32 1)

/-- A handshake that is completed, and a session ticket after it. -/
theorem tlsClientReceive_authenticated_ticket :
    let hello : List UInt8 := [1, 0, 0, 0]
    let client := (tlsClientBegin plainCrypto (.zeroed plainClientConfig) plainClientConfig
      (.error .tls) hello).1
    let sh : List UInt8 := [2, 0, 0, 86, 3, 3] ++ List.replicate 32 5 ++ [0, 0x13, 1, 0, 0, 46,
      0, 0x2b, 0, 2, 3, 4, 0, 0x33, 0, 36, 0, 0x1d, 0, 32] ++ List.replicate 32 6
    let ee : List UInt8 := [8, 0, 0, 11, 0, 9, 0, 16, 0, 5, 0, 3, 2, 0x68, 0x33]
    let ct : List UInt8 := [11, 0, 0, 10, 0, 0, 0, 6, 0, 0, 1, 9, 0, 0]
    let cv : List UInt8 := [15, 0, 0, 36, 4, 3, 0, 32] ++ List.replicate 32 123
    let fin : List UInt8 := [20, 0, 0, 32] ++ List.replicate 32 163
    let calls := [sh, ee, ct, cv, fin, [4, 0, 0, 0]].map fun message => (message, 36)
    ∃ sh ee ct cv fin tickets,
      clientAccepted plainCrypto client calls = [sh, ee, ct, cv, fin] ++ tickets ∧
        ClientAuthenticated plainCrypto plainClientConfig hello client.privateKey
          (clientRun plainCrypto client calls) sh ee ct cv fin tickets := by
  intro hello client sh ee ct cv fin calls
  have hbegun : tlsClientBegin plainCrypto (.zeroed plainClientConfig) plainClientConfig
      (.error .tls) hello = (client, .ok) := Prod.ext rfl (by decide +kernel)
  exact (tlsClientReceive_authenticated plainCrypto plainClientConfig hello client
    ⟨_, _, .inl hbegun⟩ calls).1 (by decide +kernel)

end WebTransport
