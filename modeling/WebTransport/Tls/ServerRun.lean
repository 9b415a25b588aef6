import WebTransport.Tls.ClientRun
import WebTransport.Tls.HandshakeRoundTrip
import WebTransport.Tls.Server

/-!
# The transcript of a server

A run of the server's machine takes messages and requests for the flight in any order. The flight
absorbs a message before it knows whether the next one can be written, and a refusal of the flight
does not end the handshake. So the transcript of a run is what was exchanged as long as every flight
is refused before it wrote anything or made whole, and as long as no Finished is accepted before the
flight was made.
-/

namespace WebTransport

variable {P : Type} (crypto : TlsCrypto P)

/-! ## Runs -/

/-- A call of the server's machine. -/
inductive ServerCall
  | receive (message : List UInt8) (capacity : ℕ)
      (generated : Except Refusal (List UInt8 × List UInt8))
  | flight (capacity : ℕ) (sign : List UInt8 → Except Refusal (List UInt8))

/-- What a call leaves and answers. -/
def ServerCall.answer (server : TlsServerMachine) : ServerCall → TlsAnswer TlsServerMachine
  | .receive message capacity generated =>
    tlsServerMachineReceive crypto server message capacity generated
  | .flight capacity sign => tlsServerMachineFlight crypto server capacity sign

/-- Calls one after another. -/
def serverRun (server : TlsServerMachine) : List ServerCall → TlsServerMachine
  | [] => server
  | call :: calls => serverRun (call.answer crypto server).machine calls

/-- What was exchanged: a message that was accepted, with its answer, or a flight. -/
inductive ServerEvent
  | accepted (message output : List UInt8)
  | flown (flight : List UInt8)
deriving DecidableEq, Repr

/-- What a call exchanges when it succeeds. -/
def ServerCall.event (output : List UInt8) : ServerCall → ServerEvent
  | .receive message _ _ => .accepted message output
  | .flight _ _ => .flown output

/-- What a run exchanged. -/
def serverLog (server : TlsServerMachine) : List ServerCall → List ServerEvent
  | [] => []
  | call :: calls =>
    let answer := call.answer crypto server
    let more := serverLog answer.machine calls
    if answer.status = .ok then call.event answer.output :: more else more

/-- A handshake that has begun. -/
def ServerBegun (config : TlsServerConfig) (server : TlsServerMachine) : Prop :=
  ∃ before random, tlsServerBegin before config random = (server, .ok)

/-! ## The flight as a text -/

/-- The EncryptedExtensions of a flight. -/
def flightExtensionsWire (extensions : List TlsExtension) : List UInt8 :=
  tlsMessageWire tlsEncryptedExtensions (tlsExtensionsWire extensions)

/-- The Certificate of a flight. -/
def flightCertificateWire (identity : TlsServerIdentity) : List UInt8 :=
  tlsMessageWire tlsCertificate identity.message.body

/-- The CertificateVerify of a flight. -/
def flightVerifyWire (identity : TlsServerIdentity) (signature : List UInt8) : List UInt8 :=
  tlsMessageWire tlsCertificateVerify
    (⟨identity.signatureScheme, signature⟩ : TlsCertificateVerifyMessage).body

/-- The Finished of a flight over a transcript. -/
def flightFinishedWire (server : TlsServerMachine) (transcript : List UInt8) : List UInt8 :=
  tlsMessageWire tlsFinished
    (tls13FinishedVerifyData crypto server.serverHandshakeSecret (crypto.sha256 transcript))

/-- A flight over a transcript: the signature is over the transcript through the Certificate, and
the MAC over the transcript through the CertificateVerify. -/
structure FlightOver (server : TlsServerMachine) (transcript : List UInt8)
    (sign : List UInt8 → Except Refusal (List UInt8)) (extensions : List TlsExtension)
    (signature : List UInt8) (flight : List UInt8) : Prop where
  expressed : serverEncryptedExtensions server.config = .ok extensions
  signed : sign (tlsCertificateVerifyContent (crypto.sha256 (transcript ++
    flightExtensionsWire extensions ++ flightCertificateWire server.config.identity))) =
      .ok signature
  text : flight = flightExtensionsWire extensions ++
    flightCertificateWire server.config.identity ++
    flightVerifyWire server.config.identity signature ++
    flightFinishedWire crypto server (transcript ++ flightExtensionsWire extensions ++
      flightCertificateWire server.config.identity ++
      flightVerifyWire server.config.identity signature)

/-! ## When a call keeps the transcript -/

/-- The flight is refused before it writes anything: the extensions cannot be expressed, or their
message has no room. -/
def FlightRefusedFirst (server : TlsServerMachine) (capacity : ℕ) : Prop :=
  ∀ extensions, serverEncryptedExtensions server.config = .ok extensions →
    (tlsEncryptedExtensionsEncode extensions (writerInit capacity)).2 ≠ .ok

/-- The flight can be made whole: the chain can be written, the key signs, and the buffer holds the
four messages. -/
structure FlightRoom (server : TlsServerMachine) (capacity : ℕ)
    (sign : List UInt8 → Except Refusal (List UInt8)) (extensions : List TlsExtension)
    (signature : List UInt8) : Prop where
  expressed : serverEncryptedExtensions server.config = .ok extensions
  total : (extensions.flatMap TlsExtension.wire).length < 256 ^ 2
  certificate : server.config.identity.message.Valid
  certificateLen : server.config.identity.message.body.length ≤ 2 ^ 20
  signed : sign (tlsCertificateVerifyContent (crypto.sha256 (server.transcript ++
    flightExtensionsWire extensions ++ flightCertificateWire server.config.identity))) =
      .ok signature
  signatureLen : signature.length ≤ tlsSignatureMax
  room : (flightExtensionsWire extensions).length +
    (flightCertificateWire server.config.identity).length +
    (flightVerifyWire server.config.identity signature).length +
    (tls13FinishedLen + tlsHandshakeHeaderLen) ≤ capacity

/-- A call that keeps the transcript what was exchanged. Before the flight was built, a flight is
refused first or made whole, and no Finished verifies. -/
def ServerCall.Settled (server : TlsServerMachine) : ServerCall → Prop
  | .receive message _ _ =>
    server.state = .waitClientFinished → server.flightBuilt = false →
      tlsFinishedParse message ≠ .ok (tls13FinishedVerifyData crypto server.clientHandshakeSecret
        (crypto.sha256 server.transcript))
  | .flight capacity sign =>
    server.state = .waitClientFinished → server.flightBuilt = false →
      FlightRefusedFirst server capacity ∨
        ∃ extensions signature, FlightRoom crypto server capacity sign extensions signature

/-- Every call of a run keeps the transcript what was exchanged. -/
def ServerRunSettled (server : TlsServerMachine) : List ServerCall → Prop
  | [] => True
  | call :: calls =>
    call.Settled crypto server ∧ ServerRunSettled (call.answer crypto server).machine calls

/-! ## What a run is to keep -/

/-- The transcript of a run is what was exchanged. -/
structure TranscriptExchanged (server : TlsServerMachine) (calls : List ServerCall) : Prop where
  /-- A flight that is refused fails the machine or leaves the transcript. -/
  refused : ∀ before capacity sign rest, calls = before ++ .flight capacity sign :: rest →
    let reached := serverRun crypto server before
    let answer := tlsServerMachineFlight crypto reached capacity sign
    answer.status ≠ .ok →
      answer.machine.state = .failed ∨ answer.machine.transcript = reached.transcript
  /-- A flight that succeeds is one over the ClientHello and the ServerHello. -/
  flown : ∀ before capacity sign rest, calls = before ++ .flight capacity sign :: rest →
    let reached := serverRun crypto server before
    let answer := tlsServerMachineFlight crypto reached capacity sign
    answer.status = .ok → ∃ ch sh extensions signature,
      serverLog crypto server before = [.accepted ch sh] ∧
        FlightOver crypto reached (ch ++ sh) sign extensions signature answer.output
  /-- A connected server has exchanged both Hellos, the flight and the client's Finished. -/
  connected : (serverRun crypto server calls).state = .connected → ∃ ch sh flight fin,
    serverLog crypto server calls = [.accepted ch sh, .flown flight, .accepted fin []] ∧
      (serverRun crypto server calls).transcript = ch ++ sh ++ flight ++ fin

/-! ## The flight -/

/-- A message whose framing is in order is absorbed. -/
lemma tls13TranscriptAppend_of_parse {message : List UInt8} {type : UInt8}
    (h : tlsHandshakeHeaderParse message = .ok type) (transcript : List UInt8) :
    tls13TranscriptAppend transcript message = .ok (transcript ++ message) := by
  match message with
  | [] | [_] | [_, _] | [_, _, _] => cases h
  | _ :: a :: b :: c :: body =>
    rw [tlsHandshakeHeaderParse] at h
    obtain ⟨hlength, -⟩ := Guard.of_ok h
    rw [tls13TranscriptAppend, if_neg]
    exact fun hne => hlength hne.symm

lemma TlsServerMachine.absorb_wire (server : TlsServerMachine) (type : UInt8) {body : List UInt8}
    (hbody : body.length < 256 ^ 3) :
    server.absorb (tlsMessageWire type body) =
      .ok { server with transcript := server.transcript ++ tlsMessageWire type body } := by
  have hparse := (tlsHandshakeHeaderParse_eq_ok _ type).mpr ⟨body, hbody, rfl⟩
  rw [absorb, tls13TranscriptAppend_of_parse hparse]
  rfl

/-- A message of the flight that has room is written and absorbed. -/
lemma flightMessage_whole {server : TlsServerMachine} {w : Writer}
    {encode : Writer → Writer × Status} {type : UInt8} {text body : List UInt8}
    (htext : text = tlsMessageWire type body) (hencode : WritesWhole encode text)
    (hbody : body.length < 256 ^ 3) (hok : w.ok = true)
    (hroom : w.bytes.length + text.length ≤ w.cap) :
    ∃ w', flightMessage server w encode =
        .ok ({ server with transcript := server.transcript ++ text }, w') ∧
      w'.ok = true ∧ w'.bytes = w.bytes ++ text ∧ w'.cap = w.cap := by
  obtain ⟨hstatus, hok', hbytes, hcap⟩ := hencode.written w hok hroom
  refine ⟨(encode w).1, ?_, hok', hbytes, hcap⟩
  rw [flightMessage, dif_neg (not_not.mpr hstatus), hbytes, List.drop_left, htext,
    server.absorb_wire type hbody]
  rfl

/-- The Finished of a flight that has room is written and absorbed. -/
lemma flightFinished_whole {server : TlsServerMachine} {w : Writer} (hok : w.ok = true)
    (hroom : w.bytes.length + (tls13FinishedLen + tlsHandshakeHeaderLen) ≤ w.cap) :
    ∃ w', flightFinished crypto server w =
        .ok ({ server with
          transcript := server.transcript ++ flightFinishedWire crypto server server.transcript },
            w') ∧
      w'.bytes = w.bytes ++ flightFinishedWire crypto server server.transcript := by
  have hdata := tls13FinishedVerifyData_length crypto server.serverHandshakeSecret
    (crypto.sha256 server.transcript)
  have hlength : (flightFinishedWire crypto server server.transcript).length =
      tls13FinishedLen + tlsHandshakeHeaderLen := by
    rw [flightFinishedWire, length_tlsMessageWire, hdata, Nat.add_comm]
  obtain ⟨hput, hbytes, -⟩ := Writer.put_of_fits
    (flightFinishedWire crypto server server.transcript) hok (by rw [hlength]; exact hroom)
  refine ⟨_, ?_, hbytes⟩
  rw [flightFinished]
  dsimp only
  rw [tlsFinishedBuild_eq_ok hdata (le_of_eq hlength)]
  change (if (w.put (flightFinishedWire crypto server server.transcript)).ok = false then _
    else _) = _
  rw [if_neg (by rw [hput]; exact nofun), server.absorb_wire tlsFinished (by rw [hdata]; decide)]
  rfl

/-- The EncryptedExtensions hold two extensions at most. -/
lemma length_serverEncryptedExtensions {config : TlsServerConfig} {extensions : List TlsExtension}
    (h : serverEncryptedExtensions config = .ok extensions) : extensions.length ≤ 2 := by
  obtain ⟨alpn, halpn, rfl⟩ := map_eq_ok h
  have hone : alpn.length ≤ 1 := by
    unfold serverAlpnExtension at halpn
    split at halpn
    · cases halpn
      exact Nat.zero_le 1
    · obtain ⟨-, hdone⟩ := Guard.of_ok halpn
      cases hdone
      exact le_rfl
  split_ifs
  · exact Nat.le_succ_of_le hone
  · rw [List.length_append]
    exact Nat.succ_le_succ hone

/-- A flight that has room is made over the transcript, and absorbed. -/
lemma serverBuildFlight_whole {server : TlsServerMachine} {capacity : ℕ}
    {sign : List UInt8 → Except Refusal (List UInt8)} {extensions : List TlsExtension}
    {signature : List UInt8}
    (h : FlightRoom crypto server capacity sign extensions signature) :
    ∃ flight, FlightOver crypto server server.transcript sign extensions signature flight ∧
      serverBuildFlight crypto server capacity sign =
        .ok ({ server with transcript := server.transcript ++ flight, flightBuilt := true },
          flight) := by
  have hcount : extensions.length ≤ tlsMaxExtensions :=
    (length_serverEncryptedExtensions h.expressed).trans (by decide)
  have htotal := h.total
  have hsignature := h.signatureLen
  unfold tlsSignatureMax at hsignature
  have hroom := h.room
  -- The four messages, each over what the ones before it left.
  obtain ⟨w₁, hee, hok₁, hbytes₁, hcap₁⟩ :=
    @flightMessage_whole server (writerInit capacity) _ _ (flightExtensionsWire extensions) _ rfl
      (writesWhole_tlsEncryptedExtensionsEncode hcount h.total)
      (by rw [tlsExtensionsWire, List.length_append, BigEndian.length_bytes]; omega) rfl
      (by
        change 0 + (flightExtensionsWire extensions).length ≤ capacity
        omega)
  change w₁.bytes = flightExtensionsWire extensions at hbytes₁
  change w₁.cap = capacity at hcap₁
  obtain ⟨w₂, hct, hok₂, hbytes₂, hcap₂⟩ :=
    @flightMessage_whole
      { server with transcript := server.transcript ++ flightExtensionsWire extensions } w₁ _ _
      (flightCertificateWire server.config.identity) _ rfl
      (writesWhole_tlsCertificateEncode h.certificate h.certificateLen)
      (lt_of_le_of_lt h.certificateLen (by decide)) hok₁
      (by rw [hbytes₁, hcap₁]; omega)
  obtain ⟨w₃, hcv, hok₃, hbytes₃, hcap₃⟩ :=
    @flightMessage_whole
      { server with transcript := server.transcript ++ flightExtensionsWire extensions ++
          flightCertificateWire server.config.identity } w₂ _ _
      (flightVerifyWire server.config.identity signature) _ rfl
      (@writesWhole_tlsCertificateVerifyEncode ⟨server.config.identity.signatureScheme, signature⟩
        (by dsimp only; omega))
      (by
        simp only [TlsCertificateVerifyMessage.body, List.length_append, BigEndian.length_bytes]
        omega)
      hok₂
      (by
        rw [hbytes₂, hcap₂, hbytes₁, hcap₁, List.length_append]
        omega)
  obtain ⟨w₄, hfin, hbytes₄⟩ :=
    @flightFinished_whole _ crypto
      { server with transcript := server.transcript ++ flightExtensionsWire extensions ++
          flightCertificateWire server.config.identity ++
          flightVerifyWire server.config.identity signature } w₃ hok₃
      (by
        rw [hbytes₃, hcap₃, hbytes₂, hcap₂, hbytes₁, hcap₁, List.length_append,
          List.length_append]
        omega)
  rw [hbytes₃, hbytes₂, hbytes₁] at hbytes₄
  refine ⟨w₄.bytes, ⟨h.expressed, h.signed, hbytes₄⟩, ?_⟩
  rw [serverBuildFlight, h.expressed]
  change (flightMessage server (writerInit capacity) _ >>= _) = _
  rw [hee]
  change (flightMessage _ w₁ _ >>= _) = _
  rw [hct]
  change (TlsServerMachine.check _ (sign (tlsCertificateVerifyContent (crypto.sha256
    (server.transcript ++ flightExtensionsWire extensions ++
      flightCertificateWire server.config.identity)))) >>= _) = _
  rw [h.signed]
  change (if signature.length > tlsSignatureMax then _ else _) = _
  rw [if_neg (not_lt.mpr h.signatureLen)]
  rw [hcv]
  change (flightFinished crypto _ w₃ >>= _) = _
  rw [hfin]
  change Except.ok _ = Except.ok _
  rw [hbytes₄]
  simp only [List.append_assoc]

/-- A flight that is refused before it wrote anything leaves the machine as it is. -/
lemma serverBuildFlight_refusedFirst {server : TlsServerMachine} {capacity : ℕ}
    (h : FlightRefusedFirst server capacity) (sign : List UInt8 → Except Refusal (List UInt8)) :
    ∃ refusal, serverBuildFlight crypto server capacity sign = .error (server, refusal) := by
  rw [serverBuildFlight]
  dsimp only
  cases hextensions : serverEncryptedExtensions server.config with
  | error refusal => exact ⟨refusal, rfl⟩
  | ok extensions =>
    have hrefused := h extensions hextensions
    refine ⟨⟨_, hrefused⟩, ?_⟩
    change (flightMessage server (writerInit capacity) _ >>= _) = _
    rw [flightMessage, dif_pos hrefused]
    rfl

/-! ## What a handler does with a message it accepts -/

lemma TlsServerMachine.of_check_bind {α β : Type} {server : TlsServerMachine}
    {x : Except Refusal α} {f : α → TlsServerStep β} {b : β}
    (h : (server.check x >>= f) = .ok b) : ∃ a, x = .ok a ∧ f a = .ok b := by
  cases x with
  | error refusal => cases h
  | ok a => exact ⟨a, rfl, h⟩

lemma TlsServerMachine.absorb_eq_ok {server next : TlsServerMachine} {message : List UInt8}
    (h : server.absorb message = .ok next) :
    next = { server with transcript := server.transcript ++ message } := by
  rw [absorb] at h
  cases happend : tls13TranscriptAppend server.transcript message with
  | error refusal =>
    rw [happend] at h
    cases h
  | ok transcript =>
    rw [happend] at h
    rw [← tls13TranscriptAppend_eq_ok happend]
    exact (Except.ok.inj h).symm

/-- What the checks of a ClientHello leave as it was. -/
lemma checkClientExtensions_eq_ok {server next : TlsServerMachine}
    {extensions : List TlsExtension} (h : checkClientExtensions server extensions = .ok next) :
    ∃ alpn parameters, next = { server with
      negotiatedAlpn := alpn
      peerTransportParameters := parameters } := by
  obtain ⟨kept, hkept, h₁⟩ := Guard.of_bind_ok h
  have halpn : ∃ alpn, kept = { server with negotiatedAlpn := alpn } := by
    unfold serverKeepAlpn at hkept
    split at hkept
    · cases hkept
      exact ⟨_, rfl⟩
    · rename_i wanted _
      cases hoffered : offeredAlpn wanted extensions with
      | error refusal =>
        rw [hoffered] at hkept
        cases hkept
      | ok _ =>
        rw [hoffered] at hkept
        cases hkept
        exact ⟨_, rfl⟩
  obtain ⟨alpn, rfl⟩ := halpn
  unfold serverKeepParameters at h₁
  split_ifs at h₁
  · cases hparameters : clientTransportParameters extensions with
    | error refusal =>
      rw [hparameters] at h₁
      cases h₁
    | ok parameters =>
      rw [hparameters] at h₁
      cases h₁
      exact ⟨alpn, parameters, rfl⟩
  · cases h₁
    exact ⟨alpn, _, rfl⟩

lemma serverDeriveHandshake_eq_ok {server next : TlsServerMachine} {share : TlsKeyShare}
    (h : serverDeriveHandshake crypto server share = .ok next) :
    ∃ ecdhe handshakeSecret,
      tlsKeyShareSharedSecret crypto server.privateKey share.key = .ok ecdhe ∧
      tls13HandshakeSecret crypto (tls13EarlySecret crypto) ecdhe = .ok handshakeSecret ∧
      next = { server with
        handshakeSecret := handshakeSecret
        clientHandshakeSecret := (tls13HandshakeTrafficSecrets crypto handshakeSecret
          (crypto.sha256 server.transcript)).1
        serverHandshakeSecret := (tls13HandshakeTrafficSecrets crypto handshakeSecret
          (crypto.sha256 server.transcript)).2
        masterSecret := tls13MasterSecret crypto handshakeSecret } := by
  obtain ⟨ecdhe, hecdhe, h₁⟩ := TlsServerMachine.of_check_bind h
  obtain ⟨handshakeSecret, hsecret, h₂⟩ := TlsServerMachine.of_check_bind h₁
  exact ⟨ecdhe, handshakeSecret, hecdhe, hsecret, (Except.ok.inj h₂).symm⟩

lemma serverReceiveClientHello_eq_ok {server next : TlsServerMachine}
    {message output : List UInt8} {capacity : ℕ}
    {generated : Except Refusal (List UInt8 × List UInt8)}
    (h : serverReceiveClientHello crypto server message capacity generated = .ok (next, output)) :
    next.state = .waitClientFinished ∧ next.flightBuilt = server.flightBuilt ∧
      next.transcript = server.transcript ++ message ++ output := by
  obtain ⟨hello, -, h₁⟩ := TlsServerMachine.of_check_bind h
  obtain ⟨share, -, h₂⟩ := TlsServerMachine.of_check_bind h₁
  obtain ⟨checked, hchecked, h₃⟩ := Guard.of_bind_ok h₂
  obtain ⟨⟨privateKey, publicKey⟩, -, h₄⟩ := TlsServerMachine.of_check_bind h₃
  obtain ⟨built, -, h₅⟩ := TlsServerMachine.of_check_bind h₄
  obtain ⟨first, hfirst, h₆⟩ := Guard.of_bind_ok h₅
  obtain ⟨second, hsecond, h₇⟩ := Guard.of_bind_ok h₆
  obtain ⟨derived, hderived, h₈⟩ := Guard.of_bind_ok h₇
  obtain ⟨rfl, rfl⟩ := Prod.mk.inj (Except.ok.inj h₈)
  obtain ⟨alpn, parameters, rfl⟩ := checkClientExtensions_eq_ok hchecked
  rw [TlsServerMachine.absorb_eq_ok hfirst] at hsecond
  rw [TlsServerMachine.absorb_eq_ok hsecond] at hderived
  obtain ⟨ecdhe, secret, -, -, rfl⟩ := serverDeriveHandshake_eq_ok crypto hderived
  exact ⟨rfl, rfl, rfl⟩

lemma serverReceiveFinished_eq_ok {server next : TlsServerMachine} {message : List UInt8}
    (h : serverReceiveFinished crypto server message = .ok next) :
    tlsFinishedParse message = .ok (tls13FinishedVerifyData crypto server.clientHandshakeSecret
        (crypto.sha256 server.transcript)) ∧
      next = { server with
        transcript := server.transcript ++ message
        clientApplicationSecret := (tls13ApplicationTrafficSecrets crypto server.masterSecret
          (crypto.sha256 server.transcript)).1
        serverApplicationSecret := (tls13ApplicationTrafficSecrets crypto server.masterSecret
          (crypto.sha256 server.transcript)).2
        state := .connected } := by
  obtain ⟨verifyData, hparse, h₁⟩ := TlsServerMachine.of_check_bind h
  obtain ⟨⟨⟩, hcheck, h₂⟩ := TlsServerMachine.of_check_bind h₁
  obtain ⟨absorbed, habsorbed, h₃⟩ := Guard.of_bind_ok h₂
  rw [tls13FinishedCheck_eq_ok crypto hcheck] at hparse
  rw [TlsServerMachine.absorb_eq_ok habsorbed] at h₃
  exact ⟨hparse, (Except.ok.inj h₃).symm⟩

/-! ## One call -/

/-- A message is consumed by the handler of the state, or it leaves a failed machine. -/
lemma tlsServerMachineReceive_cases (server : TlsServerMachine) (message : List UInt8)
    (capacity : ℕ) (generated : Except Refusal (List UInt8 × List UInt8)) :
    (∃ next output,
      tlsServerMachineReceive crypto server message capacity generated = ⟨next, .ok, output⟩ ∧
      (server.state = .waitClientHello ∧
          serverReceiveClientHello crypto server message capacity generated = .ok (next, output) ∨
        server.state = .waitClientFinished ∧ output = [] ∧
          serverReceiveFinished crypto server message = .ok next)) ∨
    (tlsServerMachineReceive crypto server message capacity generated).status ≠ .ok ∧
      (tlsServerMachineReceive crypto server message capacity generated).machine.state =
        .failed := by
  unfold tlsServerMachineReceive
  by_cases hfailed : server.state = .failed
  · rw [if_pos hfailed]
    exact .inr ⟨Refusal.state.2, hfailed⟩
  rw [if_neg hfailed]
  by_cases hshort : message.length < tlsHandshakeHeaderLen
  · rw [if_pos hshort]
    exact .inr ⟨Refusal.truncated.2, rfl⟩
  rw [if_neg hshort]
  cases hparse : tlsHandshakeHeaderParse message with
  | error refusal => exact .inr ⟨refusal.2, rfl⟩
  | ok type =>
    cases hdispatch : serverDispatch crypto server type message capacity generated with
    | error refused =>
      simp only [hdispatch]
      exact .inr ⟨refused.2.2, rfl⟩
    | ok answered =>
      simp only [hdispatch]
      refine .inl ⟨answered.1, answered.2, rfl, ?_⟩
      unfold serverDispatch at hdispatch
      split at hdispatch
      case h_3 | h_4 | h_5 => cases hdispatch
      all_goals
        rename_i hstate
        obtain ⟨-, hstep⟩ := Guard.of_ok hdispatch
      case h_1 => exact .inl ⟨hstate, hstep⟩
      case h_2 =>
        cases hfinished : serverReceiveFinished crypto server message with
        | error refused =>
          rw [hfinished] at hstep
          cases hstep
        | ok next =>
          rw [hfinished] at hstep
          cases hstep
          exact .inr ⟨hstate, rfl, rfl⟩

/-- A flight that keeps the transcript what was exchanged leaves the machine or is made whole. -/
lemma tlsServerMachineFlight_settled {server : TlsServerMachine} {capacity : ℕ}
    {sign : List UInt8 → Except Refusal (List UInt8)}
    (h : (ServerCall.flight capacity sign).Settled crypto server) :
    (tlsServerMachineFlight crypto server capacity sign).status ≠ .ok ∧
        (tlsServerMachineFlight crypto server capacity sign).machine = server ∨
      server.state = .waitClientFinished ∧ server.flightBuilt = false ∧
        ∃ extensions signature flight,
          FlightOver crypto server server.transcript sign extensions signature flight ∧
          tlsServerMachineFlight crypto server capacity sign =
            ⟨{ server with transcript := server.transcript ++ flight, flightBuilt := true }, .ok,
              flight⟩ := by
  unfold tlsServerMachineFlight
  by_cases hguard : server.state ≠ .waitClientFinished ∨ server.flightBuilt = true
  · rw [if_pos hguard]
    exact .inl ⟨Refusal.state.2, rfl⟩
  rw [if_neg hguard]
  obtain ⟨hstate, hbuilt⟩ := not_or.mp hguard
  have hstate := not_not.mp hstate
  have hbuilt := Bool.eq_false_of_not_eq_true hbuilt
  obtain hrefused | ⟨extensions, signature, hroom⟩ := h hstate hbuilt
  · obtain ⟨refusal, hflight⟩ := serverBuildFlight_refusedFirst crypto hrefused sign
    rw [hflight]
    exact .inl ⟨refusal.2, rfl⟩
  · obtain ⟨flight, hover, hflight⟩ := serverBuildFlight_whole crypto hroom
    rw [hflight]
    exact .inr ⟨hstate, hbuilt, extensions, signature, flight, hover, rfl⟩

/-! ## The invariant -/

/-- What was exchanged so far, by the state. -/
def ServerInv (server : TlsServerMachine) (log : List ServerEvent) : Prop :=
  match server.state with
  | .start => False
  | .waitClientHello => log = [] ∧ server.transcript = [] ∧ server.flightBuilt = false
  | .waitClientFinished => ∃ ch sh,
    (server.flightBuilt = false → log = [.accepted ch sh] ∧ server.transcript = ch ++ sh) ∧
    (server.flightBuilt = true → ∃ flight, log = [.accepted ch sh, .flown flight] ∧
      server.transcript = ch ++ sh ++ flight)
  | .connected => ∃ ch sh flight fin,
    log = [.accepted ch sh, .flown flight, .accepted fin []] ∧
      server.transcript = ch ++ sh ++ flight ++ fin
  | .failed => True

lemma ServerInv.of_failed {server : TlsServerMachine} (log : List ServerEvent)
    (h : server.state = .failed) : ServerInv server log := by
  unfold ServerInv
  rw [h]
  trivial

/-- A call that keeps the transcript keeps the invariant. -/
lemma ServerInv.step {server : TlsServerMachine} {log : List ServerEvent} {call : ServerCall}
    (h : ServerInv server log) (hcall : call.Settled crypto server) :
    ServerInv (call.answer crypto server).machine
      (log ++ if (call.answer crypto server).status = .ok then
        [call.event (call.answer crypto server).output] else []) := by
  cases call with
  | receive message capacity generated =>
    rw [ServerCall.answer]
    obtain ⟨next, output, hanswer, hhandled⟩ | ⟨hrefused, hfailed⟩ :=
      tlsServerMachineReceive_cases crypto server message capacity generated
    · rw [hanswer, if_pos rfl]
      unfold ServerInv at h
      obtain ⟨hstate, hhello⟩ | ⟨hstate, rfl, hfinished⟩ := hhandled
      · rw [hstate] at h
        obtain ⟨rfl, htranscript, hbuilt⟩ := h
        obtain ⟨hnext, hkept, habsorbed⟩ := serverReceiveClientHello_eq_ok crypto hhello
        rw [htranscript, List.nil_append] at habsorbed
        rw [hbuilt] at hkept
        unfold ServerInv
        rw [hnext]
        refine ⟨message, output, fun _ => ⟨rfl, habsorbed⟩, fun hset => ?_⟩
        rw [hkept] at hset
        cases hset
      · rw [hstate] at h
        obtain ⟨ch, sh, hunbuilt, hbuilt⟩ := h
        obtain ⟨hmac, rfl⟩ := serverReceiveFinished_eq_ok crypto hfinished
        cases hflown : server.flightBuilt with
        | false => exact absurd hmac (hcall hstate hflown)
        | true =>
          obtain ⟨flight, rfl, htranscript⟩ := hbuilt hflown
          exact ⟨ch, sh, flight, message, rfl, congrArg (· ++ message) htranscript⟩
    · exact .of_failed _ hfailed
  | flight capacity sign =>
    rw [ServerCall.answer]
    obtain ⟨hrefused, hmachine⟩ | ⟨hstate, hunbuilt, extensions, signature, flight, -, hanswer⟩ :=
      tlsServerMachineFlight_settled crypto hcall
    · rwa [if_neg hrefused, List.append_nil, hmachine]
    · rw [hanswer, if_pos rfl]
      unfold ServerInv at h ⊢
      rw [hstate] at h
      dsimp only
      rw [hstate]
      obtain ⟨ch, sh, hlog, -⟩ := h
      obtain ⟨rfl, htranscript⟩ := hlog hunbuilt
      exact ⟨ch, sh, nofun, fun _ => ⟨flight, rfl, congrArg (· ++ flight) htranscript⟩⟩

lemma ServerInv.run (calls : List ServerCall) {server : TlsServerMachine}
    {log : List ServerEvent} (h : ServerInv server log)
    (hcalls : ServerRunSettled crypto server calls) :
    ServerInv (serverRun crypto server calls) (log ++ serverLog crypto server calls) := by
  induction calls generalizing server log with
  | nil => rwa [serverLog, List.append_nil]
  | cons call calls ih =>
    have hnext := ih (h.step crypto hcalls.1) hcalls.2
    rw [List.append_assoc] at hnext
    rw [serverRun, serverLog]
    by_cases hok : (call.answer crypto server).status = .ok
    · rwa [if_pos hok] at hnext ⊢
    · rwa [if_neg hok] at hnext ⊢

lemma ServerRunSettled.split {server : TlsServerMachine} {before rest : List ServerCall}
    {call : ServerCall} (h : ServerRunSettled crypto server (before ++ call :: rest)) :
    ServerRunSettled crypto server before ∧
      call.Settled crypto (serverRun crypto server before) := by
  induction before generalizing server with
  | nil => exact ⟨trivial, h.1⟩
  | cons first before ih =>
    obtain ⟨hbefore, hcall⟩ := ih h.2
    exact ⟨⟨h.1, hbefore⟩, hcall⟩

lemma ServerBegun.inv {config : TlsServerConfig} {server : TlsServerMachine}
    (h : ServerBegun config server) : ServerInv server [] := by
  obtain ⟨before, random, hbegin⟩ := h
  unfold tlsServerBegin at hbegin
  split_ifs at hbegin
  · cases hbegin
  · cases hbegin
  · split at hbegin
    · rename_i refusal
      exact absurd (Prod.mk.inj hbegin).2 refusal.2
    · obtain ⟨rfl, -⟩ := Prod.mk.inj hbegin
      exact ⟨rfl, rfl, rfl⟩

/-- The transcript of a server is what was exchanged in every run in which each flight is refused
before it wrote anything or made whole, and no Finished verifies before the flight was built. -/
theorem tlsServerRun_transcriptExchanged (config : TlsServerConfig) (server : TlsServerMachine)
    (h : ServerBegun config server) (calls : List ServerCall)
    (hcalls : ServerRunSettled crypto server calls) : TranscriptExchanged crypto server calls where
  refused := by
    rintro before capacity sign rest rfl
    dsimp only
    intro hstatus
    obtain ⟨-, hmachine⟩ | ⟨-, -, extensions, signature, flight, -, hanswer⟩ :=
      tlsServerMachineFlight_settled crypto hcalls.split.2
    · exact .inr (congrArg TlsServerMachine.transcript hmachine)
    · rw [hanswer] at hstatus
      exact absurd rfl hstatus
  flown := by
    rintro before capacity sign rest rfl
    dsimp only
    intro hstatus
    obtain ⟨hbefore, hflight⟩ := hcalls.split
    obtain ⟨hrefused, -⟩ | ⟨hstate, hbuilt, extensions, signature, flight, hover, hanswer⟩ :=
      tlsServerMachineFlight_settled crypto hflight
    · exact absurd hstatus hrefused
    · have hinv := h.inv.run crypto before hbefore
      unfold ServerInv at hinv
      rw [hstate, List.nil_append] at hinv
      obtain ⟨ch, sh, hunbuilt, -⟩ := hinv
      obtain ⟨hlog, htranscript⟩ := hunbuilt hbuilt
      rw [htranscript] at hover
      rw [hanswer]
      exact ⟨ch, sh, extensions, signature, hlog, hover⟩
  connected := by
    intro hconnected
    have hinv := h.inv.run crypto calls hcalls
    unfold ServerInv at hinv
    rwa [hconnected, List.nil_append] at hinv

/-- A server with one certificate and nothing that it asks for. -/
def plainServerConfig : TlsServerConfig where
  identity                   := ⟨[[9]], [7], 0x0403⟩
  alpn                       := none
  requireTransportParameters := false
  transportParameters        := []
  x25519Private              := some (List.replicate 32 2)

/-- A ClientHello with a key share and nothing else that is asked for. -/
def plainClientHello : List UInt8 :=
  [1, 0, 0, 92, 3, 3] ++ List.replicate 32 5 ++ [0, 0, 2, 0x13, 1, 1, 0, 0, 49,
    0, 0x2b, 0, 3, 2, 3, 4, 0, 0x33, 0, 38, 0, 36, 0, 0x1d, 0, 32] ++ List.replicate 32 6

/-- The signature of `plainCrypto`. -/
def plainSign (content : List UInt8) : Except Refusal (List UInt8) := .ok (content.drop 98)

/-- A flight that is tried in a buffer of nothing, then made, and the client's Finished. -/
theorem tlsServerRun_transcriptExchanged_retried :
    let server := (tlsServerBegin (.zeroed plainServerConfig) plainServerConfig
      (.ok (List.replicate 32 3))).1
    let calls : List ServerCall := [.receive plainClientHello 1024 (.error .tls),
      .flight 0 plainSign, .flight 4096 plainSign,
      .receive ([20, 0, 0, 32] ++ List.replicate 32 26) 0 (.error .tls)]
    (serverRun plainCrypto server calls).state = .connected ∧
      TranscriptExchanged plainCrypto server calls := by
  intro server calls
  have hbegun : tlsServerBegin (.zeroed plainServerConfig) plainServerConfig
      (.ok (List.replicate 32 3)) = (server, .ok) := rfl
  have hcertificate : plainServerConfig.identity.message.Valid := by
    refine ⟨by decide, by decide, fun entry hentry => ?_, by decide⟩
    obtain rfl := List.mem_singleton.mp hentry
    exact ⟨by decide, by decide, by decide⟩
  have hrefused : ∀ reached : TlsServerMachine, reached.config = plainServerConfig →
      FlightRefusedFirst reached 0 := by
    intro reached hconfig extensions hextensions
    rw [hconfig] at hextensions
    cases hextensions
    decide +kernel
  have hroom : ∀ reached : TlsServerMachine, reached.config = plainServerConfig →
      reached.transcript.length = 186 →
      FlightRoom plainCrypto reached 4096 plainSign [] (List.replicate 32 206) := by
    intro reached hconfig hlength
    refine ⟨by rw [hconfig]; rfl, by decide, hconfig ▸ hcertificate, by rw [hconfig]; decide, ?_,
      by decide, by rw [hconfig]; decide +kernel⟩
    have hthrough : (reached.transcript ++ flightExtensionsWire [] ++
        flightCertificateWire reached.config.identity).length = 206 := by
      rw [hconfig, List.length_append, List.length_append, hlength]
      decide +kernel
    change Except.ok ((tlsCertificateVerifyContent (List.replicate 32 (UInt8.ofNat _))).drop 98) = _
    rw [hthrough]
    decide +kernel
  have hsettled : ServerRunSettled plainCrypto server calls :=
    ⟨fun hstate => absurd hstate (by decide +kernel),
      fun _ _ => .inl (hrefused _ (by decide +kernel)),
      fun _ _ => .inr ⟨_, _, hroom _ (by decide +kernel) (by decide +kernel)⟩,
      fun _ hbuilt => absurd hbuilt (by decide +kernel), trivial⟩
  exact ⟨by decide +kernel, tlsServerRun_transcriptExchanged plainCrypto plainServerConfig server
    ⟨_, _, hbegun⟩ calls hsettled⟩

/-- A flight whose EncryptedExtensions have room and whose Certificate has none is refused with the
first of them absorbed; and a client's Finished that comes before the flight is accepted. -/
theorem tlsServerFlight_absorbsRefused :
    let server := (tlsServerBegin (.zeroed plainServerConfig) plainServerConfig
      (.ok (List.replicate 32 3))).1
    let hello : ServerCall := .receive plainClientHello 1024 (.error .tls)
    ServerBegun plainServerConfig server ∧
      ¬TranscriptExchanged plainCrypto server [hello, .flight 10 plainSign] ∧
      ¬TranscriptExchanged plainCrypto server
        [hello, .receive ([20, 0, 0, 32] ++ List.replicate 32 186) 0 (.error .tls)] := by
  intro server hello
  have hbegun : tlsServerBegin (.zeroed plainServerConfig) plainServerConfig
      (.ok (List.replicate 32 3)) = (server, .ok) := rfl
  refine ⟨⟨_, _, hbegun⟩, fun h => ?_, fun h => ?_⟩
  · have hrefused := h.refused [hello] 10 plainSign [] rfl (by decide +kernel)
    revert hrefused
    decide +kernel
  · obtain ⟨ch, sh, flight, fin, hlog, -⟩ := h.connected (by decide +kernel)
    have hlength : (serverLog plainCrypto server [hello,
        .receive ([20, 0, 0, 32] ++ List.replicate 32 186) 0 (.error .tls)]).length = 3 :=
      congrArg List.length hlog
    exact absurd hlength (by decide +kernel)

end WebTransport
