import WebTransport.Quic.HandshakeFlush

/-!
# The level a handshake message is read from

A TLS message belongs to one encryption level: the hellos to the Initial space, the rest of the
handshake to the Handshake space. The driver reads each space on its own and hands every whole
message to the same machine, which looks at its state and at the type only. So a message is
read from its own level as long as the peer puts it there, and not otherwise.
-/

namespace WebTransport

variable {C S : Type}

/-! ## What handing a message over changes -/

namespace Handshake

/-- The part of the driver that the reading of messages depends on. -/
def reading (h : Handshake C S) :
    TlsMachine C S × (Space → CryptoRecv) × List (Handing C S) × Bool :=
  (h.tls, h.recv, h.handed, h.serverFlightBuilt)

/-- The driver and its machine agree on whether the server's flight was built. -/
def FlightKept (h : Handshake C S) : Prop :=
  ∀ server, h.tls = .server server → h.serverFlightBuilt = server.flightBuilt

/-- Drivers that read alike agree on the flight alike. -/
lemma FlightKept.of_reading {h h' : Handshake C S} (hread : h'.reading = h.reading)
    (hflight : h.FlightKept) : h'.FlightKept := by
  intro server hserver
  have htls : h'.tls = h.tls := congrArg Prod.fst hread
  have hbuilt : h'.serverFlightBuilt = h.serverFlightBuilt :=
    congrArg (fun r => r.2.2.2) hread
  rw [hbuilt]
  exact hflight server (htls ▸ hserver)

end Handshake

section Messages

variable (tls : HandshakeEnv C S)

lemma installLevel_reading (space : Space) (secrets : List UInt8 × List UInt8)
    (h : Handshake C S) : (installLevel tls space secrets h).1.reading = h.reading := by
  unfold installLevel
  split
  · rfl
  · simp only
    split <;> rfl

lemma installHandshakeKeys_reading (h : Handshake C S) :
    (installHandshakeKeys tls h).1.reading = h.reading := by
  unfold installHandshakeKeys
  split
  · rfl
  split
  · rfl
  · rename_i secrets _
    split
    · rfl
    have hlevel := installLevel_reading tls .handshake secrets h
    split <;> rename_i heq <;> rw [heq] at hlevel <;> exact hlevel

lemma installApplicationKeys_reading (h : Handshake C S) :
    (installApplicationKeys tls h).1.reading = h.reading := by
  unfold installApplicationKeys
  split_ifs
  · rfl
  split
  · rfl
  · rename_i secrets _
    have hlevel := installLevel_reading tls .application secrets h
    split <;> rename_i heq <;> rw [heq] at hlevel <;> exact hlevel

lemma queueMessage_reading (space : Space) (message : List UInt8) (h : Handshake C S) :
    (queueMessage space message h).1.reading = h.reading := by
  unfold queueMessage
  split <;> rfl

lemma keepAlpn_reading (h : Handshake C S) : (keepAlpn tls h).reading = h.reading := by
  unfold keepAlpn
  simp only
  split_ifs <;> rfl

lemma keepParameters_reading (h : Handshake C S) :
    (keepParameters tls h).1.reading = h.reading := by
  unfold keepParameters
  simp only
  split_ifs <;> rfl

lemma orFail_reading (r : Handshake C S × Status) : (orFail r).1.reading = r.1.reading := by
  unfold orFail
  split_ifs <;> rfl

lemma clientHandshakeLevel_reading (client : TlsClient C) (h : Handshake C S) :
    (clientHandshakeLevel tls client h).1.reading = h.reading := by
  unfold clientHandshakeLevel
  split
  · rfl
  · rw [orFail_reading, installHandshakeKeys_reading]

lemma clientAdvance_reading (client : TlsClient C) (h : Handshake C S) :
    (clientAdvance tls client h).1.reading = h.reading := by
  have hkeys := clientHandshakeLevel_reading tls client h
  unfold clientAdvance
  split <;> rename_i heq <;> rw [heq] at hkeys
  · rename_i h₁
    split
    · have happ : (orFail (installApplicationKeys tls h₁)).1.reading = h₁.reading := by
        rw [orFail_reading, installApplicationKeys_reading]
      split <;> rename_i heq₂ <;> rw [heq₂] at happ <;> exact happ.trans hkeys
    · exact hkeys
  · exact hkeys

/-- The server's part of a message: its flight, when it is due. -/
def TlsMachine.flighted (steps : TlsSteps C S) : TlsMachine C S → Option (TlsMachine C S)
  | client m => some (client m)
  | server m =>
    if m.state = .start ∨ m.state = .waitClientHello ∨ m.flightBuilt then some (server m)
    else
      let flight := tlsServerFlight steps m quicHandshakeFlightMax
      if flight.status = .ok then some (server flight.machine) else none

/-- A flight that is built is built for good, and leaves the machine in its state. -/
lemma tlsServerFlight_ok {steps : TlsSteps C S} {server : TlsServer S} {capacity : ℕ}
    (h : (tlsServerFlight steps server capacity).status = .ok) :
    (tlsServerFlight steps server capacity).machine.flightBuilt = true := by
  unfold tlsServerFlight at h ⊢
  split_ifs at h ⊢
  split at h
  · rename_i status _
    exact absurd h status.2
  · rfl

/-- A flight that is refused leaves the machine as it was. -/
lemma tlsServerFlight_refused {steps : TlsSteps C S} {server : TlsServer S} {capacity : ℕ}
    (h : (tlsServerFlight steps server capacity).status ≠ .ok) :
    (tlsServerFlight steps server capacity).machine = server := by
  unfold tlsServerFlight at h ⊢
  split_ifs at h ⊢
  · rfl
  split at h
  · rfl
  · exact absurd rfl h

/-- What the driver is left with after a step that may build the flight. -/
structure FlightStep (h h' : Handshake C S) (status : Status) : Prop where
  recv : h'.recv = h.recv
  handed : h'.handed = h.handed
  kept : h'.FlightKept
  flighted : status = .ok → h.tls.flighted tls.toTlsSteps = some h'.tls

/-- Only reading alike is a step without a flight, when none is due. -/
lemma FlightStep.of_reading {h h' : Handshake C S} {status : Status}
    (hread : h'.reading = h.reading) (hflight : h.FlightKept)
    (hdue : status = .ok → h.tls.flighted tls.toTlsSteps = some h.tls) :
    FlightStep tls h h' status where
  recv := congrArg (fun r => r.2.1) hread
  handed := congrArg (fun r => r.2.2.1) hread
  kept := hflight.of_reading hread
  flighted := by
    intro hok
    rw [hdue hok]
    exact congrArg some (congrArg Prod.fst hread).symm

lemma FlightStep.then_reading {h h₁ h' : Handshake C S} {status₁ status : Status}
    (hstep : FlightStep tls h h₁ status₁) (hread : h'.reading = h₁.reading)
    (hok : status = .ok → status₁ = .ok) : FlightStep tls h h' status where
  recv := (congrArg (fun r => r.2.1) hread).trans hstep.recv
  handed := (congrArg (fun r => r.2.2.1) hread).trans hstep.handed
  kept := hstep.kept.of_reading hread
  flighted := by
    intro h
    rw [hstep.flighted (hok h)]
    exact congrArg some (congrArg Prod.fst hread).symm

lemma buildFlight_step {server : TlsServer S} {h : Handshake C S}
    (hserver : h.tls = .server server) (hflight : h.FlightKept)
    (hstate : ¬ (server.state = .start ∨ server.state = .waitClientHello)) :
    FlightStep tls h (buildFlight tls server h).1 (buildFlight tls server h).2 := by
  have hbuilt := hflight server hserver
  unfold buildFlight
  split
  · rename_i hdone
    refine .of_reading tls rfl hflight fun _ => ?_
    rw [hserver, TlsMachine.flighted, if_pos]
    exact .inr (.inr (hbuilt ▸ hdone))
  · rename_i hdone
    simp only
    by_cases hok : (tlsServerFlight tls.toTlsSteps server quicHandshakeFlightMax).status = .ok
    · rw [if_neg (not_not.mpr hok)]
      have hqueue := queueMessage_reading .handshake
        (tlsServerFlight tls.toTlsSteps server quicHandshakeFlightMax).output
        { h with
          tls := TlsMachine.server (tlsServerFlight tls.toTlsSteps server
            quicHandshakeFlightMax).machine
          serverFlightBuilt := true }
      refine ⟨congrArg (fun r => r.2.1) hqueue, congrArg (fun r => r.2.2.1) hqueue, ?_, fun _ => ?_⟩
      · refine Handshake.FlightKept.of_reading hqueue ?_
        intro m hm
        obtain rfl := TlsMachine.server.inj hm
        exact (tlsServerFlight_ok hok).symm
      · rw [hserver, TlsMachine.flighted, if_neg, if_pos hok]
        · exact congrArg some (congrArg Prod.fst hqueue).symm
        · rintro (h | h | h)
          · exact hstate (.inl h)
          · exact hstate (.inr h)
          · exact hdone (hbuilt ▸ h)
    · rw [if_pos hok]
      refine ⟨rfl, rfl, ?_, fun h => absurd h hok⟩
      intro m hm
      obtain rfl := TlsMachine.server.inj hm
      rw [tlsServerFlight_refused hok]
      exact hbuilt

lemma serverHandshakeLevel_step {server : TlsServer S} {h : Handshake C S}
    (hserver : h.tls = .server server) (hflight : h.FlightKept) :
    FlightStep tls h (serverHandshakeLevel tls server h).1
      (serverHandshakeLevel tls server h).2 := by
  unfold serverHandshakeLevel
  split
  · rename_i hearly
    refine .of_reading tls rfl hflight fun _ => ?_
    rw [hserver, TlsMachine.flighted, if_pos (hearly.imp_right .inl)]
  · rename_i hstate
    have hkeys : (orFail (installHandshakeKeys tls h)).1.reading = h.reading := by
      rw [orFail_reading, installHandshakeKeys_reading]
    split <;> rename_i heq <;> rw [heq] at hkeys
    · rename_i h₁
      have htls : h₁.tls = h.tls := congrArg Prod.fst hkeys
      have hbuild := buildFlight_step tls (htls.trans hserver) (hflight.of_reading hkeys) hstate
      exact ⟨hbuild.recv.trans (congrArg (fun r => r.2.1) hkeys),
        hbuild.handed.trans (congrArg (fun r => r.2.2.1) hkeys), hbuild.kept,
        fun hok => htls ▸ hbuild.flighted hok⟩
    · rename_i hne
      exact .of_reading tls hkeys hflight fun hok => absurd hok hne

lemma serverAdvance_step {server : TlsServer S} {h : Handshake C S}
    (hserver : h.tls = .server server) (hflight : h.FlightKept) :
    FlightStep tls h (serverAdvance tls server h).1 (serverAdvance tls server h).2 := by
  have hlevel := serverHandshakeLevel_step tls hserver hflight
  unfold serverAdvance
  split <;> rename_i heq <;> rw [heq] at hlevel
  · rename_i h₁
    split
    · have happ : (orFail (installApplicationKeys tls h₁)).1.reading = h₁.reading := by
        rw [orFail_reading, installApplicationKeys_reading]
      split <;> rename_i heq₂ <;> rw [heq₂] at happ
      · exact hlevel.then_reading tls happ fun _ => rfl
      · exact hlevel.then_reading tls happ fun _ => rfl
    · exact hlevel
  · exact hlevel

/-- After a consumed message the stream goes on behind it, and a server's flight is built when
it is due. -/
structure AfterMessage (space : Space) (length : ℕ) (h h' : Handshake C S) (status : Status) :
    Prop where
  handed : h'.handed = h.handed
  kept : h'.FlightKept
  flighted : status = .ok → h.tls.flighted tls.toTlsSteps = some h'.tls
  available : status = .ok → quicCryptoRecvAvailable (h'.recv space) =
    (quicCryptoRecvAvailable (h.recv space)).drop length

/-- A step that reads alike, from a driver whose stream was consumed. -/
lemma AfterMessage.of_step {space : Space} {length : ℕ} {h h₁ h' : Handshake C S}
    {status : Status} (htls : h₁.tls = h.tls) (hhanded : h₁.handed = h.handed)
    (havail : quicCryptoRecvAvailable (h₁.recv space) =
      (quicCryptoRecvAvailable (h.recv space)).drop length)
    (hstep : FlightStep tls h₁ h' status) : AfterMessage tls space length h h' status where
  handed := hstep.handed.trans hhanded
  kept := hstep.kept
  flighted hok := htls ▸ hstep.flighted hok
  available _ := by rw [hstep.recv, havail]

lemma afterMessage_spec {space : Space} {length : ℕ} (output : List UInt8) {h : Handshake C S}
    (hflight : h.FlightKept) (hlen : length ≤ (quicCryptoRecvAvailable (h.recv space)).length) :
    AfterMessage tls space length h (afterMessage tls space length output h).1
      (afterMessage tls space length output h).2 := by
  have hkeep : (keepParameters tls (keepAlpn tls h)).1.reading = h.reading := by
    rw [keepParameters_reading, keepAlpn_reading]
  unfold afterMessage
  split <;> rename_i heq <;> rw [heq] at hkeep
  · rename_i h₁
    have hrecv : h₁.recv = h.recv := congrArg (fun r => r.2.1) hkeep
    obtain ⟨recv', hconsume, havail, -⟩ := quicCryptoRecvConsume_available hlen
    rw [hrecv, hconsume]
    simp only
    -- From here on only the stream of the space has changed.
    have hqueue : (if output = [] then (h₁.setRecv space recv', Status.ok)
        else queueMessage (if (h₁.setRecv space recv').tls.isClient = true then Space.handshake
          else .initial) output (h₁.setRecv space recv')).1.reading =
        (h₁.setRecv space recv').reading := by
      split
      · rfl
      · exact queueMessage_reading _ _ _
    have hkept : h₁.FlightKept := hflight.of_reading hkeep
    have hflight₁ : (h₁.setRecv space recv').FlightKept := hkept
    split <;> rename_i heq₂ <;> rw [heq₂] at hqueue
    · rename_i h₂
      have htls : h₂.tls = h.tls :=
        (congrArg Prod.fst hqueue).trans (congrArg Prod.fst hkeep)
      have hhanded : h₂.handed = h.handed :=
        (congrArg (fun r => r.2.2.1) hqueue).trans (congrArg (fun r => r.2.2.1) hkeep)
      have havail₂ : quicCryptoRecvAvailable (h₂.recv space) =
          (quicCryptoRecvAvailable (h.recv space)).drop length := by
        have h₂recv : h₂.recv = Function.update h₁.recv space recv' :=
          congrArg (fun r => r.2.1) hqueue
        rw [h₂recv, Function.update_self, havail]
      have hflight₂ : h₂.FlightKept := hflight₁.of_reading hqueue
      split <;> rename_i m hm
      · refine .of_step tls htls hhanded havail₂
          (.of_reading tls (clientAdvance_reading tls m h₂) hflight₂ fun _ => ?_)
        rw [hm, TlsMachine.flighted]
      · exact .of_step tls htls hhanded havail₂ (serverAdvance_step tls hm hflight₂)
    · rename_i hne
      exact ⟨(congrArg (fun r => r.2.2.1) hqueue).trans (congrArg (fun r => r.2.2.1) hkeep),
        hflight₁.of_reading hqueue, fun hok => absurd hok hne, fun hok => absurd hok hne⟩
  · rename_i hne
    exact ⟨congrArg (fun r => r.2.2.1) hkeep, hflight.of_reading hkeep,
      fun hok => absurd hok hne, fun hok => absurd hok hne⟩

/-- A message does not change whether the flight was built. -/
lemma tlsServerReceive_flightBuilt (steps : TlsSteps C S) (server : TlsServer S)
    (message : List UInt8) (capacity : ℕ) :
    (tlsServerReceive steps server message capacity).machine.flightBuilt = server.flightBuilt := by
  have hexpect : ∀ awaited type next step,
      (server.expect awaited type next step).machine.flightBuilt = server.flightBuilt := by
    intro awaited type next step
    unfold TlsServer.expect
    split
    · rfl
    · split <;> rfl
  unfold tlsServerReceive
  split
  · rfl
  split
  · rfl
  split
  · rfl
  · split
    · exact hexpect _ _ _ _
    · exact hexpect _ _ _ _
    all_goals rfl

/-! ## Levels -/

/-- The space a type of message belongs to, where it belongs to one. -/
def ownSpace (type : UInt8) : Option Space :=
  if type = tlsClientHello ∨ type = tlsServerHello then some .initial
  else if type = tlsEncryptedExtensions ∨ type = tlsCertificate ∨ type = tlsCertificateVerify ∨
      type = tlsFinished then some .handshake
  else none

/-- The machine waits for a message of this type, and the message belongs to another space. -/
def misplaced (machine : TlsMachine C S) (space : Space) (message : List UInt8) : Bool :=
  match tlsHandshakeHeaderParse message with
  | .error _ => false
  | .ok type =>
    decide (machine.awaits = some type) && (ownSpace type).any fun own => decide (own ≠ space)

/-- What a message makes of a machine: the message is consumed and the flight it makes due is
built. -/
def TlsMachine.turn (machine : TlsMachine C S) (message : List UInt8) :
    Option (TlsMachine C S) :=
  let answer := machine.receive tls.toTlsSteps message quicHandshakeMessageMax
  if answer.status = .ok then answer.machine.flighted tls.toTlsSteps else none

/-- Messages of one space in order, none of which is misplaced when its turn comes. -/
def inPlace (space : Space) : TlsMachine C S → List (List UInt8) → Bool
  | _, [] => true
  | machine, message :: rest =>
    !misplaced machine space message &&
      ((machine.turn tls message).all fun machine => inPlace space machine rest)

/-- The whole messages at the front of a stream. -/
def wholeMessages : ℕ → List UInt8 → List (List UInt8)
  | 0, _ => []
  | rounds + 1, bytes =>
    let length := tlsHandshakeMessageLen bytes
    if length = 0 then [] else bytes.take length :: wholeMessages rounds (bytes.drop length)

/-- A message that was handed over came from its own level: what was consumed belongs to its
space, and what the machine waited for and belongs elsewhere was refused without a trace. -/
structure Handing.OwnLevel (e : Handing C S) : Prop where
  consumed : e.status = .ok → ∀ type own, tlsHandshakeHeaderParse e.message = .ok type →
    ownSpace type = some own → e.space = own
  refused : ∀ type own, tlsHandshakeHeaderParse e.message = .ok type →
    e.before.awaits = some type → ownSpace type = some own → e.space ≠ own →
      e.status ≠ .ok ∧ e.after = e.before

/-- A message that is not misplaced is handed over at its own level. -/
lemma Handing.ownLevel_of_not_misplaced {machine : TlsMachine C S} {space : Space}
    {message : List UInt8} (h : misplaced machine space message = false) :
    Handing.OwnLevel ⟨space, message,
      (machine.receive tls.toTlsSteps message quicHandshakeMessageMax).status, machine,
      (machine.receive tls.toTlsSteps message quicHandshakeMessageMax).machine⟩ := by
  have hplace : ∀ type own, tlsHandshakeHeaderParse message = .ok type →
      machine.awaits = some type → ownSpace type = some own → space = own := by
    intro type own htype hawaits hown
    by_contra hne
    unfold misplaced at h
    rw [htype] at h
    simp only [hawaits, hown, decide_true, Option.any_some, Bool.true_and,
      decide_eq_false_iff_not, not_not] at h
    exact hne h.symm
  constructor
  · intro hok type own htype hown
    obtain ⟨type', htype', hawaits⟩ := TlsMachine.awaits_of_receive_ok tls.toTlsSteps hok
    obtain rfl : type' = type := Except.ok.inj (htype'.symm.trans htype)
    exact hplace type' own htype hawaits hown
  · intro type own htype hawaits hown hne
    exact absurd (hplace type own htype hawaits hown) hne

/-- Handing over one message: the observer sees it, and the machine takes its turn. -/
lemma processMessage_spec {space : Space} (message : List UInt8) {h : Handshake C S}
    (hflight : h.FlightKept)
    (hlen : message.length ≤ (quicCryptoRecvAvailable (h.recv space)).length) :
    ∃ e : Handing C S, (processMessage tls space message h).1.handed = h.handed ++ [e] ∧
      (processMessage tls space message h).1.FlightKept ∧
      (misplaced h.tls space message = false → e.OwnLevel) ∧
      ((processMessage tls space message h).2 = .ok →
        h.tls.turn tls message = some (processMessage tls space message h).1.tls ∧
        quicCryptoRecvAvailable ((processMessage tls space message h).1.recv space) =
          (quicCryptoRecvAvailable (h.recv space)).drop message.length) := by
  set answer := h.tls.receive tls.toTlsSteps message quicHandshakeMessageMax with hanswer
  set h₁ : Handshake C S := { h with
    tls := answer.machine
    handed := h.handed ++ [⟨space, message, answer.status, h.tls, answer.machine⟩] } with hh₁
  have hflight₁ : h₁.FlightKept := by
    intro server hserver
    cases htls : h.tls with
    | client m =>
      rw [hh₁, hanswer, htls] at hserver
      cases hserver
    | server m =>
      rw [hh₁, hanswer, htls] at hserver
      rw [← TlsMachine.server.inj hserver, tlsServerReceive_flightBuilt]
      exact hflight m htls
  have heq : processMessage tls space message h =
      if answer.status ≠ .ok then (h₁.fail answer.status quicFrameCrypto, answer.status)
      else afterMessage tls space message.length answer.output h₁ := rfl
  have hlevel : misplaced h.tls space message = false →
      Handing.OwnLevel ⟨space, message, answer.status, h.tls, answer.machine⟩ :=
    fun hplace => Handing.ownLevel_of_not_misplaced tls hplace
  rw [heq]
  split
  · rename_i hrefused
    exact ⟨_, rfl, hflight₁, hlevel, fun hok => absurd hok hrefused⟩
  · rename_i hok
    have hafter := afterMessage_spec tls answer.output hflight₁ hlen
    refine ⟨_, hafter.handed, hafter.kept, hlevel, fun hdone => ⟨?_, hafter.available hdone⟩⟩
    rw [TlsMachine.turn, ← hanswer, if_pos (not_not.mp hok)]
    exact hafter.flighted hdone

/-- The loop over the messages of a space hands over what is in place at its own level. -/
lemma processMessages_spec (space : Space) (rounds : ℕ) {h : Handshake C S}
    (hflight : h.FlightKept) :
    (processMessages tls space rounds h).1.FlightKept ∧
      ∃ new : List (Handing C S),
        (processMessages tls space rounds h).1.handed = h.handed ++ new ∧
        (inPlace tls space h.tls
          (wholeMessages rounds (quicCryptoRecvAvailable (h.recv space))) = true →
          ∀ e ∈ new, e.OwnLevel) := by
  induction rounds generalizing h with
  | zero => exact ⟨hflight, [], (List.append_nil _).symm, fun _ e he => absurd he List.not_mem_nil⟩
  | succ rounds ih =>
    set bytes := quicCryptoRecvAvailable (h.recv space) with hbytes
    rw [processMessages, wholeMessages]
    simp only [← hbytes]
    split
    · exact ⟨hflight, [], (List.append_nil _).symm, fun _ e he => absurd he List.not_mem_nil⟩
    · rename_i hwhole
      have hlen : (bytes.take (tlsHandshakeMessageLen bytes)).length =
          tlsHandshakeMessageLen bytes := by
        rw [List.length_take, min_eq_left (tlsHandshakeMessageLen_bounds hwhole).2]
      obtain ⟨e, hhanded, hkept, hlevel, hnext⟩ := processMessage_spec tls
        (bytes.take (tlsHandshakeMessageLen bytes)) hflight
        (hlen ▸ (tlsHandshakeMessageLen_bounds hwhole).2)
      split <;> rename_i hstep <;> rw [hstep] at hhanded hkept hnext
      · rename_i h₁
        obtain ⟨hturn, havail⟩ := hnext rfl
        obtain ⟨hkept', new, hnew, hlevels⟩ := ih hkept
        refine ⟨hkept', e :: new, by rw [hnew, hhanded, List.append_assoc, List.singleton_append],
          fun hplace e' he' => ?_⟩
        rw [inPlace, hturn, Option.all_some, Bool.and_eq_true, Bool.not_eq_true'] at hplace
        rcases List.mem_cons.mp he' with rfl | he'
        · exact hlevel hplace.1
        · refine hlevels ?_ e' he'
          rw [havail, ← hbytes, hlen]
          exact hplace.2
      · refine ⟨hkept, [e], hhanded, fun hplace e' he' => ?_⟩
        rw [inPlace, Bool.and_eq_true, Bool.not_eq_true'] at hplace
        rw [List.mem_singleton.mp he']
        exact hlevel hplace.1

/-- A frame of any kind: what it hands over is at its own level, if the messages that it
completes are in place. -/
lemma quicHandshakeOnFrame_spec (space : Space) (frame : Frame) {h : Handshake C S}
    (hflight : h.FlightKept) :
    (quicHandshakeOnFrame tls space frame h).1.FlightKept ∧
      ∃ new : List (Handing C S),
        (quicHandshakeOnFrame tls space frame h).1.handed = h.handed ++ new ∧
        ((∀ offset data recv, frame = .crypto offset data →
          quicCryptoRecvInsert (h.recv space) offset data = .ok recv → h.state ≠ .failed →
          inPlace tls space h.tls (wholeMessages (quicCryptoRecvAvailable recv).length
            (quicCryptoRecvAvailable recv)) = true) → ∀ e ∈ new, e.OwnLevel) := by
  have hnone : ∃ new : List (Handing C S), h.handed = h.handed ++ new ∧
      ((∀ offset data recv, frame = .crypto offset data →
        quicCryptoRecvInsert (h.recv space) offset data = .ok recv → h.state ≠ .failed →
        inPlace tls space h.tls (wholeMessages (quicCryptoRecvAvailable recv).length
          (quicCryptoRecvAvailable recv)) = true) → ∀ e ∈ new, e.OwnLevel) :=
    ⟨[], (List.append_nil _).symm, fun _ e he => absurd he List.not_mem_nil⟩
  unfold quicHandshakeOnFrame
  split
  · exact ⟨hflight, hnone⟩
  · rename_i hlive
    split
    · rename_i offset data
      split
      · exact ⟨hflight, hnone⟩
      · exact ⟨hflight, hnone⟩
      · rename_i recv hinsert
        have hset : (h.setRecv space recv).FlightKept := hflight
        have hself : (h.setRecv space recv).recv space = recv := Function.update_self ..
        obtain ⟨hkept, new, hnew, hlevels⟩ := processMessages_spec tls space
          (quicCryptoRecvAvailable ((h.setRecv space recv).recv space)).length hset
        refine ⟨hkept, new, hnew, fun hplace => hlevels ?_⟩
        rw [hself]
        exact hplace offset data recv rfl hinsert hlive
    · split
      · exact ⟨hflight, hnone⟩
      · exact ⟨hflight, hnone⟩
    · exact ⟨hflight, hnone⟩

end Messages

/-! ## Losses and sending -/

lemma reportEvents_reading (events : List ConnectionEvent) (h : Handshake C S) :
    (reportEvents events h).reading = h.reading := by
  induction events generalizing h with
  | nil => rfl
  | cons event events ih =>
    cases event with
    | sent | declaredLost => exact ih h
    | lostFrame descriptor =>
      rw [reportEvents, ih]
      unfold quicHandshakeOnLost
      split
      · rfl
      · split <;> rfl

lemma returned_reading (c : Connection) (h : Handshake C S) :
    (returned c h).reading = h.reading :=
  reportEvents_reading _ h

section Flush

variable {env : Env} {fuel now : ℕ}

lemma reading_closed : FlushClosed env fuel now
    fun h h' : Handshake C S => h'.reading = h.reading where
  refl _ := rfl
  trans h h' := h'.trans h
  retransmit _ _ _ := rfl
  send _ _ _ := rfl
  crypto _ := returned_reading _ _
  done _ := ⟨returned_reading _ _, returned_reading _ _⟩

lemma quicHandshakeFlush_reading {h : Handshake C S} {r : Handshake C S × Status}
    (hflush : quicHandshakeFlush env fuel now h = some r) : r.1.reading = h.reading :=
  reading_closed.quicHandshakeFlush hflush

end Flush

/-! ## Runs of a handshake -/

/-- What can happen to a handshake: a frame arrives in a space, it is flushed, or the
connection does work of its own. -/
inductive HandshakeCall
  | frame (space : Space) (frame : Frame)
  | flush (fuel now : ℕ)
  | connection (c : Connection)

/-- Make a call. -/
def HandshakeCall.run (tls : HandshakeEnv C S) (env : Env) :
    HandshakeCall → Handshake C S → Option (Handshake C S)
  | frame space f, h => some (quicHandshakeOnFrame tls space f h).1
  | flush fuel now, h => (quicHandshakeFlush env fuel now h).map Prod.fst
  | connection c, h => some (returned c h)

/-- A handshake that was just started, by a client or by a server. -/
def HandshakeStarted (tls : HandshakeEnv C S) (h : Handshake C S) : Prop :=
  ∃ c, quicHandshakeStartClient tls c = .ok h ∨ quicHandshakeStartServer tls c = .ok h

/-- The handshakes that calls lead to, of which each satisfies a condition on the handshake
before it. -/
inductive HandshakeRun (tls : HandshakeEnv C S) (env : Env)
    (P : Handshake C S → HandshakeCall → Prop) : Handshake C S → Prop
  | start {h : Handshake C S} : HandshakeStarted tls h → HandshakeRun tls env P h
  | call {h h' : Handshake C S} (call : HandshakeCall) : HandshakeRun tls env P h → P h call →
      call.run tls env h = some h' → HandshakeRun tls env P h'

/-- The messages that a frame completes in its space are in place: none of them, when its turn
comes, is of a type that the machine waits for and that belongs to another space. -/
def HandshakeCall.InPlace (tls : HandshakeEnv C S) (h : Handshake C S) :
    HandshakeCall → Prop
  | frame space f => ∀ offset data recv, f = .crypto offset data →
      quicCryptoRecvInsert (h.recv space) offset data = .ok recv → h.state ≠ .failed →
      inPlace tls space h.tls (wholeMessages (quicCryptoRecvAvailable recv).length
        (quicCryptoRecvAvailable recv)) = true
  | _ => True

lemma HandshakeStarted.reading {tls : HandshakeEnv C S} {h : Handshake C S}
    (hstart : HandshakeStarted tls h) : h.FlightKept ∧ h.handed = [] := by
  obtain ⟨c, hclient | hserver⟩ := hstart
  · unfold quicHandshakeStartClient at hclient
    split at hclient
    · cases hclient
    · rename_i data hello _
      have hqueue := queueMessage_reading .initial hello
        ({ connection := c, tls := .client ⟨.waitServerHello, data⟩ } : Handshake C S)
      simp only at hclient
      split at hclient
      · rename_i h₁ heq
        rw [heq] at hqueue
        obtain rfl := Except.ok.inj hclient
        have hkept : h₁.FlightKept := by
          intro server hserver
          have htls : h₁.tls = _ := congrArg Prod.fst hqueue
          rw [htls] at hserver
          cases hserver
        exact ⟨hkept, congrArg (fun r => r.2.2.1) hqueue⟩
      · cases hclient
  · unfold quicHandshakeStartServer at hserver
    split at hserver
    · cases hserver
    · obtain rfl := Except.ok.inj hserver
      refine ⟨?_, rfl⟩
      intro server htls
      obtain rfl := TlsMachine.server.inj htls
      rfl

/-- Every message that is ever handed over comes from its own level, if the messages that the
frames complete are in place. -/
theorem handed_from_own_level (tls : HandshakeEnv C S) (env : Env) {h : Handshake C S}
    (hrun : HandshakeRun tls env (HandshakeCall.InPlace tls) h) : ∀ e ∈ h.handed, e.OwnLevel := by
  have hinv : h.FlightKept ∧ ∀ e ∈ h.handed, e.OwnLevel := by
    induction hrun with
    | start hstart =>
      obtain ⟨hkept, hnone⟩ := hstart.reading
      exact ⟨hkept, fun e he => absurd (hnone ▸ he) List.not_mem_nil⟩
    | @call h h' call _ hplace hcall ih =>
      obtain ⟨hkept, hlevels⟩ := ih
      cases call with
      | frame space f =>
        obtain rfl := Option.some.inj hcall
        obtain ⟨hkept', new, hnew, hown⟩ := quicHandshakeOnFrame_spec tls space f hkept
        refine ⟨hkept', fun e he => ?_⟩
        rw [hnew] at he
        rcases List.mem_append.mp he with he | he
        · exact hlevels e he
        · exact hown hplace e he
      | flush fuel now =>
        obtain ⟨r, hflush, rfl⟩ := Option.map_eq_some_iff.mp hcall
        have hread := quicHandshakeFlush_reading hflush
        have hhanded : r.1.handed = h.handed := congrArg (fun r => r.2.2.1) hread
        exact ⟨hkept.of_reading hread, fun e he => hlevels e (hhanded ▸ he)⟩
      | connection c =>
        obtain rfl := Option.some.inj hcall
        have hread := returned_reading c h
        have hhanded : (returned c h).handed = h.handed := congrArg (fun r => r.2.2.1) hread
        exact ⟨hkept.of_reading hread, fun e he => hlevels e (hhanded ▸ he)⟩
  exact hinv.2

/-! ## A server that reads both messages from one space -/

/-- A ClientHello with the extensions a server asks for. -/
def sampleClientHello : List UInt8 :=
  [1, 0, 0, 0x6f, 3, 3] ++ List.replicate 32 0x11 ++
    [0, 0, 2, 0x13, 1, 1, 0, 0, 0x44, 0, 0x2b, 0, 3, 2, 3, 4,
      0, 0x33, 0, 0x26, 0, 0x24, 0, 0x1d, 0, 0x20] ++ List.replicate 32 0x22 ++
    [0, 0x10, 0, 5, 0, 3, 2, 0x68, 0x33, 0, 0x39, 0, 6, 4, 4, 0x80, 0, 0x10, 0]

/-- The Finished that the client sends for it. -/
def sampleFinished : List UInt8 := [20, 0, 0, 32] ++ List.replicate 32 0x33

/-- The ServerHello that answers it, and the message that stands for the rest of the flight. -/
def sampleServerHello : List UInt8 := [2, 0, 0, 0x26, 3, 3] ++ List.replicate 36 0x44

@[inherit_doc sampleServerHello]
def sampleFlight : List UInt8 := [8, 0, 0, 2, 0, 0]

/-- The steps of this one handshake: each accepts the message of the sample and no other. -/
def sampleTls : HandshakeEnv Unit Unit where
  receiveServerHello _ m := if m = sampleServerHello then .ok () else .error .tls
  receiveEncryptedExtensions _ m := if m = sampleFlight then .ok () else .error .tls
  receiveCertificate _ _ := .error .trust
  receiveCertificateVerify _ _ := .error .authentication
  receiveFinished _ _ _ := .error .tls
  clientHandshakeSecrets _ := ([1], [2])
  clientApplicationSecrets _ := ([3], [4])
  clientAlpn _ := []
  clientTransportParameters _ := []
  serverReceiveClientHello _ m _ :=
    if m = sampleClientHello then .ok ((), sampleServerHello) else .error .tls
  serverReceiveFinished _ m := if m = sampleFinished then .ok () else .error .tls
  serverBuildFlight _ _ := .ok ((), sampleFlight)
  serverHandshakeSecrets _ := ([2], [1])
  serverApplicationSecrets _ := ([4], [3])
  serverAlpn _ := [0x68, 0x33]
  serverTransportParameters _ := [4, 4, 0x80, 0, 0x10, 0]
  clientBegin := .ok ((), sampleClientHello)
  serverBegin := .ok ()
  packetKeysFromSecret secret _ := .ok ⟨secret⟩

/-- A server that waits for a ClientHello, with its Initial keys. -/
def sampleServer : Handshake Unit Unit :=
  { connection := { keyedServer with
      keysIn := fun space => if space = .initial then some ⟨[9]⟩ else none
      keysOut := fun space => if space = .initial then some ⟨[8]⟩ else none }
    tls := .server ⟨.waitClientHello, false, ()⟩
    state := .serverWaiting }

/-- The sample server after the ClientHello has arrived in the Initial space. -/
def sampleGreeted : Handshake Unit Unit :=
  (quicHandshakeOnFrame sampleTls .initial (.crypto 0 sampleClientHello) sampleServer).1

lemma sampleServer_started : HandshakeStarted sampleTls sampleServer :=
  ⟨sampleServer.connection, .inr rfl⟩

/-- A Finished that arrives in the Initial space, behind the ClientHello, completes the
handshake, although it was read under keys that everyone who saw the first packet can derive. -/
theorem finished_of_initial_completes :
    ∃ h, HandshakeRun sampleTls steadyEnv (fun _ _ => True) h ∧ h.state = .connected ∧
      ¬ ∀ e ∈ h.handed, e.OwnLevel := by
  refine ⟨(quicHandshakeOnFrame sampleTls .initial
    (.crypto sampleClientHello.length sampleFinished) sampleGreeted).1,
    .call (.frame .initial _) (.call (.frame .initial _) (.start sampleServer_started) trivial rfl)
      trivial rfl, by decide +kernel, ?_⟩
  intro hlevels
  have hfinished := hlevels ⟨.initial, sampleFinished, .ok,
    .server ⟨.waitClientFinished, true, ()⟩, .server ⟨.connected, true, ()⟩⟩ (by decide +kernel)
  have hspace := hfinished.consumed rfl 20 .handshake (by decide +kernel) (by decide +kernel)
  cases hspace

/-- The same Finished in the Handshake space is read from its own level. -/
theorem finished_of_handshake_completes :
    ∃ h, HandshakeRun sampleTls steadyEnv (HandshakeCall.InPlace sampleTls) h ∧
      h.state = .connected ∧ ∀ e ∈ h.handed, e.OwnLevel := by
  have hgreeted : HandshakeRun sampleTls steadyEnv (HandshakeCall.InPlace sampleTls)
      sampleGreeted := by
    refine .call (.frame .initial (.crypto 0 sampleClientHello)) (.start sampleServer_started)
      ?_ rfl
    intro offset data recv hframe hinsert _
    obtain ⟨rfl, rfl⟩ := Frame.crypto.inj hframe
    obtain rfl := Except.ok.inj hinsert
    decide +kernel
  have hdone : HandshakeRun sampleTls steadyEnv (HandshakeCall.InPlace sampleTls)
      (quicHandshakeOnFrame sampleTls .handshake (.crypto 0 sampleFinished) sampleGreeted).1 := by
    have hempty : sampleGreeted.recv .handshake = {} := by decide +kernel
    refine .call (.frame .handshake (.crypto 0 sampleFinished)) hgreeted ?_ rfl
    intro offset data recv hframe hinsert _
    obtain ⟨rfl, rfl⟩ := Frame.crypto.inj hframe
    rw [hempty] at hinsert
    obtain rfl := Except.ok.inj hinsert
    decide +kernel
  exact ⟨_, hdone, by decide +kernel, handed_from_own_level sampleTls steadyEnv hdone⟩

end WebTransport
