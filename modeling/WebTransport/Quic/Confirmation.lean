import WebTransport.Quic.ConnectionDatagram
import WebTransport.Quic.HandshakeLevels
import WebTransport.Quic.SendClosure

/-!
# The confirmation of a handshake

The driver notes that its handshake is confirmed, and so does the connection under it, where the
rules for key updates, connection IDs and round trip samples read it. A client notes both when the
server's HANDSHAKE_DONE arrives. A server notes its own copy only, when the client's Finished has
been verified, and the connection never learns of it.
-/

namespace WebTransport

variable {C S : Type}

/-! ## What confirmation means -/

/-- A key update is outstanding: the first packet of the phase was not acknowledged yet, or not
even sent. -/
def Connection.UpdateOutstanding (c : Connection) : Prop :=
  c.keyUpdateAwaitingConfirmation = true ∨
    c.keyPhaseFirstPn = none ∧ ¬(c.keyUpdatesInitiated = 0 ∧ c.keyUpdatesResponded = 0)

/-- An Application packet that comes when the keys are used up, and no update is outstanding, is
answered by an update, and the connection stays as open as it was. -/
def Connection.UpdatesAtLimit (c : Connection) : Prop :=
  ∀ (env : Env) (o : Outgoing), o.space = .application → (c.keysOut .application).isSome →
    (c.hasPeer = true ∨ c.config.role ≠ .client) →
    o.payload.length ≤ quicConnectionPayloadMax - 128 →
    c.aeadConfidentialityLimit ≤ c.aeadEncrypted .application → ¬c.UpdateOutstanding →
      let r := quicConnectionInitiateKeyUpdate env c
      r.1.close = c.close ∧
        sendGuard env o c = if r.2 = .ok then .pass r.1 else .refuse r.1 r.2

/-- The connection ID that the client chose for the server is not one of this endpoint's, unless it
is one for another reason. -/
def Connection.OriginalForeign (c : Connection) : Prop :=
  c.originalDestinationId ≠ c.config.localConnectionId →
    idSlot c.issuedIds (·.id = c.originalDestinationId) = none →
      localConnectionIdSequence c c.originalDestinationId = none

/-- The driver and the connection agree on the confirmation, and what follows from it holds. -/
structure Handshake.ConfirmedAlike (h : Handshake C S) : Prop where
  same : h.confirmed = h.connection.handshakeConfirmed
  gone : h.confirmed = true →
    h.connection.keysIn .handshake = none ∧ h.connection.keysOut .handshake = none
  foreign : h.confirmed = true → h.connection.OriginalForeign
  updates : h.confirmed = true → h.connection.UpdatesAtLimit

/-- What the connection notes of the confirmation, and its Handshake keys. -/
def Connection.confirmation (c : Connection) : Bool × Option PacketKeys × Option PacketKeys :=
  (c.handshakeConfirmed, c.keysIn .handshake, c.keysOut .handshake)

/-- The drivers that frames and flushes lead to, from one that was just started on a connection
without a confirmed handshake. HANDSHAKE_DONE comes to a client only when it has Handshake keys,
and work that the connection does in between neither confirms nor touches these keys. -/
inductive ConfirmationRun (tls : HandshakeEnv C S) (env : Env) : Handshake C S → Prop
  | client {c : Connection} {h : Handshake C S} (hfresh : c.handshakeConfirmed = false)
      (hstart : quicHandshakeStartClient tls c = .ok h) : ConfirmationRun tls env h
  | server {c : Connection} {h : Handshake C S} (hfresh : c.handshakeConfirmed = false)
      (hstart : quicHandshakeStartServer tls c = .ok h) : ConfirmationRun tls env h
  | work {h : Handshake C S} (hrun : ConfirmationRun tls env h) (c : Connection)
      (hkept : c.confirmation = h.connection.confirmation) : ConfirmationRun tls env (returned c h)
  | frame {h : Handshake C S} (hrun : ConfirmationRun tls env h) (space : Space) (f : Frame)
      (horder : f = .handshakeDone → h.tls.isClient = true → h.handshakeKeysInstalled = true) :
      ConfirmationRun tls env (quicHandshakeOnFrame tls space f h).1
  | flush {h h' : Handshake C S} {status : Status} (hrun : ConfirmationRun tls env h)
      (fuel now : ℕ) (hflush : quicHandshakeFlush env fuel now h = some (h', status)) :
      ConfirmationRun tls env h'

/-! ## What a confirmed connection does -/

section Connection

variable {c : Connection}

lemma initiateKeyUpdate_close (env : Env) (c : Connection) :
    (quicConnectionInitiateKeyUpdate env c).1.close = c.close :=
  quicConnectionInitiateKeyUpdate_kept env c Connection.close fun _ => rfl

lemma updatesAtLimit_of_confirmed (h : c.handshakeConfirmed = true) : c.UpdatesAtLimit := by
  intro env o hspace hkeys hpeer hroom hlimit hfree
  refine ⟨initiateKeyUpdate_close env c, ?_⟩
  have hallowed : quicConnectionKeyUpdateAllowed c = true := by
    obtain ⟨hawaiting, hphase⟩ := not_or.mp hfree
    unfold quicConnectionKeyUpdateAllowed
    rw [h, hkeys, Bool.eq_false_of_not_eq_true hawaiting]
    cases hfirst : c.keyPhaseFirstPn with
    | some pn => rfl
    | none =>
      obtain ⟨hinitiated, hresponded⟩ := not_not.mp fun hnone => hphase ⟨hfirst, hnone⟩
      rw [hinitiated, hresponded]
      rfl
  unfold sendGuard
  have hnone : ¬(c.keysOut .application).isNone = true := by
    rw [Option.isNone_iff_eq_none]
    exact Option.isSome_iff_ne_none.mp hkeys
  rw [hspace, if_neg hnone, if_neg, if_neg (not_lt.mpr hroom), if_pos hlimit,
    if_pos ⟨rfl, hallowed⟩]
  · rcases quicConnectionInitiateKeyUpdate env c with ⟨c', status⟩
    cases status with
    | ok => rfl
    | _ => rfl
  · rintro ⟨hnone, hrole⟩
    rcases hpeer with hpeer | hpeer
    · rw [hpeer] at hnone
      cases hnone
    · exact hpeer hrole

lemma originalForeign_of_confirmed (h : c.handshakeConfirmed = true) : c.OriginalForeign := by
  intro hlocal hissued
  unfold localConnectionIdSequence
  rw [if_neg hlocal, h, if_neg (by simp), hissued]
  rfl

lemma sendGuard_confirmation (env : Env) (o : Outgoing) (c : Connection) :
    (sendGuard env o c).connection.confirmation = c.confirmation := by
  rcases sendGuard_cases env o c with h | h | h
  · rw [h]
  · rw [h]
    exact quicConnectionInitiateKeyUpdate_kept env c Connection.confirmation fun _ => rfl
  · rw [h]
    unfold closeWith quicConnectionClose
    split
    · rfl
    · rfl

lemma sendProtected_confirmation (env : Env) (o : Outgoing) (c : Connection) :
    (sendProtected env o c).1.confirmation = c.confirmation :=
  sendProtected_kept env o c Connection.confirmation fun _ => rfl

/-- Sending neither confirms a handshake nor touches its keys. -/
lemma confirmation_closed (env : Env) (F : Space → Frame → Prop) :
    SendClosed env F fun c c' => c'.confirmation = c.confirmation where
  refl _ := rfl
  trans h h' := h'.trans h
  guard := sendGuard_confirmation env
  protect o c _ := sendProtected_confirmation env o c
  report _ _ _ := rfl
  control _ _ _ := rfl
  frame _ _ _ := rfl
  remove _ := rfl
  lossTime _ _ := rfl
  counted _ _ _ := rfl
  congested _ _ := rfl

end Connection

/-! ## What the driver does -/

/-- What the driver and its connection note of the confirmation. -/
def Handshake.confirmation (h : Handshake C S) :
    (Bool × Option PacketKeys × Option PacketKeys) × Bool × Bool × Bool :=
  (h.connection.confirmation, h.confirmed, h.handshakeKeysInstalled, h.tls.isClient)

/-- The connection knows of the confirmation of a client, and none that is confirmed has Handshake
keys or will have any. -/
structure Handshake.Noted (h : Handshake C S) : Prop where
  connection : h.connection.handshakeConfirmed = (h.confirmed && h.tls.isClient)
  installed : h.confirmed = true → h.handshakeKeysInstalled = true
  gone : h.confirmed = true →
    h.connection.keysIn .handshake = none ∧ h.connection.keysOut .handshake = none

lemma Handshake.Noted.of_eq {h h' : Handshake C S} (hnoted : h.Noted)
    (heq : h'.confirmation = h.confirmation) : h'.Noted := by
  simp only [confirmation, Connection.confirmation, Prod.mk.injEq] at heq
  obtain ⟨⟨hconnection, hin, hout⟩, hconfirmed, hinstalled, hclient⟩ := heq
  refine ⟨?_, ?_, ?_⟩
  · rw [hconnection, hconfirmed, hclient]
    exact hnoted.connection
  · rw [hconfirmed, hinstalled]
    exact hnoted.installed
  · rw [hconfirmed, hin, hout]
    exact hnoted.gone

section Messages

variable (tls : HandshakeEnv C S) {h h' : Handshake C S} {status : Status}

lemma orFail_noted {r : Handshake C S × Status} (hr : r.1.Noted) : (orFail r).1.Noted := by
  unfold orFail
  split_ifs
  · exact hr
  · exact hr.of_eq rfl

lemma orFail_ok {r : Handshake C S × Status} (h : orFail r = (h', .ok)) : r = (h', .ok) := by
  unfold orFail at h
  split_ifs at h with hok
  · exact h
  · exact absurd (Prod.mk.inj h).2 hok

/-- The keys of a level other than the Handshake space do not matter. -/
lemma installLevel_application (secrets : List UInt8 × List UInt8) (h : Handshake C S) :
    (installLevel tls .application secrets h).1.confirmation = h.confirmation := by
  unfold installLevel
  split
  · rfl
  · simp only
    split
    · rfl
    · rfl

lemma installApplicationKeys_confirmation (h : Handshake C S) :
    (installApplicationKeys tls h).1.confirmation = h.confirmation := by
  unfold installApplicationKeys
  split_ifs
  · rfl
  split
  · rfl
  · rename_i secrets _
    have hlevel := installLevel_application tls secrets h
    split <;> rename_i heq <;> rw [heq] at hlevel <;> exact hlevel

lemma installLevel_flags (space : Space) (secrets : List UInt8 × List UInt8)
    (h : Handshake C S) :
    (installLevel tls space secrets h).1.connection.handshakeConfirmed =
        h.connection.handshakeConfirmed ∧
      (installLevel tls space secrets h).1.confirmed = h.confirmed ∧
      (installLevel tls space secrets h).1.tls = h.tls := by
  unfold installLevel
  split
  · exact ⟨rfl, rfl, rfl⟩
  · simp only
    split
    · exact ⟨rfl, rfl, rfl⟩
    · exact ⟨rfl, rfl, rfl⟩

lemma handshakeSecrets_error {steps : TlsSteps C S} {machine : TlsMachine C S}
    (h : machine.handshakeSecrets steps = .error status) : status ≠ .ok := by
  rintro rfl
  unfold TlsMachine.handshakeSecrets at h
  split at h
  · split at h
    all_goals cases h
  · split at h
    all_goals cases h

/-- Before the confirmation Handshake keys may come, after it they do not. -/
lemma installHandshakeKeys_noted (hnoted : h.Noted) :
    (installHandshakeKeys tls h).1.Noted ∧
      ((installHandshakeKeys tls h).2 = .ok →
        (installHandshakeKeys tls h).1.handshakeKeysInstalled = true) := by
  unfold installHandshakeKeys
  by_cases hinstalled : h.handshakeKeysInstalled = true
  · rw [if_pos hinstalled]
    exact ⟨hnoted, fun _ => hinstalled⟩
  rw [if_neg hinstalled]
  have hopen : h.confirmed = false := by
    by_contra hconfirmed
    exact hinstalled (hnoted.installed (by simpa using hconfirmed))
  cases hsecrets : h.tls.handshakeSecrets tls.toTlsSteps with
  | error status => exact ⟨hnoted, fun hok => absurd hok (handshakeSecrets_error hsecrets)⟩
  | ok secrets =>
    simp only
    by_cases hinitial : h.connection.keysIn .initial = none
    · rw [if_pos hinitial]
      exact ⟨hnoted, nofun⟩
    rw [if_neg hinitial]
    obtain ⟨hconnection, hconfirmed, htls⟩ := installLevel_flags tls .handshake secrets h
    have hkept : ∀ x : Handshake C S, x.connection.handshakeConfirmed =
        h.connection.handshakeConfirmed → x.confirmed = h.confirmed → x.tls = h.tls →
        x.Noted := by
      intro x hx hx' hxtls
      refine ⟨?_, ?_, ?_⟩
      · rw [hx, hx', hxtls]
        exact hnoted.connection
      · rw [hx', hopen]
        nofun
      · rw [hx', hopen]
        nofun
    rcases hlevel : installLevel tls .handshake secrets h with ⟨h₁, status⟩
    rw [hlevel] at hconnection hconfirmed htls
    by_cases hok : status = .ok
    · rw [hok]
      exact ⟨hkept _ hconnection hconfirmed htls, fun _ => rfl⟩
    · split
      · rename_i heq
        exact absurd (Prod.mk.inj heq).2 hok
      · rename_i heq
        obtain ⟨rfl, rfl⟩ := Prod.mk.inj heq
        exact ⟨hkept _ hconnection hconfirmed htls, fun h => absurd h hok⟩

/-- A client never confirms by a message. -/
lemma clientAdvance_noted (client : TlsClient C) (hnoted : h.Noted) :
    (clientAdvance tls client h).1.Noted := by
  have hlevel : (clientHandshakeLevel tls client h).1.Noted := by
    unfold clientHandshakeLevel
    split
    · exact hnoted
    · exact orFail_noted (installHandshakeKeys_noted tls hnoted).1
  unfold clientAdvance
  split
  · rename_i h₁ heq
    rw [heq] at hlevel
    split
    · have happ : (orFail (installApplicationKeys tls h₁)).1.Noted :=
        orFail_noted (hlevel.of_eq (installApplicationKeys_confirmation tls h₁))
      split
      · rename_i heq₂
        rw [heq₂] at happ
        exact happ.of_eq rfl
      · rename_i heq₂
        rw [heq₂] at happ
        exact happ
    · exact hlevel
  · rename_i heq
    rw [heq] at hlevel
    exact hlevel

lemma queueMessage_confirmation (space : Space) (message : List UInt8) (h : Handshake C S) :
    (queueMessage space message h).1.confirmation = h.confirmation := by
  unfold queueMessage
  split
  · rfl
  · rfl
  · rfl

lemma buildFlight_noted {server : TlsServer S} (htls : h.tls = .server server)
    (hnoted : h.Noted) :
    (buildFlight tls server h).1.Noted ∧
      (h.handshakeKeysInstalled = true →
        (buildFlight tls server h).1.handshakeKeysInstalled = true) ∧
      (buildFlight tls server h).1.tls.isClient = false := by
  have hserver : h.tls.isClient = false := by
    rw [htls]
    rfl
  unfold buildFlight
  split
  · exact ⟨hnoted, id, hserver⟩
  simp only
  set machine := (tlsServerFlight tls.toTlsSteps server quicHandshakeFlightMax).machine
  have hkept : ∀ x : Handshake C S, x.confirmation = h.confirmation → x.Noted ∧
      (h.handshakeKeysInstalled = true → x.handshakeKeysInstalled = true) ∧
      x.tls.isClient = false := by
    intro x hx
    refine ⟨hnoted.of_eq hx, fun hinstalled => ?_, ?_⟩
    · rw [show x.handshakeKeysInstalled = h.handshakeKeysInstalled from
        congrArg (fun r => r.2.2.1) hx]
      exact hinstalled
    · rw [show x.tls.isClient = h.tls.isClient from congrArg (fun r => r.2.2.2) hx]
      exact hserver
  have hbuilt : ({ h with tls := .server machine } : Handshake C S).confirmation =
      h.confirmation := by
    unfold Handshake.confirmation
    rw [hserver]
    rfl
  split_ifs
  · exact hkept _ hbuilt
  · exact hkept _ ((queueMessage_confirmation _ _ _).trans hbuilt)

lemma serverHandshakeLevel_noted {server : TlsServer S} (htls : h.tls = .server server)
    (hnoted : h.Noted) :
    (serverHandshakeLevel tls server h).1.Noted ∧
      (serverHandshakeLevel tls server h).1.tls.isClient = false ∧
      ((serverHandshakeLevel tls server h).2 = .ok → server.state = .connected →
        (serverHandshakeLevel tls server h).1.handshakeKeysInstalled = true) := by
  have hserver : h.tls.isClient = false := by
    rw [htls]
    rfl
  unfold serverHandshakeLevel
  by_cases hearly : server.state = .start ∨ server.state = .waitClientHello
  · rw [if_pos hearly]
    refine ⟨hnoted, hserver, fun _ hconnected => ?_⟩
    rw [hconnected] at hearly
    rcases hearly with h | h
    · cases h
    · cases h
  rw [if_neg hearly]
  obtain ⟨hkeys, hinstalled⟩ := installHandshakeKeys_noted tls hnoted
  have hfail := orFail_noted hkeys
  have hread : (orFail (installHandshakeKeys tls h)).1.reading = h.reading := by
    rw [orFail_reading, installHandshakeKeys_reading]
  rcases hstep : orFail (installHandshakeKeys tls h) with ⟨h₁, status⟩
  rw [hstep] at hfail hread
  have htls₁ : h₁.tls = .server server := (congrArg Prod.fst hread).trans htls
  by_cases hok : status = .ok
  · rw [hok] at hstep ⊢
    rw [orFail_ok hstep] at hinstalled
    obtain ⟨hflight, hkept, hrole⟩ := buildFlight_noted tls htls₁ hfail
    exact ⟨hflight, hrole, fun _ _ => hkept (hinstalled rfl)⟩
  · have hrole : h₁.tls.isClient = false := by
      rw [htls₁]
      rfl
    split
    · rename_i heq
      exact absurd (Prod.mk.inj heq).2 hok
    · rename_i heq
      obtain ⟨rfl, rfl⟩ := Prod.mk.inj heq
      exact ⟨hfail, hrole, fun h => absurd h hok⟩

/-- A server that confirms has Handshake keys, and throws them away. -/
lemma serverAdvance_noted {server : TlsServer S} (htls : h.tls = .server server)
    (hnoted : h.Noted) : (serverAdvance tls server h).1.Noted := by
  obtain ⟨hlevel, hrole, hinstalled⟩ := serverHandshakeLevel_noted tls htls hnoted
  unfold serverAdvance
  split
  · rename_i h₁ heq
    rw [heq] at hlevel hrole hinstalled
    split
    · rename_i hconnected
      have hsame : (orFail (installApplicationKeys tls h₁)).1.confirmation =
          h₁.confirmation := by
        unfold orFail
        split_ifs
        · exact installApplicationKeys_confirmation tls h₁
        · exact installApplicationKeys_confirmation tls h₁
      split
      · rename_i h₂ heq₂
        rw [heq₂] at hsame
        have hkeys : h₂.handshakeKeysInstalled = true :=
          (congrArg (fun r => r.2.2.1) hsame).trans (hinstalled rfl hconnected)
        have hserver : h₂.tls.isClient = false :=
          (congrArg (fun r => r.2.2.2) hsame).trans hrole
        have hnone : h₂.connection.handshakeConfirmed = false := by
          rw [(hlevel.of_eq hsame).connection, hserver, Bool.and_false]
        refine ⟨?_, fun _ => hkeys, fun _ => ⟨?_, ?_⟩⟩
        · show h₂.connection.handshakeConfirmed = (true && h₂.tls.isClient)
          rw [hnone, hserver]
          rfl
        · rfl
        · rfl
      · rename_i heq₂
        rw [heq₂] at hsame
        exact hlevel.of_eq hsame
    · exact hlevel
  · rename_i heq
    rw [heq] at hlevel
    exact hlevel

lemma keepAlpn_confirmation (h : Handshake C S) :
    (keepAlpn tls h).confirmation = h.confirmation := by
  unfold keepAlpn
  simp only
  split_ifs
  · rfl
  · rfl

lemma keepParameters_confirmation (h : Handshake C S) :
    (keepParameters tls h).1.confirmation = h.confirmation := by
  unfold keepParameters
  simp only
  split_ifs
  · rfl
  · rfl
  · rfl

lemma afterMessage_noted (space : Space) (length : ℕ) (output : List UInt8)
    (hnoted : h.Noted) : (afterMessage tls space length output h).1.Noted := by
  have hkeep : (keepParameters tls (keepAlpn tls h)).1.confirmation = h.confirmation := by
    rw [keepParameters_confirmation, keepAlpn_confirmation]
  unfold afterMessage
  split
  · rename_i h₁ heq
    rw [heq] at hkeep
    split
    · exact hnoted.of_eq hkeep
    · rename_i recv _
      simp only
      have hqueue : ∀ outputSpace, (if output = [] then (h₁.setRecv space recv, Status.ok)
          else queueMessage outputSpace output (h₁.setRecv space recv)).1.confirmation =
          h₁.confirmation := by
        intro outputSpace
        split_ifs
        · rfl
        · exact queueMessage_confirmation _ _ _
      split
      · rename_i heq₂
        have hqueued := hqueue (if (h₁.setRecv space recv).tls.isClient then .handshake
          else .initial)
        rw [heq₂] at hqueued
        have hnoted₂ := hnoted.of_eq (hqueued.trans hkeep)
        split
        · exact clientAdvance_noted tls _ hnoted₂
        · rename_i htls
          exact serverAdvance_noted tls htls hnoted₂
      · rename_i heq₂
        have hqueued := hqueue (if (h₁.setRecv space recv).tls.isClient then .handshake
          else .initial)
        rw [heq₂] at hqueued
        exact hnoted.of_eq (hqueued.trans hkeep)
  · rename_i heq
    rw [heq] at hkeep
    exact hnoted.of_eq hkeep

lemma receive_isClient (steps : TlsSteps C S) (machine : TlsMachine C S) (message : List UInt8)
    (capacity : ℕ) :
    (machine.receive steps message capacity).machine.isClient = machine.isClient := by
  unfold TlsMachine.receive
  split
  · rfl
  · rfl

lemma processMessages_noted (space : Space) (rounds : ℕ) (hnoted : h.Noted) :
    (processMessages tls space rounds h).1.Noted := by
  induction rounds generalizing h with
  | zero => exact hnoted
  | succ rounds ih =>
    have hmessage : ∀ message, (processMessage tls space message h).1.Noted := by
      intro message
      have hgiven : ({ h with
          tls := (h.tls.receive tls.toTlsSteps message quicHandshakeMessageMax).machine
          handed := h.handed ++ [⟨space, message, (h.tls.receive tls.toTlsSteps message
            quicHandshakeMessageMax).status, h.tls, (h.tls.receive tls.toTlsSteps message
            quicHandshakeMessageMax).machine⟩] } : Handshake C S).Noted := by
        refine hnoted.of_eq ?_
        unfold Handshake.confirmation
        rw [receive_isClient]
      unfold processMessage
      simp only
      split_ifs
      · exact hgiven.of_eq rfl
      · exact afterMessage_noted tls _ _ _ hgiven
    rw [processMessages]
    split
    · exact hnoted
    · have hstep := hmessage ((quicCryptoRecvAvailable (h.recv space)).take
        (tlsHandshakeMessageLen (quicCryptoRecvAvailable (h.recv space))))
      split
      · rename_i heq
        rw [heq] at hstep
        exact ih hstep
      · rename_i heq
        rw [heq] at hstep
        exact hstep

/-- A frame keeps what is noted, if HANDSHAKE_DONE finds a client with its Handshake keys. -/
theorem quicHandshakeOnFrame_noted (space : Space) (frame : Frame)
    (horder : frame = .handshakeDone → h.tls.isClient = true →
      h.handshakeKeysInstalled = true) (hnoted : h.Noted) :
    (quicHandshakeOnFrame tls space frame h).1.Noted := by
  unfold quicHandshakeOnFrame
  split
  · exact hnoted
  split
  · split
    · exact hnoted.of_eq rfl
    · exact hnoted
    · exact processMessages_noted tls space _ (hnoted.of_eq rfl)
  · split
    · rename_i hclient
      refine ⟨?_, fun _ => horder rfl hclient, fun _ => ⟨rfl, rfl⟩⟩
      show true = (true && h.tls.isClient)
      rw [hclient]
      rfl
    · exact hnoted
  · exact hnoted

lemma started_noted {c : Connection} (hfresh : c.handshakeConfirmed = false)
    (hconnection : h.connection = c) (hconfirmed : h.confirmed = false) : h.Noted := by
  refine ⟨?_, ?_, ?_⟩
  · rw [hconnection, hfresh, hconfirmed, Bool.false_and]
  · rw [hconfirmed]
    nofun
  · rw [hconfirmed]
    nofun

lemma startClient_noted {c : Connection} (hfresh : c.handshakeConfirmed = false)
    (hstart : quicHandshakeStartClient tls c = .ok h) : h.Noted := by
  unfold quicHandshakeStartClient at hstart
  split at hstart
  · cases hstart
  · rename_i data hello _
    have hqueue := queueMessage_confirmation .initial hello
      ({ connection := c, tls := .client ⟨.waitServerHello, data⟩ } : Handshake C S)
    have hbefore : ({ connection := c, tls := .client ⟨.waitServerHello, data⟩ } :
        Handshake C S).Noted := started_noted hfresh rfl rfl
    simp only at hstart
    split at hstart
    · rename_i h₁ heq
      rw [heq] at hqueue
      obtain rfl := Except.ok.inj hstart
      exact hbefore.of_eq hqueue
    · cases hstart

lemma startServer_noted {c : Connection} (hfresh : c.handshakeConfirmed = false)
    (hstart : quicHandshakeStartServer tls c = .ok h) : h.Noted := by
  unfold quicHandshakeStartServer at hstart
  split at hstart
  · cases hstart
  · obtain rfl := Except.ok.inj hstart
    exact started_noted hfresh rfl rfl

end Messages

/-! ## Losses and sending -/

lemma reportEvents_confirmation (events : List ConnectionEvent) (h : Handshake C S) :
    (reportEvents events h).confirmation = h.confirmation := by
  induction events generalizing h with
  | nil => rfl
  | cons event events ih =>
    cases event with
    | sent | declaredLost => exact ih h
    | lostFrame descriptor =>
      rw [reportEvents, ih]
      unfold quicHandshakeOnLost
      split
      · rfl
      · split
        · rfl
        · rfl

lemma returned_confirmation {c : Connection} {h : Handshake C S}
    (hkept : c.confirmation = h.connection.confirmation) :
    (returned c h).confirmation = h.confirmation := by
  have hreport := reportEvents_confirmation (c.trace.drop h.connection.trace.length) h
  have hrest := congrArg Prod.snd hreport
  exact Prod.ext hkept hrest

lemma flush_confirmation {env : Env} {fuel now : ℕ} : FlushClosed env fuel now
    fun h h' : Handshake C S => h'.confirmation = h.confirmation where
  refl _ := rfl
  trans h h' := h'.trans h
  retransmit _ _ _ := rfl
  send _ _ _ := rfl
  crypto hsend := by
    refine returned_confirmation ?_
    unfold quicConnectionSendCrypto at hsend
    split at hsend
    · obtain ⟨rfl, -⟩ := Prod.mk.inj (Option.some.inj hsend)
      rfl
    · exact (confirmation_closed env fun _ _ => True).sendOneFrame trivial hsend
  done hsend := by
    rename_i h c status
    have hkept : c.confirmation = h.connection.confirmation := by
      unfold quicConnectionSendFrame at hsend
      split at hsend
      · obtain ⟨rfl, -⟩ := Prod.mk.inj (Option.some.inj hsend)
        rfl
      · exact (confirmation_closed env fun _ _ => True).sendControlFrame trivial hsend
    exact ⟨returned_confirmation hkept, returned_confirmation hkept⟩

/-! ## Both copies -/

section Runs

variable {tls : HandshakeEnv C S} {env : Env} {h : Handshake C S}

lemma ConfirmationRun.noted (hrun : ConfirmationRun tls env h) : h.Noted := by
  induction hrun with
  | client hfresh hstart => exact startClient_noted tls hfresh hstart
  | server hfresh hstart => exact startServer_noted tls hfresh hstart
  | work _ c hkept ih => exact ih.of_eq (returned_confirmation hkept)
  | frame _ space f horder ih => exact quicHandshakeOnFrame_noted tls space f horder ih
  | flush _ fuel now hflush ih => exact ih.of_eq (flush_confirmation.quicHandshakeFlush hflush)

/-- The driver and the connection agree on the confirmation of a client. Of a server they agree
only as long as it is not confirmed. -/
theorem confirmedAlike_iff (hrun : ConfirmationRun tls env h) :
    h.ConfirmedAlike ↔ h.tls.isClient = true ∨ h.confirmed = false := by
  have hnoted := hrun.noted
  constructor
  · intro halike
    have hboth : h.confirmed = (h.confirmed && h.tls.isClient) :=
      halike.same.trans hnoted.connection
    by_cases hconfirmed : h.confirmed = true
    · rw [hconfirmed, Bool.true_and] at hboth
      exact .inl hboth.symm
    · exact .inr (by simpa using hconfirmed)
  · intro hrole
    have hsame : h.confirmed = h.connection.handshakeConfirmed := by
      rw [hnoted.connection]
      rcases hrole with hclient | hopen
      · rw [hclient, Bool.and_true]
      · rw [hopen, Bool.false_and]
    refine ⟨hsame, hnoted.gone, fun hconfirmed => ?_, fun hconfirmed => ?_⟩
    · exact originalForeign_of_confirmed (hsame ▸ hconfirmed)
    · exact updatesAtLimit_of_confirmed (hsame ▸ hconfirmed)

end Runs

/-- The sample server after the client's Finished has arrived in the Handshake space. -/
def sampleConfirmed : Handshake Unit Unit :=
  (quicHandshakeOnFrame sampleTls .handshake (.crypto 0 sampleFinished) sampleGreeted).1

lemma sampleConfirmed_run : ConfirmationRun sampleTls steadyEnv sampleConfirmed := by
  have hstarted : ConfirmationRun sampleTls steadyEnv sampleServer :=
    .server (c := sampleServer.connection) rfl rfl
  exact .frame (.frame hstarted .initial (.crypto 0 sampleClientHello) nofun) .handshake
    (.crypto 0 sampleFinished) nofun

/-- The server confirms its handshake, and its connection does not know. -/
theorem server_confirms_alone : ∃ h, ConfirmationRun sampleTls steadyEnv h ∧
    h.confirmed = true ∧ h.connection.handshakeConfirmed = false ∧ ¬h.ConfirmedAlike := by
  have hconfirmed : sampleConfirmed.confirmed = true := by decide +kernel
  have hconnection : sampleConfirmed.connection.handshakeConfirmed = false := by decide +kernel
  refine ⟨sampleConfirmed, sampleConfirmed_run, hconfirmed, hconnection, fun halike => ?_⟩
  have hsame := halike.same
  rw [hconfirmed, hconnection] at hsame
  cases hsame

theorem confirmedAlike_iff_greeted :
    sampleGreeted.ConfirmedAlike ↔
      sampleGreeted.tls.isClient = true ∨ sampleGreeted.confirmed = false :=
  confirmedAlike_iff (.frame (.server (c := sampleServer.connection) rfl rfl) .initial
    (.crypto 0 sampleClientHello) nofun : ConfirmationRun sampleTls steadyEnv sampleGreeted)

end WebTransport
