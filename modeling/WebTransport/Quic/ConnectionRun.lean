import WebTransport.Quic.ConnectionReceive
import WebTransport.Quic.LossLedger

/-!
# The states a connection reaches

Everything a connection does to its sent list and to the sending side of its packet number
spaces is a sequence of a few small changes: a packet is protected and recorded, an entry
leaves the list, an acknowledgement moves the largest acknowledged number and the round trip
estimate. `SendStep` is one such change, or any change that leaves both alone, and every
function of the connection is a sequence of them. The states in the middle of a call count
as reached, because loss detection runs in the middle of calls.
-/

namespace WebTransport

/-- Two states with the same sent list and the same sending side of every space. -/
structure Connection.SameSending (c c' : Connection) : Prop where
  sent : c'.loss.sent = c.loss.sent
  spaces : ∀ s, ∃ received, c'.spaces s = { c.spaces s with received := received }

lemma Connection.SameSending.of_eq {c c' : Connection} (hsent : c'.loss.sent = c.loss.sent)
    (hspaces : c'.spaces = c.spaces) : c.SameSending c' :=
  ⟨hsent, fun s => ⟨(c.spaces s).received, by rw [hspaces]⟩⟩

/-- One change of the sent list or of a space's sending side. -/
inductive SendStep (env : Env) (c : Connection) : Connection → Prop
  | other {c' : Connection} (h : c.SameSending c') : SendStep env c c'
  | protect (o : Outgoing) : SendStep env c (sendProtected env o c).1
  | remove {i : ℕ} {l : Loss} (h : removePacket c.loss i = some l) :
      SendStep env c { c with loss := l }
  | sample (space : Space) (rtt : Rtt) {number : ℕ} (h : number < (c.spaces space).nextSend) :
      SendStep env c (c.setSpace space
        { c.spaces space with rtt := rtt, largestAcked := number, hasLargestAcked := true })
  | resample (space : Space) (rtt : Rtt) (h : (c.spaces space).hasLargestAcked = true) :
      SendStep env c (c.setSpace space { c.spaces space with rtt := rtt })

/-- A state that follows from another by such changes. -/
def Reaches (env : Env) : Connection → Connection → Prop := Relation.ReflTransGen (SendStep env)

/-- A state that some connection is in at some point of some call. -/
def Connection.Reachable (env : Env) (c : Connection) : Prop :=
  ∃ config c₀, quicConnectionInit config = .ok c₀ ∧ Reaches env c₀ c

/-! ## What holds in every state -/

/-- The sent list and the spaces agree in every state a connection reaches. -/
structure Connection.Tracked (c : Connection) : Prop where
  distinct : (c.loss.sent.map SentPacket.key).Nodup
  count : c.loss.sent.length ≤ quicSentPacketsMax
  below : ∀ p ∈ c.loss.sent, ∃ s : Space,
    p.packetNumberSpace = s.index ∧ p.packetNumber < (c.spaces s).nextSend
  numbers : ∀ s, (c.spaces s).nextSend ≤ quicPacketNumberMax + 1
  unsent : ∀ s, (c.spaces s).hasSent = false → (c.spaces s).nextSend = 0
  acked : ∀ s, (c.spaces s).hasLargestAcked = true →
    (c.spaces s).largestAcked < (c.spaces s).nextSend
  sampled : ∀ s, (c.spaces s).rtt.hasSample = true → (c.spaces s).hasLargestAcked = true

lemma Space.index_injective : Function.Injective Space.index := by
  intro s t h
  cases s <;> cases t <;> first | rfl | cases h

section Tracked

variable {env : Env} {c c' : Connection}

/-- A change that leaves the sending side alone leaves the invariant alone. -/
lemma Connection.Tracked.other (hc : c.Tracked) (h : c.SameSending c') : c'.Tracked := by
  obtain ⟨hsent, hspaces⟩ := h
  have hnext : ∀ s, (c'.spaces s).nextSend = (c.spaces s).nextSend := by
    intro s
    obtain ⟨received, h⟩ := hspaces s
    rw [h]
  refine ⟨?_, ?_, ?_, ?_, ?_, ?_, ?_⟩
  · rw [hsent]
    exact hc.distinct
  · rw [hsent]
    exact hc.count
  · intro p hp
    rw [hsent] at hp
    obtain ⟨s, hs, hlt⟩ := hc.below p hp
    exact ⟨s, hs, by rwa [hnext]⟩
  · intro s
    rw [hnext]
    exact hc.numbers s
  · intro s
    obtain ⟨received, h⟩ := hspaces s
    rw [h]
    exact hc.unsent s
  · intro s
    obtain ⟨received, h⟩ := hspaces s
    rw [h]
    exact hc.acked s
  · intro s
    obtain ⟨received, h⟩ := hspaces s
    rw [h]
    exact hc.sampled s

/-- Taking an entry off the list keeps the invariant. -/
lemma Connection.Tracked.remove (hc : c.Tracked) {i : ℕ} {l : Loss}
    (h : removePacket c.loss i = some l) : ({ c with loss := l } : Connection).Tracked := by
  have hsub := removePacket_sublist h
  refine ⟨(hsub.map _).nodup hc.distinct, hsub.length_le.trans hc.count, ?_, hc.numbers, hc.unsent,
    hc.acked, hc.sampled⟩
  exact fun p hp => hc.below p (hsub.subset hp)

/-- Another space, when the sending side of the old one is described by the new one. -/
lemma Connection.Tracked.setSpace (hc : c.Tracked) {space : Space} {s : PnSpace}
    (hnext : (c.spaces space).nextSend ≤ s.nextSend) (hnumbers : s.nextSend ≤ quicPacketNumberMax + 1)
    (hunsent : s.hasSent = false → s.nextSend = 0)
    (hacked : s.hasLargestAcked = true → s.largestAcked < s.nextSend)
    (hsampled : s.rtt.hasSample = true → s.hasLargestAcked = true) :
    (c.setSpace space s).Tracked := by
  have hcases : ∀ t (P : PnSpace → Prop), P s → P (c.spaces t) → P ((c.setSpace space s).spaces t) := by
    intro t P hs ht
    unfold Connection.setSpace
    by_cases h : t = space
    · subst h
      simpa using hs
    · simpa [Function.update_of_ne h] using ht
  refine ⟨hc.distinct, hc.count, ?_, fun t => hcases t (·.nextSend ≤ _) hnumbers (hc.numbers t),
    fun t => hcases t (fun s => s.hasSent = false → s.nextSend = 0) hunsent (hc.unsent t),
    fun t => hcases t (fun s => s.hasLargestAcked = true → s.largestAcked < s.nextSend) hacked
      (hc.acked t),
    fun t => hcases t (fun s => s.rtt.hasSample = true → s.hasLargestAcked = true) hsampled
      (hc.sampled t)⟩
  intro p hp
  obtain ⟨t, ht, hlt⟩ := hc.below p hp
  refine ⟨t, ht, ?_⟩
  unfold Connection.setSpace
  by_cases h : t = space
  · subst h
    simpa using hlt.trans_le hnext
  · simpa [Function.update_of_ne h] using hlt

end Tracked

/-! ## What sending a packet changes -/

/-- The space after its next number has been taken. -/
def PnSpace.numbered (s : PnSpace) : PnSpace :=
  { s with nextSend := u64Add s.nextSend 1, hasSent := true }

/-- A number is taken from a space that has one left. -/
lemma quicPnSpaceNext_ok {s s' : PnSpace} {n : ℕ} (h : quicPnSpaceNext s = .ok (n, s')) :
    n = s.nextSend ∧ s' = s.numbered ∧ (s.hasSent = true → s.nextSend ≤ quicPacketNumberMax) := by
  unfold quicPnSpaceNext at h
  split at h
  · cases h
  · rename_i hmax
    obtain ⟨rfl, rfl⟩ := Prod.mk.inj (Except.ok.inj h)
    refine ⟨rfl, rfl, ?_⟩
    intro hsent
    simpa [hsent] using hmax

/-- What sending a packet leaves alone. The trace gets at most the packet itself, and as long
as its keys may be used the connection stays open and at most one use is counted. -/
structure Connection.Kept (o : Outgoing) (c c' : Connection) : Prop where
  config : c'.config = c.config
  hasPeer : c'.hasPeer = c.hasPeer
  congestion : c'.congestion = c.congestion
  peerClosed : c'.peerClosed = c.peerClosed
  peerLimits : c'.peerLimits = c.peerLimits
  streams : c'.streams = c.streams
  flow : c'.flow = c.flow
  frames : c'.frames = c.frames
  controlFrames : c'.controlFrames = c.controlFrames
  limit : c'.aeadConfidentialityLimit = c.aeadConfidentialityLimit
  retryPendingKeys : c'.retryPendingKeys = c.retryPendingKeys
  spare : c.aeadEncrypted o.space < c.aeadConfidentialityLimit → c'.close = c.close ∧
    ∀ s, c'.aeadEncrypted s ≤ c.aeadEncrypted s + if s = o.space then 1 else 0
  trace : c'.trace = c.trace ∨
    c'.trace = c.trace ++ [.sent o.space (c.spaces o.space).nextSend o.frame o.payload]

/-- The ends `send_packet` can come to after its checks. -/
inductive ProtectEnd (o : Outgoing) (c : Connection) : Connection × Status → Prop
  | refused {status : Status} (h : status ≠ .ok) : ProtectEnd o c (c, status)
  | spent {c' : Connection} {status : Status} (h : status ≠ .ok) (hkept : c.Kept o c')
      (hloss : c'.loss = c.loss) (hactivity : c'.lastActivity = c.lastActivity)
      (hroom : (c.spaces o.space).hasSent = true →
        (c.spaces o.space).nextSend ≤ quicPacketNumberMax)
      (hspaces : c'.spaces = Function.update c.spaces o.space (c.spaces o.space).numbered) :
      ProtectEnd o c (c', status)
  | recorded {c' : Connection} (length : ℕ) (hkept : c.Kept o c')
      (hloss : quicLossOnSent c.loss (sentPacketOf o (c.spaces o.space).nextSend length) =
        .ok c'.loss)
      (hactivity : c'.lastActivity = o.now)
      (hkeys : ¬(o.space = .initial ∧ c.retryPendingKeys = true))
      (hroom : (c.spaces o.space).hasSent = true →
        (c.spaces o.space).nextSend ≤ quicPacketNumberMax)
      (hspaces : c'.spaces = Function.update c.spaces o.space (c.spaces o.space).numbered) :
      ProtectEnd o c (c', .ok)

/-- Counting a protected packet touches only the counters of the keys. -/
lemma countProtected_eq (c : Connection) (space : Space) (n : ℕ) :
    ∃ first pending, countProtected c space n = { c with
      aeadEncrypted := Function.update c.aeadEncrypted space (u64Add (c.aeadEncrypted space) 1)
      keyPhaseFirstPn := first
      keyUpdateResponsePending := pending } := by
  unfold countProtected
  split
  · exact ⟨_, _, rfl⟩
  · exact ⟨_, _, rfl⟩

/-- Protecting a packet fails with a status of its own. -/
lemma padInitial_failed (env : Env) (build : PacketBuild) (pass padding length : ℕ) :
    padInitial env build pass padding length ≠ .error .ok := by
  induction pass generalizing padding length with
  | zero => simp [padInitial]
  | succ pass ih =>
    rw [padInitial]
    split_ifs
    · simp
    · simp
    · simp only
      split_ifs
      · simp
      · split
        · rename_i status h
          intro hok
          obtain rfl := Except.error.inj hok
          exact env.packetBuild_failed _ h
        · exact ih _ _

/-- Building a packet fails with a status of its own. -/
lemma buildPacket_failed (env : Env) (c : Connection) (build : PacketBuild) :
    buildPacket env c build ≠ .error .ok := by
  unfold buildPacket
  split
  · rename_i status h
    intro hok
    obtain rfl := Except.error.inj hok
    exact env.packetBuild_failed _ h
  · split
    · split
      · rename_i status h
        intro hok
        exact padInitial_failed _ _ _ _ _ (h.trans hok)
      · split <;> simp
    · simp

/-- The packet is refused, or its number is spent for nothing, or it is recorded. -/
theorem sendProtected_end (env : Env) (o : Outgoing) (c : Connection) :
    ProtectEnd o c (sendProtected env o c) := by
  unfold sendProtected
  simp only
  split
  · exact .refused (by decide)
  cases hnext : quicPnSpaceNext (c.spaces o.space) with
  | error status =>
    refine .refused ?_
    unfold quicPnSpaceNext at hnext
    split at hnext <;> simp_all
    rw [← hnext]
    decide
  | ok r =>
    obtain ⟨n, s'⟩ := r
    obtain ⟨rfl, rfl, hroom⟩ := quicPnSpaceNext_ok hnext
    have hkept : c.Kept o (c.setSpace o.space (c.spaces o.space).numbered) :=
      ⟨rfl, rfl, rfl, rfl, rfl, rfl, rfl, rfl, rfl, rfl, rfl, fun _ => ⟨rfl, fun s => Nat.le_add_right _ _⟩,
        .inl rfl⟩
    simp only
    split
    · exact .spent (by decide) hkept rfl rfl hroom rfl
    rename_i hkeys
    split
    · rename_i status hbuild
      refine .spent ?_ hkept rfl rfl hroom rfl
      rintro rfl
      exact buildPacket_failed _ _ _ hbuild
    · rename_i length hbuild
      split
      · exact .spent (by decide) hkept rfl rfl hroom rfl
      -- The packet goes to the socket.
      obtain ⟨first, pending, hcount⟩ :=
        countProtected_eq (c.setSpace o.space (c.spaces o.space).numbered) o.space
          (c.spaces o.space).nextSend
      have haead : ∀ s, Function.update c.aeadEncrypted o.space
          (u64Add (c.aeadEncrypted o.space) 1) s ≤
            c.aeadEncrypted s + if s = o.space then 1 else 0 := by
        intro s
        by_cases h : s = o.space
        · subst h
          rw [Function.update_self, if_pos rfl]
          exact Nat.mod_le _ _
        · simp [h]
      simp only [hcount]
      split
      · rename_i hudp
        exact .spent hudp
          ⟨rfl, rfl, rfl, rfl, rfl, rfl, rfl, rfl, rfl, rfl, rfl, fun _ => ⟨rfl, haead⟩, .inl rfl⟩ rfl rfl
          hroom rfl
      split
      · rename_i status hsent
        refine .spent ?_ ⟨rfl, rfl, rfl, rfl, rfl, rfl, rfl, rfl, rfl, rfl, rfl, fun _ => ⟨rfl, haead⟩,
          .inr rfl⟩ rfl rfl hroom rfl
        rintro rfl
        unfold quicLossOnSent at hsent
        split at hsent
        · cases hsent
        · split at hsent <;> cases hsent
      · rename_i loss hsent
        exact .recorded length
          ⟨rfl, rfl, rfl, rfl, rfl, rfl, rfl, rfl, rfl, rfl, rfl, fun _ => ⟨rfl, haead⟩, .inr rfl⟩ hsent
          rfl hkeys hroom rfl

section Steps

variable {env : Env} {c c' : Connection}

/-- The next number of a space that has one left. -/
lemma Connection.Tracked.nextSend_numbered (hc : c.Tracked) {space : Space}
    (hroom : (c.spaces space).hasSent = true → (c.spaces space).nextSend ≤ quicPacketNumberMax) :
    (c.spaces space).numbered.nextSend = (c.spaces space).nextSend + 1 ∧
      (c.spaces space).nextSend ≤ quicPacketNumberMax := by
  have hmax : (c.spaces space).nextSend ≤ quicPacketNumberMax := by
    cases hsent : (c.spaces space).hasSent with
    | true => exact hroom hsent
    | false => simp [hc.unsent space hsent]
  refine ⟨u64Add_of_lt ?_, hmax⟩
  unfold quicPacketNumberMax at hmax
  omega

lemma Connection.Tracked.numbered (hc : c.Tracked) {space : Space}
    (hroom : (c.spaces space).hasSent = true → (c.spaces space).nextSend ≤ quicPacketNumberMax) :
    (c.setSpace space (c.spaces space).numbered).Tracked := by
  obtain ⟨hnext, hmax⟩ := hc.nextSend_numbered hroom
  refine hc.setSpace ?_ ?_ ?_ ?_ (hc.sampled space)
  · omega
  · omega
  · intro h
    cases h
  · intro h
    have := hc.acked space h
    show (c.spaces space).largestAcked < _
    omega

/-- However sending a packet ends, the invariant is kept. -/
lemma ProtectEnd.tracked {o : Outgoing} {r : Connection × Status} (h : ProtectEnd o c r)
    (hc : c.Tracked) : r.1.Tracked := by
  cases h with
  | refused h => exact hc
  | @spent c' status h hkept hloss _ hroom hspaces =>
    exact (hc.numbered hroom).other (.of_eq (by rw [hloss]; rfl) hspaces)
  | @recorded c' length hkept hloss _ _ hroom hspaces =>
    have hnumbered := hc.numbered hroom
    obtain ⟨hnext, hmax⟩ := hc.nextSend_numbered hroom
    obtain ⟨hnew, hlen, hsent, -, -⟩ := quicLossOnSent_ok hloss
    have hspaces' : c'.spaces = (c.setSpace o.space (c.spaces o.space).numbered).spaces := hspaces
    refine ⟨?_, ?_, ?_, ?_, ?_, ?_, ?_⟩
    · rw [hsent, List.map_append, List.nodup_append]
      refine ⟨hc.distinct, by simp, ?_⟩
      rintro a ha b hb rfl
      obtain rfl : a = _ := by simpa using hb
      exact hnew ha
    · have := hc.count
      rw [hsent, List.length_append, List.length_singleton]
      omega
    · intro p hp
      rw [hsent, List.mem_append, List.mem_singleton] at hp
      rw [hspaces']
      rcases hp with hp | rfl
      · exact hnumbered.below p hp
      · refine ⟨o.space, rfl, ?_⟩
        show (c.spaces o.space).nextSend < _
        rw [Connection.setSpace_spaces, Function.update_self, hnext]
        exact Nat.lt_succ_self _
    · rw [hspaces']
      exact hnumbered.numbers
    · rw [hspaces']
      exact hnumbered.unsent
    · rw [hspaces']
      exact hnumbered.acked
    · rw [hspaces']
      exact hnumbered.sampled

/-- Every change keeps the invariant. -/
theorem SendStep.tracked (h : SendStep env c c') (hc : c.Tracked) : c'.Tracked := by
  cases h with
  | other h => exact hc.other h
  | protect o => exact (sendProtected_end env o c).tracked hc
  | remove h => exact hc.remove h
  | sample space rtt h =>
    exact hc.setSpace le_rfl (hc.numbers space) (hc.unsent space) (fun _ => h) (fun _ => rfl)
  | resample space rtt h =>
    exact hc.setSpace le_rfl (hc.numbers space) (hc.unsent space) (hc.acked space) (fun _ => h)

/-- A run keeps the invariant. -/
theorem Reaches.tracked (h : Reaches env c c') (hc : c.Tracked) : c'.Tracked := by
  induction h with
  | refl => exact hc
  | tail _ hstep ih => exact hstep.tracked ih

lemma quicConnectionInit_tracked {config : ConnectionConfig}
    (h : quicConnectionInit config = .ok c) : c.Tracked := by
  unfold quicConnectionInit at h
  split at h
  · cases h
  · split at h
    · cases h
    · obtain rfl := Except.ok.inj h
      refine ⟨by simp [quicLossInit], by simp [quicLossInit], by simp [quicLossInit], ?_, ?_, ?_, ?_⟩
      · intro s
        simp
      · intro s h
        rfl
      · intro s h
        cases h
      · intro s h
        cases h

/-- The sent list and the spaces agree in every state a connection reaches. -/
theorem Connection.Reachable.tracked (h : c.Reachable env) : c.Tracked := by
  obtain ⟨config, c₀, hinit, hreaches⟩ := h
  exact hreaches.tracked (quicConnectionInit_tracked hinit)

end Steps

/-! ## What a key update leaves alone -/

/-- A connection without the keys of the application space and what is noted of them. -/
def Connection.unkeyed (c : Connection) : Connection :=
  { c with
    keysIn := Function.update c.keysIn .application none
    keysOut := Function.update c.keysOut .application none
    keyPhase := false
    keyPhaseIn := false
    nextKeysIn := none
    nextKeysOut := none
    previousKeysIn := none
    keyPhaseFirstPn := none
    keyPhaseInFirstPn := none
    keyUpdateAwaitingConfirmation := false
    keyUpdatesInitiated := 0
    aeadEncrypted := Function.update c.aeadEncrypted .application 0 }

lemma quicConnectionInitiateKeyUpdate_unkeyed (env : Env) (c : Connection) :
    (quicConnectionInitiateKeyUpdate env c).1.unkeyed = c.unkeyed := by
  unfold quicConnectionInitiateKeyUpdate
  split
  · rfl
  split_ifs
  · rfl
  · rfl
  split
  · rfl
  simp only
  split
  · simp only [Connection.unkeyed, Function.update_idem]
  · simp only [Connection.unkeyed, Function.update_idem]

/-- A key update, whether it succeeds or stops half way, touches nothing else. -/
lemma quicConnectionInitiateKeyUpdate_kept (env : Env) (c : Connection) {α : Type} (π : Connection → α)
    (hunkeyed : ∀ c, π (Connection.unkeyed c) = π c) :
    π (quicConnectionInitiateKeyUpdate env c).1 = π c := by
  rw [← hunkeyed (quicConnectionInitiateKeyUpdate env c).1,
    quicConnectionInitiateKeyUpdate_unkeyed, hunkeyed]

/-! ## What leaves the tables alone -/

/-- Two states with the same sent list, spaces, descriptors, slots and streams. -/
structure Connection.SameTables (c c' : Connection) : Prop where
  config : c'.config = c.config
  hasPeer : c'.hasPeer = c.hasPeer
  peerClosed : c'.peerClosed = c.peerClosed
  limit : c'.aeadConfidentialityLimit = c.aeadConfidentialityLimit
  retryPendingKeys : c'.retryPendingKeys = c.retryPendingKeys
  loss : c'.loss = c.loss
  spaces : c'.spaces = c.spaces
  frames : c'.frames = c.frames
  controlFrames : c'.controlFrames = c.controlFrames
  congestion : c'.congestion = c.congestion
  lastActivity : c'.lastActivity = c.lastActivity
  trace : c'.trace = c.trace
  streams : c'.streams = c.streams
  flow : c'.flow = c.flow
  peerLimits : c'.peerLimits = c.peerLimits

section Tables

variable {env : Env} {c c' : Connection}

lemma Connection.SameTables.refl (c : Connection) : c.SameTables c :=
  ⟨rfl, rfl, rfl, rfl, rfl, rfl, rfl, rfl, rfl, rfl, rfl, rfl, rfl, rfl, rfl⟩

lemma Connection.SameTables.sending (h : c.SameTables c') : c.SameSending c' :=
  .of_eq (by rw [h.loss]) h.spaces

lemma closeWith_tables (c : Connection) (errorCode frameType now : ℕ) :
    c.SameTables (closeWith c errorCode frameType now).1 := by
  unfold closeWith quicConnectionClose
  split
  · exact .refl c
  · exact ⟨rfl, rfl, rfl, rfl, rfl, rfl, rfl, rfl, rfl, rfl, rfl, rfl, rfl, rfl, rfl⟩

lemma quicConnectionInitiateKeyUpdate_tables (env : Env) (c : Connection) :
    c.SameTables (quicConnectionInitiateKeyUpdate env c).1 := by
  have h {α : Type} := @quicConnectionInitiateKeyUpdate_kept env c α
  exact
    { config := h Connection.config fun _ => rfl
      hasPeer := h Connection.hasPeer fun _ => rfl
      peerClosed := h Connection.peerClosed fun _ => rfl
      limit := h Connection.aeadConfidentialityLimit fun _ => rfl
      retryPendingKeys := h Connection.retryPendingKeys fun _ => rfl
      loss := h Connection.loss fun _ => rfl
      spaces := h Connection.spaces fun _ => rfl
      frames := h Connection.frames fun _ => rfl
      controlFrames := h Connection.controlFrames fun _ => rfl
      congestion := h Connection.congestion fun _ => rfl
      lastActivity := h Connection.lastActivity fun _ => rfl
      trace := h Connection.trace fun _ => rfl
      streams := h Connection.streams fun _ => rfl
      flow := h Connection.flow fun _ => rfl
      peerLimits := h Connection.peerLimits fun _ => rfl }

/-- The state a guard leaves. -/
def SendGuard.connection : SendGuard → Connection
  | .refuse c _ => c
  | .pass c => c

/-- The checks before a packet is protected leave the connection as it is, unless they start a
key update or close it because the keys are used up. -/
lemma sendGuard_cases (env : Env) (o : Outgoing) (c : Connection) :
    (sendGuard env o c).connection = c ∨
      (sendGuard env o c).connection = (quicConnectionInitiateKeyUpdate env c).1 ∨
      (sendGuard env o c).connection = (closeWith c quicAeadLimitReached 0 o.now).1 := by
  unfold sendGuard
  split_ifs
  · exact .inl rfl
  · exact .inl rfl
  · exact .inl rfl
  · refine .inr (.inl ?_)
    rcases quicConnectionInitiateKeyUpdate env c with ⟨c', status⟩
    cases status <;> rfl
  · exact .inr (.inr rfl)
  · exact .inl rfl

/-- The checks before a packet is protected leave the tables alone. -/
lemma sendGuard_tables (env : Env) (o : Outgoing) (c : Connection) :
    c.SameTables (sendGuard env o c).connection := by
  rcases sendGuard_cases env o c with h | h | h
  · rw [h]
    exact .refl c
  · rw [h]
    exact quicConnectionInitiateKeyUpdate_tables env c
  · rw [h]
    exact closeWith_tables c _ _ _

/-- Below the usage limit of the keys the checks change nothing. -/
lemma sendGuard_below {o : Outgoing} (h : c.aeadEncrypted o.space < c.aeadConfidentialityLimit) :
    (sendGuard env o c).connection = c := by
  unfold sendGuard
  rw [if_neg (not_le.mpr h)]
  split_ifs <;> rfl

end Tables

/-! ## What sending leaves alone -/

/-- The errors of streams and their flow control that a connection is closed with. -/
def streamErrors : List QuicError :=
  [quicFlowControlError, quicStreamLimitError, quicStreamStateError, quicFinalSizeError]

/-- The error of a stream that a connection has been closed with. -/
def CloseState.fault (state : CloseState) : Option QuicError :=
  if state.kind = .transport ∧ state.errorCode ∈ streamErrors then some state.errorCode else none

/-- The part of a connection that sending packets and declaring them lost never touch: its
role, the limits of both ends, the streams with their flow control, and whether one of their
errors has closed it. -/
structure Outside where
  role : Role
  localMaxStreamData : ℕ
  peerLimits : PeerLimits
  localMaxData : ℕ
  localMaxDataSet : Bool
  localMaxStreams : StreamDirection → ℕ
  localMaxStreamsSet : StreamDirection → Bool
  streams : StreamTable
  flow : Flow
  fault : Option QuicError

/-- That part of a connection. -/
def Connection.outside (c : Connection) : Outside :=
  ⟨c.config.role, c.config.localMaxStreamData, c.peerLimits, c.localMaxData, c.localMaxDataSet,
    c.localMaxStreams, c.localMaxStreamsSet, c.streams, c.flow, c.close.fault⟩

/-- The bytes a slot keeps while it is in use. -/
def Connection.kept (c : Connection) (slot : ℕ) : Option (List UInt8) :=
  if (c.controlFrames slot).inUse then some (c.controlFrames slot).wire else none

/-- An event that is no packet. -/
def ConnectionEvent.IsReport : ConnectionEvent → Prop
  | .sent .. => False
  | _ => True

/-- A packet whose content is accounted for: it carries a frame that `F` allows, or repeats
the bytes of a slot. -/
def Connection.Sends (F : Frame → Prop) (c : Connection) (o : Outgoing) : Prop :=
  match o.frame with
  | some frame => F frame
  | none => ∃ slot, c.kept slot = some o.payload

/-- One change on the sending side, with nothing else changed: every packet that goes out
carries a frame that `F` allows, or one that a slot has kept. -/
inductive QuietStep (env : Env) (F : Frame → Prop) (c : Connection) : Connection → Prop
  | other {c' : Connection} (h : c.SameSending c') (hout : c'.outside = c.outside)
      (hkept : c'.kept = c.kept) (htrace : c'.trace = c.trace) : QuietStep env F c c'
  | report (event : ConnectionEvent) (h : event.IsReport) : QuietStep env F c (c.observe event)
  | keep (slot : ℕ) {frame : Frame} {k : ControlFrame} (hframe : F frame)
      (hwire : retainedWire frame = some k.wire) : QuietStep env F c (c.setControl slot k)
  | release (slot : ℕ) {k : ControlFrame} (h : k.inUse = false) :
      QuietStep env F c (c.setControl slot k)
  | protect (o : Outgoing) (h : c.Sends F o) : QuietStep env F c (sendProtected env o c).1
  | remove {i : ℕ} {l : Loss} (h : removePacket c.loss i = some l) :
      QuietStep env F c { c with loss := l }
  | sample (space : Space) (rtt : Rtt) {number : ℕ} (h : number < (c.spaces space).nextSend) :
      QuietStep env F c (c.setSpace space
        { c.spaces space with rtt := rtt, largestAcked := number, hasLargestAcked := true })
  | resample (space : Space) (rtt : Rtt) (h : (c.spaces space).hasLargestAcked = true) :
      QuietStep env F c (c.setSpace space { c.spaces space with rtt := rtt })

/-- Changes on the sending side, one after the other. -/
def Quiet (env : Env) (F : Frame → Prop) : Connection → Connection → Prop :=
  Relation.ReflTransGen (QuietStep env F)

/-- What the slots keep and what has gone out is accounted for by frames that `F` allows. -/
structure Connection.Wired (F : Frame → Prop) (c : Connection) : Prop where
  slots : ∀ slot wire, c.kept slot = some wire → ∃ frame, F frame ∧ retainedWire frame = some wire
  sent : ∀ space n frame payload, .sent space n frame payload ∈ c.trace →
    (∃ f, frame = some f ∧ F f) ∨
      frame = none ∧ ∃ f, F f ∧ retainedWire f = some payload

section Quiet

variable {env : Env} {F : Frame → Prop} {c c' c'' : Connection}

lemma Connection.kept_setControl (c : Connection) (slot : ℕ) (k : ControlFrame) :
    (c.setControl slot k).kept =
      Function.update c.kept slot (if k.inUse then some k.wire else none) := by
  funext s
  by_cases h : s = slot
  · subst h
    simp [Connection.kept]
  · simp [Connection.kept, h]

/-- A slot whose bytes and use stay the same keeps the same. -/
lemma Connection.kept_setControl_same (c : Connection) (slot : ℕ) {k : ControlFrame}
    (huse : k.inUse = (c.controlFrames slot).inUse) (hwire : k.wire = (c.controlFrames slot).wire) :
    (c.setControl slot k).kept = c.kept := by
  rw [Connection.kept_setControl, huse, hwire]
  exact Function.update_eq_self slot c.kept

lemma Connection.kept_congr (h : c'.controlFrames = c.controlFrames) : c'.kept = c.kept := by
  funext slot
  unfold Connection.kept
  rw [h]

/-- A packet leaves what is outside of sending alone. -/
lemma sendProtected_outside (env : Env) (o : Outgoing) (c : Connection) :
    (sendProtected env o c).1.outside = c.outside := by
  unfold sendProtected
  simp only
  split
  · rfl
  split
  · rfl
  split
  · rfl
  split
  · rfl
  split
  · rfl
  rename_i n s' _ _ _ _ _ _
  obtain ⟨first, pending, hcount⟩ := countProtected_eq (c.setSpace o.space s') o.space n
  simp only [hcount]
  split
  · rfl
  split
  · rfl
  · rfl

/-- A packet leaves the slots alone, and puts at most itself on the trace. -/
lemma sendProtected_trace (env : Env) (o : Outgoing) (c : Connection) :
    (sendProtected env o c).1.kept = c.kept ∧
      ((sendProtected env o c).1.trace = c.trace ∨
        ∃ n, (sendProtected env o c).1.trace =
          c.trace ++ [.sent o.space n o.frame o.payload]) := by
  have hend := sendProtected_end env o c
  generalize sendProtected env o c = r at hend
  cases hend with
  | refused h => exact ⟨rfl, .inl rfl⟩
  | spent h hkept =>
    exact ⟨Connection.kept_congr hkept.controlFrames, hkept.trace.imp id fun h => ⟨_, h⟩⟩
  | recorded length hkept =>
    exact ⟨Connection.kept_congr hkept.controlFrames, hkept.trace.imp id fun h => ⟨_, h⟩⟩

lemma QuietStep.sendStep (h : QuietStep env F c c') : SendStep env c c' := by
  cases h with
  | other h _ _ _ => exact .other h
  | report event h => exact .other (.of_eq rfl rfl)
  | keep slot hframe hwire => exact .other (.of_eq rfl rfl)
  | release slot h => exact .other (.of_eq rfl rfl)
  | protect o h => exact .protect o
  | remove h => exact .remove h
  | sample space rtt h => exact .sample space rtt h
  | resample space rtt h => exact .resample space rtt h

lemma Quiet.reaches (h : Quiet env F c c') : Reaches env c c' := by
  induction h with
  | refl => exact .refl
  | tail _ hstep ih => exact ih.tail hstep.sendStep

/-- A quiet change leaves what is outside of sending alone. -/
lemma QuietStep.outside (h : QuietStep env F c c') : c'.outside = c.outside := by
  cases h with
  | other _ hout _ _ => exact hout
  | protect o h => exact sendProtected_outside env o c
  | report | keep | release | remove | sample | resample => rfl

/-- Quiet changes leave what is outside of sending alone. -/
theorem Quiet.outside (h : Quiet env F c c') : c'.outside = c.outside := by
  induction h with
  | refl => rfl
  | tail _ hstep ih => exact hstep.outside.trans ih

/-- The same slots and the same trace are accounted for by the same frames. -/
lemma Connection.Wired.congr (hc : c.Wired F) (hkept : c'.kept = c.kept)
    (htrace : c'.trace = c.trace) : c'.Wired F := by
  refine ⟨?_, ?_⟩
  · rw [hkept]
    exact hc.slots
  · rw [htrace]
    exact hc.sent

/-- A quiet change keeps everything accounted for. -/
lemma QuietStep.wired (h : QuietStep env F c c') (hc : c.Wired F) : c'.Wired F := by
  cases h with
  | other _ _ hkept htrace => exact hc.congr hkept htrace
  | report event h =>
    refine ⟨hc.slots, ?_⟩
    intro space n frame payload hsent
    rcases List.mem_append.mp hsent with hsent | hsent
    · exact hc.sent _ _ _ _ hsent
    · rw [List.mem_singleton] at hsent
      rw [← hsent] at h
      exact h.elim
  | @keep slot frame k hframe hwire =>
    refine ⟨?_, hc.sent⟩
    intro s wire hs
    rw [Connection.kept_setControl] at hs
    by_cases h : s = slot
    · subst h
      rw [Function.update_self] at hs
      split at hs
      · exact ⟨frame, hframe, hwire.trans hs⟩
      · cases hs
    · rw [Function.update_of_ne h] at hs
      exact hc.slots s wire hs
  | @release slot k h =>
    refine ⟨?_, hc.sent⟩
    intro s wire hs
    rw [Connection.kept_setControl] at hs
    by_cases hslot : s = slot
    · subst hslot
      simp [h] at hs
    · rw [Function.update_of_ne hslot] at hs
      exact hc.slots s wire hs
  | protect o h =>
    obtain ⟨hkept, htrace⟩ := sendProtected_trace env o c
    rcases htrace with htrace | ⟨n, htrace⟩
    · exact hc.congr hkept htrace
    · refine ⟨by rw [hkept]; exact hc.slots, ?_⟩
      intro space n' frame payload hsent
      rw [htrace, List.mem_append, List.mem_singleton] at hsent
      rcases hsent with hsent | hsent
      · exact hc.sent _ _ _ _ hsent
      · cases hsent
        unfold Connection.Sends at h
        split at h
        · rename_i f hframe
          exact .inl ⟨f, hframe, h⟩
        · rename_i hframe
          obtain ⟨slot, hslot⟩ := h
          exact .inr ⟨hframe, hc.slots slot _ hslot⟩
  | remove h => exact hc.congr rfl rfl
  | sample space rtt h => exact hc.congr rfl rfl
  | resample space rtt h => exact hc.congr rfl rfl

/-- Quiet changes keep everything accounted for. -/
theorem Quiet.wired (h : Quiet env F c c') (hc : c.Wired F) : c'.Wired F := by
  induction h with
  | refl => exact hc
  | tail _ hstep ih => exact hstep.wired ih

end Quiet

/-! ## Every function is a sequence of such changes -/

section Closure

variable {env : Env} {F : Frame → Prop} {c c' c'' : Connection}

lemma Reaches.other (h : c.SameSending c') : Reaches env c c' := .single (.other h)

/-- A change that leaves the list and the spaces as they are. -/
lemma Reaches.of_eq (hsent : c'.loss.sent = c.loss.sent) (hspaces : c'.spaces = c.spaces) :
    Reaches env c c' := .other (.of_eq hsent hspaces)

lemma Reaches.trans (h : Reaches env c c') (h' : Reaches env c' c'') : Reaches env c c'' :=
  Relation.ReflTransGen.trans h h'

lemma Quiet.trans (h : Quiet env F c c') (h' : Quiet env F c' c'') : Quiet env F c c'' :=
  Relation.ReflTransGen.trans h h'

/-- A change of what is neither outside of sending nor on its way. -/
lemma Quiet.of_eq (hsent : c'.loss.sent = c.loss.sent) (hspaces : c'.spaces = c.spaces)
    (hout : c'.outside = c.outside) (hkept : c'.kept = c.kept) (htrace : c'.trace = c.trace) :
    Quiet env F c c' :=
  .single (.other (.of_eq hsent hspaces) hout hkept htrace)

/-- Quiet changes followed by one of what is neither outside of sending nor on its way. -/
lemma Quiet.then_other (h : Quiet env F c c') (hsent : c''.loss.sent = c'.loss.sent)
    (hspaces : c''.spaces = c'.spaces) (hout : c''.outside = c'.outside)
    (hkept : c''.kept = c'.kept) (htrace : c''.trace = c'.trace) : Quiet env F c c'' :=
  h.trans (Quiet.of_eq hsent hspaces hout hkept htrace)

/-- Quiet changes that follow one of what is neither outside of sending nor on its way. -/
lemma Quiet.after_other (h : Quiet env F c' c'') (hsent : c'.loss.sent = c.loss.sent)
    (hspaces : c'.spaces = c.spaces) (hout : c'.outside = c.outside)
    (hkept : c'.kept = c.kept) (htrace : c'.trace = c.trace) : Quiet env F c c'' :=
  (Quiet.of_eq hsent hspaces hout hkept htrace).trans h

lemma Connection.Sends.of_frame {o : Outgoing} {frame : Frame} (ho : o.frame = some frame)
    (hframe : F frame) : c.Sends F o := by
  unfold Connection.Sends
  rw [ho]
  exact hframe

/-- A way to send packets that only makes quiet changes and leaves the slots alone. -/
def Tame (env : Env) (F : Frame → Prop)
    (send : Outgoing → Connection → Option (Connection × Status)) : Prop :=
  ∀ o c c' status, c.Sends F o → send o c = some (c', status) →
    Quiet env F c c' ∧ c'.kept = c.kept

/-- What a packet carries is accounted for by the slots alone. -/
lemma Connection.Sends.congr {o : Outgoing} (h : c.Sends F o) (hkept : c'.kept = c.kept) :
    c'.Sends F o := by
  unfold Connection.Sends at h ⊢
  rw [hkept]
  exact h

lemma freeFrame_quiet (c : Connection) (tag : ℕ) : Quiet env F c (freeFrame c tag) := by
  unfold freeFrame
  split
  · exact .of_eq rfl rfl rfl rfl rfl
  · exact .refl

lemma freeFrame_kept (c : Connection) (tag : ℕ) : (freeFrame c tag).kept = c.kept := by
  unfold freeFrame
  split
  · rfl
  · rfl

lemma tagForControl_quiet (c : Connection) (slot : ℕ) :
    Quiet env F c (tagForControl c slot).1 := by
  unfold tagForControl allocFrame
  cases freeTag c.frames with
  | none => exact .refl
  | some tag => exact .of_eq rfl rfl rfl rfl rfl

lemma tagForControl_kept (c : Connection) (slot : ℕ) : (tagForControl c slot).1.kept = c.kept := by
  unfold tagForControl allocFrame
  cases freeTag c.frames with
  | none => rfl
  | some tag => rfl

lemma sendEncodedFrame_quiet {send : Outgoing → Connection → Option (Connection × Status)}
    (hsend : Tame env F send) {o : Outgoing} {status : Status}
    (h : sendEncodedFrame send o c = some (c', status)) (ho : c.Sends F o) :
    Quiet env F c c' ∧ c'.kept = c.kept := by
  unfold sendEncodedFrame at h
  split at h
  · cases h
  · rename_i c₁ heq
    obtain ⟨rfl, -⟩ := Prod.mk.inj (Option.some.inj h)
    exact hsend _ _ _ _ ho heq
  · rename_i c₁ status' _ heq
    obtain ⟨rfl, -⟩ := Prod.mk.inj (Option.some.inj h)
    obtain ⟨hquiet, hkept⟩ := hsend _ _ _ _ ho heq
    split
    · exact ⟨hquiet.trans (freeFrame_quiet _ _), (freeFrame_kept _ _).trans hkept⟩
    · exact ⟨hquiet, hkept⟩

lemma resendLost_quiet {send : Outgoing → Connection → Option (Connection × Status)}
    (hsend : Tame env F send) {slot : ℕ} (hslot : (c.controlFrames slot).inUse = true)
    (h : resendLost send slot c = some c') : Quiet env F c c' ∧ c'.kept = c.kept := by
  have htag : Quiet env F c (tagForControl c slot).1 := tagForControl_quiet c slot
  have hkept := tagForControl_kept c slot
  unfold resendLost at h
  simp only at h
  generalize ho : (⟨(c.controlFrames slot).space, none, (c.controlFrames slot).wire, true,
    (tagForControl c slot).2, (tagForControl c slot).1.lastActivity⟩ : Outgoing) = o at h
  have hsends : (tagForControl c slot).1.Sends F o := by
    rw [← ho]
    refine ⟨slot, ?_⟩
    rw [hkept]
    simp [Connection.kept, hslot]
  split at h
  · cases h
  · rename_i c₁ heq
    obtain rfl := Option.some.inj h
    obtain ⟨hquiet, hkept'⟩ := sendEncodedFrame_quiet hsend heq hsends
    exact ⟨htag.trans hquiet, hkept'.trans hkept⟩
  · rename_i c₁ status _ heq
    obtain rfl := Option.some.inj h
    obtain ⟨hquiet, hkept'⟩ := sendEncodedFrame_quiet hsend heq hsends
    have hflag : (c₁.setControl slot { c₁.controlFrames slot with resendPending := true }).kept =
        c₁.kept := c₁.kept_setControl_same slot rfl rfl
    exact ⟨(htag.trans hquiet).trans (Quiet.of_eq rfl rfl rfl hflag rfl),
      hflag.trans (hkept'.trans hkept)⟩

lemma answerLost_quiet {send : Outgoing → Connection → Option (Connection × Status)}
    (hsend : Tame env F send) {descriptor : TxFrame}
    (h : answerLost send descriptor c = some c') : Quiet env F c c' ∧ c'.kept = c.kept := by
  unfold answerLost at h
  split_ifs at h with hcontrol huse
  · exact resendLost_quiet hsend huse.2 h
  · obtain rfl := Option.some.inj h
    exact ⟨.refl, rfl⟩
  · obtain rfl := Option.some.inj h
    exact ⟨.single (.report _ trivial), rfl⟩

lemma onLost_quiet {send : Outgoing → Connection → Option (Connection × Status)}
    (hsend : Tame env F send) {i : ℕ} {p : SentPacket} (h : onLost send c i p = some c') :
    Quiet env F c c' ∧ c'.kept = c.kept := by
  have hreport : Quiet env F c (c.observe (.declaredLost p)) := .single (.report _ trivial)
  have hcount : Quiet env F c (countLost (c.observe (.declaredLost p)) p) :=
    hreport.trans (Quiet.of_eq rfl rfl rfl rfl rfl)
  unfold onLost at h
  simp only at h
  split_ifs at h
  · obtain rfl := Option.some.inj h
    exact ⟨hcount.trans (Quiet.of_eq rfl rfl rfl rfl rfl), rfl⟩
  · split at h
    · cases h
    · rename_i c₁ hanswer
      split at h
      · cases h
      · obtain rfl := Option.some.inj h
        obtain ⟨hquiet, hkept⟩ := answerLost_quiet hsend hanswer
        refine ⟨((hcount.trans (freeFrame_quiet _ _)).trans hquiet).trans
          (Quiet.of_eq rfl rfl rfl rfl rfl), ?_⟩
        exact hkept.trans (freeFrame_kept _ _)

/-- A loop over the list with the visitor of the loss loops. -/
lemma lossWalk_quiet {send : Outgoing → Connection → Option (Connection × Status)}
    (hsend : Tame env F send) {hit : SentPacket → Bool} {fuel : ℕ} {r : Connection × ℕ}
    (h : IndexWalk.run (lossWalk connectionHost hit (onLost send)) fuel 0 0 c = some r) :
    Quiet env F c r.1 ∧ r.1.kept = c.kept := by
  refine IndexWalk.run_invariant _ (P := fun c' => Quiet env F c c' ∧ c'.kept = c.kept) ?_ h
    ⟨.refl, rfl⟩
  intro s s₁ s₂ i p hs _ _ hvisit hremove
  have hvisit : onLost send s i p = some s₁ := hvisit
  obtain ⟨l, hl, rfl⟩ := Option.map_eq_some_iff.mp hremove
  obtain ⟨hquiet, hkept⟩ := onLost_quiet hsend hvisit
  exact ⟨(hs.1.trans hquiet).tail (.remove hl), hkept.trans hs.2⟩

lemma detectLost_quiet {send : Outgoing → Connection → Option (Connection × Status)}
    (hsend : Tame env F send) {fuel now largest : ℕ} {space : Space}
    (h : detectLost send fuel space now largest c = some c') :
    Quiet env F c c' ∧ c'.kept = c.kept := by
  obtain ⟨r, hr, rfl⟩ := Option.map_eq_some_iff.mp h
  obtain ⟨hquiet, hkept⟩ := lossWalk_quiet hsend hr
  exact ⟨hquiet.trans (Quiet.of_eq rfl rfl rfl rfl rfl), hkept⟩

/-- A key update leaves what is outside of sending alone. -/
lemma quicConnectionInitiateKeyUpdate_outside (env : Env) (c : Connection) :
    (quicConnectionInitiateKeyUpdate env c).1.outside = c.outside :=
  quicConnectionInitiateKeyUpdate_kept env c Connection.outside fun _ => rfl

/-- A close for no error of a stream. -/
lemma quicCloseTransport_fault (state : CloseState) {errorCode : ℕ} (hcode : errorCode ∉ streamErrors)
    (frameType : ℕ) (reason : List UInt8) (now pto : ℕ) :
    (quicCloseTransport state errorCode frameType reason now pto).1.fault = state.fault := by
  unfold quicCloseTransport closeCommon CloseState.fault
  split
  · rfl
  · rename_i hopen
    rw [if_neg (fun h => hcode h.2), if_neg (fun h => hopen (by rw [h.1]; decide))]

/-- Closing, unless for an error of a stream, leaves what is outside of sending alone. -/
lemma closeWith_outside (c : Connection) {errorCode : ℕ} (hcode : errorCode ∉ streamErrors)
    (frameType now : ℕ) : (closeWith c errorCode frameType now).1.outside = c.outside := by
  unfold closeWith quicConnectionClose
  split
  · rfl
  · have hfault := quicCloseTransport_fault c.close hcode frameType [] now (ptoOf c)
    simp only [Connection.outside, hfault]

lemma closeWith_quiet (c : Connection) {errorCode : ℕ} (hcode : errorCode ∉ streamErrors)
    (frameType now : ℕ) : Quiet env F c (closeWith c errorCode frameType now).1 := by
  have h := closeWith_tables c errorCode frameType now
  exact .single (.other h.sending (closeWith_outside _ hcode _ _)
    (Connection.kept_congr h.controlFrames) h.trace)

lemma sendGuard_quiet (env : Env) (F : Frame → Prop) (o : Outgoing) (c : Connection) :
    Quiet env F c (sendGuard env o c).connection ∧ (sendGuard env o c).connection.kept = c.kept := by
  have htables := sendGuard_tables env o c
  have hkept := Connection.kept_congr htables.controlFrames
  refine ⟨.single (.other htables.sending ?_ hkept htables.trace), hkept⟩
  rcases sendGuard_cases env o c with h | h | h
  · rw [h]
  · rw [h]
    exact quicConnectionInitiateKeyUpdate_outside env c
  · rw [h]
    exact closeWith_outside c (by decide) _ _

/-- Sending a packet, with everything that sets off. -/
theorem sendPacket_tame (env : Env) (F : Frame → Prop) (fuel : ℕ) :
    Tame env F (sendPacket env fuel) := by
  induction fuel with
  | zero =>
    intro o c c' status ho h
    cases h
  | succ fuel ih =>
    intro o c c' status ho h
    have hguard := sendGuard_quiet env F o c
    rw [sendPacket] at h
    split at h
    · rename_i c₁ status₁ heq
      obtain ⟨rfl, -⟩ := Prod.mk.inj (Option.some.inj h)
      rw [heq] at hguard
      exact hguard
    · rename_i c₁ heq
      rw [heq] at hguard
      have hprotect : ∀ c₂, Quiet env F c c₂ ∧ c₂.kept = c.kept →
          some (sendProtected env o c₂) = some (c', status) →
            Quiet env F c c' ∧ c'.kept = c.kept := by
        rintro c₂ ⟨hquiet, hkept⟩ h
        have h := Option.some.inj h
        rw [show c' = (sendProtected env o c₂).1 by rw [h]]
        exact ⟨hquiet.tail (.protect o (ho.congr hkept)),
          (sendProtected_trace env o c₂).1.trans hkept⟩
      split_ifs at h
      · exact hprotect _ hguard h
      · split at h
        · cases h
        · rename_i c₂ hdetect
          obtain ⟨hquiet, hkept⟩ := detectLost_quiet ih hdetect
          have hc₂ : Quiet env F c c₂ ∧ c₂.kept = c.kept :=
            ⟨hguard.1.trans hquiet, hkept.trans hguard.2⟩
          split_ifs at h
          · obtain ⟨rfl, -⟩ := Prod.mk.inj (Option.some.inj h)
            exact hc₂
          · exact hprotect _ hc₂ h

end Closure

end WebTransport
