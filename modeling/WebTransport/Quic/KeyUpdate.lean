import WebTransport.Quic.Unauthenticated
import WebTransport.Quic.SendClosure

/-!
# Key updates between two endpoints

Two endpoints that run this code update the keys of the Application space whenever they like, and
the network between them loses, repeats and reorders what they send. Keys are told apart by their
generation, of which a packet shows one bit only.

An endpoint moves on to the next generation by itself once the peer has acknowledged a packet of
the present one, or because a packet of the next one has arrived. So the generation an endpoint
seals with is at most one ahead of the latest generation its peer has sealed with, and everything
else follows: the two are never further apart than one, a peer is not caught updating twice, and a
late packet of the retired generation has a number below those of the present one.
-/

namespace WebTransport

/-! ## Endpoints and the packets between them -/

/-- A packet of the Application space that the socket has taken: what was protected, the bytes
that came of it, and the frame inside. -/
structure Sealed where
  build : PacketBuild
  bytes : List UInt8
  frame : Option Frame

/-- A packet that was opened, with the keys that did it. -/
structure Opening where
  packet : Sealed
  keys : PacketKeys
  received : ReceivedPacket

/-- An endpoint, with the packets it has sealed and the packets it has opened. -/
structure KeyParty where
  connection : Connection
  sent : List Sealed := []
  opened : List Opening := []

/-- The part of a connection that key updates run on. -/
structure KeyView where
  keysIn : Option PacketKeys
  keysOut : Option PacketKeys
  nextKeysIn : Option PacketKeys
  previousKeysIn : Option PacketKeys
  keyPhase : Bool
  keyPhaseIn : Bool
  keyPhaseFirstPn : Option ℕ
  keyPhaseInFirstPn : Option ℕ
  awaitingConfirmation : Bool
  responsePending : Bool
  nextSend : ℕ
  hasSent : Bool
  ranges : List ClosedRange

/-- That part of a connection. -/
def Connection.keyView (c : Connection) : KeyView where
  keysIn := c.keysIn .application
  keysOut := c.keysOut .application
  nextKeysIn := c.nextKeysIn
  previousKeysIn := c.previousKeysIn
  keyPhase := c.keyPhase
  keyPhaseIn := c.keyPhaseIn
  keyPhaseFirstPn := c.keyPhaseFirstPn
  keyPhaseInFirstPn := c.keyPhaseInFirstPn
  awaitingConfirmation := c.keyUpdateAwaitingConfirmation
  responsePending := c.keyUpdateResponsePending
  nextSend := (c.spaces .application).nextSend
  hasSent := (c.spaces .application).hasSent
  ranges := (c.spaces .application).received.ranges

/-- The endpoint itself has closed with `KEY_UPDATE_ERROR`. -/
def Connection.ClosedForKeys (c : Connection) : Prop :=
  c.close.kind = .transport ∧ c.close.errorCode = quicKeyUpdateError ∧ c.peerClosed = false

/-- What `send_packet` hands to the socket once its checks are passed; nothing, unless the socket
has taken it. -/
def sealedBy (env : Env) (o : Outgoing) (c : Connection) : Option Sealed :=
  let space := c.spaces o.space
  let build := packetToBuild c o space.nextSend (packetNumberLengthFor space.nextSend space)
  match env.packetBuild build with
  | .error _ => none
  | .ok bytes =>
    if o.space = .application ∧ (sendProtected env o c).1.trace ≠ c.trace then
      some ⟨build, bytes, o.frame⟩
    else none

/-- The keys of the last attempt that `read_application_packet` makes at a packet. -/
def openingKeys (layer : PacketLayer) (env : Env) (keys : PacketKeys) (largest : ℕ)
    (bytes : List UInt8) (c : Connection) : PacketKeys :=
  let idLength := c.config.localConnectionId.length
  match layer.unprotectHeader keys idLength bytes with
  | .error _ => keys
  | .ok u =>
    if keyPhaseBit u.bytes = c.keyPhaseIn then keys
    else if c.keyPhaseInFirstPn.any
        (quicPacketNumberDecode (truncatedNumber u) u.pnLength largest < ·) then
      c.previousKeysIn.getD keys
    else
      match ensureNext env c.nextKeysIn (c.keysIn .application) with
      | (some next, .ok) =>
        match layer.openPacket next idLength largest u with
        | .ok _ => next
        | .error _ => c.previousKeysIn.getD ⟨[]⟩
      | _ => keys

/-- What comes of reading a packet: an opening, unless every attempt fails. -/
def openedBy (layer : PacketLayer) (env : Env) (keys : PacketKeys) (now : ℕ) (s : Sealed)
    (c : Connection) : Option Opening :=
  match (readPacket layer env .application keys now s.bytes c).2 with
  | .error _ => none
  | .ok received =>
    some ⟨s, openingKeys layer env keys (c.spaces .application).receivedSoFar s.bytes c, received⟩

/-- The number of a packet that arrived is recorded. -/
def recordArrival (packetNumber : ℕ) (asks : Bool) (c : Connection) : Connection :=
  c.setSpace .application
    { c.spaces .application with
      received := quicAckRecord (c.spaces .application).received packetNumber asks }

/-- An ACK frame reports what was recorded: its largest number is that of a range. -/
def AckFrame.Reports (f : AckFrame) (ranges : List ClosedRange) : Prop :=
  ∃ r ∈ ranges, r.largest = f.largest

/-- One step of an endpoint to which the packets `arriving` may be delivered, each of them at any
time and any number of times, or never. -/
inductive KeyStep (env : Env) (layer : PacketLayer) (arriving : List Sealed) (p : KeyParty) :
    KeyParty → Prop
  | other {c' : Connection} (hkeys : c'.keyView = p.connection.keyView)
      (hclose : c'.ClosedForKeys → p.connection.ClosedForKeys) :
      KeyStep env layer arriving p { p with connection := c' }
  | initiate :
      KeyStep env layer arriving p
        { p with connection := (quicConnectionInitiateKeyUpdate env p.connection).1 }
  | guard (o : Outgoing) :
      KeyStep env layer arriving p
        { p with connection := (sendGuard env o p.connection).connection }
  | protect (o : Outgoing)
      (hack : ∀ f, o.frame = some (.ack f) → o.space = .application →
        f.Reports p.connection.keyView.ranges) :
      KeyStep env layer arriving p
        { p with
          connection := (sendProtected env o p.connection).1
          sent := p.sent ++ (sealedBy env o p.connection).toList }
  | read {s : Sealed} (hs : s ∈ arriving) {keys : PacketKeys}
      (hkeys : p.connection.keysIn .application = some keys) (now : ℕ) :
      KeyStep env layer arriving p
        { p with
          connection := (readPacket layer env .application keys now s.bytes p.connection).1
          opened := p.opened ++ (openedBy layer env keys now s p.connection).toList }
  | record {x : Opening} (hx : x ∈ p.opened) (asks : Bool) :
      KeyStep env layer arriving p
        { p with connection := recordArrival x.received.packetNumber asks p.connection }
  | acknowledge {x : Opening} {f : AckFrame} (hx : x ∈ p.opened)
      (hf : x.packet.frame = some (.ack f)) (now : ℕ) :
      KeyStep env layer arriving p
        { p with connection :=
          (ackSample .application f now (ackWalk .application f p.connection)).1 }

/-- Two endpoints. -/
structure Duplex where
  left : KeyParty
  right : KeyParty

/-- One of the endpoints takes a step; what the other has sealed may arrive. -/
inductive Duplex.Step (env env' : Env) (layer : PacketLayer) (d : Duplex) : Duplex → Prop
  | left {p : KeyParty} (h : KeyStep env layer d.right.sent d.left p) :
      Step env env' layer d { d with left := p }
  | right {p : KeyParty} (h : KeyStep env' layer d.left.sent d.right p) :
      Step env env' layer d { d with right := p }

/-- The two endpoints take steps in any order. -/
def Duplex.Run (env env' : Env) (layer : PacketLayer) : Duplex → Duplex → Prop :=
  Relation.ReflTransGen (Duplex.Step env env' layer)

/-- Keys count their generations: an update makes keys of the next one, and a packet opens only
under keys of the generation that sealed it. Its number is a part of the nonce, so that a number
completed wrongly does not open it either. -/
structure Generations (env : Env) (layer : PacketLayer) (gen : PacketKeys → ℕ) : Prop where
  updates : ∀ keys, ∃ keys', env.packetKeysUpdate keys = .ok keys' ∧ gen keys' = gen keys + 1
  opens : ∀ {b bytes hpKeys keys idLength largest u packet},
    env.packetBuild b = .ok bytes → b.space = .application →
    layer.unprotectHeader hpKeys idLength bytes = .ok u →
    layer.openPacket keys idLength largest u = .ok packet →
    gen keys = gen b.keys ∧ packet.packetNumber = b.packetNumber ∧
      quicPacketNumberDecode (truncatedNumber u) u.pnLength largest = b.packetNumber

/-! ## The generation an endpoint is at -/

/-- The number of a packet. -/
def Sealed.number (s : Sealed) : ℕ := s.build.packetNumber

/-- The generation a packet was sealed with. -/
def Sealed.generation (gen : PacketKeys → ℕ) (s : Sealed) : ℕ := gen s.build.keys

/-- The generation an endpoint seals with. -/
def Connection.sendGeneration (gen : PacketKeys → ℕ) (c : Connection) : ℕ :=
  ((c.keysOut .application).map gen).getD 0

/-- The keys are those of a generation and its neighbours. -/
structure KeyView.AtGeneration (gen : PacketKeys → ℕ) (g : ℕ) (v : KeyView) : Prop where
  keysOut : ∃ keys, v.keysOut = some keys ∧ gen keys = g
  keysIn : ∃ keys, v.keysIn = some keys ∧ gen keys = g
  next : ∀ keys, v.nextKeysIn = some keys → gen keys = g + 1
  previous : ∀ keys, v.previousKeysIn = some keys → gen keys + 1 = g
  pending : v.responsePending = true → 1 ≤ g
  first_lt : ∀ n, v.keyPhaseFirstPn = some n → n < v.nextSend
  unsent : v.hasSent = false → v.nextSend = 0

/-- The keys have moved to a generation of which nothing was sent or received yet. -/
structure KeyView.MovedTo (gen : PacketKeys → ℕ) (g : ℕ) (v v' : KeyView) : Prop where
  keys : v'.AtGeneration gen g
  first : v'.keyPhaseFirstPn = none
  firstIn : v'.keyPhaseInFirstPn = none
  awaiting : v'.awaitingConfirmation = true
  nextSend : v'.nextSend = v.nextSend
  ranges : v'.ranges = v.ranges

/-- What every run keeps true of an endpoint at a generation, where `arriving` is what its peer has
sealed. -/
structure KeyParty.Sound (env : Env) (gen : PacketKeys → ℕ) (arriving : List Sealed) (g : ℕ)
    (p : KeyParty) : Prop where
  keys : p.connection.keyView.AtGeneration gen g
  built : ∀ s ∈ p.sent, env.packetBuild s.build = .ok s.bytes ∧ s.build.space = .application
  numbered : ∀ s ∈ p.sent, s.number < p.connection.keyView.nextSend
  sealed_le : ∀ s ∈ p.sent, s.generation gen ≤ g
  ordered : ∀ s ∈ p.sent, ∀ t ∈ p.sent, s.number ≤ t.number → s.generation gen ≤ t.generation gen
  present : ∀ s ∈ p.sent,
    s.generation gen = g ↔ ∃ n, p.connection.keyView.keyPhaseFirstPn = some n ∧ n ≤ s.number
  reports : ∀ s ∈ p.sent, ∀ f, s.frame = some (.ack f) →
    ∃ t ∈ arriving, t.number = f.largest ∧ t.generation gen ≤ s.generation gen
  arrived : ∀ x ∈ p.opened, x.packet ∈ arriving
  opened_le : ∀ x ∈ p.opened, x.packet.generation gen ≤ g
  opened_number : ∀ x ∈ p.opened, x.received.packetNumber = x.packet.number
  opened_keys : ∀ x ∈ p.opened, gen x.keys = x.packet.generation gen
  firstIn : ∀ n, p.connection.keyView.keyPhaseInFirstPn = some n →
    ∃ s ∈ arriving, s.number = n ∧ s.generation gen = g
  recorded : ∀ r ∈ p.connection.keyView.ranges, ∃ x ∈ p.opened, x.packet.number = r.largest
  confirmed : p.connection.keyView.awaitingConfirmation = false → 1 ≤ g →
    ∃ s ∈ arriving, g ≤ s.generation gen
  followed : 2 ≤ g → ∃ s ∈ arriving, g ≤ s.generation gen + 1
  unharmed : ¬p.connection.ClosedForKeys

section Steps

variable {env env' : Env} {layer : PacketLayer} {gen : PacketKeys → ℕ} {arriving more : List Sealed}
  {p q p' : KeyParty} {g g' : ℕ} {c c' : Connection}

lemma KeyParty.Sound.mono (hp : p.Sound env gen arriving g) (hsub : arriving ⊆ more) :
    p.Sound env gen more g where
  keys := hp.keys
  built := hp.built
  numbered := hp.numbered
  sealed_le := hp.sealed_le
  ordered := hp.ordered
  present := hp.present
  reports := by
    intro s hs f hf
    obtain ⟨t, ht, hnumber⟩ := hp.reports s hs f hf
    exact ⟨t, hsub ht, hnumber⟩
  arrived := fun x hx => hsub (hp.arrived x hx)
  opened_le := hp.opened_le
  opened_number := hp.opened_number
  opened_keys := hp.opened_keys
  firstIn := by
    intro n hn
    obtain ⟨s, hs, hnumber⟩ := hp.firstIn n hn
    exact ⟨s, hsub hs, hnumber⟩
  recorded := hp.recorded
  confirmed := by
    intro hawaiting hg
    obtain ⟨s, hs, hle⟩ := hp.confirmed hawaiting hg
    exact ⟨s, hsub hs, hle⟩
  followed := by
    intro hg
    obtain ⟨s, hs, hle⟩ := hp.followed hg
    exact ⟨s, hsub hs, hle⟩
  unharmed := hp.unharmed

/-- A change that key updates do not look at. -/
lemma KeyParty.Sound.other (hp : p.Sound env gen arriving g)
    (hview : c'.keyView = p.connection.keyView)
    (hclose : c'.ClosedForKeys → p.connection.ClosedForKeys) :
    ({ p with connection := c' } : KeyParty).Sound env gen arriving g where
  keys := hview ▸ hp.keys
  built := hp.built
  numbered := hview ▸ hp.numbered
  sealed_le := hp.sealed_le
  ordered := hp.ordered
  present := hview ▸ hp.present
  reports := hp.reports
  arrived := hp.arrived
  opened_le := hp.opened_le
  opened_number := hp.opened_number
  opened_keys := hp.opened_keys
  firstIn := hview ▸ hp.firstIn
  recorded := hview ▸ hp.recorded
  confirmed := hview ▸ hp.confirmed
  followed := hp.followed
  unharmed := fun h => hp.unharmed (hclose h)

/-- An endpoint that moves on to the next generation. -/
lemma KeyParty.Sound.moved (hp : p.Sound env gen arriving g)
    (hmoved : p.connection.keyView.MovedTo gen (g + 1) c'.keyView)
    (hfollowed : 1 ≤ g → ∃ s ∈ arriving, g ≤ s.generation gen)
    (hclose : c'.ClosedForKeys → p.connection.ClosedForKeys) :
    ({ p with connection := c' } : KeyParty).Sound env gen arriving (g + 1) where
  keys := hmoved.keys
  built := hp.built
  numbered := by
    intro s hs
    rw [hmoved.nextSend]
    exact hp.numbered s hs
  sealed_le := fun s hs => Nat.le_succ_of_le (hp.sealed_le s hs)
  ordered := hp.ordered
  present := by
    intro s hs
    have hle := hp.sealed_le s hs
    rw [hmoved.first]
    constructor
    · intro h
      omega
    · rintro ⟨n, hn, -⟩
      cases hn
  reports := hp.reports
  arrived := hp.arrived
  opened_le := fun x hx => Nat.le_succ_of_le (hp.opened_le x hx)
  opened_number := hp.opened_number
  opened_keys := hp.opened_keys
  firstIn := by
    intro n hn
    rw [hmoved.firstIn] at hn
    cases hn
  recorded := hmoved.ranges ▸ hp.recorded
  confirmed := by
    intro hawaiting
    rw [hmoved.awaiting] at hawaiting
    cases hawaiting
  followed := by
    intro hg
    obtain ⟨s, hs, hle⟩ := hfollowed (by omega)
    exact ⟨s, hs, by omega⟩
  unharmed := fun h => hp.unharmed (hclose h)

lemma Generations.ensureNext_keys (hgen : Generations env layer gen) {next current : Option PacketKeys}
    (hnext : ∀ keys, next = some keys → gen keys = g + 1)
    (hcurrent : ∀ keys, current = some keys → gen keys = g) {keys : PacketKeys} {status : Status}
    (h : ensureNext env next current = (some keys, status)) : gen keys = g + 1 := by
  unfold ensureNext at h
  split at h
  · exact hnext keys (Prod.mk.inj h).1
  · cases h
  · rename_i current
    obtain ⟨keys', hupdate, hkeys'⟩ := hgen.updates current
    rw [hupdate] at h
    simp only [Prod.mk.injEq, Option.some.injEq] at h
    rw [← h.1, hkeys', hcurrent current rfl]

/-- An update that is started moves the keys on, or changes nothing. -/
lemma quicConnectionInitiateKeyUpdate_moved (hgen : Generations env layer gen)
    (hc : c.keyView.AtGeneration gen g) :
    (quicConnectionInitiateKeyUpdate env c).1 = c ∨
      c.keyView.awaitingConfirmation = false ∧
      c.keyView.MovedTo gen (g + 1) (quicConnectionInitiateKeyUpdate env c).1.keyView := by
  obtain ⟨keysOut, hout, houtgen⟩ := hc.keysOut
  obtain ⟨keysIn, hin, hingen⟩ := hc.keysIn
  obtain ⟨updatedOut, hupdateOut, houtgen'⟩ := hgen.updates keysOut
  obtain ⟨updatedIn, hupdateIn, hingen'⟩ := hgen.updates keysIn
  have hout : c.keysOut .application = some keysOut := hout
  have hin : c.keysIn .application = some keysIn := hin
  unfold quicConnectionInitiateKeyUpdate
  rw [hout]
  simp only
  split
  · exact .inl rfl
  split
  · exact .inl rfl
  rename_i hawaiting
  right
  refine ⟨Bool.eq_false_iff.mpr hawaiting, ?_⟩
  simp only [hupdateOut, hin, Option.getD_some, hupdateIn, Option.map_some]
  refine ⟨⟨⟨updatedOut, ?_, by omega⟩, ⟨updatedIn, ?_, by omega⟩, ?_, ?_,
    fun _ => Nat.le_add_left 1 g, ?_, hc.unsent⟩, rfl, rfl, rfl, rfl, rfl⟩
  · exact Function.update_self Space.application _ c.keysOut
  · exact Function.update_self Space.application _ c.keysIn
  · intro keys hkeys
    have hderived : ensureNext env none (some updatedIn) = (some keys, _) := Prod.ext hkeys rfl
    refine hgen.ensureNext_keys (by simp) ?_ hderived
    intro keys' hkeys'
    obtain rfl := Option.some.inj hkeys'
    omega
  · intro keys hkeys
    obtain rfl : keysIn = keys := Option.some.inj hkeys
    omega
  · intro n hn
    cases hn

lemma quicConnectionInitiateKeyUpdate_closedForKeys (env : Env) (c : Connection) :
    (quicConnectionInitiateKeyUpdate env c).1.ClosedForKeys → c.ClosedForKeys :=
  (quicConnectionInitiateKeyUpdate_kept env c Connection.ClosedForKeys fun _ => rfl).mp

lemma KeyParty.Sound.initiated (hgen : Generations env layer gen) (hp : p.Sound env gen arriving g) :
    ∃ g', ({ p with connection := (quicConnectionInitiateKeyUpdate env p.connection).1 } :
      KeyParty).Sound env gen arriving g' := by
  have hclose := quicConnectionInitiateKeyUpdate_closedForKeys env p.connection
  rcases quicConnectionInitiateKeyUpdate_moved hgen hp.keys with h | ⟨hawaiting, hmoved⟩
  · rw [h]
    exact ⟨g, hp⟩
  · exact ⟨g + 1, hp.moved hmoved (hp.confirmed hawaiting) hclose⟩

lemma closeWith_closedForKeys {errorCode : ℕ} (h : errorCode ≠ quicKeyUpdateError)
    (c : Connection) (frameType now : ℕ) :
    (closeWith c errorCode frameType now).1.ClosedForKeys → c.ClosedForKeys := by
  unfold closeWith quicConnectionClose quicCloseTransport closeCommon
  split
  · exact id
  split
  · exact id
  · rintro ⟨-, hcode, -⟩
    exact absurd hcode h

lemma closeWith_keyView (c : Connection) (errorCode frameType now : ℕ) :
    (closeWith c errorCode frameType now).1.keyView = c.keyView := by
  unfold closeWith quicConnectionClose
  split
  · rfl
  · rfl

/-- The checks of `send_packet` start an update when the keys have been used up. -/
lemma KeyParty.Sound.guarded (hgen : Generations env layer gen) (hp : p.Sound env gen arriving g)
    (o : Outgoing) :
    ∃ g', ({ p with connection := (sendGuard env o p.connection).connection } :
      KeyParty).Sound env gen arriving g' := by
  rcases sendGuard_cases env o p.connection with h | h | h
  · rw [h]
    exact ⟨g, hp⟩
  · rw [h]
    exact hp.initiated hgen
  · rw [h]
    have hlimit : quicAeadLimitReached ≠ quicKeyUpdateError := by decide
    exact ⟨g, hp.other (closeWith_keyView _ _ _ _) (closeWith_closedForKeys hlimit _ 0 o.now)⟩

/-- The keys after the number of a packet was taken. -/
def KeyView.spent (v : KeyView) : KeyView :=
  { v with nextSend := u64Add v.nextSend 1, hasSent := true }

/-- The keys after a packet was protected. -/
def KeyView.counted (v : KeyView) : KeyView :=
  { v.spent with
    keyPhaseFirstPn := some (v.keyPhaseFirstPn.getD v.nextSend)
    responsePending := false }

/-- What `send_packet` does to the keys after its checks. -/
inductive ProtectKeys (o : Outgoing) (c c' : Connection) : Prop
  | kept (hview : c'.keyView = c.keyView) (hsent : o.space ≠ .application ∨ c'.trace = c.trace)
  | spent (hroom : c.keyView.hasSent = true → c.keyView.nextSend ≤ quicPacketNumberMax)
      (hview : c'.keyView = c.keyView.spent) (hsent : c'.trace = c.trace)
  | counted (hroom : c.keyView.hasSent = true → c.keyView.nextSend ≤ quicPacketNumberMax)
      (hview : c'.keyView = c.keyView.counted)

lemma setSpace_numbered_keyView (c : Connection) (space : Space) :
    (c.setSpace space (c.spaces space).numbered).keyView =
      if space = .application then c.keyView.spent else c.keyView := by
  split
  · rename_i h
    subst h
    simp [Connection.keyView, Connection.setSpace, KeyView.spent, PnSpace.numbered]
  · rename_i h
    simp [Connection.keyView, Connection.setSpace, Function.update_of_ne (Ne.symm h)]

lemma countProtected_keyView (c : Connection) (space : Space) (n : ℕ) :
    (countProtected c space n).keyView =
      if space = .application then
        { c.keyView with
          keyPhaseFirstPn := some (c.keyView.keyPhaseFirstPn.getD n)
          responsePending := false }
      else c.keyView := by
  unfold countProtected
  split
  · cases hfirst : c.keyPhaseFirstPn with
    | none => simp [Connection.keyView, hfirst]
    | some first => simp [Connection.keyView, hfirst]
  · rfl

lemma sendProtected_keys (env : Env) (o : Outgoing) (c : Connection) :
    ProtectKeys o c (sendProtected env o c).1 := by
  unfold sendProtected
  simp only
  split
  · exact .kept rfl (.inr rfl)
  cases hnext : quicPnSpaceNext (c.spaces o.space) with
  | error status => exact .kept rfl (.inr rfl)
  | ok r =>
    obtain ⟨n, s'⟩ := r
    obtain ⟨rfl, rfl, hroom⟩ := quicPnSpaceNext_ok hnext
    set numbered := c.setSpace o.space (c.spaces o.space).numbered with hnumbered
    have hview := setSpace_numbered_keyView c o.space
    have hcount := countProtected_keyView numbered o.space (c.spaces o.space).nextSend
    rw [← hnumbered] at hview
    -- Only a packet of the Application space concerns the keys.
    have hspent : ProtectKeys o c numbered := by
      by_cases hspace : o.space = .application
      · rw [if_pos hspace] at hview
        rw [hspace] at hroom
        exact .spent hroom hview rfl
      · rw [if_neg hspace] at hview
        exact .kept hview (.inl hspace)
    have hcounted : ∀ x : Connection, x.keyView = (countProtected numbered o.space
        (c.spaces o.space).nextSend).keyView → ProtectKeys o c x := by
      intro x hx
      by_cases hspace : o.space = .application
      · rw [if_pos hspace] at hview hcount
        rw [hcount, hview, hspace] at hx
        rw [hspace] at hroom
        exact .counted hroom hx
      · rw [if_neg hspace] at hview hcount
        exact .kept (hx.trans (hcount.trans hview)) (.inl hspace)
    simp only
    split
    · exact hspent
    split
    · exact hspent
    split
    · exact hspent
    split
    · exact hcounted _ rfl
    split
    · exact hcounted _ rfl
    · exact hcounted _ rfl

/-- What a packet that the socket has taken is made of. -/
lemma sealedBy_some {o : Outgoing} {s : Sealed} (h : sealedBy env o c = some s) :
    o.space = .application ∧ (sendProtected env o c).1.trace ≠ c.trace ∧
      env.packetBuild s.build = .ok s.bytes ∧ s.build.space = .application ∧
      s.number = c.keyView.nextSend ∧ s.build.keys = c.keyView.keysOut.getD ⟨[]⟩ ∧
      s.frame = o.frame := by
  unfold sealedBy at h
  simp only at h
  split at h
  · cases h
  rename_i bytes hbuild
  split_ifs at h with hsent
  obtain ⟨hspace, htrace⟩ := hsent
  obtain rfl := Option.some.inj h
  refine ⟨hspace, htrace, hbuild, hspace, ?_, ?_, rfl⟩
  · exact congrArg (fun space => (c.spaces space).nextSend) hspace
  · exact congrArg (fun space => (c.keysOut space).getD ⟨[]⟩) hspace

/-- Numbers do not run over. -/
lemma KeyView.AtGeneration.next_number {v : KeyView} (hv : v.AtGeneration gen g)
    (hroom : v.hasSent = true → v.nextSend ≤ quicPacketNumberMax) :
    u64Add v.nextSend 1 = v.nextSend + 1 := by
  apply u64Add_of_lt
  cases hsent : v.hasSent with
  | false =>
    rw [hv.unsent hsent]
    decide
  | true =>
    have hmax : quicPacketNumberMax + 1 < 2 ^ 64 := by decide
    have := hroom hsent
    omega

lemma KeyView.AtGeneration.spent {v : KeyView} (hv : v.AtGeneration gen g)
    (hroom : v.hasSent = true → v.nextSend ≤ quicPacketNumberMax) : v.spent.AtGeneration gen g where
  keysOut := hv.keysOut
  keysIn := hv.keysIn
  next := hv.next
  previous := hv.previous
  pending := hv.pending
  first_lt := by
    intro n hn
    have hlt := hv.first_lt n hn
    have hnext : v.spent.nextSend = v.nextSend + 1 := hv.next_number hroom
    omega
  unsent := fun h => nomatch h

lemma KeyView.AtGeneration.counted {v : KeyView} (hv : v.AtGeneration gen g)
    (hroom : v.hasSent = true → v.nextSend ≤ quicPacketNumberMax) :
    v.counted.AtGeneration gen g where
  keysOut := hv.keysOut
  keysIn := hv.keysIn
  next := hv.next
  previous := hv.previous
  pending := fun h => nomatch h
  first_lt := by
    intro n hn
    have hnext : v.counted.nextSend = v.nextSend + 1 := hv.next_number hroom
    have hn : v.keyPhaseFirstPn.getD v.nextSend = n := Option.some.inj hn
    cases hfirst : v.keyPhaseFirstPn with
    | none =>
      rw [hfirst, Option.getD_none] at hn
      omega
    | some first =>
      have hlt := hv.first_lt first hfirst
      rw [hfirst, Option.getD_some] at hn
      omega
  unsent := fun h => nomatch h

lemma KeyParty.Sound.stays (hp : p.Sound env gen arriving g) (hkeys : c'.keyView.AtGeneration gen g)
    (hnext : p.connection.keyView.nextSend ≤ c'.keyView.nextSend)
    (hpresent : ∀ s ∈ p.sent, s.generation gen = g ↔
      ∃ n, c'.keyView.keyPhaseFirstPn = some n ∧ n ≤ s.number)
    (hfirstIn : ∀ n, c'.keyView.keyPhaseInFirstPn = some n →
      ∃ s ∈ arriving, s.number = n ∧ s.generation gen = g)
    (hrecorded : ∀ r ∈ c'.keyView.ranges, ∃ x ∈ p.opened, x.packet.number = r.largest)
    (hconfirmed : c'.keyView.awaitingConfirmation = false → 1 ≤ g →
      ∃ s ∈ arriving, g ≤ s.generation gen)
    (hclose : c'.ClosedForKeys → p.connection.ClosedForKeys) :
    ({ p with connection := c' } : KeyParty).Sound env gen arriving g where
  keys := hkeys
  built := hp.built
  numbered := fun s hs => (hp.numbered s hs).trans_le hnext
  sealed_le := hp.sealed_le
  ordered := hp.ordered
  present := hpresent
  reports := hp.reports
  arrived := hp.arrived
  opened_le := hp.opened_le
  opened_number := hp.opened_number
  opened_keys := hp.opened_keys
  firstIn := hfirstIn
  recorded := hrecorded
  confirmed := hconfirmed
  followed := hp.followed
  unharmed := fun h => hp.unharmed (hclose h)

/-- A packet whose number was taken, and which was then given up. -/
lemma KeyParty.Sound.spent (hp : p.Sound env gen arriving g)
    (hroom : p.connection.keyView.hasSent = true →
      p.connection.keyView.nextSend ≤ quicPacketNumberMax)
    (hview : c'.keyView = p.connection.keyView.spent)
    (hclose : c'.ClosedForKeys → p.connection.ClosedForKeys) :
    ({ p with connection := c' } : KeyParty).Sound env gen arriving g := by
  have hnext : p.connection.keyView.spent.nextSend = p.connection.keyView.nextSend + 1 :=
    hp.keys.next_number hroom
  apply hp.stays
  · rw [hview]
    exact hp.keys.spent hroom
  · rw [hview]
    omega
  · rw [hview]
    exact hp.present
  · rw [hview]
    exact hp.firstIn
  · rw [hview]
    exact hp.recorded
  · rw [hview]
    exact hp.confirmed
  · exact hclose

lemma KeyParty.Sound.counted (hp : p.Sound env gen arriving g)
    (hroom : p.connection.keyView.hasSent = true →
      p.connection.keyView.nextSend ≤ quicPacketNumberMax)
    (hview : c'.keyView = p.connection.keyView.counted)
    (hclose : c'.ClosedForKeys → p.connection.ClosedForKeys) :
    ({ p with connection := c' } : KeyParty).Sound env gen arriving g := by
  have hnext : p.connection.keyView.counted.nextSend = p.connection.keyView.nextSend + 1 :=
    hp.keys.next_number hroom
  apply hp.stays
  · rw [hview]
    exact hp.keys.counted hroom
  · rw [hview]
    omega
  · intro s hs
    rw [hp.present s hs, hview]
    have hlt := hp.numbered s hs
    cases hfirst : p.connection.keyView.keyPhaseFirstPn with
    | none => simp [KeyView.counted, hfirst, hlt]
    | some first => simp [KeyView.counted, hfirst]
  · rw [hview]
    exact hp.firstIn
  · rw [hview]
    exact hp.recorded
  · rw [hview]
    exact hp.confirmed
  · exact hclose

/-- A packet of the present generation joins those that were sealed before. -/
lemma KeyParty.Sound.seal (hp : p.Sound env gen arriving g) {s : Sealed}
    (hbuilt : env.packetBuild s.build = .ok s.bytes ∧ s.build.space = .application)
    (hgeneration : s.generation gen = g) (hnew : ∀ t ∈ p.sent, t.number < s.number)
    (hnumber : s.number < p.connection.keyView.nextSend)
    (hfirst : ∃ n, p.connection.keyView.keyPhaseFirstPn = some n ∧ n ≤ s.number)
    (hreports : ∀ f, s.frame = some (.ack f) →
      ∃ t ∈ arriving, t.number = f.largest ∧ t.generation gen ≤ g) :
    ({ p with sent := p.sent ++ [s] } : KeyParty).Sound env gen arriving g where
  keys := hp.keys
  built := by
    simp only [List.forall_mem_append, List.forall_mem_singleton]
    exact ⟨hp.built, hbuilt⟩
  numbered := by
    simp only [List.forall_mem_append, List.forall_mem_singleton]
    exact ⟨hp.numbered, hnumber⟩
  sealed_le := by
    simp only [List.forall_mem_append, List.forall_mem_singleton]
    exact ⟨hp.sealed_le, hgeneration.le⟩
  ordered := by
    simp only [List.forall_mem_append, List.forall_mem_singleton]
    refine ⟨fun t ht => ⟨hp.ordered t ht, fun _ => ?_⟩, fun t ht hle => ?_, fun _ => le_rfl⟩
    · rw [hgeneration]
      exact hp.sealed_le t ht
    · exact absurd (hnew t ht) (Nat.not_lt.mpr hle)
  present := by
    simp only [List.forall_mem_append, List.forall_mem_singleton]
    exact ⟨hp.present, fun _ => hfirst, fun _ => hgeneration⟩
  reports := by
    simp only [List.forall_mem_append, List.forall_mem_singleton]
    rw [hgeneration]
    exact ⟨hp.reports, hreports⟩
  arrived := hp.arrived
  opened_le := hp.opened_le
  opened_number := hp.opened_number
  opened_keys := hp.opened_keys
  firstIn := hp.firstIn
  recorded := hp.recorded
  confirmed := hp.confirmed
  followed := hp.followed
  unharmed := hp.unharmed

lemma sendProtected_closedForKeys (env : Env) (o : Outgoing) (c : Connection) :
    (sendProtected env o c).1.ClosedForKeys → c.ClosedForKeys := by
  have hcount : ∀ (x : Connection) (n : ℕ),
      (countProtected x o.space n).ClosedForKeys → x.ClosedForKeys := by
    intro x n
    obtain ⟨first, pending, hcount⟩ := countProtected_eq x o.space n
    rw [hcount]
    exact id
  unfold sendProtected
  simp only
  split
  · exact id
  split
  · exact id
  split
  · exact id
  split
  · exact id
  split
  · exact id
  split
  · exact hcount _ _
  split
  · exact hcount _ _
  · exact hcount _ _

/-- A packet is protected and handed to the socket. -/
lemma KeyParty.Sound.protects (hp : p.Sound env gen arriving g) {o : Outgoing}
    (hack : ∀ f, o.frame = some (.ack f) → o.space = .application →
      f.Reports p.connection.keyView.ranges) :
    ({ p with
        connection := (sendProtected env o p.connection).1
        sent := p.sent ++ (sealedBy env o p.connection).toList } :
      KeyParty).Sound env gen arriving g := by
  have hclose := sendProtected_closedForKeys env o p.connection
  have hunsealed : (sealedBy env o p.connection = none) →
      ({ p with connection := (sendProtected env o p.connection).1 } : KeyParty).Sound
        env gen arriving g →
      ({ p with
          connection := (sendProtected env o p.connection).1
          sent := p.sent ++ (sealedBy env o p.connection).toList } :
        KeyParty).Sound env gen arriving g := by
    intro hnone hsound
    rw [hnone, Option.toList_none, List.append_nil]
    exact hsound
  have hnone : o.space ≠ .application ∨ (sendProtected env o p.connection).1.trace =
      p.connection.trace → sealedBy env o p.connection = none := by
    intro hkept
    refine Option.eq_none_iff_forall_ne_some.mpr ?_
    intro s hs
    obtain ⟨hspace, htrace, -⟩ := sealedBy_some hs
    exact hkept.elim (fun h => h hspace) fun h => htrace h
  cases sendProtected_keys env o p.connection with
  | kept hview hsent => exact hunsealed (hnone hsent) (hp.other hview hclose)
  | spent hroom hview hsent => exact hunsealed (hnone (.inr hsent)) (hp.spent hroom hview hclose)
  | counted hroom hview =>
    have hcounted := hp.counted hroom hview hclose
    cases hsealed : sealedBy env o p.connection with
    | none =>
      rw [hsealed] at hunsealed
      exact hunsealed rfl hcounted
    | some s =>
      obtain ⟨hspace, -, hbuild, happ, hnumber, hkeys, hframe⟩ := sealedBy_some hsealed
      obtain ⟨keysOut, hout, hgen⟩ := hp.keys.keysOut
      have hnext : p.connection.keyView.counted.nextSend = p.connection.keyView.nextSend + 1 :=
        hp.keys.next_number hroom
      apply hcounted.seal (s := s) ⟨hbuild, happ⟩
      · rw [hout] at hkeys
        exact (congrArg gen hkeys).trans hgen
      · intro t ht
        rw [hnumber]
        exact hp.numbered t ht
      · simp only [hview]
        omega
      · refine ⟨_, congrArg KeyView.keyPhaseFirstPn hview, ?_⟩
        rw [hnumber]
        cases hfirst : p.connection.keyView.keyPhaseFirstPn with
        | none => exact le_rfl
        | some first => exact (hp.keys.first_lt first hfirst).le
      · intro f hf
        obtain ⟨r, hr, hlargest⟩ := hack f (hframe ▸ hf) hspace
        obtain ⟨x, hx, hx'⟩ := hp.recorded r hr
        exact ⟨x.packet, hp.arrived x hx, hx'.trans hlargest, hp.opened_le x hx⟩

/-- The ends that reading a packet of the Application space can come to, with the keys of the last
attempt. -/
inductive ReadEnd (layer : PacketLayer) (env : Env) (keys : PacketKeys) (largest now : ℕ)
    (bytes : List UInt8) (c : Connection) :
    PacketKeys → Connection × Except Status ReceivedPacket → Prop
  | failed {k : PacketKeys} {next : Option PacketKeys} (status : Status)
      (hnext : NextKeysCached env c next) :
      ReadEnd layer env keys largest now bytes c k ({ c with nextKeysIn := next }, .error status)
  | current {u : Unprotected} {packet : ReceivedPacket}
      (hu : layer.unprotectHeader keys c.config.localConnectionId.length bytes = .ok u)
      (hopen : layer.openPacket keys c.config.localConnectionId.length largest u = .ok packet) :
      ReadEnd layer env keys largest now bytes c keys
        ({ c with keyPhaseInFirstPn :=
            if c.keyPhaseInFirstPn.isNone then some packet.packetNumber
            else c.keyPhaseInFirstPn }, .ok packet)
  | retired {u : Unprotected} {previous : PacketKeys} {next : Option PacketKeys}
      {packet : ReceivedPacket}
      (hu : layer.unprotectHeader keys c.config.localConnectionId.length bytes = .ok u)
      (hprevious : c.previousKeysIn = some previous) (hnext : NextKeysCached env c next)
      (hopen : layer.openPacket previous c.config.localConnectionId.length largest u = .ok packet) :
      ReadEnd layer env keys largest now bytes c previous ({ c with nextKeysIn := next }, .ok packet)
  | late {u : Unprotected} {previous : PacketKeys} {packet : ReceivedPacket} {first : ℕ}
      {result : Connection × Except Status ReceivedPacket}
      (hu : layer.unprotectHeader keys c.config.localConnectionId.length bytes = .ok u)
      (hprevious : c.previousKeysIn = some previous)
      (hopen : layer.openPacket previous c.config.localConnectionId.length largest u = .ok packet)
      (hfirst : c.keyPhaseInFirstPn = some first)
      (hnumber : first ≤ quicPacketNumberDecode (truncatedNumber u) u.pnLength largest)
      (hresult : ∀ packet', result.2 = .ok packet' → packet' = packet) :
      ReadEnd layer env keys largest now bytes c previous result
  | next {u : Unprotected} {next : PacketKeys} {packet : ReceivedPacket} {status : Status}
      {c' : Connection}
      (hu : layer.unprotectHeader keys c.config.localConnectionId.length bytes = .ok u)
      (hnext : NextKeysCached env c (some next))
      (hopen : layer.openPacket next c.config.localConnectionId.length largest u = .ok packet)
      (hrespond : keyUpdateRespond env now { c with nextKeysIn := some next } = (c', status)) :
      ReadEnd layer env keys largest now bytes c next
        (c', if status = .ok then .ok packet else .error status)

/-- A packet that is not of the present phase is tried with the next keys, and then with the
retired ones. -/
lemma openNextPhase_attempts {keys next : PacketKeys} {largest now : ℕ} {bytes : List UInt8}
    {u : Unprotected}
    (hu : layer.unprotectHeader keys c.config.localConnectionId.length bytes = .ok u)
    (hensure : ensureNext env c.nextKeysIn (c.keysIn .application) = (some next, .ok))
    (hfirst : ∀ first, c.keyPhaseInFirstPn = some first →
      first ≤ quicPacketNumberDecode (truncatedNumber u) u.pnLength largest) :
    ReadEnd layer env keys largest now bytes c
      (match layer.openPacket next c.config.localConnectionId.length largest u with
        | .ok _ => next
        | .error _ => c.previousKeysIn.getD ⟨[]⟩)
      (openNextPhase layer env largest now u c) := by
  have hcached : NextKeysCached env c (some next) := by
    have h : NextKeysCached env c _ := nextKeysCached_ensureNext c
    rwa [hensure] at h
  unfold openNextPhase
  simp only [hensure]
  cases hopen : layer.openPacket next c.config.localConnectionId.length largest u with
  | ok packet =>
    simp only
    cases hrespond : keyUpdateRespond env now { c with nextKeysIn := some next } with
    | mk c' status =>
      have hend : ReadEnd layer env keys largest now bytes c next _ :=
        .next hu hcached hopen hrespond
      by_cases hok : status = .ok
      · subst hok
        exact hend
      · rw [if_neg hok] at hend
        simpa [hok] using hend
  | error status =>
    simp only
    split
    · exact .failed status hcached
    rename_i hkeep
    obtain ⟨previous, hprevious⟩ : ∃ previous, c.previousKeysIn = some previous := by
      apply Option.ne_none_iff_exists'.mp
      intro hnone
      simp [hnone] at hkeep
    have hretired : c.previousKeysIn.getD ⟨[]⟩ = previous := by
      rw [hprevious]
      rfl
    rw [hretired]
    cases hopened : layer.openPacket previous c.config.localConnectionId.length largest u with
    | error _ => exact .failed .authentication hcached
    | ok packet =>
      simp only
      split
      · rename_i hsome
        obtain ⟨first, hfirstIn⟩ := Option.isSome_iff_exists.mp hsome
        refine .late hu hprevious hopened hfirstIn (hfirst first hfirstIn) ?_
        intro packet' hpacket'
        split at hpacket'
        · exact (Except.ok.inj hpacket').symm
        · cases hpacket'
      · exact .retired hu hprevious hcached hopened

lemma readApplicationPacket_end (layer : PacketLayer) (env : Env) (keys : PacketKeys)
    (largest now : ℕ) (bytes : List UInt8) (c : Connection) :
    ReadEnd layer env keys largest now bytes c (openingKeys layer env keys largest bytes c)
      (readApplicationPacket layer env keys largest now bytes c) := by
  have hsame : NextKeysCached env c c.nextKeysIn := .inl rfl
  unfold readApplicationPacket openingKeys
  simp only
  cases hu : layer.unprotectHeader keys c.config.localConnectionId.length bytes with
  | error status => exact .failed status hsame
  | ok u =>
    simp only
    split
    · cases hopen : layer.openPacket keys c.config.localConnectionId.length largest u with
      | error status => exact .failed status hsame
      | ok packet => exact .current hu hopen
    split
    · split
      · exact .failed .authentication hsame
      rename_i previous hprevious
      have hretired : c.previousKeysIn.getD keys = previous := by
        rw [hprevious]
        rfl
      rw [hretired]
      cases hopen : layer.openPacket previous c.config.localConnectionId.length largest u with
      | error status => exact .failed status hsame
      | ok packet => exact .retired hu hprevious hsame hopen
    · rename_i hbefore
      have hfirst : ∀ first, c.keyPhaseInFirstPn = some first →
          first ≤ quicPacketNumberDecode (truncatedNumber u) u.pnLength largest := by
        intro first hfirst
        rw [hfirst] at hbefore
        simpa using hbefore
      have hcached : NextKeysCached env c _ := nextKeysCached_ensureNext c
      split
      · rename_i next hensure
        exact openNextPhase_attempts hu hensure hfirst
      · rename_i hne
        unfold openNextPhase
        simp only
        split
        · rename_i next hensure
          exact absurd hensure (hne next)
        · rename_i hensure
          rw [hensure] at hcached
          exact .failed _ hcached

/-- The answer to an update moves the keys on, unless the last one was not answered yet. -/
lemma keyUpdateRespond_moved (hgen : Generations env layer gen) (hc : c.keyView.AtGeneration gen g)
    {next : PacketKeys} (hnext : c.nextKeysIn = some next)
    (hready : ¬(c.keyUpdateResponsePending = true ∧ c.keyPhaseFirstPn = none)) (now : ℕ) :
    ∃ c', keyUpdateRespond env now c = (c', .ok) ∧
      c.keyView.MovedTo gen (g + 1) c'.keyView ∧ (c'.ClosedForKeys → c.ClosedForKeys) := by
  obtain ⟨keysOut, hout, houtgen⟩ := hc.keysOut
  obtain ⟨keysIn, hin, hingen⟩ := hc.keysIn
  obtain ⟨updated, hupdate, hupdated⟩ := hgen.updates keysOut
  have hout : c.keysOut .application = some keysOut := hout
  have hin : c.keysIn .application = some keysIn := hin
  have hready : ¬(c.keyUpdateResponsePending = true ∧ c.keyPhaseFirstPn.isNone = true) := by
    simpa using hready
  unfold keyUpdateRespond
  simp only [if_neg hready, hout, Option.getD_some, hupdate, Option.map_some]
  refine ⟨_, rfl, ⟨⟨⟨updated, ?_, by omega⟩, ⟨next, ?_, ?_⟩, ?_, ?_, fun _ => Nat.le_add_left 1 g, ?_,
    hc.unsent⟩, rfl, rfl, rfl, rfl, rfl⟩, id⟩
  · exact Function.update_self Space.application _ c.keysOut
  · exact (Function.update_self Space.application _ c.keysIn).trans hnext
  · exact hc.next next hnext
  · intro keys hkeys
    cases hkeys
  · intro keys hkeys
    obtain rfl : keysIn = keys := Option.some.inj (hin.symm.trans hkeys)
    omega
  · intro n hn
    cases hn

/-- Next keys that are derived ahead of time are of the next generation. -/
lemma NextKeysCached.at_generation (hgen : Generations env layer gen)
    (hc : c.keyView.AtGeneration gen g) {next : Option PacketKeys}
    (hnext : NextKeysCached env c next) {keys : PacketKeys} (hkeys : next = some keys) :
    gen keys = g + 1 := by
  rcases hnext with rfl | ⟨-, rfl⟩
  · exact hc.next keys hkeys
  · refine hgen.ensureNext_keys hc.next ?_ (Prod.ext hkeys rfl)
    intro keys' hkeys'
    obtain ⟨keysIn, hin, hingen⟩ := hc.keysIn
    obtain rfl : keysIn = keys' := Option.some.inj (hin.symm.trans hkeys')
    exact hingen

lemma KeyParty.Sound.cached (hgen : Generations env layer gen) (hp : p.Sound env gen arriving g)
    {next : Option PacketKeys} (hnext : NextKeysCached env p.connection next) :
    ({ p with connection := { p.connection with nextKeysIn := next } } : KeyParty).Sound
      env gen arriving g := by
  refine hp.stays ⟨hp.keys.keysOut, hp.keys.keysIn, ?_, hp.keys.previous, hp.keys.pending,
    hp.keys.first_lt, hp.keys.unsent⟩ le_rfl hp.present hp.firstIn hp.recorded hp.confirmed id
  intro keys hkeys
  exact hnext.at_generation hgen hp.keys hkeys

lemma KeyParty.Sound.opens (hp : p.Sound env gen arriving g) {x : Opening}
    (harrived : x.packet ∈ arriving) (hle : x.packet.generation gen ≤ g)
    (hnumber : x.received.packetNumber = x.packet.number)
    (hkeys : gen x.keys = x.packet.generation gen) :
    ({ p with opened := p.opened ++ [x] } : KeyParty).Sound env gen arriving g where
  keys := hp.keys
  built := hp.built
  numbered := hp.numbered
  sealed_le := hp.sealed_le
  ordered := hp.ordered
  present := hp.present
  reports := hp.reports
  arrived := by
    simp only [List.forall_mem_append, List.forall_mem_singleton]
    exact ⟨hp.arrived, harrived⟩
  opened_le := by
    simp only [List.forall_mem_append, List.forall_mem_singleton]
    exact ⟨hp.opened_le, hle⟩
  opened_number := by
    simp only [List.forall_mem_append, List.forall_mem_singleton]
    exact ⟨hp.opened_number, hnumber⟩
  opened_keys := by
    simp only [List.forall_mem_append, List.forall_mem_singleton]
    exact ⟨hp.opened_keys, hkeys⟩
  firstIn := hp.firstIn
  recorded := by
    intro r hr
    obtain ⟨x', hx', hlargest⟩ := hp.recorded r hr
    exact ⟨x', List.mem_append_left _ hx', hlargest⟩
  confirmed := hp.confirmed
  followed := hp.followed
  unharmed := hp.unharmed

/-- The peer does not move on again before this endpoint has sealed a packet of the generation both
are at. -/
lemma KeyParty.Sound.ready (hp : p.Sound env gen q.sent g) (hq : q.Sound env' gen p.sent g')
    {s : Sealed} (hs : s ∈ q.sent) (hgeneration : s.generation gen = g + 1) :
    ¬(p.connection.keyUpdateResponsePending = true ∧ p.connection.keyPhaseFirstPn = none) := by
  rintro ⟨hpending, hnone⟩
  have hg : 1 ≤ g := hp.keys.pending hpending
  have hahead : g + 1 ≤ g' := hgeneration ▸ hq.sealed_le s hs
  obtain ⟨t, ht, hle⟩ := hq.followed (by omega)
  have hle' := hp.sealed_le t ht
  obtain ⟨n, hn, -⟩ := (hp.present t ht).mp (by omega)
  have hn : p.connection.keyPhaseFirstPn = some n := hn
  rw [hnone] at hn
  cases hn

/-- A packet of the retired generation has a number below those of the present one. -/
lemma KeyParty.Sound.not_late (hp : p.Sound env gen q.sent g) (hq : q.Sound env' gen p.sent g')
    {s : Sealed} (hs : s ∈ q.sent) (hgeneration : s.generation gen + 1 = g) {first : ℕ}
    (hfirst : p.connection.keyPhaseInFirstPn = some first) : s.number < first := by
  obtain ⟨t, ht, rfl, htgen⟩ := hp.firstIn first hfirst
  by_contra hle
  have := hq.ordered t ht s hs (by omega)
  omega

lemma KeyParty.Sound.reads (hgen : Generations env layer gen) (hgen' : Generations env' layer gen)
    (hp : p.Sound env gen q.sent g) (hq : q.Sound env' gen p.sent g') {s : Sealed}
    (hs : s ∈ q.sent) {keys : PacketKeys} (hkeys : p.connection.keysIn .application = some keys)
    (now : ℕ) :
    ∃ g₁, ({ p with
        connection := (readPacket layer env .application keys now s.bytes p.connection).1
        opened := p.opened ++ (openedBy layer env keys now s p.connection).toList } :
      KeyParty).Sound env gen q.sent g₁ := by
  obtain ⟨hbuild, happ⟩ := hq.built s hs
  obtain ⟨keysIn, hin, hingen⟩ := hp.keys.keysIn
  obtain rfl : keysIn = keys := Option.some.inj (hin.symm.trans hkeys)
  have hend := readApplicationPacket_end layer env keysIn
    (p.connection.spaces .application).receivedSoFar now s.bytes p.connection
  have hread : readPacket layer env .application keysIn now s.bytes p.connection =
      readApplicationPacket layer env keysIn (p.connection.spaces .application).receivedSoFar now
        s.bytes p.connection := rfl
  unfold openedBy
  rw [hread]
  generalize readApplicationPacket layer env keysIn
    (p.connection.spaces .application).receivedSoFar now s.bytes p.connection = result at hend ⊢
  generalize openingKeys layer env keysIn (p.connection.spaces .application).receivedSoFar s.bytes
    p.connection = used at hend ⊢
  cases hend with
  | failed status hnext =>
    refine ⟨g, ?_⟩
    simp only [Option.toList_none, List.append_nil]
    exact hp.cached hgen hnext
  | @current u packet hu hopen =>
    obtain ⟨hsame, hnumber, -⟩ := hgen'.opens hbuild happ hu hopen
    have hs' : s.generation gen = g := hsame.symm.trans hingen
    refine ⟨g, ?_⟩
    refine KeyParty.Sound.opens (p := { p with connection := _ }) ?_ hs hs'.le hnumber hsame
    refine hp.stays ⟨hp.keys.keysOut, hp.keys.keysIn, hp.keys.next, hp.keys.previous,
      hp.keys.pending, hp.keys.first_lt, hp.keys.unsent⟩ le_rfl hp.present ?_ hp.recorded
      hp.confirmed id
    intro n hn
    have hn : (if p.connection.keyPhaseInFirstPn.isNone then some packet.packetNumber
      else p.connection.keyPhaseInFirstPn) = some n := hn
    split_ifs at hn
    · exact ⟨s, hs, hnumber.symm.trans (Option.some.inj hn), hs'⟩
    · exact hp.firstIn n hn
  | retired hu hprevious hnext hopen =>
    obtain ⟨hsame, hnumber, -⟩ := hgen'.opens hbuild happ hu hopen
    have hbefore := hp.keys.previous used hprevious
    have hs' : s.generation gen + 1 = g := by
      rw [← hbefore, hsame]
      rfl
    have hle : s.generation gen ≤ g := by omega
    refine ⟨g, ?_⟩
    exact KeyParty.Sound.opens (p := { p with connection := _ }) (hp.cached hgen hnext) hs hle
      hnumber hsame
  | late hu hprevious hopen hfirst hnot hresult =>
    obtain ⟨hsame, -, hdecoded⟩ := hgen'.opens hbuild happ hu hopen
    have hbefore := hp.keys.previous used hprevious
    have hs' : s.generation gen + 1 = g := by
      rw [← hbefore, hsame]
      rfl
    have hlt := hp.not_late hq hs hs' hfirst
    rw [hdecoded] at hnot
    exact absurd hlt (Nat.not_lt.mpr hnot)
  | next hu hnext hopen hrespond =>
    obtain ⟨hsame, hnumber, -⟩ := hgen'.opens hbuild happ hu hopen
    have hahead : gen used = g + 1 := hnext.at_generation hgen hp.keys rfl
    have hs' : s.generation gen = g + 1 := hsame.symm.trans hahead
    have hcached := hp.cached hgen hnext
    obtain ⟨c₁, hc₁, hmoved, hclose⟩ :=
      keyUpdateRespond_moved hgen hcached.keys rfl (hp.ready hq hs hs') now
    rw [hc₁] at hrespond
    obtain ⟨rfl, rfl⟩ := Prod.mk.inj hrespond
    refine ⟨g + 1, ?_⟩
    simp only [if_true]
    refine KeyParty.Sound.opens (p := { p with connection := _ }) ?_ hs hs'.le hnumber hsame
    exact hcached.moved hmoved (fun _ => ⟨s, hs, by omega⟩) hclose

/-- A range that was recorded ends where an older one does, or at the new number. -/
lemma largest_of_mem_ackRecordRanges {ranges : List ClosedRange} {n : ℕ} {r : ClosedRange}
    (h : r ∈ ackRecordRanges ranges n) : r.largest = n ∨ ∃ r' ∈ ranges, r'.largest = r.largest := by
  have hpoint : ackInsertionPoint ranges n ≤ ranges.length := List.findIdx_le_length
  have hset : ∀ {i : ℕ} {r' : ClosedRange}, r ∈ ranges.set i r' →
      r'.largest = n ∨ (∃ x ∈ ranges, x.largest = r'.largest) →
      r.largest = n ∨ ∃ x ∈ ranges, x.largest = r.largest := by
    intro i r' hr hr'
    rcases List.mem_or_eq_of_mem_set hr with hr | rfl
    · exact .inr ⟨r, hr, rfl⟩
    · exact hr'
  unfold ackRecordRanges at h
  simp only at h
  split at h
  · have hat : ackInsertionPoint ranges n - 1 < ranges.length := by omega
    refine hset (List.mem_of_mem_eraseIdx h) (.inr ⟨_, List.getElem_mem hat, ?_⟩)
    simp [List.getD_eq_getElem?_getD, hat]
  split at h
  · have hat : ackInsertionPoint ranges n - 1 < ranges.length := by omega
    refine hset h (.inr ⟨_, List.getElem_mem hat, ?_⟩)
    simp [List.getD_eq_getElem?_getD, hat]
  split at h
  · exact hset h (.inl rfl)
  have hkept : ∀ x ∈ (if ranges.length = quicReceivedRangesMax then dropOldest ranges else ranges),
      x ∈ ranges := by
    split
    · exact fun x hx => List.mem_of_mem_dropLast hx
    · exact fun x hx => hx
  rcases List.mem_append.mp h with h | h
  · exact .inr ⟨r, hkept r (List.mem_of_mem_take h), rfl⟩
  rcases List.mem_cons.mp h with rfl | h
  · exact .inl rfl
  · exact .inr ⟨r, hkept r (List.mem_of_mem_drop h), rfl⟩

/-- The number of a packet that was opened is recorded. -/
lemma KeyParty.Sound.records (hp : p.Sound env gen arriving g) {x : Opening} (hx : x ∈ p.opened)
    (asks : Bool) :
    ({ p with connection := recordArrival x.received.packetNumber asks p.connection } :
      KeyParty).Sound env gen arriving g := by
  refine hp.stays ⟨hp.keys.keysOut, hp.keys.keysIn, hp.keys.next, hp.keys.previous,
    hp.keys.pending, hp.keys.first_lt, hp.keys.unsent⟩ le_rfl hp.present hp.firstIn ?_
    hp.confirmed id
  intro r hr
  have hr : r ∈ (quicAckRecord (p.connection.spaces .application).received x.received.packetNumber
    asks).ranges := hr
  unfold quicAckRecord at hr
  split at hr
  · exact hp.recorded r hr
  · rcases largest_of_mem_ackRecordRanges hr with hnew | ⟨r', hr', hlargest⟩
    · exact ⟨x, hx, (hp.opened_number x hx).symm.trans hnew.symm⟩
    · rw [← hlargest]
      exact hp.recorded r' hr'

/-- The walk over the packets an ACK frame covers leaves the keys alone. -/
lemma ackWalk_keyView (space : Space) (f : AckFrame) (c : Connection) :
    (ackWalk space f c).connection.keyView = c.keyView ∧
      ((ackWalk space f c).connection.ClosedForKeys → c.ClosedForKeys) := by
  have hrelease : ∀ (tag : ℕ) (x : Connection),
      (releaseAcked tag x).keyView = x.keyView ∧
        ((releaseAcked tag x).ClosedForKeys → x.ClosedForKeys) := by
    intro tag x
    unfold releaseAcked freeFrame
    split
    · simp only
      split
      · exact ⟨rfl, id⟩
      · exact ⟨rfl, id⟩
    · exact ⟨rfl, id⟩
  have hentry : ∀ (w : AckWalk) (p : SentPacket),
      (ackEntry space f w p).connection.keyView = w.connection.keyView ∧
        ((ackEntry space f w p).connection.ClosedForKeys → w.connection.ClosedForKeys) := by
    intro w p
    unfold ackEntry
    split
    · exact ⟨rfl, id⟩
    simp only
    split
    · exact ⟨rfl, id⟩
    · exact hrelease _ _
  have hfold : ∀ (ps : List SentPacket) (w : AckWalk),
      (ps.foldl (ackEntry space f) w).connection.keyView = w.connection.keyView ∧
        ((ps.foldl (ackEntry space f) w).connection.ClosedForKeys →
          w.connection.ClosedForKeys) := by
    intro ps
    induction ps with
    | nil => exact fun w => ⟨rfl, id⟩
    | cons p ps ih =>
      intro w
      obtain ⟨hview, hclose⟩ := ih (ackEntry space f w p)
      obtain ⟨hview', hclose'⟩ := hentry w p
      exact ⟨hview.trans hview', fun h => hclose' (hclose h)⟩
  exact hfold _ _

/-- An acknowledgement confirms an update when it covers a packet of the present generation. -/
lemma ackSample_keys (f : AckFrame) (now : ℕ) {w : AckWalk}
    (hw : ∀ r ∈ w.largest, r.1 ≤ f.largest) :
    ((ackSample .application f now w).1.keyView = w.connection.keyView ∨
      (∃ n, w.connection.keyView.keyPhaseFirstPn = some n ∧ n ≤ f.largest) ∧
      (ackSample .application f now w).1.keyView = { w.connection.keyView with
        awaitingConfirmation := false
        previousKeysIn := none }) ∧
    ((ackSample .application f now w).1.ClosedForKeys → w.connection.ClosedForKeys) := by
  unfold ackSample
  split
  · exact ⟨.inl rfl, id⟩
  rename_i number time hlargest
  have hnumber : number ≤ f.largest := hw (number, time) (by simp [hlargest])
  simp only
  split
  · exact ⟨.inl (by simp [Connection.keyView, Connection.setSpace]), id⟩
  rename_i s' haccepted
  unfold quicPnSpaceOnAck at haccepted
  split at haccepted
  · cases haccepted
  obtain rfl := Except.ok.inj haccepted
  split
  · rename_i hconfirmed
    obtain ⟨-, hconfirmed⟩ := hconfirmed
    have hconfirmed : w.connection.keyPhaseFirstPn.any (· ≤ number) = true := hconfirmed
    obtain ⟨n, hn, hle⟩ : ∃ n, w.connection.keyPhaseFirstPn = some n ∧ n ≤ number := by
      cases hfirst : w.connection.keyPhaseFirstPn with
      | none => simp [hfirst] at hconfirmed
      | some n =>
        rw [hfirst] at hconfirmed
        exact ⟨n, rfl, by simpa using hconfirmed⟩
    refine ⟨.inr ⟨⟨n, hn, hle.trans hnumber⟩, ?_⟩, id⟩
    simp [Connection.keyView, Connection.setSpace]
  · exact ⟨.inl (by simp [Connection.keyView, Connection.setSpace]), id⟩

lemma KeyParty.Sound.acknowledges (hp : p.Sound env gen q.sent g)
    (hq : q.Sound env' gen p.sent g') {x : Opening} {f : AckFrame} (hx : x ∈ p.opened)
    (hf : x.packet.frame = some (.ack f)) (now : ℕ) :
    ({ p with connection :=
        (ackSample .application f now (ackWalk .application f p.connection)).1 } :
      KeyParty).Sound env gen q.sent g := by
  obtain ⟨hwalk, hwalkClose⟩ := ackWalk_keyView .application f p.connection
  have hlargest := (ackWalk_quiet env (fun _ => True) .application f p.connection).2
  obtain ⟨hsample, hsampleClose⟩ := ackSample_keys f now hlargest
  have hclose := fun h => hwalkClose (hsampleClose h)
  rw [hwalk] at hsample
  rcases hsample with hsame | ⟨⟨n, hn, hle⟩, hview⟩
  · exact hp.other hsame hclose
  -- The frame reports a packet of this generation, so the peer had moved on when it sealed it.
  have hx' := hp.arrived x hx
  obtain ⟨t, ht, hnumber, hgenerations⟩ := hq.reports x.packet hx' f hf
  have ht' : t.generation gen = g := (hp.present t ht).mpr ⟨n, hn, by omega⟩
  refine hp.stays ?_ ?_ ?_ ?_ ?_ ?_ hclose
  · rw [hview]
    refine ⟨hp.keys.keysOut, hp.keys.keysIn, hp.keys.next, ?_, hp.keys.pending,
      hp.keys.first_lt, hp.keys.unsent⟩
    intro keys hkeys
    cases hkeys
  · rw [hview]
  · rw [hview]
    exact hp.present
  · rw [hview]
    exact hp.firstIn
  · rw [hview]
    exact hp.recorded
  · intro _ _
    exact ⟨x.packet, hx', ht' ▸ hgenerations⟩

/-! ## Whole runs -/

/-- A step of an endpoint. -/
theorem KeyStep.sound (hgen : Generations env layer gen) (hgen' : Generations env' layer gen)
    (hstep : KeyStep env layer q.sent p p') (hp : p.Sound env gen q.sent g)
    (hq : q.Sound env' gen p.sent g') : ∃ g₁, p'.Sound env gen q.sent g₁ := by
  cases hstep with
  | other hkeys hclose => exact ⟨g, hp.other hkeys hclose⟩
  | initiate => exact hp.initiated hgen
  | guard o => exact hp.guarded hgen o
  | protect o hack => exact ⟨g, hp.protects hack⟩
  | read hs hkeys now => exact hp.reads hgen hgen' hq hs hkeys now
  | record hx asks => exact ⟨g, hp.records hx asks⟩
  | acknowledge hx hf now => exact ⟨g, hp.acknowledges hq hx hf now⟩

lemma KeyStep.sent_subset (hstep : KeyStep env layer arriving p p') : p.sent ⊆ p'.sent := by
  cases hstep with
  | protect o hack => exact List.subset_append_left _ _
  | other | initiate | guard | read | record | acknowledge => exact fun _ h => h

/-- What every run keeps true of the two endpoints. -/
def Duplex.Sound (env env' : Env) (gen : PacketKeys → ℕ) (d : Duplex) : Prop :=
  (∃ g, d.left.Sound env gen d.right.sent g) ∧ ∃ g, d.right.Sound env' gen d.left.sent g

lemma Duplex.Step.sound {d d' : Duplex} (hgen : Generations env layer gen)
    (hgen' : Generations env' layer gen) (hstep : Duplex.Step env env' layer d d')
    (hd : d.Sound env env' gen) : d'.Sound env env' gen := by
  obtain ⟨⟨g, hleft⟩, g', hright⟩ := hd
  cases hstep with
  | left h => exact ⟨h.sound hgen hgen' hleft hright, g', hright.mono h.sent_subset⟩
  | right h => exact ⟨⟨g, hleft.mono h.sent_subset⟩, h.sound hgen' hgen hright hleft⟩

lemma Duplex.Run.sound {d d' : Duplex} (hgen : Generations env layer gen)
    (hgen' : Generations env' layer gen) (hrun : Duplex.Run env env' layer d d')
    (hd : d.Sound env env' gen) : d'.Sound env env' gen := by
  induction hrun with
  | refl => exact hd
  | tail _ hstep ih => exact hstep.sound hgen hgen' ih

end Steps

/-- An endpoint that has just got its keys for the Application space. -/
structure KeyParty.Fresh (gen : PacketKeys → ℕ) (p : KeyParty) : Prop where
  keysOut : ∃ keys, p.connection.keyView.keysOut = some keys ∧ gen keys = 0
  keysIn : ∃ keys, p.connection.keyView.keysIn = some keys ∧ gen keys = 0
  next : p.connection.keyView.nextKeysIn = none
  previous : p.connection.keyView.previousKeysIn = none
  first : p.connection.keyView.keyPhaseFirstPn = none
  firstIn : p.connection.keyView.keyPhaseInFirstPn = none
  pending : p.connection.keyView.responsePending = false
  nextSend : p.connection.keyView.nextSend = 0
  ranges : p.connection.keyView.ranges = []
  sent : p.sent = []
  opened : p.opened = []
  unharmed : ¬p.connection.ClosedForKeys

lemma KeyParty.Fresh.sound {gen : PacketKeys → ℕ} {p : KeyParty} (hp : p.Fresh gen) (env : Env)
    (arriving : List Sealed) : p.Sound env gen arriving 0 where
  keys :=
    { keysOut := hp.keysOut
      keysIn := hp.keysIn
      next := by simp [hp.next]
      previous := by simp [hp.previous]
      pending := by simp [hp.pending]
      first_lt := by simp [hp.first]
      unsent := fun _ => hp.nextSend }
  built := by simp [hp.sent]
  numbered := by simp [hp.sent]
  sealed_le := by simp [hp.sent]
  ordered := by simp [hp.sent]
  present := by simp [hp.sent]
  reports := by simp [hp.sent]
  arrived := by simp [hp.opened]
  opened_le := by simp [hp.opened]
  opened_number := by simp [hp.opened]
  opened_keys := by simp [hp.opened]
  firstIn := by simp [hp.firstIn]
  recorded := by simp [hp.ranges]
  confirmed := by simp
  followed := by simp
  unharmed := hp.unharmed

section Runs

variable {env env' : Env} {layer : PacketLayer} {gen : PacketKeys → ℕ}

/-- The generation of an endpoint is the one it seals with. -/
lemma KeyParty.Sound.sendGeneration_eq {arriving : List Sealed} {p : KeyParty} {g : ℕ}
    (hp : p.Sound env gen arriving g) : p.connection.sendGeneration gen = g := by
  obtain ⟨keys, hkeys, hg⟩ := hp.keys.keysOut
  have hkeys : p.connection.keysOut .application = some keys := hkeys
  rw [Connection.sendGeneration, hkeys]
  exact hg

/-- An endpoint is at most one generation ahead of its peer. -/
lemma KeyParty.Sound.le_succ {p q : KeyParty} {g g' : ℕ} (hp : p.Sound env gen q.sent g)
    (hq : q.Sound env' gen p.sent g') : g ≤ g' + 1 := by
  by_cases hg : 2 ≤ g
  · obtain ⟨s, hs, hle⟩ := hp.followed hg
    have := hq.sealed_le s hs
    omega
  · omega

/-- However two endpoints update their keys and whatever the network does to their packets, the
generations they seal with differ by one at most, a packet is opened with keys of the generation
that sealed it, and neither endpoint closes with `KEY_UPDATE_ERROR`. -/
theorem key_updates_safe (hgen : Generations env layer gen) (hgen' : Generations env' layer gen)
    {d₀ d : Duplex} (hleft : d₀.left.Fresh gen) (hright : d₀.right.Fresh gen)
    (hrun : Duplex.Run env env' layer d₀ d) :
    (d.left.connection.sendGeneration gen ≤ d.right.connection.sendGeneration gen + 1 ∧
      d.right.connection.sendGeneration gen ≤ d.left.connection.sendGeneration gen + 1) ∧
    ((∀ x ∈ d.left.opened, x.packet ∈ d.right.sent ∧ gen x.keys = x.packet.generation gen) ∧
      ∀ x ∈ d.right.opened, x.packet ∈ d.left.sent ∧ gen x.keys = x.packet.generation gen) ∧
    ¬d.left.connection.ClosedForKeys ∧ ¬d.right.connection.ClosedForKeys := by
  obtain ⟨⟨g, hl⟩, g', hr⟩ := hrun.sound hgen hgen' ⟨⟨0, hleft.sound env _⟩, 0, hright.sound env' _⟩
  rw [hl.sendGeneration_eq, hr.sendGeneration_eq]
  refine ⟨⟨hl.le_succ hr, hr.le_succ hl⟩, ⟨?_, ?_⟩, hl.unharmed, hr.unharmed⟩
  · exact fun x hx => ⟨hl.arrived x hx, hl.opened_keys x hx⟩
  · exact fun x hx => ⟨hr.arrived x hx, hr.opened_keys x hx⟩

end Runs

/-! ## An update between two servers -/

/-- A protection that writes down the generation and the number of a packet. -/
def tallyBytes (b : PacketBuild) : List UInt8 :=
  [if b.keyPhase then 4 else 0, UInt8.ofNat b.packetNumber] ++
    (List.replicate b.keys.secret.length 1 ++ 0 :: List.replicate b.packetNumber 1)

/-- The generation that was written down. -/
def tallyGeneration (bytes : List UInt8) : ℕ := ((bytes.drop 2).takeWhile (· = 1)).length

/-- The number that was written down. -/
def tallyNumber (bytes : List UInt8) : ℕ :=
  ((bytes.drop 2).drop (tallyGeneration bytes + 1)).length

lemma tallyGeneration_bytes (b : PacketBuild) :
    tallyGeneration (tallyBytes b) = b.keys.secret.length := by
  unfold tallyGeneration tallyBytes
  simp

lemma tallyNumber_bytes (b : PacketBuild) : tallyNumber (tallyBytes b) = b.packetNumber := by
  unfold tallyNumber
  rw [tallyGeneration_bytes]
  simp only [tallyBytes, List.cons_append, List.nil_append, List.drop_succ_cons, List.drop_zero,
    List.length_drop, List.length_append, List.length_replicate, List.length_cons]
  omega

/-- Endpoints with this protection. -/
def tallyEnv : Env where
  packetBuild b := .ok (tallyBytes b)
  udpSend _ := .ok
  packetKeysUpdate keys := .ok ⟨0 :: keys.secret⟩
  randomBytes _ := .ok (List.replicate 8 0)
  packetBuild_failed := by simp
  packetKeysUpdate_failed := by simp
  randomBytes_failed := steadyEnv.randomBytes_failed

/-- A packet opens when its generation is that of the keys and its number is completed rightly. -/
def tallyOpen (keys : PacketKeys) (largest : ℕ) (u : Unprotected) : Except Status ReceivedPacket :=
  if keys.secret.length = tallyGeneration u.bytes ∧
      quicPacketNumberDecode (truncatedNumber u) u.pnLength largest = tallyNumber u.bytes then
    .ok ⟨true, [], [], tallyNumber u.bytes, u.totalLength, []⟩
  else .error .authentication

lemma tallyOpen_ok {keys : PacketKeys} {largest : ℕ} {u : Unprotected} {packet : ReceivedPacket}
    (h : tallyOpen keys largest u = .ok packet) :
    keys.secret.length = tallyGeneration u.bytes ∧
      quicPacketNumberDecode (truncatedNumber u) u.pnLength largest = tallyNumber u.bytes ∧
      packet = ⟨true, [], [], tallyNumber u.bytes, u.totalLength, []⟩ := by
  unfold tallyOpen at h
  split at h
  · rename_i hboth
    exact ⟨hboth.1, hboth.2, (Except.ok.inj h).symm⟩
  · cases h

/-- The receiving side of this protection. -/
def tallyLayer : PacketLayer where
  unprotectHeader _ _ bytes := .ok ⟨bytes, 1, 1, bytes.length⟩
  openPacket keys _ largest u := tallyOpen keys largest u
  retryDecode _ := none
  retryVerify _ _ := false
  unprotect_failed := pingLayer.unprotect_failed
  open_failed := by
    intro keys idLength largest u
    unfold tallyOpen
    split <;> simp
  opened_length := by
    intro keys idLength largest u packet h
    rw [(tallyOpen_ok h).2.2]

/-- The length of a secret counts the generations. -/
lemma tally_generations : Generations tallyEnv tallyLayer fun keys => keys.secret.length where
  updates := fun keys => ⟨⟨0 :: keys.secret⟩, rfl, rfl⟩
  opens := by
    intro b bytes hpKeys keys idLength largest u packet hbuild _ hu hopen
    obtain rfl : tallyBytes b = bytes := Except.ok.inj hbuild
    obtain rfl := Except.ok.inj hu
    obtain ⟨hgeneration, hnumber, rfl⟩ := tallyOpen_ok hopen
    rw [tallyGeneration_bytes] at hgeneration
    rw [tallyNumber_bytes] at hnumber
    exact ⟨hgeneration, tallyNumber_bytes b, hnumber⟩

/-- A server whose handshake is confirmed. -/
def confirmedServer : Connection :=
  { keyedServer with keysIn := fun _ => some ⟨[]⟩, handshakeConfirmed := true }

/-- A packet with a PING. -/
def pingOutgoing : Outgoing := ⟨.application, some .ping, [1], true, 0, 0⟩

lemma confirmedServer_fresh :
    (⟨confirmedServer, [], []⟩ : KeyParty).Fresh fun keys => keys.secret.length where
  keysOut := ⟨⟨[]⟩, rfl, rfl⟩
  keysIn := ⟨⟨[]⟩, rfl, rfl⟩
  next := rfl
  previous := rfl
  first := rfl
  firstIn := rfl
  pending := rfl
  nextSend := rfl
  ranges := rfl
  sent := rfl
  opened := rfl
  unharmed := fun h => nomatch h.1

/-- The endpoint that starts the update, after its first packet. -/
def updatedSender : KeyParty :=
  let c := (quicConnectionInitiateKeyUpdate tallyEnv confirmedServer).1
  ⟨(sendProtected tallyEnv pingOutgoing c).1, (sealedBy tallyEnv pingOutgoing c).toList, []⟩

/-- The packet it has sealed. -/
def updatePacket : Sealed :=
  ⟨packetToBuild updatedSender.connection pingOutgoing 0 1, [4, 0, 1, 0], some .ping⟩

/-- The endpoint that answers the update. -/
def updateAnswerer : KeyParty :=
  ⟨(readPacket tallyLayer tallyEnv .application ⟨[]⟩ 0 updatePacket.bytes confirmedServer).1, [],
    (openedBy tallyLayer tallyEnv ⟨[]⟩ 0 updatePacket confirmedServer).toList⟩

lemma update_run :
    Duplex.Run tallyEnv tallyEnv tallyLayer ⟨⟨confirmedServer, [], []⟩, ⟨confirmedServer, [], []⟩⟩
      ⟨updatedSender, updateAnswerer⟩ := by
  refine ((Relation.ReflTransGen.single (.left .initiate)).tail
    (.left (.protect pingOutgoing ?_))).tail (.right (.read (s := updatePacket) ?_ ?_ 0))
  · exact List.mem_singleton_self updatePacket
  · rfl
  · intro f hf
    cases hf

/-- An update that is answered: the answer opens the packet with the next keys. -/
theorem key_update_answered :
    updateAnswerer.opened.length = 1 ∧
    updateAnswerer.connection.sendGeneration (fun keys => keys.secret.length) = 1 ∧
    updatedSender.connection.sendGeneration (fun keys => keys.secret.length) ≤
      updateAnswerer.connection.sendGeneration (fun keys => keys.secret.length) + 1 ∧
    (∀ x ∈ updateAnswerer.opened, x.keys.secret.length = x.packet.build.keys.secret.length) ∧
    ¬updateAnswerer.connection.ClosedForKeys := by
  have h := key_updates_safe tally_generations tally_generations confirmedServer_fresh
    confirmedServer_fresh update_run
  exact ⟨by decide, by decide, h.1.1, fun x hx => (h.2.1.2 x hx).2, h.2.2.2⟩

end WebTransport
