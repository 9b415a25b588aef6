import WebTransport.Quic.ConnectionDatagram

/-!
# Packets that are processed once

The numbers that have arrived are recorded for the sake of the ACK frames that name them. The
receive path does not look at the record before it walks over the frames of a packet: what keeps
a packet from being processed twice is the network that delivers it once.
-/

namespace WebTransport

/-- The packets that the peer has sealed, with their numbers: only these open, none is empty, and
no two packets of a space have the same number. -/
structure PeerSeals (layer : PacketLayer) (sealed : List UInt8 → Option ℕ) : Prop where
  authentic : ∀ {keys keys' idLength largest bytes u packet},
    layer.unprotectHeader keys idLength bytes = .ok u →
      layer.openPacket keys' idLength largest u = .ok packet →
        sealed (bytes.take packet.totalLength) = some packet.packetNumber
  nonempty : sealed [] = none
  once : ∀ {wire wire' n}, sealed wire = some n → sealed wire' = some n →
    headerSpace wire = headerSpace wire' → wire = wire'

/-- What holds of a packet that was processed. -/
structure Processed.Authentic (sealed : List UInt8 → Option ℕ) (p : Processed) : Prop where
  sealed : sealed p.wire = some p.packetNumber
  space : headerSpace p.wire = some p.space

/-- A datagram that brings no packet again: none that was processed before, and none twice. -/
structure BringsNothingAgain (sealed : List UInt8 → Option ℕ) (datagram : List UInt8)
    (r : Receiver) : Prop where
  before : ∀ p ∈ r.processed, ∀ k, ¬p.wire <+: datagram.drop k
  within : ∀ wire k k', sealed wire ≠ none → wire <+: datagram.drop k →
    wire <+: datagram.drop k' → k = k'

/-- The runs of a connection that receives datagrams, each of which met a condition; between
them anything happens to it. -/
inductive ReceiveRun (layer : PacketLayer) (env : Env) (handler : FrameHandler)
    (Meets : List UInt8 → Receiver → Prop) : Receiver → Prop
  | init {config : ConnectionConfig} {c : Connection} (h : quicConnectionInit config = .ok c) :
      ReceiveRun layer env handler Meets { connection := c }
  | receive {fuel now : ℕ} {fromPeer : Bool} {datagram : List UInt8} {r r' : Receiver}
      {status : Status} (h : ReceiveRun layer env handler Meets r)
      (hcall : quicConnectionReceive layer env handler fuel fromPeer datagram now r =
        some (r', status))
      (hmeets : Meets datagram r) : ReceiveRun layer env handler Meets r'
  | other {r r' : Receiver} (h : ReceiveRun layer env handler Meets r)
      (hsame : r'.processed = r.processed) : ReceiveRun layer env handler Meets r'

section Rounds

variable {layer : PacketLayer} {env : Env} {handler : FrameHandler} {sealed : List UInt8 → Option ℕ}
  {fuel now datagramLength : ℕ} {space : Space} {keys : PacketKeys} {bytes : List UInt8}
  {c c' : Connection} {r r' : Receiver} {packet : ReceivedPacket} {stop : RoundEnd}

/-- A packet that was opened is one that the peer sealed. -/
def OpenedFrom (layer : PacketLayer) (bytes : List UInt8) (packet : ReceivedPacket) : Prop :=
  ∃ keys keys' idLength largest u, layer.unprotectHeader keys idLength bytes = .ok u ∧
    layer.openPacket keys' idLength largest u = .ok packet

lemma quicPacketRead_opened {idLength largest : ℕ}
    (h : quicPacketRead layer keys idLength largest bytes = .ok packet) :
    OpenedFrom layer bytes packet := by
  unfold quicPacketRead at h
  split at h
  · cases h
  · rename_i u hu
    exact ⟨_, _, _, _, u, hu, h⟩

/-- The keys of the other phase open what was unprotected. -/
lemma openNextPhase_opened {largest : ℕ} {u : Unprotected} {result : Except Status ReceivedPacket}
    (h : openNextPhase layer env largest now u c = (c', result)) (hok : result = .ok packet) :
    ∃ keys idLength, idLength = c.config.localConnectionId.length ∧
      layer.openPacket keys idLength largest u = .ok packet := by
  subst hok
  unfold openNextPhase at h
  simp only at h
  split at h
  · rename_i next hnext
    split at h
    · rename_i p hopen
      split at h
      · cases h
        exact ⟨next, _, rfl, hopen⟩
      · cases h
    · split at h
      · cases h
      split at h
      · cases h
      rename_i p hopen
      split at h
      · split at h
        · cases h
          exact ⟨_, _, rfl, hopen⟩
        · cases h
      · cases h
        exact ⟨_, _, rfl, hopen⟩
  · cases h

lemma readApplicationPacket_opened {largest : ℕ} {result : Except Status ReceivedPacket}
    (h : readApplicationPacket layer env keys largest now bytes c = (c', result))
    (hok : result = .ok packet) : OpenedFrom layer bytes packet := by
  subst hok
  unfold readApplicationPacket at h
  simp only at h
  split at h
  · cases h
  rename_i u hu
  split at h
  · split at h
    · cases h
    · rename_i p hopen
      cases h
      exact ⟨_, _, _, _, u, hu, hopen⟩
  split at h
  · split at h
    · cases h
    · rename_i previous hprevious
      obtain ⟨-, hopen⟩ := Prod.mk.inj h
      exact ⟨_, _, _, _, u, hu, hopen⟩
  · obtain ⟨keys', idLength, rfl, hopen⟩ := openNextPhase_opened h rfl
    exact ⟨_, _, _, _, u, hu, hopen⟩

lemma readPacket_opened (h : readPacket layer env space keys now bytes c = (c', .ok packet)) :
    OpenedFrom layer bytes packet := by
  unfold readPacket at h
  simp only at h
  split at h
  · exact readApplicationPacket_opened h rfl
  · exact quicPacketRead_opened (Prod.mk.inj h).2

/-- What a round adds to the packets that were processed. -/
def AddsPacket (layer : PacketLayer) (bytes : List UInt8) (r r' : Receiver) : Prop :=
  r'.processed = r.processed ∨
    ∃ space packet, headerSpace bytes = some space ∧ OpenedFrom layer bytes packet ∧
      r'.processed = ⟨space, packet.packetNumber, bytes.take packet.totalLength⟩ :: r.processed

lemma takePacket_processed
    (h : takePacket env handler fuel space now bytes packet r = some (r', stop)) :
    r'.processed = r.processed ∨
      r'.processed = ⟨space, packet.packetNumber, bytes.take packet.totalLength⟩ :: r.processed := by
  unfold takePacket at h
  split at h
  · cases h
    exact .inl rfl
  simp only at h
  split at h
  · cases h
  · split at h
    · cases h
      exact .inr rfl
    · cases h
      exact .inr rfl
  · cases h
    exact .inr rfl

lemma receiveInSpace_adds (hspace : headerSpace bytes = some space)
    (h : receiveInSpace layer env handler fuel space now bytes r = some (r', stop)) :
    AddsPacket layer bytes r r' := by
  unfold receiveInSpace at h
  split at h
  · cases h
    exact .inl rfl
  split at h
  · rename_i c₁ packet hread
    rcases takePacket_processed h with hsame | hadds
    · exact .inl hsame
    · exact .inr ⟨space, packet, hspace, readPacket_opened hread, hadds⟩
  · simp only at h
    split at h
    · cases h
      exact .inl rfl
    · cases h
      exact .inl rfl
  · cases h
    exact .inl rfl
  · cases h
    exact .inl rfl

lemma onRetryPacket_processed {status : Status}
    (h : onRetryPacket layer env fuel bytes r = some (r', status)) : r'.processed = r.processed := by
  unfold onRetryPacket at h
  simp only at h
  split at h
  · cases h
    rfl
  split at h
  · cases h
    rfl
  split at h
  · cases h
    rfl
  · obtain ⟨lost, -, heq⟩ := Option.map_eq_some_iff.mp h
    cases heq
    rfl

lemma headerSpace_of_short (h : quicPacketKind bytes = .ok .short) :
    headerSpace bytes = some .application := by
  cases bytes with
  | nil => cases h
  | cons first rest =>
    rw [quicPacketKind] at h
    by_cases hfirst : first.toNat < 0x80
    · exact if_pos hfirst
    · rw [if_neg hfirst] at h
      split_ifs at h
      · cases h
      · cases h

/-- The space of a long header of a type that has one. -/
lemma headerSpace_of_long (h : quicPacketKind bytes = .ok .long) :
    headerSpace bytes =
      match longType (bytes.headD 0) with
      | .initial => some .initial
      | .handshake => some .handshake
      | .zeroRtt | .retry => none := by
  cases bytes with
  | nil => cases h
  | cons first rest =>
    rw [quicPacketKind] at h
    by_cases hfirst : first.toNat < 0x80
    · rw [if_pos hfirst] at h
      cases h
    · exact if_neg hfirst

/-- A round processes at most the packet it comes to. -/
theorem receiveRound_adds
    (h : receiveRound layer env handler fuel datagramLength now bytes r = some (r', stop)) :
    AddsPacket layer bytes r r' := by
  unfold receiveRound at h
  simp only at h
  split at h
  · cases h
    exact .inl rfl
  · cases h
    exact .inl rfl
  · cases h
    exact .inl rfl
  · rename_i hkind
    exact receiveInSpace_adds (headerSpace_of_short hkind) h
  · rename_i hkind
    have hspace := headerSpace_of_long hkind
    split at h
    · cases h
      exact .inl rfl
    split at h
    · rename_i htype
      rw [htype] at hspace
      split at h
      · cases h
        exact .inl rfl
      · exact receiveInSpace_adds hspace h
    · rename_i htype
      rw [htype] at hspace
      exact receiveInSpace_adds hspace h
    · split at h
      · cases h
      · rename_i r₁ status hretry
        cases h
        exact .inl (onRetryPacket_processed hretry)
    · cases h
      exact .inl rfl

/-- A packet that was opened is authentic. -/
lemma PeerSeals.processed (hseals : PeerSeals layer sealed) (hspace : headerSpace bytes = some space)
    (hopened : OpenedFrom layer bytes packet) :
    (⟨space, packet.packetNumber, bytes.take packet.totalLength⟩ : Processed).Authentic sealed := by
  obtain ⟨keys, keys', idLength, largest, u, hu, hopen⟩ := hopened
  have hauthentic := hseals.authentic hu hopen
  refine ⟨hauthentic, ?_⟩
  cases htotal : packet.totalLength with
  | zero =>
    rw [htotal, List.take_zero, hseals.nonempty] at hauthentic
    cases hauthentic
  | succ n =>
    cases bytes with
    | nil => exact hspace
    | cons first rest => exact hspace

/-- A packet that was processed is authentic, and one that stands in the datagram below a place
came before it. -/
structure ReadUpTo (sealed : List UInt8 → Option ℕ) (datagram : List UInt8) (before : List Processed)
    (k : ℕ) (r : Receiver) : Prop where
  authentic : ∀ p ∈ r.processed, p.Authentic sealed
  distinct : (r.processed.map Processed.key).Nodup
  placed : ∀ p ∈ r.processed, p ∈ before ∨ ∃ i < k, p.wire <+: datagram.drop i

lemma ReadUpTo.round {datagram : List UInt8} {before : List Processed} {k k' : ℕ}
    (hseals : PeerSeals layer sealed)
    (hbefore : ∀ p ∈ before, ∀ i, ¬p.wire <+: datagram.drop i)
    (hwithin : ∀ wire i j, sealed wire ≠ none → wire <+: datagram.drop i →
      wire <+: datagram.drop j → i = j)
    (h : ReadUpTo sealed datagram before k r) (hadds : AddsPacket layer (datagram.drop k) r r')
    (hk : k < k') : ReadUpTo sealed datagram before k' r' := by
  have hplaced : ∀ p ∈ r.processed, p ∈ before ∨ ∃ i < k', p.wire <+: datagram.drop i := by
    intro p hp
    rcases h.placed p hp with hold | ⟨i, hi, hprefix⟩
    · exact .inl hold
    · exact .inr ⟨i, hi.trans hk, hprefix⟩
  rcases hadds with hsame | ⟨space, packet, hspace, hopened, hadds⟩
  · refine ⟨?_, ?_, ?_⟩
    · rw [hsame]
      exact h.authentic
    · rw [hsame]
      exact h.distinct
    · rw [hsame]
      exact hplaced
  have hnew := hseals.processed hspace hopened
  have hprefix := List.take_prefix packet.totalLength (datagram.drop k)
  refine ⟨?_, ?_, ?_⟩
  · rw [hadds]
    intro p hp
    rcases List.mem_cons.mp hp with rfl | hp
    · exact hnew
    · exact h.authentic p hp
  · rw [hadds, List.map_cons, List.nodup_cons]
    refine ⟨?_, h.distinct⟩
    -- A packet of the same space and number would be the same bytes.
    intro hmem
    obtain ⟨p, hp, hkey⟩ := List.mem_map.mp hmem
    obtain ⟨hsame, hnumber⟩ := Prod.mk.inj hkey
    have hp' := h.authentic p hp
    have hwire := hseals.once hp'.sealed (hnumber ▸ hnew.sealed)
      (hp'.space.trans (hsame ▸ hnew.space.symm))
    have hsealed : sealed p.wire ≠ none := by
      rw [hp'.sealed]
      exact fun h => by cases h
    rcases h.placed p hp with hold | ⟨i, hi, hearlier⟩
    · exact hbefore p hold k (hwire ▸ hprefix)
    · exact absurd (hwithin p.wire i k hsealed hearlier (hwire ▸ hprefix)) hi.ne
  · rw [hadds]
    intro p hp
    rcases List.mem_cons.mp hp with rfl | hp
    · exact .inr ⟨k, hk, hprefix⟩
    · exact hplaced p hp

/-- A packet that does not end the loop takes at least one byte. -/
lemma next_pos {totalLength : ℕ}
    (h : receiveRound layer env handler fuel datagramLength now bytes r =
      some (r', .next totalLength)) : 0 < totalLength := by
  have htake : ∀ space packet r₁, takePacket env handler fuel space now bytes packet r₁ =
      some (r', .next totalLength) → 0 < totalLength := by
    intro space packet r₁ htake
    unfold takePacket at htake
    split at htake
    · cases htake
    simp only at htake
    split at htake
    · cases htake
    · split at htake
      · cases htake
      · rename_i hlength
        cases htake
        exact Nat.pos_of_ne_zero fun hzero => hlength (.inl hzero)
    · cases htake
  have hspace : ∀ space, receiveInSpace layer env handler fuel space now bytes r =
      some (r', .next totalLength) → 0 < totalLength := by
    intro space hspace
    unfold receiveInSpace at hspace
    split at hspace
    · cases hspace
    split at hspace
    · exact htake _ _ _ hspace
    · simp only at hspace
      split at hspace <;> cases hspace
    · cases hspace
    · cases hspace
  unfold receiveRound at h
  simp only at h
  split at h
  · cases h
  · cases h
  · cases h
  · exact hspace _ h
  · split at h
    · cases h
    split at h
    · split at h
      · cases h
      · exact hspace _ h
    · exact hspace _ h
    · split at h <;> cases h
    · cases h

lemma receiveLoop_readUpTo {datagram : List UInt8} {before : List Processed} {status : Status}
    (hseals : PeerSeals layer sealed)
    (hbefore : ∀ p ∈ before, ∀ i, ¬p.wire <+: datagram.drop i)
    (hwithin : ∀ wire i j, sealed wire ≠ none → wire <+: datagram.drop i →
      wire <+: datagram.drop j → i = j) (rounds : ℕ) :
    ∀ {k : ℕ} {r : Receiver}, ReadUpTo sealed datagram before k r →
      receiveLoop layer env handler fuel datagramLength now rounds (datagram.drop k) r =
        some (r', status) → ∃ k', ReadUpTo sealed datagram before k' r' := by
  induction rounds with
  | zero =>
    intro k r h hloop
    unfold receiveLoop at hloop
    split at hloop
    · cases hloop
      exact ⟨k, h⟩
    · cases hloop
      exact ⟨k, h⟩
    · rename_i heq _
      cases heq
  | succ rounds ih =>
    intro k r h hloop
    cases hrest : datagram.drop k with
    | nil =>
      rw [hrest, receiveLoop] at hloop
      cases hloop
      exact ⟨k, h⟩
    | cons first rest =>
      rw [hrest, receiveLoop, ← hrest] at hloop
      · split at hloop
        · cases hloop
        · rename_i r₁ status₁ hround
          cases hloop
          exact ⟨k + 1, h.round hseals hbefore hwithin (receiveRound_adds hround) k.lt_succ_self⟩
        · rename_i r₁ totalLength hround
          rw [List.drop_drop] at hloop
          refine ih (h.round hseals hbefore hwithin (receiveRound_adds hround) ?_) hloop
          have hpos := next_pos hround
          omega
      · exact fun h => by cases h

end Rounds

/-! ## Runs -/

section Run

variable {layer : PacketLayer} {env : Env} {handler : FrameHandler} {sealed : List UInt8 → Option ℕ}
  {r : Receiver}

/-- As long as no datagram brings a packet again, the packets that were handed to the visitor are
told apart by their spaces and numbers: the frames of none are walked over twice. -/
theorem packets_processed_once (hseals : PeerSeals layer sealed)
    (h : ReceiveRun layer env handler (BringsNothingAgain sealed) r) :
    (∀ p ∈ r.processed, p.Authentic sealed) ∧ (r.processed.map Processed.key).Nodup := by
  induction h with
  | init h =>
    refine ⟨?_, List.nodup_nil⟩
    intro p hp
    cases hp
  | other h hsame ih =>
    rw [hsame]
    exact ih
  | @receive fuel now fromPeer datagram r r' status h hcall hmeets ih =>
    unfold quicConnectionReceive at hcall
    split at hcall
    · cases hcall
      exact ih
    simp only at hcall
    split at hcall
    · cases hcall
      exact ih
    · have hstart : ReadUpTo sealed datagram r.processed 0
          ((r.withConnection { r.connection with hasPeer := true }).withConnection
            { (r.withConnection { r.connection with hasPeer := true }).connection with
              lastActivity := now }) :=
        ⟨ih.1, ih.2, fun p hp => .inl hp⟩
      obtain ⟨k', hend⟩ := receiveLoop_readUpTo hseals hmeets.before hmeets.within datagram.length
        hstart hcall
      exact ⟨hend.authentic, hend.distinct⟩

end Run

/-! ## A packet that is delivered once, and one that is delivered twice -/

section Delivered

/-- A packet with a PING. -/
def pingWire : List UInt8 := 0x40 :: List.replicate 20 7

/-- The protection of a peer that has sealed this one packet. -/
def pingLayer : PacketLayer where
  unprotectHeader _ _ bytes :=
    .ok { bytes := bytes, pnOffset := 1, pnLength := 1, totalLength := bytes.length }
  openPacket _ _ _ u :=
    if u.bytes = pingWire ∧ u.totalLength = u.bytes.length then
      .ok { shortHeader := true, destinationConnectionId := [], sourceConnectionId := [],
            packetNumber := 0, totalLength := u.totalLength, payload := [0x01, 0, 0, 0] }
    else .error .authentication
  retryDecode _ := none
  retryVerify _ _ := false
  unprotect_failed := by simp
  open_failed := by
    intro keys idLength largest u
    split <;> simp
  opened_length := by
    intro keys idLength largest u packet h
    split at h
    · cases h
      rfl
    · cases h

/-- The packet and its number. -/
def pingSealed (wire : List UInt8) : Option ℕ := if wire = pingWire then some 0 else none

/-- A layer above that takes every frame. -/
def acceptFrame : FrameHandler := fun _ _ c => some (c, .ok)

/-- A server with keys. -/
def listening : Receiver :=
  { connection := { keyedServer with keysIn := fun _ => some ⟨[]⟩ } }

/-- The server after a datagram. -/
def afterDatagram (datagram : List UInt8) (r : Receiver) : Receiver :=
  ((quicConnectionReceive pingLayer steadyEnv acceptFrame 1 true datagram 0 r).map Prod.fst).getD r

lemma pingLayer_seals : PeerSeals pingLayer pingSealed where
  authentic := by
    intro keys keys' idLength largest bytes u packet hu hopen
    cases hu
    simp only [pingLayer] at hopen
    split at hopen
    · rename_i hwire
      cases hopen
      rw [List.take_length, hwire.1]
      rfl
    · cases hopen
  nonempty := rfl
  once := by
    intro wire wire' n h h' _
    unfold pingSealed at h h'
    split at h
    · split at h'
      · exact ‹wire = pingWire›.trans ‹wire' = pingWire›.symm
      · cases h'
    · cases h

lemma afterDatagram_run {Meets : List UInt8 → Receiver → Prop} {datagram : List UInt8} {r : Receiver}
    (h : ReceiveRun pingLayer steadyEnv acceptFrame Meets r) (hmeets : Meets datagram r)
    (hsome : (quicConnectionReceive pingLayer steadyEnv acceptFrame 1 true datagram 0 r).isSome =
      true) : ReceiveRun pingLayer steadyEnv acceptFrame Meets (afterDatagram datagram r) := by
  obtain ⟨⟨r', status⟩, hcall⟩ := Option.isSome_iff_exists.mp hsome
  have heq : afterDatagram datagram r = r' := by
    unfold afterDatagram
    rw [hcall]
    rfl
  rw [heq]
  exact h.receive hcall hmeets

lemma listening_run {Meets : List UInt8 → Receiver → Prop} :
    ReceiveRun pingLayer steadyEnv acceptFrame Meets listening := by
  have hinit : quicConnectionInit serverConfig =
      .ok { keyedServer with hasPeer := false, keysOut := fun _ => none } := rfl
  exact (ReceiveRun.init hinit).other rfl

/-- The packet is delivered once. -/
theorem ping_processed_once :
    (afterDatagram pingWire listening).processed = [⟨.application, 0, pingWire⟩] ∧
      ((afterDatagram pingWire listening).processed.map Processed.key).Nodup := by
  have hmeets : BringsNothingAgain pingSealed pingWire listening := by
    refine ⟨?_, ?_⟩
    · intro p hp
      cases hp
    · intro wire i j hsealed hi hj
      have hwire : wire = pingWire := by
        unfold pingSealed at hsealed
        split at hsealed
        · assumption
        · exact absurd rfl hsealed
      have hzero : ∀ k, wire <+: pingWire.drop k → k = 0 := by
        intro k hprefix
        have hlength := hprefix.length_le
        rw [hwire, List.length_drop] at hlength
        have hpos : 0 < pingWire.length := by decide
        omega
      rw [hzero i hi, hzero j hj]
  refine ⟨by decide +kernel, ?_⟩
  exact (packets_processed_once pingLayer_seals
    (afterDatagram_run listening_run hmeets (by decide +kernel))).2

/-- The network delivers it twice, and its PING is walked over twice. -/
theorem ping_processed_twice :
    PeerSeals pingLayer pingSealed ∧
      ReceiveRun pingLayer steadyEnv acceptFrame (fun _ _ => True)
        (afterDatagram pingWire (afterDatagram pingWire listening)) ∧
      (afterDatagram pingWire (afterDatagram pingWire listening)).processed =
        [⟨.application, 0, pingWire⟩, ⟨.application, 0, pingWire⟩] ∧
      (afterDatagram pingWire (afterDatagram pingWire listening)).connection.counters.framesDelivered =
        2 := by
  refine ⟨pingLayer_seals, ?_, by decide +kernel, by decide +kernel⟩
  exact afterDatagram_run (afterDatagram_run listening_run trivial (by decide +kernel)) trivial
    (by decide +kernel)

end Delivered

end WebTransport
