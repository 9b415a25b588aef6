import WebTransport.Quic.PacketsOnce

/-!
# Datagrams that nobody has sealed

A datagram of which no packet opens is to leave no trace. The loop over its packets keeps to that:
it counts a failure and may derive the next keys ahead of time. What comes before the loop does
not: the address of the first datagram becomes the peer, and every datagram from there is taken
for activity.
-/

namespace WebTransport

/-- No packet of a datagram opens, under any keys. -/
def NoneOpens (layer : PacketLayer) (datagram : List UInt8) : Prop :=
  ∀ k packet, ¬OpenedFrom layer (datagram.drop k) packet

/-- A datagram that is no valid Retry for a connection. -/
def NoRetry (layer : PacketLayer) (datagram : List UInt8) (c : Connection) : Prop :=
  ∀ retry, layer.retryDecode datagram = some retry →
    layer.retryVerify c.originalDestinationId datagram = false

/-- The next keys are the same, or have been derived ahead of time. -/
def NextKeysCached (env : Env) (c : Connection) (next : Option PacketKeys) : Prop :=
  next = c.nextKeysIn ∨
    c.nextKeysIn = none ∧ next = (ensureNext env c.nextKeysIn (c.keysIn .application)).1

/-- Nothing but the count of failures and the cached keys has changed. -/
def Unaffected (env : Env) (r r' : Receiver) : Prop :=
  ∃ failed next, NextKeysCached env r.connection next ∧
    r' = r.withConnection { r.connection with aeadFailed := failed, nextKeysIn := next }

section Unopened

variable {layer : PacketLayer} {env : Env} {handler : FrameHandler} {fuel now : ℕ}
  {datagram bytes : List UInt8} {c : Connection} {r r' : Receiver} {status : Status}

/-- What reading a packet that does not open leaves behind. -/
def ReadsNothing (env : Env) (c : Connection) (result : Connection × Except Status ReceivedPacket) :
    Prop :=
  ∃ next status, NextKeysCached env c next ∧
    result = ({ c with nextKeysIn := next }, .error status)

lemma readsNothing_same (status : Status) : ReadsNothing env c (c, .error status) :=
  ⟨c.nextKeysIn, status, .inl rfl, rfl⟩

/-- The keys that follow are the cached ones, or are derived. -/
lemma nextKeysCached_ensureNext (c : Connection) :
    NextKeysCached env c (ensureNext env c.nextKeysIn (c.keysIn .application)).1 := by
  cases hnext : c.nextKeysIn with
  | none =>
    rw [← hnext]
    exact .inr ⟨hnext, rfl⟩
  | some keys =>
    left
    rw [hnext]
    rfl

lemma openNextPhase_unopened {largest : ℕ} {u : Unprotected}
    (h : ∀ keys packet,
      layer.openPacket keys c.config.localConnectionId.length largest u ≠ .ok packet) :
    ReadsNothing env c (openNextPhase layer env largest now u c) := by
  have hcached : NextKeysCached env c _ := nextKeysCached_ensureNext c
  unfold openNextPhase
  simp only
  split
  · rename_i next hnext
    rw [hnext] at hcached
    split
    · rename_i packet hopen
      exact absurd hopen (h _ _)
    · split
      · exact ⟨_, _, hcached, rfl⟩
      split
      · exact ⟨_, _, hcached, rfl⟩
      · rename_i packet hopen
        exact absurd hopen (h _ _)
  · rename_i next status hnext
    rw [hnext] at hcached
    exact ⟨_, _, hcached, rfl⟩

lemma readPacket_unopened {space : Space} {keys : PacketKeys}
    (h : ∀ packet, ¬OpenedFrom layer bytes packet) :
    ReadsNothing env c (readPacket layer env space keys now bytes c) := by
  unfold readPacket
  simp only
  split
  · unfold readApplicationPacket
    simp only
    split
    · exact readsNothing_same _
    rename_i u hu
    have hfails : ∀ keys largest packet,
        layer.openPacket keys c.config.localConnectionId.length largest u ≠ .ok packet :=
      fun _ _ packet hopen => h packet ⟨_, _, _, _, u, hu, hopen⟩
    split
    · split
      · exact readsNothing_same _
      · rename_i packet hopen
        exact absurd hopen (hfails _ _ _)
    split
    · split
      · exact readsNothing_same _
      · rename_i previous _
        cases hopen : layer.openPacket previous c.config.localConnectionId.length
            (c.spaces space).receivedSoFar u with
        | error status => exact readsNothing_same status
        | ok packet => exact absurd hopen (hfails _ _ _)
    · exact openNextPhase_unopened fun keys packet => hfails keys _ packet
  · cases hread : quicPacketRead layer keys c.config.localConnectionId.length
        (c.spaces space).receivedSoFar bytes with
    | error status => exact readsNothing_same status
    | ok packet => exact absurd (quicPacketRead_opened hread) (h packet)

/-- A round that ends the loop with nothing but a failure counted. -/
def RoundUnaffected (env : Env) (r : Receiver) (result : Option (Receiver × RoundEnd)) : Prop :=
  ∃ r' status, Unaffected env r r' ∧ result = some (r', .done status)

lemma Unaffected.refl (env : Env) (r : Receiver) : Unaffected env r r :=
  ⟨r.connection.aeadFailed, r.connection.nextKeysIn, .inl rfl, rfl⟩

lemma roundUnaffected_same (status : Status) :
    RoundUnaffected env r (some (r, .done status)) :=
  ⟨r, status, .refl env r, rfl⟩

lemma receiveInSpace_unopened {space : Space}
    (h : ∀ packet, ¬OpenedFrom layer bytes packet)
    (hlimit : r.connection.aeadFailed < r.connection.aeadIntegrityLimit) :
    RoundUnaffected env r (receiveInSpace layer env handler fuel space now bytes r) := by
  unfold receiveInSpace
  split
  · exact roundUnaffected_same _
  rename_i keys _
  obtain ⟨next, status, hcached, hread⟩ : ReadsNothing env r.connection
      (readPacket layer env space keys now bytes r.connection) := readPacket_unopened h
  rw [hread]
  cases status with
  | authentication =>
    simp only
    rw [if_neg (not_lt.mpr hlimit)]
    exact ⟨_, _, ⟨_, next, hcached, rfl⟩, rfl⟩
  | _ => exact ⟨_, _, ⟨r.connection.aeadFailed, next, hcached, rfl⟩, rfl⟩

lemma onRetryPacket_invalid (h : NoRetry layer bytes r.connection) :
    onRetryPacket layer env fuel bytes r = some (r, .ok) := by
  unfold onRetryPacket
  simp only
  split
  · rfl
  split
  · rfl
  rename_i retry hdecode
  have hverify : (!layer.retryVerify r.connection.originalDestinationId bytes) = true := by
    rw [h retry hdecode]
    rfl
  rw [if_pos (.inr (.inr (.inr (.inr (.inl hverify)))))]

/-- The first round over a datagram of which nothing opens is the last. -/
lemma receiveRound_unopened {datagramLength : ℕ} (h : ∀ packet, ¬OpenedFrom layer bytes packet)
    (hretry : NoRetry layer bytes r.connection)
    (hlimit : r.connection.aeadFailed < r.connection.aeadIntegrityLimit) :
    RoundUnaffected env r
      (receiveRound layer env handler fuel datagramLength now bytes r) := by
  unfold receiveRound
  simp only
  split
  · exact roundUnaffected_same _
  · exact roundUnaffected_same _
  · exact roundUnaffected_same _
  · exact receiveInSpace_unopened h hlimit
  · split
    · exact roundUnaffected_same _
    split
    · split
      · exact roundUnaffected_same _
      · exact receiveInSpace_unopened h hlimit
    · exact receiveInSpace_unopened h hlimit
    · rw [onRetryPacket_invalid hretry]
      exact roundUnaffected_same _
    · exact roundUnaffected_same _

/-- What the receive path makes of a datagram before it looks at its packets. -/
def Receiver.heard (fromPeer : Bool) (datagram : List UInt8) (now : ℕ) (r : Receiver) : Receiver :=
  if r.connection.hasPeer ∧ !fromPeer then r
  else
    r.withConnection { r.connection with
      hasPeer := true
      lastActivity := if datagram = [] then r.connection.lastActivity else now }

/-- A datagram of which nothing opens: what came before the loop is all that happened. -/
lemma quicConnectionReceive_unopened {fromPeer : Bool} (hopens : NoneOpens layer datagram)
    (hretry : NoRetry layer datagram r.connection)
    (hlimit : r.connection.aeadFailed < r.connection.aeadIntegrityLimit) :
    ∃ r' status, quicConnectionReceive layer env handler fuel fromPeer datagram now r =
        some (r', status) ∧ Unaffected env (r.heard fromPeer datagram now) r' := by
  have hfirst : ∀ packet, ¬OpenedFrom layer datagram packet := hopens 0
  unfold quicConnectionReceive Receiver.heard
  split
  · exact ⟨r, .ok, rfl, .refl env r⟩
  simp only
  split
  · rename_i hempty
    exact ⟨_, .ok, rfl, .refl env _⟩
  rename_i hsome
  cases hbytes : datagram with
  | nil => exact absurd hbytes hsome
  | cons first rest =>
    rw [hbytes] at hfirst hretry
    have hround : ∀ start : Receiver,
        start.connection.originalDestinationId = r.connection.originalDestinationId →
        start.connection.aeadFailed = r.connection.aeadFailed →
        start.connection.aeadIntegrityLimit = r.connection.aeadIntegrityLimit →
        ∃ r' status, receiveLoop layer env handler fuel (first :: rest).length now
          (first :: rest).length (first :: rest) start = some (r', status) ∧
            Unaffected env start r' := by
      intro start hid hfailed hmax
      have hvalid : NoRetry layer (first :: rest) start.connection := by
        intro retry hdecode
        rw [hid]
        exact hretry retry hdecode
      obtain ⟨r', status, hsame, heq⟩ : RoundUnaffected env start (receiveRound layer env handler
          fuel (first :: rest).length now (first :: rest) start) :=
        receiveRound_unopened hfirst hvalid (by rw [hfailed, hmax]; exact hlimit)
      refine ⟨r', status, ?_, hsame⟩
      rw [List.length_cons, receiveLoop]
      · rw [List.length_cons] at heq
        rw [heq]
      · exact fun h => by cases h
    exact hround _ rfl rfl rfl

/-- A datagram of which nothing opens leaves no trace exactly when the peer is known already, and
the datagram is from elsewhere, is empty or comes at the time of the last activity. -/
theorem unauthenticated_unaffected_iff {fromPeer : Bool} (hopens : NoneOpens layer datagram)
    (hretry : NoRetry layer datagram r.connection)
    (hlimit : r.connection.aeadFailed < r.connection.aeadIntegrityLimit) :
    (∃ r' status, quicConnectionReceive layer env handler fuel fromPeer datagram now r =
        some (r', status) ∧ Unaffected env r r') ↔
      r.connection.hasPeer = true ∧
        (fromPeer = false ∨ datagram = [] ∨ r.connection.lastActivity = now) := by
  obtain ⟨r₁, status₁, hcall, hheard⟩ := @quicConnectionReceive_unopened layer env handler fuel now
    datagram r fromPeer hopens hretry hlimit
  have hpeer : r₁.connection.hasPeer = (r.heard fromPeer datagram now).connection.hasPeer := by
    obtain ⟨failed, next, -, rfl⟩ := hheard
    rfl
  have hactivity : r₁.connection.lastActivity =
      (r.heard fromPeer datagram now).connection.lastActivity := by
    obtain ⟨failed, next, -, rfl⟩ := hheard
    rfl
  constructor
  · rintro ⟨r', status, hcall', hsame⟩
    rw [hcall] at hcall'
    cases hcall'
    obtain ⟨failed, next, -, rfl⟩ := hsame
    have hpeer : r.connection.hasPeer = (r.heard fromPeer datagram now).connection.hasPeer := hpeer
    have hactivity : r.connection.lastActivity =
      (r.heard fromPeer datagram now).connection.lastActivity := hactivity
    unfold Receiver.heard at hpeer hactivity
    split at hpeer
    · rename_i helse
      exact ⟨helse.1, .inl (by simpa using helse.2)⟩
    · rename_i helse
      rw [if_neg helse] at hactivity
      refine ⟨hpeer, .inr ?_⟩
      by_cases hempty : datagram = []
      · exact .inl hempty
      · right
        have htime : r.connection.lastActivity =
          if datagram = [] then r.connection.lastActivity else now := hactivity
        rw [if_neg hempty] at htime
        exact htime
  · rintro ⟨hknown, hwhen⟩
    refine ⟨r₁, status₁, hcall, ?_⟩
    have hsame : r.heard fromPeer datagram now = r := by
      unfold Receiver.heard
      split
      · rfl
      · rename_i helse
        have htime : (if datagram = [] then r.connection.lastActivity else now) =
            r.connection.lastActivity := by
          rcases hwhen with hfrom | hempty | htime
          · exact absurd ⟨hknown, by rw [hfrom]; rfl⟩ helse
          · exact if_pos hempty
          · rw [htime]
            exact ite_self _
        rw [htime, ← hknown]
        rfl
    rw [hsame] at hheard
    exact hheard

end Unopened

/-! ## A byte that nobody has sealed -/

section Garbage

/-- A datagram of one byte. -/
def garbage : List UInt8 := [0x40]

/-- A server that has not heard of a peer. -/
def unmet : Receiver := { connection := { listening.connection with hasPeer := false } }

lemma garbage_noneOpens : NoneOpens pingLayer garbage := by
  rintro k packet ⟨keys, keys', idLength, largest, u, hu, hopen⟩
  cases hu
  simp only [pingLayer] at hopen
  split at hopen
  · rename_i hwire
    have hlength := congrArg List.length hwire.1
    have hle : (garbage.drop k).length = garbage.length - k := List.length_drop
    have hgarbage : garbage.length = 1 := rfl
    have hping : pingWire.length = 21 := rfl
    omega
  · cases hopen

lemma garbage_noRetry (c : Connection) : NoRetry pingLayer garbage c := fun _ h => by cases h

/-- From another address it changes nothing. -/
theorem garbage_from_elsewhere :
    ∃ r' status, quicConnectionReceive pingLayer steadyEnv acceptFrame 1 false garbage 1000
      listening = some (r', status) ∧ Unaffected steadyEnv listening r' :=
  (unauthenticated_unaffected_iff garbage_noneOpens (garbage_noRetry _) (by decide)).mpr
    ⟨rfl, .inl rfl⟩

/-- To a server without a peer it makes one, and to a server with one it is activity. -/
theorem garbage_disturbs :
    NoneOpens pingLayer garbage ∧ (∀ c, NoRetry pingLayer garbage c) ∧
      ((quicConnectionReceive pingLayer steadyEnv acceptFrame 1 false garbage 1000 unmet).map
        fun result => result.1.connection.hasPeer) = some true ∧
      unmet.connection.hasPeer = false ∧
      ((quicConnectionReceive pingLayer steadyEnv acceptFrame 1 true garbage 1000 listening).map
        fun result => result.1.connection.lastActivity) = some 1000 ∧
      listening.connection.lastActivity = 0 ∧
      ¬∃ r' status, quicConnectionReceive pingLayer steadyEnv acceptFrame 1 true garbage 1000
        listening = some (r', status) ∧ Unaffected steadyEnv listening r' := by
  have htime : ((quicConnectionReceive pingLayer steadyEnv acceptFrame 1 true garbage 1000
      listening).map fun result => result.1.connection.lastActivity) = some 1000 := by decide +kernel
  refine ⟨garbage_noneOpens, garbage_noRetry, by decide +kernel, rfl, htime, rfl, ?_⟩
  rintro ⟨r', status, hcall, failed, next, -, rfl⟩
  rw [hcall] at htime
  cases htime

end Garbage

end WebTransport
