import WebTransport.Quic.Connection
import WebTransport.Quic.TransportParameters

/-!
# The peer's transport parameters

`wt_quic_connection_set_peer_parameters` reads a list, checks it, stores what it allows and then
compares the connection IDs it names with those the connection has seen. The comparison comes
last, so a list that is refused there has been applied already. The rules do not look at an
integer that is not one: the reader of integers answers for it as for an absent one.
-/

namespace WebTransport

/-! ## Applying a list -/

/-- A connection with the fields that only the transport parameters use: the Source Connection ID
of the peer's first packet, the one of a Retry, and the size of a datagram the peer can take. -/
structure Negotiation where
  connection : Connection
  peerSourceConnectionId : Option (List UInt8) := none
  retrySourceConnectionId : List UInt8 := []
  maxUdpPayloadSize : ℕ := 0

/-- Milliseconds in microseconds, or the largest number there is. -/
def microsecondsOfMilliseconds (milliseconds : ℕ) : ℕ :=
  if (2 ^ 64 - 1) / 1000 < milliseconds then 2 ^ 64 - 1 else milliseconds * 1000

/-- The value of an integer parameter, or a default for whatever cannot be read as one. -/
def parameterOr (params : TransportParameters) (id fallback : ℕ) : ℕ :=
  match quicTransportParametersInteger params id with
  | .ok v => v
  | .error _ => fallback

/-- What a list allows. -/
def peerLimitsOf (params : TransportParameters) : PeerLimits where
  maxIdleTimeout := microsecondsOfMilliseconds (parameterOr params tpMaxIdleTimeout 0)
  initialMaxData := parameterOr params tpInitialMaxData 0
  initialMaxStreamDataBidiLocal := parameterOr params tpInitialMaxStreamDataBidiLocal 0
  initialMaxStreamDataBidiRemote := parameterOr params tpInitialMaxStreamDataBidiRemote 0
  initialMaxStreamDataUni := parameterOr params tpInitialMaxStreamDataUni 0
  initialMaxStreamsBidi := parameterOr params tpInitialMaxStreamsBidi 0
  initialMaxStreamsUni := parameterOr params tpInitialMaxStreamsUni 0
  activeConnectionIdLimit := parameterOr params tpActiveConnectionIdLimit 2
  maxDatagramFrameSize := parameterOr params tpMaxDatagramFrameSize 0
  resetStreamAt := (quicTransportParametersGet params tpResetStreamAt).isSome
  set := true

/-- Store what a list allows. -/
def storeLimits (params : TransportParameters) (n : Negotiation) : Negotiation :=
  { n with
    connection := { n.connection with
      peerLimits := peerLimitsOf params
      flow := { n.connection.flow with peerMaxData := (peerLimitsOf params).initialMaxData } }
    maxUdpPayloadSize := parameterOr params tpMaxUdpPayloadSize quicDefaultMaxUdpPayloadSize }

/-- Whether the source connection ID of a list is the one the peer's packets have. -/
def sourceMatches (params : TransportParameters) (n : Negotiation) : Bool :=
  match quicTransportParametersGet params tpInitialSourceConnectionId, n.peerSourceConnectionId with
  | some value, some seen => value = seen
  | _, _ => true

/-- Address the peer by the source connection ID it names. -/
def adoptSource (params : TransportParameters) (n : Negotiation) : Negotiation :=
  match quicTransportParametersGet params tpInitialSourceConnectionId with
  | none => n
  | some value =>
    if 0 < value.length ∧ value.length ≤ quicMaxConnectionIdLength then
      { n with connection := adoptPeerConnectionId n.connection value }
    else n

/-- Whether a list names the connection IDs that a client's first packet and a Retry had. -/
def clientIdsMatch (params : TransportParameters) (n : Negotiation) : Bool :=
  (n.connection.originalDestinationId = [] ||
      quicTransportParametersGet params tpOriginalDestinationConnectionId =
        some n.connection.originalDestinationId) &&
    if n.connection.retryAccepted then
      quicTransportParametersGet params tpRetrySourceConnectionId = some n.retrySourceConnectionId
    else (quicTransportParametersGet params tpRetrySourceConnectionId).isNone

/-- Read, check and apply the peer's transport parameters. -/
def quicConnectionSetPeerParameters (n : Negotiation) (data : List UInt8) : Negotiation × Status :=
  match quicTransportParametersDecode data with
  | .error e => (n, e.status)
  | .ok params =>
    match quicTransportParametersCheck params (n.connection.config.role = .server) with
    | .error e => (n, e.status)
    | .ok () =>
      let n := storeLimits params n
      if !sourceMatches params n then (n, .protocol)
      else
        let n := adoptSource params n
        if n.connection.config.role = .client ∧ !clientIdsMatch params n then (n, .protocol)
        else (n, .ok)

/-! ## Refusals -/

/-- The connection IDs of a list are those the connection has seen. -/
def IdsMatch (params : TransportParameters) (n : Negotiation) : Prop :=
  sourceMatches params n = true ∧
    (n.connection.config.role = .client → clientIdsMatch params n = true)

section Refusals

variable {params : TransportParameters} {n : Negotiation} {data : List UInt8}

/-- Adopting an ID leaves the limits alone, and what the other IDs are compared with. -/
lemma adoptSource_kept (params : TransportParameters) (n : Negotiation) :
    (adoptSource params n).connection.config.role = n.connection.config.role ∧
      (adoptSource params n).connection.peerLimits = n.connection.peerLimits ∧
      (adoptSource params n).connection.flow = n.connection.flow ∧
      (adoptSource params n).maxUdpPayloadSize = n.maxUdpPayloadSize ∧
      clientIdsMatch params (adoptSource params n) = clientIdsMatch params n := by
  unfold adoptSource adoptPeerConnectionId
  split
  · exact ⟨rfl, rfl, rfl, rfl, rfl⟩
  split
  · split
    · exact ⟨rfl, rfl, rfl, rfl, rfl⟩
    · exact ⟨rfl, rfl, rfl, rfl, rfl⟩
  · exact ⟨rfl, rfl, rfl, rfl, rfl⟩

/-- What happens to a list that can be read and breaks no rule: the limits are stored, and the IDs
decide. -/
lemma setPeerParameters_of_checked (hdecode : quicTransportParametersDecode data = .ok params)
    (hcheck : quicTransportParametersCheck params (n.connection.config.role = .server) = .ok ()) :
    quicConnectionSetPeerParameters n data =
      if sourceMatches params n = true then
        (adoptSource params (storeLimits params n),
          if n.connection.config.role = .client ∧ clientIdsMatch params n = false then .protocol
          else .ok)
      else (storeLimits params n, .protocol) := by
  have hsource : sourceMatches params (storeLimits params n) = sourceMatches params n := rfl
  obtain ⟨hrole, -, -, -, hids⟩ := adoptSource_kept params (storeLimits params n)
  have hids : clientIdsMatch params (adoptSource params (storeLimits params n)) =
      clientIdsMatch params n := hids
  have hrole : (adoptSource params (storeLimits params n)).connection.config.role =
      n.connection.config.role := hrole
  unfold quicConnectionSetPeerParameters
  simp only [hdecode, hcheck, hsource, hids, hrole]
  cases sourceMatches params n with
  | false => simp
  | true =>
    simp only [Bool.not_true, Bool.false_eq_true, if_false, if_true, Bool.not_eq_true']
    split <;> rfl

lemma setPeerParameters_ok_iff (hdecode : quicTransportParametersDecode data = .ok params)
    (hcheck : quicTransportParametersCheck params (n.connection.config.role = .server) = .ok ()) :
    (quicConnectionSetPeerParameters n data).2 = .ok ↔ IdsMatch params n := by
  rw [setPeerParameters_of_checked hdecode hcheck]
  unfold IdsMatch
  split
  · rename_i hsource
    simp only [hsource, true_and]
    split
    · rename_i hclient
      refine iff_of_false (by decide) ?_
      intro h
      rw [h hclient.1] at hclient
      exact absurd hclient.2 (by decide)
    · rename_i hclient
      refine iff_of_true rfl ?_
      intro hrole
      rw [← Bool.not_eq_false]
      exact fun hfalse => hclient ⟨hrole, hfalse⟩
  · rename_i hsource
    exact iff_of_false (by simp) fun h => hsource h.1

/-! ## All or nothing -/

/-- What the transport parameters set is as it was. -/
structure SameParameters (n n' : Negotiation) : Prop where
  peerLimits : n'.connection.peerLimits = n.connection.peerLimits
  maxUdpPayloadSize : n'.maxUdpPayloadSize = n.maxUdpPayloadSize
  flow : n'.connection.flow = n.connection.flow
  idleTimeout : idleTimeoutOf n'.connection = idleTimeoutOf n.connection
  ackDelay : ∀ space, maxAckDelayFor n'.connection space = maxAckDelayFor n.connection space ∧
    ackDelayFor n'.connection space = ackDelayFor n.connection space
  peerConnectionId : n'.connection.config.peerConnectionId = n.connection.config.peerConnectionId

/-- A list says what the connection goes by already: the same limits, and, unless its source
connection ID is refused, the same destination. -/
def AlreadyApplied (params : TransportParameters) (n : Negotiation) : Prop :=
  (storeLimits params n).connection.peerLimits = n.connection.peerLimits ∧
    (storeLimits params n).connection.flow = n.connection.flow ∧
    (storeLimits params n).maxUdpPayloadSize = n.maxUdpPayloadSize ∧
    (sourceMatches params n = true →
      (adoptSource params n).connection.config.peerConnectionId =
        n.connection.config.peerConnectionId)

/-- Adopting an ID does not depend on the limits, and changes nothing else in the configuration. -/
lemma adoptSource_config (params : TransportParameters) (n : Negotiation) :
    (adoptSource params (storeLimits params n)).connection.config =
        (adoptSource params n).connection.config ∧
      (adoptSource params n).connection.config =
        { n.connection.config with
          peerConnectionId := (adoptSource params n).connection.config.peerConnectionId } := by
  unfold adoptSource adoptPeerConnectionId storeLimits
  split
  · exact ⟨rfl, rfl⟩
  split
  · split
    · exact ⟨rfl, rfl⟩
    · exact ⟨rfl, rfl⟩
  · exact ⟨rfl, rfl⟩

/-- Parameters are the same when the limits and the destination are. -/
lemma SameParameters.of_eq {n' : Negotiation}
    (hlimits : n'.connection.peerLimits = n.connection.peerLimits)
    (hsize : n'.maxUdpPayloadSize = n.maxUdpPayloadSize)
    (hflow : n'.connection.flow = n.connection.flow)
    (hconfig : n'.connection.config = n.connection.config) : SameParameters n n' := by
  refine ⟨hlimits, hsize, hflow, ?_, ?_, by rw [hconfig]⟩
  · unfold idleTimeoutOf
    rw [hlimits, hconfig]
  · intro space
    unfold maxAckDelayFor ackDelayFor
    rw [hconfig]
    exact ⟨rfl, rfl⟩

/-- A list that is refused changes nothing exactly when it is refused before it is stored: it
cannot be read or breaks a rule. One whose connection IDs are refused changes nothing only if it
says what the connection goes by already. -/
theorem quicConnectionSetPeerParameters_atomic_iff (n : Negotiation) (data : List UInt8) :
    ((quicConnectionSetPeerParameters n data).2 ≠ .ok →
        SameParameters n (quicConnectionSetPeerParameters n data).1) ↔
      ∀ params, quicTransportParametersDecode data = .ok params →
        quicTransportParametersCheck params (n.connection.config.role = .server) = .ok () →
        IdsMatch params n ∨ AlreadyApplied params n := by
  constructor
  · intro hatomic params hdecode hcheck
    by_cases hids : IdsMatch params n
    · exact .inl hids
    have hsame := hatomic fun hok => hids ((setPeerParameters_ok_iff hdecode hcheck).mp hok)
    rw [setPeerParameters_of_checked hdecode hcheck] at hsame
    right
    split at hsame
    · obtain ⟨-, hlimits, hflow, hsize, -⟩ := adoptSource_kept params (storeLimits params n)
      refine ⟨?_, ?_, ?_, ?_⟩
      · rw [← hlimits]
        exact hsame.peerLimits
      · rw [← hflow]
        exact hsame.flow
      · rw [← hsize]
        exact hsame.maxUdpPayloadSize
      · intro _
        rw [← (adoptSource_config params n).1]
        exact hsame.peerConnectionId
    · rename_i hsource
      exact ⟨hsame.peerLimits, hsame.flow, hsame.maxUdpPayloadSize, fun h => absurd h hsource⟩
  · intro hcondition hrefused
    cases hdecode : quicTransportParametersDecode data with
    | error e =>
      unfold quicConnectionSetPeerParameters
      rw [hdecode]
      exact .of_eq rfl rfl rfl rfl
    | ok params =>
      cases hcheck : quicTransportParametersCheck params (n.connection.config.role = .server) with
      | error e =>
        unfold quicConnectionSetPeerParameters
        simp only [hdecode, hcheck]
        exact .of_eq rfl rfl rfl rfl
      | ok =>
        rcases hcondition params hdecode hcheck with hids | ⟨hlimits, hflow, hsize, hid⟩
        · exact absurd ((setPeerParameters_ok_iff hdecode hcheck).mpr hids) hrefused
        rw [setPeerParameters_of_checked hdecode hcheck]
        split
        · rename_i hsource
          obtain ⟨-, hlimits', hflow', hsize', -⟩ := adoptSource_kept params (storeLimits params n)
          obtain ⟨hconfig, hconfig'⟩ := adoptSource_config params n
          refine .of_eq (hlimits'.trans hlimits) (hsize'.trans hsize) (hflow'.trans hflow) ?_
          simp only
          rw [hconfig, hconfig', hid hsource]
        · exact .of_eq hlimits hsize hflow rfl

end Refusals

/-- A client that has sent its first packet to a connection ID of its own choice. -/
def startedClient : Negotiation where
  connection :=
    { config := { serverConfig with role := .client }
      originalDestinationId := [1, 2, 3, 4, 5, 6, 7, 8]
      congestion := quicCongestionInit serverConfig.maxDatagramSize
      aeadConfidentialityLimit := 2 ^ 23
      aeadIntegrityLimit := 2 ^ 52 }

/-- The list that grants five bytes and does not name that ID. -/
def grantOfFive : List UInt8 := [0x04, 0x01, 0x05]

/-- It is refused, and its limits are in force. -/
theorem setPeerParameters_refused_and_stored :
    (quicConnectionSetPeerParameters startedClient grantOfFive).2 = .protocol ∧
      (quicConnectionSetPeerParameters startedClient grantOfFive).1.connection.flow.peerMaxData = 5 ∧
      ¬((quicConnectionSetPeerParameters startedClient grantOfFive).2 ≠ .ok →
        SameParameters startedClient (quicConnectionSetPeerParameters startedClient grantOfFive).1) := by
  refine ⟨by decide, by decide, ?_⟩
  intro hatomic
  have hsame := (hatomic (by decide)).peerLimits
  exact absurd hsame (by decide)

/-! ## What is let through -/

/-- The parameters whose value is one integer. -/
def integerParameters : List ℕ :=
  [tpMaxIdleTimeout, tpMaxUdpPayloadSize, tpInitialMaxData, tpInitialMaxStreamDataBidiLocal,
    tpInitialMaxStreamDataBidiRemote, tpInitialMaxStreamDataUni, tpInitialMaxStreamsBidi,
    tpInitialMaxStreamsUni, tpAckDelayExponent, tpMaxAckDelay, tpActiveConnectionIdLimit,
    tpMaxDatagramFrameSize]

/-- The parameters whose value is empty. -/
def flagParameters : List ℕ := [tpDisableActiveMigration, tpResetStreamAt, tpGreaseQuicBit]

/-- The parameters that only a server sends. -/
def serverOnlyParameters : List ℕ :=
  [tpOriginalDestinationConnectionId, tpStatelessResetToken, tpPreferredAddress,
    tpRetrySourceConnectionId]

/-- The ranges of the integers that have one. -/
structure ParameterInRange (id v : ℕ) : Prop where
  maxUdpPayloadSize : id = tpMaxUdpPayloadSize → quicMinMaxUdpPayloadSize ≤ v
  ackDelayExponent : id = tpAckDelayExponent → v ≤ 20
  maxAckDelay : id = tpMaxAckDelay → v < 2 ^ 14
  activeConnectionIdLimit : id = tpActiveConnectionIdLimit → 2 ≤ v
  initialMaxStreams : id = tpInitialMaxStreamsBidi ∨ id = tpInitialMaxStreamsUni → v ≤ 2 ^ 60

/-- A value is one integer and nothing more. -/
def IsInteger (value : List UInt8) (v : ℕ) : Prop := quicVarintDecode value = .ok (v, [])

/-- No parameter of a list is malformed. -/
structure TransportParameters.Wellformed (params : TransportParameters) (peerIsClient : Bool) :
    Prop where
  integers : ∀ e ∈ params.entries, e.id ∈ integerParameters →
    ∃ v, IsInteger e.value v ∧ ParameterInRange e.id v
  flags : ∀ e ∈ params.entries, e.id ∈ flagParameters → e.value = []
  serverOnly : peerIsClient = true → ∀ e ∈ params.entries, e.id ∉ serverOnlyParameters

/-- The part of it that no rule looks at: that an integer is one, two of the three flags, and
three of the four parameters of a server. -/
structure TransportParameters.Unslipped (params : TransportParameters) (peerIsClient : Bool) :
    Prop where
  integers : ∀ e ∈ params.entries, e.id ∈ integerParameters → ∃ v, IsInteger e.value v
  flags : ∀ e ∈ params.entries,
    e.id = tpDisableActiveMigration ∨ e.id = tpGreaseQuicBit → e.value = []
  serverOnly : peerIsClient = true → ∀ e ∈ params.entries,
    e.id ≠ tpOriginalDestinationConnectionId ∧ e.id ≠ tpPreferredAddress ∧
      e.id ≠ tpRetrySourceConnectionId

section Rules

variable {params : TransportParameters} {id v : ℕ} {value : List UInt8} {bad : ℕ → Bool}
  {badValue : List UInt8 → Bool} {peerIsClient : Bool}

/-- An integer parameter of the list is read as that integer. -/
lemma TransportParameters.Indexed.integer_eq (h : params.Indexed) (hmem : ⟨id, value⟩ ∈ params.entries)
    (hvalue : IsInteger value v) : quicTransportParametersInteger params id = .ok v := by
  have hne : value ≠ [] := by
    rintro rfl
    cases hvalue
  unfold quicTransportParametersInteger
  rw [h.get_eq_some.mpr hmem]
  simp only
  rw [if_neg hne, hvalue]
  rfl

/-- A rule for an integer holds of the integers in the list. -/
lemma TransportParameters.Indexed.integer_good (h : params.Indexed)
    (hcheck : tpCheckInteger params id bad = .ok ()) (hmem : ⟨id, value⟩ ∈ params.entries)
    (hvalue : IsInteger value v) : bad v = false := by
  unfold tpCheckInteger at hcheck
  rw [h.integer_eq hmem hvalue] at hcheck
  simp only at hcheck
  split at hcheck
  · cases hcheck
  · rename_i hgood
    simpa using hgood

/-- A rule for a value holds of the values in the list. -/
lemma TransportParameters.Indexed.value_good (h : params.Indexed)
    (hcheck : tpCheckValue params id badValue = .ok ()) (hmem : ⟨id, value⟩ ∈ params.entries) :
    badValue value = false := by
  unfold tpCheckValue at hcheck
  rw [h.get_eq_some.mpr hmem] at hcheck
  simp only at hcheck
  split at hcheck
  · cases hcheck
  · rename_i hgood
    simpa using hgood

/-- A list that passes a sequence of rules passes each. -/
lemma ok_of_bind_ok {x : Except ParameterError Unit} {f : Unit → Except ParameterError Unit}
    (h : (x >>= f) = .ok ()) : x = .ok () ∧ f () = .ok () := by
  cases x with
  | error e => cases h
  | ok u => exact ⟨rfl, h⟩

/-- A check whose refusals are protocol errors. -/
def Refuses (x : Except ParameterError Unit) : Prop := ∀ e, x = .error e → e.status = .protocol

lemma tpReject_refuses (id : ℕ) : Refuses (tpReject id) := by
  intro e h
  cases h
  rfl

lemma ok_refuses : Refuses (.ok ()) := by
  intro e h
  cases h

lemma Refuses.bind {x : Except ParameterError Unit} {f : Unit → Except ParameterError Unit}
    (hx : Refuses x) (hf : Refuses (f ())) : Refuses (x >>= f) := by
  intro e h
  cases x with
  | error e' =>
    cases h
    exact hx e rfl
  | ok u => exact hf e h

lemma tpCheckInteger_refuses (params : TransportParameters) (id : ℕ) (bad : ℕ → Bool) :
    Refuses (tpCheckInteger params id bad) := by
  unfold tpCheckInteger
  split
  · split
    · exact tpReject_refuses id
    · exact ok_refuses
  · exact ok_refuses

lemma tpCheckValue_refuses (params : TransportParameters) (id : ℕ) (bad : List UInt8 → Bool) :
    Refuses (tpCheckValue params id bad) := by
  unfold tpCheckValue
  split
  · split
    · exact tpReject_refuses id
    · exact ok_refuses
  · exact ok_refuses

lemma quicTransportParametersCheck_refuses :
    Refuses (quicTransportParametersCheck params peerIsClient) := by
  unfold quicTransportParametersCheck
  repeat' refine Refuses.bind ?_ ?_
  all_goals first
    | exact tpCheckInteger_refuses _ _ _
    | exact tpCheckValue_refuses _ _ _

/-- The rules and what no rule looks at make a list well formed. -/
theorem TransportParameters.Indexed.wellformed_iff (h : params.Indexed)
    (hcheck : quicTransportParametersCheck params peerIsClient = .ok ()) :
    params.Wellformed peerIsClient ↔ params.Unslipped peerIsClient := by
  obtain ⟨hudp, hcheck⟩ := ok_of_bind_ok hcheck
  obtain ⟨hexponent, hcheck⟩ := ok_of_bind_ok hcheck
  obtain ⟨hreset, hcheck⟩ := ok_of_bind_ok hcheck
  obtain ⟨hdelay, hcheck⟩ := ok_of_bind_ok hcheck
  obtain ⟨hlimit, hcheck⟩ := ok_of_bind_ok hcheck
  obtain ⟨hbidi, hcheck⟩ := ok_of_bind_ok hcheck
  obtain ⟨huni, hcheck⟩ := ok_of_bind_ok hcheck
  obtain ⟨-, hcheck⟩ := ok_of_bind_ok hcheck
  obtain ⟨htoken, -⟩ := ok_of_bind_ok hcheck
  constructor
  · intro hw
    refine ⟨?_, ?_, ?_⟩
    · intro e he hid
      obtain ⟨v, hv, -⟩ := hw.integers e he hid
      exact ⟨v, hv⟩
    · rintro e he (hid | hid)
      · exact hw.flags e he (by simp [flagParameters, hid])
      · exact hw.flags e he (by simp [flagParameters, hid])
    · intro hclient e he
      have hnot := hw.serverOnly hclient e he
      simp only [serverOnlyParameters, List.mem_cons, List.not_mem_nil, or_false, not_or] at hnot
      exact ⟨hnot.1, hnot.2.2.1, hnot.2.2.2⟩
  · intro hu
    refine ⟨?_, ?_, ?_⟩
    · intro e he hid
      obtain ⟨v, hv⟩ := hu.integers e he hid
      refine ⟨v, hv, ?_, ?_, ?_, ?_, ?_⟩
      · intro heq
        have hgood := h.integer_good hudp (by rw [← heq]; exact he) hv
        simpa using hgood
      · intro heq
        have hgood := h.integer_good hexponent (by rw [← heq]; exact he) hv
        simpa using hgood
      · intro heq
        have hgood := h.integer_good hdelay (by rw [← heq]; exact he) hv
        simpa using hgood
      · intro heq
        have hgood := h.integer_good hlimit (by rw [← heq]; exact he) hv
        rw [decide_eq_false_iff_not, not_lt] at hgood
        exact hgood
      · rintro (heq | heq)
        · have hgood := h.integer_good hbidi (by rw [← heq]; exact he) hv
          simpa using hgood
        · have hgood := h.integer_good huni (by rw [← heq]; exact he) hv
          simpa using hgood
    · intro e he hid
      simp only [flagParameters, List.mem_cons, List.not_mem_nil, or_false] at hid
      rcases hid with hid | hid | hid
      · exact hu.flags e he (.inl hid)
      · have hgood := h.value_good hreset (by rw [← hid]; exact he)
        simpa using hgood
      · exact hu.flags e he (.inr hid)
    · intro hclient e he hid
      obtain ⟨horiginal, hpreferred, hretry⟩ := hu.serverOnly hclient e he
      simp only [serverOnlyParameters, List.mem_cons, List.not_mem_nil, or_false] at hid
      rcases hid with hid | hid | hid | hid
      · exact horiginal hid
      · have hgood := h.value_good htoken (by rw [← hid]; exact he)
        rw [hclient] at hgood
        cases hgood
      · exact hpreferred hid
      · exact hretry hid

end Rules

/-- An accepted list is well formed exactly when what no rule looks at is right, or the list is
refused for something else. -/
theorem quicConnectionSetPeerParameters_wellformed_iff (n : Negotiation) {data : List UInt8}
    {params : TransportParameters} (hdecode : quicTransportParametersDecode data = .ok params) :
    ((quicConnectionSetPeerParameters n data).2 = .ok →
        params.Wellformed (n.connection.config.role = .server)) ↔
      params.Unslipped (n.connection.config.role = .server) ∨
        quicTransportParametersCheck params (n.connection.config.role = .server) ≠ .ok () ∨
        ¬IdsMatch params n := by
  have hindexed := quicTransportParametersDecode_indexed hdecode
  by_cases hcheck : quicTransportParametersCheck params (n.connection.config.role = .server) = .ok ()
  · rw [setPeerParameters_ok_iff hdecode hcheck, hindexed.wellformed_iff hcheck]
    simp only [hcheck, ne_eq, not_true_eq_false, false_or]
    constructor
    · intro haccepted
      by_cases hids : IdsMatch params n
      · exact .inl (haccepted hids)
      · exact .inr hids
    · rintro (hu | hids) haccepted
      · exact hu
      · exact absurd haccepted hids
  · refine iff_of_true ?_ (.inr (.inl hcheck))
    intro hok
    unfold quicConnectionSetPeerParameters at hok
    simp only [hdecode] at hok
    split at hok
    · rename_i e herror
      rw [quicTransportParametersCheck_refuses e herror] at hok
      cases hok
    · rename_i hpassed
      exact absurd hpassed hcheck

/-- A server that has seen no packet yet. -/
def freshServer : Negotiation where
  connection := keyedServer

/-- The list that grants no bytes: an integer parameter with an empty value. -/
def emptyGrant : List UInt8 := [0x04, 0x00]

/-- The server accepts it, and goes by the default. -/
theorem setPeerParameters_empty_integer_accepted :
    ∃ params, quicTransportParametersDecode emptyGrant = .ok params ∧
      (quicConnectionSetPeerParameters freshServer emptyGrant).2 = .ok ∧
      ¬((quicConnectionSetPeerParameters freshServer emptyGrant).2 = .ok →
        params.Wellformed (freshServer.connection.config.role = .server)) := by
  refine ⟨⟨[⟨0x04, []⟩], true⟩, by decide, by decide, ?_⟩
  intro hwellformed
  obtain ⟨v, hv, -⟩ := (hwellformed (by decide)).integers ⟨0x04, []⟩ (by simp) (by decide)
  cases hv

/-- A list with a grant of five bytes is accepted as such. -/
theorem setPeerParameters_wellformed_grant :
    (∃ params, quicTransportParametersDecode grantOfFive = .ok params ∧
      (quicConnectionSetPeerParameters freshServer grantOfFive).2 = .ok ∧
      params.Wellformed (freshServer.connection.config.role = .server)) := by
  have hdecode : quicTransportParametersDecode grantOfFive = .ok ⟨[⟨0x04, [0x05]⟩], true⟩ := by decide
  refine ⟨_, hdecode, by decide, ?_⟩
  refine (quicConnectionSetPeerParameters_wellformed_iff freshServer hdecode).mpr (.inl ?_) (by decide)
  refine ⟨?_, ?_, ?_⟩
  · intro e he _
    obtain rfl := List.mem_singleton.mp he
    exact ⟨5, by unfold IsInteger; decide⟩
  · intro e he hid
    obtain rfl := List.mem_singleton.mp he
    exact absurd hid (by decide)
  · intro _ e he
    obtain rfl := List.mem_singleton.mp he
    decide

end WebTransport
