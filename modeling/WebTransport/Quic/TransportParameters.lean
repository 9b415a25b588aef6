import WebTransport.Lib.LowerBound
import WebTransport.Quic.Frame

/-!
# Transport parameters

The list of transport parameters in a TLS extension (`quic/transport_parameters.c`): how it is
read, how a parameter is looked up in it, and the rules it is checked against. A lookup halves a
list that arrived sorted and scans one that did not; either way it finds the parameter that is
there.
-/

namespace WebTransport

/-! ## Identifiers -/

/-- `WT_QUIC_TP_ORIGINAL_DESTINATION_CONNECTION_ID`. -/
def tpOriginalDestinationConnectionId : ℕ := 0x00
/-- `WT_QUIC_TP_MAX_IDLE_TIMEOUT`. -/
def tpMaxIdleTimeout : ℕ := 0x01
/-- `WT_QUIC_TP_STATELESS_RESET_TOKEN`. -/
def tpStatelessResetToken : ℕ := 0x02
/-- `WT_QUIC_TP_MAX_UDP_PAYLOAD_SIZE`. -/
def tpMaxUdpPayloadSize : ℕ := 0x03
/-- `WT_QUIC_TP_INITIAL_MAX_DATA`. -/
def tpInitialMaxData : ℕ := 0x04
/-- `WT_QUIC_TP_INITIAL_MAX_STREAM_DATA_BIDI_LOCAL`. -/
def tpInitialMaxStreamDataBidiLocal : ℕ := 0x05
/-- `WT_QUIC_TP_INITIAL_MAX_STREAM_DATA_BIDI_REMOTE`. -/
def tpInitialMaxStreamDataBidiRemote : ℕ := 0x06
/-- `WT_QUIC_TP_INITIAL_MAX_STREAM_DATA_UNI`. -/
def tpInitialMaxStreamDataUni : ℕ := 0x07
/-- `WT_QUIC_TP_INITIAL_MAX_STREAMS_BIDI`. -/
def tpInitialMaxStreamsBidi : ℕ := 0x08
/-- `WT_QUIC_TP_INITIAL_MAX_STREAMS_UNI`. -/
def tpInitialMaxStreamsUni : ℕ := 0x09
/-- `WT_QUIC_TP_ACK_DELAY_EXPONENT`. -/
def tpAckDelayExponent : ℕ := 0x0a
/-- `WT_QUIC_TP_MAX_ACK_DELAY`. -/
def tpMaxAckDelay : ℕ := 0x0b
/-- `WT_QUIC_TP_DISABLE_ACTIVE_MIGRATION`. -/
def tpDisableActiveMigration : ℕ := 0x0c
/-- `WT_QUIC_TP_PREFERRED_ADDRESS`. -/
def tpPreferredAddress : ℕ := 0x0d
/-- `WT_QUIC_TP_ACTIVE_CONNECTION_ID_LIMIT`. -/
def tpActiveConnectionIdLimit : ℕ := 0x0e
/-- `WT_QUIC_TP_INITIAL_SOURCE_CONNECTION_ID`. -/
def tpInitialSourceConnectionId : ℕ := 0x0f
/-- `WT_QUIC_TP_RETRY_SOURCE_CONNECTION_ID`. -/
def tpRetrySourceConnectionId : ℕ := 0x10
/-- `WT_QUIC_TP_RESET_STREAM_AT`. -/
def tpResetStreamAt : ℕ := 0x1d
/-- `WT_QUIC_TP_MAX_DATAGRAM_FRAME_SIZE`. -/
def tpMaxDatagramFrameSize : ℕ := 0x20
/-- `WT_QUIC_TP_GREASE_QUIC_BIT`. -/
def tpGreaseQuicBit : ℕ := 0x2ab2

/-- `WT_QUIC_DEFAULT_MAX_UDP_PAYLOAD_SIZE`. -/
def quicDefaultMaxUdpPayloadSize : ℕ := 65527
/-- `WT_QUIC_MIN_MAX_UDP_PAYLOAD_SIZE`. -/
def quicMinMaxUdpPayloadSize : ℕ := 1200
/-- `WT_QUIC_MAX_TRANSPORT_PARAMETERS`. -/
def quicMaxTransportParameters : ℕ := 32

/-! ## The list -/

/-- One parameter (`wt_quic_transport_parameter_t`). -/
structure TransportParameter where
  id : ℕ
  value : List UInt8
deriving DecidableEq, Repr

/-- A list of parameters, and whether it arrived sorted (`wt_quic_transport_parameters_t`). -/
structure TransportParameters where
  entries : List TransportParameter := []
  sorted : Bool := true
deriving DecidableEq, Repr

/-- Where an identifier belongs in a sorted list (`wt_quic_tp_lower_bound`). -/
def tpLowerBound (params : TransportParameters) (id : ℕ) : ℕ :=
  LowerBound.search (fun i => params.entries[i]?.any (·.id < id)) params.entries.length 0
    params.entries.length

/-- The parameter with an identifier (`wt_quic_tp_entry`). -/
def tpEntry (params : TransportParameters) (id : ℕ) : Option TransportParameter :=
  if params.sorted then params.entries[tpLowerBound params id]?.filter (·.id = id)
  else params.entries.find? (·.id = id)

/-- The value of a parameter, when it is there (`wt_quic_transport_parameters_get`). -/
def quicTransportParametersGet (params : TransportParameters) (id : ℕ) : Option (List UInt8) :=
  (tpEntry params id).map (·.value)

/-- The value of a parameter that is one integer (`wt_quic_transport_parameters_integer`): an
absent one and a malformed one have statuses of their own. -/
def quicTransportParametersInteger (params : TransportParameters) (id : ℕ) : Except Status ℕ :=
  match quicTransportParametersGet params id with
  | none => .error .invalidArgument
  | some value =>
    if value = [] then .error .truncated
    else
      match quicVarintDecode value with
      | .error _ => .error .truncated
      | .ok (v, rest) => if rest = [] then .ok v else .error .truncated

/-- Put a parameter at the end of the list. -/
def TransportParameters.add (params : TransportParameters) (entry : TransportParameter) :
    TransportParameters where
  entries := params.entries ++ [entry]
  sorted := params.sorted && !(params.entries.getLast?.any (entry.id < ·.id))

/-- The loop of the decoder, with the room that is left in the list. -/
def tpDecodeFrom : ℕ → List UInt8 → TransportParameters → Except FrameError TransportParameters
  | _, [], params => .ok params
  | 0, _, _ => .error (quicDecodeFail quicTransportParameterError)
  | room + 1, c@(_ :: _), params =>
    match quicVarintDecode c with
    | .error _ => .error frameTruncated
    | .ok (id, c) =>
      match quicVarintDecodeSized c with
      | .error _ => .error frameTruncated
      | .ok (length, size, c) =>
        if !quicVarintIsMinimal length size then
          .error (quicDecodeFail quicTransportParameterError)
        else
          match quicTake c length with
          | .error e => .error e
          | .ok (value, c) => tpDecodeFrom room c (params.add ⟨id, value⟩)

/-- Read a list of parameters, in which no identifier may stand twice
(`wt_quic_transport_parameters_decode`). -/
def quicTransportParametersDecode (data : List UInt8) : Except FrameError TransportParameters :=
  match tpDecodeFrom quicMaxTransportParameters data {} with
  | .error e => .error e
  | .ok params =>
    if (params.entries.map (·.id)).Nodup then .ok params
    else .error (quicDecodeFail quicTransportParameterError)

/-! ## The rules -/

/-- A parameter that breaks a rule: the status, the code to close with and the identifier
(`WT_QUIC_TP_REJECT`). -/
structure ParameterError where
  status : Status
  error : QuicError
  offender : ℕ
deriving DecidableEq, Repr

/-- Refuse a list for one of its parameters. -/
def tpReject (id : ℕ) : Except ParameterError Unit :=
  .error ⟨.protocol, quicTransportParameterError, id⟩

/-- Refuse a list for an integer that breaks a rule. -/
def tpCheckInteger (params : TransportParameters) (id : ℕ) (bad : ℕ → Bool) :
    Except ParameterError Unit :=
  match quicTransportParametersInteger params id with
  | .ok v => if bad v then tpReject id else .ok ()
  | .error _ => .ok ()

/-- Refuse a list for a value that breaks a rule. -/
def tpCheckValue (params : TransportParameters) (id : ℕ) (bad : List UInt8 → Bool) :
    Except ParameterError Unit :=
  match quicTransportParametersGet params id with
  | some value => if bad value then tpReject id else .ok ()
  | none => .ok ()

/-- The rules for the values (`wt_quic_transport_parameters_check`), in the order of the source. -/
def quicTransportParametersCheck (params : TransportParameters) (peerIsClient : Bool) :
    Except ParameterError Unit := do
  tpCheckInteger params tpMaxUdpPayloadSize (· < quicMinMaxUdpPayloadSize)
  tpCheckInteger params tpAckDelayExponent (20 < ·)
  tpCheckValue params tpResetStreamAt (· ≠ [])
  tpCheckInteger params tpMaxAckDelay (2 ^ 14 ≤ ·)
  tpCheckInteger params tpActiveConnectionIdLimit (· < 2)
  tpCheckInteger params tpInitialMaxStreamsBidi (2 ^ 60 < ·)
  tpCheckInteger params tpInitialMaxStreamsUni (2 ^ 60 < ·)
  tpCheckValue params tpStatelessResetToken (·.length ≠ 16)
  tpCheckValue params tpStatelessResetToken fun _ => peerIsClient
  tpCheckValue params tpOriginalDestinationConnectionId fun v => v.length = 0 ∨ 20 < v.length
  tpCheckValue params tpInitialSourceConnectionId (20 < ·.length)
  tpCheckValue params tpRetrySourceConnectionId (20 < ·.length)

/-! ## Looking up -/

/-- What a lookup relies on: a list that is marked as sorted is, and no identifier stands twice. -/
structure TransportParameters.Indexed (params : TransportParameters) : Prop where
  sorted : params.sorted = true → (params.entries.map TransportParameter.id).Pairwise (· ≤ ·)
  nodup : (params.entries.map TransportParameter.id).Nodup

section Lookup

variable {params : TransportParameters} {id : ℕ} {value : List UInt8} {entry : TransportParameter}

lemma TransportParameters.add_sorted
    (h : params.sorted = true → (params.entries.map TransportParameter.id).Pairwise (· ≤ ·)) :
    (params.add entry).sorted = true →
      ((params.add entry).entries.map TransportParameter.id).Pairwise (· ≤ ·) := by
  intro hsorted
  obtain ⟨hbefore, hlast⟩ := Bool.and_eq_true_iff.mp hsorted
  have hpairwise := h hbefore
  show ((params.entries ++ [entry]).map TransportParameter.id).Pairwise (· ≤ ·)
  rw [List.map_append, List.pairwise_append]
  refine ⟨hpairwise, List.pairwise_singleton _ _, ?_⟩
  intro a ha b hb
  obtain rfl : b = entry.id := by simpa using hb
  -- The new identifier is not below the last one, and that one is not below any other.
  obtain ⟨before, last, heq⟩ : ∃ before last, params.entries = before ++ [last] := by
    refine ⟨params.entries.dropLast, params.entries.getLast ?_, ?_⟩
    · rintro hnil
      rw [hnil] at ha
      cases ha
    · exact (List.dropLast_append_getLast _).symm
  rw [heq, List.map_append, List.pairwise_append] at hpairwise
  have hle : last.id ≤ entry.id := by
    rw [heq, List.getLast?_append, List.getLast?_singleton] at hlast
    simpa using hlast
  rw [heq, List.map_append, List.mem_append] at ha
  rcases ha with ha | ha
  · exact (hpairwise.2.2 a ha last.id (by simp)).trans hle
  · obtain rfl : a = last.id := by simpa using ha
    exact hle

lemma tpDecodeFrom_sorted {room : ℕ} {c : List UInt8} {params' : TransportParameters}
    (h : params.sorted = true → (params.entries.map TransportParameter.id).Pairwise (· ≤ ·))
    (hdecode : tpDecodeFrom room c params = .ok params') :
    params'.sorted = true → (params'.entries.map TransportParameter.id).Pairwise (· ≤ ·) := by
  induction room generalizing c params with
  | zero =>
    cases c with
    | nil =>
      rw [tpDecodeFrom] at hdecode
      cases hdecode
      exact h
    | cons => cases hdecode
  | succ room ih =>
    cases c with
    | nil =>
      rw [tpDecodeFrom] at hdecode
      cases hdecode
      exact h
    | cons first c =>
      rw [tpDecodeFrom] at hdecode
      split at hdecode
      · cases hdecode
      split at hdecode
      · cases hdecode
      split at hdecode
      · cases hdecode
      split at hdecode
      · cases hdecode
      · exact ih (TransportParameters.add_sorted h) hdecode

/-- A list that is read can be looked up in. -/
theorem quicTransportParametersDecode_indexed {data : List UInt8}
    (h : quicTransportParametersDecode data = .ok params) : params.Indexed := by
  unfold quicTransportParametersDecode at h
  split at h
  · cases h
  rename_i params' hdecode
  split at h
  · rename_i hnodup
    cases h
    exact ⟨tpDecodeFrom_sorted (by simp) hdecode, hnodup⟩
  · cases h

/-- In a sorted list the identifiers that are below another come first. -/
lemma TransportParameters.Indexed.below_first (h : params.Indexed) (hsorted : params.sorted = true)
    (id i j : ℕ) (hij : i ≤ j) (hj : j < params.entries.length)
    (hbelow : params.entries[j]?.any (·.id < id) = true) :
    params.entries[i]?.any (·.id < id) = true := by
  rw [List.getElem?_eq_getElem hj] at hbelow
  rw [List.getElem?_eq_getElem (hij.trans_lt hj)]
  simp only [Option.any_some, decide_eq_true_eq] at hbelow ⊢
  rcases Nat.lt_or_eq_of_le hij with hlt | rfl
  · have hle := (List.pairwise_iff_getElem.mp (h.sorted hsorted)) i j (by simpa using hlt.trans hj)
      (by simpa using hj) hlt
    rw [List.getElem_map, List.getElem_map] at hle
    exact hle.trans_lt hbelow
  · exact hbelow

/-- Two entries of the list with one identifier are the same entry. -/
lemma TransportParameters.Indexed.eq_of_id_eq (h : params.Indexed) {a b : TransportParameter}
    (ha : a ∈ params.entries) (hb : b ∈ params.entries) (hid : a.id = b.id) : a = b :=
  List.inj_on_of_nodup_map h.nodup ha hb hid

/-- A lookup finds what is in the list, and nothing else. -/
theorem TransportParameters.Indexed.tpEntry_eq_some (h : params.Indexed) :
    tpEntry params id = some entry ↔ entry ∈ params.entries ∧ entry.id = id := by
  unfold tpEntry
  split
  · rename_i hsorted
    obtain ⟨hlow, hhigh⟩ := LowerBound.search_spec (h.below_first hsorted id)
      (Nat.zero_le params.entries.length) le_rfl le_rfl (fun i hi => absurd hi (Nat.not_lt_zero i))
      (fun i hi hlt => absurd hlt (not_lt.mpr hi))
    rw [Option.filter_eq_some_iff, decide_eq_true_iff]
    constructor
    · rintro ⟨hget, hid⟩
      exact ⟨List.mem_of_getElem? hget, hid⟩
    · rintro ⟨hmem, hid⟩
      refine ⟨?_, hid⟩
      obtain ⟨i, hi, rfl⟩ := List.getElem_of_mem hmem
      -- The search stops at the entry: neither before it nor behind it.
      have hle : tpLowerBound params id ≤ i := by
        by_contra hlt
        have hbelow := hlow i (not_le.mp hlt)
        rw [List.getElem?_eq_getElem hi, Option.any_some, decide_eq_true_iff] at hbelow
        omega
      have hat := hhigh (tpLowerBound params id) le_rfl (hle.trans_lt hi)
      rw [List.getElem?_eq_getElem (hle.trans_lt hi), Option.any_some, decide_eq_false_iff_not] at hat
      rw [List.getElem?_eq_getElem (hle.trans_lt hi), Option.some_inj]
      refine h.eq_of_id_eq (List.getElem_mem _) hmem ?_
      rcases Nat.lt_or_eq_of_le hle with hlt | heq
      · have hpair := (List.pairwise_iff_getElem.mp (h.sorted hsorted)) _ i
          (by simpa using hlt.trans hi) (by simpa using hi) hlt
        rw [List.getElem_map, List.getElem_map] at hpair
        omega
      · simp only [heq]
  · constructor
    · intro hfind
      exact ⟨List.mem_of_find?_eq_some hfind, by simpa using List.find?_some hfind⟩
    · rintro ⟨hmem, hid⟩
      cases hfind : params.entries.find? (·.id = id) with
      | none =>
        have := List.find?_eq_none.mp hfind entry hmem
        simp [hid] at this
      | some found =>
        rw [Option.some_inj]
        have hfound : found.id = id := by simpa using List.find?_some hfind
        exact h.eq_of_id_eq (List.mem_of_find?_eq_some hfind) hmem (hfound.trans hid.symm)

/-- The value that is looked up is the one in the list. -/
theorem TransportParameters.Indexed.get_eq_some (h : params.Indexed) :
    quicTransportParametersGet params id = some value ↔ ⟨id, value⟩ ∈ params.entries := by
  unfold quicTransportParametersGet
  rw [Option.map_eq_some_iff]
  constructor
  · rintro ⟨entry, hentry, rfl⟩
    obtain ⟨hmem, rfl⟩ := h.tpEntry_eq_some.mp hentry
    exact hmem
  · intro hmem
    exact ⟨_, h.tpEntry_eq_some.mpr ⟨hmem, rfl⟩, rfl⟩

end Lookup

end WebTransport
