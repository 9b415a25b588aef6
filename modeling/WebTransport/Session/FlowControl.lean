import WebTransport.Session.Handle

/-!
# The session's own flow control

What an endpoint may send of a session (`api/flow.c`): the peer's grants come from its SETTINGS
and from capsules, through the same rules, and what was used is counted beside them. The
configuration takes the three grants one after another. One that is refused leaves flow control
switched on with the grants that come after it missing, and a missing grant is no bound at all.
-/

namespace WebTransport

/-- `UINT64_MAX`, the allowance where no limit is in force. -/
def flowUnlimited : ℕ := 2 ^ 64 - 1

/-- The handle of a session with what this endpoint has used of the grants. -/
structure FlowHandle extends SessionHandle where
  usedData : ℕ
  openedStreamsBidi : ℕ
  openedStreamsUni : ℕ
deriving DecidableEq, Repr

/-- The flow control of a new handle (`wt_session_create`), with its session as far as it has
come. -/
def flowHandleCreate (machine : WebtransportSession) (maxCapsuleBytes : ℕ) : FlowHandle where
  machine           := machine
  errorStatus       := .ok
  errorCode         := 0
  maxCapsuleBytes   := maxCapsuleBytes
  limits            := webtransportFlowLimitsInit
  flowEnabled       := false
  usedData          := 0
  openedStreamsBidi := 0
  openedStreamsUni  := 0

namespace FlowHandle

/-- Record how an operation ended, and answer it (`wt_session_set_error`). -/
def setError (h : FlowHandle) (status : Status) (code : ℕ) : FlowHandle × Status :=
  ({ h with errorStatus := status, errorCode := code }, status)

end FlowHandle

/-- Configure the flow control of a session from the peer's SETTINGS. -/
def sessionFlowConfigure (h : FlowHandle) (enabled : Bool)
    (initialMaxData initialMaxStreamsBidi initialMaxStreamsUni : ℕ) : FlowHandle × Status :=
  let fresh : FlowHandle :=
    { h with
      limits := webtransportFlowLimitsInit
      flowEnabled := enabled
      usedData := 0
      openedStreamsBidi := 0
      openedStreamsUni := 0 }
  if enabled = false then fresh.setError .ok 0
  else
    -- The initial limits go through the rules of the capsules, each of them at once.
    let data := webtransportFlowOnMaxData fresh.limits initialMaxData
    let h₁ : FlowHandle := { fresh with limits := data.1 }
    if data.2.1 ≠ .ok then h₁.setError data.2.1 data.2.2
    else
      let bidi := webtransportFlowOnMaxStreams h₁.limits true initialMaxStreamsBidi
      let h₂ : FlowHandle := { h₁ with limits := bidi.1 }
      if bidi.2.1 ≠ .ok then h₂.setError bidi.2.1 bidi.2.2
      else
        let uni := webtransportFlowOnMaxStreams h₂.limits false initialMaxStreamsUni
        let h₃ : FlowHandle := { h₂ with limits := uni.1 }
        if uni.2.1 ≠ .ok then h₃.setError uni.2.1 uni.2.2 else h₃.setError .ok 0

def sessionFlowDataAllowance (h : FlowHandle) : ℕ :=
  if h.flowEnabled = false ∨ h.limits.maxDataSet = false then flowUnlimited
  else if h.usedData ≥ h.limits.maxData then 0
  else h.limits.maxData - h.usedData

def sessionFlowStreamAllowance (h : FlowHandle) (unidirectional : Bool) : ℕ :=
  if h.flowEnabled = false then flowUnlimited
  else
    let isSet := if unidirectional then h.limits.maxStreamsUniSet else h.limits.maxStreamsBidiSet
    let limit := if unidirectional then h.limits.maxStreamsUni else h.limits.maxStreamsBidi
    let opened := if unidirectional then h.openedStreamsUni else h.openedStreamsBidi
    if isSet = false then flowUnlimited
    else if opened ≥ limit then 0
    else limit - opened

/-- This endpoint sent bytes of the session. -/
def sessionFlowRecordData (h : FlowHandle) (bytes : ℕ) : FlowHandle × Status :=
  if h.flowEnabled = false then h.setError .ok 0
  else if bytes > u64Sub h.limits.maxData h.usedData then
    h.setError .limit webtransportFlowControlError
  else { h with usedData := u64Add h.usedData bytes }.setError .ok 0

/-- This endpoint is starting a stream. -/
def sessionFlowRegisterStream (h : FlowHandle) (unidirectional : Bool) : FlowHandle × Status :=
  if h.flowEnabled = false then h.setError .ok 0
  else
    let opened := if unidirectional then h.openedStreamsUni else h.openedStreamsBidi
    let isSet := if unidirectional then h.limits.maxStreamsUniSet else h.limits.maxStreamsBidiSet
    let limit := if unidirectional then h.limits.maxStreamsUni else h.limits.maxStreamsBidi
    if isSet = true ∧ opened ≥ limit then h.setError .limit webtransportFlowControlError
    else if unidirectional then
      { h with openedStreamsUni := u64Add opened 1 }.setError .ok 0
    else { h with openedStreamsBidi := u64Add opened 1 }.setError .ok 0

/-- Handle one capsule; what was used is none of its business. -/
def sessionFlowOnCapsule (h : FlowHandle) (bytes : List UInt8) : FlowHandle × Status :=
  ({ h with toSessionHandle := (sessionOnCapsule h.toSessionHandle bytes).1 },
    (sessionOnCapsule h.toSessionHandle bytes).2)

/-! ## Limits that only grow -/

section Limits

variable {limits limits' limits'' : FlowLimits} {maximum : ℕ}

/-- Limits that were raised or left alone. -/
structure FlowLimits.Raised (limits limits' : FlowLimits) : Prop where
  data : limits.maxData ≤ limits'.maxData
  dataSet : limits.maxDataSet = true → limits'.maxDataSet = true
  bidi : limits.maxStreamsBidi ≤ limits'.maxStreamsBidi
  bidiSet : limits.maxStreamsBidiSet = true → limits'.maxStreamsBidiSet = true
  uni : limits.maxStreamsUni ≤ limits'.maxStreamsUni
  uniSet : limits.maxStreamsUniSet = true → limits'.maxStreamsUniSet = true

lemma FlowLimits.Raised.refl (limits : FlowLimits) : limits.Raised limits :=
  ⟨le_rfl, id, le_rfl, id, le_rfl, id⟩

/-- Limits that are zero while they are not set, and in the range of their counters. -/
structure FlowLimits.Sized (limits : FlowLimits) : Prop where
  data : limits.maxData < 2 ^ 64
  bidi : limits.maxStreamsBidi ≤ webtransportMaxStreamsValue
  uni : limits.maxStreamsUni ≤ webtransportMaxStreamsValue
  dataUnset : limits.maxDataSet = false → limits.maxData = 0
  bidiUnset : limits.maxStreamsBidiSet = false → limits.maxStreamsBidi = 0
  uniUnset : limits.maxStreamsUniSet = false → limits.maxStreamsUni = 0

lemma sized_flowLimitsInit : webtransportFlowLimitsInit.Sized :=
  ⟨by decide, by decide, by decide, fun _ => rfl, fun _ => rfl, fun _ => rfl⟩

/-- What became of some limits in a call that was answered with a status: a refusal leaves them, and
they never fall. -/
structure FlowLimits.Moved (limits limits' : FlowLimits) (status : Status) : Prop where
  refused : status ≠ .ok → limits' = limits
  raised : limits.Raised limits'
  sized : limits'.Sized

lemma FlowLimits.Sized.kept (hsized : limits.Sized) (status : Status) :
    limits.Moved limits status :=
  ⟨fun _ => rfl, .refl limits, hsized⟩

lemma moved_flowOnMaxData (hsized : limits.Sized) (hmaximum : maximum < 2 ^ 64) :
    limits.Moved (webtransportFlowOnMaxData limits maximum).1
      (webtransportFlowOnMaxData limits maximum).2.1 := by
  unfold webtransportFlowOnMaxData
  split_ifs with hback
  · exact hsized.kept _
  · have hdata : limits.maxData ≤ maximum := by
      rcases hset : limits.maxDataSet
      · rw [hsized.dataUnset hset]
        exact Nat.zero_le maximum
      · exact le_of_not_ge fun hle => hback ⟨hset, hle⟩
    exact ⟨fun h => absurd rfl h, ⟨hdata, fun _ => rfl, le_rfl, id, le_rfl, id⟩,
      ⟨hmaximum, hsized.bidi, hsized.uni, nofun, hsized.bidiUnset, hsized.uniUnset⟩⟩

lemma moved_flowOnMaxStreams (hsized : limits.Sized) (bidirectional : Bool) (maximum : ℕ) :
    limits.Moved (webtransportFlowOnMaxStreams limits bidirectional maximum).1
      (webtransportFlowOnMaxStreams limits bidirectional maximum).2.1 := by
  unfold webtransportFlowOnMaxStreams
  split_ifs with hceiling hdirection hback hback
  · exact hsized.kept _
  · exact hsized.kept _
  · have hbidi : limits.maxStreamsBidi ≤ maximum := by
      rcases hset : limits.maxStreamsBidiSet
      · rw [hsized.bidiUnset hset]
        exact Nat.zero_le maximum
      · exact le_of_not_ge fun hle => hback ⟨hset, hle⟩
    exact ⟨fun h => absurd rfl h, ⟨le_rfl, id, hbidi, fun _ => rfl, le_rfl, id⟩,
      ⟨hsized.data, not_lt.mp hceiling, hsized.uni, hsized.dataUnset, nofun, hsized.uniUnset⟩⟩
  · exact hsized.kept _
  · have huni : limits.maxStreamsUni ≤ maximum := by
      rcases hset : limits.maxStreamsUniSet
      · rw [hsized.uniUnset hset]
        exact Nat.zero_le maximum
      · exact le_of_not_ge fun hle => hback ⟨hset, hle⟩
    exact ⟨fun h => absurd rfl h, ⟨le_rfl, id, le_rfl, id, huni, fun _ => rfl⟩,
      ⟨hsized.data, hsized.bidi, not_lt.mp hceiling, hsized.dataUnset, hsized.bidiUnset, nofun⟩⟩

/-- A limit that a capsule names is in the range of the counters. -/
lemma webtransportMaxDataParse_lt {capsule : Capsule}
    (h : webtransportMaxDataParse capsule = .ok maximum) : maximum < 2 ^ 64 := by
  unfold webtransportMaxDataParse capsuleParseOne at h
  split_ifs at h
  split at h
  · cases h
  · next value rest hread =>
    split_ifs at h
    cases h
    have hle := quicVarintDecode_le hread
    unfold quicVarintMax at hle
    omega

/-- What a capsule does to the limits of a handle. -/
lemma moved_sessionOnCapsule {h : SessionHandle} (hsized : h.limits.Sized) (bytes : List UInt8) :
    (sessionOnCapsule h bytes).1.flowEnabled = h.flowEnabled ∧
      h.limits.Moved (sessionOnCapsule h bytes).1.limits (sessionOnCapsule h bytes).2 := by
  have hkept : ∀ status, h.limits.Moved h.limits status := hsized.kept
  have hrefused : ∀ reply, (sessionRefuseCount h reply).1.flowEnabled = h.flowEnabled ∧
      h.limits.Moved (sessionRefuseCount h reply).1.limits (sessionRefuseCount h reply).2 := by
    intro reply
    unfold sessionRefuseCount
    split_ifs <;> exact ⟨rfl, hkept _⟩
  rw [sessionOnCapsule]
  by_cases hgate : h.machine.state = .closed ∧ bytes.length ≠ 0
  · rw [if_pos hgate]
    exact ⟨rfl, hkept _⟩
  rw [if_neg hgate]
  cases webtransportCapsuleDecode h.maxCapsuleBytes bytes with
  | error reply => exact ⟨rfl, hkept _⟩
  | ok r =>
    obtain ⟨capsule, ahead⟩ := r
    dsimp only
    by_cases hprohibited : capsule.type = capsuleMaxStreamData ∨
        capsule.type = capsuleStreamDataBlocked
    · rw [if_pos hprohibited]
      exact ⟨rfl, hkept _⟩
    rw [if_neg hprohibited]
    by_cases hdrain : capsule.type = capsuleDrainSession
    · rw [if_pos hdrain]
      split_ifs <;> exact ⟨rfl, hkept _⟩
    rw [if_neg hdrain]
    by_cases hclose : capsule.type = capsuleCloseWebtransportSession
    · rw [if_pos hclose]
      cases webtransportCloseSessionParse capsule <;> exact ⟨rfl, hkept _⟩
    rw [if_neg hclose]
    by_cases hdata : capsule.type = capsuleMaxData
    · rw [if_pos hdata]
      cases hparse : webtransportMaxDataParse capsule with
      | error reply => exact ⟨rfl, hkept _⟩
      | ok maximum =>
        dsimp only
        split_ifs
        · exact ⟨rfl, hkept _⟩
        · exact ⟨rfl, moved_flowOnMaxData hsized (webtransportMaxDataParse_lt hparse)⟩
    rw [if_neg hdata]
    by_cases hstreams : capsule.type = capsuleMaxStreamsBidi ∨ capsule.type = capsuleMaxStreamsUni
    · rw [if_pos hstreams]
      cases webtransportMaxStreamsParse capsule with
      | error reply => exact hrefused reply
      | ok maximum =>
        dsimp only
        split_ifs
        · exact ⟨rfl, hkept _⟩
        · exact ⟨rfl, moved_flowOnMaxStreams hsized _ maximum⟩
    rw [if_neg hstreams]
    by_cases hblocked : capsule.type = capsuleStreamsBlockedBidi ∨
        capsule.type = capsuleStreamsBlockedUni
    · rw [if_pos hblocked]
      cases webtransportStreamsBlockedParse capsule with
      | error reply => exact hrefused reply
      | ok maximum => exact ⟨rfl, hkept _⟩
    · rw [if_neg hblocked]
      exact ⟨rfl, hkept _⟩

end Limits

/-! ## Whole runs -/

/-- A call that concerns the flow control of a session. -/
inductive FlowCall
  | configure (enabled : Bool)
      (initialMaxData initialMaxStreamsBidi initialMaxStreamsUni : UInt64)
  | onCapsule (bytes : List UInt8)
  | recordData (bytes : UInt64)
  | registerStream (unidirectional : Bool)

namespace FlowCall

def run (h : FlowHandle) : FlowCall → FlowHandle × Status
  | configure enabled data bidi uni =>
    sessionFlowConfigure h enabled data.toNat bidi.toNat uni.toNat
  | onCapsule bytes => sessionFlowOnCapsule h bytes
  | recordData bytes => sessionFlowRecordData h bytes.toNat
  | registerStream unidirectional => sessionFlowRegisterStream h unidirectional

def isConfigure : FlowCall → Bool
  | configure .. => true
  | _ => false

/-- A configuration that switches flow control on asks for no more streams than there can be. -/
def WithinCeiling : FlowCall → Prop
  | configure enabled _ bidi uni =>
    enabled = true → bidi.toNat ≤ webtransportMaxStreamsValue ∧
      uni.toNat ≤ webtransportMaxStreamsValue
  | _ => True

end FlowCall

/-- While flow control is on, all three limits are set, no more is used than they allow, and what
is allowed is the rest. -/
structure FlowHandle.Kept (h : FlowHandle) : Prop where
  allSet : h.flowEnabled = true → h.limits.maxDataSet = true ∧ h.limits.maxStreamsBidiSet = true ∧
    h.limits.maxStreamsUniSet = true
  data : h.flowEnabled = true → h.usedData ≤ h.limits.maxData
  bidi : h.flowEnabled = true → h.openedStreamsBidi ≤ h.limits.maxStreamsBidi
  uni : h.flowEnabled = true → h.openedStreamsUni ≤ h.limits.maxStreamsUni
  dataAllowance : h.flowEnabled = true →
    sessionFlowDataAllowance h = h.limits.maxData - h.usedData
  bidiAllowance : h.flowEnabled = true →
    sessionFlowStreamAllowance h false = h.limits.maxStreamsBidi - h.openedStreamsBidi
  uniAllowance : h.flowEnabled = true →
    sessionFlowStreamAllowance h true = h.limits.maxStreamsUni - h.openedStreamsUni

/-- The limits, what was used of them and the switch as they were. -/
structure FlowHandle.SameFlow (h h' : FlowHandle) : Prop where
  limits : h'.limits = h.limits
  flowEnabled : h'.flowEnabled = h.flowEnabled
  usedData : h'.usedData = h.usedData
  openedStreamsBidi : h'.openedStreamsBidi = h.openedStreamsBidi
  openedStreamsUni : h'.openedStreamsUni = h.openedStreamsUni

/-- What a call has to leave: limits that did not fall, where it is no configuration, and the same
flow control after a refusal. -/
structure FlowCall.Clean (call : FlowCall) (h h' : FlowHandle) (status : Status) : Prop where
  kept : h'.Kept
  raised : call.isConfigure = false → h.limits.Raised h'.limits
  refused : status ≠ .ok → h.SameFlow h'

/-- Every call of a run is clean. -/
def FlowRunClean : FlowHandle → List FlowCall → Prop
  | _, [] => True
  | h, call :: calls =>
    call.Clean h (call.run h).1 (call.run h).2 ∧ FlowRunClean (call.run h).1 calls

section Runs

variable {h : FlowHandle}

/-- What a run keeps: the limits are in the range of their counters, and while flow control is on
they are all set and not exceeded. -/
structure FlowHandle.Inv (h : FlowHandle) : Prop where
  sized : h.limits.Sized
  allSet : h.flowEnabled = true → h.limits.maxDataSet = true ∧ h.limits.maxStreamsBidiSet = true ∧
    h.limits.maxStreamsUniSet = true
  data : h.flowEnabled = true → h.usedData ≤ h.limits.maxData
  bidi : h.flowEnabled = true → h.openedStreamsBidi ≤ h.limits.maxStreamsBidi
  uni : h.flowEnabled = true → h.openedStreamsUni ≤ h.limits.maxStreamsUni

lemma inv_flowHandleCreate (machine : WebtransportSession) (maxCapsuleBytes : ℕ) :
    (flowHandleCreate machine maxCapsuleBytes).Inv :=
  ⟨sized_flowLimitsInit, nofun, nofun, nofun, nofun⟩

lemma FlowHandle.Inv.kept (hinv : h.Inv) : h.Kept := by
  refine ⟨hinv.allSet, hinv.data, hinv.bidi, hinv.uni, fun hon => ?_, fun hon => ?_,
    fun hon => ?_⟩
  all_goals obtain ⟨hdata, hbidi, huni⟩ := hinv.allSet hon
  · rw [sessionFlowDataAllowance, if_neg (by simp [hon, hdata])]
    split_ifs with hspent
    · exact (Nat.sub_eq_zero_of_le hspent).symm
    · rfl
  · simp only [sessionFlowStreamAllowance, hon, hbidi, Bool.false_eq_true, Bool.true_eq_false,
      if_false]
    split_ifs with hspent
    · exact (Nat.sub_eq_zero_of_le hspent).symm
    · rfl
  · simp only [sessionFlowStreamAllowance, hon, huni, Bool.true_eq_false, if_true, if_false]
    split_ifs with hspent
    · exact (Nat.sub_eq_zero_of_le hspent).symm
    · rfl

/-- A count within the ceiling is taken where none was set. -/
lemma flowOnMaxStreams_first {limits : FlowLimits} {bidirectional : Bool} {maximum : ℕ}
    (hunset : (if bidirectional then limits.maxStreamsBidiSet else limits.maxStreamsUniSet) = false)
    (hceiling : maximum ≤ webtransportMaxStreamsValue) :
    webtransportFlowOnMaxStreams limits bidirectional maximum =
      (if bidirectional then { limits with maxStreamsBidi := maximum, maxStreamsBidiSet := true }
        else { limits with maxStreamsUni := maximum, maxStreamsUniSet := true }, .ok, 0) := by
  cases bidirectional with
  | false =>
    have hset : limits.maxStreamsUniSet = false := by simpa using hunset
    simp [webtransportFlowOnMaxStreams, hset, not_lt.mpr hceiling]
  | true =>
    have hset : limits.maxStreamsBidiSet = false := by simpa using hunset
    simp [webtransportFlowOnMaxStreams, hset, not_lt.mpr hceiling]

/-- A configuration within the ceiling sets all three limits. -/
lemma sessionFlowConfigure_within (h : FlowHandle) {data bidi uni : ℕ}
    (hbidi : bidi ≤ webtransportMaxStreamsValue) (huni : uni ≤ webtransportMaxStreamsValue) :
    sessionFlowConfigure h true data bidi uni =
      ({ h with
          limits := ⟨data, true, bidi, true, uni, true⟩
          flowEnabled := true
          usedData := 0
          openedStreamsBidi := 0
          openedStreamsUni := 0
          errorStatus := .ok
          errorCode := 0 }, .ok) := by
  simp [sessionFlowConfigure, webtransportFlowOnMaxData, webtransportFlowLimitsInit,
    flowOnMaxStreams_first, hbidi, huni, FlowHandle.setError]

/-- A configuration over the ceiling leaves flow control on and a limit missing. -/
lemma sessionFlowConfigure_over (h : FlowHandle) (data : ℕ) {bidi uni : ℕ}
    (hover : ¬(bidi ≤ webtransportMaxStreamsValue ∧ uni ≤ webtransportMaxStreamsValue)) :
    (sessionFlowConfigure h true data bidi uni).1.flowEnabled = true ∧
      (sessionFlowConfigure h true data bidi uni).1.limits.maxStreamsUniSet = false := by
  by_cases hbidi : bidi ≤ webtransportMaxStreamsValue
  · have huni : webtransportMaxStreamsValue < uni := not_le.mp fun h => hover ⟨hbidi, h⟩
    simp [sessionFlowConfigure, webtransportFlowOnMaxData, webtransportFlowLimitsInit,
      webtransportFlowOnMaxStreams, not_lt.mpr hbidi, huni, FlowHandle.setError]
  · simp [sessionFlowConfigure, webtransportFlowOnMaxData, webtransportFlowLimitsInit,
      webtransportFlowOnMaxStreams, not_le.mp hbidi, FlowHandle.setError]

/-- An operation that raises nothing but the limits. -/
structure FlowHandle.Step (h h' : FlowHandle) (status : Status) : Prop where
  inv : h'.Inv
  raised : h.limits.Raised h'.limits
  refused : status ≠ .ok → h.SameFlow h'

lemma FlowHandle.Inv.setError (hinv : h.Inv) (status : Status) (code : ℕ) :
    h.Step (h.setError status code).1 (h.setError status code).2 :=
  ⟨⟨hinv.sized, hinv.allSet, hinv.data, hinv.bidi, hinv.uni⟩, .refl h.limits,
    fun _ => ⟨rfl, rfl, rfl, rfl, rfl⟩⟩

lemma FlowHandle.Inv.recordData (hinv : h.Inv) (bytes : ℕ) :
    h.Step (sessionFlowRecordData h bytes).1 (sessionFlowRecordData h bytes).2 := by
  unfold sessionFlowRecordData
  split_ifs with hoff hmuch
  · exact hinv.setError _ _
  · exact hinv.setError _ _
  · have hon : h.flowEnabled = true := by simpa using hoff
    have hused := hinv.data hon
    have hlimit := hinv.sized.data
    rw [u64Sub_of_le hused hlimit] at hmuch
    have hsum : h.usedData + bytes ≤ h.limits.maxData := by omega
    refine ⟨⟨hinv.sized, hinv.allSet, fun _ => ?_, hinv.bidi, hinv.uni⟩, .refl h.limits,
      fun hne => absurd rfl hne⟩
    change u64Add h.usedData bytes ≤ h.limits.maxData
    rw [u64Add_of_lt (lt_of_le_of_lt hsum hlimit)]
    exact hsum

lemma FlowHandle.Inv.registerStream (hinv : h.Inv) (unidirectional : Bool) :
    h.Step (sessionFlowRegisterStream h unidirectional).1
      (sessionFlowRegisterStream h unidirectional).2 := by
  -- One stream more than were opened below the limit.
  have hone : ∀ {opened limit : ℕ}, ¬opened ≥ limit → limit ≤ webtransportMaxStreamsValue →
      u64Add opened 1 ≤ limit := by
    intro opened limit hless hceiling
    unfold webtransportMaxStreamsValue at hceiling
    rw [u64Add_of_lt (by omega)]
    omega
  unfold sessionFlowRegisterStream
  by_cases hoff : h.flowEnabled = false
  · rw [if_pos hoff]
    exact hinv.setError _ _
  rw [if_neg hoff]
  have hon : h.flowEnabled = true := by simpa using hoff
  obtain ⟨-, hbidi, huni⟩ := hinv.allSet hon
  cases unidirectional with
  | false =>
    simp only [Bool.false_eq_true, if_false]
    split_ifs with hfull
    · exact hinv.setError _ _
    · exact ⟨⟨hinv.sized, hinv.allSet, hinv.data,
        fun _ => hone (fun hge => hfull ⟨hbidi, hge⟩) hinv.sized.bidi, hinv.uni⟩,
        .refl h.limits, fun hne => absurd rfl hne⟩
  | true =>
    simp only [if_true]
    split_ifs with hfull
    · exact hinv.setError _ _
    · exact ⟨⟨hinv.sized, hinv.allSet, hinv.data, hinv.bidi,
        fun _ => hone (fun hge => hfull ⟨huni, hge⟩) hinv.sized.uni⟩,
        .refl h.limits, fun hne => absurd rfl hne⟩

lemma FlowHandle.Inv.onCapsule (hinv : h.Inv) (bytes : List UInt8) :
    h.Step (sessionFlowOnCapsule h bytes).1 (sessionFlowOnCapsule h bytes).2 := by
  obtain ⟨henabled, hmoved⟩ := moved_sessionOnCapsule hinv.sized bytes
  have hraised := hmoved.raised
  refine ⟨⟨hmoved.sized, fun hon => ?_, fun hon => ?_, fun hon => ?_, fun hon => ?_⟩, hraised,
    fun hne => ⟨hmoved.refused hne, henabled, rfl, rfl, rfl⟩⟩
  all_goals have hwas : h.flowEnabled = true := henabled.symm.trans hon
  · obtain ⟨hdata, hbidi, huni⟩ := hinv.allSet hwas
    exact ⟨hraised.dataSet hdata, hraised.bidiSet hbidi, hraised.uniSet huni⟩
  · exact (hinv.data hwas).trans hraised.data
  · exact (hinv.bidi hwas).trans hraised.bidi
  · exact (hinv.uni hwas).trans hraised.uni

/-- A configuration that was accepted, or that switches flow control off. -/
lemma FlowHandle.Inv.configure (hinv : h.Inv) {enabled : Bool} {data bidi uni : ℕ}
    (hdata : data < 2 ^ 64)
    (hwithin : enabled = true → bidi ≤ webtransportMaxStreamsValue ∧
      uni ≤ webtransportMaxStreamsValue) :
    (sessionFlowConfigure h enabled data bidi uni).1.Inv ∧
      (sessionFlowConfigure h enabled data bidi uni).2 = .ok := by
  cases enabled with
  | false => exact ⟨⟨sized_flowLimitsInit, nofun, nofun, nofun, nofun⟩, rfl⟩
  | true =>
    obtain ⟨hbidi, huni⟩ := hwithin rfl
    rw [sessionFlowConfigure_within h hbidi huni]
    exact ⟨⟨⟨hdata, hbidi, huni, nofun, nofun, nofun⟩, fun _ => ⟨rfl, rfl, rfl⟩,
      fun _ => Nat.zero_le data, fun _ => Nat.zero_le bidi, fun _ => Nat.zero_le uni⟩, rfl⟩

lemma FlowHandle.Inv.run (hinv : h.Inv) {call : FlowCall} (hwithin : call.WithinCeiling) :
    (call.run h).1.Inv ∧ call.Clean h (call.run h).1 (call.run h).2 := by
  have hstep : ∀ {h' : FlowHandle} {status : Status}, h.Step h' status →
      h'.Inv ∧ call.Clean h h' status :=
    fun hs => ⟨hs.inv, hs.inv.kept, fun _ => hs.raised, hs.refused⟩
  cases call with
  | configure enabled data bidi uni =>
    obtain ⟨hafter, hok⟩ := hinv.configure data.toNat_lt hwithin
    exact ⟨hafter, hafter.kept, nofun, fun hne => absurd hok hne⟩
  | onCapsule bytes => exact hstep (hinv.onCapsule bytes)
  | recordData bytes => exact hstep (hinv.recordData bytes.toNat)
  | registerStream unidirectional => exact hstep (hinv.registerStream unidirectional)

/-- A call that is clean stays within the ceiling. -/
lemma FlowCall.Clean.withinCeiling {call : FlowCall}
    (hclean : call.Clean h (call.run h).1 (call.run h).2) : call.WithinCeiling := by
  cases call with
  | configure enabled data bidi uni =>
    rintro rfl
    by_contra hover
    obtain ⟨hon, hunset⟩ := sessionFlowConfigure_over h data.toNat hover
    have hset := (hclean.kept.allSet hon).2.2
    rw [FlowCall.run, hunset] at hset
    cases hset
  | onCapsule bytes => trivial
  | recordData bytes => trivial
  | registerStream unidirectional => trivial

/-- The calls of a run are clean exactly when they stay within the ceiling. -/
lemma flowRunClean_of_inv (hinv : h.Inv) (calls : List FlowCall) :
    FlowRunClean h calls ↔ ∀ call ∈ calls, call.WithinCeiling := by
  induction calls generalizing h with
  | nil => simp [FlowRunClean]
  | cons call calls ih =>
    rw [FlowRunClean, List.forall_mem_cons]
    constructor
    · rintro ⟨hclean, hrest⟩
      have hwithin := hclean.withinCeiling
      exact ⟨hwithin, (ih (hinv.run hwithin).1).mp hrest⟩
    · rintro ⟨hwithin, hrest⟩
      obtain ⟨hafter, hclean⟩ := hinv.run hwithin
      exact ⟨hclean, (ih hafter).mpr hrest⟩

/-- **Flow control is kept, but for configurations over the ceiling.** One that asks for more
streams than there can be is refused and leaves flow control on without that limit. -/
theorem flowRunClean_iff (machine : WebtransportSession) (maxCapsuleBytes : ℕ)
    (calls : List FlowCall) :
    FlowRunClean (flowHandleCreate machine maxCapsuleBytes) calls ↔
      ∀ call ∈ calls, call.WithinCeiling :=
  flowRunClean_of_inv (inv_flowHandleCreate machine maxCapsuleBytes) calls

/-- A configuration with one more stream than the ceiling allows is refused, and then any number of
streams may be opened. -/
theorem configure_overCeiling :
    (sessionFlowConfigure (flowHandleCreate webtransportSessionInit 64) true 0
        (2 ^ 60 + 1) 0).2 = .protocol ∧
      sessionFlowStreamAllowance (sessionFlowConfigure
        (flowHandleCreate webtransportSessionInit 64) true 0 (2 ^ 60 + 1) 0).1 false =
          flowUnlimited ∧
      ¬FlowRunClean (flowHandleCreate webtransportSessionInit 64)
        [.configure true 0 (UInt64.ofNat (2 ^ 60 + 1)) 0] := by
  refine ⟨by decide, by decide, fun hclean => ?_⟩
  have hunset := (hclean.1.kept.allSet (by decide)).2.1
  revert hunset
  decide

end Runs

end WebTransport
