import WebTransport.Session.CapsuleCuts
import WebTransport.Session.Handle

/-!
# The two entry points for capsules

The handle takes one capsule out of a buffer, the walk takes them all. On one capsule the two agree;
on a longer buffer they agree only as long as what follows the first capsule does nothing, for the
handle never looks at it.
-/

namespace WebTransport

/-! ## One capsule -/

section OneCapsule

variable {h : SessionHandle} {s s' : WebtransportSession} {k k' : FlowAccount}
  {bytes ahead : List UInt8} {capsule : Capsule} {reply : CapsuleReply}

/-- A capsule that counts streams. -/
def CountsStreams (capsule : Capsule) : Prop :=
  capsule.type = capsuleMaxStreamsBidi ∨ capsule.type = capsuleMaxStreamsUni ∨
    capsule.type = capsuleStreamsBlockedBidi ∨ capsule.type = capsuleStreamsBlockedUni

lemma overCeiling_error {reply : CapsuleReply} (h : CountsStreams capsule)
    (hparse : capsuleParseStreamCount capsule = .error reply) :
    overCeiling capsule = decide (reply.2 = webtransportFlowControlError) := by
  unfold CountsStreams at h
  rw [overCeiling, if_pos h, hparse]

lemma overCeiling_ok {count : ℕ} (h : CountsStreams capsule)
    (hparse : capsuleParseStreamCount capsule = .ok count) : overCeiling capsule = false := by
  unfold CountsStreams at h
  rw [overCeiling, if_pos h, hparse]

/-- What the handle does with the first capsule is what a turn of the walk does with it alone. -/
lemma sessionOnCapsule_read (hopen : h.machine.state ≠ .closed)
    (hread : webtransportCapsuleDecode h.maxCapsuleBytes bytes = .ok (capsule, ahead)) :
    (sessionOnCapsule h bytes).1.machine =
        (capsuleTurn (some flowObserver) h.machine h.account capsule []).1.1 ∧
      (sessionOnCapsule h bytes).2 =
        (capsuleTurn (some flowObserver) h.machine h.account capsule []).2.1 ∧
      ((sessionOnCapsule h bytes).2 ≠ .ok → (sessionOnCapsule h bytes).1.errorCode =
        (capsuleTurn (some flowObserver) h.machine h.account capsule []).2.2) := by
  rw [sessionOnCapsule, if_neg fun hgate => hopen hgate.1, hread]
  dsimp only
  by_cases hprohibited : capsule.type = capsuleMaxStreamData ∨
      capsule.type = capsuleStreamDataBlocked
  · rw [if_pos hprohibited]
    have hdrain : capsule.type ≠ capsuleDrainSession := by
      rcases hprohibited with htype | htype <;> rw [htype] <;> decide
    have hclose : capsule.type ≠ capsuleCloseWebtransportSession := by
      rcases hprohibited with htype | htype <;> rw [htype] <;> decide
    have hceiling : overCeiling capsule = false := by
      unfold overCeiling
      rw [if_neg]
      rcases hprohibited with htype | htype <;> rw [htype] <;> decide
    rw [capsuleTurn, if_neg hdrain, if_neg hclose]
    simp [flowObserver, flowRule, hprohibited, hceiling, sessionSetError]
  rw [if_neg hprohibited]
  by_cases hdrain : capsule.type = capsuleDrainSession
  · rw [if_pos hdrain, capsuleTurn, if_pos hdrain]
    by_cases hvalue : capsule.value = []
    · simp [hvalue, sessionSetError, webtransportSessionOnDrain, hopen]
    · simp [hvalue, sessionSetError, CapsuleReply.malformed]
  rw [if_neg hdrain, capsuleTurn, if_neg hdrain]
  by_cases hclose : capsule.type = capsuleCloseWebtransportSession
  · rw [if_pos hclose, if_pos hclose]
    cases hparse : webtransportCloseSessionParse capsule with
    | error reply => simp [sessionSetError]
    | ok r => simp [sessionSetError, webtransportSessionOnClose]
  rw [if_neg hclose, if_neg hclose]
  unfold flowObserver flowRule
  rw [if_neg hprohibited]
  by_cases hdata : capsule.type = capsuleMaxData
  · have hceiling : overCeiling capsule = false := by
      unfold overCeiling
      rw [if_neg]
      rw [hdata]
      decide
    rw [if_pos hdata, if_pos hdata, hceiling]
    cases hparse : webtransportMaxDataParse capsule with
    | error reply => simp [sessionSetError]
    | ok maximum =>
      rcases henabled : h.flowEnabled
      · simp [SessionHandle.account, henabled, sessionSetError, CapsuleReply.good]
      · simp [SessionHandle.account, henabled, sessionTakeLimits, sessionSetError]
  rw [if_neg hdata, if_neg hdata]
  by_cases hstreams : capsule.type = capsuleMaxStreamsBidi ∨ capsule.type = capsuleMaxStreamsUni
  · have hcount : webtransportMaxStreamsParse capsule = capsuleParseStreamCount capsule :=
      if_pos hstreams
    have htype : CountsStreams capsule :=
      hstreams.elim .inl fun htype => .inr (.inl htype)
    rw [if_pos hstreams, if_pos hstreams, hcount]
    cases hparse : capsuleParseStreamCount capsule with
    | error reply =>
      rw [overCeiling_error htype hparse]
      by_cases hcode : reply.2 = webtransportFlowControlError
      · simp [sessionRefuseCount, sessionCloseForFlowError, sessionSetError, hcode]
      · simp [sessionRefuseCount, sessionSetError, hcode]
    | ok maximum =>
      rw [overCeiling_ok htype hparse]
      rcases henabled : h.flowEnabled
      · simp [SessionHandle.account, henabled, sessionSetError, CapsuleReply.good]
      · simp [SessionHandle.account, henabled, sessionTakeLimits, sessionSetError]
  rw [if_neg hstreams, if_neg hstreams]
  by_cases hblocked : capsule.type = capsuleStreamsBlockedBidi ∨
      capsule.type = capsuleStreamsBlockedUni
  · have hcount : webtransportStreamsBlockedParse capsule = capsuleParseStreamCount capsule :=
      if_pos hblocked
    rw [if_pos hblocked, if_pos hblocked, hcount]
    cases hparse : capsuleParseStreamCount capsule with
    | error reply =>
      rw [overCeiling_error (.inr (.inr hblocked)) hparse]
      by_cases hcode : reply.2 = webtransportFlowControlError
      · simp [sessionRefuseCount, sessionCloseForFlowError, sessionSetError, hcode]
      · simp [sessionRefuseCount, sessionSetError, hcode]
    | ok maximum =>
      rw [overCeiling_ok (.inr (.inr hblocked)) hparse]
      simp [sessionSetError, CapsuleReply.good]
  · have hceiling : overCeiling capsule = false :=
      if_neg fun h => h.elim (fun h => hstreams (.inl h))
        fun h => h.elim (fun h => hstreams (.inr h)) hblocked
    rw [if_neg hblocked, if_neg hblocked, hceiling]
    simp [sessionSetError, CapsuleReply.good]

lemma flowRule_overCeiling (hceiling : overCeiling capsule = true) :
    (flowRule k capsule).2.1 ≠ .ok := by
  unfold overCeiling at hceiling
  split_ifs at hceiling with htype
  cases hparse : capsuleParseStreamCount capsule with
  | ok maximum =>
    rw [hparse] at hceiling
    cases hceiling
  | error reply =>
    have hrefused := (capsuleParseStreamCount_error hparse).1
    rcases htype with htype | htype | htype | htype <;>
      simpa [flowRule, webtransportMaxStreamsParse, webtransportStreamsBlockedParse, htype, hparse,
        capsuleMaxStreamData, capsuleStreamDataBlocked, capsuleMaxData, capsuleMaxStreamsBidi,
        capsuleMaxStreamsUni, capsuleStreamsBlockedBidi, capsuleStreamsBlockedUni] using hrefused

lemma movesSession_flowObserver : MovesSession (some flowObserver) := by
  intro f hf s k capsule hopen
  cases hf
  unfold flowObserver
  by_cases hceiling : overCeiling capsule = true
  · rw [if_pos hceiling]
    exact ⟨.single (.close true _ hopen), fun hok => absurd hok (flowRule_overCeiling hceiling)⟩
  · rw [if_neg hceiling]
    exact ⟨.refl, fun _ => hopen⟩

/-- The capsules that the rules of the session and of flow control accept. -/
structure Acceptable (k : FlowAccount) (capsule : Capsule) : Prop where
  drain : capsule.type = capsuleDrainSession → capsule.value = []
  close : capsule.type = capsuleCloseWebtransportSession →
    ∃ r, webtransportCloseSessionParse capsule = .ok r
  flow : (flowRule k capsule).2.1 = .ok

/-- Drains and closes are nothing to the rules of flow control. -/
lemma flowRule_own (htype : capsule.type = capsuleDrainSession ∨
    capsule.type = capsuleCloseWebtransportSession) :
    flowRule k capsule = (k, CapsuleReply.good) := by
  rcases htype with htype | htype <;>
    simp [flowRule, htype, capsuleDrainSession, capsuleCloseWebtransportSession,
      capsuleMaxStreamData, capsuleStreamDataBlocked, capsuleMaxData, capsuleMaxStreamsBidi,
      capsuleMaxStreamsUni, capsuleStreamsBlockedBidi, capsuleStreamsBlockedUni]

lemma capsuleTurn_unacceptable (s : WebtransportSession) (ahead : List UInt8)
    (hrefused : ¬Acceptable k capsule) :
    (capsuleTurn (some flowObserver) s k capsule ahead).2.1 ≠ .ok := by
  intro hok
  apply hrefused
  unfold capsuleTurn at hok
  split_ifs at hok with hdrain hvalue hclose
  · cases hok
  · have hrule := flowRule_own (k := k) (.inl hdrain)
    refine ⟨fun _ => not_not.mp hvalue, fun hclose => ?_, by rw [hrule]; rfl⟩
    rw [hdrain] at hclose
    cases hclose
  · have hrule := flowRule_own (k := k) (.inr hclose)
    refine ⟨fun htype => absurd htype hdrain, fun _ => ?_, by rw [hrule]; rfl⟩
    cases hparse : webtransportCloseSessionParse capsule with
    | error refusal =>
      rw [hparse] at hok
      exact absurd hok (webtransportCloseSessionParse_error hparse).1
    | ok r => exact ⟨r, rfl⟩
  · exact ⟨fun htype => absurd htype hdrain, fun htype => absurd htype hclose, hok⟩

lemma capsuleTurn_drain (hacceptable : Acceptable k capsule) (hopen : s.state ≠ .closed)
    (htype : capsule.type = capsuleDrainSession) :
    capsuleTurn (some flowObserver) s k capsule ahead =
      (((webtransportSessionOnDrain s false).1, k), CapsuleReply.good) := by
  have hstatus : (webtransportSessionOnDrain s false).2 = .ok := by
    rw [webtransportSessionOnDrain, if_neg hopen]
  rw [capsuleTurn, if_pos htype, if_neg (not_not.mpr (hacceptable.drain htype))]
  dsimp only
  rw [hstatus]
  rfl

lemma capsuleTurn_close (s : WebtransportSession) (ahead : List UInt8)
    (hacceptable : Acceptable k capsule)
    (htype : capsule.type = capsuleCloseWebtransportSession) :
    ∃ code, capsuleTurn (some flowObserver) s k capsule ahead =
      (((webtransportSessionOnClose s false code).1, k),
        if ahead ≠ [] then CapsuleReply.malformed else CapsuleReply.good) := by
  obtain ⟨⟨code, reason⟩, hparse⟩ := hacceptable.close htype
  have hdrain : capsule.type ≠ capsuleDrainSession := by
    rw [htype]
    decide
  refine ⟨code, ?_⟩
  rw [capsuleTurn, if_neg hdrain, if_pos htype, hparse]
  dsimp only
  by_cases hahead : ahead ≠ []
  · rw [if_pos hahead, if_pos ⟨rfl, hahead⟩]
  · rw [if_neg hahead, if_neg fun h => hahead h.2]
    rfl

lemma capsuleTurn_other (hacceptable : Acceptable k capsule)
    (hdrain : capsule.type ≠ capsuleDrainSession)
    (hclose : capsule.type ≠ capsuleCloseWebtransportSession) :
    capsuleTurn (some flowObserver) s k capsule ahead =
      ((s, (flowRule k capsule).1), (flowRule k capsule).2) := by
  have hceiling : ¬overCeiling capsule = true :=
    fun hceiling => flowRule_overCeiling hceiling hacceptable.flow
  rw [capsuleTurn, if_neg hdrain, if_neg hclose]
  change flowObserver s k capsule = _
  rw [flowObserver, if_neg hceiling]

end OneCapsule

/-! ## Whole buffers -/

/-- The bytes are these capsules, all of them complete. The bound is that of the buffer, which
refuses none. -/
inductive CompleteCapsules : List UInt8 → List Capsule → Prop
  | nil : CompleteCapsules [] []
  | cons {bytes ahead : List UInt8} {capsule : Capsule} {capsules : List Capsule} :
      webtransportCapsuleDecode bytes.length bytes = .ok (capsule, ahead) →
      CompleteCapsules ahead capsules → CompleteCapsules bytes (capsule :: capsules)

/-- The parts of two sessions that a caller can tell apart: the state, the close code and the
drains. -/
structure SameLifecycle (s s' : WebtransportSession) : Prop where
  state : s.state = s'.state
  closeErrorSet : s.closeErrorSet = s'.closeErrorSet
  closeErrorCode : s.closeErrorCode = s'.closeErrorCode
  drainSent : s.drainSent = s'.drainSent
  drainReceived : s.drainReceived = s'.drainReceived

/-- The two entry points do the same with a buffer: the sessions are the same, both accept or both
refuse, and a refusal names the same error. -/
structure EntryPointsAgree (h : SessionHandle) (bytes : List UInt8) : Prop where
  lifecycle : SameLifecycle (sessionOnCapsule h bytes).1.machine
    (webtransportSessionOnCapsuleBytes h.maxCapsuleBytes (some flowObserver) h.machine h.account
      bytes).session
  accepts : (sessionOnCapsule h bytes).2 = .ok ↔
    (webtransportSessionOnCapsuleBytes h.maxCapsuleBytes (some flowObserver) h.machine h.account
      bytes).reply.1 = .ok
  code : (sessionOnCapsule h bytes).2 ≠ .ok → (sessionOnCapsule h bytes).1.errorCode =
    (webtransportSessionOnCapsuleBytes h.maxCapsuleBytes (some flowObserver) h.machine h.account
      bytes).reply.2

/-- Capsules that are accepted one after another and leave the session as it is. A drain does so
only in a session that was drained before. -/
def QuietCapsules (maxCapsuleBytes : ℕ) (drained : Prop) : FlowAccount → List Capsule → Prop
  | _, [] => True
  | k, capsule :: capsules =>
    capsule.value.length ≤ maxCapsuleBytes ∧ Acceptable k capsule ∧
      capsule.type ≠ capsuleCloseWebtransportSession ∧
      (capsule.type = capsuleDrainSession → drained) ∧
      QuietCapsules maxCapsuleBytes drained (flowRule k capsule).1 capsules

section Buffers

variable {h : SessionHandle} {s : WebtransportSession} {k : FlowAccount}
  {bytes ahead : List UInt8} {capsule : Capsule} {capsules : List Capsule}
  {maxCapsuleBytes : ℕ}

lemma good_accepted : ¬CapsuleReply.good.1 ≠ .ok := not_not.mpr rfl

lemma SameLifecycle.symm {s s' : WebtransportSession} (h : SameLifecycle s s') :
    SameLifecycle s' s :=
  ⟨h.state.symm, h.closeErrorSet.symm, h.closeErrorCode.symm, h.drainSent.symm,
    h.drainReceived.symm⟩

lemma SameLifecycle.refl (s : WebtransportSession) : SameLifecycle s s := ⟨rfl, rfl, rfl, rfl, rfl⟩

lemma webtransportCapsuleDecode_bound {limit : ℕ} (maxCapsuleBytes : ℕ)
    (h : webtransportCapsuleDecode limit bytes = .ok (capsule, ahead)) :
    webtransportCapsuleDecode maxCapsuleBytes bytes =
      if maxCapsuleBytes < capsule.value.length then
        .error (.limit, Http3Error.excessiveLoad.code)
      else .ok (capsule, ahead) := by
  unfold webtransportCapsuleDecode at h ⊢
  cases htype : quicVarintDecode bytes with
  | error e =>
    rw [htype] at h
    cases h
  | ok r =>
    obtain ⟨type, c₁⟩ := r
    rw [htype] at h
    dsimp only at h ⊢
    cases hlength : quicVarintDecode c₁ with
    | error e =>
      rw [hlength] at h
      cases h
    | ok r =>
      obtain ⟨length, c₂⟩ := r
      rw [hlength] at h
      dsimp only at h ⊢
      split_ifs at h with hlimit hshort
      cases h
      rw [List.length_take_of_le (Nat.not_lt.mp hshort)]
      split_ifs
      · rfl
      · rfl

lemma webtransportCapsuleDecode_progress
    (h : webtransportCapsuleDecode maxCapsuleBytes bytes = .ok (capsule, ahead)) :
    ahead.length < bytes.length := by
  obtain ⟨p, hne, rfl, -⟩ :=
    (stable_webtransportCapsuleDecode maxCapsuleBytes).part (e := CapsuleReply.short) rfl h
  have hpos := List.length_pos_of_ne_nil hne
  rw [List.length_append]
  omega

lemma CompleteCapsules.ne_nil (hcomplete : CompleteCapsules bytes (capsule :: capsules)) :
    bytes ≠ [] := by
  cases hcomplete with
  | cons hread hrest =>
    rintro rfl
    exact absurd (webtransportCapsuleDecode_progress hread) (Nat.not_lt_zero _)

lemma CompleteCapsules.nil_iff (hcomplete : CompleteCapsules bytes capsules) :
    bytes = [] ↔ capsules = [] := by
  cases capsules with
  | nil =>
    cases hcomplete
    exact ⟨fun _ => rfl, fun _ => rfl⟩
  | cons capsule capsules => exact ⟨fun hnil => absurd hnil hcomplete.ne_nil, nofun⟩

lemma capsuleWalkWithin_nil (fuel : ℕ) :
    capsuleWalkWithin maxCapsuleBytes (some flowObserver) fuel s k [] =
      ⟨s, k, [], CapsuleReply.good⟩ := by
  cases fuel with
  | zero => rfl
  | succ fuel => rw [capsuleWalkWithin, if_pos rfl]

/-- One turn of the loop, where the capsule fits the bound. -/
lemma capsuleWalkWithin_turn (s : WebtransportSession) (k : FlowAccount) (fuel : ℕ)
    (hread : webtransportCapsuleDecode maxCapsuleBytes bytes = .ok (capsule, ahead)) :
    capsuleWalkWithin maxCapsuleBytes (some flowObserver) (fuel + 1) s k bytes =
      match capsuleTurn (some flowObserver) s k capsule ahead with
      | ((s', k'), reply) =>
        if reply.1 ≠ .ok then ⟨s', k', bytes, reply⟩
        else capsuleWalkWithin maxCapsuleBytes (some flowObserver) fuel s' k' ahead := by
  have hne : bytes ≠ [] := by
    rintro rfl
    exact absurd (webtransportCapsuleDecode_progress hread) (Nat.not_lt_zero _)
  rw [capsuleWalkWithin, if_neg hne, hread]

/-- A drain leaves a session as it is when the session was drained before. -/
lemma onDrain_same (hopen : s.state ≠ .closed)
    (hdrained : s.drainReceived = true ∧ s.state ≠ .established) :
    (webtransportSessionOnDrain s false).1 = s := by
  rw [webtransportSessionOnDrain, if_neg hopen, if_neg hdrained.2]
  cases s
  simp_all

/-- And it leaves a session that another one would not change. -/
lemma onDrain_drained (hopen : s.state ≠ .closed) :
    (webtransportSessionOnDrain s false).1.drainReceived = true ∧
      (webtransportSessionOnDrain s false).1.state ≠ .established := by
  rw [webtransportSessionOnDrain, if_neg hopen]
  refine ⟨by simp, ?_⟩
  dsimp only
  split_ifs with hstate
  · decide
  · exact hstate

/-- No other drain is ever undone. -/
lemma onDrain_lasts {s' : WebtransportSession} (hopen : s.state ≠ .closed)
    (hmoves : SessionMoves (webtransportSessionOnDrain s false).1 s') (hsame : SameLifecycle s' s) :
    s.drainReceived = true ∧ s.state ≠ .established := by
  rw [webtransportSessionOnDrain, if_neg hopen] at hmoves
  refine ⟨hsame.drainReceived.symm.trans (hmoves.drainReceived (by simp)), fun hstate => ?_⟩
  have hrank := hmoves.rank
  dsimp only at hrank
  rw [if_pos hstate, hsame.state, hstate] at hrank
  exact absurd hrank (by decide)

/-- Capsules are walked without a trace exactly when they are quiet. -/
lemma capsuleWalkWithin_quiet (hopen : s.state ≠ .closed)
    (hcomplete : CompleteCapsules bytes capsules) {fuel : ℕ} (hfuel : bytes.length < fuel) :
    ((capsuleWalkWithin maxCapsuleBytes (some flowObserver) fuel s k bytes).reply.1 = .ok ∧
      SameLifecycle
        (capsuleWalkWithin maxCapsuleBytes (some flowObserver) fuel s k bytes).session s) ↔
      QuietCapsules maxCapsuleBytes (s.drainReceived = true ∧ s.state ≠ .established) k
        capsules := by
  induction hcomplete generalizing k fuel with
  | nil =>
    cases fuel with
    | zero => omega
    | succ fuel =>
      rw [capsuleWalkWithin, if_pos rfl]
      exact ⟨fun _ => trivial, fun _ => ⟨rfl, .refl s⟩⟩
  | @cons bytes ahead capsule capsules hread hrest ih =>
    obtain ⟨fuel, rfl⟩ : ∃ n, fuel = n + 1 := ⟨fuel - 1, by omega⟩
    have hshorter := webtransportCapsuleDecode_progress hread
    rw [QuietCapsules]
    have hdecode := webtransportCapsuleDecode_bound maxCapsuleBytes hread
    by_cases hfits : maxCapsuleBytes < capsule.value.length
    · -- Both refuse a capsule over the bound.
      have hne : bytes ≠ [] := by
        rintro rfl
        exact absurd hshorter (Nat.not_lt_zero _)
      rw [if_pos hfits] at hdecode
      rw [capsuleWalkWithin, if_neg hne, hdecode]
      refine ⟨fun h => ?_, fun h => absurd h.1 (by omega)⟩
      cases h.1
    rw [if_neg hfits] at hdecode
    rw [capsuleWalkWithin_turn _ _ _ hdecode]
    by_cases hacceptable : Acceptable k capsule
    · by_cases hclose : capsule.type = capsuleCloseWebtransportSession
      · obtain ⟨code, hturn⟩ := capsuleTurn_close s ahead hacceptable hclose
        refine ⟨fun h => ?_, fun h => absurd hclose h.2.2.1⟩
        rw [hturn] at h
        by_cases hahead : ahead = []
        · rw [if_neg (not_not.mpr hahead), hahead] at h
          dsimp only at h
          rw [if_neg good_accepted, capsuleWalkWithin_nil] at h
          exact absurd h.2.state.symm hopen
        · rw [if_pos hahead] at h
          cases h.1
      · by_cases hdrain : capsule.type = capsuleDrainSession
        · rw [capsuleTurn_drain hacceptable hopen hdrain, flowRule_own (.inl hdrain)]
          dsimp only
          rw [if_neg good_accepted]
          constructor
          · rintro ⟨hok, hsame⟩
            have hdrained := onDrain_lasts hopen
              (moves_capsuleWalkWithin movesSession_flowObserver
                fun _ => onDrain_open false hopen) hsame
            rw [onDrain_same hopen hdrained] at hok hsame
            exact ⟨Nat.not_lt.mp hfits, hacceptable, hclose, fun _ => hdrained,
              (ih (by omega)).mp ⟨hok, hsame⟩⟩
          · rintro ⟨-, -, -, hdrained, hquiet⟩
            rw [onDrain_same hopen (hdrained hdrain)]
            exact (ih (by omega)).mpr hquiet
        · rw [capsuleTurn_other hacceptable hdrain hclose]
          dsimp only
          rw [if_neg (not_not.mpr hacceptable.flow), ih (by omega)]
          exact ⟨fun hquiet => ⟨Nat.not_lt.mp hfits, hacceptable, hclose,
              fun htype => absurd htype hdrain, hquiet⟩,
            fun hquiet => hquiet.2.2.2.2⟩
    · have hrefused := capsuleTurn_unacceptable s ahead hacceptable
      rcases hturn : capsuleTurn (some flowObserver) s k capsule ahead with ⟨⟨s', k'⟩, reply⟩
      rw [hturn] at hrefused
      dsimp only
      rw [if_pos hrefused]
      exact ⟨fun h => absurd h.1 hrefused, fun h => absurd h.2.1 hacceptable⟩

/-- A refused first capsule, an accepted one with nothing after it, or one that what follows does
nothing to. -/
def AgreesOn (h : SessionHandle) (capsule : Capsule) (capsules : List Capsule) : Prop :=
  h.machine.state = .closed ∨ capsules = [] ∨
    ¬(capsule.value.length ≤ h.maxCapsuleBytes ∧ Acceptable h.account capsule) ∨
    capsule.type ≠ capsuleCloseWebtransportSession ∧
      QuietCapsules h.maxCapsuleBytes
        (capsule.type = capsuleDrainSession ∨
          h.machine.drainReceived = true ∧ h.machine.state ≠ .established)
        (flowRule h.account capsule).1 capsules

/-- Where the handle accepts, the walk must accept as well and leave the same session. -/
lemma agree_iff_of_accepted (hok : (sessionOnCapsule h bytes).2 = .ok) :
    EntryPointsAgree h bytes ↔
      (webtransportSessionOnCapsuleBytes h.maxCapsuleBytes (some flowObserver) h.machine h.account
        bytes).reply.1 = .ok ∧
      SameLifecycle
        (webtransportSessionOnCapsuleBytes h.maxCapsuleBytes (some flowObserver) h.machine
          h.account bytes).session
        (sessionOnCapsule h bytes).1.machine :=
  ⟨fun hagree => ⟨hagree.accepts.mp hok, hagree.lifecycle.symm⟩,
    fun ⟨hwalk, hsame⟩ => ⟨hsame.symm, ⟨fun _ => hwalk, fun _ => hok⟩, fun hno => absurd hok hno⟩⟩

lemma onCapsuleBytes_open (hopen : h.machine.state ≠ .closed) :
    webtransportSessionOnCapsuleBytes h.maxCapsuleBytes (some flowObserver) h.machine h.account
        bytes =
      capsuleWalkWithin h.maxCapsuleBytes (some flowObserver) (bytes.length + 1) h.machine
        h.account bytes :=
  if_neg fun hgate => hopen hgate.1

lemma agree_closed (hclosed : h.machine.state = .closed) (hne : bytes ≠ []) :
    EntryPointsAgree h bytes := by
  have hapi : sessionOnCapsule h bytes =
      sessionSetError h .protocol Http3Error.messageError.code :=
    if_pos ⟨hclosed, fun hlength => hne (List.eq_nil_of_length_eq_zero hlength)⟩
  have hwalk : webtransportSessionOnCapsuleBytes h.maxCapsuleBytes (some flowObserver) h.machine
      h.account bytes = ⟨h.machine, h.account, bytes, CapsuleReply.malformed⟩ :=
    if_pos ⟨hclosed, hne⟩
  refine ⟨?_, ?_, fun _ => ?_⟩
  · rw [hapi, hwalk]
    exact .refl _
  · rw [hapi, hwalk]
    exact ⟨nofun, nofun⟩
  · rw [hapi, hwalk]
    rfl

lemma agree_overBound (hopen : h.machine.state ≠ .closed) (hne : bytes ≠ []) {reply : CapsuleReply}
    (hread : webtransportCapsuleDecode h.maxCapsuleBytes bytes = .error reply)
    (hrefused : reply.1 ≠ .ok) : EntryPointsAgree h bytes := by
  have hapi : sessionOnCapsule h bytes = sessionSetError h reply.1 reply.2 := by
    rw [sessionOnCapsule, if_neg fun hgate => hopen hgate.1, hread]
  have hwalk : webtransportSessionOnCapsuleBytes h.maxCapsuleBytes (some flowObserver) h.machine
      h.account bytes = ⟨h.machine, h.account, bytes, reply⟩ := by
    rw [onCapsuleBytes_open hopen, capsuleWalkWithin, if_neg hne, hread]
  refine ⟨?_, ?_, fun _ => ?_⟩
  · rw [hapi, hwalk]
    exact .refl _
  · rw [hapi, hwalk]
    exact ⟨fun hok => absurd hok hrefused, fun hok => absurd hok hrefused⟩
  · rw [hapi, hwalk]
    rfl

/-- Both refuse alike what a turn of the walk refuses. -/
lemma agree_refused (hopen : h.machine.state ≠ .closed)
    (hread : webtransportCapsuleDecode h.maxCapsuleBytes bytes = .ok (capsule, ahead))
    (hsame : capsuleTurn (some flowObserver) h.machine h.account capsule ahead =
      capsuleTurn (some flowObserver) h.machine h.account capsule [])
    (hrefused : (capsuleTurn (some flowObserver) h.machine h.account capsule []).2.1 ≠ .ok) :
    EntryPointsAgree h bytes := by
  obtain ⟨hmachine, hstatus, hcode⟩ := sessionOnCapsule_read hopen hread
  have hwalk := capsuleWalkWithin_turn h.machine h.account bytes.length hread
  rw [← onCapsuleBytes_open hopen, hsame] at hwalk
  rcases hturn : capsuleTurn (some flowObserver) h.machine h.account capsule [] with
    ⟨⟨s', k'⟩, reply⟩
  rw [hturn] at hmachine hstatus hcode hwalk hrefused
  dsimp only at hmachine hstatus hcode hwalk hrefused
  rw [if_pos hrefused] at hwalk
  refine ⟨?_, ?_, fun hno => ?_⟩
  · rw [hwalk, hmachine]
    exact .refl _
  · rw [hwalk, hstatus]
  · rw [hwalk, hcode hno]

lemma agree_single (hopen : h.machine.state ≠ .closed)
    (hread : webtransportCapsuleDecode h.maxCapsuleBytes bytes = .ok (capsule, [])) :
    EntryPointsAgree h bytes := by
  by_cases hok : (capsuleTurn (some flowObserver) h.machine h.account capsule []).2.1 = .ok
  · obtain ⟨hmachine, hstatus, -⟩ := sessionOnCapsule_read hopen hread
    have hwalk := capsuleWalkWithin_turn h.machine h.account bytes.length hread
    rw [agree_iff_of_accepted (hstatus.trans hok), onCapsuleBytes_open hopen, hwalk, hmachine]
    rcases hturn : capsuleTurn (some flowObserver) h.machine h.account capsule [] with
      ⟨⟨s', k'⟩, reply⟩
    rw [hturn] at hok
    dsimp only at hok ⊢
    rw [if_neg (not_not.mpr hok), capsuleWalkWithin_nil]
    exact ⟨rfl, .refl _⟩
  · exact agree_refused hopen hread rfl hok

/-- **The two entry points.** They agree about a buffer of complete capsules exactly when the
session is closed, there is one capsule only, the first one is refused, or all that follow the
first are quiet. -/
theorem entryPointsAgree_iff (h : SessionHandle) {bytes : List UInt8} {capsule : Capsule}
    {capsules : List Capsule} (hcomplete : CompleteCapsules bytes (capsule :: capsules)) :
    EntryPointsAgree h bytes ↔ AgreesOn h capsule capsules := by
  have hne := hcomplete.ne_nil
  by_cases hclosed : h.machine.state = .closed
  · exact ⟨fun _ => .inl hclosed, fun _ => agree_closed hclosed hne⟩
  cases hcomplete with
  | @cons _ ahead _ _ hread hrest =>
    have hdecode := webtransportCapsuleDecode_bound h.maxCapsuleBytes hread
    by_cases hfits : h.maxCapsuleBytes < capsule.value.length
    · rw [if_pos hfits] at hdecode
      exact ⟨fun _ => .inr (.inr (.inl fun hboth => absurd hboth.1 (by omega))),
        fun _ => agree_overBound hclosed hne hdecode nofun⟩
    rw [if_neg hfits] at hdecode
    by_cases hlast : capsules = []
    · obtain rfl := hrest.nil_iff.mpr hlast
      exact ⟨fun _ => .inr (.inl hlast), fun _ => agree_single hclosed hdecode⟩
    have hahead : ahead ≠ [] := fun hnil => hlast (hrest.nil_iff.mp hnil)
    by_cases hacceptable : Acceptable h.account capsule
    · obtain ⟨hmachine, hstatus, -⟩ := sessionOnCapsule_read hclosed hdecode
      have hwalk := capsuleWalkWithin_turn h.machine h.account bytes.length hdecode
      rw [← onCapsuleBytes_open hclosed] at hwalk
      have hshorter := webtransportCapsuleDecode_progress hread
      -- What is left of the condition.
      have hcondition : ∀ {drained : Prop},
          (h.machine.drainReceived = true ∧ h.machine.state ≠ .established ∨
            capsule.type = capsuleDrainSession ↔ drained) →
          (AgreesOn h capsule capsules ↔ capsule.type ≠ capsuleCloseWebtransportSession ∧
            QuietCapsules h.maxCapsuleBytes drained (flowRule h.account capsule).1 capsules) := by
        intro drained hdrained
        rw [AgreesOn, or_iff_right hclosed, or_iff_right hlast,
          or_iff_right (not_not.mpr ⟨Nat.not_lt.mp hfits, hacceptable⟩), or_comm, propext hdrained]
      by_cases hclose : capsule.type = capsuleCloseWebtransportSession
      · -- The handle does not see the bytes after the close.
        have hnot : ¬AgreesOn h capsule capsules :=
          fun hagree => ((hcondition Iff.rfl).mp hagree).1 hclose
        obtain ⟨code, hturn⟩ :=
          capsuleTurn_close h.machine ahead hacceptable hclose
        obtain ⟨code', halone⟩ :=
          capsuleTurn_close h.machine [] hacceptable hclose
        rw [if_pos hahead] at hturn
        rw [hturn] at hwalk
        dsimp only at hwalk
        rw [if_pos nofun] at hwalk
        rw [halone, if_neg (not_not.mpr rfl)] at hstatus
        rw [agree_iff_of_accepted hstatus, hwalk]
        exact ⟨nofun, fun hagree => absurd hagree hnot⟩
      · by_cases hdrain : capsule.type = capsuleDrainSession
        · rw [capsuleTurn_drain hacceptable hclosed hdrain] at hwalk hmachine hstatus
          dsimp only at hwalk hmachine hstatus
          rw [if_neg good_accepted] at hwalk
          have hdrained := onDrain_drained hclosed
          rw [agree_iff_of_accepted hstatus, hwalk, hmachine,
            capsuleWalkWithin_quiet (onDrain_open false hclosed) hrest hshorter,
            hcondition (iff_of_true (.inr hdrain) hdrained), and_iff_right hclose,
            flowRule_own (.inl hdrain)]
        · rw [capsuleTurn_other hacceptable hdrain hclose] at hwalk hmachine hstatus
          dsimp only at hwalk hmachine hstatus
          rw [if_neg (not_not.mpr hacceptable.flow)] at hwalk
          rw [agree_iff_of_accepted (hstatus.trans hacceptable.flow), hwalk, hmachine,
            capsuleWalkWithin_quiet hclosed hrest hshorter,
            hcondition (or_iff_left hdrain), and_iff_right hclose]
    · -- A refused capsule is refused alike, whatever comes after it.
      have hrefused :=
        capsuleTurn_unacceptable h.machine [] hacceptable
      refine ⟨fun _ => .inr (.inr (.inl fun hboth => hacceptable hboth.2)), fun _ => ?_⟩
      rcases capsuleTurn_ahead (some flowObserver) h.machine h.account capsule hahead with
        hsame | ⟨p, -, hgood, -⟩
      · exact agree_refused hclosed hdecode hsame hrefused
      · rw [hgood] at hrefused
        exact absurd rfl hrefused

/-- A handle of an established session without flow control. -/
def plainHandle : SessionHandle :=
  ⟨(webtransportSessionEstablished webtransportSessionInit).1, .ok, 0, 64,
    webtransportFlowLimitsInit, false⟩

/-- A single drain. -/
theorem drain_agree :
    EntryPointsAgree plainHandle [0x80, 0x00, 0x78, 0xae, 0x00] ↔
      AgreesOn plainHandle ⟨capsuleDrainSession, []⟩ [] :=
  entryPointsAgree_iff plainHandle (.cons (by decide) .nil)

/-- A close with a drain behind it: the handle accepts it, the walk refuses it. -/
theorem closeThenDrain_disagree :
    ¬EntryPointsAgree plainHandle
      [0x68, 0x43, 0x04, 0, 0, 0, 7, 0x80, 0x00, 0x78, 0xae, 0x00] := by
  intro h
  have hwalk := h.accepts.mp (by decide)
  revert hwalk
  decide

end Buffers

end WebTransport
