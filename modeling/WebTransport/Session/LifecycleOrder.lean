import WebTransport.Session.Lifecycle

/-!
# The order of a session's life

Every call takes a session through moves that lead forward, and leaves a closed session alone. Two
calls do more: a session that was drained before its response is established all the same, and a
close is recorded on a session that its stream has ended already.
-/

namespace WebTransport

/-- The place of a state in the order of a session's life. -/
def SessionState.rank : SessionState → ℕ
  | .establishing => 0
  | .established => 1
  | .draining => 2
  | .closed => 3

namespace WebtransportSession

/-- Whether a drain was sent or received. -/
def Drained (s : WebtransportSession) : Prop := s.drainSent = true ∨ s.drainReceived = true

/-- What the state says about the history of a session: whether it was established, and whether it
was drained. -/
structure Told (s : WebtransportSession) (wasEstablished : Prop) : Prop where
  establishing : s.state = .establishing → ¬wasEstablished
  established : s.state = .established → wasEstablished ∧ ¬s.Drained
  draining : s.state = .draining → s.Drained

end WebtransportSession

/-! ## Moves -/

/-- What happens to a session that is not closed: a drain, a close or the end of its stream. -/
inductive SessionMove : WebtransportSession → WebtransportSession → Prop
  | drain {s : WebtransportSession} (sent : Bool) :
      s.state ≠ .closed → SessionMove s (webtransportSessionOnDrain s sent).1
  | close {s : WebtransportSession} (sent : Bool) (errorCode : ℕ) :
      s.state ≠ .closed → SessionMove s (webtransportSessionOnClose s sent errorCode).1
  | streamEnd {s : WebtransportSession} :
      s.state ≠ .closed → SessionMove s (webtransportSessionOnStreamEnd s).1

/-- Some moves, one after another. -/
abbrev SessionMoves := Relation.ReflTransGen SessionMove

section Moves

variable {s s' : WebtransportSession} {wasEstablished : Prop}

lemma SessionMove.open (h : SessionMove s s') : s.state ≠ .closed := by
  cases h with
  | drain sent hopen => exact hopen
  | close sent errorCode hopen => exact hopen
  | streamEnd hopen => exact hopen

lemma SessionMove.rank (h : SessionMove s s') : s.state.rank ≤ s'.state.rank := by
  cases h with
  | drain sent hopen =>
    rw [webtransportSessionOnDrain, if_neg hopen]
    rcases hstate : s.state <;> simp [SessionState.rank]
  | close sent errorCode hopen =>
    rcases hstate : s.state <;> simp [webtransportSessionOnClose, SessionState.rank]
  | streamEnd hopen =>
    rw [webtransportSessionOnStreamEnd, if_neg hopen]
    rcases hstate : s.state <;> simp [SessionState.rank]

lemma SessionMove.told (h : SessionMove s s') (htold : s.Told wasEstablished) :
    s'.Told wasEstablished := by
  cases h with
  | drain sent hopen =>
    rw [webtransportSessionOnDrain, if_neg hopen]
    have hdrained : (s.drainSent || sent) = true ∨ (s.drainReceived || !sent) = true := by
      cases sent <;> simp
    by_cases hstate : s.state = .established
    · rw [if_pos hstate]
      exact ⟨nofun, nofun, fun _ => hdrained⟩
    · rw [if_neg hstate]
      exact ⟨htold.establishing, fun h => absurd h hstate, fun _ => hdrained⟩
  | close sent errorCode hopen => exact ⟨nofun, nofun, nofun⟩
  | streamEnd hopen =>
    rw [webtransportSessionOnStreamEnd, if_neg hopen]
    exact ⟨nofun, nofun, nofun⟩

lemma SessionMoves.rank (h : SessionMoves s s') : s.state.rank ≤ s'.state.rank := by
  induction h with
  | refl => exact le_rfl
  | tail hmoves hmove ih => exact ih.trans hmove.rank

lemma SessionMoves.drainReceived (h : SessionMoves s s') (hdrain : s.drainReceived = true) :
    s'.drainReceived = true := by
  induction h with
  | refl => exact hdrain
  | tail hmoves hmove ih =>
    cases hmove with
    | drain sent hopen =>
      rw [webtransportSessionOnDrain, if_neg hopen]
      exact Bool.or_eq_true_iff.mpr (.inl ih)
    | close sent errorCode hopen => exact ih
    | streamEnd hopen =>
      rw [webtransportSessionOnStreamEnd, if_neg hopen]
      exact ih

lemma SessionMoves.told (h : SessionMoves s s') (htold : s.Told wasEstablished) :
    s'.Told wasEstablished := by
  induction h with
  | refl => exact htold
  | tail hmoves hmove ih => exact hmove.told ih

lemma SessionMoves.closed (h : SessionMoves s s') (hclosed : s.state = .closed) : s' = s := by
  rcases h.cases_head with heq | ⟨next, hmove, -⟩
  · exact heq.symm
  · exact absurd hclosed hmove.open

lemma onDrain_open (sent : Bool) (hopen : s.state ≠ .closed) :
    (webtransportSessionOnDrain s sent).1.state ≠ .closed := by
  rw [webtransportSessionOnDrain, if_neg hopen]
  dsimp only
  split_ifs
  · exact nofun
  · exact hopen

lemma moves_onDrain (s : WebtransportSession) (sent : Bool) :
    SessionMoves s (webtransportSessionOnDrain s sent).1 := by
  by_cases hclosed : s.state = .closed
  · rw [webtransportSessionOnDrain, if_pos hclosed]
  · exact .single (.drain sent hclosed)

lemma moves_onStreamEnd (s : WebtransportSession) :
    SessionMoves s (webtransportSessionOnStreamEnd s).1 := by
  by_cases hclosed : s.state = .closed
  · rw [webtransportSessionOnStreamEnd, if_pos hclosed]
  · exact .single (.streamEnd hclosed)

lemma moves_writeDrain (s : WebtransportSession) (w : Writer) :
    SessionMoves s (webtransportSessionWriteDrain s w).1.1 := by
  rw [webtransportSessionWriteDrain]
  split_ifs with hclosed
  · exact .refl
  · rcases webtransportDrainSessionWrite w with ⟨written, status⟩
    dsimp only
    split_ifs
    · exact .refl
    · exact moves_onDrain s true

lemma moves_writeClose (s : WebtransportSession) (w : Writer) (errorCode : ℕ)
    (reason : List UInt8) :
    SessionMoves s (webtransportSessionWriteClose s w errorCode reason).1.1 := by
  rw [webtransportSessionWriteClose]
  split_ifs with hclosed
  · exact .refl
  · exact .refl
  · rcases webtransportCloseSessionWrite w errorCode reason with ⟨written, status⟩
    dsimp only
    split_ifs
    · exact .refl
    · exact .single (.close true errorCode hclosed)

/-! ### The walk -/

/-- An observer that only moves the session, and closes it only with a refusal. -/
def MovesSession {κ : Type} (observe : Option (CapsuleFn κ)) : Prop :=
  ∀ f ∈ observe, ∀ s k capsule, s.state ≠ .closed →
    SessionMoves s (f s k capsule).1.1 ∧
      ((f s k capsule).2.1 = .ok → (f s k capsule).1.1.state ≠ .closed)

lemma movesSession_apart {κ : Type} (observe : Option (κ → Capsule → κ × CapsuleReply)) :
    MovesSession (observe.map CapsuleFn.apart) := by
  intro f hf s k capsule hopen
  obtain ⟨g, -, rfl⟩ := Option.mem_map.mp hf
  exact ⟨.refl, fun _ => hopen⟩

variable {κ : Type} {observe : Option (CapsuleFn κ)} {k k' : κ}

/-- A turn of the walk moves the session, and where bytes are left to walk the session is not
closed. -/
lemma moves_capsuleTurn (hobserve : MovesSession observe) (hopen : s.state ≠ .closed)
    {capsule : Capsule} {ahead : List UInt8} {reply : CapsuleReply}
    (h : capsuleTurn observe s k capsule ahead = ((s', k'), reply)) :
    SessionMoves s s' ∧ (reply.1 = .ok → ahead ≠ [] → s'.state ≠ .closed) := by
  unfold capsuleTurn at h
  split_ifs at h with hdrain hvalue hclose
  · cases h
    exact ⟨.refl, fun _ _ => hopen⟩
  · cases h
    exact ⟨moves_onDrain s false, fun _ _ => onDrain_open false hopen⟩
  · cases hparse : webtransportCloseSessionParse capsule with
    | error refusal =>
      rw [hparse] at h
      cases h
      exact ⟨.refl, fun _ _ => hopen⟩
    | ok r =>
      obtain ⟨code, reason⟩ := r
      rw [hparse] at h
      dsimp only at h
      split_ifs at h with htail
      · cases h
        exact ⟨.single (.close false code hopen), nofun⟩
      · cases h
        exact ⟨.single (.close false code hopen), fun hok hahead => absurd ⟨hok, hahead⟩ htail⟩
  · cases observe with
    | none =>
      cases h
      exact ⟨.refl, fun _ _ => hopen⟩
    | some f =>
      obtain ⟨hmoves, hstays⟩ := hobserve f rfl s k capsule hopen
      dsimp only at h
      rw [h] at hmoves hstays
      exact ⟨hmoves, fun hok _ => hstays hok⟩

lemma moves_capsuleWalkWithin (hobserve : MovesSession observe) {maxCapsuleBytes fuel : ℕ}
    {c : List UInt8} (hopen : c ≠ [] → s.state ≠ .closed) :
    SessionMoves s (capsuleWalkWithin maxCapsuleBytes observe fuel s k c).session := by
  induction fuel generalizing s k c with
  | zero => exact .refl
  | succ fuel ih =>
    rw [capsuleWalkWithin]
    split_ifs with hc
    · exact .refl
    · cases hread : webtransportCapsuleDecode maxCapsuleBytes c with
      | error reply => exact .refl
      | ok r =>
        obtain ⟨capsule, ahead⟩ := r
        dsimp only
        rcases hturn : capsuleTurn observe s k capsule ahead with ⟨⟨s', k'⟩, reply⟩
        obtain ⟨hmoves, hstays⟩ := moves_capsuleTurn hobserve (hopen hc) hturn
        dsimp only
        split_ifs with hreply
        · exact hmoves
        · exact hmoves.trans (ih (hstays (not_not.mp hreply)))

lemma moves_onCapsuleBytes (hobserve : MovesSession observe) (maxCapsuleBytes : ℕ)
    (s : WebtransportSession) (c : List UInt8) :
    SessionMoves s
      (webtransportSessionOnCapsuleBytes maxCapsuleBytes observe s k c).session := by
  rw [webtransportSessionOnCapsuleBytes]
  split_ifs with hgate
  · exact .refl
  · exact moves_capsuleWalkWithin hobserve fun hc hclosed => hgate ⟨hclosed, hc⟩

end Moves

/-! ## Calls -/

/-- The calls after which the state still tells the history: no session is established that was
drained, and no close is recorded on a session that ended without one. -/
def RegularCall (s : WebtransportSession) : SessionCall → Prop
  | .established => s.state = .establishing → ¬s.Drained
  | .onClose _ _ => s.state = .closed → s.closeErrorSet = true
  | _ => True

section Calls

variable {s : WebtransportSession} {call : SessionCall}

/-- What a call does: it moves the session, it establishes a session whose response is due, or it
repeats a close. -/
lemma sessionCall_cases (s : WebtransportSession) (call : SessionCall) :
    (SessionMoves s (sessionCall s call).1 ∧
        (call = .established → (sessionCall s call).2 ≠ .ok)) ∨
      (call = .established ∧ s.state = .establishing ∧
        sessionCall s call = ({ s with state := .established }, .ok)) ∨
      ∃ sent errorCode, call = .onClose sent errorCode ∧ s.state = .closed ∧
        (sessionCall s call).1 = (webtransportSessionOnClose s sent errorCode).1 := by
  cases call with
  | established =>
    by_cases hstate : s.state = .establishing
    · refine .inr (.inl ⟨rfl, hstate, ?_⟩)
      rw [sessionCall, webtransportSessionEstablished, if_neg (not_not.mpr hstate)]
    · left
      rw [sessionCall, webtransportSessionEstablished, if_pos hstate]
      exact ⟨.refl, fun _ => nofun⟩
  | onDrain sent => exact .inl ⟨moves_onDrain s sent, nofun⟩
  | onClose sent errorCode =>
    by_cases hclosed : s.state = .closed
    · exact .inr (.inr ⟨sent, errorCode, rfl, hclosed, rfl⟩)
    · exact .inl ⟨.single (.close sent errorCode hclosed), nofun⟩
  | onStreamEnd => exact .inl ⟨moves_onStreamEnd s, nofun⟩
  | writeDrain w => exact .inl ⟨moves_writeDrain s w, nofun⟩
  | writeClose w errorCode reason => exact .inl ⟨moves_writeClose s w errorCode reason, nofun⟩
  | onCapsuleBytes maxCapsuleBytes observe context bytes =>
    exact .inl ⟨moves_onCapsuleBytes (movesSession_apart observe) maxCapsuleBytes s bytes, nofun⟩

lemma sessionCall_rank (s : WebtransportSession) (call : SessionCall) :
    s.state.rank ≤ (sessionCall s call).1.state.rank := by
  rcases sessionCall_cases s call with
    ⟨hmoves, -⟩ | ⟨-, hstate, hcall⟩ | ⟨sent, code, -, hclosed, hcall⟩
  · exact hmoves.rank
  · rw [hcall, hstate]
    exact Nat.zero_le _
  · rw [hcall, hclosed]
    exact le_rfl

/-- A regular call leaves the code of a closed session. -/
lemma sessionCall_final (hregular : RegularCall s call) (hclosed : s.state = .closed) :
    (sessionCall s call).1.state = .closed ∧
      (sessionCall s call).1.closeErrorSet = s.closeErrorSet ∧
      (sessionCall s call).1.closeErrorCode = s.closeErrorCode := by
  rcases sessionCall_cases s call with
    ⟨hmoves, -⟩ | ⟨-, hstate, -⟩ | ⟨sent, code, rfl, -, hcall⟩
  · rw [hmoves.closed hclosed]
    exact ⟨hclosed, rfl, rfl⟩
  · rw [hclosed] at hstate
    cases hstate
  · have hset := hregular hclosed
    rw [hcall, webtransportSessionOnClose, hset, if_pos rfl]
    exact ⟨rfl, rfl, rfl⟩

end Calls

/-! ## Runs -/

/-- Whether one of the calls established the session. -/
def WasEstablished (calls : List SessionCall) : Prop :=
  ∃ before after, calls = before ++ .established :: after ∧
    (sessionCall (sessionRun before) .established).2 = .ok

/-- The life of a session over a sequence of calls: it goes forward, new streams are allowed as
long as it is established and neither drained nor closed, and its close is final. -/
structure LifecycleHolds (calls : List SessionCall) : Prop where
  forward : ∀ {earlier later : List SessionCall}, earlier <+: later → later <+: calls →
    (sessionRun earlier).state.rank ≤ (sessionRun later).state.rank
  streams : ∀ {before : List SessionCall}, before <+: calls →
    (webtransportSessionAllowsNewStreams (sessionRun before) = true ↔
      WasEstablished before ∧ ¬(sessionRun before).Drained ∧
        (sessionRun before).state ≠ .closed)
  final : ∀ {earlier later : List SessionCall}, earlier <+: later → later <+: calls →
    (sessionRun earlier).state = .closed →
      (sessionRun later).closeErrorSet = (sessionRun earlier).closeErrorSet ∧
        (sessionRun later).closeErrorCode = (sessionRun earlier).closeErrorCode

/-- Every call of the sequence is regular where it is made. -/
def RegularCalls (calls : List SessionCall) : Prop :=
  ∀ before call after, calls = before ++ call :: after → RegularCall (sessionRun before) call

section Runs

variable {calls before : List SessionCall} {call : SessionCall}

lemma sessionRun_concat (before : List SessionCall) (call : SessionCall) :
    sessionRun (before ++ [call]) = (sessionCall (sessionRun before) call).1 := by
  rw [sessionRun, List.foldl_append]
  rfl

lemma wasEstablished_concat :
    WasEstablished (before ++ [call]) ↔
      WasEstablished before ∨
        call = .established ∧ (sessionCall (sessionRun before) .established).2 = .ok := by
  constructor
  · rintro ⟨start, after, hsplit, hok⟩
    rcases List.eq_nil_or_concat after with rfl | ⟨after, last, rfl⟩
    · obtain ⟨rfl, hcall⟩ := List.append_inj' hsplit rfl
      cases hcall
      exact .inr ⟨rfl, hok⟩
    · rw [List.concat_eq_append, ← List.cons_append, ← List.append_assoc] at hsplit
      obtain ⟨rfl, -⟩ := List.append_inj' hsplit rfl
      exact .inl ⟨start, after, rfl, hok⟩
  · rintro (⟨start, after, rfl, hok⟩ | ⟨rfl, hok⟩)
    · exact ⟨start, after ++ [call], by rw [List.append_assoc]; rfl, hok⟩
    · exact ⟨before, [], rfl, hok⟩

lemma RegularCalls.concat (h : RegularCalls (before ++ [call])) :
    RegularCalls before ∧ RegularCall (sessionRun before) call := by
  refine ⟨?_, h before call [] rfl⟩
  rintro start c after rfl
  exact h start c (after ++ [call]) (by rw [List.append_assoc]; rfl)

lemma RegularCalls.start (h : RegularCalls calls) (hbefore : before <+: calls) :
    RegularCalls before := by
  obtain ⟨rest, rfl⟩ := hbefore
  rintro start c after rfl
  exact h start c (after ++ rest) (by rw [List.append_assoc]; rfl)

/-- After regular calls the state tells the history. -/
lemma RegularCalls.told (h : RegularCalls calls) :
    (sessionRun calls).Told (WasEstablished calls) := by
  induction calls using List.reverseRecOn with
  | nil =>
    refine ⟨fun _ => ?_, nofun, nofun⟩
    rintro ⟨before, after, hsplit, -⟩
    cases before <;> cases hsplit
  | append_singleton before call ih =>
    obtain ⟨hbefore, hregular⟩ := h.concat
    have htold := ih hbefore
    rw [sessionRun_concat]
    rcases sessionCall_cases (sessionRun before) call with
      ⟨hmoves, hfails⟩ | ⟨rfl, hstate, hcall⟩ | ⟨sent, code, rfl, -, hcall⟩
    · have hnow := hmoves.told htold
      have hsame : WasEstablished (before ++ [call]) ↔ WasEstablished before := by
        rw [wasEstablished_concat, or_iff_left]
        rintro ⟨rfl, hok⟩
        exact hfails rfl hok
      rwa [hsame]
    · rw [hcall]
      refine ⟨nofun, fun _ => ⟨?_, hregular hstate⟩, nofun⟩
      rw [wasEstablished_concat]
      exact .inr ⟨rfl, congrArg Prod.snd hcall⟩
    · rw [hcall]
      exact ⟨nofun, nofun, nofun⟩

lemma sessionRun_rank (before after : List SessionCall) :
    (sessionRun before).state.rank ≤ (sessionRun (before ++ after)).state.rank := by
  induction after using List.reverseRecOn with
  | nil => rw [List.append_nil]
  | append_singleton after call ih =>
    rw [← List.append_assoc, sessionRun_concat]
    exact ih.trans (sessionCall_rank _ _)

/-- The close of a session outlives regular calls. -/
lemma sessionRun_final {after : List SessionCall} (h : RegularCalls (before ++ after))
    (hclosed : (sessionRun before).state = .closed) :
    (sessionRun (before ++ after)).state = .closed ∧
      (sessionRun (before ++ after)).closeErrorSet = (sessionRun before).closeErrorSet ∧
      (sessionRun (before ++ after)).closeErrorCode = (sessionRun before).closeErrorCode := by
  induction after using List.reverseRecOn with
  | nil =>
    rw [List.append_nil]
    exact ⟨hclosed, rfl, rfl⟩
  | append_singleton after call ih =>
    rw [← List.append_assoc] at h ⊢
    obtain ⟨hbefore, hregular⟩ := h.concat
    obtain ⟨hstate, hset, hcode⟩ := ih hbefore
    obtain ⟨hstate', hset', hcode'⟩ := sessionCall_final hregular hstate
    rw [sessionRun_concat]
    exact ⟨hstate', hset'.trans hset, hcode'.trans hcode⟩

/-- New streams are allowed as the history has it. -/
lemma RegularCalls.streams (h : RegularCalls calls) :
    webtransportSessionAllowsNewStreams (sessionRun calls) = true ↔
      WasEstablished calls ∧ ¬(sessionRun calls).Drained ∧ (sessionRun calls).state ≠ .closed := by
  have htold := h.told
  rw [webtransportSessionAllowsNewStreams, decide_eq_true_iff]
  constructor
  · intro hstate
    obtain ⟨hwas, hdrained⟩ := htold.established hstate
    exact ⟨hwas, hdrained, by rw [hstate]; exact nofun⟩
  · rintro ⟨hwas, hdrained, hopen⟩
    cases hstate : (sessionRun calls).state with
    | establishing => exact absurd hwas (htold.establishing hstate)
    | established => rfl
    | draining => exact absurd (htold.draining hstate) hdrained
    | closed => exact absurd hstate hopen

/-- **A session's life.** It is as it should be exactly when every call is regular. -/
theorem lifecycleHolds_iff (calls : List SessionCall) :
    LifecycleHolds calls ↔ RegularCalls calls := by
  constructor
  · rintro h before call after rfl
    have hnow : before <+: before ++ call :: after := List.prefix_append _ _
    have hnext : before ++ [call] <+: before ++ call :: after :=
      ⟨after, by rw [List.append_assoc]; rfl⟩
    cases call with
    | established =>
      -- A session that was drained before would allow new streams.
      intro hstate
      have hcall : sessionRun (before ++ [.established]) =
          { sessionRun before with state := .established } := by
        rw [sessionRun_concat, sessionCall, webtransportSessionEstablished,
          if_neg (not_not.mpr hstate)]
      have hallowed := (h.streams hnext).mp (by
        rw [hcall]
        rfl)
      rw [hcall] at hallowed
      exact hallowed.2.1
    | onClose sent errorCode =>
      intro hclosed
      have hcall : (sessionRun (before ++ [.onClose sent errorCode])).closeErrorSet = true := by
        rw [sessionRun_concat]
        rfl
      obtain ⟨hset, -⟩ := h.final (List.prefix_append before _) hnext hclosed
      exact hset.symm.trans hcall
    | _ => trivial
  · intro h
    refine ⟨?_, fun hbefore => (h.start hbefore).streams, ?_⟩
    · rintro earlier later ⟨more, rfl⟩ -
      exact sessionRun_rank earlier more
    · rintro earlier later ⟨more, rfl⟩ hlater hclosed
      exact (sessionRun_final (h.start hlater) hclosed).2

/-- A drain that comes before the response is forgotten when the response goes out. -/
theorem drained_before_response_allows :
    ¬LifecycleHolds [.onDrain false, .established] := by
  intro h
  have hdrained := ((h.streams List.prefix_rfl).mp rfl).2.1
  exact hdrained (.inr rfl)

end Runs

end WebTransport
