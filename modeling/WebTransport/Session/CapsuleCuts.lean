import WebTransport.Lib.Reader
import WebTransport.Session.LifecycleOrder

/-!
# Cutting the capsule stream

The CONNECT stream arrives in pieces, and the caller presents what the cursor left again in front
of the next one. However the bytes are cut, the session, what the observer was given and the
answer are those of one call.
-/

namespace WebTransport

/-- The pieces of the CONNECT stream, one call for each until one is refused. -/
def feedCapsules {κ : Type} (maxCapsuleBytes : ℕ) (observe : Option (CapsuleFn κ)) :
    WebtransportSession → κ → List UInt8 → List (List UInt8) → CapsuleWalk κ
  | s, k, held, [] => ⟨s, k, held, CapsuleReply.good⟩
  | s, k, held, [piece] =>
    webtransportSessionOnCapsuleBytes maxCapsuleBytes observe s k (held ++ piece)
  | s, k, held, piece :: next :: pieces =>
    let walk := webtransportSessionOnCapsuleBytes maxCapsuleBytes observe s k (held ++ piece)
    if walk.reply.1 = .ok ∨ walk.reply.1 = .truncated then
      feedCapsules maxCapsuleBytes observe walk.session walk.context walk.cursor (next :: pieces)
    else walk

/-- An observer that keeps what it was given, in order. -/
def logged {κ : Type} (observe : κ → Capsule → κ × CapsuleReply) :
    List Capsule × κ → Capsule → (List Capsule × κ) × CapsuleReply :=
  fun k capsule => ((k.1 ++ [capsule], (observe k.2 capsule).1), (observe k.2 capsule).2)

/-! ## Capsules as a reader -/

/-- The first byte says how many bytes an integer takes. -/
lemma stable_quicVarintDecode : Reader.Stable Status.truncated quicVarintDecode := by
  have hread : quicVarintDecode = Reader.byFirst Status.truncated fun first =>
      Reader.andThen (Reader.take Status.truncated (1 <<< (first.toNat >>> 6))) fun bytes c =>
        .ok (bytes.tail.foldl BigEndian.push (first.toNat &&& 0x3F), c) := by
    funext c
    cases c with
    | nil => rfl
    | cons first c =>
      simp only [quicVarintDecode, quicVarintDecodeSized]
      rw [Reader.byFirst, Reader.andThen, Reader.take]
      obtain ⟨n, hn⟩ : ∃ n, 1 <<< (first.toNat >>> 6) = n + 1 := by
        have hpos : 0 < 1 <<< (first.toNat >>> 6) := by
          rw [Nat.one_shiftLeft]
          positivity
        exact ⟨1 <<< (first.toNat >>> 6) - 1, by omega⟩
      rw [hn, List.length_cons, Nat.add_sub_cancel]
      by_cases hshort : c.length < n
      · rw [if_pos hshort, if_pos (by omega)]
        rfl
      · rw [if_neg hshort, if_neg (by omega)]
        rfl
  rw [hread]
  apply Reader.stable_byFirst
  · intro first
    exact (Reader.stable_take _ _).andThen fun bytes => Reader.stable_pure _ _
  · intro first
    rw [Reader.andThen, Reader.take, if_pos]
    rw [Nat.one_shiftLeft]
    exact Nat.two_pow_pos _

/-- An item behind its type and its length is read stably, when a length over the limit is
refused. -/
lemma stable_typeLengthValue {ε β : Type} {short tooLong : ε} {limit : ℕ}
    {item : ℕ → List UInt8 → β} {read : List UInt8 → Except ε (β × List UInt8)}
    (hitem : ∀ c, read c = match quicVarintDecode c with
      | .error _ => .error short
      | .ok (type, c₁) =>
        match quicVarintDecode c₁ with
        | .error _ => .error short
        | .ok (length, c₂) =>
          if limit < length then .error tooLong
          else if c₂.length < length then .error short
          else .ok (item type (c₂.take length), c₂.drop length)) :
    Reader.Stable short read := by
  have hvarint := stable_quicVarintDecode.mapError fun _ => short
  have hread : read =
      Reader.andThen (Reader.mapError (fun _ => short) quicVarintDecode) fun type =>
        Reader.andThen (Reader.mapError (fun _ => short) quicVarintDecode) fun length =>
          if limit < length then fun _ => .error tooLong
          else
            Reader.andThen (Reader.take short length) fun value c => .ok (item type value, c) := by
    funext c
    rw [hitem, Reader.andThen, Reader.mapError]
    cases quicVarintDecode c with
    | error e => rfl
    | ok r =>
      obtain ⟨type, c₁⟩ := r
      dsimp only
      rw [Reader.andThen, Reader.mapError]
      cases quicVarintDecode c₁ with
      | error e => rfl
      | ok r =>
        obtain ⟨length, c₂⟩ := r
        dsimp only
        by_cases hlimit : limit < length
        · rw [if_pos hlimit, if_pos hlimit]
        · rw [if_neg hlimit, if_neg hlimit, Reader.andThen, Reader.take]
          by_cases hshort : c₂.length < length
          · rw [if_pos hshort, if_pos hshort]
          · rw [if_neg hshort, if_neg hshort]
  rw [hread]
  refine hvarint.andThen fun type => hvarint.andThen fun length => ?_
  by_cases hlimit : limit < length
  · rw [if_pos hlimit]
    exact Reader.stable_refuse _ _
  · rw [if_neg hlimit]
    exact (Reader.stable_take _ length).andThen fun value => Reader.stable_pure _ _

lemma stable_webtransportCapsuleDecode (maxLength : ℕ) :
    Reader.Stable CapsuleReply.short (webtransportCapsuleDecode maxLength) :=
  @stable_typeLengthValue _ _ _ _ maxLength Capsule.mk _ fun _ => rfl

lemma webtransportCapsuleDecode_error {maxLength : ℕ} {c : List UInt8} {reply : CapsuleReply}
    (h : webtransportCapsuleDecode maxLength c = .error reply) :
    reply = CapsuleReply.short ∨ reply = (.limit, Http3Error.excessiveLoad.code) := by
  unfold webtransportCapsuleDecode at h
  split at h
  · cases h
    exact .inl rfl
  · split at h
    · cases h
      exact .inl rfl
    · split_ifs at h
      · cases h
        exact .inr rfl
      · cases h
        exact .inl rfl

/-! ## The walk as a run -/

section Walk

variable {κ : Type} {maxCapsuleBytes : ℕ} {observe : Option (κ → Capsule → κ × CapsuleReply)}
  {s s' : WebtransportSession} {k k' : κ} {x c : List UInt8} {reply : CapsuleReply}

/-- One capsule of the walk, whatever comes after it. Nothing is read once the session is
closed. -/
def capsuleStep (maxCapsuleBytes : ℕ) (observe : Option (κ → Capsule → κ × CapsuleReply)) :
    Reader.Step (WebtransportSession × κ) UInt8 CapsuleReply :=
  fun p c =>
    if p.1.state = .closed then (p, .error CapsuleReply.malformed)
    else
      match webtransportCapsuleDecode maxCapsuleBytes c with
      | .error reply => (p, .error reply)
      | .ok (capsule, ahead) =>
        match capsuleTurn (observe.map CapsuleFn.apart) p.1 p.2 capsule [] with
        | (p', reply) => if reply.1 ≠ .ok then (p', .error reply) else (p', .ok ahead)

/-- No observer answers that a capsule is incomplete: that is what the walk says of bytes that have
not fully arrived. -/
def NeverShort (observe : Option (κ → Capsule → κ × CapsuleReply)) : Prop :=
  ∀ f ∈ observe, ∀ k capsule, (f k capsule).2.1 ≠ .truncated

/-- A refused turn does not ask for more bytes. -/
lemma capsuleTurn_reply (hobserve : NeverShort observe) {capsule : Capsule} {ahead : List UInt8}
    {p : WebtransportSession × κ}
    (h : capsuleTurn (observe.map CapsuleFn.apart) s k capsule ahead = (p, reply)) :
    reply.1 ≠ .truncated := by
  unfold capsuleTurn at h
  split_ifs at h with hdrain hvalue hclose
  · cases h
    decide
  · cases h
    change (webtransportSessionOnDrain s false).2 ≠ .truncated
    rw [webtransportSessionOnDrain]
    split_ifs <;> exact fun h => by cases h
  · cases hparse : webtransportCloseSessionParse capsule with
    | error refusal =>
      rw [hparse] at h
      cases h
      exact (webtransportCloseSessionParse_error hparse).2
    | ok r =>
      obtain ⟨code, reason⟩ := r
      rw [hparse] at h
      dsimp only at h
      split_ifs at h <;> cases h <;> exact fun h => by cases h
  · cases observe with
    | none =>
      cases h
      decide
    | some f =>
      cases h
      exact hobserve f rfl k capsule

lemma capsuleStep_ok {p p' : WebtransportSession × κ} {rest : List UInt8} :
    capsuleStep maxCapsuleBytes observe p c = (p', .ok rest) ↔
      p.1.state ≠ .closed ∧ ∃ capsule reply,
        webtransportCapsuleDecode maxCapsuleBytes c = .ok (capsule, rest) ∧
        capsuleTurn (observe.map CapsuleFn.apart) p.1 p.2 capsule [] = (p', reply) ∧
        reply.1 = .ok := by
  unfold capsuleStep
  by_cases hclosed : p.1.state = .closed
  · simp [hclosed]
  · rw [if_neg hclosed]
    cases hread : webtransportCapsuleDecode maxCapsuleBytes c with
    | error refusal => simp
    | ok r =>
      obtain ⟨capsule, ahead⟩ := r
      dsimp only
      rcases hturn : capsuleTurn (observe.map CapsuleFn.apart) p.1 p.2 capsule [] with ⟨q, answer⟩
      dsimp only
      split_ifs with hok
      · constructor
        · intro h
          cases h
        · rintro ⟨-, capsule', reply, hread', hturn', hok'⟩
          cases hread'
          rw [hturn] at hturn'
          cases hturn'
          exact absurd hok' hok
      · constructor
        · intro h
          cases h
          exact ⟨hclosed, capsule, answer, rfl, hturn, not_not.mp hok⟩
        · rintro ⟨-, capsule', reply, hread', hturn', -⟩
          cases hread'
          rw [hturn] at hturn'
          cases hturn'
          rfl

/-- Where a refusal of a step comes from. -/
lemma capsuleStep_error {p p' : WebtransportSession × κ} :
    capsuleStep maxCapsuleBytes observe p c = (p', .error reply) ↔
      (p.1.state = .closed ∧ p' = p ∧ reply = CapsuleReply.malformed) ∨
      (p.1.state ≠ .closed ∧ p' = p ∧
        webtransportCapsuleDecode maxCapsuleBytes c = .error reply) ∨
      (p.1.state ≠ .closed ∧ ∃ capsule ahead,
        webtransportCapsuleDecode maxCapsuleBytes c = .ok (capsule, ahead) ∧
        capsuleTurn (observe.map CapsuleFn.apart) p.1 p.2 capsule [] = (p', reply) ∧
        reply.1 ≠ .ok) := by
  unfold capsuleStep
  by_cases hclosed : p.1.state = .closed
  · simp [hclosed, eq_comm]
  · rw [if_neg hclosed]
    cases hread : webtransportCapsuleDecode maxCapsuleBytes c with
    | error refusal => simp [hclosed, eq_comm]
    | ok r =>
      obtain ⟨capsule, ahead⟩ := r
      dsimp only
      rcases hturn : capsuleTurn (observe.map CapsuleFn.apart) p.1 p.2 capsule [] with ⟨q, answer⟩
      dsimp only
      split_ifs with hok
      · constructor
        · intro h
          cases h
          exact .inr (.inr ⟨hclosed, capsule, ahead, rfl, hturn, hok⟩)
        · rintro (⟨hclosed', -⟩ | ⟨-, -, hread'⟩ | ⟨-, capsule', ahead', hread', hturn', -⟩)
          · exact absurd hclosed' hclosed
          · cases hread'
          · cases hread'
            rw [hturn] at hturn'
            cases hturn'
            rfl
      · constructor
        · intro h
          cases h
        · rintro (⟨hclosed', -⟩ | ⟨-, -, hread'⟩ | ⟨-, capsule', ahead', hread', hturn', hok'⟩)
          · exact absurd hclosed' hclosed
          · cases hread'
          · cases hread'
            rw [hturn] at hturn'
            cases hturn'
            exact absurd (not_not.mp hok) hok'

/-- A refusal of a step is not an acceptance, and it asks for more bytes only where the capsule is
incomplete. -/
lemma capsuleStep_refusal (hobserve : NeverShort observe) {p p' : WebtransportSession × κ}
    (h : capsuleStep maxCapsuleBytes observe p c = (p', .error reply)) :
    reply.1 ≠ .ok ∧ (reply.1 = .truncated → reply = CapsuleReply.short ∧ p' = p) := by
  rcases capsuleStep_error.mp h with
    ⟨-, -, rfl⟩ | ⟨-, rfl, hread⟩ | ⟨-, capsule, ahead, -, hturn, hok⟩
  · exact ⟨nofun, nofun⟩
  · rcases webtransportCapsuleDecode_error hread with rfl | rfl
    · exact ⟨nofun, fun _ => ⟨rfl, rfl⟩⟩
    · exact ⟨nofun, nofun⟩
  · exact ⟨hok, fun hshort => absurd hshort (capsuleTurn_reply hobserve hturn)⟩

lemma stableStep_capsuleStep (maxCapsuleBytes : ℕ) (hobserve : NeverShort observe) :
    Reader.StableStep CapsuleReply.short (capsuleStep maxCapsuleBytes observe) := by
  have hstable := stable_webtransportCapsuleDecode maxCapsuleBytes
  constructor
  · intro p p' x rest hstep
    obtain ⟨hopen, capsule, reply, hread, hturn, hok⟩ := capsuleStep_ok.mp hstep
    obtain ⟨b, hne, hb, hmore⟩ := hstable.part (e := CapsuleReply.short) rfl hread
    refine ⟨b, hne, hb, fun y => ?_⟩
    exact capsuleStep_ok.mpr ⟨hopen, capsule, reply, hmore y, hturn, hok⟩
  · intro p p' x refusal hstep hne y
    rw [capsuleStep_error] at hstep ⊢
    rcases hstep with hclosed | ⟨hopen, rfl, hread⟩ | ⟨hopen, capsule, ahead, hread, hturn, hok⟩
    · exact .inl hclosed
    · exact .inr (.inl ⟨hopen, rfl, hstable.error hread hne y⟩)
    · obtain ⟨b, rfl, hmore⟩ := hstable.ok hread
      refine .inr (.inr ⟨hopen, capsule, ahead ++ y, ?_, hturn, hok⟩)
      rw [List.append_assoc]
      exact hmore (ahead ++ y)
  · intro p p' x hstep
    exact ((capsuleStep_refusal hobserve hstep).2 rfl).2

/-- The answer of a walk, from the run behind it. -/
def walkAnswer (r : Reader.Drained (WebtransportSession × κ) UInt8 CapsuleReply) : CapsuleReply :=
  match r.refusal with
  | some reply => reply
  | none => if r.tail = [] then CapsuleReply.good else CapsuleReply.short

/-- A walk that ends as a run does. What the cursor has left after a refusal is of no interest. -/
def EndsAs (walk : CapsuleWalk κ)
    (r : Reader.Drained (WebtransportSession × κ) UInt8 CapsuleReply) : Prop :=
  walk.session = r.state.1 ∧ walk.context = r.state.2 ∧ walk.reply = walkAnswer r ∧
    (r.refusal = none → walk.cursor = r.tail)

lemma capsuleWalkWithin_run (hobserve : NeverShort observe) {fuel : ℕ} (hfuel : c.length < fuel)
    (hopen : c ≠ [] → s.state ≠ .closed) :
    EndsAs (capsuleWalkWithin maxCapsuleBytes (observe.map CapsuleFn.apart) fuel s k c)
      (Reader.run CapsuleReply.short (capsuleStep maxCapsuleBytes observe) (s, k) c) := by
  have hstable := stableStep_capsuleStep maxCapsuleBytes hobserve
  induction fuel generalizing s k c with
  | zero => omega
  | succ fuel ih =>
    by_cases hc : c = []
    · subst hc
      rw [capsuleWalkWithin, if_pos rfl, Reader.run_nil]
      exact ⟨rfl, rfl, rfl, fun _ => rfl⟩
    rw [capsuleWalkWithin, if_neg hc]
    cases hread : webtransportCapsuleDecode maxCapsuleBytes c with
    | error refusal =>
      have hstep : capsuleStep maxCapsuleBytes observe (s, k) c = ((s, k), .error refusal) :=
        capsuleStep_error.mpr (.inr (.inl ⟨hopen hc, rfl, hread⟩))
      rw [Reader.run_stops hc hstep]
      refine ⟨rfl, rfl, ?_, fun _ => rfl⟩
      rw [walkAnswer]
      by_cases hshort : refusal = CapsuleReply.short
      · rw [if_pos hshort, hshort]
        exact (if_neg hc).symm
      · rw [if_neg hshort]
    | ok r =>
      obtain ⟨capsule, ahead⟩ := r
      dsimp only
      -- A turn that is the same with nothing behind the capsule.
      have hturned : ∀ {s' k' reply},
          capsuleTurn (observe.map CapsuleFn.apart) s k capsule ahead = ((s', k'), reply) →
          capsuleTurn (observe.map CapsuleFn.apart) s k capsule [] = ((s', k'), reply) →
          EndsAs (if reply.1 ≠ .ok then ⟨s', k', c, reply⟩
              else capsuleWalkWithin maxCapsuleBytes (observe.map CapsuleFn.apart) fuel s' k' ahead)
            (Reader.run CapsuleReply.short (capsuleStep maxCapsuleBytes observe) (s, k) c) := by
        intro s' k' reply hahead hnil
        by_cases hok : reply.1 = .ok
        · have hstep : capsuleStep maxCapsuleBytes observe (s, k) c = ((s', k'), .ok ahead) :=
            capsuleStep_ok.mpr ⟨hopen hc, capsule, reply, hread, hnil, hok⟩
          have hshorter := hstable.progress hstep
          rw [if_neg (not_not.mpr hok), Reader.run_ok hstable hc hstep]
          have hstays := (moves_capsuleTurn (movesSession_apart observe) (hopen hc) hahead).2 hok
          exact ih (by omega) hstays
        · have hstep : capsuleStep maxCapsuleBytes observe (s, k) c = ((s', k'), .error reply) :=
            capsuleStep_error.mpr (.inr (.inr ⟨hopen hc, capsule, ahead, hread, hnil, hok⟩))
          have hnever : reply ≠ CapsuleReply.short := by
            rintro rfl
            exact capsuleTurn_reply hobserve hnil rfl
          rw [if_pos hok, Reader.run_stops hc hstep, if_neg hnever]
          exact ⟨rfl, rfl, rfl, fun h => by cases h⟩
      by_cases hahead : ahead = []
      · subst hahead
        rcases hturn : capsuleTurn (observe.map CapsuleFn.apart) s k capsule [] with
          ⟨⟨s', k'⟩, reply⟩
        exact hturned hturn hturn
      · rcases capsuleTurn_ahead (observe.map CapsuleFn.apart) s k capsule hahead with
          hsame | ⟨⟨s', k'⟩, hclosed, hnil, hrefused⟩
        · rcases hturn : capsuleTurn (observe.map CapsuleFn.apart) s k capsule ahead with
            ⟨⟨s', k'⟩, reply⟩
          exact hturned hturn (hsame ▸ hturn)
        · -- Bytes after the close: the run refuses them as the first ones of a closed session.
          have hstep : capsuleStep maxCapsuleBytes observe (s, k) c = ((s', k'), .ok ahead) :=
            capsuleStep_ok.mpr ⟨hopen hc, capsule, CapsuleReply.good, hread, hnil, rfl⟩
          have hnext : capsuleStep maxCapsuleBytes observe (s', k') ahead =
              ((s', k'), .error CapsuleReply.malformed) :=
            capsuleStep_error.mpr (.inl ⟨hclosed, rfl, rfl⟩)
          rw [hrefused, Reader.run_ok hstable hc hstep, Reader.run_stops hahead hnext]
          exact ⟨rfl, rfl, rfl, fun h => by cases h⟩

lemma onCapsuleBytes_run (hobserve : NeverShort observe) (maxCapsuleBytes : ℕ)
    (s : WebtransportSession) (k : κ) (c : List UInt8) :
    EndsAs
      (webtransportSessionOnCapsuleBytes maxCapsuleBytes (observe.map CapsuleFn.apart) s k c)
      (Reader.run CapsuleReply.short (capsuleStep maxCapsuleBytes observe) (s, k) c) := by
  rw [webtransportSessionOnCapsuleBytes]
  split_ifs with hgate
  · have hstep : capsuleStep maxCapsuleBytes observe (s, k) c =
        ((s, k), .error CapsuleReply.malformed) :=
      capsuleStep_error.mpr (.inl ⟨hgate.1, rfl, rfl⟩)
    rw [Reader.run_stops hgate.2 hstep]
    exact ⟨rfl, rfl, rfl, fun h => by cases h⟩
  · exact capsuleWalkWithin_run hobserve (Nat.lt_succ_self _) fun hc hclosed =>
      hgate ⟨hclosed, hc⟩

lemma onCapsuleBytes_nil {observer : Option (CapsuleFn κ)} :
    webtransportSessionOnCapsuleBytes maxCapsuleBytes observer s k [] =
      ⟨s, k, [], CapsuleReply.good⟩ := by
  rw [webtransportSessionOnCapsuleBytes, if_neg fun h => h.2 rfl]
  rfl

/-! ## Cuts -/

/-- The pieces, with what is held in front of them, do what one call does. -/
lemma feedCapsules_run (maxCapsuleBytes : ℕ) (hobserve : NeverShort observe)
    (s : WebtransportSession) (k : κ) (held piece : List UInt8) (pieces : List (List UInt8)) :
    EndsAs
      (feedCapsules maxCapsuleBytes (observe.map CapsuleFn.apart) s k held (piece :: pieces))
      (Reader.run CapsuleReply.short (capsuleStep maxCapsuleBytes observe) (s, k)
        (held ++ piece ++ pieces.flatten)) := by
  have hstable := stableStep_capsuleStep maxCapsuleBytes hobserve
  induction pieces generalizing s k held piece with
  | nil =>
    rw [feedCapsules, List.flatten_nil, List.append_nil]
    exact onCapsuleBytes_run hobserve maxCapsuleBytes s k _
  | cons next pieces ih =>
    have hfirst := onCapsuleBytes_run hobserve maxCapsuleBytes s k (held ++ piece)
    rw [feedCapsules, Reader.run_append hstable]
    generalize webtransportSessionOnCapsuleBytes maxCapsuleBytes (observe.map CapsuleFn.apart) s k
      (held ++ piece) = walk at hfirst ⊢
    rcases hrun : Reader.run CapsuleReply.short (capsuleStep maxCapsuleBytes observe) (s, k)
      (held ++ piece) with ⟨⟨s', k'⟩, tail, refusal⟩
    rw [hrun] at hfirst
    obtain ⟨hsession, hcontext, hreply, hcursor⟩ := hfirst
    cases refusal with
    | some reply =>
      obtain ⟨p, p', -, -, -, hstep, hnever⟩ := Reader.run_refusal hstable hrun
      obtain ⟨hok, hshort⟩ := capsuleStep_refusal hobserve hstep
      have hstops : ¬(walk.reply.1 = .ok ∨ walk.reply.1 = .truncated) := by
        rw [hreply]
        exact fun h => h.elim hok fun htruncated => hnever (hshort htruncated).1
      dsimp only
      rw [if_neg hstops]
      exact ⟨hsession, hcontext, hreply, nofun⟩
    | none =>
      have hgoes : walk.reply.1 = .ok ∨ walk.reply.1 = .truncated := by
        rw [hreply, walkAnswer]
        dsimp only
        split_ifs
        · exact .inl rfl
        · exact .inr rfl
      dsimp only at hsession hcontext hcursor ⊢
      rw [if_pos hgoes, hsession, hcontext, hcursor rfl, List.flatten_cons, ← List.append_assoc]
      exact ih s' k' tail next

/-- **Cuts make no difference.** However the bytes of the CONNECT stream are cut, the capsules
observed, the session and the answer are those of one call with all of them. -/
theorem capsuleCuts_harmless (observe : Option (κ → Capsule → κ × CapsuleReply))
    (hobserve : NeverShort observe) (maxCapsuleBytes : ℕ) (s : WebtransportSession) (k : κ)
    (pieces : List (List UInt8)) :
    let observer := (observe.map logged).map CapsuleFn.apart
    let cut := feedCapsules maxCapsuleBytes observer s ([], k) [] pieces
    let whole := webtransportSessionOnCapsuleBytes maxCapsuleBytes observer s ([], k) pieces.flatten
    cut.context = whole.context ∧ cut.session = whole.session ∧ cut.reply = whole.reply := by
  intro observer cut whole
  have hlogged : NeverShort (observe.map logged) := by
    intro f hf k capsule
    obtain ⟨g, hg, rfl⟩ := Option.mem_map.mp hf
    exact hobserve g hg k.2 capsule
  cases pieces with
  | nil =>
    have hwhole : whole = ⟨s, ([], k), [], CapsuleReply.good⟩ := onCapsuleBytes_nil
    rw [hwhole]
    exact ⟨rfl, rfl, rfl⟩
  | cons piece pieces =>
    have hcut := feedCapsules_run maxCapsuleBytes hlogged s ([], k) []
      piece pieces
    have hwhole := onCapsuleBytes_run hlogged maxCapsuleBytes s ([], k)
      ([] ++ piece ++ pieces.flatten)
    obtain ⟨hsession, hcontext, hreply, -⟩ := hcut
    obtain ⟨hsession', hcontext', hreply', -⟩ := hwhole
    exact ⟨hcontext.trans hcontext'.symm, hsession.trans hsession'.symm,
      hreply.trans hreply'.symm⟩

end Walk

/-! ## The account of the programs -/

/-- The account a program keeps of the peer's grants (`wt_capsule_stream_t`). -/
structure CapsuleStreamAccount where
  flowAdvertisedLocal : Bool
  flowAdvertisedPeer : Bool
  peerLimits : FlowLimits
  refusedSessionCode : ℕ
  refusedSessionCodeSet : Bool

def capsuleStreamInit : CapsuleStreamAccount where
  flowAdvertisedLocal   := false
  flowAdvertisedPeer    := false
  peerLimits            := webtransportFlowLimitsInit
  refusedSessionCode    := 0
  refusedSessionCodeSet := false

/-- Keep the session code of a refusal. -/
def CapsuleStreamAccount.refuse (stream : CapsuleStreamAccount) (code : ℕ) : CapsuleStreamAccount :=
  { stream with refusedSessionCode := code, refusedSessionCodeSet := true }

/-- What a limit call did: the limits it left, or a refusal with its session code. -/
def CapsuleStreamAccount.settle (stream : CapsuleStreamAccount) (r : FlowLimits × Status × ℕ) :
    CapsuleStreamAccount × CapsuleReply :=
  if r.2.1 ≠ .ok then
    (stream.refuse r.2.2, .protocol, Http3Error.noError.code)
  else ({ stream with peerLimits := r.1 }, CapsuleReply.good)

/-- The observer of the programs (`apps/support/capsule_stream.c`): flow control counts where both
ends advertised it. -/
def capsuleStreamApplyFlow (stream : CapsuleStreamAccount) (capsule : Capsule) :
    CapsuleStreamAccount × CapsuleReply :=
  if !stream.flowAdvertisedLocal || !stream.flowAdvertisedPeer then (stream, CapsuleReply.good)
  else if capsule.type = capsuleMaxData then
    match webtransportMaxDataParse capsule with
    | .error reply => (stream, reply)
    | .ok maximum => stream.settle (webtransportFlowOnMaxData stream.peerLimits maximum)
  else if capsule.type = capsuleMaxStreamsBidi ∨ capsule.type = capsuleMaxStreamsUni ∨
      capsule.type = capsuleStreamsBlockedBidi ∨ capsule.type = capsuleStreamsBlockedUni then
    let blocked :=
      capsule.type = capsuleStreamsBlockedBidi ∨ capsule.type = capsuleStreamsBlockedUni
    match (if blocked then webtransportStreamsBlockedParse capsule
      else webtransportMaxStreamsParse capsule) with
    | .error reply =>
      if reply.2 = webtransportFlowControlError then
        (stream.refuse webtransportFlowControlError, reply)
      else (stream, reply)
    | .ok maximum =>
      if blocked then (stream, CapsuleReply.good)
      else
        stream.settle (webtransportFlowOnMaxStreams stream.peerLimits
          (capsule.type = capsuleMaxStreamsBidi) maximum)
  else (stream, CapsuleReply.good)

section Programs

lemma settle_reply (stream : CapsuleStreamAccount) (r : FlowLimits × Status × ℕ) :
    (stream.settle r).2.1 ≠ .truncated := by
  unfold CapsuleStreamAccount.settle
  split_ifs <;> exact nofun

/-- The account never takes a capsule for an incomplete one. -/
lemma neverShort_applyFlow : NeverShort (some capsuleStreamApplyFlow) := by
  intro f hf stream capsule
  cases hf
  unfold capsuleStreamApplyFlow
  split_ifs with hadvertised hdata hstreams
  · exact nofun
  · cases hparse : webtransportMaxDataParse capsule with
    | error reply => exact (capsuleParseOne_error hparse).2
    | ok maximum => exact settle_reply _ _
  · dsimp only
    split
    · next reply hparse =>
      have hreply : reply.1 ≠ .truncated := by
        split_ifs at hparse with hblocked
        · unfold webtransportStreamsBlockedParse at hparse
          rw [if_pos hblocked] at hparse
          exact (capsuleParseStreamCount_error hparse).2
        · unfold webtransportMaxStreamsParse at hparse
          split_ifs at hparse
          · exact (capsuleParseStreamCount_error hparse).2
          · cases hparse
            exact nofun
      split_ifs <;> exact hreply
    · split_ifs
      · exact nofun
      · exact settle_reply _ _
  · exact nofun

/-- A drain that arrives in two pieces, with the account of a program for observer. -/
theorem drain_inPieces :
    (feedCapsules 64 (((some capsuleStreamApplyFlow).map logged).map CapsuleFn.apart)
        webtransportSessionInit ([], capsuleStreamInit) []
        [[0x80, 0x00], [0x78, 0xae, 0x00]]).session =
      (webtransportSessionOnCapsuleBytes 64
        (((some capsuleStreamApplyFlow).map logged).map CapsuleFn.apart)
        webtransportSessionInit ([], capsuleStreamInit) [0x80, 0x00, 0x78, 0xae, 0x00]).session :=
  (capsuleCuts_harmless (some capsuleStreamApplyFlow) neverShort_applyFlow 64
    webtransportSessionInit capsuleStreamInit [[0x80, 0x00], [0x78, 0xae, 0x00]]).2.1

end Programs

end WebTransport
