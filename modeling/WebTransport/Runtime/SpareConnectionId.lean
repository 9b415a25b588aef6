import WebTransport.Quic.SendClosure

/-!
# The spare connection ID

A session keeps a spare connection ID issued, and issues another when the peer retires it
(`provide_spare_connection_id` in `runtime/session.c`). A retire is a request, which waits while
replacements come too fast. The request is taken back before the attempt to answer it, so that an
attempt that fails leaves a peer without a spare and no request for one.
-/

namespace WebTransport

/-! ## The session -/

/-- `WT_RUNTIME_SPARE_ID_INTERVAL`. -/
def runtimeSpareIdInterval : ℕ := 4000000

/-- A session, as far as its spare goes (`wt_runtime_session_t`). A request is waiting when
`spareIdPending` is `1`, and waiting and counted as refused when it is `2`. -/
structure RuntimeSession where
  connection : Connection
  applicationKeysInstalled : Bool := false
  spareConnectionId : Bool := false
  spareIdsIssued : ℕ := 0
  spareIdRefusals : ℕ := 0
  spareIdsRateLimited : ℕ := 0
  spareIdsReplaced : ℕ := 0
  spareIdNextAllowed : ℕ := 0
  spareIdRetiresSeen : ℕ := 0
  spareIdPending : ℕ := 0

/-- How many IDs the peer allows besides that of the handshake. -/
def Connection.sparesAllowed (c : Connection) : ℕ := c.peerLimits.activeConnectionIdLimit - 1

namespace RuntimeSession

/-- Whether there is no spare to provide, whatever was requested. -/
def hasNoneToProvide (s : RuntimeSession) : Bool :=
  !s.spareConnectionId || s.connection.config.localConnectionId.length = 0 ||
    quicConnectionIsClosed s.connection || !s.connection.peerLimits.set ||
    !s.applicationKeysInstalled || s.connection.sparesAllowed ≤ s.connection.issuedCount

/-- Take note of retires that arrived. -/
def noticeRetires (s : RuntimeSession) : RuntimeSession :=
  if s.connection.counters.retiresReceived ≠ s.spareIdRetiresSeen then
    { s with spareIdRetiresSeen := s.connection.counters.retiresReceived, spareIdPending := 1 }
  else s

/-- Whether the next replacement has to wait. -/
def mustWait (s : RuntimeSession) (now : ℕ) : Bool :=
  0 < s.spareIdsReplaced && now < s.spareIdNextAllowed

/-- Issue an ID, and count what becomes of it. -/
def attemptSpare (env : Env) (fuel : ℕ) (id token : List UInt8) (now : ℕ) (s : RuntimeSession) :
    Option (RuntimeSession × Status) :=
  match quicConnectionIssueConnectionId env fuel id token now s.connection with
  | none => none
  | some (c, .ok) =>
    let s := { s with connection := c, spareIdsIssued := (s.spareIdsIssued + 1) % 2 ^ 32 }
    if 1 < s.spareIdsIssued then
      some ({ s with
        spareIdsReplaced := (s.spareIdsReplaced + 1) % 2 ^ 32
        spareIdNextAllowed := (now + runtimeSpareIdInterval) % 2 ^ 64 }, .ok)
    else some (s, .ok)
  | some (c, _) => some ({ s with connection := c, spareIdRefusals := s.spareIdRefusals + 1 }, .ok)

/-- `provide_spare_connection_id`, with what the random generator gives for the ID and the token. -/
def provideSpareConnectionId (env : Env) (fuel : ℕ) (id token : Except Status (List UInt8))
    (now : ℕ) (s : RuntimeSession) : Option (RuntimeSession × Status) :=
  if s.hasNoneToProvide then some (s, .ok)
  else
    match id with
    | .error status => some (s, status)
    | .ok id =>
      match token with
      | .error status => some (s, status)
      | .ok token =>
        if 0 < s.spareIdsIssued then
          let s := s.noticeRetires
          if s.spareIdPending = 0 then some (s, .ok)
          else if s.mustWait now then
            if s.spareIdPending = 1 then
              some ({ s with
                spareIdRefusals := s.spareIdRefusals + 1
                spareIdsRateLimited := s.spareIdsRateLimited + 1
                spareIdPending := 2 }, .ok)
            else some (s, .ok)
          -- The request is taken back here, before it is known whether it can be answered.
          else attemptSpare env fuel id token now { s with spareIdPending := 0 }
        else attemptSpare env fuel id token now s

end RuntimeSession

/-! ## Runs -/

/-- What the rest of a round leaves alone: the IDs that are issued, the count of the retires, and
the limit of the peer once it is known. -/
structure KeepsIssued (c c' : Connection) : Prop where
  ids : c'.issuedIds = c.issuedIds
  count : c'.issuedCount = c.issuedCount
  next : c'.nextIssuedSequence = c.nextIssuedSequence
  retires : c'.counters.retiresReceived = c.counters.retiresReceived
  limit : c.peerLimits.set = true →
    c'.peerLimits.set = true ∧ c'.sparesAllowed = c.sparesAllowed

/-- A session that has just been started. -/
structure RuntimeSession.Fresh (s : RuntimeSession) : Prop where
  count : s.connection.issuedCount = 0
  issued : s.spareIdsIssued = 0
  replaced : s.spareIdsReplaced = 0
  nextAllowed : s.spareIdNextAllowed = 0
  seen : s.spareIdRetiresSeen = 0
  pending : s.spareIdPending = 0

/-- The rounds of a session from `start` on, whose calls for a spare all meet a condition: the
session they lead to, the time of the last call, and the times of the replacements, latest first. A
round reads RETIRE_CONNECTION_ID frames, calls for a spare, and does other things in between. -/
inductive SpareRun (env : Env) (fuel : ℕ)
    (meets : Except Status (List UInt8) → Except Status (List UInt8) → ℕ → RuntimeSession → Prop)
    (start : RuntimeSession) : RuntimeSession → ℕ → List ℕ → Prop
  | start : SpareRun env fuel meets start start 0 []
  | other {s : RuntimeSession} {clock : ℕ} {times : List ℕ} {c : Connection} {keys spare : Bool}
      (h : SpareRun env fuel meets start s clock times) (hkeeps : KeepsIssued s.connection c) :
      SpareRun env fuel meets start
        { s with connection := c, applicationKeysInstalled := keys, spareConnectionId := spare }
        clock times
  | retire {s : RuntimeSession} {clock sequence : ℕ} {times : List ℕ} {c : Connection}
      {visit : Visit} {reply : VisitReply} (h : SpareRun env fuel meets start s clock times)
      (hvisit : visitFrame env fuel visit (.retireConnectionId sequence) s.connection =
        some (c, reply)) :
      SpareRun env fuel meets start { s with connection := c } clock times
  | provide {s s' : RuntimeSession} {clock now : ℕ} {times : List ℕ}
      {id token : Except Status (List UInt8)} {status : Status}
      (h : SpareRun env fuel meets start s clock times) (hclock : clock ≤ now)
      (hmeets : meets id token now s)
      (hprovide : s.provideSpareConnectionId env fuel id token now = some (s', status)) :
      SpareRun env fuel meets start s' now
        (if s'.spareIdsReplaced = s.spareIdsReplaced then times else now :: times)

/-- Whether a call for a spare would answer a request. -/
def RuntimeSession.answersRequest (s : RuntimeSession) (now : ℕ) : Bool :=
  !s.hasNoneToProvide && 0 < s.spareIdsIssued && s.noticeRetires.spareIdPending ≠ 0 &&
    !s.mustWait now

/-- A call for a spare within the range of its clock and its counters, in which an attempt to answer
a request succeeds. -/
structure SpareAnswered (env : Env) (fuel : ℕ) (id token : Except Status (List UInt8)) (now : ℕ)
    (s : RuntimeSession) : Prop where
  clock : now + runtimeSpareIdInterval < 2 ^ 64
  issued : s.spareIdsIssued + 1 < 2 ^ 32
  answered : s.answersRequest now = true → ∀ id' token', id = .ok id' → token = .ok token' →
    ∃ c, quicConnectionIssueConnectionId env fuel id' token' now s.connection = some (c, .ok)

/-- A retired spare is replaced, at a bounded rate: the peer's limit is kept, replacements are
apart, and without a spare, where there was one, a request is recorded. -/
structure SpareKept (s : RuntimeSession) (times : List ℕ) : Prop where
  limit : s.connection.issuedCount ≤ s.connection.sparesAllowed
  apart : times.Pairwise fun later earlier => earlier + runtimeSpareIdInterval ≤ later
  recorded : s.connection.peerLimits.set = true → 0 < s.connection.sparesAllowed →
    s.connection.issuedCount = 0 → 0 < s.spareIdsIssued →
    s.spareIdPending ≠ 0 ∨ s.connection.counters.retiresReceived ≠ s.spareIdRetiresSeen

/-! ## What a step can do -/

section Steps

variable {env : Env} {fuel now : ℕ} {s s' : RuntimeSession} {c c' : Connection} {status : Status}

/-- An ID is issued or not, and the limit and the retires are what they were. -/
lemma quicConnectionIssueConnectionId_cases {id token : List UInt8}
    (h : quicConnectionIssueConnectionId env fuel id token now c = some (c', status)) :
    c'.peerLimits = c.peerLimits ∧
      c'.counters.retiresReceived = c.counters.retiresReceived ∧
      (status = .ok ∧ c'.issuedCount = c.issuedCount + 1 ∨
        status ≠ .ok ∧ c'.issuedCount = c.issuedCount) := by
  have hsame : ∀ {c₁ : Connection}, c₁.aside = c.aside → c₁.peerLimits = c.peerLimits ∧
      c₁.counters.retiresReceived = c.counters.retiresReceived ∧ c₁.issuedCount = c.issuedCount :=
    fun haside => ⟨congrArg (fun c => c.peerLimits) haside,
      congrArg (fun c => c.counters.retiresReceived) haside,
      congrArg (fun c => c.issuedCount) haside⟩
  have hrefused : ∀ {status' : Status}, status' ≠ .ok → some (c, status') = some (c', status) →
      c'.peerLimits = c.peerLimits ∧
      c'.counters.retiresReceived = c.counters.retiresReceived ∧
      (status = .ok ∧ c'.issuedCount = c.issuedCount + 1 ∨
        status ≠ .ok ∧ c'.issuedCount = c.issuedCount) := by
    intro status' hstatus heq
    cases heq
    exact ⟨rfl, rfl, .inr ⟨hstatus, rfl⟩⟩
  unfold quicConnectionIssueConnectionId at h
  split at h
  · exact hrefused (by decide) h
  split at h
  · exact hrefused (by decide) h
  split at h
  · exact hrefused (by decide) h
  split at h
  · exact hrefused (by decide) h
  split at h
  · exact hrefused (by decide) h
  split at h
  · exact hrefused (by decide) h
  split at h
  · cases h
  · rename_i c₁ hsend
    obtain ⟨hlimits, hretires, hcount⟩ :=
      hsame ((aside_closed env fun _ _ => True).sendControlFrame trivial hsend)
    cases h
    exact ⟨hlimits, hretires, .inl ⟨rfl, congrArg (· + 1) hcount⟩⟩
  · rename_i c₁ status₁ hfailed hsend
    obtain ⟨hlimits, hretires, hcount⟩ :=
      hsame ((aside_closed env fun _ _ => True).sendControlFrame trivial hsend)
    cases h
    exact ⟨hlimits, hretires, .inr ⟨hfailed, hcount⟩⟩

/-- A retire takes an ID away at most, and is counted when it does. -/
lemma visitFrame_retire {visit : Visit} {sequence : ℕ} {reply : VisitReply}
    (h : visitFrame env fuel visit (.retireConnectionId sequence) c = some (c', reply)) :
    c'.peerLimits = c.peerLimits ∧ c'.issuedCount ≤ c.issuedCount ∧
      (c'.issuedCount = c.issuedCount ∧
          c'.counters.retiresReceived = c.counters.retiresReceived ∨
        c'.counters.retiresReceived = c.counters.retiresReceived + 1) := by
  have hclosed : ∀ (c₁ : Connection) (errorCode frameType time : ℕ),
      (closeWith c₁ errorCode frameType time).1.peerLimits = c₁.peerLimits ∧
      (closeWith c₁ errorCode frameType time).1.issuedCount = c₁.issuedCount ∧
      (closeWith c₁ errorCode frameType time).1.counters.retiresReceived =
        c₁.counters.retiresReceived := fun c₁ errorCode frameType time =>
    have haside := closeWith_aside c₁ errorCode frameType time
    ⟨congrArg (fun c => c.peerLimits) haside, congrArg (fun c => c.issuedCount) haside,
      congrArg (fun c => c.counters.retiresReceived) haside⟩
  unfold visitFrame at h
  dsimp only at h
  split at h
  · cases h
    exact ⟨rfl, le_rfl, .inl ⟨rfl, rfl⟩⟩
  split at h
  · cases h
    obtain ⟨hlimits, hcount, hretires⟩ := hclosed (countFrame (.retireConnectionId sequence) c)
      quicProtocolViolation (wireTypeOf (.retireConnectionId sequence)) visit.now
    exact ⟨hlimits, hcount.le, .inl ⟨hcount, hretires⟩⟩
  unfold actOnFrame at h
  dsimp only at h
  split at h
  · cases h
    obtain ⟨hlimits, hcount, hretires⟩ := hclosed _ quicProtocolViolation 0x19 visit.now
    exact ⟨hlimits, hcount.le, .inr hretires⟩
  split at h
  · cases h
    exact ⟨rfl, le_rfl, .inr rfl⟩
  · cases h
    exact ⟨rfl, Nat.sub_le _ _, .inr rfl⟩

/-- What an attempt does to the session. -/
structure Attempted (env : Env) (fuel : ℕ) (id token : List UInt8) (now : ℕ)
    (s s' : RuntimeSession) : Prop where
  limits : s'.connection.peerLimits = s.connection.peerLimits
  retires : s'.connection.counters.retiresReceived = s.connection.counters.retiresReceived
  seen : s'.spareIdRetiresSeen = s.spareIdRetiresSeen
  outcome :
    s'.connection.issuedCount = s.connection.issuedCount + 1 ∧
        s'.spareIdsIssued = (s.spareIdsIssued + 1) % 2 ^ 32 ∧
        (1 < s'.spareIdsIssued ∧ s'.spareIdsReplaced = (s.spareIdsReplaced + 1) % 2 ^ 32 ∧
            s'.spareIdNextAllowed = (now + runtimeSpareIdInterval) % 2 ^ 64 ∨
          ¬1 < s'.spareIdsIssued ∧ s'.spareIdsReplaced = s.spareIdsReplaced ∧
            s'.spareIdNextAllowed = s.spareIdNextAllowed) ∨
      (∀ c, quicConnectionIssueConnectionId env fuel id token now s.connection ≠ some (c, .ok)) ∧
        s'.connection.issuedCount = s.connection.issuedCount ∧
        s'.spareIdsIssued = s.spareIdsIssued ∧ s'.spareIdsReplaced = s.spareIdsReplaced ∧
        s'.spareIdNextAllowed = s.spareIdNextAllowed

lemma attemptSpare_attempted {id token : List UInt8}
    (h : s.attemptSpare env fuel id token now = some (s', status)) :
    Attempted env fuel id token now s s' := by
  unfold RuntimeSession.attemptSpare at h
  split at h
  · cases h
  · rename_i c hissue
    obtain ⟨hlimits, hretires, ⟨-, hcount⟩ | ⟨hfailed, -⟩⟩ :=
      quicConnectionIssueConnectionId_cases hissue
    · dsimp only at h
      split_ifs at h with hmore
      · cases h
        exact ⟨hlimits, hretires, rfl, .inl ⟨hcount, rfl, .inl ⟨hmore, rfl, rfl⟩⟩⟩
      · cases h
        exact ⟨hlimits, hretires, rfl, .inl ⟨hcount, rfl, .inr ⟨hmore, rfl, rfl⟩⟩⟩
    · exact absurd rfl hfailed
  · rename_i c status₁ hfailed hissue
    obtain ⟨hlimits, hretires, ⟨hok, -⟩ | ⟨-, hcount⟩⟩ :=
      quicConnectionIssueConnectionId_cases hissue
    · exact absurd hok hfailed
    · cases h
      refine ⟨hlimits, hretires, rfl, .inr ⟨fun c' hok => ?_, hcount, rfl, rfl, rfl⟩⟩
      rw [hissue] at hok
      exact hfailed (congrArg Prod.snd (Option.some.inj hok))

/-- After retires are noticed none is new, and those that were make a request. -/
lemma noticeRetires_cases (s : RuntimeSession) :
    s.noticeRetires = s ∧ s.connection.counters.retiresReceived = s.spareIdRetiresSeen ∨
      s.noticeRetires = { s with
        spareIdRetiresSeen := s.connection.counters.retiresReceived, spareIdPending := 1 } := by
  unfold RuntimeSession.noticeRetires
  split_ifs with hnew
  · exact .inr rfl
  · exact .inl ⟨rfl, not_not.mp hnew⟩

/-- A call for a spare issues nothing and leaves no request out of account, or attempts to issue an
ID: the first, or the answer to a request that does not have to wait. -/
lemma provideSpareConnectionId_cases {id token : Except Status (List UInt8)}
    (h : s.provideSpareConnectionId env fuel id token now = some (s', status)) :
    (s'.connection = s.connection ∧ s'.spareIdsIssued = s.spareIdsIssued ∧
        s'.spareIdsReplaced = s.spareIdsReplaced ∧
        s'.spareIdNextAllowed = s.spareIdNextAllowed ∧
        (s'.spareIdRetiresSeen = s.spareIdRetiresSeen ∧ s'.spareIdPending = s.spareIdPending ∨
          s'.spareIdRetiresSeen = s.connection.counters.retiresReceived ∧
            s'.spareIdPending ≠ 0)) ∨
      s.hasNoneToProvide = false ∧
        (0 < s.spareIdsIssued → s.answersRequest now = true) ∧
        ∃ id' token' s₁, id = .ok id' ∧ token = .ok token' ∧
          Attempted env fuel id' token' now s₁ s' ∧
          s₁.connection = s.connection ∧ s₁.spareIdsIssued = s.spareIdsIssued ∧
          s₁.spareIdsReplaced = s.spareIdsReplaced ∧
          s₁.spareIdNextAllowed = s.spareIdNextAllowed ∧
          (s₁.spareIdRetiresSeen = s.spareIdRetiresSeen ∨
            s₁.spareIdRetiresSeen = s.connection.counters.retiresReceived) := by
  unfold RuntimeSession.provideSpareConnectionId at h
  by_cases hnone : s.hasNoneToProvide = true
  · rw [if_pos hnone] at h
    cases h
    exact .inl ⟨rfl, rfl, rfl, rfl, .inl ⟨rfl, rfl⟩⟩
  rw [if_neg hnone] at h
  have hroom : s.hasNoneToProvide = false := Bool.eq_false_iff.mpr hnone
  cases hid : id with
  | error status₁ =>
    rw [hid] at h
    cases h
    exact .inl ⟨rfl, rfl, rfl, rfl, .inl ⟨rfl, rfl⟩⟩
  | ok id' =>
    rw [hid] at h
    cases htoken : token with
    | error status₁ =>
      rw [htoken] at h
      cases h
      exact .inl ⟨rfl, rfl, rfl, rfl, .inl ⟨rfl, rfl⟩⟩
    | ok token' =>
      rw [htoken] at h
      dsimp only at h
      by_cases hissued : 0 < s.spareIdsIssued
      swap
      · rw [if_neg hissued] at h
        exact .inr ⟨hroom, fun hpos => absurd hpos hissued, id', token', s, rfl, rfl,
          attemptSpare_attempted h, rfl, rfl, rfl, rfl, .inl rfl⟩
      rw [if_pos hissued] at h
      split_ifs at h with hpending hwait hone
      · obtain ⟨hsame, -⟩ | hnoticed := noticeRetires_cases s
        · rw [hsame] at h
          cases h
          exact .inl ⟨rfl, rfl, rfl, rfl, .inl ⟨rfl, rfl⟩⟩
        · rw [hnoticed] at hpending
          cases hpending
      · obtain ⟨hsame, hseen⟩ | hnoticed := noticeRetires_cases s
        · rw [hsame] at h
          cases h
          exact .inl ⟨rfl, rfl, rfl, rfl, .inr ⟨hseen.symm, two_ne_zero⟩⟩
        · rw [hnoticed] at h
          cases h
          exact .inl ⟨rfl, rfl, rfl, rfl, .inr ⟨rfl, two_ne_zero⟩⟩
      · obtain ⟨hsame, -⟩ | hnoticed := noticeRetires_cases s
        · rw [hsame] at h
          cases h
          exact .inl ⟨rfl, rfl, rfl, rfl, .inl ⟨rfl, rfl⟩⟩
        · rw [hnoticed] at hone
          exact absurd rfl hone
      · have hattempted := attemptSpare_attempted h
        obtain ⟨hsame, -⟩ | hnoticed := noticeRetires_cases s
        · refine .inr ⟨hroom, fun _ => ?_, id', token', _, rfl, rfl, hattempted, ?_⟩
          · rw [hsame] at hpending hwait
            simp [RuntimeSession.answersRequest, hroom, hissued, hsame, hpending, hwait]
          · rw [hsame]
            exact ⟨rfl, rfl, rfl, rfl, .inl rfl⟩
        · refine .inr ⟨hroom, fun _ => ?_, id', token', _, rfl, rfl, hattempted, ?_⟩
          · have hgo : s.mustWait now = false := by
              rw [hnoticed] at hwait
              exact Bool.eq_false_iff.mpr hwait
            simp [RuntimeSession.answersRequest, hroom, hissued, hnoticed, hgo]
          · rw [hnoticed]
            exact ⟨rfl, rfl, rfl, rfl, .inr rfl⟩

end Steps

/-! ## What holds in every round -/

/-- No more IDs are issued than the peer allows, and none before it is known what it allows. -/
structure WithinLimit (c : Connection) : Prop where
  unset : c.peerLimits.set = false → c.issuedCount = 0
  limit : c.issuedCount ≤ c.sparesAllowed

/-- What carries the bounded rate and the request from round to round. -/
structure SpareInvariant (s : RuntimeSession) (times : List ℕ) : Prop where
  replaced : s.spareIdsReplaced ≤ s.spareIdsIssued
  begun : times ≠ [] → 0 < s.spareIdsReplaced
  ahead : ∀ time ∈ times, time + runtimeSpareIdInterval ≤ s.spareIdNextAllowed
  apart : times.Pairwise fun later earlier => earlier + runtimeSpareIdInterval ≤ later
  seen : s.spareIdRetiresSeen ≤ s.connection.counters.retiresReceived
  recorded : s.connection.issuedCount = 0 → 0 < s.spareIdsIssued →
    s.spareIdPending ≠ 0 ∨ s.spareIdRetiresSeen < s.connection.counters.retiresReceived

section Rounds

variable {env : Env} {fuel now : ℕ} {s s' : RuntimeSession} {c c' : Connection} {status : Status}
  {times : List ℕ} {id token : Except Status (List UInt8)}

lemma WithinLimit.other (h : WithinLimit c) (hkeeps : KeepsIssued c c') : WithinLimit c' := by
  cases hset : c.peerLimits.set with
  | false =>
    have hnone := hkeeps.count.trans (h.unset hset)
    exact ⟨fun _ => hnone, hnone.le.trans (Nat.zero_le _)⟩
  | true =>
    obtain ⟨hset', hlimit⟩ := hkeeps.limit hset
    refine ⟨fun hunset => absurd (hset'.symm.trans hunset) (by decide), ?_⟩
    rw [hkeeps.count, hlimit]
    exact h.limit

lemma WithinLimit.retire (h : WithinLimit c) (hlimits : c'.peerLimits = c.peerLimits)
    (hcount : c'.issuedCount ≤ c.issuedCount) : WithinLimit c' := by
  refine ⟨fun hunset => ?_, ?_⟩
  · rw [hlimits] at hunset
    have hzero := h.unset hunset
    omega
  · rw [Connection.sparesAllowed, hlimits]
    exact hcount.trans h.limit

/-- A spare is provided while there is room for one. -/
lemma WithinLimit.provide (h : WithinLimit s.connection)
    (hprovide : s.provideSpareConnectionId env fuel id token now = some (s', status)) :
    WithinLimit s'.connection := by
  obtain ⟨hsame, -⟩ | ⟨hroom, -, id', token', s₁, -, -, hattempted, hsame, -⟩ :=
    provideSpareConnectionId_cases hprovide
  · rwa [hsame]
  · have hlimits := hattempted.limits
    rw [hsame] at hlimits
    have hset : s.connection.peerLimits.set = true := by
      by_contra hunset
      simp [RuntimeSession.hasNoneToProvide, hunset] at hroom
    have hbelow : s.connection.issuedCount < s.connection.sparesAllowed := by
      by_contra hfull
      simp [RuntimeSession.hasNoneToProvide, not_lt.mp hfull] at hroom
    refine ⟨fun hunset => ?_, ?_⟩
    · rw [hlimits, hset] at hunset
      cases hunset
    · rw [Connection.sparesAllowed, hlimits]
      obtain ⟨hcount, -⟩ | ⟨-, hcount, -⟩ := hattempted.outcome
      · rw [hcount, hsame]
        exact hbelow
      · rw [hcount, hsame]
        exact hbelow.le

lemma SpareInvariant.other (h : SpareInvariant s times) (hkeeps : KeepsIssued s.connection c)
    (keys spare : Bool) : SpareInvariant
      { s with connection := c, applicationKeysInstalled := keys, spareConnectionId := spare }
      times := by
  refine ⟨h.replaced, h.begun, h.ahead, h.apart, h.seen.trans hkeeps.retires.ge, ?_⟩
  dsimp only
  rw [hkeeps.count, hkeeps.retires]
  exact h.recorded

/-- A retire that takes an ID away is a request, as it was not seen before. -/
lemma SpareInvariant.retire (h : SpareInvariant s times)
    (hretire : c.issuedCount = s.connection.issuedCount ∧
        c.counters.retiresReceived = s.connection.counters.retiresReceived ∨
      c.counters.retiresReceived = s.connection.counters.retiresReceived + 1) :
    SpareInvariant { s with connection := c } times := by
  have hseen := h.seen
  obtain ⟨hcount, hsame⟩ | hnew := hretire
  · refine ⟨h.replaced, h.begun, h.ahead, h.apart, hseen.trans hsame.ge, ?_⟩
    dsimp only
    rw [hcount, hsame]
    exact h.recorded
  · refine ⟨h.replaced, h.begun, h.ahead, h.apart, ?_, fun _ _ => .inr ?_⟩
    · change s.spareIdRetiresSeen ≤ c.counters.retiresReceived
      omega
    · change s.spareIdRetiresSeen < c.counters.retiresReceived
      omega

/-- A call in which an attempt to answer a request succeeds leaves no peer without spare and without
request, and a replacement is one interval behind the last. -/
lemma SpareInvariant.provide (h : SpareInvariant s times)
    (hanswered : SpareAnswered env fuel id token now s)
    (hprovide : s.provideSpareConnectionId env fuel id token now = some (s', status)) :
    SpareInvariant s'
      (if s'.spareIdsReplaced = s.spareIdsReplaced then times else now :: times) := by
  have hclock := hanswered.clock
  have hrange := hanswered.issued
  have hreplaced := h.replaced
  obtain ⟨hsame, hissued, hreplacedSame, hallowed, hrequest⟩ |
      ⟨-, hgo, id', token', s₁, hid, htoken, hattempted, hsame, hissued, hreplaced₁, hallowed,
        hseen⟩ := provideSpareConnectionId_cases hprovide
  · rw [if_pos hreplacedSame]
    refine ⟨by omega, ?_, ?_, h.apart, ?_, ?_⟩
    · rw [hreplacedSame]
      exact h.begun
    · rw [hallowed]
      exact h.ahead
    · rw [hsame]
      obtain ⟨hold, -⟩ | ⟨hnew, -⟩ := hrequest
      · rw [hold]
        exact h.seen
      · exact hnew.le
    · rw [hsame, hissued]
      intro hnone hbefore
      obtain ⟨hold, hpending⟩ | ⟨-, hpending⟩ := hrequest
      · rw [hold, hpending]
        exact h.recorded hnone hbefore
      · exact .inl hpending
  · have hseen' : s'.spareIdRetiresSeen ≤ s'.connection.counters.retiresReceived := by
      have hbefore := h.seen
      rw [hattempted.seen, hattempted.retires, hsame]
      obtain hold | hnew := hseen
      · omega
      · omega
    obtain ⟨hcount, hissued', hoften⟩ | ⟨hfailed, hcount, hissued', hreplaced', hallowed'⟩ :=
      hattempted.outcome
    · have hnone : s'.connection.issuedCount = 0 → 0 < s'.spareIdsIssued →
          s'.spareIdPending ≠ 0 ∨
            s'.spareIdRetiresSeen < s'.connection.counters.retiresReceived := by
        intro hzero
        omega
      rw [hissued, Nat.mod_eq_of_lt hrange] at hissued'
      obtain ⟨hmore, hreplaced', hallowed'⟩ | ⟨hfirst, hreplaced', hallowed'⟩ := hoften
      · rw [hreplaced₁, Nat.mod_eq_of_lt (by omega)] at hreplaced'
        rw [Nat.mod_eq_of_lt hclock] at hallowed'
        rw [if_neg (by omega)]
        -- The interval after the last replacement has passed.
        have hpassed : ∀ time ∈ times, time + runtimeSpareIdInterval ≤ now := by
          intro time hmem
          have hwait : s.mustWait now = false := by
            have hanswers := hgo (by omega)
            by_contra hmust
            simp [RuntimeSession.answersRequest, hmust] at hanswers
          have hbegun := h.begun (List.ne_nil_of_mem hmem)
          have hahead := h.ahead time hmem
          have hlate : s.spareIdNextAllowed ≤ now := by
            by_contra hearly
            simp [RuntimeSession.mustWait, hbegun, not_le.mp hearly] at hwait
          omega
        refine ⟨by omega, fun _ => by omega, ?_, List.pairwise_cons.mpr ⟨hpassed, h.apart⟩, hseen',
          hnone⟩
        rw [hallowed']
        refine List.forall_mem_cons.mpr ⟨le_rfl, fun time hmem => ?_⟩
        exact (hpassed time hmem).trans (Nat.le_add_right now _)
      · rw [if_pos (hreplaced'.trans hreplaced₁)]
        refine ⟨by omega, fun hsome => ?_, ?_, h.apart, hseen', hnone⟩
        · have hbegun := h.begun hsome
          omega
        · rw [hallowed', hallowed]
          exact h.ahead
    · rw [if_pos (hreplaced'.trans hreplaced₁)]
      refine ⟨by omega, fun hsome => ?_, ?_, h.apart, hseen', fun _ hbefore => ?_⟩
      · have hbegun := h.begun hsome
        omega
      · rw [hallowed', hallowed]
        exact h.ahead
      · -- A request that was there is answered, so that the attempt was for the first spare.
        obtain ⟨c, hok⟩ := hanswered.answered (hgo (by omega)) id' token' hid htoken
        rw [hsame] at hfailed
        exact absurd hok (hfailed c)

end Rounds

/-! ## Every run -/

/-- In every run the peer's limit is kept. In every run within the range of the clock and of the
counters in which each attempt to answer a request succeeds, replacements are an interval apart, and
without a spare, where there was one, a request is recorded. -/
theorem spareRun_kept {env : Env} {fuel : ℕ} {start : RuntimeSession} (hstart : start.Fresh) :
    (∀ {s : RuntimeSession} {clock : ℕ} {times : List ℕ},
      SpareRun env fuel (fun _ _ _ _ => True) start s clock times →
      s.connection.issuedCount ≤ s.connection.sparesAllowed) ∧
    ∀ {s : RuntimeSession} {clock : ℕ} {times : List ℕ},
      SpareRun env fuel (SpareAnswered env fuel) start s clock times → SpareKept s times := by
  have hlimit : ∀ {meets : Except Status (List UInt8) → Except Status (List UInt8) → ℕ →
      RuntimeSession → Prop} {s : RuntimeSession} {clock : ℕ} {times : List ℕ},
      SpareRun env fuel meets start s clock times → WithinLimit s.connection := by
    intro meets s clock times h
    induction h with
    | start => exact ⟨fun _ => hstart.count, hstart.count.le.trans (Nat.zero_le _)⟩
    | other _ hkeeps ih => exact ih.other hkeeps
    | retire _ hvisit ih =>
      obtain ⟨hlimits, hcount, -⟩ := visitFrame_retire hvisit
      exact ih.retire hlimits hcount
    | provide _ _ _ hprovide ih => exact ih.provide hprovide
  refine ⟨fun h => (hlimit h).limit, fun {s clock times} h => ?_⟩
  have hinvariant : SpareInvariant s times := by
    induction h with
    | start =>
      refine ⟨?_, fun hsome => absurd rfl hsome, nofun, List.Pairwise.nil, ?_, fun _ hbefore => ?_⟩
      · rw [hstart.replaced]
        exact Nat.zero_le _
      · rw [hstart.seen]
        exact Nat.zero_le _
      · rw [hstart.issued] at hbefore
        exact absurd hbefore (Nat.lt_irrefl 0)
    | other _ hkeeps ih => exact ih.other hkeeps _ _
    | retire _ hvisit ih => exact ih.retire (visitFrame_retire hvisit).2.2
    | provide _ _ hmeets hprovide ih => exact ih.provide hmeets hprovide
  refine ⟨(hlimit h).limit, hinvariant.apart, fun _ _ hnone hbefore => ?_⟩
  obtain hpending | hnew := hinvariant.recorded hnone hbefore
  · exact .inl hpending
  · exact .inr hnew.ne'

/-! ## A lost request -/

/-- An environment whose socket takes one datagram and asks to try again after that. -/
def busyEnv : Env := { steadyEnv with udpSend := fun calls => if calls = 0 then .ok else .again }

/-- A session of a server that may issue one spare. -/
def spareSession : RuntimeSession where
  connection := { keyedServer with
    config := { serverConfig with localConnectionId := [1] }
    peerLimits := { activeConnectionIdLimit := 2, set := true } }
  applicationKeysInstalled := true
  spareConnectionId := true

/-- A session after a call for a spare. -/
def afterSpare (env : Env) (now : ℕ) (s : RuntimeSession) : RuntimeSession :=
  ((s.provideSpareConnectionId env 4 (.ok [9]) (.ok (List.replicate 16 7)) now).map
    Prod.fst).getD s

/-- A session after the peer retired the first spare. -/
def afterRetire (s : RuntimeSession) : RuntimeSession :=
  { s with connection := ((visitFrame busyEnv 4 ⟨.application, 0, 0⟩ (.retireConnectionId 1)
      s.connection).map Prod.fst).getD s.connection }

lemma spareSession_fresh : spareSession.Fresh := ⟨rfl, rfl, rfl, rfl, rfl, rfl⟩

/-- Where a call for a spare returns, it returns the session after it. -/
lemma provide_afterSpare {env : Env} {now : ℕ} {s : RuntimeSession}
    (h : (s.provideSpareConnectionId env 4 (.ok [9]) (.ok (List.replicate 16 7)) now).isSome =
      true) :
    ∃ status, s.provideSpareConnectionId env 4 (.ok [9]) (.ok (List.replicate 16 7)) now =
      some (afterSpare env now s, status) := by
  obtain ⟨⟨s', status⟩, hprovide⟩ := Option.isSome_iff_exists.mp h
  refine ⟨status, ?_⟩
  unfold afterSpare
  rw [hprovide]
  rfl

/-- One spare is issued in a run in which nothing fails. -/
theorem spareRun_kept_one : SpareKept (afterSpare steadyEnv 5 spareSession) [] := by
  have hsome : (spareSession.provideSpareConnectionId steadyEnv 4 (.ok [9])
      (.ok (List.replicate 16 7)) 5).isSome = true := by decide +kernel
  obtain ⟨status, hprovide⟩ := provide_afterSpare hsome
  have hanswered : SpareAnswered steadyEnv 4 (.ok [9]) (.ok (List.replicate 16 7)) 5
      spareSession := ⟨by decide, by decide, fun hanswers => absurd hanswers (by decide)⟩
  have hrun := SpareRun.provide .start (Nat.zero_le 5) hanswered hprovide
  rw [if_pos (by decide +kernel)] at hrun
  exact (spareRun_kept spareSession_fresh).2 hrun

/-- The spare is retired, the socket is busy when the request is to be answered, and the request is
gone. -/
theorem spare_request_lost : ¬∀ (env : Env) (fuel : ℕ) (start : RuntimeSession), start.Fresh →
    ∀ (s : RuntimeSession) (clock : ℕ) (times : List ℕ),
      SpareRun env fuel (fun _ _ _ _ => True) start s clock times → SpareKept s times := by
  intro h
  have hfirst : (spareSession.provideSpareConnectionId busyEnv 4 (.ok [9])
      (.ok (List.replicate 16 7)) 0).isSome = true := by decide +kernel
  obtain ⟨_, hissued⟩ := provide_afterSpare hfirst
  have hsecond : ((afterRetire (afterSpare busyEnv 0 spareSession)).provideSpareConnectionId busyEnv
      4 (.ok [9]) (.ok (List.replicate 16 7)) 1).isSome = true := by decide +kernel
  obtain ⟨_, hlost⟩ := provide_afterSpare hsecond
  have hvisit : (visitFrame busyEnv 4 ⟨.application, 0, 0⟩ (.retireConnectionId 1)
      (afterSpare busyEnv 0 spareSession).connection).isSome = true := by decide +kernel
  obtain ⟨⟨c, reply⟩, hretired⟩ := Option.isSome_iff_exists.mp hvisit
  have hafter : afterRetire (afterSpare busyEnv 0 spareSession) =
      { afterSpare busyEnv 0 spareSession with connection := c } := by
    unfold afterRetire
    rw [hretired]
    rfl
  have hrun : SpareRun busyEnv 4 (fun _ _ _ _ => True) spareSession _ _ _ :=
    .retire (.provide .start le_rfl trivial hissued) hretired
  rw [← hafter] at hrun
  have hkept := h busyEnv 4 spareSession spareSession_fresh _ _ _
    (SpareRun.provide hrun (Nat.zero_le 1) trivial hlost)
  have hnone := hkept.recorded (by decide +kernel) (by decide +kernel) (by decide +kernel)
    (by decide +kernel)
  exact absurd hnone (by decide +kernel)

end WebTransport
