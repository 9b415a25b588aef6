import WebTransport.Lib.Deadline
import WebTransport.Quic.AckOrder
import WebTransport.Quic.SendClosure

/-!
# The timer of a connection

What a connection asks to be woken for (`wt_quic_connection_next_timeout`), beside what it does
when it is woken (`wt_quic_connection_on_timeout`). The two go through the deadlines on their
own. The first knows the idle timeout, the owed acknowledgements, the loss times and the probes
that are still ahead; the second also serves the probes that are overdue and the validation of
a path.
-/

namespace WebTransport

open Deadline (arm)

lemma Space.mem_all (space : Space) : space ∈ Space.all := by
  cases space <;> simp [Space.all]

/-! ## The delay -/

/-- When an owed acknowledgement has to go out. -/
def ackDeadline (c : Connection) (space : Space) : Option ℕ :=
  let received := (c.spaces space).received
  if received.ackPending ∧ received.ackElicitingSinceAck ≠ 0 then
    some (u64Add (c.receivedAt space) (ackDelayFor c space))
  else none

/-- When a packet of a space is to be declared lost. -/
def lossDeadline (c : Connection) (space : Space) : Option ℕ :=
  let time := quicLossTime c.loss space.index (c.spaces space).rtt (c.spaces space).ackedSoFar
  if time ≠ 0 then some time else none

/-- When the connection is idle for too long. -/
def idleDeadline (c : Connection) : Option ℕ :=
  if idleTimeoutOf c ≠ 0 then some (u64Add c.lastActivity (idleTimeoutOf c)) else none

/-- Take the deadlines of one space into account; `none` when one has passed. A probe that is
overdue is passed over. -/
def spaceTimeout (now : ℕ) (c : Connection) (earliest : Option ℕ) (space : Space) :
    Option (Option ℕ) :=
  ((ackDeadline c space).elim (some earliest) (arm now earliest)).bind fun earliest =>
    ((lossDeadline c space).elim (some earliest) (arm now earliest)).bind fun earliest =>
      match probeTime c space with
      | some pto => if now < pto then arm now earliest pto else some earliest
      | none => some earliest

/-- How long the connection can be left alone (`wt_quic_connection_next_timeout`). -/
def quicConnectionNextTimeout (now : ℕ) (c : Connection) : Status × ℕ :=
  if quicCloseIsClosed c.close then
    (.ok, if quicCloseDrainingExpired c.close now then 0 else u64Sub c.close.drainingUntil now)
  else
    match ((idleDeadline c).elim (some none) (arm now none)).bind fun earliest =>
        Space.all.foldlM (spaceTimeout now c) earliest with
    | none => (.ok, 0)
    | some none => (.state, 0)
    | some (some delay) => (.ok, delay)

/-- The deadlines that the delay is taken from. -/
def timerDeadlines (now : ℕ) (c : Connection) : List ℕ :=
  (idleDeadline c).toList ++ Space.all.flatMap fun space =>
    (ackDeadline c space).toList ++ (lossDeadline c space).toList ++
      ((probeTime c space).filter fun pto => now < pto).toList

section Delay

variable {now : ℕ} {c : Connection}

/-- A deadline that may be absent is a list of at most one. -/
lemma elim_arm_eq (deadline : Option ℕ) (earliest : Option ℕ) :
    deadline.elim (some earliest) (arm now earliest) =
      deadline.toList.foldlM (arm now) earliest := by
  cases deadline with
  | none => rfl
  | some d => simp

/-- The deadlines of a space, one after the other. -/
lemma spaceTimeout_eq (earliest : Option ℕ) (space : Space) :
    spaceTimeout now c earliest space =
      ((ackDeadline c space).toList ++ (lossDeadline c space).toList ++
        ((probeTime c space).filter fun pto => now < pto).toList).foldlM (arm now) earliest := by
  rw [List.foldlM_append, List.foldlM_append, ← elim_arm_eq, spaceTimeout]
  simp only [Option.bind_eq_bind, Option.bind_assoc]
  congr 1
  funext earliest
  rw [← elim_arm_eq]
  congr 1
  funext earliest
  cases probeTime c space with
  | none => rfl
  | some pto =>
    by_cases h : now < pto
    · simp [h, Option.filter]
    · simp [h, Option.filter]

/-- The delay of an open connection is that of its deadlines. -/
lemma quicConnectionNextTimeout_eq (hopen : quicCloseIsClosed c.close = false) :
    quicConnectionNextTimeout now c =
      match (timerDeadlines now c).foldlM (arm now) none with
      | none => (.ok, 0)
      | some none => (.state, 0)
      | some (some delay) => (.ok, delay) := by
  have hspaces : ∀ (spaces : List Space) (earliest : Option ℕ),
      spaces.foldlM (spaceTimeout now c) earliest =
        (spaces.flatMap fun space => (ackDeadline c space).toList ++
          (lossDeadline c space).toList ++
          ((probeTime c space).filter fun pto => now < pto).toList).foldlM (arm now) earliest := by
    intro spaces
    induction spaces with
    | nil => exact fun _ => rfl
    | cons space spaces ih =>
      intro earliest
      rw [List.foldlM_cons, List.flatMap_cons, List.foldlM_append, spaceTimeout_eq]
      congr 1
      funext earliest
      exact ih earliest
  unfold quicConnectionNextTimeout timerDeadlines
  rw [if_neg (by simp [hopen]), List.foldlM_append, elim_arm_eq]
  simp only [hspaces, Option.bind_eq_bind]

/-- What the delay says about the deadlines: one has passed, there is none, or the first of
them ends it. -/
inductive DelayOf (now : ℕ) (c : Connection) : Status × ℕ → Prop
  | past {d : ℕ} (hd : d ∈ timerDeadlines now c) (hpast : d ≤ now) : DelayOf now c (.ok, 0)
  | never (h : timerDeadlines now c = []) : DelayOf now c (.state, 0)
  | ahead {delay : ℕ} (hall : ∀ d ∈ timerDeadlines now c, now + delay ≤ d)
      (hlast : now + delay ∈ timerDeadlines now c) : DelayOf now c (.ok, delay)

theorem quicConnectionNextTimeout_spec (hopen : quicCloseIsClosed c.close = false) :
    DelayOf now c (quicConnectionNextTimeout now c) := by
  rw [quicConnectionNextTimeout_eq hopen]
  rcases Deadline.foldlM_arm (timerDeadlines now c) none with ⟨h, d, hd, hpast⟩ | ⟨h, hnil⟩ |
    ⟨delay, h, hall, -, hlast⟩
  · rw [h]
    exact .past hd hpast
  · rw [h]
    exact .never hnil
  · rw [h]
    refine .ahead hall ?_
    rcases hlast with ⟨d, hd, rfl⟩ | hnone
    · exact hd
    · cases hnone

lemma mem_timerDeadlines {d : ℕ} : d ∈ timerDeadlines now c ↔
    idleDeadline c = some d ∨ ∃ space, ackDeadline c space = some d ∨
      lossDeadline c space = some d ∨ probeTime c space = some d ∧ now < d := by
  simp [timerDeadlines, Space.mem_all, Option.filter_eq_some_iff]

end Delay

/-! ## What a due timer does -/

section Fires

variable {env : Env} {fuel now : ℕ} {c c' : Connection}

/-- The validation of a path is where it was. -/
def PathKept (c c' : Connection) : Prop :=
  c'.pathValidating = c.pathValidating ∧ c'.pathValidationAttempts = c.pathValidationAttempts

/-- Sending has no part in the validation of a path. -/
lemma PathKept.of_aside (h : c'.aside = c.aside) : PathKept c c' := by
  have hvalidating : c'.aside.pathValidating = c.aside.pathValidating := by rw [h]
  have hattempts : c'.aside.pathValidationAttempts = c.aside.pathValidationAttempts := by rw [h]
  exact ⟨hvalidating, hattempts⟩

/-- A probe that goes out without an error is recorded, or the connection has closed. -/
lemma sendControlFrame_ping_ok {space : Space}
    (h : sendControlFrame env fuel space .ping true now c = some (c', .ok)) :
    c.trace.length < c'.trace.length ∨ quicConnectionIsClosed c' = true := by
  unfold sendControlFrame at h
  rw [if_pos (by rfl)] at h
  unfold sendOneFrame at h
  split at h
  · cases h
  split at h
  · rename_i hencode
    cases h
    cases hencode
  split at h
  · cases h
  simp only at h
  unfold sendEncodedFrame at h
  split at h
  · cases h
  · rename_i hsend
    cases h
    exact sendPacket_ok hsend
  · rename_i hne _
    cases h
    exact absurd rfl hne

/-- Steps that leave a connection alone can be left out. -/
lemma inOrder_append_idle {steps rest : List (Connection → Option (Connection × Status))}
    (h : ∀ step ∈ steps, step c = some (c, .ok)) :
    inOrder (steps ++ rest) c = inOrder rest c := by
  induction steps with
  | nil => rfl
  | cons step steps ih =>
    rw [List.cons_append, inOrder, h step List.mem_cons_self]
    exact ih fun s hs => h s (List.mem_cons_of_mem _ hs)

/-- Before the deadlines that the delay is taken from, only the path and the probes count. -/
lemma quicConnectionOnTimeout_early (hopen : quicCloseIsClosed c.close = false) {t : ℕ}
    (hidle : ∀ d, idleDeadline c = some d → t < d)
    (hack : ∀ space d, ackDeadline c space = some d → t < d)
    (hloss : ∀ space d, lossDeadline c space = some d → t < d) :
    quicConnectionOnTimeout env fuel t c =
      inOrder [pathValidationOnTimeout env fuel t, probeTimer env fuel t] c := by
  have hnotIdle : ¬ (idleTimeoutOf c ≠ 0 ∧ u64Add c.lastActivity (idleTimeoutOf c) ≤ t) := by
    rintro ⟨hne, hle⟩
    have hlt := hidle _ (if_pos hne)
    omega
  unfold quicConnectionOnTimeout
  rw [if_neg (by simp [hopen]), if_neg hnotIdle]
  refine inOrder_append_idle ?_
  intro step hstep
  rcases List.mem_append.mp hstep with hstep | hstep
  · obtain ⟨space, -, rfl⟩ := List.mem_map.mp hstep
    unfold lossTimer
    simp only
    rw [if_neg]
    rintro ⟨hne, hle⟩
    have hlt := hloss space _ (if_pos hne)
    omega
  · obtain ⟨space, -, rfl⟩ := List.mem_map.mp hstep
    unfold ackTimer
    simp only
    rw [if_neg]
    rintro ⟨hpending, heliciting, hle⟩
    have hlt := hack space _ (if_pos ⟨hpending, heliciting⟩)
    omega

/-- The probe of a space that can send it, when it is due. -/
def ProbeDue (c : Connection) (t : ℕ) (space : Space) : Prop :=
  (c.keysOut space).isSome = true ∧ ∃ pto, probeTime c space = some pto ∧ pto ≤ t

/-- One space more in the search for the probe that is due first. -/
def probeStep (c : Connection) (t : ℕ) (earliest : Option (Space × ℕ)) (space : Space) :
    Option (Space × ℕ) :=
  if (c.keysOut space).isNone then earliest
  else
    match probeTime c space with
    | none => earliest
    | some pto =>
      if pto ≤ t ∧ earliest.all (fun e => pto < e.2) then some (space, pto) else earliest

lemma probeSpace_eq (c : Connection) (t : ℕ) :
    probeSpace c t = Space.all.foldl (probeStep c t) none := rfl

lemma probeSpace_isSome {t : ℕ} :
    (probeSpace c t).isSome = true ↔ ∃ space, ProbeDue c t space := by
  -- One space is added to the search at a time.
  have hstep : ∀ (earliest : Option (Space × ℕ)) (space : Space),
      (probeStep c t earliest space).isSome = true ↔
        earliest.isSome = true ∨ ProbeDue c t space := by
    intro earliest space
    unfold ProbeDue probeStep
    cases hkeys : c.keysOut space with
    | none => simp
    | some keys =>
      cases hprobe : probeTime c space with
      | none => simp
      | some pto =>
        cases earliest with
        | none =>
          by_cases hdue : pto ≤ t
          · simp [hdue]
          · simp [hdue]
        | some e =>
          simp only [Option.isNone_some, Bool.false_eq_true, if_false, Option.isSome_some, true_or,
            iff_true]
          split
          · rfl
          · rfl
  have hfold : ∀ (spaces : List Space) (earliest : Option (Space × ℕ)),
      (spaces.foldl (probeStep c t) earliest).isSome = true ↔
        earliest.isSome = true ∨ ∃ space ∈ spaces, ProbeDue c t space := by
    intro spaces
    induction spaces with
    | nil => simp
    | cons space spaces ih =>
      intro earliest
      rw [List.foldl_cons, ih, hstep, or_assoc, List.exists_mem_cons_iff]
  rw [probeSpace_eq, hfold]
  simp [Space.mem_all]

/-- The validation of a path is due. -/
def PathDue (c : Connection) (t : ℕ) : Prop :=
  c.pathValidating = true ∧ c.pathValidationDeadline ≤ t

lemma pathValidationOnTimeout_idle {t : ℕ} (h : ¬ PathDue c t) :
    pathValidationOnTimeout env fuel t c = some (c, .ok) := by
  unfold pathValidationOnTimeout
  cases hvalidating : c.pathValidating with
  | false => rfl
  | true =>
    have hlt : t < c.pathValidationDeadline := by
      by_contra hle
      exact h ⟨hvalidating, not_lt.mp hle⟩
    rw [if_neg (by simp), if_pos hlt]

/-- A path that is due is asked about again, or given up. -/
lemma pathValidationOnTimeout_fires {t : ℕ} (h : PathDue c t) {status : Status}
    (hrun : pathValidationOnTimeout env fuel t c = some (c', status)) : ¬ PathKept c c' := by
  intro hkept
  unfold pathValidationOnTimeout at hrun
  rw [if_neg (by simp [h.1]), if_neg (not_lt.mpr h.2)] at hrun
  split at hrun
  · obtain ⟨rfl, -⟩ := Prod.mk.inj (Option.some.inj hrun)
    exact absurd (hkept.1.trans h.1) (by simp)
  · simp only at hrun
    have harm : ∀ x : Connection, PathKept x (armPathChallenge env x).1 := by
      intro x
      unfold armPathChallenge
      simp only
      split
      · exact ⟨rfl, rfl⟩
      · exact ⟨rfl, rfl⟩
    have hflush : ∀ {x x' : Connection} {s : Status},
        flushPathChallenge env fuel t x = some (x', s) → PathKept x x' := by
      intro x x' s hx
      unfold flushPathChallenge at hx
      split at hx
      · obtain ⟨rfl, -⟩ := Prod.mk.inj (Option.some.inj hx)
        exact ⟨rfl, rfl⟩
      split at hx
      · obtain ⟨rfl, -⟩ := Prod.mk.inj (Option.some.inj hx)
        exact ⟨rfl, rfl⟩
      split at hx
      · cases hx
      all_goals
        rename_i hsend
        have hsent := PathKept.of_aside ((aside_closed env fun _ _ => True).sendControlFrame trivial hsend)
        obtain ⟨rfl, -⟩ := Prod.mk.inj (Option.some.inj hx)
        exact hsent
    have hone := harm { c with
      pathValidationAttempts := c.pathValidationAttempts + 1
      pathValidationDeadline := u64Add t (ptoOf c) }
    have hattempts : c'.pathValidationAttempts = c.pathValidationAttempts + 1 := by
      split at hrun <;> rename_i heq <;> rw [heq] at hone
      · exact (hflush hrun).2.trans hone.2
      · obtain ⟨rfl, -⟩ := Prod.mk.inj (Option.some.inj hrun)
        exact hone.2
    have hsame := hkept.2
    omega

/-- Without a probe that is due, nothing is probed. -/
lemma probeTimer_idle {t : ℕ} (h : ∀ space, ¬ ProbeDue c t space) :
    probeTimer env fuel t c = some (c, .ok) := by
  have hnone : probeSpace c t = none := by
    rw [← Option.not_isSome_iff_eq_none]
    intro hsome
    obtain ⟨space, hdue⟩ := probeSpace_isSome.mp hsome
    exact h space hdue
  unfold probeTimer
  rw [hnone]

lemma keysOut_of_probeSpace {t : ℕ} {r : Space × ℕ} (h : probeSpace c t = some r) :
    (c.keysOut r.1).isSome = true := by
  have hfold : ∀ (spaces : List Space) (earliest : Option (Space × ℕ)),
      (∀ e, earliest = some e → (c.keysOut e.1).isSome = true) →
      ∀ e, (spaces.foldl (probeStep c t) earliest) = some e → (c.keysOut e.1).isSome = true := by
    intro spaces
    induction spaces with
    | nil => exact fun _ h => h
    | cons space spaces ih =>
      intro earliest hearliest
      rw [List.foldl_cons]
      refine ih _ ?_
      intro e he
      unfold probeStep at he
      split at he
      · exact hearliest e he
      · rename_i hkeys
        split at he
        · exact hearliest e he
        · split at he
          · obtain rfl := Option.some.inj he
            exact Option.isSome_iff_ne_none.mpr (by simpa using hkeys)
          · exact hearliest e he
  rw [probeSpace_eq] at h
  exact hfold Space.all none (by simp) r h

/-- The connection that a probe is sent from: the oldest frame is reported and the backoff
has grown. -/
def beforeProbe (c : Connection) (space : Space) : Connection :=
  let reported :=
    match oldestDescriptor c space with
    | none => c
    | some descriptor => c.observe (.lostFrame descriptor)
  { reported with loss := quicLossOnPto reported.loss }

lemma probeTimer_eq {t : ℕ} {r : Space × ℕ} (h : probeSpace c t = some r) :
    probeTimer env fuel t c = flushSpace env fuel r.1 true false t (beforeProbe c r.1) := by
  unfold probeTimer
  rw [h]
  rfl

lemma beforeProbe_kept (c : Connection) (space : Space) :
    PathKept c (beforeProbe c space) ∧ c.trace <+: (beforeProbe c space).trace ∧
      (beforeProbe c space).keysOut = c.keysOut ∧
      quicConnectionIsClosed (beforeProbe c space) = quicConnectionIsClosed c := by
  unfold beforeProbe
  cases oldestDescriptor c space with
  | none => exact ⟨⟨rfl, rfl⟩, List.prefix_rfl, rfl, rfl⟩
  | some descriptor => exact ⟨⟨rfl, rfl⟩, List.prefix_append _ _, rfl, rfl⟩

/-- Probing has no part in the validation of a path. -/
lemma probeTimer_pathKept {t : ℕ} {status : Status}
    (h : probeTimer env fuel t c = some (c', status)) : PathKept c c' := by
  cases hspace : probeSpace c t with
  | none =>
    unfold probeTimer at h
    rw [hspace] at h
    obtain ⟨rfl, -⟩ := Prod.mk.inj (Option.some.inj h)
    exact .of_aside rfl
  | some r =>
    rw [probeTimer_eq hspace] at h
    have hbefore := (beforeProbe_kept c r.1).1
    have hafter : PathKept (beforeProbe c r.1) c' := by
      unfold flushSpace at h
      split at h
      · obtain ⟨rfl, -⟩ := Prod.mk.inj (Option.some.inj h)
        exact .of_aside rfl
      split at h
      · obtain ⟨rfl, -⟩ := Prod.mk.inj (Option.some.inj h)
        exact .of_aside rfl
      rw [if_pos rfl] at h
      exact .of_aside ((aside_closed env fun _ _ => True).sendControlFrame trivial h)
    exact ⟨hafter.1.trans hbefore.1, hafter.2.trans hbefore.2⟩

/-- A probe that is due is sent, or the failure is reported. -/
lemma probeTimer_fires (hopen : quicConnectionIsClosed c = false) {t : ℕ} {space : Space}
    (h : ProbeDue c t space) : probeTimer env fuel t c ≠ some (c, .ok) := by
  intro hidle
  obtain ⟨r, hr⟩ := Option.isSome_iff_exists.mp (probeSpace_isSome.mpr ⟨space, h⟩)
  obtain ⟨-, hprefix, hkeys, hclosed⟩ := beforeProbe_kept c r.1
  have hsome := keysOut_of_probeSpace hr
  rw [probeTimer_eq hr] at hidle
  unfold flushSpace at hidle
  rw [if_neg (by rw [hkeys]; simpa using Option.isSome_iff_ne_none.mp hsome),
    if_neg (by rw [hclosed, hopen]; decide), if_pos rfl] at hidle
  rcases sendControlFrame_ping_ok hidle with hlt | hclosed'
  · exact absurd hprefix.length_le (not_le.mpr hlt)
  · rw [hopen] at hclosed'
    cases hclosed'

end Fires

/-! ## Whether the delay covers what is due -/

section Covers

variable {env : Env} {fuel now : ℕ} {c : Connection}

/-- The delay covers every deadline: until it is over, the timer has nothing to do, and
without a delay it never has; a probe or a path that is overdue leaves no delay. -/
structure TimerCovers (env : Env) (fuel now : ℕ) (c : Connection) : Prop where
  delay : (quicConnectionNextTimeout now c).1 = .ok →
    ∀ t, now ≤ t → t < now + (quicConnectionNextTimeout now c).2 →
      quicConnectionOnTimeout env fuel t c = some (c, .ok)
  never : (quicConnectionNextTimeout now c).1 ≠ .ok →
    ∀ t, now ≤ t → quicConnectionOnTimeout env fuel t c = some (c, .ok)
  overdue : PathDue c now ∨ (∃ space, ProbeDue c now space) →
    quicConnectionNextTimeout now c = (.ok, 0)

/-- Whatever the delay does not know is preceded by something it knows: the validation of a
path by a deadline that is not later, an overdue probe by a deadline that has passed as well. -/
structure TimerPreceded (now : ℕ) (c : Connection) : Prop where
  path : c.pathValidating = true →
    ∃ d ∈ timerDeadlines now c, d ≤ max now c.pathValidationDeadline
  probe : (∃ space, ProbeDue c now space) → ∃ d ∈ timerDeadlines now c, d ≤ now

/-- Before every deadline that the delay is taken from, the timer has nothing to do unless the
path or an overdue probe is due. -/
lemma quicConnectionOnTimeout_idle (hopen : quicCloseIsClosed c.close = false) {t : ℕ}
    (hahead : ∀ d ∈ timerDeadlines now c, t < d) (hpath : ¬ PathDue c t)
    (hprobe : ∀ space, ¬ ProbeDue c now space) :
    quicConnectionOnTimeout env fuel t c = some (c, .ok) := by
  rw [quicConnectionOnTimeout_early hopen
    (fun d hd => hahead d (mem_timerDeadlines.mpr (.inl hd)))
    (fun space d hd => hahead d (mem_timerDeadlines.mpr (.inr ⟨space, .inl hd⟩)))
    (fun space d hd => hahead d (mem_timerDeadlines.mpr (.inr ⟨space, .inr (.inl hd)⟩))),
    inOrder, pathValidationOnTimeout_idle hpath]
  simp only
  rw [inOrder, probeTimer_idle]
  · rfl
  · rintro space ⟨hkeys, pto, hpto, hle⟩
    by_cases hpast : pto ≤ now
    · exact hprobe space ⟨hkeys, pto, hpto, hpast⟩
    · have hlt := hahead pto (mem_timerDeadlines.mpr
        (.inr ⟨space, .inr (.inr ⟨hpto, not_le.mp hpast⟩)⟩))
      omega

/-- Before every deadline that the delay is taken from, a path or a probe that is due keeps
the timer busy. -/
lemma quicConnectionOnTimeout_busy (hopen : quicConnectionIsClosed c = false) {t : ℕ}
    (hahead : ∀ d ∈ timerDeadlines now c, t < d)
    (hdue : PathDue c t ∨ ∃ space, ProbeDue c t space) :
    quicConnectionOnTimeout env fuel t c ≠ some (c, .ok) := by
  have hclose : quicCloseIsClosed c.close = false := by
    unfold quicConnectionIsClosed at hopen
    exact (Bool.or_eq_false_iff.mp hopen).2
  rw [quicConnectionOnTimeout_early hclose
    (fun d hd => hahead d (mem_timerDeadlines.mpr (.inl hd)))
    (fun space d hd => hahead d (mem_timerDeadlines.mpr (.inr ⟨space, .inl hd⟩)))
    (fun space d hd => hahead d (mem_timerDeadlines.mpr (.inr ⟨space, .inr (.inl hd)⟩)))]
  intro hidle
  by_cases hpath : PathDue c t
  · rw [inOrder] at hidle
    split at hidle
    · cases hidle
    · rename_i c₁ hfires
      have hchanged := pathValidationOnTimeout_fires hpath hfires
      rw [inOrder] at hidle
      split at hidle
      · cases hidle
      · rename_i c₂ hprobe
        obtain ⟨rfl, -⟩ := Prod.mk.inj (Option.some.inj hidle)
        have hkept := probeTimer_pathKept hprobe
        exact hchanged ⟨hkept.1.symm, hkept.2.symm⟩
      · rename_i hne _
        cases hidle
        exact hne rfl
    · rename_i hne _
      cases hidle
      exact hne rfl
  · obtain ⟨space, hprobe⟩ := hdue.resolve_left hpath
    rw [inOrder, pathValidationOnTimeout_idle hpath] at hidle
    simp only at hidle
    rw [inOrder] at hidle
    split at hidle
    · cases hidle
    · rename_i hfires
      obtain ⟨rfl, -⟩ := Prod.mk.inj (Option.some.inj hidle)
      exact probeTimer_fires hopen hprobe hfires
    · rename_i hne _
      cases hidle
      exact hne rfl

/-- The delay covers every deadline exactly when the validation of a path and the overdue
probes are preceded by a deadline it knows. -/
theorem next_timeout_covers_iff (env : Env) (fuel now : ℕ) (c : Connection)
    (hopen : quicConnectionIsClosed c = false) :
    TimerCovers env fuel now c ↔ TimerPreceded now c := by
  have hclose : quicCloseIsClosed c.close = false := by
    unfold quicConnectionIsClosed at hopen
    exact (Bool.or_eq_false_iff.mp hopen).2
  have hspec := @quicConnectionNextTimeout_spec now c hclose
  constructor
  · rintro ⟨hdelay, hnever, -⟩
    generalize quicConnectionNextTimeout now c = r at hspec hdelay hnever
    -- A deadline that is unknown and first finds the timer busy before the delay is over.
    have hbusy : ∀ t, now ≤ t → (PathDue c t ∨ ∃ space, ProbeDue c t space) →
        ∃ d ∈ timerDeadlines now c, d ≤ t := by
      intro t ht hdue
      by_contra hnone
      have hahead : ∀ d ∈ timerDeadlines now c, t < d := by
        intro d hd
        by_contra hle
        exact hnone ⟨d, hd, not_lt.mp hle⟩
      refine @quicConnectionOnTimeout_busy env fuel now c hopen t hahead hdue ?_
      cases hspec with
      | @past d hd hpast => exact absurd (hahead d hd) (by omega)
      | never => exact hnever (by decide) t ht
      | @ahead delay hall hlast => exact hdelay rfl t ht (hahead _ hlast)
    refine ⟨fun hvalidating => ?_, fun hprobe => hbusy now le_rfl (.inr hprobe)⟩
    exact hbusy _ (le_max_left _ _) (.inl ⟨hvalidating, le_max_right _ _⟩)
  · intro hpreceded
    have hpath : ∀ t, now ≤ t → PathDue c t → ∃ d ∈ timerDeadlines now c, d ≤ t := by
      rintro t ht ⟨hvalidating, hdue⟩
      obtain ⟨d, hd, hle⟩ := hpreceded.path hvalidating
      exact ⟨d, hd, by omega⟩
    have hidle : ∀ t, now ≤ t → (∀ d ∈ timerDeadlines now c, t < d) →
        quicConnectionOnTimeout env fuel t c = some (c, .ok) := by
      intro t ht hahead
      refine @quicConnectionOnTimeout_idle env fuel now c hclose t hahead ?_ ?_
      · intro hdue
        obtain ⟨d, hd, hle⟩ := hpath t ht hdue
        have hlt := hahead d hd
        omega
      · intro space hdue
        obtain ⟨d, hd, hle⟩ := hpreceded.probe ⟨space, hdue⟩
        have hlt := hahead d hd
        omega
    refine ⟨?_, ?_, ?_⟩
    all_goals generalize quicConnectionNextTimeout now c = r at hspec
    · intro hok t ht hlt
      cases hspec with
      | past => exact absurd hlt (by omega)
      | never => cases hok
      | ahead hall => exact hidle t ht fun d hd => lt_of_lt_of_le hlt (hall d hd)
    · intro hne t ht
      cases hspec with
      | never hnil => exact hidle t ht (by simp [hnil])
      | past | ahead => exact absurd rfl hne
    · intro hdue
      obtain ⟨d, hd, hle⟩ : ∃ d ∈ timerDeadlines now c, d ≤ now :=
        hdue.elim (hpath now le_rfl) hpreceded.probe
      cases hspec with
      | past => rfl
      | never hnil =>
        rw [hnil] at hd
        exact absurd hd List.not_mem_nil
      | ahead hall =>
        have hdelay := hall d hd
        congr 1
        omega

/-- A server whose two PINGs are overdue asks for no timer at all, and would send a probe. -/
theorem pinged_server_sleeps :
    pinged.Reachable steadyEnv ∧ quicConnectionIsClosed pinged = false ∧
      quicConnectionNextTimeout 5000000 pinged = (.state, 0) ∧
      ¬ TimerCovers steadyEnv 200 5000000 pinged := by
  refine ⟨pinged_reachable, by decide +kernel, by decide +kernel, ?_⟩
  intro hcovers
  have hnext : quicConnectionNextTimeout 5000000 pinged = (.state, 0) := by decide +kernel
  have hdue : ProbeDue pinged 5000000 .application := ⟨by decide +kernel, 1334000, by decide +kernel,
    by decide⟩
  rw [hcovers.overdue (.inr ⟨_, hdue⟩)] at hnext
  cases hnext

/-- Before the probe is due, the delay covers it. -/
theorem pinged_server_wakes :
    quicConnectionIsClosed pinged = false ∧ TimerCovers steadyEnv 200 2000 pinged := by
  have hopen : quicConnectionIsClosed pinged = false := by decide +kernel
  refine ⟨hopen, (next_timeout_covers_iff steadyEnv 200 2000 pinged hopen).mpr ⟨?_, ?_⟩⟩
  · intro hvalidating
    exact absurd hvalidating (by decide +kernel)
  · rintro ⟨space, -, pto, hpto, hle⟩
    have hall : ∀ space, probeTime pinged space = some 1334000 := by
      intro space
      cases space <;> decide +kernel
    rw [hall space] at hpto
    obtain rfl := Option.some.inj hpto
    exact absurd hle (by decide)

end Covers

end WebTransport
