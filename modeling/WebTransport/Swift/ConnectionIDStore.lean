import WebTransport.Lib.Dictionary
import WebTransport.Swift.Frame

/-!
# The connection IDs of the Swift endpoint

The IDs that the peer gave this endpoint to send to (`QUICConnectionIDStore` in
`QUICCoreState.swift`): those in use, the numbers of those retired, the one that packets go to and
the largest Retire Prior To of the peer. A call that throws keeps what it changed before, so that
every call answers with a store beside its result.
-/

namespace WebTransport

/-! ## The store -/

/-- What a call throws (`QUICStateError`). -/
inductive QUICStateError
  | invalidConnectionIDLength (length : ℕ)
  | invalidStatelessResetTokenLength (length : ℕ)
  | connectionIDLimitExceeded (limit : ℕ)
  | invalidRetirePriorTo (sequence retirePriorTo : ℕ)
  | inconsistentConnectionID (sequence : ℕ)
  | unknownConnectionIDSequence (sequence : ℕ)
deriving DecidableEq, Repr

/-- A connection ID (`QUICConnectionID`). -/
structure QUICConnectionID where
  sequence : ℕ
  connectionID : List UInt8
  statelessResetToken : Option (List UInt8) := none
deriving DecidableEq, Repr

/-- A connection ID from its parts (`QUICConnectionID.init`). -/
def QUICConnectionID.make (sequence : ℕ) (connectionID : List UInt8)
    (statelessResetToken : Option (List UInt8)) : Except QUICStateError QUICConnectionID :=
  if 20 < connectionID.length then .error (.invalidConnectionIDLength connectionID.length)
  else match statelessResetToken with
    | none => .ok ⟨sequence, connectionID, none⟩
    | some token =>
      if token.length ≠ 16 then .error (.invalidStatelessResetTokenLength token.length)
      else .ok ⟨sequence, connectionID, some token⟩

/-- The store (`QUICConnectionIDStore`). -/
structure QUICConnectionIDStore where
  activeConnectionIDLimit : ℕ
  activeDestinationSequence : ℕ
  active : Dictionary ℕ QUICConnectionID
  retiredSequences : Finset ℕ := ∅
  largestRetirePriorTo : ℕ := 0
deriving DecidableEq

namespace QUICConnectionIDStore

/-- A store with the first ID (`init`). -/
def init (initialConnectionID : List UInt8) (activeConnectionIDLimit : ℕ) :
    Except QUICStateError QUICConnectionIDStore :=
  if activeConnectionIDLimit < 2 then .error (.connectionIDLimitExceeded activeConnectionIDLimit)
  else do
    let first ← QUICConnectionID.make 0 initialConnectionID none
    .ok {
      activeConnectionIDLimit := activeConnectionIDLimit
      activeDestinationSequence := 0
      active := Dictionary.insert ∅ 0 first }

/-- The store without an ID that was in use. -/
def without (s : QUICConnectionIDStore) (sequence : ℕ) : QUICConnectionIDStore :=
  { s with
    active := s.active.erase sequence
    retiredSequences := insert sequence s.retiredSequences
    activeDestinationSequence :=
      if s.activeDestinationSequence = sequence then
        (s.active.erase sequence).keys.head?.getD sequence
      else s.activeDestinationSequence }

/-- Retire an ID, with the frame for it after the others (`retire(_:appendingTo:)`). -/
def retireAppending (s : QUICConnectionIDStore) (sequence : ℕ) (frames : List QUICFrame) :
    QUICConnectionIDStore × Except QUICStateError (List QUICFrame) :=
  match s.active.get? sequence with
  | some _ => (s.without sequence, .ok (frames ++ [.retireConnectionID sequence]))
  | none =>
    if sequence ∈ s.retiredSequences then (s, .ok frames)
    else (s, .error (.unknownConnectionIDSequence sequence))

/-- Retire IDs one after the other, up to the first that cannot be retired. -/
def retireAll : List ℕ → QUICConnectionIDStore → List QUICFrame →
    QUICConnectionIDStore × Except QUICStateError (List QUICFrame)
  | [], s, frames => (s, .ok frames)
  | sequence :: rest, s, frames =>
    match s.retireAppending sequence frames with
    | (s, .ok frames) => retireAll rest s frames
    | (s, .error e) => (s, .error e)

/-- Retire the oldest IDs that packets do not go to, while there are too many. Every round
retires one, so that as many rounds as there are IDs are enough. -/
def retireOverLimit : ℕ → QUICConnectionIDStore → List QUICFrame →
    QUICConnectionIDStore × Except QUICStateError (List QUICFrame)
  | 0, s, frames => (s, .ok frames)
  | rounds + 1, s, frames =>
    if s.activeConnectionIDLimit < s.active.count then
      match s.active.keys.find? (· ≠ s.activeDestinationSequence) with
      | none => (s, .error (.connectionIDLimitExceeded s.activeConnectionIDLimit))
      | some oldest =>
        match s.retireAppending oldest frames with
        | (s, .ok frames) => retireOverLimit rounds s frames
        | (s, .error e) => (s, .error e)
    else (s, .ok frames)

/-- Check an ID against the one with its number, or take it when it is new. -/
def enter (s : QUICConnectionIDStore) (sequence : ℕ)
    (connectionID statelessResetToken : List UInt8) :
    Except QUICStateError QUICConnectionIDStore :=
  match s.active.get? sequence with
  | some existing => do
    let incoming ← QUICConnectionID.make sequence connectionID (some statelessResetToken)
    if existing = incoming then .ok s else .error (.inconsistentConnectionID sequence)
  | none =>
    if sequence ∈ s.retiredSequences then .ok s
    else do
      let incoming ← QUICConnectionID.make sequence connectionID (some statelessResetToken)
      .ok { s with active := s.active.insert sequence incoming }

/-- A NEW_CONNECTION_ID frame arrives (`applyNewConnectionID`); the frames that answer it. -/
def applyNewConnectionID (s : QUICConnectionIDStore) (sequence retirePriorTo : ℕ)
    (connectionID statelessResetToken : List UInt8) :
    QUICConnectionIDStore × Except QUICStateError (List QUICFrame) :=
  if sequence < retirePriorTo then (s, .error (.invalidRetirePriorTo sequence retirePriorTo))
  else
    let s := { s with
      largestRetirePriorTo :=
        if s.largestRetirePriorTo < retirePriorTo then retirePriorTo else s.largestRetirePriorTo }
    if sequence < s.largestRetirePriorTo then
      -- The number is dropped from those in use without a look at where packets go.
      ({ s with
          active := s.active.erase sequence
          retiredSequences := insert sequence s.retiredSequences },
        .ok [.retireConnectionID sequence])
    else
      match s.enter sequence connectionID statelessResetToken with
      | .error e => (s, .error e)
      | .ok s =>
        match retireAll (s.active.keys.filter (· < retirePriorTo)) s [] with
        | (s, .error e) => (s, .error e)
        | (s, .ok frames) => retireOverLimit s.active.count s frames

/-- This endpoint retires an ID (`retire(sequence:)`); the frame that says so. -/
def retire (s : QUICConnectionIDStore) (sequence : ℕ) :
    QUICConnectionIDStore × Except QUICStateError QUICFrame :=
  if sequence ∈ s.retiredSequences then (s, .ok (.retireConnectionID sequence))
  else
    match s.retireAppending sequence [] with
    | (s, .error e) => (s, .error e)
    | (s, .ok frames) =>
      match frames.head? with
      | none => (s, .error (.unknownConnectionIDSequence sequence))
      | some frame => (s, .ok frame)

/-- Packets go to another ID from now on (`useDestinationConnectionID`). -/
def useDestinationConnectionID (s : QUICConnectionIDStore) (sequence : ℕ) :
    QUICConnectionIDStore × Except QUICStateError QUICConnectionID :=
  match s.active.get? sequence with
  | none => (s, .error (.unknownConnectionIDSequence sequence))
  | some connectionID => ({ s with activeDestinationSequence := sequence }, .ok connectionID)

/-! ## Sequences of calls -/

/-- A call on the store. -/
inductive Call
  | applyNewConnectionID (sequence retirePriorTo : ℕ)
      (connectionID statelessResetToken : List UInt8)
  | retire (sequence : ℕ)
  | useDestinationConnectionID (sequence : ℕ)

/-- The store after a call, and whether the call threw. -/
def call (s : QUICConnectionIDStore) : Call → QUICConnectionIDStore × Bool
  | .applyNewConnectionID sequence retirePriorTo connectionID statelessResetToken =>
    let (s, result) :=
      s.applyNewConnectionID sequence retirePriorTo connectionID statelessResetToken
    (s, !result.isOk)
  | .retire sequence =>
    let (s, result) := s.retire sequence
    (s, !result.isOk)
  | .useDestinationConnectionID sequence =>
    let (s, result) := s.useDestinationConnectionID sequence
    (s, !result.isOk)

/-- The store after some calls. -/
def after (s : QUICConnectionIDStore) (calls : List Call) : QUICConnectionIDStore :=
  calls.foldl (fun s c => (s.call c).1) s

/-! ## Retiring -/

variable {s s' s'' : QUICConnectionIDStore} {n m : ℕ}

/-- A store in which some IDs of another were retired. -/
structure Retires (s s' : QUICConnectionIDStore) : Prop where
  limit : s'.activeConnectionIDLimit = s.activeConnectionIDLimit
  watermark : s'.largestRetirePriorTo = s.largestRetirePriorTo
  active : ∀ n ∈ s'.active.keys, n ∈ s.active.keys
  retired : ∀ n, n ∈ s'.retiredSequences ↔
    n ∈ s.retiredSequences ∨ n ∈ s.active.keys ∧ n ∉ s'.active.keys
  destination : s.activeDestinationSequence ∈ s.active.keys → s'.active.keys ≠ [] →
    s'.activeDestinationSequence ∈ s'.active.keys

lemma Retires.refl (s : QUICConnectionIDStore) : s.Retires s :=
  ⟨rfl, rfl, fun _ h => h, fun n => by tauto, fun h _ => h⟩

lemma Retires.trans (h : s.Retires s') (h' : s'.Retires s'') : s.Retires s'' where
  limit := h'.limit.trans h.limit
  watermark := h'.watermark.trans h.watermark
  active n hn := h.active n (h'.active n hn)
  retired n := by
    rw [h'.retired, h.retired]
    have := h.active n
    have := h'.active n
    tauto
  destination hd hne := by
    refine h'.destination (h.destination hd ?_) hne
    intro hnil
    obtain ⟨m, hm⟩ := List.exists_mem_of_ne_nil _ hne
    have hm' := h'.active m hm
    rw [hnil] at hm'
    exact List.not_mem_nil hm'

lemma mem_keys_without : n ∈ (s.without m).active.keys ↔ n ≠ m ∧ n ∈ s.active.keys :=
  Dictionary.mem_keys_erase

/-- Taking out an ID in use moves packets to the lowest other one. -/
lemma retires_without (hm : m ∈ s.active.keys) : s.Retires (s.without m) where
  limit := rfl
  watermark := rfl
  active n hn := (mem_keys_without.mp hn).2
  retired n := by
    rw [mem_keys_without]
    change n ∈ insert m s.retiredSequences ↔ _
    rw [Finset.mem_insert]
    constructor
    · rintro (rfl | hn)
      · exact .inr ⟨hm, fun h => h.1 rfl⟩
      · exact .inl hn
    · rintro (hn | ⟨hn, hnot⟩)
      · exact .inr hn
      · by_cases heq : n = m
        · exact .inl heq
        · exact absurd ⟨heq, hn⟩ hnot
  destination hd hne := by
    change (if s.activeDestinationSequence = m then
      (s.active.erase m).keys.head?.getD m else s.activeDestinationSequence) ∈ _
    split_ifs with heq
    · have hhead := List.head?_eq_some_head hne
      change ((s.without m).active.keys.head?.getD m) ∈ _
      rw [hhead]
      exact List.head_mem hne
    · exact mem_keys_without.mpr ⟨heq, hd⟩

lemma retireAppending_active (hm : m ∈ s.active.keys) (frames : List QUICFrame) :
    s.retireAppending m frames = (s.without m, .ok (frames ++ [.retireConnectionID m])) := by
  obtain ⟨a, ha⟩ := Option.isSome_iff_exists.mp (Dictionary.mem_keys.mp hm)
  rw [retireAppending, ha]

/-- Retiring IDs in use retires them all. -/
lemma retireAll_active {l : List ℕ} (hnodup : l.Nodup) (hl : ∀ m ∈ l, m ∈ s.active.keys)
    (frames : List QUICFrame) :
    ∃ s' frames', retireAll l s frames = (s', .ok frames') ∧ s.Retires s' ∧
      ∀ n, n ∈ s'.active.keys ↔ n ∈ s.active.keys ∧ n ∉ l := by
  induction l generalizing s frames with
  | nil => exact ⟨s, frames, rfl, .refl s, by simp⟩
  | cons m rest ih =>
    obtain ⟨hm, hrest⟩ := List.nodup_cons.mp hnodup
    have hmem := hl m List.mem_cons_self
    obtain ⟨s', frames', hrun, hretires, hkeys⟩ := ih hrest (s := s.without m)
      (fun k hk => mem_keys_without.mpr
        ⟨fun heq => hm (heq ▸ hk), hl k (List.mem_cons_of_mem _ hk)⟩)
      (frames ++ [.retireConnectionID m])
    refine ⟨s', frames', ?_, (retires_without hmem).trans hretires, ?_⟩
    · rw [retireAll, retireAppending_active hmem]
      exact hrun
    · intro n
      rw [hkeys, mem_keys_without, List.mem_cons]
      tauto

/-- With an ID that packets go to, retiring what is over the limit ends within the limit and
keeps that ID. -/
lemma retireOverLimit_within {rounds : ℕ} (hrounds : s.active.count ≤ rounds)
    (hlimit : 1 ≤ s.activeConnectionIDLimit)
    (hd : s.activeDestinationSequence ∈ s.active.keys) (frames : List QUICFrame) :
    ∃ s' frames', retireOverLimit rounds s frames = (s', .ok frames') ∧ s.Retires s' ∧
      s'.active.keys ≠ [] ∧ s'.active.count ≤ s'.activeConnectionIDLimit := by
  induction rounds generalizing s frames with
  | zero =>
    have hpos : 0 < s.active.count := by
      rw [← Dictionary.length_keys]
      exact List.length_pos_of_mem hd
    omega
  | succ rounds ih =>
    rw [retireOverLimit]
    split_ifs with hover
    · -- More than one ID is in use, so that one of them can go.
      obtain ⟨oldest, hfind⟩ : ∃ oldest,
          s.active.keys.find? (· ≠ s.activeDestinationSequence) = some oldest := by
        rw [← Option.isSome_iff_exists, List.find?_isSome]
        by_contra hnone
        have hall : ∀ m ∈ s.active.keys, m = s.activeDestinationSequence := by
          intro m hm
          by_contra hne
          exact hnone ⟨m, hm, by simpa using hne⟩
        have hle : s.active.keys.length ≤ 1 := by
          have hsub : s.active.keys.toFinset ⊆ {s.activeDestinationSequence} := by
            intro m hm
            exact Finset.mem_singleton.mpr (hall m (List.mem_toFinset.mp hm))
          have hcard := Finset.card_le_card hsub
          rwa [List.toFinset_card_of_nodup s.active.keys_nodup, Finset.card_singleton] at hcard
        rw [Dictionary.length_keys] at hle
        omega
      have hmem := List.mem_of_find?_eq_some hfind
      have hne : oldest ≠ s.activeDestinationSequence := by simpa using List.find?_some hfind
      have hkept : (s.without oldest).activeDestinationSequence = s.activeDestinationSequence :=
        if_neg (Ne.symm hne)
      have hcount : (s.without oldest).active.count + 1 = s.active.count :=
        Dictionary.count_erase hmem
      obtain ⟨s', frames', hrun, hretires, hrest⟩ := ih (s := s.without oldest) (by omega) hlimit
        (by rw [hkept]; exact mem_keys_without.mpr ⟨Ne.symm hne, hd⟩)
        (frames ++ [.retireConnectionID oldest])
      refine ⟨s', frames', ?_, (retires_without hmem).trans hretires, hrest⟩
      rw [hfind]
      simp only [retireAppending_active hmem]
      exact hrun
    · exact ⟨s, frames, rfl, .refl s, List.ne_nil_of_mem hd, not_lt.mp hover⟩

/-! ## What the store promises -/

/-- A store that can be used: packets go to an ID in use, what is retired is not in use, nothing in
use is below the largest Retire Prior To, and no more IDs are in use than the limit. -/
structure Consistent (s : QUICConnectionIDStore) : Prop where
  destination : s.activeDestinationSequence ∈ s.active.keys
  disjoint : ∀ n ∈ s.retiredSequences, n ∉ s.active.keys
  watermark : ∀ n ∈ s.active.keys, s.largestRetirePriorTo ≤ n
  limit : s.active.count ≤ s.activeConnectionIDLimit

/-- A frame's ID can be taken or is the one already in use. -/
def Acceptable (s : QUICConnectionIDStore) (sequence : ℕ)
    (connectionID statelessResetToken : List UInt8) : Prop :=
  let wellFormed := connectionID.length ≤ 20 ∧ statelessResetToken.length = 16
  match s.active.get? sequence with
  | some existing =>
    wellFormed ∧ existing = ⟨sequence, connectionID, some statelessResetToken⟩
  | none => sequence ∈ s.retiredSequences ∨ wellFormed

/-- A call that the store can carry out or refuse without a trace: a frame that raises the largest
Retire Prior To has an acceptable ID, and an ID stays in use. -/
def Careful (s : QUICConnectionIDStore) : Call → Prop
  | .applyNewConnectionID sequence retirePriorTo connectionID statelessResetToken =>
    retirePriorTo ≤ sequence → s.largestRetirePriorTo < retirePriorTo →
      s.Acceptable sequence connectionID statelessResetToken ∧
        (sequence ∈ s.retiredSequences → ∃ n ∈ s.active.keys, retirePriorTo ≤ n)
  | .retire sequence => sequence ∈ s.active.keys → ∃ n ∈ s.active.keys, n ≠ sequence
  | .useDestinationConnectionID _ => True

/-- A number leaves in a call: it is not in use after it, and was in use before or was retired
by the call. -/
def Leaves (s : QUICConnectionIDStore) (c : Call) (n : ℕ) : Prop :=
  n ∉ (s.call c).1.active.keys ∧
    (n ∈ s.active.keys ∨ n ∈ (s.call c).1.retiredSequences ∧ n ∉ s.retiredSequences)

instance (s : QUICConnectionIDStore) (c : Call) (n : ℕ) : Decidable (s.Leaves c n) :=
  inferInstanceAs (Decidable (_ ∧ _))

/-- How often a number leaves in a sequence of calls. -/
def departures (n : ℕ) : QUICConnectionIDStore → List Call → ℕ
  | _, [] => 0
  | s, c :: rest => (if s.Leaves c n then 1 else 0) + departures n (s.call c).1 rest

/-- The store can be used before every call and after the last, and calls that throw leave it as
it was. -/
def Sound : QUICConnectionIDStore → List Call → Prop
  | s, [] => s.Consistent
  | s, c :: rest =>
    s.Consistent ∧ ((s.call c).2 = true → (s.call c).1 = s) ∧ Sound (s.call c).1 rest

/-- Every call of a sequence is careful, where it is made. -/
def CarefulCalls : QUICConnectionIDStore → List Call → Prop
  | _, [] => True
  | s, c :: rest => s.Careful c ∧ CarefulCalls (s.call c).1 rest

/-! ## One call -/

lemma make_eq (sequence : ℕ) (connectionID token : List UInt8) :
    (connectionID.length ≤ 20 ∧ token.length = 16 ∧
      QUICConnectionID.make sequence connectionID (some token) =
        .ok ⟨sequence, connectionID, some token⟩) ∨
    ¬(connectionID.length ≤ 20 ∧ token.length = 16) ∧
      ∃ e, QUICConnectionID.make sequence connectionID (some token) = .error e := by
  unfold QUICConnectionID.make
  by_cases hid : 20 < connectionID.length
  · exact .inr ⟨fun h => absurd h.1 (not_le.mpr hid), _, if_pos hid⟩
  rw [if_neg hid]
  simp only
  by_cases htoken : token.length = 16
  · exact .inl ⟨not_lt.mp hid, htoken, if_neg (not_not.mpr htoken)⟩
  · exact .inr ⟨fun h => htoken h.2, _, if_pos htoken⟩

/-- What is done with a frame's ID: nothing, when it is known, or it is taken. -/
lemma enter_acceptable {sequence : ℕ} {connectionID token : List UInt8}
    (h : s.Acceptable sequence connectionID token) :
    s.enter sequence connectionID token = .ok s ∧
        (sequence ∈ s.active.keys ∨ sequence ∈ s.retiredSequences) ∨
      ∃ a, s.enter sequence connectionID token =
          .ok { s with active := s.active.insert sequence a } ∧
        sequence ∉ s.retiredSequences := by
  unfold Acceptable at h
  unfold enter
  cases hget : s.active.get? sequence with
  | some existing =>
    rw [hget] at h
    obtain ⟨hwell, hsame⟩ := h
    refine .inl ⟨?_, .inl (Dictionary.mem_keys_of_get? hget)⟩
    rcases make_eq sequence connectionID token with ⟨-, -, hmake⟩ | ⟨hnot, -⟩
    · simp only [hmake]
      exact if_pos hsame
    · exact absurd hwell hnot
  | none =>
    rw [hget] at h
    by_cases hretired : sequence ∈ s.retiredSequences
    · exact .inl ⟨if_pos hretired, .inr hretired⟩
    · refine .inr ⟨⟨sequence, connectionID, some token⟩, ?_, hretired⟩
      have hwell := h.resolve_left hretired
      rcases make_eq sequence connectionID token with ⟨-, -, hmake⟩ | ⟨hnot, -⟩
      · simp only [hmake]
        exact if_neg hretired
      · exact absurd hwell hnot

lemma enter_refused {sequence : ℕ} {connectionID token : List UInt8}
    (h : ¬s.Acceptable sequence connectionID token) :
    ∃ e, s.enter sequence connectionID token = .error e := by
  unfold Acceptable at h
  unfold enter
  cases hget : s.active.get? sequence with
  | some existing =>
    rw [hget] at h
    rcases make_eq sequence connectionID token with ⟨hid, htoken, hmake⟩ | ⟨-, e, hmake⟩
    · simp only [hmake]
      exact ⟨_, if_neg fun hsame => h ⟨⟨hid, htoken⟩, hsame⟩⟩
    · simp only [hmake]
      exact ⟨e, rfl⟩
  | none =>
    rw [hget] at h
    simp only [not_or] at h
    rcases make_eq sequence connectionID token with ⟨hid, htoken, -⟩ | ⟨-, e, hmake⟩
    · exact absurd ⟨hid, htoken⟩ h.2
    · simp only [hmake]
      exact ⟨e, if_neg h.1⟩

/-- What a frame of the peer does to a store that can be used, when its ID is acceptable: some IDs
are retired, none below its Retire Prior To is left in use, and packets go to an ID in use as soon
as one is left. -/
lemma applyNewConnectionID_accepted (hs : s.Consistent) (hlimit : 1 ≤ s.activeConnectionIDLimit)
    {sequence retirePriorTo : ℕ} {connectionID token : List UInt8}
    (hle : retirePriorTo ≤ sequence) (hraise : s.largestRetirePriorTo ≤ sequence)
    (hok : s.Acceptable sequence connectionID token)
    (hleft : sequence ∈ s.retiredSequences → ∃ n ∈ s.active.keys, retirePriorTo ≤ n) :
    ∃ s' frames, s.applyNewConnectionID sequence retirePriorTo connectionID token =
      (s', .ok frames) ∧ s'.Consistent := by
  obtain ⟨watermark, hwatermark⟩ : ∃ w, w = if s.largestRetirePriorTo < retirePriorTo then
    retirePriorTo else s.largestRetirePriorTo := ⟨_, rfl⟩
  have hmax : s.largestRetirePriorTo ≤ watermark ∧ retirePriorTo ≤ watermark ∧
      watermark ≤ sequence ∧ (watermark = retirePriorTo ∨ watermark = s.largestRetirePriorTo) := by
    rw [hwatermark]
    split_ifs
    · exact ⟨by omega, le_rfl, hle, .inl rfl⟩
    · exact ⟨le_rfl, by omega, hraise, .inr rfl⟩
  obtain ⟨hlow, hprior, hhigh, hsource⟩ := hmax
  let raised : QUICConnectionIDStore := { s with largestRetirePriorTo := watermark }
  have hraisedOk : raised.Acceptable sequence connectionID token := hok
  -- Whatever becomes of the frame's ID, it is the only new one.
  obtain ⟨admitted, hallow, hadmittedRetired, hadmittedDest, hadmittedLimit, hadmittedMark, hkeys,
      hcount, hremains⟩ : ∃ admitted, raised.enter sequence connectionID token = .ok admitted ∧
      admitted.retiredSequences = s.retiredSequences ∧
      admitted.activeDestinationSequence = s.activeDestinationSequence ∧
      admitted.activeConnectionIDLimit = s.activeConnectionIDLimit ∧
      admitted.largestRetirePriorTo = watermark ∧
      (∀ n, n ∈ admitted.active.keys → n ∈ s.active.keys ∨ n = sequence ∧
        sequence ∉ s.retiredSequences) ∧
      (∀ n ∈ s.active.keys, n ∈ admitted.active.keys) ∧
      ∃ n ∈ admitted.active.keys, retirePriorTo ≤ n := by
    rcases enter_acceptable hraisedOk with ⟨hallow, hknown⟩ | ⟨a, hallow, hnew⟩
    · refine ⟨raised, hallow, rfl, rfl, rfl, rfl, fun n hn => .inl hn, fun n hn => hn, ?_⟩
      rcases hknown with hmem | hretired
      · exact ⟨sequence, hmem, hle⟩
      · exact hleft hretired
    · refine ⟨_, hallow, rfl, rfl, rfl, rfl, ?_, ?_, sequence,
        Dictionary.mem_keys_insert.mpr (.inl rfl), hle⟩
      · intro n hn
        rcases Dictionary.mem_keys_insert.mp hn with rfl | hn
        · exact .inr ⟨rfl, hnew⟩
        · exact .inl hn
      · intro n hn
        exact Dictionary.mem_keys_insert.mpr (.inr hn)
  obtain ⟨pruned, frames, hprune, hretires, hprunedKeys⟩ := retireAll_active
    (l := admitted.active.keys.filter (· < retirePriorTo))
    (admitted.active.keys_nodup.filter _) (fun m hm => (List.mem_filter.mp hm).1) []
  have hstays : ∀ n, n ∈ pruned.active.keys ↔ n ∈ admitted.active.keys ∧ retirePriorTo ≤ n := by
    intro n
    rw [hprunedKeys, List.mem_filter]
    simp only [decide_eq_true_eq]
    constructor
    · rintro ⟨hn, hnot⟩
      exact ⟨hn, by by_contra hlt; exact hnot ⟨hn, not_le.mp hlt⟩⟩
    · rintro ⟨hn, hge⟩
      exact ⟨hn, fun h => absurd h.2 (not_lt.mpr hge)⟩
  have hdest : pruned.activeDestinationSequence ∈ pruned.active.keys := by
    obtain ⟨n, hn, hge⟩ := hremains
    refine hretires.destination ?_ (List.ne_nil_of_mem ((hstays n).mpr ⟨hn, hge⟩))
    rw [hadmittedDest]
    exact hcount _ hs.destination
  obtain ⟨last, frames', htrim, hretires', hne, hwithin⟩ := retireOverLimit_within
    (le_refl pruned.active.count)
    (by rw [hretires.limit, hadmittedLimit]; exact hlimit) hdest frames
  have hall := hretires.trans hretires'
  refine ⟨last, frames', ?_, hretires'.destination hdest hne, ?_, ?_, hwithin⟩
  · rw [applyNewConnectionID, if_neg (not_lt.mpr hle)]
    simp only [← hwatermark]
    rw [if_neg (not_lt.mpr hhigh)]
    change (match raised.enter sequence connectionID token with
      | .error e => _
      | .ok s => _) = _
    rw [hallow]
    simp only
    rw [hprune]
    exact htrim
  · intro n hn hin
    rcases (hall.retired n).mp hn with hold | ⟨-, hnot⟩
    · rw [hadmittedRetired] at hold
      rcases hkeys n (hall.active n hin) with hmem | ⟨rfl, hnew⟩
      · exact hs.disjoint n hold hmem
      · exact hnew hold
    · exact hnot hin
  · intro n hn
    obtain ⟨hin, hge⟩ := (hstays n).mp (hretires'.active n hn)
    rw [hall.watermark, hadmittedMark]
    rcases hkeys n hin with hmem | ⟨rfl, -⟩
    · rcases hsource with heq | heq
      · rw [heq]
        exact hge
      · rw [heq]
        exact hs.watermark n hmem
    · exact hhigh

/-- A call keeps its promise: the store can be used after it and, when it throws, is as before. -/
def Keeps (s : QUICConnectionIDStore) (c : Call) : Prop :=
  (s.call c).1.Consistent ∧ ((s.call c).2 = true → (s.call c).1 = s)

lemma call_retire (hs : s.Consistent) (sequence : ℕ) :
    s.call (.retire sequence) = (s, false) ∧ sequence ∉ s.active.keys ∨
      s.call (.retire sequence) = (s, true) ∧ sequence ∉ s.active.keys ∨
      s.call (.retire sequence) = (s.without sequence, false) ∧ sequence ∈ s.active.keys := by
  by_cases hretired : sequence ∈ s.retiredSequences
  · refine .inl ⟨?_, hs.disjoint _ hretired⟩
    simp only [call, retire, if_pos hretired]
    rfl
  by_cases hmem : sequence ∈ s.active.keys
  · refine .inr (.inr ⟨?_, hmem⟩)
    simp only [call, retire, if_neg hretired, retireAppending_active hmem]
    rfl
  · refine .inr (.inl ⟨?_, hmem⟩)
    simp only [call, retire, if_neg hretired, retireAppending, Dictionary.notMem_keys.mp hmem]
    rfl

lemma call_retire_keeps_iff (hs : s.Consistent) (sequence : ℕ) :
    s.Keeps (.retire sequence) ↔ s.Careful (.retire sequence) := by
  unfold Keeps Careful
  rcases call_retire hs sequence with ⟨hcall, hmem⟩ | ⟨hcall, hmem⟩ | ⟨hcall, hmem⟩
  · rw [hcall]
    exact iff_of_true ⟨hs, fun _ => rfl⟩ fun h => absurd h hmem
  · rw [hcall]
    exact iff_of_true ⟨hs, fun _ => rfl⟩ fun h => absurd h hmem
  · rw [hcall]
    have hretires := retires_without hmem
    constructor
    · rintro ⟨hkept, -⟩ -
      obtain ⟨hne, hin⟩ := mem_keys_without.mp hkept.destination
      exact ⟨_, hin, hne⟩
    · intro h
      obtain ⟨n, hn, hne⟩ := h hmem
      refine ⟨⟨?_, ?_, ?_, ?_⟩, nofun⟩
      · exact hretires.destination hs.destination
          (List.ne_nil_of_mem (mem_keys_without.mpr ⟨hne, hn⟩))
      · intro m hm hin
        rcases (hretires.retired m).mp hm with hold | ⟨-, hnot⟩
        · exact hs.disjoint m hold (hretires.active m hin)
        · exact hnot hin
      · intro m hm
        exact hs.watermark m (hretires.active m hm)
      · have hcount : (s.without sequence).active.count + 1 = s.active.count :=
          Dictionary.count_erase hmem
        have hlimit := hs.limit
        change (s.without sequence).active.count ≤ s.activeConnectionIDLimit
        omega

lemma call_use_keeps (hs : s.Consistent) (sequence : ℕ) :
    s.Keeps (.useDestinationConnectionID sequence) := by
  unfold Keeps
  cases hget : s.active.get? sequence with
  | none =>
    have hcall : s.call (.useDestinationConnectionID sequence) = (s, true) := by
      simp only [call, useDestinationConnectionID, hget]
      rfl
    rw [hcall]
    exact ⟨hs, fun _ => rfl⟩
  | some connectionID =>
    have hcall : s.call (.useDestinationConnectionID sequence) =
        ({ s with activeDestinationSequence := sequence }, false) := by
      simp only [call, useDestinationConnectionID, hget]
      rfl
    rw [hcall]
    exact ⟨⟨Dictionary.mem_keys_of_get? hget, hs.disjoint, hs.watermark, hs.limit⟩, nofun⟩

/-- A frame whose ID cannot be taken leaves only the Retire Prior To that it raised. -/
lemma applyNewConnectionID_refused {sequence retirePriorTo : ℕ} {connectionID token : List UInt8}
    (hle : retirePriorTo ≤ sequence) (hraise : s.largestRetirePriorTo ≤ sequence)
    (hbad : ¬s.Acceptable sequence connectionID token) :
    ∃ e, s.applyNewConnectionID sequence retirePriorTo connectionID token =
      ({ s with largestRetirePriorTo :=
          if s.largestRetirePriorTo < retirePriorTo then retirePriorTo
          else s.largestRetirePriorTo }, .error e) := by
  obtain ⟨e, hallow⟩ := enter_refused (s := { s with largestRetirePriorTo :=
    if s.largestRetirePriorTo < retirePriorTo then retirePriorTo
    else s.largestRetirePriorTo }) hbad
  have hhigh : (if s.largestRetirePriorTo < retirePriorTo then retirePriorTo
      else s.largestRetirePriorTo) ≤ sequence := by
    split_ifs
    · exact hle
    · exact hraise
  refine ⟨e, ?_⟩
  rw [applyNewConnectionID, if_neg (not_lt.mpr hle)]
  simp only
  rw [if_neg (not_lt.mpr hhigh), hallow]

/-- A frame about a number already retired, below whose Retire Prior To everything in use is,
leaves nothing in use. -/
lemma applyNewConnectionID_exhausted (hs : s.Consistent) {sequence retirePriorTo : ℕ}
    {connectionID token : List UInt8}
    (hle : retirePriorTo ≤ sequence) (hraise : s.largestRetirePriorTo < retirePriorTo)
    (hretired : sequence ∈ s.retiredSequences) (hnone : ∀ n ∈ s.active.keys, n < retirePriorTo) :
    (s.applyNewConnectionID sequence retirePriorTo connectionID token).1.active.keys = [] := by
  let raised : QUICConnectionIDStore := { s with largestRetirePriorTo := retirePriorTo }
  have hget : s.active.get? sequence = none :=
    Dictionary.notMem_keys.mp (hs.disjoint _ hretired)
  have hallow : raised.enter sequence connectionID token = .ok raised := by
    unfold enter
    change (match s.active.get? sequence with
      | some existing => _
      | none => _) = _
    rw [hget]
    exact if_pos hretired
  obtain ⟨pruned, frames, hprune, -, hkeys⟩ := retireAll_active (s := raised)
    (l := raised.active.keys.filter (· < retirePriorTo))
    (raised.active.keys_nodup.filter _) (fun m hm => (List.mem_filter.mp hm).1) []
  have hnil : pruned.active.keys = [] := by
    rw [List.eq_nil_iff_forall_not_mem]
    intro n hn
    obtain ⟨hin, hnot⟩ := (hkeys n).mp hn
    exact hnot (List.mem_filter.mpr ⟨hin, decide_eq_true (hnone n hin)⟩)
  have hcount : pruned.active.count = 0 := by
    rw [← Dictionary.length_keys, hnil]
    rfl
  have hcall : s.applyNewConnectionID sequence retirePriorTo connectionID token =
      (pruned, .ok frames) := by
    rw [applyNewConnectionID, if_neg (not_lt.mpr hle)]
    simp only [if_pos hraise]
    rw [if_neg (not_lt.mpr hle)]
    change (match raised.enter sequence connectionID token with
      | .error e => _
      | .ok s => _) = _
    rw [hallow]
    simp only
    rw [hprune]
    simp only [hcount]
    rfl
  rw [hcall]
  exact hnil

lemma call_apply_keeps_iff (hs : s.Consistent) (hlimit : 1 ≤ s.activeConnectionIDLimit)
    (sequence retirePriorTo : ℕ) (connectionID token : List UInt8) :
    s.Keeps (.applyNewConnectionID sequence retirePriorTo connectionID token) ↔
      s.Careful (.applyNewConnectionID sequence retirePriorTo connectionID token) := by
  unfold Keeps Careful
  simp only [call]
  by_cases hle : retirePriorTo ≤ sequence
  swap
  · rw [applyNewConnectionID, if_pos (not_le.mp hle)]
    exact iff_of_true ⟨hs, fun _ => rfl⟩ fun h => absurd h hle
  by_cases hraise : s.largestRetirePriorTo < retirePriorTo
  · by_cases hok : s.Acceptable sequence connectionID token
    · by_cases hleft : sequence ∈ s.retiredSequences → ∃ n ∈ s.active.keys, retirePriorTo ≤ n
      · obtain ⟨s', frames, hcall, hs'⟩ :=
          applyNewConnectionID_accepted hs hlimit hle (by omega) hok hleft
        rw [hcall]
        exact iff_of_true ⟨hs', nofun⟩ fun _ _ => ⟨hok, hleft⟩
      · refine iff_of_false ?_ fun h => hleft (h hle hraise).2
        rintro ⟨hkept, -⟩
        simp only [Classical.not_imp, not_exists, not_and, not_le] at hleft
        have hdest := hkept.destination
        rw [applyNewConnectionID_exhausted hs hle hraise hleft.1 hleft.2] at hdest
        exact List.not_mem_nil hdest
    · refine iff_of_false ?_ fun h => hok (h hle hraise).1
      obtain ⟨e, hcall⟩ := applyNewConnectionID_refused hle (by omega) hok
      rw [hcall, if_pos hraise]
      rintro ⟨-, hsame⟩
      have hmark := congrArg largestRetirePriorTo (hsame rfl)
      exact absurd hmark hraise.ne'
  · refine iff_of_true ?_ fun _ h => absurd h hraise
    by_cases hlow : sequence < s.largestRetirePriorTo
    · -- The number is below everything in use.
      have hnot : sequence ∉ s.active.keys := fun hmem =>
        absurd (hs.watermark _ hmem) (not_le.mpr hlow)
      have herase : s.active.erase sequence = s.active := by
        refine Dictionary.ext_get? fun k => ?_
        rw [Dictionary.get?_erase]
        split_ifs with heq
        · rw [heq, Dictionary.notMem_keys.mp hnot]
        · rfl
      rw [applyNewConnectionID, if_neg (not_lt.mpr hle)]
      simp only [if_neg hraise, if_pos hlow, herase]
      refine ⟨⟨hs.destination, ?_, hs.watermark, hs.limit⟩, nofun⟩
      intro n hn
      rcases Finset.mem_insert.mp hn with rfl | hn
      · exact hnot
      · exact hs.disjoint n hn
    · by_cases hok : s.Acceptable sequence connectionID token
      · obtain ⟨s', frames, hcall, hs'⟩ := applyNewConnectionID_accepted hs hlimit hle
          (not_lt.mp hlow) hok fun _ => ⟨_, hs.destination,
            (not_lt.mp hraise).trans (hs.watermark _ hs.destination)⟩
        rw [hcall]
        exact ⟨hs', nofun⟩
      · obtain ⟨e, hcall⟩ := applyNewConnectionID_refused hle (not_lt.mp hlow) hok
        rw [hcall, if_neg hraise]
        exact ⟨hs, fun _ => rfl⟩

/-- The calls that keep the promise are the careful ones. -/
theorem keeps_iff_careful (hs : s.Consistent) (hlimit : 1 ≤ s.activeConnectionIDLimit) (c : Call) :
    s.Keeps c ↔ s.Careful c := by
  cases c with
  | applyNewConnectionID sequence retirePriorTo connectionID token =>
    exact call_apply_keeps_iff hs hlimit sequence retirePriorTo connectionID token
  | retire sequence => exact call_retire_keeps_iff hs sequence
  | useDestinationConnectionID sequence => exact iff_of_true (call_use_keeps hs sequence) trivial

/-! ## Numbers leave once -/

lemma retireAppending_retires (s : QUICConnectionIDStore) (m : ℕ) (frames : List QUICFrame) :
    s.Retires (s.retireAppending m frames).1 := by
  unfold retireAppending
  cases hget : s.active.get? m with
  | some a => exact retires_without (Dictionary.mem_keys_of_get? hget)
  | none =>
    simp only
    split_ifs
    · exact .refl s
    · exact .refl s

lemma retireAll_retires (l : List ℕ) (s : QUICConnectionIDStore) (frames : List QUICFrame) :
    s.Retires (retireAll l s frames).1 := by
  induction l generalizing s frames with
  | nil => exact .refl s
  | cons m rest ih =>
    have hfirst := retireAppending_retires s m frames
    rw [retireAll]
    rcases hrun : s.retireAppending m frames with ⟨s', _ | frames'⟩
    · rw [hrun] at hfirst
      exact hfirst
    · rw [hrun] at hfirst
      exact hfirst.trans (ih s' frames')

lemma retireOverLimit_retires (rounds : ℕ) (s : QUICConnectionIDStore)
    (frames : List QUICFrame) : s.Retires (retireOverLimit rounds s frames).1 := by
  induction rounds generalizing s frames with
  | zero => exact .refl s
  | succ rounds ih =>
    rw [retireOverLimit]
    split_ifs
    · cases s.active.keys.find? (· ≠ s.activeDestinationSequence) with
      | none => exact .refl s
      | some oldest =>
        have hfirst := retireAppending_retires s oldest frames
        simp only
        rcases hrun : s.retireAppending oldest frames with ⟨s', _ | frames'⟩
        · rw [hrun] at hfirst
          exact hfirst
        · rw [hrun] at hfirst
          exact hfirst.trans (ih s' frames')
    · exact .refl s

/-- What a call leaves of the numbers: those retired stay so and are not in use, and what is no
longer in use is retired. -/
structure Remembers (s s' : QUICConnectionIDStore) : Prop where
  limit : s'.activeConnectionIDLimit = s.activeConnectionIDLimit
  gone : ∀ n ∈ s.retiredSequences, n ∈ s'.retiredSequences
  left : ∀ n ∈ s.active.keys, n ∉ s'.active.keys → n ∈ s'.retiredSequences
  disjoint : ∀ n ∈ s'.retiredSequences, n ∉ s'.active.keys

lemma Remembers.of_retires (hs : ∀ n ∈ s.retiredSequences, n ∉ s.active.keys)
    (h : s.Retires s') : s.Remembers s' where
  limit := h.limit
  gone n hn := (h.retired n).mpr (.inl hn)
  left n hn hnot := (h.retired n).mpr (.inr ⟨hn, hnot⟩)
  disjoint n hn hin := by
    rcases (h.retired n).mp hn with hold | ⟨-, hnot⟩
    · exact hs n hold (h.active n hin)
    · exact hnot hin

lemma enter_ok {sequence : ℕ} {connectionID token : List UInt8}
    (h : s.enter sequence connectionID token = .ok s') :
    s' = s ∨ sequence ∉ s.retiredSequences ∧
      ∃ a, s' = { s with active := s.active.insert sequence a } := by
  by_cases hok : s.Acceptable sequence connectionID token
  · rcases enter_acceptable hok with ⟨hallow, -⟩ | ⟨a, hallow, hnew⟩
    · rw [hallow] at h
      exact .inl (Except.ok.inj h).symm
    · rw [hallow] at h
      exact .inr ⟨hnew, a, (Except.ok.inj h).symm⟩
  · obtain ⟨e, hallow⟩ := enter_refused hok
    rw [hallow] at h
    cases h

lemma applyNewConnectionID_remembers (hs : ∀ n ∈ s.retiredSequences, n ∉ s.active.keys)
    (sequence retirePriorTo : ℕ) (connectionID token : List UInt8) :
    s.Remembers (s.applyNewConnectionID sequence retirePriorTo connectionID token).1 := by
  unfold applyNewConnectionID
  by_cases hlt : sequence < retirePriorTo
  · rw [if_pos hlt]
    exact .of_retires hs (.refl s)
  rw [if_neg hlt]
  simp only
  generalize (if s.largestRetirePriorTo < retirePriorTo then retirePriorTo
    else s.largestRetirePriorTo) = watermark
  by_cases hlow : sequence < watermark
  · -- The number is only marked.
    rw [if_pos hlow]
    refine ⟨rfl, fun n hn => Finset.mem_insert_of_mem hn, ?_, ?_⟩
    · intro n hn hnot
      by_cases heq : n = sequence
      · exact heq ▸ Finset.mem_insert_self _ _
      · exact absurd (Dictionary.mem_keys_erase.mpr ⟨heq, hn⟩) hnot
    · intro n hn hin
      obtain ⟨hne, hold⟩ := Dictionary.mem_keys_erase.mp hin
      exact hs n ((Finset.mem_insert.mp hn).resolve_left hne) hold
  rw [if_neg hlow]
  have hraised : s.Remembers { s with largestRetirePriorTo := watermark } :=
    ⟨rfl, fun n hn => hn, fun n hn hnot => absurd hn hnot, hs⟩
  cases hallow : enter { s with largestRetirePriorTo := watermark } sequence connectionID token with
  | error e => exact hraised
  | ok admitted =>
    -- What is taken was not retired.
    have hadmitted : admitted.activeConnectionIDLimit = s.activeConnectionIDLimit ∧
        admitted.retiredSequences = s.retiredSequences ∧
        (∀ n ∈ s.active.keys, n ∈ admitted.active.keys) ∧
        ∀ n ∈ s.retiredSequences, n ∉ admitted.active.keys := by
      rcases enter_ok hallow with rfl | ⟨hnew, a, rfl⟩
      · exact ⟨rfl, rfl, fun n hn => hn, hs⟩
      · refine ⟨rfl, rfl, fun n hn => Dictionary.mem_keys_insert.mpr (.inr hn), ?_⟩
        intro n hn hin
        rcases Dictionary.mem_keys_insert.mp hin with rfl | hin
        · exact hnew hn
        · exact hs n hn hin
    obtain ⟨hlimit, hsame, hkept, hdisjoint⟩ := hadmitted
    have hdisjoint' : ∀ n ∈ admitted.retiredSequences, n ∉ admitted.active.keys := by
      rw [hsame]
      exact hdisjoint
    have hretires : ∀ s', admitted.Retires s' → s.Remembers s' := by
      intro s' h
      have hrest := Remembers.of_retires hdisjoint' h
      exact ⟨hrest.limit.trans hlimit, fun n hn => hrest.gone n (by rw [hsame]; exact hn),
        fun n hn hnot => hrest.left n (hkept n hn) hnot, hrest.disjoint⟩
    have hpruned := retireAll_retires (admitted.active.keys.filter (· < retirePriorTo)) admitted []
    simp only
    rcases hrun : retireAll (admitted.active.keys.filter (· < retirePriorTo)) admitted [] with
      ⟨pruned, _ | frames⟩
    · rw [hrun] at hpruned
      exact hretires _ hpruned
    · rw [hrun] at hpruned
      exact hretires _ (hpruned.trans (retireOverLimit_retires pruned.active.count pruned frames))

lemma retire_remembers (hs : ∀ n ∈ s.retiredSequences, n ∉ s.active.keys) (sequence : ℕ) :
    s.Remembers (s.retire sequence).1 := by
  unfold retire
  split_ifs
  · exact .of_retires hs (.refl s)
  · have hfirst := retireAppending_retires s sequence []
    rcases hrun : s.retireAppending sequence [] with ⟨s', _ | frames⟩
    · rw [hrun] at hfirst
      exact .of_retires hs hfirst
    · rw [hrun] at hfirst
      simp only
      cases frames.head? with
      | none => exact .of_retires hs hfirst
      | some frame => exact .of_retires hs hfirst

lemma call_remembers (hs : ∀ n ∈ s.retiredSequences, n ∉ s.active.keys) (c : Call) :
    s.Remembers (s.call c).1 := by
  cases c with
  | applyNewConnectionID sequence retirePriorTo connectionID token =>
    exact applyNewConnectionID_remembers hs sequence retirePriorTo connectionID token
  | retire sequence => exact retire_remembers hs sequence
  | useDestinationConnectionID sequence =>
    simp only [call, useDestinationConnectionID]
    cases s.active.get? sequence with
    | none => exact .of_retires hs (.refl s)
    | some connectionID => exact ⟨rfl, fun n hn => hn, fun n hn hnot => absurd hn hnot, hs⟩

/-- A number leaves in a call only if it was not retired before, and is retired by the call. -/
lemma Leaves.retired (hs : ∀ n ∈ s.retiredSequences, n ∉ s.active.keys) {c : Call}
    (h : s.Leaves c n) : n ∉ s.retiredSequences ∧ n ∈ (s.call c).1.retiredSequences := by
  obtain ⟨hnot, hin | ⟨hnew, hold⟩⟩ := h
  · exact ⟨fun hn => hs n hn hin, (call_remembers hs c).left n hin hnot⟩
  · exact ⟨hold, hnew⟩

lemma departures_retired (hs : ∀ n ∈ s.retiredSequences, n ∉ s.active.keys)
    (hn : n ∈ s.retiredSequences) (calls : List Call) : departures n s calls = 0 := by
  induction calls generalizing s with
  | nil => rfl
  | cons c rest ih =>
    have hcall := call_remembers hs c
    rw [departures, if_neg fun h => (Leaves.retired hs h).1 hn,
      ih hcall.disjoint (hcall.gone n hn)]

theorem departures_le_one (hs : ∀ n ∈ s.retiredSequences, n ∉ s.active.keys) (n : ℕ)
    (calls : List Call) : departures n s calls ≤ 1 := by
  induction calls generalizing s with
  | nil => exact Nat.zero_le 1
  | cons c rest ih =>
    have hcall := call_remembers hs c
    rw [departures]
    split_ifs with hleaves
    · rw [departures_retired hcall.disjoint (Leaves.retired hs hleaves).2]
    · have := ih hcall.disjoint
      omega

/-! ## Every sequence of calls -/

lemma init_consistent {initialConnectionID : List UInt8} {limit : ℕ}
    (h : init initialConnectionID limit = .ok s) :
    s.Consistent ∧ 1 ≤ s.activeConnectionIDLimit := by
  unfold init at h
  split_ifs at h with hlimit
  · cases hmake : QUICConnectionID.make 0 initialConnectionID none with
    | error e =>
      rw [hmake] at h
      cases h
    | ok first =>
      rw [hmake] at h
      obtain rfl := Except.ok.inj h
      have hmem : ∀ n, n ∈ (Dictionary.insert ∅ 0 first).keys ↔ n = 0 := by
        intro n
        rw [Dictionary.mem_keys_insert]
        exact or_iff_left List.not_mem_nil
      have hcount := Dictionary.count_insert_le (d := (∅ : Dictionary ℕ QUICConnectionID))
        (k := 0) (a := first)
      refine ⟨⟨(hmem 0).mpr rfl, fun n hn => absurd hn (Finset.notMem_empty n),
        fun n _ => Nat.zero_le n, ?_⟩, by simp only; omega⟩
      rw [Dictionary.count_empty] at hcount
      simp only
      omega

lemma sound_iff (hs : s.Consistent) (hlimit : 1 ≤ s.activeConnectionIDLimit) (calls : List Call) :
    Sound s calls ↔ CarefulCalls s calls := by
  induction calls generalizing s with
  | nil => exact iff_of_true hs trivial
  | cons c rest ih =>
    have hc := keeps_iff_careful hs hlimit c
    have hlimit' : 1 ≤ (s.call c).1.activeConnectionIDLimit := by
      rw [(call_remembers hs.disjoint c).limit]
      exact hlimit
    constructor
    · rintro ⟨-, hthrow, hrest⟩
      have hs' : (s.call c).1.Consistent := by
        cases rest with
        | nil => exact hrest
        | cons _ _ => exact hrest.1
      exact ⟨hc.mp ⟨hs', hthrow⟩, (ih hs' hlimit').mp hrest⟩
    · rintro ⟨hcareful, hrest⟩
      obtain ⟨hs', hthrow⟩ := hc.mpr hcareful
      exact ⟨hs, hthrow, (ih hs' hlimit').mpr hrest⟩

/-- A store can be used all along, and calls that throw leave it as it was, exactly when every
call is careful where it is made. Every number leaves at most once in any case. -/
theorem sound_iff_careful {initialConnectionID : List UInt8} {limit : ℕ}
    (h : init initialConnectionID limit = .ok s) (calls : List Call) :
    (Sound s calls ∧ ∀ n, departures n s calls ≤ 1) ↔ CarefulCalls s calls := by
  obtain ⟨hs, hlimit⟩ := init_consistent h
  rw [sound_iff hs hlimit calls]
  exact and_iff_left fun n => departures_le_one hs.disjoint n calls

/-- Of a store with three IDs the oldest two can be retired. -/
theorem sound_iff_careful_three :
    let s : QUICConnectionIDStore := ⟨3, 0, Dictionary.insert ∅ 0 ⟨0, [0], none⟩, ∅, 0⟩
    let token := List.replicate 16 (0xab : UInt8)
    let calls : List Call :=
      [.applyNewConnectionID 1 0 [1] token, .useDestinationConnectionID 1,
        .applyNewConnectionID 2 1 [2] token, .retire 1]
    (Sound s calls ∧ ∀ n, departures n s calls ≤ 1) ↔ CarefulCalls s calls :=
  @sound_iff_careful ⟨3, 0, Dictionary.insert ∅ 0 ⟨0, [0], none⟩, ∅, 0⟩ [0] 3 rfl _

/-- Retiring the only ID leaves packets with one that is retired; and a frame whose ID is not the
one in use is refused, with its Retire Prior To kept and an ID below it in use. -/
theorem not_sound_calls :
    let s : QUICConnectionIDStore := ⟨3, 0, Dictionary.insert ∅ 0 ⟨0, [0], none⟩, ∅, 0⟩
    let token := List.replicate 16 (0xab : UInt8)
    let refused : List Call :=
      [.applyNewConnectionID 1 0 [1] token, .applyNewConnectionID 1 1 [2] token]
    init [0] 3 = .ok s ∧ ¬Sound s [.retire 0] ∧ ¬Sound s refused ∧
      (s.after [.retire 0]).activeDestinationSequence = 0 ∧
      (s.after [.retire 0]).active.keys = [] ∧
      (s.after refused).largestRetirePriorTo = 1 ∧ (s.after refused).active.keys = [0, 1] := by
  refine ⟨rfl, ?_, ?_, rfl, rfl, rfl, rfl⟩
  · intro h
    have hdest := h.2.2.destination
    exact absurd hdest (by decide)
  · intro h
    have hsame := h.2.2.2.1 rfl
    exact absurd (congrArg largestRetirePriorTo hsame) (by decide)

end QUICConnectionIDStore

end WebTransport
