import Mathlib.Order.Bounds.Basic
import WebTransport.Quic.StreamNumbers

/-!
# Limit updates

MAX_DATA, MAX_STREAMS and MAX_STREAM_DATA raise the limits under which this endpoint sends. The
network reorders them, and a lost one is sent again with the value it had. The visitor takes a
value below the limit for an error of the peer: each update has to arrive in its turn.
-/

namespace WebTransport

/-! ## Limits -/

/-- The limits of the peer that its frames raise. -/
inductive LimitKey
  | data
  | streams (direction : StreamDirection)
  | streamData (streamId : ℕ)
deriving DecidableEq

/-- The value of a limit; a stream that the table does not know has none. -/
def limitOf (c : Connection) : LimitKey → Option ℕ
  | .data => some c.peerLimits.initialMaxData
  | .streams .bidirectional => some c.peerLimits.initialMaxStreamsBidi
  | .streams .unidirectional => some c.peerLimits.initialMaxStreamsUni
  | .streamData streamId => (quicStreamTableFind c.streams streamId).map Stream.peerMaxStreamData

/-- The limit a frame raises, and the value it carries. -/
def limitUpdate : Frame → Option (LimitKey × ℕ)
  | .maxData maximum => some (.data, maximum)
  | .maxStreams direction maximum => some (.streams direction, maximum)
  | .maxStreamData streamId maximum => some (.streamData streamId, maximum)
  | _ => none

/-- A limit is the greatest value received for it. -/
def AtMaximum (received : List (LimitKey × ℕ)) (c : Connection) (key : LimitKey) : Prop :=
  ∃ limit, limitOf c key = some limit ∧ IsGreatest {value | (key, value) ∈ received} limit

/-- A connection that is open and whose limits, as far as it still has them, are the greatest
values received. -/
structure UpToDate (received : List (LimitKey × ℕ)) (c : Connection) : Prop where
  isOpen : quicConnectionIsClosed c = false
  limits : ∀ key value, (key, value) ∈ received → limitOf c key = none ∨ AtMaximum received c key

/-- An update arrives in its turn: where frames are taken, not below the limit it raises, and
for a stream that the table does not know, only when the frame opens it, and not below what was
received before. -/
structure InTurn (received : List (LimitKey × ℕ)) (visit : Visit) (frame : Frame) (c : Connection)
    (key : LimitKey) (value : ℕ) : Prop where
  takes : visit.Takes c
  above : ∀ limit, limitOf c key = some limit → limit ≤ value
  opens : limitOf c key = none → (∃ streamId, Opens visit frame c streamId) ∧
    ∀ earlier, (key, earlier) ∈ received → earlier ≤ value

/-! ## One update -/

section Update

variable {env : Env} {fuel : ℕ} {visit : Visit} {frame : Frame} {c c' : Connection}
  {reply : VisitReply} {key : LimitKey} {value : ℕ}

lemma isClosed_closeWith (c : Connection) (errorCode frameType now : ℕ) :
    quicConnectionIsClosed (closeWith c errorCode frameType now).1 = true := by
  cases hclosed : quicConnectionIsClosed c with
  | true =>
    unfold closeWith quicConnectionClose
    rw [if_pos hclosed]
    exact hclosed
  | false =>
    unfold closeWith quicConnectionClose quicCloseTransport closeCommon
    have hopen : c.close.kind = .none := by
      simp only [quicConnectionIsClosed, quicCloseIsClosed, Bool.or_eq_false_iff] at hclosed
      simpa using hclosed.2
    rw [if_neg (by simp [hclosed]), if_neg (by simp [hopen])]
    simp [quicConnectionIsClosed, quicCloseIsClosed]

/-- A connection that is open after an update has taken it. -/
lemma takes_of_open (hupdate : limitUpdate frame = some (key, value))
    (h : visitFrame env fuel visit frame c = some (c', reply))
    (hopen : quicConnectionIsClosed c' = false) : visit.Takes c := by
  unfold visitFrame at h
  simp only at h
  split at h
  · rename_i hignored
    cases h
    simp only [frameIgnored, Bool.and_eq_true] at hignored
    rw [hopen] at hignored
    cases hignored.1
  rename_i hignored
  split at h
  · cases h
    have hclosed := isClosed_closeWith (countFrame frame c) quicProtocolViolation
      (wireTypeOf frame) visit.now
    have hopen : quicConnectionIsClosed (closeWith (countFrame frame c) quicProtocolViolation
      (wireTypeOf frame) visit.now).1 = false := hopen
    rw [hclosed] at hopen
    cases hopen
  rename_i hallowed
  cases frame <;> cases hupdate
  all_goals
    refine ⟨?_, ?_⟩
    · simpa [frameForbiddenInSpace] using hallowed
    · simpa [frameIgnored, wireTypeOf, quicCloseAcceptsFrameType] using hignored

/-- What an update comes to where frames are taken. -/
inductive UpdateEnd (visit : Visit) (frame : Frame) (c : Connection) (key : LimitKey) (value : ℕ)
    (c' : Connection) : Prop
  | below (limit : ℕ) (hlimit : limitOf c key = some limit) (hlt : value < limit)
      (hclosed : quicConnectionIsClosed c' = true)
  | raised (limit : ℕ) (hlimit : limitOf c key = some limit) (hle : limit ≤ value)
      (hopen : quicConnectionIsClosed c' = false) (hself : limitOf c' key = some value)
      (hothers : ∀ k, k ≠ key → limitOf c' k = limitOf c k)
  | opened (hnone : limitOf c key = none) (hopens : ∃ streamId, Opens visit frame c streamId)
      (hopen : quicConnectionIsClosed c' = false) (hself : limitOf c' key = some value)
      (hothers : ∀ k, k ≠ key → limitOf c' k = limitOf c k ∨ limitOf c' k = none)
  | refused (hnone : limitOf c key = none) (hno : ¬∃ streamId, Opens visit frame c streamId)
      (hend : quicConnectionIsClosed c' = true ∨ limitOf c' key = none)

/-- Counting the frame changes nothing that an update is decided by. -/
lemma UpdateEnd.of_countFrame (h : UpdateEnd visit frame (countFrame frame c) key value c') :
    UpdateEnd visit frame c key value c' := by
  cases h with
  | below limit hlimit hlt hclosed => exact .below limit hlimit hlt hclosed
  | raised limit hlimit hle hopen hself hothers => exact .raised limit hlimit hle hopen hself hothers
  | opened hnone hopens hopen hself hothers =>
    exact .opened hnone (hopens.imp fun _ => Opens.of_countFrame) hopen hself hothers
  | refused hnone hno hend =>
    exact .refused hnone (fun hopens => hno (hopens.imp fun _ => Opens.countFrame)) hend

/-- An update of a limit of the whole connection. -/
lemma raiseLimit_updateEnd {granted frameType now : ℕ} {raised : Connection}
    (hopen : quicConnectionIsClosed c = false) (hgranted : limitOf c key = some granted)
    (hraised : quicConnectionIsClosed raised = quicConnectionIsClosed c)
    (hself : limitOf raised key = some value)
    (hothers : ∀ k, k ≠ key → limitOf raised k = limitOf c k) :
    UpdateEnd visit frame c key value (raiseLimit granted value raised frameType now c).1 := by
  unfold raiseLimit
  split
  · rename_i hlt
    exact .below granted hgranted hlt (isClosed_closeWith _ _ _ _)
  · rename_i hle
    exact .raised granted hgranted (not_lt.mp hle) (hraised.trans hopen) hself hothers

/-- The limits of a connection whose streams are replaced. -/
lemma limitOf_of_streams {k : LimitKey} (hlimits : c'.peerLimits = c.peerLimits)
    (hfind : ∀ streamId, k = .streamData streamId →
      quicStreamTableFind c'.streams streamId = quicStreamTableFind c.streams streamId) :
    limitOf c' k = limitOf c k := by
  cases k with
  | data => simp only [limitOf, hlimits]
  | streams direction => cases direction <;> simp only [limitOf, hlimits]
  | streamData streamId => simp only [limitOf, hfind streamId rfl]

/-- A stream that the table does not know has no limit. -/
lemma limitOf_of_unknown {streamId : ℕ} (hfind : quicStreamTableFind c.streams streamId = none) :
    limitOf c (.streamData streamId) = none := by
  simp only [limitOf, hfind, Option.map_none]

/-- An update of the limit of a stream that the table knows. -/
lemma maxStreamData_known {streamId : ℕ} {stream : Stream} (htakes : visit.Takes c)
    (hfind : quicStreamTableFind c.streams streamId = some stream)
    (h : visitFrame env fuel visit (.maxStreamData streamId value) c = some (c', reply)) :
    UpdateEnd visit (.maxStreamData streamId value) c (.streamData streamId) value c' := by
  have hlimit : limitOf c (.streamData streamId) = some stream.peerMaxStreamData := by
    simp only [limitOf, hfind, Option.map_some]
  rw [visitFrame_of_find htakes rfl hfind] at h
  unfold visitStream quicStreamOnMaxStreamData at h
  simp only at h
  by_cases hlt : value < stream.peerMaxStreamData
  · rw [if_pos hlt] at h
    cases h
    exact .below _ hlimit hlt (isClosed_closeWith _ _ _ _)
  · rw [if_neg hlt] at h
    cases h
    have hid := id_of_find hfind
    generalize hstream' : ({ stream with peerMaxStreamData := value } : Stream) = stream'
    have hid' : stream'.id = streamId := by
      rw [← hstream']
      exact hid
    refine .raised _ hlimit (not_lt.mp hlt) htakes.isOpen ?_ ?_
    · have hself := quicStreamTableFind_setStream hfind hid'
      have hvalue : stream'.peerMaxStreamData = value := by rw [← hstream']
      rw [← hvalue]
      exact congrArg (Option.map Stream.peerMaxStreamData) hself
    · intro k hk
      refine limitOf_of_streams rfl ?_
      rintro other rfl
      have hne : other ≠ stream'.id := by
        rintro rfl
        exact hk (by rw [hid'])
      exact quicStreamTableFind_setStream_ne hne

/-- A stream that the peer has just opened. -/
def freshPeerStream (c : Connection) (streamId : ℕ) : Stream :=
  { quicStreamInit streamId false (quicStreamIdIsBidirectional streamId) 0 0 with
    maxStreamData := c.config.localMaxStreamData
    window := c.config.localMaxStreamData }

/-- A stream that a frame opens is put into the table with the limits this endpoint grants. -/
lemma ensurePeerStream_of_opens {streamId : ℕ} (ht : c.streams.ids.Nodup)
    (hopens : Opens visit frame c streamId) (frameType now : ℕ) :
    ∃ slot < quicStreamTableMax, (sweptTable c.streams).slots slot = none ∧
      ensurePeerStream streamId frameType now c =
        ({ c with
            streams := ((sweptTable c.streams).openedAt slot streamId false).setStream
              (freshPeerStream c streamId) }, .ok, some (freshPeerStream c streamId)) ∧
      (quicStreamTableFind ((sweptTable c.streams).openedAt slot streamId false)
        streamId).isSome = true := by
  have hsub := (sweptTable_ids c.streams).1
  obtain ⟨slot, hslot, hfree, hopen⟩ := hopens.tableOpen
  have hself := quicStreamTableFind_openedAt_self (hsub.nodup ht) hslot hfree
    (fun hmem => hopens.absent (hsub.subset hmem)) false
  refine ⟨slot, hslot, hfree, ?_, ?_⟩
  · rw [hopens.ensurePeerStream_eq, hopen]
    simp only [hself]
    rfl
  · rw [hself]
    rfl

/-- The limit of a stream that a sweep and a new stream leave behind. -/
lemma find_of_opened {slot streamId other : ℕ} (ht : c.streams.ids.Nodup)
    (hfree : (sweptTable c.streams).slots slot = none) (hne : other ≠ streamId) :
    quicStreamTableFind ((sweptTable c.streams).openedAt slot streamId false) other =
        quicStreamTableFind c.streams other ∨
      quicStreamTableFind ((sweptTable c.streams).openedAt slot streamId false) other = none := by
  rw [quicStreamTableFind_openedAt_ne hfree hne]
  cases hswept : quicStreamTableFind (sweptTable c.streams) other with
  | none => exact .inr rfl
  | some stream => exact .inl (quicStreamTableFind_of_swept ht hswept).symm

/-- An update of the limit of a stream that it opens. -/
lemma maxStreamData_opens {streamId : ℕ} (ht : c.streams.ids.Nodup)
    (hopens : Opens visit (.maxStreamData streamId value) c streamId)
    (h : visitFrame env fuel visit (.maxStreamData streamId value) c = some (c', reply)) :
    UpdateEnd visit (.maxStreamData streamId value) c (.streamData streamId) value c' := by
  have hnone : limitOf c (.streamData streamId) = none := by
    have hfind : quicStreamTableFind c.streams streamId = none := by
      rw [quicStreamTableFind_eq_none, ← Option.not_isSome_iff_eq_none, ← StreamTable.mem_ids]
      exact hopens.absent
    simp only [limitOf, hfind, Option.map_none]
  have ht' : (countFrame (.maxStreamData streamId value) c).streams.ids.Nodup := ht
  obtain ⟨slot, -, hfree, hensure, hsome⟩ := ensurePeerStream_of_opens ht' hopens.countFrame
    (wireTypeOf (.maxStreamData streamId value)) visit.now
  rw [visitFrame_of_streamId hopens.takes hopens.names] at h
  unfold visitStreamFrame at h
  rw [hensure] at h
  unfold visitStream quicStreamOnMaxStreamData at h
  simp only at h
  have hlow : ¬value <
      (freshPeerStream (countFrame (.maxStreamData streamId value) c) streamId).peerMaxStreamData :=
    Nat.not_lt_zero value
  rw [if_neg hlow] at h
  cases h
  obtain ⟨opened, hopened⟩ := Option.isSome_iff_exists.mp hsome
  have hfresh := quicStreamTableFind_setStream hopened
    (show (freshPeerStream (countFrame (.maxStreamData streamId value) c) streamId).id = streamId
      from rfl)
  generalize hstream' : ({ freshPeerStream (countFrame (.maxStreamData streamId value) c) streamId with
    peerMaxStreamData := value } : Stream) = stream'
  have hid' : stream'.id = streamId := by rw [← hstream']; rfl
  refine .opened hnone ⟨streamId, hopens⟩ hopens.takes.isOpen ?_ ?_
  · have hself := quicStreamTableFind_setStream hfresh hid'
    have hvalue : stream'.peerMaxStreamData = value := by rw [← hstream']
    rw [← hvalue]
    exact congrArg (Option.map Stream.peerMaxStreamData) hself
  · intro k hk
    cases k with
    | data => exact .inl rfl
    | streams direction => cases direction <;> exact .inl rfl
    | streamData other =>
      have hne : other ≠ streamId := by
        rintro rfl
        exact hk rfl
      have hsame : quicStreamTableFind (StreamTable.setStream (StreamTable.setStream
          ((sweptTable c.streams).openedAt slot streamId false)
            (freshPeerStream (countFrame (.maxStreamData streamId value) c) streamId)) stream') other =
          quicStreamTableFind ((sweptTable c.streams).openedAt slot streamId false) other := by
        rw [quicStreamTableFind_setStream_ne (by rwa [hid']), quicStreamTableFind_setStream_ne hne]
      rcases find_of_opened ht hfree hne with hfind | hfind
      · exact .inl (congrArg (Option.map Stream.peerMaxStreamData) (hsame.trans hfind))
      · exact .inr (congrArg (Option.map Stream.peerMaxStreamData) (hsame.trans hfind))

/-- Looking up a stream that the table does not know and the frame does not open finds none, and
leaves the stream out of the table. -/
lemma ensurePeerStream_of_not_opens {streamId : ℕ} (htakes : visit.Takes c)
    (hnames : frameStreamId frame = some streamId)
    (hfind : quicStreamTableFind c.streams streamId = none) (hno : ¬Opens visit frame c streamId)
    (frameType now : ℕ) :
    (ensurePeerStream streamId frameType now c).2.2 = none ∧
      quicStreamTableFind (ensurePeerStream streamId frameType now c).1.streams streamId =
        none := by
  have habsent := StreamTable.not_mem_ids hfind
  rw [ensurePeerStream_eq, hfind]
  simp only
  split
  · exact ⟨rfl, by rw [closeWith_streams]; exact hfind⟩
  rename_i hpeer
  split
  · exact ⟨rfl, by rw [closeWith_streams]; exact hfind⟩
  rename_i hindex
  have hend := quicStreamTableOpen_end c.streams streamId false (grantedFor c streamId)
  generalize quicStreamTableOpen c.streams streamId false (grantedFor c streamId) = r at hend ⊢
  cases hend with
  | @refused table' status h hsame hwhy =>
    cases status with
    | ok => exact absurd rfl h
    | _ =>
      refine ⟨rfl, ?_⟩
      show quicStreamTableFind table' streamId = none
      rw [quicStreamTableFind_eq_none, hsame.tableSlot]
      exact quicStreamTableFind_eq_none.mp hfind
  | @opened slot hnew hlimit hslot hfree =>
    exact absurd ⟨htakes, hnames, habsent, by simpa [peerOpens] using hpeer, not_le.mp hindex,
      hlimit, StreamTable.hasRoom_of_swept hslot hfree⟩ hno

/-- An update of the limit of a stream that the table does not know and that it does not
open. -/
lemma maxStreamData_refused {streamId : ℕ} (htakes : visit.Takes c)
    (hfind : quicStreamTableFind c.streams streamId = none)
    (hno : ¬∃ id, Opens visit (.maxStreamData streamId value) c id)
    (h : visitFrame env fuel visit (.maxStreamData streamId value) c = some (c', reply)) :
    UpdateEnd visit (.maxStreamData streamId value) c (.streamData streamId) value c' := by
  have hnone := limitOf_of_unknown hfind
  refine .refused hnone hno ?_
  have htakes' : visit.Takes (countFrame (.maxStreamData streamId value) c) :=
    ⟨htakes.space, htakes.isOpen⟩
  have hno' : ¬Opens visit (.maxStreamData streamId value)
      (countFrame (.maxStreamData streamId value) c) streamId :=
    fun hopens => hno ⟨streamId, hopens.of_countFrame⟩
  obtain ⟨hout, hend⟩ := ensurePeerStream_of_not_opens htakes' rfl hfind hno'
    (wireTypeOf (.maxStreamData streamId value)) visit.now
  rw [visitFrame_of_streamId htakes rfl] at h
  unfold visitStreamFrame at h
  split at h
  · rename_i c₁ stream heq
    rw [heq] at hout
    cases hout
  · rename_i c₁ heq
    rw [heq] at hend
    cases h
    exact .inr (limitOf_of_unknown hend)
  · rename_i c₁ status _ _ _ heq
    rw [heq] at hend
    cases h
    exact .inr (limitOf_of_unknown hend)

/-- Where frames are taken, an update closes the connection, raises its limit or is refused. -/
theorem visitFrame_updateEnd (ht : c.streams.ids.Nodup) (htakes : visit.Takes c)
    (hupdate : limitUpdate frame = some (key, value))
    (h : visitFrame env fuel visit frame c = some (c', reply)) :
    UpdateEnd visit frame c key value c' := by
  cases frame <;> cases hupdate
  case maxData =>
    rw [visitFrame_of_takes htakes] at h
    cases h
    refine UpdateEnd.of_countFrame (raiseLimit_updateEnd htakes.isOpen rfl rfl rfl ?_)
    intro k hk
    cases k with
    | data => exact absurd rfl hk
    | streams direction => cases direction <;> rfl
    | streamData streamId => rfl
  case maxStreams direction =>
    rw [visitFrame_of_takes htakes] at h
    cases direction with
    | bidirectional =>
      cases h
      refine UpdateEnd.of_countFrame (raiseLimit_updateEnd htakes.isOpen rfl rfl rfl ?_)
      intro k hk
      cases k with
      | data => rfl
      | streams other =>
        cases other with
        | bidirectional => exact absurd rfl hk
        | unidirectional => rfl
      | streamData streamId => rfl
    | unidirectional =>
      cases h
      refine UpdateEnd.of_countFrame (raiseLimit_updateEnd htakes.isOpen rfl rfl rfl ?_)
      intro k hk
      cases k with
      | data => rfl
      | streams other =>
        cases other with
        | bidirectional => rfl
        | unidirectional => exact absurd rfl hk
      | streamData streamId => rfl
  case maxStreamData streamId =>
    cases hfind : quicStreamTableFind c.streams streamId with
    | some stream => exact maxStreamData_known htakes hfind h
    | none =>
      by_cases hopens : ∃ id, Opens visit (.maxStreamData streamId value) c id
      · obtain ⟨id, hopens⟩ := hopens
        obtain rfl : streamId = id := Option.some.inj hopens.names
        exact maxStreamData_opens ht hopens h
      · exact maxStreamData_refused htakes hfind hopens h

lemma visitFrame_orderly (ht : c.streams.Orderly)
    (h : visitFrame env fuel visit frame c = some (c', reply)) : c'.streams.Orderly := by
  cases visitFrame_tableEnd h with
  | same h => exact h.orderly ht
  | opened hopens hslot hfree h =>
    have hnew := fun hmem => hopens.absent ((sweptTable_ids c.streams).1.subset hmem)
    exact h.orderly (ht.swept.openedAt hslot hfree hnew false)

end Update

/-! ## Runs of updates -/

/-- The updates a connection has received, the last one first, when each met a condition. -/
inductive UpdateRun (env : Env)
    (Meets : List (LimitKey × ℕ) → Visit → Frame → Connection → LimitKey → ℕ → Prop)
    (c₀ : Connection) : List (LimitKey × ℕ) → Connection → Prop
  | start : UpdateRun env Meets c₀ [] c₀
  | update {received : List (LimitKey × ℕ)} {c c' : Connection} {fuel : ℕ} {visit : Visit}
      {frame : Frame} {reply : VisitReply} {key : LimitKey} {value : ℕ}
      (h : UpdateRun env Meets c₀ received c) (hupdate : limitUpdate frame = some (key, value))
      (hvisit : visitFrame env fuel visit frame c = some (c', reply))
      (hmeets : Meets received visit frame c key value) :
      UpdateRun env Meets c₀ ((key, value) :: received) c'

section Run

variable {env : Env} {fuel : ℕ} {visit : Visit} {frame : Frame} {c₀ c c' : Connection}
  {reply : VisitReply} {key : LimitKey} {value : ℕ} {received : List (LimitKey × ℕ)}

/-- The last value is the greatest when it is not below the others. -/
lemma isGreatest_cons :
    IsGreatest {v | (key, v) ∈ (key, value) :: received} value ↔
      ∀ earlier, (key, earlier) ∈ received → earlier ≤ value := by
  constructor
  · rintro ⟨-, hbound⟩ earlier hearlier
    exact hbound (List.mem_cons_of_mem _ hearlier)
  · intro hbound
    refine ⟨List.mem_cons_self, ?_⟩
    rintro v hv
    rcases List.mem_cons.mp hv with heq | hmem
    · exact (Prod.mk.inj heq).2.le
    · exact hbound v hmem

/-- An update of another limit leaves a limit at its maximum. -/
lemma AtMaximum.other {k : LimitKey} (h : AtMaximum received c k) (hk : k ≠ key)
    (hsame : limitOf c' k = limitOf c k) : AtMaximum ((key, value) :: received) c' k := by
  obtain ⟨limit, hlimit, hmem, hbound⟩ := h
  refine ⟨limit, hsame.trans hlimit, List.mem_cons_of_mem _ hmem, ?_⟩
  rintro v hv
  rcases List.mem_cons.mp hv with heq | hv
  · exact absurd (Prod.mk.inj heq).1 hk
  · exact hbound hv

/-- The limits after an update that raised or opened its own. -/
lemma upToDate_of_raised
    (hlimits : ∀ k v, (k, v) ∈ received → limitOf c k = none ∨ AtMaximum received c k)
    (hopen : quicConnectionIsClosed c' = false) (hself : limitOf c' key = some value)
    (hbound : ∀ earlier, (key, earlier) ∈ received → earlier ≤ value)
    (hothers : ∀ k, k ≠ key → limitOf c' k = limitOf c k ∨ limitOf c' k = none) :
    UpToDate ((key, value) :: received) c' ∧ AtMaximum ((key, value) :: received) c' key := by
  have hmax : AtMaximum ((key, value) :: received) c' key :=
    ⟨value, hself, isGreatest_cons.mpr hbound⟩
  refine ⟨⟨hopen, ?_⟩, hmax⟩
  intro k v hmem
  by_cases hk : k = key
  · subst hk
    exact .inr hmax
  · have hmem : (k, v) ∈ received :=
      (List.mem_cons.mp hmem).resolve_left fun heq => hk (Prod.mk.inj heq).1
    rcases hothers k hk with hsame | hnone
    · rcases hlimits k v hmem with hold | hold
      · exact .inl (hsame.trans hold)
      · exact .inr (hold.other hk hsame)
    · exact .inl hnone

/-- An update leaves the limits at their maxima exactly when it arrives in its turn. -/
theorem upToDate_iff_inTurn (ht : c.streams.ids.Nodup)
    (hlimits : ∀ k v, (k, v) ∈ received → limitOf c k = none ∨ AtMaximum received c k)
    (hupdate : limitUpdate frame = some (key, value))
    (hvisit : visitFrame env fuel visit frame c = some (c', reply)) :
    (UpToDate ((key, value) :: received) c' ∧ AtMaximum ((key, value) :: received) c' key) ↔
      InTurn received visit frame c key value := by
  constructor
  · rintro ⟨hup, limit', hlimit', hgreatest⟩
    have htakes := takes_of_open hupdate hvisit hup.isOpen
    cases visitFrame_updateEnd ht htakes hupdate hvisit with
    | below limit hlimit hlt hclosed =>
      rw [hup.isOpen] at hclosed
      cases hclosed
    | raised limit hlimit hle hopen hself hothers =>
      refine ⟨htakes, ?_, ?_⟩
      · intro l hl
        rw [hlimit] at hl
        cases hl
        exact hle
      · intro hnone
        rw [hlimit] at hnone
        cases hnone
    | opened hnone hopens hopen hself hothers =>
      rw [hself] at hlimit'
      cases hlimit'
      refine ⟨htakes, ?_, fun _ => ⟨hopens, isGreatest_cons.mp hgreatest⟩⟩
      intro l hl
      rw [hnone] at hl
      cases hl
    | refused hnone hno hend =>
      rcases hend with hclosed | hunknown
      · rw [hup.isOpen] at hclosed
        cases hclosed
      · rw [hunknown] at hlimit'
        cases hlimit'
  · rintro ⟨htakes, habove, hopens⟩
    cases visitFrame_updateEnd ht htakes hupdate hvisit with
    | below limit hlimit hlt hclosed => exact absurd (habove limit hlimit) (not_le.mpr hlt)
    | raised limit hlimit hle hopen hself hothers =>
      refine upToDate_of_raised hlimits hopen hself ?_ fun k hk => .inl (hothers k hk)
      intro earlier hearlier
      rcases hlimits key earlier hearlier with hnone | ⟨limit', hlimit', -, hbound⟩
      · rw [hlimit] at hnone
        cases hnone
      · rw [hlimit] at hlimit'
        cases hlimit'
        exact (hbound hearlier).trans hle
    | opened hnone _ hopen hself hothers =>
      exact upToDate_of_raised hlimits hopen hself (hopens hnone).2 hothers
    | refused hnone hno hend => exact absurd (hopens hnone).1 hno

lemma UpdateRun.orderly {Meets : List (LimitKey × ℕ) → Visit → Frame → Connection → LimitKey → ℕ → Prop}
    (h : UpdateRun env Meets c₀ received c) (ht : c₀.streams.Orderly) : c.streams.Orderly := by
  induction h with
  | start => exact ht
  | update h hupdate hvisit hmeets ih => exact visitFrame_orderly ih hvisit

/-- A run of updates that arrive in their turn keeps the limits at their maxima. -/
lemma UpdateRun.limits (h : UpdateRun env InTurn c₀ received c) (ht : c₀.streams.Orderly) :
    ∀ key value, (key, value) ∈ received → limitOf c key = none ∨ AtMaximum received c key := by
  induction h with
  | start =>
    intro key value hmem
    cases hmem
  | update h hupdate hvisit hmeets ih =>
    exact ((upToDate_iff_inTurn (h.orderly ht).distinct ih hupdate hvisit).mpr hmeets).1.limits

/-- However many updates have arrived, each in its turn: the connection is open, every limit it
still has is the greatest value received for it, and the next update keeps it so exactly when
it arrives in its turn too. -/
theorem updates_reach_maximum {named held : Finset ℕ}
    (h₀ : TableRun env (fun _ _ _ => True) named held c₀)
    (h : UpdateRun env InTurn c₀ received c) :
    (received ≠ [] → UpToDate received c) ∧
      ∀ fuel visit frame key value c' reply, limitUpdate frame = some (key, value) →
        visitFrame env fuel visit frame c = some (c', reply) →
          ((UpToDate ((key, value) :: received) c' ∧
              AtMaximum ((key, value) :: received) c' key) ↔
            InTurn received visit frame c key value) := by
  have ht := h₀.numbered.orderly
  refine ⟨?_, ?_⟩
  · intro hne
    cases h with
    | start => exact absurd rfl hne
    | update h hupdate hvisit hmeets =>
      exact ((upToDate_iff_inTurn (h.orderly ht).distinct (h.limits ht) hupdate hvisit).mpr
        hmeets).1
  · intro fuel visit frame key value c' reply hupdate hvisit
    exact upToDate_iff_inTurn (h.orderly ht).distinct (h.limits ht) hupdate hvisit

end Run

/-! ## Two updates -/

/-- The server after MAX_DATA frames with some values. -/
def afterMaxData (values : List ℕ) : Connection :=
  values.foldl (fun c value => afterVisit (.maxData value) c) twoStreamServer

lemma afterMaxData_step {Meets : List (LimitKey × ℕ) → Visit → Frame → Connection → LimitKey → ℕ → Prop}
    {values : List ℕ} {received : List (LimitKey × ℕ)} {value : ℕ}
    (h : UpdateRun steadyEnv Meets twoStreamServer received (afterMaxData values))
    (hsome : (visitFrame steadyEnv 0 atStart (.maxData value) (afterMaxData values)).isSome = true)
    (hmeets : Meets received atStart (.maxData value) (afterMaxData values) .data value) :
    UpdateRun steadyEnv Meets twoStreamServer ((.data, value) :: received)
      (afterMaxData (values ++ [value])) := by
  obtain ⟨reply, hvisit⟩ := visitFrame_afterVisit hsome
  have hlast : afterMaxData (values ++ [value]) = afterVisit (.maxData value) (afterMaxData values) := by
    simp [afterMaxData]
  rw [hlast]
  exact h.update rfl hvisit hmeets

/-- Two updates in the order they were sent. -/
theorem max_data_in_order :
    UpToDate [(.data, 100), (.data, 50)] (afterMaxData [50, 100]) := by
  have hstart : UpdateRun steadyEnv InTurn twoStreamServer [] (afterMaxData []) := .start
  have hfirst : UpdateRun steadyEnv InTurn twoStreamServer [(.data, 50)] (afterMaxData [50]) :=
    afterMaxData_step hstart rfl
      ⟨⟨rfl, rfl⟩, fun limit h => by cases h; decide, fun h => by cases h⟩
  have hsecond : UpdateRun steadyEnv InTurn twoStreamServer [(.data, 100), (.data, 50)]
      (afterMaxData [50, 100]) :=
    afterMaxData_step hfirst rfl
      ⟨⟨rfl, rfl⟩, fun limit h => by cases h; decide, fun h => by cases h⟩
  exact (updates_reach_maximum (twoStreamServer_run fun _ => trivial) hsecond).1 (by simp)

/-- The same two updates in the other order: the connection is closed, and for an error of the
peer. -/
theorem max_data_out_of_order :
    UpdateRun steadyEnv (fun _ _ _ _ _ _ => True) twoStreamServer [(.data, 50), (.data, 100)]
        (afterMaxData [100, 50]) ∧
      (afterMaxData [100, 50]).close.errorCode = quicProtocolViolation ∧
      ¬UpToDate [(.data, 50), (.data, 100)] (afterMaxData [100, 50]) := by
  refine ⟨?_, by decide, ?_⟩
  · have hstart : UpdateRun steadyEnv (fun _ _ _ _ _ _ => True) twoStreamServer []
      (afterMaxData []) := .start
    have hfirst : UpdateRun steadyEnv (fun _ _ _ _ _ _ => True) twoStreamServer [(.data, 100)]
      (afterMaxData [100]) := afterMaxData_step hstart rfl trivial
    exact afterMaxData_step hfirst rfl trivial
  · intro h
    exact absurd h.isOpen (by decide)

end WebTransport
