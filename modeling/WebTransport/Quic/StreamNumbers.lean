import Mathlib.Data.Finset.Card
import WebTransport.Quic.VisitStream

/-!
# Stream numbers

Over the life of a connection streams are opened by both ends, go through their states and are
forgotten, when they are closed or when the table needs their slot. A number this endpoint
opens comes from a counter that only grows. A number the peer opens comes from its frames, and
all the table remembers of the streams it has forgotten is how many there were: a frame that
arrives late for such a stream opens it again.
-/

namespace WebTransport

/-! ## Numbers and classes -/

section Make

variable (fromClient bidirectional : Bool) (index : ℕ)

/-- The wrap of the shift is a wrap of the index. -/
lemma quicStreamIdMake_eq :
    quicStreamIdMake fromClient bidirectional index =
      index % 2 ^ 62 * 4 + (if fromClient then 0 else 1) + if bidirectional then 0 else 2 := by
  unfold quicStreamIdMake
  omega

lemma quicStreamIdIndex_make (h : index < 2 ^ 62) :
    quicStreamIdIndex (quicStreamIdMake fromClient bidirectional index) = index := by
  rw [quicStreamIdMake_eq, Nat.mod_eq_of_lt h]
  unfold quicStreamIdIndex
  cases fromClient <;> cases bidirectional <;> simp <;> omega

lemma quicStreamIdFromClient_make :
    quicStreamIdFromClient (quicStreamIdMake fromClient bidirectional index) = fromClient := by
  rw [quicStreamIdMake_eq]
  unfold quicStreamIdFromClient
  cases fromClient <;> cases bidirectional <;> simp <;> omega

lemma quicStreamIdIsBidirectional_make :
    quicStreamIdIsBidirectional (quicStreamIdMake fromClient bidirectional index) =
      bidirectional := by
  rw [quicStreamIdMake_eq]
  unfold quicStreamIdIsBidirectional
  cases fromClient <;> cases bidirectional <;> simp <;> omega

end Make

/-- The stream limits of the peer as the parameter check and the frame decoder let them
through. -/
structure PeerLimits.Checked (limits : PeerLimits) : Prop where
  bidi : limits.initialMaxStreamsBidi ≤ 2 ^ 60
  uni : limits.initialMaxStreamsUni ≤ 2 ^ 60

/-! ## The steps of a connection -/

/-- One step of a connection, as far as its streams are concerned, with the frame that was
received in it: this endpoint opens a stream, a decoded frame arrives, a stream is closed, or
anything else happens that opens and forgets no stream: data is sent and read, and the limits
of either end are set. -/
inductive TableStep (env : Env) (c : Connection) : Option (Visit × Frame) → Connection → Prop
  | openStream (bidirectional : Bool) :
      TableStep env c none (quicConnectionOpenStream bidirectional c).1
  | frame {bytes rest : List UInt8} {fuel : ℕ} {visit : Visit} {frame : Frame}
      {reply : VisitReply} {c' : Connection} (hdecode : quicFrameDecode bytes = .ok (frame, rest))
      (h : visitFrame env fuel visit frame c = some (c', reply)) :
      TableStep env c (some (visit, frame)) c'
  | close (streamId : ℕ) :
      TableStep env c none { c with streams := (quicStreamTableClose c.streams streamId).1 }
  | other {c' : Connection} (hsame : c.streams.SameIds c'.streams)
      (hrole : c'.config.role = c.config.role)
      (hlimits : c.peerLimits.Checked → c'.peerLimits.Checked) : TableStep env c none c'

/-- The stream number a step's frame names. -/
def namedBy (received : Option (Visit × Frame)) : Finset ℕ :=
  match received.bind fun r => frameStreamId r.2 with
  | none => ∅
  | some streamId => {streamId}

/-- The runs of a connection in which every step meets a condition, with the stream numbers
that received frames have named and the numbers that have been in the table. -/
inductive TableRun (env : Env)
    (Meets : Finset ℕ → Connection → Option (Visit × Frame) → Prop) :
    Finset ℕ → Finset ℕ → Connection → Prop
  | init {config : ConnectionConfig} {c : Connection} (h : quicConnectionInit config = .ok c) :
      TableRun env Meets ∅ ∅ c
  | step {named held : Finset ℕ} {c c' : Connection} {received : Option (Visit × Frame)}
      (h : TableRun env Meets named held c) (hstep : TableStep env c received c')
      (hmeets : Meets held c received) :
      TableRun env Meets (named ∪ namedBy received) (held ∪ c'.streams.ids.toFinset) c'

/-! ## What a step does to the numbers -/

/-- What a step leaves of the numbers: some may go, or one stream was opened, by this endpoint
with the next number of its class or by the frame that was received. -/
inductive StepEnd (c : Connection) (received : Option (Visit × Frame)) (c' : Connection) : Prop
  | fewer (hids : c'.streams.ids ⊆ c.streams.ids)
      (horderly : c.streams.Orderly → c'.streams.Orderly)
      (hopened : c'.streams.opened = c.streams.opened)
  | opened (streamId : ℕ) (ours : Bool) (hnew : streamId ∉ c.streams.ids)
      (hmem : streamId ∈ c'.streams.ids)
      (hids : ∀ id, id ∈ c'.streams.ids → id = streamId ∨ id ∈ c.streams.ids)
      (horderly : c.streams.Orderly → c'.streams.Orderly)
      (hopened : ∀ ours' bidi, c'.streams.opened ours' bidi = c.streams.opened ours' bidi +
        if ours = ours' ∧ quicStreamIdIsBidirectional streamId = bidi then 1 else 0)
      (hours : ours = true → peerOpens c streamId = false ∧
        quicStreamIdIndex streamId =
          c.streams.opened true (quicStreamIdIsBidirectional streamId))
      (htheirs : ours = false → ∃ visit frame, received = some (visit, frame) ∧
        Opens visit frame c streamId)

section Steps

variable {env : Env} {c c' : Connection} {received : Option (Visit × Frame)}

lemma StepEnd.of_sameIds (h : c.streams.SameIds c'.streams) : StepEnd c received c' :=
  .fewer (by rw [h.ids]; exact List.Subset.refl _) h.orderly h.opened

lemma StepEnd.of_openedAt {streamId slot : ℕ} {ours : Bool} (hnew : streamId ∉ c.streams.ids)
    (hslot : slot < quicStreamTableMax) (hfree : (sweptTable c.streams).slots slot = none)
    (h : ((sweptTable c.streams).openedAt slot streamId ours).SameIds c'.streams)
    (hours : ours = true → peerOpens c streamId = false ∧
      quicStreamIdIndex streamId = c.streams.opened true (quicStreamIdIsBidirectional streamId))
    (htheirs : ours = false → ∃ visit frame, received = some (visit, frame) ∧
      Opens visit frame c streamId) : StepEnd c received c' := by
  obtain ⟨hsub, hopened⟩ := sweptTable_ids c.streams
  have hnew' : streamId ∉ (sweptTable c.streams).ids := fun hmem => hnew (hsub.subset hmem)
  refine .opened streamId ours hnew ?_ ?_ ?_ ?_ hours htheirs
  · rw [h.ids, StreamTable.mem_ids_openedAt hslot hfree]
    exact .inl rfl
  · intro id hid
    rw [h.ids, StreamTable.mem_ids_openedAt hslot hfree] at hid
    exact hid.imp_right fun hid => hsub.subset hid
  · intro ht
    exact h.orderly (ht.swept.openedAt hslot hfree hnew' ours)
  · intro ours' bidi
    rw [h.opened, StreamTable.openedAt, StreamTable.opened_countOpened, ← hopened]
    rfl

/-- The limit of the peer for the streams of a class. -/
def PeerLimits.maxStreams (limits : PeerLimits) (bidirectional : Bool) : ℕ :=
  if bidirectional then limits.initialMaxStreamsBidi else limits.initialMaxStreamsUni

lemma PeerLimits.Checked.maxStreams_le {limits : PeerLimits} (h : limits.Checked)
    (bidirectional : Bool) : limits.maxStreams bidirectional ≤ 2 ^ 60 := by
  cases bidirectional with
  | true => exact h.bidi
  | false => exact h.uni

lemma quicConnectionOpenStream_eq (bidirectional : Bool) (c : Connection) :
    quicConnectionOpenStream bidirectional c =
      if !c.peerLimits.set then (c, .error .state)
      else
        let streamId := quicStreamIdMake (c.config.role = .client) bidirectional
          (c.streams.opened true bidirectional)
        match quicStreamTableOpen c.streams streamId true (c.peerLimits.maxStreams bidirectional) with
        | (streams, .ok) =>
          let streams :=
            match quicStreamTableFind streams streamId with
            | none => streams
            | some stream =>
              streams.setStream { stream with
                maxStreamData := c.config.localMaxStreamData
                window := c.config.localMaxStreamData
                peerMaxStreamData :=
                  if bidirectional then c.peerLimits.initialMaxStreamDataBidiRemote
                  else c.peerLimits.initialMaxStreamDataUni }
          ({ c with streams := streams }, .ok streamId)
        | (streams, status) => ({ c with streams := streams }, .error status) := rfl

/-- Opening a stream of this endpoint's own takes the next number of the class. -/
lemma quicConnectionOpenStream_end (hlimits : c.peerLimits.Checked) (bidirectional : Bool)
    (received : Option (Visit × Frame)) :
    StepEnd c received (quicConnectionOpenStream bidirectional c).1 := by
  rw [quicConnectionOpenStream_eq]
  split
  · exact .of_sameIds (.refl _)
  simp only
  have hclient := quicStreamIdFromClient_make (c.config.role = .client) bidirectional
    (c.streams.opened true bidirectional)
  have hbidi := quicStreamIdIsBidirectional_make (c.config.role = .client) bidirectional
    (c.streams.opened true bidirectional)
  have hindex := quicStreamIdIndex_make (c.config.role = .client) bidirectional
    (c.streams.opened true bidirectional)
  generalize quicStreamIdMake (c.config.role = .client) bidirectional
    (c.streams.opened true bidirectional) = streamId at hclient hbidi hindex ⊢
  have hend := quicStreamTableOpen_end c.streams streamId true (c.peerLimits.maxStreams bidirectional)
  generalize quicStreamTableOpen c.streams streamId true (c.peerLimits.maxStreams bidirectional) = r
    at hend ⊢
  cases hend with
  | @refused table' status h hsame hwhy =>
    cases status with
    | ok => exact absurd rfl h
    | _ => exact .of_sameIds hsame
  | @opened slot hnew hlimit hslot hfree =>
    rw [hbidi] at hlimit
    have hours : (true = true) → peerOpens c streamId = false ∧ quicStreamIdIndex streamId =
        c.streams.opened true (quicStreamIdIsBidirectional streamId) := by
      intro _
      rw [hbidi]
      refine ⟨by simp [peerOpens, hclient], hindex ?_⟩
      exact hlimit.trans_le ((hlimits.maxStreams_le bidirectional).trans (by norm_num))
    refine .of_openedAt hnew hslot hfree ?_ hours (fun h => by cases h)
    simp only
    split
    · exact .refl _
    · exact .setStream _ _

/-- What a step does to the numbers. -/
theorem TableStep.ends (ht : c.streams.Orderly) (hlimits : c.peerLimits.Checked)
    (h : TableStep env c received c') : StepEnd c received c' := by
  cases h with
  | openStream bidirectional => exact quicConnectionOpenStream_end hlimits bidirectional none
  | @frame bytes rest fuel visit frame reply c' hdecode h =>
    cases visitFrame_tableEnd h with
    | same h => exact .of_sameIds h
    | opened hopens hslot hfree h =>
      exact .of_openedAt hopens.absent hslot hfree h (fun h => by cases h)
        (fun _ => ⟨visit, frame, rfl, hopens⟩)
  | close streamId =>
    obtain ⟨horderly, hids, hopened⟩ := quicStreamTableClose_ids ht streamId
    exact .fewer hids (fun _ => horderly) hopened
  | other hsame hrole hlimits => exact .of_sameIds hsame

lemma TableStep.role (h : TableStep env c received c') : c'.config.role = c.config.role := by
  cases h with
  | openStream bidirectional =>
    rw [quicConnectionOpenStream_eq]
    split
    · rfl
    simp only
    split
    · rfl
    · rfl
  | frame hdecode h => exact visitFrame_role h
  | close streamId => rfl
  | other hsame hrole hlimits => exact hrole

/-- A step keeps the limits of the peer within what was checked. -/
lemma TableStep.checked (h : TableStep env c received c') (hlimits : c.peerLimits.Checked) :
    c'.peerLimits.Checked := by
  cases h with
  | openStream bidirectional =>
    rw [quicConnectionOpenStream_eq]
    split
    · exact hlimits
    simp only
    split
    · exact hlimits
    · exact hlimits
  | frame hdecode h =>
    obtain ⟨limits, hsettings, hraised⟩ := visitFrame_settings h
    have heq : c'.peerLimits = limits := congrArg Outside.peerLimits hsettings
    have hcount := quicFrameDecode_countChecked hdecode
    rw [heq]
    rcases hraised with rfl | rfl
    · exact hlimits
    · unfold raisedLimits
      split
      · exact ⟨hlimits.bidi, hlimits.uni⟩
      · exact ⟨hcount, hlimits.uni⟩
      · exact ⟨hlimits.bidi, hcount⟩
      · exact hlimits
  | close streamId => exact hlimits
  | other hsame hrole hkept => exact hkept hlimits

end Steps

/-! ## The numbers over a run -/

/-- A frame opens no stream that has been in the table before. -/
def NoLateFrame (held : Finset ℕ) (c : Connection) (received : Option (Visit × Frame)) : Prop :=
  ∀ visit frame streamId, received = some (visit, frame) → Opens visit frame c streamId →
    streamId ∉ held

/-- What a step adds to the table has not been there before. -/
def AddsFresh (held : Finset ℕ) (c c' : Connection) : Prop :=
  ∀ id ∈ c'.streams.ids, id ∉ c.streams.ids → id ∉ held

/-- The numbers of a class that are the peer's to open. -/
def peerClass (role : Role) (bidirectional : Bool) (ids : Finset ℕ) : Finset ℕ :=
  ids.filter fun id => quicStreamIdFromClient id ≠ decide (role = .client) ∧
    quicStreamIdIsBidirectional id = bidirectional

/-- What every run keeps: the table is in order, it holds what has been in it, and this
endpoint's own numbers are below the counter of their class. -/
structure Numbered (held : Finset ℕ) (c : Connection) : Prop where
  orderly : c.streams.Orderly
  limits : c.peerLimits.Checked
  present : ∀ id ∈ c.streams.ids, id ∈ held
  ours : ∀ id ∈ held, peerOpens c id = false →
    quicStreamIdIndex id < c.streams.opened true (quicStreamIdIsBidirectional id)

/-- What the runs without a late frame keep: each counter of the peer's streams is how many
different numbers of its class have been in the table, and frames have named them all. -/
structure Counted (named held : Finset ℕ) (c : Connection) : Prop where
  named : ∀ id ∈ held, peerOpens c id = true → id ∈ named
  counted : ∀ bidirectional, c.streams.opened false bidirectional =
    (peerClass c.config.role bidirectional held).card

section Run

variable {env : Env} {c c' : Connection} {received : Option (Visit × Frame)}
  {named held : Finset ℕ}

lemma TableStep.peerOpens_eq (h : TableStep env c received c') (id : ℕ) :
    peerOpens c' id = peerOpens c id := by
  unfold peerOpens
  rw [h.role]

/-- What a step finds in the table afterwards has been there before, or the step opened it. -/
lemma Numbered.held_step (h : Numbered held c) (hstep : TableStep env c received c') :
    (held ∪ c'.streams.ids.toFinset = held ∧ c'.streams.opened = c.streams.opened) ∨
      ∃ streamId ours, streamId ∉ c.streams.ids ∧ streamId ∈ c'.streams.ids ∧
        held ∪ c'.streams.ids.toFinset = insert streamId held ∧
        (∀ ours' bidi, c'.streams.opened ours' bidi = c.streams.opened ours' bidi +
          if ours = ours' ∧ quicStreamIdIsBidirectional streamId = bidi then 1 else 0) ∧
        (ours = true → peerOpens c streamId = false ∧ quicStreamIdIndex streamId =
          c.streams.opened true (quicStreamIdIsBidirectional streamId)) ∧
        (ours = false → ∃ visit frame, received = some (visit, frame) ∧
          Opens visit frame c streamId) := by
  cases hstep.ends h.orderly h.limits with
  | fewer hids horderly hopened =>
    left
    refine ⟨Finset.union_eq_left.mpr ?_, hopened⟩
    intro id hid
    exact h.present id (hids (List.mem_toFinset.mp hid))
  | opened streamId ours hnew hmem hids horderly hopened hours htheirs =>
    right
    refine ⟨streamId, ours, hnew, hmem, ?_, hopened, hours, htheirs⟩
    ext id
    rw [Finset.mem_union, List.mem_toFinset, Finset.mem_insert]
    constructor
    · rintro (hid | hid)
      · exact .inr hid
      · exact (hids id hid).imp_right (h.present id)
    · rintro (rfl | hid)
      · exact .inr hmem
      · exact .inl hid

/-- A step keeps the numbers in order. -/
theorem Numbered.step (h : Numbered held c) (hstep : TableStep env c received c') :
    Numbered (held ∪ c'.streams.ids.toFinset) c' := by
  have horderly : c'.streams.Orderly := by
    cases hstep.ends h.orderly h.limits with
    | fewer hids horderly hopened => exact horderly h.orderly
    | opened streamId ours hnew hmem hids horderly hopened hours htheirs =>
      exact horderly h.orderly
  refine ⟨horderly, hstep.checked h.limits, ?_, ?_⟩
  · intro id hid
    exact Finset.mem_union_right _ (List.mem_toFinset.mpr hid)
  · intro id hid hpeer
    rw [hstep.peerOpens_eq] at hpeer
    rcases h.held_step hstep with ⟨heq, hopened⟩ |
      ⟨streamId, ours, -, -, heq, hopened, hours, htheirs⟩
    · rw [heq] at hid
      rw [hopened]
      exact h.ours id hid hpeer
    · rw [heq, Finset.mem_insert] at hid
      rw [hopened]
      rcases hid with rfl | hid
      · cases ours with
        | true => simp [(hours rfl).2]
        | false =>
          obtain ⟨visit, frame, -, hopens⟩ := htheirs rfl
          rw [hopens.peer] at hpeer
          cases hpeer
      · exact (h.ours id hid hpeer).trans_le (Nat.le_add_right _ _)

/-- What a step adds to the table is fresh exactly when the step's frame does not come late. -/
theorem Numbered.addsFresh_iff (h : Numbered held c) (hstep : TableStep env c received c') :
    AddsFresh held c c' ↔ NoLateFrame held c received := by
  constructor
  · intro hfresh visit frame streamId hreceived hopens
    subst hreceived
    cases hstep with
    | frame hdecode hvisit =>
      exact hfresh streamId (visitFrame_opens hopens hvisit) hopens.absent
  · intro hlate id hid habsent hheld
    cases hstep.ends h.orderly h.limits with
    | fewer hids horderly hopened => exact habsent (hids hid)
    | opened streamId ours hnew hmem hids horderly hopened hours htheirs =>
      rcases hids id hid with rfl | hid
      · cases ours with
        | true =>
          obtain ⟨hpeer, hindex⟩ := hours rfl
          exact absurd (h.ours id hheld hpeer) (by omega)
        | false =>
          obtain ⟨visit, frame, hreceived, hopens⟩ := htheirs rfl
          exact hlate visit frame id hreceived hopens hheld
      · exact habsent hid

/-- The class of a number of the peer that is put among others. -/
lemma card_peerClass_insert (role : Role) (bidirectional : Bool) {streamId : ℕ}
    (hpeer : quicStreamIdFromClient streamId ≠ decide (role = .client)) (hnew : streamId ∉ held) :
    (peerClass role bidirectional (insert streamId held)).card =
      (peerClass role bidirectional held).card +
        if quicStreamIdIsBidirectional streamId = bidirectional then 1 else 0 := by
  unfold peerClass
  rw [Finset.filter_insert]
  by_cases hclass : quicStreamIdIsBidirectional streamId = bidirectional
  · rw [if_pos ⟨hpeer, hclass⟩, if_pos hclass, Finset.card_insert_of_notMem]
    intro hmem
    exact hnew (Finset.mem_filter.mp hmem).1
  · rw [if_neg (fun h => hclass h.2), if_neg hclass, add_zero]

/-- A number of this endpoint's own is in no class of the peer. -/
lemma peerClass_insert_own (role : Role) (bidirectional : Bool) {streamId : ℕ}
    (hown : quicStreamIdFromClient streamId = decide (role = .client)) :
    peerClass role bidirectional (insert streamId held) = peerClass role bidirectional held := by
  unfold peerClass
  rw [Finset.filter_insert, if_neg (fun h => h.1 hown)]

/-- A step whose frame does not come late keeps the counters exact. -/
theorem Counted.step (hcounted : Counted named held c) (h : Numbered held c)
    (hstep : TableStep env c received c') (hlate : NoLateFrame held c received) :
    Counted (named ∪ namedBy received) (held ∪ c'.streams.ids.toFinset) c' := by
  rcases h.held_step hstep with ⟨heq, hopened⟩ |
    ⟨streamId, ours, -, -, heq, hopened, hours, htheirs⟩
  · rw [heq]
    refine ⟨?_, ?_⟩
    · intro id hid hpeer
      rw [hstep.peerOpens_eq] at hpeer
      exact Finset.mem_union_left _ (hcounted.named id hid hpeer)
    · intro bidirectional
      rw [hopened, hstep.role]
      exact hcounted.counted bidirectional
  rw [heq]
  cases ours with
  | true =>
    obtain ⟨hpeer, -⟩ := hours rfl
    refine ⟨?_, ?_⟩
    · intro id hid hid'
      rw [hstep.peerOpens_eq] at hid'
      rcases Finset.mem_insert.mp hid with rfl | hid
      · rw [hpeer] at hid'
        cases hid'
      · exact Finset.mem_union_left _ (hcounted.named id hid hid')
    · intro bidirectional
      rw [hopened, hstep.role, peerClass_insert_own _ _ (by simpa [peerOpens] using hpeer)]
      simpa using hcounted.counted bidirectional
  | false =>
    obtain ⟨visit, frame, rfl, hopens⟩ := htheirs rfl
    have hnew := hlate visit frame streamId rfl hopens
    refine ⟨?_, ?_⟩
    · intro id hid hpeer
      rw [hstep.peerOpens_eq] at hpeer
      rcases Finset.mem_insert.mp hid with rfl | hid
      · exact Finset.mem_union_right _ (by simp [namedBy, hopens.names])
      · exact Finset.mem_union_left _ (hcounted.named id hid hpeer)
    · intro bidirectional
      have hpeer : quicStreamIdFromClient streamId ≠ decide (c.config.role = .client) := by
        simpa [peerOpens] using hopens.peer
      rw [hopened, hstep.role, card_peerClass_insert _ _ hpeer hnew,
        hcounted.counted bidirectional]
      simp

/-- A new connection has no streams, and no limits of the peer yet. -/
lemma quicConnectionInit_streams {config : ConnectionConfig} (h : quicConnectionInit config = .ok c) :
    c.streams = {} ∧ c.peerLimits = {} := by
  unfold quicConnectionInit at h
  split at h
  · cases h
  split at h
  · cases h
  · cases h
    exact ⟨rfl, rfl⟩

lemma StreamTable.ids_empty : ({} : StreamTable).ids = [] := by decide

variable {Meets : Finset ℕ → Connection → Option (Visit × Frame) → Prop}

/-- Every run keeps the numbers in order. -/
theorem TableRun.numbered (h : TableRun env Meets named held c) : Numbered held c := by
  induction h with
  | init hinit =>
    obtain ⟨hstreams, hlimits⟩ := quicConnectionInit_streams hinit
    refine ⟨?_, ?_, ?_, ?_⟩
    · rw [hstreams]
      exact ⟨by decide, by decide⟩
    · rw [hlimits]
      exact ⟨by decide, by decide⟩
    · intro id hid
      rw [hstreams, StreamTable.ids_empty] at hid
      cases hid
    · intro id hid
      exact absurd hid (Finset.notMem_empty id)
  | step h hstep hmeets ih => exact ih.step hstep

/-- A run in which no frame comes late keeps the counters exact. -/
theorem TableRun.counted (h : TableRun env NoLateFrame named held c) : Counted named held c := by
  induction h with
  | init hinit =>
    obtain ⟨hstreams, -⟩ := quicConnectionInit_streams hinit
    refine ⟨?_, ?_⟩
    · intro id hid
      exact absurd hid (Finset.notMem_empty id)
    · intro bidirectional
      rw [hstreams]
      cases bidirectional <;> rfl
  | step h hstep hmeets ih => exact ih.step h.numbered hstep hmeets

/-- In a run in which no frame names a forgotten stream that the limits would let in again, the
numbers in the table are distinct and counted, the counters of the peer's streams are at most
how many numbers of their class frames have named, and a step puts only fresh numbers into the
table exactly when its own frame does not come late either. -/
theorem stream_numbers_used_once (h : TableRun env NoLateFrame named held c) :
    c.streams.ids.Nodup ∧ c.streams.count = c.streams.ids.length ∧
      (∀ bidirectional, c.streams.opened false bidirectional ≤
        (peerClass c.config.role bidirectional named).card) ∧
      ∀ received c', TableStep env c received c' →
        (AddsFresh held c c' ↔ NoLateFrame held c received) := by
  have hnumbered := h.numbered
  have hcounted := h.counted
  refine ⟨hnumbered.orderly.distinct, hnumbered.orderly.count, ?_, ?_⟩
  · intro bidirectional
    rw [hcounted.counted bidirectional]
    apply Finset.card_le_card
    intro id hid
    obtain ⟨hheld, hpeer, hclass⟩ := Finset.mem_filter.mp hid
    exact Finset.mem_filter.mpr
      ⟨hcounted.named id hheld (by simpa [peerOpens] using hpeer), hpeer, hclass⟩
  · intro received c' hstep
    exact hnumbered.addsFresh_iff hstep

end Run

/-! ## A stream that comes back -/

section Again

/-- The cancellation of the peer's first stream, before any byte of it. -/
def cancelFirst : Frame := .resetStream 0 7 0

/-- A server that lets its peer open two bidirectional streams. -/
def twoStreamServer : Connection :=
  (quicConnectionSetMaxStreams .bidirectional 2 keyedServer).1

/-- The connection after a frame. -/
def afterVisit (frame : Frame) (c : Connection) : Connection :=
  ((visitFrame steadyEnv 0 atStart frame c).map Prod.fst).getD c

/-- The peer's first stream, cancelled before it carried anything. -/
def cancelled : Connection := afterVisit cancelFirst twoStreamServer

/-- The layer above has seen the cancellation of a stream and cancels its own half. -/
def bothHalvesDone (streamId : ℕ) (c : Connection) : Connection :=
  match quicStreamTableFind c.streams streamId with
  | none => c
  | some stream =>
    match quicStreamOnResetSent (quicStreamOnResetRead stream).1 with
    | .error _ => c
    | .ok stream => { c with streams := c.streams.setStream stream }

/-- The stream is closed. -/
def forgotten : Connection :=
  { bothHalvesDone 0 cancelled with
    streams := (quicStreamTableClose (bothHalvesDone 0 cancelled).streams 0).1 }

/-- The cancellation is a frame the decoder yields. -/
lemma cancelFirst_decoded : quicFrameDecode [0x04, 0, 7, 0] = .ok (cancelFirst, []) := by decide

/-- Where the visitor returns, it returns the connection after the frame. -/
lemma visitFrame_afterVisit {frame : Frame} {c : Connection}
    (h : (visitFrame steadyEnv 0 atStart frame c).isSome = true) :
    ∃ reply, visitFrame steadyEnv 0 atStart frame c = some (afterVisit frame c, reply) := by
  obtain ⟨⟨c', reply⟩, hvisit⟩ := Option.isSome_iff_exists.mp h
  have hafter : afterVisit frame c = c' := by
    unfold afterVisit
    rw [hvisit]
    rfl
  rw [hafter]
  exact ⟨reply, hvisit⟩

/-- The cancellation can arrive wherever the visitor returns. -/
lemma cancelFirst_step {c : Connection}
    (h : (visitFrame steadyEnv 0 atStart cancelFirst c).isSome = true) :
    TableStep steadyEnv c (some (atStart, cancelFirst)) (afterVisit cancelFirst c) := by
  obtain ⟨reply, hvisit⟩ := visitFrame_afterVisit h
  exact .frame cancelFirst_decoded hvisit

/-- What the layer above does to a stream opens and forgets none. -/
lemma bothHalvesDone_step (streamId : ℕ) (c : Connection) :
    TableStep steadyEnv c none (bothHalvesDone streamId c) := by
  unfold bothHalvesDone
  split
  · exact .other (.refl _) rfl (fun h => h)
  split
  · exact .other (.refl _) rfl (fun h => h)
  · exact .other (.setStream _ _) rfl (fun h => h)

lemma twoStreamServer_run {Meets : Finset ℕ → Connection → Option (Visit × Frame) → Prop}
    (h : ∀ c, Meets ∅ c none) : TableRun steadyEnv Meets ∅ ∅ twoStreamServer := by
  obtain ⟨c, hinit⟩ : ∃ c, quicConnectionInit serverConfig = .ok c := ⟨_, rfl⟩
  obtain ⟨hstreams, hlimits⟩ := quicConnectionInit_streams hinit
  have hrole : c.config.role = .server := by
    cases hinit
    rfl
  have hstep : TableStep steadyEnv c none twoStreamServer := by
    refine .other ?_ ?_ ?_
    · rw [hstreams]
      exact .refl _
    · rw [hrole]
      rfl
    · rw [hlimits]
      exact fun h => h
  exact (TableRun.init hinit).step hstep (h c)

/-- A server whose peer cancels its first stream. -/
theorem cancelled_stream_numbered_once :
    ∃ named held, TableRun steadyEnv NoLateFrame named held cancelled ∧
      cancelled.streams.ids.Nodup ∧ 0 ∈ cancelled.streams.ids ∧
      cancelled.streams.opened false true ≤ (peerClass .server true named).card := by
  have hstart : TableRun steadyEnv NoLateFrame ∅ ∅ twoStreamServer :=
    twoStreamServer_run (fun _ _ _ _ h => by cases h)
  have hrun := hstart.step (cancelFirst_step (by decide))
    (fun _ _ streamId _ _ => Finset.notMem_empty streamId)
  obtain ⟨hnodup, -, hcounted, -⟩ := stream_numbers_used_once hrun
  exact ⟨_, _, hrun, hnodup, by decide, hcounted true⟩

/-- A cancellation that arrives again after its stream was closed opens the stream again: the
number is used a second time, and the counter of the peer's streams passes the one number the
peer has named. -/
theorem late_cancellation_reopens_stream :
    ∃ named held c c', TableRun steadyEnv (fun _ _ _ => True) named held c ∧
      (quicStreamTableClose (bothHalvesDone 0 cancelled).streams 0).2 = .ok ∧
      TableStep steadyEnv c (some (atStart, cancelFirst)) c' ∧ ¬AddsFresh held c c' ∧
      (peerClass c'.config.role true (named ∪ namedBy (some (atStart, cancelFirst)))).card <
        c'.streams.opened false true := by
  have hstart : TableRun steadyEnv (fun _ _ _ => True) ∅ ∅ twoStreamServer :=
    twoStreamServer_run (fun _ => trivial)
  have hcancelled := hstart.step (cancelFirst_step (by decide)) trivial
  have hdone := hcancelled.step (bothHalvesDone_step 0 cancelled) trivial
  have hclosed := hdone.step (.close 0) trivial
  refine ⟨_, _, forgotten, _, hclosed, by decide, cancelFirst_step (by decide), ?_, by decide⟩
  intro hfresh
  exact hfresh 0 (by decide) (by decide) (by decide)

end Again

end WebTransport
