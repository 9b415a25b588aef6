import Mathlib.Data.List.ReduceOption
import WebTransport.Http3.QpackFieldSection

/-!
# The encoder's bookkeeping

An encoder remembers which sections are still to be acknowledged, and from that which entries it may
evict (`http3/qpack_encoder_state.c`). The bound it answers is the smallest count of an outstanding
section, below which lie the very entries the section may reference.
-/

namespace WebTransport

/-- The most sections that are remembered (`WT_QPACK_MAX_OUTSTANDING_SECTIONS`). -/
def qpackMaxOutstandingSections : ℕ := 16

/-- A section that is outstanding (`wt_qpack_outstanding_section_t`). -/
structure OutstandingSection where
  streamId : ℕ
  requiredInsertCount : ℕ
deriving DecidableEq, Repr

/-- The state of an encoder (`wt_qpack_encoder_state_t`); a slot that is not in use is empty. -/
structure EncoderState where
  table : DynamicTable
  knownReceivedCount : ℕ
  outstanding : List (Option OutstandingSection)

def qpackEncoderStateInit (table : DynamicTable) : EncoderState :=
  ⟨table, 0, List.replicate qpackMaxOutstandingSections none⟩

/-! ## Slots -/

/-- The record of a stream. -/
def findSection (streamId : ℕ) : List (Option OutstandingSection) → Option OutstandingSection
  | [] => none
  | none :: slots => findSection streamId slots
  | some held :: slots =>
    if held.streamId = streamId then some held else findSection streamId slots

/-- Empty the slot that holds the record of a stream. -/
def forgetSection (streamId : ℕ) :
    List (Option OutstandingSection) → List (Option OutstandingSection)
  | [] => []
  | none :: slots => none :: forgetSection streamId slots
  | some held :: slots =>
    if held.streamId = streamId then none :: slots else some held :: forgetSection streamId slots

/-- Fill the first slot that is not in use. -/
def placeSection (added : OutstandingSection) :
    List (Option OutstandingSection) → Option (List (Option OutstandingSection))
  | [] => none
  | none :: slots => some (some added :: slots)
  | some held :: slots => (placeSection added slots).map (some held :: ·)

/-! ## The calls -/

/-- Begin a section: the prefix it is written with. A section that references nothing is not
recorded. -/
def qpackEncoderStateBeginSection (e : EncoderState) (streamId : ℕ) (referencesDynamic : Bool) :
    EncoderState × Except Status HeaderPrefix :=
  if !referencesDynamic then (e, .ok ⟨0, 0⟩)
  else
    -- A second section on a stream replaces the first.
    let slots := forgetSection streamId e.outstanding
    match placeSection ⟨streamId, e.table.insertCount⟩ slots with
    | none => ({ e with outstanding := slots }, .error .limit)
    | some outstanding =>
      ({ e with outstanding }, .ok ⟨e.table.insertCount, e.table.insertCount⟩)

def qpackEncoderStateSectionAcknowledged (e : EncoderState) (streamId : ℕ) :
    EncoderState × Status :=
  match findSection streamId e.outstanding with
  | none => (e, .closed)
  | some _ => ({ e with outstanding := forgetSection streamId e.outstanding }, .ok)

def qpackEncoderStateStreamCancelled (e : EncoderState) (streamId : ℕ) : EncoderState × Status :=
  match findSection streamId e.outstanding with
  | none => (e, .ok)
  | some _ => ({ e with outstanding := forgetSection streamId e.outstanding }, .ok)

def qpackEncoderStateOnInsertCountIncrement (e : EncoderState) (increment : ℕ) :
    EncoderState × Status × QpackError :=
  if increment = 0 then (e, .protocol, .decoderStream)
  else if e.knownReceivedCount > 2 ^ 64 - 1 - increment then (e, .protocol, .decoderStream)
  else if e.knownReceivedCount + increment > e.table.insertCount then
    (e, .protocol, .decoderStream)
  else ({ e with knownReceivedCount := e.knownReceivedCount + increment }, .ok, .none)

/-- Below which index entries may be evicted. -/
def qpackEncoderStateEvictableBelow (e : EncoderState) : ℕ :=
  e.outstanding.foldl
    (fun below slot =>
      match slot with
      | none => below
      | some held =>
        if held.requiredInsertCount < below then held.requiredInsertCount else below)
    e.table.insertCount

/-! ## Runs -/

/-- What happens to an encoder. -/
inductive BookkeepingCall
  | beginSection (streamId : ℕ) (referencesDynamic : Bool)
  | sectionAcknowledged (streamId : ℕ)
  | streamCancelled (streamId : ℕ)
  | onInsertCountIncrement (increment : ℕ)
  | insert (entry : DynamicEntry)

/-- The encoder after a call. -/
def bookkeepingCall (e : EncoderState) : BookkeepingCall → EncoderState
  | .beginSection streamId referencesDynamic =>
    (qpackEncoderStateBeginSection e streamId referencesDynamic).1
  | .sectionAcknowledged streamId => (qpackEncoderStateSectionAcknowledged e streamId).1
  | .streamCancelled streamId => (qpackEncoderStateStreamCancelled e streamId).1
  | .onInsertCountIncrement increment => (qpackEncoderStateOnInsertCountIncrement e increment).1
  | .insert entry => { e with table := (qpackDynamicInsert e.table entry).1 }

/-- The sections that were sent and are neither acknowledged nor cancelled, the oldest first. An
acknowledgement is for the oldest section of its stream. -/
def sentAfter (e : EncoderState) (sent : List OutstandingSection) :
    BookkeepingCall → List OutstandingSection
  | .beginSection streamId referencesDynamic =>
    match (qpackEncoderStateBeginSection e streamId referencesDynamic).2 with
    | .error _ => sent
    | .ok written =>
      if referencesDynamic then sent ++ [⟨streamId, written.requiredInsertCount⟩] else sent
  | .sectionAcknowledged streamId => sent.eraseP (·.streamId = streamId)
  | .streamCancelled streamId => sent.filter (·.streamId ≠ streamId)
  | .onInsertCountIncrement _ => sent
  | .insert _ => sent

/-- One call, and the sections after it. -/
def bookkeepingStep (p : EncoderState × List OutstandingSection) (call : BookkeepingCall) :
    EncoderState × List OutstandingSection :=
  (bookkeepingCall p.1 call, sentAfter p.1 p.2 call)

/-- An encoder and the sections that are outstanding, after some calls. -/
def bookkeepingRun (table : DynamicTable) (calls : List BookkeepingCall) :
    EncoderState × List OutstandingSection :=
  calls.foldl bookkeepingStep (qpackEncoderStateInit table, [])

/-- No entry that an outstanding section may reference is reported evictable. -/
def NothingInUseEvictable (p : EncoderState × List OutstandingSection) : Prop :=
  ∀ sec ∈ p.2, ∀ index < sec.requiredInsertCount, qpackEncoderStateEvictableBelow p.1 ≤ index

/-- The records of a stream are its outstanding sections. -/
def RecordsAre (streamId : ℕ) (p : EncoderState × List OutstandingSection) : Prop :=
  ∀ sec : OutstandingSection, sec.streamId = streamId → (some sec ∈ p.1.outstanding ↔ sec ∈ p.2)

/-- The bookkeeping over a run: nothing in use is ever reported evictable, and an acknowledgement
releases the oldest section of its stream and no other. -/
structure BookkeepingHolds (table : DynamicTable) (calls : List BookkeepingCall) : Prop where
  unevictable : ∀ {before : List BookkeepingCall}, before <+: calls →
    NothingInUseEvictable (bookkeepingRun table before)
  released : ∀ {before : List BookkeepingCall} {streamId : ℕ},
    before ++ [.sectionAcknowledged streamId] <+: calls →
      RecordsAre streamId (bookkeepingRun table (before ++ [.sectionAcknowledged streamId]))

/-- A section recorded for another stream was begun before anything was inserted. -/
def ZeroElsewhere (e : EncoderState) (streamId : ℕ) : Prop :=
  ∃ sec, some sec ∈ e.outstanding ∧ sec.streamId ≠ streamId ∧ sec.requiredInsertCount = 0

/-- The sections of the other streams reference nothing, or one of their records counts nothing. -/
def OthersCovered (p : EncoderState × List OutstandingSection) (streamId : ℕ) : Prop :=
  ZeroElsewhere p.1 streamId ∨
    ∀ sec ∈ p.2, sec.streamId ≠ streamId → sec.requiredInsertCount = 0

/-- Every slot is in use, and none for this stream. -/
def NoSlotFor (e : EncoderState) (streamId : ℕ) : Prop :=
  ∀ slot ∈ e.outstanding, ∃ sec : OutstandingSection, slot = some sec ∧ sec.streamId ≠ streamId

/-- The calls that do no harm. -/
def RegularStep (p : EncoderState × List OutstandingSection) : BookkeepingCall → Prop
  | .beginSection streamId referencesDynamic =>
    referencesDynamic = true →
      p.1.table.insertCount = 0 ∨ NoSlotFor p.1 streamId ∨ ZeroElsewhere p.1 streamId
  | .sectionAcknowledged streamId =>
    (p.2.filter (·.streamId = streamId)).length ≤ 1 ∧ OthersCovered p streamId
  | .streamCancelled streamId => OthersCovered p streamId
  | .onInsertCountIncrement _ => True
  | .insert _ => True

/-- Every call of the run does no harm where it is made. -/
def RegularSteps (table : DynamicTable) (calls : List BookkeepingCall) : Prop :=
  ∀ before call after, calls = before ++ call :: after →
    RegularStep (bookkeepingRun table before) call

/-! ## What the slots hold -/

section Slots

variable {streamId : ℕ} {sec added : OutstandingSection}
  {slots slots' : List (Option OutstandingSection)}

/-- No stream has two records. -/
def OneEach (slots : List (Option OutstandingSection)) : Prop :=
  (slots.reduceOption.map OutstandingSection.streamId).Nodup

lemma oneEach_cons {held : OutstandingSection} : OneEach (some held :: slots) ↔
    (∀ other, some other ∈ slots → other.streamId ≠ held.streamId) ∧ OneEach slots := by
  unfold OneEach
  rw [List.reduceOption_cons_of_some, List.map_cons, List.nodup_cons]
  simp [List.reduceOption_mem_iff]

lemma oneEach_none : OneEach (none :: slots) ↔ OneEach slots := by
  unfold OneEach
  rw [List.reduceOption_cons_of_none]

lemma findSection_none (h : findSection streamId slots = none) (hsec : some sec ∈ slots) :
    sec.streamId ≠ streamId := by
  induction slots with
  | nil => cases hsec
  | cons slot slots ih =>
    cases slot with
    | none =>
      rw [findSection] at h
      exact ih h (by simpa using hsec)
    | some held =>
      rw [findSection] at h
      split_ifs at h with hheld
      rcases List.mem_cons.mp hsec with heq | hmem
      · cases heq
        exact hheld
      · exact ih h hmem

lemma forgetSection_none (h : findSection streamId slots = none) :
    forgetSection streamId slots = slots := by
  induction slots with
  | nil => rfl
  | cons slot slots ih =>
    cases slot with
    | none =>
      rw [findSection] at h
      rw [forgetSection, ih h]
    | some held =>
      rw [findSection] at h
      split_ifs at h with hheld
      rw [forgetSection, if_neg hheld, ih h]

lemma mem_forgetSection (hone : OneEach slots) :
    some sec ∈ forgetSection streamId slots ↔ some sec ∈ slots ∧ sec.streamId ≠ streamId := by
  induction slots with
  | nil => simp [forgetSection]
  | cons slot slots ih =>
    cases slot with
    | none =>
      rw [forgetSection, List.mem_cons, List.mem_cons, ih (oneEach_none.mp hone)]
      simp
    | some held =>
      obtain ⟨hothers, hrest⟩ := oneEach_cons.mp hone
      rw [forgetSection]
      by_cases hheld : held.streamId = streamId
      · -- The others are not of this stream.
        rw [if_pos hheld, List.mem_cons, List.mem_cons]
        constructor
        · rintro (heq | hmem)
          · cases heq
          · exact ⟨.inr hmem, hheld ▸ hothers sec hmem⟩
        · rintro ⟨heq | hmem, hne⟩
          · cases heq
            exact absurd hheld hne
          · exact .inr hmem
      · rw [if_neg hheld, List.mem_cons, List.mem_cons, ih hrest]
        constructor
        · rintro (heq | ⟨hmem, hne⟩)
          · cases heq
            exact ⟨.inl rfl, hheld⟩
          · exact ⟨.inr hmem, hne⟩
        · rintro ⟨heq | hmem, hne⟩
          · exact .inl heq
          · exact .inr ⟨hmem, hne⟩

lemma OneEach.forget (hone : OneEach slots) : OneEach (forgetSection streamId slots) := by
  induction slots with
  | nil => exact hone
  | cons slot slots ih =>
    cases slot with
    | none =>
      rw [forgetSection]
      exact oneEach_none.mpr (ih (oneEach_none.mp hone))
    | some held =>
      obtain ⟨hothers, hrest⟩ := oneEach_cons.mp hone
      rw [forgetSection]
      split_ifs
      · exact oneEach_none.mpr hrest
      · refine oneEach_cons.mpr ⟨fun other hother => ?_, ih hrest⟩
        exact hothers other ((mem_forgetSection hrest).mp hother).1

lemma mem_placeSection (h : placeSection added slots = some slots') :
    some sec ∈ slots' ↔ sec = added ∨ some sec ∈ slots := by
  induction slots generalizing slots' with
  | nil => cases h
  | cons slot slots ih =>
    cases slot with
    | none =>
      cases h
      simp
    | some held =>
      rw [placeSection] at h
      obtain ⟨rest, hrest, rfl⟩ := Option.map_eq_some_iff.mp h
      rw [List.mem_cons, List.mem_cons, ih hrest]
      tauto

lemma OneEach.place (hone : OneEach slots) (h : placeSection added slots = some slots')
    (hnew : ∀ other, some other ∈ slots → other.streamId ≠ added.streamId) : OneEach slots' := by
  induction slots generalizing slots' with
  | nil => cases h
  | cons slot slots ih =>
    cases slot with
    | none =>
      cases h
      refine oneEach_cons.mpr ⟨fun other hother => ?_, oneEach_none.mp hone⟩
      exact hnew other (List.mem_cons_of_mem _ hother)
    | some held =>
      rw [placeSection] at h
      obtain ⟨rest, hrest, rfl⟩ := Option.map_eq_some_iff.mp h
      obtain ⟨hothers, htail⟩ := oneEach_cons.mp hone
      refine oneEach_cons.mpr ⟨fun other hother => ?_, ih htail hrest fun other hother =>
        hnew other (List.mem_cons_of_mem _ hother)⟩
      rcases (mem_placeSection hrest).mp hother with rfl | hmem
      · exact (hnew held List.mem_cons_self).symm
      · exact hothers other hmem

/-- A stream finds no slot where every one holds a section of another. -/
lemma noSlot_of_full (h : none ∉ forgetSection streamId slots) :
    (∀ slot ∈ slots, ∃ sec : OutstandingSection, slot = some sec ∧ sec.streamId ≠ streamId) ∧
      findSection streamId slots = none := by
  induction slots with
  | nil => exact ⟨nofun, rfl⟩
  | cons slot slots ih =>
    cases slot with
    | none => exact absurd List.mem_cons_self h
    | some held =>
      rw [forgetSection] at h
      split_ifs at h with hheld
      · exact absurd List.mem_cons_self h
      · obtain ⟨hall, hfind⟩ := ih fun hmem => h (List.mem_cons_of_mem _ hmem)
        refine ⟨List.forall_mem_cons.mpr ⟨⟨held, rfl, hheld⟩, hall⟩, ?_⟩
        rw [findSection, if_neg hheld, hfind]

lemma noSlot_not_mem
    (h : ∀ slot ∈ slots, ∃ sec : OutstandingSection, slot = some sec ∧ sec.streamId ≠ streamId) :
    none ∉ forgetSection streamId slots := by
  induction slots with
  | nil => exact List.not_mem_nil
  | cons slot slots ih =>
    obtain ⟨⟨held, rfl, hheld⟩, hrest⟩ := List.forall_mem_cons.mp h
    rw [forgetSection, if_neg hheld, List.mem_cons, not_or]
    exact ⟨nofun, ih hrest⟩

lemma placeSection_none : placeSection added slots = none ↔ none ∉ slots := by
  induction slots with
  | nil => simp [placeSection]
  | cons slot slots ih =>
    cases slot with
    | none => simp [placeSection]
    | some held => simp [placeSection, ih]

lemma foldl_below_le {below index : ℕ} :
    slots.foldl
      (fun below slot =>
        match slot with
        | none => below
        | some held =>
          if held.requiredInsertCount < below then held.requiredInsertCount else below)
      below ≤ index ↔
      below ≤ index ∨ ∃ sec, some sec ∈ slots ∧ sec.requiredInsertCount ≤ index := by
  induction slots generalizing below with
  | nil => simp
  | cons slot slots ih =>
    rw [List.foldl_cons, ih]
    cases slot with
    | none => simp
    | some held =>
      have hmin : (if held.requiredInsertCount < below then held.requiredInsertCount else below) ≤
          index ↔ below ≤ index ∨ held.requiredInsertCount ≤ index := by
        split_ifs with hless <;> omega
      dsimp only
      rw [hmin]
      simp [or_assoc]

end Slots

/-! ## What the records say of the sections sent -/

section Records

variable {table : DynamicTable} {p : EncoderState × List OutstandingSection} {streamId : ℕ}
  {calls before : List BookkeepingCall} {call : BookkeepingCall}

/-- The record of a stream is its last section. -/
structure RecordsLast (p : EncoderState × List OutstandingSection) : Prop where
  oneEach : OneEach p.1.outstanding
  last : ∀ sec : OutstandingSection, some sec ∈ p.1.outstanding ↔
    (p.2.filter (·.streamId = sec.streamId)).getLast? = some sec
  counted : ∀ sec ∈ p.2, sec.requiredInsertCount ≤ p.1.table.insertCount

/-- Nothing in use is reported evictable only where nothing is in use, or where the bound is held at
zero by a record that counts nothing. -/
lemma nothingInUseEvictable_iff (h : RecordsLast p) : NothingInUseEvictable p ↔
    (∃ sec, some sec ∈ p.1.outstanding ∧ sec.requiredInsertCount = 0) ∨
      ∀ sec ∈ p.2, sec.requiredInsertCount = 0 := by
  unfold NothingInUseEvictable qpackEncoderStateEvictableBelow
  constructor
  · intro hsafe
    by_contra hno
    rw [not_or] at hno
    obtain ⟨hrecords, hsent⟩ := hno
    obtain ⟨sec, hsec, hcount⟩ : ∃ sec ∈ p.2, sec.requiredInsertCount ≠ 0 := by
      simpa using hsent
    rcases foldl_below_le.mp (hsafe sec hsec 0 (Nat.pos_of_ne_zero hcount)) with
      hnone | ⟨held, hheld, hzero⟩
    · have hcounted := h.counted sec hsec
      omega
    · exact hrecords ⟨held, hheld, Nat.le_zero.mp hzero⟩
  · rintro (⟨held, hheld, hzero⟩ | hzero) sec hsec index hindex
    · exact foldl_below_le.mpr (.inr ⟨held, hheld, by omega⟩)
    · rw [hzero sec hsec] at hindex
      exact absurd hindex (Nat.not_lt_zero _)

/-- The records and the sections of a stream are gone. -/
def dropStream (streamId : ℕ) (p : EncoderState × List OutstandingSection) :
    EncoderState × List OutstandingSection :=
  ({ p.1 with outstanding := forgetSection streamId p.1.outstanding },
    p.2.filter (·.streamId ≠ streamId))

lemma RecordsLast.drop (h : RecordsLast p) (streamId : ℕ) : RecordsLast (dropStream streamId p) := by
  refine ⟨h.oneEach.forget, fun sec => ?_,
    fun sec hsec => h.counted sec (List.mem_of_mem_filter hsec)⟩
  rw [dropStream, mem_forgetSection h.oneEach, h.last, List.filter_filter]
  by_cases hstream : sec.streamId = streamId
  · have hnone : p.2.filter (fun sec' => decide (sec'.streamId = sec.streamId) &&
        decide (sec'.streamId ≠ streamId)) = [] := by
      rw [List.filter_eq_nil_iff]
      intro sec' _
      simp only [Bool.and_eq_true, decide_eq_true_eq, not_and, not_not]
      exact fun heq => heq.trans hstream
    rw [hnone]
    exact ⟨fun hboth => absurd hstream hboth.2, nofun⟩
  · rw [and_iff_left hstream]
    have hsame : (fun sec' : OutstandingSection => decide (sec'.streamId = sec.streamId) &&
        decide (sec'.streamId ≠ streamId)) = fun sec' => decide (sec'.streamId = sec.streamId) := by
      funext sec'
      by_cases heq : sec'.streamId = sec.streamId
      · simp [heq, hstream]
      · simp [heq]
    rw [hsame]

lemma dropStream_evictable (h : RecordsLast p) :
    NothingInUseEvictable (dropStream streamId p) ↔ OthersCovered p streamId := by
  rw [nothingInUseEvictable_iff (h.drop streamId)]
  unfold OthersCovered ZeroElsewhere dropStream
  simp only [mem_forgetSection h.oneEach, List.mem_filter, and_assoc, decide_eq_true_eq, and_imp]

/-- Erasing the only one of a kind leaves the others. -/
lemma eraseP_eq_filter {α : Type} {q : α → Bool} {l : List α} (h : (l.filter q).length ≤ 1) :
    l.eraseP q = l.filter fun a => !q a := by
  induction l with
  | nil => rfl
  | cons a l ih =>
    cases hq : q a with
    | false =>
      rw [List.filter_cons_of_neg (by simp [hq])] at h
      rw [List.eraseP_cons_of_neg (by simp [hq]), List.filter_cons_of_pos (by simp [hq]), ih h]
    | true =>
      rw [List.filter_cons_of_pos hq, List.length_cons] at h
      have hnil : l.filter q = [] := List.eq_nil_of_length_eq_zero (by omega)
      rw [List.eraseP_cons_of_pos hq, List.filter_cons_of_neg (by simp [hq]), eq_comm,
        List.filter_eq_self]
      intro b hb
      have hno := List.filter_eq_nil_iff.mp hnil b hb
      simpa using hno

/-- Of two of a kind one is left. -/
lemma exists_mem_eraseP {α : Type} {q : α → Bool} {l : List α} (h : 1 < (l.filter q).length) :
    ∃ a ∈ l.eraseP q, q a = true := by
  induction l with
  | nil => simp at h
  | cons a l ih =>
    cases hq : q a with
    | false =>
      rw [List.filter_cons_of_neg (by simp [hq])] at h
      obtain ⟨b, hb, hqb⟩ := ih h
      rw [List.eraseP_cons_of_neg (by simp [hq])]
      exact ⟨b, List.mem_cons_of_mem a hb, hqb⟩
    | true =>
      rw [List.filter_cons_of_pos hq, List.length_cons] at h
      obtain ⟨b, hb⟩ := List.exists_mem_of_length_pos (l := l.filter q) (by omega)
      rw [List.eraseP_cons_of_pos hq]
      exact ⟨b, List.mem_filter.mp hb⟩

lemma step_acknowledged (hone : (p.2.filter (·.streamId = streamId)).length ≤ 1) :
    bookkeepingStep p (.sectionAcknowledged streamId) = dropStream streamId p := by
  have hsent : sentAfter p.1 p.2 (.sectionAcknowledged streamId) =
      p.2.filter (·.streamId ≠ streamId) := by
    rw [sentAfter, eraseP_eq_filter hone]
    simp
  rw [bookkeepingStep, hsent, bookkeepingCall, qpackEncoderStateSectionAcknowledged, dropStream]
  cases hfind : findSection streamId p.1.outstanding with
  | none => rw [forgetSection_none hfind]
  | some held => rfl

lemma step_cancelled (p : EncoderState × List OutstandingSection) (streamId : ℕ) :
    bookkeepingStep p (.streamCancelled streamId) = dropStream streamId p := by
  rw [bookkeepingStep, sentAfter, bookkeepingCall, qpackEncoderStateStreamCancelled, dropStream]
  cases hfind : findSection streamId p.1.outstanding with
  | none => rw [forgetSection_none hfind]
  | some held => rfl

/-- An acknowledgement releases the oldest section exactly when it is the only one. -/
lemma acknowledged_released (h : RecordsLast p) :
    RecordsAre streamId (bookkeepingStep p (.sectionAcknowledged streamId)) ↔
      (p.2.filter (·.streamId = streamId)).length ≤ 1 := by
  constructor
  · intro hrecords
    by_contra hmany
    obtain ⟨sec, hsec, hstream⟩ := exists_mem_eraseP (not_le.mp hmany)
    have hstream' : sec.streamId = streamId := by simpa using hstream
    have hrecord := (hrecords sec hstream').mpr hsec
    rw [bookkeepingStep, bookkeepingCall, qpackEncoderStateSectionAcknowledged] at hrecord
    cases hfind : findSection streamId p.1.outstanding with
    | none =>
      rw [hfind] at hrecord
      exact findSection_none hfind hrecord hstream'
    | some held =>
      rw [hfind] at hrecord
      exact ((mem_forgetSection h.oneEach).mp hrecord).2 hstream'
  · intro hone sec hstream
    rw [step_acknowledged hone, dropStream, mem_forgetSection h.oneEach, List.mem_filter]
    simp [hstream]

/-- A section finds no slot, or it is recorded with the count of the table. -/
lemma step_begin_cases (p : EncoderState × List OutstandingSection) (streamId : ℕ) :
    (NoSlotFor p.1 streamId ∧ bookkeepingStep p (.beginSection streamId true) = p) ∨
      ¬NoSlotFor p.1 streamId ∧ ∃ outstanding,
        placeSection ⟨streamId, p.1.table.insertCount⟩ (forgetSection streamId p.1.outstanding) =
          some outstanding ∧
        bookkeepingStep p (.beginSection streamId true) =
          ({ p.1 with outstanding }, p.2 ++ [⟨streamId, p.1.table.insertCount⟩]) := by
  cases hplace : placeSection ⟨streamId, p.1.table.insertCount⟩
      (forgetSection streamId p.1.outstanding) with
  | none =>
    have hfull : NoSlotFor p.1 streamId ∧ findSection streamId p.1.outstanding = none :=
      noSlot_of_full (placeSection_none.mp hplace)
    refine .inl ⟨hfull.1, ?_⟩
    rw [forgetSection_none hfull.2] at hplace
    rw [bookkeepingStep, bookkeepingCall, sentAfter, qpackEncoderStateBeginSection,
      if_neg (by decide)]
    simp only [hplace, forgetSection_none hfull.2]
  | some outstanding =>
    refine .inr ⟨fun hfull => ?_, outstanding, rfl, ?_⟩
    · rw [placeSection_none.mpr (noSlot_not_mem hfull)] at hplace
      cases hplace
    · rw [bookkeepingStep, bookkeepingCall, sentAfter, qpackEncoderStateBeginSection,
        if_neg (by decide)]
      simp only [hplace, if_true]

lemma RecordsLast.begin (h : RecordsLast p) {outstanding : List (Option OutstandingSection)}
    (hplace : placeSection ⟨streamId, p.1.table.insertCount⟩
      (forgetSection streamId p.1.outstanding) = some outstanding) :
    RecordsLast ({ p.1 with outstanding }, p.2 ++ [⟨streamId, p.1.table.insertCount⟩]) := by
  have hnew : ∀ other, some other ∈ forgetSection streamId p.1.outstanding →
      other.streamId ≠ streamId := fun other hother => ((mem_forgetSection h.oneEach).mp hother).2
  refine ⟨h.oneEach.forget.place hplace hnew, fun sec => ?_, fun sec hsec => ?_⟩
  · rw [mem_placeSection hplace, mem_forgetSection h.oneEach, h.last, List.filter_append]
    by_cases hstream : sec.streamId = streamId
    · rw [List.filter_cons_of_pos (by simp [hstream]), List.filter_nil,
        List.getLast?_append, List.getLast?_singleton]
      simp [hstream, eq_comm]
    · rw [List.filter_cons_of_neg (by simpa using Ne.symm hstream), List.filter_nil,
        List.append_nil, and_iff_left hstream, or_iff_right]
      rintro rfl
      exact hstream rfl
  · rcases List.mem_append.mp hsec with hold | hadded
    · exact h.counted sec hold
    · obtain rfl := List.mem_singleton.mp hadded
      exact le_rfl

/-- A section that was begun after insertions is covered by a record of another stream that counts
nothing, or not at all. -/
lemma begin_evictable (h : RecordsLast p) {outstanding : List (Option OutstandingSection)}
    (hplace : placeSection ⟨streamId, p.1.table.insertCount⟩
      (forgetSection streamId p.1.outstanding) = some outstanding) :
    NothingInUseEvictable
        ({ p.1 with outstanding }, p.2 ++ [⟨streamId, p.1.table.insertCount⟩]) ↔
      p.1.table.insertCount = 0 ∨ ZeroElsewhere p.1 streamId := by
  rw [nothingInUseEvictable_iff (h.begin hplace)]
  constructor
  · rintro (⟨sec, hsec, hzero⟩ | hzero)
    · rcases (mem_placeSection hplace).mp hsec with rfl | hold
      · exact .inl hzero
      · obtain ⟨hmem, hne⟩ := (mem_forgetSection h.oneEach).mp hold
        exact .inr ⟨sec, hmem, hne, hzero⟩
    · exact .inl (hzero ⟨streamId, p.1.table.insertCount⟩
        (List.mem_append_right _ (List.mem_singleton_self _)))
  · rintro (hzero | ⟨sec, hsec, hne, hzero⟩)
    · exact .inl ⟨_, (mem_placeSection hplace).mpr (.inl rfl), hzero⟩
    · exact .inl ⟨sec, (mem_placeSection hplace).mpr
        (.inr ((mem_forgetSection h.oneEach).mpr ⟨hsec, hne⟩)), hzero⟩

lemma step_increment (p : EncoderState × List OutstandingSection) (increment : ℕ) :
    ∃ known, bookkeepingStep p (.onInsertCountIncrement increment) =
      ({ p.1 with knownReceivedCount := known }, p.2) := by
  rw [bookkeepingStep, bookkeepingCall, sentAfter, qpackEncoderStateOnInsertCountIncrement]
  split_ifs
  · exact ⟨_, rfl⟩
  · exact ⟨_, rfl⟩
  · exact ⟨_, rfl⟩
  · exact ⟨_, rfl⟩

/-- An insertion only makes the count of the table larger. -/
lemma RecordsLast.insert (h : RecordsLast p) (entry : DynamicEntry) :
    RecordsLast (bookkeepingStep p (.insert entry)) := by
  refine ⟨h.oneEach, h.last, fun sec hsec => (h.counted sec hsec).trans ?_⟩
  change p.1.table.insertCount ≤ (qpackDynamicInsert p.1.table entry).1.insertCount
  obtain ⟨-, ⟨-, hcount⟩ | ⟨-, hcount⟩⟩ := qpackDynamicInsert_spec p.1.table entry
  · omega
  · omega

/-! ## The whole bookkeeping -/

/-- What a call must not do: report something in use evictable, or release another section. -/
def StepHolds (p : EncoderState × List OutstandingSection) (call : BookkeepingCall) : Prop :=
  NothingInUseEvictable (bookkeepingStep p call) ∧
    ∀ streamId, call = .sectionAcknowledged streamId →
      RecordsAre streamId (bookkeepingStep p call)

/-- A call does no harm exactly when it is regular. -/
lemma stepHolds_iff (h : RecordsLast p) (hsafe : NothingInUseEvictable p) :
    StepHolds p call ↔ RegularStep p call := by
  cases call with
  | beginSection streamId referencesDynamic =>
    rw [StepHolds, and_iff_left nofun]
    cases referencesDynamic with
    | false => exact ⟨fun _ => nofun, fun _ => hsafe⟩
    | true =>
      rw [RegularStep, forall_prop_of_true rfl]
      rcases step_begin_cases p streamId with ⟨hfull, hstep⟩ | ⟨hroom, outstanding, hplace, hstep⟩
      · rw [hstep]
        exact ⟨fun _ => .inr (.inl hfull), fun _ => hsafe⟩
      · rw [hstep, begin_evictable h hplace, or_iff_right hroom]
  | sectionAcknowledged streamId =>
    have hreleased : (∀ streamId', BookkeepingCall.sectionAcknowledged streamId =
        .sectionAcknowledged streamId' →
          RecordsAre streamId' (bookkeepingStep p (.sectionAcknowledged streamId))) ↔
        (p.2.filter (·.streamId = streamId)).length ≤ 1 := by
      rw [← acknowledged_released h]
      constructor
      · exact fun hall => hall streamId rfl
      · rintro hone streamId' heq
        cases heq
        exact hone
    rw [StepHolds, hreleased, RegularStep, and_comm]
    apply and_congr_right
    intro hone
    rw [step_acknowledged hone, dropStream_evictable h]
  | streamCancelled streamId =>
    rw [StepHolds, and_iff_left nofun, step_cancelled, dropStream_evictable h]
    rfl
  | onInsertCountIncrement increment =>
    obtain ⟨known, hstep⟩ := step_increment p increment
    rw [StepHolds, and_iff_left nofun, hstep]
    exact ⟨fun _ => trivial, fun _ => hsafe⟩
  | insert entry =>
    rw [StepHolds, and_iff_left nofun, nothingInUseEvictable_iff (h.insert entry)]
    exact ⟨fun _ => trivial, fun _ => (nothingInUseEvictable_iff h).mp hsafe⟩

lemma RecordsLast.step (h : RecordsLast p) (hregular : RegularStep p call) :
    RecordsLast (bookkeepingStep p call) := by
  cases call with
  | beginSection streamId referencesDynamic =>
    cases referencesDynamic with
    | false => exact h
    | true =>
      rcases step_begin_cases p streamId with ⟨-, hstep⟩ | ⟨-, outstanding, hplace, hstep⟩
      · rw [hstep]
        exact h
      · rw [hstep]
        exact h.begin hplace
  | sectionAcknowledged streamId =>
    rw [step_acknowledged hregular.1]
    exact h.drop streamId
  | streamCancelled streamId =>
    rw [step_cancelled]
    exact h.drop streamId
  | onInsertCountIncrement increment =>
    obtain ⟨known, hstep⟩ := step_increment p increment
    rw [hstep]
    exact ⟨h.oneEach, h.last, h.counted⟩
  | insert entry => exact h.insert entry

lemma recordsLast_init (table : DynamicTable) : RecordsLast (qpackEncoderStateInit table, []) := by
  have hnone : ∀ sec, some sec ∉ (qpackEncoderStateInit table).outstanding := by
    intro sec hsec
    cases List.eq_of_mem_replicate hsec
  have hone : OneEach (List.replicate qpackMaxOutstandingSections none) := by
    unfold OneEach
    decide
  refine ⟨hone, fun sec => ?_, nofun⟩
  exact ⟨fun hsec => absurd hsec (hnone sec), nofun⟩

lemma bookkeepingRun_concat (table : DynamicTable) (before : List BookkeepingCall)
    (call : BookkeepingCall) :
    bookkeepingRun table (before ++ [call]) = bookkeepingStep (bookkeepingRun table before) call := by
  rw [bookkeepingRun, List.foldl_append]
  rfl

lemma bookkeepingHolds_nil (table : DynamicTable) : BookkeepingHolds table [] := by
  refine ⟨fun hbefore => ?_, fun hbefore => ?_⟩
  · obtain rfl := List.prefix_nil.mp hbefore
    exact nofun
  · exact absurd (List.prefix_nil.mp hbefore) (List.append_ne_nil_of_right_ne_nil _ nofun)

lemma bookkeepingHolds_concat : BookkeepingHolds table (before ++ [call]) ↔
    BookkeepingHolds table before ∧ StepHolds (bookkeepingRun table before) call := by
  constructor
  · intro h
    refine ⟨⟨fun hstart => h.unevictable (hstart.trans (List.prefix_append _ _)),
      fun hstart => h.released (hstart.trans (List.prefix_append _ _))⟩, ?_, ?_⟩
    · rw [← bookkeepingRun_concat]
      exact h.unevictable List.prefix_rfl
    · rintro streamId rfl
      rw [← bookkeepingRun_concat]
      exact h.released List.prefix_rfl
  · rintro ⟨h, hsafe, hreleased⟩
    rw [← bookkeepingRun_concat] at hsafe
    refine ⟨fun hstart => ?_, fun {start streamId} hstart => ?_⟩
    · rcases List.prefix_concat_iff.mp hstart with rfl | hstart
      · exact hsafe
      · exact h.unevictable hstart
    · rcases List.prefix_concat_iff.mp hstart with heq | hstart
      · obtain ⟨rfl, hcall⟩ := List.append_inj' heq rfl
        cases hcall
        rw [bookkeepingRun_concat]
        exact hreleased streamId rfl
      · exact h.released hstart

lemma regularSteps_concat : RegularSteps table (before ++ [call]) ↔
    RegularSteps table before ∧ RegularStep (bookkeepingRun table before) call := by
  constructor
  · intro h
    refine ⟨?_, h before call [] rfl⟩
    rintro start c after rfl
    exact h start c (after ++ [call]) (by rw [List.append_assoc]; rfl)
  · rintro ⟨hbefore, hcall⟩ start c after hsplit
    rcases List.eq_nil_or_concat after with rfl | ⟨after, last, rfl⟩
    · obtain ⟨rfl, hc⟩ := List.append_inj' hsplit rfl
      cases hc
      exact hcall
    · rw [List.concat_eq_append, ← List.cons_append, ← List.append_assoc] at hsplit
      obtain ⟨rfl, -⟩ := List.append_inj' hsplit rfl
      exact hbefore start c after rfl

/-- **The encoder's bookkeeping** over a run is right exactly when every call is regular. -/
theorem bookkeepingHolds_iff (table : DynamicTable) (calls : List BookkeepingCall) :
    BookkeepingHolds table calls ↔ RegularSteps table calls := by
  have hboth : (BookkeepingHolds table calls ↔ RegularSteps table calls) ∧
      (RegularSteps table calls → RecordsLast (bookkeepingRun table calls)) := by
    induction calls using List.reverseRecOn with
    | nil =>
      refine ⟨iff_of_true (bookkeepingHolds_nil table) ?_, fun _ => recordsLast_init table⟩
      intro before call after hsplit
      cases before <;> cases hsplit
    | append_singleton before call ih =>
      obtain ⟨hiff, hrecords⟩ := ih
      rw [bookkeepingHolds_concat, regularSteps_concat, bookkeepingRun_concat]
      constructor
      · rw [hiff]
        apply and_congr_right
        intro hregular
        exact stepHolds_iff (hrecords hregular) ((hiff.mpr hregular).unevictable List.prefix_rfl)
      · exact fun ⟨hbefore, hcall⟩ => (hrecords hbefore).step hcall
  exact hboth.1

/-- One insertion, and a section that may reference it: its entry is reported evictable. -/
theorem inserted_then_evictable :
    ¬BookkeepingHolds (qpackDynamicInit 64) [.insert ⟨[], []⟩, .beginSection 0 true] := by
  intro h
  have hsafe := h.unevictable List.prefix_rfl
  exact absurd (hsafe ⟨0, 1⟩ (by decide) 0 (by decide)) (by decide)

end Records

end WebTransport
