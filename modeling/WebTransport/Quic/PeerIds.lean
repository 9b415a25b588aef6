import WebTransport.Lib.SlotTable
import WebTransport.Quic.Draining
import WebTransport.Quic.SendClosure

/-!
# The peer's connection IDs

The IDs that the peer issues with NEW_CONNECTION_ID frames are stored in a table, and one of them,
or the handshake's, is the destination of what is sent. A frame also retires IDs: those below its
`retire_prior_to`. The code stores the new ID first and retires then, it keeps no note of the
largest `retire_prior_to`, and the handshake's ID is not in the table: so an ID that was to be
gone can come back, or stay in use, and a frame that retires enough to make room is refused.
-/

namespace WebTransport

/-! ## Stored IDs -/

/-- The IDs of the peer that are stored. -/
def Connection.storedIds (c : Connection) : List ConnectionIdEntry :=
  SlotTable.entries quicConnectionIdsMax c.peerIds

/-- The sequence number of the ID that packets are addressed to; the handshake's ID has `0`. -/
def Connection.addressed (c : Connection) : ℕ := c.currentPeerSequence.getD 0

/-- The connection was closed because the peer issued too many IDs. -/
def Connection.ClosedForIds (c : Connection) : Prop :=
  c.close.kind = .transport ∧ c.close.errorCode = quicConnectionIdLimitError

/-- What holds of the table in every state: its counter is right, and the ID in use is stored. -/
structure IdsSound (c : Connection) : Prop where
  count : c.peerIdCount = c.storedIds.length
  current : ∀ s, c.currentPeerSequence = some s → ∃ e ∈ c.storedIds, e.sequence = s

section Sending

variable {env : Env} {fuel now : ℕ} {c c' c'' : Connection} {status : Status}

/-- The IDs and the destination are the same, and the peer did not issue too many meanwhile. -/
structure SameIds (c c' : Connection) : Prop where
  ids : c'.peerIds = c.peerIds
  count : c'.peerIdCount = c.peerIdCount
  current : c'.currentPeerSequence = c.currentPeerSequence
  config : c'.config = c.config
  limit : c'.ClosedForIds → c.ClosedForIds

/-- Sending has no part in the IDs. -/
lemma SameIds.of_sent (haside : c'.aside = c.aside) (hclose : CloseKept c c') : SameIds c c' := by
  have hids : c'.aside.peerIds = c.aside.peerIds := by rw [haside]
  have hcount : c'.aside.peerIdCount = c.aside.peerIdCount := by rw [haside]
  have hcurrent : c'.aside.currentPeerSequence = c.aside.currentPeerSequence := by rw [haside]
  have hconfig : c'.aside.config = c.aside.config := by rw [haside]
  refine ⟨hids, hcount, hcurrent, hconfig, ?_⟩
  rintro ⟨hkind, hcode⟩
  rcases hclose with hsame | ⟨-, haead⟩
  · unfold Connection.ClosedForIds
    rw [← hsame]
    exact ⟨hkind, hcode⟩
  · rw [haead] at hcode
    exact absurd hcode (by decide)

lemma quicConnectionSendFrame_sameIds {space : Space} {frame : Frame} {ackEliciting : Bool}
    (h : quicConnectionSendFrame env fuel space frame ackEliciting now c = some (c', status)) :
    SameIds c c' := by
  unfold quicConnectionSendFrame at h
  split at h
  · cases h
    exact .of_sent rfl (.inl rfl)
  · exact .of_sent ((aside_closed env fun _ _ => True).sendControlFrame trivial h)
      ((closeKept_closed env fun _ _ => True).sendControlFrame trivial h)

end Sending

/-! ## Forgetting IDs -/

/-- Some of the IDs whose numbers are in `gone` have been forgotten, and nothing else happened to
the table. -/
structure Forgot (gone : ℕ → Prop) (c c' : Connection) : Prop where
  kept : ∀ e ∈ c'.storedIds, e ∈ c.storedIds
  spared : ∀ e ∈ c.storedIds, ¬gone e.sequence → e ∈ c'.storedIds
  count : c.peerIdCount = c.storedIds.length → c'.peerIdCount = c'.storedIds.length
  current : (∀ s, c.currentPeerSequence = some s → ¬gone s) →
    c'.currentPeerSequence = c.currentPeerSequence
  config : c'.config = c.config
  limit : c'.ClosedForIds → c.ClosedForIds

section Forgetting

variable {env : Env} {fuel now : ℕ} {c c' c'' : Connection} {status : Status} {gone : ℕ → Prop}

lemma SameIds.forgot (h : SameIds c c') : Forgot gone c c' := by
  have hstored : c'.storedIds = c.storedIds := by
    unfold Connection.storedIds
    rw [h.ids]
  refine ⟨?_, ?_, ?_, fun _ => h.current, h.config, h.limit⟩
  · rw [hstored]
    exact fun e he => he
  · rw [hstored]
    exact fun e he _ => he
  · rw [hstored, h.count]
    exact id

lemma Forgot.trans (h : Forgot gone c c') (h' : Forgot gone c' c'') : Forgot gone c c'' := by
  refine ⟨fun e he => h.kept e (h'.kept e he), ?_, fun hc => h'.count (h.count hc), ?_,
    h'.config.trans h.config, fun hl => h.limit (h'.limit hl)⟩
  · intro e he hgone
    exact h'.spared e (h.spared e he hgone) hgone
  · intro hcurrent
    have hsame := h.current hcurrent
    rw [h'.current (by rw [hsame]; exact hcurrent), hsame]

/-- A slot that a search finds holds an entry with the property. -/
lemma idSlot_spec {ids : ℕ → Option ConnectionIdEntry} {p : ConnectionIdEntry → Bool} {slot : ℕ}
    (h : idSlot ids p = some slot) :
    slot < quicConnectionIdsMax ∧ ∃ e, ids slot = some e ∧ p e = true := by
  refine ⟨List.mem_range.mp (List.mem_of_find?_eq_some h), ?_⟩
  have hany := List.find?_some h
  cases hget : ids slot with
  | none =>
    rw [hget] at hany
    cases hany
  | some e =>
    rw [hget] at hany
    exact ⟨e, rfl, hany⟩

/-- A search that finds nothing says so of every stored entry. -/
lemma idSlot_eq_none {c : Connection} {p : ConnectionIdEntry → Bool} :
    idSlot c.peerIds p = none ↔ ∀ e ∈ c.storedIds, p e = false := by
  unfold idSlot Connection.storedIds
  rw [List.find?_eq_none]
  constructor
  · intro h e he
    obtain ⟨i, hi, hget⟩ := SlotTable.mem_entries.mp he
    have hnot := h i (List.mem_range.mpr hi)
    rw [hget, Option.any_some] at hnot
    simpa using hnot
  · intro h i hi
    cases hget : c.peerIds i with
    | none => simp
    | some e =>
      have hfalse := h e (SlotTable.mem_entries.mpr ⟨i, List.mem_range.mp hi, hget⟩)
      simp [hfalse]

/-- Forgetting one ID: it was not stored or could not be retired, and nothing happened; or one
entry with its number is gone. -/
lemma forgetPeerConnectionId_cases {sequence : ℕ}
    (h : forgetPeerConnectionId env fuel sequence now c = some (c', status)) :
    (SameIds c c' ∧ (status = .ok → ∀ e ∈ c.storedIds, e.sequence ≠ sequence)) ∨
      status = .ok ∧ ∃ slot e, slot < quicConnectionIdsMax ∧ c.peerIds slot = some e ∧
        e.sequence = sequence ∧ c'.peerIds = Function.update c.peerIds slot none ∧
        c'.peerIdCount = c.peerIdCount - 1 ∧
        c'.currentPeerSequence =
          (if c.currentPeerSequence = some sequence then none else c.currentPeerSequence) ∧
        c'.config = c.config ∧ (c'.ClosedForIds → c.ClosedForIds) := by
  unfold forgetPeerConnectionId at h
  split at h
  · rename_i hnone
    obtain ⟨rfl, rfl⟩ := Prod.mk.inj (Option.some.inj h)
    refine .inl ⟨.of_sent rfl (.inl rfl), fun _ e he => ?_⟩
    simpa using idSlot_eq_none.mp hnone e he
  · rename_i slot hslot
    obtain ⟨hlt, e, hget, hseq⟩ := idSlot_spec hslot
    split at h
    · cases h
    · rename_i c₁ hsend
      obtain ⟨rfl, rfl⟩ := Prod.mk.inj (Option.some.inj h)
      have hsame := quicConnectionSendFrame_sameIds hsend
      refine .inr ⟨rfl, slot, e, hlt, hget, by simpa using hseq, ?_, ?_, ?_, hsame.config, hsame.limit⟩
      · simp only [hsame.ids]
      · simp only [hsame.count]
      · simp only [hsame.current]
    · rename_i c₁ status₁ hne hsend
      obtain ⟨rfl, rfl⟩ := Prod.mk.inj (Option.some.inj h)
      exact .inl ⟨quicConnectionSendFrame_sameIds hsend, fun hok => absurd hok hne⟩

/-- Emptying a slot takes its entry from the stored ones. -/
lemma storedIds_perm {slot : ℕ} {e : ConnectionIdEntry} (hlt : slot < quicConnectionIdsMax)
    (hget : c.peerIds slot = some e) (hids : c'.peerIds = Function.update c.peerIds slot none) :
    c.storedIds.Perm (e :: c'.storedIds) := by
  unfold Connection.storedIds
  rw [hids]
  exact SlotTable.entries_empty hlt hget

/-- Forgetting one of the IDs that are to go. -/
lemma forgetPeerConnectionId_forgot {sequence : ℕ} (hgone : gone sequence)
    (h : forgetPeerConnectionId env fuel sequence now c = some (c', status)) : Forgot gone c c' := by
  rcases forgetPeerConnectionId_cases h with ⟨hsame, -⟩ |
    ⟨-, slot, e, hlt, hget, rfl, hids, hcount, hcurrent, hconfig, hlimit⟩
  · exact hsame.forgot
  have hperm := storedIds_perm hlt hget hids
  refine ⟨?_, ?_, ?_, ?_, hconfig, hlimit⟩
  · intro e' he'
    exact hperm.mem_iff.mpr (List.mem_cons_of_mem _ he')
  · intro e' he' hspared
    rcases List.mem_cons.mp (hperm.mem_iff.mp he') with rfl | hmem
    · exact absurd hgone hspared
    · exact hmem
  · intro hc
    have hlen := hperm.length_eq
    rw [List.length_cons] at hlen
    omega
  · intro hspared
    rw [hcurrent, if_neg]
    exact fun heq => hspared _ heq hgone

/-- Giving up every ID below a number: when all could be retired, none is left. -/
lemma forgetBelow_forgot {retirePriorTo rounds : ℕ}
    (h : forgetBelow env fuel retirePriorTo now rounds c = some (c', status)) :
    Forgot (· < retirePriorTo) c c' ∧
      (status = .ok → c.storedIds.countP (·.sequence < retirePriorTo) ≤ rounds →
        ∀ e ∈ c'.storedIds, retirePriorTo ≤ e.sequence) := by
  induction rounds generalizing c with
  | zero =>
    rw [forgetBelow] at h
    obtain ⟨rfl, rfl⟩ := Prod.mk.inj (Option.some.inj h)
    refine ⟨(SameIds.of_sent rfl (.inl rfl)).forgot, ?_⟩
    intro _ hzero e he
    have hnone := List.countP_eq_zero.mp (Nat.le_zero.mp hzero) e he
    simpa using hnone
  | succ rounds ih =>
    rw [forgetBelow] at h
    cases hslot : idSlot c.peerIds (·.sequence < retirePriorTo) with
    | none =>
      rw [hslot, Option.bind_none] at h
      obtain ⟨rfl, rfl⟩ := Prod.mk.inj (Option.some.inj h)
      refine ⟨(SameIds.of_sent rfl (.inl rfl)).forgot, ?_⟩
      intro _ _ e he
      simpa using idSlot_eq_none.mp hslot e he
    | some slot =>
      obtain ⟨hlt, e, hget, hbelow⟩ := idSlot_spec hslot
      have hbelow : e.sequence < retirePriorTo := by simpa using hbelow
      rw [hslot, Option.bind_some, hget] at h
      simp only at h
      split at h
      · cases h
      · rename_i c₁ hforget
        obtain ⟨hrest, hnone⟩ := ih h
        have hone : Forgot (· < retirePriorTo) c c₁ := forgetPeerConnectionId_forgot hbelow hforget
        refine ⟨hone.trans hrest, ?_⟩
        intro hok hcount
        refine hnone hok ?_
        -- The round has taken one of those that are counted.
        rcases forgetPeerConnectionId_cases hforget with ⟨-, hnot⟩ |
          ⟨-, slot', e', hlt', hget', hseq, hids, -⟩
        · exact absurd rfl (hnot rfl e (SlotTable.mem_entries.mpr ⟨slot, hlt, hget⟩))
        · have hperm := (storedIds_perm hlt' hget' hids).countP_eq
            fun e => decide (e.sequence < retirePriorTo)
          rw [List.countP_cons_of_pos (by simpa [hseq] using hbelow)] at hperm
          omega
      · rename_i c₁ status₁ hne hforget
        obtain ⟨rfl, rfl⟩ := Prod.mk.inj (Option.some.inj h)
        have hone : Forgot (· < retirePriorTo) c c₁ := forgetPeerConnectionId_forgot hbelow hforget
        exact ⟨hone, fun hok => absurd hok hne⟩

end Forgetting

/-! ## One frame -/

/-- The connection with the ID of a frame in a slot, and addressed to it if the one in use is to
be retired. -/
def storedState (f : NewConnectionIdFrame) (slot : ℕ) (dropped : Bool) (c : Connection) :
    Connection :=
  let stored := { c with
    peerIds := Function.update c.peerIds slot
      (some ⟨f.sequence, f.connectionId, f.statelessResetToken⟩)
    peerIdCount := c.peerIdCount + 1
    retireCurrentAfterStore := false }
  if dropped then adoptStoredPeerId slot stored else stored

/-- Whether the ID in use is below the `retire_prior_to` of a frame. -/
def dropsCurrent (f : NewConnectionIdFrame) (c : Connection) : Bool :=
  (idSlot c.peerIds fun e =>
    e.sequence < f.retirePriorTo && c.currentPeerSequence = some e.sequence).isSome

/-- How many IDs this endpoint has room for besides the handshake's. -/
def allowedIds (c : Connection) : ℕ :=
  (if c.config.localActiveConnectionIdLimit = 0 then 2 else c.config.localActiveConnectionIdLimit) - 1

/-- The ends a NEW_CONNECTION_ID frame can come to. -/
inductive FrameEnd (env : Env) (fuel : ℕ) (f : NewConnectionIdFrame) (now : ℕ) (c : Connection) :
    Connection × Status → Prop
  | refused (code : QuicError)
      (hrefused : ¬(1 ≤ f.connectionId.length ∧ f.connectionId.length ≤ quicMaxConnectionIdLength) ∨
        f.sequence < f.retirePriorTo ∨ ∃ e ∈ c.storedIds, e.sequence = f.sequence) :
      FrameEnd env fuel f now c (closeWith c code 0x18 now)
  | known (hknown : ∃ e ∈ c.storedIds, e.sequence = f.sequence) : FrameEnd env fuel f now c (c, .ok)
  | full (hnew : ∀ e ∈ c.storedIds, e.sequence ≠ f.sequence)
      (hfull : (∀ i < quicConnectionIdsMax, (c.peerIds i).isSome = true) ∨ allowedIds c ≤ c.peerIdCount) :
      FrameEnd env fuel f now c (closeWith { c with retireCurrentAfterStore := dropsCurrent f c }
        quicConnectionIdLimitError 0x18 now)
  | stored {slot : ℕ} {r : Connection × Status} (hnew : ∀ e ∈ c.storedIds, e.sequence ≠ f.sequence)
      (hslot : slot < quicConnectionIdsMax) (hfree : c.peerIds slot = none)
      (hroom : c.peerIdCount < allowedIds c) (hle : f.retirePriorTo ≤ f.sequence)
      (h : forgetBelow env fuel f.retirePriorTo now quicConnectionIdsMax
        (storedState f slot (dropsCurrent f c) c) = some r) :
      FrameEnd env fuel f now c r

section OneFrame

variable {env : Env} {fuel now : ℕ} {c c' : Connection} {status : Status} {f : NewConnectionIdFrame}
  {slot : ℕ}

lemma handleNewConnectionId_end {r : Connection × Status}
    (h : handleNewConnectionId env fuel f now c = some r) : FrameEnd env fuel f now c r := by
  unfold handleNewConnectionId at h
  split at h
  · rename_i hlength
    obtain rfl := Option.some.inj h
    exact .refused _ (.inl (by omega))
  split at h
  · rename_i hlt
    obtain rfl := Option.some.inj h
    exact .refused _ (.inr (.inl hlt))
  rename_i hle
  have hle : f.retirePriorTo ≤ f.sequence := not_lt.mp hle
  cases hknown : idSlot c.peerIds (·.sequence = f.sequence) with
  | some slot =>
    obtain ⟨hlt, e, hget, hseq⟩ := idSlot_spec hknown
    have hstored : ∃ e ∈ c.storedIds, e.sequence = f.sequence :=
      ⟨e, SlotTable.mem_entries.mpr ⟨slot, hlt, hget⟩, by simpa using hseq⟩
    rw [hknown, Option.bind_some, hget] at h
    simp only at h
    split at h
    · obtain rfl := Option.some.inj h
      exact .refused _ (.inr (.inr hstored))
    · obtain rfl := Option.some.inj h
      exact .known hstored
  | none =>
    have hnew : ∀ e ∈ c.storedIds, e.sequence ≠ f.sequence := by
      intro e he
      simpa using idSlot_eq_none.mp hknown e he
    rw [hknown, Option.bind_none] at h
    simp only at h
    split at h
    · rename_i hfull
      obtain rfl := Option.some.inj h
      refine .full hnew (.inl ?_)
      intro i hi
      have hused := List.find?_eq_none.mp hfull i (List.mem_range.mpr hi)
      rw [Option.isSome_iff_ne_none]
      simpa using hused
    · rename_i slot hslot
      have hlt := List.mem_range.mp (List.mem_of_find?_eq_some hslot)
      have hfree : c.peerIds slot = none := by simpa using List.find?_some hslot
      rcases Nat.lt_or_ge c.peerIdCount (allowedIds c) with hroom | hfull
      · have hnot := not_le.mpr hroom
        unfold allowedIds at hnot
        rw [if_neg hnot] at h
        exact .stored hnew hlt hfree hroom hle h
      · have hcond : allowedIds c ≤ c.peerIdCount := hfull
        unfold allowedIds at hcond
        rw [if_pos hcond] at h
        obtain rfl := Option.some.inj h
        exact .full hnew (.inr hfull)

lemma storedState_perm (dropped : Bool) (hslot : slot < quicConnectionIdsMax)
    (hfree : c.peerIds slot = none) :
    (storedState f slot dropped c).storedIds.Perm
      (⟨f.sequence, f.connectionId, f.statelessResetToken⟩ :: c.storedIds) := by
  have hids : (storedState f slot dropped c).peerIds = Function.update c.peerIds slot
      (some ⟨f.sequence, f.connectionId, f.statelessResetToken⟩) := by
    unfold storedState adoptStoredPeerId adoptPeerConnectionId
    simp only [Function.update_self]
    split
    · split <;> rfl
    · rfl
  unfold Connection.storedIds
  rw [hids]
  exact SlotTable.entries_fill hslot hfree

/-- Storing an ID counts it, and moves to it if the one in use is to be retired. -/
lemma storedState_kept (f : NewConnectionIdFrame) (slot : ℕ) (dropped : Bool) (c : Connection) :
    (storedState f slot dropped c).peerIdCount = c.peerIdCount + 1 ∧
      (storedState f slot dropped c).currentPeerSequence =
        (if dropped then some f.sequence else c.currentPeerSequence) ∧
      (storedState f slot dropped c).close = c.close := by
  unfold storedState adoptStoredPeerId adoptPeerConnectionId
  simp only [Function.update_self]
  cases dropped with
  | true =>
    rw [if_pos rfl]
    refine ⟨?_, rfl, ?_⟩
    · split <;> rfl
    · split <;> rfl
  | false => exact ⟨rfl, rfl, rfl⟩

/-- The ID in use is dropped exactly when it is below the `retire_prior_to`. -/
lemma dropsCurrent_iff (hc : IdsSound c) :
    dropsCurrent f c = true ↔ ∃ s, c.currentPeerSequence = some s ∧ s < f.retirePriorTo := by
  unfold dropsCurrent
  constructor
  · intro h
    obtain ⟨slot, hslot⟩ := Option.isSome_iff_exists.mp h
    obtain ⟨-, e, -, he⟩ := idSlot_spec hslot
    simp only [Bool.and_eq_true, decide_eq_true_eq] at he
    exact ⟨e.sequence, he.2, he.1⟩
  · rintro ⟨s, hs, hlt⟩
    rw [← Option.isNone_eq_false_iff, Bool.eq_false_iff, ne_eq, Option.isNone_iff_eq_none,
      idSlot_eq_none]
    intro hnone
    obtain ⟨e, he, rfl⟩ := hc.current s hs
    have := hnone e he
    simp [hlt, hs] at this

/-- After an ID is stored, the one in use is not below the `retire_prior_to`. -/
lemma storedState_current (slot : ℕ) (hc : IdsSound c) (hle : f.retirePriorTo ≤ f.sequence) :
    ∀ s, (storedState f slot (dropsCurrent f c) c).currentPeerSequence = some s →
      f.retirePriorTo ≤ s := by
  intro s hs
  rw [(storedState_kept f slot _ c).2.1] at hs
  split at hs
  · cases hs
    exact hle
  · rename_i hdropped
    by_contra hlt
    exact hdropped ((dropsCurrent_iff hc).mpr ⟨s, hs, not_le.mp hlt⟩)

lemma closeWith_sameIds_parts (c : Connection) (code frameType now : ℕ) :
    (closeWith c code frameType now).1.peerIds = c.peerIds ∧
      (closeWith c code frameType now).1.peerIdCount = c.peerIdCount ∧
      (closeWith c code frameType now).1.currentPeerSequence = c.currentPeerSequence := by
  unfold closeWith quicConnectionClose
  split
  · exact ⟨rfl, rfl, rfl⟩
  · exact ⟨rfl, rfl, rfl⟩

lemma closeWith_isClosed (c : Connection) (code frameType now : ℕ) :
    quicConnectionIsClosed (closeWith c code frameType now).1 = true := by
  cases hclosed : quicConnectionIsClosed c with
  | true =>
    unfold closeWith quicConnectionClose
    rw [if_pos hclosed]
    exact hclosed
  | false =>
    have hnone : c.close.kind = .none := by
      simp only [quicConnectionIsClosed, quicCloseIsClosed, Bool.or_eq_false_iff] at hclosed
      simpa using hclosed.2
    unfold closeWith quicConnectionClose quicCloseTransport closeCommon
    rw [if_neg (by simp [hclosed]), if_neg (by simp [hnone])]
    simp [quicConnectionIsClosed, quicCloseIsClosed]

/-- Soundness only depends on the table and on the ID in use. -/
lemma IdsSound.congr (hc : IdsSound c) (hids : c'.peerIds = c.peerIds)
    (hcount : c'.peerIdCount = c.peerIdCount)
    (hcurrent : c'.currentPeerSequence = c.currentPeerSequence) : IdsSound c' := by
  have hstored : c'.storedIds = c.storedIds := by
    unfold Connection.storedIds
    rw [hids]
  refine ⟨?_, ?_⟩
  · rw [hcount, hstored]
    exact hc.count
  · rw [hcurrent, hstored]
    exact hc.current

/-- Forgetting IDs other than the one in use keeps the table sound. -/
lemma Forgot.sound {gone : ℕ → Prop} (h : Forgot gone c c') (hc : IdsSound c)
    (hcurrent : ∀ s, c.currentPeerSequence = some s → ¬gone s) : IdsSound c' := by
  refine ⟨h.count hc.count, ?_⟩
  intro s hs
  rw [h.current hcurrent] at hs
  obtain ⟨e, he, rfl⟩ := hc.current s hs
  exact ⟨e, h.spared e he (hcurrent _ hs), rfl⟩

lemma storedState_sound {dropped : Bool} (hc : IdsSound c) (hslot : slot < quicConnectionIdsMax)
    (hfree : c.peerIds slot = none) : IdsSound (storedState f slot dropped c) := by
  have hperm := storedState_perm (f := f) dropped hslot hfree
  obtain ⟨hcount, hcurrent, -⟩ := storedState_kept f slot dropped c
  refine ⟨?_, ?_⟩
  · rw [hcount, hperm.length_eq, List.length_cons, hc.count]
  · intro s hs
    rw [hcurrent] at hs
    split at hs
    · cases hs
      exact ⟨_, hperm.mem_iff.mpr List.mem_cons_self, rfl⟩
    · obtain ⟨e, he, rfl⟩ := hc.current s hs
      exact ⟨e, hperm.mem_iff.mpr (List.mem_cons_of_mem _ he), rfl⟩

lemma handleNewConnectionId_sound (hc : IdsSound c)
    (h : handleNewConnectionId env fuel f now c = some (c', status)) : IdsSound c' := by
  have hend := handleNewConnectionId_end h
  generalize hr : (c', status) = r at hend
  cases hend with
  | refused =>
    obtain ⟨hids, hcount, hcurrent⟩ := closeWith_sameIds_parts c _ 0x18 now
    have hfst := congrArg Prod.fst hr
    simp only at hfst
    rw [hfst]
    exact hc.congr hids hcount hcurrent
  | known =>
    cases hr
    exact hc
  | full =>
    obtain ⟨hids, hcount, hcurrent⟩ := closeWith_sameIds_parts
      { c with retireCurrentAfterStore := dropsCurrent f c } quicConnectionIdLimitError 0x18 now
    have hfst := congrArg Prod.fst hr
    simp only at hfst
    rw [hfst]
    exact hc.congr hids hcount hcurrent
  | stored hnew hslot hfree hroom hle hforget =>
    subst hr
    refine (forgetBelow_forgot hforget).1.sound (storedState_sound hc hslot hfree) ?_
    intro s hs
    exact not_lt.mpr (storedState_current _ hc hle s hs)

end OneFrame

/-! ## Runs -/

/-- The states a connection comes through, with the largest `retire_prior_to` of a frame that was
accepted. Frames have to meet a condition; whatever else happens leaves the IDs alone. -/
inductive IdRun (env : Env) (Meets : ℕ → NewConnectionIdFrame → Connection → Prop) :
    ℕ → Connection → Prop
  | start {config : ConnectionConfig} {c : Connection} (h : quicConnectionInit config = .ok c) :
      IdRun env Meets 0 c
  | frame {R fuel now : ℕ} {c c' : Connection} {f : NewConnectionIdFrame} {status : Status}
      (hrun : IdRun env Meets R c) (hmeets : Meets R f c)
      (h : handleNewConnectionId env fuel f now c = some (c', status)) :
      IdRun env Meets
        (if status = .ok ∧ quicConnectionIsClosed c' = false then max R f.retirePriorTo else R) c'
  | useNew {R fuel now : ℕ} {c c' : Connection} {status : Status} (hrun : IdRun env Meets R c)
      (h : quicConnectionUseNewConnectionId env fuel now c = some (c', status)) : IdRun env Meets R c'
  | retire {R fuel now sequence : ℕ} {c c' : Connection} {status : Status}
      (hrun : IdRun env Meets R c)
      (h : quicConnectionRetirePeerConnectionId env fuel sequence now c = some (c', status)) :
      IdRun env Meets R c'
  | other {R : ℕ} {c c' : Connection} (hrun : IdRun env Meets R c) (hids : c'.peerIds = c.peerIds)
      (hcount : c'.peerIdCount = c.peerIdCount)
      (hcurrent : c'.currentPeerSequence = c.currentPeerSequence) : IdRun env Meets R c'

/-- No ID that is stored or in use is below a number. -/
def NoneBelow (R : ℕ) (c : Connection) : Prop :=
  (∀ e ∈ c.storedIds, R ≤ e.sequence) ∧ R ≤ c.addressed

/-- A frame that is not late and that, if it retires more than those before it, finds an ID of the
peer in use instead of the handshake's and brings an ID that is not stored yet. -/
def Prompt (R : ℕ) (f : NewConnectionIdFrame) (c : Connection) : Prop :=
  R ≤ f.sequence ∧ (R < f.retirePriorTo →
    c.currentPeerSequence ≠ none ∧ ∀ e ∈ c.storedIds, e.sequence ≠ f.sequence)

section Runs

variable {env : Env} {fuel now R : ℕ} {c c' : Connection} {status : Status}
  {f : NewConnectionIdFrame} {Meets : ℕ → NewConnectionIdFrame → Connection → Prop}

/-- A new connection has no ID of the peer but the handshake's. -/
lemma quicConnectionInit_ids {config : ConnectionConfig} (h : quicConnectionInit config = .ok c) :
    c.storedIds = [] ∧ c.peerIdCount = 0 ∧ c.currentPeerSequence = none := by
  unfold quicConnectionInit at h
  split at h
  · cases h
  split at h
  · cases h
  · cases h
    exact ⟨rfl, rfl, rfl⟩

/-- Moving to an ID of the peer: there is none, or one is in use now, and the one before it may
be forgotten. -/
lemma quicConnectionUseNewConnectionId_cases
    (h : quicConnectionUseNewConnectionId env fuel now c = some (c', status)) :
    c' = c ∨ ∃ e ∈ c.storedIds, ∃ c₁, c₁.peerIds = c.peerIds ∧ c₁.peerIdCount = c.peerIdCount ∧
      c₁.currentPeerSequence = some e.sequence ∧
      Forgot (fun s => c.currentPeerSequence = some s ∧ s ≠ e.sequence) c₁ c' := by
  unfold quicConnectionUseNewConnectionId at h
  split at h
  · cases h
    exact .inl rfl
  rename_i slot hslot
  obtain ⟨hlt, e, hget, hother⟩ := idSlot_spec hslot
  have hother : c.currentPeerSequence ≠ some e.sequence := of_decide_eq_true hother
  have hadopted : (adoptStoredPeerId slot c).peerIds = c.peerIds ∧
      (adoptStoredPeerId slot c).peerIdCount = c.peerIdCount ∧
      (adoptStoredPeerId slot c).currentPeerSequence = some e.sequence := by
    unfold adoptStoredPeerId adoptPeerConnectionId
    rw [hget]
    refine ⟨?_, ?_, rfl⟩
    · simp only
      split <;> rfl
    · simp only
      split <;> rfl
  refine .inr ⟨e, SlotTable.mem_entries.mpr ⟨slot, hlt, hget⟩, adoptStoredPeerId slot c, hadopted.1,
    hadopted.2.1, hadopted.2.2, ?_⟩
  simp only at h
  split at h
  · cases h
    exact (SameIds.of_sent rfl (.inl rfl)).forgot
  · rename_i abandoned habandoned
    refine forgetPeerConnectionId_forgot ⟨habandoned, ?_⟩ h
    rintro rfl
    exact hother habandoned

lemma quicConnectionRetirePeerConnectionId_forgot {sequence : ℕ}
    (h : quicConnectionRetirePeerConnectionId env fuel sequence now c = some (c', status)) :
    Forgot (fun s => c.currentPeerSequence ≠ some s) c c' := by
  unfold quicConnectionRetirePeerConnectionId at h
  split at h
  · cases h
    exact (SameIds.of_sent rfl (.inl rfl)).forgot
  split at h
  · cases h
    exact (SameIds.of_sent rfl (.inl rfl)).forgot
  rename_i hcurrent
  simp only at h
  split at h
  · cases h
  · rename_i hforget
    cases h
    exact forgetPeerConnectionId_forgot hcurrent hforget
  · rename_i hforget
    cases h
    exact forgetPeerConnectionId_forgot hcurrent hforget

/-- The table is sound in every state of a run. -/
theorem IdRun.sound (h : IdRun env Meets R c) : IdsSound c := by
  induction h with
  | start hinit =>
    obtain ⟨hstored, hcount, hcurrent⟩ := quicConnectionInit_ids hinit
    refine ⟨by rw [hstored, hcount]; rfl, ?_⟩
    intro s hs
    rw [hcurrent] at hs
    cases hs
  | frame _ _ hframe ih => exact handleNewConnectionId_sound ih hframe
  | useNew _ huse ih =>
    rcases quicConnectionUseNewConnectionId_cases huse with rfl |
      ⟨e, he, c₁, hids, hcount, hcurrent, hforgot⟩
    · exact ih
    have hstored : c₁.storedIds = _ := congrArg (SlotTable.entries quicConnectionIdsMax) hids
    refine hforgot.sound ⟨?_, ?_⟩ ?_
    · rw [hcount, hstored]
      exact ih.count
    · intro s hs
      rw [hcurrent] at hs
      obtain rfl := Option.some.inj hs
      exact ⟨e, by rw [hstored]; exact he, rfl⟩
    · intro s hs hgone
      rw [hcurrent] at hs
      exact hgone.2 (Option.some.inj hs).symm
  | retire _ hretire ih =>
    refine (quicConnectionRetirePeerConnectionId_forgot hretire).sound ih ?_
    intro s hs hgone
    exact hgone hs
  | other _ hids hcount hcurrent ih => exact ih.congr hids hcount hcurrent

/-- Forgetting IDs other than the one in use leaves none below a number. -/
lemma Forgot.noneBelow {gone : ℕ → Prop} (h : Forgot gone c c') (hc : NoneBelow R c)
    (hcurrent : ∀ s, c.currentPeerSequence = some s → ¬gone s) : NoneBelow R c' := by
  refine ⟨fun e he => hc.1 e (h.kept e he), ?_⟩
  unfold Connection.addressed
  rw [h.current hcurrent]
  exact hc.2

lemma NoneBelow.congr (hc : NoneBelow R c) (hids : c'.peerIds = c.peerIds)
    (hcurrent : c'.currentPeerSequence = c.currentPeerSequence) : NoneBelow R c' := by
  have hstored : c'.storedIds = c.storedIds := congrArg (SlotTable.entries quicConnectionIdsMax) hids
  unfold NoneBelow Connection.addressed
  rw [hstored, hcurrent]
  exact hc

lemma length_storedIds_le (c : Connection) : c.storedIds.length ≤ quicConnectionIdsMax := by
  unfold Connection.storedIds SlotTable.entries
  refine (List.length_filterMap_le _ _).trans ?_
  rw [List.length_range]

/-- A prompt frame leaves none below what it retires. -/
lemma handleNewConnectionId_noneBelow (hsound : IdsSound c) (hc : NoneBelow R c)
    (hprompt : Prompt R f c) (h : handleNewConnectionId env fuel f now c = some (c', status)) :
    NoneBelow (if status = .ok ∧ quicConnectionIsClosed c' = false then max R f.retirePriorTo else R)
      c' := by
  have hend := handleNewConnectionId_end h
  have hclosed : ∀ (x : Connection) (code : ℕ), x.peerIds = c.peerIds →
      x.currentPeerSequence = c.currentPeerSequence → (c', status) = closeWith x code 0x18 now →
      NoneBelow (if status = .ok ∧ quicConnectionIsClosed c' = false then max R f.retirePriorTo
        else R) c' := by
    intro x code hids hcurrent heq
    have hfst : c' = (closeWith x code 0x18 now).1 := congrArg Prod.fst heq
    obtain ⟨hids', -, hcurrent'⟩ := closeWith_sameIds_parts x code 0x18 now
    have his := closeWith_isClosed x code 0x18 now
    rw [← hfst] at hids' hcurrent' his
    rw [if_neg (by simp [his])]
    exact hc.congr (hids'.trans hids) (hcurrent'.trans hcurrent)
  generalize hr : (c', status) = r at hend
  cases hend with
  | refused code => exact hclosed c code rfl rfl hr
  | full =>
    exact hclosed { c with retireCurrentAfterStore := dropsCurrent f c } quicConnectionIdLimitError
      rfl rfl hr
  | known hknown =>
    cases hr
    split
    · -- A frame that brings no new ID retires no more than those before it.
      have hle : f.retirePriorTo ≤ R := by
        by_contra hlt
        obtain ⟨e, he, hseq⟩ := hknown
        exact (hprompt.2 (not_le.mp hlt)).2 e he hseq
      rw [max_eq_left hle]
      exact hc
    · exact hc
  | @stored slot r hnew hslot hfree hroom hle hforget =>
    subst hr
    obtain ⟨hforgot, hnone⟩ := forgetBelow_forgot hforget
    have hcurrent := storedState_current slot hsound hle
    have hkept : ∀ s, (storedState f slot (dropsCurrent f c) c).currentPeerSequence = some s →
        ¬s < f.retirePriorTo := fun s hs => not_lt.mpr (hcurrent s hs)
    have hold : NoneBelow R (storedState f slot (dropsCurrent f c) c) := by
      refine ⟨?_, ?_⟩
      · intro e he
        rcases List.mem_cons.mp ((storedState_perm _ hslot hfree).mem_iff.mp he) with rfl | he
        · exact hprompt.1
        · exact hc.1 e he
      · unfold Connection.addressed
        rw [(storedState_kept f slot _ c).2.1]
        split
        · exact hprompt.1
        · exact hc.2
    have hbelow := hforgot.noneBelow hold hkept
    split
    · rename_i haccepted
      have hall := hnone haccepted.1
        ((List.countP_le_length).trans (length_storedIds_le _))
      refine ⟨fun e he => max_le (hbelow.1 e he) (hall e he), max_le hbelow.2 ?_⟩
      rcases Nat.lt_or_ge R f.retirePriorTo with hlt | hge
      · obtain ⟨s, hs⟩ := Option.ne_none_iff_exists'.mp (hprompt.2 hlt).1
        have hsome : ∃ s', (storedState f slot (dropsCurrent f c) c).currentPeerSequence = some s' := by
          rw [(storedState_kept f slot _ c).2.1]
          split
          · exact ⟨_, rfl⟩
          · exact ⟨s, hs⟩
        obtain ⟨s', hs'⟩ := hsome
        unfold Connection.addressed
        rw [hforgot.current hkept, hs']
        exact hcurrent s' hs'
      · exact hge.trans hbelow.2
    · exact hbelow

/-- In every run whose frames are prompt, no ID that is stored or in use is below a
`retire_prior_to` that was accepted. -/
theorem retirePriorTo_honoured (h : IdRun env Prompt R c) : NoneBelow R c := by
  induction h with
  | start hinit => exact ⟨fun _ _ => Nat.zero_le _, Nat.zero_le _⟩
  | frame hrun hmeets hframe ih => exact handleNewConnectionId_noneBelow hrun.sound ih hmeets hframe
  | useNew hrun huse ih =>
    rcases quicConnectionUseNewConnectionId_cases huse with rfl |
      ⟨e, he, c₁, hids, hcount, hcurrent, hforgot⟩
    · exact ih
    refine hforgot.noneBelow ⟨?_, ?_⟩ ?_
    · have hstored : c₁.storedIds = _ := congrArg (SlotTable.entries quicConnectionIdsMax) hids
      rw [hstored]
      exact ih.1
    · unfold Connection.addressed
      rw [hcurrent]
      exact ih.1 e he
    · intro s hs hgone
      rw [hcurrent] at hs
      exact hgone.2 (Option.some.inj hs).symm
  | retire hrun hretire ih =>
    exact (quicConnectionRetirePeerConnectionId_forgot hretire).noneBelow ih fun s hs hgone => hgone hs
  | other hrun hids hcount hcurrent ih => exact ih.congr hids hcurrent

end Runs

/-- A server that takes up to four IDs. -/
def roomyConfig : ConnectionConfig := { serverConfig with localActiveConnectionIdLimit := 4 }

/-- An ID with a sequence number, that retires those below another. -/
def issueOf (sequence retirePriorTo : ℕ) : NewConnectionIdFrame :=
  ⟨sequence, retirePriorTo, [7], List.replicate 16 0⟩

/-- An ID is issued that retires those below 3, and an earlier one comes late: it is stored, and
the handshake's ID is still in use. -/
theorem retirePriorTo_not_remembered :
    ∃ c, IdRun steadyEnv (fun _ _ _ => True) 3 c ∧ ¬NoneBelow 3 c ∧
      (∃ e ∈ c.storedIds, e.sequence = 2) ∧ c.addressed = 0 := by
  have hstart : IdRun steadyEnv (fun _ _ _ => True) 0 _ :=
    .start (show quicConnectionInit roomyConfig = .ok _ from rfl)
  have hfirst : IdRun steadyEnv (fun _ _ _ => True) 3 _ := hstart.frame trivial
    (show handleNewConnectionId steadyEnv 0 (issueOf 5 3) 0 _ = some (_, .ok) from rfl)
  have hlate : IdRun steadyEnv (fun _ _ _ => True) 3 _ := hfirst.frame trivial
    (show handleNewConnectionId steadyEnv 0 (issueOf 2 0) 0 _ = some (_, .ok) from rfl)
  refine ⟨_, hlate, ?_, ⟨⟨2, [7], List.replicate 16 0⟩, ?_, rfl⟩, rfl⟩
  · intro hnone
    exact absurd hnone.2 (by decide)
  · decide

/-- Two IDs in turn: the first is taken into use, and the second retires it. -/
theorem retirePriorTo_honoured_in_turn :
    ∃ c, IdRun steadyEnv Prompt 2 c ∧ c.storedIds.map ConnectionIdEntry.sequence = [2] ∧
      NoneBelow 2 c := by
  have hstart : IdRun steadyEnv Prompt 0 _ :=
    .start (show quicConnectionInit roomyConfig = .ok _ from rfl)
  have hkeyed : IdRun steadyEnv Prompt 0 { keyedServer with config := roomyConfig } :=
    hstart.other rfl rfl rfl
  have hfirst : IdRun steadyEnv Prompt 0 _ := hkeyed.frame ⟨by decide, fun h => absurd h (by decide)⟩
    (show handleNewConnectionId steadyEnv 2 (issueOf 1 0) 0 _ = some (_, .ok) from rfl)
  have hused : IdRun steadyEnv Prompt 0 _ := hfirst.useNew
    (show quicConnectionUseNewConnectionId steadyEnv 2 0 _ = some (_, .ok) from rfl)
  have hsecond : IdRun steadyEnv Prompt 2 _ := hused.frame
    ⟨by decide, fun _ => ⟨by decide, by decide⟩⟩
    (show handleNewConnectionId steadyEnv 2 (issueOf 2 2) 0 _ = some (_, .ok) from rfl)
  exact ⟨_, hsecond, by decide +kernel, retirePriorTo_honoured hsecond⟩

/-! ## The limit -/

/-- How many IDs of the peer this endpoint said it would keep, the handshake's among them. -/
def idLimit (c : Connection) : ℕ :=
  if c.config.localActiveConnectionIdLimit = 0 then 2 else c.config.localActiveConnectionIdLimit

/-- How many IDs are active once a frame is applied: those stored that it does not retire, the one
it brings, and the handshake's unless that is retired. -/
def activeAfter (R : ℕ) (f : NewConnectionIdFrame) (c : Connection) : ℕ :=
  (c.storedIds.filter (f.retirePriorTo ≤ ·.sequence)).length + 1 +
    if 0 < max R f.retirePriorTo then 0 else 1

/-- The limit is applied to the IDs that result: the connection is closed when they are too many,
the ID is stored when they are not, and the counter is right. -/
structure LimitApplied (R : ℕ) (f : NewConnectionIdFrame) (c c' : Connection) : Prop where
  closes : c'.ClosedForIds ↔ idLimit c < activeAfter R f c
  stores : activeAfter R f c ≤ idLimit c →
    ⟨f.sequence, f.connectionId, f.statelessResetToken⟩ ∈ c'.storedIds
  count : c'.peerIdCount = c'.storedIds.length

/-- There is room for one more ID before anything is retired: in the table and below the limit. -/
def RoomBefore (c : Connection) : Prop :=
  c.storedIds.length < quicConnectionIdsMax ∧ c.storedIds.length + 2 ≤ idLimit c

section Limit

variable {env : Env} {fuel now R : ℕ} {c c' : Connection} {status : Status}
  {f : NewConnectionIdFrame}

/-- Retiring leaves no more IDs than there would be without. -/
lemma activeAfter_le (R : ℕ) (f : NewConnectionIdFrame) (c : Connection) :
    activeAfter R f c ≤ c.storedIds.length + 2 := by
  have hfilter := List.length_filter_le (fun e : ConnectionIdEntry => f.retirePriorTo ≤ e.sequence)
    c.storedIds
  unfold activeAfter
  split <;> omega

/-- A table without a free slot has as many IDs as slots. -/
lemma length_storedIds_of_full (h : ∀ i < quicConnectionIdsMax, (c.peerIds i).isSome = true) :
    c.storedIds.length = quicConnectionIdsMax := by
  unfold Connection.storedIds SlotTable.entries
  rw [List.length_filterMap_eq_countP, List.countP_eq_length.mpr, List.length_range]
  intro i hi
  exact h i (List.mem_range.mp hi)

/-- An open connection is closed for the error it is closed with. -/
lemma closedForIds_of_closeWith (hopen : quicConnectionIsClosed c = false) (frameType now : ℕ) :
    (closeWith c quicConnectionIdLimitError frameType now).1.ClosedForIds := by
  have hnone : c.close.kind = .none := by
    simp only [quicConnectionIsClosed, quicCloseIsClosed, Bool.or_eq_false_iff] at hopen
    simpa using hopen.2
  unfold closeWith quicConnectionClose quicCloseTransport closeCommon
  rw [if_neg (by simp [hopen]), if_neg (by simp [hnone])]
  exact ⟨rfl, rfl⟩

/-- In every state of a run, the limit is applied to the IDs that result from a new frame exactly
when there is room for its ID before anything is retired, or the IDs that result are too many. -/
theorem handleNewConnectionId_limit_iff (hrun : IdRun env (fun _ _ _ => True) R c)
    (hopen : quicConnectionIsClosed c = false)
    (hlength : 1 ≤ f.connectionId.length ∧ f.connectionId.length ≤ quicMaxConnectionIdLength)
    (hle : f.retirePriorTo ≤ f.sequence) (hnew : ∀ e ∈ c.storedIds, e.sequence ≠ f.sequence)
    (h : handleNewConnectionId env fuel f now c = some (c', status)) :
    LimitApplied R f c c' ↔ RoomBefore c ∨ idLimit c < activeAfter R f c := by
  have hsound := hrun.sound
  have hcount' := (handleNewConnectionId_sound hsound h).count
  have hallowed : allowedIds c = idLimit c - 1 := rfl
  have hpositive : 0 < idLimit c := by
    unfold idLimit
    split <;> omega
  have hend := handleNewConnectionId_end h
  generalize hr : (c', status) = r at hend
  cases hend with
  | refused code hrefused =>
    exfalso
    rcases hrefused with hbad | hlt | ⟨e, he, hseq⟩
    · exact hbad hlength
    · exact absurd hle (not_le.mpr hlt)
    · exact hnew e he hseq
  | known hknown =>
    obtain ⟨e, he, hseq⟩ := hknown
    exact absurd hseq (hnew e he)
  | full _ hfull =>
    -- The frame closes the connection, rightly or not.
    have hclosed : c'.ClosedForIds := by
      have hfst : c' = _ := congrArg Prod.fst hr
      rw [hfst]
      exact closedForIds_of_closeWith (c := { c with retireCurrentAfterStore := dropsCurrent f c })
        hopen 0x18 now
    have hno : ¬RoomBefore c := by
      rintro ⟨hslots, hlimit⟩
      rcases hfull with hall | hmany
      · rw [length_storedIds_of_full hall] at hslots
        exact absurd hslots (lt_irrefl _)
      · rw [hallowed, hsound.count] at hmany
        omega
    constructor
    · intro happlied
      exact .inr (happlied.closes.mp hclosed)
    · intro hcondition
      have hmany := hcondition.resolve_left hno
      exact ⟨iff_of_true hclosed hmany, fun hfew => absurd hmany (not_lt.mpr hfew), hcount'⟩
  | @stored slot _ _ hslot hfree hroom _ hforget =>
    subst hr
    obtain ⟨hforgot, -⟩ := forgetBelow_forgot hforget
    have hperm := storedState_perm (f := f) (dropsCurrent f c) hslot hfree
    have hroom' : RoomBefore c := by
      refine ⟨?_, ?_⟩
      · have hlen := hperm.length_eq
        have hmax := length_storedIds_le (storedState f slot (dropsCurrent f c) c)
        rw [hlen, List.length_cons] at hmax
        exact hmax
      · rw [hallowed, hsound.count] at hroom
        omega
    have hfew : ¬idLimit c < activeAfter R f c :=
      not_lt.mpr ((activeAfter_le R f c).trans hroom'.2)
    have hopen' : ¬c'.ClosedForIds := by
      intro hclosed
      have hbefore : c.ClosedForIds := by
        have hstored := hforgot.limit hclosed
        unfold Connection.ClosedForIds at hstored
        rw [(storedState_kept f slot _ c).2.2] at hstored
        exact hstored
      simp [quicConnectionIsClosed, quicCloseIsClosed, hbefore.1] at hopen
    refine iff_of_true ⟨iff_of_false hopen' hfew, ?_, hcount'⟩ (.inl hroom')
    intro _
    exact hforgot.spared _ (hperm.mem_iff.mpr List.mem_cons_self) (not_lt.mpr hle)

/-- With a limit of two, the second ID is refused although it retires the first and the
handshake's. -/
theorem rotation_refused_at_limit :
    ∃ c c', IdRun steadyEnv (fun _ _ _ => True) 0 c ∧ quicConnectionIsClosed c = false ∧
      (∀ e ∈ c.storedIds, e.sequence ≠ 2) ∧
      handleNewConnectionId steadyEnv 2 (issueOf 2 2) 0 c = some (c', .ok) ∧
      c'.ClosedForIds ∧ activeAfter 0 (issueOf 2 2) c = 1 ∧ idLimit c = 2 ∧
      ¬LimitApplied 0 (issueOf 2 2) c c' := by
  have hstart : IdRun steadyEnv (fun _ _ _ => True) 0 _ :=
    .start (show quicConnectionInit serverConfig = .ok _ from rfl)
  have hfirst : IdRun steadyEnv (fun _ _ _ => True) 0 _ := hstart.frame trivial
    (show handleNewConnectionId steadyEnv 2 (issueOf 1 0) 0 _ = some (_, .ok) from rfl)
  have hused : IdRun steadyEnv (fun _ _ _ => True) 0 _ := hfirst.useNew
    (show quicConnectionUseNewConnectionId steadyEnv 2 0 _ = some (_, .ok) from rfl)
  refine ⟨_, _, hused, rfl, by decide, rfl, ⟨rfl, rfl⟩, by decide, rfl, ?_⟩
  intro happlied
  exact absurd (happlied.closes.mp ⟨rfl, rfl⟩) (by decide)

/-- With a limit of four, the second ID is stored. -/
theorem limit_applied_with_room :
    ∃ c c', handleNewConnectionId steadyEnv 2 (issueOf 2 2) 0 c = some (c', .ok) ∧
      RoomBefore c ∧ LimitApplied 0 (issueOf 2 2) c c' := by
  have hstart : IdRun steadyEnv (fun _ _ _ => True) 0 _ :=
    .start (show quicConnectionInit roomyConfig = .ok _ from rfl)
  have hkeyed : IdRun steadyEnv (fun _ _ _ => True) 0 { keyedServer with config := roomyConfig } :=
    hstart.other rfl rfl rfl
  have hfirst : IdRun steadyEnv (fun _ _ _ => True) 0 _ := hkeyed.frame trivial
    (show handleNewConnectionId steadyEnv 2 (issueOf 1 0) 0 _ = some (_, .ok) from rfl)
  have hiff := handleNewConnectionId_limit_iff hfirst rfl
    (show 1 ≤ (issueOf 2 2).connectionId.length ∧ _ by decide) (by decide) (by decide)
    (show handleNewConnectionId steadyEnv 2 (issueOf 2 2) 0 _ = some (_, .ok) from rfl)
  refine ⟨_, _, ?_, ?_, hiff.mpr ?_⟩
  · rfl
  · exact ⟨by decide, by decide⟩
  · exact .inl ⟨by decide, by decide⟩

end Limit

end WebTransport
