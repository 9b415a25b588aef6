import WebTransport.Quic.Frame

/-!
# The store of connection IDs

The store of `quic/connection_id.c` keeps the IDs that this endpoint issued and those that the peer
issued in one table, and looks them up by sequence number. Both ends count their sequence numbers
from zero, so an ID of one side stands for the ID of the other with the same number, and retiring
the one side's low numbers retires the other's. Entries are never taken out of the table.
-/

namespace WebTransport

/-! ## The store -/

/-- `WT_QUIC_CONNECTION_ID_LIMIT`. -/
def quicConnectionIdLimit : ℕ := 8

/-- One connection ID (`wt_quic_connection_id_t`). -/
structure CidEntry where
  sequence : ℕ
  id : List UInt8
  issued : Bool
  retired : Bool := false
deriving DecidableEq, Repr

/-- The store (`wt_quic_connection_id_store_t`); its count is the length of the table. -/
structure CidStore where
  entries : List CidEntry := []
  retirePriorTo : ℕ := 0
  nextSequence : ℕ := 0
  peerLimit : ℕ
  localLimit : ℕ
deriving DecidableEq, Repr

/-- An empty store (`wt_quic_connection_ids_init`). -/
def quicConnectionIdsInit (peerLimit localLimit : ℕ) : CidStore where
  peerLimit := if peerLimit < 2 then 2 else peerLimit
  localLimit :=
    let limit := if localLimit < 2 then 2 else localLimit
    if quicConnectionIdLimit < limit then quicConnectionIdLimit else limit

namespace CidStore

/-- The first entry with a sequence number, of either side (`wt_quic_cid_find_sequence`). -/
def findSequence (s : CidStore) (sequence : ℕ) : Option CidEntry :=
  s.entries.find? (·.sequence = sequence)

/-- How many entries are not retired, of both sides (`wt_quic_connection_ids_active`). -/
def active (s : CidStore) : ℕ := s.entries.countP (!·.retired)

/-- How many more IDs this endpoint may issue (`wt_quic_connection_ids_issueable`). -/
def issueable (s : CidStore) : ℕ :=
  let issued := s.entries.countP fun e => e.issued && !e.retired
  if s.peerLimit ≤ issued then 0 else s.peerLimit - issued

/-- Add an ID this endpoint issues (`wt_quic_connection_ids_add_issued`); the sequence number it
gets, when it is added. -/
def addIssued (id : List UInt8) (s : CidStore) : CidStore × Except Status ℕ :=
  if quicMaxConnectionIdLength < id.length then (s, .error .invalidArgument)
  else if quicConnectionIdLimit ≤ s.entries.length then (s, .error .limit)
  else if s.issueable = 0 then (s, .error .limit)
  else
    ({ s with
        entries := s.entries ++ [{ sequence := s.nextSequence, id := id, issued := true }]
        nextSequence := s.nextSequence + 1 }, .ok s.nextSequence)

/-- Retire an entry that is below a number. -/
def retireEntry (threshold : ℕ) (e : CidEntry) : CidEntry :=
  if e.sequence < threshold then { e with retired := true } else e

/-- Retire every entry below a number, or below an earlier one (`wt_quic_cid_retire_below`). -/
def retireBelow (sequence : ℕ) (s : CidStore) : CidStore :=
  let threshold := if s.retirePriorTo < sequence then sequence else s.retirePriorTo
  { s with retirePriorTo := threshold, entries := s.entries.map (retireEntry threshold) }

/-- Add an ID the peer issued (`wt_quic_connection_ids_add_peer`), with the code to close with. -/
def addPeer (sequence retirePriorTo : ℕ) (id : List UInt8) (s : CidStore) :
    CidStore × Status × Option QuicError :=
  if quicMaxConnectionIdLength < id.length then (s, .protocol, some quicProtocolViolation)
  else if sequence < retirePriorTo then (s, .protocol, some quicFrameEncodingError)
  else
    let s := s.retireBelow retirePriorTo
    if (s.findSequence sequence).isSome then (s, .ok, none)
    else if s.localLimit ≤ s.active then (s, .limit, some quicConnectionIdLimitError)
    else if quicConnectionIdLimit ≤ s.entries.length then (s, .limit, some quicConnectionIdLimitError)
    else
      ({ s with entries := s.entries ++ [{ sequence := sequence, id := id, issued := false }] },
        .ok, none)

/-- Mark the first entry of a list with a sequence number as retired. -/
def markRetired (sequence : ℕ) : List CidEntry → List CidEntry
  | [] => []
  | e :: entries =>
    if e.sequence = sequence then { e with retired := true } :: entries
    else e :: markRetired sequence entries

/-- The peer retires an ID this endpoint issued (`wt_quic_connection_ids_retire`). -/
def retire (sequence : ℕ) (s : CidStore) : CidStore × Status × Option QuicError :=
  if s.nextSequence ≤ sequence then (s, .protocol, some quicProtocolViolation)
  else ({ s with entries := markRetired sequence s.entries }, .ok, none)

/-- Look an ID up by its bytes (`wt_quic_connection_ids_find`): where it stands, and whether it is
retired. -/
def find (id : List UInt8) (s : CidStore) : Except Status (ℕ × Bool) :=
  if quicMaxConnectionIdLength < id.length then .error .invalidArgument
  else
    match s.entries.findIdx? (·.id = id) with
    | none => .error .closed
    | some i => .ok (i, s.entries[i]?.any (·.retired))

/-- The IDs this endpoint issued. -/
def issuedSide (s : CidStore) : List CidEntry := s.entries.filter (·.issued)

/-- The IDs the peer issued. -/
def peerSide (s : CidStore) : List CidEntry := s.entries.filter (!·.issued)

end CidStore

/-- The operations that change a store. -/
inductive CidOperation
  | addIssued (id : List UInt8)
  | addPeer (sequence retirePriorTo : ℕ) (id : List UInt8)
  | retire (sequence : ℕ)
deriving DecidableEq, Repr

/-- Carry an operation out; its status says whether it was refused. -/
def CidOperation.apply : CidOperation → CidStore → CidStore × Status
  | addIssued id, s =>
    match s.addIssued id with
    | (s, .ok _) => (s, .ok)
    | (s, .error status) => (s, status)
  | addPeer sequence retirePriorTo id, s =>
    let r := s.addPeer sequence retirePriorTo id
    (r.1, r.2.1)
  | retire sequence, s =>
    let r := s.retire sequence
    (r.1, r.2.1)

/-! ## Keeping the sides apart -/

/-- What an operation owes the two sides. It leaves the side it is not about as it was, and does
what it is for on its own: a peer's ID is there when it was accepted, and none that is active is
below what was to be retired; an issued one is retired. It is refused for want of room only when
so many IDs are active. -/
def KeepsApart (s : CidStore) (op : CidOperation) : Prop :=
  let r := op.apply s
  match op with
  | .addIssued _ => r.1.peerSide = s.peerSide ∧
    (r.2 = .limit → s.issueable = 0 ∨ quicConnectionIdLimit ≤ s.active)
  | .addPeer sequence retirePriorTo _ => r.1.issuedSide = s.issuedSide ∧
    (r.2 = .ok → ∃ e ∈ r.1.peerSide, e.sequence = sequence) ∧
    (∀ e ∈ r.1.peerSide, e.retired = false → r.1.retirePriorTo ≤ e.sequence) ∧
    (r.2 = .limit → s.localLimit ≤ (s.retireBelow retirePriorTo).active)
  | .retire sequence => r.1.peerSide = s.peerSide ∧
    (r.2 = .ok → ∀ e ∈ r.1.issuedSide, e.sequence = sequence → e.retired = true)

/-- When an operation can be carried out on both sides in one table. An ID is issued while the
table has room, or when it would be refused anyway. A peer's ID comes with a number that this
endpoint has not issued, retires none of the numbers this endpoint has issued and that are still
active, is not below an earlier `retire_prior_to`, and finds room in the table unless so many are
active. An ID is retired whose number is found on the issued side first. -/
def SidesApart (s : CidStore) : CidOperation → Prop
  | .addIssued id => quicMaxConnectionIdLength < id.length ∨
    s.entries.length < quicConnectionIdLimit ∨ s.issueable = 0 ∨ quicConnectionIdLimit ≤ s.active
  | .addPeer sequence retirePriorTo id => quicMaxConnectionIdLength < id.length ∨
    sequence < retirePriorTo ∨
    (∀ e ∈ s.issuedSide, e.retired = false → max s.retirePriorTo retirePriorTo ≤ e.sequence) ∧
      ((∃ e ∈ s.peerSide, e.sequence = sequence) ∨
        (∀ e ∈ s.issuedSide, e.sequence ≠ sequence) ∧
          (s.localLimit ≤ (s.retireBelow retirePriorTo).active ∨
            s.entries.length < quicConnectionIdLimit ∧ s.retirePriorTo ≤ sequence))
  | .retire sequence => s.nextSequence ≤ sequence ∨
    ∀ e, s.findSequence sequence = some e → e.issued = true ∨
      e.retired = true ∧ ∀ e' ∈ s.issuedSide, e'.sequence = sequence → e'.retired = true

/-- What holds of a store in every state: no number is issued twice, and no active ID of the peer
is below the largest `retire_prior_to`. -/
structure CidStore.Sound (s : CidStore) : Prop where
  nodup : (s.issuedSide.map CidEntry.sequence).Nodup
  next : ∀ e ∈ s.issuedSide, e.sequence < s.nextSequence
  above : ∀ e ∈ s.peerSide, e.retired = false → s.retirePriorTo ≤ e.sequence

section Retiring

variable {s : CidStore} {sequence threshold : ℕ} {e : CidEntry} {l : List CidEntry}

lemma max_eq_threshold (a b : ℕ) : (if a < b then b else a) = max a b := by
  rw [max_comm, max_def]
  split <;> split <;> omega

/-- Retiring by numbers does not move an entry to the other side. -/
lemma filter_map_retireEntry (p : CidEntry → Bool)
    (hp : ∀ e, p (CidStore.retireEntry threshold e) = p e) :
    (l.map (CidStore.retireEntry threshold)).filter p =
      (l.filter p).map (CidStore.retireEntry threshold) := by
  rw [List.filter_map]
  congr 1
  refine List.filter_congr ?_
  intro e _
  exact hp e

@[simp] lemma retireEntry_issued : (CidStore.retireEntry threshold e).issued = e.issued := by
  unfold CidStore.retireEntry
  split <;> rfl

@[simp] lemma retireEntry_sequence : (CidStore.retireEntry threshold e).sequence = e.sequence := by
  unfold CidStore.retireEntry
  split <;> rfl

/-- An entry stays as it is unless it is active and below the number. -/
lemma retireEntry_eq_self :
    CidStore.retireEntry threshold e = e ↔ (e.retired = false → threshold ≤ e.sequence) := by
  obtain ⟨sequence, id, issued, retired⟩ := e
  unfold CidStore.retireEntry
  cases retired with
  | true => simp
  | false => simp

/-- What is active afterwards is not below the number. -/
lemma retireEntry_active (h : (CidStore.retireEntry threshold e).retired = false) :
    threshold ≤ e.sequence := by
  unfold CidStore.retireEntry at h
  split at h
  · cases h
  · rename_i hlt
    exact not_lt.mp hlt

lemma retireBelow_issuedSide :
    (s.retireBelow sequence).issuedSide =
      s.issuedSide.map (CidStore.retireEntry (max s.retirePriorTo sequence)) := by
  unfold CidStore.retireBelow CidStore.issuedSide
  rw [max_eq_threshold]
  exact filter_map_retireEntry (·.issued) fun _ => retireEntry_issued

lemma retireBelow_peerSide :
    (s.retireBelow sequence).peerSide =
      s.peerSide.map (CidStore.retireEntry (max s.retirePriorTo sequence)) := by
  unfold CidStore.retireBelow CidStore.peerSide
  rw [max_eq_threshold]
  refine filter_map_retireEntry (!·.issued) fun e => ?_
  rw [retireEntry_issued]

lemma retireBelow_retirePriorTo (s : CidStore) (sequence : ℕ) :
    (s.retireBelow sequence).retirePriorTo = max s.retirePriorTo sequence := by
  unfold CidStore.retireBelow
  exact max_eq_threshold _ _

/-- A list is its own image when every entry is. -/
lemma map_eq_self_iff (g : CidEntry → CidEntry) : l.map g = l ↔ ∀ e ∈ l, g e = e := by
  induction l with
  | nil => simp
  | cons e l ih => simp [ih]

lemma mem_entries_iff : e ∈ s.entries ↔ e ∈ s.issuedSide ∨ e ∈ s.peerSide := by
  unfold CidStore.issuedSide CidStore.peerSide
  rw [List.mem_filter, List.mem_filter]
  cases e.issued with
  | true => simp
  | false => simp

lemma findSequence_isSome :
    (s.findSequence sequence).isSome = true ↔
      (∃ e ∈ s.issuedSide, e.sequence = sequence) ∨ ∃ e ∈ s.peerSide, e.sequence = sequence := by
  unfold CidStore.findSequence
  rw [List.find?_isSome]
  simp only [decide_eq_true_eq, mem_entries_iff]
  constructor
  · rintro ⟨e, he | he, hseq⟩
    · exact .inl ⟨e, he, hseq⟩
    · exact .inr ⟨e, he, hseq⟩
  · rintro (⟨e, he, hseq⟩ | ⟨e, he, hseq⟩)
    · exact ⟨e, .inl he, hseq⟩
    · exact ⟨e, .inr he, hseq⟩

/-- Marking changes one entry, the first with the number. -/
lemma markRetired_eq {l₁ l₂ : List CidEntry} (h : ∀ e' ∈ l₁, e'.sequence ≠ e.sequence) :
    CidStore.markRetired e.sequence (l₁ ++ e :: l₂) = l₁ ++ { e with retired := true } :: l₂ := by
  induction l₁ with
  | nil => exact if_pos rfl
  | cons e' l₁ ih =>
    have hne : e'.sequence ≠ e.sequence := h e' List.mem_cons_self
    rw [List.cons_append, CidStore.markRetired, if_neg hne, ih fun e'' he'' =>
      h e'' (List.mem_cons_of_mem _ he'')]
    rfl

/-- Marking leaves a list without the number alone. -/
lemma markRetired_of_not_mem (h : ∀ e ∈ l, e.sequence ≠ sequence) :
    CidStore.markRetired sequence l = l := by
  induction l with
  | nil => rfl
  | cons e l ih =>
    rw [CidStore.markRetired, if_neg (h e List.mem_cons_self),
      ih fun e' he' => h e' (List.mem_cons_of_mem _ he')]

/-- The numbers of a side are the same after marking. -/
lemma markRetired_numbers (p : Bool → Bool) :
    ((CidStore.markRetired sequence l).filter (p ·.issued)).map CidEntry.sequence =
      (l.filter (p ·.issued)).map CidEntry.sequence := by
  induction l with
  | nil => rfl
  | cons e l ih =>
    rw [CidStore.markRetired]
    split
    · rw [List.filter_cons, List.filter_cons]
      split <;> rfl
    · rw [List.filter_cons, List.filter_cons]
      split
      · rw [List.map_cons, List.map_cons, ih]
      · exact ih

end Retiring

/-! ## One operation -/

section Operations

variable {s : CidStore} {sequence retirePriorTo : ℕ} {id : List UInt8}

lemma keepsApart_addIssued : KeepsApart s (.addIssued id) ↔ SidesApart s (.addIssued id) := by
  unfold KeepsApart SidesApart CidOperation.apply CidStore.addIssued
  by_cases hlength : quicMaxConnectionIdLength < id.length
  · simp [hlength]
  by_cases hfull : quicConnectionIdLimit ≤ s.entries.length
  · simp only [hlength, hfull, not_lt.mpr hfull, if_false, if_true, forall_const, true_and, false_or]
  by_cases hissue : s.issueable = 0
  · simp [hlength, hfull, hissue]
  · have hside : ({ s with
        entries := s.entries ++ [{ sequence := s.nextSequence, id := id, issued := true }]
        nextSequence := s.nextSequence + 1 } : CidStore).peerSide = s.peerSide := by
      unfold CidStore.peerSide
      rw [List.filter_append]
      simp
    simp only [hlength, hfull, hissue, if_false, hside, true_and, not_le.mp hfull, true_or, or_true,
      iff_true]
    intro h
    cases h

/-- Retiring what is below a number leaves the issued side alone when that is not active there. -/
lemma retireBelow_issuedSide_eq :
    (s.retireBelow retirePriorTo).issuedSide = s.issuedSide ↔
      ∀ e ∈ s.issuedSide, e.retired = false → max s.retirePriorTo retirePriorTo ≤ e.sequence := by
  rw [retireBelow_issuedSide, map_eq_self_iff]
  refine forall₂_congr fun e _ => ?_
  exact retireEntry_eq_self

/-- What is active on the peer's side after retiring is not below the number. -/
lemma retireBelow_above {e : CidEntry} (he : e ∈ (s.retireBelow retirePriorTo).peerSide)
    (hactive : e.retired = false) : (s.retireBelow retirePriorTo).retirePriorTo ≤ e.sequence := by
  rw [retireBelow_peerSide] at he
  obtain ⟨e', -, rfl⟩ := List.mem_map.mp he
  rw [retireBelow_retirePriorTo, retireEntry_sequence]
  exact retireEntry_active hactive

/-- Retiring does not change which numbers a side has. -/
lemma exists_sequence_map {l : List CidEntry} {threshold : ℕ} :
    (∃ e ∈ l.map (CidStore.retireEntry threshold), e.sequence = sequence) ↔
      ∃ e ∈ l, e.sequence = sequence := by
  constructor
  · rintro ⟨e, he, hseq⟩
    obtain ⟨e', he', rfl⟩ := List.mem_map.mp he
    exact ⟨e', he', by rwa [retireEntry_sequence] at hseq⟩
  · rintro ⟨e, he, hseq⟩
    exact ⟨_, List.mem_map_of_mem he, by rwa [retireEntry_sequence]⟩

lemma keepsApart_addPeer (hs : s.Sound) :
    KeepsApart s (.addPeer sequence retirePriorTo id) ↔
      SidesApart s (.addPeer sequence retirePriorTo id) := by
  unfold KeepsApart SidesApart CidOperation.apply CidStore.addPeer
  by_cases hlength : quicMaxConnectionIdLength < id.length
  · simp only [hlength, if_true, true_or, iff_true]
    exact ⟨trivial, nofun, hs.above, nofun⟩
  by_cases hlt : sequence < retirePriorTo
  · simp only [hlength, hlt, if_false, if_true, true_or, or_true, iff_true]
    exact ⟨trivial, nofun, hs.above, nofun⟩
  have hlength' : (s.retireBelow retirePriorTo).entries.length = s.entries.length := by
    unfold CidStore.retireBelow
    rw [List.length_map]
  have hlimit : (s.retireBelow retirePriorTo).localLimit = s.localLimit := rfl
  have hissued : (∃ e ∈ (s.retireBelow retirePriorTo).issuedSide, e.sequence = sequence) ↔
      ∃ e ∈ s.issuedSide, e.sequence = sequence := by
    rw [retireBelow_issuedSide]
    exact exists_sequence_map
  have hpeer : (∃ e ∈ (s.retireBelow retirePriorTo).peerSide, e.sequence = sequence) ↔
      ∃ e ∈ s.peerSide, e.sequence = sequence := by
    rw [retireBelow_peerSide]
    exact exists_sequence_map
  have hsides : (s.retireBelow retirePriorTo).issuedSide = s.issuedSide ↔ _ :=
    retireBelow_issuedSide_eq
  simp only [hlength, hlt, if_false, false_or]
  by_cases hfound : ((s.retireBelow retirePriorTo).findSequence sequence).isSome = true
  · -- The number is known, on this side or on the other.
    rw [if_pos hfound]
    rw [findSequence_isSome, hissued, hpeer] at hfound
    simp only [hsides, hpeer, forall_const]
    constructor
    · rintro ⟨hissuedSide, hknown, -⟩
      exact ⟨hissuedSide, .inl hknown⟩
    · rintro ⟨hissuedSide, hknown | ⟨hnot, -⟩⟩
      · exact ⟨hissuedSide, hknown, fun e he hactive => retireBelow_above he hactive,
          fun h => nomatch h⟩
      · have hknown := hfound.resolve_left (by
          rintro ⟨e, he, hseq⟩
          exact hnot e he hseq)
        exact ⟨hissuedSide, hknown, fun e he hactive => retireBelow_above he hactive,
          fun h => nomatch h⟩
  · rw [if_neg hfound]
    rw [findSequence_isSome, hissued, hpeer, not_or] at hfound
    obtain ⟨hnotIssued, hnotPeer⟩ := hfound
    have hnot : ∀ e ∈ s.issuedSide, e.sequence ≠ sequence := fun e he hseq => hnotIssued ⟨e, he, hseq⟩
    by_cases hmany : (s.retireBelow retirePriorTo).localLimit ≤ (s.retireBelow retirePriorTo).active
    · -- So many are active that the ID is refused.
      rw [if_pos hmany]
      simp only [hsides]
      rw [hlimit] at hmany
      constructor
      · rintro ⟨hissuedSide, -⟩
        exact ⟨hissuedSide, .inr ⟨hnot, .inl hmany⟩⟩
      · rintro ⟨hissuedSide, -⟩
        exact ⟨hissuedSide, nofun, fun e he hactive => retireBelow_above he hactive,
          fun _ => hmany⟩
    · rw [if_neg hmany]
      rw [hlimit] at hmany
      rw [hlength']
      by_cases hfull : quicConnectionIdLimit ≤ s.entries.length
      · -- The table is full of retired entries.
        rw [if_pos hfull]
        constructor
        · rintro ⟨-, -, -, hrefused⟩
          exact absurd (hrefused rfl) hmany
        · rintro ⟨-, hknown | ⟨-, hroom | ⟨hroom, -⟩⟩⟩
          · exact absurd hknown hnotPeer
          · exact absurd hroom hmany
          · exact absurd hfull (not_le.mpr hroom)
      · rw [if_neg hfull]
        have hissuedSide : ({ s.retireBelow retirePriorTo with
            entries := (s.retireBelow retirePriorTo).entries ++
              [{ sequence := sequence, id := id, issued := false }] } : CidStore).issuedSide =
            (s.retireBelow retirePriorTo).issuedSide := by
          unfold CidStore.issuedSide
          rw [List.filter_append]
          simp
        have hpeerSide : ({ s.retireBelow retirePriorTo with
            entries := (s.retireBelow retirePriorTo).entries ++
              [{ sequence := sequence, id := id, issued := false }] } : CidStore).peerSide =
            (s.retireBelow retirePriorTo).peerSide ++
              [{ sequence := sequence, id := id, issued := false }] := by
          unfold CidStore.peerSide
          rw [List.filter_append]
          simp
        have hthreshold := retireBelow_retirePriorTo s retirePriorTo
        simp only [hissuedSide, hsides, hpeerSide]
        constructor
        · rintro ⟨happart, -, habove, -⟩
          have hnew := habove _ (List.mem_append_right _ (List.mem_singleton_self _)) rfl
          rw [hthreshold] at hnew
          exact ⟨happart, .inr ⟨hnot, .inr ⟨not_le.mp hfull, (le_max_left _ _).trans hnew⟩⟩⟩
        · rintro ⟨happart, hknown | ⟨-, hroom | ⟨-, hfresh⟩⟩⟩
          · exact absurd hknown hnotPeer
          · exact absurd hroom hmany
          · refine ⟨happart, fun _ => ⟨_, List.mem_append_right _ (List.mem_singleton_self _), rfl⟩,
              ?_, fun h => nomatch h⟩
            intro e he hactive
            rcases List.mem_append.mp he with he | he
            · exact retireBelow_above he hactive
            · obtain rfl := List.mem_singleton.mp he
              rw [hthreshold]
              exact max_le hfresh (not_lt.mp hlt)

/-- The table around the first entry with a number, before and after that entry is retired. -/
lemma exists_split_of_findSequence {e : CidEntry} (h : s.findSequence sequence = some e) :
    ∃ l₁ l₂, s.entries = l₁ ++ e :: l₂ ∧ e.sequence = sequence ∧
      (∀ e' ∈ l₁, e'.sequence ≠ sequence) ∧
      CidStore.markRetired sequence s.entries = l₁ ++ { e with retired := true } :: l₂ := by
  unfold CidStore.findSequence at h
  obtain ⟨hseq, l₁, l₂, hsplit, hbefore⟩ := List.find?_eq_some_iff_append.mp h
  have hseq : e.sequence = sequence := of_decide_eq_true hseq
  subst hseq
  have hbefore : ∀ e' ∈ l₁, e'.sequence ≠ e.sequence := by
    intro e' he'
    simpa using hbefore e' he'
  refine ⟨l₁, l₂, hsplit, rfl, hbefore, ?_⟩
  rw [hsplit]
  exact markRetired_eq hbefore

lemma keepsApart_retire (hs : s.Sound) :
    KeepsApart s (.retire sequence) ↔ SidesApart s (.retire sequence) := by
  unfold KeepsApart SidesApart CidOperation.apply CidStore.retire
  by_cases hnext : s.nextSequence ≤ sequence
  · simp only [hnext, if_true, true_or, iff_true]
    exact ⟨trivial, nofun⟩
  simp only [hnext, if_false, false_or, forall_const]
  rcases hfind : s.findSequence sequence with - | e
  · -- Neither side has the number.
    have hnone : ∀ e ∈ s.entries, e.sequence ≠ sequence := by
      intro e he
      have := List.find?_eq_none.mp hfind e he
      simpa using this
    have hsame : ({ s with entries := CidStore.markRetired sequence s.entries } : CidStore) = s := by
      rw [markRetired_of_not_mem hnone]
    rw [hsame]
    refine ⟨fun _ => nofun, fun _ => ⟨rfl, ?_⟩⟩
    intro e he hseq
    exact absurd hseq (hnone e (mem_entries_iff.mpr (.inl he)))
  · obtain ⟨l₁, l₂, hsplit, hseq, hbefore, hmarked⟩ := exists_split_of_findSequence hfind
    have hnodup := hs.nodup
    unfold CidStore.issuedSide CidStore.peerSide
    simp only [hmarked]
    unfold CidStore.issuedSide at hnodup
    rw [hsplit] at hnodup ⊢
    simp only [List.filter_append, List.filter_cons] at hnodup ⊢
    cases hissued : e.issued with
    | true =>
      -- The entry is one of this endpoint's, and no other of them has its number.
      simp only [hissued, Bool.not_true, Bool.false_eq_true, if_true, if_false, List.map_append,
        List.map_cons, List.nodup_append, List.nodup_cons, true_and, Option.some.injEq,
        forall_eq', true_or, iff_true] at hnodup ⊢
      intro e' he' hseq'
      rcases List.mem_append.mp he' with he' | he'
      · exact absurd hseq' (hbefore e' (List.mem_of_mem_filter he'))
      rcases List.mem_cons.mp he' with rfl | he'
      · rfl
      · have htwice : e'.sequence ∈ (l₂.filter (·.issued)).map CidEntry.sequence :=
          List.mem_map_of_mem he'
        rw [hseq', ← hseq] at htwice
        exact absurd htwice hnodup.2.1.1
    | false =>
      -- The entry is the peer's: it may not change, so it must be retired already.
      simp only [hissued, Bool.not_false, Bool.false_eq_true, if_true, if_false,
        List.append_cancel_left_eq, List.cons.injEq, and_true, Option.some.injEq, forall_eq',
        false_or]
      refine and_congr_left fun _ => ?_
      constructor
      · intro h
        rw [← h]
      · intro h
        obtain ⟨sequence', id, issued, retired⟩ := e
        obtain rfl : retired = true := h
        obtain rfl : issued = false := hissued
        rfl

/-- An operation keeps the sides apart exactly when it can. -/
lemma keepsApart_iff (hs : s.Sound) (op : CidOperation) : KeepsApart s op ↔ SidesApart s op := by
  cases op with
  | addIssued id => exact keepsApart_addIssued
  | addPeer sequence retirePriorTo id => exact keepsApart_addPeer hs
  | retire sequence => exact keepsApart_retire hs

end Operations

/-! ## Every run -/

section Runs

variable {s : CidStore} {op : CidOperation}

lemma addPeer_nextSequence (s : CidStore) (sequence retirePriorTo : ℕ) (id : List UInt8) :
    (s.addPeer sequence retirePriorTo id).1.nextSequence = s.nextSequence := by
  unfold CidStore.addPeer
  dsimp only
  split_ifs <;> rfl

lemma CidStore.Sound.addIssued (hs : s.Sound) (id : List UInt8) : (s.addIssued id).1.Sound := by
  unfold CidStore.addIssued
  split_ifs
  · exact hs
  · exact hs
  · exact hs
  · have hissued : ({ s with
        entries := s.entries ++ [{ sequence := s.nextSequence, id := id, issued := true }]
        nextSequence := s.nextSequence + 1 } : CidStore).issuedSide =
        s.issuedSide ++ [{ sequence := s.nextSequence, id := id, issued := true }] := by
      unfold CidStore.issuedSide
      rw [List.filter_append]
      simp
    have hpeer : ({ s with
        entries := s.entries ++ [{ sequence := s.nextSequence, id := id, issued := true }]
        nextSequence := s.nextSequence + 1 } : CidStore).peerSide = s.peerSide := by
      unfold CidStore.peerSide
      rw [List.filter_append]
      simp
    constructor
    · rw [hissued, List.map_append, List.nodup_append]
      refine ⟨hs.nodup, List.nodup_singleton _, ?_⟩
      intro n hn m hm
      obtain ⟨e, he, rfl⟩ := List.mem_map.mp hn
      obtain rfl : m = s.nextSequence := List.mem_singleton.mp hm
      exact (hs.next e he).ne
    · intro e he
      rw [hissued] at he
      rcases List.mem_append.mp he with he | he
      · exact (hs.next e he).trans (Nat.lt_succ_self _)
      · obtain rfl := List.mem_singleton.mp he
        exact Nat.lt_succ_self _
    · rw [hpeer]
      exact hs.above

lemma CidStore.Sound.addPeer (hs : s.Sound) {sequence retirePriorTo : ℕ} {id : List UInt8}
    (h : KeepsApart s (.addPeer sequence retirePriorTo id)) :
    (s.addPeer sequence retirePriorTo id).1.Sound := by
  obtain ⟨hissued, -, habove, -⟩ := h
  change (s.addPeer sequence retirePriorTo id).1.issuedSide = _ at hissued
  constructor
  · rw [hissued]
    exact hs.nodup
  · rw [hissued, addPeer_nextSequence]
    exact hs.next
  · exact habove

lemma CidStore.Sound.retire (hs : s.Sound) {sequence : ℕ} (h : KeepsApart s (.retire sequence)) :
    (s.retire sequence).1.Sound := by
  obtain ⟨hpeer, -⟩ := h
  change (s.retire sequence).1.peerSide = _ at hpeer
  have hpriorTo : (s.retire sequence).1.retirePriorTo = s.retirePriorTo := by
    unfold CidStore.retire
    split <;> rfl
  have hnext : (s.retire sequence).1.nextSequence = s.nextSequence := by
    unfold CidStore.retire
    split <;> rfl
  have hnumbers : (s.retire sequence).1.issuedSide.map CidEntry.sequence =
      s.issuedSide.map CidEntry.sequence := by
    unfold CidStore.retire CidStore.issuedSide
    split
    · rfl
    · exact markRetired_numbers id
  constructor
  · rw [hnumbers]
    exact hs.nodup
  · intro e he
    have hmem : e.sequence ∈ (s.retire sequence).1.issuedSide.map CidEntry.sequence :=
      List.mem_map_of_mem he
    rw [hnumbers] at hmem
    obtain ⟨e', he', hseq⟩ := List.mem_map.mp hmem
    rw [hnext, ← hseq]
    exact hs.next e' he'
  · rw [hpeer, hpriorTo]
    exact hs.above

/-- One operation that keeps the sides apart leaves a sound store. -/
lemma CidStore.Sound.apply (hs : s.Sound) (h : KeepsApart s op) : (op.apply s).1.Sound := by
  cases op with
  | addIssued id =>
    have hadded := hs.addIssued id
    rcases hadd : s.addIssued id with ⟨s', r⟩
    rw [hadd] at hadded
    simp only [CidOperation.apply, hadd]
    cases r with
    | ok n => exact hadded
    | error status => exact hadded
  | addPeer sequence retirePriorTo id => exact hs.addPeer h
  | retire sequence => exact hs.retire h

/-- The stores that operations meeting a condition lead to. -/
inductive CidRun (Meets : CidStore → CidOperation → Prop) : CidStore → Prop
  | init (peerLimit localLimit : ℕ) : CidRun Meets (quicConnectionIdsInit peerLimit localLimit)
  | step {s : CidStore} (op : CidOperation) : CidRun Meets s → Meets s op →
    CidRun Meets (op.apply s).1

lemma sound_init (peerLimit localLimit : ℕ) :
    (quicConnectionIdsInit peerLimit localLimit).Sound := by
  constructor
  · exact List.nodup_nil
  · exact nofun
  · exact nofun

/-- Every state of a run whose operations can be carried out on both sides is sound. -/
lemma CidRun.sound (h : CidRun SidesApart s) : s.Sound := by
  induction h with
  | init peerLimit localLimit => exact sound_init peerLimit localLimit
  | step op _ hmeets ih => exact ih.apply ((keepsApart_iff ih op).mpr hmeets)

end Runs

/-- In a run whose operations all come with numbers that the other side leaves free, no active ID of
the peer is below the largest `retire_prior_to`, and in each of its states an operation keeps the
sides apart exactly when its numbers are free there too. -/
theorem quic_connection_ids_apart {s : CidStore} (h : CidRun SidesApart s) :
    (∀ e ∈ s.peerSide, e.retired = false → s.retirePriorTo ≤ e.sequence) ∧
      ∀ op, KeepsApart s op ↔ SidesApart s op :=
  ⟨h.sound.above, fun op => keepsApart_iff h.sound op⟩

/-- An ID issued under number 0 and one of the peer's under number 1 live side by side. -/
theorem quic_connection_ids_apart_two :
    (∀ e ∈ ((CidOperation.addPeer 1 0 [2]).apply
        ((CidOperation.addIssued [1]).apply (quicConnectionIdsInit 2 2)).1).1.peerSide,
      e.retired = false → 0 ≤ e.sequence) ∧
      KeepsApart ((CidOperation.addPeer 1 0 [2]).apply
        ((CidOperation.addIssued [1]).apply (quicConnectionIdsInit 2 2)).1).1 (.retire 0) := by
  have hissue : SidesApart (quicConnectionIdsInit 2 2) (.addIssued [1]) := by
    unfold SidesApart
    decide
  have hadd : SidesApart ((CidOperation.addIssued [1]).apply (quicConnectionIdsInit 2 2)).1
      (.addPeer 1 0 [2]) := by
    unfold SidesApart
    decide
  have hrun := ((CidRun.init 2 2).step (.addIssued [1]) hissue).step (.addPeer 1 0 [2]) hadd
  obtain ⟨habove, hiff⟩ := quic_connection_ids_apart hrun
  refine ⟨habove, (hiff _).mpr (.inr ?_)⟩
  intro e he
  obtain rfl : ({ sequence := 0, id := [1], issued := true } : CidEntry) = e := Option.some.inj he
  exact .inl rfl

/-- This endpoint has issued one ID. The peer's first ID has the same number and is accepted without
being stored; its second one, which retires the peer's first, retires the one issued here. -/
theorem quic_connection_ids_mixed :
    let s := ((CidOperation.addIssued [1]).apply (quicConnectionIdsInit 2 2)).1
    CidRun (fun _ _ => True) s ∧
      (¬ KeepsApart s (.addPeer 0 0 [2]) ∧ ((CidOperation.addPeer 0 0 [2]).apply s).2 = .ok ∧
        ((CidOperation.addPeer 0 0 [2]).apply s).1.peerSide = []) ∧
      ¬ KeepsApart s (.addPeer 1 1 [2]) ∧ ((CidOperation.addPeer 1 1 [2]).apply s).2 = .ok ∧
        ((CidOperation.addPeer 1 1 [2]).apply s).1.issuedSide =
          [{ sequence := 0, id := [1], issued := true, retired := true }] := by
  refine ⟨.step _ (.init 2 2) trivial, ⟨?_, by decide, by decide⟩, ?_, by decide, by decide⟩
  · rintro ⟨-, hstored, -⟩
    revert hstored
    decide
  · rintro ⟨hissued, -⟩
    revert hissued
    decide

end WebTransport
