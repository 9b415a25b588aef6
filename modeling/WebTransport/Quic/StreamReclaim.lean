import WebTransport.Quic.StreamTable

/-!
# Room in a full table

A full table makes room for a new stream by forgetting the streams that are complete, and
`wt_quic_stream_complete` asks for both halves, also of a stream that has only one. A send half
counts as over once its end was sent, acknowledged or not.
-/

namespace WebTransport

/-- Whether this endpoint sends on the stream. -/
def Stream.hasSendHalf (stream : Stream) : Bool := stream.bidirectional || stream.initiatedByUs

/-- Whether the peer sends on the stream. -/
def Stream.hasRecvHalf (stream : Stream) : Bool := stream.bidirectional || !stream.initiatedByUs

/-- Every half that the stream has is over. -/
def Stream.HalvesFinished (stream : Stream) : Prop :=
  (stream.hasSendHalf = true → quicStreamSendFinished stream = true) ∧
    (stream.hasRecvHalf = true → quicStreamRecvFinished stream = true)

instance (stream : Stream) : Decidable stream.HalvesFinished :=
  inferInstanceAs (Decidable (_ ∧ _))

/-- The peer has acknowledged what the send half of the stream carried. -/
def Stream.SendAcknowledged (stream : Stream) : Prop :=
  stream.sendState = .dataRecvd ∨ stream.sendState = .resetRecvd

instance (stream : Stream) : Decidable stream.SendAcknowledged :=
  inferInstanceAs (Decidable (_ ∨ _))

variable {table : StreamTable} {streamId limit : ℕ} {ours : Bool} {stream : Stream}

/-- A stream with two halves is complete when both are over. -/
lemma complete_of_halvesFinished (hbidi : stream.bidirectional = true)
    (h : stream.HalvesFinished) : quicStreamComplete stream = true := by
  have hsend := h.1 (by simp [Stream.hasSendHalf, hbidi])
  have hrecv := h.2 (by simp [Stream.hasRecvHalf, hbidi])
  simp [quicStreamComplete, hsend, hrecv]

/-- A complete stream has no half that is not over. -/
lemma halvesFinished_of_complete (h : quicStreamComplete stream = true) : stream.HalvesFinished := by
  obtain ⟨hsend, hrecv⟩ := Bool.and_eq_true_iff.mp h
  exact ⟨fun _ => hsend, fun _ => hrecv⟩

/-- A used slot holds a complete stream exactly when the stream says so. -/
lemma slotComplete_of_slot {i : ℕ} (h : table.slots i = some stream) :
    slotComplete table i = quicStreamComplete stream := by
  simp [slotComplete, h]

/-- A full table has room exactly when one of its streams is complete. -/
lemma hasRoom_of_full (hfull : ∀ i < quicStreamTableMax, table.slots i ≠ none) :
    table.HasRoom ↔ ∃ stream ∈ table.streams, quicStreamComplete stream = true := by
  constructor
  · rintro (⟨i, hi, hfree⟩ | ⟨i, hi, hcomplete⟩)
    · exact absurd hfree (hfull i hi)
    · obtain ⟨stream, hslot⟩ := Option.ne_none_iff_exists'.mp (hfull i hi)
      rw [slotComplete_of_slot hslot] at hcomplete
      exact ⟨stream, SlotTable.mem_entries.mpr ⟨i, hi, hslot⟩, hcomplete⟩
  · rintro ⟨stream, hmem, hcomplete⟩
    obtain ⟨i, hi, hslot⟩ := SlotTable.mem_entries.mp hmem
    exact .inr ⟨i, hi, (slotComplete_of_slot hslot).trans hcomplete⟩

/-- A full table is swept before a stream is put into it. -/
lemma sweptTable_of_used (hfull : ∀ i < quicStreamTableMax, table.slots i ≠ none) :
    sweptTable table = reclaimComplete table := by
  unfold sweptTable
  rw [freeStreamSlot_eq_none.mpr hfull]
  rfl

/-- A stream outlives a sweep exactly when it is not complete. -/
lemma mem_streams_reclaimed :
    stream ∈ (reclaimComplete table).streams ↔
      stream ∈ table.streams ∧ quicStreamComplete stream = false := by
  unfold StreamTable.streams
  rw [SlotTable.mem_entries, SlotTable.mem_entries]
  constructor
  · rintro ⟨i, hi, hslot⟩
    by_cases hcomplete : slotComplete table i = true
    · simp [reclaimComplete, hcomplete] at hslot
    · have hkept : table.slots i = some stream := by
        simpa [reclaimComplete, hcomplete] using hslot
      refine ⟨⟨i, hi, hkept⟩, ?_⟩
      rw [slotComplete_of_slot hkept] at hcomplete
      exact Bool.eq_false_iff.mpr hcomplete
  · rintro ⟨⟨i, hi, hslot⟩, hcomplete⟩
    refine ⟨i, hi, ?_⟩
    have hkept : slotComplete table i = false := (slotComplete_of_slot hslot).trans hcomplete
    simp [reclaimComplete, hkept, hslot]

/-- The streams after one was put into a free slot. -/
lemma StreamTable.mem_streams_openedAt {slot : ℕ} (hslot : slot < quicStreamTableMax)
    (hfree : table.slots slot = none) :
    stream ∈ (table.openedAt slot streamId ours).streams ↔
      stream = quicStreamInit streamId ours (quicStreamIdIsBidirectional streamId) 0 0 ∨
        stream ∈ table.streams := by
  unfold StreamTable.streams StreamTable.openedAt
  rw [StreamTable.countOpened_slots, (SlotTable.entries_fill hslot hfree).mem_iff, List.mem_cons]

section Full

variable (hfull : ∀ i < quicStreamTableMax, table.slots i ≠ none) (hnew : streamId ∉ table.ids)
  (hlimit : table.opened ours (quicStreamIdIsBidirectional streamId) < limit)
include hfull hnew hlimit

/-- A full table takes a new stream within its limit exactly when one of its streams is
complete. -/
theorem open_ok_of_full :
    (quicStreamTableOpen table streamId ours limit).2 = .ok ↔
      ∃ stream ∈ table.streams, quicStreamComplete stream = true := by
  rw [← hasRoom_of_full hfull]
  have hend := quicStreamTableOpen_end table streamId ours limit
  generalize quicStreamTableOpen table streamId ours limit = r at hend
  cases hend with
  | refused h hsame hwhy =>
    constructor
    · exact fun hok => absurd hok h
    · intro hroom
      rcases hwhy with hwhy | hwhy | hwhy
      · exact absurd hwhy hnew
      · exact absurd hlimit (not_lt.mpr hwhy)
      · exact absurd hroom hwhy
  | opened hnew hlimit hslot hfree => simp [StreamTable.hasRoom_of_swept hslot hfree]

/-- The streams a full table forgets for a new one are those that are complete. -/
theorem forgotten_of_full (hmem : stream ∈ table.streams) :
    stream ∉ (quicStreamTableOpen table streamId ours limit).1.streams ↔
      quicStreamComplete stream = true := by
  have hfresh : ¬stream = quicStreamInit streamId ours (quicStreamIdIsBidirectional streamId) 0 0 := by
    rintro rfl
    exact hnew (List.mem_map.mpr ⟨_, hmem, rfl⟩)
  have hkept : stream ∈ (reclaimComplete table).streams ↔ quicStreamComplete stream = false := by
    rw [mem_streams_reclaimed]
    exact and_iff_right hmem
  have hunknown : ¬(tableSlot table streamId).isSome = true := by
    rwa [← StreamTable.mem_ids]
  rw [quicStreamTableOpen_eq, if_neg hunknown, if_neg (not_le.mpr hlimit),
    sweptTable_of_used hfull, ← Bool.not_eq_false, ← hkept]
  split
  · rfl
  · rename_i slot hslot
    obtain ⟨hlt, hfree⟩ := freeStreamSlot_eq_some hslot
    rw [StreamTable.mem_streams_openedAt hlt hfree, or_iff_right hfresh]

/-- A full table takes a new stream whenever one of its streams has finished every half it has,
and forgets only acknowledged streams for it, exactly when no unidirectional stream has finished
its one half unless another stream is complete, and all complete streams are acknowledged. -/
theorem full_table_reclaims_iff :
    (((∃ stream ∈ table.streams, stream.HalvesFinished) →
          (quicStreamTableOpen table streamId ours limit).2 = .ok) ∧
        ∀ stream ∈ table.streams,
          stream ∉ (quicStreamTableOpen table streamId ours limit).1.streams →
            stream.hasSendHalf = true → stream.SendAcknowledged) ↔
      ((∀ stream ∈ table.streams, stream.bidirectional = false → ¬stream.HalvesFinished) ∨
          ∃ stream ∈ table.streams, quicStreamComplete stream = true) ∧
        ∀ stream ∈ table.streams, quicStreamComplete stream = true →
          stream.hasSendHalf = true → stream.SendAcknowledged := by
  rw [open_ok_of_full hfull hnew hlimit]
  refine and_congr ?_ ?_
  · constructor
    · intro h
      by_cases hcomplete : ∃ stream ∈ table.streams, quicStreamComplete stream = true
      · exact .inr hcomplete
      · exact .inl fun stream hmem _ hfinished => hcomplete (h ⟨stream, hmem, hfinished⟩)
    · rintro (hone | hcomplete) ⟨stream, hmem, hfinished⟩
      · cases hbidi : stream.bidirectional with
        | true => exact ⟨stream, hmem, complete_of_halvesFinished hbidi hfinished⟩
        | false => exact absurd hfinished (hone stream hmem hbidi)
      · exact hcomplete
  · refine forall₂_congr fun stream hmem => ?_
    rw [forgotten_of_full hfull hnew hlimit hmem]

end Full

/-! ## Full tables -/

/-- A table in which the peer has opened streams, each with work done on it. -/
def tableOf (work : Stream → Stream) (ids : List ℕ) : StreamTable :=
  ids.foldl (fun table streamId =>
    let table := (quicStreamTableOpen table streamId false 64).1
    match quicStreamTableFind table streamId with
    | none => table
    | some stream => table.setStream (work stream)) {}

/-- The peer cancelled the stream and the layer above has been told. -/
def receivedReset (stream : Stream) : Stream :=
  (quicStreamOnResetRead (quicStreamOnResetReceived stream 7 0).1).1

/-- The end of the stream was sent, and nothing is acknowledged. -/
def sentFin (stream : Stream) : Stream :=
  match quicStreamOnFinSent stream with
  | .ok stream => stream
  | .error _ => stream

/-- The numbers of the first streams of a class. -/
def firstIds (low : ℕ) : List ℕ := (List.range quicStreamTableMax).map fun k => 4 * k + low

/-- Bidirectional streams of the peer that are over on both sides and acknowledged. -/
def doneTable : StreamTable :=
  tableOf (fun stream => quicStreamOnAck (sentFin (receivedReset stream)) 0) (firstIds 0)

/-- A table full of acknowledged streams takes another. -/
theorem acknowledged_streams_reclaimed :
    (quicStreamTableOpen doneTable 128 false 64).2 = .ok := by
  have hdone : ∀ stream ∈ doneTable.streams, quicStreamComplete stream = true ∧
      stream.SendAcknowledged := by decide +kernel
  have hsome : ∃ stream ∈ doneTable.streams, quicStreamComplete stream = true := by decide +kernel
  obtain ⟨stream, hmem, hcomplete⟩ := hsome
  exact ((full_table_reclaims_iff (by decide +kernel) (by decide +kernel) (by decide +kernel)).mpr
    ⟨.inr ⟨stream, hmem, hcomplete⟩, fun stream hmem _ _ => (hdone stream hmem).2⟩).1
    ⟨stream, hmem, halvesFinished_of_complete hcomplete⟩

/-- The peer's unidirectional streams, all of them over. -/
def oneWayTable : StreamTable := tableOf receivedReset (firstIds 2)

/-- Bidirectional streams whose end was sent and not acknowledged. -/
def unacknowledgedTable : StreamTable :=
  tableOf (fun stream => sentFin (receivedReset stream)) (firstIds 0)

/-- A table full of finished unidirectional streams refuses another one, and a table full of
streams that are not acknowledged forgets them. -/
theorem full_table_reclaims_wrongly :
    (oneWayTable.streams.length = quicStreamTableMax ∧
        (∀ stream ∈ oneWayTable.streams, stream.HalvesFinished) ∧
        (quicStreamTableOpen oneWayTable 130 false 64).2 = .limit) ∧
      (∀ stream ∈ unacknowledgedTable.streams,
        stream.hasSendHalf = true ∧ ¬stream.SendAcknowledged) ∧
      (quicStreamTableOpen unacknowledgedTable 128 false 64).1.ids = [128] := by
  decide +kernel

end WebTransport
