import WebTransport.Core.Status
import WebTransport.Lib.KeyedList

/-!
# Streams that are early

A stream can arrive before the session it names. What arrives of it is held in a table of fixed
size until the session is known (`webtransport/buffered.c`); then every stream of the session is
delivered and the others are dropped. A stream is rejected when the table is full or a piece does
not fit. Its record goes with it, and the caller, who resets the stream, parks no more of it.
-/

namespace WebTransport

/-- `WT_WEBTRANSPORT_BUFFERED_STREAMS_MAX`. -/
def bufferedStreamsMax : ℕ := 4

/-- `WT_WEBTRANSPORT_BUFFERED_STREAM_BYTES_MAX`. -/
def bufferedStreamBytesMax : ℕ := 1024

/-- A parked stream (`wt_webtransport_buffered_stream_t`). -/
structure BufferedStream where
  streamId : ℕ
  sessionId : ℕ
  unidirectional : Bool
  bytes : List UInt8
deriving DecidableEq, Repr

/-- The streams that are held (`wt_webtransport_buffered_t`), and what was rejected. -/
structure Buffered where
  streams : List BufferedStream
  streamsRejected : ℕ
  lastRejectedStreamId : ℕ
deriving DecidableEq, Repr

def bufferedInit : Buffered where
  streams              := []
  streamsRejected      := 0
  lastRejectedStreamId := 0

/-- Drop one parked stream, keeping the order of the rest (`drop_stream`). -/
def bufferedDropStream (buffer : Buffered) (index : ℕ) : Buffered :=
  { buffer with streams := buffer.streams.eraseIdx index }

/-- The one place that records a rejection (`reject_stream`). -/
def bufferedRejectStream (buffer : Buffered) (streamId : ℕ) : Buffered × Status :=
  ({ buffer with
      streamsRejected := buffer.streamsRejected + 1
      lastRejectedStreamId := streamId }, .limit)

/-- The bytes of a stream that are held already. -/
def Buffered.heldBytes (buffer : Buffered) (index : ℕ) : ℕ :=
  ((buffer.streams[index]?).map fun parked => parked.bytes.length).getD 0

/-- Park one piece of a stream. -/
def bufferedParkStream (buffer : Buffered) (streamId sessionId : ℕ) (unidirectional : Bool)
    (data : List UInt8) : Buffered × Status :=
  match buffer.streams.findIdx? (fun parked => parked.streamId = streamId) with
  | none =>
    if buffer.streams.length ≥ bufferedStreamsMax then bufferedRejectStream buffer streamId
    else if data.length > bufferedStreamBytesMax then bufferedRejectStream buffer streamId
    else
      ({ buffer with
          streams := buffer.streams ++ [⟨streamId, sessionId, unidirectional, data⟩] }, .ok)
  | some index =>
    if data.length > bufferedStreamBytesMax - buffer.heldBytes index then
      -- The whole stream is rejected, with what was held of it.
      bufferedRejectStream (bufferedDropStream buffer index) streamId
    else
      ({ buffer with
          streams := buffer.streams.modify index fun parked =>
            { parked with bytes := parked.bytes ++ data } }, .ok)

/-- The callback that streams are delivered through (`wt_webtransport_buffered_stream_fn`): it gets
the stream's ID, whether it is unidirectional and its bytes. -/
abbrev BufferedStreamFn (κ : Type) := κ → ℕ → Bool → List UInt8 → κ × Status

/-- A parked stream is given to the callback. -/
def BufferedStream.deliver {κ : Type} (parked : BufferedStream) (f : BufferedStreamFn κ) (k : κ) :
    κ × Status :=
  f k parked.streamId parked.unidirectional parked.bytes

/-- What a drain did: the context of the callback, the counts and the status. -/
structure BufferedDrained (κ : Type) where
  context : κ
  delivered : ℕ
  dropped : ℕ
  status : Status
deriving DecidableEq, Repr

/-- The loop of the drain. -/
def bufferedDrainLoop {κ : Type} (sessionId : ℕ) (deliver : Option (BufferedStreamFn κ)) :
    List BufferedStream → κ → ℕ → ℕ → BufferedDrained κ
  | [], k, delivered, dropped => ⟨k, delivered, dropped, .ok⟩
  | parked :: rest, k, delivered, dropped =>
    if parked.sessionId ≠ sessionId then
      bufferedDrainLoop sessionId deliver rest k delivered (dropped + 1)
    else
      match deliver with
      | none => bufferedDrainLoop sessionId deliver rest k (delivered + 1) dropped
      | some f =>
        -- A refusal stops the drain, and the stream that was refused does not count.
        if (parked.deliver f k).2 ≠ .ok then
          ⟨(parked.deliver f k).1, delivered, dropped, (parked.deliver f k).2⟩
        else bufferedDrainLoop sessionId deliver rest (parked.deliver f k).1 (delivered + 1) dropped

/-- Resolve the parked streams against the session that is known now. -/
def bufferedDrainStreams {κ : Type} (buffer : Buffered) (sessionId : ℕ)
    (deliver : Option (BufferedStreamFn κ)) (k : κ) : Buffered × BufferedDrained κ :=
  ({ buffer with streams := [] }, bufferedDrainLoop sessionId deliver buffer.streams k 0 0)

/-! ## Delivering -/

section Deliver

variable {κ : Type}

/-- Streams given to a callback one after another, until it refuses one: the context, how many were
accepted and the status. -/
def deliverEach (deliver : Option (BufferedStreamFn κ)) :
    κ → List BufferedStream → κ × ℕ × Status
  | k, [] => (k, 0, .ok)
  | k, stream :: streams =>
    match deliver with
    | none =>
      let r := deliverEach deliver k streams
      (r.1, r.2.1 + 1, r.2.2)
    | some f =>
      if (stream.deliver f k).2 ≠ .ok then ((stream.deliver f k).1, 0, (stream.deliver f k).2)
      else
        let r := deliverEach deliver (stream.deliver f k).1 streams
        (r.1, r.2.1 + 1, r.2.2)

/-- A drain that has counted some streams gives more to the callback: `offered` of the `all` that it
has still to go through. -/
structure BufferedDrained.Gives (drained : BufferedDrained κ) (r : κ × ℕ × Status)
    (delivered dropped offered all : ℕ) : Prop where
  context : drained.context = r.1
  delivered : drained.delivered = delivered + r.2.1
  status : drained.status = r.2.2
  counts : r.2.2 = .ok → r.2.1 = offered ∧ drained.dropped + offered = dropped + all

/-- The drain gives the streams of its session to the callback, in their order. -/
lemma bufferedDrainLoop_gives (sessionId : ℕ) (deliver : Option (BufferedStreamFn κ))
    (streams : List BufferedStream) (k : κ) (delivered dropped : ℕ) :
    (bufferedDrainLoop sessionId deliver streams k delivered dropped).Gives
      (deliverEach deliver k (streams.filter fun stream => stream.sessionId = sessionId))
      delivered dropped (streams.filter fun stream => stream.sessionId = sessionId).length
      streams.length := by
  induction streams generalizing k delivered dropped with
  | nil => exact ⟨rfl, rfl, rfl, fun _ => ⟨rfl, rfl⟩⟩
  | cons stream streams ih =>
    rw [bufferedDrainLoop.eq_def]
    by_cases hother : stream.sessionId ≠ sessionId
    · rw [List.filter_cons_of_neg (by simpa using hother)]
      dsimp only
      rw [if_pos hother]
      have htail := ih k delivered (dropped + 1)
      refine ⟨htail.context, htail.delivered, htail.status, fun hok => ?_⟩
      have := htail.counts hok
      rw [List.length_cons]
      omega
    · rw [List.filter_cons_of_pos (by simpa using hother)]
      dsimp only
      rw [if_neg hother]
      cases deliver with
      | none =>
        have htail := ih k (delivered + 1) dropped
        refine ⟨htail.context, ?_, htail.status, fun hok => ?_⟩
        · rw [htail.delivered, deliverEach]
          dsimp only
          omega
        · have := htail.counts hok
          simp only [deliverEach, List.length_cons]
          omega
      | some f =>
        by_cases hrefused : (stream.deliver f k).2 ≠ .ok
        · have hgiven : deliverEach (some f) k
              (stream :: streams.filter fun s => s.sessionId = sessionId) =
              ((stream.deliver f k).1, 0, (stream.deliver f k).2) := by
            rw [deliverEach]
            exact if_pos hrefused
          rw [hgiven]
          dsimp only
          rw [if_pos hrefused]
          exact ⟨rfl, rfl, rfl, fun hok => absurd hok hrefused⟩
        · dsimp only
          rw [if_neg hrefused]
          have htail := ih (stream.deliver f k).1 (delivered + 1) dropped
          have hgiven : deliverEach (some f) k
              (stream :: streams.filter fun s => s.sessionId = sessionId) =
              ((deliverEach (some f) (stream.deliver f k).1
                  (streams.filter fun s => s.sessionId = sessionId)).1,
                (deliverEach (some f) (stream.deliver f k).1
                  (streams.filter fun s => s.sessionId = sessionId)).2.1 + 1,
                (deliverEach (some f) (stream.deliver f k).1
                  (streams.filter fun s => s.sessionId = sessionId)).2.2) := by
            rw [deliverEach]
            exact if_neg hrefused
          rw [hgiven]
          refine ⟨htail.context, ?_, htail.status, fun hok => ?_⟩
          · rw [htail.delivered]
            dsimp only
            omega
          · have := htail.counts hok
            simp only [List.length_cons]
            omega

end Deliver

/-! ## Parking -/

/-- A call that parks one piece of a stream. -/
structure ParkCall where
  streamId : ℕ
  sessionId : ℕ
  unidirectional : Bool
  data : List UInt8
deriving DecidableEq, Repr

/-- One call of a run, with the streams that were rejected so far. -/
def parkStep (r : Buffered × List ℕ) (call : ParkCall) : Buffered × List ℕ :=
  let parked := bufferedParkStream r.1 call.streamId call.sessionId call.unidirectional call.data
  (parked.1, if parked.2 = .ok then r.2 else r.2 ++ [call.streamId])

/-- The table after some calls, and the streams that were rejected. -/
def parkRun (calls : List ParkCall) : Buffered × List ℕ :=
  calls.foldl parkStep (bufferedInit, [])

/-- The caller parks nothing of a stream once one of its pieces was rejected. -/
def Heeded (calls : List ParkCall) : Prop :=
  ∀ before call after, calls = before ++ call :: after → call.streamId ∉ (parkRun before).2

lemma heeded_iff (calls : List ParkCall) :
    Heeded calls ↔
      ∀ i : Fin calls.length, (calls.get i).streamId ∉ (parkRun (calls.take i)).2 := by
  constructor
  · intro h i
    refine h (calls.take i) (calls.get i) (calls.drop (i + 1)) ?_
    rw [List.get_eq_getElem, List.getElem_cons_drop, List.take_append_drop]
  · rintro h before call after rfl
    have := h ⟨before.length, by simp⟩
    simpa using this

instance (calls : List ParkCall) : Decidable (Heeded calls) :=
  decidable_of_iff' _ (heeded_iff calls)

/-- The streams of some calls, in the order of their first pieces. -/
def streamsOf (calls : List ParkCall) : List ℕ :=
  KeyedList.arrivals (calls.map ParkCall.streamId)

/-- A stream with all its pieces: it is for the session that its first piece names. -/
def wholeParkedStream (calls : List ParkCall) (streamId : ℕ) : Option BufferedStream :=
  match calls.filter fun call => call.streamId = streamId with
  | [] => none
  | first :: more =>
    some ⟨streamId, first.sessionId, first.unidirectional,
      (first :: more).flatMap ParkCall.data⟩

/-- The streams of which no piece was rejected, whole and in the order of their first pieces. -/
def wholeStreams (calls : List ParkCall) (rejected : List ℕ) : List BufferedStream :=
  ((streamsOf calls).filter fun streamId => streamId ∉ rejected).filterMap (wholeParkedStream calls)

section Park

variable {calls : List ParkCall} {call : ParkCall} {rejected : List ℕ} {i : ℕ}

lemma parkRun_append (calls : List ParkCall) (call : ParkCall) :
    parkRun (calls ++ [call]) = parkStep (parkRun calls) call := by
  rw [parkRun, List.foldl_append, List.foldl_cons, List.foldl_nil, parkRun]

lemma Heeded.of_append {more : List ParkCall} (h : Heeded (calls ++ more)) : Heeded calls := by
  rintro before call after rfl
  exact h before call (after ++ more) (by rw [List.append_assoc, List.cons_append])

/-- A stream whose pieces are some calls has one of them. -/
lemma wholeParkedStream_ne_none (h : i ∈ calls.map ParkCall.streamId) : wholeParkedStream calls i ≠ none := by
  obtain ⟨call, hcall, rfl⟩ := List.mem_map.mp h
  unfold wholeParkedStream
  cases hpieces : calls.filter fun c => c.streamId = call.streamId with
  | nil =>
    have hmem : call ∈ calls.filter fun c => c.streamId = call.streamId :=
      List.mem_filter.mpr ⟨hcall, decide_eq_true rfl⟩
    rw [hpieces] at hmem
    cases hmem
  | cons first more => exact nofun

lemma wholeParkedStream_streamId {stream : BufferedStream} (h : wholeParkedStream calls i = some stream) :
    stream.streamId = i := by
  unfold wholeParkedStream at h
  split at h
  · cases h
  · cases h
    rfl

lemma wholeParkedStream_append_other (h : call.streamId ≠ i) :
    wholeParkedStream (calls ++ [call]) i = wholeParkedStream calls i := by
  unfold wholeParkedStream
  rw [List.filter_append, List.filter_cons_of_neg (by simpa using h), List.filter_nil,
    List.append_nil]

lemma filter_append_same (calls : List ParkCall) (call : ParkCall) :
    (calls ++ [call]).filter (fun c => c.streamId = call.streamId) =
      calls.filter (fun c => c.streamId = call.streamId) ++ [call] := by
  simp [List.filter_append]

lemma wholeParkedStream_append_new (h : call.streamId ∉ calls.map ParkCall.streamId) :
    wholeParkedStream (calls ++ [call]) call.streamId =
      some ⟨call.streamId, call.sessionId, call.unidirectional, call.data⟩ := by
  have hnone : calls.filter (fun c => c.streamId = call.streamId) = [] := by
    refine List.filter_eq_nil_iff.mpr fun c hc => ?_
    intro hsame
    exact h (of_decide_eq_true hsame ▸ List.mem_map_of_mem hc)
  unfold wholeParkedStream
  rw [filter_append_same, hnone]
  simp

lemma wholeParkedStream_append_more (h : call.streamId ∈ calls.map ParkCall.streamId) :
    wholeParkedStream (calls ++ [call]) call.streamId =
      (wholeParkedStream calls call.streamId).map fun stream =>
        { stream with bytes := stream.bytes ++ call.data } := by
  have hsome := wholeParkedStream_ne_none h
  unfold wholeParkedStream at hsome ⊢
  rw [filter_append_same]
  cases hpieces : calls.filter fun c => c.streamId = call.streamId with
  | nil =>
    rw [hpieces] at hsome
    exact absurd rfl hsome
  | cons first more => simp

/-- Every stream that is not rejected is there, and no other. -/
lemma map_wholeStreams (calls : List ParkCall) (rejected : List ℕ) :
    (wholeStreams calls rejected).map BufferedStream.streamId =
      (streamsOf calls).filter fun streamId => streamId ∉ rejected := by
  unfold wholeStreams
  have hall : ∀ i ∈ (streamsOf calls).filter (fun streamId => streamId ∉ rejected),
      (wholeParkedStream calls i).map BufferedStream.streamId = some i := by
    intro i hi
    have hmem : i ∈ calls.map ParkCall.streamId :=
      KeyedList.mem_arrivals.mp (List.mem_of_mem_filter hi)
    cases hwhole : wholeParkedStream calls i with
    | none => exact absurd hwhole (wholeParkedStream_ne_none hmem)
    | some stream => rw [Option.map_some, wholeParkedStream_streamId hwhole]
  rw [List.map_filterMap, List.filterMap_congr hall, List.filterMap_some]

lemma nodup_wholeStreams (calls : List ParkCall) (rejected : List ℕ) :
    ((wholeStreams calls rejected).map BufferedStream.streamId).Nodup := by
  rw [map_wholeStreams]
  exact (KeyedList.nodup_arrivals _).filter _

/-- The streams other than one, when a piece of that one comes. -/
lemma filterMap_wholeStream_other {ids : List ℕ} (h : call.streamId ∉ ids) :
    ids.filterMap (wholeParkedStream (calls ++ [call])) = ids.filterMap (wholeParkedStream calls) := by
  refine List.filterMap_congr fun i hi => wholeParkedStream_append_other ?_
  rintro rfl
  exact h hi

/-- Of a stream that is rejected with this piece, nothing is left. -/
lemma wholeStreams_rejected (calls : List ParkCall) (call : ParkCall) (rejected : List ℕ) :
    wholeStreams (calls ++ [call]) (rejected ++ [call.streamId]) =
      (wholeStreams calls rejected).filter fun stream => stream.streamId ≠ call.streamId := by
  have hids : (streamsOf (calls ++ [call])).filter (fun i => i ∉ rejected ++ [call.streamId]) =
      ((streamsOf calls).filter fun i => i ∉ rejected).filter fun i => i ≠ call.streamId := by
    have hboth : ∀ ids : List ℕ, ids.filter (fun i => i ∉ rejected ++ [call.streamId]) =
        (ids.filter fun i => i ∉ rejected).filter fun i => i ≠ call.streamId := by
      intro ids
      rw [List.filter_filter]
      exact List.filter_congr fun i _ => by simp [and_comm]
    rw [← hboth, streamsOf, streamsOf, List.map_append]
    by_cases hknown : call.streamId ∈ calls.map ParkCall.streamId
    · rw [List.map_singleton, KeyedList.arrivals_again hknown]
    · rw [List.map_singleton, KeyedList.arrivals_new hknown, List.filter_append]
      simp
  rw [wholeStreams, hids, filterMap_wholeStream_other (by simp), wholeStreams,
    List.filter_filterMap, List.filterMap_filter]
  refine List.filterMap_congr fun i _ => ?_
  cases hwhole : wholeParkedStream calls i with
  | none => simp
  | some stream => simp [Option.filter, wholeParkedStream_streamId hwhole]

/-- The first piece of a stream adds it at the end. -/
lemma wholeStreams_new (h : call.streamId ∉ calls.map ParkCall.streamId)
    (hrejected : call.streamId ∉ rejected) :
    wholeStreams (calls ++ [call]) rejected = wholeStreams calls rejected ++
      [⟨call.streamId, call.sessionId, call.unidirectional, call.data⟩] := by
  have hids : streamsOf (calls ++ [call]) = streamsOf calls ++ [call.streamId] := by
    rw [streamsOf, List.map_append, List.map_singleton, KeyedList.arrivals_new h, streamsOf]
  have hother : call.streamId ∉ (streamsOf calls).filter fun i => i ∉ rejected := by
    intro hmem
    exact h (KeyedList.mem_arrivals.mp (List.mem_of_mem_filter hmem))
  rw [wholeStreams, hids, List.filter_append, List.filterMap_append,
    filterMap_wholeStream_other hother, List.filter_singleton, wholeStreams]
  simp [hrejected, wholeParkedStream_append_new h]

lemma wholeStreams_more (h : call.streamId ∈ calls.map ParkCall.streamId) :
    wholeStreams (calls ++ [call]) rejected = (wholeStreams calls rejected).map fun stream =>
      if stream.streamId = call.streamId then { stream with bytes := stream.bytes ++ call.data }
      else stream := by
  have hids : streamsOf (calls ++ [call]) = streamsOf calls := by
    rw [streamsOf, List.map_append, List.map_singleton, KeyedList.arrivals_again h, streamsOf]
  rw [wholeStreams, hids, wholeStreams, List.map_filterMap]
  refine List.filterMap_congr fun i _ => ?_
  by_cases hsame : call.streamId = i
  · subst hsame
    rw [wholeParkedStream_append_more h]
    cases hwhole : wholeParkedStream calls call.streamId with
    | none => rfl
    | some stream => simp [wholeParkedStream_streamId hwhole]
  · rw [wholeParkedStream_append_other hsame]
    cases hwhole : wholeParkedStream calls i with
    | none => rfl
    | some stream => simp [wholeParkedStream_streamId hwhole, Ne.symm hsame]

/-- The table holds the streams that were not rejected, whole. -/
structure HoldsWhole (calls : List ParkCall) (r : Buffered × List ℕ) : Prop where
  streams : r.1.streams = wholeStreams calls r.2
  rejected : r.1.streamsRejected = r.2.length
  known : ∀ i ∈ r.2, i ∈ calls.map ParkCall.streamId
  nodup : r.2.Nodup

/-- The streams that were rejected, when one more is. -/
lemma HoldsWhole.reject {r : Buffered × List ℕ} (h : HoldsWhole calls r)
    (hheeded : call.streamId ∉ r.2) {streams : List BufferedStream}
    (hstreams : streams = r.1.streams.filter fun stream => stream.streamId ≠ call.streamId) :
    HoldsWhole (calls ++ [call])
      (⟨streams, r.1.streamsRejected + 1, call.streamId⟩, r.2 ++ [call.streamId]) where
  streams := by rw [hstreams, h.streams, wholeStreams_rejected]
  rejected := by simp [h.rejected]
  known := by
    intro i hi
    rw [List.map_append, List.mem_append]
    rcases List.mem_append.mp hi with hold | hnew
    · exact Or.inl (h.known i hold)
    · exact Or.inr (by simpa using hnew)
  nodup := by
    refine List.nodup_append.mpr ⟨h.nodup, List.nodup_singleton _, ?_⟩
    rintro i hi j hj rfl
    exact hheeded (List.mem_singleton.mp hj ▸ hi)

lemma parkStep_ok {r : Buffered × List ℕ} {buffer : Buffered}
    (h : bufferedParkStream r.1 call.streamId call.sessionId call.unidirectional call.data =
      (buffer, .ok)) : parkStep r call = (buffer, r.2) := by
  rw [parkStep, h]
  exact congrArg _ (if_pos rfl)

lemma parkStep_limit {r : Buffered × List ℕ} {buffer : Buffered}
    (h : bufferedParkStream r.1 call.streamId call.sessionId call.unidirectional call.data =
      (buffer, .limit)) : parkStep r call = (buffer, r.2 ++ [call.streamId]) := by
  rw [parkStep, h]
  exact congrArg _ (if_neg nofun)

/-- A piece of a stream of which no piece was rejected. -/
lemma HoldsWhole.step {r : Buffered × List ℕ} (h : HoldsWhole calls r)
    (hheeded : call.streamId ∉ r.2) : HoldsWhole (calls ++ [call]) (parkStep r call) := by
  have hkeys : (r.1.streams.map BufferedStream.streamId).Nodup := by
    rw [h.streams]
    exact nodup_wholeStreams calls r.2
  have hids : ∀ i, i ∈ r.1.streams.map BufferedStream.streamId ↔
      i ∈ calls.map ParkCall.streamId ∧ i ∉ r.2 := by
    intro i
    rw [h.streams, map_wholeStreams, List.mem_filter, streamsOf, KeyedList.mem_arrivals]
    simp
  have hknown : ∀ i ∈ r.2, i ∈ (calls ++ [call]).map ParkCall.streamId := by
    intro i hi
    rw [List.map_append]
    exact List.mem_append_left _ (h.known i hi)
  have hpark := bufferedParkStream.eq_def r.1 call.streamId call.sessionId call.unidirectional
    call.data
  cases hfound : r.1.streams.findIdx? (fun parked => parked.streamId = call.streamId) with
  | none =>
    have hfresh : ∀ stream ∈ r.1.streams, stream.streamId ≠ call.streamId := by
      simpa using List.findIdx?_eq_none_iff.mp hfound
    have hnew : call.streamId ∉ calls.map ParkCall.streamId := by
      intro hmem
      obtain ⟨stream, hstream, hid⟩ := List.mem_map.mp ((hids call.streamId).mpr ⟨hmem, hheeded⟩)
      exact hfresh stream hstream hid
    have hsame : r.1.streams =
        r.1.streams.filter fun stream => stream.streamId ≠ call.streamId :=
      (List.filter_eq_self.mpr fun stream hstream =>
        decide_eq_true (hfresh stream hstream)).symm
    rw [hfound] at hpark
    dsimp only at hpark
    by_cases hfull : r.1.streams.length ≥ bufferedStreamsMax
    · rw [if_pos hfull] at hpark
      rw [parkStep_limit hpark]
      exact h.reject hheeded hsame
    rw [if_neg hfull] at hpark
    by_cases hlong : call.data.length > bufferedStreamBytesMax
    · rw [if_pos hlong] at hpark
      rw [parkStep_limit hpark]
      exact h.reject hheeded hsame
    · rw [if_neg hlong] at hpark
      rw [parkStep_ok hpark]
      exact ⟨by rw [h.streams, wholeStreams_new hnew hheeded], h.rejected, hknown, h.nodup⟩
  | some index =>
    have hmem : call.streamId ∈ calls.map ParkCall.streamId := by
      obtain ⟨l₁, stream, l₂, hsplit, -, hid, -, -⟩ := KeyedList.split_of_findIdx hkeys hfound
      refine ((hids call.streamId).mp ?_).1
      rw [hsplit, ← hid]
      exact List.mem_map_of_mem (by simp)
    rw [hfound] at hpark
    dsimp only at hpark
    by_cases hlong : call.data.length > bufferedStreamBytesMax - r.1.heldBytes index
    · rw [if_pos hlong] at hpark
      rw [parkStep_limit hpark]
      exact h.reject hheeded (KeyedList.eraseIdx_eq_filter hkeys hfound)
    · rw [if_neg hlong] at hpark
      rw [parkStep_ok hpark]
      refine ⟨?_, h.rejected, hknown, h.nodup⟩
      rw [KeyedList.modify_eq_map hkeys hfound, h.streams, wholeStreams_more hmem]

/-- A run of a caller that heeds every rejection. -/
lemma holdsWhole_parkRun (h : Heeded calls) : HoldsWhole calls (parkRun calls) := by
  induction calls using List.reverseRecOn with
  | nil => exact ⟨rfl, rfl, nofun, List.nodup_nil⟩
  | append_singleton calls call ih =>
    rw [parkRun_append]
    exact (ih h.of_append).step (h calls call [] rfl)

/-- The streams that were rejected and the others. -/
lemma HoldsWhole.length {r : Buffered × List ℕ} (h : HoldsWhole calls r) :
    r.1.streams.length + r.1.streamsRejected = (streamsOf calls).length := by
  have hnodup : (streamsOf calls).Nodup := KeyedList.nodup_arrivals _
  have hout : ((streamsOf calls).filter fun i => i ∈ r.2).Perm r.2 := by
    refine (List.perm_ext_iff_of_nodup (hnodup.filter _) h.nodup).mpr fun i => ?_
    rw [List.mem_filter, streamsOf, KeyedList.mem_arrivals]
    exact ⟨fun hi => of_decide_eq_true hi.2, fun hi => ⟨h.known i hi, decide_eq_true hi⟩⟩
  have hsum := List.length_eq_length_filter_add (l := streamsOf calls) fun i => decide (i ∈ r.2)
  have hin := congrArg List.length (map_wholeStreams calls r.2)
  rw [List.length_map, ← h.streams] at hin
  rw [hsum, hout.length_eq, h.rejected, hin, Nat.add_comm]
  simp

/-- What is drained for a session after a run of a caller that heeds every rejection: the streams of
which no piece was rejected and that were parked for the session are given to the callback, in the
order of their first pieces, each once and with all its pieces. -/
theorem bufferedDrainStreams_whole {κ : Type} (heeded : Heeded calls) (sessionId : ℕ)
    (deliver : Option (BufferedStreamFn κ)) (k : κ) :
    let parked := parkRun calls
    let whole := wholeStreams calls parked.2
    let offered := whole.filter fun stream => stream.sessionId = sessionId
    let drained := bufferedDrainStreams parked.1 sessionId deliver k
    whole.map BufferedStream.streamId = (streamsOf calls).filter (fun i => i ∉ parked.2) ∧
      (streamsOf calls).Nodup ∧
      drained.1.streams = [] ∧
      (drained.2.context, drained.2.delivered, drained.2.status) = deliverEach deliver k offered ∧
      (drained.2.status = .ok → drained.2.delivered = offered.length ∧
        drained.2.delivered + drained.2.dropped + parked.1.streamsRejected =
          (streamsOf calls).length) := by
  intro parked whole offered drained
  have hholds := holdsWhole_parkRun heeded
  have hgives := bufferedDrainLoop_gives sessionId deliver parked.1.streams k 0 0
  have hoffered :
      parked.1.streams.filter (fun stream => stream.sessionId = sessionId) = offered := by
    rw [hholds.streams]
  rw [hoffered] at hgives
  refine ⟨map_wholeStreams calls _, KeyedList.nodup_arrivals _, rfl, ?_, fun hok => ?_⟩
  · refine Prod.ext hgives.context (Prod.ext ?_ hgives.status)
    exact hgives.delivered.trans (Nat.zero_add _)
  · obtain ⟨hall, hdropped⟩ := hgives.counts (hgives.status ▸ hok)
    have hdelivered : drained.2.delivered = offered.length := by
      rw [← hall]
      exact hgives.delivered.trans (Nat.zero_add _)
    have hlength : parked.1.streams.length + parked.1.streamsRejected =
        (streamsOf calls).length := hholds.length
    have hrest : drained.2.dropped + offered.length = 0 + parked.1.streams.length := hdropped
    refine ⟨hdelivered, ?_⟩
    rw [hdelivered, ← hlength]
    omega

/-- Two streams in three pieces, for two sessions. -/
theorem bufferedDrainStreams_whole_pieces :
    let calls : List ParkCall :=
      [⟨8, 4, true, [0x61]⟩, ⟨12, 0, false, [0x62]⟩, ⟨8, 4, true, [0x63]⟩]
    let given : List (ℕ × Bool × List UInt8) := [(8, true, [0x61, 0x63])]
    let drained := bufferedDrainStreams (parkRun calls).1 4
      (some fun given id unidirectional bytes => (given ++ [(id, unidirectional, bytes)], .ok)) []
    (drained.2.context, drained.2.delivered, drained.2.status) = (given, 1, .ok) ∧
      drained.2.delivered + drained.2.dropped + (parkRun calls).1.streamsRejected = 2 := by
  intro calls given drained
  have heeded : Heeded calls := by decide
  have h := bufferedDrainStreams_whole heeded 4
    (some fun given id unidirectional bytes => (given ++ [(id, unidirectional, bytes)], .ok)) []
  exact ⟨h.2.2.2.1, (h.2.2.2.2 rfl).2⟩

/-- A stream whose first piece does not fit, and the rest of it from a caller that parks on: the
rest is delivered as the stream. -/
theorem bufferedDrainStreams_rejected :
    let calls : List ParkCall := [⟨8, 4, true, List.replicate 1025 0⟩, ⟨8, 4, true, [0x62]⟩]
    let drained := bufferedDrainStreams (parkRun calls).1 4
      (some fun given id unidirectional bytes => (given ++ [(id, unidirectional, bytes)], .ok)) []
    (parkRun calls).2 = [8] ∧ drained.2.context = [(8, true, [0x62])] := by
  decide +kernel

end Park

end WebTransport
