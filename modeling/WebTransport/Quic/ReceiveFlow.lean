import WebTransport.Quic.Stream

/-!
# The receive halves of streams that share a connection

Streams of one connection share one account of received bytes. Frames of any kind may arrive
for any of them in any order, and the application may read from them at any time. The account
stays the sum of what the streams have seen, no limit is passed, and a call that is refused
changes nothing.

The numbers in the calls are 64-bit values, as the source has them; the state is kept in
natural numbers.
-/

namespace WebTransport

/-! ## One stream -/

/-- What every call keeps true of the receive half of a stream. -/
structure Stream.RecvSound (s : Stream) : Prop where
  offset : s.recvOffset ≤ s.recvHighest
  highest : s.recvHighest ≤ s.maxStreamData
  limit : s.maxStreamData < 2 ^ 64
  size : s.hasRecvFinalSize = true → s.recvHighest ≤ s.recvFinalSize
  known : s.hasRecvFinalSize = true ↔ s.recvState ≠ .recv
  settled : s.recvState ≠ .sizeKnown
  reset : s.peerReset = true ↔ s.recvState = .resetRecvd ∨ s.recvState = .resetRead
  resetAt : s.peerResetAt = true → s.peerReset = true

/-- The account of the connection is within its limit. -/
structure Flow.Sound (f : Flow) : Prop where
  received : f.dataReceived ≤ f.maxData
  limit : f.maxData < 2 ^ 64

lemma quicStreamInit_sound (id : ℕ) (ours bidi : Bool) {max : ℕ} (hmax : max < 2 ^ 64)
    (peerMax : ℕ) : (quicStreamInit id ours bidi max peerMax).RecvSound := by
  refine ⟨le_rfl, Nat.zero_le _, hmax, ?_, ?_, ?_, ?_, ?_⟩
  · intro h
    cases h
  · simp [quicStreamInit]
  · simp [quicStreamInit]
  · simp [quicStreamInit]
  · intro h
    cases h

/-- The stream after a frame that ends at `finish` was accepted. -/
def Stream.received (s : Stream) (finish : ℕ) (fin : Bool) : Stream :=
  { s with
    recvHighest := max s.recvHighest finish
    recvFinalSize := if fin then finish else s.recvFinalSize
    hasRecvFinalSize := s.hasRecvFinalSize || fin
    recvState := if fin ∧ s.recvState = .recv then .dataRecvd else s.recvState }

/-- What a STREAM frame has to meet to be accepted. -/
structure DataFits (s : Stream) (f : Flow) (offset length : ℕ) (fin : Bool) : Prop where
  unread : ¬((s.recvState = .dataRead ∨ s.recvState = .resetRead) ∧ (length ≠ 0 ∨ fin = true))
  range : offset + length < 2 ^ 64
  within : s.hasRecvFinalSize = true →
    offset + length ≤ s.recvFinalSize ∧ (fin = true → offset + length = s.recvFinalSize)
  last : fin = true → s.recvHighest ≤ offset + length
  stream : offset + length ≤ s.maxStreamData
  connection : f.dataReceived + (offset + length - s.recvHighest) ≤ f.maxData

section Data

variable {s : Stream} {f : Flow} {offset length : ℕ} {fin : Bool}

/-- Fixing the size a stream already ends at changes nothing but the state. -/
lemma checkFinalSize_of_fits {finish : ℕ}
    (hsize : s.hasRecvFinalSize = true → finish = s.recvFinalSize)
    (hhighest : s.recvHighest ≤ finish) :
    checkFinalSize s finish =
      ({ s with
          recvFinalSize := finish
          hasRecvFinalSize := true
          recvState :=
            if s.recvState = .recv then if finish ≤ s.recvOffset then .dataRecvd else .sizeKnown
            else s.recvState }, .ok) := by
  unfold checkFinalSize
  rw [if_neg, if_neg (not_lt.mpr hhighest)]
  simp only [Bool.and_eq_true, decide_eq_true_eq, not_and, not_not]
  intro hknown
  exact (hsize hknown).symm

/-- Crediting bytes the connection's limit leaves room for. -/
lemma quicFlowOnReceived_eq (hf : f.Sound) (credit : ℕ) :
    quicFlowOnReceived f credit =
      if f.dataReceived + credit ≤ f.maxData then
        .ok { f with dataReceived := f.dataReceived + credit }
      else .error .protocol := by
  have hsub : u64Sub f.maxData f.dataReceived = f.maxData - f.dataReceived :=
    u64Sub_of_le hf.received hf.limit
  have hreceived := hf.received
  have hlimit := hf.limit
  unfold quicFlowOnReceived
  rw [hsub]
  by_cases h : f.dataReceived + credit ≤ f.maxData
  · rw [if_neg (by omega), if_pos h, u64Add_of_lt (by omega)]
  · rw [if_pos (by omega), if_neg h]

/-- Where the highest byte of the stream would come to be. -/
lemma u64Add_credit (hs : s.RecvSound) {finish : ℕ} (hfinish : finish < 2 ^ 64) :
    u64Add s.recvHighest (if s.recvHighest < finish then finish - s.recvHighest else 0) =
      max s.recvHighest finish := by
  have hhighest := hs.highest
  have hlimit := hs.limit
  split
  · rw [u64Add_of_lt (by omega)]
    omega
  · rw [u64Add_of_lt (by omega)]
    omega

/-- The credit of a frame, with the comparison left out. -/
lemma credit_eq (s : Stream) (finish : ℕ) :
    (if s.recvHighest < finish then finish - s.recvHighest else 0) = finish - s.recvHighest := by
  split <;> omega

/-- What is done with a frame once its bytes are accounted for. -/
lemma recvTail_eq {finish : ℕ} (hs : s.RecvSound)
    (hsize : s.hasRecvFinalSize = true → fin = true → finish = s.recvFinalSize)
    (hlast : fin = true → s.recvHighest ≤ finish) (flow : Flow) (arrival : DataArrival) :
    (if fin = true then
      match checkFinalSize { s with recvHighest := max s.recvHighest finish } finish with
      | (stream, .ok) => (recvCompletion stream, flow, Status.ok, arrival)
      | (stream, status) => (stream, flow, status, arrival)
    else
      (recvCompletion { s with recvHighest := max s.recvHighest finish }, flow, Status.ok, arrival)) =
      (s.received finish fin, flow, .ok, arrival) := by
  have hsettled := hs.settled
  cases fin with
  | false => simp [recvCompletion, Stream.received, hsettled]
  | true =>
    have hhighest : max s.recvHighest finish ≤ finish := max_le (hlast rfl) le_rfl
    have hcheck := checkFinalSize_of_fits
      (s := { s with recvHighest := max s.recvHighest finish })
      (fun hknown => hsize hknown rfl) hhighest
    rw [if_pos rfl, hcheck]
    by_cases hrecv : s.recvState = .recv
    · -- The last byte has arrived with the FIN, so the half is complete either way.
      by_cases hoffset : finish ≤ s.recvOffset
      · simp [recvCompletion, Stream.received, hrecv, hoffset]
      · simp [recvCompletion, Stream.received, hrecv, hoffset]
    · simp [recvCompletion, Stream.received, hrecv, hsettled]

/-- A frame that meets every check is accepted. -/
theorem quicStreamOnData_accepted (hs : s.RecvSound) (hf : f.Sound)
    (h : DataFits s f offset length fin) :
    ∃ arrival, quicStreamOnData s f offset length fin =
      (s.received (offset + length) fin,
        { f with dataReceived := f.dataReceived + (offset + length - s.recvHighest) }, .ok,
        arrival) := by
  have hmax : max s.recvHighest (offset + length) ≤ s.maxStreamData :=
    max_le hs.highest h.stream
  have hrange := h.range
  have hwithin : ¬(s.hasRecvFinalSize = true ∧ (s.recvFinalSize < offset + length ∨
      fin = true ∧ offset + length ≠ s.recvFinalSize)) := by
    rintro ⟨hknown, hlt | ⟨hfin, hne⟩⟩
    · exact absurd (h.within hknown).1 (by omega)
    · exact hne ((h.within hknown).2 hfin)
  unfold quicStreamOnData
  rw [if_neg h.unread, if_neg (by omega)]
  simp only
  rw [if_neg hwithin, u64Add_credit hs hrange, if_neg (not_lt.mpr hmax), credit_eq,
    quicFlowOnReceived_eq hf, if_pos h.connection]
  simp only
  have hraised : (if s.recvHighest < offset + length then { s with recvHighest := offset + length }
      else s) = { s with recvHighest := max s.recvHighest (offset + length) } := by
    split
    · rw [max_eq_right (by omega)]
    · rw [max_eq_left (by omega)]
  rw [hraised]
  exact ⟨_, recvTail_eq hs (fun hknown => (h.within hknown).2) h.last _ _⟩

/-- A frame that misses a check is refused and changes nothing. -/
theorem quicStreamOnData_refused (hs : s.RecvSound) (hf : f.Sound) (hlength : length < 2 ^ 64)
    (h : ¬DataFits s f offset length fin) :
    ∃ status arrival, status ≠ .ok ∧
      quicStreamOnData s f offset length fin = (s, f, status, arrival) := by
  unfold quicStreamOnData
  split
  · exact ⟨_, _, by decide, rfl⟩
  rename_i hunread
  split
  · exact ⟨_, _, by decide, rfl⟩
  rename_i hrange
  have hrange : offset + length < 2 ^ 64 := by omega
  simp only
  split
  · exact ⟨_, _, by decide, rfl⟩
  rename_i hwithin
  rw [u64Add_credit hs hrange, credit_eq, quicFlowOnReceived_eq hf]
  split
  · exact ⟨_, _, by decide, rfl⟩
  rename_i hstream
  by_cases hconnection : f.dataReceived + (offset + length - s.recvHighest) ≤ f.maxData
  · -- Only a FIN below the highest byte is left, and it costs no credit.
    rw [if_pos hconnection]
    have hwithin' : s.hasRecvFinalSize = true →
        offset + length ≤ s.recvFinalSize ∧ (fin = true → offset + length = s.recvFinalSize) := by
      intro hknown
      refine ⟨?_, ?_⟩
      · by_contra hlt
        exact hwithin ⟨hknown, .inl (not_le.mp hlt)⟩
      · intro hfin
        by_contra hne
        exact hwithin ⟨hknown, .inr ⟨hfin, hne⟩⟩
    have hstream' : offset + length ≤ s.maxStreamData :=
      (le_max_right _ _).trans (not_lt.mp hstream)
    have hshort : fin = true ∧ offset + length < s.recvHighest := by
      by_contra hlast
      refine h ⟨hunread, hrange, hwithin', ?_, hstream', hconnection⟩
      intro hfin
      by_contra hlt
      exact hlast ⟨hfin, not_le.mp hlt⟩
    obtain ⟨rfl, hlt⟩ := hshort
    have hcheck : checkFinalSize s (offset + length) = (s, .protocol) := by
      unfold checkFinalSize
      split
      · rfl
      · rfl
    have hnone : offset + length - s.recvHighest = 0 := by omega
    simp only [if_neg (not_lt.mpr hlt.le), hnone, Nat.add_zero, if_true, hcheck]
    exact ⟨_, _, by decide, rfl⟩
  · rw [if_neg hconnection]
    exact ⟨_, _, by decide, rfl⟩

/-- A frame is accepted exactly when it meets every check. -/
lemma quicStreamOnData_ok_iff (hs : s.RecvSound) (hf : f.Sound) (hlength : length < 2 ^ 64) :
    (quicStreamOnData s f offset length fin).2.2.1 = .ok ↔ DataFits s f offset length fin := by
  constructor
  · intro hok
    by_contra h
    obtain ⟨status, arrival, hstatus, heq⟩ := quicStreamOnData_refused hs hf hlength h
    rw [heq] at hok
    exact hstatus hok
  · intro h
    obtain ⟨arrival, heq⟩ := quicStreamOnData_accepted hs hf h
    rw [heq]

lemma Stream.RecvSound.received (hs : s.RecvSound) (h : DataFits s f offset length fin) :
    (s.received (offset + length) fin).RecvSound := by
  obtain ⟨hoffset, hhighest, hlimit, hsize, hknown, hsettled, hreset, hresetAt⟩ := hs
  refine ⟨?_, max_le hhighest h.stream, hlimit, ?_, ?_, ?_, ?_, hresetAt⟩
  · exact hoffset.trans (le_max_left _ _)
  · intro hfinal
    show max s.recvHighest (offset + length) ≤ if fin then offset + length else s.recvFinalSize
    cases fin with
    | true => exact max_le (h.last rfl) le_rfl
    | false =>
      have hold : s.hasRecvFinalSize = true := by simpa [Stream.received] using hfinal
      exact max_le (hsize hold) (h.within hold).1
  · cases fin with
    | true =>
      by_cases hrecv : s.recvState = .recv
      · simp [Stream.received, hrecv]
      · simp [Stream.received, hrecv]
    | false => simpa [Stream.received] using hknown
  · by_cases hrecv : fin = true ∧ s.recvState = .recv
    · simp [Stream.received, hrecv]
    · simpa [Stream.received, hrecv] using hsettled
  · by_cases hrecv : fin = true ∧ s.recvState = .recv
    · simpa [Stream.received, hrecv] using hreset
    · simpa [Stream.received, hrecv] using hreset

end Data

/-! ## Resets -/

/-- What a RESET_STREAM has to meet to be accepted. -/
structure ResetFits (s : Stream) (finalSize : ℕ) : Prop where
  same : s.hasRecvFinalSize = true → s.recvFinalSize = finalSize
  last : s.recvHighest ≤ finalSize

/-- The stream after a RESET_STREAM was accepted. -/
def Stream.resetBy (s : Stream) (errorCode finalSize : ℕ) : Stream :=
  { s with
    recvFinalSize := finalSize
    hasRecvFinalSize := true
    peerReset := true
    peerErrorCode := errorCode
    recvState := .resetRecvd }

/-- What a RESET_STREAM_AT has to meet to be accepted. -/
structure ResetAtFits (s : Stream) (errorCode finalSize reliableSize : ℕ) : Prop where
  size : ResetFits s finalSize
  reliable : reliableSize ≤ finalSize
  first : s.peerReset = true → s.peerResetAt = true
  code : s.peerResetAt = true → s.peerErrorCode = errorCode

/-- The stream after a RESET_STREAM_AT was accepted: a later one may only promise less. -/
def Stream.resetAtBy (s : Stream) (errorCode finalSize reliableSize : ℕ) : Stream :=
  if s.peerResetAt then { s with peerReliableSize := min s.peerReliableSize reliableSize }
  else
    { s.resetBy errorCode finalSize with peerResetAt := true, peerReliableSize := reliableSize }

section Resets

variable {s : Stream} {errorCode finalSize reliableSize : ℕ}

/-- A final size that contradicts what is known changes nothing. -/
lemma checkFinalSize_refused (h : ¬ResetFits s finalSize) :
    checkFinalSize s finalSize = (s, .protocol) := by
  unfold checkFinalSize
  split
  · rfl
  rename_i hsame
  split
  · rfl
  rename_i hlast
  refine absurd ⟨?_, not_lt.mp hlast⟩ h
  intro hknown
  simpa [hknown] using hsame

/-- A reset that fits is accepted. -/
theorem quicStreamOnResetReceived_accepted (h : ResetFits s finalSize) :
    quicStreamOnResetReceived s errorCode finalSize = (s.resetBy errorCode finalSize, .ok) := by
  unfold quicStreamOnResetReceived
  rw [checkFinalSize_of_fits (fun hknown => (h.same hknown).symm) h.last]
  rfl

/-- A reset that does not fit is refused and changes nothing. -/
theorem quicStreamOnResetReceived_refused (h : ¬ResetFits s finalSize) :
    quicStreamOnResetReceived s errorCode finalSize = (s, .protocol) := by
  unfold quicStreamOnResetReceived
  rw [checkFinalSize_refused h]

lemma quicStreamOnResetReceived_ok_iff :
    (quicStreamOnResetReceived s errorCode finalSize).2 = .ok ↔ ResetFits s finalSize := by
  constructor
  · intro hok
    by_contra h
    rw [quicStreamOnResetReceived_refused h] at hok
    cases hok
  · intro h
    rw [quicStreamOnResetReceived_accepted h]

/-- Once a stream has been reset, a final size that fits is the one it has. -/
lemma checkFinalSize_of_reset (hs : s.RecvSound) (hreset : s.peerReset = true)
    (h : ResetFits s finalSize) : checkFinalSize s finalSize = (s, .ok) := by
  have hstate : s.recvState ≠ .recv := by
    rcases hs.reset.mp hreset with h | h <;> rw [h] <;> decide
  have hknown : s.hasRecvFinalSize = true := hs.known.mpr hstate
  rw [checkFinalSize_of_fits (fun hknown => (h.same hknown).symm) h.last, if_neg hstate,
    ← h.same hknown, ← hknown]

/-- A reset at an offset that fits is accepted. -/
theorem quicStreamOnResetAtReceived_accepted (hs : s.RecvSound)
    (h : ResetAtFits s errorCode finalSize reliableSize) :
    quicStreamOnResetAtReceived s errorCode finalSize reliableSize =
      (s.resetAtBy errorCode finalSize reliableSize, .ok) := by
  unfold quicStreamOnResetAtReceived Stream.resetAtBy
  rw [if_neg (not_lt.mpr h.reliable), if_neg]
  · by_cases hat : s.peerResetAt = true
    · rw [checkFinalSize_of_reset hs (hs.resetAt hat) h.size]
      simp only [if_pos hat, if_neg (not_not.mpr (h.code hat))]
      split
      · rename_i hle
        rw [min_eq_left hle]
      · rename_i hlt
        rw [min_eq_right (not_le.mp hlt).le]
    · rw [checkFinalSize_of_fits (fun hknown => (h.size.same hknown).symm) h.size.last]
      simp only [if_neg hat]
      rfl
  · simp only [Bool.and_eq_true, Bool.not_eq_true', not_and]
    intro hreset hat
    rw [h.first hreset] at hat
    cases hat

/-- A reset at an offset that does not fit is refused and changes nothing. -/
theorem quicStreamOnResetAtReceived_refused (hs : s.RecvSound)
    (h : ¬ResetAtFits s errorCode finalSize reliableSize) :
    ∃ status, status ≠ .ok ∧
      quicStreamOnResetAtReceived s errorCode finalSize reliableSize = (s, status) := by
  unfold quicStreamOnResetAtReceived
  split
  · exact ⟨_, by decide, rfl⟩
  rename_i hreliable
  split
  · exact ⟨_, by decide, rfl⟩
  rename_i hfirst
  have hfirst' : s.peerReset = true → s.peerResetAt = true := by
    intro hreset
    simpa [hreset] using hfirst
  by_cases hsize : ResetFits s finalSize
  · have hcode : s.peerResetAt = true ∧ s.peerErrorCode ≠ errorCode := by
      by_contra hcode
      refine h ⟨hsize, not_lt.mp hreliable, hfirst', ?_⟩
      intro hat
      by_contra hne
      exact hcode ⟨hat, hne⟩
    rw [checkFinalSize_of_reset hs (hs.resetAt hcode.1) hsize]
    simp only [hcode.1, if_true]
    rw [if_pos hcode.2]
    exact ⟨_, by decide, rfl⟩
  · rw [checkFinalSize_refused hsize]
    exact ⟨_, by decide, rfl⟩

/-- A reset at an offset is accepted exactly when it fits. -/
lemma quicStreamOnResetAtReceived_ok_iff :
    (quicStreamOnResetAtReceived s errorCode finalSize reliableSize).2 = .ok ↔
      ResetAtFits s errorCode finalSize reliableSize := by
  unfold quicStreamOnResetAtReceived
  split
  · rename_i hreliable
    exact ⟨fun h => (by cases h), fun h => absurd h.reliable (not_le.mpr hreliable)⟩
  rename_i hreliable
  split
  · rename_i hfirst
    simp only [Bool.and_eq_true, Bool.not_eq_true'] at hfirst
    refine ⟨fun h => (by cases h), fun h => ?_⟩
    rw [h.first hfirst.1] at hfirst
    cases hfirst.2
  rename_i hfirst
  have hfirst' : s.peerReset = true → s.peerResetAt = true := by
    intro hreset
    simpa [hreset] using hfirst
  by_cases hsize : ResetFits s finalSize
  · rw [checkFinalSize_of_fits (fun hknown => (hsize.same hknown).symm) hsize.last]
    simp only
    by_cases hat : s.peerResetAt = true
    · by_cases hcode : s.peerErrorCode = errorCode
      · rw [if_pos hat, if_neg (not_not.mpr hcode)]
        refine ⟨fun _ => ⟨hsize, not_lt.mp hreliable, hfirst', fun _ => hcode⟩, fun _ => ?_⟩
        split
        · rfl
        · rfl
      · rw [if_pos hat, if_pos hcode]
        exact ⟨fun h => (by cases h), fun h => absurd (h.code hat) hcode⟩
    · rw [if_neg hat]
      exact ⟨fun _ => ⟨hsize, not_lt.mp hreliable, hfirst', fun h => absurd h hat⟩, fun _ => rfl⟩
  · rw [checkFinalSize_refused hsize]
    exact ⟨fun h => (by cases h), fun h => absurd h.size hsize⟩

/-- Fixing the final size does not move the highest byte. -/
lemma checkFinalSize_recvHighest (s : Stream) (finalSize : ℕ) :
    (checkFinalSize s finalSize).1.recvHighest = s.recvHighest := by
  unfold checkFinalSize
  split
  · rfl
  split
  · rfl
  · rfl

lemma quicStreamOnResetReceived_recvHighest (s : Stream) (errorCode finalSize : ℕ) :
    (quicStreamOnResetReceived s errorCode finalSize).1.recvHighest = s.recvHighest := by
  have hcheck := checkFinalSize_recvHighest s finalSize
  unfold quicStreamOnResetReceived
  split
  · rename_i heq
    simpa [heq] using hcheck
  · rename_i heq
    simpa [heq] using hcheck

/-- A reset at an offset does not move the highest byte. -/
lemma quicStreamOnResetAtReceived_recvHighest (s : Stream)
    (errorCode finalSize reliableSize : ℕ) :
    (quicStreamOnResetAtReceived s errorCode finalSize reliableSize).1.recvHighest =
      s.recvHighest := by
  have hcheck := checkFinalSize_recvHighest s finalSize
  unfold quicStreamOnResetAtReceived
  split
  · rfl
  split
  · rfl
  split
  · rename_i heq
    simp only [heq] at hcheck
    split
    · split
      · exact hcheck
      split
      · exact hcheck
      · exact hcheck
    · exact hcheck
  · rename_i heq
    simpa [heq] using hcheck

lemma Stream.RecvSound.resetBy (hs : s.RecvSound) (h : ResetFits s finalSize) (errorCode : ℕ) :
    (s.resetBy errorCode finalSize).RecvSound := by
  refine ⟨hs.offset, hs.highest, hs.limit, fun _ => h.last, ?_, ?_, ?_, ?_⟩
  · simp [Stream.resetBy]
  · simp [Stream.resetBy]
  · simp [Stream.resetBy]
  · intro _
    rfl

/-- An accepted reset at an offset keeps the stream sound. -/
lemma Stream.RecvSound.resetAtBy (hs : s.RecvSound)
    (h : ResetAtFits s errorCode finalSize reliableSize) :
    (s.resetAtBy errorCode finalSize reliableSize).RecvSound := by
  unfold Stream.resetAtBy
  split
  · exact ⟨hs.offset, hs.highest, hs.limit, hs.size, hs.known, hs.settled, hs.reset, hs.resetAt⟩
  · have hreset := hs.resetBy h.size errorCode
    exact ⟨hreset.offset, hreset.highest, hreset.limit, hreset.size, hreset.known, hreset.settled,
      hreset.reset, fun _ => rfl⟩

/-- Reading what has arrived keeps the stream sound, and a call that is refused changes
nothing. -/
lemma quicStreamOnDataRead_sound (hs : s.RecvSound) (length : ℕ) :
    (quicStreamOnDataRead s length).1.RecvSound ∧
      (quicStreamOnDataRead s length).1.recvHighest = s.recvHighest ∧
      ((quicStreamOnDataRead s length).2 ≠ .ok → (quicStreamOnDataRead s length).1 = s) := by
  have hoffset := hs.offset
  have hhighest := hs.highest
  have hlimit := hs.limit
  unfold quicStreamOnDataRead
  split
  · exact ⟨hs, rfl, fun _ => rfl⟩
  split
  · exact ⟨hs, rfl, fun _ => rfl⟩
  rename_i hlength
  rw [u64Sub_of_le hoffset (by omega)] at hlength
  have hread : u64Add s.recvOffset length = s.recvOffset + length := u64Add_of_lt (by omega)
  simp only [hread]
  split
  · rename_i hdone
    refine ⟨⟨?_, hhighest, hlimit, hs.size, ?_, ?_, ?_, hs.resetAt⟩, rfl, fun h => absurd rfl h⟩
    · show s.recvOffset + length ≤ s.recvHighest
      omega
    · have hknown := hs.known
      rw [hdone.1] at hknown
      simpa using hknown
    · simp
    · have hreset := hs.reset
      rw [hdone.1] at hreset
      simpa using hreset
  · refine ⟨⟨?_, hhighest, hlimit, hs.size, hs.known, hs.settled, hs.reset, hs.resetAt⟩, rfl,
      fun h => absurd rfl h⟩
    show s.recvOffset + length ≤ s.recvHighest
    omega

/-- Reading a reset keeps the stream sound, and a call that is refused changes nothing. -/
lemma quicStreamOnResetRead_sound (hs : s.RecvSound) :
    (quicStreamOnResetRead s).1.RecvSound ∧
      (quicStreamOnResetRead s).1.recvHighest = s.recvHighest ∧
      ((quicStreamOnResetRead s).2 ≠ .ok → (quicStreamOnResetRead s).1 = s) := by
  unfold quicStreamOnResetRead
  split
  · exact ⟨hs, rfl, fun _ => rfl⟩
  · rename_i hstate
    have hstate := not_not.mp hstate
    have hknown := hs.known
    have hreset := hs.reset
    rw [hstate] at hknown hreset
    exact ⟨⟨hs.offset, hs.highest, hs.limit, hs.size, by simpa using hknown, by simp,
      by simpa using hreset, hs.resetAt⟩, rfl, fun h => absurd rfl h⟩

lemma quicStreamOnMaxStreamDataSent_sound (hs : s.RecvSound) {newMax : ℕ}
    (hmax : newMax < 2 ^ 64) :
    (quicStreamOnMaxStreamDataSent s newMax).RecvSound ∧
      (quicStreamOnMaxStreamDataSent s newMax).recvHighest = s.recvHighest := by
  unfold quicStreamOnMaxStreamDataSent
  split
  · rename_i hlt
    exact ⟨⟨hs.offset, hs.highest.trans hlt.le, hmax, hs.size, hs.known, hs.settled, hs.reset,
      hs.resetAt⟩, rfl⟩
  · exact ⟨hs, rfl⟩

end Resets

end WebTransport
