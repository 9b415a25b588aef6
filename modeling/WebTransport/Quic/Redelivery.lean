import WebTransport.Quic.ReceiveAccount
import WebTransport.Quic.VisitStream

/-!
# Frames that arrive again

A peer that missed an acknowledgement sends its frames again, and a frame that was accepted
once may arrive in any later state. What a stream knows only grows, so the checks that let a
frame in the first time still hold of it. What does not hold is that it changes nothing: a
receive half that has been read refuses data it has delivered, and a RESET_STREAM puts it
back to where the reset has not been read.
-/

namespace WebTransport

/-! ## What a stream knows only grows -/

/-- The receive half of a stream at a later time. -/
structure Stream.Later (s s' : Stream) : Prop where
  highest : s.recvHighest ≤ s'.recvHighest
  size : s.hasRecvFinalSize = true →
    s'.hasRecvFinalSize = true ∧ s'.recvFinalSize = s.recvFinalSize
  reset : s.peerReset = true → s'.peerReset = true
  resetAt : s.peerResetAt = true →
    s'.peerResetAt = true ∧ s'.peerReliableSize ≤ s.peerReliableSize

namespace Stream.Later

variable {s s' s'' : Stream}

lemma refl (s : Stream) : s.Later s :=
  ⟨le_rfl, fun h => ⟨h, rfl⟩, fun h => h, fun h => ⟨h, le_rfl⟩⟩

lemma trans (h : s.Later s') (h' : s'.Later s'') : s.Later s'' := by
  refine ⟨h.highest.trans h'.highest, ?_, fun hreset => h'.reset (h.reset hreset), ?_⟩
  · intro hknown
    obtain ⟨hknown', hsize⟩ := h.size hknown
    obtain ⟨hknown'', hsize'⟩ := h'.size hknown'
    exact ⟨hknown'', hsize'.trans hsize⟩
  · intro hat
    obtain ⟨hat', hreliable⟩ := h.resetAt hat
    obtain ⟨hat'', hreliable'⟩ := h'.resetAt hat'
    exact ⟨hat'', hreliable'.trans hreliable⟩

/-- A stream of which only the state, the offset or the limit differ. -/
lemma of_eq (hhighest : s'.recvHighest = s.recvHighest)
    (hknown : s'.hasRecvFinalSize = s.hasRecvFinalSize)
    (hsize : s'.recvFinalSize = s.recvFinalSize) (hreset : s'.peerReset = s.peerReset)
    (hat : s'.peerResetAt = s.peerResetAt) (hreliable : s'.peerReliableSize = s.peerReliableSize) :
    s.Later s' := by
  refine ⟨hhighest.ge, fun h => ⟨hknown.trans h, hsize⟩, fun h => hreset.trans h,
    fun h => ⟨hat.trans h, hreliable.le⟩⟩

lemma received {f : Flow} {offset length : ℕ} {fin : Bool} (h : DataFits s f offset length fin) :
    s.Later (s.received (offset + length) fin) := by
  refine ⟨le_max_left _ _, ?_, fun h => h, fun hat => ⟨hat, le_rfl⟩⟩
  intro hknown
  refine ⟨by simp [Stream.received, hknown], ?_⟩
  cases fin with
  | true => exact (h.within hknown).2 rfl
  | false => rfl

lemma resetBy {finalSize : ℕ} (h : ResetFits s finalSize) (errorCode : ℕ) :
    s.Later (s.resetBy errorCode finalSize) :=
  ⟨le_rfl, fun hknown => ⟨rfl, (h.same hknown).symm⟩, fun _ => rfl, fun hat => ⟨hat, le_rfl⟩⟩

lemma resetAtBy {errorCode finalSize reliableSize : ℕ}
    (h : ResetAtFits s errorCode finalSize reliableSize) :
    s.Later (s.resetAtBy errorCode finalSize reliableSize) := by
  unfold Stream.resetAtBy
  split
  · exact ⟨le_rfl, fun hknown => ⟨hknown, rfl⟩, fun h => h, fun hat => ⟨hat, min_le_left _ _⟩⟩
  · rename_i hat
    exact ⟨le_rfl, fun hknown => ⟨rfl, (h.size.same hknown).symm⟩, fun _ => rfl,
      fun h => absurd h hat⟩

lemma dataRead (s : Stream) (length : ℕ) : s.Later (quicStreamOnDataRead s length).1 := by
  unfold quicStreamOnDataRead
  split
  · exact refl s
  split
  · exact refl s
  simp only
  split
  · exact of_eq rfl rfl rfl rfl rfl rfl
  · exact of_eq rfl rfl rfl rfl rfl rfl

lemma resetRead (s : Stream) : s.Later (quicStreamOnResetRead s).1 := by
  unfold quicStreamOnResetRead
  split
  · exact refl s
  · exact of_eq rfl rfl rfl rfl rfl rfl

lemma maxStreamDataSent (s : Stream) (newMax : ℕ) :
    s.Later (quicStreamOnMaxStreamDataSent s newMax) := by
  unfold quicStreamOnMaxStreamDataSent
  split
  · exact of_eq rfl rfl rfl rfl rfl rfl
  · exact refl s

end Stream.Later

namespace Receivers

variable {ι : Type*} [DecidableEq ι]

/-- Replacing a stream by a later one leaves every stream the same or later. -/
lemma later_setStream {r : Receivers ι} {i : ι} {s : Stream} (h : (r.streams i).Later s) (j : ι) :
    (r.streams j).Later ((r.setStream i s).streams j) := by
  by_cases hj : j = i
  · subst hj
    simpa using h
  · simpa [Function.update_of_ne hj] using Stream.Later.refl _

variable [Fintype ι]

/-- Every call leaves every stream the same or later. -/
lemma Sound.later_onCall {r : Receivers ι} (hr : r.Sound) (call : RecvCall ι) (j : ι) :
    (r.streams j).Later ((r.onCall call).1.streams j) := by
  cases call with
  | data i offset length fin =>
    by_cases hfits : DataFits (r.streams i) r.flow offset.toNat length.toNat fin
    · obtain ⟨arrival, heq⟩ := quicStreamOnData_accepted (hr.streams i) hr.flow hfits
      simp only [Receivers.onCall, heq]
      exact later_setStream (.received hfits) j
    · obtain ⟨status, arrival, hstatus, heq⟩ :=
        quicStreamOnData_refused (hr.streams i) hr.flow length.toNat_lt hfits
      simp only [Receivers.onCall, heq]
      exact later_setStream (.refl _) j
  | resetReceived i errorCode finalSize =>
    by_cases hfits : ResetFits (r.streams i) finalSize.toNat
    · simp only [Receivers.onCall, quicStreamOnResetReceived_accepted hfits]
      exact later_setStream (.resetBy hfits _) j
    · simp only [Receivers.onCall, quicStreamOnResetReceived_refused hfits]
      exact later_setStream (.refl _) j
  | resetAtReceived i errorCode finalSize reliableSize =>
    by_cases hfits : ResetAtFits (r.streams i) errorCode.toNat finalSize.toNat reliableSize.toNat
    · simp only [Receivers.onCall, quicStreamOnResetAtReceived_accepted (hr.streams i) hfits]
      exact later_setStream (.resetAtBy hfits) j
    · obtain ⟨status, hstatus, heq⟩ := quicStreamOnResetAtReceived_refused (hr.streams i) hfits
      simp only [Receivers.onCall, heq]
      exact later_setStream (.refl _) j
  | dataRead i length => exact later_setStream (.dataRead _ _) j
  | resetRead i => exact later_setStream (.resetRead _) j
  | maxStreamDataSent i newMax => exact later_setStream (.maxStreamDataSent _ _) j
  | maxDataSent newMax => exact .refl _

lemma Sound.later_run {r : Receivers ι} (hr : r.Sound) (calls : List (RecvCall ι)) (j : ι) :
    (r.streams j).Later ((r.run calls).streams j) := by
  induction calls generalizing r with
  | nil => exact .refl _
  | cons call calls ih => exact (hr.later_onCall call j).trans (ih (hr.onCall call).1)

end Receivers

/-! ## What a stream remembers of a frame -/

/-- The stream a frame names. -/
def Receivers.frameStream {ι : Type*} : RecvCall ι → Option ι
  | .data i .. | .resetReceived i .. | .resetAtReceived i .. => some i
  | _ => none

/-- What stays true of a stream after it has accepted a frame. -/
def Stream.Remembers {ι : Type*} (s : Stream) : RecvCall ι → Prop
  | .data _ offset length fin =>
    offset.toNat + length.toNat < 2 ^ 64 ∧ offset.toNat + length.toNat ≤ s.recvHighest ∧
      (fin = true → s.hasRecvFinalSize = true ∧ s.recvFinalSize = offset.toNat + length.toNat)
  | .resetReceived _ _ finalSize =>
    s.hasRecvFinalSize = true ∧ s.recvFinalSize = finalSize.toNat ∧ s.peerReset = true
  | .resetAtReceived _ _ finalSize reliableSize =>
    s.hasRecvFinalSize = true ∧ s.recvFinalSize = finalSize.toNat ∧ s.peerResetAt = true ∧
      reliableSize.toNat ≤ finalSize.toNat ∧ s.peerReliableSize ≤ reliableSize.toNat
  | _ => False

/-- When a frame that was accepted before is accepted again without any effect: data as long
as the receive half has not been read to its end, a RESET_STREAM as long as it has not been
read and is the last one recorded, a RESET_STREAM_AT as long as its error code is the one
recorded. -/
def Stream.Repeatable {ι : Type*} (s : Stream) : RecvCall ι → Prop
  | .data _ _ length fin => ¬(quicStreamRecvFinished s = true ∧ (length ≠ 0 ∨ fin = true))
  | .resetReceived _ errorCode _ =>
    s.recvState = .resetRecvd ∧ s.peerErrorCode = errorCode.toNat
  | .resetAtReceived _ errorCode _ _ => s.peerErrorCode = errorCode.toNat
  | _ => True

section Remembers

variable {ι : Type*} {s s' : Stream}

/-- A later stream remembers what the stream did. -/
lemma Stream.Remembers.later {call : RecvCall ι} (h : s.Remembers call) (hlater : s.Later s') :
    s'.Remembers call := by
  cases call with
  | data i offset length fin =>
    obtain ⟨hrange, hhighest, hfin⟩ := h
    refine ⟨hrange, hhighest.trans hlater.highest, ?_⟩
    intro hlast
    obtain ⟨hknown, hsize⟩ := hfin hlast
    obtain ⟨hknown', hsize'⟩ := hlater.size hknown
    exact ⟨hknown', hsize'.trans hsize⟩
  | resetReceived i errorCode finalSize =>
    obtain ⟨hknown, hsize, hreset⟩ := h
    obtain ⟨hknown', hsize'⟩ := hlater.size hknown
    exact ⟨hknown', hsize'.trans hsize, hlater.reset hreset⟩
  | resetAtReceived i errorCode finalSize reliableSize =>
    obtain ⟨hknown, hsize, hat, hle, hreliable⟩ := h
    obtain ⟨hknown', hsize'⟩ := hlater.size hknown
    obtain ⟨hat', hreliable'⟩ := hlater.resetAt hat
    exact ⟨hknown', hsize'.trans hsize, hat', hle, hreliable'.trans hreliable⟩
  | dataRead | resetRead | maxStreamDataSent | maxDataSent => exact h

/-- A reset that arrives again before it is read adds nothing to the stream. -/
lemma Stream.resetBy_again {errorCode finalSize : ℕ} (hknown : s.hasRecvFinalSize = true)
    (hsize : s.recvFinalSize = finalSize) (hreset : s.peerReset = true)
    (hstate : s.recvState = .resetRecvd) (hcode : s.peerErrorCode = errorCode) :
    s.resetBy errorCode finalSize = s := by
  subst hsize
  subst hcode
  obtain ⟨⟩ := s
  simp only at hknown hreset hstate
  simp only [Stream.resetBy, hknown, hreset, hstate]

variable {f : Flow}

/-- Data that arrives again fits wherever the receive half has not been read to its end. -/
lemma Stream.RecvSound.dataFits_again_iff (hs : s.RecvSound) (hf : f.Sound) {i : ι}
    {offset length : UInt64} {fin : Bool} (h : s.Remembers (.data i offset length fin)) :
    DataFits s f offset.toNat length.toNat fin ↔ s.Repeatable (.data i offset length fin) := by
  obtain ⟨hrange, hhighest, hfin⟩ := h
  have hzero : length.toNat ≠ 0 ↔ length ≠ 0 := by
    rw [ne_eq, ne_eq, ← UInt64.toNat_inj]
    rfl
  have hread : quicStreamRecvFinished s = true ↔
      s.recvState = .dataRead ∨ s.recvState = .resetRead := by
    simp [quicStreamRecvFinished]
  have hnew : offset.toNat + length.toNat - s.recvHighest = 0 := by omega
  constructor
  · intro hfits
    simpa only [Stream.Repeatable, hread, ← hzero] using hfits.unread
  · intro hrepeat
    refine ⟨?_, hrange, ?_, ?_, hhighest.trans hs.highest, ?_⟩
    · simpa only [Stream.Repeatable, hread, ← hzero] using hrepeat
    · intro hknown
      exact ⟨hhighest.trans (hs.size hknown), fun hlast => (hfin hlast).2.symm⟩
    · intro hlast
      obtain ⟨hknown, hsize⟩ := hfin hlast
      exact (hs.size hknown).trans hsize.le
    · rw [hnew]
      exact hf.received

/-- Data that arrives again adds nothing to the stream. -/
lemma Stream.RecvSound.received_again (hs : s.RecvSound) {i : ι} {offset length : UInt64}
    {fin : Bool} (h : s.Remembers (.data i offset length fin)) :
    s.received (offset.toNat + length.toNat) fin = s := by
  obtain ⟨-, hhighest, hfin⟩ := h
  unfold Stream.received
  rw [max_eq_left hhighest]
  cases fin with
  | false => simp
  | true =>
    obtain ⟨hknown, hsize⟩ := hfin rfl
    have hstate := hs.known.mp hknown
    simp [hstate, ← hsize, ← hknown]

end Remembers

namespace Receivers

variable {ι : Type*} [DecidableEq ι]

/-- Writing back a stream changes nothing exactly when it is the stream that is there. -/
lemma setStream_eq_self_iff {r : Receivers ι} {i : ι} {s : Stream} :
    r.setStream i s = r ↔ s = r.streams i := by
  constructor
  · intro h
    have := congrArg (fun r => r.streams i) h
    simpa using this
  · rintro rfl
    exact r.setStream_same i

variable [Fintype ι] {r : Receivers ι} {i : ι} {call : RecvCall ι}

/-- A stream remembers the frame it has just accepted. -/
lemma Sound.remembers_of_accepted (hr : r.Sound) (hframe : frameStream call = some i)
    (hok : (r.onCall call).2 = .ok) : ((r.onCall call).1.streams i).Remembers call := by
  have hs := hr.streams i
  cases call with
  | data j offset length fin =>
    cases hframe
    have hfits := (quicStreamOnData_ok_iff hs hr.flow length.toNat_lt).mp hok
    obtain ⟨arrival, heq⟩ := quicStreamOnData_accepted hs hr.flow hfits
    simp only [Receivers.onCall, heq, setStream_streams, Function.update_self]
    refine ⟨hfits.range, le_max_right _ _, ?_⟩
    rintro rfl
    exact ⟨by simp [Stream.received], rfl⟩
  | resetReceived j errorCode finalSize =>
    cases hframe
    have hfits := quicStreamOnResetReceived_ok_iff.mp hok
    simp only [Receivers.onCall, quicStreamOnResetReceived_accepted hfits, setStream_streams,
      Function.update_self]
    exact ⟨rfl, rfl, rfl⟩
  | resetAtReceived j errorCode finalSize reliableSize =>
    cases hframe
    have hfits := quicStreamOnResetAtReceived_ok_iff.mp hok
    simp only [Receivers.onCall, quicStreamOnResetAtReceived_accepted hs hfits, setStream_streams,
      Function.update_self]
    unfold Stream.resetAtBy
    split
    · rename_i hat
      have hknown := hs.known.mpr (by
        rcases hs.reset.mp (hs.resetAt hat) with h | h <;> rw [h] <;> decide)
      exact ⟨hknown, hfits.size.same hknown, hat, hfits.reliable, min_le_right _ _⟩
    · exact ⟨rfl, rfl, rfl, hfits.reliable, le_rfl⟩
  | dataRead | resetRead | maxStreamDataSent | maxDataSent => cases hframe

/-- A frame the stream remembers is accepted again without any effect exactly when it is
repeatable. -/
lemma Sound.onCall_again_iff (hr : r.Sound) (hframe : frameStream call = some i)
    (h : (r.streams i).Remembers call) :
    r.onCall call = (r, .ok) ↔ (r.streams i).Repeatable call := by
  have hs := hr.streams i
  cases call with
  | data j offset length fin =>
    cases hframe
    rw [← hs.dataFits_again_iff hr.flow h]
    constructor
    · intro heq
      exact (quicStreamOnData_ok_iff hs hr.flow length.toNat_lt).mp (congrArg Prod.snd heq)
    · intro hfits
      obtain ⟨arrival, heq⟩ := quicStreamOnData_accepted hs hr.flow hfits
      have hnew : offset.toNat + length.toNat - (r.streams i).recvHighest = 0 := by
        have := h.2.1
        omega
      simp only [Receivers.onCall, heq, hs.received_again h, setStream_same, hnew, Nat.add_zero]
  | resetReceived j errorCode finalSize =>
    cases hframe
    obtain ⟨hknown, hsize, hreset⟩ := h
    have hfits : ResetFits (r.streams i) finalSize.toNat :=
      ⟨fun _ => hsize, hsize ▸ hs.size hknown⟩
    simp only [Receivers.onCall, quicStreamOnResetReceived_accepted hfits, Prod.mk.injEq, and_true]
    rw [setStream_eq_self_iff]
    constructor
    · intro heq
      exact ⟨(congrArg Stream.recvState heq).symm, (congrArg Stream.peerErrorCode heq).symm⟩
    · rintro ⟨hstate, hcode⟩
      exact Stream.resetBy_again hknown hsize hreset hstate hcode
  | resetAtReceived j errorCode finalSize reliableSize =>
    cases hframe
    obtain ⟨hknown, hsize, hat, hle, hreliable⟩ := h
    have hfits : ResetAtFits (r.streams i) errorCode.toNat finalSize.toNat reliableSize.toNat ↔
        (r.streams i).peerErrorCode = errorCode.toNat :=
      ⟨fun hfits => hfits.code hat, fun hcode =>
        ⟨⟨fun _ => hsize, hsize ▸ hs.size hknown⟩, hle, fun _ => hat, fun _ => hcode⟩⟩
    constructor
    · intro heq
      exact hfits.mp (quicStreamOnResetAtReceived_ok_iff.mp (congrArg Prod.snd heq))
    · intro hcode
      simp only [Receivers.onCall, quicStreamOnResetAtReceived_accepted hs (hfits.mpr hcode),
        Prod.mk.injEq, and_true]
      rw [setStream_eq_self_iff, Stream.resetAtBy, if_pos hat, min_eq_left hreliable]
  | dataRead | resetRead | maxStreamDataSent | maxDataSent => cases hframe

end Receivers

/-! ## The visitor -/

/-- The received frame a call stands for. -/
def Carries {ι : Type*} : Frame → RecvCall ι → Prop
  | .stream f, .data _ offset length fin =>
    f.offset = offset.toNat ∧ f.data.length = length.toNat ∧ f.fin = fin
  | .resetStream _ errorCode finalSize, .resetReceived _ errorCode' finalSize' =>
    errorCode = errorCode'.toNat ∧ finalSize = finalSize'.toNat
  | .resetStreamAt _ errorCode finalSize reliableSize,
    .resetAtReceived _ errorCode' finalSize' reliableSize' =>
    errorCode = errorCode'.toNat ∧ finalSize = finalSize'.toNat ∧
      reliableSize = reliableSize'.toNat
  | _, _ => False

/-- The visitor of an open connection hands a frame for a stream on and closes nothing. The
limits it may raise on the way are left aside: that is due to the bytes that have arrived, and
not to the frame. -/
def OnlyHandsOn (frame : Frame) (s : Stream) (f : Flow) : Prop :=
  ∀ env fuel (visit : Visit) (c c' : Connection) reply, visit.Takes c →
    frameStreamId frame = some s.id → quicStreamTableFind c.streams s.id = some s → c.flow = f →
    visitFrame env fuel visit frame c = some (c', reply) →
      reply = .deliver ∧
        (quicFlowShouldExtend f = false → quicStreamShouldExtend s = false →
          quicConnectionIsClosed c' = false ∧ c'.streams = c.streams ∧ c'.flow = c.flow)

section Visit

variable {env : Env} {fuel : ℕ} {visit : Visit} {c c' : Connection} {reply : VisitReply}

/-- A STREAM frame without any effect is handed on. -/
lemma visitStreamData_again {f : StreamFrame} {s : Stream} {arrival : DataArrival}
    (hfind : quicStreamTableFind c.streams f.id = some s)
    (heq : quicStreamOnData s c.flow f.offset f.data.length f.fin = (s, c.flow, .ok, arrival))
    (h : visitStreamData env fuel visit f s c = some (c', reply)) :
    reply = .deliver ∧ (quicFlowShouldExtend c.flow = false → quicStreamShouldExtend s = false →
      c' = (deliverToHandler c).1) := by
  unfold visitStreamData at h
  simp only [heq, StreamTable.setStream_of_find hfind] at h
  split at h
  · cases h
  rename_i c₁ hdata
  split at h
  · cases h
  rename_i c₂ hstream
  cases h
  refine ⟨rfl, ?_⟩
  intro hflow hlimit
  obtain rfl : c₁ = c := Option.some.inj (hdata.symm.trans (grantMaxData_of_room hflow))
  obtain rfl : c₂ = c₁ := Option.some.inj (hstream.symm.trans (grantMaxStreamData_of_room hfind hlimit))
  rfl

/-- A frame without any effect on its stream is handed on. -/
lemma onlyHandsOn_of_again {ι : Type*} [DecidableEq ι] {r : Receivers ι} {i : ι}
    {call : RecvCall ι} (hframe : Receivers.frameStream call = some i)
    (heq : r.onCall call = (r, .ok)) {frame : Frame} (hcarries : Carries frame call) :
    OnlyHandsOn frame (r.streams i) r.flow := by
  intro env fuel visit c c' reply hvisit hid hfind hflow h
  rw [visitFrame_of_find hvisit hid hfind] at h
  have hstate : ∀ s, r.setStream i s = r → s = r.streams i := fun s =>
    Receivers.setStream_eq_self_iff.mp
  have hopen := hvisit.isOpen
  cases call with
  | data j offset length fin =>
    cases hframe
    cases frame <;> try exact hcarries.elim
    rename_i f
    obtain ⟨hoffset, hlength, hfin⟩ := hcarries
    have hname : f.id = (r.streams i).id := Option.some.inj hid
    rw [← hname] at hfind
    obtain ⟨s, flow, status, arrival, hdata⟩ : ∃ s flow status arrival,
        quicStreamOnData (r.streams i) r.flow offset.toNat length.toNat fin =
          (s, flow, status, arrival) := ⟨_, _, _, _, rfl⟩
    simp only [Receivers.onCall, hdata, Prod.mk.injEq] at heq
    obtain ⟨hr, rfl⟩ := heq
    have hs : s = r.streams i := by
      have := congrArg (fun r => r.streams i) hr
      simpa using this
    have hf : flow = r.flow := congrArg Receivers.flow hr
    subst hs hf
    rw [← hoffset, ← hlength, ← hfin, ← hflow] at hdata
    obtain ⟨hreply, hquiet⟩ :=
      visitStreamData_again (c := countFrame (.stream f) c) hfind hdata h
    refine ⟨hreply, ?_⟩
    intro hextend hextend'
    rw [hquiet (by rw [countFrame_flow, hflow]; exact hextend) hextend']
    exact ⟨hopen, rfl, rfl⟩
  | resetReceived j errorCode finalSize =>
    cases hframe
    cases frame <;> try exact hcarries.elim
    obtain ⟨rfl, rfl⟩ := hcarries
    obtain ⟨s, status, hreset⟩ : ∃ s status, quicStreamOnResetReceived (r.streams i)
        errorCode.toNat finalSize.toNat = (s, status) := ⟨_, _, rfl⟩
    simp only [Receivers.onCall, hreset, Prod.mk.injEq] at heq
    obtain ⟨hr, rfl⟩ := heq
    have hs := hstate s hr
    subst hs
    simp only [visitStream, hreset, countFrame_streams, StreamTable.setStream_of_find hfind,
      Option.some.injEq] at h
    cases h
    exact ⟨rfl, fun _ _ => ⟨hopen, rfl, rfl⟩⟩
  | resetAtReceived j errorCode finalSize reliableSize =>
    cases hframe
    cases frame <;> try exact hcarries.elim
    obtain ⟨rfl, rfl, rfl⟩ := hcarries
    obtain ⟨s, status, hreset⟩ : ∃ s status, quicStreamOnResetAtReceived (r.streams i)
        errorCode.toNat finalSize.toNat reliableSize.toNat = (s, status) := ⟨_, _, rfl⟩
    simp only [Receivers.onCall, hreset, Prod.mk.injEq] at heq
    obtain ⟨hr, rfl⟩ := heq
    have hs := hstate s hr
    subst hs
    simp only [visitStream, hreset, countFrame_streams, StreamTable.setStream_of_find hfind,
      Option.some.injEq] at h
    cases h
    exact ⟨rfl, fun _ _ => ⟨hopen, rfl, rfl⟩⟩
  | dataRead | resetRead | maxStreamDataSent | maxDataSent => cases hframe

end Visit

/-- A frame that was accepted at some point of a run is accepted again at any later point,
without any effect on the streams, the account and the connection, exactly when it is
repeatable there. -/
theorem redelivery_changes_nothing_iff {ι : Type*} [DecidableEq ι] [Fintype ι]
    (maxData peerMaxData : UInt64) (setup : ι → StreamSetup) (before after : List (RecvCall ι))
    (call : RecvCall ι) (i : ι) (hframe : Receivers.frameStream call = some i)
    (hok : (((Receivers.init maxData peerMaxData setup).run before).onCall call).2 = .ok) :
    let r := (Receivers.init maxData peerMaxData setup).run (before ++ call :: after)
    (r.onCall call = (r, .ok) ∧
        (∀ frame, Carries frame call → OnlyHandsOn frame (r.streams i) r.flow) ∧
        (quicStreamRecvFinished (r.streams i) = true →
          quicStreamRecvFinished ((r.onCall call).1.streams i) = true)) ↔
      (r.streams i).Repeatable call := by
  intro r
  have hinit := Receivers.init_sound maxData peerMaxData setup
  have hbefore := hinit.run before
  have hr : r.Sound := hinit.run _
  have hremembers : (r.streams i).Remembers call := by
    have hlater := ((hbefore.onCall call).1).later_run after i
    have hrun : r = (((Receivers.init maxData peerMaxData setup).run before).onCall call).1.run
        after := by
      simp only [r, Receivers.run_append, Receivers.run_cons]
    rw [hrun]
    exact (hbefore.remembers_of_accepted hframe hok).later hlater
  rw [← hr.onCall_again_iff hframe hremembers]
  constructor
  · rintro ⟨heq, -, -⟩
    exact heq
  · intro heq
    refine ⟨heq, fun frame hcarries => onlyHandsOn_of_again hframe heq hcarries, ?_⟩
    rw [heq]
    exact fun h => h

/-- Five bytes that arrive again after two more have arrived and all have been read. -/
theorem five_bytes_redelivered :
    let r := tenByteStream.run [.data () 0 5 false, .data () 5 2 false, .dataRead () 7]
    r.onCall (.data () 0 5 false) = (r, .ok) := by
  have hunread : (((tenByteStream.run
      [.data () 0 5 false, .data () 5 2 false, .dataRead () 7]).streams ()).Repeatable
        (.data () 0 5 false : RecvCall Unit)) := by
    rintro ⟨hread, -⟩
    exact absurd hread (by decide)
  exact ((redelivery_changes_nothing_iff (ι := Unit) 1000 0 _ []
    [.data () 5 2 false, .dataRead () 7] (.data () 0 5 false) () rfl (by decide)).mpr hunread).1

/-- A stream whose reset has been read. -/
def resetWasRead : Receivers Unit := tenByteStream.run [.resetReceived () 7 5, .resetRead ()]

/-- A stream whose five bytes have been read to their end. -/
def dataWasRead : Receivers Unit := tenByteStream.run [.data () 0 5 true, .dataRead () 5]

/-- A RESET_STREAM that arrives again after it was read takes the receive half back to where
the reset has not been read, and data that arrives again after it was read is refused. -/
theorem redelivery_after_read_not_harmless :
    ((tenByteStream.onCall (.resetReceived () 7 5)).2 = .ok ∧
        quicStreamRecvFinished (resetWasRead.streams ()) = true ∧
        quicStreamRecvFinished ((resetWasRead.onCall (.resetReceived () 7 5)).1.streams ()) =
          false) ∧
      (tenByteStream.onCall (.data () 0 5 true)).2 = .ok ∧
      (dataWasRead.onCall (.data () 0 5 true)).2 = .state := by
  decide

end WebTransport
