import WebTransport.Quic.ReceiveFlow
import Mathlib.Algebra.BigOperators.Group.Finset.Basic
import Mathlib.Algebra.Order.BigOperators.Group.Finset

/-!
# The account of received bytes

A family of streams shares the flow control of one connection. The peer's frames and the
application's reads reach them in any order and with any 64-bit numbers, and this endpoint
may raise its limits in between. Whatever the order, the account of the connection is the sum
of the highest bytes the streams have seen, and it is within the limit.

A reset is where the account parts from what the peer counts. The final size it carries is
recorded and never charged, so the sum of what the peer may have sent stays within the limit
only as long as no reset announces bytes that have not arrived.
-/

namespace WebTransport

open scoped BigOperators

/-! ## The streams of a connection and the calls on them -/

/-- Streams that share the flow control of one connection. -/
structure Receivers (ι : Type*) where
  flow : Flow
  streams : ι → Stream

/-- What a stream is set up with. -/
structure StreamSetup where
  id : UInt64
  initiatedByUs : Bool
  bidirectional : Bool
  maxStreamData : UInt64
  peerMaxStreamData : UInt64

/-- The calls that concern the receive halves. -/
inductive RecvCall (ι : Type*)
  | data (i : ι) (offset length : UInt64) (fin : Bool)
  | resetReceived (i : ι) (errorCode finalSize : UInt64)
  | resetAtReceived (i : ι) (errorCode finalSize reliableSize : UInt64)
  | dataRead (i : ι) (length : UInt64)
  | resetRead (i : ι)
  | maxStreamDataSent (i : ι) (newMax : UInt64)
  | maxDataSent (newMax : UInt64)
deriving DecidableEq

namespace Receivers

variable {ι : Type*}

/-- Streams nothing has arrived on. -/
def init (maxData peerMaxData : UInt64) (setup : ι → StreamSetup) : Receivers ι where
  flow := quicFlowInit maxData.toNat peerMaxData.toNat
  streams i :=
    quicStreamInit (setup i).id.toNat (setup i).initiatedByUs (setup i).bidirectional
      (setup i).maxStreamData.toNat (setup i).peerMaxStreamData.toNat

variable [DecidableEq ι]

/-- Replace one stream. -/
def setStream (r : Receivers ι) (i : ι) (s : Stream) : Receivers ι :=
  { r with streams := Function.update r.streams i s }

/-- One call on one of the streams. -/
def onCall (r : Receivers ι) : RecvCall ι → Receivers ι × Status
  | .data i offset length fin =>
    let result := quicStreamOnData (r.streams i) r.flow offset.toNat length.toNat fin
    ({ r.setStream i result.1 with flow := result.2.1 }, result.2.2.1)
  | .resetReceived i errorCode finalSize =>
    let result := quicStreamOnResetReceived (r.streams i) errorCode.toNat finalSize.toNat
    (r.setStream i result.1, result.2)
  | .resetAtReceived i errorCode finalSize reliableSize =>
    let result := quicStreamOnResetAtReceived (r.streams i) errorCode.toNat finalSize.toNat
      reliableSize.toNat
    (r.setStream i result.1, result.2)
  | .dataRead i length =>
    let result := quicStreamOnDataRead (r.streams i) length.toNat
    (r.setStream i result.1, result.2)
  | .resetRead i =>
    let result := quicStreamOnResetRead (r.streams i)
    (r.setStream i result.1, result.2)
  | .maxStreamDataSent i newMax =>
    (r.setStream i (quicStreamOnMaxStreamDataSent (r.streams i) newMax.toNat), .ok)
  | .maxDataSent newMax => ({ r with flow := quicFlowOnMaxDataSent r.flow newMax.toNat }, .ok)

/-- The state after a sequence of calls. -/
def run (r : Receivers ι) (calls : List (RecvCall ι)) : Receivers ι :=
  calls.foldl (fun r call => (r.onCall call).1) r

@[simp] lemma run_nil (r : Receivers ι) : r.run [] = r := rfl

@[simp] lemma run_cons (r : Receivers ι) (call : RecvCall ι) (calls : List (RecvCall ι)) :
    r.run (call :: calls) = ((r.onCall call).1).run calls := rfl

lemma run_append (r : Receivers ι) (calls later : List (RecvCall ι)) :
    r.run (calls ++ later) = (r.run calls).run later :=
  List.foldl_append

/-- A property that every call keeps holds after any sequence of calls. -/
lemma run_induction {P : Receivers ι → Prop} {r : Receivers ι} (h : P r)
    (hstep : ∀ r call, P r → P (r.onCall call).1) (calls : List (RecvCall ι)) :
    P (r.run calls) := by
  induction calls generalizing r with
  | nil => exact h
  | cons call calls ih => exact ih (hstep r call h)

@[simp] lemma setStream_same (r : Receivers ι) (i : ι) : r.setStream i (r.streams i) = r := by
  simp [setStream]

@[simp] lemma setStream_flow (r : Receivers ι) (i : ι) (s : Stream) :
    (r.setStream i s).flow = r.flow := rfl

@[simp] lemma setStream_streams (r : Receivers ι) (i : ι) (s : Stream) :
    (r.setStream i s).streams = Function.update r.streams i s := rfl

/-! ## The account is the sum of the streams -/

variable [Fintype ι]

/-- Replacing one stream exchanges its part of a sum. -/
lemma sum_setStream (r : Receivers ι) (i : ι) (s : Stream) (f : Stream → ℕ) :
    (∑ j, f ((r.setStream i s).streams j)) + f (r.streams i) = (∑ j, f (r.streams j)) + f s := by
  have hnew := Finset.add_sum_erase Finset.univ (fun j => f ((r.setStream i s).streams j))
    (Finset.mem_univ i)
  have hold := Finset.add_sum_erase Finset.univ (fun j => f (r.streams j)) (Finset.mem_univ i)
  have hothers : ∑ j ∈ Finset.univ.erase i, f ((r.setStream i s).streams j) =
      ∑ j ∈ Finset.univ.erase i, f (r.streams j) := by
    refine Finset.sum_congr rfl fun j hj => ?_
    rw [setStream_streams, Function.update_of_ne (Finset.ne_of_mem_erase hj)]
  rw [← hnew, ← hold, hothers]
  simp only [setStream_streams, Function.update_self]
  omega

/-- What every call keeps true of the streams and of their account. -/
structure Sound (r : Receivers ι) : Prop where
  flow : r.flow.Sound
  streams : ∀ i, (r.streams i).RecvSound
  total : r.flow.dataReceived = ∑ i, (r.streams i).recvHighest

omit [DecidableEq ι] in
lemma init_sound (maxData peerMaxData : UInt64) (setup : ι → StreamSetup) :
    (init maxData peerMaxData setup).Sound := by
  refine ⟨⟨Nat.zero_le _, maxData.toNat_lt⟩, ?_, ?_⟩
  · intro i
    exact quicStreamInit_sound _ _ _ (setup i).maxStreamData.toNat_lt _
  · simp [init, quicFlowInit, quicStreamInit]

/-- A stream that keeps its highest byte keeps the account. -/
lemma Sound.setStream {r : Receivers ι} (hr : r.Sound) {i : ι} {s : Stream} (hs : s.RecvSound)
    (hhighest : s.recvHighest = (r.streams i).recvHighest) : (r.setStream i s).Sound := by
  refine ⟨hr.flow, ?_, ?_⟩
  · intro j
    by_cases hj : j = i
    · subst hj
      simpa using hs
    · simpa [Function.update_of_ne hj] using hr.streams j
  · have hsum := r.sum_setStream i s Stream.recvHighest
    have htotal := hr.total
    simp only [setStream_flow]
    omega

/-- A STREAM frame keeps the streams and the account in step. -/
lemma Sound.onData {r : Receivers ι} (hr : r.Sound) (i : ι) (offset length : UInt64) (fin : Bool) :
    (r.onCall (.data i offset length fin)).1.Sound ∧
      ((r.onCall (.data i offset length fin)).2 ≠ .ok →
        (r.onCall (.data i offset length fin)).1 = r) := by
  have hs := hr.streams i
  by_cases hfits : DataFits (r.streams i) r.flow offset.toNat length.toNat fin
  · obtain ⟨arrival, heq⟩ := quicStreamOnData_accepted hs hr.flow hfits
    simp only [onCall, heq]
    refine ⟨⟨⟨hfits.connection, hr.flow.limit⟩, ?_, ?_⟩, fun h => absurd rfl h⟩
    · intro j
      by_cases hj : j = i
      · subst hj
        simpa using hs.received hfits
      · simpa [Function.update_of_ne hj] using hr.streams j
    · -- The credit charged is the advance of this one stream.
      have hsum := r.sum_setStream i ((r.streams i).received (offset.toNat + length.toNat) fin)
        Stream.recvHighest
      have htotal := hr.total
      have hhighest : ((r.streams i).received (offset.toNat + length.toNat) fin).recvHighest =
          max (r.streams i).recvHighest (offset.toNat + length.toNat) := rfl
      simp only
      omega
  · obtain ⟨status, arrival, hstatus, heq⟩ :=
      quicStreamOnData_refused hs hr.flow length.toNat_lt hfits
    simp only [onCall, heq, setStream_same]
    exact ⟨hr, fun _ => trivial⟩

/-- Every call keeps the streams and the account in step, and a call that is refused changes
nothing. -/
theorem Sound.onCall {r : Receivers ι} (hr : r.Sound) (call : RecvCall ι) :
    (r.onCall call).1.Sound ∧ ((r.onCall call).2 ≠ .ok → (r.onCall call).1 = r) := by
  cases call with
  | data i offset length fin => exact hr.onData i offset length fin
  | resetReceived i errorCode finalSize =>
    by_cases hfits : ResetFits (r.streams i) finalSize.toNat
    · simp only [Receivers.onCall, quicStreamOnResetReceived_accepted hfits]
      exact ⟨hr.setStream ((hr.streams i).resetBy hfits _) rfl, fun h => absurd rfl h⟩
    · simp only [Receivers.onCall, quicStreamOnResetReceived_refused hfits, setStream_same]
      exact ⟨hr, fun _ => trivial⟩
  | resetAtReceived i errorCode finalSize reliableSize =>
    by_cases hfits : ResetAtFits (r.streams i) errorCode.toNat finalSize.toNat reliableSize.toNat
    · simp only [Receivers.onCall, quicStreamOnResetAtReceived_accepted (hr.streams i) hfits]
      refine ⟨hr.setStream ((hr.streams i).resetAtBy hfits) ?_, fun h => absurd rfl h⟩
      unfold Stream.resetAtBy
      split
      · rfl
      · rfl
    · obtain ⟨status, hstatus, heq⟩ := quicStreamOnResetAtReceived_refused (hr.streams i) hfits
      simp only [Receivers.onCall, heq, setStream_same]
      exact ⟨hr, fun _ => trivial⟩
  | dataRead i length =>
    obtain ⟨hsound, hhighest, hrefused⟩ :=
      quicStreamOnDataRead_sound (hr.streams i) length.toNat
    refine ⟨hr.setStream hsound hhighest, ?_⟩
    intro hstatus
    simp only [Receivers.onCall]
    rw [hrefused hstatus, setStream_same]
  | resetRead i =>
    obtain ⟨hsound, hhighest, hrefused⟩ := quicStreamOnResetRead_sound (hr.streams i)
    refine ⟨hr.setStream hsound hhighest, ?_⟩
    intro hstatus
    simp only [Receivers.onCall]
    rw [hrefused hstatus, setStream_same]
  | maxStreamDataSent i newMax =>
    obtain ⟨hsound, hhighest⟩ :=
      quicStreamOnMaxStreamDataSent_sound (hr.streams i) newMax.toNat_lt
    exact ⟨hr.setStream hsound hhighest, fun h => absurd rfl h⟩
  | maxDataSent newMax =>
    refine ⟨⟨?_, hr.streams, ?_⟩, fun h => absurd rfl h⟩
    · have hreceived := hr.flow.received
      have hlimit := hr.flow.limit
      have hnew := newMax.toNat_lt
      simp only [Receivers.onCall, quicFlowOnMaxDataSent]
      split
      · exact ⟨by simp only; omega, hnew⟩
      · exact ⟨hreceived, hlimit⟩
    · simp only [Receivers.onCall, quicFlowOnMaxDataSent]
      split
      · exact hr.total
      · exact hr.total

/-- The account stays in step over any sequence of calls. -/
lemma Sound.run {r : Receivers ι} (hr : r.Sound) (calls : List (RecvCall ι)) :
    (r.run calls).Sound :=
  run_induction hr (fun _ call h => (h.onCall call).1) calls

end Receivers

/-- Receive flow control is exact. After any sequence of calls on streams that share a
connection, the bytes charged to the connection are the sum of what the streams have seen and
within its limit; each stream has read no more than it has seen, has seen no more than its
limit, and no more than its final size once that is known. A call that is refused changes
nothing. -/
theorem receive_flow_exact {ι : Type*} [DecidableEq ι] [Fintype ι] (maxData peerMaxData : UInt64)
    (setup : ι → StreamSetup) (calls : List (RecvCall ι)) :
    let r := (Receivers.init maxData peerMaxData setup).run calls
    r.flow.dataReceived = ∑ i, (r.streams i).recvHighest ∧
      r.flow.dataReceived ≤ r.flow.maxData ∧
      (∀ i, (r.streams i).recvOffset ≤ (r.streams i).recvHighest ∧
        (r.streams i).recvHighest ≤ (r.streams i).maxStreamData ∧
        ((r.streams i).hasRecvFinalSize = true →
          (r.streams i).recvHighest ≤ (r.streams i).recvFinalSize)) ∧
      ∀ call, (r.onCall call).2 ≠ .ok → (r.onCall call).1 = r := by
  intro r
  have hr : r.Sound := (Receivers.init_sound maxData peerMaxData setup).run calls
  refine ⟨hr.total, hr.flow.received, ?_, ?_⟩
  · intro i
    exact ⟨(hr.streams i).offset, (hr.streams i).highest, (hr.streams i).size⟩
  · intro call
    exact (hr.onCall call).2

/-! ## Resets and the account -/

namespace Receivers

variable {ι : Type*} [DecidableEq ι]

/-- The stream a reset names and the final size it carries. -/
def resetOf : RecvCall ι → Option (ι × ℕ)
  | .resetReceived i _ finalSize => some (i, finalSize.toNat)
  | .resetAtReceived i _ finalSize _ => some (i, finalSize.toNat)
  | _ => none

/-- Whether a reset agrees with what is known of its stream, so that the stream's machine
takes it. -/
def ResetAgrees (r : Receivers ι) : RecvCall ι → Prop
  | .resetReceived i _ finalSize => ResetFits (r.streams i) finalSize.toNat
  | .resetAtReceived i errorCode finalSize reliableSize =>
    ResetAtFits (r.streams i) errorCode.toNat finalSize.toNat reliableSize.toNat
  | _ => False

/-- A reset is charged like data that ends at its final size: it is refused when that is above
one of the two limits, and when it is accepted both accounts move up to it. -/
def ResetCharged (r : Receivers ι) (call : RecvCall ι) : Prop :=
  ∀ i finalSize, resetOf call = some (i, finalSize) →
    ((r.onCall call).2 = .ok →
      (r.onCall call).1.flow.dataReceived =
          r.flow.dataReceived + (finalSize - (r.streams i).recvHighest) ∧
        ((r.onCall call).1.streams i).recvHighest = finalSize) ∧
    ((r.streams i).maxStreamData < finalSize ∨
        r.flow.maxData < r.flow.dataReceived + (finalSize - (r.streams i).recvHighest) →
      (r.onCall call).2 ≠ .ok)

/-- A reset there is nothing to charge for: it contradicts what is known of the stream, or it
announces just the bytes that have arrived, and those are within the limits. -/
def NothingToCharge (r : Receivers ι) (call : RecvCall ι) : Prop :=
  ∀ i finalSize, resetOf call = some (i, finalSize) →
    ¬r.ResetAgrees call ∨
      finalSize = (r.streams i).recvHighest ∧ finalSize ≤ (r.streams i).maxStreamData ∧
        r.flow.dataReceived ≤ r.flow.maxData

/-- No reset of a run has anything to charge for. -/
def NeverToCharge (r : Receivers ι) : List (RecvCall ι) → Prop
  | [] => True
  | call :: calls => r.NothingToCharge call ∧ NeverToCharge (r.onCall call).1 calls

/-- What the peer may have sent on a stream, as far as it has said. -/
def announced (s : Stream) : ℕ :=
  if s.hasRecvFinalSize then max s.recvHighest s.recvFinalSize else s.recvHighest

/-- A reset is accepted exactly when it agrees with what is known of its stream. -/
lemma onCall_reset_ok_iff {r : Receivers ι} {call : RecvCall ι} {i : ι} {finalSize : ℕ}
    (hcall : resetOf call = some (i, finalSize)) :
    (r.onCall call).2 = .ok ↔ r.ResetAgrees call := by
  cases call with
  | resetReceived i errorCode finalSize => exact quicStreamOnResetReceived_ok_iff
  | resetAtReceived i errorCode finalSize reliableSize =>
    exact quicStreamOnResetAtReceived_ok_iff
  | data | dataRead | resetRead | maxStreamDataSent | maxDataSent => cases hcall

/-- A reset moves neither account, whether it is accepted or not. -/
lemma onCall_reset_account {r : Receivers ι} {call : RecvCall ι} {i : ι} {finalSize : ℕ}
    (hcall : resetOf call = some (i, finalSize)) :
    (r.onCall call).1.flow = r.flow ∧
      ((r.onCall call).1.streams i).recvHighest = (r.streams i).recvHighest := by
  cases call with
  | resetReceived j errorCode size =>
    cases hcall
    refine ⟨rfl, ?_⟩
    simp only [onCall, setStream_streams, Function.update_self]
    exact quicStreamOnResetReceived_recvHighest _ _ _
  | resetAtReceived j errorCode size reliableSize =>
    cases hcall
    refine ⟨rfl, ?_⟩
    simp only [onCall, setStream_streams, Function.update_self]
    exact quicStreamOnResetAtReceived_recvHighest _ _ _ _
  | data | dataRead | resetRead | maxStreamDataSent | maxDataSent => cases hcall

/-- A reset is charged as it should be exactly when there is nothing to charge for. -/
lemma resetCharged_iff (r : Receivers ι) (call : RecvCall ι) :
    r.ResetCharged call ↔ r.NothingToCharge call := by
  refine forall_congr' fun i => forall_congr' fun finalSize => imp_congr_right fun hcall => ?_
  obtain ⟨hflow, hhighest⟩ := onCall_reset_account (r := r) hcall
  rw [ne_eq, onCall_reset_ok_iff hcall, hflow, hhighest]
  constructor
  · rintro ⟨hcharged, hlimits⟩
    by_cases hagrees : r.ResetAgrees call
    · obtain ⟨-, hsize⟩ := hcharged hagrees
      right
      refine ⟨hsize.symm, ?_, ?_⟩
      · by_contra hlt
        exact hlimits (.inl (not_le.mp hlt)) hagrees
      · by_contra hlt
        exact hlimits (.inr (lt_of_lt_of_le (not_le.mp hlt) (Nat.le_add_right _ _))) hagrees
    · exact .inl hagrees
  · rintro (hagrees | ⟨hsize, hstream, hconnection⟩)
    · exact ⟨fun h => absurd h hagrees, fun _ => hagrees⟩
    · have hzero : finalSize - (r.streams i).recvHighest = 0 := by omega
      refine ⟨fun _ => ⟨by omega, hsize.symm⟩, ?_⟩
      rintro (hlt | hlt)
      · omega
      · omega

/-- Every final size that is known has arrived in full. -/
def Arrived (r : Receivers ι) : Prop :=
  ∀ i, (r.streams i).hasRecvFinalSize = true →
    (r.streams i).recvFinalSize = (r.streams i).recvHighest

/-- Replacing a stream by one that has arrived in full. -/
lemma Arrived.setStream {r : Receivers ι} (h : r.Arrived) {i : ι} {s : Stream}
    (hs : s.hasRecvFinalSize = true → s.recvFinalSize = s.recvHighest) :
    (r.setStream i s).Arrived := by
  intro j
  by_cases hj : j = i
  · subst hj
    simpa using hs
  · simpa [Function.update_of_ne hj] using h j

variable [Fintype ι]

/-- Data that is accepted keeps every known final size arrived in full. -/
lemma Arrived.onData {r : Receivers ι} (h : r.Arrived) (hr : r.Sound) (i : ι)
    (offset length : UInt64) (fin : Bool) :
    (r.onCall (.data i offset length fin)).1.Arrived := by
  have hs := hr.streams i
  by_cases hfits : DataFits (r.streams i) r.flow offset.toNat length.toNat fin
  · obtain ⟨arrival, heq⟩ := quicStreamOnData_accepted hs hr.flow hfits
    simp only [Receivers.onCall, heq]
    refine Arrived.setStream h ?_
    cases fin with
    | true =>
      intro _
      exact (max_eq_right (hfits.last rfl)).symm
    | false =>
      intro hknown
      have hold : (r.streams i).hasRecvFinalSize = true := by
        simpa [Stream.received] using hknown
      have hfinal := h i hold
      have hwithin := (hfits.within hold).1
      show (r.streams i).recvFinalSize = max _ _
      omega
  · obtain ⟨status, arrival, hstatus, heq⟩ :=
      quicStreamOnData_refused hs hr.flow length.toNat_lt hfits
    simpa only [Receivers.onCall, heq, setStream_same] using h

/-- A call keeps every known final size arrived in full, unless it is a reset that announces
more. -/
lemma Arrived.onCall {r : Receivers ι} (h : r.Arrived) (hr : r.Sound) {call : RecvCall ι}
    (hcall : r.NothingToCharge call) : (r.onCall call).1.Arrived := by
  cases call with
  | data i offset length fin => exact h.onData hr i offset length fin
  | resetReceived i errorCode finalSize =>
    by_cases hfits : ResetFits (r.streams i) finalSize.toNat
    · simp only [Receivers.onCall, quicStreamOnResetReceived_accepted hfits]
      refine h.setStream fun _ => ?_
      rcases hcall i _ rfl with hagrees | ⟨hsize, -⟩
      · exact absurd hfits hagrees
      · exact hsize
    · simpa only [Receivers.onCall, quicStreamOnResetReceived_refused hfits, setStream_same] using h
  | resetAtReceived i errorCode finalSize reliableSize =>
    by_cases hfits : ResetAtFits (r.streams i) errorCode.toNat finalSize.toNat reliableSize.toNat
    · simp only [Receivers.onCall, quicStreamOnResetAtReceived_accepted (hr.streams i) hfits]
      refine h.setStream ?_
      rcases hcall i _ rfl with hagrees | ⟨hsize, -⟩
      · exact absurd hfits hagrees
      · unfold Stream.resetAtBy
        split
        · exact h i
        · exact fun _ => hsize
    · obtain ⟨status, hstatus, heq⟩ := quicStreamOnResetAtReceived_refused (hr.streams i) hfits
      simpa only [Receivers.onCall, heq, setStream_same] using h
  | dataRead i length =>
    refine h.setStream ?_
    unfold quicStreamOnDataRead
    split
    · exact h i
    split
    · exact h i
    simp only
    split
    · exact h i
    · exact h i
  | resetRead i =>
    refine h.setStream ?_
    unfold quicStreamOnResetRead
    split
    · exact h i
    · exact h i
  | maxStreamDataSent i newMax =>
    refine h.setStream ?_
    unfold quicStreamOnMaxStreamDataSent
    split
    · exact h i
    · exact h i
  | maxDataSent newMax => exact h

/-- A run without anything to charge for keeps every known final size arrived in full. -/
lemma Arrived.run {r : Receivers ι} (h : r.Arrived) (hr : r.Sound) {calls : List (RecvCall ι)}
    (hcalls : r.NeverToCharge calls) : (r.run calls).Arrived := by
  induction calls generalizing r with
  | nil => exact h
  | cons call calls ih => exact ih (h.onCall hr hcalls.1) (hr.onCall call).1 hcalls.2

omit [DecidableEq ι] in
/-- Once every known final size has arrived, the peer has announced just what is charged. -/
lemma Arrived.sum_announced {r : Receivers ι} (h : r.Arrived) :
    ∑ i, announced (r.streams i) = ∑ i, (r.streams i).recvHighest := by
  refine Finset.sum_congr rfl fun i _ => ?_
  unfold announced
  split
  · rename_i hknown
    rw [h i hknown, max_self]
  · rfl

end Receivers

/-- A reset is charged against flow control exactly when there is nothing to charge for. In a
run in which that holds of every reset, what the peer has announced over all streams stays
within the limit of the connection. -/
theorem reset_charged_iff_nothing_to_charge {ι : Type*} [DecidableEq ι] [Fintype ι] :
    (∀ (r : Receivers ι) (call : RecvCall ι), r.ResetCharged call ↔ r.NothingToCharge call) ∧
      ∀ (maxData peerMaxData : UInt64) (setup : ι → StreamSetup) (calls : List (RecvCall ι)),
        (Receivers.init maxData peerMaxData setup).NeverToCharge calls →
          ∑ i, Receivers.announced
              (((Receivers.init maxData peerMaxData setup).run calls).streams i) ≤
            ((Receivers.init maxData peerMaxData setup).run calls).flow.maxData := by
  refine ⟨Receivers.resetCharged_iff, ?_⟩
  intro maxData peerMaxData setup calls hcalls
  have hinit := Receivers.init_sound maxData peerMaxData setup
  have hr := hinit.run calls
  have harrived : (Receivers.init maxData peerMaxData setup).Arrived := by
    intro i hknown
    cases hknown
  calc _ = ∑ i, (((Receivers.init maxData peerMaxData setup).run calls).streams i).recvHighest :=
        (harrived.run hinit hcalls).sum_announced
    _ = ((Receivers.init maxData peerMaxData setup).run calls).flow.dataReceived := hr.total.symm
    _ ≤ _ := hr.flow.received

/-- One bidirectional stream of the peer with a limit of ten bytes, on a connection with a
limit of a thousand. -/
def tenByteStream : Receivers Unit :=
  Receivers.init 1000 0 fun _ => ⟨0, false, true, 10, 0⟩

/-- Five bytes and a reset that announces just them. -/
theorem reset_after_five_bytes_charged :
    tenByteStream.NeverToCharge [.data () 0 5 false, .resetReceived () 7 5] ∧
      ∑ i, Receivers.announced
        ((tenByteStream.run [.data () 0 5 false, .resetReceived () 7 5]).streams i) ≤ 1000 := by
  have hcalls : tenByteStream.NeverToCharge [.data () 0 5 false, .resetReceived () 7 5] := by
    refine ⟨?_, ?_, trivial⟩
    · intro i finalSize h
      cases h
    · rintro i finalSize h
      cases h
      exact .inr (by decide)
  exact ⟨hcalls, (reset_charged_iff_nothing_to_charge (ι := Unit)).2 _ _ _ _ hcalls⟩

/-- A reset with a final size of a million is accepted on that stream, charged to nobody, and
takes what the peer has announced far above the limit. -/
theorem reset_of_a_million_not_charged :
    ¬tenByteStream.ResetCharged (.resetReceived () 7 1000000) ∧
      (tenByteStream.onCall (.resetReceived () 7 1000000)).2 = .ok ∧
      1000 < ∑ i, Receivers.announced
        ((tenByteStream.run [.resetReceived () 7 1000000]).streams i) := by
  refine ⟨?_, by decide, by decide⟩
  intro h
  exact (h () 1000000 rfl).2 (.inl (by decide)) (by decide)

end WebTransport
