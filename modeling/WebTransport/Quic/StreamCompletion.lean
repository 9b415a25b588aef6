import WebTransport.Quic.ReceiveAccount

/-!
# The completion of a receive half

A stream is said to be received once its final size is known and the highest byte has reached it
(`quic/stream.c`). The FIN that makes the size known is the highest byte, so this is the arrival of
the first FIN, and a byte below it that has not arrived is missed.
-/

namespace WebTransport

/-- The stream says that everything has arrived. -/
def Stream.Received (s : Stream) : Prop := s.recvState = .dataRecvd ∨ s.recvState = .dataRead

namespace Receivers

variable {ι : Type*} [DecidableEq ι]

/-- A call brings a byte of a stream: an accepted frame that covers it. -/
def Brings (r : Receivers ι) (i : ι) (n : ℕ) : RecvCall ι → Prop
  | .data j offset length fin =>
    j = i ∧ (r.onCall (.data j offset length fin)).2 = .ok ∧
      offset.toNat ≤ n ∧ n < offset.toNat + length.toNat
  | _ => False

/-- A byte of a stream has arrived in a sequence of calls. -/
def ByteArrived (i : ι) (n : ℕ) : Receivers ι → List (RecvCall ι) → Prop
  | _, [] => False
  | r, call :: calls => r.Brings i n call ∨ ByteArrived i n (r.onCall call).1 calls

/-- A call is not about the reset of a stream. -/
def NoReset (i : ι) : RecvCall ι → Prop
  | .resetReceived j _ _ | .resetAtReceived j _ _ _ | .resetRead j => j ≠ i
  | _ => True

/-- A stream that says so has received every byte below its final size. -/
def Whole (r : Receivers ι) (i : ι) (calls : List (RecvCall ι)) : Prop :=
  let s := (r.run calls).streams i
  s.Received → s.hasRecvFinalSize = true ∧ ∀ n < s.recvFinalSize, ByteArrived i n r calls

/-- The frame that ends a stream comes when every byte below it has arrived. -/
def EndsWhole (r : Receivers ι) (i : ι) (calls : List (RecvCall ι)) : RecvCall ι → Prop
  | .data j offset length fin =>
    let s := (r.run calls).streams i
    j = i → fin = true → s.recvState = .recv →
      DataFits s (r.run calls).flow offset.toNat length.toNat fin →
      ∀ n < offset.toNat, ByteArrived i n r calls
  | _ => True

variable {r : Receivers ι} {i : ι} {n : ℕ} {calls : List (RecvCall ι)} {call : RecvCall ι}

lemma byteArrived_append (later : List (RecvCall ι)) :
    ByteArrived i n r (calls ++ later) ↔ ByteArrived i n r calls ∨ ByteArrived i n (r.run calls) later := by
  induction calls generalizing r with
  | nil => simp [ByteArrived]
  | cons call calls ih =>
    rw [List.cons_append, ByteArrived, ByteArrived, run_cons, ih, or_assoc]

/-- A byte that has arrived stays so, and the last call may bring it. -/
lemma byteArrived_concat : ByteArrived i n r (calls ++ [call]) ↔
    ByteArrived i n r calls ∨ (r.run calls).Brings i n call := by
  rw [byteArrived_append, ByteArrived, ByteArrived, or_false]

/-- Either a call leaves the final size as it is and completes nothing, or it is the frame that ends
the stream. -/
lemma onCall_received [Fintype ι] (hr : r.Sound) (hcall : NoReset i call) :
    let s := r.streams i
    let s' := (r.onCall call).1.streams i
    (s'.Received → s.Received) ∧ s'.hasRecvFinalSize = s.hasRecvFinalSize ∧
        s'.recvFinalSize = s.recvFinalSize ∨
      ∃ offset length, call = .data i offset length true ∧ s.recvState = .recv ∧
        DataFits s r.flow offset.toNat length.toNat true ∧ (r.onCall call).2 = .ok ∧
        s'.Received ∧ s'.hasRecvFinalSize = true ∧
        s'.recvFinalSize = offset.toNat + length.toNat := by
  intro s s'
  cases call with
  | data j offset length fin =>
    by_cases hfits : DataFits (r.streams j) r.flow offset.toNat length.toNat fin
    · obtain ⟨arrival, haccepted⟩ := quicStreamOnData_accepted (hr.streams j) hr.flow hfits
      by_cases hj : j = i
      · subst hj
        have hs' : s' = s.received (offset.toNat + length.toNat) fin := by
          simp only [s', onCall, haccepted, setStream_streams, Function.update_self]
          rfl
        rw [hs']
        by_cases hends : fin = true ∧ s.recvState = .recv
        · obtain ⟨rfl, hrecv⟩ := hends
          refine .inr ⟨offset, length, rfl, hrecv, hfits, ?_, ?_, ?_, rfl⟩
          · simp only [onCall, haccepted]
          · exact .inl (if_pos ⟨rfl, hrecv⟩)
          · exact Bool.or_true _
        · have hstate : (s.received (offset.toNat + length.toNat) fin).recvState = s.recvState :=
            if_neg hends
          refine .inl ⟨fun h => ?_, ?_, ?_⟩
          · unfold Stream.Received at h ⊢
            rwa [hstate] at h
          all_goals
            cases fin with
            | false => first | exact Bool.or_false _ | rfl
            | true =>
              -- The stream ended before, at the same byte.
              have hknown : s.hasRecvFinalSize = true :=
                (hr.streams j).known.mpr fun hrecv => hends ⟨rfl, hrecv⟩
              first
              | exact (Bool.or_true _).trans hknown.symm
              | exact (hfits.within hknown).2 rfl
      · refine .inl ?_
        have hs' : s' = s := by
          simp only [s', s, onCall, setStream_streams]
          exact Function.update_of_ne (Ne.symm hj) _ _
        rw [hs']
        exact ⟨id, rfl, rfl⟩
    · obtain ⟨status, arrival, -, hrefused⟩ :=
        quicStreamOnData_refused (hr.streams j) hr.flow length.toNat_lt hfits
      have hs' : s' = s := by
        simp only [s', s, onCall, hrefused, setStream_same]
      rw [hs']
      exact .inl ⟨id, rfl, rfl⟩
  | resetReceived j errorCode finalSize =>
    have hs' : s' = s := Function.update_of_ne (Ne.symm hcall) _ _
    rw [hs']
    exact .inl ⟨id, rfl, rfl⟩
  | resetAtReceived j errorCode finalSize reliableSize =>
    have hs' : s' = s := Function.update_of_ne (Ne.symm hcall) _ _
    rw [hs']
    exact .inl ⟨id, rfl, rfl⟩
  | dataRead j length =>
    refine .inl ?_
    by_cases hj : j = i
    · subst hj
      have hs' : s' = (quicStreamOnDataRead s length.toNat).1 := Function.update_self ..
      rw [hs']
      simp only [quicStreamOnDataRead]
      split_ifs with hreset hlong hdone
      · exact ⟨id, rfl, rfl⟩
      · exact ⟨id, rfl, rfl⟩
      · exact ⟨fun _ => .inl hdone.1, rfl, rfl⟩
      · exact ⟨id, rfl, rfl⟩
    · have hs' : s' = s := Function.update_of_ne (Ne.symm hj) _ _
      rw [hs']
      exact ⟨id, rfl, rfl⟩
  | resetRead j =>
    have hs' : s' = s := Function.update_of_ne (Ne.symm hcall) _ _
    rw [hs']
    exact .inl ⟨id, rfl, rfl⟩
  | maxStreamDataSent j newMax =>
    refine .inl ?_
    by_cases hj : j = i
    · subst hj
      have hs' : s' = quicStreamOnMaxStreamDataSent s newMax.toNat := Function.update_self ..
      rw [hs']
      unfold quicStreamOnMaxStreamDataSent
      split_ifs
      · exact ⟨id, rfl, rfl⟩
      · exact ⟨id, rfl, rfl⟩
    · have hs' : s' = s := Function.update_of_ne (Ne.symm hj) _ _
      rw [hs']
      exact ⟨id, rfl, rfl⟩
  | maxDataSent newMax => exact .inl ⟨id, rfl, rfl⟩

/-- One more call keeps what is said about the stream true, if the frame that ends it comes late
enough. -/
lemma Whole.concat [Fintype ι] (hr : (r.run calls).Sound) (hcall : NoReset i call)
    (hwhole : r.Whole i calls) (hends : r.EndsWhole i calls call) : r.Whole i (calls ++ [call]) := by
  have hlast : (r.run (calls ++ [call])).streams i = ((r.run calls).onCall call).1.streams i := by
    simp only [run_append, run_cons, run_nil]
  simp only [Whole, hlast]
  intro hreceived
  rcases onCall_received hr hcall with ⟨hbefore, hsize, hfinal⟩ |
    ⟨offset, length, rfl, hrecv, hfits, hok, -, hsize, hfinal⟩
  · obtain ⟨hknown, hbytes⟩ := hwhole (hbefore hreceived)
    rw [hsize, hfinal]
    exact ⟨hknown, fun n hn => byteArrived_concat.mpr (.inl (hbytes n hn))⟩
  · refine ⟨hsize, fun n hn => byteArrived_concat.mpr ?_⟩
    rw [hfinal] at hn
    by_cases hbelow : n < offset.toNat
    · exact .inl (hends rfl rfl hrecv hfits n hbelow)
    · exact .inr ⟨rfl, hok, not_lt.mp hbelow, hn⟩

/-- The frame that ends a stream makes it say that it is received, so it comes late enough if that
is true. -/
lemma Whole.endsWhole [Fintype ι] (hr : (r.run calls).Sound)
    (hwhole : r.Whole i (calls ++ [call])) : r.EndsWhole i calls call := by
  cases call with
  | data j offset length fin =>
    rintro rfl rfl hrecv hfits n hn
    obtain ⟨arrival, haccepted⟩ := quicStreamOnData_accepted (hr.streams j) hr.flow hfits
    have hlast : (r.run (calls ++ [.data j offset length true])).streams j =
        ((r.run calls).streams j).received (offset.toNat + length.toNat) true := by
      simp only [run_append, run_cons, run_nil, onCall, haccepted, setStream_streams,
        Function.update_self]
    unfold Whole at hwhole
    rw [hlast] at hwhole
    obtain ⟨-, hbytes⟩ := hwhole (.inl (if_pos ⟨rfl, hrecv⟩))
    rcases byteArrived_concat.mp (hbytes n (Nat.lt_add_right _ hn)) with h | ⟨-, -, hle, -⟩
    · exact h
    · omega
  | resetReceived | resetAtReceived | dataRead | resetRead | maxStreamDataSent | maxDataSent =>
    trivial

end Receivers

open Receivers

/-- In a run without resets of a stream, the stream never says that it is received while a byte is
missing exactly when the frame that ends it comes after every byte below it. -/
theorem stream_received_whole_iff {ι : Type*} [DecidableEq ι] [Fintype ι]
    (maxData peerMaxData : UInt64) (setup : ι → StreamSetup) (i : ι) {calls : List (RecvCall ι)}
    (hcalls : ∀ call ∈ calls, NoReset i call) :
    let r := Receivers.init maxData peerMaxData setup
    (∀ early, early <+: calls → r.Whole i early) ↔
      ∀ early call, early ++ [call] <+: calls → r.EndsWhole i early call := by
  intro r
  have hsound : ∀ early, (r.run early).Sound := (init_sound maxData peerMaxData setup).run
  constructor
  · intro hwhole early call hprefix
    exact (hwhole _ hprefix).endsWhole (hsound early)
  · intro hends early hprefix
    induction early using List.reverseRecOn with
    | nil => rintro (hnone | hnone) <;> cases hnone
    | append_singleton early call ih =>
      have hbefore : early <+: calls := (List.prefix_append _ _).trans hprefix
      have hcall := hcalls call ( hprefix.subset (List.mem_append_right _ List.mem_cons_self))
      exact (ih hbefore).concat (hsound early) hcall (hends early call hprefix)

/-- The first half of a stream, then the second half with the FIN, then a read of all of it. -/
theorem stream_received_whole_in_order :
    (Receivers.init 100 100 fun _ => ⟨0, false, true, 100, 100⟩).Whole ()
      [.data () 0 5 false, .data () 5 5 true, .dataRead () 10] := by
  have hcalls : ∀ call ∈ [RecvCall.data () 0 5 false, .data () 5 5 true, .dataRead () 10],
      NoReset () call := by
    simp [NoReset]
  refine (stream_received_whole_iff 100 100 (fun _ => ⟨0, false, true, 100, 100⟩) () hcalls).mpr ?_
    _ (List.prefix_refl _)
  rintro early call ⟨later, hcall⟩
  match early with
  | [] =>
    obtain ⟨rfl, -⟩ := List.cons.inj hcall
    rintro - hfin
    cases hfin
  | [first] =>
    obtain ⟨hfirst, hcall⟩ := List.cons.inj hcall
    obtain ⟨rfl, -⟩ := List.cons.inj hcall
    rw [hfirst]
    rintro - - - - n hn
    exact .inl ⟨rfl, by decide, Nat.zero_le n, hn⟩
  | [first, second] =>
    obtain ⟨-, hcall⟩ := List.cons.inj hcall
    obtain ⟨-, hcall⟩ := List.cons.inj hcall
    obtain ⟨rfl, -⟩ := List.cons.inj hcall
    trivial
  | first :: second :: third :: rest => simp at hcall

/-- The second half of a stream with the FIN is all that arrives, and the stream says that it is
received. -/
theorem stream_received_with_hole : ¬∀ (maxData peerMaxData : UInt64) (setup : Unit → StreamSetup)
    (calls : List (RecvCall Unit)), (∀ call ∈ calls, NoReset () call) →
    ∀ early, early <+: calls → (Receivers.init maxData peerMaxData setup).Whole () early := by
  intro h
  have hwhole := h 100 100 (fun _ => ⟨0, false, true, 100, 100⟩) [.data () 5 5 true]
    (by simp [NoReset]) _ (List.prefix_refl _)
  obtain ⟨-, hbytes⟩ := hwhole (.inl (by decide))
  have hzero := hbytes 0 (by decide)
  simp [ByteArrived, Brings] at hzero

end WebTransport
