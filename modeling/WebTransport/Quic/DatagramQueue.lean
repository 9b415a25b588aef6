import WebTransport.Core.Status
import WebTransport.Lib.BoundedFifo

/-!
# The queue of received datagrams

A ring of eight slots between the connection and the application (`quic/datagram.c`). A slot keeps
the bytes that were copied into it before, so that a datagram is as many of them as its length says.
The ring is a bounded queue that drops the newest datagram.
-/

namespace WebTransport

open BoundedFifo

/-- `WT_QUIC_DATAGRAM_MAX`. -/
def quicDatagramMax : ℕ := 1200
/-- `WT_QUIC_DATAGRAM_QUEUE_MAX`. -/
def quicDatagramQueueMax : ℕ := 8

/-- One slot of the ring (`wt_quic_datagram_t`). -/
structure DatagramSlot where
  data : List UInt8 := List.replicate quicDatagramMax 0
  length : ℕ := 0
  receivedAt : ℕ := 0
  length_le : length ≤ data.length
deriving DecidableEq, Repr

/-- The ring (`wt_quic_datagram_queue_t`). -/
structure DatagramQueue where
  entries : Fin quicDatagramQueueMax → DatagramSlot := fun _ => { length_le := Nat.zero_le _ }
  head : Fin quicDatagramQueueMax := ⟨0, by decide⟩
  count : ℕ := 0
  received : ℕ := 0
  discarded : ℕ := 0
  count_le : count ≤ quicDatagramQueueMax

/-- The state `wt_quic_datagram_queue_init` leaves. -/
def quicDatagramQueueInit : DatagramQueue := { count_le := Nat.zero_le _ }

/-- The slot that is some places behind the head. -/
def DatagramQueue.index (q : DatagramQueue) (places : ℕ) : Fin quicDatagramQueueMax :=
  ⟨(q.head + places) % quicDatagramQueueMax, Nat.mod_lt _ (by decide)⟩

/-- A slot after bytes were copied to its beginning. -/
def DatagramSlot.store (slot : DatagramSlot) (data : List UInt8) (receivedAt : ℕ) : DatagramSlot :=
  { data := if data.length ≠ 0 then data ++ slot.data.drop data.length else slot.data
    length := data.length
    receivedAt := receivedAt
    length_le := by
      split_ifs
      · rw [List.length_append]
        omega
      · omega }

/-- Queue a datagram that arrived, and whether it was discarded instead. -/
def quicDatagramQueuePush (q : DatagramQueue) (data : List UInt8) (receivedAt : ℕ) :
    Except Status (DatagramQueue × Bool) :=
  if quicDatagramMax < data.length then .error .limit
  else if h : q.count = quicDatagramQueueMax then
    .ok ({ q with
      received := u64Add q.received 1
      discarded := u64Add q.discarded 1 }, true)
  else
    .ok ({ q with
      received := u64Add q.received 1
      entries := Function.update q.entries (q.index q.count)
        ((q.entries (q.index q.count)).store data receivedAt)
      count := q.count + 1
      count_le := by
        have := q.count_le
        omega }, false)

/-- Take the oldest datagram into a buffer of some capacity: its bytes and when it arrived. -/
def quicDatagramQueuePop (q : DatagramQueue) (capacity : ℕ) :
    Except Status (DatagramQueue × (List UInt8 × ℕ)) :=
  let entry := q.entries q.head
  if q.count = 0 then .error .again
  else if capacity < entry.length then .error .limit
  else
    .ok ({ q with
      head := q.index 1
      count := q.count - 1
      count_le := (Nat.sub_le _ _).trans q.count_le },
      (entry.data.take entry.length, entry.receivedAt))

/-! ## The ring as a queue -/

/-- What a slot holds: the bytes and the time of its datagram. -/
def DatagramSlot.message (slot : DatagramSlot) : List UInt8 × ℕ :=
  (slot.data.take slot.length, slot.receivedAt)

/-- The datagrams of the ring, from the oldest on. -/
def DatagramQueue.held (q : DatagramQueue) : List (List UInt8 × ℕ) :=
  (List.range q.count).map fun i => (q.entries (q.index i)).message

/-- The queue that the ring is: a datagram that is too long is not let in, and a reader takes what
its buffer can hold. -/
def datagramBounds : Bounds (List UInt8 × ℕ) ℕ where
  capacity := quicDatagramQueueMax
  admits a := a.1.length ≤ quicDatagramMax
  fits capacity a := a.1.length ≤ capacity

/-- A call of the ring. An error leaves it as it is. -/
def datagramQueueCall (q : DatagramQueue) :
    Call (List UInt8 × ℕ) ℕ → DatagramQueue × Answer (List UInt8 × ℕ)
  | .push (data, receivedAt) =>
    match quicDatagramQueuePush q data receivedAt with
    | .ok (q', discarded) => (q', if discarded then .dropped else .taken)
    | .error _ => (q, .refused)
  | .pop capacity =>
    match quicDatagramQueuePop q capacity with
    | .ok (q', message) => (q', .given message)
    | .error .again => (q, .empty)
    | .error _ => (q, .refused)

section

variable {q : DatagramQueue} {data : List UInt8} {receivedAt capacity : ℕ}

@[simp] lemma DatagramSlot.store_message (slot : DatagramSlot) (data : List UInt8)
    (receivedAt : ℕ) : (slot.store data receivedAt).message = (data, receivedAt) := by
  unfold DatagramSlot.store DatagramSlot.message
  by_cases hempty : data.length = 0
  · simp [List.length_eq_zero_iff.mp hempty]
  · simp [hempty]

@[simp] lemma DatagramQueue.length_held (q : DatagramQueue) : q.held.length = q.count := by
  simp [DatagramQueue.held]

/-- Different places of the ring are different slots. -/
lemma DatagramQueue.index_inj {i j : ℕ} (hi : i < quicDatagramQueueMax)
    (hj : j < quicDatagramQueueMax) (h : q.index i = q.index j) : i = j := by
  have hhead := q.head.isLt
  have heq := Fin.mk.inj h
  unfold quicDatagramQueueMax at *
  omega

lemma DatagramQueue.index_zero : q.index 0 = q.head :=
  Fin.ext (Nat.mod_eq_of_lt q.head.isLt)

/-- A stored datagram goes behind those that are held. -/
lemma quicDatagramQueuePush_held {q' : DatagramQueue}
    (h : quicDatagramQueuePush q data receivedAt = .ok (q', false)) :
    q.count ≠ quicDatagramQueueMax ∧ q'.held = q.held ++ [(data, receivedAt)] := by
  unfold quicDatagramQueuePush at h
  split_ifs at h with hlong hfull
  · cases h
  · obtain ⟨rfl, -⟩ := Prod.mk.inj (Except.ok.inj h)
    refine ⟨hfull, ?_⟩
    have hcount := q.count_le
    simp only [DatagramQueue.held, List.range_succ, List.map_append, List.map_cons, List.map_nil]
    congr 1
    · apply List.map_congr_left
      intro i hi
      have hlt := List.mem_range.mp hi
      have hne : q.index i ≠ q.index q.count := fun heq =>
        hlt.ne (DatagramQueue.index_inj (by omega) (by omega) heq)
      exact congrArg DatagramSlot.message (Function.update_of_ne hne _ _)
    · have hslot := congrArg DatagramSlot.message (Function.update_self (q.index q.count)
        ((q.entries (q.index q.count)).store data receivedAt) q.entries)
      rw [DatagramSlot.store_message] at hslot
      exact congrArg (fun m => [m]) hslot

/-- The datagram that is taken is the first of those held. -/
lemma quicDatagramQueuePop_held {q' : DatagramQueue} {message : List UInt8 × ℕ}
    (h : quicDatagramQueuePop q capacity = .ok (q', message)) :
    q.held = message :: q'.held := by
  unfold quicDatagramQueuePop at h
  simp only at h
  split_ifs at h with hempty hlong
  obtain ⟨rfl, rfl⟩ := Prod.mk.inj (Except.ok.inj h)
  obtain ⟨n, hn⟩ := Nat.exists_eq_succ_of_ne_zero hempty
  simp only [DatagramQueue.held, hn, Nat.succ_eq_add_one, Nat.add_sub_cancel,
    List.range_succ_eq_map, List.map_cons, List.map_map]
  rw [DatagramQueue.index_zero]
  congr 1
  apply List.map_congr_left
  intro i _
  have hindex : q.index (i + 1) =
      ⟨((q.index 1 : Fin _) + i) % quicDatagramQueueMax, Nat.mod_lt _ (by decide)⟩ := by
    apply Fin.ext
    show (q.head + (i + 1)) % 8 = ((q.head + 1) % 8 + i) % 8
    omega
  exact congrArg (fun i => (q.entries i).message) hindex

/-- A call of the ring is that call of the queue that it is. -/
lemma datagramQueueCall_held (q : DatagramQueue) (call : Call (List UInt8 × ℕ) ℕ) :
    ((datagramQueueCall q call).1.held, (datagramQueueCall q call).2) =
      step datagramBounds q.held call := by
  cases call with
  | push message =>
    obtain ⟨data, receivedAt⟩ := message
    simp only [step, datagramBounds, DatagramQueue.length_held]
    by_cases hlong : quicDatagramMax < data.length
    · rw [datagramQueueCall, quicDatagramQueuePush, if_pos hlong, if_pos (by simpa using hlong)]
    · rw [if_neg (by simpa using hlong)]
      by_cases hfull : q.count = quicDatagramQueueMax
      · rw [datagramQueueCall, quicDatagramQueuePush, if_neg hlong, dif_pos hfull, if_pos hfull]
        rfl
      · rw [if_neg hfull]
        cases hpush : quicDatagramQueuePush q data receivedAt with
        | error e => simp [quicDatagramQueuePush, hlong, hfull] at hpush
        | ok result =>
          obtain ⟨q', discarded⟩ := result
          have hkept : discarded = false := by
            simp only [quicDatagramQueuePush, hlong, hfull, if_false, dite_false] at hpush
            exact (Prod.mk.inj (Except.ok.inj hpush)).2.symm
          subst hkept
          simp only [datagramQueueCall, hpush]
          rw [(quicDatagramQueuePush_held hpush).2]
          rfl
  | pop capacity =>
    have hlength : (q.entries q.head).message.1.length = (q.entries q.head).length := by
      rw [DatagramSlot.message, List.length_take]
      exact min_eq_left (q.entries q.head).length_le
    by_cases hempty : q.count = 0
    · have hnone : q.held = [] := by
        rw [DatagramQueue.held, hempty]
        rfl
      rw [datagramQueueCall, quicDatagramQueuePop, if_pos hempty, hnone]
      simp only [step]
    · obtain ⟨n, hn⟩ := Nat.exists_eq_succ_of_ne_zero hempty
      have hheld : ∃ rest, q.held = (q.entries q.head).message :: rest := by
        rw [DatagramQueue.held, hn, List.range_succ_eq_map, List.map_cons,
          DatagramQueue.index_zero]
        exact ⟨_, rfl⟩
      obtain ⟨rest, hheld⟩ := hheld
      simp only [step, hheld, datagramBounds, hlength]
      by_cases hlong : capacity < (q.entries q.head).length
      · rw [datagramQueueCall, quicDatagramQueuePop, if_neg hempty, if_pos hlong,
          if_neg (by simpa using hlong)]
        simp only [hheld]
      · rw [if_pos (by simpa using hlong)]
        cases hpop : quicDatagramQueuePop q capacity with
        | error e => simp [quicDatagramQueuePop, hempty, hlong] at hpop
        | ok result =>
          obtain ⟨q', message⟩ := result
          have hcons := quicDatagramQueuePop_held hpop
          rw [hheld] at hcons
          obtain ⟨rfl, rfl⟩ := List.cons.inj hcons
          simp only [datagramQueueCall, hpop]

/-- One call counts the datagram that it takes or drops, as 64-bit numbers. -/
lemma datagramQueueCall_counts (q : DatagramQueue) (call : Call (List UInt8 × ℕ) ℕ) :
    let r := datagramQueueCall q call
    r.1.received % 2 ^ 64 = (q.received + (taken [call] [r.2]).length + dropped [r.2]) % 2 ^ 64 ∧
      r.1.discarded % 2 ^ 64 = (q.discarded + dropped [r.2]) % 2 ^ 64 := by
  cases call with
  | push message =>
    obtain ⟨data, receivedAt⟩ := message
    simp only [datagramQueueCall, quicDatagramQueuePush, u64Add]
    split_ifs <;> simp [taken, dropped]
  | pop capacity =>
    simp only [datagramQueueCall, quicDatagramQueuePop]
    split_ifs <;> simp [taken, dropped]

/-- The ring counts what was taken and what was dropped. -/
lemma datagramQueueRun_counts (q : DatagramQueue) (calls : List (Call (List UInt8 × ℕ) ℕ)) :
    let r := runWith datagramQueueCall q calls
    r.1.received % 2 ^ 64 = (q.received + (taken calls r.2).length + dropped r.2) % 2 ^ 64 ∧
      r.1.discarded % 2 ^ 64 = (q.discarded + dropped r.2) % 2 ^ 64 := by
  induction calls generalizing q with
  | nil => exact ⟨rfl, rfl⟩
  | cons call calls ih =>
    obtain ⟨hreceived, hdiscarded⟩ := datagramQueueCall_counts q call
    obtain ⟨hreceived', hdiscarded'⟩ := ih (datagramQueueCall q call).1
    simp only
    rw [runWith_cons, taken_cons, dropped_cons, List.length_append]
    simp only
    omega

/-- Counters that a call leaves are 64-bit numbers. -/
lemma datagramQueueRun_lt (calls : List (Call (List UInt8 × ℕ) ℕ)) {q : DatagramQueue}
    (hq : q.received < 2 ^ 64 ∧ q.discarded < 2 ^ 64) :
    (runWith datagramQueueCall q calls).1.received < 2 ^ 64 ∧
      (runWith datagramQueueCall q calls).1.discarded < 2 ^ 64 := by
  induction calls generalizing q with
  | nil => exact hq
  | cons call calls ih =>
    rw [runWith_cons]
    apply ih
    cases call with
    | push message =>
      obtain ⟨data, receivedAt⟩ := message
      simp only [datagramQueueCall, quicDatagramQueuePush, u64Add]
      split_ifs <;> simp only <;> omega
    | pop capacity =>
      simp only [datagramQueueCall, quicDatagramQueuePop]
      split_ifs <;> exact hq

/-- Whatever calls are made of a fresh ring, it answers them as the bounded queue does and holds what
that holds. What it hands out is what it took in, in order and up to what it holds, and everything
received was handed out, is held or was discarded; the counters wrap as 64-bit numbers do. -/
theorem datagramQueue_refines (calls : List (Call (List UInt8 × ℕ) ℕ)) :
    let r := runWith datagramQueueCall quicDatagramQueueInit calls
    (r.1.held, r.2) = run datagramBounds [] calls ∧
      given r.2 ++ r.1.held = taken calls r.2 ∧
      r.1.received = ((given r.2).length + r.1.count + r.1.discarded) % 2 ^ 64 ∧
      (calls.length < 2 ^ 64 → r.1.received = (given r.2).length + r.1.count + r.1.discarded) := by
  intro r
  have hrun : (r.1.held, r.2) = run datagramBounds [] calls :=
    runWith_simulates datagramBounds datagramQueueCall_held quicDatagramQueueInit calls
  have horder := given_append_held datagramBounds [] calls
  rw [← hrun, List.nil_append] at horder
  simp only at horder
  obtain ⟨hreceived, hdiscarded⟩ : r.1.received % 2 ^ 64 =
      (0 + (taken calls r.2).length + dropped r.2) % 2 ^ 64 ∧
        r.1.discarded % 2 ^ 64 = (0 + dropped r.2) % 2 ^ 64 :=
    datagramQueueRun_counts quicDatagramQueueInit calls
  obtain ⟨hreceivedLt, hdiscardedLt⟩ : r.1.received < 2 ^ 64 ∧ r.1.discarded < 2 ^ 64 :=
    datagramQueueRun_lt calls (by decide)
  have hlength := congrArg List.length horder
  rw [List.length_append, DatagramQueue.length_held] at hlength
  refine ⟨hrun, horder, by omega, fun hfew => ?_⟩
  have hcalls : (taken calls r.2).length + dropped r.2 ≤ calls.length :=
    taken_add_dropped_le datagramQueueCall quicDatagramQueueInit calls
  omega

end

end WebTransport
