import WebTransport.Lib.RangeList
import WebTransport.Quic.Frame

/-!
# Packet number spaces

What one packet number space remembers (`quic/pn_space.c`): the received packets as a
bounded list of ranges, the acknowledgement built from them, the round trip estimator and
the send side of the space.

The array `ranges[0 .. count)` is a list, so `count` is its length. Everything the code
computes from a packet number is below `2 ^ 64`; the two neighbours it compares with are
computed with the source's wrapping arithmetic.
-/

namespace WebTransport

/-! ## The received set -/

/-- `WT_QUIC_RECEIVED_RANGES_MAX`. -/
def quicReceivedRangesMax : ℕ := 32

/-- `WT_QUIC_PACKET_NUMBER_MAX`. -/
def quicPacketNumberMax : ℕ := 2 ^ 62 - 1

/-- What has been received in one space (`wt_quic_ack_state_t`). -/
structure AckState where
  ranges : List ClosedRange := []
  hasLargest : Bool := false
  largestReceived : ℕ := 0
  ackElicitingSinceAck : ℕ := 0
  ackPending : Bool := false
deriving DecidableEq, Repr

/-- The state of a fresh space (`wt_quic_ack_state_init`). -/
def quicAckStateInit : AckState := {}

/-- Whether a packet number has been recorded. -/
def quicAckContains (s : AckState) (packetNumber : ℕ) : Bool :=
  s.ranges.any fun r => r.smallest ≤ packetNumber ∧ packetNumber ≤ r.largest

/-- Forget the oldest range, which is the last one. -/
def dropOldest (ranges : List ClosedRange) : List ClosedRange := ranges.dropLast

/-- The index of the first range below the packet number: where a new range would go. -/
def ackInsertionPoint (ranges : List ClosedRange) (packetNumber : ℕ) : ℕ :=
  ranges.findIdx fun r => r.largest < packetNumber

/-- The ranges after a packet number that is not among them was recorded. -/
def ackRecordRanges (ranges : List ClosedRange) (packetNumber : ℕ) : List ClosedRange :=
  let pos := ackInsertionPoint ranges packetNumber
  let above := ranges.getD (pos - 1) default
  let below := ranges.getD pos default
  let joinsAbove := 0 < pos ∧ above.smallest = u64Add packetNumber 1
  let joinsBelow := pos < ranges.length ∧ below.largest = u64Sub packetNumber 1
  if joinsAbove ∧ joinsBelow then
    (ranges.set (pos - 1) { above with smallest := below.smallest }).eraseIdx pos
  else if joinsAbove then ranges.set (pos - 1) { above with smallest := packetNumber }
  else if joinsBelow then ranges.set pos { below with largest := packetNumber }
  else
    let kept := if ranges.length = quicReceivedRangesMax then dropOldest ranges else ranges
    -- An insertion point at the end follows the range that was dropped.
    let pos := if kept.length < pos then kept.length else pos
    kept.take pos ++ ⟨packetNumber, packetNumber⟩ :: kept.drop pos

/-- Record that a packet arrived; a duplicate changes nothing. -/
def quicAckRecord (s : AckState) (packetNumber : ℕ) (ackEliciting : Bool) : AckState :=
  if quicAckContains s packetNumber then s
  else
    let newLargest := !s.hasLargest || s.largestReceived < packetNumber
    { ranges := ackRecordRanges s.ranges packetNumber
      hasLargest := if newLargest then true else s.hasLargest
      largestReceived := if newLargest then packetNumber else s.largestReceived
      ackPending := true
      ackElicitingSinceAck :=
        if ackEliciting then s.ackElicitingSinceAck + 1 else s.ackElicitingSinceAck }

/-- The loop of `wt_quic_ack_build` over the ranges after the first. -/
def ackBuildRanges : ℕ → List ClosedRange → Writer → Writer
  | _, [], w => w
  | previousSmallest, r :: rs, w =>
    let w := quicWriterVarint w (u64Sub (u64Sub previousSmallest r.largest) 2)
    let w := quicWriterVarint w (u64Sub r.largest r.smallest)
    ackBuildRanges r.smallest rs w

/-- Build an ACK frame that describes everything received. -/
def quicAckBuild (s : AckState) (delay rangeCapacity : ℕ) : Except Status AckFrame :=
  match s.hasLargest, s.ranges with
  | true, first :: rest =>
    let w := ackBuildRanges first.smallest rest (writerInit rangeCapacity)
    if w.ok then
      .ok
        { largest := first.largest
          delay := delay
          firstRange := u64Sub first.largest first.smallest
          ranges := w.bytes
          rangeCount := rest.length }
    else .error .limit
  | _, _ => .error .state

/-- Record that an ACK frame has been sent. -/
def quicAckSent (s : AckState) : AckState :=
  { s with ackPending := false, ackElicitingSinceAck := 0 }

/-- Whether an acknowledgement is owed now rather than after a delay. -/
def quicAckShouldSend (s : AckState) : Bool :=
  s.ackPending && (2 ≤ s.ackElicitingSinceAck || 1 < s.ranges.length)

/-- Whether two neighbouring ranges leave a number out. -/
def ackGapFrom : List ClosedRange → Bool
  | a :: b :: rest => b.largest + 1 < a.smallest || ackGapFrom (b :: rest)
  | _ => false

/-- Whether the received set describes a gap. -/
def quicAckHasGap (s : AckState) : Bool := ackGapFrom s.ranges

/-! ## The invariant of the received set -/

/-- What every sequence of arrivals keeps true of a received set. -/
structure AckState.Valid (s : AckState) : Prop where
  separated : RangeList.Separated s.ranges
  bounded : ∀ r ∈ s.ranges, r.largest ≤ quicPacketNumberMax
  count : s.ranges.length ≤ quicReceivedRangesMax

/-- `quicAckContains` is membership in the ranges. -/
@[simp] theorem quicAckContains_iff (s : AckState) (n : ℕ) :
    quicAckContains s n = true ↔ RangeList.Mem s.ranges n := by
  simp [quicAckContains, RangeList.Mem, ClosedRange.Has]

/-- The insertion point splits the ranges into those above and those below the number. -/
lemma ackInsertionPoint_split {ranges : List ClosedRange} {n : ℕ}
    (hsep : RangeList.Separated ranges) (hnot : ¬ RangeList.Mem ranges n) :
    ∃ above below, ranges = above ++ below ∧ above.length = ackInsertionPoint ranges n ∧
      (∀ r ∈ above, n < r.smallest) ∧ ∀ r ∈ below, r.largest < n := by
  set pos := ackInsertionPoint ranges n with hpos
  have hle : pos ≤ ranges.length := List.findIdx_le_length
  refine ⟨ranges.take pos, ranges.drop pos, (List.take_append_drop _ _).symm,
    by simp [hle], ?_, ?_⟩
  · intro r hr
    obtain ⟨i, hi, rfl⟩ := List.mem_iff_getElem.mp hr
    simp only [List.length_take] at hi
    have hlt : i < ackInsertionPoint ranges n := by
      rw [← hpos]
      omega
    have hkeep := List.not_of_lt_findIdx hlt
    simp only [decide_eq_false_iff_not, not_lt] at hkeep
    rw [List.getElem_take]
    by_contra hge
    exact hnot ⟨_, List.getElem_mem _, by omega, hkeep⟩
  · intro r hr
    cases hdrop : ranges.drop pos with
    | nil => simp [hdrop] at hr
    | cons first rest =>
      have hsplit : ranges = ranges.take pos ++ first :: rest := by
        rw [← hdrop, List.take_append_drop]
      have hfirst : first.largest < n := by
        have hget : ranges[pos]? = some first := by
          rw [← List.head?_drop, hdrop]
          rfl
        have := List.findIdx_of_getElem?_eq_some (p := fun r : ClosedRange => decide (r.largest < n)) hget
        simpa using this
      rw [hdrop] at hr
      rcases List.mem_cons.mp hr with rfl | hr
      · exact hfirst
      · have hbelow := (hsplit ▸ hsep).below r hr
        have hne := hsep.nonempty first (by rw [hsplit]; simp)
        omega

/-- Whether recording a number needs a range of its own: it is next to no range. -/
def AckAlone (ranges : List ClosedRange) (n : ℕ) : Prop :=
  ∀ r ∈ ranges, r.smallest ≠ n + 1 ∧ r.largest + 1 ≠ n

instance {ranges : List ClosedRange} {n : ℕ} : Decidable (AckAlone ranges n) :=
  inferInstanceAs (Decidable (∀ r ∈ ranges, _))

/-- The ranges that stay when a number is recorded: a full list gives its oldest range up for a
range of its own. -/
def ackHeld (ranges : List ClosedRange) (n : ℕ) : List ClosedRange :=
  if AckAlone ranges n ∧ ranges.length = quicReceivedRangesMax then dropOldest ranges else ranges

/-- A number that joins a range gives none up. -/
lemma ackHeld_of_joins {ranges : List ClosedRange} {r : ClosedRange} {n : ℕ} (hr : r ∈ ranges)
    (hjoins : r.smallest = n + 1 ∨ r.largest + 1 = n) : ackHeld ranges n = ranges := by
  refine if_neg fun halone => ?_
  have := halone.1 r hr
  omega

/-- When the range just above leaves room, so do all the ranges above it. -/
lemma Separated_room_above {a b : List ClosedRange} {x : ClosedRange} {n : ℕ}
    (hsep : RangeList.Separated (a ++ x :: b)) (hx : n + 1 < x.smallest) :
    ∀ z ∈ a ++ [x], n + 1 < z.smallest := by
  intro z hz
  have hxne := hsep.nonempty x (by simp)
  rcases List.mem_append.mp hz with hz | hz
  · have := hsep.above z hz
    omega
  · rw [List.mem_singleton.mp hz]
    exact hx

/-- When the range just below leaves room, so do all the ranges below it. -/
lemma Separated_room_below {a b : List ClosedRange} {y : ClosedRange} {n : ℕ}
    (hsep : RangeList.Separated (a ++ y :: b)) (hy : y.largest + 1 < n) :
    ∀ z ∈ y :: b, z.largest + 1 < n := by
  intro z hz
  have hyne := hsep.nonempty y (by simp)
  rcases List.mem_cons.mp hz with rfl | hz
  · exact hy
  · have := hsep.below z hz
    omega

/-- The branch of the recording that places a range of its own, dropping the oldest range of
a full list. -/
lemma ackPlaced_alone {above below : List ClosedRange} {n : ℕ}
    (hsep : RangeList.Separated (above ++ below)) (ha : ∀ x ∈ above, n + 1 < x.smallest)
    (hb : ∀ y ∈ below, y.largest + 1 < n) :
    let ranges := above ++ below
    let kept := if ranges.length = quicReceivedRangesMax then dropOldest ranges else ranges
    let pos := if kept.length < above.length then kept.length else above.length
    RangeList.Placed (ackHeld ranges n) n (kept.take pos ++ ⟨n, n⟩ :: kept.drop pos) := by
  intro ranges kept pos
  have halone : AckAlone ranges n := by
    intro r hr
    have hne := hsep.nonempty r hr
    rcases List.mem_append.mp hr with hr | hr
    · have := ha r hr
      omega
    · have := hb r hr
      omega
  have hheld : ackHeld ranges n = kept := by
    simp only [ackHeld, halone, true_and, kept]
  rw [hheld]
  have hsub : kept.Sublist ranges := by
    simp only [kept]
    split_ifs
    · exact List.dropLast_sublist _
    · exact List.Sublist.refl _
  suffices hsplit : (∀ x ∈ kept.take pos, n + 1 < x.smallest) ∧
      ∀ y ∈ kept.drop pos, y.largest + 1 < n by
    have hkept := hsep.sublist hsub
    have hplaced := RangeList.placed_alone (a := kept.take pos) (b := kept.drop pos)
      (by rwa [List.take_append_drop]) hsplit.1 hsplit.2
    rwa [List.take_append_drop] at hplaced
  -- An entry is on the side of the split that it was on before.
  have hprefix : kept = ranges.take kept.length := by
    simp only [kept]
    split_ifs
    · rw [dropOldest, List.length_dropLast]
      exact List.dropLast_eq_take
    · exact List.take_length.symm
  have hpos : pos ≤ above.length := by
    simp only [pos]
    split_ifs <;> omega
  constructor
  · intro x hx
    rw [ hprefix, List.take_take] at hx
    have hle : min pos kept.length ≤ above.length := (min_le_left _ _).trans hpos
    rw [List.take_append_of_le_length hle] at hx
    exact ha x (List.mem_of_mem_take hx)
  · intro y hy
    by_cases hlt : kept.length < above.length
    · have hall : pos = kept.length := if_pos hlt
      rw [hall, List.drop_length] at hy
      cases hy
    · have hall : pos = above.length := if_neg hlt
      rw [hall, hprefix, List.drop_take, List.drop_left] at hy
      exact hb y (List.mem_of_mem_take hy)

/-- The entry just before a split point, as an array read and an array write. -/
lemma read_before_split {above : List ClosedRange} (below : List ClosedRange)
    (h : 0 < above.length) :
    ∃ a x, above = a ++ [x] ∧ (above ++ below).getD (above.length - 1) default = x ∧
      ∀ v, (above ++ below).set (above.length - 1) v = a ++ v :: below := by
  rcases List.eq_nil_or_concat above with rfl | ⟨a, x, rfl⟩
  · simp at h
  · exact ⟨a, x, by simp, by simp, fun v => by simp⟩

/-- The entry just after a split point, as an array read and an array write. -/
lemma read_after_split {above below : List ClosedRange}
    (h : above.length < (above ++ below).length) :
    ∃ y b, below = y :: b ∧ (above ++ below).getD above.length default = y ∧
      ∀ v, (above ++ below).set above.length v = above ++ v :: b := by
  cases below with
  | nil => simp at h
  | cons y b => exact ⟨y, b, rfl, by simp, fun v => by simp⟩

/-- Recording a number that is not yet there adds it to the ranges that stay. -/
theorem ackRecordRanges_placed {ranges : List ClosedRange} {n : ℕ}
    (hsep : RangeList.Separated ranges) (hn : n ≤ quicPacketNumberMax)
    (hnot : ¬ RangeList.Mem ranges n) :
    RangeList.Placed (ackHeld ranges n) n (ackRecordRanges ranges n) := by
  obtain ⟨above, below, rfl, hlen, habove, hbelow⟩ := ackInsertionPoint_split hsep hnot
  unfold quicPacketNumberMax at hn
  have hup : u64Add n 1 = n + 1 := u64Add_of_lt (by omega)
  have hdown : ∀ y ∈ below, (y.largest = u64Sub n 1 ↔ y.largest + 1 = n) := by
    intro y hy
    have h1 := hbelow y hy
    rw [u64Sub_of_le (by omega) (by omega)]
    omega
  -- Room on a side: the neighbour is not joined, so it is at least two numbers away.
  have hroomA : ¬(0 < above.length ∧
      ((above ++ below).getD (above.length - 1) default).smallest = n + 1) →
      ∀ x ∈ above, n + 1 < x.smallest := by
    intro hA
    by_cases hpos : 0 < above.length
    · obtain ⟨a, x, rfl, hget, -⟩ := read_before_split below hpos
      rw [hget] at hA
      have hx := habove x (by simp)
      have hne : x.smallest ≠ n + 1 := fun h => hA ⟨hpos, h⟩
      exact Separated_room_above (b := below) (by simpa using hsep) (by omega)
    · simp only [not_lt, Nat.le_zero, List.length_eq_zero_iff] at hpos
      simp [hpos]
  have hroomB : ¬(above.length < (above ++ below).length ∧
      ((above ++ below).getD above.length default).largest = u64Sub n 1) →
      ∀ y ∈ below, y.largest + 1 < n := by
    intro hB
    by_cases hpos : above.length < (above ++ below).length
    · obtain ⟨y, b, rfl, hget, -⟩ := read_after_split hpos
      rw [hget] at hB
      have hy := hbelow y (by simp)
      have hne : ¬ y.largest = u64Sub n 1 := fun h => hB ⟨hpos, h⟩
      rw [hdown y (by simp)] at hne
      exact Separated_room_below hsep (by omega)
    · rw [List.length_append] at hpos
      have : below = [] := List.length_eq_zero_iff.mp (by omega)
      simp [this]
  unfold ackRecordRanges
  simp only [← hlen, hup]
  split
  case isTrue hAB =>
    obtain ⟨⟨hposA, hx⟩, hposB, hy⟩ := hAB
    obtain ⟨a, x, ha, hgetA, hsetA⟩ := read_before_split below hposA
    obtain ⟨y, b, hb, hgetB, -⟩ := read_after_split hposB
    rw [hgetA] at hx
    rw [hgetB] at hy
    rw [hsetA, hgetA, hgetB]
    subst ha hb
    have hedit : (a ++ { x with smallest := y.smallest } :: y :: b).eraseIdx (a ++ [x]).length =
        a ++ ⟨y.smallest, x.largest⟩ :: b := by
      simp [List.eraseIdx_append_of_length_le]
    rw [ackHeld_of_joins (r := x) (by simp) (.inl hx), hedit, List.append_assoc]
    exact RangeList.placed_between (by simpa using hsep) hx ((hdown y (by simp)).mp hy)
  case isFalse hAB =>
    split
    case isTrue hA =>
      obtain ⟨hposA, hx⟩ := hA
      have hb := hroomB fun h => hAB ⟨⟨hposA, hx⟩, h⟩
      obtain ⟨a, x, rfl, hgetA, hsetA⟩ := read_before_split below hposA
      rw [hgetA] at hx
      rw [hsetA, hgetA, ackHeld_of_joins (r := x) (by simp) (.inl hx), List.append_assoc]
      exact RangeList.placed_under (by simpa using hsep) hx hb
    case isFalse hA =>
      split
      case isTrue hB =>
        obtain ⟨hposB, hy⟩ := hB
        have ha := hroomA hA
        obtain ⟨y, b, rfl, hgetB, hsetB⟩ := read_after_split hposB
        rw [hgetB] at hy
        have hjoins := (hdown y (by simp)).mp hy
        rw [hsetB, hgetB, ackHeld_of_joins (r := y) (by simp) (.inr hjoins)]
        exact RangeList.placed_over hsep hjoins ha
      case isFalse hB =>
        exact ackPlaced_alone hsep (hroomA hA) (hroomB hB)

/-- Recording a number takes no more ranges than there is room for. -/
lemma ackRecordRanges_length {ranges : List ClosedRange} {n : ℕ}
    (hcount : ranges.length ≤ quicReceivedRangesMax) :
    (ackRecordRanges ranges n).length ≤ quicReceivedRangesMax := by
  unfold ackRecordRanges
  simp only
  split_ifs with _ _ _ hfull
  · exact (List.length_eraseIdx_le _ _).trans (by rwa [List.length_set])
  · rwa [List.length_set]
  · rwa [List.length_set]
  all_goals
    rw [List.length_append, List.length_cons, List.length_take, List.length_drop]
    try rw [dropOldest, List.length_dropLast, hfull]
    unfold quicReceivedRangesMax at *
    omega

/-- A fresh received set is valid. -/
theorem quicAckStateInit_valid : quicAckStateInit.Valid :=
  ⟨RangeList.separated_nil, by simp [quicAckStateInit], by simp [quicAckStateInit]⟩

lemma mem_of_ackHeld {ranges : List ClosedRange} {n m : ℕ}
    (h : RangeList.Mem (ackHeld ranges n) m) : RangeList.Mem ranges m := by
  obtain ⟨r, hr, hhas⟩ := h
  refine ⟨r, ?_, hhas⟩
  unfold ackHeld at hr
  split_ifs at hr
  · exact List.mem_of_mem_dropLast hr
  · exact hr

/-- Recording one packet keeps the received set valid. -/
theorem quicAckRecord_valid {s : AckState} (hs : s.Valid) {n : ℕ} (hn : n ≤ quicPacketNumberMax)
    (ackEliciting : Bool) : (quicAckRecord s n ackEliciting).Valid := by
  by_cases hc : quicAckContains s n = true
  · rw [quicAckRecord, if_pos hc]
    exact hs
  · have hnot : ¬ RangeList.Mem s.ranges n := by rwa [quicAckContains_iff] at hc
    have hplaced := ackRecordRanges_placed hs.separated hn hnot
    rw [quicAckRecord, if_neg hc]
    refine ⟨hplaced.separated, fun r hr => ?_, ackRecordRanges_length hs.count⟩
    have hlargest := (hplaced.mem r.largest).mp ⟨r, hr, hplaced.separated.nonempty r hr, le_rfl⟩
    rcases hlargest with heq | hheld
    · rw [heq]
      exact hn
    · obtain ⟨x, hx, -, hle⟩ := mem_of_ackHeld hheld
      exact hle.trans (hs.bounded x hx)

/-- The set after a sequence of arrivals, each with whether it asks for an acknowledgement. -/
def quicAckRecordAll (s : AckState) (packets : List (ℕ × Bool)) : AckState :=
  packets.foldl (fun s p => quicAckRecord s p.1 p.2) s

/-- Any sequence of arrivals keeps the received set valid. -/
theorem quicAckRecordAll_valid {s : AckState} (hs : s.Valid) {packets : List (ℕ × Bool)}
    (hp : ∀ p ∈ packets, p.1 ≤ quicPacketNumberMax) : (quicAckRecordAll s packets).Valid := by
  induction packets generalizing s with
  | nil => exact hs
  | cons p ps ih =>
    exact ih (quicAckRecord_valid hs (hp p (by simp)) p.2) fun q hq => hp q (by simp [hq])

/-- Whatever arrived before, recording a number adds it to the set and takes nothing out, unless it
needs a range of its own and the list is full: then the oldest of the ranges held goes. -/
theorem quicAckRecordAll_record {packets : List (ℕ × Bool)} {n : ℕ}
    (hp : ∀ p ∈ packets, p.1 ≤ quicPacketNumberMax) (hn : n ≤ quicPacketNumberMax)
    (ackEliciting : Bool) :
    let s := quicAckRecordAll quicAckStateInit packets
    s.Valid ∧
      (RangeList.Mem s.ranges n → quicAckRecord s n ackEliciting = s) ∧
      (¬RangeList.Mem s.ranges n → ∀ m, RangeList.Mem (quicAckRecord s n ackEliciting).ranges m ↔
        m = n ∨ RangeList.Mem (ackHeld s.ranges n) m) := by
  intro s
  have hs : s.Valid := quicAckRecordAll_valid quicAckStateInit_valid hp
  refine ⟨hs, fun hmem => if_pos ((quicAckContains_iff s n).mpr hmem), fun hnot m => ?_⟩
  rw [quicAckRecord, if_neg (by rwa [quicAckContains_iff])]
  exact (ackRecordRanges_placed hs.separated hn hnot).mem m

/-- The number that closes a gap. -/
theorem quicAckRecordAll_record_gap :
    RangeList.Mem (quicAckRecord (quicAckRecordAll quicAckStateInit [(5, true), (7, true)]) 6
      true).ranges 5 ↔ 5 = 6 ∨ RangeList.Mem [⟨7, 7⟩, ⟨5, 5⟩] 5 :=
  (@quicAckRecordAll_record [(5, true), (7, true)] 6 (by decide) (by decide) true).2.2 (by decide) 5

/-- A number below all of a full list is kept, and the oldest range goes, which is not the lowest
one then: the room is made before the number is placed. -/
theorem quicAckRecord_below_full : ¬∀ (packets : List (ℕ × Bool)) (n : ℕ) (rs : List ClosedRange),
    (∀ p ∈ packets, p.1 ≤ quicPacketNumberMax) → n ≤ quicPacketNumberMax →
    let s := quicAckRecordAll quicAckStateInit packets
    ¬RangeList.Mem s.ranges n → AckAlone s.ranges n →
    s.ranges.length = quicReceivedRangesMax → RangeList.Placed s.ranges n rs →
    ∀ m, RangeList.Mem (quicAckRecord s n true).ranges m ↔ RangeList.Mem rs.dropLast m := by
  intro h
  let packets := (List.range 32).map fun i => (100 - 2 * i, true)
  have hfull : (quicAckRecordAll quicAckStateInit packets).ranges =
      (List.range 32).map fun i => ⟨100 - 2 * i, 100 - 2 * i⟩ := by decide +kernel
  have hsep : RangeList.Separated (quicAckRecordAll quicAckStateInit packets).ranges :=
    (quicAckRecordAll_valid quicAckStateInit_valid (by decide)).separated
  have hplaced := RangeList.placed_alone (n := 0) (b := []) (by rwa [List.append_nil])
    (by rw [hfull]; decide) (by simp)
  rw [List.append_nil] at hplaced
  have hlowest := (h packets 0 _ (by decide) (by decide) (by rw [hfull]; decide)
    (by rw [hfull]; decide) (by rw [hfull]; decide) hplaced 0).mp (by decide +kernel)
  rw [List.dropLast_concat, hfull] at hlowest
  exact absurd hlowest (by decide)

/-- In a valid set a gap is the same as a second range. -/
theorem quicAckHasGap_iff {s : AckState} (hs : s.Valid) :
    quicAckHasGap s = true ↔ 1 < s.ranges.length := by
  unfold quicAckHasGap
  match hr : s.ranges with
  | [] => simp [ackGapFrom]
  | [a] => simp [ackGapFrom]
  | a :: b :: rest =>
    have hsep : RangeList.Separated ([] ++ a :: b :: rest) := by
      simpa [hr] using hs.separated
    have := hsep.below b (by simp)
    simp [ackGapFrom, this]

/-! ## The round trip estimator -/

/-- `WT_QUIC_TIMER_GRANULARITY`, in microseconds. -/
def quicTimerGranularity : ℕ := 1000

/-- The round trip estimator (`wt_quic_rtt_t`). -/
structure Rtt where
  latest : ℕ := 0
  smoothed : ℕ := 0
  rttvar : ℕ := 0
  minRtt : ℕ := 0
  hasSample : Bool := false
deriving DecidableEq, Repr

/-- Update the estimator with a sample. -/
def quicRttUpdate (rtt : Rtt) (latestRtt ackDelay maxAckDelay : ℕ) (handshakeConfirmed : Bool) :
    Rtt :=
  let minRtt := if !rtt.hasSample || latestRtt < rtt.minRtt then latestRtt else rtt.minRtt
  let capped := if maxAckDelay < ackDelay then maxAckDelay else ackDelay
  let adjusted :=
    if handshakeConfirmed && u64Add minRtt ackDelay ≤ latestRtt && capped < latestRtt then
      latestRtt - capped
    else latestRtt
  if !rtt.hasSample then
    { latest := latestRtt, minRtt := minRtt, smoothed := adjusted, rttvar := adjusted / 2,
      hasSample := true }
  else
    let difference :=
      if adjusted < rtt.smoothed then rtt.smoothed - adjusted else adjusted - rtt.smoothed
    { latest := latestRtt
      minRtt := minRtt
      rttvar := u64Add (3 * rtt.rttvar % 2 ^ 64) difference / 4
      smoothed := u64Add (7 * rtt.smoothed % 2 ^ 64) adjusted / 8
      hasSample := true }

/-- The probe timeout, an error before the first sample. -/
def quicRttPto (rtt : Rtt) (maxAckDelay : ℕ) : Except Status ℕ :=
  if !rtt.hasSample then .error .state
  else
    let variation := 4 * rtt.rttvar % 2 ^ 64
    let variation := if variation < quicTimerGranularity then quicTimerGranularity else variation
    .ok (u64Add (u64Add rtt.smoothed variation) maxAckDelay)

/-! ## The space -/

/-- One packet number space (`wt_quic_pn_space_t`). -/
structure PnSpace where
  nextSend : ℕ := 0
  hasLargestAcked : Bool := false
  largestAcked : ℕ := 0
  hasSent : Bool := false
  received : AckState := quicAckStateInit
  rtt : Rtt := {}
deriving DecidableEq, Repr

/-- Take the next packet number to send, and advance. -/
def quicPnSpaceNext (space : PnSpace) : Except Status (ℕ × PnSpace) :=
  if space.hasSent && quicPacketNumberMax < space.nextSend then .error .overflow
  else .ok (space.nextSend, { space with nextSend := u64Add space.nextSend 1, hasSent := true })

/-- Record that the peer acknowledged up to `largest`; a smaller number is refused. -/
def quicPnSpaceOnAck (space : PnSpace) (largest : ℕ) : Except Status PnSpace :=
  if space.hasLargestAcked && largest < space.largestAcked then .error .state
  else .ok { space with largestAcked := largest, hasLargestAcked := true }

end WebTransport
