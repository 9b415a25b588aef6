import Mathlib.Data.Finset.Sort
import Mathlib.Data.List.GetD
import WebTransport.Lib.Checked
import WebTransport.Lib.LowerBound
import WebTransport.Lib.RangeList
import WebTransport.Swift.Frame

/-!
# The ACK tracker of the Swift endpoint

What one packet number space remembers of the packets it received (`QUICAckTracker` in
`QUICCoreState.swift`): the numbers as a set, the same numbers as descending ranges that are
kept up to date on every arrival, and a floor below which numbers are refused. Overflow and an
index past the end of an array stop the program, so that the functions that compute with
packet numbers return an `Option`.
-/

namespace WebTransport

open RangeList

/-! ## The model -/

/-- `QUICPacketNumberSpace`. -/
inductive QUICPacketNumberSpace
  | initial
  | handshake
  | applicationData
deriving DecidableEq, Repr

/-- The largest `UInt64`. -/
def uint64Max : ℕ := 2 ^ 64 - 1

/-- A range from its bounds, which stop the program when they are not in order. -/
def closedRange (lower upper : ℕ) : Option ClosedRange :=
  if lower ≤ upper then some ⟨lower, upper⟩ else none

/-- The tracker (`QUICAckTracker`). -/
structure QUICAckTracker where
  packetNumberSpace : QUICPacketNumberSpace
  ackDelayExponent : ℕ
  receivedPacketNumbers : Finset ℕ := ∅
  largestReceived : Option ℕ := none
  largestAckElicitingReceiveTimeMicros : Option ℕ := none
  discardedBelow : ℕ := 0
  receivedRangesDescending : List ClosedRange := []
deriving DecidableEq

/-- `maximumTrackedReceivedPacketNumbers`. -/
def maximumTrackedReceivedPacketNumbers : ℕ := 8192

/-- Whether a number is the one after a range. -/
def followsRange (range : ClosedRange) (packetNumber : ℕ) : Option Bool :=
  if range.largest ≠ uint64Max then do
    let next ← Checked.add range.largest 1
    some (decide (packetNumber = next))
  else some false

/-- Whether a number is the one before a range. -/
def precedesRange (range : ClosedRange) (packetNumber : ℕ) : Option Bool :=
  if 0 < range.smallest then do
    let next ← Checked.sub range.smallest 1
    some (decide (packetNumber = next))
  else some false

/-- The two ends of the list, where a number is placed without a search. -/
def insertAdjacentToEdge (ranges : List ClosedRange) (packetNumber : ℕ) :
    Option (List ClosedRange × Bool) :=
  match ranges.head?, ranges.getLast? with
  | some highest, some lowest =>
    if highest.largest < packetNumber then do
      let follows ← followsRange highest packetNumber
      if follows then
        let range ← closedRange highest.smallest packetNumber
        some (ranges.set 0 range, true)
      else some (⟨packetNumber, packetNumber⟩ :: ranges, true)
    else if packetNumber < lowest.smallest then do
      let next ← Checked.add packetNumber 1
      if next = lowest.smallest then
        let range ← closedRange packetNumber lowest.largest
        some (ranges.set (ranges.length - 1) range, true)
      else some (ranges ++ [⟨packetNumber, packetNumber⟩], true)
    else some (ranges, false)
  | _, _ => some (ranges ++ [⟨packetNumber, packetNumber⟩], true)

/-- The first range whose lower bound is at most the number. -/
def lowerBoundIndex (ranges : List ClosedRange) (packetNumber : ℕ) : ℕ :=
  LowerBound.search (fun i => decide (packetNumber < (ranges.getD i default).smallest))
    ranges.length 0 ranges.length

/-- Place a number beside the range at an index, joining one or both neighbours. -/
def mergeReceivedRange (ranges : List ClosedRange) (low packetNumber : ℕ) :
    Option (List ClosedRange) := do
  let below ← ranges[low]?
  let touchesAbove ←
    if 0 < low then do
      let above ← ranges[low - 1]?
      precedesRange above packetNumber
    else some false
  let touchesBelow ← followsRange below packetNumber
  if touchesAbove ∧ touchesBelow then
    let above ← ranges[low - 1]?
    let range ← closedRange below.smallest above.largest
    some ((ranges.set (low - 1) range).eraseIdx low)
  else if touchesAbove then
    let above ← ranges[low - 1]?
    let range ← closedRange packetNumber above.largest
    some (ranges.set (low - 1) range)
  else if touchesBelow then
    let range ← closedRange below.smallest packetNumber
    some (ranges.set low range)
  else some (ranges.take low ++ ⟨packetNumber, packetNumber⟩ :: ranges.drop low)

/-- Add a number to the ranges. -/
def insertReceivedRange (ranges : List ClosedRange) (packetNumber : ℕ) :
    Option (List ClosedRange) := do
  let placed ← insertAdjacentToEdge ranges packetNumber
  if placed.2 then some placed.1
  else
    let low := lowerBoundIndex ranges packetNumber
    match ranges[low]? with
    | none => some (ranges ++ [⟨packetNumber, packetNumber⟩])
    | some range =>
      if range.Has packetNumber then some ranges else mergeReceivedRange ranges low packetNumber

/-- The loop of `contiguousRangesDescending`: the run from `low` to `high` is still open. -/
def contiguousFrom : ℕ → ℕ → List ℕ → List ClosedRange
  | high, low, [] => [⟨low, high⟩]
  | high, low, number :: rest =>
    if 0 < low ∧ number = low - 1 then contiguousFrom high number rest
    else ⟨low, high⟩ :: contiguousFrom number number rest

/-- Descending numbers as ranges (`contiguousClosedRangesDescending`). -/
def contiguousClosedRangesDescending : List ℕ → List ClosedRange
  | [] => []
  | number :: rest => contiguousFrom number number rest

namespace QUICAckTracker

/-- Drop what has fallen out of the window, once twice the window is tracked. -/
def discardOutsideTrackingWindow (t : QUICAckTracker) : Option QUICAckTracker :=
  if maximumTrackedReceivedPacketNumbers * 2 < t.receivedPacketNumbers.card then
    match t.largestReceived with
    | none => some t
    | some largestReceived =>
      if largestReceived < maximumTrackedReceivedPacketNumbers then some t
      else do
        let below ← Checked.sub largestReceived maximumTrackedReceivedPacketNumbers
        let floor ← Checked.add below 1
        if floor ≤ t.discardedBelow then some t
        else
          let kept := t.receivedPacketNumbers.filter (floor ≤ ·)
          some { t with
            discardedBelow := floor
            receivedPacketNumbers := kept
            receivedRangesDescending :=
              contiguousClosedRangesDescending (kept.sort (· ≥ ·)) }
  else some t

/-- Whether a number is larger than any received so far. -/
def shouldUpdateLargestReceived (t : QUICAckTracker) (packetNumber : ℕ) : Bool :=
  match t.largestReceived with
  | none => true
  | some largestReceived => decide (largestReceived < packetNumber)

/-- A packet arrives; whether it is a new one. -/
def recordReceived (t : QUICAckTracker) (packetNumber nowMicros : ℕ) (ackEliciting : Bool) :
    Option (QUICAckTracker × Bool) :=
  if packetNumber < t.discardedBelow then some (t, false)
  else if packetNumber ∈ t.receivedPacketNumbers then some (t, false)
  else do
    let ranges ← insertReceivedRange t.receivedRangesDescending packetNumber
    let t := { t with
      receivedPacketNumbers := insert packetNumber t.receivedPacketNumbers
      receivedRangesDescending := ranges }
    let t :=
      if t.shouldUpdateLargestReceived packetNumber then
        { t with
          largestReceived := some packetNumber
          largestAckElicitingReceiveTimeMicros :=
            if ackEliciting then some nowMicros else t.largestAckElicitingReceiveTimeMicros }
      else t
    let t ← t.discardOutsideTrackingWindow
    some (t, true)

/-- The ranges after the first, as gaps and lengths. -/
def extraAckRanges : ℕ → List ClosedRange → Option (List QUICAckRange)
  | _, [] => some []
  | previousLow, range :: rest => do
    let below ← Checked.sub previousLow range.largest
    let gap ← Checked.sub below 2
    let length ← Checked.sub range.largest range.smallest
    let more ← extraAckRanges range.smallest rest
    some (⟨gap, length⟩ :: more)

/-- The divisor of the acknowledgement delay. -/
def ackDelayDivisor (t : QUICAckTracker) : ℕ :=
  if 63 ≤ t.ackDelayExponent then uint64Max else 2 ^ t.ackDelayExponent

/-- The ACK frame for what was received, if there is anything to acknowledge. -/
def makeAckFrame (t : QUICAckTracker) (nowMicros : ℕ) : Option (Option QUICFrame) :=
  match t.largestReceived, t.receivedRangesDescending with
  | some largestReceived, first :: rest => do
    let firstAckRange ← Checked.sub first.largest first.smallest
    let extraRanges ← extraAckRanges first.smallest rest
    let delayMicros :=
      match t.largestAckElicitingReceiveTimeMicros with
      | some time => if time ≤ nowMicros then nowMicros - time else 0
      | none => 0
    some (some (.ack largestReceived (delayMicros / t.ackDelayDivisor) firstAckRange extraRanges))
  | _, _ => some none

/-- The ranges of an ACK frame after the first; `none` inside for a frame that is refused. -/
def decodeAckRanges : ℕ → List QUICAckRange → Option (Option (List ClosedRange))
  | _, [] => some (some [])
  | rangeLow, range :: rest =>
    if uint64Max - 2 < range.gap then some none
    else do
      let encodedGap ← Checked.add range.gap 2
      if rangeLow < encodedGap then some none
      else
        let rangeHigh ← Checked.sub rangeLow encodedGap
        if rangeHigh < range.length then some none
        else
          let rangeLow ← Checked.sub rangeHigh range.length
          let more ← decodeAckRanges rangeLow rest
          some (more.map (⟨rangeLow, rangeHigh⟩ :: ·))

/-- The ranges that an ACK frame acknowledges; `none` inside for a frame that is refused. -/
def acknowledgedPacketNumberRanges : QUICFrame → Option (Option (List ClosedRange))
  | .ack largest _ firstRange ranges =>
    if largest < firstRange then some none
    else do
      let rangeLow ← Checked.sub largest firstRange
      let more ← decodeAckRanges rangeLow ranges
      some (more.map (⟨rangeLow, largest⟩ :: ·))
  | _ => some none

end QUICAckTracker

/-! ## Placing a number -/

section Insert

variable {ranges a b : List ClosedRange} {x y : ClosedRange} {n : ℕ}

/-- No range goes past the largest `UInt64`. -/
def RangesBounded (ranges : List ClosedRange) : Prop := ∀ r ∈ ranges, r.largest ≤ uint64Max

lemma followsRange_eq (hy : y.largest ≤ uint64Max) (hn : n ≤ uint64Max) :
    followsRange y n = some (decide (y.largest + 1 = n)) := by
  unfold followsRange
  split_ifs with hmax
  · have hlt : y.largest + 1 < Checked.bound := by
      unfold Checked.bound
      unfold uint64Max at hy hmax
      omega
    rw [Checked.add_of_lt hlt]
    simp [eq_comm]
  · rw [decide_eq_false]
    omega

lemma precedesRange_eq : precedesRange x n = some (decide (x.smallest = n + 1)) := by
  unfold precedesRange
  split_ifs with hpos
  · rw [Checked.sub_of_le hpos]
    have hiff : n = x.smallest - 1 ↔ x.smallest = n + 1 := by omega
    simp [hiff]
  · rw [decide_eq_false]
    omega

lemma closedRange_eq {lower upper : ℕ} (h : lower ≤ upper) :
    closedRange lower upper = some ⟨lower, upper⟩ := if_pos h

lemma set_append_cons (a b : List ClosedRange) (x y : ClosedRange) :
    (a ++ x :: b).set a.length y = a ++ y :: b := by
  simp

/-- The range after a number is the first one that starts at it or below it. -/
lemma lowerBoundIndex_split (hsep : Separated ranges) (hn : ¬ Mem ranges n) :
    ∃ above below, ranges = above ++ below ∧ above.length = lowerBoundIndex ranges n ∧
      (∀ r ∈ above, n < r.smallest) ∧ ∀ r ∈ below, r.largest < n := by
  have hfirst : ∀ i j, i ≤ j → j < ranges.length →
      decide (n < (ranges.getD j default).smallest) = true →
      decide (n < (ranges.getD i default).smallest) = true := by
    intro i j hij hj hlt
    rcases hij.eq_or_lt with rfl | hij
    · exact hlt
    · have hapart := List.pairwise_iff_getElem.mp hsep.apart i j (hij.trans hj) hj hij
      have hne := hsep.nonempty _ (List.getElem_mem hj)
      rw [List.getD_eq_getElem _ _ hj] at hlt
      rw [List.getD_eq_getElem _ _ (hij.trans hj)]
      have := of_decide_eq_true hlt
      exact decide_eq_true (by omega)
  obtain ⟨habove, hbelow⟩ := LowerBound.search_spec hfirst (Nat.zero_le _) le_rfl
    (Nat.sub_zero _).le (fun i hi => absurd hi (Nat.not_lt_zero i))
    (fun i hi hlt => absurd hlt (not_lt.mpr hi))
  have hle : lowerBoundIndex ranges n ≤ ranges.length := by
    by_contra hgt
    have hlast := habove ranges.length (not_le.mp hgt)
    rw [List.getD_eq_default _ _ le_rfl] at hlast
    exact absurd (of_decide_eq_true hlast) (Nat.not_lt_zero n)
  refine ⟨ranges.take (lowerBoundIndex ranges n), ranges.drop (lowerBoundIndex ranges n),
    (List.take_append_drop _ _).symm, List.length_take_of_le hle, ?_, ?_⟩
  · intro r hr
    obtain ⟨i, hi, rfl⟩ := List.mem_iff_getElem.mp hr
    have hlt : i < lowerBoundIndex ranges n := by
      rw [List.length_take] at hi
      omega
    have hget := habove i hlt
    rw [List.getD_eq_getElem _ _ (hlt.trans_le hle)] at hget
    rw [List.getElem_take]
    exact of_decide_eq_true hget
  · intro r hr
    obtain ⟨i, hi, rfl⟩ := List.mem_iff_getElem.mp hr
    rw [List.length_drop] at hi
    have hget := hbelow (lowerBoundIndex ranges n + i) (Nat.le_add_right _ _) (by omega)
    rw [List.getD_eq_getElem _ _ (by omega)] at hget
    rw [List.getElem_drop]
    have hge := not_lt.mp (of_decide_eq_false hget)
    by_contra hlarge
    exact hn ⟨_, List.getElem_mem _, hge, not_lt.mp hlarge⟩

/-- Between two neighbours a number joins those that it touches. -/
lemma mergeReceivedRange_placed (hsep : Separated (a ++ y :: b))
    (hbound : RangesBounded (a ++ y :: b)) (hn : n ≤ uint64Max)
    (ha : ∀ x ∈ a, n < x.smallest) (hy : y.largest < n) :
    ∃ ranges', mergeReceivedRange (a ++ y :: b) a.length n = some ranges' ∧
      Placed (a ++ y :: b) n ranges' := by
  have hbelow : ∀ z ∈ b, z.largest + 1 < n := by
    intro z hz
    have hzy := hsep.below z hz
    have hne := hsep.nonempty y (by simp)
    omega
  have hget : (a ++ y :: b)[a.length]? = some y := by simp
  have hfollows := followsRange_eq (hbound y (by simp)) hn
  have hney := hsep.nonempty y (by simp)
  rcases List.eq_nil_or_concat a with rfl | ⟨a, x, rfl⟩
  · unfold mergeReceivedRange
    rw [hget]
    simp only [List.length_nil, lt_irrefl, if_false, hfollows, Option.bind_eq_bind,
      Option.bind_some, Bool.false_eq_true, false_and, decide_eq_true_eq]
    split_ifs with htouch
    · rw [closedRange_eq (by omega)]
      exact ⟨_, rfl, placed_over hsep htouch (by simp)⟩
    · refine ⟨_, rfl, placed_alone hsep (by simp) ?_⟩
      intro z hz
      rcases List.mem_cons.mp hz with rfl | hz
      · omega
      · exact hbelow z hz
  · rw [List.concat_eq_append] at *
    have hgetAbove : ((a ++ [x]) ++ y :: b)[(a ++ [x]).length - 1]? = some x := by simp
    have hx := ha x (by simp)
    have hnex := hsep.nonempty x (by simp)
    have hsep' : Separated (a ++ x :: y :: b) := by simpa using hsep
    have hfar : ∀ z ∈ a, n + 1 < z.smallest := by
      intro z hz
      have hzx := hsep'.above z hz
      omega
    have hset : ∀ r, ((a ++ [x]) ++ y :: b).set ((a ++ [x]).length - 1) r = a ++ r :: y :: b := by
      intro r
      simp
    have hlists : (a ++ [x]) ++ y :: b = a ++ x :: y :: b := by simp
    unfold mergeReceivedRange
    rw [hget, hgetAbove]
    have hpos : 0 < (a ++ [x]).length := by simp
    simp only [hpos, if_true, precedesRange_eq, hfollows, Option.bind_eq_bind, Option.bind_some,
      decide_eq_true_eq]
    split_ifs with hboth habove hunder
    · rw [closedRange_eq (by omega)]
      refine ⟨_, rfl, ?_⟩
      rw [hset, hlists]
      have herase : (a ++ ⟨y.smallest, x.largest⟩ :: y :: b).eraseIdx (a ++ [x]).length =
          a ++ ⟨y.smallest, x.largest⟩ :: b := by
        rw [List.length_append, List.eraseIdx_append_of_length_le (by simp)]
        simp
      rw [herase]
      exact placed_between hsep' hboth.1 hboth.2
    · rw [closedRange_eq (by omega)]
      refine ⟨_, rfl, ?_⟩
      rw [hset, hlists]
      refine placed_under hsep' habove ?_
      intro z hz
      rcases List.mem_cons.mp hz with rfl | hz
      · have hnot : ¬z.largest + 1 = n := fun h => hboth ⟨habove, h⟩
        omega
      · exact hbelow z hz
    · rw [closedRange_eq (by omega)]
      refine ⟨_, rfl, ?_⟩
      rw [set_append_cons]
      refine placed_over hsep hunder ?_
      intro z hz
      rcases List.mem_append.mp hz with hz | hz
      · exact hfar z hz
      · obtain rfl := List.mem_singleton.mp hz
        omega
    · refine ⟨_, rfl, ?_⟩
      rw [List.take_left, List.drop_left]
      refine placed_alone hsep ?_ ?_
      · intro z hz
        rcases List.mem_append.mp hz with hz | hz
        · exact hfar z hz
        · obtain rfl := List.mem_singleton.mp hz
          omega
      · intro z hz
        rcases List.mem_cons.mp hz with rfl | hz
        · omega
        · exact hbelow z hz

/-- At an end of the list a number is placed without a search, and anywhere else it is left for
one. -/
lemma insertAdjacentToEdge_placed (hsep : Separated ranges) (hbound : RangesBounded ranges)
    (hn : n ≤ uint64Max) :
    (∃ ranges', insertAdjacentToEdge ranges n = some (ranges', true) ∧ Placed ranges n ranges') ∨
      insertAdjacentToEdge ranges n = some (ranges, false) ∧
        ∃ r ∈ ranges, r.smallest ≤ n := by
  rcases List.eq_nil_or_concat ranges with rfl | ⟨front, lowest, rfl⟩
  · exact .inl ⟨[⟨n, n⟩], rfl, placed_alone (a := []) (b := []) hsep (by simp) (by simp)⟩
  rw [List.concat_eq_append] at *
  obtain ⟨highest, rest, hcons⟩ : ∃ highest rest, front ++ [lowest] = highest :: rest := by
    cases front with
    | nil => exact ⟨lowest, [], rfl⟩
    | cons highest rest => exact ⟨highest, rest ++ [lowest], rfl⟩
  have hhead : (front ++ [lowest]).head? = some highest := by rw [hcons]; rfl
  have hlast : (front ++ [lowest]).getLast? = some lowest := by simp
  have hnelow := hsep.nonempty lowest (by simp)
  have hnehigh := hsep.nonempty highest (by rw [hcons]; simp)
  unfold insertAdjacentToEdge
  rw [hhead, hlast]
  simp only
  split_ifs with hover hunder
  · left
    have hall : ∀ y ∈ rest, y.largest + 1 < n := by
      intro y hy
      have hsep' : Separated ([] ++ highest :: rest) := by
        rw [List.nil_append, ← hcons]
        exact hsep
      have := hsep'.below y hy
      omega
    rw [followsRange_eq (hbound highest (by rw [hcons]; simp)) hn]
    simp only [Option.bind_eq_bind, Option.bind_some, decide_eq_true_eq]
    rw [hcons] at hsep ⊢
    split_ifs with htouch
    · rw [closedRange_eq (by omega)]
      exact ⟨_, rfl, placed_over (a := []) hsep htouch (by simp)⟩
    · refine ⟨_, rfl, placed_alone (a := []) hsep (by simp) ?_⟩
      intro y hy
      rcases List.mem_cons.mp hy with rfl | hy
      · omega
      · exact hall y hy
  · left
    have hall : ∀ x ∈ front, n + 1 < x.smallest := by
      intro x hx
      have := hsep.above x hx
      omega
    have hlt : n + 1 < Checked.bound := by
      have := hbound lowest (by simp)
      unfold uint64Max at this
      unfold Checked.bound
      omega
    rw [Checked.add_of_lt hlt]
    simp only [Option.bind_eq_bind, Option.bind_some]
    split_ifs with htouch
    · rw [closedRange_eq (by omega)]
      refine ⟨_, rfl, ?_⟩
      have hset : (front ++ [lowest]).set ((front ++ [lowest]).length - 1) ⟨n, lowest.largest⟩ =
          front ++ [⟨n, lowest.largest⟩] := by
        simp
      rw [hset]
      exact placed_under hsep htouch.symm (by simp)
    · have hfar : ∀ x ∈ front ++ [lowest], n + 1 < x.smallest := by
        intro x hx
        rcases List.mem_append.mp hx with hx | hx
        · exact hall x hx
        · obtain rfl := List.mem_singleton.mp hx
          omega
      have hplaced := placed_alone (b := []) (by rw [List.append_nil]; exact hsep) hfar (by simp)
      rw [List.append_nil] at hplaced
      exact ⟨_, rfl, hplaced⟩
  · right
    exact ⟨rfl, lowest, by simp, not_lt.mp hunder⟩

/-- A new number is added to the ranges, and nothing else is. -/
theorem insertReceivedRange_placed (hsep : Separated ranges) (hbound : RangesBounded ranges)
    (hn : n ≤ uint64Max) (hnew : ¬ Mem ranges n) :
    ∃ ranges', insertReceivedRange ranges n = some ranges' ∧ Placed ranges n ranges' := by
  unfold insertReceivedRange
  obtain ⟨ranges', hedge, hplaced⟩ | ⟨hedge, r, hr, hle⟩ :=
    insertAdjacentToEdge_placed hsep hbound hn
  · rw [hedge]
    exact ⟨ranges', rfl, hplaced⟩
  · obtain ⟨above, below, rfl, hlength, habove, hbelow⟩ := lowerBoundIndex_split hsep hnew
    obtain ⟨y, b, rfl⟩ : ∃ y b, below = y :: b := by
      rcases List.mem_append.mp hr with hr | hr
      · exact absurd hle (not_le.mpr (habove r hr))
      · exact List.exists_cons_of_ne_nil (List.ne_nil_of_mem hr)
    have hget : (above ++ y :: b)[above.length]? = some y := by simp
    have hnot : ¬ y.Has n := fun h => absurd h.2 (not_le.mpr (hbelow y (by simp)))
    obtain ⟨ranges', hmerge, hplaced⟩ :=
      mergeReceivedRange_placed hsep hbound hn habove (hbelow y (by simp))
    refine ⟨ranges', ?_, hplaced⟩
    rw [hedge]
    simp only [Option.bind_eq_bind, Option.bind_some, Bool.false_eq_true, if_false]
    rw [← hlength, hget]
    simp only
    rw [if_neg hnot]
    exact hmerge

/-- Descending numbers become the ranges that hold exactly them. -/
lemma contiguousFrom_spec {high low : ℕ} {numbers : List ℕ} (hle : low ≤ high)
    (hdesc : (low :: numbers).Pairwise (· > ·)) :
    Separated (contiguousFrom high low numbers) ∧
      (∀ m, Mem (contiguousFrom high low numbers) m ↔ (low ≤ m ∧ m ≤ high) ∨ m ∈ numbers) ∧
      ∀ r ∈ contiguousFrom high low numbers, r.largest ≤ high := by
  induction numbers generalizing high low with
  | nil =>
    refine ⟨⟨?_, List.pairwise_singleton _ _⟩, ?_, ?_⟩
    · intro r hr
      obtain rfl := List.mem_singleton.mp hr
      exact hle
    · intro m
      simp [contiguousFrom, Mem, ClosedRange.Has]
    · intro r hr
      obtain rfl := List.mem_singleton.mp hr
      exact le_rfl
  | cons number rest ih =>
    obtain ⟨hlow, hrest⟩ := List.pairwise_cons.mp hdesc
    have hlt : number < low := hlow number (by simp)
    rw [contiguousFrom]
    split_ifs with hnext
    · obtain ⟨hsep, hmem, hlargest⟩ := ih (by omega : number ≤ high) hrest
      refine ⟨hsep, ?_, hlargest⟩
      intro m
      rw [hmem m, List.mem_cons]
      have hsame : (number ≤ m ∧ m ≤ high) ↔ (low ≤ m ∧ m ≤ high) ∨ m = number := by omega
      rw [hsame, or_assoc]
    · obtain ⟨hsep, hmem, hlargest⟩ := ih (le_refl number) hrest
      refine ⟨?_, ?_, ?_⟩
      · refine Separated.insert (a := []) hsep hle (by simp) ?_
        intro r hr
        have hr' := hlargest r hr
        change r.largest + 1 < low
        omega
      · intro m
        have hcons := mem_insert (a := []) (b := contiguousFrom number number rest)
          (r := ⟨low, high⟩) (n := m)
        rw [List.nil_append, List.nil_append] at hcons
        rw [hcons, hmem m, List.mem_cons]
        simp only [ClosedRange.Has]
        have hone : (number ≤ m ∧ m ≤ number) ↔ m = number := by omega
        rw [hone]
      · intro r hr
        rcases List.mem_cons.mp hr with rfl | hr
        · exact le_rfl
        · have hr' := hlargest r hr
          omega

lemma contiguousClosedRangesDescending_spec {numbers : List ℕ}
    (hdesc : numbers.Pairwise (· > ·)) :
    Separated (contiguousClosedRangesDescending numbers) ∧
      ∀ m, Mem (contiguousClosedRangesDescending numbers) m ↔ m ∈ numbers := by
  cases numbers with
  | nil => exact ⟨separated_nil, fun m => by simp [contiguousClosedRangesDescending, Mem]⟩
  | cons number rest =>
    obtain ⟨hsep, hmem, -⟩ := contiguousFrom_spec (le_refl number) hdesc
    refine ⟨hsep, ?_⟩
    intro m
    rw [contiguousClosedRangesDescending, hmem m, List.mem_cons]
    have hone : (number ≤ m ∧ m ≤ number) ↔ m = number := by omega
    rw [hone]

end Insert

/-! ## What every sequence of arrivals keeps true -/

namespace QUICAckTracker

/-- The ranges hold exactly the tracked numbers, which are at least the floor and of which the
largest received is one. -/
structure Exact (t : QUICAckTracker) : Prop where
  separated : Separated t.receivedRangesDescending
  covers : ∀ n, Mem t.receivedRangesDescending n ↔ n ∈ t.receivedPacketNumbers
  bounded : ∀ n ∈ t.receivedPacketNumbers, n ≤ uint64Max
  floor : ∀ n ∈ t.receivedPacketNumbers, t.discardedBelow ≤ n
  largest : ∀ m, t.largestReceived = some m →
    m ∈ t.receivedPacketNumbers ∧ ∀ n ∈ t.receivedPacketNumbers, n ≤ m
  none_received : t.largestReceived = none → t.receivedPacketNumbers = ∅

variable {t : QUICAckTracker} {n : ℕ}

lemma Exact.ranges_bounded (ht : t.Exact) : RangesBounded t.receivedRangesDescending := by
  intro r hr
  have hne := ht.separated.nonempty r hr
  exact ht.bounded _ ((ht.covers _).mp ⟨r, hr, hne, le_rfl⟩)

/-- Trimming goes through, and forgets only what is below the new floor. -/
lemma discardOutsideTrackingWindow_exact (ht : t.Exact) :
    ∃ t', t.discardOutsideTrackingWindow = some t' ∧ t'.Exact ∧
      t.discardedBelow ≤ t'.discardedBelow ∧
      ∀ n ∈ t.receivedPacketNumbers, n ∈ t'.receivedPacketNumbers ∨ n < t'.discardedBelow := by
  have hsame : t.Exact ∧ t.discardedBelow ≤ t.discardedBelow ∧
      ∀ n ∈ t.receivedPacketNumbers, n ∈ t.receivedPacketNumbers ∨ n < t.discardedBelow :=
    ⟨ht, le_rfl, fun n hn => .inl hn⟩
  have hpos : 0 < maximumTrackedReceivedPacketNumbers := Nat.zero_lt_succ 8191
  unfold discardOutsideTrackingWindow
  generalize maximumTrackedReceivedPacketNumbers = window at hpos ⊢
  split_ifs
  · cases hlargest : t.largestReceived with
    | none => exact ⟨t, rfl, hsame⟩
    | some largestReceived =>
      obtain ⟨hmem, hmax⟩ := ht.largest _ hlargest
      simp only
      split_ifs with hsmall
      · exact ⟨t, rfl, hsame⟩
      · have hle : window ≤ largestReceived := not_lt.mp hsmall
        have hadd : largestReceived - window + 1 < Checked.bound := by
          have hbound := ht.bounded _ hmem
          unfold uint64Max at hbound
          unfold Checked.bound
          omega
        rw [Checked.sub_of_le hle, Option.bind_eq_bind, Option.bind_some, Checked.add_of_lt hadd,
          Option.bind_some]
        split_ifs with hfloor
        · exact ⟨t, rfl, hsame⟩
        · generalize hf : largestReceived - window + 1 = floor at hfloor ⊢
          have hfloorLe : floor ≤ largestReceived := by omega
          have hdesc : (Finset.sort (t.receivedPacketNumbers.filter (floor ≤ ·)) (· ≥ ·)).Pairwise
              (· > ·) := (Finset.sortedGT_sort _).pairwise
          obtain ⟨hsep, hcovers⟩ := contiguousClosedRangesDescending_spec hdesc
          refine ⟨_, rfl, ⟨hsep, ?_, ?_, ?_, ?_, ?_⟩, (not_le.mp hfloor).le, ?_⟩
          · intro n
            rw [hcovers n, Finset.mem_sort]
          · intro n hn
            exact ht.bounded n (Finset.mem_filter.mp hn).1
          · intro n hn
            exact (Finset.mem_filter.mp hn).2
          · intro m hm
            obtain rfl : largestReceived = m := Option.some.inj hm
            exact ⟨Finset.mem_filter.mpr ⟨hmem, hfloorLe⟩,
              fun n hn => hmax n (Finset.mem_filter.mp hn).1⟩
          · intro hnone
            have hnone : some largestReceived = none := hnone
            cases hnone
          · intro n hn
            by_cases hkeep : floor ≤ n
            · exact .inl (Finset.mem_filter.mpr ⟨hn, hkeep⟩)
            · exact .inr (not_le.mp hkeep)
  · exact ⟨t, rfl, hsame⟩

/-- An arrival is recorded without a trap. A number is answered for once: it is tracked from
then on, or below the floor. -/
theorem recordReceived_exact (ht : t.Exact) (hn : n ≤ uint64Max) (nowMicros : ℕ)
    (ackEliciting : Bool) :
    ∃ t' answer, t.recordReceived n nowMicros ackEliciting = some (t', answer) ∧ t'.Exact ∧
      (answer = true → n ∉ t.receivedPacketNumbers ∧ t.discardedBelow ≤ n ∧
        (n ∈ t'.receivedPacketNumbers ∨ n < t'.discardedBelow)) ∧
      t.discardedBelow ≤ t'.discardedBelow ∧
      ∀ m ∈ t.receivedPacketNumbers, m ∈ t'.receivedPacketNumbers ∨ m < t'.discardedBelow := by
  have hrefused : ∃ t' answer, some (t, false) = some (t', answer) ∧ t'.Exact ∧
      (answer = true → n ∉ t.receivedPacketNumbers ∧ t.discardedBelow ≤ n ∧
        (n ∈ t'.receivedPacketNumbers ∨ n < t'.discardedBelow)) ∧
      t.discardedBelow ≤ t'.discardedBelow ∧
      ∀ m ∈ t.receivedPacketNumbers, m ∈ t'.receivedPacketNumbers ∨ m < t'.discardedBelow :=
    ⟨t, false, rfl, ht, nofun, le_rfl, fun m hm => .inl hm⟩
  unfold recordReceived
  by_cases hfloor : n < t.discardedBelow
  · rw [if_pos hfloor]
    exact hrefused
  by_cases hseen : n ∈ t.receivedPacketNumbers
  · rw [if_neg hfloor, if_pos hseen]
    exact hrefused
  rw [if_neg hfloor, if_neg hseen]
  obtain ⟨ranges, hranges, hplaced⟩ := insertReceivedRange_placed ht.separated ht.ranges_bounded hn
    (fun h => hseen ((ht.covers n).mp h))
  rw [hranges]
  simp only [Option.bind_eq_bind, Option.bind_some]
  let inserted : QUICAckTracker := { t with
    receivedPacketNumbers := insert n t.receivedPacketNumbers
    receivedRangesDescending := ranges }
  let noted : QUICAckTracker :=
    if inserted.shouldUpdateLargestReceived n then
      { inserted with
        largestReceived := some n
        largestAckElicitingReceiveTimeMicros :=
          if ackEliciting then some nowMicros else inserted.largestAckElicitingReceiveTimeMicros }
    else inserted
  have hcovers : ∀ m, Mem ranges m ↔ m ∈ insert n t.receivedPacketNumbers := by
    intro m
    rw [hplaced.mem m, Finset.mem_insert, ht.covers m]
  have hbounded : ∀ m ∈ insert n t.receivedPacketNumbers, m ≤ uint64Max := by
    intro m hm
    rcases Finset.mem_insert.mp hm with rfl | hm
    · exact hn
    · exact ht.bounded m hm
  have hfloors : ∀ m ∈ insert n t.receivedPacketNumbers, t.discardedBelow ≤ m := by
    intro m hm
    rcases Finset.mem_insert.mp hm with rfl | hm
    · exact not_lt.mp hfloor
    · exact ht.floor m hm
  have hnoted : noted.Exact ∧ noted.receivedPacketNumbers = insert n t.receivedPacketNumbers ∧
      noted.discardedBelow = t.discardedBelow := by
    by_cases hnew : inserted.shouldUpdateLargestReceived n = true
    · have heq : noted = { inserted with
          largestReceived := some n
          largestAckElicitingReceiveTimeMicros := if ackEliciting then some nowMicros
            else inserted.largestAckElicitingReceiveTimeMicros } := if_pos hnew
      rw [heq]
      refine ⟨⟨hplaced.separated, hcovers, hbounded, hfloors, ?_, nofun⟩, rfl, rfl⟩
      intro m hm
      obtain rfl := Option.some.inj hm
      refine ⟨Finset.mem_insert_self _ _, ?_⟩
      intro k hk
      rcases Finset.mem_insert.mp hk with rfl | hk
      · exact le_rfl
      · cases hlargest : t.largestReceived with
        | none =>
          rw [ht.none_received hlargest] at hk
          exact absurd hk (Finset.notMem_empty k)
        | some largest =>
          have hlt : largest < n := by
            have hdecide : inserted.shouldUpdateLargestReceived n = decide (largest < n) := by
              change (match t.largestReceived with
                | none => true
                | some largestReceived => decide (largestReceived < n)) = _
              rw [hlargest]
            rw [hdecide] at hnew
            exact of_decide_eq_true hnew
          exact ((ht.largest _ hlargest).2 k hk).trans hlt.le
    · have heq : noted = inserted := if_neg hnew
      rw [heq]
      obtain ⟨largest, hlargest, hle⟩ : ∃ largest, t.largestReceived = some largest ∧
          n ≤ largest := by
        have hdecide : inserted.shouldUpdateLargestReceived n = (match t.largestReceived with
          | none => true
          | some largestReceived => decide (largestReceived < n)) := rfl
        rw [hdecide] at hnew
        cases hlargest : t.largestReceived with
        | none =>
          rw [hlargest] at hnew
          exact absurd rfl hnew
        | some largest =>
          rw [hlargest] at hnew
          exact ⟨largest, rfl, not_lt.mp fun h => hnew (decide_eq_true h)⟩
      refine ⟨⟨hplaced.separated, hcovers, hbounded, hfloors, ?_, ?_⟩, rfl, rfl⟩
      · intro m hm
        obtain rfl : largest = m := by
          have hm : t.largestReceived = some m := hm
          rw [hlargest] at hm
          exact Option.some.inj hm
        obtain ⟨hmem, hmax⟩ := ht.largest _ hlargest
        refine ⟨Finset.mem_insert_of_mem hmem, ?_⟩
        intro k hk
        rcases Finset.mem_insert.mp hk with rfl | hk
        · exact hle
        · exact hmax k hk
      · intro hnone
        have hnone : t.largestReceived = none := hnone
        rw [hlargest] at hnone
        cases hnone
  obtain ⟨hexact, hnumbers, hsameFloor⟩ := hnoted
  obtain ⟨t', hdiscard, ht', hraised, hkept⟩ := discardOutsideTrackingWindow_exact hexact
  rw [hsameFloor] at hraised
  rw [hnumbers] at hkept
  refine ⟨t', true, ?_, ht', fun _ => ⟨hseen, not_lt.mp hfloor, ?_⟩, hraised, ?_⟩
  · change (noted.discardOutsideTrackingWindow).bind _ = _
    rw [hdiscard]
    rfl
  · exact hkept n (Finset.mem_insert_self _ _)
  · intro m hm
    exact hkept m (Finset.mem_insert_of_mem hm)

/-! ## The frame that acknowledges them -/

/-- The gaps and lengths of separated ranges are read back as the same ranges. -/
lemma extraAckRanges_decoded {previousLow : ℕ} {rest : List ClosedRange}
    (hsep : Separated rest) (hprevious : ∀ r ∈ rest, r.largest + 1 < previousLow)
    (hbound : previousLow ≤ uint64Max) :
    ∃ extra, extraAckRanges previousLow rest = some extra ∧
      decodeAckRanges previousLow extra = some (some rest) := by
  induction rest generalizing previousLow with
  | nil => exact ⟨[], rfl, rfl⟩
  | cons range rest ih =>
    have hlt := hprevious range (by simp)
    have hne := hsep.nonempty range (by simp)
    obtain ⟨more, hmore, hdecoded⟩ := ih (hsep.sublist (List.sublist_cons_self _ _))
      (Separated.below (a := []) hsep) (by omega)
    refine ⟨⟨previousLow - range.largest - 2, range.largest - range.smallest⟩ :: more, ?_, ?_⟩
    · rw [extraAckRanges, Checked.sub_of_le (by omega)]
      simp only [Option.bind_eq_bind, Option.bind_some]
      rw [Checked.sub_of_le (by omega)]
      simp only [Option.bind_some]
      rw [Checked.sub_of_le hne, hmore]
      rfl
    · have hencoded : previousLow - range.largest - 2 + 2 = previousLow - range.largest := by omega
      have hhigh : previousLow - (previousLow - range.largest) = range.largest := by omega
      have hlow : range.largest - (range.largest - range.smallest) = range.smallest := by omega
      have hroom : previousLow - range.largest - 2 + 2 < Checked.bound := by
        unfold Checked.bound
        unfold uint64Max at hbound
        omega
      rw [decodeAckRanges, if_neg (by simp only; omega), Checked.add_of_lt hroom]
      simp only [Option.bind_eq_bind, Option.bind_some, hencoded]
      rw [if_neg (by omega), Checked.sub_of_le (by omega), hhigh]
      simp only [Option.bind_some]
      rw [if_neg (by omega), Checked.sub_of_le (by omega), hlow]
      simp only [Option.bind_some]
      rw [hdecoded]
      rfl

/-- The frame is built without a trap, there is one as soon as something was received, and it
acknowledges exactly the ranges. -/
theorem makeAckFrame_exact (ht : t.Exact) (nowMicros : ℕ) :
    ∃ frame, t.makeAckFrame nowMicros = some frame ∧
      (frame = none ↔ t.receivedPacketNumbers = ∅) ∧
      ∀ f, frame = some f →
        acknowledgedPacketNumberRanges f = some (some t.receivedRangesDescending) := by
  unfold makeAckFrame
  cases hlargest : t.largestReceived with
  | none => exact ⟨none, rfl, by simp [ht.none_received hlargest], nofun⟩
  | some largestReceived =>
    obtain ⟨hmem, hmax⟩ := ht.largest _ hlargest
    cases hranges : t.receivedRangesDescending with
    | nil =>
      obtain ⟨r, hr, -⟩ := (ht.covers _).mpr hmem
      rw [hranges] at hr
      exact absurd hr List.not_mem_nil
    | cons first rest =>
      have hsep : Separated ([] ++ first :: rest) := by
        rw [List.nil_append, ← hranges]
        exact ht.separated
      have hne := hsep.nonempty first (by simp)
      -- The first range ends at the largest number.
      have hfirst : first.largest = largestReceived := by
        refine le_antisymm (hmax _ ((ht.covers _).mp ⟨first, ?_, hne, le_rfl⟩)) ?_
        · rw [hranges]
          exact List.mem_cons_self
        · obtain ⟨r, hr, -, hle⟩ := (ht.covers _).mpr hmem
          rw [hranges] at hr
          rcases List.mem_cons.mp hr with rfl | hr
          · exact hle
          · have := hsep.below r hr
            omega
      have hbound : first.smallest ≤ uint64Max :=
        (hne.trans hfirst.le).trans (ht.bounded _ hmem)
      obtain ⟨extra, hextra, hdecoded⟩ := extraAckRanges_decoded
        (hsep.sublist (List.sublist_cons_self _ _)) hsep.below hbound
      have hlow : largestReceived - (first.largest - first.smallest) = first.smallest := by omega
      simp only
      rw [Checked.sub_of_le hne, hextra]
      refine ⟨_, rfl, ?_, ?_⟩
      · simp only [reduceCtorEq, false_iff]
        exact Finset.ne_empty_of_mem hmem
      · intro f hf
        obtain rfl := Option.some.inj hf
        rw [acknowledgedPacketNumberRanges, if_neg (by omega), Checked.sub_of_le (by omega), hlow]
        simp only [Option.bind_eq_bind, Option.bind_some]
        rw [hdecoded, ← hfirst]
        rfl

/-! ## Every sequence of arrivals -/

/-- A packet as it arrives. -/
structure Arrival where
  packetNumber : UInt64
  nowMicros : UInt64
  ackEliciting : Bool

/-- A tracker in which nothing has arrived. -/
def new (packetNumberSpace : QUICPacketNumberSpace) (ackDelayExponent : UInt8) :
    QUICAckTracker where
  packetNumberSpace := packetNumberSpace
  ackDelayExponent := ackDelayExponent.toNat

/-- Record arrivals one after the other, with the answers. -/
def recordAll (t : QUICAckTracker) : List Arrival → Option (QUICAckTracker × List Bool)
  | [] => some (t, [])
  | a :: rest => do
    let (t, answer) ← t.recordReceived a.packetNumber.toNat a.nowMicros.toNat a.ackEliciting
    let (t, answers) ← t.recordAll rest
    some (t, answer :: answers)

/-- The numbers that were answered for as new. -/
def accepted (arrivals : List Arrival) (answers : List Bool) : List ℕ :=
  (arrivals.zip answers).filterMap fun p => if p.2 then some p.1.packetNumber.toNat else none

lemma new_exact (packetNumberSpace : QUICPacketNumberSpace) (ackDelayExponent : UInt8) :
    (new packetNumberSpace ackDelayExponent).Exact where
  separated := separated_nil
  covers n := by simp [new, Mem]
  bounded := by simp [new]
  floor := by simp [new]
  largest := by simp [new]
  none_received _ := rfl

/-- Over a run the floor only rises, and no number is accepted that was tracked or below the
floor before. -/
lemma recordAll_exact (ht : t.Exact) (arrivals : List Arrival) :
    ∃ t' answers, t.recordAll arrivals = some (t', answers) ∧ answers.length = arrivals.length ∧
      t'.Exact ∧ (accepted arrivals answers).Nodup ∧
      ∀ m ∈ accepted arrivals answers, m ∉ t.receivedPacketNumbers ∧ t.discardedBelow ≤ m := by
  induction arrivals generalizing t with
  | nil => exact ⟨t, [], rfl, rfl, ht, List.nodup_nil, by simp [accepted]⟩
  | cons a rest ih =>
    have hn : a.packetNumber.toNat ≤ uint64Max := by
      have := a.packetNumber.toNat_lt
      unfold uint64Max
      omega
    obtain ⟨t₁, answer, hrecord, ht₁, hanswer, hraised, hkept⟩ :=
      recordReceived_exact ht hn a.nowMicros.toNat a.ackEliciting
    obtain ⟨t', answers, hrun, hlength, ht', hnodup, hfresh⟩ := ih ht₁
    have haccepted : accepted (a :: rest) (answer :: answers) =
        if answer then a.packetNumber.toNat :: accepted rest answers
        else accepted rest answers := by
      unfold accepted
      rw [List.zip_cons_cons, List.filterMap_cons]
      cases answer
      · rfl
      · rfl
    -- What is accepted later was neither tracked nor below the floor at the start either.
    have hlater : ∀ m ∈ accepted rest answers,
        m ∉ t.receivedPacketNumbers ∧ t.discardedBelow ≤ m := by
      intro m hm
      obtain ⟨hnot, hfloor⟩ := hfresh m hm
      refine ⟨?_, hraised.trans hfloor⟩
      intro hmem
      rcases hkept m hmem with hmem | hlow
      · exact hnot hmem
      · exact absurd hfloor (not_le.mpr hlow)
    refine ⟨t', answer :: answers, ?_, by simp [hlength], ht', ?_, ?_⟩
    · rw [recordAll, hrecord]
      simp only [Option.bind_eq_bind, Option.bind_some]
      rw [hrun]
      rfl
    · rw [haccepted]
      split_ifs with htrue
      · refine List.nodup_cons.mpr ⟨?_, hnodup⟩
        intro hm
        obtain ⟨hnot, hfloor⟩ := hfresh _ hm
        rcases (hanswer htrue).2.2 with hmem | hlow
        · exact hnot hmem
        · exact absurd hfloor (not_le.mpr hlow)
      · exact hnodup
    · rw [haccepted]
      intro m hm
      split_ifs at hm with htrue
      · rcases List.mem_cons.mp hm with rfl | hm
        · exact ⟨(hanswer htrue).1, (hanswer htrue).2.1⟩
        · exact hlater m hm
      · exact hlater m hm

/-- However packets arrive, nothing traps, the ranges are descending, disjoint and not adjacent
and hold exactly the tracked numbers, no number is answered for as new twice, and the ACK frame
acknowledges exactly the ranges. -/
theorem recordAll_exact_and_once (packetNumberSpace : QUICPacketNumberSpace)
    (ackDelayExponent : UInt8) (arrivals : List Arrival) :
    ∃ t answers, (new packetNumberSpace ackDelayExponent).recordAll arrivals = some (t, answers) ∧
      answers.length = arrivals.length ∧ Separated t.receivedRangesDescending ∧
      (∀ n, Mem t.receivedRangesDescending n ↔ n ∈ t.receivedPacketNumbers) ∧
      (accepted arrivals answers).Nodup ∧
      ∀ nowMicros : UInt64, ∃ frame, t.makeAckFrame nowMicros.toNat = some frame ∧
        (frame = none ↔ t.receivedPacketNumbers = ∅) ∧
        ∀ f, frame = some f →
          acknowledgedPacketNumberRanges f = some (some t.receivedRangesDescending) := by
  obtain ⟨t, answers, hrun, hlength, ht, hnodup, -⟩ :=
    recordAll_exact (new_exact packetNumberSpace ackDelayExponent) arrivals
  exact ⟨t, answers, hrun, hlength, ht.separated, ht.covers, hnodup,
    fun nowMicros => makeAckFrame_exact ht nowMicros.toNat⟩

end QUICAckTracker

end WebTransport
