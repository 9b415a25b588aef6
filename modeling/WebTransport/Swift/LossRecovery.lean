import WebTransport.Lib.Dictionary
import WebTransport.Swift.AckTracker

/-!
# Loss recovery of the Swift endpoint

What is outstanding in each packet number space, and how an ACK frame sorts it (`QUICLossRecovery`
in `QUICCoreState.swift`). The ranges of a frame come from the largest down and the outstanding
numbers are walked from the smallest up, with one cursor over the ranges that never goes back. What
it classifies is what a test of every number against every range would.
-/

namespace WebTransport

open RangeList

/-! ## The model -/

/-- Whether losing a frame obliges the sender to send its content again. -/
def QUICFrame.isRetransmittable : QUICFrame → Bool
  | .padding | .ping | .ack .. | .connectionClose .. | .datagram _ => false
  | _ => true

/-- A packet that was sent (`QUICSentPacket`). -/
structure QUICSentPacket where
  packetNumberSpace : QUICPacketNumberSpace
  packetNumber : ℕ
  sentTimeMicros : ℕ
  bytes : ℕ
  frames : List QUICFrame
  ackEliciting : Bool := true
deriving DecidableEq, Repr

/-- What an ACK frame told (`QUICAckProcessingResult`). -/
structure QUICAckProcessingResult where
  acknowledged : List QUICSentPacket
  lost : List QUICSentPacket
  retransmittableFrames : List QUICFrame
deriving DecidableEq, Repr

/-- What is outstanding, with two counters of what the last frame cost (`QUICLossRecovery`). -/
structure QUICLossRecovery where
  packetThreshold : ℕ := 3
  sentPackets : QUICPacketNumberSpace → Option (Dictionary ℕ QUICSentPacket) := fun _ => none
  acknowledgementOrderingSteps : ℕ := 0
  acknowledgementRangeProbes : ℕ := 0

/-- Take a packet out and append it to a list, if it is still there. -/
def moveSentPacket (s : Dictionary ℕ QUICSentPacket × List QUICSentPacket) (packetNumber : ℕ) :
    Dictionary ℕ QUICSentPacket × List QUICSentPacket :=
  match s.1.get? packetNumber with
  | some packet => (s.1.erase packetNumber, s.2 ++ [packet])
  | none => s

/-- Move the cursor past the ranges below a number: how many ranges are not passed, and how many
were compared on the way. -/
def passRanges (ranges : List ClosedRange) (packetNumber : ℕ) : ℕ → ℕ × ℕ
  | 0 => (0, 0)
  | cursor + 1 =>
    if (ranges.getD cursor default).largest < packetNumber then
      let passed := passRanges ranges packetNumber cursor
      (passed.1, passed.2 + 1)
    else (cursor + 1, 0)

/-- The first pass: take out what is acknowledged, counting the comparisons. -/
def acknowledgeWalk (ranges : List ClosedRange) : List ℕ → ℕ →
    Dictionary ℕ QUICSentPacket × List QUICSentPacket → ℕ →
    (Dictionary ℕ QUICSentPacket × List QUICSentPacket) × ℕ
  | [], _, s, probes => (s, probes)
  | packetNumber :: rest, cursor, s, probes =>
    let passed := passRanges ranges packetNumber cursor
    if passed.1 = 0 then (s, probes + passed.2)
    else
      let probes := probes + passed.2 + 1
      if packetNumber < (ranges.getD (passed.1 - 1) default).smallest then
        acknowledgeWalk ranges rest passed.1 s probes
      else acknowledgeWalk ranges rest passed.1 (moveSentPacket s packetNumber) probes

namespace QUICLossRecovery

/-- The outstanding packets of a space. -/
def outstanding (r : QUICLossRecovery) (space : QUICPacketNumberSpace) :
    Dictionary ℕ QUICSentPacket :=
  (r.sentPackets space).getD ∅

def recordSent (r : QUICLossRecovery) (packet : QUICSentPacket) : QUICLossRecovery :=
  { r with
    sentPackets := Function.update r.sentPackets packet.packetNumberSpace
      (some ((r.outstanding packet.packetNumberSpace).insert packet.packetNumber packet)) }

def isPacketThresholdLost (r : QUICLossRecovery) (packetNumber largestAcknowledged : ℕ) : Bool :=
  if packetNumber ≤ largestAcknowledged then
    largestAcknowledged - packetNumber ≥ r.packetThreshold
  else false

/-- Sort what is outstanding in a space by an ACK frame; `none` inside for a frame that is
refused. -/
def processAck (r : QUICLossRecovery) (ackFrame : QUICFrame) (space : QUICPacketNumberSpace) :
    Option (QUICLossRecovery × Option QUICAckProcessingResult) :=
  let r := { r with acknowledgementOrderingSteps := 0, acknowledgementRangeProbes := 0 }
  (QUICAckTracker.acknowledgedPacketNumberRanges ackFrame).map fun
    | none => (r, none)
    | some [] => (r, none)
    | some (first :: more) =>
      let packets := r.outstanding space
      let ordered := packets.keys
      let walk := acknowledgeWalk (first :: more) ordered (first :: more).length (packets, []) 0
      let lost := (ordered.filter (r.isPacketThresholdLost · first.largest)).foldl moveSentPacket
        (walk.1.1, [])
      ({ r with
          sentPackets := Function.update r.sentPackets space (some lost.1)
          acknowledgementOrderingSteps := ordered.length
          acknowledgementRangeProbes := walk.2 },
        some ⟨walk.1.2, lost.2, lost.2.flatMap fun packet =>
          packet.frames.filter QUICFrame.isRetransmittable⟩)

end QUICLossRecovery

/-! ## The ranges of a frame -/

section Decoded

variable {rangeLow : ℕ} {extra : List QUICAckRange}

/-- Decoding never traps, and the ranges it gives lie below one another. -/
lemma decodeAckRanges_separated (rangeLow : ℕ) (extra : List QUICAckRange) :
    ∃ decoded, QUICAckTracker.decodeAckRanges rangeLow extra = some decoded ∧
      ∀ ranges, decoded = some ranges →
        Separated ranges ∧ ∀ range ∈ ranges, range.largest + 1 < rangeLow := by
  induction extra generalizing rangeLow with
  | nil =>
    refine ⟨some [], rfl, fun ranges h => ?_⟩
    cases h
    exact ⟨separated_nil, fun range hmem => absurd hmem List.not_mem_nil⟩
  | cons range extra ih =>
    rw [QUICAckTracker.decodeAckRanges]
    split_ifs with hgap
    · exact ⟨none, rfl, fun _ h => by cases h⟩
    have hroom : range.gap + 2 < Checked.bound := by
      unfold Checked.bound
      unfold uint64Max at hgap
      omega
    rw [Checked.add_of_lt hroom]
    simp only [Option.bind_eq_bind, Option.bind_some]
    split_ifs with hbelow
    · exact ⟨none, rfl, fun _ h => by cases h⟩
    rw [Checked.sub_of_le (by omega)]
    simp only [Option.bind_some]
    split_ifs with hlength
    · exact ⟨none, rfl, fun _ h => by cases h⟩
    rw [Checked.sub_of_le (by omega)]
    simp only [Option.bind_some]
    obtain ⟨decoded, hdecoded, hranges⟩ := ih (rangeLow - (range.gap + 2) - range.length)
    rw [hdecoded]
    refine ⟨_, rfl, fun ranges h => ?_⟩
    obtain ⟨more, rfl, rfl⟩ := Option.map_eq_some_iff.mp h
    obtain ⟨hsep, hlow⟩ := hranges more rfl
    refine ⟨⟨?_, List.pairwise_cons.mpr ⟨hlow, hsep.apart⟩⟩, ?_⟩
    · exact List.forall_mem_cons.mpr ⟨Nat.sub_le _ _, hsep.nonempty⟩
    · refine List.forall_mem_cons.mpr ⟨?_, fun r hr => ?_⟩
      · change rangeLow - (range.gap + 2) + 1 < rangeLow
        omega
      · have := hlow r hr
        omega

/-- A frame decodes to ranges from its largest number down, or is refused. -/
lemma acknowledgedPacketNumberRanges_separated (frame : QUICFrame) :
    ∃ decoded, QUICAckTracker.acknowledgedPacketNumberRanges frame = some decoded ∧
      ∀ ranges, decoded = some ranges → Separated ranges ∧
        ∃ largest delay first extra range more, frame = .ack largest delay first extra ∧
          ranges = range :: more ∧ range.largest = largest := by
  cases frame with
  | ack largest delay first extra =>
    rw [QUICAckTracker.acknowledgedPacketNumberRanges]
    split_ifs with hfirst
    · exact ⟨none, rfl, fun _ h => by cases h⟩
    rw [Checked.sub_of_le (not_lt.mp hfirst)]
    simp only [Option.bind_eq_bind, Option.bind_some]
    obtain ⟨decoded, hdecoded, hranges⟩ := decodeAckRanges_separated (largest - first) extra
    rw [hdecoded]
    refine ⟨_, rfl, fun ranges h => ?_⟩
    obtain ⟨more, rfl, rfl⟩ := Option.map_eq_some_iff.mp h
    obtain ⟨hsep, hlow⟩ := hranges more rfl
    refine ⟨⟨List.forall_mem_cons.mpr ⟨Nat.sub_le _ _, hsep.nonempty⟩,
      List.pairwise_cons.mpr ⟨hlow, hsep.apart⟩⟩, ?_⟩
    exact ⟨largest, delay, first, extra, _, more, rfl, rfl, rfl⟩
  | _ => exact ⟨none, rfl, fun _ h => by cases h⟩

end Decoded

/-! ## The walk -/

section Walk

variable {ranges : List ClosedRange} {n : ℕ}

/-- The cursor stops at the first range, from the smallest up, that is not below the number. -/
lemma passRanges_spec (ranges : List ClosedRange) (n cursor : ℕ) :
    (passRanges ranges n cursor).1 ≤ cursor ∧
      (∀ i < cursor, (passRanges ranges n cursor).1 ≤ i →
        (ranges.getD i default).largest < n) ∧
      ∀ k, (passRanges ranges n cursor).1 = k + 1 → n ≤ (ranges.getD k default).largest := by
  induction cursor with
  | zero => exact ⟨le_rfl, fun i hi => absurd hi (Nat.not_lt_zero i), nofun⟩
  | succ cursor ih =>
    obtain ⟨hle, hpassed, hstop⟩ := ih
    rw [passRanges]
    split_ifs with hbelow
    · refine ⟨hle.trans (Nat.le_succ cursor), fun i hi hfrom => ?_, hstop⟩
      obtain hi | rfl := Nat.lt_succ_iff_lt_or_eq.mp hi
      · exact hpassed i hi hfrom
      · exact hbelow
    · refine ⟨le_rfl, fun i hi hfrom => absurd hi (not_lt.mpr hfrom), fun k hk => ?_⟩
      obtain rfl := Nat.succ.inj hk
      exact not_lt.mp hbelow

lemma mem_iff_getD : Mem ranges n ↔ ∃ i < ranges.length, (ranges.getD i default).Has n := by
  constructor
  · rintro ⟨range, hmem, hhas⟩
    obtain ⟨i, hi, rfl⟩ := List.mem_iff_getElem.mp hmem
    refine ⟨i, hi, ?_⟩
    rwa [List.getD_eq_getElem _ _ hi]
  · rintro ⟨i, hi, hhas⟩
    rw [List.getD_eq_getElem _ _ hi] at hhas
    exact ⟨_, List.getElem_mem hi, hhas⟩

/-- With every range passed there is none that has the number. -/
lemma not_mem_of_passed (h : ∀ i < ranges.length, (ranges.getD i default).largest < n) :
    ¬Mem ranges n := by
  rw [mem_iff_getD]
  rintro ⟨i, hi, -, hle⟩
  exact absurd (h i hi) (not_lt.mpr hle)

/-- Behind the ranges that are passed only the next can have the number. -/
lemma mem_iff_of_passed {k : ℕ} (hsep : Separated ranges) (hk : k < ranges.length)
    (hpassed : ∀ i < ranges.length, k < i → (ranges.getD i default).largest < n)
    (hstop : n ≤ (ranges.getD k default).largest) :
    Mem ranges n ↔ (ranges.getD k default).smallest ≤ n := by
  rw [mem_iff_getD]
  constructor
  · rintro ⟨i, hi, hlow, hhigh⟩
    obtain hik | rfl | hki := lt_trichotomy i k
    · have hapart := List.pairwise_iff_getElem.mp hsep.apart i k hi hk hik
      rw [List.getD_eq_getElem _ _ hi] at hlow
      rw [List.getD_eq_getElem _ _ hk] at hstop
      omega
    · exact hlow
    · exact absurd (hpassed i hi hki) (not_lt.mpr hhigh)
  · intro hlow
    exact ⟨k, hk, hlow, hstop⟩

/-- The walk takes what some range has, each number in its turn. -/
lemma acknowledgeWalk_eq (hsep : Separated ranges) {numbers : List ℕ} {cursor : ℕ}
    (hsorted : numbers.Pairwise (· < ·)) (hcursor : cursor ≤ ranges.length)
    (hpassed : ∀ i < ranges.length, cursor ≤ i → ∀ n ∈ numbers,
      (ranges.getD i default).largest < n)
    (s : Dictionary ℕ QUICSentPacket × List QUICSentPacket) (probes : ℕ) :
    (acknowledgeWalk ranges numbers cursor s probes).1 =
      (numbers.filter fun n => Mem ranges n).foldl moveSentPacket s := by
  induction numbers generalizing cursor s probes with
  | nil => rfl
  | cons n rest ih =>
    obtain ⟨hlt, hrest⟩ := List.pairwise_cons.mp hsorted
    obtain ⟨hle, hmoved, hstop⟩ := passRanges_spec ranges n cursor
    have hbelow : ∀ i < ranges.length, (passRanges ranges n cursor).1 ≤ i →
        (ranges.getD i default).largest < n := by
      intro i hi hfrom
      by_cases hbefore : i < cursor
      · exact hmoved i hbefore hfrom
      · exact hpassed i hi (not_lt.mp hbefore) n List.mem_cons_self
    have hlater : ∀ i < ranges.length, (passRanges ranges n cursor).1 ≤ i → ∀ m ∈ rest,
        (ranges.getD i default).largest < m := fun i hi hfrom m hm =>
      (hbelow i hi hfrom).trans (hlt m hm)
    rw [acknowledgeWalk]
    cases hcase : (passRanges ranges n cursor).1 with
    | zero =>
      rw [hcase] at hbelow hlater
      have hnone : (n :: rest).filter (fun n => Mem ranges n) = [] := by
        rw [List.filter_eq_nil_iff]
        intro m hm
        rw [decide_eq_true_iff]
        apply not_mem_of_passed
        obtain rfl | hm := List.mem_cons.mp hm
        · exact fun i hi => hbelow i hi (Nat.zero_le i)
        · exact fun i hi => hlater i hi (Nat.zero_le i) m hm
      rw [if_pos rfl, hnone]
      rfl
    | succ k =>
      rw [hcase] at hle hbelow hlater
      have hmem := mem_iff_of_passed hsep (by omega) hbelow (hstop k hcase)
      rw [if_neg (Nat.succ_ne_zero k), Nat.add_sub_cancel]
      dsimp only
      split_ifs with hlow
      · rw [ih hrest (by omega) hlater,
          List.filter_cons_of_neg (by rw [decide_eq_true_iff, hmem]; omega)]
      · rw [ih hrest (by omega) hlater,
          List.filter_cons_of_pos (by rw [decide_eq_true_iff, hmem]; omega), List.foldl_cons]

/-- What is taken is no longer there, and is appended in turn. -/
lemma foldl_moveSentPacket {numbers : List ℕ} (hnodup : numbers.Nodup)
    (s : Dictionary ℕ QUICSentPacket × List QUICSentPacket) :
    (∀ n, (numbers.foldl moveSentPacket s).1.get? n = if n ∈ numbers then none else s.1.get? n) ∧
      (numbers.foldl moveSentPacket s).2 = s.2 ++ numbers.filterMap s.1.get? := by
  induction numbers generalizing s with
  | nil => exact ⟨fun n => (if_neg List.not_mem_nil).symm, (List.append_nil s.2).symm⟩
  | cons m rest ih =>
    obtain ⟨hnew, hrest⟩ := List.nodup_cons.mp hnodup
    obtain ⟨hget, hlist⟩ := ih hrest (moveSentPacket s m)
    have hstep : (∀ n, (moveSentPacket s m).1.get? n = if n = m then none else s.1.get? n) ∧
        (moveSentPacket s m).2 = s.2 ++ (s.1.get? m).toList := by
      unfold moveSentPacket
      cases hfound : s.1.get? m with
      | none =>
        refine ⟨fun n => ?_, (List.append_nil s.2).symm⟩
        split_ifs with hn
        · rw [hn, hfound]
        · rfl
      | some packet => exact ⟨fun n => Dictionary.get?_erase, rfl⟩
    rw [List.foldl_cons]
    constructor
    · intro n
      rw [hget, hstep.1]
      by_cases hn : n = m
      · simp [hn]
      · simp [hn]
    · have hsame : rest.filterMap (moveSentPacket s m).1.get? = rest.filterMap s.1.get? := by
        apply List.filterMap_congr
        intro n hn
        rw [hstep.1, if_neg (by rintro rfl; exact hnew hn)]
      rw [hlist, hsame, hstep.2, List.append_assoc, List.filterMap_cons]
      cases s.1.get? m with
      | none => rfl
      | some packet => rfl

end Walk

/-! ## One frame -/

section Frame

variable {r : QUICLossRecovery} {space : QUICPacketNumberSpace} {frame : QUICFrame}

/-- Whether a number that no range has lies far enough below the largest one. -/
def Overtaken (r : QUICLossRecovery) (ranges : List ClosedRange) (largest n : ℕ) : Prop :=
  ¬Mem ranges n ∧ n + r.packetThreshold ≤ largest

instance (r : QUICLossRecovery) (ranges : List ClosedRange) (largest n : ℕ) :
    Decidable (Overtaken r ranges largest n) :=
  inferInstanceAs (Decidable (_ ∧ _))

/-- What the code says of a number and the largest. -/
lemma isPacketThresholdLost_iff {n largest : ℕ} :
    r.isPacketThresholdLost n largest = true ↔ n + r.packetThreshold ≤ largest := by
  unfold QUICLossRecovery.isPacketThresholdLost
  split_ifs with hle
  · rw [decide_eq_true_iff]
    omega
  · constructor
    · nofun
    · intro h
      omega

/-- What a frame with these ranges makes of what was outstanding in a space. -/
structure Classified (r : QUICLossRecovery) (space : QUICPacketNumberSpace)
    (ranges : List ClosedRange) (largest : ℕ) (r' : QUICLossRecovery)
    (result : QUICAckProcessingResult) : Prop where
  acknowledged : result.acknowledged =
    ((r.outstanding space).entries.filter fun e => Mem ranges e.1).map Prod.snd
  lost : result.lost =
    ((r.outstanding space).entries.filter fun e => Overtaken r ranges largest e.1).map Prod.snd
  kept : ∀ n, (r'.outstanding space).get? n =
    if Mem ranges n ∨ Overtaken r ranges largest n then none else (r.outstanding space).get? n
  others : ∀ other ≠ space, r'.sentPackets other = r.sentPackets other
  threshold : r'.packetThreshold = r.packetThreshold

/-- The numbers that pass a test, looked up where some others are gone. -/
lemma filterMap_keys {d : Dictionary ℕ QUICSentPacket} {find : ℕ → Option QUICSentPacket}
    {test gone : ℕ → Prop} [DecidablePred test] [DecidablePred gone]
    (h : ∀ n ∈ d.keys, find n = if gone n then none else d.get? n) :
    (d.keys.filter fun n => test n).filterMap find =
      (d.entries.filter fun e => ¬gone e.1 ∧ test e.1).map Prod.snd := by
  have hkeys : d.keys.filter (fun n => test n) =
      (d.entries.filter fun e => test e.1).map Prod.fst := by
    rw [Dictionary.keys, List.filter_map]
    rfl
  have hentries : ∀ e ∈ d.entries.filter fun e => test e.1,
      find e.1 = if gone e.1 then none else some e.2 := by
    intro e he
    have hmem := List.mem_of_mem_filter he
    rw [h e.1 (List.mem_map_of_mem hmem), Dictionary.mem_entries.mp hmem]
  rw [hkeys, Dictionary.filterMap_entries hentries, List.filter_filter]
  congr 2
  funext e
  simp

/-- A frame that decodes classifies what is outstanding. -/
lemma processAck_decoded {largest delay first : ℕ} {extra : List QUICAckRange}
    {ranges : List ClosedRange}
    (h : QUICAckTracker.acknowledgedPacketNumberRanges (.ack largest delay first extra) =
      some (some ranges)) :
    ∃ r' result, r.processAck (.ack largest delay first extra) space = some (r', some result) ∧
      Classified r space ranges largest r' result := by
  obtain ⟨decoded, hdecoded, hranges⟩ :=
    acknowledgedPacketNumberRanges_separated (.ack largest delay first extra)
  cases hdecoded.symm.trans h
  obtain ⟨hsep, _, _, _, _, range, more, hframe, rfl, hlargest⟩ := hranges ranges rfl
  cases hframe
  subst hlargest
  have hkeys := (r.outstanding space).keys_nodup
  have hwalk := acknowledgeWalk_eq hsep (r.outstanding space).keys_sorted le_rfl
    (fun i hi hfrom => absurd hi (not_lt.mpr hfrom)) (r.outstanding space, []) 0
  obtain ⟨hleft, hacknowledged⟩ := foldl_moveSentPacket
    (hkeys.filter fun n => Mem (range :: more) n) (r.outstanding space, [])
  rw [← hwalk] at hleft hacknowledged
  have htest : (fun n => r.isPacketThresholdLost n range.largest) =
      fun n => decide (n + r.packetThreshold ≤ range.largest) := by
    funext n
    rw [Bool.eq_iff_iff, isPacketThresholdLost_iff, decide_eq_true_iff]
  generalize hafter : (acknowledgeWalk (range :: more) (r.outstanding space).keys
    (range :: more).length (r.outstanding space, []) 0) = walk at hleft hacknowledged
  obtain ⟨hkept, hlost⟩ := foldl_moveSentPacket
    (hkeys.filter fun n => n + r.packetThreshold ≤ range.largest) (walk.1.1, [])
  have hgone : ∀ n ∈ (r.outstanding space).keys, walk.1.1.get? n =
      if Mem (range :: more) n then none else (r.outstanding space).get? n := by
    intro n hn
    rw [hleft]
    simp [hn]
  have hall : ∀ n ∈ (r.outstanding space).keys, (r.outstanding space).get? n =
      if False then none else (r.outstanding space).get? n := fun n _ => (if_neg id).symm
  unfold QUICLossRecovery.processAck
  rw [h]
  refine ⟨_, _, rfl, ?_, ?_, ?_, ?_, rfl⟩
  · change (acknowledgeWalk (range :: more) (r.outstanding space).keys (range :: more).length
      (r.outstanding space, []) 0).1.2 = _
    rw [hafter, hacknowledged, List.nil_append, filterMap_keys hall]
    simp
  · change (((r.outstanding space).keys.filter
      fun n => r.isPacketThresholdLost n range.largest).foldl moveSentPacket
        ((acknowledgeWalk (range :: more) (r.outstanding space).keys (range :: more).length
          (r.outstanding space, []) 0).1.1, [])).2 = _
    rw [htest, hafter, hlost, List.nil_append, filterMap_keys hgone]
    rfl
  · intro n
    change ((Function.update r.sentPackets space (some (((r.outstanding space).keys.filter
      fun n => r.isPacketThresholdLost n range.largest).foldl moveSentPacket
        ((acknowledgeWalk (range :: more) (r.outstanding space).keys (range :: more).length
          (r.outstanding space, []) 0).1.1, [])).1) space).getD ∅).get? n = _
    rw [Function.update_self, Option.getD_some, htest, hafter, hkept, hleft]
    by_cases hn : n ∈ (r.outstanding space).keys
    · unfold Overtaken
      by_cases hmem : Mem (range :: more) n
      · simp [hn, hmem]
      · simp [hn, hmem]
    · rw [Dictionary.notMem_keys.mp hn]
      simp
  · intro other hother
    exact Function.update_of_ne hother _ _

/-- A frame that is refused leaves everything outstanding. -/
lemma processAck_refused
    (h : QUICAckTracker.acknowledgedPacketNumberRanges frame = some none) :
    r.processAck frame space = some ({ r with
      acknowledgementOrderingSteps := 0, acknowledgementRangeProbes := 0 }, none) := by
  rw [QUICLossRecovery.processAck, h]
  rfl

end Frame

/-! ## Runs -/

/-- What happens to the outstanding packets. -/
inductive LossEvent
  | recordSent (packet : QUICSentPacket)
  | processAck (ackFrame : QUICFrame) (space : QUICPacketNumberSpace)

/-- What names a packet: its number in its space. -/
def QUICSentPacket.name (packet : QUICSentPacket) : QUICPacketNumberSpace × ℕ :=
  (packet.packetNumberSpace, packet.packetNumber)

/-- The packets that an answer reports. -/
def reportedBy : Option QUICAckProcessingResult → List QUICSentPacket
  | some result => result.acknowledged ++ result.lost
  | none => []

/-- The packets that some events record. -/
def recordedBy : List LossEvent → List QUICSentPacket
  | [] => []
  | .recordSent packet :: events => packet :: recordedBy events
  | .processAck _ _ :: events => recordedBy events

/-- The state after some events, with every packet reported on the way. -/
def QUICLossRecovery.after (r : QUICLossRecovery) :
    List LossEvent → Option (QUICLossRecovery × List QUICSentPacket)
  | [] => some (r, [])
  | .recordSent packet :: events => (r.recordSent packet).after events
  | .processAck ackFrame space :: events => do
    let answer ← r.processAck ackFrame space
    let rest ← answer.1.after events
    some (rest.1, reportedBy answer.2 ++ rest.2)

/-- Every packet that is outstanding stands under its own name and was recorded, and none of them
was reported. -/
structure Tracks (r : QUICLossRecovery) (recorded reported : List (QUICPacketNumberSpace × ℕ)) :
    Prop where
  own : ∀ space n packet, (r.outstanding space).get? n = some packet → packet.name = (space, n)
  known : ∀ space n packet, (r.outstanding space).get? n = some packet → (space, n) ∈ recorded
  past : ∀ name ∈ reported, name ∈ recorded
  apart : ∀ name ∈ reported, (r.outstanding name.1).get? name.2 = none
  once : reported.Nodup

section Run

variable {r : QUICLossRecovery} {recorded reported : List (QUICPacketNumberSpace × ℕ)}

lemma outstanding_recordSent {packet : QUICSentPacket} {space : QUICPacketNumberSpace} {n : ℕ} :
    ((r.recordSent packet).outstanding space).get? n =
      if (space, n) = packet.name then some packet else (r.outstanding space).get? n := by
  unfold QUICLossRecovery.recordSent QUICLossRecovery.outstanding
  by_cases hspace : space = packet.packetNumberSpace
  · subst hspace
    simp only [Function.update_self, Option.getD_some, Dictionary.get?_insert,
      QUICSentPacket.name, Prod.mk.injEq, true_and]
  · dsimp only
    rw [Function.update_of_ne hspace, if_neg (fun h => hspace (congrArg Prod.fst h))]

lemma Tracks.recordSent (h : Tracks r recorded reported) {packet : QUICSentPacket}
    (hnew : packet.name ∉ recorded) :
    Tracks (r.recordSent packet) (recorded ++ [packet.name]) reported := by
  constructor
  · intro space n found hfound
    rw [outstanding_recordSent] at hfound
    split_ifs at hfound with hname
    · cases hfound
      exact hname.symm
    · exact h.own space n found hfound
  · intro space n found hfound
    rw [outstanding_recordSent] at hfound
    split_ifs at hfound with hname
    · rw [hname]
      simp
    · exact List.mem_append_left _ (h.known space n found hfound)
  · exact fun name hmem => List.mem_append_left _ (h.past name hmem)
  · intro name hmem
    rw [outstanding_recordSent, if_neg]
    · exact h.apart name hmem
    · intro hname
      have hsame : name = packet.name := hname
      exact hnew (hsame ▸ h.past name hmem)
  · exact h.once

/-- The names of some of what is outstanding. -/
lemma names_of_entries (h : Tracks r recorded reported) {space : QUICPacketNumberSpace}
    {entries : List (ℕ × QUICSentPacket)} (hsub : entries ⊆ (r.outstanding space).entries) :
    (entries.map Prod.snd).map QUICSentPacket.name =
      (entries.map Prod.fst).map fun n => (space, n) := by
  rw [List.map_map, List.map_map]
  apply List.map_congr_left
  intro e he
  exact h.own space e.1 e.2 (Dictionary.mem_entries.mp (hsub he))

/-- What a frame reports was outstanding, and is no longer. -/
lemma Tracks.classified (h : Tracks r recorded reported) {space : QUICPacketNumberSpace}
    {ranges : List ClosedRange} {largest : ℕ} {r' : QUICLossRecovery}
    {result : QUICAckProcessingResult} (hc : Classified r space ranges largest r' result) :
    Tracks r' recorded
      (reported ++ (result.acknowledged ++ result.lost).map QUICSentPacket.name) := by
  have hkept : ∀ other n packet, (r'.outstanding other).get? n = some packet →
      (r.outstanding other).get? n = some packet := by
    intro other n packet hfound
    by_cases hother : other = space
    · subst hother
      rw [hc.kept] at hfound
      split_ifs at hfound
      exact hfound
    · rwa [QUICLossRecovery.outstanding, hc.others other hother] at hfound
  have hnames : (result.acknowledged ++ result.lost).map QUICSentPacket.name =
      (((r.outstanding space).entries.filter (fun e => Mem ranges e.1) ++
        (r.outstanding space).entries.filter fun e => Overtaken r ranges largest e.1).map
          Prod.fst).map fun n => (space, n) := by
    rw [hc.acknowledged, hc.lost, ← List.map_append]
    exact names_of_entries h (List.append_subset.mpr
      ⟨List.filter_sublist.subset, List.filter_sublist.subset⟩)
  -- A number that is reported was outstanding, and a range has it or overtakes it.
  have hnew : ∀ name ∈ (result.acknowledged ++ result.lost).map QUICSentPacket.name,
      ∃ n packet, name = (space, n) ∧ (r.outstanding space).get? n = some packet ∧
        (Mem ranges n ∨ Overtaken r ranges largest n) := by
    rw [hnames]
    intro name hmem
    obtain ⟨n, hn, rfl⟩ := List.mem_map.mp hmem
    obtain ⟨e, he, rfl⟩ := List.mem_map.mp hn
    obtain he | he := List.mem_append.mp he
    · obtain ⟨hentry, htest⟩ := List.mem_filter.mp he
      exact ⟨e.1, e.2, rfl, Dictionary.mem_entries.mp hentry, .inl (of_decide_eq_true htest)⟩
    · obtain ⟨hentry, htest⟩ := List.mem_filter.mp he
      exact ⟨e.1, e.2, rfl, Dictionary.mem_entries.mp hentry, .inr (of_decide_eq_true htest)⟩
  have hkeys : ∀ test : ℕ → Bool,
      (((r.outstanding space).entries.filter fun e => test e.1).map Prod.fst).Nodup :=
    fun test => (r.outstanding space).keys_nodup.sublist (List.filter_sublist.map Prod.fst)
  have honce : ((result.acknowledged ++ result.lost).map QUICSentPacket.name).Nodup := by
    rw [hnames, List.map_append]
    refine List.Nodup.map (fun _ _ heq => congrArg Prod.snd heq)
      (List.nodup_append.mpr ⟨hkeys fun n => Mem ranges n,
        hkeys fun n => Overtaken r ranges largest n, ?_⟩)
    rintro n hn _ hn' rfl
    obtain ⟨e, he, rfl⟩ := List.mem_map.mp hn
    obtain ⟨e', he', heq⟩ := List.mem_map.mp hn'
    have hmem : Mem ranges e.1 := of_decide_eq_true (List.mem_filter.mp he).2
    have hover : Overtaken r ranges largest e'.1 := of_decide_eq_true (List.mem_filter.mp he').2
    rw [heq] at hover
    exact hover.1 hmem
  constructor
  · exact fun other n packet hfound => h.own other n packet (hkept other n packet hfound)
  · exact fun other n packet hfound => h.known other n packet (hkept other n packet hfound)
  · intro name hmem
    obtain hmem | hmem := List.mem_append.mp hmem
    · exact h.past name hmem
    · obtain ⟨n, packet, rfl, hfound, -⟩ := hnew name hmem
      exact h.known space n packet hfound
  · intro name hmem
    obtain hmem | hmem := List.mem_append.mp hmem
    · cases hfound : (r'.outstanding name.1).get? name.2 with
      | none => rfl
      | some packet =>
        have hbefore := hkept _ _ _ hfound
        rw [h.apart name hmem] at hbefore
        cases hbefore
    · obtain ⟨n, packet, rfl, -, hgone⟩ := hnew name hmem
      exact (hc.kept n).trans (if_pos hgone)
  · refine List.nodup_append.mpr ⟨h.once, honce, ?_⟩
    rintro name hmem _ hmem' rfl
    obtain ⟨n, packet, rfl, hfound, -⟩ := hnew name hmem'
    rw [h.apart _ hmem] at hfound
    cases hfound

lemma Tracks.processAck (h : Tracks r recorded reported) (frame : QUICFrame)
    (space : QUICPacketNumberSpace) :
    ∃ r' result, r.processAck frame space = some (r', result) ∧
      Tracks r' recorded (reported ++ (reportedBy result).map QUICSentPacket.name) := by
  obtain ⟨decoded, hdecoded, hranges⟩ := acknowledgedPacketNumberRanges_separated frame
  cases decoded with
  | none =>
    refine ⟨_, none, processAck_refused hdecoded, ?_⟩
    rw [reportedBy, List.map_nil, List.append_nil]
    exact ⟨h.own, h.known, h.past, h.apart, h.once⟩
  | some ranges =>
    obtain ⟨-, largest, delay, first, extra, -, -, rfl, -⟩ := hranges ranges rfl
    obtain ⟨r', result, hr', hc⟩ := @processAck_decoded r space _ _ _ _ _ hdecoded
    exact ⟨r', some result, hr', h.classified hc⟩

/-- A run that records each name once reports none twice. -/
lemma Tracks.after {events : List LossEvent} (h : Tracks r recorded reported)
    (hnames : (recorded ++ (recordedBy events).map QUICSentPacket.name).Nodup) :
    ∃ r' more, r.after events = some (r', more) ∧
      (reported ++ more.map QUICSentPacket.name).Nodup := by
  induction events generalizing r recorded reported with
  | nil => exact ⟨r, [], rfl, by rw [List.map_nil, List.append_nil]; exact h.once⟩
  | cons event events ih =>
    cases event with
    | recordSent packet =>
      rw [recordedBy, List.map_cons] at hnames
      have hnew : packet.name ∉ recorded := fun hmem =>
        (List.nodup_append.mp hnames).2.2 _ hmem _ List.mem_cons_self rfl
      apply ih (h.recordSent hnew)
      rwa [List.append_assoc, List.singleton_append]
    | processAck frame space =>
      obtain ⟨r₁, result, hstep, htracks⟩ := h.processAck frame space
      obtain ⟨r', more, hrun, honce⟩ := ih htracks hnames
      refine ⟨r', reportedBy result ++ more, ?_, ?_⟩
      · rw [QUICLossRecovery.after, hstep]
        simp only [Option.bind_eq_bind, Option.bind_some]
        rw [hrun]
        rfl
      · rwa [List.map_append, ← List.append_assoc]

end Run

/-! ## The classification -/

/-- A frame that decodes reports as acknowledged what some range has, as lost what else lies far
enough below its largest number, both in ascending order, and keeps the rest and every other space.
A frame that does not decode changes nothing but the counters of the cost, which begin again. No
packet that is recorded once is reported twice. -/
theorem processAck_classifies :
    (∀ (r : QUICLossRecovery) (space : QUICPacketNumberSpace) (frame : QUICFrame),
      (∃ largest delay first extra ranges r' result, frame = .ack largest delay first extra ∧
        QUICAckTracker.acknowledgedPacketNumberRanges frame = some (some ranges) ∧
        r.processAck frame space = some (r', some result) ∧
        Classified r space ranges largest r' result) ∨
      (QUICAckTracker.acknowledgedPacketNumberRanges frame = some none ∧
        r.processAck frame space = some ({ r with
          acknowledgementOrderingSteps := 0, acknowledgementRangeProbes := 0 }, none))) ∧
    ∀ (threshold : ℕ) (events : List LossEvent),
      ((recordedBy events).map QUICSentPacket.name).Nodup →
      ∃ r' reported, ({ packetThreshold := threshold } : QUICLossRecovery).after events =
          some (r', reported) ∧ (reported.map QUICSentPacket.name).Nodup := by
  constructor
  · intro r space frame
    obtain ⟨decoded, hdecoded, hranges⟩ := acknowledgedPacketNumberRanges_separated frame
    cases decoded with
    | none => exact .inr ⟨hdecoded, processAck_refused hdecoded⟩
    | some ranges =>
      obtain ⟨-, largest, delay, first, extra, -, -, rfl, -⟩ := hranges ranges rfl
      obtain ⟨r', result, hstep, hc⟩ := @processAck_decoded r space _ _ _ _ _ hdecoded
      exact .inl ⟨largest, delay, first, extra, ranges, r', result, rfl, hdecoded, hstep, hc⟩
  · intro threshold events hnames
    have hempty : Tracks { packetThreshold := threshold } [] [] :=
      ⟨nofun, nofun, nofun, nofun, List.nodup_nil⟩
    exact hempty.after hnames

/-- Three packets are recorded, and two frames that overlap acknowledge the second of them. -/
theorem processAck_classifies_three :
    ∃ r' reported, ({ packetThreshold := 3 } : QUICLossRecovery).after
        [.recordSent ⟨.initial, 1, 0, 9, [], true⟩, .recordSent ⟨.initial, 4, 0, 9, [], true⟩,
          .recordSent ⟨.handshake, 4, 0, 9, [], true⟩, .processAck (.ack 4 0 1 []) .initial,
          .processAck (.ack 4 0 3 []) .initial] = some (r', reported) ∧
      (reported.map QUICSentPacket.name).Nodup :=
  processAck_classifies.2 3 _ (by decide)

/-- After a frame that is refused the counters are not what they were. -/
theorem processAck_clears_counters : ¬∀ (r : QUICLossRecovery) (space : QUICPacketNumberSpace)
    (frame : QUICFrame), QUICAckTracker.acknowledgedPacketNumberRanges frame = some none →
    r.processAck frame space = some (r, none) := by
  intro h
  have hsame := h { acknowledgementOrderingSteps := 1 } .initial .ping rfl
  rw [processAck_refused rfl] at hsame
  have hsteps := congrArg (Option.map fun answer => answer.1.acknowledgementOrderingSteps) hsame
  cases hsteps

end WebTransport
