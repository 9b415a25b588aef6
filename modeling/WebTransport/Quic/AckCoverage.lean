import WebTransport.Quic.PnSpace

/-!
# What an acknowledgement covers

The two walks over a received ACK frame (`validate_ack` and `ack_covers` of
`quic/connection_loss.c`), and the question they answer together with the builder: whether
an ACK frame that one endpoint builds means the same set of packets to the other.

The builder writes the length of an additional range as the difference of its ends, while
both walks read it as a number of packets. The two agree exactly when there is no
additional range.
-/

namespace WebTransport

/-! ## The two walks -/

/-- Read the next range of the list. -/
def decodeAckRange (c : List UInt8) : Except Status (AckRange × List UInt8) := do
  let (gap, c) ← quicVarintDecode c
  let (length, c) ← quicVarintDecode c
  .ok (⟨gap, length⟩, c)

/-- The loop of `validate_ack`: `n` ranges are left below `smallest`. -/
def validateAckRanges : ℕ → List UInt8 → ℕ → Status
  | 0, _, _ => .ok
  | n + 1, c, smallest =>
    match decodeAckRange c with
    | .error _ => .protocol
    | .ok (range, c) =>
      if range.length = 0 then .protocol
      else if smallest < u64Add range.gap 2 then .protocol
      else
        let largest := u64Sub (u64Sub smallest range.gap) 2
        if largest < range.length - 1 then .protocol
        else
          let smallest := largest - (range.length - 1)
          if smallest = 0 then .ok else validateAckRanges n c smallest

/-- Whether the ranges of an ACK frame are a descending chain of packet numbers. -/
def validateAck (f : AckFrame) : Status :=
  if f.largest < f.firstRange then .protocol
  else validateAckRanges f.rangeCount f.ranges (f.largest - f.firstRange)

/-- The loop of `ack_covers`: `n` ranges are left below `smallest`. -/
def ackCoversRanges (packetNumber : ℕ) : ℕ → List UInt8 → ℕ → Bool
  | 0, _, _ => false
  | n + 1, c, smallest =>
    match decodeAckRange c with
    | .error _ => false
    | .ok (range, c) =>
      let largest := u64Sub (u64Sub smallest range.gap) 2
      let smallest := u64Sub largest (u64Sub range.length 1)
      if largest < packetNumber then false
      else if smallest ≤ packetNumber then true
      else if smallest = 0 then false
      else ackCoversRanges packetNumber n c smallest

/-- Whether an ACK frame acknowledges a packet number. -/
def ackCovers (f : AckFrame) (packetNumber : ℕ) : Bool :=
  let smallest := u64Sub f.largest f.firstRange
  if f.largest < packetNumber then false
  else if smallest ≤ packetNumber then true
  else ackCoversRanges packetNumber f.rangeCount f.ranges smallest

/-- An accepted frame that covers exactly the packets of a received set. -/
def AckMeansReceived (f : AckFrame) (s : AckState) : Prop :=
  validateAck f = .ok ∧ ∀ n ≤ f.largest, (ackCovers f n = true ↔ quicAckContains s n = true)

/-! ## The wire form of the additional ranges -/

/-- The additional ranges as the builder computes them. -/
def ackWireRanges : ℕ → List ClosedRange → List AckRange
  | _, [] => []
  | previousSmallest, r :: rs =>
    ⟨u64Sub (u64Sub previousSmallest r.largest) 2, u64Sub r.largest r.smallest⟩ ::
      ackWireRanges r.smallest rs

/-- A list of ranges as the integers that are written for it. -/
def ackRangeValues (rs : List AckRange) : List ℕ := rs.flatMap fun r => [r.gap, r.length]

@[simp] theorem ackRangeValues_nil : ackRangeValues [] = [] := rfl

@[simp] theorem ackRangeValues_cons (r : AckRange) (rs : List AckRange) :
    ackRangeValues (r :: rs) = r.gap :: r.length :: ackRangeValues rs := rfl

@[simp] theorem length_ackWireRanges (p : ℕ) (rs : List ClosedRange) :
    (ackWireRanges p rs).length = rs.length := by
  induction rs generalizing p with
  | nil => rfl
  | cons r rs ih => simp [ackWireRanges, ih]

/-- The builder's loop writes the additional ranges. -/
lemma ackBuildRanges_eq (p : ℕ) (rs : List ClosedRange) (w : Writer) :
    ackBuildRanges p rs w = quicWriterVarints w (ackRangeValues (ackWireRanges p rs)) := by
  induction rs generalizing p w with
  | nil => rfl
  | cons r rs ih => simp [ackBuildRanges, ackWireRanges, ih]

lemma decodeAckRange_bytes {r : AckRange} (hgap : r.gap ≤ quicVarintMax)
    (hlen : r.length ≤ quicVarintMax) (rest : List UInt8) :
    decodeAckRange (quicVarintBytes r.gap ++ (quicVarintBytes r.length ++ rest)) =
      .ok (r, rest) := by
  rw [decodeAckRange, quicVarintDecode_bytes hgap]
  simp only [Except.bind, bind]
  rw [quicVarintDecode_bytes hlen]

/-- The walk to an index finds the range written there. -/
lemma ackRangeWalk_bytes {rs : List AckRange} (h : ∀ v ∈ ackRangeValues rs, v ≤ quicVarintMax)
    {i : ℕ} {r : AckRange} (hi : rs[i]? = some r) :
    ackRangeWalk i (varintsBytes (ackRangeValues rs)) = .ok r := by
  induction rs generalizing i with
  | nil => simp at hi
  | cons x xs ih =>
    have hgap : x.gap ≤ quicVarintMax := h _ (by simp)
    have hlen : x.length ≤ quicVarintMax := h _ (by simp)
    cases i with
    | zero =>
      obtain rfl : x = r := by simpa using hi
      simp [ackRangeWalk, hgap, hlen, bind, Except.bind]
    | succ i =>
      have := ih (fun v hv => h v (by simp [hv])) (by simpa using hi)
      simp [ackRangeWalk, hgap, hlen, bind, Except.bind, this]

/-- The encoder's loop writes again the ranges that the frame's bytes hold. -/
lemma encodeAckRanges_eq {f : AckFrame} {rs : List AckRange}
    (h : ∀ v ∈ ackRangeValues rs, v ≤ quicVarintMax)
    (hranges : f.ranges = varintsBytes (ackRangeValues rs)) (hcount : f.rangeCount = rs.length)
    (n i : ℕ) (hn : i + n = rs.length) (w : Writer) :
    encodeAckRanges f n i w = .ok (quicWriterVarints w (ackRangeValues (rs.drop i))) := by
  induction n generalizing i w with
  | zero =>
    rw [List.drop_eq_nil_of_le (by omega)]
    rfl
  | succ n ih =>
    have hi : i < rs.length := by omega
    have hat : quicFrameAckRangeAt f i = .ok rs[i] := by
      rw [quicFrameAckRangeAt, if_neg (by omega), hranges,
        ackRangeWalk_bytes h (List.getElem?_eq_getElem hi)]
    rw [encodeAckRanges, hat, List.drop_eq_getElem_cons hi]
    simp only [ackRangeValues_cons, quicWriterVarints_cons]
    exact ih (i + 1) (by omega) _

/-- The decoder measures exactly the bytes of the ranges it counted. -/
lemma ackRangesConsumed_bytes {rs : List AckRange}
    (h : ∀ v ∈ ackRangeValues rs, v ≤ quicVarintMax) (rest : List UInt8) :
    ackRangesConsumed rs.length (varintsBytes (ackRangeValues rs) ++ rest) =
      .ok (varintsBytes (ackRangeValues rs)).length := by
  induction rs with
  | nil => rfl
  | cons x xs ih =>
    have hgap : x.gap ≤ quicVarintMax := h _ (by simp)
    have hlen : x.length ≤ quicVarintMax := h _ (by simp)
    have := ih fun v hv => h v (by simp [hv])
    simp only [List.length_cons, ackRangesConsumed, ackRangeValues_cons, varintsBytes_cons,
      List.append_assoc, quicReadVarint_bytes hgap, quicReadVarint_bytes hlen, bind, Except.bind,
      this, List.length_append]
    congr 1
    omega

/-! ## The frame that arrives -/

/-- A frame whose additional ranges are the wire form of `rs`, without ECN counts. -/
structure AckFrame.Carries (f : AckFrame) (rs : List AckRange) : Prop where
  ranges : f.ranges = varintsBytes (ackRangeValues rs)
  rangeCount : f.rangeCount = rs.length
  fits : ∀ v ∈ ackRangeValues rs, v ≤ quicVarintMax
  hasEcn : f.hasEcn = false
  ect0 : f.ect0 = 0
  ect1 : f.ect1 = 0
  ecnCe : f.ecnCe = 0

/-- The frame the builder fills describes the received ranges one by one. -/
lemma quicAckBuild_ok {s : AckState} {delay capacity : ℕ} {f : AckFrame}
    (h : quicAckBuild s delay capacity = .ok f) :
    ∃ first rest, s.ranges = first :: rest ∧ f.largest = first.largest ∧
      f.firstRange = u64Sub first.largest first.smallest ∧
      f.Carries (ackWireRanges first.smallest rest) := by
  unfold quicAckBuild at h
  split at h
  · rename_i first rest _ hranges
    simp only [ackBuildRanges_eq] at h
    split at h
    · rename_i hok
      obtain ⟨-, hle, hbytes⟩ := quicWriterVarints_ok hok
      obtain rfl := Except.ok.inj h
      refine ⟨first, rest, hranges, rfl, rfl, ?_, by simp, hle, rfl, rfl, rfl, rfl⟩
      simpa [writerInit] using hbytes
    · cases h
  · cases h

/-- An encoded ACK frame without ECN counts is read back as it was. -/
theorem quicFrameDecode_encode_ack {f : AckFrame} {rs : List AckRange} (hf : f.Carries rs)
    {w₀ w : Writer} (h : quicFrameEncode w₀ (.ack f) = .ok w) :
    ∃ b, w.bytes = w₀.bytes ++ b ∧
      ∀ rest, quicFrameDecode (b ++ rest) = .ok (.ack f, rest) := by
  have hencode : quicFrameEncode w₀ (.ack f) =
      if w₀.overflow then .error .limit
      else writerResult (quicWriterVarints w₀
        ([0x02, f.largest, f.delay, f.rangeCount, f.firstRange] ++ ackRangeValues rs)) := by
    simp only [quicFrameEncode, encodeAck, hf.hasEcn]
    rw [encodeAckRanges_eq hf.fits hf.ranges hf.rangeCount f.rangeCount 0
      (by rw [hf.rangeCount, zero_add])]
    rw [quicWriterVarints_append]
    rfl
  rw [hencode] at h
  split at h
  · cases h
  unfold writerResult at h
  split at h
  case isFalse => cases h
  case isTrue hok =>
    obtain rfl := Except.ok.inj h
    obtain ⟨-, hle, hbytes⟩ := quicWriterVarints_ok hok
    refine ⟨_, hbytes, ?_⟩
    intro rest
    have hlargest : f.largest ≤ quicVarintMax := hle _ (by simp)
    have hdelay : f.delay ≤ quicVarintMax := hle _ (by simp)
    have hcount : f.rangeCount ≤ quicVarintMax := hle _ (by simp)
    have hfirst : f.firstRange ≤ quicVarintMax := hle _ (by simp)
    have hconsumed := ackRangesConsumed_bytes hf.fits rest
    rw [← hf.rangeCount, ← hf.ranges] at hconsumed
    have hbody : decodeAck false (varintsBytes [f.largest, f.delay, f.rangeCount, f.firstRange] ++
        (f.ranges ++ rest)) = .ok (.ack f, rest) := by
      simp only [decodeAck, varintsBytes_cons, varintsBytes_nil, List.append_nil,
        List.append_assoc, quicReadVarint_bytes hlargest, quicReadVarint_bytes hdelay,
        quicReadVarint_bytes hcount, quicReadVarint_bytes hfirst, bind, Except.bind, hconsumed,
        List.take_left, List.drop_left, Bool.false_eq_true, if_false]
      obtain ⟨largest, delay, firstRange, ranges, rangeCount, hasEcn, ect0, ect1, ecnCe⟩ := f
      obtain ⟨-, -, -, rfl, rfl, rfl, rfl⟩ := hf
      rfl
    have htype := quicVarintDecodeSized_bytes (v := 0x02) (by decide)
      (varintsBytes [f.largest, f.delay, f.rangeCount, f.firstRange] ++ (f.ranges ++ rest))
    have hsplit : varintsBytes ([0x02, f.largest, f.delay, f.rangeCount, f.firstRange] ++
        ackRangeValues rs) ++ rest = quicVarintBytes 0x02 ++
        (varintsBytes [f.largest, f.delay, f.rangeCount, f.firstRange] ++ (f.ranges ++ rest)) := by
      rw [hf.ranges]
      simp
    rw [hsplit, quicFrameDecode, htype]
    exact hbody

/-! ## Where the builder and the walks agree -/

lemma ackMeansReceived_single {s : AckState} {f : AckFrame} {r : ClosedRange}
    (hs : s.Valid) (hranges : s.ranges = [r]) (hlargest : f.largest = r.largest)
    (hfirst : f.firstRange = u64Sub r.largest r.smallest) (hcount : f.rangeCount = 0) :
    AckMeansReceived f s := by
  have hne : r.smallest ≤ r.largest := hs.separated.nonempty r (by simp [hranges])
  have hmax : r.largest ≤ 2 ^ 62 - 1 := hs.bounded r (by simp [hranges])
  rw [u64Sub_of_le hne (by omega)] at hfirst
  refine ⟨?_, ?_⟩
  · rw [validateAck, if_neg (by omega), hcount]
    rfl
  · intro n hn
    have hsmall : u64Sub f.largest f.firstRange = r.smallest := by
      rw [u64Sub_of_le (by omega) (by omega)]
      omega
    rw [quicAckContains_iff, hranges]
    simp only [ackCovers, hsmall, hcount, ackCoversRanges, RangeList.Mem, List.mem_singleton,
      exists_eq_left, ClosedRange.Has]
    split_ifs <;> simp <;> omega

/-- The step both walks take from `start` over the gap that separates a range that ends at
`smallest` from one that begins at `largest`. -/
lemma ackStep_landing {start smallest largest : ℕ} (h : largest + 1 < smallest)
    (hstart : smallest ≤ start) (hlt : start < 2 ^ 64) :
    u64Sub (u64Sub start (u64Sub (u64Sub smallest largest) 2)) 2
      = start - (smallest - largest) := by
  have h1 : u64Sub smallest largest = smallest - largest := u64Sub_of_le (by omega) (by omega)
  have h2 : u64Sub (smallest - largest) 2 = smallest - largest - 2 :=
    u64Sub_of_le (by omega) (by omega)
  have h3 : u64Sub start (smallest - largest - 2) = start - (smallest - largest - 2) :=
    u64Sub_of_le (by omega) hlt
  rw [h1, h2, h3, u64Sub_of_le (by omega) (by omega)]
  omega

/-- A walk that stands one above the smallest number of a range leaves that range behind. -/
lemma ackCoversRanges_overshoot {r : ClosedRange} {rest : List ClosedRange}
    (hsep : RangeList.Separated (r :: rest)) (hmax : r.largest ≤ 2 ^ 62 - 1)
    (hfits : ∀ v ∈ ackRangeValues (ackWireRanges r.smallest rest), v ≤ quicVarintMax) :
    ackCoversRanges r.smallest rest.length
      (varintsBytes (ackRangeValues (ackWireRanges r.smallest rest))) (r.smallest + 1) = false := by
  have hne : r.smallest ≤ r.largest := hsep.nonempty r (by simp)
  cases rest with
  | nil => rfl
  | cons r₂ rest =>
    have hgap : r₂.largest + 1 < r.smallest :=
      RangeList.Separated.below (a := []) (by simpa using hsep) r₂ (by simp)
    have hread := decodeAckRange_bytes
      (r := ⟨u64Sub (u64Sub r.smallest r₂.largest) 2, u64Sub r₂.largest r₂.smallest⟩)
      (hfits _ (by simp [ackWireRanges])) (hfits _ (by simp [ackWireRanges]))
      (varintsBytes (ackRangeValues (ackWireRanges r₂.smallest rest)))
    have hland : u64Sub (u64Sub (r.smallest + 1) (u64Sub (u64Sub r.smallest r₂.largest) 2)) 2
        = r₂.largest + 1 := by
      rw [ackStep_landing hgap (by omega) (by omega)]
      omega
    simp only [List.length_cons, ackCoversRanges, ackWireRanges, ackRangeValues_cons,
      varintsBytes_cons, hread, hland, if_pos hgap]

/-- The smallest number of the second range is never covered: a length of zero is refused,
and any other length is read as one packet less. -/
lemma not_ackMeansReceived_second {s : AckState} {f : AckFrame} {r₀ r₁ : ClosedRange}
    {rest : List ClosedRange} (hs : s.Valid) (hranges : s.ranges = r₀ :: r₁ :: rest)
    (hlargest : f.largest = r₀.largest) (hfirst : f.firstRange = u64Sub r₀.largest r₀.smallest)
    (hf : f.Carries (ackWireRanges r₀.smallest (r₁ :: rest))) : ¬ AckMeansReceived f s := by
  have hsep : RangeList.Separated (r₀ :: r₁ :: rest) := hranges ▸ hs.separated
  have hne₀ : r₀.smallest ≤ r₀.largest := hsep.nonempty r₀ (by simp)
  have hne₁ : r₁.smallest ≤ r₁.largest := hsep.nonempty r₁ (by simp)
  have hmax₀ : r₀.largest ≤ 2 ^ 62 - 1 := hs.bounded r₀ (by simp [hranges])
  have hgap : r₁.largest + 1 < r₀.smallest :=
    RangeList.Separated.below (a := []) (by simpa using hsep) r₁ (by simp)
  have hsep₁ : RangeList.Separated (r₁ :: rest) := hsep.sublist (List.sublist_cons_self _ _)
  have hsmall : u64Sub f.largest f.firstRange = r₀.smallest := by
    rw [hlargest, hfirst, u64Sub_of_le hne₀ (by omega), u64Sub_of_le (by omega) (by omega)]
    omega
  have hlen : u64Sub r₁.largest r₁.smallest = r₁.largest - r₁.smallest :=
    u64Sub_of_le hne₁ (by omega)
  have hcount : f.rangeCount = rest.length + 1 := by simpa using hf.rangeCount
  have hfits := hf.fits
  have hread : decodeAckRange f.ranges =
      .ok (⟨u64Sub (u64Sub r₀.smallest r₁.largest) 2, u64Sub r₁.largest r₁.smallest⟩,
        varintsBytes (ackRangeValues (ackWireRanges r₁.smallest rest))) := by
    have hbytes := decodeAckRange_bytes
      (r := ⟨u64Sub (u64Sub r₀.smallest r₁.largest) 2, u64Sub r₁.largest r₁.smallest⟩)
      (hfits _ (by simp [ackWireRanges])) (hfits _ (by simp [ackWireRanges]))
      (varintsBytes (ackRangeValues (ackWireRanges r₁.smallest rest)))
    rw [hf.ranges]
    exact hbytes
  rintro ⟨hvalid, hcovers⟩
  by_cases hsingle : r₁.largest = r₁.smallest
  · -- A range of one packet is written with length zero, which the validator refuses.
    have hzero : u64Sub r₁.largest r₁.smallest = 0 := by rw [hlen]; omega
    unfold validateAck at hvalid
    rw [hcount] at hvalid
    simp only [validateAckRanges, hread, hzero, if_true] at hvalid
    split at hvalid <;> cases hvalid
  · have hcontains : quicAckContains s r₁.smallest = true := by
      rw [quicAckContains_iff, hranges]
      exact ⟨r₁, by simp, le_rfl, hne₁⟩
    have hcov := (hcovers r₁.smallest (by omega)).mpr hcontains
    have hland : u64Sub (u64Sub r₀.smallest (u64Sub (u64Sub r₀.smallest r₁.largest) 2)) 2
        = r₁.largest := by
      rw [ackStep_landing hgap le_rfl (by omega)]
      omega
    have hnext : u64Sub r₁.largest (u64Sub (u64Sub r₁.largest r₁.smallest) 1)
        = r₁.smallest + 1 := by
      have hminus : u64Sub (r₁.largest - r₁.smallest) 1 = r₁.largest - r₁.smallest - 1 :=
        u64Sub_of_le (by omega) (by omega)
      rw [hlen, hminus, u64Sub_of_le (by omega) (by omega)]
      omega
    have hrest := ackCoversRanges_overshoot hsep₁ (by omega)
      fun v hv => hfits v (by simp [ackWireRanges, hv])
    simp only [ackCovers, hsmall, hcount, ackCoversRanges, hread, hland,
      hnext] at hcov
    rw [if_neg (by omega), if_neg (by omega), if_neg (by omega), if_neg (by omega),
      if_neg (by omega), hrest] at hcov
    cases hcov

/-- An ACK frame built from any sequence of arrivals is read back by the peer; it is accepted
and covers exactly the packets of the received set if and only if that set has no gap. -/
theorem ack_means_received_iff_no_gap (packets : List (ℕ × Bool))
    (hp : ∀ p ∈ packets, p.1 ≤ quicPacketNumberMax) (delay rangeCapacity : ℕ) (f : AckFrame)
    (hbuild : quicAckBuild (quicAckRecordAll quicAckStateInit packets) delay rangeCapacity = .ok f)
    (w₀ w : Writer) (hencode : quicFrameEncode w₀ (.ack f) = .ok w) :
    ∃ b, w.bytes = w₀.bytes ++ b ∧ ∀ rest, ∃ g,
      quicFrameDecode (b ++ rest) = .ok (.ack g, rest) ∧
      (AckMeansReceived g (quicAckRecordAll quicAckStateInit packets) ↔
        quicAckHasGap (quicAckRecordAll quicAckStateInit packets) = false) := by
  have hs := quicAckRecordAll_valid quicAckStateInit_valid hp
  obtain ⟨first, others, hranges, hlargest, hfirst, hf⟩ := quicAckBuild_ok hbuild
  obtain ⟨b, hbytes, hdecode⟩ := quicFrameDecode_encode_ack hf hencode
  refine ⟨b, hbytes, fun rest => ⟨f, hdecode rest, ?_⟩⟩
  have hgap := quicAckHasGap_iff hs
  rw [← Bool.not_eq_true, hgap, hranges]
  cases others with
  | nil =>
    have := ackMeansReceived_single hs hranges hlargest hfirst (by simpa using hf.rangeCount)
    simpa using this
  | cons r₁ others =>
    have := not_ackMeansReceived_second hs hranges hlargest hfirst hf
    simpa using this

/-- Packets 5 and 6, in either order of arrival, are one range and are understood. -/
theorem ack_means_received_five_six :
    ∃ f w, quicAckBuild (quicAckRecordAll quicAckStateInit [(6, true), (5, true)]) 0 64 = .ok f ∧
      quicFrameEncode (writerInit 64) (.ack f) = .ok w ∧
      ∃ b, w.bytes = b ∧ ∃ g, quicFrameDecode (b ++ []) = .ok (.ack g, []) ∧
        AckMeansReceived g (quicAckRecordAll quicAckStateInit [(6, true), (5, true)]) := by
  obtain ⟨f, hf⟩ : ∃ f, quicAckBuild
      (quicAckRecordAll quicAckStateInit [(6, true), (5, true)]) 0 64 = .ok f := ⟨_, rfl⟩
  obtain ⟨w, hw⟩ : ∃ w, quicFrameEncode (writerInit 64) (.ack f) = .ok w := by
    obtain rfl := Except.ok.inj hf
    exact ⟨_, rfl⟩
  obtain ⟨b, hb, hread⟩ := ack_means_received_iff_no_gap [(6, true), (5, true)] (by decide) 0 64
    f hf (writerInit 64) w hw
  obtain ⟨g, hg, hiff⟩ := hread []
  exact ⟨f, w, hf, hw, b, hb, g, hg, hiff.mpr (by decide)⟩

/-- Packets 0 and 2: the frame the builder fills is refused by the validator, because the
second range holds one packet and is written with length zero. -/
theorem ack_zero_two_refused :
    ∃ f w g, quicAckBuild (quicAckRecordAll quicAckStateInit [(0, true), (2, true)]) 0 64 = .ok f ∧
      quicFrameEncode (writerInit 64) (.ack f) = .ok w ∧
      quicFrameDecode w.bytes = .ok (.ack g, []) ∧ validateAck g = .protocol ∧
      ¬ AckMeansReceived g (quicAckRecordAll quicAckStateInit [(0, true), (2, true)]) := by
  refine ⟨_, _, ⟨2, 0, 0, [0, 0], 1, false, 0, 0, 0⟩, rfl, rfl, by decide, by decide, ?_⟩
  rintro ⟨hvalid, -⟩
  exact absurd hvalid (by decide)

end WebTransport
