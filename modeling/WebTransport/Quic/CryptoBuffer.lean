import WebTransport.Lib.Answering
import WebTransport.Lib.Bitmap
import WebTransport.Quic.CryptoStream

/-!
# The buffer of the CRYPTO stream

The receive half as it lies in memory (`quic/crypto_stream.c`): an array of bytes addressed from the
read offset on, with a bitmap of those that have arrived. Inserting marks what it stores, and
consuming moves both down.
-/

namespace WebTransport

/-- The receive half with its array and its bitmap (`wt_quic_crypto_recv_t`). -/
structure CryptoBuffer where
  readOffset : ℕ := 0
  length : ℕ := 0
  hasReceived : Bool := false
  data : ℕ → UInt8 := fun _ => 0
  arrived : ℕ → UInt8 := fun _ => 0

/-- The state `wt_quic_crypto_recv_init` leaves. -/
def cryptoBufferInit : CryptoBuffer := {}

/-- Store bytes from an index on and mark them. -/
def CryptoBuffer.store (recv : CryptoBuffer) (index : ℕ) : List UInt8 → CryptoBuffer
  | [] => recv
  | b :: bytes =>
    CryptoBuffer.store { recv with
      data := Function.update recv.data index b
      arrived := Bitmap.mark recv.arrived index } (index + 1) bytes

/-- Bytes arrive at an offset. -/
def cryptoBufferInsert (recv : CryptoBuffer) (offset : ℕ) (data : List UInt8) :
    Except Status CryptoBuffer :=
  if data.length = 0 then .ok recv
  else if quicCryptoMaxOffset - data.length < offset then .error .overflow
  else if offset + data.length ≤ recv.readOffset then .ok recv
  else
    let skip := if offset < recv.readOffset then recv.readOffset - offset else 0
    let offset := offset + skip
    let data := data.drop skip
    if quicCryptoBufferMax ≤ offset - recv.readOffset then .error .limit
    else
      let start := offset - recv.readOffset
      if quicCryptoBufferMax - start < data.length then .error .limit
      else
        let stored := recv.store start data
        .ok { stored with
          length := if recv.length < start + data.length then start + data.length else recv.length
          hasReceived := true }

/-- How many bytes can be delivered now. -/
def cryptoBufferAvailable (recv : CryptoBuffer) : ℕ :=
  ((List.range recv.length).takeWhile (Bitmap.test recv.arrived)).length

/-- Take bytes from the front: the rest and its bits move down. -/
def cryptoBufferConsume (recv : CryptoBuffer) (length : ℕ) : Except Status CryptoBuffer :=
  if recv.length < length then .error .invalidArgument
  else if length = 0 then .ok recv
  else
    .ok { recv with
      data := fun i => if i < recv.length - length then recv.data (i + length) else recv.data i
      arrived := Bitmap.collect (fun i => Bitmap.test recv.arrived (i + length))
        (recv.length - length)
      length := recv.length - length
      readOffset := recv.readOffset + length }

/-- The bytes at the front of the array. -/
def CryptoBuffer.front (recv : CryptoBuffer) (n : ℕ) : List UInt8 := (List.range n).map recv.data

/-- Nothing is held beyond the array, and nothing is marked beyond what is held. -/
structure CryptoBuffer.Held (recv : CryptoBuffer) : Prop where
  fits : recv.length ≤ quicCryptoBufferMax
  marked : ∀ i, Bitmap.test recv.arrived i = true → i < recv.length

/-- A buffer after bytes of an offset were put into it: those that were not delivered yet are there
and marked, and nothing else has changed. -/
structure CryptoBuffer.Stores (recv : CryptoBuffer) (offset : ℕ) (data : List UInt8)
    (recv' : CryptoBuffer) : Prop where
  held : recv'.Held
  readOffset : recv'.readOffset = recv.readOffset
  length : data.length ≠ 0 →
    recv'.length = max recv.length (offset + data.length - recv.readOffset)
  marked : ∀ i, Bitmap.test recv'.arrived i = (Bitmap.test recv.arrived i ||
    decide (offset ≤ recv.readOffset + i ∧ recv.readOffset + i < offset + data.length))
  bytes : ∀ i, recv'.data i =
    if offset ≤ recv.readOffset + i ∧ recv.readOffset + i < offset + data.length then
      data.getD (recv.readOffset + i - offset) 0
    else recv.data i

section

variable {recv recv' : CryptoBuffer} {offset start n i : ℕ} {data : List UInt8}

/-- Storing changes the bytes that it writes, and marks them. -/
lemma CryptoBuffer.store_spec (recv : CryptoBuffer) (start : ℕ) (data : List UInt8) :
    (recv.store start data).readOffset = recv.readOffset ∧
      ∀ i, (Bitmap.test (recv.store start data).arrived i =
          (Bitmap.test recv.arrived i || decide (start ≤ i ∧ i < start + data.length))) ∧
        (recv.store start data).data i =
          if start ≤ i ∧ i < start + data.length then data.getD (i - start) 0
          else recv.data i := by
  induction data generalizing recv start with
  | nil =>
    refine ⟨rfl, fun i => ⟨?_, ?_⟩⟩
    · rw [decide_eq_false (by simp only [List.length_nil]; omega), Bool.or_false]
      rfl
    · rw [if_neg (by simp only [List.length_nil]; omega)]
      rfl
  | cons b bytes ih =>
    obtain ⟨hoffset, hbytes⟩ := ih { recv with
      data := Function.update recv.data start b
      arrived := Bitmap.mark recv.arrived start } (start + 1)
    refine ⟨hoffset, fun i => ?_⟩
    obtain ⟨hmarked, hstored⟩ := hbytes i
    rw [CryptoBuffer.store, hmarked, hstored, Bitmap.test_mark, List.length_cons]
    constructor
    · by_cases hfirst : start = i
      · simp [hfirst]
      · have hsame : (start + 1 ≤ i ∧ i < start + 1 + bytes.length) ↔
            (start ≤ i ∧ i < start + (bytes.length + 1)) := by omega
        rw [decide_eq_false hfirst, Bool.false_or, decide_eq_decide.mpr hsame]
    · by_cases hlater : start + 1 ≤ i ∧ i < start + 1 + bytes.length
      · obtain ⟨k, rfl⟩ : ∃ k, i = start + 1 + k := ⟨i - (start + 1), by omega⟩
        have hindex : start + 1 + k - start = k + 1 := by omega
        rw [if_pos hlater, if_pos (by omega), Nat.add_sub_cancel_left, hindex, List.getD_cons_succ]
      · rw [if_neg hlater]
        by_cases hfirst : i = start
        · subst hfirst
          rw [if_pos (by omega), Nat.sub_self, List.getD_cons_zero]
          exact Function.update_self ..
        · rw [if_neg (by omega)]
          exact Function.update_of_ne hfirst _ _

/-- Bytes that were all delivered before change nothing. -/
lemma CryptoBuffer.Stores.nothing (hrecv : recv.Held)
    (hdone : data.length = 0 ∨ offset + data.length ≤ recv.readOffset) :
    recv.Stores offset data recv := by
  refine ⟨hrecv, rfl, fun hne => by omega, fun i => ?_, fun i => ?_⟩
  · rw [decide_eq_false (by omega), Bool.or_false]
  · rw [if_neg (by omega)]

/-- An accepted insert stores the bytes that were not delivered before. -/
lemma cryptoBufferInsert_stores (hrecv : recv.Held)
    (h : cryptoBufferInsert recv offset data = .ok recv') : recv.Stores offset data recv' := by
  have hskip : (if offset < recv.readOffset then recv.readOffset - offset else 0) =
      recv.readOffset - offset := by
    split_ifs <;> omega
  have hmax : ∀ reach, (if recv.length < reach then reach else recv.length) =
      max recv.length reach := by
    intro reach
    split_ifs <;> omega
  unfold cryptoBufferInsert at h
  simp only [hskip, hmax] at h
  split_ifs at h with hempty hoverflow hdone hfar hlong
  · obtain rfl := Except.ok.inj h
    exact .nothing hrecv (.inl hempty)
  · obtain rfl := Except.ok.inj h
    exact .nothing hrecv (.inr hdone)
  · rw [List.length_drop] at h hlong
    have hstart : offset + (recv.readOffset - offset) - recv.readOffset =
        offset - recv.readOffset := by omega
    rw [hstart] at h hfar hlong
    obtain ⟨hoffset, hbytes⟩ := recv.store_spec (offset - recv.readOffset)
      (data.drop (recv.readOffset - offset))
    simp only [List.length_drop] at hbytes
    obtain rfl := Except.ok.inj h
    have hcovers : ∀ i, (offset - recv.readOffset ≤ i ∧
        i < offset - recv.readOffset + (data.length - (recv.readOffset - offset))) ↔
          (offset ≤ recv.readOffset + i ∧ recv.readOffset + i < offset + data.length) := by omega
    have hheld := hrecv.fits
    refine ⟨⟨?_, fun i hi => ?_⟩, hoffset, fun _ => ?_, fun i => ?_, fun i => ?_⟩
    · simp only
      omega
    · simp only at hi ⊢
      rw [(hbytes i).1, Bool.or_eq_true, decide_eq_true_eq] at hi
      rcases hi with hi | hi
      · have := hrecv.marked i hi
        omega
      · omega
    · simp only
      omega
    · simp only
      rw [(hbytes i).1, decide_eq_decide.mpr (hcovers i)]
    · simp only
      rw [(hbytes i).2]
      by_cases hcover : offset ≤ recv.readOffset + i ∧ recv.readOffset + i < offset + data.length
      · have hindex : recv.readOffset - offset + (i - (offset - recv.readOffset)) =
            recv.readOffset + i - offset := by omega
        rw [if_pos ((hcovers i).mpr hcover), if_pos hcover, List.getD_eq_getElem?_getD,
          List.getElem?_drop, hindex, ← List.getD_eq_getElem?_getD]
      · rw [if_neg (mt (hcovers i).mp hcover), if_neg hcover]

/-- The bytes that are left move down, with their bits. -/
lemma cryptoBufferConsume_spec (hrecv : recv.Held)
    (h : cryptoBufferConsume recv n = .ok recv') :
    recv'.Held ∧ recv'.readOffset = recv.readOffset + n ∧ ∀ i,
      Bitmap.test recv'.arrived i = Bitmap.test recv.arrived (i + n) ∧
        (Bitmap.test recv'.arrived i = true → recv'.data i = recv.data (i + n)) := by
  have hfits := hrecv.fits
  unfold cryptoBufferConsume at h
  split_ifs at h with hlong hnone
  · obtain rfl := Except.ok.inj h
    subst hnone
    exact ⟨hrecv, rfl, fun i => ⟨rfl, fun _ => rfl⟩⟩
  · obtain rfl := Except.ok.inj h
    have hbits : ∀ i, Bitmap.test (Bitmap.collect (fun i => Bitmap.test recv.arrived (i + n))
        (recv.length - n)) i = Bitmap.test recv.arrived (i + n) := by
      intro i
      rw [Bitmap.test_collect]
      by_cases hmarked : Bitmap.test recv.arrived (i + n) = true
      · have := hrecv.marked _ hmarked
        rw [hmarked, decide_eq_true (by omega : i < recv.length - n), Bool.and_true]
      · rw [Bool.not_eq_true] at hmarked
        rw [hmarked, Bool.and_false]
    refine ⟨⟨?_, fun i hi => ?_⟩, rfl, fun i => ⟨hbits i, fun hi => ?_⟩⟩
    · simp only
      omega
    · rw [hbits] at hi
      have := hrecv.marked _ hi
      simp only
      omega
    · rw [hbits] at hi
      have := hrecv.marked _ hi
      exact if_pos (by omega)

/-- The bytes that can be delivered are those up to the first one that has not arrived. -/
lemma cryptoBufferAvailable_spec (hrecv : recv.Held) :
    (∀ i < cryptoBufferAvailable recv, Bitmap.test recv.arrived i = true) ∧
      Bitmap.test recv.arrived (cryptoBufferAvailable recv) = false := by
  have hfind : cryptoBufferAvailable recv =
      (List.range recv.length).findIdx fun i => !Bitmap.test recv.arrived i := by
    rw [cryptoBufferAvailable, List.takeWhile_eq_take_findIdx_not, List.length_take]
    exact min_eq_left List.findIdx_le_length
  rw [hfind]
  constructor
  · intro i hi
    have hkeep := List.not_of_lt_findIdx hi
    rw [List.getElem_range] at hkeep
    simpa using hkeep
  · by_cases hend : (List.range recv.length).findIdx (fun i => !Bitmap.test recv.arrived i) <
        (List.range recv.length).length
    · have hstop := List.findIdx_getElem (w := hend)
      rw [List.getElem_range] at hstop
      simpa using hstop
    · by_contra hmarked
      have := hrecv.marked _ (Bool.not_eq_false _ ▸ hmarked)
      rw [List.length_range] at hend
      omega

end

/-! ## The buffer and its window -/

/-- What is held at an index: a byte, or a hole. -/
def CryptoBuffer.held (recv : CryptoBuffer) (i : ℕ) : Option UInt8 :=
  if Bitmap.test recv.arrived i then some (recv.data i) else none

/-- A buffer is a window of bytes with holes. -/
structure CryptoBuffer.Refines (recv : CryptoBuffer) (r : CryptoRecv) : Prop where
  readOffset : r.readOffset = recv.readOffset
  window : r.window = (List.range recv.length).map recv.held

section

variable {recv recv' : CryptoBuffer} {r : CryptoRecv} {offset start n i : ℕ} {data : List UInt8}

/-- Bytes that are put over a window. -/
lemma getElem?_overlay {window : List (Option UInt8)}
    (hi : i < max window.length (start + data.length)) :
    (overlay window start data)[i]? =
      some (if start ≤ i ∧ i < start + data.length then some (data.getD (i - start) 0)
        else window.getD i none) := by
  unfold overlay
  by_cases hbefore : i < start
  · have hcovers : ¬(start ≤ i ∧ i < start + data.length) := by omega
    rw [if_neg hcovers, List.append_assoc, List.append_assoc]
    by_cases hheld : i < window.length
    · rw [List.getElem?_append_left (by rw [List.length_take]; omega),
        List.getElem?_take_of_lt hbefore, List.getD_eq_getElem?_getD, List.getElem?_eq_getElem hheld]
      rfl
    · rw [List.getElem?_append_right (by rw [List.length_take]; omega), List.length_take,
        List.getElem?_append_left (by rw [List.length_replicate]; omega),
        List.getElem?_replicate_of_lt (by omega), List.getD_eq_getElem?_getD,
        List.getElem?_eq_none (by omega)]
      rfl
  · have hlength : (window.take start ++ List.replicate (start - window.length) none).length =
        start := by
      rw [List.length_append, List.length_take, List.length_replicate]
      omega
    rw [List.append_assoc, List.getElem?_append_right (by omega), hlength]
    by_cases hwithin : i < start + data.length
    · rw [if_pos ⟨by omega, hwithin⟩,
        List.getElem?_append_left (by rw [List.length_map]; omega), List.getElem?_map,
        List.getD_eq_getElem?_getD, List.getElem?_eq_getElem (by omega)]
      rfl
    · rw [if_neg (by omega), List.getElem?_append_right (by rw [List.length_map]; omega),
        List.length_map, List.getElem?_drop, List.getD_eq_getElem?_getD]
      have hindex : start + data.length + (i - start - data.length) = i := by omega
      rw [hindex, List.getElem?_eq_getElem (by omega)]
      rfl

/-- An insert into the buffer is an insert into its window. -/
theorem CryptoBuffer.Refines.insert (hrecv : recv.Held) (h : recv.Refines r) :
    Answering.Settled CryptoBuffer.Refines (cryptoBufferInsert recv offset data)
      (quicCryptoRecvInsert r offset data) := by
  have hskip : (if offset < recv.readOffset then recv.readOffset - offset else 0) =
      recv.readOffset - offset := by
    split_ifs <;> omega
  have hstart : offset + (recv.readOffset - offset) - recv.readOffset =
      offset - recv.readOffset := by omega
  have hempty : data.length = 0 ↔ data = [] := List.length_eq_zero_iff
  cases hinsert : cryptoBufferInsert recv offset data with
  | error e =>
    have hguards := hinsert
    unfold cryptoBufferInsert at hguards
    simp only [hskip, hstart, List.length_drop] at hguards
    unfold quicCryptoRecvInsert
    simp only [h.readOffset]
    split_ifs at hguards with hnone hoverflow hdone hfar hlong
    · rw [if_neg (mt hempty.mpr hnone), if_pos hoverflow]
      exact (Except.error.inj hguards).symm
    · rw [if_neg (mt hempty.mpr hnone), if_neg hoverflow, if_neg hdone, dif_pos hfar]
      exact (Except.error.inj hguards).symm
    · rw [if_neg (mt hempty.mpr hnone), if_neg hoverflow, if_neg hdone, dif_neg hfar,
        dif_pos (by rwa [List.length_drop])]
      exact (Except.error.inj hguards).symm
  | ok recv' =>
    have hstores := cryptoBufferInsert_stores hrecv hinsert
    have hguards := hinsert
    unfold cryptoBufferInsert at hguards
    simp only [hskip, hstart, List.length_drop] at hguards
    unfold quicCryptoRecvInsert
    simp only [h.readOffset]
    by_cases hnone : data.length = 0
    · rw [if_pos hnone] at hguards
      rw [if_pos (hempty.mp hnone)]
      exact Except.ok.inj hguards ▸ h
    rw [if_neg hnone] at hguards
    rw [if_neg (mt hempty.mpr hnone)]
    by_cases hoverflow : quicCryptoMaxOffset - data.length < offset
    · rw [if_pos hoverflow] at hguards
      cases hguards
    rw [if_neg hoverflow] at hguards
    rw [if_neg hoverflow]
    by_cases hdone : offset + data.length ≤ recv.readOffset
    · rw [if_pos hdone] at hguards
      rw [if_pos hdone]
      exact Except.ok.inj hguards ▸ h
    rw [if_neg hdone] at hguards
    rw [if_neg hdone]
    by_cases hfar : quicCryptoBufferMax ≤ offset - recv.readOffset
    · rw [if_pos hfar] at hguards
      cases hguards
    rw [if_neg hfar] at hguards
    rw [dif_neg hfar]
    by_cases hlong : quicCryptoBufferMax - (offset - recv.readOffset) <
        data.length - (recv.readOffset - offset)
    · rw [if_pos hlong] at hguards
      cases hguards
    rw [dif_neg (by rwa [List.length_drop])]
    refine ⟨hstores.readOffset.symm, ?_⟩
    have hlength := hstores.length hnone
    have hwindow : r.window.length = recv.length := by
      rw [h.window, List.length_map, List.length_range]
    -- Byte for byte: what was stored, or what was there.
    apply List.ext_getElem?
    intro i
    by_cases hi : i < recv'.length
    · rw [getElem?_overlay (by rw [hwindow, List.length_drop]; omega), List.getElem?_map,
        List.getElem?_range hi, Option.map_some, CryptoBuffer.held, hstores.marked, hstores.bytes]
      have hcovers : (offset - recv.readOffset ≤ i ∧ i < offset - recv.readOffset +
          (data.drop (recv.readOffset - offset)).length) ↔
            (offset ≤ recv.readOffset + i ∧ recv.readOffset + i < offset + data.length) := by
        rw [List.length_drop]
        omega
      by_cases hcover : offset ≤ recv.readOffset + i ∧ recv.readOffset + i < offset + data.length
      · have hindex : recv.readOffset - offset + (i - (offset - recv.readOffset)) =
            recv.readOffset + i - offset := by omega
        rw [if_pos (hcovers.mpr hcover), decide_eq_true hcover, Bool.or_true, if_pos rfl,
          if_pos hcover, List.getD_eq_getElem?_getD, List.getElem?_drop, hindex,
          ← List.getD_eq_getElem?_getD]
      · rw [if_neg (mt hcovers.mp hcover), decide_eq_false hcover, Bool.or_false, if_neg hcover,
          h.window, List.getD_eq_getElem?_getD, List.getElem?_map]
        by_cases hheld : i < recv.length
        · rw [List.getElem?_range hheld]
          rfl
        · have hclear : Bitmap.test recv.arrived i ≠ true := fun hi => hheld (hrecv.marked i hi)
          rw [List.getElem?_eq_none (by rw [List.length_range]; omega), if_neg hclear]
          rfl
    · rw [List.getElem?_eq_none (by rw [length_overlay, hwindow, List.length_drop]; omega),
        List.getElem?_eq_none (by rw [List.length_map, List.length_range]; omega)]

/-- Taking bytes from the buffer is taking them from its window. -/
theorem CryptoBuffer.Refines.consume (hrecv : recv.Held) (h : recv.Refines r) :
    Answering.Settled CryptoBuffer.Refines (cryptoBufferConsume recv n)
      (quicCryptoRecvConsume r n) := by
  have hwindow : r.window.length = recv.length := by
    rw [h.window, List.length_map, List.length_range]
  by_cases hlong : recv.length < n
  · rw [cryptoBufferConsume, if_pos hlong, quicCryptoRecvConsume, if_pos (by rwa [hwindow])]
    rfl
  · rw [quicCryptoRecvConsume, if_neg (by rwa [hwindow])]
    cases hconsume : cryptoBufferConsume recv n with
    | error e =>
      unfold cryptoBufferConsume at hconsume
      rw [if_neg hlong] at hconsume
      split_ifs at hconsume
    | ok recv' =>
      obtain ⟨-, hoffset, hbytes⟩ := cryptoBufferConsume_spec hrecv hconsume
      have hlength : recv'.length = recv.length - n := by
        unfold cryptoBufferConsume at hconsume
        rw [if_neg hlong] at hconsume
        split_ifs at hconsume with hnone
        · rw [← Except.ok.inj hconsume, hnone, Nat.sub_zero]
        · rw [← Except.ok.inj hconsume]
      refine ⟨by rw [h.readOffset, hoffset], ?_⟩
      show r.window.drop n = _
      rw [h.window]
      apply List.ext_getElem?
      intro i
      rw [List.getElem?_drop, List.getElem?_map, List.getElem?_map]
      by_cases hi : i < recv.length - n
      · have hheld : recv'.held i = recv.held (n + i) := by
          obtain ⟨hmarked, hdata⟩ := hbytes i
          unfold CryptoBuffer.held
          rw [Nat.add_comm n i, ← hmarked]
          split_ifs with hset
          · rw [hdata hset]
          · rfl
        rw [List.getElem?_range (by omega), List.getElem?_range (by omega), Option.map_some,
          Option.map_some, hheld]
      · rw [List.getElem?_eq_none (by rw [List.length_range]; omega),
          List.getElem?_eq_none (by rw [List.length_range]; omega), Option.map_none,
          Option.map_none]

/-- What the window delivers is the front of the buffer. -/
theorem CryptoBuffer.Refines.available (h : recv.Refines r) :
    quicCryptoRecvAvailable r = recv.front (cryptoBufferAvailable recv) := by
  have hprefix : ∀ l : List ℕ, arrivedPrefix (l.map recv.held) =
      (l.takeWhile (Bitmap.test recv.arrived)).map recv.data := by
    intro l
    induction l with
    | nil => rfl
    | cons i l ih =>
      rw [List.map_cons, CryptoBuffer.held]
      by_cases hmarked : Bitmap.test recv.arrived i = true
      · rw [if_pos hmarked, List.takeWhile_cons_of_pos hmarked, List.map_cons, ← ih]
        rfl
      · rw [if_neg hmarked, List.takeWhile_cons_of_neg hmarked]
        rfl
  have hrange : (List.range recv.length).takeWhile (Bitmap.test recv.arrived) =
      List.range (cryptoBufferAvailable recv) := by
    have htake := List.prefix_iff_eq_take.mp
      (List.takeWhile_prefix (Bitmap.test recv.arrived) (l := List.range recv.length))
    rw [List.take_range] at htake
    refine htake.trans (congrArg List.range ?_)
    exact min_eq_left ((List.takeWhile_prefix _).length_le.trans List.length_range.le)
  rw [quicCryptoRecvAvailable, h.window, hprefix, hrange]
  rfl

end

/-- What is asked of the receive half: to store any bytes at any offset, or to give up any number. -/
inductive CryptoRequest
  | insert (offset : ℕ) (data : List UInt8)
  | consume (length : ℕ)

/-- What the buffer answers. -/
def CryptoBuffer.serve : CryptoRequest → CryptoBuffer → CryptoBuffer × Option Status
  | .insert offset data, recv => Answering.settle recv (cryptoBufferInsert recv offset data)
  | .consume length, recv => Answering.settle recv (cryptoBufferConsume recv length)

/-- What its window answers. -/
def CryptoRecv.serve : CryptoRequest → CryptoRecv → CryptoRecv × Option Status
  | .insert offset data, recv => Answering.settle recv (quicCryptoRecvInsert recv offset data)
  | .consume length, recv => Answering.settle recv (quicCryptoRecvConsume recv length)

/-- Every request keeps the two together. -/
lemma CryptoBuffer.serve_alike : Answering.Alike (fun (recv : CryptoBuffer) (r : CryptoRecv) =>
    recv.Held ∧ recv.Refines r) CryptoBuffer.serve CryptoRecv.serve := by
  rintro request recv r ⟨hrecv, h⟩
  cases request with
  | insert offset data =>
    exact (h.insert hrecv).settle (fun _ hok => (cryptoBufferInsert_stores hrecv hok).held) ⟨hrecv, h⟩
  | consume length =>
    exact (h.consume hrecv).settle (fun _ hok => (cryptoBufferConsume_spec hrecv hok).1) ⟨hrecv, h⟩

/-- **The array with its bitmap is a window with holes.** Whatever a peer's bytes are, overlapping,
contradicting or repeated, and however many are asked for, every request to a new receive half is
answered as its window answers it, the read offset is the window's, and what can be delivered in the
end is what the window delivers. -/
theorem cryptoBuffer_refines_window (requests : List CryptoRequest) :
    let (recv, answers) := Answering.run CryptoBuffer.serve requests cryptoBufferInit
    let (window, windowAnswers) := Answering.run CryptoRecv.serve requests .empty
    answers = windowAnswers ∧ recv.readOffset = window.readOffset ∧
      recv.front (cryptoBufferAvailable recv) = quicCryptoRecvAvailable window := by
  have hinit : cryptoBufferInit.Held ∧ cryptoBufferInit.Refines .empty :=
    ⟨⟨Nat.zero_le _, fun i hi => absurd hi (by simp [cryptoBufferInit, Bitmap.test_empty])⟩, rfl, rfl⟩
  obtain ⟨⟨-, h⟩, hanswers⟩ := CryptoBuffer.serve_alike.run requests hinit
  exact ⟨hanswers, h.readOffset.symm, h.available.symm⟩

/-! ## Delivery -/

/-- A stretch of a byte stream. -/
def segment (stream : ℕ → UInt8) (offset length : ℕ) : List UInt8 :=
  (List.range length).map fun k => stream (offset + k)

/-- What happens to the buffer: a segment of the stream arrives, or the consumer takes bytes. -/
inductive CryptoCall
  | insert (offset length : ℕ)
  | consume (length : ℕ)

/-- A buffer with what was taken from it and the segments that it accepted. -/
structure CryptoDelivery where
  recv : CryptoBuffer := cryptoBufferInit
  consumed : List UInt8 := []
  accepted : List (ℕ × ℕ) := []

/-- One call. The consumer takes no more than there is. -/
def cryptoDeliver (stream : ℕ → UInt8) (d : CryptoDelivery) : CryptoCall → CryptoDelivery
  | .insert offset length =>
    match cryptoBufferInsert d.recv offset (segment stream offset length) with
    | .ok recv => { d with recv := recv, accepted := (offset, length) :: d.accepted }
    | .error _ => d
  | .consume length =>
    if cryptoBufferAvailable d.recv < length then d
    else
      match cryptoBufferConsume d.recv length with
      | .ok recv => { d with recv := recv, consumed := d.consumed ++ d.recv.front length }
      | .error _ => d

/-- Calls from a fresh buffer on. -/
def cryptoDeliverAll (stream : ℕ → UInt8) (calls : List CryptoCall) : CryptoDelivery :=
  calls.foldl (cryptoDeliver stream) {}

/-- A byte of the stream was in a segment that was accepted. -/
def CryptoDelivery.Arrived (d : CryptoDelivery) (n : ℕ) : Prop :=
  ∃ s ∈ d.accepted, s.1 ≤ n ∧ n < s.1 + s.2

/-- The buffer holds the bytes of the stream that have arrived, from the read offset on. -/
structure CryptoDelivery.Delivers (stream : ℕ → UInt8) (d : CryptoDelivery) : Prop where
  held : d.recv.Held
  consumed : d.consumed = segment stream 0 d.recv.readOffset
  arrived : ∀ i, Bitmap.test d.recv.arrived i = true ↔ d.Arrived (d.recv.readOffset + i)
  bytes : ∀ i, Bitmap.test d.recv.arrived i = true →
    d.recv.data i = stream (d.recv.readOffset + i)

section

variable {stream : ℕ → UInt8} {d : CryptoDelivery} {n : ℕ}

lemma segment_append (offset m n : ℕ) :
    segment stream offset (m + n) = segment stream offset m ++ segment stream (offset + m) n := by
  simp only [segment, List.range_add, List.map_append, List.map_map, Nat.add_assoc]
  rfl

/-- The front of the buffer is the stream, as far as it has arrived. -/
lemma CryptoDelivery.Delivers.front (hd : d.Delivers stream)
    (hn : n ≤ cryptoBufferAvailable d.recv) :
    d.recv.front n = segment stream d.recv.readOffset n := by
  apply List.map_congr_left
  intro i hi
  have hlt := List.mem_range.mp hi
  exact hd.bytes i ((cryptoBufferAvailable_spec hd.held).1 i (by omega))

/-- Every call keeps the buffer in step with the stream. -/
lemma CryptoDelivery.Delivers.step (hd : d.Delivers stream) (call : CryptoCall) :
    (cryptoDeliver stream d call).Delivers stream := by
  cases call with
  | insert offset length =>
    cases hinsert : cryptoBufferInsert d.recv offset (segment stream offset length) with
    | error e =>
      simp only [cryptoDeliver, hinsert]
      exact hd
    | ok recv =>
      have hstores := cryptoBufferInsert_stores hd.held hinsert
      have hlength : (segment stream offset length).length = length := by simp [segment]
      simp only [cryptoDeliver, hinsert]
      refine ⟨hstores.held, ?_, fun i => ?_, fun i hi => ?_⟩
      · rw [hstores.readOffset]
        exact hd.consumed
      · simp only
        rw [hstores.marked, Bool.or_eq_true, hd.arrived, decide_eq_true_eq, hlength,
          hstores.readOffset]
        unfold Arrived
        rw [List.exists_mem_cons_iff]
        exact or_comm
      · simp only at hi ⊢
        rw [hstores.marked, Bool.or_eq_true, decide_eq_true_eq, hlength] at hi
        rw [hstores.bytes, hstores.readOffset, hlength]
        by_cases hcover : offset ≤ d.recv.readOffset + i ∧ d.recv.readOffset + i < offset + length
        · have hindex : offset + (d.recv.readOffset + i - offset) = d.recv.readOffset + i := by omega
          rw [if_pos hcover, segment, List.getD_eq_getElem?_getD, List.getElem?_map,
            List.getElem?_range (by omega), Option.map_some, Option.getD_some, hindex]
        · rw [if_neg hcover]
          exact hd.bytes i (hi.resolve_right hcover)
  | consume length =>
    by_cases hmore : cryptoBufferAvailable d.recv < length
    · rw [cryptoDeliver, if_pos hmore]
      exact hd
    · rw [cryptoDeliver, if_neg hmore]
      cases hconsume : cryptoBufferConsume d.recv length with
      | error e => exact hd
      | ok recv =>
        obtain ⟨hheld, hoffset, hbits⟩ := cryptoBufferConsume_spec hd.held hconsume
        have hindex : ∀ i, d.recv.readOffset + length + i = d.recv.readOffset + (i + length) := by
          omega
        refine ⟨hheld, ?_, fun i => ?_, fun i hi => ?_⟩
        · simp only
          rw [hoffset, segment_append, zero_add, ← hd.consumed, hd.front (not_lt.mp hmore)]
        · simp only
          rw [(hbits i).1, hd.arrived, hoffset, hindex]
          rfl
        · simp only at hi ⊢
          rw [(hbits i).2 hi, hoffset, hindex]
          exact hd.bytes _ ((hbits i).1 ▸ hi)

/-- Whatever segments of a stream arrive, and however the consumer takes what there is, the bytes
taken are a prefix of the stream, the bytes available are the stretch after it up to the first byte
that has not arrived, and nothing is marked beyond what is held. -/
theorem cryptoDeliver_exact (stream : ℕ → UInt8) (calls : List CryptoCall) :
    let d := cryptoDeliverAll stream calls
    d.consumed = segment stream 0 d.recv.readOffset ∧
      d.recv.front (cryptoBufferAvailable d.recv) =
        segment stream d.recv.readOffset (cryptoBufferAvailable d.recv) ∧
      (∀ k < cryptoBufferAvailable d.recv, d.Arrived (d.recv.readOffset + k)) ∧
      ¬d.Arrived (d.recv.readOffset + cryptoBufferAvailable d.recv) ∧
      (∀ i, d.recv.length ≤ i → Bitmap.test d.recv.arrived i = false) ∧
      ∀ offset length e, cryptoBufferInsert d.recv offset (segment stream offset length) =
        .error e → cryptoDeliver stream d (.insert offset length) = d := by
  intro d
  have hd : d.Delivers stream := by
    have hinit : CryptoDelivery.Delivers stream {} := by
      refine ⟨⟨Nat.zero_le _, fun i hi => ?_⟩, rfl, fun i => ?_, fun i hi => ?_⟩
      · exact absurd hi (by simp [cryptoBufferInit, Bitmap.test_empty])
      · simp [cryptoBufferInit, Bitmap.test_empty, CryptoDelivery.Arrived]
      · exact absurd hi (by simp [cryptoBufferInit, Bitmap.test_empty])
    have hrun : ∀ (calls : List CryptoCall) (d : CryptoDelivery), d.Delivers stream →
        (calls.foldl (cryptoDeliver stream) d).Delivers stream := by
      intro calls
      induction calls with
      | nil => exact fun d hd => hd
      | cons call calls ih => exact fun d hd => ih _ (hd.step call)
    exact hrun calls {} hinit
  obtain ⟨hbefore, hstop⟩ := cryptoBufferAvailable_spec hd.held
  refine ⟨hd.consumed, hd.front le_rfl, fun k hk => (hd.arrived k).mp (hbefore k hk), ?_, ?_, ?_⟩
  · rw [← hd.arrived, hstop]
    exact Bool.false_ne_true
  · intro i hi
    by_contra hmarked
    have := hd.held.marked i (by simpa using hmarked)
    omega
  · intro offset length e hrefused
    rw [cryptoDeliver, hrefused]

end

end WebTransport
