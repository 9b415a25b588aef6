import WebTransport.Lib.Answering
import WebTransport.Quic.FrameRoundTrip
import WebTransport.Quic.TransportParameters

/-!
# Building and writing transport parameters

The writing half of `quic/transport_parameters.c`: how a list is filled, by adding or by decoding
into it, where its values lie, and how it is encoded. However a list was filled, a lookup in it
finds what a scan finds, and what is encoded decodes to the same list.
-/

namespace WebTransport

/-! ## The list in memory -/

/-- Where a value lies: in bytes that stay where they are, or in a slot of the list's own. -/
inductive ParameterValue
  | view (bytes : List UInt8)
  | slot (index length : ℕ)

/-- A list with its storage for integers (`wt_quic_transport_parameters_t`). -/
structure ParameterList where
  entries : List (ℕ × ParameterValue) := []
  sorted : Bool := true
  integerStorage : ℕ → UInt8 := fun _ => 0
  integerSlotsUsed : ℕ := 0

namespace ParameterList

/-- The bytes of a value. -/
def read (params : ParameterList) : ParameterValue → List UInt8
  | .view bytes => bytes
  | .slot index length => (List.range length).map fun k => params.integerStorage (8 * index + k)

/-- The list as a reader sees it. -/
def list (params : ParameterList) : TransportParameters where
  entries := params.entries.map fun entry => ⟨entry.1, params.read entry.2⟩
  sorted := params.sorted

/-- Write bytes to the first slot that is not in use. -/
def writeSlot (params : ParameterList) (bytes : List UInt8) : ParameterList :=
  { params with
    integerStorage := fun i =>
      if 8 * params.integerSlotsUsed ≤ i ∧ i < 8 * params.integerSlotsUsed + bytes.length then
        bytes.getD (i - 8 * params.integerSlotsUsed) 0
      else params.integerStorage i }

@[simp] lemma writeSlot_integerSlotsUsed (params : ParameterList) (bytes : List UInt8) :
    (params.writeSlot bytes).integerSlotsUsed = params.integerSlotsUsed := rfl

/-- Put a value behind the others, as the decoder does. -/
def push (params : ParameterList) (id : ℕ) (value : ParameterValue) : ParameterList :=
  { params with
    entries := params.entries ++ [(id, value)]
    sorted := params.sorted && !(params.entries.getLast?.any (id < ·.1)) }

end ParameterList

/-- Empty a list (`wt_quic_transport_parameters_init`). -/
def quicTransportParametersInit (_ : ParameterList) : ParameterList := {}

/-- Where a new identifier goes: to its place in a sorted list, to the end of another. -/
def tpPlace (params : TransportParameters) (id : ℕ) : Except Status ℕ :=
  if params.sorted then
    let index := tpLowerBound params id
    if params.entries[index]?.any (·.id = id) then .error .invalidArgument else .ok index
  else if params.entries.any (·.id = id) then .error .invalidArgument
  else .ok params.entries.length

/-- Put a value into the list (`wt_quic_tp_insert`). -/
def tpInsert (params : ParameterList) (id : ℕ) (value : ParameterValue) :
    Except Status ParameterList :=
  if quicMaxTransportParameters ≤ params.entries.length then .error .limit
  else
    match tpPlace params.list id with
    | .error e => .error e
    | .ok index => .ok { params with
        entries := params.entries.take index ++ (id, value) :: params.entries.drop index }

/-- Add an integer, which is kept in a slot (`wt_quic_transport_parameters_add_integer`). The slot
is written before the list is known to take the parameter. -/
def quicTransportParametersAddInteger (params : ParameterList) (id value : ℕ) :
    ParameterList × Option Status :=
  if quicMaxTransportParameters ≤ params.integerSlotsUsed then (params, some .limit)
  else
    let bytes := quicVarintEncode value 8
    if bytes.length = 0 then (params, some .overflow)
    else
      let params := params.writeSlot bytes
      match tpInsert params id (.slot params.integerSlotsUsed bytes.length) with
      | .error e => (params, some e)
      | .ok params => ({ params with integerSlotsUsed := params.integerSlotsUsed + 1 }, none)

/-- Add bytes, which stay the caller's (`wt_quic_transport_parameters_add_bytes`). -/
def quicTransportParametersAddBytes (params : ParameterList) (id : ℕ) (value : List UInt8) :
    ParameterList × Option Status :=
  match tpInsert params id (.view value) with
  | .error e => (params, some e)
  | .ok params => (params, none)

/-- The loop of the decoder with the list it fills, which keeps what was read before a failure. -/
def tpDecodeInto : ℕ → List UInt8 → ParameterList → ParameterList × Option FrameError
  | _, [], params => (params, none)
  | 0, _, params => (params, some (quicDecodeFail quicTransportParameterError))
  | room + 1, c@(_ :: _), params =>
    match quicVarintDecode c with
    | .error _ => (params, some frameTruncated)
    | .ok (id, c) =>
      match quicVarintDecodeSized c with
      | .error _ => (params, some frameTruncated)
      | .ok (length, size, c) =>
        if !quicVarintIsMinimal length size then
          (params, some (quicDecodeFail quicTransportParameterError))
        else
          match quicTake c length with
          | .error e => (params, some e)
          | .ok (value, c) => tpDecodeInto room c (params.push id (.view value))

/-- Read a list into another one, which is emptied first (`wt_quic_transport_parameters_decode`). -/
def quicTransportParametersDecodeInto (out : ParameterList) (data : List UInt8) :
    ParameterList × Option FrameError :=
  match tpDecodeInto quicMaxTransportParameters data (quicTransportParametersInit out) with
  | (out, some e) => (out, some e)
  | (out, none) =>
    if (out.entries.map (·.1)).Nodup then (out, none)
    else (out, some (quicDecodeFail quicTransportParameterError))

/-- Write one parameter. -/
def tpWrite (w : Writer) (entry : TransportParameter) : Writer :=
  (quicWriterVarint (quicWriterVarint w entry.id) entry.value.length).put entry.value

/-- Write a list (`wt_quic_transport_parameters_encode`). -/
def quicTransportParametersEncode (w : Writer) (params : ParameterList) : Except Status Writer :=
  if quicMaxTransportParameters < params.entries.length then .error .invalidArgument
  else if ¬(params.entries.map (·.1)).Nodup then .error .invalidArgument
  else
    let w := params.list.entries.foldl tpWrite w
    if w.ok then .ok w else .error .limit

/-- A parameter to add. -/
inductive ParameterAdd
  | integer (id value : ℕ)
  | bytes (id : ℕ) (value : List UInt8)

/-- Add a parameter. -/
def ParameterList.add (params : ParameterList) : ParameterAdd → ParameterList × Option Status
  | .integer id value => quicTransportParametersAddInteger params id value
  | .bytes id value => quicTransportParametersAddBytes params id value

/-- The identifier of a parameter to add. -/
def ParameterAdd.id : ParameterAdd → ℕ
  | .integer id _ => id
  | .bytes id _ => id

/-- The bytes of a parameter to add. -/
def ParameterAdd.value : ParameterAdd → List UInt8
  | .integer _ value => quicVarintEncode value 8
  | .bytes _ value => value

/-- The lists that can be built: by adding to an empty list or to one that was read, whether or not
each parameter was taken. -/
inductive ParameterList.Built : ParameterList → Prop
  | init (params : ParameterList) : (quicTransportParametersInit params).Built
  | decode (out params : ParameterList) (data : List UInt8)
      (h : quicTransportParametersDecodeInto out data = (params, none)) : params.Built
  | add (params : ParameterList) (call : ParameterAdd) (h : params.Built) :
      (params.add call).1.Built

/-! ## Looking up -/

section Insert

variable {params : TransportParameters} {id index : ℕ} {entry : TransportParameter}

/-- A lookup agrees with a scan of the whole list. -/
lemma TransportParameters.Indexed.tpEntry_eq_find (h : params.Indexed) (id : ℕ) :
    tpEntry params id = params.entries.find? (·.id = id) := by
  have hscan : ({ params with sorted := false } : TransportParameters).Indexed :=
    ⟨nofun, h.nodup⟩
  refine Option.ext fun entry => ?_
  rw [h.tpEntry_eq_some, ← hscan.tpEntry_eq_some]
  rfl

/-- The place of a new identifier: nothing in the list has it, and in a sorted list what stands
before is below it and what stands behind is not. -/
lemma tpPlace_ok (h : params.Indexed) (hplace : tpPlace params id = .ok index) :
    (∀ entry ∈ params.entries, entry.id ≠ id) ∧ (params.sorted = true →
      (∀ entry ∈ params.entries.take index, entry.id < id) ∧
        ∀ entry ∈ params.entries.drop index, id ≤ entry.id) := by
  rw [tpPlace] at hplace
  split at hplace
  · rename_i hsorted
    dsimp only at hplace
    split at hplace
    · cases hplace
    rename_i hnone
    cases hplace
    obtain ⟨hlow, hhigh⟩ := LowerBound.search_spec (h.below_first hsorted id)
      (Nat.zero_le params.entries.length) le_rfl le_rfl (fun i hi => absurd hi (Nat.not_lt_zero i))
      (fun i hi hlt => absurd hlt (not_lt.mpr hi))
    refine ⟨fun entry hmem hid => hnone ?_, fun _ => ⟨fun entry hmem => ?_, fun entry hmem => ?_⟩⟩
    · -- An entry with the identifier is the one the search stops at.
      have hentry := h.tpEntry_eq_some.mpr ⟨hmem, hid⟩
      rw [tpEntry, if_pos hsorted, Option.filter_eq_some_iff] at hentry
      rw [hentry.1]
      exact hentry.2
    · obtain ⟨i, hi, rfl⟩ := List.getElem_of_mem hmem
      rw [List.length_take] at hi
      have hbelow := hlow i (hi.trans_le (min_le_left _ _))
      rw [List.getElem?_eq_getElem (hi.trans_le (min_le_right _ _))] at hbelow
      rw [List.getElem_take]
      simpa using hbelow
    · obtain ⟨i, hi, rfl⟩ := List.getElem_of_mem hmem
      rw [List.length_drop] at hi
      have hbelow := hhigh (tpLowerBound params id + i) (Nat.le_add_right _ _) (by omega)
      rw [List.getElem?_eq_getElem (by omega)] at hbelow
      rw [List.getElem_drop]
      simpa using hbelow
  · rename_i hunsorted
    split at hplace
    · cases hplace
    rename_i hnone
    refine ⟨fun entry hmem hid => hnone ?_, fun hsorted => absurd hsorted hunsorted⟩
    exact List.any_eq_true.mpr ⟨entry, hmem, decide_eq_true hid⟩

/-- The list stays one that can be looked up in. -/
lemma TransportParameters.Indexed.insert (h : params.Indexed)
    (hplace : tpPlace params entry.id = .ok index) :
    TransportParameters.Indexed
      ⟨params.entries.take index ++ entry :: params.entries.drop index, params.sorted⟩ := by
  obtain ⟨hnew, hordered⟩ := tpPlace_ok h hplace
  constructor
  · intro hsorted
    obtain ⟨hbefore, hafter⟩ := hordered hsorted
    have hpairwise := List.pairwise_map.mp (h.sorted hsorted)
    rw [← List.take_append_drop index params.entries, List.pairwise_append] at hpairwise
    refine List.pairwise_map.mpr (List.pairwise_append.mpr ⟨hpairwise.1, ?_, ?_⟩)
    · exact List.pairwise_cons.mpr ⟨hafter, hpairwise.2.1⟩
    · intro a ha b hb
      rcases List.mem_cons.mp hb with rfl | hb
      · exact (hbefore a ha).le
      · exact hpairwise.2.2 a ha b hb
  · rw [List.map_append, List.map_cons, List.nodup_middle, ← List.map_append,
      List.take_append_drop, List.nodup_cons]
    refine ⟨fun hmem => ?_, h.nodup⟩
    obtain ⟨other, hother, hid⟩ := List.mem_map.mp hmem
    exact hnew other hother hid

end Insert

/-! ## What a list holds -/

/-- A list that keeps its own bounds: a lookup works in it, it is within its size, and its integers
are in slots that are in use. -/
structure ParameterList.Sound (params : ParameterList) : Prop where
  indexed : params.list.Indexed
  room : params.entries.length ≤ quicMaxTransportParameters
  stored : ∀ entry ∈ params.entries, ∀ index length, entry.2 = .slot index length →
    index < params.integerSlotsUsed ∧ length ≤ 8

section Sound

variable {params params' : ParameterList} {id : ℕ} {value : ParameterValue} {e : Status}

/-- A write to the next slot does not reach what is in use. -/
lemma ParameterList.Sound.writeSlot_list (h : params.Sound) (bytes : List UInt8) :
    (params.writeSlot bytes).list = params.list := by
  rw [list, list, TransportParameters.mk.injEq]
  refine ⟨List.map_congr_left fun entry hmem => ?_, rfl⟩
  rw [TransportParameter.mk.injEq]
  refine ⟨rfl, ?_⟩
  cases hvalue : entry.2 with
  | view => rfl
  | slot index length =>
    obtain ⟨hindex, hlength⟩ := h.stored entry hmem index length hvalue
    refine List.map_congr_left fun k hk => if_neg ?_
    have := List.mem_range.mp hk
    omega

lemma ParameterList.read_writeSlot (params : ParameterList) (bytes : List UInt8) :
    (params.writeSlot bytes).read (.slot params.integerSlotsUsed bytes.length) = bytes := by
  refine List.ext_getElem (by simp [read]) fun k hk hbytes => ?_
  simp only [read, List.getElem_map, List.getElem_range]
  refine (if_pos ⟨by omega, by omega⟩).trans ?_
  rw [Nat.add_sub_cancel_left, List.getD_eq_getElem?_getD, List.getElem?_eq_getElem hbytes]
  rfl

/-- A value that was put into the list: what the list holds afterwards. -/
lemma tpInsert_ok (hinsert : tpInsert params id value = .ok params') :
    params.entries.length < quicMaxTransportParameters ∧ ∃ index,
      tpPlace params.list id = .ok index ∧ params' = { params with
        entries := params.entries.take index ++ (id, value) :: params.entries.drop index } := by
  rw [tpInsert] at hinsert
  split at hinsert
  · cases hinsert
  rename_i hroom
  split at hinsert
  · cases hinsert
  rename_i index hplace
  cases hinsert
  exact ⟨not_le.mp hroom, index, hplace, rfl⟩

/-- A value that is put into the list keeps it sound, when its slot is counted as in use. -/
lemma ParameterList.Sound.insert (h : params.Sound)
    (hinsert : tpInsert params id value = .ok params') {used : ℕ} (hused : params.integerSlotsUsed ≤ used)
    (hvalue : ∀ index length, value = .slot index length → index < used ∧ length ≤ 8) :
    ({ params' with integerSlotsUsed := used } : ParameterList).Sound := by
  obtain ⟨hroom, index, hplace, rfl⟩ := tpInsert_ok hinsert
  refine ⟨?_, ?_, fun entry hmem => ?_⟩
  · have hindexed := @TransportParameters.Indexed.insert params.list index ⟨id, params.read value⟩
      h.indexed hplace
    simp only [list, List.map_append, List.map_cons, List.map_take, List.map_drop] at hindexed ⊢
    exact hindexed
  · simp only [List.length_append, List.length_cons, List.length_take, List.length_drop]
    omega
  · rcases List.mem_append.mp hmem with hbefore | hmem
    · intro index length hslot
      obtain ⟨hindex, hlength⟩ := h.stored entry (List.mem_of_mem_take hbefore) index length hslot
      exact ⟨hindex.trans_le hused, hlength⟩
    rcases List.mem_cons.mp hmem with rfl | hafter
    · exact hvalue
    · intro index length hslot
      obtain ⟨hindex, hlength⟩ := h.stored entry (List.mem_of_mem_drop hafter) index length hslot
      exact ⟨hindex.trans_le hused, hlength⟩

lemma ParameterList.Sound.writeSlot (h : params.Sound) (bytes : List UInt8) :
    (params.writeSlot bytes).Sound :=
  ⟨by rw [h.writeSlot_list]; exact h.indexed, h.room, h.stored⟩

lemma length_quicVarintEncode_le (v : ℕ) : (quicVarintEncode v 8).length ≤ 8 := by
  simp only [quicVarintEncode]
  split_ifs <;> simp

/-- Adding a parameter keeps a list sound, taken or not. -/
lemma ParameterList.Sound.add (h : params.Sound) (call : ParameterAdd) :
    (params.add call).1.Sound := by
  cases call with
  | integer id v =>
    rw [ParameterList.add, quicTransportParametersAddInteger]
    split
    · exact h
    dsimp only
    split
    · exact h
    have hslot := h.writeSlot (quicVarintEncode v 8)
    split
    · exact hslot
    · rename_i inserted hinsert
      obtain ⟨-, index, -, rfl⟩ := tpInsert_ok hinsert
      refine hslot.insert hinsert (Nat.le_succ _) fun index length hvalue => ?_
      cases hvalue
      exact ⟨Nat.lt_succ_self _, length_quicVarintEncode_le v⟩
  | bytes id v =>
    rw [ParameterList.add, quicTransportParametersAddBytes]
    split
    · exact h
    · rename_i inserted hinsert
      have hinserted := h.insert hinsert le_rfl (fun index length hvalue => nomatch hvalue)
      obtain ⟨-, index, -, rfl⟩ := tpInsert_ok hinsert
      exact hinserted

/-- A parameter that is not taken leaves the list as it is. -/
lemma ParameterList.Sound.add_error (h : params.Sound) {call : ParameterAdd}
    (hadd : params.add call = (params', some e)) : params'.list = params.list := by
  cases call with
  | integer id v =>
    rw [ParameterList.add, quicTransportParametersAddInteger] at hadd
    split at hadd
    · cases hadd
      rfl
    dsimp only at hadd
    split at hadd
    · cases hadd
      rfl
    split at hadd
    · cases hadd
      exact h.writeSlot_list _
    · cases hadd
  | bytes id v =>
    rw [ParameterList.add, quicTransportParametersAddBytes] at hadd
    split at hadd
    · cases hadd
      rfl
    · cases hadd

end Sound

/-! ## Reading -/

section Reading

variable {params params' : ParameterList} {data : List UInt8}

lemma ParameterList.push_list (params : ParameterList) (id : ℕ) (value : List UInt8) :
    (params.push id (.view value)).list = params.list.add ⟨id, value⟩ := by
  have hentries : (params.push id (.view value)).list.entries =
      params.list.entries ++ [⟨id, value⟩] := by
    simp only [list, push, List.map_append, List.map_cons, List.map_nil]
    rfl
  have hsorted : (params.push id (.view value)).list.sorted =
      (params.list.add ⟨id, value⟩).sorted := by
    simp only [list, push, TransportParameters.add, List.getLast?_map, Option.any_map]
  exact TransportParameters.mk.injEq .. ▸ ⟨hentries, hsorted⟩

/-- The decoder fills the list with what the reader of the bytes finds. -/
lemma tpDecodeFrom_list (room : ℕ) (c : List UInt8) (params : ParameterList) :
    tpDecodeFrom room c params.list =
      match tpDecodeInto room c params with
      | (params', none) => .ok params'.list
      | (_, some e) => .error e := by
  induction room generalizing c params with
  | zero =>
    cases c with
    | nil => rfl
    | cons => rfl
  | succ room ih =>
    cases c with
    | nil => rfl
    | cons first c =>
      rw [tpDecodeFrom, tpDecodeInto]
      cases quicVarintDecode (first :: c) with
      | error => rfl
      | ok read =>
        obtain ⟨id, c⟩ := read
        dsimp only
        cases quicVarintDecodeSized c with
        | error => rfl
        | ok read =>
          obtain ⟨length, size, c⟩ := read
          dsimp only
          split
          · rfl
          cases quicTake c length with
          | error => rfl
          | ok read =>
            obtain ⟨value, c⟩ := read
            dsimp only
            rw [← ParameterList.push_list]
            exact ih c _

/-- What the decoder keeps: the size of the list and its values, which are views. -/
lemma tpDecodeInto_keeps {room : ℕ} {c : List UInt8} (hviews : ∀ entry ∈ params.entries,
    ∀ index length, entry.2 ≠ .slot index length)
    (hroom : params.entries.length + room ≤ quicMaxTransportParameters) :
    let params' := (tpDecodeInto room c params).1
    params'.entries.length ≤ quicMaxTransportParameters ∧
      ∀ entry ∈ params'.entries, ∀ index length, entry.2 ≠ .slot index length := by
  have hstop : params.entries.length ≤ quicMaxTransportParameters := by omega
  induction room generalizing c params with
  | zero =>
    cases c with
    | nil => exact ⟨hstop, hviews⟩
    | cons => exact ⟨hstop, hviews⟩
  | succ room ih =>
    cases c with
    | nil => exact ⟨hstop, hviews⟩
    | cons first c =>
      rw [tpDecodeInto]
      split
      · exact ⟨hstop, hviews⟩
      split
      · exact ⟨hstop, hviews⟩
      split
      · exact ⟨hstop, hviews⟩
      split
      · exact ⟨hstop, hviews⟩
      rename_i id _ _ _ _ _ _ _ _ _ value _ _
      have hlength : (params.push id (.view value)).entries.length = params.entries.length + 1 := by
        simp [ParameterList.push]
      refine ih (fun entry hmem index length => ?_) (by omega) (by omega)
      rcases List.mem_append.mp hmem with hmem | hmem
      · exact hviews entry hmem index length
      · rw [List.mem_singleton.mp hmem]
        exact nofun

/-- Reading into a list answers as reading the bytes does. -/
lemma quicTransportParametersDecode_list (out : ParameterList) (data : List UInt8) :
    quicTransportParametersDecode data =
      match quicTransportParametersDecodeInto out data with
      | (params, none) => .ok params.list
      | (_, some e) => .error e := by
  have hread := tpDecodeFrom_list quicMaxTransportParameters data (quicTransportParametersInit out)
  rw [quicTransportParametersDecode, quicTransportParametersDecodeInto]
  change tpDecodeFrom quicMaxTransportParameters data {} = _ at hread
  rw [hread]
  obtain ⟨params, failure⟩ := tpDecodeInto quicMaxTransportParameters data
    (quicTransportParametersInit out)
  cases failure with
  | some e => rfl
  | none =>
    have hids : params.list.entries.map (·.id) = params.entries.map (·.1) := by
      simp [ParameterList.list, Function.comp_def]
    dsimp only
    rw [hids]
    split
    · rfl
    · rfl

lemma ParameterList.sound_of_decode {out : ParameterList}
    (h : quicTransportParametersDecodeInto out data = (params, none)) : params.Sound := by
  have hlist := quicTransportParametersDecode_list out data
  rw [h] at hlist
  have hkeeps := @tpDecodeInto_keeps (quicTransportParametersInit out) quicMaxTransportParameters
    data (fun entry hmem => absurd hmem List.not_mem_nil) (Nat.le_of_eq (Nat.zero_add _))
  have hloop : (tpDecodeInto quicMaxTransportParameters data
      (quicTransportParametersInit out)).1 = params := by
    rw [quicTransportParametersDecodeInto] at h
    split at h
    · cases h
    rename_i heq
    rw [heq]
    split at h
    · exact congrArg Prod.fst h
    · cases h
  rw [hloop] at hkeeps
  exact ⟨quicTransportParametersDecode_indexed hlist, hkeeps.1,
    fun entry hmem index length hslot => absurd hslot (hkeeps.2 entry hmem index length)⟩

/-- Every list that can be built is sound. -/
theorem ParameterList.Built.sound (h : params.Built) : params.Sound := by
  induction h with
  | init _ =>
    exact ⟨⟨fun _ => List.Pairwise.nil, List.nodup_nil⟩, Nat.zero_le _,
      fun entry hmem => absurd hmem List.not_mem_nil⟩
  | decode out params data hread => exact ParameterList.sound_of_decode hread
  | add params call _ ih => exact ih.add call

end Reading

/-! ## Adding -/

section Adding

variable {params params' : ParameterList} {entry : TransportParameter} {call : ParameterAdd}

/-- What a list holds once a value was put into it. -/
lemma ParameterList.Sound.mem_insert (h : params.Sound) {id : ℕ} {value : ParameterValue}
    (hinsert : tpInsert params id value = .ok params') :
    (∀ entry ∈ params.list.entries, entry.id ≠ id) ∧ (entry ∈ params'.list.entries ↔
      entry = ⟨id, params.read value⟩ ∨ entry ∈ params.list.entries) := by
  obtain ⟨-, index, hplace, rfl⟩ := tpInsert_ok hinsert
  refine ⟨(tpPlace_ok h.indexed hplace).1, ?_⟩
  have hmem : ∀ entries : List TransportParameter, ∀ new : TransportParameter,
      entry ∈ entries.take index ++ new :: entries.drop index ↔ entry = new ∨ entry ∈ entries := by
    intro entries new
    rw [List.mem_append, List.mem_cons, or_left_comm, ← List.mem_append, List.take_append_drop]
  rw [← hmem]
  simp only [list, List.map_append, List.map_cons, List.map_take, List.map_drop]
  exact Iff.rfl

/-- What a list holds once a parameter was taken. -/
lemma ParameterList.Sound.mem_add (h : params.Sound) (hadd : params.add call = (params', none))
    (entry : TransportParameter) :
    (∀ entry ∈ params.list.entries, entry.id ≠ call.id) ∧ (entry ∈ params'.list.entries ↔
      entry = ⟨call.id, call.value⟩ ∨ entry ∈ params.list.entries) := by
  cases call with
  | integer id v =>
    rw [ParameterList.add, quicTransportParametersAddInteger] at hadd
    split at hadd
    · cases hadd
    dsimp only at hadd
    split at hadd
    · cases hadd
    split at hadd
    · cases hadd
    rename_i inserted hok
    cases hadd
    have hheld := @ParameterList.Sound.mem_insert _ _ entry (h.writeSlot _) _ _ hok
    rw [params.writeSlot_integerSlotsUsed, params.read_writeSlot, h.writeSlot_list] at hheld
    exact hheld
  | bytes id v =>
    rw [ParameterList.add, quicTransportParametersAddBytes] at hadd
    split at hadd
    · cases hadd
    rename_i inserted hok
    cases hadd
    exact h.mem_insert hok

/-- **Adding is an update of the map.** A parameter that was taken is found with its bytes, and
every other identifier as before. -/
theorem ParameterList.Built.get_add (h : params.Built) (hadd : params.add call = (params', none))
    (id : ℕ) : quicTransportParametersGet params'.list id =
      if id = call.id then some call.value else quicTransportParametersGet params.list id := by
  have hafter : params'.Sound := by
    have hsound := (h.add _ call).sound
    rwa [hadd] at hsound
  refine Option.ext fun value => ?_
  obtain ⟨hnew, hmem⟩ := h.sound.mem_add hadd ⟨id, value⟩
  rw [hafter.indexed.get_eq_some, hmem]
  split
  · rename_i hid
    have hold : (⟨id, value⟩ : TransportParameter) ∉ params.list.entries := fun hmem =>
      hnew _ hmem hid
    subst hid
    simp [hold, eq_comm]
  · rename_i hid
    rw [h.sound.indexed.get_eq_some, TransportParameter.mk.injEq]
    simp [hid]

/-- **A list takes a value for an identifier once.** Whatever is added to a list, a lookup finds what
it found before, and otherwise what the first call for the identifier that was taken had. -/
theorem parameters_taken_once (h : params.Built) (calls : List ParameterAdd) (id : ℕ) :
    let (params', answers) := Answering.run (fun call params => params.add call) calls params
    quicTransportParametersGet params'.list id = (quicTransportParametersGet params.list id).or
      (((calls.zip answers).find? fun c => c.1.id = id ∧ c.2 = none).map (·.1.value)) := by
  induction calls generalizing params with
  | nil => exact (Option.or_none ..).symm
  | cons call calls ih =>
    have hlater := ih (h.add _ call)
    rcases hadd : params.add call with ⟨after, answer⟩
    rw [hadd] at hlater
    simp only [Answering.run, hadd, List.zip_cons_cons]
    refine hlater.trans ?_
    cases answer with
    | some e =>
      rw [h.sound.add_error hadd, List.find?_cons_of_neg (by simp)]
    | none =>
      rw [h.get_add hadd]
      by_cases hid : id = call.id
      · -- It was not there, or the call would not have been taken.
        have hnew : quicTransportParametersGet params.list id = none := by
          refine Option.eq_none_iff_forall_ne_some.mpr fun value hvalue => ?_
          have hheld := h.sound.indexed.get_eq_some.mp hvalue
          exact (h.sound.mem_add hadd ⟨id, value⟩).1 _ hheld hid
        rw [if_pos hid, hnew, List.find?_cons_of_pos (by simp [hid])]
        rfl
      · rw [if_neg hid, List.find?_cons_of_neg (by simp [Ne.symm hid])]

/-- An identifier that is added again keeps its first value. -/
theorem parameters_taken_once_again :
    quicTransportParametersGet (Answering.run (fun call params => ParameterList.add params call)
      [.integer 1 7, .bytes 1 [8]] {}).1.list 1 = some [7] :=
  (parameters_taken_once (.init {}) [.integer 1 7, .bytes 1 [8]] 1).trans (by decide)

end Adding

/-! ## Writing -/

/-- The bytes of a parameter. -/
def TransportParameter.wire (entry : TransportParameter) : List UInt8 :=
  quicVarintBytes entry.id ++ (quicVarintBytes entry.value.length ++ entry.value)

/-- A parameter whose integers have an encoding. -/
def TransportParameter.Sized (entry : TransportParameter) : Prop :=
  entry.id ≤ quicVarintMax ∧ entry.value.length ≤ quicVarintMax

section Writing

variable {entry : TransportParameter} {entries : List TransportParameter} {w : Writer}

/-- What is left behind when a parameter was written. -/
lemma tpWrite_ok (h : (tpWrite w entry).ok = true) :
    w.ok = true ∧ entry.Sized ∧ (tpWrite w entry).bytes = w.bytes ++ entry.wire := by
  obtain ⟨hlength, hvalueBytes⟩ := Writer.put_ok h
  obtain ⟨hid, hlengthLe, hlengthBytes⟩ := quicWriterVarint_ok hlength
  obtain ⟨hok, hidLe, hidBytes⟩ := quicWriterVarint_ok hid
  refine ⟨hok, ⟨hidLe, hlengthLe⟩, ?_⟩
  rw [TransportParameter.wire, tpWrite, hvalueBytes, hlengthBytes, hidBytes, List.append_assoc,
    List.append_assoc]

/-- What is left behind when all parameters were written. -/
lemma tpWriteAll_ok (h : (entries.foldl tpWrite w).ok = true) :
    w.ok = true ∧ (∀ entry ∈ entries, entry.Sized) ∧
      (entries.foldl tpWrite w).bytes = w.bytes ++ entries.flatMap TransportParameter.wire := by
  induction entries generalizing w with
  | nil => exact ⟨h, fun entry hmem => absurd hmem List.not_mem_nil, (List.append_nil _).symm⟩
  | cons entry entries ih =>
    obtain ⟨hwrite, hsized, hbytes⟩ := @ih (tpWrite w entry) h
    obtain ⟨hok, hentry, hwritten⟩ := tpWrite_ok hwrite
    refine ⟨hok, List.forall_mem_cons.mpr ⟨hentry, hsized⟩, hbytes.trans ?_⟩
    rw [hwritten, List.flatMap_cons, List.append_assoc]

lemma tpWriteAll_cap : (entries.foldl tpWrite w).cap = w.cap := by
  have hvarint : ∀ (w : Writer) (v : ℕ), (quicWriterVarint w v).cap = w.cap := by
    intro w v
    simp only [quicWriterVarint]
    split
    · rfl
    · exact Writer.put_cap w _
  induction entries generalizing w with
  | nil => rfl
  | cons entry entries ih =>
    refine (@ih (tpWrite w entry)).trans ?_
    rw [tpWrite, Writer.put_cap, hvarint, hvarint]

lemma tpWriteAll_of_fits (hok : w.ok = true) (hsized : ∀ entry ∈ entries, entry.Sized)
    (hfits : w.bytes.length + (entries.flatMap TransportParameter.wire).length ≤ w.cap) :
    (entries.foldl tpWrite w).ok = true := by
  induction entries generalizing w with
  | nil => exact hok
  | cons entry entries ih =>
    obtain ⟨hentry, hsized⟩ := List.forall_mem_cons.mp hsized
    rw [List.flatMap_cons, List.length_append] at hfits
    have hwrite : tpWrite w entry =
        w.putAll [quicVarintBytes entry.id, quicVarintBytes entry.value.length, entry.value] := by
      rw [tpWrite, quicWriterVarint_of_le hentry.1, quicWriterVarint_of_le hentry.2]
      rfl
    have hwire : [quicVarintBytes entry.id, quicVarintBytes entry.value.length,
        entry.value].flatten = entry.wire := by
      simp [TransportParameter.wire]
    have hput : (tpWrite w entry).ok = true := by
      rw [hwrite, Writer.putAll_ok_iff _ hok, hwire]
      omega
    have hcap : (tpWrite w entry).cap = w.cap := @tpWriteAll_cap [entry] w
    refine @ih (tpWrite w entry) hput hsized ?_
    rw [(tpWrite_ok hput).2.2, hcap, List.length_append]
    omega

lemma tpDecodeFrom_wire {room : ℕ} {params : TransportParameters}
    (hsized : ∀ entry ∈ entries, entry.Sized) (hroom : entries.length ≤ room) :
    ∃ params', tpDecodeFrom room (entries.flatMap TransportParameter.wire) params = .ok params' ∧
      params'.entries = params.entries ++ entries := by
  induction entries generalizing room params with
  | nil =>
    refine ⟨params, ?_, (List.append_nil _).symm⟩
    cases room with
    | zero => rfl
    | succ => rfl
  | cons entry entries ih =>
    obtain ⟨⟨hid, hlength⟩, hsized⟩ := List.forall_mem_cons.mp hsized
    cases room with
    | zero => exact absurd hroom (Nat.not_succ_le_zero _)
    | succ room =>
      obtain ⟨params', hread, hentries⟩ := @ih room (params.add entry) hsized
        (Nat.le_of_succ_le_succ hroom)
      refine ⟨params', ?_, by rw [hentries, TransportParameters.add]; simp⟩
      rw [List.flatMap_cons, TransportParameter.wire, List.append_assoc, List.append_assoc]
      obtain ⟨first, bytes, hbytes⟩ := List.exists_cons_of_ne_nil (quicVarintBytes_ne_nil hid)
      rw [hbytes, List.cons_append, tpDecodeFrom, ← List.cons_append, ← hbytes,
        quicVarintDecode_bytes hid]
      dsimp only
      rw [quicVarintDecodeSized_bytes hlength]
      dsimp only
      rw [if_neg (by simp [quicVarintIsMinimal]), quicTake_append]
      exact hread

end Writing

/-! ## The codec -/

/-- The list codec keeps every list that can be built. No identifier stands twice, and a lookup
agrees with a scan for every identifier. A parameter that is not taken leaves the list as it is.
What is encoded is read back as the same list, whatever list it is read into, and the encoder
answers success exactly when every identifier and every length has an encoding and there is
room. -/
theorem parameterList_codec {params : ParameterList} (h : params.Built) :
    (params.list.entries.map TransportParameter.id).Nodup ∧
    (∀ id, tpEntry params.list id = params.list.entries.find? (·.id = id)) ∧
    (∀ call params' e, params.add call = (params', some e) → params'.list = params.list) ∧
    (∀ w w' out, quicTransportParametersEncode w params = .ok w' →
      ∃ bytes decoded, w'.bytes = w.bytes ++ bytes ∧
        quicTransportParametersDecodeInto out bytes = (decoded, none) ∧
        decoded.list.entries = params.list.entries ∧
        ∀ id, quicTransportParametersGet decoded.list id =
          quicTransportParametersGet params.list id) ∧
    ∀ w, w.ok = true → ((∃ w', quicTransportParametersEncode w params = .ok w') ↔
      (∀ entry ∈ params.list.entries, entry.Sized) ∧ w.bytes.length +
        (params.list.entries.flatMap TransportParameter.wire).length ≤ w.cap) := by
  have hsound := h.sound
  have hids : params.list.entries.map TransportParameter.id = params.entries.map (·.1) := by
    simp [ParameterList.list, Function.comp_def]
  have hlength : params.list.entries.length = params.entries.length := List.length_map _
  have hencode : ∀ w, quicTransportParametersEncode w params =
      if (params.list.entries.foldl tpWrite w).ok then
        .ok (params.list.entries.foldl tpWrite w) else .error .limit := by
    intro w
    rw [quicTransportParametersEncode, if_neg (not_lt.mpr hsound.room),
      if_neg (not_not.mpr (hids ▸ hsound.indexed.nodup))]
  refine ⟨hsound.indexed.nodup, hsound.indexed.tpEntry_eq_find,
    fun call params' e hadd => hsound.add_error hadd, fun w w' out hw => ?_, fun w hw => ?_⟩
  · rw [hencode] at hw
    split at hw
    swap
    · cases hw
    rename_i hok
    cases hw
    obtain ⟨-, hsized, hbytes⟩ := tpWriteAll_ok hok
    obtain ⟨read, hread, hentries⟩ := @tpDecodeFrom_wire params.list.entries
      quicMaxTransportParameters {} hsized (hlength ▸ hsound.room)
    have hdecode : quicTransportParametersDecode
        (params.list.entries.flatMap TransportParameter.wire) = .ok read := by
      rw [quicTransportParametersDecode, hread]
      exact if_pos (hentries ▸ hsound.indexed.nodup)
    have hlist := quicTransportParametersDecode_list out
      (params.list.entries.flatMap TransportParameter.wire)
    rw [hdecode] at hlist
    split at hlist
    swap
    · cases hlist
    rename_i decoded hinto
    cases hlist
    refine ⟨_, decoded, hbytes, hinto, hentries, fun id => ?_⟩
    rw [quicTransportParametersGet, quicTransportParametersGet,
      (quicTransportParametersDecode_indexed hdecode).tpEntry_eq_find,
      hsound.indexed.tpEntry_eq_find, hentries]
    rfl
  · rw [hencode]
    constructor
    · rintro ⟨w', hw'⟩
      split at hw'
      swap
      · cases hw'
      rename_i hok
      obtain ⟨-, hsized, hbytes⟩ := tpWriteAll_ok hok
      refine ⟨hsized, ?_⟩
      have hfits := (params.list.entries.foldl tpWrite w).fits
      rwa [hbytes, List.length_append, tpWriteAll_cap] at hfits
    · rintro ⟨hsized, hfits⟩
      exact ⟨_, if_pos (tpWriteAll_of_fits hw hsized hfits)⟩

/-- A list of one integer and one empty value, in the order of their identifiers. -/
theorem parameterList_codec_two :
    let params := ((quicTransportParametersInit {}).add (.bytes tpDisableActiveMigration [])).1
    (tpEntry (params.add (.integer tpMaxIdleTimeout 7)).1.list tpMaxIdleTimeout).map (·.value) =
      some [7] := by
  intro params
  have hbuilt := (ParameterList.Built.init {}).add _ (.bytes tpDisableActiveMigration [])
  rw [(parameterList_codec (hbuilt.add _ (.integer tpMaxIdleTimeout 7))).2.1]
  decide

/-- Reading empties the list first, so that one that fails leaves another list; and an identifier
that was added may have no encoding. -/
theorem quicTransportParametersDecodeInto_starts_over :
    (∃ params : ParameterList, params.Built ∧ ∃ data out e,
      quicTransportParametersDecodeInto params data = (out, some e) ∧ out.list ≠ params.list) ∧
    ∃ params : ParameterList, params.Built ∧
      ∀ w, quicTransportParametersEncode w params = .error .limit := by
  refine ⟨⟨_, .add _ (.bytes 1 []) (.init {}), [0x01], _, _, rfl, by decide⟩,
    _, .add _ (.bytes (2 ^ 62) []) (.init {}), fun w => ?_⟩
  have hwrite : ¬([⟨2 ^ 62, []⟩].foldl tpWrite w).ok = true := by
    intro hok
    have hsized := (tpWriteAll_ok hok).2.1 _ (List.mem_singleton.mpr rfl)
    exact absurd hsized.1 (by decide)
  change (if ([⟨2 ^ 62, []⟩].foldl tpWrite w).ok = true then
    Except.ok ([⟨2 ^ 62, []⟩].foldl tpWrite w) else Except.error Status.limit) = _
  exact if_neg hwrite

end WebTransport
