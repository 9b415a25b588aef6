import WebTransport.Session.CapsuleCuts

/-!
# Capsules that are written and read back

Every writer of `webtransport/capsule.c` beside the reader. The writers check the ceilings of
what they write themselves: the length of a close reason, the counts of streams and the range of
an integer. A capsule is its type, the length of its value and the value, so once a writer has put
those three down, reading is the same for all of them; what is left is that the parser takes the
value.
-/

namespace WebTransport

def capsuleDataBlocked : ℕ := 0x190b4d41

/-! ## The other writers -/

/-- Write any capsule. -/
def webtransportCapsuleEncode (w : Writer) (capsule : Capsule) : Writer × Status :=
  if capsule.type > quicVarintMax then (w, .invalidArgument)
  else if capsule.value.length > quicVarintMax then (w, .invalidArgument)
  else
    let sized := quicWriterVarint (quicWriterVarint w capsule.type) capsule.value.length
    let written := if capsule.value = [] then sized else sized.put capsule.value
    (written, writerStatus written)

/-- A capsule of one integer (`write_one`). -/
def capsuleWriteOne (w : Writer) (type value : ℕ) : Writer × Status :=
  if type > quicVarintMax ∨ value > quicVarintMax then (w, .invalidArgument)
  else
    -- The length is the value's own encoded size.
    let sized := quicWriterVarint (quicWriterVarint w type) (quicVarintSize value)
    let written := quicWriterVarint sized value
    (written, writerStatus written)

/-- A capsule of two integers, which are written into a buffer of their own first
(`write_two`). -/
def capsuleWriteTwo (w : Writer) (type first second : ℕ) : Writer × Status :=
  let inner := quicWriterVarint (quicWriterVarint (writerInit 16) first) second
  if !inner.ok then (w, .limit)
  else
    let sized := quicWriterVarint (quicWriterVarint w type) inner.bytes.length
    let written := sized.put inner.bytes
    (written, writerStatus written)

def webtransportMaxDataWrite (w : Writer) (maximum : ℕ) : Writer × Status :=
  capsuleWriteOne w capsuleMaxData maximum

def webtransportMaxStreamDataWrite (w : Writer) (streamId maximum : ℕ) : Writer × Status :=
  capsuleWriteTwo w capsuleMaxStreamData streamId maximum

def webtransportMaxStreamsWrite (w : Writer) (bidirectional : Bool) (maximum : ℕ) :
    Writer × Status :=
  if ¬maximum ≤ webtransportMaxStreamsValue then (w, .limit)
  else
    capsuleWriteOne w (if bidirectional then capsuleMaxStreamsBidi else capsuleMaxStreamsUni)
      maximum

def webtransportDataBlockedWrite (w : Writer) (maximum : ℕ) : Writer × Status :=
  capsuleWriteOne w capsuleDataBlocked maximum

def webtransportStreamDataBlockedWrite (w : Writer) (streamId maximum : ℕ) : Writer × Status :=
  capsuleWriteTwo w capsuleStreamDataBlocked streamId maximum

def webtransportStreamsBlockedWrite (w : Writer) (bidirectional : Bool) (maximum : ℕ) :
    Writer × Status :=
  if ¬maximum ≤ webtransportMaxStreamsValue then (w, .limit)
  else
    capsuleWriteOne w
      (if bidirectional then capsuleStreamsBlockedBidi else capsuleStreamsBlockedUni) maximum

/-! ## The other parsers -/

/-- Two integers, exactly, the stream first (`parse_two`). -/
def capsuleParseTwo (capsule : Capsule) (expectedType : ℕ) : Except CapsuleReply (ℕ × ℕ) :=
  if capsule.type ≠ expectedType then .error (.invalidArgument, Http3Error.messageError.code)
  else
    match quicVarintDecode capsule.value with
    | .error _ => .error CapsuleReply.malformed
    | .ok (first, c) =>
      match quicVarintDecode c with
      | .error _ => .error CapsuleReply.malformed
      | .ok (second, rest) =>
        if rest ≠ [] then .error CapsuleReply.malformed else .ok (first, second)

def webtransportDataBlockedParse (capsule : Capsule) : Except CapsuleReply ℕ :=
  capsuleParseOne capsule capsuleDataBlocked

def webtransportMaxStreamDataParse (capsule : Capsule) : Except CapsuleReply (ℕ × ℕ) :=
  capsuleParseTwo capsule capsuleMaxStreamData

def webtransportStreamDataBlockedParse (capsule : Capsule) : Except CapsuleReply (ℕ × ℕ) :=
  capsuleParseTwo capsule capsuleStreamDataBlocked

/-! ## A capsule on the wire -/

section Wire

variable {w : Writer} {capsule : Capsule}

/-- A capsule on the wire. -/
def Capsule.wire (capsule : Capsule) : List UInt8 :=
  quicVarintBytes capsule.type ++ (quicVarintBytes capsule.value.length ++ capsule.value)

/-- A capsule whose type and length are integers of the wire. -/
structure Capsule.Sized (capsule : Capsule) : Prop where
  type : capsule.type ≤ quicVarintMax
  length : capsule.value.length ≤ quicVarintMax

/-- A capsule is read from its bytes, whatever follows them. -/
lemma webtransportCapsuleDecode_wire (hsized : capsule.Sized) {maxLength : ℕ}
    (hroom : capsule.value.length ≤ maxLength) (rest : List UInt8) :
    webtransportCapsuleDecode maxLength (capsule.wire ++ rest) = .ok (capsule, rest) := by
  have hshort : ¬(capsule.value ++ rest).length < capsule.value.length := by
    rw [List.length_append]
    omega
  rw [webtransportCapsuleDecode, Capsule.wire, List.append_assoc, List.append_assoc,
    quicVarintDecode_bytes hsized.type]
  dsimp only
  rw [quicVarintDecode_bytes hsized.length]
  dsimp only
  rw [if_neg (not_lt.mpr hroom), if_neg hshort, List.take_left, List.drop_left]

lemma webtransportCapsuleDecode_part (hsized : capsule.Sized) {maxLength : ℕ}
    (hroom : capsule.value.length ≤ maxLength) {part more : List UInt8}
    (hpart : part ++ more = capsule.wire) (hmore : more ≠ []) :
    webtransportCapsuleDecode maxLength part = .error CapsuleReply.short := by
  have hwhole := webtransportCapsuleDecode_wire hsized hroom []
  rw [List.append_nil, ← hpart] at hwhole
  exact (stable_webtransportCapsuleDecode maxLength).short_of_part hwhole hmore

lemma ok_of_writerStatus (h : writerStatus w = .ok) : w.ok = true := by
  unfold writerStatus at h
  split_ifs at h with hok
  exact hok

/-- What a writer put down, when it answered that all is well. -/
def Writes (w : Writer) (r : Writer × Status) (capsule : Capsule) : Prop :=
  r.2 = .ok → capsule.Sized ∧ r.1.bytes = w.bytes ++ capsule.wire

/-- A type and a length that were accepted, with the value put behind them. -/
lemma writes_put {type : ℕ} {value : List UInt8} {out : Writer}
    (hout : out.ok = true →
      (quicWriterVarint (quicWriterVarint w type) value.length).ok = true ∧
        out.bytes = (quicWriterVarint (quicWriterVarint w type) value.length).bytes ++ value) :
    Writes w (out, writerStatus out) ⟨type, value⟩ := by
  intro hok
  obtain ⟨hsized, hbytes⟩ := hout (ok_of_writerStatus hok)
  obtain ⟨htyped, hlength, hsizedBytes⟩ := quicWriterVarint_ok hsized
  obtain ⟨-, htype, htypedBytes⟩ := quicWriterVarint_ok htyped
  refine ⟨⟨htype, hlength⟩, ?_⟩
  rw [hbytes, hsizedBytes, htypedBytes, Capsule.wire, List.append_assoc, List.append_assoc]

lemma put_or_nothing {value : List UInt8}
    (hok : (if value = [] then w else w.put value).ok = true) :
    w.ok = true ∧ (if value = [] then w else w.put value).bytes = w.bytes ++ value := by
  by_cases hnil : value = []
  · rw [if_pos hnil] at hok ⊢
    rw [hnil, List.append_nil]
    exact ⟨hok, rfl⟩
  · rw [if_neg hnil] at hok ⊢
    exact Writer.put_ok hok

lemma writes_capsuleEncode (w : Writer) (capsule : Capsule) :
    Writes w (webtransportCapsuleEncode w capsule) capsule := by
  rw [webtransportCapsuleEncode]
  by_cases htype : capsule.type > quicVarintMax
  · rw [if_pos htype]
    exact nofun
  · by_cases hlength : capsule.value.length > quicVarintMax
    · rw [if_neg htype, if_pos hlength]
      exact nofun
    · rw [if_neg htype, if_neg hlength]
      exact writes_put put_or_nothing

lemma writes_capsuleWriteOne (w : Writer) (type value : ℕ) :
    Writes w (capsuleWriteOne w type value) ⟨type, quicVarintBytes value⟩ := by
  rw [capsuleWriteOne]
  split_ifs with hrange
  · exact nofun
  · have hvalue : value ≤ quicVarintMax := not_lt.mp fun h => hrange (.inr h)
    refine writes_put fun hok => ?_
    rw [length_quicVarintBytes hvalue]
    obtain ⟨hsized, -, hbytes⟩ := quicWriterVarint_ok hok
    exact ⟨hsized, hbytes⟩

/-- The two integers of a capsule are in range when it is written. -/
lemma writes_capsuleWriteTwo (w : Writer) (type first second : ℕ) :
    Writes w (capsuleWriteTwo w type first second)
        ⟨type, quicVarintBytes first ++ quicVarintBytes second⟩ ∧
      ((capsuleWriteTwo w type first second).2 = .ok →
        first ≤ quicVarintMax ∧ second ≤ quicVarintMax) := by
  rw [capsuleWriteTwo]
  dsimp only
  split_ifs with hinner
  · exact ⟨nofun, nofun⟩
  · have hok : (quicWriterVarint (quicWriterVarint (writerInit 16) first) second).ok = true := by
      simpa using hinner
    obtain ⟨hfirst, hsecond, hbytes⟩ := quicWriterVarint_ok hok
    obtain ⟨-, hrange, hstart⟩ := quicWriterVarint_ok hfirst
    rw [hstart] at hbytes
    refine ⟨?_, fun _ => ⟨hrange, hsecond⟩⟩
    have hvalue : (quicWriterVarint (quicWriterVarint (writerInit 16) first) second).bytes =
        quicVarintBytes first ++ quicVarintBytes second := hbytes
    rw [hvalue]
    exact writes_put Writer.put_ok

lemma writes_closeSession (w : Writer) (errorCode : ℕ) (reason : List UInt8) :
    Writes w (webtransportCloseSessionWrite w errorCode reason)
        ⟨capsuleCloseWebtransportSession, BigEndian.bytes 4 errorCode ++ reason⟩ ∧
      ((webtransportCloseSessionWrite w errorCode reason).2 = .ok →
        reason.length ≤ capsuleCloseMaxReason) := by
  rw [webtransportCloseSessionWrite]
  by_cases hlong : reason.length > capsuleCloseMaxReason
  · rw [if_pos hlong]
    exact ⟨nofun, nofun⟩
  · rw [if_neg hlong]
    have hlength : (BigEndian.bytes 4 errorCode ++ reason).length = 4 + reason.length := by
      rw [List.length_append, BigEndian.length_bytes]
    refine ⟨writes_put fun hok => ?_, fun _ => not_lt.mp hlong⟩
    rw [hlength]
    obtain ⟨hcoded, hbytes⟩ := put_or_nothing hok
    obtain ⟨hsized, hcodedBytes⟩ := Writer.put_ok hcoded
    refine ⟨hsized, ?_⟩
    rw [hbytes, hcodedBytes, List.append_assoc]

lemma writes_drainSession (w : Writer) :
    Writes w (webtransportDrainSessionWrite w) ⟨capsuleDrainSession, []⟩ := by
  refine writes_put fun hok => ⟨hok, ?_⟩
  rw [List.append_nil]
  rfl

end Wire

/-! ## What the parsers make of it -/

lemma capsuleParseOne_bytes {type value : ℕ} (hvalue : value ≤ quicVarintMax) :
    capsuleParseOne ⟨type, quicVarintBytes value⟩ type = .ok value := by
  have hread := quicVarintDecode_bytes hvalue []
  rw [List.append_nil] at hread
  rw [capsuleParseOne, if_neg (not_not.mpr rfl)]
  dsimp only
  rw [hread]
  rfl

lemma capsuleParseTwo_bytes {type first second : ℕ} (hfirst : first ≤ quicVarintMax)
    (hsecond : second ≤ quicVarintMax) :
    capsuleParseTwo ⟨type, quicVarintBytes first ++ quicVarintBytes second⟩ type =
      .ok (first, second) := by
  have hread := quicVarintDecode_bytes hsecond []
  rw [List.append_nil] at hread
  rw [capsuleParseTwo, if_neg (not_not.mpr rfl)]
  dsimp only
  rw [quicVarintDecode_bytes hfirst]
  dsimp only
  rw [hread]
  rfl

lemma capsuleParseStreamCount_bytes {type value : ℕ}
    (hvalue : value ≤ webtransportMaxStreamsValue) :
    capsuleParseStreamCount ⟨type, quicVarintBytes value⟩ = .ok value := by
  have hrange : value ≤ quicVarintMax := by
    unfold webtransportMaxStreamsValue at hvalue
    unfold quicVarintMax
    omega
  rw [capsuleParseStreamCount, capsuleParseOne_bytes hrange]
  exact if_pos hvalue

/-- A close is taken apart again exactly when its reason is text. -/
lemma webtransportCloseSessionParse_bytes {errorCode : ℕ} {reason : List UInt8}
    (hcode : errorCode < 2 ^ 32) (hlength : reason.length ≤ capsuleCloseMaxReason) :
    webtransportCloseSessionParse
        ⟨capsuleCloseWebtransportSession, BigEndian.bytes 4 errorCode ++ reason⟩ =
      if utf8IsWellFormed reason then .ok (errorCode, reason)
      else .error CapsuleReply.malformed := by
  have hfour : (BigEndian.bytes 4 errorCode).length = 4 := BigEndian.length_bytes 4 errorCode
  have htake : (BigEndian.bytes 4 errorCode ++ reason).take 4 = BigEndian.bytes 4 errorCode :=
    List.take_left' hfour
  have hdrop : (BigEndian.bytes 4 errorCode ++ reason).drop 4 = reason := List.drop_left' hfour
  have hvalue : (BigEndian.bytes 4 errorCode).foldl BigEndian.push 0 = errorCode := by
    rw [BigEndian.foldl_push_bytes]
    omega
  rw [webtransportCloseSessionParse, if_neg (not_not.mpr rfl)]
  dsimp only
  rw [List.length_append, hfour, if_neg (by omega), if_neg (by omega), htake, hdrop, hvalue]
  cases utf8IsWellFormed reason <;> rfl

/-! ## Every writer -/

/-- A call of one of the writers, with its arguments. -/
inductive CapsuleWrite
  | encode (capsule : Capsule)
  | close (errorCode : UInt32) (reason : List UInt8)
  | drain
  | maxData (maximum : UInt64)
  | maxStreamData (streamId maximum : UInt64)
  | maxStreams (bidirectional : Bool) (maximum : UInt64)
  | dataBlocked (maximum : UInt64)
  | streamDataBlocked (streamId maximum : UInt64)
  | streamsBlocked (bidirectional : Bool) (maximum : UInt64)

namespace CapsuleWrite

def run (w : Writer) : CapsuleWrite → Writer × Status
  | encode capsule => webtransportCapsuleEncode w capsule
  | close errorCode reason => webtransportCloseSessionWrite w errorCode.toNat reason
  | drain => webtransportDrainSessionWrite w
  | maxData maximum => webtransportMaxDataWrite w maximum.toNat
  | maxStreamData streamId maximum =>
    webtransportMaxStreamDataWrite w streamId.toNat maximum.toNat
  | maxStreams bidirectional maximum => webtransportMaxStreamsWrite w bidirectional maximum.toNat
  | dataBlocked maximum => webtransportDataBlockedWrite w maximum.toNat
  | streamDataBlocked streamId maximum =>
    webtransportStreamDataBlockedWrite w streamId.toNat maximum.toNat
  | streamsBlocked bidirectional maximum =>
    webtransportStreamsBlockedWrite w bidirectional maximum.toNat

/-- The parser of the kind of capsule takes the capsule apart into what was written. A capsule
written by the general encoder has no parser of its own, and a drain says nothing more than its
type. -/
def ParsedFrom (capsule : Capsule) : CapsuleWrite → Prop
  | encode original => capsule = original
  | close errorCode reason =>
    webtransportCloseSessionParse capsule = .ok (errorCode.toNat, reason)
  | drain => capsule = ⟨capsuleDrainSession, []⟩
  | maxData maximum => webtransportMaxDataParse capsule = .ok maximum.toNat
  | maxStreamData streamId maximum =>
    webtransportMaxStreamDataParse capsule = .ok (streamId.toNat, maximum.toNat)
  | maxStreams bidirectional maximum =>
    webtransportMaxStreamsParse capsule = .ok maximum.toNat ∧
      (capsule.type = capsuleMaxStreamsBidi ↔ bidirectional = true)
  | dataBlocked maximum => webtransportDataBlockedParse capsule = .ok maximum.toNat
  | streamDataBlocked streamId maximum =>
    webtransportStreamDataBlockedParse capsule = .ok (streamId.toNat, maximum.toNat)
  | streamsBlocked bidirectional maximum =>
    webtransportStreamsBlockedParse capsule = .ok maximum.toNat ∧
      (capsule.type = capsuleStreamsBlockedBidi ↔ bidirectional = true)

/-- Bytes from which a reader that will buffer the value takes the capsule and no more, from which
its parser gets back what was written, and of which every beginning is incomplete. -/
def ReadsBack (write : CapsuleWrite) (wire : List UInt8) : Prop :=
  ∃ capsule, write.ParsedFrom capsule ∧
    ∀ maxLength, capsule.value.length ≤ maxLength →
      (∀ rest, webtransportCapsuleDecode maxLength (wire ++ rest) = .ok (capsule, rest)) ∧
      ∀ part more, part ++ more = wire → more ≠ [] →
        webtransportCapsuleDecode maxLength part = .error CapsuleReply.short

/-- Whether the reason of a close is text; nothing of the kind is asked of the others. -/
def reasonIsText : CapsuleWrite → Bool
  | close _ reason => utf8IsWellFormed reason
  | _ => true

variable {w : Writer}

/-- What a call puts down, and that its parser takes it. -/
lemma run_writes (write : CapsuleWrite) (hok : (write.run w).2 = .ok) :
    ∃ capsule, Writes w (write.run w) capsule ∧
      (write.ParsedFrom capsule ↔ write.reasonIsText = true) := by
  -- A count that was written is within the ceiling.
  have hceiling : ∀ {maximum : ℕ} {r : Writer × Status},
      (if ¬maximum ≤ webtransportMaxStreamsValue then (w, Status.limit) else r).2 = .ok →
      maximum ≤ webtransportMaxStreamsValue ∧
        (if ¬maximum ≤ webtransportMaxStreamsValue then (w, Status.limit) else r) = r := by
    intro maximum r h
    by_cases hle : maximum ≤ webtransportMaxStreamsValue
    · exact ⟨hle, if_neg (not_not.mpr hle)⟩
    · rw [if_pos hle] at h
      cases h
  -- An integer that was written is in range.
  have hrange : ∀ {type value : ℕ}, (capsuleWriteOne w type value).2 = .ok →
      value ≤ quicVarintMax := by
    intro type value h
    unfold capsuleWriteOne at h
    split_ifs at h with hbig
    exact not_lt.mp fun hlt => hbig (.inr hlt)
  cases write with
  | encode capsule =>
    exact ⟨capsule, writes_capsuleEncode w capsule, iff_of_true rfl rfl⟩
  | close errorCode reason =>
    obtain ⟨hwrites, hlength⟩ := writes_closeSession w errorCode.toNat reason
    refine ⟨_, hwrites, ?_⟩
    rw [ParsedFrom, webtransportCloseSessionParse_bytes errorCode.toNat_lt (hlength hok),
      reasonIsText]
    cases utf8IsWellFormed reason <;> simp
  | drain => exact ⟨_, writes_drainSession w, iff_of_true rfl rfl⟩
  | maxData maximum =>
    exact ⟨_, writes_capsuleWriteOne w capsuleMaxData maximum.toNat,
      iff_of_true (capsuleParseOne_bytes (hrange hok)) rfl⟩
  | dataBlocked maximum =>
    exact ⟨_, writes_capsuleWriteOne w capsuleDataBlocked maximum.toNat,
      iff_of_true (capsuleParseOne_bytes (hrange hok)) rfl⟩
  | maxStreamData streamId maximum =>
    obtain ⟨hwrites, hsized⟩ :=
      writes_capsuleWriteTwo w capsuleMaxStreamData streamId.toNat maximum.toNat
    obtain ⟨hfirst, hsecond⟩ := hsized hok
    exact ⟨_, hwrites, iff_of_true (capsuleParseTwo_bytes hfirst hsecond) rfl⟩
  | streamDataBlocked streamId maximum =>
    obtain ⟨hwrites, hsized⟩ :=
      writes_capsuleWriteTwo w capsuleStreamDataBlocked streamId.toNat maximum.toNat
    obtain ⟨hfirst, hsecond⟩ := hsized hok
    exact ⟨_, hwrites, iff_of_true (capsuleParseTwo_bytes hfirst hsecond) rfl⟩
  | maxStreams bidirectional maximum =>
    obtain ⟨hle, hrun⟩ := hceiling hok
    refine ⟨⟨if bidirectional then capsuleMaxStreamsBidi else capsuleMaxStreamsUni,
      quicVarintBytes maximum.toNat⟩, ?_, iff_of_true ⟨?_, ?_⟩ rfl⟩
    · rw [run, webtransportMaxStreamsWrite, hrun]
      exact writes_capsuleWriteOne w _ _
    · rw [webtransportMaxStreamsParse, if_pos (by cases bidirectional <;> simp)]
      exact capsuleParseStreamCount_bytes hle
    · cases bidirectional <;> simp [capsuleMaxStreamsBidi, capsuleMaxStreamsUni]
  | streamsBlocked bidirectional maximum =>
    obtain ⟨hle, hrun⟩ := hceiling hok
    refine ⟨⟨if bidirectional then capsuleStreamsBlockedBidi else capsuleStreamsBlockedUni,
      quicVarintBytes maximum.toNat⟩, ?_, iff_of_true ⟨?_, ?_⟩ rfl⟩
    · rw [run, webtransportStreamsBlockedWrite, hrun]
      exact writes_capsuleWriteOne w _ _
    · rw [webtransportStreamsBlockedParse, if_pos (by cases bidirectional <;> simp)]
      exact capsuleParseStreamCount_bytes hle
    · cases bidirectional <;> simp [capsuleStreamsBlockedBidi, capsuleStreamsBlockedUni]

/-- **What is written is read back, but for a close reason that is not text.** The writer of a close
checks how long the reason is and not what it says. -/
theorem run_readsBack_iff (write : CapsuleWrite) (w : Writer) (hok : (write.run w).2 = .ok) :
    (∃ wire, (write.run w).1.bytes = w.bytes ++ wire ∧ write.ReadsBack wire) ↔
      write.reasonIsText = true := by
  obtain ⟨capsule, hwrites, hparsed⟩ := run_writes write hok
  obtain ⟨hsized, hbytes⟩ := hwrites hok
  constructor
  · rintro ⟨wire, hwire, read, hread, hdecode⟩
    have hsame : wire = capsule.wire := List.append_cancel_left (hwire.symm.trans hbytes)
    -- A reader with room for both capsules takes one and the same.
    have hroom := (hdecode _ (le_max_left _ capsule.value.length)).1 []
    rw [hsame, webtransportCapsuleDecode_wire hsized (le_max_right _ _)] at hroom
    cases hroom
    exact hparsed.mp hread
  · intro htext
    exact ⟨capsule.wire, hbytes, capsule, hparsed.mpr htext, fun maxLength hroom =>
      ⟨webtransportCapsuleDecode_wire hsized hroom, fun part more =>
        webtransportCapsuleDecode_part hsized hroom⟩⟩

/-- A limit that is written and read back. -/
theorem maxData_readsBack :
    (∃ wire, ((maxData 7).run (writerInit 16)).1.bytes = (writerInit 16).bytes ++ wire ∧
      (maxData 7).ReadsBack wire) ↔ (maxData 7).reasonIsText = true :=
  run_readsBack_iff (maxData 7) (writerInit 16) (by decide)

/-- A close whose reason is the byte `ff` is written and refused by the reader. -/
theorem close_notReadBack :
    ((close 0 [0xff]).run (writerInit 16)).2 = .ok ∧
      ¬∃ wire, ((close 0 [0xff]).run (writerInit 16)).1.bytes = (writerInit 16).bytes ++ wire ∧
        (close 0 [0xff]).ReadsBack wire := by
  refine ⟨by decide, ?_⟩
  rintro ⟨wire, hwire, capsule, hparsed, hdecode⟩
  have hbytes : wire = [0x68, 0x43, 0x05, 0, 0, 0, 0, 0xff] := by
    rw [show (writerInit 16).bytes = [] from rfl, List.nil_append] at hwire
    rw [← hwire]
    decide
  have hread := (hdecode _ (le_max_left _ 5)).1 []
  have hvalue : webtransportCapsuleDecode (max capsule.value.length 5) (wire ++ []) =
      .ok (⟨capsuleCloseWebtransportSession, [0, 0, 0, 0, 0xff]⟩, []) := by
    have hwritten : wire ++ [] =
        Capsule.wire ⟨capsuleCloseWebtransportSession, [0, 0, 0, 0, 0xff]⟩ ++ [] := by
      rw [hbytes]
      decide
    rw [hwritten]
    exact webtransportCapsuleDecode_wire ⟨by decide, by decide⟩ (le_max_right _ 5) []
  rw [hvalue] at hread
  cases hread
  have hrefused : webtransportCloseSessionParse
      ⟨capsuleCloseWebtransportSession, [0, 0, 0, 0, 0xff]⟩ = .error CapsuleReply.malformed := by
    decide
  rw [ParsedFrom, hrefused] at hparsed
  cases hparsed

end CapsuleWrite

end WebTransport
