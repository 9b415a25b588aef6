import WebTransport.Http3.Message

/-!
# What the message writer writes

The writer of a message and its reader have rules of their own. This module follows the bytes
of a message through the reader and says which messages are read back: every response, and
the requests whose values the reader's rules allow.
-/

namespace WebTransport

/-! ## The bytes of a section -/

/-- The bytes of a literal field line. -/
def lineBytes (field : ResolvedField) : List UInt8 :=
  qpackIntegerBytes 3 0x20 field.name.length ++ field.name ++ qpackStringBytes field.value

/-- Name and value are no longer than a string can be. -/
def ResolvedField.Writable (field : ResolvedField) : Prop :=
  field.name.length ≤ quicVarintMax ∧ field.value.length ≤ quicVarintMax

section Lines

variable {w w' : Writer} {field : ResolvedField} {fields : List ResolvedField}

lemma qpackFieldLineEncodeLiteral_ok
    (h : qpackFieldLineEncodeLiteral w field.name field.value = .ok w') :
    field.Writable ∧ w'.bytes = w.bytes ++ lineBytes field := by
  unfold qpackFieldLineEncodeLiteral at h
  cases hint : qpackIntegerEncode w 3 0x20 field.name.length with
  | error e =>
    rw [hint] at h
    cases h
  | ok w₁ =>
    rw [hint] at h
    dsimp only at h
    cases hname : writerResult (w₁.put field.name) with
    | error e =>
      rw [hname] at h
      cases h
    | ok w₂ =>
      rw [hname] at h
      obtain ⟨hlength, -, hbytes₁⟩ := qpackIntegerEncode_ok hint
      obtain ⟨-, hbytes₂⟩ := put_of_writerResult hname
      obtain ⟨hvalue, -, hbytes₃⟩ := qpackStringEncode_ok h
      refine ⟨⟨hlength, hvalue⟩, ?_⟩
      rw [hbytes₃, hbytes₂, hbytes₁, lineBytes]
      simp only [List.append_assoc]

lemma encodeLines_ok (h : encodeLines fields w = .ok w') :
    (∀ field ∈ fields, field.Writable) ∧ w'.bytes = w.bytes ++ fields.flatMap lineBytes := by
  induction fields generalizing w with
  | nil =>
    cases h
    simp
  | cons field fields ih =>
    rw [encodeLines] at h
    cases hline : qpackFieldLineEncodeLiteral w field.name field.value with
    | error e =>
      rw [hline] at h
      cases h
    | ok w₁ =>
      rw [hline] at h
      obtain ⟨hfield, hbytes⟩ := qpackFieldLineEncodeLiteral_ok hline
      obtain ⟨hfields, hrest⟩ := ih h
      refine ⟨List.forall_mem_cons.mpr ⟨hfield, hfields⟩, ?_⟩
      rw [hrest, hbytes, List.flatMap_cons, List.append_assoc]

lemma qpackFieldLineDecode_literal (h : field.Writable) (rest : List UInt8) :
    qpackFieldLineDecode (lineBytes field ++ rest) =
      .ok ({ kind := .literalLiteralName, name := ⟨field.name, false⟩,
             value := ⟨field.value, false⟩ }, rest) := by
  obtain ⟨low, c, hfirst, hlow⟩ := qpackIntegerBytes_first 3 0x20 field.name.length
  have hread : qpackIntegerDecode 3 (qpackIntegerBytes 3 0x20 field.name.length ++ (field.name ++
      (qpackStringBytes field.value ++ rest))) = .ok _ := qpackIntegerDecode_bytes
    (field.name ++ (qpackStringBytes field.value ++ rest)) (by decide) (by decide) h.1
  have hflag : ∀ i, 3 ≤ i → (UInt8.ofNat (0x20 + low)).toNat.testBit i = (0x20).testBit i := by
    intro i hi
    rw [ofNat_toNat_of_lt (by omega), testBit_flags (n := 3) (by decide) hlow hi]
  have hvalue := qpackStringDecode_bytes rest h.2
  have hbytes : lineBytes field ++ rest = qpackIntegerBytes 3 0x20 field.name.length ++
      (field.name ++ (qpackStringBytes field.value ++ rest)) := by
    simp only [lineBytes, List.append_assoc]
  rw [hbytes]
  rw [hfirst, List.cons_append] at hread ⊢
  rw [qpackFieldLineDecode]
  simp only [hflag 7 (by decide), hflag 6 (by decide), hflag 5 (by decide), hflag 3 le_rfl]
  rw [if_neg (by decide), if_neg (by decide), if_pos (by decide), readLiteral, hread]
  simp only
  rw [if_neg (by rw [List.length_append]; omega), List.drop_left, List.take_left, hvalue]
  rfl

/-- A literal line resolves to the field it was written for. -/
lemma qpackFieldSectionNext_literal (h : field.Writable) (sectionPrefix : HeaderPrefix)
    (table : Option DynamicTable) (capacity used : ℕ) (rest : List UInt8) :
    qpackFieldSectionNext sectionPrefix table capacity used (lineBytes field ++ rest) =
      .ok (field, used, rest) := by
  rw [qpackFieldSectionNext, qpackFieldLineDecode_literal h]
  rfl

end Lines

/-! ## The fields of a section -/

/-- Take some fields in order. -/
def takeFields : List ResolvedField → Message → Except Reply Message
  | [], message => .ok message
  | field :: fields, message =>
    match takeField message field with
    | .error reply => .error reply
    | .ok message => takeFields fields message

/-- The field lines of a section, when all of them can be read. -/
def sectionLines (sectionPrefix : HeaderPrefix) (table : Option DynamicTable) (capacity : ℕ) :
    ℕ → ℕ → List UInt8 → Option (List ResolvedField)
  | 0, _, _ => some []
  | fuel + 1, used, bytes =>
    if bytes.isEmpty then some []
    else
      match qpackFieldSectionNext sectionPrefix table capacity used bytes with
      | .error _ => none
      | .ok (field, used, rest) =>
        (sectionLines sectionPrefix table capacity fuel used rest).map (field :: ·)

section Lines

variable {sectionPrefix : HeaderPrefix} {table : Option DynamicTable} {capacity fuel used : ℕ}
  {fields : List ResolvedField}

/-- The reader takes the fields of a section whose lines can all be read. -/
lemma decodeFields_of_lines {bytes : List UInt8} {message : Message}
    (h : sectionLines sectionPrefix table capacity fuel used bytes = some fields) :
    decodeFields sectionPrefix table capacity fuel used bytes message =
      takeFields fields message := by
  induction fuel generalizing used bytes fields message with
  | zero =>
    cases h
    rfl
  | succ fuel ih =>
    rw [sectionLines] at h
    rw [decodeFields]
    split at h
    · rename_i hempty
      cases h
      rw [if_pos hempty]
      rfl
    rename_i hmore
    rw [if_neg hmore]
    cases hnext : qpackFieldSectionNext sectionPrefix table capacity used bytes with
    | error e =>
      rw [hnext] at h
      cases h
    | ok next =>
      obtain ⟨field, used, rest⟩ := next
      rw [hnext] at h
      obtain ⟨others, hothers, rfl⟩ := Option.map_eq_some_iff.mp h
      rw [takeFields]
      dsimp only
      cases takeField message field with
      | error reply => rfl
      | ok message => exact ih hothers

lemma sectionLines_lines (h : ∀ field ∈ fields, field.Writable)
    (hfuel : (fields.flatMap lineBytes).length < fuel) :
    sectionLines sectionPrefix table capacity fuel used (fields.flatMap lineBytes) =
      some fields := by
  induction fields generalizing fuel with
  | nil =>
    cases fuel with
    | zero => rfl
    | succ fuel => rfl
  | cons field fields ih =>
    obtain ⟨hfield, hfields⟩ := List.forall_mem_cons.mp h
    obtain ⟨low, c, hfirst, -⟩ := qpackIntegerBytes_first 3 0x20 field.name.length
    have hpos : 0 < (lineBytes field).length := by
      rw [lineBytes, hfirst, List.length_append, List.length_append, List.length_cons]
      omega
    rw [List.flatMap_cons, List.length_append] at hfuel
    obtain ⟨fuel, rfl⟩ : ∃ n, fuel = n + 1 := ⟨fuel - 1, by omega⟩
    have hne : (lineBytes field ++ fields.flatMap lineBytes).isEmpty = false := by
      rw [List.isEmpty_eq_false_iff]
      exact List.append_ne_nil_of_left_ne_nil (List.ne_nil_of_length_pos hpos) _
    rw [List.flatMap_cons, sectionLines, hne, if_neg (by simp),
      qpackFieldSectionNext_literal hfield]
    dsimp only
    rw [ih hfields (by omega), Option.map_some]

end Lines

/-- The prefix that asks for nothing. -/
lemma qpackHeaderPrefixEncode_zero {w w' : Writer} {maxEntries : ℕ}
    (h : qpackHeaderPrefixEncode w 0 0 maxEntries = .ok w') : w'.bytes = w.bytes ++ [0, 0] := by
  unfold qpackHeaderPrefixEncode at h
  split_ifs at h with hoverflow hnone
  · simp only [lt_irrefl, decide_false, Bool.false_eq_true, if_false, Nat.sub_self] at h
    rw [if_neg (by decide)] at h
    cases hint : qpackIntegerEncode w 8 0 (encodedInsertCount 0 maxEntries) with
    | error e =>
      rw [hint] at h
      cases h
    | ok w₁ =>
      rw [hint] at h
      obtain ⟨-, -, hbytes₁⟩ := qpackIntegerEncode_ok hint
      obtain ⟨-, -, hbytes₂⟩ := qpackIntegerEncode_ok h
      rw [hbytes₂, hbytes₁, List.append_assoc]
      rfl

lemma qpackFieldSectionBegin_zero {maxEntries : ℕ} (hrange : ¬fullRangeOverflows maxEntries)
    (known : ℕ) (bytes : List UInt8) :
    qpackFieldSectionBegin maxEntries ([0, 0] ++ bytes) known = .ok (⟨0, 0⟩, bytes) := by
  have hdecode : qpackHeaderPrefixDecode ([0, 0] ++ bytes) maxEntries known =
      .ok (⟨0, 0⟩, bytes) := by
    rw [qpackHeaderPrefixDecode, if_neg hrange]
    rfl
  rw [qpackFieldSectionBegin, hdecode]
  simp only
  rw [if_neg (Nat.not_lt_zero known)]

/-! ## The pseudo-headers of a message -/

/-- A message with the value of a pseudo-header kept, when there is one. -/
def Message.keep (message : Message) (pseudo : PseudoHeader) (value : List UInt8) : Message :=
  let validation :=
    { message.validation with
      pseudoSeen := pseudo :: message.validation.pseudoSeen
      isConnect := message.validation.isConnect ||
        (decide (pseudo = .method) && decide (value = ascii "CONNECT")) }
  match pseudo with
  | .method => { message with validation, method := some value }
  | .scheme => { message with validation, scheme := some value }
  | .path => { message with validation, path := some value }
  | .authority => { message with validation, authority := some value }
  | .protocol => { message with validation, protocol := some value }
  | .status => { message with validation, status := parseStatus value }

/-- The message after a pseudo-header that may be absent. -/
def Message.keepOption (message : Message) (pseudo : PseudoHeader) :
    Option (List UInt8) → Message
  | none => message
  | some value => message.keep pseudo value

/-- Only pseudo-headers have been seen of a request, and this one not. -/
structure Message.Expects (message : Message) (pseudo : PseudoHeader) : Prop where
  request : message.validation.message = .request
  noRegular : message.validation.sawRegular = false
  unseen : pseudo ∉ message.validation.pseudoSeen
  carried : pseudo ≠ .status

section Pseudo

variable {message : Message} {pseudo other : PseudoHeader} {value : Option (List UInt8)}

lemma Message.Expects.keep (h : message.Expects other) (pseudo : PseudoHeader)
    (value : Option (List UInt8)) (hne : other ≠ pseudo) :
    (message.keepOption pseudo value).Expects other := by
  cases value with
  | none => exact h
  | some value =>
    have hseen : other ∉ pseudo :: message.validation.pseudoSeen := by
      rw [List.mem_cons, not_or]
      exact ⟨hne, h.unseen⟩
    cases pseudo <;> exact ⟨h.request, h.noRegular, hseen, h.carried⟩

/-- A pseudo-header of a request is known by its name. -/
lemma pseudoHeaderOf_name (h : pseudo ≠ .status) :
    pseudoHeaderOf .request pseudo.name = some pseudo := by
  cases pseudo with
  | status => exact absurd rfl h
  | _ => decide

/-- A field with a pseudo-header is kept, unless its value is no field value. -/
lemma takeField_pseudo (h : message.Expects pseudo) (value : List UInt8) :
    takeField message ⟨pseudo.name, value⟩ =
      if fieldValueIsValid value then .ok (message.keep pseudo value)
      else .error messageRefusal := by
  have hcolon : pseudo.name.head? = some 0x3a := by cases pseudo <;> decide
  have hvalidate : http3HeaderValidate message.validation pseudo.name value =
      if fieldValueIsValid value then .ok { message.validation with
          pseudoSeen := pseudo :: message.validation.pseudoSeen
          isConnect := message.validation.isConnect ||
            (decide (pseudo = .method) && decide (value = ascii "CONNECT")) }
      else .error messageRefusal := by
    rw [http3HeaderValidate, if_pos hcolon, h.noRegular, if_neg (by simp), h.request,
      pseudoHeaderOf_name h.carried]
    simp only
    rw [if_neg h.unseen]
    cases fieldValueIsValid value with
    | false => rfl
    | true => simp only [Bool.not_true, Bool.false_eq_true, if_false, if_true, h.request,
        h.noRegular]
  rw [takeField, hvalidate]
  cases hvalid : fieldValueIsValid value with
  | false => rfl
  | true =>
    simp only [if_true]
    cases pseudo with
    | status => exact absurd rfl h.carried
    | _ => rfl

/-- A pseudo-header that may be absent, and the fields after it. -/
lemma takeFields_addPseudo (h : message.Expects pseudo) (value : Option (List UInt8))
    (fields : List ResolvedField) :
    takeFields (addPseudo pseudo.name value ++ fields) message =
      if value.all fieldValueIsValid then takeFields fields (message.keepOption pseudo value)
      else .error messageRefusal := by
  cases value with
  | none => rfl
  | some value =>
    rw [addPseudo, List.singleton_append, takeFields, takeField_pseudo h, Option.all_some]
    cases fieldValueIsValid value <;> rfl

end Pseudo

/-- What the reader has kept of a request once all its fields are taken. -/
def requestRead (message : Message) : Message :=
  (((({ type := .request : Message }.keepOption .method message.method).keepOption .scheme
    message.scheme).keepOption .authority message.authority).keepOption .path
      message.path).keepOption .protocol message.protocol

/-- The values a request carries. -/
def Message.values (message : Message) : List (Option (List UInt8)) :=
  [message.method, message.scheme, message.authority, message.path, message.protocol]

/-- The reader takes the fields of a request when their values are field values. -/
lemma takeFields_request (message : Message) :
    takeFields (addPseudo (ascii ":method") message.method ++
        addPseudo (ascii ":scheme") message.scheme ++
        addPseudo (ascii ":authority") message.authority ++
        addPseudo (ascii ":path") message.path ++
        addPseudo (ascii ":protocol") message.protocol) { type := .request } =
      if message.values.all (Option.all fieldValueIsValid) then .ok (requestRead message)
      else .error messageRefusal := by
  have hfresh : ∀ pseudo : PseudoHeader, pseudo ≠ .status →
      Message.Expects { type := .request } pseudo := by
    intro pseudo h
    exact ⟨rfl, rfl, by simp [http3HeaderValidationInit], h⟩
  have hmethod := hfresh .method (by decide)
  have hscheme := (hfresh .scheme (by decide)).keep .method message.method (by decide)
  have hauthority := ((hfresh .authority (by decide)).keep .method message.method
    (by decide)).keep .scheme message.scheme (by decide)
  have hpath := (((hfresh .path (by decide)).keep .method message.method (by decide)).keep
    .scheme message.scheme (by decide)).keep .authority message.authority (by decide)
  have hprotocol := ((((hfresh .protocol (by decide)).keep .method message.method
    (by decide)).keep .scheme message.scheme (by decide)).keep .authority message.authority
      (by decide)).keep .path message.path (by decide)
  rw [List.append_assoc, List.append_assoc, List.append_assoc]
  change takeFields (addPseudo PseudoHeader.method.name message.method ++
    (addPseudo PseudoHeader.scheme.name message.scheme ++
      (addPseudo PseudoHeader.authority.name message.authority ++
        (addPseudo PseudoHeader.path.name message.path ++
          addPseudo PseudoHeader.protocol.name message.protocol)))) _ = _
  rw [takeFields_addPseudo hmethod, takeFields_addPseudo hscheme,
    takeFields_addPseudo hauthority, takeFields_addPseudo hpath, ← List.append_nil (addPseudo
      PseudoHeader.protocol.name message.protocol), takeFields_addPseudo hprotocol]
  simp only [Message.values, List.all_cons, List.all_nil, Bool.and_true]
  cases message.method.all fieldValueIsValid <;> cases message.scheme.all fieldValueIsValid <;>
    cases message.authority.all fieldValueIsValid <;>
    cases message.path.all fieldValueIsValid <;>
    cases message.protocol.all fieldValueIsValid <;> rfl

/-! ## What is read back -/

/-- The value a message has for a pseudo-header of a request. -/
def Message.value (message : Message) : PseudoHeader → Option (List UInt8)
  | .method => message.method
  | .scheme => message.scheme
  | .path => message.path
  | .authority => message.authority
  | .protocol => message.protocol
  | .status => none

/-- A request whose record of what was seen is that of the values it has. -/
structure Message.Consistent (message : Message) : Prop where
  type : message.type = .request
  request : message.validation.message = .request
  seen : ∀ pseudo, pseudo ≠ .status →
    (pseudo ∈ message.validation.pseudoSeen ↔ message.value pseudo ≠ none)
  connect : message.validation.isConnect = true ↔ message.method = some (ascii "CONNECT")

section Finish

variable {message read : Message} {pseudo other : PseudoHeader}

lemma Message.value_keep (hdefined : other ≠ .status) (value : List UInt8) :
    (message.keep pseudo value).value other =
      if other = pseudo then some value else message.value other := by
  cases pseudo <;> cases other <;> first | rfl | exact absurd rfl hdefined

lemma Message.value_keepOption (hne : other ≠ pseudo) (value : Option (List UInt8)) :
    (message.keepOption pseudo value).value other = message.value other := by
  cases value with
  | none => rfl
  | some value => cases pseudo <;> cases other <;> first | rfl | exact absurd rfl hne

lemma Message.consistent_start : ({ type := .request } : Message).Consistent := by
  refine ⟨rfl, rfl, fun pseudo _ => ?_, ?_⟩
  · cases pseudo <;> simp [http3HeaderValidationInit, Message.value]
  · simp [http3HeaderValidationInit]

/-- A value that is kept for the first time is seen. -/
lemma Message.Consistent.keep (h : message.Consistent) (hnew : message.value pseudo = none)
    (hdefined : pseudo ≠ .status) (value : List UInt8) : (message.keep pseudo value).Consistent := by
  have hvalidation : (message.keep pseudo value).validation =
      { message.validation with
        pseudoSeen := pseudo :: message.validation.pseudoSeen
        isConnect := message.validation.isConnect ||
          (decide (pseudo = .method) && decide (value = ascii "CONNECT")) } := by
    cases pseudo <;> rfl
  refine ⟨?_, ?_, fun other hother => ?_, ?_⟩
  · cases pseudo <;> exact h.type
  · rw [hvalidation]
    exact h.request
  · rw [hvalidation, List.mem_cons, Message.value_keep hother, h.seen other hother]
    by_cases heq : other = pseudo
    · simp [heq]
    · simp [heq]
  · have hmethod := @Message.value_keep message pseudo .method nofun value
    rw [hvalidation, Bool.or_eq_true, h.connect]
    change _ ↔ (message.keep pseudo value).value .method = _
    rw [hmethod]
    by_cases heq : PseudoHeader.method = pseudo
    · subst heq
      have hnone : message.method = none := hnew
      simp [hnone]
    · simp [heq, Ne.symm heq, Message.value]

lemma Message.Consistent.keepOption (h : message.Consistent) (hnew : message.value pseudo = none)
    (hdefined : pseudo ≠ .status) (value : Option (List UInt8)) :
    (message.keepOption pseudo value).Consistent := by
  cases value with
  | none => exact h
  | some value => exact h.keep hnew hdefined value

/-- **The rules for a request**, as the reader checks them on what it has kept. -/
lemma Message.Consistent.finishMessage_ok_iff (h : message.Consistent) :
    finishMessage message = .ok read ↔
      read = message ∧ valueLength message.method ≠ 0 ∧
      (message.method = some (ascii "CONNECT") → message.authority ≠ none) ∧
      (message.method ≠ some (ascii "CONNECT") ∨ valueLength message.protocol ≠ 0 →
        valueLength message.scheme ≠ 0 ∧ valueLength message.path ≠ 0) := by
  have habsent : ∀ {value : Option (List UInt8)}, valueLength value ≠ 0 → value ≠ none := by
    rintro value hvalue rfl
    exact hvalue rfl
  have hmethod : .method ∈ message.validation.pseudoSeen ↔ message.method ≠ none :=
    h.seen .method nofun
  have hscheme : .scheme ∈ message.validation.pseudoSeen ↔ message.scheme ≠ none :=
    h.seen .scheme nofun
  have hpath : .path ∈ message.validation.pseudoSeen ↔ message.path ≠ none := h.seen .path nofun
  have hauthority : .authority ∈ message.validation.pseudoSeen ↔ message.authority ≠ none :=
    h.seen .authority nofun
  rw [finishMessage_ok, http3HeaderFinish_request h.request, requestContent_ok, hmethod, hscheme,
    hpath, hauthority, h.connect, ← Bool.not_eq_true, h.connect]
  constructor
  · rintro ⟨hread, ⟨-, hauthority, -⟩, hcontent⟩
    obtain ⟨hgiven, htarget⟩ := hcontent h.type
    exact ⟨hread, hgiven, hauthority, htarget⟩
  · rintro ⟨hread, hgiven, hauthority, htarget⟩
    refine ⟨hread, ⟨habsent hgiven, hauthority, fun hconnect => ?_⟩, fun _ => ⟨hgiven, htarget⟩⟩
    obtain ⟨hscheme, hpath⟩ := htarget (.inl hconnect)
    exact ⟨habsent hscheme, habsent hpath⟩

lemma requestRead_consistent (message : Message) : (requestRead message).Consistent := by
  have hmethod := @Message.Consistent.keepOption _ .method Message.consistent_start rfl nofun
    message.method
  have hscheme := @Message.Consistent.keepOption _ .scheme hmethod
    (by simp (disch := decide) only [Message.value_keepOption]; rfl) nofun message.scheme
  have hauthority := @Message.Consistent.keepOption _ .authority hscheme
    (by simp (disch := decide) only [Message.value_keepOption]; rfl) nofun message.authority
  have hpath := @Message.Consistent.keepOption _ .path hauthority
    (by simp (disch := decide) only [Message.value_keepOption]; rfl) nofun message.path
  exact @Message.Consistent.keepOption _ .protocol hpath
    (by simp (disch := decide) only [Message.value_keepOption]; rfl) nofun message.protocol

lemma requestRead_values (message : Message) : (requestRead message).values = message.values := by
  unfold requestRead Message.values
  cases message.method <;> cases message.scheme <;> cases message.authority <;>
    cases message.path <;> cases message.protocol <;> rfl

end Finish

/-- What a message of its type says: a request its pseudo-headers, a response its status. -/
def Message.carried (message : Message) : List (Option (List UInt8)) × Option ℕ :=
  match message.type with
  | .request => (message.values, none)
  | .response => ([], message.status)

/-- The reader takes the bytes for a message that says the same. -/
def Message.ReadsBack (message : Message) (bytes : List UInt8) : Prop :=
  ∀ maxEntries known capacity, ¬fullRangeOverflows maxEntries →
    ∃ read, http3MessageDecode message.type bytes none maxEntries known capacity = .ok read ∧
      read.carried = message.carried

/-- The reader's rules for the values of a request. -/
structure Message.RequestReadable (message : Message) : Prop where
  fieldValues : message.values.all (Option.all fieldValueIsValid) = true
  method : message.method ≠ some []
  authority : message.method = some (ascii "CONNECT") → message.authority ≠ none
  target : message.method ≠ some (ascii "CONNECT") ∨ valueLength message.protocol ≠ 0 →
    valueLength message.scheme ≠ 0 ∧ valueLength message.path ≠ 0

/-- Every response can be read; a request, if its values keep the reader's rules. -/
def Message.Readable (message : Message) : Prop :=
  message.type = .request → message.RequestReadable

section RoundTrip

variable {message : Message} {w w' : Writer} {maxEntries : ℕ} {bytes : List UInt8}
  {lines : List ResolvedField}

lemma messageLines_request (htype : message.type = .request)
    (h : messageLines message = .ok lines) :
    message.method ≠ none ∧ lines = addPseudo (ascii ":method") message.method ++
      addPseudo (ascii ":scheme") message.scheme ++
      addPseudo (ascii ":authority") message.authority ++
      addPseudo (ascii ":path") message.path ++
      addPseudo (ascii ":protocol") message.protocol := by
  rw [messageLines, htype] at h
  dsimp only at h
  split_ifs at h with hmethod
  exact ⟨hmethod, (Except.ok.inj h).symm⟩

lemma messageLines_response (htype : message.type = .response)
    (h : messageLines message = .ok lines) :
    ∃ status, message.status = some status ∧ 100 ≤ status ∧ status ≤ 599 ∧
      lines = addPseudo (ascii ":status") (some (statusText status)) := by
  rw [messageLines, htype] at h
  dsimp only at h
  cases hstatus : message.status with
  | none =>
    rw [hstatus] at h
    cases h
  | some status =>
    rw [hstatus] at h
    dsimp only at h
    split_ifs at h with hrange
    rw [not_or] at hrange
    exact ⟨status, rfl, by omega, by omega, (Except.ok.inj h).symm⟩

/-- What the reader makes of the bytes that were written: it takes the lines one by one. -/
lemma http3MessageDecode_written (h : http3MessageEncode w message maxEntries = .ok w')
    (hbytes : w'.bytes = w.bytes ++ bytes) :
    ∃ lines, messageLines message = .ok lines ∧
      ∀ maxEntries known capacity, ¬fullRangeOverflows maxEntries →
        http3MessageDecode message.type bytes none maxEntries known capacity =
          match takeFields lines { type := message.type } with
          | .error reply => .error reply
          | .ok message => finishMessage message := by
  unfold http3MessageEncode at h
  cases hlines : messageLines message with
  | error reply =>
    rw [hlines] at h
    cases h
  | ok lines =>
    rw [hlines] at h
    dsimp only at h
    cases hheader : qpackHeaderPrefixEncode w 0 0 maxEntries with
    | error status =>
      rw [hheader] at h
      cases h
    | ok w₁ =>
      rw [hheader] at h
      dsimp only at h
      cases hencode : encodeLines lines w₁ with
      | error status =>
        rw [hencode] at h
        cases h
      | ok w₂ =>
        rw [hencode] at h
        cases h
        obtain ⟨hwritable, hwritten⟩ := encodeLines_ok hencode
        rw [qpackHeaderPrefixEncode_zero hheader, hbytes, List.append_assoc] at hwritten
        have hsection := List.append_cancel_left hwritten
        refine ⟨lines, rfl, fun maxEntries known capacity hrange => ?_⟩
        rw [http3MessageDecode, hsection, qpackFieldSectionBegin_zero hrange]
        simp only
        have hlines := @sectionLines_lines ⟨0, 0⟩ none capacity _ 0 lines hwritable
          (Nat.lt_succ_self _)
        have hfields := @decodeFields_of_lines ⟨0, 0⟩ none capacity _ 0 lines _
          { type := message.type } hlines
        cases htaken : takeFields lines { type := message.type } with
        | error reply => rw [hfields, htaken]
        | ok taken => rw [hfields, htaken]

/-- A digit is a byte that says which. -/
lemma isDigit_ofNat {d : ℕ} (hd : d < 10) : isDigit (UInt8.ofNat (0x30 + d)) = true ∧
    (UInt8.ofNat (0x30 + d)).toNat = 0x30 + d ∧
      fieldValueIsValid [UInt8.ofNat (0x30 + d)] = true := by
  interval_cases d <;> decide

lemma parseStatus_statusText {status : ℕ} (hlow : 100 ≤ status) (hhigh : status ≤ 599) :
    parseStatus (statusText status) = some status ∧
      fieldValueIsValid (statusText status) = true := by
  obtain ⟨ha, hanat, havalid⟩ := isDigit_ofNat (Nat.mod_lt (status / 100) (by decide : 10 > 0))
  obtain ⟨hb, hbnat, hbvalid⟩ := isDigit_ofNat (Nat.mod_lt (status / 10) (by decide : 10 > 0))
  obtain ⟨hc, hcnat, hcvalid⟩ := isDigit_ofNat (Nat.mod_lt status (by decide : 10 > 0))
  constructor
  · rw [statusText, parseStatus, ha, hb, hc, hanat, hbnat, hcnat, if_neg (by decide)]
    dsimp only
    have hvalue : (0x30 + status / 100 % 10 - 0x30) * 100 +
        (0x30 + status / 10 % 10 - 0x30) * 10 + (0x30 + status % 10 - 0x30) = status := by omega
    rw [hvalue, if_neg (by omega)]
  · rw [fieldValueIsValid, List.all_cons, List.all_nil, Bool.and_true] at havalid hbvalid hcvalid
    simp only [statusText, fieldValueIsValid, List.all_cons, List.all_nil, Bool.and_true, havalid,
      hbvalid, hcvalid]

/-- **A response is always read back.** -/
lemma readsBack_response (h : http3MessageEncode w message maxEntries = .ok w')
    (hbytes : w'.bytes = w.bytes ++ bytes) (htype : message.type = .response) :
    message.ReadsBack bytes := by
  obtain ⟨lines, hlines, hdecode⟩ := http3MessageDecode_written h hbytes
  obtain ⟨status, hstatus, hlow, hhigh, rfl⟩ := messageLines_response htype hlines
  obtain ⟨hparse, hvalid⟩ := parseStatus_statusText hlow hhigh
  intro maxEntries known capacity hrange
  have htake : takeFields (addPseudo (ascii ":status") (some (statusText status)))
      { type := .response } =
        .ok { type := .response
              status := some status
              validation := ⟨.response, false, [.status], false⟩ } := by
    rw [addPseudo, takeFields, takeField]
    have hvalidate : http3HeaderValidate (http3HeaderValidationInit .response)
        (ascii ":status") (statusText status) = .ok ⟨.response, false, [.status], false⟩ := by
      rw [http3HeaderValidate, if_pos (by decide), http3HeaderValidationInit]
      simp only [Bool.false_eq_true, if_false]
      rw [show pseudoHeaderOf .response (ascii ":status") = some .status from by decide]
      simp [hvalid]
    simp only [hvalidate, rememberField]
    rw [if_neg (by decide), if_neg (by decide), if_neg (by decide), if_neg (by decide),
      if_neg (by decide)]
    simp only [if_true, hparse]
    rfl
  rw [hdecode maxEntries known capacity hrange, htype, htake]
  refine ⟨_, rfl, ?_⟩
  rw [Message.carried, Message.carried, htype, hstatus]

/-- The rules for a request, on the values that were written. -/
lemma finishMessage_requestRead (hmethod : message.method ≠ none) {read : Message} :
    finishMessage (requestRead message) = .ok read ↔
      read = requestRead message ∧ message.method ≠ some [] ∧
      (message.method = some (ascii "CONNECT") → message.authority ≠ none) ∧
      (message.method ≠ some (ascii "CONNECT") ∨ valueLength message.protocol ≠ 0 →
        valueLength message.scheme ≠ 0 ∧ valueLength message.path ≠ 0) := by
  have hvalues := requestRead_values message
  simp only [Message.values, List.cons.injEq, and_true] at hvalues
  obtain ⟨hm, hs, ha, hp, hprotocol⟩ := hvalues
  have hlength : valueLength message.method ≠ 0 ↔ message.method ≠ some [] := by
    cases hvalue : message.method with
    | none => exact absurd hvalue hmethod
    | some value => simp [valueLength]
  rw [(requestRead_consistent message).finishMessage_ok_iff, hm, hs, ha, hp, hprotocol, hlength]

/-- **A request is read back exactly when its values keep the reader's rules.** -/
lemma readsBack_request_iff (h : http3MessageEncode w message maxEntries = .ok w')
    (hbytes : w'.bytes = w.bytes ++ bytes) (htype : message.type = .request) :
    message.ReadsBack bytes ↔ message.RequestReadable := by
  obtain ⟨lines, hlines, hdecode⟩ := http3MessageDecode_written h hbytes
  obtain ⟨hmethod, rfl⟩ := messageLines_request htype hlines
  simp only [htype, takeFields_request] at hdecode
  have hcarried : (requestRead message).carried = message.carried := by
    rw [Message.carried, Message.carried, (requestRead_consistent message).type, htype, requestRead_values]
  constructor
  · intro hreads
    obtain ⟨read, hread, -⟩ := hreads 0 0 0 (by decide)
    rw [htype, hdecode 0 0 0 (by decide)] at hread
    cases hvalid : message.values.all (Option.all fieldValueIsValid) with
    | false =>
      rw [hvalid] at hread
      cases hread
    | true =>
      rw [hvalid] at hread
      obtain ⟨-, hempty, hauthority, htarget⟩ := (finishMessage_requestRead hmethod).mp hread
      exact ⟨hvalid, hempty, hauthority, htarget⟩
  · intro hreadable maxEntries known capacity hrange
    rw [htype, hdecode maxEntries known capacity hrange, if_pos hreadable.fieldValues]
    refine ⟨requestRead message, ?_, hcarried⟩
    exact (finishMessage_requestRead hmethod).mpr
      ⟨rfl, hreadable.method, hreadable.authority, hreadable.target⟩

/-- **The reader takes what the writer wrote, with the same values, exactly when the message
keeps the reader's rules**: the writer itself looks at no value but the status. -/
theorem http3MessageEncode_readsBack_iff (h : http3MessageEncode w message maxEntries = .ok w')
    (hbytes : w'.bytes = w.bytes ++ bytes) : message.ReadsBack bytes ↔ message.Readable := by
  cases htype : message.type with
  | request =>
    rw [readsBack_request_iff h hbytes htype]
    exact ⟨fun hreadable _ => hreadable, fun hreadable => hreadable htype⟩
  | response =>
    have hreads := readsBack_response h hbytes htype
    simp only [hreads, Message.Readable, htype, reduceCtorEq, false_implies]

end RoundTrip

/-- A request for the root of a server. -/
def plainGet : Message :=
  { type := .request, method := some (ascii "GET"), scheme := some (ascii "https"),
    path := some (ascii "/"), authority := some (ascii "a") }

/-- The same request with a line feed in its path. -/
def brokenGet : Message := { plainGet with path := some [0x2f, 0x0a] }

theorem plainGet_readsBack :
    ∃ w, http3MessageEncode (writerInit 64) plainGet 4 = .ok w ∧ plainGet.ReadsBack w.bytes := by
  have hwritten : http3MessageEncode (writerInit 64) plainGet 4 = .ok _ := rfl
  refine ⟨_, hwritten, ?_⟩
  have hreadable : plainGet.Readable := fun _ =>
    ⟨by decide, by decide, by decide, fun _ => by decide⟩
  exact (http3MessageEncode_readsBack_iff hwritten rfl).mpr hreadable

/-- **A line feed in the path is written and then refused.** -/
theorem brokenGet_refused :
    ∃ w, http3MessageEncode (writerInit 64) brokenGet 4 = .ok w ∧
      http3MessageDecode .request w.bytes none 0 0 0 = .error messageRefusal ∧
      ¬brokenGet.ReadsBack w.bytes := by
  refine ⟨_, rfl, by decide, ?_⟩
  intro hreads
  obtain ⟨read, hread, -⟩ := hreads 0 0 0 (by decide)
  revert hread
  exact nofun

end WebTransport
