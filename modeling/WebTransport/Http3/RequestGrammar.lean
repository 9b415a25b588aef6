import WebTransport.Http3.HeaderGrammar

/-!
# The grammar of a request

Which header sections are decoded as a request: pseudo-headers first, each at most once, then
regular fields, in one of the shapes a request has. The rules stand in three places of the source,
which check each field, what was absent and what was empty (`http3/headers.c`, `http3/message.c`).
-/

namespace WebTransport

/-! ## Sections of a request -/

/-- The fields of a request: pseudo-headers of requests, each at most once, then regular fields. -/
structure RequestSection where
  pseudos : List (PseudoHeader × List UInt8)
  regular : List ResolvedField
  defined : ∀ pseudo ∈ pseudos, pseudo.1 ≠ .status
  once : (pseudos.map Prod.fst).Nodup
  rules : ∀ field ∈ regular, field.Regular

/-- A pseudo-header as a field. -/
def pseudoField (pseudo : PseudoHeader × List UInt8) : ResolvedField := ⟨pseudo.1.name, pseudo.2⟩

/-- A value that is there and is not empty. -/
def Given (value : Option (List UInt8)) : Prop := valueLength value ≠ 0

instance (value : Option (List UInt8)) : Decidable (Given value) :=
  inferInstanceAs (Decidable (_ ≠ _))

namespace RequestSection

def fields (s : RequestSection) : List ResolvedField := s.pseudos.map pseudoField ++ s.regular

/-- The value of a pseudo-header, when it is there. -/
def value (s : RequestSection) (pseudo : PseudoHeader) : Option (List UInt8) :=
  s.pseudos.lookup pseudo

def IsConnect (s : RequestSection) : Prop := s.value .method = some (ascii "CONNECT")

instance (s : RequestSection) : Decidable s.IsConnect := inferInstanceAs (Decidable (_ = _))

/-- A method and the target it is for. -/
def Plain (s : RequestSection) : Prop :=
  ¬s.IsConnect ∧ Given (s.value .scheme) ∧ Given (s.value .path)

/-- A CONNECT, which has an authority alone. -/
def PlainConnect (s : RequestSection) : Prop :=
  s.IsConnect ∧ s.value .protocol = none ∧ Given (s.value .authority) ∧
    s.value .scheme = none ∧ s.value .path = none

/-- A CONNECT for a protocol, which has a target too. -/
def ExtendedConnect (s : RequestSection) : Prop :=
  s.IsConnect ∧ Given (s.value .protocol) ∧ Given (s.value .scheme) ∧ Given (s.value .path) ∧
    Given (s.value .authority)

/-- The values of the pseudo-headers are field values, the method is there, and the request has
one of its shapes. -/
def WellFormed (s : RequestSection) : Prop :=
  (∀ pseudo ∈ s.pseudos, fieldValueIsValid pseudo.2) ∧ Given (s.value .method) ∧
    (s.Plain ∨ s.PlainConnect ∨ s.ExtendedConnect)

/-- A CONNECT with an authority or a protocol that is empty, or with a part of a target but no
protocol. -/
def LooseConnect (s : RequestSection) : Prop :=
  s.IsConnect ∧ (s.value .authority = some [] ∨ s.value .protocol = some [] ∨
    s.value .protocol = none ∧ (s.value .scheme ≠ none ∨ s.value .path ≠ none))

end RequestSection

/-! ## What the reader keeps -/

/-- The message after a regular field. -/
def Message.markRegular (message : Message) : Message :=
  { message with validation := { message.validation with sawRegular := true } }

/-- The message of a request has kept some pseudo-headers and no others. -/
structure Message.Holds (message : Message) (pseudos : List (PseudoHeader × List UInt8)) :
    Prop where
  consistent : message.Consistent
  value : ∀ pseudo, pseudo ≠ .status → message.value pseudo = pseudos.lookup pseudo

section Take

variable {message read : Message} {field : ResolvedField} {fields : List ResolvedField}
  {pseudo : PseudoHeader} {value : List UInt8} {seen : List (PseudoHeader × List UInt8)}

lemma lookup_eq_none_iff {pseudos : List (PseudoHeader × List UInt8)} :
    pseudos.lookup pseudo = none ↔ pseudo ∉ pseudos.map Prod.fst := by
  induction pseudos with
  | nil => simp
  | cons first pseudos ih =>
    rw [List.map_cons, List.mem_cons, not_or, List.lookup_cons]
    by_cases heq : pseudo = first.1
    · simp [heq]
    · simp [heq, beq_false_of_ne heq, ih]

lemma Message.Holds.keep (h : message.Holds seen) (hnew : pseudo ∉ seen.map Prod.fst)
    (hdefined : pseudo ≠ .status) :
    (message.keep pseudo value).Holds (seen ++ [(pseudo, value)]) := by
  have hnone : seen.lookup pseudo = none := lookup_eq_none_iff.mpr hnew
  refine ⟨h.consistent.keep ((h.value pseudo hdefined).trans hnone) hdefined value, ?_⟩
  intro other hother
  rw [Message.value_keep hother, h.value other hother, List.lookup_append]
  by_cases heq : other = pseudo
  · subst heq
    simp [hnone]
  · simp [List.lookup_cons, heq, beq_false_of_ne heq]

lemma Message.Holds.seen_iff (h : message.Holds seen) (hdefined : pseudo ≠ .status) :
    pseudo ∈ message.validation.pseudoSeen ↔ pseudo ∈ seen.map Prod.fst := by
  rw [h.consistent.seen pseudo hdefined, h.value pseudo hdefined, Ne, lookup_eq_none_iff, not_not]

/-- A pseudo-header that has not been seen is expected before the first regular field. -/
lemma Message.Holds.expects (h : message.Holds seen)
    (hfirst : message.validation.sawRegular = false) (hnew : pseudo ∉ seen.map Prod.fst)
    (hdefined : pseudo ≠ .status) : message.Expects pseudo :=
  ⟨h.consistent.request, hfirst, fun hmem => hnew ((h.seen_iff hdefined).mp hmem), hdefined⟩

/-- A name that does not begin with a colon is no pseudo-header's. -/
lemma rememberField_regular (h : field.name.head? ≠ some 0x3a) :
    rememberField message field = .ok message := by
  have hname : ∀ pseudo : PseudoHeader, field.name ≠ pseudo.name := by
    rintro pseudo hname
    exact h (hname ▸ by cases pseudo <;> decide)
  rw [rememberField]
  split_ifs with hmethod hscheme hpath hauthority hprotocol hstatus
  · exact absurd hmethod (hname .method)
  · exact absurd hscheme (hname .scheme)
  · exact absurd hpath (hname .path)
  · exact absurd hauthority (hname .authority)
  · exact absurd hprotocol (hname .protocol)
  · exact absurd hstatus (hname .status)
  · rfl

/-- A field that is no pseudo-header is taken exactly when it is regular. -/
lemma takeField_regular (h : field.name.head? ≠ some 0x3a) :
    takeField message field = .ok read ↔ field.Regular ∧ read = message.markRegular := by
  rw [takeField, http3HeaderValidate, if_neg h, ResolvedField.Regular]
  split_ifs with hvalid hspecific hte
  · simp only [false_iff]
    rintro ⟨⟨-, hname, hvalue, -⟩, -⟩
    simp [hname, hvalue] at hvalid
  · simp [hspecific]
  · simp only [false_iff]
    rintro ⟨⟨-, -, -, -, htrailers⟩, -⟩
    exact hte.2 (htrailers hte.1)
  · dsimp only
    rw [rememberField_regular h]
    simp only [Bool.or_eq_true, Bool.not_eq_true', not_or, Bool.not_eq_false] at hvalid
    rw [Except.ok.injEq]
    constructor
    · rintro rfl
      exact ⟨⟨h, hvalid.1, hvalid.2, Bool.not_eq_true _ ▸ hspecific,
        fun hname => not_not.mp fun hne => hte ⟨hname, hne⟩⟩, rfl⟩
    · rintro ⟨-, rfl⟩
      rfl

/-- A name that is a pseudo-header's of a request. -/
lemma eq_name_of_pseudoHeaderOf {name : List UInt8}
    (h : pseudoHeaderOf .request name = some pseudo) :
    name = pseudo.name ∧ pseudo ≠ .status := by
  rw [pseudoHeaderOf] at h
  split_ifs at h with h1 h2 h3 h4 h5 <;> cases h
  · exact ⟨h1, nofun⟩
  · exact ⟨h2, nofun⟩
  · exact ⟨h3, nofun⟩
  · exact ⟨h4, nofun⟩
  · exact ⟨h5, nofun⟩

/-- A field that begins with a colon is taken only as a pseudo-header that is expected. -/
lemma takeField_colon (h : message.Holds seen) (hcolon : field.name.head? = some 0x3a)
    (htake : takeField message field = .ok read) :
    message.validation.sawRegular = false ∧ ∃ pseudo, field = pseudoField (pseudo, field.value) ∧
      pseudo ≠ .status ∧ pseudo ∉ seen.map Prod.fst ∧ fieldValueIsValid field.value ∧
      read = message.keep pseudo field.value := by
  cases hvalidate : http3HeaderValidate message.validation field.name field.value with
  | error reply =>
    rw [takeField, hvalidate] at htake
    cases htake
  | ok validation =>
    rw [http3HeaderValidate, if_pos hcolon, h.consistent.request] at hvalidate
    split at hvalidate
    · cases hvalidate
    rename_i hfirst
    rw [Bool.not_eq_true] at hfirst
    split at hvalidate
    · cases hvalidate
    rename_i pseudo hpseudo
    split at hvalidate
    · cases hvalidate
    rename_i hseen
    split at hvalidate
    · cases hvalidate
    rename_i hvalid
    rw [Bool.not_eq_true, Bool.not_eq_false'] at hvalid
    obtain ⟨hname, hdefined⟩ := eq_name_of_pseudoHeaderOf hpseudo
    have hnew : pseudo ∉ seen.map Prod.fst := fun hmem =>
      hseen ((h.seen_iff hdefined).mpr hmem)
    have hkept := takeField_pseudo (h.expects hfirst hnew hdefined) field.value
    rw [if_pos hvalid, ← hname, htake] at hkept
    exact ⟨hfirst, pseudo, by rw [pseudoField, ← hname], hdefined, hnew, hvalid,
      Except.ok.inj hkept⟩

end Take

/-! ## Reading a section -/

section Read

variable {message read : Message} {fields regular : List ResolvedField}
  {seen pseudos : List (PseudoHeader × List UInt8)}

lemma takeFields_cons_ok {field : ResolvedField}
    (h : takeFields (field :: fields) message = .ok read) :
    ∃ next, takeField message field = .ok next ∧ takeFields fields next = .ok read := by
  rw [takeFields] at h
  split at h
  · cases h
  · rename_i next hnext
    exact ⟨next, hnext, h⟩

lemma Message.Holds.markRegular (h : message.Holds seen) : message.markRegular.Holds seen :=
  ⟨⟨h.consistent.type, h.consistent.request, h.consistent.seen, h.consistent.connect⟩, h.value⟩

/-- Regular fields are taken and leave what was kept. -/
lemma takeFields_regular (h : message.Holds seen) (hregular : ∀ field ∈ regular, field.Regular) :
    ∃ read, takeFields regular message = .ok read ∧ read.Holds seen := by
  induction regular generalizing message with
  | nil => exact ⟨message, rfl, h⟩
  | cons field regular ih =>
    obtain ⟨hfield, hregular⟩ := List.forall_mem_cons.mp hregular
    obtain ⟨read, hread, hholds⟩ := ih h.markRegular hregular
    refine ⟨read, ?_, hholds⟩
    rw [takeFields, (takeField_regular hfield.1).mpr ⟨hfield, rfl⟩]
    exact hread

/-- After a regular field only regular fields are taken. -/
lemma regular_of_takeFields (h : message.Holds seen) (hafter : message.validation.sawRegular = true)
    (htake : takeFields fields message = .ok read) : ∀ field ∈ fields, field.Regular := by
  induction fields generalizing message with
  | nil => exact fun field hmem => absurd hmem List.not_mem_nil
  | cons field fields ih =>
    obtain ⟨next, hnext, hrest⟩ := takeFields_cons_ok htake
    by_cases hcolon : field.name.head? = some 0x3a
    · rw [(takeField_colon h hcolon hnext).1] at hafter
      cases hafter
    · obtain ⟨hfield, rfl⟩ := (takeField_regular hcolon).mp hnext
      exact List.forall_mem_cons.mpr ⟨hfield, ih h.markRegular rfl hrest⟩

/-- The fields that are taken are pseudo-headers, none of them twice, and then regular fields. -/
lemma takeFields_split (h : message.Holds seen) (hfirst : message.validation.sawRegular = false)
    (hseen : (seen.map Prod.fst).Nodup) (htake : takeFields fields message = .ok read) :
    ∃ pseudos regular, fields = pseudos.map pseudoField ++ regular ∧
      ((seen ++ pseudos).map Prod.fst).Nodup ∧
      (∀ pseudo ∈ pseudos, pseudo.1 ≠ .status ∧ fieldValueIsValid pseudo.2) ∧
      ∀ field ∈ regular, field.Regular := by
  induction fields generalizing message seen with
  | nil => exact ⟨[], [], rfl, by rwa [List.append_nil], by simp, by simp⟩
  | cons field fields ih =>
    obtain ⟨next, hnext, hrest⟩ := takeFields_cons_ok htake
    by_cases hcolon : field.name.head? = some 0x3a
    · obtain ⟨-, pseudo, hfield, hdefined, hnew, hvalid, rfl⟩ := takeField_colon h hcolon hnext
      have hnodup : ((seen ++ [(pseudo, field.value)]).map Prod.fst).Nodup := by
        rw [List.map_append, List.nodup_append]
        refine ⟨hseen, List.nodup_singleton _, ?_⟩
        rintro a ha b hb rfl
        obtain rfl : a = pseudo := by simpa using hb
        exact hnew ha
      have hstill : (message.keep pseudo field.value).validation.sawRegular = false := by
        cases pseudo <;> exact hfirst
      obtain ⟨pseudos, regular, rfl, honce, hpseudos, hregular⟩ :=
        ih (h.keep hnew hdefined) hstill hnodup hrest
      refine ⟨(pseudo, field.value) :: pseudos, regular, ?_, ?_, ?_, hregular⟩
      · rw [List.map_cons, List.cons_append, ← hfield]
      · rwa [List.append_assoc] at honce
      · exact List.forall_mem_cons.mpr ⟨⟨hdefined, hvalid⟩, hpseudos⟩
    · obtain ⟨hfield, rfl⟩ := (takeField_regular hcolon).mp hnext
      refine ⟨[], field :: fields, rfl, by rwa [List.append_nil], by simp, ?_⟩
      exact List.forall_mem_cons.mpr ⟨hfield, regular_of_takeFields h.markRegular rfl hrest⟩

/-- Such fields are taken, and the pseudo-headers among them kept. -/
lemma takeFields_join (h : message.Holds seen) (hfirst : message.validation.sawRegular = false)
    (honce : ((seen ++ pseudos).map Prod.fst).Nodup)
    (hpseudos : ∀ pseudo ∈ pseudos, pseudo.1 ≠ .status ∧ fieldValueIsValid pseudo.2)
    (hregular : ∀ field ∈ regular, field.Regular) :
    ∃ read, takeFields (pseudos.map pseudoField ++ regular) message = .ok read ∧
      read.Holds (seen ++ pseudos) := by
  induction pseudos generalizing message seen with
  | nil =>
    rw [List.append_nil]
    exact takeFields_regular h hregular
  | cons pseudo pseudos ih =>
    obtain ⟨⟨hdefined, hvalid⟩, hpseudos⟩ := List.forall_mem_cons.mp hpseudos
    have hnew : pseudo.1 ∉ seen.map Prod.fst := by
      rw [List.map_append, List.nodup_append] at honce
      exact fun hmem => honce.2.2 _ hmem pseudo.1 (by simp) rfl
    have hstill : (message.keep pseudo.1 pseudo.2).validation.sawRegular = false := by
      cases pseudo.1 <;> exact hfirst
    rw [List.append_cons] at honce ⊢
    obtain ⟨read, hread, hholds⟩ := ih (h.keep hnew hdefined) hstill honce hpseudos
    refine ⟨read, ?_, hholds⟩
    rw [List.map_cons, List.cons_append, takeFields, pseudoField,
      takeField_pseudo (h.expects hfirst hnew hdefined), if_pos hvalid]
    exact hread

/-- What a request has to carry, of what was kept. -/
lemma finishMessage_holds (h : read.Holds pseudos) :
    (∃ m, finishMessage read = .ok m) ↔
      Given (pseudos.lookup .method) ∧
      (pseudos.lookup .method = some (ascii "CONNECT") → pseudos.lookup .authority ≠ none) ∧
      (pseudos.lookup .method ≠ some (ascii "CONNECT") ∨ Given (pseudos.lookup .protocol) →
        Given (pseudos.lookup .scheme) ∧ Given (pseudos.lookup .path)) := by
  have hmethod : read.method = pseudos.lookup .method := h.value .method nofun
  have hscheme : read.scheme = pseudos.lookup .scheme := h.value .scheme nofun
  have hpath : read.path = pseudos.lookup .path := h.value .path nofun
  have hauthority : read.authority = pseudos.lookup .authority := h.value .authority nofun
  have hprotocol : read.protocol = pseudos.lookup .protocol := h.value .protocol nofun
  simp only [h.consistent.finishMessage_ok_iff, exists_eq_left, hmethod, hscheme, hpath, hauthority,
    hprotocol, Given]

end Read

/-! ## Decoding a request -/

section Decode

variable {sectionPrefix : HeaderPrefix} {table : Option DynamicTable} {capacity : ℕ}
  {payload bytes : List UInt8} {fields : List ResolvedField}

/-- The shapes of a request, as the reader checks them. -/
lemma RequestSection.shapes_iff {s : RequestSection} (hloose : ¬s.LooseConnect) :
    (s.Plain ∨ s.PlainConnect ∨ s.ExtendedConnect) ↔
      (s.IsConnect → s.value .authority ≠ none) ∧
      (¬s.IsConnect ∨ Given (s.value .protocol) →
        Given (s.value .scheme) ∧ Given (s.value .path)) := by
  have hgiven : ∀ {value : Option (List UInt8)}, Given value ↔ value ≠ none ∧ value ≠ some [] := by
    rintro (_ | value)
    · simp [Given, valueLength]
    · simp [Given, valueLength]
  simp only [Plain, PlainConnect, ExtendedConnect, hgiven]
  simp only [LooseConnect] at hloose
  by_cases hconnect : s.IsConnect
  · simp only [hconnect, not_true_eq_false, false_and, true_and, false_or, forall_const]
    simp only [hconnect, true_and, not_or, not_and, not_not] at hloose
    obtain ⟨hauthority, hprotocol, htarget⟩ := hloose
    by_cases hnone : s.value .protocol = none
    · simp [hnone, hauthority, htarget hnone]
    · simp only [hnone, hprotocol, hauthority, false_and, false_or, ne_eq, not_false_eq_true,
        true_and, and_true, forall_const]
      tauto
  · simp [hconnect]

/-- **Which sections are decoded as a request.** A CONNECT whose authority or protocol is empty, or
that has a part of a target and no protocol, is left out. -/
theorem http3MessageDecode_request_iff {maxEntries known : ℕ}
    (hbegin : qpackFieldSectionBegin maxEntries payload known = .ok (sectionPrefix, bytes))
    (hlines : sectionLines sectionPrefix table capacity (bytes.length + 1) 0 bytes = some fields)
    (hloose : ∀ s : RequestSection, s.fields = fields → ¬s.LooseConnect) :
    (∃ m, http3MessageDecode .request payload table maxEntries known capacity = .ok m) ↔
      ∃ s : RequestSection, s.fields = fields ∧ s.WellFormed := by
  have hinit : ({ type := .request } : Message).Holds [] :=
    ⟨Message.consistent_start, fun pseudo _ => by cases pseudo <;> rfl⟩
  have hdecode : http3MessageDecode .request payload table maxEntries known capacity =
      takeFields fields { type := .request } >>= finishMessage := by
    have hread := @decodeFields_of_lines _ _ _ _ _ _ _ { type := .request } hlines
    rw [http3MessageDecode, hbegin]
    dsimp only
    cases htaken : takeFields fields { type := .request } with
    | error reply =>
      rw [hread, htaken]
      rfl
    | ok message =>
      rw [hread, htaken]
      rfl
  -- A section of pseudo-headers and regular fields is taken, and the finish sees its values.
  have hsection : ∀ s : RequestSection, s.fields = fields →
      (∀ pseudo ∈ s.pseudos, fieldValueIsValid pseudo.2) →
      ((∃ m, http3MessageDecode .request payload table maxEntries known capacity = .ok m) ↔
        Given (s.value .method) ∧ (s.Plain ∨ s.PlainConnect ∨ s.ExtendedConnect)) := by
    rintro s rfl hvalid
    obtain ⟨read, hread, hholds⟩ := takeFields_join hinit rfl (List.nil_append s.pseudos ▸ s.once)
      (fun pseudo hmem => ⟨s.defined pseudo hmem, hvalid pseudo hmem⟩) s.rules
    rw [hdecode, RequestSection.fields, hread, RequestSection.shapes_iff (hloose s rfl)]
    exact finishMessage_holds hholds
  constructor
  · intro hok
    have htaken : ∃ read, takeFields fields { type := .request } = .ok read := by
      obtain ⟨m, hm⟩ := hok
      rw [hdecode] at hm
      cases htaken : takeFields fields { type := .request } with
      | error reply =>
        rw [htaken] at hm
        cases hm
      | ok read => exact ⟨read, rfl⟩
    obtain ⟨read, hread⟩ := htaken
    obtain ⟨pseudos, regular, hfields, honce, hpseudos, hregular⟩ :=
      takeFields_split hinit rfl List.nodup_nil hread
    rw [List.nil_append] at honce
    let s : RequestSection :=
      ⟨pseudos, regular, fun pseudo hmem => (hpseudos pseudo hmem).1, honce, hregular⟩
    have hvalid : ∀ pseudo ∈ s.pseudos, fieldValueIsValid pseudo.2 := fun pseudo hmem =>
      (hpseudos pseudo hmem).2
    exact ⟨s, hfields.symm, hvalid, (hsection s hfields.symm hvalid).mp hok⟩
  · rintro ⟨s, hs, hvalid, hshape⟩
    exact (hsection s hs hvalid).mpr hshape

end Decode

/-- A value of a section stands in one of its fields. -/
lemma RequestSection.mem_fields {s : RequestSection} {pseudo : PseudoHeader} {value : List UInt8}
    (h : s.value pseudo = some value) : ⟨pseudo.name, value⟩ ∈ s.fields := by
  have hmem : (pseudo, value) ∈ s.pseudos := by
    obtain ⟨before, after, hpseudos, -⟩ := List.lookup_eq_some_iff.mp h
    rw [hpseudos]
    exact List.mem_append_right _ List.mem_cons_self
  exact List.mem_append_left _ (List.mem_map_of_mem hmem)

/-- `GET https /` is decoded. -/
theorem http3MessageDecode_request_get :
    ∃ m, http3MessageDecode .request ([0x00, 0x00] ++ [0xd1, 0xd7, 0xc1]) none 0 0 0 = .ok m := by
  let s : RequestSection :=
    { pseudos := [(.method, ascii "GET"), (.scheme, ascii "https"), (.path, ascii "/")]
      regular := []
      defined := by decide
      once := by decide
      rules := by decide }
  have hplain : s.Plain := ⟨by decide, by decide, by decide⟩
  refine (@http3MessageDecode_request_iff ⟨0, 0⟩ none 0 _ [0xd1, 0xd7, 0xc1] s.fields 0 0 rfl
    (by decide) fun other hother hloose => ?_).mpr ⟨s, rfl, by decide, by decide, .inl hplain⟩
  have hconnect := RequestSection.mem_fields hloose.1
  rw [hother] at hconnect
  revert hconnect
  decide

/-- A path that is no field value is refused, and a protocol may come with any method. -/
theorem http3MessageDecode_request_differs :
    (∃ s : RequestSection, sectionLines ⟨0, 0⟩ none 0 6 0 [0xd1, 0xd7, 0x51, 0x01, 0x0d] =
        some s.fields ∧
      Given (s.value .method) ∧ ¬s.IsConnect ∧ s.value .protocol = none ∧
      Given (s.value .scheme) ∧ Given (s.value .path) ∧
      ∀ m, http3MessageDecode .request ([0x00, 0x00] ++ [0xd1, 0xd7, 0x51, 0x01, 0x0d]) none 0 0 0 ≠
        .ok m) ∧
    ∃ s : RequestSection, sectionLines ⟨0, 0⟩ none 0 16 0 ([0xd1, 0xd7, 0xc1, 0x27, 0x02] ++
        ascii ":protocol" ++ [0x01, 0x78]) = some s.fields ∧
      ¬s.IsConnect ∧ s.value .protocol ≠ none ∧
      ∃ m, http3MessageDecode .request ([0x00, 0x00] ++ ([0xd1, 0xd7, 0xc1, 0x27, 0x02] ++
        ascii ":protocol" ++ [0x01, 0x78])) none 0 0 0 = .ok m := by
  constructor
  · refine ⟨⟨[(.method, ascii "GET"), (.scheme, ascii "https"), (.path, [0x0d])], [], by decide,
      by decide, by decide⟩, by decide, by decide, by decide, by decide, by decide, by decide, ?_⟩
    rintro m ⟨⟩
  · exact ⟨⟨[(.method, ascii "GET"), (.scheme, ascii "https"), (.path, ascii "/"),
      (.protocol, ascii "x")], [], by decide, by decide, by decide⟩, by decide, by decide,
      by decide, _, rfl⟩

end WebTransport
