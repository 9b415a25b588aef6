import WebTransport.Http3.Control
import WebTransport.Http3.QpackFieldSection

/-!
# HTTP/3 messages

A header section is a list of fields. The rules every field and the whole section obey are
`http3/headers.c`; the decoder and the encoder of a request's or a response's section are
`http3/message.c`.
-/

namespace WebTransport

/-! ## The rules of a header section -/

inductive HeaderMessage
  | request
  | response
deriving DecidableEq, Repr

inductive PseudoHeader
  | method
  | scheme
  | path
  | authority
  | status
  | protocol
deriving DecidableEq, Repr

def PseudoHeader.name : PseudoHeader → List UInt8
  | .method => ascii ":method"
  | .scheme => ascii ":scheme"
  | .path => ascii ":path"
  | .authority => ascii ":authority"
  | .status => ascii ":status"
  | .protocol => ascii ":protocol"

/-- What has been seen of a section so far. -/
structure HeaderValidation where
  message : HeaderMessage
  sawRegular : Bool
  pseudoSeen : List PseudoHeader
  isConnect : Bool
deriving DecidableEq, Repr

def http3HeaderValidationInit (message : HeaderMessage) : HeaderValidation :=
  ⟨message, false, [], false⟩

/-- The punctuation a token may hold: `!#$%&'*+-.^_` with the grave accent, `|` and `~`. -/
def tokenPunctuation : List UInt8 :=
  [0x21, 0x23, 0x24, 0x25, 0x26, 0x27, 0x2a, 0x2b, 0x2d, 0x2e, 0x5e, 0x5f, 0x60, 0x7c, 0x7e]

/-- A field name is a token without uppercase letters. -/
def fieldNameIsValid (name : List UInt8) : Bool :=
  !name.isEmpty && name.all fun c =>
    (0x61 ≤ c && c ≤ 0x7a) || (0x30 ≤ c && c ≤ 0x39) || tokenPunctuation.contains c

/-- A field value holds no control byte but the tab. -/
def fieldValueIsValid (value : List UInt8) : Bool :=
  value.all fun c => c = 0x09 || c = 0x20 || (0x21 ≤ c && c ≠ 0x7f)

def isConnectionSpecific (name : List UInt8) : Bool :=
  name = ascii "connection" || name = ascii "transfer-encoding" || name = ascii "keep-alive" ||
    name = ascii "upgrade" || name = ascii "proxy-connection"

/-- The answer to a malformed message. -/
def messageRefusal : Reply := (.protocol, .messageError)

/-- The pseudo-header a name is in a message of some type. -/
def pseudoHeaderOf (message : HeaderMessage) (name : List UInt8) : Option PseudoHeader :=
  match message with
  | .request =>
    if name = ascii ":method" then some .method
    else if name = ascii ":scheme" then some .scheme
    else if name = ascii ":path" then some .path
    else if name = ascii ":authority" then some .authority
    else if name = ascii ":protocol" then some .protocol
    else none
  | .response => if name = ascii ":status" then some .status else none

/-- Check one field. -/
def http3HeaderValidate (validation : HeaderValidation) (name value : List UInt8) :
    Except Reply HeaderValidation :=
  if name.head? = some 0x3a then
    if validation.sawRegular then .error messageRefusal
    else
      match pseudoHeaderOf validation.message name with
      | none => .error messageRefusal
      | some pseudo =>
        if pseudo ∈ validation.pseudoSeen then .error messageRefusal
        else if !fieldValueIsValid value then .error messageRefusal
        else
          .ok { validation with
            pseudoSeen := pseudo :: validation.pseudoSeen
            isConnect := validation.isConnect ||
              (decide (pseudo = .method) && decide (value = ascii "CONNECT")) }
  else if !fieldNameIsValid name || !fieldValueIsValid value then .error messageRefusal
  else if isConnectionSpecific name then .error messageRefusal
  else if name = ascii "te" ∧ value ≠ ascii "trailers" then .error messageRefusal
  else .ok { validation with sawRegular := true }

/-- Check what the section did not carry. -/
def http3HeaderFinish (validation : HeaderValidation) : Reply :=
  match validation.message with
  | .response => if .status ∈ validation.pseudoSeen then Reply.good else messageRefusal
  | .request =>
    if .method ∉ validation.pseudoSeen then messageRefusal
    else if validation.isConnect then
      if .authority ∈ validation.pseudoSeen then Reply.good else messageRefusal
    else if .scheme ∈ validation.pseudoSeen ∧ .path ∈ validation.pseudoSeen then Reply.good
    else messageRefusal

/-! ## Messages -/

/-- A message's pseudo-headers; an absent value is `none`. -/
structure Message where
  type : HeaderMessage
  method : Option (List UInt8) := none
  scheme : Option (List UInt8) := none
  path : Option (List UInt8) := none
  authority : Option (List UInt8) := none
  protocol : Option (List UInt8) := none
  status : Option ℕ := none
  validation : HeaderValidation := http3HeaderValidationInit type
deriving DecidableEq, Repr

/-- An absent value and an empty one have the same length. -/
def valueLength (value : Option (List UInt8)) : ℕ := (value.getD []).length

def mapQpackError : QpackError → Http3Error
  | .none => .noError
  | .decompressionFailed => .qpackDecompressionFailed
  | .encoderStream => .qpackEncoderStreamError
  | .decoderStream => .qpackDecoderStreamError

def isDigit (c : UInt8) : Bool := 0x30 ≤ c && c ≤ 0x39

/-- A status is three digits from 100 to 599. -/
def parseStatus : List UInt8 → Option ℕ
  | [a, b, c] =>
    if !isDigit a || !isDigit b || !isDigit c then none
    else
      let status := (a.toNat - 0x30) * 100 + (b.toNat - 0x30) * 10 + (c.toNat - 0x30)
      if status < 100 ∨ status > 599 then none else some status
  | _ => none

/-- Keep the values the rest of the stack needs. -/
def rememberField (message : Message) (field : ResolvedField) : Except Reply Message :=
  if field.name = ascii ":method" then .ok { message with method := some field.value }
  else if field.name = ascii ":scheme" then .ok { message with scheme := some field.value }
  else if field.name = ascii ":path" then .ok { message with path := some field.value }
  else if field.name = ascii ":authority" then .ok { message with authority := some field.value }
  else if field.name = ascii ":protocol" then .ok { message with protocol := some field.value }
  else if field.name = ascii ":status" then
    match parseStatus field.value with
    | none => .error messageRefusal
    | some status => .ok { message with status := some status }
  else .ok message

/-- One field of a section: it is checked, then kept. -/
def takeField (message : Message) (field : ResolvedField) : Except Reply Message :=
  match http3HeaderValidate message.validation field.name field.value with
  | .error reply => .error reply
  | .ok validation => rememberField { message with validation } field

/-- What a refusal of the section decoder is answered with. -/
def sectionRefusal (e : Status × QpackError) : Reply := (e.1, mapQpackError e.2)

section Decode

variable (sectionPrefix : HeaderPrefix) (table : Option DynamicTable) (capacity : ℕ)

/-- The fields of a section, one after another. Every line takes a byte, so `fuel` beyond the
number of bytes is enough. -/
def decodeFields : ℕ → ℕ → List UInt8 → Message → Except Reply Message
  | 0, _, _, message => .ok message
  | fuel + 1, used, bytes, message =>
    if bytes.isEmpty then .ok message
    else
      match qpackFieldSectionNext sectionPrefix table capacity used bytes with
      | .error e => .error (sectionRefusal e)
      | .ok (field, used, rest) =>
        match takeField message field with
        | .error reply => .error reply
        | .ok message => decodeFields fuel used rest message

end Decode

/-- The values that have to be there are not allowed to be empty: only a plain CONNECT needs
no scheme and no path. -/
def requestContent (message : Message) : Reply :=
  let isConnect := decide (message.method = some (ascii "CONNECT"))
  if valueLength message.method = 0 then messageRefusal
  else if (!isConnect ∨ valueLength message.protocol ≠ 0) ∧
      (valueLength message.scheme = 0 ∨ valueLength message.path = 0) then messageRefusal
  else Reply.good

/-- The end of a section. -/
def finishMessage (message : Message) : Except Reply Message :=
  let finished := http3HeaderFinish message.validation
  if finished.1 ≠ .ok then .error finished
  else if message.type = .request then
    let content := requestContent message
    if content.1 ≠ .ok then .error content else .ok message
  else .ok message

/-- Decode a header section of a type. -/
def http3MessageDecode (type : HeaderMessage) (payload : List UInt8)
    (table : Option DynamicTable) (maxEntries known capacity : ℕ) : Except Reply Message :=
  match qpackFieldSectionBegin maxEntries payload known with
  | .error e => .error (sectionRefusal e)
  | .ok (sectionPrefix, bytes) =>
    match decodeFields sectionPrefix table capacity (bytes.length + 1) 0 bytes { type } with
    | .error reply => .error reply
    | .ok message => finishMessage message

section Rules

variable {validation : HeaderValidation} {message read : Message}

lemma http3HeaderFinish_request (h : validation.message = .request) :
    (http3HeaderFinish validation).1 = .ok ↔
      .method ∈ validation.pseudoSeen ∧
      (validation.isConnect = true → .authority ∈ validation.pseudoSeen) ∧
      (validation.isConnect = false →
        .scheme ∈ validation.pseudoSeen ∧ .path ∈ validation.pseudoSeen) := by
  rw [http3HeaderFinish, h]
  dsimp only
  split_ifs with hmethod hconnect hauthority htarget <;>
    simp_all [messageRefusal, Reply.good]

lemma requestContent_ok : (requestContent message).1 = .ok ↔
    valueLength message.method ≠ 0 ∧
    (message.method ≠ some (ascii "CONNECT") ∨ valueLength message.protocol ≠ 0 →
      valueLength message.scheme ≠ 0 ∧ valueLength message.path ≠ 0) := by
  rw [requestContent]
  split_ifs with hmethod htarget
  · simp [messageRefusal, hmethod]
  · simp only [messageRefusal, reduceCtorEq, false_iff, not_and]
    simp only [Bool.not_eq_true', decide_eq_false_iff_not] at htarget
    intro _ hboth
    obtain ⟨hscheme, hpath⟩ := hboth htarget.1
    exact htarget.2.elim hscheme hpath
  · simp only [Reply.good, true_iff]
    simp only [Bool.not_eq_true', decide_eq_false_iff_not, not_and, not_or] at htarget
    exact ⟨hmethod, htarget⟩

/-- A section ends well when it carries what it has to. -/
lemma finishMessage_ok : finishMessage message = .ok read ↔
    read = message ∧ (http3HeaderFinish message.validation).1 = .ok ∧
      (message.type = .request → (requestContent message).1 = .ok) := by
  unfold finishMessage
  dsimp only
  split_ifs with hfinish htype hcontent
  · simp [hfinish]
  · simp [htype, hcontent]
  · simp only [Except.ok.injEq, not_not.mp hfinish, not_not.mp hcontent, implies_true, and_true,
      eq_comm]
  · simp only [Except.ok.injEq, not_not.mp hfinish, htype, false_implies, and_true, eq_comm]

lemma rememberField_type {field : ResolvedField} (h : rememberField message field = .ok read) :
    read.type = message.type := by
  unfold rememberField at h
  split_ifs at h
  · exact (Except.ok.inj h) ▸ rfl
  · exact (Except.ok.inj h) ▸ rfl
  · exact (Except.ok.inj h) ▸ rfl
  · exact (Except.ok.inj h) ▸ rfl
  · exact (Except.ok.inj h) ▸ rfl
  · cases hstatus : parseStatus field.value with
    | none =>
      rw [hstatus] at h
      cases h
    | some status =>
      rw [hstatus] at h
      exact (Except.ok.inj h) ▸ rfl
  · exact (Except.ok.inj h) ▸ rfl

lemma takeField_type {field : ResolvedField} (h : takeField message field = .ok read) :
    read.type = message.type := by
  unfold takeField at h
  cases hvalid : http3HeaderValidate message.validation field.name field.value with
  | error reply =>
    rw [hvalid] at h
    cases h
  | ok validation =>
    rw [hvalid] at h
    have htype := rememberField_type h
    exact htype

/-- A field changes nothing of which message is read. -/
lemma decodeFields_type {sectionPrefix : HeaderPrefix} {table : Option DynamicTable}
    {capacity fuel used : ℕ} {bytes : List UInt8}
    (h : decodeFields sectionPrefix table capacity fuel used bytes message = .ok read) :
    read.type = message.type := by
  induction fuel generalizing used bytes message with
  | zero => exact (Except.ok.inj h) ▸ rfl
  | succ fuel ih =>
    rw [decodeFields] at h
    split_ifs at h
    · exact (Except.ok.inj h) ▸ rfl
    · split at h
      · cases h
      · split at h
        · cases h
        · next htake => exact (ih h).trans (takeField_type htake)

/-- A message the rules of requests accept has a method. -/
lemma http3MessageDecode_request_method {payload : List UInt8} {table : Option DynamicTable}
    {maxEntries known capacity : ℕ}
    (h : http3MessageDecode .request payload table maxEntries known capacity = .ok read) :
    valueLength read.method ≠ 0 := by
  unfold http3MessageDecode at h
  split at h
  · cases h
  · split at h
    · cases h
    · next hfields =>
      obtain ⟨rfl, -, hcontent⟩ := finishMessage_ok.mp h
      exact (requestContent_ok.mp (hcontent (decodeFields_type hfields))).1

end Rules

/-! ## Writing -/

/-- A pseudo-header with its value, when there is one. -/
def addPseudo (name : List UInt8) (value : Option (List UInt8)) : List ResolvedField :=
  match value with
  | none => []
  | some value => [⟨name, value⟩]

/-- The three digits of a status. -/
def statusText (status : ℕ) : List UInt8 :=
  [UInt8.ofNat (0x30 + status / 100 % 10), UInt8.ofNat (0x30 + status / 10 % 10),
    UInt8.ofNat (0x30 + status % 10)]

/-- The field lines of a message. -/
def messageLines (message : Message) : Except Reply (List ResolvedField) :=
  match message.type with
  | .request =>
    if message.method = none then .error (.invalidArgument, .messageError)
    else
      .ok (addPseudo (ascii ":method") message.method ++
        addPseudo (ascii ":scheme") message.scheme ++
        addPseudo (ascii ":authority") message.authority ++
        addPseudo (ascii ":path") message.path ++
        addPseudo (ascii ":protocol") message.protocol)
  | .response =>
    match message.status with
    | none => .error (.invalidArgument, .messageError)
    | some status =>
      if status < 100 ∨ status > 599 then .error (.limit, .messageError)
      else .ok (addPseudo (ascii ":status") (some (statusText status)))

/-- Write field lines, all of them literal. -/
def encodeLines : List ResolvedField → Writer → Except Status Writer
  | [], w => .ok w
  | line :: lines, w =>
    match qpackFieldLineEncodeLiteral w line.name line.value with
    | .error status => .error status
    | .ok w => encodeLines lines w

/-- Write a message: nothing is indexed, so the prefix asks for no insertions. -/
def http3MessageEncode (w : Writer) (message : Message) (maxEntries : ℕ) : Except Reply Writer :=
  match messageLines message with
  | .error reply => .error reply
  | .ok lines =>
    match qpackHeaderPrefixEncode w 0 0 maxEntries with
    | .error _ => .error (.limit, .noError)
    | .ok w =>
      match encodeLines lines w with
      | .error status => .error (status, .noError)
      | .ok w => .ok w

end WebTransport
