import WebTransport.Http3.EndpointMessages
import WebTransport.Http3.MessageRoundTrip

/-!
# The grammar of an exchange

A request is one header section and perhaps a trailer; a response is one section after any number
of interim ones. This module compares the grammar with the sequences of sections the endpoint
accepts: of a request it takes one section and no trailer, of a response one section, which may
be interim.
-/

namespace WebTransport

/-! ## Sections that arrive -/

/-- A section as it arrives: its bytes, what the decoder's table holds by then, and the scratch
the caller has. -/
structure SectionArrival where
  payload : List UInt8
  table : DynamicTable
  insertCount : ℕ
  scratch : ℕ

/-- The endpoint when a section arrives. -/
def MessageEndpoint.meeting (e : MessageEndpoint) (a : SectionArrival) : MessageEndpoint :=
  { e with decoderTable := a.table, decoderInsertCount := a.insertCount }

/-- What the rules of a request or of a response make of a section. -/
def SectionArrival.message (a : SectionArrival) (type : HeaderMessage) : Except Reply Message :=
  http3MessageDecode type a.payload (some a.table) (qpackMaxEntries a.table.capacity) a.insertCount
    a.scratch

def SectionArrival.fields (a : SectionArrival) : Option (List ResolvedField) :=
  match qpackFieldSectionBegin (qpackMaxEntries a.table.capacity) a.payload a.insertCount with
  | .error _ => none
  | .ok (sectionPrefix, bytes) =>
    sectionLines sectionPrefix (some a.table) a.scratch (bytes.length + 1) 0 bytes

/-! ## The grammar -/

/-- A regular field: no pseudo-header, and nothing the rules for fields forbid. -/
def ResolvedField.Regular (field : ResolvedField) : Prop :=
  field.name.head? ≠ some 0x3a ∧ fieldNameIsValid field.name ∧ fieldValueIsValid field.value ∧
    isConnectionSpecific field.name = false ∧
    (field.name = ascii "te" → field.value = ascii "trailers")

instance (field : ResolvedField) : Decidable field.Regular := inferInstanceAs (Decidable (_ ∧ _))

def SectionArrival.IsRequest (a : SectionArrival) : Prop := ∃ m, a.message .request = .ok m

/-- All the fields of a trailer are regular. -/
def SectionArrival.IsTrailer (a : SectionArrival) : Prop :=
  ∃ fields, a.fields = some fields ∧ ∀ field ∈ fields, field.Regular

def SectionArrival.IsResponse (a : SectionArrival) : Prop := ∃ m, a.message .response = .ok m

/-- A response with a status below 200 announces another one. -/
def SectionArrival.IsInterim (a : SectionArrival) : Prop :=
  ∃ m, a.message .response = .ok m ∧ ∃ status, m.status = some status ∧ status < 200

/-- The beginnings of a request. -/
def RequestGrammar : List SectionArrival → Prop
  | [] => True
  | [a] => a.IsRequest
  | [a, b] => a.IsRequest ∧ b.IsTrailer
  | _ => False

/-- The beginnings of a response. -/
def ResponseGrammar : List SectionArrival → Prop
  | [] => True
  | [a] => a.IsResponse
  | a :: b :: rest => a.IsInterim ∧ ResponseGrammar (b :: rest)

/-! ## What the endpoint accepts -/

/-- Every section is accepted, one after another. -/
def AcceptsAll (call : HeadersCall) (streamId : ℕ) : MessageEndpoint → List SectionArrival → Prop
  | _, [] => True
  | e, a :: rest =>
    (∃ m, (call (e.meeting a) streamId a.payload a.scratch).2 = .ok m) ∧
      AcceptsAll call streamId (call (e.meeting a) streamId a.payload a.scratch).1 rest

/-- The sections of a stream that are accepted one after another are those of a grammar. -/
def Follows (call : HeadersCall) (Grammar : List SectionArrival → Prop) (e : MessageEndpoint)
    (streamId : ℕ) (sections : List SectionArrival) : Prop :=
  ∀ k, AcceptsAll call streamId e (sections.take k) ↔ Grammar (sections.take k)

/-- A request with a trailer. -/
def BeginsWithTrailer : List SectionArrival → Prop
  | a :: b :: _ => a.IsRequest ∧ b.IsTrailer
  | _ => False

/-- A response after an interim one. -/
def BeginsWithInterim : List SectionArrival → Prop
  | a :: b :: _ => a.IsInterim ∧ b.IsResponse
  | _ => False

section Follows

variable {e : MessageEndpoint} {streamId : ℕ} {r : EndpointRequest} {a b : SectionArrival}
  {rest sections : List SectionArrival}

lemma SectionArrival.IsInterim.isResponse (h : a.IsInterim) : a.IsResponse := by
  obtain ⟨m, hm, -⟩ := h
  exact ⟨m, hm⟩

/-- A response begins with a section the rules for responses accept. -/
lemma ResponseGrammar.head (h : ResponseGrammar (a :: rest)) : a.IsResponse := by
  cases rest with
  | nil => exact h
  | cons b rest => exact h.1.isResponse

/-- What arrives with a section leaves the requests. -/
lemma MessageEndpoint.Tracks.meeting (h : e.Tracks streamId r) : (e.meeting a).Tracks streamId r :=
  h

lemma acceptsAll_request_one (h : e.Tracks streamId r) (hended : r.request.ended = false)
    (hstate : r.request.state = .expectHeaders) :
    AcceptsAll http3EndpointOnRequestHeaders streamId e [a] ↔ a.IsRequest := by
  rw [AcceptsAll, http3EndpointOnRequestHeaders_first h.meeting hended hstate, AcceptsAll, and_true]
  exact Iff.rfl

lemma acceptsAll_request_two (h : e.Tracks streamId r) :
    ¬AcceptsAll http3EndpointOnRequestHeaders streamId e (a :: b :: rest) := by
  rintro ⟨⟨m, hfirst⟩, ⟨m', hsecond⟩, -⟩
  obtain ⟨r', htracks, hstate⟩ := http3EndpointOnRequestHeaders_tracks h.meeting hfirst
  exact http3EndpointOnRequestHeaders_later htracks.meeting hstate hsecond

/-- The endpoint accepts one section of a response. -/
lemma acceptsAll_response_one (h : e.Tracks streamId r) (hended : r.request.ended = false)
    (hseen : r.responseSeen = false) :
    AcceptsAll http3EndpointOnResponseHeaders streamId e [a] ↔ a.IsResponse := by
  rw [AcceptsAll, (http3EndpointOnResponseHeaders_first h.meeting hended hseen).1, AcceptsAll,
    and_true]
  exact Iff.rfl

lemma acceptsAll_response_two (h : e.Tracks streamId r) (hended : r.request.ended = false)
    (hseen : r.responseSeen = false) :
    ¬AcceptsAll http3EndpointOnResponseHeaders streamId e (a :: b :: rest) := by
  rintro ⟨-, ⟨m, hsecond⟩, -⟩
  have htracks : (http3EndpointOnResponseHeaders (e.meeting a) streamId a.payload
      a.scratch).1.Tracks streamId { r with responseSeen := true } :=
    (http3EndpointOnResponseHeaders_first h.meeting hended hseen).2
  rw [http3EndpointOnResponseHeaders_later htracks.meeting rfl] at hsecond
  cases hsecond

/-- A call that takes one section follows a grammar as far as the grammar needs no second. -/
lemma follows_iff_of_one {call : HeadersCall} {Grammar : List SectionArrival → Prop}
    (hnil : Grammar []) (hone : ∀ a, AcceptsAll call streamId e [a] ↔ Grammar [a])
    (htwo : ∀ a b rest, ¬AcceptsAll call streamId e (a :: b :: rest)) :
    Follows call Grammar e streamId sections ↔
      ∀ k a b rest, sections.take k = a :: b :: rest → ¬Grammar (a :: b :: rest) := by
  constructor
  · intro hfollows k a b rest htake hgrammar
    rw [← htake] at hgrammar
    have haccepts := (hfollows k).mpr hgrammar
    rw [htake] at haccepts
    exact htwo a b rest haccepts
  · intro hno k
    match htake : sections.take k with
    | [] => exact ⟨fun _ => hnil, fun _ => trivial⟩
    | [a] => exact hone a
    | a :: b :: rest =>
      exact ⟨fun h => absurd h (htwo a b rest), fun h => absurd h (hno k a b rest htake)⟩

/-- The first two sections of a beginning are those of the sequence. -/
lemma eq_cons_of_take {k : ℕ} (h : sections.take k = a :: b :: rest) :
    ∃ tail, sections = a :: b :: tail := by
  refine ⟨rest ++ sections.drop k, ?_⟩
  rw [← List.cons_append, ← List.cons_append, ← h, List.take_append_drop]

/-- **What of the grammar the endpoint follows.** It takes the sections of a request as the
grammar has them unless a trailer follows the request, and the sections of a response unless
another follows an interim one. -/
theorem headerSections_follow_iff (h : e.Tracks streamId r) (hended : r.request.ended = false)
    (sections : List SectionArrival) :
    (r.request.state = .expectHeaders →
      (Follows http3EndpointOnRequestHeaders RequestGrammar e streamId sections ↔
        ¬BeginsWithTrailer sections)) ∧
    (r.responseSeen = false →
      (Follows http3EndpointOnResponseHeaders ResponseGrammar e streamId sections ↔
        ¬BeginsWithInterim sections)) := by
  constructor
  · intro hstate
    rw [follows_iff_of_one trivial (fun a => acceptsAll_request_one h hended hstate)
      fun a b rest => acceptsAll_request_two h]
    constructor
    · intro hno hbegins
      match sections, hbegins with
      | a :: b :: rest, hbegins => exact hno 2 a b [] rfl hbegins
    · intro hbegins k a b rest htake hgrammar
      obtain ⟨tail, rfl⟩ := eq_cons_of_take htake
      cases rest with
      | nil => exact hbegins hgrammar
      | cons c rest => exact hgrammar
  · intro hseen
    rw [follows_iff_of_one trivial (fun a => acceptsAll_response_one h hended hseen)
      fun a b rest => acceptsAll_response_two h hended hseen]
    constructor
    · intro hno hbegins
      match sections, hbegins with
      | a :: b :: rest, hbegins => exact hno 2 a b [] rfl hbegins
    · intro hbegins k a b rest htake hgrammar
      obtain ⟨tail, rfl⟩ := eq_cons_of_take htake
      exact hbegins ⟨hgrammar.1, hgrammar.2.head⟩

end Follows

/-! ## Two exchanges -/

/-- A server with one request stream, on which nothing has arrived. -/
def exchangeEndpoint : MessageEndpoint :=
  { messageEndpointInit with requests := [⟨0, false, http3RequestInit⟩] }

/-- A section that needs no table. -/
def plainSection (lines : List UInt8) : SectionArrival :=
  ⟨[0x00, 0x00] ++ lines, qpackDynamicInit 0, 0, 0⟩

/-- `GET https /`, from the static table. -/
def getSection : SectionArrival := plainSection [0xd1, 0xd7, 0xc1]

/-- The field `x: y`. -/
def regularSection : SectionArrival := plainSection [0x21, 0x78, 0x01, 0x79]

/-- A response of status 103. -/
def earlyHints : SectionArrival := plainSection [0xd8]

/-- A response of status 200. -/
def finalSection : SectionArrival := plainSection [0xd9]

theorem exchange_without_trailer :
    Follows http3EndpointOnRequestHeaders RequestGrammar exchangeEndpoint 0 [getSection] ∧
      Follows http3EndpointOnResponseHeaders ResponseGrammar exchangeEndpoint 0 [finalSection] := by
  have htracks : exchangeEndpoint.Tracks 0 ⟨0, false, http3RequestInit⟩ := rfl
  exact ⟨((headerSections_follow_iff htracks rfl [getSection]).1 rfl).mpr id,
    ((headerSections_follow_iff htracks rfl [finalSection]).2 rfl).mpr id⟩

/-- **A trailer is refused after a request, and a response after an interim one.** -/
theorem trailer_and_final_refused :
    ¬Follows http3EndpointOnRequestHeaders RequestGrammar exchangeEndpoint 0
        [getSection, regularSection] ∧
      ¬Follows http3EndpointOnResponseHeaders ResponseGrammar exchangeEndpoint 0
        [earlyHints, finalSection] := by
  have htracks : exchangeEndpoint.Tracks 0 ⟨0, false, http3RequestInit⟩ := rfl
  constructor
  · intro hfollows
    have hrequest : getSection.IsRequest := ⟨_, rfl⟩
    have htrailer : regularSection.IsTrailer := ⟨[⟨[0x78], [0x79]⟩], by decide, by decide⟩
    exact acceptsAll_request_two htracks ((hfollows 2).mpr ⟨hrequest, htrailer⟩)
  · intro hfollows
    have hinterim : earlyHints.IsInterim := ⟨_, rfl, 103, rfl, by decide⟩
    have hfinal : finalSection.IsResponse := ⟨_, rfl⟩
    exact acceptsAll_response_two htracks rfl rfl ((hfollows 2).mpr ⟨hinterim, hfinal⟩)

end WebTransport
