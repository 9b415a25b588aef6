import WebTransport.Http3.Endpoint
import WebTransport.Http3.EndpointMessages

/-!
# Frames without a meaning

Frame types that are not known, or are reserved to exercise that such types be ignored
(`http3/frame.c`), on a request stream. The table of the frames a stream may carry
(`http3/streams.c`) lets them pass; the machine of the stream does not.
-/

namespace WebTransport

/-! ## Which frames a stream may carry -/

/-- The types reserved to exercise that unknown ones are ignored. -/
def http3FrameTypeIsExerciser (type : ℕ) : Bool :=
  if type < 0x21 then false else (type - 0x21) % 0x1f = 0

/-- The kinds of stream the rules tell apart (`wt_http3_stream_kind_t`). -/
inductive Http3StreamKind
  | control
  | request
  | push
  | qpackEncoder
  | qpackDecoder
deriving DecidableEq, Repr

/-- Whether a frame of a type may appear on a stream of a kind. -/
def http3FrameAllowed (receiver : Http3Role) (kind : Http3StreamKind) (type : ℕ) : Reply :=
  if http3FrameTypeIsReserved type then (.protocol, .frameUnexpected)
  else
    match kind with
    | .qpackEncoder => (.protocol, .frameUnexpected)
    | .qpackDecoder => (.protocol, .frameUnexpected)
    | .control =>
      if type = http3FrameData ∨ type = http3FrameHeaders ∨ type = http3FramePushPromise then
        (.protocol, .frameUnexpected)
      else if type = http3FrameMaxPushId ∧ receiver = .client then (.protocol, .frameUnexpected)
      else Reply.good
    | .request =>
      if type = http3FrameSettings ∨ type = http3FrameGoaway ∨ type = http3FrameMaxPushId ∨
          type = http3FrameCancelPush then
        (.protocol, .frameUnexpected)
      else if type = http3FramePushPromise ∧ receiver = .server then (.protocol, .frameUnexpected)
      else Reply.good
    | .push =>
      if type = http3FrameSettings ∨ type = http3FrameGoaway ∨ type = http3FrameMaxPushId ∨
          type = http3FrameCancelPush ∨ type = http3FramePushPromise then
        (.protocol, .frameUnexpected)
      else Reply.good

/-! ## Sequences of frames -/

/-- A request stream after frames of some types, and whether every one was accepted. -/
def requestRun (request : RequestStream) : List ℕ → RequestStream × Bool
  | [] => (request, true)
  | type :: types =>
    let result := http3RequestOnFrame request type
    let rest := requestRun result.1 types
    (rest.1, result.2.1 = .ok && rest.2)

/-- A type that is unknown, or reserved to be ignored. -/
def Meaningless (type : ℕ) : Prop :=
  http3FrameTypeIsKnown type = false ∨ http3FrameTypeIsExerciser type = true

/-- The second sequence is the first with meaningless frames inserted anywhere. -/
inductive Inserted : List ℕ → List ℕ → Prop
  | nil : Inserted [] []
  | keep {types types' : List ℕ} (type : ℕ) (h : Inserted types types') :
    Inserted (type :: types) (type :: types')
  | put {types types' : List ℕ} {type : ℕ} (hless : Meaningless type)
    (h : Inserted types types') : Inserted types (type :: types')

/-- Inserted frames have no meaning: the sequence ends as it does without them. And the machine
refuses in every state what the rules of the stream refuse. -/
structure NoMeaning (types types' : List ℕ) : Prop where
  sameEnd : requestRun http3RequestInit types' = requestRun http3RequestInit types
  refused : ∀ (receiver : Http3Role) (type : ℕ) (request : RequestStream),
    (http3FrameAllowed receiver .request type).1 ≠ .ok →
      (http3RequestOnFrame request type).2.1 ≠ .ok

/-- The beginning of a request: its HEADERS, any number of DATA, the trailer. -/
def RequestShape (types : List ℕ) : Prop :=
  ∃ n, types <+: http3FrameHeaders :: (List.replicate n http3FrameData ++ [http3FrameHeaders])

/-! ## What the machine accepts -/

section Frames

variable {types types' : List ℕ} {type : ℕ} {request : RequestStream}

lemma http3RequestOnFrame_start (type : ℕ) : http3RequestOnFrame ⟨.expectHeaders, false⟩ type =
    if type = http3FrameHeaders then (⟨.body, false⟩, Reply.good)
    else (⟨.expectHeaders, false⟩, .protocol, .frameUnexpected) := rfl

lemma http3RequestOnFrame_body (type : ℕ) : http3RequestOnFrame ⟨.body, false⟩ type =
    if type = http3FrameData then (⟨.body, false⟩, Reply.good)
    else if type = http3FrameHeaders then (⟨.complete, false⟩, Reply.good)
    else (⟨.body, false⟩, .protocol, .frameUnexpected) := rfl

/-- The machine accepts HEADERS and DATA only, and what it refuses leaves it. -/
lemma http3RequestOnFrame_cases (request : RequestStream) (type : ℕ) :
    (type = http3FrameHeaders ∨ type = http3FrameData) ∨
      (http3RequestOnFrame request type).1 = request ∧
        (http3RequestOnFrame request type).2.1 ≠ .ok := by
  by_cases hheaders : type = http3FrameHeaders
  · exact .inl (.inl hheaders)
  by_cases hdata : type = http3FrameData
  · exact .inl (.inr hdata)
  refine .inr ?_
  obtain ⟨state, ended⟩ := request
  cases ended with
  | true => exact ⟨rfl, nofun⟩
  | false =>
    cases state with
    | expectHeaders =>
      rw [http3RequestOnFrame_start, if_neg hheaders]
      exact ⟨rfl, nofun⟩
    | body =>
      rw [http3RequestOnFrame_body, if_neg hdata, if_neg hheaders]
      exact ⟨rfl, nofun⟩
    | complete => exact ⟨rfl, nofun⟩

/-- What the rules of a request stream refuse, the machine refuses in every state. -/
lemma http3RequestOnFrame_of_disallowed {receiver : Http3Role}
    (h : (http3FrameAllowed receiver .request type).1 ≠ .ok) (request : RequestStream) :
    (http3RequestOnFrame request type).2.1 ≠ .ok := by
  rcases http3RequestOnFrame_cases request type with (rfl | rfl) | hrefused
  · exact absurd rfl h
  · exact absurd rfl h
  · exact hrefused.2

/-- A meaningless frame is refused, and leaves the machine. -/
lemma Meaningless.refused (h : Meaningless type) (request : RequestStream) :
    (http3RequestOnFrame request type).1 = request ∧
      (http3RequestOnFrame request type).2.1 ≠ .ok := by
  rcases http3RequestOnFrame_cases request type with (rfl | rfl) | hrefused
  · exact absurd h (by unfold Meaningless; decide)
  · exact absurd h (by unfold Meaningless; decide)
  · exact hrefused

lemma Inserted.length_le (h : Inserted types types') : types.length ≤ types'.length := by
  induction h with
  | nil => exact le_rfl
  | keep type h ih => exact Nat.succ_le_succ ih
  | put hless h ih => exact ih.trans (Nat.le_succ _)

/-- Insertions leave the machine where it was, and are accepted only where there are none. -/
lemma Inserted.run (h : Inserted types types') (request : RequestStream) :
    (requestRun request types').1 = (requestRun request types).1 ∧
      ((requestRun request types').2 = true ↔
        types' = types ∧ (requestRun request types).2 = true) := by
  induction h generalizing request with
  | nil => exact ⟨rfl, (and_iff_right rfl).symm⟩
  | keep type h ih =>
    obtain ⟨hstate, haccepted⟩ := ih (http3RequestOnFrame request type).1
    rw [requestRun, requestRun]
    refine ⟨hstate, ?_⟩
    rw [Bool.and_eq_true, Bool.and_eq_true, haccepted, List.cons_inj_right]
    tauto
  | put hless h ih =>
    obtain ⟨hstate, -⟩ := ih request
    obtain ⟨hleft, hrefused⟩ := hless.refused request
    rw [requestRun, hleft]
    refine ⟨hstate, ⟨fun haccepted => ?_, fun hsame => ?_⟩⟩
    · rw [Bool.and_eq_true, decide_eq_true_iff] at haccepted
      exact absurd haccepted.1 hrefused
    · have hlonger := h.length_le
      rw [← hsame.1, List.length_cons] at hlonger
      exact absurd hlonger (Nat.not_succ_le_self _)

lemma requestRun_complete : (requestRun ⟨.complete, false⟩ types).2 = true ↔ types = [] := by
  cases types with
  | nil => exact ⟨fun _ => rfl, fun _ => rfl⟩
  | cons type types => exact ⟨nofun, nofun⟩

lemma requestRun_body : (requestRun ⟨.body, false⟩ types).2 = true ↔
    ∃ n, types <+: List.replicate n http3FrameData ++ [http3FrameHeaders] := by
  induction types with
  | nil => exact ⟨fun _ => ⟨0, List.nil_prefix⟩, fun _ => rfl⟩
  | cons type types ih =>
    rw [requestRun, http3RequestOnFrame_body]
    split_ifs with hdata hheaders
    · -- One more DATA.
      change (requestRun ⟨.body, false⟩ types).2 = true ↔ _
      rw [ih, hdata]
      constructor
      · rintro ⟨n, hn⟩
        exact ⟨n + 1, List.cons_prefix_cons.mpr ⟨rfl, hn⟩⟩
      · rintro ⟨n | n, hn⟩
        · exact absurd (List.cons_prefix_cons.mp hn).1 (by decide)
        · exact ⟨n, (List.cons_prefix_cons.mp hn).2⟩
    · -- The trailer.
      change (requestRun ⟨.complete, false⟩ types).2 = true ↔ _
      rw [requestRun_complete, hheaders]
      constructor
      · rintro rfl
        exact ⟨0, List.prefix_rfl⟩
      · rintro ⟨n | n, hn⟩
        · exact List.prefix_nil.mp (List.cons_prefix_cons.mp hn).2
        · exact absurd (List.cons_prefix_cons.mp hn).1 (by decide)
    · refine ⟨nofun, ?_⟩
      rintro ⟨n | n, hn⟩
      · exact absurd (List.cons_prefix_cons.mp hn).1 hheaders
      · exact absurd (List.cons_prefix_cons.mp hn).1 hdata

/-- The machine accepts what begins a request, and nothing else. -/
lemma requestRun_accepts : (requestRun http3RequestInit types).2 = true ↔ RequestShape types := by
  unfold RequestShape
  cases types with
  | nil => exact ⟨fun _ => ⟨0, List.nil_prefix⟩, fun _ => rfl⟩
  | cons type types =>
    rw [http3RequestInit, requestRun, http3RequestOnFrame_start]
    simp only [List.cons_prefix_cons]
    split_ifs with hheaders
    · change (requestRun ⟨.body, false⟩ types).2 = true ↔ _
      rw [requestRun_body]
      simp only [hheaders, true_and]
    · exact ⟨nofun, fun ⟨_, hstart, _⟩ => absurd hstart hheaders⟩

/-- **Unknown frames on a request stream.** Frames of a type that is not known, or is to be ignored,
end a request as it would without them exactly when there are none, or when the frames are no
request anyway. -/
theorem noMeaning_iff (h : Inserted types types') :
    NoMeaning types types' ↔ types' = types ∨ ¬RequestShape types := by
  obtain ⟨hstate, haccepted⟩ := h.run http3RequestInit
  rw [← requestRun_accepts]
  constructor
  · rintro ⟨hsame, -⟩
    rw [or_iff_not_imp_right, not_not]
    intro hshape
    rw [← hsame] at hshape
    exact (haccepted.mp hshape).1
  · intro hcases
    refine ⟨?_, fun receiver type request hrefused =>
      http3RequestOnFrame_of_disallowed hrefused request⟩
    rcases hcases with rfl | hrefused
    · rfl
    · have hrefused' : ¬(requestRun http3RequestInit types').2 = true :=
        fun hok => hrefused (haccepted.mp hok).2
      refine Prod.ext hstate ?_
      rw [Bool.eq_false_of_not_eq_true hrefused, Bool.eq_false_of_not_eq_true hrefused']

theorem dataFirst_same : NoMeaning [http3FrameData] [0x21, http3FrameData] := by
  have hinserted : Inserted [http3FrameData] [0x21, http3FrameData] :=
    .put (.inr (by decide)) (.keep _ .nil)
  refine (noMeaning_iff hinserted).mpr (.inr ?_)
  rintro ⟨n, hn⟩
  exact absurd (List.cons_prefix_cons.mp hn).1 (by decide)

/-- Padding behind the HEADERS of a request is refused. -/
theorem padding_refused :
    ¬∀ types types' : List ℕ, Inserted types types' → NoMeaning types types' := by
  intro h
  have hinserted : Inserted [http3FrameHeaders] [http3FrameHeaders, 0x21] :=
    .keep _ (.put (.inr (by decide)) .nil)
  have hsame := (h _ _ hinserted).sameEnd
  revert hsame
  decide

end Frames

end WebTransport
