import WebTransport.Http3.EncoderCuts
import WebTransport.Http3.FrameEffect

/-!
# The bytes of the peer's QPACK streams

QPACK's two streams carry instructions, and the endpoint has a call that applies those of the
encoder stream. This module follows the bytes of the two streams through the routing, with the
reader of HTTP/3 frames as a parameter: bytes that are never read as frames are routed alike
whatever that reader does with them.
-/

namespace WebTransport

/-! ## What a frame carries of QPACK -/

/-- The stream carries QPACK's instructions. -/
def EndpointStreamKind.isQpack : EndpointStreamKind → Bool
  | .qpackEncoder | .qpackDecoder => true
  | .control | .push | .webtransport | .unknown => false

/-- The QPACK stream that a new stream becomes by its type: the peer has no other of that kind, and
the table of streams has room. -/
def beginsQpack (e : Endpoint) (streamId type : ℕ) : Option EndpointStreamKind :=
  if e.streams.any (fun s => s.streamId = streamId) ∨
      e.streams.length ≥ http3EndpointStreamsMax then none
  else if type = http3StreamQpackEncoder ∧ e.peerQpackEncoderSeen = false then some .qpackEncoder
  else if type = http3StreamQpackDecoder ∧ e.peerQpackDecoderSeen = false then some .qpackDecoder
  else none

/-- The QPACK stream that begins with the bytes held of a stream and those that arrive, and the
bytes that arrive behind its type. -/
def qpackBegun (d : Driver) (streamId offset : ℕ) (data : List UInt8) :
    Option (EndpointStreamKind × List UInt8) :=
  if offset ≠ (heldBytes d streamId).length ∨ data = [] then none
  else
    match quicVarintDecode (heldBytes d streamId ++ data) with
    | .error _ => none
    | .ok (type, rest) =>
      (beginsQpack d.endpoint streamId type).map fun kind =>
        (kind, data.drop (data.length - rest.length))

/-- What a STREAM frame carries on a QPACK stream of the peer's. -/
def qpackBytes (d : Driver) (f : StreamFrame) : Option (EndpointStreamKind × List UInt8) :=
  if http3DriverIsDataStream d f.id ∨ streamIsOurs d.endpoint f.id ∨
      quicStreamIdIsBidirectional f.id then none
  else
    match http3EndpointStreamKind d.endpoint f.id with
    | .qpackEncoder => some (.qpackEncoder, f.data)
    | .qpackDecoder => some (.qpackDecoder, f.data)
    | .unknown => qpackBegun d f.id f.offset f.data
    | .control | .push | .webtransport => none

/-! ## Routing by another reader of frames -/

/-- What may be done with bytes of a stream that carries HTTP/3 frames. -/
abbrev FrameReader := ℕ → List UInt8 → Bool → Feed → Option (Feed × Reply)

section Reader

variable (sink : Sink) (maxFrameBytes : ℕ) (read : FrameReader)

/-- Bytes of a classified unidirectional stream. -/
def routeUniPayloadBy (kind : EndpointStreamKind) (streamId : ℕ) (payload : List UInt8)
    (fin : Bool) (s : Feed) : Option (Feed × Reply) :=
  if kind = .webtransport then
    if payload ≠ [] then
      some (s.report sink.onStreamData (.streamData streamId payload fin))
    else some (s, Reply.good)
  else
    match if payload ≠ [] ∨ fin then read streamId payload fin s else some (s, Reply.good) with
    | none => none
    | some (s, reply) =>
      if reply.1 ≠ .ok then some (s, reply)
      else if fin then
        let r := http3DriverOnUniStreamEnd s.driver streamId
        some (s.setDriver r.1, r.2)
      else some (s, Reply.good)

/-- A STREAM frame on a peer's unidirectional stream that is not a data stream. -/
def routeUniBy (f : StreamFrame) (s : Feed) : Option (Feed × Reply) :=
  let kind := http3EndpointStreamKind s.driver.endpoint f.id
  if kind ≠ .unknown then routeUniPayloadBy sink read kind f.id f.data f.fin s
  else
    let start := http3DriverOnUniStreamData s.driver f.id f.offset f.data
    let s := s.setDriver start.driver
    if start.reply.1 ≠ .ok then some (s, start.reply)
    else if start.kind = .unknown then some (s, Reply.good)
    else routeUniPayloadBy sink read start.kind f.id start.payload f.fin s

/-- A STREAM frame, when the reader is the one of the unidirectional streams. -/
def routeStreamFrameBy (f : StreamFrame) (s : Feed) : Option (Feed × Reply) :=
  if http3DriverIsDataStream s.driver f.id ∨ streamIsOurs s.driver.endpoint f.id ∨
      quicStreamIdIsBidirectional f.id then routeStreamFrame sink maxFrameBytes f s
  else routeUniBy sink read f s

/-- STREAM frames in order. -/
def routeFramesBy : List StreamFrame → Feed → Option (Feed × Reply)
  | [], s => some (s, Reply.good)
  | f :: fs, s =>
    match routeStreamFrameBy sink maxFrameBytes read f s with
    | none => none
    | some (s, reply) => if reply.1 ≠ .ok then some (s, reply) else routeFramesBy fs s

/-- The reader does what the driver does, bytes of QPACK apart. -/
def SparesOthers : Prop :=
  ∀ streamId data fin s,
    (http3EndpointStreamKind s.driver.endpoint streamId).isQpack = false ∨ data = [] →
      read streamId data fin s = http3DriverOnStreamBytes sink maxFrameBytes streamId data fin s

/-- A reader that gives one answer to all bytes of QPACK. -/
def stubbornReader (answer : Option Reply) : FrameReader := fun streamId data fin s =>
  if (http3EndpointStreamKind s.driver.endpoint streamId).isQpack = false ∨ data = [] then
    http3DriverOnStreamBytes sink maxFrameBytes streamId data fin s
  else answer.map fun reply => (s, reply)

end Reader

/-! ## Frames of QPACK streams -/

section Carried

variable (sink : Sink) (maxFrameBytes : ℕ)

/-- The bytes of QPACK that the frames carry, with the kind of their stream, as far as the frames
are routed. -/
def qpackChunks : List StreamFrame → Feed → List (EndpointStreamKind × List UInt8)
  | [], _ => []
  | f :: fs, s =>
    (qpackBytes s.driver f).toList.filter (fun chunk => chunk.2 ≠ []) ++
      match routeStreamFrame sink maxFrameBytes f s with
      | none => []
      | some (s, reply) => if reply.1 ≠ .ok then [] else qpackChunks fs s

/-- The instructions that arrive on the encoder stream. -/
def encoderChunks (fs : List StreamFrame) (s : Feed) : List (List UInt8) :=
  ((qpackChunks sink maxFrameBytes fs s).filter fun chunk => chunk.1 = .qpackEncoder).map Prod.snd

/-- What STREAM frames leave of the driver and of the table of the endpoint's decoder: the driver
hands the table nothing. -/
def routeFramesTable (fs : List StreamFrame) (s : Feed) (e : MessageEndpoint) :
    Option (Feed × MessageEndpoint × Reply) :=
  (routeFrames sink maxFrameBytes fs s).map fun r => (r.1, e, r.2)

/-- QPACK's streams carry QPACK: their bytes are never read as frames, and the table is what their
instructions make of it. -/
structure CarriesQpack (fs : List StreamFrame) (s : Feed) (e : MessageEndpoint) : Prop where
  unread : ∀ read, SparesOthers sink maxFrameBytes read →
    routeFramesBy sink maxFrameBytes read fs s = routeFrames sink maxFrameBytes fs s
  applied : ∀ s' e' reply, routeFramesTable sink maxFrameBytes fs s e = some (s', e', reply) →
    e' = (feedEncoder e [] (encoderChunks sink maxFrameBytes fs s)).1

end Carried

/-! ## How a QPACK stream begins -/

section Begins

variable {d : Driver} {e : Endpoint} {streamId offset type : ℕ} {P payload data rest : List UInt8}
  {kind : EndpointStreamKind}

lemma beginsQpack_other (hencoder : type ≠ http3StreamQpackEncoder)
    (hdecoder : type ≠ http3StreamQpackDecoder) : beginsQpack e streamId type = none := by
  simp [beginsQpack, hencoder, hdecoder]

lemma qpackBegun_isQpack {bytes : List UInt8}
    (h : qpackBegun d streamId offset data = some (kind, bytes)) : kind.isQpack = true := by
  unfold qpackBegun at h
  split_ifs at h
  cases hdecode : quicVarintDecode (heldBytes d streamId ++ data) with
  | error status =>
    rw [hdecode] at h
    cases h
  | ok r =>
    obtain ⟨type, rest⟩ := r
    rw [hdecode] at h
    obtain ⟨kind', hbegins, hpair⟩ := Option.map_eq_some_iff.mp h
    cases hpair
    unfold beginsQpack at hbegins
    split_ifs at hbegins <;> cases hbegins <;> rfl

/-- The endpoint takes a stream for QPACK's exactly when its type begins one. -/
lemma http3EndpointOnUniStream_qpack (hP : quicVarintDecode P = .ok (type, rest))
    (hkind : kind.isQpack = true) :
    (http3EndpointOnUniStream e streamId P).2.1.1 = .ok ∧
        (http3EndpointOnUniStream e streamId P).2.2 = kind ↔
      beginsQpack e streamId type = some kind := by
  unfold http3EndpointOnUniStream
  by_cases hknown : e.streams.any (fun s => s.streamId = streamId) = true
  · rw [if_pos hknown, beginsQpack, if_pos (.inl hknown)]
    simp
  rw [if_neg hknown, hP]
  dsimp only
  have hrecord : ∀ e' x, e'.streams = e.streams →
      ((recordStream e' x).2.1.1 = .ok ∧ (recordStream e' x).2.2 = kind ↔
        ¬e.streams.length ≥ http3EndpointStreamsMax ∧ x.kind = kind) := by
    intro e' x hstreams
    unfold recordStream
    rw [hstreams]
    by_cases hfull : e.streams.length ≥ http3EndpointStreamsMax
    · rw [if_pos hfull]
      simp [hfull]
    · rw [if_neg hfull]
      simp [hfull, Reply.good]
  have hother : ∀ {k : EndpointStreamKind}, k.isQpack = false → k ≠ kind := by
    rintro k hk rfl
    rw [hk] at hkind
    cases hkind
  -- What does not begin a stream of QPACK's is taken for none.
  have hnone : ∀ {P : Prop}, ¬P → type ≠ http3StreamQpackEncoder → type ≠ http3StreamQpackDecoder →
      (P ↔ beginsQpack e streamId type = some kind) := by
    intro P hP hencoder hdecoder
    rw [beginsQpack_other hencoder hdecoder]
    exact iff_of_false hP fun h => by cases h
  by_cases huni : type = webtransportStreamUni
  · subst huni
    refine hnone ?_ (by decide) (by decide)
    rw [if_pos rfl, hrecord _ _ (by rfl)]
    exact fun h => hother rfl h.2
  rw [if_neg huni]
  by_cases hcontrol : type = http3StreamControl
  · subst hcontrol
    refine hnone ?_ (by decide) (by decide)
    rw [if_pos rfl]
    split
    · rw [hrecord _ _ (by rfl)]
      exact fun h => hother rfl h.2
    · exact fun h => hother rfl h.2
  rw [if_neg hcontrol]
  by_cases hencoder : type = http3StreamQpackEncoder
  · have hdecoder : type ≠ http3StreamQpackDecoder := by
      rw [hencoder]
      decide
    rw [if_pos hencoder]
    by_cases hseen : e.peerQpackEncoderSeen = true
    · rw [if_pos hseen]
      simp [beginsQpack, hseen, hdecoder]
    · rw [if_neg hseen, hrecord _ _ (by rfl)]
      simp [beginsQpack, hencoder, hseen, hknown]
  rw [if_neg hencoder]
  by_cases hdecoder : type = http3StreamQpackDecoder
  · rw [if_pos hdecoder]
    by_cases hseen : e.peerQpackDecoderSeen = true
    · rw [if_pos hseen]
      simp [beginsQpack, hseen, hencoder]
    · rw [if_neg hseen, hrecord _ _ (by rfl)]
      have hdiffer : http3StreamQpackDecoder ≠ http3StreamQpackEncoder := by decide
      simp [beginsQpack, hdecoder, hdiffer, hseen, hknown]
  rw [if_neg hdecoder]
  refine hnone ?_ hencoder hdecoder
  split_ifs <;> exact fun h => hother rfl h.2

/-- So does the driver, whatever comes behind the prefix. -/
lemma settleUniPrefix_qpack (payload : List UInt8) (hP : quicVarintDecode P = .ok (type, rest))
    (hkind : kind.isQpack = true) :
    (settleUniPrefix d streamId P payload).reply.1 = .ok ∧
        (settleUniPrefix d streamId P payload).kind = kind ↔
      beginsQpack d.endpoint streamId type = some kind := by
  have hclassify : (classifyUniStream d streamId P payload).reply.1 = .ok ∧
      (classifyUniStream d streamId P payload).kind = kind ↔
        beginsQpack d.endpoint streamId type = some kind := by
    rw [← http3EndpointOnUniStream_qpack hP hkind]
    unfold classifyUniStream
    by_cases hrefused : (http3EndpointOnUniStream d.endpoint streamId P).2.1.1 ≠ .ok
    · rw [if_pos hrefused]
    · rw [if_neg hrefused]
      simp [not_not.mp hrefused, Reply.good]
  unfold settleUniPrefix
  rw [hP]
  dsimp only
  by_cases huni : type = webtransportStreamUni
  · have hnone : beginsQpack d.endpoint streamId type = none :=
      beginsQpack_other (by rw [huni]; decide) (by rw [huni]; decide)
    have hunknown : kind ≠ .unknown := by
      rintro rfl
      cases hkind
    rw [if_pos huni]
    rw [hnone] at hclassify ⊢
    refine iff_of_false ?_ fun h => by cases h
    cases hsession : quicVarintDecode rest with
    | error status => exact fun h => hunknown h.2.symm
    | ok r =>
      dsimp only
      split_ifs with hforeign hrefused hfull
      · exact fun h => hunknown h.2.symm
      · exact fun h => absurd h.1 hrefused
      · exact fun h => absurd h.1 hfull
      · exact fun h => by cases hclassify.mp h
  · rw [if_neg huni]
    exact hclassify

lemma settleUniPrefix_payload (h : (settleUniPrefix d streamId P payload).reply.1 = .ok) :
    (settleUniPrefix d streamId P payload).payload = payload := by
  have hclassify : (classifyUniStream d streamId P payload).reply.1 = .ok →
      (classifyUniStream d streamId P payload).payload = payload := by
    unfold classifyUniStream
    dsimp only
    split_ifs with hrefused
    · exact fun hok => absurd hok hrefused
    · exact fun _ => rfl
  unfold settleUniPrefix at h ⊢
  cases hdecode : quicVarintDecode P with
  | error status =>
    rw [hdecode] at h
    cases h
  | ok r =>
    obtain ⟨type, session⟩ := r
    rw [hdecode] at h
    dsimp only at h ⊢
    by_cases huni : type = webtransportStreamUni
    · rw [if_pos huni] at h ⊢
      cases hsession : quicVarintDecode session with
      | error status =>
        rw [hsession] at h
        cases h
      | ok q =>
        rw [hsession] at h
        dsimp only at h ⊢
        split_ifs at h ⊢ with hforeign hrefused hfull
        · exact absurd h hrefused
        · exact absurd h hfull
        · exact hclassify h
    · rw [if_neg huni] at h ⊢
      exact hclassify h

/-- What is assembled of a start that is there already, and what of one that a frame completes:
the bytes behind it are the last of the frame's. -/
lemma assemblePrefix_behind {held : List UInt8}
    (hdecode : quicVarintDecode (held ++ data) = .ok (type, rest))
    (htype : type ≠ webtransportStreamUni) :
    ∃ P left, assemblePrefix (data.length + 1) held data =
        (P, data.drop (data.length - rest.length)) ∧ quicVarintDecode P = .ok (type, left) ∧
      uniPrefixLength P ≤ P.length := by
  cases hheld : quicVarintDecode held with
  | ok r =>
    obtain ⟨type', left⟩ := r
    have happend := quicVarintDecode_append hheld data
    rw [hdecode] at happend
    cases happend
    have hread := readUniPrefix_of_type hheld htype
    have hlength := length_of_readUniPrefix_some hread
    refine ⟨held, left, ?_, hheld, by omega⟩
    rw [assemblePrefix, if_pos (.inl (by omega)), List.length_append]
    rw [show data.length - (left.length + data.length) = 0 by omega, List.drop_zero]
  | error status =>
    have hnone : readUniPrefix held = none := by
      unfold readUniPrefix
      rw [hheld]
    have hread := readUniPrefix_of_type hdecode htype
    obtain ⟨P, hP, happend, hreadP⟩ := assemblePrefix_complete (Nat.lt_succ_self _) hnone hread
    have hdecodeP := quicVarintDecode_of_readUniPrefix hreadP htype
    have hlength := length_of_readUniPrefix_some hreadP
    refine ⟨P, [], ?_, hdecodeP, by rw [List.length_nil] at hlength; omega⟩
    -- The held bytes are a part of the prefix.
    have hbytes : held.length ≤ P.length := by
      by_contra hlong
      obtain ⟨more, hmore⟩ : P <+: held :=
        List.prefix_of_prefix_length_le ⟨rest, happend.symm⟩ ⟨data, rfl⟩ (by omega)
      have hwhole := quicVarintDecode_append hdecodeP more
      rw [hmore, hheld] at hwhole
      cases hwhole
    have hlengths := congrArg List.length happend
    rw [List.length_append, List.length_append] at hlengths
    have hdrop : (held ++ data).drop P.length = rest := by
      rw [happend, List.drop_left]
    rw [List.drop_append, List.drop_eq_nil_of_le hbytes, List.nil_append] at hdrop
    rw [hP, show data.length - rest.length = P.length - held.length by omega, hdrop]

/-- A type that begins a stream of QPACK's is not the one of WebTransport's streams. -/
lemma ne_webtransport_of_begins (h : beginsQpack e streamId type = some kind) :
    type ≠ webtransportStreamUni := by
  rintro rfl
  rw [beginsQpack_other (by decide) (by decide)] at h
  cases h

/-- The driver finds a stream of QPACK's in the bytes that arrive exactly when they begin one. -/
lemma http3DriverOnUniStreamData_qpack {bytes : List UInt8} (hkind : kind.isQpack = true) :
    (http3DriverOnUniStreamData d streamId offset data).reply.1 = .ok ∧
        (http3DriverOnUniStreamData d streamId offset data).kind = kind ∧
        (http3DriverOnUniStreamData d streamId offset data).payload = bytes ↔
      qpackBegun d streamId offset data = some (kind, bytes) := by
  have hunknown : ∀ {Q : Prop}, EndpointStreamKind.unknown = kind ∧ Q → False := by
    rintro Q ⟨rfl, -⟩
    cases hkind
  unfold http3DriverOnUniStreamData qpackBegun
  dsimp only
  by_cases hoffset : offset ≠ (heldBytes d streamId).length
  · rw [if_pos hoffset, if_pos (.inl hoffset)]
    exact iff_of_false (fun h => hunknown h.2) fun h => by cases h
  rw [if_neg hoffset]
  by_cases hdata : data = []
  · rw [if_pos hdata, if_pos (.inr hdata)]
    exact iff_of_false (fun h => hunknown h.2) fun h => by cases h
  rw [if_neg hdata, if_neg (not_or.mpr ⟨hoffset, hdata⟩)]
  obtain ⟨happend, -⟩ := assemblePrefix_spec (heldBytes d streamId) (Nat.lt_succ_self data.length)
  rcases hassembled : assemblePrefix (data.length + 1) (heldBytes d streamId) data with ⟨P, payload⟩
  rw [hassembled] at happend
  dsimp only at happend ⊢
  obtain ⟨start, hstart⟩ : ∃ start, start = if P.length < uniPrefixLength P then
      (⟨(holdPending d streamId P).1, ((holdPending d streamId P).2, .noError), .unknown, []⟩ :
        UniStart)
    else settleUniPrefix (forgetPending d streamId) streamId P payload := ⟨_, rfl⟩
  rw [← hstart]
  -- What is settled has the type of all the bytes.
  have hbegins : start.reply.1 = .ok → start.kind = kind → ∃ type rest,
      quicVarintDecode (heldBytes d streamId ++ data) = .ok (type, rest) ∧
        beginsQpack d.endpoint streamId type = some kind := by
    intro hok hk
    by_cases hshort : P.length < uniPrefixLength P
    · rw [hstart, if_pos hshort] at hk
      exact (hunknown ⟨hk, trivial⟩).elim
    rw [hstart, if_neg hshort] at hok hk
    cases hdecode : quicVarintDecode P with
    | error status =>
      rw [settleUniPrefix, hdecode] at hok
      cases hok
    | ok r =>
      obtain ⟨type, left⟩ := r
      have hbegun :=
        (settleUniPrefix_qpack (d := forgetPending d streamId) payload hdecode hkind).mp ⟨hok, hk⟩
      refine ⟨type, left ++ payload, ?_, hbegun⟩
      rw [← happend]
      exact quicVarintDecode_append hdecode payload
  cases hdecode : quicVarintDecode (heldBytes d streamId ++ data) with
  | error status =>
    refine iff_of_false ?_ fun h => by cases h
    rintro ⟨hok, hk, -⟩
    obtain ⟨type, rest, hread, -⟩ := hbegins hok hk
    rw [hdecode] at hread
    cases hread
  | ok r =>
    obtain ⟨type, rest⟩ := r
    dsimp only
    rw [Option.map_eq_some_iff]
    constructor
    · rintro ⟨hok, hk, rfl⟩
      obtain ⟨type', rest', hread, hbegun⟩ := hbegins hok hk
      rw [hdecode] at hread
      cases hread
      refine ⟨kind, hbegun, ?_⟩
      obtain ⟨P', left, hbehind, -, hcomplete⟩ :=
        assemblePrefix_behind hdecode (ne_webtransport_of_begins hbegun)
      rw [hassembled] at hbehind
      cases hbehind
      rw [if_neg (by omega)] at hstart
      rw [hstart] at hok ⊢
      rw [settleUniPrefix_payload hok]
    · rintro ⟨kind', hbegun, hpair⟩
      cases hpair
      obtain ⟨P', left, hbehind, hdecodeP, hcomplete⟩ :=
        assemblePrefix_behind hdecode (ne_webtransport_of_begins hbegun)
      rw [hassembled] at hbehind
      cases hbehind
      rw [if_neg (by omega)] at hstart
      rw [hstart]
      obtain ⟨hok, hk⟩ := (settleUniPrefix_qpack (d := forgetPending d streamId)
        (data.drop (data.length - rest.length)) hdecodeP hkind).mpr hbegun
      exact ⟨hok, hk, settleUniPrefix_payload hok⟩

/-- A stream of HTTP/3's own that was classified is recorded as what it is. -/
lemma settleUniPrefix_kind (hok : (settleUniPrefix d streamId P payload).reply.1 = .ok)
    (hknown : (settleUniPrefix d streamId P payload).kind ≠ .unknown)
    (hsession : (settleUniPrefix d streamId P payload).kind ≠ .webtransport) :
    http3EndpointStreamKind (settleUniPrefix d streamId P payload).driver.endpoint streamId =
      (settleUniPrefix d streamId P payload).kind := by
  unfold settleUniPrefix at hok hknown hsession ⊢
  cases hdecode : quicVarintDecode P with
  | error status =>
    rw [hdecode] at hok
    cases hok
  | ok r =>
    obtain ⟨type, rest⟩ := r
    rw [hdecode] at hok hknown hsession
    dsimp only at hok hknown hsession ⊢
    by_cases huni : type = webtransportStreamUni
    · rw [if_pos huni] at hok hsession
      cases hread : quicVarintDecode rest with
      | error status =>
        rw [hread] at hok
        cases hok
      | ok q =>
        rw [hread] at hok hsession
        dsimp only at hok hsession
        split_ifs at hok hsession with hforeign hrefused hfull
        · exact absurd hok hrefused
        · exact absurd hok hfull
        · obtain ⟨-, hclassified⟩ := classifyUniStream_session hok (huni ▸ hdecode)
          rw [hclassified] at hsession
          exact absurd rfl hsession
    · rw [if_neg huni] at hok hknown ⊢
      unfold classifyUniStream at hok hknown ⊢
      dsimp only at hok hknown ⊢
      split_ifs at hok hknown ⊢ with hrefused
      · exact absurd hok hrefused
      obtain ⟨hnew, type', rest', hdecode', hcases⟩ :=
        http3EndpointOnUniStream_accepted (not_not.mp hrefused)
      rw [hdecode] at hdecode'
      cases hdecode'
      rcases hcases with ⟨htype, -⟩ | ⟨-, hsame⟩ | ⟨-, hrecords⟩
      · exact absurd htype huni
      · rw [hsame] at hknown
        exact absurd rfl hknown
      · obtain ⟨x, hx, hid, hkind⟩ := hrecords.streams
        have hnone : d.endpoint.streams.find? (fun s => s.streamId = streamId) = none :=
          List.find?_eq_none.mpr fun y hy => by simpa using hnew y hy
        change
          http3EndpointStreamKind (http3EndpointOnUniStream d.endpoint streamId P).1 streamId = _
        unfold http3EndpointStreamKind
        rw [hx, List.find?_append, hnone, Option.none_or, List.find?_singleton]
        simp [hid, hkind]

lemma http3DriverOnUniStreamData_kind
    (hok : (http3DriverOnUniStreamData d streamId offset data).reply.1 = .ok)
    (hknown : (http3DriverOnUniStreamData d streamId offset data).kind ≠ .unknown)
    (hsession : (http3DriverOnUniStreamData d streamId offset data).kind ≠ .webtransport) :
    http3EndpointStreamKind (http3DriverOnUniStreamData d streamId offset data).driver.endpoint
        streamId = (http3DriverOnUniStreamData d streamId offset data).kind := by
  unfold http3DriverOnUniStreamData at hok hknown hsession ⊢
  dsimp only at hok hknown hsession ⊢
  split_ifs at hok hknown hsession ⊢ with hoffset hdata hshort
  · exact absurd rfl hknown
  · exact absurd rfl hknown
  · exact settleUniPrefix_kind hok hknown hsession

end Begins

/-! ## One frame -/

section Frame

variable {sink : Sink} {M : ℕ} {read : FrameReader} {f : StreamFrame} {s : Feed}
  {kind : EndpointStreamKind} {bytes payload : List UInt8}

/-- A reader that spares the other streams changes nothing where no byte of QPACK is routed. -/
lemma routeUniPayloadBy_spares (hread : SparesOthers sink M read)
    (h : kind = .webtransport ∨
      (http3EndpointStreamKind s.driver.endpoint f.id).isQpack = false ∨ payload = []) :
    routeUniPayloadBy sink read kind f.id payload f.fin s =
      routeUniPayload sink M kind f.id payload f.fin s := by
  unfold routeUniPayloadBy routeUniPayload
  by_cases hkind : kind = .webtransport
  · rw [if_pos hkind, if_pos hkind]
  · have hsame := hread f.id payload f.fin s (h.resolve_left hkind)
    rw [if_neg hkind, if_neg hkind]
    exact hsame ▸ rfl

/-- Bytes of QPACK are handed to the reader of frames, and what it refuses is refused. -/
lemma routeUniPayloadBy_stubborn (answer : Option Reply) (hkind : kind ≠ .webtransport)
    (hqpack : (http3EndpointStreamKind s.driver.endpoint f.id).isQpack = true)
    (hbytes : payload ≠ []) (hrefused : ∀ reply ∈ answer, reply.1 ≠ .ok) :
    routeUniPayloadBy sink (stubbornReader sink M answer) kind f.id payload f.fin s =
      answer.map fun reply => (s, reply) := by
  have hother :
      ¬((http3EndpointStreamKind s.driver.endpoint f.id).isQpack = false ∨ payload = []) := by
    rw [hqpack]
    simp [hbytes]
  have hanswer : stubbornReader sink M answer f.id payload f.fin s =
      answer.map fun reply => (s, reply) := if_neg hother
  unfold routeUniPayloadBy
  rw [if_neg hkind, if_pos (.inl hbytes), hanswer]
  cases answer with
  | none => rfl
  | some reply => exact if_pos (hrefused reply rfl)

/-- A frame that is neither this endpoint's nor the session's is routed by the kind of its
stream. -/
lemma routeStreamFrame_peerUni (h : ¬(http3DriverIsDataStream s.driver f.id ∨
    streamIsOurs s.driver.endpoint f.id ∨ quicStreamIdIsBidirectional f.id)) :
    routeStreamFrame sink M f s = routeUni sink M f s := by
  obtain ⟨hdata, hothers⟩ := not_or.mp h
  obtain ⟨hours, hbidi⟩ := not_or.mp hothers
  unfold routeStreamFrame
  rw [if_neg hdata, if_neg fun ⟨hmine, _⟩ => hours hmine, if_neg hbidi]

/-- A frame without bytes of QPACK is routed alike. -/
lemma routeStreamFrameBy_spares (hread : SparesOthers sink M read)
    (h : ∀ kind bytes, qpackBytes s.driver f = some (kind, bytes) → bytes = []) :
    routeStreamFrameBy sink M read f s = routeStreamFrame sink M f s := by
  unfold routeStreamFrameBy
  by_cases hother : http3DriverIsDataStream s.driver f.id ∨ streamIsOurs s.driver.endpoint f.id ∨
      quicStreamIdIsBidirectional f.id
  · rw [if_pos hother]
  rw [if_neg hother, routeStreamFrame_peerUni hother]
  unfold qpackBytes at h
  rw [if_neg hother] at h
  unfold routeUniBy routeUni
  dsimp only
  by_cases hkind : http3EndpointStreamKind s.driver.endpoint f.id ≠ .unknown
  · rw [if_pos hkind, if_pos hkind]
    apply routeUniPayloadBy_spares hread
    cases hstream : http3EndpointStreamKind s.driver.endpoint f.id with
    | control => exact .inr (.inl rfl)
    | push => exact .inr (.inl rfl)
    | qpackEncoder =>
      rw [hstream] at h
      exact .inr (.inr (h _ _ rfl))
    | qpackDecoder =>
      rw [hstream] at h
      exact .inr (.inr (h _ _ rfl))
    | webtransport => exact .inl rfl
    | unknown => exact absurd hstream hkind
  · rw [if_neg hkind, if_neg hkind]
    rw [not_not.mp hkind] at h
    dsimp only at h
    by_cases hrefused : (http3DriverOnUniStreamData s.driver f.id f.offset f.data).reply.1 ≠ .ok
    · rw [if_pos hrefused, if_pos hrefused]
    rw [if_neg hrefused, if_neg hrefused]
    by_cases hknown : (http3DriverOnUniStreamData s.driver f.id f.offset f.data).kind = .unknown
    · rw [if_pos hknown, if_pos hknown]
    rw [if_neg hknown, if_neg hknown]
    apply routeUniPayloadBy_spares hread
    by_cases hsession : (http3DriverOnUniStreamData s.driver f.id f.offset f.data).kind =
        .webtransport
    · exact .inl hsession
    have hrecorded := http3DriverOnUniStreamData_kind (not_not.mp hrefused) hknown hsession
    rw [Feed.setDriver_driver, hrecorded]
    cases hqpack : (http3DriverOnUniStreamData s.driver f.id f.offset f.data).kind.isQpack with
    | false => exact .inr (.inl rfl)
    | true =>
      have hbegun := (http3DriverOnUniStreamData_qpack hqpack).mp
        ⟨not_not.mp hrefused, rfl, rfl⟩
      exact .inr (.inr (h _ _ hbegun))

/-- A reader is asked about the bytes of QPACK, and its refusal is the answer to the frame. -/
lemma routeStreamFrameBy_stubborn (answer : Option Reply)
    (h : qpackBytes s.driver f = some (kind, bytes)) (hbytes : bytes ≠ [])
    (hrefused : ∀ reply ∈ answer, reply.1 ≠ .ok) :
    ∃ s', routeStreamFrameBy sink M (stubbornReader sink M answer) f s =
      answer.map fun reply => (s', reply) := by
  unfold routeStreamFrameBy
  unfold qpackBytes at h
  by_cases hother : http3DriverIsDataStream s.driver f.id ∨ streamIsOurs s.driver.endpoint f.id ∨
      quicStreamIdIsBidirectional f.id
  · rw [if_pos hother] at h
    cases h
  rw [if_neg hother]
  rw [if_neg hother] at h
  unfold routeUniBy
  dsimp only
  have hclassified : ∀ {k : EndpointStreamKind},
      http3EndpointStreamKind s.driver.endpoint f.id = k → k.isQpack = true →
        some (k, f.data) = some (kind, bytes) →
          routeUniPayloadBy sink (stubbornReader sink M answer) k f.id f.data f.fin s =
            answer.map fun reply => (s, reply) := by
    intro k hk hqpack hpair
    obtain ⟨-, rfl⟩ := Prod.mk.inj (Option.some.inj hpair)
    refine routeUniPayloadBy_stubborn answer ?_ (by rw [hk]; exact hqpack) hbytes hrefused
    rintro rfl
    cases hqpack
  cases hstream : http3EndpointStreamKind s.driver.endpoint f.id with
  | control =>
    rw [hstream] at h
    cases h
  | push =>
    rw [hstream] at h
    cases h
  | qpackEncoder =>
    rw [hstream] at h
    exact ⟨s, hclassified hstream rfl h⟩
  | qpackDecoder =>
    rw [hstream] at h
    exact ⟨s, hclassified hstream rfl h⟩
  | webtransport =>
    rw [hstream] at h
    cases h
  | unknown =>
    rw [hstream] at h
    dsimp only at h
    have hqpack := qpackBegun_isQpack h
    obtain ⟨hok, rfl, rfl⟩ := (http3DriverOnUniStreamData_qpack hqpack).mpr h
    have hkind : ∀ {k : EndpointStreamKind}, k.isQpack = false →
        (http3DriverOnUniStreamData s.driver f.id f.offset f.data).kind ≠ k := by
      rintro k hk heq
      rw [heq, hk] at hqpack
      cases hqpack
    rw [if_neg (by simp), if_neg (not_not.mpr hok), if_neg (hkind rfl)]
    refine ⟨_, routeUniPayloadBy_stubborn answer (hkind rfl) ?_ hbytes hrefused⟩
    rw [Feed.setDriver_driver, http3DriverOnUniStreamData_kind hok (hkind rfl) (hkind rfl)]
    exact hqpack

end Frame

/-! ## Runs of frames -/

section Run

variable {sink : Sink} {M : ℕ} {read : FrameReader} {f : StreamFrame} {fs : List StreamFrame}
  {s s' : Feed} {reply : Reply} {e : MessageEndpoint}

lemma sparesOthers_stubborn (answer : Option Reply) :
    SparesOthers sink M (stubbornReader sink M answer) := by
  intro streamId data fin s h
  exact if_pos h

/-- Nothing of QPACK in a run: nothing in its first frame, and nothing behind it. -/
lemma qpackChunks_cons_nil : qpackChunks sink M (f :: fs) s = [] ↔
    (∀ kind bytes, qpackBytes s.driver f = some (kind, bytes) → bytes = []) ∧
      ∀ s' reply, routeStreamFrame sink M f s = some (s', reply) → reply.1 = .ok →
        qpackChunks sink M fs s' = [] := by
  rw [qpackChunks, List.append_eq_nil_iff]
  refine and_congr ?_ ?_
  · cases qpackBytes s.driver f with
    | none => simp
    | some chunk =>
      obtain ⟨kind, bytes⟩ := chunk
      simp
  · cases routeStreamFrame sink M f s with
    | none => simp
    | some r =>
      obtain ⟨s₁, reply₁⟩ := r
      dsimp only
      by_cases hok : reply₁.1 ≠ .ok
      · rw [if_pos hok]
        refine iff_of_true rfl ?_
        rintro s' reply heq hreply
        cases heq
        exact absurd hreply hok
      · rw [if_neg hok]
        constructor
        · rintro hnil s' reply heq -
          cases heq
          exact hnil
        · intro h
          exact h s₁ reply₁ rfl (not_not.mp hok)

/-- A run without bytes of QPACK is routed alike by every reader that spares the rest. -/
lemma routeFramesBy_spares (hread : SparesOthers sink M read)
    (h : qpackChunks sink M fs s = []) :
    routeFramesBy sink M read fs s = routeFrames sink M fs s := by
  induction fs generalizing s with
  | nil => rfl
  | cons f fs ih =>
    obtain ⟨hfirst, hrest⟩ := qpackChunks_cons_nil.mp h
    rw [routeFramesBy, routeFrames, routeStreamFrameBy_spares hread hfirst]
    cases hroute : routeStreamFrame sink M f s with
    | none => rfl
    | some r =>
      obtain ⟨s', reply⟩ := r
      dsimp only
      by_cases hok : reply.1 ≠ .ok
      · rw [if_pos hok, if_pos hok]
      · rw [if_neg hok, if_neg hok]
        exact ih (hrest s' reply hroute (not_not.mp hok))

/-- A run that is routed alike has no bytes of QPACK: no answer suits both of two readers. -/
lemma qpackChunks_of_alike (h : ∀ read, SparesOthers sink M read →
    routeFramesBy sink M read fs s = routeFrames sink M fs s) : qpackChunks sink M fs s = [] := by
  induction fs generalizing s with
  | nil => rfl
  | cons f fs ih =>
    have hfirst : ∀ kind bytes, qpackBytes s.driver f = some (kind, bytes) → bytes = [] := by
      intro kind bytes hcarried
      by_contra hbytes
      have hlost := h _ (sparesOthers_stubborn none)
      have hrefused := h _ (sparesOthers_stubborn (some (.limit, .noError)))
      obtain ⟨s₁, hnone⟩ := routeStreamFrameBy_stubborn (M := M) none hcarried hbytes nofun
      obtain ⟨s₂, hsome⟩ := routeStreamFrameBy_stubborn (M := M) (some (.limit, .noError)) hcarried
        hbytes (by simp)
      rw [routeFramesBy, hnone] at hlost
      rw [routeFramesBy, hsome, ← hlost] at hrefused
      cases hrefused
    refine qpackChunks_cons_nil.mpr ⟨hfirst, ?_⟩
    intro s' reply hroute hok
    apply ih
    intro read hread
    have hrun := h read hread
    rw [routeFramesBy, routeFrames, routeStreamFrameBy_spares hread hfirst, hroute] at hrun
    dsimp only at hrun
    rwa [if_neg (not_not.mpr hok), if_neg (not_not.mpr hok)] at hrun

/-- **The bytes of QPACK's streams.** Over any frames of a connection, from any state of the
driver, the streams of QPACK carry QPACK exactly when the peer sends nothing on them behind their
types: every byte that it sends there is handed to the reader of HTTP/3 frames, and none to the
table. -/
theorem carriesQpack_iff (sink : Sink) (M : ℕ) (fs : List StreamFrame) (s : Feed)
    (e : MessageEndpoint) : CarriesQpack sink M fs s e ↔ qpackChunks sink M fs s = [] := by
  constructor
  · intro h
    exact qpackChunks_of_alike h.unread
  · intro hnil
    refine ⟨fun read hread => routeFramesBy_spares hread hnil, ?_⟩
    intro s' e' reply hroute
    obtain ⟨r, -, heq⟩ := Option.map_eq_some_iff.mp hroute
    cases heq
    unfold encoderChunks
    rw [hnil]
    rfl

/-- The encoder stream of a peer that lowers the capacity to nothing, three times. -/
def threeCapacities : List StreamFrame := streamFrames 2 false 0 [[0x02, 0x20, 0x20, 0x20]]

/-- The decoder's table takes the three instructions, and the session is handed the last of them as
the payload of a frame. -/
theorem capacities_read_as_frame :
    (http3EndpointOnQpackEncoderBytes grantedDecoder [0x20, 0x20, 0x20]).reply = Reply.good ∧
      (routeFrames Sink.accepting 100 threeCapacities
        ⟨http3DriverInit (http3EndpointInit .server), []⟩).map (fun r => r.1.log) =
          some [.framePayload 2 0x20 [0x20] false] ∧
      ¬∀ (sink : Sink) (M : ℕ) (fs : List StreamFrame) (s : Feed) (e : MessageEndpoint),
        CarriesQpack sink M fs s e := by
  refine ⟨by decide, by decide, ?_⟩
  intro hcarries
  have hnil := qpackChunks_of_alike (hcarries Sink.accepting 100 threeCapacities
    ⟨http3DriverInit (http3EndpointInit .server), []⟩ grantedDecoder).unread
  have hchunk : qpackChunks Sink.accepting 100 threeCapacities
      ⟨http3DriverInit (http3EndpointInit .server), []⟩ =
        [(.qpackEncoder, [0x20, 0x20, 0x20])] := by decide
  rw [hchunk] at hnil
  cases hnil

end Run

end WebTransport
