import WebTransport.Http3.StreamStart

/-!
# Unidirectional streams of an unknown type

The type of a stream nobody knows is read and then forgotten. This module follows the frames
of a peer's unidirectional stream through the completion of its prefix, and says which cuts
of a stream of an unknown type are accepted.
-/

namespace WebTransport

section Prefix

variable {d : Driver} {a : ℕ} {held data bytes payload rest : List UInt8} {type : ℕ}
  {session : Option ℕ}

/-- The prefix of a stream of any other type is its type. -/
lemma readUniPrefix_of_type (h : quicVarintDecode bytes = .ok (type, rest))
    (htype : type ≠ webtransportStreamUni) : readUniPrefix bytes = some (type, none, rest) := by
  rw [readUniPrefix, h]
  exact if_pos htype

/-- A type that is read is the type of the prefix. -/
lemma quicVarintDecode_of_readUniPrefix (h : readUniPrefix bytes = some (type, session, rest))
    (htype : type ≠ webtransportStreamUni) : quicVarintDecode bytes = .ok (type, rest) := by
  unfold readUniPrefix at h
  cases hdecode : quicVarintDecode bytes with
  | error e =>
    rw [hdecode] at h
    cases h
  | ok r =>
    obtain ⟨t, r⟩ := r
    rw [hdecode] at h
    dsimp only at h
    by_cases ht : t ≠ webtransportStreamUni
    · rw [if_pos ht] at h
      cases h
      rfl
    · rw [if_neg ht] at h
      cases hsession : quicVarintDecode r with
      | error e =>
        rw [hsession] at h
        cases h
      | ok q =>
        rw [hsession] at h
        cases h
        exact absurd htype ht

/-- The frame that completes the prefix settles the stream with the bytes after it. -/
lemma http3DriverOnUniStreamData_complete (hd : ∀ p ∈ d.pending, p.streamId ≠ a)
    (hheld : readUniPrefix held = none)
    (hread : readUniPrefix (held ++ data) = some (type, session, rest)) :
    ∃ P, readUniPrefix P = some (type, session, []) ∧
      http3DriverOnUniStreamData (d.holding a held) a held.length data =
        settleUniPrefix d a P rest := by
  obtain ⟨P, hP, -, hreadP⟩ := assemblePrefix_complete (Nat.lt_succ_self _) hheld hread
  have hne : data ≠ [] := by
    rintro rfl
    rw [List.append_nil, hheld] at hread
    cases hread
  have hlen := length_of_readUniPrefix_some hreadP
  rw [List.length_nil, Nat.add_zero] at hlen
  refine ⟨P, hreadP, ?_⟩
  rw [http3DriverOnUniStreamData, heldBytes_holding hd]
  simp only
  rw [if_neg (by simp), if_neg hne, hP]
  simp only
  rw [if_neg (by omega), forgetPending_holding hd]

end Prefix

/-- The type of a stream neither HTTP/3 nor the WebTransport draft gives a meaning to. -/
def UnknownStreamType (type : ℕ) : Prop :=
  type ≠ http3StreamControl ∧ type ≠ http3StreamPush ∧ type ≠ http3StreamQpackEncoder ∧
    type ≠ http3StreamQpackDecoder ∧ type ≠ webtransportStreamUni

section Unknown

variable (sink : Sink) (M : ℕ) (log : List SinkEvent) {d : Driver} {a type : ℕ}
  {held payload rest : List UInt8} {f : StreamFrame}

/-- A stream of an unknown type leaves nothing behind when its prefix is complete. -/
lemma settleUniPrefix_unknown (hd : d.NoTrace a) (htype : UnknownStreamType type)
    {P : List UInt8} (hP : quicVarintDecode P = .ok (type, rest)) :
    settleUniPrefix d a P payload = ⟨d, Reply.good, .unknown, payload⟩ := by
  obtain ⟨hcontrol, hpush, hencoder, hdecoder, huni⟩ := htype
  have hnew : d.endpoint.streams.any (fun s => s.streamId = a) = false :=
    List.any_eq_false.mpr fun e he => by simpa using hd.streams e he
  have hendpoint : http3EndpointOnUniStream d.endpoint a P =
      (d.endpoint, Reply.good, .unknown) := by
    rw [http3EndpointOnUniStream, hnew, if_neg (by simp), hP]
    simp only
    rw [if_neg huni, if_neg hcontrol, if_neg hencoder, if_neg hdecoder, if_neg hpush]
  rw [settleUniPrefix, hP]
  simp only
  rw [if_neg huni, classifyUniStream, hendpoint]
  simp [Reply.good]

variable (hd : d.Unseen a) (huni : quicStreamIdIsBidirectional a = false)
include hd huni

/-- The frame that completes an unknown type is accepted, and the driver is as it was. -/
lemma routeStreamFrame_unknown (hid : f.id = a) (hoffset : f.offset = held.length)
    (hheld : readUniPrefix held = none) (htype : UnknownStreamType type)
    (hread : readUniPrefix (held ++ f.data) = some (type, none, rest)) :
    routeStreamFrame sink M f ⟨d.holding a held, log⟩ = some (⟨d, log⟩, Reply.good) := by
  obtain ⟨P, hreadP, hdata⟩ :=
    http3DriverOnUniStreamData_complete hd.noTrace.pending hheld hread
  have hP := quicVarintDecode_of_readUniPrefix hreadP htype.2.2.2.2
  rw [← hoffset, settleUniPrefix_unknown hd.noTrace htype hP] at hdata
  rw [routeStreamFrame_unseen sink M log held hd hid, huni, if_neg (by simp),
    routeUni_start sink M log held hd.noTrace hid hdata]
  simp [Reply.good]

/-- A frame from the middle of a stream nothing is held of is refused. -/
lemma routeStreamFrame_misplaced (hid : f.id = a) (hoffset : f.offset ≠ 0) :
    routeStreamFrame sink M f ⟨d, log⟩ = some (⟨d, log⟩, .state, .noError) := by
  have hdata : http3DriverOnUniStreamData (d.holding a []) a f.offset f.data =
      ⟨d, (.state, .noError), .unknown, []⟩ := by
    rw [http3DriverOnUniStreamData, heldBytes_holding hd.noTrace.pending]
    simp only [holding_nil]
    rw [if_pos (by simpa using hoffset)]
  have hroute := routeStreamFrame_unseen sink M log [] hd hid
  have hstart := routeUni_start sink M log [] hd.noTrace hid hdata
  rw [holding_nil] at hroute hstart
  rw [hroute, huni, if_neg (by simp), hstart]
  rfl

end Unknown

/-- **Streams of an unknown type.** The frames of such a stream are all accepted, with
nothing told to the sink and the driver as it was, exactly when the last of them is the one
that completes the type and the bytes held before it found a place. -/
theorem unknownStream_accepted_iff (sink : Sink) (M : ℕ) (d : Driver) (log : List SinkEvent)
    (a : ℕ) (hd : d.Unseen a) (huni : quicStreamIdIsBidirectional a = false)
    (pieces : List (List UInt8)) (fin : Bool) (type : ℕ) (rest : List UInt8)
    (hbytes : quicVarintDecode pieces.flatten = .ok (type, rest))
    (htype : UnknownStreamType type) :
    routeFrames sink M (streamFrames a fin 0 pieces) ⟨d, log⟩ =
        some (⟨d, log⟩, Reply.good) ↔
      quicVarintDecode pieces.dropLast.flatten = .error .truncated ∧
        (pieces.dropLast.flatten = [] ∨ d.pending.length < http3DriverPendingMax) := by
  have hread := readUniPrefix_of_type hbytes htype.2.2.2.2
  obtain ⟨before, p, after, rfl, hbefore, hcomplete⟩ :=
    exists_completing_piece (a := a)
      (show startComplete a [] = false by rw [startComplete_uni huni]; rfl)
      (by rw [startComplete_uni huni, List.nil_append, hread]; rfl)
  rw [startComplete_uni huni, List.nil_append, Option.isSome_eq_false_iff,
    Option.isNone_iff_eq_none] at hbefore
  rw [startComplete_uni huni, List.nil_append, Option.isSome_iff_exists] at hcomplete
  obtain ⟨⟨t, session, left⟩, hp⟩ := hcomplete
  -- The type that is complete here is the type of the whole stream.
  have hwhole : readUniPrefix (before ++ p :: after).flatten =
      some (t, session, left ++ after.flatten) := by
    rw [List.flatten_append, List.flatten_cons, ← List.append_assoc]
    exact readUniPrefix_append hp _
  rw [hread] at hwhole
  obtain ⟨rfl, rfl⟩ : type = t ∧ none = session := by
    simp only [Option.some.injEq, Prod.mk.injEq] at hwhole
    exact ⟨hwhole.1, hwhole.2.1⟩
  have hheld := routeFrames_held sink M log [] hd before
    (by rw [startComplete_uni huni, List.nil_append, hbefore]; rfl)
    (by rw [huni]; simp)
  rw [holding_nil, List.nil_append, List.length_nil] at hheld
  have hshort : quicVarintDecode before.flatten = .error .truncated := by
    cases hdecode : quicVarintDecode before.flatten with
    | error e => rw [quicVarintDecode_error hdecode]
    | ok r =>
      have hmore := quicVarintDecode_append hdecode (p ++ after.flatten)
      rw [← List.flatten_cons, ← List.flatten_append, hbytes] at hmore
      cases hmore
      rw [readUniPrefix_of_type hdecode htype.2.2.2.2] at hbefore
      cases hbefore
  rw [streamFrames_append before (List.cons_ne_nil p after), Nat.zero_add]
  by_cases hroom : before.flatten = [] ∨ d.pending.length < http3DriverPendingMax
  · rw [if_pos (.inr hroom)] at hheld
    rw [routeFrames_append_ok hheld rfl]
    cases after with
    | nil =>
      have hlast := routeStreamFrame_unknown sink M log
        (f := ⟨a, before.flatten.length, true, fin, true, p⟩) hd huni rfl rfl hbefore htype hp
      rw [List.dropLast_concat, streamFrames, routeFrames, hlast]
      constructor
      · intro _
        exact ⟨hshort, hroom⟩
      · intro _
        rfl
    | cons q qs =>
      have hmiddle := routeStreamFrame_unknown sink M log
        (f := ⟨a, before.flatten.length, true, false, true, p⟩) hd huni rfl rfl hbefore htype hp
      have hpos : 0 < (before.flatten ++ p).length := by
        rw [List.length_pos_iff]
        intro hnil
        rw [hnil] at hp
        cases hp
      rw [List.length_append] at hpos
      have hnext : ∀ (fin : Bool), routeStreamFrame sink M
          ⟨a, before.flatten.length + p.length, true, fin, true, q⟩ ⟨d, log⟩ =
            some (⟨d, log⟩, .state, .noError) := fun fin =>
        routeStreamFrame_misplaced sink M log hd huni rfl (by simpa using hpos.ne')
      have hrefused : routeFrames sink M
          (streamFrames a fin (before.flatten.length + p.length) (q :: qs)) ⟨d, log⟩ =
            some (⟨d, log⟩, .state, .noError) := by
        cases qs with
        | nil =>
          rw [streamFrames, routeFrames, hnext]
          rfl
        | cons r rs =>
          rw [streamFrames, routeFrames, hnext]
          rfl
      have hdrop : ∃ more, (before ++ p :: q :: qs).dropLast.flatten =
          before.flatten ++ p ++ more := by
        rw [List.dropLast_append_of_ne_nil (List.cons_ne_nil _ _), List.dropLast_cons_cons,
          List.flatten_append, List.flatten_cons]
        exact ⟨_, (List.append_assoc _ _ _).symm⟩
      obtain ⟨more, hmore⟩ := hdrop
      have hcomplete := quicVarintDecode_append
        (quicVarintDecode_of_readUniPrefix hp htype.2.2.2.2) more
      rw [streamFrames_cons (List.cons_ne_nil q qs), routeFrames, hmiddle, hmore, hcomplete]
      dsimp only
      rw [if_neg (by simp [Reply.good]), hrefused]
      constructor
      · intro h
        cases h
      · rintro ⟨h, -⟩
        cases h
  · rw [if_neg (by simpa using hroom)] at hheld
    rw [routeFrames_append_refused hheld (by simp)]
    constructor
    · intro h
      cases h
    · rintro ⟨hincomplete, hplace⟩
      exfalso
      cases after with
      | nil =>
        rw [List.dropLast_concat] at hplace
        exact hroom hplace
      | cons q qs =>
        rw [List.dropLast_append_of_ne_nil (List.cons_ne_nil _ _), List.dropLast_cons_cons,
          List.flatten_append, List.flatten_cons, ← List.append_assoc,
          quicVarintDecode_append (quicVarintDecode_of_readUniPrefix hp htype.2.2.2.2)]
          at hincomplete
        cases hincomplete

/-- A stream of the reserved type `0x21`, cut inside the varint, with its end on the last
byte of the type. -/
theorem unknownStream_accepted_of_two_frames :
    routeFrames Sink.accepting 100 (streamFrames 2 true 0 [[0x40], [0x21]])
        ⟨http3DriverInit (http3EndpointInit .server), []⟩ =
      some (⟨http3DriverInit (http3EndpointInit .server), []⟩, Reply.good) := by
  apply (unknownStream_accepted_iff Sink.accepting 100
    (http3DriverInit (http3EndpointInit .server)) [] 2
    ⟨by decide, http3DriverInit_noTrace .server 2⟩ (by decide) [[0x40], [0x21]] true 0x21 []
    rfl (by unfold UnknownStreamType; decide)).mpr
  exact ⟨rfl, .inr (by decide)⟩

/-- The same stream with its end on a frame of its own is refused. -/
theorem unknownStream_refused_after_type :
    ¬ ∀ (sink : Sink) (M : ℕ) (d : Driver) (log : List SinkEvent) (a : ℕ), d.Unseen a →
      quicStreamIdIsBidirectional a = false →
      ∀ (pieces : List (List UInt8)) (fin : Bool) (type : ℕ) (rest : List UInt8),
        quicVarintDecode pieces.flatten = .ok (type, rest) → UnknownStreamType type →
        routeFrames sink M (streamFrames a fin 0 pieces) ⟨d, log⟩ =
          some (⟨d, log⟩, Reply.good) := by
  intro h
  have hrun := h Sink.accepting 100 (http3DriverInit (http3EndpointInit .server)) [] 2
    ⟨by decide, http3DriverInit_noTrace .server 2⟩ (by decide) [[0x21], []] true 0x21 [] rfl
    (by unfold UnknownStreamType; decide)
  have hreply : (routeFrames Sink.accepting 100 (streamFrames 2 true 0 [[0x21], []])
      ⟨http3DriverInit (http3EndpointInit .server), []⟩).map (fun r => r.2.1) =
        some .state := by decide
  rw [hrun] at hreply
  cases hreply

end WebTransport
