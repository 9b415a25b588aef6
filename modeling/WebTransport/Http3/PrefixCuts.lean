import WebTransport.Http3.UnknownStreams

/-!
# Cutting a WebTransport stream anywhere

The frames of a stream that begins with a WebTransport prefix: what the sink is told of it
however the bytes were cut, and what becomes of a stream that names another session.
-/

namespace WebTransport

/-! ## What the sink was told of a stream -/

/-- The bytes of a stream that were handed over. -/
def deliveredBytes (a : ℕ) : List SinkEvent → List UInt8
  | [] => []
  | .streamData id data _ :: events =>
    if id = a then data ++ deliveredBytes a events else deliveredBytes a events
  | _ :: events => deliveredBytes a events

/-- How often the end of a stream was handed over. -/
def deliveredEnds (a : ℕ) : List SinkEvent → ℕ
  | [] => 0
  | .streamData id _ fin :: events =>
    (if id = a ∧ fin then 1 else 0) + deliveredEnds a events
  | _ :: events => deliveredEnds a events

section Delivered

variable {a : ℕ}

lemma deliveredBytes_append (first second : List SinkEvent) :
    deliveredBytes a (first ++ second) = deliveredBytes a first ++ deliveredBytes a second := by
  induction first with
  | nil => rfl
  | cons e first ih =>
    cases e with
    | framePayload id type payload last => exact ih
    | datagram data => exact ih
    | streamData id data fin =>
      rw [List.cons_append, deliveredBytes, deliveredBytes, ih]
      split_ifs
      · rw [List.append_assoc]
      · rfl

lemma deliveredEnds_append (first second : List SinkEvent) :
    deliveredEnds a (first ++ second) = deliveredEnds a first + deliveredEnds a second := by
  induction first with
  | nil => simp [deliveredEnds]
  | cons e first ih =>
    cases e with
    | framePayload id type payload last => exact ih
    | datagram data => exact ih
    | streamData id data fin =>
      rw [List.cons_append, deliveredEnds, deliveredEnds, ih, Nat.add_assoc]

/-- Pieces of frames are no bytes of the session. -/
lemma deliveredEnds_framePayload {events : List SinkEvent}
    (h : ∀ e ∈ events, e.IsFramePayload) : deliveredEnds a events = 0 := by
  induction events with
  | nil => rfl
  | cons e events ih =>
    have hrest := ih fun e' he' => h e' (List.mem_cons_of_mem _ he')
    cases e with
    | framePayload id type payload last => exact hrest
    | datagram data => exact hrest
    | streamData id data fin => exact (h _ List.mem_cons_self).elim

end Delivered

/-- A session that takes everything it is handed. -/
def Sink.TakesStreamData (sink : Sink) : Prop :=
  ∃ answer, sink.onStreamData = some answer ∧ ∀ log, answer log = .ok

lemma report_takes {sink : Sink} (h : sink.TakesStreamData) (s : Feed) (event : SinkEvent) :
    s.report sink.onStreamData event = ({ s with log := s.log ++ [event] }, Reply.good) := by
  obtain ⟨answer, hanswer, hok⟩ := h
  rw [hanswer, Feed.report]
  simp only [hok]
  rfl

/-! ## The WebTransport prefix -/

/-- The session a stream names after the type of a WebTransport stream, and the bytes after
the prefix. -/
def readSessionPrefix (type : ℕ) (bytes : List UInt8) : Option (ℕ × List UInt8) :=
  match quicVarintDecode bytes with
  | .error _ => none
  | .ok (t, rest) =>
    if t ≠ type then none
    else
      match quicVarintDecode rest with
      | .error _ => none
      | .ok (sessionId, payload) => some (sessionId, payload)

/-- The type a WebTransport stream begins with. -/
def webtransportType (a : ℕ) : ℕ :=
  if quicStreamIdIsBidirectional a then webtransportStreamBidi else webtransportStreamUni

section Read

variable {bytes payload : List UInt8} {type sessionId : ℕ}

lemma readSessionPrefix_spec (h : readSessionPrefix type bytes = some (sessionId, payload)) :
    ∃ rest, quicVarintDecode bytes = .ok (type, rest) ∧
      quicVarintDecode rest = .ok (sessionId, payload) := by
  unfold readSessionPrefix at h
  cases htype : quicVarintDecode bytes with
  | error e =>
    rw [htype] at h
    cases h
  | ok r =>
    obtain ⟨t, rest⟩ := r
    rw [htype] at h
    dsimp only at h
    by_cases ht : t ≠ type
    · rw [if_pos ht] at h
      cases h
    · rw [if_neg ht] at h
      obtain rfl := not_not.mp ht
      cases hsession : quicVarintDecode rest with
      | error e =>
        rw [hsession] at h
        cases h
      | ok q =>
        rw [hsession] at h
        cases h
        exact ⟨rest, rfl, hsession⟩

lemma readUniPrefix_of_session
    (h : readSessionPrefix webtransportStreamUni bytes = some (sessionId, payload)) :
    readUniPrefix bytes = some (webtransportStreamUni, some sessionId, payload) := by
  obtain ⟨rest, htype, hsession⟩ := readSessionPrefix_spec h
  rw [readUniPrefix, htype]
  simp only
  rw [if_neg (by simp), hsession]

/-- What is left after the prefix is the end of the stream's bytes. -/
lemma drop_of_readSessionPrefix (h : readSessionPrefix type bytes = some (sessionId, payload)) :
    bytes.drop (bytes.length - payload.length) = payload := by
  obtain ⟨rest, htype, hsession⟩ := readSessionPrefix_spec h
  obtain ⟨first, rfl, -⟩ := quicVarintDecode_suffix htype
  obtain ⟨second, rfl, -⟩ := quicVarintDecode_suffix hsession
  have hlen : (first ++ second ++ payload).length - payload.length =
      (first ++ second).length := by
    rw [List.length_append, Nat.add_sub_cancel]
  rw [← List.append_assoc, hlen, List.drop_left]

/-- A prefix that is complete within a stream is the prefix of the whole stream. -/
lemma readSessionPrefix_left {a : ℕ} {more : List UInt8}
    (hcomplete : startComplete a bytes = true)
    (h : readSessionPrefix (webtransportType a) (bytes ++ more) = some (sessionId, payload)) :
    ∃ rest, readSessionPrefix (webtransportType a) bytes = some (sessionId, rest) ∧
      payload = rest ++ more := by
  obtain ⟨r, htype, hsession⟩ := readSessionPrefix_spec h
  have hdecode : ∃ q, quicVarintDecode bytes = .ok (webtransportType a, q) ∧
      ∃ i left, quicVarintDecode q = .ok (i, left) := by
    unfold startComplete at hcomplete
    unfold webtransportType at htype ⊢
    split_ifs at hcomplete htype ⊢
    · unfold http3DriverClassifyBidiStart at hcomplete
      cases hfirst : quicVarintDecode bytes with
      | error e =>
        rw [hfirst] at hcomplete
        cases hcomplete
      | ok q =>
        obtain ⟨t, q⟩ := q
        rw [quicVarintDecode_append hfirst] at htype
        cases htype
        rw [hfirst] at hcomplete
        dsimp only at hcomplete
        rw [if_neg (by simp)] at hcomplete
        cases hnext : quicVarintDecode q with
        | error e =>
          rw [hnext] at hcomplete
          cases hcomplete
        | ok left => exact ⟨q, rfl, left.1, left.2, hnext⟩
    · unfold readUniPrefix at hcomplete
      cases hfirst : quicVarintDecode bytes with
      | error e =>
        rw [hfirst] at hcomplete
        cases hcomplete
      | ok q =>
        obtain ⟨t, q⟩ := q
        rw [quicVarintDecode_append hfirst] at htype
        cases htype
        rw [hfirst] at hcomplete
        dsimp only at hcomplete
        rw [if_neg (by simp)] at hcomplete
        cases hnext : quicVarintDecode q with
        | error e =>
          rw [hnext] at hcomplete
          cases hcomplete
        | ok left => exact ⟨q, rfl, left.1, left.2, hnext⟩
  obtain ⟨q, hfirst, i, left, hnext⟩ := hdecode
  have hr := quicVarintDecode_append hfirst more
  rw [htype] at hr
  cases hr
  have hleft := quicVarintDecode_append hnext more
  rw [hsession] at hleft
  cases hleft
  refine ⟨left, ?_, rfl⟩
  rw [readSessionPrefix, hfirst]
  simp only
  rw [if_neg (by simp), hnext]

/-- A stream with a WebTransport prefix has a complete start. -/
lemma startComplete_of_session {a : ℕ}
    (h : readSessionPrefix (webtransportType a) bytes = some (sessionId, payload)) :
    startComplete a bytes = true := by
  unfold webtransportType at h
  unfold startComplete
  split_ifs at h ⊢
  · obtain ⟨rest, htype, hsession⟩ := readSessionPrefix_spec h
    rw [http3DriverClassifyBidiStart_webtransport htype hsession]
    rfl
  · rw [readUniPrefix_of_session h]
    rfl

end Read

/-! ## The frame that completes the prefix -/

/-- The driver once a unidirectional stream of a session is classified. -/
def Driver.withUniStream (d : Driver) (a : ℕ) : Driver :=
  d.setEndpoint
    { d.endpoint with
      peerWebtransportStreamsSeen := true
      streams := d.endpoint.streams ++ [⟨a, .webtransport, webtransportStreamUni⟩] }

/-- The driver once a data stream is remembered. -/
def Driver.withDataStream (d : Driver) (a sessionId : ℕ) : Driver :=
  { d with dataStreams := d.dataStreams ++ [⟨a, 0, some sessionId⟩] }

section Complete

variable {sink : Sink} (M : ℕ) (log : List SinkEvent) {d : Driver} {a sessionId : ℕ}
  {held payload rest : List UInt8} {f : StreamFrame}

/-- A unidirectional stream whose prefix names a session. -/
lemma settleUniPrefix_webtransport (hd : d.NoTrace a) {P : List UInt8}
    (hP : readUniPrefix P = some (webtransportStreamUni, some sessionId, [])) :
    settleUniPrefix d a P payload =
      if foreignSession d sessionId then ⟨d, (.protocol, .idError), .unknown, []⟩
      else if d.endpoint.streams.length ≥ http3EndpointStreamsMax then
        ⟨d.setEndpoint { d.endpoint with peerWebtransportStreamsSeen := true },
          (.limit, .noError), .unknown, []⟩
      else if d.dataStreams.length ≥ http3DriverDataStreamsMax then
        ⟨d.withUniStream a, (.limit, .noError), .webtransport, []⟩
      else
        ⟨(d.withUniStream a).withDataStream a sessionId, Reply.good, .webtransport, payload⟩ := by
  unfold readUniPrefix at hP
  cases htype : quicVarintDecode P with
  | error e =>
    rw [htype] at hP
    cases hP
  | ok r =>
    obtain ⟨t, r⟩ := r
    rw [htype] at hP
    dsimp only at hP
    by_cases ht : t ≠ webtransportStreamUni
    · rw [if_pos ht] at hP
      cases hP
    · rw [if_neg ht] at hP
      obtain rfl := not_not.mp ht
      cases hsession : quicVarintDecode r with
      | error e =>
        rw [hsession] at hP
        cases hP
      | ok q =>
        obtain ⟨i, q⟩ := q
        rw [hsession] at hP
        cases hP
        have hnew : d.endpoint.streams.any (fun s => s.streamId = a) = false :=
          List.any_eq_false.mpr fun e he => by simpa using hd.streams e he
        have hendpoint : http3EndpointOnUniStream d.endpoint a P =
            recordStream { d.endpoint with peerWebtransportStreamsSeen := true }
              ⟨a, .webtransport, webtransportStreamUni⟩ := by
          rw [http3EndpointOnUniStream, hnew, if_neg (by simp), htype]
          simp only [if_true]
        rw [settleUniPrefix, htype]
        simp only [if_true, hsession]
        by_cases hforeign : foreignSession d sessionId = true
        · rw [if_pos hforeign, if_pos hforeign]
        · rw [if_neg hforeign, if_neg hforeign, classifyUniStream, hendpoint, recordStream]
          by_cases hstreams : d.endpoint.streams.length ≥ http3EndpointStreamsMax
          · rw [if_pos hstreams, if_pos hstreams]
            simp
          · rw [if_neg hstreams, if_neg hstreams]
            simp only [rememberDataStream]
            by_cases hdata : d.dataStreams.length ≥ http3DriverDataStreamsMax
            · rw [if_pos hdata]
              simp [Reply.good, hdata, Driver.setEndpoint, Driver.withUniStream]
            · rw [if_neg hdata]
              simp [Reply.good, hdata, Driver.setEndpoint, Driver.withUniStream,
                Driver.withDataStream]

/-- What follows the prefix goes to the session in at most two pieces. -/
lemma deliverAfterPrefix_delivers (hsink : sink.TakesStreamData) (assembled left : List UInt8)
    (fin : Bool) (s : Feed) :
    ∃ events, deliverAfterPrefix sink a assembled left fin s =
        (⟨s.driver, s.log ++ events⟩, Reply.good) ∧
      deliveredBytes a events = assembled ++ left ∧
      deliveredEnds a events = if assembled ++ left ≠ [] ∧ fin then 1 else 0 := by
  have hsome : sink.onStreamData.isNone = false := by
    obtain ⟨answer, hanswer, -⟩ := hsink
    rw [hanswer]
    rfl
  unfold deliverAfterPrefix
  rw [hsome, if_neg (by simp)]
  by_cases hassembled : assembled = []
  · subst hassembled
    by_cases hleft : left = []
    · subst hleft
      exact ⟨[], by simp [Reply.good], rfl, by simp [deliveredEnds]⟩
    · refine ⟨[.streamData a left fin], ?_, ?_, ?_⟩
      · simp [hleft, report_takes hsink, Reply.good]
      · simp [deliveredBytes]
      · simp [deliveredEnds, hleft]
  · by_cases hleft : left = []
    · subst hleft
      refine ⟨[.streamData a assembled fin], ?_, ?_, ?_⟩
      · simp [hassembled, report_takes hsink, Reply.good]
      · simp [deliveredBytes]
      · simp [deliveredEnds, hassembled]
    · refine ⟨[.streamData a assembled false, .streamData a left fin], ?_, ?_, ?_⟩
      · simp [hassembled, hleft, report_takes hsink, Reply.good]
      · simp [deliveredBytes]
      · simp [deliveredEnds, hassembled]

lemma isDataStream_withDataStream : http3DriverIsDataStream (d.withDataStream a sessionId) a = true :=
  List.any_eq_true.mpr ⟨⟨a, 0, some sessionId⟩, by simp [Driver.withDataStream], by simp⟩

/-- The tables have room for a WebTransport stream. -/
structure Driver.RoomFor (d : Driver) (a : ℕ) : Prop where
  streams : quicStreamIdIsBidirectional a = false →
    d.endpoint.streams.length < http3EndpointStreamsMax
  dataStreams : d.dataStreams.length < http3DriverDataStreamsMax

/-- What a frame that completes the prefix of a stream of the session does. -/
structure CompletesStream (a : ℕ) (log : List SinkEvent) (rest : List UInt8) (fin : Bool)
    (s : Feed) : Prop where
  dataStream : http3DriverIsDataStream s.driver a = true
  delivered : ∃ events, s.log = log ++ events ∧ deliveredBytes a events = rest ∧
    deliveredEnds a events = if rest ≠ [] ∧ fin then 1 else 0

variable (hd : d.Unseen a) (hid : f.id = a) (hoffset : f.offset = held.length)
  (hheld : startComplete a held = false)
  (hread : readSessionPrefix (webtransportType a) (held ++ f.data) = some (sessionId, rest))
include hd hid hoffset hheld hread

/-- The frame that completes the prefix of a unidirectional stream. -/
lemma routeStreamFrame_uniSession (hsink : sink.TakesStreamData)
    (huni : quicStreamIdIsBidirectional a = false) :
    ∃ s reply, routeStreamFrame sink M f ⟨d.holding a held, log⟩ = some (s, reply) ∧
      (foreignSession d sessionId = true → s = ⟨d, log⟩ ∧ reply = (.protocol, .idError)) ∧
      (foreignSession d sessionId = false → ¬ d.RoomFor a → reply = (.limit, .noError)) ∧
      (foreignSession d sessionId = false → d.RoomFor a →
        reply = Reply.good ∧ CompletesStream a log rest f.fin s) := by
  have htype : webtransportType a = webtransportStreamUni := by simp [webtransportType, huni]
  rw [htype] at hread
  rw [startComplete_uni huni, Option.isSome_eq_false_iff, Option.isNone_iff_eq_none] at hheld
  obtain ⟨P, hP, hdata⟩ := http3DriverOnUniStreamData_complete hd.noTrace.pending hheld
    (readUniPrefix_of_session hread)
  rw [settleUniPrefix_webtransport hd.noTrace hP, ← hoffset] at hdata
  rw [routeStreamFrame_unseen sink M log held hd hid, huni, if_neg (by simp),
    routeUni_start sink M log held hd.noTrace hid hdata]
  by_cases hforeign : foreignSession d sessionId = true
  · rw [if_pos hforeign, if_pos (by simp)]
    exact ⟨_, _, rfl, fun _ => ⟨rfl, rfl⟩, fun h => absurd (hforeign.symm.trans h) (by simp),
      fun h => absurd (hforeign.symm.trans h) (by simp)⟩
  · rw [if_neg hforeign]
    by_cases hstreams : d.endpoint.streams.length ≥ http3EndpointStreamsMax
    · rw [if_pos hstreams, if_pos (by simp)]
      exact ⟨_, _, rfl, fun h => absurd h hforeign, fun _ _ => rfl,
        fun _ hroom => absurd (hroom.streams huni) (not_lt.mpr hstreams)⟩
    · rw [if_neg hstreams]
      by_cases hfull : d.dataStreams.length ≥ http3DriverDataStreamsMax
      · rw [if_pos hfull, if_pos (by simp)]
        exact ⟨_, _, rfl, fun h => absurd h hforeign, fun _ _ => rfl,
          fun _ hroom => absurd hroom.dataStreams (not_lt.mpr hfull)⟩
      · have hroom : d.RoomFor a := ⟨fun _ => not_le.mp hstreams, not_le.mp hfull⟩
        rw [if_neg hfull, if_neg (by simp [Reply.good]), if_neg (by simp)]
        unfold routeUniPayload
        rw [if_pos rfl]
        by_cases hrest : rest = []
        · rw [if_neg (by simpa using hrest)]
          refine ⟨_, _, rfl, fun h => absurd h hforeign, fun _ h => absurd hroom h,
            fun _ _ => ⟨rfl, isDataStream_withDataStream, [], by simp, hrest.symm, ?_⟩⟩
          simp [deliveredEnds, hrest]
        · rw [if_pos hrest, report_takes hsink]
          refine ⟨_, _, rfl, fun h => absurd h hforeign, fun _ h => absurd hroom h,
            fun _ _ => ⟨rfl, isDataStream_withDataStream, [.streamData a rest f.fin], rfl, ?_,
              ?_⟩⟩
          · simp [deliveredBytes]
          · simp [deliveredEnds, hrest]

/-- The frame that completes the prefix of a bidirectional stream. -/
lemma routeStreamFrame_bidiSession (hsink : sink.TakesStreamData)
    (hbidi : quicStreamIdIsBidirectional a = true) :
    ∃ s reply, routeStreamFrame sink M f ⟨d.holding a held, log⟩ = some (s, reply) ∧
      (foreignSession d sessionId = true → s = ⟨d, log⟩ ∧ reply = (.protocol, .noError)) ∧
      (foreignSession d sessionId = false → ¬ d.RoomFor a → reply = (.limit, .noError)) ∧
      (foreignSession d sessionId = false → d.RoomFor a →
        reply = Reply.good ∧ CompletesStream a log rest f.fin s) := by
  have htype : webtransportType a = webtransportStreamBidi := by simp [webtransportType, hbidi]
  rw [htype] at hread
  have hne : held ++ f.data ≠ [] := by
    intro hnil
    rw [hnil] at hread
    cases hread
  have hlong : held.length ≤ http3DriverPrefixMax := by
    rw [startComplete_bidi hbidi] at hheld
    cases hclass : http3DriverClassifyBidiStart held with
    | error e => exact length_of_unclassified hclass
    | ok start =>
      rw [hclass] at hheld
      cases hheld
  obtain ⟨r, hdecode, hsession⟩ := readSessionPrefix_spec hread
  have hstart := http3DriverClassifyBidiStart_webtransport hdecode hsession
  -- The buffer holds the whole prefix, so what is consumed lies within it.
  have hdrop : (assembledStart held f.data).drop ((held ++ f.data).length - rest.length) ++
      beyondStart held f.data = rest := by
    have hbuffer : http3DriverClassifyBidiStart (assembledStart held f.data) =
        .ok (.webtransport sessionId ((held ++ f.data).length - rest.length)) := by
      rw [classify_assembledStart hlong, hstart]
    have hcomplete : startComplete a (assembledStart held f.data) = true := by
      rw [startComplete_bidi hbidi, hbuffer]
      rfl
    rw [← htype, ← assembledStart_append held f.data] at hread
    obtain ⟨left, hleft, hrest⟩ := readSessionPrefix_left hcomplete hread
    have hlen : (held ++ f.data).length - rest.length =
        (assembledStart held f.data).length - left.length := by
      rw [← assembledStart_append held f.data, hrest, List.length_append, List.length_append]
      omega
    rw [hlen, drop_of_readSessionPrefix hleft, hrest]
  rw [routeStreamFrame_unseen sink M log held hd hid, hbidi, if_pos rfl,
    routeBidi_start sink M log held hd.noTrace hid hoffset hne, classify_assembledStart hlong,
    hstart]
  dsimp only
  by_cases hforeign : foreignSession d sessionId = true
  · rw [if_pos hforeign]
    exact ⟨_, _, rfl, fun _ => ⟨rfl, rfl⟩, fun h => absurd (hforeign.symm.trans h) (by simp),
      fun h => absurd (hforeign.symm.trans h) (by simp)⟩
  · rw [if_neg hforeign]
    by_cases hfull : d.dataStreams.length ≥ http3DriverDataStreamsMax
    · have hremember : rememberDataStream d a 0 (some sessionId) = (d, .limit) := if_pos hfull
      rw [hremember, if_pos (by simp)]
      exact ⟨_, _, rfl, fun h => absurd h hforeign, fun _ _ => rfl,
        fun _ hroom => absurd hroom.dataStreams (not_lt.mpr hfull)⟩
    · have hremember : rememberDataStream d a 0 (some sessionId) =
          (d.withDataStream a sessionId, .ok) := if_neg hfull
      have hroom : d.RoomFor a := ⟨fun h => absurd (hbidi.symm.trans h) (by simp), not_le.mp hfull⟩
      rw [hremember, if_neg (by simp)]
      obtain ⟨events, hdeliver, hbytes, hends⟩ := deliverAfterPrefix_delivers (a := a) hsink
        ((assembledStart held f.data).drop ((held ++ f.data).length - rest.length))
        (beyondStart held f.data) f.fin ⟨d.withDataStream a sessionId, log⟩
      rw [hdrop] at hbytes hends
      rw [hdeliver]
      exact ⟨_, _, rfl, fun h => absurd h hforeign, fun _ h => absurd hroom h,
        fun _ _ => ⟨rfl, isDataStream_withDataStream, events, rfl, hbytes, hends⟩⟩

/-- The frame that completes the prefix, on either path. -/
lemma routeStreamFrame_session (hsink : sink.TakesStreamData) :
    ∃ s reply, routeStreamFrame sink M f ⟨d.holding a held, log⟩ = some (s, reply) ∧
      (foreignSession d sessionId = true → s = ⟨d, log⟩ ∧
        reply = (.protocol, if quicStreamIdIsBidirectional a then .noError else .idError)) ∧
      (foreignSession d sessionId = false → ¬ d.RoomFor a → reply = (.limit, .noError)) ∧
      (foreignSession d sessionId = false → d.RoomFor a →
        reply = Reply.good ∧ CompletesStream a log rest f.fin s) := by
  cases hkind : quicStreamIdIsBidirectional a with
  | true =>
    rw [if_pos rfl]
    exact routeStreamFrame_bidiSession M log hd hid hoffset hheld hread hsink hkind
  | false =>
    rw [if_neg (by simp)]
    exact routeStreamFrame_uniSession M log hd hid hoffset hheld hread hsink hkind

end Complete

/-! ## The frames after the prefix -/

/-- The frames of a data stream are handed over as they are. -/
lemma routeFrames_dataStream {sink : Sink} (M : ℕ) (hsink : sink.TakesStreamData) {d : Driver}
    {a : ℕ} (hdata : http3DriverIsDataStream d a = true) (pieces : List (List UInt8))
    (offset : ℕ) (log : List SinkEvent) :
    ∃ events, routeFrames sink M (streamFrames a true offset pieces) ⟨d, log⟩ =
        some (⟨d, log ++ events⟩, Reply.good) ∧
      deliveredBytes a events = pieces.flatten ∧
      deliveredEnds a events = if pieces = [] then 0 else 1 := by
  induction pieces generalizing offset log with
  | nil => exact ⟨[], by simp [streamFrames, routeFrames], rfl, rfl⟩
  | cons p ps ih =>
    have hroute : ∀ fin, routeStreamFrame sink M ⟨a, offset, true, fin, true, p⟩ ⟨d, log⟩ =
        some (⟨d, log ++ [.streamData a p fin]⟩, Reply.good) := by
      intro fin
      rw [routeStreamFrame, if_pos hdata, report_takes hsink]
    cases ps with
    | nil =>
      refine ⟨[.streamData a p true], ?_, ?_, ?_⟩
      · rw [streamFrames, routeFrames, hroute]
        rfl
      · simp [deliveredBytes]
      · simp [deliveredEnds]
    | cons q qs =>
      obtain ⟨events, hrest, hbytes, hends⟩ :=
        ih (offset + p.length) (log ++ [.streamData a p false])
      refine ⟨.streamData a p false :: events, ?_, ?_, ?_⟩
      · rw [streamFrames, routeFrames, hroute]
        dsimp only
        rw [if_neg (by simp [Reply.good]), hrest, List.append_assoc]
        rfl
      · rw [deliveredBytes, if_pos rfl, hbytes]
        rfl
      · rw [deliveredEnds, if_neg (by simp), hends]
        rfl

/-! ## A bidirectional stream that begins with an empty frame -/

/-- A stream that is tracked as a request and nothing else. -/
structure RequestOnly (a : ℕ) (d : Driver) : Prop where
  bidi : quicStreamIdIsBidirectional a = true
  tracked : http3EndpointRequestTracked d.endpoint a = true
  notData : http3DriverIsDataStream d a = false
  notMarked : a ∉ d.marked
  unclassified : ∀ e ∈ d.endpoint.streams, e.streamId ≠ a

/-- The result of a run that told the session nothing about a stream and was refused, if at
all, for another reason than an ID. -/
def TellsNothing (a : ℕ) (log : List SinkEvent) (r : Option (Feed × Reply)) : Prop :=
  ∀ s reply, r = some (s, reply) →
    reply.2 ≠ .idError ∧ ∃ events, s.log = log ++ events ∧ deliveredEnds a events = 0

section Request

variable {sink : Sink} {M a : ℕ} {s s' : Feed} {reply : Reply} {f : StreamFrame}

/-- Frames of a request stream stay HTTP/3 frames. -/
lemma RequestOnly.onStreamBytes (h : RequestOnly a s.driver) {data : List UInt8} {fin : Bool}
    (hcall : http3DriverOnStreamBytes sink M a data fin s = some (s', reply)) :
    RequestOnly a s'.driver ∧ reply.2 ≠ .idError ∧
      ∃ events, s'.log = s.log ++ events ∧ deliveredEnds a events = 0 := by
  obtain ⟨hwork, herror⟩ := http3DriverOnStreamBytes_works sink hcall
  have hkind := streamKind_eq_unknown h.unclassified
  obtain ⟨events, hlog, hevents⟩ := hwork.events
  refine ⟨⟨h.bidi, ?_, ?_, ?_, ?_⟩, herror (by rw [hkind]; simp), events, hlog, ?_⟩
  · have htracked := h.tracked
    unfold http3EndpointRequestTracked at htracked ⊢
    rwa [hwork.requests]
  · have hdata := h.notData
    unfold http3DriverIsDataStream at hdata ⊢
    rwa [hwork.dataStreams]
  · rw [hwork.marks]
    exact h.notMarked
  · rw [hwork.streams]
    exact h.unclassified
  · exact deliveredEnds_framePayload fun e he => (hevents e he).2 h.notMarked

lemma RequestOnly.route (h : RequestOnly a s.driver) (hid : f.id = a) :
    routeStreamFrame sink M f s = http3DriverOnStreamBytes sink M a f.data f.fin s := by
  subst hid
  rw [routeStreamFrame, h.notData, if_neg (by simp), h.bidi, if_neg (by simp), if_pos rfl,
    routeBidi, h.tracked]
  simp [routeRequest, Reply.good, Feed.setEndpoint]

/-- No later frame of a request stream tells the session anything. -/
lemma RequestOnly.routeFrames (h : RequestOnly a s.driver) (sink : Sink) (M : ℕ)
    {fs : List StreamFrame} (hids : ∀ f ∈ fs, f.id = a) : TellsNothing a s.log (routeFrames sink M fs s) := by
  induction fs generalizing s with
  | nil =>
    intro s' reply hrun
    cases hrun
    exact ⟨by simp [Reply.good], [], by simp, rfl⟩
  | cons f fs ih =>
    intro s' reply hrun
    rw [WebTransport.routeFrames, h.route (hids f List.mem_cons_self)] at hrun
    cases hcall : http3DriverOnStreamBytes sink M a f.data f.fin s with
    | none =>
      rw [hcall] at hrun
      cases hrun
    | some r =>
      obtain ⟨s₁, r⟩ := r
      obtain ⟨honly, herror, first, hfirst, hends⟩ := h.onStreamBytes hcall
      rw [hcall] at hrun
      dsimp only at hrun
      by_cases hr : r.1 ≠ .ok
      · rw [if_pos hr] at hrun
        cases hrun
        exact ⟨herror, first, hfirst, hends⟩
      · rw [if_neg hr] at hrun
        obtain ⟨herror', second, hsecond, hends'⟩ :=
          ih honly (fun g hg => hids g (List.mem_cons_of_mem _ hg)) s' reply hrun
        refine ⟨herror', first ++ second, ?_, ?_⟩
        · rw [hsecond, hfirst, List.append_assoc]
        · rw [deliveredEnds_append, hends, hends']

end Request

/-- What becomes of a request stream that is not tracked yet. -/
lemma http3EndpointOnRequestStream_spec {e : Endpoint} {a : ℕ}
    (h : http3EndpointRequestTracked e a = false) :
    http3EndpointOnRequestStream e a = (e, .protocol, .streamCreationError) ∨
      http3EndpointOnRequestStream e a = (e, .limit, .noError) ∨
      http3EndpointOnRequestStream e a =
        ({ e with requests := e.requests ++ [(a, false)] }, Reply.good) := by
  unfold http3EndpointOnRequestStream trackRequest
  rw [h]
  by_cases hrole : e.role = .client
  · exact .inl (if_pos hrole)
  · rw [if_neg hrole, if_neg (by simp)]
    by_cases hfull : e.requests.length ≥ http3EndpointRequestsMax
    · exact .inr (.inl (if_pos hfull))
    · exact .inr (.inr (if_neg hfull))

/-- An empty first frame makes a bidirectional stream a request stream for good. -/
lemma routeFrames_empty_first (sink : Sink) (M : ℕ) {d : Driver} {a : ℕ} (hd : d.Unseen a)
    (hbidi : quicStreamIdIsBidirectional a = true) {f : StreamFrame} {fs : List StreamFrame}
    (hf : f.data = []) (hids : ∀ g ∈ f :: fs, g.id = a) (log : List SinkEvent) :
    TellsNothing a log (routeFrames sink M (f :: fs) ⟨d, log⟩) := by
  have hid : f.id = a := hids f List.mem_cons_self
  have htracked : http3EndpointRequestTracked d.endpoint a = false :=
    requestTracked_eq_false hd.noTrace.requests
  have hroute : routeStreamFrame sink M f ⟨d, log⟩ =
      routeRequest sink M false f ⟨d, log⟩ := by
    have hunseen := routeStreamFrame_unseen sink M log [] hd hid
    rw [holding_nil] at hunseen
    rw [hunseen, hbidi, if_pos rfl, routeBidi, hid, htracked,
      findPending_eq_none hd.noTrace.pending]
    simp [hf]
  intro s reply hrun
  rw [routeFrames, hroute, routeRequest, hid] at hrun
  rcases hreq : http3EndpointOnRequestStream d.endpoint a with ⟨e, r⟩
  simp only [hreq, Bool.false_eq_true, if_false] at hrun
  rcases http3EndpointOnRequestStream_spec htracked with hspec | hspec | hspec
  · rw [hspec] at hreq
    cases hreq
    cases hrun
    exact ⟨by simp, [], by simp, rfl⟩
  · rw [hspec] at hreq
    cases hreq
    cases hrun
    exact ⟨by simp, [], by simp, rfl⟩
  · rw [hspec] at hreq
    cases hreq
    rw [if_neg (by simp [Reply.good])] at hrun
    -- The endpoint took the request, so the stream is tracked from here on.
    set e := { d.endpoint with requests := d.endpoint.requests ++ [(a, false)] } with he
    have honly : RequestOnly a (Feed.setEndpoint ⟨d, log⟩ e).driver := by
      refine ⟨hbidi, ?_, isDataStream_eq_false hd.noTrace.dataStreams, hd.noTrace.marks, ?_⟩
      · simp [http3EndpointRequestTracked, Feed.setEndpoint, he]
      · exact hd.noTrace.streams
    have hframes := honly.routeFrames sink M hids
    rw [routeFrames, honly.route hid] at hframes
    exact hframes s reply hrun

/-! ## The whole stream -/

/-- The session is handed the whole payload of a stream, and its end once. -/
def DeliversStream (sink : Sink) (M : ℕ) (d : Driver) (log : List SinkEvent) (a : ℕ)
    (pieces : List (List UInt8)) (payload : List UInt8) : Prop :=
  ∃ d' events, routeFrames sink M (streamFrames a true 0 pieces) ⟨d, log⟩ =
      some (⟨d', log ++ events⟩, Reply.good) ∧
    deliveredBytes a events = payload ∧ deliveredEnds a events = 1

/-- A stream is refused for the session it names, and nothing is left of it. -/
def RefusesStream (sink : Sink) (M : ℕ) (d : Driver) (log : List SinkEvent) (a : ℕ)
    (pieces : List (List UInt8)) : Prop :=
  routeFrames sink M (streamFrames a true 0 pieces) ⟨d, log⟩ =
    some (⟨d, log⟩, .protocol, .idError)

/-- Some frames of a stream end inside its prefix. -/
def CutsPrefix (a : ℕ) (pieces : List (List UInt8)) : Prop :=
  ∃ before after, pieces = before ++ after ∧ before.flatten ≠ [] ∧
    startComplete a before.flatten = false

/-- When the cut of a stream of the session does not matter. -/
structure DeliversWhen (d : Driver) (a : ℕ) (pieces : List (List UInt8)) (payload : List UInt8) :
    Prop where
  room : d.RoomFor a
  notEmptyFirst : quicStreamIdIsBidirectional a = true → pieces.head? ≠ some []
  endAlone : payload = [] → pieces.getLast? = some []

section Whole

variable {sink : Sink} {M : ℕ} {d : Driver} {log : List SinkEvent} {a sessionId : ℕ}
  {payload : List UInt8} {pieces : List (List UInt8)} {s : Feed} {reply : Reply}

lemma not_delivers (hrun : routeFrames sink M (streamFrames a true 0 pieces) ⟨d, log⟩ =
    some (s, reply)) (hreply : reply ≠ Reply.good) :
    ¬ DeliversStream sink M d log a pieces payload := by
  rintro ⟨d', events, hgood, -⟩
  rw [hrun] at hgood
  cases hgood
  exact hreply rfl

lemma not_refuses (hrun : routeFrames sink M (streamFrames a true 0 pieces) ⟨d, log⟩ =
    some (s, reply)) (hreply : reply ≠ (.protocol, .idError)) :
    ¬ RefusesStream sink M d log a pieces := by
  intro hrefused
  rw [RefusesStream, hrun] at hrefused
  cases hrefused
  exact hreply rfl

lemma startComplete_nil : startComplete a [] = false := by
  unfold startComplete
  split_ifs <;> rfl

/-- Frames without bytes after some other frame: the last frame is one of them. -/
lemma getLast?_of_flatten_nil (before : List (List UInt8)) (p : List UInt8)
    {after : List (List UInt8)} (hne : after ≠ []) (h : after.flatten = []) :
    (before ++ p :: after).getLast? = some [] := by
  have hlast : after.getLast hne = [] :=
    List.flatten_eq_nil_iff.mp h _ (List.getLast_mem hne)
  rw [List.getLast?_append, List.getLast?_cons, List.getLast?_eq_some_getLast hne, hlast]
  rfl

/-- The prefix is cut when something came before the frame that completes it. -/
lemma cutsPrefix_iff {before : List (List UInt8)} (after : List (List UInt8)) {p : List UInt8}
    (hbefore : startComplete a before.flatten = false)
    (hcomplete : startComplete a (before.flatten ++ p) = true) :
    CutsPrefix a (before ++ p :: after) ↔ before.flatten ≠ [] := by
  constructor
  · rintro ⟨first, others, heq, hne, hincomplete⟩
    rcases List.append_eq_append_iff.mp heq with ⟨more, rfl, hmore⟩ | ⟨more, rfl, -⟩
    · cases more with
      | nil => simpa using hne
      | cons q more =>
        -- These frames would contain the one that completes the prefix.
        rw [List.cons_append] at hmore
        cases hmore
        rw [List.flatten_append, List.flatten_cons, ← List.append_assoc] at hincomplete
        rw [startComplete_left hincomplete] at hcomplete
        cases hcomplete
    · intro hnil
      rw [List.flatten_append] at hnil
      exact hne (List.append_eq_nil_iff.mp hnil).1
  · intro hne
    exact ⟨before, p :: after, rfl, hne, hbefore⟩

/-- A bidirectional stream whose first frame is empty is neither handed to the session nor
refused for the session it names. -/
lemma empty_first_fails (sink : Sink) (M : ℕ) (log : List SinkEvent) (payload : List UInt8)
    (hd : d.Unseen a) (hbidi : quicStreamIdIsBidirectional a = true)
    (hempty : pieces.head? = some []) :
    ¬ DeliversStream sink M d log a pieces payload ∧ ¬ RefusesStream sink M d log a pieces := by
  obtain ⟨ps, rfl⟩ : ∃ ps, pieces = [] :: ps := by
    cases pieces with
    | nil => cases hempty
    | cons q ps =>
      cases hempty
      exact ⟨ps, rfl⟩
  obtain ⟨f, fs, hframes, hf, hids⟩ : ∃ f fs, streamFrames a true 0 ([] :: ps) = f :: fs ∧
      f.data = [] ∧ ∀ g ∈ f :: fs, g.id = a := by
    have hids : ∀ (offset : ℕ) (l : List (List UInt8)),
        ∀ g ∈ streamFrames a true offset l, g.id = a := by
      intro offset l
      induction l generalizing offset with
      | nil => simp [streamFrames]
      | cons q qs ih =>
        cases qs with
        | nil => simp [streamFrames]
        | cons r rs =>
          intro g hg
          rcases List.mem_cons.mp hg with rfl | hg
          · rfl
          · exact ih _ g hg
    cases ps with
    | nil => exact ⟨_, _, rfl, rfl, hids 0 [[]]⟩
    | cons q qs => exact ⟨_, _, rfl, rfl, hids 0 ([] :: q :: qs)⟩
  have hnothing := routeFrames_empty_first sink M hd hbidi hf hids log
  rw [← hframes] at hnothing
  constructor
  · rintro ⟨d', events, hrun, -, hends⟩
    obtain ⟨-, events', hlog, hnone⟩ := hnothing _ _ hrun
    rw [List.append_cancel_left hlog, hnone] at hends
    cases hends
  · intro hrun
    exact (hnothing _ _ hrun).1 rfl

/-- A refusal of the frame that completes the prefix is the end of the run. -/
lemma refused_after {Q : Feed → Prop} {before : List (List UInt8)} (after : List (List UInt8))
    {p : List UInt8}
    (hbefore : routeFrames sink M (streamFrames a false 0 before) ⟨d, log⟩ =
      some (⟨d.holding a before.flatten, log⟩, Reply.good)) (hrefused : reply.1 ≠ .ok)
    (hroute : ∀ fin, ∃ s, Q s ∧ routeStreamFrame sink M
      ⟨a, before.flatten.length, true, fin, true, p⟩ ⟨d.holding a before.flatten, log⟩ =
        some (s, reply)) :
    ∃ s, Q s ∧ routeFrames sink M (streamFrames a true 0 (before ++ p :: after)) ⟨d, log⟩ =
      some (s, reply) := by
  rw [streamFrames_append before (List.cons_ne_nil p after), Nat.zero_add,
    routeFrames_append_ok hbefore rfl]
  cases after with
  | nil =>
    obtain ⟨s, hs, hstop⟩ := hroute true
    refine ⟨s, hs, ?_⟩
    rw [streamFrames, routeFrames, hstop]
    exact if_pos hrefused
  | cons q qs =>
    obtain ⟨s, hs, hstop⟩ := hroute false
    refine ⟨s, hs, ?_⟩
    rw [streamFrames_cons (List.cons_ne_nil q qs), routeFrames, hstop]
    exact if_pos hrefused

/-- The run from the frame that completes the prefix on. -/
lemma delivers_after (hsink : sink.TakesStreamData) {before after : List (List UInt8)}
    {p rest : List UInt8} {offset : ℕ}
    (hbefore : routeFrames sink M (streamFrames a false 0 before) ⟨d, log⟩ =
      some (⟨d.holding a before.flatten, log⟩, Reply.good))
    (hoffset : offset = before.flatten.length)
    (hcompletes : ∀ fin, ∃ s, routeStreamFrame sink M ⟨a, offset, true, fin, true, p⟩
      ⟨d.holding a before.flatten, log⟩ = some (s, Reply.good) ∧
        CompletesStream a log rest fin s) :
    DeliversStream sink M d log a (before ++ p :: after) (rest ++ after.flatten) ↔
      (after = [] → rest ≠ []) := by
  subst hoffset
  have hrun : ∃ d' events, routeFrames sink M (streamFrames a true 0 (before ++ p :: after))
      ⟨d, log⟩ = some (⟨d', log ++ events⟩, Reply.good) ∧
        deliveredBytes a events = rest ++ after.flatten ∧
        deliveredEnds a events = if after = [] → rest ≠ [] then 1 else 0 := by
    rw [streamFrames_append before (List.cons_ne_nil p after), Nat.zero_add,
      routeFrames_append_ok hbefore rfl]
    cases after with
    | nil =>
      obtain ⟨⟨d', log'⟩, hroute, hdata, events, hlog, hbytes, hends⟩ := hcompletes true
      obtain rfl : log' = log ++ events := hlog
      refine ⟨d', events, ?_, ?_, ?_⟩
      · rw [streamFrames, routeFrames, hroute]
        rfl
      · rw [hbytes, List.flatten_nil, List.append_nil]
      · rw [hends]
        simp
    | cons q qs =>
      obtain ⟨⟨d', log'⟩, hroute, hdata, events, hlog, hbytes, hends⟩ := hcompletes false
      obtain rfl : log' = log ++ events := hlog
      obtain ⟨events', hrest, hbytes', hends'⟩ := routeFrames_dataStream M hsink hdata (q :: qs)
        (before.flatten.length + p.length) (log ++ events)
      refine ⟨d', events ++ events', ?_, ?_, ?_⟩
      · rw [streamFrames_cons (List.cons_ne_nil q qs), routeFrames, hroute]
        dsimp only
        rw [if_neg (by simp [Reply.good]), hrest, List.append_assoc]
      · rw [deliveredBytes_append, hbytes, hbytes']
      · rw [deliveredEnds_append, hends, hends']
        simp
  obtain ⟨d', events, hroute, hbytes, hends⟩ := hrun
  constructor
  · rintro ⟨d'', events', hroute', -, hends'⟩
    rw [hroute] at hroute'
    obtain ⟨-, hlog⟩ : d' = d'' ∧ log ++ events = log ++ events' := by simpa using hroute'
    rw [← List.append_cancel_left hlog, hends] at hends'
    by_contra hnot
    rw [if_neg hnot] at hends'
    cases hends'
  · intro h
    rw [if_pos h] at hends
    exact ⟨d', events, hroute, hbytes, hends⟩

end Whole

/-- **A WebTransport stream may be cut anywhere, when.** For a stream of the session the
payload and one end reach the session whatever the cut, and a stream that names another
session is refused with `H3_ID_ERROR` and leaves no trace, exactly under these conditions:
bytes of a prefix that is cut find a place in the table; a stream of another session is
unidirectional; for a stream of the session the tables have room, a bidirectional stream does
not begin with an empty frame, and the end of a stream without payload does not come with
the frame that completes the prefix. -/
theorem prefixCut_harmless_iff (sink : Sink) (hsink : sink.TakesStreamData) (M : ℕ) (d : Driver)
    (log : List SinkEvent) (a : ℕ) (hd : d.Unseen a) (pieces : List (List UInt8))
    (sessionId : ℕ) (payload : List UInt8)
    (hstart : readSessionPrefix (webtransportType a) pieces.flatten =
      some (sessionId, payload)) :
    (if foreignSession d sessionId then RefusesStream sink M d log a pieces
      else DeliversStream sink M d log a pieces payload) ↔
      (CutsPrefix a pieces → d.pending.length < http3DriverPendingMax) ∧
        if foreignSession d sessionId then quicStreamIdIsBidirectional a = false
        else DeliversWhen d a pieces payload := by
  by_cases hempty : quicStreamIdIsBidirectional a = true ∧ pieces.head? = some []
  · obtain ⟨hbidi, hhead⟩ := hempty
    obtain ⟨hdelivers, hrefuses⟩ := empty_first_fails sink M log payload hd hbidi
      hhead
    split_ifs
    · exact ⟨fun h => absurd h hrefuses, fun h => absurd (hbidi.symm.trans h.2) (by simp)⟩
    · exact ⟨fun h => absurd h hdelivers, fun h => absurd hhead (h.2.notEmptyFirst hbidi)⟩
  · have hfirst : quicStreamIdIsBidirectional a = true → pieces.head? ≠ some [] :=
      fun hbidi hhead => hempty ⟨hbidi, hhead⟩
    obtain ⟨before, p, after, rfl, hbefore, hcomplete⟩ :=
      exists_completing_piece (startComplete_nil (a := a))
        (by rw [List.nil_append]; exact startComplete_of_session hstart)
    rw [List.nil_append] at hbefore hcomplete
    have hcut := cutsPrefix_iff after hbefore hcomplete
    have hheld := routeFrames_held sink M log [] hd before (by simpa using hbefore) (by
      intro hbidi _ hhead
      apply hfirst hbidi
      cases before with
      | nil => cases hhead
      | cons q qs => exact hhead)
    rw [holding_nil, List.nil_append, List.length_nil] at hheld
    by_cases hroom : before.flatten = [] ∨ d.pending.length < http3DriverPendingMax
    · rw [if_pos (.inr hroom)] at hheld
      have hplace : CutsPrefix a (before ++ p :: after) →
          d.pending.length < http3DriverPendingMax := fun h =>
        hroom.resolve_left (hcut.mp h)
      have hflat : (before ++ p :: after).flatten = before.flatten ++ p ++ after.flatten := by
        rw [List.flatten_append, List.flatten_cons, List.append_assoc]
      rw [hflat] at hstart
      obtain ⟨rest, hread, rfl⟩ := readSessionPrefix_left hcomplete hstart
      have hroute := fun fin => routeStreamFrame_session M log
        (f := ⟨a, before.flatten.length, true, fin, true, p⟩) hd rfl rfl hbefore hread hsink
      by_cases hforeign : foreignSession d sessionId = true
      · rw [if_pos hforeign, if_pos hforeign]
        have hstops : ∀ fin, ∃ s, s = ⟨d, log⟩ ∧ routeStreamFrame sink M
            ⟨a, before.flatten.length, true, fin, true, p⟩ ⟨d.holding a before.flatten, log⟩ =
              some (s, .protocol,
                if quicStreamIdIsBidirectional a then .noError else .idError) := by
          intro fin
          obtain ⟨s, reply, hrun, hother, -, -⟩ := hroute fin
          obtain ⟨hs, rfl⟩ := hother hforeign
          exact ⟨s, hs, hrun⟩
        obtain ⟨s, rfl, hrun⟩ := refused_after after hheld (by simp) hstops
        cases hbidi : quicStreamIdIsBidirectional a with
        | true =>
          rw [hbidi, if_pos rfl] at hrun
          exact ⟨fun h => absurd h (not_refuses hrun (by simp)), fun h => nomatch h.2⟩
        | false =>
          rw [hbidi, if_neg (by simp)] at hrun
          exact ⟨fun _ => ⟨hplace, rfl⟩, fun _ => hrun⟩
      · rw [if_neg hforeign, if_neg hforeign]
        have hours : foreignSession d sessionId = false := by simpa using hforeign
        by_cases htables : d.RoomFor a
        · have hcompletes : ∀ fin, ∃ s, routeStreamFrame sink M
              ⟨a, before.flatten.length, true, fin, true, p⟩ ⟨d.holding a before.flatten, log⟩ =
                some (s, Reply.good) ∧ CompletesStream a log rest fin s := by
            intro fin
            obtain ⟨s, reply, hrun, -, -, hgood⟩ := hroute fin
            obtain ⟨rfl, hs⟩ := hgood hours htables
            exact ⟨s, hrun, hs⟩
          rw [delivers_after hsink hheld rfl hcompletes]
          have hp : p ≠ [] := by
            rintro rfl
            rw [List.append_nil, hbefore] at hcomplete
            cases hcomplete
          constructor
          · intro hend
            refine ⟨hplace, htables, hfirst, ?_⟩
            intro hnil
            obtain ⟨hrest, hafter⟩ := List.append_eq_nil_iff.mp hnil
            by_cases hlast : after = []
            · exact absurd hrest (hend hlast)
            · exact getLast?_of_flatten_nil before p hlast hafter
          · rintro ⟨-, hwhen⟩ rfl hrest
            have hlast := hwhen.endAlone (by simp [hrest])
            rw [List.getLast?_concat] at hlast
            exact hp (Option.some.inj hlast)
        · have hstops : ∀ fin, ∃ s, True ∧ routeStreamFrame sink M
              ⟨a, before.flatten.length, true, fin, true, p⟩ ⟨d.holding a before.flatten, log⟩ =
                some (s, .limit, .noError) := by
            intro fin
            obtain ⟨s, reply, hrun, -, hfull, -⟩ := hroute fin
            rw [hfull hours htables] at hrun
            exact ⟨s, trivial, hrun⟩
          obtain ⟨s, -, hrun⟩ := refused_after after hheld (by simp) hstops
          exact ⟨fun h => absurd h (not_delivers hrun (by simp [Reply.good])),
            fun h => absurd h.2.room htables⟩
    · rw [if_neg (by simpa using hroom)] at hheld
      have hrun : routeFrames sink M (streamFrames a true 0 (before ++ p :: after)) ⟨d, log⟩ =
          some (⟨d, log⟩, .limit, .noError) := by
        rw [streamFrames_append before (List.cons_ne_nil p after)]
        exact routeFrames_append_refused hheld (by simp)
      have hnoplace : ¬ (CutsPrefix a (before ++ p :: after) →
          d.pending.length < http3DriverPendingMax) := by
        rw [hcut]
        intro h
        rw [not_or] at hroom
        exact hroom.2 (h hroom.1)
      split_ifs
      · exact ⟨fun h => absurd h (not_refuses hrun (by simp)), fun h => absurd h.1 hnoplace⟩
      · exact ⟨fun h => absurd h (not_delivers hrun (by simp [Reply.good])),
          fun h => absurd h.1 hnoplace⟩

/-- A stream of session 0 with the bytes `07`, cut inside both integers of its prefix, with its
end on an empty frame. -/
theorem cut_prefix_delivered :
    DeliversStream Sink.accepting 100
      (http3DriverSetSessionId (http3DriverInit (http3EndpointInit .server)) 0) [] 2
      [[0x40], [0x54, 0x40], [0x00, 0x07], []] [0x07] := by
  have h := (prefixCut_harmless_iff Sink.accepting ⟨_, rfl, fun _ => rfl⟩ 100
    (http3DriverSetSessionId (http3DriverInit (http3EndpointInit .server)) 0) [] 2
    ⟨by decide, (http3DriverInit_noTrace .server 2).setSessionId 0⟩ [[0x40], [0x54, 0x40], [0x00, 0x07], []] 0
    [0x07] rfl).mpr
  exact h ⟨fun _ => by decide, ⟨fun _ => by decide, by decide⟩, by decide, by decide⟩

/-- The end of a stream is lost when it comes with the last byte of the prefix. -/
theorem end_lost_with_prefix :
    ¬ ∀ (sink : Sink), sink.TakesStreamData → ∀ (M : ℕ) (d : Driver) (log : List SinkEvent)
      (a : ℕ), d.Unseen a → ∀ (pieces : List (List UInt8)) (sessionId : ℕ)
      (payload : List UInt8),
        readSessionPrefix (webtransportType a) pieces.flatten = some (sessionId, payload) →
        if foreignSession d sessionId then RefusesStream sink M d log a pieces
        else DeliversStream sink M d log a pieces payload := by
  intro h
  have hrun := h Sink.accepting ⟨_, rfl, fun _ => rfl⟩ 100
    (http3DriverSetSessionId (http3DriverInit (http3EndpointInit .server)) 0) [] 2
    ⟨by decide, (http3DriverInit_noTrace .server 2).setSessionId 0⟩ [[0x40, 0x54, 0x00]] 0 [] rfl
  obtain ⟨d', events, hroute, -, hends⟩ := hrun
  have hlog : (routeFrames Sink.accepting 100 (streamFrames 2 true 0 [[0x40, 0x54, 0x00]])
      ⟨http3DriverSetSessionId (http3DriverInit (http3EndpointInit .server)) 0, []⟩).map
        (fun r => r.1.log) = some [] := by decide
  rw [hroute] at hlog
  obtain rfl : events = [] := by simpa using hlog
  cases hends

end WebTransport
