import WebTransport.Http3.FrameEffect

/-!
# Streams whose classification is refused

What a refused call leaves behind when a peer's unidirectional stream is classified
(`http3/endpoint.c`, `http3/driver_stream.c`). The flags that allow one stream of a type are set
before the bound of the endpoint's table is looked at, and the stream is recorded in it before the
bound of the driver's.
-/

namespace WebTransport

/-! ## The calls -/

/-- A call that classifies a stream, of the endpoint or of the driver. -/
inductive ClassifyCall
  | endpoint (e : Endpoint) (streamId : ℕ) (bytes : List UInt8)
  | driver (d : Driver) (streamId offset : ℕ) (data : List UInt8)

/-- A call that is refused leaves the endpoint, and the data streams of the driver. -/
def RefusalChangesNothing : ClassifyCall → Prop
  | .endpoint e streamId bytes =>
    (http3EndpointOnUniStream e streamId bytes).2.1.1 ≠ .ok →
      (http3EndpointOnUniStream e streamId bytes).1 = e
  | .driver d streamId offset data =>
    (http3DriverOnUniStreamData d streamId offset data).reply.1 ≠ .ok →
      (http3DriverOnUniStreamData d streamId offset data).driver.endpoint = d.endpoint ∧
        (http3DriverOnUniStreamData d streamId offset data).driver.dataStreams = d.dataStreams

/-- What a stream of a type sets in the endpoint is set already. -/
def latched (e : Endpoint) (type : ℕ) : Bool :=
  if type = webtransportStreamUni then e.peerWebtransportStreamsSeen
  else if type = http3StreamControl then e.peerControl.opened
  else if type = http3StreamQpackEncoder then e.peerQpackEncoderSeen
  else if type = http3StreamQpackDecoder then e.peerQpackDecoderSeen
  else true

/-- A stream that the endpoint does not know finds room in its table, or would set nothing. -/
def RoomOrLatched (e : Endpoint) (streamId type : ℕ) : Prop :=
  (∀ s ∈ e.streams, s.streamId ≠ streamId) → http3EndpointStreamsMax ≤ e.streams.length →
    latched e type = true

/-- A stream of the driver's session that both tables could record finds room in the driver's. -/
def RoomForData (d : Driver) (streamId type : ℕ) : Prop :=
  (∀ s ∈ d.endpoint.streams, s.streamId ≠ streamId) → type = webtransportStreamUni →
    d.endpoint.streams.length < http3EndpointStreamsMax →
      d.dataStreams.length < http3DriverDataStreamsMax

/-- The prefix of a stream is complete with these bytes, and names no session but the driver's. -/
def PrefixSettles (d : Driver) (streamId offset : ℕ) (data : List UInt8) (type : ℕ) : Prop :=
  offset = (heldBytes d streamId).length ∧ data ≠ [] ∧ ∃ session rest,
    readUniPrefix (heldBytes d streamId ++ data) = some (type, session, rest) ∧
      ∀ sessionId, session = some sessionId → foreignSession d sessionId = false

/-- The stream that a call classifies finds room where it would be recorded, or nothing is set. -/
def FindsRoom : ClassifyCall → Prop
  | .endpoint e streamId bytes =>
    ∀ type rest, quicVarintDecode bytes = .ok (type, rest) → RoomOrLatched e streamId type
  | .driver d streamId offset data =>
    ∀ type, PrefixSettles d streamId offset data type →
      RoomOrLatched d.endpoint streamId type ∧ RoomForData d streamId type

/-! ## The endpoint -/

section Refused

variable {e e' : Endpoint} {x : EndpointStream} {streamId type : ℕ} {bytes rest : List UInt8}

/-- A record that is refused leaves what was set before it. -/
lemma recordStream_unchanged {Already : Prop} (hstreams : e'.streams = e.streams)
    (hset : e' = e ↔ Already) :
    ((recordStream e' x).2.1.1 ≠ .ok → (recordStream e' x).1 = e) ↔
      (http3EndpointStreamsMax ≤ e.streams.length → Already) := by
  unfold recordStream
  rw [hstreams, ← hset]
  by_cases hfull : e.streams.length ≥ http3EndpointStreamsMax
  · rw [if_pos hfull]
    exact ⟨fun h _ => h nofun, fun h _ => h hfull⟩
  · rw [if_neg hfull]
    exact ⟨fun _ hle => absurd hle hfull, fun _ hne => absurd rfl hne⟩

/-- A stream of a type the endpoint has no record of leaves nothing exactly where it finds room. -/
lemma http3EndpointOnUniStream_unchanged_iff (hdecode : quicVarintDecode bytes = .ok (type, rest)) :
    ((http3EndpointOnUniStream e streamId bytes).2.1.1 ≠ .ok →
      (http3EndpointOnUniStream e streamId bytes).1 = e) ↔ RoomOrLatched e streamId type := by
  unfold http3EndpointOnUniStream RoomOrLatched
  by_cases hknown : e.streams.any (fun s => s.streamId = streamId) = true
  · rw [if_pos hknown]
    have hold : ¬∀ s ∈ e.streams, s.streamId ≠ streamId := by simpa using hknown
    exact ⟨fun _ hnew => absurd hnew hold, fun _ _ => rfl⟩
  have hnew : ∀ s ∈ e.streams, s.streamId ≠ streamId := by simpa using hknown
  rw [if_neg hknown, hdecode, forall_prop_of_true hnew]
  unfold latched
  dsimp only
  by_cases huni : type = webtransportStreamUni
  · rw [if_pos huni, if_pos huni]
    refine recordStream_unchanged ?_ ?_
    · rfl
    · cases e
      simp [eq_comm]
  rw [if_neg huni, if_neg huni]
  by_cases hcontrol : type = http3StreamControl
  · rw [if_pos hcontrol, if_pos hcontrol, http3ControlPeerOpened]
    by_cases hopened : e.peerControl.opened = true
    · rw [if_pos hopened]
      exact ⟨fun _ _ => hopened, fun _ _ => rfl⟩
    · rw [if_neg hopened]
      refine recordStream_unchanged ?_ ?_
      · rfl
      · obtain ⟨role, ⟨opened, _⟩, _⟩ := e
        simp [eq_comm]
  rw [if_neg hcontrol, if_neg hcontrol]
  by_cases hencoder : type = http3StreamQpackEncoder
  · rw [if_pos hencoder, if_pos hencoder]
    by_cases hseen : e.peerQpackEncoderSeen = true
    · rw [if_pos hseen]
      exact ⟨fun _ _ => hseen, fun _ _ => rfl⟩
    · rw [if_neg hseen]
      refine recordStream_unchanged ?_ ?_
      · rfl
      · cases e
        simp [eq_comm]
  rw [if_neg hencoder, if_neg hencoder]
  by_cases hdecoder : type = http3StreamQpackDecoder
  · rw [if_pos hdecoder, if_pos hdecoder]
    by_cases hseen : e.peerQpackDecoderSeen = true
    · rw [if_pos hseen]
      exact ⟨fun _ _ => hseen, fun _ _ => rfl⟩
    · rw [if_neg hseen]
      refine recordStream_unchanged ?_ ?_
      · rfl
      · cases e
        simp [eq_comm]
  rw [if_neg hdecoder, if_neg hdecoder]
  refine ⟨fun _ _ => rfl, fun _ _ => ?_⟩
  split_ifs
  · rfl
  · rfl
  · rfl

/-- A stream of a session is recorded where it is new and finds room. -/
lemma http3EndpointOnUniStream_session (hdecode : quicVarintDecode bytes =
    .ok (webtransportStreamUni, rest)) :
    ((http3EndpointOnUniStream e streamId bytes).2.1.1 = .ok ∧
        (∀ s ∈ e.streams, s.streamId ≠ streamId) ∧ e.streams.length < http3EndpointStreamsMax ∧
        (http3EndpointOnUniStream e streamId bytes).1 ≠ e) ∨
      (http3EndpointOnUniStream e streamId bytes).2.1.1 ≠ .ok ∧
        ((∀ s ∈ e.streams, s.streamId ≠ streamId) →
          ¬e.streams.length < http3EndpointStreamsMax) := by
  unfold http3EndpointOnUniStream
  by_cases hknown : e.streams.any (fun s => s.streamId = streamId) = true
  · rw [if_pos hknown]
    have hold : ¬∀ s ∈ e.streams, s.streamId ≠ streamId := by simpa using hknown
    exact .inr ⟨fun h => (by cases h), fun hnew => absurd hnew hold⟩
  have hnew : ∀ s ∈ e.streams, s.streamId ≠ streamId := by simpa using hknown
  rw [if_neg hknown, hdecode]
  dsimp only
  rw [if_pos rfl, recordStream]
  dsimp only
  by_cases hfull : e.streams.length ≥ http3EndpointStreamsMax
  · rw [if_pos hfull]
    exact .inr ⟨fun h => (by cases h), fun _ => not_lt.mpr hfull⟩
  · rw [if_neg hfull]
    refine .inl ⟨rfl, hnew, not_le.mp hfull, fun hsame => ?_⟩
    have hlength := congrArg (fun e => e.streams.length) hsame
    dsimp only at hlength
    rw [List.length_append, List.length_singleton] at hlength
    exact Nat.succ_ne_self _ hlength

/-! ## The driver -/

variable {d : Driver} {payload : List UInt8} {session : Option ℕ}

/-- What a refused classification leaves of the driver's tables. -/
lemma classifyUniStream_unchanged_iff :
    ((classifyUniStream d streamId bytes payload).reply.1 ≠ .ok →
      (classifyUniStream d streamId bytes payload).driver.endpoint = d.endpoint ∧
        (classifyUniStream d streamId bytes payload).driver.dataStreams = d.dataStreams) ↔
      ((http3EndpointOnUniStream d.endpoint streamId bytes).2.1.1 ≠ .ok →
        (http3EndpointOnUniStream d.endpoint streamId bytes).1 = d.endpoint) := by
  unfold classifyUniStream
  dsimp only
  by_cases hstatus : (http3EndpointOnUniStream d.endpoint streamId bytes).2.1.1 ≠ .ok
  · rw [if_pos hstatus]
    exact ⟨fun h hne => (h hne).1, fun h hne => ⟨h hne, rfl⟩⟩
  · rw [if_neg hstatus]
    exact ⟨fun _ hne => absurd hne hstatus, fun _ hne => absurd rfl hne⟩

/-- A prefix that is settled leaves nothing exactly where the stream finds room in both tables. -/
lemma settleUniPrefix_unchanged_iff (hread : readUniPrefix bytes = some (type, session, rest)) :
    ((settleUniPrefix d streamId bytes payload).reply.1 ≠ .ok →
      (settleUniPrefix d streamId bytes payload).driver.endpoint = d.endpoint ∧
        (settleUniPrefix d streamId bytes payload).driver.dataStreams = d.dataStreams) ↔
      ((∀ sessionId, session = some sessionId → foreignSession d sessionId = false) →
        RoomOrLatched d.endpoint streamId type ∧ RoomForData d streamId type) := by
  unfold readUniPrefix at hread
  unfold settleUniPrefix
  cases hdecode : quicVarintDecode bytes with
  | error err =>
    rw [hdecode] at hread
    cases hread
  | ok r =>
    obtain ⟨t, r⟩ := r
    rw [hdecode] at hread
    dsimp only at hread ⊢
    by_cases huni : t = webtransportStreamUni
    case neg =>
      rw [if_pos huni] at hread
      cases hread
      rw [if_neg huni, classifyUniStream_unchanged_iff,
        http3EndpointOnUniStream_unchanged_iff hdecode]
      exact ⟨fun h _ => ⟨h, fun _ heq => absurd heq huni⟩, fun h => (h fun _ heq => by cases heq).1⟩
    rw [if_neg (not_not.mpr huni)] at hread
    rw [if_pos huni]
    cases hsession : quicVarintDecode r with
    | error err =>
      rw [hsession] at hread
      cases hread
    | ok q =>
      obtain ⟨i, q⟩ := q
      rw [hsession] at hread
      cases hread
      dsimp only
      by_cases hforeign : foreignSession d i = true
      · rw [if_pos hforeign]
        refine ⟨fun _ hown => ?_, fun _ _ => ⟨rfl, rfl⟩⟩
        rw [hown i rfl] at hforeign
        cases hforeign
      rw [if_neg hforeign]
      have hown : ∀ sessionId, some i = some sessionId → foreignSession d sessionId = false := by
        rintro _ ⟨⟩
        exact Bool.eq_false_of_not_eq_true hforeign
      rw [forall_prop_of_true hown]
      have hroom : _ ↔ RoomOrLatched d.endpoint streamId type :=
        http3EndpointOnUniStream_unchanged_iff hdecode
      rcases http3EndpointOnUniStream_session (huni ▸ hdecode) with
        ⟨hok, hnew, hlt, hchanged⟩ | ⟨hne, hfull⟩
      · -- The endpoint has recorded the stream, and the driver may have no room for it.
        have hclassify : classifyUniStream d streamId bytes payload =
            ⟨d.setEndpoint (http3EndpointOnUniStream d.endpoint streamId bytes).1, Reply.good,
              (http3EndpointOnUniStream d.endpoint streamId bytes).2.2, payload⟩ := by
          rw [classifyUniStream, if_neg (not_not.mpr hok)]
        have hgood : ¬Reply.good.1 ≠ .ok := not_not.mpr rfl
        rw [hclassify]
        dsimp only
        rw [if_neg hgood, rememberDataStream]
        by_cases hdata : (d.setEndpoint (http3EndpointOnUniStream d.endpoint streamId
            bytes).1).dataStreams.length ≥ http3DriverDataStreamsMax
        · rw [if_pos hdata, if_pos fun h => by cases h]
          refine ⟨fun h => absurd (h fun heq => by cases heq).1 hchanged, fun hrooms => ?_⟩
          exact absurd (hrooms.2 hnew huni hlt) (not_lt.mpr hdata)
        · rw [if_neg hdata, if_neg (not_not.mpr rfl)]
          refine ⟨fun _ => ⟨hroom.mp fun hne => absurd hok hne, fun _ _ _ => not_le.mp hdata⟩,
            fun _ hne => absurd rfl hne⟩
      · have hrefused : (classifyUniStream d streamId bytes payload).reply.1 ≠ .ok := by
          rw [classifyUniStream, if_pos hne]
          exact hne
        rw [if_pos hrefused, classifyUniStream_unchanged_iff, hroom]
        exact (and_iff_left fun hnew _ hlt => absurd hlt (hfull hnew)).symm

/-- The driver leaves its tables exactly where a prefix that settles finds room. -/
lemma http3DriverOnUniStreamData_unchanged_iff {offset : ℕ} {data : List UInt8} :
    RefusalChangesNothing (.driver d streamId offset data) ↔
      FindsRoom (.driver d streamId offset data) := by
  unfold RefusalChangesNothing FindsRoom PrefixSettles http3DriverOnUniStreamData
  dsimp only
  by_cases hoffset : offset ≠ (heldBytes d streamId).length
  · rw [if_pos hoffset]
    exact ⟨fun _ _ hsettles => absurd hsettles.1 hoffset, fun _ _ => ⟨rfl, rfl⟩⟩
  rw [if_neg hoffset]
  by_cases hempty : data = []
  · rw [if_pos hempty]
    exact ⟨fun _ _ hsettles => absurd hempty hsettles.2.1, fun _ hne => absurd rfl hne⟩
  rw [if_neg hempty]
  obtain ⟨happend, hall⟩ :=
    assemblePrefix_spec (heldBytes d streamId) (Nat.lt_succ_self data.length)
  by_cases hshort : (assemblePrefix (data.length + 1) (heldBytes d streamId) data).1.length <
      uniPrefixLength (assemblePrefix (data.length + 1) (heldBytes d streamId) data).1
  · -- The prefix is not complete: nothing but its bytes is kept.
    have hnone : readUniPrefix (heldBytes d streamId ++ data) = none := by
      rw [← happend, hall hshort, List.append_nil]
      cases hread : readUniPrefix
          (assemblePrefix (data.length + 1) (heldBytes d streamId) data).1 with
      | none => rfl
      | some r =>
        obtain ⟨t, i, r⟩ := r
        have hlength := length_of_readUniPrefix_some hread
        omega
    rw [if_pos hshort]
    refine ⟨fun _ type hsettles => ?_, fun _ hrefused => ?_⟩
    · obtain ⟨-, -, session, rest, hread, -⟩ := hsettles
      rw [hnone] at hread
      cases hread
    · rw [holdPending_refused hrefused]
      exact ⟨rfl, rfl⟩
  · rw [if_neg hshort]
    cases hread : readUniPrefix
        (assemblePrefix (data.length + 1) (heldBytes d streamId) data).1 with
    | none => exact absurd (length_lt_of_readUniPrefix_none hread) hshort
    | some r =>
      obtain ⟨t, session, r⟩ := r
      have hwhole := readUniPrefix_append hread
        (assemblePrefix (data.length + 1) (heldBytes d streamId) data).2
      rw [happend] at hwhole
      refine (settleUniPrefix_unchanged_iff hread).trans ⟨fun h type hsettles => ?_, fun h hown => ?_⟩
      · obtain ⟨-, -, session', rest, hread', hown⟩ := hsettles
        rw [hwhole] at hread'
        cases hread'
        exact h hown
      · exact h t ⟨not_not.mp hoffset, hempty, session, _, hwhole, hown⟩

/-- **A refused classification.** It leaves the endpoint and the driver's data streams exactly where
the stream finds room in the tables that would record it, or where its type has set before what it
sets. -/
theorem refusalChangesNothing_iff (call : ClassifyCall) :
    RefusalChangesNothing call ↔ FindsRoom call := by
  cases call with
  | driver d streamId offset data => exact http3DriverOnUniStreamData_unchanged_iff
  | endpoint e streamId bytes =>
    unfold RefusalChangesNothing FindsRoom
    dsimp only
    cases hdecode : quicVarintDecode bytes with
    | error err =>
      refine ⟨fun _ => nofun, fun _ _ => ?_⟩
      unfold http3EndpointOnUniStream
      rw [hdecode]
      dsimp only
      split_ifs
      · rfl
      · rfl
    | ok r =>
      obtain ⟨type, rest⟩ := r
      refine (http3EndpointOnUniStream_unchanged_iff hdecode).trans ⟨?_, fun h => h type rest rfl⟩
      rintro hroom _ _ ⟨⟩
      exact hroom

end Refused

/-! ### A control stream that finds no room -/

/-- An endpoint whose table holds thirty-two streams of a session. -/
def fullEndpoint : Endpoint :=
  { http3EndpointInit .server with
    peerWebtransportStreamsSeen := true
    streams := (List.range 32).map fun k => ⟨4 * k + 2, .webtransport, webtransportStreamUni⟩ }

/-- The control stream is refused for want of room, and no other will be taken for it. -/
theorem fullEndpoint_latches : ¬RefusalChangesNothing (.endpoint fullEndpoint 130 [0x00]) := by
  intro h
  have hrefused : (http3EndpointOnUniStream fullEndpoint 130 [0x00]).2.1.1 ≠ .ok := by decide
  have hopened := congrArg (fun e => e.peerControl.opened) (h hrefused)
  revert hopened
  decide

end WebTransport
