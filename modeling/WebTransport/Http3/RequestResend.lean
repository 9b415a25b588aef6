import WebTransport.Http3.FrameCodec
import WebTransport.Quic.FrameRoundTrip

/-!
# The request that is sent again

What `wt_http3_driver_resend_request` puts on the wire after a request was sent: the transport
writes at the offset where the stream is by then, so the bytes go out behind those that went out
before, never in their place.
-/

namespace WebTransport

open Memory

/-- The HEADERS frame that a message is sent in. -/
def messageFrame (message : Message) (peerMaxEntries : ℕ) : List UInt8 :=
  (http3EndpointWriteHeaders message peerMaxEntries (writerInit http3DriverScratch)).1.bytes

/-- A STREAM frame goes out that carries the bytes at the offset, with that end. -/
def PutsAgain (streamId offset : ℕ) (bytes : List UInt8) (fin : Bool) (c c' : Connection) : Prop :=
  ∃ f ∈ newStreamFrames c c', f.id = streamId ∧ f.offset = offset ∧ f.data = bytes ∧ f.fin = fin

/-! ## Where the streams are -/

/-- What the sends of the driver keep of a connection: a stream number that has been in the table
names no stream, or one that has sent at least so much. -/
structure SentBeyond (streamId bound : ℕ) (c : Connection) : Prop where
  repeats : c.RepeatsNoStream
  numbered : ∃ held, Numbered held c ∧ streamId ∈ held
  beyond : ∀ s, quicStreamTableFind c.streams streamId = some s → bound ≤ s.sendOffset

section Offsets

variable {env : Env} {fuel now streamId id bound : ℕ} {data : List UInt8} {fin : Bool}
  {c c' : Connection} {status : Status}

/-- What is recorded of a write moves its stream on, and no other. -/
lemma recordSend_offset {s s' : Stream} {length : ℕ} (hfit : s.sendOffset + length < 2 ^ 64)
    (hfind : quicStreamTableFind c.streams streamId = some s)
    (hfind' : quicStreamTableFind (recordSend streamId length fin c).1.streams id = some s') :
    (id ≠ streamId ∧ quicStreamTableFind c.streams id = some s') ∨
      id = streamId ∧ s.sendOffset ≤ s'.sendOffset ∧
        ((recordSend streamId length fin c).2 = .ok → s'.sendOffset = s.sendOffset + length) := by
  have hid := id_of_find hfind
  unfold recordSend at hfind' ⊢
  rw [hfind] at hfind' ⊢
  dsimp only at hfind' ⊢
  cases hsent : quicStreamOnDataSent s length with
  | error status =>
    rw [hsent] at hfind'
    dsimp only at hfind' ⊢
    by_cases heq : id = streamId
    · subst heq
      cases hfind.symm.trans hfind'
      refine .inr ⟨rfl, le_rfl, ?_⟩
      rintro rfl
      unfold quicStreamOnDataSent at hsent
      split_ifs at hsent
      cases hsent
    · exact .inl ⟨heq, hfind'⟩
  | ok stream =>
    have hstream : stream.id = streamId ∧ stream.sendOffset = s.sendOffset + length := by
      unfold quicStreamOnDataSent at hsent
      split at hsent
      · cases hsent
      · cases hsent
        exact ⟨hid, u64Add_of_lt hfit⟩
    rw [hsent] at hfind'
    dsimp only at hfind' ⊢
    -- The stream that is written back last is where the bytes end.
    have hlast : ∀ (table : StreamTable) (last : Stream),
        (∀ other, other ≠ streamId →
          quicStreamTableFind table other = quicStreamTableFind c.streams other) →
        (∃ before, quicStreamTableFind table streamId = some before) →
        last.id = streamId → last.sendOffset = s.sendOffset + length →
        quicStreamTableFind (table.setStream last) id = some s' →
        (id ≠ streamId ∧ quicStreamTableFind c.streams id = some s') ∨
          id = streamId ∧ s.sendOffset ≤ s'.sendOffset ∧
            s'.sendOffset = s.sendOffset + length := by
      intro table last hothers hbefore hlastId hoffset hput
      by_cases heq : id = streamId
      · subst heq
        obtain ⟨before, hbefore⟩ := hbefore
        cases (quicStreamTableFind_setStream hbefore hlastId).symm.trans hput
        exact .inr ⟨rfl, by omega, hoffset⟩
      · rw [quicStreamTableFind_setStream_ne (by rwa [hlastId]), hothers id heq] at hput
        exact .inl ⟨heq, hput⟩
    have hfirst := hlast c.streams stream (fun _ _ => rfl) ⟨s, hfind⟩ hstream.1 hstream.2
    cases fin with
    | false => exact (hfirst hfind').imp_right fun h => ⟨h.1, h.2.1, fun _ => h.2.2⟩
    | true =>
      simp only [if_true] at hfind' ⊢
      cases hend : quicStreamOnFinSent stream with
      | error status =>
        rw [hend] at hfind'
        exact (hfirst hfind').imp_right fun h => ⟨h.1, h.2.1, fun _ => h.2.2⟩
      | ok ended =>
        have hended : ended.id = streamId ∧ ended.sendOffset = s.sendOffset + length := by
          unfold quicStreamOnFinSent at hend
          split_ifs at hend
          cases hend
          exact hstream
        rw [hend] at hfind'
        have hput := quicStreamTableFind_setStream hfind hstream.1
        refine (hlast (c.streams.setStream stream) ended (fun other hother => ?_) ⟨_, hput⟩ hended.1
          hended.2 hfind').imp_right fun h => ⟨h.1, h.2.1, fun _ => h.2.2⟩
        exact quicStreamTableFind_setStream_ne (by rwa [hstream.1])

/-- A STREAM frame that went out could be encoded. -/
lemma encode_of_sendOneFrame {f : StreamFrame} {d : Descriptor}
    (h : sendOneFrame env fuel .application (.stream f) true (some d) now c = some (c', .ok)) :
    ∃ w, quicFrameEncode (writerInit quicConnectionPayloadMax) (.stream f) = .ok w := by
  cases hencode : quicFrameEncode (writerInit quicConnectionPayloadMax) (.stream f) with
  | ok w => exact ⟨w, rfl⟩
  | error status =>
    unfold sendOneFrame at h
    rw [encode_stream_error hencode] at hencode
    rw [hencode] at h
    split at h
    · cases h
    · cases h

/-- A write moves its stream on, and no other: by all its bytes, if it succeeds. -/
lemma quicSendStream_offset {s' : Stream}
    (h : quicSendStream env fuel streamId data fin now c = some (c', status))
    (hfind' : quicStreamTableFind c'.streams id = some s') :
    ∃ s, quicStreamTableFind c.streams id = some s ∧ s.sendOffset ≤ s'.sendOffset ∧
      (id = streamId → status = .ok → s'.sendOffset = s.sendOffset + data.length) := by
  have hkept : ∀ {c₁ status₁ offset}, quicConnectionSendStream env fuel streamId offset data fin now
      c = some (c₁, status₁) → c₁.streams = c.streams := by
    intro c₁ status₁ offset hcall
    unfold quicConnectionSendStream at hcall
    split_ifs at hcall
    · cases hcall
      rfl
    · cases hcall
      rfl
    · exact (sendOneFrame_quietly (F := fun _ => True) _ _ trivial _ _ _ _ _ _ hcall).streams
  unfold quicSendStream at h
  split at h
  · cases h
    exact ⟨s', hfind', le_rfl, fun _ hok => by cases hok⟩
  rename_i stream hfind
  split at h
  · cases h
  · rename_i c₁ heq
    have hstreams := hkept heq
    have hfit : stream.sendOffset + data.length < 2 ^ 64 := by
      unfold quicConnectionSendStream at heq
      split_ifs at heq
      · cases heq
      · cases heq
      · obtain ⟨w, hw⟩ := encode_of_sendOneFrame heq
        obtain ⟨hoffset, hlength⟩ := encode_stream rfl rfl hw
        unfold quicVarintMax at hoffset hlength
        dsimp only at hoffset hlength
        omega
    have hfind₁ : quicStreamTableFind c₁.streams streamId = some stream := by
      rw [hstreams]
      exact hfind
    have hrecord : recordSend streamId data.length fin c₁ = (c', status) := Option.some.inj h
    have hfind₂ : quicStreamTableFind (recordSend streamId data.length fin c₁).1.streams id =
        some s' := by
      rw [hrecord]
      exact hfind'
    rcases recordSend_offset hfit hfind₁ hfind₂ with ⟨hne, hsame⟩ | ⟨rfl, hle, hexact⟩
    · rw [hstreams] at hsame
      exact ⟨s', hsame, le_rfl, fun heq => absurd heq hne⟩
    · rw [hrecord] at hexact
      exact ⟨stream, hfind, hle, fun _ hok => hexact hok⟩
  · rename_i c₁ status₁ hne heq
    cases h
    rw [hkept heq] at hfind'
    exact ⟨s', hfind', le_rfl, fun _ hok => absurd hok hne⟩

/-- A stream that is opened has a number that has not been in the table. -/
lemma SentBeyond.openStream (env : Env) (h : SentBeyond streamId bound c) (bidirectional : Bool) :
    SentBeyond streamId bound (quicOpenStream bidirectional c).1 := by
  obtain ⟨held, hnumbered, hheld⟩ := h.numbered
  have hwire : Unstreamed env c _ := quicOpenStream_unstreamed bidirectional c
  have hstep : TableStep env c none _ := .openStream bidirectional
  refine ⟨(hwire.wire h.repeats).1, ⟨_, hnumbered.step hstep, Finset.mem_union_left _ hheld⟩, ?_⟩
  intro s' hfind'
  have hkept := quicConnectionOpenStream_sendKept hnumbered.orderly.distinct hnumbered.limits
    bidirectional
  obtain ⟨s, hbefore | hnew, hsame⟩ := hkept.streams streamId s' hfind'
  · rw [hsame.sendOffset]
    exact h.beyond s hbefore
  · have hbelow := hnumbered.ours streamId hheld hnew.own
    rw [hnew.index] at hbelow
    exact absurd hbelow (lt_irrefl _)

lemma SentBeyond.sendStream (h : SentBeyond streamId bound c)
    (hsend : quicSendStream env fuel id data fin now c = some (c', status)) :
    SentBeyond streamId bound c' := by
  obtain ⟨held, hnumbered, hheld⟩ := h.numbered
  obtain ⟨hsame, -⟩ := quicSendStream_sameNumbers hsend
  have hstep : TableStep env c none c' :=
    .other hsame.sameIds hsame.role (by rw [hsame.peerLimits]; exact fun h => h)
  refine ⟨(quicSendStream_wire h.repeats hsend).1,
    ⟨_, hnumbered.step hstep, Finset.mem_union_left _ hheld⟩, ?_⟩
  intro s' hfind'
  obtain ⟨s, hfind, hle, -⟩ := quicSendStream_offset hsend hfind'
  exact (h.beyond s hfind).trans hle

lemma SentBeyond.quiet (h : SentBeyond streamId bound c) (hquiet : Quiet env Frame.NoStream c c') :
    SentBeyond streamId bound c' := by
  obtain ⟨held, hnumbered, hheld⟩ := h.numbered
  have hsame := hquiet.sameNumbers
  have hstep : TableStep env c none c' :=
    .other hsame.sameIds hsame.role (by rw [hsame.peerLimits]; exact fun h => h)
  refine ⟨((Unstreamed.of_quiet hquiet).wire h.repeats).1,
    ⟨_, hnumbered.step hstep, Finset.mem_union_left _ hheld⟩, ?_⟩
  intro s hfind
  rw [hquiet.streams] at hfind
  exact h.beyond s hfind

lemma SentBeyond.sendDatagram (h : SentBeyond streamId bound c)
    (hsend : quicConnectionSendDatagram env fuel data now c = some (c', status)) :
    SentBeyond streamId bound c' := by
  have hframe : (Frame.datagram data).NoStream := fun _ h => by cases h
  have hsame : ∀ {status'}, some (c, status') = some (c', status) →
      SentBeyond streamId bound c' := by
    intro status' heq
    cases heq
    exact h
  unfold quicConnectionSendDatagram at hsend
  split_ifs at hsend
  · exact hsame hsend
  · exact hsame hsend
  · exact hsame hsend
  · exact h.quiet (sendControlFrame_quietly _ _ hframe _ _ _ _ _ hsend)

end Offsets

/-! ## What the sends of the driver leave -/

/-- A step of the driver leaves what was sent. -/
def LeavesSent (streamId bound : ℕ) (f : Sending → Option (Sending × Status)) : Prop :=
  ∀ {s s' status}, f s = some (s', status) → SentBeyond streamId bound s.connection →
    SentBeyond streamId bound s'.connection

section Sends

variable {env : Env} {fuel now streamId bound : ℕ} {s s' s'' : Sending} {status : Status}

lemma LeavesSent.andThen {f g : Sending → Option (Sending × Status)}
    (hf : LeavesSent streamId bound f) (hg : LeavesSent streamId bound g) :
    LeavesSent streamId bound fun s => WebTransport.andThen (f s) g := by
  intro s s' status h hsent
  unfold WebTransport.andThen at h
  dsimp only at h
  split at h
  · rename_i s₁ heq
    exact hg h (hf heq hsent)
  · exact hf h hsent

lemma sendOnStream_leavesSent (id : ℕ) (bytes : List UInt8) (fin : Bool) :
    LeavesSent streamId bound (sendOnStream env fuel now id bytes fin) := by
  intro s s' status h hsent
  obtain ⟨⟨c, status'⟩, hsend, heq⟩ := Option.map_eq_some_iff.mp h
  cases heq
  exact hsent.sendStream hsend

lemma openAndSend_leavesSent (bidirectional : Bool) (bytes : List UInt8) (fin : Bool) :
    LeavesSent streamId bound (openAndSend env fuel now bidirectional bytes fin) := by
  intro s s' status h hsent
  have hopened := hsent.openStream env bidirectional
  unfold openAndSend at h
  split at h
  · rename_i heq
    rw [heq] at hopened
    cases h
    exact hopened
  · rename_i heq
    rw [heq] at hopened
    exact sendOnStream_leavesSent _ _ _ h hopened

lemma startOwnStream_leavesSent (build : SendingDriver → SendingDriver × Writer × Status) :
    LeavesSent streamId bound (startOwnStream env fuel now build) := by
  intro s s' status h hsent
  unfold startOwnStream at h
  split at h
  · rename_i d w heq
    exact openAndSend_leavesSent _ _ _ h hsent
  · cases h
    exact hsent

lemma startOwnStreams_leavesSent (settings : Http3Settings) :
    LeavesSent streamId bound (http3DriverStartOwnStreams env fuel now settings) :=
  LeavesSent.andThen (startOwnStream_leavesSent _)
    (LeavesSent.andThen (startOwnStream_leavesSent _) (startOwnStream_leavesSent _))

lemma openRequest_leavesSent (h : SentBeyond streamId bound s.connection) :
    SentBeyond streamId bound (http3DriverOpenRequest s).1.connection := by
  have hopened := h.openStream steadyEnv true
  unfold http3DriverOpenRequest
  split
  · rename_i heq
    rw [heq] at hopened
    exact hopened
  · rename_i heq
    rw [heq] at hopened
    exact hopened

lemma sendMessage_leavesSent (id : ℕ) (message : Message) (peerMaxEntries : ℕ) (fin : Bool) :
    LeavesSent streamId bound
      (http3DriverSendMessage env fuel now id message peerMaxEntries fin) := by
  intro s s' status h hsent
  unfold http3DriverSendMessage at h
  split at h
  · exact sendOnStream_leavesSent _ _ _ h hsent
  · cases h
    exact hsent

lemma openDataStream_leavesSent (unidirectional : Bool) (data : List UInt8) (fin : Bool) :
    LeavesSent streamId bound (http3DriverOpenDataStream env fuel now unidirectional data fin) := by
  intro s s' status h hsent
  have hsame : ∀ {status'}, some (s, status') = some (s', status) →
      SentBeyond streamId bound s'.connection := by
    intro status' heq
    cases heq
    exact hsent
  have hopened := hsent.openStream env (!unidirectional)
  unfold http3DriverOpenDataStream at h
  split at h
  · exact hsame h
  split at h
  · exact hsame h
  split at h
  · exact hsame h
  split at h
  · exact hsame h
  split at h
  · dsimp only at h
    split at h
    · exact hsame h
    split at h
    · rename_i heq
      rw [heq] at hopened
      cases h
      exact hopened
    · rename_i heq
      rw [heq] at hopened
      split at h
      · cases h
        exact hopened
      · refine LeavesSent.andThen (sendOnStream_leavesSent _ _ _) ?_ h hopened
        intro s₁ s₂ status' heq hsent₁
        cases heq
        exact hsent₁
  · exact hsame h

lemma openSessionStream_leavesSent {result : Except Status ℕ} (settings : Http3Settings)
    (h : http3DriverOpenSessionStream env fuel now settings s = some (s', result))
    (hsent : SentBeyond streamId bound s.connection) : SentBeyond streamId bound s'.connection := by
  unfold http3DriverOpenSessionStream at h
  split at h
  · cases h
  · rename_i s₁ heq
    have hopened := openRequest_leavesSent (startOwnStreams_leavesSent _ heq hsent)
    split at h
    · rename_i hrequest
      rw [hrequest] at hopened
      cases h
      exact hopened
    · rename_i hrequest
      rw [hrequest] at hopened
      cases h
      exact hopened
  · rename_i heq
    cases h
    exact startOwnStreams_leavesSent _ heq hsent

lemma startSession_leavesSent (settings : Http3Settings) (authority path : List UInt8)
    (peerMaxEntries : ℕ) : LeavesSent streamId bound
      (http3DriverStartSession env fuel now settings authority path peerMaxEntries) := by
  intro s s' status h hsent
  unfold http3DriverStartSession at h
  split at h
  · cases h
  · rename_i heq
    cases h
    exact openSessionStream_leavesSent _ heq hsent
  · rename_i heq
    exact sendMessage_leavesSent _ _ _ _ h (openSessionStream_leavesSent _ heq hsent)

lemma sendDatagram_leavesSent (data : List UInt8) :
    LeavesSent streamId bound (http3DriverSendDatagram env fuel data) := by
  intro s s' status h hsent
  unfold http3DriverSendDatagram at h
  split at h
  · cases h
    exact hsent
  · obtain ⟨⟨c, status'⟩, hsend, heq⟩ := Option.map_eq_some_iff.mp h
    cases heq
    exact hsent.sendDatagram hsend

lemma resendRequest_leavesSent :
    LeavesSent streamId bound (http3DriverResendRequest env fuel now) := by
  intro s s' status h hsent
  unfold http3DriverResendRequest at h
  split at h
  · cases h
    exact hsent
  · exact sendOnStream_leavesSent _ _ _ h hsent

lemma driverSend_leavesSent {call : DriverSend} (h : driverSend env fuel now s call = some s')
    (hsent : SentBeyond streamId bound s.connection) : SentBeyond streamId bound s'.connection := by
  have hmap : ∀ {f : Sending → Option (Sending × Status)}, LeavesSent streamId bound f →
      (f s).map Prod.fst = some s' → SentBeyond streamId bound s'.connection := by
    intro f hf heq
    obtain ⟨⟨s₁, status⟩, hf₁, rfl⟩ := Option.map_eq_some_iff.mp heq
    exact hf hf₁ hsent
  cases call with
  | startOwnStreams settings => exact hmap (startOwnStreams_leavesSent settings) h
  | openRequest =>
    cases h
    exact openRequest_leavesSent hsent
  | sendMessage id message peerMaxEntries fin => exact hmap (sendMessage_leavesSent _ _ _ _) h
  | openDataStream unidirectional data fin => exact hmap (openDataStream_leavesSent _ _ _) h
  | openSessionStream settings =>
    obtain ⟨⟨s₁, result⟩, hopen, rfl⟩ := Option.map_eq_some_iff.mp h
    exact openSessionStream_leavesSent _ hopen hsent
  | sendSessionRequest id authority path peerMaxEntries =>
    obtain ⟨⟨s₁, status⟩, hrequest, rfl⟩ := Option.map_eq_some_iff.mp h
    exact sendMessage_leavesSent _ _ _ _ hrequest hsent
  | startSession settings authority path peerMaxEntries =>
    exact hmap (startSession_leavesSent _ _ _ _) h
  | sendResponse id status peerMaxEntries fin =>
    obtain ⟨⟨s₁, status'⟩, hresponse, rfl⟩ := Option.map_eq_some_iff.mp h
    exact sendMessage_leavesSent _ _ _ _ hresponse hsent
  | sendDatagram data => exact hmap (sendDatagram_leavesSent data) h
  | resendRequest => exact hmap resendRequest_leavesSent h

/-- Whatever the driver sends, a stream never goes back. -/
lemma Sends.leavesSent (h : Sends env s s') (hsent : SentBeyond streamId bound s.connection) :
    SentBeyond streamId bound s'.connection := by
  induction h with
  | refl => exact hsent
  | send _ hcall ih => exact driverSend_leavesSent hcall ih

end Sends

/-! ## The request -/

section Request

variable {env : Env} {role : Role} {fuel now streamId : ℕ} {message : Message}
  {peerMaxEntries : ℕ} {fin : Bool} {s s₁ s₂ s₃ : Sending} {status : Status}
  {granted : List PeerGrant} {sent : List SentStream} {held : Finset ℕ} {c c' : Connection}
  {act : AllowanceAct}
  {Meets : Role → List PeerGrant → Finset ℕ → Connection → AllowanceAct → Prop}

/-- A step of a connection puts no STREAM frame into a slot. -/
lemma AllowanceStep.repeats (h : AllowanceStep env c act c') (hc : c.RepeatsNoStream) :
    c'.RepeatsNoStream := by
  have hstep : ∃ act', TransportStep env c act' c' := by
    cases h with
    | parameters hlimits => exact ⟨_, .parameters _⟩
    | openStream bidirectional => exact ⟨_, .openStream bidirectional⟩
    | sendStream h => exact ⟨_, .sendStream h⟩
    | receive hdecode h => exact ⟨_, .receive h⟩
    | closeStream streamId => exact ⟨_, .other (.setStreams _)⟩
    | resetStream h => exact ⟨_, .resetStream h⟩
    | resetStreamAt h => exact ⟨_, .resetStreamAt h⟩
    | stopSending h => exact ⟨_, .stopSending h⟩
    | quiet h => exact ⟨_, .other (.of_quiet h)⟩
    | beside h => exact ⟨_, .other (.of_sameWire h.wire)⟩
  obtain ⟨act', hstep⟩ := hstep
  exact (hstep.wire hc).1

/-- What every run keeps of the slots and the numbers. -/
lemma AllowanceRun.kept (h : AllowanceRun env role Meets granted sent held c) :
    c.RepeatsNoStream ∧ Numbered held c := by
  induction h with
  | start _ h =>
    have hrun : TableRun steadyEnv (fun _ _ _ => True) ∅ ∅ _ := .init h
    exact ⟨(logsWire_init h).repeats, hrun.numbered⟩
  | step _ hstep _ ih =>
    obtain ⟨received, htable⟩ := hstep.table
    exact ⟨hstep.repeats ih.1, ih.2.step htable⟩

/-- A frame that was written has its header at least. -/
lemma http3FrameEncode_ne_nil {w w' : Writer} {type : ℕ} {payload : List UInt8}
    (h : http3FrameEncode w type payload = (w', .ok)) : w'.bytes ≠ [] := by
  obtain ⟨htype, -, hbytes⟩ := http3FrameEncode_ok (congrArg Prod.snd h)
  rw [h] at hbytes
  intro hnil
  have hframe := (List.append_eq_nil_iff.mp (hbytes.symm.trans hnil)).2
  exact quicVarintBytes_ne_nil htype (List.append_eq_nil_iff.mp hframe).1

lemma qpackStringEncode_error {w : Writer} {bytes : List UInt8}
    (h : qpackStringEncode w bytes = .error status) : status ≠ .ok := by
  rintro rfl
  unfold qpackStringEncode at h
  split at h
  · cases h
  split at h
  · cases h
  · cases limit_of_writerResult h

lemma encodeLines_error {lines : List ResolvedField} {w : Writer}
    (h : encodeLines lines w = .error status) : status ≠ .ok := by
  induction lines generalizing w with
  | nil => cases h
  | cons line lines ih =>
    unfold encodeLines at h
    split at h
    · rename_i status' hline
      cases h
      unfold qpackFieldLineEncodeLiteral at hline
      split at hline
      · cases hline
        exact Status.noConfusion
      split at hline
      · cases hline
        exact Status.noConfusion
      · exact qpackStringEncode_error hline
    · exact ih h

lemma http3MessageEncode_error {w : Writer} {reply : Reply}
    (h : http3MessageEncode w message peerMaxEntries = .error reply) : reply.1 ≠ .ok := by
  have hlines : ∀ {reply}, messageLines message = .error reply → reply.1 ≠ .ok := by
    intro reply hlines
    unfold messageLines at hlines
    split at hlines
    · split at hlines
      · cases hlines
        exact Status.noConfusion
      · cases hlines
    · split at hlines
      · cases hlines
        exact Status.noConfusion
      · split at hlines
        · cases hlines
          exact Status.noConfusion
        · cases hlines
  unfold http3MessageEncode at h
  split at h
  · rename_i heq
    cases h
    exact hlines heq
  split at h
  · cases h
    exact Status.noConfusion
  split at h
  · rename_i heq
    cases h
    exact encodeLines_error heq
  · cases h

lemma http3EndpointWriteHeaders_ne_nil {w w' : Writer}
    (h : http3EndpointWriteHeaders message peerMaxEntries w = (w', .ok)) : w'.bytes ≠ [] := by
  unfold http3EndpointWriteHeaders at h
  split at h
  · rename_i hencode
    exact absurd (congrArg Prod.snd h) (http3MessageEncode_error hencode)
  · split at h
    · cases h
    · exact http3FrameEncode_ne_nil h

lemma sendMessage_beyond (hc : s.connection.RepeatsNoStream)
    (hnumbered : Numbered held s.connection)
    (h : http3DriverSendMessage env fuel now streamId message peerMaxEntries fin s =
      some (s₁, .ok)) :
    ∃ stream, quicStreamTableFind s.connection.streams streamId = some stream ∧
      ∃ bound, stream.sendOffset < bound ∧ SentBeyond streamId bound s₁.connection := by
  unfold http3DriverSendMessage at h
  split at h
  · rename_i w hwritten
    have hdata : (copyTo s.sender.scratch 0 w.bytes).take w.bytes.length = w.bytes := by
      unfold copyTo
      rw [List.take_zero, List.nil_append]
      exact List.take_left
    have hpositive := List.length_pos_of_ne_nil (http3EndpointWriteHeaders_ne_nil hwritten)
    obtain ⟨⟨c, status⟩, hsend, heq⟩ := Option.map_eq_some_iff.mp h
    cases heq
    change quicSendStream env fuel streamId
      ((copyTo s.sender.scratch 0 w.bytes).take w.bytes.length) fin now s.connection =
        some (c, .ok) at hsend
    rw [hdata] at hsend
    have hfound : ∃ stream, quicStreamTableFind s.connection.streams streamId = some stream := by
      rw [← Option.ne_none_iff_exists']
      intro hnone
      unfold quicSendStream at hsend
      rw [hnone] at hsend
      cases hsend
    obtain ⟨stream, hfind⟩ := hfound
    have hsame := (quicSendStream_sameNumbers hsend).1
    have hstep : TableStep env s.connection none c :=
      .other hsame.sameIds hsame.role (by rw [hsame.peerLimits]; exact fun h => h)
    have hheld := hnumbered.present streamId (mem_ids_of_find hfind)
    refine ⟨stream, hfind, stream.sendOffset + w.bytes.length, Nat.lt_add_of_pos_right hpositive,
      (quicSendStream_wire hc hsend).1,
      ⟨_, hnumbered.step hstep, Finset.mem_union_left _ hheld⟩, ?_⟩
    intro stream' hfind'
    obtain ⟨before, hbefore, -, hmoved⟩ := quicSendStream_offset hsend hfind'
    cases hbefore.symm.trans hfind
    exact (hmoved rfl rfl).ge
  · rename_i hne hwritten
    cases h
    exact absurd rfl hne

/-- **A request that is sent again.** A request went out at the offset where its stream was, and
whatever the driver sends before, the request that is sent again does not go out there: it goes out
behind what its stream has sent. -/
theorem resend_never_repeats {fuel' now' : ℕ}
    (hreached : AllowanceRun env role (fun _ _ _ _ _ => True) granted sent held s.connection)
    (hrequest : http3DriverSendMessage env fuel now streamId message peerMaxEntries fin s =
      some (s₁, .ok))
    (hsends : Sends env s₁ s₂)
    (hresend : http3DriverResendRequest env fuel' now' s₂ = some (s₃, status)) :
    ∃ stream, quicStreamTableFind s.connection.streams streamId = some stream ∧
      ¬PutsAgain streamId stream.sendOffset (messageFrame message peerMaxEntries) fin
        s₂.connection s₃.connection := by
  obtain ⟨hrepeats, hnumbered⟩ := hreached.kept
  obtain ⟨stream, hfind, bound, hbound, hbeyond⟩ := sendMessage_beyond hrepeats hnumbered hrequest
  have hlater := hsends.leavesSent hbeyond
  refine ⟨stream, hfind, ?_⟩
  rintro ⟨f, hf, hid, hoffset, -, -⟩
  have hnone : f ∉ newStreamFrames s₂.connection s₂.connection := by
    unfold newStreamFrames
    rw [List.drop_length]
    exact List.not_mem_nil
  unfold http3DriverResendRequest at hresend
  split at hresend
  · cases hresend
    exact hnone hf
  · obtain ⟨⟨c, status'⟩, hsend, heq⟩ := Option.map_eq_some_iff.mp hresend
    cases heq
    obtain ⟨-, -, hnew | ⟨later, hfind', hnew⟩⟩ := quicSendStream_wire hlater.repeats hsend
    · rw [hnew] at hf
      cases hf
    · rw [hnew] at hf
      obtain rfl := List.mem_singleton.mp hf
      -- The frame is on the stream of the request, behind what was sent there.
      change s₂.sender.requestStreamId = streamId at hid
      change later.sendOffset = stream.sendOffset at hoffset
      rw [hid] at hfind'
      have hbehind := hlater.beyond later hfind'
      omega

/-! ### A request that is lost -/

/-- A peer that lets the client open one stream and write a little on it. -/
def oneRequest : PeerLimits :=
  { initialMaxData := 64, initialMaxStreamDataBidiRemote := 64, initialMaxStreamsBidi := 1 }

/-- A client that may send. -/
def keyedClient : Connection := { keyedServer with config := { serverConfig with role := .client } }

/-- A client whose request stream is open. -/
def openedClient : Connection := (quicOpenStream true (takePeerLimits oneRequest keyedClient)).1

/-- The driver over it. -/
def openedDriver : Sending where
  sender :=
    { driver          := http3DriverInit (http3EndpointInit .client)
      begun           := fun _ => false
      upgradeToken    := .draft16
      sessionEnded    := false
      scratch         := List.replicate http3DriverScratch 0
      requestStreamId := 0
      requestLength   := 0
      requestRetained := false }
  connection := openedClient

/-- A request that names only its method. -/
def plainRequest : Message := { type := .request, method := some (ascii "GET") }

/-- The driver after it sent the request. -/
def afterRequest : Sending :=
  ((http3DriverSendMessage steadyEnv 1 0 0 plainRequest 0 false openedDriver).map Prod.fst).getD
    openedDriver

/-- The driver after it sent the request again. -/
def afterResend : Sending :=
  ((http3DriverResendRequest steadyEnv 1 0 afterRequest).map Prod.fst).getD afterRequest

lemma openedClient_run : AllowanceRun steadyEnv .client (fun _ _ _ _ _ => True)
    [.parameters oneRequest] [] (∅ ∪ openedClient.streams.ids.toFinset) openedClient := by
  have hstart : AllowanceRun steadyEnv .client (fun _ _ _ _ _ => True) [] [] ∅
      { keyedClient with hasPeer := false, keysOut := fun _ => none } :=
    @AllowanceRun.start _ _ _ { serverConfig with role := .client } _ rfl rfl
  have hkeys : Connection.SameAccounts
      { keyedClient with hasPeer := false, keysOut := fun _ => none } keyedClient :=
    ⟨⟨.of_eq rfl rfl, rfl, rfl⟩, rfl, rfl, rfl, rfl⟩
  have hkeyed := hstart.step (.beside hkeys) trivial
  have hchecked : oneRequest.Checked := ⟨by decide, by decide⟩
  have htaken := hkeyed.step (.parameters hchecked) trivial
  exact htaken.step (.openStream true) trivial

lemma eq_of_getD {r : Option (Sending × Status)} {s s' : Sending} {status : Status}
    (h : (r.map Prod.snd) = some status) (hs : (r.map Prod.fst).getD s = s') :
    r = some (s', status) := by
  obtain ⟨⟨s₁, status'⟩, hr, rfl⟩ := Option.map_eq_some_iff.mp h
  rw [hr] at hs ⊢
  rw [← hs]
  rfl

lemma afterRequest_sent :
    http3DriverSendMessage steadyEnv 1 0 0 plainRequest 0 false openedDriver =
      some (afterRequest, .ok) :=
  eq_of_getD (by decide +kernel) rfl

lemma afterResend_sent :
    http3DriverResendRequest steadyEnv 1 0 afterRequest = some (afterResend, .ok) :=
  eq_of_getD (by decide +kernel) rfl

/-- The request of a client that is sent again. -/
theorem lostRequest_not_repeated :
    ∃ stream, quicStreamTableFind openedClient.streams 0 = some stream ∧
      ¬PutsAgain 0 stream.sendOffset (messageFrame plainRequest 0) false
        afterRequest.connection afterResend.connection :=
  resend_never_repeats openedClient_run afterRequest_sent (.refl _) afterResend_sent

/-- It was at the start of its stream, and it is sent again seventeen bytes behind. -/
theorem lostRequest_sent_behind :
    newStreamFrames openedClient afterRequest.connection =
        [{ id := 0, offset := 0, hasOffset := false, fin := false, hasLength := true,
           data := messageFrame plainRequest 0 }] ∧
      newStreamFrames afterRequest.connection afterResend.connection =
        [{ id := 0, offset := 17, hasOffset := true, fin := false, hasLength := true,
           data := messageFrame plainRequest 0 }] ∧
      ¬∀ {granted : List PeerGrant} {sent : List SentStream} {held : Finset ℕ}
          {s s₁ s₂ s₃ : Sending} {stream : Stream} {status : Status},
        AllowanceRun steadyEnv .client (fun _ _ _ _ _ => True) granted sent held s.connection →
        quicStreamTableFind s.connection.streams 0 = some stream →
        http3DriverSendMessage steadyEnv 1 0 0 plainRequest 0 false s = some (s₁, .ok) →
        Sends steadyEnv s₁ s₂ →
        http3DriverResendRequest steadyEnv 1 0 s₂ = some (s₃, status) →
          PutsAgain 0 stream.sendOffset (messageFrame plainRequest 0) false s₂.connection
            s₃.connection := by
  have hagain : newStreamFrames afterRequest.connection afterResend.connection =
      [{ id := 0, offset := 17, hasOffset := true, fin := false, hasLength := true,
         data := messageFrame plainRequest 0 }] := by decide +kernel
  have hfind : ∃ stream, quicStreamTableFind openedClient.streams 0 = some stream ∧
      stream.sendOffset = 0 := ⟨_, rfl, by decide⟩
  refine ⟨by decide +kernel, hagain, ?_⟩
  intro hrepeats
  obtain ⟨stream, hstream, hstart⟩ := hfind
  obtain ⟨f, hf, -, hoffset, -⟩ := hrepeats (s := openedDriver) openedClient_run hstream
    afterRequest_sent (.refl _) afterResend_sent
  rw [hagain] at hf
  cases List.mem_singleton.mp hf
  rw [hstart] at hoffset
  cases hoffset

end Request

end WebTransport
