import WebTransport.Http3.QuicTransport
import WebTransport.Quic.LossReentry
import WebTransport.Quic.SendClosure
import WebTransport.Quic.StreamHalves

/-!
# The send side of the streams

What the connection does to the send halves of its streams: the streams that it opens, the writes
that go out and those that do not, and the runs of a connection with what the peer granted and what
was sent on the streams.
-/

namespace WebTransport

/-! ## Opening a stream -/

/-- A stream after a change that sends nothing: its limit is raised to at least a value, and a
send half that was finished stays finished. -/
structure Stream.SendsOn (raise : ℕ) (s s' : Stream) : Prop where
  sendOffset : s'.sendOffset = s.sendOffset
  limit : s'.peerMaxStreamData = max s.peerMaxStreamData raise
  finished : quicStreamSendFinished s = true → quicStreamSendFinished s' = true

/-- A change of a connection that sends nothing on its streams: each stream that is there
afterwards was there before, or is new, and its limit is raised as said. -/
structure SendKept (New : ℕ → Stream → Prop) (raise : ℕ → ℕ) (c c' : Connection) : Prop where
  dataSent : c'.flow.dataSent = c.flow.dataSent
  peerMaxData : c'.flow.peerMaxData = c.flow.peerMaxData
  streams : ∀ id s', quicStreamTableFind c'.streams id = some s' →
    ∃ s, (quicStreamTableFind c.streams id = some s ∨ New id s) ∧ s.SendsOn (raise id) s'

lemma Stream.SendsOn.refl (s : Stream) : s.SendsOn 0 s :=
  ⟨rfl, (max_eq_left (Nat.zero_le _)).symm, fun h => h⟩

section Connections

variable {c c' : Connection} {New : ℕ → Stream → Prop}

/-- The streams and the send part of the account stay. -/
lemma SendKept.of_eq (hsent : c'.flow.dataSent = c.flow.dataSent)
    (hmax : c'.flow.peerMaxData = c.flow.peerMaxData) (hstreams : c'.streams = c.streams) :
    SendKept New 0 c c' := by
  refine ⟨hsent, hmax, ?_⟩
  intro id s' hfind
  rw [hstreams] at hfind
  exact ⟨s', .inl hfind, .refl s'⟩

lemma SendKept.refl (c : Connection) : SendKept New 0 c c := .of_eq rfl rfl rfl

/-- What is found once a stream was to be opened was found before, or is the new one. -/
lemma quicStreamTableFind_of_open {table : StreamTable} (ht : table.ids.Nodup)
    {streamId limit id : ℕ} {ours : Bool} {s : Stream}
    (h : quicStreamTableFind (quicStreamTableOpen table streamId ours limit).1 id = some s) :
    quicStreamTableFind table id = some s ∨
      id = streamId ∧ streamId ∉ table.ids ∧
        (quicStreamTableOpen table streamId ours limit).2 = .ok ∧
        s = quicStreamInit streamId ours (quicStreamIdIsBidirectional streamId) 0 0 := by
  rw [quicStreamTableOpen_eq] at h ⊢
  split_ifs at h ⊢ with hknown hlimit
  · exact .inl h
  · exact .inl h
  cases hslot : freeStreamSlot (sweptTable table) with
  | none =>
    rw [hslot] at h
    exact .inl (quicStreamTableFind_of_swept ht h)
  | some slot =>
    rw [hslot] at h
    obtain ⟨hlt, hfree⟩ := freeStreamSlot_eq_some hslot
    have hnew : streamId ∉ table.ids := by
      rw [StreamTable.mem_ids]
      exact hknown
    have hsub := (sweptTable_ids table).1
    by_cases hid : id = streamId
    · subst hid
      rw [quicStreamTableFind_openedAt_self (hsub.nodup ht) hlt hfree
        (fun hmem => hnew (hsub.subset hmem))] at h
      cases h
      exact .inr ⟨rfl, hnew, rfl, rfl⟩
    · rw [quicStreamTableFind_openedAt_ne hfree hid] at h
      exact .inl (quicStreamTableFind_of_swept ht h)

/-- A stream that this endpoint has just opened: it has the next number of its class, and the
limit the peer's transport parameters give it. -/
structure OwnStream (c : Connection) (id : ℕ) (s : Stream) : Prop where
  own : peerOpens c id = false
  index : quicStreamIdIndex id = c.streams.opened true (quicStreamIdIsBidirectional id)
  sendOffset : s.sendOffset = 0
  limit : s.peerMaxStreamData = if quicStreamIdIsBidirectional id then
    c.peerLimits.initialMaxStreamDataBidiRemote else c.peerLimits.initialMaxStreamDataUni

lemma quicConnectionOpenStream_sendKept (ht : c.streams.ids.Nodup) (hlimits : c.peerLimits.Checked)
    (bidirectional : Bool) :
    SendKept (OwnStream c) 0 c (quicConnectionOpenStream bidirectional c).1 := by
  rw [quicConnectionOpenStream_eq]
  split
  · exact .refl c
  simp only
  have hclient := quicStreamIdFromClient_make (c.config.role = .client) bidirectional
    (c.streams.opened true bidirectional)
  have hbidi := quicStreamIdIsBidirectional_make (c.config.role = .client) bidirectional
    (c.streams.opened true bidirectional)
  have hindex := quicStreamIdIndex_make (c.config.role = .client) bidirectional
    (c.streams.opened true bidirectional)
  generalize quicStreamIdMake (c.config.role = .client) bidirectional
    (c.streams.opened true bidirectional) = streamId at hclient hbidi hindex ⊢
  have hfound : ∀ id s, quicStreamTableFind (quicStreamTableOpen c.streams streamId true
      (c.peerLimits.maxStreams bidirectional)).1 id = some s → _ :=
    fun id s => @quicStreamTableFind_of_open _ ht streamId (c.peerLimits.maxStreams bidirectional) id
      true s
  have hend := quicStreamTableOpen_end c.streams streamId true (c.peerLimits.maxStreams bidirectional)
  generalize quicStreamTableOpen c.streams streamId true (c.peerLimits.maxStreams bidirectional) = r
    at hend hfound ⊢
  cases hend with
  | @refused table' status h hsame hwhy =>
    have hkept : SendKept (OwnStream c) 0 c { c with streams := table' } := by
      refine ⟨rfl, rfl, ?_⟩
      intro id s hs
      rcases hfound id s hs with hbefore | ⟨-, -, hok, -⟩
      · exact ⟨s, .inl hbefore, .refl s⟩
      · exact absurd hok h
    cases status with
    | ok => exact absurd rfl h
    | _ => exact hkept
  | @opened slot hnew hlimit hslot hfree =>
    have hsub := (sweptTable_ids c.streams).1
    have hself := quicStreamTableFind_openedAt_self (hsub.nodup ht) hslot hfree
      (fun hmem => hnew (hsub.subset hmem)) true
    simp only [hself]
    refine ⟨rfl, rfl, ?_⟩
    intro id s hs
    by_cases hid : id = streamId
    · subst hid
      have hput := (quicStreamTableFind_setStream hself (by rfl)).symm.trans hs
      cases hput
      refine ⟨_, .inr ⟨?_, ?_, rfl, ?_⟩, .refl _⟩
      · simp [peerOpens, hclient]
      · rw [hbidi] at hlimit ⊢
        exact hindex (hlimit.trans_le ((hlimits.maxStreams_le bidirectional).trans (by norm_num)))
      · rw [hbidi]
    · have hother : quicStreamTableFind ((sweptTable c.streams).openedAt slot streamId true) id =
          some s := by
        rw [← hs]
        exact (quicStreamTableFind_setStream_ne hid).symm
      rcases hfound id s hother with hbefore | ⟨heq, -⟩
      · exact ⟨s, .inl hbefore, .refl s⟩
      · exact absurd heq hid

end Connections

/-! ## Writes that go out and writes that do not -/

section Write

variable {env : Env} {fuel now streamId : ℕ} {data : List UInt8} {fin : Bool} {c c' : Connection}
  {status : Status} {o : Outgoing}

/-- A writer is handed on when every write was accepted. -/
lemma ok_of_writerResult {w w' : Writer} (h : writerResult w = .ok w') : w.ok = true := by
  unfold writerResult at h
  split at h
  · assumption
  · cases h

/-- A writer that is not handed on has no room left. -/
lemma limit_of_writerResult {w : Writer} (h : writerResult w = .error status) : status = .limit := by
  unfold writerResult at h
  split at h
  · cases h
  · cases h
    rfl

/-- A STREAM frame is encoded with an offset and a length of the wire. -/
lemma encode_stream {cap : ℕ} {f : StreamFrame} {w : Writer} (hlength : f.hasLength = true)
    (hoffset : f.hasOffset = decide (f.offset ≠ 0))
    (h : quicFrameEncode (writerInit cap) (.stream f) = .ok w) :
    f.offset ≤ quicVarintMax ∧ f.data.length ≤ quicVarintMax := by
  have hresult : encodeStream (writerInit cap) f = .ok w := h
  unfold encodeStream at hresult
  simp only [hlength, if_true] at hresult
  have hwritten := quicWriterVarint_ok (Writer.put_ok (ok_of_writerResult hresult)).1
  refine ⟨?_, hwritten.2.1⟩
  by_cases hzero : f.offset = 0
  · rw [hzero]
    exact Nat.zero_le _
  · have hhas : f.hasOffset = true := by
      rw [hoffset]
      exact decide_eq_true hzero
    have hbefore := hwritten.1
    rw [if_pos hhas] at hbefore
    exact (quicWriterVarint_ok hbefore).2.1

/-- A STREAM frame that is not encoded does not fit. -/
lemma encode_stream_error {cap : ℕ} {f : StreamFrame}
    (h : quicFrameEncode (writerInit cap) (.stream f) = .error status) : status = .limit := by
  have hresult : encodeStream (writerInit cap) f = .error status := h
  exact limit_of_writerResult hresult

/-- Changes that put no STREAM frame on the wire keep the sent list in order. -/
lemma Unstreamed.tracked (h : Unstreamed env c c') (hc : c.Tracked) : c'.Tracked := by
  induction h with
  | refl => exact hc
  | tail _ hstep ih =>
    cases hstep with
    | quiet hstep => exact (Quiet.reaches (.single hstep)).tracked ih
    | beside hsame => exact ih.other hsame.sending

end Write

/-! ## Runs -/

/-- What happens to a connection, as far as the send allowance of its streams goes. -/
inductive AllowanceAct
  | parameters (limits : PeerLimits)
  | openStream (bidirectional : Bool)
  | sendStream (streamId : ℕ) (data : List UInt8) (fin : Bool)
  | receive (visit : Visit) (frame : Frame)
  | closeStream (streamId : ℕ)
  | cancel
  | other

/-- A change that has no part in the streams, the limits and what is sent on the streams. -/
structure Connection.SameAccounts (c c' : Connection) : Prop where
  wire : c.SameWire c'
  role : c'.config.role = c.config.role
  peerLimits : c'.peerLimits = c.peerLimits
  streams : c'.streams = c.streams
  flow : c'.flow = c.flow

/-- One step: the peer's parameters are taken over, a stream is opened, written, cancelled or
forgotten, a decoded frame is received, or something else happens, be it that packets go out
without a STREAM frame or that keys and settings change. -/
inductive AllowanceStep (env : Env) (c : Connection) : AllowanceAct → Connection → Prop
  | parameters {limits : PeerLimits} (hlimits : limits.Checked) :
      AllowanceStep env c (.parameters limits) (takePeerLimits limits c)
  | openStream (bidirectional : Bool) :
      AllowanceStep env c (.openStream bidirectional) (quicOpenStream bidirectional c).1
  | sendStream {fuel streamId now : ℕ} {data : List UInt8} {fin : Bool} {c' : Connection}
      {status : Status}
      (h : quicSendStream env fuel streamId data fin now c = some (c', status)) :
      AllowanceStep env c (.sendStream streamId data fin) c'
  | receive {bytes rest : List UInt8} {fuel : ℕ} {visit : Visit} {frame : Frame} {c' : Connection}
      {reply : VisitReply} (hdecode : quicFrameDecode bytes = .ok (frame, rest))
      (h : visitFrame env fuel visit frame c = some (c', reply)) :
      AllowanceStep env c (.receive visit frame) c'
  | closeStream (streamId : ℕ) :
      AllowanceStep env c (.closeStream streamId)
        { c with streams := (quicStreamTableClose c.streams streamId).1 }
  | resetStream {fuel streamId errorCode now : ℕ} {c' : Connection} {status : Status}
      (h : quicConnectionResetStream env fuel streamId errorCode now c = some (c', status)) :
      AllowanceStep env c .cancel c'
  | resetStreamAt {fuel streamId errorCode reliableSize now : ℕ} {c' : Connection}
      {status : Status}
      (h : quicConnectionResetStreamAt env fuel streamId errorCode reliableSize now c =
        some (c', status)) :
      AllowanceStep env c .cancel c'
  | stopSending {fuel streamId errorCode now : ℕ} {c' : Connection} {status : Status}
      (h : quicConnectionStopSending env fuel streamId errorCode now c = some (c', status)) :
      AllowanceStep env c .cancel c'
  | quiet {c' : Connection} (h : Quiet env Frame.NoStream c c') : AllowanceStep env c .other c'
  | beside {c' : Connection} (h : c.SameAccounts c') : AllowanceStep env c .other c'

/-- What the peer grants in a step. -/
def AllowanceAct.grants : AllowanceAct → List PeerGrant
  | .parameters limits => [.parameters limits]
  | .receive _ frame => ((limitUpdate frame).map fun r => PeerGrant.update r.1 r.2).toList
  | _ => []

/-- The runs of a connection in which every step meets a condition, with what the peer granted,
the STREAM frames that went out, the last ones first, and the stream numbers that have been in
the table. -/
inductive AllowanceRun (env : Env) (role : Role)
    (Meets : Role → List PeerGrant → Finset ℕ → Connection → AllowanceAct → Prop) :
    List PeerGrant → List SentStream → Finset ℕ → Connection → Prop
  | start {config : ConnectionConfig} {c : Connection} (hrole : config.role = role)
      (h : quicConnectionInit config = .ok c) : AllowanceRun env role Meets [] [] ∅ c
  | step {granted : List PeerGrant} {sent : List SentStream} {held : Finset ℕ} {c c' : Connection}
      {act : AllowanceAct} (h : AllowanceRun env role Meets granted sent held c)
      (hstep : AllowanceStep env c act c') (hmeets : Meets role granted held c act) :
      AllowanceRun env role Meets (act.grants ++ granted) (newlySent c c' ++ sent)
        (held ∪ c'.streams.ids.toFinset) c'

/-! ## What the steps leave of the numbers and the limits -/

/-- A change that opens and forgets no stream and leaves the limits of the peer. -/
structure SameNumbers (c c' : Connection) : Prop where
  sameIds : c.streams.SameIds c'.streams
  role : c'.config.role = c.config.role
  peerLimits : c'.peerLimits = c.peerLimits

section Numbers

variable {env : Env} {fuel streamId now errorCode : ℕ} {c c' c'' : Connection} {status : Status}

lemma SameNumbers.refl (c : Connection) : SameNumbers c c := ⟨.refl _, rfl, rfl⟩

lemma SameNumbers.trans (h : SameNumbers c c') (h' : SameNumbers c' c'') : SameNumbers c c'' :=
  ⟨h.sameIds.trans h'.sameIds, h'.role.trans h.role, h'.peerLimits.trans h.peerLimits⟩

lemma SameNumbers.setStream (c : Connection) (stream : Stream) :
    SameNumbers c { c with streams := c.streams.setStream stream } :=
  ⟨.setStream _ _, rfl, rfl⟩

lemma Quiet.sameNumbers {F : Frame → Prop} (h : Quiet env F c c') : SameNumbers c c' := by
  have hout := h.outside
  refine ⟨?_, congrArg Outside.role hout, congrArg Outside.peerLimits hout⟩
  rw [h.streams]
  exact .refl _

/-- A call that ends before anything has changed. -/
lemma sameNumbers_of_some_eq {status' : Status} (h : some (c, status') = some (c', status)) :
    SameNumbers c c' := by
  cases h
  exact .refl c

lemma resetWith_sameNumbers {frame : Stream → Frame}
    (h : resetWith env fuel streamId now frame c = some (c', status)) : SameNumbers c c' := by
  unfold resetWith at h
  split at h
  · exact sameNumbers_of_some_eq h
  split at h
  · exact sameNumbers_of_some_eq h
  · exact (SameNumbers.setStream c _).trans
      (sendControlFrame_quietly (F := fun _ => True) _ _ trivial _ _ _ _ _ h).sameNumbers

lemma quicConnectionResetStream_sameNumbers
    (h : quicConnectionResetStream env fuel streamId errorCode now c = some (c', status)) :
    SameNumbers c c' := by
  unfold quicConnectionResetStream at h
  split_ifs at h
  · exact sameNumbers_of_some_eq h
  · exact sameNumbers_of_some_eq h
  · exact sameNumbers_of_some_eq h
  · exact resetWith_sameNumbers h

lemma quicConnectionResetStreamAt_sameNumbers {reliableSize : ℕ}
    (h : quicConnectionResetStreamAt env fuel streamId errorCode reliableSize now c =
      some (c', status)) : SameNumbers c c' := by
  unfold quicConnectionResetStreamAt at h
  split at h
  · exact sameNumbers_of_some_eq h
  split at h
  · exact sameNumbers_of_some_eq h
  split at h
  · exact sameNumbers_of_some_eq h
  split_ifs at h
  · exact sameNumbers_of_some_eq h
  · exact sameNumbers_of_some_eq h
  · exact resetWith_sameNumbers h

lemma quicConnectionStopSending_sameNumbers
    (h : quicConnectionStopSending env fuel streamId errorCode now c = some (c', status)) :
    SameNumbers c c' := by
  unfold quicConnectionStopSending at h
  split at h
  · exact sameNumbers_of_some_eq h
  split at h
  · exact sameNumbers_of_some_eq h
  split_ifs at h
  · exact sameNumbers_of_some_eq h
  · exact sameNumbers_of_some_eq h
  · exact sameNumbers_of_some_eq h
  simp only at h
  split at h
  · cases h
  · rename_i c₁ heq
    cases h
    exact (SameNumbers.setStream c _).trans
      (sendControlFrame_quietly (F := fun _ => True) _ _ trivial _ _ _ _ _ heq).sameNumbers
  · rename_i c₁ status₁ _ heq
    cases h
    refine ((SameNumbers.setStream c _).trans
      (sendControlFrame_quietly (F := fun _ => True) _ _ trivial _ _ _ _ _ heq).sameNumbers).trans ?_
    split
    · exact .refl c₁
    · exact .setStream c₁ _

lemma recordSend_sameNumbers (length : ℕ) (fin : Bool) (c : Connection) :
    SameNumbers c (recordSend streamId length fin c).1 := by
  unfold recordSend
  split
  · exact .refl c
  split
  · exact .refl c
  simp only
  split
  · split
    · exact .setStream c _
    · exact (SameNumbers.setStream c _).trans (.setStream _ _)
  · exact .setStream c _

lemma quicSendStream_sameNumbers {data : List UInt8} {fin : Bool}
    (h : quicSendStream env fuel streamId data fin now c = some (c', status)) :
    SameNumbers c c' ∧ (c.Tracked → c'.Tracked) := by
  have hsend : ∀ {offset c₁ status₁}, quicConnectionSendStream env fuel streamId offset data fin now
      c = some (c₁, status₁) → SameNumbers c c₁ ∧ (c.Tracked → c₁.Tracked) := by
    intro offset c₁ status₁ hcall
    unfold quicConnectionSendStream at hcall
    split_ifs at hcall
    · cases hcall
      exact ⟨.refl c, fun h => h⟩
    · cases hcall
      exact ⟨.refl c, fun h => h⟩
    · have hquiet := sendOneFrame_quietly (F := fun _ => True) _ _ trivial _ _ _ _ _ _ hcall
      exact ⟨hquiet.sameNumbers, hquiet.reaches.tracked⟩
  unfold quicSendStream at h
  split at h
  · cases h
    exact ⟨.refl c, fun h => h⟩
  split at h
  · cases h
  · rename_i c₁ heq
    obtain ⟨hsame, htracked⟩ := hsend heq
    have hrecord := @recordSend_sameNumbers streamId data.length fin c₁
    have hunstreamed : Unstreamed env c₁ (recordSend streamId data.length fin c₁).1 :=
      recordSend_unstreamed _ _ _ _
    rw [Option.some.inj h] at hrecord hunstreamed
    exact ⟨hsame.trans hrecord, fun hc => hunstreamed.tracked (htracked hc)⟩
  · rename_i c₁ status₁ _ heq
    cases h
    exact hsend heq

end Numbers

/-! ## What the steps keep -/

section Steps

variable {env : Env} {c c' : Connection} {act : AllowanceAct}

lemma mem_ids_of_find {table : StreamTable} {id : ℕ} {s : Stream}
    (h : quicStreamTableFind table id = some s) : id ∈ table.ids := by
  obtain ⟨i, hslot, -⟩ := quicStreamTableFind_eq_some.mp h
  rw [StreamTable.mem_ids, hslot]
  rfl

lemma AllowanceStep.table (h : AllowanceStep env c act c') :
    ∃ received, TableStep env c received c' := by
  have hsame : SameNumbers c c' → ∃ received, TableStep env c received c' := by
    intro hsame
    refine ⟨none, .other hsame.sameIds hsame.role ?_⟩
    rw [hsame.peerLimits]
    exact fun h => h
  cases h with
  | parameters hlimits => exact ⟨none, .other (.refl _) rfl fun _ => ⟨hlimits.bidi, hlimits.uni⟩⟩
  | openStream bidirectional => exact ⟨none, .openStream bidirectional⟩
  | sendStream h => exact hsame (quicSendStream_sameNumbers h).1
  | receive hdecode h => exact ⟨_, .frame hdecode h⟩
  | closeStream streamId => exact ⟨none, .close streamId⟩
  | resetStream h => exact hsame (quicConnectionResetStream_sameNumbers h)
  | resetStreamAt h => exact hsame (quicConnectionResetStreamAt_sameNumbers h)
  | stopSending h => exact hsame (quicConnectionStopSending_sameNumbers h)
  | quiet h => exact hsame h.sameNumbers
  | beside h => exact hsame ⟨by rw [h.streams]; exact .refl _, h.role, h.peerLimits⟩

end Steps

end WebTransport
