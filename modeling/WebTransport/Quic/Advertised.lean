import WebTransport.Quic.LimitUpdates
import WebTransport.Quic.StreamDirections
import WebTransport.Quic.ReceiveFlow

/-!
# The limit that is advertised and the limit that is enforced

The connection limit of the receiving side is kept twice: `local_max_data` is what was
announced, `flow.max_data` is what arriving bytes are held against. Setting the limit and the
automatic grants move both. An explicit announcement moves the first alone, so that a peer that
uses what it was granted is closed for overrunning the limit.
-/

namespace WebTransport

/-! ## Bytes of a MAX_DATA -/

/-- The bytes a slot keeps are those of an accepted encoding. -/
lemma retainedWire_eq_some {frame : Frame} {wire : List UInt8} (h : retainedWire frame = some wire) :
    ∃ w, quicFrameEncode (writerInit quicControlWireMax) frame = .ok w ∧ w.ok = true ∧
      w.bytes = wire := by
  unfold retainedWire at h
  split at h
  · cases h
  · rename_i w heq
    split at h
    · rename_i hok
      cases h
      exact ⟨w, heq, hok, rfl⟩
    · cases h

lemma encode_maxData {cap maximum : ℕ} {w : Writer}
    (h : quicFrameEncode (writerInit cap) (.maxData maximum) = .ok w) :
    maximum ≤ quicVarintMax ∧ w.bytes = varintsBytes [0x10, maximum] := by
  have hresult : writerResult (quicWriterVarints (writerInit cap) [0x10, maximum]) = .ok w := h
  have hok : (quicWriterVarints (writerInit cap) [0x10, maximum]).ok = true := by
    unfold writerResult at hresult
    split at hresult
    · assumption
    · cases hresult
  cases writerResult_ok hresult
  obtain ⟨-, hle, hbytes⟩ := quicWriterVarints_ok hok
  exact ⟨hle maximum (by simp), hbytes⟩

/-- The bytes of a MAX_DATA are those of no other frame. -/
theorem eq_of_retainedWire_maxData {frame : Frame} {maximum : ℕ} {wire : List UInt8}
    (h : retainedWire frame = some wire) (hdata : retainedWire (.maxData maximum) = some wire) :
    frame = .maxData maximum := by
  obtain ⟨w, hencode, hok, hbytes⟩ := retainedWire_eq_some h
  obtain ⟨w', hencode', hok', hbytes'⟩ := retainedWire_eq_some hdata
  have hstarts := encodedType_starts hencode hok
  have hstarts' := encodedType_starts hencode' hok'
  rw [hbytes] at hstarts
  rw [hbytes'] at hstarts'
  obtain ⟨maximum', rfl⟩ := eq_maxData_of_encodedType
    (eq_of_varint_starts (encodedType_le frame) (encodedType_le (.maxData maximum)) hstarts hstarts')
  obtain ⟨hle, hwire⟩ := encode_maxData hencode
  obtain ⟨hle', hwire'⟩ := encode_maxData hencode'
  have hsame : varintsBytes [0x10, maximum] = varintsBytes [0x10, maximum'] := by
    rw [← hwire, ← hwire', hbytes, hbytes']
  simp only [varintsBytes_cons, varintsBytes_nil, List.append_nil] at hsame
  have hvalue : quicVarintBytes maximum = quicVarintBytes maximum' := List.append_cancel_left hsame
  rw [eq_of_varint_starts hle hle' List.prefix_rfl (hvalue ▸ List.prefix_rfl)]

/-! ## Sends that fail -/

section Failed

variable {env : Env} {F : Frame → Prop} {c c' : Connection} {o : Outgoing} {status : Status}

/-- A number that has not been given out is recorded while the list has room. -/
lemma quicLossOnSent_of_tracked (hc : c.Tracked) (hroom : c.loss.sent.length < quicSentPacketsMax)
    (o : Outgoing) (length : ℕ) :
    ∃ loss, quicLossOnSent c.loss (sentPacketOf o (c.spaces o.space).nextSend length) = .ok loss := by
  have hfresh : findPacket c.loss o.space.index (c.spaces o.space).nextSend = c.loss.sent.length := by
    rw [findPacket_eq_length]
    intro hmem
    obtain ⟨p, hp, hkey⟩ := List.mem_map.mp hmem
    obtain ⟨s, hs, hlt⟩ := hc.below p hp
    obtain ⟨hspace, hnumber⟩ := Prod.mk.inj hkey
    have hsame : s = o.space := Space.index_injective (hs.symm.trans hspace)
    subst hsame
    exact absurd hnumber hlt.ne
  unfold quicLossOnSent
  simp only [sentPacketOf]
  rw [if_neg (not_not.mpr hfresh), if_neg hroom.ne]
  exact ⟨_, rfl⟩

/-- A packet that was not sent leaves no trace of its frame. -/
lemma sendProtected_failed (hc : c.Tracked) (hroom : c.loss.sent.length < quicSentPacketsMax)
    (frame : Option Frame) (h : (sendProtected env o c).2 ≠ .ok) :
    sendProtected env { o with frame := frame } c = sendProtected env o c := by
  unfold sendProtected at h ⊢
  simp only at h ⊢
  cases hcan : quicCongestionCanSend c.congestion c.loss.bytesInFlight with
  | false => rfl
  | true =>
    cases hnext : quicPnSpaceNext (c.spaces o.space) with
    | error status => rfl
    | ok r =>
      obtain ⟨n, space'⟩ := r
      obtain ⟨rfl, -, -⟩ := quicPnSpaceNext_ok hnext
      simp only [hcan, hnext, Bool.not_true, Bool.false_eq_true, if_false] at h ⊢
      split
      · rfl
      rename_i hretry
      rw [if_neg hretry] at h
      have hsame : packetToBuild (c.setSpace o.space space') { o with frame := frame }
          (c.spaces o.space).nextSend (packetNumberLengthFor (c.spaces o.space).nextSend
            (c.spaces o.space)) = packetToBuild (c.setSpace o.space space') o
          (c.spaces o.space).nextSend (packetNumberLengthFor (c.spaces o.space).nextSend
            (c.spaces o.space)) := rfl
      rw [hsame]
      cases hbuild : buildPacket env (c.setSpace o.space space') (packetToBuild
          (c.setSpace o.space space') o (c.spaces o.space).nextSend
            (packetNumberLengthFor (c.spaces o.space).nextSend (c.spaces o.space))) with
      | error status => rfl
      | ok length =>
        simp only [hbuild] at h ⊢
        split
        · rfl
        rename_i hsize
        rw [if_neg hsize] at h
        split
        · rfl
        rename_i hudp
        rw [if_neg hudp] at h
        -- The packet is on its way, and the list has room for it.
        obtain ⟨loss, hloss⟩ := quicLossOnSent_of_tracked hc hroom o length
        obtain ⟨first, pending, hcount⟩ := countProtected_eq (c.setSpace o.space space') o.space
          (c.spaces o.space).nextSend
        simp only [hcount, Connection.observe_loss, Connection.setSpace_loss, hloss] at h
        exact absurd rfl h

/-- Sending a packet: whatever the attempt sets off needs no frame of its own, and the packet
itself comes last. -/
lemma sendPacket_cases (F : Frame → Prop) {fuel : ℕ}
    (h : sendPacket env fuel o c = some (c', status)) :
    Quiet env F c c' ∨ ∃ c₁, Quiet env F c c₁ ∧ c₁.loss.sent.length < quicSentPacketsMax ∧
      sendProtected env o c₁ = (c', status) := by
  cases fuel with
  | zero => cases h
  | succ fuel =>
    have hguard := (sendGuard_quiet env F o c).1
    rw [sendPacket] at h
    split at h
    · rename_i c₁ status₁ heq
      cases h
      rw [heq] at hguard
      exact .inl hguard
    · rename_i c₁ heq
      rw [heq] at hguard
      split_ifs at h with hroom
      · exact .inr ⟨c₁, hguard, hroom, Option.some.inj h⟩
      · split at h
        · cases h
        · rename_i c₂ hdetect
          have hquiet := hguard.trans (detectLost_quiet (sendPacket_tame env F fuel) hdetect).1
          split_ifs at h with hfull
          · cases h
            exact .inl hquiet
          · exact .inr ⟨c₂, hquiet, not_le.mp hfull, Option.some.inj h⟩

/-- A packet that was not sent, with everything the attempt set off, is accounted for by any
frames. -/
lemma sendPacket_failed (hF : F .ping) (hc : c.Tracked) {fuel : ℕ}
    (h : sendPacket env fuel o c = some (c', status)) (hstatus : status ≠ .ok) : Quiet env F c c' := by
  rcases sendPacket_cases F h with hquiet | ⟨c₁, hquiet, hroom, hsent⟩
  · exact hquiet
  · -- A failed attempt changes what one with a PING in it would have changed.
    have hfailed : (sendProtected env o c₁).2 ≠ .ok := by
      rw [hsent]
      exact hstatus
    have hping := sendProtected_failed (hquiet.reaches.tracked hc) hroom (some .ping) hfailed
    have hstep : Quiet env F c₁ (sendProtected env { o with frame := some .ping } c₁).1 :=
      .single (.protect _ (Connection.Sends.of_frame rfl hF))
    rw [hping, hsent] at hstep
    exact hquiet.trans hstep

/-- A frame that was not sent, without a descriptor, is accounted for by any frames. -/
lemma sendOneFrame_failed (hF : F .ping) (hc : c.Tracked) {fuel now : ℕ} {space : Space}
    {frame : Frame} {ackEliciting : Bool}
    (h : sendOneFrame env fuel space frame ackEliciting none now c = some (c', status))
    (hstatus : status ≠ .ok) : Quiet env F c c' := by
  unfold sendOneFrame at h
  split at h
  · exact quiet_of_some_eq h
  split at h
  · exact quiet_of_some_eq h
  split at h
  · exact quiet_of_some_eq h
  simp only [sendEncodedFrame] at h
  split at h
  · cases h
  · cases h
    exact absurd rfl hstatus
  · rename_i c₁ status₁ hne heq
    cases h
    exact sendPacket_failed hF hc heq hstatus

lemma encode_maxData_error {cap maximum : ℕ}
    (h : quicFrameEncode (writerInit cap) (.maxData maximum) = .error status) : status = .limit := by
  have hresult : writerResult (quicWriterVarints (writerInit cap) [0x10, maximum]) = .error status := h
  unfold writerResult at hresult
  split at hresult
  · cases hresult
  · cases hresult
    rfl

/-- A MAX_DATA that was sent carries an integer of the wire. -/
lemma le_of_sent_maxData {fuel now maximum : ℕ} {space : Space} {ackEliciting : Bool}
    (h : sendOneFrame env fuel space (.maxData maximum) ackEliciting none now c = some (c', .ok)) :
    maximum ≤ quicVarintMax := by
  unfold sendOneFrame at h
  split at h
  · cases h
  split at h
  · rename_i status heq
    cases h
    cases encode_maxData_error heq
  · rename_i w heq
    exact (encode_maxData heq).1

end Failed

/-! ## The account of a STREAM frame -/

section Account

variable {stream : Stream} {flow flow' : Flow} {offset length : ℕ} {fin : Bool}

/-- The account of a stream and of the connection when bytes arrive: nothing changes, or they
fit under both limits. What is refused after that had been counted before. -/
inductive Arrival (stream : Stream) (flow : Flow) (finish : ℕ) : Stream → Flow → Status → Prop
  | refused {status : Status} (h : status ≠ .ok) : Arrival stream flow finish stream flow status
  | counted {stream' : Stream} {flow' : Flow} {status : Status} (hid : stream'.id = stream.id)
      (hlimit : stream'.maxStreamData = stream.maxStreamData)
      (hhighest : finish ≤ stream'.recvHighest)
      (hflow : quicFlowOnReceived flow (finish - stream.recvHighest) = .ok flow')
      (hstatus : status = .ok ∨ finish ≤ stream.recvHighest) :
      Arrival stream flow finish stream' flow' status

/-- A final size leaves the number and the limit of the stream alone, and is refused only if it
is not the one that is fixed or is below what has arrived. -/
lemma checkFinalSize_account (stream : Stream) (finalSize : ℕ) :
    (checkFinalSize stream finalSize).1.id = stream.id ∧
      (checkFinalSize stream finalSize).1.maxStreamData = stream.maxStreamData ∧
      ((checkFinalSize stream finalSize).2 = .ok ∨ finalSize < stream.recvHighest ∨
        stream.hasRecvFinalSize = true ∧ finalSize ≠ stream.recvFinalSize) := by
  unfold checkFinalSize
  split
  · rename_i hfixed
    simp only [Bool.and_eq_true, decide_eq_true_eq] at hfixed
    exact ⟨rfl, rfl, .inr (.inr ⟨hfixed.1, fun h => hfixed.2 h.symm⟩)⟩
  split
  · exact ⟨rfl, rfl, .inr (.inl ‹_›)⟩
  · exact ⟨rfl, rfl, .inl rfl⟩

/-- What arriving bytes do to the two accounts. -/
lemma quicStreamOnData_arrival (stream : Stream) (flow : Flow) (offset length : ℕ) (fin : Bool) :
    Arrival stream flow (offset + length) (quicStreamOnData stream flow offset length fin).1
      (quicStreamOnData stream flow offset length fin).2.1
      (quicStreamOnData stream flow offset length fin).2.2.1 := by
  unfold quicStreamOnData
  simp only [credit_eq]
  split
  · exact .refused fun h => by cases h
  split
  · exact .refused fun h => by cases h
  split
  · exact .refused fun h => by cases h
  rename_i hfixed
  split
  · exact .refused fun h => by cases h
  split
  · rename_i status hflow
    refine .refused ?_
    unfold quicFlowOnReceived at hflow
    split at hflow
    · cases hflow
      exact fun h => by cases h
    · cases hflow
  rename_i flow' hflow
  set highest := if stream.recvHighest < offset + length then
    { stream with recvHighest := offset + length } else stream with hhighest
  have hmoved : highest.id = stream.id ∧ highest.maxStreamData = stream.maxStreamData ∧
      highest.hasRecvFinalSize = stream.hasRecvFinalSize ∧
      highest.recvFinalSize = stream.recvFinalSize ∧
      offset + length ≤ highest.recvHighest ∧
      (offset + length < highest.recvHighest → offset + length ≤ stream.recvHighest) := by
    rw [hhighest]
    split
    · exact ⟨rfl, rfl, rfl, rfl, le_rfl, fun h => absurd h (lt_irrefl _)⟩
    · exact ⟨rfl, rfl, rfl, rfl, not_lt.mp ‹_›, le_of_lt⟩
  obtain ⟨hid, hlimit, hhas, hfinal, hfinish, hbelow⟩ := hmoved
  have hcompletion : ∀ s : Stream, (recvCompletion s).id = s.id ∧
      (recvCompletion s).maxStreamData = s.maxStreamData ∧
      (recvCompletion s).recvHighest = s.recvHighest := by
    intro s
    unfold recvCompletion
    split <;> exact ⟨rfl, rfl, rfl⟩
  have hrecv := checkFinalSize_recvHighest highest (offset + length)
  obtain ⟨hcid, hclimit, hwhy⟩ := checkFinalSize_account highest (offset + length)
  split
  · rename_i hfin
    split
    · rename_i stream' heq
      rw [heq] at hrecv hcid hclimit
      obtain ⟨hdid, hdlimit, hdhighest⟩ := hcompletion stream'
      refine .counted (hdid.trans (hcid.trans hid)) (hdlimit.trans (hclimit.trans hlimit)) ?_ hflow
        (.inl rfl)
      rw [hdhighest, hrecv]
      exact hfinish
    · rename_i stream' status hne heq
      rw [heq] at hrecv hcid hclimit hwhy
      refine .counted (hcid.trans hid) (hclimit.trans hlimit) ?_ hflow (.inr ?_)
      · rw [hrecv]
        exact hfinish
      · rcases hwhy with hok | hlow | ⟨hset, hother⟩
        · exact absurd hok hne
        · exact hbelow hlow
        · rw [hhas] at hset
          rw [hfinal] at hother
          exact absurd ⟨hset, .inr ⟨hfin, hother⟩⟩ hfixed
  · obtain ⟨hdid, hdlimit, hdhighest⟩ := hcompletion highest
    refine .counted (hdid.trans hid) (hdlimit.trans hlimit) ?_ hflow (.inl rfl)
    rw [hdhighest]
    exact hfinish

/-- Arriving bytes never take the account above the limit. -/
lemma quicStreamOnData_flow (hf : flow.Sound) :
    ∃ n ≤ flow.maxData,
      (quicStreamOnData stream flow offset length fin).2.1 = { flow with dataReceived := n } := by
  have h := quicStreamOnData_arrival stream flow offset length fin
  generalize (quicStreamOnData stream flow offset length fin).1 = stream' at h
  generalize (quicStreamOnData stream flow offset length fin).2.1 = flow' at h ⊢
  generalize (quicStreamOnData stream flow offset length fin).2.2.1 = status at h
  cases h with
  | refused _ => exact ⟨_, hf.received, rfl⟩
  | counted _ _ _ hflow _ =>
    rw [quicFlowOnReceived_eq hf] at hflow
    split at hflow
    · rename_i hroom
      cases hflow
      exact ⟨_, hroom, rfl⟩
    · cases hflow

/-- A STREAM frame that is refused for flow control is above the limit of its stream, or takes
the account of the connection above its limit. -/
lemma overrun_of_flowError {f : StreamFrame} (hf : flow.Sound)
    (h : refusalOf stream flow (.stream f) = some quicFlowControlError) :
    stream.maxStreamData < f.offset + f.data.length ∨
      flow.maxData < flow.dataReceived + (f.offset + f.data.length - stream.recvHighest) := by
  have hwrap : ∀ a b, u64Add a b ≤ a + b := fun a b => Nat.mod_le _ _
  have harrival := quicStreamOnData_arrival stream flow f.offset f.data.length f.fin
  have hreceived : ∃ n ≤ flow.maxData, (quicStreamOnData stream flow f.offset f.data.length
      f.fin).2.1 = { flow with dataReceived := n } := quicStreamOnData_flow hf
  simp only [refusalOf] at h
  split at h
  · cases h
  have herror := Option.some.inj h
  generalize (quicStreamOnData stream flow f.offset f.data.length f.fin).1 = stream' at harrival herror
  generalize (quicStreamOnData stream flow f.offset f.data.length f.fin).2.1 = flow'
    at harrival hreceived herror
  unfold streamDataError at herror
  split at herror
  · cases herror
  simp only [credit_eq] at herror
  split at herror
  · rename_i hover
    cases harrival with
    | refused _ =>
      exact hover.imp_right fun hflow => hflow.trans_le (hwrap _ _)
    | counted _ hlimit hhighest _ _ =>
      obtain ⟨n, hn, rfl⟩ := hreceived
      rcases hover with hstream | hflow
      · rw [hlimit] at hstream
        exact .inl hstream
      · -- The bytes have been counted, and are not counted again.
        rw [Nat.sub_eq_zero_of_le hhighest] at hflow
        exact absurd (hflow.trans_le (hwrap _ _)) (not_lt.mpr hn)
  · cases herror

end Account

/-! ## What is advertised -/

/-- A MAX_DATA has gone out: a packet carried it, or repeated the bytes that a slot kept of
it. -/
def OnWire (c : Connection) (maximum : ℕ) : Prop :=
  ∃ space n frame payload, .sent space n frame payload ∈ c.trace ∧
    (frame = some (.maxData maximum) ∨ frame = none ∧ retainedWire (.maxData maximum) = some payload)

/-- The frames that announce at most a limit. -/
def AnnouncesAtMost (limit : ℕ) (frame : Frame) : Prop :=
  ∀ maximum, frame = .maxData maximum → maximum ≤ limit

/-- What holds of the connection limit as long as it is advertised as it is enforced. -/
structure Advertised (c : Connection) : Prop where
  tracked : c.Tracked
  same : c.flow.maxData = c.localMaxData
  wired : c.Wired (AnnouncesAtMost c.flow.maxData)
  received : c.flow.dataReceived ≤ c.flow.maxData
  limit : c.flow.maxData < 2 ^ 63
  window : c.flow.window < 2 ^ 63
  unset : c.localMaxDataSet = false → c.flow.maxData = 0 ∧ c.flow.window = 0

section Advertised

variable {env : Env} {F G : Frame → Prop} {c c' : Connection}

lemma Advertised.sound (h : Advertised c) : c.flow.Sound :=
  ⟨h.received, h.limit.trans (by decide)⟩

lemma Advertised.onWire_le (h : Advertised c) {maximum : ℕ} (hwire : OnWire c maximum) :
    maximum ≤ c.flow.maxData := by
  obtain ⟨space, n, frame, payload, hsent, hframe⟩ := hwire
  rcases h.wired.sent space n frame payload hsent with ⟨f, hf, hbound⟩ | ⟨hnone, f, hbound, hkept⟩
  · rcases hframe with hframe | ⟨hframe, -⟩
    · rw [hframe] at hf
      cases hf
      exact hbound maximum rfl
    · rw [hframe] at hf
      cases hf
  · rcases hframe with hframe | ⟨-, hpayload⟩
    · rw [hnone] at hframe
      cases hframe
    · exact hbound maximum (eq_of_retainedWire_maxData hkept hpayload)

lemma Connection.Wired.mono (h : c.Wired F) (hFG : ∀ f, F f → G f) : c.Wired G := by
  refine ⟨?_, ?_⟩
  · intro slot wire hkept
    obtain ⟨f, hf, hwire⟩ := h.slots slot wire hkept
    exact ⟨f, hFG f hf, hwire⟩
  · intro space n frame payload hsent
    rcases h.sent space n frame payload hsent with ⟨f, hf, hF⟩ | ⟨hnone, f, hF, hwire⟩
    · exact .inl ⟨f, hf, hFG f hF⟩
    · exact .inr ⟨hnone, f, hFG f hF, hwire⟩

lemma AnnouncesAtMost.mono {limit limit' : ℕ} (hle : limit ≤ limit') (frame : Frame)
    (h : AnnouncesAtMost limit frame) : AnnouncesAtMost limit' frame :=
  fun maximum hframe => (h maximum hframe).trans hle

lemma AnnouncesAtMost.of_ne {limit : ℕ} {frame : Frame} (h : ∀ maximum, frame ≠ .maxData maximum) :
    AnnouncesAtMost limit frame :=
  fun maximum hframe => absurd hframe (h maximum)

/-- Quiet changes keep the limit advertised as it is enforced, when no MAX_DATA goes above
it. -/
lemma Advertised.quiet (h : Advertised c) (hquiet : Quiet env (AnnouncesAtMost c.flow.maxData) c c') :
    Advertised c' := by
  have hout := hquiet.outside
  have hflow : c'.flow = c.flow := congrArg Outside.flow hout
  have hlocal : c'.localMaxData = c.localMaxData := congrArg Outside.localMaxData hout
  have hset : c'.localMaxDataSet = c.localMaxDataSet := congrArg Outside.localMaxDataSet hout
  have hwired := hquiet.wired h.wired
  refine ⟨hquiet.reaches.tracked h.tracked, ?_, ?_, ?_, ?_, ?_, ?_⟩
  · rw [hflow, hlocal]
    exact h.same
  · rw [hflow]
    exact hwired
  · rw [hflow]
    exact h.received
  · rw [hflow]
    exact h.limit
  · rw [hflow]
    exact h.window
  · rw [hset, hflow]
    exact h.unset

/-- A change of what has no part in the connection limit of the receiving side. -/
structure LeavesLimit (c c' : Connection) : Prop where
  sending : c.SameSending c'
  flow : ∃ sent peerMaximum, c'.flow = { c.flow with dataSent := sent, peerMaxData := peerMaximum }
  announced : c'.localMaxData = c.localMaxData
  isSet : c'.localMaxDataSet = c.localMaxDataSet
  kept : c'.kept = c.kept
  trace : c'.trace = c.trace

/-- The limit stays advertised as it is enforced when it has no part in a change. -/
lemma Advertised.other (h : Advertised c) (hother : LeavesLimit c c') : Advertised c' := by
  obtain ⟨sent, peerMaximum, hflow⟩ := hother.flow
  refine ⟨h.tracked.other hother.sending, ?_, ?_, ?_, ?_, ?_, ?_⟩
  · rw [hflow, hother.announced]
    exact h.same
  · rw [hflow]
    exact h.wired.congr hother.kept hother.trace
  · rw [hflow]
    exact h.received
  · rw [hflow]
    exact h.limit
  · rw [hflow]
    exact h.window
  · rw [hother.isSet, hflow]
    exact h.unset

lemma Advertised.setStreams (h : Advertised c) (streams : StreamTable) :
    Advertised { c with streams := streams } :=
  h.other ⟨.of_eq rfl rfl, ⟨_, _, rfl⟩, rfl, rfl, rfl, rfl⟩

lemma Advertised.receive (h : Advertised c) {n : ℕ} (hn : n ≤ c.flow.maxData) (streams : StreamTable) :
    Advertised { c with streams := streams, flow := { c.flow with dataReceived := n } } :=
  ⟨h.tracked.other (.of_eq rfl rfl), h.same, h.wired.congr rfl rfl, hn, h.limit, h.window, h.unset⟩

lemma Advertised.closeWith (h : Advertised c) (errorCode frameType now : ℕ) :
    Advertised (closeWith c errorCode frameType now).1 := by
  have htables := closeWith_tables c errorCode frameType now
  refine h.other ⟨htables.sending, ⟨_, _, closeWith_flow _ _ _ _⟩, ?_, ?_,
    Connection.kept_congr htables.controlFrames, htables.trace⟩
  · unfold WebTransport.closeWith quicConnectionClose
    split <;> rfl
  · unfold WebTransport.closeWith quicConnectionClose
    split <;> rfl

/-- A limit that is not refused is not below the one that is set. -/
lemma Advertised.le_setMaxData (h : Advertised c) {maximum : ℕ}
    (hlower : ¬(c.localMaxDataSet = true ∧ maximum < c.localMaxData)) : c.flow.maxData ≤ maximum := by
  cases hset : c.localMaxDataSet with
  | false =>
    rw [(h.unset hset).1]
    exact Nat.zero_le _
  | true =>
    rw [h.same]
    exact not_lt.mp fun hlt => hlower ⟨hset, hlt⟩

lemma Advertised.setMaxData (h : Advertised c) {maximum : ℕ} (hmax : maximum < 2 ^ 63) :
    Advertised (quicConnectionSetMaxData maximum c).1 := by
  unfold quicConnectionSetMaxData
  split
  · exact h
  rename_i hlower
  have hraise := h.le_setMaxData hlower
  refine ⟨h.tracked.other (.of_eq rfl rfl), rfl, ?_, h.received.trans hraise, hmax, hmax, ?_⟩
  · have hwired : c.Wired (AnnouncesAtMost maximum) := h.wired.mono (AnnouncesAtMost.mono hraise)
    exact hwired.congr rfl rfl
  · intro hset
    cases hset

/-- Announcing a limit that is not above the one that is set. -/
lemma Advertised.sendMaxData (h : Advertised c) {fuel maximum now : ℕ} {status : Status}
    (hmax : c.localMaxDataSet = true → maximum ≤ c.localMaxData)
    (hcall : quicConnectionSendMaxData env fuel maximum now c = some (c', status)) :
    Advertised c' := by
  unfold quicConnectionSendMaxData at hcall
  split at hcall
  · cases hcall
    exact h
  rename_i hset
  split at hcall
  · cases hcall
    exact h
  rename_i hlower
  have hsame : maximum = c.localMaxData :=
    le_antisymm (hmax (by simpa using hset)) (not_lt.mp hlower)
  have hannounce : AnnouncesAtMost c.flow.maxData (.maxData maximum) := by
    intro maximum' heq
    cases heq
    rw [h.same, hsame]
  split at hcall
  · cases hcall
  · rename_i c₁ heq
    cases hcall
    have hquiet := sendControlFrame_quietly _ _ hannounce _ _ _ _ _ heq
    have h₁ := h.quiet hquiet
    have hlocal : c₁.localMaxData = c.localMaxData := congrArg Outside.localMaxData hquiet.outside
    exact h₁.other ⟨.of_eq rfl rfl, ⟨_, _, rfl⟩, hsame.trans hlocal.symm, rfl, rfl, rfl⟩
  · rename_i c₁ status₁ _ heq
    cases hcall
    exact h.quiet (sendControlFrame_quietly _ _ hannounce _ _ _ _ _ heq)

lemma Advertised.grantMaxData (h : Advertised c) {fuel now : ℕ}
    (hgrant : grantMaxData env fuel now c = some c') : Advertised c' := by
  unfold WebTransport.grantMaxData at hgrant
  split at hgrant
  · cases hgrant
    exact h
  rename_i hextend
  have hreached : c.flow.dataReceived = c.flow.maxData := by
    have hle : c.flow.maxData ≤ c.flow.dataReceived := by simpa [quicFlowShouldExtend] using hextend
    exact le_antisymm h.received hle
  have hnext : quicFlowNextMaxData c.flow = c.flow.maxData + c.flow.window := by
    have hlimit := h.limit
    have hwindow := h.window
    unfold quicFlowNextMaxData
    rw [hreached, u64Add_of_lt]
    omega
  simp only at hgrant
  split at hgrant
  · cases hgrant
  · rename_i c₁ heq
    cases hgrant
    have hlimit := lt_of_le_of_lt (le_of_sent_maxData heq) (by decide : quicVarintMax < 2 ^ 63)
    rw [hnext] at heq hlimit ⊢
    have hraise : c.flow.maxData ≤ c.flow.maxData + c.flow.window := Nat.le_add_right _ _
    have hannounce : AnnouncesAtMost (c.flow.maxData + c.flow.window)
        (.maxData (c.flow.maxData + c.flow.window)) := by
      intro maximum hframe
      cases hframe
      exact le_rfl
    have hquiet := sendOneFrame_quietly _ _ hannounce _ _ _ _ _ _ heq
    have hout := hquiet.outside
    have hflow : c₁.flow = c.flow := congrArg Outside.flow hout
    have hset : c₁.localMaxDataSet = c.localMaxDataSet := congrArg Outside.localMaxDataSet hout
    have hwired := hquiet.wired (h.wired.mono (AnnouncesAtMost.mono hraise))
    have hsent : quicFlowOnMaxDataSent c₁.flow (c.flow.maxData + c.flow.window) =
        { c.flow with maxData := c.flow.maxData + c.flow.window } := by
      rw [hflow]
      unfold quicFlowOnMaxDataSent
      split
      · rfl
      · rename_i hsame
        have hzero : c.flow.window = 0 := by omega
        rw [hzero]
        rfl
    rw [hsent]
    refine ⟨(hquiet.reaches.tracked h.tracked).other (.of_eq rfl rfl), rfl,
      hwired.congr rfl rfl, h.received.trans hraise, hlimit, h.window, ?_⟩
    intro hunset
    obtain ⟨hmax, hwindow⟩ := h.unset (hset.symm.trans hunset)
    refine ⟨?_, hwindow⟩
    simp only [hmax, hwindow]
  · rename_i c₁ status hne heq
    cases hgrant
    refine h.quiet (sendOneFrame_failed ?_ h.tracked heq ?_)
    · exact .of_ne fun _ h => by cases h
    · exact hne

lemma Advertised.grantMaxStreamData (h : Advertised c) {fuel streamId now : ℕ}
    (hgrant : grantMaxStreamData env fuel streamId now c = some c') : Advertised c' := by
  unfold WebTransport.grantMaxStreamData at hgrant
  split at hgrant
  · cases hgrant
    exact h
  split at hgrant
  · cases hgrant
    exact h
  rename_i stream _ _
  have hannounce : AnnouncesAtMost c.flow.maxData
      (.maxStreamData streamId (quicStreamNextMaxStreamData stream)) :=
    .of_ne fun _ h => by cases h
  simp only at hgrant
  split at hgrant
  · cases hgrant
  · rename_i c₁ heq
    cases hgrant
    exact (h.quiet (sendOneFrame_quietly _ _ hannounce _ _ _ _ _ _ heq)).setStreams _
  · rename_i c₁ status _ heq
    cases hgrant
    exact h.quiet (sendOneFrame_quietly _ _ hannounce _ _ _ _ _ _ heq)

lemma Advertised.visitStream (h : Advertised c) {fuel : ℕ} {visit : Visit} {frame : Frame}
    {stream : Stream} {reply : VisitReply}
    (hvisit : visitStream env fuel visit frame stream c = some (c', reply)) : Advertised c' := by
  have hset : ∀ s, Advertised { c with streams := c.streams.setStream s } :=
    fun s => h.setStreams _
  have hdeliver : ∀ c₁, Advertised c₁ → Advertised (deliverToHandler c₁).1 :=
    fun c₁ h₁ => h₁.other ⟨.of_eq rfl rfl, ⟨_, _, rfl⟩, rfl, rfl, rfl, rfl⟩
  unfold WebTransport.visitStream at hvisit
  split at hvisit
  · split at hvisit
    · cases hvisit
      exact hdeliver _ (hset _)
    · cases hvisit
      exact (hset _).closeWith _ _ _
  · split at hvisit
    · cases hvisit
      exact hdeliver _ (hset _)
    · cases hvisit
      exact (hset _).closeWith _ _ _
  · cases hvisit
    exact hdeliver _ (hset _)
  · rename_i f
    -- The bytes fit under the limit, or the frame is refused; then the grants follow.
    have harrive : ∀ stream' flow' status arrival,
        quicStreamOnData stream c.flow f.offset f.data.length f.fin =
          (stream', flow', status, arrival) →
        Advertised { c with streams := c.streams.setStream stream', flow := flow' } := by
      intro stream' flow' status arrival heq
      obtain ⟨n, hn, hflow⟩ : ∃ n ≤ c.flow.maxData, (quicStreamOnData stream c.flow f.offset
          f.data.length f.fin).2.1 = { c.flow with dataReceived := n } :=
        quicStreamOnData_flow h.sound
      rw [heq] at hflow
      simp only at hflow
      rw [hflow]
      exact h.receive hn _
    unfold visitStreamData at hvisit
    split at hvisit
    · rename_i heq
      split at hvisit
      · cases hvisit
      rename_i c₁ hdata
      split at hvisit
      · cases hvisit
      rename_i c₂ hstream
      cases hvisit
      exact hdeliver _ (((harrive _ _ _ _ heq).grantMaxData hdata).grantMaxStreamData hstream)
    · rename_i heq
      cases hvisit
      exact (harrive _ _ _ _ heq).closeWith _ _ _
  · split at hvisit
    · cases hvisit
      exact hdeliver _ (hset _)
    · cases hvisit
      exact h.closeWith _ _ _
  · cases hvisit
    exact hdeliver _ h

lemma Advertised.ensurePeerStream (h : Advertised c) (streamId frameType now : ℕ) :
    Advertised (ensurePeerStream streamId frameType now c).1 := by
  rw [ensurePeerStream_eq]
  split
  · exact h
  split
  · exact h.closeWith _ _ _
  split
  · exact h.closeWith _ _ _
  split
  · split
    · exact h.setStreams _
    · exact h.setStreams _
  · exact h.setStreams _

lemma Advertised.visitStreamFrame (h : Advertised c) {fuel streamId : ℕ} {visit : Visit}
    {frame : Frame} {reply : VisitReply}
    (hvisit : visitStreamFrame env fuel visit streamId frame c = some (c', reply)) :
    Advertised c' := by
  have hensure := h.ensurePeerStream streamId (wireTypeOf frame) visit.now
  unfold WebTransport.visitStreamFrame at hvisit
  split at hvisit
  · rename_i heq
    rw [heq] at hensure
    exact hensure.visitStream hvisit
  · rename_i heq
    rw [heq] at hensure
    cases hvisit
    exact hensure.other ⟨.of_eq rfl rfl, ⟨_, _, rfl⟩, rfl, rfl, rfl, rfl⟩
  · rename_i heq
    rw [heq] at hensure
    cases hvisit
    exact hensure

lemma Advertised.actOnFrame (h : Advertised c) {fuel : ℕ} {visit : Visit} {frame : Frame}
    {reply : VisitReply} (hframe : frameStreamId frame = none)
    (hvisit : actOnFrame env fuel visit frame c = some (c', reply)) : Advertised c' := by
  have hraise : ∀ granted maximum limits frameType, Advertised (raiseLimit granted maximum
      { c with peerLimits := limits } frameType visit.now c).1 := by
    intro granted maximum limits frameType
    unfold raiseLimit
    split
    · exact h.closeWith _ _ _
    · exact h.other ⟨.of_eq rfl rfl, ⟨_, _, rfl⟩, rfl, rfl, rfl, rfl⟩
  cases hlimit : raisesLimit frame with
  | true =>
    unfold WebTransport.actOnFrame at hvisit
    split at hvisit
    case h_5 | h_6 | h_7 =>
      cases hvisit
      exact hraise _ _ _ _
    all_goals cases hlimit
  | false =>
    cases hclose : closesFromPeer frame with
    | false =>
      refine h.quiet (actOnFrame_quiet ⟨?_, ?_⟩ hframe hlimit hclose hvisit)
      · exact fun _ => .of_ne fun _ h => by cases h
      · exact fun _ => .of_ne fun _ h => by cases h
    | true =>
      unfold WebTransport.actOnFrame at hvisit
      split at hvisit
      case h_3 | h_4 =>
        cases hvisit
        exact h.other ⟨.of_eq rfl rfl, ⟨_, _, rfl⟩, rfl, rfl, rfl, rfl⟩
      all_goals cases hclose

lemma Advertised.visitFrame (h : Advertised c) {fuel : ℕ} {visit : Visit} {frame : Frame}
    {reply : VisitReply} (hvisit : visitFrame env fuel visit frame c = some (c', reply)) :
    Advertised c' := by
  have hcount : Advertised (countFrame frame c) :=
    h.other ⟨.of_eq rfl rfl, ⟨_, _, rfl⟩, rfl, rfl, rfl, rfl⟩
  unfold WebTransport.visitFrame at hvisit
  simp only at hvisit
  split at hvisit
  · cases hvisit
    exact hcount
  split at hvisit
  · cases hvisit
    exact hcount.closeWith _ _ _
  cases hframe : frameStreamId frame with
  | some streamId =>
    rw [actOnFrame_of_streamId hframe] at hvisit
    exact hcount.visitStreamFrame hvisit
  | none => exact hcount.actOnFrame hframe hvisit

end Advertised

/-! ## Peers that keep to what was advertised -/

/-- The stream whose account a STREAM frame is held against: the one in the table, or the one
that the frame opens. -/
def accountedStream (c : Connection) (streamId : ℕ) : Stream :=
  (quicStreamTableFind c.streams streamId).getD (freshPeerStream c streamId)

/-- A STREAM frame keeps to the limit of its stream, and takes the account of the connection no
further than a maximum. -/
structure StaysWithin (c : Connection) (f : StreamFrame) (maximum : ℕ) : Prop where
  stream : f.offset + f.data.length ≤ (accountedStream c f.id).maxStreamData
  data : c.flow.dataReceived + (f.offset + f.data.length - (accountedStream c f.id).recvHighest) ≤
    maximum

/-- What is advertised is what is enforced: the limit held against arriving bytes is the one
announced last and covers every MAX_DATA that has gone out, and a frame that closes the
connection with FLOW_CONTROL_ERROR is from a peer that did not stay within any of them. -/
structure Enforced (env : Env) (c : Connection) : Prop where
  same : c.flow.maxData = c.localMaxData
  covers : ∀ maximum, OnWire c maximum → maximum ≤ c.flow.maxData
  spares : ∀ fuel visit frame c' reply, quicConnectionIsClosed c = false →
    closesFromPeer frame = false → visitFrame env fuel visit frame c = some (c', reply) →
      c'.close.kind = .transport → c'.close.errorCode = quicFlowControlError →
        ∃ f, frame = .stream f ∧ ∀ maximum, OnWire c maximum → ¬StaysWithin c f maximum

section Peer

variable {env : Env} {fuel streamId : ℕ} {visit : Visit} {frame : Frame} {c c' c₁ : Connection}
  {reply : VisitReply}

/-- Looking up the stream a frame names never closes the connection for flow control. -/
lemma ensurePeerStream_flowError (hopen : c.close.fault = none) (frameType now : ℕ) :
    (ensurePeerStream streamId frameType now c).1.close.fault ≠ some quicFlowControlError := by
  have hsame : c.close.fault ≠ some quicFlowControlError := by
    rw [hopen]
    exact fun h => by cases h
  rw [ensurePeerStream_eq]
  split
  · exact hsame
  split
  · exact closeWith_fault_ne (by decide) hsame _ _
  split
  · exact closeWith_fault_ne (by decide) hsame _ _
  split
  · split
    · exact hsame
    · exact hsame
  · exact hsame

/-- The stream that is found is the one whose account counts. -/
lemma ensurePeerStream_accounted (ht : c.streams.ids.Nodup) (htakes : visit.Takes c)
    (hnames : frameStreamId frame = some streamId) {frameType now : ℕ} {stream : Stream}
    (h : ensurePeerStream streamId frameType now c = (c₁, .ok, some stream)) :
    stream = accountedStream c streamId ∧ c₁.flow = c.flow ∧ c₁.close = c.close := by
  unfold accountedStream
  cases hfind : quicStreamTableFind c.streams streamId with
  | some known =>
    rw [ensurePeerStream_eq, hfind] at h
    cases h
    exact ⟨rfl, rfl, rfl⟩
  | none =>
    by_cases hopens : Opens visit frame c streamId
    · obtain ⟨slot, -, -, heq, -⟩ := ensurePeerStream_of_opens ht hopens frameType now
      rw [heq] at h
      cases h
      exact ⟨rfl, rfl, rfl⟩
    · have hnone := (ensurePeerStream_of_not_opens htakes hnames hfind hopens frameType now).1
      rw [h] at hnone
      cases hnone

/-- Only a STREAM frame is refused for flow control. -/
lemma eq_stream_of_flowError {stream : Stream} {flow : Flow}
    (h : refusalOf stream flow frame = some quicFlowControlError) : ∃ f, frame = .stream f := by
  unfold refusalOf at h
  split at h
  · split at h <;> cases h
  · split at h
    · cases h
    · split at h <;> cases h
  · exact ⟨_, rfl⟩
  · split at h <;> cases h
  · cases h

/-- A frame that closes the connection for flow control does not stay within what is
enforced. -/
theorem not_staysWithin_of_flowError (h : Advertised c) (ht : c.streams.ids.Nodup)
    (hopen : quicConnectionIsClosed c = false) (hpeer : closesFromPeer frame = false)
    (hvisit : visitFrame env fuel visit frame c = some (c', reply))
    (hfault : c'.close.fault = some quicFlowControlError) :
    ∃ f, frame = .stream f ∧ ∀ maximum ≤ c.flow.maxData, ¬StaysWithin c f maximum := by
  have hnone : (countFrame frame c).close.fault = none :=
    fault_of_open (c := countFrame frame c) hopen
  have hbefore : (countFrame frame c).close.fault ≠ some quicFlowControlError := by
    rw [hnone]
    exact fun h => by cases h
  have hignored : frameIgnored frame (countFrame frame c) = false := by
    simp [frameIgnored, hopen]
  unfold visitFrame at hvisit
  simp only [hignored, Bool.false_eq_true, if_false] at hvisit
  split at hvisit
  · cases hvisit
    exact absurd hfault (closeWith_fault_ne (by decide) hbefore _ _)
  rename_i hallowed
  cases hframe : frameStreamId frame with
  | none =>
    cases hlimit : raisesLimit frame with
    | false =>
      have hquiet : Quiet env (fun _ => True) (countFrame frame c) c' :=
        actOnFrame_quiet ⟨fun _ => trivial, fun _ => trivial⟩ hframe hlimit hpeer hvisit
      rw [hquiet.fault] at hfault
      exact absurd hfault hbefore
    | true =>
      obtain ⟨limits, hout, -⟩ := actOnFrame_of_limit hlimit hvisit
      have hsame : c'.close.fault = (countFrame frame c).close.fault := congrArg Outside.fault hout
      rw [hsame] at hfault
      exact absurd hfault hbefore
  | some streamId =>
    have htakes : visit.Takes c := takes_of_acted hframe hignored (by simpa using hallowed)
    have htakes' : visit.Takes (countFrame frame c) := ⟨htakes.1, htakes.2⟩
    rw [actOnFrame_of_streamId hframe] at hvisit
    have hlookup : (ensurePeerStream streamId (wireTypeOf frame) visit.now
        (countFrame frame c)).1.close.fault ≠ some quicFlowControlError :=
      ensurePeerStream_flowError hnone _ _
    unfold visitStreamFrame at hvisit
    split at hvisit
    · rename_i c₁ stream heq
      obtain ⟨rfl, hflow, hclose⟩ := ensurePeerStream_accounted (c := countFrame frame c) ht htakes'
        hframe heq
      have hrefusal := visitStream_fault (by rw [hclose]; exact hbefore) hvisit hfault
      obtain ⟨f, rfl⟩ := eq_stream_of_flowError hrefusal
      cases hframe
      have hflow : c₁.flow = c.flow := hflow
      rw [hflow] at hrefusal
      have hover := overrun_of_flowError h.sound hrefusal
      refine ⟨f, rfl, ?_⟩
      intro maximum hle hwithin
      rcases hover with hstream | hdata
      · exact absurd hwithin.stream (not_le.mpr hstream)
      · exact absurd (hwithin.data.trans hle) (not_le.mpr hdata)
    · rename_i c₁ heq
      rw [heq] at hlookup
      cases hvisit
      exact absurd hfault hlookup
    · rename_i c₁ status _ _ _ heq
      rw [heq] at hlookup
      cases hvisit
      exact absurd hfault hlookup

lemma Advertised.enforced (h : Advertised c) (ht : c.streams.ids.Nodup) : Enforced env c := by
  refine ⟨h.same, fun _ => h.onWire_le, ?_⟩
  intro fuel visit frame c' reply hopen hpeer hvisit hkind hcode
  have hfault := (fault_eq_some (by decide)).mpr ⟨hkind, hcode⟩
  obtain ⟨f, hframe, hover⟩ := not_staysWithin_of_flowError h ht hopen hpeer hvisit hfault
  exact ⟨f, hframe, fun maximum hwire => hover maximum (h.onWire_le hwire)⟩

end Peer

/-! ## Runs -/

/-- What happens in a step: the limit of the receiving side is set or announced, a frame arrives,
or something else. -/
inductive LimitAct
  | setMaxData (maximum : ℕ)
  | sendMaxData (maximum : ℕ)
  | frame (visit : Visit) (frame : Frame)
  | other

/-- A step of a connection: the limit is set or announced, a frame arrives, packets without a
MAX_DATA are sent and declared lost, or something changes that has no part in the limit. -/
inductive LimitStep (env : Env) (c : Connection) : LimitAct → Connection → Prop
  | setMaxData (maximum : ℕ) :
      LimitStep env c (.setMaxData maximum) (quicConnectionSetMaxData maximum c).1
  | sendMaxData {fuel maximum now : ℕ} {c' : Connection} {status : Status}
      (h : quicConnectionSendMaxData env fuel maximum now c = some (c', status)) :
      LimitStep env c (.sendMaxData maximum) c'
  | frame {fuel : ℕ} {visit : Visit} {frame : Frame} {c' : Connection} {reply : VisitReply}
      (h : visitFrame env fuel visit frame c = some (c', reply)) :
      LimitStep env c (.frame visit frame) c'
  | quiet {c' : Connection} (h : Quiet env (fun f => ∀ maximum, f ≠ .maxData maximum) c c') :
      LimitStep env c .other c'
  | other {c' : Connection} (h : LeavesLimit c c')
      (hstreams : c.streams.Orderly → c'.streams.Orderly) : LimitStep env c .other c'

/-- The runs of a connection in which every step meets a condition. -/
inductive LimitRun (env : Env) (Meets : LimitAct → Connection → Prop) : Connection → Prop
  | init {config : ConnectionConfig} {c : Connection} (h : quicConnectionInit config = .ok c) :
      LimitRun env Meets c
  | step {act : LimitAct} {c c' : Connection} (h : LimitRun env Meets c)
      (hstep : LimitStep env c act c') (hmeets : Meets act c) : LimitRun env Meets c'

/-- No limit above the one that is set is announced, and none is set whose double exceeds
64 bits. -/
def KeepsToLimit (act : LimitAct) (c : Connection) : Prop :=
  match act with
  | .setMaxData maximum => maximum < 2 ^ 63
  | .sendMaxData maximum => c.localMaxDataSet = true → maximum ≤ c.localMaxData
  | .frame .. | .other => True

section Runs

variable {env : Env} {c c' : Connection} {act : LimitAct}

lemma Quiet.mono {F G : Frame → Prop} (hFG : ∀ f, F f → G f) (h : Quiet env F c c') :
    Quiet env G c c' := by
  refine Relation.ReflTransGen.mono ?_ _ _ h
  intro c₁ c₂ hstep
  cases hstep with
  | other h hout hkept htrace => exact .other h hout hkept htrace
  | report event h => exact .report event h
  | keep slot hframe hwire => exact .keep slot (hFG _ hframe) hwire
  | release slot h => exact .release slot h
  | protect o h =>
    refine .protect o ?_
    unfold Connection.Sends at h ⊢
    split at h
    · exact hFG _ h
    · exact h
  | remove h => exact .remove h
  | sample space rtt h => exact .sample space rtt h
  | resample space rtt h => exact .resample space rtt h

lemma quicConnectionInit_advertised {config : ConnectionConfig}
    (h : quicConnectionInit config = .ok c) : Advertised c ∧ c.streams.Orderly := by
  have htracked := quicConnectionInit_tracked h
  obtain ⟨hstreams, -⟩ := quicConnectionInit_streams h
  unfold quicConnectionInit at h
  split at h
  · cases h
  split at h
  · cases h
  cases h
  have hzero : 0 < 2 ^ 63 := by decide
  refine ⟨⟨htracked, rfl, ⟨?_, ?_⟩, le_rfl, hzero, hzero, fun _ => ⟨rfl, rfl⟩⟩, ?_⟩
  · intro slot wire hkept
    cases hkept
  · intro space n frame payload hsent
    cases hsent
  · rw [hstreams]
    exact ⟨by decide, by decide⟩

lemma LimitStep.advertised (hstep : LimitStep env c act c') (hmeets : KeepsToLimit act c)
    (h : Advertised c) : Advertised c' := by
  cases hstep with
  | setMaxData maximum => exact h.setMaxData hmeets
  | sendMaxData hcall => exact h.sendMaxData hmeets hcall
  | frame hvisit => exact h.visitFrame hvisit
  | quiet hquiet => exact h.quiet (hquiet.mono fun _ => .of_ne)
  | other hother _ => exact h.other hother

/-- Announcing a limit changes what is announced alone, outside of sending, and raises it. -/
lemma quicConnectionSendMaxData_outside {fuel maximum now : ℕ} {status : Status}
    (h : quicConnectionSendMaxData env fuel maximum now c = some (c', status)) :
    ∃ announced, c'.outside = { c.outside with localMaxData := announced } ∧
      c.localMaxData ≤ announced := by
  unfold quicConnectionSendMaxData at h
  split at h
  · cases h
    exact ⟨_, rfl, le_rfl⟩
  split at h
  · cases h
    exact ⟨_, rfl, le_rfl⟩
  rename_i hlower
  split at h
  · cases h
  · rename_i c₁ heq
    cases h
    have hquiet := sendControlFrame_quietly (F := fun _ => True) _ _ trivial _ _ _ _ _ heq
    refine ⟨maximum, ?_, not_lt.mp hlower⟩
    rw [← hquiet.outside]
    rfl
  · rename_i c₁ status₁ _ heq
    cases h
    have hquiet := sendControlFrame_quietly (F := fun _ => True) _ _ trivial _ _ _ _ _ heq
    exact ⟨_, hquiet.outside, le_rfl⟩

lemma LimitStep.orderly (hstep : LimitStep env c act c') (ht : c.streams.Orderly) :
    c'.streams.Orderly := by
  cases hstep with
  | setMaxData maximum =>
    unfold quicConnectionSetMaxData
    split
    · exact ht
    · exact ht
  | sendMaxData hcall =>
    obtain ⟨announced, hout, -⟩ := quicConnectionSendMaxData_outside hcall
    have hstreams : c'.streams = c.streams := congrArg Outside.streams hout
    rw [hstreams]
    exact ht
  | frame hvisit => exact visitFrame_orderly ht hvisit
  | quiet hquiet =>
    rw [hquiet.streams]
    exact ht
  | other _ hstreams => exact hstreams ht

lemma LimitRun.advertised (h : LimitRun env KeepsToLimit c) : Advertised c ∧ c.streams.Orderly := by
  induction h with
  | init h => exact quicConnectionInit_advertised h
  | step h hstep hmeets ih => exact ⟨hstep.advertised hmeets ih.1, hstep.orderly ih.2⟩

/-- In every run that keeps to the limit that is set, what is advertised is what is enforced. -/
theorem advertised_limit_enforced (h : LimitRun env KeepsToLimit c) : Enforced env c := by
  obtain ⟨hadvertised, horderly⟩ := h.advertised
  exact hadvertised.enforced horderly.distinct

end Runs

/-! ## A limit that is announced again, and one that is announced too early -/

section Announced

/-- A server that grants its peer 16 bytes on a stream. -/
def roomyServer : Connection :=
  { twoStreamServer with config := { serverConfig with localMaxStreamData := 16 } }

/-- The server with a limit of 4 bytes in all. -/
def limitedServer : Connection := (quicConnectionSetMaxData 4 roomyServer).1

/-- The server after it has announced a limit. -/
def announced (maximum : ℕ) : Connection :=
  ((quicConnectionSendMaxData steadyEnv 1 maximum 0 limitedServer).map Prod.fst).getD limitedServer

/-- Six bytes at the start of the peer's first stream. -/
def sixBytes : StreamFrame :=
  { id := 0, offset := 0, hasOffset := false, fin := false, hasLength := true,
    data := List.replicate 6 0 }

lemma limitedServer_run {Meets : LimitAct → Connection → Prop} (hother : ∀ c, Meets .other c)
    (hset : Meets (.setMaxData 4) roomyServer) : LimitRun steadyEnv Meets limitedServer := by
  have hinit : quicConnectionInit { serverConfig with localMaxStreamData := 16 } = .ok
      { config := { serverConfig with localMaxStreamData := 16 }
        congestion := quicCongestionInit 1200
        aeadConfidentialityLimit := 2 ^ 23
        aeadIntegrityLimit := 2 ^ 52 } := rfl
  have hroomy : LimitRun steadyEnv Meets roomyServer :=
    (LimitRun.init hinit).step (.other ⟨.of_eq rfl rfl, ⟨0, 0, rfl⟩, rfl, rfl, rfl, rfl⟩
      fun h => h) (hother _)
  exact hroomy.step (.setMaxData 4) hset

lemma announced_run {Meets : LimitAct → Connection → Prop} {maximum : ℕ}
    (h : LimitRun steadyEnv Meets limitedServer) (hmeets : Meets (.sendMaxData maximum) limitedServer)
    (hsent : (quicConnectionSendMaxData steadyEnv 1 maximum 0 limitedServer).isSome = true) :
    LimitRun steadyEnv Meets (announced maximum) := by
  obtain ⟨⟨c', status⟩, hcall⟩ := Option.isSome_iff_exists.mp hsent
  have heq : announced maximum = c' := by
    unfold announced
    rw [hcall]
    rfl
  rw [heq]
  exact h.step (.sendMaxData hcall) hmeets

/-- Announcing the limit that is set. -/
theorem announced_again_enforced :
    OnWire (announced 4) 4 ∧ Enforced steadyEnv (announced 4) := by
  refine ⟨⟨.application, 0, some (.maxData 4), [0x10, 4, 0], by decide, .inl rfl⟩, ?_⟩
  have hlimited : LimitRun steadyEnv KeepsToLimit limitedServer :=
    limitedServer_run (fun _ => trivial) (by decide : 4 < 2 ^ 63)
  exact advertised_limit_enforced (announced_run hlimited (fun _ => by decide) (by decide))

/-- Announcing a limit without setting it: the peer is granted 8 bytes, sends 6 and is closed for
them. -/
theorem announced_early_not_enforced :
    LimitRun steadyEnv (fun _ _ => True) (announced 8) ∧ OnWire (announced 8) 8 ∧
      StaysWithin (announced 8) sixBytes 8 ∧
      (announced 8).flow.maxData = 4 ∧ (announced 8).localMaxData = 8 ∧
      (afterVisit (.stream sixBytes) (announced 8)).close.kind = .transport ∧
      (afterVisit (.stream sixBytes) (announced 8)).close.errorCode = quicFlowControlError ∧
      ¬Enforced steadyEnv (announced 8) := by
  refine ⟨?_, ⟨.application, 0, some (.maxData 8), [0x10, 8, 0], by decide, .inl rfl⟩,
    ⟨by decide, by decide⟩, by decide, by decide, by decide, by decide, ?_⟩
  · exact announced_run (limitedServer_run (fun _ => trivial) trivial) trivial (by decide)
  · intro h
    exact absurd h.same (by decide)

end Announced

end WebTransport
