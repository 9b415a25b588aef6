import WebTransport.Http3.QuicTransport

/-!
# Packet numbers on the wire

A packet number is part of the nonce that seals its packet, so no space may use one twice. Whatever
is received, written, refused by the socket, lost and sent again in a run, the numbers that go out
in a space ascend.
-/

namespace WebTransport

/-- The packet numbers among events of a connection that went out in a space. -/
def numbersOf (space : Space) (events : List ConnectionEvent) : List ℕ :=
  events.filterMap fun
    | .sent s n _ _ => if s = space then some n else none
    | _ => none

/-- The numbers that went out in a space ascend, and the next one is behind them. -/
structure Connection.NumbersAscend (c : Connection) : Prop where
  tracked : c.Tracked
  ascend : ∀ s, (numbersOf s c.trace).Pairwise (· < ·) ∧
    ∀ n ∈ numbersOf s c.trace, n < (c.spaces s).nextSend

section Steps

variable {env : Env} {F : Frame → Prop} {c c' : Connection}

lemma numbersOf_append (s : Space) (l l' : List ConnectionEvent) :
    numbersOf s (l ++ l') = numbersOf s l ++ numbersOf s l' :=
  List.filterMap_append

/-- A change that takes no number. -/
lemma Connection.NumbersAscend.congr (hc : c.NumbersAscend) (htracked : c'.Tracked)
    (htrace : ∀ s, numbersOf s c'.trace = numbersOf s c.trace)
    (hnext : ∀ s, (c'.spaces s).nextSend = (c.spaces s).nextSend) : c'.NumbersAscend :=
  ⟨htracked, fun s => by rw [htrace, hnext]; exact hc.ascend s⟩

/-- A change that takes the next number of a space, whether or not its packet goes out. -/
lemma Connection.NumbersAscend.numbered (hc : c.NumbersAscend) (htracked : c'.Tracked)
    {o : Outgoing} (hkept : c.Kept o c')
    (hroom : (c.spaces o.space).hasSent = true → (c.spaces o.space).nextSend ≤ quicPacketNumberMax)
    (hspaces : c'.spaces = Function.update c.spaces o.space (c.spaces o.space).numbered) :
    c'.NumbersAscend := by
  refine ⟨htracked, fun s => ?_⟩
  obtain ⟨hascend, hbelow⟩ := hc.ascend s
  have hnext := (hc.tracked.nextSend_numbered hroom).1
  by_cases h : s = o.space
  · subst h
    rw [hspaces, Function.update_self, hnext]
    rcases hkept.trace with htrace | htrace
    · rw [htrace]
      exact ⟨hascend, fun n hn => Nat.lt_succ_of_lt (hbelow n hn)⟩
    · have hnew : numbersOf o.space c'.trace =
          numbersOf o.space c.trace ++ [(c.spaces o.space).nextSend] := by
        rw [htrace, numbersOf_append]
        simp [numbersOf]
      rw [hnew, List.pairwise_append]
      refine ⟨⟨hascend, List.pairwise_singleton _ _, fun n hn m hm => ?_⟩, fun n hn => ?_⟩
      · rw [List.mem_singleton.mp hm]
        exact hbelow n hn
      · rcases List.mem_append.mp hn with hn | hn
        · exact Nat.lt_succ_of_lt (hbelow n hn)
        · rw [List.mem_singleton.mp hn]
          exact Nat.lt_succ_self _
  · have hsame : numbersOf s c'.trace = numbersOf s c.trace := by
      rcases hkept.trace with htrace | htrace
      · rw [htrace]
      · rw [htrace, numbersOf_append]
        simp [numbersOf, Ne.symm h]
    rw [hsame, hspaces, Function.update_of_ne h]
    exact hc.ascend s

/-- One change on the sending side. -/
lemma QuietStep.numbersAscend (h : QuietStep env F c c') (hc : c.NumbersAscend) :
    c'.NumbersAscend := by
  have htracked := h.sendStep.tracked hc.tracked
  cases h with
  | other hsame _ _ htrace =>
    refine hc.congr htracked (fun _ => by rw [htrace]) fun s => ?_
    obtain ⟨received, hspace⟩ := hsame.spaces s
    rw [hspace]
  | report event hreport =>
    refine hc.congr htracked (fun s => ?_) fun _ => rfl
    refine (numbersOf_append s c.trace [event]).trans ?_
    cases event with
    | sent => exact hreport.elim
    | declaredLost | lostFrame => exact List.append_nil _
  | keep | release | remove => exact hc.congr htracked (fun _ => rfl) fun _ => rfl
  | protect o _ =>
    have hend := sendProtected_end env o c
    generalize sendProtected env o c = r at hend htracked
    cases hend with
    | refused _ => exact hc
    | spent _ hkept _ _ hroom hspaces => exact hc.numbered htracked hkept hroom hspaces
    | recorded _ hkept _ _ _ hroom hspaces => exact hc.numbered htracked hkept hroom hspaces
  | sample space rtt | resample space rtt =>
    refine hc.congr htracked (fun _ => rfl) fun s => ?_
    by_cases h : s = space
    · subst h
      simp
    · simp [h]

/-- Changes on the sending side. -/
lemma Quiet.numbersAscend (h : Quiet env F c c') (hc : c.NumbersAscend) : c'.NumbersAscend := by
  induction h with
  | refl => exact hc
  | tail _ hstep ih => exact hstep.numbersAscend ih

/-- Changes that put no STREAM frame on the wire. -/
lemma Unstreamed.numbersAscend (h : Unstreamed env c c') (hc : c.NumbersAscend) :
    c'.NumbersAscend := by
  induction h with
  | refl => exact hc
  | tail _ hstep ih =>
    cases hstep with
    | quiet hquiet => exact hquiet.numbersAscend ih
    | beside hsame =>
      refine ih.congr (ih.tracked.other hsame.sending) (fun _ => by rw [hsame.trace]) fun s => ?_
      obtain ⟨received, hspace⟩ := hsame.sending.spaces s
      rw [hspace]

/-- A write of the transport. -/
lemma quicSendStream_numbersAscend {fuel streamId now : ℕ} {data : List UInt8} {fin : Bool}
    {status : Status} (h : quicSendStream env fuel streamId data fin now c = some (c', status))
    (hc : c.NumbersAscend) : c'.NumbersAscend := by
  have hsend : ∀ {offset c₁ s}, quicConnectionSendStream env fuel streamId offset data fin now c =
      some (c₁, s) → c₁.NumbersAscend := by
    intro offset c₁ s h
    unfold quicConnectionSendStream at h
    split_ifs at h
    · cases h
      exact hc
    · cases h
      exact hc
    · exact (sendOneFrame_quietly _ _ (F := fun _ => True) trivial _ _ _ _ _ _ h).numbersAscend hc
  unfold quicSendStream at h
  split at h
  · cases h
    exact hc
  split at h
  · cases h
  · rename_i c₁ heq
    have hrecord : Unstreamed env c₁ (recordSend streamId data.length fin c₁).1 :=
      recordSend_unstreamed _ _ _ _
    rw [Option.some.inj h] at hrecord
    exact hrecord.numbersAscend (hsend heq)
  · rename_i heq
    cases h
    exact hsend heq

variable {role : Role} {granted : List PeerGrant} {sent : List SentStream}
  {Meets : Role → List PeerGrant → List SentStream → Connection → TransportAct → Prop}

/-- **No space uses a packet number twice.** In every run of a connection under the driver, the
numbers that have gone out in a space ascend, are all below the one it uses next, and are at most
2^62 - 1. -/
theorem packet_numbers_used_once (h : TransportRun env role Meets granted sent c) (s : Space) :
    (numbersOf s c.trace).Pairwise (· < ·) ∧
      ∀ n ∈ numbersOf s c.trace, n < (c.spaces s).nextSend ∧ n ≤ quicPacketNumberMax := by
  have hc : c.NumbersAscend := by
    induction h with
    | @start config c _ hinit =>
      refine ⟨quicConnectionInit_tracked hinit, fun s => ?_⟩
      unfold quicConnectionInit at hinit
      split_ifs at hinit
      cases hinit
      exact ⟨List.Pairwise.nil, fun _ hn => absurd hn List.not_mem_nil⟩
    | step _ hstep _ ih =>
      cases hstep with
      | parameters limits =>
        exact ih.congr (ih.tracked.other (.of_eq rfl rfl)) (fun _ => rfl) fun _ => rfl
      | openStream bidirectional =>
        exact (quicOpenStream_unstreamed bidirectional _ : Unstreamed env _ _).numbersAscend ih
      | sendStream h => exact quicSendStream_numbersAscend h ih
      | receive h => exact (visitFrame_unstreamed h).numbersAscend ih
      | resetStream h => exact (quicConnectionResetStream_unstreamed h).numbersAscend ih
      | resetStreamAt h => exact (quicConnectionResetStreamAt_unstreamed h).numbersAscend ih
      | stopSending h => exact (quicConnectionStopSending_unstreamed h).numbersAscend ih
      | other h => exact h.numbersAscend ih
  obtain ⟨hascend, hbelow⟩ := hc.ascend s
  refine ⟨hascend, fun n hn => ?_⟩
  have hlt := hbelow n hn
  have hmax := hc.tracked.numbers s
  exact ⟨hlt, by omega⟩

/-- A server that writes uses number 0. -/
theorem packet_numbers_used_once_write : numbersOf .application (afterWrite 4).trace = [0] ∧
    (numbersOf .application (afterWrite 4).trace).Pairwise (· < ·) :=
  ⟨by decide +kernel, (packet_numbers_used_once (@afterWrite_run (fun _ _ _ _ _ => True) 4
    (fun _ _ _ _ => trivial) trivial (by decide +kernel)) .application).1⟩

end Steps

end WebTransport
