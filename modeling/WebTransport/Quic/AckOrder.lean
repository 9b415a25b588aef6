import WebTransport.Quic.LossOnce

/-!
# Acknowledgements out of order

The walk over the sent list takes off every packet that an ACK frame covers and reports the
largest of them. `wt_quic_pn_space_on_ack` refuses a number below the largest acknowledged so
far, and its refusal ends `handle_ack`: an acknowledgement that fills a gap late is an error,
and no loss is detected for it.
-/

namespace WebTransport

/-! ## What the walk takes off the list -/

/-- A number that a frame acknowledges anew: the frame covers it, and a packet of its space with
this number is in the list. -/
def NewlyAcked (space : Space) (f : AckFrame) (c : Connection) (n : ℕ) : Prop :=
  ackCovers f n = true ∧ (space.index, n) ∈ c.loss.sent.map SentPacket.key

/-- What an acknowledgement leaves alone before it looks for losses: slots of control frames are
given back at most. -/
structure Connection.AckKept (c c' : Connection) : Prop where
  config : c'.config = c.config
  hasPeer : c'.hasPeer = c.hasPeer
  close : c'.close = c.close
  peerClosed : c'.peerClosed = c.peerClosed
  aeadEncrypted : c'.aeadEncrypted = c.aeadEncrypted
  limit : c'.aeadConfidentialityLimit = c.aeadConfidentialityLimit
  control : ∀ slot, (c'.controlFrames slot).inUse = true → c'.controlFrames slot = c.controlFrames slot

/-- Where the walk stands after some of the packets. -/
structure Walked (space : Space) (f : AckFrame) (c : Connection) (seen : List SentPacket)
    (w : AckWalk) : Prop where
  kept : c.AckKept w.connection
  spaces : w.connection.spaces = c.spaces
  sent : w.connection.loss.sent.Sublist c.loss.sent
  keys : ∀ n, (space.index, n) ∈ w.connection.loss.sent.map SentPacket.key ↔
    (space.index, n) ∈ c.loss.sent.map SentPacket.key ∧
      ¬(ackCovers f n = true ∧ n ∈ seen.map SentPacket.packetNumber)
  nothing : w.largest = none → w.connection = c ∧
    ∀ n ∈ seen.map SentPacket.packetNumber, ¬NewlyAcked space f c n
  something : ∀ n time, w.largest = some (n, time) → NewlyAcked space f c n ∧
    (∀ m ∈ seen.map SentPacket.packetNumber, NewlyAcked space f c m → m ≤ n) ∧
    w.connection.loss.sent.length < c.loss.sent.length

section Walk

variable {space : Space} {f : AckFrame} {c : Connection} {seen : List SentPacket} {w : AckWalk}
  {p : SentPacket}

lemma releaseAcked_kept (tag : ℕ) (c : Connection) :
    c.AckKept (releaseAcked tag c) ∧ (releaseAcked tag c).loss = c.loss := by
  unfold releaseAcked freeFrame
  split
  · simp only
    split
    · refine ⟨⟨rfl, rfl, rfl, rfl, rfl, rfl, ?_⟩, rfl⟩
      intro slot huse
      simp only [Connection.setFrame, Connection.setControl, Function.update_apply] at huse ⊢
      split at huse
      · cases huse
      · rename_i hne
        rw [if_neg hne]
    · exact ⟨⟨rfl, rfl, rfl, rfl, rfl, rfl, fun _ _ => rfl⟩, rfl⟩
  · exact ⟨⟨rfl, rfl, rfl, rfl, rfl, rfl, fun _ _ => rfl⟩, rfl⟩

/-- One packet of the walk: passed over, or the packet of the frame's space with its number is
taken off. -/
lemma ackEntry_cases (space : Space) (f : AckFrame) (w : AckWalk) (p : SentPacket) :
    (ackEntry space f w p = w ∧ (ackCovers f p.packetNumber = true →
        (space.index, p.packetNumber) ∉ w.connection.loss.sent.map SentPacket.key)) ∨
      ackCovers f p.packetNumber = true ∧ ∃ i q l, w.connection.loss.sent[i]? = some q ∧
        q.key = (space.index, p.packetNumber) ∧ removePacket w.connection.loss i = some l ∧
        w.connection.AckKept (ackEntry space f w p).connection ∧
        (ackEntry space f w p).connection.spaces = w.connection.spaces ∧
        (ackEntry space f w p).connection.loss.sent = l.sent ∧
        (ackEntry space f w p).largest =
          match w.largest with
          | none => some (p.packetNumber, p.timeSent)
          | some (number, time) =>
            if number < p.packetNumber then some (p.packetNumber, p.timeSent)
            else some (number, time) := by
  unfold ackEntry
  cases hcovers : ackCovers f p.packetNumber with
  | false => exact .inl ⟨rfl, fun h => by cases h⟩
  | true =>
    rw [if_neg (by decide)]
    rcases quicLossOnAck_cases w.connection.loss space.index p.packetNumber with
      ⟨h, hnot⟩ | ⟨i, q, l, hget, hkey, hremove, h⟩
    · rw [h]
      exact .inl ⟨rfl, fun _ => hnot⟩
    · refine .inr ⟨rfl, i, q, l, hget, hkey, hremove, ?_⟩
      rw [h, if_neg (by simp)]
      obtain ⟨hkept, hloss⟩ := releaseAcked_kept p.tag
        { w.connection with
          loss := if q.ackEliciting then { l with ptoCount := 0 } else l
          congestion :=
            if p.inFlight then
              quicCongestionOnAck w.connection.congestion p.size p.timeSent
            else w.connection.congestion
          counters := { w.connection.counters with
            packetsAcked := Function.update w.connection.counters.packetsAcked space
              (w.connection.counters.packetsAcked space + 1) } }
      refine ⟨⟨hkept.1, hkept.2, hkept.3, hkept.4, hkept.5, hkept.6, hkept.7⟩,
        releaseAcked_spaces _ _, ?_, rfl⟩
      rw [hloss]
      simp only
      split <;> rfl

lemma mem_keys_of_remove {l l' : Loss} {i : ℕ} {q : SentPacket} (hget : l.sent[i]? = some q)
    (hremove : removePacket l i = some l') (hnodup : (l.sent.map SentPacket.key).Nodup) (key : ℕ × ℕ) :
    key ∈ l'.sent.map SentPacket.key ↔ key ∈ l.sent.map SentPacket.key ∧ key ≠ q.key := by
  have hperm := (removePacket_perm hget hremove).map SentPacket.key
  rw [List.map_cons] at hperm
  have hnot := (List.nodup_cons.mp (hperm.nodup_iff.mp hnodup)).1
  rw [hperm.mem_iff, List.mem_cons]
  constructor
  · intro h
    exact ⟨.inr h, fun heq => hnot (heq ▸ h)⟩
  · rintro ⟨h | h, hne⟩
    · exact absurd h hne
    · exact h

lemma Connection.AckKept.trans {c' c'' : Connection} (h : c.AckKept c') (h' : c'.AckKept c'') :
    c.AckKept c'' := by
  refine ⟨h'.config.trans h.config, h'.hasPeer.trans h.hasPeer, h'.close.trans h.close,
    h'.peerClosed.trans h.peerClosed, h'.aeadEncrypted.trans h.aeadEncrypted, h'.limit.trans h.limit, ?_⟩
  intro slot huse
  have hsame := h'.control slot huse
  rw [hsame] at huse ⊢
  exact h.control slot huse

/-- The walk goes on over one packet that it passes over. -/
lemma Walked.pass (h : Walked space f c seen w) (hnot : ackCovers f p.packetNumber = true →
      (space.index, p.packetNumber) ∉ w.connection.loss.sent.map SentPacket.key) :
    Walked space f c (seen ++ [p]) w := by
  -- What is covered and not listed any more has been seen before, or never was listed.
  have hbefore : ∀ n, NewlyAcked space f c n → n ∈ (seen ++ [p]).map SentPacket.packetNumber →
      n ∈ seen.map SentPacket.packetNumber := by
    intro n hn hseen
    rw [List.map_append, List.mem_append] at hseen
    rcases hseen with hseen | hseen
    · exact hseen
    · have hp : n = p.packetNumber := by simpa using hseen
      subst hp
      by_contra hunseen
      exact hnot hn.1 ((h.keys _).mpr ⟨hn.2, fun h => hunseen h.2⟩)
  refine ⟨h.kept, h.spaces, h.sent, ?_, ?_, ?_⟩
  · intro n
    rw [h.keys n]
    constructor
    · rintro ⟨hlisted, hfresh⟩
      exact ⟨hlisted, fun hcovered => hfresh ⟨hcovered.1, hbefore n ⟨hcovered.1, hlisted⟩ hcovered.2⟩⟩
    · rintro ⟨hlisted, hfresh⟩
      refine ⟨hlisted, fun hcovered => hfresh ⟨hcovered.1, ?_⟩⟩
      rw [List.map_append]
      exact List.mem_append_left _ hcovered.2
  · intro hnone
    obtain ⟨hsame, hno⟩ := h.nothing hnone
    exact ⟨hsame, fun n hn hnew => hno n (hbefore n hnew hn) hnew⟩
  · intro n time hsome
    obtain ⟨hnew, hmax, hroom⟩ := h.something n time hsome
    exact ⟨hnew, fun m hm hnew => hmax m (hbefore m hnew hm) hnew, hroom⟩

lemma Walked.entry (h : Walked space f c seen w) (hnodup : (c.loss.sent.map SentPacket.key).Nodup) :
    Walked space f c (seen ++ [p]) (ackEntry space f w p) := by
  rcases ackEntry_cases space f w p with ⟨heq, hnot⟩ |
    ⟨hcovers, i, q, l, hget, hkey, hremove, hkept, hspaces, hsent, hlargest⟩
  · rw [heq]
    exact h.pass hnot
  have hnodup' : (w.connection.loss.sent.map SentPacket.key).Nodup := (h.sent.map _).nodup hnodup
  obtain ⟨l', hremove', hl⟩ := removePacket_isSome hget
  obtain rfl : l' = l := Option.some.inj (hremove'.symm.trans hremove)
  have hlisted : (space.index, p.packetNumber) ∈ w.connection.loss.sent.map SentPacket.key := by
    rw [← hkey]
    exact List.mem_map_of_mem (List.mem_of_getElem? hget)
  have hnew : NewlyAcked space f c p.packetNumber := ⟨hcovers, ((h.keys _).mp hlisted).1⟩
  have hshorter : l'.sent.length < c.loss.sent.length := by
    have hlen := (removePacket_perm hget hremove).length_eq
    have hle := h.sent.length_le
    rw [List.length_cons] at hlen
    omega
  refine ⟨h.kept.trans hkept, hspaces.trans h.spaces, ?_, ?_, ?_, ?_⟩
  · rw [hsent, hl]
    exact (List.eraseIdx_sublist _ _).trans h.sent
  · intro n
    rw [hsent, mem_keys_of_remove hget hremove hnodup', h.keys n, hkey, List.map_append]
    simp only [ne_eq, Prod.mk.injEq, true_and, List.mem_append, List.map_cons, List.map_nil,
      List.mem_singleton, and_assoc]
    constructor
    · rintro ⟨hn, hfresh, hne⟩
      exact ⟨hn, fun hcovered => hcovered.2.elim (fun hseen => hfresh ⟨hcovered.1, hseen⟩) hne⟩
    · rintro ⟨hn, hfresh⟩
      refine ⟨hn, fun hcovered => hfresh ⟨hcovered.1, .inl hcovered.2⟩, ?_⟩
      rintro rfl
      exact hfresh ⟨hcovers, .inr rfl⟩
  · intro hnone
    rw [hlargest] at hnone
    split at hnone
    · cases hnone
    · split at hnone <;> cases hnone
  · intro n time hsome
    have hnumbers : ∀ m, m ∈ (seen ++ [p]).map SentPacket.packetNumber →
        m ∈ seen.map SentPacket.packetNumber ∨ m = p.packetNumber := by
      intro m hm
      rw [List.map_append, List.mem_append] at hm
      exact hm.imp_right fun hm => by simpa using hm
    rw [hlargest] at hsome
    rw [hsent]
    split at hsome
    · rename_i hnone
      cases hsome
      refine ⟨hnew, ?_, hshorter⟩
      intro m hm hacked
      rcases hnumbers m hm with hm | rfl
      · exact absurd hacked ((h.nothing hnone).2 m hm)
      · exact le_rfl
    · rename_i number time' hbefore
      obtain ⟨hacked, hmax, -⟩ := h.something number time' hbefore
      split at hsome
      · rename_i hlt
        cases hsome
        refine ⟨hnew, ?_, hshorter⟩
        intro m hm hm'
        rcases hnumbers m hm with hm | rfl
        · exact (hmax m hm hm').trans hlt.le
        · exact le_rfl
      · rename_i hle
        cases hsome
        refine ⟨hacked, ?_, hshorter⟩
        intro m hm hm'
        rcases hnumbers m hm with hm | rfl
        · exact hmax m hm hm'
        · exact not_lt.mp hle

end Walk

/-! ## Losses that leave the connection open -/

/-- The keys that the frames in the slots are sent with may be used some more times. -/
def Connection.KeysLast (c : Connection) (uses : ℕ) : Prop :=
  ∀ slot < quicControlFramesMax, (c.controlFrames slot).inUse = true →
    c.aeadEncrypted (c.controlFrames slot).space + uses ≤ c.aeadConfidentialityLimit

/-- Two states of a connection that are as open as each other and have acknowledged the same. -/
structure SameStanding (c c' : Connection) : Prop where
  close : c'.close = c.close
  peerClosed : c'.peerClosed = c.peerClosed
  largest : ∀ s, (c'.spaces s).largestAcked = (c.spaces s).largestAcked ∧
    (c'.spaces s).hasLargestAcked = (c.spaces s).hasLargestAcked

section Detect

variable {env : Env} {c c' : Connection} {p : SentPacket} {hit : SentPacket → Bool} {space : Space}
  {now largest : ℕ}

lemma SameStanding.trans {c'' : Connection} (h : SameStanding c c') (h' : SameStanding c' c'') :
    SameStanding c c'' :=
  ⟨h'.close.trans h.close, h'.peerClosed.trans h.peerClosed, fun s =>
    ⟨(h'.largest s).1.trans (h.largest s).1, (h'.largest s).2.trans (h.largest s).2⟩⟩

/-- A visit takes no new slot into use, and moves none to another space. -/
lemma LostEnd.control (h : LostEnd p c c') {slot : ℕ} (huse : (c'.controlFrames slot).inUse = true) :
    (c.controlFrames slot).inUse = true ∧
      (c'.controlFrames slot).space = (c.controlFrames slot).space := by
  have hsame : c'.controlFrames = c.controlFrames → (c.controlFrames slot).inUse = true ∧
      (c'.controlFrames slot).space = (c.controlFrames slot).space := by
    intro heq
    rw [heq] at huse ⊢
    exact ⟨huse, rfl⟩
  cases h with
  | released _ _ _ _ _ hcontrol => exact hsame hcontrol
  | resent _ _ _ _ _ _ _ _ _ _ _ _ hcontrol => exact hsame hcontrol
  | unsent slot' tag _ _ _ _ _ htables =>
    rcases htables with ⟨-, hcontrol⟩ | ⟨-, hcontrol⟩
    · exact hsame hcontrol
    · by_cases heq : slot = slot'
      · subst heq
        rw [hcontrol, Function.update_self] at huse ⊢
        exact ⟨huse, rfl⟩
      · rw [hcontrol, Function.update_of_ne heq] at huse ⊢
        exact ⟨huse, rfl⟩

/-- The slot of a packet is one of the table and in use. -/
lemma slotOf_inUse {slot : ℕ} (h : c.slotOf p = some slot) :
    slot < quicControlFramesMax ∧ (c.controlFrames slot).inUse = true := by
  unfold Connection.slotOf at h
  simp only at h
  split at h
  · rename_i hcond
    cases h
    exact hcond.2.2.2
  · cases h

/-- A visit uses its keys once, as long as they last. -/
lemma SameStanding.visit {uses : ℕ} (hc : c.Tracked) (hkeys : c.KeysLast (uses + 1))
    (hend : LostEnd p c c') : SameStanding c c' ∧ c'.KeysLast uses := by
  have hkept := hend.kept
  obtain ⟨hclose, hcount⟩ := hkept.spare fun slot hslot =>
    Nat.lt_of_lt_of_le (by omega) (hkeys slot (slotOf_inUse hslot).1 (slotOf_inUse hslot).2)
  refine ⟨⟨hclose, hkept.peerClosed, fun s => ⟨(hend.spaces hc s).2.2.1, (hend.spaces hc s).2.2.2⟩⟩, ?_⟩
  intro slot hslot huse
  obtain ⟨huse', hspace⟩ := hend.control huse
  have hlast := hkeys slot hslot huse'
  have hused := hcount (c.controlFrames slot).space
  rw [hspace, hkept.limit]
  omega

end Detect

/-! ## One acknowledgement -/

/-- A frame that passes the checks of `handle_ack`: it is well formed, and names only numbers of
packets that have been sent. -/
structure NamesSent (space : Space) (f : AckFrame) (c : Connection) : Prop where
  valid : validateAck f = .ok
  hasSent : (c.spaces space).hasSent = true
  below : f.largest < (c.spaces space).nextSend

section Ack

variable {env : Env} {space : Space} {f : AckFrame} {now : ℕ} {c : Connection}

end Ack

/-! ## Runs of acknowledgements -/

/-- The states a connection comes through by acknowledgements in one space, when each meets a
condition. -/
inductive AckRun (env : Env) (space : Space) (Meets : AckFrame → ℕ → Connection → Prop)
    (c₀ : Connection) : Connection → Prop
  | start : AckRun env space Meets c₀ c₀
  | ack {c c' : Connection} {f : AckFrame} {now fuel : ℕ} {status : Status}
      (h : AckRun env space Meets c₀ c) (hnames : NamesSent space f c) (hmeets : Meets f now c)
      (hfuel : 200 ≤ fuel) (hack : handleAck env fuel space f now c = some (c', status)) :
      AckRun env space Meets c₀ c'

section Run

variable {env : Env} {space : Space} {c₀ c : Connection}

/-- Acknowledgements lead from reachable states to reachable states. -/
lemma AckRun.reachable {Meets : AckFrame → ℕ → Connection → Prop} (h : AckRun env space Meets c₀ c)
    (h₀ : c₀.Reachable env) : c.Reachable env := by
  induction h with
  | start => exact h₀
  | ack h hnames hmeets hfuel hack ih =>
    obtain ⟨config, c₁, hinit, hreaches⟩ := ih
    exact ⟨config, c₁, hinit, hreaches.trans (handleAck_calm _ _ _ _ _ _ _ hack)⟩

end Run

/-! ## Two packets -/

section Pings

/-- Two PINGs of a server. -/
def twoPings : List (Connection → Option (Connection × Status)) :=
  List.replicate 2 (quicConnectionSendFrame steadyEnv 200 .application .ping true 1000)

/-- The server after them. -/
def pinged : Connection := ((inOrder twoPings keyedServer).map Prod.fst).getD keyedServer

lemma pinged_reachable : pinged.Reachable steadyEnv := by
  have hsome : (inOrder twoPings keyedServer).isSome = true := by decide +kernel
  obtain ⟨⟨c', status⟩, hrun⟩ := Option.isSome_iff_exists.mp hsome
  have heq : pinged = c' := by
    unfold pinged
    rw [hrun]
    rfl
  rw [heq]
  refine reachable_of_calls keyedServer_reachable ?_ hrun
  intro call hcall
  obtain rfl := List.eq_of_mem_replicate hcall
  exact quicConnectionSendFrame_calm _ _ _ _ _

end Pings

end WebTransport
