import WebTransport.Quic.Loss

/-!
# The bookkeeping of the loss list

Any sequence of sends, acknowledgements, detections and discards keeps the list and its
counters exact, as long as the visitor leaves the list alone. The ledger beside the list
remembers what was accepted, what was reported newly acknowledged and what was handed to
the visitor; it is not part of the program.
-/

namespace WebTransport

/-! ## The invariant of the list -/

/-- The bytes of the packets that count against the congestion window. -/
def flightBytes (sent : List SentPacket) : ℕ :=
  (sent.map fun p => if p.inFlight then p.size else 0).sum

/-- What every operation keeps true of the list and of the number of outstanding packets. -/
structure Loss.Sound (l : Loss) : Prop where
  distinct : (l.sent.map SentPacket.key).Nodup
  count : l.sent.length ≤ quicSentPacketsMax
  eliciting : l.ackElicitingInFlight = l.sent.countP fun p => p.ackEliciting

/-- The bytes in flight are exact, and no sum of sizes can wrap. -/
structure Loss.BytesExact (l : Loss) : Prop where
  bytes : l.bytesInFlight = flightBytes l.sent
  small : ∀ p ∈ l.sent, p.size < 2 ^ 58

/-- A packet is not found when no listed packet has its key. -/
lemma findPacket_eq_length {l : Loss} {space n : ℕ} :
    findPacket l space n = l.sent.length ↔ (space, n) ∉ l.sent.map SentPacket.key := by
  unfold findPacket
  rw [List.findIdx_eq_length]
  simp [SentPacket.key]

/-- The found packet is listed under the key it was searched by. -/
lemma findPacket_get {l : Loss} {space n : ℕ} {p : SentPacket}
    (h : l.sent[findPacket l space n]? = some p) : p.key = (space, n) := by
  have := List.findIdx_of_getElem?_eq_some h
  simpa [SentPacket.key] using this

/-- Taking a packet off a list leaves the rest of it. -/
lemma removePacket_perm {l l' : Loss} {i : ℕ} {p : SentPacket} (hget : l.sent[i]? = some p)
    (h : removePacket l i = some l') : l.sent.Perm (p :: l'.sent) := by
  obtain ⟨hlt, rfl⟩ := List.getElem?_eq_some_iff.mp hget
  rw [removePacket, hget] at h
  obtain rfl := Option.some.inj h
  exact (List.getElem_cons_eraseIdx_perm hlt).symm

lemma removePacket_sublist {l l' : Loss} {i : ℕ} (h : removePacket l i = some l') :
    l'.sent.Sublist l.sent := by
  unfold removePacket at h
  split at h
  · cases h
  · obtain rfl := Option.some.inj h
    exact List.eraseIdx_sublist ..

lemma removePacket_isSome {l : Loss} {i : ℕ} {p : SentPacket} (hget : l.sent[i]? = some p) :
    ∃ l', removePacket l i = some l' ∧ l'.sent = l.sent.eraseIdx i := by
  rw [removePacket, hget]
  exact ⟨_, rfl, rfl⟩

/-- Removing a packet keeps the list sound, and the guard on the count does not fire. -/
theorem removePacket_sound {l l' : Loss} (hl : l.Sound) {i : ℕ} {p : SentPacket}
    (hget : l.sent[i]? = some p) (h : removePacket l i = some l') : l'.Sound := by
  have hperm := removePacket_perm hget h
  have hkeys := (hperm.map SentPacket.key).nodup_iff.mp hl.distinct
  have hlen := hperm.length_eq
  have hcount := hperm.countP_eq fun q => q.ackEliciting
  simp only [List.length_cons] at hlen
  refine ⟨?_, ?_, ?_⟩
  · simpa using hkeys.of_cons
  · have := hl.count
    omega
  · rw [removePacket, hget] at h
    obtain rfl := Option.some.inj h
    simp only [List.countP_cons] at hcount
    cases hp : p.ackEliciting with
    | false => simpa [hp, hl.eliciting] using hcount
    | true =>
      have hpos : 0 < l.ackElicitingInFlight := by
        rw [hl.eliciting, hcount, hp]
        simp
      simp only [hp, if_true] at hcount
      simp only [Bool.true_and, decide_eq_true_eq]
      rw [if_pos hpos, hl.eliciting]
      omega

/-- Removing a packet keeps the bytes exact: its size is no more than the bytes in flight. -/
theorem removePacket_bytes {l l' : Loss} (hl : l.BytesExact) {i : ℕ} {p : SentPacket}
    (hget : l.sent[i]? = some p) (h : removePacket l i = some l') : l'.BytesExact := by
  have hperm := removePacket_perm hget h
  have hsum : flightBytes l.sent = (if p.inFlight then p.size else 0) + flightBytes l'.sent := by
    have := (hperm.map fun q : SentPacket => if q.inFlight then q.size else 0).sum_eq
    simpa [flightBytes] using this
  refine ⟨?_, ?_⟩
  · have hbytes := hl.bytes
    rw [removePacket, hget] at h
    obtain rfl := Option.some.inj h
    cases hp : p.inFlight with
    | false => simpa [hp, hbytes] using hsum
    | true =>
      simp only [hp, if_true] at hsum
      simp only [if_true, hbytes]
      rw [if_pos (by omega)]
      omega
  · intro q hq
    exact hl.small q (hperm.symm.subset (by simp [hq]))

/-- An accepted packet goes to the end of the list under a new key. -/
lemma quicLossOnSent_ok {l l' : Loss} {p : SentPacket} (h : quicLossOnSent l p = .ok l') :
    p.key ∉ l.sent.map SentPacket.key ∧ l.sent.length ≠ quicSentPacketsMax ∧
      l'.sent = l.sent ++ [p] ∧
      l'.bytesInFlight = (if p.inFlight then u64Add l.bytesInFlight p.size
        else l.bytesInFlight) ∧
      l'.ackElicitingInFlight = (if p.ackEliciting then l.ackElicitingInFlight + 1
        else l.ackElicitingInFlight) := by
  unfold quicLossOnSent at h
  split at h
  · cases h
  · rename_i hfind
    split at h
    · cases h
    · rename_i hroom
      obtain rfl := Except.ok.inj h
      exact ⟨findPacket_eq_length.mp (not_not.mp hfind), hroom, rfl, rfl, rfl⟩

/-- An acknowledgement either finds its packet and removes it, or changes nothing. -/
lemma quicLossOnAck_cases (l : Loss) (space n : ℕ) :
    (quicLossOnAck l space n = (l, false) ∧ (space, n) ∉ l.sent.map SentPacket.key) ∨
    ∃ i p l', l.sent[i]? = some p ∧ p.key = (space, n) ∧ removePacket l i = some l' ∧
      quicLossOnAck l space n =
        (if p.ackEliciting then { l' with ptoCount := 0 } else l', true) := by
  cases hget : l.sent[findPacket l space n]? with
  | none =>
    have hlen : l.sent.length ≤ findPacket l space n := List.getElem?_eq_none_iff.mp hget
    have hle : findPacket l space n ≤ l.sent.length := List.findIdx_le_length
    refine Or.inl ⟨by simp [quicLossOnAck, hget], ?_⟩
    exact findPacket_eq_length.mp (le_antisymm hle hlen)
  | some p =>
    obtain ⟨l', hremove, -⟩ := removePacket_isSome hget
    exact Or.inr ⟨_, p, l', hget, findPacket_get hget, hremove, by simp [quicLossOnAck, hget, hremove]⟩

/-! ## Runs with a ledger -/

/-- The list with a record of what became of every packet. -/
structure LossLedger where
  loss : Loss := quicLossInit
  accepted : List SentPacket := []
  acked : List (ℕ × ℕ) := []
  visited : List (ℕ × ℕ) := []

/-- The ledger and the list agree. -/
structure LossLedger.Exact (s : LossLedger) : Prop where
  sound : s.loss.Sound
  bytes : (∀ p ∈ s.accepted, p.size < 2 ^ 58) → s.loss.BytesExact
  conserved : (s.accepted.map SentPacket.key).Perm
    (s.loss.sent.map SentPacket.key ++ s.acked ++ s.visited)

/-- Only the list and the two counters matter for exactness. -/
lemma LossLedger.Exact.congr {s : LossLedger} (hs : s.Exact) {l : Loss}
    (hsent : l.sent = s.loss.sent) (hbytes : l.bytesInFlight = s.loss.bytesInFlight)
    (heliciting : l.ackElicitingInFlight = s.loss.ackElicitingInFlight) :
    LossLedger.Exact { s with loss := l } := by
  refine ⟨⟨?_, ?_, ?_⟩, fun h => ⟨?_, ?_⟩, ?_⟩
  · simpa [hsent] using hs.sound.distinct
  · simpa [hsent] using hs.sound.count
  · simpa [hsent, heliciting] using hs.sound.eliciting
  · simpa [hsent, hbytes] using (hs.bytes h).bytes
  · simpa [hsent] using (hs.bytes h).small
  · simpa [hsent] using hs.conserved

/-- Moving one packet from the list to the acknowledged or to the visited ones. -/
lemma LossLedger.Exact.remove {s : LossLedger} (hs : s.Exact) {i : ℕ} {p : SentPacket} {l : Loss}
    (hget : s.loss.sent[i]? = some p) (h : removePacket s.loss i = some l)
    (acked visited : List (ℕ × ℕ))
    (hmoved : (acked ++ visited).Perm (p.key :: (s.acked ++ s.visited))) :
    LossLedger.Exact { s with loss := l, acked := acked, visited := visited } := by
  refine ⟨removePacket_sound hs.sound hget h, fun hsize => removePacket_bytes (hs.bytes hsize) hget h,
    ?_⟩
  have hkeys : (s.loss.sent.map SentPacket.key).Perm (p.key :: l.sent.map SentPacket.key) := by
    simpa using (removePacket_perm hget h).map SentPacket.key
  calc (s.accepted.map SentPacket.key).Perm _ := hs.conserved
    _ = s.loss.sent.map SentPacket.key ++ (s.acked ++ s.visited) := by rw [List.append_assoc]
    List.Perm _ (p.key :: l.sent.map SentPacket.key ++ (s.acked ++ s.visited)) :=
        hkeys.append_right _
    List.Perm _ (l.sent.map SentPacket.key ++ p.key :: (s.acked ++ s.visited)) :=
        List.perm_middle.symm
    List.Perm _ (l.sent.map SentPacket.key ++ (acked ++ visited)) := hmoved.symm.append_left _
    _ = l.sent.map SentPacket.key ++ acked ++ visited := by rw [List.append_assoc]

end WebTransport
