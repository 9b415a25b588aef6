import WebTransport.Http3.EncoderStream

/-!
# Cutting the encoder stream

The encoder stream arrives in chunks, and the caller presents what a call left again with the next
one. The bound on the capacity is taken from the table at every call, and a refused call counts
nothing: this module says for which bytes the cuts make no difference.
-/

namespace WebTransport

/-- The chunks of the encoder stream, one call for each until one is refused. -/
def feedEncoder : MessageEndpoint → List UInt8 → List (List UInt8) → MessageEndpoint × Reply
  | e, _, [] => (e, Reply.good)
  | e, held, chunk :: chunks =>
    let r := http3EndpointOnQpackEncoderBytes e (held ++ chunk)
    if r.reply = Reply.good then feedEncoder r.endpoint r.tail chunks else (r.endpoint, r.reply)

/-- All the bytes in one call, bounded by the capacity that was advertised. -/
def advertisedRun (capacity : ℕ) (e : MessageEndpoint) (bytes : List UInt8) :
    MessageEndpoint × Reply :=
  ((encoderBytesWithin capacity e bytes).endpoint, (encoderBytesWithin capacity e bytes).reply)

/-- However a beginning of the bytes is cut, the endpoint and the reply are those of one call
bounded by the advertised capacity. -/
def SameWhenCut (capacity : ℕ) (e : MessageEndpoint) (bytes : List UInt8) : Prop :=
  ∀ x y, bytes = x ++ y → ∀ chunks, chunks ≠ [] → chunks.flatten = x →
    feedEncoder e [] chunks = advertisedRun capacity e x

/-- No instruction raises the capacity of the table, though it be one that was advertised. -/
def NeverRaises (capacity : ℕ) (t : DynamicTable) (bytes : List UInt8) : Prop :=
  ∀ x y t' c rest, bytes = x ++ y → encoderRun capacity t x = ⟨t', [], none⟩ →
    encoderInstructionRead y = .ok (.setCapacity c, rest) → c ≤ capacity → c ≤ t'.capacity

/-- If an instruction is refused, nothing was inserted that the endpoint has not counted. -/
def RefusedUncounted (capacity : ℕ) (t : DynamicTable) (count : ℕ) (bytes : List UInt8) : Prop :=
  ∀ t' tail status, encoderRun capacity t bytes = ⟨t', tail, some status⟩ → t'.insertCount = count

section Cuts

variable {capacity limit count : ℕ} {t t' : DynamicTable} {e : MessageEndpoint}
  {x y p held bytes : List UInt8}

/-- A beginning of the bytes raises no more than all of them. -/
lemma NeverRaises.start (h : NeverRaises capacity t (x ++ y)) : NeverRaises capacity t x := by
  rintro x' y' t' c rest rfl hrun hread
  obtain ⟨p, -, rfl, hpart⟩ := encoderInstructionRead_part hread
  apply h x' ((p ++ rest) ++ y) t' c (rest ++ y) (List.append_assoc _ _ _) hrun
  rw [List.append_assoc]
  exact hpart (rest ++ y)

/-- Nor does what comes after whole instructions. -/
lemma NeverRaises.after (h : NeverRaises capacity t (p ++ y))
    (hp : encoderRun capacity t p = ⟨t', [], none⟩) : NeverRaises capacity t' y := by
  rintro x' y' t'' c rest rfl hrun
  apply h (p ++ x') y' t'' c rest (List.append_assoc _ _ _).symm
  rw [encoderRun, Reader.run_whole (stableStep_encoderStep capacity) hp]
  exact hrun

/-- A step whose instruction raises nothing is the same under every bound between the capacity
the table has and the one that was advertised. -/
lemma encoderStep_agree (hlow : t.capacity ≤ limit) (hhigh : limit ≤ capacity)
    (hraises : ∀ c rest, encoderInstructionRead x = .ok (.setCapacity c, rest) → c ≤ capacity →
      c ≤ t.capacity) : encoderStep limit t x = encoderStep capacity t x := by
  have happly : ∀ i rest, encoderInstructionRead x = .ok (i, rest) →
      encoderInstructionApply limit t i = encoderInstructionApply capacity t i := by
    intro i rest hread
    cases i with
    | setCapacity c =>
      rw [encoderInstructionApply, encoderInstructionApply]
      by_cases hadvertised : c ≤ capacity
      · have hfits := hraises c rest hread hadvertised
        rw [if_neg (by omega), if_neg (by omega)]
      · rw [if_pos (by omega), if_pos (by omega)]
    | _ => rfl
  unfold encoderStep qpackEncoderStreamApply
  cases hread : encoderInstructionRead x with
  | error e => cases e <;> rfl
  | ok r =>
    obtain ⟨i, rest⟩ := r
    dsimp only
    rw [happly i rest hread]

lemma encoderRun_agree (hlow : t.capacity ≤ limit) (hhigh : limit ≤ capacity)
    (hraises : NeverRaises capacity t x) : encoderRun limit t x = encoderRun capacity t x := by
  induction hlength : x.length using Nat.strongRecOn generalizing t x with
  | _ n ih =>
    subst hlength
    by_cases hx : x = []
    · subst hx
      rw [encoderRun, encoderRun, Reader.run_nil, Reader.run_nil]
    have hnow : ∀ c rest, encoderInstructionRead x = .ok (.setCapacity c, rest) → c ≤ capacity →
        c ≤ t.capacity := fun c rest => hraises [] x t c rest rfl Reader.run_nil
    have hagree := encoderStep_agree hlow hhigh hnow
    rcases hstep : encoderStep capacity t x with ⟨t', status | rest⟩
    · rw [encoderRun, encoderRun, Reader.run_stops hx hstep,
        Reader.run_stops hx (hagree.trans hstep)]
    · have hstable := stableStep_encoderStep capacity
      obtain ⟨p, hne, rfl, hpart⟩ := hstable.ok hstep
      have hp : encoderRun capacity t p = ⟨t', [], none⟩ := by
        have hwhole := hpart []
        rw [List.append_nil] at hwhole
        rw [encoderRun, Reader.run_ok hstable hne hwhole, Reader.run_nil]
      -- The table's capacity has not grown.
      have hnext : t'.capacity ≤ limit := by
        obtain ⟨i, hread, happly⟩ := encoderStep_ok.mp hstep
        have heffect := encoderInstructionApply_effect capacity t i
        rw [happly] at heffect
        rcases heffect.capacity with hsame | ⟨rfl, hadvertised⟩
        · exact hsame.trans_le hlow
        · exact (hnow _ rest hread hadvertised).trans hlow
      rw [encoderRun, encoderRun, Reader.run_ok hstable hx hstep,
        Reader.run_ok (stableStep_encoderStep limit) hx (hagree.trans hstep)]
      exact ih rest.length (hstable.progress hstep) hnext (hraises.after hp) rfl

/-- A call that raises nothing is the same whichever of the two bounds it takes. -/
lemma onQpackEncoderBytes_agree (hwithin : e.decoderTable.capacity ≤ capacity)
    (hraises : NeverRaises capacity e.decoderTable bytes) :
    http3EndpointOnQpackEncoderBytes e bytes = encoderBytesWithin capacity e bytes := by
  rw [http3EndpointOnQpackEncoderBytes, encoderBytesWithin, encoderBytesWithin,
    encoderRun_agree le_rfl hwithin hraises]

/-- **Cuts that make no difference.** Where nothing is raised and nothing inserted before a
refusal, the chunks do what one call with the advertised bound does. -/
lemma feedEncoder_eq (hseen : e.peerQpackEncoderSeen = true) (hset : e.decoderCapacitySet = true)
    (hwithin : e.decoderTable.capacity ≤ capacity)
    (hcounted : e.decoderInsertCount ≤ e.decoderTable.insertCount) (chunk : List UInt8)
    {chunks : List (List UInt8)}
    (hraises : NeverRaises capacity e.decoderTable (held ++ chunk ++ chunks.flatten))
    (hrefused : RefusedUncounted capacity e.decoderTable e.decoderInsertCount
      (held ++ chunk ++ chunks.flatten)) :
    feedEncoder e held (chunk :: chunks) =
      advertisedRun capacity e (held ++ chunk ++ chunks.flatten) := by
  have hstable := stableStep_encoderStep capacity
  induction chunks generalizing e held chunk with
  | nil =>
    rw [List.flatten_nil, List.append_nil] at hraises ⊢
    rw [feedEncoder, onQpackEncoderBytes_agree hwithin hraises, advertisedRun]
    split_ifs with hgood
    · rw [feedEncoder, hgood]
    · rfl
  | cons chunk' chunks ih =>
    have happend := Reader.run_append (s := e.decoderTable) hstable (held ++ chunk)
      (chunk' :: chunks).flatten
    rw [feedEncoder, onQpackEncoderBytes_agree hwithin hraises.start]
    rcases hfirst : encoderRun capacity e.decoderTable (held ++ chunk) with ⟨t', tail, refusal⟩
    rw [encoderRun] at hfirst
    rw [hfirst] at happend
    cases refusal with
    | some status =>
      rw [encoderBytesWithin_refused hseen hset hfirst, advertisedRun,
        encoderBytesWithin_refused hseen hset happend]
      rfl
    | none =>
      obtain ⟨p, hp, hpart⟩ := Reader.run_part hstable hfirst
      obtain ⟨hcapacity, hlow, -⟩ := encoderRun_bounds hwithin (held ++ chunk)
      rw [encoderRun, hfirst] at hcapacity hlow
      dsimp only at hcapacity hlow happend
      have hrest : held ++ chunk ++ (chunk' :: chunks).flatten =
          p ++ (tail ++ chunk' ++ chunks.flatten) := by
        rw [hp, List.flatten_cons]
        simp only [List.append_assoc]
      -- A later refusal would be one after insertions that were counted.
      have huncounted : ∀ {tf left status},
          encoderRun capacity t' (tail ++ chunk' ++ chunks.flatten) = ⟨tf, left, some status⟩ →
            t'.insertCount = e.decoderInsertCount ∧ tf.insertCount = e.decoderInsertCount := by
        intro tf left status hrun
        obtain ⟨-, hgrows, -⟩ := encoderRun_bounds hcapacity (tail ++ chunk' ++ chunks.flatten)
        rw [hrun] at hgrows
        dsimp only at hgrows
        have hfinal := hrefused tf left status (by
          rw [hrest, encoderRun, Reader.run_whole hstable hpart]
          exact hrun)
        omega
      have hraises' : NeverRaises capacity t' (tail ++ chunk' ++ chunks.flatten) :=
        (hrest ▸ hraises).after hpart
      have hrefused' : RefusedUncounted capacity t' t'.insertCount
          (tail ++ chunk' ++ chunks.flatten) := by
        intro tf left status hrun
        obtain ⟨hcount, hfinal⟩ := huncounted hrun
        exact hfinal.trans hcount.symm
      have hlater := ih (e := { e with decoderTable := t', decoderInsertCount := t'.insertCount })
        hseen hset hcapacity le_rfl chunk' hraises' hrefused'
      rw [encoderBytesWithin_ok hseen hset hfirst]
      dsimp only
      rw [if_pos rfl, hlater, advertisedRun, advertisedRun]
      rw [List.flatten_cons, ← List.append_assoc tail] at happend
      rcases hrun : encoderRun capacity t' (tail ++ chunk' ++ chunks.flatten) with
        ⟨tf, left, refusal⟩
      rw [encoderRun] at hrun
      rw [hrun] at happend
      rw [List.flatten_cons]
      cases refusal with
      | none =>
        rw [encoderBytesWithin_ok (e := { e with decoderTable := t', decoderInsertCount := _ })
          hseen hset hrun, encoderBytesWithin_ok hseen hset happend]
      | some status =>
        rw [encoderBytesWithin_refused
          (e := { e with decoderTable := t', decoderInsertCount := _ }) hseen hset hrun,
          encoderBytesWithin_refused hseen hset happend, (huncounted hrun).1]

/-- The endpoint does not apply instructions before the peer's encoder stream is known. -/
lemma sameWhenCut_unseen (hseen : e.peerQpackEncoderSeen = false) :
    SameWhenCut capacity e bytes := by
  intro x y _ chunks hchunks _
  obtain ⟨chunk, chunks, rfl⟩ := List.exists_cons_of_ne_nil hchunks
  rw [feedEncoder, http3EndpointOnQpackEncoderBytes, encoderBytesWithin_unseen hseen,
    advertisedRun, encoderBytesWithin_unseen hseen]
  exact if_neg (by simp [Reply.good])

/-- The bytes of two chunks, of which the first is whole instructions that raise nothing. -/
lemma feedEncoder_two (hseen : e.peerQpackEncoderSeen = true) (hset : e.decoderCapacitySet = true)
    (hwithin : e.decoderTable.capacity ≤ capacity)
    (hraises : NeverRaises capacity e.decoderTable x)
    (hrun : encoderRun capacity e.decoderTable x = ⟨t', [], none⟩) :
    feedEncoder e [] [x, y] =
      ((http3EndpointOnQpackEncoderBytes { e with
          decoderTable := t', decoderInsertCount := t'.insertCount } y).endpoint,
        (http3EndpointOnQpackEncoderBytes { e with
          decoderTable := t', decoderInsertCount := t'.insertCount } y).reply) := by
  rw [feedEncoder, List.nil_append, onQpackEncoderBytes_agree hwithin hraises,
    encoderBytesWithin_ok hseen hset hrun]
  dsimp only
  rw [if_pos rfl, feedEncoder, List.nil_append]
  split_ifs with hgood
  · rw [feedEncoder, hgood]
  · rfl

/-- Where cuts make no difference, nothing is raised: a cut before the instruction would have it
refused. -/
lemma SameWhenCut.neverRaises (h : SameWhenCut capacity e bytes)
    (hseen : e.peerQpackEncoderSeen = true) (hset : e.decoderCapacitySet = true)
    (hwithin : e.decoderTable.capacity ≤ capacity) :
    NeverRaises capacity e.decoderTable bytes := by
  intro x
  induction hlength : x.length using Nat.strongRecOn generalizing x with
  | _ n ih =>
    subst hlength
    rintro y t c rest rfl hrun hread hadvertised
    have hstable := stableStep_encoderStep capacity
    obtain ⟨q, hne, rfl, hpart⟩ := encoderInstructionRead_part hread
    -- The first instruction that raises: none before it does.
    have hbefore : NeverRaises capacity e.decoderTable x := by
      rintro x' y' t₁ c₁ rest₁ rfl hrun₁ hread₁ hadvertised₁
      obtain ⟨q₁, hne₁, rfl, hpart₁⟩ := encoderInstructionRead_part hread₁
      have hshorter : x'.length < (x' ++ (q₁ ++ rest₁)).length := by
        have hpos := List.length_pos_of_ne_nil hne₁
        rw [List.length_append, List.length_append]
        omega
      apply ih x'.length hshorter x' rfl ((q₁ ++ rest₁) ++ (q ++ rest)) t₁ c₁
        (rest₁ ++ (q ++ rest)) (List.append_assoc _ _ _) hrun₁ _ hadvertised₁
      rw [List.append_assoc]
      exact hpart₁ _
    by_contra hraised
    have hq : encoderInstructionRead q = .ok (.setCapacity c, []) := by
      have hwhole := hpart []
      rwa [List.append_nil] at hwhole
    have hsame := h (x ++ q) rest (List.append_assoc _ _ _).symm [x, q] (List.cons_ne_nil _ _)
      (by simp)
    rw [feedEncoder_two hseen hset hwithin hbefore hrun] at hsame
    have hreplies := congrArg Prod.snd hsame
    -- Under the bound of the table as it is then, the instruction is refused.
    have hrefused : encoderRun t.capacity t q = ⟨t, q, some .protocol⟩ := by
      have hstep : encoderStep t.capacity t q = (t, .error .protocol) := by
        refine encoderStep_error.mpr (.inr ⟨_, _, hq, ?_, fun h => by cases h⟩)
        rw [encoderInstructionApply, if_pos (not_le.mp hraised)]
      rw [encoderRun, Reader.run_stops hne hstep]
      rfl
    -- Under the bound that was advertised, it is applied.
    have happlied : encoderRun capacity e.decoderTable (x ++ q) =
        ⟨qpackDynamicSetCapacity t c, [], none⟩ := by
      have hstep : encoderStep capacity t q = (qpackDynamicSetCapacity t c, .ok []) := by
        refine encoderStep_ok.mpr ⟨_, hq, ?_⟩
        rw [encoderInstructionApply, if_neg (not_lt.mpr hadvertised)]
      rw [encoderRun, Reader.run_whole hstable hrun, Reader.run_ok hstable hne hstep,
        Reader.run_nil]
    rw [advertisedRun, encoderBytesWithin_ok hseen hset happlied, http3EndpointOnQpackEncoderBytes,
      encoderBytesWithin_refused (e := { e with decoderTable := t, decoderInsertCount := _ })
        hseen hset hrefused] at hreplies
    cases hreplies

/-- Where cuts make no difference, nothing is inserted before a refusal: a cut before the
instruction refused would have it counted. -/
lemma SameWhenCut.refusedUncounted (h : SameWhenCut capacity e bytes)
    (hseen : e.peerQpackEncoderSeen = true) (hset : e.decoderCapacitySet = true)
    (hwithin : e.decoderTable.capacity ≤ capacity) :
    RefusedUncounted capacity e.decoderTable e.decoderInsertCount bytes := by
  intro t' tail status hrun
  have hstable := stableStep_encoderStep capacity
  have hraises := h.neverRaises hseen hset hwithin
  obtain ⟨p, t, rfl, hpart, hne, hstep, -⟩ := Reader.run_refusal hstable hrun
  have hsame := h (p ++ tail) [] (List.append_nil _).symm [p, tail] (List.cons_ne_nil _ _)
    (by simp)
  have hcapacity : t.capacity ≤ capacity := by
    have hbounds := (encoderRun_bounds hwithin p).1
    rwa [encoderRun, hpart] at hbounds
  have hrefused : encoderRun capacity t tail = ⟨t', tail, some status⟩ := by
    rw [encoderRun, ← Reader.run_whole hstable hpart]
    exact hrun
  have hlater : http3EndpointOnQpackEncoderBytes { e with
      decoderTable := t, decoderInsertCount := t.insertCount } tail =
      encoderBytesWithin capacity { e with
        decoderTable := t, decoderInsertCount := t.insertCount } tail :=
    onQpackEncoderBytes_agree hcapacity (hraises.after hpart)
  rw [feedEncoder_two hseen hset hwithin hraises.start hpart, hlater,
    encoderBytesWithin_refused (e := { e with decoderTable := t, decoderInsertCount := _ })
      hseen hset hrefused, advertisedRun, encoderBytesWithin_refused hseen hset hrun] at hsame
  have hcounts := congrArg (fun r => r.1.decoderInsertCount) hsame
  exact (encoderStep_stops hstep).2.trans hcounts

end Cuts

/-- **Cutting the encoder stream changes nothing exactly when no instruction raises the capacity
of the table and none is refused after an insertion.** The endpoint has advertised a capacity,
and the peer's encoder stream is known. -/
theorem encoderCuts_harmless_iff {capacity n : ℕ} {e : MessageEndpoint}
    (h : DecoderReached capacity n e) (bytes : List UInt8) :
    SameWhenCut capacity e bytes ↔ (e.peerQpackEncoderSeen = true →
      NeverRaises capacity e.decoderTable bytes ∧
        RefusedUncounted capacity e.decoderTable e.decoderInsertCount bytes) := by
  obtain ⟨hset, -, hwithin, hcounted, -⟩ := h.advertised
  constructor
  · intro hsame hseen
    exact ⟨hsame.neverRaises hseen hset hwithin, hsame.refusedUncounted hseen hset hwithin⟩
  · intro hcondition
    cases hseen : e.peerQpackEncoderSeen with
    | false => exact sameWhenCut_unseen hseen
    | true =>
      obtain ⟨hraises, hrefused⟩ := hcondition hseen
      rintro x y rfl chunks hchunks rfl
      obtain ⟨chunk, chunks, rfl⟩ := List.exists_cons_of_ne_nil hchunks
      rw [List.flatten_cons] at hraises hrefused ⊢
      have hstart : RefusedUncounted capacity e.decoderTable e.decoderInsertCount
          (chunk ++ chunks.flatten) := by
        intro t' tail status hrun
        apply hrefused t' (tail ++ y) status
        rw [encoderRun] at hrun
        rw [encoderRun, Reader.run_append (stableStep_encoderStep capacity), hrun]
      exact feedEncoder_eq hseen hset hwithin hcounted chunk hraises.start hstart

/-- Set the capacity to 32. -/
def lowerCapacity : List UInt8 := [0x3f, 0x01]

/-- Set the capacity to 64 again. -/
def restoreCapacity : List UInt8 := [0x3f, 0x21]

theorem lowerCapacity_sameWhenCut : SameWhenCut 64 grantedDecoder lowerCapacity := by
  refine (encoderCuts_harmless_iff grantedDecoder_reached lowerCapacity).mpr fun _ => ⟨?_, ?_⟩
  · intro x y t c rest hsplit hrun hread _
    rw [lowerCapacity, eq_comm, List.append_eq_cons_iff] at hsplit
    rcases hsplit with ⟨rfl, rfl⟩ | ⟨x, rfl, hsplit⟩
    · cases hrun
      cases hread
      decide
    · rw [eq_comm, List.append_eq_cons_iff] at hsplit
      rcases hsplit with ⟨rfl, rfl⟩ | ⟨x, rfl, hsplit⟩
      · cases hrun
      · obtain ⟨rfl, rfl⟩ := List.append_eq_nil_iff.mp hsplit.symm
        cases hread
  · intro t tail status hrun
    cases hrun

/-- **A capacity that is lowered and restored.** One call applies both instructions; cut between
them, the second is refused. -/
theorem restoreCapacity_cut :
    DecoderReached 64 0 grantedDecoder ∧
      (http3EndpointOnQpackEncoderBytes grantedDecoder (lowerCapacity ++ restoreCapacity)).reply =
        Reply.good ∧
      (feedEncoder grantedDecoder [] [lowerCapacity, restoreCapacity]).2 =
        (.protocol, .qpackEncoderStreamError) ∧
      ¬SameWhenCut 64 grantedDecoder (lowerCapacity ++ restoreCapacity) := by
  refine ⟨grantedDecoder_reached, by decide, by decide, ?_⟩
  intro hsame
  have hcut := hsame _ [] (List.append_nil _).symm [lowerCapacity, restoreCapacity]
    (List.cons_ne_nil _ _) (by simp)
  revert hcut
  decide

end WebTransport
