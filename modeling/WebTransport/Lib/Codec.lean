import WebTransport.Lib.BigEndian
import WebTransport.Lib.Guard

/-!
# Readers of one writing

A reader takes a value off the front of its input. It is the reader of a writing when it reads
exactly what that writing puts in front of any rest: then every value has one text, every text has
one reading, and both can be followed through the links of a decoder. The basic readers take a fixed
number of items or a big-endian number; `items` is the loop that reads a region to its end.
-/

namespace Codec

variable {ε : Type} {α β γ : Type}

/-- `read` reads what `write` writes of the valid values, and nothing else. -/
def Reads (valid : β → Prop) (write : β → List α) (read : List α → Except ε (β × List α)) :
    Prop :=
  ∀ x b rest, read x = .ok (b, rest) ↔ valid b ∧ x = write b ++ rest

/-- `decode` reads a whole input in the same way. -/
def Decodes (valid : β → Prop) (write : β → List α) (decode : List α → Except ε β) : Prop :=
  ∀ x b, decode x = .ok b ↔ valid b ∧ x = write b

/-! ## Links of a decoder -/

section Links

variable {e : ε} {c : Prop} [Decidable c]

lemma guard_eq_ok {x : Except ε γ} {a : γ} :
    (if c then .error e else x) = .ok a ↔ ¬c ∧ x = .ok a := by
  refine ⟨Guard.of_ok, ?_⟩
  rintro ⟨hc, hx⟩
  rw [if_neg hc, hx]

/-- A reader before the rest of a decoder. -/
lemma Reads.bind_eq_ok {valid : β → Prop} {write : β → List α}
    {read : List α → Except ε (β × List α)} (h : Reads valid write read) {x : List α}
    {f : β × List α → Except ε γ} {a : γ} :
    (read x >>= f) = .ok a ↔
      ∃ b rest, valid b ∧ x = write b ++ rest ∧ f (b, rest) = .ok a := by
  constructor
  · intro hbind
    obtain ⟨⟨b, rest⟩, hread, hf⟩ := Guard.of_bind_ok hbind
    obtain ⟨hvalid, hx⟩ := (h x b rest).mp hread
    exact ⟨b, rest, hvalid, hx, hf⟩
  · rintro ⟨b, rest, hvalid, hx, hf⟩
    rw [(h x b rest).mpr ⟨hvalid, hx⟩]
    exact hf

/-- A decoder of a region before the rest. -/
lemma Decodes.bind_eq_ok {valid : β → Prop} {write : β → List α} {decode : List α → Except ε β}
    (h : Decodes valid write decode) {x : List α} {f : β → Except ε γ} {a : γ} :
    (decode x >>= f) = .ok a ↔ ∃ b, valid b ∧ x = write b ∧ f b = .ok a := by
  constructor
  · intro hbind
    obtain ⟨b, hdecode, hf⟩ := Guard.of_bind_ok hbind
    obtain ⟨hvalid, hx⟩ := (h x b).mp hdecode
    exact ⟨b, hvalid, hx, hf⟩
  · rintro ⟨b, hvalid, hx, hf⟩
    rw [(h x b).mpr ⟨hvalid, hx⟩]
    exact hf

end Links

/-! ## Basic readers -/

/-- Take `n` items, or fail when there are fewer. -/
def take (short : ε) (n : ℕ) (x : List α) : Except ε (List α × List α) :=
  if x.length < n then .error short else .ok (x.take n, x.drop n)

lemma reads_take (short : ε) (n : ℕ) :
    Reads (fun b : List α => b.length = n) id (take short n) := by
  intro x b rest
  rw [take, guard_eq_ok, Except.ok.injEq, Prod.mk.injEq, not_lt]
  constructor
  · rintro ⟨hlength, rfl, rfl⟩
    exact ⟨List.length_take_of_le hlength, (List.take_append_drop n x).symm⟩
  · rintro ⟨rfl, rfl⟩
    exact ⟨by simp, List.take_left, List.drop_left⟩

/-- Read a number of `n` bytes. -/
def readBe (short : ε) (n : ℕ) (x : List UInt8) : Except ε (ℕ × List UInt8) := do
  let (bytes, rest) ← take short n x
  return (bytes.foldl BigEndian.push 0, rest)

lemma reads_readBe (short : ε) (n : ℕ) :
    Reads (fun v => v < 256 ^ n) (BigEndian.bytes n) (readBe short n) := by
  intro x v rest
  rw [readBe, (reads_take short n).bind_eq_ok]
  constructor
  · rintro ⟨bytes, left, rfl, rfl, h⟩
    cases h
    exact ⟨BigEndian.foldl_push_lt bytes, by rw [BigEndian.bytes_foldl_push, id]⟩
  · rintro ⟨hv, rfl⟩
    refine ⟨_, rest, BigEndian.length_bytes n v, rfl, ?_⟩
    dsimp only
    rw [BigEndian.foldl_push_bytes, Nat.zero_mul, Nat.zero_add, Nat.mod_eq_of_lt hv]
    rfl

/-- Read `n` values. -/
def times (read : List α → Except ε (β × List α)) : ℕ → List α → Except ε (List β × List α)
  | 0, x => .ok ([], x)
  | n + 1, x => do
    let (b, x) ← read x
    let (more, x) ← times read n x
    return (b :: more, x)

lemma Reads.times {valid : β → Prop} {write : β → List α} {read : List α → Except ε (β × List α)}
    (h : Reads valid write read) (n : ℕ) :
    Reads (fun l : List β => l.length = n ∧ ∀ b ∈ l, valid b) (List.flatMap write)
      (times read n) := by
  induction n with
  | zero =>
    intro x l rest
    rw [Codec.times, Except.ok.injEq, Prod.mk.injEq]
    constructor
    · rintro ⟨rfl, rfl⟩
      exact ⟨⟨rfl, nofun⟩, rfl⟩
    · rintro ⟨⟨hlength, -⟩, hx⟩
      obtain rfl := List.length_eq_zero_iff.mp hlength
      exact ⟨rfl, hx⟩
  | succ n ih =>
    intro x l rest
    rw [Codec.times, h.bind_eq_ok]
    constructor
    · rintro ⟨b, y, hb, rfl, hmore⟩
      obtain ⟨more, z, ⟨rfl, hall⟩, rfl, hdone⟩ := ih.bind_eq_ok.mp hmore
      cases hdone
      refine ⟨⟨rfl, List.forall_mem_cons.mpr ⟨hb, hall⟩⟩, ?_⟩
      rw [List.flatMap_cons, List.append_assoc]
    · rintro ⟨⟨hlength, hall⟩, rfl⟩
      cases l with
      | nil => cases hlength
      | cons b more =>
        obtain ⟨hb, hall⟩ := List.forall_mem_cons.mp hall
        refine ⟨b, more.flatMap write ++ rest, hb, ?_, ?_⟩
        · rw [List.flatMap_cons, List.append_assoc]
        · exact ih.bind_eq_ok.mpr ⟨more, rest, ⟨Nat.succ.inj hlength, hall⟩, rfl, rfl⟩

/-! ## Regions -/

/-- The loop that reads items until the region ends: not more than `max` of them, and none that
`clash` says does not go with those before it. Every item has a length, so that `fuel` as large as
the region is enough. -/
def items (full clashing : ε) (max : ℕ) (clash : List β → β → Bool)
    (read : List α → Except ε (β × List α)) : ℕ → List β → List α → Except ε (List β)
  | _, before, [] => .ok before
  | 0, _, _ :: _ => .error full
  | fuel + 1, before, region =>
    if before.length = max then .error full
    else do
      let (item, rest) ← read region
      if clash before item then .error clashing
      else items full clashing max clash read fuel (before ++ [item]) rest

/-- Items that go together, one after another. -/
def Agree (clash : List β → β → Bool) : List β → List β → Prop
  | _, [] => True
  | before, item :: more => clash before item = false ∧ Agree clash (before ++ [item]) more

section Items

variable {full clashing : ε} {max : ℕ} {clash : List β → β → Bool}
  {read : List α → Except ε (β × List α)} {valid : β → Prop} {write : β → List α}

lemma items_nil_eq_ok (hlong : ∀ b, valid b → write b ≠ []) {fuel : ℕ} {before all : List β}
    (hmax : before.length ≤ max) :
    items full clashing max clash read fuel before [] = .ok all ↔
      ∃ more, all = before ++ more ∧ [] = more.flatMap write ∧ (∀ b ∈ more, valid b) ∧
        Agree clash before more ∧ all.length ≤ max := by
  have hdone : items full clashing max clash read fuel before [] = .ok before := by
    cases fuel <;> rfl
  rw [hdone, Except.ok.injEq]
  constructor
  · rintro rfl
    exact ⟨[], (List.append_nil _).symm, rfl, nofun, trivial, hmax⟩
  · rintro ⟨more, rfl, hregion, hall, -, -⟩
    cases more with
    | nil => exact (List.append_nil _).symm
    | cons item more =>
      exact absurd (List.append_eq_nil_iff.mp hregion.symm).1
        (hlong item (hall item (List.mem_cons_self ..)))

lemma items_succ (fuel : ℕ) (before : List β) (first : α) (region : List α) :
    items full clashing max clash read (fuel + 1) before (first :: region) =
      if before.length = max then .error full
      else read (first :: region) >>= fun r =>
        if clash before r.1 then .error clashing
        else items full clashing max clash read fuel (before ++ [r.1]) r.2 := rfl

lemma items_eq_ok (hread : Reads valid write read) (hlong : ∀ b, valid b → write b ≠ [])
    {fuel : ℕ} {before all : List β} {region : List α} (hfuel : region.length ≤ fuel)
    (hmax : before.length ≤ max) :
    items full clashing max clash read fuel before region = .ok all ↔
      ∃ more, all = before ++ more ∧ region = more.flatMap write ∧ (∀ b ∈ more, valid b) ∧
        Agree clash before more ∧ all.length ≤ max := by
  induction fuel generalizing before region with
  | zero =>
    obtain rfl : region = [] := List.length_eq_zero_iff.mp (Nat.le_zero.mp hfuel)
    exact items_nil_eq_ok hlong hmax
  | succ fuel ih =>
    cases region with
    | nil => exact items_nil_eq_ok hlong hmax
    | cons first region =>
      have hshorter : ∀ {item rest}, valid item → first :: region = write item ++ rest →
          rest.length ≤ fuel := by
        intro item rest hvalid hsplit
        have hlength := congrArg List.length hsplit
        have hpos := List.length_pos_iff.mpr (hlong item hvalid)
        rw [List.length_cons, List.length_append] at hlength
        rw [List.length_cons] at hfuel
        omega
      rw [items_succ, guard_eq_ok, hread.bind_eq_ok]
      constructor
      · rintro ⟨hroom, item, rest, hvalid, hsplit, h⟩
        obtain ⟨hagree, h⟩ := Guard.of_ok h
        have hcount : (before ++ [item]).length ≤ max := by
          rw [List.length_append, List.length_singleton]
          omega
        obtain ⟨more, rfl, rfl, hall, hagrees, hlength⟩ :=
          (ih (hshorter hvalid hsplit) hcount).mp h
        refine ⟨item :: more, by rw [List.append_assoc, List.singleton_append], ?_, ?_, ?_,
          hlength⟩
        · rw [hsplit, List.flatMap_cons]
        · exact List.forall_mem_cons.mpr ⟨hvalid, hall⟩
        · exact ⟨by simpa using hagree, hagrees⟩
      · rintro ⟨more, rfl, hregion, hall, hagree, hlength⟩
        cases more with
        | nil => cases hregion
        | cons item more =>
          obtain ⟨hvalid, hall⟩ := List.forall_mem_cons.mp hall
          obtain ⟨hfresh, hagree⟩ := hagree
          rw [List.flatMap_cons] at hregion
          rw [List.length_append, List.length_cons] at hlength
          refine ⟨by omega, item, _, hvalid, hregion, ?_⟩
          dsimp only
          rw [if_neg (by rw [hfresh]; exact nofun)]
          have hcount : (before ++ [item]).length ≤ max := by
            rw [List.length_append, List.length_singleton]
            omega
          refine (ih (hshorter hvalid hregion) hcount).mpr ⟨more, ?_, rfl, hall, hagree, ?_⟩
          · rw [List.append_assoc, List.singleton_append]
          · rw [List.length_append, List.length_cons]
            omega

lemma agree_of_never (before more : List β) : Agree (fun _ _ => false) before more := by
  induction more generalizing before with
  | nil => trivial
  | cons item more ih => exact ⟨rfl, ih _⟩

/-- Items that clash when they have the same key. -/
lemma agree_iff_nodup {κ : Type} [DecidableEq κ] (key : β → κ) (before more : List β) :
    Agree (fun before item => before.any fun other => key other = key item) before more ↔
      (∀ item ∈ more, key item ∉ before.map key) ∧ (more.map key).Nodup := by
  induction more generalizing before with
  | nil => simp [Agree]
  | cons item more ih =>
    rw [Agree, ih]
    simp only [List.any_eq_false, decide_eq_true_eq, List.map_append, List.map_cons, List.map_nil,
      List.mem_append, List.mem_map, List.mem_singleton, List.forall_mem_cons, List.nodup_cons,
      not_or, not_exists, not_and]
    constructor
    · rintro ⟨hitem, hmore, hnodup⟩
      exact ⟨⟨hitem, fun other hother => (hmore other hother).1⟩,
        fun other hother heq => (hmore other hother).2 heq, hnodup⟩
    · rintro ⟨⟨hitem, hmore⟩, hfresh, hnodup⟩
      exact ⟨hitem, fun other hother => ⟨hmore other hother, hfresh other hother⟩, hnodup⟩

end Items

end Codec
