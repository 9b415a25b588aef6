import WebTransport.Http3.FrameTurn
import WebTransport.Http3.Route

/-!
# Stream prefixes

What the prefix of a stream says, read from all of its bytes at once, and that the two
assemblies of `http3/driver_stream.c` and `http3/driver_route.c` arrive at the same reading
however the bytes were cut.
-/

namespace WebTransport

/-! ## Integers at the start of a stream -/

lemma prefixNeeded_pos (first : UInt8) : 0 < prefixNeeded first := by
  unfold prefixNeeded
  rw [Nat.one_shiftLeft]
  positivity

/-- An integer whose bytes are not all there. -/
lemma quicVarintDecode_short {first : UInt8} {c : List UInt8}
    (h : (first :: c).length < prefixNeeded first) :
    quicVarintDecode (first :: c) = .error .truncated := by
  unfold prefixNeeded at h
  rw [List.length_cons] at h
  simp only [quicVarintDecode, quicVarintDecodeSized]
  rw [if_pos (by omega)]
  rfl

/-- An integer whose bytes are all there: what it takes is told by its first byte. -/
lemma quicVarintDecode_full {first : UInt8} {c : List UInt8}
    (h : prefixNeeded first ≤ (first :: c).length) :
    ∃ v, quicVarintDecode (first :: c) = .ok (v, (first :: c).drop (prefixNeeded first)) ∧
      quicVarintDecode ((first :: c).take (prefixNeeded first)) = .ok (v, []) := by
  have hpos := prefixNeeded_pos first
  obtain ⟨n, hn⟩ : ∃ n, prefixNeeded first = n + 1 := ⟨prefixNeeded first - 1, by omega⟩
  rw [hn] at h ⊢
  rw [List.length_cons] at h
  unfold prefixNeeded at hn
  refine ⟨(c.take n).foldl BigEndian.push (first.toNat &&& 0x3F), ?_, ?_⟩
  · simp only [quicVarintDecode, quicVarintDecodeSized, hn, Nat.add_sub_cancel]
    rw [if_neg (by omega)]
    simp [Except.map]
  · simp only [quicVarintDecode, quicVarintDecodeSized, hn, Nat.add_sub_cancel,
      List.take_succ_cons, List.length_take]
    rw [if_neg (by omega)]
    simp [Except.map, List.take_take]

/-- The only way an integer is refused is that it is not complete. -/
lemma quicVarintDecode_error {c : List UInt8} {e : Status} (h : quicVarintDecode c = .error e) :
    e = .truncated := by
  cases c with
  | nil =>
    cases h
    rfl
  | cons first c =>
    by_cases hlen : (first :: c).length < prefixNeeded first
    · rw [quicVarintDecode_short hlen] at h
      cases h
      rfl
    · obtain ⟨v, hv, -⟩ := quicVarintDecode_full (not_lt.mp hlen)
      rw [hv] at h
      cases h

/-- What is left after an integer is the end of the bytes it was read from. -/
lemma quicVarintDecode_suffix {c rest : List UInt8} {v : ℕ}
    (h : quicVarintDecode c = .ok (v, rest)) :
    ∃ used, c = used ++ rest ∧ quicVarintDecode used = .ok (v, []) := by
  cases c with
  | nil => cases h
  | cons first c =>
    by_cases hlen : (first :: c).length < prefixNeeded first
    · rw [quicVarintDecode_short hlen] at h
      cases h
    · obtain ⟨v', hv, htake⟩ := quicVarintDecode_full (not_lt.mp hlen)
      rw [hv] at h
      cases h
      exact ⟨_, (List.take_append_drop _ _).symm, htake⟩

/-! ## The prefix of a unidirectional stream -/

/-- The stream's type, the session a WebTransport stream names, and the bytes after the
prefix; `none` while the prefix is incomplete. -/
def readUniPrefix (bytes : List UInt8) : Option (ℕ × Option ℕ × List UInt8) :=
  match quicVarintDecode bytes with
  | .error _ => none
  | .ok (type, rest) =>
    if type ≠ webtransportStreamUni then some (type, none, rest)
    else
      match quicVarintDecode rest with
      | .error _ => none
      | .ok (sessionId, rest) => some (type, some sessionId, rest)

section Uni

variable {bytes more rest held data : List UInt8} {type : ℕ} {session : Option ℕ}

/-- Bytes after a complete prefix do not change it. -/
lemma readUniPrefix_append (h : readUniPrefix bytes = some (type, session, rest))
    (more : List UInt8) : readUniPrefix (bytes ++ more) = some (type, session, rest ++ more) := by
  unfold readUniPrefix at h ⊢
  cases htype : quicVarintDecode bytes with
  | error e =>
    rw [htype] at h
    cases h
  | ok r =>
    obtain ⟨t, r⟩ := r
    rw [quicVarintDecode_append htype]
    rw [htype] at h
    dsimp only at h ⊢
    split_ifs at h ⊢ with huni
    · cases h
      rfl
    · cases hsession : quicVarintDecode r with
      | error e =>
        rw [hsession] at h
        cases h
      | ok q =>
        obtain ⟨i, q⟩ := q
        rw [quicVarintDecode_append hsession]
        rw [hsession] at h
        cases h
        rfl

/-- A prefix that is incomplete was incomplete with fewer bytes. -/
lemma readUniPrefix_none_left (h : readUniPrefix (bytes ++ more) = none) :
    readUniPrefix bytes = none := by
  cases hread : readUniPrefix bytes with
  | none => rfl
  | some r =>
    obtain ⟨t, i, r⟩ := r
    rw [readUniPrefix_append hread] at h
    cases h

/-- The length the source asks for tells whether the prefix is complete, and how much of it
there is. -/
lemma uniPrefixLength_spec (bytes : List UInt8) :
    match readUniPrefix bytes with
    | none => bytes.length < uniPrefixLength bytes
    | some (_, _, rest) => uniPrefixLength bytes + rest.length = bytes.length := by
  cases bytes with
  | nil => simp [readUniPrefix, quicVarintDecode, quicVarintDecodeSized, uniPrefixLength,
      Except.map]
  | cons first c =>
    unfold readUniPrefix uniPrefixLength
    by_cases hlen : (first :: c).length < prefixNeeded first
    · rw [quicVarintDecode_short hlen]
      dsimp only
      rw [if_pos hlen]
      exact hlen
    · obtain ⟨t, hfull, htake⟩ := quicVarintDecode_full (not_lt.mp hlen)
      have hle := not_lt.mp hlen
      rw [hfull]
      dsimp only
      rw [if_neg hlen, htake]
      dsimp only
      by_cases huni : t ≠ webtransportStreamUni
      · rw [if_pos huni, if_pos huni]
        dsimp only
        rw [List.length_drop]
        omega
      · rw [if_neg huni, if_neg huni]
        have hdrop : ((first :: c).drop (prefixNeeded first)).length =
            (first :: c).length - prefixNeeded first := List.length_drop
        cases hr : (first :: c).drop (prefixNeeded first) with
        | nil =>
          rw [hr] at hdrop
          rw [List.length_nil] at hdrop
          simp only [quicVarintDecode, quicVarintDecodeSized, Except.map]
          omega
        | cons second c' =>
          rw [hr] at hdrop
          by_cases hshort : (second :: c').length < prefixNeeded second
          · rw [quicVarintDecode_short hshort]
            dsimp only
            omega
          · obtain ⟨i, hi, -⟩ := quicVarintDecode_full (not_lt.mp hshort)
            rw [hi]
            dsimp only
            rw [List.length_drop]
            omega

lemma length_lt_of_readUniPrefix_none (h : readUniPrefix bytes = none) :
    bytes.length < uniPrefixLength bytes := by
  have hspec := uniPrefixLength_spec bytes
  rw [h] at hspec
  exact hspec

lemma length_of_readUniPrefix_some (h : readUniPrefix bytes = some (type, session, rest)) :
    uniPrefixLength bytes + rest.length = bytes.length := by
  have hspec := uniPrefixLength_spec bytes
  rw [h] at hspec
  exact hspec

lemma uniPrefixLength_le_append (bytes more : List UInt8) :
    uniPrefixLength bytes ≤ uniPrefixLength (bytes ++ more) := by
  cases bytes with
  | nil =>
    cases more with
    | nil => exact le_refl _
    | cons first c =>
      have hpos := prefixNeeded_pos first
      simp only [List.nil_append, uniPrefixLength]
      repeat' split
      all_goals omega
  | cons first c =>
    rw [List.cons_append]
    unfold uniPrefixLength
    by_cases hlen : (first :: c).length < prefixNeeded first
    · dsimp only
      rw [if_pos hlen]
      repeat' split
      all_goals omega
    · have hle := not_lt.mp hlen
      have hlen' : ¬ (first :: (c ++ more)).length < prefixNeeded first := by
        rw [← List.cons_append, List.length_append]
        omega
      have htake : (first :: (c ++ more)).take (prefixNeeded first) =
          (first :: c).take (prefixNeeded first) := by
        rw [← List.cons_append, List.take_append_of_le_length hle]
      have hdrop : (first :: (c ++ more)).drop (prefixNeeded first) =
          (first :: c).drop (prefixNeeded first) ++ more := by
        rw [← List.cons_append, List.drop_append_of_le_length hle]
      dsimp only
      rw [if_neg hlen, if_neg hlen', htake, hdrop]
      cases quicVarintDecode ((first :: c).take (prefixNeeded first)) with
      | error e => exact le_refl _
      | ok r =>
        dsimp only
        split_ifs
        · exact le_refl _
        · cases (first :: c).drop (prefixNeeded first) with
          | nil =>
            cases more with
            | nil => exact le_refl _
            | cons second c' =>
              have hpos := prefixNeeded_pos second
              simp only [List.nil_append]
              omega
          | cons second c' => exact le_refl _

/-- The assembly keeps every byte while the prefix is incomplete. -/
lemma assemblePrefix_incomplete {fuel : ℕ} (hfuel : data.length < fuel)
    (h : readUniPrefix (held ++ data) = none) :
    assemblePrefix fuel held data = (held ++ data, []) := by
  induction fuel generalizing held data with
  | zero => omega
  | succ fuel ih =>
    have hheld : held.length < uniPrefixLength held :=
      length_lt_of_readUniPrefix_none (readUniPrefix_none_left h)
    rw [assemblePrefix]
    by_cases hdata : data = []
    · subst hdata
      rw [if_pos (by simp)]
      simp
    · have hpos := List.length_pos_of_ne_nil hdata
      rw [if_neg (by omega)]
      have hsplit : held ++ data.take (min (uniPrefixLength held - held.length) data.length) ++
          data.drop (min (uniPrefixLength held - held.length) data.length) = held ++ data := by
        rw [List.append_assoc, List.take_append_drop]
      rw [ih (by rw [List.length_drop]; omega) (by rw [hsplit]; exact h), hsplit]

/-- Once the prefix is complete the assembly has taken it and nothing else. -/
lemma assemblePrefix_complete {fuel : ℕ} (hfuel : data.length < fuel)
    (hnone : readUniPrefix held = none)
    (h : readUniPrefix (held ++ data) = some (type, session, rest)) :
    ∃ P, assemblePrefix fuel held data = (P, rest) ∧ held ++ data = P ++ rest ∧
      readUniPrefix P = some (type, session, []) := by
  induction fuel generalizing held data with
  | zero => omega
  | succ fuel ih =>
    have hheld := length_lt_of_readUniPrefix_none hnone
    have hdata : data ≠ [] := by
      rintro rfl
      rw [List.append_nil, hnone] at h
      cases h
    have hpos := List.length_pos_of_ne_nil hdata
    rw [assemblePrefix]
    rw [if_neg (by omega)]
    set want := min (uniPrefixLength held - held.length) data.length with hwant
    have hsplit : held ++ data.take want ++ data.drop want = held ++ data := by
      rw [List.append_assoc, List.take_append_drop]
    have hlen : (held ++ data.take want).length = held.length + want := by
      rw [List.length_append, List.length_take]
      omega
    cases hread : readUniPrefix (held ++ data.take want) with
    | none =>
      have hshorter : (data.drop want).length < fuel := by
        rw [List.length_drop]
        omega
      obtain ⟨P, hP, heq, hreadP⟩ := ih hshorter hread (by rw [hsplit]; exact h)
      exact ⟨P, hP, by rw [← hsplit]; exact heq, hreadP⟩
    | some r =>
      obtain ⟨t, i, r⟩ := r
      -- What was asked for is at most what the complete prefix takes, so nothing is left over.
      have hmono := uniPrefixLength_le_append held (data.take want)
      have hspec := length_of_readUniPrefix_some hread
      have hr : r = [] := List.eq_nil_of_length_eq_zero (by omega)
      subst hr
      have happend := readUniPrefix_append hread (data.drop want)
      rw [hsplit, h] at happend
      obtain ⟨rfl, rfl, hrest⟩ : type = t ∧ session = i ∧ rest = data.drop want := by
        simpa using happend
      subst hrest
      refine ⟨held ++ data.take want, ?_, hsplit.symm, hread⟩
      cases fuel with
      | zero => omega
      | succ fuel =>
        have hdone : (held ++ data.take want).length ≥
            uniPrefixLength (held ++ data.take want) := by
          rw [List.length_nil] at hspec
          omega
        rw [assemblePrefix, if_pos (.inl hdone)]

end Uni

/-! ## The start of a bidirectional stream -/

section Bidi

variable {bytes more : List UInt8} {start : BidiStart}

/-- Bytes after a start that is classified do not change what it is. -/
lemma http3DriverClassifyBidiStart_append (h : http3DriverClassifyBidiStart bytes = .ok start)
    (more : List UInt8) : http3DriverClassifyBidiStart (bytes ++ more) = .ok start := by
  unfold http3DriverClassifyBidiStart at h ⊢
  cases htype : quicVarintDecode bytes with
  | error e =>
    rw [htype] at h
    cases h
  | ok r =>
    obtain ⟨t, r⟩ := r
    rw [quicVarintDecode_append htype]
    rw [htype] at h
    dsimp only at h ⊢
    split_ifs at h ⊢ with hbidi
    · exact h
    · cases hsession : quicVarintDecode r with
      | error e =>
        rw [hsession] at h
        cases h
      | ok q =>
        obtain ⟨i, q⟩ := q
        rw [quicVarintDecode_append hsession]
        rw [hsession] at h
        cases h
        simp only [List.length_append, Nat.add_sub_add_right]

lemma http3DriverClassifyBidiStart_of_length (h : http3DriverPrefixMax ≤ bytes.length) :
    ∃ start, http3DriverClassifyBidiStart bytes = .ok start := by
  unfold http3DriverPrefixMax at h
  obtain ⟨t, r, htype, hr⟩ := quicVarintDecode_of_length (c := bytes) (by omega)
  obtain ⟨i, q, hsession, -⟩ := quicVarintDecode_of_length (c := r) (by omega)
  unfold http3DriverClassifyBidiStart
  rw [htype]
  dsimp only
  split_ifs
  · exact ⟨_, rfl⟩
  · rw [hsession]
    exact ⟨_, rfl⟩

variable {held data : List UInt8}

/-- The bytes assembled of a bidirectional stream's start: what is held and as much of the
frame as fits. -/
def assembledStart (held data : List UInt8) : List UInt8 :=
  held ++ data.take (min data.length (http3DriverPrefixMax - held.length))

/-- The bytes of the frame that the assembly had no room for. -/
def beyondStart (held data : List UInt8) : List UInt8 :=
  data.drop (min data.length (http3DriverPrefixMax - held.length))

lemma assembledStart_append (held data : List UInt8) :
    assembledStart held data ++ beyondStart held data = held ++ data := by
  rw [assembledStart, beyondStart, List.append_assoc, List.take_append_drop]

/-- When something did not fit, the buffer is full. -/
lemma length_assembledStart (hheld : held.length ≤ http3DriverPrefixMax) (data : List UInt8) :
    beyondStart held data = [] ∨ (assembledStart held data).length = http3DriverPrefixMax := by
  unfold assembledStart beyondStart
  rw [List.drop_eq_nil_iff, List.length_append, List.length_take]
  omega

/-- The buffer is enough: what it holds is classified as all the bytes are. -/
lemma classify_assembledStart (hheld : held.length ≤ http3DriverPrefixMax) :
    http3DriverClassifyBidiStart (assembledStart held data) =
      http3DriverClassifyBidiStart (held ++ data) := by
  rcases length_assembledStart hheld data with hnil | hfull
  · rw [← assembledStart_append held data, hnil, List.append_nil]
  · obtain ⟨start, hstart⟩ := http3DriverClassifyBidiStart_of_length hfull.ge
    rw [hstart, ← assembledStart_append held data]
    exact (http3DriverClassifyBidiStart_append hstart _).symm

/-- What is held of a start that is not complete leaves room in the buffer. -/
lemma length_of_unclassified {e : Status} (h : http3DriverClassifyBidiStart bytes = .error e) :
    bytes.length ≤ http3DriverPrefixMax := by
  by_contra hlong
  have hmax : http3DriverPrefixMax ≤ bytes.length := by omega
  obtain ⟨start, hstart⟩ := http3DriverClassifyBidiStart_of_length hmax
  rw [hstart] at h
  cases h

/-- A WebTransport start is the two integers of its prefix. -/
lemma http3DriverClassifyBidiStart_webtransport {payload rest : List UInt8} {sessionId : ℕ}
    (htype : quicVarintDecode bytes = .ok (webtransportStreamBidi, rest))
    (hsession : quicVarintDecode rest = .ok (sessionId, payload)) :
    http3DriverClassifyBidiStart bytes =
      .ok (.webtransport sessionId (bytes.length - payload.length)) := by
  unfold http3DriverClassifyBidiStart
  rw [htype]
  dsimp only
  rw [if_neg (by simp), hsession]

end Bidi

end WebTransport
