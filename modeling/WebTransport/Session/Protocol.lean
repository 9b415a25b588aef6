import Mathlib.Data.List.TakeWhile
import WebTransport.Core.Writer
import WebTransport.Lib.Guard

/-!
# Sub-protocols on the wire

The client offers the sub-protocols it speaks as a list of quoted strings and the server answers
with one of them (`webtransport/protocol.c`). A token holds no byte that means something to the
grammar, so nothing is ever escaped. The second half gives the grammar: what the decoder accepts
is a text of it whose tokens are valid and distinct, and it accepts every such text.
-/

namespace WebTransport

/-- `WT_WEBTRANSPORT_PROTOCOL_MAX`. -/
def webtransportProtocolMax : ℕ := 16

/-- `WT_WEBTRANSPORT_PROTOCOL_TOKEN_MAX`. -/
def webtransportProtocolTokenMax : ℕ := 64

def protocolQuote : UInt8 := 0x22

def protocolComma : UInt8 := 0x2c

def protocolBackslash : UInt8 := 0x5c

/-- Visible bytes but the three that the grammar gives meaning to. -/
def protocolByteValid (byte : UInt8) : Bool :=
  !(byte < 0x21 || byte > 0x7e || byte = protocolQuote || byte = protocolComma ||
    byte = protocolBackslash)

def protocolTokenValid (token : List UInt8) : Bool :=
  !token.isEmpty && token.length ≤ webtransportProtocolTokenMax && token.all protocolByteValid

/-- The loop of the validation, after some tokens that were found in order. -/
def protocolValidateTokens (before : List (List UInt8)) : List (List UInt8) → Status
  | [] => .ok
  | token :: tokens =>
    if protocolTokenValid token = false then .protocol
    else if token ∈ before then .protocol
    else protocolValidateTokens (before ++ [token]) tokens

/-- Every token valid, none repeated, and not too many of them. -/
def protocolValidate (list : List (List UInt8)) : Status :=
  if list.length > webtransportProtocolMax then .limit else protocolValidateTokens [] list

/-- One quoted string. -/
def protocolEncodeItem (w : Writer) (token : List UInt8) : Writer × Status :=
  if protocolTokenValid token = false then (w, .protocol)
  else
    let w' := ((w.put [protocolQuote]).put token).put [protocolQuote]
    (w', if w'.ok then .ok else .limit)

/-- The loop of the list's encoder: `", "` stands before every item but the first. -/
def protocolEncodeItems (first : Bool) : Writer → List (List UInt8) → Writer × Status
  | w, [] => (w, .ok)
  | w, token :: tokens =>
    let item := protocolEncodeItem (if first then w else w.put [protocolComma, 0x20]) token
    if item.2 ≠ .ok then item else protocolEncodeItems false item.1 tokens

def protocolEncodeList (w : Writer) (list : List (List UInt8)) : Writer × Status :=
  if protocolValidate list ≠ .ok then (w, protocolValidate list)
  else protocolEncodeItems true w list

/-- Read one quoted string and nothing else. -/
def protocolDecodeItem (value : List UInt8) : Except Status (List UInt8) :=
  let token := (value.drop 1).dropLast
  if value.length < 2 ∨ value.head? ≠ some protocolQuote ∨ value.getLast? ≠ some protocolQuote then
    .error .protocol
  else if token.length > webtransportProtocolTokenMax then .error .limit
  else if protocolBackslash ∈ token then .error .protocol
  else if protocolQuote ∈ token then .error .protocol
  else if protocolTokenValid token = false then .error .protocol
  else .ok token

/-- The white space that may stand around an item. -/
def protocolBlank (byte : UInt8) : Bool := byte = 0x20 || byte = 0x09

/-- The loop of the list's decoder: an item with the white space around it, then the end of the
value or a comma. Every turn but the last consumes a comma, so that `fuel` above the length of the
value is enough. -/
def protocolDecodeItems : ℕ → List (List UInt8) → List UInt8 → Except Status (List (List UInt8))
  | 0, _, _ => .error .protocol
  | fuel + 1, tokens, value =>
    match value.dropWhile protocolBlank with
    | [] => .error .protocol
    | quote :: rest =>
      if quote ≠ protocolQuote then .error .protocol
      else
        -- Up to the closing quote.
        let inner := rest.takeWhile (· ≠ protocolQuote)
        if protocolBackslash ∈ inner then .error .protocol
        else
          match rest.dropWhile (· ≠ protocolQuote) with
          | [] => .error .protocol
          | closing :: after =>
            let item := quote :: inner ++ [closing]
            if tokens.length ≥ webtransportProtocolMax then .error .limit
            else if item.length > webtransportProtocolTokenMax + 2 then .error .limit
            else
              match protocolDecodeItem item with
              | .error status => .error status
              | .ok token =>
                match after.dropWhile protocolBlank with
                | [] => .ok (tokens ++ [token])
                | separator :: next =>
                  if separator ≠ protocolComma then .error .protocol
                  else protocolDecodeItems fuel (tokens ++ [token]) next

def protocolDecodeList (value : List UInt8) : Except Status (List (List UInt8)) :=
  match protocolDecodeItems (value.length + 1) [] value with
  | .error status => .error status
  | .ok tokens =>
    if protocolValidate tokens ≠ .ok then .error (protocolValidate tokens) else .ok tokens

/-- The first of the tokens that were requested that is supported. -/
def protocolSelect (requested supported : List (List UInt8)) : Option (List UInt8) :=
  requested.find? fun token => supported.any fun other => token = other

/-! ## Valid lists -/

section Valid

variable {token : List UInt8} {list before : List (List UInt8)}

lemma mem_of_protocolTokenValid {byte : UInt8} (h : protocolTokenValid token = true)
    (hbyte : byte ∈ token) : protocolByteValid byte = true := by
  unfold protocolTokenValid at h
  exact List.all_eq_true.mp (Bool.and_eq_true_iff.mp h).2 byte hbyte

lemma length_of_protocolTokenValid (h : protocolTokenValid token = true) :
    token.length ≤ webtransportProtocolTokenMax := by
  unfold protocolTokenValid at h
  exact of_decide_eq_true (Bool.and_eq_true_iff.mp (Bool.and_eq_true_iff.mp h).1).2

lemma quote_notMem (h : protocolTokenValid token = true) : protocolQuote ∉ token := by
  intro hmem
  exact absurd (mem_of_protocolTokenValid h hmem) (by decide)

lemma backslash_notMem (h : protocolTokenValid token = true) : protocolBackslash ∉ token := by
  intro hmem
  exact absurd (mem_of_protocolTokenValid h hmem) (by decide)

lemma protocolValidateTokens_eq_ok (before list : List (List UInt8)) :
    protocolValidateTokens before list = .ok ↔
      (∀ token ∈ list, protocolTokenValid token = true) ∧ (∀ token ∈ list, token ∉ before) ∧
        list.Nodup := by
  induction list generalizing before with
  | nil => simp [protocolValidateTokens]
  | cons token tokens ih =>
    rw [protocolValidateTokens]
    by_cases hvalid : protocolTokenValid token = false
    · simp [hvalid]
    by_cases hrepeated : token ∈ before
    · simp [hvalid, hrepeated]
    rw [if_neg hvalid, if_neg hrepeated, ih]
    simp only [List.forall_mem_cons, List.nodup_cons, List.mem_append, List.mem_singleton,
      not_or, Bool.not_eq_false] at hvalid ⊢
    constructor
    · rintro ⟨hall, hnew, hnodup⟩
      exact ⟨⟨hvalid, hall⟩, ⟨hrepeated, fun t ht => (hnew t ht).1⟩,
        fun hmem => (hnew token hmem).2 rfl, hnodup⟩
    · rintro ⟨⟨-, hall⟩, ⟨-, hnew⟩, hfresh, hnodup⟩
      exact ⟨hall, fun t ht => ⟨hnew t ht, fun heq => hfresh (heq ▸ ht)⟩, hnodup⟩

/-- A list is valid when its tokens are valid and distinct and it is not too long. -/
lemma protocolValidate_eq_ok (list : List (List UInt8)) :
    protocolValidate list = .ok ↔ list.length ≤ webtransportProtocolMax ∧
      (∀ token ∈ list, protocolTokenValid token = true) ∧ list.Nodup := by
  unfold protocolValidate
  by_cases hlong : list.length > webtransportProtocolMax
  · rw [if_pos hlong]
    exact ⟨nofun, fun h => absurd h.1 (not_le.mpr hlong)⟩
  · rw [if_neg hlong, protocolValidateTokens_eq_ok]
    simp [not_lt.mp hlong]

end Valid

/-! ## The grammar -/

/-- The text of a token. -/
def quotedToken (token : List UInt8) : List UInt8 := protocolQuote :: (token ++ [protocolQuote])

/-- A token with white space around it. -/
def ItemText (token text : List UInt8) : Prop :=
  ∃ before after, (∀ byte ∈ before, protocolBlank byte = true) ∧
    (∀ byte ∈ after, protocolBlank byte = true) ∧ text = before ++ (quotedToken token ++ after)

/-- Tokens with white space around them and commas between them. -/
inductive ListText : List (List UInt8) → List UInt8 → Prop
  | last {token text : List UInt8} : ItemText token text → ListText [token] text
  | more {token text rest : List UInt8} {tokens : List (List UInt8)} :
      ItemText token text → ListText tokens rest →
        ListText (token :: tokens) (text ++ protocolComma :: rest)

section Grammar

variable {token value text : List UInt8} {tokens list : List (List UInt8)} {fuel : ℕ}

lemma protocolDecodeItem_eq_ok :
    protocolDecodeItem value = .ok token ↔
      value = quotedToken token ∧ protocolTokenValid token = true := by
  constructor
  · intro h
    unfold protocolDecodeItem at h
    dsimp only at h
    by_cases hquotes : value.length < 2 ∨ value.head? ≠ some protocolQuote ∨
        value.getLast? ≠ some protocolQuote
    · rw [if_pos hquotes] at h
      cases h
    rw [if_neg hquotes] at h
    split_ifs at h with hlong hback hquote hinvalid
    cases h
    simp only [not_or, not_not, not_lt] at hquotes
    obtain ⟨hlength, hhead, hlast⟩ := hquotes
    cases value with
    | nil => cases hhead
    | cons first rest =>
      cases hhead
      have hrest : rest ≠ [] := by
        rintro rfl
        simp at hlength
      have hclosing : rest.getLast? = some protocolQuote := by
        rwa [List.getLast?_cons_of_ne_nil hrest] at hlast
      refine ⟨congrArg (protocolQuote :: ·) ?_, by simpa using hinvalid⟩
      exact (List.dropLast_append_getLast? protocolQuote hclosing).symm
  · rintro ⟨rfl, hvalid⟩
    have hlength := length_of_protocolTokenValid hvalid
    have hclosing : (protocolQuote :: (token ++ [protocolQuote])).getLast? =
        some protocolQuote := by
      rw [List.getLast?_cons_of_ne_nil (by simp), List.getLast?_concat]
    simp [protocolDecodeItem, quotedToken, hclosing, not_lt.mpr hlength, backslash_notMem hvalid,
      quote_notMem hvalid, hvalid]

/-- The white space in front of a byte that is none. -/
lemma dropWhile_blank {before rest : List UInt8} {byte : UInt8}
    (hbefore : ∀ b ∈ before, protocolBlank b = true) (hbyte : protocolBlank byte = false) :
    (before ++ byte :: rest).dropWhile protocolBlank = byte :: rest := by
  rw [List.dropWhile_append_of_pos hbefore, List.dropWhile_cons_of_neg (by simp [hbyte])]

/-- A value is white space and what is left of it without. -/
lemma blank_split (value : List UInt8) :
    ∃ before, (∀ byte ∈ before, protocolBlank byte = true) ∧
      value = before ++ value.dropWhile protocolBlank :=
  ⟨value.takeWhile protocolBlank, fun _ hbyte => List.mem_takeWhile_imp hbyte,
    (List.takeWhile_append_dropWhile).symm⟩

/-- One turn of the decoder's loop that does not fail reads an item. -/
lemma protocolDecodeItems_succ (h : protocolDecodeItems (fuel + 1) tokens value = .ok list) :
    ∃ token text, ItemText token text ∧ protocolTokenValid token = true ∧
      tokens.length < webtransportProtocolMax ∧
      ((value = text ∧ list = tokens ++ [token]) ∨
        ∃ next, value = text ++ protocolComma :: next ∧
          protocolDecodeItems fuel (tokens ++ [token]) next = .ok list) := by
  rw [protocolDecodeItems] at h
  obtain ⟨before, hbefore, hvalue⟩ := blank_split value
  cases hskipped : value.dropWhile protocolBlank with
  | nil =>
    rw [hskipped] at h
    cases h
  | cons quote rest =>
    rw [hskipped] at h hvalue
    dsimp only at h
    obtain ⟨hquote, h⟩ := Guard.of_ok h
    obtain ⟨hback, h⟩ := Guard.of_ok h
    cases hclosing : rest.dropWhile (· ≠ protocolQuote) with
    | nil =>
      rw [hclosing] at h
      cases h
    | cons closing after =>
      rw [hclosing] at h
      dsimp only at h
      obtain ⟨hfull, h⟩ := Guard.of_ok h
      obtain ⟨hlong, h⟩ := Guard.of_ok h
      cases hitem : protocolDecodeItem
          (quote :: rest.takeWhile (· ≠ protocolQuote) ++ [closing]) with
      | error status =>
        rw [hitem] at h
        cases h
      | ok token =>
        rw [hitem] at h
        dsimp only at h
        obtain ⟨hquoted, hvalid⟩ := protocolDecodeItem_eq_ok.mp hitem
        obtain ⟨blank, hblank, hafter⟩ := blank_split after
        have hrest : rest = rest.takeWhile (· ≠ protocolQuote) ++ closing :: after := by
          rw [← hclosing, List.takeWhile_append_dropWhile]
        have htext : ItemText token (before ++ (quotedToken token ++ blank)) :=
          ⟨before, blank, hbefore, hblank, rfl⟩
        have hwhole : value = before ++ (quotedToken token ++ after) := by
          rw [hvalue, ← hquoted]
          congr 1
          rw [List.cons_append, List.cons_append, List.append_assoc, List.singleton_append,
            ← hrest]
        refine ⟨token, _, htext, hvalid, not_le.mp hfull, ?_⟩
        cases hseparator : after.dropWhile protocolBlank with
        | nil =>
          rw [hseparator] at h hafter
          cases h
          rw [List.append_nil] at hafter
          exact Or.inl ⟨by rw [hwhole, hafter], rfl⟩
        | cons separator next =>
          rw [hseparator] at h hafter
          dsimp only at h
          obtain ⟨hcomma, h⟩ := Guard.of_ok h
          refine Or.inr ⟨next, ?_, h⟩
          rw [hwhole, hafter, not_not.mp hcomma]
          simp only [List.append_assoc]

lemma protocolDecodeItems_item (fuel : ℕ) (htext : ItemText token text)
    (hvalid : protocolTokenValid token = true)
    (hroom : tokens.length < webtransportProtocolMax) (tail : List UInt8)
    (htail : tail.head? = none ∨ tail.head? = some protocolComma) :
    protocolDecodeItems (fuel + 1) tokens (text ++ tail) =
      match tail with
      | [] => .ok (tokens ++ [token])
      | _ :: next => protocolDecodeItems fuel (tokens ++ [token]) next := by
  obtain ⟨before, after, hbefore, hafter, rfl⟩ := htext
  have hskip : (before ++ (quotedToken token ++ after) ++ tail).dropWhile protocolBlank =
      protocolQuote :: (token ++ protocolQuote :: (after ++ tail)) := by
    have hshape : before ++ (quotedToken token ++ after) ++ tail =
        before ++ protocolQuote :: (token ++ protocolQuote :: (after ++ tail)) := by
      simp [quotedToken]
    rw [hshape, dropWhile_blank hbefore (by decide)]
  have hnoquote : ∀ byte ∈ token, decide (byte ≠ protocolQuote) = true := by
    intro byte hbyte
    refine decide_eq_true ?_
    rintro rfl
    exact quote_notMem hvalid hbyte
  have hinner : (token ++ protocolQuote :: (after ++ tail)).takeWhile (· ≠ protocolQuote) =
      token := by
    rw [List.takeWhile_append_of_pos hnoquote, List.takeWhile_cons_of_neg (by simp),
      List.append_nil]
  have hclosing : (token ++ protocolQuote :: (after ++ tail)).dropWhile (· ≠ protocolQuote) =
      protocolQuote :: (after ++ tail) := by
    rw [List.dropWhile_append_of_pos hnoquote, List.dropWhile_cons_of_neg (by simp)]
  have hitem : protocolDecodeItem (protocolQuote :: token ++ [protocolQuote]) = .ok token :=
    protocolDecodeItem_eq_ok.mpr ⟨rfl, hvalid⟩
  have hlength : (protocolQuote :: token ++ [protocolQuote]).length ≤
      webtransportProtocolTokenMax + 2 := by
    have := length_of_protocolTokenValid hvalid
    simp only [List.length_append, List.length_cons, List.length_nil]
    omega
  rw [protocolDecodeItems, hskip]
  dsimp only
  rw [if_neg (not_not.mpr rfl), hinner, if_neg (backslash_notMem hvalid), hclosing]
  dsimp only
  rw [if_neg (not_le.mpr hroom), if_neg (not_lt.mpr hlength), hitem]
  dsimp only
  cases tail with
  | nil =>
    rw [List.append_nil, List.dropWhile_eq_nil_iff.mpr hafter]
  | cons separator next =>
    obtain rfl : separator = protocolComma := by simpa using htail
    rw [dropWhile_blank hafter (by decide)]
    exact if_neg (not_not.mpr rfl)

lemma protocolDecodeItems_eq_ok (tokens list : List (List UInt8)) (hfuel : value.length < fuel) :
    protocolDecodeItems fuel tokens value = .ok list ↔
      ∃ more, list = tokens ++ more ∧ ListText more value ∧
        (∀ token ∈ more, protocolTokenValid token = true) ∧
        list.length ≤ webtransportProtocolMax := by
  induction fuel generalizing tokens value with
  | zero => exact absurd hfuel (Nat.not_lt_zero _)
  | succ fuel ih =>
    constructor
    · intro h
      obtain ⟨token, text, htext, hvalid, hroom, ⟨rfl, rfl⟩ | ⟨next, rfl, hnext⟩⟩ :=
        protocolDecodeItems_succ h
      · refine ⟨[token], rfl, .last htext, by simpa using hvalid, ?_⟩
        rwa [List.length_append, List.length_singleton]
      · have hshorter : next.length < fuel := by
          simp only [List.length_append, List.length_cons] at hfuel
          omega
        obtain ⟨more, rfl, hmore, hall, hcount⟩ := (ih _ hshorter).mp hnext
        refine ⟨token :: more, by simp, .more htext hmore, ?_, hcount⟩
        exact List.forall_mem_cons.mpr ⟨hvalid, hall⟩
    · rintro ⟨more, rfl, htext, hall, hcount⟩
      rw [List.length_append] at hcount
      cases htext with
      | last htext =>
        rw [List.length_singleton] at hcount
        have hitem := protocolDecodeItems_item fuel htext (hall _ (by simp)) hcount [] (Or.inl rfl)
        rwa [List.append_nil] at hitem
      | @more token text rest more htext hmore =>
        obtain ⟨hvalid, hall⟩ := List.forall_mem_cons.mp hall
        rw [List.length_cons] at hcount
        have hshorter : rest.length < fuel := by
          simp only [List.length_append, List.length_cons] at hfuel
          omega
        rw [protocolDecodeItems_item fuel htext hvalid (by omega) _ (Or.inr rfl)]
        refine (ih _ hshorter).mpr ⟨more, by simp, hmore, hall, ?_⟩
        simp only [List.length_append, List.length_cons]
        omega

/-- The decoder accepts the texts of the grammar whose tokens are a valid list, and no others. -/
theorem protocolDecodeList_eq_ok (value : List UInt8) (list : List (List UInt8)) :
    protocolDecodeList value = .ok list ↔
      ListText list value ∧ protocolValidate list = .ok := by
  have hitems := protocolDecodeItems_eq_ok [] list (Nat.lt_succ_self value.length)
  unfold protocolDecodeList
  constructor
  · intro h
    cases hread : protocolDecodeItems (value.length + 1) [] value with
    | error status =>
      rw [hread] at h
      cases h
    | ok tokens =>
      rw [hread] at h
      obtain ⟨hvalid, h⟩ := Guard.of_ok h
      cases h
      obtain ⟨more, rfl, htext, -, -⟩ := hitems.mp hread
      exact ⟨htext, not_not.mp hvalid⟩
  · rintro ⟨htext, hvalid⟩
    obtain ⟨hcount, hall, -⟩ := (protocolValidate_eq_ok list).mp hvalid
    rw [hitems.mpr ⟨list, rfl, htext, hall, hcount⟩]
    exact if_neg (not_not.mpr hvalid)

end Grammar

/-! ## What is written -/

/-- The texts of some tokens, with `", "` in front of every one but the first of a list. -/
def listWire (first : Bool) : List (List UInt8) → List UInt8
  | [] => []
  | token :: tokens =>
    (if first then [] else [protocolComma, 0x20]) ++ (quotedToken token ++ listWire false tokens)

section Written

variable {w : Writer} {token : List UInt8} {tokens : List (List UInt8)}

lemma protocolEncodeItem_fits (hvalid : protocolTokenValid token = true) (hok : w.ok = true)
    (hroom : w.bytes.length + (quotedToken token).length ≤ w.cap) :
    ∃ w', protocolEncodeItem w token = (w', .ok) ∧ w'.ok = true ∧
      w'.bytes = w.bytes ++ quotedToken token ∧ w'.cap = w.cap := by
  simp only [quotedToken, List.length_cons, List.length_append, List.length_nil] at hroom
  obtain ⟨hok₁, hbytes₁, hcap₁⟩ := Writer.put_of_fits [protocolQuote] hok
    (by simp only [List.length_singleton]; omega)
  obtain ⟨hok₂, hbytes₂, hcap₂⟩ := Writer.put_of_fits token hok₁
    (by rw [hbytes₁, hcap₁]; simp only [List.length_append, List.length_singleton]; omega)
  obtain ⟨hok₃, hbytes₃, hcap₃⟩ := Writer.put_of_fits [protocolQuote] hok₂
    (by
      rw [hbytes₂, hbytes₁, hcap₂, hcap₁]
      simp only [List.length_append, List.length_singleton]
      omega)
  refine ⟨_, ?_, hok₃, ?_, by rw [hcap₃, hcap₂, hcap₁]⟩
  · rw [protocolEncodeItem, if_neg (by rw [hvalid]; exact nofun)]
    exact congrArg _ (if_pos hok₃)
  · rw [hbytes₃, hbytes₂, hbytes₁, quotedToken]
    simp

/-- What the loop of the encoder writes. -/
lemma protocolEncodeItems_fits (first : Bool)
    (hall : ∀ token ∈ tokens, protocolTokenValid token = true) (hok : w.ok = true)
    (hroom : w.bytes.length + (listWire first tokens).length ≤ w.cap) :
    ∃ w', protocolEncodeItems first w tokens = (w', .ok) ∧ w'.ok = true ∧
      w'.bytes = w.bytes ++ listWire first tokens := by
  induction tokens generalizing first w with
  | nil => exact ⟨w, rfl, hok, (List.append_nil _).symm⟩
  | cons token tokens ih =>
    obtain ⟨hvalid, hrest⟩ := List.forall_mem_cons.mp hall
    rw [listWire, List.length_append, List.length_append] at hroom
    obtain ⟨w₁, hw₁, hok₁, hbytes₁, hcap₁⟩ : ∃ w₁,
        (if first then w else w.put [protocolComma, 0x20]) = w₁ ∧ w₁.ok = true ∧
          w₁.bytes = w.bytes ++ (if first then [] else [protocolComma, 0x20]) ∧
          w₁.cap = w.cap := by
      cases first with
      | true => exact ⟨w, rfl, hok, (List.append_nil _).symm, rfl⟩
      | false =>
        obtain ⟨hput, hbytes, hcap⟩ := Writer.put_of_fits [protocolComma, 0x20] hok
          (Nat.le_trans (Nat.add_le_add_left (Nat.le_add_right _ _) _) hroom)
        exact ⟨_, rfl, hput, hbytes, hcap⟩
    have hlength₁ := congrArg List.length hbytes₁
    rw [List.length_append] at hlength₁
    obtain ⟨w₂, hw₂, hok₂, hbytes₂, hcap₂⟩ :=
      protocolEncodeItem_fits hvalid hok₁ (by rw [hcap₁]; omega)
    have hlength₂ := congrArg List.length hbytes₂
    rw [List.length_append] at hlength₂
    obtain ⟨w₃, hw₃, hok₃, hbytes₃⟩ := ih false hrest hok₂ (by rw [hcap₂, hcap₁]; omega)
    refine ⟨w₃, ?_, hok₃, ?_⟩
    · rw [protocolEncodeItems, hw₁, hw₂]
      exact (if_neg (not_not.mpr rfl)).trans hw₃
    · rw [hbytes₃, hbytes₂, hbytes₁, listWire]
      simp only [List.append_assoc]

/-- A valid list that fits is written. -/
theorem protocolEncodeList_fits {list : List (List UInt8)} (hvalid : protocolValidate list = .ok)
    (hok : w.ok = true) (hroom : w.bytes.length + (listWire true list).length ≤ w.cap) :
    ∃ w', protocolEncodeList w list = (w', .ok) ∧ w'.bytes = w.bytes ++ listWire true list := by
  obtain ⟨-, hall, -⟩ := (protocolValidate_eq_ok list).mp hvalid
  obtain ⟨w', hw', -, hbytes⟩ := protocolEncodeItems_fits true hall hok hroom
  refine ⟨w', ?_, hbytes⟩
  rw [protocolEncodeList, if_neg (not_not.mpr hvalid), hw']

/-- What is written of a list after white space is a text of the grammar. -/
lemma listText_listWire {blank : List UInt8} (hblank : ∀ byte ∈ blank, protocolBlank byte = true) :
    ListText (token :: tokens) (blank ++ (quotedToken token ++ listWire false tokens)) := by
  induction tokens generalizing token blank with
  | nil => exact .last ⟨blank, [], hblank, nofun, rfl⟩
  | cons next tokens ih =>
    have hitem : ItemText token (blank ++ (quotedToken token ++ [])) :=
      ⟨blank, [], hblank, nofun, rfl⟩
    have htail := @ih next [0x20] (by simp [protocolBlank])
    have htext := ListText.more hitem htail
    simpa [listWire] using htext

/-- The decoder reads what the encoder wrote. -/
theorem protocolDecodeList_listWire {list : List (List UInt8)} (hne : list ≠ [])
    (hvalid : protocolValidate list = .ok) :
    protocolDecodeList (listWire true list) = .ok list := by
  refine (protocolDecodeList_eq_ok _ _).mpr ⟨?_, hvalid⟩
  cases list with
  | nil => exact absurd rfl hne
  | cons token tokens => exact @listText_listWire token tokens [] nofun

end Written

end WebTransport
