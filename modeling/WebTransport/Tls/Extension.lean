import WebTransport.Core.Writer
import WebTransport.Lib.Codec
import WebTransport.Tls.Session

/-!
# TLS extensions

An extension block is a length and the extensions of a message, of which no two have one type
(`tls/extension.c`). The typed readers take the value of one extension apart to its last byte; the
typed writers write a whole extension.
-/

namespace WebTransport

open BigEndian (bytes)

/-! ## Cursor steps -/

/-- A number of one byte (`wt_cursor_u8`). A decoder of a message refuses a region that ends early
as malformed: its length was promised by the framing around it. -/
def tlsU8 : List UInt8 → Except Refusal (ℕ × List UInt8) := Codec.readBe .protocol 1

@[inherit_doc tlsU8]
def tlsU16 : List UInt8 → Except Refusal (ℕ × List UInt8) := Codec.readBe .protocol 2

@[inherit_doc tlsU8]
def tlsU24 : List UInt8 → Except Refusal (ℕ × List UInt8) := Codec.readBe .protocol 3

/-- The next bytes of a region, also as a region of their own (`wt_cursor_bytes`, `sub_cursor`). -/
def tlsTake : ℕ → List UInt8 → Except Refusal (List UInt8 × List UInt8) := Codec.take .protocol

/-- A region ends here (`wt_cursor_at_end`). -/
def tlsEnd {α : Type} (x : List UInt8) (value : α) : Except Refusal α :=
  if x ≠ [] then .error .protocol else .ok value

lemma reads_tlsU8 : Codec.Reads (fun v => v < 256 ^ 1) (bytes 1) tlsU8 := Codec.reads_readBe _ 1

lemma reads_tlsU16 : Codec.Reads (fun v => v < 256 ^ 2) (bytes 2) tlsU16 := Codec.reads_readBe _ 2

lemma reads_tlsU24 : Codec.Reads (fun v => v < 256 ^ 3) (bytes 3) tlsU24 := Codec.reads_readBe _ 3

lemma reads_tlsTake (n : ℕ) : Codec.Reads (fun b => b.length = n) id (tlsTake n) :=
  Codec.reads_take _ n

lemma tlsEnd_eq_ok {α : Type} {x : List UInt8} {value a : α} :
    tlsEnd x value = .ok a ↔ x = [] ∧ value = a := by
  rw [tlsEnd, Codec.guard_eq_ok, not_not, Except.ok.injEq]

/-! ## Extension blocks -/

/-- One extension (`wt_tls_extension_t`). -/
structure TlsExtension where
  type : ℕ
  data : List UInt8
deriving DecidableEq, Repr

/-- `WT_TLS_MAX_EXTENSIONS`. -/
def tlsMaxExtensions : ℕ := 24

/-- One extension of a block. -/
def tlsExtensionEntry (x : List UInt8) : Except Refusal (TlsExtension × List UInt8) := do
  let (type, x) ← tlsU16 x
  let (length, x) ← tlsU16 x
  let (data, x) ← tlsTake length x
  return (⟨type, data⟩, x)

/-- An extension of a type that the block has already. -/
def tlsExtensionRepeated (entries : List TlsExtension) (entry : TlsExtension) : Bool :=
  entries.any fun other => other.type = entry.type

def tlsExtensionsParse (x : List UInt8) : Except Refusal (List TlsExtension × List UInt8) := do
  let (total, x) ← tlsU16 x
  let (block, x) ← tlsTake total x
  let list ← Codec.items .limit .protocol tlsMaxExtensions tlsExtensionRepeated tlsExtensionEntry
    block.length [] block
  return (list, x)

/-- What the encoder writes of one extension. -/
def TlsExtension.pieces (entry : TlsExtension) : List (List UInt8) :=
  [bytes 2 entry.type, bytes 2 entry.data.length, entry.data]

def tlsExtensionsEncode (w : Writer) (list : List TlsExtension) : Writer × Status :=
  let total := (list.map fun entry => 4 + entry.data.length).sum
  if list.length > tlsMaxExtensions then (w, .limit)
  else if list.any fun entry => entry.data.length > 0xffff then (w, .limit)
  else if total > 0xffff then (w, .limit)
  else
    let w' := w.putAll (bytes 2 total :: list.flatMap TlsExtension.pieces)
    (w', if w'.ok then .ok else .limit)

def tlsExtensionsFind (list : List TlsExtension) (type : ℕ) : Option TlsExtension :=
  list.find? fun entry => entry.type = type

/-! ## What an extension block is written as -/

/-- The text of an extension. -/
def TlsExtension.wire (entry : TlsExtension) : List UInt8 :=
  bytes 2 entry.type ++ (bytes 2 entry.data.length ++ entry.data)

/-- An extension whose numbers fit in their fields. -/
structure TlsExtension.Valid (entry : TlsExtension) : Prop where
  type : entry.type < 256 ^ 2
  length : entry.data.length < 256 ^ 2

/-- The text of an extension block. -/
def tlsExtensionsWire (list : List TlsExtension) : List UInt8 :=
  bytes 2 (list.flatMap TlsExtension.wire).length ++ list.flatMap TlsExtension.wire

/-- A block that a message may carry. -/
structure TlsExtensionsValid (list : List TlsExtension) : Prop where
  count : list.length ≤ tlsMaxExtensions
  entries : ∀ entry ∈ list, entry.Valid
  distinct : (list.map TlsExtension.type).Nodup
  total : (list.flatMap TlsExtension.wire).length < 256 ^ 2

lemma reads_tlsExtensionEntry :
    Codec.Reads TlsExtension.Valid TlsExtension.wire tlsExtensionEntry := by
  intro x entry rest
  rw [tlsExtensionEntry, reads_tlsU16.bind_eq_ok]
  constructor
  · rintro ⟨type, y, htype, rfl, hlen⟩
    obtain ⟨length, z, hlength, rfl, hdata⟩ := reads_tlsU16.bind_eq_ok.mp hlen
    obtain ⟨data, left, rfl, rfl, hdone⟩ := (reads_tlsTake length).bind_eq_ok.mp hdata
    cases hdone
    refine ⟨⟨htype, hlength⟩, ?_⟩
    simp only [TlsExtension.wire, id, List.append_assoc]
  · rintro ⟨⟨htype, hlength⟩, rfl⟩
    refine ⟨entry.type, bytes 2 entry.data.length ++ (entry.data ++ rest), htype, ?_, ?_⟩
    · simp only [TlsExtension.wire, List.append_assoc]
    · refine reads_tlsU16.bind_eq_ok.mpr ⟨_, _, hlength, rfl, ?_⟩
      exact (reads_tlsTake _).bind_eq_ok.mpr ⟨entry.data, rest, rfl, rfl, rfl⟩

lemma TlsExtension.wire_ne_nil (entry : TlsExtension) : entry.wire ≠ [] := by
  intro h
  have := congrArg List.length h
  simp [TlsExtension.wire] at this

/-- The parser reads the valid blocks. -/
theorem reads_tlsExtensionsParse :
    Codec.Reads TlsExtensionsValid tlsExtensionsWire tlsExtensionsParse := by
  intro x list rest
  have hitems := fun (block : List UInt8) (all : List TlsExtension) =>
    @Codec.items_eq_ok _ _ _ Refusal.limit Refusal.protocol tlsMaxExtensions tlsExtensionRepeated
      _ _ _ reads_tlsExtensionEntry (fun entry _ => entry.wire_ne_nil) block.length [] all block
      le_rfl (Nat.zero_le _)
  rw [tlsExtensionsParse, reads_tlsU16.bind_eq_ok]
  constructor
  · rintro ⟨total, y, htotal, rfl, hregion⟩
    obtain ⟨block, z, rfl, rfl, hlist⟩ := (reads_tlsTake total).bind_eq_ok.mp hregion
    obtain ⟨all, hall, hdone⟩ := Guard.of_bind_ok hlist
    cases hdone
    obtain ⟨more, rfl, rfl, hvalid, hagree, hcount⟩ := (hitems block list).mp hall
    have hdistinct := (Codec.agree_iff_nodup TlsExtension.type [] list).mp hagree
    refine ⟨⟨hcount, hvalid, hdistinct.2, htotal⟩, ?_⟩
    simp only [tlsExtensionsWire, id, List.append_assoc]
  · rintro ⟨⟨hcount, hvalid, hdistinct, htotal⟩, rfl⟩
    refine ⟨_, list.flatMap TlsExtension.wire ++ rest, htotal, ?_, ?_⟩
    · simp only [tlsExtensionsWire, List.append_assoc]
    · refine (reads_tlsTake _).bind_eq_ok.mpr ⟨_, rest, rfl, rfl, ?_⟩
      have hagree := (Codec.agree_iff_nodup TlsExtension.type [] list).mpr ⟨by simp, hdistinct⟩
      dsimp only
      rw [(hitems _ list).mpr ⟨list, rfl, rfl, hvalid, hagree, hcount⟩]
      rfl

/-- The total of the lengths is that of the texts. -/
lemma sum_extension_lengths (list : List TlsExtension) :
    (list.map fun entry => 4 + entry.data.length).sum =
      (list.flatMap TlsExtension.wire).length := by
  rw [List.length_flatMap]
  refine congrArg List.sum (List.map_congr_left fun entry _ => ?_)
  simp only [TlsExtension.wire, List.length_append, BigEndian.length_bytes]
  omega

lemma flatten_extension_pieces (list : List TlsExtension) :
    (list.flatMap TlsExtension.pieces).flatten = list.flatMap TlsExtension.wire := by
  induction list with
  | nil => rfl
  | cons entry list ih =>
    rw [List.flatMap_cons, List.flatten_append, ih, List.flatMap_cons]
    simp [TlsExtension.pieces, TlsExtension.wire]

/-- A block whose numbers fit in their fields is written in some pieces. -/
theorem tlsExtensionsEncode_eq {list : List TlsExtension}
    (hcount : list.length ≤ tlsMaxExtensions)
    (htotal : (list.flatMap TlsExtension.wire).length < 256 ^ 2) :
    ∃ pieces : List (List UInt8), pieces.flatten = tlsExtensionsWire list ∧
      ∀ w : Writer, tlsExtensionsEncode w list =
        (w.putAll pieces, if (w.putAll pieces).ok then .ok else .limit) := by
  refine ⟨bytes 2 (list.map fun entry => 4 + entry.data.length).sum ::
    list.flatMap TlsExtension.pieces, ?_, fun w => ?_⟩
  · rw [List.flatten_cons, flatten_extension_pieces, sum_extension_lengths, tlsExtensionsWire]
  · have hentries : ¬(list.any fun entry => entry.data.length > 0xffff) = true := by
      rw [List.any_eq_true]
      rintro ⟨entry, hentry, hlong⟩
      have hpart : entry.wire.length ≤ (list.flatMap TlsExtension.wire).length := by
        rw [List.length_flatMap]
        exact List.le_sum_of_mem (List.mem_map_of_mem hentry)
      have hdata : entry.data.length ≤ entry.wire.length := by
        simp only [TlsExtension.wire, List.length_append]
        omega
      have := of_decide_eq_true hlong
      omega
    rw [tlsExtensionsEncode]
    dsimp only
    rw [if_neg (not_lt.mpr hcount), if_neg hentries, if_neg (by rw [sum_extension_lengths]; omega)]

end WebTransport
