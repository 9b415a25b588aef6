import WebTransport.Http3.FrameCodec
import WebTransport.Lib.Selection

/-!
# The SETTINGS round trip

The setter, the encoder and the parser of SETTINGS (`http3/settings.c`) each check the entries of a
table. They agree: what the setter has stored is written in the order of the identifiers, whatever
the order it was stored in, and read back without the identifiers that mean nothing.
-/

namespace WebTransport

/-! ## The calls -/

/-- The table after some calls of the setter, refused ones among them. -/
def http3SettingsAfter (calls : List (ℕ × ℕ)) : Http3Settings :=
  calls.foldl (fun settings call =>
    match http3SettingsSet settings call.1 call.2 with
    | .ok stored => stored
    | .error _ => settings) []

/-- The value of a setting and whether it is present. -/
def http3SettingsGet (settings : Http3Settings) (identifier : ℕ) : ℕ × Bool :=
  match settings.find? fun entry => entry.1 = identifier with
  | some entry => (entry.2, true)
  | none => (0, false)

/-- `wt_http3_settings_parse` with the table it writes to. -/
def http3SettingsParseInto (payload : List UInt8) (out : Http3Settings) : Http3Settings × Reply :=
  match http3SettingsParse payload with
  | .ok parsed => (parsed, Reply.good)
  | .error reply => (out, reply)

/-- Write one setting. -/
def writeSetting (w : Writer) (setting : ℕ × ℕ) : Writer :=
  quicWriterVarint (quicWriterVarint w setting.1) setting.2

/-- Write the settings that are left, the smallest identifier first. -/
def settingsEmit (settings : Http3Settings) : ℕ → (ℕ → Bool) → Writer → Writer
  | 0, _, w => w
  | left + 1, emitted, w =>
    let best := Selection.best settings.length (fun i => (settings.getD i (0, 0)).1) emitted
    if best = settings.length then w
    else
      settingsEmit settings left (Function.update emitted best true)
        (writeSetting w (settings.getD best (0, 0)))

/-- `wt_http3_settings_encode_payload` with its loop and its status. -/
def http3SettingsEncode (w : Writer) (settings : Http3Settings) : Writer × Status :=
  let w := settingsEmit settings settings.length (fun _ => false) w
  (w, if w.ok then .ok else .limit)

/-! ## What the setter stores -/

/-- What every check of the setter and of the parser asks of one setting. -/
structure SettingHolds (entry : ℕ × ℕ) : Prop where
  identifier : entry.1 ≤ quicVarintMax
  value : entry.2 ≤ quicVarintMax
  notReserved : http3SettingIsReservedHttp2 entry.1 = false
  connectProtocol : ¬(entry.1 = http3SettingEnableConnectProtocol ∧ entry.2 > 1)
  datagram : ¬(entry.1 = http3SettingH3Datagram ∧ entry.2 > 1)

/-- A table that the setter builds. -/
structure SettingsTable (settings : Http3Settings) : Prop where
  holds : ∀ entry ∈ settings, SettingHolds entry
  distinct : (settings.map Prod.fst).Nodup
  fits : settings.length ≤ http3SettingsMaxEntries

section Stored

variable {settings stored : Http3Settings} {identifier value : ℕ}

/-- The setter stores a setting that holds, that is not there yet and that has room. -/
lemma http3SettingsSet_eq (hholds : SettingHolds (identifier, value))
    (hnew : identifier ∉ settings.map Prod.fst)
    (hroom : settings.length < http3SettingsMaxEntries) :
    http3SettingsSet settings identifier value = .ok (settings ++ [(identifier, value)]) := by
  have hid := hholds.identifier
  have hval := hholds.value
  have hany : ¬settings.any (fun entry => entry.1 = identifier) = true := by
    intro hany
    obtain ⟨entry, hmem, heq⟩ := List.any_eq_true.mp hany
    exact hnew (List.mem_map.mpr ⟨entry, hmem, of_decide_eq_true heq⟩)
  unfold http3SettingsSet
  rw [if_neg (by omega), if_neg (Bool.eq_false_iff.mp hholds.notReserved),
    if_neg hholds.connectProtocol, if_neg hholds.datagram, if_neg hany, if_neg (by omega)]

lemma http3SettingsSet_ok (h : http3SettingsSet settings identifier value = .ok stored) :
    SettingHolds (identifier, value) ∧ identifier ∉ settings.map Prod.fst ∧
      settings.length < http3SettingsMaxEntries ∧ stored = settings ++ [(identifier, value)] := by
  unfold http3SettingsSet at h
  split_ifs at h with hrange hreserved hconnect hdatagram hany hfull
  rw [not_or, not_lt, not_lt] at hrange
  refine ⟨⟨hrange.1, hrange.2, Bool.eq_false_iff.mpr hreserved, hconnect, hdatagram⟩,
    fun hmem => hany ?_, not_le.mp hfull, (Except.ok.inj h).symm⟩
  obtain ⟨entry, hentry, heq⟩ := List.mem_map.mp hmem
  exact List.any_eq_true.mpr ⟨entry, hentry, decide_eq_true heq⟩

lemma SettingsTable.set (hsettings : SettingsTable settings)
    (h : http3SettingsSet settings identifier value = .ok stored) : SettingsTable stored := by
  obtain ⟨hholds, hnew, hroom, rfl⟩ := http3SettingsSet_ok h
  refine ⟨fun entry hmem => ?_, ?_, ?_⟩
  · obtain hmem | hmem := List.mem_append.mp hmem
    · exact hsettings.holds entry hmem
    · rw [List.mem_singleton.mp hmem]
      exact hholds
  · rw [List.map_append, List.nodup_append_comm]
    exact List.nodup_cons.mpr ⟨hnew, hsettings.distinct⟩
  · rw [List.length_append, List.length_singleton]
    omega

/-- Whatever the calls, the table is one the setter builds. -/
lemma settingsTable_after (calls : List (ℕ × ℕ)) : SettingsTable (http3SettingsAfter calls) := by
  unfold http3SettingsAfter
  generalize hstart : ([] : Http3Settings) = start
  have htable : SettingsTable start := by
    subst hstart
    exact ⟨fun entry hmem => absurd hmem List.not_mem_nil, List.nodup_nil, Nat.zero_le _⟩
  clear hstart
  induction calls generalizing start with
  | nil => exact htable
  | cons call calls ih =>
    rw [List.foldl_cons]
    apply ih
    cases hset : http3SettingsSet start call.1 call.2 with
    | error status => exact htable
    | ok stored => exact htable.set hset

end Stored

/-! ## What the encoder writes -/

section Encoded

variable {settings : Http3Settings} {w : Writer}

/-- The settings in the order of their identifiers. -/
def settingsSorted (settings : Http3Settings) : Http3Settings :=
  settings.insertionSort fun a b => a.1 ≤ b.1

/-- The bytes of some settings. -/
def settingsBytes (entries : List (ℕ × ℕ)) : List UInt8 :=
  entries.flatMap fun entry => quicVarintBytes entry.1 ++ quicVarintBytes entry.2

/-- The loop writes the entries in the order it selects them. -/
lemma settingsEmit_eq (left : ℕ) (emitted : ℕ → Bool) (w : Writer) :
    settingsEmit settings left emitted w =
      ((Selection.order settings.length (fun i => (settings.getD i (0, 0)).1) left emitted).map
        fun i => settings.getD i (0, 0)).foldl writeSetting w := by
  induction left generalizing emitted w with
  | zero => rfl
  | succ left ih =>
    rw [settingsEmit, Selection.order]
    split_ifs with hnone
    · rfl
    · rw [ih, List.map_cons, List.foldl_cons]

/-- Entries with distinct identifiers have one order. -/
lemma eq_of_sorted {entries entries' : List (ℕ × ℕ)} (hdistinct : (entries.map Prod.fst).Nodup)
    (hperm : entries.Perm entries') (h : entries.Pairwise fun a b => a.1 ≤ b.1)
    (h' : entries'.Pairwise fun a b => a.1 ≤ b.1) : entries = entries' := by
  refine hperm.eq_of_pairwise (fun a b ha hb hab hba => ?_) h h'
  exact List.inj_on_of_nodup_map hdistinct ha (hperm.mem_iff.mpr hb) (le_antisymm hab hba)

lemma settingsSorted_perm (settings : Http3Settings) : (settingsSorted settings).Perm settings :=
  List.perm_insertionSort _ settings

lemma settingsSorted_pairwise (settings : Http3Settings) :
    (settingsSorted settings).Pairwise fun a b => a.1 ≤ b.1 := by
  have : Std.Total fun a b : ℕ × ℕ => a.1 ≤ b.1 := ⟨fun a b => Nat.le_total a.1 b.1⟩
  have : IsTrans (ℕ × ℕ) fun a b => a.1 ≤ b.1 := ⟨fun _ _ _ => Nat.le_trans⟩
  exact List.pairwise_insertionSort _ settings

lemma map_getD_range {α : Type} (cells : List α) (d : α) :
    (List.range cells.length).map (fun i => cells.getD i d) = cells := by
  apply List.ext_getElem
  · rw [List.length_map, List.length_range]
  · intro i hi hi'
    rw [List.getElem_map, List.getElem_range, List.getElem_eq_getD d]

/-- The encoder writes the settings in their order. -/
lemma http3SettingsEncode_eq (hdistinct : (settings.map Prod.fst).Nodup) :
    http3SettingsEncode w settings =
      (http3SettingsEncodePayload w settings,
        if (http3SettingsEncodePayload w settings).ok then .ok else .limit) := by
  obtain ⟨hperm, hsorted⟩ :=
    Selection.order_all settings.length fun i => (settings.getD i (0, 0)).1
  have hselected := hperm.map fun i => settings.getD i (0, 0)
  rw [map_getD_range] at hselected
  have horder := eq_of_sorted ((hselected.map Prod.fst).nodup_iff.mpr hdistinct)
    (hselected.trans (settingsSorted_perm settings).symm) (List.pairwise_map.mpr hsorted)
    (settingsSorted_pairwise settings)
  unfold http3SettingsEncode
  rw [settingsEmit_eq, horder]
  rfl

/-- No two settings of a table have one place in the order. -/
lemma settingsSorted_strict (hdistinct : (settings.map Prod.fst).Nodup) :
    (settingsSorted settings).Pairwise fun a b => a.1 < b.1 := by
  have hne := List.pairwise_map.mp
    (((settingsSorted_perm settings).map Prod.fst).nodup_iff.mpr hdistinct)
  exact (settingsSorted_pairwise settings).imp₂ (fun _ _ hle hne => lt_of_le_of_ne hle hne) hne

/-- Tables with the same settings have them in the same order. -/
lemma settingsSorted_congr {other : Http3Settings} (hdistinct : (settings.map Prod.fst).Nodup)
    (hother : (other.map Prod.fst).Nodup) (h : ∀ entry, entry ∈ settings ↔ entry ∈ other) :
    settingsSorted settings = settingsSorted other := by
  have hperm := (List.perm_ext_iff_of_nodup hdistinct.of_map hother.of_map).mpr h
  have hsame := (settingsSorted_perm settings).trans
    (hperm.trans (settingsSorted_perm other).symm)
  apply eq_of_sorted _ hsame (settingsSorted_pairwise settings) (settingsSorted_pairwise other)
  exact ((settingsSorted_perm settings).map Prod.fst).nodup_iff.mpr hdistinct

/-- Settings that hold are written piece by piece. -/
lemma foldl_writeSetting {entries : List (ℕ × ℕ)} (h : ∀ entry ∈ entries, SettingHolds entry)
    (w : Writer) : entries.foldl writeSetting w = w.putAll
      (entries.flatMap fun entry => [quicVarintBytes entry.1, quicVarintBytes entry.2]) := by
  induction entries generalizing w with
  | nil => rfl
  | cons entry entries ih =>
    obtain ⟨hentry, hrest⟩ := List.forall_mem_cons.mp h
    rw [List.foldl_cons, ih hrest, writeSetting, quicWriterVarint_of_le hentry.identifier,
      quicWriterVarint_of_le hentry.value]
    rfl

lemma flatten_settings (entries : List (ℕ × ℕ)) :
    (entries.flatMap fun entry => [quicVarintBytes entry.1, quicVarintBytes entry.2]).flatten =
      settingsBytes entries := by
  induction entries with
  | nil => rfl
  | cons entry entries ih =>
    rw [List.flatMap_cons, List.flatten_append, ih, settingsBytes, settingsBytes,
      List.flatMap_cons]
    rw [List.flatten_cons, List.flatten_cons, List.flatten_nil, List.append_nil]

/-- The encoder writes the bytes of the settings in their order, exactly when they fit. -/
lemma http3SettingsEncode_ok_iff (hsettings : SettingsTable settings) :
    ((http3SettingsEncode w settings).2 = .ok ↔
      w.ok = true ∧ w.bytes.length + (settingsBytes (settingsSorted settings)).length ≤ w.cap) ∧
    ((http3SettingsEncode w settings).2 = .ok → (http3SettingsEncode w settings).1.bytes =
      w.bytes ++ settingsBytes (settingsSorted settings)) := by
  have hholds : ∀ entry ∈ settingsSorted settings, SettingHolds entry := fun entry hmem =>
    hsettings.holds entry ((settingsSorted_perm settings).mem_iff.mp hmem)
  rw [http3SettingsEncode_eq hsettings.distinct]
  change ((if ((settingsSorted settings).foldl writeSetting w).ok = true then Status.ok
    else .limit) = .ok ↔ _) ∧ ((if ((settingsSorted settings).foldl writeSetting w).ok = true
    then Status.ok else .limit) = .ok → ((settingsSorted settings).foldl writeSetting w).bytes = _)
  rw [foldl_writeSetting hholds, ← flatten_settings]
  constructor
  · constructor
    · intro h
      have hok := (Writer.putAll_ok (ok_of_status h)).1
      exact ⟨hok, (Writer.putAll_ok_iff _ hok).mp (ok_of_status h)⟩
    · rintro ⟨hok, hfits⟩
      rw [if_pos ((Writer.putAll_ok_iff _ hok).mpr hfits)]
  · intro h
    exact (Writer.putAll_ok (ok_of_status h)).2

end Encoded

/-! ## What the parser reads -/

section Parsed

variable {settings parsed : Http3Settings}

/-- The settings that mean something. -/
def settingsMeant (entries : List (ℕ × ℕ)) : Http3Settings :=
  entries.filter fun entry => !http3SettingIsExerciser entry.1

/-- The parser stores each setting it is given, the exercisers left out. -/
lemma settingsParseFrom_bytes {entries : List (ℕ × ℕ)}
    (hholds : ∀ entry ∈ entries, SettingHolds entry)
    (hdistinct : ((parsed ++ entries).map Prod.fst).Nodup)
    (hroom : parsed.length + entries.length ≤ http3SettingsMaxEntries) :
    settingsParseFrom parsed (settingsBytes entries) = .ok (parsed ++ settingsMeant entries) := by
  induction entries generalizing parsed with
  | nil =>
    rw [settingsParseFrom]
    exact (if_pos rfl).trans (congrArg Except.ok (List.append_nil parsed).symm)
  | cons entry entries ih =>
    obtain ⟨hentry, hrest⟩ := List.forall_mem_cons.mp hholds
    rw [List.length_cons] at hroom
    have hbytes : settingsBytes (entry :: entries) =
        quicVarintBytes entry.1 ++ (quicVarintBytes entry.2 ++ settingsBytes entries) := by
      rw [settingsBytes, List.flatMap_cons, List.append_assoc]
      rfl
    have hsome : settingsBytes (entry :: entries) ≠ [] := by
      rw [hbytes]
      intro hnil
      exact quicVarintBytes_ne_nil hentry.identifier (List.append_eq_nil_iff.mp hnil).1
    rw [settingsParseFrom, if_neg hsome]
    split
    · rename_i hdecode
      rw [hbytes, quicVarintDecode_bytes hentry.identifier] at hdecode
      cases hdecode
    rename_i identifier c₁ hdecode
    rw [hbytes, quicVarintDecode_bytes hentry.identifier] at hdecode
    cases hdecode
    split
    · rename_i hdecode
      rw [quicVarintDecode_bytes hentry.value] at hdecode
      cases hdecode
    rename_i value c₂ hdecode
    rw [quicVarintDecode_bytes hentry.value] at hdecode
    cases hdecode
    rw [if_neg (Bool.eq_false_iff.mp hentry.notReserved)]
    by_cases hexerciser : http3SettingIsExerciser entry.1 = true
    · rw [if_pos hexerciser, settingsMeant, List.filter_cons_of_neg (by simp [hexerciser])]
      apply ih hrest _ (by omega)
      rw [List.map_append] at hdistinct ⊢
      exact hdistinct.sublist ((List.sublist_cons_self _ _).append_left _)
    · have hnew : entry.1 ∉ parsed.map Prod.fst := by
        rw [List.map_append, List.map_cons] at hdistinct
        intro hmem
        exact (List.nodup_append.mp hdistinct).2.2 _ hmem _ List.mem_cons_self rfl
      rw [if_neg hexerciser, if_neg hentry.connectProtocol, if_neg hentry.datagram,
        http3SettingsSet_eq hentry hnew (by omega)]
      dsimp only
      have hcons : parsed ++ entry :: entries = (parsed ++ [entry]) ++ entries := by
        rw [List.append_assoc, List.singleton_append]
      rw [hcons] at hdistinct
      rw [ih hrest hdistinct (by rw [List.length_append, List.length_singleton]; omega),
        settingsMeant, settingsMeant, List.filter_cons_of_pos (by simp [hexerciser]),
        List.append_assoc, List.singleton_append]

/-- A table without repeats gives the value that is stored. -/
lemma http3SettingsGet_of_mem (hdistinct : (settings.map Prod.fst).Nodup) {identifier value : ℕ}
    (hmem : (identifier, value) ∈ settings) :
    http3SettingsGet settings identifier = (value, true) := by
  unfold http3SettingsGet
  cases hfind : settings.find? fun entry => entry.1 = identifier with
  | none =>
    have hnone := List.find?_eq_none.mp hfind _ hmem
    exact absurd (decide_eq_true rfl) hnone
  | some entry =>
    have hsame : entry.1 = identifier := of_decide_eq_true
      (@List.find?_some _ (fun entry : ℕ × ℕ => decide (entry.1 = identifier)) _ _ hfind)
    have heq := List.inj_on_of_nodup_map hdistinct (List.mem_of_find?_eq_some hfind) hmem hsame
    rw [heq]

lemma http3SettingsGet_of_notMem {identifier : ℕ} (hmem : identifier ∉ settings.map Prod.fst) :
    http3SettingsGet settings identifier = (0, false) := by
  have hnone : settings.find? (fun entry => entry.1 = identifier) = none := by
    rw [List.find?_eq_none]
    intro entry hentry heq
    exact hmem (List.mem_map.mpr ⟨entry, hentry, of_decide_eq_true heq⟩)
  rw [http3SettingsGet, hnone]

/-- What is read back says of every identifier what the table says, unless it means nothing. -/
lemma http3SettingsGet_meant (hdistinct : (settings.map Prod.fst).Nodup)
    {entries : List (ℕ × ℕ)} (hperm : entries.Perm settings) (identifier : ℕ) :
    http3SettingsGet (settingsMeant entries) identifier =
      if http3SettingIsExerciser identifier then (0, false)
      else http3SettingsGet settings identifier := by
  have hentries : ((settingsMeant entries).map Prod.fst).Nodup :=
    ((hperm.map Prod.fst).nodup_iff.mpr hdistinct).sublist
      (List.filter_sublist.map Prod.fst)
  have hmem : ∀ value, (identifier, value) ∈ settingsMeant entries ↔
      (identifier, value) ∈ settings ∧ http3SettingIsExerciser identifier = false := by
    intro value
    rw [settingsMeant, List.mem_filter, hperm.mem_iff, Bool.not_eq_true']
  by_cases hpresent : identifier ∈ (settingsMeant entries).map Prod.fst
  · obtain ⟨⟨_, value⟩, hentry, rfl⟩ := List.mem_map.mp hpresent
    obtain ⟨hstored, hmeant⟩ := (hmem value).mp hentry
    rw [http3SettingsGet_of_mem hentries hentry, http3SettingsGet_of_mem hdistinct hstored, hmeant]
    rfl
  · rw [http3SettingsGet_of_notMem hpresent]
    split_ifs with hexerciser
    · rfl
    · symm
      apply http3SettingsGet_of_notMem
      intro hstored
      obtain ⟨⟨_, value⟩, hentry, rfl⟩ := List.mem_map.mp hstored
      exact hpresent (List.mem_map.mpr
        ⟨_, (hmem value).mpr ⟨hentry, Bool.eq_false_iff.mpr hexerciser⟩, rfl⟩)

end Parsed

/-! ## The round trip -/

/-- Whatever the setter was called with, its table is written in the order of the identifiers, in
bytes that do not depend on the order of the calls, and they are read back as the same settings
without the exercisers. What the parser refuses leaves the table it was to fill as it was. -/
theorem http3Settings_round_trip (calls : List (ℕ × ℕ)) :
    (∃ entries : List (ℕ × ℕ), entries.Perm (http3SettingsAfter calls) ∧
      (entries.Pairwise fun a b => a.1 < b.1) ∧
      (∀ w : Writer,
        ((http3SettingsEncode w (http3SettingsAfter calls)).2 = .ok ↔
          w.ok = true ∧ w.bytes.length + (settingsBytes entries).length ≤ w.cap) ∧
        ((http3SettingsEncode w (http3SettingsAfter calls)).2 = .ok →
          (http3SettingsEncode w (http3SettingsAfter calls)).1.bytes =
            w.bytes ++ settingsBytes entries)) ∧
      (∀ out, http3SettingsParseInto (settingsBytes entries) out =
        (settingsMeant entries, Reply.good)) ∧
      ∀ identifier, http3SettingsGet (settingsMeant entries) identifier =
        if http3SettingIsExerciser identifier then (0, false)
        else http3SettingsGet (http3SettingsAfter calls) identifier) ∧
    (∀ calls' : List (ℕ × ℕ),
      (∀ entry, entry ∈ http3SettingsAfter calls ↔ entry ∈ http3SettingsAfter calls') →
      ∀ w, http3SettingsEncode w (http3SettingsAfter calls) =
        http3SettingsEncode w (http3SettingsAfter calls')) ∧
    ∀ payload out, (http3SettingsParseInto payload out).2.1 ≠ .ok →
      (http3SettingsParseInto payload out).1 = out := by
  have htable := settingsTable_after calls
  have hperm := settingsSorted_perm (http3SettingsAfter calls)
  refine ⟨⟨settingsSorted (http3SettingsAfter calls), hperm, settingsSorted_strict htable.distinct,
    fun w => http3SettingsEncode_ok_iff htable, fun out => ?_,
    fun identifier => http3SettingsGet_meant htable.distinct hperm identifier⟩, ?_, ?_⟩
  · have hread := @settingsParseFrom_bytes [] (settingsSorted (http3SettingsAfter calls))
      (fun entry hmem => htable.holds entry (hperm.mem_iff.mp hmem))
      ((hperm.map Prod.fst).nodup_iff.mpr htable.distinct)
      (by rw [List.length_nil, hperm.length_eq, Nat.zero_add]; exact htable.fits)
    rw [http3SettingsParseInto, http3SettingsParse, hread]
    rfl
  · intro calls' hsame w
    have hother := settingsTable_after calls'
    have hsorted := settingsSorted_congr htable.distinct hother.distinct hsame
    have hpayload : http3SettingsEncodePayload w (http3SettingsAfter calls) =
        http3SettingsEncodePayload w (http3SettingsAfter calls') :=
      congrArg (fun entries => entries.foldl writeSetting w) hsorted
    rw [http3SettingsEncode_eq htable.distinct, http3SettingsEncode_eq hother.distinct, hpayload]
  · intro payload out
    unfold http3SettingsParseInto
    cases hparse : http3SettingsParse payload with
    | error reply => exact fun _ => rfl
    | ok parsed => exact fun h => absurd rfl h

/-- Three settings in two orders, an exerciser among them, and a payload that ends too early. -/
theorem http3Settings_round_trip_three :
    (http3SettingsEncode (writerInit 16)
        (http3SettingsAfter [(0x33, 1), (0x21, 7), (0x08, 1)])).1.bytes =
      [0x08, 1, 0x21, 7, 0x33, 1] ∧
      http3SettingsEncode (writerInit 16) (http3SettingsAfter [(0x33, 1), (0x21, 7), (0x08, 1)]) =
        http3SettingsEncode (writerInit 16)
          (http3SettingsAfter [(0x08, 1), (0x33, 1), (0x08, 0), (0x21, 7)]) ∧
      (http3SettingsParseInto [0x08] [(1, 2)]).1 = [(1, 2)] :=
  ⟨by decide,
    (http3Settings_round_trip [(0x33, 1), (0x21, 7), (0x08, 1)]).2.1
      [(0x08, 1), (0x33, 1), (0x08, 0), (0x21, 7)] (by
        intro entry
        change entry ∈ [(0x33, 1), (0x21, 7), (0x08, 1)] ↔
          entry ∈ [(0x08, 1), (0x33, 1), (0x21, 7)]
        simp only [List.mem_cons, List.not_mem_nil, or_false]
        tauto) (writerInit 16),
    (http3Settings_round_trip []).2.2 [0x08] [(1, 2)] (by
      rw [http3SettingsParseInto, http3SettingsParse, settingsParseFrom]
      decide)⟩

end WebTransport
