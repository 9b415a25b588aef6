import WebTransport.Tls.HandshakeRoundTrip
import WebTransport.Tls.HelloBuild

/-!
# The ClientHello as a text

What the client writes of its ClientHello, as a message of the parser: the values of the extensions
first, each with the reader that takes it apart, then the writers of whole extensions, and last the
message with what the other side reads in it.
-/

namespace WebTransport

open BigEndian (bytes)

/-! ## Values -/

/-- The value of a list of numbers. -/
def u16ListValue (values : List ℕ) : List UInt8 :=
  bytes 2 (2 * values.length) ++ values.flatMap (bytes 2)

/-- The value of the versions of a ClientHello. -/
def versionsValue (versions : List ℕ) : List UInt8 :=
  bytes 1 (2 * versions.length) ++ versions.flatMap (bytes 2)

def TlsKeyShare.wire (share : TlsKeyShare) : List UInt8 :=
  bytes 2 share.group ++ (bytes 2 share.key.length ++ share.key)

/-- The value of the key shares of a ClientHello. -/
def keySharesValue (shares : List TlsKeyShare) : List UInt8 :=
  bytes 2 (shares.flatMap TlsKeyShare.wire).length ++ shares.flatMap TlsKeyShare.wire

def alpnNameWire (name : List UInt8) : List UInt8 := bytes 1 name.length ++ name

/-- The value of a list of protocols. -/
def alpnValue (names : List (List UInt8)) : List UInt8 :=
  bytes 2 (names.flatMap alpnNameWire).length ++ names.flatMap alpnNameWire

/-- The value of a server name. -/
def serverNameValue (name : List UInt8) : List UInt8 :=
  bytes 2 (1 + 2 + name.length) ++ (bytes 1 0 ++ (bytes 2 name.length ++ name))

structure TlsKeyShare.Valid (share : TlsKeyShare) : Prop where
  group : share.group < 256 ^ 2
  key : share.key ≠ []
  keyLen : share.key.length < 256 ^ 2

lemma reads_keyShareEntry : Codec.Reads TlsKeyShare.Valid TlsKeyShare.wire keyShareEntry := by
  intro x share rest
  rw [keyShareEntry, reads_tlsU16.bind_eq_ok]
  constructor
  · rintro ⟨group, y, hgroup, rfl, h₁⟩
    obtain ⟨keyLen, z, hkeyLen, rfl, h₂⟩ := reads_tlsU16.bind_eq_ok.mp h₁
    obtain ⟨hsome, h₃⟩ := Guard.of_ok h₂
    obtain ⟨key, left, rfl, rfl, hdone⟩ := (reads_tlsTake keyLen).bind_eq_ok.mp h₃
    cases hdone
    refine ⟨⟨hgroup, fun hnil => hsome (congrArg List.length hnil), hkeyLen⟩, ?_⟩
    simp only [TlsKeyShare.wire, id, List.append_assoc]
  · rintro ⟨h, rfl⟩
    refine ⟨share.group, bytes 2 share.key.length ++ (share.key ++ rest), h.group, ?_, ?_⟩
    · simp only [TlsKeyShare.wire, List.append_assoc]
    · refine reads_tlsU16.bind_eq_ok.mpr ⟨_, _, h.keyLen, rfl, ?_⟩
      dsimp only
      rw [if_neg fun hnil => h.key (List.length_eq_zero_iff.mp hnil)]
      exact (reads_tlsTake _).bind_eq_ok.mpr ⟨share.key, rest, rfl, rfl, rfl⟩

lemma TlsKeyShare.wire_ne_nil (share : TlsKeyShare) : share.wire ≠ [] := by
  intro h
  have := congrArg List.length h
  simp [TlsKeyShare.wire] at this

lemma tlsKeyShareClient_value {shares : List TlsKeyShare} {capacity : ℕ}
    (hcount : shares.length ≤ capacity) (hshares : ∀ share ∈ shares, share.Valid)
    (htotal : (shares.flatMap TlsKeyShare.wire).length < 256 ^ 2) :
    tlsKeyShareClient (keySharesValue shares) capacity = .ok shares := by
  rw [tlsKeyShareClient, keySharesValue]
  refine reads_tlsU16.bind_eq_ok.mpr ⟨_, _, htotal, rfl, ?_⟩
  refine (reads_tlsTake _).bind_eq_ok.mpr ⟨_, [], rfl, (List.append_nil _).symm, ?_⟩
  dsimp only
  rw [(Codec.items_eq_ok reads_keyShareEntry (fun share _ => share.wire_ne_nil) le_rfl
    (Nat.zero_le _)).mpr ⟨shares, rfl, rfl, hshares, Codec.agree_of_never _ _, hcount⟩]
  rfl

/-- A name of a protocol that can be expressed. -/
def AlpnNameValid (name : List UInt8) : Prop := name ≠ [] ∧ name.length ≤ tlsMaxProtocolName

lemma reads_alpnName : Codec.Reads AlpnNameValid alpnNameWire alpnName := by
  intro x name rest
  rw [alpnName, reads_tlsU8.bind_eq_ok]
  constructor
  · rintro ⟨length, y, hlength, rfl, h₁⟩
    obtain ⟨hsome, h₂⟩ := Guard.of_ok h₁
    obtain ⟨hname, rfl⟩ := (reads_tlsTake length y name rest).mp h₂
    subst hname
    refine ⟨⟨fun hnil => hsome (congrArg List.length hnil), Nat.le_of_lt_succ hlength⟩, ?_⟩
    simp only [alpnNameWire, id, List.append_assoc]
  · rintro ⟨⟨hsome, hlength⟩, rfl⟩
    refine ⟨name.length, name ++ rest, Nat.lt_succ_of_le hlength, ?_, ?_⟩
    · simp only [alpnNameWire, List.append_assoc]
    · dsimp only
      rw [if_neg fun hnil => hsome (List.length_eq_zero_iff.mp hnil)]
      exact (reads_tlsTake _ _ _ _).mpr ⟨rfl, rfl⟩

lemma length_alpnNameWire (name : List UInt8) : (alpnNameWire name).length = 1 + name.length := by
  rw [alpnNameWire, List.length_append, BigEndian.length_bytes]

lemma alpnNameWire_ne_nil (name : List UInt8) : alpnNameWire name ≠ [] := by
  intro h
  have hlength := length_alpnNameWire name
  rw [h, List.length_nil] at hlength
  omega

lemma tlsAlpnParse_value {names : List (List UInt8)} (hsome : names ≠ [])
    (hcount : names.length ≤ tlsMaxProtocols) (hnames : ∀ name ∈ names, AlpnNameValid name)
    (htotal : (names.flatMap alpnNameWire).length < 256 ^ 2) :
    tlsAlpnParse (alpnValue names) = .ok names := by
  have htwo : 2 ≤ (names.flatMap alpnNameWire).length := by
    obtain ⟨name, more, rfl⟩ := List.exists_cons_of_ne_nil hsome
    have hfirst := List.length_pos_iff.mpr (hnames name (List.mem_cons_self ..)).1
    rw [List.flatMap_cons, List.length_append, length_alpnNameWire]
    omega
  rw [tlsAlpnParse, alpnValue]
  refine reads_tlsU16.bind_eq_ok.mpr ⟨_, _, htotal, rfl, ?_⟩
  dsimp only
  rw [if_neg (not_lt.mpr htwo)]
  refine (reads_tlsTake _).bind_eq_ok.mpr ⟨_, [], rfl, (List.append_nil _).symm, ?_⟩
  dsimp only
  rw [(Codec.items_eq_ok reads_alpnName (fun name _ => alpnNameWire_ne_nil name) le_rfl
    (Nat.zero_le _)).mpr ⟨names, rfl, rfl, hnames, Codec.agree_of_never _ _, hcount⟩]
  rfl

/-! ## Writers -/

/-- A function that writes some extensions, in the same pieces into every writer. -/
def ExtensionWrites (write : Writer → Writer) (list : List TlsExtension) : Prop :=
  ∃ pieces : List (List UInt8), pieces.flatten = list.flatMap TlsExtension.wire ∧
    ∀ w : Writer, write w = w.putAll pieces

namespace ExtensionWrites

lemma nothing : ExtensionWrites id [] := ⟨[], rfl, fun _ => rfl⟩

/-- One extension: its type, its length and the pieces of its value. -/
lemma one {write : Writer → Writer} {type length : ℕ} {value : List UInt8}
    {pieces : List (List UInt8)}
    (hwrite : ∀ w : Writer, write w = w.putAll (bytes 2 type :: bytes 2 length :: pieces))
    (hpieces : pieces.flatten = value) (hlength : value.length = length) :
    ExtensionWrites write [⟨type, value⟩] := by
  refine ⟨_, ?_, hwrite⟩
  rw [List.flatten_cons, List.flatten_cons, hpieces, ← hlength, List.flatMap_singleton]
  rfl

lemma andThen {first second : Writer → Writer} {list more : List TlsExtension}
    (hfirst : ExtensionWrites first list) (hsecond : ExtensionWrites second more) :
    ExtensionWrites (fun w => second (first w)) (list ++ more) := by
  obtain ⟨pieces, hpieces, hwrite⟩ := hfirst
  obtain ⟨pieces', hpieces', hwrite'⟩ := hsecond
  refine ⟨pieces ++ pieces', ?_, fun w => ?_⟩
  · rw [List.flatten_append, hpieces, hpieces', List.flatMap_append]
  · dsimp only
    rw [hwrite, hwrite', putAll_append]

end ExtensionWrites

/-- The extensions that carry a value. -/
def TlsExtension.serverName (name : List UInt8) : TlsExtension :=
  ⟨tlsExtensionServerName, serverNameValue name⟩

@[inherit_doc TlsExtension.serverName]
def TlsExtension.u16List (type : ℕ) (values : List ℕ) : TlsExtension := ⟨type, u16ListValue values⟩

@[inherit_doc TlsExtension.serverName]
def TlsExtension.versions (versions : List ℕ) : TlsExtension :=
  ⟨tlsExtensionSupportedVersions, versionsValue versions⟩

@[inherit_doc TlsExtension.serverName]
def TlsExtension.keyShares (shares : List TlsKeyShare) : TlsExtension :=
  ⟨tlsExtensionKeyShare, keySharesValue shares⟩

@[inherit_doc TlsExtension.serverName]
def TlsExtension.alpn (names : List (List UInt8)) : TlsExtension :=
  ⟨tlsExtensionAlpn, alpnValue names⟩

@[inherit_doc TlsExtension.serverName]
def TlsExtension.parameters (data : List UInt8) : TlsExtension :=
  ⟨tlsExtensionQuicTransportParameters, data⟩

/-- The extension of the modes of pre-shared keys. -/
def TlsExtension.pskModes : TlsExtension :=
  ⟨tlsExtensionPskKeyExchangeModes, bytes 1 1 ++ bytes 1 tlsPskModePskDheKe⟩

lemma length_flatMap_bytes (k : ℕ) (l : List ℕ) : (l.flatMap (bytes k)).length = k * l.length := by
  induction l with
  | nil => rfl
  | cons value l ih =>
    rw [List.flatMap_cons, List.length_append, ih, BigEndian.length_bytes, List.length_cons]
    ring

lemma writes_serverName {name : List UInt8} (hsome : name ≠ []) (hlen : name.length ≤ 0xfffe) :
    ExtensionWrites (tlsExtensionServerNameWrite · name) [.serverName name] := by
  have hpos := List.length_pos_iff.mpr hsome
  refine .one (fun w => if_neg (by omega)) ?_ ?_
  · simp only [serverNameValue, List.flatten_cons, List.flatten_nil, List.append_nil]
  · simp only [serverNameValue, List.length_append, BigEndian.length_bytes]
    omega

lemma writes_u16List (type : ℕ) {values : List ℕ} (hsome : values ≠ [])
    (hlen : values.length ≤ 0x7fff) :
    ExtensionWrites (tlsExtensionU16List · type values) [.u16List type values] := by
  have hpos := List.length_pos_iff.mpr hsome
  refine .one (fun w => if_neg (by omega)) ?_ ?_
  · exact congrArg (bytes 2 (2 * values.length) ++ ·) (flatten_map_bytes 2 values)
  · rw [u16ListValue, List.length_append, BigEndian.length_bytes, length_flatMap_bytes]

lemma writes_versions {versions : List ℕ} (hsome : versions ≠ []) (hlen : versions.length ≤ 127) :
    ExtensionWrites (tlsExtensionSupportedVersionsClient · versions) [.versions versions] := by
  have hpos := List.length_pos_iff.mpr hsome
  refine .one (fun w => if_neg (by omega)) ?_ ?_
  · exact congrArg (bytes 1 (2 * versions.length) ++ ·) (flatten_map_bytes 2 versions)
  · rw [versionsValue, List.length_append, BigEndian.length_bytes, length_flatMap_bytes]

lemma sum_keyShare_lengths (shares : List TlsKeyShare) :
    (shares.map fun share => 4 + share.key.length).sum =
      (shares.flatMap TlsKeyShare.wire).length := by
  rw [List.length_flatMap]
  refine congrArg List.sum (List.map_congr_left fun share _ => ?_)
  simp only [TlsKeyShare.wire, List.length_append, BigEndian.length_bytes]
  omega

lemma flatten_keyShare_pieces (shares : List TlsKeyShare) :
    (shares.flatMap TlsKeyShare.pieces).flatten = shares.flatMap TlsKeyShare.wire := by
  induction shares with
  | nil => rfl
  | cons share shares ih =>
    rw [List.flatMap_cons, List.flatten_append, ih, List.flatMap_cons]
    simp [TlsKeyShare.pieces, TlsKeyShare.wire]

lemma writes_keyShares {shares : List TlsKeyShare} (hsome : shares ≠ [])
    (hlen : shares.length ≤ 0x7fff) (hshares : ∀ share ∈ shares, share.Valid)
    (htotal : (shares.flatMap TlsKeyShare.wire).length ≤ 0xffff) :
    ExtensionWrites (tlsExtensionKeyShareClient · shares) [.keyShares shares] := by
  have hpos := List.length_pos_iff.mpr hsome
  have hkeys : ¬(shares.any fun share => share.key.length = 0 || share.key.length > 0xffff) =
      true := by
    rw [List.any_eq_true]
    rintro ⟨share, hshare, hfault⟩
    have hkey := List.length_pos_iff.mpr (hshares share hshare).key
    have hkeyLen := (hshares share hshare).keyLen
    simp only [Bool.or_eq_true, decide_eq_true_eq] at hfault
    omega
  have hwrite : ∀ w : Writer, tlsExtensionKeyShareClient w shares = w.putAll
      ([bytes 2 tlsExtensionKeyShare, bytes 2 (2 + (shares.flatMap TlsKeyShare.wire).length),
        bytes 2 (shares.flatMap TlsKeyShare.wire).length] ++
          shares.flatMap TlsKeyShare.pieces) := by
    intro w
    rw [tlsExtensionKeyShareClient, sum_keyShare_lengths, if_neg (by omega), if_neg hkeys,
      if_neg (by omega)]
  refine .one hwrite ?_ ?_
  · exact congrArg (bytes 2 _ ++ ·) (flatten_keyShare_pieces shares)
  · rw [keySharesValue, List.length_append, BigEndian.length_bytes]

lemma sum_alpn_lengths (names : List (List UInt8)) :
    (names.map fun name => 1 + name.length).sum = (names.flatMap alpnNameWire).length := by
  rw [List.length_flatMap]
  exact congrArg List.sum (List.map_congr_left fun name _ => (length_alpnNameWire name).symm)

lemma flatten_alpn_pieces (names : List (List UInt8)) :
    (names.flatMap fun name => [bytes 1 name.length, name]).flatten =
      names.flatMap alpnNameWire := by
  induction names with
  | nil => rfl
  | cons name names ih =>
    rw [List.flatMap_cons, List.flatten_append, ih, List.flatMap_cons]
    simp [alpnNameWire]

lemma writes_alpn {names : List (List UInt8)} (hsome : names ≠ [])
    (hlen : names.length ≤ 0x7fff) (hnames : ∀ name ∈ names, AlpnNameValid name)
    (htotal : (names.flatMap alpnNameWire).length ≤ 0xffff) :
    ExtensionWrites (tlsExtensionAlpnWrite · names) [.alpn names] := by
  have hpos := List.length_pos_iff.mpr hsome
  have hfaults : ¬(names.any fun name =>
      name.length = 0 || name.length > tlsMaxProtocolName) = true := by
    rw [List.any_eq_true]
    rintro ⟨name, hname, hfault⟩
    obtain ⟨hnil, hlong⟩ := hnames name hname
    have hname := List.length_pos_iff.mpr hnil
    simp only [Bool.or_eq_true, decide_eq_true_eq] at hfault
    omega
  have hwrite : ∀ w : Writer, tlsExtensionAlpnWrite w names = w.putAll
      ([bytes 2 tlsExtensionAlpn, bytes 2 (2 + (names.flatMap alpnNameWire).length),
        bytes 2 (names.flatMap alpnNameWire).length] ++
          names.flatMap fun name => [bytes 1 name.length, name]) := by
    intro w
    rw [tlsExtensionAlpnWrite, sum_alpn_lengths, if_neg (by omega), if_neg hfaults,
      if_neg (by omega)]
  refine .one hwrite ?_ ?_
  · exact congrArg (bytes 2 _ ++ ·) (flatten_alpn_pieces names)
  · rw [alpnValue, List.length_append, BigEndian.length_bytes]

lemma writes_pskModes : ExtensionWrites tlsExtensionPskKeyExchangeModesWrite [.pskModes] :=
  .one (fun _ => rfl) rfl rfl

lemma writes_parameters {data : List UInt8} (hlen : data.length ≤ 0xffff) :
    ExtensionWrites (tlsExtensionTransportParameters · data) [.parameters data] :=
  .one (fun _ => if_neg (not_lt.mpr hlen)) (List.append_nil data) rfl

/-- Extensions that are written when there is something to write. -/
lemma ExtensionWrites.unless {c : Prop} [Decidable c] {write : Writer → Writer}
    {list : List TlsExtension} (h : ¬c → ExtensionWrites write list) :
    ExtensionWrites (fun w => if c then w else write w) (if c then [] else list) := by
  by_cases hc : c
  · simp only [if_pos hc]
    exact .nothing
  · simp only [if_neg hc]
    exact h hc

/-! ## Building -/

/-- What is in the extensions of a ClientHello. -/
def TlsClientHelloParams.extensions (params : TlsClientHelloParams) : List TlsExtension :=
  (match params.hostName with
    | none => []
    | some name => if name = [] then [] else [TlsExtension.serverName name]) ++
  (if params.supportedGroups = [] then []
    else [TlsExtension.u16List tlsExtensionSupportedGroups params.supportedGroups]) ++
  (if params.signatureSchemes = [] then []
    else [TlsExtension.u16List tlsExtensionSignatureAlgorithms params.signatureSchemes]) ++
  [TlsExtension.versions [tlsVersion13]] ++
  (if params.keyShares = [] then [] else [TlsExtension.keyShares params.keyShares]) ++
  (if params.alpn = [] then [] else [TlsExtension.alpn params.alpn]) ++
  [TlsExtension.pskModes] ++
  (if params.transportParameters = [] then []
    else [TlsExtension.parameters params.transportParameters])

/-- Nothing of a ClientHello is left out because it cannot be expressed. -/
structure TlsClientHelloParams.Expressible (params : TlsClientHelloParams) : Prop where
  hostName : ∀ name ∈ params.hostName, name.length ≤ 0xfffe
  supportedGroups : params.supportedGroups.length ≤ 0x7fff
  signatureSchemes : params.signatureSchemes.length ≤ 0x7fff
  shareCount : params.keyShares.length ≤ 0x7fff
  shares : ∀ share ∈ params.keyShares, share.Valid
  shareTotal : (params.keyShares.flatMap TlsKeyShare.wire).length ≤ 0xffff
  nameCount : params.alpn.length ≤ 0x7fff
  names : ∀ name ∈ params.alpn, AlpnNameValid name
  nameTotal : (params.alpn.flatMap alpnNameWire).length ≤ 0xffff
  transportParameters : params.transportParameters.length ≤ 0xffff

lemma writes_hostName (hostName : Option (List UInt8)) :
    (∀ name ∈ hostName, name.length ≤ 0xfffe) → ExtensionWrites
      (fun w => match hostName with
        | none => w
        | some name => tlsExtensionServerNameWrite w name)
      (match hostName with
        | none => []
        | some name => if name = [] then [] else [.serverName name]) := by
  intro h
  cases hostName with
  | none => exact .nothing
  | some name =>
    by_cases hnil : name = []
    · subst hnil
      exact .nothing
    · simp only [if_neg hnil]
      exact writes_serverName hnil (h name rfl)

/-- The extension writer of the ClientHello writes its extensions. -/
lemma writes_clientHelloExtensionList {params : TlsClientHelloParams} (h : params.Expressible) :
    ExtensionWrites (clientHelloExtensionList params) params.extensions := by
  have hgroups : ExtensionWrites
      (fun w => if params.supportedGroups = [] then w
        else tlsExtensionU16List w tlsExtensionSupportedGroups params.supportedGroups) _ :=
    .unless fun hsome => writes_u16List _ hsome h.supportedGroups
  have hschemes : ExtensionWrites
      (fun w => if params.signatureSchemes = [] then w
        else tlsExtensionU16List w tlsExtensionSignatureAlgorithms params.signatureSchemes) _ :=
    .unless fun hsome => writes_u16List _ hsome h.signatureSchemes
  have hversions := @writes_versions [tlsVersion13] (List.cons_ne_nil _ _) (by decide)
  have hshares : ExtensionWrites
      (fun w => if params.keyShares = [] then w
        else tlsExtensionKeyShareClient w params.keyShares) _ :=
    .unless fun hsome => writes_keyShares hsome h.shareCount h.shares h.shareTotal
  have halpn : ExtensionWrites
      (fun w => if params.alpn = [] then w else tlsExtensionAlpnWrite w params.alpn) _ :=
    .unless fun hsome => writes_alpn hsome h.nameCount h.names h.nameTotal
  have hparameters : ExtensionWrites
      (fun w => if params.transportParameters = [] then w
        else tlsExtensionTransportParameters w params.transportParameters) _ :=
    .unless fun _ => writes_parameters h.transportParameters
  have hbefore := (((writes_hostName _ h.hostName).andThen hgroups).andThen hschemes).andThen
    hversions
  exact (((hbefore.andThen hshares).andThen halpn).andThen writes_pskModes).andThen hparameters

/-- A block of extensions is written behind its length. -/
lemma bodyWrites_extensionBlock {write : Writer → Writer} {list : List TlsExtension}
    (h : ExtensionWrites write list)
    (htotal : (list.flatMap TlsExtension.wire).length < 256 ^ 2) :
    BodyWrites (writeExtensionBlock write) (tlsExtensionsWire list) := by
  obtain ⟨pieces, hpieces, hwrite⟩ := h
  refine ⟨bytes 2 (list.flatMap TlsExtension.wire).length :: pieces, ?_, fun w => ?_⟩
  · rw [List.flatten_cons, hpieces, tlsExtensionsWire]
  · have hmeasure : (write writerMeasure).ok = true := by
      rw [hwrite, Writer.putAll_ok_iff pieces rfl, hpieces]
      change 0 + _ ≤ 2 ^ 20
      omega
    have hlength : (write writerMeasure).bytes.length =
        (list.flatMap TlsExtension.wire).length := by
      rw [hwrite] at hmeasure ⊢
      rw [(Writer.putAll_ok hmeasure).2, hpieces]
      rfl
    rw [writeExtensionBlock, hlength]
    dsimp only
    rw [if_neg (by rw [hmeasure]; decide), if_neg (by omega), hwrite]
    exact ⟨rfl, fun hok => if_pos hok⟩

/-- What a measuring writer holds of pieces that it has room for. -/
lemma writerMeasure_putAll {pieces : List (List UInt8)} (h : pieces.flatten.length ≤ 2 ^ 20) :
    (writerMeasure.putAll pieces).ok = true ∧
      (writerMeasure.putAll pieces).bytes = pieces.flatten := by
  have hok := (Writer.putAll_ok_iff pieces (w := writerMeasure) rfl).mpr (by
    change 0 + _ ≤ 2 ^ 20
    omega)
  exact ⟨hok, (Writer.putAll_ok hok).2⟩

lemma tlsHandshakeHeaderEncode_whole (type : UInt8) {capacity bodyLen : ℕ}
    (hbody : bodyLen ≤ tlsHandshakeMaxBody) (hroom : tlsHandshakeHeaderLen ≤ capacity) :
    tlsHandshakeHeaderEncode (writerInit capacity) type bodyLen =
      ((writerInit capacity).putAll [[type], bytes 3 bodyLen], .ok) := by
  have hok := (Writer.putAll_ok_iff [[type], bytes 3 bodyLen] (w := writerInit capacity) rfl).mpr
    (by
      change 0 + (1 + (3 + 0)) ≤ capacity
      exact hroom)
  rw [tlsHandshakeHeaderEncode, if_neg (not_lt.mpr hbody)]
  exact Prod.ext rfl (if_pos hok)

/-- A message is built exactly when there is room for it. -/
lemma buildMessage_eq {type : UInt8} {prefixBody : Writer → Writer}
    {extensions : Writer → Writer × Status} {before : List (List UInt8)} {block : List UInt8}
    {capacity : ℕ} (hbefore : ∀ w : Writer, prefixBody w = w.putAll before)
    (hblock : BodyWrites extensions block)
    (hsmall : before.flatten.length + block.length ≤ 2 ^ 20) :
    buildMessage type prefixBody extensions capacity =
      if capacity < (tlsMessageWire type (before.flatten ++ block)).length then .error .limit
      else .ok (tlsMessageWire type (before.flatten ++ block)) := by
  obtain ⟨pieces, rfl, hpieces⟩ := hblock
  rw [length_tlsMessageWire, List.length_append]
  obtain ⟨hblockOk, hblockBytes⟩ := @writerMeasure_putAll pieces (by omega)
  obtain ⟨hbeforeOk, hbeforeBytes⟩ := @writerMeasure_putAll before (by omega)
  have hstatus : (extensions writerMeasure).2 = .ok := (hpieces writerMeasure).2 hblockOk
  have hbody : before.flatten.length + pieces.flatten.length ≤ tlsHandshakeMaxBody :=
    hsmall.trans (by decide)
  rw [buildMessage]
  dsimp only
  rw [dif_neg (not_not.mpr hstatus), hbefore, (hpieces writerMeasure).1, hblockBytes,
    hbeforeBytes, if_neg (by rw [hbeforeOk]; exact nofun), if_neg (not_lt.mpr hbody),
    Nat.add_comm tlsHandshakeHeaderLen]
  by_cases hshort : capacity <
      before.flatten.length + pieces.flatten.length + tlsHandshakeHeaderLen
  · rw [if_pos hshort, if_pos hshort]
  rw [if_neg hshort, if_neg hshort]
  have hheader := @tlsHandshakeHeaderEncode_whole type capacity _ hbody (by omega)
  obtain ⟨head, hhead⟩ : ∃ head, head =
      [[type], bytes 3 (before.flatten.length + pieces.flatten.length)] := ⟨_, rfl⟩
  have hheadLen : head.flatten.length = tlsHandshakeHeaderLen := by
    rw [hhead]
    rfl
  rw [← hhead] at hheader
  have hall := (Writer.putAll_ok_iff (head ++ (before ++ pieces)) (w := writerInit capacity)
    rfl).mpr (by
      rw [List.flatten_append, List.flatten_append, List.length_append, List.length_append,
        hheadLen]
      change 0 + _ ≤ capacity
      omega)
  have htext : ((writerInit capacity).putAll (head ++ (before ++ pieces))).bytes =
      tlsMessageWire type (before.flatten ++ pieces.flatten) := by
    rw [(Writer.putAll_ok hall).2, List.flatten_append, List.flatten_append, hhead,
      tlsMessageWire, List.length_append]
    simp [writerInit]
  obtain ⟨hwritten, hwrittenOk⟩ := hpieces (prefixBody ((writerInit capacity).putAll head))
  simp only [hbefore, putAll_append, List.append_assoc] at hwritten hwrittenOk
  rw [hheader, if_neg (not_not.mpr rfl)]
  dsimp only
  rw [hbefore, putAll_append, if_neg (not_not.mpr (hwrittenOk hall)), hwritten, htext, if_neg]
  rw [not_not, length_tlsMessageWire, List.length_append, Nat.add_comm]

/-- The ClientHello of some parameters. -/
def TlsClientHelloParams.message (params : TlsClientHelloParams) : TlsClientHelloMessage :=
  { params.fixed with extensions := params.extensions }

/-- A ClientHello is built exactly when there is room for it. -/
theorem tlsClientHelloBuild_eq {params : TlsClientHelloParams} (h : params.Expressible)
    (hsession : params.sessionId.length ≤ tlsSessionIdMax) (hsome : params.cipherSuites ≠ [])
    (hsuites : params.cipherSuites.length ≤ tlsCipherSuitesMax)
    (htotal : (params.extensions.flatMap TlsExtension.wire).length < 256 ^ 2)
    (hsmall : params.message.body.length ≤ 2 ^ 20) {capacity : ℕ} :
    tlsClientHelloBuild params capacity =
      if capacity < (tlsMessageWire tlsClientHello params.message.body).length then .error .limit
      else .ok (tlsMessageWire tlsClientHello params.message.body) := by
  have hbody : ([bytes 2 params.fixed.legacyVersion, params.fixed.random,
      bytes 1 params.fixed.sessionId.length, params.fixed.sessionId,
      bytes 2 (2 * params.fixed.cipherSuites.length)] ++ params.fixed.cipherSuites.map (bytes 2) ++
      [bytes 1 params.fixed.compressionMethods.length] ++
      params.fixed.compressionMethods.map (bytes 1)).flatten ++
        tlsExtensionsWire params.extensions = params.message.body := by
    simp [TlsClientHelloMessage.body, TlsClientHelloParams.message, sessionIdWire,
      cipherSuitesWire, compressionWire, flatten_map_bytes]
  rw [← hbody] at hsmall ⊢
  rw [List.length_append] at hsmall
  rw [tlsClientHelloBuild, if_neg (not_lt.mpr hsession),
    if_neg (not_or.mpr ⟨hsome, not_lt.mpr hsuites⟩)]
  exact buildMessage_eq (fun w => rfl)
    (bodyWrites_extensionBlock (writes_clientHelloExtensionList h) htotal) hsmall

/-! ## Reading -/

/-- A block of extensions that has room for each of some types once. -/
lemma tlsExtensionsValid_of_sublist {list : List TlsExtension} {types : List ℕ}
    (h : (list.map TlsExtension.type).Sublist types) (htypes : types.Nodup)
    (hcount : types.length ≤ tlsMaxExtensions) (hbound : ∀ type ∈ types, type < 256 ^ 2)
    (htotal : (list.flatMap TlsExtension.wire).length < 256 ^ 2) : TlsExtensionsValid list where
  count := by
    have hlength := h.length_le
    rw [List.length_map] at hlength
    exact hlength.trans hcount
  entries := by
    intro entry hentry
    have hpart : entry.wire.length ≤ (list.flatMap TlsExtension.wire).length := by
      rw [List.length_flatMap]
      exact List.le_sum_of_mem (List.mem_map_of_mem hentry)
    simp only [TlsExtension.wire, List.length_append, BigEndian.length_bytes] at hpart
    exact ⟨hbound _ (h.subset (List.mem_map_of_mem hentry)), by omega⟩
  distinct := htypes.sublist h
  total := htotal

/-- The types of the extensions of a ClientHello, in their order. -/
def clientHelloTypes : List ℕ :=
  [tlsExtensionServerName, tlsExtensionSupportedGroups, tlsExtensionSignatureAlgorithms,
    tlsExtensionSupportedVersions, tlsExtensionKeyShare, tlsExtensionAlpn,
    tlsExtensionPskKeyExchangeModes, tlsExtensionQuicTransportParameters]

lemma sublist_unless {c : Prop} [Decidable c] (entry : TlsExtension) :
    ((if c then [] else [entry]).map TlsExtension.type).Sublist [entry.type] := by
  by_cases hc : c
  · rw [if_pos hc]
    exact List.nil_sublist _
  · rw [if_neg hc]
    exact List.Sublist.refl _

lemma clientHelloTypes_sublist (params : TlsClientHelloParams) :
    (params.extensions.map TlsExtension.type).Sublist clientHelloTypes := by
  have hhost : ((match params.hostName with
      | none => []
      | some name => if name = [] then [] else [TlsExtension.serverName name]).map
        TlsExtension.type).Sublist [tlsExtensionServerName] := by
    cases params.hostName with
    | none => exact List.nil_sublist _
    | some name => exact sublist_unless (.serverName name)
  simp only [TlsClientHelloParams.extensions, List.map_append]
  exact ((((((hhost.append (sublist_unless _)).append (sublist_unless _)).append
    (List.Sublist.refl _)).append (sublist_unless _)).append (sublist_unless _)).append
    (List.Sublist.refl _)).append (sublist_unless _)

/-- The parser reads the ClientHello of some parameters. -/
theorem tlsClientHelloParse_message {params : TlsClientHelloParams}
    (hrandom : params.random.length = tlsRandomLen)
    (hsession : params.sessionId.length ≤ tlsSessionIdMax) (hsome : params.cipherSuites ≠ [])
    (hcount : params.cipherSuites.length ≤ tlsCipherSuitesMax)
    (hsuites : ∀ suite ∈ params.cipherSuites, suite < 256 ^ 2)
    (htotal : (params.extensions.flatMap TlsExtension.wire).length < 256 ^ 2)
    (hsmall : params.message.body.length ≤ 2 ^ 20) :
    tlsClientHelloParse (tlsMessageWire tlsClientHello params.message.body) =
      .ok params.message := by
  have hextensions := tlsExtensionsValid_of_sublist (clientHelloTypes_sublist params)
    (by decide) (by decide) (by decide) htotal
  exact (decodes_tlsClientHelloParse _ _).mpr
    ⟨⟨⟨rfl, hrandom, hsession, hsome, hcount, hsuites, rfl, hextensions⟩,
      lt_of_le_of_lt hsmall (by decide)⟩, rfl⟩

lemma tlsExtensionsFind_of_mem {list : List TlsExtension} {entry : TlsExtension}
    (hdistinct : (list.map TlsExtension.type).Nodup) (hentry : entry ∈ list) :
    tlsExtensionsFind list entry.type = some entry := by
  induction list with
  | nil => cases hentry
  | cons first list ih =>
    rw [List.map_cons, List.nodup_cons] at hdistinct
    rw [tlsExtensionsFind, List.find?_cons]
    obtain rfl | hlater := List.mem_cons.mp hentry
    · rw [decide_eq_true rfl]
    · have hne : first.type ≠ entry.type := fun heq =>
        hdistinct.1 (heq ▸ List.mem_map_of_mem hlater)
      rw [decide_eq_false hne]
      exact ih hdistinct.2 hlater

/-- No extension is found by a type that there is none of. -/
lemma tlsExtensionsFind_eq_none {list : List TlsExtension} {type : ℕ}
    (h : type ∉ list.map TlsExtension.type) : tlsExtensionsFind list type = none := by
  refine List.find?_eq_none.mpr fun entry hentry htype => h ?_
  rw [← of_decide_eq_true htype]
  exact List.mem_map_of_mem hentry

end WebTransport
