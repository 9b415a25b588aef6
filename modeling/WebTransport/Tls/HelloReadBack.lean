import WebTransport.Tls.HelloRoundTrip

/-!
# What a ClientHello says

A writer of an extension writes nothing when its value cannot be expressed, in the measuring pass as
in the other, so the builder answers with a well-formed message that says less than it was asked to
say. A message is built alike of the parameters and of their expressed part, and the typed readers
give the expressed part back: what is built says everything exactly when that part is the whole.
-/

namespace WebTransport

open BigEndian (bytes)

/-! ## The parameters -/

/-- The parameters as their types have them: 32 random bytes and numbers of 16 bits. -/
structure TlsClientHelloParams.Typed (params : TlsClientHelloParams) : Prop where
  random : params.random.length = tlsRandomLen
  cipherSuites : ∀ suite ∈ params.cipherSuites, suite < 256 ^ 2
  supportedGroups : ∀ group ∈ params.supportedGroups, group < 256 ^ 2
  signatureSchemes : ∀ scheme ∈ params.signatureSchemes, scheme < 256 ^ 2
  keyShares : ∀ share ∈ params.keyShares, share.group < 256 ^ 2

/-- The arrays of the readers have room for each list. -/
structure TlsClientHelloParams.WithinReaders (params : TlsClientHelloParams) : Prop where
  supportedGroups : params.supportedGroups.length ≤ tlsMaxNamedGroups
  signatureSchemes : params.signatureSchemes.length ≤ tlsMaxSignatureSchemes
  keyShares : params.keyShares.length ≤ tlsMaxKeyShares
  alpn : params.alpn.length ≤ tlsMaxProtocols

/-- Every value that is given can be expressed. -/
def TlsClientHelloParams.EachExpressible (params : TlsClientHelloParams) : Prop :=
  params.Expressible ∧ params.hostName ≠ some []

/-! ## What is read -/

/-- What a message says in the extension of a type, which is nothing without the extension. -/
def TlsClientHelloMessage.said {α : Type} (hello : TlsClientHelloMessage) (type : ℕ)
    (read : List UInt8 → Except Refusal (List α)) : Except Refusal (List α) :=
  match tlsExtensionsFind hello.extensions type with
  | none => .ok []
  | some extension => read extension.data

/-- The typed readers return what the parameters ask for. -/
structure TlsClientHelloMessage.Says (hello : TlsClientHelloMessage)
    (params : TlsClientHelloParams) : Prop where
  serverName : params.hostName ≠ none →
    tlsExtensionsFind hello.extensions tlsExtensionServerName ≠ none
  supportedGroups : hello.said tlsExtensionSupportedGroups (tlsU16ListParse · tlsMaxNamedGroups) =
    .ok params.supportedGroups
  signatureSchemes :
    hello.said tlsExtensionSignatureAlgorithms (tlsU16ListParse · tlsMaxSignatureSchemes) =
      .ok params.signatureSchemes
  keyShares : hello.said tlsExtensionKeyShare (tlsKeyShareClient · tlsMaxKeyShares) =
    .ok params.keyShares
  alpn : hello.said tlsExtensionAlpn tlsAlpnParse = .ok params.alpn
  transportParameters : hello.said tlsExtensionQuicTransportParameters .ok =
    .ok params.transportParameters

/-- What is built of some parameters says everything, and nothing is built of parameters of which
something cannot be expressed. -/
structure TlsClientHelloParams.ToldInFull (params : TlsClientHelloParams) : Prop where
  said : ∀ capacity message, tlsClientHelloBuild params capacity = .ok message →
    ∃ hello, tlsClientHelloParse message = .ok hello ∧ hello.Says params
  refused : ¬params.EachExpressible → ∀ capacity message,
    tlsClientHelloBuild params capacity ≠ .ok message

/-! ## The expressed part -/

/-- A host name that can be expressed. -/
def HostNameValid (name : List UInt8) : Prop := name ≠ [] ∧ name.length ≤ 0xfffe

/-- Key shares that the writer writes. -/
def KeySharesWritten (shares : List TlsKeyShare) : Prop :=
  shares.length ≤ 0x7fff ∧ (∀ share ∈ shares, share.key ≠ [] ∧ share.key.length ≤ 0xffff) ∧
    (shares.flatMap TlsKeyShare.wire).length ≤ 0xffff

/-- Protocols that the writer writes. -/
def AlpnWritten (names : List (List UInt8)) : Prop :=
  names.length ≤ 0x7fff ∧ (∀ name ∈ names, AlpnNameValid name) ∧
    (names.flatMap alpnNameWire).length ≤ 0xffff

instance (name : List UInt8) : Decidable (HostNameValid name) :=
  inferInstanceAs (Decidable (_ ∧ _))

instance (name : List UInt8) : Decidable (AlpnNameValid name) :=
  inferInstanceAs (Decidable (_ ∧ _))

instance (shares : List TlsKeyShare) : Decidable (KeySharesWritten shares) :=
  inferInstanceAs (Decidable (_ ∧ _))

instance (names : List (List UInt8)) : Decidable (AlpnWritten names) :=
  inferInstanceAs (Decidable (_ ∧ _))

/-- The values, if they can be expressed. -/
def expressedIf {α : Type} (c : Prop) [Decidable c] (values : List α) : List α :=
  if c then values else []

/-- The parameters without what their writers leave out. -/
def TlsClientHelloParams.expressed (params : TlsClientHelloParams) : TlsClientHelloParams :=
  { params with
    hostName := params.hostName.filter fun name => HostNameValid name
    supportedGroups := expressedIf (params.supportedGroups.length ≤ 0x7fff) params.supportedGroups
    signatureSchemes :=
      expressedIf (params.signatureSchemes.length ≤ 0x7fff) params.signatureSchemes
    keyShares := expressedIf (KeySharesWritten params.keyShares) params.keyShares
    alpn := expressedIf (AlpnWritten params.alpn) params.alpn
    transportParameters :=
      expressedIf (params.transportParameters.length ≤ 0xffff) params.transportParameters }

/-- The builder refuses the parameters whatever the room: for the session ID, for the cipher suites,
or for the length of the extensions that are written. -/
def TlsClientHelloParams.Refused (params : TlsClientHelloParams) : Prop :=
  params.sessionId.length > tlsSessionIdMax ∨ params.cipherSuites = [] ∨
    params.cipherSuites.length > tlsCipherSuitesMax ∨
    (params.expressed.extensions.flatMap TlsExtension.wire).length > 0xffff

section ExpressedIf

variable {α : Type} {c : Prop} [Decidable c] {values : List α}

/-- What is expressed of some values is expressible when nothing is. -/
lemma expressedIf_spec {p : List α → Prop} (hnone : p []) (h : c → p values) :
    p (expressedIf c values) := by
  rw [expressedIf]
  split
  · next hc => exact h hc
  · exact hnone

/-- Values are written when there are any. -/
def writeSome (write : Writer → List α → Writer) (values : List α) (w : Writer) : Writer :=
  if values = [] then w else write w values

/-- A writer that writes nothing of what cannot be expressed writes the expressed values. -/
lemma writeSome_expressedIf {write : Writer → List α → Writer}
    (hskip : ¬c → ∀ w : Writer, write w values = w) :
    writeSome write (expressedIf c values) = writeSome write values := by
  funext w
  rw [writeSome, writeSome]
  by_cases hc : c
  · rw [expressedIf, if_pos hc]
  · rw [expressedIf, if_neg hc, if_pos rfl, hskip hc w, ite_self]

end ExpressedIf

lemma hostName_skip {name : List UInt8} (h : ¬HostNameValid name) (w : Writer) :
    tlsExtensionServerNameWrite w name = w := by
  apply if_pos
  by_contra hlength
  rw [not_or, not_lt] at hlength
  exact h ⟨fun hnil => hlength.1 (congrArg List.length hnil), hlength.2⟩

lemma u16List_skip {values : List ℕ} (h : ¬values.length ≤ 0x7fff) (type : ℕ) (w : Writer) :
    tlsExtensionU16List w type values = w :=
  if_pos (.inr (not_le.mp h))

/-- A writer of a list writes nothing when there is a fault in its count, its items or its
length. -/
lemma list_skip {α : Type} {items : List α} {fault : α → Bool} {total : ℕ} {w w' : Writer}
    (h : ¬(items.length ≤ 0x7fff ∧ (∀ item ∈ items, ¬fault item = true) ∧ total ≤ 0xffff)) :
    (if items.length = 0 ∨ items.length > 0x7fff then w
      else if items.any fault then w
      else if total > 0xffff then w
      else w') = w := by
  by_cases hcount : items.length = 0 ∨ items.length > 0x7fff
  · exact if_pos hcount
  rw [if_neg hcount]
  by_cases hitems : items.any fault = true
  · exact if_pos hitems
  rw [if_neg hitems]
  apply if_pos
  by_contra htotal
  refine h ⟨by omega, fun item hitem hfault => ?_, not_lt.mp htotal⟩
  exact hitems (List.any_eq_true.mpr ⟨item, hitem, hfault⟩)

lemma keyShares_skip {shares : List TlsKeyShare} (h : ¬KeySharesWritten shares) (w : Writer) :
    tlsExtensionKeyShareClient w shares = w := by
  rw [tlsExtensionKeyShareClient, sum_keyShare_lengths]
  apply list_skip
  rintro ⟨hcount, hkeys, htotal⟩
  refine h ⟨hcount, fun share hshare => ?_, htotal⟩
  have hkey := hkeys share hshare
  simp only [Bool.or_eq_true, decide_eq_true_eq, not_or, not_lt] at hkey
  exact ⟨fun hnil => hkey.1 (congrArg List.length hnil), hkey.2⟩

lemma alpn_skip {names : List (List UInt8)} (h : ¬AlpnWritten names) (w : Writer) :
    tlsExtensionAlpnWrite w names = w := by
  rw [tlsExtensionAlpnWrite, sum_alpn_lengths]
  apply list_skip
  rintro ⟨hcount, hnames, htotal⟩
  refine h ⟨hcount, fun name hname => ?_, htotal⟩
  have hlength := hnames name hname
  simp only [Bool.or_eq_true, decide_eq_true_eq, not_or, not_lt] at hlength
  exact ⟨fun hnil => hlength.1 (congrArg List.length hnil), hlength.2⟩

lemma transportParameters_skip {data : List UInt8} (h : ¬data.length ≤ 0xffff) (w : Writer) :
    tlsExtensionTransportParameters w data = w :=
  if_pos (not_le.mp h)

/-- A host name is written when there is one. -/
def writeHostName (hostName : Option (List UInt8)) (w : Writer) : Writer :=
  match hostName with
  | none => w
  | some name => tlsExtensionServerNameWrite w name

lemma writeHostName_filter (hostName : Option (List UInt8)) :
    writeHostName (hostName.filter fun name => HostNameValid name) = writeHostName hostName := by
  funext w
  cases hostName with
  | none => rfl
  | some name =>
    by_cases hname : HostNameValid name
    · rw [Option.filter_some, if_pos (decide_eq_true hname)]
    · rw [Option.filter_some, if_neg (by simpa using hname)]
      exact (hostName_skip hname w).symm

lemma clientHelloExtensionList_eq (params : TlsClientHelloParams) (w : Writer) :
    clientHelloExtensionList params w =
      writeSome tlsExtensionTransportParameters params.transportParameters
        (tlsExtensionPskKeyExchangeModesWrite (writeSome tlsExtensionAlpnWrite params.alpn
          (writeSome tlsExtensionKeyShareClient params.keyShares
            (tlsExtensionSupportedVersionsClient
              (writeSome (tlsExtensionU16List · tlsExtensionSignatureAlgorithms ·)
                params.signatureSchemes
                (writeSome (tlsExtensionU16List · tlsExtensionSupportedGroups ·)
                  params.supportedGroups (writeHostName params.hostName w)))
              [tlsVersion13])))) :=
  rfl

/-- The extensions are written alike of the parameters and of their expressed part. -/
lemma clientHelloExtensionList_expressed (params : TlsClientHelloParams) :
    clientHelloExtensionList params.expressed = clientHelloExtensionList params := by
  funext w
  rw [clientHelloExtensionList_eq, clientHelloExtensionList_eq]
  dsimp only [TlsClientHelloParams.expressed]
  rw [writeHostName_filter, writeSome_expressedIf fun h => u16List_skip h _,
    writeSome_expressedIf fun h => u16List_skip h _, writeSome_expressedIf keyShares_skip,
    writeSome_expressedIf alpn_skip, writeSome_expressedIf transportParameters_skip]

/-- A message is built alike of the parameters and of their expressed part. -/
lemma tlsClientHelloBuild_expressed (params : TlsClientHelloParams) :
    tlsClientHelloBuild params.expressed = tlsClientHelloBuild params := by
  have hextensions : clientHelloExtensions params.expressed = clientHelloExtensions params :=
    congrArg writeExtensionBlock (clientHelloExtensionList_expressed params)
  funext capacity
  rw [tlsClientHelloBuild, tlsClientHelloBuild, hextensions]
  rfl

lemma expressed_eachExpressible {params : TlsClientHelloParams} (h : params.Typed) :
    params.expressed.EachExpressible := by
  have hhost : ∀ name ∈ params.expressed.hostName, HostNameValid name := by
    intro name hname
    obtain ⟨-, hvalid⟩ := Option.mem_filter_iff.mp hname
    exact of_decide_eq_true hvalid
  have hshares : KeySharesWritten params.expressed.keyShares :=
    expressedIf_spec (by decide) id
  have halpn : AlpnWritten params.expressed.alpn := expressedIf_spec (by decide) id
  have hgroups : ∀ share ∈ params.expressed.keyShares, share.group < 256 ^ 2 :=
    @expressedIf_spec _ _ _ _
      (fun shares : List TlsKeyShare => ∀ share ∈ shares, share.group < 256 ^ 2)
      (List.forall_mem_nil _) fun _ => h.keyShares
  have hlength : ∀ {α : Type} (values : List α) (most : ℕ),
      (expressedIf (values.length ≤ most) values).length ≤ most := fun values most =>
    @expressedIf_spec _ _ _ _ (fun values => values.length ≤ most) (Nat.zero_le _) id
  refine ⟨⟨fun name hname => (hhost name hname).2, hlength _ _, hlength _ _, hshares.1,
    fun share hshare => ?_, hshares.2.2, halpn.1, halpn.2.1, halpn.2.2, hlength _ _⟩,
    fun hnil => ?_⟩
  · obtain ⟨hkey, hkeyLen⟩ := hshares.2.1 share hshare
    exact ⟨hgroups share hshare, hkey, Nat.lt_succ_of_le hkeyLen⟩
  · exact (hhost [] hnil).1 rfl

lemma expressedIf_sublist {α : Type} (c : Prop) [Decidable c] (values : List α) :
    (expressedIf c values).Sublist values :=
  @expressedIf_spec _ _ _ _ (fun part => part.Sublist values) (List.nil_sublist _)
    fun _ => List.Sublist.refl _

lemma expressed_typed {params : TlsClientHelloParams} (h : params.Typed) :
    params.expressed.Typed where
  random := h.random
  cipherSuites := h.cipherSuites
  supportedGroups group hgroup :=
    h.supportedGroups group ((expressedIf_sublist _ _).subset hgroup)
  signatureSchemes scheme hscheme :=
    h.signatureSchemes scheme ((expressedIf_sublist _ _).subset hscheme)
  keyShares share hshare := h.keyShares share ((expressedIf_sublist _ _).subset hshare)

lemma expressed_withinReaders {params : TlsClientHelloParams} (h : params.WithinReaders) :
    params.expressed.WithinReaders where
  supportedGroups := (expressedIf_sublist _ _).length_le.trans h.supportedGroups
  signatureSchemes := (expressedIf_sublist _ _).length_le.trans h.signatureSchemes
  keyShares := (expressedIf_sublist _ _).length_le.trans h.keyShares
  alpn := (expressedIf_sublist _ _).length_le.trans h.alpn

lemma filter_of_ne_none {α : Type} {p : α → Bool} {value : Option α}
    (h : value.filter p ≠ none) : value.filter p = value := by
  cases value with
  | none => rfl
  | some v =>
    rw [Option.filter_some] at h ⊢
    split at h
    · next hp => exact if_pos hp
    · exact absurd rfl h

/-- Parameters that can be expressed are their expressed part. -/
lemma expressed_eq_self {params : TlsClientHelloParams} (h : params.EachExpressible) :
    params.expressed = params := by
  obtain ⟨hexpressible, hsome⟩ := h
  have hhost : (params.hostName.filter fun name => HostNameValid name) = params.hostName := by
    cases hname : params.hostName with
    | none => rfl
    | some name =>
      have hvalid : HostNameValid name := by
        refine ⟨?_, hexpressible.hostName name hname⟩
        rintro rfl
        exact hsome hname
      rw [Option.filter_some, if_pos (decide_eq_true hvalid)]
  have hshares : KeySharesWritten params.keyShares :=
    ⟨hexpressible.shareCount, fun share hshare => ⟨(hexpressible.shares share hshare).key,
      Nat.le_of_lt_succ (hexpressible.shares share hshare).keyLen⟩, hexpressible.shareTotal⟩
  have halpn : AlpnWritten params.alpn :=
    ⟨hexpressible.nameCount, hexpressible.names, hexpressible.nameTotal⟩
  rw [TlsClientHelloParams.expressed, hhost, expressedIf, if_pos hexpressible.supportedGroups,
    expressedIf, if_pos hexpressible.signatureSchemes, expressedIf, if_pos hshares, expressedIf,
    if_pos halpn, expressedIf, if_pos hexpressible.transportParameters]

/-! ## Reading the expressed part -/

lemma tlsU16ListParse_value {values : List ℕ} {capacity : ℕ} (hsome : values ≠ [])
    (hcount : values.length ≤ capacity) (hlen : values.length ≤ 0x7fff)
    (hvalues : ∀ value ∈ values, value < 256 ^ 2) :
    tlsU16ListParse (u16ListValue values) capacity = .ok values := by
  have hpos := List.length_pos_iff.mpr hsome
  have hhalf : 2 * values.length / 2 = values.length := by omega
  rw [tlsU16ListParse, u16ListValue]
  refine reads_tlsU16.bind_eq_ok.mpr ⟨_, _, by omega, rfl, ?_⟩
  dsimp only
  rw [if_neg (by omega), hhalf, if_neg (not_lt.mpr hcount)]
  refine (reads_tlsU16.times values.length).bind_eq_ok.mpr
    ⟨values, [], ⟨rfl, hvalues⟩, (List.append_nil _).symm, ?_⟩
  rfl

lemma tlsExtensionsFind_ne_none {list : List TlsExtension} {type : ℕ} :
    tlsExtensionsFind list type ≠ none ↔ type ∈ list.map TlsExtension.type := by
  constructor
  · intro h
    by_contra hnot
    exact h (tlsExtensionsFind_eq_none hnot)
  · intro h hnone
    obtain ⟨entry, hentry, rfl⟩ := List.mem_map.mp h
    exact List.find?_eq_none.mp hnone entry hentry (decide_eq_true rfl)

lemma mem_types_unless {c : Prop} [Decidable c] {type : ℕ} {entry : TlsExtension} :
    type ∈ (if c then [] else [entry]).map TlsExtension.type ↔ type = entry.type ∧ ¬c := by
  by_cases hc : c
  · simp [hc]
  · simp [hc]

/-- The extensions of a ClientHello are there when there is something to say. -/
lemma mem_types_extensions (params : TlsClientHelloParams) :
    (tlsExtensionServerName ∈ params.extensions.map TlsExtension.type ↔
      params.hostName ≠ none ∧ params.hostName ≠ some []) ∧
    (tlsExtensionSupportedGroups ∈ params.extensions.map TlsExtension.type ↔
      params.supportedGroups ≠ []) ∧
    (tlsExtensionSignatureAlgorithms ∈ params.extensions.map TlsExtension.type ↔
      params.signatureSchemes ≠ []) ∧
    (tlsExtensionKeyShare ∈ params.extensions.map TlsExtension.type ↔ params.keyShares ≠ []) ∧
    (tlsExtensionAlpn ∈ params.extensions.map TlsExtension.type ↔ params.alpn ≠ []) ∧
    (tlsExtensionQuicTransportParameters ∈ params.extensions.map TlsExtension.type ↔
      params.transportParameters ≠ []) := by
  have htypes : ∀ type, type ∈ params.extensions.map TlsExtension.type ↔
      (type = tlsExtensionServerName ∧ params.hostName ≠ none ∧ params.hostName ≠ some []) ∨
      (type = tlsExtensionSupportedGroups ∧ params.supportedGroups ≠ []) ∨
      (type = tlsExtensionSignatureAlgorithms ∧ params.signatureSchemes ≠ []) ∨
      type = tlsExtensionSupportedVersions ∨
      (type = tlsExtensionKeyShare ∧ params.keyShares ≠ []) ∨
      (type = tlsExtensionAlpn ∧ params.alpn ≠ []) ∨
      type = tlsExtensionPskKeyExchangeModes ∨
      (type = tlsExtensionQuicTransportParameters ∧ params.transportParameters ≠ []) := by
    intro type
    cases hname : params.hostName with
    | none =>
      simp only [TlsClientHelloParams.extensions, hname, List.map_append, List.mem_append,
        mem_types_unless, or_assoc]
      simp [TlsExtension.u16List, TlsExtension.versions, TlsExtension.keyShares,
        TlsExtension.alpn, TlsExtension.pskModes, TlsExtension.parameters]
    | some name =>
      simp only [TlsClientHelloParams.extensions, hname, List.map_append, List.mem_append,
        mem_types_unless, or_assoc]
      simp [TlsExtension.serverName, TlsExtension.u16List, TlsExtension.versions,
        TlsExtension.keyShares, TlsExtension.alpn, TlsExtension.pskModes, TlsExtension.parameters]
  simp [htypes, tlsExtensionServerName, tlsExtensionSupportedGroups,
    tlsExtensionSignatureAlgorithms, tlsExtensionSupportedVersions, tlsExtensionKeyShare,
    tlsExtensionAlpn, tlsExtensionPskKeyExchangeModes, tlsExtensionQuicTransportParameters]

/-- An extension that is there when there is something to say says it. -/
lemma said_of_part {α : Type} {hello : TlsClientHelloMessage} {entry : TlsExtension}
    {read : List UInt8 → Except Refusal (List α)} {values : List α}
    (hdistinct : (hello.extensions.map TlsExtension.type).Nodup)
    (hin : values ≠ [] → entry ∈ hello.extensions)
    (hout : entry.type ∈ hello.extensions.map TlsExtension.type → values ≠ [])
    (hread : values ≠ [] → read entry.data = .ok values) :
    hello.said entry.type read = .ok values := by
  rw [TlsClientHelloMessage.said]
  by_cases hsome : values = []
  · rw [tlsExtensionsFind_eq_none fun hmem => hout hmem hsome, hsome]
  · rw [tlsExtensionsFind_of_mem hdistinct (hin hsome)]
    exact hread hsome

/-- The message of parameters that can be expressed says everything. -/
lemma says_message {params : TlsClientHelloParams} (htyped : params.Typed)
    (hcounts : params.WithinReaders) (h : params.EachExpressible) :
    params.message.Says params := by
  have hdistinct : (params.message.extensions.map TlsExtension.type).Nodup :=
    List.Nodup.sublist (clientHelloTypes_sublist params) (by decide)
  obtain ⟨hname, hgroups, hschemes, hshares, halpn, hparameters⟩ := mem_types_extensions params
  obtain ⟨hexpressible, hhost⟩ := h
  refine ⟨fun hgiven => tlsExtensionsFind_ne_none.mpr (hname.mpr ⟨hgiven, hhost⟩),
    @said_of_part _ _ (.u16List tlsExtensionSupportedGroups params.supportedGroups) _ _ hdistinct
      (fun hsome => ?_) hgroups.mp fun hsome => ?_,
    @said_of_part _ _ (.u16List tlsExtensionSignatureAlgorithms params.signatureSchemes) _ _
      hdistinct (fun hsome => ?_) hschemes.mp fun hsome => ?_,
    @said_of_part _ _ (.keyShares params.keyShares) _ _ hdistinct (fun hsome => ?_)
      hshares.mp fun hsome => ?_,
    @said_of_part _ _ (.alpn params.alpn) _ _ hdistinct (fun hsome => ?_) halpn.mp
      fun hsome => ?_,
    @said_of_part _ _ (.parameters params.transportParameters) _ _ hdistinct (fun hsome => ?_)
      hparameters.mp fun _ => rfl⟩
  · simp [TlsClientHelloParams.message, TlsClientHelloParams.extensions, hsome]
  · exact tlsU16ListParse_value hsome hcounts.supportedGroups hexpressible.supportedGroups
      htyped.supportedGroups
  · simp [TlsClientHelloParams.message, TlsClientHelloParams.extensions, hsome]
  · exact tlsU16ListParse_value hsome hcounts.signatureSchemes hexpressible.signatureSchemes
      htyped.signatureSchemes
  · simp [TlsClientHelloParams.message, TlsClientHelloParams.extensions, hsome]
  · exact tlsKeyShareClient_value hcounts.keyShares hexpressible.shares
      (Nat.lt_succ_of_le hexpressible.shareTotal)
  · simp [TlsClientHelloParams.message, TlsClientHelloParams.extensions, hsome]
  · exact tlsAlpnParse_value hsome hcounts.alpn hexpressible.names
      (Nat.lt_succ_of_le hexpressible.nameTotal)
  · simp [TlsClientHelloParams.message, TlsClientHelloParams.extensions, hsome]

/-! ## What is built -/

/-- A block that does not fit behind its length is refused. -/
lemma writeExtensionBlock_limit {write : Writer → Writer} {list : List TlsExtension}
    (h : ExtensionWrites write list)
    (htotal : (list.flatMap TlsExtension.wire).length > 0xffff) (w : Writer) :
    (writeExtensionBlock write w).2 = .limit := by
  obtain ⟨pieces, hpieces, hwrite⟩ := h
  rw [writeExtensionBlock]
  dsimp only
  by_cases hmeasure : (write writerMeasure).ok = false
  · rw [if_pos hmeasure]
  · have hlength : (write writerMeasure).bytes.length =
        (list.flatMap TlsExtension.wire).length := by
      rw [Bool.not_eq_false, hwrite] at hmeasure
      rw [hwrite, (Writer.putAll_ok hmeasure).2, hpieces]
      rfl
    rw [if_neg hmeasure, if_pos (by omega)]

lemma tlsClientHelloBuild_refused {params : TlsClientHelloParams} (htyped : params.Typed)
    (h : params.Refused) (capacity : ℕ) (message : List UInt8) :
    tlsClientHelloBuild params capacity ≠ .ok message := by
  intro hbuild
  rw [← tlsClientHelloBuild_expressed, tlsClientHelloBuild] at hbuild
  obtain ⟨hsession, hbuild⟩ := Guard.of_ok hbuild
  obtain ⟨hsuites, hbuild⟩ := Guard.of_ok hbuild
  rw [not_or] at hsuites
  obtain hlong | hnone | hmany | htotal := h
  · exact hsession hlong
  · exact hsuites.1 hnone
  · exact hsuites.2 hmany
  · have hlimit := writeExtensionBlock_limit
      (writes_clientHelloExtensionList (expressed_eachExpressible htyped).1) htotal writerMeasure
    rw [buildMessage, dif_pos (by
      change (writeExtensionBlock _ writerMeasure).2 ≠ .ok
      rw [hlimit]
      decide)] at hbuild
    cases hbuild

/-- What is built of parameters that are not refused, which some room is enough for. -/
lemma tlsClientHelloBuild_message {params : TlsClientHelloParams} (htyped : params.Typed)
    (h : ¬params.Refused) :
    (∃ capacity, tlsClientHelloBuild params capacity =
      .ok (tlsMessageWire tlsClientHello params.expressed.message.body)) ∧
    (∀ capacity message, tlsClientHelloBuild params capacity = .ok message →
      message = tlsMessageWire tlsClientHello params.expressed.message.body) ∧
    tlsClientHelloParse (tlsMessageWire tlsClientHello params.expressed.message.body) =
      .ok params.expressed.message := by
  simp only [TlsClientHelloParams.Refused, not_or, not_lt] at h
  obtain ⟨hsession, hsome, hsuites, htotal⟩ := h
  have hblock := Nat.lt_succ_of_le htotal
  have hlength : params.expressed.message.body.length ≤ 2 ^ 20 := by
    have hrandom := htyped.random
    simp only [tlsSessionIdMax, tlsCipherSuitesMax, tlsRandomLen] at hsession hsuites hrandom
    simp only [TlsClientHelloMessage.body, sessionIdWire, cipherSuitesWire, compressionWire,
      tlsExtensionsWire, List.length_append, BigEndian.length_bytes, length_flatMap_bytes]
    change 2 + (params.random.length + (1 + params.sessionId.length +
      (2 + 2 * params.cipherSuites.length + (1 + 1 * 1 +
        (2 + (params.expressed.extensions.flatMap TlsExtension.wire).length))))) ≤ 2 ^ 20
    omega
  have hbuild := fun capacity : ℕ => @tlsClientHelloBuild_eq params.expressed
    (expressed_eachExpressible htyped).1 hsession hsome hsuites hblock hlength capacity
  rw [tlsClientHelloBuild_expressed] at hbuild
  refine ⟨⟨_, (hbuild _).trans (if_neg (lt_irrefl _))⟩, fun capacity message hmessage => ?_,
    tlsClientHelloParse_message htyped.random hsession hsome hsuites htyped.cipherSuites hblock
      hlength⟩
  rw [hbuild] at hmessage
  obtain ⟨-, hdone⟩ := Guard.of_ok hmessage
  cases hdone
  rfl

/-- The message of the expressed part says everything exactly when each value can be expressed. -/
lemma says_expressed_message {params : TlsClientHelloParams} (htyped : params.Typed)
    (hcounts : params.WithinReaders) :
    params.expressed.message.Says params ↔ params.EachExpressible := by
  have hexpressed := says_message (expressed_typed htyped) (expressed_withinReaders hcounts)
    (expressed_eachExpressible htyped)
  constructor
  · intro htold
    have hhost : params.expressed.hostName = params.hostName := by
      by_cases hgiven : params.hostName = none
      · exact (congrArg (Option.filter _) hgiven).trans hgiven.symm
      · have hfound := tlsExtensionsFind_ne_none.mp (htold.serverName hgiven)
        exact filter_of_ne_none ((mem_types_extensions params.expressed).1.mp hfound).1
    have hgroups := Except.ok.inj (hexpressed.supportedGroups.symm.trans htold.supportedGroups)
    have hschemes := Except.ok.inj (hexpressed.signatureSchemes.symm.trans htold.signatureSchemes)
    have hshares := Except.ok.inj (hexpressed.keyShares.symm.trans htold.keyShares)
    have halpn := Except.ok.inj (hexpressed.alpn.symm.trans htold.alpn)
    have hparameters :=
      Except.ok.inj (hexpressed.transportParameters.symm.trans htold.transportParameters)
    have hself : params.expressed = params :=
      calc params.expressed = { params with
              hostName := params.expressed.hostName
              supportedGroups := params.expressed.supportedGroups
              signatureSchemes := params.expressed.signatureSchemes
              keyShares := params.expressed.keyShares
              alpn := params.expressed.alpn
              transportParameters := params.expressed.transportParameters } := rfl
        _ = params := by rw [hhost, hgroups, hschemes, hshares, halpn, hparameters]
    exact hself ▸ expressed_eachExpressible htyped
  · intro heach
    rwa [expressed_eq_self heach] at hexpressed ⊢

/-- What is built of some parameters says everything exactly when each of their values can be
expressed, or when nothing is built of them. -/
lemma clientHelloSaid_iff {params : TlsClientHelloParams} (htyped : params.Typed)
    (hcounts : params.WithinReaders) :
    (∀ capacity message, tlsClientHelloBuild params capacity = .ok message →
      ∃ hello, tlsClientHelloParse message = .ok hello ∧ hello.Says params) ↔
    params.EachExpressible ∨ params.Refused := by
  by_cases hrefused : params.Refused
  · refine ⟨fun _ => .inr hrefused, fun _ capacity message hbuild => ?_⟩
    exact absurd hbuild (tlsClientHelloBuild_refused htyped hrefused capacity message)
  obtain ⟨⟨room, hroom⟩, hmessage, hparse⟩ := tlsClientHelloBuild_message htyped hrefused
  constructor
  · intro hsaid
    obtain ⟨hello, hread, htold⟩ := hsaid room _ hroom
    cases hparse.symm.trans hread
    exact .inl ((says_expressed_message htyped hcounts).mp htold)
  · intro hwhen capacity message hbuild
    rw [hmessage capacity message hbuild]
    have heach := hwhen.resolve_right hrefused
    exact ⟨_, hparse, (says_expressed_message htyped hcounts).mpr heach⟩

/-- **A ClientHello says everything it was asked to say** exactly when each value can be expressed
or the builder refuses the parameters for their session ID, their cipher suites or their length. -/
theorem clientHello_toldInFull {params : TlsClientHelloParams} (htyped : params.Typed)
    (hcounts : params.WithinReaders) :
    params.ToldInFull ↔ params.EachExpressible ∨ params.Refused := by
  constructor
  · exact fun h => (clientHelloSaid_iff htyped hcounts).mp h.said
  · intro hwhen
    refine ⟨(clientHelloSaid_iff htyped hcounts).mpr hwhen, fun hnot capacity message => ?_⟩
    exact tlsClientHelloBuild_refused htyped (hwhen.resolve_left hnot) capacity message

/-- Parameters with one value of each kind, and the protocols of the caller's choice. -/
def clientHelloOffering (alpn : List (List UInt8)) : TlsClientHelloParams where
  random              := List.replicate tlsRandomLen 0
  sessionId           := []
  cipherSuites        := [tlsCipherSuite]
  hostName            := some [0x61]
  supportedGroups     := [tlsGroupX25519]
  signatureSchemes    := [0x0403]
  keyShares           := [⟨tlsGroupX25519, [9]⟩]
  alpn                := alpn
  transportParameters := [1, 0]

lemma clientHelloOffering_typed (alpn : List (List UInt8)) : (clientHelloOffering alpn).Typed :=
  ⟨rfl, List.forall_mem_singleton.mpr (by decide), List.forall_mem_singleton.mpr (by decide),
    List.forall_mem_singleton.mpr (by decide), List.forall_mem_singleton.mpr (by decide)⟩

theorem clientHello_toldInFull_h3 : (clientHelloOffering [[0x68, 0x33]]).ToldInFull := by
  have hshare : (⟨tlsGroupX25519, [9]⟩ : TlsKeyShare).Valid := ⟨by decide, by decide, by decide⟩
  have heach : (clientHelloOffering [[0x68, 0x33]]).EachExpressible :=
    ⟨⟨by decide, by decide, by decide, by decide, List.forall_mem_singleton.mpr hshare, by decide,
      by decide, by decide, by decide, by decide⟩, by decide⟩
  exact (clientHello_toldInFull (clientHelloOffering_typed _)
    ⟨by decide, by decide, by decide, by decide⟩).mpr (.inl heach)

/-- An empty name behind a good one, and the message offers no protocol at all. -/
theorem clientHello_drops_alpn :
    (clientHelloOffering [[0x68, 0x33], []]).Typed ∧
      (clientHelloOffering [[0x68, 0x33], []]).WithinReaders ∧
      (∃ capacity message hello,
        tlsClientHelloBuild (clientHelloOffering [[0x68, 0x33], []]) capacity = .ok message ∧
        tlsClientHelloParse message = .ok hello ∧
        tlsExtensionsFind hello.extensions tlsExtensionAlpn = none) ∧
      ¬(clientHelloOffering [[0x68, 0x33], []]).ToldInFull := by
  have htyped := clientHelloOffering_typed [[0x68, 0x33], []]
  have hcounts : (clientHelloOffering [[0x68, 0x33], []]).WithinReaders :=
    ⟨by decide, by decide, by decide, by decide⟩
  have hrefused : ¬(clientHelloOffering [[0x68, 0x33], []]).Refused := by
    rw [TlsClientHelloParams.Refused]
    decide
  have hnot : ¬(clientHelloOffering [[0x68, 0x33], []]).EachExpressible :=
    fun h => (h.1.names [] (by decide)).1 rfl
  obtain ⟨⟨room, hroom⟩, -, hparse⟩ := tlsClientHelloBuild_message htyped hrefused
  refine ⟨htyped, hcounts, ⟨room, _, _, hroom, hparse, ?_⟩, fun h => ?_⟩
  · decide
  · exact h.refused hnot room _ hroom

end WebTransport
