import WebTransport.Tls.Handshake

/-!
# Handshake messages have one reading

The text of every handshake message, with each length in front of what it counts. The parsers read
these texts and nothing else, and the encoders write them, so that what a parser accepts is what the
encoder makes of the result. The extension block of a certificate's own is carried as it is.
-/

namespace WebTransport

open BigEndian (bytes)

/-! ## Framing -/

/-- The text of a message with a body. -/
def tlsMessageWire (type : UInt8) (body : List UInt8) : List UInt8 :=
  type :: (bytes 3 body.length ++ body)

lemma length_tlsMessageWire (type : UInt8) (body : List UInt8) :
    (tlsMessageWire type body).length = tlsHandshakeHeaderLen + body.length := by
  simp only [tlsMessageWire, tlsHandshakeHeaderLen, List.length_cons, List.length_append,
    BigEndian.length_bytes]
  omega

/-- The three bytes of a length. -/
lemma bytes_tlsBodyLen (a b c : UInt8) : bytes 3 (tlsBodyLen a b c) = [a, b, c] := by
  have hvalue : tlsBodyLen a b c = [a, b, c].foldl BigEndian.push 0 := by
    simp only [tlsBodyLen, List.foldl_cons, List.foldl_nil, BigEndian.push_eq]
    omega
  rw [hvalue]
  exact BigEndian.bytes_foldl_push [a, b, c]

lemma tlsBodyLen_lt (a b c : UInt8) : tlsBodyLen a b c < 256 ^ 3 := by
  have ha := a.toNat_lt
  have hb := b.toNat_lt
  have hc := c.toNat_lt
  unfold tlsBodyLen
  omega

/-- The header of a message is read when its length is that of the rest. -/
lemma tlsHandshakeHeaderParse_eq_ok (message : List UInt8) (type : UInt8) :
    tlsHandshakeHeaderParse message = .ok type ↔
      ∃ body : List UInt8, body.length < 256 ^ 3 ∧ message = tlsMessageWire type body := by
  constructor
  · intro h
    match message with
    | [] | [_] | [_, _] | [_, _, _] => cases h
    | first :: a :: b :: c :: body =>
      rw [tlsHandshakeHeaderParse] at h
      obtain ⟨hlength, h⟩ := Guard.of_ok h
      cases h
      have hbody : body.length = tlsBodyLen a b c := not_not.mp hlength
      refine ⟨body, hbody ▸ tlsBodyLen_lt a b c, ?_⟩
      rw [tlsMessageWire, hbody, bytes_tlsBodyLen]
      rfl
  · rintro ⟨body, hbody, rfl⟩
    obtain ⟨a, b, c, habc⟩ : ∃ a b c, bytes 3 body.length = [a, b, c] :=
      ⟨_, _, _, rfl⟩
    have hlength : tlsBodyLen a b c = body.length := by
      have hread := BigEndian.foldl_push_bytes 3 body.length 0
      rw [habc, Nat.zero_mul, Nat.zero_add, Nat.mod_eq_of_lt hbody] at hread
      rw [← hread]
      simp only [tlsBodyLen, List.foldl_cons, List.foldl_nil, BigEndian.push_eq]
      omega
    rw [tlsMessageWire, habc]
    exact if_neg (not_not.mpr hlength.symm)

lemma decodes_tlsMessageBody (type : UInt8) :
    Codec.Decodes (fun body => body.length < 256 ^ 3) (tlsMessageWire type)
      (tlsMessageBody · type) := by
  intro message body
  dsimp only
  rw [tlsMessageBody, Codec.guard_eq_ok]
  constructor
  · rintro ⟨-, h⟩
    cases hparse : tlsHandshakeHeaderParse message with
    | error status =>
      rw [hparse] at h
      cases h
    | ok found =>
      rw [hparse] at h
      obtain ⟨htype, h⟩ := Guard.of_ok h
      cases h
      obtain ⟨body, hbody, rfl⟩ := (tlsHandshakeHeaderParse_eq_ok message found).mp hparse
      rw [not_not.mp htype]
      exact ⟨hbody, rfl⟩
  · rintro ⟨hbody, rfl⟩
    refine ⟨by rw [length_tlsMessageWire]; omega, ?_⟩
    rw [(tlsHandshakeHeaderParse_eq_ok _ type).mpr ⟨body, hbody, rfl⟩]
    exact if_neg (not_not.mpr rfl)

/-- A function that writes a body, in the same pieces into every writer. -/
def BodyWrites (body : Writer → Writer × Status) (text : List UInt8) : Prop :=
  ∃ pieces : List (List UInt8), pieces.flatten = text ∧
    ∀ w : Writer, (body w).1 = w.putAll pieces ∧
      ((w.putAll pieces).ok = true → (body w).2 = .ok)

/-- An encoder that writes a text whole when there is room for it, and refuses when there is not. -/
structure WritesWhole (encode : Writer → Writer × Status) (text : List UInt8) : Prop where
  written : ∀ w : Writer, w.ok = true → w.bytes.length + text.length ≤ w.cap →
    (encode w).2 = .ok ∧ (encode w).1.ok = true ∧ (encode w).1.bytes = w.bytes ++ text ∧
      (encode w).1.cap = w.cap
  refused : ∀ w : Writer, w.ok = true → w.cap < w.bytes.length + text.length →
    (encode w).2 = .limit

/-- A message whose body the measuring writer holds is written whole or refused. -/
lemma writesWhole_tlsFrameAndWrite {body : Writer → Writer × Status} {text : List UInt8}
    (hbody : BodyWrites body text) (hmeasure : text.length ≤ 2 ^ 20) (type : UInt8) :
    WritesWhole (tlsFrameAndWrite body type) (tlsMessageWire type text) := by
  suffices h : ∀ w : Writer, w.ok = true →
      (w.bytes.length + (tlsMessageWire type text).length ≤ w.cap →
        (tlsFrameAndWrite body type w).2 = .ok ∧ (tlsFrameAndWrite body type w).1.ok = true ∧
          (tlsFrameAndWrite body type w).1.bytes = w.bytes ++ tlsMessageWire type text ∧
          (tlsFrameAndWrite body type w).1.cap = w.cap) ∧
        (w.cap < w.bytes.length + (tlsMessageWire type text).length →
          (tlsFrameAndWrite body type w).2 = .limit) from
    ⟨fun w hok => (h w hok).1, fun w hok => (h w hok).2⟩
  intro w hok
  obtain ⟨pieces, rfl, hpieces⟩ := hbody
  obtain ⟨hmeasured, -⟩ := hpieces writerMeasure
  have hmeasureOk : (body writerMeasure).1.ok = true := by
    rw [hmeasured, Writer.putAll_ok_iff pieces rfl]
    simpa [writerMeasure, writerInit] using hmeasure
  have hmeasureBytes : (body writerMeasure).1.bytes = pieces.flatten := by
    rw [hmeasured] at hmeasureOk ⊢
    exact (Writer.putAll_ok hmeasureOk).2
  have hframe : tlsFrameAndWrite body type w =
      if (tlsHandshakeHeaderEncode w type pieces.flatten.length).2 ≠ .ok then
        ((tlsHandshakeHeaderEncode w type pieces.flatten.length).1, .limit)
      else
        ((body (tlsHandshakeHeaderEncode w type pieces.flatten.length).1).1,
          if (body (tlsHandshakeHeaderEncode w type pieces.flatten.length).1).2 ≠ .ok then .limit
          else if (body (tlsHandshakeHeaderEncode w type pieces.flatten.length).1).1.ok then .ok
          else .limit) := by
    rw [tlsFrameAndWrite]
    dsimp only
    rw [if_neg (by rw [hmeasureOk]; decide), hmeasureBytes,
      if_neg (by unfold tlsHandshakeMaxBody; omega)]
  have hheader : tlsHandshakeHeaderEncode w type pieces.flatten.length =
      (w.putAll [[type], bytes 3 pieces.flatten.length],
        if (w.putAll [[type], bytes 3 pieces.flatten.length]).ok then .ok else .limit) := by
    rw [tlsHandshakeHeaderEncode, if_neg (by unfold tlsHandshakeMaxBody; omega)]
  have hheaderLength : ([[type], bytes 3 pieces.flatten.length] : List (List UInt8)).flatten.length
      = tlsHandshakeHeaderLen := by
    simp [tlsHandshakeHeaderLen]
  rw [length_tlsMessageWire, hframe, hheader]
  by_cases hroom : w.bytes.length + tlsHandshakeHeaderLen ≤ w.cap
  · have hheaderOk : (w.putAll [[type], bytes 3 pieces.flatten.length]).ok = true := by
      rw [Writer.putAll_ok_iff _ hok, hheaderLength]
      exact hroom
    obtain ⟨-, hheaderBytes⟩ := Writer.putAll_ok hheaderOk
    have hlength : (w.putAll [[type], bytes 3 pieces.flatten.length]).bytes.length =
        w.bytes.length + tlsHandshakeHeaderLen := by
      rw [hheaderBytes, List.length_append, hheaderLength]
    obtain ⟨hwrite, hstatus⟩ := hpieces (w.putAll [[type], bytes 3 pieces.flatten.length])
    have hiff := Writer.putAll_ok_iff pieces hheaderOk
    rw [hlength, Writer.putAll_cap] at hiff
    dsimp only
    rw [if_pos hheaderOk, if_neg (not_not.mpr rfl), hwrite]
    constructor
    · intro hfits
      have hwritten := hiff.mpr (by omega)
      obtain ⟨-, hbytes⟩ := Writer.putAll_ok hwritten
      dsimp only
      rw [if_neg (not_not.mpr (hstatus hwritten)), if_pos hwritten]
      refine ⟨rfl, hwritten, ?_, by rw [Writer.putAll_cap, Writer.putAll_cap]⟩
      rw [hbytes, hheaderBytes, List.append_assoc]
      simp [tlsMessageWire]
    · intro hover
      have hfailed : ¬(Writer.ok _ = true) := fun hwritten => absurd (hiff.mp hwritten) (by omega)
      dsimp only
      rw [if_neg hfailed, ite_self]
  · have hheaderFails : ¬(w.putAll [[type], bytes 3 pieces.flatten.length]).ok = true := by
      rw [Writer.putAll_ok_iff _ hok, hheaderLength]
      exact hroom
    dsimp only
    rw [if_neg hheaderFails, if_pos (by decide)]
    exact ⟨fun hfits => absurd hfits (by omega), fun _ => rfl⟩

/-! ## Texts -/

/-- The text of a Hello's session ID. -/
def sessionIdWire (sessionId : List UInt8) : List UInt8 :=
  bytes 1 sessionId.length ++ sessionId

def cipherSuitesWire (suites : List ℕ) : List UInt8 :=
  bytes 2 (2 * suites.length) ++ suites.flatMap (bytes 2)

def compressionWire (methods : List ℕ) : List UInt8 :=
  bytes 1 methods.length ++ methods.flatMap (bytes 1)

def TlsClientHelloMessage.body (hello : TlsClientHelloMessage) : List UInt8 :=
  bytes 2 hello.legacyVersion ++ (hello.random ++ (sessionIdWire hello.sessionId ++
    (cipherSuitesWire hello.cipherSuites ++ (compressionWire hello.compressionMethods ++
      tlsExtensionsWire hello.extensions))))

def TlsServerHelloMessage.body (hello : TlsServerHelloMessage) : List UInt8 :=
  bytes 2 hello.legacyVersion ++ (hello.random ++ (sessionIdWire hello.sessionId ++
    (bytes 2 hello.cipherSuite ++ (bytes 1 hello.compressionMethod ++
      tlsExtensionsWire hello.extensions))))

def TlsCertificateEntry.wire (entry : TlsCertificateEntry) : List UInt8 :=
  bytes 3 entry.der.length ++ (entry.der ++
    (bytes 2 entry.extensions.length ++ entry.extensions))

def TlsCertificateMessage.body (certificate : TlsCertificateMessage) : List UInt8 :=
  bytes 1 certificate.requestContext.length ++ (certificate.requestContext ++
    (bytes 3 (certificate.entries.flatMap TlsCertificateEntry.wire).length ++
      certificate.entries.flatMap TlsCertificateEntry.wire))

def TlsCertificateVerifyMessage.body (verify : TlsCertificateVerifyMessage) : List UInt8 :=
  bytes 2 verify.scheme ++ (bytes 2 verify.signature.length ++ verify.signature)

/-- A ClientHello that the parser can answer. -/
structure TlsClientHelloMessage.Valid (hello : TlsClientHelloMessage) : Prop where
  legacyVersion : hello.legacyVersion = tlsLegacyVersion
  random : hello.random.length = tlsRandomLen
  sessionId : hello.sessionId.length ≤ tlsSessionIdMax
  someSuite : hello.cipherSuites ≠ []
  suiteCount : hello.cipherSuites.length ≤ tlsCipherSuitesMax
  suites : ∀ suite ∈ hello.cipherSuites, suite < 256 ^ 2
  compressionMethods : hello.compressionMethods = [0]
  extensions : TlsExtensionsValid hello.extensions

structure TlsServerHelloMessage.Valid (hello : TlsServerHelloMessage) : Prop where
  legacyVersion : hello.legacyVersion = tlsLegacyVersion
  random : hello.random.length = tlsRandomLen
  sessionId : hello.sessionId.length ≤ tlsSessionIdMax
  cipherSuite : hello.cipherSuite < 256 ^ 2
  compressionMethod : hello.compressionMethod = 0
  extensions : TlsExtensionsValid hello.extensions

structure TlsCertificateEntry.Valid (entry : TlsCertificateEntry) : Prop where
  der : entry.der ≠ []
  derLen : entry.der.length < 256 ^ 3
  extensionsLen : entry.extensions.length < 256 ^ 2

structure TlsCertificateMessage.Valid (certificate : TlsCertificateMessage) : Prop where
  contextLen : certificate.requestContext.length < 256 ^ 1
  count : certificate.entries.length ≤ tlsCertificateMaxEntries
  entries : ∀ entry ∈ certificate.entries, entry.Valid
  listLen : (certificate.entries.flatMap TlsCertificateEntry.wire).length < 256 ^ 3

structure TlsCertificateVerifyMessage.Valid (verify : TlsCertificateVerifyMessage) : Prop where
  scheme : verify.scheme < 256 ^ 2
  signatureLen : verify.signature.length < 256 ^ 2

/-! ## Parts of a message -/

lemma reads_helloPrefix :
    Codec.Reads (fun p : ℕ × List UInt8 => p.1 = tlsLegacyVersion ∧ p.2.length = tlsRandomLen)
      (fun p => bytes 2 p.1 ++ p.2) helloPrefix := by
  rintro x ⟨version, random⟩ rest
  rw [helloPrefix, reads_tlsU16.bind_eq_ok]
  constructor
  · rintro ⟨v, y, -, rfl, hrandom⟩
    obtain ⟨r, z, hlength, rfl, hversion⟩ := (reads_tlsTake _).bind_eq_ok.mp hrandom
    obtain ⟨hlegacy, hdone⟩ := Guard.of_ok hversion
    cases hdone
    exact ⟨⟨not_not.mp hlegacy, hlength⟩, by rw [List.append_assoc]; rfl⟩
  · rintro ⟨⟨hversion, hlength⟩, rfl⟩
    dsimp only at hversion hlength ⊢
    refine ⟨version, random ++ rest, ?_, List.append_assoc .., ?_⟩
    · rw [hversion]
      decide
    · refine (reads_tlsTake _).bind_eq_ok.mpr ⟨random, rest, hlength, rfl, ?_⟩
      exact if_neg (not_not.mpr hversion)

lemma reads_helloSessionId :
    Codec.Reads (fun sessionId : List UInt8 => sessionId.length ≤ tlsSessionIdMax) sessionIdWire
      helloSessionId := by
  intro x sessionId rest
  rw [helloSessionId, reads_tlsU8.bind_eq_ok]
  constructor
  · rintro ⟨length, y, -, rfl, h⟩
    obtain ⟨hshort, htake⟩ := Guard.of_ok h
    obtain ⟨rfl, rfl⟩ := (reads_tlsTake length y sessionId rest).mp htake
    refine ⟨not_lt.mp hshort, ?_⟩
    rw [sessionIdWire, List.append_assoc]
    rfl
  · rintro ⟨hshort, rfl⟩
    refine ⟨sessionId.length, sessionId ++ rest, ?_, List.append_assoc .., ?_⟩
    · exact Nat.lt_of_le_of_lt hshort (by decide)
    · dsimp only
      rw [if_neg (not_lt.mpr hshort)]
      exact (reads_tlsTake _ _ _ _).mpr ⟨rfl, rfl⟩

lemma reads_clientHelloCipherSuites :
    Codec.Reads (fun suites : List ℕ => suites ≠ [] ∧ suites.length ≤ tlsCipherSuitesMax ∧
      ∀ suite ∈ suites, suite < 256 ^ 2) cipherSuitesWire clientHelloCipherSuites := by
  intro x suites rest
  rw [clientHelloCipherSuites, reads_tlsU16.bind_eq_ok]
  constructor
  · rintro ⟨length, y, -, rfl, h⟩
    obtain ⟨hshape, h₁⟩ := Guard.of_ok h
    obtain ⟨hmax, h₂⟩ := Guard.of_ok h₁
    obtain ⟨⟨hcount, hall⟩, rfl⟩ := (reads_tlsU16.times (length / 2) y suites rest).mp h₂
    rw [not_or, not_not] at hshape
    refine ⟨⟨?_, by omega, hall⟩, ?_⟩
    · rintro rfl
      rw [List.length_nil] at hcount
      omega
    · rw [cipherSuitesWire, List.append_assoc]
      congr 2
      omega
  · rintro ⟨⟨hne, hmax, hall⟩, rfl⟩
    have hpos := List.length_pos_iff.mpr hne
    have hhalf : 2 * suites.length / 2 = suites.length := by omega
    refine ⟨2 * suites.length, suites.flatMap (bytes 2) ++ rest, ?_, List.append_assoc .., ?_⟩
    · unfold tlsCipherSuitesMax at hmax
      omega
    · dsimp only
      rw [if_neg (by omega), hhalf, if_neg (not_lt.mpr hmax)]
      exact (reads_tlsU16.times _ _ _ _).mpr ⟨⟨rfl, hall⟩, rfl⟩

lemma reads_clientHelloCompression :
    Codec.Reads (fun methods : List ℕ => methods = [0]) compressionWire
      clientHelloCompression := by
  intro x methods rest
  rw [clientHelloCompression, reads_tlsU8.bind_eq_ok]
  constructor
  · rintro ⟨length, y, -, rfl, h⟩
    obtain ⟨hone, h₁⟩ := Guard.of_ok h
    obtain ⟨method, z, -, rfl, h₂⟩ := reads_tlsU8.bind_eq_ok.mp h₁
    obtain ⟨hzero, hdone⟩ := Guard.of_ok h₂
    cases hdone
    rw [not_not.mp hone, not_not.mp hzero]
    exact ⟨rfl, rfl⟩
  · rintro ⟨rfl, rfl⟩
    refine ⟨1, bytes 1 0 ++ rest, by decide, rfl, ?_⟩
    dsimp only
    rw [if_neg (not_not.mpr rfl)]
    exact reads_tlsU8.bind_eq_ok.mpr ⟨0, rest, by decide, rfl, rfl⟩

lemma reads_serverHelloCompression :
    Codec.Reads (fun method => method = 0) (bytes 1) serverHelloCompression := by
  intro x method rest
  rw [serverHelloCompression, reads_tlsU8.bind_eq_ok]
  constructor
  · rintro ⟨m, y, -, rfl, h⟩
    obtain ⟨hzero, hdone⟩ := Guard.of_ok h
    cases hdone
    exact ⟨not_not.mp hzero, rfl⟩
  · rintro ⟨rfl, rfl⟩
    exact ⟨0, rest, by decide, rfl, rfl⟩

lemma reads_certificateEntry :
    Codec.Reads TlsCertificateEntry.Valid TlsCertificateEntry.wire certificateEntry := by
  intro x entry rest
  rw [certificateEntry, reads_tlsU24.bind_eq_ok]
  constructor
  · rintro ⟨derLen, y, hderLen, rfl, h⟩
    obtain ⟨hzero, h₁⟩ := Guard.of_ok h
    obtain ⟨der, z, rfl, rfl, h₂⟩ := (reads_tlsTake derLen).bind_eq_ok.mp h₁
    obtain ⟨extensionsLen, u, hextensionsLen, rfl, h₃⟩ := reads_tlsU16.bind_eq_ok.mp h₂
    obtain ⟨extensions, v, rfl, rfl, hdone⟩ := (reads_tlsTake extensionsLen).bind_eq_ok.mp h₃
    cases hdone
    refine ⟨⟨?_, hderLen, hextensionsLen⟩, ?_⟩
    · intro hnil
      exact hzero (by rw [show der = [] from hnil]; rfl)
    · simp only [TlsCertificateEntry.wire, id, List.append_assoc]
  · rintro ⟨⟨hder, hderLen, hextensionsLen⟩, rfl⟩
    have hpos := List.length_pos_iff.mpr hder
    refine ⟨entry.der.length, entry.der ++ (bytes 2 entry.extensions.length ++
      (entry.extensions ++ rest)), hderLen, ?_, ?_⟩
    · simp only [TlsCertificateEntry.wire, List.append_assoc]
    · dsimp only
      rw [if_neg (by omega)]
      refine (reads_tlsTake _).bind_eq_ok.mpr ⟨_, _, rfl, rfl, ?_⟩
      refine reads_tlsU16.bind_eq_ok.mpr ⟨_, _, hextensionsLen, rfl, ?_⟩
      exact (reads_tlsTake _).bind_eq_ok.mpr ⟨_, rest, rfl, rfl, rfl⟩

/-! ## Messages -/

/-- A decoder of a message's body, behind the check of its framing. -/
lemma decodes_tlsMessage {β : Type} {valid : β → Prop} {body : β → List UInt8}
    {parse : List UInt8 → Except Refusal β} (type : UInt8)
    (h : Codec.Decodes valid body parse) :
    Codec.Decodes (fun b => valid b ∧ (body b).length < 256 ^ 3)
      (fun b => tlsMessageWire type (body b))
      (fun message => tlsMessageBody message type >>= parse) := by
  intro message b
  dsimp only
  rw [(decodes_tlsMessageBody type).bind_eq_ok]
  constructor
  · rintro ⟨text, hlength, rfl, hparse⟩
    obtain ⟨hvalid, rfl⟩ := (h text b).mp hparse
    exact ⟨⟨hvalid, hlength⟩, rfl⟩
  · rintro ⟨⟨hvalid, hlength⟩, rfl⟩
    exact ⟨_, hlength, rfl, (h _ b).mpr ⟨hvalid, rfl⟩⟩

lemma decodes_tlsClientHelloParse :
    Codec.Decodes (fun hello => TlsClientHelloMessage.Valid hello ∧ hello.body.length < 256 ^ 3)
      (fun hello => tlsMessageWire tlsClientHello hello.body) tlsClientHelloParse := by
  refine decodes_tlsMessage tlsClientHello fun x hello => ?_
  dsimp only
  rw [reads_helloPrefix.bind_eq_ok]
  constructor
  · rintro ⟨⟨version, random⟩, y₁, ⟨hversion, hrandom⟩, rfl, h₁⟩
    obtain ⟨sessionId, y₂, hsessionId, rfl, h₂⟩ := reads_helloSessionId.bind_eq_ok.mp h₁
    obtain ⟨suites, y₃, ⟨hsome, hcount, hsuites⟩, rfl, h₃⟩ :=
      reads_clientHelloCipherSuites.bind_eq_ok.mp h₂
    obtain ⟨methods, y₄, hmethods, rfl, h₄⟩ := reads_clientHelloCompression.bind_eq_ok.mp h₃
    obtain ⟨extensions, y₅, hextensions, rfl, h₅⟩ := reads_tlsExtensionsParse.bind_eq_ok.mp h₄
    obtain ⟨rfl, rfl⟩ := tlsEnd_eq_ok.mp h₅
    refine ⟨⟨hversion, hrandom, hsessionId, hsome, hcount, hsuites, hmethods, hextensions⟩, ?_⟩
    simp only [TlsClientHelloMessage.body, List.append_assoc, List.append_nil]
  · rintro ⟨h, rfl⟩
    refine ⟨(hello.legacyVersion, hello.random), _, ⟨h.legacyVersion, h.random⟩,
      (List.append_assoc (bytes 2 hello.legacyVersion) hello.random _).symm, ?_⟩
    refine reads_helloSessionId.bind_eq_ok.mpr ⟨_, _, h.sessionId, rfl, ?_⟩
    refine reads_clientHelloCipherSuites.bind_eq_ok.mpr
      ⟨_, _, ⟨h.someSuite, h.suiteCount, h.suites⟩, rfl, ?_⟩
    refine reads_clientHelloCompression.bind_eq_ok.mpr ⟨_, _, h.compressionMethods, rfl, ?_⟩
    exact reads_tlsExtensionsParse.bind_eq_ok.mpr
      ⟨_, [], h.extensions, (List.append_nil _).symm, tlsEnd_eq_ok.mpr ⟨rfl, rfl⟩⟩

lemma decodes_tlsServerHelloParse :
    Codec.Decodes (fun hello => TlsServerHelloMessage.Valid hello ∧ hello.body.length < 256 ^ 3)
      (fun hello => tlsMessageWire tlsServerHello hello.body) tlsServerHelloParse := by
  refine decodes_tlsMessage tlsServerHello fun x hello => ?_
  dsimp only
  rw [reads_helloPrefix.bind_eq_ok]
  constructor
  · rintro ⟨⟨version, random⟩, y₁, ⟨hversion, hrandom⟩, rfl, h₁⟩
    obtain ⟨sessionId, y₂, hsessionId, rfl, h₂⟩ := reads_helloSessionId.bind_eq_ok.mp h₁
    obtain ⟨suite, y₃, hsuite, rfl, h₃⟩ := reads_tlsU16.bind_eq_ok.mp h₂
    obtain ⟨method, y₄, hmethod, rfl, h₄⟩ := reads_serverHelloCompression.bind_eq_ok.mp h₃
    obtain ⟨extensions, y₅, hextensions, rfl, h₅⟩ := reads_tlsExtensionsParse.bind_eq_ok.mp h₄
    obtain ⟨rfl, rfl⟩ := tlsEnd_eq_ok.mp h₅
    refine ⟨⟨hversion, hrandom, hsessionId, hsuite, hmethod, hextensions⟩, ?_⟩
    simp only [TlsServerHelloMessage.body, List.append_assoc, List.append_nil]
  · rintro ⟨h, rfl⟩
    refine ⟨(hello.legacyVersion, hello.random), _, ⟨h.legacyVersion, h.random⟩,
      (List.append_assoc (bytes 2 hello.legacyVersion) hello.random _).symm, ?_⟩
    refine reads_helloSessionId.bind_eq_ok.mpr ⟨_, _, h.sessionId, rfl, ?_⟩
    refine reads_tlsU16.bind_eq_ok.mpr ⟨_, _, h.cipherSuite, rfl, ?_⟩
    refine reads_serverHelloCompression.bind_eq_ok.mpr ⟨_, _, h.compressionMethod, rfl, ?_⟩
    exact reads_tlsExtensionsParse.bind_eq_ok.mpr
      ⟨_, [], h.extensions, (List.append_nil _).symm, tlsEnd_eq_ok.mpr ⟨rfl, rfl⟩⟩

lemma decodes_tlsEncryptedExtensionsParse :
    Codec.Decodes (fun list => TlsExtensionsValid list ∧ (tlsExtensionsWire list).length < 256 ^ 3)
      (fun list => tlsMessageWire tlsEncryptedExtensions (tlsExtensionsWire list))
      tlsEncryptedExtensionsParse := by
  refine decodes_tlsMessage tlsEncryptedExtensions fun x list => ?_
  dsimp only
  rw [reads_tlsExtensionsParse.bind_eq_ok]
  constructor
  · rintro ⟨extensions, y, hextensions, rfl, h⟩
    obtain ⟨rfl, rfl⟩ := tlsEnd_eq_ok.mp h
    exact ⟨hextensions, List.append_nil _⟩
  · rintro ⟨h, rfl⟩
    exact ⟨list, [], h, (List.append_nil _).symm, tlsEnd_eq_ok.mpr ⟨rfl, rfl⟩⟩

lemma TlsCertificateEntry.wire_ne_nil (entry : TlsCertificateEntry) : entry.wire ≠ [] := by
  intro h
  have := congrArg List.length h
  simp [TlsCertificateEntry.wire] at this

lemma decodes_tlsCertificateParse :
    Codec.Decodes
      (fun certificate => TlsCertificateMessage.Valid certificate ∧
        certificate.body.length < 256 ^ 3)
      (fun certificate => tlsMessageWire tlsCertificate certificate.body) tlsCertificateParse := by
  refine decodes_tlsMessage tlsCertificate fun x certificate => ?_
  have hitems := fun (region : List UInt8) (all : List TlsCertificateEntry) =>
    @Codec.items_eq_ok _ _ _ Refusal.limit Refusal.protocol tlsCertificateMaxEntries
      (fun _ _ => false) _ _ _ reads_certificateEntry (fun entry _ => entry.wire_ne_nil)
      region.length [] all region le_rfl (Nat.zero_le _)
  dsimp only
  rw [reads_tlsU8.bind_eq_ok]
  constructor
  · rintro ⟨contextLen, y₁, hcontextLen, rfl, h₁⟩
    obtain ⟨context, y₂, rfl, rfl, h₂⟩ := (reads_tlsTake contextLen).bind_eq_ok.mp h₁
    obtain ⟨listLen, y₃, hlistLen, rfl, h₃⟩ := reads_tlsU24.bind_eq_ok.mp h₂
    obtain ⟨region, y₄, rfl, rfl, h₄⟩ := (reads_tlsTake listLen).bind_eq_ok.mp h₃
    obtain ⟨entries, hentries, h₅⟩ := Guard.of_bind_ok h₄
    obtain ⟨rfl, rfl⟩ := tlsEnd_eq_ok.mp h₅
    obtain ⟨more, rfl, rfl, hvalid, -, hcount⟩ := (hitems region entries).mp hentries
    refine ⟨⟨hcontextLen, hcount, hvalid, hlistLen⟩, ?_⟩
    simp only [TlsCertificateMessage.body, id, List.append_nil]
  · rintro ⟨h, rfl⟩
    refine ⟨_, _, h.contextLen, rfl, ?_⟩
    refine (reads_tlsTake _).bind_eq_ok.mpr ⟨certificate.requestContext, _, rfl, rfl, ?_⟩
    refine reads_tlsU24.bind_eq_ok.mpr ⟨_, _, h.listLen, rfl, ?_⟩
    refine (reads_tlsTake _).bind_eq_ok.mpr ⟨_, [], rfl, (List.append_nil _).symm, ?_⟩
    dsimp only
    rw [(hitems _ certificate.entries).mpr
      ⟨_, rfl, rfl, h.entries, Codec.agree_of_never _ _, h.count⟩]
    exact tlsEnd_eq_ok.mpr ⟨rfl, rfl⟩

lemma decodes_tlsCertificateVerifyParse :
    Codec.Decodes
      (fun verify => TlsCertificateVerifyMessage.Valid verify ∧ verify.body.length < 256 ^ 3)
      (fun verify => tlsMessageWire tlsCertificateVerify verify.body)
      tlsCertificateVerifyParse := by
  refine decodes_tlsMessage tlsCertificateVerify fun x verify => ?_
  dsimp only
  rw [reads_tlsU16.bind_eq_ok]
  constructor
  · rintro ⟨scheme, y₁, hscheme, rfl, h₁⟩
    obtain ⟨length, y₂, hlength, rfl, h₂⟩ := reads_tlsU16.bind_eq_ok.mp h₁
    obtain ⟨signature, y₃, rfl, rfl, h₃⟩ := (reads_tlsTake length).bind_eq_ok.mp h₂
    obtain ⟨rfl, rfl⟩ := tlsEnd_eq_ok.mp h₃
    refine ⟨⟨hscheme, hlength⟩, ?_⟩
    simp only [TlsCertificateVerifyMessage.body, id, List.append_nil]
  · rintro ⟨h, rfl⟩
    refine ⟨_, _, h.scheme, rfl, ?_⟩
    refine reads_tlsU16.bind_eq_ok.mpr ⟨_, _, h.signatureLen, rfl, ?_⟩
    exact (reads_tlsTake _).bind_eq_ok.mpr
      ⟨verify.signature, [], rfl, (List.append_nil _).symm, tlsEnd_eq_ok.mpr ⟨rfl, rfl⟩⟩

lemma decodes_tlsFinishedParse :
    Codec.Decodes (fun verifyData => verifyData.length = tls13FinishedLen ∧
        verifyData.length < 256 ^ 3)
      (fun verifyData => tlsMessageWire tlsFinished verifyData) tlsFinishedParse := by
  refine decodes_tlsMessage tlsFinished fun x verifyData => ?_
  dsimp only
  rw [Codec.guard_eq_ok, not_not]
  constructor
  · rintro ⟨hlength, h⟩
    obtain ⟨data, y, -, rfl, hend⟩ := (reads_tlsTake _).bind_eq_ok.mp h
    obtain ⟨rfl, rfl⟩ := tlsEnd_eq_ok.mp hend
    exact ⟨by simpa using hlength, List.append_nil _⟩
  · rintro ⟨hlength, rfl⟩
    refine ⟨hlength, (reads_tlsTake _).bind_eq_ok.mpr
      ⟨x, [], hlength, (List.append_nil _).symm, tlsEnd_eq_ok.mpr ⟨rfl, rfl⟩⟩⟩

/-! ## What the encoders write -/

lemma putAll_append (w : Writer) (first second : List (List UInt8)) :
    (w.putAll first).putAll second = w.putAll (first ++ second) :=
  (List.foldl_append).symm

/-- A body of some pieces and an extension block. -/
lemma bodyWrites_extensions {before : List (List UInt8)} {list : List TlsExtension}
    (hcount : list.length ≤ tlsMaxExtensions)
    (htotal : (list.flatMap TlsExtension.wire).length < 256 ^ 2) :
    BodyWrites (fun w => tlsExtensionsEncode (w.putAll before) list)
      (before.flatten ++ tlsExtensionsWire list) := by
  obtain ⟨pieces, hpieces, hencode⟩ := tlsExtensionsEncode_eq hcount htotal
  refine ⟨before ++ pieces, by rw [List.flatten_append, hpieces], fun w => ?_⟩
  dsimp only
  rw [hencode, putAll_append]
  exact ⟨rfl, fun hok => if_pos hok⟩

lemma flatten_map_bytes (k : ℕ) (l : List ℕ) : (l.map (bytes k)).flatten = l.flatMap (bytes k) :=
  List.flatMap_def.symm

theorem writesWhole_tlsClientHelloEncode {hello : TlsClientHelloMessage} (h : hello.Valid)
    (hmeasure : hello.body.length ≤ 2 ^ 20) :
    WritesWhole (tlsClientHelloEncode hello) (tlsMessageWire tlsClientHello hello.body) := by
  have hbody : BodyWrites
      (fun w => tlsExtensionsEncode (clientHelloPrefixBody hello w) hello.extensions)
      hello.body := by
    have hwrites := @bodyWrites_extensions ([bytes 2 hello.legacyVersion, hello.random,
        bytes 1 hello.sessionId.length, hello.sessionId,
        bytes 2 (2 * hello.cipherSuites.length)] ++ hello.cipherSuites.map (bytes 2) ++
        [bytes 1 hello.compressionMethods.length] ++ hello.compressionMethods.map (bytes 1))
      _ h.extensions.count h.extensions.total
    refine (congrArg (BodyWrites _) ?_).mp hwrites
    simp [TlsClientHelloMessage.body, sessionIdWire, cipherSuitesWire, compressionWire,
      flatten_map_bytes]
  have hencode : tlsClientHelloEncode hello = tlsFrameAndWrite
      (fun w => tlsExtensionsEncode (clientHelloPrefixBody hello w) hello.extensions)
      tlsClientHello := by
    funext w
    have hsome := List.length_pos_iff.mpr h.someSuite
    have hcount := h.suiteCount
    rw [tlsClientHelloEncode, if_neg (not_lt.mpr h.sessionId), if_neg (by omega),
      if_neg (by rw [h.compressionMethods]; decide)]
  rw [hencode]
  exact writesWhole_tlsFrameAndWrite hbody hmeasure tlsClientHello

theorem writesWhole_tlsServerHelloEncode {hello : TlsServerHelloMessage} (h : hello.Valid)
    (hmeasure : hello.body.length ≤ 2 ^ 20) :
    WritesWhole (tlsServerHelloEncode hello) (tlsMessageWire tlsServerHello hello.body) := by
  have hbody : BodyWrites
      (fun w => tlsExtensionsEncode (serverHelloPrefixBody hello w) hello.extensions)
      hello.body := by
    have hwrites := @bodyWrites_extensions ([bytes 2 hello.legacyVersion, hello.random,
        bytes 1 hello.sessionId.length, hello.sessionId, bytes 2 hello.cipherSuite,
        bytes 1 hello.compressionMethod]) _ h.extensions.count h.extensions.total
    refine (congrArg (BodyWrites _) ?_).mp hwrites
    simp [TlsServerHelloMessage.body, sessionIdWire]
  have hencode : tlsServerHelloEncode hello = tlsFrameAndWrite
      (fun w => tlsExtensionsEncode (serverHelloPrefixBody hello w) hello.extensions)
      tlsServerHello := by
    funext w
    rw [tlsServerHelloEncode, if_neg (not_lt.mpr h.sessionId)]
  rw [hencode]
  exact writesWhole_tlsFrameAndWrite hbody hmeasure tlsServerHello

theorem writesWhole_tlsEncryptedExtensionsEncode {list : List TlsExtension}
    (hcount : list.length ≤ tlsMaxExtensions)
    (htotal : (list.flatMap TlsExtension.wire).length < 256 ^ 2) :
    WritesWhole (tlsEncryptedExtensionsEncode list)
      (tlsMessageWire tlsEncryptedExtensions (tlsExtensionsWire list)) := by
  refine writesWhole_tlsFrameAndWrite (@bodyWrites_extensions [] list hcount htotal) ?_ _
  rw [List.flatten_nil, List.nil_append, tlsExtensionsWire, List.length_append,
    BigEndian.length_bytes]
  omega

lemma sum_listLen (entries : List TlsCertificateEntry) :
    (entries.map TlsCertificateEntry.listLen).sum =
      (entries.flatMap TlsCertificateEntry.wire).length := by
  rw [List.length_flatMap]
  refine congrArg List.sum (List.map_congr_left fun entry _ => ?_)
  simp only [TlsCertificateEntry.listLen, TlsCertificateEntry.wire, List.length_append,
    BigEndian.length_bytes]
  omega

lemma flatten_certificate_pieces (entries : List TlsCertificateEntry) :
    (entries.flatMap TlsCertificateEntry.pieces).flatten =
      entries.flatMap TlsCertificateEntry.wire := by
  induction entries with
  | nil => rfl
  | cons entry entries ih =>
    rw [List.flatMap_cons, List.flatten_append, ih, List.flatMap_cons]
    simp [TlsCertificateEntry.pieces, TlsCertificateEntry.wire]

lemma certificateCheckEntries_eq_ok {entries : List TlsCertificateEntry}
    (h : ∀ entry ∈ entries, entry.Valid) : certificateCheckEntries entries = .ok := by
  induction entries with
  | nil => rfl
  | cons entry entries ih =>
    obtain ⟨hentry, hrest⟩ := List.forall_mem_cons.mp h
    have hder := List.length_pos_iff.mpr hentry.der
    have hderLen := hentry.derLen
    have hextensionsLen := hentry.extensionsLen
    rw [certificateCheckEntries, if_neg (by omega),
      if_neg (by unfold tlsHandshakeMaxBody; omega), if_neg (by omega), ih hrest]

theorem writesWhole_tlsCertificateEncode {certificate : TlsCertificateMessage}
    (h : certificate.Valid) (hmeasure : certificate.body.length ≤ 2 ^ 20) :
    WritesWhole (tlsCertificateEncode certificate)
      (tlsMessageWire tlsCertificate certificate.body) := by
  have hbody : BodyWrites (certificateBody certificate) certificate.body := by
    refine ⟨_, ?_, fun w => ⟨rfl, fun _ => rfl⟩⟩
    rw [List.flatten_append, flatten_certificate_pieces, sum_listLen]
    simp [TlsCertificateMessage.body]
  have hcheck : certificateCheck certificate = .ok := by
    have hcontext := h.contextLen
    have hlist := h.listLen
    rw [certificateCheck, if_neg (by omega), if_neg (not_lt.mpr h.count),
      if_neg (not_not.mpr (certificateCheckEntries_eq_ok h.entries)), sum_listLen,
      if_neg (by unfold tlsHandshakeMaxBody; omega)]
  have hencode : tlsCertificateEncode certificate =
      tlsFrameAndWrite (certificateBody certificate) tlsCertificate := by
    funext w
    rw [tlsCertificateEncode, if_neg (not_not.mpr hcheck)]
  rw [hencode]
  exact writesWhole_tlsFrameAndWrite hbody hmeasure tlsCertificate

theorem writesWhole_tlsCertificateVerifyEncode {verify : TlsCertificateVerifyMessage}
    (h : verify.signature.length < 256 ^ 2) :
    WritesWhole (tlsCertificateVerifyEncode verify)
      (tlsMessageWire tlsCertificateVerify verify.body) := by
  have hbody : BodyWrites (certificateVerifyBody verify) verify.body := by
    refine ⟨_, ?_, fun w => ⟨rfl, fun _ => rfl⟩⟩
    simp [TlsCertificateVerifyMessage.body]
  have hencode : tlsCertificateVerifyEncode verify =
      tlsFrameAndWrite (certificateVerifyBody verify) tlsCertificateVerify := by
    funext w
    rw [tlsCertificateVerifyEncode, if_neg (by omega)]
  rw [hencode]
  refine writesWhole_tlsFrameAndWrite hbody ?_ tlsCertificateVerify
  rw [TlsCertificateVerifyMessage.body, List.length_append, List.length_append,
    BigEndian.length_bytes, BigEndian.length_bytes]
  omega

theorem tlsFinishedBuild_eq_ok {verifyData : List UInt8} {capacity : ℕ}
    (h : verifyData.length = tls13FinishedLen)
    (hroom : (tlsMessageWire tlsFinished verifyData).length ≤ capacity) :
    tlsFinishedBuild verifyData capacity = .ok (tlsMessageWire tlsFinished verifyData) := by
  rw [length_tlsMessageWire, h] at hroom
  have hheader : tlsHandshakeHeaderEncode (writerInit capacity) tlsFinished tls13FinishedLen =
      ((writerInit capacity).putAll [[tlsFinished], bytes 3 tls13FinishedLen],
        if ((writerInit capacity).putAll [[tlsFinished], bytes 3 tls13FinishedLen]).ok then .ok
        else .limit) := by
    rw [tlsHandshakeHeaderEncode, if_neg (by decide)]
  have hall := @Writer.putAll_ok_iff (writerInit capacity)
    [[tlsFinished], bytes 3 tls13FinishedLen, verifyData] rfl
  have hlength : ([[tlsFinished], bytes 3 tls13FinishedLen, verifyData] :
      List (List UInt8)).flatten.length = tlsHandshakeHeaderLen + tls13FinishedLen := by
    simp only [List.flatten_cons, List.flatten_nil, List.length_append, BigEndian.length_bytes, h,
      List.length_singleton, List.length_nil, tlsHandshakeHeaderLen]
    omega
  have hwritten := hall.mpr (by rw [hlength]; simpa [writerInit] using hroom)
  obtain ⟨-, hbytes⟩ := Writer.putAll_ok hwritten
  have hput : ((writerInit capacity).putAll [[tlsFinished], bytes 3 tls13FinishedLen]).put
      verifyData = (writerInit capacity).putAll
        [[tlsFinished], bytes 3 tls13FinishedLen, verifyData] := rfl
  obtain ⟨hheaderOk, -⟩ := Writer.put_ok (hput ▸ hwritten)
  rw [tlsFinishedBuild, if_neg (by omega), hheader]
  dsimp only
  rw [if_pos hheaderOk, if_neg (not_not.mpr rfl), hput, if_neg (by rw [hwritten]; decide),
    hbytes]
  simp [tlsMessageWire, writerInit, h]

/-! ## Either message -/

/-- A message that one of the parsers answers. -/
inductive TlsHandshakeMessage
  | clientHello (hello : TlsClientHelloMessage)
  | serverHello (hello : TlsServerHelloMessage)
  | encryptedExtensions (extensions : List TlsExtension)
  | certificate (certificate : TlsCertificateMessage)
  | certificateVerify (verify : TlsCertificateVerifyMessage)
  | finished (verifyData : List UInt8)
deriving DecidableEq, Repr

/-- The messages that have a parser. -/
inductive TlsHandshakeKind
  | clientHello
  | serverHello
  | encryptedExtensions
  | certificate
  | certificateVerify
  | finished
deriving DecidableEq, Repr

/-- The parser of a kind of message. -/
def TlsHandshakeKind.parse (kind : TlsHandshakeKind) (message : List UInt8) :
    Except Refusal TlsHandshakeMessage :=
  match kind with
  | clientHello => (tlsClientHelloParse message).map .clientHello
  | serverHello => (tlsServerHelloParse message).map .serverHello
  | encryptedExtensions => (tlsEncryptedExtensionsParse message).map .encryptedExtensions
  | certificate => (tlsCertificateParse message).map .certificate
  | certificateVerify => (tlsCertificateVerifyParse message).map .certificateVerify
  | finished => (tlsFinishedParse message).map .finished

/-- What an encoder leaves in a buffer of some capacity. -/
def encodedIn (capacity : ℕ) (encode : Writer → Writer × Status) : Except Refusal (List UInt8) :=
  let written := encode (writerInit capacity)
  if h : written.2 ≠ .ok then .error ⟨written.2, h⟩ else .ok written.1.bytes

/-- The encoder of a message, into a buffer of some capacity. -/
def TlsHandshakeMessage.encode (message : TlsHandshakeMessage) (capacity : ℕ) :
    Except Refusal (List UInt8) :=
  match message with
  | clientHello hello => encodedIn capacity (tlsClientHelloEncode hello)
  | serverHello hello => encodedIn capacity (tlsServerHelloEncode hello)
  | encryptedExtensions list => encodedIn capacity (tlsEncryptedExtensionsEncode list)
  | certificate chain => encodedIn capacity (tlsCertificateEncode chain)
  | certificateVerify verify => encodedIn capacity (tlsCertificateVerifyEncode verify)
  | finished verifyData => tlsFinishedBuild verifyData capacity

/-- The text of a message. -/
def TlsHandshakeMessage.wire : TlsHandshakeMessage → List UInt8
  | clientHello hello => tlsMessageWire tlsClientHello hello.body
  | serverHello hello => tlsMessageWire tlsServerHello hello.body
  | encryptedExtensions list => tlsMessageWire tlsEncryptedExtensions (tlsExtensionsWire list)
  | certificate chain => tlsMessageWire tlsCertificate chain.body
  | certificateVerify verify => tlsMessageWire tlsCertificateVerify verify.body
  | finished verifyData => tlsMessageWire tlsFinished verifyData

/-- The extensions of a message's own block. -/
def TlsHandshakeMessage.extensions : TlsHandshakeMessage → List TlsExtension
  | clientHello hello => hello.extensions
  | serverHello hello => hello.extensions
  | encryptedExtensions list => list
  | certificate _ | certificateVerify _ | finished _ => []

section Messages

variable {kind : TlsHandshakeKind} {text : List UInt8} {message : TlsHandshakeMessage}

lemma encodedIn_of_writesWhole {encode : Writer → Writer × Status} {text : List UInt8}
    (h : WritesWhole encode text) {capacity : ℕ} (hroom : text.length ≤ capacity) :
    encodedIn capacity encode = .ok text := by
  obtain ⟨hstatus, -, hbytes, -⟩ := h.written (writerInit capacity) rfl
    (by simpa [writerInit] using hroom)
  rw [encodedIn, dif_neg (not_not.mpr hstatus), hbytes]
  rfl

lemma map_eq_ok {α β : Type} {x : Except Refusal α} {f : α → β} {b : β} (h : x.map f = .ok b) :
    ∃ a, x = .ok a ∧ f a = b := by
  cases x with
  | error status => cases h
  | ok a => exact ⟨a, rfl, Except.ok.inj h⟩

/-- What a parser accepts is the text of its answer, which the encoder writes again. -/
lemma TlsHandshakeKind.parse_ok (h : kind.parse text = .ok message) (hshort : text.length < 2 ^ 20)
    {capacity : ℕ} (hroom : text.length ≤ capacity) :
    text = message.wire ∧ message.encode capacity = .ok text ∧
      (message.extensions.map TlsExtension.type).Nodup := by
  have hbody : ∀ {type : UInt8} {body : List UInt8}, (tlsMessageWire type body).length < 2 ^ 20 →
      body.length ≤ 2 ^ 20 := by
    intro type body hlength
    rw [length_tlsMessageWire] at hlength
    omega
  cases kind with
  | clientHello =>
    obtain ⟨hello, hparse, rfl⟩ := map_eq_ok h
    obtain ⟨⟨hvalid, -⟩, rfl⟩ := (decodes_tlsClientHelloParse text hello).mp hparse
    exact ⟨rfl, encodedIn_of_writesWhole (writesWhole_tlsClientHelloEncode hvalid (hbody hshort))
      hroom, hvalid.extensions.distinct⟩
  | serverHello =>
    obtain ⟨hello, hparse, rfl⟩ := map_eq_ok h
    obtain ⟨⟨hvalid, -⟩, rfl⟩ := (decodes_tlsServerHelloParse text hello).mp hparse
    exact ⟨rfl, encodedIn_of_writesWhole (writesWhole_tlsServerHelloEncode hvalid (hbody hshort))
      hroom, hvalid.extensions.distinct⟩
  | encryptedExtensions =>
    obtain ⟨list, hparse, rfl⟩ := map_eq_ok h
    obtain ⟨⟨hvalid, -⟩, rfl⟩ := (decodes_tlsEncryptedExtensionsParse text list).mp hparse
    exact ⟨rfl, encodedIn_of_writesWhole
      (writesWhole_tlsEncryptedExtensionsEncode hvalid.count hvalid.total) hroom, hvalid.distinct⟩
  | certificate =>
    obtain ⟨certificate, hparse, rfl⟩ := map_eq_ok h
    obtain ⟨⟨hvalid, -⟩, rfl⟩ := (decodes_tlsCertificateParse text certificate).mp hparse
    exact ⟨rfl, encodedIn_of_writesWhole (writesWhole_tlsCertificateEncode hvalid (hbody hshort))
      hroom, List.nodup_nil⟩
  | certificateVerify =>
    obtain ⟨verify, hparse, rfl⟩ := map_eq_ok h
    obtain ⟨⟨hvalid, -⟩, rfl⟩ := (decodes_tlsCertificateVerifyParse text verify).mp hparse
    exact ⟨rfl, encodedIn_of_writesWhole
      (writesWhole_tlsCertificateVerifyEncode hvalid.signatureLen) hroom, List.nodup_nil⟩
  | finished =>
    obtain ⟨verifyData, hparse, rfl⟩ := map_eq_ok h
    obtain ⟨⟨hlength, -⟩, rfl⟩ := (decodes_tlsFinishedParse text verifyData).mp hparse
    exact ⟨rfl, tlsFinishedBuild_eq_ok hlength hroom, List.nodup_nil⟩

/-- What a parser accepts has the framing of a message. -/
lemma TlsHandshakeKind.framed_of_parse (h : kind.parse text = .ok message) :
    ∃ type body, body.length < 256 ^ 3 ∧ text = tlsMessageWire type body := by
  cases kind with
  | clientHello =>
    obtain ⟨hello, hparse, -⟩ := map_eq_ok h
    obtain ⟨⟨-, hlength⟩, rfl⟩ := (decodes_tlsClientHelloParse text hello).mp hparse
    exact ⟨_, _, hlength, rfl⟩
  | serverHello =>
    obtain ⟨hello, hparse, -⟩ := map_eq_ok h
    obtain ⟨⟨-, hlength⟩, rfl⟩ := (decodes_tlsServerHelloParse text hello).mp hparse
    exact ⟨_, _, hlength, rfl⟩
  | encryptedExtensions =>
    obtain ⟨list, hparse, -⟩ := map_eq_ok h
    obtain ⟨⟨-, hlength⟩, rfl⟩ := (decodes_tlsEncryptedExtensionsParse text list).mp hparse
    exact ⟨_, _, hlength, rfl⟩
  | certificate =>
    obtain ⟨certificate, hparse, -⟩ := map_eq_ok h
    obtain ⟨⟨-, hlength⟩, rfl⟩ := (decodes_tlsCertificateParse text certificate).mp hparse
    exact ⟨_, _, hlength, rfl⟩
  | certificateVerify =>
    obtain ⟨verify, hparse, -⟩ := map_eq_ok h
    obtain ⟨⟨-, hlength⟩, rfl⟩ := (decodes_tlsCertificateVerifyParse text verify).mp hparse
    exact ⟨_, _, hlength, rfl⟩
  | finished =>
    obtain ⟨verifyData, hparse, -⟩ := map_eq_ok h
    obtain ⟨⟨-, hlength⟩, rfl⟩ := (decodes_tlsFinishedParse text verifyData).mp hparse
    exact ⟨_, _, hlength, rfl⟩

/-- Of two texts with the framing of a message, one in front of the other, both are the same. -/
lemma tlsMessageWire_of_append {type type' : UInt8} {body body' more : List UInt8}
    (hbody : body.length < 256 ^ 3) (hbody' : body'.length < 256 ^ 3)
    (h : tlsMessageWire type body ++ more = tlsMessageWire type' body') : more = [] := by
  unfold tlsMessageWire at h
  rw [List.cons_append, List.cons.injEq, List.append_assoc] at h
  obtain ⟨hlength, hrest⟩ := List.append_inj h.2 (by simp)
  have hcount : body.length = body'.length := by
    have hread := congrArg (List.foldl BigEndian.push 0) hlength
    rwa [BigEndian.foldl_push_bytes, BigEndian.foldl_push_bytes, Nat.zero_mul, Nat.zero_add,
      Nat.zero_add, Nat.mod_eq_of_lt hbody, Nat.mod_eq_of_lt hbody'] at hread
  have hmore := congrArg List.length hrest
  rw [List.length_append] at hmore
  exact List.length_eq_zero_iff.mp (by omega)

/-- A handshake message has one reading: what a parser accepts is the text of its answer, with every
length that of what it counts, and the encoder writes the same text again. No extension block of
the message's own holds two extensions of one type, and nothing that is shorter or longer is
accepted. -/
theorem tlsHandshake_oneReading (h : kind.parse text = .ok message)
    (hshort : text.length < 2 ^ 20) :
    (∀ capacity, text.length ≤ capacity → message.encode capacity = .ok text) ∧
      text = message.wire ∧ (message.extensions.map TlsExtension.type).Nodup ∧
      (∀ part more, part ++ more = text → more ≠ [] →
        ∀ other : TlsHandshakeKind, ∃ status, other.parse part = .error status) ∧
      ∀ more, more ≠ [] →
        ∀ other : TlsHandshakeKind, ∃ status, other.parse (text ++ more) = .error status := by
  obtain ⟨type, body, hbody, hframed⟩ := TlsHandshakeKind.framed_of_parse h
  refine ⟨fun capacity hroom => (TlsHandshakeKind.parse_ok h hshort hroom).2.1,
    (TlsHandshakeKind.parse_ok h hshort le_rfl).1,
    (TlsHandshakeKind.parse_ok h hshort le_rfl).2.2, ?_, ?_⟩
  · intro part more hpart hmore other
    cases hother : other.parse part with
    | error status => exact ⟨status, rfl⟩
    | ok answer =>
      obtain ⟨type', body', hbody', rfl⟩ := TlsHandshakeKind.framed_of_parse hother
      exact absurd (tlsMessageWire_of_append hbody' hbody (hpart.trans hframed)) hmore
  · intro more hmore other
    cases hother : other.parse (text ++ more) with
    | error status => exact ⟨status, rfl⟩
    | ok answer =>
      obtain ⟨type', body', hbody', hlong⟩ := TlsHandshakeKind.framed_of_parse hother
      rw [hframed] at hlong
      exact absurd (tlsMessageWire_of_append hbody hbody' hlong) hmore

/-- A CertificateVerify with a signature of two bytes. -/
theorem tlsHandshake_oneReading_verify :
    let text : List UInt8 := [15, 0, 0, 6, 0x04, 0x03, 0, 2, 0xaa, 0xbb]
    let message : TlsHandshakeMessage := .certificateVerify ⟨0x0403, [0xaa, 0xbb]⟩
    (∀ capacity, text.length ≤ capacity → message.encode capacity = .ok text) ∧
      text = message.wire ∧ (message.extensions.map TlsExtension.type).Nodup ∧
      (∀ part more, part ++ more = text → more ≠ [] →
        ∀ other : TlsHandshakeKind, ∃ status, other.parse part = .error status) ∧
      ∀ more, more ≠ [] →
        ∀ other : TlsHandshakeKind, ∃ status, other.parse (text ++ more) = .error status := by
  intro text message
  have h : TlsHandshakeKind.certificateVerify.parse text = .ok message := by decide
  exact tlsHandshake_oneReading h (by decide)

/-- A certificate whose own extension block, which no parser looks into, holds two extensions of
one type. -/
theorem tlsCertificateParse_twoOfOneType :
    let repeated : TlsExtension := ⟨5, []⟩
    tlsCertificateParse [11, 0, 0, 18, 0, 0, 0, 14, 0, 0, 1, 0x30, 0, 8, 0, 5, 0, 0, 0, 5, 0, 0] =
      .ok ⟨[], [⟨[0x30], repeated.wire ++ repeated.wire⟩]⟩ := by
  decide

end Messages

end WebTransport
