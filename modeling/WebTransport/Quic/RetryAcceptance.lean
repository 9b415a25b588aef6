import WebTransport.Quic.ConnectionDatagram
import WebTransport.Quic.LossOnce
import WebTransport.Quic.SendClosure

/-!
# A client that takes a Retry

The first Retry of a client that has heard nothing from its server (`on_retry_packet` in
`quic/connection_retry.c`). The packets that it has sent are forgotten, and what they carried is
given back; nothing has been acknowledged yet, so that the loop that forgets them is not entered
again from its own visits.
-/

namespace WebTransport

/-- A client that has sent its first packets, for an ID, and has processed no packet of a server. -/
structure AwaitsRetry (env : Env) (original : List UInt8) (r : Receiver) : Prop where
  role : r.connection.config.role = .client
  original : r.connection.originalDestinationId = original
  first : r.connection.retryAccepted = false
  unanswered : r.serverPacketReceived = false
  reachable : r.connection.Reachable env
  unacked : ∀ s, (r.connection.spaces s).hasLargestAcked = false

/-- What a client takes over from a Retry. -/
structure RetryTaken (retry : RetryPacket) (r : Receiver) : Prop where
  accepted : r.connection.retryAccepted = true
  pendingKeys : r.connection.retryPendingKeys = true
  token : r.connection.retryToken = retry.token
  source : r.retrySourceConnectionId = retry.sourceConnectionId
  peer : r.connection.config.peerConnectionId = retry.sourceConnectionId
  forgotten : ∀ p ∈ r.connection.loss.sent, p.packetNumberSpace ≠ Space.initial.index

section Accept

variable {env : Env} {c : Connection}

/-- Before the first acknowledgement no send finds a packet that is lost. -/
lemma findsLost_of_unacked (hc : c.Tracked) (h : ∀ s, (c.spaces s).hasLargestAcked = false)
    (o : Outgoing) : findsLost o c = false := by
  rw [findsLost, List.any_eq_false]
  intro p _ hlost
  obtain ⟨-, hle, hthreshold⟩ := of_decide_eq_true hlost
  unfold PnSpace.ackedSoFar at hle hthreshold
  rw [h] at hle hthreshold
  simp only [Bool.false_eq_true, if_false, Nat.le_zero] at hle hthreshold
  rw [hle] at hthreshold
  obtain hfar | ⟨hdelay, -⟩ := hthreshold
  · exact absurd hfar (by decide)
  · exact hdelay (hc.lossDelay_eq_zero (h _))

/-- The Initial space of a client that waits for new keys can be forgotten. -/
lemma walkable_initial (hc : c.Tracked) (h : ∀ s, (c.spaces s).hasLargestAcked = false)
    (hkeys : c.retryPendingKeys = true) :
    Walkable env (fun p => p.packetNumberSpace = Space.initial.index) c where
  tracked := hc
  quiet := by
    rw [reenters, Option.any_eq_false]
    intro slot _
    simp [sendDetects, findsLost_of_unacked hc h]
  fresh p s hspace _ hother := by
    rw [decide_eq_false_iff_not, hspace]
    intro hinitial
    exact hother ⟨Space.index_injective hinitial, hkeys⟩

/-- The space of the packets that a Retry makes unreachable is forgotten, and the rest of the
connection is left alone. -/
lemma discardInitial (hc : c.Tracked) (h : ∀ s, (c.spaces s).hasLargestAcked = false)
    (hkeys : c.retryPendingKeys = true) {fuel : ℕ} (hfuel : 3 * quicSentPacketsMax < fuel) :
    ∃ c' n, quicLossDiscardSpace connectionHost fuel Space.initial.index
        (onLost (sendPacket env fuel)) c = some (c', n) ∧
      c'.aside = c.aside ∧ ∀ p ∈ c'.loss.sent, p.packetNumberSpace ≠ Space.initial.index := by
  have hclosed := aside_closed env fun _ _ => True
  obtain ⟨c', n, extra, hrun, hsent, hextra, -, haside⟩ :=
    lossWalk_returns (X := fun s => s.aside = c.aside)
      (fun s i p s₁ l _ hx _ _ _ hvisit _ _ =>
        (hclosed.onLost (hclosed.sendPacket fuel) hvisit).trans hx)
      (walkable_initial hc h hkeys) rfl hfuel
  have hnone : ∀ p ∈ c'.loss.sent, p.packetNumberSpace ≠ Space.initial.index := by
    intro p hp
    exact of_decide_eq_false (not_hit_of_filter_append hsent hextra p hp)
  rw [quicLossDiscardSpace, hrun]
  refine ⟨_, n, rfl, ?_, ?_⟩
  · dsimp only
    split_ifs
    · exact haside
    · exact haside
  · dsimp only
    split_ifs
    · exact hnone
    · exact hnone

/-- A client that waits for a Retry takes one that is of its version, names a token and another
source, and is verified. -/
theorem onRetryPacket_taken {layer : PacketLayer} {original packet : List UInt8} {r : Receiver}
    {retry : RetryPacket} (h : AwaitsRetry env original r)
    (hdecode : layer.retryDecode packet = some retry)
    (hversion : retry.version = r.connection.config.version) (htoken : retry.token ≠ [])
    (htokenLen : retry.token.length ≤ quicMaxRetryToken)
    (hsource : retry.sourceConnectionId ≠ [])
    (hsourceLen : retry.sourceConnectionId.length ≤ quicMaxConnectionIdLength)
    (hother : retry.sourceConnectionId ≠ original)
    (hverify : layer.retryVerify original packet = true) {fuel : ℕ}
    (hfuel : 3 * quicSentPacketsMax < fuel) :
    ∃ r', onRetryPacket layer env fuel packet r = some (r', .ok) ∧ RetryTaken retry r' := by
  let taken : Connection :=
    { adoptPeerConnectionId { r.connection with retryToken := retry.token }
        retry.sourceConnectionId with
      retryAccepted := true
      retryPendingKeys := true }
  have hadopted : adoptPeerConnectionId { r.connection with retryToken := retry.token }
      retry.sourceConnectionId = { r.connection with
        retryToken := retry.token
        config := { r.connection.config with peerConnectionId := retry.sourceConnectionId } } :=
    if_neg (not_lt.mpr hsourceLen)
  have hsame : r.connection.SameSending taken := by
    refine .of_eq ?_ ?_
    · change (adoptPeerConnectionId _ _).loss.sent = _
      rw [hadopted]
    · change (adoptPeerConnectionId _ _).spaces = _
      rw [hadopted]
  have hunacked : ∀ s, (taken.spaces s).hasLargestAcked = false := by
    intro s
    change ((adoptPeerConnectionId _ _).spaces s).hasLargestAcked = false
    rw [hadopted]
    exact h.unacked s
  obtain ⟨c', n, hdiscard, haside, hforgotten⟩ :=
    @discardInitial env taken (h.reachable.tracked.other hsame) hunacked rfl fuel hfuel
  refine ⟨{ r with connection := c', retrySourceConnectionId := retry.sourceConnectionId },
    ?_, ?_⟩
  · unfold onRetryPacket
    dsimp only
    rw [if_neg (by rw [h.role, h.first, h.unanswered]; simp), hdecode]
    dsimp only
    rw [if_neg, hdiscard]
    · rfl
    · rw [h.original, hverify]
      simp [hversion, htoken, hsource, hother, htokenLen]
  · refine ⟨congrArg Connection.retryAccepted haside, congrArg Connection.retryPendingKeys haside,
      ?_, rfl, ?_, hforgotten⟩
    · have hkept : c'.aside.retryToken = taken.aside.retryToken :=
        congrArg Connection.retryToken haside
      change c'.aside.retryToken = _
      rw [hkept]
      change (adoptPeerConnectionId _ _).retryToken = _
      rw [hadopted]
    · have hkept : c'.aside.config = taken.aside.config := congrArg Connection.config haside
      change c'.aside.config.peerConnectionId = _
      rw [hkept]
      change (adoptPeerConnectionId _ _).config.peerConnectionId = _
      rw [hadopted]

lemma onRetryPacket_otherVersion {layer : PacketLayer} {packet : List UInt8} {r : Receiver}
    {retry : RetryPacket} (hdecode : layer.retryDecode packet = some retry)
    (hversion : retry.version ≠ r.connection.config.version) (fuel : ℕ) :
    onRetryPacket layer env fuel packet r = some (r, .ok) := by
  unfold onRetryPacket
  dsimp only
  split_ifs
  · rfl
  · rw [hdecode]
    exact if_pos (.inl hversion)

end Accept

end WebTransport
