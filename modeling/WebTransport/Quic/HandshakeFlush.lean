import WebTransport.Quic.Handshake

/-!
# Relations that a flush keeps

A flush of the handshake sends ranges again, sends what was never sent and confirms the handshake,
and each of these changes the table of ranges, a send stream or the connection. A relation that
each of these small steps keeps is kept by the whole flush.
-/

namespace WebTransport

variable {C S : Type}

/-- A relation that every small step of a flush keeps. -/
structure FlushClosed (env : Env) (fuel now : ℕ) (R : Handshake C S → Handshake C S → Prop) :
    Prop where
  refl : ∀ h, R h h
  trans : ∀ {h h' h''}, R h h' → R h' h'' → R h h''
  retransmit : ∀ h i entry, R h (h.setRetransmit i entry)
  send : ∀ h space stream, R h (h.setSend space stream)
  crypto : ∀ {h : Handshake C S} {space offset data c status},
    quicConnectionSendCrypto env fuel space offset data now h.connection = some (c, status) →
      R h (returned c h)
  done : ∀ {h : Handshake C S} {c status},
    quicConnectionSendFrame env fuel .application .handshakeDone true now h.connection =
        some (c, status) →
      R h (returned c h) ∧ R h { returned c h with handshakeDonePending := false }

namespace FlushClosed

variable {env : Env} {fuel now : ℕ} {R : Handshake C S → Handshake C S → Prop}
  (hR : FlushClosed env fuel now R) {h : Handshake C S}

include hR

lemma sendCrypto {space : Space} {offset : ℕ} {data : List UInt8} {r : Handshake C S × Status}
    (hsend : sendCrypto env fuel now space offset data h = some r) : R h r.1 := by
  unfold WebTransport.sendCrypto at hsend
  split at hsend
  · cases hsend
  · rename_i hcrypto
    obtain rfl := Option.some.inj hsend
    exact hR.crypto hcrypto

lemma flushRetransmits (slots : List ℕ) {r : Handshake C S × Option Status}
    (hflush : flushRetransmits env fuel now slots h = some r) : R h r.1 := by
  induction slots generalizing h with
  | nil =>
    obtain rfl := Option.some.inj hflush
    exact hR.refl h
  | cons i rest ih =>
    rw [WebTransport.flushRetransmits] at hflush
    simp only at hflush
    split at hflush
    · exact ih hflush
    split at hflush
    · exact hR.trans (hR.retransmit _ _ _) (ih hflush)
    · split at hflush
      · cases hflush
      · rename_i hsend
        exact hR.trans (hR.trans (hR.sendCrypto hsend) (hR.retransmit _ _ _)) (ih hflush)
      · rename_i hsend
        obtain rfl := Option.some.inj hflush
        exact hR.sendCrypto hsend

lemma flushUnsent {space : Space} (rounds : ℕ) {r : Handshake C S × Option Status}
    (hflush : flushUnsent env fuel now space rounds h = some r) : R h r.1 := by
  induction rounds generalizing h with
  | zero =>
    obtain rfl := Option.some.inj hflush
    exact hR.refl h
  | succ rounds ih =>
    rw [WebTransport.flushUnsent] at hflush
    split at hflush
    · obtain rfl := Option.some.inj hflush
      exact hR.refl h
    · obtain rfl := Option.some.inj hflush
      exact hR.refl h
    · split at hflush
      · cases hflush
      · rename_i hsend
        split at hflush
        · obtain rfl := Option.some.inj hflush
          exact hR.sendCrypto hsend
        · exact hR.trans (hR.trans (hR.sendCrypto hsend) (hR.send _ _ _)) (ih hflush)
      · rename_i hsend
        obtain rfl := Option.some.inj hflush
        exact hR.sendCrypto hsend

lemma flushUnsentSpaces (spaces : List Space) {r : Handshake C S × Option Status}
    (hflush : flushUnsentSpaces env fuel now spaces h = some r) : R h r.1 := by
  induction spaces generalizing h with
  | nil =>
    obtain rfl := Option.some.inj hflush
    exact hR.refl h
  | cons space rest ih =>
    rw [WebTransport.flushUnsentSpaces] at hflush
    split at hflush
    · cases hflush
    · rename_i hspace
      exact hR.trans (hR.flushUnsent _ hspace) (ih hflush)
    · rename_i hspace
      obtain rfl := Option.some.inj hflush
      exact hR.flushUnsent _ hspace

lemma flushDone {r : Handshake C S × Status} (hflush : flushDone env fuel now h = some r) :
    R h r.1 := by
  unfold WebTransport.flushDone at hflush
  split at hflush
  · split at hflush
    · cases hflush
    · rename_i hsend
      obtain rfl := Option.some.inj hflush
      exact (hR.done hsend).2
    · rename_i hsend
      obtain rfl := Option.some.inj hflush
      exact (hR.done hsend).1
  · obtain rfl := Option.some.inj hflush
    exact hR.refl h

/-- The whole flush. -/
theorem quicHandshakeFlush {r : Handshake C S × Status}
    (hflush : quicHandshakeFlush env fuel now h = some r) : R h r.1 := by
  unfold WebTransport.quicHandshakeFlush at hflush
  split at hflush
  · obtain rfl := Option.some.inj hflush
    exact hR.refl h
  split at hflush
  · cases hflush
  · rename_i hretransmits
    obtain rfl := Option.some.inj hflush
    exact hR.flushRetransmits _ hretransmits
  · rename_i hretransmits
    have hfirst := hR.flushRetransmits _ hretransmits
    split at hflush
    · cases hflush
    · rename_i hspaces
      obtain rfl := Option.some.inj hflush
      exact hR.trans hfirst (hR.flushUnsentSpaces _ hspaces)
    · rename_i hspaces
      exact hR.trans (hR.trans hfirst (hR.flushUnsentSpaces _ hspaces)) (hR.flushDone hflush)

end FlushClosed

end WebTransport
