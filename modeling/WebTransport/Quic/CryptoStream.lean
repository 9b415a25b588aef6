import WebTransport.Core.Status

/-!
# The CRYPTO stream

The two halves of the handshake stream of one encryption level (`quic/crypto_stream.c`). The
receive half is a window over the bytes from the read offset on, in which a byte that has not
arrived is `none`; the send half holds every byte that was ever appended, because a loss can
ask for any of them again.
-/

namespace WebTransport

/-- `WT_QUIC_CRYPTO_BUFFER_MAX`. -/
def quicCryptoBufferMax : ℕ := 4096

/-- `WT_QUIC_CRYPTO_MAX_OFFSET`. -/
def quicCryptoMaxOffset : ℕ := 2 ^ 62 - 1

/-! ## The receive half -/

/-- The receive half (`wt_quic_crypto_recv_t`). -/
structure CryptoRecv where
  readOffset : ℕ := 0
  window : List (Option UInt8) := []
  window_le : window.length ≤ quicCryptoBufferMax := by decide
deriving DecidableEq, Repr

/-- Nothing has arrived. -/
def CryptoRecv.empty : CryptoRecv := {}

/-- The window with bytes put over it from a position on. -/
def overlay (window : List (Option UInt8)) (start : ℕ) (data : List UInt8) :
    List (Option UInt8) :=
  window.take start ++ List.replicate (start - window.length) none ++ data.map some ++
    window.drop (start + data.length)

/-- The window reaches to the end of what was held or of what was put over it. -/
lemma length_overlay (window : List (Option UInt8)) (start : ℕ) (data : List UInt8) :
    (overlay window start data).length = max window.length (start + data.length) := by
  simp only [overlay, List.length_append, List.length_take, List.length_replicate,
    List.length_map, List.length_drop]
  omega

/-- Bytes arrive at an offset. Nothing is stored of bytes that do not fit. -/
def quicCryptoRecvInsert (recv : CryptoRecv) (offset : ℕ) (data : List UInt8) :
    Except Status CryptoRecv :=
  if data = [] then .ok recv
  else if quicCryptoMaxOffset - data.length < offset then .error .overflow
  else if offset + data.length ≤ recv.readOffset then .ok recv
  else
    let fresh := data.drop (recv.readOffset - offset)
    let start := offset - recv.readOffset
    if hstart : quicCryptoBufferMax ≤ start then .error .limit
    else if hfit : quicCryptoBufferMax - start < fresh.length then .error .limit
    else
      .ok { recv with
        window := overlay recv.window start fresh
        window_le := by
          rw [length_overlay]
          have := recv.window_le
          omega }

/-- The bytes of a window up to its first hole. -/
def arrivedPrefix : List (Option UInt8) → List UInt8
  | some b :: rest => b :: arrivedPrefix rest
  | _ => []

/-- The bytes that can be delivered now. -/
def quicCryptoRecvAvailable (recv : CryptoRecv) : List UInt8 := arrivedPrefix recv.window

/-- Take delivered bytes. -/
def quicCryptoRecvConsume (recv : CryptoRecv) (length : ℕ) : Except Status CryptoRecv :=
  if recv.window.length < length then .error .invalidArgument
  else
    .ok {
      readOffset := recv.readOffset + length
      window := recv.window.drop length
      window_le := by
        rw [List.length_drop]
        have := recv.window_le
        omega }

lemma length_arrivedPrefix_le (window : List (Option UInt8)) :
    (arrivedPrefix window).length ≤ window.length := by
  induction window with
  | nil => exact le_rfl
  | cons b rest ih =>
    cases b with
    | none => exact Nat.zero_le _
    | some b => exact Nat.succ_le_succ ih

/-- What is delivered after some of the bytes were taken is the rest of them. -/
lemma arrivedPrefix_drop (window : List (Option UInt8)) (n : ℕ)
    (h : n ≤ (arrivedPrefix window).length) :
    arrivedPrefix (window.drop n) = (arrivedPrefix window).drop n := by
  induction window generalizing n with
  | nil =>
    rw [List.drop_nil]
    exact List.drop_nil.symm
  | cons b rest ih =>
    cases n with
    | zero => rfl
    | succ n =>
      cases b with
      | none => exact absurd h (Nat.not_succ_le_zero n)
      | some b => exact ih n (Nat.le_of_succ_le_succ h)

/-- Delivered bytes can be taken, and the next delivery starts after them. -/
theorem quicCryptoRecvConsume_available {recv : CryptoRecv} {n : ℕ}
    (h : n ≤ (quicCryptoRecvAvailable recv).length) :
    ∃ recv', quicCryptoRecvConsume recv n = .ok recv' ∧
      quicCryptoRecvAvailable recv' = (quicCryptoRecvAvailable recv).drop n ∧
      recv'.window.length + n = recv.window.length := by
  have hle : n ≤ recv.window.length := h.trans (length_arrivedPrefix_le _)
  unfold quicCryptoRecvConsume
  rw [if_neg (not_lt.mpr hle)]
  refine ⟨_, rfl, arrivedPrefix_drop _ n h, ?_⟩
  rw [List.length_drop]
  omega

/-! ## The send half -/

/-- The send half (`wt_quic_crypto_send_t`): the bytes that were appended, and the offset of
the first one that was never handed out. -/
structure CryptoSend where
  nextOffset : ℕ := 0
  baseOffset : ℕ := 0
  data : List UInt8 := []
  next_le : nextOffset ≤ baseOffset + data.length := by decide
  data_le : data.length ≤ quicCryptoBufferMax := by decide
deriving DecidableEq, Repr

/-- Nothing was queued. -/
def CryptoSend.empty : CryptoSend := {}

/-- Append the bytes of a handshake message. -/
def quicCryptoSendAppend (send : CryptoSend) (data : List UInt8) : Except Status CryptoSend :=
  if hfit : quicCryptoBufferMax - send.data.length < data.length then .error .limit
  else
    .ok { send with
      data := send.data ++ data
      next_le := by
        rw [List.length_append]
        have := send.next_le
        omega
      data_le := by
        rw [List.length_append]
        have := send.data_le
        omega }

/-- The next bytes to hand out, at most `maxLength` of them, and their offset. -/
def quicCryptoSendNext (send : CryptoSend) (maxLength : ℕ) : Except Status (ℕ × List UInt8) :=
  if send.nextOffset < send.baseOffset then .error .state
  else
    let unsent := send.nextOffset - send.baseOffset
    if send.data.length ≤ unsent then .error .state
    else .ok (send.nextOffset, (send.data.drop unsent).take maxLength)

/-- Record that bytes were handed out. -/
def quicCryptoSendAdvance (send : CryptoSend) (length : ℕ) : Except Status CryptoSend :=
  if send.nextOffset < send.baseOffset then .error .state
  else if hfit : send.data.length - (send.nextOffset - send.baseOffset) < length then
    .error .invalidArgument
  else
    .ok { send with
      nextOffset := send.nextOffset + length
      next_le := by
        have := send.next_le
        omega }

/-- The bytes of a range that was handed out before. -/
def quicCryptoSendRetransmit (send : CryptoSend) (offset length : ℕ) :
    Except Status (List UInt8) :=
  if send.nextOffset ≤ offset then .error .invalidArgument
  else if offset < send.baseOffset then .error .state
  else
    let start := offset - send.baseOffset
    if send.data.length ≤ start ∨ send.data.length - start < length then .error .state
    else .ok ((send.data.drop start).take length)

/-- Whether bytes wait to be handed out for the first time. -/
def quicCryptoSendPending (send : CryptoSend) : Bool :=
  !decide (send.nextOffset < send.baseOffset) &&
    decide (send.nextOffset - send.baseOffset < send.data.length)

end WebTransport
