import WebTransport.Quic.ConnectionDatagram

/-!
# Where a packet ends

The layout of a protected packet (`wt_quic_protected_pn_offset` in `quic/packet.c` and
`wt_quic_packet_unprotect_header` in `quic/packet_io.c`). A long header says in its Length field
where its packet ends, so what follows it in a datagram is no matter to it; a short header takes
the rest of the datagram.
-/

namespace WebTransport

/-- Where the packet number of a packet starts and where the packet ends. -/
structure PacketLayout where
  pnOffset : ℕ
  totalLength : ℕ
  shortHeader : Bool
deriving DecidableEq, Repr

/-- Step over a connection ID behind its length byte. -/
def quicReadConnectionId : List UInt8 → Except Status (List UInt8)
  | [] => .error .truncated
  | length :: c =>
    if quicMaxConnectionIdLength < length.toNat then .error .protocol
    else if c.length < length.toNat then .error .truncated
    else .ok (c.drop length.toNat)

/-- Read an integer of a header; every failure is a truncation. -/
def readHeaderVarint (c : List UInt8) : Except Status (ℕ × List UInt8) :=
  match quicVarintDecode c with
  | .error _ => .error .truncated
  | .ok r => .ok r

/-- Step over the token of an Initial packet. -/
def readToken (c : List UInt8) : Except Status (List UInt8) :=
  match readHeaderVarint c with
  | .error status => .error status
  | .ok (length, c) => if c.length < length then .error .truncated else .ok (c.drop length)

/-- The fields of a long header behind its version: the value of its Length field and what
follows the field. -/
def readLongFields (type : LongType) (c : List UInt8) : Except Status (ℕ × List UInt8) :=
  match quicReadConnectionId c with
  | .error status => .error status
  | .ok c =>
    match quicReadConnectionId c with
    | .error status => .error status
    | .ok c =>
      if type = .initial then
        match readToken c with
        | .error status => .error status
        | .ok c => readHeaderVarint c
      else readHeaderVarint c

/-- Where the number of a protected packet starts and where the packet ends. -/
def quicProtectedPnOffset (idLength : ℕ) : List UInt8 → Except Status PacketLayout
  | [] => .error .truncated
  | first :: c =>
    if first.toNat < 0x80 then
      if quicMaxConnectionIdLength < idLength then .error .invalidArgument
      else if (first :: c).length < 1 + idLength + 1 then .error .truncated
      else .ok ⟨1 + idLength, (first :: c).length, true⟩
    else if c.length < 4 then .error .truncated
    else if headerVersion (first :: c) = 0 then .error .invalidArgument
    else if longType first = .retry then .error .invalidArgument
    else
      match readLongFields (longType first) (c.drop 4) with
      | .error status => .error status
      | .ok (length, rest) =>
        let offset := (first :: c).length - rest.length
        if rest.length < length then .error .truncated
        else .ok ⟨offset, offset + length, false⟩

/-- Take the mask off a header. What computes the mask is given the bytes up to the end of the
packet and the offset of its number, and finds the length of the number. -/
def quicPacketUnprotectHeader
    (unmask : PacketKeys → List UInt8 → ℕ → Except Status (List UInt8 × ℕ))
    (keys : PacketKeys) (idLength : ℕ) (bytes : List UInt8) : Except Status Unprotected :=
  match quicProtectedPnOffset idLength bytes with
  | .error status => .error status
  | .ok layout =>
    match unmask keys (bytes.take layout.totalLength) layout.pnOffset with
    | .error status => .error status
    | .ok (unmasked, pnLength) => .ok ⟨unmasked, layout.pnOffset, pnLength, layout.totalLength⟩

/-! ## What follows a packet -/

section Append

variable {c d rest bytes : List UInt8} {n idLength : ℕ}

lemma readHeaderVarint_failed : readHeaderVarint c ≠ .error .ok := by
  unfold readHeaderVarint
  split <;> simp

lemma quicReadConnectionId_failed : quicReadConnectionId c ≠ .error .ok := by
  unfold quicReadConnectionId
  split
  · simp
  · split_ifs <;> simp

lemma readToken_failed : readToken c ≠ .error .ok := by
  unfold readToken
  split
  · rename_i status h
    intro hok
    obtain rfl := Except.error.inj hok
    exact readHeaderVarint_failed h
  · split_ifs <;> simp

lemma readLongFields_failed {type : LongType} : readLongFields type c ≠ .error .ok := by
  intro hok
  unfold readLongFields at hok
  split at hok
  · rename_i status h
    obtain rfl := Except.error.inj hok
    exact quicReadConnectionId_failed h
  split at hok
  · rename_i status h
    obtain rfl := Except.error.inj hok
    exact quicReadConnectionId_failed h
  split at hok
  · split at hok
    · rename_i status h
      obtain rfl := Except.error.inj hok
      exact readToken_failed h
    · exact readHeaderVarint_failed hok
  · exact readHeaderVarint_failed hok

/-- A layout that cannot be read has a status of its own. -/
lemma quicProtectedPnOffset_failed : quicProtectedPnOffset idLength bytes ≠ .error .ok := by
  intro hok
  unfold quicProtectedPnOffset at hok
  split at hok
  · cases hok
  split at hok
  · split_ifs at hok <;> cases hok
  split_ifs at hok
  · cases hok
  · cases hok
  · cases hok
  split at hok
  · rename_i status h
    obtain rfl := Except.error.inj hok
    exact readLongFields_failed h
  · simp only at hok
    split at hok <;> cases hok

end Append

end WebTransport
