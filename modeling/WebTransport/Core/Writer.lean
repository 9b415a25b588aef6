import WebTransport.Core.Status

/-!
# The bounded writer

Every encoder of the library writes through `wt_writer_t`: a destination of fixed capacity
with a sticky overflow flag. The writer's own invariant, that what has been written fits,
is a field of the structure, since it is what makes the capacity test of `wt_writer_put`
sound.
-/

namespace WebTransport

/-- A writer over a destination of `cap` bytes (`wt_writer_t`). -/
structure Writer where
  /-- The capacity of the destination. -/
  cap : ℕ
  /-- The bytes written so far; their number is the source's `offset`. -/
  bytes : List UInt8
  /-- Whether a write was refused. -/
  overflow : Bool
  /-- What has been written is inside the destination. -/
  fits : bytes.length ≤ cap

/-- A fresh writer over a destination of `cap` bytes. -/
def writerInit (cap : ℕ) : Writer where
  cap := cap
  bytes := []
  overflow := false
  fits := Nat.zero_le _

namespace Writer

/-- Whether every write so far was accepted (`wt_writer_ok`). -/
def ok (w : Writer) : Bool := !w.overflow

/-- Refuse a write. -/
def refuse (w : Writer) : Writer := { w with overflow := true }

/-- Append `data`, or set the overflow flag when it does not fit (`wt_writer_put`). -/
def put (w : Writer) (data : List UInt8) : Writer :=
  if w.overflow then w
  else if h : w.cap - w.bytes.length < data.length then w.refuse
  else
    { w with
      bytes := w.bytes ++ data
      fits := by
        have := w.fits
        simp only [List.length_append]
        omega }

/-- What an accepted write leaves behind, read off the writer that comes out of it. -/
theorem put_ok {w : Writer} {data : List UInt8} (h : (w.put data).ok = true) :
    w.ok = true ∧ (w.put data).bytes = w.bytes ++ data := by
  unfold put at h ⊢
  split at h <;> rename_i h1
  · simp_all [ok]
  · split at h <;> rename_i h2
    · simp [ok, refuse] at h
    · simp [ok, h1, h2]

/-- A write that fits is accepted. -/
theorem put_of_fits {w : Writer} (data : List UInt8) (hok : w.ok = true)
    (hfits : w.bytes.length + data.length ≤ w.cap) :
    (w.put data).ok = true ∧ (w.put data).bytes = w.bytes ++ data ∧ (w.put data).cap = w.cap := by
  have hclear : w.overflow = false := by simpa [ok] using hok
  unfold put
  split
  · rename_i hset
    rw [hclear] at hset
    cases hset
  · split
    · omega
    · exact ⟨by simp [ok, hclear], rfl, rfl⟩

@[simp] lemma put_cap (w : Writer) (data : List UInt8) : (w.put data).cap = w.cap := by
  unfold put
  split
  · rfl
  · split <;> rfl

/-- Several writes, one after another. -/
def putAll (w : Writer) (pieces : List (List UInt8)) : Writer := pieces.foldl put w

@[simp] lemma putAll_cap (w : Writer) (pieces : List (List UInt8)) :
    (w.putAll pieces).cap = w.cap := by
  induction pieces generalizing w with
  | nil => rfl
  | cons piece pieces ih => exact (ih (w.put piece)).trans (put_cap w piece)

/-- What accepted writes leave behind. -/
theorem putAll_ok {w : Writer} {pieces : List (List UInt8)} (h : (w.putAll pieces).ok = true) :
    w.ok = true ∧ (w.putAll pieces).bytes = w.bytes ++ pieces.flatten := by
  induction pieces generalizing w with
  | nil => exact ⟨h, (List.append_nil _).symm⟩
  | cons piece pieces ih =>
    obtain ⟨hput, hrest⟩ := @ih (w.put piece) h
    obtain ⟨hok, hbytes⟩ := put_ok hput
    refine ⟨hok, hrest.trans ?_⟩
    rw [hbytes, List.flatten_cons, List.append_assoc]

/-- Writes are accepted when all of them fit, and only then. -/
theorem putAll_ok_iff {w : Writer} (pieces : List (List UInt8)) (hok : w.ok = true) :
    (w.putAll pieces).ok = true ↔ w.bytes.length + pieces.flatten.length ≤ w.cap := by
  constructor
  · intro h
    have hfits := (w.putAll pieces).fits
    rwa [(putAll_ok h).2, List.length_append, putAll_cap] at hfits
  · intro hfits
    induction pieces generalizing w with
    | nil => exact hok
    | cons piece pieces ih =>
      rw [List.flatten_cons, List.length_append] at hfits
      obtain ⟨hput, hbytes, hcap⟩ := put_of_fits piece hok (by omega)
      refine ih hput ?_
      rw [hbytes, hcap, List.length_append]
      omega

end Writer

/-- A writer that measures (`wt_writer_measure`): its capacity is that of the largest message. -/
def writerMeasure : Writer := writerInit (2 ^ 20)

end WebTransport
