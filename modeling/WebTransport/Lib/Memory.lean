import Mathlib.Data.List.Basic

/-!
# Bytes in a buffer

Reading a part of a buffer, copying into it and moving what is left of it to the front, as lists of
cells: what the operations leave where.
-/

namespace Memory

variable {α : Type} {cells data : List α} {offset : ℕ}

/-- A part of a buffer. -/
def slice (cells : List α) (offset length : ℕ) : List α := (cells.drop offset).take length

/-- Copy some cells to an offset. -/
def copyTo (cells : List α) (offset : ℕ) (data : List α) : List α :=
  cells.take offset ++ data ++ cells.drop (offset + data.length)

/-- Move the cells from `gone` on, up to `used`, to the front. -/
def moveDown (cells : List α) (gone used : ℕ) : List α :=
  (cells.drop gone).take (used - gone) ++ cells.drop (used - gone)

lemma length_copyTo (h : offset + data.length ≤ cells.length) :
    (copyTo cells offset data).length = cells.length := by
  rw [copyTo, List.length_append, List.length_append, List.length_take, List.length_drop]
  omega

/-- What was copied lies behind what was in front of it. -/
lemma take_copyTo (h : offset + data.length ≤ cells.length) :
    (copyTo cells offset data).take (offset + data.length) = cells.take offset ++ data := by
  rw [copyTo]
  apply List.take_left'
  rw [List.length_append, List.length_take]
  omega

lemma length_moveDown {gone used : ℕ} (hgone : gone ≤ used) (hused : used ≤ cells.length) :
    (moveDown cells gone used).length = cells.length := by
  rw [moveDown, List.length_append, List.length_take, List.length_drop, List.length_drop]
  omega

/-- What was moved is what was in use behind the part that is gone. -/
lemma take_moveDown {gone used : ℕ} (hused : used ≤ cells.length) :
    (moveDown cells gone used).take (used - gone) = (cells.take used).drop gone := by
  rw [moveDown, List.drop_take]
  apply List.take_left'
  rw [List.length_take, List.length_drop]
  omega

lemma slice_of_take {before after : List α} {used : ℕ}
    (h : cells.take used = before ++ (data ++ after)) :
    slice cells before.length data.length = data := by
  have hcells : cells = before ++ (data ++ (after ++ cells.drop used)) := by
    rw [← List.append_assoc data, ← List.append_assoc before, ← h, List.take_append_drop]
  rw [slice, hcells, List.drop_left, List.take_left]

/-- What moved behind a place and what was put down in front of it. -/
lemma take_copyTo_copyTo {front : List α} (h : front.length + data.length ≤ cells.length) :
    (copyTo (copyTo cells front.length data) 0 front).take (front.length + data.length) =
      front ++ data := by
  have hdata := take_copyTo h
  have hfront : (cells.take front.length).length = front.length := by
    rw [List.length_take]
    omega
  have hbehind : ((copyTo cells front.length data).drop front.length).take data.length = data := by
    rw [← Nat.add_sub_cancel_left front.length data.length, ← List.drop_take, hdata]
    exact List.drop_left' hfront
  rw [copyTo, List.take_zero, List.nil_append, Nat.zero_add, List.take_length_add_append, hbehind]

end Memory
