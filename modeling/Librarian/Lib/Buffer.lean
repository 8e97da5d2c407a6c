import Mathlib.Data.List.Basic
import Mathlib.Tactic.Common

/-!
# Buffers of fixed capacity

A writer that refuses what would not fit. Whether a sequence of writes goes through depends on its
total length only, and not on how it is cut into pieces.
-/

namespace Buffer

variable {α : Type*} {capacity : ℕ} {written : List α} {pieces : List (List α)}

/-- One write; `none` when the piece does not fit. -/
def write (capacity : ℕ) (written piece : List α) : Option (List α) :=
  if written.length + piece.length > capacity then none else some (written ++ piece)

/-- A sequence of writes. -/
def writeAll (capacity : ℕ) (written : List α) (pieces : List (List α)) : Option (List α) :=
  pieces.foldlM (write capacity) written

/-- Pieces that fit together are written. -/
theorem writeAll_eq_some (h : written.length + pieces.flatten.length ≤ capacity) :
    writeAll capacity written pieces = some (written ++ pieces.flatten) := by
  induction pieces generalizing written with
  | nil => simp [writeAll]
  | cons piece pieces ih =>
    rw [List.flatten_cons, List.length_append] at h
    have hfits : ¬written.length + piece.length > capacity := by omega
    have hrest := @ih (written ++ piece) (by rw [List.length_append]; omega)
    unfold writeAll at hrest ⊢
    rw [List.foldlM_cons, write, if_neg hfits, Option.bind_eq_bind, Option.bind_some, hrest,
      List.append_assoc, List.flatten_cons]

end Buffer
