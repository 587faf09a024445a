import Mathlib.Data.Nat.Notation
import Mathlib.Tactic.Common

/-!
# Tables of one column

A table that items are only added to at its end, and that is emptied as a whole, by its operations.
`KeepsItems` is what is asked of them, one operation at a time: which cells have an item, and which
item it is.  `Rows t m l` says that the table has the items of `l` in its rows, and no others.
-/

set_option autoImplicit false

namespace MirrorLink.Library

/-- The operations of a table in a state `μ`. -/
structure Table (μ ι : Type) where
  new : μ
  clear : μ → μ
  appendRow : μ → ι → μ
  rowCount : μ → ℕ
  item : μ → ℕ → ℕ → Option ι

namespace Table

variable {μ ι : Type}

/-- A row is added behind the others with an item in its first column, and cells keep their
items. -/
structure KeepsItems (t : Table μ ι) : Prop where
  rowCount_new : t.rowCount t.new = 0
  item_new : ∀ row column, t.item t.new row column = none
  rowCount_clear : ∀ m, t.rowCount (t.clear m) = 0
  item_clear : ∀ m row column, t.item (t.clear m) row column = none
  rowCount_appendRow : ∀ m i, t.rowCount (t.appendRow m i) = t.rowCount m + 1
  item_last : ∀ m i column,
    t.item (t.appendRow m i) (t.rowCount m) column = if column = 0 then some i else none
  item_other : ∀ m i row column, row ≠ t.rowCount m →
    t.item (t.appendRow m i) row column = t.item m row column

/-- The table has these items, one in each row. -/
structure Rows (t : Table μ ι) (m : μ) (l : List ι) : Prop where
  rowCount : t.rowCount m = l.length
  item : ∀ row column, t.item m row column = if column = 0 then l[row]? else none

/-- What is added at the end of a list leaves the rest where it was. -/
theorem getElem?_concat_of_ne (l : List ι) (i : ι) {row : ℕ} (h : row ≠ l.length) :
    (l ++ [i])[row]? = l[row]? := by
  rcases Nat.lt_or_gt_of_ne h with hlt | hgt
  · rw [List.getElem?_append_left hlt]
  · rw [List.getElem?_eq_none (Nat.le_of_lt hgt), List.getElem?_eq_none (by simp; omega)]

variable {t : Table μ ι}

/-- A new table has no rows. -/
theorem rows_new (ht : t.KeepsItems) : t.Rows t.new [] where
  rowCount := ht.rowCount_new
  item row column := by
    rw [ht.item_new]
    simp

/-- A table that is cleared has no rows. -/
theorem rows_clear (ht : t.KeepsItems) (m : μ) : t.Rows (t.clear m) [] where
  rowCount := ht.rowCount_clear m
  item row column := by
    rw [ht.item_clear]
    simp

/-- One more row. -/
theorem Rows.appendRow {m : μ} {l : List ι} (h : t.Rows m l) (ht : t.KeepsItems) (i : ι) :
    t.Rows (t.appendRow m i) (l ++ [i]) where
  rowCount := by rw [ht.rowCount_appendRow, h.rowCount, List.length_append, List.length_singleton]
  item row column := by
    by_cases hrow : row = l.length
    · rw [hrow, ← h.rowCount, ht.item_last, h.rowCount, List.getElem?_concat_length]
    · have hother : row ≠ t.rowCount m := by rwa [h.rowCount]
      rw [ht.item_other m i row column hother, h.item, getElem?_concat_of_ne l i hrow]

/-! ## A table -/

/-- A list with one item for each row. -/
def ofList (ι : Type) : Table (List ι) ι where
  new := []
  clear _ := []
  appendRow l i := l ++ [i]
  rowCount := List.length
  item l row column := if column = 0 then l[row]? else none

/-- A list keeps its items. -/
theorem keepsItems_ofList : (ofList ι).KeepsItems where
  rowCount_new := rfl
  item_new row column := by simp [ofList]
  rowCount_clear _ := rfl
  item_clear _ row column := by simp [ofList]
  rowCount_appendRow l i := by simp [ofList]
  item_last l i column := by simp [ofList]
  item_other l i row column h := by
    show (if column = 0 then (l ++ [i])[row]? else none) = _
    rw [getElem?_concat_of_ne l i h]
    rfl

end Table

end MirrorLink.Library
