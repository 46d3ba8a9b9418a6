import Mathlib.Algebra.Ring.Nat
import Mathlib.Data.List.Induction

/-!
# Grids in flat lists

Rows of one length can be kept one behind the other in a flat list, where an element is found at an
index computed from its row and its column. The width of a column is the length of its longest
cell, which is found by widening a header's cell row by row.
-/

namespace RocksDBWrapper.Grids

variable {α β : Type*}

/-- The element of a row and a column, in the flat list. -/
theorem getElem?_flatten {rows : List (List α)} {count : ℕ}
    (uniform : ∀ row ∈ rows, row.length = count) (row : ℕ) {column : ℕ} (inside : column < count) :
    rows.flatten[row * count + column]? = rows[row]?.bind (·[column]?) := by
  induction rows generalizing row with
  | nil => rfl
  | cons first rows rest =>
    have length := uniform first List.mem_cons_self
    rw [List.flatten_cons]
    cases row with
    | zero =>
      rw [Nat.zero_mul, Nat.zero_add, List.getElem?_append_left (by omega)]
      rfl
    | succ row =>
      have index : (row + 1) * count + column - first.length = row * count + column := by
        rw [Nat.add_mul]
        omega
      have behind : first.length ≤ (row + 1) * count + column := by
        rw [Nat.add_mul]
        omega
      rw [List.getElem?_append_right behind, index, List.getElem?_cons_succ]
      exact rest (fun other member => uniform other (List.mem_cons_of_mem _ member)) row

/-- A list can be walked through by its indices. -/
theorem map_range_getElem? (list : List α) (f : α → β) (g : Option α → β)
    (same : ∀ x ∈ list, g (some x) = f x) :
    (List.range list.length).map (fun i => g list[i]?) = list.map f := by
  apply List.ext_getElem
  · simp
  · intro i inRange inList
    have inside : i < list.length := by simpa using inList
    rw [List.getElem_map, List.getElem_map, List.getElem_range, List.getElem?_eq_getElem inside]
    exact same _ (List.getElem_mem inside)

/-! ## Widths -/

/-- The length of the longest cell of a column. -/
def columnWidth (header : List (List α)) (rows : List (List (List α))) (column : ℕ) : ℕ :=
  rows.foldl (fun width cells => max width (cells.getD column []).length)
    (header.getD column []).length

section Widths

variable {header : List (List α)} {rows : List (List (List α))}

/-- A row widens a column to its cell. -/
theorem columnWidth_concat (cells : List (List α)) (column : ℕ) :
    columnWidth header (rows ++ [cells]) column =
      max (columnWidth header rows column) (cells.getD column []).length := by
  rw [columnWidth, List.foldl_append]
  rfl

/-- The header's cell and the cell of every row fit in their column. -/
theorem le_columnWidth (column : ℕ) :
    ∀ cells ∈ header :: rows, (cells.getD column []).length ≤ columnWidth header rows column := by
  induction rows using List.reverseRecOn with
  | nil =>
    intro cells member
    rw [List.mem_singleton.mp member]
    exact Nat.le_refl _
  | append_singleton rows last fits =>
    intro cells member
    rw [columnWidth_concat]
    rw [← List.cons_append, List.mem_append, List.mem_singleton] at member
    cases member with
    | inl earlier => exact Nat.le_trans (fits cells earlier) (Nat.le_max_left _ _)
    | inr newest =>
      rw [newest]
      exact Nat.le_max_right _ _

end Widths

/-! ## Sums -/

section Sums

variable {f g : α → ℕ} {list : List α}

/-- Larger terms have a larger sum. -/
theorem sum_map_le (below : ∀ x ∈ list, f x ≤ g x) : (list.map f).sum ≤ (list.map g).sum := by
  induction list with
  | nil => exact Nat.le_refl _
  | cons first list rest =>
    have head := below first List.mem_cons_self
    have tail := rest fun x member => below x (List.mem_cons_of_mem _ member)
    simp only [List.map_cons, List.sum_cons]
    omega

/-- If larger terms have the same sum, then none of them is larger. -/
theorem eq_of_sum_map_eq (below : ∀ x ∈ list, f x ≤ g x)
    (same : (list.map f).sum = (list.map g).sum) : ∀ x ∈ list, f x = g x := by
  induction list with
  | nil => exact fun x none => absurd none List.not_mem_nil
  | cons first list rest =>
    have head := below first List.mem_cons_self
    have others := fun x member => below x (List.mem_cons_of_mem first member)
    have tail := sum_map_le others
    simp only [List.map_cons, List.sum_cons] at same
    intro x member
    cases List.mem_cons.mp member with
    | inl front =>
      rw [front]
      omega
    | inr later => exact rest others (by omega) x later

end Sums

end RocksDBWrapper.Grids
