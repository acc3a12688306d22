import Mathlib.Data.List.Basic
import Mathlib.Tactic.Common

/-!
# Paging a list

The pages of `size` elements of a list, and how many of them cover it.
-/
namespace Library

variable {α : Type*}

/-- The slice `[offset, offset + limit)` of a list. -/
def slice (l : List α) (offset limit : Nat) : List α := (l.drop offset).take limit

/-- The least number of pages of `size` elements that hold `total` of them. -/
def pageCount (total size : Nat) : Nat := (total + size - 1) / size

theorem slice_length (l : List α) (offset limit : Nat) :
    (slice l offset limit).length = min limit (l.length - offset) := by
  rw [slice, List.length_take, List.length_drop]

theorem le_pageCount_mul (total : Nat) {size : Nat} (positive : 1 ≤ size) :
    total ≤ pageCount total size * size := by
  have division := Nat.div_add_mod (total + size - 1) size
  have rest := Nat.mod_lt (total + size - 1) positive
  rw [pageCount, Nat.mul_comm]
  omega

/-- No page is superfluous: each starts before the end. -/
theorem page_starts {total size i : Nat} (positive : 1 ≤ size) (counted : i < pageCount total size) :
    i * size < total := by
  have fits : (i + 1) * size ≤ total + size - 1 := by
    apply (Nat.le_div_iff_mul_le positive).mp
    exact counted
  rw [Nat.add_mul] at fits
  omega

theorem slices_flatten (l : List α) (size count : Nat) :
    ((List.range count).map fun i => slice l (i * size) size).flatten = l.take (count * size) := by
  induction count with
  | zero => simp
  | succ count ih =>
    rw [List.range_succ, List.map_append, List.flatten_append, ih, Nat.add_mul, Nat.one_mul,
      List.take_add]
    simp [slice]

/-- The pages of a list put together are the list. -/
theorem pages_flatten (l : List α) {size : Nat} (positive : 1 ≤ size) :
    ((List.range (pageCount l.length size)).map fun i => slice l (i * size) size).flatten = l := by
  rw [slices_flatten]
  apply List.take_of_length_le
  exact le_pageCount_mul l.length positive

end Library
