import CellWalk.Grid
import Mathlib.Tactic.Linarith
import Mathlib.Tactic.Ring

/-!
# Rows and columns

A number is a row and a column, on the grid or off it (`row_col_unique`), and it lies on the grid just if
its row does. The neighbour in a direction is one row or one column on (`target_eq_some_iff`), and as far in
the numbering as `Grid.stride` says. But a step in the numbering does not always lead to a neighbour, even
if it stays on the grid: the cells at the ends of neighbouring rows are one apart as well
(`contains_step_iff`).
-/

namespace CellWalk
set_option autoImplicit false

namespace Direction

/-- How many rows a direction leads on. -/
def rowStep : Direction → Int
  | .up => -1
  | .down => 1
  | .left | .right => 0

/-- How many columns a direction leads on. -/
def colStep : Direction → Int
  | .left => -1
  | .right => 1
  | .up | .down => 0

end Direction

namespace Grid

variable {g : Grid} {index next r c : Int} {d : Direction}

theorem zero_lt_cols (g : Grid) : (0 : Int) < g.cols := Int.ofNat_lt.2 g.cols_pos

theorem row_eq_ediv (g : Grid) (index : Int) : g.row index = index / g.cols :=
  Int.fdiv_eq_ediv_of_nonneg index (Int.le_of_lt g.zero_lt_cols)

theorem col_eq_emod (g : Grid) (index : Int) : g.col index = index % g.cols :=
  Int.fmod_eq_emod_of_nonneg index (Int.le_of_lt g.zero_lt_cols)

theorem col_nonneg (g : Grid) (index : Int) : 0 ≤ g.col index := by
  rw [col_eq_emod]
  exact Int.emod_nonneg index (Int.ne_of_gt g.zero_lt_cols)

theorem col_lt (g : Grid) (index : Int) : g.col index < g.cols := by
  rw [col_eq_emod]
  exact Int.emod_lt_of_pos index g.zero_lt_cols

/-- An index is made of its row and its column. -/
theorem eq_row_col (g : Grid) (index : Int) : index = g.row index * g.cols + g.col index := by
  rw [row_eq_ediv, col_eq_emod, Int.mul_comm]
  exact (Int.mul_ediv_add_emod index g.cols).symm

/-- No number has two rows or two columns. -/
theorem row_col_unique (low : 0 ≤ c) (high : c < g.cols) (same : index = r * g.cols + c) :
    g.row index = r ∧ g.col index = c := by
  subst same
  rw [row_eq_ediv, col_eq_emod, Int.add_comm]
  have notZero : (g.cols : Int) ≠ 0 := Int.ne_of_gt g.zero_lt_cols
  constructor
  · rw [Int.add_mul_ediv_right _ _ notZero, Int.ediv_eq_zero_of_lt low high, Int.zero_add]
  · rw [Int.add_mul_emod_self_right, Int.emod_eq_of_lt low high]

/-- An index is on the grid if its row is. -/
theorem contains_iff_row : g.contains index = true ↔ 0 ≤ g.row index ∧ g.row index < g.rows := by
  rw [contains_iff, row_eq_ediv, Int.ediv_nonneg_iff_of_pos g.zero_lt_cols, cells,
    Int.ediv_lt_iff_lt_mul g.zero_lt_cols, Int.natCast_mul, Int.mul_comm]

/-! Neighbours. -/

/-- A stride goes so many rows and so many columns. -/
theorem stride_eq (g : Grid) (d : Direction) : g.stride d = d.rowStep * g.cols + d.colStep := by
  cases d <;> simp [stride, Direction.rowStep, Direction.colStep]

/-- A step in the numbering leads one row or one column on, if there is such a column. -/
theorem row_col_step (low : 0 ≤ g.col index + d.colStep) (high : g.col index + d.colStep < g.cols) :
    g.row (index + g.stride d) = g.row index + d.rowStep ∧
      g.col (index + g.stride d) = g.col index + d.colStep := by
  apply row_col_unique low high
  have place := g.eq_row_col index
  rw [stride_eq]
  linarith

/-- The neighbour of a cell is one row or one column on, if there is such a row or column. -/
theorem target_eq_some_iff (on : g.contains index = true) :
    g.target index d = some next ↔ next = index + g.stride d ∧
      (0 ≤ g.row index + d.rowStep ∧ g.row index + d.rowStep < g.rows) ∧
      0 ≤ g.col index + d.colStep ∧ g.col index + d.colStep < g.cols := by
  have row := contains_iff_row.1 on
  have low := g.col_nonneg index
  have high := g.col_lt index
  cases d <;>
    simp only [target, stride, Direction.rowStep, Direction.colStep, Option.ite_none_right_eq_some,
      Option.some.injEq] <;>
    omega

theorem contains_of_target (on : g.contains index = true) (found : g.target index d = some next) :
    g.contains next = true := by
  obtain ⟨rfl, row, low, high⟩ := (target_eq_some_iff on).1 found
  rw [contains_iff_row, (row_col_step low high).1]
  exact row

/-! Ends of rows. -/

/-- The direction leads out of the row here. -/
def AtRowEnd (g : Grid) (index : Int) : Direction → Prop
  | .left => g.col index = 0
  | .right => g.col index = g.cols - 1
  | .up | .down => False

/-- A step in the numbering leads out of the row here, and on into another one. -/
def RunsOn (g : Grid) (index : Int) (d : Direction) : Prop :=
  g.AtRowEnd index d ∧ 0 ≤ g.row index + d.colStep ∧ g.row index + d.colStep < g.rows

theorem atRowEnd_iff :
    g.AtRowEnd index d ↔ ¬(0 ≤ g.col index + d.colStep ∧ g.col index + d.colStep < g.cols) := by
  have low := g.col_nonneg index
  have high := g.col_lt index
  cases d with
  | up | down =>
    simp only [AtRowEnd, Direction.colStep, false_iff, not_not]
    omega
  | left | right =>
    simp only [AtRowEnd, Direction.colStep]
    omega

/-- A step in the numbering out of a row leads to the near end of the next one. -/
theorem row_col_of_atRowEnd (last : g.AtRowEnd index d) :
    g.row (index + g.stride d) = g.row index + d.colStep ∧
      g.col (index + g.stride d) = g.cols - 1 - g.col index := by
  have low := g.col_nonneg index
  have high := g.col_lt index
  have place := g.eq_row_col index
  apply row_col_unique (by omega) (by omega)
  cases d with
  | up | down => exact last.elim
  | left | right =>
    simp only [AtRowEnd] at last
    simp only [stride, Direction.colStep]
    linarith

/-- There is nothing beyond the end of a row. -/
theorem target_of_atRowEnd (on : g.contains index = true) (last : g.AtRowEnd index d) :
    g.target index d = none := by
  rw [Option.eq_none_iff_forall_ne_some]
  intro next found
  exact atRowEnd_iff.1 last ((target_eq_some_iff on).1 found).2.2

/-- A step in the numbering that stays on the grid leads to the neighbour or runs on. -/
theorem contains_step_iff (on : g.contains index = true) :
    g.contains (index + g.stride d) = true ↔
      (∃ next, g.target index d = some next) ∨ g.RunsOn index d := by
  rw [contains_iff_row, RunsOn]
  by_cases last : g.AtRowEnd index d
  · simp [row_col_of_atRowEnd last, target_of_atRowEnd on last, last]
  · have inner := not_not.1 fun outside => last (atRowEnd_iff.2 outside)
    simp [row_col_step inner.1 inner.2, target_eq_some_iff on, inner, last]

end Grid

end CellWalk
