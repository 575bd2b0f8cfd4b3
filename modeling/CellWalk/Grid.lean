import CellWalk.Direction

/-!
# The grid

Cells are numbered row by row from the top left. A cell is named by a number that need not lie
on the grid; `Grid.target` gives the neighbour in a direction and none across an edge, so a step
never wraps into another row.
-/

namespace CellWalk
set_option autoImplicit false

/-- The shape of a program: at least one column and one row. -/
structure Grid where
  cols : Nat
  rows : Nat
  cols_pos : 0 < cols
  rows_pos : 0 < rows
deriving DecidableEq

namespace Grid

/-- The number of cells. -/
def cells (g : Grid) : Nat := g.cols * g.rows

def contains (g : Grid) (index : Int) : Bool := 0 ≤ index && index < g.cells

/-- The row of a cell; cells before the first have negative rows. -/
def row (g : Grid) (index : Int) : Int := Int.fdiv index g.cols

/-- The column of a cell, counted from the left in every row. -/
def col (g : Grid) (index : Int) : Int := Int.fmod index g.cols

/-- The neighbour of a cell in a direction, none off the grid. -/
def target (g : Grid) (index : Int) (d : Direction) : Option Int :=
  match d with
  | .left => if 0 < g.col index then some (index - 1) else none
  | .right => if g.col index < g.cols - 1 then some (index + 1) else none
  | .up => if 0 < g.row index then some (index - g.cols) else none
  | .down => if g.row index < g.rows - 1 then some (index + g.cols) else none

/-- The distance between a cell and its neighbour in the numbering. -/
def stride (g : Grid) : Direction → Int
  | .left => -1
  | .right => 1
  | .up => -g.cols
  | .down => g.cols

theorem cells_pos (g : Grid) : 0 < g.cells := Nat.mul_pos g.cols_pos g.rows_pos

theorem contains_iff {g : Grid} {index : Int} :
    g.contains index = true ↔ 0 ≤ index ∧ index < g.cells := by
  simp [contains]

end Grid

end CellWalk
