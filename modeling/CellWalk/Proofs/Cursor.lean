import CellWalk.Proofs.Edits
import CellWalk.Proofs.Geometry

/-!
# The cursor and the neighbours of its cell

The cursor moves by a step in the numbering, where the debugger looks for a neighbour. The two agree on
every neighbour, and where there is none the cursor mostly leaves the grid, which leaves nothing to edit
(`Stranded`). Only from the end of a row does it run on into the next one (`cursor_keeps_to_neighbours`),
so on a grid of several rows it does wrap (`cursor_wraps_into_next_row`).
-/

namespace CellWalk.Bench
set_option autoImplicit false

/-- The cursor is off the grid, where it sees a blank record and nothing can be edited. -/
structure Stranded (b : Bench) : Prop where
  outside : b.machine.grid.contains b.editor.pointer = false
  blank : b.current = .blank
  edits : ∀ e : Edit, e.apply b = (false, b)
  yank : b.yank = (false, b)
  debugger : b.bringDebugger = (false, b)

variable {b : Bench} {d : Direction}

theorem edit_of_not_editable (closed : b.editable = false) (change : Machine → Machine) :
    b.edit change = (false, b) := by
  simp [edit, closed]

/-- Without an open editor on the grid no edit takes place. -/
theorem apply_of_not_editable (closed : b.editable = false) (e : Edit) : e.apply b = (false, b) := by
  have rejected := edit_of_not_editable closed
  cases e with
  | cut => simp [Edit.apply, cut, yank, closed]
  | paste => simp only [Edit.apply, paste, rejected]
  | toggleOnOff => simp only [Edit.apply, toggleOnOff, editField, rejected]
  | cycleOpcode step => simp only [Edit.apply, cycleOpcode, editField, rejected]
  | toggleDirection d =>
    simp only [Edit.apply, toggleDirection, editField, rejected]
    split <;> rfl
  | cycleOperand step => simp only [Edit.apply, cycleOperand, editField, rejected, ite_self]
  | adjustOperand delta => simp only [Edit.apply, adjustOperand, editField, rejected, ite_self]
  | toggleMode => simp only [Edit.apply, toggleMode, rejected, ite_self]

theorem stranded_of_outside (outside : b.machine.grid.contains b.editor.pointer = false) :
    b.Stranded := by
  have closed : b.editable = false := by simp [editable, outside]
  exact
    { outside := outside
      blank := Machine.instruction_of_not_contains outside
      edits := apply_of_not_editable closed
      yank := by simp [yank, closed]
      debugger := edit_of_not_editable closed _ }

theorem target_bit (index : Int) : b.target index d.bit.toNat = b.machine.grid.target index d := by
  rw [target, Direction.ofCode?_bit]
  rfl

theorem moveCursor_bit (active : b.editor.active = true) :
    b.moveCursor d.bit.toNat = (true, { b with editor :=
      { b.editor with pointer := b.editor.pointer + b.machine.grid.stride d } }) := by
  rw [moveCursor, if_pos active, Direction.ofCode?_bit]

/-- An open editor whose cursor is on the grid moves it, and nothing else. The cursor goes to the
neighbour if there is one, in its row or its column. If there is none it leaves the grid, except where a
step in the numbering runs on: there it goes to the near end of the next row. -/
theorem cursor_keeps_to_neighbours (b : Bench) (d : Direction) (active : b.editor.active = true)
    (on : b.machine.grid.contains b.editor.pointer = true) :
    let g := b.machine.grid
    let start := b.editor.pointer
    let after := (b.moveCursor d.bit.toNat).2
    let goal := after.editor.pointer
    (b.moveCursor d.bit.toNat).1 = true ∧ after = { b with editor := { b.editor with pointer := goal } } ∧
      (∀ next, b.target start d.bit.toNat = some next → goal = next ∧ g.contains goal = true) ∧
      (¬g.RunsOn start d → b.target start d.bit.toNat = none → after.Stranded) ∧
      (¬g.RunsOn start d → g.contains goal = true →
        g.row goal = g.row start + d.rowStep ∧ g.col goal = g.col start + d.colStep) ∧
      (g.RunsOn start d → b.target start d.bit.toNat = none ∧ g.contains goal = true ∧
        g.row goal = g.row start + d.colStep ∧ g.col goal = g.cols - 1 - g.col start) := by
  intro g start after goal
  have moved := moveCursor_bit (d := d) active
  have there : goal = start + g.stride d := by
    simp only [goal, after, moved, start, g]
  simp only [target_bit]
  refine ⟨by rw [moved], ?_, fun next found => ?_, fun straight none => ?_, fun straight inside => ?_,
    fun runs => ?_⟩
  · simp only [goal, after, moved]
  · obtain ⟨same, -⟩ := (Grid.target_eq_some_iff on).1 found
    rw [there, ← same]
    exact ⟨rfl, Grid.contains_of_target on found⟩
  · have outside : g.contains goal = false := by
      rw [there, Bool.eq_false_iff, ne_eq, Grid.contains_step_iff on]
      rintro (⟨next, found⟩ | runs)
      · rw [none] at found
        cases found
      · exact straight runs
    have grid : after.machine.grid = g := by simp only [after, moved, g]
    exact stranded_of_outside (by rw [grid]; exact outside)
  · rw [there] at inside ⊢
    obtain ⟨next, found⟩ := ((Grid.contains_step_iff on).1 inside).resolve_right straight
    obtain ⟨-, -, low, high⟩ := (Grid.target_eq_some_iff on).1 found
    exact Grid.row_col_step low high
  · rw [there]
    exact ⟨Grid.target_of_atRowEnd on runs.1, (Grid.contains_step_iff on).2 (.inr runs),
      Grid.row_col_of_atRowEnd runs.1⟩

/-- A grid of two rows and two columns. -/
def square : Grid := ⟨2, 2, Nat.two_pos, Nat.two_pos⟩

theorem cells_square : square.cells ≤ 256 := by decide

/-- An open editor on a blank grid, with its cursor at the end of the first row. -/
def atRowEnd : Bench :=
  ((fresh (.blank square cells_square) .unlimited true).enter.moveCursor Direction.right.bit.toNat).2

/-- From there the cursor leaves the grid at the top, and goes down to the neighbour. -/
theorem cursor_moves_atRowEnd :
    atRowEnd.editor.active = true ∧ atRowEnd.machine.grid.contains atRowEnd.editor.pointer = true ∧
      (atRowEnd.moveCursor Direction.up.bit.toNat).2.Stranded ∧
      (atRowEnd.moveCursor Direction.down.bit.toNat).2.editor.pointer = 3 := by
  have active : atRowEnd.editor.active = true := by decide
  have on : atRowEnd.machine.grid.contains atRowEnd.editor.pointer = true := by decide
  obtain ⟨-, -, -, stranded, -⟩ := cursor_keeps_to_neighbours atRowEnd .up active on
  obtain ⟨-, -, neighbour, -⟩ := cursor_keeps_to_neighbours atRowEnd .down active on
  exact ⟨active, on, stranded (fun runs => runs.1) (by decide), (neighbour 3 (by decide)).1⟩

/-- To the right there is no neighbour, and the cursor does not leave the grid: it goes to the first cell
of the second row, where an edit takes place. -/
theorem cursor_wraps_into_next_row :
    let after := (atRowEnd.moveCursor Direction.right.bit.toNat).2
    atRowEnd.editor.active = true ∧ atRowEnd.machine.grid.contains atRowEnd.editor.pointer = true ∧
      atRowEnd.target atRowEnd.editor.pointer Direction.right.bit.toNat = none ∧
      atRowEnd.machine.grid.contains after.editor.pointer = true ∧
      atRowEnd.machine.grid.row after.editor.pointer ≠ atRowEnd.machine.grid.row atRowEnd.editor.pointer ∧
      (Edit.toggleOnOff.apply after).1 = true := by
  decide

end CellWalk.Bench
