import CellWalk.Machine.Execution
import CellWalk.Machine.Random
import CellWalk.History

/-!
# The bench

A machine under a player's hands: the machine itself, the undo history of its memory, the walker
that moves the debugger over the grid and the editor that changes cells.
-/

namespace CellWalk
set_option autoImplicit false

/-- How the debugger walks: whether direction masks bind it, and how its attempts went. -/
structure Walker where
  enforce : Bool
  moves : Nat
  rejected : Nat
deriving DecidableEq, Repr

/-- What the arrows do: walk, move the cursor, or toggle the directions under the cursor. -/
inductive EditMode
  | off
  | grid
  | cell
deriving DecidableEq, Repr, Inhabited

def EditMode.name : EditMode → String
  | .off => "off"
  | .grid => "grid"
  | .cell => "cell"

/-- The editor's cursor, which may leave the grid, the record last yanked, and the number of
edits made. -/
structure Editor where
  mode : EditMode
  pointer : Int
  yanked : Instruction
  edits : Nat
deriving DecidableEq, Repr

/-- Whether the editor is open. -/
def Editor.active (e : Editor) : Bool := e.mode != .off

/-- An editor that was never opened. -/
def Editor.closed : Editor := ⟨.off, 0, .blank, 0⟩

structure Bench where
  machine : Machine
  history : History
  walker : Walker
  editor : Editor
deriving DecidableEq

namespace Bench

/-- A bench on which nothing has happened. -/
def fresh (machine : Machine) (history : History) (enforce : Bool) : Bench :=
  ⟨machine, history, ⟨enforce, 0, 0⟩, .closed⟩

/-- Replaces the memory by an image of the same length. -/
def load (b : Bench) (image : Image) : Except SizeMismatch Bench :=
  (b.machine.load image).map fun machine => { b with machine }

/-- Takes back the newest change; false if there is none. The image is gone from the history even
if it does not fit the machine. -/
def undo (b : Bench) : Except SizeMismatch Bool × Bench :=
  match b.history.entries with
  | [] => (.ok false, b)
  | image :: older =>
    let popped := { b with history := { b.history with entries := older } }
    match popped.load image with
    | .ok restored => (.ok true, restored)
    | .error e => (.error e, popped)

end Bench

end CellWalk
