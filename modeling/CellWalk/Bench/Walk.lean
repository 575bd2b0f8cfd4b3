import CellWalk.Bench.Basic

/-!
# Walking

A move is legal when the mask of the debugger's cell allows the direction, the target lies on the
grid and its record lets the debugger in. A legal move costs one cycle and leaves one image in
the history; an illegal one is counted and changes nothing in memory. A jump goes to any other
cell of the grid without asking the mask.
-/

namespace CellWalk.Bench
set_option autoImplicit false

/-- The neighbour of a cell in the direction with this bit, if there is one. -/
def target (b : Bench) (index direction : Int) : Option Int :=
  (Direction.ofCode? direction).bind (b.machine.grid.target index)

/-- Whether the mask of the debugger's cell permits this way out; an empty mask permits all. -/
def allows (b : Bench) (direction : Int) : Bool :=
  let mask := b.machine.fetch b.machine.ip 3
  !b.walker.enforce || mask == 0 || sharesBit mask direction

/-- Counts a refused attempt. -/
def reject (b : Bench) : Bench :=
  { b with walker := { b.walker with rejected := b.walker.rejected + 1 } }

/-- Enters a cell: executes it, moves there, counts the cycle and records the memory of before. -/
def commit (b : Bench) (index : Int) : Bool × Bench :=
  match b.machine.jump index with
  | (false, machine) => (false, reject { b with machine })
  | (true, machine) =>
    (true, { b with
      machine := machine.cycle
      history := b.history.push b.machine.memory
      walker := { b.walker with moves := b.walker.moves + 1 } })

/-- Tries to move one cell in a direction. -/
def attemptMove (b : Bench) (direction : Int) : Bool × Bench :=
  if b.allows direction then
    match b.target b.machine.ip direction with
    | some index => b.commit index
    | none => (false, b.reject)
  else (false, b.reject)

/-- Tries to jump to a cell. -/
def jumpTo (b : Bench) (index : Int) : Bool × Bench :=
  if b.machine.grid.contains index && index != b.machine.ip then b.commit index
  else (false, b.reject)

end CellWalk.Bench
