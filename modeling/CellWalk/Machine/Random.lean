import CellWalk.Machine.Basic
import CellWalk.Twister

/-!
# Random programs

A random program has every register 0 and fills each cell with an opcode up to `END`, in one of
the two modes, with an operand that suits the mode and at most one direction. Two thirds of the
cells are blank or do nothing.
-/

namespace CellWalk.Machine
set_option autoImplicit false

/-- The opcodes that may be drawn directly: all but the last. -/
def drawnOpcodes : Nat := Opcode.halt.code.toNat + 1

/-- Immediate operands are drawn below this number. -/
def drawnOperands : Nat := 100

/-- Draws one record: mode, opcode, operand and direction, in this order. -/
def drawInstruction (t : Twister) : Instruction × Twister :=
  let (mode, t) := t.choose [Instruction.addressMode, Instruction.immediateMode]
  let (any, t) := t.below drawnOpcodes
  let (opcode, t) := t.choose [Opcode.nil.code, Opcode.nop.code, UInt8.ofNat any]
  let (operand, t) :=
    if mode = Instruction.addressMode then t.choose [Register.dat.offset, Register.stk.offset]
    else
      let (n, t) := t.below drawnOperands
      (UInt8.ofNat n, t)
  let (dirs, t) := t.choose [0, Direction.up.bit, Direction.left.bit, Direction.right.bit,
    Direction.down.bit]
  (⟨opcode, operand, mode, dirs⟩, t)

/-- Draws the records of the next cells, first cell first. -/
def drawProgram : Nat → Twister → List Instruction
  | 0, _ => []
  | cells + 1, t =>
    let (r, t) := drawInstruction t
    r :: drawProgram cells t

/-- The memory of a random program. -/
def randomMemory (g : Grid) (seed : Int) : Image :=
  Image.blank programBase ++ (drawProgram g.cells (.ofSeed seed)).flatMap Instruction.toBytes

/-- Fills the grid with a random program and empties registers and outlet; the counters stay. -/
def randomize (m : Machine) (seed : Int) : Machine :=
  { m with memory := randomMemory m.grid seed, outlet := m.outlet.clear }

end CellWalk.Machine
