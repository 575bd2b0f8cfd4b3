import CellWalk.Layout
import CellWalk.Grid
import CellWalk.Outlet

/-!
# The machine

One memory holds status, registers, stack and program; beside it stand the outlet and three
counters. Registers and records are read and written through the memory only, so an instruction
that writes to an address may change any of them.
-/

namespace CellWalk
set_option autoImplicit false

/-- A grid that no machine has. -/
inductive GridError
  | empty (cols rows : Int)
  | tooLarge (cols rows : Int)
deriving DecidableEq, Repr

def GridError.message : GridError → String
  | .empty cols rows => s!"Grid must be at least 1x1, got {cols}x{rows}"
  | .tooLarge cols rows => s!"Grid {cols}x{rows} has more cells than IP can address"

/-- A machine; one byte addresses every cell of its grid. -/
structure Machine where
  grid : Grid
  cells_le : grid.cells ≤ 256
  memory : Image
  outlet : Outlet
  executions : Nat
  sends : Nat
  stackPeak : Nat
deriving DecidableEq

namespace Machine

/-- The depth of the outlet. -/
def outletDepth : Nat := 16

/-- The number of bytes that the memory of a machine on this grid has. -/
def sizeFor (g : Grid) : Nat := programBase + g.cells * Instruction.width

/-- A machine with blank memory. -/
def blank (g : Grid) (h : g.cells ≤ 256) : Machine :=
  ⟨g, h, Image.blank (sizeFor g), .empty outletDepth, 0, 0, 0⟩

/-- A blank machine of the given shape, unless a side is below one or a byte cannot address all
its cells. -/
def create (cols rows : Int) : Except GridError Machine :=
  if h : 0 < cols.toNat ∧ 0 < rows.toNat then
    let g : Grid := ⟨cols.toNat, rows.toNat, h.1, h.2⟩
    if fits : g.cells ≤ 256 then .ok (blank g fits) else .error (.tooLarge cols rows)
  else .error (.empty cols rows)

/-- A byte of memory. -/
def reg (m : Machine) (address : Int) : UInt8 := m.memory.read address

/-- Stores a clamped value at an address. -/
def setReg (m : Machine) (address value : Int) : Machine :=
  { m with memory := m.memory.write address value }

/-- The byte of a register. -/
def get (m : Machine) (r : Register) : UInt8 := m.reg r.address

/-- Stores a clamped value in a register. -/
def set (m : Machine) (r : Register) (value : Int) : Machine := m.setReg r.address value

/-- The cell that the debugger stands on. -/
def ip (m : Machine) : Int := (m.get .ip).toNat

def isHalted (m : Machine) : Bool := m.get .sta == halted

/-- Replaces the memory by an image of the same length. -/
def load (m : Machine) (image : Image) : Except SizeMismatch Machine :=
  (m.memory.restore image).map fun memory => { m with memory }

/-- The address of a field of a cell's record. -/
def fieldAddress (index field : Int) : Int := programBase + index * Instruction.width + field

/-- One field of a record, 0 off the grid. -/
def fetch (m : Machine) (index field : Int) : UInt8 :=
  if m.grid.contains index && (0 ≤ field && field < Instruction.width) then
    m.reg (fieldAddress index field)
  else 0

/-- Stores a clamped value in one field of a record; off the grid nothing happens. -/
def store (m : Machine) (index field value : Int) : Machine :=
  if m.grid.contains index && (0 ≤ field && field < Instruction.width) then
    m.setReg (fieldAddress index field) value
  else m

/-- The record of a cell, blank off the grid. -/
def instruction (m : Machine) (index : Int) : Instruction :=
  ⟨m.fetch index 0, m.fetch index 1, m.fetch index 2, m.fetch index 3⟩

/-- Stores a record in a cell. -/
def setInstruction (m : Machine) (index : Int) (r : Instruction) : Machine :=
  (((m.store index 0 r.opcode.toNat).store index 1 r.operand.toNat).store index 2
    r.mode.toNat).store index 3 r.dirs.toNat

/-- The instruction that a cell's opcode byte names. -/
def op? (m : Machine) (index : Int) : Option Opcode := (m.instruction index).op?

/-- The counters of a run. -/
structure Stats where
  cycles : Nat
  executions : Nat
  sends : Nat
  stackPeak : Nat
  halted : Bool
deriving DecidableEq, Repr

def stats (m : Machine) : Stats :=
  ⟨(m.get .cyc).toNat, m.executions, m.sends, m.stackPeak, m.isHalted⟩

/-- The counters as five lines. -/
def Stats.summary (s : Stats) : String :=
  let halted := if s.halted then "True" else "False"
  s!"Cycles: {s.cycles}\nExecutions: {s.executions}\nSends: {s.sends}\n" ++
    s!"Stack peak: {s.stackPeak}\nHalted: {halted}"

def resetCounters (m : Machine) : Machine := { m with executions := 0, sends := 0, stackPeak := 0 }

/-- Counts one cycle. -/
def cycle (m : Machine) : Machine := m.set .cyc ((m.get .cyc).toNat + 1)

end Machine

end CellWalk
