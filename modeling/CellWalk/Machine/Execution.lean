import CellWalk.Machine.Stack

/-!
# Execution

A record is executed when the debugger is about to enter its cell; the answer says whether it may.
Empty cells and unknown opcodes refuse, a test lets in when it holds, and everything else does
its work and lets in. A refusal leaves the memory alone, though every attempt is counted.
-/

namespace CellWalk.Machine
set_option autoImplicit false

/-- The value that an operand denotes: itself, the byte at its address or the top of the stack. -/
def resolve (m : Machine) (operand mode : Int) : Int :=
  if mode ≠ Instruction.addressMode.toNat then operand
  else if operand = stackBase then m.peek.toNat
  else (m.reg operand).toNat

/-- Whether a test holds between the debugger register and a value. -/
def compare (o : Opcode) (dbg value : Int) : Bool :=
  match o with
  | .teq => dbg == value
  | .tlt => dbg < value
  | _ => value < dbg

/-- Exchanges the debugger register with the top of the stack or the byte at an address. -/
def swap (m : Machine) (operand : UInt8) : Machine :=
  let dbg := m.get .dbg
  if operand.toNat = stackBase then
    let (top, popped) := m.pop
    (popped.push dbg.toNat).set .dbg top.toNat
  else
    let other := m.reg operand.toNat
    (m.setReg operand.toNat dbg.toNat).set .dbg other.toNat

/-- Sends the debugger register to the outlet. -/
def send (m : Machine) : Machine :=
  { m with sends := m.sends + 1, outlet := m.outlet.push (m.get .dbg) }

/-- What an instruction does, and whether its cell may be entered. -/
def perform (m : Machine) (o : Opcode) (r : Instruction) : Bool × Machine :=
  let value := m.resolve r.operand.toNat r.mode.toNat
  let dbg : Int := (m.get .dbg).toNat
  match o with
  | .nil => (false, m)
  | .nop | .txt => (true, m)
  | .get => (true, m.set .dbg value)
  | .set =>
    (true, if r.operand.toNat = stackBase then m.push dbg else m.setReg r.operand.toNat value)
  | .swp => (true, m.swap r.operand)
  | .add => (true, m.set .dbg (dbg + value))
  | .sub => (true, m.set .dbg (dbg - value))
  | .teq | .tlt | .tgt => (compare o dbg value, m)
  | .snd => (true, m.send)
  | .halt => (true, m.set .sta halted.toNat)

/-- Runs the record of a cell; true means that the cell may be entered. -/
def execute (m : Machine) (index : Int) : Bool × Machine :=
  let r := m.instruction index
  let counted := { m with executions := m.executions + 1 }
  match r.op? with
  | none => (false, counted)
  | some o => counted.perform o r

/-- Whether a test in this cell would let the debugger in now. -/
def testPasses (m : Machine) (index : Int) : Bool :=
  let r := m.instruction index
  match r.op? with
  | some o => o.isTest && compare o (m.get .dbg).toNat (m.resolve r.operand.toNat r.mode.toNat)
  | none => false

/-- Executes a cell and moves the debugger there if it may enter. -/
def jump (m : Machine) (index : Int) : Bool × Machine :=
  match m.execute index with
  | (true, entered) => (true, entered.set .ip index)
  | (false, refused) => (false, refused)

end CellWalk.Machine
