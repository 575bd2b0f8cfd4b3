import CellWalk.Bench.Basic
import CellWalk.Bench.Cycling

/-!
# Editing

The editor changes the record under its cursor without executing anything. An edit that changes
memory leaves one image in the history; one that does not is refused, as is any edit while the
editor is closed or its cursor off the grid.
-/

namespace CellWalk.Bench
set_option autoImplicit false

/-- Opens the editor at the debugger's cell. -/
def enter (b : Bench) : Bench :=
  { b with editor := { b.editor with mode := .grid, pointer := b.machine.ip } }

/-- Closes the editor and forgets cursor and yanked record. -/
def leave (b : Bench) : Bench :=
  { b with editor := { b.editor with mode := .off, pointer := 0, yanked := .blank } }

/-- Opens or closes the editor. -/
def toggle (b : Bench) : Bench := if b.editor.active then b.leave else b.enter

/-- Switches an open editor between moving the cursor and toggling directions. -/
def toggleCell (b : Bench) : Bench :=
  match b.editor.mode with
  | .off => b
  | .grid => { b with editor := { b.editor with mode := .cell } }
  | .cell => { b with editor := { b.editor with mode := .grid } }

/-- Moves the cursor by one cell in the numbering; it may leave the grid. -/
def moveCursor (b : Bench) (direction : Int) : Bool × Bench :=
  if b.editor.active then
    match Direction.ofCode? direction with
    | none => (false, b)
    | some d =>
      (true, { b with editor :=
        { b.editor with pointer := b.editor.pointer + b.machine.grid.stride d } })
  else (false, b)

/-- The record under the cursor. -/
def current (b : Bench) : Instruction := b.machine.instruction b.editor.pointer

/-- Whether an edit could take place: the editor is open and its cursor on the grid. -/
def editable (b : Bench) : Bool := b.editor.active && b.machine.grid.contains b.editor.pointer

/-- Makes a change to the machine if it changes memory. -/
def edit (b : Bench) (change : Machine → Machine) : Bool × Bench :=
  let changed := change b.machine
  if b.editable && changed.memory != b.machine.memory then
    (true, { b with
      machine := changed
      history := b.history.push b.machine.memory
      editor := { b.editor with edits := b.editor.edits + 1 } })
  else (false, b)

/-- Stores a value in one field of the record under the cursor. -/
def editField (b : Bench) (field value : Int) : Bool × Bench :=
  b.edit fun m => m.store b.editor.pointer field value

/-- A mask with some bits flipped, as numbers in two's complement. -/
def flipBits (mask : UInt8) : Int → Int
  | .ofNat n => (mask.toNat ^^^ n : Nat)
  | .negSucc n => Int.negSucc (mask.toNat ^^^ n)

/-- Toggles a direction in the mask; empty and final cells have none. -/
def toggleDirection (b : Bench) (direction : Int) : Bool × Bench :=
  let r := b.current
  match r.op? with
  | some .nil | some .halt => (false, b)
  | _ => b.editField 3 (flipBits r.dirs direction)

/-- Remembers the record under the cursor. -/
def yank (b : Bench) : Bool × Bench :=
  if b.editable then (true, { b with editor := { b.editor with yanked := b.current } })
  else (false, b)

/-- Remembers the record under the cursor and blanks the cell. -/
def cut (b : Bench) : Bool × Bench :=
  match b.yank with
  | (false, b) => (false, b)
  | (true, b) => b.edit fun m => m.setInstruction b.editor.pointer .blank

/-- Writes the remembered record. -/
def paste (b : Bench) : Bool × Bench :=
  b.edit fun m => m.setInstruction b.editor.pointer b.editor.yanked

/-- Switches the cell between empty and doing nothing. -/
def toggleOnOff (b : Bench) : Bool × Bench :=
  let next := if b.current.opcode = Opcode.nil.code then Opcode.nop else Opcode.nil
  b.editField 0 next.code.toNat

/-- The numbers of the opcodes. -/
def opcodeValues : List Int := Opcode.all.map fun o => (o.code.toNat : Int)

/-- The offsets that an operand in address mode steps through. -/
def targetValues : List Int := operandTargets.map fun r => (r.offset.toNat : Int)

/-- Steps through the opcodes. -/
def cycleOpcode (b : Bench) (step : Int) : Bool × Bench :=
  b.editField 0 ((cycleValue opcodeValues b.current.opcode.toNat step).getD 0)

/-- Steps through the registers that an operand in address mode names. -/
def cycleOperand (b : Bench) (step : Int) : Bool × Bench :=
  let r := b.current
  if takesOperand r.op? && r.mode == Instruction.addressMode then
    b.editField 1 ((cycleValue targetValues r.operand.toNat step).getD 0)
  else (false, b)

/-- Adds to an immediate operand. -/
def adjustOperand (b : Bench) (delta : Int) : Bool × Bench :=
  let r := b.current
  if takesOperand r.op? && r.mode == Instruction.immediateMode then
    b.editField 1 (r.operand.toNat + delta)
  else (false, b)

/-- Switches the operand between the data register and the number 0. -/
def toggleMode (b : Bench) : Bool × Bench :=
  let r := b.current
  if takesOperand r.op? then
    let (mode, operand) :=
      if r.mode = Instruction.addressMode then (Instruction.immediateMode, (0 : UInt8))
      else (Instruction.addressMode, Register.dat.offset)
    b.edit fun m => (m.store b.editor.pointer 2 mode.toNat).store b.editor.pointer 1 operand.toNat
  else (false, b)

/-- Puts the debugger on the cell under the cursor. -/
def bringDebugger (b : Bench) : Bool × Bench := b.edit fun m => m.set .ip b.editor.pointer

end CellWalk.Bench
