import CellWalk.Opcode
import CellWalk.Direction

/-!
# Instructions

A cell of the grid is a record of four bytes: opcode, operand, mode and direction mask. Any four
bytes are a record; what they mean is decided when the record is executed.
-/

namespace CellWalk
set_option autoImplicit false

structure Instruction where
  opcode : UInt8
  operand : UInt8
  mode : UInt8
  dirs : UInt8
deriving DecidableEq, Repr

namespace Instruction

/-- The operand is the value itself. -/
def immediateMode : UInt8 := 0

/-- The operand is the address of the value. -/
def addressMode : UInt8 := 1

/-- The number of bytes of a record. -/
def width : Nat := 4

/-- The empty cell. -/
def blank : Instruction := ⟨0, 0, 0, 0⟩

instance : Inhabited Instruction := ⟨blank⟩

def toBytes (r : Instruction) : List UInt8 := [r.opcode, r.operand, r.mode, r.dirs]

/-- The record in the first four bytes. -/
def ofBytes? : List UInt8 → Option Instruction
  | a :: b :: c :: d :: _ => some ⟨a, b, c, d⟩
  | _ => none

/-- The record of four numbers, if they are bytes. -/
def ofNumbers? (opcode operand mode dirs : Int) : Option Instruction := do
  some ⟨← byte? opcode, ← byte? operand, ← byte? mode, ← byte? dirs⟩

/-- The record that four numbers leave when they are stored in a cell. -/
def ofClamped (opcode operand mode dirs : Int) : Instruction :=
  ⟨clampByte opcode, clampByte operand, clampByte mode, clampByte dirs⟩

/-- What the record's opcode byte names. -/
def op? (r : Instruction) : Option Opcode := Opcode.ofByte? r.opcode

@[simp] theorem ofBytes?_toBytes (r : Instruction) : ofBytes? r.toBytes = some r := rfl

@[simp] theorem length_toBytes (r : Instruction) : r.toBytes.length = width := rfl

end Instruction

end CellWalk
