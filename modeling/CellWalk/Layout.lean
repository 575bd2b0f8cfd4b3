import CellWalk.Image
import CellWalk.Instruction

/-!
# Memory layout

Status, registers, stack and program share one memory. The registers lie at its start, thirteen
stack slots from offset 10 on, and the program's records from offset 24 on, row by row.
-/

namespace CellWalk
set_option autoImplicit false

/-- The named places of memory; `stk` names the foot of the stack. -/
inductive Register
  | sta
  | ip
  | sp
  | cyc
  | dbg
  | dat
  | stk
deriving DecidableEq, Repr, Inhabited

namespace Register

def all : List Register := [.sta, .ip, .sp, .cyc, .dbg, .dat, .stk]

/-- The registers proper, without the stack. -/
def plain : List Register := [.sta, .ip, .sp, .cyc, .dbg, .dat]

def offset : Register → UInt8
  | .sta => 0
  | .ip => 1
  | .sp => 2
  | .cyc => 3
  | .dbg => 4
  | .dat => 5
  | .stk => 10

def name : Register → String
  | .sta => "STA"
  | .ip => "IP"
  | .sp => "SP"
  | .cyc => "CYC"
  | .dbg => "DBG"
  | .dat => "DAT"
  | .stk => "STK"

def ofOffset? (v : Int) : Option Register := all.find? fun r => (r.offset.toNat : Int) == v

def ofName? (name : String) : Option Register := all.find? fun r => r.name == name

/-- The register's address. -/
def address (r : Register) : Nat := r.offset.toNat

end Register

/-- The address of the first stack slot. -/
def stackBase : Nat := 10

/-- The number of slots before the stack runs into the byte below the program. -/
def stackSlots : Nat := 13

/-- The address of the first record. -/
def programBase : Nat := 24

/-- The status byte of a program that has ended. -/
def halted : UInt8 := 1

/-- The number of bytes for a grid of the given shape. -/
def memorySize (cols rows : Int) : Int := programBase + cols * rows * Instruction.width

/-- The addresses below the program that are neither register nor stack slot. -/
def looseOffsets : List Nat := [6, 7, 8, 9, 23]

/-- The operands in address mode that the editor steps through. -/
def operandTargets : List Register := [.dat, .stk, .cyc, .ip, .sp]

end CellWalk
