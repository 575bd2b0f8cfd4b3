import CellWalk.Byte

/-!
# Opcodes

The thirteen instructions a cell can hold, numbered from 0. Each has a mnemonic for programs, a
label for the screen and a hint for the player. A cell's opcode byte may also be a number that
names no instruction.
-/

namespace CellWalk
set_option autoImplicit false

inductive Opcode
  /-- An empty cell. -/
  | nil
  | nop
  /-- Moves a value into the debugger register. -/
  | get
  /-- Writes the operand's value to its address, or pushes the debugger register. -/
  | set
  | swp
  | add
  | sub
  | teq
  | tlt
  | tgt
  /-- Sends the debugger register to the outlet. -/
  | snd
  /-- Ends the program. -/
  | halt
  /-- Shows a label. -/
  | txt
deriving DecidableEq, Repr, Inhabited

namespace Opcode

/-- All opcodes in the order of their numbers. -/
def all : List Opcode :=
  [.nil, .nop, .get, .set, .swp, .add, .sub, .teq, .tlt, .tgt, .snd, .halt, .txt]

def code : Opcode → UInt8
  | .nil => 0
  | .nop => 1
  | .get => 2
  | .set => 3
  | .swp => 4
  | .add => 5
  | .sub => 6
  | .teq => 7
  | .tlt => 8
  | .tgt => 9
  | .snd => 10
  | .halt => 11
  | .txt => 12

def mnemonic : Opcode → String
  | .nil => "NIL"
  | .nop => "NOP"
  | .get => "GET"
  | .set => "SET"
  | .swp => "SWP"
  | .add => "ADD"
  | .sub => "SUB"
  | .teq => "TEQ"
  | .tlt => "TLT"
  | .tgt => "TGT"
  | .snd => "SND"
  | .halt => "END"
  | .txt => "TXT"

/-- What a cell shows. -/
def label : Opcode → String
  | .nil => ""
  | .get => "LOD"
  | .set => "MOV"
  | o => o.mnemonic

/-- What the player is told about the instruction. -/
def hint : Opcode → String
  | .nil => ""
  | .nop => "DO NOTHING"
  | .get => "READ VALUE INTO DEBUGGER"
  | .set => "WRITE VALUE FROM DEBUGGER"
  | .swp => "SWAP VALUE WITH DEBUGGER"
  | .add => "ADD VALUE TO DEBUGGER"
  | .sub => "SUB VALUE FROM DEBUGGER"
  | .teq => "TEST IF DEBUGGER IS EQUAL"
  | .tlt => "TEST IF DEBUGGER IS LESS THAN"
  | .tgt => "TEST IF DEBUGGER IS GREATER THAN"
  | .snd => "SEND VALUE"
  | .halt => "END PROGRAM"
  | .txt => "READ THE NOTE"

/-- The opcode with this number. -/
def ofCode? (v : Int) : Option Opcode := all.find? fun o => (o.code.toNat : Int) == v

/-- The opcode that a cell's first byte names. -/
def ofByte? (b : UInt8) : Option Opcode := all.find? fun o => o.code == b

def ofMnemonic? (name : String) : Option Opcode := all.find? fun o => o.mnemonic == name

/-- One of the three tests, which let the debugger in only when they hold. -/
def isTest : Opcode → Bool
  | .teq | .tlt | .tgt => true
  | _ => false

theorem ofByte?_code (o : Opcode) : ofByte? o.code = some o := by
  cases o <;> decide

end Opcode

/-- Whether a cell with this opcode can ever hold the debugger. -/
def isEnterable (o : Option Opcode) : Bool := o.isSome && o != some .nil

/-- Whether the cell holds a test. -/
def isTestCell (o : Option Opcode) : Bool := o.any Opcode.isTest

/-- Whether operand and mode of a cell are worth editing; those of an unknown opcode are. -/
def takesOperand (o : Option Opcode) : Bool :=
  match o with
  | some .nil | some .nop | some .swp | some .snd => false
  | _ => true

end CellWalk
