import CellWalk.Bench.Basic

/-!
# Commands

What a player can ask for by a key. The arrows have no meaning of their own: an arrow walks, moves
the cursor or toggles a direction, as the editor's mode has it.
-/

namespace CellWalk
set_option autoImplicit false

inductive Command
  | move (d : Direction)
  | undo
  | restart
  | nextLevel
  | editToggle
  | cellToggle
  | cursor (d : Direction)
  | mask (d : Direction)
  | yank
  | cut
  | paste
  | onOff
  | opcodeNext
  | opcodePrev
  | operandNext
  | operandPrev
  | operandInc
  | operandDec
  | operandInc10
  | operandDec10
  | modeToggle
  | debuggerHere
  | exportProgram
deriving DecidableEq, Repr

namespace Command

def all : List Command :=
  Direction.all.map .move ++ [.undo, .restart, .nextLevel, .editToggle, .cellToggle] ++
    Direction.all.map .cursor ++ Direction.all.map .mask ++
    [.yank, .cut, .paste, .onOff, .opcodeNext, .opcodePrev, .operandNext, .operandPrev,
      .operandInc, .operandDec, .operandInc10, .operandDec10, .modeToggle, .debuggerHere,
      .exportProgram]

def name : Command → String
  | .move d => "move_" ++ d.name
  | .undo => "undo"
  | .restart => "restart"
  | .nextLevel => "next_level"
  | .editToggle => "edit_toggle"
  | .cellToggle => "cell_toggle"
  | .cursor d => "cursor_" ++ d.name
  | .mask d => "dir_" ++ d.name
  | .yank => "yank"
  | .cut => "cut"
  | .paste => "paste"
  | .onOff => "on_off"
  | .opcodeNext => "opcode_next"
  | .opcodePrev => "opcode_prev"
  | .operandNext => "operand_next"
  | .operandPrev => "operand_prev"
  | .operandInc => "operand_inc"
  | .operandDec => "operand_dec"
  | .operandInc10 => "operand_inc10"
  | .operandDec10 => "operand_dec10"
  | .modeToggle => "mode_toggle"
  | .debuggerHere => "debugger_here"
  | .exportProgram => "export"

def ofName? (name : String) : Option Command := all.find? fun c => c.name == name

/-- What an arrow means in a mode of the editor. -/
def arrow (mode : EditMode) (d : Direction) : Command :=
  match mode with
  | .off => .move d
  | .grid => .cursor d
  | .cell => .mask d

end Command

end CellWalk
