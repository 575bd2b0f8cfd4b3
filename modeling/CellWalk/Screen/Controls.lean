import CellWalk.Screen.Cell
import CellWalk.Screen.Panels

/-!
# Keys and mouse

Every key of the game has one action. Acting on a key or a click that takes effect refreshes the
panels; a level whose goals cannot be shown makes the refresh fail.
-/

namespace CellWalk.Screen
set_option autoImplicit false

/-- What a key does. -/
inductive Action
  | arrow (d : Direction)
  | command (c : Command)
  | quit
deriving DecidableEq, Repr

def Action.name : Action → String
  | .arrow d => "arrow:" ++ d.name
  | .command c => "command:" ++ c.name
  | .quit => "quit"

/-- The keys of the game, those of one action together. -/
def bindings : List (List String × Action) := [
  (["h", "left"], .arrow .left),
  (["j", "down"], .arrow .down),
  (["k", "up"], .arrow .up),
  (["l", "right"], .arrow .right),
  (["z"], .command .undo),
  (["backspace"], .command .undo),
  (["r"], .command .restart),
  (["n"], .command .nextLevel),
  (["e"], .command .editToggle),
  (["c"], .command .cellToggle),
  (["y"], .command .yank),
  (["x"], .command .cut),
  (["p"], .command .paste),
  (["space"], .command .onOff),
  (["right_square_bracket"], .command .opcodeNext),
  (["left_square_bracket"], .command .opcodePrev),
  (["o"], .command .operandNext),
  (["i"], .command .operandPrev),
  (["plus", "equals_sign"], .command .operandInc),
  (["minus"], .command .operandDec),
  (["greater_than_sign"], .command .operandInc10),
  (["less_than_sign"], .command .operandDec10),
  (["m"], .command .modeToggle),
  (["g"], .command .debuggerHere),
  (["w"], .command .exportProgram),
  (["q"], .quit)]

/-- The action of a key. -/
def actionOf? (key : String) : Option Action :=
  (bindings.find? fun b => b.1.contains key).map (·.2)

/-- A game on the screen. -/
structure Display where
  session : Session
  output : OutputLog

/-- Why a step on the screen fails. -/
inductive DisplayError
  | play (e : PlayError)
  | noGoals
deriving DecidableEq

/-- The texts of the panels, and the number of the output log's sheet. -/
structure Panels where
  state : Text
  stack : Text
  info : Text
  sheet : Nat
deriving DecidableEq

namespace Display

/-- A screen that has shown nothing of its session. -/
def create (session : Session) : Display := ⟨session, .empty⟩

/-- Brings the panels up to date. -/
def refresh (d : Display) : Except DisplayError Panels × Display :=
  match infoText d.session with
  | none => (.error .noGoals, d)
  | some info =>
    let output := d.output.refresh d.session
    (.ok ⟨stateText d.session, stackText d.session.machine, info, output.clears⟩,
      { d with output })

/-- Carries out a command and refreshes the panels. -/
def command (d : Display) (c : Command) : Except DisplayError Unit × Display :=
  match d.session.dispatch c with
  | (.error e, session) => (.error (.play e), { d with session })
  | (.ok _, session) =>
    match refresh { d with session } with
    | (.ok _, d) => (.ok (), d)
    | (.error e, d) => (.error e, d)

/-- Carries out the action of a key. Quitting is not the session's business. -/
def act (d : Display) (a : Action) : Except DisplayError Unit × Display :=
  match a with
  | .arrow direction => d.command (d.session.arrowCommand direction)
  | .command c => d.command c
  | .quit => (.ok (), d)

/-- A click at a position of the grid's panel. -/
def mouse (d : Display) (x y : Int) : Except DisplayError Unit × Display :=
  match cellAt? d.session.machine.grid x y with
  | none => (.ok (), d)
  | some index =>
    match d.session.click index with
    | (false, session) => (.ok (), { d with session })
    | (true, session) =>
      match refresh { d with session } with
      | (.ok _, d) => (.ok (), d)
      | (.error e, d) => (.error e, d)

end Display

end CellWalk.Screen
