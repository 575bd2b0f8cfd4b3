import CellWalk.Session.Basic
import CellWalk.Session.Command

/-!
# Play

What the player can do in a session. Each step tells whether it took effect; a step may also fail,
because an image does not fit the machine or the progress cannot be saved, and then leaves what
it did before the failure.
-/

namespace CellWalk.Session
set_option autoImplicit false

/-- A step's answer and the session after it. -/
abbrev Step := Except PlayError Bool × Session

/-- Notes that the program has ended. -/
def reportHalt (s : Session) : Session :=
  let cycles := (s.machine.get .cyc).toNat
  let result := match s.level with
    | some level => Notice.levelHalted level.id cycles (level.medal cycles)
    | none => Notice.randomHalted s.seed cycles
  (s.note result).note (.stats s.machine.stats)

/-- A session after a change of its bench that may end the program. -/
def walked (s : Session) (r : Bool × Bench) : Bool × Session :=
  let after := { s with bench := r.2 }
  (r.1, if r.1 && after.machine.isHalted then after.reportHalt else after)

/-- Moves in a direction unless the program has ended. -/
def move (s : Session) (direction : Int) : Bool × Session :=
  if s.machine.isHalted then (false, s) else s.walked (s.bench.attemptMove direction)

/-- Jumps to a cell, unless the program has ended or the editor is open. -/
def click (s : Session) (index : Int) : Bool × Session :=
  if s.machine.isHalted || s.bench.editor.active then (false, s)
  else s.walked (s.bench.jumpTo index)

/-- Takes back the newest change. -/
def undo (s : Session) : Step :=
  match s.bench.undo with
  | (.ok ok, bench) => (.ok ok, { s with bench })
  | (.error e, bench) => (.error (.size e), { s with bench })

/-- Goes back to the opening, which can be undone like any change. -/
def restart (s : Session) : Step :=
  if s.machine.memory = s.opening then (.ok false, s)
  else
    let bench := { s.bench with history := s.bench.history.push s.machine.memory }
    match bench.load s.opening with
    | .error e => (.error (.size e), { s with bench })
    | .ok bench =>
      let machine := { bench.machine with outlet := silence bench.machine.outlet }
      (.ok true, { s with bench := { bench with machine } })

/-- Saves the id of the current level if there is a store. -/
def saveProgress (s : Session) (id : Text) : Step :=
  match s.store with
  | none => (.ok true, s)
  | some store =>
    let (saved, store) := store.save id
    let s := { s with store := some store }
    match saved with
    | .ok () => (.ok true, s.note (.progressSaved id store.path))
    | .error e => (.error (.save e), s)

/-- Goes on to the next level once the current one has ended. -/
def advance (s : Session) : Step :=
  match s.level with
  | none => (.ok false, s)
  | some level =>
    if s.machine.isHalted then
      match nextLevel? s.levels level.id with
      | none => (.ok false, s.note (.lastLevel level.id))
      | some next =>
        match s.loadLevel next with
        | (.error e, s) => (.error e, s)
        | (.ok (), s) => s.saveProgress next.id
    else (.ok false, s)

/-- The code of the program as it stands, which is also kept. -/
def exportProgram (s : Session) : Text × Session :=
  let code := (LevelCode.encode? s.machine.memory).getD []
  (code, { s with exports := s.exports ++ [code] }.note (.exported code))

/-- What an arrow means now. -/
def arrowCommand (s : Session) (d : Direction) : Command := .arrow s.bench.editor.mode d

/-- A session after a change of its bench. -/
def edited (s : Session) (r : Bool × Bench) : Step := (.ok r.1, { s with bench := r.2 })

/-- Carries out a command. -/
def perform (s : Session) (c : Command) : Step :=
  let b := s.bench
  match c with
  | .move d =>
    if b.editor.active then (.ok false, s)
    else
      let (ok, s) := s.move d.bit.toNat
      (.ok ok, s)
  | .cursor d => s.edited (b.moveCursor d.bit.toNat)
  | .mask d => s.edited (b.toggleDirection d.bit.toNat)
  | .undo => s.undo
  | .restart => s.restart
  | .nextLevel => s.advance
  | .yank => s.edited b.yank
  | .cut => s.edited b.cut
  | .paste => s.edited b.paste
  | .onOff => s.edited b.toggleOnOff
  | .opcodeNext => s.edited (b.cycleOpcode 1)
  | .opcodePrev => s.edited (b.cycleOpcode (-1))
  | .operandNext => s.edited (b.cycleOperand 1)
  | .operandPrev => s.edited (b.cycleOperand (-1))
  | .operandInc => s.edited (b.adjustOperand 1)
  | .operandDec => s.edited (b.adjustOperand (-1))
  | .operandInc10 => s.edited (b.adjustOperand 10)
  | .operandDec10 => s.edited (b.adjustOperand (-10))
  | .modeToggle => s.edited b.toggleMode
  | .debuggerHere => s.edited b.bringDebugger
  | .editToggle => s.edited (true, b.toggle)
  | .cellToggle => if b.editor.active then s.edited (true, b.toggleCell) else (.ok false, s)
  | .exportProgram => (.ok true, s.exportProgram.2)

/-- Notes a command and carries it out. -/
def dispatch (s : Session) (c : Command) : Step := (s.note (.command c.name)).perform c

end CellWalk.Session
