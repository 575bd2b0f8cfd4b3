import CellWalk.Screen.Markup
import CellWalk.Session.Play

/-!
# Panels

Beside the grid stand the registers and counters, the stack, and what there is to know about the
level and the cell of interest. The output panel is a log of its own: it takes in new lines and
exports at every refresh and starts over on a new sheet when the session has fewer lines than it
has taken in. A view of the panels tells its sheet by number, so it also shows what was written
there later.
-/

namespace CellWalk.Screen
set_option autoImplicit false

/-- A byte in three columns. -/
def byteColumns (b : UInt8) : Text := Text.padLeft 3 (Decimal.ofNat b.toNat)

/-- A caption and a text after it. -/
def entry (name : String) (value : Text) : Text :=
  caption (name ++ ":") ++ (' ' : CodePoint) :: value

/-- The registers and the counters. -/
def stateText (s : Session) : Text :=
  let m := s.machine
  let w := s.bench.walker
  let status := if m.isHalted then "HALTED" else "RUNNING"
  let gap := Text.ofString "  "
  Text.joinLines [
    entry "STA" (Text.ofString status) ++ Text.ofString "    " ++
      entry "CYC" (Decimal.ofNat (m.get .cyc).toNat),
    entry "IP" (byteColumns (m.get .ip)) ++ gap ++ entry "SP" (byteColumns (m.get .sp)),
    entry "DBG" (byteColumns (m.get .dbg)) ++ gap ++
      within "yellow" (entry "DAT" (byteColumns (m.get .dat))),
    entry "Moves" (Decimal.ofNat w.moves) ++ gap ++ entry "Rejected" (Decimal.ofNat w.rejected) ++
      gap ++ entry "Undo" (Decimal.ofNat s.bench.history.size),
    entry "Exec" (Decimal.ofNat m.executions) ++ gap ++ entry "Sent" (Decimal.ofNat m.sends) ++
      gap ++ entry "Stack peak" (Decimal.ofNat m.stackPeak)]

/-- One slot of the stack: the next free one reversed, the used ones in colour. -/
def slotText (m : Machine) (k : Nat) : Text :=
  let value := byteColumns (m.reg (Machine.slot k))
  let sp := (m.get .sp).toNat
  if k = sp then within "reverse" value
  else if k < sp then within "magenta" value
  else value

/-- The slots of the stack, and a warning when it has left them. -/
def stackText (m : Machine) : Text :=
  let slots := Text.joinWords ((List.range stackSlots).map (slotText m))
  let sp := (m.get .sp).toNat
  if sp < stackSlots then slots
  else
    slots ++ Text.newline ::
      within "bold red" (Text.ofString s!"SP {sp}: stack overflowing into program")

/-- The line of the level or the random program; a level without three goals has none. -/
def programLine (s : Session) : Option Text :=
  match s.level with
  | some level =>
    match level.goals with
    | [gold, silver, bronze] =>
      some (entry "Level" (escape level.id) ++ Text.ofString "  " ++
        entry "Goals" (Text.ofString s!"{gold}/{silver}/{bronze}"))
    | _ => none
  | none =>
    let seed := (s.seed.map fun n => s!"{n}").getD "None"
    some (caption "Random program" ++ Text.ofString s!" (seed {seed})")

/-- The line of the hint, unless there is none. -/
def hintLines (hint : Text) : List Text :=
  if hint.isEmpty then [] else [within "italic" (escape hint)]

/-- The line of the open editor. -/
def editorLines (e : Editor) : List Text :=
  let line (mode use : String) :=
    within "yellow" (Text.ofString ("EDIT " ++ mode)) ++ Text.ofString " @ " ++
      Decimal.ofInt e.pointer ++ Text.ofString ("  arrows " ++ use)
  match e.mode with
  | .off => []
  | .grid => [line "grid" "move cursor"]
  | .cell => [line "cell" "toggle directions"]

/-- The line of a program that has ended. -/
def haltLines (s : Session) : List Text :=
  if s.machine.isHalted then
    let cycles := (s.machine.get .cyc).toNat
    match s.medal with
    | some medal =>
      let name := medal.name
      [within "bold green" (Text.ofString s!"HALTED in {cycles} cycles: {name}")]
    | none => [within "bold" (Text.ofString s!"HALTED in {cycles} cycles")]
  else []

/-- What there is to know; none if the level has not three goals. -/
def infoText (s : Session) : Option Text :=
  (programLine s).map fun first =>
    let directions := if s.bench.walker.enforce then "on" else "off"
    Text.joinLines (first :: entry "Directions" (Text.ofString directions) ::
      hintLines s.hint ++ editorLines s.bench.editor ++ haltLines s)

/-- The output panel: how many lines and exports of the session it has taken in, the sheets it has
filled, oldest first, and the sheet it writes on. -/
structure OutputLog where
  lines : Nat
  exports : Nat
  filled : List (List Text)
  current : List Text
deriving DecidableEq

namespace OutputLog

def empty : OutputLog := ⟨0, 0, [], []⟩

/-- How often the log has started over, which is also the number of the sheet it writes on. -/
def clears (o : OutputLog) : Nat := o.filled.length

/-- The lines of the sheet with the given number. -/
def sheet (o : OutputLog) (k : Nat) : List Text :=
  (o.filled ++ [o.current]).getD k []

/-- Starts over on an empty sheet. -/
def clear (o : OutputLog) : OutputLog :=
  { o with lines := 0, filled := o.filled ++ [o.current], current := [] }

end OutputLog

/-- An export as the panel shows it. -/
def exportLine (code : Text) : Text := Text.ofString "EXPORT " ++ code

/-- Takes in what is new in the session. -/
def OutputLog.refresh (o : OutputLog) (s : Session) : OutputLog :=
  let lines := s.outputLines
  let o := if lines.length < o.lines then o.clear else o
  { o with
    lines := lines.length
    exports := s.exports.length
    current := o.current ++ lines.drop o.lines ++ (s.exports.drop o.exports).map exportLine }

end CellWalk.Screen
