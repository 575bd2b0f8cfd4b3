import CellWalk.Screen.Markup
import CellWalk.Session.Basic

/-!
# Cells on the screen

A cell is drawn in two lines of five characters: its label between the marks of the ways left and
right, and its operand between the marks of the ways up and down. The debugger's cell shows its
register instead of the operand, and a test is green when it would let the debugger in.
-/

namespace CellWalk.Screen
set_option autoImplicit false

/-- The columns that a cell takes up, the gap to its right included. -/
def cellWidth : Nat := 6

/-- The lines that a cell takes up. -/
def cellHeight : Nat := 2

/-- The text and the colour of an operand. A number that is no register's offset shows its last
digits. -/
def operandText (opcode operand mode : Int) : Text × String :=
  let op := Opcode.ofCode? opcode
  if op = some .nop ∨ op = some .halt ∨ op = some .snd then ([], "white")
  else if mode = Instruction.addressMode.toNat ∨ op = some .swp ∨ op = some .set then
    match Register.ofOffset? operand with
    | some .dat => (Text.ofString "DAT", "yellow")
    | some .stk => (Text.ofString "STK", "magenta")
    | some r => (Text.ofString r.name, "white")
    | none =>
      let t := ('@' : CodePoint) :: Decimal.ofInt operand
      (t.drop (t.length - 3), "cyan")
  else (Decimal.ofInt operand, "white")

/-- A mark if the mask has the direction, else a blank. -/
def mark (dirs : UInt8) (d : Direction) (c : Char) : CodePoint :=
  if dirs &&& d.bit ≠ 0 then c else ' '

/-- What a cell shows: its two lines and their colours. -/
structure Face where
  top : Text
  bottom : Text
  colour : String
  valueColour : String
deriving DecidableEq

/-- The face of an empty cell. -/
def Face.empty : Face := ⟨Text.ofString "  ·  ", Text.ofString "     ", "grey23", "white"⟩

/-- The colour of a cell's label. -/
def labelColour (m : Machine) (index : Int) : String :=
  match m.op? index with
  | some .halt => "bold blue"
  | some .txt => "italic white"
  | some o => if o.isTest then if m.testPasses index then "green" else "red" else "grey70"
  | none => "grey70"

/-- The face of a cell that neither debugger nor cursor is on. -/
def face (m : Machine) (index : Int) : Face :=
  let r := m.instruction index
  if r.op? = some .nil then .empty
  else
    let label := (r.op?.map Opcode.label).getD "???"
    let (value, valueColour) := operandText r.opcode.toNat r.operand.toNat r.mode.toNat
    { top := mark r.dirs .left '<' :: Text.padRight 3 (Text.ofString label) ++
        [mark r.dirs .right '>']
      bottom := mark r.dirs .up '^' :: Text.padLeft 3 value ++ [mark r.dirs .down 'v']
      colour := labelColour m index
      valueColour := valueColour }

/-- The lower line of the debugger's cell. -/
def debuggerLine (m : Machine) : Text :=
  ('*' : CodePoint) :: Text.padLeft 3 (Decimal.ofNat (m.get .dbg).toNat) ++ [('*' : CodePoint)]

/-- The two lines of a cell as markup. -/
def renderCell (s : Session) (index : Int) : Text × Text :=
  let f := face s.machine index
  if index = s.machine.ip then
    let style := "bold black on bright_white"
    (styled style f.top, styled style (debuggerLine s.machine))
  else if s.bench.editor.active && index == s.bench.editor.pointer then
    (styled "black on yellow" f.top, styled "black on yellow" f.bottom)
  else (styled f.colour f.top, styled f.valueColour f.bottom)

/-- The cells of a row. -/
def rowCells (s : Session) (row : Nat) : List (Text × Text) :=
  (List.range s.machine.grid.cols).map fun col =>
    renderCell s (row * s.machine.grid.cols + col : Nat)

/-- The grid, two lines a row, with a gap between two cells. -/
def renderGrid (s : Session) : Text :=
  Text.joinLines ((List.range s.machine.grid.rows).flatMap fun row =>
    let cells := rowCells s row
    [Text.joinWords (cells.map (·.1)), Text.joinWords (cells.map (·.2))])

/-- The cell under a position on the screen, if the grid reaches as far to the right and down. -/
def cellAt? (g : Grid) (x y : Int) : Option Int :=
  let col := Int.fdiv x cellWidth
  let row := Int.fdiv y cellHeight
  if g.cols ≤ col ∨ g.rows ≤ row then none else some (row * g.cols + col)

end CellWalk.Screen
