import CellWalk.Text.Blank
import CellWalk.Text.Decimal
import CellWalk.Text.Pattern
import CellWalk.Text.Quoted
import CellWalk.Text.Runs

/-!
# Number lists

A level is passed around as a bracketed list of numbers. Reading is lenient: brackets may be
missing, and any mixture of blanks and commas separates the numbers.
-/

namespace CellWalk.Literal
set_option autoImplicit false

/-- A text that is no number list. -/
inductive Defect
  /-- Something else than digits, commas and blanks; the text's beginning is kept. -/
  | notNumbers (beginning : Text)
  /-- A number has too many digits to be read. -/
  | tooManyDigits (count : Nat)
deriving DecidableEq

/-- The number of code points that a message quotes. -/
def quotedLength : Nat := 40

def Defect.message : Defect → String
  | .notNumbers beginning => "Not a number list: " ++ Text.quoted beginning
  | .tooManyDigits count => Decimal.limitMessage count

/-- Texts joined by commas. -/
def joinCommas : List Text → Text
  | [] => []
  | [w] => w
  | w :: v :: ws => w ++ (',' : CodePoint) :: joinCommas (v :: ws)

/-- The list in brackets, separated by commas alone. -/
def format (values : List Int) : Text :=
  ('[' : CodePoint) :: joinCommas (values.map Decimal.ofInt) ++ [(']' : CodePoint)]

/-- What may stand between the brackets. -/
def isBody (p : CodePoint) : Bool := p.isDigit || p.isBlank || p == (',' : CodePoint)

/-- Blanks, as many as there are. -/
def blanks : Piece := ⟨CodePoint.isBlank, .most⟩

/-- A code point that may be missing. -/
def optional (q : CodePoint) : Piece := ⟨(· == q), .atMostOne⟩

/-- The numbers between brackets that may be missing, with blanks around each bracket and a comma before
the closing one. -/
def pattern : List Piece :=
  [blanks, optional '[', blanks, ⟨isBody, .fewest⟩, blanks, optional ',', blanks, optional ']', blanks]

/-- What the fourth piece takes: the text in which the numbers stand. -/
def body? (t : Text) : Option Text := (Pattern.firstMatch pattern t).bind fun taken => taken[3]?

/-- A comma separates numbers as a blank does. -/
def commaToBlank (p : CodePoint) : CodePoint := if p = (',' : CodePoint) then (' ' : CodePoint) else p

/-- The number that a run of digits denotes. -/
def number (ds : Text) : Except Defect Nat :=
  match Decimal.value? ds with
  | some n => .ok n
  | none => .error (.tooManyDigits ds.length)

/-- The numbers of a list. -/
def parse (t : Text) : Except Defect (List Nat) :=
  match body? t with
  | some inside => (Text.runs (fun p => !p.isBlank) (inside.map commaToBlank)).mapM number
  | none => .error (.notNumbers (t.take quotedLength))

end CellWalk.Literal
