import CellWalk.Code.RunLength
import CellWalk.Code.Literal
import CellWalk.Layout

/-!
# Level codes

A level code is the number list of an image's run-length pairs. What is exported starts from
scratch: the cycle counter is 0 and the program runs.
-/

namespace CellWalk.LevelCode
set_option autoImplicit false

/-- A text that is no level code. -/
inductive Defect
  | literal (d : Literal.Defect)
  | runs (d : RunLength.Defect)
deriving DecidableEq

def Defect.message? : Defect → Option String
  | .literal d => some d.message
  | .runs d => d.message?

/-- The image with cycles and status reset; none if it is too short to have them. -/
def export? (m : Image) : Option Image :=
  if Register.cyc.address < m.length then
    some ((m.set Register.cyc.address 0).set Register.sta.address 0)
  else none

/-- The level code of an image as it is. -/
def ofImage (m : Image) : Text := Literal.format (RunLength.encode m)

/-- The level code of the exported image. -/
def encode? (m : Image) : Option Text := (export? m).map ofImage

/-- The image of a level code. -/
def decode (t : Text) : Except Defect Image :=
  match Literal.parse t with
  | .error d => .error (.literal d)
  | .ok values =>
    match RunLength.decode (values.map Int.ofNat) with
    | .error d => .error (.runs d)
    | .ok m => .ok m

end CellWalk.LevelCode
