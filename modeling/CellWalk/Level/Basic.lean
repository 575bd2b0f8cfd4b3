import CellWalk.Code.LevelCode

/-!
# Levels

A level is a program with an id, cycle goals for the three medals and labels for its notes. The
catalogue of levels is a list played in order; where two levels share an id, the first one counts.
-/

namespace CellWalk
set_option autoImplicit false

inductive Medal
  | gold
  | silver
  | bronze
deriving DecidableEq, Repr

def Medal.name : Medal → String
  | .gold => "gold"
  | .silver => "silver"
  | .bronze => "bronze"

/-- The medals, best first. -/
def Medal.all : List Medal := [.gold, .silver, .bronze]

structure Level where
  id : Text
  goals : List Int
  program : Image
  labels : List Text
deriving DecidableEq

/-- What is shown instead of a label that a level lacks. -/
def missingLabel (index : Int) : Text :=
  Text.ofString "<missing label " ++ Decimal.ofInt index ++ [('>' : CodePoint)]

namespace Level

/-- The level's code. -/
def encoded (l : Level) : Text := LevelCode.ofImage l.program

/-- The best medal whose goal the cycles meet. -/
def medal (l : Level) (cycles : Int) : Option Medal :=
  ((Medal.all.zip l.goals).find? fun goal => cycles ≤ goal.2).map (·.1)

/-- The label with this number. -/
def label (l : Level) (index : Int) : Text :=
  if index < 0 then missingLabel index else l.labels.getD index.toNat (missingLabel index)

end Level

/-- An id that no level of a catalogue has. -/
structure UnknownLevel where
  id : Text
deriving DecidableEq

/-- How it is told that no level has an id. -/
def UnknownLevel.messageFor (id : String) : String := "No level named " ++ id

def UnknownLevel.message (e : UnknownLevel) : String := messageFor (Text.quoted e.id)

/-- The first level with the id. -/
def findLevel (levels : List Level) (id : Text) : Except UnknownLevel Level :=
  match levels.find? fun l => l.id == id with
  | some l => .ok l
  | none => .error ⟨id⟩

/-- The level after the first one with the id. -/
def nextLevel? (levels : List Level) (id : Text) : Option Level :=
  (levels.dropWhile fun l => l.id != id).tail.head?

end CellWalk
