import CellWalk.Byte

/-!
# Directions

The four ways out of a cell, each with a bit in a cell's direction mask. A direction may come in
as any number; only the four bits name a direction, and a mask is compared with the number's low
eight bits.
-/

namespace CellWalk
set_option autoImplicit false

inductive Direction
  | up
  | down
  | left
  | right
deriving DecidableEq, Repr, Inhabited

namespace Direction

/-- The four directions in the order in which a mask is written. -/
def all : List Direction := [.up, .down, .left, .right]

/-- The direction's bit in a mask. -/
def bit : Direction → UInt8
  | .right => 1
  | .down => 2
  | .left => 4
  | .up => 8

def letter : Direction → Char
  | .up => 'U'
  | .down => 'D'
  | .left => 'L'
  | .right => 'R'

/-- The name of the direction in commands. -/
def name : Direction → String
  | .up => "up"
  | .down => "down"
  | .left => "left"
  | .right => "right"

def opposite : Direction → Direction
  | .up => .down
  | .down => .up
  | .left => .right
  | .right => .left

/-- The direction whose bit this number is. -/
def ofCode? (code : Int) : Option Direction :=
  all.find? fun d => (d.bit.toNat : Int) == code

/-- The direction that this letter names, in upper case. -/
def ofLetter? (c : Char) : Option Direction := all.find? fun d => d.letter == c

theorem ofCode?_bit (d : Direction) : ofCode? (d.bit.toNat : Int) = some d := by
  cases d <;> decide

end Direction

/-- Whether a mask and a number have a bit in common. -/
def sharesBit (mask : UInt8) (code : Int) : Bool := mask &&& lowByte code != 0

/-- The letters of the directions in a mask. -/
def maskLetters (mask : Int) : List Char :=
  (Direction.all.filter fun d => sharesBit d.bit mask).map Direction.letter

end CellWalk
