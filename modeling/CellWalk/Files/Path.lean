import CellWalk.Text.CodePoint

/-!
# Paths

A path is the list of its parts; empty parts and single dots are dropped, double dots stay. A
leading slash makes it absolute, and exactly two of them are kept as two. The empty path is
written as a dot.
-/

namespace CellWalk
set_option autoImplicit false

structure Path where
  /-- How many slashes it starts with: none, one or two. -/
  slashes : Nat
  parts : List Text
deriving DecidableEq

namespace Path

def slash : CodePoint := '/'

def dot : CodePoint := '.'

/-- The part that leads back. -/
def up : Text := [dot, dot]

/-- The parts of a text between slashes. -/
def split (t : Text) : List Text :=
  match t with
  | [] => [[]]
  | p :: t =>
    if p = slash then [] :: split t
    else
      match split t with
      | [] => [[p]]
      | part :: parts => (p :: part) :: parts

def ofText (t : Text) : Path :=
  let slashes := (t.takeWhile (· == slash)).length
  ⟨if slashes ≤ 2 then slashes else 1, (split t).filter fun p => !p.isEmpty && p != [dot]⟩

/-- Parts with slashes between them. -/
def join : List Text → Text
  | [] => []
  | [p] => p
  | p :: q :: ps => p ++ slash :: join (q :: ps)

/-- The path in its shortest spelling. -/
def text (p : Path) : Text :=
  if p.slashes = 0 ∧ p.parts = [] then [dot] else List.replicate p.slashes slash ++ join p.parts

def isAbsolute (p : Path) : Bool := 0 < p.slashes

/-- The last part. -/
def name (p : Path) : Text := p.parts.getLast?.getD []

/-- A name without its last suffix. A dot that starts or ends the name starts no suffix. -/
def stemOf (name : Text) : Text :=
  let suffix := name.reverse.takeWhile (· != dot)
  let before := name.length - suffix.length
  if suffix.isEmpty || before ≤ 1 then name else name.take (before - 1)

def stem (p : Path) : Text := stemOf p.name

/-- The path of an entry of this directory. -/
def child (p : Path) (name : Text) : Path := { p with parts := p.parts ++ [name] }

/-- The directory that a path's entry lies in. -/
def parent (p : Path) : Path := { p with parts := p.parts.dropLast }

end Path

end CellWalk
