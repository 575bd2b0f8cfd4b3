import CellWalk.Text.CodePoint

/-!
# Lines and columns

A text file may end its lines with a carriage return, a line feed or both; a program is read with
every line end turned into one line feed. What a command tells is cut into lines at every line
boundary there is (`splitLines`). Listings and panels are lines of words, some of them padded to
a width.
-/

namespace CellWalk.Text
set_option autoImplicit false

def newline : CodePoint := '\n'
def carriageReturn : CodePoint := '\r'

/-- Every line end as one line feed. -/
def unifyLines : Text → Text
  | [] => []
  | [p] => [if p = carriageReturn then newline else p]
  | p :: q :: t =>
    if p = carriageReturn then
      if q = newline then newline :: unifyLines t else newline :: unifyLines (q :: t)
    else p :: unifyLines (q :: t)

/-- A line or paragraph end, a page or column feed, or a separator of records. -/
def isBoundary (p : CodePoint) : Bool :=
  (0x0A ≤ p.val && p.val ≤ 0x0D) || (0x1C ≤ p.val && p.val ≤ 0x1E) || p.val == 0x85 ||
    p.val == 0x2028 || p.val == 0x2029

/-- The lines of a text without their boundaries. A carriage return and a line feed after it are one
boundary, and what follows the last boundary is a line only if there is something. -/
def splitLines : Text → List Text
  | [] => []
  | p :: t =>
    if p = carriageReturn ∧ t.head? = some newline then splitLines t
    else if isBoundary p then [] :: splitLines t
    else
      match splitLines t with
      | [] => [[p]]
      | l :: ls => (p :: l) :: ls

/-- What follows the last line feed. -/
def lastLine (t : Text) : Text := (t.reverse.takeWhile (· != newline)).reverse

/-- What precedes the first line feed. -/
def firstLine (t : Text) : Text := t.takeWhile (· != newline)

/-- Lines joined by line feeds, none after the last. -/
def joinLines : List Text → Text
  | [] => []
  | [l] => l
  | l :: m :: ls => l ++ newline :: joinLines (m :: ls)

/-- Texts joined by single spaces. -/
def joinWords : List Text → Text
  | [] => []
  | [w] => w
  | w :: v :: ws => w ++ (' ' : CodePoint) :: joinWords (v :: ws)

/-- Blanks on the left up to the given width. -/
def padLeft (width : Nat) (t : Text) : Text :=
  List.replicate (width - t.length) (' ' : CodePoint) ++ t

/-- Blanks on the right up to the given width. -/
def padRight (width : Nat) (t : Text) : Text :=
  t ++ List.replicate (width - t.length) (' ' : CodePoint)

end CellWalk.Text
