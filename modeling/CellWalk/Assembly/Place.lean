import CellWalk.Assembly.Lexeme

/-!
# Places in a program text

A reader knows how much text is left; a message names a line and a column, both counted from 1, and
quotes the surroundings. Only line feeds end a line here. Text that ends too early has no place:
its line and column are -1. What follows a semicolon in a string may be taken for a comment as well;
an unexpected lexeme under such a comment is told where the comment ends (`giveUp`).
-/

namespace CellWalk.Assembly
set_option autoImplicit false

structure Place where
  line : Int
  column : Int
deriving DecidableEq, Repr

/-- Line and column right after a piece of text that starts at the given ones. -/
def Place.after (start : Place) : Text → Place
  | [] => start
  | p :: t =>
    if p = Text.newline then Place.after ⟨start.line + 1, 1⟩ t
    else Place.after ⟨start.line, start.column + 1⟩ t

namespace Place

/-- The place of a program text's end when more was awaited. -/
def atEnd : Place := ⟨-1, -1⟩

/-- The place before the last `left` code points. -/
def of (text : Text) (left : Nat) : Place :=
  after ⟨1, 1⟩ (text.take (text.length - left))

end Place

/-- The width of a text whose tabs reach to the next multiple of 8, starting at a column; a
carriage return starts the columns over. -/
def expandedWidth (column : Nat) : Text → Nat
  | [] => 0
  | p :: t =>
    if p = '\t' then
      let step := 8 - column % 8
      step + expandedWidth (column + step) t
    else if p = Text.carriageReturn ∨ p = Text.newline then 1 + expandedWidth 0 t
    else 1 + expandedWidth (column + 1) t

/-- How much of its line a comment still covers that seems to start inside an earlier string of
that line. No other semicolon can stand on the line before the last `left` code points. -/
def commentAhead (text : Text) (left : Nat) : Nat :=
  let position := text.length - left
  if (';' : CodePoint) ∈ Text.lastLine (text.take position) then
    (Text.firstLine (text.drop position)).length
  else 0

/-- Where an unexpected lexeme is told: right there, unless layout seems to go on over it. Then it
is told with the last code point of that layout, and any layout that starts on the way prolongs
it. `ahead` is how far the layout reaches. -/
def giveUp (ahead : Nat) : Text → Text
  | [] => []
  | p :: t =>
    let ahead := max ahead (layoutLength (p :: t))
    if ahead ≤ 1 then p :: t else giveUp (ahead - 1) t

/-- How much of the text a message shows on either side of a place. -/
def contextSpan : Nat := 40

/-- The line of a place with a caret under it. At the end of the text the line is the last one
without its last code point, and that one follows only in a short text. -/
def context (text : Text) (left : Nat) : Text :=
  let position := text.length - left
  let (before, after) :=
    if left = 0 then
      (text.dropLast, if text.length < contextSpan then text.drop (text.length - 1) else [])
    else
      ((text.take position).drop (position - contextSpan), (text.drop position).take contextSpan)
  let before := Text.lastLine before
  before ++ Text.firstLine after ++ Text.newline ::
    (List.replicate (expandedWidth 0 before) (' ' : CodePoint) ++ Text.ofString "^\n")

end CellWalk.Assembly
