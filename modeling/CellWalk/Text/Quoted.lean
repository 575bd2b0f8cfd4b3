import CellWalk.Text.Printable
import CellWalk.Text.Hex

/-!
# Quoted text

How a message shows a piece of input: between quotes, with the quote and the backslash escaped
and everything unprintable written as a number. The quote is `'`, or `"` where that spares the
text's only kind of quote an escape.
-/

namespace CellWalk.Text
set_option autoImplicit false

/-- The quote around a text: the double one only when the text has single quotes alone. -/
def quoteFor (t : Text) : Char :=
  if t.contains ('\'' : CodePoint) && !t.contains ('"' : CodePoint) then '"' else '\''

/-- One code point inside quotes. -/
def quotedPoint (quote : Char) (p : CodePoint) : List Char :=
  if p.val < 0x80 then
    match p.toChar? with
    | some '\n' => ['\\', 'n']
    | some '\r' => ['\\', 'r']
    | some '\t' => ['\\', 't']
    | some c =>
      if c = quote || c = '\\' then ['\\', c]
      else if p.isPrintable then [c]
      else '\\' :: 'x' :: Hex.ofNat 2 p.val
    | none => []
  else match p.isPrintable, p.toChar? with
    | true, some c => [c]
    | _, _ =>
      if p.val < 0x100 then '\\' :: 'x' :: Hex.ofNat 2 p.val
      else if p.val < 0x10000 then '\\' :: 'u' :: Hex.ofNat 4 p.val
      else '\\' :: 'U' :: Hex.ofNat 8 p.val

def quoted (t : Text) : String :=
  let quote := quoteFor t
  String.ofList (quote :: t.flatMap (quotedPoint quote) ++ [quote])

end CellWalk.Text
