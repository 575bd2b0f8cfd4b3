import CellWalk.Text.Hex

/-!
# JSON strings

A string is written in ASCII alone: quotes, backslashes and the five named controls by a short
escape, everything else outside the space to the tilde by `\u` and four digits, and a code point
above U+FFFF by the two halves of its surrogate pair. Reading joins such a pair again, so a text
without halves comes back as it was.
-/

namespace CellWalk.Json
set_option autoImplicit false

/-- The escape `\u` of a number below `0x10000`. -/
def unitEscape (n : Nat) : Text := Text.ofChars ('\\' :: 'u' :: Hex.ofNat 4 n)

/-- One code point inside a written string. -/
def escape (p : CodePoint) : Text :=
  if 0x20 ≤ p.val ∧ p.val ≤ 0x7E ∧ p.val ≠ 0x22 ∧ p.val ≠ 0x5C then [p]
  else if p.val = 0x22 ∨ p.val = 0x5C then [('\\' : CodePoint), p]
  else if p.val = 0x0A then "\\n"
  else if p.val = 0x0D then "\\r"
  else if p.val = 0x09 then "\\t"
  else if p.val = 0x0C then "\\f"
  else if p.val = 0x08 then "\\b"
  else if p.val < 0x10000 then unitEscape p.val
  else
    unitEscape (0xD800 + (p.val - 0x10000) / 0x400) ++
      unitEscape (0xDC00 + (p.val - 0x10000) % 0x400)

/-- The text as a JSON string, quotes included. -/
def quote (t : Text) : Text := ('"' : CodePoint) :: t.flatMap escape ++ [('"' : CodePoint)]

/-- The code point of a one-letter escape. -/
def shortEscape? : Char → Option CodePoint
  | '"' => some '"'
  | '\\' => some '\\'
  | '/' => some '/'
  | 'n' => some '\n'
  | 'r' => some '\r'
  | 't' => some '\t'
  | 'f' => some '\x0c'
  | 'b' => some '\x08'
  | _ => none

def isHighHalf (n : Nat) : Bool := 0xD800 ≤ n && n < 0xDC00
def isLowHalf (n : Nat) : Bool := 0xDC00 ≤ n && n < 0xE000

/-- The code point of which `high` and `low` are the halves. -/
def joinHalves (high low : Nat) : CodePoint :=
  .ofNat (0x10000 + (high - 0xD800) * 0x400 + (low - 0xDC00))

end CellWalk.Json
