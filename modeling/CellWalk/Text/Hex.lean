import CellWalk.Text.CodePoint

/-!
# Hexadecimal numbers

Escapes and byte dumps write a number in base sixteen with a fixed number of digits.
-/

namespace CellWalk.Hex
set_option autoImplicit false

/-- At least `width` lower-case digits. -/
def ofNat (width n : Nat) : List Char :=
  let ds := Nat.toDigits 16 n
  List.replicate (width - ds.length) '0' ++ ds

/-- The value of a hexadecimal digit in either case. -/
def digit? (p : CodePoint) : Option Nat :=
  if p.isDigit then some (p.val - 48)
  else if 65 ≤ p.val && p.val ≤ 70 then some (p.val - 55)
  else if 97 ≤ p.val && p.val ≤ 102 then some (p.val - 87)
  else none

/-- The number in the first `count` places, all of them digits, and what follows them. -/
def take? (count : Nat) (t : Text) : Option (Nat × Text) :=
  let front := t.take count
  if front.length = count then
    (front.mapM digit?).map fun ds => (ds.foldl (16 * · + ·) 0, t.drop count)
  else none

end CellWalk.Hex
