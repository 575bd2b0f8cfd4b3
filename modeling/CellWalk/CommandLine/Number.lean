import CellWalk.Text.Blank
import CellWalk.Text.Decimal

/-!
# Numbers on a command line

A number may have a sign, blanks around it and single underscores between its digits, which may be
the decimal digits of any script. The information separators count as blanks elsewhere, but not
here.
-/

namespace CellWalk.CommandLine
set_option autoImplicit false

/-- The zeros of the scripts that have decimal digits; nine more digits follow each. -/
def zeros : List Nat := [
  0x30, 0x660, 0x6F0, 0x7C0, 0x966, 0x9E6, 0xA66, 0xAE6, 0xB66, 0xBE6, 0xC66, 0xCE6, 0xD66, 0xDE6,
  0xE50, 0xED0, 0xF20, 0x1040, 0x1090, 0x17E0, 0x1810, 0x1946, 0x19D0, 0x1A80, 0x1A90, 0x1B50,
  0x1BB0, 0x1C40, 0x1C50, 0xA620, 0xA8D0, 0xA900, 0xA9D0, 0xA9F0, 0xAA50, 0xABF0, 0xFF10, 0x104A0,
  0x10D30, 0x11066, 0x110F0, 0x11136, 0x111D0, 0x112F0, 0x11450, 0x114D0, 0x11650, 0x116C0,
  0x11730, 0x118E0, 0x11950, 0x11C50, 0x11D50, 0x11DA0, 0x16A60, 0x16AC0, 0x16B50, 0x1D7CE,
  0x1D7D8, 0x1D7E2, 0x1D7EC, 0x1D7F6, 0x1E140, 0x1E2F0, 0x1E950, 0x1FBF0]

/-- The value of a decimal digit. -/
def digit? (p : CodePoint) : Option Nat :=
  (zeros.find? fun z => z ≤ p.val && p.val ≤ z + 9).map (p.val - ·)

/-- A blank around a number. -/
def isMargin (p : CodePoint) : Bool := p.isBlank && !(0x1C ≤ p.val && p.val ≤ 0x1F)

/-- The values of digits with single underscores between them. -/
def digits? : Text → Option (List Nat)
  | [] => none
  | [p] => (digit? p).map ([·])
  | p :: q :: t =>
    match digit? p with
    | none => none
    | some d => if q = '_' then (digits? t).map (d :: ·) else (digits? (q :: t)).map (d :: ·)

/-- A number without sign, unless it has too many digits. -/
def natural? (t : Text) : Option Nat :=
  match digits? t with
  | none => none
  | some ds =>
    if ds.length ≤ Decimal.maxDigits then some (ds.foldl (fun n d => 10 * n + d) 0) else none

/-- A number. -/
def integer? (t : Text) : Option Int :=
  match ((t.dropWhile isMargin).reverse.dropWhile isMargin).reverse with
  | [] => none
  | p :: t =>
    if p = '-' then (natural? t).map fun n => -(n : Int)
    else if p = '+' then (natural? t).map Int.ofNat
    else (natural? (p :: t)).map Int.ofNat

/-- Whether an argument that starts with a dash is a negative number: digits, or a point with
digits after it; a line feed may follow. -/
def looksNegative (t : Text) : Bool :=
  let isDigit (p : CodePoint) : Bool := (digit? p).isSome
  match t with
  | [] => false
  | p :: t =>
    let rest := t.dropWhile isDigit
    let ends (t : Text) : Bool := t.isEmpty || t == [('\n' : CodePoint)]
    p = ('-' : CodePoint) &&
      (match t, rest with
      | d :: _, _ => isDigit d && ends rest
      | _, _ => false) ||
    p = ('-' : CodePoint) &&
      (match rest with
      | point :: d :: t => point == ('.' : CodePoint) && isDigit d && ends (t.dropWhile isDigit)
      | _ => false)

end CellWalk.CommandLine
