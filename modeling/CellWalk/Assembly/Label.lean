import CellWalk.Text.CharacterNames
import CellWalk.Text.Hex
import CellWalk.Text.Decimal

/-!
# Labels

A label stands between double quotes. A backslash starts an escape: a named control, up to three
octal digits, a number after `x`, `u` or `U`, which need two, four and eight digits, or the name of a
character in braces after `N`. Before a carriage return it joins the lines, and before anything else
it stands for itself. No escape joins two halves of a surrogate pair.
-/

namespace CellWalk.Assembly.Label
set_option autoImplicit false

/-- Why a quoted text is no label. -/
inductive Defect
  /-- A raw half of a surrogate pair. -/
  | surrogate
  /-- A raw zero. -/
  | zero
  /-- A malformed escape, or a raw carriage return. -/
  | malformed
deriving DecidableEq, Repr

def backslash : CodePoint := '\\'

/-- An octal digit. -/
def isOctal (p : CodePoint) : Bool := 48 ≤ p.val && p.val ≤ 55

/-- The control, quote or backslash that a single letter stands for. -/
def shortEscape? : Char → Option CodePoint
  | '\\' => some '\\'
  | '\'' => some '\''
  | '"' => some '"'
  | 'a' => some '\x07'
  | 'b' => some '\x08'
  | 'f' => some '\x0c'
  | 'n' => some '\n'
  | 'r' => some '\r'
  | 't' => some '\t'
  | 'v' => some '\x0b'
  | _ => none

/-- The number of hexadecimal digits that a letter asks for. -/
def hexDigits? : Char → Option Nat
  | 'x' => some 2
  | 'u' => some 4
  | 'U' => some 8
  | _ => none

variable [CharacterNames]

/-- The character whose name stands in braces at the start, and how much of the text they take. -/
def named? : Text → Option (CodePoint × Nat)
  | [] => none
  | p :: t =>
    let name := t.takeWhile (· != ('\x7d' : CodePoint))
    if p = '\x7b' ∧ name ≠ [] ∧ name.length < t.length then
      (CharacterNames.find? name).map fun c => (c, name.length + 2)
    else none

/-- What an escape stands for, given the text after its backslash, and how much of that text
belongs to it. -/
def escape (t : Text) : Option (Text × Nat) :=
  match t with
  | [] => none
  | p :: rest =>
    let octal := (t.take 3).takeWhile isOctal
    if octal ≠ [] then
      (CodePoint.ofNat? (octal.foldl (fun n d => 8 * n + (d.val - 48)) 0)).map
        fun c => ([c], octal.length)
    else
      match p.toChar? with
      | some 'N' => (named? rest).map fun r => ([r.1], r.2 + 1)
      | some '\r' => some ([], 1)
      | some c =>
        match shortEscape? c, hexDigits? c with
        | some e, _ => some ([e], 1)
        | none, some digits =>
          ((Hex.take? digits rest).bind fun r => CodePoint.ofNat? r.1).map
            fun e => ([e], digits + 1)
        | none, none => some ([backslash, p], 1)
      | none => some ([backslash, p], 1)

/-- The text between the quotes with its escapes replaced. -/
def unescape (t : Text) : Option Text :=
  match t with
  | [] => some []
  | p :: t =>
    if p = backslash then
      match escape t with
      | none => none
      | some (out, taken) => (unescape (t.drop taken)).map (out ++ ·)
    else if p = '\r' then none
    else (unescape t).map (p :: ·)
termination_by t.length
decreasing_by all_goals grind

/-- The label that a quoted text stands for. -/
def decode (quoted : Text) : Except Defect Text :=
  let inside := quoted.tail.dropLast
  if inside.any CodePoint.isSurrogate then .error .surrogate
  else if inside.any (·.val == 0) then .error .zero
  else
    match unescape inside with
    | some label => .ok label
    | none => .error .malformed

end CellWalk.Assembly.Label
