import CellWalk.Text.Decimal
import CellWalk.Text.Lines

/-!
# Defects of JSON documents

A document that cannot be read has a first defect: a complaint about a place, a number with too many
digits, or values nested too deeply. A place is told by line, column and offset.
-/

namespace CellWalk.Json
set_option autoImplicit false

/-- What is wrong at a place. -/
inductive Complaint
  | noValue
  | noName
  | noColon
  | noComma
  | unterminated
  | control
  | escape
  | unit
  | trailing
  | mark
deriving DecidableEq, Repr

def Complaint.text : Complaint → String
  | .noValue => "Expecting value"
  | .noName => "Expecting property name enclosed in double quotes"
  | .noColon => "Expecting ':' delimiter"
  | .noComma => "Expecting ',' delimiter"
  | .unterminated => "Unterminated string starting at"
  | .control => "Invalid control character at"
  | .escape => "Invalid \\escape"
  | .unit => "Invalid \\uXXXX escape"
  | .trailing => "Extra data"
  | .mark => "Unexpected UTF-8 BOM (decode using utf-8-sig)"

/-- Why a document cannot be read. -/
inductive Defect
  /-- The complaint is about the code point from which on `left` code points are left. -/
  | complaint (what : Complaint) (left : Nat)
  | tooManyDigits (count : Nat)
  | tooDeep
deriving DecidableEq, Repr

/-- What is told about a defect of the document; the depth of values is never told. -/
def Defect.message? (document : Text) : Defect → Option String
  | .complaint what left =>
    let offset := document.length - left
    let before := document.take offset
    let line := before.count Text.newline + 1
    let column := (Text.lastLine before).length + 1
    some (what.text ++ s!": line {line} column {column} (char {offset})")
  | .tooManyDigits count => some (Decimal.limitMessage (some count))
  | .tooDeep => none

end CellWalk.Json
