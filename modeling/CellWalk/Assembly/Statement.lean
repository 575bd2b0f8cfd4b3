import CellWalk.Assembly.Form
import CellWalk.Assembly.Label
import CellWalk.Assembly.Place
import CellWalk.Text.Decimal
import CellWalk.Text.Quoted

/-!
# Statements

A statement is a form with its numbers, names and labels interpreted. `parse` refuses a program
with the first fault of the text, in the order in which its parts stand; only a program without
any unexpected lexeme is interpreted at all.
-/

namespace CellWalk.Assembly
set_option autoImplicit false

/-- Why a program is refused at a place. -/
inductive Refusal
  | unexpected (context : Text)
  | notAByte (value : Nat)
  | stackAsRegister
  | stackTooLong
  | offsetOutside (offset size : Nat)
  | cellOutside (row col : Nat) (cols rows : Int)
  | indexOutside (index : Nat) (cols rows : Int)
  | cellTwice (index : Int)
deriving DecidableEq

def Refusal.message : Refusal → String
  | .unexpected context => "unexpected input " ++ Text.quoted (Text.trim context)
  | .notAByte value => s!"value {value} does not fit in a byte"
  | .stackAsRegister => "STK is not a register, use .stack"
  | .stackTooLong => s!"stack holds {stackSlots} values"
  | .offsetOutside offset size => s!"offset {offset} is outside memory ({size} bytes)"
  | .cellOutside row col cols rows => s!"cell {row},{col} is outside the {cols}x{rows} grid"
  | .indexOutside index cols rows => s!"cell {index} is outside the {cols}x{rows} grid"
  | .cellTwice index => s!"cell {index} defined twice"

/-- What is wrong with a program text, with places of some kind. Beside the refusals, which have a
place, some texts break the interpretation of a lexeme, and some grids have no image or one that
is too small. -/
inductive Fault (π : Type)
  | refused (refusal : Refusal) (place : π)
  | label (defect : Label.Defect)
  | tooManyDigits
  | unknownName
  | size (defect : Size.Defect)
  | stackOutside
deriving DecidableEq

/-- What is told about a fault; one inside a lexeme is never told. -/
def Fault.message? : Fault Place → Option String
  | .refused refusal place =>
    some (s!"line {place.line}, column {place.column}: " ++ refusal.message)
  | .size .negative => some "negative count"
  | _ => none

/-- The same fault with its place told in another way. -/
def Fault.map {p q : Type} (f : p → q) : Fault p → Fault q
  | .refused refusal place => .refused refusal (f place)
  | .label defect => .label defect
  | .tooManyDigits => .tooManyDigits
  | .unknownName => .unknownName
  | .size defect => .size defect
  | .stackOutside => .stackOutside

/-- Where a cell lies. -/
inductive Position
  | flat (index : Nat)
  | grid (row col : Nat)
deriving DecidableEq, Repr

/-- A statement. `left` is the place to blame if the image has no room for it. -/
inductive Statement
  | id (name : Text)
  | cycles (gold silver bronze : Nat)
  | label (text : Text)
  | stack (values : List UInt8)
  | byte (offset : Nat) (value : UInt8) (left : Nat)
  | cell (position : Position) (record : Instruction) (left : Nat)
deriving DecidableEq

/-- The result of interpreting a part of a form; the place of a fault is how much text is left. -/
abbrev Interpreted := Except (Fault Nat)

def Token.number (tok : Token) : Interpreted Nat :=
  match Decimal.value? tok.text with
  | some n => .ok n
  | none => .error .tooManyDigits

/-- The number as a byte. -/
def Token.byte (tok : Token) : Interpreted UInt8 := do
  let n ← tok.number
  if n ≤ 255 then return UInt8.ofNat n else throw (.refused (.notAByte n) tok.left)

/-- A letter in upper case. The long s and the dotless small i have ASCII capitals; the dotted
capital and the kelvin sign are capitals of their own and match no name. -/
def upper? (p : CodePoint) : Option Char :=
  if p.val = 0x17F then some 'S'
  else if p.val = 0x131 then some 'I'
  else p.toChar?.map Char.toUpper

/-- The name that a lexeme spells in upper case. -/
def Token.upperName? (tok : Token) : Option String := (tok.text.mapM upper?).map String.ofList

def Token.opcode (tok : Token) : Interpreted Opcode :=
  match tok.upperName?.bind Opcode.ofMnemonic? with
  | some o => .ok o
  | none => .error .unknownName

def Token.register (tok : Token) : Interpreted Register :=
  match tok.upperName?.bind Register.ofName? with
  | some r => .ok r
  | none => .error .unknownName

/-- The bits of the directions that the letters name. -/
def Token.mask (tok : Token) : UInt8 :=
  tok.text.foldl (fun mask p =>
    match (upper? p).bind Direction.ofLetter? with
    | some d => mask ||| d.bit
    | none => mask) 0

def PositionForm.interpret : PositionForm → Interpreted Position
  | .flat index => return .flat (← index.number)
  | .grid row col => return .grid (← row.number) (← col.number)

/-- The lexeme that a position starts with. -/
def PositionForm.first : PositionForm → Token
  | .flat index => index
  | .grid row _ => row

/-- The value and the mode of an operand. -/
def OperandForm.interpret : OperandForm → Interpreted (UInt8 × UInt8)
  | .immediate value => return (← value.byte, Instruction.immediateMode)
  | .address value => return (← value.byte, Instruction.addressMode)
  | .register name => return ((← name.register).offset, Instruction.addressMode)

/-- The value and the mode of an operand that may be missing. -/
def interpretOperand : Option OperandForm → Interpreted (UInt8 × UInt8)
  | some operand => operand.interpret
  | none => return (0, Instruction.immediateMode)

/-- The mask of a cell; without letters it is empty. -/
def interpretMask : Option (Option Token) → UInt8
  | some (some letters) => letters.mask
  | _ => 0

def RecordForm.interpret : RecordForm → Interpreted Instruction
  | .instruction opcode operand mask => do
    let (value, mode) ← interpretOperand operand
    let o ← opcode.opcode
    return ⟨o.code, value, mode, interpretMask mask⟩
  | .raw opcode operand mode dirs =>
    return ⟨← opcode.byte, ← operand.byte, ← mode.byte, ← dirs.byte⟩

/-- The values of the stack, unless there are more than it has slots. -/
def interpretStack (values : List Token) : Interpreted (List UInt8) :=
  match values[stackSlots]? with
  | some tok => throw (.refused .stackTooLong tok.left)
  | none => values.mapM Token.byte

variable [CharacterNames]

def Form.interpret : Form → Interpreted Statement
  | .id name => return .id name.text
  | .cycles gold silver bronze =>
    return .cycles (← gold.number) (← silver.number) (← bronze.number)
  | .label text =>
    match Label.decode text.text with
    | .ok decoded => .ok (.label decoded)
    | .error defect => .error (.label defect)
  | .register name value => do
    let r ← name.register
    if r = .stk then throw (.refused .stackAsRegister name.left)
    return .byte r.address (← value.byte) name.left
  | .stack values => return .stack (← interpretStack values)
  | .byte offset value => return .byte (← offset.number) (← value.byte) offset.left
  | .cell position record =>
    return .cell (← position.interpret) (← record.interpret) position.first.left

/-- An unexpected lexeme as a fault of the whole text. -/
def Unexpected.within (text : Text) (e : Unexpected) : Fault Place :=
  let left := (giveUp (commentAhead text e.left) (text.drop (text.length - e.left))).length
  .refused (.unexpected (context text left)) (if left = 0 then .atEnd else .of text left)

/-- The statements of a program text. -/
def parse (text : Text) : Except (Fault Place) (List Statement) :=
  match readForms text with
  | .error e => .error (e.within text)
  | .ok forms =>
    match forms.mapM Form.interpret with
    | .error e => .error (e.map (Place.of text))
    | .ok statements => .ok statements

end CellWalk.Assembly
