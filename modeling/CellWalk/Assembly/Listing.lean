import CellWalk.Json.Quote
import CellWalk.Text.Decimal
import CellWalk.Text.Lines
import CellWalk.Layout

/-!
# Listings

A listing is program text that describes a given memory image. Registers, stray bytes and the used
part of the stack come first, then every cell that is not blank, by row and column. A record that
no mnemonic describes is given as raw bytes.
-/

namespace CellWalk.Assembly
set_option autoImplicit false

/-- Why an image has no listing. -/
inductive ListingError
  | size (expected cols rows : Int) (got : Nat)
  /-- The size that the image should have has too many digits to be told. -/
  | hugeSize
  /-- Goals are given, but not three of them. -/
  | goals
  /-- The grid has fewer than no cells, and the image not even all registers. -/
  | noRegisters
deriving DecidableEq, Repr

def ListingError.message? : ListingError → Option String
  | .size expected cols rows got =>
    some s!"Expected {expected} bytes for a {cols}x{rows} grid, got {got}"
  | .hugeSize => some (Decimal.limitMessage none)
  | _ => none

/-- What a listing says beside the image. -/
structure Heading where
  id : Option Text
  goals : List Int
  labels : List Text
deriving DecidableEq

def byteText (b : UInt8) : Text := Decimal.ofNat b.toNat

/-- The operand of an instruction; an immediate 0 is left out. -/
def operandText (operand mode : UInt8) : List Text :=
  if mode = Instruction.addressMode then
    match Register.ofOffset? operand.toNat with
    | some r => [r.name]
    | none => [('@' : CodePoint) :: byteText operand]
  else if operand = 0 then []
  else [('#' : CodePoint) :: byteText operand]

/-- The mask of an instruction; an empty one is left out. -/
def maskText (dirs : UInt8) : List Text :=
  if dirs = 0 then [] else [Text.ofChars ('[' :: maskLetters dirs.toNat ++ [']'])]

/-- Whether a record can be given by a mnemonic: its opcode is known, its mode is one of the two
and its mask has no other bits. -/
def isPlain (r : Instruction) : Bool :=
  r.op?.isSome && (r.mode == Instruction.immediateMode || r.mode == Instruction.addressMode) &&
    r.dirs ≤ 15

/-- A record in program text. -/
def instructionText (r : Instruction) : Text :=
  match if isPlain r then r.op? else none with
  | some o =>
    Text.joinWords (Text.ofString o.mnemonic :: operandText r.operand r.mode ++ maskText r.dirs)
  | none => Text.joinWords (Text.ofString "DB" :: r.toBytes.map byteText)

/-- The text of four bytes, none for any other number of them. -/
def instructionText? (bytes : List UInt8) : Option Text :=
  if bytes.length = Instruction.width then (Instruction.ofBytes? bytes).map instructionText
  else none

/-- The lines of id, goals and labels. -/
def headingLines (h : Heading) : Except ListingError (List Text) := do
  let id : List Text := match h.id with
    | some name => if name.isEmpty then [] else [Text.ofString ".id " ++ name]
    | none => []
  let goals : List Text ← match h.goals with
    | [] => pure []
    | gold :: silver :: bronze :: _ =>
      pure [Text.joinWords (Text.ofString ".cycles" :: [gold, silver, bronze].map Decimal.ofInt)]
    | _ => throw .goals
  return id ++ goals ++ h.labels.map fun l => Text.ofString ".label " ++ Json.quote l

/-- The lines of the registers that are not 0. -/
def registerLines (m : Image) : List Text :=
  Register.plain.flatMap fun r =>
    let b := m.getD r.address 0
    if b = 0 then []
    else [Text.joinWords [Text.ofString ".reg", Text.ofString r.name, byteText b]]

/-- The lines of the stray bytes that are not 0. -/
def looseLines (m : Image) : List Text :=
  looseOffsets.flatMap fun a =>
    let b := m.getD a 0
    if b = 0 then []
    else [Text.joinWords [Text.ofString ".byte", Decimal.ofNat a, byteText b]]

/-- The stack's slots up to the last one that is not 0. -/
def usedStack (m : Image) : List UInt8 :=
  (((m.drop stackBase).take stackSlots).reverse.dropWhile (· == 0)).reverse

/-- The line of the stack, if it is used. -/
def stackLines (m : Image) : List Text :=
  match usedStack m with
  | [] => []
  | values => [Text.joinWords (Text.ofString ".stack" :: values.map byteText)]

/-- The line of a cell, if it is not blank. -/
def cellLines (m : Image) (cols : Int) (index : Nat) : List Text :=
  match Instruction.ofBytes? (m.drop (programBase + index * Instruction.width)) with
  | none => []
  | some r =>
    if r = .blank then []
    else
      [Decimal.ofInt (Int.fdiv index cols) ++ (',' : CodePoint) ::
        (Decimal.ofInt (Int.fmod index cols) ++ Text.ofString ": " ++ instructionText r)]

/-- The first line: what the listing describes. -/
def titleLine (cols rows : Int) : Text :=
  Text.ofString s!"; bughop program, {cols}x{rows}"

/-- How it is told that an image does not have the size that its grid asks for. -/
def sizeError (expected cols rows : Int) (got : Nat) : ListingError :=
  if (Decimal.ofNat expected.natAbs).length ≤ Decimal.maxDigits then .size expected cols rows got
  else .hugeSize

/-- The listing of an image for a grid of the given shape. -/
def disassemble (m : Image) (cols rows : Int) (h : Heading) : Except ListingError Text := do
  if (m.length : Int) ≠ memorySize cols rows then
    throw (sizeError (memorySize cols rows) cols rows m.length)
  let heading ← headingLines h
  if m.length < programBase then throw .noRegisters
  let cells := (List.range (cols * rows).toNat).flatMap (cellLines m cols)
  let lines := titleLine cols rows :: heading ++ registerLines m ++ looseLines m ++ stackLines m ++
    cells
  return lines.flatMap (· ++ [Text.newline])

end CellWalk.Assembly
