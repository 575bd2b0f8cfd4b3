import CellWalk.Assembly.Statement

/-!
# Programs

A program is the memory image that a text describes, with the id, the goals and the labels of a
level. Statements are taken in order: a later one overwrites the bytes of an earlier one, but no
cell may be given twice, and nothing may lie outside the grid or the memory.
-/

namespace CellWalk.Assembly
set_option autoImplicit false

structure Program where
  memory : Image
  id : Option Text
  goals : Option (Nat × Nat × Nat)
  labels : List Text
deriving DecidableEq

/-- A program under construction and the cells that it has so far. -/
structure Build where
  program : Program
  cells : List Int
deriving DecidableEq

/-- The image with bytes written from an address on. -/
def overlay (m : Image) (address : Nat) : List UInt8 → Image
  | [] => m
  | b :: bs => overlay (m.set address b) (address + 1) bs

@[simp] theorem length_overlay (m : Image) (address : Nat) (bs : List UInt8) :
    (overlay m address bs).length = m.length := by
  induction bs generalizing m address with
  | nil => rfl
  | cons b bs ih => simp [overlay, ih]

/-- The number of a cell, or why it lies outside the grid. -/
def Position.index (cols rows : Int) : Position → Except Refusal Int
  | .grid row col =>
    if rows ≤ row ∨ cols ≤ col then .error (.cellOutside row col cols rows)
    else .ok (row * cols + col)
  | .flat index =>
    if cols * rows ≤ index then .error (.indexOutside index cols rows) else .ok index

/-- The address of a cell's record. -/
def recordAddress (index : Int) : Nat := programBase + index.toNat * Instruction.width

/-- A build with other bytes. -/
def Build.withMemory (b : Build) (memory : Image) : Build :=
  { b with program := { b.program with memory } }

/-- Adds a cell. -/
def Build.addCell (b : Build) (cols rows : Int) (position : Position) (record : Instruction) :
    Except Refusal Build := do
  let index ← position.index cols rows
  if index ∈ b.cells then throw (.cellTwice index)
  return { b.withMemory (overlay b.program.memory (recordAddress index) record.toBytes) with
    cells := index :: b.cells }

/-- Adds a statement. -/
def Build.add (cols rows : Int) (b : Build) : Statement → Except (Fault Nat) Build
  | .id name => .ok { b with program := { b.program with id := some name } }
  | .cycles gold silver bronze =>
    .ok { b with program := { b.program with goals := some (gold, silver, bronze) } }
  | .label text => .ok { b with program := { b.program with labels := b.program.labels ++ [text] } }
  | .stack values =>
    if values = [] ∨ stackBase + values.length ≤ b.program.memory.length then
      .ok (b.withMemory (overlay b.program.memory stackBase values))
    else .error .stackOutside
  | .byte offset value left =>
    if offset < b.program.memory.length then .ok (b.withMemory (b.program.memory.set offset value))
    else .error (.refused (.offsetOutside offset b.program.memory.length) left)
  | .cell position record left =>
    match b.addCell cols rows position record with
    | .ok b => .ok b
    | .error refusal => .error (.refused refusal left)

/-- A program without any statement. -/
def Build.empty (size : Nat) : Build := ⟨⟨Image.blank size, none, none, []⟩, []⟩

/-- The program of a list of statements. -/
def build (size : Nat) (cols rows : Int) (statements : List Statement) :
    Except (Fault Nat) Program :=
  (statements.foldlM (Build.add cols rows) (Build.empty size)).map Build.program

/-- The program of a text, for a grid of the given shape. -/
def assemble [CharacterNames] (text : Text) (cols rows : Int) : Except (Fault Place) Program :=
  match Size.ofBytes (memorySize cols rows) with
  | .error d => .error (.size d)
  | .ok size =>
    match parse text with
    | .error e => .error e
    | .ok statements =>
      match build size cols rows statements with
      | .error e => .error (e.map (Place.of text))
      | .ok program => .ok program

end CellWalk.Assembly
