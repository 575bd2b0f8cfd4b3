import CellWalk.Assembly.Listing
import CellWalk.Assembly.Program
import CellWalk.Code.LevelCode
import CellWalk.CommandLine.Options
import CellWalk.CommandLine.Outcome
import CellWalk.Level.File

/-!
# The assembler's command line

The assembler turns a program text into a level code, or a level code back into program text. A
code is given as it is or as the name of a file that holds it.
-/

namespace CellWalk.CommandLine.Assembler
set_option autoImplicit false

/-- The options of the assembler. -/
inductive Key
  | disassemble
  | raw
  | cols
  | rows
deriving DecidableEq, Repr

def options : List (OptionSpec Key) := [
  ⟨none, ["-h", "--help"], false⟩,
  ⟨some .disassemble, ["-d", "--disassemble"], false⟩,
  ⟨some .raw, ["--raw"], false⟩,
  ⟨some .cols, ["--cols"], true⟩,
  ⟨some .rows, ["--rows"], true⟩]

/-- What is asked for. -/
structure Request where
  source : Text
  disassemble : Bool
  raw : Bool
  cols : Setting Int
  rows : Setting Int
deriving DecidableEq

/-- The request with one more option. -/
def Request.apply (r : Request) (key : Key) (value : Option Text) : Except UsageError Request :=
  match key with
  | .disassemble => .ok { r with disassemble := true }
  | .raw => .ok { r with raw := true }
  | .cols => (number value).map fun n => { r with cols := n }
  | .rows => (number value).map fun n => { r with rows := n }

/-- The request that a command line makes. -/
def request (args : List Text) : Except UsageError Request :=
  let parsed := parse options 1 args
  parsed.request Request.apply ⟨parsed.arguments.headD [], false, false, .unset, .unset⟩

/-- Why a request fails. -/
inductive Fault
  | file (e : FileError)
  | code (d : LevelCode.Defect)
  | listing (e : Assembly.ListingError)
  | program (f : Assembly.Fault Assembly.Place)
  /-- A side of the grid is given without a value. -/
  | noSide
  /-- And no index reaches the other side. -/
  | hugeSide
  /-- The image does not even have the registers that are reset. -/
  | noRegisters
deriving DecidableEq

/-- What is reported of a fault, if it is. -/
def Fault.report? : Fault → Option Text
  | .file e => e.message?.map Text.ofString
  | .code d => d.message?.map Text.ofString
  | .listing e => e.message?.map Text.ofString
  | .program f => f.message?.map Text.ofString
  | .noSide | .hugeSide | .noRegisters => none

/-- The sides of the grid. Where one is given without a value, the other has to be an index before
the lack is noticed. -/
def sides (r : Request) : Except Fault (Int × Int) :=
  match r.cols.valueOr defaultSide, r.rows.valueOr defaultSide with
  | some cols, some rows => .ok (cols, rows)
  | none, none => .error .noSide
  | none, some side | some side, none =>
    match Size.ofItems side with
    | .error .beyondIndex => .error .hugeSide
    | _ => .error .noSide

/-- The text that a source names: the file's, or the source itself if it names nothing that there
could be. -/
def codeText (files : FileTree) (source : Text) : Except FileError Text :=
  let path := Path.ofText source
  match files.locate path with
  | .ok ⟨_, .missing⟩ | .error (.notFound _) | .error (.notDirectory _) | .error .zeroInPath
  | .error (.unencodable _) => .ok source
  | _ => files.readText path

/-- The listing of a level code. -/
def disassembled (files : FileTree) (r : Request) : Except Fault Text :=
  match codeText files r.source with
  | .error e => .error (.file e)
  | .ok text =>
    match LevelCode.decode text with
    | .error d => .error (.code d)
    | .ok memory =>
      match sides r with
      | .error fault => .error fault
      | .ok (cols, rows) =>
        match Assembly.disassemble memory cols rows ⟨none, [], []⟩ with
        | .error e => .error (.listing e)
        | .ok listing => .ok listing

variable [CharacterNames]

/-- The level code of a program text, as exported unless the raw image is asked for. -/
def assembled (files : FileTree) (r : Request) : Except Fault Text :=
  match files.readText (Path.ofText r.source) with
  | .error e => .error (.file e)
  | .ok text =>
    match sides r with
    | .error fault => .error fault
    | .ok (cols, rows) =>
      match Assembly.assemble text cols rows with
      | .error f => .error (.program f)
      | .ok program =>
        match if r.raw then some program.memory else LevelCode.export? program.memory with
        | none => .error .noRegisters
        | some memory => .ok (LevelCode.ofImage memory ++ [Text.newline])

/-- Runs the assembler: what it prints, or how it fails. -/
def run (files : FileTree) (args : List Text) : Outcome Fault Text :=
  match request args with
  | .error .help => .help
  | .error _ => .usage
  | .ok r =>
    match if r.disassemble then disassembled files r else assembled files r with
    | .ok text => .done text
    | .error fault => .ofFault fault fault.report?

end CellWalk.CommandLine.Assembler
