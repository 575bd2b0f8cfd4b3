import CellWalk.Assembly.Program
import CellWalk.Files.Tree
import CellWalk.Level.Basic

/-!
# Level files

A level is written as a program text with goals. Its id is the one in the text or else the name of
the file without suffix. A directory of levels is played in the order of the files' names. Reading a
level may leave a trace, and the trace may lie in a file that is read later.
-/

namespace CellWalk
set_option autoImplicit false

/-- Columns and rows of a grid unless others are asked for. -/
def defaultSide : Int := 13

/-- Why a file holds no level. -/
inductive LevelError
  | file (e : FileError)
  | program (f : Assembly.Fault Assembly.Place)
  | noGoals (file : Text)
  /-- The image does not even have the registers that a level resets. -/
  | noRegisters
deriving DecidableEq

/-- What is told about the error, if it is ever told. -/
def LevelError.message? : LevelError → Option Text
  | .file e => e.message?.map Text.ofString
  | .program f => f.message?.map Text.ofString
  | .noGoals name => some (name ++ Text.ofString ": level has no .cycles goals")
  | .noRegisters => none

namespace Level

/-- The suffix of level files. -/
def suffix : Text := Text.ofString ".asm"

variable [CharacterNames]

/-- The level of a program text from the given file. -/
def ofText (file : Path) (text : Text) (cols rows : Int) : Except LevelError Level :=
  match Assembly.assemble text cols rows with
  | .error f => .error (.program f)
  | .ok program =>
    match program.goals, LevelCode.export? program.memory with
    | none, _ => .error (.noGoals file.name)
    | some _, none => .error .noRegisters
    | some (gold, silver, bronze), some memory =>
      .ok ⟨program.id.getD file.stem, [gold, silver, bronze], memory, program.labels⟩

/-- The level in a file. -/
def ofFile (files : FileTree) (file : Path) (cols rows : Int) : Except LevelError Level :=
  match files.readText file with
  | .error e => .error (.file e)
  | .ok text => ofText file text cols rows

/-- The levels in files that are read one after the other. `σ` is whatever holds the files, and
`trace` what a level that was read does to it. -/
def ofFiles {σ : Type} (files : σ → FileTree) (trace : σ → Level → Path → σ) (cols rows : Int)
    (s : σ) : List Path → Except LevelError (List Level × σ)
  | [] => .ok ([], s)
  | path :: paths =>
    match ofFile (files s) path cols rows with
    | .error e => .error e
    | .ok level =>
      (ofFiles files trace cols rows (trace s level path) paths).map fun r => (level :: r.1, r.2)

/-- The levels in a directory; a directory that does not exist has none. -/
def ofDirectory {σ : Type} (files : σ → FileTree) (trace : σ → Level → Path → σ) (cols rows : Int)
    (s : σ) (directory : Path) : Except LevelError (List Level × σ) :=
  match (files s).entriesEnding directory suffix with
  | .error e => .error (.file e)
  | .ok paths => ofFiles files trace cols rows s paths

/-- The levels in a directory, read without a trace. -/
def readDirectory (files : FileTree) (directory : Path) (cols rows : Int) :
    Except LevelError (List Level) :=
  (ofDirectory (fun files => files) (fun files _ _ => files) cols rows files directory).map (·.1)

end Level

end CellWalk
