import CellWalk.CommandLine.Assembler
import CellWalk.CommandLine.Game
import CellWalk.Screen.Controls

/-!
# The program

`assemble` runs the assembler and `play` the game, each with the command line that follows. All
files that a command line may name are read beforehand. The game shows grid and panels, reads the
name of a key from every line of the input, keeps its journal, and saves the progress whenever it
has changed.
-/

namespace CellWalk.Main
set_option autoImplicit false

open CommandLine (Journal Outcome)

/-- A text for the terminal, which cannot show half of a surrogate pair. -/
def spoken (t : Text) : String :=
  String.ofList (t.map fun p => (p.toChar?).getD (Char.ofNat CodePoint.replacement.val))

/-- The bytes of a file, if there is one. -/
def readBytes? (path : Path) : IO (Option (List UInt8)) := do
  try
    return some (← IO.FS.readBinFile (spoken path.text)).toList
  catch _ => return none

/-- The names of the level files in a directory, if there is one. -/
def levelNames (directory : Path) : IO (List Text) := do
  try
    let entries ← (System.mkFilePath [spoken directory.text]).readDir
    return (entries.toList.map fun e => Text.ofString e.fileName).filter fun name =>
      Level.suffix.isSuffixOf name
  catch _ => return []

/-- The files at a path: the one there, or the level files in the directory there. -/
def filesAt (path : Path) : IO (List (Path × List UInt8)) := do
  if let some bytes ← readBytes? path then return [(path, bytes)]
  let paths := (← levelNames path).map path.child
  paths.filterMapM fun p => do return (← readBytes? p).map (p, ·)

/-- The directories on the way to a path, as far as they exist. -/
def directoriesTo (path : Path) : IO (List Path) := do
  let stages := (List.range path.parts.length).map fun n =>
    { path with parts := path.parts.take (n + 1) }
  stages.filterM fun p => (System.mkFilePath [spoken p.text]).isDir

/-- What an argument may name: the whole of it, or what follows an equals sign. -/
def namesIn (argument : Text) : List Text :=
  argument :: ((CommandLine.splitEquals argument).map (·.2)).toList

/-- The files and directories that a command line may name. -/
def readTree (names : List Text) : IO FileTree := do
  let current := (Path.ofText (Text.ofString (← IO.currentDir).toString)).parts
  let here : FileTree := ⟨current, [], []⟩
  let place (p : Path) : List Text := FileTree.resolve (here.base p) p.parts
  let paths := (names.flatMap namesIn).flatMap fun name =>
    [Path.ofText name, Journal.logPath here name]
  let files ← paths.mapM filesAt
  let directories ← paths.mapM directoriesTo
  return { current
           files := files.flatten.map fun f => (place f.1, f.2)
           directories := directories.flatten.map place }

/-- Reports how a command ends and shows what it results in; the result is the exit code. -/
def finish {φ α : Type} (outcome : Outcome φ α) (use : α → IO Unit) : IO UInt32 := do
  match outcome with
  | .usage => IO.eprintln "Error: the command line was not understood"
  | .help => IO.println "assemble [-d] [--raw] [--cols N] [--rows N] SOURCE | play [OPTION]..."
  | .failed _ => IO.eprint (spoken outcome.reportText)
  | .broken _ => IO.eprintln "Error: the command broke off"
  | .done result => use result
  return UInt32.ofNat outcome.exitCode

/-- Brings what was written in a journal to its file or to the terminal. -/
def flush (j : Journal) : IO Journal := do
  match j.file with
  | none => IO.eprint (spoken j.written)
  | some names =>
    IO.FS.withFile (spoken (Path.text ⟨1, names⟩)) .append fun handle =>
      handle.write ⟨(Journal.bytes j.written).toArray⟩
  return { j with written := [] }

/-- Writes the progress of a session to its file. -/
def save (s : Session) : IO Unit := do
  if let some store := s.store then
    if let .ok bytes := store.files.readBytes store.path then
      IO.FS.createDirAll (spoken store.path.parent.text)
      IO.FS.writeBinFile (spoken store.path.text) ⟨bytes.toArray⟩

/-- Brings the panels up to date and shows them with the grid. -/
def draw (d : Screen.Display) : IO Screen.Display := do
  match d.refresh with
  | (.error _, d) => return d
  | (.ok panels, d) =>
    let texts := [Screen.renderGrid d.session, panels.state, panels.stack, panels.info]
    texts.forM fun markup => IO.println (spoken (Screen.visible markup))
    (d.output.sheet panels.sheet).forM fun line => IO.println (spoken line)
    return d

/-- Plays until the input ends or the player quits. -/
partial def play (input : IO.FS.Stream) (j : Journal) (d : Screen.Display) : IO Unit := do
  let d ← draw d
  let line ← input.getLine
  if line.isEmpty then return
  match Screen.actionOf? (String.ofList (line.toList.filter (· != '\n'))) with
  | none => play input j d
  | some .quit => return
  | some action =>
    let after := (d.act action).2
    if after.session.store != d.session.store then save after.session
    let news := after.session.diary.drop d.session.diary.length
    let j ← flush (news.foldl Journal.write j)
    play input j after

/-- The assembler. -/
def runAssembler (args : List String) : IO UInt32 := do
  let args := args.map Text.ofString
  finish (CommandLine.Assembler.run (← readTree args) args) fun t => IO.print (spoken t)

/-- The game. -/
def runGame (args : List String) : IO UInt32 := do
  let args := args.map Text.ofString
  let environment := (← IO.getEnv "BUGHOP_STATE").map Text.ofString
  let home := Text.ofString ((← IO.getEnv "HOME").getD "")
  let now ← IO.monoMsNow
  let stamp := Text.ofString s!"{now}"
  let freshSeed ← IO.rand 0 0xFFFFFFFF
  let found : CommandLine.Game.Surroundings := ⟨⟨[], [], []⟩, environment, home, stamp, freshSeed⟩
  let files ← readTree ((CommandLine.Game.statePath found .plain).text :: args)
  let launch := CommandLine.Game.run { found with files } args
  let journal ← launch.journal.mapM flush
  finish launch.outcome fun session => do
    if let some j := journal then play (← IO.getStdin) j (.create session)

end CellWalk.Main

def main (args : List String) : IO UInt32 :=
  match args with
  | "assemble" :: args => CellWalk.Main.runAssembler args
  | "play" :: args => CellWalk.Main.runGame args
  | _ => CellWalk.Main.finish (.usage : CellWalk.CommandLine.Outcome Unit Unit) fun _ => return
