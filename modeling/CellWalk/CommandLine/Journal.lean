import CellWalk.Files.Tree
import CellWalk.Json.Quote
import CellWalk.Session.Notice

/-!
# Journals

Where the notices of a game go. Without a log file the terminal shows the warnings. With one the
terminal stays free, and the notices of enough weight are added at the end of the file. That file
lies among all others and may be read as one of them. A line of a journal has a time stamp, the
grade, the topic and the text.
-/

namespace CellWalk.CommandLine
set_option autoImplicit false

/-- An open journal. -/
structure Journal where
  files : FileTree
  stamp : Text
  /-- The names of the log file from the root on, if there is one. -/
  file : Option (List Text)
  /-- The least grade that is written. -/
  least : Grade
  /-- What was written so far. -/
  written : Text
deriving DecidableEq

namespace Journal

/-- Names up to a zero, which ends them. -/
def cutAtZero : List Text → List Text
  | [] => []
  | name :: names =>
    match name.takeWhile (·.val != 0) with
    | [] => []
    | p :: front => if p :: front = name then name :: cutAtZero names else [p :: front]

/-- The path of a log file from the root on. Double dots in its name lead back to the part before
them, whether that exists or not. -/
def logPath (files : FileTree) (name : Text) : Path :=
  let path := Path.ofText name
  ⟨1, cutAtZero (FileTree.resolve (files.base path) path.parts)⟩

/-- Opens the journal. A log file is made unless it is there; `verbose` lowers the least grade. -/
def start (files : FileTree) (stamp : Text) (name : Option Text) (verbose : Bool) :
    Except FileError Journal :=
  match name with
  | none => .ok ⟨files, stamp, none, .warning, []⟩
  | some name =>
    let path := logPath files name
    match files.locate path with
    | .error e => .error e
    | .ok ⟨_, .directory⟩ => .error (.isDirectory path)
    | .ok ⟨names, _⟩ =>
      .ok ⟨files.extend names [], stamp, some names, if verbose then .debug else .info, []⟩

/-- A notice as a line of a journal. -/
def line (stamp : Text) (n : Notice) : Text :=
  stamp ++ Text.ofString (" " ++ n.grade.name ++ " " ++ n.topic.name ++ ": ") ++ n.text ++
    [Text.newline]

/-- The bytes of a journal's line; a half of a surrogate pair is spelled as its escape. -/
def bytes (t : Text) : List UInt8 :=
  Utf8.encode (t.flatMap fun p => if p.isSurrogate then Json.unitEscape p.val else [p])

/-- Writes a notice if it has enough weight. -/
def write (j : Journal) (n : Notice) : Journal :=
  if n.grade.weight < j.least.weight then j
  else
    let line := line j.stamp n
    { j with
      written := j.written ++ line
      files := match j.file with
        | none => j.files
        | some names => j.files.extend names (bytes line) }

/-- What the terminal shows. -/
def shown (j : Journal) : Text := if j.file.isNone then j.written else []

end Journal

end CellWalk.CommandLine
