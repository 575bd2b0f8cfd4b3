import CellWalk.Files.Tree
import CellWalk.Json.Value

/-!
# Saved progress

The id of the current level is kept in a small JSON file. A file that is missing, unreadable or of
another form counts as no progress, but a document whose values are nested too deeply is an error.
What was saved last is found again.
-/

namespace CellWalk
set_option autoImplicit false

/-- The place of the file, among the files there are. -/
structure LevelStore where
  files : FileTree
  path : Path
deriving DecidableEq

/-- The values of a saved document are nested too deeply. -/
structure NestingError where
deriving DecidableEq, Repr

/-- What is known about the current level. -/
inductive Progress
  /-- There is no file. -/
  | none
  /-- The file cannot be read, for the reason that is told. -/
  | unreadable (reason : String)
  /-- The document holds no id. -/
  | withoutId
  | saved (id : Text)
deriving DecidableEq

/-- The id, if there is one. -/
def Progress.id? : Progress → Option Text
  | .saved id => some id
  | _ => Option.none

namespace LevelStore

/-- The member that holds the id. -/
def key : Text := Text.ofString "level"

/-- What a document says. -/
def progressIn (document : Text) : Except NestingError Progress :=
  match Json.parse document with
  | .error d =>
    match d.message? document with
    | some reason => .ok (.unreadable reason)
    | none => .error ⟨⟩
  | .ok value =>
    match (value.member? key).bind Json.Value.text? with
    | some id => .ok (.saved id)
    | none => .ok .withoutId

/-- What is known about the current level. -/
def progress (s : LevelStore) : Except NestingError Progress :=
  match s.files.readText s.path with
  | .ok document => progressIn document
  | .error (.notFound _) => .ok .none
  | .error e => .ok (.unreadable (e.message?.getD ""))

/-- The saved id. -/
def load (s : LevelStore) : Except NestingError (Option Text) := s.progress.map Progress.id?

/-- The document that holds an id. -/
def document (id : Text) : Text :=
  Text.ofString "\x7b" ++ Json.quote key ++ Text.ofString ": " ++ Json.quote id ++
    Text.ofString "\x7d\n"

/-- Saves an id, after making the directories on the way to the file. -/
def save (s : LevelStore) (id : Text) : Except FileError Unit × LevelStore :=
  let (saved, files) := s.files.writeInto s.path.parent s.path (Utf8.encode (document id))
  (saved, { s with files })

end LevelStore

end CellWalk
