import CellWalk.Files.Path
import CellWalk.Text.Utf8
import CellWalk.Text.Quoted
import CellWalk.Text.Lines

/-!
# Files

What a command finds: the directory it runs in, other directories, and files. All directories on
the way to what there is exist as well. A path is followed part by part (`FileTree.locate`), so that
everything it goes through has to be a directory; a file that is written is then found under the
same path. Reading text refuses ill-formed UTF-8 and unifies line ends.
-/

namespace CellWalk
set_option autoImplicit false

/-- The current directory, the files and further directories, all by the parts of their paths from
the root on. -/
structure FileTree where
  current : List Text
  files : List (List Text × List UInt8)
  directories : List (List Text)
deriving DecidableEq

/-- What stands at a place. -/
inductive Entry
  | missing
  | file (bytes : List UInt8)
  | directory
deriving DecidableEq, Repr

/-- Where a path leads: the names from the root on, and what stands there. Only the last name may
be missing. -/
structure Spot where
  names : List Text
  entry : Entry
deriving DecidableEq

/-- Why a path cannot be used as it should. -/
inductive FileError
  | notFound (path : Path)
  | isDirectory (path : Path)
  | notDirectory (path : Path)
  | alreadyThere (path : Path)
  | nameTooLong (path : Path)
  /-- Too many directories on the way are missing. -/
  | tooDeep (path : Path)
  | zeroInPath
  | unencodable (d : Utf8.Unencodable)
  | undecodable (d : Utf8.Defect)
deriving DecidableEq

namespace FileError

/-- A numbered failure of the system at a path. -/
def numbered (number : Nat) (what : String) (path : Path) : String :=
  s!"[Errno {number}] {what}: " ++ Text.quoted path.text

/-- What is told about the error; the depth of a path is never told. -/
def message? : FileError → Option String
  | .notFound p => some (numbered 2 "No such file or directory" p)
  | .alreadyThere p => some (numbered 17 "File exists" p)
  | .notDirectory p => some (numbered 20 "Not a directory" p)
  | .isDirectory p => some (numbered 21 "Is a directory" p)
  | .nameTooLong p => some (numbered 36 "File name too long" p)
  | .tooDeep _ => none
  | .zeroInPath => some "embedded null byte"
  | .unencodable d => some d.message
  | .undecodable d => some d.message

end FileError

namespace FileTree

/-- The longest name of a file, in bytes. -/
def maxName : Nat := 255

/-- One more than the longest path, in bytes. -/
def maxPath : Nat := 4096

/-- How many directories on the way to a file may be missing and are made. -/
def maxMissing : Nat := 990

/-- The number of bytes of a name. -/
def nameSize (name : Text) : Nat :=
  match Utf8.encodeName name with
  | .ok bytes => bytes.length
  | .error _ => 0

/-- The names from the root on that parts lead to from a directory, if all of them exist. -/
def resolve (directory parts : List Text) : List Text :=
  parts.foldl (fun names part => if part = Path.up then names.dropLast else names ++ [part])
    directory

/-- The directory that a path starts from. -/
def base (t : FileTree) (p : Path) : List Text := if p.isAbsolute then [] else t.current

/-- Everything there is, by its names from the root on. -/
def known (t : FileTree) : List (List Text) := t.current :: t.directories ++ t.files.map (·.1)

/-- What stands at a list of names from the root on. -/
def entry (t : FileTree) (names : List Text) : Entry :=
  match t.files.find? fun f => f.1 == names with
  | some f => .file f.2
  | none => if t.known.any (names.isPrefixOf ·) then .directory else .missing

/-- Follows parts of a path from a directory on. -/
def follow (t : FileTree) (path : Path) (names : List Text) : List Text → Except FileError Spot
  | [] => .ok ⟨names, t.entry names⟩
  | part :: rest =>
    match t.entry names with
    | .missing => .error (.notFound path)
    | .file _ => .error (.notDirectory path)
    | .directory =>
      if part = Path.up then follow t path names.dropLast rest
      else if maxName < nameSize part then .error (.nameTooLong path)
      else follow t path (names ++ [part]) rest

/-- What is wrong with a spelling of a path, whatever files there are. -/
def misspelled? (p : Path) (spelling : Text) : Option FileError :=
  match Utf8.encodeName spelling with
  | .error d => some (.unencodable d)
  | .ok bytes =>
    if bytes.contains 0 then some .zeroInPath
    else if maxPath ≤ bytes.length then some (.nameTooLong p)
    else none

/-- Where a path leads. -/
def locate (t : FileTree) (p : Path) : Except FileError Spot :=
  match misspelled? p p.text with
  | some e => .error e
  | none => t.follow p (t.base p) p.parts

/-- The bytes of a file. -/
def readBytes (t : FileTree) (p : Path) : Except FileError (List UInt8) :=
  match t.locate p with
  | .error e => .error e
  | .ok ⟨_, .missing⟩ => .error (.notFound p)
  | .ok ⟨_, .directory⟩ => .error (.isDirectory p)
  | .ok ⟨_, .file bytes⟩ => .ok bytes

/-- The text of a file. -/
def readText (t : FileTree) (p : Path) : Except FileError Text :=
  match t.readBytes p with
  | .error e => .error e
  | .ok bytes =>
    match Utf8.decode bytes with
    | .error d => .error (.undecodable d)
    | .ok text => .ok (Text.unifyLines text)

/-- The tree without a file. -/
def erase (t : FileTree) (names : List Text) : FileTree :=
  { t with
    files := t.files.filter fun f => f.1 != names
    directories := names.dropLast :: t.directories }

/-- The tree with a file at a list of names. -/
def put (t : FileTree) (names : List Text) (bytes : List UInt8) : FileTree :=
  { t with files := (names, bytes) :: (t.erase names).files }

/-- The tree with bytes added at the end of the file at a list of names. -/
def extend (t : FileTree) (names : List Text) (bytes : List UInt8) : FileTree :=
  match t.entry names with
  | .file old => t.put names (old ++ bytes)
  | _ => t.put names bytes

/-- Writes a file, over the one that is there or next to others. -/
def write (t : FileTree) (p : Path) (bytes : List UInt8) : Except FileError FileTree :=
  match t.locate p with
  | .error e => .error e
  | .ok ⟨_, .directory⟩ => .error (.isDirectory p)
  | .ok ⟨names, _⟩ => .ok (t.put names bytes)

/-- Removes a file. -/
def remove (t : FileTree) (p : Path) : Except FileError FileTree :=
  match t.locate p with
  | .error e => .error e
  | .ok ⟨_, .missing⟩ => .error (.notFound p)
  | .ok ⟨_, .directory⟩ => .error (.isDirectory p)
  | .ok ⟨names, .file _⟩ => .ok (t.erase names)

/-- Makes a directory where nothing is. -/
def makeDirectory (t : FileTree) (p : Path) : Except FileError FileTree :=
  match t.locate p with
  | .error e => .error e
  | .ok ⟨names, .missing⟩ => .ok { t with directories := names :: t.directories }
  | .ok _ => .error (.alreadyThere p)

/-- Makes a directory unless it is there. -/
def ensureDirectory (t : FileTree) (p : Path) : Except FileError FileTree :=
  match t.makeDirectory p with
  | .ok t => .ok t
  | .error e =>
    match t.locate p with
    | .ok ⟨_, .directory⟩ => .ok t
    | _ => .error e

/-- What an attempt to change files comes to. What was changed before a failure stays. -/
abbrev Attempt := Except FileError Unit × FileTree

/-- A change as an attempt that changes nothing if it fails. -/
def attempt (t : FileTree) : Except FileError FileTree → Attempt
  | .ok changed => (.ok (), changed)
  | .error e => (.error e, t)

/-- Makes a directory unless it is there, and before it those that it should lie in. The fuel
bounds how many are missing. -/
def ensureAll : Nat → FileTree → Path → Attempt
  | 0, t, p => (.error (.tooDeep p), t)
  | fuel + 1, t, p =>
    match t.ensureDirectory p with
    | .ok t => (.ok (), t)
    | .error (.notFound _) =>
      if p.parts = [] then (.error (.notFound p), t)
      else
        match ensureAll fuel t p.parent with
        | (.error e, t) => (.error e, t)
        | (.ok (), t) => t.attempt (t.ensureDirectory p)
    | .error e => (.error e, t)

/-- Writes a file into a directory that is made if it is missing. -/
def writeInto (t : FileTree) (directory p : Path) (bytes : List UInt8) : Attempt :=
  match ensureAll maxMissing t directory with
  | (.error e, t) => (.error e, t)
  | (.ok (), t) => t.attempt (t.write p bytes)

/-- Whether a name comes before another in the order of code points. -/
def precedes : Text → Text → Bool
  | _, [] => false
  | [], _ :: _ => true
  | p :: s, q :: t => p.val < q.val || (p == q && precedes s t)

/-- Names in the order of their code points, each once. -/
def insertName (name : Text) : List Text → List Text
  | [] => [name]
  | n :: ns => if name = n then n :: ns else if precedes name n then name :: n :: ns
    else n :: insertName name ns

/-- The names of a directory's entries, in the order of their code points. -/
def namesUnder (t : FileTree) (directory : List Text) : List Text :=
  t.known.foldl (fun found names =>
    if directory.isPrefixOf names then
      match names.drop directory.length with
      | name :: _ => insertName name found
      | [] => found
    else found) []

/-- The paths of a directory's entries whose names end in the suffix, in the order of their names;
none if there is no such directory. -/
def entriesEnding (t : FileTree) (p : Path) (suffix : Text) : Except FileError (List Path) :=
  match t.locate p with
  | .ok ⟨names, .directory⟩ =>
    .ok (((t.namesUnder names).filter fun n => suffix.isSuffixOf n).map p.child)
  | .error (.nameTooLong _) => .error (.nameTooLong p)
  | _ => .ok []

end FileTree

end CellWalk
