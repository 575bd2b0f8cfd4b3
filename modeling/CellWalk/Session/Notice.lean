import CellWalk.Files.Path
import CellWalk.Level.Basic
import CellWalk.Machine.Basic

/-!
# Notices

A diary tells what happened, graded by how much it matters and sorted by topic: the levels and the
saved progress, or the game. Its entries are values; `Notice.text` words them.
-/

namespace CellWalk
set_option autoImplicit false

inductive Grade
  | debug
  | info
  | warning
deriving DecidableEq, Repr

namespace Grade

def name : Grade → String
  | .debug => "DEBUG"
  | .info => "INFO"
  | .warning => "WARNING"

/-- How much a grade matters. -/
def weight : Grade → Nat
  | .debug => 0
  | .info => 1
  | .warning => 2

end Grade

/-- What a notice is about. -/
inductive Topic
  | levels
  | session
deriving DecidableEq, Repr

def Topic.name : Topic → String
  | .levels => "bughop.levels"
  | .session => "bughop.session"

inductive Notice
  | levelRead (id : Text) (file : Path)
  | levelsRead (count : Nat) (directory : Path)
  | progressUnreadable (file : Path) (reason : String)
  | progressWithoutId (file : Path)
  | progressSaved (id : Text) (file : Path)
  | command (name : String)
  | loaded (id : Text) (goals : List Int)
  | randomized (seed : Int)
  | savedLevelGone (id : Text)
  | levelHalted (id : Text) (cycles : Nat) (medal : Option Medal)
  | randomHalted (seed : Option Int) (cycles : Nat)
  | lastLevel (id : Text)
  | exported (code : Text)
  | stats (s : Machine.Stats)
deriving DecidableEq

namespace Notice

def grade : Notice → Grade
  | .levelRead .. | .command _ | .stats _ => .debug
  | .progressUnreadable .. | .progressWithoutId _ | .savedLevelGone _ => .warning
  | _ => .info

def topic : Notice → Topic
  | .levelRead .. | .levelsRead .. | .progressUnreadable .. | .progressWithoutId _
  | .progressSaved .. => .levels
  | _ => .session

/-- Numbers in parentheses; a single one is followed by a comma. -/
def parenthesised (values : List Int) : String :=
  match values with
  | [v] => s!"({v},)"
  | vs => "(" ++ String.intercalate ", " (vs.map fun v => s!"{v}") ++ ")"

def text : Notice → Text
  | .levelRead id file => Text.ofString "Loaded level " ++ id ++ Text.ofString " from " ++ file.text
  | .levelsRead count directory => Text.ofString s!"Loaded {count} levels from " ++ directory.text
  | .progressUnreadable file reason =>
    Text.ofString "Ignoring unreadable level store " ++ file.text ++ Text.ofString (": " ++ reason)
  | .progressWithoutId file =>
    Text.ofString "Level store " ++ file.text ++ Text.ofString " has no level id"
  | .progressSaved id file =>
    Text.ofString "Saved current level " ++ id ++ Text.ofString " to " ++ file.text
  | .command name => Text.ofString ("Command " ++ name)
  | .loaded id goals =>
    Text.ofString "Loaded level " ++ id ++ Text.ofString (" (goals " ++ parenthesised goals ++ ")")
  | .randomized seed => Text.ofString s!"Generated random program (seed {seed})"
  | .savedLevelGone id =>
    Text.ofString "Saved level " ++ id ++ Text.ofString " no longer exists, starting over"
  | .levelHalted id cycles medal =>
    let result := (medal.map Medal.name).getD "no medal"
    Text.ofString "Level " ++ id ++ Text.ofString s!" halted in {cycles} cycles ({result})"
  | .randomHalted seed cycles =>
    let name := (seed.map fun s => s!"{s}").getD "None"
    Text.ofString s!"Random program {name} halted in {cycles} cycles"
  | .lastLevel id => Text.ofString "Level " ++ id ++ Text.ofString " was the last one"
  | .exported code => Text.ofString "Exported program: " ++ code
  | .stats s => Text.ofString ("Machine stats:\n" ++ s.summary)

end Notice

end CellWalk
