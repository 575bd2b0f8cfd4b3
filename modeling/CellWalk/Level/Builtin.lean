import CellWalk.Level.File

/-!
# Built-in levels

The levels that are played when no directory of levels is given, in the order of play.
-/

namespace CellWalk.Level
set_option autoImplicit false

/-- Lines as one text, each with a line feed. -/
private def ofLines (lines : List String) : Text :=
  Text.ofString (String.join (lines.map (· ++ "\n")))

/-- The way from the start cell to the end. -/
def walkText : Text := ofLines [
  ".id 01_tutorial",
  ".cycles 10 11 12",
  ".label \"debugging starts with a single step\"",
  ".label \"decisions...\"",
  ".label \"sometimes a dead end is just a dead end\"",
  ".reg IP 122",
  ".reg DBG 1",
  "4,5:  TXT #0",
  "4,7:  END",
  "4,8:  NOP",
  "5,5:  NOP",
  "5,8:  NOP",
  "6,5:  NOP",
  "6,8:  NOP",
  "7,5:  TXT #1",
  "7,6:  NOP",
  "7,7:  NOP",
  "7,8:  NOP",
  "8,5:  NOP",
  "9,5:  NOP",
  "10,5: TXT #2"]

/-- The gate that opens for exactly three. -/
def gateText : Text := ofLines [
  ".id 02_equality",
  ".cycles 7 9 11",
  ".label \"the gate opens for exactly three\"",
  ".label \"tests never change the debugger\"",
  ".reg IP 81",
  "5,3: TXT #0",
  "6,3: NOP",
  "6,4: ADD #1",
  "6,5: TEQ #3 [R]",
  "6,6: END",
  "7,4: TXT #1"]

/-- The value that is parked on the stack. -/
def stackText : Text := ofLines [
  ".id 03_stack",
  ".cycles 7 9 11",
  ".label \"the stack remembers\"",
  ".reg IP 80",
  "5,2: TXT #0",
  "6,2: NOP",
  "6,3: ADD #5",
  "6,4: SET STK [R]",
  "6,5: SUB #5",
  "6,6: TEQ #0",
  "6,7: SWP STK",
  "6,8: TEQ #5 [R]",
  "6,9: END"]

/-- The built-in programs. -/
def builtinTexts : List Text := [walkText, gateText, stackText]

/-- Where the built-in levels count as lying. -/
def builtinDirectory : Path := Path.ofText (Text.ofString "levels")

/-- The file that a built-in level counts as. -/
def builtinFile (l : Level) : Path := builtinDirectory.child (l.id ++ suffix)

variable [CharacterNames]

/-- The built-in levels on a grid of the given shape, or why one of them does not fit it. -/
def builtinOn (cols rows : Int) : Except LevelError (List Level) :=
  builtinTexts.mapM fun text => ofText builtinDirectory text cols rows

/-- The built-in levels on their own grid. -/
def builtin : List Level :=
  match builtinOn defaultSide defaultSide with
  | .ok levels => levels
  | .error _ => []

end CellWalk.Level
