import CellWalk.Bench.Walk
import CellWalk.Bench.Edit
import CellWalk.Config
import CellWalk.Level.Store
import CellWalk.Session.Notice

/-!
# Sessions

One game in progress: a bench, the catalogue of levels and the place of the player in it. Loading a
level or a random program starts everything over but what the player has exported.
-/

namespace CellWalk
set_option autoImplicit false

/-- Why a step of a game fails. -/
inductive PlayError
  | size (e : SizeMismatch)
  | unknownLevel (e : UnknownLevel)
  /-- A level is asked for without an id. -/
  | noLevelId
  /-- A random program is asked for, but the seed is given without a value. -/
  | noSeed
  | nesting (e : NestingError)
  | save (e : FileError)
deriving DecidableEq

/-- What is told about the error, if it is ever told. -/
def PlayError.message? : PlayError → Option String
  | .size e => some e.message
  | .unknownLevel e => some e.message
  | .noLevelId => some (UnknownLevel.messageFor Setting.voidText)
  | .noSeed => none
  | .nesting _ => none
  | .save e => e.message?

/-- A game. `opening` is the memory at the last load; of a level and a seed at most one is there. -/
structure Session where
  config : Config
  levels : List Level
  store : Option LevelStore
  bench : Bench
  level : Option Level
  seed : Option Int
  exports : List Text
  opening : Image
  diary : List Notice
deriving DecidableEq

namespace Session

/-- A session at a bench that has loaded nothing yet. -/
def around (config : Config) (levels : List Level) (store : Option LevelStore) (bench : Bench) :
    Session :=
  { config, levels, store, bench
    level := none
    seed := none
    exports := []
    opening := bench.machine.memory
    diary := [] }

/-- A session that has loaded nothing yet, unless its history would be too long. -/
def create (config : Config) (levels : List Level) (store : Option LevelStore) :
    Except LimitError Session :=
  match History.ofLimit config.historyLimit with
  | .error e => .error e
  | .ok history =>
    let machine := Machine.blank config.grid config.cells_le
    .ok (around config levels store (.fresh machine history true))

def machine (s : Session) : Machine := s.bench.machine

def note (s : Session) (n : Notice) : Session := { s with diary := s.diary ++ [n] }

/-- The bytes sent since the last load or restart, which cleared the log. -/
def sent (s : Session) : List UInt8 := s.machine.outlet.heard

/-- How a sent byte is shown. -/
def outputLine (b : UInt8) : Text :=
  Text.ofString "SND " ++ Text.padLeft 3 (Decimal.ofNat b.toNat) ++ Text.ofString "  0x" ++
    Text.ofChars ((Hex.ofNat 2 b.toNat).map Char.toUpper)

/-- The lines of the output. -/
def outputLines (s : Session) : List Text := s.sent.map outputLine

/-- The outlet with nothing in it and nothing heard. -/
def silence (p : Outlet) : Outlet := p.clear.forget

/-- Starts over from an image. -/
def beginWith (s : Session) (image : Image) (authored : Bool) : Except SizeMismatch Session :=
  match s.machine.load image with
  | .error e => .error e
  | .ok machine =>
    let bench := s.bench.leave
    .ok { s with
      bench := { bench with
        machine := { machine.resetCounters with outlet := silence machine.outlet }
        history := s.bench.history.clear
        walker := { s.bench.walker with enforce := s.config.policy.enforces authored } }
      opening := image }

/-- Loads a level. The level counts as current even if its program does not fit the machine. -/
def loadLevel (s : Session) (level : Level) : Except PlayError Unit × Session :=
  let chosen := { s with level := some level, seed := none }
  match chosen.beginWith level.program true with
  | .error e => (.error (.size e), chosen)
  | .ok loaded => (.ok (), loaded.note (.loaded level.id level.goals))

/-- Loads the random program of a seed. -/
def loadRandom (s : Session) (seed : Int) : Except PlayError Unit × Session :=
  let machine := s.machine.randomize seed
  let chosen := { s with level := none, seed := some seed, bench := { s.bench with machine } }
  match chosen.beginWith machine.memory false with
  | .error e => (.error (.size e), chosen)
  | .ok loaded => (.ok (), loaded.note (.randomized seed))

/-- Loads the random program of the settings' seed, or of a fresh one if that is left open. -/
def loadSeeded (s : Session) (freshSeed : Int) : Except PlayError Unit × Session :=
  match s.config.seed.valueOr freshSeed with
  | some seed => s.loadRandom seed
  | none => (.error .noSeed, s)

/-- Loads the first level of the catalogue, or a random program if there is none. -/
def loadFirst (s : Session) (freshSeed : Int) : Except PlayError Unit × Session :=
  match s.levels with
  | [] => s.loadSeeded freshSeed
  | first :: _ => s.loadLevel first

/-- Notes what is wrong with the saved progress, if anything is. -/
def noteProgress (s : Session) (store : LevelStore) : Progress → Session
  | .unreadable reason => s.note (.progressUnreadable store.path reason)
  | .withoutId => s.note (.progressWithoutId store.path)
  | _ => s

/-- Loads the saved level, or the first one if there is none. -/
def resume (s : Session) (store : LevelStore) (freshSeed : Int) : Except PlayError Unit × Session :=
  match store.progress with
  | .error e => (.error (.nesting e), s)
  | .ok progress =>
    let s := s.noteProgress store progress
    match progress.id? with
    | none => s.loadFirst freshSeed
    | some saved =>
      match findLevel s.levels saved with
      | .ok level => s.loadLevel level
      | .error _ => (s.note (.savedLevelGone saved)).loadFirst freshSeed

/-- Picks what to play first: a random program if one is asked for or there are no levels, else the
named level, the saved one, or the first. `freshSeed` serves when the settings leave the seed
open. -/
def start (s : Session) (id : Setting Text) (random : Bool) (freshSeed : Int) :
    Except PlayError Unit × Session :=
  if random || s.levels.isEmpty then s.loadSeeded freshSeed
  else
    match id with
    | .value id =>
      match findLevel s.levels id with
      | .ok level => s.loadLevel level
      | .error e => (.error (.unknownLevel e), s)
    | .void => (.error .noLevelId, s)
    | .unset =>
      match s.store with
      | none => s.loadFirst freshSeed
      | some store => s.resume store freshSeed

/-- The medal of a halted level. -/
def medal (s : Session) : Option Medal :=
  if s.machine.isHalted then s.level.bind fun l => l.medal (s.machine.get .cyc).toNat else none

/-- The cell of interest: the editor's cursor, or else the debugger. -/
def focus (s : Session) : Int :=
  if s.bench.editor.active then s.bench.editor.pointer else s.machine.ip

/-- What the player is told about the cell of interest. -/
def hint (s : Session) : Text :=
  let r := s.machine.instruction s.focus
  match r.op? with
  | some .txt =>
    match s.level with
    | none => missingLabel r.operand.toNat
    | some level => level.label r.operand.toNat
  | some o => Text.ofString o.hint
  | none => Text.ofString "UNKNOWN OPCODE " ++ Decimal.ofNat r.opcode.toNat

end Session

end CellWalk
