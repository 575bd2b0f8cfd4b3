import CellWalk.CommandLine.Journal
import CellWalk.CommandLine.Options
import CellWalk.CommandLine.Outcome
import CellWalk.Level.Builtin
import CellWalk.Session.Basic

/-!
# The game's command line

The options choose the level or a random program, the settings, and where levels, progress and log
are kept. The log is opened before anything else is looked at, and whatever is wrong with it is not
reported. The game is ready when its session has started.
-/

namespace CellWalk.CommandLine.Game
set_option autoImplicit false

/-- The options of the game. -/
inductive Key
  | level
  | random
  | seed
  | directions
  | historyLimit
  | stateFile
  | levelsDir
  | logFile
  | verbose
deriving DecidableEq, Repr

def options : List (OptionSpec Key) := [
  ⟨none, ["-h", "--help"], false⟩,
  ⟨some .level, ["--level"], true⟩,
  ⟨some .random, ["--random"], false⟩,
  ⟨some .seed, ["--seed"], true⟩,
  ⟨some .directions, ["--directions"], true⟩,
  ⟨some .historyLimit, ["--history-limit"], true⟩,
  ⟨some .stateFile, ["--state-file"], true⟩,
  ⟨some .levelsDir, ["--levels-dir"], true⟩,
  ⟨some .logFile, ["--log-file"], true⟩,
  ⟨some .verbose, ["-v", "--verbose"], false⟩]

/-- What is asked for. -/
structure Request where
  level : Setting Text
  random : Bool
  seed : Setting Int
  /-- The name of the policy. -/
  directions : Setting Text
  historyLimit : Setting Int
  stateFile : Option Text
  levelsDir : Setting Text
  logFile : Option Text
  verbose : Bool
deriving DecidableEq

def Request.plain : Request :=
  ⟨.unset, false, .unset, .unset, .unset, none, .unset, none, false⟩

/-- The value of an option that takes the name of a policy. -/
def policyName (value : Option Text) : Except UsageError (Setting Text) :=
  if value.all fun name => (DirectionPolicy.ofName? name).isSome then .ok (.given value)
  else .error .badValue

/-- The request with one more option. -/
def Request.apply (r : Request) (key : Key) (value : Option Text) : Except UsageError Request :=
  match key with
  | .level => .ok { r with level := .given value }
  | .random => .ok { r with random := true }
  | .seed => (number value).map fun n => { r with seed := n }
  | .directions => (policyName value).map fun name => { r with directions := name }
  | .historyLimit => (number value).map fun n => { r with historyLimit := n }
  | .stateFile => .ok { r with stateFile := value }
  | .levelsDir => .ok { r with levelsDir := .given value }
  | .logFile => .ok { r with logFile := value }
  | .verbose => .ok { r with verbose := true }

/-- The request that a command line makes. -/
def request (args : List Text) : Except UsageError Request :=
  (parse options 0 args).request Request.apply .plain

/-- An empty name counts as none. -/
def nonempty (t : Option Text) : Option Text := t.filter fun t => !t.isEmpty

/-- What a game finds when it starts. -/
structure Surroundings where
  files : FileTree
  /-- Where the environment says that the progress is kept. -/
  environment : Option Text
  home : Text
  /-- The time, as it stands in a journal. -/
  stamp : Text
  /-- The seed of a random program for which no other is asked for. -/
  freshSeed : Int

/-- The place of the saved progress: the one asked for, else the environment's, else the home
directory's. -/
def statePath (s : Surroundings) (r : Request) : Path :=
  match nonempty r.stateFile, nonempty s.environment with
  | some name, _ => .ofText name
  | none, some name => .ofText name
  | none, none => (Path.ofText s.home).child (Text.ofString ".bughop.json")

/-- Why no game starts. -/
inductive Fault
  | log (e : FileError)
  | config (e : ConfigError)
  /-- The directory of the levels is given without a value. -/
  | noDirectory
  | level (e : LevelError)
  | history (e : LimitError)
  | play (e : PlayError)
deriving DecidableEq

/-- What is reported of a fault, if it is. -/
def Fault.report? : Fault → Option Text
  | .log _ => none
  | .config e => e.message?.map Text.ofString
  | .noDirectory => none
  | .level e => e.message?
  | .history e => e.message?.map Text.ofString
  | .play e => e.message?.map Text.ofString

/-- How a game starts: with a session or not, and the journal as far as it was written. -/
structure Launch where
  outcome : Outcome Fault Session
  journal : Option Journal

namespace Launch

/-- A command line that asks for no game. -/
def refused : UsageError → Launch
  | .help => ⟨.help, none⟩
  | _ => ⟨.usage, none⟩

/-- A game that does not start. -/
def failed (fault : Fault) (journal : Option Journal) : Launch :=
  ⟨.ofFault fault fault.report?, journal⟩

/-- What the terminal shows before the game. -/
def shown (l : Launch) : Text := (l.journal.map Journal.shown).getD [] ++ l.outcome.reportText

end Launch

/-- The settings that are asked for. -/
def settings (s : Surroundings) (r : Request) : Except ConfigError Config :=
  Config.create { Config.Draft.standard with
    policy := r.directions
    historyLimit := r.historyLimit
    seed := r.seed
    statePath := some (statePath s r) }

/-- A journal in which it is noted that a level was read. -/
def noteLevel (j : Journal) (l : Level) (file : Path) : Journal := j.write (.levelRead l.id file)

/-- The levels to play, with the directory that they come from noted. -/
def levels [CharacterNames] (j : Journal) (r : Request) (grid : Grid) : Except Fault (List Level × Journal) :=
  match r.levelsDir with
  | .unset =>
    match Level.builtinOn grid.cols grid.rows with
    | .error e => .error (.level e)
    | .ok levels =>
      let j := levels.foldl (fun j l => noteLevel j l (Level.builtinFile l)) j
      .ok (levels, j.write (.levelsRead levels.length Level.builtinDirectory))
  | .void => .error .noDirectory
  | .value name =>
    let directory := Path.ofText name
    match Level.ofDirectory Journal.files noteLevel grid.cols grid.rows j directory with
    | .error e => .error (.level e)
    | .ok (levels, j) => .ok (levels, j.write (.levelsRead levels.length directory))

/-- Starts a session on the levels. -/
def begin (s : Surroundings) (r : Request) (config : Config) (levels : List Level) (j : Journal) :
    Launch :=
  match Session.create config levels (some ⟨j.files, statePath s r⟩) with
  | .error e => .failed (.history e) (some j)
  | .ok session =>
    let (started, session) := session.start r.level r.random s.freshSeed
    let j := session.diary.foldl Journal.write j
    match started with
    | .error e => .failed (.play e) (some j)
    | .ok () => ⟨.done session, some j⟩

/-- Gets a game ready. -/
def run [CharacterNames] (s : Surroundings) (args : List Text) : Launch :=
  match request args with
  | .error e => .refused e
  | .ok r =>
    match Journal.start s.files s.stamp (nonempty r.logFile) r.verbose with
    | .error e => .failed (.log e) none
    | .ok j =>
      match settings s r with
      | .error e => .failed (.config e) (some j)
      | .ok config =>
        match levels j r config.grid with
        | .error fault => .failed fault (some j)
        | .ok (levels, j) => begin s r config levels j

end CellWalk.CommandLine.Game
