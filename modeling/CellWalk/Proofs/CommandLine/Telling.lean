import CellWalk.CommandLine.Assembler
import CellWalk.CommandLine.Game
import CellWalk.Proofs.Assembly.Faults
import CellWalk.Proofs.Code.LevelCode

/-!
# What the commands tell about a program text

The assembler is given a file of program text, and the game a directory of them, which it reads one by one.
Either command shows an error with a line and a column where the text is refused, and its exit code is 1
(`assembling_told`). There is no such error, and no program either, if a lexeme of the text means nothing:
then the command breaks off (`run_labelFile`).
-/

namespace CellWalk
set_option autoImplicit false
open Assembly

namespace Level

section reading
variable [CharacterNames] {file : Path} {text : Text} {g : Grid} {p : Program}

/-- A file that fails ends the reading, whatever comes after it. -/
theorem ofFiles_of_error {σ : Type} {files : σ → FileTree} {trace : σ → Level → Path → σ} {cols rows : Int}
    {s s' : σ} {before after : List Path} {ls : List Level} {e : LevelError}
    (earlier : ofFiles files trace cols rows s before = .ok (ls, s'))
    (failed : ofFile (files s') file cols rows = .error e) :
    ofFiles files trace cols rows s (before ++ file :: after) = .error e := by
  induction before generalizing s ls with
  | nil =>
    cases earlier
    simp only [List.nil_append, ofFiles, failed]
  | cons path before ih =>
    simp only [ofFiles] at earlier
    split at earlier
    · cases earlier
    · rename_i level read
      cases later : ofFiles files trace cols rows (trace s level path) before with
      | error e' =>
        rw [later] at earlier
        cases earlier
      | ok r =>
        rw [later] at earlier
        cases earlier
        simp only [List.cons_append, ofFiles, read, ih later]
        rfl

/-- A program with goals is a level. -/
theorem ofText_of_assembled (done : assemble text g.cols g.rows = .ok p) (registers : 4 ≤ p.memory.length) :
    (∃ level, ofText file text g.cols g.rows = .ok level) ∨
      ofText file text g.cols g.rows = .error (.noGoals file.name) := by
  simp only [ofText, done, LevelCode.export?_eq registers]
  cases p.goals with
  | none => exact .inr rfl
  | some goals => exact .inl ⟨_, rfl⟩

end reading

end Level

namespace CommandLine

/-- The command shows an error with the place of a refusal and the reason, and its exit code is 1. -/
def Outcome.Tells {φ α : Type} (o : Outcome φ α) (refusal : Refusal) (place : Place) : Prop :=
  o.exitCode = 1 ∧ o.reportText = Outcome.reportMark ++ Text.ofString
    (s!"line {place.line}, column {place.column}: " ++ refusal.message) ++ [Text.newline]

namespace Assembler

/-- The command line asks for the program of a file on the grid, and the file holds the text. -/
inductive Opens (files : FileTree) (args : List Text) (g : Grid) (text : Text) : Prop
  | intro {r : Request} (asked : request args = .ok r) (assembling : r.disassemble = false)
      (shape : sides r = .ok ((g.cols : Int), (g.rows : Int)))
      (read : files.readText (Path.ofText r.source) = .ok text) : Opens files args g text

section opens
variable [CharacterNames] {files : FileTree} {args : List Text} {text : Text} {g : Grid}

/-- A fault of the text is the fault of the command. -/
theorem Opens.run_of_failed {fault : Assembly.Fault Place} (opens : Opens files args g text)
    (failed : assemble text g.cols g.rows = .error fault) :
    run files args = .ofFault (.program fault) (fault.message?.map Text.ofString) := by
  obtain ⟨asked, assembling, shape, read⟩ := opens
  rename_i r
  have broken : assembled files r = .error (.program fault) := by
    rw [assembled, read]
    simp only [shape, failed]
  rw [run, asked]
  simp only [assembling, broken, Bool.false_eq_true, if_false]
  rfl

/-- The image of the program is printed, as it is or as exported. -/
theorem Opens.run_of_assembled {p : Program} (opens : Opens files args g text)
    (done : assemble text g.cols g.rows = .ok p) (registers : 4 ≤ p.memory.length) :
    ∃ memory : Image, memory.length = p.memory.length ∧
      run files args = .done (LevelCode.ofImage memory ++ [Text.newline]) := by
  obtain ⟨asked, assembling, shape, read⟩ := opens
  rename_i r
  obtain ⟨memory, size, chosen⟩ : ∃ memory, memory.length = p.memory.length ∧
      (if r.raw then some p.memory else LevelCode.export? p.memory) = some memory := by
    cases r.raw with
    | true => exact ⟨_, rfl, rfl⟩
    | false => exact ⟨_, LevelCode.length_fresh p.memory, LevelCode.export?_eq registers⟩
  have printed : assembled files r = .ok (LevelCode.ofImage memory ++ [Text.newline]) := by
    rw [assembled, read]
    simp only [shape, done, chosen]
  refine ⟨memory, size, ?_⟩
  rw [run, asked]
  simp only [assembling, printed, Bool.false_eq_true, if_false]

end opens

end Assembler

namespace Game

section opens
variable [CharacterNames] {s : Surroundings} {args : List Text} {g : Grid} {file : Path} {text : Text}

/-- The game comes to a file of its directory of levels: those before have been read, and it holds the
text. -/
inductive Opens (s : Surroundings) (args : List Text) (g : Grid) (file : Path) (text : Text) : Prop
  | intro {r : Request} {name : Text} {j j' : Journal} {config : Config} {before after : List Path}
      {ls : List Level} (asked : request args = .ok r) (directory : r.levelsDir = .value name)
      (logged : Journal.start s.files s.stamp (nonempty r.logFile) r.verbose = .ok j)
      (configured : settings s r = .ok config) (grid : config.grid = g)
      (listed : j.files.entriesEnding (Path.ofText name) Level.suffix = .ok (before ++ file :: after))
      (earlier : Level.ofFiles Journal.files noteLevel g.cols g.rows j before = .ok (ls, j'))
      (read : j'.files.readText file = .ok text) : Opens s args g file text

/-- The game does not start if the text is no level. -/
theorem Opens.outcome_of_failed {e : LevelError} (opens : Opens s args g file text)
    (failed : Level.ofText file text g.cols g.rows = .error e) :
    (run s args).outcome = .ofFault (.level e) e.message? := by
  obtain ⟨asked, directory, logged, configured, rfl, listed, earlier, read⟩ := opens
  rename_i r name j j' config before after ls
  have noLevel : Level.ofFile j'.files file config.grid.cols config.grid.rows = .error e := by
    rw [Level.ofFile, read]
    exact failed
  have broken : levels j r config.grid = .error (.level e) := by
    simp only [levels, directory, Level.ofDirectory, listed, Level.ofFiles_of_error earlier noLevel]
  simp only [run, asked, logged, configured, broken]
  rfl

theorem Opens.outcome_of_fault {fault : Assembly.Fault Place} (opens : Opens s args g file text)
    (failed : assemble text g.cols g.rows = .error fault) :
    (run s args).outcome = .ofFault (.level (.program fault)) (fault.message?.map Text.ofString) :=
  opens.outcome_of_failed (by rw [Level.ofText, failed])

end opens

end Game

/-- Every text is assembled; or it is refused with a line and a column, which both commands tell wherever
they come to the text; or it has a lexeme that means nothing, or no memory holds the image, and then there
is no program and they break off. Only the game asks more of a text that is assembled: a level has goals. -/
theorem assembling_told [CharacterNames] (g : Grid) (text : Text) :
    (∃ p, assemble text g.cols g.rows = .ok p ∧ (∀ fault : Assembly.Fault Place, ¬ Breaks text fault) ∧
      (∀ files args, Assembler.Opens files args g text →
        ∃ code, Assembler.run files args = .done code) ∧
      ∀ s args file, Game.Opens s args g file text →
        (∃ level, Level.ofText file text g.cols g.rows = .ok level) ∨
          (Game.run s args).outcome =
            .failed (file.name ++ Text.ofString ": level has no .cycles goals")) ∨
    (∃ refusal place, assemble text g.cols g.rows = .error (.refused refusal place) ∧ place.Told ∧
      (∀ files args, Assembler.Opens files args g text →
        (Assembler.run files args).Tells refusal place) ∧
      ∀ s args file, Game.Opens s args g file text → (Game.run s args).outcome.Tells refusal place) ∨
    ∃ fault, assemble text g.cols g.rows = .error fault ∧ (Breaks text fault ∨ Oversized g fault) ∧
      (∀ files args, Assembler.Opens files args g text →
        Assembler.run files args = .broken (.program fault)) ∧
      ∀ s args file, Game.Opens s args g file text →
        (Game.run s args).outcome = .broken (.level (.program fault)) := by
  rcases assemble_outcomes g text with ⟨p, done, size, whole⟩ | ⟨refusal, place, failed, told⟩ |
    ⟨fault, failed, cause⟩
  · have registers : 4 ≤ p.memory.length := by
      rw [size, Machine.sizeFor, programBase]
      omega
    refine .inl ⟨p, done, whole, fun files args opens => ?_, fun s args file opens => ?_⟩
    · obtain ⟨memory, -, printed⟩ := opens.run_of_assembled done registers
      exact ⟨_, printed⟩
    · exact (Level.ofText_of_assembled done registers).imp_right opens.outcome_of_failed
  · refine .inr (.inl ⟨refusal, place, failed, told, fun files args opens => ?_, fun s args file opens => ?_⟩)
    · rw [opens.run_of_failed failed]
      exact ⟨rfl, rfl⟩
    · rw [opens.outcome_of_fault failed]
      exact ⟨rfl, rfl⟩
  · have untold : fault.message? = none :=
      cause.elim Breaks.message?_eq_none Oversized.message?_eq_none
    refine .inr (.inr ⟨fault, failed, cause, fun files args opens => ?_, fun s args file opens => ?_⟩)
    · rw [opens.run_of_failed failed, untold]
      rfl
    · rw [opens.outcome_of_fault failed, untold]
      rfl

section files
attribute [local instance] Label.bulletNames

/-- A text with a named character in a label, a cell that is not on the grid, and a kelvin sign in a
comment. -/
def strayText : Text := ".label \"\\N\x7bBULLET\x7d\" 13,0: NOP ; \u212a"

/-- The only file of a directory. -/
def levelFile (text : Text) : FileTree := ⟨[], [(["d", "x.asm"], Utf8.encode text)], []⟩

/-- The grid on which a game is played. -/
def gameGrid : Grid := ⟨13, 13, Nat.succ_pos 12, Nat.succ_pos 12⟩

/-- A game with that file alone. -/
def gameOn (text : Text) : Game.Surroundings := ⟨levelFile text, none, "/", "now", 0⟩

theorem opens_gameOn (text : Text) (read : (levelFile text).readText ⟨0, ["d", "x.asm"]⟩ = .ok text) :
    Game.Opens (gameOn text) ["--levels-dir", "d"] gameGrid ⟨0, ["d", "x.asm"]⟩ text := by
  let j : Journal := ⟨levelFile text, "now", none, .warning, []⟩
  have listed : j.files.entriesEnding (Path.ofText "d") Level.suffix =
      .ok ([] ++ [⟨0, ["d", "x.asm"]⟩]) := rfl
  have earlier : Level.ofFiles Journal.files Game.noteLevel 13 13 j [] = .ok ([], j) := rfl
  exact .intro rfl rfl rfl rfl rfl listed earlier read

theorem assembling_told_strayText :
    Assembler.Opens (levelFile strayText) ["d/x.asm"] gameGrid strayText ∧
      Game.Opens (gameOn strayText) ["--levels-dir", "d"] gameGrid ⟨0, ["d", "x.asm"]⟩ strayText ∧
      (Assembler.run (levelFile strayText) ["d/x.asm"]).Tells (.cellOutside 13 0 13 13) ⟨1, 21⟩ ∧
      (Game.run (gameOn strayText) ["--levels-dir", "d"]).outcome.Tells
        (.cellOutside 13 0 13 13) ⟨1, 21⟩ := by
  have refused : assemble strayText 13 13 = .error (.refused (.cellOutside 13 0 13 13) ⟨1, 21⟩) := by
    decide +kernel
  have assembler : Assembler.Opens (levelFile strayText) ["d/x.asm"] gameGrid strayText :=
    .intro (r := ⟨"d/x.asm", false, false, .unset, .unset⟩) (by decide +kernel) rfl rfl (by decide +kernel)
  have game := opens_gameOn strayText (by decide +kernel)
  refine ⟨assembler, game, ?_⟩
  rcases assembling_told gameGrid strayText with
    ⟨p, done, -⟩ | ⟨refusal, place, failed, -, told, toldInGame⟩ | ⟨fault, failed, breaks, -⟩
  · cases refused.symm.trans done
  · cases refused.symm.trans failed
    exact ⟨told _ _ assembler, toldInGame _ _ _ game⟩
  · cases refused.symm.trans failed
    rcases breaks with ⟨-, -, -, -, nothing⟩ | ⟨-, d, -, large⟩
    · cases nothing
    · cases large

/-- A label whose escape lacks its digits. -/
def unfinishedText : Text := ".label \"\\x\""

/-- The commands break off there instead of telling a line and a column. -/
theorem run_labelFile :
    assemble unfinishedText 1 1 = .error (.label .malformed) ∧
      Breaks unfinishedText (.label .malformed : Assembly.Fault Place) ∧
      Assembler.run (levelFile unfinishedText) ["d/x.asm", "--cols", "1", "--rows", "1"] =
        .broken (.program (.label .malformed)) ∧
      (Game.run (gameOn unfinishedText) ["--levels-dir", "d"]).outcome =
        .broken (.level (.program (.label .malformed))) := by
  have read : (levelFile unfinishedText).readText ⟨0, ["d", "x.asm"]⟩ = .ok unfinishedText := by
    decide +kernel
  have failed : assemble unfinishedText 1 1 = .error (.label .malformed) := by decide +kernel
  have failed' : assemble unfinishedText 13 13 = .error (.label .malformed) := by decide +kernel
  have forms : readForms unfinishedText = .ok [.label ⟨"\"\\x\"", 4⟩] := by decide +kernel
  have assembler : Assembler.Opens (levelFile unfinishedText) ["d/x.asm", "--cols", "1", "--rows", "1"]
      ⟨1, 1, Nat.one_pos, Nat.one_pos⟩ unfinishedText :=
    .intro (r := ⟨"d/x.asm", false, false, .value 1, .value 1⟩) (by decide +kernel) rfl rfl read
  refine ⟨failed, ?_, assembler.run_of_failed failed, (opens_gameOn _ read).outcome_of_fault failed'⟩
  have lexeme : (.string, ⟨"\"\\x\"", 4⟩) ∈ (Form.label ⟨"\"\\x\"", 4⟩).lexemes := List.mem_singleton_self _
  have inText := allIn_of_readForms List.suffix_rfl forms _ (List.mem_singleton_self _) _ lexeme
  exact .intro forms (List.mem_singleton_self _) lexeme inText (.string (by decide +kernel))

end files

end CommandLine

end CellWalk
