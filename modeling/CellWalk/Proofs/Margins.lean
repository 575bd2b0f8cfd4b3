import CellWalk.Proofs.Steps
import CellWalk.Proofs.UndoRun

/-!
# Games and their margins

A session writes some things down beside the game: the ledger of its bench with the limit of the
history, the saved progress, what was exported and the diary. That is its margin. With another margin
an action comes to the same answer and the same game (`plays_act`). There are two exceptions. An undo
reads the history (`undo_pops`), and after a step to the next level the progress has to be saved, which
depends on the store (`advance_continuing`).
-/

namespace CellWalk
set_option autoImplicit false

/-- What a session has beside the game. -/
structure Margin extends Ledger where
  limit : Option { n : Nat // 0 < n }
  store : Option LevelStore
  exports : List Text
  diary : List Notice

namespace Margin

/-- The margin after a step that may have recorded the image of before. -/
def entered (x : Margin) (records : Bool) (image : Image) : Margin :=
  { x with toLedger := x.toLedger.entered records image }

/-- The margin after a load. -/
def cleared (x : Margin) : Margin := { x with history := x.history.clear }

/-- The margin with other images to go back to. -/
def withEntries (x : Margin) (entries : List Image) : Margin :=
  { x with history := { x.history with entries } }

theorem history_entered (x : Margin) (records : Bool) (image : Image) :
    (x.entered records image).history = if records then x.history.push image else x.history := by
  cases records <;> rfl

end Margin

namespace Session

/-- The session with another margin, to which its own is added; its history gives way. -/
def continuing (s : Session) (x : Margin) : Session :=
  { s with
    config := { s.config with historyLimit := x.limit }
    bench := s.bench.continuing x.toLedger
    store := x.store
    exports := x.exports ++ s.exports
    diary := x.diary ++ s.diary }

def margin (s : Session) : Margin :=
  { history := s.bench.history
    moves := s.bench.walker.moves
    rejected := s.bench.walker.rejected
    edits := s.bench.editor.edits
    limit := s.config.historyLimit
    store := s.store
    exports := s.exports
    diary := s.diary }

/-- The game alone. -/
def game (s : Session) : Session :=
  { s with
    config := { s.config with historyLimit := none }
    bench := { s.bench with
      history := .unlimited
      walker := { s.bench.walker with moves := 0, rejected := 0 }
      editor := { s.bench.editor with edits := 0 } }
    store := none
    exports := []
    diary := [] }

variable {s : Session}

/-- A session is its game with its own margin. -/
theorem continuing_margin (s : Session) : s.game.continuing s.margin = s := by
  simp [continuing, margin, game, Bench.continuing]

theorem note_continuing (s : Session) (x : Margin) (n : Notice) :
    (s.continuing x).note n = (s.note n).continuing x := by
  simp [note, continuing]

theorem level_continuing (s : Session) (x : Margin) : (s.continuing x).level = s.level := by
  cases s
  rfl

theorem levels_continuing (s : Session) (x : Margin) : (s.continuing x).levels = s.levels := by
  cases s
  rfl

theorem machine_continuing (s : Session) (x : Margin) : (s.continuing x).machine = s.machine := by
  cases s
  rfl

/-! Play. -/

/-- What an action makes of a machine if it neither takes back a change nor goes on to another level:
steps of the walker or of the editor, or the way back to the opening. -/
inductive Turned (opening : Image) (m : Machine) : Machine → Prop
  | walked {n : Machine} (walk : m.Walked n) : Turned opening m n
  | retouched {n : Machine} (retouch : m.Retouched n) : Turned opening m n
  | reset (fits : opening.length = m.memory.length) :
      Turned opening m { m with memory := opening, outlet := silence m.outlet }

/-- A session before and after such an action. -/
structure Turn (s after : Session) : Prop where
  machine : Turned s.opening s.machine after.machine
  rest : after = { s with bench := after.bench, exports := after.exports, diary := after.diary }

/-- A step comes to the same with whatever margin: the same answer, the same game, and one image for
the history or none. -/
def Plays (step : Session → Step) (s : Session) : Prop :=
  ∃ (answer : Except PlayError Bool) (after : Session) (records : Bool), s.Turn after ∧ ∀ x : Margin,
    step (s.continuing x) = (answer, after.continuing (x.entered records s.machine.memory))

theorem Turn.refl (s : Session) : s.Turn s := ⟨.retouched (.refl _), rfl⟩

/-- A refusal does not ask the margin. -/
theorem plays_refused (s : Session) : Plays (fun s => (.ok false, s)) s :=
  ⟨.ok false, s, false, .refl s, fun _ => rfl⟩

/-- A choice that does not look at the margin. -/
theorem Plays.ite {step step' : Session → Step} {chosen : Session → Bool}
    (blind : ∀ x, chosen (s.continuing x) = chosen s) (yes : Plays step s) (no : Plays step' s) :
    Plays (fun s => if chosen s then step s else step' s) s := by
  simp only [Plays, blind]
  split
  · exact yes
  · exact no

theorem Plays.noted {step : Session → Step} {n : Notice} (plays : Plays step (s.note n)) :
    Plays (fun s => step (s.note n)) s := by
  obtain ⟨answer, after, records, turn, same⟩ := plays
  refine ⟨answer, after, records, ⟨turn.machine, turn.rest⟩, fun x => ?_⟩
  change step ((s.continuing x).note n) = _
  rw [note_continuing]
  exact same x

/-- An edit that does not ask the ledger does not ask the margin. -/
theorem plays_edited {f : Bench → Bool × Bench}
    (follows : Bench.Follows Machine.Retouched f s.bench) :
    Plays (fun s => s.edited (f s.bench)) s := by
  obtain ⟨answer, bench, records, retouch, same⟩ := follows
  refine ⟨.ok answer, { s with bench }, records, ⟨.retouched retouch, rfl⟩, fun x => ?_⟩
  change (s.continuing x).edited (f (s.bench.continuing x.toLedger)) = _
  rw [same]
  rfl

theorem plays_walked {step : Bench → Bool × Bench}
    (follows : Bench.Follows Machine.Walked step s.bench) :
    Plays (fun s => (.ok (s.walked (step s.bench)).1, (s.walked (step s.bench)).2)) s := by
  obtain ⟨answer, bench, records, walk, same⟩ := follows
  have walks : ∀ x, (s.continuing x).walked (step (s.continuing x).bench) =
      (answer, if answer && bench.machine.isHalted then
          (({ s with bench } : Session).continuing (x.entered records s.machine.memory)).reportHalt
        else ({ s with bench } : Session).continuing (x.entered records s.machine.memory)) := by
    intro x
    change (s.continuing x).walked (step (s.bench.continuing x.toLedger)) = _
    rw [same]
    rfl
  have reports : ∀ (t : Session) (x : Margin), (t.continuing x).reportHalt = t.reportHalt.continuing x := by
    intro t x
    simp only [reportHalt]
    rw [← note_continuing, ← note_continuing]
    rfl
  simp only [Plays, walks, reports]
  split
  · exact ⟨_, ({ s with bench } : Session).reportHalt, records, ⟨.walked walk, rfl⟩, fun _ => rfl⟩
  · exact ⟨_, { s with bench }, records, ⟨.walked walk, rfl⟩, fun _ => rfl⟩

theorem plays_move (s : Session) (code : Int) :
    Plays (fun s => (.ok (s.move code).1, (s.move code).2)) s := by
  have moves : ∀ s : Session, ((.ok (s.move code).1, (s.move code).2) : Step) =
      if s.machine.isHalted then (.ok false, s)
      else (.ok (s.walked (s.bench.attemptMove code)).1, (s.walked (s.bench.attemptMove code)).2) := by
    intro s
    unfold move
    split <;> rfl
  simp only [moves]
  exact .ite (fun _ => rfl) (plays_refused s) (plays_walked (Bench.follows_attemptMove code s.bench))

theorem plays_click (s : Session) (index : Int) :
    Plays (fun s => (.ok (s.click index).1, (s.click index).2)) s := by
  have clicks : ∀ s : Session, ((.ok (s.click index).1, (s.click index).2) : Step) =
      if s.machine.isHalted || s.bench.editor.active then (.ok false, s)
      else (.ok (s.walked (s.bench.jumpTo index)).1, (s.walked (s.bench.jumpTo index)).2) := by
    intro s
    unfold click
    split <;> rfl
  simp only [clicks]
  exact .ite (fun _ => rfl) (plays_refused s) (plays_walked (Bench.follows_jumpTo index s.bench))

theorem restart_of_fits (differ : s.machine.memory ≠ s.opening)
    (fits : s.opening.length = s.machine.memory.length) :
    s.restart = (.ok true, { s with bench := { s.bench with
      machine := { s.machine with memory := s.opening, outlet := silence s.machine.outlet }
      history := s.bench.history.push s.machine.memory } }) := by
  simp only [machine] at differ fits
  simp [restart, Bench.load, Machine.load, Image.restore, Except.map, machine, differ, fits]

/-- Even a restart that fails has recorded the image of before. -/
theorem restart_of_unfit (unfit : s.opening.length ≠ s.machine.memory.length) :
    s.restart = (.error (.size ⟨s.machine.memory.length, s.opening.length⟩), { s with bench :=
      { s.bench with history := s.bench.history.push s.machine.memory } }) := by
  have differ : s.machine.memory ≠ s.opening := fun same => unfit (congrArg List.length same.symm)
  simp only [machine] at differ unfit
  simp [restart, Bench.load, Machine.load, Image.restore, Except.map, machine, differ, unfit]

/-- A restart asks memory and the opening only. -/
theorem plays_restart (s : Session) : Plays restart s := by
  by_cases same : s.machine.memory = s.opening
  · exact ⟨.ok false, s, false, .refl s, fun x => if_pos same⟩
  · by_cases fits : s.opening.length = s.machine.memory.length
    · exact ⟨_, { s with bench := { s.bench with machine := { s.machine with
        memory := s.opening, outlet := silence s.machine.outlet } } }, true, ⟨.reset fits, rfl⟩,
        fun x => restart_of_fits (s := s.continuing x) same fits⟩
    · exact ⟨.error (.size ⟨s.machine.memory.length, s.opening.length⟩), s, true, .refl s,
        fun x => restart_of_unfit (s := s.continuing x) fits⟩

theorem plays_exportProgram (s : Session) : Plays (fun s => (.ok true, s.exportProgram.2)) s := by
  refine ⟨.ok true, s.exportProgram.2, false, ⟨.retouched (.refl _), rfl⟩, fun x => ?_⟩
  simp [exportProgram, note, continuing, Margin.entered, Ledger.entered, machine, Bench.continuing]

/-- So no command asks the margin but an undo and the next level. -/
theorem plays_perform (s : Session) {c : Command} (notUndo : c ≠ .undo) (notNext : c ≠ .nextLevel) :
    Plays (fun s => s.perform c) s := by
  cases c with
  | undo => exact absurd rfl notUndo
  | nextLevel => exact absurd rfl notNext
  | move d => exact .ite (fun _ => rfl) (plays_refused s) (plays_move s _)
  | restart => exact plays_restart s
  | exportProgram => exact plays_exportProgram s
  | editToggle => exact plays_edited (f := fun b => (true, b.toggle)) (Bench.follows_toggle _)
  | cellToggle =>
    exact .ite (fun _ => rfl)
      (plays_edited (f := fun b => (true, b.toggleCell)) (Bench.follows_toggleCell _))
      (plays_refused s)
  | cursor d => exact plays_edited (Bench.follows_moveCursor _ _)
  | yank => exact plays_edited (Bench.follows_yank _)
  | mask d => exact plays_edited (Bench.follows_toggleDirection _ _)
  | cut => exact plays_edited (Bench.follows_cut _)
  | paste => exact plays_edited (Bench.follows_paste _)
  | onOff => exact plays_edited (Bench.follows_toggleOnOff _)
  | opcodeNext | opcodePrev => exact plays_edited (Bench.follows_cycleOpcode _ _)
  | operandNext | operandPrev => exact plays_edited (Bench.follows_cycleOperand _ _)
  | operandInc | operandDec | operandInc10 | operandDec10 =>
    exact plays_edited (Bench.follows_adjustOperand _ _)
  | modeToggle => exact plays_edited (Bench.follows_toggleMode _)
  | debuggerHere => exact plays_edited (Bench.follows_bringDebugger _)

theorem plays_act (s : Session) {a : Action} (notUndo : a ≠ .command .undo)
    (notNext : a ≠ .command .nextLevel) : Plays (fun s => s.act a) s := by
  cases a with
  | click index => exact plays_click s index
  | command c =>
    have performs := plays_perform (s.note (.command c.name)) (fun e => notUndo (congrArg _ e))
      (fun e => notNext (congrArg _ e))
    exact performs.noted

/-! Undoing. -/

/-- The session with an image for its memory. -/
def restoring (s : Session) (image : Image) : Session :=
  { s with bench := { s.bench with machine := { s.machine with memory := image } } }

theorem undo_stays {x : Margin} (entries : x.history.entries = []) :
    (s.continuing x).act (.command .undo) =
      (.ok false, (s.note (.command Command.undo.name)).continuing x) := by
  rw [← note_continuing]
  exact undo_refused entries

theorem undo_of_fits {image : Image} {older : List Image}
    (fits : image.length = s.machine.memory.length)
    (entries : s.bench.history.entries = image :: older) :
    s.undo = (.ok true, { s with bench := { s.bench with
      machine := { s.machine with memory := image }
      history := { s.bench.history with entries := older } } }) := by
  simp only [machine] at fits
  simp only [undo, Bench.undo, entries, Bench.load, Machine.load, Image.restore, if_pos fits]
  rfl

/-- An undo takes the newest image off the history and restores it. -/
theorem undo_pops {x : Margin} {image : Image} {older : List Image}
    (fits : image.length = s.machine.memory.length) (entries : x.history.entries = image :: older) :
    (s.continuing x).act (.command .undo) =
      (.ok true, ((s.restoring image).note (.command Command.undo.name)).continuing
        (x.withEntries older)) := by
  rw [← note_continuing]
  exact undo_of_fits (s := (s.continuing x).note _) fits entries

/-- What an undo comes to if every image fits the machine. -/
theorem undo_cases (fits : ∀ image ∈ s.bench.history.entries, image.length = s.machine.memory.length) :
    (s.bench.history.entries = [] ∧
        s.act (.command .undo) = (.ok false, s.note (.command Command.undo.name))) ∨
      ∃ image older, s.bench.history.entries = image :: older ∧
        s.act (.command .undo) =
          (.ok true, { s.note (.command Command.undo.name) with bench := { s.bench with
            machine := { s.machine with memory := image }
            history := { s.bench.history with entries := older } } }) := by
  cases entries : s.bench.history.entries with
  | nil => exact .inl ⟨rfl, undo_refused entries⟩
  | cons image older =>
    have newest : image.length = s.machine.memory.length :=
      fits image (by rw [entries]; exact List.mem_cons_self)
    exact .inr ⟨image, older, rfl,
      undo_of_fits (s := s.note (.command Command.undo.name)) newest entries⟩

/-- What a restart comes to if the opening fits the machine. -/
theorem restart_cases (fits : s.opening.length = s.machine.memory.length) :
    (s.machine.memory = s.opening ∧
        s.act (.command .restart) = (.ok false, s.note (.command Command.restart.name))) ∨
      (s.machine.memory ≠ s.opening ∧
        s.act (.command .restart) =
          (.ok true, { s.note (.command Command.restart.name) with bench := { s.bench with
            machine := { s.machine with memory := s.opening, outlet := silence s.machine.outlet }
            history := s.bench.history.push s.machine.memory } })) := by
  by_cases same : s.machine.memory = s.opening
  · exact .inl ⟨same, if_pos same⟩
  · exact .inr ⟨same, restart_of_fits (s := s.note (.command Command.restart.name)) same fits⟩

/-- Only the step to the next level changes more than the bench and what is told. -/
theorem rest_act (s : Session) {a : Action} (notNext : a ≠ .command .nextLevel) :
    (s.act a).2 = { s with
      bench := (s.act a).2.bench
      exports := (s.act a).2.exports
      diary := (s.act a).2.diary } := by
  by_cases undoing : a = .command .undo
  · subst undoing
    change (s.note _).undo.2 = { s with
      bench := (s.note _).undo.2.bench
      exports := (s.note _).undo.2.exports
      diary := (s.note _).undo.2.diary }
    unfold undo
    split <;> rfl
  · obtain ⟨answer, after, records, turn, same⟩ := plays_act s.game undoing notNext
    have acts : s.act a = _ := continuing_margin s ▸ same s.margin
    rw [acts, turn.rest]
    rfl

theorem level_act (s : Session) {a : Action} (notNext : a ≠ .command .nextLevel) :
    (s.act a).2.level = s.level := by
  rw [rest_act s notNext]

/-! Starting over. -/

/-- The session that starts over from an image. -/
def begun (s : Session) (image : Image) (authored : Bool) : Session :=
  { s with
    bench := { s.bench.leave with
      machine := { s.machine with
        memory := image
        outlet := silence s.machine.outlet
        executions := 0
        sends := 0
        stackPeak := 0 }
      history := s.bench.history.clear
      walker := { s.bench.walker with enforce := s.config.policy.enforces authored } }
    opening := image }

/-- The session whose current level is the given one. -/
def choosing (s : Session) (level : Level) : Session := { s with level := some level, seed := none }

/-- The session that has loaded a level. -/
def onLevel (s : Session) (level : Level) : Session :=
  ((s.choosing level).begun level.program true).note (.loaded level.id level.goals)

/-- The session that has drawn the program of a seed. -/
def drawing (s : Session) (seed : Int) : Session :=
  { s with
    level := none
    seed := some seed
    bench := { s.bench with machine := s.machine.randomize seed } }

theorem beginWith_of_fits {image : Image} (fits : image.length = s.machine.memory.length)
    (authored : Bool) : s.beginWith image authored = .ok (s.begun image authored) := by
  simp only [beginWith, Machine.load, Image.restore, if_pos fits]
  rfl

theorem beginWith_of_unfit {image : Image} (unfit : image.length ≠ s.machine.memory.length)
    (authored : Bool) :
    s.beginWith image authored = .error ⟨s.machine.memory.length, image.length⟩ := by
  simp only [beginWith, Machine.load, Image.restore, if_neg unfit]
  rfl

/-- A level that fits is begun. -/
theorem loadLevel_begun {level : Level} (fits : level.program.length = s.machine.memory.length) :
    s.loadLevel level = (.ok (), s.onLevel level) := by
  have begins : (s.choosing level).beginWith level.program true = .ok _ :=
    beginWith_of_fits (s := s.choosing level) fits true
  simp only [choosing] at begins
  simp only [loadLevel, begins]
  rfl

/-- One that does not is chosen without being begun. -/
theorem loadLevel_unfit {level : Level} (unfit : level.program.length ≠ s.machine.memory.length) :
    s.loadLevel level =
      (.error (.size ⟨s.machine.memory.length, level.program.length⟩), s.choosing level) := by
  have fails : (s.choosing level).beginWith level.program true = .error _ :=
    beginWith_of_unfit (s := s.choosing level) unfit true
  simp only [choosing] at fails
  simp only [loadLevel, fails]
  rfl

theorem loadRandom_begun (s : Session) (seed : Int) :
    s.loadRandom seed = (.ok (),
      ((s.drawing seed).begun (s.machine.randomize seed).memory false).note (.randomized seed)) := by
  have begins : (s.drawing seed).beginWith (s.machine.randomize seed).memory false = .ok _ :=
    beginWith_of_fits rfl false
  simp only [drawing] at begins
  simp only [loadRandom, begins]
  rfl

theorem onLevel_continuing (s : Session) (x : Margin) (level : Level) :
    (s.continuing x).onLevel level = (s.onLevel level).continuing x.cleared := by
  rw [onLevel, onLevel, ← note_continuing]
  rfl

/-! Going on to the next level. -/

/-- The next level is in the catalogue. -/
theorem mem_of_nextLevel? {levels : List Level} {id : Text} {next : Level}
    (follows : nextLevel? levels id = some next) : next ∈ levels :=
  (List.dropWhile_sublist _).mem (List.mem_of_mem_tail (List.mem_of_mem_head? follows))

/-- What the step to the next level comes to. -/
theorem advance_eq (s : Session) :
    s.advance =
      match s.level with
      | none => (.ok false, s)
      | some level =>
        if s.machine.isHalted then
          match nextLevel? s.levels level.id with
          | none => (.ok false, s.note (.lastLevel level.id))
          | some next =>
            if next.program.length = s.machine.memory.length then
              (s.onLevel next).saveProgress next.id
            else
              (.error (.size ⟨s.machine.memory.length, next.program.length⟩), s.choosing next)
        else (.ok false, s) := by
  unfold advance
  cases s.level with
  | none => rfl
  | some level =>
    dsimp only
    split
    · cases nextLevel? s.levels level.id with
      | none => rfl
      | some next =>
        by_cases fits : next.program.length = s.machine.memory.length
        · simp only [loadLevel_begun fits, if_pos fits]
        · simp only [loadLevel_unfit fits, if_neg fits]
    · rfl

/-- What is saved is saved, or it is not: the game does not notice. -/
theorem saveProgress_cases (s : Session) (id : Text) :
    ((s.saveProgress id).1 = .ok true ∨ ∃ e, (s.saveProgress id).1 = .error (.save e)) ∧
      (s.saveProgress id).2 = { s with
        store := (s.saveProgress id).2.store
        diary := (s.saveProgress id).2.diary } := by
  unfold saveProgress
  split
  · exact ⟨.inl rfl, rfl⟩
  · dsimp only
    split
    · exact ⟨.inl rfl, rfl⟩
    · exact ⟨.inr ⟨_, rfl⟩, rfl⟩

/-- The step to the next level loads nothing, and then it comes to the same with whatever margin; or it
loads a level of the catalogue and saves its id. -/
theorem advance_continuing (s : Session) :
    (∃ (answer : Except PlayError Bool) (after : Session),
        (answer = .ok false ∨ ∃ e, answer = .error (.size e)) ∧
        after = { s with level := after.level, seed := after.seed, diary := after.diary } ∧
        ∀ x, (s.continuing x).advance = (answer, after.continuing x)) ∨
      ∃ next ∈ s.levels, next.program.length = s.machine.memory.length ∧
        ∀ x, (s.continuing x).advance = ((s.continuing x).onLevel next).saveProgress next.id := by
  simp only [advance_eq, level_continuing, levels_continuing, machine_continuing]
  cases s.level with
  | none => exact .inl ⟨.ok false, s, .inl rfl, rfl, fun _ => rfl⟩
  | some level =>
    dsimp only
    split
    · cases follows : nextLevel? s.levels level.id with
      | none =>
        exact .inl ⟨.ok false, s.note (.lastLevel level.id), .inl rfl, rfl,
          fun x => by rw [note_continuing]⟩
      | some next =>
        dsimp only
        split
        · rename_i fits
          exact .inr ⟨next, mem_of_nextLevel? follows, fits, fun _ => rfl⟩
        · exact .inl ⟨_, s.choosing next, .inr ⟨_, rfl⟩, rfl, fun _ => rfl⟩
    · exact .inl ⟨.ok false, s, .inl rfl, rfl, fun _ => rfl⟩

theorem nextLevel_continuing (s : Session) :
    (∃ (answer : Except PlayError Bool) (after : Session),
        (answer = .ok false ∨ ∃ e, answer = .error (.size e)) ∧
        after = { s with level := after.level, seed := after.seed, diary := after.diary } ∧
        ∀ x, (s.continuing x).act (.command .nextLevel) = (answer, after.continuing x)) ∨
      ∃ next ∈ s.levels, next.program.length = s.machine.memory.length ∧
        ∀ x, (s.continuing x).act (.command .nextLevel) =
          (((s.note (.command Command.nextLevel.name)).onLevel next).continuing x.cleared).saveProgress
            next.id := by
  have noted : ∀ x, (s.continuing x).act (.command .nextLevel) =
      ((s.note (.command Command.nextLevel.name)).continuing x).advance := by
    intro x
    rw [← note_continuing]
    rfl
  simp only [noted, ← onLevel_continuing]
  exact advance_continuing (s.note _)

/-- The step to the next level loads nothing, or it loads a level of the catalogue and saves its id. -/
theorem nextLevel_cases (s : Session) :
    (∃ (answer : Except PlayError Bool) (after : Session),
        (answer = .ok false ∨ ∃ e, answer = .error (.size e)) ∧
        after = { s with level := after.level, seed := after.seed, diary := after.diary } ∧
        s.act (.command .nextLevel) = (answer, after)) ∨
      ∃ next ∈ s.levels, next.program.length = s.machine.memory.length ∧
        s.act (.command .nextLevel) =
          ((s.note (.command Command.nextLevel.name)).onLevel next).saveProgress next.id := by
  rcases nextLevel_continuing s.game with
    ⟨answer, after, stayed, rest, same⟩ | ⟨next, listed, fits, same⟩
  · have stepped := same s.margin
    rw [continuing_margin] at stepped
    refine .inl ⟨answer, after.continuing s.margin, stayed, ?_, stepped⟩
    rw [rest]
    simp [continuing, margin, game, Bench.continuing]
  · have stepped := same s.margin
    rw [continuing_margin, ← onLevel_continuing, ← note_continuing, continuing_margin] at stepped
    exact .inr ⟨next, listed, fits, stepped⟩

end Session

end CellWalk
