import CellWalk.Proofs.Halting

/-!
# The modes of the editor

What a player may do depends on whether the editor is open. A closed editor refuses every command that
is for it and holds on to nothing: its cursor is at the first cell and its yanked record is blank. While
it is open, the player cannot walk (`modes_divide_commands`). An open editor is closed by its own command
or by a load only, and both empty it; whatever else is done, it stays open (`Guarded`).
-/

namespace CellWalk
set_option autoImplicit false

/-- Whether the command is for an open editor: it moves the cursor, yanks, edits, or switches between
moving the cursor and toggling directions. -/
def Command.asksEditor : Command → Bool
  | .cursor _ | .yank | .cellToggle => true
  | c => c.edits

namespace Editor

/-- If the editor is closed, it is as one that was never opened but for the count of edits. -/
def Settled (e : Editor) : Prop := e.mode = .off → e.pointer = 0 ∧ e.yanked = .blank

variable {e : Editor}

theorem active_iff : e.active = true ↔ e.mode ≠ .off := by
  simp [active]

/-- An open editor has nothing to settle. -/
theorem Settled.of_active (active : e.active = true) : e.Settled :=
  fun off => absurd off (active_iff.1 active)

end Editor

namespace Bench

/-- A step for an open editor: a closed editor refuses it, and an open one is open afterwards. -/
def Guarded (b : Bench) (r : Bool × Bench) : Prop :=
  if b.editor.active then r.2.editor.active = true else r = (false, b)

variable {b : Bench} {r : Bool × Bench}

/-- A step is for an open editor if a closed one refuses it and an open one stays open. -/
theorem Guarded.of_cases (closed : b.editor.active = false → r = (false, b))
    (opened : b.editor.active = true → r.2.editor.active = true) : b.Guarded r := by
  unfold Guarded
  split
  · rename_i active
    exact opened active
  · rename_i inactive
    exact closed (Bool.eq_false_iff.2 inactive)

theorem guarded_refused (b : Bench) : b.Guarded (false, b) := .of_cases (fun _ => rfl) id

/-- No edit takes place in a closed editor, whatever it would change. -/
theorem guarded_edit (b : Bench) (change : Machine → Machine) : b.Guarded (b.edit change) := by
  apply Guarded.of_cases
  · intro closed
    simp [edit, editable, closed]
  · intro opened
    simp only [edit]
    split <;> exact opened

theorem guarded_editField (b : Bench) (field value : Int) : b.Guarded (b.editField field value) :=
  guarded_edit b _

/-- An open editor may refuse as well: an empty and a final cell have no directions. -/
theorem guarded_toggleDirection (b : Bench) (code : Int) : b.Guarded (b.toggleDirection code) := by
  simp only [toggleDirection]
  split
  · exact guarded_refused b
  · exact guarded_refused b
  · exact guarded_editField b _ _

/-- The yanked record is remembered by an open editor only. -/
theorem guarded_yank (b : Bench) : b.Guarded b.yank := by
  apply Guarded.of_cases
  · intro closed
    simp [yank, editable, closed]
  · intro opened
    unfold yank
    split <;> exact opened

/-- The edit of a cut takes place in the editor that has yanked. -/
theorem guarded_cut (b : Bench) : b.Guarded b.cut := by
  have yanks := guarded_yank b
  unfold Guarded at yanks
  apply Guarded.of_cases
  · intro closed
    rw [if_neg (Bool.eq_false_iff.1 closed)] at yanks
    rw [cut, yanks]
  · intro opened
    rw [if_pos opened] at yanks
    unfold cut
    split
    · rename_i e
      rwa [e] at yanks
    · rename_i b' e
      rw [e] at yanks
      have edits := guarded_edit b' fun m => m.setInstruction b'.editor.pointer .blank
      rwa [Guarded, if_pos yanks] at edits

theorem guarded_paste (b : Bench) : b.Guarded b.paste := guarded_edit b _

theorem guarded_cycleOperand (b : Bench) (step : Int) : b.Guarded (b.cycleOperand step) := by
  simp only [cycleOperand]
  split
  · exact guarded_editField b _ _
  · exact guarded_refused b

theorem guarded_adjustOperand (b : Bench) (delta : Int) : b.Guarded (b.adjustOperand delta) := by
  simp only [adjustOperand]
  split
  · exact guarded_editField b _ _
  · exact guarded_refused b

/-- A record without an operand has no mode to switch. -/
theorem guarded_toggleMode (b : Bench) : b.Guarded b.toggleMode := by
  simp only [toggleMode]
  split
  · exact guarded_edit b _
  · exact guarded_refused b

/-- The cursor of a closed editor does not move. -/
theorem guarded_moveCursor (b : Bench) (code : Int) : b.Guarded (b.moveCursor code) := by
  apply Guarded.of_cases
  · intro closed
    simp [moveCursor, closed]
  · intro opened
    simp only [moveCursor, opened, if_true]
    split <;> exact opened

/-- Toggling directions instead of moving the cursor neither opens nor closes the editor. -/
theorem active_toggleCell (b : Bench) : b.toggleCell.editor.active = b.editor.active := by
  unfold toggleCell
  split
  case h_1 => rfl
  all_goals
    rename_i mode
    simp only [Editor.active, mode]
    decide

/-- Closing the editor empties it. -/
theorem settled_toggle (b : Bench) : b.toggle.editor.Settled := by
  unfold toggle
  split
  · exact fun _ => ⟨rfl, rfl⟩
  · exact fun off => nomatch off

/-! Walking and going back leave the editor alone. -/

/-- Entering a cell is nothing to the editor, nor is being refused there. -/
theorem editor_commit (b : Bench) (index : Int) : (b.commit index).2.editor = b.editor := by
  unfold commit
  split <;> rfl

theorem editor_attemptMove (b : Bench) (code : Int) : (b.attemptMove code).2.editor = b.editor := by
  unfold attemptMove
  split
  · split
    · exact editor_commit b _
    · rfl
  · rfl

theorem editor_jumpTo (b : Bench) (index : Int) : (b.jumpTo index).2.editor = b.editor := by
  unfold jumpTo
  split
  · exact editor_commit b index
  · rfl

/-- An image is loaded into the machine only. -/
theorem editor_of_load {b' : Bench} {image : Image} (loaded : b.load image = .ok b') :
    b'.editor = b.editor := by
  unfold load at loaded
  cases machine : b.machine.load image with
  | error e =>
    rw [machine] at loaded
    cases loaded
  | ok m =>
    rw [machine] at loaded
    cases loaded
    rfl

/-- Going back does not bring back the editor of that time. -/
theorem editor_undo (b : Bench) : b.undo.2.editor = b.editor := by
  unfold undo
  split
  · rfl
  · dsimp only
    split
    · rename_i restored
      have same := editor_of_load restored
      exact same
    · rfl

end Bench

namespace Session

/-- A step for an open editor, as `Bench.Guarded` has it. -/
def Guarded (s : Session) (step : Step) : Prop :=
  if s.bench.editor.active then step.2.bench.editor.active = true else step = (.ok false, s)

variable {s t : Session}

/-- A session does with an edit what its bench does. -/
theorem guarded_edited {r : Bool × Bench} (guarded : s.bench.Guarded r) : s.Guarded (s.edited r) := by
  unfold Guarded
  unfold Bench.Guarded at guarded
  split
  · rename_i active
    rwa [if_pos active] at guarded
  · rename_i inactive
    rw [if_neg inactive] at guarded
    rw [guarded]
    rfl

/-- A closed editor answers this command itself; the bench is not even asked. -/
theorem guarded_cellToggle (s : Session) : s.Guarded (s.perform .cellToggle) := by
  simp only [Guarded, perform]
  split
  · rename_i active
    exact (Bench.active_toggleCell s.bench).trans active
  · rfl

/-- Whatever asks the editor is a step for an open one, by cases of the command. -/
theorem guarded_perform {c : Command} (asks : c.asksEditor = true) : s.Guarded (s.perform c) := by
  cases c with
  | cellToggle => exact guarded_cellToggle s
  | cursor d => exact guarded_edited (Bench.guarded_moveCursor _ _)
  | mask d => exact guarded_edited (Bench.guarded_toggleDirection _ _)
  | yank => exact guarded_edited (Bench.guarded_yank _)
  | cut => exact guarded_edited (Bench.guarded_cut _)
  | paste => exact guarded_edited (Bench.guarded_paste _)
  | onOff | opcodeNext | opcodePrev => exact guarded_edited (Bench.guarded_editField _ _ _)
  | operandNext | operandPrev => exact guarded_edited (Bench.guarded_cycleOperand _ _)
  | operandInc | operandDec | operandInc10 | operandDec10 =>
    exact guarded_edited (Bench.guarded_adjustOperand _ _)
  | modeToggle => exact guarded_edited (Bench.guarded_toggleMode _)
  | debuggerHere => exact guarded_edited (Bench.guarded_edit _ _)
  | move | undo | restart | nextLevel | editToggle | exportProgram => cases asks

/-! A closed editor is settled. -/

/-- Such a step leaves an open editor open, and a closed one as settled as it was. -/
theorem settled_of_guarded {step : Step} (settled : s.bench.editor.Settled)
    (guarded : s.Guarded step) : step.2.bench.editor.Settled := by
  unfold Guarded at guarded
  split at guarded
  · exact .of_active guarded
  · rw [guarded]
    exact settled

/-- A move leaves the editor alone, also where it is refused because of it. -/
theorem editor_move (s : Session) (code : Int) : (s.move code).2.bench.editor = s.bench.editor := by
  unfold move
  split
  · rfl
  · rw [bench_walked]
    exact Bench.editor_attemptMove s.bench code

theorem editor_click (s : Session) (index : Int) :
    (s.click index).2.bench.editor = s.bench.editor := by
  unfold click
  split
  · rfl
  · rw [bench_walked]
    exact Bench.editor_jumpTo s.bench index

theorem editor_undo (s : Session) : s.undo.2.bench.editor = s.bench.editor := by
  have undone := Bench.editor_undo s.bench
  unfold undo
  split
  · rename_i e
    rwa [e] at undone
  · rename_i e
    rwa [e] at undone

/-- A restart closes no editor and empties none. -/
theorem editor_restart (s : Session) : s.restart.2.bench.editor = s.bench.editor := by
  unfold restart
  split
  · rfl
  · dsimp only
    split
    · rfl
    · rename_i loaded
      have same := Bench.editor_of_load loaded
      exact same

/-- A level that is loaded empties the editor; one that does not fit leaves it alone. -/
theorem settled_loadLevel (settled : s.bench.editor.Settled) (level : Level) :
    (s.loadLevel level).2.bench.editor.Settled := by
  by_cases fits : level.program.length = s.machine.memory.length
  · rw [loadLevel_begun fits]
    exact fun _ => ⟨rfl, rfl⟩
  · rw [loadLevel_unfit fits]
    exact settled

/-- So does a random program, which always fits. -/
theorem settled_loadRandom (s : Session) (seed : Int) :
    (s.loadRandom seed).2.bench.editor.Settled := by
  rw [loadRandom_begun]
  exact fun _ => ⟨rfl, rfl⟩

/-- However a game is opened, its editor is settled if it was before. -/
theorem Opens.settled (settled : s.bench.editor.Settled) {r : Except PlayError Unit × Session}
    (opens : s.Opens r) : r.2.bench.editor.Settled := by
  have noted : ∀ {t : Session}, t = { s with diary := t.diary } → t.bench.editor.Settled := by
    intro t same
    rw [same]
    exact settled
  cases opens with
  | stayed same _ => exact noted same
  | level same _ => exact settled_loadLevel (noted same) _
  | random same seed => exact settled_loadRandom _ seed

/-- The next level is loaded, or nothing happens. -/
theorem settled_nextLevel (settled : s.bench.editor.Settled) :
    (s.act (.command .nextLevel)).2.bench.editor.Settled := by
  rcases nextLevel_cases s with ⟨answer, after, -, rest, stays⟩ | ⟨level, -, -, goes⟩
  · rw [stays, rest]
    exact settled
  · rw [goes, (saveProgress_cases _ _).2]
    exact fun _ => ⟨rfl, rfl⟩

/-- No action leaves a closed editor with its cursor elsewhere or a record yanked. -/
theorem settled_act (settled : s.bench.editor.Settled) (a : Action) :
    (s.act a).2.bench.editor.Settled := by
  have same : ∀ {t : Session}, t.bench.editor = s.bench.editor → t.bench.editor.Settled := by
    intro t e
    rw [e]
    exact settled
  cases a with
  | click index => exact same (editor_click s index)
  | command c =>
    by_cases asks : c.asksEditor = true
    · exact settled_of_guarded (s := s.note (.command c.name)) settled (guarded_perform asks)
    · cases c with
      | nextLevel => exact settled_nextLevel settled
      | editToggle => exact Bench.settled_toggle s.bench
      | exportProgram => exact settled
      | undo => exact same (editor_undo (s.note _))
      | restart => exact same (editor_restart (s.note _))
      | move d =>
        simp only [act, dispatch, perform]
        split
        · exact settled
        · exact same (editor_move (s.note _) _)
      | _ => exact absurd rfl asks

/-- A closed editor is settled in every session that can be reached, by induction on how it is. -/
theorem Reachable.settled {config : Config} {levels : List Level} {given : Level → Prop}
    (reached : Reachable config levels given s) : s.bench.editor.Settled := by
  induction reached with
  | created made =>
    unfold create at made
    split at made
    · cases made
    · cases made
      exact fun _ => ⟨rfl, rfl⟩
  | started _ id random freshSeed ih => exact (opens_start _ id random freshSeed).settled ih
  | loaded _ _ ih => exact settled_loadLevel ih _
  | drawn _ seed _ => exact settled_loadRandom _ seed
  | acted _ a ih => exact settled_act ih a

/-- In every reachable session a closed editor has its cursor at 0 and a blank record. Whatever the
session, a closed editor refuses each command that is for it, and only the diary tells of it; and while
the editor is open, each move and each click is refused, so nothing is executed. -/
theorem modes_divide_commands {config : Config} {levels : List Level} {given : Level → Prop} :
    (∀ s, Reachable config levels given s → s.bench.editor.mode = .off →
      s.bench.editor.pointer = 0 ∧ s.bench.editor.yanked = .blank) ∧
    (∀ s : Session, s.bench.editor.mode = .off → ∀ c : Command, c.asksEditor = true →
      s.dispatch c = (.ok false, s.note (.command c.name))) ∧
    ∀ s : Session, s.bench.editor.mode ≠ .off →
      (∀ d, s.dispatch (.move d) = (.ok false, s.note (.command (Command.move d).name))) ∧
      ∀ index, s.click index = (false, s) := by
  refine ⟨fun s reached => reached.settled, ?_, ?_⟩
  · intro s off c asks
    have guarded := guarded_perform (s := s.note (.command c.name)) asks
    have closed : ¬(s.note (.command c.name)).bench.editor.active = true :=
      fun active => Editor.active_iff.1 active off
    rwa [Guarded, if_neg closed] at guarded
  · intro s on
    have active : s.bench.editor.active = true := Editor.active_iff.2 on
    refine ⟨fun d => ?_, fun index => ?_⟩
    · exact if_pos active
    · simp only [click, active, Bool.or_true, if_true]

/-- The player closes the editor with the cursor on the second cell and a record yanked. -/
def besideFullClosed : Session := (besideFull.dispatch .editToggle).2

theorem modes_of_besideFull :
    (besideFull.bench.editor.mode = .grid ∧ besideFull.bench.editor.pointer = 1 ∧
        besideFull.bench.editor.yanked = ⟨1, 5, 0, 0⟩ ∧ besideFull.click 1 = (false, besideFull)) ∧
      besideFullClosed.bench.editor.mode = .off ∧ besideFullClosed.bench.editor.pointer = 0 ∧
      besideFullClosed.bench.editor.yanked = .blank ∧
      besideFullClosed.dispatch .paste = (.ok false, besideFullClosed.note (.command "paste")) := by
  have created : Reachable pairSession.config [pairLevel] (fun _ => True) pairSession :=
    .created (rfl : create pairSession.config [pairLevel] none = .ok pairSession)
  have loaded : Reachable pairSession.config [pairLevel] (fun _ => True) pairLoaded :=
    created.loaded trivial
  have opened := ((loaded.acted (.command .editToggle)).acted (.command .yank)).acted
    (.command (.cursor .right))
  have closed : Reachable pairSession.config [pairLevel] (fun _ => True) besideFullClosed :=
    opened.acted (.command .editToggle)
  obtain ⟨settled, refuses, rests⟩ :=
    @modes_divide_commands pairSession.config [pairLevel] fun _ => True
  have off : besideFullClosed.bench.editor.mode = .off := by decide
  have on : besideFull.bench.editor.mode ≠ .off := by decide
  obtain ⟨pointer, yanked⟩ := settled _ closed off
  exact ⟨⟨by decide, by decide, by decide, (rests _ on).2 1⟩, off, pointer, yanked,
    refuses _ off .paste rfl⟩

end Session

end CellWalk
