import CellWalk.Proofs.Changes

/-!
# Actions of a player

A player acts by commands and by clicks. Apart from undoing and from going on to the next level, an
action always answers and leaves one image in the history if it has changed memory, none if it
has not (`act_records_one_image`).
-/

namespace CellWalk
set_option autoImplicit false

/-- What a player can do at any time. -/
inductive Action
  | command (c : Command)
  | click (index : Int)
deriving DecidableEq, Repr

/-- Whether the action moves the debugger by letting it enter a cell. -/
def Action.walks : Action → Bool
  | .command (.move _) => true
  | .command _ => false
  | .click _ => true

namespace Session

/-- Carries out an action. -/
def act (s : Session) : Action → Step
  | .command c => s.dispatch c
  | .click index => (.ok (s.click index).1, (s.click index).2)

/-- An answer together with what led to it: the change of the bench is recorded, the opening stays,
and a debugger that has entered a cell has changed memory. -/
structure Kept (s : Session) (walks answer : Bool) (s' : Session) : Prop where
  recorded : s.bench.Recorded s'.bench
  opening : s'.opening = s.opening
  walked : walks = true → answer = true → s.bench.Changed s'.bench

variable {s : Session}

@[simp] theorem bench_walked (s : Session) (r : Bool × Bench) : (s.walked r).2.bench = r.2 := by
  simp only [walked]
  split <;> rfl

@[simp] theorem opening_walked (s : Session) (r : Bool × Bench) :
    (s.walked r).2.opening = s.opening := by
  simp only [walked]
  split <;> rfl

/-- What is refused without a look at the bench keeps all. -/
theorem kept_refused (s : Session) (walks : Bool) : s.Kept walks false s :=
  ⟨.inl (.refl _), rfl, fun _ done => absurd done Bool.false_ne_true⟩

/-- A session keeps what its bench does on a walk. -/
theorem kept_walked {r : Bool × Bench} (answered : s.bench.Answered r) :
    s.Kept true (s.walked r).1 (s.walked r).2 :=
  ⟨by rw [bench_walked]; exact answered.recorded, opening_walked s r,
    fun _ done => by rw [bench_walked]; exact answered.changed done⟩

theorem kept_move (sized : s.machine.Sized) (code : Int) :
    s.Kept true (s.move code).1 (s.move code).2 := by
  unfold move
  split
  · exact kept_refused s true
  · exact kept_walked (Bench.answered_attemptMove sized code)

theorem kept_click (sized : s.machine.Sized) (index : Int) :
    s.Kept true (s.click index).1 (s.click index).2 := by
  unfold click
  split
  · exact kept_refused s true
  · exact kept_walked (Bench.answered_jumpTo sized index)

/-- What the editor does is recorded once its bench is. -/
theorem kept_edited {r : Bool × Bench} (recorded : s.bench.Recorded r.2) :
    ∃ answer s', s.edited r = (.ok answer, s') ∧ s.Kept false answer s' :=
  ⟨r.1, _, rfl, recorded, rfl, fun walks => absurd walks Bool.false_ne_true⟩

/-- A restart is recorded as an edit is, and an opening of the right size never lets it fail. -/
theorem kept_restart (sized : s.machine.Sized)
    (opening : s.opening.length = Machine.sizeFor s.machine.grid) :
    ∃ answer s', s.restart = (.ok answer, s') ∧ s.Kept false answer s' := by
  have fits : s.opening.length = s.machine.memory.length := opening.trans sized.symm
  unfold restart
  split
  · exact ⟨false, s, rfl, kept_refused s false⟩
  · rename_i differ
    have loaded : s.machine.memory.restore s.opening = .ok s.opening := if_pos fits
    simp only [Bench.load, Machine.load]
    change s.bench.machine.memory.restore s.opening = _ at loaded
    rw [loaded]
    refine ⟨true, _, rfl, .inr ⟨⟨rfl, fits⟩, fun same => differ same.symm, rfl⟩, rfl,
      fun walks => absurd walks Bool.false_ne_true⟩

/-- Every command but undo and the step to the next level answers, and its change is recorded. -/
theorem kept_perform (sized : s.machine.Sized)
    (opening : s.opening.length = Machine.sizeFor s.machine.grid) {c : Command}
    (notUndo : c ≠ .undo) (notNext : c ≠ .nextLevel) :
    ∃ answer s', s.perform c = (.ok answer, s') ∧ s.Kept (Action.command c).walks answer s' := by
  cases c with
  | undo => exact absurd rfl notUndo
  | nextLevel => exact absurd rfl notNext
  | move d =>
    simp only [perform]
    split
    · exact ⟨false, s, rfl, kept_refused s true⟩
    · exact ⟨_, _, rfl, kept_move sized _⟩
  | restart => exact kept_restart sized opening
  | exportProgram =>
    exact ⟨true, _, rfl, .inl (.refl _), rfl, fun walks => absurd walks Bool.false_ne_true⟩
  | editToggle => exact kept_edited (.inl (Bench.unchanged_toggle _))
  | cellToggle =>
    simp only [perform]
    split
    · exact kept_edited (.inl (Bench.unchanged_toggleCell _))
    · exact ⟨false, s, rfl, kept_refused s false⟩
  | cursor d => exact kept_edited (.inl (Bench.unchanged_moveCursor _ _))
  | yank => exact kept_edited (.inl (Bench.unchanged_yank _))
  | mask d => exact kept_edited (Bench.answered_toggleDirection _ _).recorded
  | cut => exact kept_edited (Bench.answered_cut _).recorded
  | paste => exact kept_edited (Bench.answered_paste _).recorded
  | onOff | opcodeNext | opcodePrev => exact kept_edited (Bench.answered_editField _ _ _).recorded
  | operandNext | operandPrev => exact kept_edited (Bench.answered_cycleOperand _ _).recorded
  | operandInc | operandDec | operandInc10 | operandDec10 =>
    exact kept_edited (Bench.answered_adjustOperand _ _).recorded
  | modeToggle => exact kept_edited (Bench.answered_toggleMode _).recorded
  | debuggerHere => exact kept_edited (Bench.answered_bringDebugger _).recorded

/-- Every action but an undo and the next level answers for what it does to memory and history. -/
theorem kept_act (sized : s.machine.Sized)
    (opening : s.opening.length = Machine.sizeFor s.machine.grid) {a : Action}
    (notUndo : a ≠ .command .undo) (notNext : a ≠ .command .nextLevel) :
    ∃ answer s', s.act a = (.ok answer, s') ∧ s.Kept a.walks answer s' := by
  cases a with
  | click index => exact ⟨_, _, rfl, kept_click sized index⟩
  | command c =>
    obtain ⟨answer, s', done, kept⟩ := kept_perform (s := s.note (.command c.name)) sized opening
      (fun e => notUndo (congrArg _ e)) (fun e => notNext (congrArg _ e))
    exact ⟨answer, s', done, kept.recorded, kept.opening, kept.walked⟩

/-- Every action but undo and the step to the next level leaves memory and history as they were,
or it changes memory and records the image of before, for which a full history gives up its oldest
image. A debugger that has entered a cell has always changed memory. -/
theorem act_records_one_image (s : Session) (a : Action) (sized : s.machine.Sized)
    (opening : s.opening.length = Machine.sizeFor s.machine.grid) (within : s.bench.history.Within)
    (notUndo : a ≠ .command .undo) (notNext : a ≠ .command .nextLevel) :
    ∃ answer s', s.act a = (.ok answer, s') ∧
      ((s'.machine.memory = s.machine.memory ∧ s'.bench.history.entries = s.bench.history.entries) ∨
        (s'.machine.memory ≠ s.machine.memory ∧ s'.bench.history.entries = s.machine.memory ::
          if s.bench.history.full then s.bench.history.entries.dropLast
          else s.bench.history.entries)) ∧
      (a.walks = true → answer = true → s'.machine.memory ≠ s.machine.memory) := by
  obtain ⟨answer, s', done, kept⟩ := kept_act sized opening notUndo notNext
  refine ⟨answer, s', done, ?_, fun walks entered => (kept.walked walks entered).memory⟩
  rcases kept.recorded with same | changed
  · exact .inl ⟨same.memory, by rw [same.history]⟩
  · refine .inr ⟨changed.memory, ?_⟩
    rw [changed.history]
    exact History.entries_push within _

/-- The cycle counter is full, and in the cell beside the debugger stands a swap that overwrites the
instruction pointer. -/
def besideSwap (history : History) : Session :=
  let grid : Grid := ⟨2, 1, by decide, by decide⟩
  let memory : Image := [0, 0, 0, 255, 9] ++ List.replicate 23 0 ++ [4, 1, 1, 0]
  let machine : Machine := ⟨grid, by decide, memory, .empty Machine.outletDepth, 0, 0, 0⟩
  .around ⟨grid, by decide, .auto, history.limit, .unset, none⟩ [] none (.fresh machine history true)

/-- A history with one image, which is all that it can hold. -/
def fullHistory : History := ⟨some ⟨1, by decide⟩, [Image.blank 32]⟩

theorem click_on_swap_records :
    ((besideSwap fullHistory).click 1).2.machine.memory ≠ (besideSwap fullHistory).machine.memory ∧
      ((besideSwap fullHistory).click 1).2.bench.history.entries =
        [(besideSwap fullHistory).machine.memory] := by
  have within : (besideSwap fullHistory).bench.history.Within := by
    rintro n limit
    cases limit
    decide
  obtain ⟨answer, s', done, recorded, walked⟩ :=
    act_records_one_image (besideSwap fullHistory) (.click 1) rfl rfl within (by decide) (by decide)
  cases done
  have differs := walked rfl (by decide)
  rcases recorded with ⟨same, -⟩ | ⟨-, entries⟩
  · exact absurd same differs
  · exact ⟨differs, entries⟩

end Session

end CellWalk
