import CellWalk.Proofs.Reachable
import CellWalk.Proofs.Refusals

/-!
# A program that has ended

Once its program has ended, a session can take back changes, start over or go on to the next level.
Whatever else is done, nothing is executed any more (`halt_is_final`): a walk is refused before it
begins, and an edit, wherever the cursor is, stores in records of the grid or brings the debugger to a
cell. So every byte below the program but the instruction pointer keeps its value.
-/

namespace CellWalk
set_option autoImplicit false

/-- Whether the command changes the record under the cursor or brings the debugger to it. -/
def Command.edits : Command → Bool
  | .mask _ | .cut | .paste | .onOff | .opcodeNext | .opcodePrev | .operandNext | .operandPrev
  | .operandInc | .operandDec | .operandInc10 | .operandDec10 | .modeToggle | .debuggerHere => true
  | _ => false

namespace Action

def edits : Action → Bool
  | .command c => c.edits
  | .click _ => false

/-- Whether the action goes back to an earlier image or on to another level. -/
def replaces : Action → Bool
  | .command .undo | .command .restart | .command .nextLevel => true
  | _ => false

end Action

/-- The status is no byte that an edit reaches. -/
theorem Machine.Retouched.isHalted {m n : Machine} (retouch : m.Retouched n) :
    n.isHalted = m.isHalted := by
  rw [Machine.isHalted, Machine.isHalted, Machine.get, Machine.get,
    retouch.registers _ (by decide) (by decide)]

/-- A step changes the machine of a bench by the rule that it follows. -/
theorem Bench.Follows.changes {rule : Machine → Machine → Prop} {step : Bench → Bool × Bench}
    {b : Bench} (follows : Bench.Follows rule step b) : rule b.machine (step b).2.machine := by
  obtain ⟨answer, after, records, changes, same⟩ := follows
  have own : b.continuing ⟨b.history, 0, 0, 0⟩ = b := by
    simp [continuing]
  have stepped := same ⟨b.history, 0, 0, 0⟩
  rw [own] at stepped
  rw [stepped]
  exact changes

namespace Session

/-- A step that is answered and executes nothing. If it is no edit, it leaves memory alone. -/
structure Rests (s : Session) (edits : Bool) (step : Step) : Prop where
  answered : ∃ answer, step.1 = .ok answer
  machine : s.machine.Retouched step.2.machine
  memory : edits = false → step.2.machine.memory = s.machine.memory

variable {s : Session}

theorem rests_refused (s : Session) (edits : Bool) : s.Rests edits (.ok false, s) :=
  ⟨⟨false, rfl⟩, .refl _, fun _ => rfl⟩

theorem rests_edited {f : Bench → Bool × Bench} (follows : Bench.Follows Machine.Retouched f s.bench) :
    s.Rests true (s.edited (f s.bench)) :=
  ⟨⟨_, rfl⟩, follows.changes, fun edits => nomatch edits⟩

/-- The editor is handled, but nothing is edited. -/
theorem rests_handled {f : Bench → Bool × Bench} (follows : Bench.Follows Machine.Retouched f s.bench)
    (same : s.bench.Unchanged (f s.bench).2) : s.Rests false (s.edited (f s.bench)) :=
  ⟨⟨_, rfl⟩, follows.changes, fun _ => same.memory⟩

theorem rests_move (ended : s.machine.isHalted = true) (d : Direction) :
    s.Rests false (s.perform (.move d)) := by
  simp only [perform, move, ended, if_true]
  split <;> exact rests_refused s false

theorem rests_cellToggle (s : Session) : s.Rests false (s.perform .cellToggle) := by
  simp only [perform]
  split
  · exact rests_handled (Bench.follows_toggleCell _) (Bench.unchanged_toggleCell _)
  · exact rests_refused s false

/-- Only a walk needs the end of the program in order to execute nothing. -/
theorem rests_perform {c : Command}
    (ended : (Action.command c).walks = true → s.machine.isHalted = true)
    (stays : (Action.command c).replaces = false) : s.Rests c.edits (s.perform c) := by
  cases c with
  | undo | restart | nextLevel => cases stays
  | move d => exact rests_move (ended rfl) d
  | editToggle =>
    exact rests_handled (f := fun b => (true, b.toggle)) (Bench.follows_toggle _)
      (Bench.unchanged_toggle _)
  | cellToggle => exact rests_cellToggle s
  | cursor d => exact rests_handled (Bench.follows_moveCursor _ _) (Bench.unchanged_moveCursor _ _)
  | yank => exact rests_handled (Bench.follows_yank _) (Bench.unchanged_yank _)
  | exportProgram => exact ⟨⟨true, rfl⟩, .refl _, fun _ => rfl⟩
  | mask d => exact rests_edited (Bench.follows_toggleDirection _ _)
  | cut => exact rests_edited (Bench.follows_cut _)
  | paste => exact rests_edited (Bench.follows_paste _)
  | onOff => exact rests_edited (Bench.follows_toggleOnOff _)
  | opcodeNext | opcodePrev => exact rests_edited (Bench.follows_cycleOpcode _ _)
  | operandNext | operandPrev => exact rests_edited (Bench.follows_cycleOperand _ _)
  | operandInc | operandDec | operandInc10 | operandDec10 =>
    exact rests_edited (Bench.follows_adjustOperand _ _)
  | modeToggle => exact rests_edited (Bench.follows_toggleMode _)
  | debuggerHere => exact rests_edited (Bench.follows_bringDebugger _)

theorem rests_act {a : Action} (ended : a.walks = true → s.machine.isHalted = true)
    (stays : a.replaces = false) : s.Rests a.edits (s.act a) := by
  cases a with
  | click index =>
    have refused : s.click index = (false, s) := by
      simp only [click, ended rfl, Bool.true_or, if_true]
    rw [act, refused]
    exact rests_refused s false
  | command c =>
    have rests := rests_perform (s := s.note (.command c.name)) ended stays
    exact ⟨rests.answered, rests.machine, rests.memory⟩

theorem retouched_after (ended : s.machine.isHalted = true) {as : List Action}
    (stay : ∀ a ∈ as, a.replaces = false) : s.machine.Retouched (s.after as).machine := by
  induction as generalizing s with
  | nil => exact .refl _
  | cons a as ih =>
    have step := (rests_act (fun _ => ended) (stay a List.mem_cons_self)).machine
    have still : (s.act a).2.machine.isHalted = true := step.isHalted.trans ended
    exact step.trans (ih still fun b member => stay b (List.mem_cons_of_mem a member))

/-- A session whose program has ended does anything but take back changes, start over or go on to the
next level. Then the program stays ended, nothing is executed or sent, and below the program no byte
changes but the instruction pointer. On the way every action is answered, and one that has changed
memory is an edit. -/
theorem halt_is_final (ended : s.machine.isHalted = true) {as : List Action}
    (stay : ∀ a ∈ as, a.replaces = false) :
    (s.after as).machine.isHalted = true ∧
      (s.after as).machine.executions = s.machine.executions ∧
      (s.after as).machine.sends = s.machine.sends ∧
      (s.after as).machine.outlet = s.machine.outlet ∧
      (s.after as).outputLines = s.outputLines ∧
      (∀ address : Int, address < programBase → address ≠ Register.ip.address →
        (s.after as).machine.reg address = s.machine.reg address) ∧
      ∀ before a, before ++ [a] <+: as →
        (∃ answer, ((s.after before).act a).1 = .ok answer) ∧
        (((s.after before).act a).2.machine.memory ≠ (s.after before).machine.memory →
          a.edits = true) := by
  have retouch := retouched_after ended stay
  have outlet : (s.after as).machine.outlet = s.machine.outlet := by rw [retouch.rest]
  refine ⟨retouch.isHalted.trans ended, by rw [retouch.rest], by rw [retouch.rest], outlet,
    congrArg (fun outlet => outlet.heard.map outputLine) outlet, retouch.registers, ?_⟩
  intro before a first
  have member : ∀ b, b ∈ before ++ [a] → b ∈ as := fun b => first.sublist.mem
  have earlier := retouched_after ended fun b early =>
    stay b (member b (List.mem_append_left [a] early))
  have rests := rests_act (fun _ => earlier.isHalted.trans ended)
    (stay a (member a (List.mem_append_right before List.mem_cons_self)))
  refine ⟨rests.answered, fun changed => ?_⟩
  by_contra noEdit
  exact changed (rests.memory (Bool.eq_false_iff.2 noEdit))

/-- A level whose program ends in its second cell. -/
def endLevel : Level := ⟨"end", [1, 2, 3], List.replicate 28 0 ++ [11, 0, 0, 0], []⟩

/-- The debugger has walked to the end. -/
def endReached : Session := ((pairSession.loadLevel endLevel).2.act (.click 1)).2

/-- The player blanks the final cell, brings the debugger to the first one, leaves the grid with the
cursor and tries to walk. -/
def afterTheEnd : List Action :=
  [.click 0, .command .editToggle, .command .cut, .command (.cursor .left), .command .debuggerHere,
    .command (.cursor .up), .command .paste, .command .editToggle, .command (.move .right)]

theorem halt_is_final_at_end :
    (endReached.machine.isHalted = true ∧ endReached.machine.executions = 1 ∧
        (endReached.after afterTheEnd).machine.ip = 0 ∧
        (endReached.after afterTheEnd).machine.instruction 1 = .blank) ∧
      (endReached.after afterTheEnd).machine.isHalted = true ∧
      (endReached.after afterTheEnd).machine.executions = endReached.machine.executions ∧
      (endReached.after afterTheEnd).machine.reg 3 = endReached.machine.reg 3 := by
  have ended : endReached.machine.isHalted = true := by decide
  have stay : ∀ a ∈ afterTheEnd, a.replaces = false := by decide
  obtain ⟨still, executions, -, -, -, registers, -⟩ := halt_is_final ended stay
  exact ⟨⟨ended, by decide, by decide, by decide⟩, still, executions,
    registers 3 (by decide) (by decide)⟩

end Session

end CellWalk
