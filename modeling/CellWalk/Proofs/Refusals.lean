import CellWalk.Proofs.UndoRun

/-!
# Refused commands

A command that is refused leaves the session as it was but for two counts, those of executions and of
refused walks (`Bench.uncounted`). There is one exception: a cut yanks the record under the cursor
before it blanks the cell, and of a cell that is blank already only the second half is refused. What
the player had yanked before is lost then (`cut_of_blank_forgets_yank`).
-/

namespace CellWalk
set_option autoImplicit false

/-- Outside memory every byte is 0. -/
theorem Image.read_of_outside {m : Image} {a : Int} (outside : ¬(0 ≤ a ∧ a < m.length)) :
    m.read a = 0 := by
  unfold Image.read
  split
  · rfl
  · have beyond : m.length ≤ a.toNat := by omega
    rw [List.getD_eq_getElem?_getD, List.getElem?_eq_none beyond, Option.getD_none]

namespace Machine

variable {m n : Machine}

/-- Fields are read from the grid and the memory alone. -/
theorem fetch_congr (grid : n.grid = m.grid) (memory : n.memory = m.memory) (index field : Int) :
    n.fetch index field = m.fetch index field := by
  simp only [fetch, reg, grid, memory]

/-- A stored 0 is read back even outside memory, where every byte is 0. -/
theorem reg_setReg_zero (m : Machine) (a : Int) : (m.setReg a 0).reg a = 0 := by
  by_cases inside : 0 ≤ a ∧ a < m.memory.length
  · exact reg_setReg_same inside.1 inside.2 0
  · exact Image.read_of_outside (by rw [setReg, Image.length_write]; exact inside)

/-- A stored 0 is read back from every cell, on the grid or not. -/
theorem fetch_store_zero (m : Machine) (index field other : Int) :
    (m.store index field 0).fetch index other = if field = other then 0 else m.fetch index other := by
  have grid := (sameShape_store m index field 0).grid
  unfold fetch
  rw [grid]
  unfold store
  by_cases same : field = other
  · subst same
    rw [if_pos rfl]
    split
    · exact reg_setReg_zero m _
    · rfl
  · have apart : fieldAddress index field ≠ fieldAddress index other := by
      unfold fieldAddress
      omega
    rw [if_neg same]
    split
    · split
      · exact reg_setReg_of_ne m apart 0
      · rfl
    · rfl

/-- A blanked cell is blank. -/
theorem instruction_setInstruction_blank (m : Machine) (index : Int) :
    (m.setInstruction index .blank).instruction index = .blank := by
  simp [instruction, setInstruction, Instruction.blank, fetch_store_zero]

/-- Only a blank cell can be blanked without a change. -/
theorem instruction_of_blanked {index : Int}
    (same : (m.setInstruction index .blank).memory = m.memory) : m.instruction index = .blank := by
  have grid := (sameShape_setInstruction m index .blank).grid
  have read : (m.setInstruction index .blank).instruction index = m.instruction index := by
    simp only [instruction, fetch_congr grid same]
  rw [← read]
  exact instruction_setInstruction_blank m index

end Machine

namespace Bench

/-- The bench without its counts of executions and of refused walks. -/
def uncounted (b : Bench) : Bench :=
  { b with
    machine := { b.machine with executions := 0 }
    walker := { b.walker with rejected := 0 } }

/-- The bench with this record as the yanked one. -/
def yanking (b : Bench) (r : Instruction) : Bench :=
  { b with editor := { b.editor with yanked := r } }

/-- A step that changes nothing but the counts when it is refused. -/
def Spares (b : Bench) (r : Bool × Bench) : Prop := r.1 = false → r.2.uncounted = b.uncounted

variable {b b' : Bench}

theorem spares_refused (b : Bench) : b.Spares (false, b) := fun _ => rfl

theorem spares_done (b b' : Bench) : b.Spares (true, b') := fun refused => nomatch refused

theorem spares_reject (b : Bench) : b.Spares (false, b.reject) := fun _ => rfl

/-! Walking. -/

/-- A cell that refuses costs an execution and a count. -/
theorem spares_commit (b : Bench) (index : Int) : b.Spares (b.commit index) := by
  unfold commit
  split
  · rename_i machine e
    have counted := Machine.jump_refused e
    subst counted
    exact fun _ => rfl
  · exact spares_done b _

theorem spares_attemptMove (b : Bench) (code : Int) : b.Spares (b.attemptMove code) := by
  unfold attemptMove
  split
  · split
    · exact spares_commit b _
    · exact spares_reject b
  · exact spares_reject b

theorem spares_jumpTo (b : Bench) (index : Int) : b.Spares (b.jumpTo index) := by
  unfold jumpTo
  split
  · exact spares_commit b index
  · exact spares_reject b

/-! Editing. -/

/-- A refused edit changes nothing; where one could take place, it would have changed no memory. -/
theorem edit_refused {change : Machine → Machine} (refused : b.edit change = (false, b')) :
    b' = b ∧ (b.editable = true → (change b.machine).memory = b.machine.memory) := by
  simp only [edit] at refused
  split at refused
  · cases refused
  · rename_i rejected
    cases refused
    refine ⟨rfl, fun open_ => ?_⟩
    simpa [open_] using rejected

/-- So an edit that is refused spares all. -/
theorem spares_edit (b : Bench) (change : Machine → Machine) : b.Spares (b.edit change) := by
  intro refused
  have kept := (edit_refused (Prod.ext refused rfl : b.edit change = (false, _))).1
  exact congrArg uncounted kept

theorem spares_editField (b : Bench) (field value : Int) : b.Spares (b.editField field value) :=
  spares_edit b _

theorem spares_toggleDirection (b : Bench) (code : Int) : b.Spares (b.toggleDirection code) := by
  simp only [toggleDirection]
  split
  · exact spares_refused b
  · exact spares_refused b
  · exact spares_editField b _ _

theorem spares_cycleOperand (b : Bench) (step : Int) : b.Spares (b.cycleOperand step) := by
  simp only [cycleOperand]
  split
  · exact spares_editField b _ _
  · exact spares_refused b

theorem spares_adjustOperand (b : Bench) (delta : Int) : b.Spares (b.adjustOperand delta) := by
  simp only [adjustOperand]
  split
  · exact spares_editField b _ _
  · exact spares_refused b

theorem spares_toggleMode (b : Bench) : b.Spares b.toggleMode := by
  simp only [toggleMode]
  split
  · exact spares_edit b _
  · exact spares_refused b

theorem spares_moveCursor (b : Bench) (code : Int) : b.Spares (b.moveCursor code) := by
  unfold moveCursor
  split
  · split
    · exact spares_refused b
    · exact spares_done b _
  · exact spares_refused b

/-- A yank is refused before it takes anything. -/
theorem spares_yank (b : Bench) : b.Spares b.yank := by
  unfold yank
  split
  · exact spares_done b _
  · exact spares_refused b

/-- A cut is refused where nothing can be edited, and on a blank cell; there it still yanks. -/
theorem cut_refused (refused : b.cut = (false, b')) :
    (b.editable = false ∧ b' = b) ∨
      (b.editable = true ∧ b.current = .blank ∧ b' = b.yanking .blank) := by
  simp only [cut, yank] at refused
  cases editable : b.editable with
  | false =>
    simp only [editable, Bool.false_eq_true, if_false, Prod.mk.injEq, true_and] at refused
    exact .inl ⟨rfl, refused.symm⟩
  | true =>
    simp only [editable, if_true] at refused
    obtain ⟨kept, same⟩ := edit_refused refused
    have blank : b.current = .blank := Machine.instruction_of_blanked (same editable)
    refine .inr ⟨rfl, blank, ?_⟩
    rw [kept, blank]
    rfl

end Bench

namespace Session

/-- The session without those counts and without its diary. -/
def uncounted (s : Session) : Session := { s with bench := s.bench.uncounted, diary := [] }

/-- The session with this record as the yanked one. -/
def yanking (s : Session) (r : Instruction) : Session := { s with bench := s.bench.yanking r }

variable {s s' : Session}

/-- What a bench spares its session does. -/
theorem uncounted_of_edited {r : Bool × Bench} (spares : s.bench.Spares r)
    (refused : s.edited r = (.ok false, s')) : s'.uncounted = s.uncounted := by
  obtain ⟨rejected, rfl⟩ := Prod.ext_iff.1 refused
  have same := spares (Except.ok.inj rejected)
  simp only [uncounted, edited, same]

theorem uncounted_of_walked {r : Bool × Bench} (spares : s.bench.Spares r)
    (refused : s.walked r = (false, s')) : s'.uncounted = s.uncounted := by
  simp only [walked, Prod.mk.injEq] at refused
  obtain ⟨rejected, rfl⟩ := refused
  have same := spares rejected
  simp only [rejected, Bool.false_and, Bool.false_eq_true, if_false, uncounted, same]

theorem uncounted_of_move {code : Int} (refused : s.move code = (false, s')) :
    s'.uncounted = s.uncounted := by
  unfold move at refused
  split at refused
  · cases refused
    rfl
  · exact uncounted_of_walked (Bench.spares_attemptMove s.bench code) refused

theorem uncounted_of_click {index : Int} (refused : s.click index = (false, s')) :
    s'.uncounted = s.uncounted := by
  unfold click at refused
  split at refused
  · cases refused
    rfl
  · exact uncounted_of_walked (Bench.spares_jumpTo s.bench index) refused

/-- There is nothing to go back to, so nothing is undone. -/
theorem uncounted_of_undo (refused : s.undo = (.ok false, s')) : s'.uncounted = s.uncounted := by
  cases entries : s.bench.history.entries with
  | nil =>
    simp only [undo, Bench.undo, entries, Prod.mk.injEq, true_and] at refused
    rw [← refused]
  | cons image older =>
    simp only [undo, Bench.undo, entries] at refused
    split at refused
    · rename_i restored
      split at restored
      · cases restored
        cases refused
      · cases restored
    · cases refused

/-- A restart is refused where there is nothing to bring back. -/
theorem uncounted_of_restart (refused : s.restart = (.ok false, s')) :
    s'.uncounted = s.uncounted := by
  unfold restart at refused
  split at refused
  · cases refused
    rfl
  · simp only at refused
    split at refused <;> cases refused

/-- A step to the next level that is refused is told in the diary at most. -/
theorem uncounted_of_advance (refused : s.advance = (.ok false, s')) :
    s'.uncounted = s.uncounted := by
  unfold advance at refused
  split at refused
  · cases refused
    rfl
  · split at refused
    · split at refused
      · cases refused
        rfl
      · split at refused
        · cases refused
        · simp only [saveProgress] at refused
          split at refused
          · cases refused
          · split at refused <;> cases refused
    · cases refused
      rfl

/-- By cases of the command. A cut is left out, as it yanks before it is refused. -/
theorem uncounted_of_perform {c : Command} (notCut : c ≠ .cut)
    (refused : s.perform c = (.ok false, s')) : s'.uncounted = s.uncounted := by
  cases c with
  | cut => exact absurd rfl notCut
  | move d =>
    simp only [perform] at refused
    split at refused
    · cases refused
      rfl
    · obtain ⟨rejected, rfl⟩ := Prod.ext_iff.1 refused
      exact uncounted_of_move (Prod.ext (Except.ok.inj rejected) rfl)
  | undo => exact uncounted_of_undo refused
  | restart => exact uncounted_of_restart refused
  | nextLevel => exact uncounted_of_advance refused
  | cellToggle =>
    simp only [perform] at refused
    split at refused
    · cases refused
    · cases refused
      rfl
  | editToggle | exportProgram => cases refused
  | cursor d => exact uncounted_of_edited (Bench.spares_moveCursor _ _) refused
  | mask d => exact uncounted_of_edited (Bench.spares_toggleDirection _ _) refused
  | yank => exact uncounted_of_edited (Bench.spares_yank _) refused
  | paste | debuggerHere => exact uncounted_of_edited (Bench.spares_edit _ _) refused
  | onOff | opcodeNext | opcodePrev => exact uncounted_of_edited (Bench.spares_editField _ _ _) refused
  | operandNext | operandPrev => exact uncounted_of_edited (Bench.spares_cycleOperand _ _) refused
  | operandInc | operandDec | operandInc10 | operandDec10 =>
    exact uncounted_of_edited (Bench.spares_adjustOperand _ _) refused
  | modeToggle => exact uncounted_of_edited (Bench.spares_toggleMode _) refused

/-- A refused command changes nothing but the counts and the diary. A cut is the exception where the
editor is open and its cursor on the grid: it is refused there if the cell is blank, and it leaves the
blank record as the yanked one. -/
theorem refused_changes_counts_only {c : Command} (refused : s.dispatch c = (.ok false, s')) :
    if c = .cut ∧ s.bench.editable = true then
      s.bench.current = .blank ∧ s'.uncounted = (s.yanking .blank).uncounted
    else s'.uncounted = s.uncounted := by
  change (s.note _).perform c = _ at refused
  by_cases isCut : c = .cut
  · subst isCut
    obtain ⟨rejected, rfl⟩ := Prod.ext_iff.1 refused
    have cut : s.bench.cut = (false, s.bench.cut.2) := Prod.ext (Except.ok.inj rejected) rfl
    rcases Bench.cut_refused cut with ⟨closed, kept⟩ | ⟨editable, blank, yanked⟩
    · rw [if_neg (by simp [closed])]
      simp only [perform, edited, note, uncounted, kept]
    · rw [if_pos ⟨rfl, editable⟩]
      refine ⟨blank, ?_⟩
      simp only [perform, edited, note, uncounted, yanking, yanked]
  · rw [if_neg fun both => isCut both.1]
    have kept := uncounted_of_perform isCut refused
    exact kept

/-- A level with a full cell and a blank one. -/
def pairLevel : Level :=
  ⟨"pair", [1, 2, 3], List.replicate 24 0 ++ [1, 5, 0, 0] ++ [0, 0, 0, 0], []⟩

/-- A session on a grid of its size. -/
def pairSession : Session :=
  let grid : Grid := ⟨2, 1, Nat.two_pos, Nat.one_pos⟩
  around ⟨grid, by decide, .auto, none, .unset, none⟩ [pairLevel] none
    (.fresh (.blank grid (by decide)) .unlimited true)

/-- The session with the level loaded. -/
def pairLoaded : Session := (pairSession.loadLevel pairLevel).2

/-- The player has yanked the full cell and has moved the cursor to the blank one. -/
def besideFull : Session :=
  (((pairLoaded.dispatch .editToggle).2.dispatch .yank).2.dispatch (.cursor .right)).2

/-- The yanked record is lost although the cut is refused. -/
theorem cut_of_blank_forgets_yank :
    pairSession.Loaded pairLoaded ∧ pairLoaded.Reaches besideFull ∧
      (besideFull.dispatch .cut).1 = .ok false ∧
      besideFull.bench.editor.yanked = ⟨1, 5, 0, 0⟩ ∧
      (besideFull.dispatch .cut).2.bench.editor.yanked = .blank := by
  have loaded : pairSession.Loaded pairLoaded := .inl ⟨pairLevel, Prod.ext rfl rfl⟩
  have opened : pairLoaded.Reaches (pairLoaded.dispatch .editToggle).2 :=
    .step (a := .command .editToggle) .refl rfl fun next => by cases next
  have yanked := opened.step (a := .command .yank) rfl fun next => by cases next
  have moved := yanked.step (a := .command (.cursor .right)) rfl fun next => by cases next
  exact ⟨loaded, moved, by decide, by decide, by decide⟩

theorem refused_cut_besideFull :
    besideFull.dispatch .cut = (.ok false, (besideFull.dispatch .cut).2) ∧
      besideFull.bench.current = .blank ∧
      (besideFull.dispatch .cut).2.uncounted = (besideFull.yanking .blank).uncounted := by
  have refused : besideFull.dispatch .cut = (.ok false, (besideFull.dispatch .cut).2) := by
    exact Prod.ext (by decide) rfl
  have changes := refused_changes_counts_only refused
  rw [if_pos (by decide)] at changes
  exact ⟨refused, changes⟩

end Session

end CellWalk
