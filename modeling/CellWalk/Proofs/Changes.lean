import CellWalk.Proofs.Memory
import CellWalk.Session.Play

/-!
# Changes and the undo history

Walking, editing and restarting reach memory by different ways, but each of them either leaves
memory and history alone (`Bench.Unchanged`) or changes memory and records the image of before
(`Bench.Changed`). A walk and an edit answer which of the two it was. That a walk always changes
memory rests on the instruction pointer: it is written last but for the cycle counter, and the
entered cell is never the one that was left.
-/

namespace CellWalk
set_option autoImplicit false

namespace History

/-- No more images than the limit allows. -/
def Within (h : History) : Prop := ∀ n, h.limit = some n → h.entries.length ≤ n.val

/-- Whether the next image drives the oldest one out. -/
def full (h : History) : Bool := h.limit.any fun n => n.val ≤ h.entries.length

/-- The image is the newest then, and only a full history loses its oldest. -/
theorem entries_push {h : History} (within : h.Within) (image : Image) :
    (h.push image).entries = image :: if h.full then h.entries.dropLast else h.entries := by
  rcases h with ⟨limit, entries⟩
  cases limit with
  | none => rfl
  | some n =>
    have bound : entries.length ≤ n.val := within n rfl
    obtain ⟨k, pos⟩ := n
    obtain ⟨k, rfl⟩ := Nat.exists_eq_succ_of_ne_zero (Nat.ne_of_gt pos)
    simp only [push, keep, full, Option.any_some, List.take_succ_cons, decide_eq_true_eq]
    split
    · rename_i reached
      have exact : entries.length = k + 1 := Nat.le_antisymm bound reached
      rw [List.dropLast_eq_take, exact, Nat.add_sub_cancel]
    · rename_i room
      rw [List.take_of_length_le (by omega)]

end History

namespace Bench

/-- Memory and history are as they were. -/
structure Unchanged (b b' : Bench) : Prop where
  grid : b'.machine.grid = b.machine.grid
  memory : b'.machine.memory = b.machine.memory
  history : b'.history = b.history

/-- Memory has changed, and the history has recorded the image of before. -/
structure Changed (b b' : Bench) : Prop where
  shape : b.machine.SameShape b'.machine
  memory : b'.machine.memory ≠ b.machine.memory
  history : b'.history = b.history.push b.machine.memory

/-- One image for every change and none without. -/
def Recorded (b b' : Bench) : Prop := b.Unchanged b' ∨ b.Changed b'

/-- A step that answers whether it has changed memory. -/
def Answered (b : Bench) (r : Bool × Bench) : Prop :=
  if r.1 then b.Changed r.2 else b.Unchanged r.2

variable {b b' : Bench} {r : Bool × Bench}

theorem Unchanged.refl (b : Bench) : b.Unchanged b := ⟨rfl, rfl, rfl⟩

theorem Unchanged.answered (h : b.Unchanged b') : b.Answered (false, b') := h

theorem Changed.answered (h : b.Changed b') : b.Answered (true, b') := h

/-- By either answer there is one image for every change. -/
theorem Answered.recorded (h : b.Answered r) : b.Recorded r.2 := by
  unfold Answered at h
  split at h
  · exact .inr h
  · exact .inl h

/-- A step that answers yes has changed memory. -/
theorem Answered.changed (h : b.Answered r) (done : r.1 = true) : b.Changed r.2 := by
  rwa [Answered, if_pos done] at h

/-- What happens after a step that left memory and history alone happens to them as a whole. -/
theorem Unchanged.then_answered (first : b.Unchanged b') (next : b'.Answered r) : b.Answered r := by
  unfold Answered at *
  split at next
  · rename_i done
    rw [if_pos done]
    exact ⟨⟨next.shape.grid.trans first.grid, by rw [next.shape.length, first.memory]⟩,
      first.memory ▸ next.memory, by rw [next.history, first.history, first.memory]⟩
  · rename_i refused
    rw [if_neg refused]
    exact ⟨next.grid.trans first.grid, next.memory.trans first.memory,
      next.history.trans first.history⟩

/-- Neither way changes the grid or the size of memory. -/
theorem Recorded.shape (h : b.Recorded b') : b.machine.SameShape b'.machine := by
  rcases h with same | changed
  · exact ⟨same.grid, by rw [same.memory]⟩
  · exact changed.shape

/-! Walking. -/

/-- A refusal is counted outside memory. -/
theorem unchanged_reject (b : Bench) : b.Unchanged b.reject := ⟨rfl, rfl, rfl⟩

/-- Entering another cell changes memory, whatever the cell's instruction does. -/
theorem answered_commit (sized : b.machine.Sized) {index : Int} (other : index ≠ b.machine.ip) :
    b.Answered (b.commit index) := by
  have shape := Machine.sameShape_jump b.machine index
  unfold commit
  split
  · rename_i machine e
    have counted := Machine.jump_refused e
    subst counted
    exact Unchanged.answered ⟨rfl, rfl, rfl⟩
  · rename_i entered e
    have there : entered.cycle.ip = index := by rw [Machine.ip_cycle, Machine.ip_of_jump sized e]
    rw [e] at shape
    refine Changed.answered ⟨shape.trans (Machine.sameShape_cycle _), fun same => other ?_, rfl⟩
    have back : entered.cycle.ip = b.machine.ip := by
      rw [Machine.ip, Machine.ip, Machine.get, Machine.get, Machine.reg, Machine.reg]
      exact congrArg (fun memory : Image => ((memory.read Register.ip.address).toNat : Int)) same
    exact there.symm.trans back

/-- No cell is its own neighbour. -/
theorem target_ne {index next code : Int} (h : b.target index code = some next) :
    next ≠ index := by
  obtain ⟨d, -, found⟩ := Option.bind_eq_some_iff.1 h
  exact Grid.target_ne found

/-- A move leads to a neighbour, so it never enters the cell that it leaves. -/
theorem answered_attemptMove (sized : b.machine.Sized) (code : Int) :
    b.Answered (b.attemptMove code) := by
  unfold attemptMove
  split
  · split
    · rename_i next found
      exact answered_commit sized (target_ne found)
    · exact (unchanged_reject b).answered
  · exact (unchanged_reject b).answered

/-- A jump to the debugger's own cell is refused before the cell is tried. -/
theorem answered_jumpTo (sized : b.machine.Sized) (index : Int) :
    b.Answered (b.jumpTo index) := by
  unfold jumpTo
  split
  · rename_i allowed
    simp only [Bool.and_eq_true, bne_iff_ne] at allowed
    exact answered_commit sized allowed.2
  · exact (unchanged_reject b).answered

/-! Editing. -/

/-- An edit that would store what is there is refused. -/
theorem answered_edit (b : Bench) {change : Machine → Machine}
    (shape : b.machine.SameShape (change b.machine)) : b.Answered (b.edit change) := by
  simp only [edit]
  split
  · rename_i accepted
    simp only [Bool.and_eq_true, bne_iff_ne] at accepted
    exact Changed.answered ⟨shape, accepted.2, rfl⟩
  · exact (Unchanged.refl b).answered

theorem answered_editField (b : Bench) (field value : Int) : b.Answered (b.editField field value) :=
  answered_edit b (Machine.sameShape_store _ _ _ _)

/-- A record without directions refuses to have one toggled. -/
theorem answered_toggleDirection (b : Bench) (code : Int) : b.Answered (b.toggleDirection code) := by
  simp only [toggleDirection]
  split
  · exact (Unchanged.refl b).answered
  · exact (Unchanged.refl b).answered
  · exact answered_editField b _ _

/-- A yank reads memory and writes none. -/
theorem unchanged_yank (b : Bench) : b.Unchanged b.yank.2 := by
  unfold yank
  split <;> exact ⟨rfl, rfl, rfl⟩

/-- A cut answers for its edit; the yank before it has changed no memory. -/
theorem answered_cut (b : Bench) : b.Answered b.cut := by
  have yanked := unchanged_yank b
  unfold cut
  split
  · rename_i e
    rw [e] at yanked
    exact yanked.answered
  · rename_i b' e
    rw [e] at yanked
    exact yanked.then_answered (answered_edit b' (Machine.sameShape_setInstruction _ _ _))

theorem answered_paste (b : Bench) : b.Answered b.paste :=
  answered_edit b (Machine.sameShape_setInstruction _ _ _)

theorem answered_cycleOperand (b : Bench) (step : Int) : b.Answered (b.cycleOperand step) := by
  simp only [cycleOperand]
  split
  · exact answered_editField b _ _
  · exact (Unchanged.refl b).answered

theorem answered_adjustOperand (b : Bench) (delta : Int) : b.Answered (b.adjustOperand delta) := by
  simp only [adjustOperand]
  split
  · exact answered_editField b _ _
  · exact (Unchanged.refl b).answered

/-- Two fields are stored, and that is one change. -/
theorem answered_toggleMode (b : Bench) : b.Answered b.toggleMode := by
  simp only [toggleMode]
  split
  · exact answered_edit b ((Machine.sameShape_store _ _ _ _).trans (Machine.sameShape_store _ _ _ _))
  · exact (Unchanged.refl b).answered

/-- The instruction pointer is a byte of memory, so to bring the debugger is an edit like others. -/
theorem answered_bringDebugger (b : Bench) : b.Answered b.bringDebugger :=
  answered_edit b (Machine.sameShape_set _ _ _)

/-- The cursor lies outside memory. -/
theorem unchanged_moveCursor (b : Bench) (code : Int) : b.Unchanged (b.moveCursor code).2 := by
  unfold moveCursor
  split
  · split <;> exact ⟨rfl, rfl, rfl⟩
  · exact .refl b

/-- So does the mode of the editor. -/
theorem unchanged_toggle (b : Bench) : b.Unchanged b.toggle := by
  unfold toggle
  split <;> exact ⟨rfl, rfl, rfl⟩

theorem unchanged_toggleCell (b : Bench) : b.Unchanged b.toggleCell := by
  unfold toggleCell
  split <;> exact ⟨rfl, rfl, rfl⟩

end Bench

end CellWalk
