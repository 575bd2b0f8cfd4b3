import CellWalk.Proofs.Changes

/-!
# Steps of a bench

What happens at a bench is entered in a ledger: the undo history and the counts of moves, of refused
walks and of edits. Undoing reads the ledger; no other step does, so from another ledger it comes to
the same (`Follows`). For the machine a step of the editor means new bytes of the program, or another
cell of the grid for the debugger (`Retouched`), and a step of the walker a cell that is entered or
refused (`Walked`).
-/

namespace CellWalk
set_option autoImplicit false

namespace Machine

/-- A machine with other bytes in its program and, it may be, its debugger on another cell. -/
structure Retouched (m n : Machine) : Prop where
  rest : n = { m with memory := n.memory }
  length : n.memory.length = m.memory.length
  registers : ∀ a : Int, a < programBase → a ≠ Register.ip.address → n.reg a = m.reg a
  debugger : n.ip = m.ip ∨ m.grid.contains n.ip = true

/-- A machine before and after an attempt to walk: no cell is tried, or one refuses, or one is entered. -/
inductive Walked (m : Machine) : Machine → Prop
  | stayed : Walked m m
  | refused : Walked m { m with executions := m.executions + 1 }
  | entered {index : Int} {n : Machine} (jumped : m.jump index = (true, n)) : Walked m n.cycle

variable {m n k : Machine}

theorem Retouched.refl (m : Machine) : m.Retouched m := ⟨rfl, rfl, fun _ _ _ => rfl, .inl rfl⟩

theorem Retouched.grid (h : m.Retouched n) : n.grid = m.grid := by
  rw [h.rest]

/-- Two touches are one; the grid on which the second may put the debugger is the same. -/
theorem Retouched.trans (h : m.Retouched n) (h' : n.Retouched k) : m.Retouched k := by
  refine ⟨?_, h'.length.trans h.length, fun a low other => ?_, ?_⟩
  · rw [h'.rest, h.rest]
  · rw [h'.registers a low other, h.registers a low other]
  · rcases h'.debugger with same | there
    · rw [same]
      exact h.debugger
    · rw [h.grid] at there
      exact .inr there

/-- A field of a record lies above every register. -/
theorem retouched_store (m : Machine) (index field v : Int) : m.Retouched (m.store index field v) := by
  unfold store
  split
  · rename_i inside
    simp only [Bool.and_eq_true, decide_eq_true_eq, Grid.contains_iff] at inside
    have high : ∀ a : Int, a < programBase → fieldAddress index field ≠ a := by
      unfold fieldAddress Instruction.width
      omega
    refine ⟨rfl, Image.length_write _ _ _, fun a low _ => reg_setReg_of_ne m (high a low) v, .inl ?_⟩
    rw [ip, get, reg_setReg_of_ne m (high _ (by decide)), ip, get]
  · exact .refl m

/-- A record is stored by its four fields. -/
theorem retouched_setInstruction (m : Machine) (index : Int) (r : Instruction) :
    m.Retouched (m.setInstruction index r) :=
  (((retouched_store m _ _ _).trans (retouched_store _ _ _ _)).trans (retouched_store _ _ _ _)).trans
    (retouched_store _ _ _ _)

/-- The debugger is brought to a cell of the grid. -/
theorem retouched_set_ip {index : Int} (on : m.grid.contains index = true) :
    m.Retouched (m.set .ip index) := by
  refine ⟨rfl, (sameShape_set m _ _).length, fun a _ other => reg_setReg_of_ne m other.symm index, ?_⟩
  by_cases room : (Register.ip.address : Int) < m.memory.length
  · refine .inr ?_
    rw [ip, get, set, reg_setReg_same (by decide) room, toNat_clampByte_index on]
    exact on
  · -- a memory that ends before the register drops what is written there
    have dropped : m.memory.write Register.ip.address index = m.memory := by
      rw [Image.write_natCast]
      exact List.set_eq_of_length_le (by omega)
    rw [set, setReg, dropped]
    exact .inl rfl

/-! The outlet under execution. -/

@[simp] theorem outlet_setReg (m : Machine) (a v : Int) : (m.setReg a v).outlet = m.outlet := rfl

@[simp] theorem outlet_set (m : Machine) (r : Register) (v : Int) : (m.set r v).outlet = m.outlet := rfl

@[simp] theorem outlet_push (m : Machine) (v : Int) : (m.push v).outlet = m.outlet := rfl

@[simp] theorem outlet_pop (m : Machine) : m.pop.2.outlet = m.outlet := by
  simp only [pop]
  split <;> rfl

@[simp] theorem outlet_swap (m : Machine) (operand : UInt8) : (m.swap operand).outlet = m.outlet := by
  unfold swap
  split <;> simp

/-- An instruction that is executed leaves the outlet as it is, or sends one byte. -/
theorem outlet_perform (m : Machine) (o : Opcode) (r : Instruction) :
    (m.perform o r).2.outlet = m.outlet ∨ (m.perform o r).2.outlet = m.outlet.push (m.get .dbg) := by
  cases o with
  | snd => exact .inr rfl
  | set =>
    simp only [perform]
    split <;> exact .inl rfl
  | swp => exact .inl (outlet_swap m _)
  | nil | nop | txt | get | add | sub | teq | tlt | tgt | halt => exact .inl rfl

/-- Entering a cell sends one byte at most. -/
theorem outlet_jump {index : Int} (jumped : m.jump index = (true, n)) :
    n.outlet = m.outlet ∨ n.outlet = m.outlet.push (m.get .dbg) := by
  obtain ⟨o, entered, -, rfl, performed⟩ := performed_of_jump jumped
  have known := outlet_perform { m with executions := m.executions + 1 } o (m.instruction index)
  rw [performed] at known
  rw [outlet_set]
  exact known

/-- How many bytes the outlet keeps is not a matter of walks. -/
theorem Walked.depth (h : m.Walked n) : n.outlet.depth = m.outlet.depth := by
  cases h with
  | stayed | refused => rfl
  | entered jumped =>
    rw [cycle, outlet_set]
    rcases outlet_jump jumped with same | sent
    · rw [same]
    · rw [sent]
      rfl

end Machine

/-- What is written down beside the work at a bench. -/
structure Ledger where
  history : History
  moves : Nat
  rejected : Nat
  edits : Nat

/-- The ledger after a step that may have recorded the image of before. -/
def Ledger.entered (l : Ledger) (records : Bool) (image : Image) : Ledger :=
  if records then { l with history := l.history.push image } else l

namespace Bench

/-- The bench with the history of a ledger, and with its counts added to those of the ledger. -/
def continuing (b : Bench) (l : Ledger) : Bench :=
  { b with
    history := l.history
    walker := { b.walker with
      moves := l.moves + b.walker.moves
      rejected := l.rejected + b.walker.rejected }
    editor := { b.editor with edits := l.edits + b.editor.edits } }

/-- A step comes to the same from whatever ledger it goes on: the same answer, the same bench, and one
image for the history or none. The machine changes by the rule. -/
def Follows (rule : Machine → Machine → Prop) (step : Bench → Bool × Bench) (b : Bench) : Prop :=
  ∃ (answer : Bool) (after : Bench) (records : Bool), rule b.machine after.machine ∧ ∀ l : Ledger,
    step (b.continuing l) = (answer, after.continuing (l.entered records b.machine.memory))

variable {rule : Machine → Machine → Prop} {step : Bench → Bool × Bench}

/-- A step that records nothing. -/
theorem Follows.plain {b : Bench} (answer : Bool) (after : Bench) (changes : rule b.machine after.machine)
    (same : ∀ l, step (b.continuing l) = (answer, after.continuing l)) : Follows rule step b :=
  ⟨answer, after, false, changes, same⟩

/-! What a bench shows does not depend on the ledger. -/

section continuing
variable (b : Bench) (l : Ledger)

-- by cases and not by `rfl` alone, so that `simp` rewrites the decidability of a condition as well

@[simp] theorem machine_continuing : (b.continuing l).machine = b.machine := by
  cases b
  rfl

@[simp] theorem allows_continuing (direction : Int) :
    (b.continuing l).allows direction = b.allows direction := by
  cases b
  rfl

@[simp] theorem target_continuing (index direction : Int) :
    (b.continuing l).target index direction = b.target index direction := by
  cases b
  rfl

@[simp] theorem active_continuing : (b.continuing l).editor.active = b.editor.active := by
  cases b
  rfl

@[simp] theorem current_continuing : (b.continuing l).current = b.current := by
  cases b
  rfl

@[simp] theorem editable_continuing : (b.continuing l).editable = b.editable := by
  cases b
  rfl

end continuing

/-! Walking. -/

/-- A walk that is refused before any cell is tried is counted, and nothing else. -/
theorem follows_reject (b : Bench) : Follows Machine.Walked (fun b => (false, b.reject)) b :=
  .plain false b.reject .stayed fun _ => rfl

/-- A cell that refuses is counted as well; one that is entered puts the image of before on the history. -/
theorem follows_commit (index : Int) (b : Bench) :
    Follows Machine.Walked (fun b => b.commit index) b := by
  rcases jumped : b.machine.jump index with ⟨entered, machine⟩
  cases entered with
  | false =>
    refine .plain false (reject { b with machine }) ?_ fun l => ?_
    · have counted := Machine.jump_refused jumped
      subst counted
      exact .refused
    · have same : (b.continuing l).machine.jump index = (false, machine) := jumped
      simp only [commit, same]
      rfl
  | true =>
    let after : Bench := { b with
      machine := machine.cycle
      walker := { b.walker with moves := b.walker.moves + 1 } }
    refine ⟨true, after, true, .entered jumped, fun l => ?_⟩
    have same : (b.continuing l).machine.jump index = (true, machine) := jumped
    simp only [commit, same]
    rfl

/-- Where a move leads is a matter of masks and of the grid, not of what was written down. -/
theorem follows_attemptMove (code : Int) (b : Bench) :
    Follows Machine.Walked (fun b => b.attemptMove code) b := by
  simp only [Follows, attemptMove, allows_continuing, target_continuing, machine_continuing]
  cases b.allows code with
  | false => exact follows_reject b
  | true =>
    cases b.target b.machine.ip code with
    | none => exact follows_reject b
    | some index => exact follows_commit index b

/-- And so it is with a jump. -/
theorem follows_jumpTo (index : Int) (b : Bench) :
    Follows Machine.Walked (fun b => b.jumpTo index) b := by
  simp only [Follows, jumpTo, machine_continuing]
  split
  · exact follows_commit index b
  · exact follows_reject b

/-! Editing. -/

theorem editable_iff {b : Bench} : b.editable = true ↔
    b.editor.active = true ∧ b.machine.grid.contains b.editor.pointer = true := by
  rw [editable, Bool.and_eq_true]

/-- What a bench refuses it refuses with every ledger. -/
theorem follows_refused (b : Bench) : Follows Machine.Retouched (fun b => (false, b)) b :=
  .plain false b (.refl _) fun _ => rfl

/-- An edit that changes memory is recorded and counted, and any other is refused. -/
theorem follows_edit {b : Bench} {f : Machine → Machine}
    (changes : b.editable = true → b.machine.Retouched (f b.machine)) :
    Follows Machine.Retouched (fun b => b.edit f) b := by
  simp only [Follows, edit, editable_continuing, machine_continuing]
  split
  · rename_i accepted
    rw [Bool.and_eq_true] at accepted
    exact ⟨true, { b with
      machine := f b.machine
      editor := { b.editor with edits := b.editor.edits + 1 } }, true, changes accepted.1, fun _ => rfl⟩
  · exact follows_refused b

theorem follows_editField (field value : Int) (b : Bench) :
    Follows Machine.Retouched (fun b => b.editField field value) b := by
  have stores : ∀ l, (b.continuing l).editField field value =
      (b.continuing l).edit fun m => m.store b.editor.pointer field value := fun _ => rfl
  simp only [Follows, stores]
  exact follows_edit fun _ => Machine.retouched_store _ _ _ _

theorem follows_toggleDirection (code : Int) (b : Bench) :
    Follows Machine.Retouched (fun b => b.toggleDirection code) b := by
  simp only [Follows, toggleDirection, current_continuing]
  split
  · exact follows_refused b
  · exact follows_refused b
  · exact follows_editField _ _ b

/-- A yank changes no memory, so nothing is recorded. -/
theorem follows_yank (b : Bench) : Follows Machine.Retouched Bench.yank b := by
  simp only [Follows, yank, editable_continuing, current_continuing]
  split
  · exact ⟨true, { b with editor := { b.editor with yanked := b.current } }, false, .refl _, fun _ => rfl⟩
  · exact follows_refused b

/-- A cut is a yank, and then an edit at the same bench but for the yanked record. -/
theorem follows_cut (b : Bench) : Follows Machine.Retouched Bench.cut b := by
  let yanked : Bench := { b with editor := { b.editor with yanked := b.current } }
  have cuts : ∀ l, (b.continuing l).cut =
      if b.editable then
        (yanked.continuing l).edit fun m => m.setInstruction b.editor.pointer .blank
      else (false, b.continuing l) := by
    intro l
    have yanks : (b.continuing l).yank =
        if b.editable then (true, yanked.continuing l) else (false, b.continuing l) := rfl
    rw [cut, yanks]
    cases b.editable <;> rfl
  simp only [Follows, cuts]
  split
  · exact follows_edit (b := yanked) fun _ => Machine.retouched_setInstruction _ _ _
  · exact follows_refused b

theorem follows_paste (b : Bench) : Follows Machine.Retouched Bench.paste b := by
  have pastes : ∀ l, (b.continuing l).paste =
      (b.continuing l).edit fun m => m.setInstruction b.editor.pointer b.editor.yanked := fun _ => rfl
  simp only [Follows, pastes]
  exact follows_edit fun _ => Machine.retouched_setInstruction _ _ _

theorem follows_toggleOnOff (b : Bench) : Follows Machine.Retouched Bench.toggleOnOff b := by
  simp only [Follows, toggleOnOff, current_continuing]
  exact follows_editField _ _ b

theorem follows_cycleOpcode (step : Int) (b : Bench) :
    Follows Machine.Retouched (fun b => b.cycleOpcode step) b := by
  simp only [Follows, cycleOpcode, current_continuing]
  exact follows_editField _ _ b

theorem follows_cycleOperand (step : Int) (b : Bench) :
    Follows Machine.Retouched (fun b => b.cycleOperand step) b := by
  simp only [Follows, cycleOperand, current_continuing]
  split
  · exact follows_editField _ _ b
  · exact follows_refused b

theorem follows_adjustOperand (delta : Int) (b : Bench) :
    Follows Machine.Retouched (fun b => b.adjustOperand delta) b := by
  simp only [Follows, adjustOperand, current_continuing]
  split
  · exact follows_editField _ _ b
  · exact follows_refused b

/-- Mode and operand are stored in one edit, so they are recorded together. -/
theorem follows_toggleMode (b : Bench) : Follows Machine.Retouched Bench.toggleMode b := by
  let next : UInt8 × UInt8 :=
    if b.current.mode = Instruction.addressMode then (Instruction.immediateMode, 0)
    else (Instruction.addressMode, Register.dat.offset)
  have toggles : ∀ l, (b.continuing l).toggleMode =
      if takesOperand b.current.op? then
        (b.continuing l).edit fun m =>
          (m.store b.editor.pointer 2 next.1.toNat).store b.editor.pointer 1 next.2.toNat
      else (false, b.continuing l) := fun _ => rfl
  simp only [Follows, toggles]
  split
  · exact follows_edit fun _ =>
      (Machine.retouched_store _ _ _ _).trans (Machine.retouched_store _ _ _ _)
  · exact follows_refused b

/-- The cursor of an edit is on the grid, so the debugger cannot be brought off it. -/
theorem follows_bringDebugger (b : Bench) : Follows Machine.Retouched Bench.bringDebugger b := by
  have brings : ∀ l, (b.continuing l).bringDebugger =
      (b.continuing l).edit fun m => m.set .ip b.editor.pointer := fun _ => rfl
  simp only [Follows, brings]
  refine follows_edit fun editable => ?_
  rw [editable_iff] at editable
  exact Machine.retouched_set_ip editable.2

/-- The cursor is no part of memory; it may leave the grid unrecorded. -/
theorem follows_moveCursor (code : Int) (b : Bench) :
    Follows Machine.Retouched (fun b => b.moveCursor code) b := by
  simp only [Follows, moveCursor, active_continuing]
  split
  · split
    · exact follows_refused b
    · rename_i d _
      exact ⟨true, { b with
        editor := { b.editor with pointer := b.editor.pointer + b.machine.grid.stride d } }, false,
        .refl _, fun _ => rfl⟩
  · exact follows_refused b

/-- Opening the editor is no edit, nor is closing it. -/
theorem follows_toggle (b : Bench) : Follows Machine.Retouched (fun b => (true, b.toggle)) b := by
  simp only [Follows, toggle, active_continuing]
  split
  · exact ⟨true, b.leave, false, .refl _, fun _ => rfl⟩
  · exact ⟨true, b.enter, false, .refl _, fun _ => rfl⟩

theorem follows_toggleCell (b : Bench) :
    Follows Machine.Retouched (fun b => (true, b.toggleCell)) b := by
  rcases b with ⟨machine, history, walker, ⟨mode, pointer, yanked, edits⟩⟩
  let turned (mode : EditMode) : Bench := ⟨machine, history, walker, ⟨mode, pointer, yanked, edits⟩⟩
  cases mode with
  | off => exact ⟨true, turned .off, false, .refl _, fun _ => rfl⟩
  | grid => exact ⟨true, turned .cell, false, .refl _, fun _ => rfl⟩
  | cell => exact ⟨true, turned .grid, false, .refl _, fun _ => rfl⟩

end Bench

end CellWalk
