import CellWalk.Machine.Execution

/-!
# Memory under execution

A stored byte is read back at its address, and no other address notices. Every operation of the
machine keeps the grid and the length of memory (`SameShape`). A refused execution changes no more
than a counter, and a cell that lets the debugger in lies on the grid; afterwards the debugger stands
there, whatever the instruction itself has stored (`ip_of_jump`).
-/

namespace CellWalk
set_option autoImplicit false

/-- What is written inside memory is read back, within a byte. -/
theorem Image.read_write_same {m : Image} {a : Int} (low : 0 ≤ a) (high : a < m.length) (v : Int) :
    (m.write a v).read a = clampByte v := by
  obtain ⟨k, rfl⟩ := Int.eq_ofNat_of_zero_le low
  have inside : k < m.length := by omega
  simp [List.getD_eq_getElem?_getD, inside]

/-- A write leaves every other address alone. -/
theorem Image.read_write_of_ne (m : Image) {a b : Int} (ne : a ≠ b) (v : Int) :
    (m.write a v).read b = m.read b := by
  unfold Image.read Image.write
  by_cases hb : b < 0
  · rw [if_pos hb, if_pos hb]
  · by_cases ha : a < 0
    · rw [if_pos ha]
    · have apart : a.toNat ≠ b.toNat := by omega
      rw [if_neg hb, if_neg hb, if_neg ha, List.getD_eq_getElem?_getD, List.getD_eq_getElem?_getD,
        List.getElem?_set_ne apart]

namespace Machine

/-- The memory has the size that the grid asks for. -/
def Sized (m : Machine) : Prop := m.memory.length = sizeFor m.grid

/-- The same grid and as many bytes of memory. -/
structure SameShape (m n : Machine) : Prop where
  grid : n.grid = m.grid
  length : n.memory.length = m.memory.length

variable {m n k : Machine}

theorem Sized.programBase_le (h : m.Sized) : programBase ≤ m.memory.length := by
  rw [h, sizeFor]
  exact Nat.le_add_right _ _

theorem SameShape.refl (m : Machine) : m.SameShape m := ⟨rfl, rfl⟩

theorem SameShape.trans (h : m.SameShape n) (h' : n.SameShape k) : m.SameShape k :=
  ⟨h'.grid.trans h.grid, h'.length.trans h.length⟩

/-- A machine of the same shape is of the right size as well. -/
theorem SameShape.sized (h : m.SameShape n) (sized : m.Sized) : n.Sized := by
  rw [Sized, h.length, h.grid]
  exact sized

theorem sameShape_setReg (m : Machine) (a v : Int) : m.SameShape (m.setReg a v) :=
  ⟨rfl, Image.length_write _ _ _⟩

theorem sameShape_set (m : Machine) (r : Register) (v : Int) : m.SameShape (m.set r v) :=
  sameShape_setReg m _ v

theorem sameShape_store (m : Machine) (index field v : Int) :
    m.SameShape (m.store index field v) := by
  unfold store
  split
  · exact sameShape_setReg m _ v
  · exact .refl m

theorem sameShape_setInstruction (m : Machine) (index : Int) (r : Instruction) :
    m.SameShape (m.setInstruction index r) :=
  (((sameShape_store m _ _ _).trans (sameShape_store _ _ _ _)).trans
    (sameShape_store _ _ _ _)).trans (sameShape_store _ _ _ _)

theorem sameShape_push (m : Machine) (v : Int) : m.SameShape (m.push v) := by
  have stored := (sameShape_setReg m (slot (m.get .sp).toNat) v).trans
    (sameShape_set _ .sp ((m.get .sp).toNat + 1))
  exact ⟨stored.grid, stored.length⟩

theorem sameShape_pop (m : Machine) : m.SameShape m.pop.2 := by
  simp only [pop]
  split
  · exact .refl m
  · exact sameShape_set m _ _

theorem sameShape_swap (m : Machine) (operand : UInt8) : m.SameShape (m.swap operand) := by
  unfold swap
  split
  · exact ((sameShape_pop m).trans (sameShape_push _ _)).trans (sameShape_set _ _ _)
  · exact (sameShape_setReg m _ _).trans (sameShape_set _ _ _)

/-- No instruction changes the grid or the size of memory. -/
theorem sameShape_perform (m : Machine) (o : Opcode) (r : Instruction) :
    m.SameShape (m.perform o r).2 := by
  cases o with
  | nil | nop | txt | teq | tlt | tgt => exact .refl m
  | get | add | sub | halt => exact sameShape_set m _ _
  | set =>
    simp only [perform]
    split
    · exact sameShape_push m _
    · exact sameShape_setReg m _ _
  | swp => exact sameShape_swap m _
  | snd => exact ⟨rfl, rfl⟩

/-- Nor does the execution of a cell, known or not. -/
theorem sameShape_execute (m : Machine) (index : Int) : m.SameShape (m.execute index).2 := by
  have counted : m.SameShape { m with executions := m.executions + 1 } := ⟨rfl, rfl⟩
  simp only [execute]
  split
  · exact counted
  · exact counted.trans (sameShape_perform _ _ _)

theorem sameShape_jump (m : Machine) (index : Int) : m.SameShape (m.jump index).2 := by
  have executed := sameShape_execute m index
  unfold jump
  split
  · rename_i e
    rw [e] at executed
    exact executed.trans (sameShape_set _ _ _)
  · rename_i e
    rw [e] at executed
    exact executed

theorem sameShape_cycle (m : Machine) : m.SameShape m.cycle := sameShape_set m _ _

theorem reg_setReg_same {a : Int} (low : 0 ≤ a) (high : a < m.memory.length) (v : Int) :
    (m.setReg a v).reg a = clampByte v :=
  Image.read_write_same low high v

theorem reg_setReg_of_ne (m : Machine) {a b : Int} (ne : a ≠ b) (v : Int) :
    (m.setReg a v).reg b = m.reg b :=
  Image.read_write_of_ne m.memory ne v

/-- The registers lie below the program. -/
theorem address_lt (r : Register) : r.address < programBase := by
  cases r <;> decide

/-- A register reads back what was stored in it. -/
theorem get_set_same (sized : m.Sized) (r : Register) (v : Int) :
    (m.set r v).get r = clampByte v := by
  have inside := address_lt r
  have room := sized.programBase_le
  exact reg_setReg_same (by omega) (by omega) v

/-- A register that is set leaves the others alone. -/
theorem get_set_of_ne (m : Machine) {r q : Register} (ne : r.address ≠ q.address) (v : Int) :
    (m.set r v).get q = m.get q :=
  reg_setReg_of_ne m (by omega) v

theorem fetch_of_contains {index field : Int} (on : m.grid.contains index = true) (low : 0 ≤ field)
    (high : field < Instruction.width) : m.fetch index field = m.reg (fieldAddress index field) := by
  simp [fetch, on, low, high]

/-- Off the grid every field is 0. -/
theorem fetch_of_not_contains {index : Int} (off : m.grid.contains index = false) (field : Int) :
    m.fetch index field = 0 := by
  simp [fetch, off]

/-- So every record is blank there. -/
theorem instruction_of_not_contains {index : Int} (off : m.grid.contains index = false) :
    m.instruction index = .blank := by
  simp only [instruction, fetch_of_not_contains off]
  rfl

/-- An instruction that refuses changes nothing. -/
theorem perform_refused {o : Opcode} {r : Instruction} (h : m.perform o r = (false, n)) : n = m := by
  cases o <;> simp_all [perform]

/-- A refused execution is counted, and that is all it does. -/
theorem execute_refused {index : Int} (h : m.execute index = (false, n)) :
    n = { m with executions := m.executions + 1 } := by
  simp only [execute] at h
  split at h
  · cases h
    rfl
  · exact perform_refused h

/-- An opcode that there is not refuses, and the attempt is counted. -/
theorem execute_of_unknown {index : Int} (unknown : m.op? index = none) :
    m.execute index = (false, { m with executions := m.executions + 1 }) := by
  unfold op? at unknown
  simp only [execute, unknown]

theorem execute_of_op {index : Int} {o : Opcode} (named : m.op? index = some o) :
    m.execute index =
      ({ m with executions := m.executions + 1 } : Machine).perform o (m.instruction index) := by
  unfold op? at named
  simp only [execute, named]

/-- A cell that lets the debugger in lies on the grid. -/
theorem contains_of_execute {index : Int} (h : m.execute index = (true, n)) :
    m.grid.contains index = true := by
  cases on : m.grid.contains index with
  | true => rfl
  | false =>
    have empty : m.instruction index = .blank := instruction_of_not_contains on
    have nil : Instruction.blank.op? = some .nil := by decide
    simp [execute, empty, nil, perform] at h

/-- A jump that is refused has been counted and has written nothing. -/
theorem jump_refused {index : Int} (h : m.jump index = (false, n)) :
    n = { m with executions := m.executions + 1 } := by
  unfold jump at h
  split at h
  · cases h
  · rename_i e
    cases h
    exact execute_refused e

/-- A cell that is entered lies on the grid. -/
theorem contains_of_jump {index : Int} (h : m.jump index = (true, n)) :
    m.grid.contains index = true := by
  unfold jump at h
  split at h
  · rename_i e
    exact contains_of_execute e
  · cases h

/-- A jump into a cell performs the cell's instruction and then moves the debugger. -/
theorem performed_of_jump {index : Int} (h : m.jump index = (true, n)) :
    ∃ o entered, m.op? index = some o ∧ n = entered.set .ip index ∧
      ({ m with executions := m.executions + 1 } : Machine).perform o (m.instruction index) =
        (true, entered) := by
  unfold jump at h
  split at h
  · rename_i entered e
    cases h
    cases named : m.op? index with
    | none =>
      rw [execute_of_unknown named] at e
      cases e
    | some o =>
      rw [execute_of_op named] at e
      exact ⟨o, entered, rfl, rfl, e⟩
  · cases h

/-- The number of a cell fits in a byte. -/
theorem toNat_clampByte_index {index : Int} (on : m.grid.contains index = true) :
    ((clampByte index).toNat : Int) = index := by
  have bounds := Grid.contains_iff.1 on
  have small := m.cells_le
  rw [toNat_clampByte]
  omega

/-- After a jump the debugger stands on the cell that it entered, even if the instruction wrote to
the instruction pointer. -/
theorem ip_of_jump {index : Int} (sized : m.Sized) (h : m.jump index = (true, n)) :
    n.ip = index := by
  have on := contains_of_jump h
  unfold jump at h
  split at h
  · rename_i entered e
    cases h
    have shape : m.SameShape entered := by
      have := sameShape_execute m index
      rwa [e] at this
    rw [ip, get_set_same (shape.sized sized), toNat_clampByte_index on]
  · cases h

@[simp] theorem ip_cycle (m : Machine) : m.cycle.ip = m.ip := by
  rw [ip, ip, cycle, get_set_of_ne m (by decide)]

end Machine

/-- A cell's neighbour is another cell. -/
theorem Grid.target_ne {g : Grid} {index next : Int} {d : Direction}
    (h : g.target index d = some next) : next ≠ index := by
  have := g.cols_pos
  cases d <;> simp only [Grid.target, Option.ite_none_right_eq_some, Option.some.injEq] at h <;> omega

end CellWalk
