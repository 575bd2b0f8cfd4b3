import CellWalk.Proofs.EditModes
import CellWalk.Proofs.Overflow
import Mathlib.Data.List.Rotate

/-!
# What an edit makes of a cell

An edit stores bytes in the record under the cursor and nowhere else (`ChangedOnly`), so it changes memory
just if it changes that record. What the record becomes is told by the old one alone, or for a paste by
the yanked one (`Edit.record`), and whether the edit may be made by its opcode and mode (`Edit.Allowed`).
An edit answers true and leaves just that, or it answers false because the editor is closed, the cursor
is off the grid, the record forbids it or is already what it should become (`edits_go_by_rule`). Bringing
the debugger follows the same rule with the instruction pointer in place of the record.
-/

namespace CellWalk
set_option autoImplicit false

/-! Values in a circle. -/

/-- The value that comes `step` places after `v` when the values stand in a circle. The first of them
comes after a value that is not among them. -/
def successor (values : List UInt8) (step : Int) (v : UInt8) : UInt8 :=
  if v ∈ values then (values.rotate (step % values.length).toNat).getD (values.idxOf v) 0
  else values.headD 0

theorem toNat_injective : Function.Injective fun v : UInt8 => (v.toNat : Int) :=
  fun _ _ same => UInt8.toNat_inj.1 (Int.ofNat_inj.1 same)

theorem idxOf_map_toNat (values : List UInt8) (v : UInt8) :
    (values.map fun u => (u.toNat : Int)).idxOf (v.toNat : Int) = values.idxOf v := by
  simp only [List.idxOf, List.findIdx_map]
  congr 1
  funext u
  simpa using toNat_injective.eq_iff

/-- To cycle numbers of bytes is to take the successor among the bytes. -/
theorem cycleValue_eq_successor {values : List UInt8} (nonempty : values ≠ []) (step : Int) (v : UInt8) :
    cycleValue (values.map fun u => (u.toNat : Int)) v.toNat step =
      some ((successor values step v).toNat : Int) := by
  unfold cycleValue successor
  by_cases listed : v ∈ values
  · have count : 0 < values.length := List.length_pos_iff.2 nonempty
    have place : values.idxOf v < values.length := List.idxOf_lt_length_of_mem listed
    -- turning the list by the step brings the value to the old one's place
    have turned : (((values.idxOf v : Int) + step) % values.length).toNat =
        (values.idxOf v + (step % values.length).toNat) % values.length := by
      have low : 0 ≤ step % values.length := Int.emod_nonneg step (by omega)
      rw [← Int.toNat_natCast ((values.idxOf v + (step % values.length).toNat) % values.length)]
      congr 1
      push_cast
      rw [Int.toNat_of_nonneg low, Int.add_emod_emod]
    rw [if_pos ((List.mem_map_of_injective toNat_injective).2 listed), if_pos listed, idxOf_map_toNat,
      List.length_map, turned, List.getElem?_map, List.getD_eq_getElem?_getD,
      List.getElem?_rotate place]
    have inside := Nat.mod_lt (values.idxOf v + (step % values.length).toNat) count
    rw [List.getElem?_eq_getElem inside]
    rfl
  · rw [if_neg fun found => listed ((List.mem_map_of_injective toNat_injective).1 found), if_neg listed]
    cases values with
    | nil => exact absurd rfl nonempty
    | cons first _ => rfl

/-! Records with one byte replaced. -/

/-- The record with another byte in one of its fields. -/
def Instruction.put (r : Instruction) (field : Int) (v : UInt8) : Instruction :=
  ⟨if field = 0 then v else r.opcode, if field = 1 then v else r.operand,
    if field = 2 then v else r.mode, if field = 3 then v else r.dirs⟩

namespace Machine

/-- A machine that differs from another in its memory at most, and there at these addresses. -/
structure ChangedOnly (m : Machine) (place : Int → Prop) (n : Machine) : Prop where
  rest : n = { m with memory := n.memory }
  length : n.memory.length = m.memory.length
  elsewhere : ∀ a, ¬place a → n.reg a = m.reg a

/-- The four addresses of a cell's record. -/
def InRecord (index a : Int) : Prop :=
  programBase + index * Instruction.width ≤ a ∧ a < programBase + (index + 1) * Instruction.width

variable {m n k : Machine} {place : Int → Prop} {index field : Int}

theorem inRecord_iff {a : Int} :
    InRecord index a ↔ ∃ field : Int, 0 ≤ field ∧ field < Instruction.width ∧ a = fieldAddress index field := by
  unfold InRecord fieldAddress Instruction.width
  constructor
  · intro inside
    exact ⟨a - programBase - index * 4, by omega, by omega, by omega⟩
  · rintro ⟨field, low, high, rfl⟩
    omega

theorem ChangedOnly.refl (m : Machine) (place : Int → Prop) : m.ChangedOnly place m :=
  ⟨rfl, rfl, fun _ _ => rfl⟩

/-- Changes in the same places, one after the other, are changes in these places. -/
theorem ChangedOnly.trans (h : m.ChangedOnly place n) (h' : n.ChangedOnly place k) :
    m.ChangedOnly place k where
  rest := by rw [h'.rest, h.rest]
  length := h'.length.trans h.length
  elsewhere := fun a outside => (h'.elsewhere a outside).trans (h.elsewhere a outside)

theorem ChangedOnly.grid (h : m.ChangedOnly place n) : n.grid = m.grid := by
  rw [h.rest]

theorem changedOnly_setReg (m : Machine) {a : Int} (here : place a) (v : Int) :
    m.ChangedOnly place (m.setReg a v) where
  rest := rfl
  length := Image.length_write _ _ _
  elsewhere := by
    intro other outside
    apply reg_setReg_of_ne m
    rintro rfl
    exact outside here

/-- A field lies in its record. -/
theorem changedOnly_store (m : Machine) (index field v : Int) :
    m.ChangedOnly (InRecord index) (m.store index field v) := by
  unfold store
  split
  · rename_i inside
    simp only [Bool.and_eq_true, decide_eq_true_eq] at inside
    exact changedOnly_setReg m (inRecord_iff.2 ⟨field, inside.2.1, inside.2.2, rfl⟩) v
  · exact .refl m _

theorem changedOnly_setInstruction (m : Machine) (index : Int) (r : Instruction) :
    m.ChangedOnly (InRecord index) (m.setInstruction index r) :=
  (((changedOnly_store m _ _ _).trans (changedOnly_store _ _ _ _)).trans
    (changedOnly_store _ _ _ _)).trans (changedOnly_store _ _ _ _)

/-- Memory is as it was if it is so where it may have changed. -/
theorem ChangedOnly.memory_eq_iff (h : m.ChangedOnly place n) :
    n.memory = m.memory ↔ ∀ a, place a → n.reg a = m.reg a := by
  constructor
  · intro same a _
    rw [reg, reg, same]
  · intro same
    apply Image.eq_of_read h.length
    intro a _
    by_cases here : place a
    · exact same a here
    · exact h.elsewhere a here

/-- If only a record may change, memory changes with the record. -/
theorem memory_eq_iff_of_inRecord (h : m.ChangedOnly (InRecord index) n)
    (on : m.grid.contains index = true) :
    n.memory = m.memory ↔ n.instruction index = m.instruction index := by
  have on' : n.grid.contains index = true := by rwa [h.grid]
  rw [h.memory_eq_iff]
  constructor
  · intro same
    apply instruction_congr
    intro field
    apply fetch_congr_of_reg h.grid
    intro there
    exact same _ (inRecord_iff.2 ⟨field, there.low, there.high, rfl⟩)
  · intro same a inside
    obtain ⟨field, low, high, rfl⟩ := inRecord_iff.1 inside
    rw [← fetch_of_contains on' low high, ← fetch_of_contains on low high]
    simp only [instruction, Instruction.mk.injEq] at same
    have cases : field = 0 ∨ field = 1 ∨ field = 2 ∨ field = 3 := by
      unfold Instruction.width at high
      omega
    rcases cases with rfl | rfl | rfl | rfl
    · exact same.1
    · exact same.2.1
    · exact same.2.2.1
    · exact same.2.2.2

theorem memory_eq_iff_of_ip (h : m.ChangedOnly (· = Register.ip.address) n) :
    n.memory = m.memory ↔ n.ip = m.ip := by
  rw [h.memory_eq_iff]
  constructor
  · intro same
    rw [ip, ip, get, get, same _ rfl]
  · rintro same a rfl
    exact UInt8.toNat_inj.1 (Int.ofNat_inj.1 same)

/-! What is stored is read. -/

@[simp] theorem grid_store (m : Machine) (index field v : Int) : (m.store index field v).grid = m.grid :=
  (sameShape_store m index field v).grid

theorem Sized.store (sized : m.Sized) (index field v : Int) : (m.store index field v).Sized :=
  (sameShape_store m index field v).sized sized

/-- A stored byte is read back in its field, and the other fields keep theirs. -/
theorem fetch_store (sized : m.Sized) (on : m.OnRecord index field) (v other : Int) :
    (m.store index field v).fetch index other =
      if other = field then clampByte v else m.fetch index other := by
  obtain ⟨a, address, -, inside⟩ := on.address sized
  have stored : m.store index field v = m.setReg a v := by
    rw [store, if_pos, address]
    simp [on.cell, on.low, on.high]
  rw [stored]
  by_cases same : other = field
  · subst same
    have there : (m.setReg a v).OnRecord index other := ⟨on.cell, on.low, on.high⟩
    rw [if_pos rfl, there.fetch_eq, address, reg_setReg_same (by omega) (by omega)]
  · rw [if_neg same]
    apply fetch_congr_of_reg (sameShape_setReg m a v).grid
    intro _
    rw [← address]
    apply reg_setReg_of_ne m
    unfold fieldAddress
    omega

/-- To store a field of a record is to put it there. -/
theorem instruction_store (sized : m.Sized) (on : m.OnRecord index field) (v : Int) :
    (m.store index field v).instruction index = (m.instruction index).put field (clampByte v) := by
  simp only [instruction, Instruction.put, fetch_store sized on, eq_comm]

theorem OnRecord.store {other : Int} (on : m.OnRecord index other) (field v : Int) :
    (m.store index field v).OnRecord index other :=
  ⟨by rw [grid_store]; exact on.cell, on.low, on.high⟩

/-- A stored record is read back. -/
theorem instruction_setInstruction (sized : m.Sized) (on : m.grid.contains index = true)
    (r : Instruction) : (m.setInstruction index r).instruction index = r := by
  have first : m.OnRecord index 0 := ⟨on, by decide, by decide⟩
  have second : m.OnRecord index 1 := ⟨on, by decide, by decide⟩
  have third : m.OnRecord index 2 := ⟨on, by decide, by decide⟩
  have fourth : m.OnRecord index 3 := ⟨on, by decide, by decide⟩
  have sized₁ := sized.store index 0 r.opcode.toNat
  have sized₂ := sized₁.store index 1 r.operand.toNat
  have sized₃ := sized₂.store index 2 r.mode.toNat
  rw [setInstruction, instruction_store sized₃ (((fourth.store _ _).store _ _).store _ _),
    instruction_store sized₂ ((third.store _ _).store _ _), instruction_store sized₁ (second.store _ _),
    instruction_store sized first]
  simp [Instruction.put]

end Machine

/-! What a record becomes. -/

theorem Opcode.ofByte?_eq_some {v : UInt8} {o : Opcode} : ofByte? v = some o ↔ v = o.code := by
  constructor
  · intro named
    have found := List.find?_some named
    exact (beq_iff_eq.1 found).symm
  · rintro rfl
    exact ofByte?_code o

/-- The operand and the mode of the record may be edited. -/
def Instruction.TakesOperand (r : Instruction) : Prop :=
  r.opcode ∉ [Opcode.nil, .nop, .swp, .snd].map Opcode.code

theorem takesOperand_iff {r : Instruction} : takesOperand r.op? = true ↔ r.TakesOperand := by
  unfold Instruction.TakesOperand
  cases named : r.op? with
  | none =>
    have unknown : ∀ o : Opcode, r.opcode ≠ o.code := by
      intro o same
      have known := Opcode.ofByte?_eq_some.2 same
      rw [Instruction.op?, known] at named
      cases named
    simp [takesOperand, unknown]
  | some o =>
    rw [Opcode.ofByte?_eq_some.1 named]
    cases o <;> decide

/-- The edits of a record. -/
inductive Edit
  | toggleDirection (d : Direction)
  | cut
  | paste
  | toggleOnOff
  | cycleOpcode (step : Int)
  | cycleOperand (step : Int)
  | adjustOperand (delta : Int)
  | toggleMode

namespace Edit

/-- Makes the edit at a bench. -/
def apply (b : Bench) : Edit → Bool × Bench
  | toggleDirection d => b.toggleDirection d.bit.toNat
  | cut => b.cut
  | paste => b.paste
  | toggleOnOff => b.toggleOnOff
  | cycleOpcode step => b.cycleOpcode step
  | cycleOperand step => b.cycleOperand step
  | adjustOperand delta => b.adjustOperand delta
  | toggleMode => b.toggleMode

/-- A record allows the edit. -/
def Allowed (old : Instruction) : Edit → Prop
  | cut | paste | toggleOnOff | cycleOpcode _ => True
  | toggleDirection _ => old.opcode ≠ Opcode.nil.code ∧ old.opcode ≠ Opcode.halt.code
  | cycleOperand _ => old.TakesOperand ∧ old.mode = Instruction.addressMode
  | adjustOperand _ => old.TakesOperand ∧ old.mode = Instruction.immediateMode
  | toggleMode => old.TakesOperand

/-- What the edit makes of a record. -/
def record (yanked old : Instruction) : Edit → Instruction
  | toggleDirection d => { old with dirs := old.dirs ^^^ d.bit }
  | cut => .blank
  | paste => yanked
  | toggleOnOff =>
    { old with opcode := if old.opcode = Opcode.nil.code then Opcode.nop.code else Opcode.nil.code }
  | cycleOpcode step =>
    { old with opcode := successor (Opcode.all.map Opcode.code) step old.opcode }
  | cycleOperand step =>
    { old with operand := successor (operandTargets.map Register.offset) step old.operand }
  | adjustOperand delta =>
    { old with operand := UInt8.ofNat (max 0 (min (old.operand.toNat + delta) 255)).toNat }
  | toggleMode =>
    if old.mode = Instruction.addressMode then
      { old with mode := Instruction.immediateMode, operand := 0 }
    else { old with mode := Instruction.addressMode, operand := Register.dat.offset }

end Edit

/-- A flipped direction is a bit of the byte. -/
theorem clampByte_flipBits (mask : UInt8) (d : Direction) :
    clampByte (Bench.flipBits mask d.bit.toNat) = mask ^^^ d.bit := by
  change clampByte ((mask.toNat ^^^ d.bit.toNat : Nat) : Int) = _
  rw [← UInt8.toNat_xor, clampByte_toNat]

theorem clampByte_eq_ofNat (v : Int) : clampByte v = UInt8.ofNat (max 0 (min v 255)).toNat := by
  have value := toNat_clampByte v
  rw [← value, Int.toNat_natCast, UInt8.ofNat_toNat]

/-! The rule. -/

namespace Bench

/-- What an edit leaves that has changed memory at these addresses. -/
structure Edited (b : Bench) (place : Int → Prop) (after : Bench) : Prop where
  machine : b.machine.ChangedOnly place after.machine
  edits : after.editor.edits = b.editor.edits + 1
  pointer : after.editor.pointer = b.editor.pointer
  mode : after.editor.mode = b.editor.mode
  walker : after.walker = b.walker
  history : after.history = b.history.push b.machine.memory

/-- An edit by the rule: it changes memory at these addresses and is done then, or it is refused, because
the editor is closed, the cursor is off the grid, it is not allowed, or it was done before. -/
structure ByRule (b : Bench) (place : Int → Prop) (allowed : Prop) (done : Bench → Prop)
    (r : Bool × Bench) : Prop where
  edited : r.1 = true → b.Edited place r.2 ∧ done r.2
  kept : r.1 = false → b.Unchanged r.2
  refused : r.1 = false ↔
    b.editor.mode = .off ∨ b.machine.grid.contains b.editor.pointer = false ∨ ¬allowed ∨ done b

variable {b : Bench} {place : Int → Prop} {allowed : Prop} {done : Bench → Prop}

/-- What the rule forbids is refused. -/
theorem byRule_refused (forbidden : ¬allowed) : b.ByRule place allowed done (false, b) where
  edited := fun answer => by cases answer
  kept := fun _ => .refl b
  refused := iff_of_true rfl (.inr (.inr (.inl forbidden)))

theorem byRule_edit {change : Machine → Machine} (may : allowed)
    (changed : b.machine.ChangedOnly place (change b.machine))
    (made : b.machine.grid.contains b.editor.pointer = true → ∀ after : Bench,
      after.machine = change b.machine → after.editor.pointer = b.editor.pointer → done after)
    (same : b.machine.grid.contains b.editor.pointer = true →
      ((change b.machine).memory = b.machine.memory ↔ done b)) :
    b.ByRule place allowed done (b.edit change) := by
  simp only [edit]
  split
  · rename_i accepted
    simp only [Bool.and_eq_true, bne_iff_ne, editable_iff, Editor.active_iff] at accepted
    obtain ⟨⟨opened, on⟩, changes⟩ := accepted
    have notRefused : ¬(b.editor.mode = .off ∨ b.machine.grid.contains b.editor.pointer = false ∨
        ¬allowed ∨ done b) := by
      rintro (closed | off | forbidden | before)
      · exact opened closed
      · rw [on] at off
        cases off
      · exact forbidden may
      · exact changes ((same on).2 before)
    exact
      { edited := fun _ => ⟨⟨changed, rfl, rfl, rfl, rfl, rfl⟩, made on _ rfl rfl⟩
        kept := fun answer => by cases answer
        refused := iff_of_false (fun answer => by cases answer) notRefused }
  · rename_i rejected
    simp only [Bool.and_eq_true, bne_iff_ne, editable_iff, Editor.active_iff, not_and, not_not] at rejected
    refine
      { edited := fun answer => by cases answer
        kept := fun _ => .refl b
        refused := iff_of_true rfl ?_ }
    by_cases closed : b.editor.mode = .off
    · exact .inl closed
    · cases on : b.machine.grid.contains b.editor.pointer with
      | false => exact .inr (.inl rfl)
      | true => exact .inr (.inr (.inr ((same on).1 (rejected ⟨closed, on⟩))))

/-- A change of the record under the cursor. -/
theorem byRule_record {change : Machine → Machine} {record : Instruction} (may : allowed)
    (changed : b.machine.ChangedOnly (Machine.InRecord b.editor.pointer) (change b.machine))
    (made : b.machine.grid.contains b.editor.pointer = true →
      (change b.machine).instruction b.editor.pointer = record) :
    b.ByRule (Machine.InRecord b.editor.pointer) allowed (fun after => after.current = record)
      (b.edit change) := by
  apply byRule_edit may changed
  · intro on after machine pointer
    rw [current, machine, pointer]
    exact made on
  · intro on
    rw [Machine.memory_eq_iff_of_inRecord changed on, made on, current]
    exact eq_comm

/-- Where the rule allows a field to be stored, the record with that field is the new one. -/
theorem byRule_editField (sized : b.machine.Sized) (may : allowed) {field value : Int} (low : 0 ≤ field)
    (high : field < Instruction.width) {record : Instruction}
    (becomes : b.current.put field (clampByte value) = record) :
    b.ByRule (Machine.InRecord b.editor.pointer) allowed (fun after => after.current = record)
      (b.editField field value) := by
  apply byRule_record may (Machine.changedOnly_store _ _ _ _)
  intro on
  exact (Machine.instruction_store sized ⟨on, low, high⟩ value).trans becomes

/-- The rule for the edits of a record. -/
def Governs (b : Bench) (e : Edit) : Prop :=
  b.ByRule (Machine.InRecord b.editor.pointer) (e.Allowed b.current)
    (fun after => after.current = e.record b.editor.yanked b.current) (e.apply b)

theorem governs_toggleDirection (sized : b.machine.Sized) (d : Direction) :
    b.Governs (.toggleDirection d) := by
  unfold Governs
  simp only [Edit.apply, toggleDirection]
  split
  · rename_i nil
    exact byRule_refused fun may => may.1 (Opcode.ofByte?_eq_some.1 nil)
  · rename_i halt
    exact byRule_refused fun may => may.2 (Opcode.ofByte?_eq_some.1 halt)
  · rename_i notNil notHalt
    have may : (Edit.toggleDirection d).Allowed b.current :=
      ⟨fun same => notNil (Opcode.ofByte?_eq_some.2 same),
        fun same => notHalt (Opcode.ofByte?_eq_some.2 same)⟩
    apply byRule_editField sized may (by decide) (by decide)
    rw [clampByte_flipBits]
    rfl

theorem byRule_setInstruction (sized : b.machine.Sized) (record : Instruction) :
    b.ByRule (Machine.InRecord b.editor.pointer) True (fun after => after.current = record)
      (b.edit fun m => m.setInstruction b.editor.pointer record) := by
  apply byRule_record trivial (Machine.changedOnly_setInstruction _ _ _)
  intro on
  exact Machine.instruction_setInstruction sized on record

/-- The edit of a cut takes place in an editor that differs in the yanked record only. -/
theorem governs_cut (sized : b.machine.Sized) : b.Governs .cut := by
  unfold Governs
  simp only [Edit.apply, cut, yank]
  cases editable : b.editable with
  | false =>
    have rejected : (b.edit fun m => m.setInstruction b.editor.pointer .blank) = (false, b) := by
      simp [edit, editable]
    have rule := byRule_setInstruction sized .blank
    rw [rejected] at rule
    exact rule
  | true =>
    let yanking : Bench := { b with editor := { b.editor with yanked := b.current } }
    have rule := byRule_setInstruction (b := yanking) sized .blank
    exact
      { edited := fun answer => by
          obtain ⟨edited, done⟩ := rule.edited answer
          exact ⟨{ edited with }, done⟩
        kept := fun answer => by
          have kept := rule.kept answer
          exact { kept with }
        refused := rule.refused }

theorem governs_paste (sized : b.machine.Sized) : b.Governs .paste :=
  byRule_setInstruction sized b.editor.yanked

theorem governs_toggleOnOff (sized : b.machine.Sized) : b.Governs .toggleOnOff := by
  change b.ByRule _ _ _ (b.editField 0 _)
  apply byRule_editField sized trivial (by decide) (by decide)
  rw [clampByte_toNat]
  simp only [Instruction.put, Edit.record, apply_ite Opcode.code]
  rfl

theorem governs_cycleOpcode (sized : b.machine.Sized) (step : Int) : b.Governs (.cycleOpcode step) := by
  change b.ByRule _ _ _ (b.editField 0 _)
  apply byRule_editField sized trivial (by decide) (by decide)
  have values : opcodeValues = (Opcode.all.map Opcode.code).map fun v => (v.toNat : Int) := rfl
  rw [values, cycleValue_eq_successor (by decide), Option.getD_some, clampByte_toNat]
  rfl

/-- An edit of the operand that asks for one of the modes. -/
theorem byRule_editOperand (sized : b.machine.Sized) {mode : UInt8} {value : Int} {record : Instruction}
    (becomes : b.current.put 1 (clampByte value) = record) :
    b.ByRule (Machine.InRecord b.editor.pointer) (b.current.TakesOperand ∧ b.current.mode = mode)
      (fun after => after.current = record)
      (if takesOperand b.current.op? && b.current.mode == mode then b.editField 1 value
        else (false, b)) := by
  split
  · rename_i may
    rw [Bool.and_eq_true, takesOperand_iff, beq_iff_eq] at may
    exact byRule_editField sized may (by decide) (by decide) becomes
  · rename_i forbidden
    rw [Bool.and_eq_true, takesOperand_iff, beq_iff_eq] at forbidden
    exact byRule_refused forbidden

theorem governs_cycleOperand (sized : b.machine.Sized) (step : Int) : b.Governs (.cycleOperand step) := by
  apply byRule_editOperand sized
  have values : targetValues = (operandTargets.map Register.offset).map fun v => (v.toNat : Int) := rfl
  rw [values, cycleValue_eq_successor (by decide), Option.getD_some, clampByte_toNat]
  rfl

theorem governs_adjustOperand (sized : b.machine.Sized) (delta : Int) :
    b.Governs (.adjustOperand delta) := by
  apply byRule_editOperand sized
  rw [clampByte_eq_ofNat]
  rfl

/-- Two bytes are stored here, one after the other. -/
theorem governs_toggleMode (sized : b.machine.Sized) : b.Governs .toggleMode := by
  unfold Governs
  simp only [Edit.apply, toggleMode]
  split
  · rename_i may
    refine byRule_record (takesOperand_iff.1 may)
      ((Machine.changedOnly_store _ _ _ _).trans (Machine.changedOnly_store _ _ _ _)) fun on => ?_
    have mode : b.machine.OnRecord b.editor.pointer 2 := ⟨on, by decide, by decide⟩
    have operand : b.machine.OnRecord b.editor.pointer 1 := ⟨on, by decide, by decide⟩
    rw [Machine.instruction_store (sized.store _ _ _) (operand.store _ _),
      Machine.instruction_store sized mode, clampByte_toNat, clampByte_toNat]
    change (b.current.put 2 _).put 1 _ = _
    by_cases address : b.current.mode = Instruction.addressMode
    · simp [Instruction.put, Edit.record, address]
    · simp [Instruction.put, Edit.record, address]
  · rename_i forbidden
    rw [takesOperand_iff] at forbidden
    exact byRule_refused forbidden

/-- Every edit goes by its rule. -/
theorem governs (sized : b.machine.Sized) (e : Edit) : b.Governs e := by
  cases e with
  | toggleDirection d => exact governs_toggleDirection sized d
  | cut => exact governs_cut sized
  | paste => exact governs_paste sized
  | toggleOnOff => exact governs_toggleOnOff sized
  | cycleOpcode step => exact governs_cycleOpcode sized step
  | cycleOperand step => exact governs_cycleOperand sized step
  | adjustOperand delta => exact governs_adjustOperand sized delta
  | toggleMode => exact governs_toggleMode sized

theorem byRule_bringDebugger (sized : b.machine.Sized) :
    b.ByRule (· = Register.ip.address) True (fun after => after.machine.ip = after.editor.pointer)
      b.bringDebugger := by
  have changed :
      b.machine.ChangedOnly (· = Register.ip.address) (b.machine.set .ip b.editor.pointer) := by
    apply Machine.changedOnly_setReg
    rfl
  have arrives : b.machine.grid.contains b.editor.pointer = true →
      (b.machine.set .ip b.editor.pointer).ip = b.editor.pointer := by
    intro on
    rw [Machine.ip, Machine.get_set_same sized, Machine.toNat_clampByte_index on]
  apply byRule_edit trivial changed
  · intro on after machine pointer
    rw [machine, pointer]
    exact arrives on
  · intro on
    rw [Machine.memory_eq_iff_of_ip changed, arrives on]
    exact eq_comm

/-- Every edit goes by the rule. An edit of a record changes none but its four bytes, and the record under
the cursor becomes the specified one. When the debugger is brought none but the instruction pointer changes,
which becomes the cursor. Counters and outlet stay as they are. -/
theorem edits_go_by_rule (b : Bench) (sized : b.machine.Sized) :
    (∀ e : Edit, b.ByRule (Machine.InRecord b.editor.pointer) (e.Allowed b.current)
      (fun after => after.current = e.record b.editor.yanked b.current) (e.apply b)) ∧
    b.ByRule (· = Register.ip.address) True (fun after => after.machine.ip = after.editor.pointer)
      b.bringDebugger :=
  ⟨governs sized, byRule_bringDebugger sized⟩

/-- On a cell that does nothing a direction can be toggled; its operand cannot be changed, and the debugger
is there. -/
theorem edits_of_firstCell :
    let b := (Session.pairLoaded.dispatch .editToggle).2.bench
    let turned := (Edit.toggleDirection .right).apply b
    b.machine.Sized ∧ b.current = ⟨1, 5, 0, 0⟩ ∧ turned.1 = true ∧ turned.2.current = ⟨1, 5, 0, 1⟩ ∧
      turned.2.editor.edits = 1 ∧ ((Edit.adjustOperand 3).apply b).1 = false ∧
      b.bringDebugger.1 = false := by
  intro b turned
  have sized : b.machine.Sized := rfl
  have before : b.current = ⟨1, 5, 0, 0⟩ := by decide
  obtain ⟨record, debugger⟩ := edits_go_by_rule b sized
  have answer : turned.1 = true := by decide
  obtain ⟨edited, done⟩ := (record (.toggleDirection .right)).edited answer
  refine ⟨sized, before, answer, ?_, edited.edits, ?_, ?_⟩
  · rw [done, before]
    decide
  · refine (record (.adjustOperand 3)).refused.2 (.inr (.inr (.inl fun may => may.1 ?_)))
    rw [before]
    decide
  · exact debugger.refused.2 (.inr (.inr (.inr (by decide))))

end Bench
end CellWalk
