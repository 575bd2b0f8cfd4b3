import CellWalk.Proofs.Assembly.Assembling
import CellWalk.Proofs.Assembly.RawLines
import CellWalk.Proofs.Cycling
import CellWalk.Proofs.Restarts

/-!
# Well-formed programs

A record is well-formed if its opcode names an instruction, its mode is one of the two and its mask has
no bits but the four. Execution can store anything anywhere, but editing cannot make a well-formed
program ill-formed, wherever the cursor is, and it does not reach below the program but for the
instruction pointer (`edits_keep_programs_well_formed`). What has to be well-formed all along are not
only the records of the grid: an undo brings back any image of the history, a restart the opening, and a
paste the yanked record.
-/

namespace CellWalk
set_option autoImplicit false

namespace Instruction

structure WellFormed (r : Instruction) : Prop where
  opcode : r.opcode ≤ 12
  mode : r.mode = 0 ∨ r.mode = 1
  dirs : r.dirs ≤ 15

instance (r : Instruction) : Decidable r.WellFormed :=
  decidable_of_iff (r.opcode ≤ 12 ∧ (r.mode = 0 ∨ r.mode = 1) ∧ r.dirs ≤ 15)
    ⟨fun ⟨opcode, mode, dirs⟩ => ⟨opcode, mode, dirs⟩, fun h => ⟨h.opcode, h.mode, h.dirs⟩⟩

/-- The greatest byte that a field of a well-formed record holds. -/
def greatest (field : Int) : UInt8 :=
  if field = 0 then 12 else if field = 2 then 1 else if field = 3 then 15 else 255

theorem le_greatest_operand (v : UInt8) : v ≤ greatest 1 :=
  UInt8.le_iff_toNat_le.2 (Nat.le_of_lt_succ v.toNat_lt)

theorem wellFormed_blank : WellFormed .blank := ⟨by decide, .inl rfl, by decide⟩

theorem mode_iff {mode : UInt8} : mode = 0 ∨ mode = 1 ↔ mode ≤ 1 := by
  rw [UInt8.le_iff_toNat_le, ← UInt8.toNat_inj, ← UInt8.toNat_inj]
  simp
  omega

/-- What is well-formed has a mnemonic. -/
theorem WellFormed.isPlain {r : Instruction} (wellFormed : r.WellFormed) :
    Assembly.isPlain r = true := by
  have known : ∀ n < 13, (Opcode.ofByte? (UInt8.ofNat n)).isSome = true := by decide
  have opcode : r.opcode.toNat < 13 := Nat.lt_succ_of_le (UInt8.le_iff_toNat_le.1 wellFormed.opcode)
  have named := known _ opcode
  rw [UInt8.ofNat_toNat] at named
  have mode : r.mode = immediateMode ∨ r.mode = addressMode := wellFormed.mode
  simp [Assembly.isPlain, op?, named, mode, wellFormed.dirs]

end Instruction

/-! Images with well-formed records. -/

/-- No field of a record on the grid holds more than it may. -/
def Image.Tidy (g : Grid) (image : Image) : Prop :=
  ∀ index field : Int, g.contains index = true → 0 ≤ field → field < Instruction.width →
    image.read (Machine.fieldAddress index field) ≤ Instruction.greatest field

/-- A write changes its own address, if memory has it, and no other. -/
theorem Image.read_write_cases (m : Image) (a b v : Int) :
    (m.write a v).read b = m.read b ∨ (a = b ∧ (m.write a v).read b = clampByte v) := by
  by_cases here : a = b
  · subst here
    by_cases inside : 0 ≤ a ∧ a < m.length
    · exact .inr ⟨rfl, Image.read_write_same inside.1 inside.2 v⟩
    · have dropped : m.write a v = m := by
        unfold write
        split
        · rfl
        · exact List.set_eq_of_length_le (by omega)
      rw [dropped]
      exact .inl rfl
  · exact .inl (Image.read_write_of_ne m here v)

/-- A byte that is not too large for its field, should it lie in one, keeps the image tidy. -/
theorem Image.Tidy.write {g : Grid} {image : Image} (tidy : image.Tidy g) {a v : Int}
    (bounded : ∀ index field : Int, g.contains index = true → 0 ≤ field →
      field < Instruction.width → Machine.fieldAddress index field = a →
        clampByte v ≤ Instruction.greatest field) :
    (image.write a v).Tidy g := by
  intro index field on low high
  rcases image.read_write_cases a (Machine.fieldAddress index field) v with same | ⟨here, written⟩
  · rw [same]
    exact tidy index field on low high
  · rw [written]
    exact bounded index field on low high here.symm

namespace Machine

variable {m : Machine} {index field v : Int} {r : Instruction}

/-- The records of the machine hold no more than they may. -/
def Tidy (m : Machine) : Prop := m.memory.Tidy m.grid

/-- That is, all records are well-formed; off the grid they are blank. -/
theorem tidy_iff : m.Tidy ↔ ∀ index, (m.instruction index).WellFormed := by
  have bounds : ∀ index field : Int, m.grid.contains index = true → 0 ≤ field →
      field < Instruction.width → m.fetch index field = m.memory.read (fieldAddress index field) :=
    fun _ _ on low high => fetch_of_contains on low high
  constructor
  · intro tidy index
    by_cases on : m.grid.contains index = true
    · have field := fun field low high => (bounds index field on low high) ▸ tidy index field on low high
      exact ⟨field 0 (by decide) (by decide),
        Instruction.mode_iff.2 (field 2 (by decide) (by decide)), field 3 (by decide) (by decide)⟩
    · rw [instruction_of_not_contains (Bool.eq_false_iff.2 on)]
      exact Instruction.wellFormed_blank
  · intro wellFormed index field on low high
    obtain ⟨opcode, mode, dirs⟩ := wellFormed index
    rw [← bounds index field on low high]
    unfold Instruction.width at high
    obtain rfl | rfl | rfl | rfl : field = 0 ∨ field = 1 ∨ field = 2 ∨ field = 3 := by omega
    · exact opcode
    · exact Instruction.le_greatest_operand _
    · exact Instruction.mode_iff.1 mode
    · exact dirs

/-- The cells of the grid decide for all indices, as off the grid a record is blank. -/
theorem wellFormed_of_cells (each : ∀ n < m.grid.cells, (m.instruction n).WellFormed) (index : Int) :
    (m.instruction index).WellFormed := by
  by_cases on : m.grid.contains index = true
  · have bounds := Grid.contains_iff.1 on
    rw [← Int.toNat_of_nonneg bounds.1]
    exact each index.toNat (by omega)
  · rw [instruction_of_not_contains (Bool.eq_false_iff.2 on)]
    exact Instruction.wellFormed_blank

/-- A value in the bounds of its field may be stored in any cell, on the grid or off it. -/
theorem Tidy.store (tidy : m.Tidy) (bounded : clampByte v ≤ Instruction.greatest field) :
    (m.store index field v).Tidy := by
  unfold Machine.store
  split
  · rename_i inside
    simp only [Bool.and_eq_true, decide_eq_true_eq] at inside
    refine Image.Tidy.write tidy fun index' field' _ low high same => ?_
    have sameField : field' = field := by
      unfold fieldAddress Instruction.width at same
      unfold Instruction.width at high inside
      omega
    rwa [sameField]
  · exact tidy

/-- A well-formed record may be put anywhere. -/
theorem Tidy.setInstruction (tidy : m.Tidy) (wellFormed : r.WellFormed) :
    (m.setInstruction index r).Tidy := by
  have mode : r.mode ≤ Instruction.greatest 2 := Instruction.mode_iff.1 wellFormed.mode
  exact (((tidy.store (by rw [clampByte_toNat]; exact wellFormed.opcode)).store
    (by rw [clampByte_toNat]; exact Instruction.le_greatest_operand _)).store
    (by rwa [clampByte_toNat])).store (by rw [clampByte_toNat]; exact wellFormed.dirs)

/-- The instruction pointer is below the program. -/
theorem Tidy.set_ip (tidy : m.Tidy) : (m.set .ip v).Tidy := by
  change Image.Tidy m.grid (m.memory.write Register.ip.address v)
  refine Image.Tidy.write tidy fun index field on low _ same => ?_
  have inside := Grid.contains_iff.1 on
  have below := address_lt .ip
  unfold fieldAddress Instruction.width at same
  omega

end Machine

/-! Edits. -/

namespace Bench

/-- The records of the grid and the yanked one are well-formed. -/
structure Orderly (b : Bench) : Prop where
  memory : b.machine.Tidy
  yanked : b.editor.yanked.WellFormed

variable {b : Bench}

/-- The record under the cursor is well-formed, wherever the cursor is. -/
theorem Orderly.current (h : b.Orderly) : b.current.WellFormed :=
  Machine.tidy_iff.1 h.memory b.editor.pointer

/-- An edit is in order if what it would make of the machine is tidy. -/
theorem Orderly.edit (h : b.Orderly) {change : Machine → Machine} (tidy : (change b.machine).Tidy) :
    (b.edit change).2.Orderly := by
  simp only [Bench.edit]
  split
  · exact ⟨tidy, h.yanked⟩
  · exact h

/-- A value that fits its field may be stored. -/
theorem Orderly.editField (h : b.Orderly) {field value : Int}
    (bounded : clampByte value ≤ Instruction.greatest field) : (b.editField field value).2.Orderly :=
  h.edit (h.memory.store bounded)

/-- An operand may be anything. -/
theorem Orderly.editOperand (h : b.Orderly) (value : Int) : (b.editField 1 value).2.Orderly :=
  h.editField (Instruction.le_greatest_operand _)

/-- A direction's bit flipped in a mask leaves a mask. -/
theorem flipBits_le {dirs : UInt8} (low : dirs ≤ 15) (d : Direction) :
    clampByte (flipBits dirs d.bit.toNat) ≤ 15 := by
  have each : ∀ n < 16, clampByte (flipBits (UInt8.ofNat n) d.bit.toNat) ≤ 15 := by
    cases d <;> decide
  have flipped := each dirs.toNat (Nat.lt_succ_of_le (UInt8.le_iff_toNat_le.1 low))
  rwa [UInt8.ofNat_toNat] at flipped

/-- A direction is one of the four bits, so flipping it gives no other. -/
theorem Orderly.toggleDirection (h : b.Orderly) (d : Direction) :
    (b.toggleDirection d.bit.toNat).2.Orderly := by
  simp only [Bench.toggleDirection]
  split
  · exact h
  · exact h
  · exact h.editField (flipBits_le h.current.dirs d)

theorem Orderly.yank (h : b.Orderly) : b.yank.2.Orderly := by
  unfold Bench.yank
  split
  · exact ⟨h.memory, h.current⟩
  · exact h

/-- The yanked record is well-formed, and so is the blank one in its place. -/
theorem Orderly.cut (h : b.Orderly) : b.cut.2.Orderly := by
  have yanked := h.yank
  unfold Bench.cut
  split
  · rename_i e
    rwa [e] at yanked
  · rename_i e
    rw [e] at yanked
    exact yanked.edit (yanked.memory.setInstruction Instruction.wellFormed_blank)

theorem Orderly.paste (h : b.Orderly) : b.paste.2.Orderly :=
  h.edit (h.memory.setInstruction h.yanked)

theorem Orderly.toggleOnOff (h : b.Orderly) : b.toggleOnOff.2.Orderly := by
  apply h.editField
  split <;> decide

/-- The opcodes that are stepped through are those that there are. -/
theorem Orderly.cycleOpcode (h : b.Orderly) (step : Int) : (b.cycleOpcode step).2.Orderly := by
  have listed : ∀ v ∈ opcodeValues, clampByte v ≤ 12 := by decide
  apply h.editField
  cases cycled : cycleValue opcodeValues b.current.opcode.toNat step with
  | none => decide
  | some v => exact listed v (mem_of_cycleValue cycled)

theorem Orderly.cycleOperand (h : b.Orderly) (step : Int) : (b.cycleOperand step).2.Orderly := by
  simp only [Bench.cycleOperand]
  split
  · exact h.editOperand _
  · exact h

theorem Orderly.adjustOperand (h : b.Orderly) (delta : Int) : (b.adjustOperand delta).2.Orderly := by
  simp only [Bench.adjustOperand]
  split
  · exact h.editOperand _
  · exact h

/-- Both modes are modes, and their operands fit. -/
theorem Orderly.toggleMode (h : b.Orderly) : b.toggleMode.2.Orderly := by
  simp only [Bench.toggleMode]
  split
  · apply h.edit
    split
    · exact (h.memory.store (by decide)).store (Instruction.le_greatest_operand _)
    · exact (h.memory.store (by decide)).store (Instruction.le_greatest_operand _)
  · exact h

theorem Orderly.bringDebugger (h : b.Orderly) : b.bringDebugger.2.Orderly :=
  h.edit h.memory.set_ip

/-! The editor is handled. -/

theorem Orderly.toggle (h : b.Orderly) : b.toggle.Orderly := by
  unfold Bench.toggle
  split
  · exact ⟨h.memory, Instruction.wellFormed_blank⟩
  · exact ⟨h.memory, h.yanked⟩

theorem Orderly.toggleCell (h : b.Orderly) : b.toggleCell.Orderly := by
  unfold Bench.toggleCell
  split <;> exact ⟨h.memory, h.yanked⟩

theorem Orderly.moveCursor (h : b.Orderly) (code : Int) : (b.moveCursor code).2.Orderly := by
  unfold Bench.moveCursor
  split
  · split <;> exact ⟨h.memory, h.yanked⟩
  · exact h

end Bench

/-! Sessions in which nobody walks. -/

namespace Session

/-- What edits may have made of an image that was loaded. -/
structure EditOf (g : Grid) (loaded image : Image) : Prop where
  length : image.length = loaded.length
  tidy : image.Tidy g
  registers : ∀ a : Int, a < programBase → a ≠ Register.ip.address → image.read a = loaded.read a

/-- Wherever the player can go back to, only edits have been made since the load. -/
structure EditedOnly (loaded : Image) (s : Session) : Prop where
  sized : loaded.length = Machine.sizeFor s.machine.grid
  memory : EditOf s.machine.grid loaded s.machine.memory
  opening : EditOf s.machine.grid loaded s.opening
  entries : ∀ image ∈ s.bench.history.entries, EditOf s.machine.grid loaded image
  yanked : s.bench.editor.yanked.WellFormed

/-- The command neither walks nor goes on to another level. -/
def IsEditing (c : Command) : Prop := (∀ d, c ≠ .move d) ∧ c ≠ .nextLevel

variable {loaded : Image} {s : Session} {c : Command}

theorem EditedOnly.orderly (h : s.EditedOnly loaded) : s.bench.Orderly := ⟨h.memory.tidy, h.yanked⟩

/-- An edited image has the size of memory, so an undo and a restart can load it. -/
theorem EditedOnly.fits (h : s.EditedOnly loaded) {image : Image}
    (edited : EditOf s.machine.grid loaded image) : image.length = s.machine.memory.length :=
  edited.length.trans h.memory.length.symm

/-- What edits keeps the bench in order, by cases of the command. -/
theorem orderly_perform (orderly : s.bench.Orderly) (editing : IsEditing c)
    (stays : (Action.command c).replaces = false) : (s.perform c).2.bench.Orderly := by
  cases c with
  | move d => exact absurd rfl (editing.1 d)
  | undo | restart | nextLevel => cases stays
  | editToggle => exact orderly.toggle
  | cellToggle =>
    simp only [perform]
    split
    · exact orderly.toggleCell
    · exact orderly
  | cursor d => exact orderly.moveCursor _
  | mask d => exact orderly.toggleDirection d
  | yank => exact orderly.yank
  | cut => exact orderly.cut
  | paste => exact orderly.paste
  | onOff => exact orderly.toggleOnOff
  | opcodeNext | opcodePrev => exact orderly.cycleOpcode _
  | operandNext | operandPrev => exact orderly.cycleOperand _
  | operandInc | operandDec | operandInc10 | operandDec10 => exact orderly.adjustOperand _
  | modeToggle => exact orderly.toggleMode
  | debuggerHere => exact orderly.bringDebugger
  | exportProgram => exact orderly

/-- The command changes records in place, or only the way in which the next one is given. -/
theorem EditedOnly.edit (h : s.EditedOnly loaded) (editing : IsEditing c)
    (stays : (Action.command c).replaces = false) : (s.act (.command c)).2.EditedOnly loaded := by
  have walks : (Action.command c).walks = false := by
    cases c with
    | move d => exact absurd rfl (editing.1 d)
    | _ => rfl
  have notUndo : Action.command c ≠ .command .undo := by
    rintro same
    rw [same] at stays
    cases stays
  have notNext : Action.command c ≠ .command .nextLevel := by
    rintro same
    rw [same] at stays
    cases stays
  have retouch := (rests_act (s := s) (fun walk => by rw [walks] at walk; cases walk) stays).machine
  have orderly := orderly_perform (s := s.note (.command c.name)) h.orderly editing stays
  obtain ⟨answer, s', acted, kept⟩ := kept_act (h.memory.length.trans h.sized)
    (h.opening.length.trans h.sized) notUndo notNext
  have after : (s.act (.command c)).2 = s' := congrArg Prod.snd acted
  change (s.act (.command c)).2.bench.Orderly at orderly
  rw [after] at orderly retouch ⊢
  have grid : s'.machine.grid = s.machine.grid := retouch.grid
  have edited : EditOf s.machine.grid loaded s'.machine.memory := by
    refine ⟨retouch.length.trans h.memory.length, grid ▸ orderly.memory, fun a low other => ?_⟩
    exact (retouch.registers a low other).trans (h.memory.registers a low other)
  refine ⟨grid ▸ h.sized, grid ▸ edited, ?_, ?_, orderly.yanked⟩
  · rw [grid, kept.opening]
    exact h.opening
  · intro image member
    rw [grid]
    rcases kept.recorded with same | changed
    · rw [same.history] at member
      exact h.entries image member
    · rw [changed.history] at member
      rcases History.mem_push member with rfl | old
      · exact h.memory
      · exact h.entries image old

/-- An undo brings back an image that was edited only. -/
theorem EditedOnly.undo (h : s.EditedOnly loaded) :
    (s.act (.command .undo)).2.EditedOnly loaded := by
  have fits : ∀ image ∈ s.bench.history.entries, image.length = s.machine.memory.length :=
    fun image member => h.fits (h.entries image member)
  rcases undo_cases fits with ⟨-, refused⟩ | ⟨image, older, entries, back⟩
  · rw [refused]
    exact ⟨h.sized, h.memory, h.opening, h.entries, h.yanked⟩
  · have old : ∀ x ∈ image :: older, EditOf s.machine.grid loaded x := entries ▸ h.entries
    rw [back]
    exact ⟨h.sized, old image List.mem_cons_self, h.opening,
      fun x member => old x (List.mem_cons_of_mem image member), h.yanked⟩

/-- A restart brings back the opening. -/
theorem EditedOnly.restart (h : s.EditedOnly loaded) :
    (s.act (.command .restart)).2.EditedOnly loaded := by
  rcases restart_cases (h.fits h.opening) with ⟨-, refused⟩ | ⟨-, back⟩
  · rw [refused]
    exact ⟨h.sized, h.memory, h.opening, h.entries, h.yanked⟩
  · rw [back]
    refine ⟨h.sized, h.opening, h.opening, fun image member => ?_, h.yanked⟩
    rcases History.mem_push member with rfl | old
    · exact h.memory
    · exact h.entries image old

/-- One editing command leaves a session that was edited only. -/
theorem EditedOnly.act (h : s.EditedOnly loaded) (editing : IsEditing c) :
    (s.act (.command c)).2.EditedOnly loaded := by
  by_cases undoing : c = .undo
  · rw [undoing]
    exact h.undo
  · by_cases restarting : c = .restart
    · rw [restarting]
      exact h.restart
    · apply h.edit editing
      cases c with
      | undo => exact absurd rfl undoing
      | restart => exact absurd rfl restarting
      | nextLevel => exact absurd rfl editing.2
      | _ => rfl

/-- So do any number of them. -/
theorem EditedOnly.after (h : s.EditedOnly loaded) {cs : List Command}
    (editing : ∀ c ∈ cs, IsEditing c) : (s.after (cs.map .command)).EditedOnly loaded := by
  induction cs generalizing s with
  | nil => exact h
  | cons c cs ih =>
    have next := h.act (editing c List.mem_cons_self)
    exact ih next fun d member => editing d (List.mem_cons_of_mem c member)

/-- A session that has just been loaded is one, with what was loaded. -/
theorem editedOnly_of_loaded {before start : Session} (sized : before.machine.Sized)
    (load : before.Loaded start) (tidy : start.machine.Tidy) :
    start.EditedOnly start.machine.memory := by
  have own : EditOf start.machine.grid start.machine.memory start.machine.memory :=
    ⟨rfl, tidy, fun _ _ _ => rfl⟩
  have opening : EditOf start.machine.grid start.machine.memory start.opening := by
    rw [opening_of_loaded load]
    exact own
  rcases load with ⟨level, loaded⟩ | ⟨seed, loaded⟩
  · by_cases fits : level.program.length = before.machine.memory.length
    · rw [loadLevel_begun fits] at loaded
      cases loaded
      exact
        { sized := fits.trans sized
          memory := own
          opening := opening
          entries := fun _ none => nomatch none
          yanked := Instruction.wellFormed_blank }
    · rw [loadLevel_unfit fits] at loaded
      cases loaded
  · rw [loadRandom_begun] at loaded
    cases loaded
    exact
      { sized := length_randomMemory _ _
        memory := own
        opening := opening
        entries := fun _ none => nomatch none
        yanked := Instruction.wellFormed_blank }

/-- A listing of well-formed records tells each of them by its mnemonic. -/
theorem listing_of_tidy {m : Machine} (sized : m.Sized) (tidy : m.Tidy) {h : Assembly.Heading}
    {heading : List Text} (headed : Assembly.headingLines h = .ok heading)
    (oneLine : ∀ name ∈ h.id, name.Unbroken) :
    ∃ text, Assembly.disassemble m.memory m.grid.cols m.grid.rows h = .ok text ∧
      ∀ line ∈ text.splitLines, ¬Assembly.IsRaw line := by
  refine Assembly.listing_without_raw_lines sized headed oneLine fun index inside record found => ?_
  have room : Assembly.recordAddress index + Instruction.width ≤ m.memory.length := by
    have cells : (index + 1) * Instruction.width ≤ m.grid.cols * m.grid.rows * Instruction.width :=
      Nat.mul_le_mul_right _ inside
    rw [sized, Machine.sizeFor, Assembly.recordAddress, Grid.cells, Int.toNat_natCast]
    rw [Nat.succ_mul] at cells
    omega
  obtain ⟨_, same, bytes⟩ := Assembly.ofBytes?_drop room
  obtain rfl := Option.some.inj (same.symm.trans found)
  have here : m.instruction index = _ :=
    Machine.instruction_of_bytes inside fun i field => (bytes i field).symm
  rw [← here]
  exact (Machine.tidy_iff.1 tidy index).isPlain

/-- A session has loaded an image with well-formed records only, and then come commands of any kind but
moves and the step to the next level. The records are well-formed afterwards, so no line of a listing
gives raw bytes, and below the program only the instruction pointer may have another value than the
loaded one. The id that a listing tells is to be one line, as one of more lines could itself contain
anything. -/
theorem edits_keep_programs_well_formed {before start : Session} (sized : before.machine.Sized)
    (load : before.Loaded start) (wellFormed : ∀ index, (start.machine.instruction index).WellFormed)
    {cs : List Command} (editing : ∀ c ∈ cs, (∀ d, c ≠ .move d) ∧ c ≠ .nextLevel) :
    let s := start.after (cs.map .command)
    (∀ index, (s.machine.instruction index).WellFormed) ∧
      (∀ (h : Assembly.Heading) (heading : List Text), Assembly.headingLines h = .ok heading →
        (∀ name ∈ h.id, name.Unbroken) →
        ∃ text, Assembly.disassemble s.machine.memory s.machine.grid.cols s.machine.grid.rows h =
            .ok text ∧ ∀ line ∈ text.splitLines, ¬Assembly.IsRaw line) ∧
      ∀ address : Int, address < 24 → address ≠ 1 →
        s.machine.reg address = start.machine.reg address := by
  intro s
  have loaded := editedOnly_of_loaded sized load (Machine.tidy_iff.2 wellFormed)
  have edited : s.EditedOnly start.machine.memory := loaded.after editing
  refine ⟨Machine.tidy_iff.1 edited.memory.tidy, ?_, edited.memory.registers⟩
  intro h heading headed oneLine
  exact listing_of_tidy (edited.memory.length.trans edited.sized) edited.memory.tidy headed oneLine

/-- The player copies the full cell to the blank one, edits the copy, brings the debugger there and tries
to cut where no cell is. -/
def copyAndEdit : List Command :=
  [.editToggle, .yank, .cursor .right, .paste, .opcodeNext, .modeToggle, .mask .up, .operandNext, .undo,
    .debuggerHere, .cursor .right, .cut]

theorem well_formed_after_copyAndEdit :
    let s := pairLoaded.after (copyAndEdit.map .command)
    (s.machine.instruction 1 = ⟨2, 5, 1, 8⟩ ∧ s.machine.ip = 1 ∧ s.bench.editor.pointer = 2) ∧
      (s.machine.instruction 1).WellFormed ∧
      (∃ text, Assembly.disassemble s.machine.memory s.machine.grid.cols s.machine.grid.rows
          ⟨none, [], []⟩ = .ok text ∧ ∀ line ∈ text.splitLines, ¬Assembly.IsRaw line) ∧
      s.machine.reg 3 = pairLoaded.machine.reg 3 := by
  dsimp only
  have load : pairSession.Loaded pairLoaded := .inl ⟨pairLevel, Prod.ext rfl rfl⟩
  have wellFormed := Machine.wellFormed_of_cells (m := pairLoaded.machine) (by decide)
  have editing : ∀ c ∈ copyAndEdit, (∀ d, c ≠ .move d) ∧ c ≠ .nextLevel := by
    simp [copyAndEdit]
  have sized : pairSession.machine.Sized := rfl
  obtain ⟨records, listing, registers⟩ := edits_keep_programs_well_formed sized load wellFormed editing
  have told : Assembly.headingLines ⟨none, [], []⟩ = .ok [] := rfl
  have listed := listing _ _ told fun name given => by cases given
  exact ⟨⟨by decide +kernel, by decide +kernel, by decide +kernel⟩, records 1, listed,
    registers 3 (by decide) (by decide)⟩

end Session

end CellWalk
