import CellWalk.Proofs.WellFormed

/-!
# Random programs

Whatever the generator draws, a number is below its bound and a choice is one of the items. So each record
that is drawn is one of few (`Instruction.Drawn`), and a random program consists of such records above blank
registers and a blank stack. They are all well-formed, and to load them is to start over from them
(`random_programs_are_valid`).
-/

namespace CellWalk
set_option autoImplicit false

/-- What may stand in a cell of a random program. -/
structure Instruction.Drawn (r : Instruction) : Prop where
  opcode : r.opcode ≤ Opcode.halt.code
  operand : r.mode = addressMode ∧ (r.operand = Register.dat.offset ∨ r.operand = Register.stk.offset) ∨
    r.mode = immediateMode ∧ r.operand < 100
  dirs : r.dirs = 0 ∨ ∃ d : Direction, r.dirs = d.bit

theorem Instruction.Drawn.wellFormed {r : Instruction} (drawn : r.Drawn) : r.WellFormed where
  opcode := UInt8.le_trans drawn.opcode (by decide)
  mode := by
    rcases drawn.operand with ⟨address, -⟩ | ⟨immediate, -⟩
    · exact .inr address
    · exact .inl immediate
  dirs := by
    rcases drawn.dirs with none | ⟨d, one⟩
    · rw [none]
      decide
    · rw [one]
      cases d <;> decide

/-! Draws. -/

/-- A choice is one of the items. -/
theorem Twister.choose_mem {α : Type} [Inhabited α] (t : Twister) {items : List α}
    (nonempty : items ≠ []) : (t.choose items).1 ∈ items := by
  have inside := below_lt (List.length_pos_iff.2 nonempty) t
  simp only [choose]
  rw [List.getD_eq_getElem _ _ inside]
  exact List.getElem_mem inside

theorem Twister.choose_pair {α : Type} [Inhabited α] (t : Twister) (a b : α) :
    (t.choose [a, b]).1 = a ∨ (t.choose [a, b]).1 = b := by
  simpa using t.choose_mem (List.cons_ne_nil a [b])

namespace Machine

/-- A number below the bound of the opcodes is the code of one of them. -/
theorem drawn_opcode {n : Nat} (low : n < drawnOpcodes) {opcode : UInt8}
    (chosen : opcode ∈ [Opcode.nil.code, Opcode.nop.code, UInt8.ofNat n]) :
    opcode ≤ Opcode.halt.code := by
  simp only [List.mem_cons, List.not_mem_nil, or_false] at chosen
  rcases chosen with rfl | rfl | rfl
  · decide
  · decide
  · rw [UInt8.le_iff_toNat_le, UInt8.toNat_ofNat']
    exact Nat.le_trans (Nat.mod_le _ _) (Nat.le_of_lt_succ low)

theorem drawn_dirs {dirs : UInt8} (chosen : dirs ∈ [0, Direction.up.bit, Direction.left.bit,
      Direction.right.bit, Direction.down.bit]) : dirs = 0 ∨ ∃ d : Direction, dirs = d.bit := by
  simp only [List.mem_cons, List.not_mem_nil, or_false] at chosen
  rcases chosen with none | up | left | right | down
  · exact .inl none
  · exact .inr ⟨.up, up⟩
  · exact .inr ⟨.left, left⟩
  · exact .inr ⟨.right, right⟩
  · exact .inr ⟨.down, down⟩

/-- The operands that are drawn are less than 100. -/
theorem drawn_operand {n : Nat} (low : n < drawnOperands) : UInt8.ofNat n < 100 := by
  rw [UInt8.lt_iff_toNat_lt, UInt8.toNat_ofNat']
  exact Nat.lt_of_le_of_lt (Nat.mod_le _ _) low

theorem drawn_drawInstruction (t : Twister) : (drawInstruction t).1.Drawn := by
  simp only [drawInstruction]
  refine ⟨drawn_opcode (Twister.below_lt (by decide) _) (Twister.choose_mem _ (List.cons_ne_nil _ _)), ?_,
    drawn_dirs (Twister.choose_mem _ (List.cons_ne_nil _ _))⟩
  dsimp only
  split
  · rename_i address
    exact .inl ⟨address, Twister.choose_pair _ _ _⟩
  · rename_i notAddress
    exact .inr ⟨(Twister.choose_pair t _ _).resolve_left notAddress,
      drawn_operand (Twister.below_lt (by decide) _)⟩

/-- Every record of a random program was drawn. -/
theorem drawn_of_mem_drawProgram {cells : Nat} {t : Twister} {r : Instruction}
    (member : r ∈ drawProgram cells t) : r.Drawn := by
  induction cells generalizing t with
  | zero => cases member
  | succ cells ih =>
    simp only [drawProgram, List.mem_cons] at member
    rcases member with rfl | later
    · exact drawn_drawInstruction t
    · exact ih later

/-! The memory of a random program. -/

/-- Records that are written one after the other are found at the multiples of their width. -/
theorem getD_flatMap_toBytes {rs : List Instruction} {k i : Nat} (inside : k < rs.length)
    (field : i < Instruction.width) :
    (rs.flatMap Instruction.toBytes).getD (k * Instruction.width + i) 0 = rs[k].toBytes.getD i 0 := by
  induction rs generalizing k with
  | nil => cases inside
  | cons r rs ih =>
    have width : r.toBytes.length = Instruction.width := r.length_toBytes
    rw [List.flatMap_cons]
    cases k with
    | zero =>
      rw [Nat.zero_mul, Nat.zero_add, List.getD_append _ _ _ _ (by omega)]
      rfl
    | succ k =>
      have later : (k + 1) * Instruction.width + i - r.toBytes.length = k * Instruction.width + i := by
        rw [width, Nat.succ_mul]
        omega
      rw [List.getD_append_right _ _ _ _ (by rw [Nat.succ_mul]; omega), later, List.getElem_cons_succ]
      exact ih (Nat.lt_of_succ_lt_succ inside)

theorem reg_randomMemory {m : Machine} {seed : Int} (drawn : m.memory = randomMemory m.grid seed) {a : Nat}
    (low : a < programBase) : m.reg a = 0 := by
  have length : (Image.blank programBase).length = programBase := List.length_replicate
  rw [reg, drawn, Image.read_natCast, randomMemory, List.getD_append _ _ _ _ (by omega)]
  exact List.getD_replicate _ low

theorem drawn_randomMemory {m : Machine} {seed : Int} (drawn : m.memory = randomMemory m.grid seed)
    {index : Int} (on : m.grid.contains index = true) : (m.instruction index).Drawn := by
  obtain ⟨low, high⟩ := Grid.contains_iff.1 on
  obtain ⟨k, rfl⟩ := Int.eq_ofNat_of_zero_le low
  have count := Session.length_drawProgram m.grid.cells (.ofSeed seed)
  have inside : k < (drawProgram m.grid.cells (.ofSeed seed)).length := by omega
  have length : (Image.blank programBase).length = programBase := List.length_replicate
  have here : m.instruction k = (drawProgram m.grid.cells (.ofSeed seed))[k] := by
    apply instruction_of_bytes (Int.ofNat_lt.1 high)
    intro i field
    rw [drawn, randomMemory, Assembly.recordAddress, Nat.add_assoc, Int.toNat_natCast,
      List.getD_append_right _ _ _ _ (by omega), length, Nat.add_sub_cancel_left,
      getD_flatMap_toBytes inside field]
  rw [here]
  exact drawn_of_mem_drawProgram (List.getElem_mem inside)

end Machine

namespace Session

/-- To load the random program of a seed never fails, on any grid and whatever the machine held before. The
registers and the stack are blank afterwards, every cell has a record that may be drawn, the opening is this
memory, there is nothing to undo, and no line of the program's listing gives raw bytes. -/
theorem random_programs_are_valid (s : Session) (seed : Int) :
    ∃ loaded, s.loadRandom seed = (.ok (), loaded) ∧ loaded.machine.grid = s.machine.grid ∧
      loaded.machine.Sized ∧ (∀ a < programBase, loaded.machine.reg a = 0) ∧
      (∀ index, s.machine.grid.contains index = true → (loaded.machine.instruction index).Drawn) ∧
      loaded.opening = loaded.machine.memory ∧ loaded.bench.history.entries = [] ∧
      ∃ text, Assembly.disassemble loaded.machine.memory s.machine.grid.cols s.machine.grid.rows
          ⟨none, [], []⟩ = .ok text ∧
        ∀ line ∈ text.splitLines, ¬Assembly.IsRaw line := by
  let loaded := ((s.drawing seed).begun (s.machine.randomize seed).memory false).note (.randomized seed)
  have sized : loaded.machine.Sized := length_randomMemory _ _
  have memory : loaded.machine.memory = Machine.randomMemory loaded.machine.grid seed := rfl
  have drawn (index : Int) (on : loaded.machine.grid.contains index = true) :
      (loaded.machine.instruction index).Drawn := Machine.drawn_randomMemory memory on
  have tidy : loaded.machine.Tidy := by
    refine Machine.tidy_iff.2 fun index => ?_
    cases on : loaded.machine.grid.contains index with
    | true => exact (drawn index on).wellFormed
    | false =>
      rw [Machine.instruction_of_not_contains on]
      exact Instruction.wellFormed_blank
  exact ⟨loaded, loadRandom_begun s seed, rfl, sized, fun _ low => Machine.reg_randomMemory memory low,
    drawn, rfl, rfl, listing_of_tidy sized tidy rfl fun _ none => nomatch none⟩

end Session

end CellWalk
