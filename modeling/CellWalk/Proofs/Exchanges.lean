import CellWalk.Proofs.Edits

/-!
# Swaps

A swap exchanges two bytes of memory, the debugger register and its partner (`Machine.Partner`): the byte
that the operand names or the top of the stack. The stack pointer goes down and up again on the way, so no
other byte changes (`memory_swap`). A swap that leaves its own record alone finds the same partner when it is
executed again, and the second exchange takes the first one back (`swap_undoes_itself`).
-/

namespace CellWalk
set_option autoImplicit false

/-! Exchanging two bytes. -/

/-- The image with the bytes at two addresses exchanged. -/
def Image.exchange (image : Image) (a b : Nat) : Image :=
  (image.set b (image.getD a 0)).set a (image.getD b 0)

namespace Image

variable {image : Image} {a b : Nat}

@[simp] theorem length_exchange (image : Image) (a b : Nat) :
    (image.exchange a b).length = image.length := by
  simp [exchange]

theorem read_exchange (first : a < image.length) (second : b < image.length) (c : Nat) :
    (image.exchange a b).read c =
      if c = a then image.read b else if c = b then image.read a else image.read c := by
  simp only [read_natCast, exchange, List.getD_eq_getElem?_getD, List.getElem?_set, List.length_set]
  by_cases atFirst : c = a
  · subst atFirst
    simp [first]
  · by_cases atSecond : c = b
    · subst atSecond
      simp [atFirst, Ne.symm atFirst, second]
    · simp [atFirst, atSecond, Ne.symm atFirst, Ne.symm atSecond]

theorem exchange_exchange (first : a < image.length) (second : b < image.length) :
    (image.exchange a b).exchange a b = image := by
  apply eq_of_read (by simp)
  intro c _
  have first' : a < (image.exchange a b).length := by simpa using first
  have second' : b < (image.exchange a b).length := by simpa using second
  simp only [read_exchange first' second', read_exchange first second, if_true]
  split
  · rename_i atFirst
    rw [atFirst]
    split
    · rename_i same
      rw [same]
    · rfl
  · split
    · rename_i atSecond
      rw [atSecond]
    · rfl

end Image

namespace Machine

variable {m n : Machine} {operand : UInt8} {index : Int} {a : Nat}

/-- A swap with this operand exchanges the debugger register with the byte at `a`: the one that the operand
names, or the top of the stack if there is one. -/
def Partner (m : Machine) (operand : UInt8) (a : Nat) : Prop :=
  (operand ≠ Register.stk.offset ∧ a = operand.toNat) ∨
    (operand = Register.stk.offset ∧ (m.get .sp).toNat ≠ 0 ∧ a = slot ((m.get .sp).toNat - 1))

instance (m : Machine) (operand : UInt8) (a : Nat) : Decidable (m.Partner operand a) :=
  inferInstanceAs (Decidable (_ ∨ _))

theorem names_stack_iff : operand.toNat = stackBase ↔ operand = Register.stk.offset :=
  UInt8.toNat_inj (b := Register.stk.offset)

theorem dbg_inside (sized : m.Sized) : Register.dbg.address < m.memory.length :=
  Nat.lt_of_lt_of_le (address_lt .dbg) sized.programBase_le

/-! What a swap does to memory. -/

/-- What is popped and pushed back leaves the pointer as it was. -/
theorem get_sp_push_pop (sized : m.Sized) (filled : (m.get .sp).toNat ≠ 0) (v : Int) :
    (m.pop.2.push v).get .sp = m.get .sp := by
  have small := (m.get .sp).toNat_lt
  have popped := get_sp_pop sized
  have pushed := get_sp_push ((sameShape_pop m).sized sized) v
  apply UInt8.toNat_inj.1
  omega

/-- To push a value in place of the top one changes no other byte. -/
theorem reg_push_pop (sized : m.Sized) (filled : (m.get .sp).toNat ≠ 0)
    (inside : slot ((m.get .sp).toNat - 1) < m.memory.length) (v : Int) (c : Nat) :
    (m.pop.2.push v).reg c = if c = slot ((m.get .sp).toNat - 1) then clampByte v else m.reg c := by
  have popped := get_sp_pop sized
  have length := (sameShape_pop m).length
  split
  · rename_i top
    rw [top, ← popped]
    exact reg_slot_push (by rw [popped]; omega) v
  · rename_i notTop
    by_cases pointer : c = Register.sp.address
    · rw [pointer]
      exact get_sp_push_pop sized filled v
    · rw [← popped] at notTop
      rw [reg_push_of_ne _ notTop pointer, reg_pop_of_ne m pointer]

theorem pop_eq_reg (filled : (m.get .sp).toNat ≠ 0) : m.pop.1 = m.reg (slot ((m.get .sp).toNat - 1)) := by
  rw [pop_eq_peek]
  simp only [peek, if_neg filled]

theorem memory_swap_stack (sized : m.Sized) (stack : operand = Register.stk.offset)
    (filled : (m.get .sp).toNat ≠ 0) (inside : slot ((m.get .sp).toNat - 1) < m.memory.length) :
    (m.swap operand).memory =
      m.memory.exchange Register.dbg.address (slot ((m.get .sp).toNat - 1)) := by
  have swapped : m.swap operand = (m.pop.2.push (m.get .dbg).toNat).set .dbg m.pop.1.toNat := by
    simp only [swap, if_pos (names_stack_iff.2 stack)]
  have shape := (sameShape_pop m).trans (sameShape_push m.pop.2 (m.get .dbg).toNat)
  apply Image.eq_of_read
  · rw [(sameShape_swap m operand).length, Image.length_exchange]
  intro c _
  rw [Image.read_exchange (dbg_inside sized) inside]
  change (m.swap operand).reg c = _
  rw [swapped]
  split
  · rename_i dbg
    have stored := get_set_same (shape.sized sized) .dbg m.pop.1.toNat
    rw [clampByte_toNat] at stored
    rw [dbg]
    exact stored.trans (pop_eq_reg filled)
  · rename_i notDbg
    rw [reg_set_of_ne _ notDbg, reg_push_pop sized filled inside, clampByte_toNat]
    rfl

theorem memory_swap (sized : m.Sized) (partner : m.Partner operand a) (inside : a < m.memory.length) :
    (m.swap operand).memory = m.memory.exchange Register.dbg.address a := by
  rcases partner with ⟨plain, rfl⟩ | ⟨stack, filled, rfl⟩
  · simp only [swap, if_neg (mt names_stack_iff.1 plain)]
    simp [set, setReg, get, reg, Image.exchange]
  · exact memory_swap_stack sized stack filled inside

/-- Beside memory a swap only keeps track of the highest stack. -/
theorem swap_eq (sized : m.Sized) (partner : m.Partner operand a) (inside : a < m.memory.length) :
    m.swap operand =
      { m with
        memory := m.memory.exchange Register.dbg.address a
        stackPeak := (m.swap operand).stackPeak } := by
  rw [← memory_swap sized partner inside]
  simp only [swap, pop]
  split
  · split <;> rfl
  · rfl

/-! The record of the swap. -/

/-- A byte outside a record is none of its fields. -/
theorem fieldAddress_ne (outside : ¬InRecord index a) {field : Int} (on : m.OnRecord index field) :
    fieldAddress index field ≠ a := fun same =>
  outside (inRecord_iff.2 ⟨field, on.low, on.high, same.symm⟩)

theorem instruction_exchange (sized : m.Sized) (grid : n.grid = m.grid)
    (memory : n.memory = m.memory.exchange Register.dbg.address a) (inside : a < m.memory.length)
    (outside : ¬InRecord index a) : n.instruction index = m.instruction index := by
  have low := address_lt .dbg
  apply instruction_congr
  intro field
  apply fetch_congr_of_reg grid
  intro on
  obtain ⟨place, address, above, -⟩ := on.address sized
  have other := fieldAddress_ne outside on
  rw [address] at other ⊢
  rw [reg, reg, memory, Image.read_exchange (dbg_inside sized) inside, if_neg (by omega),
    if_neg (by omega)]

/-- After a swap the partner is the same one. -/
theorem Partner.again (partner : m.Partner operand a) (sized : m.Sized) (inside : a < m.memory.length)
    (memory : n.memory = m.memory.exchange Register.dbg.address a) : n.Partner operand a := by
  rcases partner with plain | ⟨stack, filled, rfl⟩
  · exact .inl plain
  · have pointer : n.get .sp = m.get .sp := by
      rw [get, reg, memory, Image.read_exchange (dbg_inside sized) inside, if_neg (by decide),
        if_neg (slot_ne_sp _).symm]
      rfl
    exact .inr ⟨stack, by rw [pointer]; exact filled, by rw [pointer]⟩

theorem execute_swap (sized : m.Sized) (named : m.op? index = some .swp)
    (partner : m.Partner (m.instruction index).operand a) (inside : a < m.memory.length) :
    m.execute index =
      (true,
        { m with
          memory := m.memory.exchange Register.dbg.address a
          executions := m.executions + 1
          stackPeak := (m.execute index).2.stackPeak }) := by
  rw [execute_of_op named]
  exact congrArg (Prod.mk true)
    (swap_eq (m := { m with executions := m.executions + 1 }) sized partner inside)

/-- Executing a swap exchanges the debugger register with its partner, in either mode. Beside that it only
counts the execution and keeps track of the highest stack. If the partner is none of the four bytes of the
swap's own record, executing the cell again restores memory. -/
theorem swap_undoes_itself (m : Machine) (index : Int) (a : Nat) (sized : m.Sized)
    (named : m.op? index = some .swp) (partner : m.Partner (m.instruction index).operand a)
    (inside : a < m.memory.length) (outside : ¬InRecord index a) :
    let once := m.execute index
    let twice := once.2.execute index
    once =
        (true,
          { m with
            memory := m.memory.exchange Register.dbg.address a
            executions := m.executions + 1
            stackPeak := once.2.stackPeak }) ∧
      twice.1 = true ∧ twice.2.memory = m.memory := by
  intro once twice
  have first : once = _ := execute_swap sized named partner inside
  have memory : once.2.memory = m.memory.exchange Register.dbg.address a := by rw [first]
  have grid : once.2.grid = m.grid := by rw [first]
  have record := instruction_exchange sized grid memory inside outside
  have named' : once.2.op? index = some .swp := by rw [op?, record]; exact named
  have partner' : once.2.Partner (once.2.instruction index).operand a := by
    rw [record]
    exact partner.again sized inside memory
  have inside' : a < once.2.memory.length := by rw [memory, Image.length_exchange]; exact inside
  have second : twice = _ :=
    execute_swap ((sameShape_execute m index).sized sized) named' partner' inside'
  refine ⟨first, by rw [second], ?_⟩
  rw [second, memory]
  exact Image.exchange_exchange (dbg_inside sized) inside

/-- A swap in the second cell with this operand. The stack has sixteen values, so its top is the operand of
the first cell. -/
def swapInSecondCell (operand mode : UInt8) : Machine :=
  let memory : Image := [0, 0, 16, 0, 9] ++ List.replicate 19 0 ++ [1, 5, 0, 0, 4, operand, mode, 0] ++
    List.replicate 8 0
  { nearlyFull with memory }

/-- The first cell's opcode is exchanged by its address and its operand as the top of the stack. -/
theorem swap_with_first_cell :
    let named := swapInSecondCell 24 0
    let stacked := swapInSecondCell Register.stk.offset 1
    (named.execute 1).2.memory = named.memory.exchange 4 24 ∧
      ((named.execute 1).2.execute 1).2.memory = named.memory ∧
      ((named.execute 1).2.instruction 0).opcode = 9 ∧
      (stacked.execute 1).2.memory = stacked.memory.exchange 4 25 ∧
      ((stacked.execute 1).2.execute 1).2.memory = stacked.memory ∧
      ((stacked.execute 1).2.instruction 0).operand = 9 := by
  intro named stacked
  have apart : ∀ a : Nat, a < 28 → ¬InRecord 1 a := by
    unfold InRecord programBase Instruction.width
    omega
  obtain ⟨once, -, twice⟩ := swap_undoes_itself named 1 24 rfl (by decide)
    (by decide) (by decide) (apart 24 (by decide))
  obtain ⟨once', -, twice'⟩ := swap_undoes_itself stacked 1 25 rfl (by decide)
    (by decide) (by decide) (apart 25 (by decide))
  exact ⟨congrArg (·.2.memory) once, twice, by decide, congrArg (·.2.memory) once', twice', by decide⟩

end Machine

end CellWalk
