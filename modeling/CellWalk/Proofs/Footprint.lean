import CellWalk.Proofs.Memory

/-!
# The footprint of an instruction

Where an instruction may store is known before it is executed (`Machine.touched`): in the debugger
register or the status, in the byte that its operand names, or in the stack pointer and one slot. Every
other byte keeps its value (`reg_perform_of_untouched`). As no slot is a register, the cycle counter
notices nothing but a store or a swap that names it, and whoever enters a cell with another record pays
one cycle (`cycles_of_jump`).
-/

namespace CellWalk
set_option autoImplicit false

/-- Whether the record is a store or a swap whose operand names the register. -/
def Instruction.storesIn (r : Instruction) (q : Register) : Bool :=
  (r.op? == some .set || r.op? == some .swp) && r.operand == q.offset

namespace Machine

/-- Where a store with this operand goes if it finds `depth` values on the stack. -/
def stored (operand : UInt8) (depth : Nat) : List Nat :=
  if operand.toNat = stackBase then [slot depth, Register.sp.address] else [operand.toNat]

/-- The addresses at which an instruction may change memory. -/
def touched (m : Machine) (o : Opcode) (operand : UInt8) : List Nat :=
  match o with
  | .get | .add | .sub => [Register.dbg.address]
  | .set => stored operand (m.get .sp).toNat
  -- the slot on top, which is the first one if the stack is empty
  | .swp => Register.dbg.address :: stored operand ((m.get .sp).toNat - 1)
  | .halt => [Register.sta.address]
  | .nil | .nop | .txt | .teq | .tlt | .tgt | .snd => []

variable {m n : Machine} {a : Nat}

theorem reg_set_of_ne (m : Machine) {r : Register} (other : a ≠ r.address) (v : Int) :
    (m.set r v).reg a = m.reg a :=
  reg_setReg_of_ne m (by omega) v

/-! The stack. -/

theorem reg_push_of_ne (m : Machine) (noSlot : a ≠ slot (m.get .sp).toNat)
    (notSp : a ≠ Register.sp.address) (v : Int) : (m.push v).reg a = m.reg a := by
  have pushed : (m.push v).reg a =
      ((m.setReg (slot (m.get .sp).toNat) v).set .sp ((m.get .sp).toNat + 1)).reg a := rfl
  rw [pushed, reg_set_of_ne _ notSp, reg_setReg_of_ne m (by omega)]

theorem reg_pop_of_ne (m : Machine) (notSp : a ≠ Register.sp.address) : m.pop.2.reg a = m.reg a := by
  simp only [pop]
  split
  · rfl
  · exact reg_set_of_ne m notSp _

/-- The stack pointer stops at 0. -/
theorem get_sp_pop (sized : m.Sized) : (m.pop.2.get .sp).toNat = (m.get .sp).toNat - 1 := by
  simp only [pop]
  split
  · rename_i empty
    rw [empty]
  · rw [get_set_same sized]
    have below := (m.get .sp).toNat_lt
    have clamped := toNat_clampByte (((m.get .sp).toNat - 1 : Nat) : Int)
    omega

theorem reg_swap_of_untouched (sized : m.Sized) {operand : UInt8} (notDbg : a ≠ Register.dbg.address)
    (elsewhere : a ∉ stored operand ((m.get .sp).toNat - 1)) : (m.swap operand).reg a = m.reg a := by
  simp only [stored] at elsewhere
  simp only [swap]
  split
  · rename_i stack
    simp only [if_pos stack, List.mem_cons, List.not_mem_nil, or_false, not_or] at elsewhere
    obtain ⟨noSlot, notSp⟩ := elsewhere
    rw [← get_sp_pop sized] at noSlot
    rw [reg_set_of_ne _ notDbg, reg_push_of_ne _ noSlot notSp, reg_pop_of_ne m notSp]
  · rename_i plain
    simp only [if_neg plain, List.mem_singleton] at elsewhere
    rw [reg_set_of_ne _ notDbg, reg_setReg_of_ne m (by omega)]

/-! Instructions. -/

/-- A byte outside the footprint of an instruction keeps its value. -/
theorem reg_perform_of_untouched (sized : m.Sized) {o : Opcode} {r : Instruction}
    (untouched : a ∉ m.touched o r.operand) : (m.perform o r).2.reg a = m.reg a := by
  cases o with
  | nil | nop | txt | teq | tlt | tgt | snd => rfl
  | get | add | sub | halt => exact reg_set_of_ne m (List.ne_of_not_mem_cons untouched) _
  | swp =>
    exact reg_swap_of_untouched sized (List.ne_of_not_mem_cons untouched)
      (List.not_mem_of_not_mem_cons untouched)
  | set =>
    simp only [touched, stored] at untouched
    simp only [perform]
    split
    · rename_i stack
      simp only [if_pos stack, List.mem_cons, List.not_mem_nil, or_false, not_or] at untouched
      exact reg_push_of_ne m untouched.1 untouched.2 _
    · rename_i plain
      simp only [if_neg plain, List.mem_singleton] at untouched
      exact reg_setReg_of_ne m (by omega) _

/-- Whoever enters a cell finds all else as it was, but for the instruction pointer. -/
theorem reg_jump_of_untouched (sized : m.Sized) {index : Int} (jumped : m.jump index = (true, n))
    (notIp : a ≠ Register.ip.address)
    (untouched : ∀ o, m.op? index = some o → a ∉ m.touched o (m.instruction index).operand) :
    n.reg a = m.reg a := by
  obtain ⟨o, entered, named, rfl, performed⟩ := performed_of_jump jumped
  have counted : ({ m with executions := m.executions + 1 } : Machine).Sized := sized
  have kept := reg_perform_of_untouched counted (untouched o named)
  rw [performed] at kept
  rw [reg_set_of_ne _ notIp]
  exact kept

/-! The cycle counter. -/

/-- A slot of the stack is not the cycle counter, so a store reaches the counter by name only. -/
theorem cyc_not_mem_stored {operand : UInt8} (other : operand ≠ Register.cyc.offset) (depth : Nat) :
    Register.cyc.address ∉ stored operand depth := by
  have named : Register.cyc.address ≠ operand.toNat := fun same =>
    other (UInt8.toNat_inj.1 same.symm)
  have slots : Register.cyc.address ≠ slot depth := by
    have low : Register.cyc.address < stackBase := by decide
    unfold slot
    omega
  unfold stored
  split
  · simp only [List.mem_cons, List.not_mem_nil, or_false, not_or]
    exact ⟨slots, by decide⟩
  · exact fun member => named (List.mem_singleton.1 member)

theorem cyc_not_mem_touched {o : Opcode} {r : Instruction} (named : r.op? = some o)
    (spares : r.storesIn .cyc = false) (m : Machine) :
    Register.cyc.address ∉ m.touched o r.operand := by
  have other : o = .set ∨ o = .swp → r.operand ≠ Register.cyc.offset := by
    rintro (rfl | rfl) same <;> simp [Instruction.storesIn, named, same] at spares
  cases o with
  | nil | nop | txt | teq | tlt | tgt | snd => exact List.not_mem_nil
  | get | add | sub | halt => exact List.not_mem_cons_of_ne_of_not_mem (by decide) List.not_mem_nil
  | set => exact cyc_not_mem_stored (other (.inl rfl)) _
  | swp =>
    exact List.not_mem_cons_of_ne_of_not_mem (by decide) (cyc_not_mem_stored (other (.inr rfl)) _)

/-- Whoever enters a cell pays one cycle until the counter is full, unless its record stores in the
counter. -/
theorem cycles_of_jump (sized : m.Sized) {index : Int} (jumped : m.jump index = (true, n))
    (spares : (m.instruction index).storesIn .cyc = false) :
    (n.cycle.get .cyc).toNat = min ((m.get .cyc).toNat + 1) 255 := by
  have entered : n.get .cyc = m.get .cyc :=
    reg_jump_of_untouched sized jumped (by decide) fun _ named => cyc_not_mem_touched named spares m
  have shape := sameShape_jump m index
  rw [jumped] at shape
  have clamped := toNat_clampByte (((m.get .cyc).toNat : Int) + 1)
  rw [cycle, get_set_same (shape.sized sized), entered]
  omega

end Machine

end CellWalk
