import CellWalk.Proofs.Stacking
import CellWalk.Proofs.Walking

/-!
# The tracks of a walk

A walk into a cell changes memory where the debugger's place and the cycles are kept, and in the footprint
of the cell's instruction (`Machine.tracks`). From this it follows which records can overwrite the program,
end it or disturb the cycle counter (`walks_leave_tracks`): as slots and addresses are arbitrary, the
program is reached by an operand beyond it or by a stack that has grown into it, but the status only by
name.
-/

namespace CellWalk
set_option autoImplicit false

namespace Instruction

/-- The record stores in the program: at an address there, or on a stack that has grown so far. A store
takes the slot above the values, a swap the one on top. -/
def Overwrites (r : Instruction) (depth : Nat) : Prop :=
  (r.op? = some .set ∨ r.op? = some .swp) ∧ programBase ≤ r.operand.toNat ∨
    r.operand = Register.stk.offset ∧
      (r.op? = some .set ∧ 14 ≤ depth ∨ r.op? = some .swp ∧ 15 ≤ depth)

/-- The record ends the program, by the instruction that is there for it or by a swap of the status with
the right byte. -/
def Ends (r : Instruction) (dbg : UInt8) : Prop :=
  r.op? = some .halt ∨ r.op? = some .swp ∧ r.operand = Register.sta.offset ∧ dbg = halted

end Instruction

namespace Machine

/-- Where a walk into a cell with this record may change memory. -/
def tracks (m : Machine) (r : Instruction) : List Nat :=
  Register.ip.address :: Register.cyc.address :: r.op?.elim [] fun o => m.touched o r.operand

/-- What a walk into a cell with the record makes of a machine. -/
structure Tracked (m : Machine) (r : Instruction) (n : Machine) : Prop where
  bytes : ∀ a : Nat, a ∉ m.tracks r → n.reg a = m.reg a
  program : ∀ a : Nat, programBase ≤ a → n.reg a ≠ m.reg a → r.Overwrites (m.get .sp).toNat
  status : m.isHalted = false → n.isHalted = true → r.Ends (m.get .dbg)
  cycles : r.storesIn .cyc = false → (n.get .cyc).toNat = min 255 ((m.get .cyc).toNat + 1)

variable {m n : Machine} {r : Instruction} {o : Opcode} {index : Int} {a : Nat}

theorem eq_stk_offset {operand : UInt8} (stack : operand.toNat = stackBase) :
    operand = Register.stk.offset :=
  UInt8.toNat_inj.1 stack

theorem mem_stored {operand : UInt8} {depth : Nat} (member : a ∈ stored operand depth) :
    a = operand.toNat ∨ operand = Register.stk.offset ∧ (a = slot depth ∨ a = Register.sp.address) := by
  unfold stored at member
  split at member
  · rename_i stack
    simp only [List.mem_cons, List.not_mem_nil, or_false] at member
    exact .inr ⟨eq_stk_offset stack, member⟩
  · exact .inl (List.mem_singleton.1 member)

/-- No register lies in the program. -/
theorem ne_address (high : programBase ≤ a) (q : Register) : a ≠ q.address := by
  have low := address_lt q
  omega

/-- Of a footprint only what is stored by name or on the stack lies in the program. -/
theorem overwrites_of_touched (named : r.op? = some o) (high : programBase ≤ a)
    (member : a ∈ m.touched o r.operand) : r.Overwrites (m.get .sp).toNat := by
  have base : programBase = stackBase + 14 := rfl
  cases o with
  | nil | nop | txt | teq | tlt | tgt | snd => cases member
  | get | add | sub | halt => exact absurd (List.mem_singleton.1 member) (ne_address high _)
  | set =>
    rcases mem_stored member with rfl | ⟨stack, rfl | rfl⟩
    · exact .inl ⟨.inl named, high⟩
    · unfold slot at high
      exact .inr ⟨stack, .inl ⟨named, by omega⟩⟩
    · exact absurd rfl (ne_address high .sp)
  | swp =>
    rcases List.mem_cons.1 member with rfl | onStack
    · exact absurd rfl (ne_address high .dbg)
    rcases mem_stored onStack with rfl | ⟨stack, rfl | rfl⟩
    · exact .inl ⟨.inr named, high⟩
    · unfold slot at high
      exact .inr ⟨stack, .inr ⟨named, by omega⟩⟩
    · exact absurd rfl (ne_address high .sp)

/-- Neither a slot nor the stack pointer is the status. -/
theorem operand_of_sta_stored {operand : UInt8} {depth : Nat}
    (member : Register.sta.address ∈ stored operand depth) : operand = Register.sta.offset := by
  have low : Register.sta.address < stackBase := by decide
  rcases mem_stored member with name | ⟨-, onSlot | onSp⟩
  · exact UInt8.toNat_inj.1 name.symm
  · unfold slot at onSlot
    omega
  · exact absurd onSp (by decide)

/-- A store that names the status puts the operand there, which is 0, or the status itself. -/
theorem not_halted_of_store (sized : m.Sized) (running : m.isHalted = false) (mode : Int) :
    (m.setReg Register.sta.address (m.resolve Register.sta.address mode)).isHalted = false := by
  have stored := get_set_same sized .sta (m.resolve Register.sta.address mode)
  rw [isHalted, ← set, stored]
  by_cases addressed : mode = Instruction.addressMode.toNat
  · have own : m.resolve Register.sta.address mode = (m.get .sta).toNat := by
      rw [resolve, if_neg (not_not_intro addressed), if_neg (by decide)]
      rfl
    rw [own, clampByte_toNat]
    exact running
  · rw [resolve, if_pos addressed]
    decide

/-- A swap with the status brings the debugger register there. -/
theorem get_sta_swap (sized : m.Sized) : (m.swap Register.sta.offset).get .sta = m.get .dbg := by
  have named : ¬Register.sta.offset.toNat = stackBase := by decide
  have stored := get_set_same sized .sta (m.get .dbg).toNat
  rw [swap, if_neg named, get_set_of_ne _ (by decide)]
  rw [clampByte_toNat] at stored
  exact stored

theorem ends_of_perform (sized : m.Sized) (named : r.op? = some o) (running : m.isHalted = false)
    (ended : (m.perform o r).2.isHalted = true) : r.Ends (m.get .dbg) := by
  by_cases member : Register.sta.address ∈ m.touched o r.operand
  · cases o with
    | nil | nop | txt | teq | tlt | tgt | snd => cases member
    | get | add | sub => exact absurd (List.mem_singleton.1 member) (by decide)
    | halt => exact .inl named
    | set =>
      have name := operand_of_sta_stored member
      have still := not_halted_of_store sized running r.mode.toNat
      simp only [perform, name] at ended
      rw [if_neg (by decide)] at ended
      exact absurd (ended.symm.trans still) (by decide)
    | swp =>
      have name : r.operand = Register.sta.offset := by
        rcases List.mem_cons.1 member with onDbg | onStack
        · exact absurd onDbg (by decide)
        · exact operand_of_sta_stored onStack
      have status : (m.perform .swp r).2.get .sta = m.get .dbg := by
        simp only [perform, name]
        exact get_sta_swap sized
      rw [isHalted, status] at ended
      exact .inr ⟨named, name, eq_of_beq ended⟩
  · have kept : (m.perform o r).2.get .sta = m.get .sta := reg_perform_of_untouched sized member
    rw [isHalted, kept] at ended
    exact absurd (ended.symm.trans running) (by decide)

theorem tracked_of_jump (sized : m.Sized) (jumped : m.jump index = (true, n)) :
    m.Tracked (m.instruction index) n.cycle := by
  have cycles := fun spares => cycles_of_jump sized jumped spares
  obtain ⟨o, entered, named, rfl, performed⟩ := performed_of_jump jumped
  have record : (m.instruction index).op? = some o := named
  have counted : ({ m with executions := m.executions + 1 } : Machine).Sized := sized
  have bytes : ∀ a : Nat, a ∉ m.tracks (m.instruction index) →
      (entered.set .ip index).cycle.reg a = m.reg a := by
    intro a outside
    simp only [tracks, record, Option.elim_some, List.mem_cons, not_or] at outside
    obtain ⟨notIp, notCyc, untouched⟩ := outside
    rw [cycle, reg_set_of_ne _ notCyc]
    apply reg_jump_of_untouched sized jumped notIp
    intro o' named'
    obtain rfl : o = o' := Option.some.inj (named.symm.trans named')
    exact untouched
  have status : (entered.set .ip index).cycle.isHalted = entered.isHalted := by
    rw [isHalted, isHalted, cycle, get_set_of_ne _ (by decide), get_set_of_ne _ (by decide)]
  refine ⟨bytes, fun a high changed => ?_, fun running ended => ?_, fun spares => ?_⟩
  · by_cases member : a ∈ m.touched o (m.instruction index).operand
    · exact overwrites_of_touched record high member
    · refine absurd (bytes a ?_) changed
      simp only [tracks, record, Option.elim_some, List.mem_cons, not_or]
      exact ⟨ne_address high .ip, ne_address high .cyc, member⟩
  · apply ends_of_perform counted record running
    rw [performed, ← status]
    exact ended
  · rw [cycles spares]
    omega

end Machine

/-! Moves and jumps. -/

namespace Bench

variable {b : Bench} {index : Int}

theorem tracked_commit (sized : b.machine.Sized) (entered : (b.commit index).1 = true) :
    b.machine.Tracked (b.machine.instruction index) (b.commit index).2.machine := by
  unfold commit at entered ⊢
  split at entered
  · cases entered
  · rename_i n jumped
    exact Machine.tracked_of_jump sized jumped

theorem tracked_of_enters (sized : b.machine.Sized) {after : Bench} (enters : b.Enters (true, after)) :
    b.machine.Tracked (b.machine.instruction after.machine.ip) after.machine := by
  obtain - | ⟨jumped, machine, -⟩ := enters
  have there := Machine.ip_of_jump sized jumped
  rw [machine, Machine.ip_cycle, there]
  exact Machine.tracked_of_jump sized jumped

/-- Every move and every jump that is made leaves the tracks of the record in the cell that it leads to, and
so does every walk of a game. -/
theorem walks_leave_tracks (b : Bench) (sized : b.machine.Sized) :
    (∀ direction, (b.attemptMove direction).1 = true →
      ∃ index, b.target b.machine.ip direction = some index ∧
        b.machine.Tracked (b.machine.instruction index) (b.attemptMove direction).2.machine) ∧
    (∀ goal, (b.jumpTo goal).1 = true →
      b.machine.Tracked (b.machine.instruction goal) (b.jumpTo goal).2.machine) ∧
    ∀ (s : Session) (a : Action), s.bench = b → a.walks = true → (s.act a).1 = .ok true →
      b.machine.Tracked (b.machine.instruction (s.act a).2.machine.ip) (s.act a).2.machine := by
  refine ⟨fun direction made => ?_, fun goal made => ?_, fun s a here walks made => ?_⟩
  · obtain ⟨index, may, -⟩ := (b.byLaw_attemptMove direction).answer.1 made
    rw [attemptMove_eq_commit may] at made ⊢
    exact ⟨index, may.target, tracked_commit sized made⟩
  · obtain ⟨_, ⟨rfl, may⟩, -⟩ := (b.byLaw_jumpTo goal).answer.1 made
    rw [jumpTo_eq_commit may] at made ⊢
    exact tracked_commit sized made
  · subst here
    obtain ⟨answer, answered, enters⟩ := s.enters_act walks
    obtain rfl : true = answer := Except.ok.inj (made.symm.trans answered)
    exact tracked_of_enters sized enters

/-- The debugger stands before a swap with the top of a stack that has grown into the program: its top is
the opcode of the debugger's own cell. -/
def besideOvergrown : Bench :=
  let memory : Image := [0, 0, 15, 255, 9] ++ List.replicate 19 0 ++ [1, 0, 0, 0, 4, 10, 0, 0] ++
    List.replicate 8 0
  .fresh { Machine.nearlyFull with memory } .unlimited true

theorem tracks_of_overgrown_swap :
    let after := (besideOvergrown.jumpTo 1).2.machine
    besideOvergrown.machine.tracks (besideOvergrown.machine.instruction 1) = [1, 3, 4, 24, 2] ∧
      after.reg 24 ≠ besideOvergrown.machine.reg 24 ∧ after.reg 25 = besideOvergrown.machine.reg 25 ∧
      (besideOvergrown.machine.instruction 1).Overwrites 15 ∧ (after.get .cyc).toNat = 255 := by
  intro after
  have sized : besideOvergrown.machine.Sized := rfl
  have tracked := (walks_leave_tracks besideOvergrown sized).2.1 1 (by decide)
  have changed : after.reg 24 ≠ besideOvergrown.machine.reg 24 := by decide
  exact ⟨by decide, changed, tracked.bytes 25 (by decide), tracked.program 24 (by decide) changed,
    tracked.cycles (by decide)⟩

end Bench

end CellWalk
