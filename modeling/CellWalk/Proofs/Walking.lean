import CellWalk.Proofs.Pace
import Mathlib.Data.Int.Bitwise

/-!
# The law of walking

A walk takes place if it is legal and the record of the cell it leads to lets the debugger in. Both ways
to walk follow one law and differ in what is legal (`ByLaw`): a move asks the exits of the debugger's cell
and the shape of the grid, a jump asks for another cell of the grid only. What the walk leaves is then
settled, whatever the record has stored: the image of the record's execution with the debugger on the
cell and one more cycle counted.
-/

namespace CellWalk
set_option autoImplicit false

/-! Bits. -/

/-- The low byte of a number, below 0 as well, is its remainder. -/
theorem toNat_lowByte (v : Int) : (lowByte v).toNat = (v % 256).toNat := by
  rw [lowByte, UInt8.toNat_ofNat']
  omega

/-- Its bits are the low eight of the number in two's complement. -/
theorem testBit_lowByte (v : Int) (k : Nat) :
    (lowByte v).toNat.testBit k = (decide (k < 8) && v.testBit k) := by
  rw [toNat_lowByte]
  cases v with
  | ofNat n =>
    have reduced : ((Int.ofNat n) % 256).toNat = n % 2 ^ 8 := by simp; omega
    rw [reduced, Nat.testBit_mod_two_pow]
    rfl
  | negSucc n =>
    have reduced : ((Int.negSucc n) % 256).toNat = 2 ^ 8 - (n % 2 ^ 8 + 1) := by omega
    rw [reduced, Nat.testBit_two_pow_sub_succ (Nat.mod_lt n (by decide)), Nat.testBit_mod_two_pow]
    by_cases low : k < 8 <;> simp [low, Int.testBit]

theorem testBit_high (mask : UInt8) {k : Nat} (high : 8 ≤ k) : mask.toNat.testBit k = false := by
  apply Nat.testBit_lt_two_pow
  exact Nat.lt_of_lt_of_le mask.toNat_lt (Nat.pow_le_pow_right Nat.two_pos high)

/-- A mask shares a bit with a number of any size and sign if one of its bits is set in both. -/
theorem sharesBit_iff {mask : UInt8} {code : Int} :
    sharesBit mask code = true ↔ ∃ k, mask.toNat.testBit k = true ∧ code.testBit k = true := by
  have common : ∀ k, (mask &&& lowByte code).toNat.testBit k =
      (mask.toNat.testBit k && (decide (k < 8) && code.testBit k)) := by
    intro k
    rw [UInt8.toNat_and, Nat.testBit_and, testBit_lowByte]
  rw [sharesBit, bne_iff_ne, Ne, ← UInt8.toNat_inj]
  constructor
  · intro differs
    obtain ⟨k, set⟩ := Nat.exists_testBit_of_ne_zero differs
    rw [common, Bool.and_eq_true, Bool.and_eq_true] at set
    exact ⟨k, set.1, set.2.2⟩
  · rintro ⟨k, inMask, inCode⟩ zero
    have low : k < 8 := by
      refine Nat.lt_of_not_le fun high => ?_
      rw [testBit_high mask high] at inMask
      cases inMask
    have set := common k
    rw [zero, inMask, inCode, decide_eq_true low, UInt8.toNat_zero, Nat.zero_testBit] at set
    cases set

/-! Legal walks. -/

/-- The image that a walk into a cell leaves of the one that the cell's record has left: the debugger is
on the cell, and one more cycle is counted, up to 255. -/
def Image.arrived (image : Image) (index : Int) : Image :=
  (image.set Register.ip.address (UInt8.ofNat index.toNat)).set Register.cyc.address
    (UInt8.ofNat (min (image.cycles + 1) 255))

/-- The debugger's cell and the cycle are written last, whatever the record has stored there. -/
theorem Machine.memory_arrived {m : Machine} {index : Int} (on : m.grid.contains index = true) :
    (m.set .ip index).cycle.memory = m.memory.arrived index := by
  have bounds := Grid.contains_iff.1 on
  have small := m.cells_le
  have place : clampByte index = UInt8.ofNat index.toNat := by
    have whole : (index.toNat : Int) = index := Int.toNat_of_nonneg bounds.1
    rw [← whole, clampByte_ofNat (by omega), Int.toNat_natCast]
  have cycles : ((m.set .ip index).get .cyc).toNat = m.memory.cycles :=
    congrArg UInt8.toNat (get_set_of_ne m (by decide) index)
  have counted : clampByte ((m.memory.cycles : Int) + 1) = UInt8.ofNat (min (m.memory.cycles + 1) 255) := by
    apply UInt8.toNat_inj.1
    have byte : m.memory.cycles < 256 := UInt8.toNat_lt _
    have value := toNat_clampByte ((m.memory.cycles : Int) + 1)
    rw [UInt8.toNat_ofNat']
    omega
  rw [cycle, cycles]
  simp only [set, setReg, Image.write_natCast, place, counted, Image.arrived]

namespace Bench

/-- The mask of the debugger's cell; there is none off the grid, which counts as an empty one. -/
def exits (b : Bench) : UInt8 :=
  if b.machine.grid.contains b.machine.ip then b.machine.reg (Machine.fieldAddress b.machine.ip 3) else 0

/-- A move in this direction may lead to the cell: the exits of the debugger's cell do not forbid it,
and the cell is the neighbour. -/
structure MayMove (b : Bench) (direction index : Int) : Prop where
  allowed : b.walker.enforce = false ∨ b.exits = 0 ∨
    ∃ k, b.exits.toNat.testBit k = true ∧ direction.testBit k = true
  target : b.target b.machine.ip direction = some index

/-- A jump may lead to the cell: it is another one of the grid. -/
structure MayJump (b : Bench) (index : Int) : Prop where
  inside : b.machine.grid.contains index = true
  other : index ≠ b.machine.ip

/-- What a walk into a cell leaves. -/
structure Arrived (b : Bench) (index : Int) (after : Bench) : Prop where
  memory : after.machine.memory = (b.machine.execute index).2.memory.arrived index
  outlet : after.machine.outlet = (b.machine.execute index).2.outlet
  history : after.history = b.history.push b.machine.memory
  walker : after.walker = { b.walker with moves := b.walker.moves + 1 }

/-- What a refused walk leaves. -/
structure TurnedAway (b after : Bench) : Prop extends b.Unchanged after where
  outlet : after.machine.outlet = b.machine.outlet
  walker : after.walker = { b.walker with rejected := b.walker.rejected + 1 }

/-- A walk by the law: it is made just if a legal cell lets the debugger in, and leaves what it has to
leave. -/
structure ByLaw (b : Bench) (legal : Int → Prop) (r : Bool × Bench) : Prop where
  answer : r.1 = true ↔ ∃ index, legal index ∧ (b.machine.execute index).1 = true
  arrived : r.1 = true → ∀ index, legal index → b.Arrived index r.2
  turnedAway : r.1 = false → b.TurnedAway r.2

variable {b : Bench} {legal : Int → Prop} {index : Int}

/-- The mask that a move asks is the one that the cell holds. -/
theorem fetch_eq_exits (b : Bench) : b.machine.fetch b.machine.ip 3 = b.exits := by
  simp [Machine.fetch, exits, Instruction.width]

/-- Where exits bind they allow the directions that share a bit with them, and all if there are none. -/
theorem allows_iff {direction : Int} : b.allows direction = true ↔
    b.walker.enforce = false ∨ b.exits = 0 ∨
      ∃ k, b.exits.toNat.testBit k = true ∧ direction.testBit k = true := by
  simp only [allows, fetch_eq_exits, Bool.or_eq_true, Bool.not_eq_true', beq_iff_eq, sharesBit_iff,
    or_assoc]

/-- Where no cell is legal the walk is turned away. -/
theorem byLaw_reject (none : ∀ index, ¬legal index) : b.ByLaw legal (false, b.reject) where
  answer := by
    constructor
    · intro done
      cases done
    · rintro ⟨index, may, -⟩
      exact absurd may (none index)
  arrived := fun done => nomatch done
  turnedAway := fun _ => { unchanged_reject b with outlet := rfl, walker := rfl }

/-- Where one cell is legal its record decides. -/
theorem byLaw_commit (only : ∀ other, legal other ↔ other = index) :
    b.ByLaw legal (b.commit index) := by
  have answer : ∀ done, (b.machine.execute index).1 = done →
      (done = true ↔ ∃ other, legal other ∧ (b.machine.execute other).1 = true) := by
    rintro done rfl
    constructor
    · intro enters
      exact ⟨index, (only index).2 rfl, enters⟩
    · rintro ⟨other, may, enters⟩
      rwa [(only other).1 may] at enters
  unfold commit Machine.jump
  cases executed : b.machine.execute index with
  | mk done m =>
    have law := answer done (congrArg Prod.fst executed)
    cases done with
    | false =>
      obtain rfl := Machine.execute_refused executed
      exact
        { answer := law
          arrived := fun done => nomatch done
          turnedAway := fun _ => { toUnchanged := ⟨rfl, rfl, rfl⟩, outlet := rfl, walker := rfl } }
    | true =>
      refine { answer := law, arrived := fun _ other may => ?_, turnedAway := fun done => nomatch done }
      obtain rfl := (only other).1 may
      have shape := Machine.sameShape_execute b.machine other
      rw [executed] at shape
      have on : m.grid.contains other = true := by
        rw [shape.grid]
        exact Machine.contains_of_execute executed
      exact
        { memory := (Machine.memory_arrived on).trans (by rw [executed])
          outlet := by rw [executed]; rfl
          history := rfl
          walker := rfl }

/-- A legal move tries the neighbour. -/
theorem attemptMove_eq_commit {direction : Int} (may : b.MayMove direction index) :
    b.attemptMove direction = b.commit index := by
  rw [attemptMove, if_pos (allows_iff.2 may.allowed), may.target]

/-- A move goes by the law, with the exits and the grid to say what is legal. -/
theorem byLaw_attemptMove (b : Bench) (direction : Int) :
    b.ByLaw (b.MayMove direction) (b.attemptMove direction) := by
  by_cases allowed : b.allows direction = true
  · cases found : b.target b.machine.ip direction with
    | none =>
      rw [attemptMove, if_pos allowed, found]
      apply byLaw_reject
      intro index may
      rw [may.target] at found
      cases found
    | some index =>
      rw [attemptMove_eq_commit ⟨allows_iff.1 allowed, found⟩]
      apply byLaw_commit
      intro other
      constructor
      · intro may
        exact Option.some.inj (may.target.symm.trans found)
      · rintro rfl
        exact ⟨allows_iff.1 allowed, found⟩
  · rw [attemptMove, if_neg allowed]
    apply byLaw_reject
    intro index may
    exact allowed (allows_iff.2 may.allowed)

theorem mayJump_iff :
    (b.machine.grid.contains index && index != b.machine.ip) = true ↔ b.MayJump index := by
  rw [Bool.and_eq_true, bne_iff_ne]
  exact ⟨fun both => ⟨both.1, both.2⟩, fun may => ⟨may.inside, may.other⟩⟩

theorem jumpTo_eq_commit (may : b.MayJump index) : b.jumpTo index = b.commit index :=
  if_pos (mayJump_iff.2 may)

/-- A jump goes by the same law, and only another cell of the grid is legal. -/
theorem byLaw_jumpTo (b : Bench) (goal : Int) :
    b.ByLaw (fun index => index = goal ∧ b.MayJump index) (b.jumpTo goal) := by
  by_cases may : b.MayJump goal
  · rw [jumpTo_eq_commit may]
    apply byLaw_commit
    intro other
    constructor
    · exact And.left
    · rintro rfl
      exact ⟨rfl, may⟩
  · rw [jumpTo, if_neg fun both => may (mayJump_iff.1 both)]
    apply byLaw_reject
    rintro index ⟨rfl, jump⟩
    exact may jump

/-- Moves and jumps go by the law, from any memory and in any direction, and where both may lead to the
same cell they are the same. -/
theorem walks_go_by_law (b : Bench) :
    (∀ direction, b.ByLaw (b.MayMove direction) (b.attemptMove direction)) ∧
      (∀ goal, b.ByLaw (fun index => index = goal ∧ b.MayJump index) (b.jumpTo goal)) ∧
      ∀ direction index, b.MayMove direction index → b.MayJump index →
        b.attemptMove direction = b.jumpTo index := by
  refine ⟨b.byLaw_attemptMove, b.byLaw_jumpTo, ?_⟩
  intro direction index move jump
  rw [attemptMove_eq_commit move, jumpTo_eq_commit jump]

theorem walk_to_second_cell :
    let b := (Session.paceLoaded [1, 2, 3]).bench
    b.MayMove 1 1 ∧ b.MayJump 1 ∧ b.attemptMove 1 = b.jumpTo 1 ∧ (b.jumpTo 1).1 = true := by
  intro b
  have move : b.MayMove 1 1 := ⟨.inr (.inl (by decide)), by decide⟩
  have jump : b.MayJump 1 := ⟨by decide, by decide⟩
  have same := (walks_go_by_law b).2.2 1 1 move jump
  exact ⟨move, jump, same, by decide⟩

end Bench

end CellWalk
