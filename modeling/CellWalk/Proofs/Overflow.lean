import CellWalk.Proofs.Assembly.Assembling
import CellWalk.Proofs.Stacking

/-!
# The stack in the program

Nothing stops a push from leaving the stack: its slots run on through the byte below the program into the
records, four to a cell. So a push changes exactly one field of one record, once the stack has grown so far
and as long as its slot lies inside memory (`push_overflows`).
-/

namespace CellWalk.Machine
set_option autoImplicit false

variable {m n : Machine} {index field : Int}

/-- There is such a field of a record. -/
structure OnRecord (m : Machine) (index field : Int) : Prop where
  cell : m.grid.contains index = true
  low : 0 ≤ field
  high : field < Instruction.width

theorem OnRecord.fetch_eq (on : m.OnRecord index field) :
    m.fetch index field = m.reg (fieldAddress index field) :=
  fetch_of_contains on.cell on.low on.high

theorem fetch_of_not_onRecord (off : ¬m.OnRecord index field) : m.fetch index field = 0 := by
  rw [fetch, if_neg]
  intro on
  simp only [Bool.and_eq_true, decide_eq_true_eq] at on
  exact off ⟨on.1, on.2.1, on.2.2⟩

/-- A field is read alike where its byte is, and nothing is read where it has none. -/
theorem fetch_congr_of_reg (grid : n.grid = m.grid)
    (same : m.OnRecord index field →
      n.reg (fieldAddress index field) = m.reg (fieldAddress index field)) :
    n.fetch index field = m.fetch index field := by
  by_cases on : m.OnRecord index field
  · have on' : n.OnRecord index field := ⟨by rw [grid]; exact on.cell, on.low, on.high⟩
    rw [on'.fetch_eq, on.fetch_eq, same on]
  · have off : ¬n.OnRecord index field := fun on' =>
      on ⟨by rw [← grid]; exact on'.cell, on'.low, on'.high⟩
    rw [fetch_of_not_onRecord off, fetch_of_not_onRecord on]

/-- A field of a record lies in memory, above the registers and the stack. -/
theorem OnRecord.address (on : m.OnRecord index field) (sized : m.Sized) :
    ∃ a : Nat, fieldAddress index field = a ∧ programBase ≤ a ∧ a < m.memory.length := by
  have bounds := Grid.contains_iff.1 on.cell
  have low := on.low
  have high := on.high
  have length : m.memory.length = programBase + m.grid.cells * Instruction.width := sized
  unfold fieldAddress Instruction.width at *
  exact ⟨(programBase + index * 4 + field : Int).toNat, by omega, by omega, by omega⟩

/-- Four slots make up the records from the fifteenth one on. -/
theorem fieldAddress_eq_slot_iff (low : 0 ≤ field) (high : field < Instruction.width) {k : Nat}
    (above : 14 ≤ k) :
    fieldAddress index field = slot k ↔
      index = ((k - 14) / 4 : Nat) ∧ field = ((k - 14) % 4 : Nat) := by
  unfold fieldAddress slot programBase stackBase Instruction.width at *
  omega

/-- The field that lies in a slot is there if the slot is. -/
theorem onRecord_slot (sized : m.Sized) {k : Nat} (above : 14 ≤ k) (inside : slot k < m.memory.length) :
    m.OnRecord ((k - 14) / 4 : Nat) ((k - 14) % 4 : Nat) := by
  rw [sized] at inside
  unfold slot sizeFor programBase stackBase Instruction.width at inside
  refine ⟨Grid.contains_iff.2 ⟨by omega, by omega⟩, by omega, ?_⟩
  unfold Instruction.width
  omega

theorem fetch_push_slot (sized : m.Sized) (on : m.OnRecord index field)
    (here : fieldAddress index field = slot (m.get .sp).toNat) (v : Int) :
    (m.push v).fetch index field = clampByte v := by
  have still : (m.push v).OnRecord index field := ⟨on.cell, on.low, on.high⟩
  obtain ⟨a, place, -, inside⟩ := on.address sized
  have slotInside : slot (m.get .sp).toNat < m.memory.length := by omega
  rw [still.fetch_eq, here]
  exact reg_slot_push slotInside v

/-- A push reaches no field but the one in its slot. -/
theorem fetch_push_of_ne (sized : m.Sized)
    (elsewhere : m.OnRecord index field → fieldAddress index field ≠ slot (m.get .sp).toNat) (v : Int) :
    (m.push v).fetch index field = m.fetch index field := by
  apply fetch_congr_of_reg (sameShape_push m v).grid
  intro on
  have notSlot := elsewhere on
  have notSp := address_lt .sp
  obtain ⟨a, place, above, -⟩ := on.address sized
  rw [place] at notSlot ⊢
  exact reg_push_of_ne m (by omega) (by omega) v

/-- The fields of a record in the order of its bytes. -/
theorem toBytes_instruction (m : Machine) (index : Int) :
    (m.instruction index).toBytes =
      (List.range Instruction.width).map fun i : Nat => m.fetch index i := rfl

theorem instruction_congr (same : ∀ field, n.fetch index field = m.fetch index field) :
    n.instruction index = m.instruction index := by
  simp only [instruction, same]

/-- A record that differs from another in one field. -/
theorem toBytes_instruction_set {i : Nat} {b : UInt8}
    (here : n.fetch index i = b)
    (others : ∀ field : Int, field ≠ i → n.fetch index field = m.fetch index field) :
    (n.instruction index).toBytes = (m.instruction index).toBytes.set i b := by
  rw [toBytes_instruction, toBytes_instruction]
  apply List.ext_getElem
  · simp
  intro j inside _
  rw [List.length_map, List.length_range] at inside
  rw [List.getElem_set, List.getElem_map, List.getElem_map, List.getElem_range]
  split
  · rename_i same
    rw [← same, here]
  · rename_i other
    exact others j (by omega)

/-- A record is what its four bytes in memory are read as. -/
theorem ofBytes?_memory (sized : m.Sized) {n : Nat} (on : n < m.grid.cells) :
    Instruction.ofBytes? (m.memory.drop (Assembly.recordAddress n)) = some (m.instruction n) := by
  have fits : Assembly.recordAddress n + Instruction.width ≤ m.memory.length := by
    rw [sized]
    unfold Assembly.recordAddress sizeFor Instruction.width
    omega
  obtain ⟨r, read, bytes⟩ := Assembly.ofBytes?_drop fits
  rw [read, instruction_of_bytes on fun i field => (bytes i field).symm]

/-- With `k` values on the stack, a push changes no record if its slot lies below the program or beyond
memory. Otherwise it sets field `(k - 14) % 4` of cell `(k - 14) / 4` to the clamped value, as told by
the field itself and by the record in memory, and leaves all other fields and cells, and below the program
all but the pointer. The pointer goes up by one and stops at 255. -/
theorem push_overflows (m : Machine) (sized : m.Sized) (v : Int) :
    let k := (m.get .sp).toNat
    (k ≤ 13 ∨ m.memory.length ≤ slot k →
      ∀ index, (m.push v).instruction index = m.instruction index) ∧
    (¬(k ≤ 13 ∨ m.memory.length ≤ slot k) →
      let cell := (k - 14) / 4
      let field := (k - 14) % 4
      m.grid.contains cell = true ∧ (m.push v).fetch cell field = clampByte v ∧
        ((m.push v).instruction cell).toBytes =
          (m.instruction cell).toBytes.set field (clampByte v) ∧
        Instruction.ofBytes? ((m.push v).memory.drop (Assembly.recordAddress cell)) =
          some ((m.push v).instruction cell) ∧
        (∀ index other : Int, ¬(index = cell ∧ other = field) →
          (m.push v).fetch index other = m.fetch index other) ∧
        (∀ index : Int, index ≠ cell → (m.push v).instruction index = m.instruction index) ∧
        ∀ a < programBase, a ≠ Register.sp.address → (m.push v).reg a = m.reg a) ∧
    ((m.push v).get .sp).toNat = min 255 (k + 1) := by
  intro k
  refine ⟨fun spared index => ?_, fun reached => ?_, get_sp_push sized v⟩
  · apply instruction_congr
    intro field
    apply fetch_push_of_ne sized
    intro on
    obtain ⟨a, place, above, inside⟩ := on.address sized
    unfold slot stackBase at *
    unfold programBase at above
    omega
  · intro cell field
    have above : 14 ≤ k := by omega
    have inside : slot k < m.memory.length := by omega
    have on : m.OnRecord cell field := onRecord_slot sized above inside
    have here : fieldAddress cell field = slot k :=
      (fieldAddress_eq_slot_iff on.low on.high above).2 ⟨rfl, rfl⟩
    have written := fetch_push_slot sized on here v
    have others : ∀ index other : Int, ¬(index = cell ∧ other = field) →
        (m.push v).fetch index other = m.fetch index other := by
      intro index other apart
      apply fetch_push_of_ne sized
      intro on' same
      exact apart ((fieldAddress_eq_slot_iff on'.low on'.high above).1 same)
    refine ⟨on.cell, written, ?_, ?_, others, fun index apart => ?_, fun a low notSp => ?_⟩
    · apply toBytes_instruction_set written
      intro other apart
      exact others cell other fun both => apart both.2
    · apply ofBytes?_memory ((sameShape_push m v).sized sized)
      have bounds := Grid.contains_iff.1 on.cell
      exact Int.ofNat_lt.1 bounds.2
    · apply instruction_congr
      intro other
      exact others index other fun both => apart both.1
    · apply reg_push_of_ne m _ notSp
      unfold slot programBase stackBase at *
      omega

/-- The twentieth value is pushed into the operand of the second cell; with the pointer at its end a value
falls beyond memory. -/
theorem push_into_second_cell :
    let reaching := nearlyFull.set .sp 19
    let spared := nearlyFull.set .sp 255
    (reaching.push 300).fetch 1 1 = clampByte 300 ∧
      ((reaching.push 300).instruction 1).toBytes = [1, 255, 0, 0] ∧
      (reaching.push 300).instruction 0 = reaching.instruction 0 ∧
      ((reaching.push 300).get .sp).toNat = 20 ∧
      (spared.push 300).instruction 1 = spared.instruction 1 ∧ ((spared.push 300).get .sp).toNat = 255 := by
  intro reaching spared
  obtain ⟨-, reached, pointer⟩ := push_overflows reaching rfl 300
  obtain ⟨-, field, record, -, -, others, -⟩ := reached (by decide)
  obtain ⟨kept, -, saturated⟩ := push_overflows spared rfl 300
  have depth : (reaching.get .sp).toNat = 19 := by decide
  rw [depth] at field record
  exact ⟨field, record.trans (by decide), others 0 (by decide), pointer, kept (.inr (by decide)) 1,
    saturated⟩

end CellWalk.Machine
