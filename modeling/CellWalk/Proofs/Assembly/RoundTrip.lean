import CellWalk.Assembly.Program
import CellWalk.Proofs.Assembly.Completeness
import CellWalk.Proofs.Assembly.Lines
import Mathlib.Data.List.GetD

/-!
# Listings are programs

A listing is read as the image that it was made of, with its id and goals (`assemble_disassemble`).
Line by line it adds statements to a program, and the invariant is which bytes have been told so
far: these are the image's, all others are still 0 (`Told`).
-/

namespace CellWalk.Assembly
set_option autoImplicit false
open Grammar

/-! Lines and what they make of a program. -/

/-- The lines with their line feeds. -/
def textOf (lines : List Text) : Text := lines.flatMap (· ++ [Text.newline])

theorem textOf_append (first second : List Text) :
    textOf (first ++ second) = textOf first ++ textOf second := List.flatMap_append

theorem textOf_cons (line : Text) (lines : List Text) :
    textOf (line :: lines) = line ++ Text.newline :: textOf lines := by
  rw [textOf, List.flatMap_cons, List.append_assoc]
  rfl

section carries
variable [CharacterNames] {cols rows : Int} {P Q R : Build → Prop}

/-- The statements of some lines, whatever follows them, make the second build of the first. -/
def Adds (cols rows : Int) (lines : List Text) (b b' : Build) : Prop :=
  ∀ rest ss, Spells ascii rest ss → ∃ ss', Spells ascii (textOf lines ++ rest) ss' ∧
    ss'.foldlM (Build.add cols rows) b = ss.foldlM (Build.add cols rows) b'

/-- From a build of the first kind some lines lead to one of the second kind. -/
def Carries (cols rows : Int) (P : Build → Prop) (lines : List Text) (Q : Build → Prop) : Prop :=
  ∀ b, P b → ∃ b', Adds cols rows lines b b' ∧ Q b'

theorem carries_nil (imp : ∀ b, P b → Q b) : Carries cols rows P [] Q :=
  fun b holds => ⟨b, fun _ ss spells => ⟨ss, spells, rfl⟩, imp b holds⟩

/-- Lines that carry a build on are read one after the other. -/
theorem Carries.append {first second : List Text} (one : Carries cols rows P first Q)
    (two : Carries cols rows Q second R) : Carries cols rows P (first ++ second) R := by
  intro b holds
  obtain ⟨b', adds, holds'⟩ := one b holds
  obtain ⟨b'', adds', holds''⟩ := two b' holds'
  refine ⟨b'', ?_, holds''⟩
  intro rest ss spells
  obtain ⟨ss', spells', run'⟩ := adds' rest ss spells
  obtain ⟨ss'', spells'', run''⟩ := adds _ ss' spells'
  refine ⟨ss'', ?_, run''.trans run'⟩
  rw [textOf_append, List.append_assoc]
  exact spells''

theorem Carries.imp {lines : List Text} (run : Carries cols rows P lines Q)
    (imp : ∀ b, Q b → R b) : Carries cols rows P lines R := by
  intro b holds
  obtain ⟨b', adds, holds'⟩ := run b holds
  exact ⟨b', adds, imp b' holds'⟩

/-- A line that spells one statement does what the statement does. -/
theorem carries_line {line : Text}
    (step : ∀ b, P b → ∃ b', Q b' ∧ ∀ rest, ∃ s,
      Phrase ascii (line ++ Text.newline :: rest) s (Text.newline :: rest) ∧
        b.add cols rows s = .ok b') : Carries cols rows P [line] Q := by
  intro b holds
  obtain ⟨b', holds', told⟩ := step b holds
  refine ⟨b', ?_, holds'⟩
  intro rest ss spells
  obtain ⟨s, phrase, added⟩ := told rest
  refine ⟨s :: ss, ?_, ?_⟩
  · rw [textOf_cons, List.append_assoc]
    exact .cons phrase (spells.behind (.blank (by decide) (.none _)))
  · rw [List.foldlM_cons, added]
    rfl

/-- Line by line, a build is carried through all cells. -/
theorem carries_range {I : Nat → Build → Prop} {line : Nat → List Text} {k : Nat}
    (step : ∀ n < k, Carries cols rows (I n) (line n) (I (n + 1))) :
    Carries cols rows (I 0) ((List.range k).flatMap line) (I k) := by
  induction k with
  | zero => exact carries_nil fun _ holds => holds
  | succ k ih =>
    have last := step k (Nat.lt_succ_self k)
    rw [List.range_succ, List.flatMap_append, List.flatMap_singleton]
    exact (ih fun n bound => step n (Nat.lt_succ_of_lt bound)).append last

end carries

/-! Bytes told so far. -/

/-- Inside memory the new bytes are read where they lie, and elsewhere the old ones. -/
theorem getD_overlay (m : Image) (address a : Nat) (bs : List UInt8) :
    (overlay m address bs).getD a 0 =
      if address ≤ a ∧ a < address + bs.length ∧ a < m.length then bs.getD (a - address) 0
      else m.getD a 0 := by
  induction bs generalizing m address with
  | nil =>
    rw [overlay, if_neg]
    simp only [List.length_nil]
    omega
  | cons b bs ih =>
    rw [overlay, ih, List.length_set, List.length_cons]
    by_cases first : a = address
    · subst first
      rw [if_neg (by omega)]
      by_cases inside : a < m.length
      · rw [if_pos (by omega)]
        simp [List.getD_eq_getElem?_getD, inside]
      · rw [if_neg (by omega)]
        simp [List.getD_eq_getElem?_getD, inside]
    · have unchanged : (m.set address b).getD a 0 = m.getD a 0 := by
        simp [List.getD_eq_getElem?_getD, List.getElem?_set_ne (Ne.symm first)]
      rw [unchanged]
      by_cases inside : address ≤ a ∧ a < address + (bs.length + 1) ∧ a < m.length
      · obtain ⟨low, high, fits⟩ := inside
        obtain ⟨k, rfl⟩ : ∃ k, a = address + 1 + k := ⟨a - address - 1, by omega⟩
        rw [if_pos (by omega), if_pos (by omega)]
        rw [show address + 1 + k - address = k + 1 by omega, List.getD_cons_succ]
        congr 1
        omega
      · rw [if_neg (by omega), if_neg inside]

/-- A program under construction has its id and goals, the image's bytes where they have been told,
zeros elsewhere, and no cell that has not been told. -/
structure Told (m : Image) (id : Option Text) (goals : Option (Nat × Nat × Nat)) (told : Nat → Prop)
    (b : Build) : Prop where
  id : b.program.id = id
  goals : b.program.goals = goals
  size : b.program.memory.length = m.length
  bytes : ∀ a, told a → b.program.memory.getD a 0 = m.getD a 0
  zeros : ∀ a, ¬ told a → b.program.memory.getD a 0 = 0
  cells : ∀ c ∈ b.cells, told (recordAddress c)

section told
variable {m : Image} {id : Option Text} {goals : Option (Nat × Nat × Nat)} {told : Nat → Prop}
  {b : Build}

/-- The addresses told when some from an address on have been told as well. -/
def further (told : Nat → Prop) (address count : Nat) (a : Nat) : Prop :=
  told a ∨ (address ≤ a ∧ a < address + count)

/-- Bytes that agree with the image's, but for zeros at the end, are told by writing them. -/
theorem Told.overlay (holds : Told m id goals told b) {address count : Nat} (bs : List UInt8)
    (few : bs.length ≤ count) (fits : address + count ≤ m.length)
    (same : ∀ i < count, bs.getD i 0 = m.getD (address + i) 0) :
    Told m id goals (further told address count)
      (b.withMemory (overlay b.program.memory address bs)) := by
  have size := holds.size
  refine ⟨holds.id, holds.goals, ?_, ?_, ?_, fun c member => .inl (holds.cells c member)⟩
  · rw [Build.withMemory, length_overlay]
    exact size
  · intro a known
    change (Assembly.overlay b.program.memory address bs).getD a 0 = m.getD a 0
    rw [getD_overlay]
    split
    next inside =>
      rw [same _ (by omega)]
      congr 1
      omega
    next outside =>
      by_cases before : told a
      · exact holds.bytes a before
      · rcases known with before' | inside
        · exact absurd before' before
        · have beyond := same (a - address) (by omega)
          rw [List.getD_eq_default _ _ (by omega), Nat.add_sub_cancel' inside.1] at beyond
          rw [holds.zeros a before]
          exact beyond
  · intro a unknown
    have outside : ¬(address ≤ a ∧ a < address + count) := fun inside => unknown (.inr inside)
    change (Assembly.overlay b.program.memory address bs).getD a 0 = 0
    rw [getD_overlay, if_neg (by omega)]
    exact holds.zeros a fun known => unknown (.inl known)

/-- What has been told is a matter of addresses only. -/
theorem Told.congr {told' : Nat → Prop} (same : ∀ a, told a ↔ told' a)
    (holds : Told m id goals told b) : Told m id goals told' b := by
  have equal : told = told' := funext fun a => propext (same a)
  exact equal ▸ holds

/-- Zeros need not be told. -/
theorem Told.zeros_told (holds : Told m id goals told b) {address count : Nat}
    (fits : address + count ≤ m.length) (zero : ∀ i < count, m.getD (address + i) 0 = 0) :
    Told m id goals (further told address count) b :=
  holds.overlay [] (Nat.zero_le _) fits fun i bound => (zero i bound).symm

/-- At first nothing has been told, and every byte is 0. -/
theorem told_empty (m : Image) : Told m none none (fun _ => False) (Build.empty m.length) := by
  refine ⟨rfl, rfl, List.length_replicate, fun a known => known.elim, fun a _ => ?_,
    fun c member => absurd member List.not_mem_nil⟩
  simp [Build.empty, Image.blank, List.getD_eq_getElem?_getD, List.getElem?_replicate]
  split <;> rfl

/-- An image all of whose bytes have been told is there. -/
theorem Told.memory_eq (holds : Told m id goals told b) (all : ∀ a < m.length, told a) :
    b.program.memory = m := by
  refine List.ext_getElem holds.size fun a inside inside' => ?_
  have same := holds.bytes a (all a inside')
  rwa [List.getD_eq_getElem _ _ inside, List.getD_eq_getElem _ _ inside'] at same

/-! The lines of the memory. -/

variable {cols rows : Int}

/-- A byte that is not 0 has a line; one that is 0 needs none. -/
theorem carries_byte [CharacterNames] {address : Nat} {line : Text} (fits : address < m.length)
    (spelled : ∀ rest, ∃ left, Phrase ascii (line ++ Text.newline :: rest)
      (.byte address (m.getD address 0) left) (Text.newline :: rest)) :
    Carries cols rows (Told m id goals told) (if m.getD address 0 = 0 then [] else [line])
      (Told m id goals (further told address 1)) := by
  have first : ∀ i < 1, address + i = address := by omega
  split
  next zero =>
    exact carries_nil fun b holds => holds.zeros_told fits fun i bound => by rw [first i bound, zero]
  next =>
    refine carries_line fun b holds => ⟨_, holds.overlay [m.getD address 0] (Nat.le_refl 1)
      fits fun i bound => ?_, fun rest => ?_⟩
    · obtain rfl : i = 0 := by omega
      rfl
    · obtain ⟨left, phrase⟩ := spelled rest
      refine ⟨_, phrase, ?_⟩
      rw [Build.add, if_pos (by rw [holds.size]; exact fits)]
      rfl

/-- Lines for single bytes tell them one after the other. -/
theorem carries_bytes [CharacterNames] {α : Type} (address : α → Nat) {line : α → List Text} (xs : List α)
    (told : Nat → Prop) (each : ∀ told, ∀ x ∈ xs, Carries cols rows (Told m id goals told)
      (line x) (Told m id goals (further told (address x) 1))) :
    Carries cols rows (Told m id goals told) (xs.flatMap line)
      (Told m id goals fun a => told a ∨ a ∈ xs.map address) := by
  induction xs generalizing told with
  | nil => exact carries_nil fun b holds => holds.congr fun a => by simp
  | cons x xs ih =>
    have others := ih (further told (address x) 1) fun told y member =>
      each told y (List.mem_cons_of_mem x member)
    refine ((each told x List.mem_cons_self).append others).imp fun b holds => holds.congr fun a => ?_
    have single : address x ≤ a ∧ a < address x + 1 ↔ a = address x := by omega
    rw [further, single, List.map_cons, List.mem_cons, or_assoc]

/-- All registers but the stack are told by name. -/
theorem carries_registers [CharacterNames] (large : programBase ≤ m.length) :
    Carries cols rows (Told m id goals told) (registerLines m)
      (Told m id goals fun a => told a ∨ a ∈ Register.plain.map Register.address) := by
  have below : ∀ r ∈ Register.plain, r.address < programBase := by decide
  refine carries_bytes _ _ told fun told r member =>
    carries_byte ?_ fun rest => phrase_register ?_ _ rest
  · exact Nat.lt_of_lt_of_le (below r member) large
  · rintro rfl
    exact absurd member (by decide)

/-- The bytes that no register and no cell has are told by offset. -/
theorem carries_loose [CharacterNames] (large : programBase ≤ m.length) :
    Carries cols rows (Told m id goals told) (looseLines m)
      (Told m id goals fun a => told a ∨ a ∈ looseOffsets) := by
  have below : ∀ a ∈ looseOffsets, a < programBase := by decide
  have run : Carries cols rows (Told m id goals told) (looseLines m)
      (Told m id goals fun a => told a ∨ a ∈ looseOffsets.map fun a => a) :=
    carries_bytes _ _ told fun told a member =>
      carries_byte (Nat.lt_of_lt_of_le (below a member) large) fun rest =>
        phrase_byte (Nat.le_trans (Nat.le_of_lt (below a member)) (by decide)) _ rest
  rw [List.map_id'] at run
  exact run

/-- No more values are listed than the stack has slots. -/
theorem length_usedStack_le (m : Image) : (usedStack m).length ≤ stackSlots := by
  have fewer : (((m.drop stackBase).take stackSlots).reverse.dropWhile (· == 0)).length ≤ _ :=
    (List.dropWhile_sublist _).length_le
  rw [List.length_reverse] at fewer
  rw [usedStack, List.length_reverse]
  exact Nat.le_trans fewer (List.length_take_le _ _)

/-- The slots after the used ones hold 0. -/
theorem getD_usedStack (m : Image) {i : Nat} (slot : i < stackSlots) :
    (usedStack m).getD i 0 = m.getD (stackBase + i) 0 := by
  let slots := (m.drop stackBase).take stackSlots
  let unused := (slots.reverse.takeWhile (· == 0)).reverse
  have whole : usedStack m ++ unused = slots := by
    rw [usedStack, ← List.reverse_append, List.takeWhile_append_dropWhile, List.reverse_reverse]
  have zero : ∀ b ∈ unused, b = 0 := by
    intro b member
    exact eq_of_beq (List.all_eq_true.1 List.all_takeWhile b (List.mem_reverse.1 member))
  have inSlots : m.getD (stackBase + i) 0 = slots.getD i 0 := by
    simp [slots, List.getD_eq_getElem?_getD, slot]
  rw [inSlots, ← whole]
  by_cases used : i < (usedStack m).length
  · rw [List.getD_append _ _ _ _ used]
  · rw [List.getD_eq_default _ _ (by omega), List.getD_append_right _ _ _ _ (by omega)]
    generalize i - (usedStack m).length = k
    by_cases inside : k < unused.length
    · rw [List.getD_eq_getElem _ _ inside, zero _ (List.getElem_mem inside)]
    · rw [List.getD_eq_default _ _ (by omega)]

/-- The stack is told up to its last value that is not 0. -/
theorem carries_stack [CharacterNames] (large : programBase ≤ m.length) :
    Carries cols rows (Told m id goals told) (stackLines m)
      (Told m id goals (further told stackBase stackSlots)) := by
  have fits : stackBase + stackSlots ≤ m.length := Nat.le_trans (by decide) large
  have same : ∀ i < stackSlots, (usedStack m).getD i 0 = m.getD (stackBase + i) 0 :=
    fun _ slot => getD_usedStack m slot
  have few := length_usedStack_le m
  rw [stackLines]
  generalize usedStack m = values at same few
  split
  next => exact carries_nil fun b holds => holds.zeros_told fits fun i slot => (same i slot).symm
  next =>
    refine carries_line fun b holds => ⟨_, holds.overlay values few fits same, fun rest => ?_⟩
    refine ⟨_, phrase_stack few rest, ?_⟩
    rw [Build.add, if_pos (.inr (by rw [holds.size]; omega))]

/-! The lines of the cells. -/

/-- A record inside memory is made of the four bytes there. -/
theorem ofBytes?_drop {m : Image} {a : Nat} (fits : a + Instruction.width ≤ m.length) :
    ∃ r, Instruction.ofBytes? (m.drop a) = some r ∧
      ∀ i < Instruction.width, r.toBytes.getD i 0 = m.getD (a + i) 0 := by
  have inDrop : ∀ i, m.getD (a + i) 0 = (m.drop a).getD i 0 := by
    intro i
    simp [List.getD_eq_getElem?_getD]
  have long : Instruction.width ≤ (m.drop a).length := by
    rw [List.length_drop]
    omega
  generalize m.drop a = bytes at inDrop long
  match bytes, long with
  | w :: x :: y :: z :: _, _ =>
    refine ⟨⟨w, x, y, z⟩, rfl, ?_⟩
    intro i bound
    rw [inDrop]
    match i, bound with
    | 0, _ | 1, _ | 2, _ | 3, _ => rfl

/-- A cell on the grid that has not been given is added with its record. -/
theorem addCell_eq {position : Position} {index : Int} {record : Instruction}
    (inside : position.index cols rows = .ok index) (fresh : index ∉ b.cells) :
    b.addCell cols rows position record =
      .ok { b.withMemory (overlay b.program.memory (recordAddress index) record.toBytes) with
        cells := index :: b.cells } := by
  rw [Build.addCell, inside]
  simp only [bind, Except.bind, if_neg fresh]
  rfl

/-- A cell whose record has been told may be among the cells. -/
theorem Told.cell (holds : Told m id goals told b) (index : Int) (known : told (recordAddress index)) :
    Told m id goals told { b with cells := index :: b.cells } := by
  refine ⟨holds.id, holds.goals, holds.size, holds.bytes, holds.zeros, fun c member => ?_⟩
  rcases List.mem_cons.1 member with rfl | member
  · exact known
  · exact holds.cells c member

/-- Row and column of a cell lead back to it. -/
theorem index_grid {c r n : Nat} (inside : n < c * r) :
    (Position.grid (n / c) (n % c)).index c r = .ok (n : Int) := by
  have wide : 0 < c := Nat.pos_of_mul_pos_right (Nat.lt_of_le_of_lt (Nat.zero_le n) inside)
  have row : n / c < r := Nat.div_lt_of_lt_mul inside
  have col := Nat.mod_lt n wide
  have whole := Nat.div_add_mod' n c
  rw [Position.index, if_neg (by omega)]
  congr 1
  exact_mod_cast whole

/-- All bytes below the record of a cell. -/
def belowCell (n a : Nat) : Prop := a < programBase + n * Instruction.width

/-- The line of a cell tells its four bytes; a blank cell has none and is blank anyway. -/
theorem carries_cell [CharacterNames] {c r n : Nat} (inside : n < c * r) (held : m.length ≤ Size.addresses)
    (size : m.length = programBase + c * r * Instruction.width) :
    Carries c r (Told m id goals (belowCell n)) (cellLines m c n)
      (Told m id goals (belowCell (n + 1))) := by
  have next : n * Instruction.width + Instruction.width ≤ c * r * Instruction.width := by
    rw [← Nat.succ_mul]
    exact Nat.mul_le_mul_right _ inside
  have fits : programBase + n * Instruction.width + Instruction.width ≤ m.length := by omega
  have reached : ∀ a, further (belowCell n) (programBase + n * Instruction.width) Instruction.width a ↔
      belowCell (n + 1) a := by
    intro a
    rw [further, belowCell, belowCell, Nat.succ_mul]
    omega
  obtain ⟨record, holdsRecord, same⟩ := ofBytes?_drop fits
  rw [cellLines, holdsRecord]
  dsimp only
  split
  next blank =>
    subst blank
    refine carries_nil fun b holds => (holds.zeros_told fits fun i bound => ?_).congr reached
    rw [← same i bound]
    match i, bound with
    | 0, _ | 1, _ | 2, _ | 3, _ => rfl
  next =>
    have before : n ≤ n * Instruction.width := Nat.le_mul_of_pos_right n (by decide)
    have small : n ≤ Size.addresses := by omega
    refine carries_line fun b holds => ?_
    have fresh : (n : Int) ∉ b.cells := by
      intro member
      have known := holds.cells n member
      rw [belowCell, recordAddress, Int.toNat_natCast] at known
      omega
    have told := (holds.overlay record.toBytes (Nat.le_refl _) fits same).congr reached
    refine ⟨_, told.cell n ?_, fun rest => ?_⟩
    · rw [belowCell, recordAddress, Int.toNat_natCast, Nat.succ_mul]
      exact Nat.add_lt_add_left (Nat.lt_add_of_pos_right (by decide)) _
    · obtain ⟨left, phrase⟩ := phrase_cellAt small c record rest
      refine ⟨_, phrase, ?_⟩
      rw [Build.add, addCell_eq (index_grid inside) fresh]
      rfl

/-- The lines of the memory. -/
def memoryLines (m : Image) (c r : Nat) : List Text :=
  registerLines m ++ looseLines m ++ stackLines m ++ (List.range (c * r)).flatMap (cellLines m c)

/-- They tell all bytes. -/
theorem carries_memory [CharacterNames] {c r : Nat} (held : m.length ≤ Size.addresses)
    (size : m.length = programBase + c * r * Instruction.width) :
    Carries c r (Told m id goals fun _ => False) (memoryLines m c r)
      (Told m id goals (belowCell (c * r))) := by
  have large : programBase ≤ m.length := by omega
  have partition : ∀ a, further (fun a => (False ∨ a ∈ Register.plain.map Register.address) ∨
      a ∈ looseOffsets) stackBase stackSlots a ↔ belowCell 0 a := by
    intro a
    simp [further, belowCell, Register.plain, Register.address, Register.offset, looseOffsets,
      stackBase, stackSlots, programBase]
    omega
  have cells := carries_range (I := fun n => Told m id goals (belowCell n)) fun n inside =>
    carries_cell (c := c) (r := r) inside held size
  have low : Carries c r (Told m id goals fun _ => False)
      (registerLines m ++ looseLines m ++ stackLines m) (Told m id goals (belowCell 0)) :=
    (((carries_registers large).append (carries_loose large)).append (carries_stack large)).imp
      fun b holds => Told.congr partition holds
  exact low.append cells

/-! The lines of the heading. -/

theorem carries_id [CharacterNames] {name : Text} (nonempty : name ≠ []) (named : ∀ p ∈ name, InName p) :
    Carries cols rows (Told m none goals told) [Text.ofString ".id " ++ name]
      (Told m (some name) goals told) :=
  carries_line fun b holds => ⟨{ b with program := { b.program with id := some name } },
    ⟨rfl, holds.goals, holds.size, holds.bytes, holds.zeros, holds.cells⟩,
    fun rest => ⟨_, phrase_id nonempty named rest, rfl⟩⟩

theorem carries_goals [CharacterNames] {gold silver bronze : Nat}
    (gold_ : (Decimal.ofNat gold).length ≤ Decimal.maxDigits)
    (silver_ : (Decimal.ofNat silver).length ≤ Decimal.maxDigits)
    (bronze_ : (Decimal.ofNat bronze).length ≤ Decimal.maxDigits) :
    Carries cols rows (Told m id none told)
      [Text.joinWords [Text.ofString ".cycles", Decimal.ofNat gold, Decimal.ofNat silver,
        Decimal.ofNat bronze]] (Told m id (some (gold, silver, bronze)) told) :=
  carries_line fun b holds =>
    ⟨{ b with program := { b.program with goals := some (gold, silver, bronze) } },
      ⟨holds.id, rfl, holds.size, holds.bytes, holds.zeros, holds.cells⟩,
      fun rest => ⟨_, phrase_cycles gold_ silver_ bronze_ rest, rfl⟩⟩

/-- A label is carried in the halves that it is read as. -/
theorem carries_label [CharacterNames] (l : Text) :
    Carries cols rows (Told m id goals told) [Text.ofString ".label " ++ Json.quote l]
      (Told m id goals told) :=
  carries_line fun b holds =>
    ⟨{ b with program := { b.program with
        labels := b.program.labels ++ [l.flatMap Label.halves] } },
      ⟨holds.id, holds.goals, holds.size, holds.bytes, holds.zeros, holds.cells⟩,
      fun rest => ⟨_, phrase_label l rest, rfl⟩⟩

theorem carries_labels [CharacterNames] (labels : List Text) :
    Carries cols rows (Told m id goals told)
      (labels.map fun l => Text.ofString ".label " ++ Json.quote l) (Told m id goals told) := by
  induction labels with
  | nil => exact carries_nil fun _ holds => holds
  | cons l labels ih => exact (carries_label l).append ih

/-- Goals as a listing takes them. -/
def goalList : Option (Nat × Nat × Nat) → List Int
  | none => []
  | some (gold, silver, bronze) => [(gold : Int), (silver : Int), (bronze : Int)]

/-- A name that can be told. -/
def Named (name : Text) : Prop := name ≠ [] ∧ ∀ p ∈ name, InName p

instance (name : Text) : Decidable (Named name) :=
  inferInstanceAs (Decidable (name ≠ [] ∧ ∀ p ∈ name, InName p))

/-- Goals that can be told. -/
def Tellable (goals : Nat × Nat × Nat) : Prop :=
  (Decimal.ofNat goals.1).length ≤ Decimal.maxDigits ∧
    (Decimal.ofNat goals.2.1).length ≤ Decimal.maxDigits ∧
    (Decimal.ofNat goals.2.2).length ≤ Decimal.maxDigits

instance (goals : Nat × Nat × Nat) : Decidable (Tellable goals) :=
  inferInstanceAs (Decidable ((Decimal.ofNat goals.1).length ≤ Decimal.maxDigits ∧
    (Decimal.ofNat goals.2.1).length ≤ Decimal.maxDigits ∧
    (Decimal.ofNat goals.2.2).length ≤ Decimal.maxDigits))

/-- The lines of the heading say id and goals, and leave memory alone. -/
theorem carries_heading [CharacterNames] (named : ∀ name ∈ id, Named name)
    (tellable : ∀ g ∈ goals, Tellable g) (labels : List Text) : ∃ lines, headingLines ⟨id, goalList goals, labels⟩ = .ok lines ∧
      Carries cols rows (Told m none none told) lines (Told m id goals told) := by
  cases id with
  | none =>
    cases goals with
    | none => exact ⟨_, rfl, carries_labels labels⟩
    | some g =>
      obtain ⟨gold_, silver_, bronze_⟩ := tellable g rfl
      exact ⟨_, rfl, (carries_goals gold_ silver_ bronze_).append (carries_labels labels)⟩
  | some name =>
    obtain ⟨nonempty, inName⟩ := named name rfl
    have given : name.isEmpty = false := List.isEmpty_eq_false_iff.2 nonempty
    cases goals with
    | none =>
      refine ⟨_, ?_, (carries_id nonempty inName).append (carries_labels labels)⟩
      simp only [headingLines, given]
      rfl
    | some g =>
      obtain ⟨gold_, silver_, bronze_⟩ := tellable g rfl
      refine ⟨_, ?_, (carries_id nonempty inName).append
        ((carries_goals gold_ silver_ bronze_).append (carries_labels labels))⟩
      simp only [headingLines, given]
      rfl

end told

/-- The first line is a comment. -/
theorem titleLine_eq (cols rows : Nat) :
    titleLine cols rows = (';' : CodePoint) :: Text.ofChars (" bughop program, ".toList ++
      Nat.toDigits 10 cols ++ "x".toList ++ Nat.toDigits 10 rows) := by
  have written : ∀ n : Nat, (toString (n : Int)).toList = Nat.toDigits 10 n :=
    fun n => Nat.toList_repr
  rw [titleLine, Text.ofString]
  simp only [String.toList_append, written]
  rfl

/-- The title is a comment. -/
theorem layout_titleLine (cols rows : Nat) (t : Text) :
    Layout (titleLine cols rows ++ Text.newline :: t) t := by
  have digits : ∀ n : Nat, '\n' ∉ Nat.toDigits 10 n := fun n member =>
    absurd (Nat.isDigit_of_mem_toDigits (by decide) (by decide) member) (by decide)
  have plain : '\n' ∉ " bughop program, ".toList ++ Nat.toDigits 10 cols ++ "x".toList ++
      Nat.toDigits 10 rows := by
    simp only [List.mem_append, digits, or_false]
    decide
  rw [titleLine_eq, List.cons_append]
  refine .comment ?_ (stops_cons (fun ne => ne rfl) t) (.blank (by decide) (.none t))
  intro member
  obtain ⟨c, inTitle, same⟩ := List.mem_map.1 member
  exact plain (CodePoint.ofChar_inj.1 same ▸ inTitle)

/-- A listing is the title, the heading and the lines of memory. -/
theorem disassemble_eq {m : Image} {c r : Nat} {h : Heading} {heading : List Text}
    (size : m.length = programBase + c * r * Instruction.width)
    (headed : headingLines h = .ok heading) :
    disassemble m c r h = .ok (textOf (titleLine c r :: (heading ++ memoryLines m c r))) := by
  have cells : ((c : Int) * r).toNat = c * r := by
    rw [← Int.natCast_mul, Int.toNat_natCast]
  have sized : (m.length : Int) = memorySize c r := by
    rw [size, memorySize]
    push_cast
    rfl
  rw [disassemble, if_neg (not_not_intro sized), headed, cells]
  simp only [bind, Except.bind, pure, Except.pure, if_neg (by omega : ¬m.length < programBase)]
  simp only [textOf, memoryLines, List.cons_append, List.append_assoc]

/-- A listing of an image is assembled to that image again, with the same id and goals. An image
that is held somewhere has no more bytes than there are addresses. -/
theorem assemble_disassemble [CharacterNames] {m : Image} {cols rows : Int} (wide : 1 ≤ cols)
    (high : 1 ≤ rows) (size : (m.length : Int) = memorySize cols rows) (held : m.length ≤ Size.addresses)
    {id : Option Text} (named : ∀ name ∈ id, Named name)
    {goals : Option (Nat × Nat × Nat)} (tellable : ∀ g ∈ goals, Tellable g) (labels : List Text) :
    ∃ text program, disassemble m cols rows ⟨id, goalList goals, labels⟩ = .ok text ∧
      assemble text cols rows = .ok program ∧
        program.memory = m ∧ program.id = id ∧ program.goals = goals := by
  obtain ⟨c, rfl⟩ := Int.eq_ofNat_of_zero_le (by omega : 0 ≤ cols)
  obtain ⟨r, rfl⟩ := Int.eq_ofNat_of_zero_le (by omega : 0 ≤ rows)
  have natSize : m.length = programBase + c * r * Instruction.width := by
    rw [memorySize] at size
    exact_mod_cast size
  obtain ⟨heading, headed, headingRun⟩ : ∃ lines,
      headingLines ⟨id, goalList goals, labels⟩ = .ok lines ∧
        Carries c r (Told m none none fun _ => False) lines (Told m id goals fun _ => False) :=
    carries_heading named tellable labels
  obtain ⟨b, adds, told⟩ := headingRun.append (carries_memory held natSize) _ (told_empty m)
  obtain ⟨ss, spells, run⟩ := adds [] [] (.done (.none []))
  have all : ∀ a < m.length, belowCell (c * r) a := by
    intro a inside
    rw [belowCell, ← natSize]
    exact inside
  have parsed : parse (textOf (titleLine c r :: (heading ++ memoryLines m c r))) = .ok ss := by
    refine parse_of_spells (Spells.mono (fun _ _ => .inl) ?_)
    rw [List.append_nil] at spells
    rw [textOf_cons]
    exact spells.behind (layout_titleLine c r _)
  refine ⟨_, b.program, disassemble_eq natSize headed, ?_, told.memory_eq all, told.id, told.goals⟩
  rw [assemble, ← size, Size.ofBytes_natCast held]
  simp only [parsed, build, run]
  rfl

/-- A cell whose record no mnemonic describes, and a stray byte before it. -/
def strayImage : Image := [0, 0, 7] ++ List.replicate 20 0 ++ [99, 200, 1, 2, 255]

theorem assemble_strayImage :
    ∃ text program, disassemble strayImage 1 1 ⟨some "stray-1", [10, 11, 12], ["\\"]⟩ = .ok text ∧
      assemble text 1 1 = .ok program ∧ program.memory = strayImage ∧ program.id = some "stray-1" ∧
        program.goals = some (10, 11, 12) := by
  have named : ∀ name ∈ some (Text.ofString "stray-1"), Named name := by
    rintro name ⟨⟩
    decide
  have tellable : ∀ goals ∈ some (10, 11, 12), Tellable goals := by
    rintro goals ⟨⟩
    decide
  exact assemble_disassemble (by decide) (by decide) rfl (by decide) named tellable ["\\"]

end CellWalk.Assembly
