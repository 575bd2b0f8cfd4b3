import CellWalk.Proofs.Footprint
import Mathlib.Data.List.GetD

/-!
# The stack as a list

The values on the stack are the bytes of its slots below the stack pointer (`Machine.values`, the top
first). A push puts a value in front of them and a pop takes the first one, as long as the pointer can count
them and the slots lie inside memory. So within these bounds the machine does with any pushes and pops what
a list does on top of the values that were there, and beside the pointer it changes the slots in use only
(`stack_is_list`).
-/

namespace CellWalk
set_option autoImplicit false

/-! Images. -/

namespace Image

/-- The image with other bytes from an address on. -/
def overwrite (image : Image) (address : Nat) (bytes : List UInt8) : Image :=
  image.take address ++ bytes ++ image.drop (address + bytes.length)

variable {image other : Image}

/-- Images of one size are equal if they hold the same bytes. -/
theorem eq_of_read (length : image.length = other.length)
    (same : ∀ a : Nat, a < image.length → image.read a = other.read a) : image = other := by
  apply List.ext_getElem length
  intro a inside inside'
  have here := same a inside
  rwa [read_natCast, read_natCast, List.getD_eq_getElem _ _ inside,
    List.getD_eq_getElem _ _ inside'] at here

theorem length_overwrite {address : Nat} {bytes : List UInt8}
    (fits : address + bytes.length ≤ image.length) :
    (image.overwrite address bytes).length = image.length := by
  simp only [overwrite, List.length_append, List.length_take, List.length_drop]
  omega

/-- The bytes are read where they were written, and the others are as they were. -/
theorem read_overwrite {address : Nat} {bytes : List UInt8}
    (fits : address + bytes.length ≤ image.length) (a : Nat) :
    (image.overwrite address bytes).read a =
      if address ≤ a ∧ a < address + bytes.length then bytes.getD (a - address) 0 else image.read a := by
  have head : (image.take address).length = address := List.length_take_of_le (by omega)
  simp only [read_natCast, overwrite, List.getD_eq_getElem?_getD]
  by_cases low : a < address
  · rw [if_neg (by omega), List.append_assoc, List.getElem?_append_left (by omega),
      List.getElem?_take_of_lt low]
  · by_cases high : a < address + bytes.length
    · rw [if_pos (by omega), List.getElem?_append_left (by rw [List.length_append]; omega),
        List.getElem?_append_right (by omega), head]
    · rw [if_neg (by omega), List.getElem?_append_right (by rw [List.length_append]; omega),
        List.getElem?_drop, List.length_append, head]
      congr 2
      omega

end Image

/-! Lists. -/

/-- What can be done to a stack. -/
inductive StackStep
  | push (v : Int)
  | pop
deriving DecidableEq, Repr

/-- The values that the pops of some steps take off a list, its top first, and the list that the steps leave.
A list with room for so many values takes no more, and nothing is popped from an empty one. -/
def StackStep.onList (room : Nat) : List StackStep → List UInt8 → Option (List UInt8 × List UInt8)
  | [], xs => some ([], xs)
  | .push v :: steps, xs => if xs.length < room then onList room steps (clampByte v :: xs) else none
  | .pop :: steps, x :: xs => (onList room steps xs).map fun r => (x :: r.1, r.2)
  | .pop :: _, [] => none

namespace StackStep

variable {room : Nat}

/-- Pushes put their values on a list in reverse. -/
theorem onList_pushes {vs : List Int} {xs : List UInt8} (fits : xs.length + vs.length ≤ room)
    (steps : List StackStep) :
    onList room (vs.map push ++ steps) xs = onList room steps ((vs.map clampByte).reverse ++ xs) := by
  induction vs generalizing xs with
  | nil => rfl
  | cons v vs ih =>
    rw [List.length_cons] at fits
    rw [List.map_cons, List.cons_append, onList, if_pos (by omega), ih (by rw [List.length_cons]; omega),
      List.map_cons, List.reverse_cons, List.append_assoc]
    rfl

/-- Pops take them off in the order of the list. -/
theorem onList_pops {k : Nat} {xs : List UInt8} (deep : k ≤ xs.length) :
    onList room (List.replicate k pop) xs = some (xs.take k, xs.drop k) := by
  induction k generalizing xs with
  | zero => rfl
  | succ k ih =>
    cases xs with
    | nil => cases deep
    | cons x xs =>
      rw [List.replicate_succ, onList, ih (Nat.le_of_succ_le_succ deep)]
      rfl

end StackStep

namespace Machine

/-- Takes some steps on the stack; tells the values popped, in their order. -/
def runStack (m : Machine) : List StackStep → List UInt8 × Machine
  | [] => ([], m)
  | .push v :: steps => (m.push v).runStack steps
  | .pop :: steps => (m.pop.1 :: (m.pop.2.runStack steps).1, (m.pop.2.runStack steps).2)

/-- The bytes on the stack, the foot first. -/
def slots (m : Machine) : List UInt8 := (List.range (m.get .sp).toNat).map fun k => m.reg (slot k)

/-- The values on the stack, the top first. -/
def values (m : Machine) : List UInt8 := m.slots.reverse

variable {m n : Machine}

@[simp] theorem length_values (m : Machine) : m.values.length = (m.get .sp).toNat := by
  simp [values, slots]

/-- A slot in use holds one of the values. -/
theorem getElem?_slots {k : Nat} (used : k < (m.get .sp).toNat) : m.slots[k]? = some (m.reg (slot k)) := by
  simp [slots, used]

/-- The pointer is in no slot, so no push overwrites it. -/
theorem slot_ne_sp (k : Nat) : slot k ≠ Register.sp.address := by
  have low : Register.sp.address < stackBase := by decide
  unfold slot
  omega

/-! One step. -/

theorem get_sp_push (sized : m.Sized) (v : Int) :
    ((m.push v).get .sp).toNat = min 255 ((m.get .sp).toNat + 1) := by
  have shape := sameShape_setReg m (slot (m.get .sp).toNat) v
  have pushed : (m.push v).get .sp = clampByte ((m.get .sp).toNat + 1) :=
    get_set_same (shape.sized sized) .sp _
  have clamped := toNat_clampByte ((m.get .sp).toNat + 1)
  rw [pushed]
  omega

theorem reg_slot_push (inside : slot (m.get .sp).toNat < m.memory.length) (v : Int) :
    (m.push v).reg (slot (m.get .sp).toNat) = clampByte v := by
  have pushed : (m.push v).reg (slot (m.get .sp).toNat) =
      ((m.setReg (slot (m.get .sp).toNat) v).set .sp ((m.get .sp).toNat + 1)).reg
        (slot (m.get .sp).toNat) := rfl
  rw [pushed, reg_set_of_ne _ (slot_ne_sp _), reg_setReg_same (by omega) (by omega)]

/-- A push puts a value in front, if the pointer can count it and its slot lies in memory. -/
theorem values_push (sized : m.Sized) (counted : (m.get .sp).toNat < 255)
    (inside : slot (m.get .sp).toNat < m.memory.length) (v : Int) :
    (m.push v).values = clampByte v :: m.values := by
  have depth : ((m.push v).get .sp).toNat = (m.get .sp).toNat + 1 := by
    rw [get_sp_push sized]
    omega
  have below : ∀ k ∈ List.range (m.get .sp).toNat, (m.push v).reg (slot k) = m.reg (slot k) := by
    intro k used
    have lower := List.mem_range.1 used
    apply reg_push_of_ne m _ (slot_ne_sp k)
    unfold slot
    omega
  rw [values, slots, depth, List.range_succ, List.map_append, List.reverse_append, List.map_congr_left below,
    List.map_singleton, reg_slot_push inside]
  rfl

/-- A pop answers what a peek does. -/
theorem pop_eq_peek (m : Machine) : m.pop.1 = m.peek := by
  simp only [pop, peek]
  split
  · rfl
  · exact reg_set_of_ne m (slot_ne_sp _) _

/-- The top is the first of the values, and 0 if there are none. -/
theorem peek_eq_head (m : Machine) : m.peek = m.values.headD 0 := by
  simp only [peek, values, slots]
  cases (m.get .sp).toNat with
  | zero => rfl
  | succ depth => simp [List.range_succ]

/-- A pop takes the first value off; off an empty stack it takes nothing. -/
theorem values_pop (sized : m.Sized) : m.pop.2.values = m.values.tail := by
  have same : ∀ k, m.pop.2.reg (slot k) = m.reg (slot k) := fun k => reg_pop_of_ne m (slot_ne_sp k)
  simp only [values, slots, get_sp_pop sized, same]
  cases (m.get .sp).toNat with
  | zero => rfl
  | succ depth => simp [List.range_succ]

/-! Any steps. -/

/-- A machine that has got some values on top of its stack, for which `room` slots are used. -/
structure Stacked (m : Machine) (room : Nat) (xs : List UInt8) (n : Machine) : Prop where
  shape : m.SameShape n
  values : n.values = xs ++ m.values
  rest : ∀ a : Nat, a ≠ Register.sp.address →
    (a < slot (m.get .sp).toNat ∨ slot ((m.get .sp).toNat + room) ≤ a) → n.reg a = m.reg a

variable {room : Nat} {xs ys out : List UInt8}

theorem Stacked.depth (h : m.Stacked room xs n) :
    (n.get .sp).toNat = (m.get .sp).toNat + xs.length := by
  have length := congrArg List.length h.values
  rw [List.length_append, length_values, length_values] at length
  omega

theorem Stacked.refl (m : Machine) (room : Nat) : m.Stacked room [] m :=
  ⟨.refl m, rfl, fun _ _ _ => rfl⟩

/-- A push on top of the values that were there puts one more on top of them. -/
theorem Stacked.push (h : m.Stacked room xs n) (sized : m.Sized)
    (counted : (m.get .sp).toNat + room ≤ 255)
    (inside : slot ((m.get .sp).toNat + room) ≤ m.memory.length) (more : xs.length < room) (v : Int) :
    m.Stacked room (clampByte v :: xs) (n.push v) := by
  have depth := h.depth
  have length := h.shape.length
  unfold slot at inside
  refine ⟨h.shape.trans (sameShape_push n v), ?_, fun a notSp elsewhere => ?_⟩
  · rw [values_push (h.shape.sized sized) (by omega) (by unfold slot; omega), h.values]
    rfl
  · rw [reg_push_of_ne n (by unfold slot at *; omega) notSp]
    exact h.rest a notSp elsewhere

/-- A pop takes the last value that was pushed and leaves those that were there. -/
theorem Stacked.pop {x : UInt8} (h : m.Stacked room (x :: xs) n) (sized : m.Sized) :
    n.pop.1 = x ∧ m.Stacked room xs n.pop.2 := by
  constructor
  · rw [pop_eq_peek, peek_eq_head, h.values]
    rfl
  · refine ⟨h.shape.trans (sameShape_pop n), ?_, fun a notSp elsewhere => ?_⟩
    · rw [values_pop (h.shape.sized sized), h.values]
      rfl
    · rw [reg_pop_of_ne n notSp]
      exact h.rest a notSp elsewhere

/-- Whatever steps a list takes, the machine takes them alike. -/
theorem Stacked.run (sized : m.Sized) (counted : (m.get .sp).toNat + room ≤ 255)
    (inside : slot ((m.get .sp).toNat + room) ≤ m.memory.length) {steps : List StackStep}
    (taken : StackStep.onList room steps xs = some (out, ys)) (h : m.Stacked room xs n) :
    (n.runStack steps).1 = out ∧ m.Stacked room ys (n.runStack steps).2 := by
  induction steps generalizing xs out n with
  | nil =>
    cases taken
    exact ⟨rfl, h⟩
  | cons step steps ih =>
    cases step with
    | push v =>
      rw [StackStep.onList, Option.ite_none_right_eq_some] at taken
      exact ih taken.2 (h.push sized counted inside taken.1 v)
    | pop =>
      cases xs with
      | nil => cases taken
      | cons x xs =>
        rw [StackStep.onList, Option.map_eq_some_iff] at taken
        obtain ⟨⟨later, left⟩, rest, split⟩ := taken
        cases split
        obtain ⟨top, popped⟩ := h.pop sized
        obtain ⟨heard, after⟩ := ih rest popped
        refine ⟨?_, after⟩
        show n.pop.1 :: (n.pop.2.runStack steps).1 = x :: later
        rw [top, heard]

/-! A list that is pushed and popped. -/

theorem runStack_append (m : Machine) (first second : List StackStep) :
    m.runStack (first ++ second) = ((m.runStack first).1 ++ ((m.runStack first).2.runStack second).1,
      ((m.runStack first).2.runStack second).2) := by
  induction first generalizing m with
  | nil => rfl
  | cons step first ih =>
    cases step with
    | push v => exact ih (m.push v)
    | pop =>
      show (m.pop.1 :: (m.pop.2.runStack (first ++ second)).1,
        (m.pop.2.runStack (first ++ second)).2) = _
      rw [ih]
      rfl

/-- A pop writes the pointer only. -/
theorem reg_pops_of_ne (m : Machine) {a : Nat} (notSp : a ≠ Register.sp.address) (k : Nat) :
    (m.runStack (List.replicate k .pop)).2.reg a = m.reg a := by
  induction k generalizing m with
  | zero => rfl
  | succ k ih =>
    show (m.pop.2.runStack (List.replicate k .pop)).2.reg a = m.reg a
    rw [ih, reg_pop_of_ne m notSp]

/-- The values lie in the slots above those that were there, the first one lowest. -/
theorem Stacked.reg_slot (h : m.Stacked room xs n) {i : Nat} (used : i < xs.length) :
    xs.reverse[i]? = some (n.reg (slot ((m.get .sp).toNat + i))) := by
  have depth := h.depth
  have foot : n.slots = m.slots ++ xs.reverse := by
    have turned := congrArg List.reverse h.values
    simpa only [Machine.values, List.reverse_append, List.reverse_reverse] using turned
  have low : m.slots.length = (m.get .sp).toNat := by simp [slots]
  have here := getElem?_slots (m := n) (k := (m.get .sp).toNat + i) (by omega)
  rw [foot, List.getElem?_append_right (by omega), low, Nat.add_sub_cancel_left] at here
  exact here

section pushed

variable {vs : List Int} (sized : m.Sized) (counted : (m.get .sp).toNat + vs.length ≤ 255)
  (inside : slot ((m.get .sp).toNat + vs.length) ≤ m.memory.length)
include sized counted inside

/-- Pops undo the last pushes and answer what they had put there. -/
theorem stacked_pushes_pops {k : Nat} (few : k ≤ vs.length) :
    (m.runStack (vs.map .push ++ List.replicate k .pop)).1 = (vs.map clampByte).reverse.take k ∧
      m.Stacked vs.length ((vs.map clampByte).reverse.drop k)
        (m.runStack (vs.map .push ++ List.replicate k .pop)).2 := by
  have taken : StackStep.onList vs.length (vs.map .push ++ List.replicate k .pop) [] =
      some ((vs.map clampByte).reverse.take k, (vs.map clampByte).reverse.drop k) := by
    rw [StackStep.onList_pushes (by simp), List.append_nil, StackStep.onList_pops (by simpa using few)]
  exact (Stacked.refl m vs.length).run sized counted inside taken

/-- As many pops as pushes bring the pointer back. -/
theorem get_sp_pushes_pops :
    (m.runStack (vs.map .push ++ List.replicate vs.length .pop)).2.get .sp = m.get .sp := by
  have depth := (stacked_pushes_pops sized counted inside (Nat.le_refl _)).2.depth
  have none : ((vs.map clampByte).reverse.drop vs.length).length = 0 := by simp
  rw [none] at depth
  exact UInt8.toNat_inj.1 depth

/-- Popping all that was pushed leaves it in the slots, and nothing else has changed. -/
theorem memory_pushes_pops :
    (m.runStack (vs.map .push ++ List.replicate vs.length .pop)).2.memory =
      m.memory.overwrite (slot (m.get .sp).toNat) (vs.map clampByte) := by
  have pushed := (stacked_pushes_pops sized counted inside (Nat.zero_le _)).2
  have popped := (stacked_pushes_pops sized counted inside (Nat.le_refl _)).2
  rw [List.replicate_zero, List.append_nil, List.drop_zero] at pushed
  have room : slot (m.get .sp).toNat + (vs.map clampByte).length ≤ m.memory.length := by
    rw [List.length_map]
    unfold slot at *
    omega
  apply Image.eq_of_read
  · rw [Image.length_overwrite room, popped.shape.length]
  intro a _
  rw [Image.read_overwrite room, List.length_map]
  split
  · -- pops leave the slots alone, so what was pushed is still there
    rename_i used
    obtain ⟨i, rfl⟩ := Nat.exists_eq_add_of_le used.1
    have few : i < (vs.map clampByte).reverse.length := by simp; omega
    have here := pushed.reg_slot few
    have place : slot (m.get .sp).toNat + i = slot ((m.get .sp).toNat + i) := Nat.add_assoc _ _ _
    rw [List.reverse_reverse, ← reg_pops_of_ne _ (slot_ne_sp _) vs.length] at here
    rw [Nat.add_sub_cancel_left, List.getD_eq_getElem?_getD, here, place, runStack_append]
    rfl
  · rename_i unused
    by_cases sp : a = Register.sp.address
    · subst sp
      exact get_sp_pushes_pops sized counted inside
    · apply popped.rest a sp
      unfold slot at *
      omega

/-- Before the `k`-th pop the `k`-th value popped is on top. -/
theorem peek_pushes_pops {k : Nat} (few : k < vs.length) :
    (vs.map clampByte).reverse[k]? =
      some (m.runStack (vs.map .push ++ List.replicate k .pop)).2.peek := by
  have stacked := (stacked_pushes_pops sized counted inside (Nat.le_of_lt few)).2
  have short : k < (vs.map clampByte).reverse.length := by simpa using few
  rw [peek_eq_head, stacked.values, List.drop_eq_getElem_cons short, List.getElem?_eq_getElem short]
  rfl

end pushed

/-- A list that is pushed and popped again, and any steps that a list with the same room takes: the values
popped are those of the list, the peeks before them too, and beside the pointer no byte changes but the slots
in use. Their bounds are those of the pointer and of memory. -/
theorem stack_is_list (m : Machine) (sized : m.Sized) :
    (∀ vs : List Int, (m.get .sp).toNat + vs.length ≤ 255 →
      slot ((m.get .sp).toNat + vs.length) ≤ m.memory.length →
        let after := fun k => m.runStack (vs.map .push ++ List.replicate k .pop)
        (after vs.length).1 = (vs.map clampByte).reverse ∧
          (∀ k < vs.length, (after vs.length).1[k]? = some (after k).2.peek) ∧
          (after vs.length).2.get .sp = m.get .sp ∧
          (after vs.length).2.memory =
            m.memory.overwrite (slot (m.get .sp).toNat) (vs.map clampByte)) ∧
    ∀ (room : Nat) (steps : List StackStep) (out xs : List UInt8),
      (m.get .sp).toNat + room ≤ 255 → slot ((m.get .sp).toNat + room) ≤ m.memory.length →
      StackStep.onList room steps [] = some (out, xs) →
        let after := m.runStack steps
        after.1 = out ∧ after.2.values = xs ++ m.values ∧
          (after.2.get .sp).toNat = (m.get .sp).toNat + xs.length ∧
          after.2.peek = (xs ++ m.values).headD 0 ∧
          ∀ a : Nat, a ≠ Register.sp.address →
            (a < slot (m.get .sp).toNat ∨ slot ((m.get .sp).toNat + room) ≤ a) →
            after.2.reg a = m.reg a := by
  refine ⟨fun vs counted inside => ?_, fun room steps out xs counted inside taken => ?_⟩
  · have popped := (stacked_pushes_pops sized counted inside (Nat.le_refl vs.length)).1
    rw [List.take_of_length_le (by simp)] at popped
    refine ⟨popped, fun k few => ?_, get_sp_pushes_pops sized counted inside,
      memory_pushes_pops sized counted inside⟩
    rw [popped]
    exact peek_pushes_pops sized counted inside few
  · obtain ⟨heard, stacked⟩ := (Stacked.refl m room).run sized counted inside taken
    refine ⟨heard, stacked.values, stacked.depth, ?_, stacked.rest⟩
    rw [peek_eq_head, stacked.values]

/-- A machine with twelve values on its stack, so that of three more the second lies below the program and the
third in it. -/
def nearlyFull : Machine :=
  let grid : Grid := ⟨2, 2, Nat.two_pos, Nat.two_pos⟩
  let memory : Image := [0, 0, 12, 0, 9] ++ List.replicate 16 0 ++ [5, 0, 0] ++
    (List.replicate 4 [1, 0, 0, 0]).flatten
  ⟨grid, by decide, memory, .empty outletDepth, 0, 0, 0⟩

theorem stack_grows_into_program :
    (nearlyFull.runStack [.push 300, .push (-4), .push 7, .pop, .pop, .pop]).1 = [7, 0, 255] ∧
      (nearlyFull.runStack [.push 300, .push (-4), .push 7, .pop, .pop, .pop]).2.memory =
        nearlyFull.memory.overwrite 22 [255, 0, 7] ∧
      (nearlyFull.runStack [.push 300, .push (-4), .pop, .push 7]).1 = [0] ∧
      (nearlyFull.runStack [.push 300, .push (-4), .pop, .push 7]).2.values =
        7 :: 255 :: 5 :: List.replicate 11 0 := by
  have sized : nearlyFull.Sized := rfl
  obtain ⟨list, any⟩ := stack_is_list nearlyFull sized
  obtain ⟨popped, -, -, memory⟩ := list [300, -4, 7] (by decide) (by decide)
  obtain ⟨heard, values, -⟩ := any 2 [.push 300, .push (-4), .pop, .push 7] [0] [7, 255] (by decide)
    (by decide) (by decide)
  exact ⟨popped, memory, heard, values⟩

end Machine

end CellWalk
