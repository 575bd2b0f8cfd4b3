import CellWalk.Proofs.Assembly.RoundTrip
import CellWalk.Machine.Basic

/-!
# What statements make of a program

A program that has been made of some statements says what the last of them has said: every byte is the
last value that a statement has given to it, and so are id and goals, while the labels are all there
(`Describes`). Statements are added as long as each of them fits those before it: a cell lies on the grid
and has not been given, a byte lies inside the memory (`Fitting`). The first one that does not is why
the program is refused (`Offends`).
-/

namespace CellWalk.Assembly
set_option autoImplicit false

variable {g : Grid}

/-! Where cells lie. -/

namespace Position

/-- The number of the cell, on the grid or off it. -/
def cell (g : Grid) : Position → Nat
  | .flat index => index
  | .grid row col => row * g.cols + col

def OnGrid (g : Grid) : Position → Prop
  | .flat index => index < g.cells
  | .grid row col => row < g.rows ∧ col < g.cols

instance (g : Grid) (p : Position) : Decidable (p.OnGrid g) :=
  match p with
  | .flat index => inferInstanceAs (Decidable (index < g.cells))
  | .grid row col => inferInstanceAs (Decidable (row < g.rows ∧ col < g.cols))

theorem cell_lt {p : Position} (on : p.OnGrid g) : p.cell g < g.cells := by
  cases p with
  | flat index => exact on
  | grid row col =>
    obtain ⟨high, wide⟩ := on
    calc row * g.cols + col < row * g.cols + g.cols := Nat.add_lt_add_left wide _
      _ = (row + 1) * g.cols := (Nat.succ_mul row g.cols).symm
      _ ≤ g.rows * g.cols := Nat.mul_le_mul_right _ high
      _ = g.cells := Nat.mul_comm _ _

/-- A position on the grid has an index. -/
theorem index_of_onGrid {p : Position} (on : p.OnGrid g) :
    p.index g.cols g.rows = .ok (p.cell g : Int) := by
  cases p with
  | flat index =>
    change index < g.cells at on
    have inside : ¬(g.cols : Int) * g.rows ≤ index := by
      rw [Grid.cells] at on
      exact_mod_cast Nat.not_le.2 on
    exact if_neg inside
  | grid row col =>
    obtain ⟨high, wide⟩ := on
    rw [Position.index, if_neg (by omega), cell]
    push_cast
    rfl

end Position

/-! What a statement tells. -/

namespace Statement

/-- The number of the cell that a statement is about. -/
def cell? (g : Grid) : Statement → Option Nat
  | .cell position _ _ => some (position.cell g)
  | _ => none

def id? : Statement → Option Text
  | .id name => some name
  | _ => none

def goals? : Statement → Option (Nat × Nat × Nat)
  | .cycles gold silver bronze => some (gold, silver, bronze)
  | _ => none

def label? : Statement → Option Text
  | .label text => some text
  | _ => none

/-- The number that a statement starts with which is about a byte or a cell. -/
def number? : Statement → Option Nat
  | .byte offset _ _ => some offset
  | .cell (.flat index) _ _ => some index
  | .cell (.grid row _) _ _ => some row
  | _ => none

/-- The bytes that a statement gives, after the address of the first one. -/
def bytes (g : Grid) : Statement → Nat × List UInt8
  | .stack values => (stackBase, values)
  | .byte offset value _ => (offset, [value])
  | .cell position record _ => (recordAddress (position.cell g), record.toBytes)
  | _ => (0, [])

/-- The value that a statement gives to the byte at an address, if it covers it. -/
def value? (g : Grid) (s : Statement) (a : Nat) : Option UInt8 :=
  if (s.bytes g).1 ≤ a then (s.bytes g).2[a - (s.bytes g).1]? else none

/-- A statement decides for the addresses that it covers. -/
theorem getD_overlay_bytes (s : Statement) {m : Image} {a : Nat} (inside : a < m.length) :
    (overlay m (s.bytes g).1 (s.bytes g).2).getD a 0 = (s.value? g a).getD (m.getD a 0) := by
  rw [getD_overlay, value?]
  by_cases low : (s.bytes g).1 ≤ a
  · by_cases high : a < (s.bytes g).1 + (s.bytes g).2.length
    · have covered : a - (s.bytes g).1 < (s.bytes g).2.length := by omega
      rw [if_pos ⟨low, high, inside⟩, if_pos low, List.getD_eq_getElem _ _ covered,
        List.getElem?_eq_getElem covered, Option.getD_some]
    · rw [if_neg fun all => high all.2.1, if_pos low, List.getElem?_eq_none (by omega),
        Option.getD_none]
  · rw [if_neg fun all => low all.1, if_neg low, Option.getD_none]

/-- A statement fits those before it. -/
def Fits (g : Grid) (before : List Statement) : Statement → Prop
  | .byte offset _ _ => offset < Machine.sizeFor g
  | .cell position _ _ => position.OnGrid g ∧ position.cell g ∉ before.filterMap (cell? g)
  | _ => True

/-- Why a statement does not fit those before it, and what is left of the text where that is told. -/
inductive Offends (g : Grid) (before : List Statement) : Statement → Refusal → Nat → Prop
  | offset {offset left : Nat} {value : UInt8} (outside : Machine.sizeFor g ≤ offset) :
      Offends g before (.byte offset value left) (.offsetOutside offset (Machine.sizeFor g)) left
  | grid {row col left : Nat} {record : Instruction} (outside : g.rows ≤ row ∨ g.cols ≤ col) :
      Offends g before (.cell (.grid row col) record left) (.cellOutside row col g.cols g.rows) left
  | flat {index left : Nat} {record : Instruction} (outside : g.cells ≤ index) :
      Offends g before (.cell (.flat index) record left) (.indexOutside index g.cols g.rows) left
  | twice {position : Position} {record : Instruction} {left : Nat} (on : position.OnGrid g)
      (given : position.cell g ∈ before.filterMap (cell? g)) :
      Offends g before (.cell position record left) (.cellTwice (position.cell g)) left

/-- A statement fits those before it, or it offends. -/
theorem fits_or_offends (g : Grid) (before : List Statement) (s : Statement) :
    s.Fits g before ∨ ∃ refusal left, Offends g before s refusal left := by
  cases s with
  | id | cycles | label | stack => exact .inl trivial
  | byte offset value left =>
    rcases Nat.lt_or_ge offset (Machine.sizeFor g) with inside | outside
    · exact .inl inside
    · exact .inr ⟨_, _, .offset outside⟩
  | cell position record left =>
    by_cases on : position.OnGrid g
    · by_cases given : position.cell g ∈ before.filterMap (cell? g)
      · exact .inr ⟨_, _, .twice on given⟩
      · exact .inl ⟨on, given⟩
    · cases position with
      | flat index => exact .inr ⟨_, _, .flat (Nat.not_lt.1 on)⟩
      | grid row col =>
        have outside : g.rows ≤ row ∨ g.cols ≤ col := by
          rw [Position.OnGrid] at on
          omega
        exact .inr ⟨_, _, .grid outside⟩

end Statement

open Statement

/-- Every statement fits those before it. -/
structure Fitting (g : Grid) (ss : List Statement) : Prop where
  /-- Every cell lies on the grid. -/
  onGrid : ∀ position record left, .cell position record left ∈ ss → position.OnGrid g
  /-- No two statements are about the same cell. -/
  once : (ss.filterMap (cell? g)).Nodup
  /-- Every byte lies inside the memory. -/
  inside : ∀ offset value left, .byte offset value left ∈ ss → offset < Machine.sizeFor g

section fitting
variable {before after ss : List Statement} {s : Statement}

theorem fitting_nil (g : Grid) : Fitting g [] :=
  ⟨fun _ _ _ member => absurd member List.not_mem_nil, List.nodup_nil,
    fun _ _ _ member => absurd member List.not_mem_nil⟩

theorem Fitting.next (fits : Fitting g (before ++ s :: after)) : s.Fits g before := by
  obtain ⟨onGrid, once, inside⟩ := fits
  have member : s ∈ before ++ s :: after := List.mem_append_right _ List.mem_cons_self
  cases s with
  | id | cycles | label | stack => trivial
  | byte offset value left => exact inside _ _ _ member
  | cell position record left =>
    refine ⟨onGrid _ _ _ member, fun given => ?_⟩
    rw [List.filterMap_append, List.nodup_append] at once
    exact once.2.2 _ given _ List.mem_cons_self rfl

theorem Fitting.add (fits : Fitting g before) (next : s.Fits g before) : Fitting g (before ++ [s]) := by
  obtain ⟨onGrid, once, inside⟩ := fits
  refine ⟨fun position record left member => ?_, ?_, fun offset value left member => ?_⟩
  · rcases List.mem_append.1 member with earlier | last
    · exact onGrid _ _ _ earlier
    · cases List.mem_singleton.1 last
      exact next.1
  · rw [List.filterMap_append, List.nodup_append]
    cases s with
    | id | cycles | label | stack | byte => exact ⟨once, List.nodup_nil, fun _ _ _ h => nomatch h⟩
    | cell position record left =>
      refine ⟨once, List.nodup_cons.2 ⟨List.not_mem_nil, List.nodup_nil⟩, fun n given n' last same => ?_⟩
      cases List.mem_singleton.1 last
      exact next.2 (same ▸ given)
  · rcases List.mem_append.1 member with earlier | last
    · exact inside _ _ _ earlier
    · cases List.mem_singleton.1 last
      exact next

/-- Of statements that do not fit there is a first one that offends. -/
theorem exists_offends (unfit : ¬ Fitting g ss) :
    ∃ before s after refusal left, ss = before ++ s :: after ∧ Fitting g before ∧
      Offends g before s refusal left := by
  -- from the end: if all but the last statement fit, it is the last one that offends
  induction ss using List.reverseRecOn with
  | nil => exact absurd (fitting_nil g) unfit
  | append_singleton ss s ih =>
    by_cases fits : Fitting g ss
    · rcases fits_or_offends g ss s with next | ⟨refusal, left, offends⟩
      · exact absurd (fits.add next) unfit
      · exact ⟨ss, s, [], refusal, left, rfl, fits, offends⟩
    · obtain ⟨before, s', after, refusal, left, rfl, fits, offends⟩ := ih fits
      exact ⟨before, s', after ++ [s], refusal, left, by rw [List.append_assoc]; rfl, fits, offends⟩

end fitting

/-! What a build holds. -/

/-- Statements describe a program: every byte has the last value that is given to it, 0 if none is, id
and goals are the last ones, and the labels are all of them in order. -/
structure Describes (g : Grid) (ss : List Statement) (p : Program) : Prop where
  size : p.memory.length = Machine.sizeFor g
  bytes : ∀ a < Machine.sizeFor g, p.memory.getD a 0 = (ss.filterMap (·.value? g a)).getLast?.getD 0
  id : p.id = (ss.filterMap id?).getLast?
  goals : p.goals = (ss.filterMap goals?).getLast?
  labels : p.labels = ss.filterMap label?

/-- A build has been made of statements, and it knows the cells that they have given. -/
structure Builds (g : Grid) (ss : List Statement) (b : Build) : Prop where
  program : Describes g ss b.program
  cells : b.cells = (ss.filterMap (cell? g)).reverse.map Int.ofNat

/-- The stack is no longer than the memory's. -/
def ShortStack : Statement → Prop
  | .stack values => values.length ≤ stackSlots
  | _ => True

section builds
variable {before after ss : List Statement} {s : Statement} {b b' : Build}

/-- The blank build is that of no statements. -/
theorem builds_empty (g : Grid) : Builds g [] (Build.empty (Machine.sizeFor g)) := by
  refine ⟨⟨List.length_replicate, fun a inside => ?_, rfl, rfl, rfl⟩, rfl⟩
  exact List.getD_replicate 0 inside

theorem Builds.mem_cells (holds : Builds g before b) {n : Nat} :
    (n : Int) ∈ b.cells ↔ n ∈ before.filterMap (cell? g) := by
  rw [holds.cells, List.mem_map, ← List.mem_reverse]
  constructor
  · rintro ⟨n', given, same⟩
    exact Int.ofNat.inj same ▸ given
  · exact fun given => ⟨n, given, rfl⟩

/-- What the last statement says, or else what has been said last before it. -/
theorem getLast?_filterMap_append_singleton {α : Type} (f : Statement → Option α)
    (before : List Statement) (s : Statement) :
    ((before ++ [s]).filterMap f).getLast? = (f s).or (before.filterMap f).getLast? := by
  rw [List.filterMap_append, List.getLast?_append]
  cases said : f s <;> simp [said]

/-- A build that takes over all that one more statement tells. -/
theorem Builds.append (holds : Builds g before b)
    (memory : b'.program.memory = overlay b.program.memory (s.bytes g).1 (s.bytes g).2)
    (id : b'.program.id = s.id?.or b.program.id)
    (goals : b'.program.goals = s.goals?.or b.program.goals)
    (labels : b'.program.labels = b.program.labels ++ s.label?.toList)
    (cells : b'.cells = (s.cell? g).toList.map Int.ofNat ++ b.cells) :
    Builds g (before ++ [s]) b' := by
  have size := holds.program.size
  refine ⟨⟨?_, fun a inside => ?_, ?_, ?_, ?_⟩, ?_⟩
  · rw [memory, length_overlay, size]
  · have known : a < b.program.memory.length := by rwa [size]
    rw [memory, getD_overlay_bytes s known, holds.program.bytes a inside,
      getLast?_filterMap_append_singleton]
    cases s.value? g a <;> rfl
  · rw [id, holds.program.id, getLast?_filterMap_append_singleton]
  · rw [goals, holds.program.goals, getLast?_filterMap_append_singleton]
  · rw [labels, holds.program.labels, List.filterMap_append]
    cases said : s.label? <;> simp [said]
  · rw [cells, holds.cells, List.filterMap_append]
    cases said : s.cell? g <;> simp [said]

/-- A statement that fits is added. -/
theorem Builds.add (holds : Builds g before b) (next : s.Fits g before) (short : ShortStack s) :
    ∃ b', b.add g.cols g.rows s = .ok b' ∧ Builds g (before ++ [s]) b' := by
  have size := holds.program.size
  cases s with
  | id name => exact ⟨_, rfl, holds.append rfl rfl rfl (List.append_nil _).symm rfl⟩
  | cycles gold silver bronze =>
    exact ⟨_, rfl, holds.append rfl rfl rfl (List.append_nil _).symm rfl⟩
  | label text => exact ⟨_, rfl, holds.append rfl rfl rfl rfl rfl⟩
  | stack values =>
    have fits : stackBase + values.length ≤ b.program.memory.length := by
      calc stackBase + values.length ≤ stackBase + stackSlots := Nat.add_le_add_left short _
        _ ≤ programBase := by decide
        _ ≤ b.program.memory.length := by
          rw [size, Machine.sizeFor]
          exact Nat.le_add_right _ _
    exact ⟨_, if_pos (.inr fits), holds.append rfl rfl rfl (List.append_nil _).symm rfl⟩
  | byte offset value left =>
    have inside : offset < b.program.memory.length := by
      rw [size]
      exact next
    exact ⟨_, if_pos inside, holds.append rfl rfl rfl (List.append_nil _).symm rfl⟩
  | cell position record left =>
    obtain ⟨on, fresh⟩ := next
    have added : b.addCell g.cols g.rows position record = .ok _ :=
      addCell_eq (Position.index_of_onGrid on) (mt holds.mem_cells.1 fresh)
    simp only [Build.add, added]
    exact ⟨_, rfl, holds.append rfl rfl rfl (List.append_nil _).symm rfl⟩

/-- One that offends is refused. -/
theorem Builds.refuse (holds : Builds g before b) {refusal : Refusal} {left : Nat}
    (offends : Offends g before s refusal left) :
    b.add g.cols g.rows s = .error (.refused refusal left) := by
  have size := holds.program.size
  cases offends with
  | offset outside =>
    rw [Build.add, if_neg (by omega), size]
  | grid outside =>
    have off : (g.rows : Int) ≤ _ ∨ (g.cols : Int) ≤ _ := outside.imp Int.ofNat_le.2 Int.ofNat_le.2
    rw [Build.add, Build.addCell, Position.index, if_pos off]
    rfl
  | @flat index _ _ outside =>
    have off : (g.cols : Int) * g.rows ≤ index := by
      rw [Grid.cells] at outside
      exact_mod_cast outside
    rw [Build.add, Build.addCell, Position.index, if_pos off]
    rfl
  | twice on given =>
    rw [Build.add, Build.addCell, Position.index_of_onGrid on]
    simp only [bind, Except.bind, if_pos (holds.mem_cells.2 given)]
    rfl

/-- Statements that fit are added one after the other. -/
theorem Builds.run (holds : Builds g before b) (fits : Fitting g (before ++ after))
    (short : ∀ s ∈ after, ShortStack s) :
    ∃ b', after.foldlM (Build.add g.cols g.rows) b = .ok b' ∧ Builds g (before ++ after) b' := by
  -- each statement moves from the ones to come to the ones before, of which the build is made
  induction after generalizing before b with
  | nil => exact ⟨b, rfl, by rwa [List.append_nil]⟩
  | cons s after ih =>
    obtain ⟨b', added, more⟩ := holds.add fits.next (short s List.mem_cons_self)
    rw [List.append_cons] at fits
    obtain ⟨last, run, told⟩ := ih more fits fun s' member => short s' (List.mem_cons_of_mem _ member)
    refine ⟨last, ?_, by rwa [List.append_cons]⟩
    rw [List.foldlM_cons, added]
    exact run

/-- Statements that all fit are built to the program that they describe. -/
theorem build_of_fitting (fits : Fitting g ss) (short : ∀ s ∈ ss, ShortStack s) :
    ∃ p, build (Machine.sizeFor g) g.cols g.rows ss = .ok p ∧ Describes g ss p := by
  have all : Fitting g ([] ++ ss) := fits
  obtain ⟨b, run, told⟩ := (builds_empty g).run all short
  refine ⟨b.program, ?_, told.program⟩
  rw [build, run]
  rfl

/-- The first statement that offends is refused, whatever comes after it. -/
theorem build_of_offends {refusal : Refusal} {left : Nat} (fits : Fitting g before)
    (offends : Offends g before s refusal left) (short : ∀ s ∈ before, ShortStack s) :
    build (Machine.sizeFor g) g.cols g.rows (before ++ s :: after) = .error (.refused refusal left) := by
  have all : Fitting g ([] ++ before) := fits
  obtain ⟨b, run, told⟩ := (builds_empty g).run all short
  rw [build, List.foldlM_append, run]
  simp only [bind, Except.bind, List.foldlM_cons, told.refuse offends]
  rfl

end builds

end CellWalk.Assembly
