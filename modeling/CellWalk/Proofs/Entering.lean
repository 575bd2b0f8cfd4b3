import CellWalk.Proofs.Drawing
import CellWalk.Proofs.Walking

/-!
# Which cells let the debugger in

Whether the debugger may enter a cell is decided in three places: when the record is executed, by the
tables of opcodes together with a test's answer, and on the screen, where a test is green or red. All three
agree for every record and every memory (`entry_is_foretold`), because a test is answered from the memory of
before and neither a refusal nor a test changes it.
-/

namespace CellWalk
set_option autoImplicit false

/-! Opcodes. -/

theorem isEnterable_some {o : Opcode} : isEnterable (some o) = true ↔ o ≠ .nil := by
  simp [isEnterable]

theorem isTestCell_iff {op : Option Opcode} :
    isTestCell op = true ↔ ∃ o, op = some o ∧ o.isTest = true := by
  cases op <;> simp [isTestCell]

/-- Tests may be entered as far as their opcode is concerned. -/
theorem isEnterable_of_test {op : Option Opcode} (test : isTestCell op = true) :
    isEnterable op = true := by
  obtain ⟨o, rfl, isTest⟩ := isTestCell_iff.1 test
  apply isEnterable_some.2
  rintro rfl
  cases isTest

namespace Machine

variable {m : Machine} {index : Int}

/-- An instruction lets the debugger in unless it is the empty one or a test that does not hold. -/
theorem perform_lets_in_iff (m : Machine) (o : Opcode) (r : Instruction) :
    (m.perform o r).1 = true ↔ o ≠ .nil ∧
      (o.isTest = true →
        compare o (m.get .dbg).toNat (m.resolve r.operand.toNat r.mode.toNat) = true) := by
  cases o <;> simp [perform, Opcode.isTest]

theorem testPasses_of_op {o : Opcode} (named : m.op? index = some o) :
    m.testPasses index = (o.isTest && compare o (m.get .dbg).toNat
      (m.resolve (m.instruction index).operand.toNat (m.instruction index).mode.toNat)) := by
  unfold op? at named
  simp only [testPasses, named]

theorem execute_lets_in_iff (m : Machine) (index : Int) :
    (m.execute index).1 = true ↔ isEnterable (m.op? index) = true ∧
      (isTestCell (m.op? index) = true → m.testPasses index = true) := by
  cases named : m.op? index with
  | none => simp [execute_of_unknown named, isEnterable]
  | some o =>
    rw [execute_of_op named, perform_lets_in_iff, isEnterable_some, testPasses_of_op named,
      Bool.and_eq_true]
    -- the count of executions is no part of what a test reads
    constructor
    · rintro ⟨enterable, holds⟩
      exact ⟨enterable, fun test => ⟨test, holds test⟩⟩
    · rintro ⟨enterable, passes⟩
      exact ⟨enterable, fun test => (passes test).2⟩

theorem testPasses_of_no_test (noTest : isTestCell (m.op? index) = false) :
    m.testPasses index = false := by
  cases named : m.op? index with
  | none =>
    unfold op? at named
    simp only [testPasses, named]
  | some o =>
    have other : o.isTest = false := by
      rw [named] at noTest
      exact noTest
    rw [testPasses_of_op named, other, Bool.false_and]

/-- A test that is executed is counted, and that is all it does. -/
theorem execute_of_test (test : isTestCell (m.op? index) = true) :
    (m.execute index).2 = { m with executions := m.executions + 1 } := by
  obtain ⟨o, named, isTest⟩ := isTestCell_iff.1 test
  rw [execute_of_op named]
  cases o with
  | teq | tlt | tgt => rfl
  | _ => cases isTest

end Machine

/-! On the screen. -/

namespace Screen

variable {s : Session} {index : Int}

/-- The markup is some text in the style. -/
def InStyle (style : String) (markup : Text) : Prop := ∃ t, markup = styled style t

/-- What is green is not red. -/
theorem not_red_of_green {markup : Text} (green : InStyle "green" markup) : ¬InStyle "red" markup := by
  obtain ⟨t, rfl⟩ := green
  rintro ⟨t', same⟩
  have second := congrArg (fun markup : Text => markup[1]?) same
  simp only [styled, tag_eq] at second
  revert second
  exact (by decide : some (CodePoint.ofChar 'g') ≠ some (CodePoint.ofChar 'r'))

theorem labelColour_of_test {m : Machine} (test : isTestCell (m.op? index) = true) :
    labelColour m index = if m.testPasses index then "green" else "red" := by
  obtain ⟨o, named, isTest⟩ := isTestCell_iff.1 test
  cases o with
  | teq | tlt | tgt => simp only [labelColour, named, isTest, if_true]
  | _ => cases isTest

/-- A test that neither debugger nor cursor is on shows its answer. -/
theorem inStyle_label (closed : s.bench.editor.active = false) (other : index ≠ s.machine.ip)
    (test : isTestCell (s.machine.op? index) = true) :
    InStyle (if s.machine.testPasses index then "green" else "red") (renderCell s index).1 := by
  have full : (s.machine.instruction index).op? ≠ some .nil := by
    intro empty
    have known : s.machine.op? index = some .nil := empty
    rw [known] at test
    cases test
  have colour : (face s.machine index).colour = labelColour s.machine index := by
    simp only [face, if_neg full]
  rw [labelColour_of_test test] at colour
  refine ⟨(face s.machine index).top, ?_⟩
  simp only [renderCell, if_neg other, closed, Bool.false_and, Bool.false_eq_true, if_false, colour]

/-- A click on another cell of the grid takes effect if the cell lets the debugger in. -/
theorem click_lets_in (running : s.machine.isHalted = false) (closed : s.bench.editor.active = false)
    (on : s.machine.grid.contains index = true) (other : index ≠ s.machine.ip) :
    (s.click index).1 = (s.machine.execute index).1 := by
  have jumped : (s.click index).1 = (s.bench.jumpTo index).1 := by
    simp [Session.click, running, closed, Session.walked]
  rw [jumped, Bool.eq_iff_iff, (s.bench.byLaw_jumpTo index).answer]
  constructor
  · rintro ⟨_, ⟨rfl, -⟩, enters⟩
    exact enters
  · intro enters
    exact ⟨index, ⟨rfl, on, other⟩, enters⟩

theorem click_on_test (running : s.machine.isHalted = false) (closed : s.bench.editor.active = false)
    (on : s.machine.grid.contains index = true) (other : index ≠ s.machine.ip)
    (test : isTestCell (s.machine.op? index) = true) :
    (s.click index).1 = s.machine.testPasses index := by
  rw [click_lets_in running closed on other, Bool.eq_iff_iff, Machine.execute_lets_in_iff]
  constructor
  · intro enters
    exact enters.2 test
  · intro passes
    exact ⟨isEnterable_of_test test, fun _ => passes⟩

/-- In every machine a cell lets the debugger in if its opcode may be entered and, where it is a test, the
test holds; only tests pass, and neither a test nor a refusal changes more than a count. So in a game that
runs and is not being edited, a test on another cell of the grid is green just if a click on it takes
effect, and red just if it is refused. -/
theorem entry_is_foretold :
    (∀ (m : Machine) (index : Int),
      ((m.execute index).1 = true ↔ isEnterable (m.op? index) = true ∧
        (isTestCell (m.op? index) = true → m.testPasses index = true)) ∧
      (isTestCell (m.op? index) = false → m.testPasses index = false) ∧
      ((m.execute index).1 = false ∨ isTestCell (m.op? index) = true →
        (m.execute index).2 = { m with executions := m.executions + 1 })) ∧
    ∀ (s : Session) (index : Int), s.machine.isHalted = false → s.bench.editor.active = false →
      s.machine.grid.contains index = true → index ≠ s.machine.ip →
      isTestCell (s.machine.op? index) = true →
        (InStyle "green" (renderCell s index).1 ↔ (s.click index).1 = true) ∧
        (InStyle "red" (renderCell s index).1 ↔ (s.click index).1 = false) := by
  refine ⟨fun m index => ⟨m.execute_lets_in_iff index, Machine.testPasses_of_no_test, ?_⟩, ?_⟩
  · rintro (refused | test)
    · exact Machine.execute_refused (Prod.ext refused rfl)
    · exact Machine.execute_of_test test
  · intro s index running closed on other test
    have drawn := inStyle_label closed other test
    rw [click_on_test running closed on other test]
    cases passes : s.machine.testPasses index with
    | true =>
      rw [passes, if_pos rfl] at drawn
      have notRed := not_red_of_green drawn
      simp only [drawn, notRed, reduceCtorEq, and_self]
    | false =>
      rw [passes, if_neg Bool.false_ne_true] at drawn
      have notGreen : ¬InStyle "green" (renderCell s index).1 := fun green => not_red_of_green green drawn
      simp only [drawn, notGreen, reduceCtorEq, and_self]

/-- Beside the debugger stand a test on the data register, which holds, and one whose mode is none of the
two, which does not. -/
def testLevel : Level :=
  ⟨"tests", [1, 2, 3], List.replicate 24 0 ++ [1, 0, 0, 0, 7, 5, 1, 0, 9, 5, 7, 0], []⟩

def testLoaded : Session := (Session.paceSession.loadLevel testLevel).2

theorem tests_beside_debugger :
    (testLoaded.machine.execute 1).1 = true ∧ (testLoaded.machine.execute 2).1 = false ∧
      InStyle "green" (renderCell testLoaded 1).1 ∧ (testLoaded.click 1).1 = true ∧
      InStyle "red" (renderCell testLoaded 2).1 ∧ (testLoaded.click 2).1 = false := by
  obtain ⟨machine, screen⟩ := entry_is_foretold
  have running : testLoaded.machine.isHalted = false := by decide
  have closed : testLoaded.bench.editor.active = false := by decide
  have holds := screen testLoaded 1 running closed (by decide) (by decide) (by decide)
  have fails := screen testLoaded 2 running closed (by decide) (by decide) (by decide)
  have taken : (testLoaded.click 1).1 = true := by decide
  have refused : (testLoaded.click 2).1 = false := by decide
  have enters : (testLoaded.machine.execute 1).1 = true :=
    (machine testLoaded.machine 1).1.2 ⟨by decide, by decide⟩
  exact ⟨enters, by decide, holds.1.2 taken, taken, fails.2.2 refused, refused⟩

end Screen

end CellWalk
