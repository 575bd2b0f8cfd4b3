import CellWalk.Proofs.Cursor

/-!
# Routes over the grid

The neighbours make a rectangle of the numbered cells: none beyond an edge, elsewhere one row or one column
on, and back by the opposite direction (`Neighbouring`). A route is a list of directions. Each of its steps
brings the goal nearer by one at most (`distance_le_of_target`), and a step does so in any direction in which
the goal lies ahead (`exists_nearer`), so the shortest routes are as long as the distance in rows and columns.
-/

namespace CellWalk.Grid
set_option autoImplicit false

variable {g : Grid} {start next goal : Int} {d : Direction} {route : List Direction}

/-- The cell lies on this side's edge of the grid. -/
def OnEdge (g : Grid) (index : Int) : Direction → Prop
  | .up => g.row index = 0
  | .down => g.row index = g.rows - 1
  | .left => g.col index = 0
  | .right => g.col index = g.cols - 1

/-- A cell of the grid is one row or one column on from another in a direction, and leads back to it. -/
structure Neighbouring (g : Grid) (start : Int) (d : Direction) (next : Int) : Prop where
  inside : g.contains next = true
  row : g.row next = g.row start + d.rowStep
  col : g.col next = g.col start + d.colStep
  back : g.target next d.opposite = some start

/-- The cell to which the directions lead one after the other, none if one of them leads off the grid. -/
def follow (g : Grid) (start : Int) (route : List Direction) : Option Int := route.foldlM g.target start

/-- How many rows and columns two cells are apart. -/
def distance (g : Grid) (start goal : Int) : Nat :=
  (g.row goal - g.row start).natAbs + (g.col goal - g.col start).natAbs

/-- The goal lies further on in this direction. -/
def Ahead (g : Grid) (start goal : Int) : Direction → Prop
  | .up => g.row goal < g.row start
  | .down => g.row start < g.row goal
  | .left => g.col goal < g.col start
  | .right => g.col start < g.col goal

/-! One step. -/

theorem row_nonneg (on : g.contains start = true) : 0 ≤ g.row start := (contains_iff_row.1 on).1

theorem row_lt (on : g.contains start = true) : g.row start < g.rows := (contains_iff_row.1 on).2

theorem target_eq_none_iff (on : g.contains start = true) :
    g.target start d = none ↔ g.OnEdge start d := by
  have top := row_nonneg on
  have bottom := row_lt on
  have low := g.col_nonneg start
  have high := g.col_lt start
  cases d <;> simp only [target, OnEdge, ite_eq_right_iff, reduceCtorEq, imp_false] <;> omega

theorem stride_opposite (g : Grid) (d : Direction) : g.stride d.opposite = -g.stride d := by
  cases d <;> simp [stride, Direction.opposite]

theorem neighbouring_of_target (on : g.contains start = true) (found : g.target start d = some next) :
    g.Neighbouring start d next := by
  have inside := contains_of_target on found
  obtain ⟨rfl, -, low, high⟩ := (target_eq_some_iff on).1 found
  obtain ⟨row, col⟩ := row_col_step low high
  refine ⟨inside, row, col, (target_eq_some_iff inside).2 ?_⟩
  rw [stride_opposite, row, col]
  have top := row_nonneg on
  have bottom := row_lt on
  have left := g.col_nonneg start
  have right := g.col_lt start
  cases d <;> simp only [Direction.opposite, Direction.rowStep, Direction.colStep] <;> omega

/-! The distance. -/

theorem distance_self (g : Grid) (start : Int) : g.distance start start = 0 := by
  simp [distance]

theorem eq_of_distance_eq_zero (here : g.distance start goal = 0) : start = goal := by
  have row : g.row start = g.row goal := by
    unfold distance at here
    omega
  have col : g.col start = g.col goal := by
    unfold distance at here
    omega
  rw [g.eq_row_col start, g.eq_row_col goal, row, col]

/-- No step brings the goal nearer by more than one. -/
theorem distance_le_of_target (on : g.contains start = true) (found : g.target start d = some next) :
    g.distance start goal ≤ g.distance next goal + 1 := by
  obtain ⟨-, row, col, -⟩ := neighbouring_of_target on found
  rw [distance, distance, row, col]
  cases d <;> simp only [Direction.rowStep, Direction.colStep] <;> omega

/-- Where two cells are apart, one lies ahead of the other in some direction. -/
theorem exists_ahead (apart : g.distance start goal ≠ 0) : ∃ d, g.Ahead start goal d := by
  have ways : g.row goal < g.row start ∨ g.row start < g.row goal ∨
      g.col goal < g.col start ∨ g.col start < g.col goal := by
    unfold distance at apart
    omega
  rcases ways with up | down | left | right
  · exact ⟨.up, up⟩
  · exact ⟨.down, down⟩
  · exact ⟨.left, left⟩
  · exact ⟨.right, right⟩

/-- Where the goal lies ahead there is a neighbour, nearer to it by one. -/
theorem exists_nearer (on : g.contains start = true) (on' : g.contains goal = true)
    (ahead : g.Ahead start goal d) :
    ∃ next, g.target start d = some next ∧ g.distance next goal + 1 = g.distance start goal := by
  have rows := contains_iff_row.1 on
  have rows' := contains_iff_row.1 on'
  have low := g.col_nonneg start
  have high := g.col_lt start
  have low' := g.col_nonneg goal
  have high' := g.col_lt goal
  have room : (0 ≤ g.row start + d.rowStep ∧ g.row start + d.rowStep < g.rows) ∧
      0 ≤ g.col start + d.colStep ∧ g.col start + d.colStep < g.cols := by
    cases d <;> simp only [Ahead, Direction.rowStep, Direction.colStep] at ahead ⊢ <;> omega
  have found := (target_eq_some_iff on).2 ⟨rfl, room⟩
  obtain ⟨-, row, col, -⟩ := neighbouring_of_target on found
  refine ⟨_, found, ?_⟩
  rw [distance, distance, row, col]
  cases d <;> simp only [Ahead, Direction.rowStep, Direction.colStep] at ahead ⊢ <;> omega

/-! Routes. -/

@[simp] theorem follow_nil (g : Grid) (start : Int) : g.follow start [] = some start := rfl

theorem follow_cons_eq_some :
    g.follow start (d :: route) = some goal ↔
      ∃ next, g.target start d = some next ∧ g.follow next route = some goal := by
  simp only [follow, List.foldlM_cons, Option.bind_eq_bind, Option.bind_eq_some_iff]

/-- No route is shorter than the distance. -/
theorem distance_le_length (on : g.contains start = true) (leads : g.follow start route = some goal) :
    g.distance start goal ≤ route.length := by
  induction route generalizing start with
  | nil =>
    obtain rfl : start = goal := by simpa using leads
    rw [distance_self]
    exact Nat.zero_le _
  | cons d route ih =>
    obtain ⟨next, found, rest⟩ := follow_cons_eq_some.1 leads
    calc g.distance start goal ≤ g.distance next goal + 1 := distance_le_of_target on found
      _ ≤ route.length + 1 := Nat.add_le_add_right (ih (contains_of_target on found) rest) 1

/-- Some route is as long as the distance. The induction is on the distance. -/
theorem exists_route {n : Nat} (on : g.contains start = true) (on' : g.contains goal = true)
    (apart : g.distance start goal = n) :
    ∃ route, g.follow start route = some goal ∧ route.length = n := by
  induction n generalizing start with
  | zero =>
    rw [eq_of_distance_eq_zero apart]
    exact ⟨[], follow_nil g goal, rfl⟩
  | succ n ih =>
    have away : g.distance start goal ≠ 0 := by omega
    obtain ⟨d, ahead⟩ := exists_ahead away
    obtain ⟨next, found, nearer⟩ := exists_nearer on on' ahead
    obtain ⟨route, leads, length⟩ := ih (contains_of_target on found) (by omega)
    exact ⟨d :: route, follow_cons_eq_some.2 ⟨next, found, leads⟩, by rw [List.length_cons, length]⟩

/-- The numbered cells make a rectangle. A number on the grid is a row and a column within its sides. The
neighbour in a direction, the same for a debugger on this grid, is missing on the edge there and nowhere
else, is one row or one column on, and leads back. Between any two cells there are routes, and the shortest
are as long as the two are apart in rows and columns. -/
theorem neighbours_make_rectangle (g : Grid) :
    (∀ index, g.contains index = true →
      index = g.row index * g.cols + g.col index ∧ 0 ≤ g.row index ∧ g.row index < g.rows ∧
        0 ≤ g.col index ∧ g.col index < g.cols) ∧
    (∀ b : Bench, b.machine.grid = g → ∀ index (d : Direction),
      b.target index d.bit.toNat = g.target index d) ∧
    (∀ index d, g.contains index = true →
      (g.target index d = none ↔ g.OnEdge index d) ∧
        ∀ next, g.target index d = some next → g.Neighbouring index d next) ∧
    ∀ start goal, g.contains start = true → g.contains goal = true →
      (∃ route, g.follow start route = some goal ∧ route.length = g.distance start goal) ∧
        ∀ route, g.follow start route = some goal → g.distance start goal ≤ route.length := by
  refine ⟨fun index on => ?_, fun b same index d => ?_, fun index d on => ?_, fun start goal on on' => ?_⟩
  · exact ⟨g.eq_row_col index, row_nonneg on, row_lt on, g.col_nonneg index, g.col_lt index⟩
  · rw [Bench.target_bit, same]
  · exact ⟨target_eq_none_iff on, fun next found => neighbouring_of_target on found⟩
  · exact ⟨exists_route on on' rfl, fun route leads => distance_le_length on leads⟩

/-- On two rows of two cells the end of the first row and the start of the second are one apart in the
numbering, but two steps. -/
theorem rectangle_of_square :
    let b := Bench.atRowEnd
    let g := Bench.square
    b.machine.grid = g ∧ g.contains 1 = true ∧ g.contains 2 = true ∧ g.OnEdge 1 .right ∧
      b.target 1 Direction.right.bit.toNat = none ∧ g.Neighbouring 1 .down 3 ∧
      (∃ route, g.follow 1 route = some 2 ∧ route.length = 2) ∧
      ∀ route, g.follow 1 route = some 2 → 2 ≤ route.length := by
  intro b g
  have on : g.contains 1 = true := by decide
  have on' : g.contains 2 = true := by decide
  have edge : g.OnEdge 1 .right := by
    unfold OnEdge
    decide
  obtain ⟨-, debugger, step, routes⟩ := neighbours_make_rectangle g
  have missing := (debugger b rfl 1 .right).trans ((step 1 .right on).1.2 edge)
  have apart : g.distance 1 2 = 2 := by decide
  have shortest := routes 1 2 on on'
  rw [apart] at shortest
  exact ⟨rfl, on, on', edge, missing, (step 1 .down on).2 3 (by decide), shortest⟩

end CellWalk.Grid
