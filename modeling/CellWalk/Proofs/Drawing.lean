import CellWalk.Screen.Controls
import CellWalk.Proofs.Markup
import CellWalk.Proofs.Pace

/-!
# The drawing of the grid

A cell is drawn in two lines of five code points, whatever its record, the registers and the editor are.
So the cells stand in columns of six with the gap, and a click finds the cell that is drawn under it
(`drawn_as_clicked`).
-/

namespace CellWalk.Screen
set_option autoImplicit false

variable {t : Text} {style : String}

/-! Cells. -/

/-- A plain text of the given width at most. -/
structure Fits (width : Nat) (t : Text) : Prop where
  plain : Plain t
  length : t.length ≤ width

/-- A line of a cell. -/
structure Strip (t : Text) : Prop where
  plain : Plain t
  length : t.length = 5

theorem plain_blanks (n : Nat) : Plain (List.replicate n (' ' : CodePoint)) := by
  intro p member
  obtain rfl := List.eq_of_mem_replicate member
  decide

theorem plain_digits (n : Nat) : Plain (Decimal.ofNat n) := by
  intro p member
  have digit := Decimal.isDigit_of_mem_ofNat member
  simp only [CodePoint.isDigit, Bool.and_eq_true, decide_eq_true_eq] at digit
  have bracket : (CodePoint.ofChar '[').val = 91 := by decide
  have backslash : (CodePoint.ofChar '\\').val = 92 := by decide
  refine ⟨?_, ?_, ?_⟩
  · rintro rfl
    omega
  · rintro rfl
    omega
  · exact Text.unbroken_ofNat n p member

theorem fits_byte (b : UInt8) : Fits 3 (Decimal.ofNat b.toNat) where
  plain := plain_digits _
  length := (Decimal.length_ofNat_le_iff (by decide)).2 (Nat.lt_trans b.toNat_lt (by decide))

/-- Every label fits its column. -/
theorem fits_label (o : Opcode) : Fits 3 (Text.ofString o.label) := by
  constructor
  · cases o <;> decide
  · cases o <;> decide

theorem fits_register (r : Register) : Fits 3 (Text.ofString r.name) := by
  constructor
  · cases r <;> decide
  · cases r <;> decide

/-- The end of a text, which starts later the longer the text is. -/
theorem fits_tail (plain : Plain t) : Fits 3 (t.drop (t.length - 3)) where
  plain := fun p member => plain p (List.mem_of_mem_drop member)
  length := by
    rw [List.length_drop]
    omega

/-- The operand's text has three code points at most; an address of three digits loses its mark. -/
theorem regular_operandText (opcode : Int) (operand : UInt8) (mode : Int) :
    Fits 3 (operandText opcode operand.toNat mode).1 ∧
      IsStyle (operandText opcode operand.toNat mode).2 := by
  have nothing : Fits 3 [] := ⟨by decide, by decide⟩
  have address : Plain (('@' : CodePoint) :: Decimal.ofInt (operand.toNat : Int)) := by
    have mark : Plain [('@' : CodePoint)] := by decide
    exact mark.append (plain_digits _)
  have white : IsStyle "white" := by decide
  have cyan : IsStyle "cyan" := by decide
  dsimp only [operandText]
  split
  · exact ⟨nothing, white⟩
  · split
    · split
      · exact ⟨fits_register .dat, by decide⟩
      · exact ⟨fits_register .stk, by decide⟩
      · exact ⟨fits_register _, white⟩
      · exact ⟨fits_tail address, cyan⟩
    · exact ⟨fits_byte operand, white⟩

theorem isStyle_labelColour (machine : Machine) (index : Int) : IsStyle (labelColour machine index) := by
  unfold labelColour
  split
  · decide
  · decide
  · split
    · split <;> decide
    · decide
  · decide

/-- What fits is filled up to its column with blanks. -/
theorem Fits.padLeft (fits : Fits 3 t) : Plain (Text.padLeft 3 t) ∧ (Text.padLeft 3 t).length = 3 := by
  refine ⟨(plain_blanks _).append fits.plain, ?_⟩
  rw [Text.padLeft, List.length_append, List.length_replicate, Nat.sub_add_cancel fits.length]

theorem Fits.padRight (fits : Fits 3 t) :
    Plain (Text.padRight 3 t) ∧ (Text.padRight 3 t).length = 3 := by
  refine ⟨fits.plain.append (plain_blanks _), ?_⟩
  rw [Text.padRight, List.length_append, List.length_replicate, Nat.add_sub_cancel' fits.length]

theorem plain_mark (dirs : UInt8) (d : Direction) {c : Char} (plain : Plain [(c : CodePoint)]) :
    Plain [mark dirs d c] := by
  unfold mark
  split
  · exact plain
  · decide

/-- Three columns between two marks. -/
theorem strip_framed {left right : CodePoint} (first : Plain [left]) (last : Plain [right])
    (middle : Plain t ∧ t.length = 3) : Strip (left :: t ++ [right]) where
  plain := (first.append middle.1).append last
  length := by
    rw [List.length_append, List.length_cons, middle.2]
    rfl

/-- What a face needs to be drawn in columns. -/
structure Face.Regular (f : Face) : Prop where
  top : Strip f.top
  bottom : Strip f.bottom
  colour : IsStyle f.colour
  valueColour : IsStyle f.valueColour

theorem regular_face (machine : Machine) (index : Int) : (face machine index).Regular := by
  have label : Fits 3
      (Text.ofString (((machine.instruction index).op?.map Opcode.label).getD "???")) := by
    cases (machine.instruction index).op? with
    | none => exact ⟨by decide, by decide⟩
    | some o => exact fits_label o
  simp only [face]
  split
  · exact
      { top := ⟨by decide, by decide⟩
        bottom := ⟨by decide, by decide⟩
        colour := by decide
        valueColour := by decide }
  · exact
      { top := strip_framed (plain_mark _ _ (by decide)) (plain_mark _ _ (by decide))
          label.padRight
        bottom := strip_framed (plain_mark _ _ (by decide)) (plain_mark _ _ (by decide))
          (regular_operandText _ _ _).1.padLeft
        colour := isStyle_labelColour machine index
        valueColour := (regular_operandText _ _ _).2 }

theorem strip_debuggerLine (machine : Machine) : Strip (debuggerLine machine) :=
  strip_framed (by decide) (by decide) (fits_byte _).padLeft

/-- Markup of one line of a cell. -/
structure Drawn (markup : Text) : Prop where
  strip : Strip (visible markup)
  shown : Shows markup (visible markup)
  unbroken : markup.Unbroken

theorem drawn_styled (isStyle : IsStyle style) (strip : Strip t) : Drawn (styled style t) := by
  have seen := shows_styled isStyle strip.plain
  have same := seen.visible_eq
  exact ⟨same.symm ▸ strip, same.symm ▸ seen, unbroken_styled isStyle strip.plain⟩

/-- A cell is drawn on two lines of five columns. -/
theorem drawn_renderCell (s : Session) (index : Int) :
    Drawn (renderCell s index).1 ∧ Drawn (renderCell s index).2 := by
  have regular := regular_face s.machine index
  simp only [renderCell]
  split
  · have bright : IsStyle "bold black on bright_white" := by decide
    exact ⟨drawn_styled bright regular.top, drawn_styled bright (strip_debuggerLine s.machine)⟩
  · split
    · have yellow : IsStyle "black on yellow" := by decide
      exact ⟨drawn_styled yellow regular.top, drawn_styled yellow regular.bottom⟩
    · exact ⟨drawn_styled regular.colour regular.top, drawn_styled regular.valueColour regular.bottom⟩

/-! The grid. -/

/-- The upper line of a cell, for 0, or the lower one. -/
def half (k : Nat) (lines : Text × Text) : Text := if k = 0 then lines.1 else lines.2

/-- A line of a cell as it is seen. -/
def cellLine (s : Session) (index : Int) (k : Nat) : Text := visible (half k (renderCell s index))

/-- The lines of the grid as they are seen. -/
def gridLines (s : Session) : List Text := (visible (renderGrid s)).splitLines

theorem drawn_half (s : Session) (index : Int) (k : Nat) : Drawn (half k (renderCell s index)) := by
  unfold half
  split
  · exact (drawn_renderCell s index).1
  · exact (drawn_renderCell s index).2

/-- The cell in a column, of the row that a line belongs to. -/
def cellOn (s : Session) (y col : Nat) : Nat := y / 2 * s.machine.grid.cols + col

/-- A line of the grid as markup. -/
def lineMarkup (s : Session) (y : Nat) : Text :=
  Text.joinWords ((List.range s.machine.grid.cols).map fun col =>
    half (y % 2) (renderCell s (cellOn s y col)))

/-- A line of the grid as it is seen: the lines of the cells in their order. -/
def lineSeen (s : Session) (y : Nat) : Text :=
  Text.joinWords ((List.range s.machine.grid.cols).map fun col => cellLine s (cellOn s y col) (y % 2))

/-- Two entries for every row make one list of twice as many. -/
theorem flatMap_pairs {α : Type} (f : Nat → Nat → α) (rows : Nat) :
    (List.range rows).flatMap (fun row => [f row 0, f row 1]) =
      (List.range (2 * rows)).map fun y => f (y / 2) (y % 2) := by
  induction rows with
  | zero => rfl
  | succ rows ih =>
    have upper : 2 * rows / 2 = rows ∧ 2 * rows % 2 = 0 := by omega
    have lower : (2 * rows + 1) / 2 = rows ∧ (2 * rows + 1) % 2 = 1 := by omega
    rw [List.range_succ, List.flatMap_append, ih, Nat.mul_succ, List.range_succ, List.range_succ]
    simp [upper, lower]

theorem renderGrid_eq (s : Session) : renderGrid s =
    Text.joinLines ((List.range (2 * s.machine.grid.rows)).map (lineMarkup s)) := by
  have pairs := flatMap_pairs (fun row k => Text.joinWords ((List.range s.machine.grid.cols).map fun col =>
    half k (renderCell s (row * s.machine.grid.cols + col : Nat)))) s.machine.grid.rows
  unfold lineMarkup cellOn
  rw [← pairs]
  simp [renderGrid, rowCells, half, Function.comp_def]

/-- A line shows its cells side by side. -/
theorem shows_lineMarkup (s : Session) (y : Nat) : Shows (lineMarkup s y) (lineSeen s y) :=
  joins_joinWords.shows (shows_of_unmarked (by decide)) fun _ _ => (drawn_half s _ _).shown

theorem unbroken_lineMarkup (s : Session) (y : Nat) : (lineMarkup s y).Unbroken := by
  apply Text.unbroken_joinWords
  intro w member
  obtain ⟨col, -, rfl⟩ := List.mem_map.1 member
  exact (drawn_half s _ _).unbroken

theorem cells_fixed (s : Session) (y : Nat) :
    ∀ w ∈ (List.range s.machine.grid.cols).map fun col => cellLine s (cellOn s y col) (y % 2),
      w.length = 5 := by
  intro w member
  obtain ⟨col, -, rfl⟩ := List.mem_map.1 member
  exact (drawn_half s _ _).strip.length

theorem unbroken_lineSeen (s : Session) (y : Nat) : (lineSeen s y).Unbroken := by
  apply Text.unbroken_joinWords
  intro w member
  obtain ⟨col, -, rfl⟩ := List.mem_map.1 member
  exact (drawn_half s _ _).strip.plain.unbroken

/-- Each cell has five columns, with one between two of them. -/
theorem length_lineSeen (s : Session) (y : Nat) :
    (lineSeen s y).length + 1 = 6 * s.machine.grid.cols := by
  have cols := s.machine.grid.cols_pos
  have joined := Text.length_joinWords (cells_fixed s y) (by simp; omega)
  rwa [List.length_map, List.length_range] at joined

/-- The lines of the grid are those of its cells. -/
theorem gridLines_eq (s : Session) :
    gridLines s = (List.range (2 * s.machine.grid.rows)).map (lineSeen s) := by
  have seen : Shows (Text.joinLines ((List.range (2 * s.machine.grid.rows)).map (lineMarkup s)))
      (Text.joinLines ((List.range (2 * s.machine.grid.rows)).map (lineSeen s))) :=
    joins_joinLines.shows (shows_of_unmarked (by decide)) fun y _ => shows_lineMarkup s y
  rw [gridLines, renderGrid_eq, seen.visible_eq]
  apply Text.splitLines_joinLines
  · intro l member
    obtain ⟨y, -, rfl⟩ := List.mem_map.1 member
    exact unbroken_lineSeen s y
  · intro l member
    obtain ⟨y, -, rfl⟩ := List.mem_map.1 member
    have length := length_lineSeen s y
    have cols := s.machine.grid.cols_pos
    exact List.ne_nil_of_length_pos (by omega)

/-- It makes no difference whether tags are taken out of the whole or out of every line. -/
theorem map_visible_lines (s : Session) : (renderGrid s).splitLines.map visible = gridLines s := by
  rw [gridLines_eq, renderGrid_eq, Text.splitLines_joinLines]
  · rw [List.map_map]
    exact List.map_congr_left fun y _ => (shows_lineMarkup s y).visible_eq
  · intro l member
    obtain ⟨y, -, rfl⟩ := List.mem_map.1 member
    exact unbroken_lineMarkup s y
  · intro l member
    obtain ⟨y, -, rfl⟩ := List.mem_map.1 member
    intro empty
    have seen := (shows_lineMarkup s y).visible_eq
    have length := length_lineSeen s y
    have cols := s.machine.grid.cols_pos
    rw [empty, show visible [] = [] from rfl] at seen
    rw [← seen, List.length_nil] at length
    omega

/-- A line of the grid has the cells of its row in columns of six. -/
theorem columns_lineSeen {s : Session} {y col : Nat} (inside : col < s.machine.grid.cols) :
    ((lineSeen s y).drop (6 * col)).take 5 = cellLine s (cellOn s y col) (y % 2) ∧
      ∀ place ≤ 5, (lineSeen s y)[6 * col + place]? =
        if place < 5 then (cellLine s (cellOn s y col) (y % 2))[place]?
        else if col + 1 < s.machine.grid.cols then some (' ' : CodePoint) else none := by
  have fixed := cells_fixed s y
  have here : ((List.range s.machine.grid.cols).map fun col =>
      cellLine s (cellOn s y col) (y % 2))[col]? = some (cellLine s (cellOn s y col) (y % 2)) := by
    rw [List.getElem?_map, List.getElem?_range inside]
    rfl
  constructor
  · obtain ⟨short, found⟩ := List.getElem?_eq_some_iff.1 here
    have wide := fixed _ (List.mem_of_getElem? here)
    rw [lineSeen, Text.drop_joinWords fixed short, List.drop_eq_getElem_cons short, found, ← wide]
    exact Text.take_joinWords
  · intro place within
    have drawn := Text.getElem?_joinWords fixed here within
    rwa [List.length_map, List.length_range] at drawn

/-! Clicks. -/

/-- What a display does that passes a click on a cell to its session: it shows the session after the
click, and brings the panels up to date if the click has taken effect. -/
structure Display.Clicks (d : Display) (index : Int) (r : Except DisplayError Unit × Display) : Prop where
  session : r.2.session = (d.session.click index).2
  refused : (d.session.click index).1 = false →
    r = (.ok (), { d with session := (d.session.click index).2 })
  taken : (d.session.click index).1 = true →
    r.2 = (Display.refresh { d with session := (d.session.click index).2 }).2

/-- Drawing leaves the session alone. -/
theorem session_refresh (d : Display) : d.refresh.2.session = d.session := by
  unfold Display.refresh
  split <;> rfl

/-- A place belongs to the cell in its row of two lines and its column of six. -/
theorem cellAt?_natCast (g : Grid) (x y : Nat) :
    cellAt? g x y =
      if x / 6 < g.cols ∧ y / 2 < g.rows then some ((y / 2 * g.cols + x / 6 : Nat) : Int) else none := by
  have column : Int.fdiv (x : Int) cellWidth = (x / 6 : Nat) :=
    Int.fdiv_eq_ediv_of_nonneg x (Int.natCast_nonneg cellWidth)
  have row : Int.fdiv (y : Int) cellHeight = (y / 2 : Nat) :=
    Int.fdiv_eq_ediv_of_nonneg y (Int.natCast_nonneg cellHeight)
  simp only [cellAt?, column, row]
  by_cases inside : x / 6 < g.cols ∧ y / 2 < g.rows
  · rw [if_pos inside, if_neg (by omega)]
    simp
  · rw [if_neg inside, if_pos (by omega)]

theorem clicks_mouse {d : Display} {x y index : Int}
    (found : cellAt? d.session.machine.grid x y = some index) : d.Clicks index (d.mouse x y) := by
  cases clicked : d.session.click index with
  | mk took session =>
    cases took with
    | false =>
      have stepped : d.mouse x y = (.ok (), { d with session }) := by
        simp only [Display.mouse, found, clicked]
      constructor
      · rw [stepped, clicked]
      · intro _
        rw [stepped, clicked]
      · intro done
        rw [clicked] at done
        cases done
    | true =>
      have stepped : (d.mouse x y).2 = (Display.refresh { d with session }).2 := by
        simp only [Display.mouse, found, clicked]
        cases Display.refresh { d with session } with
        | mk answer after => cases answer <;> rfl
      constructor
      · rw [stepped, clicked]
        exact session_refresh { d with session }
      · intro refused
        rw [clicked] at refused
        cases refused
      · intro _
        rw [stepped, clicked]

/-- Every line of a cell is seen as five code points, so the grid is seen as two lines for every row, each
six for every column less the last gap, with the cells where they belong. A click goes to the session
with the number of the cell that is drawn there or to the left of the gap there, and outside nothing
happens. -/
theorem drawn_as_clicked (s : Session) :
    (∀ index k, (cellLine s index k).length = 5) ∧
      (renderGrid s).splitLines.map visible = gridLines s ∧
      (gridLines s).length = 2 * s.machine.grid.rows ∧
      (∀ line ∈ gridLines s, line.length = 6 * s.machine.grid.cols - 1) ∧
      (∀ row col k, row < s.machine.grid.rows → col < s.machine.grid.cols → k < 2 →
        ∃ line, (gridLines s)[2 * row + k]? = some line ∧
          (line.drop (6 * col)).take 5 = cellLine s (row * s.machine.grid.cols + col : Nat) k) ∧
      ∀ (output : OutputLog) (x y : Nat),
        let d : Display := ⟨s, output⟩
        if x / 6 < s.machine.grid.cols ∧ y / 2 < s.machine.grid.rows then
          let index : Nat := y / 2 * s.machine.grid.cols + x / 6
          d.Clicks index (d.mouse x y) ∧ ∃ l, (gridLines s)[y]? = some l ∧
            l[x]? =
              if x % 6 < 5 then (cellLine s index (y % 2))[x % 6]?
              else if x / 6 + 1 < s.machine.grid.cols then some (' ' : CodePoint) else none
        else d.mouse x y = (.ok (), d) := by
  refine ⟨?_, map_visible_lines s, ?_, ?_, ?_, ?_⟩
  · intro index k
    exact (drawn_half s index k).strip.length
  · rw [gridLines_eq, List.length_map, List.length_range]
  · intro line member
    rw [gridLines_eq] at member
    obtain ⟨y, -, rfl⟩ := List.mem_map.1 member
    have length := length_lineSeen s y
    omega
  · intro row col k rowInside colInside upper
    have number : (2 * row + k) / 2 = row ∧ (2 * row + k) % 2 = k := by omega
    have columns := (columns_lineSeen (s := s) (y := 2 * row + k) colInside).1
    rw [cellOn, number.1, number.2] at columns
    refine ⟨lineSeen s (2 * row + k), ?_, columns⟩
    rw [gridLines_eq, List.getElem?_map, List.getElem?_range (by omega)]
    rfl
  · intro output x y d
    split
    · rename_i inside
      have found : cellAt? d.session.machine.grid x y = some (cellOn s y (x / 6) : Int) := by
        rw [cellAt?_natCast]
        exact if_pos inside
      have drawn := (columns_lineSeen (y := y) inside.1).2 (x % 6) (by omega)
      rw [Nat.div_add_mod] at drawn
      refine ⟨clicks_mouse found, lineSeen s y, ?_, drawn⟩
      rw [gridLines_eq, List.getElem?_map, List.getElem?_range (by omega)]
      rfl
    · rename_i outside
      have nothing : cellAt? d.session.machine.grid x y = none := by
        rw [cellAt?_natCast]
        exact if_neg outside
      simp only [Display.mouse, nothing]

/-- The second cell of three is drawn from the seventh column on, and a click there walks to it. -/
theorem click_on_second_cell :
    let s := Session.paceLoaded [1, 2, 3]
    (∃ line, (gridLines s)[1]? = some line ∧ (line.drop 6).take 5 = cellLine s 1 1) ∧
      (Display.mouse ⟨s, .empty⟩ 8 1).2.session = (s.click 1).2 ∧ (s.click 1).2.machine.ip = 1 := by
  intro s
  obtain ⟨-, -, -, -, drawn, clicks⟩ := drawn_as_clicked s
  have passed := clicks .empty 8 1
  rw [if_pos (by decide)] at passed
  exact ⟨drawn 0 1 1 (by decide) (by decide) (by decide), passed.1.session, by decide⟩

end CellWalk.Screen
