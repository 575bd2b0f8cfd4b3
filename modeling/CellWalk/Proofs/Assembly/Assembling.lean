import CellWalk.Proofs.Assembly.Meaning
import CellWalk.Proofs.Assembly.Places
import CellWalk.Proofs.Memory
import Mathlib.Control.Monad.Basic

/-!
# What a text is assembled to

A text that can be read is assembled to the program that its statements describe if they fit the grid, and
refused at the first one that does not (`assemble_of_parse`). Only for a grid whose image no memory
holds the text does not count. A machine that loads the program has in every cell the record that the
text gives it, but for bytes that are told again later.
-/

namespace CellWalk
set_option autoImplicit false

/-! Sizes. -/

theorem Size.ofBytes_of_lt {n : Nat} (large : addresses < n) :
    ofBytes n = .error (if n ≤ maxIndex then .beyondMemory else .beyondIndex) := by
  by_cases index : n ≤ maxIndex
  · rw [ofBytes, ofItems_natCast index, if_pos index]
    exact if_neg (Nat.not_le.2 large)
  · have beyond : (n : Int) < -(maxIndex : Int) - 1 ∨ (maxIndex : Int) < n := by omega
    rw [ofBytes, ofItems, if_pos beyond, if_neg index]

theorem memorySize_grid (g : Grid) : memorySize g.cols g.rows = (Machine.sizeFor g : Nat) := by
  rw [memorySize, Machine.sizeFor, Grid.cells]
  push_cast
  rfl

/-! Machines. -/

/-- Up to 256 cells there is a machine for the grid. -/
theorem Machine.create_grid {g : Grid} (few : g.cells ≤ 256) :
    create g.cols g.rows = .ok (blank g few) := by
  have sides : 0 < (g.cols : Int).toNat ∧ 0 < (g.rows : Int).toNat := ⟨g.cols_pos, g.rows_pos⟩
  rw [create, dif_pos sides]
  exact dif_pos few

/-- A cell holds the record whose bytes stand at its address. -/
theorem Machine.instruction_of_bytes {m : Machine} {n : Nat} (on : n < m.grid.cells) {r : Instruction}
    (bytes : ∀ i < Instruction.width,
      m.memory.getD (Assembly.recordAddress n + i) 0 = r.toBytes.getD i 0) :
    m.instruction n = r := by
  have fetched : ∀ i < Instruction.width, m.fetch n i = r.toBytes.getD i 0 := by
    intro i field
    have inside : m.grid.contains n = true := Grid.contains_iff.2 ⟨by omega, by omega⟩
    have address : fieldAddress n i = (Assembly.recordAddress n + i : Nat) := by
      rw [fieldAddress, Assembly.recordAddress]
      push_cast
      rfl
    rw [fetch_of_contains inside (Int.natCast_nonneg i) (Int.ofNat_lt.2 field), reg, address,
      Image.read_natCast, bytes i field]
  rw [instruction]
  congr 1
  · exact fetched 0 (by decide)
  · exact fetched 1 (by decide)
  · exact fetched 2 (by decide)
  · exact fetched 3 (by decide)

namespace Assembly

open Grammar Statement

variable {g : Grid}

/-! Statements in their text. -/

/-- Statements stand one after the other up to a place of the text. -/
inductive Runs [CharacterNames] : Text → List Statement → Text → Prop
  | nil (t : Text) : Runs t [] t
  | cons {t mid rest : Text} {s : Statement} {ss : List Statement} (first : Phrase folded t s mid)
      (more : Runs mid ss rest) : Runs t (s :: ss) rest

/-- The text up to a statement spells those before it. -/
theorem runs_of_spells [CharacterNames] {t : Text} {before after : List Statement} {s : Statement}
    (spells : Spells folded t (before ++ s :: after)) :
    ∃ own rest, Runs t before own ∧ Phrase folded own s rest := by
  induction before generalizing t with
  | nil =>
    cases spells with
    | cons first more => exact ⟨t, _, .nil t, first⟩
  | cons s' before ih =>
    cases spells with
    | cons first more =>
      obtain ⟨own, rest, earlier, phrase⟩ := ih more
      exact ⟨own, rest, .cons first earlier, phrase⟩

theorem Runs.suffix [CharacterNames] {t rest : Text} {ss : List Statement}
    (runs : Runs t ss rest) : rest <:+ t := by
  induction runs with
  | nil => exact List.suffix_rfl
  | cons first _ ih => exact ih.trans first.suffix

/-- No statement has more values for the stack than it has slots. -/
theorem shortStack_of_spells [CharacterNames] {t : Text} {ss : List Statement} (spells : Spells folded t ss) :
    ∀ s ∈ ss, ShortStack s := by
  induction spells with
  | done => exact fun _ member => absurd member List.not_mem_nil
  | cons first _ ih =>
    intro s member
    rcases List.mem_cons.1 member with rfl | later
    · cases first with
      | stack _ _ few => exact few
      | id | cycles | label | register | byte | cell => trivial
    · exact ih s later

/-- The first statement that does not fit those before it, why it does not, and where the number stands
that says which byte or which cell it is about: the line feeds before it, and how far it is from the last
of them, both counted from 1. -/
inductive FirstOffence [CharacterNames] (g : Grid) (text : Text) (ss : List Statement) :
    Refusal → Place → Prop
  | intro {before after : List Statement} {s : Statement} {own rest ahead lexeme behind : Text}
      {refusal : Refusal} {n : Nat} (order : ss = before ++ s :: after) (earlier : Runs text before own)
      (phrase : Phrase folded own s rest) (fits : Fitting g before)
      (offends : Offends g before s refusal (lexeme ++ behind).length)
      (stands : text = ahead ++ (lexeme ++ behind)) (digits : number n lexeme behind)
      (about : s.number? = some n) :
      FirstOffence g text ss refusal
        ⟨1 + (ahead.count Text.newline : Nat), 1 + ((Text.lastLine ahead).length : Nat)⟩

/-- A statement that offends is blamed where its number stands. -/
theorem number_of_offends [CharacterNames] {before : List Statement} {s : Statement} {own rest : Text}
    {refusal : Refusal} {left : Nat} (phrase : Phrase folded own s rest)
    (offends : Offends g before s refusal left) :
    ∃ n t behind, t <:+ own ∧ ComesAt (number n) t left behind ∧ s.number? = some n := by
  cases phrase with
  | id | cycles | label | stack => cases offends
  | register =>
    cases offends with
    | offset outside =>
      have inside := Machine.address_lt ‹Register›
      rw [Machine.sizeFor] at outside
      omega
  | byte keyword offset_ =>
    cases offends
    exact ⟨_, _, _, keyword.suffix, offset_, rfl⟩
  | cell position_ =>
    have same : ∀ {p : Position} {record : Instruction} {left' : Nat},
        Offends g before (.cell p record left') refusal left → left = left' := by
      intro p record left' offends
      cases offends <;> rfl
    cases same offends
    cases position_ with
    | flat index_ => exact ⟨_, _, _, List.suffix_rfl, index_, rfl⟩
    | grid row_ => exact ⟨_, _, _, List.suffix_rfl, row_, rfl⟩

/-! Records. -/

section records
variable {ss before after : List Statement} {position : Position} {record : Instruction} {left : Nat}

theorem value?_of_not_covered {s : Statement} {a : Nat}
    (outside : ¬((s.bytes g).1 ≤ a ∧ a < (s.bytes g).1 + (s.bytes g).2.length)) :
    s.value? g a = none := by
  rw [value?]
  split
  · exact List.getElem?_eq_none (by omega)
  · rfl

/-- The bytes of a cell's record are given by no later statement but by a byte of its own. -/
theorem value?_later (fits : Fitting g (before ++ .cell position record left :: after))
    (short : ∀ s ∈ after, ShortStack s) {i : Nat} (field : i < Instruction.width)
    (kept : ∀ value left', .byte (recordAddress (position.cell g) + i) value left' ∉ after) :
    ∀ s ∈ after, s.value? g (recordAddress (position.cell g) + i) = none := by
  intro s member
  refine value?_of_not_covered fun covered => ?_
  have base : ∀ n : Nat, recordAddress n = programBase + n * Instruction.width := fun _ => rfl
  rw [Instruction.width] at field
  cases s with
  | id | cycles | label => exact absurd covered.2 (by simp [Statement.bytes])
  | stack values =>
    have few : values.length ≤ stackSlots := short _ member
    have below : stackBase + stackSlots ≤ programBase := by decide
    simp only [Statement.bytes, base] at covered
    omega
  | byte offset value left' =>
    have same : offset = recordAddress (position.cell g) + i := by
      simp only [Statement.bytes, List.length_singleton] at covered
      omega
    exact kept value left' (same ▸ member)
  | cell position' record' left' =>
    have other : position.cell g ≠ position'.cell g := by
      have once := fits.once
      rw [List.filterMap_append, List.nodup_append] at once
      obtain ⟨fresh, -⟩ := List.nodup_cons.1 once.2.1
      exact fun same => fresh (List.mem_filterMap.2 ⟨_, member, congrArg some same.symm⟩)
    simp only [Statement.bytes, Instruction.length_toBytes, base, Instruction.width] at covered
    omega

/-- The bytes of a record that is not told over again are the last values. -/
theorem last_value_of_cell (fits : Fitting g (before ++ .cell position record left :: after))
    (short : ∀ s ∈ after, ShortStack s) {i : Nat} (field : i < Instruction.width)
    (kept : ∀ value left', .byte (recordAddress (position.cell g) + i) value left' ∉ after) :
    ((before ++ .cell position record left :: after).filterMap
      (·.value? g (recordAddress (position.cell g) + i))).getLast?.getD 0 = record.toBytes.getD i 0 := by
  have later := List.filterMap_eq_nil_iff.2 (value?_later fits short field kept)
  have covered : (Statement.cell position record left).value? g (recordAddress (position.cell g) + i) =
      some (record.toBytes.getD i 0) := by
    have known : i < record.toBytes.length := field
    rw [value?, Statement.bytes, if_pos (Nat.le_add_right _ _), Nat.add_sub_cancel_left,
      List.getElem?_eq_getElem known, List.getD_eq_getElem _ _ known]
  rw [List.append_cons, List.filterMap_append, later, List.append_nil,
    getLast?_filterMap_append_singleton, covered]
  rfl

/-- A machine of the grid that loads the program holds the record. -/
theorem Describes.instruction {p : Program} {m : Machine}
    (told : Describes g (before ++ .cell position record left :: after) p)
    (fits : Fitting g (before ++ .cell position record left :: after))
    (short : ∀ s ∈ after, ShortStack s) (grid : m.grid = g) (holds : m.memory = p.memory)
    (kept : ∀ i < Instruction.width, ∀ value left',
      .byte (recordAddress (position.cell g) + i) value left' ∉ after) :
    m.instruction (position.cell g) = record := by
  subst grid
  have inside : position.cell m.grid < m.grid.cells := Position.cell_lt fits.next.1
  refine Machine.instruction_of_bytes inside fun i field => ?_
  have room : recordAddress (position.cell m.grid) + i < Machine.sizeFor m.grid := by
    have base : recordAddress (position.cell m.grid) =
      programBase + position.cell m.grid * Instruction.width := rfl
    rw [base, Machine.sizeFor]
    rw [Instruction.width] at field ⊢
    omega
  rw [holds, told.bytes _ room]
  exact last_value_of_cell fits short field (kept i field)

/-- A machine of the grid loads the program. -/
theorem Describes.loads {p : Program} (told : Describes g ss p) (few : g.cells ≤ 256) :
    ∃ start m : Machine, Machine.create g.cols g.rows = .ok start ∧ start.load p.memory = .ok m ∧
      m.grid = g ∧ m.memory = p.memory := by
  have size : p.memory.length = (Machine.blank g few).memory.length := by
    rw [told.size]
    exact List.length_replicate.symm
  refine ⟨_, { Machine.blank g few with memory := p.memory }, Machine.create_grid few, ?_, rfl, rfl⟩
  rw [Machine.load, Image.restore, if_pos size]
  rfl

end records

/-! Texts. -/

section texts
variable [CharacterNames] {text : Text} {ss : List Statement}

/-- No memory holds the image of the grid, whatever the text says. -/
theorem assemble_of_large (text : Text) (large : Size.addresses < Machine.sizeFor g) :
    ∃ d, d ≠ .negative ∧ assemble text g.cols g.rows = .error (.size d) := by
  rw [assemble, memorySize_grid, Size.ofBytes_of_lt large]
  refine ⟨_, fun negative => ?_, rfl⟩
  split at negative <;> cases negative

/-- A text that is not read is not assembled, for the same reason. -/
theorem assemble_of_parse_error {fault : Fault Place} (failed : parse text = .error fault)
    (held : Machine.sizeFor g ≤ Size.addresses) : assemble text g.cols g.rows = .error fault := by
  rw [assemble, memorySize_grid, Size.ofBytes_natCast held]
  simp only [failed]

/-- What is assembled has been read, and a memory holds its image. -/
theorem parsed_of_assembled {p : Program} (assembled : assemble text g.cols g.rows = .ok p) :
    Machine.sizeFor g ≤ Size.addresses ∧ ∃ ss, parse text = .ok ss := by
  have held : Machine.sizeFor g ≤ Size.addresses := by
    by_contra large
    obtain ⟨d, -, failed⟩ := assemble_of_large text (Nat.not_le.1 large)
    cases assembled.symm.trans failed
  refine ⟨held, ?_⟩
  cases parsed : parse text with
  | ok ss => exact ⟨ss, rfl⟩
  | error e => cases assembled.symm.trans (assemble_of_parse_error parsed held)

/-- A text that is read is built, and a fault is told at its place. -/
theorem assemble_eq (parsed : parse text = .ok ss) (held : Machine.sizeFor g ≤ Size.addresses) :
    assemble text g.cols g.rows =
      (build (Machine.sizeFor g) g.cols g.rows ss).mapError (Fault.map (Place.of text)) := by
  rw [assemble, memorySize_grid, Size.ofBytes_natCast held]
  simp only [parsed]
  cases build (Machine.sizeFor g) g.cols g.rows ss <;> rfl

theorem assemble_of_fitting (parsed : parse text = .ok ss)
    (held : Machine.sizeFor g ≤ Size.addresses) (fits : Fitting g ss) :
    ∃ p, assemble text g.cols g.rows = .ok p ∧ Describes g ss p := by
  obtain ⟨p, built, told⟩ := build_of_fitting fits (shortStack_of_spells (spells_of_parse parsed))
  refine ⟨p, ?_, told⟩
  rw [assemble_eq parsed held, built]
  rfl

theorem assemble_of_offence {refusal : Refusal} {place : Place} (parsed : parse text = .ok ss)
    (held : Machine.sizeFor g ≤ Size.addresses) (offence : FirstOffence g text ss refusal place) :
    assemble text g.cols g.rows = .error (.refused refusal place) := by
  have short := shortStack_of_spells (spells_of_parse parsed)
  cases offence with
  | @intro before after s own rest ahead lexeme behind refusal n order _ _ fits offends stands =>
    subst order
    have built : build (Machine.sizeFor g) g.cols g.rows (before ++ s :: after) =
        .error (.refused refusal (lexeme ++ behind).length) :=
      build_of_offends fits offends fun s member => short s (List.mem_append_left _ member)
    rw [assemble_eq parsed held, built, ← Place.of_append, ← stands]
    rfl

/-- What does not fit has a first statement that does not. -/
theorem exists_offence (parsed : parse text = .ok ss) (unfit : ¬ Fitting g ss) :
    ∃ refusal place, FirstOffence g text ss refusal place := by
  obtain ⟨before, s, after, refusal, left, rfl, fits, offends⟩ := exists_offends unfit
  obtain ⟨own, rest, earlier, phrase⟩ := runs_of_spells (spells_of_parse parsed)
  obtain ⟨n, t, behind, part, ⟨lexeme, layout, digits, rfl⟩, about⟩ := number_of_offends phrase offends
  obtain ⟨ahead, stands⟩ := layout.suffix.trans (part.trans earlier.suffix)
  exact ⟨refusal, _, .intro rfl earlier phrase fits offends stands.symm digits about⟩

theorem fitting_of_assembled {p : Program} (parsed : parse text = .ok ss)
    (held : Machine.sizeFor g ≤ Size.addresses) (assembled : assemble text g.cols g.rows = .ok p) :
    Fitting g ss := by
  by_contra unfit
  obtain ⟨refusal, place, offence⟩ := exists_offence parsed unfit
  rw [assemble_of_offence parsed held offence] at assembled
  cases assembled

/-- A program that is assembled is the one that the statements describe. -/
theorem describes_of_assembled {p : Program} (parsed : parse text = .ok ss)
    (held : Machine.sizeFor g ≤ Size.addresses) (assembled : assemble text g.cols g.rows = .ok p) :
    Describes g ss p := by
  obtain ⟨p', assembled', told⟩ :=
    assemble_of_fitting parsed held (fitting_of_assembled parsed held assembled)
  rw [assembled] at assembled'
  cases assembled'
  exact told

theorem assemble_eq_error_iff {fault : Fault Place} (parsed : parse text = .ok ss)
    (held : Machine.sizeFor g ≤ Size.addresses) :
    assemble text g.cols g.rows = .error fault ↔
      ∃ refusal place, FirstOffence g text ss refusal place ∧ fault = .refused refusal place := by
  constructor
  · intro failed
    by_cases fits : Fitting g ss
    · obtain ⟨p, assembled, -⟩ := assemble_of_fitting parsed held fits
      rw [assembled] at failed
      cases failed
    · obtain ⟨refusal, place, offence⟩ := exists_offence parsed fits
      rw [assemble_of_offence parsed held offence] at failed
      exact ⟨refusal, place, offence, (Except.error.inj failed).symm⟩
  · rintro ⟨refusal, place, offence, rfl⟩
    exact assemble_of_offence parsed held offence

/-- A text that can be read is assembled exactly if its statements fit the grid. If they do not, it is
refused for the first one that does not and at its place; if they do, the program is the one that they
describe, and a machine that loads it has the record of every cell, unless a byte of it is told over
again later. All this holds of a grid whose image a memory can hold; on a larger one no text is
assembled. -/
theorem assemble_of_parse (parsed : parse text = .ok ss) :
    (Size.addresses < Machine.sizeFor g →
      ∃ d, d ≠ .negative ∧ assemble text g.cols g.rows = .error (.size d)) ∧
    (Machine.sizeFor g ≤ Size.addresses →
      ((∃ p, assemble text g.cols g.rows = .ok p) ↔ Fitting g ss) ∧
      (∀ fault, assemble text g.cols g.rows = .error fault ↔
        ∃ refusal place, FirstOffence g text ss refusal place ∧ fault = .refused refusal place) ∧
      ∀ p, assemble text g.cols g.rows = .ok p → Describes g ss p ∧
        (g.cells ≤ 256 → ∃ start m, Machine.create g.cols g.rows = .ok start ∧
          start.load p.memory = .ok m ∧
          ∀ before position record left after, ss = before ++ .cell position record left :: after →
            (∀ i < Instruction.width, ∀ value left',
              .byte (recordAddress (position.cell g) + i) value left' ∉ after) →
            m.instruction (position.cell g) = record)) := by
  refine ⟨assemble_of_large text, fun held => ⟨⟨?_, ?_⟩, ?_, ?_⟩⟩
  · rintro ⟨p, assembled⟩
    exact fitting_of_assembled parsed held assembled
  · intro fits
    obtain ⟨p, assembled, -⟩ := assemble_of_fitting parsed held fits
    exact ⟨p, assembled⟩
  · exact fun fault => assemble_eq_error_iff parsed held
  · intro p assembled
    have fits := fitting_of_assembled parsed held assembled
    have told := describes_of_assembled parsed held assembled
    refine ⟨told, fun few => ?_⟩
    obtain ⟨start, m, created, loaded, grid, memory⟩ := told.loads few
    refine ⟨start, m, created, loaded, ?_⟩
    rintro before position record left after rfl kept
    have short : ∀ s ∈ after, ShortStack s := fun s member =>
      shortStack_of_spells (spells_of_parse parsed) s
        (List.mem_append_right _ (List.mem_cons_of_mem _ member))
    exact told.instruction fits short grid memory kept

end texts

/-- Two cells in a row. -/
def pairGrid : Grid := ⟨2, 1, Nat.two_pos, Nat.one_pos⟩

section toldOver
attribute [local instance] Label.bulletNames

/-- A text that tells the last byte of the first cell over again. -/
def toldOverText : Text := ".label \"\\N\x7bBULLET\x7d\" 0: NOP .byte 27 8 0,1: GET"

/-- What it says. -/
def toldOver : List Statement :=
  [.label "•", .cell (.flat 0) ⟨1, 0, 0, 0⟩ 26, .byte 27 8 13, .cell (.grid 0 1) ⟨2, 0, 0, 0⟩ 8]

theorem assemble_toldOver :
    parse toldOverText = .ok toldOver ∧ Machine.sizeFor pairGrid ≤ Size.addresses ∧ ∃ p start m,
      assemble toldOverText 2 1 = .ok p ∧ p.labels = [Text.ofString "•"] ∧
      p.memory.getD 24 0 = 1 ∧ p.memory.getD 27 0 = 8 ∧ p.memory.getD 10 0 = 0 ∧
      Machine.create 2 1 = .ok start ∧ start.load p.memory = .ok m ∧
      m.instruction 1 = ⟨2, 0, 0, 0⟩ := by
  have parsed : parse toldOverText = .ok toldOver := by decide +kernel
  have held : Machine.sizeFor pairGrid ≤ Size.addresses := by decide
  have label := (fitting_nil pairGrid).add (s := .label "•") trivial
  have first := label.add (s := .cell (.flat 0) ⟨1, 0, 0, 0⟩ 26) ⟨by decide, by decide⟩
  have second := first.add (s := .byte 27 8 13) (by decide : 27 < Machine.sizeFor pairGrid)
  have fits : Fitting pairGrid toldOver :=
    second.add (s := .cell (.grid 0 1) ⟨2, 0, 0, 0⟩ 8) ⟨by decide, by decide⟩
  obtain ⟨assembles, -, programs⟩ := (assemble_of_parse parsed).2 held
  obtain ⟨p, assembled⟩ := assembles.2 fits
  obtain ⟨told, machines⟩ := programs p assembled
  obtain ⟨start, m, created, loaded, records⟩ := machines (by decide)
  have record := records [.label "•", .cell (.flat 0) ⟨1, 0, 0, 0⟩ 26, .byte 27 8 13] _ _ _ [] rfl
    fun _ _ _ _ => List.not_mem_nil
  exact ⟨parsed, held, p, start, m, assembled, told.labels, (told.bytes 24 (by decide)).trans (by decide),
    (told.bytes 27 (by decide)).trans (by decide), (told.bytes 10 (by decide)).trans (by decide),
    created, loaded, record⟩

end toldOver

/-- A row that is longer than any index. -/
def endlessRow : Grid := ⟨2 ^ 61, 1, Nat.two_pow_pos 61, Nat.one_pos⟩

/-- The cell is not on its grid, and yet that is not what is told. -/
theorem endlessRow_tells_no_cell :
    parse "5,0: NOP" = .ok [.cell (.grid 5 0) ⟨1, 0, 0, 0⟩ 8] ∧
      ¬ Fitting endlessRow [.cell (.grid 5 0) ⟨1, 0, 0, 0⟩ 8] ∧
      assemble "5,0: NOP" endlessRow.cols endlessRow.rows = .error (.size .beyondIndex) := by
  refine ⟨by decide +kernel, fun fits => ?_, rfl⟩
  exact absurd (fits.onGrid _ _ _ List.mem_cons_self) (by decide)

end Assembly

end CellWalk
