import CellWalk.Proofs.Assembly.RoundTrip
import CellWalk.Proofs.Columns
import CellWalk.Proofs.Json.Strings

/-!
# Raw bytes in a listing

A listing gives the record of a cell as raw bytes only if no mnemonic describes it. If there is one for
every record, then among the lines of the listing none is such a line, whatever id, goals and labels it
tells (`listing_without_raw_lines`): the lines that are no cell's begin with a semicolon or a dot, and
that of a cell goes on with a mnemonic where a raw one has its `DB`.
-/

namespace CellWalk.Assembly
set_option autoImplicit false

/-- A text that may be the place of a cell, given by numbers. -/
def IsPlace (place : Text) : Prop := ∀ p ∈ place, p.isDigit = true ∨ p = ','

/-- A line that gives the record of a place as raw bytes. -/
def IsRaw (line : Text) : Prop :=
  ∃ place rest : Text, IsPlace place ∧ line = place ++ (Text.ofString ": DB " ++ rest)

/-- A single line, and not a raw one. -/
structure Proper (line : Text) : Prop where
  unbroken : line.Unbroken
  notRaw : ¬IsRaw line

variable {line t t' : Text} {words : List Text} {m : Image} {c r : Nat}

/-! Words on a line. -/

theorem unbroken_ofInt (v : Int) : (Decimal.ofInt v).Unbroken := by
  cases v with
  | ofNat n => exact Text.unbroken_ofNat n
  | negSucc n =>
    have sign : Text.Unbroken [('-' : CodePoint)] := by decide
    exact Text.Unbroken.append sign (Text.unbroken_ofNat (n + 1))

theorem unbroken_mnemonic (o : Opcode) : (Text.ofString o.mnemonic).Unbroken := by
  cases o <;> decide

theorem unbroken_register (q : Register) : (Text.ofString q.name).Unbroken := by
  cases q <;> decide

theorem unbroken_operandText (operand mode : UInt8) : ∀ w ∈ operandText operand mode, w.Unbroken := by
  have address : Text.Unbroken [('@' : CodePoint)] := by decide
  have value : Text.Unbroken [('#' : CodePoint)] := by decide
  unfold operandText
  intro w member
  split at member
  · split at member
    · obtain rfl := List.mem_singleton.1 member
      exact unbroken_register _
    · obtain rfl := List.mem_singleton.1 member
      exact Text.Unbroken.append address (Text.unbroken_ofNat _)
  · split at member
    · cases member
    · obtain rfl := List.mem_singleton.1 member
      exact Text.Unbroken.append value (Text.unbroken_ofNat _)

theorem unbroken_maskText (dirs : UInt8) : ∀ w ∈ maskText dirs, w.Unbroken := by
  unfold maskText
  intro w member
  split at member
  · cases member
  · obtain rfl := List.mem_singleton.1 member
    intro p inside
    obtain ⟨letter, spelled, rfl⟩ := List.mem_map.1 inside
    rw [List.mem_append, List.mem_cons, List.mem_singleton] at spelled
    rcases spelled with (rfl | named) | rfl
    · decide
    · obtain ⟨d, -, rfl⟩ := List.mem_map.1 named
      cases d <;> decide
    · decide

theorem unbroken_instructionText (record : Instruction) : (instructionText record).Unbroken := by
  unfold instructionText
  split
  · apply Text.unbroken_joinWords
    intro w member
    rw [List.cons_append, List.mem_cons, List.mem_append] at member
    rcases member with rfl | operand | mask
    · exact unbroken_mnemonic _
    · exact unbroken_operandText _ _ w operand
    · exact unbroken_maskText _ w mask
  · apply Text.unbroken_joinWords
    intro w member
    rcases List.mem_cons.1 member with rfl | byte
    · decide
    · obtain ⟨b, -, rfl⟩ := List.mem_map.1 byte
      exact Text.unbroken_ofNat _

/-! Lines that are no cell's. -/

/-- A raw line starts with its place. -/
theorem not_isRaw_cons {p : CodePoint} (other : p.isDigit = false ∧ p ≠ ',' ∧ p ≠ ':') (t : Text) :
    ¬IsRaw (p :: t) := by
  rintro ⟨place, rest, places, spelled⟩
  cases place with
  | nil =>
    have colon : p = ':' := (List.cons.inj spelled).1
    exact other.2.2 colon
  | cons q place =>
    obtain rfl : p = q := (List.cons.inj spelled).1
    rcases places p List.mem_cons_self with digit | comma
    · rw [other.1] at digit
      cases digit
    · exact other.2.1 comma

/-- A line that begins with a keyword. -/
theorem proper_keyword {name : List Char} (dotted : name.head? = some '.')
    (unbroken : Text.Unbroken (Text.ofChars name ++ t)) : Proper (Text.ofChars name ++ t) := by
  refine ⟨unbroken, ?_⟩
  cases name with
  | nil => cases dotted
  | cons c name =>
    obtain rfl : c = '.' := Option.some.inj dotted
    exact not_isRaw_cons (by decide) _

/-- The words after a keyword are one line, and no raw one. -/
theorem proper_words {keyword : String} (dotted : keyword.toList.head? = some '.')
    (single : (Text.ofString keyword).Unbroken) (unbroken : ∀ w ∈ words, w.Unbroken) :
    Proper (Text.joinWords (Text.ofString keyword :: words)) := by
  have whole : (Text.joinWords (Text.ofString keyword :: words)).Unbroken := by
    apply Text.unbroken_joinWords
    intro w member
    rcases List.mem_cons.1 member with rfl | later
    · exact single
    · exact unbroken w later
  have split : ∃ t,
      Text.joinWords (Text.ofString keyword :: words) = Text.ofChars keyword.toList ++ t := by
    cases words with
    | nil => exact ⟨[], (List.append_nil _).symm⟩
    | cons w words => exact ⟨_, rfl⟩
  obtain ⟨t, spelled⟩ := split
  rw [spelled] at whole ⊢
  exact proper_keyword dotted whole

theorem proper_titleLine (cols rows : Nat) : Proper (titleLine cols rows) := by
  rw [titleLine_eq]
  refine ⟨?_, not_isRaw_cons (by decide) _⟩
  have mark : Text.Unbroken [(';' : CodePoint)] := by decide
  have words : (Text.ofChars " bughop program, ".toList).Unbroken := by decide
  have times : (Text.ofChars "x".toList).Unbroken := by decide
  rw [Text.ofChars_append, Text.ofChars_append, Text.ofChars_append]
  exact Text.Unbroken.append mark (Text.Unbroken.append (Text.Unbroken.append (Text.Unbroken.append words
    (Text.unbroken_ofNat cols)) times) (Text.unbroken_ofNat rows))

/-- The kinds of lines in a heading. -/
theorem headingLine_cases {h : Heading} {heading : List Text} (headed : headingLines h = .ok heading)
    (member : line ∈ heading) :
    (∃ name ∈ h.id, line = Text.ofString ".id " ++ name) ∨
      (∃ goals : List Int,
        line = Text.joinWords (Text.ofString ".cycles" :: goals.map Decimal.ofInt)) ∨
      ∃ l : Text, line = Text.ofString ".label " ++ Json.quote l := by
  obtain ⟨id, goals, labels⟩ := h
  have idLine : ∀ first : List Text, (id = none → first = []) →
      (∀ name, id = some name → first = if name.isEmpty then [] else [Text.ofString ".id " ++ name]) →
      line ∈ first → ∃ name ∈ id, line = Text.ofString ".id " ++ name := by
    intro first without given here
    cases id with
    | none =>
      rw [without rfl] at here
      cases here
    | some name =>
      rw [given name rfl] at here
      split at here
      · cases here
      · exact ⟨name, rfl, List.mem_singleton.1 here⟩
  rcases goals with _ | ⟨gold, _ | ⟨silver, _ | ⟨bronze, more⟩⟩⟩
  · cases headed
    rcases List.mem_append.1 member with early | label
    · rcases List.mem_append.1 early with first | goal
      · exact .inl (idLine _ (by rintro rfl; rfl) (by rintro name rfl; rfl) first)
      · cases goal
    · obtain ⟨l, -, rfl⟩ := List.mem_map.1 label
      exact .inr (.inr ⟨l, rfl⟩)
  · cases headed
  · cases headed
  · cases headed
    rcases List.mem_append.1 member with early | label
    · rcases List.mem_append.1 early with first | goal
      · exact .inl (idLine _ (by rintro rfl; rfl) (by rintro name rfl; rfl) first)
      · exact .inr (.inl ⟨[gold, silver, bronze], List.mem_singleton.1 goal⟩)
    · obtain ⟨l, -, rfl⟩ := List.mem_map.1 label
      exact .inr (.inr ⟨l, rfl⟩)

/-- An id on one line makes no line that looks raw. -/
theorem proper_heading {h : Heading} {heading : List Text} (headed : headingLines h = .ok heading)
    (oneLine : ∀ name ∈ h.id, name.Unbroken) : ∀ line ∈ heading, Proper line := by
  intro line member
  rcases headingLine_cases headed member with ⟨name, given, rfl⟩ | ⟨goals, rfl⟩ | ⟨l, rfl⟩
  · apply proper_keyword (by decide)
    exact Text.Unbroken.append (by decide) (oneLine name given)
  · refine proper_words (by decide) (by decide) fun w word => ?_
    obtain ⟨v, -, rfl⟩ := List.mem_map.1 word
    exact unbroken_ofInt v
  · apply proper_keyword (by decide)
    exact Text.Unbroken.append (by decide)
      (Text.unbroken_of_printable fun _ => Json.printable_of_mem_quote)

theorem proper_registerLines (m : Image) : ∀ line ∈ registerLines m, Proper line := by
  intro line member
  obtain ⟨q, -, told⟩ := List.mem_flatMap.1 member
  dsimp only at told
  split at told
  · cases told
  · obtain rfl := List.mem_singleton.1 told
    refine proper_words (by decide) (by decide) fun w member => ?_
    rcases List.mem_cons.1 member with rfl | byte
    · exact unbroken_register q
    · obtain rfl := List.mem_singleton.1 byte
      exact Text.unbroken_ofNat _

theorem proper_looseLines (m : Image) : ∀ line ∈ looseLines m, Proper line := by
  intro line member
  obtain ⟨a, -, told⟩ := List.mem_flatMap.1 member
  dsimp only at told
  split at told
  · cases told
  · obtain rfl := List.mem_singleton.1 told
    refine proper_words (by decide) (by decide) fun w member => ?_
    rcases List.mem_cons.1 member with rfl | byte
    · exact Text.unbroken_ofNat _
    · obtain rfl := List.mem_singleton.1 byte
      exact Text.unbroken_ofNat _

theorem proper_stackLines (m : Image) : ∀ line ∈ stackLines m, Proper line := by
  intro line member
  unfold stackLines at member
  split at member
  · cases member
  · obtain rfl := List.mem_singleton.1 member
    refine proper_words (by decide) (by decide) fun w byte => ?_
    obtain ⟨b, -, rfl⟩ := List.mem_map.1 byte
    exact Text.unbroken_ofNat _

/-! Lines of cells. -/

/-- The text of a plain record begins with its mnemonic, and no mnemonic is the word for raw bytes. -/
theorem instructionText_ne_raw {record : Instruction} (plain : isPlain record = true) (rest : Text) :
    instructionText record ≠ Text.ofString "DB " ++ rest := by
  intro spelled
  obtain ⟨o, known⟩ : ∃ o, record.op? = some o := by
    simp only [isPlain, Bool.and_eq_true] at plain
    exact Option.isSome_iff_exists.1 plain.1.1
  rw [instructionText, if_pos plain, known] at spelled
  dsimp only at spelled
  have first := congrArg (List.take (Text.ofString o.mnemonic).length) spelled
  rw [List.cons_append, Text.take_joinWords] at first
  cases o <;> cases first

/-- What follows the first occurrence of a code point. -/
theorem tail_eq_of_split {p : CodePoint} {rest rest' : Text} (none : p ∉ t) (none' : p ∉ t')
    (same : t ++ p :: rest = t' ++ p :: rest') : rest = rest' := by
  induction t generalizing t' with
  | nil =>
    cases t' with
    | nil => exact (List.cons.inj same).2
    | cons q t' =>
      obtain rfl : p = q := (List.cons.inj same).1
      exact absurd List.mem_cons_self none'
  | cons q t ih =>
    cases t' with
    | nil =>
      obtain rfl : q = p := (List.cons.inj same).1
      exact absurd List.mem_cons_self none
    | cons q' t' =>
      exact ih (fun member => none (List.mem_cons_of_mem q member))
        (fun member => none' (List.mem_cons_of_mem q' member)) (List.cons.inj same).2

/-- The first colon of a raw line is behind its place. -/
theorem IsPlace.no_colon {place : Text} (isPlace : IsPlace place) : (':' : CodePoint) ∉ place := by
  intro member
  rcases isPlace _ member with digit | comma
  · cases digit
  · cases comma

theorem isPlace_numbers (row col : Nat) :
    IsPlace (Decimal.ofNat row ++ (',' : CodePoint) :: Decimal.ofNat col) := by
  intro p member
  rcases List.mem_append.1 member with digit | later
  · exact .inl (Decimal.isDigit_of_mem_ofNat digit)
  · rcases List.mem_cons.1 later with comma | digit
    · exact .inr comma
    · exact .inl (Decimal.isDigit_of_mem_ofNat digit)

/-- What follows the first colon decides. -/
theorem not_isRaw_cell (row col : Nat) {record : Instruction} (plain : isPlain record = true) :
    ¬IsRaw (Decimal.ofNat row ++ (',' : CodePoint) ::
      (Decimal.ofNat col ++ Text.ofString ": " ++ instructionText record)) := by
  rintro ⟨place, rest, isPlace, spelled⟩
  have whole : (Decimal.ofNat row ++ (',' : CodePoint) :: Decimal.ofNat col) ++
      (':' : CodePoint) :: ((' ' : CodePoint) :: instructionText record) =
      place ++ (':' : CodePoint) :: ((' ' : CodePoint) :: (Text.ofString "DB " ++ rest)) := by
    rw [List.append_assoc, List.cons_append]
    rwa [List.append_assoc] at spelled
  have same := tail_eq_of_split (isPlace_numbers row col).no_colon isPlace.no_colon whole
  exact instructionText_ne_raw plain rest (List.cons.inj same).2

/-- A plain record is not told as a raw one. -/
theorem proper_cell (row col : Nat) {record : Instruction} (plain : isPlain record = true) :
    Proper (Decimal.ofNat row ++ (',' : CodePoint) ::
      (Decimal.ofNat col ++ Text.ofString ": " ++ instructionText record)) := by
  have comma : Text.Unbroken [(',' : CodePoint)] := by decide
  have colon : (Text.ofString ": ").Unbroken := by decide
  have place : Text.Unbroken (Decimal.ofNat col ++ Text.ofString ": ") :=
    (Text.unbroken_ofNat col).append colon
  have line := (Text.unbroken_ofNat row).append
    (comma.append (place.append (unbroken_instructionText record)))
  exact ⟨line, not_isRaw_cell row col plain⟩

theorem proper_cellLines (c : Nat) {index : Nat} (plain : ∀ record,
      Instruction.ofBytes? (m.drop (programBase + index * Instruction.width)) = some record →
        isPlain record = true) : ∀ line ∈ cellLines m c index, Proper line := by
  intro line member
  unfold cellLines at member
  split at member
  · cases member
  · rename_i record found
    split at member
    · cases member
    · obtain rfl := List.mem_singleton.1 member
      rw [← Int.ofNat_fdiv, ← Int.ofNat_fmod]
      exact proper_cell _ _ (plain record found)

/-- If every record of an image is plain, no line of its listing gives raw bytes. -/
theorem listing_without_raw_lines {h : Heading} {heading : List Text}
    (size : m.length = programBase + c * r * Instruction.width)
    (headed : headingLines h = .ok heading) (oneLine : ∀ name ∈ h.id, name.Unbroken)
    (plain : ∀ index < c * r, ∀ record,
      Instruction.ofBytes? (m.drop (programBase + index * Instruction.width)) = some record →
        isPlain record = true) :
    ∃ text, disassemble m c r h = .ok text ∧ ∀ line ∈ text.splitLines, ¬IsRaw line := by
  have proper : ∀ line ∈ titleLine c r :: (heading ++ memoryLines m c r), Proper line := by
    intro line member
    rcases List.mem_cons.1 member with rfl | later
    · exact proper_titleLine c r
    · rcases List.mem_append.1 later with told | bytes
      · exact proper_heading headed oneLine line told
      · simp only [memoryLines, List.mem_append] at bytes
        rcases bytes with ((register | loose) | stack) | cell
        · exact proper_registerLines m line register
        · exact proper_looseLines m line loose
        · exact proper_stackLines m line stack
        · obtain ⟨index, inside, here⟩ := List.mem_flatMap.1 cell
          exact proper_cellLines c (plain index (List.mem_range.1 inside)) line here
  refine ⟨_, disassemble_eq size headed, ?_⟩
  rw [textOf, Text.splitLines_flatMap fun line member => (proper line member).unbroken]
  intro line member
  exact (proper line member).notRaw

end CellWalk.Assembly
