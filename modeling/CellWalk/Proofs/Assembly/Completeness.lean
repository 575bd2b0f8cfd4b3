import CellWalk.Proofs.Assembly.Soundness

/-!
# What the reader does not miss

A text that spells a list of statements is read as that list (`parse_of_spells`). Where the grammar
leaves a part out, the reader must not find one in what follows, so it matters here what a text leads
with: behind a statement comes another one, which starts with a dot or a digit, or nothing. A number
after stack values is one of them unless a colon or a comma makes it a position, and behind a value
neither can come.
-/

namespace CellWalk.Assembly
set_option autoImplicit false
open Grammar

/-! What a text leads with. -/

/-- The first lexeme of the text, if there is one, starts with a code point of the kind. -/
def Leads (kind : CodePoint → Prop) (t : Text) : Prop := ∀ p ∈ (trimLayout t).head?, kind p

/-- How a statement starts. -/
def StartsStatement (p : CodePoint) : Prop := p = '.' ∨ p.isDigit = true

instance (p : CodePoint) : Decidable (StartsStatement p) :=
  inferInstanceAs (Decidable (p = '.' ∨ p.isDigit = true))

variable {t a rest w : Text}

/-- The code point behind the layout is the one that the text leads with. -/
theorem leads_of_layout {kind : CodePoint → Prop} {p : CodePoint} (layout : Layout t (p :: w))
    (visible : Visible p) (isKind : kind p) : Leads kind t := by
  intro q lead
  rw [trimLayout_of_layout layout, trimLayout_visible visible, List.head?_cons] at lead
  cases lead
  exact isKind

theorem Leads.imp {kind kind' : CodePoint → Prop} (h : Leads kind t) (le : ∀ p, kind p → kind' p) :
    Leads kind' t :=
  fun p lead => le p (h p lead)

/-- A text that has ended leads with anything. -/
theorem leads_of_done (kind : CodePoint → Prop) (layout : Layout t []) : Leads kind t := by
  intro p lead
  rw [layout_nil_iff.1 layout] at lead
  cases lead

/-- No lexeme is found that starts in another way than the text leads. -/
theorem none_of_leads {lexeme : Lexeme} {kind : Lexical} {lead : CodePoint → Prop}
    (takes : lexeme.Takes kind) (leads : Leads lead t)
    (apart : ∀ p w rest, lead p → ¬ kind (p :: w) rest) : nextToken lexeme t = none :=
  nextToken_eq_none takes fun p w rest first => apart p w rest (leads p first)

/-- A mark is not found where the text leads with something else. -/
theorem no_mark {c : Char} (visible : Visible c) {lead : CodePoint → Prop} (leads : Leads lead t)
    (apart : ¬ lead c) : nextToken (.mark c) t = none := by
  refine none_of_leads (Lexeme.takes_fixed [] visible) leads fun p w rest isLead isMark => apart ?_
  rw [Text.ofChars_cons, List.cons.injEq] at isMark
  rwa [← isMark.1]

/-- A number needs a digit first. -/
theorem no_number {lead : CodePoint → Prop} (leads : Leads lead t)
    (apart : ∀ p, lead p → p.isDigit = false) : nextToken .number t = none := by
  refine none_of_leads takes_number leads fun p w rest isLead run => ?_
  have digit := run.2.1 p List.mem_cons_self
  rw [apart p isLead] at digit
  cases digit

theorem leads_of_comes_number {n : Nat} (number_ : Comes (number n) t rest) :
    Leads (·.isDigit = true) t := by
  obtain ⟨w, layout, isNumber⟩ := number_
  obtain ⟨⟨nonempty, digits, -⟩, -⟩ := number_iff.1 isNumber
  obtain ⟨p, w', rfl⟩ := List.exists_cons_of_ne_nil nonempty
  have digit := digits p List.mem_cons_self
  exact leads_of_layout layout (visible_of_isDigit p digit) digit

theorem leads_of_comes_fixed {c : Char} {text : String} (comes : Comes (fixed text) t rest)
    (starts : text.toList.head? = some c) (visible : Visible c) : Leads (· = (c : CodePoint)) t := by
  obtain ⟨w, layout, rfl⟩ := comes
  obtain ⟨cs, spelled⟩ := List.head?_eq_some_iff.1 starts
  rw [Text.ofString, spelled, Text.ofChars_cons, List.cons_append] at layout
  exact leads_of_layout layout visible rfl

/-- A cell starts with a digit. -/
theorem leads_of_located {position : Position} {left : Nat} (located : Located t position left rest) :
    Leads (·.isDigit = true) t := by
  cases located with
  | flat index => exact leads_of_comes_number (comes_iff_comesAt.2 ⟨_, index⟩)
  | grid row _ _ => exact leads_of_comes_number (comes_iff_comesAt.2 ⟨_, row⟩)

/-- A statement starts with the dot of its keyword or the digit of its cell. -/
theorem leads_of_phrase [CharacterNames] {s : Statement} (phrase : Phrase folded t s rest) :
    Leads StartsStatement t := by
  have dot : ∀ p : CodePoint, p = '.' → StartsStatement p := fun p => .inl
  have digit : ∀ p : CodePoint, p.isDigit = true → StartsStatement p := fun p => .inr
  cases phrase with
  | id keyword _ | cycles keyword _ _ _ | label keyword _ | register keyword _ _ _
  | stack keyword _ _ | byte keyword _ _ =>
    exact (leads_of_comes_fixed keyword rfl (by decide)).imp dot
  | cell located _ _ => exact (leads_of_located located).imp digit

/-- What is behind a statement leads with another one or has ended. -/
theorem leads_of_spells [CharacterNames] {ss : List Statement} (spells : Spells folded t ss) :
    Leads StartsStatement t := by
  cases spells with
  | done layout => exact leads_of_done _ layout
  | cons phrase _ => exact leads_of_phrase phrase

/-! Parts of a cell. -/

theorem token_of_comes_number {n : Nat} (comes : Comes (number n) t rest) :
    ∃ tok, token .number t = .ok (tok, rest) ∧ tok.number = .ok n := by
  obtain ⟨tok, found, denotes⟩ := comes_number_iff.1 comes
  exact ⟨tok, token_eq_ok_iff.2 found, denotes⟩

theorem token_of_comes_byte {v : UInt8} (comes : Comes (number v.toNat) t rest) :
    ∃ tok, token .number t = .ok (tok, rest) ∧ tok.byte = .ok v := by
  obtain ⟨tok, found, denotes⟩ := comes_byte_iff.1 comes
  exact ⟨tok, token_eq_ok_iff.2 found, denotes⟩

theorem token?_of_none {lexeme : Lexeme} (missing : nextToken lexeme t = none) :
    token? lexeme t = .ok (none, t) :=
  token?_eq_ok_iff.2 (.inr ⟨missing, rfl, rfl⟩)

theorem token?_of_some {lexeme : Lexeme} {tok : Token} (found : nextToken lexeme t = some (tok, rest)) :
    token? lexeme t = .ok (some tok, rest) :=
  token?_eq_ok_iff.2 (.inl ⟨tok, found, rfl⟩)

/-- What can come behind an operand: a mask or the next statement. -/
def EndsOperand (p : CodePoint) : Prop := p = '[' ∨ StartsStatement p

instance (p : CodePoint) : Decidable (EndsOperand p) :=
  inferInstanceAs (Decidable (p = '[' ∨ StartsStatement p))

/-- Neither a mask nor a statement starts with a letter, so no register's name is found there. -/
theorem no_register (leads : Leads EndsOperand t) : nextToken .register t = none := by
  refine none_of_leads Lexeme.takes_register leads fun p w rest ends oneOf => ?_
  obtain ⟨⟨u, listed, forms⟩, -⟩ := oneOf
  have upper : ∀ u ∈ Lexeme.registerNames, IsUpperWord u := by decide
  cases forms with
  | @cons c p u w form _ =>
    obtain ⟨low, high⟩ := upper _ listed c List.mem_cons_self
    have range : p.val = 91 ∨ p.val = 46 ∨ 48 ≤ p.val ∧ p.val ≤ 57 := by
      rcases ends with rfl | rfl | digit
      · exact .inl rfl
      · exact .inr (.inl rfl)
      · simp only [CodePoint.isDigit, Bool.and_eq_true, decide_eq_true_eq] at digit
        exact .inr (.inr digit)
    rcases Lexeme.isFormOf_iff.1 form with e | e | ⟨-, e⟩ | ⟨-, e | e⟩ | ⟨-, e⟩ <;> omega

theorem leads_of_word {name : String} {c : Char} {cs : List Char}
    (comes : Comes (word folded name) t rest) (spelled : name.toList = c :: cs) (upper : IsUpper c) : Leads (folded c) t := by
  obtain ⟨w, layout, forms, -⟩ := comes
  rw [spelled] at forms
  cases forms with
  | cons form _ =>
    exact leads_of_layout layout
      (Lexeme.visible_of_isFormOf upper (isFormOf_of_folded form)) form

/-- A code point is a form of one letter only. -/
theorem letter_unique {c d : Char} {p : CodePoint} (upperC : IsUpper c) (upperD : IsUpper d)
    (formC : folded c p) (formD : ascii d p) : c = d := by
  obtain ⟨lowC, highC⟩ := upperC
  obtain ⟨lowD, highD⟩ := upperD
  apply Char.toNat_inj.1
  rcases formC with (e | e) | ⟨-, e⟩ | ⟨-, e⟩ <;> rcases formD with e' | e' <;> omega

/-- Marks and digits come before the letters. -/
theorem not_folded_of_lt {c : Char} {p : CodePoint} (upper : IsUpper c) (small : p.val < 65) :
    ¬ folded c p := by
  obtain ⟨low, high⟩ := upper
  rintro ((e | e) | ⟨-, e⟩ | ⟨-, e⟩) <;> omega

/-- No mnemonic starts like the word for raw bytes. -/
theorem mnemonic_spelled (o : Opcode) :
    ∃ c cs, o.mnemonic.toList = c :: cs ∧ IsUpper c ∧ c ≠ 'D' := by
  cases o <;> exact ⟨_, _, rfl, by decide, by decide⟩

theorem registerName_spelled (r : Register) : ∃ c cs, r.name.toList = c :: cs ∧ IsUpper c := by
  cases r <;> exact ⟨_, _, rfl, by decide⟩

/-- An operand is read as it is spelled, and none is found where it was left out. -/
theorem readOperand_of_operand {value mode : UInt8} (operand : Operand folded t value mode rest)
    (after : Leads EndsOperand rest) :
    ∃ form, readOperand t = .ok (form, rest) ∧ interpretOperand form = .ok (value, mode) := by
  simp only [readOperand, Reader.bind_eq_ok_iff]
  cases operand with
  | omitted =>
    have noHash := token?_of_none (no_mark (c := '#') (by decide) after (by decide))
    have noAt := token?_of_none (no_mark (c := '@') (by decide) after (by decide))
    have noRegister := token?_of_none (no_register after)
    refine ⟨none, ⟨none, t, noHash, ?_⟩, rfl⟩
    simp only [Reader.bind_eq_ok_iff]
    refine ⟨none, t, noAt, ?_⟩
    simp only [Reader.bind_eq_ok_iff, Reader.pure_eq_ok_iff]
    exact ⟨none, t, noRegister, rfl, rfl⟩
  | immediate sign number_ =>
    obtain ⟨hash, found⟩ := (comes_mark_iff rfl (by decide)).1 sign
    obtain ⟨tok, next, byte⟩ := token_of_comes_byte number_
    refine ⟨some (.immediate tok), ⟨some hash, _, token?_of_some found, ?_⟩, ?_⟩
    · simp only [Reader.bind_eq_ok_iff, Reader.pure_eq_ok_iff]
      exact ⟨tok, rest, next, rfl, rfl⟩
    · simp only [interpretOperand, OperandForm.interpret, bind_eq_ok_iff, pure_eq_ok_iff]
      exact ⟨value, byte, rfl⟩
  | address sign number_ =>
    have leads := leads_of_comes_fixed sign rfl (by decide)
    have noHash := token?_of_none (no_mark (c := '#') (by decide) leads (by decide))
    obtain ⟨at_, found⟩ := (comes_mark_iff rfl (by decide)).1 sign
    obtain ⟨tok, next, byte⟩ := token_of_comes_byte number_
    refine ⟨some (.address tok), ⟨none, t, noHash, ?_⟩, ?_⟩
    · simp only [Reader.bind_eq_ok_iff]
      refine ⟨some at_, _, token?_of_some found, ?_⟩
      simp only [Reader.bind_eq_ok_iff, Reader.pure_eq_ok_iff]
      exact ⟨tok, rest, next, rfl, rfl⟩
    · simp only [interpretOperand, OperandForm.interpret, bind_eq_ok_iff, pure_eq_ok_iff]
      exact ⟨value, byte, rfl⟩
  | @register _ r named =>
    obtain ⟨c, cs, spelled, upper⟩ := registerName_spelled r
    have leads := leads_of_word named spelled upper
    have noHash := token?_of_none
      (no_mark (c := '#') (by decide) leads (not_folded_of_lt upper (by decide)))
    have noAt := token?_of_none
      (no_mark (c := '@') (by decide) leads (not_folded_of_lt upper (by decide)))
    obtain ⟨tok, found, isRegister⟩ := comes_register_iff.1 named
    refine ⟨some (.register tok), ⟨none, t, noHash, ?_⟩, ?_⟩
    · simp only [Reader.bind_eq_ok_iff]
      refine ⟨none, t, noAt, ?_⟩
      simp only [Reader.bind_eq_ok_iff, Reader.pure_eq_ok_iff]
      exact ⟨some tok, rest, token?_of_some found, rfl, rfl⟩
    · simp only [interpretOperand, OperandForm.interpret, bind_eq_ok_iff, pure_eq_ok_iff]
      exact ⟨r, isRegister, rfl⟩

/-- Behind an operand comes a mask or the next statement. -/
theorem leads_of_mask {dirs : UInt8} (mask : Mask t dirs rest) (after : Leads StartsStatement rest) :
    Leads EndsOperand t := by
  cases mask with
  | omitted => exact after.imp fun _ => .inr
  | empty opening _ | some opening _ _ =>
    exact (leads_of_comes_fixed opening rfl (by decide)).imp fun _ => .inl

/-- The bracket that closes a mask is no direction. -/
theorem no_directions {c : Char} (leads : Leads (· = (c : CodePoint)) t) (mark : c.toNat = 93) :
    nextToken .directions t = none := by
  refine none_of_leads takes_directions leads fun p w rest isMark run => ?_
  obtain ⟨d, form⟩ := isDirectionLetter_iff.1 (run.2.1 p List.mem_cons_self)
  subst isMark
  have value : (CodePoint.ofChar c).val = 93 := mark
  rcases form with e | e <;> rw [value] at e <;> cases d <;> exact absurd e (by decide)

/-- A mask is read as it is spelled. -/
theorem readMask_of_mask {dirs : UInt8} (mask : Mask t dirs rest)
    (after : Leads StartsStatement rest) :
    ∃ form, readMask t = .ok (form, rest) ∧ interpretMask form = dirs := by
  simp only [readMask, Reader.bind_eq_ok_iff]
  cases mask with
  | omitted =>
    have noOpening := token?_of_none (no_mark (c := '[') (by decide) after (by decide))
    exact ⟨none, ⟨none, t, noOpening, Reader.pure_eq_ok_iff.2 ⟨rfl, rfl⟩⟩, rfl⟩
  | empty opening closing =>
    obtain ⟨left, opens⟩ := (comes_mark_iff rfl (by decide)).1 opening
    obtain ⟨right, closes⟩ := (comes_mark_iff rfl (by decide)).1 closing
    have leads := leads_of_comes_fixed closing rfl (by decide)
    refine ⟨some none, ⟨some left, _, token?_of_some opens, ?_⟩, rfl⟩
    simp only [Reader.bind_eq_ok_iff, Reader.pure_eq_ok_iff, token_eq_ok_iff]
    exact ⟨none, _, token?_of_none (no_directions leads rfl), right, rest, closes, rfl, rfl⟩
  | some opening directions closing =>
    obtain ⟨left, opens⟩ := (comes_mark_iff rfl (by decide)).1 opening
    obtain ⟨right, closes⟩ := (comes_mark_iff rfl (by decide)).1 closing
    obtain ⟨tok, found, forms⟩ := comes_letters_iff.1 directions
    refine ⟨some (some tok), ⟨some left, _, token?_of_some opens, ?_⟩, mask_of_forms forms⟩
    simp only [Reader.bind_eq_ok_iff, Reader.pure_eq_ok_iff, token_eq_ok_iff]
    exact ⟨some tok, _, token?_of_some found, right, rest, closes, rfl, rfl⟩

/-- A mnemonic is not taken for raw bytes. -/
theorem no_rawBytes {c : Char} (upper : IsUpper c) (noD : c ≠ 'D') (leads : Leads (folded c) t) :
    nextToken .rawBytes t = none := by
  refine none_of_leads Lexeme.takes_rawBytes leads fun p w rest form isRaw => noD ?_
  cases isRaw with
  | cons first _ => exact letter_unique upper (by decide) form first

/-- A record is read as it is spelled. -/
theorem readRecord_of_record {record : Instruction} (record_ : Record folded t record rest)
    (after : Leads StartsStatement rest) :
    ∃ form, readRecord t = .ok (form, rest) ∧ form.interpret = .ok record := by
  simp only [readRecord, Reader.bind_eq_ok_iff]
  cases record_ with
  | @instruction a b _ o value mode dirs named operand mask =>
    obtain ⟨c, cs, spelled, upper, noD⟩ := mnemonic_spelled o
    have noRaw := token?_of_none (no_rawBytes upper noD (leads_of_word named spelled upper))
    obtain ⟨tok, found, isOpcode⟩ := comes_opcode_iff.1 named
    obtain ⟨operandForm, readsOperand, isOperand⟩ :=
      readOperand_of_operand operand (leads_of_mask mask after)
    obtain ⟨maskForm, readsMask, isMask⟩ := readMask_of_mask mask after
    refine ⟨.instruction tok operandForm maskForm, ⟨none, t, noRaw, ?_⟩, ?_⟩
    · simp only [Reader.bind_eq_ok_iff, Reader.pure_eq_ok_iff, token_eq_ok_iff]
      exact ⟨tok, a, found, operandForm, b, readsOperand, maskForm, rest, readsMask, rfl, rfl⟩
    · simp only [RecordForm.interpret, bind_eq_ok_iff, pure_eq_ok_iff]
      exact ⟨(value, mode), isOperand, o, isOpcode, by rw [isMask]⟩
  | raw sign first second third fourth =>
    obtain ⟨raw, found⟩ := comes_rawBytes_iff.1 sign
    obtain ⟨tok₁, next₁, byte₁⟩ := token_of_comes_byte first
    obtain ⟨tok₂, next₂, byte₂⟩ := token_of_comes_byte second
    obtain ⟨tok₃, next₃, byte₃⟩ := token_of_comes_byte third
    obtain ⟨tok₄, next₄, byte₄⟩ := token_of_comes_byte fourth
    refine ⟨.raw tok₁ tok₂ tok₃ tok₄, ⟨some raw, _, token?_of_some found, ?_⟩, ?_⟩
    · simp only [Reader.bind_eq_ok_iff, Reader.pure_eq_ok_iff]
      exact ⟨tok₁, _, next₁, tok₂, _, next₂, tok₃, _, next₃, tok₄, _, next₄, rfl, rfl⟩
    · simp only [RecordForm.interpret, bind_eq_ok_iff, pure_eq_ok_iff]
      exact ⟨_, byte₁, _, byte₂, _, byte₃, _, byte₄, rfl⟩

/-- A position is read as it is spelled, since a colon follows it. -/
theorem readPosition_of_located {position : Position} {left : Nat}
    (located : Located t position left rest) (after : Leads (· = (':' : CodePoint)) rest) :
    ∃ first a form, nextToken .number t = some (first, a) ∧
      readPosition first a = .ok (form, rest) ∧ form.interpret = .ok position ∧
      form.first.left = left := by
  simp only [readPosition, Reader.bind_eq_ok_iff]
  cases located with
  | flat index =>
    obtain ⟨first, found, denotes, left⟩ := comesAt_number_iff.1 index
    have noComma := token?_of_none (no_mark (c := ',') (by decide) after (by decide))
    refine ⟨first, rest, .flat first, found, ⟨none, rest, noComma, ?_⟩, ?_, left⟩
    · exact Reader.pure_eq_ok_iff.2 ⟨rfl, rfl⟩
    · simp only [PositionForm.interpret, bind_eq_ok_iff, pure_eq_ok_iff]
      exact ⟨_, denotes, rfl⟩
  | grid row_ comma col_ =>
    obtain ⟨first, found, isRow, left⟩ := comesAt_number_iff.1 row_
    obtain ⟨sign, next⟩ := (comes_mark_iff rfl (by decide)).1 comma
    obtain ⟨tok, last, isCol⟩ := token_of_comes_number col_
    refine ⟨first, _, .grid first tok, found, ⟨some sign, _, token?_of_some next, ?_⟩, ?_, left⟩
    · simp only [Reader.bind_eq_ok_iff, Reader.pure_eq_ok_iff]
      exact ⟨tok, rest, last, rfl, rfl⟩
    · simp only [PositionForm.interpret, bind_eq_ok_iff, pure_eq_ok_iff]
      exact ⟨_, isRow, _, isCol, rfl⟩

/-! Statements. -/

theorem stackValues_of_none (missing : nextToken .number t = none) : stackValues t = ([], t) := by
  rw [stackValues]
  split
  · rfl
  · rename_i found
    rw [missing] at found
    cases found

/-- A number that belongs to the next cell is no value of the stack. -/
theorem stackValues_of_position {value : Token} (found : nextToken .number t = some (value, rest))
    (position : comesNext (.mark ':') rest = true ∨ comesNext (.mark ',') rest = true) :
    stackValues t = ([], t) := by
  rw [stackValues]
  split
  · rfl
  · rename_i found'
    rw [found] at found'
    cases found'
    rw [if_pos (Bool.or_eq_true_iff.2 position)]

/-- A number before the next statement is one. -/
theorem stackValues_of_value {value : Token} (found : nextToken .number t = some (value, rest))
    (after : Leads StartsStatement rest) :
    stackValues t = (value :: (stackValues rest).1, (stackValues rest).2) := by
  have noColon := no_mark (c := ':') (by decide) after (by decide)
  have noComma := no_mark (c := ',') (by decide) after (by decide)
  rw [stackValues]
  split
  · rename_i missing
    rw [found] at missing
    cases missing
  · rename_i found'
    rw [found] at found'
    cases found'
    rw [if_neg (by simp [comesNext, noColon, noComma])]

/-- No value of the stack comes where the next statement does: a number there is a position. -/
theorem stackValues_of_spells [CharacterNames] {ss : List Statement} (spells : Spells folded t ss) :
    stackValues t = ([], t) := by
  have noDigit : ∀ p : CodePoint, p = '.' → p.isDigit = false := by
    rintro p rfl
    decide
  cases spells with
  | done layout =>
    exact stackValues_of_none (no_number (leads_of_done (fun _ => False) layout)
      fun _ absurd_ => absurd_.elim)
  | cons phrase _ =>
    cases phrase with
    | id keyword _ | cycles keyword _ _ _ | label keyword _ | register keyword _ _ _
    | stack keyword _ _ | byte keyword _ _ =>
      exact stackValues_of_none (no_number (leads_of_comes_fixed keyword rfl (by decide)) noDigit)
    | cell located colon _ =>
      cases located with
      | flat index =>
        obtain ⟨first, found, -⟩ := comesAt_number_iff.1 index
        obtain ⟨sign, next⟩ := (comes_mark_iff (c := ':') rfl (by decide)).1 colon
        exact stackValues_of_position found (.inl (by rw [comesNext, next]; rfl))
      | grid row comma _ =>
        obtain ⟨first, found, -⟩ := comesAt_number_iff.1 row
        obtain ⟨sign, next⟩ := (comes_mark_iff (c := ',') rfl (by decide)).1 comma
        exact stackValues_of_position found (.inr (by rw [comesNext, next]; rfl))

theorem leads_of_values [CharacterNames] {vs : List UInt8} {ss : List Statement} (values : Values t vs rest)
    (spells : Spells folded rest ss) : Leads StartsStatement t := by
  cases values with
  | nil => exact leads_of_spells spells
  | cons value _ => exact (leads_of_comes_number value).imp fun _ => .inr

/-- The stack takes the values that were spelled and leaves the next statement. -/
theorem stackValues_of_values [CharacterNames] {vs : List UInt8} {ss : List Statement}
    (values : Values t vs rest) (spells : Spells folded rest ss) :
    (stackValues t).1.mapM Token.byte = .ok vs ∧ (stackValues t).2 = rest := by
  induction values with
  | nil t =>
    rw [stackValues_of_spells spells]
    exact ⟨rfl, rfl⟩
  | cons value more ih =>
    obtain ⟨areBytes, left⟩ := ih spells
    obtain ⟨tok, found, isByte⟩ := comes_byte_iff.1 value
    rw [stackValues_of_value found (leads_of_values more spells)]
    refine ⟨?_, left⟩
    simp only [List.mapM_cons, bind_eq_ok_iff, pure_eq_ok_iff]
    exact ⟨_, isByte, _, areBytes, rfl⟩

/-- The second letter tells the keywords apart. -/
theorem keyword_unique {k k' : Keyword} {rest rest' : Text}
    (h : Text.ofChars k.word ++ rest = Text.ofChars k'.word ++ rest') : k = k' := by
  have second := congrArg (fun t : Text => t[1]?) h
  cases k <;> cases k' <;>
    first
    | rfl
    | exact absurd second (by simp [Keyword.word, CodePoint.ofChar_inj])

theorem nextKeyword_of_comes {k : Keyword} {text : String} (comes : Comes (fixed text) t rest)
    (spelled : text.toList = k.word) : nextKeyword t = some (k, rest) := by
  obtain ⟨w, layout, rfl⟩ := comes
  rw [Text.ofString, spelled] at layout
  have visible : Visible '.' := by decide
  have trimmed : ∀ (k : Keyword) (rest : Text), Layout t (Text.ofChars k.word ++ rest) →
      trimLayout t = Text.ofChars k.word ++ rest := by
    intro k rest layout
    rw [trimLayout_of_layout layout]
    cases k <;> exact trimLayout_visible visible _
  cases found : nextKeyword t with
  | none =>
    have next : nextToken (.fixed k.word) t =
        some (⟨Text.ofChars k.word, (Text.ofChars k.word ++ rest).length⟩, rest) :=
      (nextToken_iff (takes_keyword k)).2 ⟨layout, rfl, rfl⟩
    have missing := List.findSome?_eq_none_iff.1 found k (by cases k <;> decide)
    rw [next] at missing
    cases missing
  | some first =>
    obtain ⟨k', rest'⟩ := first
    have same := (trimmed k rest layout).symm.trans (trimmed k' rest' (layout_of_nextKeyword found))
    obtain rfl := keyword_unique same
    rw [List.append_cancel_left same]

/-- What starts with a digit is no keyword. -/
theorem no_keyword (leads : Leads (·.isDigit = true) t) : nextKeyword t = none := by
  refine List.findSome?_eq_none_iff.2 fun k _ => ?_
  rw [none_of_leads (takes_keyword k) leads, Option.map_none]
  intro p w rest digit isKeyword
  have dot : p = '.' := by
    cases k <;> exact (List.cons.inj isKeyword).1
  rw [dot] at digit
  exact absurd digit (by decide)

theorem readForm_of_keyword {k : Keyword} {text : String} (comes : Comes (fixed text) t a)
    (spelled : text.toList = k.word) : readForm t = readArguments k a := by
  rw [readForm, nextKeyword_of_comes comes spelled]

/-- A statement is read as it is spelled if statements follow. -/
theorem readForm_of_phrase [CharacterNames] {s : Statement} {ss : List Statement}
    (phrase : Phrase folded t s rest) (spells : Spells folded rest ss) :
    ∃ form, readForm t = .ok (form, rest) ∧ form.interpret = .ok s := by
  cases phrase with
  | id keyword id_ =>
    obtain ⟨tok, found, rfl⟩ := comes_name_iff.1 id_
    rw [readForm_of_keyword (k := .id) keyword rfl]
    refine ⟨.id tok, ?_, rfl⟩
    simp only [readArguments, Reader.bind_eq_ok_iff, Reader.pure_eq_ok_iff, token_eq_ok_iff]
    exact ⟨tok, _, found, rfl, rfl⟩
  | cycles keyword gold_ silver_ bronze_ =>
    obtain ⟨gold, one, isGold⟩ := token_of_comes_number gold_
    obtain ⟨silver, two, isSilver⟩ := token_of_comes_number silver_
    obtain ⟨bronze, three, isBronze⟩ := token_of_comes_number bronze_
    rw [readForm_of_keyword (k := .cycles) keyword rfl]
    refine ⟨.cycles gold silver bronze, ?_, ?_⟩
    · simp only [readArguments, Reader.bind_eq_ok_iff, Reader.pure_eq_ok_iff]
      exact ⟨gold, _, one, silver, _, two, bronze, _, three, rfl, rfl⟩
    · simp only [Form.interpret, bind_eq_ok_iff, pure_eq_ok_iff]
      exact ⟨_, isGold, _, isSilver, _, isBronze, rfl⟩
  | label keyword label_ =>
    obtain ⟨tok, found, decoded⟩ := comes_string_iff.1 label_
    rw [readForm_of_keyword (k := .label) keyword rfl]
    refine ⟨.label tok, ?_, by rw [Form.interpret, decoded]⟩
    simp only [readArguments, Reader.bind_eq_ok_iff, Reader.pure_eq_ok_iff, token_eq_ok_iff]
    exact ⟨tok, _, found, rfl, rfl⟩
  | register keyword register_ proper value =>
    obtain ⟨tok, found, isRegister, rfl⟩ := comesAt_register_iff.1 register_
    obtain ⟨value, next, isByte⟩ := token_of_comes_byte value
    rw [readForm_of_keyword (k := .register) keyword rfl]
    refine ⟨.register tok value, ?_, ?_⟩
    · simp only [readArguments, Reader.bind_eq_ok_iff, Reader.pure_eq_ok_iff, token_eq_ok_iff]
      exact ⟨tok, _, found, value, _, token_eq_ok_iff.1 next, rfl, rfl⟩
    · simp only [Form.interpret, bind_eq_ok_iff]
      refine ⟨_, isRegister, ?_⟩
      rw [if_neg proper]
      simp only [bind_eq_ok_iff, pure_eq_ok_iff]
      exact ⟨_, isByte, rfl⟩
  | stack keyword values few =>
    obtain ⟨areBytes, left⟩ := stackValues_of_values values spells
    rw [readForm_of_keyword (k := .stack) keyword rfl]
    refine ⟨.stack (stackValues _).1, by simp only [readArguments]; rw [left], ?_⟩
    simp only [Form.interpret, bind_eq_ok_iff]
    exact ⟨_, interpretStack_eq_ok_iff.2 ⟨areBytes, few⟩, rfl⟩
  | byte keyword offset_ value =>
    obtain ⟨tok, found, isOffset, rfl⟩ := comesAt_number_iff.1 offset_
    obtain ⟨value, next, isByte⟩ := token_of_comes_byte value
    rw [readForm_of_keyword (k := .byte) keyword rfl]
    refine ⟨.byte tok value, ?_, ?_⟩
    · simp only [readArguments, Reader.bind_eq_ok_iff, Reader.pure_eq_ok_iff, token_eq_ok_iff]
      exact ⟨tok, _, found, value, _, token_eq_ok_iff.1 next, rfl, rfl⟩
    · simp only [Form.interpret, bind_eq_ok_iff, pure_eq_ok_iff]
      exact ⟨_, isOffset, _, isByte, rfl⟩
  | cell located colon record_ =>
    obtain ⟨first, _, position, found, reads, isPosition, rfl⟩ :=
      readPosition_of_located located (leads_of_comes_fixed colon rfl (by decide))
    obtain ⟨sign, next⟩ := (comes_mark_iff rfl (by decide)).1 colon
    obtain ⟨record, holds, isRecord⟩ := readRecord_of_record record_ (leads_of_spells spells)
    refine ⟨.cell position record, ?_, ?_⟩
    · rw [readForm, no_keyword (leads_of_located located)]
      simp only [readCell, Reader.bind_eq_ok_iff, Reader.pure_eq_ok_iff, token_eq_ok_iff]
      exact ⟨first, _, found, position, _, reads, sign, _, next, record, _, holds, rfl, rfl⟩
    · simp only [Form.interpret, bind_eq_ok_iff, pure_eq_ok_iff]
      exact ⟨_, isPosition, _, isRecord, rfl⟩

/-- Where a statement is read there is more than layout. -/
theorem trimLayout_ne_nil {form : Form} (read : readForm t = .ok (form, rest)) :
    trimLayout t ≠ [] := by
  intro empty
  have missing : ∀ lexeme, nextToken lexeme t = none := by
    intro lexeme
    simp only [nextToken, empty]
  have noKeyword : nextKeyword t = none :=
    List.findSome?_eq_none_iff.2 fun k _ => by rw [missing, Option.map_none]
  rw [readForm, noKeyword] at read
  simp only [readCell, Reader.bind_eq_ok_iff, token_eq_ok_iff, missing] at read
  obtain ⟨_, _, found, -⟩ := read
  cases found

/-- Statements are read one after the other as they are spelled. -/
theorem readForms_of_spells [CharacterNames] {ss : List Statement} (spells : Spells folded t ss) :
    ∃ forms, readForms t = .ok forms ∧ forms.mapM Form.interpret = .ok ss := by
  induction spells with
  | done layout =>
    refine ⟨[], ?_, rfl⟩
    rw [readForms, if_pos (List.isEmpty_iff.2 (layout_nil_iff.1 layout))]
  | cons phrase more ih =>
    obtain ⟨forms, reads, areStatements⟩ := ih
    obtain ⟨form, read, isStatement⟩ := readForm_of_phrase phrase more
    refine ⟨form :: forms, ?_, ?_⟩
    · rw [readForms, if_neg (mt List.isEmpty_iff.1 (trimLayout_ne_nil read))]
      split
      · rename_i failed
        rw [read] at failed
        cases failed
      · rename_i read'
        rw [read] at read'
        cases read'
        rw [reads]
        rfl
    · simp only [List.mapM_cons, bind_eq_ok_iff, pure_eq_ok_iff]
      exact ⟨_, isStatement, _, areStatements, rfl⟩

/-- A text is read as any list of statements that it spells; so it spells one at most. -/
theorem parse_of_spells [CharacterNames] {ss : List Statement} (spells : Spells folded t ss) :
    parse t = .ok ss := by
  obtain ⟨forms, reads, areStatements⟩ := readForms_of_spells spells
  simp only [parse, reads, areStatements]

/-- The parser accepts the grammar and reads it one way: a text spelled in ASCII is read as what it
spells, and what is read from a text is spelled there, up to the case folding of words. -/
theorem parse_reads_grammar [CharacterNames] (t : Text) (ss : List Statement) :
    (Spells ascii t ss → parse t = .ok ss) ∧ (parse t = .ok ss ↔ Spells folded t ss) :=
  ⟨fun spells => parse_of_spells (spells.mono fun _ _ => .inl),
    spells_of_parse, parse_of_spells⟩

end CellWalk.Assembly
