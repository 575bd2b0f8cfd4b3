import CellWalk.Proofs.Assembly.Assembling
import CellWalk.Proofs.Assembly.FormLexemes

/-!
# How a text fails

A text is refused at a line and a column, or at its end. Three kinds of lexemes are read and have no
meaning, and that has no place: a label whose escapes mean nothing, a number with too many digits, and a
name spelled with the dotted capital or the kelvin sign (`Terminal.Meaningless`). A fault without a place
comes only of such a lexeme in one of the forms, and then there is no program (`not_parse_of_breaks`), or of
an image that no memory holds (`assemble_outcomes`).
-/

namespace CellWalk.Assembly
set_option autoImplicit false
open Grammar

variable {text : Text} {c : Terminal} {tok : Token}

/-! Lexemes without a meaning. -/

/-- The code points that are read as a letter of a name and are capitals of their own: the dotted I and
the kelvin sign. -/
def OddCapital (p : CodePoint) : Prop := p.val = 0x130 ∨ p.val = 0x212A

/-- A word of the class means nothing, and that is a fault without a place. -/
inductive Terminal.Meaningless [CharacterNames] {π : Type} : Terminal → Text → Fault π → Prop
  | string {w : Text} {d : Label.Defect} (undecoded : Label.decode w = .error d) :
      Meaningless .string w (.label d)
  | number {w : Text} (long : Decimal.maxDigits < w.length) : Meaningless .number w .tooManyDigits
  | mnemonic {w : Text} {p : CodePoint} (inside : p ∈ w) (odd : OddCapital p) :
      Meaningless .mnemonic w .unknownName
  | register {w : Text} {p : CodePoint} (inside : p ∈ w) (odd : OddCapital p) :
      Meaningless .register w .unknownName

/-- The text is read as forms, and a lexeme of one of them means nothing. -/
inductive Breaks [CharacterNames] {π : Type} (text : Text) (fault : Fault π) : Prop
  | intro {forms : List Form} {form : Form} {c : Terminal} {tok : Token}
      (read : readForms text = .ok forms) (stands : form ∈ forms) (lexeme : (c, tok) ∈ form.lexemes)
      (inText : tok.In text c) (meaningless : c.Meaningless tok.text fault) : Breaks text fault

/-- A code point that is read as a letter and is no odd capital has the letter as its capital. -/
theorem folded_of_isFormOf {c : Char} {p : CodePoint} (form : Lexeme.isFormOf c p = true)
    (plain : ¬ OddCapital p) : folded c p := by
  obtain ⟨noDotted, noKelvin⟩ := not_or.1 plain
  rcases Lexeme.isFormOf_iff.1 form with e | e | longS | ⟨letter, e | e⟩ | ⟨-, e⟩
  · exact .inl (.inl e)
  · exact .inl (.inr e)
  · exact .inr (.inl longS)
  · exact absurd e noDotted
  · exact .inr (.inr ⟨letter, e⟩)
  · exact absurd e noKelvin

/-- The odd capitals are folded to no letter. -/
theorem not_oddCapital_of_folded {c : Char} (upper : IsUpper c) {p : CodePoint} (form : folded c p) :
    ¬ OddCapital p := by
  have := upper.2
  rintro (dotted | kelvin) <;> rcases form with (e | e) | ⟨-, e⟩ | ⟨-, e⟩ <;> omega

/-- A word of a list in any case forms is spelled by folded forms, or it has an odd capital. -/
theorem forall_folded_of_forms {u : List Char} {w : Text}
    (forms : List.Forall₂ (fun c p => Lexeme.isFormOf c p = true) u w)
    (plain : ∀ p ∈ w, ¬ OddCapital p) : List.Forall₂ folded u w := by
  induction forms with
  | nil => exact .nil
  | cons form _ ih =>
    refine .cons (folded_of_isFormOf form (plain _ List.mem_cons_self)) (ih fun p member => ?_)
    exact plain p (List.mem_cons_of_mem _ member)

/-- Folded forms of capitals are no odd capitals. -/
theorem not_oddCapital_of_forall {u : List Char} (upper : IsUpperWord u) {w : Text}
    (forms : List.Forall₂ folded u w) : ∀ p ∈ w, ¬ OddCapital p := by
  induction forms with
  | nil => exact fun _ member => absurd member List.not_mem_nil
  | cons form _ ih =>
    intro p member
    rcases List.mem_cons.1 member with rfl | later
    · exact not_oddCapital_of_folded (upper _ List.mem_cons_self) form
    · exact ih (fun d inside => upper d (List.mem_cons_of_mem _ inside)) p later

/-- A word that is read and means nothing has an odd capital. -/
theorem exists_oddCapital {words : List (List Char)} {w rest : Text}
    (isWord : Lexeme.OneOf words w rest) (unknown : ∀ u ∈ words, ¬ List.Forall₂ folded u w) :
    ∃ p ∈ w, OddCapital p := by
  obtain ⟨⟨u, listed, forms⟩, -⟩ := isWord
  by_contra plain
  refine unknown u listed (forall_folded_of_forms forms fun p member odd => plain ?_)
  exact ⟨p, member, odd⟩

/-! What comes of lexemes that are interpreted. -/

section interprets
variable [CharacterNames] {α β : Type} {ls ls' : List (Terminal × Token)}

/-- If the lexemes are interpreted each of them means something. If they are not they are refused with a
place, and not because of what comes next, or one of them means nothing. -/
structure Interprets (ls : List (Terminal × Token)) (x : Interpreted α) : Prop where
  meant : ∀ a, x = .ok a → ∀ l ∈ ls, ∀ fault : Fault Nat, ¬ l.1.Meaningless l.2.text fault
  fails : ∀ fault, x = .error fault →
    (∃ refusal left, fault = .refused refusal left ∧ ∀ context, refusal ≠ .unexpected context) ∨
      ∃ l ∈ ls, l.1.Meaningless l.2.text fault

theorem interprets_pure (a : α) : Interprets [] (pure a) :=
  ⟨fun _ _ _ member => absurd member List.not_mem_nil, fun _ failed => nomatch failed⟩

theorem interprets_throw {refusal : Refusal} (other : ∀ context, refusal ≠ .unexpected context)
    (left : Nat) : Interprets ls (throw (.refused refusal left) : Interpreted α) := by
  constructor
  · intro a done
    cases done
  · rintro fault ⟨⟩
    exact .inl ⟨refusal, left, rfl, other⟩

/-- Parts that are interpreted one after the other have the lexemes of both. -/
theorem Interprets.bind {x : Interpreted α} {f : α → Interpreted β} (first : Interprets ls x)
    (next : ∀ a, Interprets ls' (f a)) : Interprets (ls ++ ls') (x >>= f) := by
  constructor
  · intro b done l member
    obtain ⟨a, isFirst, isNext⟩ := bind_eq_ok_iff.1 done
    rcases List.mem_append.1 member with h | h
    · exact first.meant a isFirst l h
    · exact (next a).meant b isNext l h
  · intro fault failed
    cases x with
    | error e =>
      cases failed
      exact (first.fails _ rfl).imp_right fun ⟨l, member, nothing⟩ =>
        ⟨l, List.mem_append_left _ member, nothing⟩
    | ok a =>
      exact ((next a).fails fault failed).imp_right fun ⟨l, member, nothing⟩ =>
        ⟨l, List.mem_append_right _ member, nothing⟩

/-- In which order they are interpreted does not matter. -/
theorem Interprets.congr {x : Interpreted α} (whole : Interprets ls x) (same : ∀ l, l ∈ ls ↔ l ∈ ls') :
    Interprets ls' x :=
  ⟨fun a done l member => whole.meant a done l ((same l).2 member), fun fault failed =>
    (whole.fails fault failed).imp_right fun ⟨l, member, nothing⟩ => ⟨l, (same l).1 member, nothing⟩⟩

/-- And so has a list of parts. -/
theorem Interprets.mapM {f : α → Interpreted β} {lexemes : α → List (Terminal × Token)} {xs : List α}
    (each : ∀ x ∈ xs, Interprets (lexemes x) (f x)) : Interprets (xs.flatMap lexemes) (xs.mapM f) := by
  induction xs with
  | nil => exact interprets_pure []
  | cons x xs ih =>
    rw [List.mapM_cons, List.flatMap_cons]
    refine (each x List.mem_cons_self).bind fun y => ?_
    rw [← List.append_nil (xs.flatMap lexemes)]
    exact (ih fun x' member => each x' (List.mem_cons_of_mem _ member)).bind fun ys =>
      interprets_pure (y :: ys)

/-! Numbers and names. -/

/-- Only too many digits keep a number from meaning something. -/
theorem interprets_number (tok : Token) : Interprets [(.number, tok)] tok.number := by
  constructor
  · intro n done l member fault nothing
    obtain rfl := List.mem_singleton.1 member
    have short := (value?_eq_some_iff.1 (number_eq_ok_iff.1 done)).1
    cases nothing with
    | number long => exact absurd short (Nat.not_le.2 long)
  · intro fault failed
    refine .inr ⟨_, List.mem_singleton_self _, ?_⟩
    unfold Token.number at failed
    split at failed
    · cases failed
    · rename_i unread
      cases failed
      refine .number (Nat.not_le.1 fun short => ?_)
      rw [Decimal.value?, if_pos short] at unread
      cases unread

theorem interprets_byte (tok : Token) : Interprets [(.number, tok)] tok.byte := by
  refine (interprets_number tok).bind fun n => (?_ : Interprets [] _)
  split
  · exact interprets_pure _
  · exact interprets_throw (by simp) _

/-- A name of a list is interpreted unless it has an odd capital. -/
theorem interprets_name {words : List (List Char)} {x : Interpreted α} (found : tok.In text c)
    (listed : ∀ {w rest}, c.kind w rest → Lexeme.OneOf words w rest)
    (upper : ∀ u ∈ words, IsUpperWord u)
    (known : (∃ a, x = .ok a) ↔ ∃ u ∈ words, List.Forall₂ folded u tok.text)
    (means : ∀ fault : Fault Nat,
      c.Meaningless tok.text fault ↔ fault = .unknownName ∧ ∃ p ∈ tok.text, OddCapital p)
    (unknown : ∀ fault, x = .error fault → fault = .unknownName) : Interprets [(c, tok)] x := by
  constructor
  · intro a done l member fault nothing
    obtain rfl := List.mem_singleton.1 member
    obtain ⟨u, isWord, forms⟩ := known.1 ⟨a, done⟩
    obtain ⟨-, p, inside, odd⟩ := (means fault).1 nothing
    exact not_oddCapital_of_forall (upper u isWord) forms p inside odd
  · intro fault failed
    obtain ⟨rest, isKind⟩ := found.kind
    have odd := exists_oddCapital (listed isKind) fun u isWord forms => by
      obtain ⟨a, done⟩ := known.2 ⟨u, isWord, forms⟩
      rw [failed] at done
      cases done
    exact .inr ⟨_, List.mem_singleton_self _, (means fault).2 ⟨unknown fault failed, odd⟩⟩

theorem interprets_opcode (found : tok.In text .mnemonic) : Interprets [(.mnemonic, tok)] tok.opcode := by
  refine interprets_name found id (by decide) ?_ (fun fault => ?_) fun fault failed => ?_
  · constructor
    · rintro ⟨o, done⟩
      exact ⟨_, mem_mnemonics o, opcode_eq_ok_iff.1 done⟩
    · rintro ⟨u, listed, forms⟩
      obtain ⟨o, -, rfl⟩ := List.mem_map.1 listed
      exact ⟨o, opcode_eq_ok_iff.2 forms⟩
  · constructor
    · rintro ⟨⟩
      exact ⟨rfl, _, ‹_›, ‹_›⟩
    · rintro ⟨rfl, p, inside, odd⟩
      exact .mnemonic inside odd
  · unfold Token.opcode at failed
    split at failed <;> cases failed
    rfl

theorem interprets_register (found : tok.In text .register) :
    Interprets [(.register, tok)] tok.register := by
  refine interprets_name found id (by decide) ?_ (fun fault => ?_) fun fault failed => ?_
  · constructor
    · rintro ⟨r, done⟩
      exact ⟨_, mem_registerNames r, register_eq_ok_iff.1 done⟩
    · rintro ⟨u, listed, forms⟩
      obtain ⟨r, -, rfl⟩ := List.mem_map.1 listed
      exact ⟨r, register_eq_ok_iff.2 forms⟩
  · constructor
    · rintro ⟨⟩
      exact ⟨rfl, _, ‹_›, ‹_›⟩
    · rintro ⟨rfl, p, inside, odd⟩
      exact .register inside odd
  · unfold Token.register at failed
    split at failed <;> cases failed
    rfl

/-! Parts of a form. -/

theorem interprets_position (form : PositionForm) : Interprets form.lexemes form.interpret := by
  cases form with
  | flat index => exact (interprets_number index).bind fun _ => interprets_pure _
  | grid row col =>
    refine (interprets_number row).bind fun _ => (?_ : Interprets [(.number, col)] _)
    exact (interprets_number col).bind fun _ => interprets_pure _

theorem interprets_operand {form : Option OperandForm}
    (found : AllIn text (form.toList.flatMap OperandForm.lexemes)) :
    Interprets (form.toList.flatMap OperandForm.lexemes) (interpretOperand form) := by
  cases form with
  | none => exact interprets_pure _
  | some operand =>
    cases operand with
    | immediate value | address value => exact (interprets_byte value).bind fun _ => interprets_pure _
    | register name =>
      exact (interprets_register (allIn_cons.1 found).1).bind fun _ => interprets_pure _

/-- The letters of a mask always mean something. -/
theorem Interprets.mask {x : Interpreted α} (whole : Interprets ls x) (letters : List Token) :
    Interprets (ls ++ letters.map (.directions, ·)) x := by
  constructor
  · intro a done l member fault nothing
    rcases List.mem_append.1 member with h | h
    · exact whole.meant a done l h fault nothing
    · obtain ⟨tok, -, rfl⟩ := List.mem_map.1 h
      cases nothing
  · intro fault failed
    exact (whole.fails fault failed).imp_right fun ⟨l, member, nothing⟩ =>
      ⟨l, List.mem_append_left _ member, nothing⟩

/-- Operand, opcode and mask of an instruction, or four bytes. -/
theorem interprets_record {form : RecordForm} (found : AllIn text form.lexemes) :
    Interprets form.lexemes form.interpret := by
  cases form with
  | instruction opcode operand mask =>
    obtain ⟨here, parts⟩ := allIn_cons.1 found
    have named : ∀ value : UInt8 × UInt8, Interprets [(.mnemonic, opcode)] (do
        let o ← opcode.opcode
        return (⟨o.code, value.1, value.2, interpretMask mask⟩ : Instruction)) :=
      fun _ => (interprets_opcode here).bind fun _ => interprets_pure _
    have both := ((interprets_operand (allIn_append.1 parts).1).bind named).mask mask.join.toList
    -- the operand is interpreted first, though the mnemonic stands before it
    exact both.congr fun l => by simp [RecordForm.lexemes, or_left_comm]
  | raw opcode operand mode dirs =>
    refine (interprets_byte opcode).bind fun _ => (?_ : Interprets [_, _, _] _)
    refine (interprets_byte operand).bind fun _ => (?_ : Interprets [_, _] _)
    refine (interprets_byte mode).bind fun _ => (?_ : Interprets [_] _)
    exact (interprets_byte dirs).bind fun _ => interprets_pure _

theorem interprets_stack (values : List Token) :
    Interprets (values.map (.number, ·)) (interpretStack values) := by
  unfold interpretStack
  split
  · exact interprets_throw (by simp) _
  · rw [List.map_eq_flatMap]
    exact Interprets.mapM fun v _ => interprets_byte v

/-- By cases of the form; a register, a stack and a cell have parts of their own. -/
theorem interprets_form {form : Form} (found : AllIn text form.lexemes) :
    Interprets form.lexemes form.interpret := by
  cases form with
  | id name =>
    refine ⟨fun _ _ l member fault nothing => ?_, fun _ failed => nomatch failed⟩
    obtain rfl := List.mem_singleton.1 member
    cases nothing
  | cycles gold silver bronze =>
    refine (interprets_number gold).bind fun _ => (?_ : Interprets [_, _] _)
    refine (interprets_number silver).bind fun _ => (?_ : Interprets [_] _)
    exact (interprets_number bronze).bind fun _ => interprets_pure _
  | label quoted =>
    constructor
    · intro s done l member fault nothing
      obtain rfl := List.mem_singleton.1 member
      cases nothing with
      | string undecoded =>
        rw [Form.interpret, undecoded] at done
        cases done
    · intro fault failed
      refine .inr ⟨_, List.mem_singleton_self _, ?_⟩
      simp only [Form.interpret] at failed
      split at failed
      · cases failed
      · rename_i undecoded
        cases failed
        exact .string undecoded
  | register name value =>
    refine (interprets_register (allIn_cons.1 found).1).bind fun r => (?_ : Interprets [(.number, value)] _)
    split
    · exact interprets_throw (by simp) _
    · exact (interprets_byte value).bind fun _ => interprets_pure _
  | stack values =>
    have whole := (interprets_stack values).bind fun vs =>
      (interprets_pure (Statement.stack vs) : Interprets [] _)
    rwa [List.append_nil] at whole
  | byte offset value =>
    refine (interprets_number offset).bind fun _ => (?_ : Interprets [(.number, value)] _)
    exact (interprets_byte value).bind fun _ => interprets_pure _
  | cell position record =>
    obtain ⟨-, inRecord⟩ := allIn_append.1 found
    refine (interprets_position position).bind fun _ => ?_
    have whole := (interprets_record inRecord).bind fun r =>
      (interprets_pure (Statement.cell ‹_› r position.first.left) : Interprets [] _)
    rwa [List.append_nil] at whole

end interprets

/-! Whole texts. -/

/-- The place is a line and a column, unless the text has ended too early. -/
def Place.Told (place : Place) : Prop := place = .atEnd ∨ 1 ≤ place.line ∧ 1 ≤ place.column

/-- The image of the grid has more bytes than a memory has addresses, and the fault says so. -/
def Oversized {π : Type} (g : Grid) (fault : Fault π) : Prop :=
  Size.addresses < Machine.sizeFor g ∧ ∃ d, d ≠ .negative ∧ fault = .size d

/-- Nobody is told that no memory holds the image. -/
theorem Oversized.message?_eq_none {g : Grid} {fault : Fault Place} (large : Oversized g fault) :
    fault.message? = none := by
  obtain ⟨-, d, fromAbove, rfl⟩ := large
  cases d with
  | negative => exact absurd rfl fromAbove
  | beyondIndex | beyondMemory => rfl

section texts
variable [CharacterNames] {π ρ : Type}

/-- What a word means does not depend on how places are told. -/
theorem Terminal.Meaningless.map {w : Text} {fault : Fault π} (nothing : c.Meaningless w fault)
    (f : π → ρ) : c.Meaningless w (fault.map f) := by
  cases nothing with
  | string undecoded => exact .string undecoded
  | number long => exact .number long
  | mnemonic inside odd => exact .mnemonic inside odd
  | register inside odd => exact .register inside odd

/-- Whether the forms of a text are interpreted is a matter of their lexemes. -/
theorem interprets_forms {forms : List Form} (read : readForms text = .ok forms) :
    Interprets (forms.flatMap Form.lexemes) (forms.mapM Form.interpret) :=
  Interprets.mapM fun form member => interprets_form (allIn_of_readForms List.suffix_rfl read form member)

/-- A text that is not read is refused with a place, or it breaks. -/
theorem parse_failed {fault : Fault Place} (failed : parse text = .error fault) :
    (∃ refusal place, fault = .refused refusal place ∧ place.Told) ∨ Breaks text fault := by
  unfold parse at failed
  split at failed
  · cases failed
    refine .inl ⟨_, _, rfl, ?_⟩
    split
    · exact .inl rfl
    · exact .inr (Place.one_le_of _ _)
  · rename_i forms read
    split at failed
    · rename_i e broken
      cases failed
      rcases (interprets_forms read).fails e broken with ⟨refusal, left, rfl, -⟩ | ⟨l, member, nothing⟩
      · exact .inl ⟨refusal, _, rfl, .inr (Place.one_le_of _ _)⟩
      · obtain ⟨form, stands, lexeme⟩ := List.mem_flatMap.1 member
        have inText := allIn_of_readForms List.suffix_rfl read form stands l lexeme
        exact .inr (.intro read stands lexeme inText (nothing.map _))
    · cases failed

/-- Such a fault is never told. -/
theorem Breaks.message?_eq_none {fault : Fault Place} (breaks : Breaks text fault) :
    fault.message? = none := by
  obtain ⟨-, -, -, -, nothing⟩ := breaks
  cases nothing <;> rfl

/-- A text with a lexeme that means nothing is not read. -/
theorem not_parse_of_breaks {fault : Fault π} (breaks : Breaks text fault) (ss : List Statement) :
    parse text ≠ .ok ss := by
  obtain ⟨read, stands, lexeme, -, nothing⟩ := breaks
  intro parsed
  unfold parse at parsed
  simp only [read] at parsed
  split at parsed
  · cases parsed
  · rename_i meant
    have all := (interprets_forms read).meant _ meant
    exact all _ (List.mem_flatMap.2 ⟨_, stands, lexeme⟩) _ (nothing.map fun _ => 0)

/-- Assembling ends in a program of the right size or in a refusal with a line and a column. All else comes
of a lexeme that means nothing, and then there is no program, or of an image that no memory holds. -/
theorem assemble_outcomes (g : Grid) (text : Text) :
    (∃ p, assemble text g.cols g.rows = .ok p ∧ p.memory.length = Machine.sizeFor g ∧
      ∀ fault : Fault Place, ¬ Breaks text fault) ∨
    (∃ refusal place, assemble text g.cols g.rows = .error (.refused refusal place) ∧ place.Told) ∨
    ∃ fault, assemble text g.cols g.rows = .error fault ∧ (Breaks text fault ∨ Oversized g fault) := by
  rcases Nat.lt_or_ge Size.addresses (Machine.sizeFor g) with large | held
  · obtain ⟨d, fromAbove, failed⟩ := assemble_of_large text large
    exact .inr (.inr ⟨_, failed, .inr ⟨large, d, fromAbove, rfl⟩⟩)
  cases parsed : parse text with
  | ok ss =>
    by_cases fits : Fitting g ss
    · obtain ⟨p, assembled, told⟩ := assemble_of_fitting parsed held fits
      exact .inl ⟨p, assembled, told.size, fun _ breaks => not_parse_of_breaks breaks ss parsed⟩
    · obtain ⟨refusal, place, offence⟩ := exists_offence parsed fits
      refine .inr (.inl ⟨refusal, place, assemble_of_offence parsed held offence, .inr ?_⟩)
      cases offence
      constructor <;> simp only <;> omega
  | error fault =>
    have failed := assemble_of_parse_error parsed held
    rcases parse_failed parsed with ⟨refusal, place, rfl, told⟩ | breaks
    · exact .inr (.inl ⟨refusal, place, failed, told⟩)
    · exact .inr (.inr ⟨fault, failed, .inl breaks⟩)

end texts

end CellWalk.Assembly
