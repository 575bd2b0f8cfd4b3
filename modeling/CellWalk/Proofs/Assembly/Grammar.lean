import CellWalk.Assembly.Statement
import Mathlib.Data.List.Forall2

/-!
# The grammar of program text

Which texts spell which statements, said without any reader. Every relation leads from a text to
the text that is left after a piece of it: layout (`Layout`), a lexeme behind layout (`Comes`), the
parts of a cell, a statement (`Phrase`) and a whole program (`Spells`). A lexeme needs nothing after it
but what ends it; where a number is cut off by the next lexeme no blank has to stand.
-/

namespace CellWalk.Assembly.Grammar
set_option autoImplicit false

/-- Which code points are read as an upper-case letter. -/
abbrev CaseForms := Char → CodePoint → Prop

/-- The letter itself and its small form. -/
def ascii : CaseForms := fun letter p => p.val = letter.toNat ∨ p.val = letter.toNat + 32

/-- Besides these, the forms that case folding adds: the long s and the dotless small i. -/
def folded : CaseForms := fun letter p =>
  ascii letter p ∨ (letter = 'S' ∧ p.val = 0x17F) ∨ (letter = 'I' ∧ p.val = 0x131)

/-- No code point of the kind comes next. -/
def Stops (kind : CodePoint → Prop) (rest : Text) : Prop := ∀ p ∈ rest.head?, ¬ kind p

theorem stops_cons {kind : CodePoint → Prop} {p : CodePoint} (other : ¬ kind p) (rest : Text) :
    Stops kind (p :: rest) := by
  intro q first
  cases first
  exact other

/-- Blanks and comments. A comment goes on to the next line feed or to the end of the text. -/
inductive Layout : Text → Text → Prop
  | none (t : Text) : Layout t t
  | blank {p : CodePoint} {t rest : Text} (isBlank : p.isBlank = true) (more : Layout t rest) :
      Layout (p :: t) rest
  | comment {body t rest : Text} (oneLine : Text.newline ∉ body) (ends : Stops (· ≠ Text.newline) t)
      (more : Layout t rest) : Layout ((';' : CodePoint) :: (body ++ t)) rest

/-! Lexemes: a text and the text that may follow it. -/

abbrev Lexical := Text → Text → Prop

/-- A fixed text. -/
def fixed (text : String) : Lexical := fun w _ => w = Text.ofString text

/-- A number with any leading zeros, which no further digit follows. -/
def number (n : Nat) : Lexical := fun w rest =>
  (∃ zeros, w = List.replicate zeros ('0' : CodePoint) ++ Decimal.ofNat n) ∧
    w.length ≤ Decimal.maxDigits ∧ Stops (·.isDigit = true) rest

/-- What an id consists of. -/
def InName (p : CodePoint) : Prop := p.isLetter ∨ p.isDigit ∨ p = '_' ∨ p = '-'

instance (p : CodePoint) : Decidable (InName p) :=
  inferInstanceAs (Decidable (p.isLetter ∨ p.isDigit ∨ p = '_' ∨ p = '-'))

/-- An id. -/
def name (id : Text) : Lexical := fun w rest =>
  w = id ∧ id ≠ [] ∧ (∀ p ∈ id, InName p) ∧ Stops InName rest

/-- A word in any mix of cases up to a word boundary. -/
def word (forms : CaseForms) (upper : String) : Lexical := fun w rest =>
  List.Forall₂ forms upper.toList w ∧ Stops (·.isWord = true) rest

/-- The word that announces four raw bytes, which needs no boundary. -/
def rawBytes : Lexical := fun w _ => List.Forall₂ ascii ['D', 'B'] w

/-- The letters of some directions, in any order and repeated at will. -/
def letters (ds : List Direction) : Lexical := fun w rest =>
  ds ≠ [] ∧ List.Forall₂ (fun d p => ascii d.letter p) ds w ∧
    Stops (fun p => ∃ d : Direction, ascii d.letter p) rest

/-- What stands between the quotes of a string: no bare quote, and no line feed. -/
inductive StringBody : Text → Prop
  | nil : StringBody []
  | plain {p : CodePoint} {t : Text} (noQuote : p ≠ '"') (noBackslash : p ≠ '\\')
      (noLineFeed : p ≠ Text.newline) (more : StringBody t) : StringBody (p :: t)
  | escape {p : CodePoint} {t : Text} (noLineFeed : p ≠ Text.newline) (more : StringBody t) :
      StringBody (('\\' : CodePoint) :: p :: t)

/-- A string in double quotes that stands for a label. -/
def string [CharacterNames] (label : Text) : Lexical := fun w _ =>
  (∃ body, w = ('"' : CodePoint) :: body ++ [('"' : CodePoint)] ∧ StringBody body) ∧
    Label.decode w = .ok label

/-- After layout comes a lexeme of the kind, with `left` code points from its start to the end. -/
def ComesAt (kind : Lexical) (t : Text) (left : Nat) (rest : Text) : Prop :=
  ∃ w, Layout t (w ++ rest) ∧ kind w rest ∧ left = (w ++ rest).length

/-- After layout comes a lexeme of the kind. -/
def Comes (kind : Lexical) (t rest : Text) : Prop := ∃ w, Layout t (w ++ rest) ∧ kind w rest

/-! Cells. -/

/-- An operand's value and mode; an immediate 0 may be left out. -/
inductive Operand (forms : CaseForms) : Text → UInt8 → UInt8 → Text → Prop
  | omitted (t : Text) : Operand forms t 0 Instruction.immediateMode t
  | immediate {t a rest : Text} {v : UInt8} (sign : Comes (fixed "#") t a)
      (value : Comes (number v.toNat) a rest) : Operand forms t v Instruction.immediateMode rest
  | address {t a rest : Text} {v : UInt8} (sign : Comes (fixed "@") t a)
      (value : Comes (number v.toNat) a rest) : Operand forms t v Instruction.addressMode rest
  | register {t rest : Text} {r : Register} (register : Comes (word forms r.name) t rest) :
      Operand forms t r.offset Instruction.addressMode rest

/-- The directions of a mask as one byte. -/
def maskOf (ds : List Direction) : UInt8 := ds.foldl (fun mask d => mask ||| d.bit) 0

/-- A direction mask; an empty one may be left out. -/
inductive Mask : Text → UInt8 → Text → Prop
  | omitted (t : Text) : Mask t 0 t
  | empty {t a rest : Text} (opening : Comes (fixed "[") t a)
      (closing : Comes (fixed "]") a rest) : Mask t 0 rest
  | some {t a b rest : Text} {ds : List Direction} (opening : Comes (fixed "[") t a)
      (directions : Comes (letters ds) a b) (closing : Comes (fixed "]") b rest) :
      Mask t (maskOf ds) rest

/-- What a cell holds: an instruction or four raw bytes. -/
inductive Record (forms : CaseForms) : Text → Instruction → Text → Prop
  | instruction {t a b rest : Text} {o : Opcode} {value mode dirs : UInt8}
      (opcode : Comes (word forms o.mnemonic) t a) (operand : Operand forms a value mode b)
      (mask : Mask b dirs rest) : Record forms t ⟨o.code, value, mode, dirs⟩ rest
  | raw {t a b c d rest : Text} {opcode operand mode dirs : UInt8} (sign : Comes rawBytes t a)
      (first : Comes (number opcode.toNat) a b) (second : Comes (number operand.toNat) b c)
      (third : Comes (number mode.toNat) c d) (fourth : Comes (number dirs.toNat) d rest) :
      Record forms t ⟨opcode, operand, mode, dirs⟩ rest

/-- Where a cell lies, and where that is said. -/
inductive Located : Text → Position → Nat → Text → Prop
  | flat {t rest : Text} {index left : Nat} (index_ : ComesAt (number index) t left rest) :
      Located t (.flat index) left rest
  | grid {t a b rest : Text} {row col left : Nat} (row_ : ComesAt (number row) t left a)
      (comma : Comes (fixed ",") a b) (col_ : Comes (number col) b rest) :
      Located t (.grid row col) left rest

/-! Statements. -/

/-- The values of the stack, one after the other. -/
inductive Values : Text → List UInt8 → Text → Prop
  | nil (t : Text) : Values t [] t
  | cons {t a rest : Text} {v : UInt8} {vs : List UInt8} (value : Comes (number v.toNat) t a)
      (more : Values a vs rest) : Values t (v :: vs) rest

/-- A statement. -/
inductive Phrase [CharacterNames] (forms : CaseForms) : Text → Statement → Text → Prop
  | id {t a rest id : Text} (keyword : Comes (fixed ".id") t a)
      (id_ : Comes (name id) a rest) : Phrase forms t (.id id) rest
  | cycles {t a b c rest : Text} {gold silver bronze : Nat}
      (keyword : Comes (fixed ".cycles") t a) (gold_ : Comes (number gold) a b)
      (silver_ : Comes (number silver) b c) (bronze_ : Comes (number bronze) c rest) :
      Phrase forms t (.cycles gold silver bronze) rest
  | label {t a rest label : Text} (keyword : Comes (fixed ".label") t a)
      (label_ : Comes (string label) a rest) : Phrase forms t (.label label) rest
  | register {t a b rest : Text} {r : Register} {v : UInt8} {left : Nat}
      (keyword : Comes (fixed ".reg") t a)
      (register_ : ComesAt (word forms r.name) a left b) (proper : r ≠ .stk)
      (value : Comes (number v.toNat) b rest) : Phrase forms t (.byte r.address v left) rest
  | stack {t a rest : Text} {vs : List UInt8} (keyword : Comes (fixed ".stack") t a)
      (values : Values a vs rest) (few : vs.length ≤ stackSlots) : Phrase forms t (.stack vs) rest
  | byte {t a b rest : Text} {offset left : Nat} {v : UInt8}
      (keyword : Comes (fixed ".byte") t a) (offset_ : ComesAt (number offset) a left b)
      (value : Comes (number v.toNat) b rest) : Phrase forms t (.byte offset v left) rest
  | cell {t a b rest : Text} {position : Position} {record : Instruction} {left : Nat}
      (position_ : Located t position left a) (colon : Comes (fixed ":") a b)
      (record_ : Record forms b record rest) : Phrase forms t (.cell position record left) rest

/-- A whole text: statements one after the other, and layout after the last. -/
inductive Spells [CharacterNames] (forms : CaseForms) : Text → List Statement → Prop
  | done {t : Text} (layout : Layout t []) : Spells forms t []
  | cons {t rest : Text} {s : Statement} {ss : List Statement} (first : Phrase forms t s rest)
      (more : Spells forms rest ss) : Spells forms t (s :: ss)

/-! Any layout may come before a statement. -/

section layout
variable {forms : CaseForms} {a t rest : Text}

/-- Layout after layout is layout. -/
theorem Layout.trans {a b c : Text} (first : Layout a b) (second : Layout b c) : Layout a c := by
  induction first with
  | none => exact second
  | blank isBlank _ ih => exact .blank isBlank (ih second)
  | comment oneLine ends _ ih => exact .comment oneLine ends (ih second)

/-- More layout may come before a lexeme. -/
theorem Comes.behind {kind : Lexical} (layout : Layout a t) (comes : Comes kind t rest) :
    Comes kind a rest := by
  obtain ⟨w, more, isKind⟩ := comes
  exact ⟨w, layout.trans more, isKind⟩

/-- It does not move the lexeme. -/
theorem ComesAt.behind {kind : Lexical} {left : Nat} (layout : Layout a t)
    (comes : ComesAt kind t left rest) : ComesAt kind a left rest := by
  obtain ⟨w, more, isKind, size⟩ := comes
  exact ⟨w, layout.trans more, isKind, size⟩

/-- A statement is found behind more layout, and says the same place. -/
theorem Phrase.behind [CharacterNames] {s : Statement} (layout : Layout a t)
    (phrase : Phrase forms t s rest) : Phrase forms a s rest := by
  cases phrase with
  | id keyword id_ => exact .id (keyword.behind layout) id_
  | cycles keyword gold_ silver_ bronze_ =>
    exact .cycles (keyword.behind layout) gold_ silver_ bronze_
  | label keyword label_ => exact .label (keyword.behind layout) label_
  | register keyword register_ proper value =>
    exact .register (keyword.behind layout) register_ proper value
  | stack keyword values few => exact .stack (keyword.behind layout) values few
  | byte keyword offset_ value => exact .byte (keyword.behind layout) offset_ value
  | cell located colon record_ =>
    cases located with
    | flat index_ => exact .cell (.flat (index_.behind layout)) colon record_
    | grid row_ comma col_ => exact .cell (.grid (row_.behind layout) comma col_) colon record_

/-- So is a whole list of statements. -/
theorem Spells.behind [CharacterNames] {ss : List Statement} (layout : Layout a t)
    (spells : Spells forms t ss) : Spells forms a ss := by
  cases spells with
  | done more => exact .done (layout.trans more)
  | cons first more => exact .cons (first.behind layout) more

end layout

/-! More forms of the letters make more texts grammatical. -/

section mono
variable {forms forms' : CaseForms} {t rest : Text}

/-- A word in some forms of its letters is a word in any further ones. -/
theorem word_mono (more : ∀ c p, forms c p → forms' c p) {upper : String} {w : Text}
    (spelled : word forms upper w rest) : word forms' upper w rest :=
  ⟨spelled.1.imp more, spelled.2⟩

theorem Comes.imp {kind kind' : Lexical} (more : ∀ w rest, kind w rest → kind' w rest)
    (comes : Comes kind t rest) : Comes kind' t rest := by
  obtain ⟨w, layout, isKind⟩ := comes
  exact ⟨w, layout, more w rest isKind⟩

theorem ComesAt.imp {kind kind' : Lexical} {left : Nat} (more : ∀ w rest, kind w rest → kind' w rest)
    (comes : ComesAt kind t left rest) : ComesAt kind' t left rest := by
  obtain ⟨w, layout, isKind, size⟩ := comes
  exact ⟨w, layout, more w rest isKind, size⟩

/-- Of the operands only a register's name has letters. -/
theorem Operand.mono (more : ∀ c p, forms c p → forms' c p) {value mode : UInt8}
    (operand : Operand forms t value mode rest) : Operand forms' t value mode rest := by
  cases operand with
  | omitted => exact .omitted t
  | immediate sign value => exact .immediate sign value
  | address sign value => exact .address sign value
  | register register => exact .register (register.imp fun _ _ => word_mono more)

/-- Opcode and operand may have more forms; the letters of a mask have theirs. -/
theorem Record.mono (more : ∀ c p, forms c p → forms' c p) {record : Instruction}
    (holds : Record forms t record rest) : Record forms' t record rest := by
  cases holds with
  | instruction opcode operand mask =>
    exact .instruction (opcode.imp fun _ _ => word_mono more) (operand.mono more) mask
  | raw sign first second third fourth => exact .raw sign first second third fourth

/-- With more forms a statement can be spelled in more ways, and no way is lost. -/
theorem Phrase.mono [CharacterNames] (more : ∀ c p, forms c p → forms' c p) {s : Statement}
    (phrase : Phrase forms t s rest) : Phrase forms' t s rest := by
  cases phrase with
  | id keyword id_ => exact .id keyword id_
  | cycles keyword gold_ silver_ bronze_ => exact .cycles keyword gold_ silver_ bronze_
  | label keyword label_ => exact .label keyword label_
  | register keyword register_ proper value =>
    exact .register keyword (register_.imp fun _ _ => word_mono more) proper value
  | stack keyword values few => exact .stack keyword values few
  | byte keyword offset_ value => exact .byte keyword offset_ value
  | cell position_ colon record_ => exact .cell position_ colon (record_.mono more)

/-- What spells a list of statements in some forms does so in any further ones. -/
theorem Spells.mono [CharacterNames] (more : ∀ c p, forms c p → forms' c p) {ss : List Statement}
    (spells : Spells forms t ss) : Spells forms' t ss := by
  induction spells with
  | done layout => exact .done layout
  | cons first _ ih => exact .cons (first.mono more) ih

end mono

end CellWalk.Assembly.Grammar
