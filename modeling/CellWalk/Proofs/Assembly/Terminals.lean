import CellWalk.Proofs.Assembly.Completeness

/-!
# Terminals

The classes of lexemes that the reader asks for, each with its words (`Terminal.kind`). Two of them that may come
next at one place are told apart by how their words start, or by the second letter of a keyword
(`Terminal.Apart`). What follows a word matters only by its first code point, and no word has a line feed in it
(`Terminal.kind_of_partsLike`, `Terminal.newline_notMem`).
-/

namespace CellWalk.Assembly
set_option autoImplicit false
open Grammar

/-- The marks of a cell. -/
inductive Mark
  | comma
  | colon
  | hash
  | at
  | opening
  | closing
deriving DecidableEq

def Mark.char : Mark → Char
  | .comma => ','
  | .colon => ':'
  | .hash => '#'
  | .at => '@'
  | .opening => '['
  | .closing => ']'

/-- The classes of lexemes. -/
inductive Terminal
  | number
  | name
  | string
  | register
  | mnemonic
  | rawBytes
  | directions
  | mark (m : Mark)
  | keyword (k : Keyword)
deriving DecidableEq

def Terminal.lexeme : Terminal → Lexeme
  | .number => .number
  | .name => .name
  | .string => .string
  | .register => .register
  | .mnemonic => .mnemonic
  | .rawBytes => .rawBytes
  | .directions => .directions
  | .mark m => .mark m.char
  | .keyword k => .fixed k.word

variable {t w rest rest' : Text} {c c' : Terminal} {tok : Token}

/-- The words of the class, and what may follow them. -/
def Terminal.kind : Terminal → Lexical
  | .number => Lexeme.Run CodePoint.isDigit
  | .name => Lexeme.Run Lexeme.isNamePoint
  | .string => Lexeme.Quoted
  | .register => Lexeme.OneOf Lexeme.registerNames
  | .mnemonic => Lexeme.OneOf Lexeme.mnemonics
  | .rawBytes => Grammar.rawBytes
  | .directions => Lexeme.Run Lexeme.isDirectionLetter
  | .mark m => fun w _ => w = Text.ofChars [m.char]
  | .keyword k => fun w _ => w = Text.ofChars k.word

/-- The lexeme of a class is what the grammar has of it. -/
theorem Terminal.takes (c : Terminal) : c.lexeme.Takes c.kind := by
  cases c with
  | number => exact takes_number
  | name => exact takes_name
  | string => exact Lexeme.takes_string
  | register => exact Lexeme.takes_register
  | mnemonic => exact Lexeme.takes_mnemonic
  | rawBytes => exact Lexeme.takes_rawBytes
  | directions => exact takes_directions
  | mark m => exact Lexeme.takes_fixed [] (by cases m <;> decide)
  | keyword k => exact takes_keyword k

theorem trimLayout_of_token (found : nextToken c.lexeme t = some (tok, rest)) :
    trimLayout t = tok.text ++ rest := by
  obtain ⟨layout, isKind, -⟩ := (nextToken_iff c.takes).1 found
  obtain ⟨p, w, e, visible⟩ := c.takes.starts isKind
  rw [trimLayout_of_layout layout, e, List.cons_append, trimLayout_visible visible]

/-! Which classes are told apart. -/

/-- No text starts with a lexeme of each class. -/
def Terminal.Apart (c c' : Terminal) : Prop :=
  ∀ w rest w' rest', c.kind w rest → c'.kind w' rest' → w ++ rest ≠ w' ++ rest'

instance : Std.Symm Terminal.Apart :=
  ⟨fun _ _ apart _ _ _ _ first second same => apart _ _ _ _ second first same.symm⟩

/-- How a lexeme starts, where that tells classes apart. -/
def Terminal.Starts : Terminal → CodePoint → Prop
  | .number, p => 48 ≤ p.val ∧ p.val ≤ 57
  | .register, p => 65 ≤ p.val ∧ p.val ≠ 91
  | .mnemonic, p => p.val ≠ 68 ∧ p.val ≠ 100
  | .rawBytes, p => p.val = 68 ∨ p.val = 100
  | .directions, p => p.val ≠ 93
  | .mark m, p => p.val = m.char.toNat
  | .keyword _, p => p.val = 46
  | _, _ => True

theorem val_of_isFormOf {d : Char} {p : CodePoint} (upper : IsUpper d)
    (form : Lexeme.isFormOf d p = true) :
    65 ≤ p.val ∧ p.val ≠ 91 ∧ p.val ≠ 93 ∧ (d ≠ 'D' → p.val ≠ 68 ∧ p.val ≠ 100) := by
  obtain ⟨low, high⟩ := upper
  have values : p.val = d.toNat ∨ p.val = d.toNat + 32 ∨ 0x100 ≤ p.val := by
    rcases Lexeme.isFormOf_iff.1 form with e | e | ⟨-, e⟩ | ⟨-, e | e⟩ | ⟨-, e⟩ <;> omega
  refine ⟨by omega, by omega, by omega, fun other => ?_⟩
  have letter : d.toNat ≠ 68 := fun e => other (Char.toNat_inj.1 e)
  omega

/-- How a class starts, by cases of the class. -/
theorem Terminal.starts_of_kind {p : CodePoint} (isKind : c.kind (p :: w) rest) : c.Starts p := by
  cases c with
  | number =>
    have digit := isKind.2.1 p List.mem_cons_self
    simpa [CodePoint.isDigit, Terminal.Starts] using digit
  | register =>
    obtain ⟨⟨u, listed, forms⟩, -⟩ := isKind
    have upper : ∀ u ∈ Lexeme.registerNames, IsUpperWord u := by decide
    cases forms with
    | cons form _ =>
      have range := val_of_isFormOf (upper _ listed _ List.mem_cons_self) form
      exact ⟨range.1, range.2.1⟩
  | mnemonic =>
    obtain ⟨⟨u, listed, forms⟩, -⟩ := isKind
    have upper : ∀ u ∈ Lexeme.mnemonics, IsUpperWord u := by decide
    have noD : ∀ u ∈ Lexeme.mnemonics, u.head? ≠ some 'D' := by decide
    cases forms with
    | cons form _ =>
      have range := val_of_isFormOf (upper _ listed _ List.mem_cons_self) form
      exact range.2.2.2 fun e => noD _ listed (by rw [e]; rfl)
  | rawBytes =>
    cases isKind with
    | cons form _ => exact form
  | directions =>
    obtain ⟨d, form⟩ := isDirectionLetter_iff.1 (isKind.2.1 p List.mem_cons_self)
    have upper : IsUpper d.letter := by cases d <;> decide
    exact (val_of_isFormOf upper (isFormOf_of_folded (.inl form))).2.2.1
  | mark m =>
    obtain ⟨rfl, -⟩ := List.cons.inj isKind
    rfl
  | keyword k => cases k <;> (obtain ⟨rfl, -⟩ := List.cons.inj isKind; rfl)
  | name | string => trivial

/-- Classes that start in different ways have no lexeme in common. -/
theorem Terminal.apart_of_starts (differ : ∀ p, c.Starts p → ¬c'.Starts p) : c.Apart c' := by
  intro w rest w' rest' first second same
  obtain ⟨p, v, rfl, -⟩ := c.takes.starts first
  obtain ⟨p', v', rfl, -⟩ := c'.takes.starts second
  obtain rfl : p = p' := (List.cons.inj same).1
  exact differ p (starts_of_kind first) (starts_of_kind second)

/-- No keyword is the start of another. -/
theorem Terminal.apart_keywords {k k' : Keyword} (differ : k ≠ k') :
    (Terminal.keyword k).Apart (.keyword k') := by
  rintro w rest w' rest' rfl rfl same
  exact differ (keyword_unique same)

/-! What may follow a lexeme. -/

/-- No blank is a word character. -/
theorem isWord_of_isBlank {p : CodePoint} (blank : p.isBlank = true) : p.isWord = false := by
  have apart : ∀ r ∈ CodePoint.blankRanges, ∀ r' ∈ CodePoint.wordRanges, r.2 < r'.1 ∨ r'.2 < r.1 := by
    decide +kernel
  have low : ∀ r ∈ CodePoint.blankRanges, 0x80 ≤ r.1 ∨ r.2 < 48 := by decide
  obtain ⟨r, listed, above, below⟩ := CodePoint.isBlank_iff.1 blank
  unfold CodePoint.isWord
  split
  · have small := low r listed
    simp [CodePoint.isLetter, CodePoint.isDigit]
    omega
  · refine List.any_eq_false.2 fun r' listed' inside => ?_
    have := apart r listed r' listed'
    simp only [Bool.and_eq_true, decide_eq_true_eq] at inside
    omega

/-- The text begins like the other one, with a blank, or not at all. -/
def PartsLike (t' t : Text) : Prop := t'.head? = t.head? ∨ ∀ p ∈ t'.head?, p.isBlank = true

theorem Grammar.Stops.partsLike {kind : CodePoint → Bool} (stops : Stops (kind · = true) rest)
    (visible : ∀ p, kind p = true → p.isBlank = false) (like : PartsLike rest' rest) :
    Stops (kind · = true) rest' := by
  intro p first isKind
  rcases like with same | blank
  · exact stops p (same ▸ first) isKind
  · exact absurd (blank p first) (Bool.eq_false_iff.1 (visible p isKind))

/-- What follows a lexeme matters only by how it begins, and no lexeme goes on over a blank. -/
theorem Terminal.kind_of_partsLike (isKind : c.kind w rest) (like : PartsLike rest' rest) :
    c.kind w rest' := by
  have word (p : CodePoint) (isWord : p.isWord = true) : p.isBlank = false := by
    cases blank : p.isBlank with
    | false => rfl
    | true => exact absurd isWord (Bool.eq_false_iff.1 (isWord_of_isBlank blank))
  cases c with
  | number =>
    exact ⟨isKind.1, isKind.2.1, isKind.2.2.partsLike (fun p is => (visible_of_isDigit p is).1) like⟩
  | name =>
    exact ⟨isKind.1, isKind.2.1,
      isKind.2.2.partsLike (fun p is => (visible_of_isNamePoint p is).1) like⟩
  | directions =>
    refine ⟨isKind.1, isKind.2.1, isKind.2.2.partsLike (fun p is => ?_) like⟩
    obtain ⟨d, form⟩ := isDirectionLetter_iff.1 is
    have upper : IsUpper d.letter := by cases d <;> decide
    exact (Lexeme.visible_of_isFormOf upper (isFormOf_of_folded (.inl form))).1
  | register | mnemonic => exact ⟨isKind.1, isKind.2.partsLike word like⟩
  | string | rawBytes | mark | keyword => exact isKind

/-! A lexeme is on one line. -/

theorem Grammar.StringBody.newline_notMem (body : StringBody w) : Text.newline ∉ w := by
  induction body with
  | nil => exact List.not_mem_nil
  | plain _ _ noLineFeed _ ih => exact List.not_mem_cons_of_ne_of_not_mem noLineFeed.symm ih
  | escape noLineFeed _ ih =>
    have backslash : Text.newline ≠ ('\\' : CodePoint) := by decide
    exact List.not_mem_cons_of_ne_of_not_mem backslash
      (List.not_mem_cons_of_ne_of_not_mem noLineFeed.symm ih)

/-- The forms of a word's letters are word characters, the odd ones too. -/
theorem isWord_of_forms {u : List Char} {w : Text} (upper : IsUpperWord u)
    (forms : List.Forall₂ (fun d p => Lexeme.isFormOf d p = true) u w) : ∀ p ∈ w, p.isWord = true := by
  induction forms with
  | nil => exact fun _ member => absurd member List.not_mem_nil
  | cons form _ ih =>
    intro p member
    rcases List.mem_cons.1 member with rfl | later
    · exact Lexeme.isWord_of_isFormOf (upper _ List.mem_cons_self) form
    · exact ih (fun d listed => upper d (List.mem_cons_of_mem _ listed)) p later

theorem newline_notMem_of_oneOf {words : List (List Char)} (upper : ∀ u ∈ words, IsUpperWord u)
    (isWord : Lexeme.OneOf words w rest) : Text.newline ∉ w := by
  obtain ⟨⟨u, listed, forms⟩, -⟩ := isWord
  intro member
  exact absurd (isWord_of_forms (upper u listed) forms _ member) (by decide)

/-- No lexeme goes over the end of a line. -/
theorem Terminal.newline_notMem (isKind : c.kind w rest) : Text.newline ∉ w := by
  cases c with
  | number | name | directions => exact fun member => absurd (isKind.2.1 _ member) (by decide)
  | register => exact newline_notMem_of_oneOf (by decide) isKind
  | mnemonic => exact newline_notMem_of_oneOf (by decide) isKind
  | string =>
    obtain ⟨body, rfl, isBody⟩ := isKind
    have quote : Text.newline ≠ ('"' : CodePoint) := by decide
    simpa [quote] using isBody.newline_notMem
  | rawBytes =>
    have forms : List.Forall₂ (fun d p => Lexeme.isFormOf d p = true) ['D', 'B'] w :=
      isKind.imp fun _ _ form => isFormOf_of_folded (.inl form)
    exact fun member => absurd (isWord_of_forms (by decide) forms _ member) (by decide)
  | mark m =>
    rw [show w = _ from isKind]
    cases m <;> decide
  | keyword k =>
    rw [show w = _ from isKind]
    cases k <;> decide

end CellWalk.Assembly
