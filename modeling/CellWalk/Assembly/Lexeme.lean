import CellWalk.Text.Blank
import CellWalk.Text.Word
import CellWalk.Text.Lines
import CellWalk.Layout

/-!
# Lexemes

A lexeme class says how many code points at the start of a text belong to it, 0 for none; it
always takes as many as it can. Mnemonics and register names are read in any mix of cases and
must end at a word boundary. Blanks and comments, which may stand between any two lexemes, are
the layout of a program.
-/

namespace CellWalk.Assembly
set_option autoImplicit false

/-- A class of lexemes: the length of its member at the start of a text, 0 if there is none. -/
abbrev Lexeme := Text → Nat

/-- The text after blanks and comments; `comment` tells whether a comment is going on. -/
def skipLayout (comment : Bool) : Text → Text
  | [] => []
  | p :: t =>
    if comment then skipLayout (p != Text.newline) t
    else if p.isBlank then skipLayout false t
    else if p = ';' then skipLayout true t
    else p :: t

/-- The text from its first lexeme on. -/
def trimLayout (t : Text) : Text := skipLayout false t

theorem length_skipLayout_le (comment : Bool) (t : Text) :
    (skipLayout comment t).length ≤ t.length := by
  induction t generalizing comment with
  | nil => simp [skipLayout]
  | cons p t ih =>
    simp only [skipLayout]
    split
    · exact Nat.le_succ_of_le (ih _)
    · split
      · exact Nat.le_succ_of_le (ih _)
      · split
        · exact Nat.le_succ_of_le (ih _)
        · exact Nat.le_refl _

theorem length_trimLayout_le (t : Text) : (trimLayout t).length ≤ t.length :=
  length_skipLayout_le false t

/-- How far the blanks or the comment reach that a text starts with. -/
def layoutLength : Text → Nat
  | [] => 0
  | p :: t =>
    if p.isBlank then (t.takeWhile CodePoint.isBlank).length + 1
    else if p = ';' then (t.takeWhile (· != Text.newline)).length + 1
    else 0

namespace Lexeme

/-- The longest start of the text in a class of code points. -/
def span (kind : CodePoint → Bool) : Lexeme := fun t => (t.takeWhile kind).length

/-- A run of digits. -/
def number : Lexeme := span CodePoint.isDigit

/-- What an id consists of. -/
def isNamePoint (p : CodePoint) : Bool :=
  p.isLetter || p.isDigit || p = ('_' : CodePoint) || p = ('-' : CodePoint)

def name : Lexeme := span isNamePoint

/-- A fixed text. -/
def fixed (word : List Char) : Lexeme := fun t =>
  if (Text.ofChars word).isPrefixOf t then word.length else 0

/-- A single mark. -/
def mark (c : Char) : Lexeme := fixed [c]

/-- Whether a code point is a case form of an upper-case letter. Beside the two ASCII forms, the
long s is a form of S, the dotted capital and the dotless small i of I, the kelvin sign of K. -/
def isFormOf (letter : Char) (p : CodePoint) : Bool :=
  p.val == letter.toNat || p.val == letter.toNat + 32 ||
  match letter with
  | 'S' => p.val == 0x17F
  | 'I' => p.val == 0x130 || p.val == 0x131
  | 'K' => p.val == 0x212A
  | _ => false

/-- Whether the text starts with a case form of the word. -/
def startsWithForm : List Char → Text → Bool
  | [], _ => true
  | _ :: _, [] => false
  | c :: cs, p :: t => isFormOf c p && startsWithForm cs t

/-- Whether no word character comes next. -/
def atBoundary : Text → Bool
  | [] => true
  | p :: _ => !p.isWord

/-- One of several upper-case words in any case forms, with a word boundary after it. -/
def oneOf (words : List (List Char)) : Lexeme := fun t =>
  match words.find? fun w => startsWithForm w t && atBoundary (t.drop w.length) with
  | some w => w.length
  | none => 0

def mnemonics : List (List Char) := Opcode.all.map fun o => o.mnemonic.toList

def registerNames : List (List Char) := Register.all.map fun r => r.name.toList

def mnemonic : Lexeme := oneOf mnemonics

def register : Lexeme := oneOf registerNames

/-- The word that announces four raw bytes; it needs no boundary. -/
def rawBytes : Lexeme := fun t => if startsWithForm ['D', 'B'] t then 2 else 0

/-- A letter that names a direction, in either case. -/
def isDirectionLetter (p : CodePoint) : Bool :=
  Direction.all.any fun d => isFormOf d.letter p

def directions : Lexeme := span isDirectionLetter

/-- The length of a string's rest, its closing quote included. A quote after an odd run of
backslashes does not close; a line feed ends the search. -/
def stringRest (escaped : Bool) : Text → Option Nat
  | [] => none
  | p :: t =>
    if p = Text.newline then none
    else if p = '"' ∧ escaped = false then some 1
    else (stringRest (p = ('\\' : CodePoint) && !escaped) t).map (· + 1)

/-- A string in double quotes. -/
def string : Lexeme
  | [] => 0
  | p :: t => if p = '"' then ((stringRest false t).map (· + 1)).getD 0 else 0

end Lexeme

end CellWalk.Assembly
