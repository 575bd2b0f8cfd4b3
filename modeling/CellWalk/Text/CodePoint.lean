/-!
# Code points

Program text, labels and saved names are sequences of code points. A label may hold half of a
surrogate pair, so a code point is any number below `0x110000` and not only a character; every
character is one (`CodePoint.ofChar`), and `CodePoint.toChar?` finds it again.
-/

namespace CellWalk
set_option autoImplicit false

/-- A number below `0x110000`, halves of surrogate pairs included. -/
structure CodePoint where
  val : Nat
  isLt : val < 0x110000
deriving DecidableEq

/-- A sequence of code points. -/
abbrev Text := List CodePoint

theorem lt_of_isValidChar {n : Nat} (h : n.isValidChar) : n < 0x110000 := by
  rcases h with h | h <;> omega

namespace CodePoint

def ofChar (c : Char) : CodePoint := ⟨c.val.toNat, lt_of_isValidChar c.valid⟩

/-- The character with this number; halves of surrogate pairs have none. -/
def toChar? (p : CodePoint) : Option Char :=
  if h : p.val.isValidChar then some (Char.ofNatAux p.val h) else none

/-- A number as a code point, if it is small enough. -/
def ofNat? (n : Nat) : Option CodePoint := if h : n < 0x110000 then some ⟨n, h⟩ else none

/-- The replacement character, for numbers that no text holds. -/
def replacement : CodePoint := ⟨0xFFFD, by decide⟩

instance : Inhabited CodePoint := ⟨replacement⟩

def ofNat (n : Nat) : CodePoint := (ofNat? n).getD replacement

/-- One of the ASCII digits. -/
def isDigit (p : CodePoint) : Bool := 48 ≤ p.val && p.val ≤ 57

/-- One of the ASCII letters. -/
def isLetter (p : CodePoint) : Bool :=
  (65 ≤ p.val && p.val ≤ 90) || (97 ≤ p.val && p.val ≤ 122)

/-- Half of a surrogate pair. -/
def isSurrogate (p : CodePoint) : Bool := 0xD800 ≤ p.val && p.val ≤ 0xDFFF

theorem ofNat_val (p : CodePoint) : ofNat p.val = p := by
  rw [ofNat, ofNat?, dif_pos p.isLt, Option.getD_some]

theorem ofChar_inj {a b : Char} : ofChar a = ofChar b ↔ a = b := by
  constructor
  · intro h
    exact Char.ext (UInt32.toNat.inj (congrArg CodePoint.val h))
  · rintro rfl; rfl

@[simp] theorem toChar?_ofChar (c : Char) : (ofChar c).toChar? = some c := by
  have valid : (ofChar c).val.isValidChar := c.valid
  have same : Char.ofNatAux (ofChar c).val valid = c := Char.ext (UInt32.toNat.inj rfl)
  rw [toChar?, dif_pos valid, same]

end CodePoint

namespace Text

def ofChars (cs : List Char) : Text := cs.map CodePoint.ofChar

def ofString (s : String) : Text := ofChars s.toList

/-- The text as a character string; none if it holds half of a surrogate pair. -/
def toString? (t : Text) : Option String := (t.mapM CodePoint.toChar?).map String.ofList

@[simp] theorem ofChars_nil : ofChars [] = [] := rfl

@[simp] theorem ofChars_cons (c : Char) (cs : List Char) :
    ofChars (c :: cs) = .ofChar c :: ofChars cs := rfl

@[simp] theorem ofChars_append (a b : List Char) : ofChars (a ++ b) = ofChars a ++ ofChars b :=
  List.map_append

@[simp] theorem length_ofChars (cs : List Char) : (ofChars cs).length = cs.length :=
  List.length_map _

end Text

instance : Coe Char CodePoint := ⟨CodePoint.ofChar⟩
instance : Coe String Text := ⟨Text.ofString⟩

end CellWalk
