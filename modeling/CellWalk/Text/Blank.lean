import CellWalk.Text.CodePoint

/-!
# Blanks

The white space of Unicode, together with the four information separators U+001C to U+001F:
what may stand between two tokens of a program, around a number list and around a number given
on the command line.
-/

namespace CellWalk
set_option autoImplicit false

/-- Ranges of the blanks, both ends included. -/
def CodePoint.blankRanges : List (Nat × Nat) := [
  (0x09, 0x0D), (0x1C, 0x20), (0x85, 0x85), (0xA0, 0xA0), (0x1680, 0x1680), (0x2000, 0x200A),
  (0x2028, 0x2029), (0x202F, 0x202F), (0x205F, 0x205F), (0x3000, 0x3000)]

def CodePoint.isBlank (p : CodePoint) : Bool :=
  blankRanges.any fun r => r.1 ≤ p.val && p.val ≤ r.2

theorem CodePoint.isBlank_iff {p : CodePoint} :
    p.isBlank = true ↔ ∃ r ∈ blankRanges, r.1 ≤ p.val ∧ p.val ≤ r.2 := by
  simp [isBlank]

namespace Text

def dropBlanks (t : Text) : Text := t.dropWhile CodePoint.isBlank

/-- The text without blanks at its ends. -/
def trim (t : Text) : Text := dropBlanks (dropBlanks t).reverse |>.reverse

end Text

end CellWalk
