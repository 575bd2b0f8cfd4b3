import CellWalk.Text.CodePoint

/-!
# Characters by their names

Some texts ask for a character by its name in the standard's table of characters. The table grows from
one edition to the next, and letter case and aliases are its business too, so the look-up is a
parameter of whatever reads such a text.
-/

namespace CellWalk
set_option autoImplicit false

/-- How a character is found by its name. -/
class CharacterNames where
  find? : Text → Option CodePoint

namespace CharacterNames

/-- The names of a table alone, spelled as they are there. -/
abbrev ofTable (table : List (Text × CodePoint)) : CharacterNames := ⟨(table.lookup ·)⟩

/-- Where no table is at hand no character has a name. -/
instance (priority := low) unnamed : CharacterNames := ofTable []

end CharacterNames

end CellWalk
