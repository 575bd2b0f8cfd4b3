import CellWalk.Text.CodePoint

/-!
# Markup

Text on the screen is styled by tags in square brackets. An opening bracket that belongs to the
text itself gets a backslash in front, so that it starts no tag.
-/

namespace CellWalk.Screen
set_option autoImplicit false

/-- The text with every opening bracket marked as its own. -/
def escape (t : Text) : Text :=
  t.flatMap fun (p : CodePoint) => if p = '[' then [('\\' : CodePoint), p] else [p]

/-- What is seen of markup, inside a tag or outside. -/
def visibleFrom (inTag : Bool) : Text → Text
  | [] => []
  | [p] => if inTag || p = ('[' : CodePoint) then [] else [p]
  | p :: q :: t =>
    if inTag then visibleFrom (p != ']') (q :: t)
    else if p = '[' then visibleFrom true (q :: t)
    else if p = '\\' ∧ q = '[' then q :: visibleFrom false t
    else p :: visibleFrom false (q :: t)

/-- What is seen of markup: tags are left out, and a marked bracket is a bracket. -/
def visible (markup : Text) : Text := visibleFrom false markup

/-- A tag. -/
def tag (name : String) : Text := Text.ofString ("[" ++ name ++ "]")

/-- The tag that closes the innermost style. -/
def closing : Text := Text.ofString "[/]"

/-- Markup between a tag and the one that closes it by name. -/
def within (style : String) (markup : Text) : Text := tag style ++ markup ++ tag ("/" ++ style)

/-- A text in a style. -/
def styled (style : String) (t : Text) : Text := tag style ++ escape t ++ closing

/-- A text in bold, as captions are. -/
def caption (s : String) : Text := within "bold" (Text.ofString s)

end CellWalk.Screen
