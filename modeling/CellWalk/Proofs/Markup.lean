import CellWalk.Screen.Markup
import CellWalk.Proofs.Columns

/-!
# What is seen of markup

A piece of markup shows a text if that is what is seen of it, whatever comes after it (`Shows`). A plain
text shows itself, tags show nothing, and pieces that are joined show what they show one by one. So what
is seen of a drawing is found from its smallest pieces.
-/

namespace CellWalk.Screen
set_option autoImplicit false

/-- A text that markup leaves as it is, on one line. -/
def Plain (t : Text) : Prop := ∀ p ∈ t, p ≠ '[' ∧ p ≠ '\\' ∧ Text.isBoundary p = false

instance (t : Text) : Decidable (Plain t) :=
  inferInstanceAs (Decidable (∀ p ∈ t, p ≠ '[' ∧ p ≠ '\\' ∧ Text.isBoundary p = false))

/-- The name of a style: a tag ends after it, and it is on one line. -/
def IsStyle (style : String) : Prop :=
  ∀ p ∈ Text.ofString style, p ≠ ']' ∧ Text.isBoundary p = false

instance (style : String) : Decidable (IsStyle style) :=
  inferInstanceAs (Decidable (∀ p ∈ Text.ofString style, p ≠ ']' ∧ Text.isBoundary p = false))

/-- The markup is seen as the text, whatever comes after it. -/
def Shows (markup t : Text) : Prop := ∀ rest, visible (markup ++ rest) = t ++ visible rest

variable {markup markup' t t' : Text} {style : String} {α : Type} {m seen : α → Text}

/-- A code point that is neither a bracket nor a backslash is seen as it is. -/
theorem visible_cons {p : CodePoint} (bracket : p ≠ '[') (backslash : p ≠ '\\') (rest : Text) :
    visible (p :: rest) = p :: visible rest := by
  cases rest <;> simp [visible, visibleFrom, bracket, backslash]

/-- With nothing after it, the markup is seen as the text. -/
theorem Shows.visible_eq (shown : Shows markup t) : visible markup = t := by
  have whole := shown []
  rwa [List.append_nil, show visible [] = [] from rfl, List.append_nil] at whole

/-- Pieces that are joined show what they show one by one. -/
theorem Shows.append (first : Shows markup t) (second : Shows markup' t') :
    Shows (markup ++ markup') (t ++ t') := by
  intro rest
  rw [List.append_assoc, first, second, List.append_assoc]

theorem Plain.append (first : Plain t) (second : Plain t') : Plain (t ++ t') := by
  intro p member
  rcases List.mem_append.1 member with here | there
  · exact first p here
  · exact second p there

/-- Without brackets and backslashes there is no markup, on however many lines. -/
theorem shows_of_unmarked (unmarked : ∀ p ∈ t, p ≠ '[' ∧ p ≠ '\\') : Shows t t := by
  intro rest
  induction t with
  | nil => rfl
  | cons p t ih =>
    obtain ⟨bracket, backslash⟩ := unmarked p List.mem_cons_self
    rw [List.cons_append, visible_cons bracket backslash,
      ih fun q member => unmarked q (List.mem_cons_of_mem p member), List.cons_append]

theorem Plain.shows (plain : Plain t) : Shows t t :=
  shows_of_unmarked fun p member => ⟨(plain p member).1, (plain p member).2.1⟩

theorem Plain.unbroken (plain : Plain t) : t.Unbroken := fun p member => (plain p member).2.2

/-- Nothing is seen of a tag up to the bracket that closes it. -/
theorem visibleFrom_tag {name : Text} (inside : ∀ p ∈ name, p ≠ ']') (rest : Text) :
    visibleFrom true (name ++ (']' : CodePoint) :: rest) = visible rest := by
  induction name with
  | nil => cases rest <;> rfl
  | cons p name ih =>
    have more := ih fun q member => inside q (List.mem_cons_of_mem p member)
    have here : (p != ']') = true := bne_iff_ne.2 (inside p List.mem_cons_self)
    rw [← more]
    -- what is left after a code point of the name is never empty, so the next step is a step in the tag
    cases name <;> simp [visibleFrom, here]

theorem tag_eq (style : String) :
    tag style = ('[' : CodePoint) :: (Text.ofString style ++ [(']' : CodePoint)]) := by
  simp [tag, Text.ofString]

/-- A tag shows nothing. -/
theorem shows_tag (isStyle : IsStyle style) : Shows (tag style) [] := by
  intro rest
  have inside := visibleFrom_tag (fun p member => (isStyle p member).1) rest
  rw [tag_eq, List.nil_append, ← inside, List.cons_append, List.append_assoc]
  cases Text.ofString style <;> simp [visible, visibleFrom]

/-- In a plain text there is nothing to escape. -/
theorem Plain.escape_eq (plain : Plain t) : escape t = t := by
  induction t with
  | nil => rfl
  | cons p t ih =>
    have rest := ih fun q member => plain q (List.mem_cons_of_mem p member)
    rw [escape, List.flatMap_cons, if_neg (plain p List.mem_cons_self).1, ← escape, rest]
    rfl

/-- A plain text shows itself in every style. -/
theorem shows_styled (isStyle : IsStyle style) (plain : Plain t) : Shows (styled style t) t := by
  have slash : IsStyle "/" := by decide
  have spelled : closing = tag "/" := by
    rw [tag_eq]
    decide
  have closed : Shows closing [] := by
    rw [spelled]
    exact shows_tag slash
  have whole := ((shows_tag isStyle).append plain.shows).append closed
  rw [styled, plain.escape_eq]
  rwa [List.nil_append, List.append_nil] at whole

/-- And it stays on one line, tags and all. -/
theorem unbroken_styled (isStyle : IsStyle style) (plain : Plain t) : (styled style t).Unbroken := by
  have bracket : Text.Unbroken [('[' : CodePoint)] := by decide
  have bracket' : Text.Unbroken [(']' : CodePoint)] := by decide
  have closed : closing.Unbroken := by decide
  have name : (Text.ofString style).Unbroken := fun p member => (isStyle p member).2
  have opened : (tag style).Unbroken := by
    rw [tag_eq]
    exact bracket.append (name.append bracket')
  rw [styled, plain.escape_eq]
  exact (opened.append plain.unbroken).append closed

/-- Texts are joined with a separator between two of them. -/
structure Joins (join : List Text → Text) (separator : Text) : Prop where
  none : join [] = []
  one (w : Text) : join [w] = w
  more (w v : Text) (ws : List Text) : join (w :: v :: ws) = w ++ (separator ++ join (v :: ws))

theorem joins_joinWords : Joins Text.joinWords [(' ' : CodePoint)] :=
  ⟨rfl, fun _ => rfl, fun _ _ _ => rfl⟩

theorem joins_joinLines : Joins Text.joinLines [Text.newline] :=
  ⟨rfl, fun _ => rfl, fun _ _ _ => rfl⟩

/-- Joined texts show what each of them does, with separators between that show themselves. -/
theorem Joins.shows {join : List Text → Text} {separator : Text} (joins : Joins join separator)
    (between : Shows separator separator) {as : List α} (each : ∀ a ∈ as, Shows (m a) (seen a)) :
    Shows (join (as.map m)) (join (as.map seen)) := by
  induction as with
  | nil =>
    intro rest
    rw [List.map_nil, List.map_nil, joins.none]
    rfl
  | cons a as ih =>
    have first := each a List.mem_cons_self
    cases as with
    | nil =>
      rw [List.map_singleton, List.map_singleton, joins.one, joins.one]
      exact first
    | cons b as =>
      have rest := ih fun c member => each c (List.mem_cons_of_mem a member)
      rw [List.map_cons, List.map_cons, List.map_cons, List.map_cons, joins.more, joins.more]
      exact first.append (between.append rest)

end CellWalk.Screen
