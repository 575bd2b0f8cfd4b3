import CellWalk.Text.CodePoint

/-!
# Patterns

A pattern is a row of pieces. Each piece takes code points of one kind off the front of a text, and where
the pieces after it cannot go on, it takes another number of them; what is found is the first match in this
order (`Pattern.firstMatch`). It has to reach the end of the text, where one line break may be left over.
Whatever the order is, a match is found just if the text can be split among the pieces.
-/

namespace CellWalk
set_option autoImplicit false

/-- How many code points a piece takes, and in which order it tries the numbers. -/
inductive Repetition
  /-- One if there is one, then none. -/
  | atMostOne
  /-- As many as there are, then ever fewer. -/
  | most
  /-- None, then ever more. -/
  | fewest
deriving DecidableEq, Repr

structure Piece where
  kind : CodePoint → Bool
  repetition : Repetition

namespace Piece

/-- The numbers of code points that the piece may take off the front of a text, in the order in which it
tries them. -/
def choices (p : Piece) (t : Text) : List Nat :=
  let available := (t.takeWhile p.kind).length
  match p.repetition with
  | .atMostOne => (List.range (min available 1 + 1)).reverse
  | .most => (List.range (available + 1)).reverse
  | .fewest => List.range (available + 1)

/-- What the piece may take, wherever it stands. -/
structure Takes (p : Piece) (w : Text) : Prop where
  kind : ∀ c ∈ w, p.kind c = true
  single : p.repetition = .atMostOne → w.length ≤ 1

variable {p : Piece} {t w : Text} {n : Nat}

theorem mem_choices : n ∈ p.choices t ↔
    n ≤ (t.takeWhile p.kind).length ∧ (p.repetition = .atMostOne → n ≤ 1) := by
  cases repetition : p.repetition with
  | atMostOne =>
    simp only [choices, repetition, List.mem_reverse, List.mem_range, forall_const]
    omega
  | most | fewest =>
    simp only [choices, repetition, List.mem_reverse, List.mem_range, reduceCtorEq, false_implies, and_true]
    omega

theorem takes_of_mem_choices (chosen : n ∈ p.choices t) : p.Takes (t.take n) := by
  obtain ⟨available, single⟩ := mem_choices.1 chosen
  constructor
  · intro c member
    have whole := List.takeWhile_append_dropWhile (p := p.kind) (l := t)
    rw [← whole, List.take_append_of_le_length available] at member
    exact List.all_eq_true.1 List.all_takeWhile c (List.mem_of_mem_take member)
  · intro one
    exact Nat.le_trans (List.length_take_le n t) (single one)

theorem mem_choices_of_takes (takes : p.Takes w) (rest : Text) : w.length ∈ p.choices (w ++ rest) := by
  apply mem_choices.2
  rw [List.takeWhile_append_of_pos takes.kind, List.length_append]
  exact ⟨Nat.le_add_right _ _, takes.single⟩

end Piece

namespace Pattern

/-- Nothing is left but, maybe, one line break. -/
def atEnd (t : Text) : Bool := t = [] ∨ t = [('\n' : CodePoint)]

/-- What each piece takes in the first match. -/
def firstMatch : List Piece → Text → Option (List Text)
  | [], t => if atEnd t then some [] else none
  | p :: ps, t =>
    (p.choices t).findSome? fun n => (firstMatch ps (t.drop n)).map fun taken => t.take n :: taken

/-- The text falls into what the pieces take, one after the other, and its end. -/
inductive Splits : List Piece → List Text → Text → Prop
  | nil {t : Text} : atEnd t = true → Splits [] [] t
  | cons {p : Piece} {ps : List Piece} {w : Text} {ws : List Text} {rest : Text} :
    p.Takes w → Splits ps ws rest → Splits (p :: ps) (w :: ws) (w ++ rest)

variable {ps : List Piece} {ws : List Text} {t : Text}

theorem splits_nil_iff : Splits [] ws t ↔ ws = [] ∧ atEnd t = true := by
  constructor
  · rintro (done | _)
    exact ⟨rfl, done⟩
  · rintro ⟨rfl, done⟩
    exact .nil done

theorem splits_cons_iff {p : Piece} : Splits (p :: ps) ws t ↔
    ∃ w taken rest, (ws = w :: taken ∧ t = w ++ rest) ∧ p.Takes w ∧ Splits ps taken rest := by
  constructor
  · rintro (_ | ⟨takes, later⟩)
    exact ⟨_, _, _, ⟨rfl, rfl⟩, takes, later⟩
  · rintro ⟨w, taken, rest, ⟨rfl, rfl⟩, takes, later⟩
    exact .cons takes later

theorem splits_of_firstMatch (found : firstMatch ps t = some ws) : Splits ps ws t := by
  induction ps generalizing t ws with
  | nil =>
    rw [firstMatch] at found
    split at found
    · rename_i done
      cases found
      exact .nil done
    · cases found
  | cons p ps ih =>
    rw [firstMatch] at found
    obtain ⟨n, chosen, here⟩ := List.exists_of_findSome?_eq_some found
    obtain ⟨taken, later, rfl⟩ := Option.map_eq_some_iff.1 here
    have split := Splits.cons (Piece.takes_of_mem_choices chosen) (ih later)
    rwa [List.take_append_drop] at split

/-- The search misses no match. -/
theorem firstMatch_isSome (splits : Splits ps ws t) : (firstMatch ps t).isSome = true := by
  induction splits with
  | nil done =>
    rw [firstMatch, if_pos done]
    rfl
  | @cons p ps w ws rest takes _ ih =>
    rw [firstMatch, List.findSome?_isSome_iff]
    refine ⟨w.length, Piece.mem_choices_of_takes takes rest, ?_⟩
    rw [List.drop_left, Option.isSome_map]
    exact ih

end Pattern

end CellWalk
