import CellWalk.Text.Lines
import CellWalk.Proofs.Decimal
import Mathlib.Data.List.Basic

/-!
# Lines and columns

A text that is put together from lines is cut into the same lines again, if none of them has a boundary
inside. Words of one width that are joined stand in columns: where a column begins, the rest of the line
is the rest of the words (`drop_joinWords`).
-/

namespace CellWalk.Text
set_option autoImplicit false

/-- Text on one line. -/
def Unbroken (t : Text) : Prop := ∀ p ∈ t, isBoundary p = false

instance (t : Text) : Decidable t.Unbroken :=
  inferInstanceAs (Decidable (∀ p ∈ t, isBoundary p = false))

variable {t t' line : Text} {lines : List Text} {words : List Text} {width col : Nat}

theorem Unbroken.append (first : t.Unbroken) (second : t'.Unbroken) : Unbroken (t ++ t') := by
  intro p member
  rcases List.mem_append.1 member with here | there
  · exact first p here
  · exact second p there

theorem unbroken_of_printable (printable : ∀ p ∈ t, 0x20 ≤ p.val ∧ p.val ≤ 0x7E) : t.Unbroken := by
  intro p member
  have bounds := printable p member
  simp only [isBoundary, Bool.or_eq_false_iff, Bool.and_eq_false_iff, decide_eq_false_iff_not,
    beq_eq_false_iff_ne]
  omega

theorem unbroken_ofNat (n : Nat) : Unbroken (Decimal.ofNat n) := by
  apply unbroken_of_printable
  intro p member
  have digit := Decimal.isDigit_of_mem_ofNat member
  simp only [CodePoint.isDigit, Bool.and_eq_true, decide_eq_true_eq] at digit
  omega

theorem splitLines_cons {p : CodePoint} (inside : isBoundary p = false) (t : Text) :
    splitLines (p :: t) =
      match splitLines t with
      | [] => [[p]]
      | l :: ls => (p :: l) :: ls := by
  have notReturn : ¬(p = carriageReturn ∧ t.head? = some newline) := by
    rintro ⟨rfl, -⟩
    cases inside
  have notBoundary : ¬isBoundary p = true := by
    rw [inside]
    exact Bool.false_ne_true
  exact (if_neg notReturn).trans (if_neg notBoundary)

/-- A line is split off at its end. -/
theorem splitLines_line (unbroken : line.Unbroken) (rest : Text) :
    splitLines (line ++ newline :: rest) = line :: splitLines rest := by
  induction line with
  | nil => rfl
  | cons p line ih =>
    rw [List.cons_append, splitLines_cons (unbroken p List.mem_cons_self),
      ih fun q member => unbroken q (List.mem_cons_of_mem p member)]

theorem splitLines_last (unbroken : line.Unbroken) (nonempty : line ≠ []) :
    splitLines line = [line] := by
  induction line with
  | nil => exact absurd rfl nonempty
  | cons p line ih =>
    rw [splitLines_cons (unbroken p List.mem_cons_self)]
    by_cases last : line = []
    · rw [last]
      rfl
    · rw [ih (fun q member => unbroken q (List.mem_cons_of_mem p member)) last]

/-- Joined lines are split again, if none is empty. -/
theorem splitLines_joinLines (unbroken : ∀ l ∈ lines, l.Unbroken) (nonempty : ∀ l ∈ lines, l ≠ []) :
    splitLines (joinLines lines) = lines := by
  induction lines with
  | nil => rfl
  | cons l lines ih =>
    have first := unbroken l List.mem_cons_self
    cases lines with
    | nil => exact splitLines_last first (nonempty l List.mem_cons_self)
    | cons m lines =>
      rw [joinLines, splitLines_line first]
      rw [ih (fun l' member => unbroken l' (List.mem_cons_of_mem l member))
        fun l' member => nonempty l' (List.mem_cons_of_mem l member)]

/-- Lines that are each ended by a line feed. -/
theorem splitLines_flatMap (unbroken : ∀ l ∈ lines, l.Unbroken) :
    splitLines (lines.flatMap (· ++ [newline])) = lines := by
  induction lines with
  | nil => rfl
  | cons l lines ih =>
    rw [List.flatMap_cons, List.append_assoc, List.singleton_append,
      splitLines_line (unbroken l List.mem_cons_self),
      ih fun l' member => unbroken l' (List.mem_cons_of_mem l member)]

theorem unbroken_joinWords (unbroken : ∀ w ∈ words, w.Unbroken) : (joinWords words).Unbroken := by
  induction words with
  | nil => exact fun p none => nomatch none
  | cons w words ih =>
    have first := unbroken w List.mem_cons_self
    cases words with
    | nil => exact first
    | cons v words =>
      have rest := ih fun t member => unbroken t (List.mem_cons_of_mem w member)
      have gap : Unbroken [(' ' : CodePoint)] := by decide
      exact first.append (gap.append rest)

/-! Columns. -/

/-- Words of one width make columns with a space between two of them. -/
theorem length_joinWords (fixed : ∀ w ∈ words, w.length = width) (nonempty : words ≠ []) :
    (joinWords words).length + 1 = (width + 1) * words.length := by
  induction words with
  | nil => exact absurd rfl nonempty
  | cons w words ih =>
    have first := fixed w List.mem_cons_self
    cases words with
    | nil => simp [joinWords, first]
    | cons v words =>
      have rest := ih (fun t member => fixed t (List.mem_cons_of_mem w member))
        (List.cons_ne_nil v words)
      rw [List.length_cons, Nat.mul_add, Nat.mul_one, ← rest, joinWords, List.length_append, first,
        List.length_cons]
      omega

/-- A column begins where the words before it end. -/
theorem drop_joinWords (fixed : ∀ w ∈ words, w.length = width) (inside : col < words.length) :
    (joinWords words).drop ((width + 1) * col) = joinWords (words.drop col) := by
  induction col generalizing words with
  | zero => rfl
  | succ col ih =>
    cases words with
    | nil => cases inside
    | cons w words =>
      have first := fixed w List.mem_cons_self
      cases words with
      | nil => exact absurd inside (by simp)
      | cons v words =>
        have rest := ih (fun t member => fixed t (List.mem_cons_of_mem w member))
          (Nat.lt_of_succ_lt_succ inside)
        have place : (width + 1) * (col + 1) = w.length + (1 + (width + 1) * col) := by
          rw [first, Nat.mul_succ]
          omega
        rw [List.drop_succ_cons, ← rest, place, joinWords, List.drop_length_add_append,
          Nat.add_comm 1, List.drop_succ_cons]

theorem take_joinWords {w : Text} : (joinWords (w :: words)).take w.length = w := by
  cases words with
  | nil => exact List.take_length
  | cons v words => exact List.take_left

/-- The code point at a place of a column, or in the gap to its right. -/
theorem getElem?_joinWords (fixed : ∀ w ∈ words, w.length = width) {w : Text}
    (here : words[col]? = some w) {place : Nat} (within : place ≤ width) :
    (joinWords words)[(width + 1) * col + place]? =
      if place < width then w[place]?
      else if col + 1 < words.length then some (' ' : CodePoint) else none := by
  obtain ⟨inside, rfl⟩ := List.getElem?_eq_some_iff.1 here
  have wide := fixed _ (List.getElem_mem inside)
  rw [← List.getElem?_drop, drop_joinWords fixed inside, List.drop_eq_getElem_cons inside]
  cases rest : words.drop (col + 1) with
  | nil =>
    have last : ¬col + 1 < words.length := by
      have := List.drop_eq_nil_iff.1 rest
      omega
    rw [if_neg last, joinWords]
    split
    · rfl
    · rw [List.getElem?_eq_none (by omega)]
  | cons v more =>
    have another : col + 1 < words.length := by
      refine Nat.lt_of_not_le fun short => ?_
      rw [List.drop_eq_nil_of_le short] at rest
      cases rest
    rw [if_pos another, joinWords]
    split
    · rename_i early
      rw [List.getElem?_append_left (by omega)]
    · rename_i late
      have edge : place = (words[col]).length := by omega
      rw [edge, List.getElem?_append_right (Nat.le_refl _), Nat.sub_self]
      rfl

end CellWalk.Text
