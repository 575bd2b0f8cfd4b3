import CellWalk.Proofs.Assembly.Grammar
import Mathlib.Data.List.Induction

/-!
# Lines and columns

A place counts the line feeds before it and what stands between the last of them and it, both from 1
on (`Place.of_eq`). How much of a text is left tells a place, for what is left behind a piece of a text
is the end of that text (`Phrase.suffix`).
-/

namespace CellWalk
set_option autoImplicit false

theorem Text.lastLine_append_singleton (t : Text) (p : CodePoint) :
    Text.lastLine (t ++ [p]) = if p = Text.newline then [] else Text.lastLine t ++ [p] := by
  rw [lastLine, List.reverse_append, List.reverse_singleton, List.singleton_append,
    List.takeWhile_cons]
  by_cases feed : p = newline
  · rw [if_pos feed, if_neg (by simp [feed])]
    rfl
  · rw [if_neg feed, if_pos (by simp [feed]), List.reverse_cons, lastLine]

namespace Assembly.Place

/-- Places go on from where the text before has led. -/
theorem after_append (start : Place) (a b : Text) : after start (a ++ b) = after (after start a) b := by
  induction a generalizing start with
  | nil => rfl
  | cons p a ih =>
    rw [List.cons_append, after, after]
    split <;> exact ih _

/-- The line counts line feeds, and the column what comes after the last of them. -/
theorem after_origin (t : Text) :
    after ⟨1, 1⟩ t = ⟨1 + (t.count Text.newline : Nat), 1 + ((Text.lastLine t).length : Nat)⟩ := by
  induction t using List.reverseRecOn with
  | nil => rfl
  | append_singleton t p ih =>
    rw [after_append, ih, Text.lastLine_append_singleton, List.count_append, List.count_singleton]
    simp only [after]
    by_cases feed : p = Text.newline
    · rw [if_pos feed, if_pos feed, if_pos (by simp [feed])]
      simp [Int.add_assoc]
    · rw [if_neg feed, if_neg feed, if_neg (by simp [feed]), List.length_append]
      simp [Int.add_assoc]

/-- The line feeds before the place, and how far it is from the last of them. -/
theorem of_eq (text : Text) (left : Nat) :
    of text left = ⟨1 + ((text.take (text.length - left)).count Text.newline : Nat),
      1 + ((Text.lastLine (text.take (text.length - left))).length : Nat)⟩ :=
  after_origin _

/-- The place where a piece of text starts. -/
theorem of_append (ahead t : Text) :
    of (ahead ++ t) t.length =
      ⟨1 + (ahead.count Text.newline : Nat), 1 + ((Text.lastLine ahead).length : Nat)⟩ := by
  have before : (ahead ++ t).take ((ahead ++ t).length - t.length) = ahead := by
    rw [List.length_append, Nat.add_sub_cancel, List.take_left]
  rw [of_eq, before]

/-- Lines and columns count from 1. -/
theorem one_le_of (text : Text) (left : Nat) :
    1 ≤ (of text left).line ∧ 1 ≤ (of text left).column := by
  rw [of_eq]
  constructor <;> simp only <;> omega

end Assembly.Place

/-! What is left of a text behind a piece of it. -/

namespace Assembly.Grammar

variable {forms : CaseForms} {t rest : Text}

/-- What is behind layout is an end of the text. -/
theorem Layout.suffix (layout : Layout t rest) : rest <:+ t := by
  induction layout with
  | none => exact List.suffix_rfl
  | blank _ _ ih => exact ih.trans (List.suffix_cons _ _)
  | comment _ _ _ ih => exact ih.trans ((List.suffix_append _ _).trans (List.suffix_cons _ _))

theorem Comes.suffix {kind : Lexical} (comes : Comes kind t rest) : rest <:+ t := by
  obtain ⟨w, layout, -⟩ := comes
  exact (List.suffix_append w rest).trans layout.suffix

theorem ComesAt.suffix {kind : Lexical} {left : Nat} (comes : ComesAt kind t left rest) :
    rest <:+ t := by
  obtain ⟨w, layout, isKind, -⟩ := comes
  exact Comes.suffix ⟨w, layout, isKind⟩

theorem Operand.suffix {value mode : UInt8} (operand : Operand forms t value mode rest) :
    rest <:+ t := by
  cases operand with
  | omitted => exact List.suffix_rfl
  | immediate sign value | address sign value => exact value.suffix.trans sign.suffix
  | register register => exact register.suffix

theorem Mask.suffix {dirs : UInt8} (mask : Mask t dirs rest) : rest <:+ t := by
  cases mask with
  | omitted => exact List.suffix_rfl
  | empty opening closing => exact closing.suffix.trans opening.suffix
  | some opening directions closing =>
    exact closing.suffix.trans (directions.suffix.trans opening.suffix)

theorem Record.suffix {record : Instruction} (holds : Record forms t record rest) : rest <:+ t := by
  cases holds with
  | instruction opcode operand mask => exact mask.suffix.trans (operand.suffix.trans opcode.suffix)
  | raw sign first second third fourth =>
    have three := third.suffix.trans (second.suffix.trans (first.suffix.trans sign.suffix))
    exact fourth.suffix.trans three

theorem Located.suffix {position : Position} {left : Nat} (located : Located t position left rest) :
    rest <:+ t := by
  cases located with
  | flat index_ => exact index_.suffix
  | grid row_ comma col_ => exact col_.suffix.trans (comma.suffix.trans row_.suffix)

theorem Values.suffix {vs : List UInt8} (values : Values t vs rest) : rest <:+ t := by
  induction values with
  | nil => exact List.suffix_rfl
  | cons value _ ih => exact ih.trans value.suffix

/-- What is behind a statement is an end of the text. -/
theorem Phrase.suffix [CharacterNames] {s : Statement} (phrase : Phrase forms t s rest) : rest <:+ t := by
  cases phrase with
  | id keyword id_ => exact id_.suffix.trans keyword.suffix
  | cycles keyword gold_ silver_ bronze_ =>
    exact bronze_.suffix.trans (silver_.suffix.trans (gold_.suffix.trans keyword.suffix))
  | label keyword label_ => exact label_.suffix.trans keyword.suffix
  | register keyword register_ _ value =>
    exact value.suffix.trans (register_.suffix.trans keyword.suffix)
  | stack keyword values _ => exact values.suffix.trans keyword.suffix
  | byte keyword offset_ value => exact value.suffix.trans (offset_.suffix.trans keyword.suffix)
  | cell position_ colon record_ =>
    exact record_.suffix.trans (colon.suffix.trans position_.suffix)

end Assembly.Grammar

end CellWalk
