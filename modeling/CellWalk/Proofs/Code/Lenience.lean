import CellWalk.Proofs.Code.Literal

/-!
# How lenient the reading of number lists is

A text is read as a number list just if nothing is left of it but digits, blanks and commas, once the blanks
at its ends and one bracket at either end are taken off; its numbers are its runs of digits, none of which
may be too long (`parse_is_lenient`). So between two numbers there may be any gap that is not empty.
-/

namespace CellWalk
set_option autoImplicit false

namespace Text

/-- The text without blanks at its end. -/
def trimEnd (t : Text) : Text := (dropBlanks t.reverse).reverse

theorem trim_eq (t : Text) : trim t = trimEnd (dropBlanks t) := rfl

variable {t w : Text} {p : CodePoint}

/-- Blanks at the end are trimmed. -/
theorem trimEnd_append (blanks : ∀ p ∈ w, p.isBlank = true) (t : Text) : trimEnd (t ++ w) = trimEnd t := by
  have back : ∀ p ∈ w.reverse, p.isBlank = true := fun p member => blanks p (List.mem_reverse.1 member)
  rw [trimEnd, List.reverse_append, dropBlanks, List.dropWhile_append_of_pos back]
  rfl

theorem trimEnd_concat (visible : p.isBlank = false) (t : Text) : trimEnd (t ++ [p]) = t ++ [p] := by
  rw [trimEnd, List.reverse_append, List.reverse_singleton, List.singleton_append, dropBlanks,
    List.dropWhile_cons_of_neg (Bool.eq_false_iff.1 visible), List.reverse_cons, List.reverse_reverse]

theorem trimEnd_cons (visible : p.isBlank = false) (t : Text) : trimEnd (p :: t) = p :: trimEnd t := by
  have stays : dropBlanks [p] = [p] := List.dropWhile_cons_of_neg (Bool.eq_false_iff.1 visible)
  rw [trimEnd, trimEnd, List.reverse_cons, dropBlanks, List.dropWhile_append]
  split
  · rename_i empty
    rw [dropBlanks, List.isEmpty_iff.1 empty]
    change (dropBlanks [p]).reverse = _
    rw [stays]
    rfl
  · rw [List.reverse_append]
    rfl

theorem trimEnd_prefix (t : Text) : trimEnd t <+: t := by
  have suffix : dropBlanks t.reverse <:+ t.reverse := List.dropWhile_suffix _
  have flipped := List.reverse_prefix.2 suffix
  rwa [List.reverse_reverse] at flipped

/-- Blanks at the ends make no difference. -/
theorem trim_append {front back : Text} (isFront : ∀ p ∈ front, p.isBlank = true)
    (isBack : ∀ p ∈ back, p.isBlank = true) (t : Text) : trim (front ++ t ++ back) = trim t := by
  rw [trim_eq, trim_eq, List.append_assoc, dropBlanks, List.dropWhile_append_of_pos isFront,
    List.dropWhile_append]
  split
  · rename_i empty
    have nothing : back.dropWhile CodePoint.isBlank = [] := List.dropWhile_eq_nil_iff.2 isBack
    rw [nothing, dropBlanks, List.isEmpty_iff.1 empty]
  · exact trimEnd_append isBack _

/-- Nothing else is. -/
theorem exists_trimEnd (t : Text) : ∃ back, t = trimEnd t ++ back ∧ ∀ p ∈ back, p.isBlank = true := by
  refine ⟨(t.reverse.takeWhile CodePoint.isBlank).reverse, ?_, ?_⟩
  · have whole := List.takeWhile_append_dropWhile (p := CodePoint.isBlank) (l := t.reverse)
    have flipped := congrArg List.reverse whole
    rw [List.reverse_append, List.reverse_reverse] at flipped
    exact flipped.symm
  · intro p member
    exact List.all_eq_true.1 List.all_takeWhile p (List.mem_reverse.1 member)

/-- What is trimmed off are blanks. -/
theorem exists_trimmed (t : Text) : ∃ front back, t = front ++ trim t ++ back ∧
    (∀ p ∈ front, p.isBlank = true) ∧ ∀ p ∈ back, p.isBlank = true := by
  obtain ⟨back, last, isBack⟩ := exists_trimEnd (dropBlanks t)
  refine ⟨t.takeWhile CodePoint.isBlank, back, ?_, List.all_eq_true.1 List.all_takeWhile, isBack⟩
  calc t
    _ = t.takeWhile CodePoint.isBlank ++ dropBlanks t := List.takeWhile_append_dropWhile.symm
    _ = t.takeWhile CodePoint.isBlank ++ (trim t ++ back) := congrArg (_ ++ ·) last
    _ = t.takeWhile CodePoint.isBlank ++ trim t ++ back := (List.append_assoc _ _ _).symm

end Text

namespace Literal

/-- The text without one bracket at its beginning. -/
def dropOpening (t : Text) : Text := if t.head? = some ('[' : CodePoint) then t.tail else t

/-- The text without one bracket at its end. -/
def dropClosing (t : Text) : Text := if t.getLast? = some (']' : CodePoint) then t.dropLast else t

/-- The text without blanks, and then without one bracket, at either end. -/
def unwrap (t : Text) : Text := dropClosing (dropOpening (Text.trim t))

variable {t front opening inside closing back : Text}

/-- One bracket may open the text. -/
theorem exists_opening (t : Text) :
    ∃ opening, (opening = [] ∨ opening = [('[' : CodePoint)]) ∧ t = opening ++ dropOpening t := by
  unfold dropOpening
  split
  · rename_i bracket
    exact ⟨_, .inr rfl, (List.head?_eq_some_iff.1 bracket).elim fun rest same => by rw [same]; rfl⟩
  · exact ⟨[], .inl rfl, rfl⟩

theorem exists_closing (t : Text) :
    ∃ closing, (closing = [] ∨ closing = [(']' : CodePoint)]) ∧ t = dropClosing t ++ closing := by
  unfold dropClosing
  split
  · rename_i bracket
    obtain ⟨rest, rfl⟩ := List.getLast?_eq_some_iff.1 bracket
    exact ⟨_, .inr rfl, by rw [List.dropLast_concat]⟩
  · exact ⟨[], .inl rfl, (List.append_nil t).symm⟩

/-- A body has no bracket to drop. -/
theorem dropClosing_eq_self (body : ∀ p ∈ t, isBody p = true) : dropClosing t = t := by
  apply if_neg
  intro bracket
  have listed := body _ (List.mem_of_getLast? bracket)
  revert listed
  decide

/-- After the opening bracket is dropped, only what stands within it is left, trimmed at its end. -/
theorem dropOpening_trim (h : Layers front opening inside closing back) :
    ∃ rest, rest <:+ inside ++ closing ∧
      dropOpening (Text.trim (front ++ (opening ++ inside ++ closing) ++ back)) = Text.trimEnd rest := by
  rw [Text.trim_append h.front h.back, Text.trim_eq, List.append_assoc]
  rcases h.opening with rfl | rfl
  · have suffix : Text.dropBlanks (inside ++ closing) <:+ inside ++ closing := List.dropWhile_suffix _
    refine ⟨_, suffix, if_neg fun bracket => ?_⟩
    have within := suffix.subset ((Text.trimEnd_prefix _).subset (List.mem_of_mem_head? bracket))
    rcases List.mem_append.1 within with inBody | inClosing
    · have body := h.inside _ inBody
      revert body
      decide
    · rcases h.closing with rfl | rfl
      · cases inClosing
      · have same := List.mem_singleton.1 inClosing
        revert same
        decide
  · have visible : ('[' : CodePoint).isBlank = false := by decide
    refine ⟨inside ++ closing, List.suffix_refl _, ?_⟩
    rw [List.singleton_append, Text.dropBlanks, List.dropWhile_cons_of_neg (Bool.eq_false_iff.1 visible),
      Text.trimEnd_cons visible]
    rfl

/-- Digits, blanks and commas are all that is left when the outer layers are taken off. -/
theorem isBody_of_mem_unwrap (h : Layers front opening inside closing back) :
    ∀ p ∈ unwrap (front ++ (opening ++ inside ++ closing) ++ back), isBody p = true := by
  obtain ⟨rest, suffix, dropped⟩ := dropOpening_trim h
  rw [unwrap, dropped]
  rcases h.closing with rfl | rfl
  · rw [List.append_nil] at suffix
    have body : ∀ p ∈ Text.trimEnd rest, isBody p = true := fun p member =>
      h.inside p (suffix.subset ((Text.trimEnd_prefix rest).subset member))
    rw [dropClosing_eq_self body]
    exact body
  · rcases List.suffix_concat_iff.1 suffix with rfl | ⟨kept, rfl, within⟩
    · exact fun p member => nomatch member
    · rw [Text.trimEnd_concat (by decide), dropClosing, List.getLast?_concat, if_pos rfl,
        List.dropLast_concat]
      exact fun p member => h.inside p (within.subset member)

/-- What is unwrapped was blanks and brackets, each at its place. -/
theorem layers_of_unwrap (body : ∀ p ∈ unwrap t, isBody p = true) :
    ∃ front opening closing back, t = front ++ (opening ++ unwrap t ++ closing) ++ back ∧
      Layers front opening (unwrap t) closing back := by
  obtain ⟨front, back, whole, isFront, isBack⟩ := Text.exists_trimmed t
  obtain ⟨opening, isOpening, opened⟩ := exists_opening (Text.trim t)
  obtain ⟨closing, isClosing, closed⟩ := exists_closing (dropOpening (Text.trim t))
  refine ⟨front, opening, closing, back, ?_, isFront, isOpening, body, isClosing, isBack⟩
  rw [unwrap, List.append_assoc opening, ← closed, ← opened]
  exact whole

/-- If nothing else is left the runs of digits are read, and else the beginning of the text is told. -/
theorem parse_eq (t : Text) :
    parse t = if ∀ p ∈ unwrap t, isBody p = true then (Text.runs CodePoint.isDigit t).mapM number
      else .error (.notNumbers (t.take quotedLength)) := by
  split
  · rename_i body
    obtain ⟨front, opening, closing, back, whole, layers⟩ := layers_of_unwrap body
    have read := parse_of_layers layers
    rwa [← layers.runs_eq, ← whole] at read
  · rename_i other
    have none : body? t = none := by
      cases found : Pattern.firstMatch pattern t with
      | none => rw [body?, found, Option.bind_none]
      | some ws =>
        obtain ⟨front, opening, before, inside, after, closing, back, -, rfl, layers, -⟩ :=
          layers_of_splits (Pattern.splits_of_firstMatch found)
        exact absurd (isBody_of_mem_unwrap layers) other
    rw [parse, none]

/-! The numbers. -/

theorem few_of_number {w : Text} {n : Nat} (read : number w = .ok n) : w.length ≤ Decimal.maxDigits := by
  unfold number Decimal.value? at read
  split at read
  · rename_i few
    split at few
    · assumption
    · cases few
  · cases read

theorem few_of_mapM_number {words : List Text} {values : List Nat} (read : words.mapM number = .ok values) :
    ∀ w ∈ words, w.length ≤ Decimal.maxDigits := by
  induction words generalizing values with
  | nil => exact fun w listed => nomatch listed
  | cons w words ih =>
    rw [List.mapM_cons] at read
    cases first : number w with
    | error d =>
      rw [first] at read
      cases read
    | ok n =>
      cases later : words.mapM number with
      | error d =>
        rw [first, later] at read
        cases read
      | ok rest => exact List.forall_mem_cons.2 ⟨few_of_number first, ih later⟩

/-- A text is parsed if it is a body once unwrapped and no number has too many digits; its values are
those of the runs of digits. -/
theorem parse_eq_ok_iff {t : Text} {values : List Nat} :
    parse t = .ok values ↔
      (∀ p ∈ unwrap t, isBody p = true) ∧
        (∀ w ∈ Text.runs CodePoint.isDigit t, w.length ≤ Decimal.maxDigits) ∧
        values = (Text.runs CodePoint.isDigit t).map Decimal.value := by
  rw [parse_eq]
  split
  · rename_i body
    constructor
    · intro read
      have few := few_of_mapM_number read
      rw [mapM_number few] at read
      exact ⟨body, few, (Except.ok.inj read).symm⟩
    · rintro ⟨-, few, rfl⟩
      exact mapM_number few
  · rename_i other
    constructor
    · intro read
      cases read
    · rintro ⟨body, -⟩
      exact absurd body other

/-! Gaps. -/

/-- A gap, and then the numbers, each with the gap that follows it. -/
def spread (gap : Text) (parts : List (Nat × Text)) : Text :=
  gap ++ parts.flatMap fun part => Decimal.ofNat part.1 ++ part.2

/-- The gaps are blanks and commas, and between two numbers there is one. -/
structure Spaced (gap : Text) (parts : List (Nat × Text)) : Prop where
  first : IsGap gap
  gaps : ∀ part ∈ parts, IsGap part.2
  between : ∀ part ∈ parts.dropLast, part.2 ≠ []

instance (gap : Text) (parts : List (Nat × Text)) : Decidable (Spaced gap parts) :=
  decidable_of_iff (IsGap gap ∧ (∀ part ∈ parts, IsGap part.2) ∧ ∀ part ∈ parts.dropLast, part.2 ≠ [])
    ⟨fun ⟨first, gaps, between⟩ => ⟨first, gaps, between⟩, fun h => ⟨h.first, h.gaps, h.between⟩⟩

variable {gap : Text} {parts : List (Nat × Text)}

/-- The runs of digits are the numbers, if something stands between them. -/
theorem runs_parts (gaps : ∀ part ∈ parts, IsGap part.2) (between : ∀ part ∈ parts.dropLast, part.2 ≠ []) :
    Text.runs CodePoint.isDigit (parts.flatMap fun part => Decimal.ofNat part.1 ++ part.2) =
      parts.map fun part => Decimal.ofNat part.1 := by
  induction parts with
  | nil => rw [List.flatMap_nil, Text.runs, List.map_nil]
  | cons part parts ih =>
    obtain ⟨nonempty, digits⟩ := isWord_ofNat part.1
    have isGap := gaps part List.mem_cons_self
    have ends : Text.EndsRun CodePoint.isDigit
        (part.2 ++ parts.flatMap fun part => Decimal.ofNat part.1 ++ part.2) := by
      cases separator : part.2 with
      | cons p rest =>
        apply Text.endsRun_cons.2
        exact isGap.isDigit p (separator ▸ List.mem_cons_self)
      | nil =>
        cases parts with
        | nil => exact fun p first => by cases first
        | cons next parts => exact absurd separator (between part List.mem_cons_self)
    have later : ∀ next ∈ parts.dropLast, next.2 ≠ [] := by
      cases parts with
      | nil => exact fun next listed => absurd listed List.not_mem_nil
      | cons next parts => exact fun other listed => between other (List.mem_cons_of_mem part listed)
    rw [List.flatMap_cons, List.append_assoc, Text.runs_append nonempty digits ends,
      Text.runs_append_left isGap.isDigit, List.map_cons,
      ih (fun next listed => gaps next (List.mem_cons_of_mem part listed)) later]

theorem Spaced.runs_eq (h : Spaced gap parts) :
    Text.runs CodePoint.isDigit (spread gap parts) = parts.map fun part => Decimal.ofNat part.1 := by
  rw [spread, Text.runs_append_left h.first.isDigit, runs_parts h.gaps h.between]

theorem Spaced.isBody (h : Spaced gap parts) : ∀ p ∈ spread gap parts, Literal.isBody p = true := by
  refine List.forall_mem_append.2 ⟨h.first.isBody, fun p member => ?_⟩
  obtain ⟨part, listed, inPart⟩ := List.mem_flatMap.1 member
  rcases List.mem_append.1 inPart with inNumber | inGap
  · rw [Literal.isBody, (isWord_ofNat part.1).2 p inNumber]
    rfl
  · exact (h.gaps part listed).isBody p inGap

/-- A text is read as a number list just if digits, blanks and commas are all that is left of it without
the blanks and brackets at its ends, and no run of digits is too long; its numbers are the values of the
runs. So a list is read as it was written, and as the same numbers with any gaps between them, after the
last and around the brackets. -/
theorem parse_is_lenient :
    (∀ (t : Text) (values : List Nat), parse t = .ok values ↔
      (∀ p ∈ unwrap t, isBody p = true) ∧
        (∀ w ∈ Text.runs CodePoint.isDigit t, w.length ≤ Decimal.maxDigits) ∧
        values = (Text.runs CodePoint.isDigit t).map Decimal.value) ∧
      (∀ values : List Nat, (∀ n ∈ values, (Decimal.ofNat n).length ≤ Decimal.maxDigits) →
        parse (format (values.map Int.ofNat)) = .ok values) ∧
      ∀ (front gap : Text) (parts : List (Nat × Text)) (back : Text),
        (∀ p ∈ front, p.isBlank = true) → (∀ p ∈ back, p.isBlank = true) → Spaced gap parts →
        (∀ part ∈ parts, (Decimal.ofNat part.1).length ≤ Decimal.maxDigits) →
        parse (front ++ ('[' : CodePoint) :: spread gap parts ++ (']' : CodePoint) :: back) =
          .ok (parts.map Prod.fst) := by
  refine ⟨fun t values => parse_eq_ok_iff, fun values few => parse_format few, ?_⟩
  intro front gap parts back isFront isBack spaced few
  have layers : Layers front [('[' : CodePoint)] (spread gap parts) [(']' : CodePoint)] back :=
    ⟨isFront, .inr rfl, spaced.isBody, .inr rfl, isBack⟩
  have read := parse_of_layers layers
  have values : (parts.map fun part => Decimal.ofNat part.1).map Decimal.value = parts.map Prod.fst := by
    rw [List.map_map]
    exact List.map_congr_left fun part _ => Decimal.value_ofNat part.1
  rw [spaced.runs_eq, mapM_number (List.forall_mem_map.2 few), values] at read
  simpa using read

/-- Three numbers with gaps of several kinds. -/
def looseParts : List (Nat × Text) := [(1, ","), (20, " ,,"), (3, ", ")]

theorem parse_of_looseParts :
    (∀ part ∈ looseParts, (Decimal.ofNat part.1).length ≤ Decimal.maxDigits) ∧ Spaced " " looseParts ∧
      parse " [ 1,20 ,,3, ]\n" = .ok [1, 20, 3] ∧ parse (format [1, 20, 3]) = .ok [1, 20, 3] := by
  have few : ∀ part ∈ looseParts, (Decimal.ofNat part.1).length ≤ Decimal.maxDigits := by decide
  have spaced : Spaced " " looseParts := by decide
  have read := parse_is_lenient.2.2 " " " " looseParts "\n" (by decide) (by decide) spaced few
  have written := parse_is_lenient.2.1 [1, 20, 3] (by decide)
  exact ⟨few, spaced, read, written⟩

end Literal

end CellWalk
