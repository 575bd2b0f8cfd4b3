import CellWalk.Code.Literal
import CellWalk.Proofs.Decimal
import Mathlib.Data.List.TakeWhile

/-!
# Reading number lists back

Whatever the search for a match prefers, the numbers of a list are the runs of digits in the text: what the
pieces around the numbers take holds no digits (`parse_of_layers`). A list as it is written has brackets at
its ends and between them runs of digits that a comma separates, so it is read as the numbers that were
written (`parse_format`), if none of them has too many digits.
-/

namespace CellWalk
set_option autoImplicit false

namespace Text

section runs
variable {kind : CodePoint → Bool} {w rest : Text}

/-- A run ends with the text or where a code point of another kind stands. -/
def EndsRun (kind : CodePoint → Bool) (rest : Text) : Prop := ∀ p ∈ rest.head?, kind p = false

theorem endsRun_cons {p : CodePoint} : EndsRun kind (p :: rest) ↔ kind p = false := by
  simp [EndsRun]

/-- A run is as long as it can be. -/
theorem runs_append (nonempty : w ≠ []) (all : ∀ p ∈ w, kind p = true) (ends : EndsRun kind rest) :
    runs kind (w ++ rest) = w :: runs kind rest := by
  obtain ⟨p, t, rfl⟩ := List.exists_cons_of_ne_nil nonempty
  have isKind : kind p = true := all p List.mem_cons_self
  have more : ∀ q ∈ t, kind q = true := fun q member => all q (List.mem_cons_of_mem p member)
  have stops : rest.takeWhile kind = [] ∧ rest.dropWhile kind = rest := by
    cases rest with
    | nil => exact ⟨rfl, rfl⟩
    | cons q rest =>
      have other : ¬ kind q = true := Bool.eq_false_iff.1 (endsRun_cons.1 ends)
      exact ⟨List.takeWhile_cons_of_neg other, List.dropWhile_cons_of_neg other⟩
  rw [List.cons_append, runs, if_pos isKind, List.takeWhile_append_of_pos more,
    List.dropWhile_append_of_pos more, stops.1, stops.2, List.append_nil]

/-- What is not of the kind separates runs. -/
theorem runs_cons_of_other {p : CodePoint} (other : kind p = false) (t : Text) :
    runs kind (p :: t) = runs kind t := by
  rw [runs, if_neg (Bool.eq_false_iff.1 other)]

/-- A text is put together from its end: by a code point of another kind, or by a run. -/
@[elab_as_elim]
theorem runs_induction (kind : CodePoint → Bool) {motive : Text → Prop} (nil : motive [])
    (other : ∀ p t, kind p = false → motive t → motive (p :: t))
    (run : ∀ w rest, w ≠ [] → (∀ p ∈ w, kind p = true) → EndsRun kind rest → motive rest →
      motive (w ++ rest))
    (t : Text) : motive t := by
  fun_induction runs kind t with
  | case1 => exact nil
  | case2 p t isKind ih =>
    have ends : EndsRun kind (t.dropWhile kind) := by
      intro q first
      have stops := List.head?_dropWhile_not kind t
      rwa [Option.mem_def.1 first] at stops
    have all : ∀ q ∈ p :: t.takeWhile kind, kind q = true :=
      List.forall_mem_cons.2 ⟨isKind, List.all_eq_true.1 List.all_takeWhile⟩
    have split := run _ _ (List.cons_ne_nil _ _) all ends ih
    rwa [List.cons_append, List.takeWhile_append_dropWhile] at split
  | case3 p t isOther ih => exact other p t (Bool.eq_false_iff.2 isOther) ih

/-- What is of other kinds makes no runs before a text. -/
theorem runs_append_left (none : ∀ p ∈ w, kind p = false) (t : Text) :
    runs kind (w ++ t) = runs kind t := by
  induction w with
  | nil => rfl
  | cons p w ih =>
    rw [List.cons_append, runs_cons_of_other (none p List.mem_cons_self)]
    exact ih fun q member => none q (List.mem_cons_of_mem p member)

/-- What is of other kinds makes no runs after a text, and no run goes on in it. -/
theorem runs_append_right (none : ∀ p ∈ w, kind p = false) (t : Text) :
    runs kind (t ++ w) = runs kind t := by
  induction t using runs_induction kind with
  | nil =>
    have nothing := runs_append_left none []
    rwa [List.append_nil] at nothing
  | other p t isOther ih => rw [List.cons_append, runs_cons_of_other isOther, runs_cons_of_other isOther, ih]
  | run v rest nonempty all ends ih =>
    have ends' : EndsRun kind (rest ++ w) := by
      cases rest with
      | nil => exact fun p first => none p (List.mem_of_mem_head? first)
      | cons p rest => exact endsRun_cons.2 (endsRun_cons.1 ends)
    rw [List.append_assoc, runs_append nonempty all ends', runs_append nonempty all ends, ih]

theorem kind_of_mem_runs {t : Text} : ∀ v ∈ runs kind t, ∀ p ∈ v, kind p = true := by
  induction t using runs_induction kind with
  | nil =>
    rw [runs]
    exact fun v listed => absurd listed List.not_mem_nil
  | other p t isOther ih =>
    rw [runs_cons_of_other isOther]
    exact ih
  | run w rest nonempty all ends ih =>
    rw [runs_append nonempty all ends]
    exact List.forall_mem_cons.2 ⟨all, ih⟩

/-- Runs stay runs where each code point is replaced by one that is of the second kind just if the first
was of the first. -/
theorem runs_map {kind' : CodePoint → Bool} {f : CodePoint → CodePoint} {t : Text}
    (same : ∀ p ∈ t, kind' (f p) = kind p) : runs kind' (t.map f) = (runs kind t).map (List.map f) := by
  induction t using runs_induction kind with
  | nil => rw [List.map_nil, runs, runs, List.map_nil]
  | other p t isOther ih =>
    have still : kind' (f p) = false := (same p List.mem_cons_self).trans isOther
    rw [List.map_cons, runs_cons_of_other still, runs_cons_of_other isOther]
    exact ih fun q member => same q (List.mem_cons_of_mem p member)
  | run w rest nonempty all ends ih =>
    have all' : ∀ q ∈ w.map f, kind' q = true := by
      intro q member
      obtain ⟨p, listed, rfl⟩ := List.mem_map.1 member
      rw [same p (List.mem_append_left rest listed), all p listed]
    have ends' : EndsRun kind' (rest.map f) := by
      cases rest with
      | nil => exact fun q first => by cases first
      | cons p rest =>
        apply endsRun_cons.2
        rw [same p (List.mem_append_right w List.mem_cons_self), endsRun_cons.1 ends]
    have nonempty' : w.map f ≠ [] := fun empty => nonempty (List.map_eq_nil_iff.1 empty)
    rw [List.map_append, runs_append nonempty' all' ends', runs_append nonempty all ends, List.map_cons,
      ih fun q member => same q (List.mem_append_right w member)]

end runs

end Text

namespace Literal

/-- A word of a number list: digits, at least one. -/
def IsWord (w : Text) : Prop := w ≠ [] ∧ ∀ p ∈ w, p.isDigit = true

theorem isWord_ofNat (n : Nat) : IsWord (Decimal.ofNat n) :=
  ⟨Decimal.ofNat_ne_nil n, fun _ => Decimal.isDigit_of_mem_ofNat⟩

/-- Commas separate the words again that they join. -/
theorem runs_joinCommas {words : List Text} (isWord : ∀ w ∈ words, IsWord w) :
    Text.runs CodePoint.isDigit (joinCommas words) = words := by
  fun_induction joinCommas words with
  | case1 => rw [Text.runs]
  | case2 w =>
    obtain ⟨nonempty, digits⟩ := isWord w List.mem_cons_self
    have ends : Text.EndsRun CodePoint.isDigit [] := fun p first => by cases first
    have single := Text.runs_append nonempty digits ends
    rwa [List.append_nil, Text.runs] at single
  | case3 w v ws ih =>
    obtain ⟨nonempty, digits⟩ := isWord w List.mem_cons_self
    have comma : (',' : CodePoint).isDigit = false := by decide
    rw [Text.runs_append nonempty digits (Text.endsRun_cons.2 comma), Text.runs_cons_of_other comma,
      ih fun u member => isWord u (List.mem_cons_of_mem w member)]

theorem isBody_of_mem_joinCommas {words : List Text} (isWord : ∀ w ∈ words, IsWord w) :
    ∀ p ∈ joinCommas words, isBody p = true := by
  have ofDigit : ∀ w ∈ words, ∀ p ∈ w, isBody p = true := by
    intro w listed p member
    rw [isBody, (isWord w listed).2 p member]
    rfl
  fun_induction joinCommas words with
  | case1 => exact fun p member => nomatch member
  | case2 w => exact ofDigit w List.mem_cons_self
  | case3 w v ws ih =>
    intro p member
    rcases List.mem_append.1 member with inWord | later
    · exact ofDigit w List.mem_cons_self p inWord
    · rcases List.mem_cons.1 later with rfl | later
      · decide
      · exact ih (fun u listed => isWord u (List.mem_cons_of_mem w listed))
          (fun u listed => ofDigit u (List.mem_cons_of_mem w listed)) p later

/-! Gaps between numbers, and layers around all of them. -/

theorem isDigit_of_isBlank {p : CodePoint} (blank : p.isBlank = true) : p.isDigit = false := by
  obtain ⟨r, listed, low, high⟩ := CodePoint.isBlank_iff.1 blank
  have apart : ∀ r ∈ CodePoint.blankRanges, r.2 < 48 ∨ 57 < r.1 := by decide
  have out := apart r listed
  apply Bool.eq_false_iff.2
  intro digit
  simp only [CodePoint.isDigit, Bool.and_eq_true, decide_eq_true_eq] at digit
  omega

/-- Blanks and commas, in any order. -/
def IsGap (w : Text) : Prop := ∀ p ∈ w, p.isBlank = true ∨ p = (',' : CodePoint)

instance (w : Text) : Decidable (IsGap w) :=
  inferInstanceAs (Decidable (∀ p ∈ w, p.isBlank = true ∨ p = (',' : CodePoint)))

theorem isGap_of_blanks {w : Text} (blanks : ∀ p ∈ w, p.isBlank = true) : IsGap w :=
  fun p member => .inl (blanks p member)

theorem IsGap.append {v w : Text} (h : IsGap v) (h' : IsGap w) : IsGap (v ++ w) :=
  List.forall_mem_append.2 ⟨h, h'⟩

theorem IsGap.isDigit {w : Text} (h : IsGap w) : ∀ p ∈ w, p.isDigit = false := by
  intro p member
  rcases h p member with blank | rfl
  · exact isDigit_of_isBlank blank
  · decide

theorem IsGap.isBody {w : Text} (h : IsGap w) : ∀ p ∈ w, isBody p = true := by
  intro p member
  rcases h p member with blank | rfl
  · simp [Literal.isBody, blank]
  · decide

/-- Blanks at the ends of a text, brackets that may be missing, and between them digits, blanks and
commas. -/
structure Layers (front opening inside closing back : Text) : Prop where
  front : ∀ p ∈ front, p.isBlank = true
  opening : opening = [] ∨ opening = [('[' : CodePoint)]
  inside : ∀ p ∈ inside, isBody p = true
  closing : closing = [] ∨ closing = [(']' : CodePoint)]
  back : ∀ p ∈ back, p.isBlank = true

variable {t front opening inside closing back : Text}

/-- Outside the innermost layer there are no digits. -/
theorem Layers.runs_eq (h : Layers front opening inside closing back) :
    Text.runs CodePoint.isDigit (front ++ (opening ++ inside ++ closing) ++ back) =
      Text.runs CodePoint.isDigit inside := by
  have bracket : ∀ {w : Text} {q : CodePoint}, q.isDigit = false → w = [] ∨ w = [q] →
      ∀ p ∈ w, p.isDigit = false := by
    rintro w q other (rfl | rfl) p member
    · cases member
    · rwa [List.mem_singleton.1 member]
  rw [Text.runs_append_right fun p member => isDigit_of_isBlank (h.back p member),
    Text.runs_append_left fun p member => isDigit_of_isBlank (h.front p member),
    Text.runs_append_right (bracket (by decide) h.closing),
    Text.runs_append_left (bracket (by decide) h.opening)]

theorem takes_blanks {w : Text} : blanks.Takes w ↔ ∀ p ∈ w, p.isBlank = true :=
  ⟨Piece.Takes.kind, fun all => ⟨all, fun one => nomatch one⟩⟩

theorem takes_optional {q : CodePoint} {w : Text} : (optional q).Takes w ↔ w = [] ∨ w = [q] := by
  constructor
  · rintro ⟨kind, single⟩
    match w, single rfl with
    | [], _ => exact .inl rfl
    | [p], _ => exact .inr (by rw [eq_of_beq (kind p List.mem_cons_self)])
  · rintro (rfl | rfl)
    · exact ⟨by simp, fun _ => Nat.zero_le 1⟩
    · exact ⟨by simp [optional], fun _ => Nat.le_refl 1⟩

/-- Where the layers are, the pattern matches. -/
theorem Layers.splits (h : Layers front opening inside closing back) :
    Pattern.Splits pattern [front, opening, [], inside, [], [], [], closing, back]
      (front ++ (opening ++ inside ++ closing) ++ back) := by
  have nothing : blanks.Takes [] := takes_blanks.2 fun p member => nomatch member
  have comma : (optional ',').Takes [] := takes_optional.2 (.inl rfl)
  have numbers : Piece.Takes ⟨isBody, .fewest⟩ inside := ⟨h.inside, fun one => nomatch one⟩
  have split := Pattern.Splits.nil (t := []) rfl
    |>.cons (takes_blanks.2 h.back) |>.cons (takes_optional.2 h.closing) |>.cons nothing
    |>.cons comma |>.cons nothing |>.cons numbers |>.cons nothing |>.cons (takes_optional.2 h.opening)
    |>.cons (takes_blanks.2 h.front)
  simpa [pattern] using split

/-- Where the pattern matches, the layers are, and around what the fourth piece takes there are gaps
only. -/
theorem layers_of_splits {ws : List Text} (splits : Pattern.Splits pattern ws t) :
    ∃ front opening before inside after closing back, ws[3]? = some inside ∧
      t = front ++ (opening ++ (before ++ inside ++ after) ++ closing) ++ back ∧
      Layers front opening (before ++ inside ++ after) closing back ∧ IsGap before ∧ IsGap after := by
  simp only [pattern, Pattern.splits_cons_iff, Pattern.splits_nil_iff, takes_blanks,
    takes_optional] at splits
  obtain ⟨front, _, _, ⟨rfl, rfl⟩, isFront, opening, _, _, ⟨rfl, rfl⟩, isOpening,
    before, _, _, ⟨rfl, rfl⟩, isBefore, inside, _, _, ⟨rfl, rfl⟩, takes,
    blank, _, _, ⟨rfl, rfl⟩, isBlank, comma, _, _, ⟨rfl, rfl⟩, isComma,
    blank', _, _, ⟨rfl, rfl⟩, isBlank', closing, _, _, ⟨rfl, rfl⟩, isClosing,
    back, _, rest, ⟨rfl, rfl⟩, isBack, -, ends⟩ := splits
  have lineBreak : ∀ p ∈ rest, p.isBlank = true := by
    simp only [Pattern.atEnd, decide_eq_true_eq] at ends
    rcases ends with rfl | rfl <;> decide
  have gapBefore : IsGap before := isGap_of_blanks isBefore
  have gapComma : IsGap comma := by
    rcases isComma with rfl | rfl
    · exact fun p member => nomatch member
    · exact fun p member => .inr (List.mem_singleton.1 member)
  have gapAfter : IsGap (blank ++ (comma ++ blank')) :=
    (isGap_of_blanks isBlank).append (gapComma.append (isGap_of_blanks isBlank'))
  have body : ∀ p ∈ before ++ inside ++ (blank ++ (comma ++ blank')), isBody p = true :=
    List.forall_mem_append.2
      ⟨List.forall_mem_append.2 ⟨gapBefore.isBody, takes.kind⟩, gapAfter.isBody⟩
  exact ⟨front, opening, before, inside, blank ++ (comma ++ blank'), closing, back ++ rest, rfl,
    by simp only [List.append_assoc],
    ⟨isFront, isOpening, body, isClosing, List.forall_mem_append.2 ⟨isBack, lineBreak⟩⟩,
    gapBefore, gapAfter⟩

/-- With blanks for commas, the words between blanks are the runs of digits. -/
theorem runs_commaToBlank {w : Text} (body : ∀ p ∈ w, isBody p = true) :
    Text.runs (fun p => !p.isBlank) (w.map commaToBlank) = Text.runs CodePoint.isDigit w := by
  have same : ∀ p ∈ w, (!(commaToBlank p).isBlank) = p.isDigit := by
    intro p member
    by_cases comma : p = (',' : CodePoint)
    · rw [comma]
      decide
    · rw [commaToBlank, if_neg comma]
      have kinds := body p member
      cases blank : p.isBlank with
      | true => exact (isDigit_of_isBlank blank).symm
      | false => simpa [isBody, blank, comma] using kinds.symm
  have kept : ∀ v ∈ Text.runs CodePoint.isDigit w, v.map commaToBlank = v := by
    intro v listed
    calc v.map commaToBlank
      _ = v.map id := by
        apply List.map_congr_left
        intro p member
        have digit := Text.kind_of_mem_runs v listed p member
        apply if_neg
        rintro rfl
        revert digit
        decide
      _ = v := List.map_id v
  calc Text.runs (fun p => !p.isBlank) (w.map commaToBlank)
    _ = (Text.runs CodePoint.isDigit w).map (List.map commaToBlank) := Text.runs_map same
    _ = (Text.runs CodePoint.isDigit w).map id := List.map_congr_left kept
    _ = Text.runs CodePoint.isDigit w := List.map_id _

/-- A text with the layers of a number list is read as its runs of digits. -/
theorem parse_of_layers (h : Layers front opening inside closing back) :
    parse (front ++ (opening ++ inside ++ closing) ++ back) =
      (Text.runs CodePoint.isDigit inside).mapM number := by
  obtain ⟨ws, found⟩ := Option.isSome_iff_exists.1 (Pattern.firstMatch_isSome h.splits)
  obtain ⟨front', opening', before, inside', after, closing', back', fourth, same, layers,
    gapBefore, gapAfter⟩ := layers_of_splits (Pattern.splits_of_firstMatch found)
  have found' : body? (front ++ (opening ++ inside ++ closing) ++ back) = some inside' := by
    rw [body?, found]
    exact fourth
  have body : ∀ p ∈ inside', isBody p = true := fun p member =>
    layers.inside p (List.mem_append_left _ (List.mem_append_right _ member))
  have digits : Text.runs CodePoint.isDigit inside' = Text.runs CodePoint.isDigit inside := by
    rw [← h.runs_eq, same, layers.runs_eq, Text.runs_append_right gapAfter.isDigit,
      Text.runs_append_left gapBefore.isDigit]
  simp only [parse, found', runs_commaToBlank body, digits]

theorem number_of_few {w : Text} (few : w.length ≤ Decimal.maxDigits) : number w = .ok (Decimal.value w) := by
  rw [number, Decimal.value?, if_pos few]

theorem mapM_number {words : List Text} (few : ∀ w ∈ words, w.length ≤ Decimal.maxDigits) :
    words.mapM number = .ok (words.map Decimal.value) := by
  induction words with
  | nil => rfl
  | cons w words ih =>
    have first := number_of_few (few w List.mem_cons_self)
    have later := ih fun v member => few v (List.mem_cons_of_mem w member)
    rw [List.mapM_cons, first, later]
    rfl

theorem map_value_ofNat (values : List Nat) : (values.map Decimal.ofNat).map Decimal.value = values := by
  rw [List.map_map]
  exact (List.map_congr_left fun n _ => Decimal.value_ofNat n).trans (List.map_id _)

/-- A list of numbers that are not too long is read as it was written. -/
theorem parse_format {values : List Nat}
    (few : ∀ n ∈ values, (Decimal.ofNat n).length ≤ Decimal.maxDigits) :
    parse (format (values.map Int.ofNat)) = .ok values := by
  have words : (values.map Int.ofNat).map Decimal.ofInt = values.map Decimal.ofNat := by
    rw [List.map_map]
    rfl
  have isWord : ∀ w ∈ values.map Decimal.ofNat, IsWord w := by
    intro w member
    obtain ⟨n, -, rfl⟩ := List.mem_map.1 member
    exact isWord_ofNat n
  have layers : Layers [] [('[' : CodePoint)] (joinCommas (values.map Decimal.ofNat))
      [(']' : CodePoint)] [] :=
    ⟨by simp, .inr rfl, isBody_of_mem_joinCommas isWord, .inr rfl, by simp⟩
  have read := parse_of_layers layers
  rw [runs_joinCommas isWord, mapM_number (List.forall_mem_map.2 few), map_value_ofNat,
    List.append_nil, List.nil_append] at read
  rw [format, words]
  exact read

end Literal

end CellWalk
