import CellWalk.Proofs.Assembly.Grammar

/-!
# What the reader takes for a lexeme

Skipping layout leaves the text from its first visible code point on (`trimLayout_of_layout`), and a
lexeme class takes exactly the words of one kind that end there (`Lexeme.Takes`). So the next token
is found just where the grammar has a lexeme of that kind (`nextToken_iff`).
-/

namespace CellWalk.Assembly
set_option autoImplicit false
open Grammar

/-! Layout. -/

/-- Neither a blank nor the start of a comment. -/
def Visible (p : CodePoint) : Prop := p.isBlank = false ∧ p ≠ ';'

instance (p : CodePoint) : Decidable (Visible p) := inferInstanceAs (Decidable (_ ∧ _))

/-- The marks, digits and letters of ASCII are visible, but for the semicolon. -/
theorem visible_of_printable {p : CodePoint} (low : 33 ≤ p.val) (high : p.val ≤ 126)
    (noComment : p.val ≠ 59) : Visible p := by
  constructor
  · cases blank : p.isBlank with
    | false => rfl
    | true =>
      obtain ⟨r, member, within⟩ := CodePoint.isBlank_iff.1 blank
      simp only [CodePoint.blankRanges, List.mem_cons, List.not_mem_nil, or_false] at member
      rcases member with rfl | rfl | rfl | rfl | rfl | rfl | rfl | rfl | rfl | rfl <;>
        (simp only at within; omega)
  · rintro rfl
    exact noComment rfl

theorem isBlank_newline : Text.newline.isBlank = true := by decide

theorem trimLayout_blank {p : CodePoint} (blank : p.isBlank = true) (t : Text) :
    trimLayout (p :: t) = trimLayout t := by
  simp [trimLayout, skipLayout, blank]

/-- Layout ends before a visible code point. -/
theorem trimLayout_visible {p : CodePoint} (visible : Visible p) (t : Text) :
    trimLayout (p :: t) = p :: t := by
  simp [trimLayout, skipLayout, visible.1, visible.2]

/-- A comment goes on to the end of its line. -/
theorem skipLayout_comment {body : Text} (oneLine : Text.newline ∉ body) (t : Text) :
    skipLayout true (body ++ t) = skipLayout true t := by
  induction body with
  | nil => rfl
  | cons p body ih =>
    obtain ⟨first, rest⟩ := not_or.1 (mt List.mem_cons.2 oneLine)
    have inside : (p != Text.newline) = true := bne_iff_ne.2 fun e => first e.symm
    rw [List.cons_append, skipLayout, if_pos rfl, inside, ih rest]

/-- A comment is over where the text is or where a line feed comes. -/
theorem skipLayout_ends {t : Text} (ends : Stops (· ≠ Text.newline) t) :
    skipLayout true t = trimLayout t := by
  cases t with
  | nil => rfl
  | cons p t =>
    obtain rfl : p = Text.newline := Classical.not_not.1 (ends p rfl)
    rw [trimLayout_blank isBlank_newline, skipLayout, if_pos rfl]
    simp [trimLayout]

theorem trimLayout_of_layout {t rest : Text} (h : Layout t rest) : trimLayout t = trimLayout rest := by
  induction h with
  | none => rfl
  | blank isBlank _ ih => rw [trimLayout_blank isBlank, ih]
  | @comment body t rest oneLine ends _ ih =>
    have opens : trimLayout ((';' : CodePoint) :: (body ++ t)) = skipLayout true (body ++ t) := by
      rw [trimLayout, skipLayout]
      have : (';' : CodePoint).isBlank = false := by decide
      simp [this]
    rw [opens, skipLayout_comment oneLine, skipLayout_ends ends, ih]

/-- What is skipped is layout; inside a comment, the rest of the comment and then layout. -/
theorem layout_skipLayout (t : Text) :
    Layout t (skipLayout false t) ∧
      ∃ body after, t = body ++ after ∧ Text.newline ∉ body ∧ Stops (· ≠ Text.newline) after ∧
        Layout after (skipLayout true t) := by
  induction t with
  | nil => exact ⟨.none _, [], [], rfl, List.not_mem_nil, fun _ h => (nomatch h), .none _⟩
  | cons p t ih =>
    obtain ⟨outside, body, after, split, oneLine, ends, inside⟩ := ih
    constructor
    · simp only [skipLayout, Bool.false_eq_true, if_false]
      split
      · rename_i blank
        exact .blank blank outside
      · split
        · rename_i comment
          rw [comment]
          conv => arg 1; rw [split]
          exact .comment oneLine ends inside
        · exact .none _
    · by_cases newline : p = Text.newline
      · have stays : skipLayout true (p :: t) = skipLayout false t := by
          rw [skipLayout, if_pos rfl, newline]
          simp
        refine ⟨[], p :: t, rfl, List.not_mem_nil, fun q h => ?_, ?_⟩
        · cases h
          exact not_not.2 newline
        · rw [stays]
          exact .blank (newline ▸ isBlank_newline) outside
      · have goes : skipLayout true (p :: t) = skipLayout true t := by
          rw [skipLayout, if_pos rfl, bne_iff_ne.2 newline]
        refine ⟨p :: body, after, by rw [split, List.cons_append], ?_, ends,
          by rw [goes]; exact inside⟩
        exact fun h => (List.mem_cons.1 h).elim (fun e => newline e.symm) oneLine

/-- What is trimmed off is layout. -/
theorem layout_trimLayout (t : Text) : Layout t (trimLayout t) := (layout_skipLayout t).1

theorem layout_nil_iff {t : Text} : Layout t [] ↔ trimLayout t = [] := by
  constructor
  · exact trimLayout_of_layout
  · intro h
    rw [← h]
    exact layout_trimLayout t

/-! Lexeme classes. -/

/-- An upper-case letter of ASCII. -/
def IsUpper (c : Char) : Prop := 65 ≤ c.toNat ∧ c.toNat ≤ 90

instance (c : Char) : Decidable (IsUpper c) := inferInstanceAs (Decidable (_ ∧ _))

/-- A word in upper case. It is decided letter by letter, not by going through all characters. -/
def IsUpperWord (cs : List Char) : Prop := ∀ c ∈ cs, IsUpper c

instance (cs : List Char) : Decidable (IsUpperWord cs) := List.decidableBAll IsUpper cs

namespace Lexeme

/-- The class takes exactly the words of the kind, each with something visible at its start. -/
structure Takes (lexeme : Lexeme) (kind : Lexical) : Prop where
  sound : ∀ {p : CodePoint} {t : Text} {n : Nat}, lexeme (p :: t) = n + 1 →
    kind (p :: t.take n) (t.drop n)
  complete : ∀ {w rest : Text}, kind w rest → lexeme (w ++ rest) = w.length
  starts : ∀ {w rest : Text}, kind w rest → ∃ p w', w = p :: w' ∧ Visible p

end Lexeme

/-- The token that is found is the lexeme behind the layout. -/
theorem nextToken_iff {lexeme : Lexeme} {kind : Lexical} (takes : lexeme.Takes kind) {t rest : Text}
    {tok : Token} :
    nextToken lexeme t = some (tok, rest) ↔
      Layout t (tok.text ++ rest) ∧ kind tok.text rest ∧ tok.left = (tok.text ++ rest).length := by
  constructor
  · intro h
    have layout := layout_trimLayout t
    unfold nextToken at h
    split at h
    · cases h
    · rename_i p r e
      split at h
      · cases h
      · rename_i n length
        cases h
        have whole : p :: r.take n ++ r.drop n = p :: r := by
          rw [List.cons_append, List.take_append_drop]
        rw [whole]
        exact ⟨e ▸ layout, takes.sound length, rfl⟩
  · rintro ⟨layout, isKind, left⟩
    obtain ⟨w, left'⟩ := tok
    obtain ⟨p, w', rfl, visible⟩ := takes.starts isKind
    have length := takes.complete isKind
    have trimmed : trimLayout t = p :: (w' ++ rest) := by
      rw [trimLayout_of_layout layout, List.cons_append, trimLayout_visible visible]
    rw [List.cons_append, List.length_cons] at length
    simp only [nextToken, trimmed, length, List.take_left, List.drop_left]
    obtain rfl : left' = (w' ++ rest).length + 1 := left
    rfl

/-- No lexeme of the class comes next if none starts like the text. -/
theorem nextToken_eq_none {lexeme : Lexeme} {kind : Lexical} (takes : lexeme.Takes kind) {t : Text}
    (other : ∀ p w rest, (trimLayout t).head? = some p → ¬ kind (p :: w) rest) :
    nextToken lexeme t = none := by
  cases h : nextToken lexeme t with
  | none => rfl
  | some found =>
    obtain ⟨tok, rest⟩ := found
    obtain ⟨layout, isKind, -⟩ := (nextToken_iff takes).1 h
    obtain ⟨p, w, e, visible⟩ := takes.starts isKind
    rw [e] at layout isKind
    have trimmed := trimLayout_of_layout layout
    rw [List.cons_append, trimLayout_visible visible] at trimmed
    exact absurd isKind (other p w _ (by rw [trimmed, List.head?_cons]))

namespace Lexeme

/-- A run of code points of a class as long as it can be. -/
def Run (kind : CodePoint → Bool) : Lexical := fun w rest =>
  w ≠ [] ∧ (∀ p ∈ w, kind p = true) ∧ Stops (kind · = true) rest

theorem takeWhile_append_of_stops {kind : CodePoint → Bool} {w rest : Text}
    (all : ∀ p ∈ w, kind p = true) (stops : Stops (kind · = true) rest) :
    (w ++ rest).takeWhile kind = w := by
  have none : rest.takeWhile kind = [] := by
    cases rest with
    | nil => rfl
    | cons p rest => rw [List.takeWhile_cons_of_neg (stops p rfl)]
  rw [List.takeWhile_append_of_pos all, none, List.append_nil]

/-- The longest start in a class of code points is a run of them. -/
theorem takes_span {kind : CodePoint → Bool} (visible : ∀ p, kind p = true → Visible p) :
    (span kind).Takes (Run kind) where
  sound := by
    intro p t n length
    have first : kind p = true := by
      by_cases first : kind p = true
      · exact first
      · rw [span, List.takeWhile_cons_of_neg first] at length
        cases length
    rw [span, List.takeWhile_cons_of_pos first, List.length_cons, Nat.add_right_cancel_iff] at length
    have taken : t.take n = t.takeWhile kind := by
      rw [← length]
      exact (List.prefix_iff_eq_take.1 (List.takeWhile_prefix kind)).symm
    have dropped : t.drop n = t.dropWhile kind := by
      have whole := List.takeWhile_append_dropWhile (p := kind) (l := t)
      conv => lhs; rw [← whole, ← length]
      exact List.drop_left
    rw [taken, dropped]
    refine ⟨List.cons_ne_nil _ _, fun q member => ?_, fun q next holds => ?_⟩
    · rcases List.mem_cons.1 member with rfl | later
      · exact first
      · exact List.all_eq_true.1 List.all_takeWhile q later
    · have := List.head?_dropWhile_not kind t
      rw [next] at this
      simp [holds] at this
  complete := by
    rintro w rest ⟨-, all, stops⟩
    rw [span, takeWhile_append_of_stops all stops]
  starts := by
    rintro w rest ⟨nonempty, all, -⟩
    obtain ⟨p, w', rfl⟩ := List.exists_cons_of_ne_nil nonempty
    exact ⟨p, w', rfl, visible p (all p List.mem_cons_self)⟩

theorem takes_fixed {c : Char} (cs : List Char) (visible : Visible c) :
    (Lexeme.fixed (c :: cs)).Takes fun w _ => w = Text.ofChars (c :: cs) where
  sound := by
    intro p t n length
    unfold Lexeme.fixed at length
    split at length
    · rename_i isPrefix
      obtain ⟨rest, e⟩ := List.isPrefixOf_iff_prefix.1 isPrefix
      rw [Text.ofChars_cons, List.cons_append, List.cons.injEq] at e
      obtain rfl : cs.length = n := by simpa using length
      rw [← e.1, ← e.2, Text.ofChars_cons, ← Text.length_ofChars cs, List.take_left]
    · cases length
  complete := by
    rintro w rest rfl
    have isPrefix : (Text.ofChars (c :: cs)).isPrefixOf (Text.ofChars (c :: cs) ++ rest) = true :=
      List.isPrefixOf_iff_prefix.2 (List.prefix_append _ _)
    rw [Lexeme.fixed, if_pos isPrefix, Text.length_ofChars]
  starts := by
    rintro w _ rfl
    exact ⟨c, Text.ofChars cs, rfl, visible⟩

/-! Words. -/

/-- A letter is read in both cases, and four code points beyond ASCII are read as S, I and K. -/
theorem isFormOf_iff {c : Char} {p : CodePoint} :
    isFormOf c p = true ↔ p.val = c.toNat ∨ p.val = c.toNat + 32 ∨ (c = 'S' ∧ p.val = 0x17F) ∨
      (c = 'I' ∧ (p.val = 0x130 ∨ p.val = 0x131)) ∨ (c = 'K' ∧ p.val = 0x212A) := by
  unfold isFormOf
  split
  · simp [or_assoc]
  · simp [or_assoc]
  · simp [or_assoc]
  · rename_i noS noI noK
    have noS : c ≠ 'S' := noS
    have noI : c ≠ 'I' := noI
    have noK : c ≠ 'K' := noK
    simp [noS, noI, noK]

/-- Every form of an upper-case letter is a word character. -/
theorem isWord_of_isFormOf {c : Char} {p : CodePoint} (upper : IsUpper c)
    (form : isFormOf c p = true) : p.isWord = true := by
  have small : ∀ q : CodePoint, 65 ≤ q.val ∧ q.val ≤ 90 ∨ 97 ≤ q.val ∧ q.val ≤ 122 →
      q.isWord = true := by
    intro q range
    have ascii : q.val < 0x80 := by omega
    rw [CodePoint.isWord, if_pos ascii]
    simp [CodePoint.isLetter, range]
  obtain ⟨v, bound⟩ := p
  obtain ⟨low, high⟩ := upper
  rcases isFormOf_iff.1 form with e | e | ⟨-, e⟩ | ⟨-, e | e⟩ | ⟨-, e⟩
  · exact small _ (by simp only at e ⊢; omega)
  · exact small _ (by simp only at e ⊢; omega)
  all_goals
    simp only at e
    subst e
    clear form
    decide +kernel +revert

/-- A form of an upper-case letter is visible. -/
theorem visible_of_isFormOf {c : Char} {p : CodePoint} (upper : IsUpper c)
    (form : isFormOf c p = true) : Visible p := by
  obtain ⟨v, bound⟩ := p
  obtain ⟨low, high⟩ := upper
  rcases isFormOf_iff.1 form with e | e | ⟨-, e⟩ | ⟨-, e | e⟩ | ⟨-, e⟩
  · exact visible_of_printable (by simp only at e ⊢; omega) (by simp only at e ⊢; omega)
      (by simp only at e ⊢; omega)
  · exact visible_of_printable (by simp only at e ⊢; omega) (by simp only at e ⊢; omega)
      (by simp only at e ⊢; omega)
  all_goals
    simp only at e
    subst e
    clear form
    decide +revert

theorem startsWithForm_iff {cs : List Char} {t : Text} :
    startsWithForm cs t = true ↔
      ∃ w rest, t = w ++ rest ∧ List.Forall₂ (fun c p => isFormOf c p = true) cs w := by
  induction cs generalizing t with
  | nil => simp [startsWithForm]
  | cons c cs ih =>
    cases t with
    | nil => simp [startsWithForm]
    | cons p t =>
      rw [startsWithForm, Bool.and_eq_true, ih]
      constructor
      · rintro ⟨form, w, rest, rfl, forms⟩
        exact ⟨p :: w, rest, rfl, .cons form forms⟩
      · rintro ⟨w, rest, e, forms⟩
        cases forms with
        | cons form forms =>
          obtain ⟨rfl, rfl⟩ := List.cons.inj e
          exact ⟨form, _, _, rfl, forms⟩

/-- A word ends where no word character follows. -/
theorem atBoundary_iff {t : Text} : atBoundary t = true ↔ Stops (·.isWord = true) t := by
  cases t with
  | nil => simp [atBoundary, Stops]
  | cons p t => simp [atBoundary, Stops]

/-- One of several words in any case forms, up to a word boundary. -/
def OneOf (words : List (List Char)) : Lexical := fun w rest =>
  (∃ u ∈ words, List.Forall₂ (fun c p => isFormOf c p = true) u w) ∧ Stops (·.isWord = true) rest

/-- Of two words at the start of a text, neither goes on where the other has its boundary. -/
theorem length_le_of_boundary {u v : List Char} {t w rest : Text} (upper : IsUpperWord v)
    (whole : t = w ++ rest) (forms : List.Forall₂ (fun c p => isFormOf c p = true) v w)
    (boundary : Stops (·.isWord = true) (t.drop u.length)) : v.length ≤ u.length := by
  by_contra longer
  have inside : u.length < w.length := by rw [← forms.length_eq]; omega
  have next : (t.drop u.length).head? = some w[u.length] := by
    rw [List.head?_drop, whole, List.getElem?_append_left inside, List.getElem?_eq_getElem inside]
  have inside' : u.length < v.length := by omega
  have form := forms.get inside' inside
  exact boundary _ next (isWord_of_isFormOf (upper _ (List.getElem_mem inside')) form)

/-- A word of a list is taken in whatever forms its letters have. -/
theorem takes_oneOf {words : List (List Char)} (upper : ∀ u ∈ words, IsUpperWord u)
    (nonempty : ∀ u ∈ words, u ≠ []) : (oneOf words).Takes (OneOf words) where
  sound := by
    intro p t n length
    unfold oneOf at length
    split at length
    · rename_i u found
      have listed := List.mem_of_find?_eq_some found
      have fits := List.find?_some found
      simp only [Bool.and_eq_true] at fits
      obtain ⟨w, rest, e, forms⟩ := startsWithForm_iff.1 fits.1
      have same : w.length = n + 1 := by rw [← forms.length_eq, length]
      have word : p :: t.take n = w := by
        rw [← List.take_succ_cons, e, ← same, List.take_left]
      have after : t.drop n = rest := by
        rw [← List.drop_succ_cons (a := p), e, ← same, List.drop_left]
      rw [word, after]
      refine ⟨⟨u, listed, forms⟩, ?_⟩
      have boundary := atBoundary_iff.1 fits.2
      rwa [e, length, ← same, List.drop_left] at boundary
    · cases length
  complete := by
    rintro w rest ⟨⟨u, listed, forms⟩, boundary⟩
    have fits : (startsWithForm u (w ++ rest) && atBoundary ((w ++ rest).drop u.length)) = true := by
      rw [Bool.and_eq_true]
      refine ⟨startsWithForm_iff.2 ⟨w, rest, rfl, forms⟩, atBoundary_iff.2 ?_⟩
      rwa [forms.length_eq, List.drop_left]
    unfold oneOf
    split
    · rename_i v found
      have fits' := List.find?_some found
      simp only [Bool.and_eq_true] at fits'
      obtain ⟨w', rest', e, forms'⟩ := startsWithForm_iff.1 fits'.1
      have boundary' := atBoundary_iff.1 fits'.2
      have atU : Stops (·.isWord = true) ((w ++ rest).drop u.length) := by
        rwa [forms.length_eq, List.drop_left]
      have le := length_le_of_boundary (upper v (List.mem_of_find?_eq_some found)) e forms' atU
      have ge := length_le_of_boundary (upper u listed) rfl forms boundary'
      rw [← forms.length_eq]
      omega
    · rename_i none
      exact absurd fits (List.find?_eq_none.1 none u listed)
  starts := by
    rintro w rest ⟨⟨u, listed, forms⟩, -⟩
    cases forms with
    | nil => exact absurd rfl (nonempty _ listed)
    | cons form _ =>
      exact ⟨_, _, rfl, visible_of_isFormOf (upper _ listed _ List.mem_cons_self) form⟩

theorem takes_mnemonic : mnemonic.Takes (OneOf mnemonics) :=
  takes_oneOf (by decide) (by decide)

theorem takes_register : register.Takes (OneOf registerNames) :=
  takes_oneOf (by decide) (by decide)

theorem isFormOf_iff_ascii {c : Char} (plain : c ≠ 'S' ∧ c ≠ 'I' ∧ c ≠ 'K') {p : CodePoint} :
    isFormOf c p = true ↔ ascii c p := by
  rw [isFormOf_iff, ascii]
  simp [plain.1, plain.2.1, plain.2.2]

theorem takes_rawBytes : Lexeme.rawBytes.Takes Grammar.rawBytes where
  sound := by
    intro p t n length
    unfold Lexeme.rawBytes at length
    split at length
    · rename_i starts
      obtain ⟨w, rest, e, forms⟩ := startsWithForm_iff.1 starts
      have two : w.length = n + 1 := by rw [← length]; exact forms.length_eq.symm
      have word : p :: t.take n = w := by
        rw [← List.take_succ_cons, e, ← two, List.take_left]
      rw [word]
      cases forms with
      | cons first more =>
        cases more with
        | cons second more =>
          exact .cons ((isFormOf_iff_ascii (by decide)).1 first)
            (.cons ((isFormOf_iff_ascii (by decide)).1 second) (by cases more; exact .nil))
    · cases length
  complete := by
    intro w rest forms
    have starts : startsWithForm ['D', 'B'] (w ++ rest) = true := by
      refine startsWithForm_iff.2 ⟨w, rest, rfl, ?_⟩
      cases forms with
      | cons first more =>
        cases more with
        | cons second more =>
          exact .cons ((isFormOf_iff_ascii (by decide)).2 first)
            (.cons ((isFormOf_iff_ascii (by decide)).2 second) (by cases more; exact .nil))
    rw [Lexeme.rawBytes, if_pos starts]
    exact forms.length_eq
  starts := by
    intro w rest forms
    cases forms with
    | cons first _ =>
      exact ⟨_, _, rfl,
        visible_of_isFormOf (c := 'D') (by decide) ((isFormOf_iff_ascii (by decide)).2 first)⟩

/-! Strings. -/

/-- A string ends at the first quotation mark that is not escaped. -/
theorem stringRest_body {body : Text} (h : StringBody body) (rest : Text) :
    stringRest false (body ++ ('"' : CodePoint) :: rest) = some (body.length + 1) := by
  induction h with
  | nil => simp [stringRest, show ('"' : CodePoint) ≠ Text.newline by decide]
  | @plain p t noQuote noBackslash noLineFeed _ ih =>
    simp [stringRest, noQuote, noBackslash, noLineFeed, ih]
  | @escape p t noLineFeed _ ih =>
    have line : ('\\' : CodePoint) ≠ Text.newline := by decide
    have quote : ('\\' : CodePoint) ≠ '"' := by decide
    simp [stringRest, noLineFeed, line, quote, ih]

/-- Where a string's rest ends, its body does; after a backslash, the body of what follows the next
code point. -/
theorem body_of_stringRest (t : Text) (n : Nat) :
    (stringRest false t = some n →
      ∃ body rest, t = body ++ ('"' : CodePoint) :: rest ∧ n = body.length + 1 ∧ StringBody body) ∧
    (stringRest true t = some n →
      ∃ p body rest, t = p :: (body ++ ('"' : CodePoint) :: rest) ∧ n = body.length + 2 ∧
        p ≠ Text.newline ∧ StringBody body) := by
  induction t generalizing n with
  | nil => exact ⟨fun h => (nomatch h), fun h => (nomatch h)⟩
  | cons p t ih =>
    constructor
    · intro h
      rw [stringRest] at h
      split at h
      · cases h
      · rename_i line
        split at h
        · rename_i quote
          cases h
          exact ⟨[], t, by rw [quote.1]; rfl, rfl, .nil⟩
        · rename_i quote
          obtain ⟨k, inner, rfl⟩ := Option.map_eq_some_iff.1 h
          by_cases backslash : p = '\\'
          · rw [backslash] at inner
            obtain ⟨q, body, rest, rfl, rfl, noLineFeed, isBody⟩ := (ih k).2 (by simpa using inner)
            exact ⟨'\\' :: q :: body, rest, by rw [backslash]; rfl, rfl, .escape noLineFeed isBody⟩
          · obtain ⟨body, rest, rfl, rfl, isBody⟩ := (ih k).1 (by simpa [backslash] using inner)
            exact ⟨p :: body, rest, rfl, rfl,
              .plain (fun e => quote ⟨e, rfl⟩) backslash line isBody⟩
    · intro h
      rw [stringRest] at h
      split at h
      · cases h
      · rename_i line
        rw [if_neg (by simp)] at h
        obtain ⟨k, inner, rfl⟩ := Option.map_eq_some_iff.1 h
        obtain ⟨body, rest, rfl, rfl, isBody⟩ := (ih k).1 (by simpa using inner)
        exact ⟨p, body, rest, rfl, rfl, line, isBody⟩

/-- A string in double quotes. -/
def Quoted : Lexical := fun w _ =>
  ∃ body, w = ('"' : CodePoint) :: body ++ [('"' : CodePoint)] ∧ StringBody body

theorem takes_string : Lexeme.string.Takes Quoted where
  sound := by
    intro p t n length
    rw [Lexeme.string] at length
    split at length
    · rename_i quote
      cases found : stringRest false t with
      | none => simp [found] at length
      | some k =>
        obtain ⟨body, rest, rfl, rfl, isBody⟩ := (body_of_stringRest t k).1 found
        obtain rfl : body.length + 1 = n := by simpa [found] using length
        refine ⟨body, ?_, isBody⟩
        rw [quote, List.take_append, List.take_of_length_le (by omega)]
        simp
    · cases length
  complete := by
    rintro w rest ⟨body, rfl, isBody⟩
    have found := stringRest_body isBody rest
    rw [List.cons_append, List.cons_append, List.append_assoc, List.singleton_append,
      Lexeme.string, if_pos rfl, found]
    simp
  starts := by
    rintro w rest ⟨body, rfl, -⟩
    exact ⟨'"', _, rfl, by decide, by decide⟩

end Lexeme

end CellWalk.Assembly
