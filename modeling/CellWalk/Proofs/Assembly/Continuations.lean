import CellWalk.Proofs.Assembly.Stages
import CellWalk.Proofs.Assembly.Faults
import CellWalk.Proofs.Assembly.Lines
import Mathlib.Data.List.Pairwise

/-!
# Continuations of a text

A text that is read up to some place, and no further, has a continuation from there that is read to its end,
but none that keeps what stands there up to a blank (`exists_readsUpTo`). What stands before the place is
read the same way whatever comes behind it if that begins alike or with a line feed, for no lexeme and no
comment goes on over one (`run_cut`). And from every stage some lexemes lead to one where the text may end
(`Stage.canEnd`).
-/

namespace CellWalk.Assembly
set_option autoImplicit false
open Grammar

variable {s t u v w w' rest rest' more : Text} {q q' : Stage} {c c' : Terminal} {tok : Token}
  {options : List (Terminal × Stage)}

/-! At most one option comes next. -/

/-- At most one of the options comes next. -/
def Exclusive (options : List (Terminal × Stage)) : Prop :=
  options.Pairwise fun o o' => o.1.Apart o'.1

theorem exclusive_of_starts
    (differ : options.Pairwise fun o o' => ∀ p, o.1.Starts p → ¬o'.1.Starts p) : Exclusive options :=
  differ.imp Terminal.apart_of_starts

/-- A keyword's dot is no digit, so at most one option comes next. -/
theorem exclusive_statements (q : Stage) : Exclusive (Stage.statements q) := by
  have keywords : Keyword.all.Pairwise (· ≠ ·) := by decide
  refine List.pairwise_append.2 ⟨?_, List.pairwise_singleton _ _, ?_⟩
  · exact List.pairwise_map.2 (keywords.imp Terminal.apart_keywords)
  · intro o isKeyword o' isNumber
    obtain ⟨k, -, rfl⟩ := List.mem_map.1 isKeyword
    rw [List.mem_singleton.1 isNumber]
    refine Terminal.apart_of_starts fun p dot digit => ?_
    simp only [Terminal.Starts] at dot digit
    omega

/-- A lexeme that starts with neither a dot nor a digit does not come where a statement does. -/
theorem apart_statement {o : Terminal × Stage} (listed : o ∈ Stage.statements q)
    (other : ∀ p, c.Starts p → p.val < 46 ∨ p.val = 47 ∨ 57 < p.val) : c.Apart o.1 := by
  refine Terminal.apart_of_starts fun p first second => ?_
  have neither := other p first
  rcases List.mem_append.1 listed with isKeyword | isNumber
  · obtain ⟨k, -, rfl⟩ := List.mem_map.1 isKeyword
    simp only [Terminal.Starts] at second
    omega
  · rw [List.mem_singleton.1 isNumber] at second
    simp only [Terminal.Starts] at second
    omega

theorem exclusive_append
    (differ : options.Pairwise fun o o' => ∀ p, o.1.Starts p → ¬o'.1.Starts p)
    (others : ∀ o ∈ options, ∀ p, o.1.Starts p → p.val < 46 ∨ p.val = 47 ∨ 57 < p.val) :
    Exclusive (options ++ Stage.statements q) :=
  List.pairwise_append.2 ⟨exclusive_of_starts differ, exclusive_statements q,
    fun o listed _ listed' => apart_statement listed' (others o listed)⟩

/-- No stage has two options that could come next. -/
theorem exclusive_options (q : Stage) : Exclusive q.options := by
  cases q with
  | numbers k =>
    cases k with
    | zero => exact exclusive_statements .position
    | succ k => exact List.pairwise_singleton _ _
  | values => exact exclusive_statements .value
  | name | string | register | column | colon | amount | closing => exact List.pairwise_singleton _ _
  | position | record | directions =>
    refine exclusive_of_starts ?_
    simp [Stage.options, Terminal.Starts, Mark.char] <;> omega
  | value | operand =>
    refine exclusive_append ?_ ?_
    all_goals
      simp only [List.pairwise_cons, List.forall_mem_cons, Terminal.Starts, Mark.char, Char.reduceToNat]
      grind
  | mask =>
    have marked : Exclusive ([(.mark .opening, .directions)] ++ Stage.statements .position) := by
      refine exclusive_append (List.pairwise_singleton _ _) ?_
      simp [Terminal.Starts, Mark.char]
      omega
    exact marked

/-- So the option that comes next is taken. -/
theorem step_of_option (exclusive : Exclusive options)
    (listed : (c, q) ∈ options) (found : nextToken c.lexeme t = some (tok, rest)) :
    step options t = some (q, rest) := by
  cases taken : step options t with
  | none =>
    have missing := List.findSome?_eq_none_iff.1 taken _ listed
    rw [found] at missing
    cases missing
  | some next =>
    obtain ⟨q', rest'⟩ := next
    obtain ⟨c', tok', listed', found'⟩ := exists_of_step taken
    by_cases same : (c, q) = (c', q')
    · obtain ⟨rfl, rfl⟩ := Prod.mk.inj same
      rw [found] at found'
      obtain ⟨-, rfl⟩ := Prod.mk.inj (Option.some.inj found')
      rfl
    · have symmetric : Std.Symm fun o o' : Terminal × Stage => o.1.Apart o'.1 :=
        ⟨fun _ _ => Std.Symm.symm _ _⟩
      have isKind := ((nextToken_iff c.takes).1 found).2.1
      have isKind' := ((nextToken_iff c'.takes).1 found').2.1
      refine absurd ?_ (exclusive.forall listed listed' same _ _ _ _ isKind isKind')
      rw [← trimLayout_of_token found, trimLayout_of_token found']

/-- An option that comes next is the one that is taken. -/
theorem Stage.run_of_option (listed : (c, q') ∈ q.options)
    (found : nextToken c.lexeme t = some (tok, rest)) : q.run t = q'.run rest := by
  rw [q.run_eq]
  exact Fork.run_of_step (step_of_option (exclusive_options q) listed found)

theorem Stage.run_of_kind (listed : (c, q') ∈ q.options) (layout : Layout t (w ++ rest))
    (isKind : c.kind w rest) : q.run t = q'.run rest := by
  have found : nextToken c.lexeme t = some (⟨w, (w ++ rest).length⟩, rest) :=
    (nextToken_iff c.takes).2 ⟨layout, isKind, rfl⟩
  exact run_of_option listed found

/-- Layout does not decide between options. -/
theorem step_congr (same : trimLayout t = trimLayout u) : step options t = step options u := by
  have tokens : ∀ lexeme, nextToken lexeme t = nextToken lexeme u := by
    intro lexeme
    rw [nextToken, nextToken, same]
  simp only [step, tokens]

theorem Stage.run_congr (same : trimLayout t = trimLayout u) : q.run t = q.run u := by
  rw [q.run_eq, q.run_eq, Fork.run, Fork.run, same, step_congr same]

/-! The start of a text is read alike whatever line feed comes behind it. -/

/-- The text begins like the other one, or with a line feed. -/
def BeginsLike (t' t : Text) : Prop := t'.head? = t.head? ∨ t'.head? = some Text.newline

theorem BeginsLike.partsLike (like : BeginsLike rest' rest) : PartsLike rest' rest := by
  rcases like with same | feed
  · exact .inl same
  · refine .inr fun p first => ?_
    rw [feed] at first
    cases first
    exact isBlank_newline

theorem beginsLike_append (s : Text) {u v : Text} (like : BeginsLike v u) :
    BeginsLike (s ++ v) (s ++ u) := by
  cases s with
  | nil => exact like
  | cons p s => exact .inl rfl

/-- What follows layout can be exchanged for something that begins alike. -/
theorem Grammar.Layout.cut (layout : Layout (s ++ u) (rest ++ u)) (like : BeginsLike v u) :
    Layout (s ++ v) (rest ++ v) := by
  generalize whole : s ++ u = t at layout
  generalize left : rest ++ u = t' at layout
  induction layout generalizing s with
  | none =>
    obtain rfl := List.append_cancel_right (whole.trans left.symm)
    exact .none _
  | @blank p t₁ _ isBlank further ih =>
    obtain ⟨s₁, e⟩ := (left ▸ List.suffix_append rest u).trans further.suffix
    have start : s = p :: s₁ := List.append_cancel_right (whole.trans (congrArg (p :: ·) e.symm))
    rw [start]
    exact .blank isBlank (ih e left)
  | @comment body t₁ _ oneLine ends further ih =>
    obtain ⟨s₁, e⟩ := (left ▸ List.suffix_append rest u).trans further.suffix
    have same : s ++ u = (';' : CodePoint) :: (body ++ s₁) ++ u := by
      rw [whole, ← e, List.cons_append, List.append_assoc]
    rw [List.append_cancel_right same, List.cons_append, List.append_assoc]
    refine .comment oneLine (fun p first => ?_) (ih e left)
    rcases beginsLike_append s₁ like with alike | feed
    · exact ends p (by rw [← e, ← alike]; exact first)
    · rw [feed] at first
      cases first
      exact not_not.2 rfl

/-- And so can what follows a token. -/
theorem nextToken_cut (found : nextToken c.lexeme (s ++ u) = some (tok, rest ++ u))
    (like : BeginsLike v u) : ∃ tok', nextToken c.lexeme (s ++ v) = some (tok', rest ++ v) := by
  obtain ⟨layout, isKind, -⟩ := (nextToken_iff c.takes).1 found
  rw [← List.append_assoc] at layout
  have layout' := layout.cut like
  rw [List.append_assoc] at layout'
  have isKind' := Terminal.kind_of_partsLike isKind (beginsLike_append rest like).partsLike
  refine ⟨⟨tok.text, (tok.text ++ (rest ++ v)).length⟩, ?_⟩
  exact (nextToken_iff c.takes).2 ⟨layout', isKind', rfl⟩

/-- A run that fails stops at some stage, in front of a lexeme that may not come next. It would have got
there as well if the text had gone on with a line feed. -/
theorem Stage.run_cut {e : Unexpected} (failed : q.run t = .error e) :
    ∃ m s u, t = s ++ u ∧ trimLayout u = u ∧ u.length = e.left ∧ step (Stage.options m) u = none ∧
      ∀ v, BeginsLike v u → q.run (s ++ v) = Stage.run m v := by
  fun_induction Stage.run q t with
  | case1 => cases failed
  | case2 q t _ q' rest found _ ih =>
    obtain ⟨m, s, u, rfl, isTrimmed, size, stuck, goesOn⟩ := ih failed
    obtain ⟨c, tok, listed, comes⟩ := exists_of_step found
    obtain ⟨s₀, rfl⟩ := nextToken_suffix comes
    refine ⟨m, s₀ ++ s, u, (List.append_assoc _ _ _).symm, isTrimmed, size, stuck, fun v like => ?_⟩
    rw [← List.append_assoc] at comes
    obtain ⟨tok', comes'⟩ := nextToken_cut comes like
    rw [run_of_option listed comes', goesOn v like]
  | case3 q t _ missing =>
    cases failed
    have layout := layout_trimLayout t
    have again := (trimLayout_of_layout layout).symm
    obtain ⟨s, e⟩ := layout.suffix
    refine ⟨q, s, trimLayout t, e.symm, again, rfl, ?_, fun v like => ?_⟩
    · rwa [step_congr again]
    · have layout' : Layout (s ++ trimLayout t) ([] ++ trimLayout t) := by rwa [e]
      exact run_congr (trimLayout_of_layout (layout'.cut like))

/-! Where a run stops, no lexeme helps that ends with the next blank. -/

theorem visible_of_trimmed {p : CodePoint} (isTrimmed : trimLayout (p :: t) = p :: t) : Visible p := by
  have shorter := length_trimLayout_le t
  have noBlank : p.isBlank = false := by
    cases blank : p.isBlank with
    | false => rfl
    | true =>
      rw [trimLayout_blank blank] at isTrimmed
      rw [isTrimmed, List.length_cons] at shorter
      omega
  refine ⟨noBlank, ?_⟩
  rintro rfl
  have skipped := length_skipLayout_le true t
  have opens : trimLayout ((';' : CodePoint) :: t) = skipLayout true t := by
    rw [trimLayout, skipLayout]
    simp [noBlank]
  rw [← opens, isTrimmed, List.length_cons] at skipped
  omega

/-- If no option comes next, none does where the text is cut at a blank and goes on with a line feed. -/
theorem step_cut {x y : Text} (stuck : step options (x ++ y) = none)
    (isTrimmed : trimLayout (x ++ y) = x ++ y) (nonempty : x ≠ [])
    (blank : ∀ p ∈ y.head?, p.isBlank = true) (more : Text) :
    step options (x ++ Text.newline :: more) = none := by
  obtain ⟨p, x₀, rfl⟩ := List.exists_cons_of_ne_nil nonempty
  have visible : Visible p := visible_of_trimmed isTrimmed
  cases taken : step options (p :: x₀ ++ Text.newline :: more) with
  | none => rfl
  | some next =>
    obtain ⟨c, tok, listed, comes⟩ := exists_of_step taken
    have isKind := ((nextToken_iff c.takes).1 comes).2.1
    have trimmed := trimLayout_of_token comes
    rw [List.cons_append, trimLayout_visible visible, ← List.cons_append] at trimmed
    -- the lexeme has no line feed, so it is found within the text up to the blank
    obtain ⟨x₁, within, after⟩ : ∃ x₁, p :: x₀ = tok.text ++ x₁ ∧ next.2 = x₁ ++ Text.newline :: more := by
      rcases List.append_eq_append_iff.1 trimmed with ⟨w₁, longer, left⟩ | ⟨x₁, within, left⟩
      · cases w₁ with
        | nil => exact ⟨[], by simpa using longer.symm, left.symm⟩
        | cons r w₁ =>
          obtain ⟨rfl, -⟩ := List.cons.inj left
          exact absurd (longer ▸ List.mem_append_right _ List.mem_cons_self)
            (Terminal.newline_notMem isKind)
      · exact ⟨x₁, within, left⟩
    rw [after] at isKind
    have like : PartsLike (x₁ ++ y) (x₁ ++ Text.newline :: more) := by
      cases x₁ with
      | nil => exact .inr blank
      | cons r x₁ => exact .inl rfl
    have found : nextToken c.lexeme (p :: x₀ ++ y) =
        some (⟨tok.text, (tok.text ++ (x₁ ++ y)).length⟩, x₁ ++ y) := by
      refine (nextToken_iff c.takes).2 ⟨?_, Terminal.kind_of_partsLike isKind like, rfl⟩
      rw [within, List.append_assoc]
      exact .none _
    have missing := List.findSome?_eq_none_iff.1 stuck _ listed
    rw [found] at missing
    cases missing

/-- A stage at which no option comes next is a stage at which the run fails. -/
theorem Stage.run_stuck (stuck : step q.options t = none) (more : trimLayout t ≠ []) :
    q.run t = .error ⟨(trimLayout t).length⟩ := by
  rw [q.run_eq, Fork.run, if_neg fun both => more both.2]
  simp only [Stage.fork, stuck]

/-! From every stage the text can come to an end. -/

/-- Behind a line feed, something leads from the stage to the end of the text. -/
def Stage.CanEnd (q : Stage) : Prop := ∃ more, q.run (Text.newline :: more) = .ok ()

namespace Stage

/-- A text may end at once where the stage says so. -/
theorem canEnd_of_ends (mayEnd : q.ends = true) : q.CanEnd := by
  have empty : trimLayout [Text.newline] = [] := by decide
  exact ⟨[], by rw [run, if_pos ⟨mayEnd, empty⟩]⟩

/-- A lexeme that may come next leads to a stage that can end. -/
theorem canEnd_of_option (w : Text) (listed : (c, q') ∈ q.options)
    (isKind : ∀ more, c.kind w (Text.newline :: more)) (later : q'.CanEnd) : q.CanEnd := by
  obtain ⟨more, ended⟩ := later
  have layout : Layout (Text.newline :: (w ++ Text.newline :: more)) (w ++ Text.newline :: more) :=
    .blank isBlank_newline (.none _)
  exact ⟨_, (run_of_kind listed layout (isKind more)).trans ended⟩

theorem canEnd_of_number (listed : (.number, q') ∈ q.options) (later : q'.CanEnd) : q.CanEnd :=
  canEnd_of_option [('0' : CodePoint)] listed
    (fun more => ⟨by decide, by decide, stops_cons (by decide) more⟩) later

theorem canEnd_of_mark {m : Mark} (listed : (.mark m, q') ∈ q.options) (later : q'.CanEnd) :
    q.CanEnd :=
  canEnd_of_option _ listed (fun _ => rfl) later

theorem oneOf_ofChars {words : List (List Char)} {u : List Char} (listed : u ∈ words) (more : Text) :
    Lexeme.OneOf words (Text.ofChars u) (Text.newline :: more) :=
  ⟨⟨u, listed, (forall₂_ascii u).imp fun _ _ form => isFormOf_of_folded (.inl form)⟩,
    stops_cons (by decide) more⟩

theorem canEnd_numbers (k : Nat) : (numbers k).CanEnd := by
  induction k with
  | zero => exact canEnd_of_ends rfl
  | succ k ih => exact canEnd_of_number List.mem_cons_self ih

/-- Every stage can be brought to an end. -/
theorem canEnd (q : Stage) : q.CanEnd := by
  have record : record.CanEnd :=
    canEnd_of_option (c := .mnemonic) _ (by simp [options])
      (oneOf_ofChars (u := ['N', 'O', 'P']) (by decide)) (canEnd_of_ends (q := .operand) rfl)
  have colon : colon.CanEnd := canEnd_of_mark List.mem_cons_self record
  have closing : closing.CanEnd := canEnd_of_mark List.mem_cons_self (canEnd_numbers 0)
  cases q with
  | numbers k => exact canEnd_numbers k
  | values | value | operand | mask => exact canEnd_of_ends rfl
  | record => exact record
  | colon => exact colon
  | closing => exact closing
  | position => exact canEnd_of_mark (m := .colon) (by simp [options]) record
  | column => exact canEnd_of_number List.mem_cons_self colon
  | amount => exact canEnd_of_number List.mem_cons_self (canEnd_of_ends (q := .mask) rfl)
  | directions => exact canEnd_of_mark (m := .closing) (by simp [options]) (canEnd_numbers 0)
  | name =>
    exact canEnd_of_option [('a' : CodePoint)] List.mem_cons_self
      (fun more => ⟨by decide, by decide, stops_cons (by decide) more⟩) (canEnd_numbers 0)
  | string =>
    exact canEnd_of_option (Text.ofString "\"\"") List.mem_cons_self (fun _ => ⟨[], rfl, .nil⟩)
      (canEnd_numbers 0)
  | register =>
    exact canEnd_of_option _ List.mem_cons_self (oneOf_ofChars (u := ['I', 'P']) (by decide))
      (canEnd_numbers 1)

end Stage

/-- Reading a text stops in front of its end `u`. What stands before has a continuation behind a line feed, but
it has none where any of `u` stands behind it up to a blank. -/
structure ReadsUpTo (s u : Text) : Prop where
  isTrimmed : trimLayout u = u
  continued : ∃ more forms, readForms (s ++ Text.newline :: more) = .ok forms
  stuck : ∀ x y more, u = x ++ y → x ≠ [] → (∀ p ∈ y.head?, p.isBlank = true) →
    ∃ e, readForms (s ++ (x ++ Text.newline :: more)) = .error e

/-- Where reading fails there is a place up to which the text is read. -/
theorem exists_readsUpTo {e : Unexpected} (failed : readForms t = .error e) :
    ∃ s u, t = s ++ u ∧ u.length = e.left ∧ ReadsUpTo s u := by
  obtain ⟨m, s, u, whole, isTrimmed, size, stuck, goesOn⟩ :=
    Stage.run_cut (readForms_eq_error_iff.1 failed)
  refine ⟨s, u, whole, size, isTrimmed, ?_, ?_⟩
  · obtain ⟨more, ended⟩ := m.canEnd
    exact ⟨more, exists_readForms_iff.2 ((goesOn _ (.inr rfl)).trans ended)⟩
  · rintro x y more rfl nonempty blank
    have none := step_cut stuck isTrimmed nonempty blank more
    obtain ⟨p, x, rfl⟩ := List.exists_cons_of_ne_nil nonempty
    have visible : Visible p := visible_of_trimmed isTrimmed
    have left : trimLayout (p :: x ++ Text.newline :: more) ≠ [] := by
      rw [List.cons_append, trimLayout_visible visible]
      exact List.cons_ne_nil _ _
    have gotThere := goesOn (p :: x ++ Text.newline :: more) (.inl rfl)
    exact ⟨_, readForms_eq_error_iff.2 (gotThere.trans (Stage.run_stuck none left))⟩

end CellWalk.Assembly
