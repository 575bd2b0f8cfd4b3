import CellWalk.Proofs.Assembly.Continuations

/-!
# Where syntax errors are told

A syntax error is told at the first lexeme that may not come next, or at the end of a text that stops too
early: what stands before can be completed, and with what stands there it cannot (`syntax_error_place`). There
is one exception. If a string on the same line has a semicolon, the rest of the line counts as a comment as far
as the place goes, and the error is told further on, maybe behind a text that nothing completes
(`semicolon_misplaces_error`).
-/

namespace CellWalk.Assembly
set_option autoImplicit false
open Grammar

variable {text t : Text} {place : Place} {e : Unexpected}

/-- The text is refused for a lexeme that may not come next, and told to be at the place. -/
def SyntaxError [CharacterNames] (text : Text) (place : Place) : Prop :=
  ∃ context, parse text = .error (.refused (.unexpected context) place)

/-- Some continuation of the text has no syntax error. -/
def Completable [CharacterNames] (t : Text) : Prop := ∃ more, ∀ place, ¬SyntaxError (t ++ more) place

/-- How much of the text is left where the error is told. -/
def toldLeft (text : Text) (e : Unexpected) : Nat :=
  (giveUp (commentAhead text e.left) (text.drop (text.length - e.left))).length

/-- A syntax error is one of reading. -/
theorem syntaxError_iff [CharacterNames] : SyntaxError text place ↔ ∃ e, readForms text = .error e ∧
    place = if toldLeft text e = 0 then .atEnd else .of text (toldLeft text e) := by
  unfold SyntaxError parse
  cases read : readForms text with
  | error e =>
    constructor
    · rintro ⟨context, same⟩
      cases same
      exact ⟨e, rfl, rfl⟩
    · rintro ⟨_, same, rfl⟩
      cases same
      exact ⟨_, rfl⟩
  | ok forms =>
    constructor
    · rintro ⟨context, failed⟩
      cases meant : forms.mapM Form.interpret with
      | ok ss =>
        simp only [meant] at failed
        cases failed
      | error fault =>
        simp only [meant] at failed
        cases fault with
        | refused refusal left =>
          cases failed
          -- only reading finds an unexpected lexeme
          rcases (interprets_forms read).fails _ meant with ⟨_, _, same, other⟩ | ⟨⟨c, tok⟩, -, nothing⟩
          · cases same
            exact absurd rfl (other context)
          · cases nothing
        | label | tooManyDigits | unknownName | size | stackOutside => cases failed
    · rintro ⟨_, same, -⟩
      cases same

/-- A text that is read, with more behind it, can be completed. -/
theorem completable_of_readForms [CharacterNames] {more : Text} {forms : List Form}
    (read : readForms (t ++ more) = .ok forms) : Completable t := by
  refine ⟨more, fun place wrong => ?_⟩
  obtain ⟨e, failed, -⟩ := syntaxError_iff.1 wrong
  rw [read] at failed
  cases failed

/-- A text that cannot be read whatever comes behind it cannot be completed. -/
theorem not_completable_of_readForms [CharacterNames]
    (fails : ∀ more, ∃ e, readForms (t ++ more) = .error e) : ¬Completable t := by
  rintro ⟨more, completed⟩
  obtain ⟨e, failed⟩ := fails more
  exact completed _ (syntaxError_iff.2 ⟨e, failed, rfl⟩)

/-! From where an error is found to where it is told. -/

theorem layoutLength_le (t : Text) : layoutLength t ≤ t.length := by
  cases t with
  | nil => exact Nat.le_refl _
  | cons p t =>
    rw [layoutLength]
    split
    · exact Nat.succ_le_succ (List.takeWhile_prefix _).length_le
    · split
      · exact Nat.succ_le_succ (List.takeWhile_prefix _).length_le
      · exact Nat.zero_le _

theorem layoutLength_of_trimmed (isTrimmed : trimLayout t = t) : layoutLength t = 0 := by
  cases t with
  | nil => rfl
  | cons p t =>
    obtain ⟨noBlank, noComment⟩ := visible_of_trimmed isTrimmed
    rw [layoutLength, noBlank, if_neg Bool.false_ne_true, if_neg noComment]

/-- The place that is told is the fault's or one behind it. -/
theorem giveUp_suffix (ahead : Nat) (t : Text) : giveUp ahead t <:+ t := by
  induction t generalizing ahead with
  | nil => exact List.suffix_rfl
  | cons p t ih =>
    simp only [giveUp]
    split
    · exact List.suffix_rfl
    · exact (ih _).trans (List.suffix_cons p t)

/-- No layout in the text reaches beyond it, so some of it is left. -/
theorem giveUp_ne_nil {ahead : Nat} (inside : ahead ≤ t.length) (nonempty : t ≠ []) :
    giveUp ahead t ≠ [] := by
  induction t generalizing ahead with
  | nil => exact absurd rfl nonempty
  | cons p t ih =>
    have reach := layoutLength_le (p :: t)
    rw [List.length_cons] at inside reach
    simp only [giveUp]
    split
    · exact List.cons_ne_nil p t
    · refine ih (by omega) fun empty => ?_
      subst empty
      rw [List.length_nil] at inside reach
      omega

/-- It is the fault's unless some layout seems to go on over the next code point. -/
theorem giveUp_eq_self_iff {ahead : Nat} (isTrimmed : trimLayout t = t) (nonempty : t ≠ []) :
    giveUp ahead t = t ↔ ahead ≤ 1 := by
  have noLayout := layoutLength_of_trimmed isTrimmed
  cases t with
  | nil => exact absurd rfl nonempty
  | cons p t =>
    simp only [giveUp, noLayout, Nat.max_zero]
    split
    · simpa
    · rename_i far
      refine iff_of_false (fun same => ?_) far
      have shorter := (giveUp_suffix (ahead - 1) t).length_le
      rw [same, List.length_cons] at shorter
      omega

/-- How far a comment is taken to go on that seems to start before, on the same line. -/
def seemingComment (before after : Text) : Nat :=
  if (';' : CodePoint) ∈ Text.lastLine before then (Text.firstLine after).length else 0

/-- What seems to be a comment is in the text. -/
theorem seemingComment_le (before after : Text) : seemingComment before after ≤ after.length := by
  unfold seemingComment
  split
  · exact (List.takeWhile_prefix _).length_le
  · exact Nat.zero_le _

/-- Only what seems to be a comment, begun before the fault, is taken for such layout. -/
theorem toldLeft_append {before after : Text} (size : after.length = e.left) :
    toldLeft (before ++ after) e = (giveUp (seemingComment before after) after).length := by
  have position : (before ++ after).length - e.left = before.length := by
    rw [List.length_append, ← size, Nat.add_sub_cancel]
  simp only [toldLeft, commentAhead, seemingComment, position, List.take_left, List.drop_left]

/-- Of the text from the error on, some is skipped just if a semicolon stands before on the line and more
than one code point is left of it; not all of it is. -/
theorem exists_told {before after : Text} (size : after.length = e.left)
    (isTrimmed : trimLayout after = after) (nonempty : after ≠ []) :
    ∃ skipped rest, after = skipped ++ rest ∧ rest ≠ [] ∧ toldLeft (before ++ after) e = rest.length ∧
      (skipped ≠ [] ↔ (';' : CodePoint) ∈ Text.lastLine before ∧ 1 < (Text.firstLine after).length) := by
  obtain ⟨skipped, whole⟩ := giveUp_suffix (seemingComment before after) after
  have left := giveUp_ne_nil (seemingComment_le before after) nonempty
  have here : giveUp (seemingComment before after) after = after ↔ seemingComment before after ≤ 1 :=
    giveUp_eq_self_iff isTrimmed nonempty
  refine ⟨skipped, _, whole.symm, left, toldLeft_append size, ?_⟩
  have same : skipped ≠ [] ↔ ¬seemingComment before after ≤ 1 := by
    rw [← here, not_iff_not]
    constructor
    · rintro rfl
      exact whole
    · intro all
      rw [all] at whole
      exact List.append_left_eq_self.1 whole
  rw [same, seemingComment]
  split
  · rename_i semicolon
    simp [semicolon]
  · rename_i noSemicolon
    simp [noSemicolon]

/-- An error is told at the end of a text that a line feed and more can complete; or else it is found where the
text before can be completed, but not with what stands there up to a blank. It is told right there, or further
on just if a semicolon stands before on the line and more than one code point is left of it. -/
theorem syntax_error_place [CharacterNames] (wrong : SyntaxError text place) :
    (place = .atEnd ∧ Completable (text ++ [Text.newline])) ∨
    ∃ before skipped rest, text = before ++ skipped ++ rest ∧ rest ≠ [] ∧ Completable before ∧
      (∀ x y, skipped ++ rest = x ++ y → x ≠ [] → (∀ p ∈ y.head?, p.isBlank = true) →
        ¬Completable (before ++ x ++ [Text.newline])) ∧
      (skipped ≠ [] ↔ (';' : CodePoint) ∈ Text.lastLine before ∧
        1 < (Text.firstLine (skipped ++ rest)).length) ∧
      place = ⟨1 + ((before ++ skipped).count Text.newline : Nat),
        1 + ((Text.lastLine (before ++ skipped)).length : Nat)⟩ := by
  obtain ⟨e, failed, rfl⟩ := syntaxError_iff.1 wrong
  obtain ⟨before, after, rfl, size, isTrimmed, ⟨more, forms, read⟩, stuck⟩ := exists_readsUpTo failed
  by_cases ended : after = []
  · subst ended
    have completed : readForms (before ++ [] ++ [Text.newline] ++ more) = .ok forms := by
      simpa using read
    exact .inl ⟨if_pos (toldLeft_append size), completable_of_readForms completed⟩
  · obtain ⟨skipped, rest, rfl, left, told, skips⟩ := exists_told size isTrimmed ended
    refine .inr ⟨before, skipped, rest, (List.append_assoc _ _ _).symm, left,
      completable_of_readForms read, fun x y whole nonempty blank => ?_, skips, ?_⟩
    · refine not_completable_of_readForms fun more => ?_
      simpa using stuck x y more whole nonempty blank
    · rw [told, if_neg (mt List.length_eq_zero_iff.1 left), ← Place.of_append, List.append_assoc]

/-- A statement with a semicolon in its string and the start of a cell; what should be its record starts with
a letter that none starts with. -/
def semicolonText : Text := Text.ofString ".label \"b;c\" 0: BA"

/-- No opcode begins like this, so nothing completes it. -/
theorem no_record_at_B (more : Text) :
    Stage.record.run (Text.ofString " BA" ++ more) = .error ⟨(Text.ofString "BA" ++ more).length⟩ := by
  have trimmed : trimLayout (Text.ofString " BA" ++ more) = Text.ofString "BA" ++ more := rfl
  have apart : ∀ u ∈ Lexeme.mnemonics, u.head?.any (Lexeme.isFormOf · 'B') = false := by decide
  have noMnemonic : nextToken .mnemonic (Text.ofString " BA" ++ more) = none := by
    refine nextToken_eq_none Lexeme.takes_mnemonic fun p w rest first isWord => ?_
    obtain ⟨⟨u, listed, forms⟩, -⟩ := isWord
    obtain rfl : ('B' : CodePoint) = p := Option.some.inj first
    cases forms with
    | cons form _ => exact absurd ((apart _ listed).symm.trans form) Bool.false_ne_true
  have noRaw : nextToken .rawBytes (Text.ofString " BA" ++ more) = none := rfl
  have stuck : step Stage.record.options (Text.ofString " BA" ++ more) = none := by
    simp [step, Stage.options, Terminal.lexeme, noMnemonic, noRaw]
  rw [Stage.run_eq, Fork.run, if_neg (by simp [Stage.fork, Stage.ends])]
  simp only [Stage.fork, stuck, trimmed]

theorem semicolonText_fails (more : Text) :
    readForms (semicolonText ++ more) = .error ⟨(Text.ofString "BA" ++ more).length⟩ := by
  have space {t : Text} : Layout ((' ' : CodePoint) :: t) t := .blank (by decide) (.none _)
  have label : (Stage.numbers 0).run (semicolonText ++ more) =
      Stage.string.run (Text.ofString " \"b;c\" 0: BA" ++ more) :=
    Stage.run_of_kind (c := .keyword .label) (by decide) (.none _) rfl
  have body : StringBody (Text.ofString "b;c") :=
    .plain (by decide) (by decide) (by decide) (.plain (by decide) (by decide) (by decide)
      (.plain (by decide) (by decide) (by decide) .nil))
  have string : Stage.string.run (Text.ofString " \"b;c\" 0: BA" ++ more) =
      (Stage.numbers 0).run (Text.ofString " 0: BA" ++ more) :=
    Stage.run_of_kind (c := .string) (w := Text.ofString "\"b;c\"") List.mem_cons_self space
      ⟨Text.ofString "b;c", rfl, body⟩
  have number : (Stage.numbers 0).run (Text.ofString " 0: BA" ++ more) =
      Stage.position.run (Text.ofString ": BA" ++ more) :=
    Stage.run_of_kind (c := .number) (w := Text.ofString "0") (by decide) space
      ⟨by decide, by decide, stops_cons (by decide) _⟩
  have colon : Stage.position.run (Text.ofString ": BA" ++ more) =
      Stage.record.run (Text.ofString " BA" ++ more) :=
    Stage.run_of_kind (c := .mark .colon) (by decide) (.none _) rfl
  exact readForms_eq_error_iff.2
    (label.trans (string.trans (number.trans (colon.trans (no_record_at_B more)))))

theorem syntax_error_of_semicolonText :
    SyntaxError (semicolonText ++ Text.ofString "D") ⟨1, 19⟩ ∧
      ∃ before skipped rest, semicolonText ++ Text.ofString "D" = before ++ skipped ++ rest ∧
        rest ≠ [] ∧ Completable before ∧
        ¬Completable (before ++ (skipped ++ rest) ++ [Text.newline]) := by
  have wrong : SyntaxError (semicolonText ++ Text.ofString "D") ⟨1, 19⟩ :=
    ⟨Text.ofString ".label \"b;c\" 0: BAD\n                  ^\n", by decide +kernel⟩
  refine ⟨wrong, ?_⟩
  rcases syntax_error_place wrong with
    ⟨atEnd, -⟩ | ⟨before, skipped, rest, whole, left, completed, stuck, -⟩
  · exact absurd atEnd (by decide)
  · refine ⟨before, skipped, rest, whole, left, completed, ?_⟩
    exact stuck _ [] (List.append_nil _).symm (List.append_ne_nil_of_right_ne_nil _ left) (by simp)

/-- The error is told behind a text that no continuation completes. -/
theorem semicolon_misplaces_error :
    SyntaxError (semicolonText ++ Text.ofString "D") ⟨1, 1 + semicolonText.length⟩ ∧
      Text.newline ∉ semicolonText ∧ ¬Completable semicolonText :=
  ⟨⟨Text.ofString ".label \"b;c\" 0: BAD\n                  ^\n", by decide +kernel⟩, by decide,
    not_completable_of_readForms fun more => ⟨_, semicolonText_fails more⟩⟩

end CellWalk.Assembly
