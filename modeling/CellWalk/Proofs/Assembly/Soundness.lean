import CellWalk.Proofs.Assembly.Tokens

/-!
# What the reader accepts

Whatever is read and can be interpreted is spelled by the text that it was read from
(`spells_of_parse`). Every reader of a part is shown to leave the text after a piece that the grammar
gives the same meaning; nothing has to be known here of the text that follows.
-/

namespace CellWalk.Assembly
set_option autoImplicit false
open Grammar

/-! Steps of readers and of interpretations. -/

theorem Reader.bind_eq_ok_iff {α β : Type} {r : Reader α} {f : α → Reader β} {t rest : Text} {b : β} :
    (r >>= f) t = .ok (b, rest) ↔ ∃ a mid, r t = .ok (a, mid) ∧ f a mid = .ok (b, rest) := by
  change (r t >>= fun p => f p.1 p.2) = _ ↔ _
  cases r t with
  | error e => simp [bind, Except.bind]
  | ok p => simp [bind, Except.bind, Prod.ext_iff]

theorem Reader.pure_eq_ok_iff {α : Type} {a b : α} {t rest : Text} :
    (pure a : Reader α) t = .ok (b, rest) ↔ a = b ∧ t = rest := by
  change Except.ok (a, t) = .ok (b, rest) ↔ _
  simp

theorem bind_eq_ok_iff {α β : Type} {x : Interpreted α} {f : α → Interpreted β} {b : β} :
    (x >>= f) = .ok b ↔ ∃ a, x = .ok a ∧ f a = .ok b := by
  cases x with
  | error e => simp [bind, Except.bind]
  | ok a => simp [bind, Except.bind]

theorem pure_eq_ok_iff {α : Type} {a b : α} : (pure a : Interpreted α) = .ok b ↔ a = b := by
  simp [pure, Except.pure]

/-- A list is interpreted exactly if each of its members is. -/
theorem mapM_eq_ok_iff {α β : Type} {f : α → Interpreted β} {xs : List α} {ys : List β} :
    xs.mapM f = .ok ys ↔ List.Forall₂ (fun x y => f x = .ok y) xs ys := by
  induction xs generalizing ys with
  | nil =>
    rw [List.mapM_nil, pure_eq_ok_iff, List.forall₂_nil_left_iff, eq_comm]
  | cons x xs ih =>
    simp only [List.mapM_cons, bind_eq_ok_iff, pure_eq_ok_iff, ih, List.forall₂_cons_left_iff]
    constructor
    · rintro ⟨y, first, ys, rest, rfl⟩
      exact ⟨y, ys, first, rest, rfl⟩
    · rintro ⟨y, ys, first, rest, rfl⟩
      exact ⟨y, first, ys, rest, rfl⟩

theorem token_eq_ok_iff {lexeme : Lexeme} {t rest : Text} {tok : Token} :
    token lexeme t = .ok (tok, rest) ↔ nextToken lexeme t = some (tok, rest) := by
  unfold token
  cases nextToken lexeme t with
  | none => simp
  | some found => simp

theorem token?_eq_ok_iff {lexeme : Lexeme} {t rest : Text} {found : Option Token} :
    token? lexeme t = .ok (found, rest) ↔
      (∃ tok, nextToken lexeme t = some (tok, rest) ∧ found = some tok) ∨
        (nextToken lexeme t = none ∧ found = none ∧ rest = t) := by
  unfold token?
  cases nextToken lexeme t with
  | none => simp [eq_comm]
  | some next => simp [Prod.ext_iff, eq_comm, and_comm]

/-- A mark comes next exactly if the reader finds it. -/
theorem comes_mark_iff {c : Char} {text : String} (spelled : text.toList = [c]) (visible : Visible c)
    {t rest : Text} :
    Comes (fixed text) t rest ↔ ∃ tok, nextToken (.mark c) t = some (tok, rest) :=
  comes_fixed_iff spelled visible

/-! Parts of a cell. -/

/-- What is read as an operand is spelled as one; nothing is read as an omitted one. -/
theorem operand_of_readOperand {t rest : Text} {form : Option OperandForm} {value mode : UInt8}
    (read : readOperand t = .ok (form, rest)) (means : interpretOperand form = .ok (value, mode)) :
    Operand folded t value mode rest := by
  simp only [readOperand, Reader.bind_eq_ok_iff] at read
  obtain ⟨hash, a, first, read⟩ := read
  rcases token?_eq_ok_iff.1 first with ⟨tok, found, rfl⟩ | ⟨-, rfl, rfl⟩
  · simp only [Reader.bind_eq_ok_iff, Reader.pure_eq_ok_iff, token_eq_ok_iff] at read
    obtain ⟨number, _, next, rfl, rfl⟩ := read
    simp only [interpretOperand, OperandForm.interpret, bind_eq_ok_iff, pure_eq_ok_iff,
      Prod.mk.injEq] at means
    obtain ⟨v, byte, rfl, rfl⟩ := means
    exact .immediate ((comes_mark_iff rfl (by decide)).2 ⟨tok, found⟩)
      (comes_byte_iff.2 ⟨number, next, byte⟩)
  simp only [Reader.bind_eq_ok_iff] at read
  obtain ⟨sign, b, second, read⟩ := read
  rcases token?_eq_ok_iff.1 second with ⟨tok, found, rfl⟩ | ⟨-, rfl, rfl⟩
  · simp only [Reader.bind_eq_ok_iff, Reader.pure_eq_ok_iff, token_eq_ok_iff] at read
    obtain ⟨number, _, next, rfl, rfl⟩ := read
    simp only [interpretOperand, OperandForm.interpret, bind_eq_ok_iff, pure_eq_ok_iff,
      Prod.mk.injEq] at means
    obtain ⟨v, byte, rfl, rfl⟩ := means
    exact .address ((comes_mark_iff rfl (by decide)).2 ⟨tok, found⟩)
      (comes_byte_iff.2 ⟨number, next, byte⟩)
  simp only [Reader.bind_eq_ok_iff, Reader.pure_eq_ok_iff] at read
  obtain ⟨register, _, third, rfl, rfl⟩ := read
  rcases token?_eq_ok_iff.1 third with ⟨tok, found, rfl⟩ | ⟨-, rfl, rfl⟩
  · simp only [Option.map_some, interpretOperand, OperandForm.interpret, bind_eq_ok_iff,
      pure_eq_ok_iff, Prod.mk.injEq] at means
    obtain ⟨r, named, rfl, rfl⟩ := means
    exact .register (comes_register_iff.2 ⟨tok, found, named⟩)
  · simp only [Option.map_none, interpretOperand, pure_eq_ok_iff, Prod.mk.injEq] at means
    obtain ⟨rfl, rfl⟩ := means
    exact .omitted _

/-- What is read as a mask is spelled as one. -/
theorem mask_of_readMask {t rest : Text} {form : Option (Option Token)}
    (read : readMask t = .ok (form, rest)) : Mask t (interpretMask form) rest := by
  simp only [readMask, Reader.bind_eq_ok_iff] at read
  obtain ⟨opening, a, first, read⟩ := read
  rcases token?_eq_ok_iff.1 first with ⟨tok, found, rfl⟩ | ⟨-, rfl, rfl⟩
  · simp only [Reader.bind_eq_ok_iff, Reader.pure_eq_ok_iff, token_eq_ok_iff] at read
    obtain ⟨inside, b, second, closing, _, third, rfl, rfl⟩ := read
    have opens : Comes (fixed "[") t a := (comes_mark_iff rfl (by decide)).2 ⟨tok, found⟩
    have closes : Comes (fixed "]") b _ := (comes_mark_iff rfl (by decide)).2 ⟨closing, third⟩
    rcases token?_eq_ok_iff.1 second with ⟨tok', found', rfl⟩ | ⟨-, rfl, rfl⟩
    · obtain ⟨-, run, -⟩ := (nextToken_iff takes_directions).1 found'
      obtain ⟨ds, forms⟩ := exists_directions run.2.1
      rw [interpretMask, mask_of_forms forms]
      exact .some opens (comes_letters_iff.2 ⟨tok', found', forms⟩) closes
    · exact .empty opens closes
  · simp only [Reader.pure_eq_ok_iff] at read
    obtain ⟨rfl, rfl⟩ := read
    exact .omitted _

/-- What is read as a record is spelled as one. -/
theorem record_of_readRecord {t rest : Text} {form : RecordForm} {record : Instruction}
    (read : readRecord t = .ok (form, rest)) (means : form.interpret = .ok record) :
    Record folded t record rest := by
  simp only [readRecord, Reader.bind_eq_ok_iff] at read
  obtain ⟨raw, a, first, read⟩ := read
  rcases token?_eq_ok_iff.1 first with ⟨tok, found, rfl⟩ | ⟨-, rfl, rfl⟩
  · simp only [Reader.bind_eq_ok_iff, Reader.pure_eq_ok_iff, token_eq_ok_iff] at read
    obtain ⟨opcode, b, one, operand, c, two, mode, d, three, dirs, _, four, rfl, rfl⟩ := read
    simp only [RecordForm.interpret, bind_eq_ok_iff, pure_eq_ok_iff] at means
    obtain ⟨_, isOpcode, _, isOperand, _, isMode, _, isDirs, rfl⟩ := means
    exact .raw (comes_rawBytes_iff.2 ⟨tok, found⟩) (comes_byte_iff.2 ⟨_, one, isOpcode⟩)
      (comes_byte_iff.2 ⟨_, two, isOperand⟩) (comes_byte_iff.2 ⟨_, three, isMode⟩)
      (comes_byte_iff.2 ⟨_, four, isDirs⟩)
  · simp only [Reader.bind_eq_ok_iff, Reader.pure_eq_ok_iff, token_eq_ok_iff] at read
    obtain ⟨opcode, a, named, operand, b, readsOperand, mask, _, readsMask, rfl, rfl⟩ := read
    simp only [RecordForm.interpret, bind_eq_ok_iff, pure_eq_ok_iff] at means
    obtain ⟨⟨value, mode⟩, isOperand, o, isOpcode, rfl⟩ := means
    exact .instruction (comes_opcode_iff.2 ⟨opcode, named, isOpcode⟩)
      (operand_of_readOperand readsOperand isOperand) (mask_of_readMask readsMask)

/-- A position is told at its first number. -/
theorem located_of_readPosition {t a rest : Text} {first : Token} {form : PositionForm}
    {position : Position} (found : nextToken .number t = some (first, a))
    (read : readPosition first a = .ok (form, rest)) (means : form.interpret = .ok position) :
    Located t position form.first.left rest := by
  simp only [readPosition, Reader.bind_eq_ok_iff] at read
  obtain ⟨comma, b, second, read⟩ := read
  rcases token?_eq_ok_iff.1 second with ⟨tok, sign, rfl⟩ | ⟨-, rfl, rfl⟩
  · simp only [Reader.bind_eq_ok_iff, Reader.pure_eq_ok_iff, token_eq_ok_iff] at read
    obtain ⟨col, _, next, rfl, rfl⟩ := read
    simp only [PositionForm.interpret, bind_eq_ok_iff, pure_eq_ok_iff] at means
    obtain ⟨_, isRow, _, isCol, rfl⟩ := means
    exact .grid (comesAt_number_iff.2 ⟨first, found, isRow, rfl⟩)
      ((comes_mark_iff rfl (by decide)).2 ⟨tok, sign⟩) (comes_number_iff.2 ⟨col, next, isCol⟩)
  · simp only [Reader.pure_eq_ok_iff] at read
    obtain ⟨rfl, rfl⟩ := read
    simp only [PositionForm.interpret, bind_eq_ok_iff, pure_eq_ok_iff] at means
    obtain ⟨_, isIndex, rfl⟩ := means
    exact .flat (comesAt_number_iff.2 ⟨first, found, isIndex, rfl⟩)

/-! Statements. -/

theorem phrase_of_readCell [CharacterNames] {t rest : Text} {form : Form} {s : Statement}
    (read : readCell t = .ok (form, rest)) (means : form.interpret = .ok s) :
    Phrase folded t s rest := by
  simp only [readCell, Reader.bind_eq_ok_iff, Reader.pure_eq_ok_iff, token_eq_ok_iff] at read
  obtain ⟨first, a, found, position, b, located, colon, c, sign, record, _, held, rfl, rfl⟩ := read
  simp only [Form.interpret, bind_eq_ok_iff, pure_eq_ok_iff] at means
  obtain ⟨_, isPosition, _, isRecord, rfl⟩ := means
  exact .cell (located_of_readPosition found located isPosition)
    ((comes_mark_iff rfl (by decide)).2 ⟨colon, sign⟩) (record_of_readRecord held isRecord)

/-- The values that are read are spelled, and end where they end. -/
theorem values_of_stackValues (t : Text) {vs : List UInt8}
    (means : (stackValues t).1.mapM Token.byte = .ok vs) : Values t vs (stackValues t).2 := by
  fun_induction stackValues t generalizing vs with
  | case1 t none =>
    rw [List.mapM_nil, pure_eq_ok_iff] at means
    subst means
    exact .nil t
  | case2 t value rest found position =>
    rw [List.mapM_nil, pure_eq_ok_iff] at means
    subst means
    exact .nil t
  | case3 t value rest found notPosition shorter values rest' e ih =>
    rw [e] at ih
    simp only [List.mapM_cons, bind_eq_ok_iff, pure_eq_ok_iff] at means
    obtain ⟨v, isByte, more, areBytes, rfl⟩ := means
    exact .cons (comes_byte_iff.2 ⟨value, found, isByte⟩) (ih areBytes)

/-- The stack takes no more values than it has slots. -/
theorem interpretStack_eq_ok_iff {toks : List Token} {vs : List UInt8} :
    interpretStack toks = .ok vs ↔ toks.mapM Token.byte = .ok vs ∧ vs.length ≤ stackSlots := by
  unfold interpretStack
  split
  · rename_i tok found
    have long : stackSlots < toks.length := (List.getElem?_eq_some_iff.1 found).1
    simp only [throw, throwThe, MonadExceptOf.throw, reduceCtorEq, false_iff, not_and, Nat.not_le]
    intro bytes
    rwa [← (mapM_eq_ok_iff.1 bytes).length_eq]
  · rename_i none
    have short : toks.length ≤ stackSlots := List.getElem?_eq_none_iff.1 none
    refine ⟨fun bytes => ⟨bytes, ?_⟩, And.left⟩
    rwa [← (mapM_eq_ok_iff.1 bytes).length_eq]

theorem takes_keyword (k : Keyword) :
    (Lexeme.fixed k.word).Takes fun w _ => w = Text.ofChars k.word := by
  have dot : Visible '.' := by decide
  cases k <;> exact Lexeme.takes_fixed _ dot

/-- The keyword that is found stands at the start of the text behind layout. -/
theorem layout_of_nextKeyword {t rest : Text} {k : Keyword} (found : nextKeyword t = some (k, rest)) :
    Layout t (Text.ofChars k.word ++ rest) := by
  obtain ⟨k', -, first⟩ := List.exists_of_findSome?_eq_some found
  obtain ⟨⟨tok, rest'⟩, next, e⟩ := Option.map_eq_some_iff.1 first
  cases e
  obtain ⟨layout, isWord, -⟩ := (nextToken_iff (takes_keyword k)).1 next
  rwa [isWord] at layout

theorem comes_keyword {t rest : Text} {k : Keyword} {text : String}
    (found : nextKeyword t = some (k, rest)) (spelled : text.toList = k.word) : Comes (fixed text) t rest :=
  ⟨_, layout_of_nextKeyword found, by rw [fixed, Text.ofString, spelled]⟩

/-- What follows a keyword is spelled as it is read. -/
theorem phrase_of_readArguments [CharacterNames] {t a rest : Text} {k : Keyword} {form : Form} {s : Statement}
    (found : nextKeyword t = some (k, a)) (read : readArguments k a = .ok (form, rest))
    (means : form.interpret = .ok s) : Phrase folded t s rest := by
  cases k with
  | id =>
    simp only [readArguments, Reader.bind_eq_ok_iff, Reader.pure_eq_ok_iff, token_eq_ok_iff] at read
    obtain ⟨tok, _, next, rfl, rfl⟩ := read
    simp only [Form.interpret, pure_eq_ok_iff] at means
    subst means
    exact .id (comes_keyword found rfl) (comes_name_iff.2 ⟨tok, next, rfl⟩)
  | cycles =>
    simp only [readArguments, Reader.bind_eq_ok_iff, Reader.pure_eq_ok_iff, token_eq_ok_iff] at read
    obtain ⟨gold, _, one, silver, _, two, bronze, _, three, rfl, rfl⟩ := read
    simp only [Form.interpret, bind_eq_ok_iff, pure_eq_ok_iff] at means
    obtain ⟨_, isGold, _, isSilver, _, isBronze, rfl⟩ := means
    exact .cycles (comes_keyword found rfl) (comes_number_iff.2 ⟨gold, one, isGold⟩)
      (comes_number_iff.2 ⟨silver, two, isSilver⟩) (comes_number_iff.2 ⟨bronze, three, isBronze⟩)
  | label =>
    simp only [readArguments, Reader.bind_eq_ok_iff, Reader.pure_eq_ok_iff, token_eq_ok_iff] at read
    obtain ⟨tok, _, next, rfl, rfl⟩ := read
    simp only [Form.interpret] at means
    split at means
    · rename_i label decoded
      cases means
      exact .label (comes_keyword found rfl) (comes_string_iff.2 ⟨tok, next, decoded⟩)
    · cases means
  | register =>
    simp only [readArguments, Reader.bind_eq_ok_iff, Reader.pure_eq_ok_iff, token_eq_ok_iff] at read
    obtain ⟨tok, _, named, value, _, next, rfl, rfl⟩ := read
    simp only [Form.interpret, bind_eq_ok_iff] at means
    obtain ⟨r, isRegister, means⟩ := means
    split at means
    · simp [bind_eq_ok_iff] at means
    · rename_i stack
      simp only [bind_eq_ok_iff, pure_eq_ok_iff] at means
      obtain ⟨_, isByte, rfl⟩ := means
      exact .register (comes_keyword found rfl)
        (comesAt_register_iff.2 ⟨tok, named, isRegister, rfl⟩) stack
        (comes_byte_iff.2 ⟨value, next, isByte⟩)
  | stack =>
    simp only [readArguments, Except.ok.injEq, Prod.mk.injEq] at read
    obtain ⟨rfl, rfl⟩ := read
    simp only [Form.interpret, bind_eq_ok_iff, pure_eq_ok_iff] at means
    obtain ⟨vs, areBytes, rfl⟩ := means
    obtain ⟨areBytes, few⟩ := interpretStack_eq_ok_iff.1 areBytes
    exact .stack (comes_keyword found rfl) (values_of_stackValues a areBytes) few
  | byte =>
    simp only [readArguments, Reader.bind_eq_ok_iff, Reader.pure_eq_ok_iff, token_eq_ok_iff] at read
    obtain ⟨offset, _, first, value, _, next, rfl, rfl⟩ := read
    simp only [Form.interpret, bind_eq_ok_iff, pure_eq_ok_iff] at means
    obtain ⟨_, isOffset, _, isByte, rfl⟩ := means
    exact .byte (comes_keyword found rfl) (comesAt_number_iff.2 ⟨offset, first, isOffset, rfl⟩)
      (comes_byte_iff.2 ⟨value, next, isByte⟩)

/-- A statement that is read and means something is spelled. -/
theorem phrase_of_readForm [CharacterNames] {t rest : Text} {form : Form} {s : Statement}
    (read : readForm t = .ok (form, rest)) (means : form.interpret = .ok s) :
    Phrase folded t s rest := by
  unfold readForm at read
  split at read
  · rename_i k a found
    exact phrase_of_readArguments found read means
  · exact phrase_of_readCell read means

/-- The statements that are read one after the other are spelled one after the other. -/
theorem spells_of_readForms [CharacterNames] (t : Text) {forms : List Form} {ss : List Statement}
    (read : readForms t = .ok forms) (means : forms.mapM Form.interpret = .ok ss) :
    Spells folded t ss := by
  fun_induction readForms t generalizing forms ss with
  | case1 t empty =>
    cases read
    rw [List.mapM_nil, pure_eq_ok_iff] at means
    subst means
    exact .done (layout_nil_iff.2 (List.isEmpty_iff.1 empty))
  | case2 t more e failed => cases read
  | case3 t more form rest found shorter ih =>
    cases later : readForms rest with
    | error e =>
      rw [later] at read
      cases read
    | ok forms' =>
      rw [later] at read
      cases read
      simp only [List.mapM_cons, bind_eq_ok_iff, pure_eq_ok_iff] at means
      obtain ⟨s, isStatement, ss', areStatements, rfl⟩ := means
      exact .cons (phrase_of_readForm found isStatement) (ih later areStatements)

/-- A text that is read spells what it is read as. -/
theorem spells_of_parse [CharacterNames] {t : Text} {ss : List Statement} (h : parse t = .ok ss) :
    Spells folded t ss := by
  unfold parse at h
  split at h
  · cases h
  · rename_i forms read
    split at h
    · cases h
    · rename_i means
      cases h
      exact spells_of_readForms t read means

end CellWalk.Assembly
