import CellWalk.Proofs.Assembly.Places
import CellWalk.Proofs.Assembly.Terminals

/-!
# The lexemes of forms

A form keeps the lexemes that it was read from, all but keywords and marks, and each stands for a class
(`Form.lexemes`). Whatever a reader keeps it has found in the text, behind layout and as a lexeme of its
class (`allIn_of_readForms`), so neither a comment nor the inside of a label is ever taken for one.
-/

namespace CellWalk.Assembly
set_option autoImplicit false

variable {text t rest : Text} {c : Terminal} {tok : Token}

/-! The lexemes of a text. -/

/-- What follows a lexeme is the end of the text. -/
theorem nextToken_suffix {lexeme : Lexeme} (found : nextToken lexeme t = some (tok, rest)) : rest <:+ t := by
  have trimmed := (layout_trimLayout t).suffix
  unfold nextToken at found
  split at found
  · cases found
  · rename_i p r e
    rw [e] at trimmed
    split at found
    · cases found
    · cases found
      exact (List.drop_suffix _ _).trans ((List.suffix_cons p r).trans trimmed)

/-- The token is found somewhere in the text as a lexeme of the class. -/
def Token.In (text : Text) (c : Terminal) (tok : Token) : Prop :=
  ∃ t rest, t <:+ text ∧ nextToken c.lexeme t = some (tok, rest)

/-- Such a token is of its class by the grammar. -/
theorem Token.In.kind (found : tok.In text c) : ∃ rest, c.kind tok.text rest := by
  obtain ⟨t, rest, -, next⟩ := found
  exact ⟨rest, ((nextToken_iff c.takes).1 next).2.1⟩

/-! The lexemes of a form, each with its class; keywords and marks are not kept. -/

def PositionForm.lexemes : PositionForm → List (Terminal × Token)
  | .flat index => [(.number, index)]
  | .grid row col => [(.number, row), (.number, col)]

def OperandForm.lexemes : OperandForm → List (Terminal × Token)
  | .immediate value | .address value => [(.number, value)]
  | .register name => [(.register, name)]

def RecordForm.lexemes : RecordForm → List (Terminal × Token)
  | .instruction opcode operand mask =>
    (.mnemonic, opcode) :: (operand.toList.flatMap OperandForm.lexemes ++
      mask.join.toList.map (.directions, ·))
  | .raw opcode operand mode dirs =>
    [(.number, opcode), (.number, operand), (.number, mode), (.number, dirs)]

def Form.lexemes : Form → List (Terminal × Token)
  | .id name => [(.name, name)]
  | .cycles gold silver bronze => [(.number, gold), (.number, silver), (.number, bronze)]
  | .label quoted => [(.string, quoted)]
  | .register name value => [(.register, name), (.number, value)]
  | .stack values => values.map (.number, ·)
  | .byte offset value => [(.number, offset), (.number, value)]
  | .cell position record => position.lexemes ++ record.lexemes

/-- All of the lexemes are found in the text, each in its class. -/
def AllIn (text : Text) (lexemes : List (Terminal × Token)) : Prop := ∀ l ∈ lexemes, l.2.In text l.1

@[simp] theorem allIn_nil : AllIn text [] := fun _ member => absurd member List.not_mem_nil

@[simp] theorem allIn_cons {l : Terminal × Token} {ls : List (Terminal × Token)} :
    AllIn text (l :: ls) ↔ l.2.In text l.1 ∧ AllIn text ls := List.forall_mem_cons

@[simp] theorem allIn_append {ls ls' : List (Terminal × Token)} :
    AllIn text (ls ++ ls') ↔ AllIn text ls ∧ AllIn text ls' := List.forall_mem_append

/-! What readers find. -/

/-- From any place of the text the reader gets something with the property, and stays in the text. -/
def Reader.Finds {α : Type} (text : Text) (P : α → Prop) (r : Reader α) : Prop :=
  ∀ t a rest, t <:+ text → r t = .ok (a, rest) → rest <:+ text ∧ P a

section finds
variable {α β : Type} {P : α → Prop} {Q : β → Prop}

theorem Reader.finds_pure {a : α} (holds : P a) : Finds text P (pure a) := by
  intro t b rest part read
  obtain ⟨rfl, rfl⟩ := Reader.pure_eq_ok_iff.1 read
  exact ⟨part, holds⟩

/-- What two readers find one after the other, the second with what the first has found. -/
theorem Reader.finds_bind {r : Reader α} {f : α → Reader β} (first : Finds text P r)
    (next : ∀ a, P a → Finds text Q (f a)) : Finds text Q (r >>= f) := by
  intro t b rest part read
  obtain ⟨a, mid, readFirst, readNext⟩ := Reader.bind_eq_ok_iff.1 read
  obtain ⟨part', holds⟩ := first t a mid part readFirst
  exact next a holds mid b rest part' readNext

end finds

theorem finds_token (c : Terminal) : (token c.lexeme).Finds text (·.In text c) := by
  intro t tok rest part read
  have found := token_eq_ok_iff.1 read
  exact ⟨(nextToken_suffix found).trans part, t, rest, part, found⟩

/-- A token that may be missing is found, or the text is as it was. -/
theorem finds_token? (c : Terminal) :
    (token? c.lexeme).Finds text fun found => AllIn text (found.toList.map (c, ·)) := by
  intro t found rest part read
  rcases token?_eq_ok_iff.1 read with ⟨tok, next, rfl⟩ | ⟨-, rfl, rfl⟩
  · refine ⟨(nextToken_suffix next).trans part, ?_⟩
    have here : tok.In text c := ⟨t, rest, part, next⟩
    simpa using here
  · exact ⟨part, allIn_nil⟩

/-- The number of the next cell is looked at and left in the text. -/
theorem finds_stackValues (part : t <:+ text) :
    (stackValues t).2 <:+ text ∧ AllIn text ((stackValues t).1.map (.number, ·)) := by
  fun_induction stackValues t with
  | case1 | case2 => exact ⟨part, allIn_nil⟩
  | case3 t value rest found _ _ values rest' e ih =>
    rw [e] at ih
    obtain ⟨part', all⟩ := ih ((nextToken_suffix found).trans part)
    have here : value.In text .number := ⟨t, rest, part, found⟩
    exact ⟨part', allIn_cons.2 ⟨here, all⟩⟩

/-- The sign of an operand is not kept, its number or name is. -/
theorem finds_readOperand :
    readOperand.Finds text fun form => AllIn text (form.toList.flatMap OperandForm.lexemes) := by
  refine Reader.finds_bind (finds_token? (.mark .hash)) fun hash _ => ?_
  cases hash with
  | some _ =>
    exact Reader.finds_bind (finds_token .number) fun value here =>
      Reader.finds_pure (by simpa [OperandForm.lexemes] using here)
  | none =>
    refine Reader.finds_bind (finds_token? (.mark .at)) fun sign _ => ?_
    cases sign with
    | some _ =>
      exact Reader.finds_bind (finds_token .number) fun value here =>
        Reader.finds_pure (by simpa [OperandForm.lexemes] using here)
    | none =>
      refine Reader.finds_bind (finds_token? .register) fun name here => Reader.finds_pure ?_
      cases name with
      | none => exact allIn_nil
      | some name => simpa [OperandForm.lexemes] using here

theorem finds_readMask :
    readMask.Finds text fun mask => AllIn text (mask.join.toList.map (.directions, ·)) := by
  refine Reader.finds_bind (finds_token? (.mark .opening)) fun opening _ => ?_
  cases opening with
  | none => exact Reader.finds_pure allIn_nil
  | some _ =>
    refine Reader.finds_bind (finds_token? .directions) fun letters here => ?_
    exact Reader.finds_bind (finds_token (.mark .closing)) fun _ _ => Reader.finds_pure here

theorem finds_readRecord : readRecord.Finds text fun form => AllIn text form.lexemes := by
  refine Reader.finds_bind (finds_token? .rawBytes) fun raw _ => ?_
  cases raw with
  | some _ =>
    refine Reader.finds_bind (finds_token .number) fun opcode one => ?_
    refine Reader.finds_bind (finds_token .number) fun operand two => ?_
    refine Reader.finds_bind (finds_token .number) fun mode three => ?_
    refine Reader.finds_bind (finds_token .number) fun dirs four => Reader.finds_pure ?_
    simp [RecordForm.lexemes, one, two, three, four]
  | none =>
    refine Reader.finds_bind (finds_token .mnemonic) fun opcode here => ?_
    refine Reader.finds_bind finds_readOperand fun operand inOperand => ?_
    refine Reader.finds_bind finds_readMask fun mask inMask => Reader.finds_pure ?_
    exact allIn_cons.2 ⟨here, allIn_append.2 ⟨inOperand, inMask⟩⟩

theorem finds_readPosition {first : Token} (here : first.In text .number) :
    (readPosition first).Finds text fun form => AllIn text form.lexemes := by
  refine Reader.finds_bind (finds_token? (.mark .comma)) fun comma _ => ?_
  cases comma with
  | some _ =>
    exact Reader.finds_bind (finds_token .number) fun col there =>
      Reader.finds_pure (by simp [PositionForm.lexemes, here, there])
  | none => exact Reader.finds_pure (by simpa [PositionForm.lexemes] using here)

theorem finds_readCell : readCell.Finds text fun form => AllIn text form.lexemes := by
  refine Reader.finds_bind (finds_token .number) fun first here => ?_
  refine Reader.finds_bind (finds_readPosition here) fun position inPosition => ?_
  refine Reader.finds_bind (finds_token (.mark .colon)) fun _ _ => ?_
  exact Reader.finds_bind finds_readRecord fun record inRecord =>
    Reader.finds_pure (allIn_append.2 ⟨inPosition, inRecord⟩)

/-- By cases of the keyword; each of its tokens is behind the one before. -/
theorem finds_readArguments (k : Keyword) :
    (readArguments k).Finds text fun form => AllIn text form.lexemes := by
  cases k with
  | id =>
    exact Reader.finds_bind (finds_token .name) fun name here =>
      Reader.finds_pure (by simpa [Form.lexemes] using here)
  | cycles =>
    refine Reader.finds_bind (finds_token .number) fun gold one => ?_
    refine Reader.finds_bind (finds_token .number) fun silver two => ?_
    exact Reader.finds_bind (finds_token .number) fun bronze three =>
      Reader.finds_pure (by simp [Form.lexemes, one, two, three])
  | label =>
    exact Reader.finds_bind (finds_token .string) fun quoted here =>
      Reader.finds_pure (by simpa [Form.lexemes] using here)
  | register =>
    refine Reader.finds_bind (finds_token .register) fun name one => ?_
    exact Reader.finds_bind (finds_token .number) fun value two =>
      Reader.finds_pure (by simp [Form.lexemes, one, two])
  | stack =>
    intro t form rest part read
    cases read
    exact finds_stackValues part
  | byte =>
    refine Reader.finds_bind (finds_token .number) fun offset one => ?_
    exact Reader.finds_bind (finds_token .number) fun value two =>
      Reader.finds_pure (by simp [Form.lexemes, one, two])

/-- A statement keeps lexemes of the text and leaves the rest of it. -/
theorem finds_readForm : readForm.Finds text fun form => AllIn text form.lexemes := by
  intro t form rest part read
  unfold readForm at read
  split at read
  · rename_i k a found
    have after : a <:+ t := (List.suffix_append _ _).trans (layout_of_nextKeyword found).suffix
    exact finds_readArguments k _ _ _ (after.trans part) read
  · exact finds_readCell _ _ _ part read

/-- The lexemes of all forms that are read are found in the text. -/
theorem allIn_of_readForms {forms : List Form} (part : t <:+ text) (read : readForms t = .ok forms) :
    ∀ form ∈ forms, AllIn text form.lexemes := by
  fun_induction readForms t generalizing forms with
  | case1 =>
    cases read
    exact fun _ member => absurd member List.not_mem_nil
  | case2 => cases read
  | case3 t more form rest found _ ih =>
    obtain ⟨part', here⟩ := finds_readForm _ _ _ part found
    cases later : readForms rest with
    | error e =>
      rw [later] at read
      cases read
    | ok forms' =>
      rw [later] at read
      cases read
      intro form' member
      rcases List.mem_cons.1 member with rfl | member
      · exact here
      · exact ih part' later form' member

end CellWalk.Assembly
