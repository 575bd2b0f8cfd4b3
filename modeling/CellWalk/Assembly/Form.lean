import CellWalk.Assembly.Lexeme

/-!
# Forms

The form of a program is what its lexemes say before any of them is interpreted: numbers are still
runs of digits and labels still quoted. `readForms` is deterministic. The only lexeme that could
be taken in two ways is a number after stack values: it belongs to the stack unless a colon or a
comma comes next, which makes it the position of a cell. Every statement takes up some text
(`readForm_takes`), so reading ends.
-/

namespace CellWalk.Assembly
set_option autoImplicit false

/-- A lexeme of the program; `left` is how much text there is from its start to the end. -/
structure Token where
  text : Text
  left : Nat
deriving DecidableEq

/-- Where a cell lies. -/
inductive PositionForm
  | flat (index : Token)
  | grid (row col : Token)
deriving DecidableEq

/-- An operand: a number as it is, an address, or a register's address. -/
inductive OperandForm
  | immediate (value : Token)
  | address (value : Token)
  | register (name : Token)
deriving DecidableEq

/-- What a cell holds: an instruction, or four raw bytes. A mask may be missing or empty. -/
inductive RecordForm
  | instruction (opcode : Token) (operand : Option OperandForm) (mask : Option (Option Token))
  | raw (opcode operand mode dirs : Token)
deriving DecidableEq

/-- A statement. -/
inductive Form
  | id (name : Token)
  | cycles (gold silver bronze : Token)
  | label (text : Token)
  | register (name value : Token)
  | stack (values : List Token)
  | byte (offset value : Token)
  | cell (position : PositionForm) (record : RecordForm)
deriving DecidableEq

/-- No lexeme that may come next starts where `left` code points are left. -/
structure Unexpected where
  left : Nat
deriving DecidableEq, Repr

/-- Reads a piece from the start of a text and leaves the text after it. -/
abbrev Reader := StateT Text (Except Unexpected)

/-- The lexeme of the class that comes next, if it does, and the text after it. -/
def nextToken (lexeme : Lexeme) (t : Text) : Option (Token × Text) :=
  match trimLayout t with
  | [] => none
  | p :: rest =>
    match lexeme (p :: rest) with
    | 0 => none
    | n + 1 => some (⟨p :: rest.take n, rest.length + 1⟩, rest.drop n)

theorem nextToken_shorter {lexeme : Lexeme} {t rest : Text} {tok : Token}
    (h : nextToken lexeme t = some (tok, rest)) : rest.length < t.length := by
  have layout := length_trimLayout_le t
  unfold nextToken at h
  split at h
  · cases h
  · rename_i e
    split at h
    · cases h
    · cases h
      rw [e, List.length_cons] at layout
      rw [List.length_drop]
      omega

/-- Whether a lexeme of the class comes next. -/
def comesNext (lexeme : Lexeme) (t : Text) : Bool := (nextToken lexeme t).isSome

/-- Reads the lexeme of the class that has to come next. -/
def token (lexeme : Lexeme) : Reader Token := fun t =>
  match nextToken lexeme t with
  | some r => .ok r
  | none => .error ⟨(trimLayout t).length⟩

/-- Reads the lexeme of the class if it comes next. -/
def token? (lexeme : Lexeme) : Reader (Option Token) := fun t =>
  match nextToken lexeme t with
  | some (tok, rest) => .ok (some tok, rest)
  | none => .ok (none, t)

/-- The numbers after `.stack`, up to one that is the position of a cell, and the text after
them. -/
def stackValues (t : Text) : List Token × Text :=
  match h : nextToken Lexeme.number t with
  | none => ([], t)
  | some (value, rest) =>
    if comesNext (.mark ':') rest || comesNext (.mark ',') rest then ([], t)
    else
      have := nextToken_shorter h
      let (values, rest) := stackValues rest
      (value :: values, rest)
termination_by t.length

/-- Reads an operand if one comes next. -/
def readOperand : Reader (Option OperandForm) := do
  match ← token? (.mark '#') with
  | some _ => return some (.immediate (← token .number))
  | none =>
    match ← token? (.mark '@') with
    | some _ => return some (.address (← token .number))
    | none => return (← token? .register).map .register

/-- Reads a direction mask if one comes next. -/
def readMask : Reader (Option (Option Token)) := do
  match ← token? (.mark '[') with
  | none => return none
  | some _ =>
    let letters ← token? .directions
    let _ ← token (.mark ']')
    return some letters

/-- Reads what a cell holds. -/
def readRecord : Reader RecordForm := do
  match ← token? .rawBytes with
  | some _ =>
    let opcode ← token .number
    let operand ← token .number
    let mode ← token .number
    let dirs ← token .number
    return .raw opcode operand mode dirs
  | none =>
    let opcode ← token .mnemonic
    let operand ← readOperand
    let mask ← readMask
    return .instruction opcode operand mask

/-- Reads the rest of a cell's position after its first number. -/
def readPosition (first : Token) : Reader PositionForm := do
  match ← token? (.mark ',') with
  | some _ => return .grid first (← token .number)
  | none => return .flat first

/-- Reads a cell. -/
def readCell : Reader Form := do
  let first ← token .number
  let position ← readPosition first
  let _ ← token (.mark ':')
  let record ← readRecord
  return .cell position record

/-- The words that start a statement other than a cell. -/
inductive Keyword
  | id
  | cycles
  | label
  | register
  | stack
  | byte
deriving DecidableEq, Repr

def Keyword.all : List Keyword := [.id, .cycles, .label, .register, .stack, .byte]

def Keyword.word : Keyword → List Char
  | .id => ['.', 'i', 'd']
  | .cycles => ['.', 'c', 'y', 'c', 'l', 'e', 's']
  | .label => ['.', 'l', 'a', 'b', 'e', 'l']
  | .register => ['.', 'r', 'e', 'g']
  | .stack => ['.', 's', 't', 'a', 'c', 'k']
  | .byte => ['.', 'b', 'y', 't', 'e']

/-- The keyword that comes next, if one does, and the text after it. -/
def nextKeyword (t : Text) : Option (Keyword × Text) :=
  Keyword.all.findSome? fun k => (nextToken (.fixed k.word) t).map fun r => (k, r.2)

/-- Reads the rest of a statement after its keyword. -/
def readArguments : Keyword → Reader Form
  | .id => return .id (← token .name)
  | .cycles => return .cycles (← token .number) (← token .number) (← token .number)
  | .label => return .label (← token .string)
  | .register => return .register (← token .register) (← token .number)
  | .stack => fun t => .ok (.stack (stackValues t).1, (stackValues t).2)
  | .byte => return .byte (← token .number) (← token .number)

/-- Reads the statement that comes next. -/
def readForm : Reader Form := fun t =>
  match nextKeyword t with
  | some (k, t) => readArguments k t
  | none => readCell t

/-- What is read takes up at least `k` code points. -/
def Reader.Takes {α : Type} (k : Nat) (r : Reader α) : Prop :=
  ∀ t a rest, r t = .ok (a, rest) → rest.length + k ≤ t.length

theorem Reader.takes_pure {α : Type} (a : α) : Takes 0 (pure a) := by
  intro t b rest e
  cases e
  exact Nat.le_refl _

theorem Reader.takes_bind {α β : Type} {k : Nat} {r : Reader α} {f : α → Reader β}
    (first : Takes k r) (next : ∀ a, Takes 0 (f a)) : Takes k (r >>= f) := by
  intro t b rest e
  change (r t >>= fun p => f p.1 p.2) = _ at e
  match h : r t with
  | .error _ => rw [h] at e; cases e
  | .ok (a, mid) =>
    rw [h] at e
    have := first t a mid h
    have := next a mid b rest e
    omega

theorem token_takes (lexeme : Lexeme) : (token lexeme).Takes 1 := by
  intro t tok rest e
  unfold token at e
  split at e
  · rename_i found
    cases e
    exact nextToken_shorter found
  · cases e

theorem token_takes_zero (lexeme : Lexeme) : (token lexeme).Takes 0 :=
  fun t tok rest e => Nat.le_of_lt (token_takes lexeme t tok rest e)

theorem token?_takes (lexeme : Lexeme) : (token? lexeme).Takes 0 := by
  intro t tok rest e
  unfold token? at e
  split at e
  · rename_i found
    cases e
    exact Nat.le_of_lt (nextToken_shorter found)
  · cases e
    exact Nat.le_refl _

theorem length_stackValues_le (t : Text) : (stackValues t).2.length ≤ t.length := by
  fun_induction stackValues t with
  | case1 => exact Nat.le_refl _
  | case2 => exact Nat.le_refl _
  | case3 t value rest _ _ shorter _ _ e ih =>
    rw [e] at ih
    exact Nat.le_trans ih (Nat.le_of_lt shorter)

theorem readOperand_takes : readOperand.Takes 0 := by
  refine Reader.takes_bind (token?_takes _) fun hash => ?_
  cases hash with
  | some _ => exact Reader.takes_bind (token_takes_zero _) fun _ => Reader.takes_pure _
  | none =>
    refine Reader.takes_bind (token?_takes _) fun mark => ?_
    cases mark with
    | some _ => exact Reader.takes_bind (token_takes_zero _) fun _ => Reader.takes_pure _
    | none => exact Reader.takes_bind (token?_takes _) fun _ => Reader.takes_pure _

theorem readMask_takes : readMask.Takes 0 := by
  refine Reader.takes_bind (token?_takes _) fun opening => ?_
  cases opening with
  | none => exact Reader.takes_pure _
  | some _ =>
    refine Reader.takes_bind (token?_takes _) fun _ => ?_
    exact Reader.takes_bind (token_takes_zero _) fun _ => Reader.takes_pure _

theorem readRecord_takes : readRecord.Takes 0 := by
  refine Reader.takes_bind (token?_takes _) fun raw => ?_
  cases raw with
  | some _ =>
    refine Reader.takes_bind (token_takes_zero _) fun _ => ?_
    refine Reader.takes_bind (token_takes_zero _) fun _ => ?_
    refine Reader.takes_bind (token_takes_zero _) fun _ => ?_
    exact Reader.takes_bind (token_takes_zero _) fun _ => Reader.takes_pure _
  | none =>
    refine Reader.takes_bind (token_takes_zero _) fun _ => ?_
    refine Reader.takes_bind readOperand_takes fun _ => ?_
    exact Reader.takes_bind readMask_takes fun _ => Reader.takes_pure _

theorem readPosition_takes (first : Token) : (readPosition first).Takes 0 := by
  refine Reader.takes_bind (token?_takes _) fun comma => ?_
  cases comma with
  | some _ => exact Reader.takes_bind (token_takes_zero _) fun _ => Reader.takes_pure _
  | none => exact Reader.takes_pure _

theorem readCell_takes : readCell.Takes 1 := by
  refine Reader.takes_bind (token_takes _) fun _ => ?_
  refine Reader.takes_bind (readPosition_takes _) fun _ => ?_
  refine Reader.takes_bind (token_takes_zero _) fun _ => ?_
  exact Reader.takes_bind readRecord_takes fun _ => Reader.takes_pure _

theorem nextKeyword_shorter {t rest : Text} {k : Keyword} (h : nextKeyword t = some (k, rest)) :
    rest.length < t.length := by
  obtain ⟨k', -, found⟩ := List.exists_of_findSome?_eq_some h
  obtain ⟨⟨tok, rest'⟩, next, e⟩ := Option.map_eq_some_iff.1 found
  cases e
  exact nextToken_shorter next

theorem readArguments_takes (k : Keyword) : (readArguments k).Takes 0 := by
  cases k with
  | id => exact Reader.takes_bind (token_takes_zero _) fun _ => Reader.takes_pure _
  | cycles =>
    refine Reader.takes_bind (token_takes_zero _) fun _ => ?_
    refine Reader.takes_bind (token_takes_zero _) fun _ => ?_
    exact Reader.takes_bind (token_takes_zero _) fun _ => Reader.takes_pure _
  | label => exact Reader.takes_bind (token_takes_zero _) fun _ => Reader.takes_pure _
  | register =>
    refine Reader.takes_bind (token_takes_zero _) fun _ => ?_
    exact Reader.takes_bind (token_takes_zero _) fun _ => Reader.takes_pure _
  | stack =>
    intro t a rest e
    cases e
    exact length_stackValues_le t
  | byte =>
    refine Reader.takes_bind (token_takes_zero _) fun _ => ?_
    exact Reader.takes_bind (token_takes_zero _) fun _ => Reader.takes_pure _

/-- A statement takes up at least one code point. -/
theorem readForm_takes : readForm.Takes 1 := by
  intro t a rest e
  unfold readForm at e
  split at e
  · rename_i found
    have := nextKeyword_shorter found
    have := readArguments_takes _ _ _ _ e
    omega
  · exact readCell_takes _ _ _ e

/-- The statements of a program. -/
def readForms (t : Text) : Except Unexpected (List Form) :=
  if (trimLayout t).isEmpty then .ok []
  else
    match h : readForm t with
    | .error e => .error e
    | .ok (f, rest) =>
      have := readForm_takes _ _ _ h
      (readForms rest).map (f :: ·)
termination_by t.length

end CellWalk.Assembly
