import CellWalk.Proofs.Assembly.Terminals

/-!
# Stages of reading

Whether a program text is read, and where it is not, depends on its lexemes alone. Between two of them the
reader is at a stage, which says what may come next (`Stage.options`) and whether the text may end
(`Stage.ends`). A number behind stack values leads to a stage of its own: what comes next tells whether it
was a value or a position. Going from stage to stage (`Stage.run`) ends as reading does
(`readForms_eq_run`).
-/

namespace CellWalk.Assembly
set_option autoImplicit false
open Grammar

/-- Stages of reading, named for what comes next. -/
inductive Stage
  /-- So many numbers, and then another statement. -/
  | numbers (k : Nat)
  | name
  | string
  | register
  /-- Values of the stack. -/
  | values
  /-- What is behind a number that may be a value of the stack or the position of a cell. -/
  | value
  /-- What is behind the first number of a cell. -/
  | position
  | column
  | colon
  | record
  | operand
  /-- The number of an operand. -/
  | amount
  | mask
  | directions
  | closing
deriving DecidableEq

namespace Stage

/-- The stage behind a keyword. -/
def arguments : Keyword → Stage
  | .id => .name
  | .cycles => .numbers 3
  | .label => .string
  | .register => .register
  | .stack => .values
  | .byte => .numbers 2

/-- A keyword, or a number that leads to the given stage. -/
def statements (next : Stage) : List (Terminal × Stage) :=
  Keyword.all.map (fun k => (.keyword k, arguments k)) ++ [(.number, next)]

/-- What may come next, and where it leads. -/
def options : Stage → List (Terminal × Stage)
  | .numbers 0 => statements .position
  | .numbers (k + 1) => [(.number, .numbers k)]
  | .name => [(.name, .numbers 0)]
  | .string => [(.string, .numbers 0)]
  | .register => [(.register, .numbers 1)]
  | .values => statements .value
  | .value => [(.mark .comma, .column), (.mark .colon, .record)] ++ statements .value
  | .position => [(.mark .comma, .column), (.mark .colon, .record)]
  | .column => [(.number, .colon)]
  | .colon => [(.mark .colon, .record)]
  | .record => [(.rawBytes, .numbers 4), (.mnemonic, .operand)]
  | .operand =>
    [(.mark .hash, .amount), (.mark .at, .amount), (.register, .mask), (.mark .opening, .directions)] ++
      statements .position
  | .amount => [(.number, .mask)]
  | .mask => (.mark .opening, .directions) :: statements .position
  | .directions => [(.directions, .closing), (.mark .closing, .numbers 0)]
  | .closing => [(.mark .closing, .numbers 0)]

/-- Whether the text may end. -/
def ends : Stage → Bool
  | .numbers 0 | .values | .value | .operand | .mask => true
  | _ => false

end Stage

/-- The first option that comes next, as the stage it leads to and the text after it. -/
def step (options : List (Terminal × Stage)) (t : Text) : Option (Stage × Text) :=
  options.findSome? fun o => (nextToken o.1.lexeme t).map fun r => (o.2, r.2)

variable {α β : Type} {t rest : Text} {q q' m : Stage} {c : Terminal} {tok : Token} {ends : Bool}
  {options : List (Terminal × Stage)}

/-- A step finds the token of one of the options. -/
theorem exists_of_step (found : step options t = some (q, rest)) :
    ∃ c tok, (c, q) ∈ options ∧ nextToken c.lexeme t = some (tok, rest) := by
  obtain ⟨⟨c, q'⟩, listed, next⟩ := List.exists_of_findSome?_eq_some found
  obtain ⟨⟨tok, rest'⟩, comes, e⟩ := Option.map_eq_some_iff.1 next
  cases e
  exact ⟨c, tok, listed, comes⟩

theorem step_shorter (found : step options t = some (q, rest)) : rest.length < t.length := by
  obtain ⟨c, tok, -, comes⟩ := exists_of_step found
  exact nextToken_shorter comes

/-- Goes from stage to stage until the text ends or nothing that may come next does. -/
def Stage.run (q : Stage) (t : Text) : Except Unexpected Unit :=
  if q.ends = true ∧ trimLayout t = [] then .ok ()
  else
    match h : step q.options t with
    | some (q', rest) =>
      have := step_shorter h
      q'.run rest
    | none => .error ⟨(trimLayout t).length⟩
termination_by t.length

/-- Some options, and whether the text may end instead. -/
structure Fork where
  options : List (Terminal × Stage)
  ends : Bool

def Stage.fork (q : Stage) : Fork := ⟨q.options, q.ends⟩

/-- Takes one of the options and goes on. -/
def Fork.run (f : Fork) (t : Text) : Except Unexpected Unit :=
  if f.ends = true ∧ trimLayout t = [] then .ok ()
  else
    match step f.options t with
    | some (q, rest) => q.run rest
    | none => .error ⟨(trimLayout t).length⟩

theorem Stage.run_eq (q : Stage) (t : Text) : q.run t = q.fork.run t := by
  rw [Stage.run, Fork.run, Stage.fork]
  split
  · rfl
  · split <;> rename_i e <;> simp only [e]

/-! One option of a fork. -/

theorem trimLayout_ne_nil_of_token {lexeme : Lexeme} (found : nextToken lexeme t = some (tok, rest)) :
    trimLayout t ≠ [] := by
  intro empty
  simp only [nextToken, empty] at found
  cases found

/-- A token comes next, so the text has not ended. -/
theorem Fork.run_of_step {f : Fork} (found : step f.options t = some (q, rest)) :
    f.run t = q.run rest := by
  obtain ⟨c, tok, -, comes⟩ := exists_of_step found
  rw [Fork.run, if_neg fun both => trimLayout_ne_nil_of_token comes both.2]
  simp only [found]

theorem Fork.run_of_first (found : nextToken c.lexeme t = some (tok, rest)) :
    (⟨(c, q) :: options, ends⟩ : Fork).run t = q.run rest :=
  run_of_step (by simp only [step, List.findSome?_cons, found, Option.map_some])

theorem Fork.run_of_not_first (missing : nextToken c.lexeme t = none) :
    (⟨(c, q) :: options, ends⟩ : Fork).run t = (⟨options, ends⟩ : Fork).run t := by
  simp only [Fork.run, step, List.findSome?_cons, missing, Option.map_none]

/-! Readers that go one way through a fork. -/

/-- From the fork on, the run ends as it does from the stage on behind what is read. -/
def Fork.Follows (f : Fork) (r : Reader α) (q : Stage) : Prop :=
  ∀ t, f.run t = r t >>= fun read => q.run read.2

theorem follows_pure (a : α) : q.fork.Follows (pure a) q := fun t => (q.run_eq t).symm

/-- A fork of one option reads its token. -/
theorem follows_token : (⟨[(c, q)], false⟩ : Fork).Follows (token c.lexeme) q := by
  intro t
  cases found : nextToken c.lexeme t with
  | none =>
    rw [Fork.run_of_not_first found, token, found]
    rfl
  | some next =>
    rw [Fork.run_of_first found, token, found]
    rfl

/-- Two readers follow two forks one after the other. -/
theorem Fork.Follows.bind {f : Fork} {r : Reader α} {g : α → Reader β} (first : f.Follows r m)
    (next : ∀ a, m.fork.Follows (g a) q) : f.Follows (r >>= g) q := by
  intro t
  rw [first t]
  change _ = (r t >>= fun read => g read.1 read.2) >>= _
  cases r t with
  | error e => rfl
  | ok read =>
    have later := next read.1 read.2
    rw [← m.run_eq] at later
    exact later

/-- A part that may be missing: if it is, the other options are left. -/
theorem follows_offer {g : Option Token → Reader α} (taken : ∀ tok, m.fork.Follows (g (some tok)) q)
    (missing : (⟨options, ends⟩ : Fork).Follows (g none) q) :
    (⟨(c, m) :: options, ends⟩ : Fork).Follows (token? c.lexeme >>= g) q := by
  intro t
  change _ = (token? c.lexeme t >>= fun read => g read.1 read.2) >>= _
  cases found : nextToken c.lexeme t with
  | none =>
    rw [Fork.run_of_not_first found, token?_of_none found]
    exact missing t
  | some next =>
    rw [Fork.run_of_first found, token?_of_some found]
    have later := taken next.1 next.2
    rw [← m.run_eq] at later
    exact later

/-! Parts of a cell. -/

theorem follows_readOperand : Stage.operand.fork.Follows readOperand .mask := by
  refine follows_offer (c := .mark .hash) (fun _ => ?_) ?_
  · exact (follows_token (c := .number)).bind fun _ => follows_pure _
  refine follows_offer (c := .mark .at) (fun _ => ?_) ?_
  · exact (follows_token (c := .number)).bind fun _ => follows_pure _
  exact follows_offer (c := .register) (fun _ => follows_pure _) (follows_pure (q := .mask) _)

theorem follows_readMask : Stage.mask.fork.Follows readMask (.numbers 0) := by
  refine follows_offer (c := .mark .opening) (fun _ => ?_) (follows_pure (q := .numbers 0) _)
  refine follows_offer (c := .directions) (fun _ => ?_) ?_ <;>
    exact (follows_token (c := .mark .closing)).bind fun _ => follows_pure _

theorem follows_readRecord : Stage.record.fork.Follows readRecord (.numbers 0) := by
  refine follows_offer (c := .rawBytes) (fun _ => ?_) ?_
  · refine (follows_token (c := .number) (q := .numbers 3)).bind fun _ => ?_
    refine (follows_token (c := .number) (q := .numbers 2)).bind fun _ => ?_
    refine (follows_token (c := .number) (q := .numbers 1)).bind fun _ => ?_
    exact (follows_token (c := .number)).bind fun _ => follows_pure _
  · refine (follows_token (c := .mnemonic) (q := .operand)).bind fun _ => ?_
    refine follows_readOperand.bind fun _ => ?_
    exact follows_readMask.bind fun _ => follows_pure _

theorem follows_readPosition (first : Token) :
    Stage.position.fork.Follows (readPosition first) .colon := by
  refine follows_offer (c := .mark .comma) (fun _ => ?_) (follows_pure (q := .colon) _)
  exact (follows_token (c := .number)).bind fun _ => follows_pure _

theorem follows_readCell : (⟨[(.number, .position)], false⟩ : Fork).Follows readCell (.numbers 0) := by
  refine (follows_token (c := .number)).bind fun first => ?_
  refine (follows_readPosition first).bind fun _ => ?_
  refine (follows_token (c := .mark .colon) (q := .record)).bind fun _ => ?_
  exact follows_readRecord.bind fun _ => follows_pure _

/-! Statements. -/

theorem step_append (options more : List (Terminal × Stage)) (t : Text) :
    step (options ++ more) t = (step options t).or (step more t) := List.findSome?_append

/-- The keywords among the options are tried in the order in which they are read. -/
theorem step_keywords (t : Text) :
    step (Keyword.all.map fun k => (.keyword k, Stage.arguments k)) t =
      (nextKeyword t).map fun found => (Stage.arguments found.1, found.2) := by
  simp only [step, nextKeyword, List.findSome?_map, List.map_findSome?]
  congr 1
  funext k
  simp only [Function.comp_apply, Option.map_map]
  rfl

theorem run_of_keyword {next : Stage} {k : Keyword} (found : nextKeyword t = some (k, rest)) :
    (⟨Stage.statements next, ends⟩ : Fork).run t = (Stage.arguments k).run rest := by
  refine Fork.run_of_step ?_
  rw [Stage.statements, step_append, step_keywords, found]
  rfl

theorem run_of_no_keyword {next : Stage} (missing : nextKeyword t = none) :
    (⟨Stage.statements next, ends⟩ : Fork).run t = (⟨[(.number, next)], ends⟩ : Fork).run t := by
  have skipped : step (Stage.statements next) t = step [(.number, next)] t := by
    rw [Stage.statements, step_append, step_keywords, missing, Option.map_none, Option.none_or]
  simp only [Fork.run, skipped]

/-- Without a number, nothing tells the values of the stack from the next statement. -/
theorem run_of_no_number {next next' : Stage} (missing : nextToken .number t = none) :
    (⟨Stage.statements next, ends⟩ : Fork).run t = (⟨Stage.statements next', ends⟩ : Fork).run t := by
  cases found : nextKeyword t with
  | some r => rw [run_of_keyword found, run_of_keyword found]
  | none =>
    have missing' : nextToken Terminal.number.lexeme t = none := missing
    rw [run_of_no_keyword found, run_of_no_keyword found, Fork.run_of_not_first missing',
      Fork.run_of_not_first missing']

theorem leads_of_number (found : nextToken .number t = some (tok, rest)) :
    Leads (·.isDigit = true) t := by
  obtain ⟨layout, run, -⟩ := (nextToken_iff takes_number).1 found
  obtain ⟨p, w, e⟩ := List.exists_cons_of_ne_nil run.1
  have digit := run.2.1 p (e ▸ List.mem_cons_self)
  rw [e, List.cons_append] at layout
  exact leads_of_layout layout (visible_of_isDigit p digit) digit

/-- A number is no keyword, so it leads to its own stage. -/
theorem run_of_number {next : Stage} (found : nextToken .number t = some (tok, rest)) :
    (⟨Stage.statements next, ends⟩ : Fork).run t = next.run rest := by
  rw [run_of_no_keyword (no_keyword (leads_of_number found))]
  exact Fork.run_of_first (c := .number) found

/-- A comma or a colon makes a number a position. -/
theorem step_position (marked : comesNext (.mark ',') t = true ∨ comesNext (.mark ':') t = true) :
    ∃ q rest, step Stage.position.options t = some (q, rest) := by
  cases comma : nextToken (.mark ',') t with
  | some r => exact ⟨.column, r.2, by simp [step, Stage.options, Terminal.lexeme, Mark.char, comma]⟩
  | none =>
    have colon : (nextToken (.mark ':') t).isSome = true := by simpa [comesNext, comma] using marked
    obtain ⟨r, colon⟩ := Option.isSome_iff_exists.1 colon
    exact ⟨.record, r.2, by simp [step, Stage.options, Terminal.lexeme, Mark.char, comma, colon]⟩

/-- The values that are read as the stack's are passed over. -/
theorem run_values (t : Text) : Stage.values.run t = (Stage.numbers 0).run (stackValues t).2 := by
  fun_induction stackValues t with
  | case1 t missing =>
    rw [Stage.run_eq, Stage.run_eq]
    exact run_of_no_number missing
  | case2 t value rest found position =>
    obtain ⟨q, rest', leads⟩ := step_position (by simpa [or_comm] using position)
    rw [Stage.run_eq, Stage.run_eq]
    refine (run_of_number found).trans (.trans ?_ (run_of_number found).symm)
    rw [Stage.run_eq, Stage.run_eq, Fork.run_of_step (f := Stage.position.fork) leads]
    refine Fork.run_of_step ?_
    exact (step_append Stage.position.options _ _).trans (by rw [leads]; rfl)
  | case3 t value rest found notPosition _ values rest' e ih =>
    rw [e] at ih
    rw [Stage.run_eq]
    refine (run_of_number found).trans (.trans ?_ ih)
    have missing : nextToken (.mark ':') rest = none ∧ nextToken (.mark ',') rest = none := by
      simpa [comesNext] using notPosition
    rw [Stage.run_eq, Stage.run_eq]
    exact (Fork.run_of_not_first (c := .mark .comma) missing.2).trans
      (Fork.run_of_not_first (c := .mark .colon) missing.1)

theorem follows_readArguments (k : Keyword) :
    (Stage.arguments k).fork.Follows (readArguments k) (.numbers 0) := by
  cases k with
  | id => exact (follows_token (c := .name)).bind fun _ => follows_pure _
  | cycles =>
    refine (follows_token (c := .number) (q := .numbers 2)).bind fun _ => ?_
    refine (follows_token (c := .number) (q := .numbers 1)).bind fun _ => ?_
    exact (follows_token (c := .number)).bind fun _ => follows_pure _
  | label => exact (follows_token (c := .string)).bind fun _ => follows_pure _
  | register =>
    refine (follows_token (c := .register) (q := .numbers 1)).bind fun _ => ?_
    exact (follows_token (c := .number)).bind fun _ => follows_pure _
  | stack =>
    intro t
    exact (Stage.run_eq _ t).symm.trans (run_values t)
  | byte =>
    refine (follows_token (c := .number) (q := .numbers 1)).bind fun _ => ?_
    exact (follows_token (c := .number)).bind fun _ => follows_pure _

/-- One statement leads from its first stage back to it. -/
theorem run_readForm (more : trimLayout t ≠ []) :
    (Stage.numbers 0).run t = readForm t >>= fun read => (Stage.numbers 0).run read.2 := by
  rw [Stage.run_eq, readForm]
  cases found : nextKeyword t with
  | some r =>
    refine (run_of_keyword found).trans ?_
    rw [Stage.run_eq]
    exact follows_readArguments r.1 r.2
  | none =>
    refine (run_of_no_keyword found).trans (.trans ?_ (follows_readCell t))
    simp only [Fork.run, more, and_false, if_false]

/-- Going from stage to stage ends as reading does. -/
theorem readForms_eq_run (t : Text) : (readForms t).map (fun _ => ()) = (Stage.numbers 0).run t := by
  fun_induction readForms t with
  | case1 t empty =>
    rw [Stage.run, if_pos ⟨rfl, List.isEmpty_iff.1 empty⟩]
    rfl
  | case2 t more e failed =>
    rw [run_readForm (mt List.isEmpty_iff.2 more), failed]
    rfl
  | case3 t more form rest found _ ih =>
    rw [run_readForm (mt List.isEmpty_iff.2 more), found]
    refine .trans ?_ ih
    cases readForms rest <;> rfl

theorem readForms_eq_error_iff {e : Unexpected} :
    readForms t = .error e ↔ (Stage.numbers 0).run t = .error e := by
  rw [← readForms_eq_run]
  cases readForms t <;> simp [Except.map]

theorem exists_readForms_iff :
    (∃ forms, readForms t = .ok forms) ↔ (Stage.numbers 0).run t = .ok () := by
  rw [← readForms_eq_run]
  cases readForms t <;> simp [Except.map]

end CellWalk.Assembly
