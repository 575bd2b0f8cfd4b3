import CellWalk.Proofs.Assembly.Assembling

/-!
# Labels of a listing

A listing spells its labels one after the other, and nothing else in it is a label (`Tells`). They are
read again code point by code point, with one exception. A JSON string writes a code point outside the
basic plane as the two halves of a surrogate pair, and no escape of a program text joins them, so the
label comes back with both halves (`labels_of_listing`).
-/

namespace CellWalk.Assembly
set_option autoImplicit false
open Grammar

section told
variable [CharacterNames]

/-! Lines and the labels they tell. -/

/-- The lines tell these labels, whatever statements follow them. -/
def Tells (lines labels : List Text) : Prop :=
  ∀ rest ss, Spells ascii rest ss → ∃ ss', Spells ascii (textOf lines ++ rest) ss' ∧
    ss'.filterMap Statement.label? = labels ++ ss.filterMap Statement.label?

theorem tells_nil : Tells [] [] := fun _ ss spells => ⟨ss, spells, rfl⟩

/-- What lines tell one after the other they tell in this order. -/
theorem Tells.append {first second labels labels' : List Text} (one : Tells first labels)
    (two : Tells second labels') : Tells (first ++ second) (labels ++ labels') := by
  intro rest ss spells
  obtain ⟨ss', spells', told'⟩ := two rest ss spells
  obtain ⟨ss'', spells'', told''⟩ := one _ ss' spells'
  refine ⟨ss'', ?_, ?_⟩
  · rw [textOf_append, List.append_assoc]
    exact spells''
  · rw [told'', told', List.append_assoc]

/-- A line tells the label of the statement that it spells. -/
theorem tells_line {line : Text} (label : Option Text)
    (spelled : ∀ rest, ∃ s, Phrase ascii (line ++ Text.newline :: rest) s (Text.newline :: rest) ∧
      s.label? = label) : Tells [line] label.toList := by
  intro rest ss spells
  obtain ⟨s, phrase, label_⟩ := spelled rest
  refine ⟨s :: ss, ?_, ?_⟩
  · rw [textOf_cons, List.append_assoc]
    exact .cons phrase (spells.behind (.blank (by decide) (.none _)))
  · rw [List.filterMap_cons, label_]
    cases label <;> rfl

theorem tells_flatMap {α : Type} {line : α → List Text} {xs : List α}
    (each : ∀ x ∈ xs, Tells (line x) []) : Tells (xs.flatMap line) [] := by
  induction xs with
  | nil => exact tells_nil
  | cons x xs ih =>
    rw [List.flatMap_cons]
    exact (each x List.mem_cons_self).append (ih fun y member => each y (List.mem_cons_of_mem x member))

/-! The lines of the memory. -/

theorem tells_registers (m : Image) : Tells (registerLines m) [] := by
  refine tells_flatMap fun r member => ?_
  have proper : r ≠ .stk := by
    rintro rfl
    exact absurd member (by decide)
  dsimp only
  split
  · exact tells_nil
  · refine tells_line none fun rest => ?_
    obtain ⟨left, phrase⟩ := phrase_register proper (m.getD r.address 0) rest
    exact ⟨_, phrase, rfl⟩

theorem tells_loose (m : Image) : Tells (looseLines m) [] := by
  have few : ∀ a ∈ looseOffsets, a ≤ Size.addresses := by decide
  refine tells_flatMap fun a member => ?_
  dsimp only
  split
  · exact tells_nil
  · refine tells_line none fun rest => ?_
    obtain ⟨left, phrase⟩ := phrase_byte (few a member) (m.getD a 0) rest
    exact ⟨_, phrase, rfl⟩

theorem tells_stack (m : Image) : Tells (stackLines m) [] := by
  have few := length_usedStack_le m
  rw [stackLines]
  generalize usedStack m = values at few
  split
  · exact tells_nil
  · exact tells_line none fun rest => ⟨_, phrase_stack few rest, rfl⟩

theorem tells_cell (m : Image) (c : Nat) {n : Nat} (small : n ≤ Size.addresses) :
    Tells (cellLines m c n) [] := by
  rw [cellLines]
  split
  · exact tells_nil
  split
  · exact tells_nil
  rename_i record _ _
  refine tells_line none fun rest => ?_
  obtain ⟨left, phrase⟩ := phrase_cellAt small c record rest
  exact ⟨_, phrase, rfl⟩

/-- The lines of memory tell no labels. -/
theorem tells_memory (m : Image) {c r : Nat} (held : c * r ≤ Size.addresses) :
    Tells (memoryLines m c r) [] := by
  have cells : Tells ((List.range (c * r)).flatMap (cellLines m c)) [] :=
    tells_flatMap fun n member =>
      tells_cell m c (Nat.le_trans (Nat.le_of_lt (List.mem_range.1 member)) held)
  exact (((tells_registers m).append (tells_loose m)).append (tells_stack m)).append cells

/-! The lines of the heading. -/

/-- A label's line tells its halves. -/
theorem tells_labels (labels : List Text) :
    Tells (labels.map fun l => Text.ofString ".label " ++ Json.quote l)
      (labels.map (·.flatMap Label.halves)) := by
  induction labels with
  | nil => exact tells_nil
  | cons l labels ih =>
    have one : Tells [Text.ofString ".label " ++ Json.quote l] [l.flatMap Label.halves] :=
      tells_line (some _) fun rest => ⟨_, phrase_label l rest, rfl⟩
    exact one.append ih

theorem tells_id {name : Text} (named : Named name) : Tells [Text.ofString ".id " ++ name] [] :=
  tells_line none fun rest => ⟨_, phrase_id named.1 named.2 rest, rfl⟩

theorem tells_goals {gold silver bronze : Nat} (tellable : Tellable (gold, silver, bronze)) :
    Tells [Text.joinWords [Text.ofString ".cycles", Decimal.ofNat gold, Decimal.ofNat silver,
      Decimal.ofNat bronze]] [] :=
  tells_line none fun rest =>
    ⟨_, phrase_cycles tellable.1 tellable.2.1 tellable.2.2 rest, rfl⟩

/-- The heading tells the labels, and id and goals tell none. -/
theorem tells_heading {id : Option Text} (named : ∀ name ∈ id, Named name)
    {goals : Option (Nat × Nat × Nat)} (tellable : ∀ g ∈ goals, Tellable g) {labels lines : List Text}
    (headed : headingLines ⟨id, goalList goals, labels⟩ = .ok lines) :
    Tells lines (labels.map (·.flatMap Label.halves)) := by
  cases id with
  | none =>
    cases goals with
    | none =>
      cases headed
      exact tells_labels labels
    | some g =>
      cases headed
      exact (tells_goals (tellable g rfl)).append (tells_labels labels)
  | some name =>
    have given : name.isEmpty = false := List.isEmpty_eq_false_iff.2 (named name rfl).1
    simp only [headingLines, given] at headed
    cases goals with
    | none =>
      cases headed
      exact (tells_id (named name rfl)).append (tells_labels labels)
    | some g =>
      cases headed
      exact (tells_id (named name rfl)).append
        ((tells_goals (tellable g rfl)).append (tells_labels labels))

/-! Listings are read. -/

/-- The title is a comment, so a listing is read as what its other lines spell. -/
theorem parse_titled {c r : Nat} {lines : List Text} {ss : List Statement}
    (spells : Spells ascii (textOf lines ++ []) ss) :
    parse (textOf (titleLine c r :: lines)) = .ok ss := by
  refine parse_of_spells (Spells.mono (fun _ _ => .inl) ?_)
  rw [List.append_nil] at spells
  rw [textOf_cons]
  exact spells.behind (layout_titleLine c r _)

/-- Lines that lead from the empty program to a build of a kind are assembled to its program. -/
theorem assemble_titled {g : Grid} {P Q : Build → Prop} {lines : List Text}
    (held : Machine.sizeFor g ≤ Size.addresses) (run : Carries g.cols g.rows P lines Q)
    (start : P (Build.empty (Machine.sizeFor g))) :
    ∃ b, Q b ∧ assemble (textOf (titleLine g.cols g.rows :: lines)) g.cols g.rows = .ok b.program := by
  obtain ⟨b, adds, reached⟩ := run _ start
  obtain ⟨ss, spells, runs⟩ := adds [] [] (.done (.none []))
  refine ⟨b, reached, ?_⟩
  rw [assemble_eq (parse_titled spells) held, build, runs]
  rfl

end told

/-! What the statements of a text can be told by. -/

/-- An id is named and goals are told by what spells them. -/
def Statement.Told : Statement → Prop
  | .id name => Named name
  | .cycles gold silver bronze => Tellable (gold, silver, bronze)
  | _ => True

/-- A number that was read has few enough digits to be written. -/
theorem few_digits_of_comes {n : Nat} {t rest : Text} (comes : Comes (number n) t rest) :
    (Decimal.ofNat n).length ≤ Decimal.maxDigits := by
  obtain ⟨w, -, ⟨zeros, rfl⟩, few, -⟩ := comes
  rw [List.length_append] at few
  omega

/-- What a statement of a text says can be told again. -/
theorem told_of_spells [CharacterNames] {forms : CaseForms} {t : Text} {ss : List Statement}
    (spells : Spells forms t ss) : ∀ s ∈ ss, s.Told := by
  induction spells with
  | done => exact fun _ member => absurd member List.not_mem_nil
  | cons first _ ih =>
    intro s member
    rcases List.mem_cons.1 member with rfl | later
    · cases first with
      | id _ id_ =>
        obtain ⟨w, -, rfl, nonempty, inName, -⟩ := id_
        exact ⟨nonempty, inName⟩
      | cycles _ gold_ silver_ bronze_ =>
        exact ⟨few_digits_of_comes gold_, few_digits_of_comes silver_, few_digits_of_comes bronze_⟩
      | label | stack | register | byte | cell => trivial
    · exact ih s later

section described
variable {g : Grid} {ss : List Statement} {p : Program}

theorem Describes.named (told : Describes g ss p) (all : ∀ s ∈ ss, s.Told) :
    ∀ name ∈ p.id, Named name := by
  intro name given
  rw [told.id] at given
  obtain ⟨s, member, same⟩ := List.mem_filterMap.1 (List.mem_of_getLast? given)
  have spelled := all s member
  cases s with
  | id name' =>
    cases same
    exact spelled
  | cycles | label | stack | byte | cell => cases same

theorem Describes.tellable (told : Describes g ss p) (all : ∀ s ∈ ss, s.Told) :
    ∀ goals ∈ p.goals, Tellable goals := by
  intro goals given
  rw [told.goals] at given
  obtain ⟨s, member, same⟩ := List.mem_filterMap.1 (List.mem_of_getLast? given)
  have spelled := all s member
  cases s with
  | cycles gold silver bronze =>
    cases same
    exact spelled
  | id | label | stack | byte | cell => cases same

end described

/-! Halves. -/

theorem length_le_flatMap_halves (l : Text) : l.length ≤ (l.flatMap Label.halves).length := by
  induction l with
  | nil => exact Nat.le_refl 0
  | cons q l ih =>
    have some_ : 1 ≤ (Label.halves q).length := by
      rw [Label.halves]
      split <;> exact Nat.succ_pos _
    rw [List.flatMap_cons, List.length_append, List.length_cons]
    omega

/-- A label is read as it is if it stays inside the basic plane. -/
theorem flatMap_halves_eq_iff (l : Text) :
    l.flatMap Label.halves = l ↔ ∀ q ∈ l, q.val < 0x10000 := by
  induction l with
  | nil => simp
  | cons q l ih =>
    rw [List.flatMap_cons, List.forall_mem_cons, ← ih, Label.halves]
    split
    · rename_i small
      simp [small]
    · rename_i large
      have longer := length_le_flatMap_halves l
      refine ⟨fun same => ?_, fun both => absurd both.1 large⟩
      have lengths := congrArg List.length same
      simp only [List.length_append, List.length_cons, List.length_nil] at lengths
      omega

/-- Whatever text is assembled, its program has a listing that is assembled again. Its labels are the
same labels, unless they leave the basic plane: a code point outside it is read as the two halves of its
surrogate pair. -/
theorem labels_of_listing [CharacterNames] {text : Text} {cols rows : Int} (wide : 1 ≤ cols) (high : 1 ≤ rows)
    {p : Program} (assembled : assemble text cols rows = .ok p) :
    ∃ listing again, disassemble p.memory cols rows ⟨p.id, goalList p.goals, p.labels⟩ = .ok listing ∧
      assemble listing cols rows = .ok again ∧
      again.labels = p.labels.map (·.flatMap Label.halves) ∧
      (again.labels = p.labels ↔ ∀ l ∈ p.labels, ∀ q ∈ l, q.val < 0x10000) := by
  obtain ⟨c, rfl⟩ := Int.eq_ofNat_of_zero_le (by omega : 0 ≤ cols)
  obtain ⟨r, rfl⟩ := Int.eq_ofNat_of_zero_le (by omega : 0 ≤ rows)
  let g : Grid := ⟨c, r, by omega, by omega⟩
  obtain ⟨held, ss, parsed⟩ : Machine.sizeFor g ≤ Size.addresses ∧ ∃ ss, parse text = .ok ss :=
    parsed_of_assembled assembled
  have told : Describes g ss p := describes_of_assembled parsed held assembled
  have spelled := told_of_spells (spells_of_parse parsed)
  have named := told.named spelled
  have tellable := told.tellable spelled
  have held' : p.memory.length ≤ Size.addresses := by rwa [told.size]
  obtain ⟨heading, headed, run⟩ : ∃ lines,
      headingLines ⟨p.id, goalList p.goals, p.labels⟩ = .ok lines ∧
        Carries c r (Told p.memory none none fun _ => False) lines
          (Told p.memory p.id p.goals fun _ => False) :=
    carries_heading named tellable p.labels
  obtain ⟨b, -, assembled'⟩ := assemble_titled (g := g) held
    (run.append (carries_memory held' told.size)) (told.size ▸ told_empty p.memory)
  have cells : c * r ≤ Size.addresses := by
    rw [Machine.sizeFor] at held
    change _ + c * r * _ ≤ _ at held
    rw [Instruction.width] at held
    omega
  -- that the listing is assembled comes from the bytes it tells; its labels come from the statements
  obtain ⟨ss', spells', listed⟩ :=
    (tells_heading named tellable headed).append (tells_memory p.memory cells) [] []
      (.done (.none []))
  have labels : b.program.labels = p.labels.map (·.flatMap Label.halves) := by
    rw [(describes_of_assembled (parse_titled spells') held assembled').labels, listed]
    simp
  refine ⟨_, b.program, disassemble_eq told.size headed, assembled', labels, ?_⟩
  have each : p.labels.map (·.flatMap Label.halves) = p.labels.map id ↔
      ∀ l ∈ p.labels, l.flatMap Label.halves = id l := List.map_inj_left
  rw [List.map_id] at each
  rw [labels, each]
  exact forall₂_congr fun l _ => flatMap_halves_eq_iff l

section plainLabel
attribute [local instance] Label.bulletNames

/-- A label with a quote, a backslash, a bell, brackets, a semicolon and a named character. -/
def plainLabel : Text := "\"\\\x07[;]•"

/-- A text with that label. -/
def plainText : Text := ".label \"\\\"\\\\\\a[;]\\N\x7bBULLET\x7d\""

theorem labels_of_plainLabel :
    ∃ p listing again, assemble plainText 1 1 = .ok p ∧ p.labels = [plainLabel] ∧
      disassemble p.memory 1 1 ⟨p.id, goalList p.goals, p.labels⟩ = .ok listing ∧
      assemble listing 1 1 = .ok again ∧ again.labels = [plainLabel] := by
  have assembled : assemble plainText 1 1 = .ok ⟨Image.blank 28, none, none, [plainLabel]⟩ := by
    decide +kernel
  obtain ⟨listing, again, listed, assembled', -, same⟩ :=
    labels_of_listing (Int.le_refl 1) (Int.le_refl 1) assembled
  exact ⟨_, listing, again, assembled, rfl, listed, assembled', same.2 (by decide +kernel)⟩

end plainLabel

/-- A label of one code point outside the basic plane comes back with two. -/
theorem faceLabel_is_split :
    ∃ p listing again, assemble ".label \"😀\"" 1 1 = .ok p ∧
      disassemble p.memory 1 1 ⟨p.id, goalList p.goals, p.labels⟩ = .ok listing ∧
      assemble listing 1 1 = .ok again ∧
      p.labels = [[.ofNat 0x1F600]] ∧ again.labels = [[.ofNat 0xD83D, .ofNat 0xDE00]] :=
  ⟨⟨Image.blank 28, none, none, [[.ofNat 0x1F600]]⟩,
    Text.ofString "; bughop program, 1x1\n.label \"\\ud83d\\ude00\"\n",
    ⟨Image.blank 28, none, none, [[.ofNat 0xD83D, .ofNat 0xDE00]]⟩,
    by decide +kernel, by decide +kernel, by decide +kernel, rfl, rfl⟩

end CellWalk.Assembly
