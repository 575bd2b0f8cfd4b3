import CellWalk.Proofs.Assembly.Lexemes
import CellWalk.Proofs.Decimal

/-!
# What tokens mean

A token that the reader finds means something exactly where the grammar has a lexeme with that meaning
(`comesAt_iff`): a number its digits, a name the word whose case forms it consists of, a mask the
directions of its letters.
-/

namespace CellWalk.Assembly
set_option autoImplicit false
open Grammar

/-- Lexemes of a kind with a meaning are the tokens of the class that have this meaning. -/
theorem comesAt_iff {lexeme : Lexeme} {kind meant : Lexical} (meaning : Text → Prop)
    (takes : lexeme.Takes kind) (means : ∀ {w rest}, meant w rest ↔ kind w rest ∧ meaning w)
    {t rest : Text} {left : Nat} :
    ComesAt meant t left rest ↔
      ∃ tok, nextToken lexeme t = some (tok, rest) ∧ meaning tok.text ∧ tok.left = left := by
  constructor
  · rintro ⟨w, layout, isMeant, rfl⟩
    obtain ⟨isKind, hasMeaning⟩ := means.1 isMeant
    exact ⟨⟨w, (w ++ rest).length⟩, (nextToken_iff takes).2 ⟨layout, isKind, rfl⟩, hasMeaning, rfl⟩
  · rintro ⟨tok, found, hasMeaning, rfl⟩
    obtain ⟨layout, isKind, left⟩ := (nextToken_iff takes).1 found
    exact ⟨tok.text, layout, means.2 ⟨isKind, hasMeaning⟩, left⟩

theorem comes_iff_comesAt {kind : Lexical} {t rest : Text} :
    Comes kind t rest ↔ ∃ left, ComesAt kind t left rest :=
  ⟨fun ⟨w, layout, isKind⟩ => ⟨_, w, layout, isKind, rfl⟩,
    fun ⟨_, w, layout, isKind, _⟩ => ⟨w, layout, isKind⟩⟩

/-- The same where the place is not asked. -/
theorem comes_iff {lexeme : Lexeme} {kind meant : Lexical} (meaning : Text → Prop)
    (takes : lexeme.Takes kind) (means : ∀ {w rest}, meant w rest ↔ kind w rest ∧ meaning w)
    {t rest : Text} :
    Comes meant t rest ↔ ∃ tok, nextToken lexeme t = some (tok, rest) ∧ meaning tok.text := by
  rw [comes_iff_comesAt]
  constructor
  · rintro ⟨left, comes⟩
    obtain ⟨tok, found, hasMeaning, -⟩ := (comesAt_iff meaning takes means).1 comes
    exact ⟨tok, found, hasMeaning⟩
  · rintro ⟨tok, found, hasMeaning⟩
    exact ⟨tok.left, (comesAt_iff meaning takes means).2 ⟨tok, found, hasMeaning, rfl⟩⟩

/-! Numbers. -/

theorem visible_of_isDigit (p : CodePoint) (digit : p.isDigit = true) : Visible p := by
  simp only [CodePoint.isDigit, Bool.and_eq_true, decide_eq_true_eq] at digit
  exact visible_of_printable (by omega) (by omega) (by omega)

theorem takes_number : Lexeme.number.Takes (Lexeme.Run CodePoint.isDigit) :=
  Lexeme.takes_span visible_of_isDigit

theorem value?_eq_some_iff {ds : Text} {n : Nat} :
    Decimal.value? ds = some n ↔ ds.length ≤ Decimal.maxDigits ∧ Decimal.value ds = n := by
  simp [Decimal.value?]

/-- A number is a run of digits with its value, and leading zeros count among the digits that it may
have. -/
theorem number_iff {n : Nat} {w rest : Text} :
    number n w rest ↔
      Lexeme.Run CodePoint.isDigit w rest ∧ Decimal.value? w = some n := by
  rw [value?_eq_some_iff]
  constructor
  · rintro ⟨⟨zeros, rfl⟩, short, stops⟩
    refine ⟨⟨?_, ?_, stops⟩, short, by rw [Decimal.value_zeros, Decimal.value_ofNat]⟩
    · exact fun empty => Decimal.ofNat_ne_nil n (List.append_eq_nil_iff.1 empty).2
    · intro p member
      rcases List.mem_append.1 member with zero | digit
      · rw [List.eq_of_mem_replicate zero]
        decide
      · exact Decimal.isDigit_of_mem_ofNat digit
  · rintro ⟨⟨nonempty, digits, stops⟩, short, rfl⟩
    exact ⟨Decimal.exists_zeros digits nonempty, short, stops⟩

theorem number_eq_ok_iff {tok : Token} {n : Nat} :
    tok.number = .ok n ↔ Decimal.value? tok.text = some n := by
  unfold Token.number
  split <;> simp_all

/-- A number comes next exactly if the reader finds a token that denotes it. -/
theorem comesAt_number_iff {n left : Nat} {t rest : Text} :
    ComesAt (number n) t left rest ↔
      ∃ tok, nextToken .number t = some (tok, rest) ∧ tok.number = .ok n ∧ tok.left = left := by
  simp only [number_eq_ok_iff]
  exact comesAt_iff (fun w => Decimal.value? w = some n) takes_number number_iff

theorem comes_number_iff {n : Nat} {t rest : Text} :
    Comes (number n) t rest ↔
      ∃ tok, nextToken .number t = some (tok, rest) ∧ tok.number = .ok n := by
  simp only [number_eq_ok_iff]
  exact comes_iff (fun w => Decimal.value? w = some n) takes_number number_iff

/-- A byte is a number that is not too large for one. -/
theorem byte_eq_ok_iff {tok : Token} {v : UInt8} : tok.byte = .ok v ↔ tok.number = .ok v.toNat := by
  have small := v.toNat_lt
  unfold Token.byte
  cases tok.number with
  | error e => simp [bind, Except.bind]
  | ok n =>
    simp only [bind, Except.bind]
    split
    · rename_i fits
      simp only [pure, Except.pure, Except.ok.injEq]
      constructor
      · rintro rfl
        simp
        omega
      · rintro rfl
        simp
    · rename_i large
      simp only [throw, throwThe, MonadExceptOf.throw, Except.ok.injEq, reduceCtorEq, false_iff]
      omega

theorem comes_byte_iff {v : UInt8} {t rest : Text} :
    Comes (number v.toNat) t rest ↔
      ∃ tok, nextToken .number t = some (tok, rest) ∧ tok.byte = .ok v := by
  simp only [byte_eq_ok_iff]
  exact comes_number_iff

/-! Fixed texts, ids and strings. -/

/-- A fixed text means itself. -/
theorem comes_fixed_iff {c : Char} {cs : List Char} {text : String} (spelled : text.toList = c :: cs)
    (visible : Visible c) {t rest : Text} :
    Comes (fixed text) t rest ↔ ∃ tok, nextToken (.fixed (c :: cs)) t = some (tok, rest) := by
  have takes := Lexeme.takes_fixed cs visible
  have means : ∀ {w rest}, fixed text w rest ↔ w = Text.ofChars (c :: cs) ∧ True := by
    intro w rest
    rw [fixed, Text.ofString, spelled, and_true]
  rw [comes_iff (fun _ => True) takes means]
  simp only [and_true]

theorem inName_iff {p : CodePoint} : InName p ↔ Lexeme.isNamePoint p = true := by
  simp [InName, Lexeme.isNamePoint, or_assoc]

theorem visible_of_isNamePoint (p : CodePoint) (inName : Lexeme.isNamePoint p = true) :
    Visible p := by
  rcases inName_iff.2 inName with letter | digit | rfl | rfl
  · simp only [CodePoint.isLetter, Bool.or_eq_true, Bool.and_eq_true, decide_eq_true_eq] at letter
    exact visible_of_printable (by omega) (by omega) (by omega)
  · exact visible_of_isDigit p digit
  · decide
  · decide

theorem takes_name : Lexeme.name.Takes (Lexeme.Run Lexeme.isNamePoint) :=
  Lexeme.takes_span visible_of_isNamePoint

/-- An id ends where its code points do. -/
theorem comes_name_iff {id t rest : Text} :
    Comes (name id) t rest ↔ ∃ tok, nextToken .name t = some (tok, rest) ∧ tok.text = id := by
  refine comes_iff (fun w => w = id) takes_name ?_
  intro w rest
  simp only [name, Stops, inName_iff, Lexeme.Run]
  constructor
  · rintro ⟨rfl, nonempty, all, stops⟩
    exact ⟨⟨nonempty, all, stops⟩, rfl⟩
  · rintro ⟨⟨nonempty, all, stops⟩, rfl⟩
    exact ⟨rfl, nonempty, all, stops⟩

/-- A string means the label that it decodes to; one that does not decode is no lexeme of the grammar. -/
theorem comes_string_iff [CharacterNames] {label t rest : Text} :
    Comes (string label) t rest ↔
      ∃ tok, nextToken .string t = some (tok, rest) ∧ Label.decode tok.text = .ok label :=
  comes_iff (fun w => Label.decode w = .ok label) Lexeme.takes_string Iff.rfl

/-! Words. -/

/-- Small letters have their capitals 32 before them, and nothing else has one of its own. -/
theorem toNat_toUpper (c : Char) :
    c.toUpper.toNat = if 97 ≤ c.toNat ∧ c.toNat ≤ 122 then c.toNat - 32 else c.toNat := by
  have small : 'a'.val ≤ c.val ∧ c.val ≤ 'z'.val ↔ 97 ≤ c.toNat ∧ c.toNat ≤ 122 := by
    rw [UInt32.le_iff_toNat_le, UInt32.le_iff_toNat_le]
    rfl
  unfold Char.toUpper
  by_cases range : 97 ≤ c.toNat ∧ c.toNat ≤ 122
  · rw [dif_pos (small.2 range), if_pos range]
    change (c.val + ('A'.val - 'a'.val)).toNat = _
    have step : ('A'.val - 'a'.val).toNat = 0xFFFFFFE0 := rfl
    have self : c.val.toNat = c.toNat := rfl
    rw [UInt32.toNat_add, step, self]
    omega
  · rw [dif_neg (mt small.1 range), if_neg range]

theorem toChar?_eq_some_iff {p : CodePoint} {c : Char} : p.toChar? = some c ↔ p.val = c.toNat := by
  constructor
  · intro h
    by_cases valid : p.val.isValidChar
    · rw [CodePoint.toChar?, dif_pos valid] at h
      cases h
      rfl
    · rw [CodePoint.toChar?, dif_neg valid] at h
      cases h
  · intro h
    rw [CodePoint.eq_of_val (q := .ofChar c) h, CodePoint.toChar?_ofChar]

/-- Exactly the folded forms of an upper-case letter have it as their capital. -/
theorem upper?_eq_some_iff {c : Char} (upper : IsUpper c) {p : CodePoint} :
    upper? p = some c ↔ folded c p := by
  obtain ⟨low, high⟩ := upper
  have same : ∀ d : Char, d = c ↔ d.toNat = c.toNat :=
    fun d => ⟨congrArg _, fun e => Char.toNat_inj.1 e⟩
  unfold upper? folded ascii
  split
  · rename_i longS
    rw [longS, Option.some.injEq]
    constructor
    · exact fun e => .inr (.inl ⟨e.symm, rfl⟩)
    · rintro ((e | e) | ⟨rfl, -⟩ | ⟨-, e⟩) <;> first | rfl | omega
  · rename_i noLongS
    split
    · rename_i dotless
      rw [dotless, Option.some.injEq]
      constructor
      · exact fun e => .inr (.inr ⟨e.symm, rfl⟩)
      · rintro ((e | e) | ⟨-, e⟩ | ⟨rfl, -⟩) <;> first | rfl | omega
    · rename_i noDotless
      rw [Option.map_eq_some_iff]
      constructor
      · rintro ⟨d, isChar, e⟩
        rw [toChar?_eq_some_iff] at isChar
        rw [same, toNat_toUpper] at e
        left
        split at e <;> omega
      · intro form
        have value : p.val = c.toNat ∨ p.val = c.toNat + 32 := by
          rcases form with form | ⟨-, e⟩ | ⟨-, e⟩
          · exact form
          · exact absurd e noLongS
          · exact absurd e noDotless
        have valid : p.val.isValidChar := .inl (by omega)
        refine ⟨Char.ofNatAux p.val valid, by rw [CodePoint.toChar?, dif_pos valid], ?_⟩
        have number : (Char.ofNatAux p.val valid).toNat = p.val := rfl
        rw [same, toNat_toUpper, number]
        split <;> omega

/-- A word reads as an upper-case name exactly if it consists of folded forms of its letters. -/
theorem mapM_upper?_eq_some_iff {cs : List Char} (upper : IsUpperWord cs) {w : Text} :
    w.mapM upper? = some cs ↔ List.Forall₂ folded cs w := by
  induction w generalizing cs with
  | nil =>
    cases cs with
    | nil => simp
    | cons c cs => simp
  | cons p w ih =>
    rw [List.mapM_cons]
    constructor
    · intro h
      obtain ⟨c, first, h⟩ := Option.bind_eq_some_iff.1 h
      obtain ⟨ds, rest, h⟩ := Option.bind_eq_some_iff.1 h
      cases h
      exact .cons ((upper?_eq_some_iff (upper c List.mem_cons_self)).1 first)
        ((ih fun d member => upper d (List.mem_cons_of_mem _ member)).1 rest)
    · intro forms
      cases forms with
      | cons first rest =>
        rw [(upper?_eq_some_iff (upper _ List.mem_cons_self)).2 first,
          (ih fun d member => upper d (List.mem_cons_of_mem _ member)).2 rest]
        rfl

/-- A token has a capitalised name exactly if it consists of folded forms of its letters. -/
theorem upperName?_eq_some_iff {tok : Token} {name : String} (upper : IsUpperWord name.toList) :
    tok.upperName? = some name ↔ List.Forall₂ folded name.toList tok.text := by
  rw [← mapM_upper?_eq_some_iff upper, Token.upperName?, Option.map_eq_some_iff]
  constructor
  · rintro ⟨cs, found, rfl⟩
    rw [found, String.toList_ofList]
  · intro found
    exact ⟨name.toList, found, String.ofList_toList⟩

/-- What is folded to a letter is read as it. -/
theorem isFormOf_of_folded {c : Char} {p : CodePoint} (form : folded c p) :
    Lexeme.isFormOf c p = true := by
  rw [Lexeme.isFormOf_iff]
  rcases form with (e | e) | longS | ⟨letter, e⟩
  · exact .inl e
  · exact .inr (.inl e)
  · exact .inr (.inr (.inl longS))
  · exact .inr (.inr (.inr (.inl ⟨letter, .inr e⟩)))

/-- A word of a list is one of the list's lexemes. -/
theorem word_iff {words : List (List Char)} {name : String} (listed : name.toList ∈ words)
    {w rest : Text} :
    word folded name w rest ↔
      Lexeme.OneOf words w rest ∧ List.Forall₂ folded name.toList w := by
  constructor
  · rintro ⟨forms, boundary⟩
    exact ⟨⟨⟨name.toList, listed, forms.imp fun _ _ => isFormOf_of_folded⟩, boundary⟩, forms⟩
  · rintro ⟨⟨-, boundary⟩, forms⟩
    exact ⟨forms, boundary⟩

/-- No two opcodes have one mnemonic. -/
theorem ofMnemonic?_eq_some_iff {name : String} {o : Opcode} :
    Opcode.ofMnemonic? name = some o ↔ name = o.mnemonic := by
  constructor
  · intro h
    have same := List.find?_some h
    exact (beq_iff_eq.1 same).symm
  · rintro rfl
    cases o <;> decide

/-- No two registers have one name. -/
theorem ofName?_eq_some_iff {name : String} {r : Register} :
    Register.ofName? name = some r ↔ name = r.name := by
  constructor
  · intro h
    have same := List.find?_some h
    exact (beq_iff_eq.1 same).symm
  · rintro rfl
    cases r <;> decide

/-- A token names an opcode exactly if it consists of folded forms of its mnemonic. -/
theorem opcode_eq_ok_iff {tok : Token} {o : Opcode} :
    tok.opcode = .ok o ↔ List.Forall₂ folded o.mnemonic.toList tok.text := by
  have upper : IsUpperWord o.mnemonic.toList := by cases o <;> decide
  rw [← upperName?_eq_some_iff upper]
  have named : tok.opcode = .ok o ↔ tok.upperName?.bind Opcode.ofMnemonic? = some o := by
    unfold Token.opcode
    cases tok.upperName?.bind Opcode.ofMnemonic? <;> simp
  rw [named, Option.bind_eq_some_iff]
  simp [ofMnemonic?_eq_some_iff]

/-- It is the same with registers. -/
theorem register_eq_ok_iff {tok : Token} {r : Register} :
    tok.register = .ok r ↔ List.Forall₂ folded r.name.toList tok.text := by
  have upper : IsUpperWord r.name.toList := by cases r <;> decide
  rw [← upperName?_eq_some_iff upper]
  have named : tok.register = .ok r ↔ tok.upperName?.bind Register.ofName? = some r := by
    unfold Token.register
    cases tok.upperName?.bind Register.ofName? <;> simp
  rw [named, Option.bind_eq_some_iff]
  simp [ofName?_eq_some_iff]

theorem mem_mnemonics (o : Opcode) : o.mnemonic.toList ∈ Lexeme.mnemonics :=
  List.mem_map_of_mem (by cases o <;> decide)

theorem mem_registerNames (r : Register) : r.name.toList ∈ Lexeme.registerNames :=
  List.mem_map_of_mem (by cases r <;> decide)

theorem comes_opcode_iff {o : Opcode} {t rest : Text} :
    Comes (word folded o.mnemonic) t rest ↔
      ∃ tok, nextToken .mnemonic t = some (tok, rest) ∧ tok.opcode = .ok o := by
  simp only [opcode_eq_ok_iff]
  exact comes_iff (fun w => List.Forall₂ folded o.mnemonic.toList w)
    Lexeme.takes_mnemonic (word_iff (mem_mnemonics o))

theorem comesAt_register_iff {r : Register} {t rest : Text} {left : Nat} :
    ComesAt (word folded r.name) t left rest ↔
      ∃ tok, nextToken .register t = some (tok, rest) ∧ tok.register = .ok r ∧ tok.left = left := by
  simp only [register_eq_ok_iff]
  exact comesAt_iff (fun w => List.Forall₂ folded r.name.toList w)
    Lexeme.takes_register (word_iff (mem_registerNames r))

theorem comes_register_iff {r : Register} {t rest : Text} :
    Comes (word folded r.name) t rest ↔
      ∃ tok, nextToken .register t = some (tok, rest) ∧ tok.register = .ok r := by
  simp only [register_eq_ok_iff]
  exact comes_iff (fun w => List.Forall₂ folded r.name.toList w)
    Lexeme.takes_register (word_iff (mem_registerNames r))

theorem comes_rawBytes_iff {t rest : Text} :
    Comes rawBytes t rest ↔ ∃ tok, nextToken .rawBytes t = some (tok, rest) := by
  rw [comes_iff (fun _ => True) Lexeme.takes_rawBytes (and_true _).symm.to_iff]
  simp only [and_true]

/-! Masks. -/

/-- The letters of directions have no forms beyond upper and lower case. -/
theorem isDirectionLetter_iff {p : CodePoint} :
    Lexeme.isDirectionLetter p = true ↔ ∃ d : Direction, ascii d.letter p := by
  have plain : ∀ d : Direction, d.letter ≠ 'S' ∧ d.letter ≠ 'I' ∧ d.letter ≠ 'K' := by
    intro d
    cases d <;> decide
  rw [Lexeme.isDirectionLetter, List.any_eq_true]
  constructor
  · rintro ⟨d, -, form⟩
    exact ⟨d, (Lexeme.isFormOf_iff_ascii (plain d)).1 form⟩
  · rintro ⟨d, form⟩
    exact ⟨d, by cases d <;> decide, (Lexeme.isFormOf_iff_ascii (plain d)).2 form⟩

theorem takes_directions : Lexeme.directions.Takes (Lexeme.Run Lexeme.isDirectionLetter) := by
  refine Lexeme.takes_span fun p letter => ?_
  obtain ⟨d, form⟩ := isDirectionLetter_iff.1 letter
  have upper : IsUpper d.letter := by cases d <;> decide
  exact Lexeme.visible_of_isFormOf upper (isFormOf_of_folded (.inl form))

/-- A letter names the direction whose form it is. -/
theorem ofLetter?_of_ascii {d : Direction} {p : CodePoint} (form : ascii d.letter p) :
    (upper? p).bind Direction.ofLetter? = some d := by
  have upper : IsUpper d.letter := by cases d <;> decide
  rw [(upper?_eq_some_iff upper).2 (.inl form), Option.bind_some]
  cases d <;> decide

/-- Every letter adds its bit; a repeated one adds nothing. -/
theorem foldl_mask {ds : List Direction} {w : Text}
    (forms : List.Forall₂ (fun d p => ascii d.letter p) ds w) (mask : UInt8) :
    w.foldl (fun mask p =>
        match (upper? p).bind Direction.ofLetter? with
        | some d => mask ||| d.bit
        | none => mask) mask =
      ds.foldl (fun mask d => mask ||| d.bit) mask := by
  induction forms generalizing mask with
  | nil => rfl
  | cons form _ ih =>
    rw [List.foldl_cons, List.foldl_cons, ofLetter?_of_ascii form]
    exact ih _

theorem mask_of_forms {ds : List Direction} {tok : Token}
    (forms : List.Forall₂ (fun d p => ascii d.letter p) ds tok.text) : tok.mask = maskOf ds :=
  foldl_mask forms 0

/-- A run of such letters is the letters of some directions. -/
theorem exists_directions {w : Text} (all : ∀ p ∈ w, Lexeme.isDirectionLetter p = true) :
    ∃ ds, List.Forall₂ (fun (d : Direction) p => ascii d.letter p) ds w := by
  induction w with
  | nil => exact ⟨[], .nil⟩
  | cons p w ih =>
    obtain ⟨d, form⟩ := isDirectionLetter_iff.1 (all p List.mem_cons_self)
    obtain ⟨ds, forms⟩ := ih fun q member => all q (List.mem_cons_of_mem _ member)
    exact ⟨d :: ds, .cons form forms⟩

theorem letters_iff {ds : List Direction} {w rest : Text} :
    letters ds w rest ↔
      Lexeme.Run Lexeme.isDirectionLetter w rest ∧
        List.Forall₂ (fun d p => ascii d.letter p) ds w := by
  simp only [letters, Stops, Lexeme.Run, ← isDirectionLetter_iff]
  constructor
  · rintro ⟨nonempty, forms, stops⟩
    refine ⟨⟨?_, fun p member => ?_, stops⟩, forms⟩
    · rintro rfl
      cases forms
      exact nonempty rfl
    · obtain ⟨i, inside, rfl⟩ := List.getElem_of_mem member
      have inside' : i < ds.length := forms.length_eq ▸ inside
      exact isDirectionLetter_iff.2 ⟨_, forms.get inside' inside⟩
  · rintro ⟨⟨nonempty, -, stops⟩, forms⟩
    refine ⟨?_, forms, stops⟩
    rintro rfl
    cases forms
    exact nonempty rfl

theorem comes_letters_iff {ds : List Direction} {t rest : Text} :
    Comes (letters ds) t rest ↔
      ∃ tok, nextToken .directions t = some (tok, rest) ∧
        List.Forall₂ (fun d p => ascii d.letter p) ds tok.text :=
  comes_iff (fun w => List.Forall₂ (fun d p => ascii d.letter p) ds w)
    takes_directions letters_iff

end CellWalk.Assembly
