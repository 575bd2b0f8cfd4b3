import CellWalk.Assembly.Listing
import CellWalk.Proofs.Assembly.Labels

/-!
# Lines of a listing

Apart from its title, a listing consists of lines that each spell one statement: words with a space
between them, the first of them a keyword or the place of a cell (`phrase_cell` and its likes).
Every record has its words, plain or raw (`record_instructionText`).
-/

namespace CellWalk.Assembly
set_option autoImplicit false
open Grammar

/-- Words with a space before each, up to the end of their line. -/
def endOfLine (words : List Text) (rest : Text) : Text :=
  words.flatMap ((' ' : CodePoint) :: ·) ++ Text.newline :: rest

variable {w rest : Text} {words : List Text}

theorem endOfLine_cons (w : Text) (words : List Text) (rest : Text) :
    endOfLine (w :: words) rest = (' ' : CodePoint) :: (w ++ endOfLine words rest) := by
  rw [endOfLine, List.flatMap_cons, List.cons_append, List.cons_append, List.append_assoc, endOfLine]

theorem joinWords_endOfLine (w : Text) (words : List Text) (rest : Text) :
    Text.joinWords (w :: words) ++ Text.newline :: rest = w ++ endOfLine words rest := by
  induction words generalizing w with
  | nil => rfl
  | cons v words ih =>
    rw [Text.joinWords, List.append_assoc, List.cons_append, ih, endOfLine_cons]

theorem stops_endOfLine {kind : CodePoint → Prop} (noSpace : ¬ kind ' ')
    (noLineFeed : ¬ kind Text.newline) : Stops kind (endOfLine words rest) := by
  cases words with
  | nil => exact stops_cons noLineFeed _
  | cons w words => exact stops_cons noSpace _

/-- A word of a line comes behind the space before it. -/
theorem comesAt_word {kind : Lexical} (words : List Text) (isKind : kind w (endOfLine words rest)) :
    ∃ left, ComesAt kind (endOfLine (w :: words) rest) left (endOfLine words rest) := by
  refine ⟨_, w, ?_, isKind, rfl⟩
  rw [endOfLine_cons]
  exact .blank (by decide) (.none _)

theorem comes_word {kind : Lexical} (words : List Text) (isKind : kind w (endOfLine words rest)) :
    Comes kind (endOfLine (w :: words) rest) (endOfLine words rest) := by
  obtain ⟨_, w, layout, isKind, -⟩ := comesAt_word words isKind
  exact ⟨w, layout, isKind⟩

theorem comes_first {kind : Lexical} (isKind : kind w rest) : Comes kind (w ++ rest) rest :=
  ⟨w, .none _, isKind⟩

/-! Words. -/

/-- What can be counted in a memory has few digits. -/
theorem few_digits {n : Nat} (small : n ≤ Size.addresses) :
    (Decimal.ofNat n).length ≤ Decimal.maxDigits := by
  have fits : n < 10 ^ 20 := Nat.lt_of_le_of_lt small (by decide)
  exact Nat.le_trans ((Decimal.length_ofNat_le_iff (by decide)).2 fits) (by decide)

theorem few_digits_byte (b : UInt8) : (Decimal.ofNat b.toNat).length ≤ Decimal.maxDigits := by
  have := b.toNat_lt
  exact few_digits (Nat.le_trans (by omega : b.toNat ≤ 256) (by decide))

/-- A number in decimal denotes itself where no digit follows. -/
theorem number_ofNat {n : Nat} (few : (Decimal.ofNat n).length ≤ Decimal.maxDigits)
    (stops : Stops (·.isDigit = true) rest) : number n (Decimal.ofNat n) rest :=
  ⟨⟨0, rfl⟩, few, stops⟩

theorem number_word {n : Nat} (few : (Decimal.ofNat n).length ≤ Decimal.maxDigits) :
    number n (Decimal.ofNat n) (endOfLine words rest) :=
  number_ofNat few (stops_endOfLine (by decide) (by decide))

/-- And so does a byte, which has few digits. -/
theorem number_byteText (b : UInt8) : number b.toNat (byteText b) (endOfLine words rest) :=
  number_word (few_digits_byte b)

theorem forall₂_ascii (cs : List Char) : List.Forall₂ ascii cs (Text.ofChars cs) := by
  induction cs with
  | nil => exact .nil
  | cons c cs ih => exact .cons (.inl rfl) ih

/-- An upper-case word is one of the forms of itself. -/
theorem word_ofString (upper : String) :
    word ascii upper (Text.ofString upper) (endOfLine words rest) :=
  ⟨forall₂_ascii _, stops_endOfLine (by decide) (by decide)⟩

/-! Records. -/

theorem opcode_eq_of_op? {r : Instruction} {o : Opcode} (known : r.op? = some o) :
    o.code = r.opcode := by
  have found := List.find?_some known
  exact eq_of_beq found

theorem offset_eq_of_ofOffset? {v : UInt8} {r : Register}
    (known : Register.ofOffset? v.toNat = some r) : r.offset = v := by
  rw [Register.ofOffset?] at known
  have found := List.find?_some known
  exact UInt8.toNat_inj.1 (Int.ofNat_inj.1 (eq_of_beq found))

/-- A number right behind its sign. -/
theorem comes_signed (text : String) (b : UInt8) {sign : Char} (spelled : text.toList = [sign]) :
    ∃ a, Comes (fixed text) (endOfLine (((sign : CodePoint) :: byteText b) :: words) rest) a ∧
      Comes (number b.toNat) a (endOfLine words rest) := by
  refine ⟨byteText b ++ endOfLine words rest, ⟨[(sign : CodePoint)], ?_, ?_⟩,
    comes_first (number_byteText b)⟩
  · rw [endOfLine_cons]
    exact .blank (by decide) (.none _)
  · rw [fixed, Text.ofString, spelled]
    rfl

/-- The text of an operand says the operand and its mode. -/
theorem operand_operandText (operand : UInt8) {mode : UInt8}
    (known : mode = Instruction.immediateMode ∨ mode = Instruction.addressMode) :
    Operand ascii (endOfLine (operandText operand mode ++ words) rest) operand mode
      (endOfLine words rest) := by
  rw [operandText]
  rcases known with rfl | rfl
  · rw [if_neg (by decide)]
    split
    next zero =>
      subst zero
      exact .omitted _
    next =>
      obtain ⟨a, sign, value⟩ := comes_signed "#" operand rfl
      exact .immediate sign value
  · rw [if_pos rfl]
    split
    next r known =>
      rw [← offset_eq_of_ofOffset? known]
      exact .register (comes_word _ (word_ofString r.name))
    next =>
      obtain ⟨a, sign, value⟩ := comes_signed "@" operand rfl
      exact .address sign value

/-- The directions of a mask. -/
def maskDirections (dirs : UInt8) : List Direction :=
  Direction.all.filter fun d => sharesBit d.bit dirs.toNat

/-- A mask with no bits but the four is made of its directions. -/
theorem maskOf_maskDirections {dirs : UInt8} (low : dirs ≤ 15) :
    maskOf (maskDirections dirs) = dirs := by
  have each : ∀ n < 16, maskOf (maskDirections (UInt8.ofNat n)) = UInt8.ofNat n := by decide
  have small : dirs.toNat < 16 := Nat.lt_succ_of_le (UInt8.le_iff_toNat_le.1 low)
  have this := each dirs.toNat small
  rwa [UInt8.ofNat_toNat] at this

theorem stops_letters (rest : Text) :
    Stops (fun p => ∃ d : Direction, ascii d.letter p) ((']' : CodePoint) :: rest) := by
  refine stops_cons ?_ rest
  rintro ⟨d, isLetter⟩
  cases d <;> exact absurd isLetter (by unfold ascii; decide)

/-- The text of a mask says the mask. -/
theorem mask_maskText {dirs : UInt8} (low : dirs ≤ 15) (rest : Text) :
    Mask (endOfLine (maskText dirs) rest) dirs (endOfLine [] rest) := by
  have whole := maskOf_maskDirections low
  by_cases zero : dirs = 0
  · rw [maskText, if_pos zero, zero]
    exact .omitted _
  · have nonempty : maskDirections dirs ≠ [] := by
      intro none
      rw [none] at whole
      exact zero whole.symm
    have spelled : List.Forall₂ (fun d p => ascii (Direction.letter d) p) (maskDirections dirs)
        (Text.ofChars (maskLetters dirs.toNat)) :=
      List.forall₂_map_left_iff.1 (forall₂_ascii _)
    have opening : Comes (fixed "[") (endOfLine (maskText dirs) rest)
        (Text.ofChars (maskLetters dirs.toNat) ++ (']' : CodePoint) :: endOfLine [] rest) := by
      refine ⟨Text.ofString "[", ?_, rfl⟩
      rw [maskText, if_neg zero, endOfLine_cons, List.cons_append, Text.ofChars_cons,
        Text.ofChars_append, List.cons_append, List.append_assoc]
      exact .blank (by decide) (.none _)
    have mask := Mask.some opening (comes_first ⟨nonempty, spelled, stops_letters _⟩)
      (comes_first (w := Text.ofString "]") rfl)
    rw [whole] at mask
    exact mask

/-- A plain record has one of the two modes and no other bits in its mask. -/
theorem plain_of_isPlain {r : Instruction} (plain : isPlain r = true) :
    (r.mode = Instruction.immediateMode ∨ r.mode = Instruction.addressMode) ∧ r.dirs ≤ 15 := by
  simp only [isPlain, Bool.and_eq_true, Bool.or_eq_true, beq_iff_eq, decide_eq_true_eq] at plain
  exact ⟨plain.1.2, plain.2⟩

/-- The words of a record are read as the record. -/
theorem record_instructionText (r : Instruction) (rest : Text) :
    Record ascii ((' ' : CodePoint) :: (instructionText r ++ Text.newline :: rest)) r
      (Text.newline :: rest) := by
  rw [instructionText]
  split
  next o told =>
    obtain ⟨plain, known⟩ : isPlain r = true ∧ r.op? = some o := by
      cases plain : isPlain r <;> simp_all
    obtain ⟨mode, low⟩ := plain_of_isPlain plain
    rw [List.cons_append, joinWords_endOfLine, ← endOfLine_cons]
    have holds := Record.instruction (comes_word _ (word_ofString o.mnemonic))
      (operand_operandText r.operand mode) (mask_maskText low rest)
    rw [opcode_eq_of_op? known] at holds
    exact holds
  next =>
    rw [joinWords_endOfLine, ← endOfLine_cons]
    exact .raw (comes_word _ (forall₂_ascii ['D', 'B'])) (comes_word _ (number_byteText _))
      (comes_word _ (number_byteText _)) (comes_word _ (number_byteText _))
      (comes_word [] (number_byteText _))

/-- The values of the stack are read up to the end of their line. -/
theorem values_byteText (vs : List UInt8) (rest : Text) :
    Values (endOfLine (vs.map byteText) rest) vs (Text.newline :: rest) := by
  induction vs with
  | nil => exact .nil _
  | cons v vs ih => exact .cons (comes_word _ (number_byteText v)) ih

/-! Statements. -/

variable [CharacterNames]

theorem phrase_id {name : Text} (nonempty : name ≠ []) (named : ∀ p ∈ name, InName p) (rest : Text) :
    Phrase ascii (Text.ofString ".id " ++ name ++ Text.newline :: rest) (.id name)
      (Text.newline :: rest) := by
  have stops : Stops InName (endOfLine [] rest) :=
    stops_endOfLine (by decide) (by decide)
  have keyword : Comes (fixed ".id")
      (Text.joinWords [Text.ofString ".id", name] ++ Text.newline :: rest) (endOfLine [name] rest) := by
    rw [joinWords_endOfLine]
    exact comes_first rfl
  exact .id keyword (comes_word [] ⟨rfl, nonempty, named, stops⟩)

theorem phrase_cycles {gold silver bronze : Nat}
    (gold_ : (Decimal.ofNat gold).length ≤ Decimal.maxDigits)
    (silver_ : (Decimal.ofNat silver).length ≤ Decimal.maxDigits)
    (bronze_ : (Decimal.ofNat bronze).length ≤ Decimal.maxDigits) (rest : Text) :
    Phrase ascii (Text.joinWords [Text.ofString ".cycles", Decimal.ofNat gold, Decimal.ofNat silver,
      Decimal.ofNat bronze] ++ Text.newline :: rest) (.cycles gold silver bronze)
      (Text.newline :: rest) := by
  rw [joinWords_endOfLine]
  exact .cycles (comes_first rfl) (comes_word _ (number_word gold_)) (comes_word _ (number_word silver_))
    (comes_word [] (number_word bronze_))

/-- A label is quoted in another language than it is read in: code points beyond the basic plane come
back in halves. -/
theorem phrase_label (label rest : Text) :
    Phrase ascii (Text.ofString ".label " ++ Json.quote label ++ Text.newline :: rest)
      (.label (label.flatMap Label.halves)) (Text.newline :: rest) := by
  have keyword : Comes (fixed ".label")
      (Text.joinWords [Text.ofString ".label", Json.quote label] ++ Text.newline :: rest)
      (endOfLine [Json.quote label] rest) := by
    rw [joinWords_endOfLine]
    exact comes_first rfl
  exact .label keyword (comes_word [] (Label.string_quote label _))

/-- A register's line sets the byte at its address. -/
theorem phrase_register {r : Register} (proper : r ≠ .stk) (b : UInt8) (rest : Text) :
    ∃ left, Phrase ascii (Text.joinWords [Text.ofString ".reg", Text.ofString r.name, byteText b] ++
      Text.newline :: rest) (.byte r.address b left) (Text.newline :: rest) := by
  rw [joinWords_endOfLine]
  obtain ⟨left, register⟩ := comesAt_word [byteText b] (word_ofString r.name)
  exact ⟨left, .register (comes_first rfl) register proper
    (comes_word [] (number_byteText b))⟩

theorem phrase_byte {offset : Nat} (small : offset ≤ Size.addresses) (b : UInt8) (rest : Text) :
    ∃ left, Phrase ascii (Text.joinWords [Text.ofString ".byte", Decimal.ofNat offset, byteText b] ++
      Text.newline :: rest) (.byte offset b left) (Text.newline :: rest) := by
  rw [joinWords_endOfLine]
  obtain ⟨left, place⟩ :=
    comesAt_word [byteText b] (number_word (few_digits small))
  exact ⟨left, .byte (comes_first rfl) place (comes_word [] (number_byteText b))⟩

theorem phrase_stack {vs : List UInt8} (few : vs.length ≤ stackSlots) (rest : Text) :
    Phrase ascii (Text.joinWords (Text.ofString ".stack" :: vs.map byteText) ++ Text.newline :: rest)
      (.stack vs) (Text.newline :: rest) := by
  rw [joinWords_endOfLine]
  exact .stack (comes_first rfl) (values_byteText vs rest) few

/-- The line of a cell says its record, by a mnemonic if it is plain and raw otherwise. -/
theorem phrase_cell {row col : Nat} (row_ : row ≤ Size.addresses) (col_ : col ≤ Size.addresses)
    (r : Instruction) (rest : Text) :
    ∃ left, Phrase ascii (Decimal.ofNat row ++ (',' : CodePoint) ::
      (Decimal.ofNat col ++ Text.ofString ": " ++ instructionText r) ++ Text.newline :: rest)
      (.cell (.grid row col) r left) (Text.newline :: rest) := by
  have whole : Decimal.ofNat row ++ (',' : CodePoint) ::
      (Decimal.ofNat col ++ Text.ofString ": " ++ instructionText r) ++ Text.newline :: rest =
      Decimal.ofNat row ++ (Text.ofString "," ++ (Decimal.ofNat col ++ (Text.ofString ":" ++
        (' ' : CodePoint) :: (instructionText r ++ Text.newline :: rest)))) := by
    rw [List.append_assoc, List.cons_append, List.append_assoc, List.append_assoc]
    rfl
  rw [whole]
  refine ⟨_, .cell (.grid ⟨_, .none _, ?_, rfl⟩ (comes_first rfl) (comes_first ?_)) (comes_first rfl)
    (record_instructionText r rest)⟩
  · exact number_ofNat (few_digits row_) (stops_cons (by decide) _)
  · exact number_ofNat (few_digits col_) (stops_cons (by decide) _)

/-- The line of a cell gives its row and column, which are counted from its index. -/
theorem phrase_cellAt {n : Nat} (small : n ≤ Size.addresses) (c : Nat) (r : Instruction) (rest : Text) :
    ∃ left, Phrase ascii (Decimal.ofInt (Int.fdiv n c) ++ (',' : CodePoint) ::
      (Decimal.ofInt (Int.fmod n c) ++ Text.ofString ": " ++ instructionText r) ++ Text.newline :: rest)
      (.cell (.grid (n / c) (n % c)) r left) (Text.newline :: rest) := by
  rw [← Int.ofNat_fdiv, ← Int.ofNat_fmod, Decimal.ofInt_natCast, Decimal.ofInt_natCast]
  exact phrase_cell (Nat.le_trans (Nat.div_le_self n c) small)
    (Nat.le_trans (Nat.mod_le n c) small) r rest

end CellWalk.Assembly
