import CellWalk.Json.Value
import CellWalk.Proofs.Assembly.Labels

/-!
# JSON strings are read back

A written string is read code point by code point: a short escape by its letter, a unit by its four
digits, and a code point above U+FFFF by the two units that are the halves of its pair. So a text comes
back as it was (`readString_quote`), provided that none of its code points is half of a pair itself, as
two halves that meet in the text would be joined.
-/

namespace CellWalk
set_option autoImplicit false

/-- No code point of the text is half of a surrogate pair. -/
def Text.Scalar (t : Text) : Prop := ∀ p ∈ t, p.isSurrogate = false

instance (t : Text) : Decidable t.Scalar := inferInstanceAs (Decidable (∀ p ∈ t, p.isSurrogate = false))

namespace Json
open Assembly.Label (backslash shortForms jsonEscape_cases inside_jsonEscapes)

/-! Units. -/

theorem unitEscape_append (n : Nat) (t : Text) : unitEscape n ++ t =
    backslash :: CodePoint.ofChar 'u' :: (Text.ofChars (Hex.ofNat 4 n) ++ t) := rfl

/-- Four hexadecimal digits are read back. -/
theorem takeUnit?_ofNat {n : Nat} (small : n < 0x10000) {t : Text} (more : t ≠ []) :
    takeUnit? (Text.ofChars (Hex.ofNat 4 n) ++ t) = some (n, t) := by
  have taken : Hex.take? 4 (Text.ofChars (Hex.ofNat 4 n) ++ t) = some (n, t) :=
    Hex.take?_ofNat (by decide) small t
  cases t with
  | nil => exact absurd rfl more
  | cons p t => simp [takeUnit?, taken]

theorem readUnit_single {n : Nat} (small : n < 0x10000) (single : isHighHalf n = false) {t : Text}
    (more : t ≠ []) :
    readUnit (Text.ofChars (Hex.ofNat 4 n) ++ t) = .ok (CodePoint.ofNat n, t) := by
  simp [readUnit, takeUnit?_ofNat small more, single]

/-- Two halves that follow each other are joined. -/
theorem readUnit_pair {high low : Nat} (first : isHighHalf high = true) (second : isLowHalf low = true)
    {t : Text} (more : t ≠ []) :
    readUnit (Text.ofChars (Hex.ofNat 4 high) ++ (unitEscape low ++ t)) =
      .ok (joinHalves high low, t) := by
  simp only [isHighHalf, Bool.and_eq_true, decide_eq_true_eq] at first
  have lowBounds := second
  simp only [isLowHalf, Bool.and_eq_true, decide_eq_true_eq] at lowBounds
  have long : 4 < (Text.ofChars (Hex.ofNat 4 low) ++ t).length := by
    have digits : (Hex.ofNat 4 low).length = 4 := Hex.length_ofNat (by decide) (by omega)
    have some_ := List.length_pos_iff.2 more
    rw [List.length_append, Text.length_ofChars]
    omega
  have starts : startsUnit (unitEscape low ++ t) = true := by
    rw [unitEscape_append, startsUnit, decide_eq_true long]
    rfl
  have behind : (unitEscape low ++ t).drop 2 = Text.ofChars (Hex.ofNat 4 low) ++ t := by
    rw [unitEscape_append]
    rfl
  have halves : (isHighHalf high && startsUnit (unitEscape low ++ t)) = true := by
    simp only [isHighHalf, starts, Bool.and_true, Bool.and_eq_true, decide_eq_true_eq]
    exact first
  have nonempty : unitEscape low ++ t ≠ [] := by
    rw [unitEscape_append]
    exact List.cons_ne_nil _ _
  simp only [readUnit, takeUnit?_ofNat (show high < 0x10000 by omega) nonempty, halves, if_true, behind,
    takeUnit?_ofNat (show low < 0x10000 by omega) more, second]

/-- A code point is what the halves of its pair are joined to. -/
theorem joinHalves_split {p : CodePoint} (large : ¬p.val < 0x10000) :
    joinHalves (0xD800 + (p.val - 0x10000) / 0x400) (0xDC00 + (p.val - 0x10000) % 0x400) = p := by
  have total : 0x10000 + (0xD800 + (p.val - 0x10000) / 0x400 - 0xD800) * 0x400 +
      (0xDC00 + (p.val - 0x10000) % 0x400 - 0xDC00) = p.val := by omega
  rw [joinHalves, total, p.ofNat_val]

/-! Strings. -/

variable {start fuel : Nat} {t rest : Text} {p c : CodePoint}

theorem readString_plain (noQuote : p.val ≠ 0x22) (noBackslash : p.val ≠ 0x5C) (noControl : 0x20 ≤ p.val) :
    readString start (fuel + 1) (p :: t) =
      (readString start fuel t).map fun r => (p :: r.1, r.2) := by
  have quote : p ≠ CodePoint.ofChar '"' := fun same => noQuote (congrArg CodePoint.val same)
  have slash : p ≠ CodePoint.ofChar '\\' := fun same => noBackslash (congrArg CodePoint.val same)
  rw [readString, if_neg quote, if_neg (Nat.not_lt.2 noControl), if_neg slash]
  dsimp only
  cases readString start fuel t <;> rfl

/-- An escape is read as its code point. -/
theorem readString_escaped (means : readEscape start t = .ok (c, rest)) :
    readString start (fuel + 1) (backslash :: t) =
      (readString start fuel rest).map fun r => (c :: r.1, r.2) := by
  have quote : backslash ≠ CodePoint.ofChar '"' := by decide
  have printable : ¬backslash.val < 0x20 := by decide
  have slash : backslash = CodePoint.ofChar '\\' := rfl
  rw [readString, if_neg quote, if_neg printable, if_pos slash, means]
  dsimp only
  cases readString start fuel rest <;> rfl

theorem readEscape_short {letter : Char} (known : (letter, p) ∈ shortForms) :
    readEscape start (CodePoint.ofChar letter :: t) = .ok (p, t) := by
  have plain : ∀ e ∈ shortForms, CodePoint.ofChar e.1 ≠ CodePoint.ofChar 'u' ∧
      shortEscape? e.1 = some e.2 := by decide
  obtain ⟨noUnit, means⟩ := plain _ known
  rw [readEscape, if_neg noUnit, CodePoint.toChar?_ofChar]
  simp only [Option.bind_some, means]

theorem readEscape_unit : readEscape start (CodePoint.ofChar 'u' :: t) = readUnit t := by
  rw [readEscape, if_pos rfl]

/-- One code point is read as it was written, if the string goes on behind it. -/
theorem readString_escape (scalar : p.isSurrogate = false) (more : t ≠ []) :
    readString start (fuel + 1) (escape p ++ t) =
      (readString start fuel t).map fun r => (p :: r.1, r.2) := by
  rcases jsonEscape_cases p with ⟨e, low, -, noQuote, noBackslash⟩ | ⟨letter, e, known⟩ | ⟨e, small⟩ |
    ⟨e, large⟩
  · rw [e]
    exact readString_plain noQuote noBackslash low
  · rw [e]
    exact readString_escaped (readEscape_short known)
  · have single : isHighHalf p.val = false := by
      simp only [CodePoint.isSurrogate, Bool.and_eq_false_iff, decide_eq_false_iff_not] at scalar
      simp only [isHighHalf, Bool.and_eq_false_iff, decide_eq_false_iff_not]
      omega
    have read : readEscape start (CodePoint.ofChar 'u' :: (Text.ofChars (Hex.ofNat 4 p.val) ++ t)) =
        .ok (p, t) := by
      rw [readEscape_unit, readUnit_single small single more, p.ofNat_val]
    rw [e, unitEscape_append]
    exact readString_escaped read
  · have bound := p.isLt
    have first : isHighHalf (0xD800 + (p.val - 0x10000) / 0x400) = true := by
      simp only [isHighHalf, Bool.and_eq_true, decide_eq_true_eq]
      omega
    have second : isLowHalf (0xDC00 + (p.val - 0x10000) % 0x400) = true := by
      simp only [isLowHalf, Bool.and_eq_true, decide_eq_true_eq]
      omega
    have read := readUnit_pair first second more
    rw [joinHalves_split large, ← readEscape_unit] at read
    rw [e, List.append_assoc, unitEscape_append]
    exact readString_escaped read

/-- A text without halves of pairs is read as it was written. -/
theorem readString_quote {id : Text} (scalar : id.Scalar) (enough : id.length < fuel) :
    readString start fuel (id.flatMap escape ++ CodePoint.ofChar '"' :: rest) = .ok (id, rest) := by
  induction id generalizing fuel with
  | nil =>
    obtain ⟨fuel, rfl⟩ := Nat.exists_eq_succ_of_ne_zero (Nat.ne_of_gt enough)
    rw [List.flatMap_nil, List.nil_append, readString, if_pos rfl]
  | cons p id ih =>
    obtain ⟨fuel, rfl⟩ := Nat.exists_eq_succ_of_ne_zero (Nat.ne_of_gt (Nat.zero_lt_of_lt enough))
    have tail : Text.Scalar id := fun q member => scalar q (List.mem_cons_of_mem p member)
    have more : id.flatMap escape ++ CodePoint.ofChar '"' :: rest ≠ [] := by simp
    rw [List.flatMap_cons, List.append_assoc, readString_escape (scalar p List.mem_cons_self) more,
      ih tail (Nat.lt_of_succ_lt_succ enough)]
    rfl

/-- What is written of a string is ASCII without controls. -/
theorem printable_of_mem_quote {id : Text} (member : p ∈ quote id) : 0x20 ≤ p.val ∧ p.val ≤ 0x7E := by
  rw [quote, List.cons_append, List.mem_cons, List.mem_append, List.mem_singleton] at member
  rcases member with rfl | inside | rfl
  · decide
  · exact (inside_jsonEscapes id).printable p inside
  · decide

/-! Documents. -/

theorem skipSpaces_cons (visible : isSpace p = false) : skipSpaces (p :: t) = p :: t := by
  apply List.dropWhile_cons_of_neg
  rw [visible]
  exact Bool.false_ne_true

theorem quote_append (id rest : Text) : quote id ++ rest =
    CodePoint.ofChar '"' :: (id.flatMap escape ++ CodePoint.ofChar '"' :: rest) := by
  simp [quote]

theorem skipSpaces_quote (id rest : Text) : skipSpaces (quote id ++ rest) = quote id ++ rest := by
  rw [quote_append]
  exact skipSpaces_cons (by decide)

/-- A string is a value. -/
theorem readValue_quote {id : Text} (scalar : id.Scalar) (enough : id.length < fuel) (depth : Nat) :
    readValue (fuel + 1) depth (quote id ++ rest) = .ok (.string id, rest) := by
  rw [quote_append, readValue.eq_def]
  simp only [if_pos, readString_quote scalar enough]
  rfl

/-- One member is read back from its key and its string. -/
theorem readMembers_member {key id : Text} (scalarKey : key.Scalar) (scalar : id.Scalar)
    (enoughKey : key.length < fuel + 1) (enough : id.length < fuel) (depth : Nat) :
    readMembers (fuel + 2) depth (quote key ++ (CodePoint.ofChar ':' :: CodePoint.ofChar ' ' ::
      (quote id ++ CodePoint.ofChar '\x7d' :: rest))) = .ok ([(key, .string id)], rest) := by
  have colon : skipSpaces (CodePoint.ofChar ':' :: CodePoint.ofChar ' ' ::
      (quote id ++ CodePoint.ofChar '\x7d' :: rest)) = _ := skipSpaces_cons (by decide)
  have blank : skipSpaces (CodePoint.ofChar ' ' :: (quote id ++ CodePoint.ofChar '\x7d' :: rest)) =
      quote id ++ CodePoint.ofChar '\x7d' :: rest := by
    rw [← skipSpaces_quote id]
    rfl
  have brace : skipSpaces (CodePoint.ofChar '\x7d' :: rest) = _ := skipSpaces_cons (by decide)
  rw [quote_append, readMembers.eq_def]
  simp only [if_pos, readString_quote scalarKey enoughKey, colon, blank,
    readValue_quote scalar enough, brace]

/-- An object with one member, which is a string. -/
theorem readValue_member {key id : Text} (scalarKey : key.Scalar) (scalar : id.Scalar)
    (enoughKey : key.length < fuel + 1) (enough : id.length < fuel) (depth : Nat) :
    readValue (fuel + 3) (depth + 1) (CodePoint.ofChar '\x7b' ::
      (quote key ++ (CodePoint.ofChar ':' :: CodePoint.ofChar ' ' ::
        (quote id ++ CodePoint.ofChar '\x7d' :: rest)))) = .ok (.object [(key, .string id)], rest) := by
  have noString : CodePoint.ofChar '\x7b' ≠ CodePoint.ofChar '"' := by decide
  have noArray : CodePoint.ofChar '\x7b' ≠ CodePoint.ofChar '[' := by decide
  have full : (quote key ++ (CodePoint.ofChar ':' :: CodePoint.ofChar ' ' ::
      (quote id ++ CodePoint.ofChar '\x7d' :: rest))).head? ≠ some (CodePoint.ofChar '\x7d') := by
    rw [quote_append, List.head?_cons]
    decide
  rw [readValue.eq_def]
  simp only [if_neg noString, if_neg noArray, if_pos, skipSpaces_quote, if_neg full,
    readMembers_member scalarKey scalar enoughKey enough]
  rfl

theorem escape_ne_nil (p : CodePoint) : escape p ≠ [] := by
  rcases jsonEscape_cases p with ⟨e, -⟩ | ⟨letter, e, -⟩ | ⟨e, -⟩ | ⟨e, -⟩ <;> rw [e] <;>
    exact List.cons_ne_nil _ _

theorem length_lt_quote (id : Text) : id.length < (quote id).length := by
  have each : id.length ≤ (id.flatMap escape).length := by
    induction id with
    | nil => exact Nat.le_refl 0
    | cons p id ih =>
      have some_ := List.length_pos_iff.2 (escape_ne_nil p)
      rw [List.flatMap_cons, List.length_append, List.length_cons]
      omega
  simp only [quote, List.length_append, List.length_cons, List.length_nil]
  omega

end Json

end CellWalk
