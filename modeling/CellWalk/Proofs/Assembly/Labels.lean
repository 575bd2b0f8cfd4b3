import CellWalk.Json.Quote
import CellWalk.Proofs.Decimal
import CellWalk.Proofs.Assembly.Grammar

/-!
# Labels that are JSON strings

A listing holds its labels as JSON strings, and a program text has its own idea of escapes. Both
agree on what a JSON string needs, except that no escape of a program text joins two halves of a
surrogate pair (`decode_quote`).
-/

namespace CellWalk
set_option autoImplicit false

namespace Hex

theorem digit?_digitChar : ∀ d < 16, digit? (CodePoint.ofChar (Nat.digitChar d)) = some d := by
  decide

/-- The hexadecimal digits of a number have its value. -/
theorem toDigits_eq (n : Nat) : ∃ ds : List Nat,
    Nat.toDigits 16 n = ds.map Nat.digitChar ∧ (∀ d ∈ ds, d < 16) ∧
      ds.foldl (16 * · + ·) 0 = n := by
  induction n using Nat.strongRecOn with
  | ind n ih =>
    by_cases small : n < 16
    · refine ⟨[n], Nat.toDigits_of_lt_base small, ?_, by simp⟩
      intro d member
      rw [List.mem_singleton.1 member]
      exact small
    · obtain ⟨ds, written, digits, total⟩ := ih (n / 16) (by omega)
      refine ⟨ds ++ [n % 16], ?_, ?_, ?_⟩
      · rw [Nat.toDigits_of_base_le (by decide) (by omega), written, List.map_append]
        rfl
      · intro d member
        rcases List.mem_append.1 member with h | h
        · exact digits d h
        · rw [List.mem_singleton.1 h]
          exact Nat.mod_lt n (by decide)
      · rw [List.foldl_append, total]
        simp only [List.foldl_cons, List.foldl_nil]
        omega

/-- The digits of a number, leading zeros included. -/
theorem ofNat_eq (width n : Nat) : ∃ ds : List Nat,
    ofNat width n = ds.map Nat.digitChar ∧ (∀ d ∈ ds, d < 16) ∧
      ds.foldl (16 * · + ·) 0 = n := by
  obtain ⟨ds, written, digits, total⟩ := toDigits_eq n
  refine ⟨List.replicate (width - ds.length) 0 ++ ds, ?_, ?_, ?_⟩
  · rw [ofNat, written, List.length_map, List.map_append, List.map_replicate]
    rfl
  · intro d member
    rcases List.mem_append.1 member with h | h
    · rw [List.eq_of_mem_replicate h]
      decide
    · exact digits d h
  · have nothing : ∀ k, (List.replicate k 0).foldl (16 * · + ·) 0 = 0 := by
      intro k
      induction k with
      | zero => rfl
      | succ k ih => exact ih
    rw [List.foldl_append, nothing, total]

theorem mapM_digit? {ds : List Nat} (digits : ∀ d ∈ ds, d < 16) :
    (Text.ofChars (ds.map Nat.digitChar)).mapM digit? = some ds := by
  induction ds with
  | nil => rfl
  | cons d ds ih =>
    rw [List.map_cons, Text.ofChars_cons, List.mapM_cons, digit?_digitChar d (digits d (by simp)),
      ih fun d h => digits d (by simp [h])]
    rfl

/-- No digit is a quote, a backslash or anything but printable ASCII. -/
theorem printable_of_mem_ofNat {width n : Nat} {q : CodePoint}
    (member : q ∈ Text.ofChars (ofNat width n)) :
    0x20 ≤ q.val ∧ q.val ≤ 0x7E ∧ q.val ≠ 0x22 ∧ q.val ≠ 0x5C := by
  have plain : ∀ d < 16, 0x20 ≤ (CodePoint.ofChar (Nat.digitChar d)).val ∧
      (CodePoint.ofChar (Nat.digitChar d)).val ≤ 0x7E ∧
      (CodePoint.ofChar (Nat.digitChar d)).val ≠ 0x22 ∧
      (CodePoint.ofChar (Nat.digitChar d)).val ≠ 0x5C := by decide
  obtain ⟨ds, written, digits, -⟩ := ofNat_eq width n
  rw [written] at member
  obtain ⟨c, inDigits, rfl⟩ := List.mem_map.1 member
  obtain ⟨d, isDigit, rfl⟩ := List.mem_map.1 inDigits
  exact plain d (digits d isDigit)

theorem length_ofNat {width n : Nat} (pos : 0 < width) (small : n < 16 ^ width) :
    (ofNat width n).length = width := by
  have fits := (Nat.length_toDigits_le_iff (by decide) pos).2 small
  rw [ofNat, List.length_append, List.length_replicate]
  omega

/-- A number written with all its digits is read again. -/
theorem take?_ofNat {width n : Nat} (pos : 0 < width) (small : n < 16 ^ width) (rest : Text) :
    take? width (Text.ofChars (ofNat width n) ++ rest) = some (n, rest) := by
  have exact_ : (Text.ofChars (ofNat width n)).length = width := by
    rw [Text.length_ofChars, length_ofNat pos small]
  have front : (Text.ofChars (ofNat width n) ++ rest).take width = _ := List.take_left' exact_
  have behind : (Text.ofChars (ofNat width n) ++ rest).drop width = rest := List.drop_left' exact_
  obtain ⟨ds, written, digits, total⟩ := ofNat_eq width n
  rw [take?]
  simp only [front, behind, exact_, if_true]
  rw [written, mapM_digit? digits, Option.map_some, total]

end Hex

namespace Assembly.Label
open Json (unitEscape)
open Grammar (StringBody)

/-- What a code point is read as from a JSON string: itself, or the two halves of its pair. -/
def halves (p : CodePoint) : Text :=
  if p.val < 0x10000 then [p]
  else [.ofNat (0xD800 + (p.val - 0x10000) / 0x400), .ofNat (0xDC00 + (p.val - 0x10000) % 0x400)]

/-- The escapes of one letter that a JSON string has, and what they stand for. -/
def shortForms : List (Char × CodePoint) :=
  [('"', '"'), ('\\', '\\'), ('n', '\n'), ('r', '\r'), ('t', '\t'), ('f', '\x0c'), ('b', '\x08')]

/-- How a JSON string writes a code point: plainly, by a letter, or by one or two units. -/
theorem jsonEscape_cases (p : CodePoint) :
    (Json.escape p = [p] ∧ 0x20 ≤ p.val ∧ p.val ≤ 0x7E ∧ p.val ≠ 0x22 ∧ p.val ≠ 0x5C) ∨
    (∃ c, Json.escape p = [backslash, CodePoint.ofChar c] ∧ (c, p) ∈ shortForms) ∨
    (Json.escape p = unitEscape p.val ∧ p.val < 0x10000) ∨
    (Json.escape p = unitEscape (0xD800 + (p.val - 0x10000) / 0x400) ++
      unitEscape (0xDC00 + (p.val - 0x10000) % 0x400) ∧ ¬p.val < 0x10000) := by
  have short : ∀ (c : Char) (q : CodePoint), p.val = q.val → (c, q) ∈ shortForms →
      (c, p) ∈ shortForms := by
    intro c q same known
    rwa [CodePoint.eq_of_val same]
  rw [Json.escape]
  split
  next plain => exact .inl ⟨rfl, plain⟩
  split
  next quoted =>
    refine .inr (.inl ?_)
    have itself : ∀ q : CodePoint, p.val = q.val → [backslash, p] = [backslash, q] :=
      fun q same => by rw [CodePoint.eq_of_val same]
    rcases quoted with h | h
    · exact ⟨'"', itself _ h, short _ '"' h (by decide)⟩
    · exact ⟨'\\', itself _ h, short _ '\\' h (by decide)⟩
  split
  next h => exact .inr (.inl ⟨'n', rfl, short _ '\n' h (by decide)⟩)
  split
  next h => exact .inr (.inl ⟨'r', rfl, short _ '\r' h (by decide)⟩)
  split
  next h => exact .inr (.inl ⟨'t', rfl, short _ '\t' h (by decide)⟩)
  split
  next h => exact .inr (.inl ⟨'f', rfl, short _ '\x0c' h (by decide)⟩)
  split
  next h => exact .inr (.inl ⟨'b', rfl, short _ '\x08' h (by decide)⟩)
  split
  next small => exact .inr (.inr (.inl ⟨rfl, small⟩))
  next large => exact .inr (.inr (.inr ⟨rfl, large⟩))

theorem small_of_mem_shortForms : ∀ e ∈ shortForms, e.2.val < 0x10000 ∧
    0x20 ≤ (CodePoint.ofChar e.1).val ∧ (CodePoint.ofChar e.1).val ≤ 0x7E := by
  decide

section reading
variable [CharacterNames]

/-- A code point that begins no escape and no line means itself. -/
theorem unescape_plain {p : CodePoint} (noBackslash : p ≠ backslash) (noReturn : p ≠ '\r')
    (t : Text) : unescape (p :: t) = (unescape t).map (p :: ·) := by
  rw [unescape, if_neg noBackslash, if_neg noReturn]

/-- An escape means what it stands for, and the text goes on behind it. -/
theorem unescape_escape {t out : Text} {taken : Nat} (means : escape t = some (out, taken)) :
    unescape (backslash :: t) = (unescape (t.drop taken)).map (out ++ ·) := by
  rw [unescape, if_pos rfl, means]

theorem escape_short {c : Char} {p : CodePoint} (t : Text) (known : (c, p) ∈ shortForms) :
    escape (CodePoint.ofChar c :: t) = some ([p], 1) := by
  simp only [shortForms, List.mem_cons, Prod.mk.injEq, List.not_mem_nil, or_false] at known
  rcases known with h | h | h | h | h | h | h <;> obtain ⟨rfl, rfl⟩ := h <;> rfl

theorem escape_unit {n : Nat} (small : n < 0x10000) (t : Text) :
    escape (CodePoint.ofChar 'u' :: (Text.ofChars (Hex.ofNat 4 n) ++ t)) =
      some ([CodePoint.ofNat n], 5) := by
  have read : Hex.take? 4 (Text.ofChars (Hex.ofNat 4 n) ++ t) = some (n, t) :=
    Hex.take?_ofNat (by decide) small t
  have point : CodePoint.ofNat? n = some (CodePoint.ofNat n) := by
    rw [CodePoint.ofNat, CodePoint.ofNat?, dif_pos (by omega), Option.getD_some]
  have noOctal : isOctal (CodePoint.ofChar 'u') = false := by decide
  have letter : (CodePoint.ofChar 'u').toChar? = some 'u' := CodePoint.toChar?_ofChar 'u'
  simp [escape, noOctal, letter, shortEscape?, hexDigits?, read, point]

theorem unescape_unit {n : Nat} (small : n < 0x10000) (t : Text) :
    unescape (unitEscape n ++ t) = (unescape t).map (CodePoint.ofNat n :: ·) := by
  have size : (Text.ofChars (Hex.ofNat 4 n)).length = 4 := by
    rw [Text.length_ofChars, Hex.length_ofNat (by decide) small]
  have step := unescape_escape (escape_unit small t)
  rw [List.drop_succ_cons, List.drop_left' size] at step
  exact step

/-- What is quoted for a code point means its halves. -/
theorem unescape_jsonEscape (p : CodePoint) (t : Text) :
    unescape (Json.escape p ++ t) = (unescape t).map (halves p ++ ·) := by
  have itself : p.val < 0x10000 → halves p = [p] := fun small => if_pos small
  rcases jsonEscape_cases p with ⟨e, low, high, -, noBackslash⟩ | ⟨c, e, known⟩ | ⟨e, small⟩ |
    ⟨e, large⟩
  · rw [e, itself (by omega)]
    refine unescape_plain (fun h => noBackslash (congrArg CodePoint.val h)) (fun h => ?_) t
    have : p.val = 13 := congrArg CodePoint.val h
    omega
  · rw [e, itself (small_of_mem_shortForms _ known).1]
    exact unescape_escape (escape_short t known)
  · rw [e, unescape_unit small, p.ofNat_val, itself small]
    rfl
  · have bound := p.isLt
    rw [e, List.append_assoc, unescape_unit (by omega), unescape_unit (by omega), halves, if_neg large]
    cases unescape t <;> rfl

theorem unescape_jsonEscapes (l : Text) :
    unescape (l.flatMap Json.escape) = some (l.flatMap halves) := by
  induction l with
  | nil => rw [List.flatMap_nil, unescape, List.flatMap_nil]
  | cons p l ih => rw [List.flatMap_cons, unescape_jsonEscape, ih, Option.map_some, List.flatMap_cons]

end reading

/-- What may stand between the quotes of a label, all of it printable ASCII. -/
structure Inside (t : Text) : Prop where
  body : StringBody t
  printable : ∀ p ∈ t, 0x20 ≤ p.val ∧ p.val ≤ 0x7E

/-- The bodies of two strings make the body of one. -/
theorem stringBody_append {a b : Text} (first : StringBody a) (second : StringBody b) :
    StringBody (a ++ b) := by
  induction first with
  | nil => exact second
  | plain noQuote noBackslash noLineFeed _ ih => exact .plain noQuote noBackslash noLineFeed ih
  | escape noLineFeed _ ih => exact .escape noLineFeed ih

theorem Inside.append {a b : Text} (first : Inside a) (second : Inside b) : Inside (a ++ b) := by
  refine ⟨stringBody_append first.body second.body, ?_⟩
  intro p member
  rcases List.mem_append.1 member with h | h
  · exact first.printable p h
  · exact second.printable p h

theorem ne_newline {p : CodePoint} (printable : 0x20 ≤ p.val) : p ≠ Text.newline := by
  rintro rfl
  exact absurd printable (by decide)

theorem inside_of_plain {t : Text} (plain : ∀ p ∈ t, 0x20 ≤ p.val ∧ p.val ≤ 0x7E ∧
    p.val ≠ 0x22 ∧ p.val ≠ 0x5C) : Inside t := by
  refine ⟨?_, fun p member => ⟨(plain p member).1, (plain p member).2.1⟩⟩
  induction t with
  | nil => exact .nil
  | cons p t ih =>
    obtain ⟨low, -, noQuote, noBackslash⟩ := plain p (by simp)
    exact .plain (fun h => noQuote (congrArg CodePoint.val h))
      (fun h => noBackslash (congrArg CodePoint.val h)) (ne_newline low)
      (ih fun q member => plain q (by simp [member]))

theorem inside_escape {p : CodePoint} {t : Text} (low : 0x20 ≤ p.val) (high : p.val ≤ 0x7E)
    (more : Inside t) : Inside (backslash :: p :: t) := by
  refine ⟨.escape (ne_newline low) more.body, ?_⟩
  intro q member
  rcases List.mem_cons.1 member with rfl | member
  · decide
  · rcases List.mem_cons.1 member with rfl | member
    · exact ⟨low, high⟩
    · exact more.printable q member

theorem inside_unit (n : Nat) : Inside (unitEscape n) :=
  inside_escape (p := 'u') (by decide) (by decide)
    (inside_of_plain fun _ => Hex.printable_of_mem_ofNat)

/-- Nothing that is quoted ends the string or its line. -/
theorem inside_jsonEscape (p : CodePoint) : Inside (Json.escape p) := by
  rcases jsonEscape_cases p with ⟨e, plain⟩ | ⟨c, e, known⟩ | ⟨e, -⟩ | ⟨e, -⟩
  · rw [e]
    refine inside_of_plain fun q member => ?_
    rw [List.mem_singleton.1 member]
    exact plain
  · obtain ⟨-, low, high⟩ := small_of_mem_shortForms _ known
    rw [e]
    exact inside_escape low high (inside_of_plain fun _ member => absurd member List.not_mem_nil)
  · rw [e]
    exact inside_unit _
  · rw [e]
    exact (inside_unit _).append (inside_unit _)

theorem inside_jsonEscapes (l : Text) : Inside (l.flatMap Json.escape) := by
  induction l with
  | nil => exact inside_of_plain fun _ member => absurd member List.not_mem_nil
  | cons p l ih => exact (inside_jsonEscape p).append ih

/-- A JSON string is read as a label. -/
theorem decode_quote [CharacterNames] (l : Text) : decode (Json.quote l) = .ok (l.flatMap halves) := by
  have inside := inside_jsonEscapes l
  have content : (Json.quote l).tail.dropLast = l.flatMap Json.escape := by
    rw [Json.quote, List.cons_append, List.tail_cons, List.dropLast_concat]
  have noSurrogate : (l.flatMap Json.escape).any CodePoint.isSurrogate = false := by
    rw [List.any_eq_false]
    intro p member
    have := inside.printable p member
    simp [CodePoint.isSurrogate]
    omega
  have noZero : (l.flatMap Json.escape).any (·.val == 0) = false := by
    rw [List.any_eq_false]
    intro p member
    have := inside.printable p member
    simp
    omega
  simp only [decode, content, noSurrogate, noZero, unescape_jsonEscapes, Bool.false_eq_true, if_false]

/-- A JSON string stands for a label, whatever follows it. -/
theorem string_quote [CharacterNames] (l rest : Text) :
    Grammar.string (l.flatMap halves) (Json.quote l) rest :=
  ⟨⟨l.flatMap Json.escape, rfl, (inside_jsonEscapes l).body⟩, decode_quote l⟩

/-- A table with a single name. -/
abbrev bulletNames : CharacterNames := .ofTable [(Text.ofString "BULLET", '•')]

example : @decode bulletNames "\"\\N\x7bBULLET\x7d\"" = .ok ['•'] := by decide +kernel

end Assembly.Label

end CellWalk
