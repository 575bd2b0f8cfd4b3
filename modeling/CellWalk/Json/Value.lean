import CellWalk.Json.Defect
import CellWalk.Json.Quote

/-!
# JSON documents

A document is one value with blanks around it. Beside the standard's numbers, `NaN`, `Infinity`
and `-Infinity` are read; an integer may not have more digits than any other number
(`Decimal.maxDigits`), and values lie in one another at most `maxDepth` deep. Of two members with
one key the later counts (`Value.member?`). Reading stops at the first defect.
-/

namespace CellWalk.Json
set_option autoImplicit false

/-- A JSON value. Nothing asks for a number's size, so none is kept. -/
inductive Value
  | null
  | boolean (b : Bool)
  | number
  | string (t : Text)
  | array (items : List Value)
  | object (members : List (Text × Value))

/-- The last member of an object with the given key. -/
def Value.member? (key : Text) : Value → Option Value
  | .object members => (members.reverse.find? fun m => m.1 == key).map (·.2)
  | _ => none

def Value.text? : Value → Option Text
  | .string t => some t
  | _ => none

/-- What is read from the start of a text, and what follows it. -/
abbrev Result (α : Type) := Except Defect (α × Text)

/-- How deep arrays and objects may lie in one another. -/
def maxDepth : Nat := 990

/-- A space, a tab or a line end. -/
def isSpace (p : CodePoint) : Bool :=
  p.val == 0x20 || p.val == 0x09 || p.val == 0x0A || p.val == 0x0D

def skipSpaces (t : Text) : Text := t.dropWhile isSpace

/-! ## Strings -/

/-- The four digits of a code unit. They do not end the document. -/
def takeUnit? (t : Text) : Option (Nat × Text) := (Hex.take? 4 t).filter fun r => !r.2.isEmpty

/-- Whether the text goes on with the escape of a unit and more than that. -/
def startsUnit : Text → Bool
  | b :: u :: rest => b = '\\' && u = 'u' && 4 < rest.length
  | _ => false

/-- The number of an escape whose `\u` is already read; a low half that follows a high one in an
escape of its own is joined to it. -/
def readUnit (t : Text) : Result CodePoint :=
  match takeUnit? t with
  | none => .error (.complaint .unit (t.length + 1))
  | some (n, rest) =>
    if isHighHalf n && startsUnit rest then
      match takeUnit? (rest.drop 2) with
      | none => .error (.complaint .unit (rest.length - 1))
      | some (m, rest') => .ok (if isLowHalf m then (joinHalves n m, rest') else (.ofNat n, rest))
    else .ok (.ofNat n, rest)

/-- What an escape stands for, after its backslash. `start` is how much text is left where the
string starts. -/
def readEscape (start : Nat) : Text → Result CodePoint
  | [] => .error (.complaint .unterminated start)
  | e :: t =>
    if e = 'u' then readUnit t
    else
      match e.toChar?.bind shortEscape? with
      | some c => .ok (c, t)
      | none => .error (.complaint .escape (t.length + 2))

/-- The rest of a string after its opening quote, and what follows the closing one. Refused are
raw controls, unknown escapes, malformed numbers and a string that does not end. The fuel bounds
the number of code points that the string stands for. -/
def readString (start : Nat) : Nat → Text → Result Text
  | 0, _ => .error (.complaint .unterminated start)
  | _ + 1, [] => .error (.complaint .unterminated start)
  | fuel + 1, p :: t =>
    if p = '"' then .ok ([], t)
    else if p.val < 0x20 then .error (.complaint .control (t.length + 1))
    else
      match if p = '\\' then readEscape start t else .ok (p, t) with
      | .error d => .error d
      | .ok (c, rest) =>
        match readString start fuel rest with
        | .error d => .error d
        | .ok (cs, rest) => .ok (c :: cs, rest)

/-! ## Numbers and words -/

/-- What follows the word, if the text starts with it. -/
def takeWord? (word : String) (t : Text) : Option Text :=
  let w := Text.ofString word
  if w.isPrefixOf t then some (t.drop w.length) else none

/-- The digits of a whole part, and what follows: one zero, or a run without leading zero. -/
def takeWhole? : Text → Option (Text × Text)
  | [] => none
  | d :: t =>
    if d = '0' then some ([d], t)
    else if d.isDigit then some (d :: t.takeWhile CodePoint.isDigit, t.dropWhile CodePoint.isDigit)
    else none

/-- What follows a fraction, if there is one. -/
def takeFraction? : Text → Option Text
  | p :: d :: t => if p = '.' ∧ d.isDigit then some (t.dropWhile CodePoint.isDigit) else none
  | _ => none

/-- What follows an exponent, if there is one. -/
def takeExponent? : Text → Option Text
  | e :: t =>
    if e = 'e' ∨ e = 'E' then
      let unsigned := match t with
        | s :: t' => if s = '+' ∨ s = '-' then t' else t
        | [] => []
      match unsigned with
      | d :: t' => if d.isDigit then some (t'.dropWhile CodePoint.isDigit) else none
      | [] => none
    else none
  | [] => none

/-- A number. -/
def readNumber (t : Text) : Result Value :=
  let unsigned := match t with
    | s :: t' => if s = '-' then t' else t
    | [] => []
  match takeWhole? unsigned with
  | none => .error (.complaint .noValue t.length)
  | some (digits, rest) =>
    match takeFraction? rest, takeExponent? ((takeFraction? rest).getD rest) with
    | none, none =>
      if digits.length ≤ Decimal.maxDigits then .ok (.number, rest)
      else .error (.tooManyDigits digits.length)
    | some r, none => .ok (.number, r)
    | _, some r => .ok (.number, r)

/-- The values that are words. -/
def words : List (String × Value) := [
  ("null", .null), ("true", .boolean true), ("false", .boolean false),
  ("NaN", .number), ("Infinity", .number), ("-Infinity", .number)]

/-- A value that is one word or a number. -/
def readScalar (t : Text) : Result Value :=
  match words.findSome? fun w => (takeWord? w.1 t).map (w.2, ·) with
  | some r => .ok r
  | none => readNumber t

/-! ## Values -/

mutual

/-- A value at the start of the text. The fuel bounds the steps taken, `depth` how much deeper
values may lie in this one. -/
def readValue : Nat → Nat → Text → Result Value
  | 0, _, t => .error (.complaint .noValue t.length)
  | _ + 1, _, [] => .error (.complaint .noValue 0)
  | fuel + 1, depth, p :: t =>
    if p = '"' then (readString (t.length + 1) fuel t).map fun r => (.string r.1, r.2)
    else if p = '[' then
      match depth with
      | 0 => .error .tooDeep
      | depth + 1 =>
        let t := skipSpaces t
        if t.head? = some (']' : CodePoint) then .ok (.array [], t.tail)
        else (readItems fuel depth t).map fun r => (.array r.1, r.2)
    else if p = '\x7b' then
      match depth with
      | 0 => .error .tooDeep
      | depth + 1 =>
        let t := skipSpaces t
        if t.head? = some ('\x7d' : CodePoint) then .ok (.object [], t.tail)
        else (readMembers fuel depth t).map fun r => (.object r.1, r.2)
    else readScalar (p :: t)

/-- The items of an array up to its closing bracket. -/
def readItems : Nat → Nat → Text → Result (List Value)
  | 0, _, t => .error (.complaint .noValue t.length)
  | fuel + 1, depth, t =>
    match readValue fuel depth t with
    | .error d => .error d
    | .ok (v, rest) =>
      match skipSpaces rest with
      | [] => .error (.complaint .noComma 0)
      | p :: rest =>
        if p = ']' then .ok ([v], rest)
        else if p = ',' then (readItems fuel depth (skipSpaces rest)).map fun r => (v :: r.1, r.2)
        else .error (.complaint .noComma (rest.length + 1))

/-- The members of an object up to its closing brace. -/
def readMembers : Nat → Nat → Text → Result (List (Text × Value))
  | 0, _, t => .error (.complaint .noName t.length)
  | _ + 1, _, [] => .error (.complaint .noName 0)
  | fuel + 1, depth, q :: t =>
    if q = '"' then
      match readString (t.length + 1) fuel t with
      | .error d => .error d
      | .ok (key, rest) =>
        match skipSpaces rest with
        | [] => .error (.complaint .noColon 0)
        | c :: rest =>
          if c = ':' then
            match readValue fuel depth (skipSpaces rest) with
            | .error d => .error d
            | .ok (v, rest) =>
              match skipSpaces rest with
              | [] => .error (.complaint .noComma 0)
              | p :: rest =>
                if p = '\x7d' then .ok ([(key, v)], rest)
                else if p = ',' then
                  (readMembers fuel depth (skipSpaces rest)).map fun r => ((key, v) :: r.1, r.2)
                else .error (.complaint .noComma (rest.length + 1))
          else .error (.complaint .noColon (rest.length + 1))
    else .error (.complaint .noName (t.length + 1))

end

/-- The value of a whole document. A byte order mark is no blank. -/
def parse (t : Text) : Except Defect Value :=
  if t.head?.any (·.val == 0xFEFF) then .error (.complaint .mark t.length)
  else
    match readValue (2 * t.length + 2) maxDepth (skipSpaces t) with
    | .error d => .error d
    | .ok (v, rest) =>
      match skipSpaces rest with
      | [] => .ok v
      | p :: rest => .error (.complaint .trailing (p :: rest).length)

end CellWalk.Json
