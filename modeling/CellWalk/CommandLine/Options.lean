import CellWalk.CommandLine.Number
import CellWalk.Setting

/-!
# Options

A command takes options and a fixed number of other arguments, in any order. A long option may be
cut short as long as no other starts alike, its value may follow an equals sign, short options
without value may be joined, and after two dashes everything is an argument. A negative number
and anything with a space in it is an argument though it starts with a dash. Two dashes after an
equals sign give an option without a value.

The options are looked at in order. A value that does not do, or an option that cannot be read, ends
the reading, and so does asking for help; words too many or too few are told only at the end.
-/

namespace CellWalk.CommandLine
set_option autoImplicit false

/-- An option with its spellings, dashes included. Without a key it asks how to use the command. -/
structure OptionSpec (κ : Type) where
  key : Option κ
  names : List String
  takesValue : Bool

/-- A command line that is no request. -/
inductive UsageError
  | help
  | ambiguous
  | unknown
  | missingValue
  | unwantedValue
  | badValue
  | missingArgument
  | extraArgument
deriving DecidableEq, Repr

/-- An option that is given, without a key if it asks for help, and its value. -/
abbrev Given (κ : Type) := Option κ × Option Text

/-- What a command line says: the options in the order given, and the other arguments. -/
structure Parsed (κ : Type) where
  options : List (Given κ)
  arguments : List Text
  /-- What is wrong after those options, if anything is. -/
  defect : Option UsageError

/-- What an argument is taken for. -/
inductive Word (κ : Type)
  /-- An option, and what follows its equals sign or its letter. -/
  | option (o : OptionSpec κ) (short : Bool) (attached : Option Text)
  | unknown
  | argument (t : Text)
  /-- Two dashes. -/
  | separator

/-- The part before the first equals sign and the part after it. -/
def splitEquals (t : Text) : Option (Text × Text) :=
  let equals : CodePoint := '='
  if t.contains equals then some (t.takeWhile (· != equals), (t.dropWhile (· != equals)).drop 1)
  else none

def dash : CodePoint := '-'

variable {κ : Type}

/-- Every spelling of every option. -/
def spellings (options : List (OptionSpec κ)) : List (Text × OptionSpec κ) :=
  options.flatMap fun o => o.names.map fun n => (Text.ofString n, o)

/-- The option with exactly this spelling. -/
def spelled? (options : List (OptionSpec κ)) (t : Text) : Option (OptionSpec κ) :=
  ((spellings options).find? fun s => s.1 == t).map (·.2)

/-- The options that a spelling may be short for, with what is attached to it. -/
def candidates (options : List (OptionSpec κ)) (t : Text) :
    List (OptionSpec κ × Bool × Option Text) :=
  if [dash, dash].isPrefixOf t then
    let (front, attached) := match splitEquals t with
      | some (front, value) => (front, some value)
      | none => (t, none)
    (spellings options).filterMap fun s =>
      if front.isPrefixOf s.1 then some (s.2, false, attached) else none
  else
    (spellings options).filterMap fun s =>
      if s.1 == t.take 2 then some (s.2, true, some (t.drop 2))
      else if t.isPrefixOf s.1 then some (s.2, false, none)
      else none

/-- What an argument before any two dashes is taken for. -/
def classify (options : List (OptionSpec κ)) (t : Text) : Except UsageError (Word κ) :=
  if t.head? ≠ some dash then .ok (.argument t)
  else
    match spelled? options t with
    | some o => .ok (.option o (t.length == 2) none)
    | none =>
      if t.length = 1 then .ok (.argument t)
      else
        match (splitEquals t).bind fun e => (spelled? options e.1).map fun o => (o, e) with
        | some (o, name, value) => .ok (.option o (name.length == 2) (some value))
        | none =>
          match candidates options t with
          | [(o, short, attached)] => .ok (.option o short attached)
          | _ :: _ :: _ => .error .ambiguous
          | [] =>
            if looksNegative t || t.contains (' ' : CodePoint) then .ok (.argument t)
            else .ok .unknown

/-- What the arguments are taken for. -/
def classifyAll (options : List (OptionSpec κ)) :
    List Text → Except UsageError (List (Word κ))
  | [] => .ok []
  | t :: rest =>
    if t = [dash, dash] then .ok (.separator :: rest.map .argument)
    else do return (← classify options t) :: (← classifyAll options rest)

/-- An option as given. Two dashes are no value. -/
def OptionSpec.given (o : OptionSpec κ) (value : Option Text) : Given κ :=
  (o.key, value.filter (· != [dash, dash]))

/-- Short options joined after a first one. The first that takes a value takes all that follows;
one at the very end would have none. -/
def joined (options : List (OptionSpec κ)) (first : OptionSpec κ) :
    Text → Except UsageError (List (Given κ))
  | [] => .error .unwantedValue
  | c :: cs =>
    match spelled? options [dash, c] with
    | none => .error .unwantedValue
    | some o =>
      if o.takesValue then
        if cs.isEmpty then .error .missingValue
        else .ok [first.given none, o.given (some cs)]
      else if cs.isEmpty then .ok [first.given none, o.given none]
      else (joined options o cs).map (first.given none :: ·)

/-- Where the reading of the words stands. -/
structure Progress (κ : Type) where
  options : List (Given κ)
  arguments : List Text
  /-- How many more arguments the command takes. -/
  free : Nat
  /-- Whether the last word was an argument, which a separator may still follow. -/
  afterArgument : Bool
  /-- The first word that has no place, if there was one. -/
  stray : Option UsageError

namespace Progress

/-- The reading ends with a defect or without one. -/
def finish (p : Progress κ) (defect : Option UsageError) : Parsed κ :=
  ⟨p.options, p.arguments, defect⟩

/-- A word has no place. -/
def skip (p : Progress κ) (e : UsageError) : Progress κ :=
  { p with afterArgument := false, stray := p.stray.or (some e) }

/-- Options are given. -/
def give (p : Progress κ) (options : List (Given κ)) : Progress κ :=
  { p with options := p.options ++ options, afterArgument := false }

/-- What is wrong at the end of all words. -/
def defect (p : Progress κ) : Option UsageError :=
  p.stray.or (if p.free = 0 then none else some .missingArgument)

end Progress

/-- Reads the words one after the other. -/
def collect (options : List (OptionSpec κ)) (p : Progress κ) : List (Word κ) → Parsed κ
  | [] => p.finish p.defect
  | .unknown :: rest => collect options (p.skip .unknown) rest
  | .separator :: rest =>
    match p.free, p.afterArgument with
    | 0, false => collect options (p.skip .extraArgument) rest
    | _, _ => collect options { p with afterArgument := false } rest
  | .argument t :: rest =>
    match p.free with
    | 0 => collect options (p.skip .extraArgument) rest
    | free + 1 =>
      collect options { p with arguments := p.arguments ++ [t], free, afterArgument := true } rest
  | .option o short attached :: rest =>
    match o.takesValue, attached, rest with
    | true, some value, rest => collect options (p.give [o.given (some value)]) rest
    | true, none, .argument value :: rest =>
      collect options (p.give [o.given (some value)]) rest
    | true, none, _ => p.finish (some .missingValue)
    | false, none, rest => collect options (p.give [o.given none]) rest
    | false, some letters, rest =>
      match if short then joined options o letters else .error .unwantedValue with
      | .ok given => collect options (p.give given) rest
      | .error e => p.finish (some e)

/-- What a command line says, for a command that takes `count` arguments beside its options. -/
def parse (options : List (OptionSpec κ)) (count : Nat) (args : List Text) : Parsed κ :=
  match classifyAll options args with
  | .ok words => collect options ⟨[], [], count, false, none⟩ words
  | .error e => ⟨[], [], some e⟩

variable {ρ : Type}

/-- A request with the options that are given, one after the other. -/
def settle (apply : ρ → κ → Option Text → Except UsageError ρ) :
    ρ → List (Given κ) → Except UsageError ρ
  | r, [] => .ok r
  | _, (none, _) :: _ => .error .help
  | r, (some key, value) :: rest =>
    match apply r key value with
    | .ok r => settle apply r rest
    | .error e => .error e

/-- The value of an option that takes a number. -/
def number (value : Option Text) : Except UsageError (Setting Int) :=
  match value with
  | none => .ok .void
  | some t =>
    match integer? t with
    | some n => .ok (.value n)
    | none => .error .badValue

/-- The request of a command line, from the one that asks for nothing. -/
def Parsed.request (p : Parsed κ) (apply : ρ → κ → Option Text → Except UsageError ρ) (plain : ρ) :
    Except UsageError ρ :=
  match settle apply plain p.options, p.defect with
  | .error e, _ => .error e
  | .ok _, some e => .error e
  | .ok r, none => .ok r

end CellWalk.CommandLine
