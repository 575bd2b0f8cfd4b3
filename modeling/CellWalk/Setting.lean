/-!
# Settings

A setting is left open, given a value, or given without one. A setting without value is not the
same as an open one: no default stands in for it.
-/

namespace CellWalk
set_option autoImplicit false

inductive Setting (α : Type)
  /-- Left open. -/
  | unset
  /-- Given, but without a value. -/
  | void
  | value (a : α)
deriving DecidableEq, Repr

namespace Setting

variable {α β : Type}

/-- How a setting without value is shown. -/
def voidText : String := "[]"

/-- A setting that is left open if there is no value. -/
def ofOption : Option α → Setting α
  | none => .unset
  | some a => .value a

/-- A setting that is given, with or without a value. -/
def given : Option α → Setting α
  | none => .void
  | some a => .value a

/-- The value, or the default if the setting is left open; none if it is given without a value. -/
def valueOr (default : α) : Setting α → Option α
  | .unset => some default
  | .void => none
  | .value a => some a

def map (f : α → β) : Setting α → Setting β
  | .unset => .unset
  | .void => .void
  | .value a => .value (f a)

end Setting

end CellWalk
