import CellWalk.Image

/-!
# Undo history

A stack of whole memory images, one for every change that can be taken back. A limited history
forgets its oldest images; there is no way forward again after an undo.
-/

namespace CellWalk
set_option autoImplicit false

/-- A limit that no history has. -/
inductive LimitError
  | notPositive (limit : Int)
  /-- The limit is no number of items. -/
  | beyondIndex
deriving DecidableEq, Repr

/-- What is told about the error; a limit that is too large is never told. -/
def LimitError.message? : LimitError → Option String
  | .notPositive limit => some s!"History limit must be positive, got {limit}"
  | .beyondIndex => none

/-- The images to go back to, newest first, and how many of them are kept at most. -/
structure History where
  limit : Option { n : Nat // 0 < n }
  entries : List Image
deriving DecidableEq

namespace History

/-- An empty history that keeps everything. -/
def unlimited : History := ⟨none, []⟩

/-- An empty history with the given limit, which must not be beyond every index. -/
def ofLimit (limit : Option { n : Nat // 0 < n }) : Except LimitError History :=
  match limit with
  | none => .ok unlimited
  | some n => if n.val ≤ Size.maxIndex then .ok ⟨some n, []⟩ else .error .beyondIndex

/-- An empty history with the given limit, which has to be positive. -/
def create : Option Int → Except LimitError History
  | none => .ok unlimited
  | some n => if h : 0 < n.toNat then ofLimit (some ⟨n.toNat, h⟩) else .error (.notPositive n)

/-- The images that a limit leaves of a list, newest first. -/
def keep (limit : Option { n : Nat // 0 < n }) (entries : List Image) : List Image :=
  match limit with
  | none => entries
  | some n => entries.take n

def push (h : History) (image : Image) : History :=
  { h with entries := keep h.limit (image :: h.entries) }

/-- The newest image. -/
def peek? (h : History) : Option Image := h.entries.head?

def clear (h : History) : History := { h with entries := [] }

def size (h : History) : Nat := h.entries.length

@[simp] theorem limit_push (h : History) (image : Image) : (h.push image).limit = h.limit := rfl

theorem entries_push_unlimited {h : History} (none : h.limit = none) (image : Image) :
    (h.push image).entries = image :: h.entries := by
  simp [push, keep, none]

end History

end CellWalk
