/-!
# Sizes

A size is a number of bytes or items to be kept. It is not negative, no larger than the largest
index of the machine, and bytes need an address each.
-/

namespace CellWalk.Size
set_option autoImplicit false

/-- Why a number is no size. -/
inductive Defect
  | negative
  /-- No index reaches so far, up or down. -/
  | beyondIndex
  /-- There are not so many addresses. -/
  | beyondMemory
deriving DecidableEq, Repr

/-- The largest index. -/
def maxIndex : Nat := 0x7FFFFFFFFFFFFFFF

/-- The number of addresses. -/
def addresses : Nat := 0x800000000000

/-- A number of items. -/
def ofItems (n : Int) : Except Defect Nat :=
  if n < -(maxIndex : Int) - 1 ∨ (maxIndex : Int) < n then .error .beyondIndex
  else if n < 0 then .error .negative
  else .ok n.toNat

/-- A number of bytes. -/
def ofBytes (n : Int) : Except Defect Nat :=
  match ofItems n with
  | .error d => .error d
  | .ok size => if size ≤ addresses then .ok size else .error .beyondMemory

theorem addresses_le_maxIndex : addresses ≤ maxIndex := by decide

theorem ofItems_natCast {n : Nat} (h : n ≤ maxIndex) : ofItems n = .ok n := by
  have small : ¬((n : Int) < -(maxIndex : Int) - 1 ∨ (maxIndex : Int) < n) := by omega
  have natural : ¬(n : Int) < 0 := by omega
  rw [ofItems, if_neg small, if_neg natural, Int.toNat_natCast]

theorem ofBytes_natCast {n : Nat} (h : n ≤ addresses) : ofBytes n = .ok n := by
  rw [ofBytes, ofItems_natCast (Nat.le_trans h addresses_le_maxIndex)]
  exact if_pos h

end CellWalk.Size
