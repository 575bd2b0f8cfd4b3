/-!
# Bytes

Every cell of the machine's memory is one byte. A result outside `0 … 255` is stored as the
nearest byte (`clampByte`); a value that goes out through an outlet keeps its low eight bits
(`lowByte`).
-/

namespace CellWalk
set_option autoImplicit false

/-- The byte nearest to a number. -/
def clampByte (v : Int) : UInt8 :=
  if v < 0 then 0 else if 255 < v then 255 else UInt8.ofNat v.toNat

/-- The low eight bits of a number in two's complement. -/
def lowByte (v : Int) : UInt8 := UInt8.ofNat (v % 256).toNat

/-- The number as a byte, if it is one. -/
def byte? (v : Int) : Option UInt8 := if 0 ≤ v ∧ v ≤ 255 then some (clampByte v) else none

theorem clampByte_ofNat {n : Nat} (h : n ≤ 255) : clampByte n = UInt8.ofNat n := by
  have : ¬ (n : Int) < 0 := by omega
  have : ¬ (255 : Int) < n := by omega
  simp [clampByte, *]

@[simp] theorem clampByte_toNat (b : UInt8) : clampByte (b.toNat : Int) = b := by
  rw [clampByte_ofNat (by have := b.toNat_lt; omega)]
  simp

theorem toNat_clampByte (v : Int) : ((clampByte v).toNat : Int) = max 0 (min v 255) := by
  unfold clampByte
  split
  · simp; omega
  · split
    · simp; omega
    · simp; omega

end CellWalk
