import CellWalk.Byte
import CellWalk.Size

/-!
# Memory images

A memory is a sequence of bytes of fixed length. Reading outside it gives 0 and writing outside
it does nothing, so no address is an error; a written value is clamped to a byte.
-/

namespace CellWalk
set_option autoImplicit false

/-- The bytes of a memory, lowest address first. -/
abbrev Image := List UInt8

/-- An image of the wrong length for the memory it should replace. -/
structure SizeMismatch where
  expected : Nat
  got : Nat
deriving DecidableEq, Repr

def SizeMismatch.message (e : SizeMismatch) : String := s!"Expected {e.expected} bytes, got {e.got}"

namespace Image

def blank (size : Nat) : Image := List.replicate size 0

/-- A blank image of the given size, if it is one. -/
def ofSize (size : Int) : Except Size.Defect Image := (Size.ofBytes size).map blank

def read (m : Image) (address : Int) : UInt8 :=
  if address < 0 then 0 else m.getD address.toNat 0

def write (m : Image) (address value : Int) : Image :=
  if address < 0 then m else m.set address.toNat (clampByte value)

/-- The new contents, if they have the memory's length. -/
def restore (m new : Image) : Except SizeMismatch Image :=
  if new.length = m.length then .ok new else .error ⟨m.length, new.length⟩

@[simp] theorem length_write (m : Image) (a v : Int) : (m.write a v).length = m.length := by
  unfold write
  split <;> simp

@[simp] theorem read_natCast (m : Image) (a : Nat) : m.read a = m.getD a 0 := by
  have : ¬ (a : Int) < 0 := by omega
  simp [read, this]

@[simp] theorem write_natCast (m : Image) (a : Nat) (v : Int) :
    m.write a v = m.set a (clampByte v) := by
  have : ¬ (a : Int) < 0 := by omega
  simp [write, this]

end Image

end CellWalk
