import CellWalk.Byte
import CellWalk.Size

/-!
# The outlet

Sent bytes queue up in a buffer of limited depth from which the oldest fall off. Besides, the
outlet keeps the log of every byte sent, for whoever listens; clearing the buffer leaves the log.
-/

namespace CellWalk
set_option autoImplicit false

/-- A queue of bytes, oldest first, and the log of all that went through it. -/
structure Outlet where
  depth : Nat
  buffer : List UInt8
  heard : List UInt8
deriving DecidableEq, Repr

namespace Outlet

def empty (depth : Nat) : Outlet := ⟨depth, [], []⟩

/-- An empty outlet of the given depth, if that is a number of items. -/
def ofDepth (depth : Int) : Except Size.Defect Outlet := (Size.ofItems depth).map empty

/-- Sends a byte; the buffer keeps the newest `depth` ones. -/
def push (p : Outlet) (b : UInt8) : Outlet :=
  let buffer := p.buffer ++ [b]
  { p with buffer := buffer.drop (buffer.length - p.depth), heard := p.heard ++ [b] }

/-- Takes the oldest byte out of the buffer. -/
def pop (p : Outlet) : Option UInt8 × Outlet :=
  match p.buffer with
  | [] => (none, p)
  | b :: rest => (some b, { p with buffer := rest })

def clear (p : Outlet) : Outlet := { p with buffer := [] }

/-- Starts the log over. -/
def forget (p : Outlet) : Outlet := { p with heard := [] }

def size (p : Outlet) : Nat := p.buffer.length

end Outlet

end CellWalk
