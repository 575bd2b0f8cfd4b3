import CellWalk.Machine.Basic

/-!
# The stack

The stack grows upwards from its foot, and the stack pointer counts its values. Nothing stops a
push beyond the last slot: it writes into the byte below the program and then into the program's
records, field by field. The pointer itself stays a byte.
-/

namespace CellWalk.Machine
set_option autoImplicit false

/-- The address of a stack slot. -/
def slot (k : Nat) : Nat := stackBase + k

/-- The top value, 0 on an empty stack. -/
def peek (m : Machine) : UInt8 :=
  let sp := (m.get .sp).toNat
  if sp = 0 then 0 else m.reg (slot (sp - 1))

/-- Puts a clamped value on top and keeps track of the highest stack. -/
def push (m : Machine) (value : Int) : Machine :=
  let sp := (m.get .sp).toNat
  let pushed := (m.setReg (slot sp) value).set .sp (sp + 1)
  { pushed with stackPeak := max pushed.stackPeak (pushed.get .sp).toNat }

/-- Takes the top value, 0 from an empty stack. -/
def pop (m : Machine) : UInt8 × Machine :=
  let sp := (m.get .sp).toNat
  if sp = 0 then (0, m)
  else
    let popped := m.set .sp (sp - 1 : Nat)
    (popped.reg (slot (sp - 1)), popped)

end CellWalk.Machine
