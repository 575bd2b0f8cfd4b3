/-!
# Cycling through values

The editor steps through a list of values in either direction and starts over at its ends. From a
value that is not listed every step leads to the first.
-/

namespace CellWalk
set_option autoImplicit false

/-- The value `step` places after `current`, none only if there are no values. -/
def cycleValue (values : List Int) (current step : Int) : Option Int :=
  if current ∈ values then
    values[((values.idxOf current + step) % values.length).toNat]?
  else values.head?

end CellWalk
