import CellWalk.Text.CodePoint

/-!
# Runs

The maximal runs of code points of one kind, from left to right. Whatever stands between two runs
is dropped.
-/

namespace CellWalk.Text
set_option autoImplicit false

def runs (kind : CodePoint → Bool) : Text → List Text
  | [] => []
  | p :: t =>
    if kind p then (p :: t.takeWhile kind) :: runs kind (t.dropWhile kind) else runs kind t
termination_by t => t.length
decreasing_by
  · have := (List.dropWhile_suffix kind (l := t)).length_le
    simp; omega
  · simp

end CellWalk.Text
