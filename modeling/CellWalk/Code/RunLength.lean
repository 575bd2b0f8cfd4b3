import CellWalk.Image

/-!
# Run-length pairs

A memory image is mostly zeros, so it is written as pairs of a value and a run. A run has at most
255 bytes, a longer stretch takes several pairs, the full ones first.
-/

namespace CellWalk.RunLength
set_option autoImplicit false

/-- The longest run. -/
def maxRun : Nat := 255

/-- Numbers that are no pairs of bytes and lengths. -/
inductive Defect
  | oddCount (count : Nat)
  | value (position : Nat) (value : Int)
  | run (position : Nat) (run : Int)
  /-- A run is no number of bytes. -/
  | size (d : Size.Defect)
deriving DecidableEq, Repr

/-- What is told about the defect; a run that is too long is never told. -/
def Defect.message? : Defect → Option String
  | .oddCount n => some s!"RLE data must be (value, run) pairs, got {n} numbers"
  | .value i v => some s!"RLE value out of byte range at position {i}: {v}"
  | .run i r => some s!"RLE run must not be negative at position {i}: {r}"
  | .size _ => none

/-- The runs of an image, each as long as it may be. -/
def runs : Image → List (UInt8 × Nat)
  | [] => []
  | b :: bs =>
    let more := min (maxRun - 1) (bs.takeWhile (· == b)).length
    (b, more + 1) :: runs (bs.drop more)
termination_by m => m.length
decreasing_by simp only [List.length_cons, List.length_drop]; omega

/-- The pairs of an image, as one list of numbers. -/
def encode (m : Image) : List Int := (runs m).flatMap fun r => [(r.1.toNat : Int), (r.2 : Int)]

/-- The image of a list of pairs, of which the first number stands at the given position. -/
def decodeFrom (position : Nat) : List Int → Except Defect Image
  | v :: r :: rest =>
    match byte? v with
    | none => .error (.value position v)
    | some b =>
      if r < 0 then .error (.run (position + 1) r)
      else
        match Size.ofBytes r with
        | .error d => .error (.size d)
        | .ok run => (decodeFrom (position + 2) rest).map (List.replicate run b ++ ·)
  | _ => .ok []

/-- The image of a list of pairs. -/
def decode (pairs : List Int) : Except Defect Image :=
  if pairs.length % 2 = 0 then decodeFrom 0 pairs else .error (.oddCount pairs.length)

end CellWalk.RunLength
