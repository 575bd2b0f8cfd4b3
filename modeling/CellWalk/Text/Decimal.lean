import CellWalk.Text.Blank

/-!
# Decimal numbers

Numbers are written with the fewest digits. A number that is read may have leading zeros, but
no more than `maxDigits` digits in all.
-/

namespace CellWalk.Decimal
set_option autoImplicit false

def ofNat (n : Nat) : Text := Text.ofChars (Nat.toDigits 10 n)

def ofInt : Int → Text
  | .ofNat n => ofNat n
  | .negSucc n => ('-' : CodePoint) :: ofNat (n + 1)

/-- The number that a run of ASCII digits denotes. -/
def value (ds : Text) : Nat := ds.foldl (fun n d => 10 * n + (d.val - 48)) 0

/-- The longest run of digits that is read as a number. -/
def maxDigits : Nat := 4300

/-- What is told about a number with too many digits; of one that is read, the count is told. -/
def limitMessage (count : Option Nat) : String :=
  let told := match count with
    | some n => s!": value has {n} digits"
    | none => ""
  s!"Exceeds the limit ({maxDigits} digits) for integer string conversion{told}; " ++
    "use sys.set_int_max_str_digits() to increase the limit"

/-- The number that a run of digits denotes, unless the run is too long. -/
def value? (ds : Text) : Option Nat := if ds.length ≤ maxDigits then some (value ds) else none

theorem value_ofChars (cs : List Char) : value (Text.ofChars cs) = Nat.ofDigitChars 10 cs 0 := by
  rw [value, Text.ofChars, List.foldl_map]; rfl

@[simp] theorem value_ofNat (n : Nat) : value (ofNat n) = n := by
  rw [ofNat, value_ofChars, Nat.ofDigitChars_toDigits (by decide) (by decide)]

end CellWalk.Decimal
