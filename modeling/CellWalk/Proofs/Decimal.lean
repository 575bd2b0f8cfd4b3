import CellWalk.Text.Decimal
import Mathlib.Algebra.Group.Nat.Defs
import Mathlib.Data.List.Induction

/-!
# Runs of digits

A number is written as a run of digits, and a run of digits is read as the number whose digits it
holds behind leading zeros (`exists_zeros`).
-/

namespace CellWalk
set_option autoImplicit false

theorem CodePoint.eq_of_val {p q : CodePoint} (h : p.val = q.val) : p = q := by
  cases p
  cases q
  cases h
  rfl

namespace Decimal

theorem isDigit_ofChar {c : Char} (h : c.isDigit = true) : (CodePoint.ofChar c).isDigit = true := by
  have bounds : 48 ≤ c.val ∧ c.val ≤ 57 := by simpa [Char.isDigit] using h
  have low : 48 ≤ c.val.toNat := UInt32.le_iff_toNat_le.1 bounds.1
  have high : c.val.toNat ≤ 57 := UInt32.le_iff_toNat_le.1 bounds.2
  rw [CodePoint.isDigit, Bool.and_eq_true]
  exact ⟨decide_eq_true low, decide_eq_true high⟩

theorem isDigit_of_mem_ofNat {n : Nat} {p : CodePoint} (h : p ∈ ofNat n) : p.isDigit = true := by
  obtain ⟨c, member, rfl⟩ := List.mem_map.1 h
  exact isDigit_ofChar (Nat.isDigit_of_mem_toDigits (by decide) (by decide) member)

theorem ofNat_ne_nil (n : Nat) : ofNat n ≠ [] := by
  simp [ofNat, Text.ofChars, Nat.toDigits_ne_nil]

/-- A number below a power of ten has no more digits than that has zeros. -/
theorem length_ofNat_le_iff {n k : Nat} (pos : 0 < k) : (ofNat n).length ≤ k ↔ n < 10 ^ k := by
  rw [ofNat, Text.length_ofChars]
  exact Nat.length_toDigits_le_iff (by decide) pos

@[simp] theorem ofInt_natCast (n : Nat) : ofInt n = ofNat n := rfl

theorem value_snoc (ds : Text) (d : CodePoint) : value (ds ++ [d]) = 10 * value ds + (d.val - 48) := by
  rw [value, List.foldl_append]
  rfl

/-- Zeros in front have no value. -/
theorem value_zeros (zeros : Nat) (ds : Text) :
    value (List.replicate zeros ('0' : CodePoint) ++ ds) = value ds := by
  have nothing : value (List.replicate zeros ('0' : CodePoint)) = 0 := by
    induction zeros with
    | zero => rfl
    | succ zeros ih =>
      rw [List.replicate_succ', value_snoc, ih]
      rfl
  rw [value, List.foldl_append]
  change List.foldl _ (value _) ds = _
  rw [nothing]
  rfl

/-- The digit at the end of a number. -/
theorem ofNat_digit {d : CodePoint} (digit : d.isDigit = true) : ofNat (d.val - 48) = [d] := by
  simp only [CodePoint.isDigit, Bool.and_eq_true, decide_eq_true_eq] at digit
  have small : d.val - 48 < 10 := by omega
  have all : ∀ j < 10, (CodePoint.ofChar j.digitChar).val = 48 + j := by decide
  have same : CodePoint.ofChar (d.val - 48).digitChar = d :=
    CodePoint.eq_of_val (by rw [all _ small]; omega)
  rw [ofNat, Nat.toDigits_of_lt_base small, Text.ofChars_cons, Text.ofChars_nil, same]

/-- One more digit is ten times as much and the digit. -/
theorem ofNat_snoc {n : Nat} (pos : 0 < n) {d : CodePoint} (digit : d.isDigit = true) :
    ofNat (10 * n + (d.val - 48)) = ofNat n ++ [d] := by
  have last := ofNat_digit digit
  simp only [CodePoint.isDigit, Bool.and_eq_true, decide_eq_true_eq] at digit
  have small : d.val - 48 < 10 := by omega
  rw [ofNat, ← Nat.toDigits_append_toDigits (by decide) pos small, Text.ofChars_append]
  exact congrArg (ofNat n ++ ·) last

/-- A run of digits is a number behind zeros. -/
theorem exists_zeros {ds : Text} (digits : ∀ p ∈ ds, p.isDigit = true) (nonempty : ds ≠ []) :
    ∃ zeros, ds = List.replicate zeros ('0' : CodePoint) ++ ofNat (value ds) := by
  induction ds using List.reverseRecOn with
  | nil => exact absurd rfl nonempty
  | append_singleton ds d ih =>
    have digit : d.isDigit = true := digits d (by simp)
    rw [value_snoc]
    by_cases empty : ds = []
    · refine ⟨0, ?_⟩
      rw [empty]
      simpa [value] using (ofNat_digit digit).symm
    · obtain ⟨zeros, e⟩ := ih (fun p h => digits p (List.mem_append_left _ h)) empty
      rcases Nat.eq_zero_or_pos (value ds) with zero | pos
      · have allZero : ds = List.replicate (zeros + 1) ('0' : CodePoint) := by
          rw [List.replicate_succ', e, zero]
          rfl
        refine ⟨zeros + 1, ?_⟩
        rw [zero, Nat.mul_zero, Nat.zero_add, ofNat_digit digit, allZero]
      · refine ⟨zeros, ?_⟩
        rw [ofNat_snoc pos digit, ← List.append_assoc, ← e]

end Decimal

end CellWalk
