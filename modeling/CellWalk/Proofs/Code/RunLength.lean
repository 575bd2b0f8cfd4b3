import CellWalk.Code.RunLength

/-!
# Reading runs back

The runs of an image, one after the other, are the image, and none is longer than one pair may say
(`run_le_maxRun`). So the pairs of an image are decoded to the image (`decode_encode`), wherever its
runs had to be split.
-/

namespace CellWalk
set_option autoImplicit false

theorem byte?_toNat (b : UInt8) : byte? b.toNat = some b := by
  have small := b.toNat_lt
  rw [byte?, if_pos (by omega), clampByte_toNat]

namespace RunLength

/-- As far as a text of bytes repeats one byte, it is a run of that byte. -/
theorem take_eq_replicate {b : UInt8} {bs : Image} {n : Nat}
    (within : n ≤ (bs.takeWhile (· == b)).length) : bs.take n = List.replicate n b := by
  have isPrefix : bs.take n = (bs.takeWhile (· == b)).take n := by
    have whole := List.takeWhile_append_dropWhile (p := (· == b)) (l := bs)
    conv => lhs; rw [← whole]
    exact List.take_append_of_le_length within
  rw [isPrefix]
  refine List.eq_replicate_iff.2 ⟨List.length_take_of_le within, fun c member => ?_⟩
  have listed := List.mem_of_mem_take member
  exact eq_of_beq (List.all_eq_true.1 List.all_takeWhile c listed)

/-- No run is longer than a byte can count. -/
theorem run_le_maxRun (m : Image) : ∀ r ∈ runs m, r.2 ≤ maxRun := by
  fun_induction runs m with
  | case1 => exact fun r member => nomatch member
  | case2 b bs more ih =>
    intro r member
    rcases List.mem_cons.1 member with rfl | later
    · have capped : more ≤ maxRun - 1 := Nat.min_le_left _ _
      have positive : 1 ≤ maxRun := by decide
      exact Nat.add_le_of_le_sub positive capped
    · exact ih r later

/-- A run stands for that many bytes. -/
theorem decodeFrom_cons {b : UInt8} {run : Nat} (short : run ≤ maxRun) (position : Nat)
    (rest : List Int) :
    decodeFrom position ((b.toNat : Int) :: (run : Int) :: rest) =
      (decodeFrom (position + 2) rest).map (List.replicate run b ++ ·) := by
  have natural : ¬ (run : Int) < 0 := by omega
  have held : run ≤ Size.addresses := Nat.le_trans short (by decide)
  simp only [decodeFrom, byte?_toNat, if_neg natural, Size.ofBytes_natCast held]

theorem decodeFrom_encode (m : Image) (position : Nat) :
    decodeFrom position (encode m) = .ok m := by
  unfold encode
  fun_induction runs m generalizing position with
  | case1 => rfl
  | case2 b bs more ih =>
    have short : more + 1 ≤ maxRun := by
      refine run_le_maxRun (b :: bs) (b, more + 1) ?_
      rw [runs]
      exact List.mem_cons_self
    have repeated : bs.take more = List.replicate more b :=
      take_eq_replicate (Nat.min_le_right _ _)
    rw [List.flatMap_cons, List.cons_append, List.cons_append, List.nil_append,
      decodeFrom_cons short, ih]
    calc Except.ok (List.replicate (more + 1) b ++ bs.drop more)
      _ = Except.ok (b :: (bs.take more ++ bs.drop more)) := by
        rw [List.replicate_succ, List.cons_append, repeated]
      _ = Except.ok (b :: bs) := by rw [List.take_append_drop]

theorem length_encode (m : Image) : (encode m).length = 2 * (runs m).length := by
  unfold encode
  induction runs m with
  | nil => rfl
  | cons r rs ih =>
    rw [List.flatMap_cons, List.length_append, ih, List.length_cons, List.length_cons,
      List.length_cons, List.length_nil]
    omega

/-- Every image is decoded from its runs. -/
theorem decode_encode (m : Image) : decode (encode m) = .ok m := by
  have even : (encode m).length % 2 = 0 := by rw [length_encode, Nat.mul_mod_right]
  rw [decode, if_pos even, decodeFrom_encode]

end RunLength

end CellWalk
