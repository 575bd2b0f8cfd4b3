import CellWalk.Proofs.Code.RunLength
import Mathlib.Data.List.Chain

/-!
# Canonical pairs

A list of pairs is canonical if its values are bytes, its runs have 1 to 255 of them, and only a full run
is followed by the same value again. The pairs of an image are canonical, there are no fewer pairs that
stand for the image, and a canonical list is the list of an image (`encode_is_canonical`).

An image is a row of stretches, each of which is full or ended by another byte (`stretch_induction`), and
the first stretch is the first pair (`runs_stretch`). What is said about pairs is proved along this row.
-/

namespace CellWalk.RunLength
set_option autoImplicit false

/-- The numbers two by two, as value and run; an odd one at the end has no partner and is left out. -/
def pairsOf : List Int → List (Int × Int)
  | v :: r :: rest => (v, r) :: pairsOf rest
  | _ => []

/-- The values are bytes, the runs are those that a pair may say, and a run that is not full is followed by
another value. -/
structure Canonical (pairs : List (Int × Int)) : Prop where
  values : ∀ p ∈ pairs, 0 ≤ p.1 ∧ p.1 ≤ 255
  runs : ∀ p ∈ pairs, 1 ≤ p.2 ∧ p.2 ≤ maxRun
  neighbours : pairs.IsChain fun p next => p.1 = next.1 → p.2 = (maxRun : Int)

/-- So many of a byte stand before the rest that they are one run: no more than one pair may say, and
either as many as that or ended by another byte. -/
structure Stretch (b : UInt8) (n : Nat) (rest : Image) : Prop where
  pos : 0 < n
  short : n ≤ maxRun
  ended : n = maxRun ∨ rest.head? ≠ some b

variable {b : UInt8} {n : Nat} {rest : Image}

theorem runs_stretch (stretch : Stretch b n rest) :
    runs (List.replicate n b ++ rest) = (b, n) :: runs rest := by
  obtain ⟨pos, short, ended⟩ := stretch
  obtain ⟨k, rfl⟩ := Nat.exists_eq_succ_of_ne_zero (Nat.ne_of_gt pos)
  have repeated : ((List.replicate k b ++ rest).takeWhile (· == b)).length =
      k + (rest.takeWhile (· == b)).length := by
    rw [List.takeWhile_append_of_pos (by simp), List.length_append, List.length_replicate]
  -- a full run takes no more bytes, and after any other there are no more to take
  have more : min (maxRun - 1) ((List.replicate k b ++ rest).takeWhile (· == b)).length = k := by
    rw [repeated]
    rcases ended with full | other
    · omega
    · have none : rest.takeWhile (· == b) = [] := by
        cases rest with
        | nil => rfl
        | cons c cs => exact List.takeWhile_cons_of_neg (by simpa using other)
      rw [none, List.length_nil]
      omega
  rw [List.replicate_succ, List.cons_append, runs]
  simp only [more]
  rw [List.drop_left' (List.length_replicate ..)]

/-- What holds of no bytes, and of a stretch before a rest if it holds of the rest, holds of every image. -/
@[elab_as_elim]
theorem stretch_induction {motive : Image → Prop} (nil : motive [])
    (stretch : ∀ b n rest, Stretch b n rest → motive rest → motive (List.replicate n b ++ rest))
    (m : Image) : motive m := by
  fun_induction runs m with
  | case1 => exact nil
  | case2 b bs more ih =>
    have repeated : bs.take more = List.replicate more b := take_eq_replicate (Nat.min_le_right _ _)
    have split : b :: bs = List.replicate (more + 1) b ++ bs.drop more := by
      rw [List.replicate_succ, List.cons_append, ← repeated, List.take_append_drop]
    rw [split]
    refine stretch b (more + 1) (bs.drop more) ⟨Nat.succ_pos _, ?_, ?_⟩ ih
    · have capped : more ≤ maxRun - 1 := Nat.min_le_left _ _
      have positive : 1 ≤ maxRun := by decide
      omega
    · by_cases full : maxRun - 1 ≤ (bs.takeWhile (· == b)).length
      · left
        have capped : more = maxRun - 1 := Nat.min_eq_left full
        rw [capped]
        rfl
      · right
        have all : more = (bs.takeWhile (· == b)).length := Nat.min_eq_right (by omega)
        have dropped : bs.drop more = bs.dropWhile (· == b) := by
          have whole := List.takeWhile_append_dropWhile (p := (· == b)) (l := bs)
          conv => lhs; rw [← whole]
          exact List.drop_left' all.symm
        rw [dropped]
        intro again
        have stops := List.head?_dropWhile_not (· == b) bs
        rw [again] at stops
        simp at stops

/-! The pairs of an image. -/

theorem encode_nil : encode [] = [] := by
  rw [encode, runs]
  rfl

theorem encode_stretch (stretch : Stretch b n rest) :
    encode (List.replicate n b ++ rest) = (b.toNat : Int) :: (n : Int) :: encode rest := by
  simp only [encode, runs_stretch stretch]
  rfl

theorem length_encode_stretch (stretch : Stretch b n rest) :
    (encode (List.replicate n b ++ rest)).length = (encode rest).length + 2 := by
  rw [encode_stretch stretch]
  rfl

/-- The first value is the first byte. -/
theorem head?_pairsOf_encode (m : Image) :
    (pairsOf (encode m)).head?.map Prod.fst = m.head?.map fun b => (b.toNat : Int) := by
  induction m using stretch_induction with
  | nil => simp [encode_nil, pairsOf]
  | stretch b n rest stretch _ =>
    obtain ⟨k, rfl⟩ := Nat.exists_eq_succ_of_ne_zero (Nat.ne_of_gt stretch.pos)
    rw [encode_stretch stretch]
    rfl

theorem Canonical.cons {v r : Int} {pairs : List (Int × Int)} (value : 0 ≤ v ∧ v ≤ 255)
    (run : 1 ≤ r ∧ r ≤ maxRun) (ended : pairs.head?.map Prod.fst = some v → r = maxRun)
    (h : Canonical pairs) : Canonical ((v, r) :: pairs) where
  values := List.forall_mem_cons.2 ⟨value, h.values⟩
  runs := List.forall_mem_cons.2 ⟨run, h.runs⟩
  neighbours := by
    refine List.isChain_cons.2 ⟨?_, h.neighbours⟩
    intro next first same
    apply ended
    rw [Option.mem_def.1 first, Option.map_some, ← same]

theorem canonical_encode (m : Image) : Canonical (pairsOf (encode m)) := by
  induction m using stretch_induction with
  | nil =>
    rw [encode_nil]
    constructor
    · exact fun p listed => nomatch listed
    · exact fun p listed => nomatch listed
    · exact .nil
  | stretch b n rest stretch ih =>
    rw [encode_stretch stretch, pairsOf]
    have byte := b.toNat_lt
    have short := stretch.short
    have pos := stretch.pos
    refine Canonical.cons (by omega) (by omega) ?_ ih
    rw [head?_pairsOf_encode, Option.map_eq_some_iff]
    rintro ⟨c, first, same⟩
    have again : c = b := UInt8.toNat_inj.1 (by omega)
    rcases stretch.ended with full | other
    · rw [full]
    · exact absurd (again ▸ first) other

/-! Shortness. -/

/-- One more pair is enough for a stretch of any length that a pair may say, wherever it is put before an
image. -/
theorem length_encode_replicate_append (short : n ≤ maxRun) (m : Image) :
    (encode (List.replicate n b ++ m)).length ≤ (encode m).length + 2 := by
  rcases Nat.eq_zero_or_pos n with rfl | pos
  · exact Nat.le_add_right _ 2
  induction m using stretch_induction generalizing n with
  | nil => exact Nat.le_of_eq (length_encode_stretch ⟨pos, short, .inr (by simp)⟩)
  | stretch c k rest stretch ih =>
    by_cases same : c = b
    · subst same
      rw [length_encode_stretch stretch, ← List.append_assoc, List.replicate_append_replicate]
      by_cases joined : n + k ≤ maxRun
      · -- the two are one run, and the image had a pair for it already
        have ended : n + k = maxRun ∨ rest.head? ≠ some c :=
          .inr (stretch.ended.resolve_left (by omega))
        rw [length_encode_stretch ⟨by omega, joined, ended⟩]
        omega
      · -- a full run, and what is left over goes before the rest
        have parts : n + k = maxRun + (n + k - maxRun) := by omega
        have fits : n + k - maxRun ≤ maxRun := by
          have := stretch.short
          omega
        have left := ih fits (by omega)
        rw [parts, ← List.replicate_append_replicate, List.append_assoc,
          length_encode_stretch ⟨by decide, Nat.le_refl _, .inl rfl⟩]
        omega
    · obtain ⟨j, rfl⟩ := Nat.exists_eq_succ_of_ne_zero (Nat.ne_of_gt stretch.pos)
      have other : (List.replicate (j + 1) c ++ rest).head? ≠ some b := by
        simpa [List.replicate_succ] using same
      exact Nat.le_of_eq (length_encode_stretch ⟨pos, short, .inr other⟩)

/-- A pair that is decoded stands for a run of a byte. -/
theorem decodeFrom_cons_ok {position : Nat} {v r : Int} {numbers : List Int} {m : Image}
    (short : r ≤ maxRun) (decoded : decodeFrom position (v :: r :: numbers) = .ok m) :
    ∃ b n rest, n ≤ maxRun ∧ decodeFrom (position + 2) numbers = .ok rest ∧
      m = List.replicate n b ++ rest := by
  rw [decodeFrom] at decoded
  split at decoded
  · cases decoded
  · rename_i b _
    split at decoded
    · cases decoded
    · rename_i natural
      obtain ⟨n, rfl⟩ := Int.eq_ofNat_of_zero_le (Int.not_lt.1 natural)
      have few : n ≤ maxRun := by omega
      rw [Size.ofBytes_natCast (Nat.le_trans few (by decide))] at decoded
      cases later : decodeFrom (position + 2) numbers with
      | error d =>
        rw [later] at decoded
        cases decoded
      | ok rest =>
        rw [later] at decoded
        cases decoded
        exact ⟨b, n, rest, few, rfl, rfl⟩

theorem length_encode_le_of_decodeFrom {position : Nat} {numbers : List Int} {m : Image}
    (short : ∀ p ∈ pairsOf numbers, p.2 ≤ maxRun) (decoded : decodeFrom position numbers = .ok m) :
    (encode m).length ≤ numbers.length := by
  induction numbers using pairsOf.induct generalizing position m with
  | case1 v r numbers ih =>
    rw [pairsOf, List.forall_mem_cons] at short
    obtain ⟨b, n, rest, few, later, rfl⟩ := decodeFrom_cons_ok short.1 decoded
    have fewer := ih short.2 later
    have one := length_encode_replicate_append (b := b) few rest
    rw [List.length_cons, List.length_cons]
    omega
  | case2 numbers single =>
    have nothing : m = [] := by
      unfold decodeFrom at decoded
      split at decoded
      · exact (single _ _ _ rfl).elim
      · cases decoded
        rfl
    rw [nothing, encode_nil]
    exact Nat.zero_le _

/-! Canonical lists are lists of pairs of an image. -/

theorem Canonical.tail {p : Int × Int} {pairs : List (Int × Int)} (h : Canonical (p :: pairs)) :
    Canonical pairs :=
  ⟨(List.forall_mem_cons.1 h.values).2, (List.forall_mem_cons.1 h.runs).2,
    (List.isChain_cons.1 h.neighbours).2⟩

theorem exists_encode_of_canonical {numbers : List Int} (even : numbers.length % 2 = 0)
    (canonical : Canonical (pairsOf numbers)) : ∃ m, encode m = numbers := by
  induction numbers using pairsOf.induct with
  | case1 v r numbers ih =>
    rw [List.length_cons, List.length_cons] at even
    rw [pairsOf] at canonical
    obtain ⟨rest, rfl⟩ := ih (by omega) canonical.tail
    have value := canonical.values _ List.mem_cons_self
    have run := canonical.runs _ List.mem_cons_self
    obtain ⟨k, rfl⟩ := Int.eq_ofNat_of_zero_le value.1
    obtain ⟨n, rfl⟩ := Int.eq_ofNat_of_zero_le (Int.le_trans (by decide) run.1)
    have byte : (UInt8.ofNat k).toNat = k := by
      rw [UInt8.toNat_ofNat']
      omega
    have stretch : Stretch (UInt8.ofNat k) n rest := by
      refine ⟨by omega, by omega, or_iff_not_imp_right.2 fun again => ?_⟩
      rw [not_not] at again
      have first := head?_pairsOf_encode rest
      rw [again, Option.map_some, byte, Option.map_eq_some_iff] at first
      obtain ⟨next, listed, same⟩ := first
      have full := (List.isChain_cons.1 canonical.neighbours).1 next listed same.symm
      omega
    refine ⟨List.replicate n (UInt8.ofNat k) ++ rest, ?_⟩
    rw [encode_stretch stretch, byte]
  | case2 numbers single =>
    match numbers, single with
    | [], _ => exact ⟨[], encode_nil⟩
    | [v], _ => cases even
    | v :: r :: rest, single => exact (single _ _ _ rfl).elim

/-- The numbers of an image are an even count and canonical as pairs. No numbers that are decoded to the
image are fewer, if their runs have at most 255 bytes; a run may have none. And numbers are what encoding
makes of the image that they are decoded to just if they are an even count and canonical as pairs. -/
theorem encode_is_canonical :
    (∀ m : Image, (encode m).length % 2 = 0 ∧ Canonical (pairsOf (encode m))) ∧
      (∀ (m : Image) (numbers : List Int), (∀ p ∈ pairsOf numbers, p.2 ≤ maxRun) →
        decode numbers = .ok m → (encode m).length ≤ numbers.length) ∧
      ∀ numbers : List Int, (∃ m, decode numbers = .ok m ∧ numbers = encode m) ↔
        numbers.length % 2 = 0 ∧ Canonical (pairsOf numbers) := by
  have even : ∀ m : Image, (encode m).length % 2 = 0 := fun m => by
    rw [length_encode, Nat.mul_mod_right]
  refine ⟨fun m => ⟨even m, canonical_encode m⟩, ?_, fun numbers => ⟨?_, ?_⟩⟩
  · intro m numbers short decoded
    unfold decode at decoded
    split at decoded
    · exact length_encode_le_of_decodeFrom short decoded
    · cases decoded
  · rintro ⟨m, -, rfl⟩
    exact ⟨even m, canonical_encode m⟩
  · rintro ⟨count, canonical⟩
    obtain ⟨m, rfl⟩ := exists_encode_of_canonical count canonical
    exact ⟨m, decode_encode m, rfl⟩

/-- Three pairs, one of them empty, for an image that two pairs can say. -/
theorem encode_shorter_than_split :
    (∀ p ∈ pairsOf [7, 100, 9, 0, 7, 200], p.2 ≤ maxRun) ∧
      decode [7, 100, 9, 0, 7, 200] = .ok (List.replicate 300 7) ∧
      (encode (List.replicate 300 7)).length ≤ 6 := by
  have short : ∀ p ∈ pairsOf [7, 100, 9, 0, 7, 200], p.2 ≤ maxRun := by decide
  have decoded : decode [7, 100, 9, 0, 7, 200] = .ok (List.replicate 300 7) := by decide +kernel
  exact ⟨short, decoded, encode_is_canonical.2.1 _ _ short decoded⟩

end CellWalk.RunLength
