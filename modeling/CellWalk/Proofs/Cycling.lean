import CellWalk.Bench.Edit
import Mathlib.Data.List.Rotate

/-!
# Cycling

If no value is listed twice the values stand in a circle, with an entry at every place forwards and
backwards (`cycleEntry`), and a step from the value at a place leads to the one so many places on
(`cycleValue_of_cycleEntry`). Hence steps add up (`cycleValue_add`), and steps of one lead through the whole
circle (`map_cycleSteps`).
-/

namespace CellWalk
set_option autoImplicit false

variable {values : List Int} {v c place s : Int}

/-- The value at a place of the circle; places go on in both directions. -/
def cycleEntry (values : List Int) (place : Int) : Option Int := values[(place % values.length).toNat]?

/-- The value to which so many steps of one lead. -/
def cycleSteps (values : List Int) (start : Int) : Nat → Option Int
  | 0 => some start
  | n + 1 => (cycleSteps values start n).bind fun v => cycleValue values v 1

theorem cycleValue_of_mem (listed : c ∈ values) (step : Int) :
    cycleValue values c step = cycleEntry values (values.idxOf c + step) := if_pos listed

theorem cycleValue_of_not_mem (absent : c ∉ values) (step : Int) :
    cycleValue values c step = values.head? := if_neg absent

/-! The circle. -/

theorem natCast_toNat_emod (nonempty : values ≠ []) (place : Int) :
    ((place % values.length).toNat : Int) = place % values.length := by
  have count := List.length_pos_iff.2 nonempty
  exact Int.toNat_of_nonneg (Int.emod_nonneg place (by omega))

theorem toNat_emod_lt (nonempty : values ≠ []) (place : Int) :
    (place % values.length).toNat < values.length := by
  have count := List.length_pos_iff.2 nonempty
  rw [← Int.ofNat_lt, natCast_toNat_emod nonempty]
  exact Int.emod_lt_of_pos place (by omega)

theorem cycleEntry_natCast (values : List Int) (n : Nat) :
    cycleEntry values n = values[n % values.length]? := by
  rw [cycleEntry, ← Int.natCast_emod, Int.toNat_natCast]

theorem cycleEntry_idxOf (listed : c ∈ values) : cycleEntry values (values.idxOf c) = some c := by
  have inside := List.idxOf_lt_length_of_mem listed
  rw [cycleEntry_natCast, Nat.mod_eq_of_lt inside, List.getElem?_eq_getElem inside,
    List.getElem_idxOf inside]

/-- There is an entry at every place, before the first and after the last as well. -/
theorem exists_cycleEntry (nonempty : values ≠ []) (place : Int) :
    ∃ v, cycleEntry values place = some v :=
  ⟨_, List.getElem?_eq_getElem (toNat_emod_lt nonempty place)⟩

/-- Without duplicates an entry tells its place, up to a turn. -/
theorem idxOf_of_cycleEntry (distinct : values.Nodup) (there : cycleEntry values place = some v) :
    v ∈ values ∧ (values.idxOf v : Int) = place % values.length := by
  obtain ⟨inside, rfl⟩ := List.getElem?_eq_some_iff.1 there
  have listed := List.getElem_mem inside
  rw [distinct.idxOf_getElem _ inside, natCast_toNat_emod (List.ne_nil_of_mem listed)]
  exact ⟨listed, rfl⟩

/-- Two places of the circle are the same if they are whole turns apart. -/
theorem cycleEntry_eq_iff (nonempty : values ≠ []) (distinct : values.Nodup) {p q : Int} :
    cycleEntry values p = cycleEntry values q ↔ (values.length : Int) ∣ p - q := by
  rw [cycleEntry, cycleEntry, List.getElem?_inj (toNat_emod_lt nonempty p) distinct, ← Int.natCast_inj,
    natCast_toNat_emod nonempty, natCast_toNat_emod nonempty,
    Int.emod_eq_emod_iff_emod_sub_eq_zero, Int.dvd_iff_emod_eq_zero]

/-! Steps of any size. -/

/-- A step leads so many places on. -/
theorem cycleValue_of_cycleEntry (distinct : values.Nodup) (there : cycleEntry values place = some v)
    (step : Int) : cycleValue values v step = cycleEntry values (place + step) := by
  obtain ⟨listed, index⟩ := idxOf_of_cycleEntry distinct there
  rw [cycleValue_of_mem listed, index, cycleEntry, cycleEntry, Int.emod_add_emod]

theorem cycleValue_isSome (nonempty : values ≠ []) (current step : Int) :
    (cycleValue values current step).isSome = true := by
  by_cases listed : current ∈ values
  · obtain ⟨v, reached⟩ := exists_cycleEntry nonempty (values.idxOf current + step)
    rw [cycleValue_of_mem listed, reached]
    rfl
  · rw [cycleValue_of_not_mem listed, List.head?_eq_some_head nonempty]
    rfl

theorem mem_of_cycleValue {current step : Int} (cycled : cycleValue values current step = some v) :
    v ∈ values := by
  unfold cycleValue at cycled
  split at cycled
  · exact List.mem_of_getElem? cycled
  · exact List.mem_of_mem_head? cycled

theorem cycleValue_zero (listed : c ∈ values) : cycleValue values c 0 = some c := by
  rw [cycleValue_of_mem listed, Int.add_zero, cycleEntry_idxOf listed]

/-- Steps add up. -/
theorem cycleValue_add (distinct : values.Nodup) (listed : c ∈ values)
    (reached : cycleValue values c s = some v) (t : Int) :
    cycleValue values v t = cycleValue values c (s + t) := by
  rw [cycleValue_of_mem listed] at reached
  rw [cycleValue_of_cycleEntry distinct reached, cycleValue_of_mem listed, Int.add_assoc]

/-- A step back undoes a step. -/
theorem cycleValue_neg (distinct : values.Nodup) (listed : c ∈ values)
    (reached : cycleValue values c s = some v) : cycleValue values v (-s) = some c := by
  rw [cycleValue_add distinct listed reached, Int.add_right_neg, cycleValue_zero listed]

/-! Steps of one. -/

theorem cycleSteps_of_cycleEntry (distinct : values.Nodup) (there : cycleEntry values place = some v)
    (n : Nat) : cycleSteps values v n = cycleEntry values (place + n) := by
  have nonempty := List.ne_nil_of_mem (idxOf_of_cycleEntry distinct there).1
  induction n with
  | zero =>
    rw [Int.natCast_zero, Int.add_zero, there]
    rfl
  | succ n ih =>
    -- the circle has no end, so there is an entry to go on from
    obtain ⟨w, reached⟩ := exists_cycleEntry nonempty (place + n)
    rw [cycleSteps, ih, reached, Option.bind_some, cycleValue_of_cycleEntry distinct reached,
      Int.natCast_succ, Int.add_assoc]

/-- As many steps as there are values visit them in their order, beginning with the one to start from. -/
theorem map_cycleSteps (distinct : values.Nodup) (listed : c ∈ values) :
    (List.range values.length).map (cycleSteps values c) =
      (values.rotate (values.idxOf c)).map some := by
  apply List.ext_getElem
  · simp
  · intro n inside inside'
    have turned : (n + values.idxOf c) % values.length < values.length :=
      Nat.mod_lt _ (List.length_pos_of_mem listed)
    rw [List.getElem_map, List.getElem_range, List.getElem_map, List.getElem_rotate,
      cycleSteps_of_cycleEntry distinct (cycleEntry_idxOf listed), ← Int.natCast_add,
      cycleEntry_natCast, Nat.add_comm, List.getElem?_eq_getElem turned]

theorem cycleSteps_perm (distinct : values.Nodup) (listed : c ∈ values) :
    ((List.range values.length).map (cycleSteps values c)).Perm (values.map some) := by
  rw [map_cycleSteps distinct listed]
  exact (values.rotate_perm _).map some

/-- Whole turns, and no other numbers of steps, lead back to the start. -/
theorem cycleSteps_eq_self_iff (distinct : values.Nodup) (listed : c ∈ values) (n : Nat) :
    cycleSteps values c n = some c ↔ values.length ∣ n := by
  have start := cycleEntry_idxOf listed
  have onwards : (values.idxOf c : Int) + n - values.idxOf c = n := by omega
  rw [cycleSteps_of_cycleEntry distinct start, ← start,
    cycleEntry_eq_iff (List.ne_nil_of_mem listed) distinct, onwards, Int.natCast_dvd_natCast]

/-- From a value that is not listed the steps begin at the head of the list. -/
theorem exists_first_of_not_mem (nonempty : values ≠ []) (distinct : values.Nodup) (absent : c ∉ values) :
    ∃ first, values[0]? = some first ∧ (∀ s, cycleValue values c s = some first) ∧
      ∀ k, ∃ v, values[k % values.length]? = some v ∧ cycleSteps values first k = some v := by
  obtain ⟨first, start⟩ := exists_cycleEntry nonempty 0
  have head : values[0]? = some first := start
  refine ⟨first, head, fun s => ?_, fun k => ?_⟩
  · rw [cycleValue_of_not_mem absent, List.head?_eq_getElem?, head]
  · obtain ⟨v, reached⟩ := exists_cycleEntry nonempty k
    refine ⟨v, by rw [← cycleEntry_natCast, reached], ?_⟩
    rw [cycleSteps_of_cycleEntry distinct start, Int.zero_add, reached]

/-- If no value is listed twice, cycling through the listed ones is the action of a cycle. Every step from
a listed value leads to a listed one, steps add up, and the step backwards leads back. Steps of one visit
every value once and are at the start again after as many steps as there are values. From a value that is
not listed any step leads to the first, and steps of one from there to one after the other. -/
theorem steps_act_cyclically (nonempty : values ≠ []) (distinct : values.Nodup) :
    (∀ c ∈ values,
      (∀ s, ∃ v ∈ values, cycleValue values c s = some v ∧
        (∀ t, cycleValue values v t = cycleValue values c (s + t)) ∧
          cycleValue values v (-s) = some c) ∧
      ((List.range values.length).map (cycleSteps values c)).Perm (values.map some) ∧
      ∀ n, cycleSteps values c n = some c ↔ values.length ∣ n) ∧
    ∀ c, c ∉ values → ∃ first, values[0]? = some first ∧ (∀ s, cycleValue values c s = some first) ∧
      ∀ k, ∃ v, values[k % values.length]? = some v ∧ cycleSteps values first k = some v := by
  refine ⟨fun c listed => ⟨fun s => ?_, ?_, ?_⟩, fun c absent => ?_⟩
  · obtain ⟨v, reached⟩ := Option.isSome_iff_exists.1 (cycleValue_isSome nonempty c s)
    exact ⟨v, mem_of_cycleValue reached, reached, cycleValue_add distinct listed reached,
      cycleValue_neg distinct listed reached⟩
  · exact cycleSteps_perm distinct listed
  · exact cycleSteps_eq_self_iff distinct listed
  · exact exists_first_of_not_mem nonempty distinct absent

/-- The operands of the editor: seven steps back from the third and eight on are one on. The status byte
is none of them. -/
theorem operands_act_cyclically :
    let operands := Bench.targetValues
    operands ≠ [] ∧ operands.Nodup ∧ 3 ∈ operands ∧ 0 ∉ operands ∧
      (∃ v ∈ operands, cycleValue operands 3 (-7) = some v ∧ cycleValue operands v 8 = some 1) ∧
      ((List.range 5).map (cycleSteps operands 3)).Perm (operands.map some) ∧
      cycleSteps operands 3 5 = some 3 ∧
      cycleValue operands 0 (-4) = some 5 ∧ cycleSteps operands 5 6 = some 10 := by
  intro operands
  have nonempty : operands ≠ [] := by decide
  have distinct : operands.Nodup := by decide
  have listed : 3 ∈ operands := by decide
  have absent : 0 ∉ operands := by decide
  obtain ⟨cycle, entering⟩ := steps_act_cyclically nonempty distinct
  obtain ⟨steps, visits, returns⟩ := cycle 3 listed
  obtain ⟨v, member, reached, further, -⟩ := steps (-7)
  have onwards : cycleValue operands v 8 = some 1 := by
    rw [further]
    decide
  obtain ⟨first, head, enters, turns⟩ := entering 0 absent
  obtain ⟨w, second, there⟩ := turns 6
  have entries : operands[0]? = some 5 ∧ operands[6 % operands.length]? = some 10 := by decide
  rw [head, second] at entries
  obtain ⟨⟨⟩, ⟨⟩⟩ := entries
  exact ⟨nonempty, distinct, listed, absent, ⟨v, member, reached, onwards⟩, visits,
    (returns 5).2 (by decide), enters (-4), there⟩

end CellWalk
