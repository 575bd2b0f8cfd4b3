import CellWalk.Level.File
import CellWalk.Proofs.Reachable
import CellWalk.Proofs.Halting

/-!
# Going through the catalogue

The place in the catalogue is not kept: the level that comes next is looked up by the id of the current
one. If the ids are distinct, that is the entry after the current one, and from the first level on every
step that goes on leads one entry further (`next_levels_in_order`). Of two levels with one id the lookup
finds the first only, and the second one is played again and again (`twin_level_never_ends`).
-/

namespace CellWalk
set_option autoImplicit false

/-- In a catalogue with distinct ids the next level is the next entry. -/
theorem nextLevel?_of_distinct {levels : List Level} (distinct : (levels.map Level.id).Nodup) {k : Nat}
    {level : Level} (here : levels[k]? = some level) : nextLevel? levels level.id = levels[k + 1]? := by
  induction levels generalizing k with
  | nil => simp at here
  | cons first others ih =>
    rw [List.map_cons, List.nodup_cons] at distinct
    cases k with
    | zero =>
      obtain rfl : first = level := by simpa using here
      have found : List.dropWhile (fun l : Level => l.id != first.id) (first :: others) = first :: others :=
        List.dropWhile_cons_of_neg (by simp)
      rw [nextLevel?, found, List.tail_cons, List.head?_eq_getElem?, List.getElem?_cons_succ]
    | succ k =>
      rw [List.getElem?_cons_succ] at here
      have other : first.id ≠ level.id := fun same =>
        distinct.1 (same ▸ List.mem_map_of_mem (List.mem_of_getElem? here))
      have passed : List.dropWhile (fun l : Level => l.id != level.id) (first :: others) =
          List.dropWhile (fun l : Level => l.id != level.id) others :=
        List.dropWhile_cons_of_pos (by simpa using other)
      rw [nextLevel?, passed, List.getElem?_cons_succ]
      exact ih distinct.2 here

namespace Session

/-- Whether a step to the next level has gone on. It has even if the progress could not be saved
afterwards. -/
def goesOn : Except PlayError Bool → Bool
  | .ok done => done
  | .error (.save _) => true
  | .error _ => false

/-- How many steps to the next level have gone on in the course of the actions. -/
def passed (s : Session) (as : List Action) : Nat :=
  s.tally (fun a answer => a == .command .nextLevel && goesOn answer) as

variable {s : Session}

/-- Saving the progress keeps the level, and whether it is saved or not, the step has gone on. -/
theorem saveProgress_goesOn (s : Session) (id : Text) :
    goesOn (s.saveProgress id).1 = true ∧ (s.saveProgress id).2.level = s.level := by
  obtain ⟨answer, rest⟩ := saveProgress_cases s id
  refine ⟨?_, by rw [rest]⟩
  rcases answer with saved | ⟨e, failed⟩
  · rw [saved]
    rfl
  · rw [failed]
    rfl

section catalogue
variable {config : Config} {levels : List Level}

/-- On an entry of the catalogue the step to the next level leads to the next entry, if the program has
ended and there is one. Otherwise it is refused. -/
theorem advance_of_entry
    (fitted : Fitted config levels (fun image => image.length = Machine.sizeFor config.grid) s)
    (sized : ∀ level ∈ levels, level.program.length = Machine.sizeFor config.grid)
    (distinct : (levels.map Level.id).Nodup) {k : Nat} {level : Level}
    (here : levels[k]? = some level) (current : s.level = some level) :
    if s.machine.isHalted = true ∧ k + 1 < levels.length then
      goesOn s.advance.1 = true ∧ s.advance.2.level = levels[k + 1]?
    else s.advance.1 = .ok false ∧ s.advance.2.level = some level := by
  have follows : nextLevel? s.levels level.id = levels[k + 1]? := by
    rw [fitted.catalogue]
    exact nextLevel?_of_distinct distinct here
  simp only [advance_eq, current, follows]
  by_cases halted : s.machine.isHalted = true
  · cases entry : levels[k + 1]? with
    | none =>
      have last : ¬k + 1 < levels.length := Nat.not_lt.2 (List.getElem?_eq_none_iff.1 entry)
      rw [if_neg fun both => last both.2, if_pos halted]
      exact ⟨rfl, current⟩
    | some next =>
      have more : k + 1 < levels.length := (List.getElem?_eq_some_iff.1 entry).1
      have fits : next.program.length = s.machine.memory.length :=
        (sized next (List.mem_of_getElem? entry)).trans fitted.memory.symm
      rw [if_pos ⟨halted, more⟩, if_pos halted]
      simp only [if_pos fits]
      exact saveProgress_goesOn (s.onLevel next) next.id
  · rw [if_neg fun both => halted both.1, if_neg halted]
    exact ⟨rfl, current⟩

theorem nextLevel_of_entry
    (fitted : Fitted config levels (fun image => image.length = Machine.sizeFor config.grid) s)
    (sized : ∀ level ∈ levels, level.program.length = Machine.sizeFor config.grid)
    (distinct : (levels.map Level.id).Nodup) {k : Nat} {level : Level}
    (here : levels[k]? = some level) (current : s.level = some level) :
    if s.machine.isHalted = true ∧ k + 1 < levels.length then
      goesOn (s.act (.command .nextLevel)).1 = true ∧
        (s.act (.command .nextLevel)).2.level = levels[k + 1]?
    else (s.act (.command .nextLevel)).1 = .ok false ∧
      (s.act (.command .nextLevel)).2.level = some level :=
  advance_of_entry (s := s.note (.command Command.nextLevel.name)) (fitted.beside rfl) sized distinct
    here current

theorem passed_append_singleton (s : Session) (as : List Action) (a : Action) :
    s.passed (as ++ [a]) = s.passed as +
      if a == .command .nextLevel && goesOn ((s.after as).act a).1 then 1 else 0 :=
  tally_append_singleton s _ as a

/-- The number of steps that have gone on is the place of the current level. -/
theorem entry_after
    (fitted : Fitted config levels (fun image => image.length = Machine.sizeFor config.grid) s)
    (sized : ∀ level ∈ levels, level.program.length = Machine.sizeFor config.grid)
    (distinct : (levels.map Level.id).Nodup) {first : Level} (head : levels[0]? = some first)
    (started : s.level = some first) (as : List Action) :
    ∃ level, levels[s.passed as]? = some level ∧ (s.after as).level = some level := by
  induction as using List.reverseRecOn with
  | nil => exact ⟨first, head, started⟩
  | append_singleton as a ih =>
    obtain ⟨level, here, current⟩ := ih
    rw [after_append_singleton, passed_append_singleton]
    by_cases next : a = .command .nextLevel
    · subst next
      have fitted' := fitted.after (lasting_sized config.grid) (fun _ _ sized => sized) as
      have step := nextLevel_of_entry fitted' sized distinct here current
      split at step
      · rename_i both
        have entry := List.getElem?_eq_getElem both.2
        rw [step.1, step.2, entry]
        exact ⟨_, entry, rfl⟩
      · rw [step.1, step.2]
        exact ⟨level, here, rfl⟩
    · have other : (a == .command .nextLevel) = false := beq_eq_false_iff_ne.2 next
      rw [other, level_act _ next]
      exact ⟨level, here, current⟩

/-- A catalogue has programs of the machine's size and distinct ids, and a session of it is on the first
level. Whatever is done, after `k` steps to the next level that have gone on the session is on entry `k`,
counted from 0. The next such step goes on if the program has ended and this is not the last entry; it
is refused otherwise. -/
theorem next_levels_in_order {given : Level → Prop} (reached : Reachable config levels given s)
    (sized : ∀ level ∈ levels, level.program.length = Machine.sizeFor config.grid)
    (distinct : (levels.map Level.id).Nodup) {first : Level} (head : levels[0]? = some first)
    (started : s.level = some first) (as : List Action) :
    s.passed as < levels.length ∧ (s.after as).level = levels[s.passed as]? ∧
      if (s.after as).machine.isHalted = true ∧ s.passed as + 1 < levels.length then
        goesOn ((s.after as).act (.command .nextLevel)).1 = true
      else ((s.after as).act (.command .nextLevel)).1 = .ok false := by
  have fitted := reached.fitted (lasting_sized config.grid) fun _ _ sized => sized
  obtain ⟨level, here, current⟩ := entry_after fitted sized distinct head started as
  refine ⟨(List.getElem?_eq_some_iff.1 here).1, current.trans here.symm, ?_⟩
  have fitted' := fitted.after (lasting_sized config.grid) (fun _ _ sized => sized) as
  have step := nextLevel_of_entry fitted' sized distinct here current
  split at step
  · rename_i both
    rw [if_pos both]
    exact step.1
  · rename_i refused
    rw [if_neg refused]
    exact step.1

end catalogue

/-- A session with two short levels, of the given ids. -/
def shortGame (first second : Text) : Session :=
  { pairSession with
    levels := [{ endLevel with id := first }, { endLevel with id := second, goals := [4, 5, 6] }] }

/-- The session on the first of them. -/
def shortStarted (first second : Text) : Session := ((shortGame first second).start .unset false 0).2

/-- The player ends the program and goes on to the next level, twice. -/
def endTwice : List Action := [.click 1, .command .nextLevel, .click 1, .command .nextLevel]

theorem reachable_shortStarted (first second : Text) :
    Reachable pairSession.config (shortGame first second).levels (fun _ => False)
      (shortStarted first second) := by
  have made : create pairSession.config (shortGame first second).levels none =
      .ok (shortGame first second) := rfl
  exact .started (.created made) .unset false 0

theorem next_levels_in_order_endTwice :
    ((shortGame "a" "b").levels.map Level.id).Nodup ∧
      (shortStarted "a" "b").passed endTwice = 1 ∧
      ((shortStarted "a" "b").after endTwice).level = (shortGame "a" "b").levels[1]? ∧
      ((shortStarted "a" "b").after endTwice).machine.isHalted = true ∧
      (((shortStarted "a" "b").after endTwice).act (.command .nextLevel)).1 = .ok false := by
  have distinct : ((shortGame "a" "b").levels.map Level.id).Nodup := by decide
  have sized : ∀ level ∈ (shortGame "a" "b").levels,
      level.program.length = Machine.sizeFor pairSession.config.grid := by decide
  have once : (shortStarted "a" "b").passed endTwice = 1 := by decide
  obtain ⟨-, entry, answer⟩ :=
    next_levels_in_order (reachable_shortStarted "a" "b") sized distinct rfl rfl endTwice
  rw [once] at entry answer
  rw [if_neg (by decide)] at answer
  exact ⟨distinct, once, entry, by decide, answer⟩

/-- The file of a short level that tells its id. -/
def twinFile (goals : Text) : List UInt8 :=
  Utf8.encode (Text.ofString ".id twin\n.cycles " ++ goals ++ Text.ofString "\n1: END\n")

/-- A directory with two of them. -/
def twinFiles : FileTree :=
  ⟨[], [(["l", "a.asm"], twinFile "1 2 3"), (["l", "b.asm"], twinFile "4 5 6")], []⟩

/-- The second of two levels with one id is the last entry, and yet the step to the next level goes on,
to the same level again. -/
theorem twin_level_never_ends :
    Level.readDirectory twinFiles (Path.ofText "l") 2 1 = .ok (shortGame "twin" "twin").levels ∧
      Reachable pairSession.config (shortGame "twin" "twin").levels (fun _ => False)
        (shortStarted "twin" "twin") ∧
      (shortStarted "twin" "twin").level = (shortGame "twin" "twin").levels[0]? ∧
      (shortStarted "twin" "twin").passed endTwice = 2 ∧
      ((shortStarted "twin" "twin").after endTwice).level = (shortGame "twin" "twin").levels[1]? ∧
      (shortGame "twin" "twin").levels[2]? = none :=
  ⟨by decide +kernel, reachable_shortStarted "twin" "twin", rfl, by decide, by decide, rfl⟩

end Session

end CellWalk
