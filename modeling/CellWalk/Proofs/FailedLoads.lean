import CellWalk.Proofs.Halting

/-!
# Loads that fail

A level whose program has not the size of the memory is not loaded, whether the level is asked for, found
at the start or next in the catalogue. The memory is looked at before anything of the bench is touched,
but by then the level counts as the current one and the seed is gone (`failed_load_takes_up_level`). So a
load that fails is not without a trace (`unfit_level_is_taken_up`).
-/

namespace CellWalk.Session
set_option autoImplicit false

/-- The program of the level has not the size of the memory, and the session after is the one before, but
that the level is its current one. -/
structure TakesUp (s : Session) (level : Level) (after : Session) : Prop where
  unfit : level.program.length ≠ s.machine.memory.length
  rest : after = { s with level := some level, seed := none, diary := after.diary }

variable {s t after : Session} {level : Level} {e : SizeMismatch}

/-- A level that does not fit is taken up all the same. -/
theorem takesUp_of_loadLevel (failed : s.loadLevel level = (.error (.size e), after)) :
    s.TakesUp level after := by
  by_cases fits : level.program.length = s.machine.memory.length
  · rw [loadLevel_begun fits] at failed
    cases failed
  · rw [loadLevel_unfit fits] at failed
    cases failed
    exact ⟨fits, rfl⟩

/-- What has been noted before does not count. -/
theorem TakesUp.noted (takesUp : t.TakesUp level after) (noted : t = { s with diary := t.diary }) :
    s.TakesUp level after := by
  have machine : t.machine = s.machine := by
    rw [noted]
    rfl
  refine ⟨machine ▸ takesUp.unfit, ?_⟩
  rw [takesUp.rest, noted]

/-- Of all ways to open a game only the load of a level fails by its size. -/
theorem takesUp_of_start {id : Setting Text} {random : Bool} {freshSeed : Int}
    (failed : s.start id random freshSeed = (.error (.size e), after)) :
    ∃ level ∈ s.levels, s.TakesUp level after := by
  have opens := opens_start s id random freshSeed
  generalize s.start id random freshSeed = r at failed opens
  cases opens with
  | stayed _ why =>
    cases failed
    exact absurd rfl (why e)
  | level noted listed => exact ⟨_, listed, (takesUp_of_loadLevel failed).noted noted⟩
  | random noted seed =>
    rw [loadRandom_begun] at failed
    cases failed

theorem takesUp_of_advance (failed : s.advance = (.error (.size e), after)) :
    ∃ level ∈ s.levels, s.TakesUp level after := by
  rw [advance_eq] at failed
  split at failed
  · cases failed
  · split at failed
    · split at failed
      · cases failed
      · rename_i next follows
        split at failed
        · -- the load succeeds, and to save the progress does not fail by a size
          have answer := (saveProgress_cases (s.onLevel next) next.id).1
          rw [failed] at answer
          rcases answer with saved | ⟨_, unsaved⟩
          · cases saved
          · cases unsaved
        · rename_i unfit
          cases failed
          exact ⟨next, mem_of_nextLevel? follows, unfit, rfl⟩
    · cases failed

theorem takesUp_of_nextLevel (failed : s.dispatch .nextLevel = (.error (.size e), after)) :
    ∃ level ∈ s.levels, s.TakesUp level after := by
  obtain ⟨level, listed, takesUp⟩ :=
    takesUp_of_advance (s := s.note (.command Command.nextLevel.name)) failed
  exact ⟨level, listed, takesUp.noted rfl⟩

/-- A load that fails because the program of the level has not the size of the memory leaves everything as it
was, but for the diary, the level and the seed: the level becomes the current one, and no seed is left.
Loading a level fails so whenever its program has another size. -/
theorem failed_load_takes_up_level (s : Session) :
    (∀ level : Level, (∃ e, (s.loadLevel level).1 = .error (.size e)) ↔
        level.program.length ≠ s.machine.memory.length) ∧
      (∀ level e after, s.loadLevel level = (.error (.size e), after) → s.TakesUp level after) ∧
      (∀ id random freshSeed e after, s.start id random freshSeed = (.error (.size e), after) →
        ∃ level ∈ s.levels, s.TakesUp level after) ∧
      ∀ e after, s.dispatch .nextLevel = (.error (.size e), after) →
        ∃ level ∈ s.levels, s.TakesUp level after := by
  refine ⟨fun level => ⟨?_, fun unfit => ?_⟩, fun _ _ _ => takesUp_of_loadLevel,
    fun _ _ _ _ _ => takesUp_of_start, fun _ _ => takesUp_of_nextLevel⟩
  · rintro ⟨e, failed⟩
    exact (takesUp_of_loadLevel (Prod.ext failed rfl)).unfit
  · exact ⟨_, congrArg Prod.fst (loadLevel_unfit unfit)⟩

/-- A level whose program is too short for any machine. -/
def shortLevel : Level := ⟨"short", [1, 2, 3], [0, 0, 0], []⟩

/-- A session that has ended its first level; the next one is too short. -/
def beforeShort : Session :=
  (({ pairSession with levels := [endLevel, shortLevel] } : Session).start .unset false 0).2.act
    (.click 1) |>.2

theorem unfit_level_is_taken_up :
    beforeShort.level = some endLevel ∧
      (beforeShort.loadLevel shortLevel).1 = .error (.size ⟨32, 3⟩) ∧
      (beforeShort.loadLevel shortLevel).2.level = some shortLevel ∧
      (beforeShort.start (.value "short") false 0).1 = .error (.size ⟨32, 3⟩) ∧
      (beforeShort.start (.value "short") false 0).2.level = some shortLevel ∧
      (beforeShort.dispatch .nextLevel).1 = .error (.size ⟨32, 3⟩) ∧
      (beforeShort.dispatch .nextLevel).2.level = some shortLevel := by
  decide

theorem failed_load_beforeShort :
    beforeShort.dispatch .nextLevel = (.error (.size ⟨32, 3⟩), (beforeShort.dispatch .nextLevel).2) ∧
      ∃ level ∈ beforeShort.levels, beforeShort.TakesUp level (beforeShort.dispatch .nextLevel).2 := by
  have failed : beforeShort.dispatch .nextLevel =
      (.error (.size ⟨32, 3⟩), (beforeShort.dispatch .nextLevel).2) := Prod.ext (by decide) rfl
  exact ⟨failed, (failed_load_takes_up_level beforeShort).2.2.2 _ _ failed⟩

end CellWalk.Session
