import CellWalk.Proofs.Files.Writing
import CellWalk.Proofs.FailedLoads
import CellWalk.Proofs.Json.Strings

/-!
# Saved progress

A step to the next level that takes effect leaves the id of the level in the store, whatever was there
before, and the document that holds it is read back as that id. So a game that is opened with this store
begins with the first level of the catalogue that has the id (`saved_progress_resumes`). That need not be
the level where the other game was: if it is another one, its program may not fit the machine, and then
the game does not begin at all (`misfit_hides_saved_level`).
-/

namespace CellWalk
set_option autoImplicit false

namespace LevelStore

variable {store after : LevelStore} {id : Text}

/-! The document. -/

theorem document_eq (id : Text) : document id =
    CodePoint.ofChar '\x7b' :: (Json.quote key ++ (CodePoint.ofChar ':' :: CodePoint.ofChar ' ' ::
      (Json.quote id ++ CodePoint.ofChar '\x7d' :: [Text.newline]))) := by
  have opening : Text.ofString "\x7b" = [CodePoint.ofChar '\x7b'] := by decide
  have between : Text.ofString ": " = [CodePoint.ofChar ':', CodePoint.ofChar ' '] := by decide
  have closing : Text.ofString "\x7d\n" = [CodePoint.ofChar '\x7d', Text.newline] := by decide
  simp only [document, opening, between, closing, List.append_assoc, List.cons_append, List.nil_append]

theorem ascii_of_mem_document {p : CodePoint} (member : p ∈ document id) :
    p.val < 0x80 ∧ p ≠ Text.carriageReturn := by
  have printable : 0x20 ≤ p.val ∧ p.val ≤ 0x7E → p.val < 0x80 ∧ p ≠ Text.carriageReturn := by
    intro bounds
    refine ⟨by omega, ?_⟩
    rintro rfl
    exact absurd bounds.1 (by decide)
  simp only [document_eq, List.mem_cons, List.mem_append, List.not_mem_nil, or_false] at member
  rcases member with rfl | inKey | rfl | rfl | inId | rfl | rfl
  · decide
  · exact printable (Json.printable_of_mem_quote inKey)
  · decide
  · decide
  · exact printable (Json.printable_of_mem_quote inId)
  · decide
  · decide

theorem parse_document (scalar : id.Scalar) :
    Json.parse (document id) = .ok (.object [(key, .string id)]) := by
  have scalarKey : key.Scalar := by decide
  have few : key.length = 5 := by decide
  have long : id.length + 10 ≤ (document id).length := by
    have quoted := Json.length_lt_quote id
    have quotedKey := Json.length_lt_quote key
    simp only [document_eq, List.length_cons, List.length_append, List.length_nil]
    omega
  have noMark : ((document id).head?.any (·.val == 0xFEFF)) = false := by
    rw [document_eq, List.head?_cons]
    decide
  have visible : Json.skipSpaces (document id) = document id := by
    rw [document_eq]
    exact Json.skipSpaces_cons (by decide)
  obtain ⟨fuel, steps⟩ : ∃ fuel, 2 * (document id).length + 2 = fuel + 3 :=
    ⟨2 * (document id).length - 1, by omega⟩
  have read : Json.readValue (fuel + 3) (989 + 1) (document id) =
      .ok (.object [(key, .string id)], [Text.newline]) := by
    rw [document_eq]
    exact Json.readValue_member scalarKey scalar (by omega) (by omega) 989
  have end_ : Json.skipSpaces [Text.newline] = [] := by decide
  simp only [Json.parse, noMark, Bool.false_eq_true, if_false, visible, steps, Json.maxDepth]
  rw [read]
  simp only [end_]

theorem progressIn_document (scalar : id.Scalar) : progressIn (document id) = .ok (.saved id) := by
  have found : ((Json.Value.object [(key, .string id)]).member? key).bind Json.Value.text? =
      some id := by
    simp [Json.Value.member?, Json.Value.text?]
  simp only [progressIn, parse_document scalar, found]

/-! The file. -/

theorem writeInto_of_save (saved : store.save id = (.ok (), after)) :
    store.files.writeInto store.path.parent store.path (Utf8.encode (document id)) =
        (.ok (), after.files) ∧ after.path = store.path := by
  simp only [save, Prod.mk.injEq] at saved
  obtain ⟨done, rfl⟩ := saved
  exact ⟨Prod.ext done rfl, rfl⟩

/-- The id that was saved is found again. -/
theorem progress_of_save (scalar : id.Scalar) (saved : store.save id = (.ok (), after)) :
    after.progress = .ok (.saved id) := by
  obtain ⟨written, path⟩ := writeInto_of_save saved
  obtain ⟨between, -, -, writes⟩ := FileTree.writeInto_eq_ok written
  have read : after.files.readText after.path = .ok (document id) := by
    rw [path]
    exact FileTree.readText_of_write (fun p member => (ascii_of_mem_document member).1)
      (fun member => (ascii_of_mem_document member).2 rfl) writes
  simp only [progress, read, progressIn_document scalar]

/-- A store in which an id was saved takes any other. -/
theorem save_again (saved : store.save id = (.ok (), after)) (other : Text) :
    (after.save other).1 = .ok () := by
  obtain ⟨written, path⟩ := writeInto_of_save saved
  simp only [save, path]
  exact FileTree.writeInto_again written _

end LevelStore

namespace Session

variable {config : Config} {levels : List Level} {given : Level → Prop} {s s' : Session}
  {store : LevelStore} {id : Text} {level : Level}

/-- The step to the next level has saved the id of the level that it leads to. -/
theorem saved_of_nextLevel (stored : s.store = some store)
    (advanced : s.act (.command .nextLevel) = (.ok true, s')) :
    ∃ next after, next ∈ s.levels ∧ s'.level = some next ∧
      store.save next.id = (.ok (), after) ∧ s'.store = some after := by
  rcases nextLevel_cases s with ⟨answer, after, stayed, -, stays⟩ | ⟨next, listed, -, goes⟩
  · -- nothing is loaded, so that the answer was another one
    obtain rfl : answer = .ok true := congrArg Prod.fst (stays.symm.trans advanced)
    simp at stayed
  · have kept : ((s.note (.command Command.nextLevel.name)).onLevel next).store = some store := stored
    rw [goes] at advanced
    simp only [saveProgress, kept] at advanced
    split at advanced
    · rename_i saved
      cases advanced
      exact ⟨next, (store.save next.id).2, listed, rfl, Prod.ext saved rfl, rfl⟩
    · cases advanced

/-- Whoever can make one session of a configuration can make others. -/
theorem Reachable.recreated (reached : Reachable config levels given s) (store : Option LevelStore) :
    ∃ fresh, create config levels store = .ok fresh ∧ fresh.store = store := by
  induction reached with
  | created made =>
    unfold create at made ⊢
    split at made
    · cases made
    · exact ⟨_, rfl, rfl⟩
  | started _ _ _ _ ih => exact ih
  | loaded _ _ ih => exact ih
  | drawn _ _ ih => exact ih
  | acted _ _ ih => exact ih

/-- A game with saved progress is opened with the first level that has the saved id. -/
theorem start_of_saved (stored : s.store = some store) (saved : store.progress = .ok (.saved id))
    (first : s.levels.find? (fun l => l.id == id) = some level) (freshSeed : Int) :
    s.start .unset false freshSeed = s.loadLevel level := by
  have some_ : s.levels.isEmpty = false := by
    cases levels : s.levels with
    | nil => simp [levels] at first
    | cons l ls => rfl
  simp only [start, some_, Bool.or_false, Bool.false_eq_true, if_false, stored, resume, saved,
    noteProgress, Progress.id?, findLevel, first]

/-- A session with a store has gone on to a level whose id holds no half of a surrogate pair. A new
session with that store begins with the first level of the catalogue that has the id, if its program has
the machine's size. Otherwise it fails by that size. -/
theorem saved_progress_resumes (reached : Reachable config levels given s)
    (stored : s.store = some store) (advanced : s.act (.command .nextLevel) = (.ok true, s'))
    (current : s'.level = some level) (scalar : level.id.Scalar) :
    ∃ first fresh, levels.find? (fun l => l.id == level.id) = some first ∧ first.id = level.id ∧
      create config levels s'.store = .ok fresh ∧ ∀ freshSeed,
        if first.program.length = Machine.sizeFor config.grid then
          ∃ resumed, fresh.start .unset false freshSeed = (.ok (), resumed) ∧
            resumed.level = some first ∧ resumed.machine.memory = first.program
        else (fresh.start .unset false freshSeed).1 =
          .error (.size ⟨Machine.sizeFor config.grid, first.program.length⟩) := by
  have lasting := lasting_sized config.grid
  have fitted := reached.fitted lasting fun _ _ sized => sized
  obtain ⟨next, after, listed, onNext, saved, kept⟩ := saved_of_nextLevel stored advanced
  obtain rfl : next = level := by simpa [onNext] using current
  rw [fitted.catalogue] at listed
  obtain ⟨first, found⟩ := find?_of_listed listed
  obtain ⟨fresh, made, restored⟩ := reached.recreated s'.store
  have new := fitted_of_created lasting made
  refine ⟨first, fresh, found, by simpa using List.find?_some found, made, fun freshSeed => ?_⟩
  have opens : fresh.start .unset false freshSeed = fresh.loadLevel first :=
    start_of_saved (restored.trans kept) (LevelStore.progress_of_save scalar saved)
      (new.catalogue.symm ▸ found) freshSeed
  have size : fresh.machine.memory.length = Machine.sizeFor config.grid := new.memory
  rw [opens]
  split
  · rename_i fits
    rw [loadLevel_begun (fits.trans size.symm)]
    exact ⟨_, rfl, rfl, rfl⟩
  · rename_i unfit
    rw [loadLevel_unfit (fun fits => unfit (fits.trans size)), size]

/-- A store whose file is still missing. -/
def newStore : LevelStore := ⟨⟨[], [], []⟩, Path.ofText "play/state.json"⟩

/-- A session with that store and the given levels. -/
def storedGame (levels : List Level) : Session :=
  { pairSession with levels, store := some newStore }

theorem create_storedGame (levels : List Level) :
    create pairSession.config levels (some newStore) = .ok (storedGame levels) := rfl

/-- The player ends the level that is asked for. -/
def storedEnded (levels : List Level) (id : Text) : Session :=
  (((storedGame levels).start (.value id) false 0).2.act (.click 1)).2

theorem reachable_storedEnded (levels : List Level) (id : Text) :
    Reachable pairSession.config levels (fun _ => False) (storedEnded levels id) :=
  ((Reachable.created (create_storedGame levels)).started (.value id) false 0).acted (.click 1)

/-- A level whose id needs every kind of escape. -/
def oddLevel : Level := { endLevel with id := "a\"b\\c\n\x7fé😀" }

theorem saved_progress_resumes_on_oddLevel :
    oddLevel.id.Scalar ∧
      ((storedEnded [endLevel, oddLevel] "end").act (.command .nextLevel)).1 = .ok true ∧
      ∃ fresh resumed, create pairSession.config [endLevel, oddLevel]
          ((storedEnded [endLevel, oddLevel] "end").act (.command .nextLevel)).2.store = .ok fresh ∧
        fresh.start .unset false 0 = (.ok (), resumed) ∧ resumed.level = some oddLevel ∧
        resumed.machine.memory = oddLevel.program := by
  have scalar : oddLevel.id.Scalar := by decide
  have answer : ((storedEnded [endLevel, oddLevel] "end").act (.command .nextLevel)).1 = .ok true := by
    decide +kernel
  have current : ((storedEnded [endLevel, oddLevel] "end").act (.command .nextLevel)).2.level =
      some oddLevel := by
    decide +kernel
  obtain ⟨first, fresh, found, -, made, opens⟩ :=
    saved_progress_resumes (reachable_storedEnded _ _) rfl (Prod.ext answer rfl) current scalar
  obtain rfl : oddLevel = first := by
    have odd : [endLevel, oddLevel].find? (fun l => l.id == oddLevel.id) = some oddLevel := by decide
    exact Option.some.inj (odd.symm.trans found)
  have resumes := opens 0
  rw [if_pos (by decide)] at resumes
  obtain ⟨resumed, opened, onLevel, memory⟩ := resumes
  exact ⟨scalar, answer, fresh, resumed, made, opened, onLevel, memory⟩

/-- The first of the two levels with the id that is saved does not fit the machine. -/
def hiddenLevels : List Level :=
  [{ shortLevel with id := "x" }, endLevel, { endLevel with id := "x" }]

/-- The player has gone on from the level between to the second of the two. -/
def hiddenReached : Session :=
  ((storedEnded hiddenLevels "end").act (.command .nextLevel)).2

theorem misfit_hides_saved_level :
    create pairSession.config hiddenLevels (some newStore) = .ok (storedGame hiddenLevels) ∧
      ((storedEnded hiddenLevels "end").act (.command .nextLevel)).1 = .ok true ∧
      hiddenReached.level = some { endLevel with id := "x" } ∧
      (create pairSession.config hiddenLevels hiddenReached.store).toOption.map
        (fun fresh => (fresh.start .unset false 0).1) = some (.error (.size ⟨32, 3⟩)) :=
  ⟨rfl, by decide +kernel, by decide +kernel, by decide +kernel⟩

end Session

end CellWalk
