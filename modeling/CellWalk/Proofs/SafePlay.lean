import CellWalk.Proofs.Code.LevelCode
import CellWalk.Proofs.Cycling
import CellWalk.Proofs.SavedProgress
import CellWalk.Proofs.Sending

/-!
# Play that cannot fail

If the programs of the catalogue have the machine's size and the store works, there is nothing that a
player could do to make a game fail. All images have that size, so every one of them can be gone back to
(`Ready`); what is exported is long enough to be encoded, and the lists that the editor steps through are
never empty (`play_never_fails`). Only before the game begins there is one number that the settings
accept and the history does not: a limit that is no index (`endless_limit_fails`).
-/

namespace CellWalk
set_option autoImplicit false

/-- A store whose document can be read and written. -/
structure LevelStore.Works (store : LevelStore) : Prop where
  reads : ∃ progress, store.progress = .ok progress
  saves : ∀ id, (store.save id).1 = .ok ()

/-- A limit that the settings accept is accepted by the history, unless it is no index. -/
theorem Config.limit_accepted {given : Setting Int} {limit : Option { n : Nat // 0 < n }}
    (checked : checkLimit given = .ok limit) :
    ∃ asked, given = .ofOption asked ∧ History.create asked = History.ofLimit limit := by
  cases given with
  | unset =>
    cases checked
    exact ⟨none, rfl, rfl⟩
  | void => cases checked
  | value n =>
    rw [checkLimit] at checked
    split at checked
    · rename_i positive
      cases checked
      exact ⟨some n, rfl, dif_pos positive⟩
    · cases checked

/-- The grid that the settings accept is accepted by the machine. -/
theorem Config.accepted {draft : Draft} {config : Config} (accepted : create draft = .ok config) :
    Machine.create draft.cols draft.rows = .ok (.blank config.grid config.cells_le) ∧
      checkLimit draft.historyLimit = .ok config.historyLimit := by
  unfold create at accepted
  split at accepted
  · cases accepted
  split at accepted
  · rename_i positive
    dsimp only at accepted
    split at accepted
    · rename_i fits
      split at accepted
      · cases accepted
      · rename_i limit checked
        cases accepted
        exact ⟨by rw [Machine.create, dif_pos positive, dif_pos fits], checked⟩
    · cases accepted
  · cases accepted

theorem History.ofLimit_of_index {limit : Option { n : Nat // 0 < n }}
    (index : ∀ n, limit = some n → n.val ≤ Size.maxIndex) : ofLimit limit = .ok ⟨limit, []⟩ := by
  cases limit with
  | none => rfl
  | some n => exact if_pos (index n rfl)

namespace Session

/-- A session whose images all have the machine's size and whose store takes every id. -/
structure Ready (config : Config) (levels : List Level) (s : Session) : Prop where
  fitted : Fitted config levels (fun image => image.length = Machine.sizeFor config.grid) s
  saves : ∀ store, s.store = some store → ∀ id, (store.save id).1 = .ok ()

/-- The ways to begin with a level of the catalogue or with a random program. -/
inductive Begins (config : Config) (levels : List Level) : Request → Prop
  | named {level : Level} (listed : level ∈ levels) (freshSeed : Int) :
      Begins config levels (.start (.value level.id) false freshSeed)
  | resumed (nonempty : levels ≠ []) (freshSeed : Int) :
      Begins config levels (.start .unset false freshSeed)
  | drawn (id : Setting Text) {random : Bool} (asked : random = true ∨ levels = [])
      (seeded : config.seed ≠ .void) (freshSeed : Int) :
      Begins config levels (.start id random freshSeed)
  | level {level : Level} (listed : level ∈ levels) : Begins config levels (.level level)
  | random (seed : Int) : Begins config levels (.random seed)

variable {config : Config} {levels : List Level} {s t : Session}

/-- A load that succeeds and leaves a session in which nothing can fail. -/
def LoadsReady (config : Config) (levels : List Level) (r : Except PlayError Unit × Session) : Prop :=
  ∃ opened, r = (.ok (), opened) ∧ Ready config levels opened

/-- A session that notes something is as ready as before. -/
theorem Ready.noted (ready : Ready config levels s) (same : t = { s with diary := t.diary }) :
    Ready config levels t := by
  rw [same]
  exact ⟨ready.fitted.beside rfl, ready.saves⟩

/-! Random programs. -/

/-- A random program loads in every ready session. -/
theorem Ready.loadRandom (ready : Ready config levels s) (seed : Int) :
    LoadsReady config levels (s.loadRandom seed) := by
  have fitted := ready.fitted.loadRandom (lasting_sized _) seed
  rw [loadRandom_begun] at fitted
  exact ⟨_, loadRandom_begun s seed, fitted, ready.saves⟩

theorem Ready.loadSeeded (ready : Ready config levels s) (seeded : config.seed ≠ .void)
    (freshSeed : Int) : LoadsReady config levels (s.loadSeeded freshSeed) := by
  rw [← ready.fitted.settings] at seeded
  unfold Session.loadSeeded
  cases seed : s.config.seed with
  | unset => exact ready.loadRandom freshSeed
  | void => exact absurd seed seeded
  | value n => exact ready.loadRandom n

theorem Ready.drawn (ready : Ready config levels s) {random : Bool}
    (asked : random = true ∨ levels = []) (seeded : config.seed ≠ .void) (id : Setting Text)
    (freshSeed : Int) : LoadsReady config levels (s.start id random freshSeed) := by
  have draws : (random || s.levels.isEmpty) = true := by
    rw [ready.fitted.catalogue]
    rcases asked with rfl | rfl
    · rfl
    · exact Bool.or_true random
  unfold Session.start
  rw [if_pos draws]
  exact ready.loadSeeded seeded freshSeed

theorem Ready.not_drawn (ready : Ready config levels s) (nonempty : levels ≠ []) :
    ¬(false || s.levels.isEmpty) = true := by
  rw [ready.fitted.catalogue]
  simpa using nonempty

/-! Taking back and saving. -/

theorem saveProgress_of_saves
    (saves : ∀ store, s.store = some store → ∀ id, (store.save id).1 = .ok ()) (id : Text) :
    (s.saveProgress id).1 = .ok true ∧
      ∀ store, (s.saveProgress id).2.store = some store → ∀ other, (store.save other).1 = .ok () := by
  unfold saveProgress
  cases stored : s.store with
  | none =>
    refine ⟨rfl, ?_⟩
    intro store same
    rw [stored] at same
    cases same
  | some store =>
    have saved := saves store stored id
    simp only [saved]
    refine ⟨trivial, ?_⟩
    rintro after ⟨⟩ other
    exact LevelStore.save_again (Prod.ext saved rfl) other

theorem Ready.undo (ready : Ready config levels s) :
    ∃ answer, (s.act (.command .undo)).1 = .ok answer := by
  rcases undo_cases (ready.fitted.entries_fit (lasting_sized _)) with ⟨-, refused⟩ | ⟨_, _, -, back⟩
  · exact ⟨false, congrArg Prod.fst refused⟩
  · exact ⟨true, congrArg Prod.fst back⟩

/-! What fits the machine is loaded. -/

section sized
variable (sized : ∀ level ∈ levels, level.program.length = Machine.sizeFor config.grid)
include sized

/-- Every level of the catalogue loads. -/
theorem Ready.loadLevel (ready : Ready config levels s) {level : Level} (listed : level ∈ levels) :
    LoadsReady config levels (s.loadLevel level) := by
  have fits := ready.fitted.fits (lasting_sized _) (sized level listed)
  exact ⟨_, loadLevel_begun fits, ready.fitted.onLevel (sized level listed), ready.saves⟩

theorem Ready.loadFirst (ready : Ready config levels s) (nonempty : levels ≠ []) (freshSeed : Int) :
    LoadsReady config levels (s.loadFirst freshSeed) := by
  unfold Session.loadFirst
  rw [ready.fitted.catalogue]
  cases levels with
  | nil => exact absurd rfl nonempty
  | cons first others => exact ready.loadLevel sized List.mem_cons_self

/-- A store that can be read leads to a level, the saved one or the first. -/
theorem Ready.resume (ready : Ready config levels s) (nonempty : levels ≠ []) {store : LevelStore}
    (reads : ∃ progress, store.progress = .ok progress) (freshSeed : Int) :
    LoadsReady config levels (s.resume store freshSeed) := by
  obtain ⟨progress, read⟩ := reads
  have noted := ready.noted (noteProgress_rest s store progress)
  simp only [Session.resume, read]
  cases progress.id? with
  | none => exact noted.loadFirst sized nonempty freshSeed
  | some saved =>
    dsimp only
    rw [noted.fitted.catalogue]
    cases found : findLevel levels saved with
    | ok level => exact noted.loadLevel sized (mem_of_findLevel found)
    | error e => exact Ready.loadFirst sized (noted.noted rfl) nonempty freshSeed

theorem Ready.named (ready : Ready config levels s) {level : Level} (listed : level ∈ levels)
    (freshSeed : Int) : LoadsReady config levels (s.start (.value level.id) false freshSeed) := by
  obtain ⟨first, known⟩ := find?_of_listed listed
  have found : findLevel s.levels level.id = .ok first := by
    rw [findLevel, ready.fitted.catalogue, known]
  unfold Session.start
  rw [if_neg (ready.not_drawn (List.ne_nil_of_mem listed))]
  simp only [found]
  exact ready.loadLevel sized (List.mem_of_find?_eq_some known)

theorem Ready.resumed (ready : Ready config levels s)
    (reads : ∀ store, s.store = some store → ∃ progress, store.progress = .ok progress)
    (nonempty : levels ≠ []) (freshSeed : Int) :
    LoadsReady config levels (s.start .unset false freshSeed) := by
  unfold Session.start
  rw [if_neg (ready.not_drawn nonempty)]
  cases stored : s.store with
  | none => exact ready.loadFirst sized nonempty freshSeed
  | some store => exact ready.resume sized nonempty (reads store stored) freshSeed

/-- However the player begins, there is something to play. -/
theorem Ready.begins (ready : Ready config levels s)
    (reads : ∀ store, s.store = some store → ∃ progress, store.progress = .ok progress)
    {r : Request} (begins : Begins config levels r) :
    ∃ opened, s.serve r = (.ok true, opened) ∧ Ready config levels opened := by
  have taken : ∀ {step : Except PlayError Unit × Session}, LoadsReady config levels step →
      ∃ opened, loading step = (.ok true, opened) ∧ Ready config levels opened := by
    rintro step ⟨opened, rfl, still⟩
    exact ⟨opened, rfl, still⟩
  cases begins with
  | named listed freshSeed => exact taken (ready.named sized listed freshSeed)
  | resumed nonempty freshSeed => exact taken (ready.resumed sized reads nonempty freshSeed)
  | drawn id asked seeded freshSeed => exact taken (ready.drawn asked seeded id freshSeed)
  | level listed => exact taken (ready.loadLevel sized listed)
  | random seed => exact taken (ready.loadRandom seed)

/-! Acting. -/

theorem Ready.nextLevel (ready : Ready config levels s) :
    (∃ answer, (s.act (.command .nextLevel)).1 = .ok answer) ∧
      ∀ store, (s.act (.command .nextLevel)).2.store = some store →
        ∀ id, (store.save id).1 = .ok () := by
  rcases nextLevel_cases s with ⟨answer, after, stayed, rest, stays⟩ | ⟨level, -, -, goes⟩
  · refine ⟨?_, by rw [stays, rest]; exact ready.saves⟩
    rcases stayed with rfl | ⟨e, rfl⟩
    · exact ⟨false, congrArg Prod.fst stays⟩
    · obtain ⟨level, listed, takesUp⟩ := takesUp_of_nextLevel stays
      rw [ready.fitted.catalogue] at listed
      exact absurd (ready.fitted.fits (lasting_sized _) (sized level listed)) takesUp.unfit
  · obtain ⟨done, still⟩ := saveProgress_of_saves (s := (s.note _).onLevel level) ready.saves level.id
    rw [goes]
    exact ⟨⟨true, done⟩, still⟩

/-- An action is answered, and afterwards none can fail either. -/
theorem Ready.act (ready : Ready config levels s) (a : Action) :
    (∃ answer, (s.act a).1 = .ok answer) ∧ Ready config levels (s.act a).2 := by
  have fitted := ready.fitted.act (lasting_sized _) (fun _ _ fits => fits) a
  -- the step to the next level and an undo are the actions that can fail at all
  by_cases next : a = .command .nextLevel
  · subst next
    obtain ⟨answered, saves⟩ := ready.nextLevel sized
    exact ⟨answered, fitted, saves⟩
  · refine ⟨?_, fitted, by rw [rest_act s next]; exact ready.saves⟩
    by_cases undoing : a = .command .undo
    · subst undoing
      exact ready.undo
    · have grid : Machine.sizeFor s.machine.grid = Machine.sizeFor config.grid := by
        rw [ready.fitted.grid]
      obtain ⟨answer, after, done, -⟩ := kept_act (ready.fitted.memory.trans grid.symm)
        (ready.fitted.opening.trans grid.symm) undoing next
      exact ⟨answer, congrArg Prod.fst done⟩

/-- A session that is ready stays ready. -/
theorem Ready.after (ready : Ready config levels s) (as : List Action) :
    Ready config levels (s.after as) := by
  induction as generalizing s with
  | nil => exact ready
  | cons a as ih => exact ih (ready.act sized a).2

end sized

/-- Whenever the settings are accepted and their limit is an index, the programs of the catalogue have the
machine's size and the store works, a session can be made: machine and history agree with the settings.
However it begins with a level of the catalogue or with a random program, it does begin, and whatever is
done from then on, every further action is answered and what would be exported has a code. In every
reachable session the images have the machine's size. The lists that the editor steps through always have
a next entry. -/
theorem play_never_fails {draft : Config.Draft} {store : Option LevelStore}
    (accepted : Config.create draft = .ok config)
    (index : ∀ n, config.historyLimit = some n → n.val ≤ Size.maxIndex)
    (sized : ∀ level ∈ levels, level.program.length = Machine.sizeFor config.grid)
    (works : ∀ kept, store = some kept → kept.Works) :
    (∃ s limit, create config levels store = .ok s ∧
      Machine.create draft.cols draft.rows = .ok s.machine ∧
      draft.historyLimit = .ofOption limit ∧ History.create limit = .ok s.bench.history ∧
      ∀ r, Begins config levels r → ∃ opened, s.serve r = (.ok true, opened) ∧ ∀ as a,
        (∃ answer, ((opened.after as).act a).1 = .ok answer) ∧
        (LevelCode.encode? (opened.after as).machine.memory).isSome = true) ∧
    (∀ t, Reachable config levels (· ∈ levels) t →
      t.machine.memory.length = Machine.sizeFor config.grid ∧
      t.opening.length = Machine.sizeFor config.grid ∧
      ∀ image ∈ t.bench.history.entries, image.length = Machine.sizeFor config.grid) ∧
    ∀ current step, (cycleValue Bench.opcodeValues current step).isSome = true ∧
      (cycleValue Bench.targetValues current step).isSome = true := by
  have lasting := lasting_sized config.grid
  obtain ⟨machine, checked⟩ := Config.accepted accepted
  obtain ⟨limit, given, history⟩ := Config.limit_accepted checked
  rw [History.ofLimit_of_index index] at history
  refine ⟨?_, ?_, fun current step => ⟨cycleValue_isSome (by decide) current step,
    cycleValue_isSome (by decide) current step⟩⟩
  · have made : create config levels store = .ok (around config levels store
        (.fresh (.blank config.grid config.cells_le) ⟨config.historyLimit, []⟩ true)) := by
      rw [create, History.ofLimit_of_index index]
    have ready : Ready config levels _ :=
      ⟨fitted_of_created lasting made, fun kept stored => (works kept stored).saves⟩
    refine ⟨_, limit, made, machine, given, history, ?_⟩
    intro r begins
    obtain ⟨opened, begun, playing⟩ :=
      ready.begins sized (fun kept stored => (works kept stored).reads) begins
    refine ⟨opened, begun, fun as a => ?_⟩
    have still := playing.after sized as
    have registers : 4 ≤ (opened.after as).machine.memory.length := by
      rw [still.fitted.memory, Machine.sizeFor, programBase]
      omega
    exact ⟨(still.act sized a).1, by rw [LevelCode.encode?_eq registers]; rfl⟩
  · intro t reached
    have fitted := reached.fitted lasting fun _ _ fits => fits
    exact ⟨fitted.memory, fitted.opening, fitted.entries⟩

/-- The settings of a game on two cells with the given limit. -/
def pairDraft (limit : Int) : Config.Draft :=
  { Config.Draft.standard with cols := 2, rows := 1, historyLimit := .value limit }

/-- What the settings accept as the limit need not be an index, and then there is no session. -/
theorem endless_limit_fails :
    ∃ config, Config.create (pairDraft 9223372036854775808) = .ok config ∧
      create config [pairLevel] none = .error .beyondIndex := by
  exact ⟨⟨pairSession.config.grid, pairSession.config.cells_le, .auto,
    some ⟨9223372036854775808, by decide⟩, .unset, none⟩, rfl, rfl⟩

theorem play_never_fails_with_newStore :
    ∃ config s opened, Config.create (pairDraft 1) = .ok config ∧
      create config [endLevel, oddLevel] (some newStore) = .ok s ∧
      s.serve (.start .unset false 0) = (.ok true, opened) ∧
      ∃ answer, ((opened.after [.click 1, .command .nextLevel, .click 1,
        .command .undo]).act (.command .undo)).1 = .ok answer := by
  let config : Config := { pairSession.config with historyLimit := some ⟨1, Nat.one_pos⟩ }
  have accepted : Config.create (pairDraft 1) = .ok config := rfl
  have index : ∀ n, config.historyLimit = some n → n.val ≤ Size.maxIndex := by
    rintro n ⟨⟩
    decide
  have works : newStore.Works := ⟨⟨.none, by decide +kernel⟩, fun id => rfl⟩
  obtain ⟨⟨s, -, made, -, -, -, begins⟩, -⟩ :=
    @play_never_fails config [endLevel, oddLevel] (pairDraft 1) (some newStore) accepted index
      (by decide) (by rintro kept ⟨⟩; exact works)
  obtain ⟨opened, begun, answers⟩ := begins _ (.resumed (List.cons_ne_nil _ _) 0)
  exact ⟨config, s, opened, accepted, made, begun, (answers _ _).1⟩

end Session

end CellWalk
