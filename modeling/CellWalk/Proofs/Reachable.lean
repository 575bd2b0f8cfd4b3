import CellWalk.Proofs.Margins

/-!
# Reachable sessions

Which sessions there can be of a configuration and a catalogue (`Reachable`), and what all of them have
in common (`Fitted`): the machine has the grid and the outlet of the configuration, the history its
limit, and all images have the machine's size. What else holds of an image that is loaded and is kept
by every step of a machine (`Lasting`) holds of the memory, the opening and the whole history.
-/

namespace CellWalk
set_option autoImplicit false

namespace Machine

variable {m n : Machine}

theorem Walked.shape (walk : m.Walked n) : m.SameShape n := by
  cases walk with
  | stayed => exact .refl m
  | refused => exact ⟨rfl, rfl⟩
  | entered jumped =>
    have shape := sameShape_jump m ‹_›
    rw [jumped] at shape
    exact shape.trans (sameShape_cycle _)

theorem Retouched.shape (retouch : m.Retouched n) : m.SameShape n := ⟨retouch.grid, retouch.length⟩

end Machine

/-- A push puts the image first; what is lost is lost at the end. -/
theorem History.entries_push_prefix (h : History) (image : Image) :
    (h.push image).entries <+: image :: h.entries := by
  simp only [push, keep]
  split
  · exact List.prefix_rfl
  · exact List.take_prefix _ _

theorem History.mem_push {h : History} {image old : Image} (member : old ∈ (h.push image).entries) :
    old = image ∨ old ∈ h.entries :=
  List.mem_cons.1 ((h.entries_push_prefix image).subset member)

namespace Session

/-- The session after some actions. -/
def after (s : Session) (as : List Action) : Session := as.foldl (fun s a => (s.act a).2) s

theorem after_append_singleton (s : Session) (as : List Action) (a : Action) :
    s.after (as ++ [a]) = ((s.after as).act a).2 := by
  rw [after, List.foldl_append]
  rfl

/-- How many of the actions count in the course of all of them, each by itself and by its answer. -/
def tally (s : Session) (counts : Action → Except PlayError Bool → Bool) : List Action → Nat
  | [] => 0
  | a :: as => (if counts a (s.act a).1 then 1 else 0) + (s.act a).2.tally counts as

theorem tally_append_singleton (s : Session) (counts : Action → Except PlayError Bool → Bool)
    (as : List Action) (a : Action) :
    s.tally counts (as ++ [a]) =
      s.tally counts as + if counts a ((s.after as).act a).1 then 1 else 0 := by
  induction as generalizing s with
  | nil => simp only [List.nil_append, tally, Nat.add_zero, Nat.zero_add]; rfl
  | cons b as ih => simp only [List.cons_append, tally, ih, Nat.add_assoc]; rfl

/-- The sessions that a configuration and a catalogue lead to. Beside the levels of the catalogue some
others may be given; a load may fail, and so may every other step. -/
inductive Reachable (config : Config) (levels : List Level) (given : Level → Prop) : Session → Prop
  | created {store : Option LevelStore} {s : Session} (made : create config levels store = .ok s) :
      Reachable config levels given s
  | started {s : Session} (run : Reachable config levels given s) (id : Setting Text) (random : Bool)
      (freshSeed : Int) : Reachable config levels given (s.start id random freshSeed).2
  | loaded {s : Session} (run : Reachable config levels given s) {level : Level}
      (isGiven : given level) : Reachable config levels given (s.loadLevel level).2
  | drawn {s : Session} (run : Reachable config levels given s) (seed : Int) :
      Reachable config levels given (s.loadRandom seed).2
  | acted {s : Session} (run : Reachable config levels given s) (a : Action) :
      Reachable config levels given (s.act a).2

/-! How a game is opened. -/

/-- What becomes of a session that looks for something to play: it notes something at most, and then it
loads a level of the catalogue or a random program, or there is nothing that it could load. -/
inductive Opens (s : Session) : Except PlayError Unit × Session → Prop
  | stayed {t : Session} {e : PlayError} (noted : t = { s with diary := t.diary })
      (why : ∀ size, e ≠ .size size) : Opens s (.error e, t)
  | level {t : Session} {level : Level} (noted : t = { s with diary := t.diary })
      (listed : level ∈ s.levels) : Opens s (t.loadLevel level)
  | random {t : Session} (noted : t = { s with diary := t.diary }) (seed : Int) :
      Opens s (t.loadRandom seed)

variable {s t : Session}

theorem opens_loadSeeded (noted : t = { s with diary := t.diary }) (freshSeed : Int) :
    s.Opens (t.loadSeeded freshSeed) := by
  unfold loadSeeded
  split
  · exact .random noted _
  · exact .stayed noted fun _ => nofun

/-- Without a saved level the first of the catalogue is loaded, or a random program if it is empty. -/
theorem opens_loadFirst (noted : t = { s with diary := t.diary }) (freshSeed : Int) :
    s.Opens (t.loadFirst freshSeed) := by
  have same : t.levels = s.levels := by rw [noted]
  unfold loadFirst
  split
  · exact opens_loadSeeded noted freshSeed
  · rename_i first others catalogue
    refine .level noted ?_
    rw [← same, catalogue]
    exact List.mem_cons_self

/-- A level that is found by its id is in the catalogue. -/
theorem mem_of_findLevel {levels : List Level} {id : Text} {level : Level}
    (found : findLevel levels id = .ok level) : level ∈ levels := by
  unfold findLevel at found
  split at found
  · rename_i l known
    cases found
    exact List.mem_of_find?_eq_some known
  · cases found

theorem find?_of_listed {levels : List Level} {level : Level} (listed : level ∈ levels) :
    ∃ first, levels.find? (fun l => l.id == level.id) = some first := by
  apply Option.isSome_iff_exists.1
  apply List.find?_isSome.2
  exact ⟨level, listed, beq_self_eq_true level.id⟩

/-- What is read from the store is noted in the diary only. -/
theorem noteProgress_rest (s : Session) (store : LevelStore) (p : Progress) :
    s.noteProgress store p = { s with diary := (s.noteProgress store p).diary } := by
  cases p <;> rfl

/-- A saved level is resumed if the catalogue has it; otherwise the game is opened without one. -/
theorem opens_resume (s : Session) (store : LevelStore) (freshSeed : Int) :
    s.Opens (s.resume store freshSeed) := by
  have noted := noteProgress_rest s store
  unfold resume
  split
  · exact .stayed rfl fun _ => nofun
  · rename_i progress _
    have same : (s.noteProgress store progress).levels = s.levels := by rw [noted]
    dsimp only
    split
    · exact opens_loadFirst (noted progress) freshSeed
    · rename_i saved _
      rw [same]
      split
      · rename_i level found
        exact .level (noted progress) (mem_of_findLevel found)
      · refine opens_loadFirst ?_ freshSeed
        rw [note, noted]

/-- Whatever is asked for at the start, the game is opened in one of these ways. -/
theorem opens_start (s : Session) (id : Setting Text) (random : Bool) (freshSeed : Int) :
    s.Opens (s.start id random freshSeed) := by
  unfold start
  split
  · exact opens_loadSeeded rfl freshSeed
  split
  · split
    · rename_i level found
      exact .level rfl (mem_of_findLevel found)
    · exact .stayed rfl fun _ => nofun
  · exact .stayed rfl fun _ => nofun
  · split
    · exact opens_loadFirst rfl freshSeed
    · exact opens_resume s _ freshSeed

/-! What reachable sessions have in common. -/

/-- A property of images that blank and random memories have and that every step of a machine keeps. -/
structure Lasting (g : Grid) (good : Image → Prop) : Prop where
  sized : ∀ {image : Image}, good image → image.length = Machine.sizeFor g
  blank : good (Image.blank (Machine.sizeFor g))
  random : ∀ seed, good (Machine.randomMemory g seed)
  walked : ∀ {m n : Machine}, m.grid = g → good m.memory → m.Walked n → good n.memory
  retouched : ∀ {m n : Machine}, m.grid = g → good m.memory → m.Retouched n → good n.memory

/-- A session of the configuration and the catalogue, all of whose images are good. -/
structure Fitted (config : Config) (levels : List Level) (good : Image → Prop) (s : Session) :
    Prop where
  settings : s.config = config
  catalogue : s.levels = levels
  grid : s.machine.grid = config.grid
  depth : s.machine.outlet.depth = Machine.outletDepth
  limit : s.bench.history.limit = config.historyLimit
  memory : good s.machine.memory
  opening : good s.opening
  entries : ∀ image ∈ s.bench.history.entries, good image

/-- To have the size of the machine's memory is such a property. -/
theorem lasting_sized (g : Grid) : Lasting g fun image => image.length = Machine.sizeFor g where
  sized := id
  blank := List.length_replicate
  random := length_randomMemory g
  walked := fun _ sized walk => walk.shape.length.trans sized
  retouched := fun _ sized retouch => retouch.length.trans sized

section fitted
variable {config : Config} {levels : List Level} {good : Image → Prop}

/-- A good image has the size of memory, so it can be loaded. -/
theorem Fitted.fits (h : Fitted config levels good s) (lasting : Lasting config.grid good)
    {image : Image} (isGood : good image) : image.length = s.machine.memory.length :=
  (lasting.sized isGood).trans (lasting.sized h.memory).symm

theorem Fitted.entries_fit (h : Fitted config levels good s) (lasting : Lasting config.grid good) :
    ∀ image ∈ s.bench.history.entries, image.length = s.machine.memory.length :=
  fun image member => h.fits lasting (h.entries image member)

/-- Level, seed, store, exports and diary do not count. -/
theorem Fitted.beside (h : Fitted config levels good s)
    (same : t = { s with
      store := t.store, level := t.level, seed := t.seed, exports := t.exports, diary := t.diary }) :
    Fitted config levels good t := by
  rw [same]
  exact ⟨h.settings, h.catalogue, h.grid, h.depth, h.limit, h.memory, h.opening, h.entries⟩

/-- A fitted session that begins a good image is fitted: its history is empty. -/
theorem Fitted.begun (h : Fitted config levels good s) {image : Image} (isGood : good image)
    (authored : Bool) : Fitted config levels good (s.begun image authored) :=
  ⟨h.settings, h.catalogue, h.grid, h.depth, h.limit, isGood, isGood, fun _ member => nomatch member⟩

theorem Fitted.onLevel (h : Fitted config levels good s) {level : Level}
    (isGood : good level.program) : Fitted config levels good (s.onLevel level) := by
  have chosen : Fitted config levels good (s.choosing level) := h.beside rfl
  exact (chosen.begun isGood true).beside rfl

/-- A level that fits is good and is begun; any other is only remembered. -/
theorem Fitted.loadLevel (h : Fitted config levels good s) (lasting : Lasting config.grid good)
    {level : Level} (isGood : level.program.length = Machine.sizeFor config.grid → good level.program) :
    Fitted config levels good (s.loadLevel level).2 := by
  by_cases fits : level.program.length = s.machine.memory.length
  · rw [loadLevel_begun fits]
    exact h.onLevel (isGood (fits.trans (lasting.sized h.memory)))
  · rw [loadLevel_unfit fits]
    exact h.beside rfl

/-- A random memory is good. -/
theorem Fitted.loadRandom (h : Fitted config levels good s) (lasting : Lasting config.grid good)
    (seed : Int) : Fitted config levels good (s.loadRandom seed).2 := by
  have isGood : good (s.machine.randomize seed).memory := by
    have drawn := lasting.random seed
    rw [← h.grid] at drawn
    exact drawn
  have drawn : Fitted config levels good (s.drawing seed) :=
    ⟨h.settings, h.catalogue, h.grid, h.depth, h.limit, isGood, h.opening, h.entries⟩
  rw [loadRandom_begun]
  exact (drawn.begun isGood false).beside rfl

/-- A session is still fitted after it is opened, if the levels of its catalogue that fit are good. -/
theorem Fitted.opens (h : Fitted config levels good s) (lasting : Lasting config.grid good)
    (catalogue : ∀ level ∈ levels, level.program.length = Machine.sizeFor config.grid →
      good level.program) {r : Except PlayError Unit × Session} (opens : s.Opens r) :
    Fitted config levels good r.2 := by
  have beside : ∀ {t : Session}, t = { s with diary := t.diary } → Fitted config levels good t := by
    intro t noted
    refine h.beside ?_
    rw [noted]
  cases opens with
  | stayed noted _ => exact beside noted
  | level noted listed => exact (beside noted).loadLevel lasting (catalogue _ (h.catalogue ▸ listed))
  | random noted seed => exact (beside noted).loadRandom lasting seed

/-- What a turn makes of the machine is good, by a walk, by an edit or by the opening. -/
theorem Fitted.turned (h : Fitted config levels good s) (lasting : Lasting config.grid good)
    {m : Machine} (turned : Turned s.opening s.machine m) :
    m.grid = config.grid ∧ m.outlet.depth = Machine.outletDepth ∧ good m.memory := by
  cases turned with
  | walked walk =>
    exact ⟨walk.shape.grid.trans h.grid, walk.depth.trans h.depth, lasting.walked h.grid h.memory walk⟩
  | retouched retouch =>
    have outlet : m.outlet = s.machine.outlet := by rw [retouch.rest]
    exact ⟨retouch.grid.trans h.grid, (congrArg Outlet.depth outlet).trans h.depth,
      lasting.retouched h.grid h.memory retouch⟩
  | reset => exact ⟨h.grid, h.depth, h.opening⟩

/-- A turn pushes the memory of before, which is good. -/
theorem Fitted.plays (h : Fitted config levels good s) (lasting : Lasting config.grid good)
    {step : Session → Step} (plays : Plays step s.game) : Fitted config levels good (step s).2 := by
  obtain ⟨answer, next, records, turn, same⟩ := plays
  have stepped := same s.margin
  rw [continuing_margin] at stepped
  obtain ⟨grid, depth, memory⟩ := h.turned lasting turn.machine
  have entered := s.margin.history_entered records s.machine.memory
  rw [stepped, turn.rest]
  refine ⟨h.settings, h.catalogue, grid, depth, ?_, memory, h.opening, fun image member => ?_⟩
  · change (s.margin.entered records s.machine.memory).history.limit = _
    rw [entered]
    split <;> exact h.limit
  · change image ∈ (s.margin.entered records s.machine.memory).history.entries at member
    rw [entered] at member
    split at member
    · rcases History.mem_push member with rfl | old
      · exact h.memory
      · exact h.entries image old
    · exact h.entries image member

/-- An undo goes back to the newest image, if there is one. -/
theorem Fitted.undo (h : Fitted config levels good s) (lasting : Lasting config.grid good) :
    Fitted config levels good (s.act (.command .undo)).2 := by
  rcases undo_cases (h.entries_fit lasting) with ⟨-, refused⟩ | ⟨image, older, entries, back⟩
  · rw [refused]
    exact h.beside rfl
  · have old : ∀ x ∈ image :: older, good x := entries ▸ h.entries
    rw [back]
    exact ⟨h.settings, h.catalogue, h.grid, h.depth, h.limit, old image List.mem_cons_self, h.opening,
      fun x member => old x (List.mem_cons_of_mem image member)⟩

/-- The next level is one of the catalogue. -/
theorem Fitted.nextLevel (h : Fitted config levels good s) (lasting : Lasting config.grid good)
    (catalogue : ∀ level ∈ levels, level.program.length = Machine.sizeFor config.grid →
      good level.program) : Fitted config levels good (s.act (.command .nextLevel)).2 := by
  rcases nextLevel_cases s with ⟨answer, after, -, rest, stays⟩ | ⟨level, listed, fits, goes⟩
  · rw [stays, rest]
    exact h.beside rfl
  · have member : level ∈ levels := h.catalogue ▸ listed
    have isGood : good level.program :=
      catalogue level member (fits.trans (lasting.sized h.memory))
    have noted : Fitted config levels good (s.note (.command Command.nextLevel.name)) := h.beside rfl
    rw [goes, (saveProgress_cases _ _).2]
    exact (noted.onLevel isGood).beside rfl

/-- One action keeps a session fitted. -/
theorem Fitted.act (h : Fitted config levels good s) (lasting : Lasting config.grid good)
    (catalogue : ∀ level ∈ levels, level.program.length = Machine.sizeFor config.grid →
      good level.program) (a : Action) : Fitted config levels good (s.act a).2 := by
  by_cases undoing : a = .command .undo
  · rw [undoing]
    exact h.undo lasting
  · by_cases next : a = .command .nextLevel
    · rw [next]
      exact h.nextLevel lasting catalogue
    · exact h.plays lasting (plays_act s.game undoing next)

/-- So do any actions, one after the other. -/
theorem Fitted.after (h : Fitted config levels good s) (lasting : Lasting config.grid good)
    (catalogue : ∀ level ∈ levels, level.program.length = Machine.sizeFor config.grid →
      good level.program) (as : List Action) : Fitted config levels good (s.after as) := by
  induction as generalizing s with
  | nil => exact h
  | cons a as ih => exact ih (h.act lasting catalogue a)

/-- A new session is fitted: its memory is blank and its history empty. -/
theorem fitted_of_created (lasting : Lasting config.grid good) {store : Option LevelStore}
    (made : create config levels store = .ok s) : Fitted config levels good s := by
  unfold create at made
  split at made
  · cases made
  · rename_i history empty
    cases made
    have blank : history = ⟨config.historyLimit, []⟩ := by
      unfold History.ofLimit at empty
      split at empty
      · rename_i unlimited
        cases empty
        rw [unlimited]
        rfl
      · rename_i n limited
        split at empty
        · cases empty
          rw [limited]
        · cases empty
    subst blank
    exact ⟨rfl, rfl, rfl, rfl, rfl, lasting.blank, lasting.blank, fun _ none => nomatch none⟩

/-- Every reachable session is fitted if the levels that can be loaded are good. -/
theorem Reachable.fitted {given : Level → Prop} (reached : Reachable config levels given s)
    (lasting : Lasting config.grid good)
    (catalogue : ∀ level, level ∈ levels ∨ given level →
      level.program.length = Machine.sizeFor config.grid → good level.program) :
    Fitted config levels good s := by
  have listed : ∀ level ∈ levels, level.program.length = Machine.sizeFor config.grid →
      good level.program := fun level member => catalogue level (.inl member)
  induction reached with
  | created made => exact fitted_of_created lasting made
  | started _ id random freshSeed ih =>
    exact ih.opens lasting listed (opens_start _ id random freshSeed)
  | loaded _ isGiven ih => exact ih.loadLevel lasting (catalogue _ (.inr isGiven))
  | drawn _ seed ih => exact ih.loadRandom lasting seed
  | acted _ a ih => exact ih.act lasting listed a

end fitted

end Session

end CellWalk
