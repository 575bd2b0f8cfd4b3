import CellWalk.Proofs.Reachable
import CellWalk.Proofs.Refusals
import CellWalk.Screen.Cell

/-!
# Loading a level starts over

What a session has been through before it loads a level does not show afterwards: two sessions of one
configuration and catalogue that load the same level and then do the same show the same game all the
time (`level_isolation`). They agree in more than they show, namely in everything outside the margin
and in the history (`Alike`), and every action keeps them so.
-/

namespace CellWalk.Session
set_option autoImplicit false

/-- Two sessions that show the same game. -/
structure SameGame (s t : Session) : Prop where
  memory : s.machine.memory = t.machine.memory
  entries : s.bench.history.entries = t.bench.history.entries
  mode : s.bench.editor.mode = t.bench.editor.mode
  pointer : s.bench.editor.pointer = t.bench.editor.pointer
  yanked : s.bench.editor.yanked = t.bench.editor.yanked
  outlet : s.machine.outlet = t.machine.outlet
  outputLines : s.outputLines = t.outputLines
  stats : s.machine.stats = t.machine.stats
  enforce : s.bench.walker.enforce = t.bench.walker.enforce
  level : s.level = t.level
  halted : s.machine.isHalted = t.machine.isHalted
  medal : s.medal = t.medal
  hint : s.hint = t.hint
  grid : Screen.renderGrid s = Screen.renderGrid t

/-- Two sessions that play the same game with the same history. -/
structure Alike (s t : Session) : Prop where
  game : s.game = t.game
  history : s.bench.history = t.bench.history

/-- The progress could not be saved. -/
def SaveFailed (answer : Except PlayError Bool) : Prop := ∃ e, answer = .error (.save e)

variable {s t : Session}

theorem renderGrid_game (s : Session) : Screen.renderGrid s.game = Screen.renderGrid s := rfl

/-- Sessions that are alike show the same game. -/
theorem Alike.same (alike : Alike s t) : SameGame s t where
  memory := congrArg (·.machine.memory) alike.game
  entries := congrArg History.entries alike.history
  mode := congrArg (·.bench.editor.mode) alike.game
  pointer := congrArg (·.bench.editor.pointer) alike.game
  yanked := congrArg (·.bench.editor.yanked) alike.game
  outlet := congrArg (·.machine.outlet) alike.game
  outputLines := congrArg (·.outputLines) alike.game
  stats := congrArg (·.machine.stats) alike.game
  enforce := congrArg (·.bench.walker.enforce) alike.game
  level := congrArg (·.level) alike.game
  halted := congrArg (·.machine.isHalted) alike.game
  medal := congrArg (·.medal) alike.game
  hint := congrArg (·.hint) alike.game
  grid := by rw [← renderGrid_game s, alike.game, renderGrid_game]

/-! One action. -/

/-- The action keeps two sessions alike. It is answered alike, unless the progress cannot be saved. -/
structure ActsAlike (s t : Session) (a : Action) : Prop where
  alike : Alike (s.act a).2 (t.act a).2
  answer : ¬SaveFailed (s.act a).1 → ¬SaveFailed (t.act a).1 → (s.act a).1 = (t.act a).1

theorem alike_continuing {core : Session} {x y : Margin} (history : x.history = y.history) :
    Alike (core.continuing x) (core.continuing y) := ⟨rfl, history⟩

/-- Two such sessions are one game with two margins. -/
theorem Alike.margins (alike : Alike s t) :
    ∃ (core : Session) (x y : Margin), s = core.continuing x ∧ t = core.continuing y ∧
      x.history = y.history := by
  refine ⟨s.game, s.margin, t.margin, (continuing_margin s).symm, ?_, alike.history⟩
  rw [alike.game, continuing_margin]

theorem actsAlike_of_eq {a : Action} {answer : Except PlayError Bool} {s' t' : Session}
    (acts : s.act a = (answer, s')) (acts' : t.act a = (answer, t')) (alike : Alike s' t') :
    ActsAlike s t a := by
  refine ⟨?_, fun _ _ => ?_⟩
  · rw [acts, acts']
    exact alike
  · rw [acts, acts']

/-- What is alike plays alike. -/
theorem Alike.plays (alike : Alike s t) {a : Action} (notUndo : a ≠ .command .undo)
    (notNext : a ≠ .command .nextLevel) : ActsAlike s t a := by
  obtain ⟨core, x, y, rfl, rfl, history⟩ := alike.margins
  obtain ⟨answer, after, records, -, same⟩ := plays_act core notUndo notNext
  refine actsAlike_of_eq (same x) (same y) (alike_continuing ?_)
  rw [Margin.history_entered, Margin.history_entered, history]

theorem Alike.undo (alike : Alike s t)
    (fits : ∀ image ∈ s.bench.history.entries, image.length = s.machine.memory.length) :
    ActsAlike s t (.command .undo) := by
  obtain ⟨core, x, y, rfl, rfl, history⟩ := alike.margins
  cases entries : x.history.entries with
  | nil =>
    have entries' : y.history.entries = [] := history ▸ entries
    exact actsAlike_of_eq (undo_stays entries) (undo_stays entries') (alike_continuing history)
  | cons image older =>
    have entries' : y.history.entries = image :: older := history ▸ entries
    have held : (core.continuing x).bench.history.entries = image :: older := entries
    have fits' : image.length = core.machine.memory.length := fits image (held ▸ List.mem_cons_self)
    refine actsAlike_of_eq (undo_pops fits' entries) (undo_pops fits' entries') (alike_continuing ?_)
    rw [Margin.withEntries, Margin.withEntries, history]

theorem answer_of_saved {id : Text} (saved : ¬SaveFailed (s.saveProgress id).1) :
    (s.saveProgress id).1 = .ok true := by
  rcases (saveProgress_cases s id).1 with ok | failed
  · exact ok
  · exact absurd failed saved

/-- Each session saves to its own store, and only there they may fare differently. -/
theorem Alike.nextLevel (alike : Alike s t) : ActsAlike s t (.command .nextLevel) := by
  obtain ⟨core, x, y, rfl, rfl, history⟩ := alike.margins
  rcases nextLevel_continuing core with ⟨answer, after, -, -, same⟩ | ⟨level, -, -, same⟩
  · exact actsAlike_of_eq (same x) (same y) (alike_continuing history)
  · refine ⟨?_, fun saved saved' => ?_⟩
    · rw [same x, same y, (saveProgress_cases _ _).2, (saveProgress_cases (continuing _ y.cleared) _).2]
      exact ⟨rfl, congrArg History.clear history⟩
    · rw [same x] at saved ⊢
      rw [same y] at saved' ⊢
      rw [answer_of_saved saved, answer_of_saved saved']

/-- One action does the same in both, unless saving fails in one. -/
theorem Alike.act (alike : Alike s t)
    (fits : ∀ image ∈ s.bench.history.entries, image.length = s.machine.memory.length) (a : Action) :
    ActsAlike s t a := by
  by_cases undoing : a = .command .undo
  · subst undoing
    exact alike.undo fits
  · by_cases next : a = .command .nextLevel
    · subst next
      exact alike.nextLevel
    · exact alike.plays undoing next

/-! Loading and going on. -/

theorem machine_onLevel (grid : s.machine.grid = t.machine.grid)
    (depth : s.machine.outlet.depth = t.machine.outlet.depth) (level : Level) :
    (s.onLevel level).machine = (t.onLevel level).machine := by
  have loaded : ∀ u : Session, (u.onLevel level).machine =
      ⟨u.machine.grid, u.machine.cells_le, level.program, .empty u.machine.outlet.depth, 0, 0, 0⟩ :=
    fun _ => rfl
  rw [loaded, loaded, depth]
  congr 1

/-- What a level's load leaves is the same for all sessions of a configuration and a catalogue. -/
theorem alike_onLevel {config : Config} {levels : List Level} {good : Image → Prop}
    (h : Fitted config levels good s) (h' : Fitted config levels good t) (level : Level) :
    Alike (s.onLevel level) (t.onLevel level) := by
  have config_ : s.config = t.config := h.settings.trans h'.settings.symm
  have levels_ : s.levels = t.levels := h.catalogue.trans h'.catalogue.symm
  have machine : (s.onLevel level).machine = (t.onLevel level).machine :=
    machine_onLevel (h.grid.trans h'.grid.symm) (h.depth.trans h'.depth.symm) level
  have history : (s.onLevel level).bench.history = (t.onLevel level).bench.history := by
    have limit : s.bench.history.limit = t.bench.history.limit := h.limit.trans h'.limit.symm
    change (⟨s.bench.history.limit, []⟩ : History) = ⟨t.bench.history.limit, []⟩
    rw [limit]
  have shown : ∀ u : Session, (u.onLevel level).game =
      { config := { u.config with historyLimit := none }
        levels := u.levels
        store := none
        bench := ⟨(u.onLevel level).machine, .unlimited, ⟨u.config.policy.enforces true, 0, 0⟩, .closed⟩
        level := some level
        seed := none
        exports := []
        opening := level.program
        diary := [] } := fun _ => rfl
  exact ⟨by rw [shown, shown, config_, levels_, machine], history⟩

/-- Two sessions that can be reached from one configuration and catalogue load a level whose program
has the machine's size. From then on, whatever is done in both of them, they show the same game, and
every action is answered alike, unless the progress cannot be saved. -/
theorem level_isolation {config : Config} {levels : List Level} {given given' : Level → Prop}
    {s t : Session} (reached : Reachable config levels given s)
    (reached' : Reachable config levels given' t) {level : Level}
    (fits : level.program.length = Machine.sizeFor config.grid) :
    ∃ s₀ t₀, s.loadLevel level = (.ok (), s₀) ∧ t.loadLevel level = (.ok (), t₀) ∧
      ∀ as : List Action, SameGame (s₀.after as) (t₀.after as) ∧
        ∀ a : Action, ¬SaveFailed ((s₀.after as).act a).1 → ¬SaveFailed ((t₀.after as).act a).1 →
          ((s₀.after as).act a).1 = ((t₀.after as).act a).1 := by
  have lasting := lasting_sized config.grid
  have fitted := reached.fitted lasting fun _ _ sized => sized
  have fitted' := reached'.fitted lasting fun _ _ sized => sized
  refine ⟨s.onLevel level, t.onLevel level, loadLevel_begun (fitted.fits lasting fits),
    loadLevel_begun (fitted'.fits lasting fits), fun as => ?_⟩
  have fits' : ∀ as, ∀ image ∈ ((s.onLevel level).after as).bench.history.entries,
      image.length = ((s.onLevel level).after as).machine.memory.length := fun as =>
    ((fitted.onLevel fits).after lasting (fun _ _ sized => sized) as).entries_fit lasting
  -- what they show would not do as an invariant: the opening that a restart goes back to is not shown
  have alike : Alike ((s.onLevel level).after as) ((t.onLevel level).after as) := by
    induction as using List.reverseRecOn with
    | nil => exact alike_onLevel fitted fitted' level
    | append_singleton as a ih =>
      rw [after_append_singleton, after_append_singleton]
      exact (ih.act (fits' as) a).alike
  exact ⟨alike.same, fun a => (alike.act (fits' as) a).answer⟩

/-- A session that has yanked a record and has left the editor open loads the level again. Pasting then
blanks the debugger's cell, as it does in a session that has done nothing before. -/
theorem isolation_from_openEditor :
    besideFull.bench.editor.active = true ∧ besideFull.bench.editor.yanked = ⟨1, 5, 0, 0⟩ ∧
      ∃ s₀ t₀, pairSession.loadLevel pairLevel = (.ok (), s₀) ∧
        besideFull.loadLevel pairLevel = (.ok (), t₀) ∧
        SameGame (s₀.after [.command .editToggle, .command .paste])
          (t₀.after [.command .editToggle, .command .paste]) ∧
        (t₀.after [.command .editToggle, .command .paste]).machine.instruction 0 = .blank := by
  have created : Reachable pairSession.config [pairLevel] (fun _ => True) pairSession :=
    .created (rfl : create pairSession.config [pairLevel] none = .ok pairSession)
  have played : Reachable pairSession.config [pairLevel] (fun _ => True) besideFull :=
    (((created.loaded trivial).acted (.command .editToggle)).acted
      (.command .yank)).acted (.command (.cursor .right))
  have fits : pairLevel.program.length = Machine.sizeFor pairSession.config.grid := rfl
  obtain ⟨s₀, t₀, loaded, loaded', same⟩ := level_isolation created played fits
  obtain rfl : (besideFull.loadLevel pairLevel).2 = t₀ := by rw [loaded']
  exact ⟨by decide, by decide, s₀, _, loaded, loaded', (same _).1, by decide⟩

end CellWalk.Session
