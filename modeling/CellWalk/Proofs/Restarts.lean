import CellWalk.Proofs.Sending

/-!
# Restarts

Whatever has been done in a game, a restart leads back to the memory that was loaded. If it takes effect,
the output and the port are empty afterwards as well. But what decides is the memory alone: if it is the
loaded one already, the restart is refused, and what was sent on a way that has been taken back stays
(`restart_of_undone_send`).
-/

namespace CellWalk.Session
set_option autoImplicit false

variable {config : Config} {levels : List Level} {given : Level → Prop} {s s' : Session}

/-- Only loads make another image the opening. -/
theorem opening_act {a : Action} {answer : Except PlayError Bool} (acted : s.act a = (answer, s'))
    (stays : StaysOnLevel a answer) : s'.opening = s.opening := by
  by_cases next : a = .command .nextLevel
  · subst next
    exact (advance_stays (s := s.note (.command Command.nextLevel.name)) acted (stays rfl)).2
  · have kept := congrArg Session.opening (rest_act s next)
    rw [acted] at kept
    exact kept

theorem opening_reaches {start : Session} (run : start.Reaches s) : s.opening = start.opening := by
  induction run with
  | refl => rfl
  | step _ acted stays ih => exact (opening_act acted stays).trans ih

theorem opening_of_loaded {before start : Session} (loaded : before.Loaded start) :
    start.opening = start.machine.memory := by
  rcases loaded with ⟨level, loaded⟩ | ⟨seed, loaded⟩
  · by_cases fits : level.program.length = before.machine.memory.length
    · rw [loadLevel_begun fits] at loaded
      cases loaded
      rfl
    · rw [loadLevel_unfit fits] at loaded
      cases loaded
  · rw [loadRandom_begun] at loaded
    cases loaded
    rfl

/-- A restart always answers, and then the memory is the one that was loaded last. It takes effect if the
memory was another one before, and only then output and port are cleared; otherwise they stay as they
were. -/
theorem restart_leads_to_opening (reached : Reachable config levels given s) :
    ∃ answer s', s.dispatch .restart = (.ok answer, s') ∧
      s'.machine.memory = s.opening ∧
      (∀ before start : Session, before.Loaded start → start.Reaches s →
        s'.machine.memory = start.machine.memory) ∧
      (answer = true ↔ s.machine.memory ≠ s.opening) ∧
      if answer then s'.outputLines = [] ∧ s'.machine.outlet.buffer = []
      else s'.outputLines = s.outputLines ∧ s'.machine.outlet = s.machine.outlet := by
  have lasting := lasting_sized config.grid
  have fitted := reached.fitted lasting fun _ _ sized => sized
  have loaded : ∀ before start : Session, before.Loaded start → start.Reaches s →
      s.opening = start.machine.memory := by
    intro before start loaded run
    rw [opening_reaches run, opening_of_loaded loaded]
  rcases restart_cases (fitted.fits lasting fitted.opening) with ⟨same, refused⟩ | ⟨differ, back⟩
  · refine ⟨false, _, refused, same, ?_, by simp [same], rfl, rfl⟩
    intro before start load run
    exact same.trans (loaded before start load run)
  · exact ⟨true, _, back, rfl, loaded, by simp [differ], rfl, rfl⟩

/-- The player has sent a byte. -/
def sendOnce : List Request := [.level sendLevel, .action (.click 1)]

theorem reachable_served (rs : List Request) :
    Reachable pairSession.config [pairLevel] (fun _ => True) (pairSession.served rs) := by
  have created : Reachable pairSession.config [pairLevel] (fun _ => True) pairSession :=
    .created (rfl : create pairSession.config [pairLevel] none = .ok pairSession)
  exact created.served (fun _ => trivial) rs

theorem restart_after_sendOnce :
    (pairSession.served sendOnce).outputLines = [outputLine 0] ∧
      ∃ s', (pairSession.served sendOnce).dispatch .restart = (.ok true, s') ∧
        s'.machine.memory = sendLevel.program ∧ s'.outputLines = [] ∧ s'.machine.outlet.buffer = [] := by
  have lines : (pairSession.served sendOnce).outputLines = [outputLine 0] := by decide +kernel
  have loaded : pairSession.Loaded (pairSession.served [.level sendLevel]) := .inl ⟨sendLevel, rfl⟩
  have run : (pairSession.served [.level sendLevel]).Reaches (pairSession.served sendOnce) :=
    .step (a := .click 1) .refl rfl fun next => by cases next
  obtain ⟨answer, s', back, -, memory, effect, cleared⟩ :=
    restart_leads_to_opening (reachable_served sendOnce)
  obtain rfl : answer = true := effect.2 (by decide +kernel)
  exact ⟨lines, s', back, (memory _ _ loaded run).trans rfl, cleared⟩

/-- The player has sent a byte and has taken that back. A restart is refused, and both the output and the
port still have the byte. -/
theorem restart_of_undone_send :
    pairSession.Loaded (pairSession.served [.level sendLevel]) ∧
      (pairSession.served [.level sendLevel]).Reaches
        (pairSession.served (sendOnce ++ [.action (.command .undo)])) ∧
      ((pairSession.served (sendOnce ++ [.action (.command .undo)])).dispatch .restart).1 =
        .ok false ∧
      ((pairSession.served (sendOnce ++ [.action (.command .undo)])).dispatch .restart).2.outputLines =
        [outputLine 0] ∧
      ((pairSession.served
        (sendOnce ++ [.action (.command .undo)])).dispatch .restart).2.machine.outlet.buffer = [0] := by
  have loaded : pairSession.Loaded (pairSession.served [.level sendLevel]) := .inl ⟨sendLevel, rfl⟩
  have clicked : (pairSession.served [.level sendLevel]).Reaches (pairSession.served sendOnce) :=
    .step (a := .click 1) .refl rfl fun next => by cases next
  have undone := clicked.step (a := .command .undo) rfl fun next => by cases next
  exact ⟨loaded, undone, by decide +kernel, by decide +kernel, by decide +kernel⟩

end CellWalk.Session
