import CellWalk.Proofs.Reachable
import CellWalk.Proofs.Refusals
import Mathlib.Data.List.GetD

/-!
# The debugger stays on the grid

The instruction pointer is a byte of memory like any other: an instruction may overwrite it, an image
from the history or the opening brings its own, and the cursor that the debugger is brought to may be
off the grid. Still it names a cell of the grid in every image of a reachable session
(`debugger_stays_on_grid`), because a walk ends by standing on the cell that it has entered and an
edit takes place on a cell only.
-/

namespace CellWalk
set_option autoImplicit false

/-- The instruction pointer of the image names a cell. -/
def Image.OnGrid (g : Grid) (image : Image) : Prop :=
  (image.read Register.ip.address).toNat < g.cells

instance (g : Grid) (image : Image) : Decidable (image.OnGrid g) :=
  inferInstanceAs (Decidable ((image.read Register.ip.address).toNat < g.cells))

variable {g : Grid}

theorem Machine.onGrid_iff {m : Machine} : m.memory.OnGrid g ↔ g.contains m.ip = true := by
  have ip : m.ip = ((m.memory.read Register.ip.address).toNat : Int) := rfl
  rw [Grid.contains_iff, ip, Image.OnGrid]
  omega

theorem Image.onGrid_blank (size : Nat) : (Image.blank size).OnGrid g := by
  have zero : (Image.blank size).read Register.ip.address = 0 := by
    rw [read_natCast, blank, List.getD_eq_getElem?_getD, List.getElem?_replicate]
    split <;> rfl
  rw [OnGrid, zero]
  exact g.cells_pos

/-- A random program begins where a blank one does. -/
theorem Machine.onGrid_randomMemory (seed : Int) : (randomMemory g seed).OnGrid g := by
  have low : Register.ip.address < (Image.blank programBase).length := by
    rw [Image.blank, List.length_replicate]
    exact address_lt .ip
  have start := Image.onGrid_blank (g := g) programBase
  rw [Image.OnGrid, Image.read_natCast] at start ⊢
  rw [randomMemory, List.getD_append _ _ _ _ low]
  exact start

/-- After a walk the debugger stands where it has been or on the cell that it has entered. -/
theorem Machine.Walked.onGrid {m n : Machine} (walk : m.Walked n) (sized : m.Sized)
    (on : m.grid.contains m.ip = true) : m.grid.contains n.ip = true := by
  cases walk with
  | stayed => exact on
  | refused => exact on
  | entered jumped =>
    rw [ip_cycle, ip_of_jump sized jumped]
    exact contains_of_jump jumped

theorem Machine.Retouched.onGrid {m n : Machine} (retouch : m.Retouched n)
    (on : m.grid.contains m.ip = true) : m.grid.contains n.ip = true := by
  rcases retouch.debugger with same | there
  · rw [same]
    exact on
  · exact there

/-- That the debugger is on the grid lasts. -/
theorem lasting_onGrid (g : Grid) :
    Session.Lasting g fun image => image.length = Machine.sizeFor g ∧ image.OnGrid g where
  sized := And.left
  blank := ⟨(Session.lasting_sized g).blank, Image.onGrid_blank _⟩
  random := fun seed => ⟨Session.length_randomMemory g seed, Machine.onGrid_randomMemory seed⟩
  walked := by
    rintro m n rfl ⟨sized, on⟩ walk
    rw [Machine.onGrid_iff] at on ⊢
    exact ⟨walk.shape.length.trans sized, walk.onGrid sized on⟩
  retouched := by
    rintro m n rfl ⟨sized, on⟩ retouch
    rw [Machine.onGrid_iff] at on ⊢
    exact ⟨retouch.length.trans sized, retouch.onGrid on⟩

namespace Session

/-- If the programs of the catalogue start on the grid, the debugger never leaves it: in every session
that can be reached the instruction pointer names a cell, and so it does in the opening and in every image
of the history. A program that has not the machine's size is never loaded. -/
theorem debugger_stays_on_grid {config : Config} {levels : List Level}
    (programs : ∀ level ∈ levels, level.program.length = Machine.sizeFor config.grid →
      level.program.OnGrid config.grid) {s : Session}
    (reached : Reachable config levels (· ∈ levels) s) :
    s.machine.grid = config.grid ∧ 0 ≤ s.machine.ip ∧ s.machine.ip < config.grid.cells ∧
      s.opening.OnGrid config.grid ∧
      ∀ image ∈ s.bench.history.entries, image.OnGrid config.grid := by
  have fitted := reached.fitted (lasting_onGrid config.grid) fun level listed sized =>
    ⟨sized, programs level (listed.elim id id) sized⟩
  have on := Grid.contains_iff.1 (Machine.onGrid_iff.1 fitted.memory.2)
  exact ⟨fitted.grid, on.1, on.2, fitted.opening.2, fun image member => (fitted.entries image member).2⟩

/-- A session whose only level is `swapLevel`. -/
def swapSession : Session := { pairSession with levels := [swapLevel] }

/-- The session with the level loaded. -/
def swapStarted : Session := (swapSession.start .unset false 0).2

/-- The debugger has walked into the swap, which has put 9 into the instruction pointer. -/
def swapWalked : Session := (swapStarted.act (.click 1)).2

theorem debugger_survives_swap :
    swapStarted.machine.get .dbg = 9 ∧ (swapStarted.act (.click 1)).1 = .ok true ∧
      swapWalked.machine.get .dbg = 0 ∧ 0 ≤ swapWalked.machine.ip ∧ swapWalked.machine.ip < 2 ∧
      swapWalked.opening.OnGrid swapSession.config.grid ∧
      ∀ image ∈ swapWalked.bench.history.entries, image.OnGrid swapSession.config.grid := by
  have programs : ∀ level ∈ [swapLevel], level.program.length =
      Machine.sizeFor swapSession.config.grid → level.program.OnGrid swapSession.config.grid := by
    decide
  have created : Reachable swapSession.config [swapLevel] (· ∈ [swapLevel]) swapSession :=
    .created (rfl : create swapSession.config [swapLevel] none = .ok swapSession)
  have walked : Reachable swapSession.config [swapLevel] (· ∈ [swapLevel]) swapWalked :=
    (created.started .unset false 0).acted (.click 1)
  have stays := debugger_stays_on_grid programs walked
  exact ⟨by decide, by decide, by decide, stays.2.1, stays.2.2.1, stays.2.2.2⟩

end Session

end CellWalk
