import CellWalk.Proofs.Reachable
import CellWalk.Proofs.Refusals
import CellWalk.Proofs.Footprint
import Mathlib.Data.List.Find

/-!
# The pace of a game

The cycle counter is a byte like any other: instructions store in it, an undo brings an older value back,
and at 255 it stops. But while no record that stores in it is executed, every image tells how many walks
have led to it, the memory as well as the images to go back to (`Paced`). So the medal is the one for the
walks that are made and not taken back, or for 255 if there are more of them (`medal_counts_walks`). That
makes a difference for goals from 255 on: one who goes beyond them still meets them
(`medal_of_late_end`).
-/

namespace CellWalk
set_option autoImplicit false

/-- The cycles that an image has counted. -/
def Image.cycles (image : Image) : Nat := (image.read Register.cyc.address).toNat

/-- Two counts of cycles that meet the same goals earn the same medal. -/
theorem Level.medal_congr {level : Level} {c d : Int} (same : ∀ goal ∈ level.goals, c ≤ goal ↔ d ≤ goal) :
    level.medal c = level.medal d := by
  have agree : (Medal.all.zip level.goals).find? (fun goal => decide (c ≤ goal.2)) =
      (Medal.all.zip level.goals).find? fun goal => decide (d ≤ goal.2) :=
    List.find?_congr fun goal member =>
      decide_eq_decide.2 (same goal.2 (List.of_mem_zip member).2)
  simp only [medal, agree]

/-! Walks. -/

/-- A walk as its answer has it: refused, with memory and history as they were, or into a cell. -/
inductive Bench.Enters (b : Bench) : Bool × Bench → Prop
  | refused {after : Bench} (same : b.Unchanged after) : Enters b (false, after)
  | entered {index : Int} {n : Machine} {after : Bench} (jumped : b.machine.jump index = (true, n))
      (machine : after.machine = n.cycle) (history : after.history = b.history.push b.machine.memory) :
      Enters b (true, after)

namespace Bench

theorem enters_reject (b : Bench) : b.Enters (false, b.reject) := .refused (unchanged_reject b)

theorem enters_commit (b : Bench) (index : Int) : b.Enters (b.commit index) := by
  unfold commit
  split
  · rename_i machine e
    have counted := Machine.jump_refused e
    subst counted
    exact .refused ⟨rfl, rfl, rfl⟩
  · rename_i e
    exact .entered e rfl rfl

theorem enters_attemptMove (b : Bench) (code : Int) : b.Enters (b.attemptMove code) := by
  unfold attemptMove
  split
  · split
    · exact enters_commit b _
    · exact enters_reject b
  · exact enters_reject b

theorem enters_jumpTo (b : Bench) (index : Int) : b.Enters (b.jumpTo index) := by
  unfold jumpTo
  split
  · exact enters_commit b index
  · exact enters_reject b

end Bench

namespace Session

/-- Whether a step has taken effect. -/
def took : Except PlayError Bool → Bool
  | .ok done => done
  | .error _ => false

/-- The record that a walk has executed on its way into the cell where the debugger stands afterwards. A
record that is executed and refuses does nothing. -/
def entered? (s : Session) (a : Action) : Option Instruction :=
  if a.walks && took (s.act a).1 then some (s.machine.instruction (s.act a).2.machine.ip) else none

/-- Whether the actions keep off a register: none of the records that they execute stores in it. -/
def keepsOff (s : Session) (q : Register) : List Action → Bool
  | [] => true
  | a :: as => (s.entered? a).all (fun r => !r.storesIn q) && (s.act a).2.keepsOff q as

/-- How many walks have entered a cell in the course of the actions. -/
def walksMade (s : Session) (as : List Action) : Nat :=
  s.tally (fun a answer => a.walks && took answer) as

/-- How many changes have been taken back. -/
def undosMade (s : Session) (as : List Action) : Nat :=
  s.tally (fun a answer => a == .command .undo && took answer) as

variable {s s' : Session} {n : Nat} {a : Action}

theorem enters_walked {r : Bool × Bench} (enters : s.bench.Enters r) :
    s.bench.Enters ((s.walked r).1, (s.walked r).2.bench) := by
  rw [bench_walked]
  exact enters

theorem enters_act (s : Session) (walks : a.walks = true) :
    ∃ answer, (s.act a).1 = .ok answer ∧ s.bench.Enters (answer, (s.act a).2.bench) := by
  have refused : s.bench.Enters (false, s.bench) := .refused (.refl _)
  cases a with
  | click index =>
    refine ⟨_, rfl, ?_⟩
    simp only [act, click]
    split
    · exact refused
    · exact enters_walked (s.bench.enters_jumpTo index)
  | command c =>
    cases c with
    | move d =>
      simp only [act, dispatch, perform, move]
      split
      · exact ⟨_, rfl, refused⟩
      · refine ⟨_, rfl, ?_⟩
        split
        · exact refused
        · exact enters_walked (s := s.note _) (s.bench.enters_attemptMove _)
    | _ => cases walks

/-! The images of a session. -/

/-- The memory and the images to go back to count walks: after `n` of them the `i`-th image is from `i`
walks ago. -/
structure Paced (n : Nat) (s : Session) : Prop where
  sized : s.machine.Sized
  fits : ∀ image ∈ s.bench.history.entries, image.length = s.machine.memory.length
  counted : ∀ i image, (s.machine.memory :: s.bench.history.entries)[i]? = some image →
    i ≤ n ∧ image.cycles = min (n - i) 255

theorem Paced.unchanged (h : Paced n s) (same : s.bench.Unchanged s'.bench) : Paced n s' := by
  have memory : s'.machine.memory = s.machine.memory := same.memory
  refine ⟨?_, ?_, ?_⟩
  · rw [Machine.Sized, memory, show s'.machine.grid = s.machine.grid from same.grid]
    exact h.sized
  · rw [memory, same.history]
    exact h.fits
  · rw [memory, same.history]
    exact h.counted

/-- A walk adds its image at the new end, and every older image is one walk further back. -/
theorem Paced.entered (h : Paced n s) {index : Int} {m : Machine}
    (jumped : s.machine.jump index = (true, m)) (machine : s'.machine = m.cycle)
    (history : s'.bench.history = s.bench.history.push s.machine.memory)
    (spares : (s.machine.instruction index).storesIn .cyc = false) : Paced (n + 1) s' := by
  have shape : s.machine.SameShape s'.machine := by
    have jump := Machine.sameShape_jump s.machine index
    rw [jumped] at jump
    rw [machine]
    exact jump.trans (Machine.sameShape_cycle m)
  have now : s'.machine.memory.cycles = min (s.machine.memory.cycles + 1) 255 := by
    rw [machine]
    exact Machine.cycles_of_jump h.sized jumped spares
  have recorded : s'.bench.history.entries <+: s.machine.memory :: s.bench.history.entries := by
    rw [history]
    exact History.entries_push_prefix _ _
  refine ⟨shape.sized h.sized, fun image member => ?_, fun i image here => ?_⟩
  · rw [shape.length]
    rcases List.mem_cons.1 (recorded.subset member) with rfl | old
    · rfl
    · exact h.fits image old
  · cases i with
    | zero =>
      obtain rfl : s'.machine.memory = image := by simpa using here
      have before := (h.counted 0 s.machine.memory rfl).2
      omega
    | succ i =>
      obtain ⟨inside, rfl⟩ := List.getElem?_eq_some_iff.1 here
      have earlier := h.counted i _ (List.prefix_iff_getElem?.1 recorded i (Nat.lt_of_succ_lt_succ inside))
      simp only [List.getElem_cons_succ]
      omega

/-- An undo takes back one walk, or there is none to take back. -/
theorem Paced.undo (h : Paced n s) :
    ∃ k answer, (s.act (.command .undo)).1 = .ok answer ∧ Paced k (s.act (.command .undo)).2 ∧
      k + (if answer then 1 else 0) = n := by
  rcases undo_cases h.fits with ⟨-, refused⟩ | ⟨image, older, entries, back⟩
  · refine ⟨n, false, congrArg Prod.fst refused, ?_, rfl⟩
    rw [refused]
    exact h.unchanged ⟨rfl, rfl, rfl⟩
  · have fits : image.length = s.machine.memory.length :=
      h.fits image (by rw [entries]; exact List.mem_cons_self)
    have walked := (h.counted 1 image (by rw [entries]; rfl)).1
    refine ⟨n - 1, true, congrArg Prod.fst back, ?_, Nat.sub_add_cancel walked⟩
    rw [back]
    refine ⟨fits.trans h.sized, fun old member => ?_, fun i old here => ?_⟩
    · change old.length = image.length
      rw [h.fits old (by rw [entries]; exact List.mem_cons_of_mem image member)]
      exact fits.symm
    · have earlier := h.counted (i + 1) old (by rw [entries]; exact here)
      omega

theorem Paced.act (h : Paced n s) (only : a.walks = true ∨ a = .command .undo)
    (spares : ∀ r, s.entered? a = some r → r.storesIn .cyc = false) :
    ∃ k, Paced k (s.act a).2 ∧
      k + (if a == .command .undo && took (s.act a).1 then 1 else 0) =
        n + if a.walks && took (s.act a).1 then 1 else 0 := by
  rcases only with walks | rfl
  · have notUndo : (a == .command .undo) = false := by
      refine beq_eq_false_iff_ne.2 ?_
      rintro rfl
      cases walks
    obtain ⟨answer, answered, enters⟩ := enters_act s walks
    rw [notUndo, walks, answered]
    generalize bench : (s.act a).2.bench = b at enters
    cases enters with
    | refused same => exact ⟨n, h.unchanged (bench ▸ same), rfl⟩
    | entered jumped machine history =>
      have there : (s.act a).2.machine = _ := (congrArg Bench.machine bench).trans machine
      refine ⟨n + 1, h.entered jumped there ((congrArg Bench.history bench).trans history) ?_, rfl⟩
      refine spares _ ?_
      rw [entered?, walks, answered, there, Machine.ip_cycle, Machine.ip_of_jump h.sized jumped]
      rfl
  · obtain ⟨k, answer, answered, paced, count⟩ := h.undo
    refine ⟨k, paced, ?_⟩
    rw [answered]
    exact count

/-- In the course of moves, clicks and undos the walks made are those that the images count and those that
are taken back. -/
theorem Paced.after {as : List Action} (h : Paced n s)
    (only : ∀ a ∈ as, a.walks = true ∨ a = .command .undo) (off : s.keepsOff .cyc as = true) :
    ∃ k, Paced k (s.after as) ∧ k + s.undosMade as = n + s.walksMade as := by
  induction as generalizing s n with
  | nil => exact ⟨n, h, rfl⟩
  | cons a as ih =>
    rw [Session.keepsOff, Bool.and_eq_true] at off
    have spared : ∀ r, s.entered? a = some r → r.storesIn .cyc = false := by
      intro r executed
      simpa [executed] using off.1
    obtain ⟨j, next, step⟩ := h.act (only a List.mem_cons_self) spared
    obtain ⟨k, last, rest⟩ := ih next (fun b member => only b (List.mem_cons_of_mem a member)) off.2
    refine ⟨k, last, ?_⟩
    simp only [undosMade, walksMade, tally] at rest ⊢
    omega

theorem level_after {as : List Action} (stay : ∀ a ∈ as, a ≠ .command .nextLevel) :
    (s.after as).level = s.level := by
  induction as generalizing s with
  | nil => rfl
  | cons a as ih =>
    exact (ih fun b member => stay b (List.mem_cons_of_mem a member)).trans
      (level_act s (stay a List.mem_cons_self))

/-- A load leaves one image only, and if the level's counter is 0, no walk is counted. -/
theorem paced_of_loaded {level : Level} (sized : s.machine.Sized)
    (loaded : s.loadLevel level = (.ok (), s')) (zero : level.program.cycles = 0) :
    Paced 0 s' ∧ s'.level = some level := by
  by_cases fits : level.program.length = s.machine.memory.length
  · rw [loadLevel_begun fits] at loaded
    cases loaded
    refine ⟨⟨fits.trans sized, fun _ none => (nomatch none), fun i image here => ?_⟩, rfl⟩
    cases i with
    | zero =>
      obtain rfl : level.program = image := Option.some.inj here
      exact ⟨Nat.le_refl 0, zero⟩
    | succ i => cases here
  · rw [loadLevel_unfit fits] at loaded
    cases loaded

/-- A level starts with the cycle counter at 0, and moves, clicks and undos lead to its end, none of which
executes a record that stores in the counter. Then no more is taken back than was walked, and the medal is
the one for the walks that are left, or for 255 if there are more. If no goal lies from 255 up to the
walks that are left, it is in any case the one for them. -/
theorem medal_counts_walks {level : Level} {start : Session} (sized : s.machine.Sized)
    (loaded : s.loadLevel level = (.ok (), start)) (zero : level.program.cycles = 0) {as : List Action}
    (only : ∀ a ∈ as, a.walks = true ∨ a = .command .undo) (off : start.keepsOff .cyc as = true)
    (ended : (start.after as).machine.isHalted = true) :
    start.undosMade as ≤ start.walksMade as ∧
      (start.after as).medal =
        level.medal (min (start.walksMade as - start.undosMade as) 255 : Nat) ∧
      ((∀ goal ∈ level.goals, goal < 255 ∨ ((start.walksMade as - start.undosMade as : Nat) : Int) ≤ goal) →
        (start.after as).medal = level.medal (start.walksMade as - start.undosMade as : Nat)) := by
  obtain ⟨fresh, current⟩ := paced_of_loaded sized loaded zero
  obtain ⟨n, paced, count⟩ := fresh.after only off
  have left : start.walksMade as - start.undosMade as = n := by omega
  have stay : ∀ a ∈ as, a ≠ .command .nextLevel := by
    rintro a member rfl
    rcases only _ member with walks | undo
    · cases walks
    · cases undo
  have medal : (start.after as).medal = level.medal (min n 255 : Nat) := by
    have cycles : ((start.after as).machine.get .cyc).toNat = min n 255 :=
      (paced.counted 0 _ rfl).2
    rw [Session.medal, if_pos ended, level_after stay, current, cycles]
    rfl
  rw [left]
  refine ⟨by omega, medal, fun goals => medal.trans (Level.medal_congr fun goal member => ?_)⟩
  have clear := goals goal member
  omega

/-- A level with two cells to walk to and fro and a third one to end it. -/
def paceLevel (goals : List Int) : Level :=
  ⟨"pace", goals, List.replicate 24 0 ++ [1, 0, 0, 0, 1, 0, 0, 0, 11, 0, 0, 0], []⟩

/-- A session on a grid of its size. -/
def paceSession : Session :=
  let grid : Grid := ⟨3, 1, Nat.zero_lt_succ 2, Nat.one_pos⟩
  around ⟨grid, by decide, .auto, none, .unset, none⟩ [] none
    (.fresh (.blank grid (by decide)) .unlimited true)

/-- The session with the level loaded. -/
def paceLoaded (goals : List Int) : Session := (paceSession.loadLevel (paceLevel goals)).2

/-- The player walks to the second cell, takes that back, walks to and fro and then to the end. -/
def paceWalk : List Action :=
  [.click 1, .command .undo, .command (.move .right), .click 0, .click 2]

theorem medal_of_pace_walk :
    (paceLoaded [1, 2, 3]).walksMade paceWalk = 4 ∧ (paceLoaded [1, 2, 3]).undosMade paceWalk = 1 ∧
      ((paceLoaded [1, 2, 3]).after paceWalk).medal = some .bronze := by
  have walks : (paceLoaded [1, 2, 3]).walksMade paceWalk = 4 := by decide
  have undos : (paceLoaded [1, 2, 3]).undosMade paceWalk = 1 := by decide
  have loaded : paceSession.loadLevel (paceLevel [1, 2, 3]) = (.ok (), paceLoaded [1, 2, 3]) := rfl
  have sized : paceSession.machine.Sized := rfl
  have only : ∀ a ∈ paceWalk, a.walks = true ∨ a = .command .undo := by decide
  have off : (paceLoaded [1, 2, 3]).keepsOff .cyc paceWalk = true := by decide
  obtain ⟨-, -, medal⟩ := medal_counts_walks sized loaded rfl only off (by decide)
  rw [walks, undos] at medal
  exact ⟨walks, undos, medal (by decide)⟩

/-- The player walks to and fro 255 times before going to the end. -/
def longWalk : List Action :=
  (List.range 255).map (fun k => .click (if k % 2 = 0 then 1 else 0)) ++ [.click 2]

/-- After 256 walks the goal of 255 cycles is still met. -/
theorem medal_of_late_end :
    paceSession.loadLevel (paceLevel [255, 300, 400]) = (.ok (), paceLoaded [255, 300, 400]) ∧
      (paceLevel [255, 300, 400]).program.cycles = 0 ∧
      (paceLoaded [255, 300, 400]).machine.get .sta = 0 ∧
      (∀ a ∈ longWalk, a.walks = true) ∧ (paceLoaded [255, 300, 400]).keepsOff .cyc longWalk = true ∧
      ((paceLoaded [255, 300, 400]).after longWalk).machine.isHalted = true ∧
      (paceLoaded [255, 300, 400]).walksMade longWalk = 256 ∧
      (paceLoaded [255, 300, 400]).undosMade longWalk = 0 ∧
      ((paceLoaded [255, 300, 400]).after longWalk).medal = some .gold ∧
      (paceLevel [255, 300, 400]).medal 256 = some .silver :=
  ⟨rfl, by decide, by decide, by decide +kernel, by decide +kernel, by decide +kernel, by decide +kernel,
    by decide +kernel, by decide +kernel, by decide⟩

end Session

end CellWalk
