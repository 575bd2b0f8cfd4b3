import CellWalk.Proofs.Actions
import Mathlib.Data.List.Chain
import Mathlib.Logic.Function.Iterate

/-!
# Undoing a whole run

The images of a session are the ones that its history holds and, as the newest, its memory. From a
load on they begin with the opening, and no two neighbours among them are equal (`Trailing`). Every
action keeps this up: a change adds its image at the new end, an undo takes the newest image
away, and a restart is a change like any other. Undoing again and again therefore goes back
through all the images to the opening (`undo_reverts_run`).
-/

namespace CellWalk
set_option autoImplicit false

namespace Session

/-- The images of the history and the memory, oldest first. -/
def trail (s : Session) : List Image := s.bench.history.entries.reverse ++ [s.machine.memory]

/-- A level or a random program has been loaded. -/
def Loaded (before after : Session) : Prop :=
  (∃ level, before.loadLevel level = (.ok (), after)) ∨
    ∃ seed, before.loadRandom seed = (.ok (), after)

/-- What the step to the next level tells when it loads nothing: that it is refused, or that the
next level does not fit the machine. -/
def StaysOnLevel (a : Action) (answer : Except PlayError Bool) : Prop :=
  a = .command .nextLevel → answer = .ok false ∨ ∃ e, answer = .error (.size e)

/-- The sessions that actions lead to without another load. -/
inductive Reaches (start : Session) : Session → Prop
  | refl : Reaches start start
  | step {s s' : Session} {a : Action} {answer : Except PlayError Bool} (run : Reaches start s)
      (acted : s.act a = (answer, s')) (stays : StaysOnLevel a answer) : Reaches start s'

/-- The session after a number of undo commands. -/
def undone (s : Session) (count : Nat) : Session :=
  (fun t : Session => (t.dispatch .undo).2)^[count] s

/-- The images of an unlimited session, newest first, go back to the opening without a repetition
on the way, and each of them fits the machine. -/
structure Trailing (s : Session) : Prop where
  unlimited : s.bench.history.limit = none
  sized : s.machine.Sized
  fits : ∀ image ∈ s.bench.history.entries, image.length = s.machine.memory.length
  opening : (s.machine.memory :: s.bench.history.entries).getLast? = some s.opening
  differ : (s.machine.memory :: s.bench.history.entries).IsChain (· ≠ ·)

variable {s s' : Session}

theorem trail_eq_reverse (s : Session) :
    s.trail = (s.machine.memory :: s.bench.history.entries).reverse := by
  rw [trail, List.reverse_cons]

theorem Trailing.opening_length (h : s.Trailing) :
    s.opening.length = Machine.sizeFor s.machine.grid := by
  have last : s.opening ∈ s.machine.memory :: s.bench.history.entries :=
    List.mem_of_getLast? h.opening
  rcases List.mem_cons.1 last with e | old
  · rw [e]
    exact h.sized
  · rw [h.fits _ old]
    exact h.sized

/-! Loads. -/

theorem length_drawProgram (cells : Nat) (t : Twister) :
    (Machine.drawProgram cells t).length = cells := by
  induction cells generalizing t with
  | zero => rfl
  | succ cells ih => simp only [Machine.drawProgram, List.length_cons, ih]

theorem length_randomMemory (g : Grid) (seed : Int) :
    (Machine.randomMemory g seed).length = Machine.sizeFor g := by
  simp [Machine.randomMemory, Machine.sizeFor, Image.blank, List.length_flatMap,
    length_drawProgram]

/-- A load leaves a session whose only image is the opening. -/
theorem trailing_beginWith {image : Image} {authored : Bool}
    (unlimited : s.bench.history.limit = none) (sized : s.machine.Sized)
    (h : s.beginWith image authored = .ok s') : s'.Trailing := by
  simp only [beginWith, Machine.load, Image.restore] at h
  split at h
  · cases h
  · rename_i machine e
    split at e
    · rename_i fits
      cases h
      cases e
      exact ⟨unlimited, fits.trans sized, fun _ member => absurd member List.not_mem_nil, rfl,
        .singleton _⟩
    · cases e

theorem trailing_of_loaded (unlimited : s.bench.history.limit = none) (sized : s.machine.Sized)
    (h : s.Loaded s') : s'.Trailing := by
  rcases h with ⟨level, h⟩ | ⟨seed, h⟩
  · simp only [loadLevel] at h
    split at h
    · cases h
    · rename_i loaded e
      cases h
      have begun := trailing_beginWith (s := { s with level := some level, seed := none })
        unlimited sized e
      exact ⟨begun.unlimited, begun.sized, begun.fits, begun.opening, begun.differ⟩
  · simp only [loadRandom] at h
    split at h
    · cases h
    · rename_i loaded e
      cases h
      have drawn : (s.machine.randomize seed).Sized := length_randomMemory _ _
      have begun := trailing_beginWith
        (s := { s with
          level := none
          seed := some seed
          bench := { s.bench with machine := s.machine.randomize seed } })
        unlimited drawn e
      exact ⟨begun.unlimited, begun.sized, begun.fits, begun.opening, begun.differ⟩

/-! Actions. -/

/-- A recorded change adds the new memory at the newest end. -/
theorem Trailing.recorded (h : s.Trailing) (recorded : s.bench.Recorded s'.bench)
    (opening : s'.opening = s.opening) : s'.Trailing := by
  have shape := recorded.shape
  have sized : s'.machine.Sized := shape.sized h.sized
  rcases recorded with same | changed
  · have memory : s'.machine.memory = s.machine.memory := same.memory
    refine ⟨by rw [same.history, h.unlimited], sized, ?_, ?_, ?_⟩
    · rw [same.history, memory]
      exact h.fits
    · rw [same.history, memory, opening]
      exact h.opening
    · rw [same.history, memory]
      exact h.differ
  · have entries : s'.bench.history.entries = s.machine.memory :: s.bench.history.entries := by
      rw [changed.history]
      exact History.entries_push_unlimited h.unlimited _
    have length : s'.machine.memory.length = s.machine.memory.length := shape.length
    refine ⟨by rw [changed.history, History.limit_push, h.unlimited], sized, ?_, ?_, ?_⟩
    · intro image member
      rw [entries] at member
      rw [length]
      rcases List.mem_cons.1 member with rfl | old
      · rfl
      · exact h.fits image old
    · rw [entries, opening, List.getLast?_cons_cons]
      exact h.opening
    · rw [entries]
      exact List.isChain_cons_cons.2 ⟨changed.memory, h.differ⟩

/-- An undo goes back to the newest image of the history. -/
theorem Trailing.undo (h : s.Trailing) {image : Image} {older : List Image}
    (entries : s.bench.history.entries = image :: older) :
    ∃ s', s.dispatch .undo = (.ok true, s') ∧ s'.Trailing ∧ s'.opening = s.opening ∧
      s'.machine.memory = image ∧ s'.bench.history.entries = older := by
  have fits : image.length = s.machine.memory.length :=
    h.fits image (by rw [entries]; exact List.mem_cons_self)
  have back : s.machine.load image = .ok { s.machine with memory := image } := by
    simp [Machine.load, Image.restore, fits, Except.map]
  have done : s.dispatch .undo = (.ok true,
      { s.note (.command Command.undo.name) with
        bench := { s.bench with
          machine := { s.machine with memory := image }
          history := { s.bench.history with entries := older } } }) := by
    change (s.note _).undo = _
    simp only [Session.undo, Bench.undo, note, entries, Bench.load]
    change s.bench.machine.load image = _ at back
    rw [back]
    rfl
  have opening := h.opening
  have differ := h.differ
  rw [entries, List.getLast?_cons_cons] at opening
  rw [entries] at differ
  refine ⟨_, done, ⟨h.unlimited, fits.trans h.sized, fun old member => ?_, opening,
    (List.isChain_cons_cons.1 differ).2⟩, rfl, rfl, rfl⟩
  rw [h.fits old (by rw [entries]; exact List.mem_cons_of_mem _ member)]
  exact fits.symm

/-- Without an image to go back to, an undo is refused. -/
theorem undo_refused (entries : s.bench.history.entries = []) :
    s.dispatch .undo = (.ok false, s.note (.command Command.undo.name)) := by
  change (s.note _).undo = _
  simp only [Session.undo, Bench.undo, note, entries]

/-- A step to the next level that loads nothing leaves the bench alone. -/
theorem advance_stays {answer : Except PlayError Bool} (h : s.advance = (answer, s'))
    (stays : answer = .ok false ∨ ∃ e, answer = .error (.size e)) :
    s'.bench = s.bench ∧ s'.opening = s.opening := by
  unfold advance at h
  split at h
  · cases h
    exact ⟨rfl, rfl⟩
  · split at h
    · split at h
      · cases h
        exact ⟨rfl, rfl⟩
      · rename_i next _
        simp only [loadLevel] at h
        split at h
        · rename_i failed
          split at failed
          · cases failed
            cases h
            exact ⟨rfl, rfl⟩
          · cases failed
        · simp only [saveProgress] at h
          split at h
          · cases h
            simp at stays
          · split at h <;> · cases h; simp at stays
    · cases h
      exact ⟨rfl, rfl⟩

/-- Every action that loads nothing keeps the images going back to the same opening. -/
theorem Trailing.act (h : s.Trailing) {a : Action} {answer : Except PlayError Bool}
    (acted : s.act a = (answer, s')) (stays : StaysOnLevel a answer) :
    s'.Trailing ∧ s'.opening = s.opening := by
  by_cases undoing : a = .command .undo
  · subst undoing
    cases entries : s.bench.history.entries with
    | nil =>
      obtain rfl : s.note (.command Command.undo.name) = s' :=
        (Prod.ext_iff.1 ((undo_refused entries).symm.trans acted)).2
      exact ⟨⟨h.unlimited, h.sized, h.fits, h.opening, h.differ⟩, rfl⟩
    | cons image older =>
      obtain ⟨t, done, trailing, opening, -⟩ := h.undo entries
      obtain rfl : t = s' := (Prod.ext_iff.1 (done.symm.trans acted)).2
      exact ⟨trailing, opening⟩
  · by_cases next : a = .command .nextLevel
    · subst next
      obtain ⟨bench, opening⟩ := advance_stays (s := s.note (.command Command.nextLevel.name))
        acted (stays rfl)
      exact ⟨h.recorded (by rw [bench]; exact .inl (.refl _)) opening, opening⟩
    · obtain ⟨_, t, done, kept⟩ := kept_act h.sized h.opening_length undoing next
      obtain rfl : t = s' := (Prod.ext_iff.1 (done.symm.trans acted)).2
      exact ⟨h.recorded kept.recorded kept.opening, kept.opening⟩

theorem Trailing.reaches {start : Session} (h : start.Trailing) (run : start.Reaches s) :
    s.Trailing ∧ s.opening = start.opening := by
  induction run with
  | refl => exact ⟨h, rfl⟩
  | step _ acted stays ih =>
    obtain ⟨trailing, opening⟩ := ih.1.act acted stays
    exact ⟨trailing, opening.trans ih.2⟩

/-! Undoing everything. -/

theorem undone_succ (s : Session) (count : Nat) :
    s.undone (count + 1) = (s.dispatch .undo).2.undone count := rfl

/-- After some undos the images are those without the newest ones. -/
theorem Trailing.undone (h : s.Trailing) {count : Nat} (few : count ≤ s.bench.history.size) :
    (s.undone count).Trailing ∧ (s.undone count).opening = s.opening ∧
      (s.undone count).machine.memory :: (s.undone count).bench.history.entries =
        (s.machine.memory :: s.bench.history.entries).drop count := by
  induction count generalizing s with
  | zero => exact ⟨h, rfl, rfl⟩
  | succ count ih =>
    cases entries : s.bench.history.entries with
    | nil => simp [History.size, entries] at few
    | cons image older =>
      obtain ⟨t, done, trailing, opening, memory, rest⟩ := h.undo entries
      have fewer : count ≤ t.bench.history.size := by
        simp only [History.size, entries, List.length_cons] at few
        simp only [History.size, rest]
        omega
      rw [undone_succ, done, List.drop_succ_cons, ← memory, ← rest, ← opening]
      exact ih trailing fewer

/-- From a load on, the images of an unlimited session begin with the one that was loaded, and no
two neighbours are equal. Undoing succeeds once for every image of the history, goes back through
the images one by one, is then refused, and ends with the memory that was loaded. -/
theorem undo_reverts_run {before start s : Session} (unlimited : before.bench.history.limit = none)
    (sized : before.machine.Sized) (loaded : before.Loaded start) (run : start.Reaches s) :
    s.trail.head? = some start.opening ∧ s.trail.IsChain (· ≠ ·) ∧
      (∀ count (_ : count < s.bench.history.size),
        ((s.undone count).dispatch .undo).1 = .ok true) ∧
      ((s.undone s.bench.history.size).dispatch .undo).1 = .ok false ∧
      (∀ count (_ : count ≤ s.bench.history.size),
        s.trail.reverse[count]? = some (s.undone count).machine.memory) ∧
      (s.undone s.bench.history.size).machine.memory = start.opening := by
  obtain ⟨trailing, opening⟩ := (trailing_of_loaded unlimited sized loaded).reaches run
  have visited : ∀ count ≤ s.bench.history.size,
      s.trail.reverse[count]? = some (s.undone count).machine.memory := by
    intro count few
    have images := (trailing.undone few).2.2
    rw [trail_eq_reverse, List.reverse_reverse, ← List.head?_drop, ← images, List.head?_cons]
  obtain ⟨atEnd, kept, images⟩ := trailing.undone (Nat.le_refl s.bench.history.size)
  have none_left : (s.undone s.bench.history.size).bench.history.entries = [] := by
    have lengths := congrArg List.length images
    simp only [List.length_cons, List.length_drop, History.size] at lengths
    exact List.eq_nil_of_length_eq_zero (by simp only [History.size]; omega)
  refine ⟨?_, ?_, ?_, by rw [undo_refused none_left], visited, ?_⟩
  · rw [trail_eq_reverse, List.head?_reverse, trailing.opening, opening]
  · rw [trail_eq_reverse, List.isChain_reverse]
    exact trailing.differ.imp fun _ _ ne => ne.symm
  · intro count few
    obtain ⟨there, -, images⟩ := trailing.undone (Nat.le_of_lt few)
    cases entries : (s.undone count).bench.history.entries with
    | nil =>
      have lengths := congrArg List.length images
      simp only [entries, List.length_cons, List.length_nil, List.length_drop] at lengths
      simp only [History.size] at few
      omega
    | cons image older =>
      obtain ⟨t, done, -⟩ := there.undo entries
      rw [done]
  · have last := atEnd.opening
    rw [none_left, List.getLast?_singleton] at last
    rw [← opening, ← kept]
    exact Option.some.inj last

/-- The level with the opening of `besideSwap`. -/
def swapLevel : Level := ⟨"swap", [1, 2, 3], (besideSwap .unlimited).opening, []⟩

/-- A session that has just loaded it. -/
def swapLoaded : Session := ((besideSwap .unlimited).loadLevel swapLevel).2

theorem undo_reverts_click :
    (swapLoaded.act (.click 1)).2.bench.history.size = 1 ∧
      ((swapLoaded.act (.click 1)).2.undone 1).machine.memory = swapLevel.program := by
  have one : (swapLoaded.act (.click 1)).2.bench.history.size = 1 := by decide
  have sized : (besideSwap .unlimited).machine.Sized := rfl
  have loaded : (besideSwap .unlimited).Loaded swapLoaded := .inl ⟨swapLevel, rfl⟩
  have clicked : swapLoaded.Reaches (swapLoaded.act (.click 1)).2 :=
    .step (a := .click 1) .refl rfl fun next => by cases next
  have back := undo_reverts_run rfl sized loaded clicked
  refine ⟨one, ?_⟩
  rw [← one]
  exact back.2.2.2.2.2

end Session

end CellWalk
