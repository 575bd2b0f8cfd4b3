import CellWalk.Proofs.Reachable
import CellWalk.Proofs.Refusals

/-!
# A limited history forgets and does nothing else

Two sessions load the same level and play alike; they differ in nothing but their histories, one of
which is limited. As long as none of them can undo what the other cannot, they agree in everything else,
and the limited history holds the newest images of the other one (`Recalls`). They part only after
more images than the limit have been held since the last load (`limited_history_forgets`). From then
on the lengths tell nothing, because undoing makes room again: what matters is that the two histories are
equal as long as no image has been given up.
-/

namespace CellWalk
set_option autoImplicit false

/-- The margin with another history. -/
def Margin.recalling (x : Margin) (h : History) : Margin := { x with history := h, limit := h.limit }

theorem Margin.entered_recalling (x : Margin) (h : History) (records : Bool) (image : Image) :
    (x.recalling h).entered records image =
      (x.entered records image).recalling (if records then h.push image else h) := by
  cases records <;> rfl

/-- A limited history that holds the newest images of an unlimited one does so when both take one more.
If they were equal, they still are, or else there are more images than the limit. -/
theorem History.push_forgets {h k : History} {n : { n : Nat // 0 < n }} (limit : h.limit = some n)
    (unlimited : k.limit = none) (newest : h.entries <+: k.entries) (image : Image) :
    (h.push image).entries <+: (k.push image).entries ∧ (h.push image).size ≤ n ∧
      (h.entries = k.entries →
        (h.push image).entries = (k.push image).entries ∨ n < (k.push image).size) := by
  have taken : (h.push image).entries = (image :: h.entries).take n := by
    simp only [push, keep, limit]
  have all := entries_push_unlimited unlimited image
  rw [size, size, taken, all]
  refine ⟨?_, List.length_take_le _ _, fun same => ?_⟩
  · exact (List.take_prefix _ _).trans ((List.prefix_cons_inj image).2 newest)
  · by_cases few : (image :: k.entries).length ≤ n
    · left
      rw [same, List.take_of_length_le few]
    · exact .inr (Nat.not_le.1 few)

namespace Session

/-- The session with another history. -/
def withHistory (s : Session) (h : History) : Session :=
  { s with
    config := { s.config with historyLimit := h.limit }
    bench := { s.bench with history := h } }

/-- The second session can undo and the first one cannot. -/
def Parts (s t : Session) : Prop :=
  (s.act (.command .undo)).1 = .ok false ∧ (t.act (.command .undo)).1 = .ok true

/-- In the course of the actions the sessions never part at an undo. -/
def Together : Session → Session → List Action → Prop
  | _, _, [] => True
  | s, t, a :: as => (a = .command .undo → ¬Parts s t) ∧ Together (s.act a).2 (t.act a).2 as

instance (s t : Session) : Decidable (Parts s t) :=
  inferInstanceAs (Decidable ((s.act (.command .undo)).1 = .ok false ∧
    (t.act (.command .undo)).1 = .ok true))

instance decidableTogether : (s t : Session) → (as : List Action) → Decidable (Together s t as)
  | _, _, [] => isTrue trivial
  | s, t, a :: as =>
    have := decidableTogether (s.act a).2 (t.act a).2 as
    inferInstanceAs (Decidable ((a = .command .undo → ¬Parts s t) ∧
      Together (s.act a).2 (t.act a).2 as))

/-- None of the actions loads a level. -/
def StaysThrough : Session → List Action → Prop
  | _, [] => True
  | s, a :: as => StaysOnLevel a (s.act a).1 ∧ StaysThrough (s.act a).2 as

/-- At some moment in the course of the actions there were more than `n` images in the history, and
nothing has been loaded since. -/
def Overflowed (n : Nat) (s : Session) (as : List Action) : Prop :=
  ∃ before since, as = before ++ since ∧ n < (s.after before).bench.history.size ∧
    (s.after before).StaysThrough since

/-- The sessions agree but for their histories, and the first one has the newest images of the second
one, at most `n` of them. -/
structure Recalls (n : { n : Nat // 0 < n }) (s t : Session) : Prop where
  agree : t = s.withHistory t.bench.history
  limited : s.bench.history.limit = some n
  unlimited : t.bench.history.limit = none
  newest : s.bench.history.entries <+: t.bench.history.entries
  few : s.bench.history.size ≤ n

variable {s t : Session} {n : { n : Nat // 0 < n }}

/-! Courses of actions. -/

theorem together_append_singleton {as : List Action} {a : Action} :
    Together s t (as ++ [a]) ↔
      Together s t as ∧ (a = .command .undo → ¬Parts (s.after as) (t.after as)) := by
  induction as generalizing s t with
  | nil => simp [Together, after]
  | cons b as ih => simp only [List.cons_append, Together, ih, and_assoc]; rfl

theorem staysThrough_append_singleton {as : List Action} {a : Action} :
    s.StaysThrough (as ++ [a]) ↔ s.StaysThrough as ∧ StaysOnLevel a ((s.after as).act a).1 := by
  induction as generalizing s with
  | nil => simp [StaysThrough, after]
  | cons b as ih => simp only [List.cons_append, StaysThrough, ih, and_assoc]; rfl

theorem after_append (s : Session) (as bs : List Action) : s.after (as ++ bs) = (s.after as).after bs :=
  List.foldl_append

/-- A history that has overflowed on this level still has after one more action. -/
theorem Overflowed.snoc {n : Nat} {as : List Action} {a : Action} (overflow : Overflowed n s as)
    (stays : StaysOnLevel a ((s.after as).act a).1) : Overflowed n s (as ++ [a]) := by
  obtain ⟨before, since, rfl, many, through⟩ := overflow
  refine ⟨before, since ++ [a], List.append_assoc _ _ _, many, staysThrough_append_singleton.2 ⟨through, ?_⟩⟩
  rwa [← after_append]

theorem overflowed_now {n : Nat} {as : List Action} (many : n < (s.after as).bench.history.size) :
    Overflowed n s as := ⟨as, [], (List.append_nil as).symm, many, trivial⟩

/-! One action. -/

theorem recalls_continuing {core : Session} {x : Margin} {h : History}
    (limited : x.history.limit = some n) (unlimited : h.limit = none)
    (newest : x.history.entries <+: h.entries) (few : x.history.size ≤ n) :
    Recalls n (core.continuing x) (core.continuing (x.recalling h)) :=
  ⟨rfl, limited, unlimited, newest, few⟩

/-- Two such sessions are one game with two margins. -/
theorem Recalls.margins (recalls : Recalls n s t) :
    ∃ (core : Session) (x : Margin) (h : History), s = core.continuing x ∧
      t = core.continuing (x.recalling h) := by
  refine ⟨s.game, s.margin, t.bench.history, (continuing_margin s).symm, ?_⟩
  have same : (s.game.continuing s.margin).withHistory t.bench.history = t := by
    rw [continuing_margin]
    exact recalls.agree.symm
  exact same.symm

theorem saveProgress_withHistory (s : Session) (h : History) (id : Text) :
    (s.withHistory h).saveProgress id =
      ((s.saveProgress id).1, (s.saveProgress id).2.withHistory h) := by
  have store : (s.withHistory h).store = s.store := rfl
  unfold saveProgress
  rw [store]
  cases s.store with
  | none => rfl
  | some store =>
    dsimp only
    cases (store.save id).1 <;> rfl

/-- An action is answered alike in both sessions. Unless it loads a level, histories that were equal
either stay so or are longer than the limit now. -/
structure Abreast (n : { n : Nat // 0 < n }) (s t : Session) (a : Action) : Prop where
  answer : (s.act a).1 = (t.act a).1
  recalls : Recalls n (s.act a).2 (t.act a).2
  histories : (s.act a).2.bench.history.entries = (t.act a).2.bench.history.entries ∨
    StaysOnLevel a (t.act a).1 ∧
      (s.bench.history.entries = t.bench.history.entries → n < (t.act a).2.bench.history.size)

/-- Unless they are equal, two histories need not be watched. -/
theorem abreast_of_stays {s' t' : Session} {a : Action} {answer : Except PlayError Bool}
    (acts : s.act a = (answer, s')) (acts' : t.act a = (answer, t')) (stays : StaysOnLevel a answer)
    (recalls : Recalls n s' t') (kept : s.bench.history.entries = t.bench.history.entries →
      s'.bench.history.entries = t'.bench.history.entries ∨ n < t'.bench.history.size) :
    Abreast n s t a := by
  refine ⟨by rw [acts, acts'], by rw [acts, acts']; exact recalls, ?_⟩
  rw [acts, acts']
  by_cases equal : s.bench.history.entries = t.bench.history.entries
  · rcases kept equal with still | many
    · exact .inl still
    · exact .inr ⟨stays, fun _ => many⟩
  · exact .inr ⟨stays, fun same => absurd same equal⟩

/-- Two sessions that differ in their history only do the same, and both record it. -/
theorem Recalls.plays (recalls : Recalls n s t) {a : Action} (notUndo : a ≠ .command .undo)
    (notNext : a ≠ .command .nextLevel) : Abreast n s t a := by
  obtain ⟨core, x, h, rfl, rfl⟩ := recalls.margins
  obtain ⟨-, limited, unlimited, newest, few⟩ := recalls
  obtain ⟨answer, after, records, -, plays⟩ := plays_act core notUndo notNext
  have acts : (core.continuing x).act a = _ := plays x
  have acts' : (core.continuing (x.recalling h)).act a = _ := plays (x.recalling h)
  rw [Margin.entered_recalling] at acts'
  have stays : StaysOnLevel a answer := fun next => absurd next notNext
  cases records with
  | false =>
    exact abreast_of_stays acts acts' stays (recalls_continuing limited unlimited newest few) .inl
  | true =>
    obtain ⟨newest', few', kept⟩ := History.push_forgets limited unlimited newest core.machine.memory
    exact abreast_of_stays acts acts' stays (recalls_continuing limited unlimited newest' few') kept

/-- Both histories are empty, or the newest images of both are the same one. -/
theorem Recalls.undo (recalls : Recalls n s t)
    (fits : ∀ image ∈ t.bench.history.entries, image.length = t.machine.memory.length)
    (together : ¬Parts s t) : Abreast n s t (.command .undo) := by
  obtain ⟨core, x, h, rfl, rfl⟩ := recalls.margins
  obtain ⟨-, limited, unlimited, newest, few⟩ := recalls
  have stays : ∀ answer, StaysOnLevel (.command .undo) answer := fun _ next => nomatch next
  change x.history.entries <+: h.entries at newest
  cases images : h.entries with
  | nil =>
    have none : x.history.entries = [] := List.prefix_nil.1 (images ▸ newest)
    exact abreast_of_stays (undo_stays none) (undo_stays images) (stays _)
      (recalls_continuing limited unlimited newest few) .inl
  | cons image older =>
    have fits' : image.length = core.machine.memory.length :=
      fits image (by change image ∈ h.entries; rw [images]; exact List.mem_cons_self)
    have pops : (core.continuing (x.recalling h)).act (.command .undo) = _ := undo_pops fits' images
    cases images' : x.history.entries with
    | nil =>
      refine absurd ⟨?_, ?_⟩ together
      · rw [undo_stays images']
      · rw [pops]
    | cons image' older' =>
      rw [images, images', List.cons_prefix_cons] at newest
      obtain ⟨rfl, newest⟩ := newest
      have fewer : older'.length ≤ n := by
        have held : x.history.entries.length ≤ n := few
        rw [images', List.length_cons] at held
        omega
      refine abreast_of_stays (undo_pops fits' images') pops (stays _)
        (recalls_continuing limited unlimited newest fewer) fun equal => .inl ?_
      change x.history.entries = h.entries at equal
      rw [images, images', List.cons.injEq] at equal
      exact equal.2

/-- The next level begins with an empty history on both sides. -/
theorem Recalls.nextLevel (recalls : Recalls n s t) : Abreast n s t (.command .nextLevel) := by
  obtain ⟨core, x, h, rfl, rfl⟩ := recalls.margins
  obtain ⟨-, limited, unlimited, newest, few⟩ := recalls
  rcases nextLevel_continuing core with ⟨answer, after, stays, -, same⟩ | ⟨level, -, -, same⟩
  · exact abreast_of_stays (same x) (same (x.recalling h)) (fun _ => stays)
      (recalls_continuing limited unlimited newest few) .inl
  · let loaded := ((core.note (.command Command.nextLevel.name)).onLevel level).continuing x.cleared
    have acts : (core.continuing x).act (.command .nextLevel) = loaded.saveProgress level.id := same x
    have acts' : (core.continuing (x.recalling h)).act (.command .nextLevel) =
        ((loaded.saveProgress level.id).1, (loaded.saveProgress level.id).2.withHistory h.clear) :=
      (same (x.recalling h)).trans (saveProgress_withHistory loaded h.clear level.id)
    -- the load empties both histories, so that they are equal again
    have cleared : (loaded.saveProgress level.id).2.bench.history = x.history.clear := by
      rw [(saveProgress_cases loaded level.id).2]
      rfl
    refine ⟨by rw [acts, acts'], ?_, .inl ?_⟩
    · rw [acts, acts']
      exact ⟨rfl, cleared ▸ limited, unlimited, by rw [cleared]; exact List.prefix_rfl,
        by rw [cleared]; exact Nat.zero_le _⟩
    · rw [acts, acts', cleared]
      rfl

/-- One action keeps the newest entries in common, unless it undoes what one side has forgotten. -/
theorem Recalls.act (recalls : Recalls n s t)
    (fits : ∀ image ∈ t.bench.history.entries, image.length = t.machine.memory.length) {a : Action}
    (together : a = .command .undo → ¬Parts s t) : Abreast n s t a := by
  by_cases undoing : a = .command .undo
  · subst undoing
    exact recalls.undo fits (together rfl)
  · by_cases next : a = .command .nextLevel
    · subst next
      exact recalls.nextLevel
    · exact recalls.plays undoing next

/-- With equal histories the sessions cannot part. -/
theorem Recalls.not_parts (recalls : Recalls n s t)
    (fits : ∀ image ∈ t.bench.history.entries, image.length = t.machine.memory.length)
    (equal : s.bench.history.entries = t.bench.history.entries) : ¬Parts s t := by
  rintro ⟨refused, accepted⟩
  have machine : t.machine = s.machine := by
    rw [recalls.agree]
    rfl
  cases images : t.bench.history.entries with
  | nil =>
    have refuses : t.act (.command .undo) = _ := undo_refused images
    rw [refuses] at accepted
    cases accepted
  | cons image older =>
    have fits' : image.length = s.machine.memory.length := by
      rw [← machine]
      exact fits image (images ▸ List.mem_cons_self)
    have pops : s.act (.command .undo) = _ :=
      undo_of_fits (s := s.note _) fits' (equal.trans images)
    rw [pops] at refused
    cases refused

/-! Runs. -/

/-- With another history a session plays the same game after a load, of the configuration that has the
other limit. -/
theorem Fitted.onLevel_withHistory {config : Config} {levels : List Level} {good : Image → Prop}
    (h : Fitted config levels good s) (k : History) {level : Level} (isGood : good level.program) :
    Fitted { config with historyLimit := k.limit } levels good ((s.withHistory k).onLevel level) := by
  have blank : Fitted { config with historyLimit := k.limit } levels good (s.withHistory k.clear) := by
    refine ⟨?_, h.catalogue, h.grid, h.depth, rfl, h.memory, h.opening, fun _ none => nomatch none⟩
    rw [← h.settings]
    rfl
  exact blank.onLevel isGood

theorem recalls_onLevel {k : History} (limited : s.bench.history.limit = some n)
    (unlimited : k.limit = none) (level : Level) :
    Recalls n (s.onLevel level) ((s.withHistory k).onLevel level) :=
  ⟨rfl, limited, unlimited, List.prefix_rfl, Nat.zero_le _⟩

/-- As long as the sessions have not parted, the limited history has the newest images, and it has all
of them unless there have been too many since the last load. -/
theorem Recalls.after (recalls : Recalls n s t)
    (equal : s.bench.history.entries = t.bench.history.entries)
    (fits : ∀ as, ∀ image ∈ (t.after as).bench.history.entries,
      image.length = (t.after as).machine.memory.length)
    {as : List Action} (together : Together s t as) :
    Recalls n (s.after as) (t.after as) ∧
      ((s.after as).bench.history.entries = (t.after as).bench.history.entries ∨
        Overflowed n t as) := by
  -- from the end: an overflow is either of this moment or of an earlier one that nothing has undone
  induction as using List.reverseRecOn with
  | nil => exact ⟨recalls, .inl equal⟩
  | append_singleton as a ih =>
    rw [together_append_singleton] at together
    obtain ⟨recalls, earlier⟩ := ih together.1
    obtain ⟨-, recalls', histories⟩ := recalls.act (fits as) together.2
    rw [after_append_singleton, after_append_singleton]
    refine ⟨recalls', ?_⟩
    rcases histories with same | ⟨stays, watched⟩
    · exact .inl same
    · right
      rcases earlier with same | overflow
      · have many := watched same
        rw [← after_append_singleton] at many
        exact overflowed_now many
      · exact overflow.snoc stays

/-- A session with a limited history loads a level, and so does a session that is the same but for an
unlimited history. Whatever is done in both of them, as long as no undo has been refused in the first
one and accepted in the second one, they agree in everything but their histories, the first one has
the newest images of the second one, at most as many as the limit allows, and the next action is
answered alike. Only an undo can be an exception, and only if the second session has had more images
than that at an earlier moment since the last load. -/
theorem limited_history_forgets {config : Config} {levels : List Level} {given : Level → Prop}
    {s s₀ : Session} (reached : Reachable config levels given s) {n : { n : Nat // 0 < n }}
    (limited : config.historyLimit = some n) {h : History} (unlimited : h.limit = none) {level : Level}
    (loaded : s.loadLevel level = (.ok (), s₀)) :
    ∃ t₀, (s.withHistory h).loadLevel level = (.ok (), t₀) ∧
      ∀ as : List Action, Together s₀ t₀ as →
        Recalls n (s₀.after as) (t₀.after as) ∧
        (∀ a : Action, ¬(a = .command .undo ∧ Parts (s₀.after as) (t₀.after as)) →
          ((s₀.after as).act a).1 = ((t₀.after as).act a).1) ∧
        (Parts (s₀.after as) (t₀.after as) → Overflowed n t₀ as) := by
  have lasting := lasting_sized config.grid
  have fitted := reached.fitted lasting fun _ _ sized => sized
  have size : level.program.length = s.machine.memory.length := by
    by_contra unfit
    rw [loadLevel_unfit unfit] at loaded
    cases loaded
  obtain rfl : s.onLevel level = s₀ := by
    rw [loadLevel_begun size] at loaded
    exact (Prod.ext_iff.1 loaded).2
  refine ⟨(s.withHistory h).onLevel level, loadLevel_begun (s := s.withHistory h) size, ?_⟩
  intro as together
  have fits : ∀ as, ∀ image ∈ (((s.withHistory h).onLevel level).after as).bench.history.entries,
      image.length = (((s.withHistory h).onLevel level).after as).machine.memory.length := by
    intro as
    have start := fitted.onLevel_withHistory h (size.trans (lasting.sized fitted.memory))
    exact (start.after lasting (fun _ _ sized => sized) as).entries_fit lasting
  have start : Recalls n (s.onLevel level) ((s.withHistory h).onLevel level) :=
    recalls_onLevel (fitted.limit.trans limited) unlimited level
  obtain ⟨recalls, histories⟩ := start.after rfl fits together
  refine ⟨recalls, fun a other => ?_, fun parts => ?_⟩
  · exact (recalls.act (fits as) fun undoing parts => other ⟨undoing, parts⟩).answer
  · rcases histories with same | overflow
    · exact absurd parts (recalls.not_parts (fits as) same)
    · exact overflow

/-- A session that can take back one change. -/
def shortSession : Session := pairSession.withHistory ⟨some ⟨1, Nat.one_pos⟩, []⟩

/-- Two changes, of which one is taken back. -/
def twoChanges : List Action :=
  [.command .editToggle, .command .onOff, .command .opcodeNext, .command .undo]

theorem shortHistory_parts :
    ∃ s₀ t₀, shortSession.loadLevel pairLevel = (.ok (), s₀) ∧
      (shortSession.withHistory .unlimited).loadLevel pairLevel = (.ok (), t₀) ∧
      Together s₀ t₀ twoChanges ∧ Parts (s₀.after twoChanges) (t₀.after twoChanges) ∧
      Recalls ⟨1, Nat.one_pos⟩ (s₀.after twoChanges) (t₀.after twoChanges) ∧
      Overflowed 1 t₀ twoChanges := by
  have created : Reachable shortSession.config [pairLevel] (· ∈ [pairLevel]) shortSession :=
    .created (rfl : create shortSession.config [pairLevel] none = .ok shortSession)
  have loaded : shortSession.loadLevel pairLevel = (.ok (), (shortSession.loadLevel pairLevel).2) := rfl
  obtain ⟨t₀, loaded', course⟩ := limited_history_forgets created rfl (h := .unlimited) rfl loaded
  obtain rfl : ((shortSession.withHistory .unlimited).loadLevel pairLevel).2 = t₀ := by rw [loaded']
  have together : Together (shortSession.loadLevel pairLevel).2
      ((shortSession.withHistory .unlimited).loadLevel pairLevel).2 twoChanges := by decide
  have parts : Parts ((shortSession.loadLevel pairLevel).2.after twoChanges)
      (((shortSession.withHistory .unlimited).loadLevel pairLevel).2.after twoChanges) := by decide
  obtain ⟨recalls, -, overflow⟩ := course twoChanges together
  exact ⟨_, _, loaded, loaded', together, parts, recalls, overflow parts⟩

end Session

end CellWalk
