import CellWalk.Proofs.Markup
import CellWalk.Proofs.Refusals
import CellWalk.Screen.Panels
import Mathlib.Algebra.Ring.Parity

/-!
# Brackets in markup

A bracket opens a tag unless an odd run of backslashes stands directly before it (`OpensTag`). A text that
is escaped gets one backslash more before each of its brackets, and ends with as many as it had. So a bracket
of its own opens a tag just if an odd run of backslashes stood before it already, and the tag that closes the
text is one just if the text ends with an even run (`brackets_of_level_text`).
-/

namespace CellWalk.Screen
set_option autoImplicit false

def backslash : CodePoint := '\\'

/-- The number of backslashes that a text ends with. -/
def finalBackslashes (t : Text) : Nat := (t.reverse.takeWhile (· == backslash)).length

/-- Whether a bracket that comes directly after this markup opens a tag. -/
def OpensTag (before : Text) : Prop := ¬Odd (finalBackslashes before)

instance (before : Text) : Decidable (OpensTag before) := inferInstanceAs (Decidable (¬_))

variable {t before markup : Text} {p : CodePoint}

/-! Runs of backslashes. -/

theorem finalBackslashes_concat (t : Text) (p : CodePoint) :
    finalBackslashes (t ++ [p]) = if p = backslash then finalBackslashes t + 1 else 0 := by
  simp only [finalBackslashes, List.reverse_append, List.reverse_singleton, List.singleton_append,
    List.takeWhile_cons, beq_iff_eq]
  split
  · rw [List.length_cons]
  · rfl

/-- Where no run of backslashes ends, a new one begins. -/
theorem finalBackslashes_append (settled : finalBackslashes before = 0) (t : Text) :
    finalBackslashes (before ++ t) = finalBackslashes t := by
  induction t using List.reverseRecOn with
  | nil => rw [List.append_nil, settled]; rfl
  | append_singleton t p ih =>
    rw [← List.append_assoc, finalBackslashes_concat, finalBackslashes_concat, ih]

theorem escape_append (t u : Text) : escape (t ++ u) = escape t ++ escape u := List.flatMap_append

/-- Escaping adds no backslash at the end, but before brackets only. -/
theorem finalBackslashes_escape (t : Text) : finalBackslashes (escape t) = finalBackslashes t := by
  induction t using List.reverseRecOn with
  | nil => rfl
  | append_singleton t p ih =>
    have bracket : ('[' : CodePoint) ≠ backslash := by decide
    rw [escape_append, finalBackslashes_concat]
    by_cases opens : p = '['
    · have own : escape [p] = [backslash] ++ [p] := by rw [opens]; rfl
      rw [own, ← List.append_assoc, finalBackslashes_concat, opens, if_neg bracket, if_neg bracket]
    · have own : escape [p] = [p] := by simp [escape, opens]
      rw [own, finalBackslashes_concat, ih]

theorem finalBackslashes_tag (before : Text) (style : String) :
    finalBackslashes (before ++ tag style) = 0 := by
  have bracket : (']' : CodePoint) ≠ backslash := by decide
  rw [tag_eq, ← List.cons_append, ← List.append_assoc, finalBackslashes_concat, if_neg bracket]

/-! Text that stands escaped in markup. -/

/-- In some markup the text stands escaped after a piece that ends with no backslash, and its own brackets
open a tag just if they come after an odd run of backslashes. -/
structure Embeds (markup before t after : Text) : Prop where
  whole : markup = before ++ escape t ++ after
  settled : finalBackslashes before = 0
  brackets : ∀ a b, t = a ++ ('[' : CodePoint) :: b →
    markup = before ++ escape a ++ [backslash] ++ ('[' : CodePoint) :: (escape b ++ after) ∧
      (OpensTag (before ++ escape a ++ [backslash]) ↔ Odd (finalBackslashes a))

/-- A bracket behind an escaped text opens a tag unless it has an odd number of backslashes at its end. -/
theorem opensTag_escape (settled : finalBackslashes before = 0) (t : Text) :
    OpensTag (before ++ escape t) ↔ ¬Odd (finalBackslashes t) := by
  rw [OpensTag, finalBackslashes_append settled, finalBackslashes_escape]

theorem opensTag_escape_backslash (settled : finalBackslashes before = 0) (t : Text) :
    OpensTag (before ++ escape t ++ [backslash]) ↔ Odd (finalBackslashes t) := by
  rw [OpensTag, finalBackslashes_concat, if_pos rfl, finalBackslashes_append settled,
    finalBackslashes_escape, Nat.odd_add_one, not_not]

theorem embeds (settled : finalBackslashes before = 0) (t after : Text) :
    Embeds (before ++ escape t ++ after) before t after where
  whole := rfl
  settled := settled
  brackets := by
    rintro a b rfl
    refine ⟨?_, opensTag_escape_backslash settled a⟩
    have own : escape (('[' : CodePoint) :: b) = backslash :: ('[' : CodePoint) :: escape b := rfl
    rw [escape_append, own]
    simp only [List.append_assoc, List.cons_append, List.nil_append]

/-! The panel. -/

theorem joinLines_cons (l : Text) (ls : List Text) : ∃ rest, Text.joinLines (l :: ls) = l ++ rest := by
  cases ls with
  | nil => exact ⟨[], (List.append_nil l).symm⟩
  | cons m ls => exact ⟨_, rfl⟩

/-- The line of the directions. -/
def directionsLine (s : Session) : Text :=
  entry "Directions" (Text.ofString (if s.bench.walker.enforce then "on" else "off"))

/-- The panel starts with its level and has the hint further down. -/
theorem lines_of_infoText {s : Session} {text : Text} (shown : infoText s = some text) :
    ∃ first, programLine s = some first ∧
      text = Text.joinLines (first :: directionsLine s ::
        (hintLines s.hint ++ (editorLines s.bench.editor ++ haltLines s))) := by
  obtain ⟨first, found, rfl⟩ := Option.map_eq_some_iff.1 shown
  refine ⟨first, found, ?_⟩
  simp only [List.cons_append, List.append_assoc, directionsLine]

/-- The id stands escaped behind its caption. -/
theorem exists_after_id {s : Session} {level : Level} {first : Text} (isLevel : s.level = some level)
    (found : programLine s = some first) :
    ∃ after, first = caption "Level:" ++ [(' ' : CodePoint)] ++ escape level.id ++ after := by
  have spelled (value : Text) :
      entry "Level" value = caption "Level:" ++ [(' ' : CodePoint)] ++ value := by
    rw [List.append_assoc]
    rfl
  unfold programLine at found
  simp only [isLevel] at found
  split at found
  · obtain rfl := Option.some.inj found
    exact ⟨_, by rw [spelled, List.append_assoc _ (Text.ofString "  ")]⟩
  · cases found

theorem exists_after_hint {s : Session} {text : Text} (hinted : s.hint ≠ [])
    (shown : infoText s = some text) :
    ∃ before after, text = before ++ tag "italic" ++ escape s.hint ++ (tag "/italic" ++ after) := by
  obtain ⟨first, -, rfl⟩ := lines_of_infoText shown
  obtain ⟨rest, joined⟩ := joinLines_cons (within "italic" (escape s.hint))
    (editorLines s.bench.editor ++ haltLines s)
  have lines : hintLines s.hint = [within "italic" (escape s.hint)] := by
    rw [hintLines, if_neg (by simpa using hinted)]
  have closed : tag ("/" ++ "italic") = tag "/italic" := rfl
  refine ⟨first ++ Text.newline :: (directionsLine s ++ [Text.newline]), rest, ?_⟩
  rw [lines, List.singleton_append, Text.joinLines, Text.joinLines, joined, within, closed]
  simp only [List.append_assoc, List.cons_append, List.nil_append]

/-- A bracket of the level's id or of the hint opens a tag just if it comes after an odd run of backslashes,
and the tag that closes the hint is one just if the hint ends with an even run. -/
theorem brackets_of_level_text (s : Session) {text : Text} (shown : infoText s = some text) :
    (∀ level, s.level = some level →
      ∃ after, Embeds text (caption "Level:" ++ [(' ' : CodePoint)]) level.id after) ∧
    (s.hint ≠ [] →
      ∃ before after, Embeds text (before ++ tag "italic") s.hint (tag "/italic" ++ after) ∧
        (OpensTag (before ++ tag "italic" ++ escape s.hint) ↔ ¬Odd (finalBackslashes s.hint))) := by
  refine ⟨fun level isLevel => ?_, fun hinted => ?_⟩
  · obtain ⟨first, found, rfl⟩ := lines_of_infoText shown
    obtain ⟨after, rfl⟩ := exists_after_id isLevel found
    obtain ⟨rest, joined⟩ := joinLines_cons
      (caption "Level:" ++ [(' ' : CodePoint)] ++ escape level.id ++ after)
      (directionsLine s :: (hintLines s.hint ++ (editorLines s.bench.editor ++ haltLines s)))
    have space : (' ' : CodePoint) ≠ backslash := by decide
    refine ⟨after ++ rest, ?_⟩
    rw [joined, List.append_assoc _ after]
    exact embeds (by rw [finalBackslashes_concat, if_neg space]) _ _
  · obtain ⟨before, after, rfl⟩ := exists_after_hint hinted shown
    have settled := finalBackslashes_tag before "italic"
    exact ⟨before, after, embeds settled _ _, opensTag_escape settled _⟩

/-- A level whose first cell has a label with a backslash before its bracket and one at its end. -/
def noteLevel : Level :=
  ⟨Text.ofString "note", [1, 2, 3], List.replicate 24 0 ++ [12, 0, 0, 0] ++ [0, 0, 0, 0],
    [Text.ofString "\\[b]a\\"]⟩

/-- A session with the level loaded. -/
def noteSession : Session :=
  (({ Session.pairSession with levels := [noteLevel] } : Session).loadLevel noteLevel).2

def noteInfo : Text := (infoText noteSession).getD []

theorem brackets_of_noteSession :
    infoText noteSession = some noteInfo ∧ noteSession.hint ≠ [] ∧
      Odd (finalBackslashes noteSession.hint) ∧
      ∃ before after,
        Embeds noteInfo (before ++ tag "italic") noteSession.hint (tag "/italic" ++ after) ∧
          ¬OpensTag (before ++ tag "italic" ++ escape noteSession.hint) := by
  have shown : infoText noteSession = some noteInfo := by decide
  have hinted : noteSession.hint ≠ [] := by decide
  have odd : Odd (finalBackslashes noteSession.hint) := by decide
  obtain ⟨before, after, whole, closes⟩ := (brackets_of_level_text noteSession shown).2 hinted
  exact ⟨shown, hinted, odd, before, after, whole, fun opens => closes.1 opens odd⟩

/-- The bracket of the label opens a tag, and the tag that should close the hint is none. -/
theorem label_opens_tag :
    ∃ before after, infoText noteSession =
        some (before ++ escape noteSession.hint ++ (tag "/italic" ++ after)) ∧
      noteSession.hint = backslash :: ('[' : CodePoint) :: Text.ofString "b]a\\" ∧
      escape noteSession.hint =
        backslash :: backslash :: ('[' : CodePoint) :: Text.ofString "b]a\\" ∧
      OpensTag (before ++ [backslash, backslash]) ∧
      ¬OpensTag (before ++ escape noteSession.hint) :=
  ⟨noteInfo.take 88, [], by decide⟩

end CellWalk.Screen
