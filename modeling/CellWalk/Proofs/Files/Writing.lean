import CellWalk.Files.Tree

/-!
# Files that were written

What was a directory stays one whatever is written or made beside it (`Extends`), so a path that could
be followed leads to the same place afterwards. The file at its end has the bytes that were written last
(`readBytes_of_write`), and it can be written again (`writeInto_again`). An ASCII text without carriage
returns is read as it was written (`readText_of_write`).
-/

namespace CellWalk
set_option autoImplicit false

namespace Utf8

/-- ASCII is written byte by byte and read the same way. -/
theorem decodeFrom_encode_of_ascii {t : Text} (ascii : ∀ p ∈ t, p.val < 0x80) (start : Nat) :
    decodeFrom start (encode t) = .ok t := by
  induction t generalizing start with
  | nil => rw [encode, List.flatMap_nil, decodeFrom]
  | cons p t ih =>
    have small : p.val < 0x80 := ascii p List.mem_cons_self
    have byte : encode (p :: t) = UInt8.ofNat p.val :: encode t := by
      simp only [encode, List.flatMap_cons, encodePoint, if_pos small]
      rfl
    have number : (UInt8.ofNat p.val).toNat = p.val := by
      rw [UInt8.toNat_ofNat']
      omega
    have first : lead? (UInt8.ofNat p.val) = some (p.val, []) := by
      have low : UInt8.ofNat p.val < 0x80 := by
        apply UInt8.lt_iff_toNat_lt.2
        rw [number]
        exact small
      simp only [lead?, if_pos low, number]
    have rest := ih (fun q member => ascii q (List.mem_cons_of_mem p member)) (start + 1)
    rw [byte, decodeFrom]
    simp only [first, follow, List.length_nil, Nat.add_zero, List.drop_zero, rest, CodePoint.ofNat_val]

theorem decode_encode_of_ascii {t : Text} (ascii : ∀ p ∈ t, p.val < 0x80) :
    decode (encode t) = .ok t := decodeFrom_encode_of_ascii ascii 0

end Utf8

/-- Only a carriage return makes a difference between line ends. -/
theorem Text.unifyLines_of_noReturn {t : Text} (noReturn : carriageReturn ∉ t) :
    unifyLines t = t := by
  fun_induction unifyLines t with
  | case1 => rfl
  | case2 p =>
    have other : p ≠ carriageReturn := fun same => noReturn (same ▸ List.mem_cons_self)
    rw [if_neg other]
  | case3 => exact absurd List.mem_cons_self noReturn
  | case4 => exact absurd List.mem_cons_self noReturn
  | case5 p q t other ih => rw [ih (List.not_mem_of_not_mem_cons noReturn)]

namespace FileTree

/-- Paths start at the same place, and every directory is still one. -/
structure Extends (t t' : FileTree) : Prop where
  current : t'.current = t.current
  directory : ∀ names, t.entry names = .directory → t'.entry names = .directory

variable {t t' : FileTree} {p directory : Path} {names file : List Text} {bytes : List UInt8}

theorem mem_known_iff : names ∈ t.known ↔
    names = t.current ∨ names ∈ t.directories ∨ ∃ f ∈ t.files, f.1 = names := by
  simp only [known, List.mem_append, List.mem_cons, List.mem_map, or_assoc]

/-- A directory is a start of some known path that no file has. -/
theorem entry_eq_directory_iff : t.entry names = .directory ↔
    (∀ f ∈ t.files, f.1 ≠ names) ∧ ∃ known ∈ t.known, names <+: known := by
  unfold entry
  cases found : t.files.find? fun f => f.1 == names with
  | some f =>
    have same : f.1 = names := by simpa using List.find?_some found
    simp only [reduceCtorEq, false_iff, not_and]
    intro none_
    exact absurd same (none_ f (List.mem_of_find?_eq_some found))
  | none =>
    have none_ : ∀ f ∈ t.files, f.1 ≠ names := fun f member => by
      simpa using List.find?_eq_none.1 found f member
    simp only [ite_eq_left_iff, reduceCtorEq, imp_false, Classical.not_not, List.any_eq_true,
      List.isPrefixOf_iff_prefix]
    exact ⟨fun below => ⟨none_, below⟩, And.right⟩

/-! What changes make of directories. -/

/-- A file is put where no directory is; what was there before stays. -/
theorem extends_put (free : t.entry file ≠ .directory) (bytes : List UInt8) :
    t.Extends (t.put file bytes) := by
  refine ⟨rfl, fun names there => ?_⟩
  have other : file ≠ names := by
    rintro rfl
    exact free there
  obtain ⟨noFile, known, member, below⟩ := entry_eq_directory_iff.1 there
  refine entry_eq_directory_iff.2 ⟨fun f written => ?_, ?_⟩
  · rcases List.mem_cons.1 written with rfl | old
    · exact other
    · exact noFile f (List.mem_filter.1 old).1
  · refine ⟨known, mem_known_iff.2 ?_, below⟩
    rcases mem_known_iff.1 member with here | listed | ⟨f, inFiles, rfl⟩
    · exact .inl here
    · exact .inr (.inl listed)
    · by_cases same : f.1 = file
      · exact .inr (.inr ⟨(file, bytes), List.mem_cons_self, same.symm⟩)
      · have kept : f ∈ (t.erase file).files := List.mem_filter.2 ⟨inFiles, by simpa using same⟩
        exact .inr (.inr ⟨f, List.mem_cons_of_mem _ kept, rfl⟩)

theorem extends_directory (t : FileTree) (names : List Text) :
    t.Extends { t with directories := names :: t.directories } := by
  refine ⟨rfl, fun other there => ?_⟩
  obtain ⟨noFile, known, member, below⟩ := entry_eq_directory_iff.1 there
  refine entry_eq_directory_iff.2 ⟨noFile, known, mem_known_iff.2 ?_, below⟩
  rcases mem_known_iff.1 member with here | listed | inFiles
  · exact .inl here
  · exact .inr (.inl (List.mem_cons_of_mem names listed))
  · exact .inr (.inr inFiles)

theorem entry_put_self (t : FileTree) (names : List Text) (bytes : List UInt8) :
    (t.put names bytes).entry names = .file bytes := by
  simp [entry, put]

theorem entry_directory_self (missing : t.entry names = .missing) :
    ({ t with directories := names :: t.directories } : FileTree).entry names = .directory := by
  refine entry_eq_directory_iff.2 ⟨fun f member same => ?_, names, ?_, List.prefix_rfl⟩
  · have found : (t.files.find? fun f => f.1 == names).isSome := by
      apply List.find?_isSome.2
      exact ⟨f, member, by simpa using same⟩
    obtain ⟨g, found⟩ := Option.isSome_iff_exists.1 found
    simp [entry, found] at missing
  · exact mem_known_iff.2 (.inr (.inl List.mem_cons_self))

/-! Where paths lead. -/

theorem Extends.refl (t : FileTree) : t.Extends t := ⟨rfl, fun _ there => there⟩

/-- Where a path leads it leads in a tree with more in it. -/
theorem follow_of_extends (more : t.Extends t') {parts : List Text} {spot : Spot}
    (found : t.follow p names parts = .ok spot) :
    t'.follow p names parts = .ok ⟨spot.names, t'.entry spot.names⟩ := by
  induction parts generalizing names with
  | nil =>
    cases found
    rfl
  | cons part rest ih =>
    unfold follow at found ⊢
    split at found
    · cases found
    · cases found
    · rename_i through
      rw [more.directory names through]
      dsimp only
      split at found
      · rename_i up
        rw [if_pos up]
        exact ih found
      · rename_i down
        rw [if_neg down]
        split at found
        · cases found
        · rename_i short
          rw [if_neg short]
          exact ih found

/-- A path leads to the same place, where something else may stand now. -/
theorem locate_of_extends (more : t.Extends t') {spot : Spot} (found : t.locate p = .ok spot) :
    t'.locate p = .ok ⟨spot.names, t'.entry spot.names⟩ := by
  unfold locate at found ⊢
  split at found
  · cases found
  · have base : t'.base p = t.base p := by
      unfold base
      rw [more.current]
    rw [base]
    exact follow_of_extends more found

theorem entry_of_locate {spot : Spot} (found : t.locate p = .ok spot) :
    t.entry spot.names = spot.entry := by
  have again := locate_of_extends (.refl t) found
  rw [found] at again
  exact (congrArg Spot.entry (Except.ok.inj again)).symm

/-! Writing. -/

/-- A file is written at the end of its path, unless a directory stands there. -/
theorem write_eq_ok (written : t.write p bytes = .ok t') :
    ∃ names, t.entry names ≠ .directory ∧ t' = t.put names bytes ∧
      t'.locate p = .ok ⟨names, .file bytes⟩ := by
  unfold write at written
  split at written
  · cases written
  · cases written
  · rename_i names found noDirectory located
    cases written
    have free : t.entry names ≠ .directory := by
      rw [entry_of_locate located]
      exact noDirectory
    refine ⟨names, free, rfl, ?_⟩
    rw [locate_of_extends (extends_put free bytes) located, entry_put_self]

/-- What is read is what was written. -/
theorem readBytes_of_write (written : t.write p bytes = .ok t') : t'.readBytes p = .ok bytes := by
  obtain ⟨names, -, -, located⟩ := write_eq_ok written
  simp only [readBytes, located]

/-- What could be written can be written again. -/
theorem write_again (written : t.write p bytes = .ok t') (new : List UInt8) :
    ∃ t'', t'.write p new = .ok t'' := by
  obtain ⟨names, -, -, located⟩ := write_eq_ok written
  exact ⟨t'.put names new, by simp only [write, located]⟩

/-- A text of ASCII without carriage returns is read as it was written. -/
theorem readText_of_write {text : Text} (ascii : ∀ q ∈ text, q.val < 0x80)
    (noReturn : Text.carriageReturn ∉ text) (written : t.write p (Utf8.encode text) = .ok t') :
    t'.readText p = .ok text := by
  simp only [readText, readBytes_of_write written, Utf8.decode_encode_of_ascii ascii,
    Text.unifyLines_of_noReturn noReturn]

/-! Making directories. -/

theorem locate_of_ensureDirectory (made : t.ensureDirectory p = .ok t') :
    ∃ names, t'.locate p = .ok ⟨names, .directory⟩ := by
  unfold ensureDirectory at made
  split at made
  · rename_i extended makes
    cases made
    unfold makeDirectory at makes
    split at makes
    · cases makes
    · rename_i names located
      cases makes
      have missing : t.entry names = .missing := entry_of_locate located
      refine ⟨names, ?_⟩
      rw [locate_of_extends (extends_directory t names) located, entry_directory_self missing]
    · cases makes
  · split at made
    · rename_i names located
      cases made
      exact ⟨names, located⟩
    · cases made

theorem ensureDirectory_of_directory (there : t.locate p = .ok ⟨names, .directory⟩) :
    t.ensureDirectory p = .ok t := by
  simp only [ensureDirectory, makeDirectory, there]

theorem attempt_eq_ok {made : Except FileError FileTree} (done : t.attempt made = (.ok (), t')) :
    made = .ok t' := by
  cases made with
  | error e => cases done
  | ok changed =>
    cases done
    rfl

/-- Where all directories are made there is one. -/
theorem locate_of_ensureAll {fuel : Nat} (made : ensureAll fuel t p = (.ok (), t')) :
    ∃ names, t'.locate p = .ok ⟨names, .directory⟩ := by
  cases fuel with
  | zero => cases made
  | succ fuel =>
    unfold ensureAll at made
    split at made
    · rename_i makes
      cases made
      exact locate_of_ensureDirectory makes
    · split at made
      · cases made
      · split at made
        · cases made
        · exact locate_of_ensureDirectory (attempt_eq_ok made)
    · cases made

/-- Writing goes by the directory that was made first. -/
theorem writeInto_eq_ok (written : t.writeInto directory p bytes = (.ok (), t')) :
    ∃ (between : FileTree) (names : List Text), between.locate directory = .ok ⟨names, .directory⟩ ∧
      between.write p bytes = .ok t' := by
  unfold writeInto at written
  split at written
  · cases written
  · rename_i between made
    obtain ⟨names, there⟩ := locate_of_ensureAll made
    exact ⟨between, names, there, attempt_eq_ok written⟩

/-- What has been written once can be written again. -/
theorem writeInto_again (written : t.writeInto directory p bytes = (.ok (), t'))
    (new : List UInt8) : (t'.writeInto directory p new).1 = .ok () := by
  obtain ⟨between, names, there, writes⟩ := writeInto_eq_ok written
  obtain ⟨file, free, put, -⟩ := write_eq_ok writes
  have stays : t'.locate directory = .ok ⟨names, .directory⟩ := by
    have more : between.Extends t' := put ▸ extends_put free bytes
    rw [locate_of_extends more there, more.directory names (entry_of_locate there)]
  have made : ensureAll maxMissing t' directory = (.ok (), t') := by
    simp only [maxMissing, ensureAll, ensureDirectory_of_directory stays]
  obtain ⟨last, rewritten⟩ := write_again writes new
  simp only [writeInto, made, rewritten, attempt]

end FileTree

end CellWalk
