import CellWalk.Proofs.Code.RunLength
import CellWalk.Proofs.Code.Literal
import CellWalk.Session.Basic

/-!
# Level codes and what they stand for

The code of an image is the number list of its pairs, so it is decoded to the image
(`decode_ofImage`), and the code of an exported image to the image with status and cycles at 0. That
one is its own export: its code is the same, and as a level it is what a session then holds
(`decode_code`).
-/

namespace CellWalk
set_option autoImplicit false

/-- A level that fits the machine is what the machine holds when it is loaded. -/
theorem Session.loadLevel_of_fits {s : Session} {level : Level}
    (fits : level.program.length = s.machine.memory.length) :
    ∃ s', s.loadLevel level = (.ok (), s') ∧ s'.level = some level ∧
      s'.machine.memory = level.program := by
  have restored : s.machine.memory.restore level.program = .ok level.program := if_pos fits
  have loaded : s.machine.load level.program = .ok { s.machine with memory := level.program } := by
    rw [Machine.load, restored]
    rfl
  change s.bench.machine.load level.program = _ at loaded
  simp only [loadLevel, beginWith, machine, loaded]
  exact ⟨_, rfl, rfl, rfl⟩

namespace LevelCode

/-- The numbers that the pairs of an image consist of. -/
def numbers (m : Image) : List Nat := (RunLength.runs m).flatMap fun r => [r.1.toNat, r.2]

theorem encode_eq_numbers (m : Image) : RunLength.encode m = (numbers m).map Int.ofNat := by
  rw [numbers, List.map_flatMap]
  rfl

/-- They are bytes, so none of them has many digits. -/
theorem few_digits_numbers (m : Image) :
    ∀ n ∈ numbers m, (Decimal.ofNat n).length ≤ Decimal.maxDigits := by
  intro n member
  have small : n < 10 ^ 3 := by
    obtain ⟨r, listed, inPair⟩ := List.mem_flatMap.1 member
    have value := r.1.toNat_lt
    have run : r.2 ≤ 255 := RunLength.run_le_maxRun m r listed
    simp only [List.mem_cons, List.not_mem_nil, or_false] at inPair
    omega
  have short := (Decimal.length_ofNat_le_iff (by decide)).2 small
  exact Nat.le_trans short (by decide)

/-- A code is decoded to the image that it is of. -/
theorem decode_ofImage (m : Image) : decode (ofImage m) = .ok m := by
  have parsed : Literal.parse (ofImage m) = .ok (numbers m) := by
    rw [ofImage, encode_eq_numbers]
    exact Literal.parse_format (few_digits_numbers m)
  simp only [decode, parsed]
  rw [← encode_eq_numbers, RunLength.decode_encode]

/-! Exported images. -/

/-- The image with status and cycles at 0. -/
def fresh (m : Image) : Image := (m.set Register.cyc.address 0).set Register.sta.address 0

variable {m : Image}

theorem length_fresh (m : Image) : (fresh m).length = m.length := by
  rw [fresh, List.length_set, List.length_set]

theorem getD_set_zero (m : Image) (i a : Nat) :
    (m.set i 0).getD a 0 = if a = i then 0 else m.getD a 0 := by
  simp only [List.getD_eq_getElem?_getD, List.getElem?_set]
  by_cases same : a = i
  · rw [if_pos same, if_pos same.symm]
    split <;> rfl
  · rw [if_neg same, if_neg (Ne.symm same)]

theorem getD_fresh (m : Image) (a : Nat) :
    (fresh m).getD a 0 =
      if a = Register.sta.address ∨ a = Register.cyc.address then 0 else m.getD a 0 := by
  rw [fresh, getD_set_zero, getD_set_zero, ite_or]

/-- To reset twice is to reset once. -/
theorem fresh_fresh (m : Image) : fresh (fresh m) = fresh m := by
  have apart : Register.sta.address ≠ Register.cyc.address := by decide
  simp only [fresh]
  rw [List.set_comm _ _ apart, List.set_set, List.set_set]

theorem export?_eq (registers : 4 ≤ m.length) : export? m = some (fresh m) := if_pos registers

/-- An image with registers has a code, that of the image reset. -/
theorem encode?_eq (registers : 4 ≤ m.length) : encode? m = some (ofImage (fresh m)) := by
  rw [encode?, export?_eq registers, Option.map_some]

/-- Every code is decoded to the image that it was made of. The code of an export is decoded to the
image with status and cycles at 0 and all other bytes as they were; this image has the same code
again, and a session that loads it as a level holds it. -/
theorem decode_code :
    (∀ m : Image, decode (ofImage m) = .ok m) ∧
      (∀ level : Level, decode level.encoded = .ok level.program) ∧
      ∀ m : Image, 4 ≤ m.length → ∃ code image, encode? m = some code ∧ decode code = .ok image ∧
        image.length = m.length ∧
        (∀ a, image.getD a 0 =
          if a = Register.sta.address ∨ a = Register.cyc.address then 0 else m.getD a 0) ∧
        encode? image = some code ∧
        ∀ (s : Session) (level : Level), level.program = image →
          s.machine.memory.length = m.length →
          ∃ s', s.loadLevel level = (.ok (), s') ∧ s'.level = some level ∧
            s'.machine.memory = image := by
  refine ⟨decode_ofImage, fun level => decode_ofImage level.program, fun m registers => ?_⟩
  have again : encode? (fresh m) = some (ofImage (fresh m)) := by
    rw [encode?_eq (by rwa [length_fresh]), fresh_fresh]
  refine ⟨_, fresh m, encode?_eq registers, decode_ofImage _, length_fresh m, getD_fresh m, again, ?_⟩
  intro s level program size
  have fits : level.program.length = s.machine.memory.length := by
    rw [program, length_fresh, size]
  obtain ⟨s', loaded, current, memory⟩ := Session.loadLevel_of_fits fits
  exact ⟨s', loaded, current, memory.trans program⟩

/-- A halted program with runs longer than one pair can say. -/
def longRuns : Image := [1, 0, 0, 9] ++ List.replicate 300 7

theorem decode_code_longRuns :
    4 ≤ longRuns.length ∧ ∃ code image, encode? longRuns = some code ∧ decode code = .ok image ∧
      image.length = 304 ∧ image.getD 3 0 = 0 ∧ image.getD 303 0 = 7 := by
  have size : longRuns.length = 304 := by
    rw [longRuns, List.length_append, List.length_replicate]
    rfl
  have registers : 4 ≤ longRuns.length := by omega
  obtain ⟨code, image, encoded, decoded, length, bytes, -⟩ := decode_code.2.2 longRuns registers
  refine ⟨registers, code, image, encoded, decoded, length.trans size, ?_, ?_⟩
  · rw [bytes, if_pos (by decide)]
  · rw [bytes, if_neg (by decide), longRuns, List.getD_eq_getElem?_getD,
      List.getElem?_append_right (by decide), List.getElem?_replicate]
    rfl

end LevelCode

end CellWalk
