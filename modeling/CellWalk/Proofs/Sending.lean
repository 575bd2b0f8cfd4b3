import CellWalk.Proofs.Assembly.Labels
import CellWalk.Proofs.Catalogue
import CellWalk.Proofs.Pace
import Mathlib.Data.List.DropRight

/-!
# What a game sends

The outlet keeps the newest bytes for the port and all of them for the output, and a counter says how many
were sent. They are not always cleared together: a restart leaves the counter, an undo leaves all three.
In the course of any requests there is still one list of bytes behind them (`Sent`): whatever was sent
since the last start of a game, byte by byte with the walks that executed the record
(`output_tells_what_was_sent`).
-/

namespace CellWalk
set_option autoImplicit false

/-! The machine. -/

namespace Machine

/-- The bytes are what the log of the outlet holds, its buffer holds the newest of them, and at least as
many have been counted. -/
structure Sent (m : Machine) (bytes : List UInt8) : Prop where
  depth : m.outlet.depth = outletDepth
  log : m.outlet.heard = bytes
  port : m.outlet.buffer = bytes.rtake outletDepth
  counted : bytes.length ≤ m.sends

/-- The byte that a record sends when it is executed. -/
def sends? (m : Machine) (r : Instruction) : Option UInt8 :=
  if r.op? = some .snd then some (m.get .dbg) else none

variable {m n : Machine} {bytes : List UInt8}

/-- What a full buffer has lost makes no difference to the newest bytes. -/
theorem rtake_rtake_concat (depth : Nat) (bytes : List UInt8) (b : UInt8) :
    (bytes.rtake depth ++ [b]).rtake depth = (bytes ++ [b]).rtake depth := by
  cases depth with
  | zero => rw [List.rtake_zero, List.rtake_zero]
  | succ depth =>
    rw [List.rtake_concat_succ, List.rtake_concat_succ]
    simp [List.rtake_eq_reverse_take_reverse, List.take_take]

theorem Sent.same (sent : m.Sent bytes) (outlet : n.outlet = m.outlet) (sends : n.sends = m.sends) :
    n.Sent bytes :=
  ⟨by rw [outlet, sent.depth], by rw [outlet, sent.log], by rw [outlet, sent.port],
    by rw [sends]; exact sent.counted⟩

/-- One more byte is sent. -/
theorem Sent.push (sent : m.Sent bytes) {b : UInt8} (outlet : n.outlet = m.outlet.push b)
    (sends : n.sends = m.sends + 1) : n.Sent (bytes ++ [b]) := by
  refine ⟨by rw [outlet]; exact sent.depth, ?_, ?_, ?_⟩
  · rw [outlet, ← sent.log]
    rfl
  · have pushed : (m.outlet.push b).buffer = (m.outlet.buffer ++ [b]).rtake m.outlet.depth := rfl
    rw [outlet, pushed, sent.depth, sent.port, rtake_rtake_concat]
  · rw [sends, List.length_append]
    exact Nat.succ_le_succ sent.counted

theorem sent_silence (depth : m.outlet.depth = outletDepth)
    (outlet : n.outlet = Session.silence m.outlet) : n.Sent [] := by
  rw [Session.silence] at outlet
  constructor
  · rw [outlet]
    exact depth
  · rw [outlet]
    rfl
  · rw [outlet]
    rfl
  · exact Nat.zero_le _

@[simp] theorem sends_setReg (m : Machine) (a v : Int) : (m.setReg a v).sends = m.sends := rfl

@[simp] theorem sends_set (m : Machine) (r : Register) (v : Int) : (m.set r v).sends = m.sends := rfl

@[simp] theorem sends_push (m : Machine) (v : Int) : (m.push v).sends = m.sends := rfl

@[simp] theorem sends_pop (m : Machine) : m.pop.2.sends = m.sends := by
  simp only [pop]
  split <;> rfl

@[simp] theorem sends_swap (m : Machine) (operand : UInt8) : (m.swap operand).sends = m.sends := by
  unfold swap
  split <;> simp

/-- Of all instructions one sends. -/
theorem Sent.perform (sent : m.Sent bytes) (o : Opcode) (r : Instruction) :
    (m.perform o r).2.Sent (bytes ++ if o = .snd then [m.get .dbg] else []) := by
  by_cases sends : o = .snd
  · subst sends
    exact sent.push rfl rfl
  · rw [if_neg sends, List.append_nil]
    cases o with
    | snd => exact absurd rfl sends
    | set =>
      simp only [Machine.perform]
      split <;> exact sent.same rfl rfl
    | swp => exact sent.same (outlet_swap m _) (sends_swap m _)
    | nil | nop | txt | get | add | sub | teq | tlt | tgt | halt => exact sent.same rfl rfl

/-- Entering a cell sends what its record sends. -/
theorem Sent.jump (sent : m.Sent bytes) {index : Int} (jumped : m.jump index = (true, n)) :
    n.Sent (bytes ++ (m.sends? (m.instruction index)).toList) := by
  have counted : Sent { m with executions := m.executions + 1 } bytes := sent.same rfl rfl
  obtain ⟨o, entered, named, rfl, executed⟩ := performed_of_jump jumped
  have performed := counted.perform o (m.instruction index)
  rw [executed] at performed
  have told : (m.sends? (m.instruction index)).toList = if o = .snd then [m.get .dbg] else [] := by
    have record : (m.instruction index).op? = some o := named
    simp only [sends?, record, Option.some.injEq]
    split <;> rfl
  rw [told]
  exact performed.same rfl rfl

end Machine

namespace Session

/-- What can be asked of a session: to begin with something to play, with this level or with the random
program of this seed, or to carry out an action of the player. -/
inductive Request
  | start (id : Setting Text) (random : Bool) (freshSeed : Int)
  | level (level : Level)
  | random (seed : Int)
  | action (a : Action)

/-- A load as a step: if it succeeds, it has taken effect. -/
def loading (r : Except PlayError Unit × Session) : Step := (r.1.map fun () => true, r.2)

/-- Carries out a request. -/
def serve (s : Session) : Request → Step
  | .start id random freshSeed => loading (s.start id random freshSeed)
  | .level level => loading (s.loadLevel level)
  | .random seed => loading (s.loadRandom seed)
  | .action a => s.act a

/-- The session after some requests. -/
def served (s : Session) (rs : List Request) : Session := rs.foldl (fun s r => (s.serve r).2) s

/-- Whether a request with this answer has started the output over: a load that has succeeded, a step to
the next level that has gone on, or a restart that has taken effect. -/
def startsOver (answer : Except PlayError Bool) : Request → Bool
  | .action (.command .nextLevel) => goesOn answer
  | .action (.command .restart) => took answer
  | .action _ => false
  | _ => took answer

/-- The byte that a request sends, which is a move or a click that enters a cell. -/
def sentBy? (s : Session) : Request → Option UInt8
  | .action a => (s.entered? a).bind s.machine.sends?
  | _ => none

/-- The bytes that were sent in the course of the requests and after the last of them that has started
the output over; at first the given ones. -/
def sending (s : Session) (bytes : List UInt8) : List Request → List UInt8
  | [] => bytes
  | r :: rs =>
    let step := s.serve r
    step.2.sending (if startsOver step.1 r then [] else bytes ++ (s.sentBy? r).toList) rs

variable {config : Config} {levels : List Level} {good : Image → Prop} {s t : Session}
  {bytes : List UInt8}

/-! Loads. -/

theorem sent_loadLevel (sent : s.machine.Sent bytes) (level : Level) :
    (s.loadLevel level).2.machine.Sent
      (if took (loading (s.loadLevel level)).1 then [] else bytes) := by
  by_cases fits : level.program.length = s.machine.memory.length
  · rw [loadLevel_begun fits]
    exact Machine.sent_silence sent.depth rfl
  · rw [loadLevel_unfit fits]
    exact sent.same rfl rfl

theorem sent_loadRandom (sent : s.machine.Sent bytes) (seed : Int) :
    (s.loadRandom seed).2.machine.Sent
      (if took (loading (s.loadRandom seed)).1 then [] else bytes) := by
  rw [loadRandom_begun]
  exact Machine.sent_silence sent.depth rfl

/-- Opening a game silences the outlet if it loads something. -/
theorem Opens.sent (sent : s.machine.Sent bytes) {r : Except PlayError Unit × Session}
    (opens : s.Opens r) : r.2.machine.Sent (if took (loading r).1 then [] else bytes) := by
  have noted : ∀ {t : Session}, t = { s with diary := t.diary } → t.machine.Sent bytes := by
    intro t same
    rw [same]
    exact sent
  cases opens with
  | stayed same _ => exact noted same
  | level same _ => exact sent_loadLevel (noted same) _
  | random same seed => exact sent_loadRandom (noted same) seed

/-! Actions. -/

/-- A walk that is refused has been counted and nothing else; one that enters a cell has executed the
record there. -/
theorem sent_walk (sized : s.machine.Sized) (sent : s.machine.Sent bytes) {a : Action}
    (walks : a.walks = true) :
    (s.act a).2.machine.Sent (bytes ++ (s.sentBy? (.action a)).toList) := by
  obtain ⟨answer, answered, enters⟩ := enters_act s walks
  generalize bench : (s.act a).2.bench = b at enters
  cases enters with
  | refused =>
    -- the case tells of memory and history only, so the outlet is found by what a refusal leaves
    have uncounted : (s.act a).2.uncounted = s.uncounted := by
      cases a with
      | click index => exact uncounted_of_click (Prod.ext (Except.ok.inj answered) rfl)
      | command c =>
        have notCut : c ≠ .cut := by
          rintro rfl
          cases walks
        exact uncounted_of_perform (s := s.note _) notCut (Prod.ext answered rfl)
    have silent : s.sentBy? (.action a) = none := by
      simp [sentBy?, entered?, answered, took]
    rw [silent, Option.toList_none, List.append_nil]
    exact sent.same (congrArg (fun t => t.bench.machine.outlet) uncounted)
      (congrArg (fun t => t.bench.machine.sends) uncounted)
  | @entered index n _ jumped machine history =>
    have there : (s.act a).2.machine = n.cycle := (congrArg Bench.machine bench).trans machine
    have executed : s.entered? a = some (s.machine.instruction index) := by
      rw [entered?, walks, answered, there, Machine.ip_cycle, Machine.ip_of_jump sized jumped]
      rfl
    simp only [sentBy?, executed, Option.bind_some]
    rw [there]
    exact (sent.jump jumped).same rfl rfl

/-- An undo takes back no byte that was sent. -/
theorem sent_undo (fitted : Fitted config levels good s) (lasting : Lasting config.grid good)
    (sent : s.machine.Sent bytes) : (s.act (.command .undo)).2.machine.Sent bytes := by
  rcases undo_cases (fitted.entries_fit lasting) with ⟨-, refused⟩ | ⟨image, older, -, back⟩
  · rw [refused]
    exact sent
  · rw [back]
    exact sent.same rfl rfl

/-- A restart that takes place silences the outlet. -/
theorem sent_restart (fitted : Fitted config levels good s) (lasting : Lasting config.grid good)
    (sent : s.machine.Sent bytes) :
    (s.act (.command .restart)).2.machine.Sent
      (if took (s.act (.command .restart)).1 then [] else bytes) := by
  rcases restart_cases (fitted.fits lasting fitted.opening) with ⟨-, refused⟩ | ⟨-, back⟩
  · rw [refused]
    exact sent
  · rw [back]
    exact Machine.sent_silence sent.depth rfl

theorem sent_nextLevel (sent : s.machine.Sent bytes) :
    (s.act (.command .nextLevel)).2.machine.Sent
      (if goesOn (s.act (.command .nextLevel)).1 then [] else bytes) := by
  rcases nextLevel_cases s with ⟨answer, after, stayed, rest, stays⟩ | ⟨level, -, -, goes⟩
  · have none : goesOn answer = false := by
      rcases stayed with rfl | ⟨e, rfl⟩ <;> rfl
    rw [stays, none, rest]
    exact sent
  · rw [goes, (saveProgress_goesOn _ _).1, (saveProgress_cases _ _).2]
    exact Machine.sent_silence sent.depth rfl

/-- An action that neither walks nor goes back or on to another level sends nothing. -/
theorem sent_still (sent : s.machine.Sent bytes) {a : Action} (still : a.walks = false)
    (stays : a.replaces = false) : (s.act a).2.machine.Sent bytes := by
  have ended : a.walks = true → s.machine.isHalted = true := by
    intro walks
    rw [still] at walks
    cases walks
  have retouch := (rests_act ended stays).machine
  exact sent.same (by rw [retouch.rest]) (by rw [retouch.rest])

theorem append_sentBy?_of_still (s : Session) (bytes : List UInt8) {a : Action}
    (still : a.walks = false) : bytes ++ (s.sentBy? (.action a)).toList = bytes := by
  simp [sentBy?, entered?, still]

/-- What starts the output over replaces the image. -/
theorem startsOver_of_stays (answer : Except PlayError Bool) {a : Action} (stays : a.replaces = false) :
    startsOver answer (.action a) = false := by
  cases a with
  | click index => rfl
  | command c =>
    cases c with
    | restart | nextLevel => cases stays
    | _ => rfl

/-- One action sends a byte, starts over or leaves what was sent. -/
theorem Fitted.sent_act (fitted : Fitted config levels good s) (lasting : Lasting config.grid good)
    (sent : s.machine.Sent bytes) (a : Action) :
    (s.act a).2.machine.Sent
      (if startsOver (s.act a).1 (.action a) then []
        else bytes ++ (s.sentBy? (.action a)).toList) := by
  by_cases stays : a.replaces = false
  · rw [startsOver_of_stays _ stays]
    by_cases walks : a.walks = true
    · have sized : s.machine.Sized := by
        rw [Machine.Sized, fitted.grid]
        exact lasting.sized fitted.memory
      exact sent_walk sized sent walks
    · rw [Bool.not_eq_true] at walks
      rw [append_sentBy?_of_still s bytes walks]
      exact sent_still sent walks stays
  · cases a with
    | click index => exact absurd rfl stays
    | command c =>
      cases c with
      | undo =>
        rw [append_sentBy?_of_still s bytes rfl]
        exact sent_undo fitted lasting sent
      | restart =>
        rw [append_sentBy?_of_still s bytes rfl]
        exact sent_restart fitted lasting sent
      | nextLevel =>
        rw [append_sentBy?_of_still s bytes rfl]
        exact sent_nextLevel sent
      | _ => exact absurd rfl stays

/-! Requests. -/

/-- A request sends the byte that it sends, or it starts over with none. -/
theorem Fitted.sent_serve (fitted : Fitted config levels good s) (lasting : Lasting config.grid good)
    (sent : s.machine.Sent bytes) (r : Request) :
    (s.serve r).2.machine.Sent
      (if startsOver (s.serve r).1 r then [] else bytes ++ (s.sentBy? r).toList) := by
  cases r with
  | action a => exact fitted.sent_act lasting sent a
  | start id random freshSeed =>
    simp only [sentBy?, Option.toList_none, List.append_nil]
    exact (opens_start s id random freshSeed).sent sent
  | level level =>
    simp only [sentBy?, Option.toList_none, List.append_nil]
    exact sent_loadLevel sent level
  | random seed =>
    simp only [sentBy?, Option.toList_none, List.append_nil]
    exact sent_loadRandom sent seed

theorem Reachable.serve {given : Level → Prop} (reached : Reachable config levels given s)
    (all : ∀ level, given level) (r : Request) : Reachable config levels given (s.serve r).2 := by
  cases r with
  | start id random freshSeed => exact reached.started id random freshSeed
  | level level => exact reached.loaded (all level)
  | random seed => exact reached.drawn seed
  | action a => exact reached.acted a

theorem Reachable.served {given : Level → Prop} (reached : Reachable config levels given s)
    (all : ∀ level, given level) (rs : List Request) :
    Reachable config levels given (s.served rs) := by
  induction rs generalizing s with
  | nil => exact reached
  | cons r rs ih => exact ih (reached.serve all r)

/-- Over any requests the outlet has sent what they say, by induction on them. -/
theorem Reachable.sent_served {given : Level → Prop} (reached : Reachable config levels given s)
    (all : ∀ level, given level) (sent : s.machine.Sent bytes) (rs : List Request) :
    (s.served rs).machine.Sent (s.sending bytes rs) := by
  induction rs generalizing s bytes with
  | nil => exact sent
  | cons r rs ih =>
    have lasting := lasting_sized config.grid
    have fitted := reached.fitted lasting fun _ _ sized => sized
    exact ih (reached.serve all r) (fitted.sent_serve lasting sent r)

/-- A line tells which byte it is for, as it ends with the two digits of the byte. -/
theorem outputLine_injective : Function.Injective outputLine := by
  have read : ∀ n < 256, Hex.take? 2 (Text.ofChars ((Hex.ofNat 2 n).map Char.toUpper)) = some (n, []) := by
    decide +kernel
  have width : ∀ b : UInt8, (Text.ofChars ((Hex.ofNat 2 b.toNat).map Char.toUpper)).length = 2 := by
    intro b
    rw [Text.length_ofChars, List.length_map, Hex.length_ofNat (by decide) b.toNat_lt]
  intro a b same
  have digits := List.append_inj_right' same ((width a).trans (width b).symm)
  have readA := read a.toNat a.toNat_lt
  rw [digits, read b.toNat b.toNat_lt] at readA
  simp only [Option.some.injEq, Prod.mk.injEq, and_true] at readA
  exact UInt8.toNat_inj.1 readA.symm

/-- After any requests to a new session the output has a line for every byte that walks have sent since
the last of them that started it over, in their order; the port holds the newest sixteen of these bytes;
and the machine has counted at least as many. -/
theorem output_tells_what_was_sent {store : Option LevelStore}
    (made : create config levels store = .ok s) (rs : List Request) :
    (s.served rs).outputLines = (s.sending [] rs).map outputLine ∧
      Function.Injective outputLine ∧
      (s.served rs).machine.outlet.buffer = (s.sending [] rs).rtake 16 ∧
      (s.sending [] rs).length ≤ (s.served rs).machine.sends := by
  have reached : Reachable config levels (fun _ => True) s := .created made
  have new : s.machine.Sent [] := by
    unfold create at made
    split at made
    · cases made
    · cases made
      exact ⟨rfl, rfl, rfl, Nat.zero_le _⟩
  have sent := reached.sent_served (fun _ => trivial) new rs
  refine ⟨?_, outputLine_injective, sent.port, sent.counted⟩
  rw [outputLines, Session.sent, sent.log]

/-- A level that adds one in its first cell and sends in its second. -/
def sendLevel : Level := ⟨"send", [1, 2, 3], List.replicate 24 0 ++ [5, 1, 0, 0] ++ [10, 0, 0, 0], []⟩

/-- The player walks to and fro, sends eighteen bytes and takes the last walk back. -/
def sendTour : List Request :=
  .level sendLevel :: (List.range 35).map (fun k => .action (.click (if k % 2 = 0 then 1 else 0))) ++
    [.action (.command .undo)]

theorem output_of_sendTour :
    pairSession.sending [] sendTour = (List.range 18).map UInt8.ofNat ∧
      (pairSession.served sendTour).outputLines =
        (List.range 18).map (fun k => outputLine (UInt8.ofNat k)) ∧
      (pairSession.served sendTour).machine.outlet.buffer = (List.range' 2 16).map UInt8.ofNat := by
  have made : create pairSession.config [pairLevel] none = .ok pairSession := rfl
  have bytes : pairSession.sending [] sendTour = (List.range 18).map UInt8.ofNat := by decide +kernel
  obtain ⟨lines, -, port, -⟩ := output_tells_what_was_sent made sendTour
  rw [bytes] at lines port
  exact ⟨bytes, by rw [lines, List.map_map]; rfl, port⟩

end Session

end CellWalk
