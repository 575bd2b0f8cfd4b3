import CellWalk.Text.Lines

/-!
# Outcomes

How a command ends: with a result, with a report of what is wrong, or broken off by a fault that it
does not report. A command line that cannot be understood is told apart from one whose request
fails.
-/

namespace CellWalk.CommandLine
set_option autoImplicit false

/-- How a command ends; `φ` are the faults that it does not report. -/
inductive Outcome (φ α : Type)
  /-- The command line was not understood. -/
  | usage
  /-- The player asked how to use the command. -/
  | help
  /-- The request failed, and this is what is wrong. -/
  | failed (report : Text)
  /-- The command broke off. -/
  | broken (fault : φ)
  | done (result : α)

namespace Outcome

variable {φ α : Type}

/-- The exit code. -/
def exitCode : Outcome φ α → Nat
  | .usage => 2
  | .help => 0
  | .failed _ => 1
  | .broken _ => 1
  | .done _ => 0

/-- How a report starts. -/
def reportMark : Text := Text.ofString "Error: "

/-- What the terminal shows of a report. -/
def reportText : Outcome φ α → Text
  | .failed report => reportMark ++ report ++ [Text.newline]
  | _ => []

/-- A fault's report, or the fault itself if it has none. -/
def ofFault (fault : φ) : Option Text → Outcome φ α
  | some report => .failed report
  | none => .broken fault

end Outcome

/-- The lines of what the terminal shows that start as a report does. -/
def reportLines (shown : Text) : List Text :=
  (Text.splitLines shown).filter (Outcome.reportMark.isPrefixOf ·)

end CellWalk.CommandLine
