/-!
# Outcomes of the command line

What a finished command leaves behind, and the standard output that it writes to. An output that is
full takes no text; writing nothing to it is no failure.
-/

namespace LoxLexer.CommandLine

/-- How a command ends. -/
inductive ExitCode where
  | success
  /-- The arguments are wrong. -/
  | usage
  /-- The source is refused. -/
  | badData
  /-- A file cannot be read or the output cannot be written. -/
  | ioFailure
deriving DecidableEq

/-- The number that the system sees. -/
def ExitCode.toNat : ExitCode → Nat
  | success => 0
  | usage => 64
  | badData => 65
  | ioFailure => 74

/-- What a finished command leaves behind. -/
structure Outcome where
  code : ExitCode
  stdout : String
  stderr : String
deriving DecidableEq

/-- A standard output: what it has taken, and whether it is full. -/
structure Output where
  text : String
  full : Bool
deriving DecidableEq

namespace Output

/-- The output to which nothing has been written. -/
def empty (full : Bool) : Output :=
  ⟨"", full⟩

/-- Writes a text, which fails on a full output unless there is nothing to write. -/
def write? (output : Output) (text : String) : Option Output :=
  if output.full ∧ text ≠ "" then none else some { output with text := output.text ++ text }

end Output

end LoxLexer.CommandLine
