import LoxLexer.CommandLine.Prompt

/-!
# The command line

Without an argument the command is a prompt, with one it lists the tokens of the file that the
argument names, and with more it shows how it is used. `run` says what a command does on a host
whose inputs are known beforehand.
-/

namespace LoxLexer.CommandLine

/-- What the arguments ask for. -/
inductive Mode where
  | prompt
  | file (path : String)
  | usage

/-- Reads the arguments, the command's own name not among them. -/
def Mode.ofArguments : List String → Mode
  | [] => .prompt
  | [path] => .file path
  | _ => .usage

/-- What is written to standard error if there are too many arguments. -/
def usageText : String := "Usage: lox [path]\n"

/-- All that a command reads, and the state of its standard output. -/
structure Host where
  input : Input
  /-- The content of the file that a path names, if it can be read. -/
  readFile? : String → Option (List UInt8)
  outputFull : Bool

/-- What a command does on a host. -/
def run (arguments : List String) (host : Host) : Outcome :=
  let stdout := Output.empty host.outputFull
  match Mode.ofArguments arguments with
  | .prompt => prompt host.input stdout
  | .file path => listFile (host.readFile? path) stdout
  | .usage => ⟨.usage, stdout.text, usageText⟩

end LoxLexer.CommandLine
