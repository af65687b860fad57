import LoxLexer.CommandLine.Run

/-!
# The command

Reads and writes for `LoxLexer.CommandLine`, which decides all that is read and written.
-/

namespace LoxLexer.CommandLine

/-- The system's reason for a failed operation. -/
def systemReason (error : IO.Error) : String :=
  match error with
  | .otherError code details | .resourceBusy code details | .resourceVanished code details
  | .unsupportedOperation code details | .hardwareFault code details
  | .unsatisfiedConstraints code details | .illegalOperation code details
  | .protocolError code details | .timeExpired code details | .interrupted _ code details
  | .noFileOrDirectory _ code details | .invalidArgument _ code details
  | .permissionDenied _ code details | .resourceExhausted _ code details
  | .inappropriateType _ code details | .noSuchThing _ code details
  | .alreadyExists _ code details => details ++ " (os error " ++ toString code ++ ")"
  | .unexpectedEof => "unexpected end of file"
  | .userError message => message

/-- Reads the rest of a line of which some bytes, last one first, have been read. -/
partial def readLine (stdin : IO.FS.Stream) (line : List UInt8) : IO (List UInt8) := do
  match (← stdin.read 1).toList with
  | [] => return line.reverse
  | byte :: _ =>
    if byte = 0x0A then return (byte :: line).reverse else readLine stdin (byte :: line)

/-- Reads one line of the input. -/
def readInput (stdin : IO.FS.Stream) : IO LineRead := do
  try
    match ← readLine stdin [] with
    | [] => return .ended
    | line => return .line line
  catch error => return .failed (systemReason error)

/-- Writes a text at once and says whether that succeeded. -/
def writeAll (stdout : IO.FS.Stream) (text : String) : IO Bool := do
  try
    stdout.putStr text
    stdout.flush
    return true
  catch _ => return false

/-- Takes turns until the session ends. -/
partial def converse (stdin stdout stderr : IO.FS.Stream) : IO Unit := do
  if ← writeAll stdout promptText then
    let reply := respond (← readInput stdin)
    stderr.putStr reply.err
    if ← writeAll stdout reply.out then
      if reply.goesOn then converse stdin stdout stderr

/-- The content of a file, if it can be read. -/
def readFile? (path : String) : IO (Option (List UInt8)) := do
  try return some (← IO.FS.readBinFile path).toList
  catch _ => return none

end LoxLexer.CommandLine

open LoxLexer.CommandLine in
/-- Runs the command with its arguments. -/
def main (arguments : List String) : IO UInt32 := do
  let stdout ← IO.getStdout
  let stderr ← IO.getStderr
  let code : ExitCode ← match Mode.ofArguments arguments with
    | .prompt =>
      converse (← IO.getStdin) stdout stderr
      pure .success
    | .file path =>
      let outcome := listFile (← readFile? path) (.empty false)
      stderr.putStr outcome.stderr
      if ← writeAll stdout outcome.stdout then pure outcome.code else pure .ioFailure
    | .usage =>
      stderr.putStr usageText
      pure .usage
  return code.toNat.toUInt32
