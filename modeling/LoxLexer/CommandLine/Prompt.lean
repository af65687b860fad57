import LoxLexer.CommandLine.Listing
import LoxLexer.Text.Lines

/-!
# The prompt

A session reads the input line by line and answers each line for itself: with the listing of its
tokens, or with the message of its error. It ends with the input, with a read that fails, or with
an output that takes no more text.

* `respond` is the answer to what one read of the input gave; a line is lexed without its
  terminator.
* `Input.reads` is what an input gives, read by read: its lines and then its end or a failure.
* `Session.turn` is one turn: the prompt, a read and its answer.
-/

namespace LoxLexer.CommandLine

/-- What one read of the input gives. -/
inductive LineRead where
  /-- A line, with its terminator if it has one. -/
  | line (bytes : List UInt8)
  /-- The end of the input. -/
  | ended
  /-- No line, for a reason that the system gives. -/
  | failed (reason : String)

/-- An answer: its text for either output, and whether the session goes on. -/
structure Reply where
  out : String
  err : String
  goesOn : Bool

/-- What is written before each line is read. -/
def promptText : String := "lox > "

/-- What is written when the input is over. -/
def farewell : String := "\nLox is done! canceled by user via Ctrl+D\n"

/-- The answer to what a read of the input gave. -/
def respond : LineRead → Reply
  | .line bytes =>
    match lexBytes (stripTerminator bytes) with
    | .ok tokens => ⟨listing tokens, "", true⟩
    | .error error => ⟨"", error.message ++ "\n", true⟩
  | .ended => ⟨farewell, "", false⟩
  | .failed reason => ⟨farewell, "Could not read input: " ++ reason ++ "\n", false⟩

/-- A standard input: the bytes that it gives, and why reading fails after them, if it does. -/
structure Input where
  bytes : List UInt8
  failure : Option String

/-- The lines that the reads of an input give. A read that fails gives none, so the bytes behind the
last line feed are a line only if reading does not fail. -/
def Input.delivered (input : Input) : List (List UInt8) :=
  match input.failure with
  | none => lines input.bytes
  | some _ => (lines input.bytes).filter (·.getLast? = some 0x0A)

/-- What the reads of an input give, up to the one that ends the session. -/
def Input.reads (input : Input) : List LineRead :=
  input.delivered.map .line ++ [input.failure.elim .ended .failed]

/-- A session between two turns. -/
structure Session where
  stdout : Output
  stderr : String
  running : Bool

namespace Session

/-- The session before its first turn. -/
def start (stdout : Output) : Session :=
  ⟨stdout, "", true⟩

/-- One turn: the prompt, a read of the input and its answer. -/
def turn (session : Session) (read : LineRead) : Session :=
  if session.running then
    match session.stdout.write? promptText with
    | none => { session with running := false }
    | some stdout =>
      let reply := respond read
      let stderr := session.stderr ++ reply.err
      match stdout.write? reply.out with
      | none => ⟨stdout, stderr, false⟩
      | some stdout => ⟨stdout, stderr, reply.goesOn⟩
  else
    session

end Session

/-- The session over a whole input. It always ends well: an output that takes no text only ends it
sooner. -/
def prompt (input : Input) (stdout : Output) : Outcome :=
  let session := input.reads.foldl Session.turn (.start stdout)
  ⟨.success, session.stdout.text, session.stderr⟩

end LoxLexer.CommandLine
