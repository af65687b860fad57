import LoxLexer.CommandLine.Outcome
import LoxLexer.Lex

/-!
# Listing the tokens of a file

All or nothing: either the tokens of the whole file are listed, one a line, or a message says why
not and the output stays empty.
-/

namespace LoxLexer.CommandLine

/-- The listing lines of tokens, each ended by a line feed. -/
def listing (tokens : List Token) : String :=
  String.join (tokens.map fun token => token.listing ++ "\n")

/-- Lists the tokens of a file, of which nothing is known if it could not be read. -/
def listFile (content : Option (List UInt8)) (stdout : Output) : Outcome :=
  match content with
  | none => ⟨.ioFailure, stdout.text, "Could not read file.\n"⟩
  | some bytes =>
    match lexBytes bytes with
    | .error error => ⟨.badData, stdout.text, error.message ++ "\n"⟩
    | .ok tokens =>
      match stdout.write? (listing tokens) with
      | none => ⟨.ioFailure, stdout.text, ""⟩
      | some stdout => ⟨.success, stdout.text, ""⟩

end LoxLexer.CommandLine
