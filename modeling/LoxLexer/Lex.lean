import LoxLexer.LexError
import LoxLexer.Lexer.Basic
import LoxLexer.Log
import LoxLexer.Text.Utf8

/-!
# Lexing a whole source

`lex` gives all tokens of a source, or the error of its first illegal token and no tokens at all.
`lexLogged` is the same run with the log that it leaves at a level, and `lexBytes` lexes a source
that comes as bytes.
-/

namespace LoxLexer

/-! ## Results -/

/-- Results are compared by their values. -/
instance decidableEqResult {ε α : Type} [DecidableEq ε] [DecidableEq α] :
    DecidableEq (Except ε α)
  | .ok a, .ok b => decidable_of_iff (a = b) ⟨congrArg Except.ok, Except.ok.inj⟩
  | .error a, .error b => decidable_of_iff (a = b) ⟨congrArg Except.error, Except.error.inj⟩
  | .ok _, .error _ | .error _, .ok _ => isFalse nofun

/-! ## Runs -/

/-- Appends the tokens of a lexer to those drawn before, last one first, up to the end of the source
or the first illegal token, and reports each step. -/
def Lexer.run (lexer : Lexer) (drawn : List Token) (log : Log) :
    Except LexError (List Token) × Log :=
  match _ : lexer.next? with
  | (some token, rest) =>
    if token.kind = .illegal then
      let error := LexError.ofIllegal token
      (.error error, log.report (.illegalToken token.position error.message))
    else
      rest.run (token :: drawn) (log.report (.token token.listing))
  | (none, _) => (.ok drawn.reverse, log.report (.scanned drawn.length))
termination_by lexer.remaining
decreasing_by exact Lexer.remaining_next?_lt ‹_›

/-- The tokens of a source or the error of its first illegal token, with the log of the run. -/
def lexLogged (level : Log.Level) (source : String) :
    Except LexError (List Token) × List Log.Entry :=
  let log := ((Log.atLevel level).report (.opened source.utf8ByteSize)).report .entered
  let (result, log) := (Lexer.ofString source).run [] log
  (result, (log.report .exited).toList)

/-- The tokens of a source, or the error of its first illegal token. -/
def lex (source : String) : Except LexError (List Token) :=
  (lexLogged .off source).1

/-- The tokens of a source that comes as bytes, which have to be UTF-8 from first to last. -/
def lexBytes (bytes : List UInt8) : Except LexError (List Token) :=
  match Utf8.decode bytes with
  | .ok source => lex source
  | .error offset => .error (.invalidEncoding offset)

end LoxLexer
