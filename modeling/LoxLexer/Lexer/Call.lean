import LoxLexer.Lexer.Basic

/-!
# Calls on a lexer

The three ways to draw tokens from a lexer, as data: a sequence of calls in any mixture has one
sequence of answers.
-/

namespace LoxLexer

namespace Lexer

/-- A way to draw tokens. -/
inductive Call where
  /-- The next token, the end of the source included. -/
  | token
  /-- The next token before the end of the source. -/
  | next
  /-- All tokens before the end of the source. -/
  | rest
deriving DecidableEq

/-- What a call gives. -/
inductive Answer where
  | token (token : Token)
  | next (token : Option Token)
  | rest (tokens : List Token)
deriving DecidableEq

/-- Makes a call. -/
def answer (lexer : Lexer) : Call → Answer × Lexer
  | .token => let (token, lexer) := lexer.nextToken; (.token token, lexer)
  | .next => let (token, lexer) := lexer.next?; (.next token, lexer)
  | .rest => let (tokens, lexer) := lexer.rest; (.rest tokens, lexer)

/-- Makes the calls in order. -/
def answers (lexer : Lexer) : List Call → List Answer × Lexer
  | [] => ([], lexer)
  | call :: calls =>
    let (first, lexer) := lexer.answer call
    let (others, lexer) := lexer.answers calls
    (first :: others, lexer)

end Lexer

end LoxLexer
