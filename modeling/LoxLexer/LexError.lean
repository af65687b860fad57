import LoxLexer.Token.Basic

/-!
# Lexical errors

A source is refused for one of three causes. `ofIllegal` finds the cause from an illegal token: a
quote alone always opens a string, so an illegal token that starts with one is a string without an
end; any other is a character that starts no token.
-/

namespace LoxLexer

/-- Why a source is refused. -/
inductive LexError where
  /-- A character that starts no token. -/
  | unexpectedCharacter (character : Char) (position : Position)
  /-- A string, opened at a position, that the source does not close. -/
  | unterminatedString (position : Position)
  /-- Bytes that are no UTF-8 from an offset on. -/
  | invalidEncoding (offset : Nat)
deriving DecidableEq

namespace LexError

/-- The cause that an illegal token has. Without a lexeme the character is unknown. -/
def ofIllegal (token : Token) : LexError :=
  match token.lexeme.toList with
  | '"' :: _ => unterminatedString token.position
  | character :: _ => unexpectedCharacter character token.position
  | [] => unexpectedCharacter '\uFFFD' token.position

/-- The words that name a place of the source in a message. -/
def place (position : Position) : String :=
  "[line " ++ toString position.line ++ ":" ++ toString position.column ++ "]"

/-- The message for the user. -/
def message : LexError → String
  | unexpectedCharacter character position =>
    place position ++ " Error: Unexpected character '" ++ String.singleton character ++ "'."
  | unterminatedString position => place position ++ " Error: Unterminated string."
  | invalidEncoding offset => "Error: Invalid UTF-8 at byte " ++ toString offset ++ "."

end LexError

end LoxLexer
