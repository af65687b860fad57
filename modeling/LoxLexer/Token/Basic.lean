import LoxLexer.Position
import LoxLexer.Token.Keyword
import LoxLexer.Token.Symbol

/-!
# Tokens

A token is a kind, a lexeme and the position of its first character. The lexeme is what the kind
leaves open: nothing for a symbol, the text behind the slashes of a comment, the text between the
quotes of a string, and the whole text of any other token.

* `spelling` puts back what the lexeme leaves out.
* `listing` is the line that a token listing shows for a token; it leaves out the column.
-/

namespace LoxLexer

/-- The kinds of tokens. -/
inductive TokenKind where
  /-- Text that no lexical rule matches. -/
  | illegal
  /-- The end of the source. -/
  | eof
  | lineComment
  | whitespace
  | symbol (symbol : Symbol)
  | identifier
  | string
  | number
  | keyword (keyword : Keyword)
deriving DecidableEq

/-- The name of a kind in token listings. -/
def TokenKind.label : TokenKind → String
  | .illegal => "illegal"
  | .eof => "EOF"
  | .lineComment => "line comment"
  | .whitespace => "whitespace"
  | .symbol s => s.label
  | .identifier => "identifier"
  | .string => "string"
  | .number => "number"
  | .keyword k => k.label

/-- A token of a source. -/
structure Token where
  kind : TokenKind
  lexeme : String
  /-- Where its first character stands. -/
  position : Position
deriving DecidableEq

namespace Token

/-- The text that the source has for a token. -/
def spelling (token : Token) : String :=
  match token.kind with
  | .symbol s => s.text
  | .lineComment => "//" ++ token.lexeme
  | .string => "\"" ++ token.lexeme ++ "\""
  | _ => token.lexeme

/-- The line that a listing shows for a token. -/
def listing (token : Token) : String :=
  "Token(" ++ token.kind.label ++ ", content: " ++ token.lexeme ++
    ", line: " ++ toString token.position.line ++ ")"

end Token

end LoxLexer
