import LoxLexer.Token.Basic
import LoxLexer.Unicode.Numeric

/-!
# The lexical grammar

Which texts are tokens, of which kind and with which lexeme, said without a lexer.

* `Lexical` has one rule for each shape of token. A word that spells a keyword is that keyword, and
  any other is an identifier.
* `Longest` is the rule for choosing between the beginnings of a text: the token that comes next is
  the longest beginning that is a token.
-/

namespace LoxLexer

/-- `Lexical text kind lexeme` says that `text` is a token of this kind with this lexeme. -/
inductive Lexical : List Char → TokenKind → List Char → Prop
  | symbol (symbol : Symbol) : Lexical symbol.text.toList (.symbol symbol) []
  | lineComment {body : List Char} : '\n' ∉ body →
    Lexical ('/' :: '/' :: body) .lineComment body
  | whitespace {run : List Char} : run ≠ [] → (∀ c ∈ run, c = ' ' ∨ c = '\t' ∨ c = '\r') →
    Lexical run .whitespace run
  | string {body : List Char} : '"' ∉ body →
    Lexical ('"' :: body ++ ['"']) .string body
  | whole {digits : List Char} : digits ≠ [] → (∀ c ∈ digits, c.isDigit) →
    Lexical digits .number digits
  | fraction {digits decimals : List Char} : digits ≠ [] → (∀ c ∈ digits, c.isDigit) →
    decimals ≠ [] → (∀ c ∈ decimals, c.isDigit) →
    Lexical (digits ++ '.' :: decimals) .number (digits ++ '.' :: decimals)
  | keyword (keyword : Keyword) :
    Lexical keyword.text.toList (.keyword keyword) keyword.text.toList
  | identifier {first : Char} {others : List Char} : Unicode.isAlphabetic first ∨ first = '_' →
    (∀ c ∈ others, Unicode.isAlphanumeric c ∨ c = '_') →
    (∀ keyword : Keyword, keyword.text.toList ≠ first :: others) →
    Lexical (first :: others) .identifier (first :: others)

/-- The longest beginning of `rest` that is a token is `text`, of this kind and with this lexeme. -/
structure Longest (rest text : List Char) (kind : TokenKind) (lexeme : List Char) : Prop where
  lexical : Lexical text kind lexeme
  begins : text <+: rest
  longest : ∀ {other kind' lexeme'}, Lexical other kind' lexeme' → other <+: rest →
    other.length ≤ text.length

/-- No beginning of `rest` is a token. -/
def NoToken (rest : List Char) : Prop :=
  ∀ text kind lexeme, Lexical text kind lexeme → ¬text <+: rest

end LoxLexer
