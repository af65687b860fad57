import LoxLexer.CharClass
import LoxLexer.Text.Slice
import LoxLexer.Token.Basic

/-!
# What a lexical rule makes of its text

A lexical rule says which texts are tokens of one shape. Once the text of a token is known, its rule
gives the kind and the lexeme; `token?` cuts both out of the source by byte offsets and fails if an
offset does not stand on a character boundary or a delimiter is not there to be dropped.
-/

namespace LoxLexer

/-- The lexical rules. -/
inductive Rule where
  /-- The spelling of a symbol. -/
  | symbol (symbol : Symbol)
  /-- Two slashes and what follows them in the line. -/
  | lineComment
  /-- A run of blanks. -/
  | whitespace
  /-- A quote and what follows it up to the next quote, with that quote. -/
  | string
  /-- A run of digits, with a dot and another run of digits behind it or without. -/
  | number
  /-- A run of word characters, of which the first can start a word. -/
  | word
deriving DecidableEq

namespace Rule

/-- The kind of the token with this text. -/
def kind : Rule → String → TokenKind
  | symbol s, _ => .symbol s
  | lineComment, _ => .lineComment
  | whitespace, _ => .whitespace
  | string, _ => .string
  | number, _ => .number
  | word, text => (Keyword.ofText? text).elim .identifier .keyword

/-- The lexeme of the token with this text: a symbol leaves none, and delimiters are dropped. -/
def lexeme? : Rule → String → Option String
  | symbol _, _ => some ""
  | lineComment, text => slice? text 2 text.utf8ByteSize
  | string, text => slice? text 1 (text.utf8ByteSize - 1)
  | whitespace, text | number, text | word, text => some text

/-- The token with this text, illegal if no rule matches. -/
def tokenOfText? (rule : Option Rule) (text : String) (position : Position) : Option Token :=
  match rule with
  | some rule => (rule.lexeme? text).map fun lexeme => ⟨rule.kind text, lexeme, position⟩
  | none => some ⟨.illegal, text, position⟩

/-- The token whose text the source has between two byte offsets, illegal if no rule matches. -/
def token? (rule : Option Rule) (source : String) (start stop : Nat) (position : Position) :
    Option Token := do
  let text ← slice? source start stop
  tokenOfText? rule text position

end Rule

end LoxLexer
