import LoxLexer.Token.Basic
import LoxLexer.Unicode.Numeric

/-!
# Lists of tokens that a source can have

A list of tokens is the reading of a source if each token can stand alone (`Token.WellFormed`), none
of them runs on into the next (`Separated`), and each stands where the text before it ends
(`Placed`).
-/

namespace LoxLexer

/-- A run of digits, with a dot and another run of digits behind it or without. -/
def Numeral (text : List Char) : Prop :=
  ∃ digits ≠ [], (∀ c ∈ digits, c.isDigit) ∧
    (text = digits ∨
      ∃ decimals ≠ [], (∀ c ∈ decimals, c.isDigit) ∧ text = digits ++ '.' :: decimals)

/-- A word that is no keyword. -/
def PlainWord (text : List Char) : Prop :=
  ∃ first others, text = first :: others ∧ (Unicode.isAlphabetic first ∨ first = '_') ∧
    (∀ c ∈ others, Unicode.isAlphanumeric c ∨ c = '_') ∧
    ∀ keyword : Keyword, text ≠ keyword.text.toList

/-- The lexeme is one that tokens of the kind have. -/
def Token.WellFormed (token : Token) : Prop :=
  match token.kind with
  | .illegal | .eof => False
  | .symbol _ => token.lexeme = ""
  | .lineComment => '\n' ∉ token.lexeme.toList
  | .whitespace =>
    token.lexeme ≠ "" ∧ ∀ c ∈ token.lexeme.toList, c = ' ' ∨ c = '\t' ∨ c = '\r'
  | .string => '"' ∉ token.lexeme.toList
  | .number => Numeral token.lexeme.toList
  | .keyword keyword => token.lexeme = keyword.text
  | .identifier => PlainWord token.lexeme.toList

namespace TokenKind

/-- The kinds of words. -/
def isWord : TokenKind → Bool
  | .identifier | .keyword _ => true
  | _ => false

/-- Whether a token of the first kind runs on into a token of the second kind behind it: words and
numbers take digits and words take letters, blanks join, a comment takes all that is no line feed,
and two symbols can be the beginning of another symbol or of a comment. -/
def joins : TokenKind → TokenKind → Bool
  | .whitespace, next => next = .whitespace
  | .identifier, next | .keyword _, next => next.isWord || next = .number
  | .number, next => next = .number
  | .lineComment, next => next ≠ .symbol .newline
  | .symbol .slash, next => next = .symbol .slash || next = .lineComment
  | .symbol s, next =>
    s.withEqual?.isSome && (next = .symbol .equal || next = .symbol .equalEqual)
  | _, _ => false

end TokenKind

/-- Whether a token takes a dot and a number behind it for its fraction. -/
def Token.takesFraction (token : Token) : Bool :=
  token.kind = .number && !token.lexeme.toList.contains '.'

/-- No token of the list runs on into those behind it. -/
def Separated : List Token → Prop
  | first :: second :: tokens =>
    first.kind.joins second.kind = false ∧
      ¬(first.takesFraction ∧ second.kind = .symbol .dot ∧
        tokens.head?.map Token.kind = some .number) ∧
      Separated (second :: tokens)
  | _ => True

/-- Each token stands where the text of those before it ends, the first one at `position`. -/
def Placed : Position → List Token → Prop
  | _, [] => True
  | position, token :: tokens =>
    token.position = position ∧ Placed (position.walk token.spelling.toList) tokens

end LoxLexer
