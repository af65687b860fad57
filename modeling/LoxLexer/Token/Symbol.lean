/-!
# Symbols

A symbol is a kind of token with one spelling: punctuation, the operators and the line feed. Its
token needs no lexeme, since the kind says it all.

* `text_injective`: no two symbols share a spelling.
* `ofChar?` knows the symbols of one character, and `withEqual?` those that a `=` behind them turns
  into another symbol; `text_withEqual` says which one.
-/

namespace LoxLexer

/-- The kinds of tokens with one spelling. -/
inductive Symbol where
  | leftParen | rightParen | leftBrace | rightBrace
  | comma | dot | minus | plus | semicolon | slash | star
  | bang | bangEqual | equal | equalEqual | greater | greaterEqual | less | lessEqual
  | newline
deriving DecidableEq

namespace Symbol

/-- The spelling of a symbol. -/
def text : Symbol → String
  | leftParen => "("
  | rightParen => ")"
  | leftBrace => "\x7b"
  | rightBrace => "\x7d"
  | comma => ","
  | dot => "."
  | minus => "-"
  | plus => "+"
  | semicolon => ";"
  | slash => "/"
  | star => "*"
  | bang => "!"
  | bangEqual => "!="
  | equal => "="
  | equalEqual => "=="
  | greater => ">"
  | greaterEqual => ">="
  | less => "<"
  | lessEqual => "<="
  | newline => "\n"

/-- The name of a symbol in token listings. -/
def label : Symbol → String
  | leftParen => "left parentheses"
  | rightParen => "right parentheses"
  | leftBrace => "left brackets"
  | rightBrace => "right brackets"
  | comma => "comma"
  | dot => "dot"
  | minus => "minus"
  | plus => "plus"
  | semicolon => "semicolon"
  | slash => "slash"
  | star => "star"
  | bang => "not"
  | bangEqual => "not equal"
  | equal => "equal"
  | equalEqual => "equal equal"
  | greater => "greater"
  | greaterEqual => "greater equal"
  | less => "less"
  | lessEqual => "less equal"
  | newline => "new line"

theorem text_injective {a b : Symbol} (same : a.text = b.text) : a = b := by
  cases a <;> cases b <;> simp_all [text]

/-- The symbol that a single character spells. -/
def ofChar? : Char → Option Symbol
  | '(' => some leftParen
  | ')' => some rightParen
  | '\x7b' => some leftBrace
  | '\x7d' => some rightBrace
  | ',' => some comma
  | '.' => some dot
  | '-' => some minus
  | '+' => some plus
  | ';' => some semicolon
  | '/' => some slash
  | '*' => some star
  | '!' => some bang
  | '=' => some equal
  | '>' => some greater
  | '<' => some less
  | '\n' => some newline
  | _ => none

theorem ofChar?_eq_some_iff {c : Char} {symbol : Symbol} :
    ofChar? c = some symbol ↔ symbol.text.toList = [c] := by
  constructor
  · intro found
    simp only [ofChar?] at found
    split at found <;> simp at found <;> subst found <;> rfl
  · intro spelled
    cases symbol <;> simp [text] at spelled <;> subst spelled <;> rfl

/-- The symbol that a `=` behind this one makes of it. -/
def withEqual? : Symbol → Option Symbol
  | bang => some bangEqual
  | equal => some equalEqual
  | greater => some greaterEqual
  | less => some lessEqual
  | _ => none

theorem text_withEqual {symbol longer : Symbol} (found : symbol.withEqual? = some longer) :
    longer.text = symbol.text ++ "=" := by
  cases symbol <;> simp [withEqual?] at found <;> subst found <;> rfl

end Symbol

end LoxLexer
