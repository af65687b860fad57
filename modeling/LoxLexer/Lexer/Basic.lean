import LoxLexer.CharStream.Basic
import LoxLexer.Lexer.Rule

/-!
# The lexer

A lexer holds a source and the stream of its characters. `nextToken` takes the characters of one
token off the stream: the first character chooses the rule, and `recognize` takes what belongs to it
with at most two characters of lookahead. The lexeme is cut out of the source.

* `next?` stops at the end of the source, and `rest` collects all tokens up to there, illegal ones
  among them (`rest_of_some`, `rest_of_none`).
* `remaining_nextToken_lt` says that each token before the end takes a character, which bounds every
  run of the lexer.
-/

namespace LoxLexer

namespace CharStream

/-! ## Recognizing a token -/

/-- Skips a fraction, a dot with a digit behind it and all digits that follow, if one comes next. -/
def skipFraction (stream : CharStream) : CharStream :=
  let (next, stream) := stream.peek?
  if next = some '.' then
    let (second, stream) := stream.peekSecond?
    if second.any Char.isDigit then stream.skip.skipWhile Char.isDigit else stream
  else
    stream

/-- Takes a `=` behind a symbol if the two are a symbol together, and gives the symbol taken. -/
def lengthen (symbol : Symbol) (stream : CharStream) : Symbol × CharStream :=
  match symbol.withEqual? with
  | none => (symbol, stream)
  | some longer =>
    match stream.nextIf '=' with
    | (true, stream) => (longer, stream)
    | (false, stream) => (symbol, stream)

/-- Takes the characters that belong to a token behind its first one, and gives the rule that
matches them all, if there is one. -/
def recognize (first : Char) (stream : CharStream) : Option Rule × CharStream :=
  if first = '/' then
    match stream.nextIf '/' with
    | (true, stream) => (some .lineComment, stream.skipWhile (· ≠ '\n'))
    | (false, stream) => (some (.symbol .slash), stream)
  else if first = '"' then
    let stream := stream.skipWhile (· ≠ '"')
    if stream.atEnd then (none, stream) else (some .string, stream.skip)
  else if isBlank first then
    (some .whitespace, stream.skipWhile isBlank)
  else if first.isDigit then
    (some .number, (stream.skipWhile Char.isDigit).skipFraction)
  else if isWordStart first then
    (some .word, stream.skipWhile isWordPart)
  else
    match Symbol.ofChar? first with
    | none => (none, stream)
    | some symbol =>
      let (symbol, stream) := stream.lengthen symbol
      (some (.symbol symbol), stream)

theorem remaining_skipFraction_le (stream : CharStream) :
    stream.skipFraction.remaining ≤ stream.remaining := by
  simp only [skipFraction]
  rw [← remaining_peek? stream]
  split
  · rw [← remaining_peekSecond? stream.peek?.2]
    split
    · exact Nat.le_trans (remaining_skipWhile_le ..) (remaining_skip_le _)
    · exact Nat.le_refl _
  · exact Nat.le_refl _

theorem remaining_lengthen_le (symbol : Symbol) (stream : CharStream) :
    (stream.lengthen symbol).2.remaining ≤ stream.remaining := by
  have equal := remaining_nextIf_le stream '='
  unfold lengthen
  split
  · exact Nat.le_refl _
  · split
    · next next => simpa [next] using equal
    · next next => simpa [next] using equal

theorem remaining_recognize_le (first : Char) (stream : CharStream) :
    (stream.recognize first).2.remaining ≤ stream.remaining := by
  have slash := remaining_nextIf_le stream '/'
  have skipped := remaining_skipWhile_le stream
  unfold recognize
  split
  · split
    · next next => exact Nat.le_trans (remaining_skipWhile_le ..) (by simpa [next] using slash)
    · next next => simpa [next] using slash
  split
  · simp only
    split
    · exact skipped _
    · exact Nat.le_trans (remaining_skip_le _) (skipped _)
  split
  · exact skipped _
  split
  · exact Nat.le_trans (remaining_skipFraction_le _) (skipped _)
  split
  · exact skipped _
  split
  · exact Nat.le_refl _
  · exact remaining_lengthen_le ..

end CharStream

/-! ## Drawing tokens -/

/-- A source and the stream of its characters. -/
structure Lexer where
  source : String
  stream : CharStream

namespace Lexer

/-- The lexer at the start of a source. -/
def ofString (source : String) : Lexer :=
  ⟨source, .ofString source⟩

/-- The next token, which at the end of the source is `eof`. -/
def nextToken (lexer : Lexer) : Token × Lexer :=
  match lexer.stream.next? with
  | none => (⟨.eof, "", lexer.stream.position⟩, lexer)
  | some (first, stream) =>
    let (rule, stream) := stream.recognize first
    let found := Rule.token? rule lexer.source lexer.stream.consumed stream.consumed
      lexer.stream.position
    (found.getD ⟨.illegal, "", lexer.stream.position⟩, { lexer with stream })

/-- The next token before the end of the source. -/
def next? (lexer : Lexer) : Option Token × Lexer :=
  let (token, lexer) := lexer.nextToken
  (if token.kind = .eof then none else some token, lexer)

/-- How many characters are still to be taken. -/
def remaining (lexer : Lexer) : Nat :=
  lexer.stream.remaining

theorem remaining_nextToken_lt {lexer : Lexer} (more : lexer.nextToken.1.kind ≠ .eof) :
    lexer.nextToken.2.remaining < lexer.remaining := by
  unfold nextToken at more ⊢
  split at more
  · simp at more
  · next first stream given =>
    have shorter := CharStream.remaining_next? given
    have shrinking := CharStream.remaining_recognize_le first stream
    simp only [remaining]
    omega

theorem remaining_next?_lt {lexer rest : Lexer} {token : Token}
    (drawn : lexer.next? = (some token, rest)) : rest.remaining < lexer.remaining := by
  simp only [next?, Prod.mk.injEq, Option.ite_none_left_eq_some] at drawn
  obtain ⟨⟨more, -⟩, rfl⟩ := drawn
  exact remaining_nextToken_lt more

/-! ## All tokens -/

/-- Draws all tokens before the end of the source, behind those drawn before, last one first. -/
def collect (lexer : Lexer) (drawn : List Token) : List Token × Lexer :=
  match _ : lexer.next? with
  | (some token, rest) => rest.collect (token :: drawn)
  | (none, rest) => (drawn.reverse, rest)
termination_by lexer.remaining
decreasing_by exact remaining_next?_lt ‹_›

/-- All tokens before the end of the source. -/
def rest (lexer : Lexer) : List Token × Lexer :=
  lexer.collect []

theorem collect_of_some {lexer lexer' : Lexer} {token : Token} (drawn : List Token)
    (next : lexer.next? = (some token, lexer')) :
    lexer.collect drawn = lexer'.collect (token :: drawn) := by
  rw [collect]
  split
  · next next' => cases next.symm.trans next'; rfl
  · next next' => cases next.symm.trans next'

theorem collect_of_none {lexer lexer' : Lexer} (drawn : List Token)
    (next : lexer.next? = (none, lexer')) : lexer.collect drawn = (drawn.reverse, lexer') := by
  rw [collect]
  split
  · next next' => cases next.symm.trans next'
  · next next' => cases next.symm.trans next'; rfl

/-- Tokens drawn before stay in front of those that follow. -/
theorem collect_eq (lexer : Lexer) (drawn : List Token) :
    lexer.collect drawn = (drawn.reverse ++ lexer.rest.1, lexer.rest.2) := by
  match next : lexer.next? with
  | (some token, lexer') =>
    rw [rest, collect_of_some drawn next, collect_of_some [] next,
      collect_eq lexer' (token :: drawn), collect_eq lexer' [token]]
    simp
  | (none, lexer') =>
    rw [rest, collect_of_none drawn next, collect_of_none [] next]
    simp
termination_by lexer.remaining
decreasing_by all_goals exact remaining_next?_lt next

theorem rest_of_some {lexer lexer' : Lexer} {token : Token}
    (next : lexer.next? = (some token, lexer')) :
    lexer.rest = (token :: lexer'.rest.1, lexer'.rest.2) := by
  rw [rest, collect_of_some [] next, collect_eq]
  rfl

theorem rest_of_none {lexer lexer' : Lexer} (next : lexer.next? = (none, lexer')) :
    lexer.rest = ([], lexer') :=
  collect_of_none [] next

end Lexer

end LoxLexer
