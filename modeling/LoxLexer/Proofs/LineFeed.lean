import LoxLexer.Proofs.Positions
import LoxLexer.Proofs.Resumption

/-!
# Sources joined by a line feed

No token in front of a line feed looks behind it, and what stands behind it starts at the first
column. So a source and the lines below it are lexed apart, and only the lines of the second source
are counted on.

* `Token.placeAfter_lineFeed`: behind whole lines, to place a token is to count lines on.
* `Reading.append_lineFeed`: the reading of two texts with a line feed between them.
* `lex_append_lineFeed`: the tokens or the error of two sources with a line feed between them.
-/

namespace LoxLexer

/-! ## Counting lines on -/

/-- The same column, some lines below. -/
def Position.addLines (lines : Nat) (position : Position) : Position :=
  { position with line := position.line + lines }

/-- The same token, some lines below. -/
def Token.addLines (lines : Nat) (token : Token) : Token :=
  { token with position := token.position.addLines lines }

namespace LexError

/-- The same error, some lines below. Bytes have no lines. -/
def addLines (lines : Nat) : LexError → LexError
  | unexpectedCharacter character position =>
    unexpectedCharacter character (position.addLines lines)
  | unterminatedString position => unterminatedString (position.addLines lines)
  | invalidEncoding offset => invalidEncoding offset

theorem ofIllegal_addLines (lines : Nat) (token : Token) :
    ofIllegal (token.addLines lines) = (ofIllegal token).addLines lines := by
  unfold ofIllegal Token.addLines
  cases token.lexeme.toList with
  | nil => rfl
  | cons c others => split <;> rfl

end LexError

theorem Position.after_lineStart (lines : Nat) (position : Position) :
    (⟨lines + 1, 1⟩ : Position).after position = position.addLines lines := by
  simp only [after, addLines]
  split
  · next first =>
    rw [mk.injEq]
    omega
  · rw [mk.injEq]
    omega

/-- Behind a line feed a line starts. -/
theorem Position.walk_start_lineFeed (text : List Char) :
    start.walk (text ++ ['\n']) = ⟨text.count '\n' + 1 + 1, 1⟩ := by
  rw [walk_append, walk_start]
  simp [behind, advance, Nat.add_comm]

/-- What is placed behind whole lines keeps its columns. -/
theorem Token.placeAfter_lineFeed (text : List Char) :
    Token.placeAfter (Position.start.walk (text ++ ['\n'])) =
      Token.addLines (text.count '\n' + 1) := by
  funext token
  unfold placeAfter addLines
  rw [Position.walk_start_lineFeed, Position.after_lineStart]

/-! ## Readings -/

/-- The token of a line feed. -/
def Token.newlineAt (position : Position) : Token :=
  ⟨.symbol .newline, "", position⟩

/-- A line feed is a token of its own. -/
theorem Cut.lineFeed (after : List Char) : Cut ['\n'] (.symbol .newline) [] after :=
  .token (.symbol .newline) ⟨nofun, nofun⟩

/-- Legal tokens stay in front of a line feed, and behind it any tokens do, up to their lines. -/
theorem Reading.append_lineFeed {text text' : List Char} {tokens tokens' : List Token}
    (reading : Reading .start text tokens) (legal : ∀ token ∈ tokens, token.kind ≠ .illegal)
    (reading' : Reading .start text' tokens') :
    Reading .start (text ++ '\n' :: text')
      (tokens ++ .newlineAt (Position.start.walk text) ::
        tokens'.map (Token.addLines (text.count '\n' + 1))) := by
  have front : ReadingBefore ('\n' :: text') .start text tokens :=
    reading.before.append legal (.lineFeed [] text')
  have behind := @Reading.placeAfter (text ++ ['\n']) [] text' tokens' reading'
  rw [List.append_nil, Token.placeAfter_lineFeed, Position.walk_append] at behind
  exact front.reading (.cons (Cut.lineFeed text') behind)

theorem legal_append_lineFeed {tokens tokens' : List Token} {position : Position} {lines : Nat}
    (legal : ∀ token ∈ tokens, token.kind ≠ .illegal)
    (legal' : ∀ token ∈ tokens', token.kind ≠ .illegal) :
    ∀ token ∈ tokens ++ .newlineAt position :: tokens'.map (Token.addLines lines),
      token.kind ≠ .illegal := by
  refine List.forall_mem_append.2 ⟨legal, List.forall_mem_cons.2 ⟨nofun, ?_⟩⟩
  exact List.forall_mem_map.2 legal'

/-! ## Sources -/

/-- **Sources are lexed line by line.** If a source can be lexed, then the text behind a line feed
after it is lexed like a source of its own, to its tokens or to its error, except that it starts
below the lines of the first source. -/
theorem lex_append_lineFeed {a b : String} {tokens : List Token} (lexed : lex a = .ok tokens) :
    (∀ tokens', lex b = .ok tokens' →
      lex (a ++ "\n" ++ b) =
        .ok (tokens ++ ⟨.symbol .newline, "", Position.start.walk a.toList⟩ ::
          tokens'.map (Token.addLines (a.toList.count '\n' + 1)))) ∧
    ∀ error, lex b = .error error →
      lex (a ++ "\n" ++ b) = .error (error.addLines (a.toList.count '\n' + 1)) := by
  obtain ⟨reading, legal⟩ := lex_eq_ok_iff.1 lexed
  have whole : (a ++ "\n" ++ b).toList = a.toList ++ '\n' :: b.toList := by
    simp [String.toList_append]
  constructor
  · intro tokens' lexed'
    obtain ⟨reading', legal'⟩ := lex_eq_ok_iff.1 lexed'
    refine lex_eq_ok_iff.2 ⟨?_, legal_append_lineFeed legal legal'⟩
    rw [whole]
    exact reading.append_lineFeed legal reading'
  · intro error refused
    obtain ⟨first, token, later, split, legal', illegal, rfl⟩ :=
      lex_eq_error_iff_exists_illegal.1 refused
    have reading' := reading.append_lineFeed legal (Lexer.between_ofString b).rest.1
    rw [← whole] at reading'
    obtain ⟨drawn, -⟩ := (Lexer.between_ofString (a ++ "\n" ++ b)).rest_of_reading reading'
    rw [split, List.map_append, List.map_cons, ← List.cons_append, ← List.append_assoc] at drawn
    exact lex_eq_error_iff_exists_illegal.2 ⟨_, token.addLines _, _, drawn,
      legal_append_lineFeed legal legal', illegal, (LexError.ofIllegal_addLines _ token).symm⟩

/-- A comment and a number with a dot end at the line feed. -/
theorem lex_append_lineFeed_comment_dot :
    lex ("x\n//" ++ "\n" ++ "1.") =
        .ok [⟨.identifier, "x", ⟨1, 1⟩⟩, ⟨.symbol .newline, "", ⟨1, 2⟩⟩,
          ⟨.lineComment, "", ⟨2, 1⟩⟩, ⟨.symbol .newline, "", ⟨2, 3⟩⟩,
          ⟨.number, "1", ⟨3, 1⟩⟩, ⟨.symbol .dot, "", ⟨3, 2⟩⟩] ∧
      lex ("1." ++ "\n" ++ "5 @") = .error (.unexpectedCharacter '@' ⟨2, 3⟩) := by
  have comment : lex "x\n//" = .ok [⟨.identifier, "x", ⟨1, 1⟩⟩,
      ⟨.symbol .newline, "", ⟨1, 2⟩⟩, ⟨.lineComment, "", ⟨2, 1⟩⟩] := by decide +kernel
  have dot : lex "1." = .ok [⟨.number, "1", ⟨1, 1⟩⟩, ⟨.symbol .dot, "", ⟨1, 2⟩⟩] := by
    decide +kernel
  have stray : lex "5 @" = .error (.unexpectedCharacter '@' ⟨1, 3⟩) := by decide +kernel
  exact ⟨(lex_append_lineFeed comment).1 _ dot, (lex_append_lineFeed dot).2 _ stray⟩

end LoxLexer
