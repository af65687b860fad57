import LoxLexer.Proofs.ReadingBefore

/-!
# Why a source is refused

A source is refused at its first illegal token. What makes this token illegal is one character: a
quote without another one behind it, or a character that starts no token.

* `lex_eq_error_iff_exists_illegal`: the error is the one of the first illegal token.
* `Reading.exists_refused`: an illegal token of a reading stands where the text is `Refused`.
* `lex_eq_error_iff`: a source is refused exactly if legal tokens lead to such a place.
-/

namespace LoxLexer

/-- The text that starts with `c` at a position and goes on with `after` starts with no token, for
the cause that the error names. -/
inductive Refused (position : Position) : Char → List Char → LexError → Prop
  | unclosed {after : List Char} :
    '"' ∉ after → Refused position '"' after (.unterminatedString position)
  | stray {c : Char} {after : List Char} :
    Opening.ofChar c = .nothing → Refused position c after (.unexpectedCharacter c position)

theorem refused_unterminatedString_iff {position position' : Position} {c : Char}
    {after : List Char} :
    Refused position c after (.unterminatedString position') ↔
      c = '"' ∧ '"' ∉ after ∧ position' = position := by
  constructor
  · intro refused
    cases refused with
    | unclosed inside => exact ⟨rfl, inside, rfl⟩
  · intro open_
    obtain ⟨rfl, inside, rfl⟩ := open_
    exact .unclosed inside

/-! ## The cause of an illegal token -/

/-- A character that starts no token is none of those that do. -/
theorem Opening.ne_of_nothing {c d : Char} (nothing : ofChar c = .nothing)
    (opens : ofChar d ≠ .nothing) : c ≠ d := by
  intro same
  rw [same] at nothing
  exact opens nothing

theorem LexError.ofIllegal_unclosed (body : List Char) (position : Position) :
    ofIllegal ⟨.illegal, String.ofList ('"' :: body), position⟩ = .unterminatedString position := by
  simp only [ofIllegal, String.toList_ofList]

theorem LexError.ofIllegal_stray {c : Char} (nothing : Opening.ofChar c = .nothing)
    (position : Position) :
    ofIllegal ⟨.illegal, String.ofList [c], position⟩ = .unexpectedCharacter c position := by
  have quote : c ≠ '"' := Opening.ne_of_nothing nothing (by decide)
  unfold ofIllegal
  split
  · next body same =>
    rw [String.toList_ofList] at same
    exact absurd (List.cons.inj same).1 quote
  · next character others _ same =>
    rw [String.toList_ofList] at same
    cases same
    rfl
  · next none => simp at none

/-- The error of an illegal token names the cause at the first character of its text. -/
theorem Cut.exists_refused {text lexeme after : List Char}
    (cut : Cut text .illegal lexeme after) (position : Position) :
    ∃ c others, text ++ after = c :: others ∧
      Refused position c others (.ofIllegal ⟨.illegal, String.ofList lexeme, position⟩) := by
  cases cut with
  | token lexical _ => exact absurd rfl lexical.opening_ne_nothing
  | @unclosed body inside =>
    rw [LexError.ofIllegal_unclosed, List.append_nil]
    exact ⟨'"', body, rfl, .unclosed inside⟩
  | @stray c after nothing =>
    rw [LexError.ofIllegal_stray nothing]
    exact ⟨c, after, rfl, .stray nothing⟩

/-- An illegal token is cut off where the text starts with no token. -/
theorem Refused.exists_cut {position : Position} {c : Char} {after : List Char} {error : LexError}
    (refused : Refused position c after error) :
    ∃ text left, c :: after = text ++ left ∧ Cut text .illegal text left ∧
      LexError.ofIllegal ⟨.illegal, String.ofList text, position⟩ = error := by
  cases refused with
  | unclosed inside =>
    exact ⟨'"' :: after, [], (List.append_nil _).symm, .unclosed inside,
      LexError.ofIllegal_unclosed after position⟩
  | stray nothing =>
    exact ⟨[c], after, rfl, .stray nothing, LexError.ofIllegal_stray nothing position⟩

/-- In front of an illegal token of a reading stands the text of the tokens before it, and behind
that text no token starts. -/
theorem Reading.exists_refused {position : Position} {whole : List Char} {first later : List Token}
    {token : Token} (reading : Reading position whole (first ++ token :: later))
    (illegal : token.kind = .illegal) :
    ∃ text c after, whole = text ++ c :: after ∧ ReadingBefore (c :: after) position text first ∧
      Refused (position.walk text) c after (.ofIllegal token) := by
  obtain ⟨text, after, same, front, behind⟩ := reading.exists_before
  cases behind with
  | cons cut _ =>
    subst illegal
    obtain ⟨c, others, starts, refused⟩ := cut.exists_refused (position.walk text)
    rw [starts] at same front
    exact ⟨text, c, others, same, front, refused⟩

/-! ## The error of a source -/

/-- The error of a source is the one of the first illegal token in its reading. -/
theorem lex_eq_error_iff_exists_illegal {source : String} {error : LexError} :
    lex source = .error error ↔
      ∃ first token later, (Lexer.ofString source).rest.1 = first ++ token :: later ∧
        (∀ other ∈ first, other.kind ≠ .illegal) ∧ token.kind = .illegal ∧
        error = .ofIllegal token := by
  rw [lex_eq]
  constructor
  · intro refused
    split at refused
    · next token found =>
      obtain ⟨illegal, first, later, split, legal⟩ := List.find?_eq_some_iff_append.1 found
      cases refused
      exact ⟨first, token, later, split, by simpa using legal, by simpa using illegal, rfl⟩
    · cases refused
  · intro found
    obtain ⟨first, token, later, split, legal, illegal, rfl⟩ := found
    have found : (Lexer.ofString source).rest.1.find? (·.kind = .illegal) = some token :=
      List.find?_eq_some_iff_append.2
        ⟨by simpa using illegal, first, later, split, by simpa using legal⟩
    rw [found]

/-- **A source is refused where no token starts.** Legal tokens lead there from the start of the
source, and the error tells the place and the cause. -/
theorem lex_eq_error_iff {source : String} {error : LexError} :
    lex source = .error error ↔
      ∃ text tokens c after, source.toList = text ++ c :: after ∧
        ReadingBefore (c :: after) .start text tokens ∧
        (∀ token ∈ tokens, token.kind ≠ .illegal) ∧
        Refused (Position.start.walk text) c after error := by
  have reading := (Lexer.between_ofString source).rest.1
  rw [lex_eq_error_iff_exists_illegal]
  constructor
  · intro found
    obtain ⟨first, token, later, split, legal, illegal, rfl⟩ := found
    rw [split] at reading
    obtain ⟨text, c, after, same, front, refused⟩ := reading.exists_refused illegal
    exact ⟨text, first, c, after, same, front, legal, refused⟩
  · intro found
    obtain ⟨text, first, c, after, same, front, legal, refused⟩ := found
    obtain ⟨lexeme, left, starts, cut, rfl⟩ := refused.exists_cut
    obtain ⟨later, behind⟩ := exists_reading ((Position.start.walk text).walk lexeme) left
    have whole := front.reading (starts ▸ Reading.cons cut behind)
    rw [← same] at whole
    exact ⟨first, _, later, whole.unique reading, legal, rfl, rfl⟩

end LoxLexer
