import LoxLexer.Proofs.Bounds

/-!
# The first illegal token and its cause

The error of a source is made after the fact, from the first character of an illegal lexeme. This
module shows that it always names the true cause: an illegal token that starts with a quote is a
string that nothing closes, so it is the last token, and any other one is a character that no
lexical rule starts with.

* `Stray` says of a character, test by test, that it starts no token; `stray_iff` shows that this is
  what opens nothing.
* `Reading.of_illegal`: the place and the cause of an illegal token of a reading.
* `Lexer.Between.afterScans` and `Lexer.scanned_eq`: where the scans of a source stand, and that
  they give the tokens of its reading.
* `lex_fails_at_first_illegal`: what `lex` makes of a source.
-/

namespace LoxLexer

/-! ## Characters that start no token -/

/-- A character that no lexical rule starts with and that is in no symbol. -/
structure Stray (c : Char) : Prop where
  ne_quote : c ≠ '"'
  not_blank : c ≠ ' ' ∧ c ≠ '\t' ∧ c ≠ '\r'
  /-- It is no line feed, no punctuation and in no operator. -/
  not_mem_symbol : ∀ symbol : Symbol, c ∉ symbol.text.toList
  not_isDigit : ¬c.isDigit
  not_isAlphabetic : ¬Unicode.isAlphabetic c
  ne_underscore : c ≠ '_'

/-- What each character of a symbol opens is a symbol itself. -/
theorem Opening.ofChar_ne_nothing_of_mem_symbol {c : Char} {symbol : Symbol}
    (mem : c ∈ symbol.text.toList) : ofChar c ≠ .nothing := by
  have opens : symbol.text.toList.all fun d => ofChar d ≠ .nothing := by
    cases symbol <;> decide
  exact of_decide_eq_true (List.all_eq_true.1 opens c mem)

theorem stray_iff {c : Char} : Stray c ↔ Opening.ofChar c = .nothing := by
  constructor
  · intro stray
    have admits := Opening.admits_ofChar c
    generalize Opening.ofChar c = opening at admits
    cases opening with
    | nothing => rfl
    | slash => exact absurd (admits ▸ List.mem_singleton_self c) (stray.not_mem_symbol .slash)
    | quote => exact absurd admits stray.ne_quote
    | blank =>
      rcases isBlank_iff.1 admits with space | tab | carriage
      · exact absurd space stray.not_blank.1
      · exact absurd tab stray.not_blank.2.1
      · exact absurd carriage stray.not_blank.2.2
    | digit => exact absurd admits stray.not_isDigit
    | word =>
      rcases isWordStart_iff.1 admits with letter | underscore
      · exact absurd letter stray.not_isAlphabetic
      · exact absurd underscore stray.ne_underscore
    | symbol s =>
      exact absurd (admits.2 ▸ List.mem_singleton_self c) (stray.not_mem_symbol s)
  · intro nothing
    refine ⟨Opening.ne_of_nothing nothing (by decide), ?_, ?_, ?_, ?_,
      Opening.ne_of_nothing nothing (by decide)⟩
    · exact ⟨Opening.ne_of_nothing nothing (by decide), Opening.ne_of_nothing nothing (by decide),
        Opening.ne_of_nothing nothing (by decide)⟩
    · intro symbol mem
      exact Opening.ofChar_ne_nothing_of_mem_symbol mem nothing
    · intro digit
      cases (Opening.ofChar_of_isDigit digit).symm.trans nothing
    · intro letter
      have first := isWordStart_iff.2 (.inl letter)
      cases (Opening.ofChar_of_isWordStart first).symm.trans nothing

/-! ## Illegal tokens of a reading -/

/-- The character that an illegal token starts with is the cause of its error. If it is a quote,
then nothing comes behind the token and nothing has closed it. -/
theorem Reading.of_illegal {position : Position} {whole : List Char} {first later : List Token}
    {token : Token} (reading : Reading position whole (first ++ token :: later))
    (illegal : token.kind = .illegal) :
    ∃ text c left, whole = text ++ c :: left ∧ ReadingBefore (c :: left) position text first ∧
      token.position = position.walk text ∧ token.lexeme.toList.head? = some c ∧
      (c = '"' ∧ '"' ∉ left ∧ later = [] ∧
          LexError.ofIllegal token = .unterminatedString token.position ∨
        Stray c ∧ LexError.ofIllegal token = .unexpectedCharacter c token.position) := by
  obtain ⟨text, piece, after, same, front, cut, placed, behind⟩ := reading.exists_cut
  obtain ⟨kind, lexeme, place⟩ := token
  obtain ⟨lexeme, rfl⟩ : ∃ chars, lexeme = String.ofList chars :=
    ⟨lexeme.toList, String.ofList_toList.symm⟩
  dsimp only at illegal cut placed behind ⊢
  subst illegal
  rw [String.toList_ofList] at cut ⊢
  cases cut with
  | token lexical _ => exact absurd rfl lexical.opening_ne_nothing
  | @unclosed body inside =>
    rw [List.append_nil] at same front
    exact ⟨text, '"', body, same, front, placed, rfl,
      .inl ⟨rfl, inside, behind.eq_nil, LexError.ofIllegal_unclosed body place⟩⟩
  | @stray c _ nothing =>
    exact ⟨text, c, after, same, front, placed, rfl,
      .inr ⟨stray_iff.2 nothing, LexError.ofIllegal_stray nothing place⟩⟩

/-! ## Scans of a reading -/

namespace Lexer

/-- As many scans as there are tokens in front of a place lead to this place. -/
theorem Between.afterScans {source : String} {count : Nat} {before text after : List Char}
    {tokens : List Token} (between : (Lexer.afterScans source count).Between before (text ++ after))
    (front : ReadingBefore after (Position.start.walk before) text tokens) :
    (Lexer.afterScans source (count + tokens.length)).Between (before ++ text) after := by
  generalize placed : Position.start.walk before = position at front
  induction front generalizing count before with
  | nil =>
    rw [List.append_nil]
    exact between
  | @cons _ piece lexeme text kind tokens cut _ ih =>
    rw [List.append_assoc] at between
    obtain ⟨lexer, next, between'⟩ := between.nextToken_of_cut cut
    have scan : Lexer.afterScans source (count + 1) = lexer := congrArg Prod.snd next
    rw [← scan] at between'
    have behind := ih between' (by rw [Position.walk_append, placed])
    rw [List.append_assoc, Nat.add_right_comm] at behind
    exact behind

theorem between_afterScans_length {source : String} {text after : List Char} {first : List Token}
    (whole : source.toList = text ++ after) (front : ReadingBefore after .start text first) :
    (afterScans source first.length).Between text after := by
  have start : (afterScans source 0).Between [] (text ++ after) := whole ▸ between_ofString source
  have behind := start.afterScans front
  rwa [Nat.zero_add] at behind

/-- The tokens of a source are what its scans give, one by one. -/
theorem scanned_eq {source : String} {first later : List Token} {token : Token}
    (reading : Reading .start source.toList (first ++ token :: later)) :
    scanned source first.length = token := by
  obtain ⟨text, piece, after, whole, front, cut, placed, -⟩ := reading.exists_cut
  obtain ⟨_, next, -⟩ := (between_afterScans_length whole front).nextToken_of_cut cut
  rw [scanned, next, ← placed, String.ofList_toList]

end Lexer

open Lexer (afterScans scanned)

/-- **A source is refused for its first illegal token, and for its true cause.** Without an illegal
token, `lex` gives all tokens. The first illegal one is what the scan behind the tokens before it
gives, it starts where this scan does, and the character there is the cause: a quote that no other
quote follows, so that no token comes behind it either, or a character that starts no token. Each
illegal token has a character, so none is ever made up: a character that is reported, `U+FFFD` as
any other, stands in the source at the place that is reported. -/
theorem lex_fails_at_first_illegal (source : String) :
    let tokens := (Lexer.ofString source).rest.1
    ((∀ token ∈ tokens, token.kind ≠ .illegal) → lex source = .ok tokens) ∧
    (∀ first token later, tokens = first ++ token :: later →
      (∀ other ∈ first, other.kind ≠ .illegal) → token.kind = .illegal →
      ∃ text c left, source.toList = text ++ c :: left ∧
        scanned source first.length = token ∧
        (afterScans source first.length).stream.consumed = Utf8.size text ∧
        token.position = Position.start.walk text ∧
        (c = '"' ∧ '"' ∉ left ∧ later = [] ∧
            lex source = .error (.unterminatedString token.position) ∨
          Stray c ∧ lex source = .error (.unexpectedCharacter c token.position))) ∧
    (∀ token ∈ tokens, token.kind = .illegal → token.lexeme ≠ "") ∧
    ∀ c position, lex source = .error (.unexpectedCharacter c position) →
      ∃ text left, source.toList = text ++ c :: left ∧ position = Position.start.walk text := by
  intro tokens
  have reading : Reading .start source.toList tokens := reading_iff_rest.2 rfl
  refine ⟨fun legal => lex_eq_ok_iff.2 ⟨reading, legal⟩, ?_, ?_, ?_⟩
  · intro first token later split legal illegal
    rw [split] at reading
    obtain ⟨text, c, left, whole, front, placed, -, cause⟩ := reading.of_illegal illegal
    have between := Lexer.between_afterScans_length whole front
    have refused : lex source = .error (.ofIllegal token) :=
      lex_eq_error_iff_exists_illegal.2 ⟨first, token, later, split, legal, illegal, rfl⟩
    refine ⟨text, c, left, whole, Lexer.scanned_eq reading, between.stream.consumed_eq, placed, ?_⟩
    rw [refused]
    rcases cause with ⟨rfl, unclosed, last, error⟩ | ⟨stray, error⟩
    · exact .inl ⟨rfl, unclosed, last, congrArg _ error⟩
    · exact .inr ⟨stray, congrArg _ error⟩
  · intro token mem illegal empty
    obtain ⟨first, later, split⟩ := List.append_of_mem mem
    rw [split] at reading
    obtain ⟨_, _, _, _, _, _, starts, _⟩ := reading.of_illegal illegal
    rw [empty] at starts
    cases starts
  · intro c position refused
    obtain ⟨text, _, d, left, whole, _, _, cause⟩ := lex_eq_error_iff.1 refused
    cases cause
    exact ⟨text, left, whole, rfl⟩

/-- A quote that nothing closes takes the stray character behind it. In front of the quote, the
stray character is reported instead. -/
theorem lex_fails_at_first_illegal_quote :
    (lex "é\n\"\uFFFD" = .error (.unterminatedString ⟨2, 1⟩) ∧
      ∃ text left, "é\n\"\uFFFD".toList = text ++ '"' :: left ∧ Utf8.size text = 3 ∧ '"' ∉ left) ∧
      (lex "é\n\uFFFD\"" = .error (.unexpectedCharacter '\uFFFD' ⟨2, 1⟩) ∧ Stray '\uFFFD') ∧
      lex "\"\uFFFD\"" = .ok [⟨.string, "\uFFFD", ⟨1, 1⟩⟩] := by
  refine ⟨?_, ?_, ?_⟩
  · have tokens : (Lexer.ofString "é\n\"\uFFFD").rest.1 =
        [⟨.identifier, "é", ⟨1, 1⟩⟩, ⟨.symbol .newline, "", ⟨1, 2⟩⟩] ++
          ⟨.illegal, "\"\uFFFD", ⟨2, 1⟩⟩ :: [] := by decide +kernel
    have refused : lex "é\n\"\uFFFD" = .error (.unterminatedString ⟨2, 1⟩) := by decide +kernel
    have consumed : (afterScans "é\n\"\uFFFD" 2).stream.consumed = 3 := by decide +kernel
    obtain ⟨text, c, left, whole, -, size, -, cause⟩ :=
      (lex_fails_at_first_illegal "é\n\"\uFFFD").2.1 _ _ _ tokens (by decide) rfl
    rcases cause with ⟨rfl, unclosed, -⟩ | ⟨-, other⟩
    · exact ⟨refused, text, left, whole, size.symm.trans consumed, unclosed⟩
    · cases refused.symm.trans other
  · have tokens : (Lexer.ofString "é\n\uFFFD\"").rest.1 =
        [⟨.identifier, "é", ⟨1, 1⟩⟩, ⟨.symbol .newline, "", ⟨1, 2⟩⟩] ++
          ⟨.illegal, "\uFFFD", ⟨2, 1⟩⟩ :: [⟨.illegal, "\"", ⟨2, 2⟩⟩] := by decide +kernel
    have refused : lex "é\n\uFFFD\"" = .error (.unexpectedCharacter '\uFFFD' ⟨2, 1⟩) := by
      decide +kernel
    obtain ⟨_, c, _, -, -, -, -, cause⟩ :=
      (lex_fails_at_first_illegal "é\n\uFFFD\"").2.1 _ _ _ tokens (by decide) rfl
    rcases cause with ⟨-, -, last, -⟩ | ⟨stray, other⟩
    · cases last
    · obtain ⟨rfl, -⟩ :=
        LexError.unexpectedCharacter.inj (Except.error.inj (refused.symm.trans other))
      exact ⟨refused, stray⟩
  · have tokens : (Lexer.ofString "\"\uFFFD\"").rest.1 = [⟨.string, "\uFFFD", ⟨1, 1⟩⟩] := by
      decide +kernel
    have legal := (lex_fails_at_first_illegal "\"\uFFFD\"").1
    rw [tokens] at legal
    exact legal (by decide)

end LoxLexer
