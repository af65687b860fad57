import LoxLexer.Proofs.Lossless

/-!
# Printing tokens and lexing them again

A list of tokens is what some source is lexed to if and only if each token can stand alone, none of
them runs on into those behind it, and each stands where the text before it ends. Lexing what such
a list spells gives the list back.

* `Token.wellFormed_iff`: a token can stand alone if its spelling is a token of the grammar.
* `TokenKind.ends_append_iff`: where a token ends is a matter of the kinds behind it.
* `separated_cons_iff`: no token of a list runs on exactly if each ends before the text behind it.
* `reading_iff`: the legal readings are the lists that satisfy the three conditions.
-/

namespace LoxLexer

/-- The text that a list of tokens spells. -/
def printed (tokens : List Token) : List Char :=
  tokens.flatMap (·.spelling.toList)

@[simp] theorem printed_cons (token : Token) (tokens : List Token) :
    printed (token :: tokens) = token.spelling.toList ++ printed tokens := rfl

@[simp] theorem printed_append (first second : List Token) :
    printed (first ++ second) = printed first ++ printed second :=
  List.flatMap_append

/-! ## Well-formed tokens -/

theorem Lexical.wellFormed {text lexeme : List Char} {kind : TokenKind}
    (lexical : Lexical text kind lexeme) (position : Position) :
    (Token.mk kind (String.ofList lexeme) position).WellFormed := by
  cases lexical with
  | symbol s => rfl
  | lineComment inside | string inside => simpa [Token.WellFormed] using inside
  | whitespace ne blanks => simpa [Token.WellFormed] using ⟨ne, blanks⟩
  | whole ne digits => exact ⟨_, ne, digits, .inl String.toList_ofList⟩
  | fraction ne digits ne' decimals =>
    exact ⟨_, ne, digits, .inr ⟨_, ne', decimals, String.toList_ofList⟩⟩
  | keyword keyword => exact String.ofList_toList
  | @identifier first others start parts plain =>
    exact ⟨first, others, String.toList_ofList, start, parts,
      fun keyword same => plain keyword (by rw [← same, String.toList_ofList])⟩

/-- The well-formed tokens are those whose spelling is a token of the grammar. -/
theorem Token.wellFormed_iff {token : Token} :
    token.WellFormed ↔ Lexical token.spelling.toList token.kind token.lexeme.toList := by
  constructor
  · intro wellFormed
    rcases token with ⟨kind, lexeme, position⟩
    cases kind with
    | illegal | eof => exact wellFormed.elim
    | symbol s =>
      obtain rfl : lexeme = "" := wellFormed
      exact .symbol s
    | lineComment => simpa [Token.spelling] using Lexical.lineComment wellFormed
    | string => simpa [Token.spelling] using Lexical.string wellFormed
    | whitespace => exact .whitespace (by simpa [Token.spelling] using wellFormed.1) wellFormed.2
    | number =>
      rcases wellFormed with ⟨digits, ne, passes, same | ⟨decimals, ne', passes', same⟩⟩
      · simpa [Token.spelling, same] using Lexical.whole ne passes
      · simpa [Token.spelling, same] using Lexical.fraction ne passes ne' passes'
    | keyword keyword =>
      obtain rfl : lexeme = keyword.text := wellFormed
      exact .keyword keyword
    | identifier =>
      rcases wellFormed with ⟨first, others, same, start, parts, plain⟩
      rw [same] at plain
      simpa [Token.spelling, same] using
        Lexical.identifier start parts fun keyword spelled => plain keyword spelled.symm
  · intro lexical
    have wellFormed := lexical.wellFormed token.position
    rwa [String.ofList_toList] at wellFormed

/-! ## The first character of the next token -/

/-- The kind of the next token says which tests its first character passes. -/
theorem admits_iff_of_opening {c : Char} {kind : TokenKind} {o : Opening} (opens : o ≠ .nothing)
    (opening : Opening.ofChar c = kind.opening) : o.Admits c ↔ kind.opening = o := by
  rw [← Opening.ofChar_eq_iff opens, opening]

/-- Words and numbers are what goes on a word. -/
theorem isWordPart_iff_of_opening {c : Char} {kind : TokenKind} (legal : kind.opening ≠ .nothing)
    (opening : Opening.ofChar c = kind.opening) :
    isWordPart c ↔ kind.isWord ∨ kind = .number := by
  have word : isWordStart c ↔ kind.opening = .word :=
    admits_iff_of_opening (o := .word) nofun opening
  have digit : c.isDigit ↔ kind.opening = .digit :=
    admits_iff_of_opening (o := .digit) nofun opening
  rw [← TokenKind.opening_eq_word_iff, ← TokenKind.opening_eq_digit_iff]
  constructor
  · intro part
    rcases Opening.ofChar_of_isWordPart part with chosen | chosen | chosen
    · exact .inl (opening.symm.trans chosen)
    · exact .inr (opening.symm.trans chosen)
    · exact absurd (opening.symm.trans chosen) legal
  · intro opens
    rcases opens with chosen | chosen
    · exact isWordPart_of_isWordStart (word.2 chosen)
    · exact isWordPart_of_isDigit (digit.2 chosen)

/-- A character other than a slash starts the symbol that it spells and the one that a `=` makes of
that symbol. -/
theorem Lexical.eq_iff_of_symbol {c first : Char} {others lexeme : List Char} {kind : TokenKind}
    {s : Symbol} (lexical : Lexical (first :: others) kind lexeme) (alone : s.text.toList = [c])
    (slash : s ≠ .slash) :
    first = c ↔
      kind = .symbol s ∨ ∃ longer, s.withEqual? = some longer ∧ kind = .symbol longer := by
  rcases lexical.exists_cons with ⟨first', others', same, opening⟩
  rcases List.cons.inj same with ⟨rfl, rfl⟩
  constructor
  · rintro rfl
    have admits : (Opening.symbol s).Admits first := ⟨slash, alone⟩
    rw [(Opening.ofChar_eq_iff (o := .symbol s) nofun).2 admits] at opening
    rcases lexical.of_opening_symbol opening.symm with ⟨s', rfl, -, -, rfl | longer⟩
    · exact .inl rfl
    · exact .inr ⟨s', longer, rfl⟩
  · intro kinds
    rcases kinds with rfl | ⟨longer, found, rfl⟩
    · have spelled := lexical.text_of_symbol
      rw [alone] at spelled
      exact (List.cons.inj spelled).1
    · have spelled := lexical.text_of_symbol
      rw [Symbol.text_withEqual found, String.toList_append, alone] at spelled
      exact (List.cons.inj spelled).1

/-! ## Adjacent tokens -/

/-- A number ends before a token other than a number. A dot it takes only for its first fraction and
only with a digit behind. -/
theorem TokenKind.ends_number_append_iff {text lexeme lexeme' after : List Char}
    {kind : TokenKind} (lexical : Lexical text kind lexeme') :
    TokenKind.number.Ends lexeme (text ++ after) ↔ kind ≠ .number ∧
      ('.' ∉ lexeme → kind = .symbol .dot → ∀ d ∈ after.head?, ¬d.isDigit) := by
  rcases lexical.exists_cons with ⟨c, others, rfl, opening⟩
  have digit : c.isDigit ↔ kind = .number :=
    (admits_iff_of_opening (o := .digit) nofun opening).trans opening_eq_digit_iff
  have stop : (∀ d ∈ (c :: others ++ after).head?, ¬d.isDigit) ↔ kind ≠ .number := by
    simpa using not_congr digit
  have dot := lexical.eq_iff_of_symbol (s := .dot) (c := '.') rfl nofun
  -- the dot is a whole token, so the character behind it is the first one of `after`
  have alone : kind = .symbol .dot → c = '.' ∧ others = [] := by
    rintro rfl
    exact List.cons.inj lexical.text_of_symbol
  simp only [Ends, stop]
  refine and_congr_right fun _ => ⟨fun fraction plain same => ?_, fun fraction plain same => ?_⟩
  · rcases alone same with ⟨rfl, rfl⟩
    simpa [List.head?_eq_getElem?] using fraction plain rfl
  · have first : c = '.' := Option.some.inj same
    have dotted : kind = .symbol .dot := by simpa [Symbol.withEqual?] using dot.1 first
    rcases alone dotted with ⟨-, rfl⟩
    simpa [List.head?_eq_getElem?] using fraction plain dotted

/-- A token ends before another one if their kinds do not join and, for a number that a fraction can
still follow, if no digit stands behind a dot. -/
theorem TokenKind.ends_append_iff {text lexeme lexeme' after : List Char}
    {kind kind' : TokenKind} (lexical : Lexical text kind' lexeme') :
    kind.Ends lexeme (text ++ after) ↔ kind.joins kind' = false ∧
      (kind = .number → '.' ∉ lexeme → kind' = .symbol .dot → ∀ d ∈ after.head?, ¬d.isDigit) := by
  have number : TokenKind.number.Ends lexeme (text ++ after) ↔ _ := ends_number_append_iff lexical
  rcases lexical.exists_cons with ⟨c, others, rfl, opening⟩
  have blank : isBlank c ↔ kind' = .whitespace :=
    (admits_iff_of_opening (o := .blank) nofun opening).trans opening_eq_blank_iff
  have slash : c = '/' ↔ kind' = .symbol .slash ∨ kind' = .lineComment :=
    (admits_iff_of_opening (o := .slash) nofun opening).trans opening_eq_slash_iff
  have part := isWordPart_iff_of_opening lexical.opening_ne_nothing opening
  have equal := lexical.eq_iff_of_symbol (s := .equal) (c := '=') rfl nofun
  have newline := lexical.eq_iff_of_symbol (s := .newline) (c := '\n') rfl nofun
  cases kind with
  | whitespace => simp [Ends, joins, ← Bool.not_eq_true, blank]
  | identifier | keyword k => simp [Ends, joins, ← Bool.not_eq_true, part]
  | lineComment => simp [Ends, joins, newline, Symbol.withEqual?]
  | string | illegal | eof => simp [Ends, joins]
  | symbol s => cases s <;> simp [Ends, joins, slash, equal, Symbol.withEqual?]
  | number => simpa [joins] using number

/-- At the end of the text every token ends. -/
theorem TokenKind.ends_nil (kind : TokenKind) (lexeme : List Char) : kind.Ends lexeme [] := by
  cases kind <;> simp [Ends]

/-- The text of well-formed tokens starts with a digit exactly if the first of them is a number. -/
theorem exists_isDigit_head?_printed_iff {tokens : List Token}
    (wellFormed : ∀ token ∈ tokens, token.WellFormed) :
    (∃ d ∈ (printed tokens).head?, d.isDigit) ↔ tokens.head?.map Token.kind = some .number := by
  cases tokens with
  | nil => simp [printed]
  | cons token tokens =>
    have lexical := Token.wellFormed_iff.1 (wellFormed token (.head _))
    rcases lexical.exists_cons with ⟨c, others, same, opening⟩
    have digit : c.isDigit ↔ token.kind = .number :=
      (admits_iff_of_opening (o := .digit) nofun opening).trans TokenKind.opening_eq_digit_iff
    rw [printed_cons, same]
    simp [digit]

/-- The first token of a list does not run on into the others exactly if it ends before the text
that they spell. -/
theorem separated_cons_iff {token : Token} {tokens : List Token}
    (wellFormed : ∀ token ∈ tokens, token.WellFormed) :
    Separated (token :: tokens) ↔
      token.kind.Ends token.lexeme.toList (printed tokens) ∧ Separated tokens := by
  cases tokens with
  | nil =>
    have ends : token.kind.Ends token.lexeme.toList (printed []) := token.kind.ends_nil _
    simp [Separated, ends]
  | cons second tokens =>
    rcases List.forall_mem_cons.1 wellFormed with ⟨wellFormed', others⟩
    have number := exists_isDigit_head?_printed_iff others
    rw [printed_cons, TokenKind.ends_append_iff (Token.wellFormed_iff.1 wellFormed'), Separated,
      ← number]
    simp [Token.takesFraction, and_assoc]

/-! ## Readings without illegal tokens -/

/-- A text is read as legal tokens exactly if they spell it, can stand alone, do not run on into
each other and stand where they are spelled. -/
theorem reading_iff {position : Position} {text : List Char} {tokens : List Token} :
    Reading position text tokens ∧ (∀ token ∈ tokens, token.kind ≠ .illegal) ↔
      text = printed tokens ∧ (∀ token ∈ tokens, token.WellFormed) ∧ Separated tokens ∧
        Placed position tokens := by
  induction tokens generalizing position text with
  | nil =>
    constructor
    · rintro ⟨reading, -⟩
      cases reading
      exact ⟨rfl, nofun, trivial, trivial⟩
    · rintro ⟨rfl, -⟩
      exact ⟨.nil, nofun⟩
  | cons token tokens ih =>
    rw [printed_cons, List.forall_mem_cons, List.forall_mem_cons, Placed]
    constructor
    · rintro ⟨reading, legal, legal'⟩
      cases reading with
      | cons cut reading' =>
        have spelled := cut.toList_spelling position
        rcases ih.1 ⟨reading', legal'⟩ with ⟨same, wellFormed, separated, placed⟩
        cases cut with
        | token lexical ends =>
          subst same
          rw [spelled, separated_cons_iff wellFormed, String.toList_ofList]
          exact ⟨rfl, ⟨lexical.wellFormed position, wellFormed⟩, ⟨ends, separated⟩, rfl, placed⟩
        | unclosed | stray => exact absurd rfl legal
    · rintro ⟨rfl, ⟨wellFormed, wellFormed'⟩, separated, rfl, placed⟩
      rw [separated_cons_iff wellFormed'] at separated
      rcases ih.2 ⟨rfl, wellFormed', separated.2, placed⟩ with ⟨reading, legal⟩
      have lexical := Token.wellFormed_iff.1 wellFormed
      have cut : Cut _ _ _ (printed tokens) := .token lexical separated.1
      have reading' := Reading.cons cut reading
      rw [String.ofList_toList] at reading'
      refine ⟨reading', ?_, legal⟩
      intro illegal
      exact lexical.opening_ne_nothing (by rw [illegal]; rfl)

/-- **The lists that a source can be lexed to.** They are those of well-formed tokens that do not
run on into each other and stand where they are spelled, and lexing what such a list spells gives
the list back. -/
theorem exists_lex_eq_ok_iff (tokens : List Token) :
    ((∃ source, lex source = .ok tokens) ↔
      (∀ token ∈ tokens, token.WellFormed) ∧ Separated tokens ∧ Placed .start tokens) ∧
    ((∃ source, lex source = .ok tokens) →
      lex (String.join (tokens.map Token.spelling)) = .ok tokens) := by
  have spelled : (String.join (tokens.map Token.spelling)).toList = printed tokens := by
    rw [String.toList_join, List.flatMap_map, printed]
  simp only [lex_eq_ok_iff, reading_iff]
  refine ⟨⟨?_, ?_⟩, ?_⟩
  · rintro ⟨source, -, image⟩
    exact image
  · intro image
    exact ⟨_, spelled, image⟩
  · rintro ⟨source, -, image⟩
    exact ⟨spelled, image⟩

/-- A word can follow a number and a dot, but a second number would be the fraction of the first. -/
theorem exists_lex_eq_ok_number_dot :
    lex "1.x" =
        .ok [⟨.number, "1", ⟨1, 1⟩⟩, ⟨.symbol .dot, "", ⟨1, 2⟩⟩, ⟨.identifier, "x", ⟨1, 3⟩⟩] ∧
      ¬∃ source, lex source =
        .ok [⟨.number, "1", ⟨1, 1⟩⟩, ⟨.symbol .dot, "", ⟨1, 2⟩⟩, ⟨.number, "2", ⟨1, 3⟩⟩] := by
  have one : Numeral "1".toList := ⟨['1'], nofun, List.forall_mem_singleton.2 rfl, .inl rfl⟩
  have x : PlainWord "x".toList := ⟨'x', [], rfl, by decide, nofun, fun k => by cases k <;> decide⟩
  constructor
  · have image := (exists_lex_eq_ok_iff [⟨.number, "1", ⟨1, 1⟩⟩, ⟨.symbol .dot, "", ⟨1, 2⟩⟩,
      ⟨.identifier, "x", ⟨1, 3⟩⟩]).1.2
    refine (exists_lex_eq_ok_iff _).2 (image ⟨?_, ?_, ?_⟩)
    · simp only [List.forall_mem_cons]
      exact ⟨one, rfl, x, nofun⟩
    · exact ⟨rfl, by simp, rfl, by simp, trivial⟩
    · exact ⟨rfl, rfl, rfl, trivial⟩
  · intro lexed
    rcases (exists_lex_eq_ok_iff _).1.1 lexed with ⟨-, separated, -⟩
    exact separated.2.1 ⟨by decide, rfl, rfl⟩

end LoxLexer
