import LoxLexer.CharStream.Between
import LoxLexer.Proofs.Cut

/-!
# The next token of a lexer

The lexer looks at no grammar: it dispatches on a character and follows the stream. This module
shows that it cuts as `Cut` says, wherever it stands and whatever waits in its lookahead buffer.

* `CharStream.Between.skipFraction` and `CharStream.Between.lengthen`: what the two lookahead steps
  take off the stream.
* `CharStream.Between.recognize`: the rule found makes the token of the text taken.
* `Lexer.Between` places a lexer in its source, and `Lexer.Between.nextToken_of_cut` and
  `Lexer.Between.nextToken_nil` say what it gives there.
-/

namespace LoxLexer

/-! ## Lookahead steps -/

namespace CharStream.Between

variable {stream : CharStream} {before after : List Char}

/-- What is skipped passes the test, and what comes next does not. -/
theorem exists_skipWhile (between : stream.Between before after) (test : Char → Bool) :
    ∃ run after', after = run ++ after' ∧
      (stream.skipWhile test).Between (before ++ run) after' ∧
      (∀ c ∈ run, test c) ∧ ∀ c ∈ after'.head?, ¬test c := by
  refine ⟨_, _, List.takeWhile_append_dropWhile.symm, between.skipWhile test, ?_, ?_⟩
  · exact List.all_eq_true.1 List.all_takeWhile
  · intro c mem
    have stopped := List.head?_dropWhile_not test after
    rw [Option.mem_def.1 mem] at stopped
    simpa using stopped

/-- A fraction is skipped with all its digits, and nothing else is. -/
theorem skipFraction (between : stream.Between before after) :
    ∃ fraction after', after = fraction ++ after' ∧
      stream.skipFraction.Between (before ++ fraction) after' ∧
      (fraction = [] ∧ (after.head? = some '.' → ∀ d ∈ after[1]?, ¬d.isDigit) ∨
        (∃ decimals ≠ [], (∀ c ∈ decimals, c.isDigit) ∧ fraction = '.' :: decimals) ∧
          ∀ c ∈ after'.head?, ¬c.isDigit) := by
  obtain ⟨sees, peeked⟩ := between.peek?
  simp only [CharStream.skipFraction, sees]
  split
  · next dot =>
    obtain ⟨others, rfl⟩ := List.head?_eq_some_iff.1 dot
    obtain ⟨sees', peeked'⟩ := peeked.peekSecond?
    rw [List.getElem?_cons_succ, ← List.head?_eq_getElem?] at sees'
    simp only [sees']
    split
    · next digit =>
      obtain ⟨d, second, passes⟩ := (Option.any_eq_true _ _).1 digit
      obtain ⟨decimals, after', rfl, between', digits, stop⟩ :=
        peeked'.skip.exists_skipWhile Char.isDigit
      refine ⟨'.' :: decimals, after', rfl, by simpa using between',
        .inr ⟨⟨decimals, ?_, digits, rfl⟩, stop⟩⟩
      rintro rfl
      exact stop d second passes
    · next other =>
      refine ⟨[], _, rfl, by simpa using peeked', .inl ⟨rfl, fun _ d mem digit => other ?_⟩⟩
      rw [List.getElem?_cons_succ, ← List.head?_eq_getElem?] at mem
      rw [Option.mem_def.1 mem]
      exact digit
  · next other =>
    exact ⟨[], after, rfl, by simpa using peeked, .inl ⟨rfl, fun dot => absurd dot other⟩⟩

/-- Behind a digit the rest of a number is taken, which ends there. -/
theorem skipNumeral (between : stream.Between before after) {first : Char}
    (digit : first.isDigit) :
    ∃ taken after', after = taken ++ after' ∧
      (stream.skipWhile Char.isDigit).skipFraction.Between (before ++ taken) after' ∧
      Numeral (first :: taken) ∧ TokenKind.number.Ends (first :: taken) after' := by
  obtain ⟨run, after', rfl, between', passes, stop⟩ := between.exists_skipWhile Char.isDigit
  have digits : ∀ c ∈ first :: run, c.isDigit := List.forall_mem_cons.2 ⟨digit, passes⟩
  obtain ⟨fraction, after'', rfl, between'', whole | decimals⟩ := between'.skipFraction
  · obtain ⟨rfl, dot⟩ := whole
    exact ⟨run, after'', rfl, by simpa using between'',
      ⟨_, List.cons_ne_nil _ _, digits, .inl rfl⟩, stop, fun _ => dot⟩
  · obtain ⟨⟨decimals, ne, passes', rfl⟩, stop'⟩ := decimals
    have dotted : '.' ∈ first :: (run ++ '.' :: decimals) := by simp
    exact ⟨run ++ '.' :: decimals, after'', by simp, by simpa using between'',
      ⟨first :: run, List.cons_ne_nil _ _, digits, .inr ⟨decimals, ne, passes', rfl⟩⟩,
      stop', fun plain => absurd dotted plain⟩

/-- A `=` is taken exactly if it is next and makes another symbol of the one before it. -/
theorem lengthen (between : stream.Between before after) (symbol : Symbol) :
    ∃ taken after', after = taken ++ after' ∧
      (stream.lengthen symbol).2.Between (before ++ taken) after' ∧
      (stream.lengthen symbol).1.text.toList = symbol.text.toList ++ taken ∧
      ((stream.lengthen symbol).1.withEqual?.isSome → after'.head? ≠ some '=') := by
  unfold CharStream.lengthen
  split
  · next alone =>
    exact ⟨[], after, rfl, by simpa using between, by simp, by simp [alone]⟩
  · next longer found =>
    by_cases equal : after.head? = some '='
    · obtain ⟨others, rfl⟩ := List.head?_eq_some_iff.1 equal
      obtain ⟨stream', met, between'⟩ := between.nextIf_cons
      have final : longer.withEqual? = none := by
        cases symbol <;> cases found <;> rfl
      rw [met]
      exact ⟨['='], others, rfl, between', by simp [Symbol.text_withEqual found], by simp [final]⟩
    · obtain ⟨stream', met, between'⟩ := between.nextIf_of_ne equal
      rw [met]
      exact ⟨[], after, rfl, by simpa using between', by simp, fun _ => equal⟩

end CharStream.Between

/-! ## Delimiters -/

theorem ofList_slashes (body : List Char) :
    String.ofList ('/' :: '/' :: body) = "//" ++ String.ofList body :=
  String.toList_injective (by simp)

theorem ofList_quotes (body : List Char) :
    String.ofList ('"' :: body ++ ['"']) = "\"" ++ String.ofList body ++ "\"" :=
  String.toList_injective (by simp)

/-! ## The rule that is found -/

/-- The rule makes of the text the token that is cut off before `after`. -/
def Rule.Recognizes (rule : Option Rule) (text after : List Char) : Prop :=
  ∃ kind lexeme, Cut text kind lexeme after ∧ ∀ position,
    Rule.tokenOfText? rule (String.ofList text) position =
      some ⟨kind, String.ofList lexeme, position⟩

namespace Rule.Recognizes

variable {text body after : List Char}

theorem lineComment (inside : '\n' ∉ body) (stop : ∀ c ∈ after.head?, c = '\n') :
    Rule.Recognizes (some .lineComment) ('/' :: '/' :: body) after := by
  refine ⟨_, _, .token (.lineComment inside) stop, fun position => ?_⟩
  have lexeme : Rule.lexeme? .lineComment ("//" ++ String.ofList body) =
      some (String.ofList body) := by
    have cut := slice?_append "//" (String.ofList body) ""
    rwa [String.append_empty] at cut
  rw [ofList_slashes, tokenOfText?, lexeme]
  rfl

theorem string (inside : '"' ∉ body) :
    Rule.Recognizes (some .string) ('"' :: body ++ ['"']) after := by
  refine ⟨_, _, .token (.string inside) trivial, fun position => ?_⟩
  have lexeme : Rule.lexeme? .string ("\"" ++ String.ofList body ++ "\"") =
      some (String.ofList body) := by
    have size : ("\"" ++ String.ofList body ++ "\"").utf8ByteSize - 1 =
        ("\"" ++ String.ofList body).utf8ByteSize := by
      have one : "\"".utf8ByteSize = 1 := by decide
      rw [String.utf8ByteSize_append, one, Nat.add_sub_cancel]
    rw [lexeme?, size]
    exact slice?_append "\"" (String.ofList body) "\""
  rw [ofList_quotes, tokenOfText?, lexeme]
  rfl

theorem whitespace (ne : text ≠ []) (blanks : ∀ c ∈ text, isBlank c)
    (stop : ∀ c ∈ after.head?, ¬isBlank c) : Rule.Recognizes (some .whitespace) text after := by
  have run : Lexical text .whitespace text :=
    .whitespace ne fun c mem => isBlank_iff.1 (blanks c mem)
  exact ⟨_, _, .token run stop, fun _ => rfl⟩

theorem symbol {s : Symbol} (same : text = s.text.toList)
    (ends : TokenKind.Ends (.symbol s) [] after) :
    Rule.Recognizes (some (.symbol s)) text after := by
  subst same
  exact ⟨_, _, .token (.symbol s) ends, fun _ => rfl⟩

theorem number (numeral : Numeral text) (ends : TokenKind.Ends .number text after) :
    Rule.Recognizes (some .number) text after := by
  refine ⟨.number, text, .token ?_ ends, fun _ => rfl⟩
  obtain ⟨digits, ne, passes, rfl | ⟨decimals, ne', passes', rfl⟩⟩ := numeral
  · exact .whole ne passes
  · exact .fraction ne passes ne' passes'

theorem word {first : Char} (start : isWordStart first) (parts : ∀ c ∈ body, isWordPart c)
    (stop : ∀ c ∈ after.head?, ¬isWordPart c) :
    Rule.Recognizes (some .word) (first :: body) after := by
  cases found : Keyword.ofText? (String.ofList (first :: body)) with
  | none =>
    have plain : ∀ keyword : Keyword, keyword.text.toList ≠ first :: body := by
      intro keyword spelled
      rw [← spelled, String.ofList_toList, Keyword.ofText?_eq_some_iff.2 rfl] at found
      cases found
    have identifier : Lexical (first :: body) .identifier (first :: body) :=
      .identifier (isWordStart_iff.1 start) (fun c mem => isWordPart_iff.1 (parts c mem)) plain
    refine ⟨_, _, .token identifier stop, fun position => ?_⟩
    simp only [tokenOfText?, lexeme?, kind, found, Option.map_some, Option.elim_none]
  | some keyword =>
    have spelled := Keyword.ofText?_eq_some_iff.1 found
    have text : first :: body = keyword.text.toList := by rw [spelled, String.toList_ofList]
    refine ⟨.keyword keyword, first :: body, .token ?_ stop, fun position => ?_⟩
    · rw [text]
      exact .keyword keyword
    · simp only [tokenOfText?, lexeme?, kind, found, Option.map_some, Option.elim_some]

theorem unclosed (inside : '"' ∉ body) : Rule.Recognizes none ('"' :: body) [] :=
  ⟨_, _, .unclosed inside, fun _ => rfl⟩

theorem stray {c : Char} (nothing : Opening.ofChar c = .nothing) :
    Rule.Recognizes none [c] after :=
  ⟨_, _, .stray nothing, fun _ => rfl⟩

end Rule.Recognizes

/-- Behind `first` the result has taken off `after` what completes the text that its rule
recognizes. -/
def Rule.Completes (result : Option Rule × CharStream) (first : Char)
    (before after : List Char) : Prop :=
  ∃ taken after', after = taken ++ after' ∧ result.2.Between (before ++ taken) after' ∧
    Rule.Recognizes result.1 (first :: taken) after'

namespace CharStream.Between

variable {stream : CharStream} {before after : List Char}

/-- A slash is a symbol, unless a second one starts a comment up to the end of the line. -/
theorem recognize_slash (between : stream.Between before after) :
    Rule.Completes (stream.recognize '/') '/' before after := by
  unfold CharStream.recognize
  rw [if_pos rfl]
  by_cases second : after.head? = some '/'
  · obtain ⟨others, rfl⟩ := List.head?_eq_some_iff.1 second
    obtain ⟨stream', met, between'⟩ := between.nextIf_cons
    obtain ⟨body, after', rfl, between'', inside, stop⟩ := between'.exists_skipWhile (· ≠ '\n')
    rw [met]
    refine ⟨'/' :: body, after', rfl, by simpa using between'', ?_⟩
    exact .lineComment (passes_iff_not_mem.1 inside) fun c mem => by simpa using stop c mem
  · obtain ⟨stream', met, between'⟩ := between.nextIf_of_ne second
    rw [met]
    exact ⟨[], after, rfl, by simpa using between', .symbol rfl ⟨fun _ => second, nofun⟩⟩

/-- A string goes to the next quote, and without one it takes all that is left. -/
theorem recognize_quote (between : stream.Between before after) :
    Rule.Completes (stream.recognize '"') '"' before after := by
  unfold CharStream.recognize
  rw [if_neg (by decide), if_pos rfl]
  obtain ⟨body, after', rfl, between', inside, stop⟩ := between.exists_skipWhile (· ≠ '"')
  have inside := passes_iff_not_mem.1 inside
  cases after' with
  | nil =>
    have ended := between'.atEnd_iff.2 rfl
    simp only [ended, if_true]
    exact ⟨body, [], rfl, between', .unclosed inside⟩
  | cons c after' =>
    obtain rfl : c = '"' := by simpa using stop c rfl
    have more : ¬(stream.skipWhile (· ≠ '"')).atEnd := fun ended => by
      cases between'.atEnd_iff.1 ended
    simp only [more]
    exact ⟨body ++ ['"'], after', by simp, by simpa using between'.skip, .string inside⟩

/-- Whatever the first character is, what is taken behind it completes what the rule recognizes. -/
theorem recognize (between : stream.Between before after) (first : Char) :
    Rule.Completes (stream.recognize first) first before after := by
  by_cases slash : first = '/'
  · subst slash
    exact between.recognize_slash
  by_cases quote : first = '"'
  · subst quote
    exact between.recognize_quote
  unfold CharStream.recognize
  rw [if_neg slash, if_neg quote]
  split_ifs with blank digit word
  · obtain ⟨run, after', rfl, between', blanks, stop⟩ := between.exists_skipWhile isBlank
    refine ⟨run, after', rfl, between', .whitespace (List.cons_ne_nil _ _) ?_ stop⟩
    exact List.forall_mem_cons.2 ⟨blank, blanks⟩
  · obtain ⟨taken, after', rfl, between', numeral, ends⟩ := between.skipNumeral digit
    exact ⟨taken, after', rfl, between', .number numeral ends⟩
  · obtain ⟨run, after', rfl, between', parts, stop⟩ := between.exists_skipWhile isWordPart
    exact ⟨run, after', rfl, between', .word word parts stop⟩
  · split
    · next none =>
      refine ⟨[], after, rfl, by simpa using between, .stray ?_⟩
      simp [Opening.ofChar, slash, quote, blank, digit, word, none]
    · next symbol found =>
      obtain ⟨taken, after', rfl, between', spelled, ends⟩ := between.lengthen symbol
      refine ⟨taken, after', rfl, between', .symbol ?_ ⟨?_, ends⟩⟩
      · rw [spelled, Symbol.ofChar?_eq_some_iff.1 found]
        rfl
      · intro other
        rw [other, Symbol.ofChar?_eq_some_iff.1 found] at spelled
        exact absurd (List.cons.inj spelled).1.symm slash

end CharStream.Between

/-! ## Lexers in their source -/

namespace Lexer

/-- The lexer has read `before` of its source and has still to read `after`. -/
structure Between (lexer : Lexer) (before after : List Char) : Prop where
  source_eq : lexer.source.toList = before ++ after
  stream : lexer.stream.Between before after

theorem between_ofString (source : String) : (ofString source).Between [] source.toList :=
  ⟨rfl, CharStream.between_ofString source⟩

namespace Between

variable {lexer : Lexer} {before text after : List Char}

/-- At the end of the source the next token is the end, and the lexer stays. -/
theorem nextToken_nil (between : lexer.Between before []) :
    lexer.nextToken = (⟨.eof, "", Position.start.walk before⟩, lexer) := by
  rw [Lexer.nextToken, between.stream.next?_nil, between.stream.position_eq]

/-- The byte offsets of a piece of the source cut it out. -/
theorem slice?_source (between : lexer.Between before (text ++ after)) :
    slice? lexer.source (Utf8.size before) (Utf8.size (before ++ text)) =
      some (String.ofList text) := by
  have source : lexer.source = String.ofList before ++ String.ofList text ++ String.ofList after :=
    String.toList_injective (by simp [between.source_eq])
  rw [source, Utf8.size_eq_utf8ByteSize, Utf8.size_eq_utf8ByteSize, String.ofList_append]
  exact slice?_append _ _ _

/-- Before the end of the source the next token is cut off. -/
theorem exists_nextToken (between : lexer.Between before after) (more : after ≠ []) :
    ∃ text kind lexeme after' lexer', after = text ++ after' ∧ Cut text kind lexeme after' ∧
      lexer.nextToken = (⟨kind, String.ofList lexeme, Position.start.walk before⟩, lexer') ∧
      lexer'.Between (before ++ text) after' := by
  obtain ⟨first, others, rfl⟩ := List.exists_cons_of_ne_nil more
  obtain ⟨stream, given, between'⟩ := between.stream.next?_cons
  obtain ⟨taken, after', rfl, between'', kind, lexeme, cut, token⟩ := between'.recognize first
  rw [List.append_assoc, List.singleton_append] at between''
  have placed : lexer.Between before (first :: taken ++ after') := between
  refine ⟨first :: taken, kind, lexeme, after', ⟨lexer.source, (stream.recognize first).2⟩, rfl,
    cut, ?_, ⟨?_, between''⟩⟩
  · rw [Lexer.nextToken, given]
    simp only [Rule.token?, between.stream.consumed_eq, between''.consumed_eq,
      placed.slice?_source, between.stream.position_eq, Option.bind_eq_bind, Option.bind_some,
      token, Option.getD_some]
  · rw [placed.source_eq, List.append_assoc]

end Between

/-- Each text but the empty one can be cut. -/
theorem exists_cut {rest : List Char} (more : rest ≠ []) :
    ∃ text kind lexeme after, rest = text ++ after ∧ Cut text kind lexeme after := by
  have between := between_ofString (String.ofList rest)
  rw [String.toList_ofList] at between
  obtain ⟨text, kind, lexeme, after, -, split, cut, -⟩ := between.exists_nextToken more
  exact ⟨text, kind, lexeme, after, split, cut⟩

/-- The next token is the one that is cut off there, whatever waits in the lookahead buffer. -/
theorem Between.nextToken_of_cut {lexer : Lexer} {before text lexeme after : List Char}
    {kind : TokenKind} (between : lexer.Between before (text ++ after))
    (cut : Cut text kind lexeme after) :
    ∃ lexer', lexer.nextToken =
        (⟨kind, String.ofList lexeme, Position.start.walk before⟩, lexer') ∧
      lexer'.Between (before ++ text) after := by
  have more : text ++ after ≠ [] := fun none => cut.ne_nil (List.append_eq_nil_iff.1 none).1
  obtain ⟨text', kind', lexeme', after', lexer', same, cut', next, between'⟩ :=
    between.exists_nextToken more
  obtain ⟨rfl, rfl, rfl, rfl⟩ := cut.unique cut' same
  exact ⟨lexer', next, between'⟩

end Lexer

end LoxLexer
