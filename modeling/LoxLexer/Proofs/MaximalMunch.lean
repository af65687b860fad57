import LoxLexer.Proofs.Reading

/-!
# Maximal munch

The lexer dispatches on one character and looks two ahead; the grammar says which token comes next
by comparing all beginnings of the text. `nextToken_longest` says that the two agree in every state
of a lexer.
-/

namespace LoxLexer

/-- `lexer'` is `lexer` after it has taken `text` off its source. -/
structure Lexer.Takes (lexer lexer' : Lexer) (text : List Char) : Prop where
  rest_eq : lexer.stream.rest = text ++ lexer'.stream.rest
  consumed_eq : lexer'.stream.consumed = lexer.stream.consumed + Utf8.size text

theorem Lexer.Between.takes {lexer lexer' : Lexer} {before text after : List Char}
    (between : lexer.Between before (text ++ after))
    (between' : lexer'.Between (before ++ text) after) : lexer.Takes lexer' text where
  rest_eq := by rw [between.stream.rest_eq, between'.stream.rest_eq]
  consumed_eq := by
    rw [between.stream.consumed_eq, between'.stream.consumed_eq, Utf8.size_append]

/-- **The next token is the longest beginning that is a token.** This holds in every state that
calls can bring a lexer into, whatever waits in its lookahead buffer. Where no beginning is a token,
the token is illegal: all that is left behind an opening quote, and one character otherwise. -/
theorem nextToken_longest {source : String} {calls : List Lexer.Call} {lexer lexer' : Lexer}
    {token : Token} (reached : ((Lexer.ofString source).answers calls).2 = lexer)
    (more : lexer.stream.rest ≠ []) (next : lexer.nextToken = (token, lexer')) :
    (∃ given, source.toList = given ++ lexer.stream.rest ∧
      lexer.stream.consumed = Utf8.size given) ∧
    ((∃ text kind lexeme, Lexical text kind lexeme ∧ text <+: lexer.stream.rest) →
      ∃ text, Longest lexer.stream.rest text token.kind token.lexeme.toList ∧
        lexer.Takes lexer' text) ∧
    (∀ text kind lexeme, Longest lexer.stream.rest text kind lexeme →
      token.kind = kind ∧ token.lexeme.toList = lexeme ∧ lexer.Takes lexer' text) ∧
    (NoToken lexer.stream.rest →
      token.kind = .illegal ∧ lexer.Takes lexer' token.lexeme.toList ∧
        if lexer.stream.rest.head? = some '"' then lexer'.stream.rest = []
        else token.lexeme.length = 1) := by
  rcases Lexer.exists_between source calls with ⟨before, after, whole, between⟩
  rw [reached] at between
  obtain rfl := between.stream.rest_eq
  refine ⟨⟨before, whole, between.stream.consumed_eq⟩, ?_⟩
  obtain ⟨text, kind, lexeme, after, _, same, cut, next', between'⟩ :=
    between.exists_nextToken more
  rcases Prod.mk.inj (next.symm.trans next') with ⟨rfl, rfl⟩
  have takes := (same ▸ between).takes between'
  rw [same]
  simp only [String.toList_ofList]
  by_cases legal : kind = .illegal
  · subst legal
    rcases cut.illegal_text with ⟨rfl, extent⟩
    refine ⟨?_, fun _ _ _ longest => absurd cut.noToken longest.not_noToken, fun _ => ?_⟩
    · rintro ⟨other, kind, lexeme, lexical, begins⟩
      exact absurd begins (cut.noToken other kind lexeme lexical)
    · refine ⟨rfl, takes, ?_⟩
      rw [between'.stream.rest_eq]
      simpa using extent
  · have longest := cut.longest legal
    refine ⟨fun _ => ⟨text, longest, takes⟩, fun other kind' lexeme' longest' => ?_,
      fun none => absurd none longest.not_noToken⟩
    rcases longest.unique longest' with ⟨rfl, rfl, rfl⟩
    exact ⟨rfl, rfl, takes⟩

/-- Behind a number, the dot and the letter that the lexer has looked at are still to be taken. -/
theorem nextToken_longest_dot :
    ((Lexer.ofString "12.x").answers [.token]).2.stream.rest = ['.', 'x'] ∧
      ((Lexer.ofString "12.x").answers [.token]).2.nextToken.1.kind = .symbol .dot := by
  have rest : ((Lexer.ofString "12.x").answers [.token]).2.stream.rest = ['.', 'x'] := by
    decide +kernel
  have longest : Longest ['.', 'x'] ['.'] (.symbol .dot) [] :=
    (Lexical.symbol .dot).longest (show TokenKind.Ends _ _ ['x'] from ⟨nofun, nofun⟩)
  have munch := nextToken_longest rfl (by rw [rest]; exact nofun)
    (Prod.eta ((Lexer.ofString "12.x").answers [.token]).2.nextToken).symm
  exact ⟨rest, (munch.2.2.1 _ _ _ (rest ▸ longest)).1⟩

end LoxLexer
