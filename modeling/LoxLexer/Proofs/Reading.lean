import LoxLexer.Lex
import LoxLexer.Lexer.Call
import LoxLexer.Proofs.NextToken

/-!
# The reading of a text

`Reading position text tokens` says that a text is read as these tokens, cut after cut, when it
starts at a position. A text has one reading (`Reading.unique`) and never none
(`exists_reading`), illegal text included.

* `Lexer.Between.rest`: the tokens of a lexer are the reading of what it has still to read;
  `reading_iff_rest` says so of a new lexer.
* `Lexer.Between.answers`: every mixture of calls leaves the lexer between two parts of its source.
* `lex_eq` and `lex_eq_ok_iff`: `lex` gives the reading of its source unless a token is illegal.
-/

namespace LoxLexer

/-- A text that starts at a position is read as these tokens. -/
inductive Reading : Position → List Char → List Token → Prop
  | nil {position : Position} : Reading position [] []
  | cons {position : Position} {text lexeme after : List Char} {kind : TokenKind}
    {tokens : List Token} :
    Cut text kind lexeme after → Reading (position.walk text) after tokens →
    Reading position (text ++ after) (⟨kind, String.ofList lexeme, position⟩ :: tokens)

namespace Reading

theorem eq_nil {position : Position} {tokens : List Token} (reading : Reading position [] tokens) :
    tokens = [] := by
  generalize empty : ([] : List Char) = text at reading
  cases reading with
  | nil => rfl
  | cons cut _ => exact absurd (List.append_eq_nil_iff.1 empty.symm).1 cut.ne_nil

/-- A reading starts with the token that is cut off first. -/
theorem of_cut {position : Position} {text lexeme after : List Char} {kind : TokenKind}
    {tokens : List Token} (reading : Reading position (text ++ after) tokens)
    (cut : Cut text kind lexeme after) :
    ∃ others, tokens = ⟨kind, String.ofList lexeme, position⟩ :: others ∧
      Reading (position.walk text) after others := by
  generalize same : text ++ after = whole at reading
  cases reading with
  | nil => exact absurd (List.append_eq_nil_iff.1 same).1 cut.ne_nil
  | cons cut' others =>
    rcases cut.unique cut' same with ⟨rfl, rfl, rfl, rfl⟩
    exact ⟨_, rfl, others⟩

theorem unique {position : Position} {text : List Char} {tokens tokens' : List Token}
    (reading : Reading position text tokens) (reading' : Reading position text tokens') :
    tokens' = tokens := by
  induction reading generalizing tokens' with
  | nil => exact reading'.eq_nil
  | cons cut _ ih =>
    rcases reading'.of_cut cut with ⟨others, rfl, behind⟩
    rw [ih behind]

end Reading

theorem exists_reading (position : Position) (text : List Char) :
    ∃ tokens, Reading position text tokens := by
  by_cases more : text = []
  · subst more
    exact ⟨[], .nil⟩
  · rcases Lexer.exists_cut more with ⟨first, kind, lexeme, after, same, cut⟩
    rcases exists_reading (position.walk first) after with ⟨tokens, reading⟩
    rw [same]
    exact ⟨_, .cons cut reading⟩
termination_by text.length
decreasing_by
  have taken := List.length_pos_iff.2 cut.ne_nil
  rw [same, List.length_append]
  omega

/-! ## Drawing the tokens of a reading -/

namespace Lexer.Between

variable {lexer : Lexer} {before text lexeme after : List Char} {kind : TokenKind}

theorem next?_nil (between : lexer.Between before []) : lexer.next? = (none, lexer) := by
  rw [Lexer.next?, between.nextToken_nil]
  rfl

theorem next?_of_cut (between : lexer.Between before (text ++ after))
    (cut : Cut text kind lexeme after) :
    ∃ lexer', lexer.next? =
        (some ⟨kind, String.ofList lexeme, Position.start.walk before⟩, lexer') ∧
      lexer'.Between (before ++ text) after := by
  rcases between.nextToken_of_cut cut with ⟨lexer', next, between'⟩
  refine ⟨lexer', ?_, between'⟩
  rw [Lexer.next?, next]
  simp only [cut.kind_ne_eof, if_false]

/-- All tokens that a lexer gives are the reading of what it has still to read. -/
theorem rest_of_reading {tokens : List Token} (between : lexer.Between before after)
    (reading : Reading (Position.start.walk before) after tokens) :
    lexer.rest.1 = tokens ∧ lexer.rest.2.Between (before ++ after) [] := by
  generalize placed : Position.start.walk before = position at reading
  induction reading generalizing lexer before with
  | nil =>
    rw [Lexer.rest_of_none between.next?_nil, List.append_nil]
    exact ⟨rfl, between⟩
  | cons cut _ ih =>
    subst placed
    rcases between.next?_of_cut cut with ⟨lexer', next, between'⟩
    rcases ih between' (Position.walk_append ..) with ⟨others, between''⟩
    rw [Lexer.rest_of_some next, others, ← List.append_assoc]
    exact ⟨rfl, between''⟩

theorem rest (between : lexer.Between before after) :
    Reading (Position.start.walk before) after lexer.rest.1 ∧
      lexer.rest.2.Between (before ++ after) [] := by
  rcases exists_reading (Position.start.walk before) after with ⟨tokens, reading⟩
  rcases between.rest_of_reading reading with ⟨rfl, between'⟩
  exact ⟨reading, between'⟩

/-! ## Reachable lexers -/

theorem nextToken (between : lexer.Between before after) :
    ∃ taken after', after = taken ++ after' ∧
      lexer.nextToken.2.Between (before ++ taken) after' := by
  by_cases more : after = []
  · subst more
    refine ⟨[], [], rfl, ?_⟩
    rw [between.nextToken_nil, List.append_nil]
    exact between
  · obtain ⟨text, kind, lexeme, after', lexer', rfl, cut, next, between'⟩ :=
      between.exists_nextToken more
    refine ⟨text, after', rfl, ?_⟩
    rw [next]
    exact between'

/-- A call takes a part of what is left. -/
theorem answer (between : lexer.Between before after) (call : Call) :
    ∃ taken after', after = taken ++ after' ∧
      (lexer.answer call).2.Between (before ++ taken) after' := by
  cases call with
  | token => exact between.nextToken
  | next => exact between.nextToken
  | rest => exact ⟨after, [], (List.append_nil after).symm, between.rest.2⟩

/-- So does every sequence of calls. -/
theorem answers (between : lexer.Between before after) (calls : List Call) :
    ∃ taken after', after = taken ++ after' ∧
      (lexer.answers calls).2.Between (before ++ taken) after' := by
  induction calls generalizing lexer before after with
  | nil => exact ⟨[], after, rfl, by rwa [List.append_nil]⟩
  | cons call calls ih =>
    rcases between.answer call with ⟨taken, after', rfl, between'⟩
    rcases ih between' with ⟨taken', after'', rfl, between''⟩
    refine ⟨taken ++ taken', after'', (List.append_assoc ..).symm, ?_⟩
    rw [← List.append_assoc]
    exact between''

end Lexer.Between

/-- Calls on a new lexer leave it between two parts of its source. -/
theorem Lexer.exists_between (source : String) (calls : List Lexer.Call) :
    ∃ before after, source.toList = before ++ after ∧
      ((Lexer.ofString source).answers calls).2.Between before after :=
  (between_ofString source).answers calls

/-- A source is read as a list of tokens exactly if a new lexer gives them. -/
theorem reading_iff_rest {source : String} {tokens : List Token} :
    Reading .start source.toList tokens ↔ (Lexer.ofString source).rest.1 = tokens := by
  have reading := (Lexer.between_ofString source).rest.1
  constructor
  · exact fun other => other.unique reading
  · rintro rfl
    exact reading

/-! ## Lexing a whole source -/

/-- A run over a lexer gives its tokens behind those drawn before, or the error of the first illegal
one. -/
theorem Lexer.run_eq (lexer : Lexer) (drawn : List Token) (log : Log) :
    (lexer.run drawn log).1 =
      match lexer.rest.1.find? (·.kind = .illegal) with
      | some token => .error (.ofIllegal token)
      | none => .ok (drawn.reverse ++ lexer.rest.1) := by
  fun_induction Lexer.run lexer drawn log with
  | case1 lexer drawn log token rest next illegal =>
    rw [Lexer.rest_of_some next, List.find?_cons_of_pos (by simpa using illegal)]
  | case2 lexer drawn log token rest next legal ih =>
    rw [ih, Lexer.rest_of_some next, List.find?_cons_of_neg (by simpa using legal)]
    simp
  | case3 lexer drawn log rest next =>
    rw [Lexer.rest_of_none next, List.find?_nil, List.append_nil]

/-- A source is lexed to all its tokens, or to the error of the first illegal one. -/
theorem lex_eq (source : String) :
    lex source =
      match (Lexer.ofString source).rest.1.find? (·.kind = .illegal) with
      | some token => .error (.ofIllegal token)
      | none => .ok (Lexer.ofString source).rest.1 :=
  (Lexer.ofString source).run_eq [] _

/-- A source is lexed to the tokens of its reading if none of them is illegal. -/
theorem lex_eq_ok_iff {source : String} {tokens : List Token} :
    lex source = .ok tokens ↔
      Reading .start source.toList tokens ∧ ∀ token ∈ tokens, token.kind ≠ .illegal := by
  rcases (Lexer.between_ofString source).rest with ⟨reading, -⟩
  rw [lex_eq]
  cases found : (Lexer.ofString source).rest.1.find? (·.kind = .illegal) with
  | none =>
    have legal : ∀ token ∈ (Lexer.ofString source).rest.1, token.kind ≠ .illegal := by
      simpa using found
    constructor
    · rintro ⟨⟩
      exact ⟨reading, legal⟩
    · rintro ⟨reading', -⟩
      rw [reading.unique reading']
  | some token =>
    refine iff_of_false nofun fun ⟨reading', legal⟩ => ?_
    rw [← reading.unique reading'] at found
    exact legal token (List.mem_of_find?_eq_some found) (by simpa using List.find?_some found)

end LoxLexer
