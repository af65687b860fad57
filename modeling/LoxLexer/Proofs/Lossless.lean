import LoxLexer.Proofs.Reading

/-!
# Nothing of a source is lost

The tokens of a source, illegal ones and trivia included, spell the source from its first character
to its last.

* `Reading.toList_join_spelling`: the tokens of a reading spell the text that is read.
* `join_spelling_rest`: the tokens of a source spell it, so that no two sources have the same.
-/

namespace LoxLexer

/-- The tokens of a reading spell its text. -/
theorem Reading.toList_join_spelling {position : Position} {text : List Char}
    {tokens : List Token} (reading : Reading position text tokens) :
    (String.join (tokens.map Token.spelling)).toList = text := by
  induction reading with
  | nil => rfl
  | cons cut _ ih =>
    rw [String.toList_join] at ih ⊢
    rw [List.map_cons, List.flatMap_cons, cut.toList_spelling, ih]

/-- The tokens of a source spell it, whether or not it can be lexed, and only one source has the
tokens that `lex` gives. -/
theorem join_spelling_rest (source : String) :
    String.join ((Lexer.ofString source).rest.1.map Token.spelling) = source ∧
      ∀ tokens, lex source = .ok tokens →
        String.join (tokens.map Token.spelling) = source ∧
          ∀ other, lex other = .ok tokens → other = source := by
  obtain ⟨reading, -⟩ := (Lexer.between_ofString source).rest
  refine ⟨String.toList_injective reading.toList_join_spelling, fun tokens lexed => ?_⟩
  have spelled : String.join (tokens.map Token.spelling) = source :=
    String.toList_injective (lex_eq_ok_iff.1 lexed).1.toList_join_spelling
  refine ⟨spelled, fun other lexed' => ?_⟩
  rw [← spelled]
  exact String.toList_injective (lex_eq_ok_iff.1 lexed').1.toList_join_spelling.symm

/-- A number before a dot, an open comment and characters of several bytes. -/
theorem join_spelling_fraction_comment :
    lex "1.2.3//é\"\r" =
        .ok [⟨.number, "1.2", ⟨1, 1⟩⟩, ⟨.symbol .dot, "", ⟨1, 4⟩⟩, ⟨.number, "3", ⟨1, 5⟩⟩,
          ⟨.lineComment, "é\"\r", ⟨1, 6⟩⟩] ∧
      String.join (["1.2", ".", "3", "//é\"\r"]) = "1.2.3//é\"\r" := by
  have lexed : lex "1.2.3//é\"\r" =
      .ok [⟨.number, "1.2", ⟨1, 1⟩⟩, ⟨.symbol .dot, "", ⟨1, 4⟩⟩, ⟨.number, "3", ⟨1, 5⟩⟩,
        ⟨.lineComment, "é\"\r", ⟨1, 6⟩⟩] := by decide +kernel
  exact ⟨lexed, ((join_spelling_rest _).2 _ lexed).1⟩

end LoxLexer
