import LoxLexer.Proofs.Positions

/-!
# Text that is put behind a source

What a source is lexed to can change at its end if the source goes on, since a token there may take
more text, but not far from the end, and not at all in front of an error.

* `lex_append_of_refused`: a source that goes on keeps its error if the cause of it stays.
* `lex_append_eq_unterminatedString_iff`: an open string stays the error of the source as long as
  nothing closes it.
* `Reading.dropLast_dropLast_prefix`: all tokens but the last two stay.
* `lex_append_stable`: what becomes of the errors and of the tokens of a source.
-/

namespace LoxLexer

/-! ## Errors -/

/-- A character that is refused is no dot, and so it is enough for the tokens in front of it. -/
theorem Refused.seals {position : Position} {c : Char} {after : List Char} {error : LexError}
    (refused : Refused position c after error) (behind more : List Char) :
    Seals (c :: behind) more := by
  have dot : c ≠ '.' := by
    cases refused with
    | unclosed _ => decide
    | stray nothing => exact Opening.ne_of_nothing nothing (by decide)
  exact .of_ne (List.cons_ne_nil c behind) fun alone => dot (List.cons.inj alone).1

/-- The tokens in front of an error stay, and so does the error if it still has its cause. -/
theorem lex_append_of_refused {a b : String} {text after : List Char} {tokens : List Token}
    {c : Char} {error : LexError} (whole : a.toList = text ++ c :: after)
    (front : ReadingBefore (c :: after) .start text tokens)
    (legal : ∀ token ∈ tokens, token.kind ≠ .illegal)
    (refused : Refused (Position.start.walk text) c (after ++ b.toList) error) :
    lex (a ++ b) = .error error := by
  have front' := front.append legal (refused.seals after b.toList)
  have whole' : (a ++ b).toList = text ++ c :: (after ++ b.toList) := by
    rw [String.toList_append, whole, List.append_assoc, List.cons_append]
  exact lex_eq_error_iff.2 ⟨text, tokens, c, after ++ b.toList, whole', front', legal, refused⟩

theorem lex_append_eq_unexpectedCharacter {a b : String} {c : Char} {position : Position}
    (lexed : lex a = .error (.unexpectedCharacter c position)) :
    lex (a ++ b) = .error (.unexpectedCharacter c position) := by
  obtain ⟨text, tokens, c', after, whole, front, legal, refused⟩ := lex_eq_error_iff.1 lexed
  cases refused with
  | stray nothing => exact lex_append_of_refused whole front legal (.stray nothing)

theorem lex_append_eq_unterminatedString_iff {a b : String} {position : Position}
    (lexed : lex a = .error (.unterminatedString position)) :
    lex (a ++ b) = .error (.unterminatedString position) ↔ '"' ∉ b.toList := by
  obtain ⟨text, tokens, c, after, whole, front, legal, refused⟩ := lex_eq_error_iff.1 lexed
  obtain ⟨rfl, inside, rfl⟩ := refused_unterminatedString_iff.1 refused
  constructor
  · intro lexed'
    obtain ⟨text', tokens', c', after', whole', -, -, refused'⟩ := lex_eq_error_iff.1 lexed'
    obtain ⟨rfl, inside', walks⟩ := refused_unterminatedString_iff.1 refused'
    rw [String.toList_append, whole, List.append_assoc, List.cons_append] at whole'
    -- one position, hence one place in the source: the string that is open is still the same
    obtain rfl := Position.eq_of_walk_eq whole' walks
    obtain ⟨-, rfl⟩ := List.cons.inj (List.append_cancel_left whole')
    exact fun mem => inside' (List.mem_append_right after mem)
  · intro outside
    have inside' : '"' ∉ after ++ b.toList := by
      rw [List.mem_append]
      exact not_or.2 ⟨inside, outside⟩
    exact lex_append_of_refused whole front legal (.unclosed inside')

/-! ## Tokens -/

/-- A text of two tokens has two characters, which is as far as the tokens in front of it look. -/
theorem Reading.seals_of_two {position : Position} {text : List Char} {first second : Token}
    (reading : Reading position text [first, second]) (more : List Char) : Seals text more := by
  cases reading with
  | @cons _ text _ after _ _ cut behind =>
    have some : after ≠ [] := by
      intro none
      subst none
      exact List.cons_ne_nil _ _ behind.eq_nil
    refine .of_ne (List.append_ne_nil_of_left_ne_nil cut.ne_nil after) fun alone => ?_
    rcases List.append_eq_singleton_iff.1 alone with ⟨none, -⟩ | ⟨-, none⟩
    · exact cut.ne_nil none
    · exact some none

/-- The tokens of a text stay when it goes on, except for the last two. -/
theorem Reading.dropLast_dropLast_prefix {position : Position} {text more : List Char}
    {tokens tokens' : List Token} (reading : Reading position text tokens)
    (legal : ∀ token ∈ tokens, token.kind ≠ .illegal)
    (reading' : Reading position (text ++ more) tokens') :
    tokens.dropLast.dropLast <+: tokens' := by
  rcases tokens.eq_nil_or_concat' with rfl | ⟨others, last, rfl⟩
  · exact List.nil_prefix
  rw [List.dropLast_concat]
  rcases others.eq_nil_or_concat' with rfl | ⟨first, last', rfl⟩
  · exact List.nil_prefix
  rw [List.dropLast_concat]
  rw [List.append_assoc] at reading legal
  obtain ⟨text', after, rfl, front, behind⟩ := reading.exists_before
  have front' := front.append (List.forall_mem_append.1 legal).1 (behind.seals_of_two more)
  obtain ⟨later, behind'⟩ := exists_reading (position.walk text') (after ++ more)
  have whole := front'.reading behind'
  rw [← List.append_assoc] at whole
  exact ⟨later, reading'.unique whole⟩

/-- **What text behind a source can change.** A stray character stays the error of the source. An
open string does exactly as long as nothing closes it. So a beginning of a source that can be lexed
can end in an open string, but it has no stray character, and if it can be lexed itself, it has the
tokens of the source up to its last two. -/
theorem lex_append_stable (a b : String) :
    (∀ c position, lex a = .error (.unexpectedCharacter c position) →
      lex (a ++ b) = .error (.unexpectedCharacter c position)) ∧
    (∀ position, lex a = .error (.unterminatedString position) →
      (lex (a ++ b) = .error (.unterminatedString position) ↔ '"' ∉ b.toList)) ∧
    ∀ tokens, lex (a ++ b) = .ok tokens →
      ((∃ tokens', lex a = .ok tokens') ∨
        ∃ position, lex a = .error (.unterminatedString position)) ∧
      ∀ tokens', lex a = .ok tokens' → tokens'.dropLast.dropLast <+: tokens := by
  refine ⟨fun c position => lex_append_eq_unexpectedCharacter,
    fun position => lex_append_eq_unterminatedString_iff, ?_⟩
  intro tokens lexed
  constructor
  · cases lexed' : lex a with
    | ok tokens' => exact .inl ⟨tokens', rfl⟩
    | error error =>
      obtain ⟨_, _, _, _, _, _, _, refused⟩ := lex_eq_error_iff.1 lexed'
      cases refused with
      | unclosed _ => exact .inr ⟨_, rfl⟩
      | stray _ =>
        rw [lex_append_eq_unexpectedCharacter lexed'] at lexed
        cases lexed
  · intro tokens' lexed'
    obtain ⟨reading, -⟩ := lex_eq_ok_iff.1 lexed
    obtain ⟨reading', legal⟩ := lex_eq_ok_iff.1 lexed'
    rw [String.toList_append] at reading
    exact reading'.dropLast_dropLast_prefix legal reading

/-- A stray character stays the error, an open string is closed by a quote only, and a digit makes
one token of the last two. -/
theorem lex_append_stable_fraction :
    lex ("x @" ++ "\"") = .error (.unexpectedCharacter '@' ⟨1, 3⟩) ∧
      lex ("1 \"s" ++ "t") = .error (.unterminatedString ⟨1, 3⟩) ∧
      lex ("1 \"s" ++ "\"") ≠ .error (.unterminatedString ⟨1, 3⟩) ∧
      lex "a 1." = .ok [⟨.identifier, "a", ⟨1, 1⟩⟩, ⟨.whitespace, " ", ⟨1, 2⟩⟩,
        ⟨.number, "1", ⟨1, 3⟩⟩, ⟨.symbol .dot, "", ⟨1, 4⟩⟩] ∧
      lex ("a 1." ++ "5") = .ok [⟨.identifier, "a", ⟨1, 1⟩⟩, ⟨.whitespace, " ", ⟨1, 2⟩⟩,
        ⟨.number, "1.5", ⟨1, 3⟩⟩] ∧
      [⟨.identifier, "a", ⟨1, 1⟩⟩, ⟨.whitespace, " ", ⟨1, 2⟩⟩] <+:
        [(⟨.identifier, "a", ⟨1, 1⟩⟩ : Token), ⟨.whitespace, " ", ⟨1, 2⟩⟩,
          ⟨.number, "1.5", ⟨1, 3⟩⟩] := by
  have stray : lex "x @" = .error (.unexpectedCharacter '@' ⟨1, 3⟩) := by decide +kernel
  have unclosed : lex "1 \"s" = .error (.unterminatedString ⟨1, 3⟩) := by decide +kernel
  have short : lex "a 1." = .ok [⟨.identifier, "a", ⟨1, 1⟩⟩, ⟨.whitespace, " ", ⟨1, 2⟩⟩,
      ⟨.number, "1", ⟨1, 3⟩⟩, ⟨.symbol .dot, "", ⟨1, 4⟩⟩] := by decide +kernel
  have long : lex ("a 1." ++ "5") = .ok [⟨.identifier, "a", ⟨1, 1⟩⟩,
      ⟨.whitespace, " ", ⟨1, 2⟩⟩, ⟨.number, "1.5", ⟨1, 3⟩⟩] := by decide +kernel
  refine ⟨(lex_append_stable _ _).1 _ _ stray, ?_, ?_, short, long, ?_⟩
  · exact ((lex_append_stable _ _).2.1 _ unclosed).2 (by decide)
  · exact fun lexed => ((lex_append_stable _ _).2.1 _ unclosed).1 lexed (by decide)
  · exact ((lex_append_stable _ _).2.2 _ long).2 _ short

end LoxLexer
