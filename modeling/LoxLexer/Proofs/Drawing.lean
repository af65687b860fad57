import LoxLexer.Proofs.ReadingBefore

/-!
# The tokens that calls draw

A lexer gives tokens one by one, with or without the end of the source, or all at once.
`Lexer.drawn` is what a mixture of calls has given in the end. However the calls are mixed, this is
the reading of what has been read, and behind it the end of the source as often as it was asked for
there: `DrawnBefore` says so, and `Lexer.Between.drawn` proves it of every sequence of calls.
-/

namespace LoxLexer

/-- The tokens that an answer gives. -/
def Lexer.Answer.tokens : Answer → List Token
  | token drawn => [drawn]
  | next drawn => drawn.toList
  | rest drawn => drawn

/-- The tokens that calls give, in order. -/
def Lexer.drawn (lexer : Lexer) (calls : List Call) : List Token :=
  (lexer.answers calls).1.flatMap Answer.tokens

/-- The end of a source that ends at a position. -/
def Token.eofAt (position : Position) : Token :=
  ⟨.eof, "", position⟩

/-- In front of `left`, these tokens are drawn off a text that starts at a position: the reading of
the text, and then the end of the source any number of times, but only if nothing is left. -/
def DrawnBefore (left : List Char) (position : Position) (text : List Char) (drawn : List Token) :
    Prop :=
  ∃ tokens ends, drawn = tokens ++ List.replicate ends (.eofAt (position.walk text)) ∧
    ReadingBefore left position text tokens ∧ (ends ≠ 0 → left = [])

namespace DrawnBefore

variable {left text text' : List Char} {position : Position} {drawn drawn' tokens : List Token}

theorem of_reading (front : ReadingBefore left position text tokens) :
    DrawnBefore left position text tokens :=
  ⟨tokens, 0, (List.append_nil tokens).symm, front, fun none => absurd rfl none⟩

theorem eof (position : Position) : DrawnBefore [] position [] [.eofAt position] :=
  ⟨[], 1, rfl, .nil, fun _ => rfl⟩

/-- What is drawn behind the end of the source is the end again. -/
theorem trans (first : DrawnBefore (text' ++ left) position text drawn)
    (second : DrawnBefore left (position.walk text) text' drawn') :
    DrawnBefore left position (text ++ text') (drawn ++ drawn') := by
  obtain ⟨tokens, ends, rfl, front, ended⟩ := first
  obtain ⟨tokens', ends', rfl, front', ended'⟩ := second
  rw [← Position.walk_append]
  by_cases none : ends = 0
  · subst none
    refine ⟨tokens ++ tokens', ends', ?_, front.trans front', ended'⟩
    simp only [List.replicate_zero, List.append_nil, List.append_assoc]
  · -- once the end has been drawn nothing is left, and only the end can follow
    obtain ⟨rfl, rfl⟩ := List.append_eq_nil_iff.1 (ended none)
    obtain rfl : tokens' = [] := (List.append_eq_nil_iff.1 (front'.reading .nil).eq_nil).1
    refine ⟨tokens, ends + ends', ?_, ?_, fun _ => rfl⟩
    · simp only [List.append_nil, List.nil_append, List.append_assoc,
        List.replicate_append_replicate]
    · rwa [List.append_nil]

end DrawnBefore

namespace Lexer.Between

variable {lexer : Lexer} {before after : List Char}

/-- The end of the source is drawn where nothing is left, and one token elsewhere. -/
theorem drawn_nextToken (between : lexer.Between before after) :
    ∃ text left, after = text ++ left ∧
      DrawnBefore left (Position.start.walk before) text [lexer.nextToken.1] ∧
      lexer.nextToken.2.Between (before ++ text) left := by
  by_cases more : after = []
  · subst more
    rw [between.nextToken_nil]
    exact ⟨[], [], rfl, .eof _, by rwa [List.append_nil]⟩
  · obtain ⟨text, kind, lexeme, left, lexer', same, cut, next, between'⟩ :=
      between.exists_nextToken more
    rw [next]
    exact ⟨text, left, same, .of_reading (.of_cut cut _), between'⟩

theorem drawn_next? (between : lexer.Between before after) :
    ∃ text left, after = text ++ left ∧
      DrawnBefore left (Position.start.walk before) text lexer.next?.1.toList ∧
      lexer.next?.2.Between (before ++ text) left := by
  by_cases more : after = []
  · subst more
    rw [between.next?_nil]
    exact ⟨[], [], rfl, .of_reading .nil, by rwa [List.append_nil]⟩
  · obtain ⟨text, kind, lexeme, left, rfl, cut⟩ := Lexer.exists_cut more
    obtain ⟨lexer', next, between'⟩ := between.next?_of_cut cut
    rw [next]
    exact ⟨text, left, rfl, .of_reading (.of_cut cut _), between'⟩

/-- What one call draws. -/
theorem drawn_answer (between : lexer.Between before after) (call : Call) :
    ∃ text left, after = text ++ left ∧
      DrawnBefore left (Position.start.walk before) text (lexer.answer call).1.tokens ∧
      (lexer.answer call).2.Between (before ++ text) left := by
  cases call with
  | token => exact between.drawn_nextToken
  | next => exact between.drawn_next?
  | rest =>
    obtain ⟨reading, between'⟩ := between.rest
    exact ⟨after, [], (List.append_nil after).symm, .of_reading reading.before, between'⟩

/-- What a sequence of calls draws. -/
theorem drawn (between : lexer.Between before after) (calls : List Call) :
    ∃ text left, after = text ++ left ∧
      DrawnBefore left (Position.start.walk before) text (lexer.drawn calls) ∧
      (lexer.answers calls).2.Between (before ++ text) left := by
  induction calls generalizing lexer before after with
  | nil => exact ⟨[], after, rfl, .of_reading .nil, by rwa [List.append_nil]⟩
  | cons call calls ih =>
    obtain ⟨text, middle, rfl, first, between'⟩ := between.drawn_answer call
    obtain ⟨text', left, rfl, others, between''⟩ := ih between'
    rw [Position.walk_append] at others
    refine ⟨text ++ text', left, (List.append_assoc ..).symm, first.trans others, ?_⟩
    rw [← List.append_assoc]
    exact between''

end Lexer.Between

end LoxLexer
