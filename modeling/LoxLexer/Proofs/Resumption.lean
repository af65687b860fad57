import LoxLexer.Proofs.Reading

/-!
# Resuming a scan

A lexer that stands between two tokens goes on like a new lexer on the text that is left, except
that its positions go on from the place where it stands. How much of that text it has already looked
at makes no difference.

`Lexer.Resumes` relates the two lexers. Each call keeps them related and gives the same answer up to
the positions (`Lexer.Resumes.answer`), so every sequence of calls does (`Lexer.Resumes.answers`).
-/

namespace LoxLexer

/-- A token of a text, placed in a larger text in which that text starts at `base`. -/
def Token.placeAfter (base : Position) (token : Token) : Token :=
  { token with position := base.after token.position }

namespace Lexer

/-- An answer with all its tokens placed in a larger text. -/
def Answer.placeAfter (base : Position) : Answer → Answer
  | .token drawn => .token (drawn.placeAfter base)
  | .next drawn => .next (drawn.map (Token.placeAfter base))
  | .rest drawn => .rest (drawn.map (Token.placeAfter base))

/-- Behind `given`, the two lexers have read and have still to read the same. -/
def Resumes (given : List Char) (lexer fresh : Lexer) : Prop :=
  ∃ before after, lexer.Between (given ++ before) after ∧ fresh.Between before after

end Lexer

/-! ## Positions -/

theorem Position.walk_start_append (given before : List Char) :
    Position.start.walk (given ++ before) =
      (Position.start.walk given).after (Position.start.walk before) := by
  rw [Position.walk_append, Position.after_walk]

/-- A text has the same reading behind another text, at the positions there. -/
theorem Reading.placeAfter {given before text : List Char} {tokens : List Token}
    (reading : Reading (Position.start.walk before) text tokens) :
    Reading (Position.start.walk (given ++ before)) text
      (tokens.map (Token.placeAfter (Position.start.walk given))) := by
  generalize placed : Position.start.walk before = position at reading
  induction reading generalizing before with
  | nil => exact .nil
  | @cons position text lexeme after kind tokens cut _ ih =>
    subst placed
    have behind := ih (Position.walk_append Position.start before text)
    rw [← List.append_assoc, Position.walk_append] at behind
    have reading := Reading.cons cut behind
    rw [Position.walk_start_append] at reading ⊢
    exact reading

/-! ## Calls on two related lexers -/

namespace Lexer.Resumes

variable {given : List Char} {lexer fresh : Lexer}

/-- Both lexers cut the same token, or both are at the end. -/
theorem nextToken (resumes : Resumes given lexer fresh) :
    lexer.nextToken.1 = fresh.nextToken.1.placeAfter (Position.start.walk given) ∧
      Resumes given lexer.nextToken.2 fresh.nextToken.2 := by
  obtain ⟨before, after, between, between'⟩ := resumes
  have position := Position.walk_start_append given before
  by_cases more : after = []
  · subst more
    rw [between.nextToken_nil, between'.nextToken_nil, position]
    exact ⟨rfl, before, [], between, between'⟩
  · obtain ⟨text, kind, lexeme, after, fresh', rfl, cut, next', moved'⟩ :=
      between'.exists_nextToken more
    obtain ⟨lexer', next, moved⟩ := between.nextToken_of_cut cut
    rw [List.append_assoc] at moved
    rw [next, next', position]
    exact ⟨rfl, before ++ text, after, moved, moved'⟩

theorem next? (resumes : Resumes given lexer fresh) :
    lexer.next?.1 = fresh.next?.1.map (Token.placeAfter (Position.start.walk given)) ∧
      Resumes given lexer.next?.2 fresh.next?.2 := by
  obtain ⟨token, resumes'⟩ := resumes.nextToken
  have kind : lexer.nextToken.1.kind = fresh.nextToken.1.kind := by
    rw [token]
    rfl
  refine ⟨?_, resumes'⟩
  simp only [Lexer.next?, kind]
  split
  · rfl
  · rw [token]
    rfl

theorem rest (resumes : Resumes given lexer fresh) :
    lexer.rest.1 = fresh.rest.1.map (Token.placeAfter (Position.start.walk given)) ∧
      Resumes given lexer.rest.2 fresh.rest.2 := by
  obtain ⟨before, after, between, between'⟩ := resumes
  obtain ⟨reading, moved'⟩ := between'.rest
  obtain ⟨tokens, moved⟩ := between.rest_of_reading reading.placeAfter
  rw [List.append_assoc] at moved
  exact ⟨tokens, before ++ after, [], moved, moved'⟩

/-- A call keeps two lexers related and has the same answer on both up to positions. -/
theorem answer (resumes : Resumes given lexer fresh) (call : Call) :
    (lexer.answer call).1 = (fresh.answer call).1.placeAfter (Position.start.walk given) ∧
      Resumes given (lexer.answer call).2 (fresh.answer call).2 := by
  cases call with
  | token => exact resumes.nextToken.imp_left (congrArg Answer.token)
  | next => exact resumes.next?.imp_left (congrArg Answer.next)
  | rest => exact resumes.rest.imp_left (congrArg Answer.rest)

theorem answers (resumes : Resumes given lexer fresh) (calls : List Call) :
    (lexer.answers calls).1 =
      (fresh.answers calls).1.map (Answer.placeAfter (Position.start.walk given)) := by
  induction calls generalizing lexer fresh with
  | nil => rfl
  | cons call calls ih =>
    obtain ⟨first, resumes'⟩ := resumes.answer call
    have others := ih resumes'
    simp only [Lexer.answers, List.map_cons, first, others]

end Lexer.Resumes

/-- At any place in its source a lexer goes on like a new one on the text that is left. -/
theorem Lexer.Between.resumes {lexer : Lexer} {before : List Char} {left : String}
    (between : lexer.Between before left.toList) :
    Lexer.Resumes before lexer (Lexer.ofString left) :=
  ⟨[], left.toList, by rwa [List.append_nil], Lexer.between_ofString left⟩

/-- **A scan can be resumed at any token boundary.** After any calls on a new lexer, further calls
have the answers that a new lexer on the text left has, with the positions placed behind the text
given. The answers stay the same however the text left is divided between the lookahead buffer and
the characters that have not been looked at. -/
theorem answers_resume {source : String} {calls : List Lexer.Call} {lexer : Lexer}
    (reached : ((Lexer.ofString source).answers calls).2 = lexer) (later : List Lexer.Call) :
    ∃ given left, source = given ++ left ∧ lexer.stream.consumed = given.utf8ByteSize ∧
      lexer.stream.rest = left.toList ∧
      (lexer.answers later).1 = ((Lexer.ofString left).answers later).1.map
        (Lexer.Answer.placeAfter (Position.start.walk given.toList)) ∧
      ∀ (ahead : Lookahead) (undecoded : List Char), ahead.Valid →
        ahead.toList ++ undecoded = left.toList →
        (Lexer.answers { lexer with stream := { lexer.stream with ahead, undecoded } } later).1 =
          (lexer.answers later).1 := by
  obtain ⟨before, after, whole, between⟩ := Lexer.exists_between source calls
  rw [reached] at between
  obtain ⟨given, rfl⟩ : ∃ given : String, given.toList = before :=
    ⟨String.ofList before, String.toList_ofList⟩
  obtain ⟨left, rfl⟩ : ∃ left : String, left.toList = after :=
    ⟨String.ofList after, String.toList_ofList⟩
  have source_eq : source = given ++ left :=
    String.toList_injective (by rw [whole, String.toList_append])
  have answered := between.resumes.answers later
  refine ⟨given, left, source_eq, ?_, between.stream.rest_eq, answered, ?_⟩
  · rw [between.stream.consumed_eq, Utf8.size_toList]
  · intro ahead undecoded valid rest
    have refilled : ({ lexer with stream := { lexer.stream with ahead, undecoded } } :
        Lexer).Between given.toList left.toList :=
      ⟨between.source_eq, valid, rest, between.stream.consumed_eq, between.stream.length_eq,
        between.stream.position_eq⟩
    rw [refilled.resumes.answers, answered]

/-- Behind the number on the second line two characters wait in the lookahead buffer. -/
theorem answers_resume_two_ahead :
    ((Lexer.ofString "a\n1.x\ny").answers [.token, .next, .token]).2.stream.ahead.toList =
        ['.', 'x'] ∧
      (((Lexer.ofString "a\n1.x\ny").answers [.token, .next, .token]).2.answers
          [.token, .rest, .token]).1 =
        ((Lexer.ofString ".x\ny").answers [.token, .rest, .token]).1.map
          (Lexer.Answer.placeAfter ⟨2, 2⟩) := by
  have ahead : ((Lexer.ofString "a\n1.x\ny").answers
      [.token, .next, .token]).2.stream.ahead.toList = ['.', 'x'] := by decide +kernel
  have looked : ((Lexer.ofString "a\n1.x\ny").answers
      [.token, .next, .token]).2.stream.rest = ".x\ny".toList := by decide +kernel
  obtain ⟨given, left, source, -, rest, answers, -⟩ :=
    @answers_resume "a\n1.x\ny" [.token, .next, .token] _ rfl [.token, .rest, .token]
  obtain rfl : left = ".x\ny" := String.toList_injective (rest.symm.trans looked)
  have start : given.toList = ['a', '\n', '1'] := by
    have whole : ['a', '\n', '1'] ++ ".x\ny".toList = given.toList ++ ".x\ny".toList := by
      rw [← String.toList_append, ← source]
      rfl
    exact (List.append_cancel_right whole).symm
  rw [start] at answers
  exact ⟨ahead, answers⟩

end LoxLexer
