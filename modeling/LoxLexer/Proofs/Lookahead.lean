import LoxLexer.Proofs.ReadingBefore

/-!
# Two characters of lookahead

What a lexer has given depends on the text that it has read and on the two characters behind this
text. Whatever stands farther behind, the lexer has not looked at it, or nothing came of it.

`Lexer.InStep` relates lexers on two sources that differ only behind what has been read in the end.
As long as the one lexer does not read past that place, each call keeps them related and has the
same answer on both (`Lexer.InStep.answer`), and so does every sequence of calls
(`Lexer.InStep.answers`).
-/

namespace LoxLexer

namespace Lexer

/-- What calls leave to read is the end of what there was. -/
theorem Between.rest_answers_suffix {lexer : Lexer} {before after : List Char}
    (between : lexer.Between before after) (calls : List Call) :
    (lexer.answers calls).2.stream.rest <:+ lexer.stream.rest := by
  obtain ⟨taken, left, rfl, between'⟩ := between.answers calls
  rw [between.stream.rest_eq, between'.stream.rest_eq]
  exact List.suffix_append taken left

/-- Two lexers have read the same, and they have to read the same up to `left` and `left'`. -/
def InStep (left left' : List Char) (lexer lexer' : Lexer) : Prop :=
  ∃ before text, lexer.Between before (text ++ left) ∧ lexer'.Between before (text ++ left')

namespace InStep

variable {left left' : List Char} {lexer lexer' : Lexer}

section Calls

variable (replaceable : Replaceable left left') (ended : left = [] → left' = [])

include replaceable ended

/-- A token that does not go past `left` is cut off before `left'` as well. -/
theorem nextToken (inStep : InStep left left' lexer lexer')
    (within : left <:+ lexer.nextToken.2.stream.rest) :
    lexer'.nextToken.1 = lexer.nextToken.1 ∧
      InStep left left' lexer.nextToken.2 lexer'.nextToken.2 := by
  obtain ⟨before, text, between, between'⟩ := inStep
  by_cases more : text ++ left = []
  · obtain ⟨rfl, rfl⟩ := List.append_eq_nil_iff.1 more
    obtain rfl := ended rfl
    rw [Between.nextToken_nil between, Between.nextToken_nil between']
    exact ⟨rfl, before, [], between, between'⟩
  · obtain ⟨taken, kind, lexeme, after, moved, same, cut, next, behind⟩ :=
      between.exists_nextToken more
    rw [next, behind.stream.rest_eq] at within
    obtain ⟨text', rfl⟩ := within
    obtain rfl : text = taken ++ text' :=
      List.append_cancel_right (same.trans (List.append_assoc taken text' left).symm)
    have cut' := cut.replace (replaceable.append_left text') (.inr (append_eq_nil_of_imp ended))
    rw [List.append_assoc] at between'
    obtain ⟨moved', next', behind'⟩ := between'.nextToken_of_cut cut'
    rw [next, next']
    exact ⟨rfl, before ++ taken, text', behind, behind'⟩

theorem next? (inStep : InStep left left' lexer lexer')
    (within : left <:+ lexer.next?.2.stream.rest) :
    lexer'.next?.1 = lexer.next?.1 ∧ InStep left left' lexer.next?.2 lexer'.next?.2 := by
  obtain ⟨token, inStep'⟩ := inStep.nextToken replaceable ended within
  refine ⟨?_, inStep'⟩
  simp only [Lexer.next?, token]

/-- All tokens are drawn only if nothing is left, and then the sources are the same. -/
theorem rest (inStep : InStep left left' lexer lexer')
    (within : left <:+ lexer.rest.2.stream.rest) :
    lexer'.rest.1 = lexer.rest.1 ∧ InStep left left' lexer.rest.2 lexer'.rest.2 := by
  obtain ⟨before, text, between, between'⟩ := inStep
  obtain ⟨reading, behind⟩ := between.rest
  rw [behind.stream.rest_eq] at within
  obtain rfl := List.suffix_nil.1 within
  obtain rfl := ended rfl
  obtain ⟨tokens, behind'⟩ := between'.rest_of_reading reading
  exact ⟨tokens, _, [], behind, behind'⟩

theorem answer (inStep : InStep left left' lexer lexer') (call : Call)
    (within : left <:+ (lexer.answer call).2.stream.rest) :
    (lexer'.answer call).1 = (lexer.answer call).1 ∧
      InStep left left' (lexer.answer call).2 (lexer'.answer call).2 := by
  cases call with
  | token => exact (inStep.nextToken replaceable ended within).imp_left (congrArg Answer.token)
  | next => exact (inStep.next? replaceable ended within).imp_left (congrArg Answer.next)
  | rest => exact (inStep.rest replaceable ended within).imp_left (congrArg Answer.rest)

/-- Calls that do not go past `left` in the end have never been past it. -/
theorem answers (inStep : InStep left left' lexer lexer') (calls : List Call)
    (within : left <:+ (lexer.answers calls).2.stream.rest) :
    (lexer'.answers calls).1 = (lexer.answers calls).1 ∧
      InStep left left' (lexer.answers calls).2 (lexer'.answers calls).2 := by
  induction calls generalizing lexer lexer' with
  | nil => exact ⟨rfl, inStep⟩
  | cons call calls ih =>
    have ⟨before, text, between, _⟩ := inStep
    obtain ⟨taken, after, -, between'⟩ := between.answer call
    have within' := within.trans (between'.rest_answers_suffix calls)
    obtain ⟨first, inStep'⟩ := inStep.answer replaceable ended call within'
    obtain ⟨others, final⟩ := ih inStep' within
    refine ⟨?_, final⟩
    simp only [Lexer.answers, first, others]

end Calls

end InStep

end Lexer

/-- **Two characters of lookahead decide every token.** After any calls on a new lexer, tokens one
by one or in any mixture, a part of the source has been read. Another source that starts with this
part and has the same two characters behind it, or the same end if there are fewer, gives the same
answers to these calls, illegal tokens included, and as much of it has been read. -/
theorem answers_of_take_two (source : String) (calls : List Lexer.Call) :
    ∃ given left : String, source = given ++ left ∧
      ((Lexer.ofString source).answers calls).2.stream.consumed = given.utf8ByteSize ∧
      ((Lexer.ofString source).answers calls).2.stream.rest = left.toList ∧
      ∀ left' : String, left'.toList.take 2 = left.toList.take 2 →
        ((Lexer.ofString (given ++ left')).answers calls).1 =
          ((Lexer.ofString source).answers calls).1 ∧
        ((Lexer.ofString (given ++ left')).answers calls).2.stream.consumed =
          given.utf8ByteSize ∧
        ((Lexer.ofString (given ++ left')).answers calls).2.stream.rest = left'.toList := by
  obtain ⟨before, after, whole, between⟩ := Lexer.exists_between source calls
  obtain ⟨given, rfl⟩ : ∃ given : String, given.toList = before :=
    ⟨String.ofList before, String.toList_ofList⟩
  obtain ⟨left, rfl⟩ : ∃ left : String, left.toList = after :=
    ⟨String.ofList after, String.toList_ofList⟩
  obtain rfl : source = given ++ left :=
    String.toList_injective (by rw [whole, String.toList_append])
  refine ⟨given, left, rfl, ?_, between.stream.rest_eq, fun left' same => ?_⟩
  · rw [between.stream.consumed_eq, Utf8.size_toList]
  have ended : left.toList = [] → left'.toList = [] := by
    intro none
    rw [none, List.take_nil] at same
    exact (List.take_eq_nil_iff.1 same).resolve_left nofun
  have start : Lexer.InStep left.toList left'.toList (.ofString (given ++ left))
      (.ofString (given ++ left')) := by
    refine ⟨[], given.toList, ?_, ?_⟩
    · rw [← String.toList_append]
      exact Lexer.between_ofString _
    · rw [← String.toList_append]
      exact Lexer.between_ofString _
  have within : left.toList <:+ ((Lexer.ofString (given ++ left)).answers calls).2.stream.rest := by
    simp only [between.stream.rest_eq, List.suffix_rfl]
  obtain ⟨answers, before, text, final, final'⟩ :=
    start.answers (.of_take same) ended calls within
  -- nothing is left in front of `left`, so the other lexer stands in front of `left'`
  obtain rfl : text = [] := by
    have rest := final.stream.rest_eq.symm.trans between.stream.rest_eq
    exact List.append_left_eq_self.1 rest
  have consumed := final.stream.consumed_eq.symm.trans between.stream.consumed_eq
  refine ⟨answers, ?_, final'.stream.rest_eq⟩
  rw [final'.stream.consumed_eq, consumed, Utf8.size_toList]

/-- Behind a number a letter behind the dot is enough, and without it there could be a fraction. -/
theorem answers_of_take_two_dot :
    ((Lexer.ofString "12.x").answers [.token]).1 = [.token ⟨.number, "12", ⟨1, 1⟩⟩] ∧
      ".xé\"".toList.take 2 = ".x".toList.take 2 ∧
      ((Lexer.ofString "12.xé\"").answers [.token]).1 = [.token ⟨.number, "12", ⟨1, 1⟩⟩] ∧
      ((Lexer.ofString "12.5").answers [.token]).1 ≠ [.token ⟨.number, "12", ⟨1, 1⟩⟩] := by
  have first : ((Lexer.ofString "12.x").answers [.token]).1 =
      [.token ⟨.number, "12", ⟨1, 1⟩⟩] := by decide +kernel
  have looked : ((Lexer.ofString "12.x").answers [.token]).2.stream.rest = ".x".toList := by
    decide +kernel
  have same : ".xé\"".toList.take 2 = ".x".toList.take 2 := by decide
  obtain ⟨given, left, source, -, rest, others⟩ := answers_of_take_two "12.x" [.token]
  obtain rfl : left = ".x" := String.toList_injective (rest.symm.trans looked)
  obtain rfl : given = "12" := by
    have whole : given.toList ++ ".x".toList = "12".toList ++ ".x".toList := by
      rw [← String.toList_append, ← source]
      rfl
    exact String.toList_injective (List.append_cancel_right whole)
  exact ⟨first, same, (others _ same).1.trans first, by decide +kernel⟩

end LoxLexer
