import LoxLexer.CharStream.Basic
import LoxLexer.Text.Utf8

/-!
# What a stream has given and has still to give

`stream.Between before after` says that a stream stands in a text between `before`, which it has
given, and `after`, which it has still to give, whatever waits in its lookahead buffer. This fixes
all that a stream shows of itself, and every operation keeps it:

* `between_ofString`: a new stream stands before its whole text.
* `Between.next?_cons` and `Between.next?_nil`: the next character, or the end.
* `Between.peek?` and `Between.peekSecond?`: looking ahead moves nothing.
* `Between.nextIf` and `Between.skipWhile`: the conditional steps.
-/

namespace LoxLexer.CharStream

/-- The characters that a stream has still to give: those that wait in the buffer come first. -/
def rest (stream : CharStream) : List Char :=
  stream.ahead.toList ++ stream.undecoded

/-- The stream has given `before` of its text and has still to give `after`. -/
structure Between (stream : CharStream) (before after : List Char) : Prop where
  valid : stream.ahead.Valid
  rest_eq : stream.rest = after
  consumed_eq : stream.consumed = Utf8.size before
  length_eq : stream.length = Utf8.size (before ++ after)
  position_eq : stream.position = Position.start.walk before

theorem between_ofString (source : String) : (ofString source).Between [] source.toList where
  valid := Lookahead.valid_empty
  rest_eq := rfl
  consumed_eq := rfl
  length_eq := (Utf8.size_toList source).symm
  position_eq := rfl

/-- Looking ahead reorders nothing, and stops only if enough characters wait or none are left. -/
theorem fillFrom_view {count : Nat} (bound : count ≤ Lookahead.capacity) {ahead : Lookahead}
    (valid : ahead.Valid) (undecoded : List Char) :
    (fillFrom count ahead undecoded).1.Valid ∧
      (fillFrom count ahead undecoded).1.toList ++ (fillFrom count ahead undecoded).2 =
        ahead.toList ++ undecoded ∧
      (count ≤ (fillFrom count ahead undecoded).1.count ∨
        (fillFrom count ahead undecoded).2 = []) := by
  fun_induction fillFrom count ahead undecoded with
  | case1 ahead => exact ⟨valid, rfl, .inr rfl⟩
  | case2 ahead c undecoded few ih =>
    have room : ahead.count < Lookahead.capacity := Nat.lt_of_lt_of_le few bound
    obtain ⟨valid', view, enough⟩ := ih (valid.push room c)
    refine ⟨valid', ?_, enough⟩
    rw [view, Lookahead.toList_push valid room, List.append_assoc, List.singleton_append]
  | case3 ahead c undecoded many => exact ⟨valid, rfl, .inl (Nat.le_of_not_lt many)⟩

namespace Between

variable {stream : CharStream} {before after : List Char}

/-- All bytes have been given exactly if no character is left. -/
theorem atEnd_iff (between : stream.Between before after) : stream.atEnd ↔ after = [] := by
  simp only [atEnd, between.consumed_eq, between.length_eq, Utf8.size_append, decide_eq_true_eq]
  cases after with
  | nil => simp
  | cons c after =>
    have := c.utf8Size_pos
    simp
    omega

theorem pass {c : Char} (between : stream.Between before (c :: after)) {ahead : Lookahead}
    {undecoded : List Char} (valid : ahead.Valid) (rest : ahead.toList ++ undecoded = after) :
    ({ stream with ahead, undecoded }.pass c).Between (before ++ [c]) after where
  valid := valid
  rest_eq := rest
  consumed_eq := by simp [CharStream.pass, between.consumed_eq]
  length_eq := by simp [CharStream.pass, between.length_eq]
  position_eq := by simp [CharStream.pass, between.position_eq, Position.walk_append]

theorem next?_nil (between : stream.Between before []) : stream.next? = none := by
  have nothing := between.rest_eq
  simp only [CharStream.rest, List.append_eq_nil_iff] at nothing
  simp [CharStream.next?, (Lookahead.pop?_eq_none_iff between.valid).2 nothing.1, nothing.2]

theorem next?_cons {c : Char} (between : stream.Between before (c :: after)) :
    ∃ stream', stream.next? = some (c, stream') ∧ stream'.Between (before ++ [c]) after := by
  have rest := between.rest_eq
  simp only [CharStream.rest] at rest
  simp only [CharStream.next?]
  split
  · next d ahead taken =>
    rw [Lookahead.toList_of_pop? between.valid taken, List.cons_append, List.cons.injEq] at rest
    obtain ⟨rfl, rest⟩ := rest
    exact ⟨_, rfl, between.pass (between.valid.pop taken) rest⟩
  · next empty =>
    rw [Lookahead.pop?_eq_none_iff between.valid] at empty
    rw [empty, List.nil_append] at rest
    simp only [rest]
    exact ⟨_, rfl, between.pass between.valid (by simp [empty])⟩

theorem skip {c : Char} (between : stream.Between before (c :: after)) :
    stream.skip.Between (before ++ [c]) after := by
  obtain ⟨stream', given, between'⟩ := between.next?_cons
  simpa [CharStream.skip, given] using between'

theorem fill (between : stream.Between before after) {count : Nat}
    (bound : count ≤ Lookahead.capacity) :
    (stream.fill count).Between before after ∧
      ∀ index < count, (stream.fill count).ahead.get? index = after[index]? := by
  have main := fillFrom_view bound between.valid stream.undecoded
  obtain ⟨valid, view, enough⟩ := main
  have rest : (stream.fill count).rest = after := view.trans between.rest_eq
  refine ⟨⟨valid, rest, between.consumed_eq, between.length_eq, between.position_eq⟩, ?_⟩
  intro index index_lt
  have valid' : (stream.fill count).ahead.Valid := valid
  rw [Lookahead.get?_eq_getElem?_toList valid', ← rest, CharStream.rest]
  rcases enough with full | done
  · rw [List.getElem?_append_left]
    rw [Lookahead.length_toList valid']
    exact Nat.lt_of_lt_of_le index_lt full
  · have none_left : (stream.fill count).undecoded = [] := done
    rw [none_left, List.append_nil]

theorem peek? (between : stream.Between before after) :
    stream.peek?.1 = after.head? ∧ stream.peek?.2.Between before after := by
  obtain ⟨between', sees⟩ := between.fill (show 1 ≤ Lookahead.capacity by decide)
  exact ⟨(sees 0 (by decide)).trans List.head?_eq_getElem?.symm, between'⟩

theorem peekSecond? (between : stream.Between before after) :
    stream.peekSecond?.1 = after[1]? ∧ stream.peekSecond?.2.Between before after := by
  obtain ⟨between', sees⟩ := between.fill (show 2 ≤ Lookahead.capacity by decide)
  exact ⟨sees 1 (by decide), between'⟩

/-- The expected character is skipped. -/
theorem nextIf_cons {expected : Char} (between : stream.Between before (expected :: after)) :
    ∃ stream', stream.nextIf expected = (true, stream') ∧
      stream'.Between (before ++ [expected]) after := by
  obtain ⟨sees, between'⟩ := between.peek?
  exact ⟨_, by simp [CharStream.nextIf, sees], between'.skip⟩

/-- If the expected character is not the next one, nothing is skipped. -/
theorem nextIf_of_ne {expected : Char} (between : stream.Between before after)
    (other : after.head? ≠ some expected) :
    ∃ stream', stream.nextIf expected = (false, stream') ∧ stream'.Between before after := by
  obtain ⟨sees, between'⟩ := between.peek?
  exact ⟨_, by simp [CharStream.nextIf, sees, other], between'⟩

/-- The longest run that passes the test is skipped. -/
theorem skipWhile (between : stream.Between before after) (test : Char → Bool) :
    (stream.skipWhile test).Between (before ++ after.takeWhile test) (after.dropWhile test) := by
  induction after generalizing stream before with
  | nil =>
    obtain ⟨sees, between'⟩ := between.peek?
    rw [CharStream.skipWhile]
    split
    · next peek => simp [peek] at sees
    · next peek => simpa [peek] using between'
  | cons c after ih =>
    obtain ⟨sees, between'⟩ := between.peek?
    rw [CharStream.skipWhile]
    split
    · next d peeked peek =>
      simp only [peek, List.head?_cons, Option.some.injEq] at sees between'
      subst sees
      obtain ⟨stream', given, between''⟩ := between'.next?_cons
      by_cases passes : test d
      · simp only [passes, if_true, List.takeWhile_cons, List.dropWhile_cons]
        split
        · next given' =>
          cases given.symm.trans given'
          simpa using ih between''
        · next none_left => cases given.symm.trans none_left
      · simpa [passes] using between'
    · next peek => simp [peek] at sees

end Between

end LoxLexer.CharStream
