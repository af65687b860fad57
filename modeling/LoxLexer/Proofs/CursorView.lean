import LoxLexer.CharStream.Between
import LoxLexer.CharStream.Cursor

/-!
# A stream is seen as a cursor

The ring, the characters not yet looked at and the counters of a stream are out of sight: a stream
shows what a cursor in its text shows, however much of the text waits in the ring.

* `Cursor.between` is the cursor that stands where a stream `Between` two parts of its text does.
* `CharStream.Between.answer`: there a call has one answer, and moves both over the same text.
* `CharStream.Between.observe` and `CharStream.Between.performed`: so does every sequence of calls.
-/

namespace LoxLexer

open CharStream (Call Answer Observation)

namespace Cursor

/-- The cursor after the calls, made in order. -/
def performed (cursor : Cursor) (calls : List Call) : Cursor :=
  calls.foldl (fun cursor call => (cursor.answer call).2) cursor

/-- The cursor between two parts of a text. -/
def between (before after : List Char) : Cursor :=
  ⟨before ++ after, before.length⟩

variable (before taken after : List Char)

theorem between_nil (text : List Char) : between [] text = ofText text := rfl

theorem move_between :
    (between before (taken ++ after)).move taken.length = between (before ++ taken) after := by
  unfold move between
  rw [List.append_assoc, List.length_append]

/-! ## What a cursor shows -/

theorem consumed_between : (between before after).consumed = Utf8.size before := by
  unfold consumed between
  rw [List.take_left]

theorem position_between : (between before after).position = .behind before := by
  unfold position between
  rw [List.take_left]

theorem atEnd_between : (between before after).atEnd ↔ after = [] := by
  simp only [atEnd, between, decide_eq_true_eq, List.length_append]
  rw [← List.length_eq_zero_iff]
  omega

/-- The characters that a cursor sees are those behind it. -/
theorem getElem?_between (offset : Nat) :
    (between before after).text[(between before after).index + offset]? = after[offset]? := by
  unfold between
  rw [List.getElem?_append_right (Nat.le_add_right ..), Nat.add_sub_cancel_left]

theorem drop_between : (between before after).text.drop (between before after).index = after :=
  List.drop_left

end Cursor

namespace CharStream.Between

variable {stream : CharStream} {before after : List Char}

/-! ## Calls -/

/-- A call has the same answer on a stream and on the cursor at the same place, and takes them over
the same part of the text. -/
theorem answer (between : stream.Between before after) (call : Call) :
    ∃ taken left, after = taken ++ left ∧
      (stream.answer call).2.Between (before ++ taken) left ∧
      (Cursor.between before after).answer call =
        ((stream.answer call).1, Cursor.between (before ++ taken) left) := by
  have next : (Cursor.between before after).text[(Cursor.between before after).index]? =
      after.head? := by
    rw [List.head?_eq_getElem?]
    exact Cursor.getElem?_between before after 0
  cases call with
  | next =>
    simp only [CharStream.answer, Cursor.answer, next]
    cases after with
    | nil =>
      have none_left := between.next?_nil
      refine ⟨[], [], rfl, ?_, ?_⟩
      · rw [List.append_nil, CharStream.skip, none_left]
        exact between
      · rw [List.append_nil, none_left]
        rfl
    | cons c left =>
      obtain ⟨stream', given, between'⟩ := between.next?_cons
      refine ⟨[c], left, rfl, between.skip, ?_⟩
      rw [given]
      exact congrArg (Prod.mk _) (Cursor.move_between before [c] left)
  | peek =>
    obtain ⟨sees, between'⟩ := between.peek?
    refine ⟨[], after, rfl, by rwa [List.append_nil], ?_⟩
    simp only [CharStream.answer, Cursor.answer, next, sees, List.append_nil]
  | peekSecond =>
    obtain ⟨sees, between'⟩ := between.peekSecond?
    refine ⟨[], after, rfl, by rwa [List.append_nil], ?_⟩
    simp only [CharStream.answer, Cursor.answer, Cursor.getElem?_between, sees, List.append_nil]
  | nextIf expected =>
    simp only [CharStream.answer, Cursor.answer, next]
    by_cases met : after.head? = some expected
    · obtain ⟨left, rfl⟩ := List.head?_eq_some_iff.1 met
      obtain ⟨stream', took, between'⟩ := between.nextIf_cons
      refine ⟨[expected], left, rfl, ?_, ?_⟩
      · rw [took]
        exact between'
      · rw [if_pos met, took]
        exact congrArg (Prod.mk _) (Cursor.move_between before [expected] left)
    · obtain ⟨stream', stayed, between'⟩ := between.nextIf_of_ne met
      refine ⟨[], after, rfl, ?_, ?_⟩
      · rw [stayed, List.append_nil]
        exact between'
      · rw [if_neg met, stayed, List.append_nil]
  | skipWhile test =>
    refine ⟨after.takeWhile test, after.dropWhile test, List.takeWhile_append_dropWhile.symm,
      between.skipWhile test, ?_⟩
    simp only [CharStream.answer, Cursor.answer, Cursor.drop_between]
    have moved := Cursor.move_between before (after.takeWhile test) (after.dropWhile test)
    rw [List.takeWhile_append_dropWhile] at moved
    rw [moved]
  | look => exact ⟨[], after, rfl, by rwa [List.append_nil], by rw [List.append_nil]; rfl⟩

/-- Every sequence of calls leaves a stream and the cursor at the same place. -/
theorem performed (between : stream.Between before after) (calls : List Call) :
    ∃ taken left, after = taken ++ left ∧
      (stream.performed calls).Between (before ++ taken) left ∧
      (Cursor.between before after).performed calls = Cursor.between (before ++ taken) left := by
  induction calls generalizing stream before after with
  | nil => exact ⟨[], after, rfl, by rwa [List.append_nil], by rw [List.append_nil]; rfl⟩
  | cons call calls ih =>
    obtain ⟨taken, middle, rfl, between', answered⟩ := between.answer call
    obtain ⟨taken', left, rfl, between'', rest⟩ := ih between'
    refine ⟨taken ++ taken', left, (List.append_assoc ..).symm, ?_, ?_⟩
    · rw [← List.append_assoc]
      exact between''
    · rw [← List.append_assoc before, ← rest]
      unfold Cursor.performed
      rw [List.foldl_cons, answered]

/-- After each of the calls both have given the same and show the same of themselves. -/
theorem observe (between : stream.Between before after) (calls : List Call) :
    stream.observe calls = (Cursor.between before after).observe calls := by
  induction calls generalizing stream before after with
  | nil => rfl
  | cons call calls ih =>
    obtain ⟨taken, left, -, between', answered⟩ := between.answer call
    have ends : (stream.answer call).2.atEnd = (Cursor.between (before ++ taken) left).atEnd := by
      rw [Bool.eq_iff_iff, between'.atEnd_iff, Cursor.atEnd_between]
    simp only [CharStream.observe, Cursor.observe, answered, ih between', ends,
      Cursor.consumed_between, Cursor.position_between, between'.consumed_eq,
      between'.position_eq, Position.walk_start]

end CharStream.Between

/-- **A stream refines a cursor.** Whatever the calls, the stream gives what the cursor gives and
shows what it shows after each call. Then its head is a slot of the ring, at most two characters
wait, and those that wait, in order, with those not yet looked at are the text behind the cursor. -/
theorem observe_ofString (source : String) (calls : List CharStream.Call) :
    (CharStream.ofString source).observe calls = (Cursor.ofText source.toList).observe calls ∧
      ((CharStream.ofString source).performed calls).ahead.head < 2 ∧
      ((CharStream.ofString source).performed calls).ahead.count ≤ 2 ∧
      ((CharStream.ofString source).performed calls).ahead.toList.length =
        ((CharStream.ofString source).performed calls).ahead.count ∧
      ((CharStream.ofString source).performed calls).ahead.toList ++
          ((CharStream.ofString source).performed calls).undecoded =
        source.toList.drop ((Cursor.ofText source.toList).performed calls).index := by
  have fresh := CharStream.between_ofString source
  obtain ⟨taken, left, same, between, moved⟩ := fresh.performed calls
  rw [Cursor.between_nil, List.nil_append] at moved
  refine ⟨fresh.observe calls, between.valid.head_lt, between.valid.count_le,
    Lookahead.length_toList between.valid, ?_⟩
  rw [moved, same]
  exact between.rest_eq.trans (Cursor.drop_between taken left).symm

end LoxLexer
