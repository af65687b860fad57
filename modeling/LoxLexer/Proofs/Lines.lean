import LoxLexer.Text.Lines
import Mathlib.Data.List.Forall2

/-!
# Cutting bytes into lines

`Segmented bytes segments` says that the segments are what bytes fall into when they are cut behind
each line feed. There is one way to do this, and it is `lines` (`segmented_iff`).

* `lines_append`: behind a line feed the lines of the rest start.
* `stripped_iff`: there is one way to take the terminator from a line, and it is `stripTerminator`.
* `lineBodies_iff`: so bytes leave one list of bodies when they are cut and the terminators are
  gone.
-/

namespace LoxLexer

/-- The segments into which bytes are cut behind each line feed; only the last one can be without a
line feed, and none is empty. -/
inductive Segmented : List UInt8 → List (List UInt8) → Prop
  | nil : Segmented [] []
  | unended {body : List UInt8} : body ≠ [] → 0x0A ∉ body → Segmented body [body]
  | ended {body rest : List UInt8} {segments : List (List UInt8)} :
    0x0A ∉ body → Segmented rest segments →
    Segmented (body ++ 0x0A :: rest) ((body ++ [0x0A]) :: segments)

theorem segmented_lines (bytes : List UInt8) : Segmented bytes (lines bytes) := by
  by_cases feed : 0x0A ∈ bytes
  · obtain ⟨body, rest, same, inside⟩ := List.eq_append_cons_of_mem feed
    have behind := segmented_lines rest
    rw [same, lines_append_lineFeed inside]
    exact .ended inside behind
  · rw [lines_of_not_mem feed]
    by_cases none : bytes = []
    · rw [if_pos none, none]
      exact .nil
    · rw [if_neg none]
      exact .unended none feed
termination_by bytes.length
decreasing_by
  rw [same, List.length_append, List.length_cons]
  omega

/-- Bytes are cut into their lines, and in no other way. -/
theorem segmented_iff {bytes : List UInt8} {segments : List (List UInt8)} :
    Segmented bytes segments ↔ segments = lines bytes := by
  constructor
  · intro cut
    induction cut with
    | nil => rfl
    | unended some inside => rw [lines_of_not_mem inside, if_neg some]
    | ended inside _ ih => rw [lines_append_lineFeed inside, ih]
  · intro same
    rw [same]
    exact segmented_lines bytes

/-- Bytes that end in a line feed are whole lines, and what follows has its own lines. -/
theorem lines_append {first : List UInt8} (whole : first = [] ∨ first.getLast? = some 0x0A)
    (second : List UInt8) : lines (first ++ second) = lines first ++ lines second := by
  have cut := segmented_lines first
  generalize lines first = segments at cut
  induction cut with
  | nil => rfl
  | unended some inside =>
    have last := whole.resolve_left some
    exact absurd (List.mem_of_getLast? last) inside
  | @ended body rest segments inside _ ih =>
    have whole' : rest = [] ∨ rest.getLast? = some 0x0A := by
      rcases rest.eq_nil_or_concat' with none | ⟨more, last, rfl⟩
      · exact .inl none
      · rw [← List.cons_append, ← List.append_assoc, List.getLast?_concat] at whole
        rw [List.getLast?_concat]
        exact .inr (whole.resolve_left (List.concat_ne_nil _ _))
    rw [List.append_assoc, List.cons_append, lines_append_lineFeed inside, ih whole',
      List.cons_append]

/-- In whole lines, each line ends in a line feed. -/
theorem getLast?_of_mem_lines {bytes : List UInt8}
    (whole : bytes = [] ∨ bytes.getLast? = some 0x0A) :
    ∀ line ∈ lines bytes, line.getLast? = some 0x0A := by
  have cut := segmented_lines bytes
  generalize lines bytes = segments at cut
  induction cut with
  | nil => exact nofun
  | unended some inside =>
    exact absurd (List.mem_of_getLast? (whole.resolve_left some)) inside
  | @ended body rest segments inside _ ih =>
    refine List.forall_mem_cons.2 ⟨List.getLast?_concat, ih ?_⟩
    rcases rest.eq_nil_or_concat' with rfl | ⟨front, last, rfl⟩
    · exact .inl rfl
    · right
      rw [← List.cons_append, ← List.append_assoc, List.getLast?_concat] at whole
      rw [List.getLast?_concat]
      exact whole.resolve_left (List.concat_ne_nil _ _)

/-! ## Terminators -/

/-- Bytes and what they are without the line feed, or carriage return and line feed, that ends
them. -/
inductive Stripped : List UInt8 → List UInt8 → Prop
  | crlf (body : List UInt8) : Stripped (body ++ [0x0D, 0x0A]) body
  | lineFeed {body : List UInt8} : body.getLast? ≠ some 0x0D → Stripped (body ++ [0x0A]) body
  | unended {line : List UInt8} : line.getLast? ≠ some 0x0A → Stripped line line

theorem stripTerminator_crlf (body : List UInt8) :
    stripTerminator (body ++ [0x0D, 0x0A]) = body := by
  simp [stripTerminator]

theorem stripTerminator_lineFeed {body : List UInt8} (other : body.getLast? ≠ some 0x0D) :
    stripTerminator (body ++ [0x0A]) = body := by
  rw [← List.head?_reverse] at other
  simp only [stripTerminator, List.reverse_append, List.reverse_singleton, List.singleton_append]
  split
  · next others same =>
    rw [(List.cons.inj same).2] at other
    exact absurd rfl other
  · next others _ same =>
    rw [← (List.cons.inj same).2, List.reverse_reverse]
  · next _ different => exact absurd rfl (different body.reverse)

theorem stripTerminator_unended {line : List UInt8} (other : line.getLast? ≠ some 0x0A) :
    stripTerminator line = line := by
  have outside : ∀ others, line.reverse ≠ 0x0A :: others := by
    intro others same
    rw [← List.head?_reverse, same] at other
    exact other rfl
  unfold stripTerminator
  split
  · next same => exact absurd same (outside _)
  · next same => exact absurd same (outside _)
  · rfl

theorem stripped_stripTerminator (line : List UInt8) : Stripped line (stripTerminator line) := by
  by_cases ended : line.getLast? = some 0x0A
  · obtain ⟨body, rfl⟩ := List.getLast?_eq_some_iff.mp ended
    by_cases carriage : body.getLast? = some 0x0D
    · obtain ⟨inner, rfl⟩ := List.getLast?_eq_some_iff.mp carriage
      rw [List.append_assoc, List.singleton_append, stripTerminator_crlf]
      exact .crlf inner
    · rw [stripTerminator_lineFeed carriage]
      exact .lineFeed carriage
  · rw [stripTerminator_unended ended]
    exact .unended ended

/-- The terminator is taken from a line by `stripTerminator`, and in no other way. -/
theorem stripped_iff {line body : List UInt8} :
    Stripped line body ↔ body = stripTerminator line := by
  constructor
  · intro stripped
    cases stripped with
    | crlf => rw [stripTerminator_crlf]
    | lineFeed other => rw [stripTerminator_lineFeed other]
    | unended other => rw [stripTerminator_unended other]
  · intro same
    rw [same]
    exact stripped_stripTerminator line

section Pairs

variable {body rest : List UInt8} (plain : ¬[0x0D, 0x0A] <:+: body ++ 0x0A :: rest)

include plain

/-- A line feed without a carriage return in front of it ends a line that does not end with one. -/
theorem getLast?_ne_of_crlf_not_infix_append : body.getLast? ≠ some 0x0D := by
  intro carriage
  obtain ⟨front, rfl⟩ := List.getLast?_eq_some_iff.1 carriage
  exact plain ⟨front, rest, by simp⟩

theorem crlf_not_infix_of_append : ¬[0x0D, 0x0A] <:+: rest :=
  fun pair => plain (pair.trans ((List.suffix_cons _ _).trans (List.suffix_append _ _)).isInfix)

end Pairs

/-- What is left of bytes that are cut behind each line feed when the terminators are taken away. -/
def LineBodies (bytes : List UInt8) (bodies : List (List UInt8)) : Prop :=
  ∃ segments, Segmented bytes segments ∧ List.Forall₂ Stripped segments bodies

theorem lineBodies_iff {bytes : List UInt8} {bodies : List (List UInt8)} :
    LineBodies bytes bodies ↔ bodies = (lines bytes).map stripTerminator := by
  have pairs : ∀ segments, List.Forall₂ Stripped segments bodies ↔
      bodies = segments.map stripTerminator := by
    intro segments
    induction segments generalizing bodies with
    | nil => simp
    | cons line segments ih => simp [List.forall₂_cons_left_iff, stripped_iff, ih, and_comm]
  simp only [LineBodies, segmented_iff, pairs, exists_eq_left]

end LoxLexer
