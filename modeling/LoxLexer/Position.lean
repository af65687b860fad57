/-!
# Positions in a text

A position is a line and a column, both counted from one. Columns count characters, and only a line
feed starts a line: a tab or a carriage return is one column like any other character.

* `walk` is the position after a stretch of text; `walk_append` composes walks.
* `after` places a position of a text inside a larger text in which that text starts elsewhere;
  `after_walk` says that walking and placing agree.
-/

namespace LoxLexer

/-- A line and a column, both counted from one. -/
structure Position where
  line : Nat
  column : Nat
deriving DecidableEq

namespace Position

/-- The position of the first character of a text. -/
def start : Position := ⟨1, 1⟩

/-- The position after one character. -/
def advance (position : Position) (c : Char) : Position :=
  if c = '\n' then ⟨position.line + 1, 1⟩ else ⟨position.line, position.column + 1⟩

/-- The position after a stretch of text. -/
def walk (position : Position) (text : List Char) : Position :=
  text.foldl advance position

@[simp] theorem walk_nil (position : Position) : position.walk [] = position := rfl

@[simp] theorem walk_cons (position : Position) (c : Char) (text : List Char) :
    position.walk (c :: text) = (position.advance c).walk text := rfl

theorem walk_append (position : Position) (first second : List Char) :
    position.walk (first ++ second) = (position.walk first).walk second := by
  simp [walk, List.foldl_append]

/-- Where a position of a text stands once that text itself starts at `base`: its first line goes on
from the column of `base`, and its other lines keep their columns. -/
def after (base position : Position) : Position :=
  if position.line = 1 then ⟨base.line, base.column + position.column - 1⟩
  else ⟨base.line + position.line - 1, position.column⟩

@[simp] theorem after_start (base : Position) : base.after start = base := by
  simp [after, start]

theorem after_advance (base position : Position) (line : 1 ≤ position.line)
    (column : 1 ≤ position.column) (c : Char) :
    base.after (position.advance c) = (base.after position).advance c := by
  have line' : position.line ≠ 0 := by omega
  by_cases feed : c = '\n' <;> by_cases first : position.line = 1 <;>
    simp [after, advance, feed, first, line'] <;> omega

/-- Columns are counted from one. -/
theorem one_le_column_advance (position : Position) (c : Char) :
    1 ≤ (position.advance c).column := by
  unfold advance
  split
  · exact Nat.le_refl 1
  · exact Nat.le_add_left 1 position.column

theorem after_walk (base : Position) (text : List Char) :
    base.after (start.walk text) = base.walk text := by
  suffices main : ∀ position : Position, 1 ≤ position.line → 1 ≤ position.column →
      base.after (position.walk text) = (base.after position).walk text by
    simpa using main start (by decide) (by decide)
  induction text with
  | nil => intro _ _ _; rfl
  | cons c text ih =>
    intro position line column
    have line' : 1 ≤ (position.advance c).line := by
      simp only [advance]
      split
      · exact Nat.le_add_left 1 position.line
      · exact line
    have column' := position.one_le_column_advance c
    rw [walk_cons, ih _ line' column', after_advance _ _ line column, walk_cons]

end Position

end LoxLexer
