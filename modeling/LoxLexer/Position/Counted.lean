import LoxLexer.Position
import Mathlib.Data.List.DropRight

/-!
# Positions counted in a text

The position behind a text can be kept on a walk over the text, character by character, or counted
in the text as a whole. `Position.behind` counts it, and `Position.walk_start` says that the two
agree.
-/

namespace LoxLexer

namespace Position

/-- The position of what stands behind a text: its lines are counted by their line feeds, and the
columns are the characters behind the last of these. -/
def behind (text : List Char) : Position :=
  ⟨1 + text.count '\n', 1 + (text.rtakeWhile (· ≠ '\n')).length⟩

theorem behind_concat (text : List Char) (c : Char) :
    behind (text ++ [c]) = (behind text).advance c := by
  unfold behind advance
  by_cases feed : c = '\n'
  · subst feed
    simp [Nat.add_assoc]
  · simp [List.count_append, feed]
    omega

/-- The position kept on a walk over a text is the one counted in the text. -/
theorem walk_start (text : List Char) : start.walk text = behind text := by
  induction text using List.reverseRecOn with
  | nil => rfl
  | append_singleton text c ih =>
    rw [walk_append, ih, behind_concat]
    rfl

end Position

end LoxLexer
