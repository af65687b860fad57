/-!
# Lines of bytes

A line ends with a line feed, byte `0x0A`, which belongs to it. Only the last line of a sequence can
be without one, and no line is empty.

* `lines` cuts a sequence into its lines; `lines_append_lineFeed` and `lines_of_not_mem` say where.
* `stripTerminator` drops the line feed of a line, and a carriage return, byte `0x0D`, in front of
  it.
-/

namespace LoxLexer

/-- The lines of a sequence; `line` holds, last one first, the bytes of the line read so far. -/
def linesFrom (line : List UInt8) : List UInt8 → List (List UInt8)
  | [] => if line.isEmpty then [] else [line.reverse]
  | byte :: bytes =>
    if byte = 0x0A then (byte :: line).reverse :: linesFrom [] bytes
    else linesFrom (byte :: line) bytes

/-- The lines of a sequence. -/
def lines (bytes : List UInt8) : List (List UInt8) :=
  linesFrom [] bytes

/-- A line without the line feed, or carriage return and line feed, that ends it. -/
def stripTerminator (line : List UInt8) : List UInt8 :=
  match line.reverse with
  | 0x0A :: 0x0D :: others => others.reverse
  | 0x0A :: others => others.reverse
  | _ => line

theorem linesFrom_append {line body rest : List UInt8} (inside : 0x0A ∉ body) :
    linesFrom line (body ++ 0x0A :: rest) = (line.reverse ++ body ++ [0x0A]) :: lines rest := by
  induction body generalizing line with
  | nil => simp [linesFrom, lines]
  | cons byte body ih =>
    simp only [List.mem_cons, not_or] at inside
    have other : ¬byte = 0x0A := fun same => inside.1 same.symm
    simp [linesFrom, other, ih inside.2]

/-- A line ends at its line feed, and the next one starts behind it. -/
theorem lines_append_lineFeed {body rest : List UInt8} (inside : 0x0A ∉ body) :
    lines (body ++ 0x0A :: rest) = (body ++ [0x0A]) :: lines rest := by
  rw [lines, linesFrom_append inside]
  rfl

/-- Bytes without a line feed are one line, if there are any. -/
theorem lines_of_not_mem {body : List UInt8} (inside : 0x0A ∉ body) :
    lines body = if body = [] then [] else [body] := by
  suffices main : ∀ line, linesFrom line body =
      if line = [] ∧ body = [] then [] else [line.reverse ++ body] by
    simpa [lines] using main []
  induction body with
  | nil =>
    intro line
    cases line <;> simp [linesFrom]
  | cons byte body ih =>
    intro line
    simp only [List.mem_cons, not_or] at inside
    have other : ¬byte = 0x0A := fun same => inside.1 same.symm
    simp [linesFrom, other, ih inside.2]

end LoxLexer
