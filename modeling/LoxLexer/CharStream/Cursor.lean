import LoxLexer.CharStream.Call
import LoxLexer.Position.Counted
import LoxLexer.Text.Utf8

/-!
# Cursors

The plainest stream of characters: a text and the number of characters given. Looking ahead is
indexing, and all that a stream shows of itself is computed from the part of the text before the
cursor.
-/

namespace LoxLexer

/-- A text and how many of its characters have been given. -/
structure Cursor where
  text : List Char
  index : Nat

namespace Cursor

open CharStream (Call Answer Observation)

/-- The cursor before the first character of a text. -/
def ofText (text : List Char) : Cursor :=
  ⟨text, 0⟩

/-- The bytes before the cursor. -/
def consumed (cursor : Cursor) : Nat :=
  Utf8.size (cursor.text.take cursor.index)

/-- Whether no character is behind the cursor. -/
def atEnd (cursor : Cursor) : Bool :=
  cursor.index = cursor.text.length

/-- Where the character behind the cursor stands. -/
def position (cursor : Cursor) : Position :=
  .behind (cursor.text.take cursor.index)

/-- Moves the cursor over so many characters. -/
def move (cursor : Cursor) (count : Nat) : Cursor :=
  { cursor with index := cursor.index + count }

/-- Makes a call. -/
def answer (cursor : Cursor) : Call → Answer × Cursor
  | .next =>
    match cursor.text[cursor.index]? with
    | some c => (.char (some c), cursor.move 1)
    | none => (.char none, cursor)
  | .peek => (.char cursor.text[cursor.index]?, cursor)
  | .peekSecond => (.char cursor.text[cursor.index + 1]?, cursor)
  | .nextIf expected =>
    if cursor.text[cursor.index]? = some expected then (.flag true, cursor.move 1)
    else (.flag false, cursor)
  | .skipWhile test =>
    (.unit, cursor.move ((cursor.text.drop cursor.index).takeWhile test).length)
  | .look => (.unit, cursor)

/-- Makes the calls in order and notes what is seen after each. -/
def observe (cursor : Cursor) : List Call → List Observation
  | [] => []
  | call :: calls =>
    let (answer, cursor) := cursor.answer call
    ⟨answer, cursor.consumed, cursor.atEnd, cursor.position⟩ :: cursor.observe calls

end Cursor

end LoxLexer
