import LoxLexer.CharStream.Lookahead
import LoxLexer.Position

/-!
# Character streams

A stream gives the characters of a text one after the other and can look two characters ahead. It
counts the bytes that it has given and keeps the position of the next character. A character that
is looked at moves into the lookahead buffer and counts as taken only once it is given.

* `next?` gives a character, `peek?` and `peekSecond?` look at the next two, `nextIf` and
  `skipWhile` are the conditional steps, and `atEnd` goes by the bytes given.
* `remaining` bounds every run over a stream; `remaining_next?` says that giving a character makes
  it smaller, and `remaining_fill` that looking ahead does not change it.
-/

namespace LoxLexer

/-- The characters of a text, given one after the other. -/
structure CharStream where
  /-- The characters that have not been looked at. -/
  undecoded : List Char
  /-- The characters that have been looked at and not been given. -/
  ahead : Lookahead
  /-- The bytes of the characters given. -/
  consumed : Nat
  /-- The bytes of the whole text. -/
  length : Nat
  /-- Where the next character stands. -/
  position : Position

namespace CharStream

/-- The stream of a text that has given nothing. -/
def ofString (source : String) : CharStream :=
  ⟨source.toList, .empty, 0, source.utf8ByteSize, .start⟩

/-- Whether all bytes of the text have been given. -/
def atEnd (stream : CharStream) : Bool :=
  stream.length ≤ stream.consumed

/-! ## Giving and looking ahead -/

/-- How many characters are still to be given. -/
def remaining (stream : CharStream) : Nat :=
  stream.ahead.count + stream.undecoded.length

/-- Counts one character as given. -/
def pass (stream : CharStream) (c : Char) : CharStream :=
  { stream with
    consumed := stream.consumed + c.utf8Size
    position := stream.position.advance c }

/-- Gives the next character: one that has been looked at, if there is one. -/
def next? (stream : CharStream) : Option (Char × CharStream) :=
  match stream.ahead.pop? with
  | some (c, ahead) => some (c, { stream with ahead }.pass c)
  | none =>
    match stream.undecoded with
    | c :: undecoded => some (c, { stream with undecoded }.pass c)
    | [] => none

/-- Looks at further characters until so many wait, or none are left. -/
def fillFrom (count : Nat) (ahead : Lookahead) : List Char → Lookahead × List Char
  | [] => (ahead, [])
  | c :: undecoded =>
    if ahead.count < count then fillFrom count (ahead.push c) undecoded
    else (ahead, c :: undecoded)

/-- Looks as many characters ahead, or as many as are left. -/
def fill (stream : CharStream) (count : Nat) : CharStream :=
  let (ahead, undecoded) := fillFrom count stream.ahead stream.undecoded
  { stream with ahead, undecoded }

/-- The next character, which stays to be given. -/
def peek? (stream : CharStream) : Option Char × CharStream :=
  let stream := stream.fill 1
  (stream.ahead.get? 0, stream)

/-- The character behind the next one; both stay to be given. -/
def peekSecond? (stream : CharStream) : Option Char × CharStream :=
  let stream := stream.fill 2
  (stream.ahead.get? 1, stream)

/-- The stream without its next character. -/
def skip (stream : CharStream) : CharStream :=
  match stream.next? with
  | some (_, stream) => stream
  | none => stream

/-- Skips the next character if it is the expected one, and says whether it was. -/
def nextIf (stream : CharStream) (expected : Char) : Bool × CharStream :=
  let (next, stream) := stream.peek?
  if next = some expected then (true, stream.skip) else (false, stream)

/-! ## Runs of characters -/

theorem remaining_next? {stream stream' : CharStream} {c : Char}
    (given : stream.next? = some (c, stream')) : stream'.remaining + 1 = stream.remaining := by
  unfold next? at given
  split at given
  · next d ahead taken =>
    simp only [Lookahead.pop?, Lookahead.get?, Option.map_eq_some_iff,
      Option.ite_none_right_eq_some] at taken
    obtain ⟨_, ⟨waits, -⟩, taken⟩ := taken
    cases taken
    cases given
    simp only [remaining, pass]
    omega
  · split at given
    · next undecoded _ =>
      cases given
      simp only [remaining, pass, *, List.length_cons]
      omega
    · cases given

theorem remaining_fill (stream : CharStream) (count : Nat) :
    (stream.fill count).remaining = stream.remaining := by
  simp only [fill, remaining]
  fun_induction fillFrom count stream.ahead stream.undecoded with
  | case1 => simp
  | case2 ahead c undecoded _ ih =>
    rw [ih]
    simp only [Lookahead.push, List.length_cons]
    omega
  | case3 => simp

theorem remaining_peek? (stream : CharStream) : stream.peek?.2.remaining = stream.remaining :=
  remaining_fill stream 1

theorem remaining_peekSecond? (stream : CharStream) :
    stream.peekSecond?.2.remaining = stream.remaining :=
  remaining_fill stream 2

/-- Skips characters as long as the next one passes a test. -/
def skipWhile (stream : CharStream) (test : Char → Bool) : CharStream :=
  match _ : stream.peek? with
  | (some c, peeked) =>
    if test c then
      match _ : peeked.next? with
      | some (_, rest) => rest.skipWhile test
      | none => peeked
    else
      peeked
  | (none, peeked) => peeked
termination_by stream.remaining
decreasing_by
  have shorter := remaining_next? ‹_›
  have same := remaining_peek? stream
  simp only [‹stream.peek? = _›] at same
  omega

theorem remaining_skip_le (stream : CharStream) : stream.skip.remaining ≤ stream.remaining := by
  unfold skip
  split
  · have := remaining_next? ‹_›
    omega
  · exact Nat.le_refl _

theorem remaining_nextIf_le (stream : CharStream) (expected : Char) :
    (stream.nextIf expected).2.remaining ≤ stream.remaining := by
  rw [← remaining_peek? stream]
  simp only [nextIf]
  split
  · exact remaining_skip_le _
  · exact Nat.le_refl _

theorem remaining_skipWhile_le (stream : CharStream) (test : Char → Bool) :
    (stream.skipWhile test).remaining ≤ stream.remaining := by
  fun_induction skipWhile stream test with
  | case1 stream c peeked peek _ d rest given ih =>
    have shorter := remaining_next? given
    have same := remaining_peek? stream
    simp only [peek] at same
    omega
  | case2 stream c peeked peek => simp [← remaining_peek? stream, peek]
  | case3 stream c peeked peek => simp [← remaining_peek? stream, peek]
  | case4 stream peeked peek => simp [← remaining_peek? stream, peek]

end CharStream

end LoxLexer
