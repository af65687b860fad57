import LoxLexer.Proofs.Prompt

/-!
# Line terminators

The prompt takes the terminator away before it looks at a line, so a session is the same whether its
lines end with a line feed or with a carriage return and a line feed, and whether or not the last
line is ended. A carriage return that is there already is part of its line for as long as no line
feed follows it, which is why the lines here have none at their ends.

* `withReturns` puts carriage returns in front of chosen line feeds; `bodies_withReturns` says that
  what is left of the lines is the same.
* `bodies_append` says so of a terminator at the end of the input.
* `run_prompt_terminators`: the sessions are the same.
-/

namespace LoxLexer

/-! ## Carriage returns in front of line feeds -/

/-- The bytes with a carriage return in front of each line feed whose place in them is chosen. -/
def withReturns (chosen : Nat → Bool) : List UInt8 → List UInt8
  | [] => []
  | byte :: bytes =>
    let others := withReturns (fun place => chosen (place + 1)) bytes
    if byte = 0x0A ∧ chosen 0 then 0x0D :: 0x0A :: others else byte :: others

/-- Nothing is put in before the first line feed. -/
theorem withReturns_append {body : List UInt8} (inside : 0x0A ∉ body) (chosen : Nat → Bool)
    (rest : List UInt8) :
    withReturns chosen (body ++ rest) =
      body ++ withReturns (fun place => chosen (place + body.length)) rest := by
  induction body generalizing chosen with
  | nil => rfl
  | cons byte body ih =>
    rw [List.mem_cons, not_or] at inside
    have other : ¬(byte = 0x0A ∧ chosen 0) := fun feed => inside.1 feed.1.symm
    simp only [List.cons_append, withReturns, if_neg other, ih inside.2, List.length_cons,
      Nat.add_assoc]

/-- What is left of the lines of some bytes without their terminators. -/
def bodies (bytes : List UInt8) : List (List UInt8) :=
  (lines bytes).map stripTerminator

section Body

variable {body : List UInt8} (inside : 0x0A ∉ body)

include inside

theorem bodies_append_cons (rest : List UInt8) :
    bodies (body ++ 0x0A :: rest) = stripTerminator (body ++ [0x0A]) :: bodies rest := by
  rw [bodies, lines_append_lineFeed inside, List.map_cons]
  rfl

theorem bodies_lineFeed (other : body.getLast? ≠ some 0x0D) (rest : List UInt8) :
    bodies (body ++ 0x0A :: rest) = body :: bodies rest := by
  rw [bodies_append_cons inside, stripTerminator_lineFeed other]

theorem bodies_crlf (rest : List UInt8) :
    bodies (body ++ 0x0D :: 0x0A :: rest) = body :: bodies rest := by
  have inside' : 0x0A ∉ body ++ [0x0D] := by simp [inside]
  have first := bodies_append_cons inside' rest
  rw [List.append_assoc, List.append_assoc] at first
  exact first.trans (congrArg (· :: bodies rest) (stripTerminator_crlf body))

theorem bodies_unended (more : body ≠ []) : bodies body = [body] := by
  have unended : body.getLast? ≠ some 0x0A := fun last => inside (List.mem_of_getLast? last)
  rw [bodies, lines_of_not_mem inside, if_neg more, List.map_singleton,
    stripTerminator_unended unended]

end Body

/-- Where no carriage return stands in front of a line feed, one can be put there without a change
to what is left of the lines. -/
theorem bodies_withReturns {bytes : List UInt8} (plain : ¬[0x0D, 0x0A] <:+: bytes)
    (chosen : Nat → Bool) : bodies (withReturns chosen bytes) = bodies bytes := by
  have cut := segmented_lines bytes
  generalize lines bytes = segments at cut
  induction cut generalizing chosen with
  | nil => rfl
  | @unended body _ inside =>
    have same := withReturns_append inside chosen []
    rw [withReturns, List.append_nil] at same
    rw [same]
  | @ended body rest _ inside _ ih =>
    have other := getLast?_ne_of_crlf_not_infix_append plain
    have plain' := crlf_not_infix_of_append plain
    rw [withReturns_append inside, withReturns, bodies_lineFeed inside other]
    split
    · rw [bodies_crlf inside, ih plain']
    · rw [bodies_lineFeed inside other, ih plain']

/-! ## The end of the input -/

/-- A terminator behind a last line that has none changes nothing. -/
theorem bodies_append {bytes terminator : List UInt8} (more : bytes ≠ [])
    (feed : bytes.getLast? ≠ some 0x0A) (carriage : bytes.getLast? ≠ some 0x0D)
    (ends : terminator = [0x0A] ∨ terminator = [0x0D, 0x0A]) :
    bodies (bytes ++ terminator) = bodies bytes := by
  have cut := segmented_lines bytes
  generalize lines bytes = segments at cut
  induction cut with
  | nil => exact absurd rfl more
  | unended _ inside =>
    rw [bodies_unended inside more]
    rcases ends with rfl | rfl
    · exact bodies_lineFeed inside carriage []
    · exact bodies_crlf inside []
  | @ended body rest _ inside _ ih =>
    rw [List.append_assoc, List.cons_append, bodies_append_cons inside, bodies_append_cons inside]
    -- the last byte is one of the rest, since the line feed is not the last
    rcases rest.eq_nil_or_concat' with rfl | ⟨front, last, rfl⟩
    · exact absurd List.getLast?_concat feed
    · have same : (body ++ 0x0A :: (front ++ [last])).getLast? = (front ++ [last]).getLast? := by
        rw [← List.cons_append, ← List.append_assoc, List.getLast?_concat, List.getLast?_concat]
      rw [same] at feed carriage
      rw [ih (List.concat_ne_nil _ _) feed carriage]

namespace CommandLine

/-! ## Sessions -/

/-- What a session does depends on what is left of its lines. -/
theorem run_prompt_congr {bytes bytes' : List UInt8} (same : bodies bytes' = bodies bytes)
    (readFile? : String → Option (List UInt8)) :
    run [] (.reading bytes' readFile?) = run [] (.reading bytes readFile?) := by
  have results : ∀ bytes, lineResults bytes = (bodies bytes).map lexBytes := by
    intro bytes
    rw [bodies, List.map_map]
    rfl
  rw [run_prompt, run_prompt, results, results, same]

/-- **The prompt does not depend on the line terminator.** If no line feed of the input has a
carriage return in front of it, then carriage returns can be put in front of any of them and the
session is the same, in its outputs and its exit code. If the input ends with a line that has no
terminator and does not end with a carriage return either, then the session is the same with either
terminator at the end. -/
theorem run_prompt_terminators (bytes : List UInt8) (readFile? : String → Option (List UInt8)) :
    (¬[0x0D, 0x0A] <:+: bytes → ∀ chosen,
      run [] (.reading (withReturns chosen bytes) readFile?) =
        run [] (.reading bytes readFile?)) ∧
    (bytes ≠ [] → bytes.getLast? ≠ some 0x0A → bytes.getLast? ≠ some 0x0D →
      run [] (.reading (bytes ++ [0x0A]) readFile?) = run [] (.reading bytes readFile?) ∧
      run [] (.reading (bytes ++ [0x0D, 0x0A]) readFile?) =
        run [] (.reading bytes readFile?)) := by
  constructor
  · intro plain chosen
    exact run_prompt_congr (bodies_withReturns plain chosen) readFile?
  · intro more feed carriage
    exact ⟨run_prompt_congr (bodies_append more feed carriage (.inl rfl)) readFile?,
      run_prompt_congr (bodies_append more feed carriage (.inr rfl)) readFile?⟩

/-- A stray character, a byte that is no text and an open quote, the second line feed of two with a
carriage return in front of it, and a terminator of two bytes at the end. -/
theorem run_prompt_terminators_second :
    let session := fun bytes => run [] (.reading bytes fun _ => none)
    withReturns (· = 4) [0x20, 0x40, 0x0A, 0xFF, 0x0A, 0x22] =
        [0x20, 0x40, 0x0A, 0xFF, 0x0D, 0x0A, 0x22] ∧
      session [0x20, 0x40, 0x0A, 0xFF, 0x0D, 0x0A, 0x22] =
        session [0x20, 0x40, 0x0A, 0xFF, 0x0A, 0x22] ∧
      session [0x20, 0x40, 0x0A, 0xFF, 0x0A, 0x22, 0x0D, 0x0A] =
        session [0x20, 0x40, 0x0A, 0xFF, 0x0A, 0x22] ∧
      (session [0x20, 0x40, 0x0A, 0xFF, 0x0A, 0x22]).stderr =
        "[line 1:2] Error: Unexpected character '@'.\nError: Invalid UTF-8 at byte 0.\n" ++
          "[line 1:1] Error: Unterminated string.\n" := by
  intro session
  have terminators := run_prompt_terminators [0x20, 0x40, 0x0A, 0xFF, 0x0A, 0x22] fun _ => none
  refine ⟨by decide, ?_, ?_, by decide +kernel⟩
  · exact terminators.1 (by decide) (· = 4)
  · exact (terminators.2 (by decide) (by decide) (by decide)).2

end CommandLine

end LoxLexer
