import LoxLexer.CommandLine.Run
import LoxLexer.Proofs.Lines

/-!
# A session line by line

A session of the prompt is a fold over what the reads of its input give, with two texts and a flag
between the turns. This module shows that only the line itself decides what a turn writes: the texts
of a session are those of its lines, one after the other.

* `Session.turn_line` and `Session.foldl_turn_line`: what one line adds to the two outputs, and what
  any number of lines do.
* `run_prompt_delivered`: the outcome of a session, from the results of the lines that it is given;
  `run_prompt` and `run_prompt_failed` for an input that ends and for one that fails.
* `run_prompt_lines`: what a session owes to each of its lines, and that they owe nothing to each
  other.
-/

namespace LoxLexer.CommandLine

/-! ## Results of lines -/

/-- What the prompt makes of one line. -/
def lineResult (line : List UInt8) : Except LexError (List Token) :=
  lexBytes (stripTerminator line)

/-- What the prompt makes of each line of its input. -/
def lineResults (bytes : List UInt8) : List (Except LexError (List Token)) :=
  (lines bytes).map lineResult

/-- What standard output shows of a line: its tokens, one a line, or nothing. -/
def shown : Except LexError (List Token) → String
  | .ok tokens => String.join (tokens.map fun token => token.listing ++ "\n")
  | .error _ => ""

/-- What standard error reports of a line: nothing, or the message of its error. -/
def reported : Except LexError (List Token) → String
  | .ok _ => ""
  | .error error => error.message ++ "\n"

/-- What standard output has of a session behind lines with these results. -/
def transcript (results : List (Except LexError (List Token))) : String :=
  String.join (results.map fun result => "lox > " ++ shown result)

/-- What standard error has of a session behind lines with these results. -/
def complaints (results : List (Except LexError (List Token))) : String :=
  String.join (results.map reported)

/-- What every session ends with: a prompt that no line answers, and the farewell. -/
def closing : String :=
  "lox > \nLox is done! canceled by user via Ctrl+D\n"

/-- What standard error has of a failure that ends the input. -/
def failureReport (failure : Option String) : String :=
  failure.elim "" fun reason => "Could not read input: " ++ reason ++ "\n"

/-- A host whose input gives these bytes and then ends, and whose output takes all text. -/
def Host.reading (bytes : List UInt8) (readFile? : String → Option (List UInt8)) : Host :=
  ⟨⟨bytes, none⟩, readFile?, false⟩

section Results

variable (first second : List (Except LexError (List Token)))

theorem transcript_cons (result : Except LexError (List Token)) :
    transcript (result :: second) = "lox > " ++ shown result ++ transcript second := by
  simp [transcript]

theorem complaints_cons (result : Except LexError (List Token)) :
    complaints (result :: second) = reported result ++ complaints second := by
  simp [complaints]

theorem transcript_append :
    transcript (first ++ second) = transcript first ++ transcript second := by
  simp [transcript]

theorem complaints_append :
    complaints (first ++ second) = complaints first ++ complaints second := by
  simp [complaints]

end Results

/-- Lines without an error show their tokens. -/
theorem transcript_map_ok (lists : List (List Token)) :
    transcript (lists.map .ok) =
      String.join (lists.map fun tokens =>
        "lox > " ++ String.join (tokens.map fun token => token.listing ++ "\n")) := by
  rw [transcript, List.map_map]
  rfl

/-- They are not reported. -/
theorem complaints_map_ok (lists : List (List Token)) : complaints (lists.map .ok) = "" := by
  induction lists with
  | nil => rfl
  | cons tokens lists ih => rw [List.map_cons, complaints_cons, ih, reported, String.append_empty]

theorem lineResults_append {first : List UInt8} (whole : first = [] ∨ first.getLast? = some 0x0A)
    (second : List UInt8) :
    lineResults (first ++ second) = lineResults first ++ lineResults second := by
  rw [lineResults, lines_append whole, List.map_append]
  rfl

theorem lineResults_cons {body : List UInt8} (inside : 0x0A ∉ body) (rest : List UInt8) :
    lineResults (body ++ 0x0A :: rest) = lineResult (body ++ [0x0A]) :: lineResults rest := by
  rw [lineResults, lines_append_lineFeed inside, List.map_cons]
  rfl

theorem lineResults_eq {bytes : List UInt8} {bodies : List (List UInt8)}
    (cut : LineBodies bytes bodies) : lineResults bytes = bodies.map lexBytes := by
  rw [lineBodies_iff.mp cut, List.map_map]
  rfl

/-! ## Turns -/

@[simp] theorem Output.write?_room (text more : String) :
    write? ⟨text, false⟩ more = some ⟨text ++ more, false⟩ := rfl

/-- A line adds the prompt and what is shown of it to the one output and what is reported of it to
the other. -/
theorem Session.turn_line (out err : String) (line : List UInt8) :
    turn ⟨⟨out, false⟩, err, true⟩ (.line line) =
      ⟨⟨out ++ ("lox > " ++ shown (lineResult line)), false⟩,
        err ++ reported (lineResult line), true⟩ := by
  have reply : respond (.line line) =
      ⟨shown (lineResult line), reported (lineResult line), true⟩ := by
    unfold respond lineResult
    dsimp only
    cases lexBytes (stripTerminator line) <;> rfl
  simp [turn, reply, promptText, String.append_assoc]

/-- What ends the input adds the closing and its report, and ends the session. -/
theorem Session.turn_last (out err : String) (failure : Option String) :
    turn ⟨⟨out, false⟩, err, true⟩ (failure.elim .ended .failed) =
      ⟨⟨out ++ closing, false⟩, err ++ failureReport failure, false⟩ := by
  have ending : promptText ++ farewell = closing := by decide
  cases failure <;> simp [turn, respond, failureReport, ← ending, String.append_assoc]

/-- Lines add what they would add one by one. -/
theorem Session.foldl_turn_line (out err : String) (segments : List (List UInt8)) :
    (segments.map .line).foldl turn ⟨⟨out, false⟩, err, true⟩ =
      ⟨⟨out ++ transcript (segments.map lineResult), false⟩,
        err ++ complaints (segments.map lineResult), true⟩ := by
  induction segments generalizing out err with
  | nil => simp [transcript, complaints]
  | cons line segments ih =>
    simp only [List.map_cons, List.foldl_cons, turn_line, ih, transcript_cons, complaints_cons,
      String.append_assoc]

/-! ## Sessions -/

/-- The texts of a session are those of the lines that it is given, one after the other. -/
theorem run_prompt_delivered (input : Input) (readFile? : String → Option (List UInt8)) :
    run [] ⟨input, readFile?, false⟩ =
      ⟨.success, transcript (input.delivered.map lineResult) ++ closing,
        complaints (input.delivered.map lineResult) ++ failureReport input.failure⟩ := by
  have start : Session.start (Output.empty false) = ⟨⟨"", false⟩, "", true⟩ := rfl
  simp only [run, Mode.ofArguments, prompt, Input.reads, List.foldl_append, List.foldl_cons,
    List.foldl_nil, start, Session.foldl_turn_line, Session.turn_last, String.empty_append]

theorem run_prompt (bytes : List UInt8) (readFile? : String → Option (List UInt8)) :
    run [] (.reading bytes readFile?) =
      ⟨.success, transcript (lineResults bytes) ++ closing, complaints (lineResults bytes)⟩ := by
  rw [Host.reading, run_prompt_delivered, failureReport, Option.elim_none, String.append_empty]
  rfl

/-- What stands behind the last line feed when reading fails is not answered. -/
theorem run_prompt_failed {first rest : List UInt8}
    (whole : first = [] ∨ first.getLast? = some 0x0A) (inside : 0x0A ∉ rest) (reason : String)
    (readFile? : String → Option (List UInt8)) :
    run [] ⟨⟨first ++ rest, some reason⟩, readFile?, false⟩ =
      { run [] (.reading first readFile?) with
        stderr := (run [] (.reading first readFile?)).stderr ++
          ("Could not read input: " ++ reason ++ "\n") } := by
  have lost : (lines rest).filter (·.getLast? = some 0x0A) = [] := by
    rw [List.filter_eq_nil_iff]
    intro line mem
    have same : line = rest := by
      rw [lines_of_not_mem inside] at mem
      split at mem
      · cases mem
      · exact List.mem_singleton.1 mem
    exact fun last => inside (same ▸ List.mem_of_getLast? (of_decide_eq_true last))
  have kept : (lines first).filter (·.getLast? = some 0x0A) = lines first :=
    List.filter_eq_self.2 fun line mem => decide_eq_true (getLast?_of_mem_lines whole line mem)
  have delivered : (Input.mk (first ++ rest) (some reason)).delivered = lines first := by
    rw [Input.delivered, lines_append whole, List.filter_append, kept, lost, List.append_nil]
  rw [run_prompt_delivered, delivered, run_prompt]
  rfl

/-- **A session answers its lines one by one.** There is one way to cut the input behind each line
feed and to take the terminators away. A session ends well, and its outputs hold, line by line, a
prompt with the tokens of the line, one a line, if it has any, and the message of its error if it
has one; a last prompt and the farewell follow. So a session behind whole lines goes on as if it had
just begun, and a line with an error adds a prompt and its message and changes nothing else. -/
theorem run_prompt_lines (readFile? : String → Option (List UInt8)) :
    let session := fun bytes => run [] (.reading bytes readFile?)
    (∀ bytes, ∃ bodies, (∀ others, LineBodies bytes others ↔ others = bodies) ∧
      (session bytes).code.toNat = 0 ∧
      (session bytes).stdout =
        String.join (bodies.map fun body => "lox > " ++
          match lexBytes body with
          | .ok tokens => String.join (tokens.map fun token => token.listing ++ "\n")
          | .error _ => "") ++ "lox > \nLox is done! canceled by user via Ctrl+D\n" ∧
      (session bytes).stderr =
        String.join (bodies.map fun body =>
          match lexBytes body with
          | .ok _ => ""
          | .error error => error.message ++ "\n")) ∧
    ∀ first, first = [] ∨ first.getLast? = some 0x0A →
      ∃ front, (session first).stdout =
          front ++ "lox > \nLox is done! canceled by user via Ctrl+D\n" ∧ ∀ second,
        ((session (first ++ second)).stdout = front ++ (session second).stdout ∧
          (session (first ++ second)).stderr = (session first).stderr ++ (session second).stderr) ∧
        ∀ line body error, 0x0A ∉ line → Stripped (line ++ [0x0A]) body →
          lexBytes body = .error error →
          (session (first ++ (line ++ 0x0A :: second))).stdout =
            front ++ ("lox > " ++ (session second).stdout) ∧
          (session (first ++ (line ++ 0x0A :: second))).stderr =
            (session first).stderr ++ (error.message ++ "\n" ++ (session second).stderr) := by
  intro session
  have outcome : ∀ bytes, session bytes =
      ⟨.success, transcript (lineResults bytes) ++ closing, complaints (lineResults bytes)⟩ :=
    fun bytes => run_prompt bytes readFile?
  constructor
  · intro bytes
    refine ⟨(lines bytes).map stripTerminator, fun others => lineBodies_iff, ?_⟩
    rw [outcome, lineResults_eq (lineBodies_iff.mpr rfl)]
    simp only [transcript, complaints, List.map_map]
    exact ⟨rfl, rfl, rfl⟩
  · intro first whole
    refine ⟨transcript (lineResults first), by rw [outcome]; rfl, fun second => ⟨?_, ?_⟩⟩
    · simp only [outcome, lineResults_append whole, transcript_append, complaints_append,
        String.append_assoc, and_self]
    · intro line body error inside stripped failed
      have result : lineResult (line ++ [0x0A]) = .error error := by
        rw [lineResult, ← stripped_iff.mp stripped, failed]
      simp only [outcome, lineResults_append whole, lineResults_cons inside, result,
        transcript_append, complaints_append, transcript_cons, complaints_cons, shown, reported,
        String.append_assoc, String.append_empty, and_self]

/-- A line with a stray character, ended by a carriage return and a line feed, between a line with a
token and an open quote that the input ends. -/
theorem run_prompt_lines_stray :
    let session := fun bytes => run [] (.reading bytes fun _ => none)
    ((session [0x2B, 0x0A, 0x40, 0x0D, 0x0A, 0x22]).code.toNat = 0 ∧
      (session [0x2B, 0x0A, 0x40, 0x0D, 0x0A, 0x22]).stdout =
        "lox > Token(plus, content: , line: 1)\nlox > lox > lox > \n" ++
          "Lox is done! canceled by user via Ctrl+D\n" ∧
      (session [0x2B, 0x0A, 0x40, 0x0D, 0x0A, 0x22]).stderr =
        "[line 1:1] Error: Unexpected character '@'.\n[line 1:1] Error: Unterminated string.\n") ∧
      lexBytes [0x40] = .error (.unexpectedCharacter '@' ⟨1, 1⟩) ∧
      (session [0x2B, 0x0A, 0x40, 0x0D, 0x0A, 0x22]).stdout =
        "lox > Token(plus, content: , line: 1)\n" ++ ("lox > " ++ (session [0x22]).stdout) ∧
      (session [0x2B, 0x0A, 0x40, 0x0D, 0x0A, 0x22]).stderr =
        (session [0x2B, 0x0A]).stderr ++
          ("[line 1:1] Error: Unexpected character '@'." ++ "\n" ++ (session [0x22]).stderr) := by
  intro session
  have failed : lexBytes [0x40] = .error (.unexpectedCharacter '@' ⟨1, 1⟩) := by decide +kernel
  obtain ⟨whole, onward⟩ := run_prompt_lines fun _ => none
  obtain ⟨bodies, cut, code, stdout, stderr⟩ := whole [0x2B, 0x0A, 0x40, 0x0D, 0x0A, 0x22]
  obtain rfl : [[0x2B], [0x40], [0x22]] = bodies := (cut _).1 (lineBodies_iff.2 (by decide))
  obtain ⟨front, closed, onward⟩ := onward [0x2B, 0x0A] (.inr (by decide))
  have outputs := (onward [0x22]).2 [0x40, 0x0D] [0x40] _ (by decide) (.crlf [0x40]) failed
  obtain rfl : "lox > Token(plus, content: , line: 1)\n" = front := by
    refine (String.append_left_inj _).1 (Eq.trans ?_ closed)
    decide +kernel
  exact ⟨⟨code, stdout.trans (by decide +kernel), stderr.trans (by decide +kernel)⟩, failed,
    outputs⟩

end LoxLexer.CommandLine
