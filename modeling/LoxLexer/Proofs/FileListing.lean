import LoxLexer.Proofs.Decoding
import LoxLexer.Proofs.Prompt

/-!
# A file is listed as a whole or not at all

A file can fail to be listed for four reasons: it cannot be read, its bytes are no text, its text
has an illegal token, or the output takes nothing. This module shows that a failure for any of the
first three has written nothing, whatever tokens come before it, and that the last one cannot
happen where there is nothing to write.

* `lexBytes_eq_ok_nil_iff`: only an empty file has no tokens, so only an empty file can be listed on
  a full output.
* `Output.write?_listing`: a listing can be written line by line, up to the first line that fails.
* `stdout_listFile`: what is written is the listing of a whole source.
* `run_file`: the outcome for every file and either output.
-/

namespace LoxLexer

/-! ## Files without tokens -/

/-- Only no bytes at all are lexed to no tokens. -/
theorem lexBytes_eq_ok_nil_iff {bytes : List UInt8} : lexBytes bytes = .ok [] ↔ bytes = [] := by
  constructor
  · intro lexed
    obtain ⟨source, rfl⟩ := exists_encode_of_lexBytes_eq_ok lexed
    rw [lexBytes_encode] at lexed
    obtain ⟨reading, -⟩ := lex_eq_ok_iff.1 lexed
    -- a text is read as one token at least
    generalize source.toList = text at reading
    cases reading with
    | nil => rfl
  · intro nothing
    rw [nothing]
    decide +kernel

namespace CommandLine

/-! ## Listings -/

theorem listing_cons (token : Token) (tokens : List Token) :
    listing (token :: tokens) = token.listing ++ "\n" ++ listing tokens := by
  simp [listing]

theorem listing_eq_empty_iff {tokens : List Token} : listing tokens = "" ↔ tokens = [] := by
  cases tokens with
  | nil => exact iff_of_true rfl rfl
  | cons token tokens => simp [listing_cons]

namespace Output

theorem write?_empty (output : Output) : output.write? "" = some output := by
  simp [write?]

theorem write?_full (text more : String) :
    write? ⟨text, true⟩ more = if more = "" then some ⟨text, true⟩ else none := by
  by_cases nothing : more = "" <;> simp [write?, nothing]

/-- Text can be written in two parts, of which the second waits for the first. -/
theorem write?_append (output : Output) (first second : String) :
    output.write? (first ++ second) = (output.write? first).bind (·.write? second) := by
  obtain ⟨text, full⟩ := output
  cases full with
  | false => simp only [write?_room, Option.bind_some, String.append_assoc]
  | true =>
    by_cases nothing : first = ""
    · rw [nothing, String.empty_append, write?_empty, Option.bind_some]
    · have some : first ++ second ≠ "" := fun none => nothing (String.append_eq_empty_iff.1 none).1
      rw [write?_full, write?_full, if_neg some, if_neg nothing, Option.bind_none]

/-- A listing is written line by line, up to the first line that fails. -/
theorem write?_listing (output : Output) (tokens : List Token) :
    output.write? (listing tokens) =
      tokens.foldlM (fun output token => output.write? (token.listing ++ "\n")) output := by
  induction tokens generalizing output with
  | nil => exact output.write?_empty
  | cons token tokens ih =>
    rw [listing_cons, write?_append, List.foldlM_cons]
    exact congrArg _ (funext fun output => ih output)

end Output

/-! ## Outcomes -/

section Contents

variable {bytes : List UInt8}

theorem listFile_error {error : LexError} (refused : lexBytes bytes = .error error) (full : Bool) :
    listFile (some bytes) (.empty full) = ⟨.badData, "", error.message ++ "\n"⟩ := by
  simp only [listFile, refused]
  rfl

variable {tokens : List Token} (lexed : lexBytes bytes = .ok tokens)

include lexed

theorem listFile_room : listFile (some bytes) (.empty false) = ⟨.success, listing tokens, ""⟩ := by
  simp only [listFile, lexed, Output.empty, Output.write?_room, String.empty_append]

theorem listFile_full :
    listFile (some bytes) (.empty true) =
      ⟨if bytes = [] then .success else .ioFailure, "", ""⟩ := by
  have nothing : bytes = [] ↔ tokens = [] := by
    rw [← lexBytes_eq_ok_nil_iff, lexed, Except.ok.injEq]
  simp only [listFile, lexed, Output.empty, Output.write?_full, listing_eq_empty_iff, nothing]
  by_cases none : tokens = [] <;> simp only [none, if_true, if_false]

end Contents

/-- Nothing is written of a file, or it is the text of a source without an illegal token and all its
tokens are written. -/
theorem stdout_listFile (content : Option (List UInt8)) (full : Bool) :
    (listFile content (.empty full)).stdout = "" ∨
      ∃ source : String, content = some (Utf8.encode source.toList) ∧
        (∀ token ∈ (Lexer.ofString source).rest.1, token.kind ≠ .illegal) ∧
        (listFile content (.empty full)).stdout = listing (Lexer.ofString source).rest.1 := by
  cases content with
  | none => exact .inl rfl
  | some bytes =>
    cases lexed : lexBytes bytes with
    | error error => exact .inl (by rw [listFile_error lexed])
    | ok tokens =>
      cases full with
      | true => exact .inl (by rw [listFile_full lexed])
      | false =>
        rw [listFile_room lexed]
        obtain ⟨source, rfl⟩ := exists_encode_of_lexBytes_eq_ok lexed
        rw [lexBytes_encode] at lexed
        obtain ⟨reading, legal⟩ := lex_eq_ok_iff.1 lexed
        obtain rfl := reading_iff_rest.1 reading
        exact .inr ⟨source, rfl, legal, rfl⟩

/-- What is left of a finished command: the number that it exits with, and the texts on standard
output and on standard error. -/
def Outcome.seen (outcome : Outcome) : Nat × String × String :=
  (outcome.code.toNat, outcome.stdout, outcome.stderr)

/-- **A file is listed as a whole or not at all.** If it cannot be read, the command says so. If it
is refused, the message of the error is all that is written, whether or not the output could have
taken the tokens before it. Otherwise all tokens are listed, one a line, and on an output that takes
no text the command fails, unless there is no text to write: this is so for an empty file only. -/
theorem run_file (path : String) (host : Host) :
    (host.readFile? path = none →
      (run [path] host).seen = (74, "", "Could not read file.\n")) ∧
    ∀ content, host.readFile? path = some content →
      (∀ error, lexBytes content = .error error →
        (run [path] host).seen = (65, "", error.message ++ "\n")) ∧
      (∀ tokens, lexBytes content = .ok tokens → host.outputFull = false →
        (run [path] host).seen =
          (0, String.join (tokens.map fun token => token.listing ++ "\n"), "")) ∧
      (∀ tokens, lexBytes content = .ok tokens → host.outputFull = true →
        (run [path] host).seen = (if content = [] then 0 else 74, "", "")) ∧
      (lexBytes content = .ok [] ↔ content = []) := by
  have outcome : run [path] host = listFile (host.readFile? path) (.empty host.outputFull) := rfl
  rw [outcome]
  refine ⟨fun unread => by rw [unread]; rfl, fun content read => ?_⟩
  rw [read]
  refine ⟨fun error refused => ?_, fun tokens lexed room => ?_, fun tokens lexed full => ?_,
    lexBytes_eq_ok_nil_iff⟩
  · rw [listFile_error refused]
    rfl
  · rw [room, listFile_room lexed]
    rfl
  · rw [full, listFile_full lexed]
    split <;> rfl

/-- A full output: what stands before the stray character does not matter, and without this
character it cannot be written. -/
theorem run_file_stray :
    let host : Host := ⟨⟨[], none⟩, fun path =>
      if path = "stray" then some [0x78, 0x20, 0x40] else
        if path = "plain" then some [0x78, 0x20] else none, true⟩
    (run ["stray"] host).seen = (65, "", "[line 1:3] Error: Unexpected character '@'.\n") ∧
      (run ["plain"] host).seen = (74, "", "") ∧
      (run ["plain"] { host with outputFull := false }).seen =
        (0, "Token(identifier, content: x, line: 1)\nToken(whitespace, content:  , line: 1)\n",
          "") ∧
      (run ["other"] host).seen = (74, "", "Could not read file.\n") := by
  intro host
  have stray : lexBytes [0x78, 0x20, 0x40] = .error (.unexpectedCharacter '@' ⟨1, 3⟩) := by
    decide +kernel
  have plain : lexBytes [0x78, 0x20] =
      .ok [⟨.identifier, "x", ⟨1, 1⟩⟩, ⟨.whitespace, " ", ⟨1, 2⟩⟩] := by
    decide +kernel
  have ⟨_, files⟩ := run_file "plain" host
  have ⟨_, files'⟩ := run_file "plain" { host with outputFull := false }
  refine ⟨((run_file "stray" host).2 _ rfl).1 _ stray, ?_, ?_, (run_file "other" host).1 rfl⟩
  · exact (files _ rfl).2.2.1 _ plain rfl
  · exact ((files' _ rfl).2.1 _ plain rfl).trans (by decide +kernel)

end CommandLine

end LoxLexer
