import LoxLexer.Proofs.Decoding
import LoxLexer.Proofs.LineFeed
import LoxLexer.Proofs.Prompt

/-!
# A source and its lines

A file is lexed as a whole, and the prompt lexes each line for itself. Only a string can go over the
end of a line, so the two give the same tokens up to the first string that does.

* `ReadingBefore.inFirstLine`: the tokens of a line stay when the lines above it are gone.
* `Reading.byLine`: how a text falls into lines.
* `run_prompt_of_lexBytes`: a session over the lines, from the tokens of the whole.
-/

namespace LoxLexer

/-! ## Line feeds in bytes -/

namespace Utf8

theorem lineFeed_not_mem_continuation (count value : Nat) : 0x0A ∉ continuation count value := by
  induction count with
  | zero => exact nofun
  | succ count ih =>
    intro feed
    rcases List.mem_cons.1 feed with same | behind
    · have length := congrArg UInt8.toNat same
      simp only [UInt8.reduceToNat, UInt8.toNat_ofNat'] at length
      omega
    · exact ih behind

/-- No byte of a character is a line feed, unless the character is one. -/
theorem lineFeed_mem_utf8EncodeChar_iff {c : Char} : 0x0A ∈ String.utf8EncodeChar c ↔ c = '\n' := by
  constructor
  · intro feed
    obtain ⟨byte, lead, opens, least, payload⟩ := exists_opens c
    rw [opens.utf8EncodeChar_eq least payload, List.mem_cons] at feed
    have same := feed.resolve_right (lineFeed_not_mem_continuation _ _)
    have value := congrArg UInt8.toNat same
    -- the mark of a longer sequence is above every byte of one character
    cases opens with
    | one small =>
      simp only [UInt8.reduceToNat, UInt8.toNat_ofNat', Nat.pow_zero, Nat.div_one] at value payload
      apply Char.toNat_inj.1
      simp only [Char.reduceToNat]
      omega
    | two small | three small | four small =>
      simp only [UInt8.reduceToNat, UInt8.toNat_ofNat'] at value
      omega
  · intro same
    rw [same]
    decide

theorem lineFeed_mem_encode_iff {text : List Char} : 0x0A ∈ encode text ↔ '\n' ∈ text := by
  simp only [encode, List.mem_flatMap, lineFeed_mem_utf8EncodeChar_iff, exists_eq_right]

end Utf8

/-! ## One line -/

/-- The same column in the first line. -/
def Position.inFirstLine (position : Position) : Position :=
  { position with line := 1 }

/-- The same token in the first line. -/
def Token.inFirstLine (token : Token) : Token :=
  { token with position := token.position.inFirstLine }

theorem lineFeed_not_mem_printed_iff {tokens : List Token} :
    '\n' ∉ printed tokens ↔ ∀ token ∈ tokens, '\n' ∉ token.spelling.toList := by
  simp [printed]

namespace ReadingBefore

variable {after text : List Char} {position : Position} {tokens : List Token}

/-- A line is read in the same way without the lines above it. -/
theorem inFirstLine (front : ReadingBefore after position text tokens) (inside : '\n' ∉ text) :
    ReadingBefore after position.inFirstLine text (tokens.map Token.inFirstLine) := by
  induction front with
  | nil => exact .nil
  | cons cut _ ih =>
    obtain ⟨first, others⟩ := not_or.1 (mt List.mem_append.2 inside)
    have behind := ih others
    rw [Position.walk_of_not_mem _ first] at behind
    refine .cons cut ?_
    rw [Position.walk_of_not_mem _ first]
    exact behind

/-- The tokens of a line stand in it. -/
theorem line_eq (front : ReadingBefore after position text tokens) (inside : '\n' ∉ text) :
    ∀ token ∈ tokens, token.position.line = position.line := by
  induction front with
  | nil => exact nofun
  | cons _ _ ih =>
    obtain ⟨first, others⟩ := not_or.1 (mt List.mem_append.2 inside)
    rw [Position.walk_of_not_mem _ first] at ih
    exact List.forall_mem_cons.2 ⟨rfl, ih others⟩

/-- The tokens of a line spell no line feed. -/
theorem lineFeed_not_mem (front : ReadingBefore after position text tokens) (inside : '\n' ∉ text) :
    ∀ token ∈ tokens, '\n' ∉ token.spelling.toList := by
  rw [← lineFeed_not_mem_printed_iff, front.printed_eq]
  exact inside

end ReadingBefore

/-- No token stands above the line where a text starts. -/
theorem Reading.line_le {position : Position} {text : List Char} {tokens : List Token}
    (reading : Reading position text tokens) :
    ∀ token ∈ tokens, position.line ≤ token.position.line := by
  induction reading with
  | nil => exact nofun
  | @cons position text _ _ _ _ cut _ ih =>
    have below : position.line ≤ (position.walk text).line := by
      rcases position.precedes_walk cut.ne_nil with lower | ⟨same, -⟩
      · exact Nat.le_of_lt lower
      · exact Nat.le_of_eq same
    exact List.forall_mem_cons.2 ⟨Nat.le_refl _, fun token mem => Nat.le_trans below (ih token mem)⟩

/-! ## Where lines end -/

/-- Whether a token is a string that goes over the end of a line. -/
def Token.spansLines (token : Token) : Bool :=
  token.kind = .string ∧ '\n' ∈ token.lexeme.toList

theorem Token.lineFeed_mem_of_spansLines {token : Token} (spans : token.spansLines) :
    '\n' ∈ token.spelling.toList := by
  simp only [spansLines, decide_eq_true_eq] at spans
  simp [spelling, spans.1, spans.2]

/-- Only strings and line feeds of their own have a line feed in their text. -/
theorem Lexical.of_lineFeed_mem {text lexeme : List Char} {kind : TokenKind}
    (lexical : Lexical text kind lexeme) (feed : '\n' ∈ text) :
    kind = .symbol .newline ∧ text = ['\n'] ∧ lexeme = [] ∨
      kind = .string ∧ text = '"' :: lexeme ++ ['"'] ∧ '"' ∉ lexeme ∧ '\n' ∈ lexeme := by
  cases lexical with
  | symbol symbol => cases symbol <;> simp [Symbol.text] at feed ⊢
  | lineComment inside => exact absurd (by simpa using feed) inside
  | string inside => exact .inr ⟨rfl, rfl, inside, by simpa using feed⟩
  | whitespace _ blanks => exact absurd (blanks _ feed) (by decide)
  | whole _ digits => exact absurd (digits _ feed) (by decide)
  | fraction _ digits _ decimals =>
    rcases List.mem_append.1 feed with front | behind
    · exact absurd (digits _ front) (by decide)
    · exact absurd (decimals _ (by simpa using behind)) (by decide)
  | keyword keyword => cases keyword <;> simp [Keyword.text] at feed
  | identifier first others _ =>
    rcases List.mem_cons.1 feed with same | behind
    · rw [← same] at first
      exact absurd (isWordStart_iff.2 first) (by decide)
    · exact absurd (isWordPart_iff.2 (others _ behind)) (by decide)

/-- The first line feed of a text is in the first token that spells one, and the tokens in front of
it are those of a line. -/
theorem Reading.exists_lineFeed {position : Position} {text : List Char} {tokens : List Token}
    (reading : Reading position text tokens) (feed : '\n' ∈ text) :
    ∃ line after first token later, text = line ++ after ∧ tokens = first ++ token :: later ∧
      '\n' ∉ line ∧ '\n' ∈ token.spelling.toList ∧ ReadingBefore after position line first ∧
      Reading (position.walk line) after (token :: later) := by
  rw [← reading.before.printed_eq] at feed
  obtain ⟨witness, mem, spells⟩ := List.mem_flatMap.1 feed
  have some : (tokens.find? ('\n' ∈ ·.spelling.toList)).isSome :=
    List.find?_isSome.2 ⟨witness, mem, decide_eq_true spells⟩
  obtain ⟨token, found⟩ := Option.isSome_iff_exists.1 some
  obtain ⟨spelled, first, later, rfl, others⟩ := List.find?_eq_some_iff_append.1 found
  obtain ⟨line, after, rfl, front, behind⟩ := reading.exists_before
  refine ⟨line, after, first, token, later, rfl, rfl, ?_, of_decide_eq_true spelled, front, behind⟩
  rw [← front.printed_eq, lineFeed_not_mem_printed_iff]
  simpa using others

/-- How a text that is read as these tokens falls into lines, counted from a number on. Each line
ends with the text, with a line feed of its own, or within a string, behind which nothing is
said. -/
inductive ByLine : Nat → List Char → List Token → Prop
  | last {number : Nat} {line : List Char} {tokens : List Token} :
    '\n' ∉ line → Reading ⟨number, 1⟩ line tokens → ByLine number line tokens
  | ended {number : Nat} {line rest : List Char} {first later : List Token} :
    '\n' ∉ line → ReadingBefore ('\n' :: rest) ⟨number, 1⟩ line first →
    Reading ⟨number + 1, 1⟩ rest later → ByLine (number + 1) rest later →
    ByLine number (line ++ '\n' :: rest)
      (first ++ .newlineAt ((⟨number, 1⟩ : Position).walk line) :: later)
  | broken {number : Nat} {line body rest : List Char} {first later : List Token} {token : Token} :
    '\n' ∉ line ++ '"' :: body → '"' ∉ body →
    ReadingBefore ('"' :: body ++ '\n' :: rest) ⟨number, 1⟩ line first →
    token.spansLines → token.position = (⟨number, 1⟩ : Position).walk line →
    ByLine number (line ++ '"' :: body ++ '\n' :: rest) (first ++ token :: later)

theorem Reading.byLine {number : Nat} {text : List Char} {tokens : List Token}
    (reading : Reading ⟨number, 1⟩ text tokens) (legal : ∀ token ∈ tokens, token.kind ≠ .illegal) :
    ByLine number text tokens := by
  induction length : text.length using Nat.strong_induction_on generalizing number text tokens with
  | _ count ih =>
  subst length
  by_cases feed : '\n' ∈ text
  · obtain ⟨line, after, first, token, later, rfl, rfl, inside, feed, front, behind⟩ :=
      reading.exists_lineFeed feed
    obtain ⟨-, legal⟩ := List.forall_mem_append.1 legal
    obtain ⟨legal, legal'⟩ := List.forall_mem_cons.1 legal
    cases behind with
    | @cons _ _ _ after _ _ cut behind =>
      rw [cut.toList_spelling] at feed
      cases cut with
      | unclosed | stray => exact absurd rfl legal
      | token lexical _ =>
        rcases lexical.of_lineFeed_mem feed with ⟨rfl, rfl, rfl⟩ | ⟨rfl, rfl, closed, feed⟩
        · have shorter : after.length < (line ++ (['\n'] ++ after)).length := by
            simp only [List.length_append, List.length_singleton]
            omega
          rw [Position.walk_of_not_mem _ inside] at behind
          exact .ended inside front behind (ih _ shorter behind legal' rfl)
        · -- the line feed is in a string, and the line ends at the first one there
          obtain ⟨body, more, rfl, inside'⟩ := List.eq_append_cons_of_mem feed
          have spans : Token.spansLines ⟨.string, String.ofList (body ++ '\n' :: more),
              (⟨number, 1⟩ : Position).walk line⟩ := by simp [Token.spansLines]
          have closed' : '"' ∉ body := fun quote => closed (List.mem_append_left _ quote)
          have same : '"' :: (body ++ '\n' :: more) ++ ['"'] ++ after =
              '"' :: body ++ '\n' :: (more ++ '"' :: after) := by simp
          rw [same] at front ⊢
          rw [← List.append_assoc]
          exact .broken (by simp [inside, inside']) closed' front spans rfl
  · exact .last feed reading

/-! ## Lexing one line -/

/-- The tokens of a line are what the line is lexed to for itself. -/
theorem lex_ofList_line {line : List Char} {tokens : List Token} {number : Nat}
    (front : ReadingBefore [] ⟨number, 1⟩ line tokens) (inside : '\n' ∉ line)
    (legal : ∀ token ∈ tokens, token.kind ≠ .illegal) :
    lex (String.ofList line) = .ok (tokens.map Token.inFirstLine) := by
  have reading := (front.inFirstLine inside).reading .nil
  rw [List.append_nil, List.append_nil] at reading
  refine lex_eq_ok_iff.2 ⟨?_, List.forall_mem_map.2 legal⟩
  rw [String.toList_ofList]
  exact reading

/-- A line that breaks off within a string is refused there. -/
theorem lex_ofList_broken {line body : List Char} {tokens : List Token} {number : Nat}
    (front : ReadingBefore ('"' :: body) ⟨number, 1⟩ line tokens) (inside : '\n' ∉ line)
    (closed : '"' ∉ body) (legal : ∀ token ∈ tokens, token.kind ≠ .illegal) :
    lex (String.ofList (line ++ '"' :: body)) =
      .error (.unterminatedString ((⟨number, 1⟩ : Position).walk line).inFirstLine) := by
  have place : Position.start.walk line = ((⟨number, 1⟩ : Position).walk line).inFirstLine := by
    rw [Position.walk_of_not_mem _ inside, Position.walk_of_not_mem _ inside]
    rfl
  refine lex_eq_error_iff.2 ⟨line, _, '"', body, String.toList_ofList, front.inFirstLine inside,
    List.forall_mem_map.2 legal, ?_⟩
  rw [place]
  exact .unclosed closed

/-! ## Tokens by lines -/

/-- The tokens of a source as they are without line feeds and each in a first line. -/
def promptTokens (tokens : List Token) : List Token :=
  (tokens.filter (·.kind ≠ .symbol .newline)).map Token.inFirstLine

/-- The tokens of one line of a source, in the same way. -/
def lineTokens (tokens : List Token) (number : Nat) : List Token :=
  promptTokens (tokens.filter (·.position.line = number))

theorem promptTokens_of_line {tokens : List Token}
    (inside : ∀ token ∈ tokens, '\n' ∉ token.spelling.toList) :
    promptTokens tokens = tokens.map Token.inFirstLine := by
  have kept : tokens.filter (·.kind ≠ .symbol .newline) = tokens := by
    rw [List.filter_eq_self]
    intro token mem
    have other : token.kind ≠ .symbol .newline := by
      intro newline
      apply inside token mem
      simp [Token.spelling, newline, Symbol.text]
    simpa using other
  rw [promptTokens, kept]

section Ended

variable {first later : List Token} {position : Position} {number : Nat}

theorem promptTokens_ended :
    promptTokens (first ++ .newlineAt position :: later) =
      promptTokens first ++ promptTokens later := by
  simp [promptTokens, Token.newlineAt]

/-- The tokens of the first line are those in front of the line feed. -/
theorem lineTokens_ended (here : ∀ token ∈ first, token.position.line = number)
    (feed : position.line = number) (below : ∀ token ∈ later, number < token.position.line) :
    lineTokens (first ++ .newlineAt position :: later) number = promptTokens first := by
  have kept : first.filter (·.position.line = number) = first :=
    List.filter_eq_self.2 fun token mem => decide_eq_true (here token mem)
  have left : later.filter (·.position.line = number) = [] :=
    List.filter_eq_nil_iff.2 fun token mem => by simpa using (below token mem).ne'
  rw [lineTokens, List.filter_append, kept, List.filter_cons, left]
  simp [promptTokens, Token.newlineAt, feed]

/-- The tokens of another line are behind it. -/
theorem lineTokens_ended_below {other : Nat} (here : ∀ token ∈ first, token.position.line = number)
    (feed : position.line = number) (below : number < other) :
    lineTokens (first ++ .newlineAt position :: later) other = lineTokens later other := by
  have left : first.filter (·.position.line = other) = [] :=
    List.filter_eq_nil_iff.2 fun token mem => by simpa [here token mem] using below.ne
  simp [lineTokens, left, Token.newlineAt, feed, below.ne]

/-- So the tokens are, line by line, those in front of it and then those of the lines behind it. -/
theorem map_lineTokens_ended (here : ∀ token ∈ first, token.position.line = number)
    (feed : position.line = number) (below : ∀ token ∈ later, number < token.position.line)
    (count : Nat) :
    (List.range' number (count + 1)).map
        (lineTokens (first ++ .newlineAt position :: later)) =
      promptTokens first :: (List.range' (number + 1) count).map (lineTokens later) := by
  rw [List.range'_succ, List.map_cons, lineTokens_ended here feed below]
  congr 1
  refine List.map_congr_left fun other mem => lineTokens_ended_below here feed ?_
  exact (List.mem_range'_1.1 mem).1

/-- Neither the tokens of a line nor the line feed behind them go over the end of the line. -/
theorem find?_spansLines_ended (inside : ∀ token ∈ first, '\n' ∉ token.spelling.toList) :
    (first ++ .newlineAt position :: later).find? Token.spansLines =
      later.find? Token.spansLines := by
  have none : first.find? Token.spansLines = none :=
    List.find?_eq_none.2 fun token mem spans =>
      inside token mem (Token.lineFeed_mem_of_spansLines spans)
  rw [List.find?_append, none, Option.none_or, List.find?_cons_of_neg]
  exact nofun

end Ended

namespace CommandLine

open Utf8 (encode)

/-! ## Results of lines -/

section Lines

variable {line rest : List Char}

theorem lineResults_encode_last (inside : '\n' ∉ line) (some : line ≠ []) :
    lineResults (encode line) = [lex (String.ofList line)] := by
  rw [← Utf8.lineFeed_mem_encode_iff] at inside
  have some' : encode line ≠ [] := by
    obtain ⟨c, others, rfl⟩ := List.exists_cons_of_ne_nil some
    exact List.append_ne_nil_of_left_ne_nil (String.utf8EncodeChar_ne_nil) _
  have unended : (encode line).getLast? ≠ .some 0x0A :=
    fun last => inside (List.mem_of_getLast? last)
  rw [lineResults, lines_of_not_mem inside, if_neg some', List.map_singleton, lineResult,
    stripTerminator_unended unended, ← lexBytes_encode, String.toList_ofList]

theorem encode_ended : encode (line ++ '\n' :: rest) = encode line ++ 0x0A :: encode rest :=
  Utf8.encode_append line _

/-- A whole line is lexed for itself, and the bytes behind it have their own lines. -/
theorem lineResults_encode_ended (inside : '\n' ∉ line)
    (other : (encode line).getLast? ≠ some 0x0D) (more : List UInt8) :
    lineResults (encode line ++ 0x0A :: more) =
      lex (String.ofList line) :: lineResults more := by
  rw [lineResults_cons (mt Utf8.lineFeed_mem_encode_iff.1 inside), lineResult,
    stripTerminator_lineFeed other, ← lexBytes_encode, String.toList_ofList]

end Lines

/-- A whole line of a source has its tokens as its result. -/
theorem lineResults_encode_ended_ok {line rest : List Char} {first : List Token} {number : Nat}
    (front : ReadingBefore ('\n' :: rest) ⟨number, 1⟩ line first) (inside : '\n' ∉ line)
    (legal : ∀ token ∈ first, token.kind ≠ .illegal)
    (other : (encode line).getLast? ≠ some 0x0D) (more : List UInt8) :
    lineResults (encode line ++ 0x0A :: more) =
      .ok (promptTokens first) :: lineResults more := by
  have alone : ReadingBefore [] ⟨number, 1⟩ line first := front.of_append
  rw [lineResults_encode_ended inside other, lex_ofList_line alone inside legal,
    promptTokens_of_line (alone.lineFeed_not_mem inside)]

/-- In a source without strings over line ends, each line has the tokens of the source that stand in
it. -/
theorem lineResults_of_find?_eq_none {number : Nat} {text : List Char} {tokens : List Token}
    (byLine : ByLine number text tokens) (legal : ∀ token ∈ tokens, token.kind ≠ .illegal)
    (plain : ¬[0x0D, 0x0A] <:+: encode text) (unbroken : tokens.find? Token.spansLines = none) :
    ∃ lists, lineResults (encode text) = lists.map .ok ∧ lists.flatten = promptTokens tokens ∧
      lists = (List.range' number lists.length).map (lineTokens tokens) := by
  induction byLine with
  | @last number line tokens inside reading =>
    have alone := promptTokens_of_line (reading.before.lineFeed_not_mem inside)
    by_cases empty : line = []
    · subst empty
      obtain rfl := reading.eq_nil
      exact ⟨[], rfl, rfl, rfl⟩
    · have here : tokens.filter (·.position.line = number) = tokens :=
        List.filter_eq_self.2 fun token mem =>
          decide_eq_true (reading.before.line_eq inside token mem)
      refine ⟨[promptTokens tokens], ?_, List.flatten_singleton, ?_⟩
      · rw [lineResults_encode_last inside empty, lex_ofList_line reading.before inside legal,
          alone]
        rfl
      · simp [lineTokens, here]
  | @ended number line rest first later inside front behind _ ih =>
    obtain ⟨legal, legal'⟩ := List.forall_mem_append.1 legal
    rw [find?_spansLines_ended (front.lineFeed_not_mem inside)] at unbroken
    rw [encode_ended] at plain ⊢
    obtain ⟨lists, results, flat, split⟩ :=
      ih (List.forall_mem_cons.1 legal').2 (crlf_not_infix_of_append plain) unbroken
    have other := getLast?_ne_of_crlf_not_infix_append plain
    have feed := congrArg Position.line (Position.walk_of_not_mem ⟨number, 1⟩ inside)
    refine ⟨promptTokens first :: lists, ?_, ?_, ?_⟩
    · rw [lineResults_encode_ended_ok front inside legal other, results, List.map_cons]
    · rw [List.flatten_cons, flat, promptTokens_ended]
    · rw [List.length_cons, map_lineTokens_ended (front.line_eq inside) feed behind.line_le,
        ← split]
  | broken _ _ _ spans _ =>
    exact absurd spans (List.find?_eq_none.1 unbroken _ (by simp))

/-- In front of a string over a line end, too, each line has the tokens of the source that stand in
it, and the line of the string is refused where the string starts. -/
theorem lineResults_of_find?_eq_some {number : Nat} {text : List Char} {tokens : List Token}
    {token : Token} (byLine : ByLine number text tokens)
    (legal : ∀ token ∈ tokens, token.kind ≠ .illegal) (plain : ¬[0x0D, 0x0A] <:+: encode text)
    (broken : tokens.find? Token.spansLines = some token) :
    ∃ above rest, encode text = above ++ rest ∧ above.getLast? = some 0x0A ∧
      above.count 0x0A = token.position.line - number + 1 ∧
      lineResults above =
        ((List.range' number (token.position.line - number)).map (lineTokens tokens)).map .ok ++
          [.error (.unterminatedString token.position.inFirstLine)] := by
  induction byLine with
  | last inside reading =>
    have feed := Token.lineFeed_mem_of_spansLines (List.find?_some broken)
    exact absurd feed (reading.before.lineFeed_not_mem inside _ (List.mem_of_find?_eq_some broken))
  | @ended number line rest first later inside front behind _ ih =>
    obtain ⟨legal, legal'⟩ := List.forall_mem_append.1 legal
    rw [find?_spansLines_ended (front.lineFeed_not_mem inside)] at broken
    rw [encode_ended] at plain ⊢
    obtain ⟨above, below, same, ends, feeds, results⟩ :=
      ih (List.forall_mem_cons.1 legal').2 (crlf_not_infix_of_append plain) broken
    have other := getLast?_ne_of_crlf_not_infix_append plain
    have feed := congrArg Position.line (Position.walk_of_not_mem ⟨number, 1⟩ inside)
    have under : number + 1 ≤ token.position.line :=
      behind.line_le token (List.mem_of_find?_eq_some broken)
    have count : token.position.line - number = token.position.line - (number + 1) + 1 := by omega
    refine ⟨encode line ++ 0x0A :: above, below, ?_, ?_, ?_, ?_⟩
    · rw [same, List.append_assoc, List.cons_append]
    · obtain ⟨front, rfl⟩ := List.getLast?_eq_some_iff.1 ends
      rw [← List.cons_append, ← List.append_assoc, List.getLast?_concat]
    · have none : (encode line).count 0x0A = 0 :=
        List.count_eq_zero.2 (mt Utf8.lineFeed_mem_encode_iff.1 inside)
      rw [List.count_append, none, List.count_cons_self, feeds, count, Nat.zero_add]
    · rw [lineResults_encode_ended_ok front inside legal other, results, count,
        map_lineTokens_ended (front.line_eq inside) feed behind.line_le, List.map_cons,
        List.cons_append]
  | @broken number line body rest first later token' inside closed front spans place =>
    obtain ⟨legal, -⟩ := List.forall_mem_append.1 legal
    have inside' : '\n' ∉ line := fun feed => inside (List.mem_append_left _ feed)
    have unbroken : first.find? Token.spansLines = none :=
      List.find?_eq_none.2 fun other mem spans =>
        front.lineFeed_not_mem inside' other mem (Token.lineFeed_mem_of_spansLines spans)
    rw [List.find?_append, unbroken, Option.none_or, List.find?_cons_of_pos spans] at broken
    obtain rfl := Option.some.inj broken
    have line_eq : token'.position.line = number := by
      rw [place, Position.walk_of_not_mem _ inside']
    rw [encode_ended] at plain ⊢
    have other := getLast?_ne_of_crlf_not_infix_append plain
    refine ⟨encode (line ++ '"' :: body) ++ [0x0A], encode rest, ?_, List.getLast?_concat, ?_, ?_⟩
    · rw [List.append_assoc, List.singleton_append]
    · have none : (encode (line ++ '"' :: body)).count 0x0A = 0 :=
        List.count_eq_zero.2 (mt Utf8.lineFeed_mem_encode_iff.1 inside)
      rw [List.count_append, none, line_eq, Nat.sub_self]
      rfl
    · rw [lineResults_encode_ended inside other [],
        lex_ofList_broken front.of_append inside' closed legal, ← place, line_eq, Nat.sub_self]
      rfl

/-! ## Sessions over a source -/

/-- The report of a string that the first line does not close. -/
theorem reported_unterminatedString (column : Nat) :
    reported (.error (.unterminatedString ⟨1, column⟩)) =
      "[line 1:" ++ toString column ++ "] Error: Unterminated string.\n" := by
  have front : "[line " ++ toString 1 ++ ":" = "[line 1:" := by decide +kernel
  have back : "]" ++ (" Error: Unterminated string." ++ "\n") =
      "] Error: Unterminated string.\n" := by decide +kernel
  have message : (LexError.unterminatedString ⟨1, column⟩).message =
      "[line " ++ toString 1 ++ ":" ++ toString column ++ "]" ++ " Error: Unterminated string." :=
    rfl
  rw [reported, message, front, ← back, String.append_assoc, String.append_assoc]

/-- **A file and the prompt give the same tokens.** Let some bytes have no carriage return in front
of a line feed and be lexed as a whole. If no string of theirs goes over the end of a line, then the
prompt lexes every line of them, and line by line it has and shows the tokens of the whole, without
the line feeds between the lines and each in a first line; it reports no error. If a string does,
then it has and shows so the tokens of the lines above the first such string, reports of the line
where it starts that it is refused there, and goes on below as if it had just begun. -/
theorem run_prompt_of_lexBytes {bytes : List UInt8} {tokens : List Token}
    (plain : ¬[0x0D, 0x0A] <:+: bytes) (lexed : lexBytes bytes = .ok tokens)
    (readFile? : String → Option (List UInt8)) :
    let session := fun bytes => run [] (.reading bytes readFile?)
    (tokens.find? Token.spansLines = none → ∃ bodies lists,
      LineBodies bytes bodies ∧ bodies.map lexBytes = lists.map .ok ∧
      lists.flatten = promptTokens tokens ∧
      lists = (List.range' 1 lists.length).map (lineTokens tokens) ∧
      (session bytes).code.toNat = 0 ∧
      (session bytes).stdout =
        String.join (lists.map fun tokens =>
          "lox > " ++ String.join (tokens.map fun token => token.listing ++ "\n")) ++
            "lox > \nLox is done! canceled by user via Ctrl+D\n" ∧
      (session bytes).stderr = "") ∧
    ∀ token, tokens.find? Token.spansLines = some token → ∃ above rest bodies,
      bytes = above ++ rest ∧ above.getLast? = some 0x0A ∧
      above.count 0x0A = token.position.line ∧
      LineBodies above bodies ∧
      bodies.map lexBytes =
        ((List.range' 1 (token.position.line - 1)).map (lineTokens tokens)).map .ok ++
          [.error (.unterminatedString ⟨1, token.position.column⟩)] ∧
      (session bytes).code.toNat = 0 ∧
      (session bytes).stdout =
        String.join ((List.range' 1 (token.position.line - 1)).map fun number =>
          "lox > " ++ String.join
            ((lineTokens tokens number).map fun token => token.listing ++ "\n")) ++
          ("lox > " ++ (session rest).stdout) ∧
      (session bytes).stderr =
        "[line 1:" ++ toString token.position.column ++ "] Error: Unterminated string.\n" ++
          (session rest).stderr := by
  intro session
  have outcome : ∀ bytes, session bytes =
      ⟨.success, transcript (lineResults bytes) ++ closing, complaints (lineResults bytes)⟩ :=
    fun bytes => run_prompt bytes readFile?
  obtain ⟨source, rfl⟩ := exists_encode_of_lexBytes_eq_ok lexed
  rw [lexBytes_encode] at lexed
  obtain ⟨reading, legal⟩ := lex_eq_ok_iff.1 lexed
  have byLine := reading.byLine legal
  constructor
  · intro unbroken
    obtain ⟨lists, results, flat, split⟩ := lineResults_of_find?_eq_none byLine legal plain unbroken
    have cut := lineBodies_iff.2 (rfl : (lines (encode source.toList)).map stripTerminator = _)
    refine ⟨_, lists, cut, (lineResults_eq cut).symm.trans results, flat, split, ?_⟩
    rw [outcome, results, transcript_map_ok, complaints_map_ok]
    exact ⟨rfl, rfl, rfl⟩
  · intro token broken
    obtain ⟨above, rest, same, ends, feeds, results⟩ :=
      lineResults_of_find?_eq_some byLine legal plain broken
    have cut := lineBodies_iff.2 (rfl : (lines above).map stripTerminator = _)
    have first : 1 ≤ token.position.line :=
      reading.line_le token (List.mem_of_find?_eq_some broken)
    refine ⟨above, rest, _, same, ends, by omega, cut, (lineResults_eq cut).symm.trans results, ?_⟩
    rw [same, outcome, outcome, lineResults_append (.inr ends), results, Position.inFirstLine,
      List.append_assoc, List.singleton_append, transcript_append, complaints_append,
      transcript_cons, complaints_cons, reported_unterminatedString, transcript_map_ok,
      complaints_map_ok, List.map_map, shown, String.append_empty, String.empty_append]
    refine ⟨rfl, ?_, rfl⟩
    rw [String.append_assoc, String.append_assoc]
    rfl

/-- Two lines, alone and with a string from the second one into a third. -/
theorem run_prompt_of_lexBytes_two_lines :
    let session := fun bytes => run [] (.reading bytes fun _ => none)
    (lexBytes [0x78, 0x0A, 0x2B] = .ok [⟨.identifier, "x", ⟨1, 1⟩⟩,
        ⟨.symbol .newline, "", ⟨1, 2⟩⟩, ⟨.symbol .plus, "", ⟨2, 1⟩⟩] ∧
      (session [0x78, 0x0A, 0x2B]).stdout =
        "lox > Token(identifier, content: x, line: 1)\nlox > Token(plus, content: , line: 1)\n" ++
          "lox > \nLox is done! canceled by user via Ctrl+D\n" ∧
      (session [0x78, 0x0A, 0x2B]).stderr = "") ∧
      lexBytes [0x78, 0x0A, 0x2B, 0x22, 0x79, 0x0A, 0x22] =
        .ok [⟨.identifier, "x", ⟨1, 1⟩⟩, ⟨.symbol .newline, "", ⟨1, 2⟩⟩,
          ⟨.symbol .plus, "", ⟨2, 1⟩⟩, ⟨.string, "y\n", ⟨2, 2⟩⟩] ∧
      (session [0x78, 0x0A, 0x2B, 0x22, 0x79, 0x0A, 0x22]).stdout =
        "lox > Token(identifier, content: x, line: 1)\nlox > " ++
          "lox > lox > \nLox is done! canceled by user via Ctrl+D\n" ∧
      (session [0x78, 0x0A, 0x2B, 0x22, 0x79, 0x0A, 0x22]).stderr =
        "[line 1:2] Error: Unterminated string.\n" ++
          "[line 1:1] Error: Unterminated string.\n" := by
  intro session
  have lexed : lexBytes [0x78, 0x0A, 0x2B] = .ok [⟨.identifier, "x", ⟨1, 1⟩⟩,
      ⟨.symbol .newline, "", ⟨1, 2⟩⟩, ⟨.symbol .plus, "", ⟨2, 1⟩⟩] := by decide +kernel
  have lexed' : lexBytes [0x78, 0x0A, 0x2B, 0x22, 0x79, 0x0A, 0x22] =
      .ok [⟨.identifier, "x", ⟨1, 1⟩⟩, ⟨.symbol .newline, "", ⟨1, 2⟩⟩,
        ⟨.symbol .plus, "", ⟨2, 1⟩⟩, ⟨.string, "y\n", ⟨2, 2⟩⟩] := by decide +kernel
  obtain ⟨bodies, lists, cut, results, -, -, -, stdout, stderr⟩ :=
    (run_prompt_of_lexBytes (by decide) lexed fun _ => none).1 rfl
  obtain ⟨above, rest, -, same, ends, feeds, -, -, -, stdout', stderr'⟩ :=
    (run_prompt_of_lexBytes (by decide) lexed' fun _ => none).2 _ rfl
  obtain rfl : [[0x78], [0x2B]] = bodies := ((lineBodies_iff.1 cut).trans (by decide)).symm
  have both : [[0x78], [0x2B]].map lexBytes =
      [[⟨.identifier, "x", ⟨1, 1⟩⟩], [⟨.symbol .plus, "", ⟨1, 1⟩⟩]].map .ok := by decide +kernel
  obtain rfl := (List.map_injective_iff.2 fun _ _ => Except.ok.inj) (both.symm.trans results)
  obtain rfl : [0x22] = rest := by
    -- the second line feed is the sixth byte
    have cuts : ∀ count ≤ 7,
        ([(0x78 : UInt8), 0x0A, 0x2B, 0x22, 0x79, 0x0A, 0x22].take count).getLast? = some 0x0A →
        ([(0x78 : UInt8), 0x0A, 0x2B, 0x22, 0x79, 0x0A, 0x22].take count).count 0x0A = 2 →
          [(0x78 : UInt8), 0x0A, 0x2B, 0x22, 0x79, 0x0A, 0x22].drop count = [0x22] := by
      decide
    have length := congrArg List.length same
    rw [List.length_append] at length
    have here := cuts above.length (Nat.le.intro length.symm)
    rw [same, List.take_left, List.drop_left] at here
    exact (here ends feeds).symm
  exact ⟨⟨lexed, stdout.trans (by decide +kernel), stderr⟩, lexed',
    stdout'.trans (by decide +kernel), stderr'.trans (by decide +kernel)⟩

end CommandLine

end LoxLexer
