import LoxLexer.Proofs.CursorView
import LoxLexer.Proofs.Drawing
import LoxLexer.Proofs.Refusal
import Mathlib.Algebra.Group.Nat.Defs

/-!
# Scans stay in bounds

A lexer counts bytes on its own and cuts its tokens out of the source by these counts, and its
stream keeps characters in a ring by indexes. This module shows that the counts and the indexes are
never out of place, in no state and for no source.

* `CharStream.InBounds` says so of a stream, and `CharStream.Between.inBounds` proves it wherever a
  stream stands.
* `CharStream.Leads.recognize`: within a scan, nothing is done to the stream but calls.
* `Lexer.CutsWithin` says of one scan that its text and what is dropped from it can be cut out, and
  `Lexer.Between.cutsWithin` proves it.
* `Lexer.answers_afterScans` and `Lexer.run_afterScans`: all calls and `lex` itself do nothing
  but one scan after the other.
* `scans_stay_in_bounds`: all of this for a source.
-/

namespace LoxLexer

/-! ## Streams -/

/-- Every character moves a position on by one column or by one line, and it has a byte. -/
theorem Position.walk_le (position : Position) (column : 1 ≤ position.column) (text : List Char) :
    (position.walk text).line + (position.walk text).column ≤
      position.line + position.column + Utf8.size text := by
  induction text generalizing position with
  | nil => exact Nat.le_refl _
  | cons c text ih =>
    have byte := c.utf8Size_pos
    have step : (position.advance c).line + (position.advance c).column ≤
        position.line + position.column + 1 := by
      unfold advance
      split <;> dsimp only <;> omega
    have others := ih _ (position.one_le_column_advance c)
    rw [walk_cons, Utf8.size_cons]
    omega

namespace CharStream

/-- The indexes and counters of a stream over a source are in place. -/
structure InBounds (source : String) (stream : CharStream) : Prop where
  /-- The head is a slot of the ring. -/
  head_lt : stream.ahead.head < 2
  /-- No more characters wait than there are slots. -/
  count_le : stream.ahead.count ≤ 2
  /-- Where a character waits, its slot is one of the ring. -/
  waits : ∀ index < stream.ahead.count, (stream.ahead.get? index).isSome
  /-- A character is taken from the ring only where one waits. -/
  taken : ∀ c rest, stream.ahead.pop? = some (c, rest) → rest.count + 1 = stream.ahead.count
  /-- No more bytes are counted than the source has. -/
  consumed_le : stream.consumed ≤ source.utf8ByteSize
  /-- Lines and columns together are not ahead of the bytes. -/
  position_le : stream.position.line + stream.position.column ≤ stream.consumed + 2

/-- The counters of a stream fit in words of 64 bits. -/
structure Fits (stream : CharStream) : Prop where
  consumed_lt : stream.consumed < 2 ^ 64
  line_lt : stream.position.line < 2 ^ 64
  column_lt : stream.position.column < 2 ^ 64

theorem InBounds.fits {source : String} {stream : CharStream} (bounds : stream.InBounds source)
    (small : source.utf8ByteSize < 2 ^ 63) : stream.Fits := by
  have consumed := bounds.consumed_le
  have position := bounds.position_le
  exact ⟨by omega, by omega, by omega⟩

/-- Where a stream stands between two parts of a source, its indexes and counters are in place. -/
theorem Between.inBounds {source : String} {stream : CharStream} {before after : List Char}
    (between : stream.Between before after) (whole : source.toList = before ++ after) :
    stream.InBounds source where
  head_lt := between.valid.head_lt
  count_le := between.valid.count_le
  waits := by
    intro index waits
    rw [← Lookahead.length_toList between.valid] at waits
    rw [Lookahead.get?_eq_getElem?_toList between.valid, List.getElem?_eq_getElem waits]
    rfl
  taken := by
    intro c rest taken
    have first := congrArg List.length (Lookahead.toList_of_pop? between.valid taken)
    rw [List.length_cons, Lookahead.length_toList between.valid,
      Lookahead.length_toList (between.valid.pop taken)] at first
    exact first.symm
  consumed_le := by
    rw [between.consumed_eq, ← Utf8.size_toList, whole, Utf8.size_append]
    exact Nat.le_add_right _ _
  position_le := by
    have walked := Position.walk_le .start (Nat.le_refl 1) before
    rw [between.position_eq, between.consumed_eq]
    simp only [Position.start] at walked ⊢
    omega

theorem inBounds_performed (source : String) (calls : List Call) :
    ((ofString source).performed calls).InBounds source := by
  obtain ⟨taken, left, same, between, -⟩ := (between_ofString source).performed calls
  exact between.inBounds same

/-! ## Calls within a scan -/

/-- Calls lead from the one stream to the other. -/
def Leads (stream stream' : CharStream) : Prop :=
  ∃ calls, stream.performed calls = stream'

namespace Leads

variable {stream stream' stream'' : CharStream}

theorem refl (stream : CharStream) : stream.Leads stream :=
  ⟨[], rfl⟩

theorem trans (first : stream.Leads stream') (second : stream'.Leads stream'') :
    stream.Leads stream'' := by
  obtain ⟨calls, rfl⟩ := first
  obtain ⟨calls', rfl⟩ := second
  exact ⟨calls ++ calls', List.foldl_append⟩

theorem of_answer (stream : CharStream) (call : Call) : stream.Leads (stream.answer call).2 :=
  ⟨[call], rfl⟩

theorem skip (stream : CharStream) : stream.Leads stream.skip :=
  of_answer stream .next

theorem nextIf (stream : CharStream) (expected : Char) : stream.Leads (stream.nextIf expected).2 :=
  of_answer stream (.nextIf expected)

theorem skipWhile (stream : CharStream) (test : Char → Bool) :
    stream.Leads (stream.skipWhile test) :=
  of_answer stream (.skipWhile test)

theorem skipFraction (stream : CharStream) : stream.Leads stream.skipFraction := by
  have peeked : stream.Leads stream.peek?.2 := of_answer stream .peek
  have peeked' : stream.peek?.2.Leads stream.peek?.2.peekSecond?.2 :=
    of_answer stream.peek?.2 .peekSecond
  simp only [CharStream.skipFraction]
  split
  · split
    · exact ((peeked.trans peeked').trans (skip _)).trans (skipWhile _ _)
    · exact peeked.trans peeked'
  · exact peeked

theorem lengthen (symbol : Symbol) (stream : CharStream) :
    stream.Leads (stream.lengthen symbol).2 := by
  have equal := nextIf stream '='
  unfold CharStream.lengthen
  split
  · exact refl stream
  · split
    · next next => rwa [next] at equal
    · next next => rwa [next] at equal

/-- To recognize a token, nothing but calls are made of the stream. -/
theorem recognize (first : Char) (stream : CharStream) :
    stream.Leads (stream.recognize first).2 := by
  have slash := nextIf stream '/'
  have skipped := skipWhile stream
  unfold CharStream.recognize
  split
  · split
    · next next =>
      rw [next] at slash
      exact slash.trans (skipWhile _ _)
    · next next => rwa [next] at slash
  split
  · simp only
    split
    · exact skipped _
    · exact (skipped _).trans (skip _)
  split
  · exact skipped _
  split
  · exact (skipped _).trans (skipFraction _)
  split
  · exact skipped _
  split
  · exact refl stream
  · exact lengthen ..

end Leads

end CharStream

/-! ## Scans -/

namespace Lexer

/-- The rule found for the next token and the stream behind this token, before the end of the
source. -/
def matched? (lexer : Lexer) : Option (Option Rule × CharStream) :=
  lexer.stream.next?.map fun (first, stream) => stream.recognize first

theorem nextToken_of_matched?_eq_none {lexer : Lexer} (ended : lexer.matched? = none) :
    lexer.nextToken = (.eofAt lexer.stream.position, lexer) := by
  rw [matched?, Option.map_eq_none_iff] at ended
  rw [nextToken, ended]
  rfl

/-- What is matched decides the next token: its text is what the source has between the bytes
counted before and after. -/
theorem nextToken_of_matched?_eq_some {lexer : Lexer} {rule : Option Rule} {stream : CharStream}
    (found : lexer.matched? = some (rule, stream)) :
    lexer.nextToken =
      ((Rule.token? rule lexer.source lexer.stream.consumed stream.consumed
        lexer.stream.position).getD ⟨.illegal, "", lexer.stream.position⟩,
        { lexer with stream }) := by
  obtain ⟨⟨first, stream'⟩, given, result⟩ := Option.map_eq_some_iff.1 found
  dsimp only at result
  rw [nextToken, given]
  dsimp only
  rw [result]

/-- The slices that the next token needs can be taken: its own, and the lexeme of it that leaves out
delimiters. -/
structure CutsWithin (lexer : Lexer) (rule : Option Rule) (stream : CharStream) : Prop where
  ordered : lexer.stream.consumed ≤ stream.consumed
  stop_le : stream.consumed ≤ lexer.source.utf8ByteSize
  start_isValid : (⟨lexer.stream.consumed⟩ : String.Pos.Raw).IsValid lexer.source
  stop_isValid : (⟨stream.consumed⟩ : String.Pos.Raw).IsValid lexer.source
  /-- The token is cut out, and nothing has to stand in for it. -/
  token : Rule.token? rule lexer.source lexer.stream.consumed stream.consumed
    lexer.stream.position = some lexer.nextToken.1
  /-- The text of a comment has two slashes that can be dropped. -/
  comment : rule = some .lineComment → ∃ body,
    slice? lexer.source lexer.stream.consumed stream.consumed = some ("//" ++ body) ∧
      slice? ("//" ++ body) 2 ("//" ++ body).utf8ByteSize = some body
  /-- The text of a string has two quotes that can be dropped. -/
  string : rule = some .string → ∃ body,
    slice? lexer.source lexer.stream.consumed stream.consumed = some ("\"" ++ body ++ "\"") ∧
      slice? ("\"" ++ body ++ "\"") 1 (("\"" ++ body ++ "\"").utf8ByteSize - 1) = some body
  /-- An illegal token has a first character. -/
  illegal : lexer.nextToken.1.kind = .illegal → lexer.nextToken.1.lexeme ≠ ""

theorem of_tokenOfText?_eq_some {rule : Rule} {kind : TokenKind} {text lexeme : String}
    {position : Position}
    (made : Rule.tokenOfText? (some rule) text position = some ⟨kind, lexeme, position⟩) :
    kind = rule.kind text ∧ rule.lexeme? text = some lexeme := by
  obtain ⟨lexeme', found, same⟩ := Option.map_eq_some_iff.1 made
  cases same
  exact ⟨rfl, found⟩

/-- What is matched is the rest of a token that starts with the next character. -/
theorem Between.completes {lexer : Lexer} {before after : List Char} {rule : Option Rule}
    {stream : CharStream} (between : lexer.Between before after)
    (found : lexer.matched? = some (rule, stream)) :
    ∃ text left, after = text ++ left ∧ stream.Between (before ++ text) left ∧
      Rule.Recognizes rule text left := by
  obtain ⟨⟨first, stream'⟩, given, result⟩ := Option.map_eq_some_iff.1 found
  cases after with
  | nil => cases between.stream.next?_nil.symm.trans given
  | cons c others =>
    obtain ⟨stream'', given', between'⟩ := between.stream.next?_cons
    cases given'.symm.trans given
    obtain ⟨taken, left, rfl, between'', recognizes⟩ := between'.recognize first
    dsimp only at result
    rw [result] at between'' recognizes
    rw [List.append_assoc] at between''
    exact ⟨first :: taken, left, rfl, between'', recognizes⟩

/-- Wherever a lexer stands in its source, the slices for the next token can be taken. -/
theorem Between.cutsWithin {lexer : Lexer} {before after : List Char} {rule : Option Rule}
    {stream : CharStream} (between : lexer.Between before after)
    (found : lexer.matched? = some (rule, stream)) : lexer.CutsWithin rule stream := by
  obtain ⟨text, left, rfl, between', kind, lexeme, cut, made⟩ := between.completes found
  have slice := between.slice?_source
  rw [← between.stream.consumed_eq, ← between'.consumed_eq] at slice
  have token : Rule.token? rule lexer.source lexer.stream.consumed stream.consumed
      lexer.stream.position = some ⟨kind, String.ofList lexeme, lexer.stream.position⟩ := by
    rw [Rule.token?, slice]
    exact made _
  have next : lexer.nextToken.1 = ⟨kind, String.ofList lexeme, lexer.stream.position⟩ := by
    rw [nextToken_of_matched?_eq_some found, token]
    rfl
  obtain ⟨start_isValid, stop_isValid, ordered⟩ := bounds_of_slice? slice
  refine ⟨ordered, stop_isValid.le_rawEndPos, start_isValid, stop_isValid, by rw [next, token],
    ?_, ?_, ?_⟩
  · intro comment
    subst comment
    obtain ⟨rfl, dropped⟩ := of_tokenOfText?_eq_some (made .start)
    cases cut with
    | token lexical _ =>
      cases lexical
      rw [ofList_slashes] at slice dropped
      exact ⟨_, slice, dropped⟩
  · intro string
    subst string
    obtain ⟨rfl, dropped⟩ := of_tokenOfText?_eq_some (made .start)
    cases cut with
    | token lexical _ =>
      cases lexical
      rw [ofList_quotes] at slice dropped
      exact ⟨_, slice, dropped⟩
  · rw [next]
    intro illegal empty
    subst illegal
    obtain ⟨rfl, -⟩ := cut.illegal_text
    exact cut.ne_nil (String.ofList_eq_empty_iff.1 empty)

/-! ## Scans one after the other -/

theorem source_nextToken (lexer : Lexer) : lexer.nextToken.2.source = lexer.source := by
  cases found : lexer.matched? with
  | none => rw [nextToken_of_matched?_eq_none found]
  | some result =>
    obtain ⟨rule, stream⟩ := result
    rw [nextToken_of_matched?_eq_some found]

/-- A scan makes nothing but calls of the stream. -/
theorem leads_nextToken (lexer : Lexer) : lexer.stream.Leads lexer.nextToken.2.stream := by
  unfold nextToken
  split
  · exact .refl _
  · next first stream given =>
    have skipped := CharStream.Leads.skip lexer.stream
    rw [CharStream.skip, given] at skipped
    exact skipped.trans (.recognize first stream)

/-- The lexer of a source after so many scans, whatever they have given. -/
def afterScans (source : String) : Nat → Lexer
  | 0 => .ofString source
  | count + 1 => (afterScans source count).nextToken.2

/-- What the scan behind so many others gives. -/
def scanned (source : String) (count : Nat) : Token :=
  (afterScans source count).nextToken.1

theorem source_afterScans (source : String) (count : Nat) :
    (afterScans source count).source = source := by
  induction count with
  | zero => rfl
  | succ count ih => exact (source_nextToken _).trans ih

theorem exists_between_afterScans (source : String) (count : Nat) :
    ∃ before after, (afterScans source count).Between before after := by
  induction count with
  | zero => exact ⟨_, _, between_ofString source⟩
  | succ count ih =>
    obtain ⟨before, after, between⟩ := ih
    obtain ⟨taken, left, -, between'⟩ := between.nextToken
    exact ⟨_, _, between'⟩

theorem leads_afterScans (source : String) (count : Nat) :
    (CharStream.ofString source).Leads (afterScans source count).stream := by
  induction count with
  | zero => exact .refl _
  | succ count ih => exact ih.trans (leads_nextToken _)

/-- An illegal token has a first character. -/
theorem lexeme_scanned_ne (source : String) (count : Nat)
    (illegal : (scanned source count).kind = .illegal) : (scanned source count).lexeme ≠ "" := by
  obtain ⟨before, after, between⟩ := exists_between_afterScans source count
  cases found : (afterScans source count).matched? with
  | none =>
    rw [scanned, nextToken_of_matched?_eq_none found] at illegal
    cases illegal
  | some result =>
    obtain ⟨rule, stream⟩ := result
    exact (between.cutsWithin found).illegal illegal

/-- The tokens before the end of the source that so many scans give, behind so many others. -/
def tokensOfScans (source : String) (count more : Nat) : List Token :=
  ((List.range' count more).map (scanned source)).filter (·.kind ≠ .eof)

theorem tokensOfScans_append (source : String) (count first second : Nat) :
    tokensOfScans source count (first + second) =
      tokensOfScans source count first ++ tokensOfScans source (count + first) second := by
  rw [tokensOfScans, ← List.range'_append_1, List.map_append, List.filter_append]
  rfl

theorem tokensOfScans_one (source : String) (count : Nat) :
    tokensOfScans source count 1 =
      if (scanned source count).kind = .eof then [] else [scanned source count] := by
  by_cases ended : (scanned source count).kind = .eof <;>
    simp [tokensOfScans, ended]

theorem next?_afterScans (source : String) (count : Nat) :
    (afterScans source count).next? =
      (if (scanned source count).kind = .eof then none else some (scanned source count),
        afterScans source (count + 1)) := rfl

theorem rest_afterScans (source : String) (count : Nat) :
    ∃ more, (afterScans source count).rest.2 = afterScans source (count + more) ∧
      (afterScans source count).rest.1 = tokensOfScans source count more := by
  have next := next?_afterScans source count
  by_cases ended : (scanned source count).kind = .eof
  · rw [if_pos ended] at next
    rw [rest_of_none next]
    refine ⟨1, rfl, ?_⟩
    rw [tokensOfScans_one, if_pos ended]
  · rw [if_neg ended] at next
    obtain ⟨more, behind, tokens⟩ := rest_afterScans source (count + 1)
    rw [rest_of_some next]
    refine ⟨1 + more, by rw [← Nat.add_assoc, behind], ?_⟩
    rw [tokensOfScans_append, tokensOfScans_one, if_neg ended, tokens]
    rfl
termination_by (afterScans source count).remaining
decreasing_by exact remaining_nextToken_lt ended

/-- A call makes some scans and gives what they give before the end of the source. -/
theorem answer_afterScans (source : String) (count : Nat) (call : Call) :
    ∃ more, ((afterScans source count).answer call).2 = afterScans source (count + more) ∧
      ((afterScans source count).answer call).1.tokens.filter (·.kind ≠ .eof) =
        tokensOfScans source count more := by
  cases call with
  | token => exact ⟨1, rfl, rfl⟩
  | next =>
    refine ⟨1, rfl, ?_⟩
    simp only [answer, Answer.tokens, next?_afterScans, tokensOfScans_one]
    split
    · rfl
    · next more => simp [more]
  | rest =>
    obtain ⟨more, behind, tokens⟩ := rest_afterScans source count
    refine ⟨more, behind, ?_⟩
    simp only [answer, Answer.tokens, tokens, tokensOfScans, List.filter_filter, Bool.and_self]

/-- So does every sequence of calls. -/
theorem answers_afterScans (source : String) (count : Nat) (calls : List Call) :
    ∃ more, ((afterScans source count).answers calls).2 = afterScans source (count + more) ∧
      ((afterScans source count).drawn calls).filter (·.kind ≠ .eof) =
        tokensOfScans source count more := by
  induction calls generalizing count with
  | nil => exact ⟨0, rfl, rfl⟩
  | cons call calls ih =>
    obtain ⟨first, behind, tokens⟩ := answer_afterScans source count call
    obtain ⟨second, behind', tokens'⟩ := ih (count + first)
    rw [← behind] at behind' tokens'
    refine ⟨first + second, ?_, ?_⟩
    · rw [← Nat.add_assoc]
      exact behind'
    · rw [tokensOfScans_append, ← tokens, ← tokens', ← List.filter_append]
      rfl

/-- A run makes scans up to the end of the source or the first illegal token, and it describes an
error only of this token. -/
theorem run_afterScans (source : String) (count : Nat) (drawn : List Token) (log : Log) :
    ∃ stop ≥ count, (∀ index ≥ count, index < stop → (scanned source index).kind ≠ .illegal) ∧
      ((scanned source stop).kind = .eof ∧
          ((afterScans source count).run drawn log).1 =
            .ok (drawn.reverse ++ tokensOfScans source count (stop - count)) ∨
        (scanned source stop).kind = .illegal ∧
          ((afterScans source count).run drawn log).1 =
            .error (.ofIllegal (scanned source stop))) := by
  have next := next?_afterScans source count
  have nothing : ∀ index ≥ count, index < count → (scanned source index).kind ≠ .illegal :=
    fun index behind before => absurd before (Nat.not_lt.2 behind)
  rw [run]
  split
  · next token lexer next' =>
    by_cases ended : (scanned source count).kind = .eof
    · rw [if_pos ended] at next
      cases next.symm.trans next'
    · rw [if_neg ended] at next
      cases next.symm.trans next'
      split
      · next illegal => exact ⟨count, Nat.le_refl _, nothing, .inr ⟨illegal, rfl⟩⟩
      · next legal =>
        obtain ⟨stop, behind, before, outcome⟩ := run_afterScans source (count + 1)
          (scanned source count :: drawn) (log.report (.token (scanned source count).listing))
        refine ⟨stop, Nat.le_of_succ_le behind, ?_, ?_⟩
        · intro index behind' before'
          rcases Nat.eq_or_lt_of_le behind' with same | later
          · rw [← same]
            exact legal
          · exact before index later before'
        · have first : stop - count = 1 + (stop - (count + 1)) := by omega
          rw [first, tokensOfScans_append, tokensOfScans_one, if_neg ended]
          simpa using outcome
  · next lexer next' =>
    by_cases ended : (scanned source count).kind = .eof
    · refine ⟨count, Nat.le_refl _, nothing, .inl ⟨ended, ?_⟩⟩
      rw [Nat.sub_self]
      exact congrArg Except.ok (List.append_nil _).symm
    · rw [if_neg ended] at next
      cases next.symm.trans next'
termination_by (afterScans source count).remaining
decreasing_by exact remaining_nextToken_lt ended

end Lexer

open Lexer (afterScans scanned tokensOfScans)

/-- **No scan leaves its bounds.** Whatever calls are made of the stream of a source, its indexes
and counters are in place, and if the source has less than `2 ^ 63` bytes, the counters fit in words
of 64 bits. A scan makes such calls and then cuts out its token, for which each slice can be taken.
All that can be done with a lexer is scan after scan, and `lex`, too, scans up to the end or to the
first illegal token, which has a first character to be described by. -/
theorem scans_stay_in_bounds {source : String} (small : source.utf8ByteSize < 2 ^ 63) :
    (∀ calls, ((CharStream.ofString source).performed calls).InBounds source ∧
      ((CharStream.ofString source).performed calls).Fits) ∧
    (∀ count, (afterScans source count).source = source ∧
      (CharStream.ofString source).Leads (afterScans source count).stream ∧
      ∀ rule stream, (afterScans source count).matched? = some (rule, stream) →
        (CharStream.ofString source).Leads stream ∧
          (afterScans source count).CutsWithin rule stream) ∧
    (∀ calls, ∃ count, ((Lexer.ofString source).answers calls).2 = afterScans source count ∧
      ((Lexer.ofString source).drawn calls).filter (·.kind ≠ .eof) =
        tokensOfScans source 0 count) ∧
    ∃ count, (∀ index < count, (scanned source index).kind ≠ .illegal) ∧
      ((scanned source count).kind = .eof ∧ lex source = .ok (tokensOfScans source 0 count) ∨
        (scanned source count).kind = .illegal ∧ (scanned source count).lexeme ≠ "" ∧
          lex source = .error (.ofIllegal (scanned source count))) := by
  refine ⟨?_, ?_, ?_, ?_⟩
  · intro calls
    have bounds := CharStream.inBounds_performed source calls
    exact ⟨bounds, bounds.fits small⟩
  · intro count
    obtain ⟨before, after, between⟩ := Lexer.exists_between_afterScans source count
    refine ⟨Lexer.source_afterScans source count, Lexer.leads_afterScans source count, ?_⟩
    intro rule stream found
    refine ⟨?_, between.cutsWithin found⟩
    have behind := Lexer.leads_afterScans source (count + 1)
    rw [afterScans, Lexer.nextToken_of_matched?_eq_some found] at behind
    exact behind
  · intro calls
    obtain ⟨count, behind, tokens⟩ := Lexer.answers_afterScans source 0 calls
    rw [Nat.zero_add] at behind
    exact ⟨count, behind, tokens⟩
  · obtain ⟨count, -, legal, outcome⟩ := Lexer.run_afterScans source 0 []
      (((Log.atLevel .off).report (.opened source.utf8ByteSize)).report .entered)
    refine ⟨count, fun index before => legal index (Nat.zero_le index) before, ?_⟩
    rcases outcome with ⟨ended, tokens⟩ | ⟨illegal, error⟩
    · exact .inl ⟨ended, tokens⟩
    · exact .inr ⟨illegal, Lexer.lexeme_scanned_ne source count illegal, error⟩

/-- Characters of two bytes in a comment, and a string that the source does not close. -/
theorem scans_stay_in_bounds_two_bytes :
    "//é\n\"é".utf8ByteSize < 2 ^ 63 ∧
      ((CharStream.ofString "//é\n\"é").performed [.next, .peekSecond, .next]).Fits ∧
      (∃ stream, (afterScans "//é\n\"é" 0).matched? = some (some .lineComment, stream) ∧
        (afterScans "//é\n\"é" 0).CutsWithin (some .lineComment) stream) ∧
      lex "//é\n\"é" = .error (.unterminatedString ⟨2, 1⟩) ∧
      ∃ count, (scanned "//é\n\"é" count).lexeme ≠ "" ∧
        .ofIllegal (scanned "//é\n\"é" count) = LexError.unterminatedString ⟨2, 1⟩ := by
  have small : "//é\n\"é".utf8ByteSize < 2 ^ 63 := by decide
  have refused : lex "//é\n\"é" = .error (.unterminatedString ⟨2, 1⟩) := by decide +kernel
  obtain ⟨calls, scans, -, count, -, outcome⟩ := scans_stay_in_bounds small
  refine ⟨small, (calls _).2, ?_, refused, count, ?_⟩
  · exact ⟨_, rfl, (scans 0).2.2 _ _ rfl |>.2⟩
  · rcases outcome with ⟨-, tokens⟩ | ⟨-, some, error⟩
    · cases refused.symm.trans tokens
    · exact ⟨some, (Except.error.inj (refused.symm.trans error)).symm⟩

end LoxLexer
