import LoxLexer.Proofs.Positions

/-!
# One stream of tokens

A source has one finite list of tokens, and all ways to draw tokens take from it, in its order,
until it is used up. Behind it there is only the end of the source, as often as it is asked for.

* `Lexer.Draws` is a finite number of draws; each takes a character (`Lexer.Draws.length_add_le`),
  so that the loops over a lexer end: `Lexer.exists_draws_rest` and `Lexer.exists_draws_run`.
* `DrawnBefore.reading`: the tokens drawn, without the ends of the source among them, are the
  reading of the text that has been read.
* `Lexer.Between.answers_at_end`: at the end of the source no call changes anything.
* `drawn_from_one_stream`: every mixture of calls.
-/

namespace LoxLexer

namespace Lexer

/-! ## Loops that draw -/

/-- So many draws in a row give these tokens and lead from one lexer to another. -/
inductive Draws : Lexer → List Token → Lexer → Prop
  | nil {lexer : Lexer} : Draws lexer [] lexer
  | cons {lexer lexer' last : Lexer} {token : Token} {tokens : List Token} :
    lexer.next? = (some token, lexer') → Draws lexer' tokens last →
    Draws lexer (token :: tokens) last

/-- There are no more draws than characters to be taken. -/
theorem Draws.length_add_le {lexer last : Lexer} {tokens : List Token}
    (draws : Draws lexer tokens last) : tokens.length + last.remaining ≤ lexer.remaining := by
  induction draws with
  | nil => exact Nat.le_of_eq (Nat.zero_add _)
  | cons next _ ih =>
    have taken := remaining_next?_lt next
    rw [List.length_cons]
    omega

/-- Collecting all tokens takes a finite number of draws, up to the one that gives nothing. -/
theorem exists_draws_rest (lexer : Lexer) :
    ∃ last, lexer.Draws lexer.rest.1 last ∧ last.next? = (none, lexer.rest.2) := by
  match next : lexer.next? with
  | (some token, lexer') =>
    obtain ⟨last, draws, ended⟩ := exists_draws_rest lexer'
    rw [rest_of_some next]
    exact ⟨last, .cons next draws, ended⟩
  | (none, lexer') =>
    rw [rest_of_none next]
    exact ⟨lexer, .nil, next⟩
termination_by lexer.remaining
decreasing_by exact remaining_next?_lt next

/-- So does a run, which makes draws up to the end of the source or the first illegal token. -/
theorem exists_draws_run (lexer : Lexer) (drawn : List Token) (log : Log) :
    ∃ tokens last, lexer.Draws tokens last ∧ (∀ token ∈ tokens, token.kind ≠ .illegal) ∧
      (last.next?.1 = none ∧ (lexer.run drawn log).1 = .ok (drawn.reverse ++ tokens) ∨
        ∃ token, last.next?.1 = some token ∧ token.kind = .illegal ∧
          (lexer.run drawn log).1 = .error (.ofIllegal token)) := by
  fun_induction Lexer.run lexer drawn log with
  | case1 lexer drawn log token rest next illegal =>
    exact ⟨[], lexer, .nil, List.forall_mem_nil _,
      .inr ⟨token, congrArg Prod.fst next, illegal, rfl⟩⟩
  | case2 lexer drawn log token rest next legal ih =>
    obtain ⟨tokens, last, draws, legal', outcome⟩ := ih
    refine ⟨token :: tokens, last, .cons next draws, List.forall_mem_cons.2 ⟨legal, legal'⟩, ?_⟩
    rwa [List.reverse_cons, List.append_assoc] at outcome
  | case3 lexer drawn log rest next =>
    refine ⟨[], lexer, .nil, List.forall_mem_nil _, .inl ⟨congrArg Prod.fst next, ?_⟩⟩
    rw [List.append_nil]

/-- What some draws give comes first among all tokens. -/
theorem Draws.rest_eq {lexer last : Lexer} {tokens : List Token}
    (draws : Draws lexer tokens last) : lexer.rest.1 = tokens ++ last.rest.1 := by
  induction draws with
  | nil => rfl
  | cons next _ ih => rw [rest_of_some next, ih, List.cons_append]

theorem remaining_ofString (source : String) : (ofString source).remaining = source.length := by
  rw [← String.length_toList]
  exact Nat.zero_add _

/-! ## The end of the source -/

/-- What a call gives where the source ends, at a position. -/
def Call.answerAtEnd (position : Position) : Call → Answer
  | token => .token (.eofAt position)
  | next => .next none
  | rest => .rest []

namespace Between

variable {lexer : Lexer} {before after : List Char}

theorem answer_at_end (between : lexer.Between before []) (call : Call) :
    lexer.answer call = (call.answerAtEnd (Position.start.walk before), lexer) := by
  cases call with
  | token =>
    simp only [Lexer.answer, between.nextToken_nil]
    rfl
  | next =>
    simp only [Lexer.answer, between.next?_nil]
    rfl
  | rest =>
    simp only [Lexer.answer, Lexer.rest_of_none between.next?_nil]
    rfl

/-- Once the end of the source is reached, every call finds it again. -/
theorem answers_at_end (between : lexer.Between before []) (calls : List Call) :
    lexer.answers calls = (calls.map (Call.answerAtEnd (Position.start.walk before)), lexer) := by
  induction calls with
  | nil => rfl
  | cons call calls ih => simp only [Lexer.answers, between.answer_at_end, ih, List.map_cons]

/-- Before the end of the source a scan gives a token and takes the text of it. -/
theorem nextToken_takes (between : lexer.Between before after) (more : after ≠ []) :
    lexer.nextToken.1.kind ≠ .eof ∧
      ∃ text ≠ [], lexer.stream.rest = text ++ lexer.nextToken.2.stream.rest := by
  obtain ⟨text, kind, lexeme, after', lexer', same, cut, next, between'⟩ :=
    between.exists_nextToken more
  rw [next, between.stream.rest_eq, between'.stream.rest_eq]
  exact ⟨cut.kind_ne_eof, text, cut.ne_nil, same⟩

end Between

end Lexer

/-! ## Drawn tokens -/

/-- Without the ends of the source, the tokens drawn are the reading of the text that has been
read. -/
theorem DrawnBefore.reading {left text : List Char} {position : Position} {drawn : List Token}
    (draws : DrawnBefore left position text drawn) :
    ReadingBefore left position text (drawn.filter (·.kind ≠ .eof)) := by
  obtain ⟨tokens, ends, rfl, front, -⟩ := draws
  have kept : tokens.filter (·.kind ≠ .eof) = tokens :=
    List.filter_eq_self.2 fun token mem => decide_eq_true (front.kind_ne_eof token mem)
  have gone : (List.replicate ends (Token.eofAt (position.walk text))).filter (·.kind ≠ .eof) =
      [] :=
    List.filter_eq_nil_iff.2 fun token mem => by simp [List.eq_of_mem_replicate mem, Token.eofAt]
  rwa [List.filter_append, kept, gone, List.append_nil]

/-- A text without tokens is empty. -/
theorem Reading.eq_nil_of_nil {position : Position} {text : List Char}
    (reading : Reading position text []) : text = [] := by
  cases reading
  rfl

/-- **All calls draw from one stream of tokens.** A source has a list of tokens, the end not among
them and not more than it has characters. Whatever calls are made, the tokens that they give are a
beginning of this list, and what is left of it comes next: the call for the rest gives it, by a
finite number of draws, and each scan that does not find the end takes a character at least. Once
the list is used up, all further calls find the end of the source, at one position. To lex the
source takes draws up to its end or up to its first illegal token. -/
theorem drawn_from_one_stream (source : String) :
    ∃ stream : List Token, stream.length ≤ source.length ∧
      (∀ token ∈ stream, token.kind ≠ .eof) ∧
      (∀ calls, let lexer := ((Lexer.ofString source).answers calls).2
        let drawn := ((Lexer.ofString source).drawn calls).filter (·.kind ≠ .eof)
        drawn ++ lexer.rest.1 = stream ∧
        (∃ last, lexer.Draws lexer.rest.1 last ∧ last.next? = (none, lexer.rest.2)) ∧
        (lexer.stream.rest ≠ [] → lexer.nextToken.1.kind ≠ .eof ∧
          ∃ text ≠ [], lexer.stream.rest = text ++ lexer.nextToken.2.stream.rest) ∧
        (drawn = stream → ∀ later, (lexer.answers later).1 =
          later.map (Lexer.Call.answerAtEnd (.behind source.toList)))) ∧
      ∃ tokens last, (Lexer.ofString source).Draws tokens last ∧ tokens <+: stream ∧
        (∀ token ∈ tokens, token.kind ≠ .illegal) ∧
        (last.next?.1 = none ∧ lex source = .ok tokens ∨
          ∃ token, last.next?.1 = some token ∧ token.kind = .illegal ∧
            lex source = .error (.ofIllegal token)) := by
  have reading : Reading .start source.toList (Lexer.ofString source).rest.1 :=
    reading_iff_rest.2 rfl
  refine ⟨(Lexer.ofString source).rest.1, ?_, reading.before.kind_ne_eof, ?_, ?_⟩
  · obtain ⟨last, draws, -⟩ := (Lexer.ofString source).exists_draws_rest
    have length := draws.length_add_le
    rw [Lexer.remaining_ofString] at length
    exact Nat.le_of_add_right_le length
  · intro calls lexer drawn
    obtain ⟨text, left, whole, draws, between⟩ := (Lexer.between_ofString source).drawn calls
    have joined : drawn ++ lexer.rest.1 = (Lexer.ofString source).rest.1 := by
      apply reading.unique
      rw [whole]
      exact draws.reading.reading between.rest.1
    refine ⟨joined, lexer.exists_draws_rest, ?_, ?_⟩
    · intro more
      rw [between.stream.rest_eq] at more
      exact between.nextToken_takes more
    · intro used later
      have none : lexer.rest.1 = [] := List.append_right_eq_self.1 (joined.trans used.symm)
      have behind := between.rest.1
      rw [none] at behind
      obtain rfl := behind.eq_nil_of_nil
      rw [List.append_nil] at whole
      rw [whole, ← Position.walk_start]
      exact congrArg Prod.fst (between.answers_at_end later)
  · obtain ⟨tokens, last, draws, legal, outcome⟩ := (Lexer.ofString source).exists_draws_run []
      (((Log.atLevel .off).report (.opened source.utf8ByteSize)).report .entered)
    exact ⟨tokens, last, draws, ⟨last.rest.1, draws.rest_eq.symm⟩, legal, outcome⟩

/-- A string that the source does not close is the last token, and behind it the three ways to draw
find the end of the source again and again. -/
theorem drawn_from_one_stream_unclosed :
    ((Lexer.ofString "x\n\"é").drawn [.next, .rest]).filter (·.kind ≠ .eof) =
        [⟨.identifier, "x", ⟨1, 1⟩⟩, ⟨.symbol .newline, "", ⟨1, 2⟩⟩, ⟨.illegal, "\"é", ⟨2, 1⟩⟩] ∧
      (((Lexer.ofString "x\n\"é").answers [.next, .rest]).2.answers
          [.token, .rest, .next, .token]).1 =
        [.token (.eofAt ⟨2, 3⟩), .rest [], .next none, .token (.eofAt ⟨2, 3⟩)] ∧
      ((Lexer.ofString "x\n\"é").answers [.next]).2.stream.rest ≠ [] ∧
      ∃ text ≠ [], ((Lexer.ofString "x\n\"é").answers [.next]).2.stream.rest =
        text ++ ((Lexer.ofString "x\n\"é").answers [.next]).2.nextToken.2.stream.rest := by
  obtain ⟨stream, -, -, calls, -⟩ := drawn_from_one_stream "x\n\"é"
  have all : (Lexer.ofString "x\n\"é").rest.1 =
      [⟨.identifier, "x", ⟨1, 1⟩⟩, ⟨.symbol .newline, "", ⟨1, 2⟩⟩, ⟨.illegal, "\"é", ⟨2, 1⟩⟩] := by
    decide +kernel
  have drawn : ((Lexer.ofString "x\n\"é").drawn [.next, .rest]).filter (·.kind ≠ .eof) =
      [⟨.identifier, "x", ⟨1, 1⟩⟩, ⟨.symbol .newline, "", ⟨1, 2⟩⟩, ⟨.illegal, "\"é", ⟨2, 1⟩⟩] := by
    decide +kernel
  have more : ((Lexer.ofString "x\n\"é").answers [.next]).2.stream.rest ≠ [] := by decide +kernel
  have used := drawn.trans (all.symm.trans (calls []).1)
  obtain ⟨-, -, -, ended⟩ := calls [.next, .rest]
  obtain ⟨-, -, takes, -⟩ := calls [.next]
  exact ⟨drawn, ended used [.token, .rest, .next, .token], more, (takes more).2⟩

end LoxLexer
