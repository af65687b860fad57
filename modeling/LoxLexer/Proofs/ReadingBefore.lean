import LoxLexer.Proofs.Printing

/-!
# The reading of a text in front of another one

Where a token ends depends on what stands behind it, so the beginning of a text is read together
with the rest of that text. `ReadingBefore after position text tokens` says that `text`, which
starts at `position` and has `after` behind it, is read as these tokens, the last of which ends
where `after` starts.

* `ReadingBefore.reading` and `Reading.exists_before` join two parts of a reading and take them
  apart, and `ReadingBefore.placed` and `ReadingBefore.printed_eq` say what the tokens tell of the
  text.
* `Replaceable after after'` says when tokens that end before the one text also end before the
  other: `ReadingBefore.replace` keeps the tokens there.
* `Seals after more` says when text put behind `after` changes no token in front of it, which is a
  case of this: `ReadingBefore.append`.
-/

namespace LoxLexer

/-- In front of `after`, a text that starts at a position is read as these tokens. -/
inductive ReadingBefore (after : List Char) : Position → List Char → List Token → Prop
  | nil {position : Position} : ReadingBefore after position [] []
  | cons {position : Position} {text lexeme more : List Char} {kind : TokenKind}
    {tokens : List Token} :
    Cut text kind lexeme (more ++ after) → ReadingBefore after (position.walk text) more tokens →
    ReadingBefore after position (text ++ more)
      (⟨kind, String.ofList lexeme, position⟩ :: tokens)

/-! ## Joining and taking apart -/

/-- The tokens in front of a text go before those of its own reading. -/
theorem ReadingBefore.reading {after text : List Char} {position : Position}
    {first later : List Token} (front : ReadingBefore after position text first)
    (behind : Reading (position.walk text) after later) :
    Reading position (text ++ after) (first ++ later) := by
  induction front with
  | nil => exact behind
  | @cons position text lexeme more kind tokens cut _ ih =>
    rw [Position.walk_append] at behind
    rw [List.append_assoc, List.cons_append]
    exact .cons cut (ih behind)

/-- The first tokens of a reading are those of a text in front of what the others are read from. -/
theorem Reading.exists_before {position : Position} {whole : List Char} {first later : List Token}
    (reading : Reading position whole (first ++ later)) :
    ∃ text after, whole = text ++ after ∧ ReadingBefore after position text first ∧
      Reading (position.walk text) after later := by
  induction first generalizing position whole with
  | nil => exact ⟨[], whole, (List.nil_append whole).symm, .nil, reading⟩
  | cons token first ih =>
    cases reading with
    | cons cut others =>
      obtain ⟨text, after, same, front, behind⟩ := ih others
      subst same
      rw [← Position.walk_append] at behind
      exact ⟨_, after, (List.append_assoc _ text after).symm, .cons cut front, behind⟩

/-- One of the tokens of a reading is cut off behind the text of those before it. -/
theorem Reading.exists_cut {position : Position} {whole : List Char} {first later : List Token}
    {token : Token} (reading : Reading position whole (first ++ token :: later)) :
    ∃ text piece after, whole = text ++ (piece ++ after) ∧
      ReadingBefore (piece ++ after) position text first ∧
      Cut piece token.kind token.lexeme.toList after ∧ token.position = position.walk text ∧
      Reading (token.position.walk piece) after later := by
  obtain ⟨text, _, same, front, behind⟩ := reading.exists_before
  cases behind with
  | cons cut others =>
    refine ⟨text, _, _, same, front, ?_, rfl, others⟩
    rw [String.toList_ofList]
    exact cut

/-- A reading goes to the end of the text. -/
theorem Reading.before {position : Position} {text : List Char} {tokens : List Token}
    (reading : Reading position text tokens) : ReadingBefore [] position text tokens := by
  rw [← List.append_nil tokens] at reading
  obtain ⟨text, after, same, front, behind⟩ := reading.exists_before
  cases behind
  rw [List.append_nil] at same
  rw [same]
  exact front

namespace ReadingBefore

variable {after text : List Char} {position : Position} {tokens : List Token}

/-- One token is read where it is cut off. -/
theorem of_cut {lexeme : List Char} {kind : TokenKind} (cut : Cut text kind lexeme after)
    (position : Position) :
    ReadingBefore after position text [⟨kind, String.ofList lexeme, position⟩] := by
  have front : ReadingBefore after position (text ++ []) _ := .cons cut .nil
  rwa [List.append_nil] at front

/-- Two texts in a row are read as the tokens of the first and then those of the second. -/
theorem trans {text' : List Char} {tokens' : List Token}
    (front : ReadingBefore (text' ++ after) position text tokens)
    (behind : ReadingBefore after (position.walk text) text' tokens') :
    ReadingBefore after position (text ++ text') (tokens ++ tokens') := by
  induction front with
  | nil => exact behind
  | cons cut _ ih =>
    rw [Position.walk_append] at behind
    rw [List.append_assoc, List.cons_append]
    rw [← List.append_assoc] at cut
    exact .cons cut (ih behind)

/-- The tokens spell the text in front. -/
theorem printed_eq (front : ReadingBefore after position text tokens) : printed tokens = text := by
  induction front with
  | nil => rfl
  | cons cut _ ih => rw [printed_cons, cut.toList_spelling, ih]

/-- Each token stands where those before it end. -/
theorem placed (front : ReadingBefore after position text tokens) : Placed position tokens := by
  induction front with
  | nil => trivial
  | cons cut _ ih =>
    refine ⟨rfl, ?_⟩
    rw [cut.toList_spelling]
    exact ih

/-- None of the tokens is the end of the source. -/
theorem kind_ne_eof (front : ReadingBefore after position text tokens) :
    ∀ token ∈ tokens, token.kind ≠ .eof := by
  induction front with
  | nil => exact nofun
  | cons cut _ ih => exact List.forall_mem_cons.2 ⟨cut.kind_ne_eof, ih⟩

/-- Each token takes some text. -/
theorem spelling_ne_nil (front : ReadingBefore after position text tokens) :
    ∀ token ∈ tokens, token.spelling.toList ≠ [] := by
  induction front with
  | nil => exact nofun
  | cons cut _ ih =>
    refine List.forall_mem_cons.2 ⟨?_, ih⟩
    rw [cut.toList_spelling]
    exact cut.ne_nil

end ReadingBefore

/-! ## Other text behind -/

/-- Every token that ends before `after` also ends before `after'`, since what a token looks for
there has been there before. It looks at the character behind it, and at the second one only behind
a dot. -/
structure Replaceable (after after' : List Char) : Prop where
  /-- The next character is the one of `after`, unless a line feed ends the line there. -/
  first : ∀ c ∈ after'.head?, c ∈ after.head? ∨ c = '\n'
  /-- A digit behind a dot is the one of `after`. -/
  second : after'.head? = some '.' → ∀ d ∈ after'[1]?, d.isDigit → d ∈ after[1]?

namespace Replaceable

variable {after after' : List Char}

/-- Behind a character other than a dot, no token looks any farther. -/
theorem of_cons {c : Char} (dot : c ≠ '.') : Replaceable (c :: after) (c :: after') where
  first := fun _ same => .inl same
  second := fun same => absurd (Option.some.inj same) dot

/-- No token looks at more than two characters. -/
theorem of_take (same : after'.take 2 = after.take 2) : Replaceable after after' := by
  have first : after'.head? = after.head? := by
    simpa [List.head?_take] using congrArg List.head? same
  have second : after'[1]? = after[1]? := by
    rw [← List.getElem?_take_of_lt Nat.one_lt_two, same, List.getElem?_take_of_lt Nat.one_lt_two]
  exact ⟨fun c mem => .inl (first ▸ mem), fun _ d mem _ => second ▸ mem⟩

/-- A text that is cut short has nothing new. -/
theorem of_append (after more : List Char) : Replaceable (after ++ more) after where
  first := by
    intro c mem
    rw [List.head?_append, Option.mem_def.1 mem]
    exact .inl rfl
  second := by
    intro _ d mem _
    rw [List.getElem?_append_left (List.getElem?_eq_some_iff.1 mem).1]
    exact mem

/-- What holds behind a text holds behind the tokens in it. -/
theorem append_left (text : List Char) (replaceable : Replaceable after after') :
    Replaceable (text ++ after) (text ++ after') := by
  match text with
  | [] => exact replaceable
  | [c] =>
    refine ⟨fun _ same => .inl same, fun _ d mem digit => ?_⟩
    simp only [List.cons_append, List.nil_append, List.getElem?_cons_succ,
      ← List.head?_eq_getElem?] at mem ⊢
    refine (replaceable.first d mem).resolve_right fun feed => ?_
    rw [feed] at digit
    exact absurd digit (by decide)
  | c :: d :: text => exact ⟨fun _ same => .inl same, fun _ _ same _ => same⟩

theorem stop (replaceable : Replaceable after after') {test : Char → Bool} (feed : ¬test '\n')
    (stop : ∀ c ∈ after.head?, ¬test c) : ∀ c ∈ after'.head?, ¬test c := by
  intro c mem
  rcases replaceable.first c mem with same | rfl
  · exact stop c same
  · exact feed

theorem head?_ne (replaceable : Replaceable after after') {c : Char} (feed : c ≠ '\n')
    (other : after.head? ≠ some c) : after'.head? ≠ some c :=
  fun same => other ((replaceable.first c same).resolve_right feed)

end Replaceable

/-- A token that ends before a text ends before one that can take its place. -/
theorem TokenKind.Ends.replace {kind : TokenKind} {lexeme after after' : List Char}
    (ends : kind.Ends lexeme after) (replaceable : Replaceable after after') :
    kind.Ends lexeme after' := by
  cases kind with
  | symbol s =>
    exact ⟨fun slash => replaceable.head?_ne (by decide) (ends.1 slash),
      fun equal => replaceable.head?_ne (by decide) (ends.2 equal)⟩
  | lineComment =>
    intro c mem
    exact (replaceable.first c mem).elim (ends c) id
  | whitespace | identifier | keyword => exact replaceable.stop (by decide) ends
  | number =>
    refine ⟨replaceable.stop (by decide) ends.1, fun plain dot d second digit => ?_⟩
    have dot' : after.head? = some '.' := (replaceable.first _ dot).resolve_right (by decide)
    exact ends.2 plain dot' d (replaceable.second dot d second digit) digit
  | string | illegal | eof => trivial

/-- A token is cut off in the same way if other text takes the place of what is behind it. Only an
open string looks farther than other tokens, up to the end of the text. -/
theorem Cut.replace {text lexeme after after' : List Char} {kind : TokenKind}
    (cut : Cut text kind lexeme after) (replaceable : Replaceable after after')
    (stays : kind ≠ .illegal ∨ (after = [] → after' = [])) : Cut text kind lexeme after' := by
  cases cut with
  | token lexical ends => exact .token lexical (ends.replace replaceable)
  | unclosed inside =>
    rw [stays.resolve_left (not_not_intro rfl) rfl]
    exact .unclosed inside
  | stray nothing => exact .stray nothing

theorem append_eq_nil_of_imp {text after after' : List Char} (ended : after = [] → after' = [])
    (none : text ++ after = []) : text ++ after' = [] := by
  obtain ⟨rfl, none⟩ := List.append_eq_nil_iff.1 none
  exact ended none

/-- So are all tokens of a text. -/
theorem ReadingBefore.replace {after after' text : List Char} {position : Position}
    {tokens : List Token} (front : ReadingBefore after position text tokens)
    (replaceable : Replaceable after after')
    (stays : (∀ token ∈ tokens, token.kind ≠ .illegal) ∨ (after = [] → after' = [])) :
    ReadingBefore after' position text tokens := by
  induction front with
  | nil => exact .nil
  | @cons position text lexeme more kind tokens cut _ ih =>
    have replaceable' := replaceable.append_left more
    rcases stays with legal | ended
    · obtain ⟨first, others⟩ := List.forall_mem_cons.1 legal
      exact .cons (cut.replace replaceable' (.inl first)) (ih (.inl others))
    · exact .cons (cut.replace replaceable' (.inr (append_eq_nil_of_imp ended))) (ih (.inr ended))

/-- Tokens stay the same if the text behind them is cut short. -/
theorem ReadingBefore.of_append {after more text : List Char} {position : Position}
    {tokens : List Token} (front : ReadingBefore (after ++ more) position text tokens) :
    ReadingBefore after position text tokens :=
  front.replace (.of_append after more) (.inr fun none => (List.append_eq_nil_iff.1 none).1)

/-! ## More text behind -/

/-- To the tokens that end before `after` it makes no difference that `more` comes behind it. A
token looks at the two characters behind it, at the second of them only if the first is a dot. -/
structure Seals (after more : List Char) : Prop where
  /-- A token at the end of the text may get the end of its line behind it, and nothing else. -/
  of_nil : after = [] → ∀ c ∈ more.head?, c = '\n'
  /-- Behind a dot at the end of the text there may be no fraction. -/
  of_dot : after = ['.'] → ∀ c ∈ more.head?, ¬c.isDigit

namespace Seals

variable {after more : List Char}

/-- A line feed ends every token in front of it. -/
theorem lineFeed (after more : List Char) : Seals after ('\n' :: more) := by
  refine ⟨fun _ c first => (Option.mem_some.1 first).symm, fun _ c first => ?_⟩
  rw [← Option.mem_some.1 first]
  decide

/-- Two characters are enough for every token, and so is one that is no dot. -/
theorem of_ne (some : after ≠ []) (dot : after ≠ ['.']) : Seals after more :=
  ⟨fun none => absurd none some, fun alone => absurd alone dot⟩

theorem replaceable (seals : Seals after more) : Replaceable after (after ++ more) := by
  match after with
  | [] =>
    refine ⟨fun c mem => .inr (seals.of_nil rfl c mem), fun dot => ?_⟩
    exact absurd (seals.of_nil rfl _ dot) (by decide)
  | [c] =>
    refine ⟨fun _ same => .inl same, fun dot d mem digit => ?_⟩
    obtain rfl : c = '.' := Option.some.inj dot
    simp only [List.cons_append, List.nil_append, List.getElem?_cons_succ,
      ← List.head?_eq_getElem?] at mem
    exact absurd digit (seals.of_dot rfl d mem)
  | c :: d :: after => exact ⟨fun _ same => .inl same, fun _ _ same _ => same⟩

end Seals

/-- Legal tokens stay the same if the text behind them goes on. -/
theorem ReadingBefore.append {after text more : List Char} {position : Position}
    {tokens : List Token} (front : ReadingBefore after position text tokens)
    (legal : ∀ token ∈ tokens, token.kind ≠ .illegal) (seals : Seals after more) :
    ReadingBefore (after ++ more) position text tokens :=
  front.replace seals.replaceable (.inl legal)

end LoxLexer
