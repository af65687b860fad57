import LoxLexer.Proofs.LineFeed

/-!
# What stands in comments and strings

A comment and a string end at one character, and up to this character the lexer does not look at
what they say. Any other text that does not have this character can take the place, and the other
tokens stay what they are. Only positions can tell of the exchange: those behind the text, as far as
its lines and columns are counted on.

* `Position.walk_congr`: where the lines of two texts are the same, and their last columns, so is
  what stands behind them.
* `Reading.exists_at`: elsewhere, a text is read as the same tokens in other places.
* `Reading.behind_comment`: behind a comment, only the end of its line moves.
* `Reading.replace_comment` and `Reading.replace_string`: the readings of a text in which one
  comment or one string has been replaced.
* `replace_comment_or_string`: the same of sources.
-/

namespace LoxLexer

/-! ## Positions behind a text -/

namespace Position

/-- To walk over texts that end in the same place is the same from any position. -/
theorem walk_congr {text text' : List Char} (same : behind text = behind text')
    (position : Position) : position.walk text = position.walk text' := by
  rw [← after_walk position text, ← after_walk position text', walk_start, walk_start, same]

/-- The position behind a comment that starts at a position and has this body. -/
def behindComment (position : Position) (body : String) : Position :=
  ⟨position.line, position.column + 2 + body.length⟩

theorem walk_slashes {body : List Char} (inside : '\n' ∉ body) (position : Position) :
    position.walk ('/' :: '/' :: body) = position.behindComment (String.ofList body) := by
  have inside' : '\n' ∉ '/' :: '/' :: body := by simp [inside]
  rw [walk_of_not_mem position inside', behindComment, String.length_ofList, List.length_cons,
    List.length_cons]
  congr 1
  omega

/-- Two strings that end in the same place are followed by the same place. -/
theorem walk_quotes {body body' : List Char} (lines : body.count '\n' = body'.count '\n')
    (columns : (body.rtakeWhile (· ≠ '\n')).length = (body'.rtakeWhile (· ≠ '\n')).length)
    (position : Position) :
    position.walk ('"' :: body ++ ['"']) = position.walk ('"' :: body' ++ ['"']) := by
  have same : behind body = behind body' := by rw [behind, behind, lines, columns]
  rw [List.cons_append, List.cons_append, walk_cons, walk_cons, walk_append, walk_append,
    walk_congr same]

end Position

/-! ## Readings in other places -/

/-- What a token says, wherever it stands. -/
def Token.content (token : Token) : TokenKind × String :=
  (token.kind, token.lexeme)

/-- In another place, a text is read as tokens that say the same. -/
theorem Reading.exists_at {position : Position} {text : List Char} {tokens : List Token}
    (reading : Reading position text tokens) (position' : Position) :
    ∃ tokens', Reading position' text tokens' ∧
      tokens'.map Token.content = tokens.map Token.content := by
  induction reading generalizing position' with
  | nil => exact ⟨[], .nil, rfl⟩
  | @cons _ text lexeme _ kind _ cut _ ih =>
    obtain ⟨others, behind, same⟩ := ih (position'.walk text)
    exact ⟨_, .cons cut behind, congrArg (List.cons _) same⟩

/-- The same token in another place. -/
def Token.moveTo (token : Token) (position : Position) : Token :=
  { token with position }

/-- Behind a comment stands the end of its line. It moves with what stands in front of it, and the
lines below stay where they are. -/
theorem Reading.behind_comment {position : Position} {after : List Char} {later : List Token}
    (reading : Reading position after later) (stop : ∀ c ∈ after.head?, c = '\n')
    (position' : Position) (line : position'.line = position.line) :
    (∀ next ∈ later.head?, next = .newlineAt position) ∧
      Reading position' after (later.modifyHead (·.moveTo position')) := by
  cases after with
  | nil =>
    rw [reading.eq_nil]
    exact ⟨nofun, .nil⟩
  | cons c others =>
    obtain rfl := stop c rfl
    have feed : Cut ['\n'] (.symbol .newline) [] others := .lineFeed others
    obtain ⟨below, rfl, behind⟩ := Reading.of_cut reading feed
    refine ⟨fun next first => (Option.mem_some.1 first).symm, ?_⟩
    have below : position'.walk ['\n'] = position.walk ['\n'] := by
      simp [Position.advance, line]
    rw [← below] at behind
    exact .cons feed behind

/-! ## Other text in a token -/

/-- Another token takes the place of one, if both start with the same character and end before the
same text. -/
theorem ReadingBefore.replace_next {position : Position}
    {text piece piece' lexeme after : List Char}
    {opening : Char} {kind : TokenKind} {first later : List Token}
    (front : ReadingBefore (opening :: piece ++ after) position text first) (dot : opening ≠ '.')
    (cut : Cut (opening :: piece') kind lexeme after)
    (behind : Reading ((position.walk text).walk (opening :: piece')) after later) :
    Reading position (text ++ (opening :: piece' ++ after))
      (first ++ ⟨kind, String.ofList lexeme, position.walk text⟩ :: later) := by
  have front' : ReadingBefore (opening :: piece' ++ after) position text first :=
    front.replace (.of_cons dot) (.inr nofun)
  exact front'.reading (.cons cut behind)

theorem Cut.of_lineComment {text lexeme after : List Char}
    (cut : Cut text .lineComment lexeme after) :
    text = '/' :: '/' :: lexeme ∧ '\n' ∉ lexeme ∧ ∀ c ∈ after.head?, c = '\n' := by
  cases cut with
  | token lexical ends =>
    cases lexical with
    | lineComment inside => exact ⟨rfl, inside, ends⟩

theorem Cut.of_string {text lexeme after : List Char} (cut : Cut text .string lexeme after) :
    text = '"' :: lexeme ++ ['"'] ∧ '"' ∉ lexeme := by
  cases cut with
  | token lexical _ =>
    cases lexical with
    | string inside => exact ⟨rfl, inside⟩

namespace Reading

variable {position : Position} {whole : List Char} {first later : List Token} {token : Token}

/-- Any text within a line can stand in a comment. -/
theorem replace_comment (reading : Reading position whole (first ++ token :: later))
    (comment : token.kind = .lineComment) :
    whole = printed first ++ ('/' :: '/' :: token.lexeme.toList ++ printed later) ∧
      (∀ next ∈ later.head?, next = .newlineAt (token.position.behindComment token.lexeme)) ∧
      ∀ body : String, '\n' ∉ body.toList →
        Reading position (printed first ++ ('/' :: '/' :: body.toList ++ printed later))
          (first ++ { token with lexeme := body } ::
            later.modifyHead (·.moveTo (token.position.behindComment body))) := by
  obtain ⟨text, piece, after, rfl, front, cut, placed, behind⟩ := reading.exists_cut
  obtain ⟨kind, lexeme, place⟩ := token
  dsimp only at comment cut placed behind ⊢
  subst comment placed
  obtain ⟨rfl, inside, stop⟩ := cut.of_lineComment
  rw [Position.walk_slashes inside, String.ofList_toList] at behind
  rw [front.printed_eq, behind.before.printed_eq]
  refine ⟨rfl, (behind.behind_comment stop _ rfl).1, fun body inside' => ?_⟩
  have behind' : Reading ((position.walk text).walk ('/' :: '/' :: body.toList)) after
      (later.modifyHead (·.moveTo ((position.walk text).behindComment body))) := by
    rw [Position.walk_slashes inside', String.ofList_toList]
    exact (behind.behind_comment stop (.behindComment _ body) rfl).2
  have replaced := front.replace_next (by decide) (.token (.lineComment inside') stop) behind'
  rwa [String.ofList_toList] at replaced

/-- Any text without a quote can stand in a string. -/
theorem replace_string (reading : Reading position whole (first ++ token :: later))
    (string : token.kind = .string) :
    whole = printed first ++ ('"' :: token.lexeme.toList ++ ['"'] ++ printed later) ∧
      ∀ body : String, '"' ∉ body.toList →
        ∃ later', Reading position (printed first ++ ('"' :: body.toList ++ ['"'] ++ printed later))
            (first ++ { token with lexeme := body } :: later') ∧
          later'.map Token.content = later.map Token.content ∧
          (body.toList.count '\n' = token.lexeme.toList.count '\n' →
            (body.toList.rtakeWhile (· ≠ '\n')).length =
              (token.lexeme.toList.rtakeWhile (· ≠ '\n')).length → later' = later) := by
  obtain ⟨text, piece, after, rfl, front, cut, placed, behind⟩ := reading.exists_cut
  obtain ⟨kind, lexeme, place⟩ := token
  dsimp only at string cut placed behind ⊢
  subst string placed
  obtain ⟨rfl, inside⟩ := cut.of_string
  rw [front.printed_eq, behind.before.printed_eq]
  refine ⟨rfl, fun body inside' => ?_⟩
  obtain ⟨later', behind', same⟩ :=
    behind.exists_at ((position.walk text).walk ('"' :: body.toList ++ ['"']))
  have replaced := front.replace_next (by decide) (.token (.string inside') trivial) behind'
  rw [String.ofList_toList] at replaced
  refine ⟨later', replaced, same, fun lines columns => ?_⟩
  rw [Position.walk_quotes lines columns] at behind'
  exact behind.unique behind'

end Reading

/-! ## Sources -/

/-- The text that a list of tokens spells. -/
def spelled (tokens : List Token) : String :=
  String.join (tokens.map Token.spelling)

@[simp] theorem toList_spelled (tokens : List Token) :
    (spelled tokens).toList = printed tokens := by
  rw [spelled, String.toList_join, List.flatMap_map, printed]

/-- **What stands in comments and strings is opaque.** Whatever tokens are around it, a comment can
have any other body within its line, and a string any other text without a quote. This token gets
the other text as its lexeme and stays where it is, and the tokens in front of it stay as they are.
Behind the comment, the end of its line moves with it, and nothing else does. Behind the string, all
tokens say the same, and if the texts have as many lines and end in the same column, they stand
where they have stood. -/
theorem replace_comment_or_string {source : String} {first later : List Token} {token : Token}
    (split : (Lexer.ofString source).rest.1 = first ++ token :: later) :
    (token.kind = .lineComment →
      source = spelled first ++ ("//" ++ token.lexeme ++ spelled later) ∧
      (∀ next ∈ later.head?, next = .newlineAt (token.position.behindComment token.lexeme)) ∧
      ∀ body : String, '\n' ∉ body.toList →
        (Lexer.ofString (spelled first ++ ("//" ++ body ++ spelled later))).rest.1 =
          first ++ { token with lexeme := body } ::
            later.modifyHead (·.moveTo (token.position.behindComment body))) ∧
    (token.kind = .string →
      source = spelled first ++ ("\"" ++ token.lexeme ++ "\"" ++ spelled later) ∧
      ∀ body : String, '"' ∉ body.toList →
        ∃ later', (Lexer.ofString
            (spelled first ++ ("\"" ++ body ++ "\"" ++ spelled later))).rest.1 =
              first ++ { token with lexeme := body } :: later' ∧
          later'.map Token.content = later.map Token.content ∧
          (body.toList.count '\n' = token.lexeme.toList.count '\n' →
            (body.toList.rtakeWhile (· ≠ '\n')).length =
              (token.lexeme.toList.rtakeWhile (· ≠ '\n')).length → later' = later)) := by
  have reading := reading_iff_rest.2 split
  constructor
  · intro comment
    obtain ⟨whole, next, other⟩ := reading.replace_comment comment
    refine ⟨String.toList_injective ?_, next, fun body inside => reading_iff_rest.1 ?_⟩
    · simpa using whole
    · simpa using other body inside
  · intro string
    obtain ⟨whole, other⟩ := reading.replace_string string
    refine ⟨String.toList_injective ?_, fun body inside => ?_⟩
    · simpa using whole
    · obtain ⟨later', replaced, same, stays⟩ := other body inside
      refine ⟨later', reading_iff_rest.1 ?_, same, stays⟩
      simpa using replaced

/-- A quote in a comment, and a comment in a string: neither opens anything. -/
theorem replace_comment_or_string_slashes :
    (Lexer.ofString "//a\n\"éé\"x").rest.1 =
        [⟨.lineComment, "a", ⟨1, 1⟩⟩, .newlineAt ⟨1, 4⟩, ⟨.string, "éé", ⟨2, 1⟩⟩,
          ⟨.identifier, "x", ⟨2, 5⟩⟩] ∧
      (Lexer.ofString "//\"/\n\"éé\"x").rest.1 =
        [⟨.lineComment, "\"/", ⟨1, 1⟩⟩, .newlineAt ⟨1, 5⟩, ⟨.string, "éé", ⟨2, 1⟩⟩,
          ⟨.identifier, "x", ⟨2, 5⟩⟩] ∧
      (Lexer.ofString "//a\n\"//\"x").rest.1 =
        [⟨.lineComment, "a", ⟨1, 1⟩⟩, .newlineAt ⟨1, 4⟩, ⟨.string, "//", ⟨2, 1⟩⟩,
          ⟨.identifier, "x", ⟨2, 5⟩⟩] := by
  have tokens : (Lexer.ofString "//a\n\"éé\"x").rest.1 =
      [⟨.lineComment, "a", ⟨1, 1⟩⟩, .newlineAt ⟨1, 4⟩, ⟨.string, "éé", ⟨2, 1⟩⟩,
        ⟨.identifier, "x", ⟨2, 5⟩⟩] := by decide +kernel
  refine ⟨tokens, ?_, ?_⟩
  · obtain ⟨-, -, other⟩ := (@replace_comment_or_string _ [] _ _ tokens).1 rfl
    exact other "\"/" (by decide)
  · obtain ⟨-, other⟩ := (@replace_comment_or_string _ [_, _] _ _ tokens).2 rfl
    obtain ⟨later, replaced, -, stays⟩ := other "//" (by decide)
    rw [stays rfl rfl] at replaced
    exact replaced

/-- The line feed behind a comment does not stay in its column. -/
theorem not_column_behind_comment_stays :
    ¬∀ (source body : String) (first later : List Token) (token : Token),
      (Lexer.ofString source).rest.1 = first ++ token :: later →
      token.kind = .lineComment → '\n' ∉ body.toList →
      (Lexer.ofString (spelled first ++ ("//" ++ body ++ spelled later))).rest.1 =
        first ++ { token with lexeme := body } :: later := by
  intro stays
  have short : (Lexer.ofString "//\n").rest.1 =
      [] ++ ⟨.lineComment, "", ⟨1, 1⟩⟩ :: [.newlineAt ⟨1, 3⟩] := by decide +kernel
  have long : (Lexer.ofString "//x\n").rest.1 =
      [⟨.lineComment, "x", ⟨1, 1⟩⟩, .newlineAt ⟨1, 4⟩] := by decide +kernel
  cases long.symm.trans (stays "//\n" "x" _ _ _ short rfl (by decide))

end LoxLexer
