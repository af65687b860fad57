import LoxLexer.Position.Counted
import LoxLexer.Proofs.Drawing
import LoxLexer.Proofs.Refusal

/-!
# Positions of tokens

A lexer keeps its position character by character, and characters it has only looked at do not
count. The position that it gives to a token is the one counted in the text in front of the token.

* `Position.precedes_walk`: a walk over a text leads to a later position.
* `Placed.position_eq` and `Placed.pairwise_precedes`: what the positions of placed tokens are, and
  in which order they come.
* `position_of_drawn`: the positions of all tokens and of the error of a source.
-/

namespace LoxLexer

namespace Position

/-! ## Walks -/

/-- Within a line, columns count characters. -/
theorem walk_of_not_mem (position : Position) {text : List Char} (inside : '\n' ∉ text) :
    position.walk text = ⟨position.line, position.column + text.length⟩ := by
  induction text generalizing position with
  | nil => rfl
  | cons c text ih =>
    rw [List.mem_cons, not_or] at inside
    have other : ¬c = '\n' := fun same => inside.1 same.symm
    rw [walk_cons, ih _ inside.2, advance, if_neg other, List.length_cons, Nat.add_assoc,
      Nat.add_comm 1]

/-! ## The order of a text -/

/-- A position comes before another one: in an earlier line, or farther left in the same line. -/
def Precedes (first second : Position) : Prop :=
  first.line < second.line ∨ first.line = second.line ∧ first.column < second.column

theorem not_precedes_self (position : Position) : ¬position.Precedes position := by
  unfold Precedes
  omega

theorem Precedes.trans {first second third : Position} (before : first.Precedes second)
    (behind : second.Precedes third) : first.Precedes third := by
  unfold Precedes at *
  omega

theorem precedes_advance (position : Position) (c : Char) :
    position.Precedes (position.advance c) := by
  unfold Precedes advance
  split
  · exact .inl (Nat.lt_succ_self _)
  · exact .inr ⟨rfl, Nat.lt_succ_self _⟩

/-- A walk over a text leads to a later position. -/
theorem precedes_walk (position : Position) {text : List Char} (some : text ≠ []) :
    position.Precedes (position.walk text) := by
  induction text generalizing position with
  | nil => exact absurd rfl some
  | cons c text ih =>
    have first := position.precedes_advance c
    by_cases none : text = []
    · subst none
      exact first
    · exact first.trans (ih (position.advance c) none)

/-- Two beginnings of a text that lead to one position are the same. -/
theorem eq_of_walk_eq {text after text' after' : List Char} {position : Position}
    (same : text ++ after = text' ++ after') (walks : position.walk text = position.walk text') :
    text = text' := by
  have longer : ∀ {text more : List Char}, position.walk text = position.walk (text ++ more) →
      more = [] := by
    intro text more walks
    by_contra some
    have later := (position.walk text).precedes_walk some
    rw [← walk_append, ← walks] at later
    exact not_precedes_self _ later
  rcases List.append_eq_append_iff.1 same with ⟨more, rfl, -⟩ | ⟨more, rfl, -⟩
  · rw [longer walks, List.append_nil]
  · rw [longer walks.symm, List.append_nil]

end Position

/-! ## Placed tokens -/

theorem placed_append_iff {position : Position} {first second : List Token} :
    Placed position (first ++ second) ↔
      Placed position first ∧ Placed (position.walk (printed first)) second := by
  induction first generalizing position with
  | nil => exact (and_iff_right trivial).symm
  | cons token first ih =>
    rw [List.cons_append, Placed, Placed, ih, printed_cons, Position.walk_append, and_assoc]

/-- A placed token stands behind the text of those before it. -/
theorem Placed.position_eq {position : Position} {first later : List Token} {token : Token}
    (placed : Placed position (first ++ token :: later)) :
    token.position = position.walk (printed first) :=
  (placed_append_iff.1 placed).2.1

/-- Placed tokens come in the order of their positions, as long as they take text. -/
theorem Placed.pairwise_precedes {position : Position} {tokens : List Token}
    (placed : Placed position tokens)
    (taken : ∀ token ∈ tokens, token.kind ≠ .eof → token.spelling.toList ≠ []) :
    tokens.Pairwise fun first second =>
      first.kind ≠ .eof → first.position.Precedes second.position := by
  induction tokens generalizing position with
  | nil => exact .nil
  | cons first tokens ih =>
    obtain ⟨some, others⟩ := List.forall_mem_cons.1 taken
    obtain ⟨rfl, placed⟩ := placed
    refine .cons (fun second mem more => ?_) (ih placed others)
    obtain ⟨between, later, rfl⟩ := List.append_of_mem mem
    rw [placed.position_eq, ← Position.walk_append]
    apply Position.precedes_walk
    exact List.append_ne_nil_of_left_ne_nil (some more) _

/-! ## Drawn tokens -/

namespace DrawnBefore

variable {left text : List Char} {position : Position} {drawn first later : List Token}
  {token : Token}

theorem placed_replicate_eofAt (ends : Nat) (position : Position) :
    Placed position (List.replicate ends (.eofAt position)) := by
  induction ends with
  | zero => trivial
  | succ ends ih => exact ⟨rfl, ih⟩

theorem printed_replicate_eofAt (ends : Nat) (position : Position) :
    printed (List.replicate ends (.eofAt position)) = [] := by
  induction ends with
  | zero => rfl
  | succ ends ih => exact ih

theorem placed (draws : DrawnBefore left position text drawn) : Placed position drawn := by
  obtain ⟨tokens, ends, rfl, front, -⟩ := draws
  rw [placed_append_iff, front.printed_eq]
  exact ⟨front.placed, placed_replicate_eofAt ends _⟩

theorem printed_eq (draws : DrawnBefore left position text drawn) : printed drawn = text := by
  obtain ⟨tokens, ends, rfl, front, -⟩ := draws
  rw [printed_append, front.printed_eq, printed_replicate_eofAt, List.append_nil]

theorem spelling_ne_nil (draws : DrawnBefore left position text drawn) :
    ∀ token ∈ drawn, token.kind ≠ .eof → token.spelling.toList ≠ [] := by
  obtain ⟨tokens, ends, rfl, front, -⟩ := draws
  intro token mem more
  rcases List.mem_append.1 mem with inside | behind
  · exact front.spelling_ne_nil token inside
  · rw [List.eq_of_mem_replicate behind] at more
    exact absurd rfl more

/-- The end of the source is drawn only where all of it has been read. -/
theorem eof_text (draws : DrawnBefore left position text (first ++ token :: later))
    (eof : token.kind = .eof) : printed later ++ left = [] := by
  obtain ⟨tokens, ends, same, front, ended⟩ := draws
  -- no token of the text is the end, so this one is among those behind the text
  have behind : ∃ ahead, List.replicate ends (.eofAt (position.walk text)) =
      ahead ++ token :: later := by
    rcases List.append_eq_append_iff.1 same with ⟨more, split, behind⟩ | ⟨more, -, behind⟩
    · cases more with
      | nil => exact ⟨[], behind.symm⟩
      | cons other more =>
        obtain ⟨rfl, -⟩ := List.cons.inj behind
        exact absurd eof (front.kind_ne_eof token (by simp [split]))
    · exact ⟨more, behind⟩
  obtain ⟨ahead, behind⟩ := behind
  obtain ⟨count, -, others⟩ := List.replicate_eq_append_iff.1 behind
  have none : left = [] := by
    apply ended
    rw [List.length_cons] at count
    omega
  rw [(List.cons.inj others).2, printed_replicate_eofAt, none]
  rfl

end DrawnBefore

/-- **Each token stands where the text before it ends.** This text is what the tokens drawn before
it spell. Its line feeds and the characters behind the last of them give the line and the column,
however the tokens are drawn, so that positions come in the order of the text. The error of a source
has the position behind the legal tokens before it. -/
theorem position_of_drawn (source : String) (calls : List Lexer.Call) :
    (∀ before token later, (Lexer.ofString source).drawn calls = before ++ token :: later →
      token.position = .behind (printed before) ∧
      ∃ left, source.toList = printed before ++ token.spelling.toList ++ left ∧
        (token.kind = .eof → left = [])) ∧
    (((Lexer.ofString source).drawn calls).Pairwise fun first second =>
      first.kind ≠ .eof → first.position.Precedes second.position) ∧
    ∀ error, lex source = .error error →
      ∃ before token later c left, (Lexer.ofString source).rest.1 = before ++ token :: later ∧
        (∀ other ∈ before, other.kind ≠ .illegal) ∧ token.kind = .illegal ∧
        source.toList = printed before ++ c :: left ∧
        (c = '"' ∧ '"' ∉ left ∧ error = .unterminatedString (.behind (printed before)) ∨
          c ≠ '"' ∧ error = .unexpectedCharacter c (.behind (printed before))) := by
  obtain ⟨text, left, same, draws, -⟩ := (Lexer.between_ofString source).drawn calls
  refine ⟨?_, draws.placed.pairwise_precedes draws.spelling_ne_nil, ?_⟩
  · intro before token later split
    rw [split] at draws
    have position := draws.placed.position_eq
    rw [Position.walk_nil, Position.walk_start] at position
    refine ⟨position, printed later ++ left, ?_, draws.eof_text⟩
    rw [same, ← draws.printed_eq, printed_append, printed_cons]
    simp only [List.append_assoc]
  · intro error refused
    obtain ⟨before, token, later, split, legal, illegal, rfl⟩ :=
      lex_eq_error_iff_exists_illegal.1 refused
    have reading := (Lexer.between_ofString source).rest.1
    rw [split, Position.walk_nil] at reading
    obtain ⟨text, c, left, same, front, cause⟩ := reading.exists_refused illegal
    rw [← front.printed_eq, Position.walk_start] at cause
    rw [← front.printed_eq] at same
    refine ⟨before, token, later, c, left, split, legal, illegal, same, ?_⟩
    generalize LexError.ofIllegal token = error at cause
    cases cause with
    | unclosed inside => exact .inl ⟨rfl, inside, rfl⟩
    | stray nothing => exact .inr ⟨Opening.ne_of_nothing nothing (by decide), rfl⟩

/-- A string over two lines moves the tokens behind it down and to the left. -/
theorem position_of_drawn_two_lines :
    (Lexer.ofString "x\n\"y\nz\" @").drawn [.token, .next, .rest, .token] =
        [⟨.identifier, "x", ⟨1, 1⟩⟩, ⟨.symbol .newline, "", ⟨1, 2⟩⟩, ⟨.string, "y\nz", ⟨2, 1⟩⟩] ++
          ⟨.whitespace, " ", ⟨3, 3⟩⟩ :: [⟨.illegal, "@", ⟨3, 4⟩⟩, .eofAt ⟨3, 5⟩] ∧
      Position.behind "x\n\"y\nz\"".toList = ⟨3, 3⟩ ∧
      (⟨2, 1⟩ : Position).Precedes ⟨3, 3⟩ ∧
      lex "x\n\"y\nz\" @" = .error (.unexpectedCharacter '@' ⟨3, 4⟩) ∧
      ∃ before c left, "x\n\"y\nz\" @".toList = before ++ c :: left ∧
        LexError.unexpectedCharacter '@' ⟨3, 4⟩ = .unexpectedCharacter c (.behind before) := by
  have drawn : (Lexer.ofString "x\n\"y\nz\" @").drawn [.token, .next, .rest, .token] =
      [⟨.identifier, "x", ⟨1, 1⟩⟩, ⟨.symbol .newline, "", ⟨1, 2⟩⟩, ⟨.string, "y\nz", ⟨2, 1⟩⟩] ++
        ⟨.whitespace, " ", ⟨3, 3⟩⟩ :: [⟨.illegal, "@", ⟨3, 4⟩⟩, .eofAt ⟨3, 5⟩] := by decide +kernel
  have refused : lex "x\n\"y\nz\" @" = .error (.unexpectedCharacter '@' ⟨3, 4⟩) := by
    decide +kernel
  obtain ⟨positions, order, errors⟩ :=
    position_of_drawn "x\n\"y\nz\" @" [.token, .next, .rest, .token]
  refine ⟨drawn, (positions _ _ _ drawn).1.symm, ?_, refused, ?_⟩
  · rw [drawn, List.pairwise_append] at order
    obtain ⟨-, -, across⟩ := order
    exact across ⟨.string, "y\nz", ⟨2, 1⟩⟩ (by simp) ⟨.whitespace, " ", ⟨3, 3⟩⟩ (by simp) nofun
  · obtain ⟨before, _, _, c, left, -, -, -, same, cause⟩ := errors _ refused
    rcases cause with ⟨-, -, error⟩ | ⟨-, error⟩
    · cases error
    · exact ⟨printed before, c, left, same, error⟩

end LoxLexer
