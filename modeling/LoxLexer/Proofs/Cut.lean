import LoxLexer.Proofs.Opening

/-!
# Where a token ends

A token is cut off a text where its kind lets no character more follow. `TokenKind.Ends` says so
with two characters of lookahead, and `Cut text kind lexeme after` says that the beginning `text` of
`text ++ after` is cut off as a token of this kind with this lexeme, illegal text included.

* `Cut.longest` and `Cut.noToken`: a cut takes the longest token, and an illegal one only where no
  beginning is a token.
* `Cut.unique`: a text can be cut in one way only.
* `Cut.toList_spelling`: the token spells the text that is cut off.
-/

namespace LoxLexer

/-- Whether a token of this kind and with this lexeme ends before `after`. -/
def TokenKind.Ends : TokenKind → List Char → List Char → Prop
  | .symbol s, _, after =>
    (s = .slash → after.head? ≠ some '/') ∧ (s.withEqual?.isSome → after.head? ≠ some '=')
  | .lineComment, _, after => ∀ c ∈ after.head?, c = '\n'
  | .whitespace, _, after => ∀ c ∈ after.head?, ¬isBlank c
  | .number, lexeme, after =>
    (∀ c ∈ after.head?, ¬c.isDigit) ∧
      ('.' ∉ lexeme → after.head? = some '.' → ∀ d ∈ after[1]?, ¬d.isDigit)
  | .identifier, _, after | .keyword _, _, after => ∀ c ∈ after.head?, ¬isWordPart c
  | .string, _, _ | .illegal, _, _ | .eof, _, _ => True

theorem TokenKind.Ends.of_isWord {kind : TokenKind} {lexeme after : List Char}
    (ends : kind.Ends lexeme after) (word : kind.isWord) :
    ∀ c ∈ after.head?, ¬isWordPart c := by
  cases kind with
  | identifier | keyword _ => exact ends
  | _ => cases word

/-- `text`, the beginning of `text ++ after`, is the next token, of this kind and with this lexeme.
Without a token to take, an open string takes all that is left, and any other illegal text is one
character. -/
inductive Cut : List Char → TokenKind → List Char → List Char → Prop
  | token {text lexeme after : List Char} {kind : TokenKind} :
    Lexical text kind lexeme → kind.Ends lexeme after → Cut text kind lexeme after
  | unclosed {body : List Char} : '"' ∉ body → Cut ('"' :: body) .illegal ('"' :: body) []
  | stray {c : Char} {after : List Char} :
    Opening.ofChar c = .nothing → Cut [c] .illegal [c] after

/-! ## Runs of characters -/

/-- A beginning of characters that pass a test goes no further than to one that does not. -/
theorem length_le_of_run {test : Char → Bool} {other text after : List Char}
    (begins : other <+: text ++ after) (run : ∀ c ∈ other, test c)
    (stop : ∀ c ∈ after.head?, ¬test c) : other.length ≤ text.length := by
  by_contra longer
  have inside : text <+: other :=
    List.prefix_of_prefix_length_le (List.prefix_append text after) begins (by omega)
  rcases inside with ⟨more, rfl⟩
  rw [List.prefix_append_right_inj] at begins
  cases more with
  | nil => simp at longer
  | cons c more =>
    rcases begins with ⟨others, rfl⟩
    exact stop c rfl (run c (by simp))

theorem takeWhile_append_of_stop {test : Char → Bool} {run after : List Char}
    (passes : ∀ c ∈ run, test c) (stop : ∀ c ∈ after.head?, ¬test c) :
    (run ++ after).takeWhile test = run := by
  rw [List.takeWhile_append_of_pos passes]
  cases after with
  | nil => rw [List.takeWhile_nil, List.append_nil]
  | cons c after => rw [List.takeWhile_cons_of_neg (stop c rfl), List.append_nil]

/-- A text has one run at its start that passes a test up to a character that does not. -/
theorem run_unique {test : Char → Bool} {run run' after after' : List Char}
    (passes : ∀ c ∈ run, test c) (passes' : ∀ c ∈ run', test c)
    (stop : ∀ c ∈ after.head?, ¬test c) (stop' : ∀ c ∈ after'.head?, ¬test c)
    (same : run ++ after = run' ++ after') : run = run' ∧ after = after' := by
  have taken := congrArg (List.takeWhile test) same
  rw [takeWhile_append_of_stop passes stop, takeWhile_append_of_stop passes' stop'] at taken
  subst taken
  exact ⟨rfl, List.append_cancel_left same⟩

/-- A dot stops a run of digits. -/
theorem stop_of_dot {after : List Char} : ∀ c ∈ ('.' :: after).head?, ¬c.isDigit := by
  rintro c ⟨⟩
  decide

/-- The test for a run up to one character. -/
theorem passes_iff_not_mem {stop : Char} {run : List Char} :
    (∀ c ∈ run, (c ≠ stop : Bool)) ↔ stop ∉ run := by
  constructor
  · intro passes mem
    simpa using passes stop mem
  · intro inside c mem
    simpa using ne_of_mem_of_not_mem mem inside

/-- A numeral goes no further than one that ends. -/
theorem Numeral.length_le {text other after : List Char} (numeral : Numeral text)
    (ends : TokenKind.number.Ends text after) (other' : Numeral other)
    (begins : other <+: text ++ after) : other.length ≤ text.length := by
  rcases ends with ⟨stop, dot⟩
  obtain ⟨digits, -, passes, rfl | ⟨decimals, -, passes', rfl⟩⟩ := numeral <;>
    rcases other' with ⟨digits', -, run, rfl | ⟨decimals', ne, run', rfl⟩⟩
  · exact length_le_of_run begins run stop
  · -- the fraction of the other numeral would be behind the digits of this one
    exfalso
    rcases begins with ⟨more, same⟩
    rw [List.append_assoc, List.cons_append] at same
    rcases run_unique run passes stop_of_dot stop same with ⟨rfl, rfl⟩
    rcases List.exists_cons_of_ne_nil ne with ⟨d, decimals, rfl⟩
    have plain : '.' ∉ digits' := fun inside => absurd (passes _ inside) (by decide)
    exact dot plain rfl d rfl (run' d (.head _))
  · rw [List.append_assoc] at begins
    have := length_le_of_run begins run stop_of_dot
    rw [List.length_append]
    omega
  · rcases begins with ⟨more, same⟩
    simp only [List.append_assoc, List.cons_append] at same
    rcases run_unique run passes stop_of_dot stop_of_dot same with ⟨rfl, behind⟩
    have begins : decimals' <+: decimals ++ after := ⟨more, (List.cons.inj behind).2⟩
    have := length_le_of_run begins run' stop
    simp only [List.length_append, List.length_cons]
    omega

/-! ## Longest tokens -/

namespace Lexical

variable {text lexeme after other lexeme' : List Char} {kind kind' : TokenKind}

/-- A comment takes the rest of its line, and a slash alone has no slash behind it. -/
theorem length_le_of_opening_slash (lexical : Lexical text kind lexeme)
    (ends : kind.Ends lexeme after) (lexical' : Lexical other kind' lexeme')
    (begins : other <+: text ++ after) (opening : kind.opening = .slash)
    (opening' : kind'.opening = .slash) : other.length ≤ text.length := by
  rcases lexical'.of_opening_slash opening' with ⟨-, rfl, -⟩ | ⟨-, rfl, inside'⟩
  · exact List.length_pos_iff.2 lexical.ne_nil
  · rcases lexical.of_opening_slash opening with ⟨rfl, rfl, -⟩ | ⟨rfl, rfl, -⟩
    · rcases begins with ⟨more, same⟩
      obtain ⟨rfl⟩ : after = '/' :: (lexeme' ++ more) := (List.cons.inj same).2.symm
      exact absurd rfl (ends.1 rfl)
    · have inside : '\n' ∉ '/' :: '/' :: lexeme' := by simpa using inside'
      refine length_le_of_run begins (passes_iff_not_mem.2 inside) fun c mem => ?_
      simp [ends c mem]

/-- A string goes to the first quote. -/
theorem length_le_of_opening_quote (lexical : Lexical text kind lexeme)
    (lexical' : Lexical other kind' lexeme') (begins : other <+: text ++ after)
    (opening : kind.opening = .quote) (opening' : kind'.opening = .quote) :
    other.length ≤ text.length := by
  rcases lexical.of_opening_quote opening with ⟨-, rfl, inside⟩
  rcases lexical'.of_opening_quote opening' with ⟨-, rfl, inside'⟩
  rcases begins with ⟨more, same⟩
  simp only [List.cons_append, List.append_assoc, List.nil_append, List.cons.injEq,
    true_and] at same
  obtain ⟨rfl, -⟩ := run_unique (passes_iff_not_mem.2 inside') (passes_iff_not_mem.2 inside)
    (by simp) (by simp) same
  exact Nat.le_refl _

/-- A symbol that a `=` would lengthen has none behind it. -/
theorem length_le_of_opening_symbol {s : Symbol} (lexical : Lexical text kind lexeme)
    (ends : kind.Ends lexeme after) (lexical' : Lexical other kind' lexeme')
    (begins : other <+: text ++ after) (opening : kind.opening = .symbol s)
    (opening' : kind'.opening = .symbol s) : other.length ≤ text.length := by
  rcases lexical.of_opening_symbol opening with ⟨first, rfl, rfl, -, chosen⟩
  rcases lexical'.of_opening_symbol opening' with ⟨second, -, rfl, -, chosen'⟩
  rcases chosen with rfl | longer <;> rcases chosen' with rfl | longer'
  · exact Nat.le_refl _
  · rw [Symbol.text_withEqual longer', String.toList_append, List.prefix_append_right_inj] at begins
    rcases begins with ⟨more, rfl⟩
    exact absurd rfl (ends.2 (by simp [longer']))
  · rw [Symbol.text_withEqual longer, String.toList_append, List.length_append]
    exact Nat.le_add_right _ _
  · cases longer.symm.trans longer'
    exact Nat.le_refl _

/-- A token that ends where its kind lets it end is the longest one. -/
theorem longest (lexical : Lexical text kind lexeme) (ends : kind.Ends lexeme after) :
    Longest (text ++ after) text kind lexeme := by
  refine ⟨lexical, List.prefix_append text after, ?_⟩
  intro other kind' lexeme' lexical' begins
  have opening' := lexical.opening_eq lexical' (List.prefix_append text after) begins
  cases opening : kind.opening with
  | slash =>
    exact lexical.length_le_of_opening_slash ends lexical' begins opening (opening'.trans opening)
  | quote =>
    exact lexical.length_le_of_opening_quote lexical' begins opening (opening'.trans opening)
  | blank =>
    rcases lexical'.of_opening_blank (opening'.trans opening) with ⟨-, -, blanks⟩
    obtain rfl := TokenKind.opening_eq_blank_iff.1 opening
    exact length_le_of_run begins blanks ends
  | digit =>
    rcases lexical.of_opening_digit opening with ⟨rfl, rfl, numeral⟩
    rcases lexical'.of_opening_digit (opening'.trans opening) with ⟨-, -, numeral'⟩
    exact numeral.length_le ends numeral' begins
  | word =>
    rcases lexical'.of_opening_word (opening'.trans opening) with ⟨-, -, parts⟩
    exact length_le_of_run begins parts (ends.of_isWord (TokenKind.opening_eq_word_iff.1 opening))
  | symbol s =>
    exact lexical.length_le_of_opening_symbol ends lexical' begins opening (opening'.trans opening)
  | nothing => exact absurd opening lexical.opening_ne_nothing

end Lexical

theorem Longest.unique {rest text text' lexeme lexeme' : List Char} {kind kind' : TokenKind}
    (first : Longest rest text kind lexeme) (second : Longest rest text' kind' lexeme') :
    text' = text ∧ kind' = kind ∧ lexeme' = lexeme := by
  have length : text'.length = text.length :=
    Nat.le_antisymm (first.longest second.lexical second.begins)
      (second.longest first.lexical first.begins)
  obtain rfl : text' = text := (List.prefix_of_prefix_length_le second.begins first.begins
    (Nat.le_of_eq length)).eq_of_length length
  exact ⟨rfl, first.lexical.unique second.lexical⟩

theorem Longest.not_noToken {rest text lexeme : List Char} {kind : TokenKind}
    (longest : Longest rest text kind lexeme) : ¬NoToken rest :=
  fun none => none text kind lexeme longest.lexical longest.begins

/-! ## Cuts -/

namespace Cut

variable {text text' lexeme lexeme' after after' : List Char} {kind kind' : TokenKind}

theorem ne_nil (cut : Cut text kind lexeme after) : text ≠ [] := by
  cases cut with
  | token lexical _ => exact lexical.ne_nil
  | unclosed | stray => exact List.cons_ne_nil _ _

theorem kind_ne_eof (cut : Cut text kind lexeme after) : kind ≠ .eof := by
  cases cut with
  | token lexical _ =>
    rintro rfl
    exact lexical.opening_ne_nothing rfl
  | unclosed | stray => exact nofun

/-- A cut of a kind other than illegal is the longest token. -/
theorem longest (cut : Cut text kind lexeme after) (legal : kind ≠ .illegal) :
    Longest (text ++ after) text kind lexeme := by
  cases cut with
  | token lexical ends => exact lexical.longest ends
  | unclosed | stray => exact absurd rfl legal

/-- An illegal cut is made only where no beginning is a token. -/
theorem noToken (cut : Cut text .illegal lexeme after) : NoToken (text ++ after) := by
  intro other kind lexeme' lexical begins
  rcases lexical.exists_cons with ⟨first, others, rfl, opening⟩
  cases cut with
  | token lexical' _ => exact lexical'.opening_ne_nothing rfl
  | @unclosed body inside =>
    rcases List.cons_prefix_cons.1 begins with ⟨rfl, -⟩
    rcases lexical.of_opening_quote opening.symm with ⟨-, same, -⟩
    rcases begins with ⟨more, closed⟩
    rw [same] at closed
    obtain ⟨rfl⟩ : body = lexeme' ++ '"' :: more := by simpa using closed.symm
    simp at inside
  | stray nothing =>
    rcases List.cons_prefix_cons.1 begins with ⟨rfl, -⟩
    exact lexical.opening_ne_nothing (opening.symm.trans nothing)

/-- An illegal cut is all that is left behind an opening quote, and one character otherwise. -/
theorem illegal_text (cut : Cut text .illegal lexeme after) :
    lexeme = text ∧
      if (text ++ after).head? = some '"' then after = [] else text.length = 1 := by
  cases cut with
  | token lexical _ => exact absurd rfl lexical.opening_ne_nothing
  | unclosed _ => exact ⟨rfl, rfl⟩
  | @stray c _ nothing =>
    refine ⟨rfl, ?_⟩
    have quote : c ≠ '"' := by
      rintro rfl
      exact absurd nothing (by decide)
    simp [quote]

/-- A text is cut in one way only. -/
theorem unique (cut : Cut text kind lexeme after) (cut' : Cut text' kind' lexeme' after')
    (same : text ++ after = text' ++ after') :
    text' = text ∧ kind' = kind ∧ lexeme' = lexeme ∧ after' = after := by
  by_cases legal : kind = .illegal <;> by_cases legal' : kind' = .illegal
  · subst legal legal'
    rcases cut.illegal_text with ⟨rfl, extent⟩
    rcases cut'.illegal_text with ⟨rfl, extent'⟩
    rw [← same] at extent'
    split at extent
    · next quote =>
      rw [if_pos quote] at extent'
      subst extent extent'
      simpa using same.symm
    · next quote =>
      rw [if_neg quote] at extent'
      rcases List.append_inj same (extent.trans extent'.symm) with ⟨rfl, rfl⟩
      exact ⟨rfl, rfl, rfl, rfl⟩
  · subst legal
    exact absurd (same ▸ cut.noToken) (cut'.longest legal').not_noToken
  · subst legal'
    exact absurd (same ▸ cut'.noToken) (cut.longest legal).not_noToken
  · rcases (cut.longest legal).unique (same ▸ cut'.longest legal') with ⟨rfl, rfl, rfl⟩
    exact ⟨rfl, rfl, rfl, (List.append_cancel_left same).symm⟩

end Cut

theorem Lexical.toList_spelling {text lexeme : List Char} {kind : TokenKind}
    (lexical : Lexical text kind lexeme) (position : Position) :
    (Token.mk kind (String.ofList lexeme) position).spelling.toList = text := by
  cases lexical with
  | lineComment _ | string _ => simp [Token.spelling]
  | _ => simp [Token.spelling]

/-- A token spells the text that is cut off for it. -/
theorem Cut.toList_spelling {text lexeme after : List Char} {kind : TokenKind}
    (cut : Cut text kind lexeme after) (position : Position) :
    (Token.mk kind (String.ofList lexeme) position).spelling.toList = text := by
  cases cut with
  | token lexical _ => exact lexical.toList_spelling position
  | unclosed | stray => exact String.toList_ofList

end LoxLexer
