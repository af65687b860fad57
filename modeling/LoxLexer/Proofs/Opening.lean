import LoxLexer.CharClass
import LoxLexer.Grammar
import LoxLexer.Lexer.Basic
import LoxLexer.Separation
import Mathlib.Tactic.Common

/-!
# What a first character opens

The first character of a text decides which lexical rules can match a beginning of that text.
`Opening` names the choices, `Opening.ofChar` makes one, and `TokenKind.opening` is the choice that
the tokens of a kind have made.

* `Lexical.exists_cons`: the first character of a token opens what the kind of the token says.
* `Lexical.of_opening_blank`, `Lexical.of_opening_word` and their companions: the shapes of the
  tokens behind one choice.
* `Lexical.unique`: the text of a token says of which kind it is and with which lexeme.
-/

namespace LoxLexer

/-- What the first character of a text can be the start of. -/
inductive Opening where
  /-- A slash, or a comment. -/
  | slash
  /-- A string. -/
  | quote
  /-- A run of blanks. -/
  | blank
  /-- A number. -/
  | digit
  /-- A word. -/
  | word
  /-- A symbol, or the one that a `=` behind it makes of it. -/
  | symbol (symbol : Symbol)
  /-- No token. -/
  | nothing
deriving DecidableEq

namespace Opening

/-- What a character opens. -/
def ofChar (c : Char) : Opening :=
  if c = '/' then slash
  else if c = '"' then quote
  else if isBlank c then blank
  else if c.isDigit then digit
  else if isWordStart c then word
  else (Symbol.ofChar? c).elim nothing symbol

/-! ## The choices exclude each other -/

theorem ofChar_of_isBlank {c : Char} (first : isBlank c) : ofChar c = blank := by
  rcases isBlank_iff.1 first with rfl | rfl | rfl <;> decide

theorem ofChar_of_isDigit {c : Char} (first : c.isDigit) : ofChar c = digit := by
  have other : ∀ d : Char, ¬d.isDigit → c ≠ d := fun d other same => other (same ▸ first)
  simp [ofChar, isBlank, first, other '/' (by decide), other '"' (by decide),
    other ' ' (by decide), other '\t' (by decide), other '\r' (by decide)]

theorem ofChar_of_isWordStart {c : Char} (first : isWordStart c) : ofChar c = word := by
  have other : ∀ d : Char, ¬isWordStart d → c ≠ d := fun d other same => other (same ▸ first)
  have digit : ¬c.isDigit := fun digit => not_isWordStart_of_isDigit digit first
  simp [ofChar, isBlank, first, digit, other '/' (by decide), other '"' (by decide),
    other ' ' (by decide), other '\t' (by decide), other '\r' (by decide)]

/-- What a character passes that makes this choice. -/
def Admits : Opening → Char → Prop
  | slash, c => c = '/'
  | quote, c => c = '"'
  | blank, c => isBlank c
  | digit, c => c.isDigit
  | word, c => isWordStart c
  | symbol s, c => s ≠ .slash ∧ s.text.toList = [c]
  | nothing, _ => True

theorem admits_ofChar (c : Char) : (ofChar c).Admits c := by
  unfold ofChar
  split_ifs with slash quote blank digit word
  · exact slash
  · exact quote
  · exact blank
  · exact digit
  · exact word
  · cases found : Symbol.ofChar? c with
    | none => trivial
    | some s =>
      have spelled := Symbol.ofChar?_eq_some_iff.1 found
      refine ⟨?_, spelled⟩
      rintro rfl
      exact slash (List.cons.inj spelled).1.symm

/-- The tests are exclusive: only one of them leads to each choice. -/
theorem ofChar_eq_iff {c : Char} {o : Opening} (opens : o ≠ nothing) :
    ofChar c = o ↔ o.Admits c := by
  constructor
  · rintro rfl
    exact admits_ofChar c
  · intro admits
    cases o with
    | slash | quote =>
      obtain rfl := admits
      rfl
    | blank => exact ofChar_of_isBlank admits
    | digit => exact ofChar_of_isDigit admits
    | word => exact ofChar_of_isWordStart admits
    | symbol s =>
      obtain ⟨slash, spelled⟩ := admits
      cases s <;> simp [Symbol.text] at spelled slash <;> subst spelled <;> rfl
    | nothing => exact absurd rfl opens

/-- A character that continues a word but starts neither a word nor a number opens no token. -/
theorem ofChar_of_isWordPart {c : Char} (part : isWordPart c) :
    ofChar c = word ∨ ofChar c = digit ∨ ofChar c = nothing := by
  have other : ∀ d : Char, ¬isWordPart d → c ≠ d := fun d other same => other (same ▸ part)
  cases found : Symbol.ofChar? c with
  | none =>
    unfold ofChar
    split_ifs with slash quote blank
    · exact absurd slash (other '/' (by decide))
    · exact absurd quote (other '"' (by decide))
    · simp [isBlank, other ' ' (by decide), other '\t' (by decide), other '\r' (by decide)] at blank
    · exact .inr (.inl rfl)
    · exact .inl rfl
    · simp [found]
  | some s =>
    rw [Symbol.ofChar?_eq_some_iff] at found
    cases s <;> simp [Symbol.text] at found <;> exact absurd found.symm (other _ (by decide))

end Opening

/-! ## What the tokens of a kind open -/

/-- What the first character of a token of this kind opens. -/
def TokenKind.opening : TokenKind → Opening
  | .symbol .slash | .lineComment => .slash
  | .symbol .bang | .symbol .bangEqual => .symbol .bang
  | .symbol .equal | .symbol .equalEqual => .symbol .equal
  | .symbol .greater | .symbol .greaterEqual => .symbol .greater
  | .symbol .less | .symbol .lessEqual => .symbol .less
  | .symbol s => .symbol s
  | .whitespace => .blank
  | .string => .quote
  | .number => .digit
  | .identifier | .keyword _ => .word
  | .illegal | .eof => .nothing

namespace TokenKind

theorem opening_eq_slash_iff {kind : TokenKind} :
    kind.opening = .slash ↔ kind = .symbol .slash ∨ kind = .lineComment := by
  cases kind with
  | symbol s => cases s <;> decide
  | _ => simp [opening]

theorem opening_eq_blank_iff {kind : TokenKind} : kind.opening = .blank ↔ kind = .whitespace := by
  cases kind with
  | symbol s => cases s <;> decide
  | _ => simp [opening]

theorem opening_eq_digit_iff {kind : TokenKind} : kind.opening = .digit ↔ kind = .number := by
  cases kind with
  | symbol s => cases s <;> decide
  | _ => simp [opening]

theorem opening_eq_word_iff {kind : TokenKind} : kind.opening = .word ↔ kind.isWord := by
  cases kind with
  | symbol s => cases s <;> decide
  | _ => simp [opening, isWord]

end TokenKind

namespace Lexical

variable {text lexeme : List Char} {kind : TokenKind}

/-- A token has a first character, and it opens what the kind of the token says. -/
theorem exists_cons (lexical : Lexical text kind lexeme) :
    ∃ first others, text = first :: others ∧ Opening.ofChar first = kind.opening := by
  cases lexical with
  | symbol symbol => cases symbol <;> exact ⟨_, _, rfl, by decide⟩
  | lineComment _ => exact ⟨_, _, rfl, by decide⟩
  | string _ => exact ⟨_, _, rfl, by decide⟩
  | keyword keyword => cases keyword <;> exact ⟨_, _, rfl, by decide⟩
  | identifier first _ _ =>
    exact ⟨_, _, rfl, Opening.ofChar_of_isWordStart (isWordStart_iff.2 first)⟩
  | whitespace ne blanks =>
    obtain ⟨first, others, rfl⟩ := List.exists_cons_of_ne_nil ne
    exact ⟨first, others, rfl, Opening.ofChar_of_isBlank (isBlank_iff.2 (blanks _ (.head _)))⟩
  | whole ne digits =>
    obtain ⟨first, others, rfl⟩ := List.exists_cons_of_ne_nil ne
    exact ⟨first, others, rfl, Opening.ofChar_of_isDigit (digits _ (.head _))⟩
  | fraction ne digits _ _ =>
    obtain ⟨first, others, rfl⟩ := List.exists_cons_of_ne_nil ne
    exact ⟨first, _, rfl, Opening.ofChar_of_isDigit (digits _ (.head _))⟩

theorem ne_nil (lexical : Lexical text kind lexeme) : text ≠ [] := by
  obtain ⟨first, others, rfl, -⟩ := lexical.exists_cons
  exact List.cons_ne_nil first others

theorem opening_ne_nothing (lexical : Lexical text kind lexeme) : kind.opening ≠ .nothing := by
  cases lexical with
  | symbol symbol => cases symbol <;> decide
  | _ => exact nofun

/-- Two tokens with the same first character have made the same choice. -/
theorem opening_eq {text' lexeme' rest : List Char} {kind' : TokenKind}
    (lexical : Lexical text kind lexeme) (lexical' : Lexical text' kind' lexeme')
    (begins : text <+: rest) (begins' : text' <+: rest) : kind'.opening = kind.opening := by
  obtain ⟨first, others, rfl, opening⟩ := lexical.exists_cons
  obtain ⟨first', others', rfl, opening'⟩ := lexical'.exists_cons
  obtain ⟨more, rfl⟩ := begins
  obtain ⟨rfl, -⟩ := List.cons_prefix_cons.1 begins'
  exact opening'.symm.trans opening

/-! ## The tokens behind one choice -/

theorem of_opening_blank (lexical : Lexical text kind lexeme) (opening : kind.opening = .blank) :
    kind = .whitespace ∧ lexeme = text ∧ ∀ c ∈ text, isBlank c := by
  cases lexical with
  | whitespace _ blanks => exact ⟨rfl, rfl, fun c mem => isBlank_iff.2 (blanks c mem)⟩
  | symbol symbol => cases symbol <;> cases opening
  | lineComment | string | whole | fraction | keyword | identifier => cases opening

theorem of_opening_quote (lexical : Lexical text kind lexeme) (opening : kind.opening = .quote) :
    kind = .string ∧ text = '"' :: lexeme ++ ['"'] ∧ '"' ∉ lexeme := by
  cases lexical with
  | string inside => exact ⟨rfl, rfl, inside⟩
  | symbol symbol => cases symbol <;> cases opening
  | lineComment | whitespace | whole | fraction | keyword | identifier => cases opening

theorem of_opening_digit (lexical : Lexical text kind lexeme) (opening : kind.opening = .digit) :
    kind = .number ∧ lexeme = text ∧ Numeral text := by
  cases lexical with
  | whole ne digits => exact ⟨rfl, rfl, _, ne, digits, .inl rfl⟩
  | fraction ne digits ne' decimals =>
    exact ⟨rfl, rfl, _, ne, digits, .inr ⟨_, ne', decimals, rfl⟩⟩
  | symbol symbol => cases symbol <;> cases opening
  | lineComment | whitespace | string | keyword | identifier => cases opening

theorem of_opening_slash (lexical : Lexical text kind lexeme) (opening : kind.opening = .slash) :
    kind = .symbol .slash ∧ text = ['/'] ∧ lexeme = [] ∨
      kind = .lineComment ∧ text = '/' :: '/' :: lexeme ∧ '\n' ∉ lexeme := by
  cases lexical with
  | lineComment inside => exact .inr ⟨rfl, rfl, inside⟩
  | symbol symbol =>
    cases symbol <;> first | exact .inl ⟨rfl, rfl, rfl⟩ | cases opening
  | whitespace | string | whole | fraction | keyword | identifier => cases opening

theorem of_opening_symbol {s : Symbol} (lexical : Lexical text kind lexeme)
    (opening : kind.opening = .symbol s) :
    ∃ s', kind = .symbol s' ∧ text = s'.text.toList ∧ lexeme = [] ∧
      (s' = s ∨ s.withEqual? = some s') := by
  cases lexical with
  | symbol symbol =>
    refine ⟨symbol, rfl, rfl, rfl, ?_⟩
    cases symbol <;> cases opening <;> first | exact .inl rfl | exact .inr rfl
  | lineComment | whitespace | string | whole | fraction | keyword | identifier => cases opening

/-- A word is a keyword if it spells one, and an identifier otherwise. -/
theorem of_opening_word (lexical : Lexical text kind lexeme) (opening : kind.opening = .word) :
    kind = (Keyword.ofText? (String.ofList text)).elim .identifier .keyword ∧ lexeme = text ∧
      ∀ c ∈ text, isWordPart c := by
  cases lexical with
  | keyword keyword =>
    have found : Keyword.ofText? keyword.text = some keyword := Keyword.ofText?_eq_some_iff.2 rfl
    have parts : keyword.text.toList.all isWordPart := by cases keyword <;> decide
    exact ⟨by simp [found], rfl, List.all_eq_true.1 parts⟩
  | identifier first others plain =>
    refine ⟨?_, rfl, List.forall_mem_cons.2 ⟨isWordPart_of_isWordStart (isWordStart_iff.2 first),
      fun c mem => isWordPart_iff.2 (others c mem)⟩⟩
    cases found : Keyword.ofText? _ with
    | none => rfl
    | some keyword =>
      rw [Keyword.ofText?_eq_some_iff] at found
      exact absurd (by rw [found, String.toList_ofList]) (plain keyword)
  | symbol symbol => cases symbol <;> cases opening
  | lineComment | whitespace | string | whole | fraction => cases opening

theorem text_of_symbol {s : Symbol} (lexical : Lexical text (.symbol s) lexeme) :
    text = s.text.toList := by
  cases lexical
  rfl

/-- The text of a token says of which kind it is and with which lexeme. -/
theorem unique {kind' : TokenKind} {lexeme' : List Char} (lexical : Lexical text kind lexeme)
    (lexical' : Lexical text kind' lexeme') : kind' = kind ∧ lexeme' = lexeme := by
  have opening' := lexical.opening_eq lexical' (List.prefix_refl _) (List.prefix_refl _)
  cases opening : kind.opening with
  | slash =>
    rw [opening] at opening'
    rcases lexical.of_opening_slash opening with ⟨rfl, same, rfl⟩ | ⟨rfl, same, -⟩ <;>
    rcases lexical'.of_opening_slash opening' with ⟨rfl, same', rfl⟩ | ⟨rfl, same', -⟩ <;>
    simp_all
  | quote =>
    rw [opening] at opening'
    obtain ⟨rfl, same, -⟩ := lexical.of_opening_quote opening
    obtain ⟨rfl, same', -⟩ := lexical'.of_opening_quote opening'
    simpa using same'.symm.trans same
  | blank =>
    rw [opening] at opening'
    obtain ⟨rfl, rfl, -⟩ := lexical.of_opening_blank opening
    obtain ⟨rfl, rfl, -⟩ := lexical'.of_opening_blank opening'
    exact ⟨rfl, rfl⟩
  | digit =>
    rw [opening] at opening'
    obtain ⟨rfl, rfl, -⟩ := lexical.of_opening_digit opening
    obtain ⟨rfl, rfl, -⟩ := lexical'.of_opening_digit opening'
    exact ⟨rfl, rfl⟩
  | word =>
    rw [opening] at opening'
    obtain ⟨rfl, rfl, -⟩ := lexical.of_opening_word opening
    obtain ⟨rfl, rfl, -⟩ := lexical'.of_opening_word opening'
    exact ⟨rfl, rfl⟩
  | symbol s =>
    rw [opening] at opening'
    obtain ⟨first, rfl, same, rfl, -⟩ := lexical.of_opening_symbol opening
    obtain ⟨second, rfl, same', rfl, -⟩ := lexical'.of_opening_symbol opening'
    have texts : second.text = first.text := String.toList_injective (same'.symm.trans same)
    exact ⟨congrArg TokenKind.symbol (Symbol.text_injective texts), rfl⟩
  | nothing => exact absurd opening lexical.opening_ne_nothing

end Lexical

end LoxLexer
