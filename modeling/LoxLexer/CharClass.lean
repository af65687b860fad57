import LoxLexer.Unicode.Numeric

/-!
# Character classes of the lexical rules

Blanks and the two classes of words. Digits of a number are ASCII digits, `Char.isDigit`: a digit of
another script is part of a word but starts nothing.
-/

namespace LoxLexer

/-- The characters of whitespace within a line. -/
def isBlank (c : Char) : Bool :=
  c = ' ' || c = '\t' || c = '\r'

/-- The characters that start a word. -/
def isWordStart (c : Char) : Bool :=
  Unicode.isAlphabetic c || c = '_'

/-- The characters that continue a word. -/
def isWordPart (c : Char) : Bool :=
  Unicode.isAlphanumeric c || c = '_'

theorem isBlank_iff {c : Char} : isBlank c ↔ c = ' ' ∨ c = '\t' ∨ c = '\r' := by
  simp [isBlank, or_assoc]

theorem isWordStart_iff {c : Char} : isWordStart c ↔ Unicode.isAlphabetic c ∨ c = '_' := by
  simp [isWordStart]

theorem isWordPart_iff {c : Char} : isWordPart c ↔ Unicode.isAlphanumeric c ∨ c = '_' := by
  simp [isWordPart]

theorem isWordPart_of_isWordStart {c : Char} (first : isWordStart c) : isWordPart c := by
  simp only [isWordStart, isWordPart, Bool.or_eq_true] at first ⊢
  exact first.imp_left Unicode.isAlphanumeric_of_isAlphabetic

/-- A digit continues a word. -/
theorem isWordPart_of_isDigit {c : Char} (digit : c.isDigit) : isWordPart c := by
  have bounds := Char.isDigit_iff_toNat.1 digit
  have number : Unicode.covers Unicode.numericRanges c.toNat :=
    (Unicode.covers_iff Unicode.ascending_numericRanges _).2 ⟨_, .head _, bounds⟩
  simp [isWordPart, Unicode.isAlphanumeric, number]

/-- A digit does not start a word: no code point below `A` is alphabetic. -/
theorem not_isWordStart_of_isDigit {c : Char} (digit : c.isDigit) : ¬isWordStart c := by
  have bounds : 0x30 ≤ c.toNat ∧ c.toNat ≤ 0x39 := Char.isDigit_iff_toNat.1 digit
  intro first
  simp only [isWordStart, Bool.or_eq_true, decide_eq_true_eq, Unicode.isAlphabetic_iff] at first
  rcases first with ⟨range, mem, low, -⟩ | rfl
  · have above : Unicode.ascendingFrom 0x41 Unicode.alphabeticRanges := by decide +kernel
    have := Unicode.le_first_of_ascendingFrom above mem
    omega
  · exact absurd digit (by decide)

end LoxLexer
