/-!
# Keywords

The sixteen words that are no identifiers. `ofText?_eq_some_iff` says that the look-up finds a
keyword by its exact spelling and by nothing else.
-/

namespace LoxLexer

/-- The reserved words. -/
inductive Keyword where
  | kwAnd | kwClass | kwElse | kwFalse | kwFor | kwFun | kwIf | kwNil
  | kwOr | kwPrint | kwReturn | kwSuper | kwThis | kwTrue | kwVar | kwWhile
deriving DecidableEq

namespace Keyword

/-- The spelling of a keyword. -/
def text : Keyword → String
  | kwAnd => "and"
  | kwClass => "class"
  | kwElse => "else"
  | kwFalse => "false"
  | kwFor => "for"
  | kwFun => "fun"
  | kwIf => "if"
  | kwNil => "nil"
  | kwOr => "or"
  | kwPrint => "print"
  | kwReturn => "return"
  | kwSuper => "super"
  | kwThis => "this"
  | kwTrue => "true"
  | kwVar => "var"
  | kwWhile => "while"

/-- The name of a keyword in token listings: its spelling, except that `fun` is written out. -/
def label : Keyword → String
  | kwFun => "function"
  | keyword => keyword.text

/-- The keywords in alphabetical order. -/
def all : List Keyword :=
  [kwAnd, kwClass, kwElse, kwFalse, kwFor, kwFun, kwIf, kwNil,
    kwOr, kwPrint, kwReturn, kwSuper, kwThis, kwTrue, kwVar, kwWhile]

theorem mem_all (keyword : Keyword) : keyword ∈ all := by
  cases keyword <;> decide

theorem text_injective {a b : Keyword} (same : a.text = b.text) : a = b := by
  cases a <;> cases b <;> simp_all [text]

/-- The keyword with this spelling. -/
def ofText? (word : String) : Option Keyword :=
  all.find? (·.text = word)

theorem ofText?_eq_some_iff {word : String} {keyword : Keyword} :
    ofText? word = some keyword ↔ keyword.text = word := by
  constructor
  · intro found
    simpa using List.find?_some found
  · intro spelled
    obtain ⟨other, found⟩ : ∃ other, ofText? word = some other :=
      Option.isSome_iff_exists.1 <|
        List.find?_isSome.2 ⟨keyword, mem_all keyword, by simpa using spelled⟩
    have same : other.text = word := by simpa using List.find?_some found
    rw [found, text_injective (same.trans spelled.symm)]

end Keyword

end LoxLexer
