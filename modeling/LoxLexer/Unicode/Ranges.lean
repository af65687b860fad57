/-!
# Tables of code points

A property of characters is a table of ranges of code points in ascending order.

* `covers` searches such a table from its low end and stops at the first range that could hold the
  code point.
* `covers_iff` says that on an ascending table this finds every range.
-/

namespace LoxLexer.Unicode

/-- The code points from `first` to `last`, both included. -/
structure CodePointRange where
  first : Nat
  last : Nat

/-- Whether a table lists non-empty ranges in ascending order, none below `low` and no two
overlapping. -/
def ascendingFrom : Nat → List CodePointRange → Bool
  | _, [] => true
  | low, range :: table =>
    low ≤ range.first && range.first ≤ range.last && ascendingFrom (range.last + 1) table

/-- Whether a code point lies in a range of an ascending table: only the first range that ends at or
above the code point can hold it. -/
def covers : List CodePointRange → Nat → Bool
  | [], _ => false
  | range :: table, point =>
    if point ≤ range.last then range.first ≤ point else covers table point

theorem le_first_of_ascendingFrom {low : Nat} {table : List CodePointRange} {range : CodePointRange}
    (ascending : ascendingFrom low table) (mem : range ∈ table) : low ≤ range.first := by
  induction table generalizing low with
  | nil => simp at mem
  | cons head table ih =>
    simp only [ascendingFrom, Bool.and_eq_true, decide_eq_true_eq] at ascending
    obtain ⟨⟨above, nonempty⟩, rest⟩ := ascending
    rcases List.mem_cons.1 mem with rfl | mem
    · exact above
    · have := ih rest mem
      omega

theorem covers_iff {low : Nat} {table : List CodePointRange} (ascending : ascendingFrom low table)
    (point : Nat) :
    covers table point ↔ ∃ range ∈ table, range.first ≤ point ∧ point ≤ range.last := by
  induction table generalizing low with
  | nil => simp [covers]
  | cons head table ih =>
    simp only [ascendingFrom, Bool.and_eq_true, decide_eq_true_eq] at ascending
    obtain ⟨⟨_, _⟩, rest⟩ := ascending
    by_cases within : point ≤ head.last
    · simp only [covers, within, if_true, decide_eq_true_eq, List.mem_cons, exists_eq_or_imp,
        and_true, iff_self_or]
      rintro ⟨range, mem, first, -⟩
      have := le_first_of_ascendingFrom rest mem
      omega
    · simp only [covers, within, if_false, List.mem_cons, exists_eq_or_imp, and_false, false_or]
      exact ih rest

end LoxLexer.Unicode
