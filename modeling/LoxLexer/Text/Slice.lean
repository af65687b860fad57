/-!
# Byte slices of a text

A slice is named by the byte offsets of its two ends in the UTF-8 form of the text.

* `slice?` cuts the slice out if both offsets stand on character boundaries of the text, in this
  order, and gives nothing otherwise.
* `slice?_eq_some_iff` says which slices there are: `t` is the slice from `start` to `stop` exactly
  if the text is `a ++ t ++ b` with `a` of `start` bytes and `a ++ t` of `stop` bytes.
-/

namespace LoxLexer

/-- The text between two byte offsets, if both stand on character boundaries in this order. -/
def slice? (text : String) (start stop : Nat) : Option String :=
  if h : (⟨start⟩ : String.Pos.Raw).IsValid text ∧ (⟨stop⟩ : String.Pos.Raw).IsValid text ∧
      start ≤ stop then
    some (text.extract (text.pos ⟨start⟩ h.1) (text.pos ⟨stop⟩ h.2.1))
  else
    none

theorem slice?_eq_some_iff {text t : String} {start stop : Nat} :
    slice? text start stop = some t ↔
      ∃ a b, text = a ++ t ++ b ∧ a.utf8ByteSize = start ∧ (a ++ t).utf8ByteSize = stop := by
  constructor
  · intro found
    simp only [slice?, Option.dite_none_right_eq_some, Option.some.injEq] at found
    obtain ⟨⟨first, last, ordered⟩, cut⟩ := found
    have ordered' : text.pos ⟨start⟩ first ≤ text.pos ⟨stop⟩ last := ordered
    rw [String.extract_eq_copy_slice _ _ ordered'] at cut
    obtain ⟨a, b, left, right⟩ := String.copy_slice_eq_iff_splits.1 ⟨ordered', cut⟩
    refine ⟨a, b, right.eq_append, ?_, ?_⟩
    · exact (congrArg String.Pos.Raw.byteIdx left.offset_eq_rawEndPos).symm
    · exact (congrArg String.Pos.Raw.byteIdx right.offset_eq_rawEndPos).symm
  · rintro ⟨a, b, rfl, rfl, rfl⟩
    have first : (⟨a.utf8ByteSize⟩ : String.Pos.Raw).IsValid (a ++ t ++ b) :=
      String.Pos.Raw.isValid_iff_exists_append.2 ⟨a, t ++ b, String.append_assoc, rfl⟩
    have last : (⟨(a ++ t).utf8ByteSize⟩ : String.Pos.Raw).IsValid (a ++ t ++ b) :=
      String.Pos.Raw.isValid_iff_exists_append.2 ⟨a ++ t, b, rfl, rfl⟩
    have ordered : a.utf8ByteSize ≤ (a ++ t).utf8ByteSize := by
      simp [String.utf8ByteSize_append]
    have ordered' : (a ++ t ++ b).pos _ first ≤ (a ++ t ++ b).pos _ last := ordered
    rw [slice?, dif_pos ⟨first, last, ordered⟩, String.extract_eq_copy_slice _ _ ordered']
    obtain ⟨_, cut⟩ : ∃ h, ((a ++ t ++ b).slice (String.pos _ _ first) (String.pos _ _ last) h).copy
        = t :=
      String.copy_slice_eq_iff_splits.2 ⟨a, b, ⟨String.append_assoc, rfl⟩, ⟨rfl, rfl⟩⟩
    rw [cut]

/-- A slice is found only between two character boundaries in this order. -/
theorem bounds_of_slice? {text t : String} {start stop : Nat}
    (found : slice? text start stop = some t) :
    (⟨start⟩ : String.Pos.Raw).IsValid text ∧ (⟨stop⟩ : String.Pos.Raw).IsValid text ∧
      start ≤ stop := by
  obtain ⟨bounds, -⟩ := Option.dite_none_right_eq_some.1 found
  exact bounds

/-- A slice between two parts is found at the byte sizes of what stands before its ends. -/
theorem slice?_append (a t b : String) :
    slice? (a ++ t ++ b) a.utf8ByteSize (a ++ t).utf8ByteSize = some t :=
  slice?_eq_some_iff.2 ⟨a, b, rfl, rfl, rfl⟩

end LoxLexer
