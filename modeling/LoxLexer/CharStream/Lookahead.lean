/-!
# The lookahead buffer

The characters that have been looked at and not yet taken, at most two of them, wait in a ring of
two slots: `head` is the slot of the first, `count` says how many there are, and the second is in
the slot behind the head, the first slot following the last.

* `toList` is the view: the waiting characters in order.
* `toList_push` and `pop?_eq_some_iff` say that the ring is a queue, as long as it is `Valid`: its
  head is a slot and no more characters wait than there are slots.
-/

namespace LoxLexer

/-- A queue of at most two characters in a ring of two slots. -/
structure Lookahead where
  slots : Vector Char 2
  /-- The slot of the first character. -/
  head : Nat
  /-- How many characters wait. -/
  count : Nat

namespace Lookahead

/-- The number of slots. -/
abbrev capacity : Nat := 2

/-- The ring in which nothing waits. -/
def empty : Lookahead :=
  ⟨#v['\x00', '\x00'], 0, 0⟩

/-- The waiting character with so many others before it. -/
def get? (ahead : Lookahead) (index : Nat) : Option Char :=
  if index < ahead.count then ahead.slots[(ahead.head + index) % capacity]? else none

/-- Puts a character behind those that wait. -/
def push (ahead : Lookahead) (c : Char) : Lookahead :=
  { ahead with
    slots := ahead.slots.setIfInBounds ((ahead.head + ahead.count) % capacity) c
    count := ahead.count + 1 }

/-- Takes the first character that waits. -/
def pop? (ahead : Lookahead) : Option (Char × Lookahead) :=
  (ahead.get? 0).map fun c =>
    (c, { ahead with head := (ahead.head + 1) % capacity, count := ahead.count - 1 })

/-- The waiting characters in order. -/
def toList (ahead : Lookahead) : List Char :=
  (ahead.get? 0).toList ++ (ahead.get? 1).toList

/-- The head is a slot and no more characters wait than there are slots. -/
structure Valid (ahead : Lookahead) : Prop where
  head_lt : ahead.head < capacity
  count_le : ahead.count ≤ capacity

theorem valid_empty : empty.Valid :=
  ⟨by decide, by decide⟩

/-- A valid ring has its head in either slot, and none, one or two characters wait in it. -/
theorem Valid.exists_eq {ahead : Lookahead} (valid : ahead.Valid) :
    ∃ a b, ∃ head < 2, ∃ count ≤ 2, ahead = ⟨#v[a, b], head, count⟩ := by
  obtain ⟨⟨⟨cells⟩, size⟩, head, count⟩ := ahead
  match cells, size with
  | [a, b], _ => exact ⟨a, b, head, valid.head_lt, count, valid.count_le, rfl⟩

theorem Valid.push {ahead : Lookahead} (valid : ahead.Valid) (room : ahead.count < capacity)
    (c : Char) : (ahead.push c).Valid :=
  ⟨valid.head_lt, room⟩

theorem toList_push {ahead : Lookahead} (valid : ahead.Valid) (room : ahead.count < capacity)
    (c : Char) : (ahead.push c).toList = ahead.toList ++ [c] := by
  obtain ⟨a, b, head, head_lt, count, -, rfl⟩ := valid.exists_eq
  match head, head_lt, count, room with
  | 0, _, 0, _ | 0, _, 1, _ | 1, _, 0, _ | 1, _, 1, _ => simp [toList, push, get?]

theorem length_toList {ahead : Lookahead} (valid : ahead.Valid) :
    ahead.toList.length = ahead.count := by
  obtain ⟨a, b, head, head_lt, count, count_le, rfl⟩ := valid.exists_eq
  match head, head_lt, count, count_le with
  | 0, _, 0, _ | 0, _, 1, _ | 0, _, 2, _ => simp [toList, get?]
  | 1, _, 0, _ | 1, _, 1, _ | 1, _, 2, _ => simp [toList, get?]

theorem pop?_eq_none_iff {ahead : Lookahead} (valid : ahead.Valid) :
    ahead.pop? = none ↔ ahead.toList = [] := by
  obtain ⟨a, b, head, head_lt, count, count_le, rfl⟩ := valid.exists_eq
  match head, head_lt, count, count_le with
  | 0, _, 0, _ | 1, _, 0, _ => exact iff_of_true rfl rfl
  | 0, _, 1, _ | 0, _, 2, _ | 1, _, 1, _ | 1, _, 2, _ => exact iff_of_false nofun nofun

theorem Valid.pop {ahead rest : Lookahead} (valid : ahead.Valid) {c : Char}
    (taken : ahead.pop? = some (c, rest)) : rest.Valid := by
  simp only [pop?, Option.map_eq_some_iff, Prod.mk.injEq] at taken
  obtain ⟨_, -, -, rfl⟩ := taken
  exact ⟨Nat.mod_lt _ (by decide), Nat.le_trans (Nat.sub_le ..) valid.count_le⟩

theorem toList_of_pop? {ahead rest : Lookahead} (valid : ahead.Valid) {c : Char}
    (taken : ahead.pop? = some (c, rest)) : ahead.toList = c :: rest.toList := by
  obtain ⟨a, b, head, head_lt, count, count_le, rfl⟩ := valid.exists_eq
  match head, head_lt, count, count_le with
  | 0, _, 0, _ | 1, _, 0, _ => exact absurd taken nofun
  | 0, _, 1, _ | 0, _, 2, _ | 1, _, 1, _ | 1, _, 2, _ => cases taken; simp [toList, get?]

theorem get?_eq_getElem?_toList {ahead : Lookahead} (valid : ahead.Valid) (index : Nat) :
    ahead.get? index = ahead.toList[index]? := by
  obtain ⟨a, b, head, head_lt, count, count_le, rfl⟩ := valid.exists_eq
  match head, head_lt, count, count_le, index with
  | 0, _, 0, _, _ | 1, _, 0, _, _ => simp [toList, get?]
  | 0, _, 1, _, 0 | 0, _, 1, _, _ + 1 | 1, _, 1, _, 0 | 1, _, 1, _, _ + 1 => simp [toList, get?]
  | 0, _, 2, _, 0 | 0, _, 2, _, 1 | 1, _, 2, _, 0 | 1, _, 2, _, 1 => simp [toList, get?]
  | 0, _, 2, _, n + 2 | 1, _, 2, _, n + 2 =>
    have beyond : ¬n + 2 < 2 := by omega
    simp [toList, get?, beyond]

end Lookahead

end LoxLexer
