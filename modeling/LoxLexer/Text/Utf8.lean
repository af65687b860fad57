/-!
# UTF-8

A character is one to four bytes: a lead byte, which says how many continuation bytes follow, and
then those, with six payload bits each. A sequence is well formed if all its continuation bytes are
there, if no shorter sequence writes the same scalar value, and if that value is a character (no
surrogate, and nothing above U+10FFFF).

* `encode` writes a text, `decode` reads it, and `size` is the number of bytes of a text.
* A failing `decode` gives the offset of the first sequence that is not well formed, that is, the
  length of the longest well-formed beginning.
-/

namespace LoxLexer.Utf8

/-- The bytes of a text. -/
def encode (text : List Char) : List UInt8 :=
  text.flatMap String.utf8EncodeChar

/-- The number of bytes of a text. -/
def size : List Char → Nat
  | [] => 0
  | c :: text => c.utf8Size + size text

@[simp] theorem size_nil : size [] = 0 := rfl

@[simp] theorem size_cons (c : Char) (text : List Char) :
    size (c :: text) = c.utf8Size + size text := rfl

@[simp] theorem size_append (first second : List Char) :
    size (first ++ second) = size first + size second := by
  induction first with
  | nil => simp
  | cons c first ih => simp [ih, Nat.add_assoc]

theorem length_encode (text : List Char) : (encode text).length = size text := by
  induction text with
  | nil => rfl
  | cons c text ih =>
    rw [size_cons, ← ih, ← String.length_utf8EncodeChar]
    simp [encode]

theorem size_eq_utf8ByteSize (text : List Char) :
    size text = (String.ofList text).utf8ByteSize := by
  induction text with
  | nil => rfl
  | cons c text ih => rw [String.ofList_cons, String.utf8ByteSize_append, size_cons, ih]; simp

theorem size_toList (text : String) : size text.toList = text.utf8ByteSize := by
  rw [size_eq_utf8ByteSize, String.ofList_toList]

/-- What a lead byte says about the sequence that it opens. -/
structure Lead where
  /-- The bits of the scalar value that the lead byte itself holds. -/
  payload : Nat
  /-- How many continuation bytes follow. -/
  following : Nat
  /-- The least scalar value that needs a sequence of this length. -/
  least : Nat

/-- Reads a lead byte. A continuation byte is none, nor is any byte from `0xF8` up. -/
def lead? (byte : UInt8) : Option Lead :=
  if byte < 0x80 then some ⟨byte.toNat, 0, 0⟩
  else if byte < 0xC0 then none
  else if byte < 0xE0 then some ⟨byte.toNat - 0xC0, 1, 0x80⟩
  else if byte < 0xF0 then some ⟨byte.toNat - 0xE0, 2, 0x800⟩
  else if byte < 0xF8 then some ⟨byte.toNat - 0xF0, 3, 0x10000⟩
  else none

/-- Appends the payload of so many continuation bytes to a value, and gives the bytes after them. -/
def following? : Nat → Nat → List UInt8 → Option (Nat × List UInt8)
  | 0, value, bytes => some (value, bytes)
  | _ + 1, _, [] => none
  | count + 1, value, byte :: bytes =>
    if 0x80 ≤ byte ∧ byte < 0xC0 then following? count (value * 64 + (byte.toNat - 0x80)) bytes
    else none

/-- The first character of a byte sequence and the bytes after it, if it starts with a well-formed
sequence. -/
def decodeFirst? : List UInt8 → Option (Char × List UInt8)
  | [] => none
  | byte :: bytes => do
    let lead ← lead? byte
    let (value, rest) ← following? lead.following lead.payload bytes
    if valid : lead.least ≤ value ∧ value.isValidChar then
      some (Char.ofNatAux value valid.2, rest)
    else
      none

theorem length_following? {count value value' : Nat} {bytes rest : List UInt8}
    (found : following? count value bytes = some (value', rest)) :
    rest.length + count = bytes.length := by
  fun_induction following? count value bytes with
  | case1 value bytes => simp_all
  | case2 => simp at found
  | case3 count value byte bytes _ ih => simp [← ih found, Nat.add_assoc]
  | case4 => simp at found

theorem length_decodeFirst?_lt {bytes rest : List UInt8} {c : Char}
    (found : decodeFirst? bytes = some (c, rest)) : rest.length < bytes.length := by
  match bytes with
  | [] => simp [decodeFirst?] at found
  | byte :: bytes =>
    obtain ⟨lead, -, found⟩ := Option.bind_eq_some_iff.1 found
    obtain ⟨⟨value, rest'⟩, continued, found⟩ := Option.bind_eq_some_iff.1 found
    have length := length_following? continued
    by_cases valid : lead.least ≤ value ∧ value.isValidChar
    · have taken := (dif_pos valid).symm.trans found
      obtain rfl : rest' = rest := (Prod.mk.inj (Option.some.inj taken)).2
      rw [List.length_cons]
      omega
    · cases (dif_neg valid).symm.trans found

/-- Reads on after `offset` bytes that have given `text`. -/
def decodeFrom (offset : Nat) (text : String) (bytes : List UInt8) : Except Nat String :=
  if bytes.isEmpty then
    .ok text
  else
    match _ : decodeFirst? bytes with
    | some (c, rest) => decodeFrom (offset + c.utf8Size) (text.push c) rest
    | none => .error offset
termination_by bytes.length
decreasing_by exact length_decodeFirst?_lt ‹_›

/-- The text of a byte sequence, or the offset of its first sequence that is not well formed. -/
def decode (bytes : List UInt8) : Except Nat String :=
  decodeFrom 0 "" bytes

end LoxLexer.Utf8
