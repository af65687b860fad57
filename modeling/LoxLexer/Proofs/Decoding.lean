import LoxLexer.Proofs.Refusal
import Mathlib.Algebra.Group.Nat.Defs

/-!
# Bytes that are text

The decoder reads a lead byte, the continuation bytes that it asks for and the value of them all; it
knows nothing of how a character is written. This module shows that it reads what the encoder
writes, and nothing else.

* `Utf8.lead?_eq_some_iff` and `Utf8.following?_eq_some_iff`: the two parts of a sequence.
* `Utf8.decodeFirst?_eq_some_iff`: the first character of some bytes is the one that they start with
  the writing of.
* `Utf8.exists_encode_append` and `Utf8.decode_encode_append`: any bytes are a text and what no
  character can be read from, and if this is not empty, then the text before it is as long as the
  offset of the error.
* `lexBytes_decides_utf8`: what becomes of bytes that are text, and of bytes that are not.
-/

namespace LoxLexer

namespace Utf8

/-! ## Lead bytes -/

/-- A lead byte is a payload below a mark, which tells how long the sequence is. -/
inductive Opens : UInt8 → Lead → Prop
  | one {payload : Nat} : payload < 0x80 → Opens (.ofNat payload) ⟨payload, 0, 0⟩
  | two {payload : Nat} : payload < 0x20 → Opens (.ofNat (payload + 0xC0)) ⟨payload, 1, 0x80⟩
  | three {payload : Nat} : payload < 0x10 → Opens (.ofNat (payload + 0xE0)) ⟨payload, 2, 0x800⟩
  | four {payload : Nat} : payload < 0x08 → Opens (.ofNat (payload + 0xF0)) ⟨payload, 3, 0x10000⟩

theorem ofNat_toNat_sub_add {byte : UInt8} {mark : Nat} (above : mark ≤ byte.toNat) :
    UInt8.ofNat (byte.toNat - mark + mark) = byte := by
  rw [Nat.sub_add_cancel above, UInt8.ofNat_toNat]

theorem lead?_eq_some_iff {byte : UInt8} {lead : Lead} :
    lead? byte = some lead ↔ Opens byte lead := by
  have bound := byte.toNat_lt
  simp only [lead?, UInt8.lt_iff_toNat_lt, UInt8.reduceToNat]
  constructor
  · intro found
    split_ifs at found with one none two three four <;> obtain rfl := Option.some.inj found
    · simpa using Opens.one one
    · have opens := @Opens.two (byte.toNat - 0xC0) (by omega)
      rwa [ofNat_toNat_sub_add (by omega)] at opens
    · have opens := @Opens.three (byte.toNat - 0xE0) (by omega)
      rwa [ofNat_toNat_sub_add (by omega)] at opens
    · have opens := @Opens.four (byte.toNat - 0xF0) (by omega)
      rwa [ofNat_toNat_sub_add (by omega)] at opens
  · intro opens
    cases opens with
    | one small | two small | three small | four small =>
      simp only [UInt8.toNat_ofNat']
      split_ifs <;> first | omega | simp; omega

/-- Every character has a lead byte, in the shortest sequence that holds its value. -/
theorem exists_opens (c : Char) :
    ∃ byte lead, Opens byte lead ∧ lead.least ≤ c.toNat ∧
      lead.payload = c.toNat / 64 ^ lead.following := by
  have bound : c.toNat < 0x110000 := by
    have valid : c.toNat < 0xD800 ∨ 0xDFFF < c.toNat ∧ c.toNat < 0x110000 := c.valid
    omega
  by_cases one : c.toNat < 0x80
  · exact ⟨_, _, .one one, Nat.zero_le _, (Nat.div_one _).symm⟩
  by_cases two : c.toNat < 0x800
  · exact ⟨_, _, @Opens.two (c.toNat / 64 ^ 1) (by omega), Nat.le_of_not_lt one, rfl⟩
  by_cases three : c.toNat < 0x10000
  · exact ⟨_, _, @Opens.three (c.toNat / 64 ^ 2) (by omega), Nat.le_of_not_lt two, rfl⟩
  · exact ⟨_, _, @Opens.four (c.toNat / 64 ^ 3) (by omega), Nat.le_of_not_lt three, rfl⟩

/-! ## Continuation bytes -/

/-- The last bytes of the sequence for a value: so many continuation bytes, with six bits each. -/
def continuation : Nat → Nat → List UInt8
  | 0, _ => []
  | count + 1, value => UInt8.ofNat (value / 64 ^ count % 64 + 0x80) :: continuation count value

/-- A continuation byte appends its six bits to the bits before it. -/
theorem continuation_byte_iff {byte : UInt8} {value whole : Nat} :
    (0x80 ≤ byte ∧ byte < 0xC0) ∧ value * 64 + (byte.toNat - 0x80) = whole ↔
      byte = UInt8.ofNat (whole % 64 + 0x80) ∧ value = whole / 64 := by
  have bound := byte.toNat_lt
  rw [UInt8.le_iff_toNat_le, UInt8.lt_iff_toNat_lt, ← UInt8.toNat_inj, UInt8.toNat_ofNat']
  simp only [UInt8.reduceToNat]
  omega

theorem following?_eq_some_iff {count value whole : Nat} {bytes rest : List UInt8} :
    following? count value bytes = some (whole, rest) ↔
      bytes = continuation count whole ++ rest ∧ value = whole / 64 ^ count := by
  induction count generalizing value bytes with
  | zero => simp [following?, continuation, and_comm]
  | succ count ih =>
    cases bytes with
    | nil => simp [following?, continuation]
    | cons byte bytes =>
      have first := @continuation_byte_iff byte value (whole / 64 ^ count)
      rw [Nat.div_div_eq_div_mul, ← Nat.pow_succ] at first
      simp only [following?, continuation, List.cons_append, List.cons.injEq,
        Option.ite_none_right_eq_some, ih]
      rw [and_left_comm, first, and_left_comm, and_assoc]

/-! ## Characters -/

/-- The bytes of a character are its lead byte and the continuation bytes that this one asks for. -/
theorem Opens.utf8EncodeChar_eq {byte : UInt8} {lead : Lead} {c : Char} (opens : Opens byte lead)
    (least : lead.least ≤ c.toNat) (payload : lead.payload = c.toNat / 64 ^ lead.following) :
    String.utf8EncodeChar c = byte :: continuation lead.following c.toNat := by
  simp only [String.utf8EncodeChar, Char.toNat_val]
  -- the least value and the bound of the payload leave one length for the value
  cases opens with
  | one small =>
    simp only [Nat.pow_zero, Nat.div_one] at payload
    subst payload
    rw [if_pos (by omega)]
    rfl
  | two small =>
    simp only [Nat.reducePow] at payload least
    subst payload
    rw [if_neg (by omega), if_pos (by omega), Nat.mod_eq_of_lt small]
    simp [continuation]
  | three small =>
    simp only [Nat.reducePow] at payload least
    subst payload
    rw [if_neg (by omega), if_neg (by omega), if_pos (by omega), Nat.mod_eq_of_lt small]
    simp [continuation]
  | four small =>
    simp only [Nat.reducePow] at payload least
    subst payload
    rw [if_neg (by omega), if_neg (by omega), if_neg (by omega), Nat.mod_eq_of_lt small]
    simp [continuation]

/-- A character can be read exactly where its bytes stand. -/
theorem decodeFirst?_eq_some_iff {bytes rest : List UInt8} {c : Char} :
    decodeFirst? bytes = some (c, rest) ↔ bytes = String.utf8EncodeChar c ++ rest := by
  constructor
  · intro found
    cases bytes with
    | nil => cases found
    | cons byte bytes =>
      obtain ⟨lead, led, found⟩ := Option.bind_eq_some_iff.1 found
      obtain ⟨⟨value, rest'⟩, followed, found⟩ := Option.bind_eq_some_iff.1 found
      obtain ⟨valid, same⟩ := Option.dite_none_right_eq_some.1 found
      obtain ⟨rfl, rfl⟩ := Prod.mk.inj (Option.some.inj same)
      obtain ⟨rfl, payload⟩ := following?_eq_some_iff.1 followed
      have written := (lead?_eq_some_iff.1 led).utf8EncodeChar_eq
        (c := Char.ofNatAux value valid.2) valid.1 payload
      rw [written]
      rfl
  · intro same
    obtain ⟨byte, lead, opens, least, payload⟩ := exists_opens c
    rw [opens.utf8EncodeChar_eq least payload, List.cons_append] at same
    subst same
    refine Option.bind_eq_some_iff.2 ⟨lead, lead?_eq_some_iff.2 opens, ?_⟩
    refine Option.bind_eq_some_iff.2 ⟨_, following?_eq_some_iff.2 ⟨rfl, payload⟩, ?_⟩
    exact dif_pos ⟨least, c.valid⟩

/-! ## Texts -/

@[simp] theorem encode_nil : encode [] = [] := rfl

@[simp] theorem encode_cons (c : Char) (text : List Char) :
    encode (c :: text) = String.utf8EncodeChar c ++ encode text := rfl

@[simp] theorem encode_append (first second : List Char) :
    encode (first ++ second) = encode first ++ encode second :=
  List.flatMap_append

/-- The bytes of a text are those that it is kept in. -/
theorem encode_toList (text : String) : encode text.toList = text.toUTF8.data.toList := by
  have whole : text.toUTF8 = (encode text.toList).toByteArray := by
    conv_lhs => rw [← String.ofList_toList (s := text)]
    rfl
  rw [whole, List.toList_data_toByteArray]

theorem decodeFirst?_encode_cons (c : Char) (text : List Char) (rest : List UInt8) :
    decodeFirst? (encode (c :: text) ++ rest) = some (c, encode text ++ rest) :=
  decodeFirst?_eq_some_iff.2 (List.append_assoc ..)

theorem decodeFrom_of_decodeFirst? {offset : Nat} {text : String} {bytes rest : List UInt8}
    {c : Char} (first : decodeFirst? bytes = some (c, rest)) :
    decodeFrom offset text bytes = decodeFrom (offset + c.utf8Size) (text.push c) rest := by
  have more : bytes.isEmpty = false := by
    cases bytes with
    | nil => cases first
    | cons => rfl
  rw [decodeFrom, more]
  simp only [Bool.false_eq_true, if_false]
  split
  · next first' => cases first.symm.trans first'; rfl
  · next stuck => cases first.symm.trans stuck

/-- The bytes of a text are read to the text, whatever stands behind them. -/
theorem decodeFrom_encode (offset : Nat) (read : String) (text : List Char) (rest : List UInt8) :
    decodeFrom offset read (encode text ++ rest) =
      decodeFrom (offset + size text) (read ++ String.ofList text) rest := by
  induction text generalizing offset read with
  | nil => simp
  | cons c text ih =>
    rw [decodeFrom_of_decodeFirst? (decodeFirst?_encode_cons c text rest), ih, size_cons,
      Nat.add_assoc, String.ofList_cons, String.push_eq_append, String.append_assoc]

/-- Where no character can be read, reading ends: with an error, unless there is nothing left. -/
theorem decodeFrom_of_stuck {offset : Nat} {read : String} {rest : List UInt8}
    (stuck : decodeFirst? rest = none) :
    decodeFrom offset read rest = if rest = [] then .ok read else .error offset := by
  rw [decodeFrom]
  cases rest with
  | nil => rfl
  | cons byte rest =>
    simp only [List.isEmpty_cons, Bool.false_eq_true, reduceCtorEq, if_false]
    split
    · next first => cases stuck.symm.trans first
    · rfl

theorem decode_encode_append (text : List Char) {rest : List UInt8}
    (stuck : decodeFirst? rest = none) :
    decode (encode text ++ rest) =
      if rest = [] then .ok (String.ofList text) else .error (size text) := by
  rw [decode, decodeFrom_encode, decodeFrom_of_stuck stuck, Nat.zero_add, String.empty_append]

theorem decode_encode (text : String) : decode (encode text.toList) = .ok text := by
  have whole := @decode_encode_append text.toList [] rfl
  rwa [List.append_nil, if_pos rfl, String.ofList_toList] at whole

/-- Any bytes are those of a text up to where no character can be read. -/
theorem exists_encode_append (bytes : List UInt8) :
    ∃ text rest, bytes = encode text ++ rest ∧ decodeFirst? rest = none := by
  cases first : decodeFirst? bytes with
  | none => exact ⟨[], bytes, rfl, first⟩
  | some result =>
    obtain ⟨c, behind⟩ := result
    obtain ⟨text, rest, same, stuck⟩ := exists_encode_append behind
    refine ⟨c :: text, rest, ?_, stuck⟩
    rw [decodeFirst?_eq_some_iff.1 first, same, encode_cons, List.append_assoc]
termination_by bytes.length
decreasing_by exact length_decodeFirst?_lt first

/-- No text goes on where no character can be read. -/
theorem prefix_of_encode_prefix {other text : List Char} {rest : List UInt8}
    (stuck : decodeFirst? rest = none) (begins : encode other <+: encode text ++ rest) :
    other <+: text := by
  induction other generalizing text with
  | nil => exact List.nil_prefix
  | cons d other ih =>
    obtain ⟨more, same⟩ := begins
    have first := decodeFirst?_encode_cons d other more
    rw [same] at first
    cases text with
    | nil => cases stuck.symm.trans first
    | cons c text =>
      rw [decodeFirst?_encode_cons] at first
      obtain ⟨rfl, behind⟩ := Prod.mk.inj (Option.some.inj first)
      exact List.cons_prefix_cons.2 ⟨rfl, ih ⟨more, behind.symm⟩⟩

end Utf8

/-! ## Sources that come as bytes -/

theorem lexBytes_encode (source : String) : lexBytes (Utf8.encode source.toList) = lex source := by
  rw [lexBytes, Utf8.decode_encode]

/-- Only the bytes of a text are lexed to tokens. -/
theorem exists_encode_of_lexBytes_eq_ok {bytes : List UInt8} {tokens : List Token}
    (lexed : lexBytes bytes = .ok tokens) :
    ∃ source : String, Utf8.encode source.toList = bytes := by
  obtain ⟨text, rest, rfl, stuck⟩ := Utf8.exists_encode_append bytes
  by_cases whole : rest = []
  · exact ⟨String.ofList text, by rw [String.toList_ofList, whole, List.append_nil]⟩
  · rw [lexBytes, Utf8.decode_encode_append text stuck, if_neg whole] at lexed
    cases lexed

theorem lex_ne_invalidEncoding (source : String) (offset : Nat) :
    lex source ≠ .error (.invalidEncoding offset) := by
  intro refused
  obtain ⟨_, _, _, _, _, _, _, cause⟩ := lex_eq_error_iff.1 refused
  cases cause

/-- **Bytes are lexed if they are UTF-8, and refused for it if they are not.** The bytes of a text
are lexed like the text. Any other bytes are refused behind the longest text that they start with,
which is not all of them, and for no other cause, whatever this text is; a text is never refused for
its bytes. -/
theorem lexBytes_decides_utf8 :
    (∀ source : String, Utf8.encode source.toList = source.toUTF8.data.toList ∧
      lexBytes (Utf8.encode source.toList) = lex source) ∧
    (∀ bytes, (∀ source : String, Utf8.encode source.toList ≠ bytes) →
      ∃ valid : String,
        lexBytes bytes = .error (.invalidEncoding (Utf8.encode valid.toList).length) ∧
        Utf8.encode valid.toList <+: bytes ∧
        (Utf8.encode valid.toList).length < bytes.length ∧
        ∀ other : String, Utf8.encode other.toList <+: bytes →
          (Utf8.encode other.toList).length ≤ (Utf8.encode valid.toList).length) ∧
    ∀ source offset, lex source ≠ .error (.invalidEncoding offset) := by
  refine ⟨fun source => ⟨Utf8.encode_toList source, lexBytes_encode source⟩, ?_,
    lex_ne_invalidEncoding⟩
  intro bytes noText
  obtain ⟨text, rest, rfl, stuck⟩ := Utf8.exists_encode_append bytes
  have left : rest ≠ [] := by
    intro none
    apply noText (String.ofList text)
    rw [none, List.append_nil, String.toList_ofList]
  refine ⟨String.ofList text, ?_, ?_, ?_, ?_⟩
  · rw [lexBytes, Utf8.decode_encode_append text stuck, if_neg left, String.toList_ofList,
      Utf8.length_encode]
  · rw [String.toList_ofList]
    exact List.prefix_append _ rest
  · have some := List.length_pos_iff.2 left
    rw [String.toList_ofList, List.length_append]
    omega
  · intro other begins
    obtain ⟨more, whole⟩ := Utf8.prefix_of_encode_prefix stuck begins
    rw [String.toList_ofList, ← whole, Utf8.encode_append, List.length_append]
    exact Nat.le_add_right _ _

/-- A stray character and an open quote do not matter in front of a sequence that is cut short. -/
theorem lexBytes_decides_utf8_cut_short :
    (∀ source : String, Utf8.encode source.toList ≠ [0x40, 0x22, 0xE2, 0x82]) ∧
      lexBytes [0x40, 0x22, 0xE2, 0x82] = .error (.invalidEncoding 2) ∧
      ∃ valid : String, Utf8.encode valid.toList <+: [0x40, 0x22, 0xE2, 0x82] ∧
        (Utf8.encode valid.toList).length = 2 := by
  have refused : lexBytes [0x40, 0x22, 0xE2, 0x82] = .error (.invalidEncoding 2) := by
    decide +kernel
  have noText : ∀ source : String, Utf8.encode source.toList ≠ [0x40, 0x22, 0xE2, 0x82] := by
    intro source same
    rw [← same, (lexBytes_decides_utf8.1 source).2] at refused
    exact lexBytes_decides_utf8.2.2 source 2 refused
  obtain ⟨valid, refused', begins, -, -⟩ := lexBytes_decides_utf8.2.1 _ noText
  rw [refused'] at refused
  have length := LexError.invalidEncoding.inj (Except.error.inj refused)
  rw [length] at refused'
  exact ⟨noText, refused', valid, begins, length⟩

end LoxLexer
