import LoxLexer.Proofs.FileListing
import LoxLexer.Proofs.LineByLine
import Mathlib.Data.List.Nodup

/-!
# What a listing tells

Lexemes and stray characters stand in the texts as they are, even where they look like the words
around them. The texts can be read back all the same: from the front, since no label holds a comma
and no number a colon or a bracket, and from the back, since a line number is the last run of digits
in its line.

* `Token.listing_eq_iff`: a listing line tells kind, lexeme and line.
* `LexError.message_injective`: a message tells the error.
* `CommandLine.printed_eq_of_listing_eq`: a listing tells the text if no lexeme holds a line feed.
* `CommandLine.listing_faithful`: all three, the last one for files.
-/

namespace LoxLexer

/-! ## Numbers in a text -/

theorem isDigit_of_mem_toString {number : Nat} {c : Char} (mem : c ∈ (toString number).toList) :
    c.isDigit := by
  rw [Nat.toString_eq_repr, Nat.toList_repr] at mem
  exact Nat.isDigit_of_mem_toDigits (by decide) (by decide) mem

/-- The value of the digits is the number. -/
theorem toString_toList_injective {number number' : Nat}
    (same : (toString number).toList = (toString number').toList) : number = number' := by
  rw [Nat.toString_eq_repr, Nat.toString_eq_repr, Nat.toList_repr, Nat.toList_repr] at same
  have values := congrArg (Nat.ofDigitChars 10 · 0) same
  simpa only [Nat.ofDigitChars_ten_toDigits] using values

/-- A number is read back from the front, up to the first character that is no digit. -/
theorem toString_append_inj {number number' : Nat} {rest rest' : List Char}
    (stop : ∀ c ∈ rest.head?, ¬c.isDigit) (stop' : ∀ c ∈ rest'.head?, ¬c.isDigit)
    (same : (toString number).toList ++ rest = (toString number').toList ++ rest') :
    number = number' ∧ rest = rest' := by
  obtain ⟨digits, behind⟩ := run_unique (fun _ => isDigit_of_mem_toString)
    (fun _ => isDigit_of_mem_toString) stop stop' same
  exact ⟨toString_toList_injective digits, behind⟩

/-- It is read back from the end, too, down to the last character that is no digit. -/
theorem append_toString_inj {number number' : Nat} {front front' : List Char}
    (stop : ∀ c ∈ front.getLast?, ¬c.isDigit) (stop' : ∀ c ∈ front'.getLast?, ¬c.isDigit)
    (same : front ++ (toString number).toList = front' ++ (toString number').toList) :
    front = front' ∧ number = number' := by
  rw [← List.head?_reverse] at stop stop'
  have reversed := congrArg List.reverse same
  rw [List.reverse_append, List.reverse_append] at reversed
  obtain ⟨digits, before⟩ := run_unique
    (fun _ mem => isDigit_of_mem_toString (List.mem_reverse.1 mem))
    (fun _ mem => isDigit_of_mem_toString (List.mem_reverse.1 mem)) stop stop' reversed
  exact ⟨List.reverse_injective before, toString_toList_injective (List.reverse_injective digits)⟩

/-! ## Labels -/

/-- The symbols. -/
def Symbol.all : List Symbol :=
  [leftParen, rightParen, leftBrace, rightBrace, comma, dot, minus, plus, semicolon, slash, star,
    bang, bangEqual, equal, equalEqual, greater, greaterEqual, less, lessEqual, newline]

theorem Symbol.mem_all (symbol : Symbol) : symbol ∈ all := by
  cases symbol <;> decide

namespace TokenKind

/-- The kinds of tokens. -/
def all : List TokenKind :=
  [illegal, eof, lineComment, whitespace, identifier, string, number] ++
    Symbol.all.map symbol ++ Keyword.all.map keyword

theorem mem_all (kind : TokenKind) : kind ∈ all := by
  cases kind with
  | symbol s => simp [all, Symbol.mem_all s]
  | keyword k => simp [all, Keyword.mem_all k]
  | _ => simp [all]

/-- No two kinds have the same label. -/
theorem label_injective {kind kind' : TokenKind} (same : kind.label = kind'.label) :
    kind = kind' := by
  have distinct : (all.map label).Nodup := by decide +kernel
  exact List.inj_on_of_nodup_map distinct (mem_all kind) (mem_all kind') same

/-- A label is a few words of one line, without a comma. -/
theorem not_mem_label (kind : TokenKind) : ',' ∉ kind.label.toList ∧ '\n' ∉ kind.label.toList := by
  have plain : ∀ kind ∈ all, ',' ∉ kind.label.toList ∧ '\n' ∉ kind.label.toList := by
    decide +kernel
  exact plain kind (mem_all kind)

end TokenKind

/-! ## Listing lines -/

namespace Token

/-- A listing line, cut behind the label and before the line number. -/
theorem toList_listing (token : Token) :
    token.listing.toList = "Token(".toList ++ (token.kind.label.toList ++
      ',' :: (" content: ".toList ++ ((token.lexeme.toList ++ ", line: ".toList) ++
        (toString token.position.line).toList ++ [')']))) := by
  simp [listing, String.toList_append]

/-- **A listing line tells kind, lexeme and line,** whatever the lexeme is. -/
theorem listing_eq_iff {t u : Token} :
    t.listing = u.listing ↔
      t.kind = u.kind ∧ t.lexeme = u.lexeme ∧ t.position.line = u.position.line := by
  constructor
  · intro same
    have texts := congrArg String.toList same
    rw [toList_listing, toList_listing] at texts
    obtain ⟨labels, behind⟩ := run_unique (passes_iff_not_mem.2 t.kind.not_mem_label.1)
      (passes_iff_not_mem.2 u.kind.not_mem_label.1) (by simp) (by simp)
      (List.append_cancel_left texts)
    have contents := List.append_cancel_right (List.append_cancel_left (List.cons.inj behind).2)
    -- the lexeme can hold digits and all the words behind it, so the line is read from the end
    have stop : ∀ lexeme : String, ∀ c ∈ (lexeme.toList ++ ", line: ".toList).getLast?,
        ¬c.isDigit := by
      simp
    obtain ⟨front, line⟩ := append_toString_inj (stop t.lexeme) (stop u.lexeme) contents
    have lexeme := String.toList_injective (List.append_cancel_right front)
    exact ⟨TokenKind.label_injective (String.toList_injective labels), lexeme, line⟩
  · rintro ⟨kind, lexeme, line⟩
    rw [listing, listing, kind, lexeme, line]

theorem spelling_eq_of_listing_eq {t u : Token} (same : t.listing = u.listing) :
    t.spelling = u.spelling := by
  obtain ⟨kind, lexeme, -⟩ := listing_eq_iff.1 same
  rw [spelling, spelling, kind, lexeme]

/-- A line feed in a listing line is one in the lexeme. -/
theorem lineFeed_not_mem_listing {token : Token} (inside : '\n' ∉ token.lexeme.toList) :
    '\n' ∉ token.listing.toList := by
  have label := token.kind.not_mem_label.2
  have digits : '\n' ∉ (toString token.position.line).toList :=
    fun mem => absurd (isDigit_of_mem_toString mem) (by decide)
  simp [toList_listing, label, inside, -Nat.toString_eq_repr, digits]

end Token

/-! ## Messages -/

namespace LexError

theorem toList_place_append (position : Position) (rest : String) :
    (place position ++ rest).toList = "[line ".toList ++ ((toString position.line).toList ++
      ':' :: ((toString position.column).toList ++ ']' :: rest.toList)) := by
  simp [place, String.toList_append]

/-- A place is read back, whatever stands behind it. -/
theorem place_append_inj {position position' : Position} {rest rest' : String}
    (same : place position ++ rest = place position' ++ rest') :
    position = position' ∧ rest = rest' := by
  have texts := congrArg String.toList same
  rw [toList_place_append, toList_place_append] at texts
  obtain ⟨line, behindLine⟩ :=
    toString_append_inj (by simp) (by simp) (List.append_cancel_left texts)
  obtain ⟨column, behindColumn⟩ :=
    toString_append_inj (by simp) (by simp) (List.cons.inj behindLine).2
  rcases position with ⟨_, _⟩
  rcases position' with ⟨_, _⟩
  cases line
  cases column
  exact ⟨rfl, String.toList_injective (List.cons.inj behindColumn).2⟩

section Causes

variable (character : Char) (position position' : Position) (offset : Nat) (rest : String)

theorem message_unexpectedCharacter :
    (unexpectedCharacter character position).message =
      place position ++
        (" Error: Unexpected character '" ++ (String.singleton character ++ "'.")) := by
  rw [← String.append_assoc, ← String.append_assoc]
  rfl

theorem toList_message_invalidEncoding :
    (invalidEncoding offset).message.toList =
      "Error: Invalid UTF-8 at byte ".toList ++ ((toString offset).toList ++ ['.']) := by
  have text : (invalidEncoding offset).message =
      "Error: Invalid UTF-8 at byte " ++ toString offset ++ "." := rfl
  rw [text, String.toList_append, String.toList_append, List.append_assoc]
  rfl

theorem message_unexpectedCharacter_ne :
    (unexpectedCharacter character position).message ≠ (unterminatedString position').message := by
  intro same
  rw [message_unexpectedCharacter] at same
  obtain ⟨-, causes⟩ := place_append_inj same
  have texts := congrArg String.toList causes
  simp [String.toList_append] at texts

/-- Only a message with a place starts with a bracket. -/
theorem place_append_ne_message : place position ++ rest ≠ (invalidEncoding offset).message := by
  intro same
  have texts := congrArg String.toList same
  rw [toList_place_append, toList_message_invalidEncoding] at texts
  simp at texts

end Causes

/-- **A message tells the error.** -/
theorem message_injective {e f : LexError} (same : e.message = f.message) : e = f := by
  cases e with
  | unexpectedCharacter character position =>
    cases f with
    | unexpectedCharacter character' position' =>
      rw [message_unexpectedCharacter, message_unexpectedCharacter] at same
      obtain ⟨rfl, causes⟩ := place_append_inj same
      obtain rfl : character = character' := by simpa using congrArg String.toList causes
      rfl
    | unterminatedString position' => exact absurd same (message_unexpectedCharacter_ne _ _ _)
    | invalidEncoding offset =>
      rw [message_unexpectedCharacter] at same
      exact absurd same (place_append_ne_message _ _ _)
  | unterminatedString position =>
    cases f with
    | unexpectedCharacter character' position' =>
      exact absurd same.symm (message_unexpectedCharacter_ne _ _ _)
    | unterminatedString position' => rw [(place_append_inj same).1]
    | invalidEncoding offset => exact absurd same (place_append_ne_message _ _ _)
  | invalidEncoding offset =>
    cases f with
    | unexpectedCharacter character' position' =>
      rw [message_unexpectedCharacter] at same
      exact absurd same.symm (place_append_ne_message _ _ _)
    | unterminatedString position' => exact absurd same.symm (place_append_ne_message _ _ _)
    | invalidEncoding offset' =>
      have texts := congrArg String.toList same
      rw [toList_message_invalidEncoding, toList_message_invalidEncoding] at texts
      obtain ⟨rfl, -⟩ :=
        toString_append_inj (by simp) (by simp) (List.append_cancel_left texts)
      rfl

end LexError

/-! ## Line feeds in lexemes -/

theorem Lexical.mem_of_mem_lexeme {text lexeme : List Char} {kind : TokenKind} {c : Char}
    (lexical : Lexical text kind lexeme) (mem : c ∈ lexeme) : c ∈ text := by
  cases lexical with
  | symbol symbol => cases mem
  | lineComment inside => exact .tail _ (.tail _ mem)
  | string inside => exact .tail _ (List.mem_append_left _ mem)
  | whitespace _ _ | whole _ _ | fraction _ _ _ _ | keyword _ | identifier _ _ _ => exact mem

/-- Only a string can have a line feed in its lexeme. -/
theorem Token.WellFormed.lineFeed_not_mem {token : Token} (wellFormed : token.WellFormed)
    (unbroken : token.kind = .string → '\n' ∉ token.lexeme.toList) :
    '\n' ∉ token.lexeme.toList := by
  intro mem
  have lexical := Token.wellFormed_iff.1 wellFormed
  rcases lexical.of_lineFeed_mem (lexical.mem_of_mem_lexeme mem) with
    ⟨-, -, nothing⟩ | ⟨string, -⟩
  · rw [nothing] at mem
    cases mem
  · exact unbroken string mem

namespace CommandLine

/-! ## Listings of texts -/

theorem toList_listing_cons (token : Token) (tokens : List Token) :
    (listing (token :: tokens)).toList =
      token.listing.toList ++ '\n' :: (listing tokens).toList := by
  simp [listing_cons, String.toList_append]

/-- **A listing tells the text,** if each of its lines is one token. -/
theorem printed_eq_of_listing_eq {tokens tokens' : List Token}
    (inside : ∀ token ∈ tokens, '\n' ∉ token.lexeme.toList)
    (inside' : ∀ token ∈ tokens', '\n' ∉ token.lexeme.toList)
    (same : listing tokens = listing tokens') : printed tokens = printed tokens' := by
  induction tokens generalizing tokens' with
  | nil => rw [listing_eq_empty_iff.1 same.symm]
  | cons token tokens ih =>
    cases tokens' with
    | nil => cases listing_eq_empty_iff.1 same
    | cons token' tokens' =>
      obtain ⟨first, others⟩ := List.forall_mem_cons.1 inside
      obtain ⟨first', others'⟩ := List.forall_mem_cons.1 inside'
      have texts := congrArg String.toList same
      rw [toList_listing_cons, toList_listing_cons] at texts
      obtain ⟨line, below⟩ :=
        run_unique (passes_iff_not_mem.2 (Token.lineFeed_not_mem_listing first))
          (passes_iff_not_mem.2 (Token.lineFeed_not_mem_listing first')) (by simp) (by simp) texts
      have spelled := Token.spelling_eq_of_listing_eq (String.toList_injective line)
      have listed := String.toList_injective (List.cons.inj below).2
      rw [printed_cons, printed_cons, spelled, ih others others' listed]

/-- A file that the command lists, with a working output, and none of whose strings goes over the
end of a line. -/
structure Lists (path : String) (host : Host) (bytes : List UInt8) : Prop where
  read : host.readFile? path = some bytes
  room : host.outputFull = false
  success : (run [path] host).code.toNat = 0
  unbroken : ∀ tokens, lexBytes bytes = .ok tokens → ∀ token ∈ tokens,
    token.kind = .string → '\n' ∉ token.lexeme.toList

theorem Lists.of_lexBytes {path : String} {host : Host} {bytes : List UInt8} {tokens : List Token}
    (read : host.readFile? path = some bytes) (room : host.outputFull = false)
    (lexed : lexBytes bytes = .ok tokens)
    (unbroken : ∀ token ∈ tokens, token.kind = .string → '\n' ∉ token.lexeme.toList) :
    Lists path host bytes := by
  have outcome : run [path] host = listFile (host.readFile? path) (.empty host.outputFull) := rfl
  refine ⟨read, room, ?_, fun tokens' lexed' => ?_⟩
  · rw [outcome, read, room, listFile_room lexed]
    rfl
  · obtain rfl := Except.ok.inj (lexed.symm.trans lexed')
    exact unbroken

/-- The tokens that are listed spell the file. -/
theorem Lists.exists_tokens {path : String} {host : Host} {bytes : List UInt8}
    (lists : Lists path host bytes) :
    ∃ tokens, (run [path] host).stdout = listing tokens ∧ bytes = Utf8.encode (printed tokens) ∧
      ∀ token ∈ tokens, '\n' ∉ token.lexeme.toList := by
  have outcome : run [path] host = listFile (host.readFile? path) (.empty host.outputFull) := rfl
  have success := lists.success
  rw [lists.read, lists.room] at outcome
  cases lexed : lexBytes bytes with
  | error error =>
    rw [outcome, listFile_error lexed] at success
    cases success
  | ok tokens =>
    obtain ⟨source, rfl⟩ := exists_encode_of_lexBytes_eq_ok lexed
    have unbroken := lists.unbroken tokens lexed
    refine ⟨tokens, by rw [outcome, listFile_room lexed], ?_⟩
    rw [lexBytes_encode, lex_eq_ok_iff, reading_iff] at lexed
    obtain ⟨spelled, wellFormed, -⟩ := lexed
    exact ⟨congrArg Utf8.encode spelled,
      fun token mem => (wellFormed token mem).lineFeed_not_mem (unbroken token mem)⟩

/-- **Listings are faithful.** Two tokens have the same listing line exactly if they have the same
kind, the same lexeme and the same line, and two errors have the same message only if they are the
same. Two files that are listed in the same way have the same bytes, if no string in them goes over
the end of a line. -/
theorem listing_faithful :
    (∀ t u : Token, t.listing = u.listing ↔
      t.kind = u.kind ∧ t.lexeme = u.lexeme ∧ t.position.line = u.position.line) ∧
    (∀ e f : LexError, e.message = f.message ↔ e = f) ∧
    ∀ path host bytes path' host' bytes', Lists path host bytes → Lists path' host' bytes' →
      (run [path] host).stdout = (run [path'] host').stdout → bytes = bytes' := by
  refine ⟨fun t u => Token.listing_eq_iff, fun e f => ⟨LexError.message_injective, ?_⟩, ?_⟩
  · exact fun same => congrArg LexError.message same
  · intro path host bytes path' host' bytes' lists lists' same
    obtain ⟨tokens, listed, spelled, inside⟩ := lists.exists_tokens
    obtain ⟨tokens', listed', spelled', inside'⟩ := lists'.exists_tokens
    rw [listed, listed'] at same
    rw [spelled, spelled', printed_eq_of_listing_eq inside inside' same]

/-- A space and a tab are told apart, and so are strings that look like the end of a line. -/
theorem listing_faithful_tab :
    let host : Host := ⟨⟨[], none⟩, fun path =>
      if path = "tab" then some [0x78, 0x09] else some [0x78, 0x20], false⟩
    Lists "space" host [0x78, 0x20] ∧ Lists "copy" host [0x78, 0x20] ∧
      Lists "tab" host [0x78, 0x09] ∧
      (run ["space"] host).stdout = (run ["copy"] host).stdout ∧
      host.readFile? "space" = host.readFile? "copy" ∧
      (run ["space"] host).stdout ≠ (run ["tab"] host).stdout ∧
      (Token.mk .string "a, line: 1" ⟨1, 1⟩).listing ≠ (Token.mk .string "a" ⟨1, 1⟩).listing ∧
      (LexError.unexpectedCharacter '@' ⟨1, 12⟩).message ≠
        (LexError.unexpectedCharacter '@' ⟨11, 2⟩).message := by
  intro host
  have space : lexBytes [0x78, 0x20] =
      .ok [⟨.identifier, "x", ⟨1, 1⟩⟩, ⟨.whitespace, " ", ⟨1, 2⟩⟩] := by decide +kernel
  have tab : lexBytes [0x78, 0x09] =
      .ok [⟨.identifier, "x", ⟨1, 1⟩⟩, ⟨.whitespace, "\t", ⟨1, 2⟩⟩] := by decide +kernel
  have first : Lists "space" host [0x78, 0x20] := .of_lexBytes rfl rfl space (by decide)
  have second : Lists "copy" host [0x78, 0x20] := .of_lexBytes rfl rfl space (by decide)
  have third : Lists "tab" host [0x78, 0x09] := .of_lexBytes rfl rfl tab (by decide)
  obtain ⟨lines, messages, files⟩ := listing_faithful
  have bytes := files _ _ _ _ _ _ first second rfl
  refine ⟨first, second, third, rfl, congrArg some bytes, fun same => ?_, fun same => ?_,
    fun same => ?_⟩
  · exact absurd (files _ _ _ _ _ _ first third same) (by decide)
  · exact absurd ((lines _ _).1 same).2.1 (by decide)
  · exact absurd ((messages _ _).1 same) (by decide)

end CommandLine

end LoxLexer
