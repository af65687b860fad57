import LoxLexer.Proofs.Reading
import Mathlib.Data.List.TakeWhile

/-!
# The log of a run

A run reports what it does while it does it, and its log keeps what the level admits. This module
shows that the reports are a matter of the tokens alone: the level takes some of them away and
changes nothing else, least of all the result.

* `Log.toList_foldl_report`: a level leaves of some reports those that it admits, in their order.
* `Lexer.run_log`: a run reports its legal tokens one by one, and in the end how it has ended.
* `lexLogged_log`: the whole log at a level, as a part of `reports`.
* `balanced_span`: a run is left as often as it is entered.
* `lexLogged_observes`: the result and the log at every level.
-/

namespace LoxLexer

namespace Log

/-! ## Levels -/

/-- Whether a level admits an entry. -/
def Level.admits (level : Level) (entry : Entry) : Bool :=
  entry.level.rank ≤ level.rank

@[simp] theorem level_report (log : Log) (entry : Entry) :
    (log.report entry).level = log.level := by
  unfold report
  split <;> rfl

theorem toList_report (log : Log) (entry : Entry) :
    (log.report entry).toList = log.toList ++ [entry].filter log.level.admits := by
  by_cases admitted : entry.level.rank ≤ log.level.rank <;>
    simp [report, toList, Level.admits, admitted]

/-- Reports stay in their order, and those that the level does not admit are gone. -/
theorem toList_foldl_report (log : Log) (entries : List Entry) :
    (entries.foldl report log).toList = log.toList ++ entries.filter log.level.admits := by
  induction entries generalizing log with
  | nil => simp
  | cons entry entries ih =>
    rw [List.foldl_cons, ih, toList_report, level_report, List.append_assoc, ← List.filter_append,
      List.singleton_append]

theorem Level.admits_trace (entry : Entry) : Level.trace.admits entry = true := by
  cases entry <;> rfl

/-- Whether an entry is about a token that is appended to the result. -/
def Entry.isToken : Entry → Bool
  | token _ => true
  | _ => false

theorem Level.admits_debug (entry : Entry) : Level.debug.admits entry = !entry.isToken := by
  cases entry <;> rfl

/-- Below the level of debugging nothing is admitted. -/
theorem Level.filter_admits_of_lt {level : Level} (low : level.rank < Level.debug.rank)
    (entries : List Entry) : entries.filter level.admits = [] := by
  rw [List.filter_eq_nil_iff]
  intro entry _
  have least : Level.debug.rank ≤ entry.level.rank := by
    cases entry <;> simp [Entry.level, Level.rank]
  simp only [admits, decide_eq_true_eq]
  omega

/-! ## Entering and leaving -/

/-- A run is left only behind where it is entered, and in the end none is running. -/
structure Balanced (entries : List Entry) : Prop where
  behind : ∀ front, front <+: entries → front.count .exited ≤ front.count .entered
  settled : entries.count .exited = entries.count .entered

theorem balanced_nil : Balanced [] where
  behind := by
    intro front begins
    rw [List.prefix_nil.1 begins]
    exact Nat.le_refl 0
  settled := rfl

/-- One run, with nothing between its two ends that enters or leaves. -/
theorem balanced_span {inner : List Entry} (length : Nat) (enters : .entered ∉ inner)
    (leaves : .exited ∉ inner) : Balanced (.opened length :: .entered :: inner ++ [.exited]) where
  behind := by
    intro front begins
    rcases List.prefix_cons_iff.1 begins with rfl | ⟨front, rfl, begins'⟩
    · exact Nat.le_refl 0
    rcases List.prefix_cons_iff.1 begins' with rfl | ⟨front, rfl, begins''⟩
    · exact Nat.le_refl 0
    have left : front.count .exited ≤ (inner ++ [Entry.exited]).count .exited :=
      begins''.sublist.count_le _
    simp only [List.count_append, List.count_eq_zero_of_not_mem leaves, List.count_singleton_self]
      at left
    simp only [List.count_cons, reduceCtorEq, beq_iff_eq, if_true, if_false]
    omega
  settled := by
    simp [List.count_eq_zero_of_not_mem enters, List.count_eq_zero_of_not_mem leaves]

end Log

open Log (Level Entry)

/-! ## What a run reports -/

/-- Where a source is refused. Bytes that are no text are refused before any text is read. -/
def LexError.position? : LexError → Option Position
  | unexpectedCharacter _ position | unterminatedString position => some position
  | invalidEncoding _ => none

theorem LexError.position?_ofIllegal (token : Token) :
    (ofIllegal token).position? = some token.position := by
  unfold ofIllegal
  split <;> rfl

/-- The tokens in front of the first illegal one. -/
def legalTokens (tokens : List Token) : List Token :=
  tokens.takeWhile (·.kind ≠ .illegal)

/-- How a run ends that finds these tokens behind so many others. -/
def closingReport (count : Nat) (tokens : List Token) : Entry :=
  match tokens.find? (·.kind = .illegal) with
  | some token => .illegalToken token.position (LexError.ofIllegal token).message
  | none => .scanned (count + tokens.length)

/-- What a run reports of the tokens that it finds behind so many others. -/
def reports (count : Nat) (tokens : List Token) : List Entry :=
  (legalTokens tokens).map (fun token => .token token.listing) ++ [closingReport count tokens]

theorem reports_of_illegal {token : Token} (illegal : token.kind = .illegal) (count : Nat)
    (tokens : List Token) :
    reports count (token :: tokens) =
      [.illegalToken token.position (LexError.ofIllegal token).message] := by
  simp [reports, legalTokens, closingReport, illegal]

theorem reports_of_legal {token : Token} (legal : token.kind ≠ .illegal) (count : Nat)
    (tokens : List Token) :
    reports count (token :: tokens) = .token token.listing :: reports (count + 1) tokens := by
  simp [reports, legalTokens, closingReport, legal, Nat.add_right_comm, Nat.add_assoc]

/-- A run reports its tokens as it draws them. -/
theorem Lexer.run_log (lexer : Lexer) (drawn : List Token) (log : Log) :
    (lexer.run drawn log).2 = (reports drawn.length lexer.rest.1).foldl Log.report log := by
  fun_induction Lexer.run lexer drawn log with
  | case1 lexer drawn log token rest next illegal =>
    rw [Lexer.rest_of_some next, reports_of_illegal illegal]
    rfl
  | case2 lexer drawn log token rest next legal ih =>
    rw [ih, Lexer.rest_of_some next, reports_of_legal legal, List.length_cons, List.foldl_cons]
  | case3 lexer drawn log rest next =>
    rw [Lexer.rest_of_none next]
    rfl

theorem lexLogged_result (level : Level) (source : String) :
    (lexLogged level source).1 = lex source := by
  rw [lex_eq]
  exact (Lexer.ofString source).run_eq [] _

/-- All that a run over a whole source reports. -/
def allReports (source : String) : List Entry :=
  .opened source.utf8ByteSize :: .entered :: reports 0 (Lexer.ofString source).rest.1 ++ [.exited]

/-- The log of a whole run has what the level admits of its reports. -/
theorem lexLogged_log (level : Level) (source : String) :
    (lexLogged level source).2 = (allReports source).filter level.admits := by
  have log : (lexLogged level source).2 =
      ((allReports source).foldl Log.report (Log.atLevel level)).toList := by
    simp only [lexLogged, Lexer.run_log, allReports, List.cons_append, List.foldl_cons,
      List.foldl_append, List.foldl_nil, List.length_nil]
  rw [log, Log.toList_foldl_report]
  rfl

/-- Between its two ends, a run is neither entered nor left. -/
theorem ne_of_mem_reports {count : Nat} {tokens : List Token} {entry : Entry}
    (mem : entry ∈ reports count tokens) : entry ≠ .entered ∧ entry ≠ .exited := by
  rcases List.mem_append.1 mem with inside | last
  · obtain ⟨token, -, rfl⟩ := List.mem_map.1 inside
    exact ⟨nofun, nofun⟩
  · obtain rfl := List.mem_singleton.1 last
    unfold closingReport
    split <;> exact ⟨nofun, nofun⟩

theorem balanced_lexLogged (level : Level) (source : String) :
    Log.Balanced (lexLogged level source).2 := by
  rw [lexLogged_log]
  by_cases low : level.rank < Level.debug.rank
  · rw [Level.filter_admits_of_lt low]
    exact Log.balanced_nil
  · have admitted : ∀ entry : Entry, entry.level = .debug → level.admits entry = true := by
      intro entry same
      rw [Level.admits, same]
      exact decide_eq_true (Nat.le_of_not_lt low)
    rw [allReports, List.cons_append, List.cons_append, List.filter_cons_of_pos (admitted _ rfl),
      List.filter_cons_of_pos (admitted _ rfl), List.filter_append,
      List.filter_cons_of_pos (admitted .exited rfl), List.filter_nil]
    apply Log.balanced_span
    · exact fun enters => (ne_of_mem_reports (List.mem_filter.1 enters).1).1 rfl
    · exact fun leaves => (ne_of_mem_reports (List.mem_filter.1 leaves).1).2 rfl

/-- The closing report tells what the run gives. -/
theorem closingReport_of_ok {source : String} {tokens : List Token}
    (lexed : lex source = .ok tokens) :
    closingReport 0 (Lexer.ofString source).rest.1 =
      .scanned (legalTokens (Lexer.ofString source).rest.1).length := by
  obtain ⟨reading, legal⟩ := lex_eq_ok_iff.1 lexed
  rw [reading_iff_rest.1 reading]
  have none : tokens.find? (·.kind = .illegal) = none :=
    List.find?_eq_none.2 fun token mem => by simpa using legal token mem
  have all : legalTokens tokens = tokens :=
    List.takeWhile_eq_self_iff.2 fun token mem => by simpa using legal token mem
  rw [closingReport, none, all, Nat.zero_add]

theorem closingReport_of_error {source : String} {error : LexError}
    (refused : lex source = .error error) :
    ∃ position, error.position? = some position ∧
      closingReport 0 (Lexer.ofString source).rest.1 = .illegalToken position error.message := by
  rw [lex_eq] at refused
  cases found : (Lexer.ofString source).rest.1.find? (·.kind = .illegal) with
  | none =>
    rw [found] at refused
    cases refused
  | some token =>
    rw [found] at refused
    cases refused
    refine ⟨token.position, LexError.position?_ofIllegal token, ?_⟩
    rw [closingReport, found]

/-- **The log observes a run and has no part in it.** The result is the same at every level. With
all entries admitted, the log tells the length of the source and that the run is entered, then each
token in front of the first illegal one, or each token at all, then once how the run ends, and that
it is left. A run that gives tokens ends with their number, and one that gives an error with its
position and message. One level less takes the tokens away and nothing else, and any other level
everything. So at every level the run is left as often as it is entered. -/
theorem lexLogged_observes (source : String) :
    (∀ level, (lexLogged level source).1 = lex source) ∧
    (∃ last, (lexLogged .trace source).2 =
        .opened source.utf8ByteSize :: .entered ::
          (legalTokens (Lexer.ofString source).rest.1).map (fun token => .token token.listing) ++
            [last, .exited] ∧
      (∀ tokens, lex source = .ok tokens →
        last = .scanned (legalTokens (Lexer.ofString source).rest.1).length) ∧
      ∀ error, lex source = .error error →
        ∃ position, error.position? = some position ∧
          last = .illegalToken position error.message) ∧
    (lexLogged .debug source).2 = (lexLogged .trace source).2.filter (!·.isToken) ∧
    (∀ level ∈ [Level.off, .error, .warn, .info], (lexLogged level source).2 = []) ∧
    ∀ level, Log.Balanced (lexLogged level source).2 := by
  have all : (lexLogged .trace source).2 = allReports source := by
    rw [lexLogged_log, List.filter_eq_self]
    exact fun entry _ => Level.admits_trace entry
  refine ⟨fun level => lexLogged_result level source, ?_, ?_, ?_,
    fun level => balanced_lexLogged level source⟩
  · refine ⟨closingReport 0 (Lexer.ofString source).rest.1, ?_, fun _ => closingReport_of_ok,
      fun _ => closingReport_of_error⟩
    rw [all, allReports, reports, List.cons_append, List.cons_append, List.append_assoc]
    rfl
  · rw [all, lexLogged_log]
    exact List.filter_congr fun entry _ => Level.admits_debug entry
  · intro level mem
    rw [lexLogged_log]
    apply Level.filter_admits_of_lt
    revert level
    decide

/-- A stray character behind two tokens and in front of a third, and a source without one. -/
theorem lexLogged_observes_stray :
    (lex "x @;" = .error (.unexpectedCharacter '@' ⟨1, 3⟩) ∧
      (lexLogged .trace "x @;").2 =
        [.opened 4, .entered, .token "Token(identifier, content: x, line: 1)",
          .token "Token(whitespace, content:  , line: 1)",
          .illegalToken ⟨1, 3⟩ "[line 1:3] Error: Unexpected character '@'.", .exited] ∧
      (lexLogged .info "x @;").2 = []) ∧
      lex "é" = .ok [⟨.identifier, "é", ⟨1, 1⟩⟩] ∧
      (lexLogged .trace "é").2 = [.opened 2, .entered,
        .token "Token(identifier, content: é, line: 1)", .scanned 1, .exited] := by
  have refused : lex "x @;" = .error (.unexpectedCharacter '@' ⟨1, 3⟩) := by decide +kernel
  have lexed : lex "é" = .ok [⟨.identifier, "é", ⟨1, 1⟩⟩] := by decide +kernel
  obtain ⟨-, ⟨last, log, -, errors⟩, -, low, -⟩ := lexLogged_observes "x @;"
  obtain ⟨-, ⟨last', log', counts, -⟩, -⟩ := lexLogged_observes "é"
  obtain ⟨position, place, rfl⟩ := errors _ refused
  obtain rfl : ⟨1, 3⟩ = position := Option.some.inj place
  refine ⟨⟨refused, ?_, low .info (by decide)⟩, lexed, ?_⟩
  · rw [log]
    decide +kernel
  · rw [log', counts _ lexed]
    decide +kernel

end LoxLexer
