import LoxLexer.Position

/-!
# The log of a run

A run of the lexer reports what it does to a log that collects the entries up to a level: the later
a level is in the list, the more it admits. Whether an entry is kept is decided when it is reported.
-/

namespace LoxLexer

namespace Log

/-- How much a log admits. -/
inductive Level where
  | off | error | warn | info | debug | trace
deriving DecidableEq

/-- The place of a level in the order from nothing to everything. -/
def Level.rank : Level → Nat
  | off => 0
  | error => 1
  | warn => 2
  | info => 3
  | debug => 4
  | trace => 5

/-- What a run reports. -/
inductive Entry where
  /-- A run is set up over a source of so many bytes. -/
  | opened (length : Nat)
  /-- The run starts. -/
  | entered
  /-- A token is appended to the result; the entry has its listing line. -/
  | token (listing : String)
  /-- The run meets an illegal token and gives the error with this message. -/
  | illegalToken (position : Position) (message : String)
  /-- The run has reached the end of the source with so many tokens. -/
  | scanned (count : Nat)
  /-- The run is left. -/
  | exited
deriving DecidableEq

/-- The least level that admits an entry. -/
def Entry.level : Entry → Level
  | token _ => .trace
  | _ => .debug

end Log

/-- The entries that a level has admitted, the last one first. -/
structure Log where
  level : Log.Level
  entries : List Log.Entry

namespace Log

/-- The log of a level before any entry. -/
def atLevel (level : Level) : Log :=
  ⟨level, []⟩

/-- Reports an entry, which stays if the level admits it. -/
def report (log : Log) (entry : Entry) : Log :=
  if entry.level.rank ≤ log.level.rank then { log with entries := entry :: log.entries } else log

/-- The entries in the order in which they were reported. -/
def toList (log : Log) : List Entry :=
  log.entries.reverse

end Log

end LoxLexer
