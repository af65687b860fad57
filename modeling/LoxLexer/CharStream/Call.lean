import LoxLexer.CharStream.Basic

/-!
# Calls on a character stream

The operations of a stream as data. `observe` makes calls in order and notes after each of them what
it gave and what the stream then shows of itself; `performed` is the stream after calls.
-/

namespace LoxLexer

namespace CharStream

/-- An operation of a stream. -/
inductive Call where
  | next
  | peek
  | peekSecond
  | nextIf (expected : Char)
  | skipWhile (test : Char → Bool)
  /-- No operation: the stream only shows itself. -/
  | look

/-- What an operation gives. -/
inductive Answer where
  | char (c : Option Char)
  | flag (value : Bool)
  | unit
deriving DecidableEq

/-- What an operation gave and what the stream showed of itself after it. -/
structure Observation where
  answer : Answer
  consumed : Nat
  atEnd : Bool
  position : Position
deriving DecidableEq

/-- Makes a call. -/
def answer (stream : CharStream) : Call → Answer × CharStream
  | .next => (.char (stream.next?.map Prod.fst), stream.skip)
  | .peek => let (c, stream) := stream.peek?; (.char c, stream)
  | .peekSecond => let (c, stream) := stream.peekSecond?; (.char c, stream)
  | .nextIf expected => let (met, stream) := stream.nextIf expected; (.flag met, stream)
  | .skipWhile test => (.unit, stream.skipWhile test)
  | .look => (.unit, stream)

/-- The stream after the calls, made in order. -/
def performed (stream : CharStream) (calls : List Call) : CharStream :=
  calls.foldl (fun stream call => (stream.answer call).2) stream

/-- Makes the calls in order and notes what is seen after each. -/
def observe (stream : CharStream) : List Call → List Observation
  | [] => []
  | call :: calls =>
    let (answer, stream) := stream.answer call
    ⟨answer, stream.consumed, stream.atEnd, stream.position⟩ :: stream.observe calls

end CharStream

end LoxLexer
