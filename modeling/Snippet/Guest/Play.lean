import Snippet.Json.Basic
/-!
What a guest program does to its surroundings, as a tree.

A program can do two things that are seen outside: put text into the captured output, until that is cut off,
and ask for input in one of a few ways. It can also look at what it has put into the output. Between those it
computes.
-/

namespace Snippet.Guest

open Snippet.Text

/-- The echo of a line that has been asked for under a prompt. -/
def echoOf (prompt line : Points) : Points := Points.ofString "📥 " ++ prompt ++ line ++ [10]

/-- A question for input. -/
inductive Question where
  /-- one line under a prompt, by an asker that puts out itself what it makes of the answer -/
  | input (prompt : Points)
  /-- one line with its end; once there is no more, nothing is asked any more -/
  | line
  /-- the same, by an asker that has nowhere to put the line -/
  | silent
  /-- all lines up to the end -/
  | all
  deriving Repr, DecidableEq

/-- What a question leads to. -/
inductive Answer where
  | text (p : Points)
  /-- the value of an answer that is no text -/
  | value (v : Json Points)
  /-- a message that is no object came instead of an answer -/
  | misread (v : Json Points)
  /-- a line that is no message came instead of an answer -/
  | garbled
  /-- there is nobody left to ask -/
  | closed
  deriving Repr

/-- What a program does until it is done. -/
inductive Play (α : Type) where
  | done (a : α)
  /-- puts a text into the output and goes on -/
  | write (p : Points) (next : Unit → Play α)
  /-- the output is cut off: what is put into it from here on is lost -/
  | cut (next : Unit → Play α)
  /-- looks at what has been put into the output, before it was cut off and since -/
  | lookBack (next : Points → Play α)
  /-- asks and goes on with the answer -/
  | ask (q : Question) (next : Answer → Play α)

namespace Play

variable {α β : Type}

/-- One play after another. -/
def bind : Play α → (α → Play β) → Play β
  | .done a, f => f a
  | .write p next, f => .write p fun u => (next u).bind f
  | .cut next, f => .cut fun u => (next u).bind f
  | .lookBack next, f => .lookBack fun p => (next p).bind f
  | .ask q next, f => .ask q fun a => (next a).bind f

end Play

/-- A failure in words: the name of its kind, its text, and the lines that end its trace. -/
structure Raised where
  kind : Points
  text : Points
  trace : Points
  deriving Repr, DecidableEq

/-- How a program can end. -/
inductive Fate where
  /-- it came to its end, or asked to end without a complaint -/
  | finished
  /-- an exception was not caught -/
  | raised (r : Raised)
  /-- it took the whole interpreter with it, at its own wish or with an exception that could not be told -/
  | killed (code : Nat)
  /-- nothing is said of its end: a bound on the work was reached, or it goes beyond the language that is
  modelled -/
  | unknown
  deriving Repr, DecidableEq

end Snippet.Guest
