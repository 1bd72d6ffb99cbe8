import Snippet.Guest.Show
import Snippet.Json.Write
import Snippet.Json.Read
/-!
What a worker writes to its host and what it reads, one JSON text a line.

A worker writes in pure ASCII, whatever a program has put out. It reads any JSON value and takes the
members that it needs by their names.
-/

namespace Snippet.Guest

open Snippet.Text

/-- A message of the host, and any value in it. -/
abbrev Message := Json Points

/-- What a worker says. A request is named by whatever value its sender chose. -/
inductive Notice where
  | ready (version : Points)
  /-- a program asks for a line of input -/
  | input (id : Message) (prompt : Points)
  /-- a program has come to its end -/
  | done (id : Message) (output : Points)
  /-- a program has failed -/
  | error (id : Message) (output message trace : Points)
  deriving Repr

namespace Notice

/-- A text of the worker itself as a value. -/
def word (s : String) : Message := .str (pts s)

/-- The notice as a JSON value. -/
def toJson : Notice → Message
  | .ready version => .obj [(pts "type", word "ready"), (pts "version", .str version)]
  | .input id prompt =>
    .obj [(pts "type", word "input"), (pts "id", id), (pts "prompt", .str prompt)]
  | .done id output => .obj [(pts "type", word "done"), (pts "id", id), (pts "output", .str output)]
  | .error id output message trace =>
    .obj [(pts "type", word "error"), (pts "id", id), (pts "output", .str output),
      (pts "message", .str message), (pts "trace", .str trace)]

/-- Doubles in notices. -/
def notedFloat : Decimal.Layout := { floatLayout with nan := "NaN", infinity := "Infinity" }

/-- The style of notices: pure ASCII, with a space after each comma and colon. -/
def style : Json.Style Points where
  quote := Json.quotePoints
  comma := [',', ' ']
  colon := [':', ' ']
  float := notedFloat.write

/-- The notice as a line. -/
def line (n : Notice) : String := String.ofList (Json.write style n.toJson)

end Notice

namespace Message

/-- How deep a message may nest before the worker runs out of stack. -/
def nesting : Nat := 994

/-- How the worker reads: whole numbers of any size are kept, and numbers need not be finite. -/
def dialect : Json.Dialect := ⟨nesting, true, true⟩

/-- The message that a line is. -/
def ofLine? (line : String) : Option Message := Json.read dialect line

/-- A member of an object, or what stands in for it. -/
def member (members : List (Points × Message)) (x : String) (fallback : Message) : Message :=
  ((members.reverse.find? fun m => m.1 == pts x).map (·.2)).getD fallback

/-- Is the value this word? -/
def isWord (x : String) : Message → Bool
  | .str p => p == pts x
  | _ => false

/-- The whole number that a value is. -/
def int? : Message → Option Int
  | .bool b => some (if b then 1 else 0)
  | .num (.int n) => some n
  | _ => none

/-- The double that a value is or stands for. -/
def float? : Message → Option Float
  | .bool b => some (if b then 1.0 else 0.0)
  | .num (.int n) => some (Decimal.ofInt n)
  | .num (.float x) => some x
  | _ => none

mutual

/-- Do two values mean the same? Truth values count as the numbers 0 and 1. -/
def same : Message → Message → Bool
  | .null, .null => true
  | .str p, .str q => p == q
  | .arr xs, .arr ys => sameItems xs ys
  | .obj ms, .obj ns => ms.length == ns.length && sameMembers ms ns
  | a, b =>
    match int? a, int? b with
    | some m, some n => m == n
    | _, _ =>
      match float? a, float? b with
      | some x, some y => x == y
      | _, _ => false

/-- Do the items of two lists mean the same, one by one? -/
def sameItems : List Message → List Message → Bool
  | [], [] => true
  | x :: xs, y :: ys => same x y && sameItems xs ys
  | _, _ => false

/-- Does every member have its like? -/
def sameMembers : List (Points × Message) → List (Points × Message) → Bool
  | [], _ => true
  | (k, v) :: rest, ns =>
    (match ns.find? fun n => n.1 == k with
      | some (_, w) => same v w
      | none => false) && sameMembers rest ns

end

/-- A text inside quotes, unless it stands by itself. -/
def textIn (nested : Bool) (p : Points) : Points := if nested then quotedText p else p

mutual

/-- The text of a value when it is put into a text, or inside another value. -/
def spoken (nested : Bool) : Message → Points
  | .null => pts "None"
  | .bool b => pts (if b then "True" else "False")
  | .num (.int n) => pts (Decimal.intText n)
  | .num (.float x) => pts (floatLayout.write x)
  | .str p => textIn nested p
  | .arr xs => pts "[" ++ commaJoined (spokenItems xs) ++ pts "]"
  | .obj ms => pts "\x7b" ++ commaJoined (spokenMembers ms) ++ pts "\x7d"

/-- The texts of items. -/
def spokenItems : List Message → List Points
  | [] => []
  | x :: rest => spoken true x :: spokenItems rest

/-- The texts of members. -/
def spokenMembers : List (Points × Message) → List Points
  | [] => []
  | (k, v) :: rest => (quotedText k ++ pts ": " ++ spoken true v) :: spokenMembers rest

end

end Message

end Snippet.Guest
