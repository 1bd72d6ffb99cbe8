import Snippet.Json.Read
import Snippet.Text.Utf8
import Snippet.Text.Lines
import Snippet.Text.Search
/-!
The events of a streamed answer.

The body comes in chunks. Each chunk is decoded on its own and cut into lines together with what was
left of the one before; a line ends at a newline, so what stands after the last one is never read.
A data line carries pieces of content, or says that the answer is complete. `events` ends with exactly
one event that is not content.
-/

namespace Snippet.Chat

open Snippet.Text

/-- What a line of the stream says. -/
inductive Line where
  /-- pieces of content, in order -/
  | content (pieces : List String)
  /-- the answer is complete -/
  | complete
  deriving Repr, DecidableEq

/-- A member that may be missing or null; none if it occurs twice or does not read. -/
def optional? {α : Type} (name : String) (read : Json Points → Option α)
    (ms : List (Points × Json Points)) : Option (Option α) :=
  match ms.filter fun m => m.1 == Points.ofString name with
  | [] => some none
  | [(_, .null)] => some none
  | [(_, v)] => (read v).map some
  | _ => none

/-- A value that may be null. -/
def nullable? {α : Type} (read : Json Points → Option α) : Json Points → Option (Option α)
  | .null => some none
  | v => (read v).map some

/-- Are all names of an object text? -/
def namesAreText (ms : List (Points × Json Points)) : Bool :=
  ms.all fun m => m.1.toString?.isSome

/-- The text that a value is. -/
def text? : Json Points → Option String
  | .str s => s.toString?
  | _ => none

/-- The content of the change that a value describes. -/
def delta? : Json Points → Option (Option String)
  | .obj ms => if namesAreText ms then optional? "content" text? ms else none
  | .arr [v] => nullable? text? v
  | _ => none

/-- The content of the choice that a value describes. -/
def choice? : Json Points → Option (Option String)
  | .obj ms => if namesAreText ms then (optional? "delta" delta? ms).map Option.join else none
  | .arr [v] => (nullable? delta? v).map Option.join
  | _ => none

/-- The pieces of content in the choices that a value lists. Empty ones are left out. -/
def choices? (v : Json Points) : Option (List String) := do
  let contents ← (← v.items?).mapM choice?
  return (contents.filterMap id).filter fun t => !t.isEmpty

/-- The pieces of content in the payload that a value is. -/
def pieces? : Json Points → Option (List String)
  | .obj ms =>
    if namesAreText ms then (Json.sole? (Points.ofString "choices") ms).bind choices? else none
  | .arr [v] => choices? v
  | _ => none

/-- What a line says; nothing if it is no data line or its payload is malformed. -/
def Line.read (line : List Char) : Option Line := do
  let payload := trimChars (← after? "data:".toList (trimChars line))
  if payload = "[DONE]".toList then return .complete
  let pieces ← pieces? (← Json.pick payload)
  return .content pieces

/-- The pieces of content in lines, up to the line that completes the answer; and whether there is
such a line. -/
def contents : List (List Char) → List String × Bool
  | [] => ([], false)
  | line :: rest =>
    match Line.read line with
    | some .complete => ([], true)
    | some (.content pieces) => (pieces ++ (contents rest).1, (contents rest).2)
    | none => contents rest

/-- What the reader of a stream is told. -/
inductive Event where
  | content (text : String)
  | done
  | failed (reason : String)
  deriving Repr, DecidableEq

/-- What is said when a body breaks off. -/
def brokenOff : String := "stream error"

/-- The events of a body, given what is left of its last line so far. The body ends cleanly or breaks
off after the last chunk. -/
def eventsFrom (left : List Char) (clean : Bool) : List (List UInt8) → List Event
  | [] => [if clean then .done else .failed brokenOff]
  | chunk :: rest =>
    let (lines, left) := terminated '\n' (left ++ Utf8.decodeLossy chunk)
    let (pieces, complete) := contents lines
    pieces.map .content ++ if complete then [.done] else eventsFrom left clean rest

/-- The events of a body that comes in chunks. -/
def events (clean : Bool) (chunks : List (List UInt8)) : List Event := eventsFrom [] clean chunks

/-- The whole text of an answer, or why it could not be had. -/
def Event.collect : List Event → Except String String
  | [] => .ok ""
  | .content t :: rest => (collect rest).map (t ++ ·)
  | .done :: _ => .ok ""
  | .failed reason :: _ => .error reason

end Snippet.Chat
