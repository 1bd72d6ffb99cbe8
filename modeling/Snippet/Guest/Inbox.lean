import Snippet.Text.Utf8
import Snippet.Wire.Frame
/-!
What a worker reads from its pipe: bytes, as text, line by line.

The bytes are UTF-8. A newline ends a line, and so does a carriage return, alone or with a newline behind
it; whichever it was, the line that is handed over ends in a newline. A carriage return is not taken for
the end of a line before it is known what follows it.
-/

namespace Snippet.Wire

open Snippet.Text

/-- The bytes of a frame on the pipe. -/
def HostFrame.bytes (f : HostFrame) : List UInt8 := Utf8.encode (f.line ++ "\n")

end Snippet.Wire

namespace Snippet.Guest

open Snippet.Text

/-- A reader of lines between two bytes. -/
structure Inbox where
  /-- where the reader of characters stands -/
  decoder : Utf8.State
  /-- a carriage return has been read, and what follows it has not -/
  returned : Bool
  /-- what has been read of the line at hand -/
  line : List Char
  deriving Repr, DecidableEq

namespace Inbox

/-- A reader that stands between two lines. -/
def fresh : Inbox := ⟨.start, false, []⟩

/-- The end of the line at hand. -/
def finishLine (r : Inbox) : Inbox × List String :=
  ({ r with returned := false, line := [] }, [String.ofList (r.line ++ ['\n'])])

/-- A character behind none that is still in doubt: the reader after it, and the lines it has ended. -/
def put (r : Inbox) (c : Char) : Inbox × List String :=
  if c = '\n' then r.finishLine
  else if c = '\r' then ({ r with returned := true }, [])
  else ({ r with line := r.line ++ [c] }, [])

/-- A character: the reader after it, and the lines it has ended. -/
def take (r : Inbox) (c : Char) : Inbox × List String :=
  if r.returned then
    let (r, lines) := r.finishLine
    if c = '\n' then (r, lines)
    else
      let (r, more) := r.put c
      (r, lines ++ more)
  else r.put c

/-- Pieces of text one after another; none if a sequence of bytes is not UTF-8. -/
def takeAll (r : Inbox) : List Utf8.Piece → Option (Inbox × List String)
  | [] => some (r, [])
  | none :: _ => none
  | some c :: rest =>
    let (r, lines) := r.take c
    (takeAll r rest).map fun (r, more) => (r, lines ++ more)

/-- Bytes one after another: the reader after them and the lines they have ended; none if they are not
UTF-8. -/
def read (r : Inbox) : List UInt8 → Option (Inbox × List String)
  | [] => some (r, [])
  | b :: rest =>
    let (decoder, pieces) := Utf8.step r.decoder b
    match takeAll { r with decoder } pieces with
    | none => none
    | some (r, lines) => (read r rest).map fun (r, more) => (r, lines ++ more)

end Inbox

end Snippet.Guest
