import Snippet.Json.Read
import Snippet.Json.Write
import Snippet.Text.Lines
import Snippet.Text.Utf8
import Snippet.Text.Printable
/-!
The frames that a host and an interpreter exchange, one JSON text a line.

The host writes `HostFrame`s and reads `DriverFrame`s. A line that is no frame says nothing.
-/

namespace Snippet.Wire

open Snippet.Text

/-- What the host says. -/
inductive HostFrame where
  /-- asks for a source to be run -/
  | exec (id : Nat) (code : String)
  /-- answers a question for input; without a value there is no more input -/
  | inputReply (id : Nat) (value : Option String)
  deriving Repr, DecidableEq

namespace HostFrame

/-- The frame as a JSON value. -/
def toJson : HostFrame → Json String
  | .exec id code => .obj [("type", .str "exec"), ("id", .ofNat id), ("code", .str code)]
  | .inputReply id value =>
    .obj [("type", .str "input_reply"), ("id", .ofNat id), ("value", (value.map .str).getD .null)]

/-- The frame as a line. -/
def line (f : HostFrame) : String := Json.compact f.toJson

end HostFrame

/-- What the interpreter says. -/
inductive DriverFrame where
  /-- it takes requests now -/
  | ready (version : String)
  /-- a source asks for a line of input -/
  | input (id : Nat) (prompt : String)
  /-- a source has come to its end -/
  | done (id : Nat) (output : String)
  /-- a source has failed -/
  | error (id : Nat) (output message trace : String)
  deriving Repr, DecidableEq

namespace DriverFrame

/-- The text that a value is. -/
def text? : Json String → Option String
  | .str s => some s
  | _ => none

/-- The number of a request that a value is. -/
def id? : Json String → Option Nat
  | .num (.int n) => if 0 ≤ n ∧ n < 18446744073709551616 then some n.toNat else none
  | _ => none

/-- The frame of a kind with its fields in order. -/
def ofFields? (kind : String) (fields : List (Json String)) : Option DriverFrame :=
  match kind, fields with
  | "ready", [version] => (text? version).map .ready
  | "input", [id, prompt] => return .input (← id? id) (← text? prompt)
  | "done", [id, output] => return .done (← id? id) (← text? output)
  | "error", [id, output, message, trace] =>
    return .error (← id? id) (← text? output) (← text? message) (← text? trace)
  | _, _ => none

/-- The names of the fields of a kind. -/
def fieldNames : String → List String
  | "ready" => ["version"]
  | "input" => ["id", "prompt"]
  | "done" => ["id", "output"]
  | "error" => ["id", "output", "message", "trace"]
  | _ => []

/-- The frame that a value is: an object with the kind and every field once, or a list of the kind and
the fields. Other members of an object do not matter. -/
def ofJson? : Json String → Option DriverFrame
  | .obj members => do
    let kind ← text? (← Json.sole? "type" members)
    ofFields? kind (← (fieldNames kind).mapM fun name => Json.sole? name members)
  | .arr (kind :: fields) => do ofFields? (← text? kind) fields
  | _ => none

/-- The frame that a line is; blanks around it do not matter. -/
def ofLine? (line : String) : Option DriverFrame := (Json.readText (trim line)).bind ofJson?

/-- A frame as it is shown to somebody who looks into it. -/
def inspected : DriverFrame → String
  | .ready version => "Ready \x7b version: " ++ Text.inspected version ++ " \x7d"
  | .input id prompt =>
    "Input \x7b id: " ++ toString id ++ ", prompt: " ++ Text.inspected prompt ++ " \x7d"
  | .done id output =>
    "Done \x7b id: " ++ toString id ++ ", output: " ++ Text.inspected output ++ " \x7d"
  | .error id output message trace =>
    "Error \x7b id: " ++ toString id ++ ", output: " ++ Text.inspected output ++ ", message: " ++
      Text.inspected message ++ ", trace: " ++ Text.inspected trace ++ " \x7d"

end DriverFrame

/-- What reading from the interpreter can come to. -/
inductive Arrival where
  /-- a line, without its end -/
  | line (text : String)
  /-- there will be no more -/
  | ended
  /-- the reading failed -/
  | failed (reason : String)
  /-- nothing comes -/
  | silent
  deriving Repr, DecidableEq

/-- What the bytes of a line, with its end, come to. -/
def Arrival.ofBytes (bytes : List UInt8) : Arrival :=
  match Utf8.fault? bytes with
  | some fault => .failed fault.message
  | none =>
    let chars := Utf8.decodeLossy bytes
    .line (String.ofList (if chars.getLast? = some '\n' then dropReturn chars.dropLast else chars))

end Snippet.Wire
