import Snippet.Json.Read
import Snippet.Json.Write
/-!
Messages of a chat, and the body of a request.

Members of the body stand in the order of their names.
-/

namespace Snippet.Chat

open Snippet.Text

/-- Who speaks. -/
inductive Role where
  | system
  | user
  deriving Repr, DecidableEq

/-- The name of a role. -/
def Role.name : Role → String
  | .system => "system"
  | .user => "user"

/-- The role of a name. -/
def Role.ofName? : String → Option Role
  | "system" => some .system
  | "user" => some .user
  | _ => none

/-- One message of a chat. -/
structure Message where
  role : Role
  content : String
  deriving Repr, DecidableEq

namespace Message

/-- A message as a JSON object. -/
def toJson (m : Message) : Json String :=
  .obj [("role", .str m.role.name), ("content", .str m.content)]

/-- The role that a value spells: its name, or an object with the name over nothing. -/
def role? : Json Points → Option Role
  | .str s => s.toString?.bind Role.ofName?
  | .obj [(name, .null)] => name.toString?.bind Role.ofName?
  | _ => none

/-- The message that a value spells: an object with one role and one content, whatever else is in it,
or an array of the two. -/
def ofJson? : Json Points → Option Message
  | .obj ms => do
    let role ← role? (← Json.sole? (Points.ofString "role") ms)
    let content ← (← (← Json.sole? (Points.ofString "content") ms).str?).toString?
    return ⟨role, content⟩
  | .arr [role, .str content] => do return ⟨← role? role, ← content.toString?⟩
  | _ => none

/-- The message that a text spells. -/
def read (text : String) : Option Message := (Json.pick text.toList).bind ofJson?

end Message

/-- How an answer is to be made. -/
structure Options where
  model : String
  temperature : Float
  topP : Float
  maxTokens : Nat

/-- The nearest number of single precision. -/
def single (x : Float) : Float := x.toFloat32.toFloat

/-- A number as a value; what no number can be written for is nothing. -/
def numberValue (x : Float) : Json String := if x.isFinite then .num (.float x) else .null

/-- The body of a request. -/
def Options.body (o : Options) (messages : List Message) : Json String :=
  .obj [("max_tokens", .ofNat o.maxTokens),
    ("messages", .arr (messages.map fun m =>
      .obj [("content", .str m.content), ("role", .str m.role.name)])),
    ("model", .str o.model), ("stream", .bool true),
    ("temperature", numberValue (single o.temperature)), ("top_p", numberValue (single o.topP))]

end Snippet.Chat
