import Snippet.Chat.Endpoint
import Snippet.Chat.Message
import Snippet.Chat.Stream
import Snippet.Settings
/-!
The chat client: what it sends, and what it makes of the answer.

A `Response` is what a server would do; `Client.stream` answers with the events of a request together
with the request itself, if one was sent. `Client.complete` collects the text, `Client.insight` asks
for a review and insists on a key.
-/

namespace Snippet.Chat

open Snippet.Text

/-- A client of a chat service. -/
structure Client where
  /-- the base address, with its version segment -/
  base : String
  /-- the key that authorizes requests; never empty -/
  key : Option String
  deriving Repr, DecidableEq

/-- The client that settings describe. -/
def Client.ofSettings (s : Settings) : Client where
  base := normalizeBase ((s.get? "API_BASE_URL").getD "default")
  key := (s.get? "OPENAI_API_KEY").filter fun k => !k.isEmpty

/-- The model that reviews are asked of. -/
def modelOf (s : Settings) (given : Option String) : String :=
  (given <|> s.get? "DEFAULT_MODEL").getD "gpt-4o"

/-- What a server does with a request. -/
inductive Response where
  /-- it closes the connection -/
  | dropped
  /-- it answers with something that is no response -/
  | malformed
  /-- it answers with a status and a body, which ends cleanly or breaks off -/
  | answered (status : Nat) (chunks : List (List UInt8)) (clean : Bool)
  deriving Repr, DecidableEq

/-- A request as it arrives at a server. -/
structure Sent where
  /-- what stands in the request line -/
  target : String
  authorization : Option String
  body : String
  deriving Repr, DecidableEq

/-! ## Statuses -/

/-- The registered phrase of a status. -/
def reasonPhrase? : Nat → Option String
  | 100 => some "Continue"
  | 101 => some "Switching Protocols"
  | 102 => some "Processing"
  | 200 => some "OK"
  | 201 => some "Created"
  | 202 => some "Accepted"
  | 203 => some "Non Authoritative Information"
  | 204 => some "No Content"
  | 205 => some "Reset Content"
  | 206 => some "Partial Content"
  | 207 => some "Multi-Status"
  | 208 => some "Already Reported"
  | 226 => some "IM Used"
  | 300 => some "Multiple Choices"
  | 301 => some "Moved Permanently"
  | 302 => some "Found"
  | 303 => some "See Other"
  | 304 => some "Not Modified"
  | 305 => some "Use Proxy"
  | 307 => some "Temporary Redirect"
  | 308 => some "Permanent Redirect"
  | 400 => some "Bad Request"
  | 401 => some "Unauthorized"
  | 402 => some "Payment Required"
  | 403 => some "Forbidden"
  | 404 => some "Not Found"
  | 405 => some "Method Not Allowed"
  | 406 => some "Not Acceptable"
  | 407 => some "Proxy Authentication Required"
  | 408 => some "Request Timeout"
  | 409 => some "Conflict"
  | 410 => some "Gone"
  | 411 => some "Length Required"
  | 412 => some "Precondition Failed"
  | 413 => some "Payload Too Large"
  | 414 => some "URI Too Long"
  | 415 => some "Unsupported Media Type"
  | 416 => some "Range Not Satisfiable"
  | 417 => some "Expectation Failed"
  | 418 => some "I'm a teapot"
  | 421 => some "Misdirected Request"
  | 422 => some "Unprocessable Entity"
  | 423 => some "Locked"
  | 424 => some "Failed Dependency"
  | 425 => some "Too Early"
  | 426 => some "Upgrade Required"
  | 428 => some "Precondition Required"
  | 429 => some "Too Many Requests"
  | 431 => some "Request Header Fields Too Large"
  | 451 => some "Unavailable For Legal Reasons"
  | 500 => some "Internal Server Error"
  | 501 => some "Not Implemented"
  | 502 => some "Bad Gateway"
  | 503 => some "Service Unavailable"
  | 504 => some "Gateway Timeout"
  | 505 => some "HTTP Version Not Supported"
  | 506 => some "Variant Also Negotiates"
  | 507 => some "Insufficient Storage"
  | 508 => some "Loop Detected"
  | 510 => some "Not Extended"
  | 511 => some "Network Authentication Required"
  | _ => none

/-- A status that tells of success. -/
def isSuccessStatus (status : Nat) : Bool := 200 ≤ status && status < 300

/-- A status after which no body follows. -/
def isBodyless (status : Nat) : Bool := status < 200 || status == 204 || status == 304

/-- The wording of a status that does not tell of success. -/
def statusMessage (status : Nat) : String :=
  "LLM error: " ++ toString status ++ " " ++
    (reasonPhrase? status).getD "<unknown status code>"

/-! ## Requests -/

/-- May the byte stand in a header? -/
def isHeaderByte (b : UInt8) : Bool := b == 9 || (0x20 ≤ b && b != 0x7F)

/-- What is said when the request could not be sent or was not answered. -/
def notSent : String := "failed to send chat request"

/-- What is said of a key that cannot stand in a header. -/
def badHeader : String := "failed to parse header value"

/-- The events that a response comes to. -/
def Response.events : Response → List Event
  | .dropped => [.failed notSent]
  | .malformed => [.failed notSent]
  | .answered status chunks clean =>
    if !isSuccessStatus status then [.failed (statusMessage status)]
    else if isBodyless status then Chat.events true []
    else Chat.events clean chunks

/-- A chat request to a server that would do `response`: the request as it arrives, if it is sent,
and the events. The address of the server itself is `server`, the base address begins with it. -/
def Client.stream (c : Client) (server : String) (messages : List Message) (options : Options)
    (response : Response) : Option Sent × List Event :=
  let header := c.key.map ("Bearer " ++ ·)
  if !(header.all fun h => (Utf8.encode h).all isHeaderByte) then (none, [.failed badHeader])
  else
    let target := (after? server.toList (completionsAddress c.base).toList).bind fun rest =>
      requestTarget? (String.ofList rest)
    match target with
    | none => (none, [.failed notSent])
    | some target =>
      (some ⟨target, header.map trim, Json.compact (options.body messages)⟩, response.events)

/-- A chat request whose whole text is awaited. -/
def Client.complete (c : Client) (server : String) (messages : List Message) (options : Options)
    (response : Response) : Option Sent × Except String String :=
  let (sent, events) := c.stream server messages options response
  (sent, Event.collect events)

/-! ## Reviews -/

/-- What a reviewing model is told about its part. -/
def reviewerRole : String :=
  "You are an experienced code reviewer.\n" ++
  "Answer in Markdown with one short section per requested point.\n" ++
  "Be concrete: reference the lines or constructs you are talking about.\n" ++
  "If a point does not apply, say so in one sentence."

/-- How reviews are asked for. -/
def reviewOptions (model : String) : Options := ⟨model, 0.2, 1.0, 1024⟩

/-- What is said when reviews are asked for without a key. -/
def noKey : String := "OPENAI_API_KEY is not set"

/-- Asks a model for a review. Without a key nothing is sent. -/
def Client.insight (c : Client) (server model prompt : String) (response : Response) :
    Option Sent × Except String String :=
  if c.key.isNone then (none, .error noKey)
  else c.complete server [⟨.system, reviewerRole⟩, ⟨.user, prompt⟩] (reviewOptions model) response

end Snippet.Chat
