import Snippet.Interpreter.Session
import Snippet.Json.Read
/-!
Stand-in sessions.

A stand-in runs a source that is a list of acts, each one a thing that a session can do or suffer. All
that it does is settled when it begins, so `perform` gives the whole performance at once, with the
time that it takes.
-/

namespace Snippet.Interpreter

open Snippet.Text

/-- One thing that a stand-in does. -/
inductive Act where
  | print (text : String)
  /-- reads an input line and shows it -/
  | read
  /-- shows the number of the session -/
  | session
  | sleep (ms : Nat)
  /-- the source fails -/
  | raise (message : String) (trace : Option String)
  /-- the session finds its interpreter gone -/
  | exited
  /-- the session finds its pipe broken -/
  | io (reason : String)
  /-- the session stops abruptly -/
  | panic (message : String)
  deriving Repr, DecidableEq

namespace Act

/-- The act that a JSON value stands for. -/
def ofJson? : Json String → Option Act
  | .arr [.str "print", .str t] => some (.print t)
  | .arr (.str "read" :: _) => some .read
  | .arr (.str "session" :: _) => some .session
  | .arr [.str "sleep", .num (.int ms)] => some (.sleep ms.toNat)
  | .arr [.str "raise", .str message, .str trace] => some (.raise message (some trace))
  | .arr (.str "raise" :: .str message :: _) => some (.raise message none)
  | .arr (.str "exited" :: _) => some .exited
  | .arr [.str "io", .str reason] => some (.io reason)
  | .arr [.str "panic", .str message] => some (.panic message)
  | _ => none

/-- The acts of a source: those of a JSON array; any other source is printed. -/
def ofSource (source : String) : List Act :=
  match Json.readText source with
  | some (.arr items) => items.filterMap ofJson?
  | _ => [.print source]

end Act

/-- All of what a stand-in does with a source. -/
structure Performance where
  /-- how long it takes, in milliseconds -/
  duration : Nat
  executed : Executed
  /-- how many input lines it took -/
  consumed : Nat
  deriving Repr, DecidableEq

/-- The performance of acts after what has been put out, read and waited so far. -/
def perform (session : Nat) : List Act → String → LineCursor → Nat → Performance
  | [], output, c, t => ⟨t, .answered output none, c.position⟩
  | .print text :: rest, output, c, t => perform session rest (output ++ text) c t
  | .read :: rest, output, c, t =>
    let (line, c) := c.next
    let shown := match line with
      | some line => "[" ++ line ++ "]"
      | none => "<none>"
    perform session rest (output ++ shown) c t
  | .session :: rest, output, c, t => perform session rest (output ++ "#" ++ toString session) c t
  | .sleep ms :: rest, output, c, t => perform session rest output c (t + ms)
  | .raise message trace :: _, output, c, t =>
    ⟨t, .answered output (some ((ErrorDetail.ofMessage message).withTrace trace)), c.position⟩
  | .exited :: _, _, c, t => ⟨t, .failed .exited, c.position⟩
  | .io reason :: _, _, c, t => ⟨t, .failed (.io reason), c.position⟩
  | .panic message :: _, _, c, t => ⟨t, .panicked (.text message), c.position⟩

/-- The performance of a request. -/
def performance (session : Nat) (r : Request) : Performance :=
  perform session (Act.ofSource r.source) "" r.cursor 0

end Snippet.Interpreter
