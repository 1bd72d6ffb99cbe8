import Snippet.Request
import Snippet.Metrics
import Snippet.Preview.Document
/-!
What running a snippet comes to: the outcome of a backend, and the result handed to the caller.
-/

namespace Snippet

open Snippet.Text

/-- How a run ended. -/
inductive Status where
  | success
  /-- the snippet failed while running -/
  | runtimeError
  /-- the backend could not be prepared; the snippet never ran -/
  | setupError
  deriving Repr, DecidableEq

/-- The name of a status in reports. -/
def Status.name : Status → String
  | .success => "success"
  | .runtimeError => "runtime_error"
  | .setupError => "setup_error"

/-- The status of a name. -/
def Status.ofName? : String → Option Status
  | "success" => some .success
  | "runtime_error" => some .runtimeError
  | "setup_error" => some .setupError
  | _ => none

/-- What went wrong. -/
structure ErrorDetail where
  message : String
  trace : Option String
  hint : Option String
  deriving Repr, DecidableEq

namespace ErrorDetail

/-- A message alone. -/
def ofMessage (message : String) : ErrorDetail := ⟨message, none, none⟩

/-- The detail with a trace, which is left out when it is blank. -/
def withTrace (d : ErrorDetail) (trace : Option String) : ErrorDetail :=
  { d with trace := trace.filter fun t => !isBlankText t }

/-- The detail as a JSON object. -/
def toJson (d : ErrorDetail) : Json String :=
  .obj ([("message", .str d.message)] ++
    (d.trace.map fun t => ("trace", Json.str t)).toList ++
    (d.hint.map fun h => ("hint", Json.str h)).toList)

end ErrorDetail

/-- What a backend makes of a request, before the time it took is known. -/
structure Outcome where
  status : Status
  output : String
  error : Option ErrorDetail
  /-- the value of the last expression of a script -/
  returnPreview : Option String
  /-- the page built from markup -/
  preview : Option Preview.Document
  /-- the metrics of a text without a backend -/
  metrics : Option Metrics
  /-- how many input lines were handed out -/
  stdinConsumed : Nat
  deriving Repr, DecidableEq

namespace Outcome

/-- A success that has nothing but output. -/
def success (output : String) : Outcome := ⟨.success, output, none, none, none, none, 0⟩

/-- A failure that has nothing but output and what went wrong. -/
def failed (status : Status) (output : String) (error : ErrorDetail) : Outcome :=
  { success output with status, error := some error }

end Outcome

/-- The result of a request, as it is handed to the caller. -/
structure RunResult extends Outcome where
  language : Language
  /-- how long it took, in milliseconds; never negative -/
  milliseconds : Float

namespace RunResult

/-- A measured time as it is reported: what is not positive counts as zero. -/
def nonNegative (ms : Float) : Float := if ms > 0.0 then ms else 0.0

/-- The result of an outcome that took `ms` milliseconds. -/
def ofOutcome (language : Language) (outcome : Outcome) (ms : Float) : RunResult :=
  { outcome with language, milliseconds := nonNegative ms }

/-- Did the run succeed? -/
def isSuccess (r : RunResult) : Bool := r.status == .success

/-- The result as a JSON object; what is absent is left out. -/
def toJson (r : RunResult) : Json String :=
  .obj ([("language", .str r.language.tag), ("status", .str r.status.name),
      ("output", .str r.output)] ++
    (r.error.map fun e => ("errorDetail", e.toJson)).toList ++
    [("executionTimeMs", .num (.float r.milliseconds))] ++
    (r.returnPreview.map fun t => ("returnPreview", Json.str t)).toList ++
    (r.preview.map fun d => ("preview", d.toJson)).toList ++
    (r.metrics.map fun m => ("metrics", m.toJson)).toList ++
    [("stdinConsumed", .ofNat r.stdinConsumed)])

end RunResult

end Snippet
