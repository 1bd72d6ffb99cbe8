import Snippet.Outcome
/-!
How results are shown on a terminal.
-/

namespace Snippet

open Snippet.Text

/-- The tone of a printed text. -/
inductive Tone where
  | plain
  | success
  | error
  | info
  | warning
  deriving Repr, DecidableEq

namespace Tone

/-- The code of the foreground colour of a tone, if it has one. -/
def colour : Tone → Option String
  | .plain => none
  | .success => some "32"
  | .error => some "35"
  | .info => some "36"
  | .warning => some "33"

/-- A text in the colour of a tone. -/
def paint (tone : Tone) (text : String) : String :=
  match tone.colour with
  | some code => "\x1b[" ++ code ++ "m" ++ text ++ "\x1b[39m"
  | none => text

end Tone

/-- A text as a line on the terminal. -/
def printed (colored : Bool) (text : String) (tone : Tone) : String :=
  (if colored then tone.paint text else text) ++ "\n"

namespace RunResult

/-- What is shown of a success without output. -/
def noOutput : String := "✅ Code executed successfully (no output)"

/-- The text of a result, without its timing. -/
def body (r : RunResult) : String :=
  let name := r.language.displayName
  let message := (r.error.map (·.message)).getD "unknown error"
  match r.status with
  | .success => if r.output.isEmpty then noOutput else trimEnd r.output
  | .runtimeError =>
    (if r.output.isEmpty then "" else trimEnd r.output ++ "\n\n") ++
    "❌ " ++ name ++ " Error: " ++ message ++
    (match r.error.bind (·.trace) with
      | some trace =>
        if r.language = .javascript then "\n\n📍 Stack: " ++ trace else "\n\n" ++ trimEnd trace
      | none => "")
  | .setupError =>
    "❌ " ++ name ++ " execution failed: " ++ message ++
    (match r.error.bind (·.hint) with
      | some hint => "\n\n" ++ hint
      | none => "")

/-- The line that tells how long a run took. -/
def timing (r : RunResult) : String :=
  "⏱️ Execution time: " ++ Decimal.fixed 2 r.milliseconds ++ "ms"

/-- A result in one text: body, blank line, timing. -/
def text (r : RunResult) : String := r.body ++ "\n\n" ++ r.timing

/-- The tone in which the body of a result is printed. -/
def tone (r : RunResult) : Tone :=
  match r.status with
  | .success => if r.metrics.isSome then .info else .success
  | _ => .error

/-- What printing a result writes. -/
def printed (r : RunResult) (colored : Bool) : String :=
  Snippet.printed colored r.body r.tone ++ Snippet.printed colored r.timing .plain

end RunResult

end Snippet
