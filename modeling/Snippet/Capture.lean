import Snippet.Outcome
/-!
Output captured during a run.

Every captured line carries the marker of the channel that it came from.
-/

namespace Snippet

/-- Where a captured line came from. -/
inductive Channel where
  | info
  | error
  | warning
  /-- the echo of a line that the input primitive handed out -/
  | input
  /-- the final value of a script -/
  | result
  deriving Repr, DecidableEq

/-- The marker in front of the lines of a channel. -/
def Channel.marker : Channel → String
  | .info => "📝 "
  | .error => "❌ Error: "
  | .warning => "⚠️ Warning: "
  | .input => "📥 "
  | .result => "📤 Return value: "

/-- A text as a line of a channel. -/
def Channel.line (channel : Channel) (text : String) : String := channel.marker ++ text ++ "\n"

/-- The output of one run, in the order in which it arose. -/
structure Capture where
  /-- everything captured so far -/
  text : String
  deriving Repr, DecidableEq

namespace Capture

/-- Nothing captured yet. -/
def empty : Capture := ⟨""⟩

/-- The capture with one more line. -/
def push (c : Capture) (channel : Channel) (text : String) : Capture := ⟨c.text ++ channel.line text⟩

/-- A success with what was captured. -/
def success (c : Capture) (consumed : Nat) : Outcome :=
  { Outcome.success c.text with stdinConsumed := consumed }

/-- A failure of the snippet, with what was captured before it. -/
def runtimeError (c : Capture) (error : ErrorDetail) (consumed : Nat) : Outcome :=
  { Outcome.failed .runtimeError c.text error with stdinConsumed := consumed }

end Capture

end Snippet
