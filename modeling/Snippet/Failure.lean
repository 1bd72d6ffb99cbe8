import Snippet.Time
import Snippet.Outcome
/-!
Why a backend failed, apart from the snippet it was to run. Each type lists causes; `message` words
them.
-/

namespace Snippet

/-- Why no interpreter could be brought to the point where it takes requests. -/
inductive BootFailure where
  /-- there is no such program -/
  | notFound (reason : String)
  /-- the program could not be started -/
  | spawn (program reason : String)
  /-- it did not announce itself in time -/
  | timeout (limit : Duration)
  /-- it announced itself in a way that was not understood -/
  | handshake (reason : String)
  deriving Repr, DecidableEq

/-- The wording of a failed start. -/
def BootFailure.message : BootFailure → String
  | .notFound reason => "no Python interpreter found (" ++ reason ++ ")"
  | .spawn program reason => "failed to start interpreter " ++ program ++ ": " ++ reason
  | .timeout limit => "interpreter did not become ready within " ++ limit.text
  | .handshake reason => "interpreter handshake failed: " ++ reason

/-- What to do about an interpreter that cannot be prepared. -/
def setupHint : String :=
  "💡 Note: Python execution requires a working Python 3 runtime " ++
  "(set PYTHON_BIN if it is not on PATH)."

/-- Why a session with an interpreter broke. -/
inductive SessionFailure where
  /-- the interpreter ended -/
  | exited
  /-- a read or a write failed -/
  | io (reason : String)
  /-- a message was not understood -/
  | malformed (reason : String)
  deriving Repr, DecidableEq

/-- The wording of a broken session. -/
def SessionFailure.message : SessionFailure → String
  | .exited => "interpreter exited unexpectedly"
  | .io reason => "interpreter I/O failed: " ++ reason
  | .malformed reason => "malformed interpreter message: " ++ reason

/-- Why a backend gave no outcome. -/
inductive BackendFailure where
  /-- it could not be prepared; trying again may help -/
  | setup (message : String) (hint : Option String)
  /-- it broke while serving the request -/
  | fault (message : String)
  deriving Repr, DecidableEq

namespace BackendFailure

/-- The wording of a failed backend. -/
def message : BackendFailure → String
  | .setup message _ => message
  | .fault message => "runner fault: " ++ message

/-- The outcome that a failed backend comes to. -/
def outcome : BackendFailure → Outcome
  | .setup message hint => .failed .setupError "" ⟨message, none, hint⟩
  | .fault message => .failed .runtimeError "" (.ofMessage message)

end BackendFailure

/-- A failed start as the failure of the backend. -/
def BootFailure.backendFailure (f : BootFailure) : BackendFailure :=
  .setup f.message (some setupHint)

/-- What a backend that stopped abruptly left behind to say why. -/
inductive Panic where
  | text (message : String)
  /-- a payload that is no text -/
  | opaquePayload
  deriving Repr, DecidableEq

/-- What is said of a program that is nowhere to be found. -/
def BootFailure.noProgram (program : String) : BootFailure :=
  .notFound (program ++ ": cannot find binary path")

/-- The text of a panic. -/
def Panic.message : Panic → String
  | .text message => message
  | .opaquePayload => "unknown panic"

/-- How a backend can end: with an outcome, with a failure, or abruptly. -/
inductive Ending where
  | done (outcome : Outcome)
  | failed (failure : BackendFailure)
  | panicked (panic : Panic)
  deriving Repr, DecidableEq

/-- The outcome that the caller sees. Every ending comes to one. -/
def Ending.outcome : Ending → Outcome
  | .done outcome => outcome
  | .failed failure => failure.outcome
  | .panicked panic => .failed .runtimeError "" (.ofMessage ("runner panicked: " ++ panic.message))

end Snippet
