import Snippet.Wire.Exchange
/-!
Programs that are to be started, as they are found on the machine.
-/

namespace Snippet.Wire

/-- How a program is found. -/
inductive Installed where
  /-- there is no such program, or nothing that may be run -/
  | nowhere
  /-- a program that names a missing interpreter for itself -/
  | headless
  deriving Repr, DecidableEq

/-- Why a program cannot be started. -/
def Installed.failure (program : String) : Installed → BootFailure
  | .nowhere => .noProgram program
  | .headless => .spawn program "No such file or directory (os error 2)"

/-- How processes of a program that cannot be started come about: not at all. -/
def Installed.launcher {σ : Type} (i : Installed) (program : String) (limit : Duration) :
    Launcher σ where
  launch _ := .error (i.failure program)
  limit
  bound := 0

end Snippet.Wire
