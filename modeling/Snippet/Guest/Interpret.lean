import Snippet.Guest.Process
import Snippet.Settings
/-!
The interpreter of the command line: one request on a fresh session, with the program that the settings
name.
-/

namespace Snippet.Guest

open Snippet.Wire

/-- The program that settings name; none if one is to be looked for. -/
def configured? (s : Settings) : Option String :=
  (s.get? "PYTHON_BIN").filter fun p => !p.isEmpty && p != "auto"

/-- The programs that are looked for where none is named. -/
def usualPrograms : List String := ["python3", "python"]

/-- Why no program can be had, if none can, given those that are installed. -/
def missing? (installed : List String) (s : Settings) : Option BootFailure :=
  match configured? s with
  | some program => if installed.contains program then none else some (.noProgram program)
  | none =>
    if usualPrograms.any installed.contains then none else some (.notFound "cannot find binary path")

/-- How processes come about: not at all without a program, and none is ready in no time. -/
def launcherFor (installed : List String) (s : Settings) : Launcher (Process Machine) :=
  let limit := s.seconds "BOOTSTRAP_TIMEOUT" 30
  match missing? installed s with
  | some failure => ⟨fun _ => .error failure, limit, 0⟩
  | none => if limit.nanos = 0 then ⟨fun _ => .error (.timeout limit), limit, 0⟩ else launcher limit

/-- What the interpreter makes of a request; `stuck` stands for a program that comes to no end. -/
def interpret (installed : List String) (stuck : Ending) (s : Settings) (request : Request) : Ending :=
  let provider := Pool.provider (launcherFor installed s) (Process.peer runSource)
  (((Interpreter.Runner.fresh).serve provider .empty request).1).getD stuck

end Snippet.Guest
