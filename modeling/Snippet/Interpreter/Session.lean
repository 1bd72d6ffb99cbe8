import Snippet.Interpreter.Lifecycle
import Snippet.Capture
/-!
Requests on sessions.

`Executed` is what a session makes of a source. `Provider` is anything that starts sessions and has
them run sources, with a state of its own; `Runner.serve` takes one request through the whole life of
a caller, when no other caller is about.
-/

namespace Snippet.Interpreter

/-- What a session makes of a source. -/
inductive Executed where
  /-- the source ran, or failed by itself -/
  | answered (output : String) (error : Option ErrorDetail)
  /-- the session broke -/
  | failed (failure : SessionFailure)
  /-- the session stopped abruptly -/
  | panicked (panic : Panic)
  deriving Repr, DecidableEq

namespace Executed

/-- Is the session still good? -/
def finish : Executed → Finish
  | .answered _ _ => .answer
  | _ => .breakage

/-- The ending that the caller sees, when so many input lines have been handed out. A session that broke
takes its output along. -/
def ending (consumed : Nat) : Executed → Ending
  | .answered output none => .done ((⟨output⟩ : Capture).success consumed)
  | .answered output (some error) => .done ((⟨output⟩ : Capture).runtimeError error consumed)
  | .failed failure => .done (Capture.empty.runtimeError (.ofMessage failure.message) consumed)
  | .panicked panic => .panicked panic

end Executed

/-- Something that starts sessions and has them run sources. -/
structure Provider (σ : Type) where
  /-- the start of that number -/
  start : σ → Nat → Boot × σ
  /-- has a session run the source of a request; says how that ended and how many input lines it took,
  unless the caller left -/
  execute : σ → Nat → Request → Option (Executed × Nat) × σ

namespace Runner

/-- Has a caller's request run on a session. No ending means that the caller left. -/
def execute {σ : Type} (P : Provider σ) (r : Runner) (world : σ) (caller session : Nat)
    (request : Request) : Option Ending × Runner × σ :=
  match P.execute world session request with
  | (some (executed, consumed), world) =>
    (some (executed.ending consumed), r.step (.finish caller executed.finish), world)
  | (none, world) => (none, r.step (.cancel caller), world)

/-- One request from its arrival to its end, with no other caller about. -/
def serve {σ : Type} (P : Provider σ) (r : Runner) (world : σ) (request : Request) :
    Option Ending × Runner × σ :=
  let caller := r.nextCaller
  let r := r.step (.arrive .run)
  match r.stage? caller with
  | some (.executing session) => r.execute P world caller session request
  | some (.waiting attempt) =>
    let (boot, world) := P.start world attempt
    let r := r.drive caller boot
    match r.stage? caller with
    | some (.executing session) => r.execute P world caller session request
    | some (.refused failure) => (some (.failed failure.backendFailure), r, world)
    | some (.crashed panic) => (some (.panicked panic), r, world)
    | _ => (none, r, world)
  | _ => (none, r, world)

/-- Requests one after another: how each one ended, with the runner after it. -/
def serveAll {σ : Type} (P : Provider σ) : Runner → σ → List Request → List (Option Ending × Runner)
  | _, _, [] => []
  | r, world, request :: rest =>
    let (ending, r, world) := r.serve P world request
    (ending, r) :: serveAll P r world rest

end Runner

end Snippet.Interpreter
