import Snippet.Failure
/-!
The life of the interpreter behind a runner that many callers share.

A session with the interpreter is started when it is first needed and kept. While a start is under way
every caller waits for that same start; a start that fails is forgotten, and so is a session that
broke. `Runner` is the state with all callers there have ever been, `Runner.step` is all that can
happen to it. A start goes by its number, and the session that it yields by the same number; whether two
starts yielded one and the same session is up to whoever makes them (`same`), usually they did not.
-/

namespace Snippet.Interpreter

/-- What the runner holds. -/
inductive Cell where
  | empty
  /-- a start is under way -/
  | starting (attempt : Nat)
  | ready (session : Nat)
  deriving Repr, DecidableEq

/-- What is called the phase of the runner. -/
def Cell.phase : Cell → String
  | .empty => "Uninitialized"
  | .starting _ => "Loading"
  | .ready _ => "Ready"

/-- How a start can end. -/
inductive Boot where
  | session
  | failure (failure : BootFailure)
  | panic (panic : Panic)
  deriving Repr, DecidableEq

/-- What a caller came for. -/
inductive Purpose where
  /-- a session, and no more -/
  | session
  /-- to have a request served -/
  | run
  deriving Repr, DecidableEq

/-- Where a caller stands. -/
inductive Stage where
  /-- waits for the end of a start -/
  | waiting (attempt : Nat)
  /-- the start that it waited for ended under it, and it is about to go on -/
  | roused (attempt : Nat)
  /-- has its source run on a session -/
  | executing (session : Nat)
  /-- was given a session -/
  | given (session : Nat)
  /-- was told that the start failed -/
  | refused (failure : BootFailure)
  /-- went down with the start -/
  | crashed (panic : Panic)
  /-- had its source run to an answer -/
  | answered (session : Nat)
  /-- lost the session while its source ran -/
  | broke (session : Nat)
  /-- left while its source ran -/
  | abandoned (session : Nat)
  /-- left while it waited -/
  | withdrawn
  deriving Repr, DecidableEq

/-- A caller. -/
structure Call where
  purpose : Purpose
  /-- the start that it waited for, if it had to wait -/
  joined : Option Nat
  stage : Stage
  deriving Repr, DecidableEq

/-- The state of a runner. -/
structure Runner where
  cell : Cell
  /-- how many starts there have been -/
  attempts : Nat
  /-- every start with its end, once it has one; the first start has the number one -/
  starts : List (Option Boot)
  /-- every caller, in order of arrival -/
  calls : List Call
  deriving Repr, DecidableEq

/-- How the run of a source can end, as far as the session is concerned. -/
inductive Finish where
  /-- with an answer -/
  | answer
  /-- with a failure of the session, or abruptly -/
  | breakage
  deriving Repr, DecidableEq

/-- What can happen to a runner. A caller goes by its place in the order of arrival. -/
inductive Event where
  | arrive (purpose : Purpose)
  /-- the start that the caller waits for ends under it -/
  | conclude (caller : Nat) (boot : Boot)
  /-- the caller finds the start that it waits for ended, and goes on -/
  | wake (caller : Nat)
  /-- the source of the caller has been run -/
  | finish (caller : Nat) (how : Finish)
  /-- the caller leaves -/
  | cancel (caller : Nat)
  deriving Repr, DecidableEq

/-- What is said to those who wait for a start that went down under somebody else. -/
def poisoned : Panic := .text "inner future panicked during poll"

/-- The end of a start as it is told to those who find it ended. -/
def Boot.told : Boot → Boot
  | .panic _ => .panic poisoned
  | boot => boot

namespace Runner

/-- A runner before its first caller. -/
def fresh : Runner := ⟨.empty, 0, [], []⟩

/-- Where a caller stands, if there is one in that place. -/
def stage? (r : Runner) (caller : Nat) : Option Stage := (r.calls[caller]?).map (·.stage)

/-- The end of a start, if there is such a start and it has ended. -/
def boot? (r : Runner) (attempt : Nat) : Option Boot := (r.starts[attempt - 1]?).join

/-- The runner with a caller moved on. -/
def setStage (r : Runner) (caller : Nat) (stage : Stage) : Runner :=
  { r with calls := r.calls.modify caller fun c => { c with stage } }

/-- The place that the next caller gets. -/
def nextCaller (r : Runner) : Nat := r.calls.length

/-- Forgets a session. Another session, or a start under way, is left alone. -/
def invalidate (r : Runner) (session : Nat) (same : Nat → Nat → Bool := (· == ·)) : Runner :=
  match r.cell with
  | .ready current => if same current session then { r with cell := .empty } else r
  | _ => r

/-- Takes note of the end of a start, if that start is still what the runner waits for. -/
def settle (r : Runner) (attempt : Nat) (boot : Boot) : Runner :=
  if r.cell = .starting attempt then
    match boot with
    | .session => { r with cell := .ready attempt }
    | .failure _ => { r with cell := .empty }
    | .panic _ => r
  else r

/-- Where a caller goes from the end of the start that it waited for. -/
def stageAfter (purpose : Purpose) (attempt : Nat) : Boot → Stage
  | .session =>
    match purpose with
    | .session => .given attempt
    | .run => .executing attempt
  | .failure f => .refused f
  | .panic p => .crashed p

/-- A new caller. -/
def arrive (r : Runner) (purpose : Purpose) : Runner :=
  match r.cell with
  | .ready session =>
    { r with calls := r.calls ++ [⟨purpose, none, stageAfter purpose session .session⟩] }
  | .starting attempt =>
    { r with calls := r.calls ++ [⟨purpose, some attempt, .waiting attempt⟩] }
  | .empty =>
    let attempt := r.attempts + 1
    { cell := .starting attempt, attempts := attempt, starts := r.starts ++ [none]
      calls := r.calls ++ [⟨purpose, some attempt, .waiting attempt⟩] }

/-- Where the end of a start leaves the caller under whom it ends. -/
def stageUnder (attempt : Nat) : Boot → Stage
  | .panic p => .crashed p
  | _ => .roused attempt

/-- A start ends under a caller, unless it has ended before. -/
def conclude (r : Runner) (caller attempt : Nat) (boot : Boot) : Runner :=
  match r.starts[attempt - 1]? with
  | some none =>
    { r with starts := r.starts.set (attempt - 1) (some boot) }.setStage caller
      (stageUnder attempt boot)
  | _ => r

/-- A caller goes on from the end of the start that it waited for. -/
def proceed (r : Runner) (caller attempt : Nat) (boot : Boot) : Runner :=
  match r.calls[caller]? with
  | some c => (r.settle attempt boot).setStage caller (stageAfter c.purpose attempt boot)
  | none => r

/-- A caller goes on if the start that it waited for has ended. -/
def wake (r : Runner) (caller attempt : Nat) : Runner :=
  match r.boot? attempt with
  | some boot => r.proceed caller attempt boot.told
  | none => r

/-- The runner after an event. An event that cannot take place changes nothing. -/
def step (r : Runner) (e : Event) (same : Nat → Nat → Bool := (· == ·)) : Runner :=
  match e with
  | .arrive purpose => r.arrive purpose
  | .conclude caller boot =>
    match r.stage? caller with
    | some (.waiting attempt) => r.conclude caller attempt boot
    | _ => r
  | .wake caller =>
    match r.stage? caller with
    | some (.waiting attempt) => r.wake caller attempt
    | some (.roused attempt) => r.wake caller attempt
    | _ => r
  | .finish caller how =>
    match r.stage? caller with
    | some (.executing session) =>
      match how with
      | .answer => r.setStage caller (.answered session)
      | .breakage => (r.invalidate session same).setStage caller (.broke session)
    | _ => r
  | .cancel caller =>
    match r.stage? caller with
    | some (.waiting _) => r.setStage caller .withdrawn
    | some (.executing session) => (r.invalidate session same).setStage caller (.abandoned session)
    | _ => r

/-- The runner after a sequence of events. -/
def run (r : Runner) (events : List Event) (same : Nat → Nat → Bool := (· == ·)) : Runner :=
  events.foldl (fun r e => r.step e same) r

/-- A start ends under a caller, who goes on at once. -/
def drive (r : Runner) (caller : Nat) (boot : Boot) : Runner :=
  r.run [.conclude caller boot, .wake caller]

end Runner

end Snippet.Interpreter
