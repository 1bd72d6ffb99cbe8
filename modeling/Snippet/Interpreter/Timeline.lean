import Snippet.Interpreter.Rehearsal
/-!
Many callers on one runner, by a clock.

The clock moves only when it is told to. Callers take part in a start only while they wait for it: a
start whose time has come ends under the first caller who waits for it, and the others find it ended,
in the order of their seats.
-/

namespace Snippet.Interpreter

/-- How a start will go. -/
structure BootPlan where
  /-- how long it takes from the moment when somebody first waits for it, in milliseconds -/
  delay : Nat
  boot : Boot
  deriving Repr, DecidableEq

/-- The plan of a start among the plans that are given; the last one stands for all that follow. -/
def BootPlan.at_ (plans : List BootPlan) (attempt : Nat) : BootPlan :=
  (plans[attempt - 1]?).getD (plans.getLast?.getD ⟨0, .session⟩)

/-- Those who wait for a start. A seat that has become free is taken before a new one is put up, the last
to become free first. -/
structure Seats where
  taken : List (Option Nat)
  free : List Nat
  deriving Repr, DecidableEq

namespace Seats

/-- No seats. -/
def none_ : Seats := ⟨[], []⟩

/-- A caller sits down. -/
def take (s : Seats) (caller : Nat) : Seats :=
  match s.free with
  | seat :: free => ⟨s.taken.set seat (some caller), free⟩
  | [] => ⟨s.taken ++ [some caller], []⟩

/-- A caller gets up. -/
def leave (s : Seats) (caller : Nat) : Seats :=
  match s.taken.findIdx? (· == some caller) with
  | some seat => ⟨s.taken.set seat none, seat :: s.free⟩
  | none => s

/-- The callers in the order of their seats. -/
def callers (s : Seats) : List Nat := s.taken.filterMap id

end Seats

/-- What is reported of a caller whose wait is over. -/
inductive Report where
  | ending (ending : Ending)
  | session
  | noSession (failure : BootFailure)
  /-- went down, and nobody took its place -/
  | down
  deriving Repr, DecidableEq

/-- A caller as the clock sees it. -/
structure Task where
  name : String
  /-- what it wants served; a caller after a session alone has none -/
  request : Option Request
  /-- its performance and the time when that ends, once it has begun -/
  running : Option (Nat × Performance)
  deriving Repr, DecidableEq

/-- The callers of a runner, by a clock. -/
structure Timeline where
  now : Nat
  plans : List BootPlan
  runner : Runner
  /-- when the latest start ends, if somebody waits for it then -/
  due : Nat
  seats : Seats
  /-- every caller, in order of arrival -/
  tasks : List Task
  /-- what has been reported, in order -/
  reports : List (String × Report)
  deriving Repr, DecidableEq

namespace Timeline

/-- A clock at zero and no callers. -/
def start (plans : List BootPlan) : Timeline := ⟨0, plans, .fresh, 0, .none_, [], []⟩

/-- Reports of a caller. -/
def report (t : Timeline) (caller : Nat) (r : Report) : Timeline :=
  match t.tasks[caller]? with
  | some task => { t with reports := t.reports ++ [(task.name, r)] }
  | none => t

/-- Follows a caller to where the runner has taken it. -/
def follow (t : Timeline) (caller : Nat) : Timeline :=
  match t.runner.stage? caller, t.tasks[caller]? with
  | some (.executing session), some ⟨name, some request, _⟩ =>
    let p := performance session request
    { t with tasks := t.tasks.set caller ⟨name, some request, some (t.now + p.duration, p)⟩ }
  | some (.given _), _ => t.report caller .session
  | some (.refused f), some ⟨_, some _, _⟩ => t.report caller (.ending (.failed f.backendFailure))
  | some (.refused f), some ⟨_, none, _⟩ => t.report caller (.noSession f)
  | some (.crashed p), some ⟨_, some _, _⟩ => t.report caller (.ending (.panicked p))
  | some (.crashed _), some ⟨_, none, _⟩ => t.report caller .down
  | _, _ => t

/-- Something happens to a caller, all at one instant. -/
def act (t : Timeline) (caller : Nat) (events : List Event) : Timeline :=
  ({ t with runner := t.runner.run events } : Timeline).follow caller

/-- The start under way, if there is one whose end is still to come. -/
def pending? (t : Timeline) : Option Nat :=
  match t.runner.cell with
  | .starting attempt => if (t.runner.boot? attempt).isNone then some attempt else none
  | _ => none

/-- The start under way ends, if somebody waits for it. -/
def endStart (t : Timeline) (attempt : Nat) : Timeline :=
  match t.seats.callers with
  | [] => t
  | first :: rest =>
    let boot := (BootPlan.at_ t.plans attempt).boot
    let t := ({ t with seats := .none_ } : Timeline).act first [.conclude first boot, .wake first]
    rest.foldl (fun t caller => t.act caller [.wake caller]) t

/-- The callers whose performance ends by a time, the first to end first. -/
def ending (t : Timeline) (by_ : Nat) : List (Nat × Performance) :=
  let running := t.tasks.zipIdx.filterMap fun (task, i) => task.running.map fun (at_, p) => (at_, i, p)
  ((running.filter fun e => e.1 ≤ by_).mergeSort fun a b => a.1 ≤ b.1).map (·.2)

/-- The performance of a caller ends. -/
def finish (t : Timeline) (caller : Nat) (p : Performance) : Timeline :=
  let t : Timeline := { t with
    tasks := t.tasks.modify caller fun task => { task with running := none }
    runner := t.runner.step (.finish caller p.executed.finish) }
  t.report caller (.ending (p.executed.ending p.consumed))

/-- Every performance that ends by a time ends, and the clock shows that time. -/
def finishBy (t : Timeline) (by_ : Nat) : Timeline :=
  { (t.ending by_).foldl (fun t (caller, p) => t.finish caller p) t with now := by_ }

/-- Time passes. -/
def advance (t : Timeline) (ms : Nat) : Timeline :=
  let until_ := t.now + ms
  match t.pending? with
  | some attempt =>
    if t.due ≤ until_ then ((t.finishBy (max t.now t.due)).endStart attempt).finishBy until_
    else t.finishBy until_
  | none => t.finishBy until_

/-- A caller comes. -/
def arrive (t : Timeline) (name : String) (request : Option Request) : Timeline :=
  let caller := t.runner.nextCaller
  let purpose := match request with
    | some _ => Purpose.run
    | none => .session
  let runner := t.runner.step (.arrive purpose)
  let attempt := runner.attempts
  let due := if attempt = t.runner.attempts then t.due
    else t.now + (BootPlan.at_ t.plans attempt).delay
  let t : Timeline := { t with runner, due, tasks := t.tasks ++ [⟨name, request, none⟩] }
  let t := match runner.stage? caller with
    | some (.waiting k) =>
      if (runner.boot? k).isSome then t.act caller [.wake caller]
      else { t with seats := t.seats.take caller }
    | _ => t.follow caller
  t.advance 0

/-- The latest caller of a name leaves. -/
def cancel (t : Timeline) (name : String) : Timeline :=
  match (t.tasks.zipIdx.filter fun e => e.1.name == name).getLast? with
  | some (_, caller) =>
    { t with
      runner := t.runner.step (.cancel caller)
      seats := t.seats.leave caller
      tasks := t.tasks.modify caller fun task => { task with running := none } }
  | none => t

/-- What can be done on a timeline. -/
inductive Step where
  | run (name : String) (request : Request)
  | session (name : String)
  | cancel (name : String)
  | advance (ms : Nat)
  deriving Repr, DecidableEq

/-- The timeline after a step and everything that follows at the same instant. -/
def step (t : Timeline) : Step → Timeline
  | .run name request => t.arrive name (some request)
  | .session name => t.arrive name none
  | .cancel name => t.cancel name
  | .advance ms => t.advance ms

end Timeline

end Snippet.Interpreter
