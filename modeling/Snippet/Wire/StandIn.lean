import Snippet.Wire.Exchange
/-!
Stand-in processes.

A stand-in does what its script says: it writes bytes, reads lines of the host, closes its input or
ends. It runs ahead of the host as far as it can, and after its script it stays silent.
-/

namespace Snippet.Wire

open Snippet.Interpreter

/-- One thing that a stand-in does. -/
inductive Deed where
  | write (bytes : List UInt8)
  /-- reads a line of the host, or waits for one -/
  | read
  /-- closes its input; what the host writes is refused from then on -/
  | closeInput
  | exit
  deriving Repr, DecidableEq

/-- A stand-in. -/
structure StandIn where
  script : List Deed
  /-- lines of the host that have not been read -/
  inbox : List String
  /-- bytes that the host has not read -/
  outbox : List UInt8
  /-- lines of the host that have been read -/
  heard : List String
  inputClosed : Bool
  exited : Bool
  deriving Repr, DecidableEq

namespace StandIn

/-- What a stand-in has done when nothing more can be done of a script, given its other parts. -/
def goOn : List Deed → StandIn → StandIn
  | [], s => { s with script := [] }
  | .write bytes :: rest, s => goOn rest { s with outbox := s.outbox ++ bytes }
  | .read :: rest, s =>
    match s.inbox with
    | line :: inbox => goOn rest { s with inbox, heard := s.heard ++ [line] }
    | [] => { s with script := .read :: rest }
  | .closeInput :: rest, s => goOn rest { s with inputClosed := true }
  | .exit :: _, s => { s with script := [], exited := true }

/-- A stand-in that has begun its script. -/
def start (script : List Deed) : StandIn := goOn script ⟨[], [], [], [], false, false⟩

/-- The stand-in takes a line of the host. -/
def send (s : StandIn) (frame : HostFrame) : Option String × StandIn :=
  if s.inputClosed then (some "Broken pipe (os error 32)", s)
  else (none, goOn s.script { s with inbox := s.inbox ++ [frame.line] })

/-- The next line of the stand-in. What it leaves unfinished is a line once it has ended. -/
def receive (s : StandIn) : Arrival × StandIn :=
  let line := s.outbox.takeWhile (· != 10)
  match s.outbox.dropWhile (· != 10) with
  | stop :: rest => (.ofBytes (line ++ [stop]), { s with outbox := rest })
  | [] =>
    if !s.exited then (.silent, s)
    else if line.isEmpty then (.ended, s)
    else (.ofBytes line, { s with outbox := [] })

/-- A stand-in at the other end of the pipe. -/
def peer : Peer StandIn := ⟨send, receive⟩

end StandIn

/-- A request and, if its caller does not wait to the end, how many lines the processes have read in all
when the caller leaves. -/
structure Visit where
  request : Request
  leavesAfter : Option Nat
  deriving Repr, DecidableEq

namespace Pool

/-- What the processes have read, each line with the number of its process. -/
def heard (pool : Pool StandIn) : List (Nat × String) :=
  pool.lines.zipIdx.flatMap fun (entry, i) => entry.2.process.heard.map fun line => (i, line)

end Pool

/-- A stand-in, watched by somebody who counts the lines that are read and leaves at a number. -/
structure Watched where
  process : StandIn
  /-- how many more lines may be read; none if it does not matter -/
  left : Option Nat
  deriving Repr, DecidableEq

namespace Watched

/-- The watched stand-in takes a line of the host. -/
def send (s : Watched) (frame : HostFrame) : Option String × Watched :=
  let (refusal, process) := s.process.send frame
  let read := process.heard.length - s.process.heard.length
  (refusal, ⟨process, s.left.map (· - read)⟩)

/-- The next line, unless the watcher has left. -/
def receive (s : Watched) : Arrival × Watched :=
  if s.left = some 0 then (.silent, s)
  else
    let (arrival, process) := s.process.receive
    (arrival, { s with process })

/-- A watched stand-in at the other end of the pipe. -/
def peer : Peer Watched := ⟨send, receive⟩

end Watched

/-- The bounds of a conversation with stand-ins. -/
def standInBound (scripts : List (List Deed)) : Nat :=
  scripts.flatten.foldl (fun n deed => match deed with
    | .write bytes => n + 1 + bytes.length
    | _ => n + 1) 2

/-- How stand-ins come about: each by its script. -/
def standIns (scripts : List (List Deed)) (limit : Duration) : Launcher StandIn where
  launch n := .ok (.start ((scripts[n]?).getD [.exit]))
  limit
  bound := standInBound scripts

namespace Visit

/-- A visit as it takes place on a session. -/
def execute (L : Launcher StandIn) (v : Visit) (pool : Pool StandIn) (session : Nat)
    (request : Request) : Option (Executed × Nat) × Pool StandIn :=
  match pool.lines.findIdx? (·.1 == session) with
  | none => (none, pool)
  | some i =>
    match pool.lines[i]? with
    | none => (none, pool)
    | some (_, line) =>
      let left := v.leavesAfter.map (· - pool.heard.length)
      let (executed, e, watched) :=
        Exchange.execute Watched.peer L.bound line.nextId request ⟨line.process, left⟩
      (executed.map fun x => (x, e.cursor.position),
        ⟨pool.lines.set i (session, ⟨line.nextId + 1, watched.process⟩)⟩)

/-- Sessions on stand-ins for one visit. -/
def provider (L : Launcher StandIn) (v : Visit) : Provider (Pool StandIn) where
  start := Pool.start L StandIn.peer
  execute := v.execute L

/-- Visits one after another: how each one ended, unless its caller left, with the runner after it; and the
processes in the end. -/
def all (L : Launcher StandIn) : Runner → Pool StandIn → List Visit →
    List (Option Ending × Runner) × Pool StandIn
  | _, pool, [] => ([], pool)
  | r, pool, v :: rest =>
    let (ending, r, pool) := r.serve (v.provider L) pool v.request
    let (endings, pool) := all L r pool rest
    ((ending, r) :: endings, pool)

end Visit

end Snippet.Wire
