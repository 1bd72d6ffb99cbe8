import Snippet.Wire.Frame
import Snippet.Interpreter.Session
/-!
The host's side of the conversation with an interpreter.

A request has a number, and every frame carries the number of the request that it belongs to, so frames
that are left over from a request that was given up are told apart. `Exchange.react` says what one
frame leads to; `Peer` is anything at the other end of the pipe, and the rest of the module goes on
until there is an answer.
-/

namespace Snippet.Wire

open Snippet.Interpreter

/-- A request on its way: its number, and the input lines that are left for it. -/
structure Exchange where
  id : Nat
  cursor : LineCursor
  deriving Repr, DecidableEq

/-- What a frame leads to. -/
inductive Reaction where
  /-- a frame is sent, and the conversation goes on -/
  | reply (frame : HostFrame) (next : Exchange)
  /-- the conversation is over -/
  | answer (output : String) (error : Option ErrorDetail)
  /-- nothing -/
  | ignore
  deriving Repr, DecidableEq

/-- What a frame leads to. A question of another request is answered with the end of input, and its
results are passed over. -/
def Exchange.react (e : Exchange) : DriverFrame → Reaction
  | .input id _ =>
    if id = e.id then
      let (line, cursor) := e.cursor.next
      .reply (.inputReply id line) { e with cursor }
    else .reply (.inputReply id none) e
  | .done id output => if id = e.id then .answer output none else .ignore
  | .error id output message trace =>
    if id = e.id then .answer output (some ((ErrorDetail.ofMessage message).withTrace (some trace)))
    else .ignore
  | .ready _ => .ignore

/-- The other end of the pipe. -/
structure Peer (σ : Type) where
  /-- takes a frame, or says why it cannot be written -/
  send : σ → HostFrame → Option String × σ
  /-- what comes next -/
  receive : σ → Arrival × σ

variable {σ : Type}

/-- The next frame; lines that are none are passed over. The number bounds how many lines are read. -/
def Peer.frame (P : Peer σ) : Nat → σ → (DriverFrame ⊕ Arrival) × σ
  | 0, s => (.inr .silent, s)
  | n + 1, s =>
    match P.receive s with
    | (.line text, s) =>
      match DriverFrame.ofLine? text with
      | some frame => (.inl frame, s)
      | none => P.frame n s
    | (arrival, s) => (.inr arrival, s)

namespace Exchange

/-- The conversation from a point on; no result means that nothing comes any more. The number bounds how
many frames are exchanged. -/
def converse (P : Peer σ) (lines : Nat) : Nat → Exchange → σ → Option Executed × Exchange × σ
  | 0, e, s => (none, e, s)
  | n + 1, e, s =>
    match P.frame lines s with
    | (.inr .ended, s) => (some (.failed .exited), e, s)
    | (.inr (.failed reason), s) => (some (.failed (.io reason)), e, s)
    | (.inr _, s) => (none, e, s)
    | (.inl frame, s) =>
      match e.react frame with
      | .ignore => converse P lines n e s
      | .answer output error => (some (.answered output error), e, s)
      | .reply frame e =>
        match P.send s frame with
        | (none, s) => converse P lines n e s
        | (some reason, s) => (some (.failed (.io reason)), e, s)

/-- The whole conversation about a source. -/
def execute (P : Peer σ) (bound : Nat) (id : Nat) (request : Request) (s : σ) :
    Option Executed × Exchange × σ :=
  let e : Exchange := ⟨id, request.cursor⟩
  match P.send s (.exec id request.source) with
  | (none, s) => converse P bound bound e s
  | (some reason, s) => (some (.failed (.io reason)), e, s)

end Exchange

/-- What the first frame of an interpreter says about it, when it has so long to send one. -/
def Peer.handshake (P : Peer σ) (bound : Nat) (limit : Duration) (s : σ) : Boot × σ :=
  match P.frame bound s with
  | (.inl (.ready _), s) => (.session, s)
  | (.inl frame, s) => (.failure (.handshake ("unexpected message " ++ frame.inspected)), s)
  | (.inr .ended, s) => (.failure (.handshake "interpreter exited during startup"), s)
  | (.inr (.failed reason), s) => (.failure (.handshake (SessionFailure.io reason).message), s)
  | (.inr _, s) => (.failure (.timeout limit), s)

/-! ## Processes -/

/-- A process with the number of the next request on it. -/
structure Line (σ : Type) where
  nextId : Nat
  process : σ

/-- The processes that have been started, with the number of the session that each one carries. -/
structure Pool (σ : Type) where
  lines : List (Nat × Line σ)

/-- How processes come about. -/
structure Launcher (σ : Type) where
  /-- the process that comes about after so many others, unless it cannot be started -/
  launch : Nat → Except BootFailure σ
  /-- how long a process has to announce itself -/
  limit : Duration
  /-- how many lines are read at most -/
  bound : Nat

namespace Pool

/-- No processes. -/
def empty : Pool σ := ⟨[]⟩

/-- The start of a session on a new process. -/
def start (L : Launcher σ) (P : Peer σ) (pool : Pool σ) (attempt : Nat) : Boot × Pool σ :=
  match L.launch pool.lines.length with
  | .error failure => (.failure failure, pool)
  | .ok process =>
    let (boot, process) := P.handshake L.bound L.limit process
    (boot, ⟨pool.lines ++ [(attempt, ⟨1, process⟩)]⟩)

/-- Has the process of a session run a source. -/
def execute (L : Launcher σ) (P : Peer σ) (pool : Pool σ) (session : Nat) (request : Request) :
    Option (Executed × Nat) × Pool σ :=
  match pool.lines.findIdx? (·.1 == session) with
  | none => (none, pool)
  | some i =>
    match pool.lines[i]? with
    | none => (none, pool)
    | some (_, line) =>
      let (executed, e, process) := Exchange.execute P L.bound line.nextId request line.process
      (executed.map fun x => (x, e.cursor.position),
        ⟨pool.lines.set i (session, ⟨line.nextId + 1, process⟩)⟩)

/-- Sessions on processes. -/
def provider (L : Launcher σ) (P : Peer σ) : Provider (Pool σ) where
  start := start L P
  execute := execute L P

end Pool

end Snippet.Wire
