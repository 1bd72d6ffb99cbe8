import Snippet.Guest.Process
import Snippet.Proofs.Guest.Conduct

/-!
# A host and a worker on one pipe

`Link` is a host and a worker at the two ends of a pipe: two queues of lines, the request that holds
the pipe at the moment if there is one, and the number of the next request. `Link.step` is one step
of either side. Requests hold the pipe one at a time; each of them may be given up between any two
frames, before its own frame is out or before a reply is.

The worker takes a line and goes on to its next wait; what it says on the way it writes one line at a
time, while the host may go on, and it does not take another line before all is written.
-/

namespace Snippet.Guest

open Snippet.Text Snippet.Wire

variable {μ : Type}

/-! ## What a host makes of notices -/

namespace Notice

/-- The output and the error that a last notice comes to for a host. -/
def answer? : Notice → Option (String × Option ErrorDetail)
  | .done _ output => return (← text? output, none)
  | .error _ output message trace =>
    return (← text? output,
      some ((ErrorDetail.ofMessage (← text? message)).withTrace (← text? trace)))
  | _ => none

theorem asks_or_ends {n : Notice} {id : Message} (about : n.request? = some id) :
    n.Asks ∨ n.Ends := by
  cases n with
  | ready => cases about
  | input => exact Or.inl trivial
  | done => exact Or.inr trivial
  | error => exact Or.inr trivial

theorem eq_of_number? {i k : Nat} (number : number? (.ofNat k) = some i) : i = k := by
  simp only [number?, Json.ofNat] at number
  split at number
  · exact (Option.some.inj number).symm
  · cases number

/-- A question of a request is answered with its next line, a question of another one with the end
of input. -/
theorem react_of_asks {n : Notice} {k : Nat} (asks : n.Asks) (about : n.request? = some (.ofNat k))
    {frame : DriverFrame} (read : n.frame? = some frame) (e : Exchange) :
    e.react frame =
      if k = e.id then .reply (.inputReply k e.cursor.next.1) { e with cursor := e.cursor.next.2 }
      else .reply (.inputReply k none) e := by
  cases n with
  | input id prompt =>
    cases about
    simp only [frame?, Option.bind_eq_bind, Option.bind_eq_some_iff, Option.pure_def,
      Option.some.injEq] at read
    obtain ⟨i, number, p, _, rfl⟩ := read
    cases eq_of_number? number
    rfl
  | ready => exact asks.elim
  | done => exact asks.elim
  | error => exact asks.elim

/-- The last notice of a request is its answer. -/
theorem react_of_ends {n : Notice} {e : Exchange} (ends : n.Ends)
    (about : n.request? = some (.ofNat e.id)) {frame : DriverFrame} (read : n.frame? = some frame) :
    ∃ output error, e.react frame = .answer output error ∧ n.answer? = some (output, error) := by
  cases n with
  | done id output =>
    cases about
    simp only [frame?, Option.bind_eq_bind, Option.bind_eq_some_iff, Option.pure_def,
      Option.some.injEq] at read
    obtain ⟨i, number, o, output, rfl⟩ := read
    cases eq_of_number? number
    exact ⟨o, none, if_pos rfl, by simp [answer?, output]⟩
  | error id output message trace =>
    cases about
    simp only [frame?, Option.bind_eq_bind, Option.bind_eq_some_iff, Option.pure_def,
      Option.some.injEq] at read
    obtain ⟨i, number, o, output, m, message, t, trace, rfl⟩ := read
    cases eq_of_number? number
    exact ⟨o, _, if_pos rfl, by simp [answer?, output, message, trace]⟩
  | ready => exact ends.elim
  | input => exact ends.elim

/-- The last notice of another request is passed over. -/
theorem react_of_ends_other {n : Notice} {k : Nat} {e : Exchange} (ends : n.Ends)
    (about : n.request? = some (.ofNat k)) (other : k ≠ e.id) {frame : DriverFrame}
    (read : n.frame? = some frame) : e.react frame = .ignore := by
  cases n with
  | done id output =>
    cases about
    simp only [frame?, Option.bind_eq_bind, Option.bind_eq_some_iff, Option.pure_def,
      Option.some.injEq] at read
    obtain ⟨i, number, o, _, rfl⟩ := read
    cases eq_of_number? number
    exact if_neg other
  | error id output message trace =>
    cases about
    simp only [frame?, Option.bind_eq_bind, Option.bind_eq_some_iff, Option.pure_def,
      Option.some.injEq] at read
    obtain ⟨i, number, o, _, m, _, t, _, rfl⟩ := read
    cases eq_of_number? number
    exact if_neg other
  | ready => exact ends.elim
  | input => exact ends.elim

end Notice

/-! ## The pipe -/

/-- A host and a worker on one pipe. -/
structure Link (μ : Type) where
  /-- the number of the next request -/
  nextId : Nat
  /-- the request that holds the pipe -/
  current : Option Exchange
  /-- frames that the worker has not taken, the earliest first -/
  toWorker : List HostFrame
  worker : Worker μ
  /-- notices that the host has not read, the earliest first -/
  toHost : List Notice
  /-- how many of them, at the end, the worker has still to write -/
  unwritten : Nat
  /-- the requests that have been sent, with their numbers -/
  asked : List (Nat × Request)
  /-- everything that the worker has said -/
  said : List Notice
  /-- the requests that have been answered: their numbers, outputs and errors -/
  answered : List (Nat × String × Option ErrorDetail)

namespace Link

/-- A step of either side. -/
inductive Event where
  /-- a request takes the pipe and a number, and is sent unless it is given up before -/
  | ask (request : Request) (sent : Bool)
  /-- the worker takes the next frame, once it has written all that it had to say -/
  | hear
  /-- the worker writes its next notice -/
  | write
  /-- the host reads the next notice for the request that holds the pipe; a reply is sent unless the
  request is given up before -/
  | read (replies : Bool)
  /-- the request that holds the pipe is given up -/
  | leave
  deriving Repr, DecidableEq

/-- A pipe to a worker that has announced itself. -/
def start (world : μ) : Link μ where
  nextId := 1
  current := none
  toWorker := []
  worker := ⟨.idle world, []⟩
  toHost := []
  unwritten := 0
  asked := []
  said := []
  answered := []

/-- A request takes the pipe. -/
def ask (l : Link μ) (request : Request) (sent : Bool) : Link μ :=
  if sent then
    { l with
      nextId := l.nextId + 1
      current := some ⟨l.nextId, request.cursor⟩
      toWorker := l.toWorker ++ [.exec l.nextId request.source]
      asked := l.asked ++ [(l.nextId, request)] }
  else { l with nextId := l.nextId + 1 }

/-- The worker has something to say, and will wait again after it. -/
def speak (l : Link μ) (turn : Worker μ × List Notice) : Link μ :=
  { l with
    worker := turn.1
    toHost := l.toHost ++ turn.2
    unwritten := l.unwritten + turn.2.length
    said := l.said ++ turn.2 }

/-- The host reacts to a frame that it has read. -/
def react (l : Link μ) (e : Exchange) (replies : Bool) (frame : DriverFrame) : Link μ :=
  match e.react frame with
  | .ignore => l
  | .answer output error =>
    { l with current := none, answered := l.answered ++ [(e.id, output, error)] }
  | .reply frame next =>
    if replies then { l with current := some next, toWorker := l.toWorker ++ [frame] }
    else { l with current := none }

/-- The host has read a line. One that is no frame is passed over. -/
def receive (l : Link μ) (e : Exchange) (replies : Bool) (line : String) : Link μ :=
  match DriverFrame.ofLine? line with
  | some frame => l.react e replies frame
  | none => l

/-- One step. Where it cannot be taken nothing happens. -/
def step (P : Programs μ) (l : Link μ) : Event → Link μ
  | .ask request sent => if l.current.isNone then l.ask request sent else l
  | .hear =>
    match l.toWorker, l.unwritten with
    | frame :: rest, 0 => { l with toWorker := rest }.speak (l.worker.hearLine P frame.line)
    | _, _ => l
  | .write => { l with unwritten := l.unwritten - 1 }
  | .read replies =>
    match l.current, l.toHost with
    | some e, notice :: rest =>
      if l.unwritten ≤ rest.length then { l with toHost := rest }.receive e replies notice.line else l
    | _, _ => l
  | .leave => { l with current := none }

theorem react_ignore {l : Link μ} {e : Exchange} {frame : DriverFrame}
    (reaction : e.react frame = .ignore)
    (replies : Bool) : l.react e replies frame = l := by
  rw [react, reaction]

theorem react_answer {l : Link μ} {e : Exchange} {frame : DriverFrame} {output : String}
    {error : Option ErrorDetail} (reaction : e.react frame = .answer output error)
    (replies : Bool) :
    l.react e replies frame =
      { l with current := none, answered := l.answered ++ [(e.id, output, error)] } := by
  rw [react, reaction]

theorem react_reply {l : Link μ} {e next : Exchange} {frame : DriverFrame} {reply : HostFrame}
    (reaction : e.react frame = .reply reply next) (replies : Bool) :
    l.react e replies frame =
      if replies then { l with current := some next, toWorker := l.toWorker ++ [reply] }
      else { l with current := none } := by
  rw [react, reaction]

theorem step_read {P : Programs μ} {l : Link μ} {e : Exchange} {notice : Notice}
    {rest : List Notice}
    (holds : l.current = some e) (next : l.toHost = notice :: rest)
    (written : l.unwritten ≤ rest.length) (replies : Bool) :
    l.step P (.read replies) = { l with toHost := rest }.receive e replies notice.line := by
  simp only [step, holds, next, if_pos written]

theorem step_hear {P : Programs μ} {l : Link μ} {frame : HostFrame} {rest : List HostFrame}
    (next : l.toWorker = frame :: rest) (written : l.unwritten = 0) :
    l.step P .hear = { l with toWorker := rest }.speak (l.worker.hearLine P frame.line) := by
  simp only [step, next, written]

/-- Steps one after another. -/
def run (P : Programs μ) (l : Link μ) (events : List Event) : Link μ := events.foldl (step P) l

theorem run_cons (P : Programs μ) (l : Link μ) (event : Event) (events : List Event) :
    l.run P (event :: events) = (l.step P event).run P events := rfl

theorem run_append (P : Programs μ) (l : Link μ) (before after : List Event) :
    l.run P (before ++ after) = (l.run P before).run P after := List.foldl_append

/-- The worker writes all that it has to say. -/
theorem run_write (P : Programs μ) (l : Link μ) :
    l.run P (List.replicate l.unwritten .write) = { l with unwritten := 0 } := by
  have count : ∀ n, l.run P (List.replicate n .write) = { l with unwritten := l.unwritten - n } := by
    intro n
    induction n with
    | zero => rfl
    | succ n ih =>
      rw [List.replicate_succ', run_append, ih]
      rfl
  rw [count, Nat.sub_self]

end Link

end Snippet.Guest
