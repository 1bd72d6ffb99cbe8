import Snippet.Guest.Program
import Snippet.Guest.Worker
import Snippet.Wire.Exchange
/-!
Workers as processes: each one at the other end of a pipe, with programs on a machine of its own.
-/

namespace Snippet.Guest

open Snippet.Wire Snippet.Text

/-- A worker behind a pipe, and the lines of it that have not been read. -/
structure Process (μ : Type) where
  worker : Worker μ
  unread : List String

namespace Process

variable {μ : Type}

/-- A process that has just begun. -/
def start (world : μ) (version : Points) : Process μ :=
  let (worker, notices) := Worker.start world version
  ⟨worker, notices.map Notice.line⟩

/-- The process takes a line of the host. -/
def send (P : Programs μ) (s : Process μ) (frame : HostFrame) : Option String × Process μ :=
  match s.worker.stage with
  | .gone _ => (some "Broken pipe (os error 32)", s)
  | _ =>
    let (worker, notices) := s.worker.hearLine P frame.line
    (none, ⟨worker, s.unread ++ notices.map Notice.line⟩)

/-- The next line of the process. -/
def receive (s : Process μ) : Arrival × Process μ :=
  match s.unread with
  | line :: rest => (.line line, { s with unread := rest })
  | [] =>
    match s.worker.stage with
    | .gone _ => (.ended, s)
    | _ => (.silent, s)

/-- A process at the other end of the pipe. -/
def peer (P : Programs μ) : Peer (Process μ) := ⟨send P, receive⟩

end Process

/-- How many lines a conversation may have. -/
def conversationBound : Nat := 1000000000

/-- How processes for programs come about: each with a fresh machine. -/
def launcher (limit : Duration) : Launcher (Process Machine) where
  launch _ := .ok (.start .fresh (pts "3"))
  limit
  bound := conversationBound

/-- Sessions with processes for programs. -/
def provider (limit : Duration) : Interpreter.Provider (Pool (Process Machine)) :=
  Pool.provider (launcher limit) (Process.peer runSource)

end Snippet.Guest
