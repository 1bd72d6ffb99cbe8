import Snippet.Capture
import Snippet.Request
/-!
What a script does to its host, as a tree.

A script can do two things that are seen outside: put a line on a channel, and ask for a line of input.
Between those it computes. `Play.run` carries a tree out against captured output and a cursor over the
input lines; `run_bind` says that carrying out one play after another is carrying out both.
-/

namespace Snippet.Script

/-- What a script does until it is done. -/
inductive Play (α : Type) where
  | done (a : α)
  /-- puts a text on a channel and goes on -/
  | say (channel : Channel) (text : String) (next : Unit → Play α)
  /-- asks for a line of input under a label and goes on with it, if there is one -/
  | ask (label : String) (next : Option String → Play α)

namespace Play

variable {α β : Type}

/-- One play after another. -/
def bind : Play α → (α → Play β) → Play β
  | .done a, f => f a
  | .say channel text next, f => .say channel text fun u => (next u).bind f
  | .ask label next, f => .ask label fun line => (next line).bind f

/-- The part of a host that a script can change. -/
structure Host where
  capture : Capture
  cursor : LineCursor
  deriving Repr, DecidableEq

/-- A host before a script has done anything. -/
def Host.ofLines (lines : List String) : Host := ⟨.empty, .ofLines lines⟩

namespace Host

/-- A line on a channel. -/
def say (h : Host) (channel : Channel) (text : String) : Host :=
  { h with capture := h.capture.push channel text }

/-- The next line of input, which is echoed under the label; without one nothing is. -/
def ask (h : Host) (label : String) : Option String × Host :=
  match h.cursor.next with
  | (some line, cursor) => (some line, ⟨h.capture.push .input (label ++ line), cursor⟩)
  | (none, cursor) => (none, ⟨h.capture, cursor⟩)

end Host

/-- Carries a play out. -/
def run : Play α → Host → α × Host
  | .done a, h => (a, h)
  | .say channel text next, h => (next ()).run (h.say channel text)
  | .ask label next, h => (next (h.ask label).1).run (h.ask label).2

theorem run_bind (p : Play α) (f : α → Play β) (h : Host) :
    (p.bind f).run h = (f (p.run h).1).run (p.run h).2 := by
  induction p generalizing h with
  | done a => rfl
  | say channel text next ih => exact ih () _
  | ask label next ih => exact ih _ _

end Play

end Snippet.Script
