import Snippet.Preview.Document
/-!
The preview renderer: what is shown now, and a debounced render that is due later.

A `Surface` is anything that can show a document and may fail to; `Renderer` is the state around it.
Every call and every passing of time is an `Event`; `Renderer.step` is the whole behaviour. At most
one render is pending, and a new one replaces it.
-/

namespace Snippet.Preview

/-- Something a document can be shown on, with a state of its own. -/
structure Surface (σ : Type) where
  /-- shows a document in place of all else; says whether that worked -/
  render : σ → Document → σ × Bool
  /-- shows the placeholder -/
  showPlaceholder : σ → σ

/-- A render that is due later. -/
structure Pending where
  /-- when it is due, in milliseconds -/
  due : Nat
  source : String
  language : Language
  deriving Repr, DecidableEq

/-- The state of a renderer on a surface. -/
structure Renderer (σ : Type) where
  /-- the surface's own state -/
  surface : σ
  /-- the document that is shown; none while the placeholder is, or nothing yet -/
  current : Option Document
  /-- the render that is due later -/
  pending : Option Pending
  /-- are debounced renders accepted? -/
  auto : Bool
  /-- the renderer still exists -/
  alive : Bool
  /-- the clock, in milliseconds -/
  now : Nat
  deriving Repr

namespace Renderer

variable {σ : Type}

/-- A renderer that has shown nothing. -/
def start (surface : σ) : Renderer σ := ⟨surface, none, none, true, true, 0⟩

/-- The time of day by the renderer's clock. -/
def timestamp (r : Renderer σ) : Timestamp := ⟨(r.now / 1000 : Nat), r.now % 1000 * 1000000⟩

/-- Shows the placeholder. -/
def clear (S : Surface σ) (r : Renderer σ) : Renderer σ :=
  { r with current := none, surface := S.showPlaceholder r.surface }

/-- Shows a document; where the surface fails, the placeholder. -/
def display (S : Surface σ) (r : Renderer σ) (d : Document) : Renderer σ :=
  match S.render r.surface d with
  | (surface, true) => { r with surface, current := some d }
  | (surface, false) => { r with surface }.clear S

/-- Shows a snippet at once; the placeholder if its language has no preview. -/
def update (S : Surface σ) (r : Renderer σ) (source : String) (language : Language) : Renderer σ :=
  match Document.build? source language r.timestamp with
  | some d => r.display S d
  | none => r.clear S

/-- Would a debounced render of the language be accepted? -/
def accepts (r : Renderer σ) (language : Language) : Bool := r.auto && language.isPreviewable

/-- Puts a debounced render in place of the pending one, if it is accepted. -/
def schedule (r : Renderer σ) (source : String) (language : Language) (delay : Nat) : Renderer σ :=
  if r.accepts language then { r with pending := some ⟨r.now + delay, source, language⟩ } else r

/-- Drops the pending render. -/
def cancel (r : Renderer σ) : Renderer σ := { r with pending := none }

/-- Allows or forbids debounced renders; forbidding them drops the pending one. -/
def setAuto (r : Renderer σ) (on : Bool) : Renderer σ :=
  let r := { r with auto := on }
  if on then r else r.cancel

/-- The pending render takes place if it is due. -/
def fire (S : Surface σ) (r : Renderer σ) : Renderer σ :=
  match r.pending with
  | some p => if p.due ≤ r.now then { r with pending := none }.update S p.source p.language else r
  | none => r

/-- Time passes; a render that falls due takes place when it is due. -/
def advance (S : Surface σ) (r : Renderer σ) (by_ : Nat) : Renderer σ :=
  match r.pending with
  | some p =>
    if p.due ≤ r.now + by_ then
      { { r with now := max r.now p.due }.fire S with now := r.now + by_ }
    else { r with now := r.now + by_ }
  | none => { r with now := r.now + by_ }

/-- What can happen to a renderer. -/
inductive Event where
  | update (source : String) (language : Language)
  | display (document : Document)
  | schedule (source : String) (language : Language) (delay : Nat)
  | cancel
  | setAuto (on : Bool)
  | advance (by_ : Nat)
  | drop
  deriving Repr, DecidableEq

/-- The renderer after an event, and everything that is due with it. A renderer that has been dropped
does nothing any more, but the clock goes on. -/
def step (S : Surface σ) (r : Renderer σ) : Event → Renderer σ
  | .advance by_ => r.advance S by_
  | .drop => { r.cancel with alive := false }
  | .update source language => if r.alive then r.update S source language else r
  | .display d => if r.alive then r.display S d else r
  | .schedule source language delay =>
    if r.alive then (r.schedule source language delay).fire S else r
  | .cancel => if r.alive then r.cancel else r
  | .setAuto on => if r.alive then r.setAuto on else r

/-- The renderer after a sequence of events. -/
def run (S : Surface σ) (r : Renderer σ) (events : List Event) : Renderer σ :=
  events.foldl (step S) r

end Renderer

end Snippet.Preview
