import Snippet.Markup
import Snippet.Script.Backend
/-!
Routing requests to backends.

Every language has one backend. Whatever a backend ends in, the caller gets a result.
-/

namespace Snippet

/-- What each backend makes of a request. -/
structure Backends where
  script : Request → Ending
  interpreter : Request → Ending
  markup : Request → Ending
  outline : Request → Ending

namespace Backends

/-- What one of the backends makes of a request. -/
def at_ (b : Backends) : Backend → Request → Ending
  | .script => b.script
  | .interpreter => b.interpreter
  | .markup => b.markup
  | .outline => b.outline

/-- What the backend of its language makes of a request. -/
def ending (b : Backends) (r : Request) : Ending := b.at_ r.language.backend r

/-- The result of a request that took `ms` milliseconds. -/
def result (b : Backends) (r : Request) (ms : Float) : RunResult :=
  .ofOutcome r.language (b.ending r).outcome ms

/-- The backends that are normally used; the interpreter is given. -/
def standard (now : Timestamp) (interpreter : Request → Ending) : Backends where
  script := Script.ending
  interpreter
  markup r := Preview.ending r now
  outline r := .done (Metrics.outcome r)

/-- The backends with another one in one place. -/
def with_ (b : Backends) (place : Backend) (f : Request → Ending) : Backends :=
  match place with
  | .script => { b with script := f }
  | .interpreter => { b with interpreter := f }
  | .markup => { b with markup := f }
  | .outline => { b with outline := f }

end Backends

/-- Markup is served in front of a renderer, all other requests without one. -/
def Preview.Renderer.dispatch {σ : Type} (S : Preview.Surface σ) (renderer : Preview.Renderer σ)
    (b : Backends) (r : Request) (ms : Float) : RunResult × Preview.Renderer σ :=
  match r.language.backend with
  | .markup =>
    let (ending, renderer) := renderer.serve S r
    (.ofOutcome r.language ending.outcome ms, renderer)
  | _ => (b.result r ms, renderer)

end Snippet
