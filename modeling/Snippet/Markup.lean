import Snippet.Failure
import Snippet.Preview.Renderer
/-!
The markup backend: it answers a request with a preview document, and shows the document where there
is a renderer. The structure backend beside it answers with a report on the text.
-/

namespace Snippet

/-- What is said when a document has been built. -/
def Preview.confirmation : Language → String
  | .html => "🌐 HTML rendered in preview panel"
  | .css => "🎨 CSS rendered in preview panel"
  | _ => "🟨 JavaScript rendered in preview panel"

/-- The ending of a markup request: a document, or none for a language without preview. -/
def Preview.ending (r : Request) (now : Timestamp) : Ending :=
  match Preview.Document.build? r.source r.language now with
  | some d => .done { Outcome.success (Preview.confirmation r.language) with preview := some d }
  | none => .failed (.fault ("no preview available for " ++ r.language.tag))

/-- A markup request in front of a renderer, which shows the document. -/
def Preview.Renderer.serve {σ : Type} (S : Preview.Surface σ) (renderer : Preview.Renderer σ)
    (r : Request) : Ending × Preview.Renderer σ :=
  let ending := Preview.ending r renderer.timestamp
  match ending with
  | .done { preview := some d, .. } => (ending, renderer.step S (.display d))
  | _ => (ending, renderer)

/-- The outcome of a request for a structural report. -/
def Metrics.outcome (r : Request) : Outcome :=
  let m := Metrics.scan r.source
  { Outcome.success (m.report r.language) with metrics := some m }

end Snippet
