import Snippet.Proofs.Preview.Mirror

/-!
# What a dispatched request shows

A request that is dispatched in front of a renderer is answered as it would be without one
(`dispatch_answer`), and only markup reaches the surface: its document is shown once, and the placeholder
where that fails (`dispatch_markup`); with any other language the renderer stays what it is
(`dispatch_other`). Two answers are compared but for their times (`RunResult.timeless`).
-/

namespace Snippet

open Preview

/-- The document, whenever it was built. -/
def Preview.Document.timeless (d : Document) : Document := { d with generatedAt := ⟨0, 0⟩ }

/-- The result, whenever it was given and however long it took. -/
def RunResult.timeless (r : RunResult) : RunResult :=
  { r with preview := r.preview.map Document.timeless, milliseconds := 0 }

/-- The backends with the markup one, which has no renderer, at an instant. -/
def Backends.unshown (b : Backends) (now : Timestamp) : Backends :=
  b.with_ .markup fun request => Preview.ending request now

variable {b : Backends} {request : Request} {ms : Float} {now : Timestamp}

/-! ## Answers -/

theorem Language.backend_eq_markup_iff {l : Language} :
    l.backend = .markup ↔ l = .html ∨ l = .css := by
  cases l <;> simp [Language.backend]

/-- Every markup request has a document. -/
theorem exists_build? (markup : request.language = .html ∨ request.language = .css)
    (now : Timestamp) : ∃ d, Document.build? request.source request.language now = some d := by
  unfold Document.build?
  rcases markup with same | same <;> rw [same] <;> exact ⟨_, rfl⟩

theorem result_of_markup (b : Backends)
    (markup : request.language = .html ∨ request.language = .css) :
    (b.unshown now).result request ms = .ofOutcome request.language (Preview.ending request now).outcome ms := by
  unfold Backends.result Backends.ending
  rw [Language.backend_eq_markup_iff.mpr markup]
  rfl

theorem result_of_other (other : ¬ (request.language = .html ∨ request.language = .css)) :
    (b.unshown now).result request ms = b.result request ms := by
  rw [← Language.backend_eq_markup_iff] at other
  unfold Backends.result Backends.ending
  cases backend : request.language.backend with
  | markup => exact absurd backend other
  | script => rfl
  | interpreter => rfl
  | outline => rfl

theorem preview_of_build? {d : Document}
    (built : Document.build? request.source request.language now = some d) :
    (Preview.ending request now).outcome.preview = some d := by
  unfold Preview.ending
  rw [built]
  rfl

/-- An answer without a renderer depends on the instant and the duration only in its times. -/
theorem timeless_result (b : Backends) (request : Request) (now now' : Timestamp) (ms ms' : Float) :
    ((b.unshown now).result request ms).timeless =
      ((b.unshown now').result request ms').timeless := by
  by_cases markup : request.language = .html ∨ request.language = .css
  · rw [result_of_markup b markup, result_of_markup b markup]
    unfold Preview.ending Document.build?
    rcases markup with same | same <;> rw [same] <;> rfl
  · rw [result_of_other markup, result_of_other markup]
    rfl

namespace Preview.Renderer

variable {σ : Type} {S : Surface σ} {r : Renderer σ}

/-- A renderer does not change the answer. -/
theorem dispatch_answer (S : Surface σ) (r : Renderer σ) (b : Backends) (request : Request)
    (ms : Float) :
    (r.dispatch S b request ms).1 = (b.unshown r.timestamp).result request ms := by
  unfold dispatch
  split
  next markup =>
    rw [Language.backend_eq_markup_iff] at markup
    obtain ⟨d, built⟩ := exists_build? markup r.timestamp
    rw [result_of_markup b markup, serve]
    dsimp only
    unfold ending
    rw [built]
  next other =>
    rw [Language.backend_eq_markup_iff] at other
    rw [result_of_other other]

/-! ## What is shown -/

@[simp] theorem pending_display (d : Document) : (r.display S d).pending = r.pending := by
  unfold display
  split <;> rfl

/-- With markup, showing its document is all that is done to the renderer. -/
theorem dispatch_markup {d : Document} (alive : r.alive = true)
    (markup : request.language = .html ∨ request.language = .css)
    (built : Document.build? request.source request.language r.timestamp = some d) :
    (r.dispatch S b request ms).2 = r.display S d := by
  have moved := move_eq S r (.dispatch b request ms)
  rw [Move.event?, if_pos (Language.backend_eq_markup_iff.mpr markup), built] at moved
  refine moved.trans ?_
  exact if_pos alive

/-- With any other language nothing is done to the renderer. -/
theorem dispatch_other (S : Surface σ) (r : Renderer σ) (b : Backends) (ms : Float)
    (other : ¬ (request.language = .html ∨ request.language = .css)) :
    (r.dispatch S b request ms).2 = r := by
  have moved := move_eq S r (.dispatch b request ms)
  rw [Move.event?, if_neg (mt Language.backend_eq_markup_iff.mp other)] at moved
  exact moved

/-- A request that is dispatched in front of a renderer, on a surface whose calls are noted down. The
answer is, but for times, the one without a renderer, whatever the renderer and the surface do. For HTML
and CSS there is one more call, which shows the document of the answer, and where that fails another one,
for the placeholder; the renderer then keeps the document, or none. For any other language the renderer
stays as it is: there is no call, and neither what it keeps nor what is pending changes. Noting the calls
down changes nothing. -/
theorem dispatch_shows_markup (S : Surface σ) {r : Renderer (σ × List Call)} (alive : r.alive = true)
    (b : Backends) (request : Request) (ms : Float) :
    let answer := (r.dispatch S.noting b request ms).1
    let after := (r.dispatch S.noting b request ms).2
    (∀ now ms', answer.timeless = ((b.unshown now).result request ms').timeless) ∧
    (request.language = .html ∨ request.language = .css →
      ∃ d, answer.preview = some d ∧ after.pending = r.pending ∧
        if (S.render r.surface.1 d).2 then
          after.surface.2 = r.surface.2 ++ [.rendered d] ∧ after.current = answer.preview
        else
          after.surface.2 = r.surface.2 ++ [.refused d, .placeholder] ∧ after.current = none) ∧
    (¬ (request.language = .html ∨ request.language = .css) → after = r) ∧
    answer = (r.unnoted.dispatch S b request ms).1 ∧
    after.unnoted = (r.unnoted.dispatch S b request ms).2 := by
  intro answer after
  have answered : answer = (b.unshown r.timestamp).result request ms :=
    dispatch_answer S.noting r b request ms
  refine ⟨fun now ms' => ?_, fun markup => ?_, fun other => ?_, ?_, ?_⟩
  · rw [answered]
    exact timeless_result b request r.timestamp now ms ms'
  · obtain ⟨d, built⟩ := exists_build? markup r.timestamp
    have previewed : answer.preview = some d := by
      rw [answered, result_of_markup b markup]
      exact preview_of_build? built
    have displayed : after = r.display S.noting d := dispatch_markup alive markup built
    have shown : after.shown = _ := displayed ▸ shown_display d
    rw [show r.surface = (r.surface.1, r.surface.2) from rfl, present_noting] at shown
    obtain ⟨surface, current⟩ := Prod.mk.inj shown
    refine ⟨d, previewed, by rw [displayed, pending_display], ?_⟩
    rw [surface, current, previewed]
    unfold Surface.calls Surface.present
    rcases worked : S.render r.surface.1 d with ⟨t, _ | _⟩
    · simp [worked]
    · simp [worked]
  · exact dispatch_other S.noting r b ms other
  · rw [answered, dispatch_answer]
    rfl
  · exact unnoted_move (.dispatch b request ms)

/-- A page is to be shown while an older one is and another one is pending, and the surface fails: the
placeholder is shown, and what is pending stays so. -/
theorem dispatch_shows_markup_refused :
    let S : Surface Unit := ⟨fun s _ => (s, false), id⟩
    let r : Renderer (Unit × List Call) :=
      ⟨((), []), some ⟨"older", .html, ⟨0, 0⟩⟩, some ⟨5, "old", .html⟩, true, true, 0⟩
    let b : Backends := .standard ⟨0, 0⟩ fun _ => .done (.success "")
    let after := (r.dispatch S.noting b ⟨"new", .html, []⟩ 0).2
    r.alive = true ∧ after.pending = some ⟨5, "old", .html⟩ ∧ after.current = none ∧
      after.surface.2 = [.refused ⟨"new", .html, ⟨0, 0⟩⟩, .placeholder] := by
  intro S r b after
  have alive : r.alive = true := rfl
  have begun : r.timestamp = ⟨0, 0⟩ := by decide
  obtain ⟨-, shows, -⟩ := dispatch_shows_markup S alive b ⟨"new", .html, []⟩ 0
  obtain ⟨d, answered, pending, refused, current⟩ := shows (.inl rfl)
  cases answered
  rw [← begun]
  exact ⟨alive, pending, current, refused⟩

end Preview.Renderer

end Snippet
