import Snippet.Proofs.Preview.Debounce

/-!
# What a renderer is made to show

Whatever reaches a renderer, a snippet or a document that is to be shown at once or a debounced render
that falls due, makes it show one thing at most: `task?` says what, and `present` what comes of it on a
surface. `shown_step` is the whole effect of an event on what is shown.
-/

namespace Snippet.Preview

/-- What comes of showing a document, or the placeholder where there is none. -/
def Surface.present {σ : Type} (S : Surface σ) (s : σ) : Option Document → σ × Option Document
  | none => (S.showPlaceholder s, none)
  | some d =>
    match S.render s d with
    | (t, true) => (t, some d)
    | (t, false) => (S.showPlaceholder t, none)

namespace Renderer

variable {σ : Type} {S : Surface σ} {r : Renderer σ} {e : Event}

/-- What the pending render shows, if it takes place now; `some none` is the placeholder. -/
def fired? (r : Renderer σ) : Option (Option Document) :=
  match r.pending with
  | some p => if p.due ≤ r.now then some (Document.build? p.source p.language r.timestamp) else none
  | none => none

/-- What an event makes the renderer show, if it makes it show anything; `some none` is the
placeholder. -/
def task? (r : Renderer σ) : Event → Option (Option Document)
  | .update source language =>
    if r.alive then some (Document.build? source language r.timestamp) else none
  | .display d => if r.alive then some (some d) else none
  | .schedule source language delay =>
    if r.alive then (r.schedule source language delay).fired? else none
  | .advance by_ =>
    match r.pending with
    | some p => if p.due ≤ r.now + by_ then { r with now := max r.now p.due }.fired? else none
    | none => none
  | .cancel | .setAuto _ | .drop => none

theorem shown_display (d : Document) : (r.display S d).shown = S.present r.surface (some d) := by
  rw [display, Surface.present]
  rcases S.render r.surface d with ⟨t, _ | _⟩ <;> rfl

theorem shown_update_eq_present (source : String) (language : Language) :
    (r.update S source language).shown =
      S.present r.surface (Document.build? source language r.timestamp) := by
  rw [update]
  cases Document.build? source language r.timestamp with
  | none => rfl
  | some d => exact shown_display d

theorem shown_fire : (r.fire S).shown =
    match r.fired? with
    | some x => S.present r.surface x
    | none => r.shown := by
  rw [fire, fired?]
  cases r.pending with
  | none => rfl
  | some p =>
    dsimp only
    by_cases due : p.due ≤ r.now
    · rw [if_pos due, if_pos due]
      exact shown_update_eq_present p.source p.language
    · rw [if_neg due, if_neg due]

/-- A debounced render that is asked for changes nothing that is shown. -/
theorem shown_schedule (source : String) (language : Language) (delay : Nat) :
    (r.schedule source language delay).shown = r.shown := by
  rw [schedule]
  split <;> rfl

theorem shown_advance (by_ : Nat) : (r.advance S by_).shown =
    match r.task? (.advance by_) with
    | some x => S.present r.surface x
    | none => r.shown := by
  rw [advance, task?]
  cases r.pending with
  | none => rfl
  | some p =>
    dsimp only
    by_cases due : p.due ≤ r.now + by_
    · rw [if_pos due, if_pos due]
      exact shown_fire (r := { r with now := max r.now p.due, pending := some p })
    · rw [if_neg due, if_neg due]
      rfl

/-- What is shown after an event is what the event makes the renderer show, or else what was shown. -/
theorem shown_step (S : Surface σ) (r : Renderer σ) (e : Event) : (r.step S e).shown =
    match r.task? e with
    | some x => S.present r.surface x
    | none => r.shown := by
  cases e with
  | update source language =>
    rw [step, task?]
    cases r.alive with
    | true => exact shown_update_eq_present source language
    | false => rfl
  | display d =>
    rw [step, task?]
    cases r.alive with
    | true => exact shown_display d
    | false => rfl
  | schedule source language delay =>
    rw [step, task?]
    cases r.alive with
    | true =>
      have same := shown_schedule (r := r) source language delay
      have surface : (r.schedule source language delay).surface = r.surface := congrArg Prod.fst same
      rw [if_pos rfl, if_pos rfl, shown_fire, surface, same]
    | false => rfl
  | advance by_ => exact shown_advance by_
  | cancel =>
    rw [step, task?]
    split <;> rfl
  | setAuto on =>
    rw [step, task?]
    cases r.alive with
    | true => cases on <;> rfl
    | false => rfl
  | drop => rfl

end Renderer

end Snippet.Preview
