import Snippet.Dispatch
import Snippet.Proofs.Preview.Showing

/-!
# What a renderer says is shown

A renderer keeps the document that is shown apart from the surface that shows it. Here every call to
the surface is noted down, and after whatever was done, to the renderer itself or through a request,
the document the renderer keeps is the one the last call has shown.
-/

namespace Snippet.Preview

/-- A call to a surface, and what came of it. -/
inductive Call where
  /-- the document was shown -/
  | rendered (d : Document)
  /-- the document could not be shown -/
  | refused (d : Document)
  | placeholder
  deriving Repr, DecidableEq

/-- A surface that notes down every call. -/
def Surface.noting {σ : Type} (S : Surface σ) : Surface (σ × List Call) where
  render s d :=
    match S.render s.1 d with
    | (t, true) => ((t, s.2 ++ [.rendered d]), true)
    | (t, false) => ((t, s.2 ++ [.refused d]), false)
  showPlaceholder s := (S.showPlaceholder s.1, s.2 ++ [.placeholder])

/-- The calls that showing a document, or the placeholder, comes to. -/
def Surface.calls {σ : Type} (S : Surface σ) (s : σ) : Option Document → List Call
  | none => [.placeholder]
  | some d => if (S.render s d).2 then [.rendered d] else [.refused d, .placeholder]

/-- Right after every document that could not be shown the placeholder was. -/
def Followed (calls : List Call) : Prop :=
  ∀ i d, calls[i]? = some (.refused d) → calls[i + 1]? = some .placeholder

/-- The document that is kept is the one the last call has shown; there is none if the last call has
shown the placeholder, or if there was no call. -/
structure Mirrors (calls : List Call) (current : Option Document) : Prop where
  shows : ∀ d, current = some d ↔ calls.getLast? = some (.rendered d)
  idle : current = none ↔ calls = [] ∨ calls.getLast? = some .placeholder
  followed : Followed calls

variable {σ : Type} {S : Surface σ} {calls more : List Call} {current : Option Document}

/-! ## One call after another -/

theorem Followed.append (first : Followed calls) (second : Followed more) :
    Followed (calls ++ more) := by
  intro i d here
  rw [List.getElem?_append] at here
  split at here
  next before =>
    have placeholder := first i d here
    obtain ⟨inside, -⟩ := List.getElem?_eq_some_iff.mp placeholder
    rw [List.getElem?_append_left inside, placeholder]
  next after =>
    have placeholder := second _ d here
    have shift : i + 1 - calls.length = i - calls.length + 1 := by omega
    rw [List.getElem?_append_right (by omega), shift, placeholder]

theorem followed_calls (S : Surface σ) (s : σ) (x : Option Document) : Followed (S.calls s x) := by
  intro i d here
  cases x with
  | none => cases i <;> cases here
  | some d' =>
    rw [Surface.calls] at here ⊢
    split at here
    next => cases i <;> cases here
    next failed =>
      rw [if_neg failed]
      rcases i with _ | _ | i
      · rfl
      · cases here
      · cases here

theorem mirrors_nil : Mirrors [] none := ⟨fun _ => iff_of_false nofun nofun, by simp, nofun⟩

/-- Showing something keeps the mirror, whatever the surface does. -/
theorem Mirrors.present (h : Mirrors calls current) (S : Surface σ) (s : σ) (x : Option Document) :
    Mirrors (calls ++ S.calls s x) (S.present s x).2 := by
  have followed : Followed (calls ++ S.calls s x) := h.followed.append (followed_calls S s x)
  refine ⟨?_, ?_, followed⟩
  · cases x with
    | none => simp [Surface.present, Surface.calls]
    | some d =>
      rcases worked : S.render s d with ⟨t, _ | _⟩ <;>
        simp [Surface.present, Surface.calls, worked]
  · cases x with
    | none => simp [Surface.present, Surface.calls]
    | some d =>
      rcases worked : S.render s d with ⟨t, _ | _⟩ <;>
        simp [Surface.present, Surface.calls, worked]

/-- The noting surface shows what the surface itself shows, and notes how. -/
theorem present_noting (s : σ) (calls : List Call) (x : Option Document) :
    S.noting.present (s, calls) x =
      (((S.present s x).1, calls ++ S.calls s x), (S.present s x).2) := by
  cases x with
  | none => rfl
  | some d =>
    cases worked : S.render s d with
    | mk t b => cases b <;> simp [Surface.present, Surface.noting, Surface.calls, worked]

namespace Renderer

/-! ## What is done to a renderer -/

/-- What is done to a renderer: an event, a markup request that the backend serves in front of it, or
any request that is dispatched. -/
inductive Move where
  | event (e : Event)
  | serve (request : Request)
  | dispatch (backends : Backends) (request : Request) (ms : Float)

/-- The renderer after a move. -/
def move (S : Surface σ) (r : Renderer σ) : Move → Renderer σ
  | .event e => r.step S e
  | .serve request => (r.serve S request).2
  | .dispatch backends request ms => (r.dispatch S backends request ms).2

/-- The renderer after a sequence of moves. -/
def moves (S : Surface σ) (r : Renderer σ) (ms : List Move) : Renderer σ := ms.foldl (move S) r

/-- The renderer on the surface itself. -/
def unnoted (r : Renderer (σ × List Call)) : Renderer σ := { r with surface := r.surface.1 }

variable {r : Renderer σ} {q : Renderer (σ × List Call)}

/-- The event that a move comes to, if it comes to any. -/
def Move.event? (now : Timestamp) : Move → Option Event
  | .event e => some e
  | .serve request => (Document.build? request.source request.language now).map .display
  | .dispatch _ request _ =>
    if request.language.backend = .markup then
      (Document.build? request.source request.language now).map .display
    else none

theorem serve_eq (request : Request) : (r.serve S request).2 =
    match Document.build? request.source request.language r.timestamp with
    | some d => r.step S (.display d)
    | none => r := by
  rw [serve, ending]
  cases Document.build? request.source request.language r.timestamp <;> rfl

theorem move_eq (S : Surface σ) (r : Renderer σ) (m : Move) : r.move S m =
    match m.event? r.timestamp with
    | some e => r.step S e
    | none => r := by
  cases m with
  | event e => rfl
  | serve request =>
    rw [move, serve_eq, Move.event?]
    cases Document.build? request.source request.language r.timestamp <;> rfl
  | dispatch backends request ms =>
    rw [move, dispatch, Move.event?]
    split
    next markup =>
      rw [if_pos markup]
      refine (serve_eq request).trans ?_
      cases Document.build? request.source request.language r.timestamp <;> rfl
    next other => rw [if_neg other]

/-! ## The surface is not disturbed -/

@[simp] theorem timestamp_unnoted : q.unnoted.timestamp = q.timestamp := rfl

@[simp] theorem now_unnoted : q.unnoted.now = q.now := rfl

@[simp] theorem pending_unnoted : q.unnoted.pending = q.pending := rfl

@[simp] theorem alive_unnoted : q.unnoted.alive = q.alive := rfl

theorem unnoted_display (d : Document) :
    (q.display S.noting d).unnoted = q.unnoted.display S d := by
  rw [display, display]
  dsimp only [Surface.noting, unnoted]
  rcases S.render q.surface.1 d with ⟨t, _ | _⟩ <;> rfl

theorem unnoted_update (source : String) (language : Language) :
    (q.update S.noting source language).unnoted = q.unnoted.update S source language := by
  rw [update, update, timestamp_unnoted]
  cases Document.build? source language q.timestamp with
  | none => rfl
  | some d => exact unnoted_display d

theorem unnoted_fire : (q.fire S.noting).unnoted = q.unnoted.fire S := by
  rw [fire, fire, pending_unnoted, now_unnoted]
  split
  next p pending =>
    split
    next => exact unnoted_update p.source p.language
    next => rfl
  next => rfl

theorem unnoted_advance (by_ : Nat) :
    (q.advance S.noting by_).unnoted = q.unnoted.advance S by_ := by
  rw [advance, advance, pending_unnoted, now_unnoted]
  split
  next p pending =>
    split
    next =>
      have fired := unnoted_fire (S := S) (q := { q with now := max q.now p.due })
      exact congrArg (fun r : Renderer σ => { r with now := q.now + by_ }) fired
    next => rfl
  next => rfl

theorem unnoted_schedule (source : String) (language : Language) (delay : Nat) :
    (q.schedule source language delay).unnoted = q.unnoted.schedule source language delay := by
  have same : q.unnoted.accepts language = q.accepts language := rfl
  rw [schedule, schedule, same]
  split <;> rfl

/-- A renderer does the same on a surface that notes the calls as on the surface itself. -/
theorem unnoted_step (e : Event) : (q.step S.noting e).unnoted = q.unnoted.step S e := by
  cases e with
  | update source language =>
    rw [step, step, alive_unnoted]
    split
    next => exact unnoted_update source language
    next => rfl
  | display d =>
    rw [step, step, alive_unnoted]
    split
    next => exact unnoted_display d
    next => rfl
  | schedule source language delay =>
    rw [step, step, alive_unnoted]
    split
    next => rw [unnoted_fire, unnoted_schedule]
    next => rfl
  | advance by_ => exact unnoted_advance by_
  | cancel =>
    rw [step, step, alive_unnoted]
    split <;> rfl
  | setAuto on =>
    rw [step, step, alive_unnoted]
    split
    next => cases on <;> rfl
    next => rfl
  | drop => rfl

theorem unnoted_move (m : Move) : (q.move S.noting m).unnoted = q.unnoted.move S m := by
  rw [move_eq, move_eq, timestamp_unnoted]
  cases m.event? q.timestamp with
  | none => rfl
  | some e => exact unnoted_step e

theorem unnoted_moves (ms : List Move) : (q.moves S.noting ms).unnoted = q.unnoted.moves S ms := by
  induction ms generalizing q with
  | nil => rfl
  | cons m ms ih => exact (ih (q := q.move S.noting m)).trans (by rw [unnoted_move]; rfl)

/-! ## The whole run -/

/-- What a move adds to the calls, and what is kept then. -/
theorem mirrors_move (h : Mirrors q.surface.2 q.current) (m : Move) :
    Mirrors (q.move S.noting m).surface.2 (q.move S.noting m).current := by
  rw [move_eq]
  cases m.event? q.timestamp with
  | none => exact h
  | some e =>
    have shown := shown_step S.noting q e
    cases task : q.task? e with
    | none =>
      rw [task] at shown
      obtain ⟨surface, current⟩ := Prod.mk.inj shown
      dsimp only
      rw [surface, current]
      exact h
    | some x =>
      rw [task] at shown
      obtain ⟨surface, current⟩ := Prod.mk.inj (shown.trans (present_noting q.surface.1 q.surface.2 x))
      dsimp only
      rw [surface, current]
      exact h.present S q.surface.1 x

theorem mirrors_moves (h : Mirrors q.surface.2 q.current) (ms : List Move) :
    Mirrors (q.moves S.noting ms).surface.2 (q.moves S.noting ms).current := by
  induction ms generalizing q with
  | nil => exact h
  | cons m ms ih => exact ih (mirrors_move h m)

/-- Whatever the surface does with the documents it is given, and whatever is done to the renderer: the
document that is kept is `d` exactly if the last call has shown `d`, and there is none exactly if there
was no call or the last one has shown the placeholder; after a document that could not be shown the
placeholder was shown at once. Noting the calls down changes nothing. -/
theorem current_mirrors_calls (S : Surface σ) (surface : σ) (ms : List Move) :
    let r := (start (surface, [])).moves S.noting ms
    let calls := r.surface.2
    (∀ d, r.current = some d ↔ calls.getLast? = some (.rendered d)) ∧
      (r.current = none ↔ calls = [] ∨ calls.getLast? = some .placeholder) ∧
      (∀ i d, calls[i]? = some (.refused d) → calls[i + 1]? = some .placeholder) ∧
      r.unnoted = (start surface).moves S ms := by
  intro r calls
  have mirrors : Mirrors calls r.current := mirrors_moves mirrors_nil ms
  exact ⟨mirrors.shows, mirrors.idle, mirrors.followed, unnoted_moves ms⟩

end Renderer

end Snippet.Preview
