import Snippet.Guest.Play

/-!
# Plays that are carried out

A play leaves open what its texts and questions come to. A `Handler` says so, with a state of its own,
and `Play.handle` carries the play out: up to its end, or up to a question that stays without an answer.
-/

namespace Snippet.Guest

variable {α β σ : Type}

/-- What the deeds of a play come to. -/
structure Handler (σ : Type) where
  write : σ → Text.Points → σ
  cut : σ → σ
  /-- what is known to have been put out -/
  lookBack : σ → Text.Points
  /-- the answer to a question, if it gets one -/
  ask : σ → Question → Option Answer × σ

namespace Play

/-- What a play comes to, if it comes to its end, and the state then. -/
def handle (H : Handler σ) : Play α → σ → Option α × σ
  | .done a, s => (some a, s)
  | .write p next, s => (next ()).handle H (H.write s p)
  | .cut next, s => (next ()).handle H (H.cut s)
  | .lookBack next, s => (next (H.lookBack s)).handle H s
  | .ask q next, s =>
    match H.ask s q with
    | (some a, s) => (next a).handle H s
    | (none, s) => (none, s)

variable {H : Handler σ}

theorem handle_ask {s s' : σ} {q : Question} {a : Answer} (answered : H.ask s q = (some a, s'))
    (next : Answer → Play α) : (Play.ask q next).handle H s = (next a).handle H s' := by
  rw [handle, answered]

/-- One play after another is carried out one after the other. -/
theorem handle_bind (play : Play α) (f : α → Play β) (s : σ) : (play.bind f).handle H s =
    match play.handle H s with
    | (some a, s) => (f a).handle H s
    | (none, s) => (none, s) := by
  induction play generalizing s with
  | done a => rfl
  | write p next ih => exact ih () (H.write s p)
  | cut next ih => exact ih () (H.cut s)
  | lookBack next ih => exact ih (H.lookBack s) s
  | ask q next ih =>
    rw [bind, handle, handle]
    rcases H.ask s q with ⟨_ | a, s'⟩
    · rfl
    · exact ih a s'

/-- What the handler keeps up in each deed holds in the end. -/
theorem handle_preserves {I : σ → Prop} (write : ∀ s p, I s → I (H.write s p))
    (cut : ∀ s, I s → I (H.cut s)) (ask : ∀ s q, I s → I (H.ask s q).2) (play : Play α) {s : σ}
    (start : I s) : I (play.handle H s).2 := by
  induction play generalizing s with
  | done a => exact start
  | write p next ih => exact ih () (write s p start)
  | cut next ih => exact ih () (cut s start)
  | lookBack next ih => exact ih (H.lookBack s) start
  | ask q next ih =>
    have asked := ask s q start
    rw [handle]
    rcases answer : H.ask s q with ⟨_ | a, s'⟩
    · rw [answer] at asked
      exact asked
    · rw [answer] at asked
      exact ih a asked

end Play

end Snippet.Guest
