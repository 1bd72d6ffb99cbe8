import Mathlib.Tactic.Common
import Snippet.Review.Bundle

/-!
# A review is usable whatever the model does

A model that is waited for is asked first and the clock second, at every instant until one of them puts
an end to it; `await` is this loop, and `await_eq` says where it ends. What the model has come to then,
be it nothing, a panic, a failure, or a text with nothing to see in it, decides over the insight alone:
`review_usable` says which insight it is, and that the local half of the review is the same for all
models.
-/

namespace Snippet.Review

open Text

variable {c : Course} {model : Option Course} {limit now t : Nat} {reply : Reply} {text : String}

/-! ## Waiting -/

/-- What a model has come to at an instant, if it has come to anything. -/
def Course.poll (c : Course) (now : Nat) : Option Reply :=
  match c.after with
  | some t => if t ≤ now then some c.reply else none
  | none => none

/-- What comes of waiting for a model from an instant on, and when; nothing once the limit is reached. -/
def Course.await (c : Course) (limit now : Nat) : Option Reply × Nat :=
  match c.poll now with
  | some reply => (some reply, now)
  | none => if limit ≤ now then (none, now) else c.await limit (now + 1)
termination_by limit - now

namespace Course

theorem poll_eq_some_iff : c.poll now = some reply ↔
    (∃ t, c.after = some t ∧ t ≤ now) ∧ reply = c.reply := by
  rw [poll]
  cases c.after with
  | none => simp
  | some t => by_cases come : t ≤ now <;> simp [come, eq_comm]

theorem poll_eq_none_iff : c.poll now = none ↔ ∀ t, c.after = some t → now < t := by
  rw [poll]
  cases c.after with
  | none => simp
  | some t => simp

/-- Waiting ends when the answer comes, or at the limit if it has not come by then. -/
theorem await_eq (early : now ≤ limit) (ahead : ∀ t, c.after = some t → now ≤ t) :
    c.await limit now = match c.after with
      | some t => if t ≤ limit then (some c.reply, t) else (none, limit)
      | none => (none, limit) := by
  -- as long as the answer is ahead so is the limit, and one instant brings both nearer
  fun_induction Course.await c limit now with
  | case1 now reply come =>
    obtain ⟨⟨t, after, past⟩, rfl⟩ := poll_eq_some_iff.mp come
    have same : t = now := Nat.le_antisymm past (ahead t after)
    subst same
    rw [after]
    exact (if_pos early).symm
  | case2 now pending past =>
    have same : now = limit := Nat.le_antisymm early past
    subst same
    cases after : c.after with
    | none => rfl
    | some t =>
      have later := poll_eq_none_iff.mp pending t after
      exact (if_neg (Nat.not_le_of_lt later)).symm
  | case3 now pending short ih =>
    exact ih (Nat.lt_of_not_le short) fun t after => poll_eq_none_iff.mp pending t after

/-- A model is waited for as long as the loop takes, and its insight is what came of it. -/
theorem await_zero (c : Course) (limit : Nat) :
    (c.await limit 0).1.bind Reply.insight? = c.insight? limit ∧
      (c.await limit 0).2 = c.waited limit := by
  rw [await_eq (Nat.zero_le _) fun t _ => Nat.zero_le t, insight?, waited]
  cases c.after with
  | none => exact ⟨rfl, rfl⟩
  | some t =>
    by_cases come : t ≤ limit
    · dsimp only
      rw [if_pos come, if_pos come]
      exact ⟨rfl, (Nat.min_eq_left come).symm⟩
    · dsimp only
      rw [if_neg come, if_neg come]
      exact ⟨rfl, (Nat.min_eq_right (Nat.le_of_not_le come)).symm⟩

end Course

/-! ## The insight -/

/-- The model answers with a text, at the limit at the latest. -/
def Answers (model : Option Course) (limit : Nat) (text : String) : Prop :=
  ∃ c ∈ model, c.reply = .text text ∧ ∃ t ∈ c.after, t ≤ limit

theorem Reply.insight?_eq_some_iff :
    reply.insight? = some text ↔ reply = .text text ∧ isBlankText text = false := by
  cases reply with
  | text insight =>
    rw [Reply.insight?]
    cases blank : isBlankText insight with
    | true =>
      refine iff_of_false nofun ?_
      rintro ⟨same, shows⟩
      cases same
      rw [blank] at shows
      cases shows
    | false =>
      constructor
      · intro same
        cases same
        exact ⟨rfl, blank⟩
      · rintro ⟨same, -⟩
        cases same
        rfl
  | failed reason => exact iff_of_false nofun fun both => nomatch both.1
  | panicked reason => exact iff_of_false nofun fun both => nomatch both.1

theorem Course.insight?_eq_some_iff : c.insight? limit = some text ↔
    (c.reply = .text text ∧ ∃ t ∈ c.after, t ≤ limit) ∧ isBlankText text = false := by
  rw [Course.insight?]
  cases c.after with
  | none => simp
  | some t =>
    by_cases come : t ≤ limit
    · simp [come, Reply.insight?_eq_some_iff]
    · simp [come]

theorem isBlankText_fallback : isBlankText fallback = false := by decide +kernel

/-- The insight that a review is made with. -/
def insightOf (model : Option Course) (limit : Nat) : Option String :=
  model.bind fun c => c.insight? limit

theorem insightOf_eq_some_iff :
    insightOf model limit = some text ↔ Answers model limit text ∧ isBlankText text = false := by
  rw [insightOf, Answers]
  cases model with
  | none => simp
  | some c => simp [Course.insight?_eq_some_iff]

theorem review_eq (model : Option Course) (limit : Nat) (source : String) (language : Language)
    (now : Timestamp) : (review model limit source language now).1 =
      .make (insightOf model limit) source language now := by
  cases model <;> rfl

/-- Without a model a review is made at once; with one it takes as long as the model is waited for, which
is until its answer or the limit, whichever comes first. It is not degraded exactly if the model
answered in time with a text that shows something, which is then the insight; otherwise the insight is
the one that stands in, and so it is never blank. All else is a matter of the source and its language
alone. -/
theorem review_usable (model : Option Course) (limit : Nat) (source : String) (language : Language)
    (now : Timestamp) :
    let (bundle, took) := review model limit source language now
    (model = none → took = 0) ∧
      (∀ c, model = some c → took = (c.await limit 0).2 ∧ took = c.after.elim limit (min · limit)) ∧
      (bundle.degraded = false ↔ ∃ text, Answers model limit text ∧ isBlankText text = false) ∧
      (∀ text, Answers model limit text → isBlankText text = false → bundle.insight = text) ∧
      (bundle.degraded = true → bundle.insight = fallback) ∧
      isBlankText bundle.insight = false ∧
      ∀ model' limit', let other := (review model' limit' source language now).1
        bundle.findings = other.findings ∧ bundle.codeLength = other.codeLength ∧
          bundle.language = other.language := by
  have made := review_eq model limit source language now
  rcases reviewed : review model limit source language now with ⟨bundle, took⟩
  rw [reviewed] at made
  dsimp only at made
  have degraded_eq : bundle.degraded = (insightOf model limit).isNone := by
    rw [made]
    rfl
  have insight_eq : bundle.insight = (insightOf model limit).getD fallback := by
    rw [made]
    rfl
  have waited : ∀ c, model = some c → took = c.waited limit := by
    rintro c rfl
    exact (congrArg Prod.snd reviewed).symm
  refine ⟨?_, fun c here => ⟨?_, ?_⟩, ?_, fun text answers shows => ?_, fun degraded => ?_, ?_,
    fun _ _ => ?_⟩
  · rintro rfl
    exact (congrArg Prod.snd reviewed).symm
  · rw [waited c here, (c.await_zero limit).2]
  · rw [waited c here, Course.waited]
    cases c.after <;> rfl
  · rw [degraded_eq, Option.isNone_eq_false_iff, Option.isSome_iff_exists]
    exact exists_congr fun text => insightOf_eq_some_iff
  · rw [insight_eq, insightOf_eq_some_iff.mpr ⟨answers, shows⟩, Option.getD_some]
  · rw [degraded_eq, Option.isNone_iff_eq_none] at degraded
    rw [insight_eq, degraded, Option.getD_none]
  · rw [insight_eq]
    cases given : insightOf model limit with
    | none => exact isBlankText_fallback
    | some text => exact (insightOf_eq_some_iff.mp given).2
  · rw [review_eq, made]
    exact ⟨rfl, rfl, rfl⟩

end Snippet.Review
