import Mathlib.Tactic.Common
import Snippet.Proofs.Script.Deeds

/-!
# What a script can come to

`Play.Ends` says what holds at all ends of a play, whatever lines it is given; `Run.Yields` says it of
the values that a computation yields from any machine, and `Run.Settles` that it yields one unless the
engine stops. A script settles. Carried through the report on an exception they give what is known of
every error of a script: it has no hint, and its trace is not blank.
-/

namespace Snippet

/-- An error as the programs themselves report it: without a hint, and without a trace that is blank. -/
structure ErrorDetail.Plain (d : ErrorDetail) : Prop where
  hint : d.hint = none
  trace : ∀ t, d.trace = some t → Text.isBlankText t = false

namespace ErrorDetail

theorem Plain.ofMessage (message : String) : (ErrorDetail.ofMessage message).Plain := ⟨rfl, nofun⟩

theorem Plain.withTrace (message : String) (trace : Option String) :
    ((ErrorDetail.ofMessage message).withTrace trace).Plain := by
  refine ⟨rfl, ?_⟩
  intro t kept
  have shows := (Option.filter_eq_some_iff.mp kept).2
  simpa using shows

end ErrorDetail

namespace Script

namespace Play

variable {α β : Type} {Q : α → Prop}

/-- All ends of a play. -/
def Ends (Q : α → Prop) : Play α → Prop
  | done a => Q a
  | say _ _ next => (next ()).Ends Q
  | ask _ next => ∀ line, (next line).Ends Q

theorem Ends.always (holds : ∀ a, Q a) (p : Play α) : p.Ends Q := by
  induction p with
  | done a => exact holds a
  | say channel text next ih => exact ih ()
  | ask label next ih => exact fun line => ih line

theorem Ends.bind {R : β → Prop} {p : Play α} {f : α → Play β} (ends : p.Ends Q)
    (goesOn : ∀ a, Q a → (f a).Ends R) : (p.bind f).Ends R := by
  induction p with
  | done a => exact goesOn a ends
  | say channel text next ih => exact ih () ends
  | ask label next ih => exact fun line => ih line (ends line)

theorem Ends.comesTo {p : Play α} (ends : p.Ends Q) (input : List String) : Q (p.comesTo input) := by
  induction p generalizing input with
  | done a => exact ends
  | say channel text next ih => exact ih () ends input
  | ask label next ih =>
    cases input with
    | nil => exact ih none (ends none) []
    | cons line input => exact ih (some line) (ends (some line)) input

end Play

namespace Run

variable {α β : Type} {Q : α → Prop} {R : β → Prop}

/-- All values that a computation yields, from whatever machine. -/
def Yields (Q : α → Prop) (r : Run α) : Prop :=
  ∀ m, (r m).Ends fun ending => ∀ a m', ending = .ok (.ok a, m') → Q a

theorem Yields.pure {a : α} (holds : Q a) : Yields Q (return a) := by
  intro m a' m' same
  cases same
  exact holds

theorem Yields.bind {r : Run α} {f : α → Run β} (yields : Yields Q r)
    (goesOn : ∀ a, Q a → Yields R (f a)) : Yields R (r >>= f) := by
  intro m
  refine (yields m).bind ?_
  intro ending known
  match ending with
  | .ok (.ok a, m') => exact goesOn a (known a m' rfl) m'
  | .ok (.error e, m') => exact nofun
  | .error cause => exact nofun

theorem Yields.always (holds : ∀ a, Q a) (r : Run α) : Yields Q r :=
  fun m => .always (fun _ a _ _ => holds a) (r m)

/-- Where it does not matter what the first computation yields. -/
theorem Yields.after {r : Run α} {f : α → Run β} (goesOn : ∀ a, Yields R (f a)) :
    Yields R (r >>= f) :=
  .bind (.always (Q := fun _ => True) (fun _ => trivial) r) fun a _ => goesOn a

/-- A computation never ends abruptly: it yields a value unless the engine stops. -/
def Settles (r : Run α) : Prop := ∀ m, (r m).Ends fun ending => ∀ e m', ending ≠ .ok (.error e, m')

theorem Settles.pure (a : α) : Settles (return a) := fun _ => nofun

theorem Settles.stop (cause : Stop) : Settles (Run.stop (α := α) cause) := fun _ => nofun

theorem Settles.machine : Settles Run.machine := fun _ => nofun

theorem Settles.attempt (r : Run α) : Settles r.attempt := by
  intro m
  refine (Play.Ends.always (Q := fun _ => True) (fun _ => trivial) (r m)).bind ?_
  intro ending _
  match ending with
  | .ok (ending, m') => exact nofun
  | .error cause => exact nofun

theorem Settles.bind {r : Run α} {f : α → Run β} (settles : Settles r)
    (goesOn : ∀ a, Settles (f a)) : Settles (r >>= f) := by
  intro m
  refine (settles m).bind ?_
  intro ending known
  match ending with
  | .ok (.ok a, m') => exact goesOn a m'
  | .ok (.error e, m') => exact absurd rfl (known e m')
  | .error cause => exact nofun

end Run

/-- What a verdict says of errors: they are plain. -/
def Verdict.Plain : Verdict → Prop
  | .failed detail => detail.Plain
  | _ => True

namespace Engine

open Run (Yields Settles)

/-! ### A script ends with a verdict or stops the engine -/

theorem settles_shownText (E : Engine) (v : Value) : Settles (E.shownText v) := by
  refine .bind (.attempt _) fun ending => ?_
  cases ending with
  | ok s => exact .pure _
  | error e => exact .bind .machine fun m => .pure _

theorem settles_rendered (E : Engine) (v : Value) : Settles (E.rendered v) := by
  cases v with
  | object at_ =>
    refine .bind .machine fun m => ?_
    split
    next json shown => exact .pure _
    next cause shown => exact .stop cause
  | _ => exact E.settles_shownText _

theorem settles_thrownText (E : Engine) (v : Value) : Settles (E.thrownText v) := by
  refine .bind .machine fun m => ?_
  have display : Settles (do return (← Run.machine).display v) := .bind .machine fun m => .pure _
  split
  next at_ =>
    split
    next kind error =>
      refine .bind (.attempt _) fun ending => ?_
      split
      next s =>
        split
        next message text => exact .pure _
        next => exact display
      next => exact .pure _
      next => exact display
    next => exact .pure _
  next => exact .pure _

theorem settles_traceOf (E : Engine) (v : Value) : Settles (E.traceOf v) := by
  unfold traceOf
  split
  next at_ =>
    refine .bind (.attempt _) fun ending => ?_
    split
    next => exact .pure _
    next stack noneUndefined => exact .bind (E.settles_shownText stack) fun text => .pure _
    next e => exact .pure _
  next => exact .pure _

theorem settles_describe (E : Engine) (e : Abrupt) : Settles (E.describe e) := by
  cases e with
  | thrown v =>
    exact .bind (E.settles_thrownText v) fun message =>
      .bind (E.settles_traceOf v) fun trace => .pure _
  | raised kind message => exact .pure _
  | tooDeep => exact .pure _

/-- Whatever a script does, it comes to a verdict of its own unless the engine stops. -/
theorem settles_script (E : Engine) (body : List Stmt) : Settles (E.script body) := by
  refine .bind (.attempt _) fun ending => ?_
  cases ending with
  | error e => exact .bind (E.settles_describe e) fun detail => .pure _
  | ok v =>
    cases v with
    | undefined => exact .pure _
    | _ => exact .bind (E.settles_rendered _) fun text => .pure _

/-! ### Plain errors -/

theorem yields_describe (E : Engine) (e : Abrupt) : Yields ErrorDetail.Plain (E.describe e) := by
  cases e with
  | thrown v =>
    refine .after fun message => .after fun trace => .pure ?_
    exact .withTrace message trace
  | raised kind message => exact .pure (.ofMessage _)
  | tooDeep => exact .pure (.ofMessage _)

theorem yields_script (E : Engine) (body : List Stmt) : Yields Verdict.Plain (E.script body) := by
  refine .after fun ending => ?_
  cases ending with
  | error e => exact .bind (E.yields_describe e) fun detail plain => .pure plain
  | ok v =>
    cases v with
    | undefined => exact .pure trivial
    | _ => exact .after fun text => .pure trivial

end Engine

/-- Whatever lines a script is given, an error that it ends with is plain. -/
theorem ends_play (source : String) : (play source).Ends Verdict.Plain := by
  unfold play
  split
  next complaint refused => exact .ofMessage _
  next body parsed =>
    refine ((engine budget budget).yields_script body Realm.machine).bind ?_
    intro ending known
    match ending with
    | .ok (.ok verdict, m) => exact known verdict m rfl
    | .ok (.error e, m) => trivial
    | .error cause => trivial

end Script

end Snippet
