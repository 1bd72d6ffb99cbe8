import Mathlib.Algebra.GroupWithZero.Nat
import Snippet.Preview.FileSurface

/-!
# Which debounced renders take place

A renderer keeps one pending render and knows nothing of the past. What it shows is nevertheless a
function of everything that happened: `firings` says, over the whole history, which of the renders
that were asked for take place and when, and `shown_run` says that the renderer shows exactly those.
-/

namespace Snippet.Preview

namespace Renderer

variable {σ : Type} {S : Surface σ} {r q : Renderer σ} {past rest : List Event} {e : Event}
  {p : Pending}

/-! ## What the history says -/

/-- The events that concern debounced renders; the others show something at once. -/
def Event.Timed : Event → Prop
  | .update _ _ | .display _ => False
  | _ => True

instance : DecidablePred Event.Timed
  | .update _ _ | .display _ => isFalse id
  | .schedule _ _ _ | .cancel | .setAuto _ | .advance _ | .drop => isTrue trivial

/-- How much time an event takes. -/
def Event.time : Event → Nat
  | .advance by_ => by_
  | _ => 0

/-- What an event says about whether debounced renders are allowed. -/
def Event.setting? : Event → Option Bool
  | .setAuto on => some on
  | _ => none

/-- The time that passed. -/
def elapsed (events : List Event) : Nat := (events.map Event.time).sum

/-- Debounced renders are allowed until it is said otherwise; what was said last counts. -/
def allowed (events : List Event) : Bool := (events.reverse.findSome? Event.setting?).getD true

/-- After this history a debounced render of the language is accepted. -/
def Accepted (past : List Event) (language : Language) : Prop :=
  Event.drop ∉ past ∧ allowed past = true ∧ language.isPreviewable = true

instance (past : List Event) (language : Language) : Decidable (Accepted past language) :=
  inferInstanceAs (Decidable (_ ∧ _))

/-- The render that an event asks for, if it is accepted. -/
def accepted? (past : List Event) : Event → Option Pending
  | .schedule source language delay =>
    if Accepted past language then some ⟨elapsed past + delay, source, language⟩ else none
  | _ => none

/-- The event puts an end to whatever was to take place later. -/
def Disturbs (past : List Event) : Event → Prop
  | .schedule _ language _ => Accepted past language
  | .setAuto on => on = false
  | .cancel | .drop => True
  | .update _ _ | .display _ | .advance _ => False

instance (past : List Event) : DecidablePred (Disturbs past)
  | .schedule _ language _ => inferInstanceAs (Decidable (Accepted past language))
  | .setAuto on => inferInstanceAs (Decidable (on = false))
  | .cancel | .drop => isTrue trivial
  | .update _ _ | .display _ | .advance _ => isFalse id

/-- In what happens after `past`, the clock comes to `due`, and nothing disturbs before it does. -/
def Reached (past : List Event) (due : Nat) (rest : List Event) : Prop :=
  ∃ n ≤ rest.length, due ≤ elapsed (past ++ rest.take n) ∧
    ∀ m < n, ∀ e ∈ rest[m]?, ¬ Disturbs (past ++ rest.take m) e

instance (past : List Event) (due : Nat) (rest : List Event) : Decidable (Reached past due rest) :=
  inferInstanceAs (Decidable (∃ n ≤ rest.length, _ ∧ _))

/-- A pending render, if it takes place in what is still to happen. -/
def landing (past rest : List Event) (pending : Option Pending) : List Pending :=
  (pending.filter fun p => Reached past p.due rest).toList

/-- The renders asked for in `rest` that take place, when `past` has happened before. -/
def firingsFrom (past : List Event) : List Event → List Pending
  | [] => []
  | e :: rest =>
    landing (past ++ [e]) rest (accepted? past e) ++ firingsFrom (past ++ [e]) rest

/-- The debounced renders that take place in a history, in the order they were asked for. -/
def firings (events : List Event) : List Pending := firingsFrom [] events

@[simp] theorem elapsed_snoc : elapsed (past ++ [e]) = elapsed past + e.time := by
  simp [elapsed]

@[simp] theorem allowed_snoc : allowed (past ++ [e]) = e.setting?.getD (allowed past) := by
  rw [allowed, List.reverse_append, List.reverse_singleton, List.singleton_append,
    List.findSome?_cons]
  cases e.setting? <;> rfl

theorem reached_of_due {due : Nat} (late : due ≤ elapsed past) : Reached past due rest := by
  refine ⟨0, Nat.zero_le _, ?_, fun m before => absurd before (Nat.not_lt_zero m)⟩
  rwa [List.take_zero, List.append_nil]

theorem not_reached_nil {due : Nat} (ahead : elapsed past < due) : ¬ Reached past due [] := by
  rintro ⟨n, -, late, -⟩
  rw [List.take_nil, List.append_nil] at late
  omega

/-- What is still ahead has to survive the next event. -/
theorem reached_cons {due : Nat} (ahead : elapsed past < due) :
    Reached past due (e :: rest) ↔ ¬ Disturbs past e ∧ Reached (past ++ [e]) due rest := by
  have shift : ∀ n, past ++ (e :: rest).take (n + 1) = past ++ [e] ++ rest.take n := by simp
  constructor
  · rintro ⟨n, short, late, quiet⟩
    cases n with
    | zero =>
      rw [List.take_zero, List.append_nil] at late
      omega
    | succ n =>
      have calm : ¬ Disturbs past e := by simpa using quiet 0 (Nat.succ_pos n) e rfl
      refine ⟨calm, n, Nat.le_of_succ_le_succ short, shift n ▸ late, fun m before d here => ?_⟩
      rw [← shift]
      exact quiet (m + 1) (Nat.succ_lt_succ before) d here
  · rintro ⟨calm, n, short, late, quiet⟩
    refine ⟨n + 1, Nat.succ_le_succ short, shift n ▸ late, fun m before d here => ?_⟩
    cases m with
    | zero =>
      have eq : e = d := Option.some.inj here
      rwa [← eq, List.take_zero, List.append_nil]
    | succ m =>
      rw [shift]
      exact quiet m (Nat.lt_of_succ_lt_succ before) d here

@[simp] theorem landing_none : landing past rest none = [] := rfl

theorem landing_of_due (late : p.due ≤ elapsed past) : landing past rest (some p) = [p] := by
  simp [landing, Option.filter, reached_of_due late]

theorem landing_nil (ahead : elapsed past < p.due) : landing past [] (some p) = [] := by
  simp [landing, Option.filter, not_reached_nil ahead]

theorem landing_disturbed (ahead : elapsed past < p.due) (disturbs : Disturbs past e) :
    landing past (e :: rest) (some p) = [] := by
  simp [landing, Option.filter, reached_cons ahead, disturbs]

theorem landing_quiet (ahead : elapsed past < p.due) (calm : ¬ Disturbs past e) :
    landing past (e :: rest) (some p) = landing (past ++ [e]) rest (some p) := by
  simp [landing, Option.filter, reached_cons ahead, calm]

/-! ## What a render changes -/

/-- What a renderer shows. -/
def shown (r : Renderer σ) : σ × Option Document := (r.surface, r.current)

/-- A render takes place when it is due, just as if it were asked for without delay then. -/
def render (S : Surface σ) (r : Renderer σ) (p : Pending) : Renderer σ :=
  { r with now := p.due }.update S p.source p.language

/-- Showing something touches nothing but what is shown. -/
theorem update_eq (source : String) (language : Language) :
    r.update S source language =
      { r with
        surface := (r.update S source language).surface
        current := (r.update S source language).current } := by
  unfold update
  split
  · unfold display
    split <;> rfl
  · rfl

@[simp] theorem update_pending (source : String) (language : Language) :
    (r.update S source language).pending = r.pending := by rw [update_eq]

/-- What is shown depends on the surface and the clock alone. -/
theorem shown_update (source : String) (language : Language) (surface : r.surface = q.surface)
    (now : r.now = q.now) :
    (r.update S source language).shown = (q.update S source language).shown := by
  have stamp : r.timestamp = q.timestamp := by rw [timestamp, now]; rfl
  unfold update
  rw [stamp]
  split
  · unfold display
    rw [surface]
    split <;> rfl
  · rw [clear, clear, shown, shown, surface]

theorem shown_foldl_render (same : r.shown = q.shown) (ps : List Pending) :
    (ps.foldl (render S) r).shown = (ps.foldl (render S) q).shown := by
  induction ps generalizing r q with
  | nil => exact same
  | cons p ps ih => exact ih (shown_update _ _ (congrArg Prod.fst same) rfl)

theorem fire_of_due (here : r.pending = some p) (due : p.due = r.now) :
    r.fire S = render S { r with pending := none } p := by
  rw [fire, here]
  dsimp only
  rw [if_pos (Nat.le_of_eq due), render, due]

theorem fire_of_ahead (here : r.pending = some p) (ahead : r.now < p.due) : r.fire S = r := by
  rw [fire, here]
  exact if_neg (Nat.not_le_of_lt ahead)

theorem advance_of_none {by_ : Nat} (empty : r.pending = none) :
    r.advance S by_ = { r with now := r.now + by_ } := by
  rw [advance, empty]

/-- A render that falls due while time passes takes place at its own time. -/
theorem advance_of_due {by_ : Nat} (here : r.pending = some p) (ahead : r.now < p.due)
    (due : p.due ≤ r.now + by_) :
    r.advance S by_ = { render S { r with pending := none } p with now := r.now + by_ } := by
  have turn : max r.now p.due = p.due := Nat.max_eq_right (Nat.le_of_lt ahead)
  have fired : { r with now := p.due }.fire S = render S { r with pending := none } p :=
    fire_of_due here rfl
  unfold advance
  split
  · rename_i other pending
    obtain rfl : p = other := Option.some.inj (here.symm.trans pending)
    rw [if_pos due, turn, fired]
  · rename_i empty
    rw [here] at empty
    cases empty

theorem advance_of_ahead {by_ : Nat} (here : r.pending = some p) (ahead : r.now + by_ < p.due) :
    r.advance S by_ = { r with now := r.now + by_ } := by
  rw [advance, here]
  exact if_neg (Nat.not_le_of_lt ahead)

/-! ## The renderer follows the history -/

/-- The renderer is where the history has brought it. What is pending is still ahead: whatever fell
due has taken place. -/
structure Tracks (r : Renderer σ) (past : List Event) : Prop where
  clock : r.now = elapsed past
  alive : r.alive = true ↔ Event.drop ∉ past
  auto : r.alive = true → r.auto = allowed past
  ahead : ∀ p ∈ r.pending, r.now < p.due
  gone : r.alive = false → r.pending = none

theorem tracks_start (surface : σ) : Tracks (start surface) [] :=
  ⟨rfl, by simp [start], fun _ => rfl, nofun, nofun⟩

namespace Tracks

theorem accepts_eq (h : Tracks r past) (present : Event.drop ∉ past) (language : Language) :
    r.accepts language = (allowed past && language.isPreviewable) := by
  rw [accepts, h.auto (h.alive.mpr present)]

theorem accepted_iff (h : Tracks r past) {language : Language} :
    Accepted past language ↔ r.alive = true ∧ r.accepts language = true := by
  rw [Accepted, ← h.alive]
  refine and_congr_right fun live => ?_
  rw [h.accepts_eq (h.alive.mp live), Bool.and_eq_true]

/-- A render that is not accepted changes nothing. -/
theorem step_rejected (h : Tracks r past) {language : Language}
    (rejected : ¬ Accepted past language) (source : String) (delay : Nat) :
    r.step S (.schedule source language delay) = r := by
  rw [h.accepted_iff] at rejected
  dsimp only [step]
  split
  · rename_i live
    have refused : ¬ r.accepts language = true := fun accepts => rejected ⟨live, accepts⟩
    rw [schedule, if_neg refused, fire]
    cases here : r.pending with
    | none => rfl
    | some p => exact if_neg (Nat.not_le_of_lt (h.ahead p here))
  · rfl

theorem step_accepted (h : Tracks r past) {language : Language} (accepted : Accepted past language)
    (source : String) (delay : Nat) :
    r.step S (.schedule source language delay) =
      { r with pending := some ⟨elapsed past + delay, source, language⟩ }.fire S := by
  obtain ⟨live, accepts⟩ := h.accepted_iff.mp accepted
  dsimp only [step]
  rw [if_pos live, schedule, if_pos accepts, h.clock]

end Tracks

/-- A step has shown the renders that fell due with it: what was to take place before it and what it
asks for itself make up what it has shown and what is still to take place. -/
def Shows (S : Surface σ) (r : Renderer σ) (past : List Event) (e : Event) (q : Renderer σ) :
    Prop :=
  ∃ fired : List Pending, q.shown = (fired.foldl (render S) r).shown ∧
    ∀ rest, landing past (e :: rest) r.pending ++ landing (past ++ [e]) rest (accepted? past e) =
      fired ++ landing (past ++ [e]) rest q.pending

theorem Tracks.shows_kept (h : Tracks r past) (calm : ¬ Disturbs past e)
    (unasked : accepted? past e = none) (pending : q.pending = r.pending)
    (shown : q.shown = r.shown) : Shows S r past e q := by
  refine ⟨[], shown, fun rest => ?_⟩
  rw [unasked, pending, landing_none, List.append_nil, List.nil_append]
  cases here : r.pending with
  | none => rfl
  | some p => exact landing_quiet (h.clock ▸ h.ahead p here) calm

theorem Tracks.landing_ended (h : Tracks r past) (ended : r.pending = none ∨ Disturbs past e) :
    landing past (e :: rest) r.pending = [] := by
  cases here : r.pending with
  | none => rfl
  | some p =>
    rcases ended with empty | disturbs
    · rw [here] at empty
      cases empty
    · exact landing_disturbed (h.clock ▸ h.ahead p here) disturbs

theorem Tracks.shows_ended (h : Tracks r past) (ended : r.pending = none ∨ Disturbs past e)
    (unasked : accepted? past e = none) (pending : q.pending = none)
    (shown : q.shown = r.shown) : Shows S r past e q := by
  refine ⟨[], shown, fun rest => ?_⟩
  rw [unasked, pending, h.landing_ended ended]

theorem Tracks.shows_schedule (h : Tracks r past) (source : String) (language : Language)
    (delay : Nat) :
    Shows S r past (.schedule source language delay)
      (r.step S (.schedule source language delay)) := by
  by_cases accepted : Accepted past language
  · have asked : accepted? past (.schedule source language delay) =
        some ⟨elapsed past + delay, source, language⟩ := if_pos accepted
    have ended : ∀ rest, landing past (.schedule source language delay :: rest) r.pending = [] :=
      fun rest => h.landing_ended (Or.inr accepted)
    rw [h.step_accepted accepted]
    cases delay with
    | zero =>
      rw [fire_of_due rfl h.clock.symm]
      refine ⟨[⟨elapsed past + 0, source, language⟩], shown_update _ _ rfl rfl, fun rest => ?_⟩
      rw [ended, asked, landing_of_due (by simp)]
      simp [render]
    | succ delay =>
      have ahead : r.now < elapsed past + (delay + 1) := by
        rw [h.clock]
        omega
      rw [fire_of_ahead rfl ahead]
      refine ⟨[], rfl, fun rest => ?_⟩
      rw [ended, asked]
  · rw [h.step_rejected accepted]
    exact h.shows_kept accepted (if_neg accepted) rfl rfl

theorem Tracks.shows_advance (h : Tracks r past) (by_ : Nat) :
    Shows S r past (.advance by_) (r.advance S by_) := by
  cases here : r.pending with
  | none =>
    rw [advance_of_none here]
    exact h.shows_kept id rfl rfl rfl
  | some p =>
    have ahead : r.now < p.due := h.ahead p here
    by_cases due : p.due ≤ r.now + by_
    · rw [advance_of_due here ahead due]
      refine ⟨[p], shown_update _ _ rfl rfl, fun rest => ?_⟩
      have late : p.due ≤ elapsed (past ++ [.advance by_]) := by
        rw [elapsed_snoc, ← h.clock]
        exact due
      rw [here, landing_quiet (h.clock ▸ ahead) id, landing_of_due late]
      simp [render, accepted?]
    · rw [advance_of_ahead here (Nat.lt_of_not_le due)]
      exact h.shows_kept id rfl rfl rfl

theorem Tracks.shows_step (h : Tracks r past) (timed : e.Timed) :
    Shows S r past e (r.step S e) := by
  cases e with
  | update source language => exact timed.elim
  | display document => exact timed.elim
  | schedule source language delay => exact h.shows_schedule source language delay
  | advance by_ => exact h.shows_advance by_
  | drop => exact h.shows_ended (Or.inr trivial) rfl rfl rfl
  | cancel =>
    cases live : r.alive with
    | true =>
      rw [step, if_pos live]
      exact h.shows_ended (Or.inr trivial) rfl rfl rfl
    | false =>
      rw [step, if_neg (by simp [live])]
      exact h.shows_ended (Or.inl (h.gone live)) rfl (h.gone live) rfl
  | setAuto on =>
    cases live : r.alive with
    | true =>
      rw [step, if_pos live]
      cases on with
      | true => exact h.shows_kept Bool.noConfusion rfl rfl rfl
      | false => exact h.shows_ended (Or.inr rfl) rfl rfl rfl
    | false =>
      rw [step, if_neg (by simp [live])]
      exact h.shows_ended (Or.inl (h.gone live)) rfl (h.gone live) rfl

/-- What is pending after a render had its chance is still ahead. -/
theorem fire_eq :
    r.fire S =
      { r with
        surface := (r.fire S).surface
        current := (r.fire S).current
        pending := r.pending.filter fun p => r.now < p.due } := by
  cases here : r.pending with
  | none =>
    have same : r.fire S = r := by rw [fire, here]
    rw [same, Option.filter_none, ← here]
  | some p =>
    by_cases due : p.due ≤ r.now
    · have fired : r.fire S = { r with pending := none }.update S p.source p.language := by
        rw [fire, here]
        exact if_pos due
      rw [fired, update_eq]
      simp [Option.filter, due]
    · have ahead : r.now < p.due := Nat.lt_of_not_le due
      rw [fire_of_ahead here ahead]
      simp [Option.filter, ahead, ← here]

theorem advance_eq {by_ : Nat} (h : ∀ p ∈ r.pending, r.now < p.due) :
    r.advance S by_ =
      { r with
        surface := (r.advance S by_).surface
        current := (r.advance S by_).current
        pending := r.pending.filter fun p => r.now + by_ < p.due
        now := r.now + by_ } := by
  cases here : r.pending with
  | none =>
    rw [advance_of_none here, Option.filter_none, ← here]
  | some p =>
    by_cases due : p.due ≤ r.now + by_
    · rw [advance_of_due here (h p here) due, render, update_eq]
      simp [Option.filter, due]
    · have ahead : r.now + by_ < p.due := Nat.lt_of_not_le due
      rw [advance_of_ahead here ahead]
      simp [Option.filter, ahead, ← here]

theorem Tracks.next (h : Tracks r past) (clock : q.now = r.now + e.time)
    (alive : q.alive = true ↔ r.alive = true ∧ e ≠ .drop)
    (auto : r.alive = true → q.auto = e.setting?.getD r.auto)
    (pending : ∀ p ∈ q.pending, q.alive = true ∧ q.now < p.due) : Tracks q (past ++ [e]) where
  clock := by rw [clock, h.clock, elapsed_snoc]
  alive := by rw [alive, h.alive, List.mem_append, List.mem_singleton, not_or, ne_comm]
  auto live := by
    have before : r.alive = true := (alive.mp live).1
    rw [auto before, h.auto before, allowed_snoc]
  ahead p here := (pending p here).2
  gone dead := by
    cases here : q.pending with
    | none => rfl
    | some p =>
      have live := (pending p here).1
      rw [dead] at live
      cases live

/-- Whatever happens, the clock, the setting and the existence of the renderer follow the event, and
what is pending afterwards is still ahead. -/
theorem Tracks.step (h : Tracks r past) (timed : e.Timed) :
    Tracks (r.step S e) (past ++ [e]) := by
  have stays : ∀ p ∈ r.pending, r.alive = true ∧ r.now < p.due := by
    intro p here
    refine ⟨?_, h.ahead p here⟩
    cases live : r.alive with
    | true => rfl
    | false =>
      rw [h.gone live] at here
      cases here
  cases e with
  | update source language => exact timed.elim
  | display document => exact timed.elim
  | schedule source language delay =>
    by_cases accepted : Accepted past language
    · have live : r.alive = true := (h.accepted_iff.mp accepted).1
      rw [h.step_accepted accepted, fire_eq]
      refine h.next rfl (by simp) (fun _ => rfl) fun p here => ⟨live, ?_⟩
      dsimp only at here
      exact of_decide_eq_true (Option.mem_filter_iff.mp here).2
    · rw [h.step_rejected accepted]
      exact h.next rfl (by simp) (fun _ => rfl) stays
  | advance by_ =>
    rw [Renderer.step, advance_eq h.ahead]
    refine h.next rfl (by simp) (fun _ => rfl) fun p here => ?_
    obtain ⟨before, ahead⟩ := Option.mem_filter_iff.mp here
    exact ⟨(stays p before).1, of_decide_eq_true ahead⟩
  | drop => exact h.next rfl (by simp [Renderer.step]) (fun _ => rfl) nofun
  | cancel =>
    dsimp only [Renderer.step]
    split
    · exact h.next rfl (by simp [cancel]) (fun _ => rfl) nofun
    · exact h.next rfl (by simp) (fun _ => rfl) stays
  | setAuto on =>
    dsimp only [Renderer.step]
    split
    · cases on with
      | true => exact h.next rfl (by simp [setAuto]) (fun _ => rfl) stays
      | false => exact h.next rfl (by simp [setAuto, cancel]) (fun _ => rfl) nofun
    · rename_i dead
      exact h.next rfl (by simp) (fun live => absurd live dead) stays

/-! ## The whole run -/

theorem Tracks.shown_run (h : Tracks r past) (timed : ∀ e ∈ rest, e.Timed) :
    (run S r rest).shown =
      ((landing past rest r.pending ++ firingsFrom past rest).foldl (render S) r).shown := by
  -- What was pending before an event either falls due with it or is pending afterwards, unless the
  -- event disturbs it: so the renders of the run are those of its steps, in order.
  induction rest generalizing r past with
  | nil =>
    have none_left : landing past [] r.pending = [] := by
      cases here : r.pending with
      | none => rfl
      | some p => exact landing_nil (h.clock ▸ h.ahead p here)
    rw [none_left]
    rfl
  | cons e rest ih =>
    obtain ⟨timed_here, timed_rest⟩ := List.forall_mem_cons.mp timed
    obtain ⟨fired, shown, whole⟩ := h.shows_step timed_here (S := S)
    have later : (Renderer.run S (r.step S e) rest).shown = _ := ih (h.step timed_here) timed_rest
    have split : landing past (e :: rest) r.pending ++ firingsFrom past (e :: rest) =
        fired ++ (landing (past ++ [e]) rest (r.step S e).pending ++
          firingsFrom (past ++ [e]) rest) := by
      rw [firingsFrom, ← List.append_assoc, whole rest, List.append_assoc]
    calc (run S r (e :: rest)).shown = (run S (r.step S e) rest).shown := rfl
      _ = _ := later
      _ = _ := shown_foldl_render shown _
      _ = _ := by rw [← List.foldl_append, ← split]

theorem Tracks.run (h : Tracks r past) (timed : ∀ e ∈ rest, e.Timed) :
    Tracks (run S r rest) (past ++ rest) := by
  induction rest generalizing r past with
  | nil => rwa [List.append_nil]
  | cons e rest ih =>
    obtain ⟨timed_here, timed_rest⟩ := List.forall_mem_cons.mp timed
    rw [List.append_cons]
    exact ih (h.step timed_here) timed_rest

/-- However debounced renders are asked for, cancelled, allowed, forbidden and dropped while time
passes, a renderer shows what the renders that take place by `firings` show, each at its due time and
in the order they were asked for. While it exists it accepts a render exactly if debounced renders
are allowed and the language has a preview; a render that is not accepted leaves it as it is. -/
theorem shows_firings (S : Surface σ) (surface : σ) (events : List Event)
    (timed : ∀ e ∈ events, e.Timed) :
    (run S (start surface) events).shown =
        ((firings events).foldl (render S) (start surface)).shown ∧
      (Event.drop ∉ events → ∀ language,
        (run S (start surface) events).accepts language =
          (allowed events && language.isPreviewable)) ∧
      ∀ language, ¬ Accepted events language → ∀ source delay,
        (run S (start surface) events).step S (.schedule source language delay) =
          run S (start surface) events := by
  have tracks : Tracks (run S (start surface) events) events := (tracks_start surface).run timed
  refine ⟨(tracks_start surface).shown_run timed, tracks.accepts_eq, ?_⟩
  intro language rejected source delay
  exact tracks.step_rejected rejected source delay

/-- Replaced, rejected, cancelled, forbidden and dropped renders do not take place; one that is due
at once does, and so does one whose time comes together with the next request. -/
theorem shows_firings_of_edits :
    let events : List Event :=
      [.schedule "a" .html 10, .advance 5, .schedule "b" .html 5, .schedule "x" .python 0,
        .advance 5, .schedule "c" .html 0, .schedule "d" .html 20, .cancel,
        .schedule "e" .html 3, .setAuto false, .schedule "f" .html 0, .advance 3, .setAuto true,
        .schedule "g" .css 4, .advance 9, .schedule "h" .html 1, .drop, .advance 5]
    (∀ e ∈ events, e.Timed) ∧
      firings events = [⟨10, "b", .html⟩, ⟨10, "c", .html⟩, ⟨17, "g", .css⟩] ∧
      (run Recorder.surface (start ⟨[], 0, false⟩) events).shown =
        ((firings events).foldl (render Recorder.surface) (start ⟨[], 0, false⟩)).shown := by
  intro events
  have timed : ∀ e ∈ events, e.Timed := by decide
  exact ⟨timed, by decide, (shows_firings Recorder.surface ⟨[], 0, false⟩ events timed).1⟩

end Renderer

end Snippet.Preview
