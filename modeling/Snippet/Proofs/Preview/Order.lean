import Mathlib.Data.List.Induction
import Snippet.Proofs.Preview.Showing

/-!
# In which order content is shown

Content reaches a renderer in two ways. An `update` or a `display` is shown at once; a debounced render
waits until it is due, unless something disturbs it before. Here both are numbered by the event that
submitted them: `Waits` says which submission a history leaves pending, `Brings` which one an event
shows, and `task?_eq_some_iff` that a renderer with this history shows just that. What is shown can
then be compared, in age, with what was submitted since.
-/

namespace Snippet.Preview

/-- The time of day after so many milliseconds. -/
def stamp (ms : Nat) : Timestamp := ⟨(ms / 1000 : Nat), ms % 1000 * 1000000⟩

/-- What a debounced render shows: its content as it is built when it is due. -/
def Pending.document? (p : Pending) : Option Document :=
  Document.build? p.source p.language (stamp p.due)

namespace Renderer

variable {σ : Type} {S : Surface σ} {r : Renderer σ} {past events : List Event} {e : Event}
  {p q : Pending} {i j k n : Nat} {x y : Option Document} {P : List Event → Event → Prop}

/-! ## What the history says -/

/-- The `i`-th event of the history is there, and `P` holds of it after all that was before. -/
def At (events : List Event) (i : Nat) (P : List Event → Event → Prop) : Prop :=
  ∃ e ∈ events[i]?, P (events.take i) e

/-- After this history the render that its `i`-th event has asked for is still to take place. -/
structure Waits (past : List Event) (i : Nat) (p : Pending) : Prop where
  asked : At past i fun before e => accepted? before e = some p
  undisturbed : ∀ k > i, ¬ At past k Disturbs
  ahead : elapsed past < p.due

/-- After this history the event shows what the `i`-th event, maybe the event itself, has submitted. -/
inductive Brings (past : List Event) : Nat → Option Document → Event → Prop
  | update {source : String} {language : Language} (present : .drop ∉ past) :
      Brings past past.length (Document.build? source language (stamp (elapsed past)))
        (.update source language)
  | display {d : Document} (present : .drop ∉ past) :
      Brings past past.length (some d) (.display d)
  /-- a render that was asked for without delay -/
  | atOnce {p : Pending} {e : Event} (asked : accepted? past e = some p)
      (due : p.due ≤ elapsed past) : Brings past past.length p.document? e
  /-- a render that was asked for before, and falls due now -/
  | later {i : Nat} {p : Pending} {e : Event} (waits : Waits past i p)
      (due : p.due ≤ elapsed (past ++ [e])) : Brings past i p.document? e

/-- In the history, the render that its `i`-th event has asked for takes place with the `j`-th. -/
def Fires (events : List Event) (i j : Nat) (p : Pending) : Prop :=
  At events j fun before e => Waits before i p ∧ p.due ≤ elapsed (before ++ [e])

/-- What the `i`-th event has submitted is shown after the history: some event has brought it, and no
later one has brought anything. -/
def Standing (events : List Event) (i : Nat) (x : Option Document) : Prop :=
  ∃ j, At events j (Brings · i x) ∧ ∀ k > j, ∀ i y, ¬ At events k (Brings · i y)

/-- What the `k`-th event has submitted was shown at some time in the history. -/
def Seen (events : List Event) (k : Nat) : Prop := ∃ j x, At events j (Brings · k x)

/-- The `k`-th event of the history is an update or a display, made while the renderer exists. -/
def Direct (events : List Event) (k : Nat) : Prop :=
  At events k fun before e => ¬ e.Timed ∧ .drop ∉ before

/-! ## One event more -/

theorem At.lt (h : At events i P) : i < events.length :=
  let ⟨_, there, _⟩ := h
  (List.getElem?_eq_some_iff.mp there).1

theorem at_snoc : At (past ++ [e]) i P ↔ At past i P ∨ i = past.length ∧ P past e := by
  rcases Nat.lt_trichotomy i past.length with before | rfl | beyond
  · have same : (past ++ [e])[i]? = past[i]? := List.getElem?_append_left before
    rw [At, same, List.take_append_of_le_length (Nat.le_of_lt before)]
    exact (or_iff_left fun h => Nat.ne_of_lt before h.1).symm
  · simp [At]
  · refine iff_of_false (fun h => ?_) (fun h => ?_)
    · have short := h.lt
      rw [List.length_append, List.length_singleton] at short
      omega
    · rcases h with h | h
      · exact Nat.lt_asymm beyond h.lt
      · exact Nat.ne_of_gt beyond h.1

theorem at_take : At (events.take n) i P ↔ i < n ∧ At events i P := by
  constructor
  · intro h
    have inside : i < n := Nat.lt_of_lt_of_le h.lt (List.length_take_le n events)
    obtain ⟨e, there, holds⟩ := h
    rw [List.getElem?_take_of_lt inside] at there
    rw [List.take_take, Nat.min_eq_left (Nat.le_of_lt inside)] at holds
    exact ⟨inside, e, there, holds⟩
  · rintro ⟨inside, e, there, holds⟩
    refine ⟨e, (List.getElem?_take_of_lt inside).trans there, ?_⟩
    rwa [List.take_take, Nat.min_eq_left (Nat.le_of_lt inside)]

theorem elapsed_le_snoc (past : List Event) (e : Event) : elapsed past ≤ elapsed (past ++ [e]) := by
  rw [elapsed_snoc]
  exact Nat.le_add_right _ _

/-- Whoever is accepted puts an end to what was to take place before. -/
theorem disturbs_of_accepted? (asked : accepted? past e = some p) : Disturbs past e := by
  cases e with
  | schedule source language delay =>
    rw [accepted?] at asked
    split at asked
    next accepted => exact accepted
    next => cases asked
  | _ => cases asked

/-- What is pending after one event more: what the event asks for itself, or what was pending before,
undisturbed. -/
theorem waits_snoc : Waits (past ++ [e]) i p ↔
    (accepted? past e = some p ∧ i = past.length ∨ Waits past i p ∧ ¬ Disturbs past e) ∧
      elapsed (past ++ [e]) < p.due := by
  constructor
  · rintro ⟨asked, undisturbed, ahead⟩
    refine ⟨?_, ahead⟩
    rcases at_snoc.mp asked with asked | ⟨here, asked⟩
    · have calm : ¬ Disturbs past e := fun disturbs =>
        undisturbed past.length asked.lt (at_snoc.mpr (.inr ⟨rfl, disturbs⟩))
      refine .inr ⟨⟨asked, fun k later h => ?_, ?_⟩, calm⟩
      · exact undisturbed k later (at_snoc.mpr (.inl h))
      · exact Nat.lt_of_le_of_lt (elapsed_le_snoc past e) ahead
    · exact .inl ⟨asked, here⟩
  · rintro ⟨⟨asked, rfl⟩ | ⟨waits, calm⟩, ahead⟩
    · refine ⟨at_snoc.mpr (.inr ⟨rfl, asked⟩), fun k later h => ?_, ahead⟩
      have short := h.lt
      rw [List.length_append, List.length_singleton] at short
      omega
    · refine ⟨at_snoc.mpr (.inl waits.asked), fun k later h => ?_, ahead⟩
      rcases at_snoc.mp h with h | ⟨-, disturbs⟩
      · exact waits.undisturbed k later h
      · exact calm disturbs

/-! ## The renderer follows -/

theorem timestamp_eq : r.timestamp = stamp r.now := rfl

/-- What is shown at once leaves everything else as it is, debounced renders too. -/
theorem step_direct (direct : ¬ e.Timed) : r.step S e =
    { r with surface := (r.step S e).surface, current := (r.step S e).current } := by
  cases e with
  | update source language =>
    dsimp only [step]
    split
    next => exact update_eq source language
    next => rfl
  | display d =>
    dsimp only [step]
    split
    next =>
      unfold display
      split <;> rfl
    next => rfl
  | _ => exact absurd trivial direct

/-- Whatever happens, the renderer stays where the history has brought it. -/
theorem Tracks.snoc (h : Tracks r past) (S : Surface σ) (e : Event) :
    Tracks (r.step S e) (past ++ [e]) := by
  by_cases timed : e.Timed
  · exact h.step timed
  · have still : e.time = 0 ∧ e.setting? = none ∧ e ≠ .drop := by
      cases e with
      | update source language => exact ⟨rfl, rfl, nofun⟩
      | display d => exact ⟨rfl, rfl, nofun⟩
      | _ => exact absurd trivial timed
    obtain ⟨time, setting, stays⟩ := still
    rw [step_direct timed]
    refine h.next (by rw [time]; rfl) (by simp [stays]) (fun _ => by rw [setting]; rfl) ?_
    intro p here
    refine ⟨?_, h.ahead p here⟩
    by_contra dead
    have gone := h.gone (Bool.eq_false_iff.mpr dead)
    cases gone.symm.trans here

theorem tracks_run (S : Surface σ) (surface : σ) (events : List Event) :
    Tracks (run S (start surface) events) events := by
  induction events using List.reverseRecOn with
  | nil => exact tracks_start surface
  | append_singleton past e ih =>
    rw [run, List.foldl_append]
    exact ih.snoc S e

/-- What is pending after a step: what the event asks for, or what it leaves undisturbed; and only as
long as it is still ahead. -/
theorem Tracks.pending_step (h : Tracks r past) (S : Surface σ) (e : Event) :
    (r.step S e).pending = some p ↔
      (accepted? past e = some p ∨ r.pending = some p ∧ ¬ Disturbs past e) ∧
        elapsed (past ++ [e]) < p.due := by
  have ahead : r.pending = some p → elapsed past < p.due := fun here => h.clock ▸ h.ahead p here
  cases e with
  | update source language =>
    rw [step_direct id]
    simpa [accepted?, Disturbs, Event.time] using ahead
  | display d =>
    rw [step_direct id]
    simpa [accepted?, Disturbs, Event.time] using ahead
  | schedule source language delay =>
    by_cases accepted : Accepted past language
    · rw [h.step_accepted accepted, fire_eq, h.clock]
      simp [accepted?, Disturbs, accepted, Event.time, Option.filter_eq_some_iff]
    · rw [h.step_rejected accepted]
      simpa [accepted?, Disturbs, accepted, Event.time] using ahead
  | advance by_ =>
    rw [Renderer.step, advance_eq h.ahead, h.clock]
    simp [accepted?, Disturbs, Event.time, Option.filter_eq_some_iff]
  | drop => simp [Renderer.step, cancel, accepted?, Disturbs]
  | cancel =>
    cases live : r.alive with
    | true => simp [Renderer.step, live, cancel, accepted?, Disturbs]
    | false => simp [Renderer.step, live, h.gone live, accepted?]
  | setAuto on =>
    cases live : r.alive with
    | true =>
      cases on with
      | true => simpa [Renderer.step, live, setAuto, accepted?, Disturbs, Event.time] using ahead
      | false => simp [Renderer.step, live, setAuto, cancel, accepted?, Disturbs]
    | false => simp [Renderer.step, live, h.gone live, accepted?]

/-- The renderer's pending render is the one that waits by the history. -/
theorem pending_run (S : Surface σ) (surface : σ) (past : List Event) :
    (run S (start surface) past).pending = some p ↔ ∃ i, Waits past i p := by
  induction past using List.reverseRecOn with
  | nil => exact iff_of_false nofun fun ⟨i, waits⟩ => absurd waits.asked.lt (Nat.not_lt_zero i)
  | append_singleton past e ih =>
    have last : run S (start surface) (past ++ [e]) =
        (run S (start surface) past).step S e := by
      rw [run, List.foldl_append]
      rfl
    rw [last, (tracks_run S surface past).pending_step S e, ih]
    constructor
    · rintro ⟨asked | ⟨⟨i, waits⟩, calm⟩, ahead⟩
      · exact ⟨past.length, waits_snoc.mpr ⟨.inl ⟨asked, rfl⟩, ahead⟩⟩
      · exact ⟨i, waits_snoc.mpr ⟨.inr ⟨waits, calm⟩, ahead⟩⟩
    · rintro ⟨i, waits⟩
      obtain ⟨⟨asked, -⟩ | ⟨waits, calm⟩, ahead⟩ := waits_snoc.mp waits
      · exact ⟨.inl asked, ahead⟩
      · exact ⟨.inr ⟨⟨i, waits⟩, calm⟩, ahead⟩

/-! ## What an event shows -/

/-- Without time passing, nothing that waits falls due. -/
theorem Waits.not_due (waits : Waits past i p) (still : e.time = 0) :
    ¬ p.due ≤ elapsed (past ++ [e]) := by
  rw [elapsed_snoc, still]
  exact Nat.not_le_of_lt waits.ahead

theorem Tracks.fired?_eq_none (h : Tracks r past) : r.fired? = none := by
  rw [fired?]
  cases here : r.pending with
  | none => rfl
  | some p => exact if_neg (Nat.not_le_of_lt (h.ahead p here))

/-- A render that is asked for is shown at once exactly if it is accepted and comes without delay. -/
theorem Tracks.task?_schedule (h : Tracks r past) (source : String) (language : Language)
    (delay : Nat) : r.task? (.schedule source language delay) = some x ↔
      ∃ p, accepted? past (.schedule source language delay) = some p ∧ p.due ≤ elapsed past ∧
        p.document? = x := by
  by_cases accepted : Accepted past language
  · obtain ⟨live, accepts⟩ := h.accepted_iff.mp accepted
    have pending : r.schedule source language delay =
        { r with pending := some ⟨elapsed past + delay, source, language⟩ } := by
      rw [schedule, if_pos accepts, h.clock]
    rw [task?, if_pos live, pending, fired?, accepted?, if_pos accepted]
    dsimp only
    rw [h.clock]
    cases delay with
    | zero => simp [timestamp_eq, Pending.document?]
    | succ delay =>
      have ahead : ¬ elapsed past + (delay + 1) ≤ elapsed past := by omega
      rw [if_neg ahead]
      refine iff_of_false (fun shown => by cases shown) ?_
      rintro ⟨p, same, late, -⟩
      cases same
      exact ahead late
  · have unasked : accepted? past (.schedule source language delay) = none := if_neg accepted
    rw [unasked]
    refine iff_of_false (fun task => ?_) ?_
    · rw [task?] at task
      split at task
      next live =>
        have refused : ¬ r.accepts language = true := fun accepts =>
          accepted (h.accepted_iff.mpr ⟨live, accepts⟩)
        rw [schedule, if_neg refused, h.fired?_eq_none] at task
        cases task
      next => cases task
    · rintro ⟨p, same, -⟩
      cases same

/-- While time passes, the pending render is shown exactly if it falls due. -/
theorem Tracks.task?_advance (h : Tracks r past) (by_ : Nat) :
    r.task? (.advance by_) = some x ↔
      ∃ p, r.pending = some p ∧ p.due ≤ elapsed (past ++ [.advance by_]) ∧ p.document? = x := by
  rw [task?, elapsed_snoc, Event.time, ← h.clock]
  cases here : r.pending with
  | none =>
    refine iff_of_false (fun shown => by cases shown) ?_
    rintro ⟨p, same, -⟩
    cases same
  | some p =>
    have turn : max r.now p.due = p.due := Nat.max_eq_right (Nat.le_of_lt (h.ahead p here))
    dsimp only
    by_cases due : p.due ≤ r.now + by_
    · rw [if_pos due, turn, fired?]
      simp [due, timestamp_eq, Pending.document?]
    · rw [if_neg due]
      refine iff_of_false (fun shown => by cases shown) ?_
      rintro ⟨q, same, late, -⟩
      cases same
      exact due late

/-- What an event makes the renderer show is what the history says that it brings. -/
theorem task?_eq_some_iff (S : Surface σ) (surface : σ) (past : List Event) (e : Event) :
    (run S (start surface) past).task? e = some x ↔ ∃ i, Brings past i x e := by
  have h := tracks_run S surface past
  have pending := fun p => pending_run (p := p) S surface past
  generalize run S (start surface) past = r at h pending ⊢
  constructor
  · intro task
    cases e with
    | update source language =>
      rw [task?] at task
      split at task
      next live =>
        obtain rfl := Option.some.inj task
        rw [timestamp_eq, h.clock]
        exact ⟨_, .update (h.alive.mp live)⟩
      next => cases task
    | display d =>
      rw [task?] at task
      split at task
      next live =>
        obtain rfl := Option.some.inj task
        exact ⟨_, .display (h.alive.mp live)⟩
      next => cases task
    | schedule source language delay =>
      obtain ⟨p, asked, due, rfl⟩ := (h.task?_schedule source language delay).mp task
      exact ⟨_, .atOnce asked due⟩
    | advance by_ =>
      obtain ⟨p, here, due, rfl⟩ := (h.task?_advance by_).mp task
      obtain ⟨i, waits⟩ := (pending p).mp here
      exact ⟨i, .later waits due⟩
    | cancel => cases task
    | setAuto on => cases task
    | drop => cases task
  · rintro ⟨i, brings⟩
    cases brings with
    | update present => rw [task?, if_pos (h.alive.mpr present), timestamp_eq, h.clock]
    | display present => rw [task?, if_pos (h.alive.mpr present)]
    | atOnce asked due =>
      cases e with
      | schedule source language delay =>
        exact (h.task?_schedule source language delay).mpr ⟨_, asked, due, rfl⟩
      | _ => cases asked
    | later waits due =>
      cases e with
      | advance by_ =>
        exact (h.task?_advance by_).mpr ⟨_, (pending _).mpr ⟨i, waits⟩, due, rfl⟩
      | _ => exact absurd due (waits.not_due rfl)

/-! ## What is shown in the end -/

theorem run_snoc (S : Surface σ) (r : Renderer σ) (past : List Event) (e : Event) :
    run S r (past ++ [e]) = (run S r past).step S e := by
  rw [run, List.foldl_append]
  rfl

theorem standing_snoc : Standing (past ++ [e]) i x ↔
    Brings past i x e ∨ Standing past i x ∧ ∀ i y, ¬ Brings past i y e := by
  constructor
  · rintro ⟨j, brought, last⟩
    rcases at_snoc.mp brought with brought | ⟨-, brings⟩
    · refine .inr ⟨⟨j, brought, fun k later i y h => ?_⟩, fun i y brings => ?_⟩
      · exact last k later i y (at_snoc.mpr (.inl h))
      · exact last past.length brought.lt i y (at_snoc.mpr (.inr ⟨rfl, brings⟩))
    · exact .inl brings
  · rintro (brings | ⟨⟨j, brought, last⟩, nothing⟩)
    · refine ⟨past.length, at_snoc.mpr (.inr ⟨rfl, brings⟩), fun k later i y h => ?_⟩
      have short := h.lt
      rw [List.length_append, List.length_singleton] at short
      omega
    · refine ⟨j, at_snoc.mpr (.inl brought), fun k later i y h => ?_⟩
      rcases at_snoc.mp h with h | ⟨-, brings⟩
      · exact last k later i y h
      · exact nothing i y brings

/-- Once something was brought, something is shown from then on. -/
theorem exists_standing (brought : At events j (Brings · i x)) : ∃ i x, Standing events i x := by
  induction events using List.reverseRecOn with
  | nil => exact absurd brought.lt (Nat.not_lt_zero j)
  | append_singleton past e ih =>
    by_cases more : ∃ i y, Brings past i y e
    · obtain ⟨i, y, brings⟩ := more
      exact ⟨i, y, standing_snoc.mpr (.inl brings)⟩
    · rcases at_snoc.mp brought with brought | ⟨-, brings⟩
      · obtain ⟨i, y, standing⟩ := ih brought
        exact ⟨i, y, standing_snoc.mpr (.inr ⟨standing, fun i y b => more ⟨i, y, b⟩⟩)⟩
      · exact absurd ⟨i, x, brings⟩ more

/-- The renderer shows what stands by the history. -/
theorem shown_run (S : Surface σ) (surface : σ) (standing : Standing events i x) :
    ∃ t, (run S (start surface) events).shown = S.present t x := by
  induction events using List.reverseRecOn with
  | nil =>
    obtain ⟨j, brought, -⟩ := standing
    exact absurd brought.lt (Nat.not_lt_zero j)
  | append_singleton past e ih =>
    rw [run_snoc, shown_step]
    rcases standing_snoc.mp standing with brings | ⟨standing, nothing⟩
    · rw [(task?_eq_some_iff S surface past e).mpr ⟨i, brings⟩]
      exact ⟨_, rfl⟩
    · have idle : (run S (start surface) past).task? e = none := by
        cases task : (run S (start surface) past).task? e with
        | none => rfl
        | some y =>
          obtain ⟨k, brings⟩ := (task?_eq_some_iff S surface past e).mp task
          exact absurd brings (nothing k y)
      rw [idle]
      exact ih standing

/-! ## What is newest -/

/-- At most one render waits: another one that was accepted has taken its place. -/
theorem Waits.unique (first : Waits past i p) (second : Waits past j q) : i = j := by
  have apart : ∀ {i j p q}, Waits past i p → Waits past j q → ¬ i < j := by
    intro i j p q older newer before
    obtain ⟨e, there, asked⟩ := newer.asked
    exact older.undisturbed j before ⟨e, there, disturbs_of_accepted? asked⟩
  exact Nat.le_antisymm (Nat.not_lt.mp (apart second first)) (Nat.not_lt.mp (apart first second))

theorem Brings.unique (first : Brings past i x e) (second : Brings past j y e) : i = j := by
  have here : ∀ {i x}, Brings past i x e → (∀ by_, e ≠ .advance by_) → i = past.length := by
    intro i x brings still
    cases brings with
    | update | display | atOnce => rfl
    | later waits due =>
      refine absurd due (waits.not_due ?_)
      cases e with
      | advance by_ => exact absurd rfl (still by_)
      | _ => rfl
  by_cases passes : ∃ by_, e = .advance by_
  · obtain ⟨by_, rfl⟩ := passes
    cases first with
    | atOnce asked => cases asked
    | later older _ =>
      cases second with
      | atOnce asked => cases asked
      | later newer _ => exact older.unique newer
  · have still : ∀ by_, e ≠ .advance by_ := fun by_ same => passes ⟨by_, same⟩
    rw [here first still, here second still]

theorem Direct.brings (direct : Direct events k) : ∃ x, At events k (Brings · k x) := by
  obtain ⟨e, there, shown, present⟩ := direct
  have inside := (List.getElem?_eq_some_iff.mp there).1
  have length : (events.take k).length = k := by
    rw [List.length_take, Nat.min_eq_left (Nat.le_of_lt inside)]
  cases e with
  | update source language =>
    have brings : Brings _ _ _ (.update source language) := .update present
    rw [length] at brings
    exact ⟨_, _, there, brings⟩
  | display d =>
    have brings := Brings.display (d := d) present
    rw [length] at brings
    exact ⟨_, _, there, brings⟩
  | _ => exact absurd trivial shown

theorem Direct.seen (direct : Direct events k) (before : k < n) : Seen (events.take n) k :=
  let ⟨x, brought⟩ := direct.brings
  ⟨k, x, at_take.mpr ⟨before, brought⟩⟩

/-- A render that takes place is what is shown then. -/
theorem Fires.standing (fires : Fires events i j p) :
    Standing (events.take (j + 1)) i p.document? := by
  obtain ⟨e, there, waits, due⟩ := fires
  refine ⟨j, at_take.mpr ⟨Nat.lt_succ_self j, e, there, .later waits due⟩, fun k later i y h => ?_⟩
  exact absurd (at_take.mp h).1 (by omega)

theorem Standing.unique (first : Standing events i x) (second : Standing events j y) : i = j := by
  induction events using List.reverseRecOn with
  | nil =>
    obtain ⟨k, brought, -⟩ := first
    exact absurd brought.lt (Nat.not_lt_zero k)
  | append_singleton past e ih =>
    rcases standing_snoc.mp first with brings | ⟨first, nothing⟩
    · rcases standing_snoc.mp second with brings' | ⟨-, nothing⟩
      · exact brings.unique brings'
      · exact absurd brings (nothing i x)
    · rcases standing_snoc.mp second with brings' | ⟨second, -⟩
      · exact absurd brings' (nothing j y)
      · exact ih first second

theorem At.mono {Q : List Event → Event → Prop} (weaker : ∀ before e, P before e → Q before e) :
    At events i P → At events i Q
  | ⟨e, there, holds⟩ => ⟨e, there, weaker _ e holds⟩

/-- What an event shows it has submitted itself, or a render takes place with it. -/
theorem At.here_or_fires (brought : At events j (Brings · k x)) :
    k = j ∧ (Direct events k ∨ At events k Disturbs) ∨ ∃ p, Fires events k j p := by
  obtain ⟨e, there, brings⟩ := brought
  have inside : j < events.length := (List.getElem?_eq_some_iff.mp there).1
  have length : (events.take j).length = j := by
    rw [List.length_take, Nat.min_eq_left (Nat.le_of_lt inside)]
  generalize before : events.take j = past at brings length
  subst length
  cases brings with
  | update present => exact .inl ⟨rfl, .inl ⟨_, there, id, before.symm ▸ present⟩⟩
  | display present => exact .inl ⟨rfl, .inl ⟨_, there, id, before.symm ▸ present⟩⟩
  | atOnce asked =>
    exact .inl ⟨rfl, .inr ⟨_, there, before.symm ▸ disturbs_of_accepted? asked⟩⟩
  | later waits due => exact .inr ⟨_, _, there, before.symm ▸ waits, before.symm ▸ due⟩

theorem Fires.asked (fires : Fires events i j p) : i < j ∧ At events i Disturbs := by
  obtain ⟨-, -, waits, -⟩ := fires
  obtain ⟨earlier, e, there, asked⟩ := at_take.mp waits.asked
  exact ⟨earlier, e, there, disturbs_of_accepted? asked⟩

theorem At.le (brought : At events j (Brings · k x)) : k ≤ j := by
  rcases brought.here_or_fires with ⟨same, -⟩ | ⟨p, fires⟩
  · exact Nat.le_of_eq same
  · exact Nat.le_of_lt fires.asked.1

theorem At.unique (first : At events j (Brings · i x)) (second : At events j (Brings · k y)) :
    i = k := by
  obtain ⟨e, there, brings⟩ := first
  obtain ⟨e', there', brings'⟩ := second
  obtain rfl : e = e' := Option.some.inj (there.symm.trans there')
  exact brings.unique brings'

/-- What was shown before a render takes place was submitted no later than that render was asked for,
unless it was an update or a display. -/
theorem Fires.le_of_brought (fires : Fires events i n p)
    (quiet : ∀ k, i < k → k < n → ¬ Direct events k) (before : j < n)
    (brought : At events j (Brings · k x)) : k ≤ i := by
  by_contra newer
  have after : i < k := Nat.lt_of_not_le newer
  have calm : k < n → ¬ At events k Disturbs := by
    obtain ⟨-, -, waits, -⟩ := fires
    exact fun short disturbs => waits.undisturbed k after (at_take.mpr ⟨short, disturbs⟩)
  rcases brought.here_or_fires with ⟨rfl, direct | disturbs⟩ | ⟨q, first⟩
  · exact quiet k after before direct
  · exact calm before disturbs
  · obtain ⟨earlier, disturbs⟩ := first.asked
    exact calm (Nat.lt_trans earlier before) disturbs

/-- However a renderer is updated, made to display documents, asked for debounced renders and made to
cancel, forbid or drop them while time passes: at every time it shows, on every surface, something that
was submitted no earlier than anything shown before, exactly if no update and no display was made
between a debounced render that takes place and the call that asked for it. -/
theorem newest_shown_iff (S : Surface σ) (surface : σ) (events : List Event) :
    (∀ n k, Seen (events.take n) k → ∃ i x t, k ≤ i ∧ Standing (events.take n) i x ∧
        (run S (start surface) (events.take n)).shown = S.present t x) ↔
      ∀ i j k p, Fires events i j p → i < k → k < j → ¬ Direct events k := by
  constructor
  · intro newest i j k p fires after before direct
    obtain ⟨i', x, t, later, standing, -⟩ :=
      newest (j + 1) k (direct.seen (Nat.lt_succ_of_lt before))
    have same : i' = i := standing.unique fires.standing
    omega
  · rintro quiet n k ⟨j, x, brought⟩
    obtain ⟨i, y, standing⟩ := exists_standing brought
    obtain ⟨t, shown⟩ := shown_run S surface standing
    refine ⟨i, y, t, ?_, standing, shown⟩
    obtain ⟨m, lastBrought, last⟩ := standing
    have order : j ≤ m := Nat.not_lt.mp fun later => last j later k x brought
    obtain ⟨-, brought⟩ := at_take.mp brought
    obtain ⟨-, lastBrought⟩ := at_take.mp lastBrought
    rcases Nat.lt_or_eq_of_le order with before | rfl
    · rcases lastBrought.here_or_fires with ⟨rfl, -⟩ | ⟨p, fires⟩
      · exact Nat.le_trans brought.le (Nat.le_of_lt before)
      · exact fires.le_of_brought (fun k => quiet i m k p fires) before brought
    · exact Nat.le_of_eq (brought.unique lastBrought)

/-- A snippet is shown at once while an older one waits: the older one is shown in the end. -/
theorem older_edit_comes_back :
    let events : List Event := [.schedule "old" .html 10, .update "new" .html, .advance 10]
    let r := run Recorder.surface (start ⟨[], 0, false⟩) events
    Fires events 0 2 ⟨10, "old", .html⟩ ∧ Direct events 1 ∧
      r.surface.rendered = ["new", "old"] ∧ r.current.map (·.html) = some "old" ∧
      ¬ ∀ i j k p, Fires events i j p → i < k → k < j → ¬ Direct events k := by
  intro events r
  have fires : Fires events 0 2 ⟨10, "old", .html⟩ := by
    refine ⟨.advance 10, rfl, ⟨⟨_, rfl, by decide⟩, ?_, by decide⟩, by decide⟩
    rintro k after ⟨e, there, disturbs⟩
    match k, after with
    | 1, _ =>
      cases there
      exact disturbs
    | k + 2, _ => cases there
  have direct : Direct events 1 := ⟨.update "new" .html, rfl, id, by decide⟩
  exact ⟨fires, direct, by decide +kernel, by decide +kernel,
    fun quiet => quiet 0 2 1 _ fires Nat.zero_lt_one Nat.one_lt_two direct⟩

end Renderer

end Snippet.Preview
