import Snippet.Proofs.Interpreter.Broken
import Snippet.Proofs.Interpreter.Recovery

/-!
# Who is still handed a session that broke

A caller who waits for a start is handed the session that the start made, whatever has become of that
session in the meantime. `Runner.begins_iff_awaits`: after a session broke, a source begins on it
exactly for those callers who had yet to go on from its start when it broke; whoever comes later gets
a session that was made later.
-/

namespace Snippet.Interpreter.Runner

variable {r : Runner} {c s : Nat} {e : Event}

/-- The event has the caller's source begin on the session. -/
def Begins (r : Runner) (e : Event) (c s : Nat) : Prop :=
  r.stage? c ≠ some (.executing s) ∧ (r.step e).stage? c = some (.executing s)

instance (r : Runner) (e : Event) (c s : Nat) : Decidable (Begins r e c s) :=
  inferInstanceAs (Decidable (_ ∧ _))

/-- The caller has a request, and has yet to go on from the start. -/
def Awaits (r : Runner) (c s : Nat) : Prop :=
  ∃ call, r.calls[c]? = some call ∧ call.purpose = .run ∧ call.stage.Pending s

/-- A source begins on a retired session only when a caller is woken who waited for its start. -/
theorem Begins.awaits (begins : Begins r e c s) (retired : Retired r s) :
    e = .wake c ∧ Awaits r c s := by
  have move : Move (· == ·) r e (r.step e) := step_move r e
  obtain ⟨idle, runs⟩ := begins
  generalize now : Stage.executing s = stage at runs
  have has : stage.session? = some s := by rw [← now]; rfl
  cases move.holds runs has with
  | kept before => exact (idle (now ▸ before)).elim
  | answered runs' => cases now
  | lost runs' breaks => exact (idle runs').elim
  | found purpose held last => exact (retired.out held).elim
  | @woken call here pending ended past wakes =>
    refine ⟨wakes, call, here, ?_, pending⟩
    cases purpose : call.purpose with
    | run => rfl
    | session =>
      rw [purpose] at now
      cases now

/-- Who waits for the start of a session with a request begins on it when woken. -/
theorem Awaits.begins (awaits : Awaits r c s) (made : Made r s) : Begins r (.wake c) c s := by
  obtain ⟨call, here, purpose, pending⟩ := awaits
  constructor
  · intro runs
    rw [stage?, here] at runs
    have eq : call.stage = .executing s := Option.some.inj runs
    rw [eq] at pending
    rcases pending with eq | eq <;> cases eq
  · rw [wake_eq here pending, made.boot]
    dsimp only
    rw [stage?_setStage, if_pos rfl, stage?, settle_calls, here, purpose]
    rfl

/-- Whoever comes when a session is retired gets a session that was made later, or waits for one. -/
theorem Sound.later_session (h : Sound r) (retired : Retired r s) :
    ∃ k, s < k ∧ ((r.step (.arrive .run)).stage? r.nextCaller = some (.waiting k) ∨
      (r.step (.arrive .run)).stage? r.nextCaller = some (.executing k)) := by
  have begun := retired.begun
  simp only [Runner.step, Runner.arrive]
  split
  · rename_i t held
    have latest := (h.booked.held held).2.1
    have other : t ≠ s := fun eq => retired.out (eq ▸ held)
    exact ⟨t, by omega, Or.inr (stage?_eq_some.mpr ⟨_, calls_snoc _, rfl⟩)⟩
  · rename_i k awaited
    have latest := (h.booked.latest awaited).2
    have other : k ≠ s := fun eq => retired.past (eq ▸ awaited)
    exact ⟨k, by omega, Or.inl (stage?_eq_some.mpr ⟨_, calls_snoc _, rfl⟩)⟩
  · exact ⟨r.attempts + 1, by omega, Or.inl (stage?_eq_some.mpr ⟨_, calls_snoc _, rfl⟩)⟩

/-- After the session `s` broke, a caller's source begins on it sooner or later, if the caller is let
go on, exactly if the caller had yet to go on from the start of `s` with a request when `s` broke.
Whoever comes later gets a session that was made later. -/
theorem begins_iff_awaits (events : List Event) (s : Nat) (broken : Broken (fresh.run events) s) :
    (∀ c, (∃ later e, Begins ((fresh.run events).run later) e c s) ↔
      Awaits (fresh.run events) c s) ∧
    ∀ later, let r := (fresh.run events).run later
      ∃ k, s < k ∧ ((r.step (.arrive .run)).stage? r.nextCaller = some (.waiting k) ∨
        (r.step (.arrive .run)).stage? r.nextCaller = some (.executing k)) := by
  have known := kept events
  have retired := known.retired s broken
  refine ⟨fun c => ⟨?_, fun awaits => ?_⟩, fun later =>
    (known.sound.run later).later_session (retired.run later)⟩
  · rintro ⟨later, e, begins⟩
    obtain ⟨_, call, here, purpose, pending⟩ := begins.awaits (retired.run later)
    obtain ⟨stage, here', pending'⟩ := retired.pending_run here pending
    exact ⟨_, here', purpose, pending'⟩
  · obtain ⟨d, stage, here, lost⟩ := broken
    exact ⟨[], .wake c, awaits.begins (known.handed d stage s here lost.session?)⟩

/-- The session 1 broke under the first of four callers. Of those who waited with it, one has a
request, one wants no more than the session, and one has gone on before. -/
theorem begins_iff_awaits_after_break :
    let r := fresh.run [.arrive .run, .arrive .run, .arrive .session, .arrive .run,
      .conclude 0 .session, .wake 0, .wake 3, .finish 0 .breakage]
    Broken r 1 ∧ (∃ later e, Begins (r.run later) e 1 1) ∧
      (¬ ∃ later e, Begins (r.run later) e 2 1) ∧ (¬ ∃ later e, Begins (r.run later) e 3 1) ∧
      ∃ k, 1 < k ∧ ((r.step (.arrive .run)).stage? 4 = some (.waiting k) ∨
        (r.step (.arrive .run)).stage? 4 = some (.executing k)) := by
  intro r
  have broken : Broken r 1 := ⟨0, .broke 1, by decide, Or.inl rfl⟩
  have main := begins_iff_awaits _ 1 broken
  refine ⟨broken, (main.1 1).mpr ⟨⟨.run, some 1, .waiting 1⟩, by decide, rfl, Or.inl rfl⟩, ?_, ?_,
    main.2 []⟩
  · intro begins
    obtain ⟨call, here, purpose, _⟩ := (main.1 2).mp begins
    have call_eq : call = ⟨.session, some 1, .waiting 1⟩ := Option.some.inj (here.symm.trans (by decide))
    rw [call_eq] at purpose
    cases purpose
  · intro begins
    obtain ⟨call, here, _, pending⟩ := (main.1 3).mp begins
    have call_eq : call = ⟨.run, some 1, .executing 1⟩ := Option.some.inj (here.symm.trans (by decide))
    rw [call_eq] at pending
    rcases pending with eq | eq <;> cases eq

/-- Two requests wait for one start. The first breaks the session before the second is woken, the
session is forgotten, and the second begins on it nevertheless. -/
theorem begins_after_break :
    let r := fresh.run [.arrive .run, .arrive .run, .conclude 0 .session, .wake 0,
      .finish 0 .breakage]
    Broken r 1 ∧ r.cell = .empty ∧ Begins r (.wake 1) 1 1 := by
  intro r
  exact ⟨⟨0, .broke 1, by decide, Or.inl rfl⟩, by decide, by decide⟩

end Snippet.Interpreter.Runner
