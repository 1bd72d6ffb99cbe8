import Snippet.Proofs.Interpreter.Invariant

/-!
# What a start leaves behind when it has ended

A start that yields a session or fails is no longer awaited once the caller under whom it ended has
gone on, and after a failure the next caller makes a new start. A start that goes down is awaited
for ever: nobody settles it, and every later caller joins it and goes down as well.
`Runner.awaited_iff_panic` puts the two together, for every run.
-/

namespace Snippet.Interpreter.Runner

variable {r : Runner} {same : Nat → Nat → Bool} {c k : Nat} {b : Boot}

/-- The next caller makes a new start and is served by it, however that start ends. -/
def ServesNext (same : Nat → Nat → Bool) (r : Runner) : Prop :=
  ∀ purpose b,
    (r.step (.arrive purpose) same).attempts = r.attempts + 1 ∧
      (r.step (.arrive purpose) same).cell = .starting (r.attempts + 1) ∧
      (r.run [.arrive purpose, .conclude r.nextCaller b, .wake r.nextCaller] same).stage?
        r.nextCaller = some (stageAfter purpose (r.attempts + 1) b)

/-- The next caller makes no start; it joins the start `k` and goes down with it. -/
def FailsNext (same : Nat → Nat → Bool) (k : Nat) (r : Runner) : Prop :=
  ∀ purpose,
    (r.step (.arrive purpose) same).attempts = r.attempts ∧
      (r.step (.arrive purpose) same).cell = .starting k ∧
      (r.run [.arrive purpose, .wake r.nextCaller] same).stage? r.nextCaller =
        some (.crashed poisoned)

theorem calls_snoc (call : Call) : (r.calls ++ [call])[r.nextCaller]? = some call := by
  simp [nextCaller]

theorem Sound.servesNext (h : Sound r) (none_ : r.cell = .empty) : ServesNext same r := by
  intro purpose b
  have h' : Sound (r.step (.arrive purpose) same) := h.step (.arrive purpose)
  have arrived : r.step (.arrive purpose) same = ⟨.starting (r.attempts + 1), r.attempts + 1,
      r.starts ++ [none],
      r.calls ++ [⟨purpose, some (r.attempts + 1), .waiting (r.attempts + 1)⟩]⟩ := by
    simp only [Runner.step, Runner.arrive, none_]
  rw [run_cons]
  rw [arrived] at h' ⊢
  have unended : boot? ⟨.starting (r.attempts + 1), r.attempts + 1, r.starts ++ [none],
      r.calls ++ [⟨purpose, some (r.attempts + 1), .waiting (r.attempts + 1)⟩]⟩ (r.attempts + 1) =
      none := by
    rw [boot?_snoc]
    exact h.booked.boot?_of_lt (Nat.lt_succ_self _)
  exact ⟨rfl, rfl, h'.stage?_drive (calls_snoc _) rfl unended b⟩

theorem Sound.failsNext {p : Panic} (h : Sound r) (pos : 0 < k)
    (down : r.boot? k = some (.panic p)) : FailsNext same k r := by
  intro purpose
  have awaited := h.booked.sunk pos down
  have arrived : r.step (.arrive purpose) same =
      { r with calls := r.calls ++ [⟨purpose, some k, .waiting k⟩] } := by
    simp only [Runner.step, Runner.arrive, awaited]
  rw [run_cons, run_cons, run_nil, arrived]
  refine ⟨rfl, awaited, ?_⟩
  rw [wake_eq (calls_snoc _) (Or.inl rfl)]
  have down' : boot? { r with calls := r.calls ++ [⟨purpose, some k, .waiting k⟩] } k =
      some (.panic p) := down
  rw [down']
  refine stage?_eq_some.mpr ⟨⟨purpose, some k, .crashed poisoned⟩, ?_, rfl⟩
  rw [setStage_calls, if_pos rfl, settle_calls, calls_snoc]
  rfl

/-- A start that failed, and has been settled, leaves nothing behind until the next caller comes. -/
theorem Sound.empty_of_failure {f : BootFailure} (h : Sound r) (latest : k = r.attempts)
    (failed : r.boot? k = some (.failure f)) (past : r.cell ≠ .starting k) : r.cell = .empty := by
  cases cell : r.cell with
  | empty => rfl
  | starting j =>
    obtain ⟨_, latest'⟩ := h.booked.latest cell
    rw [latest, ← latest', cell] at past
    exact (past rfl).elim
  | ready s =>
    obtain ⟨_, latest', session⟩ := h.booked.held cell
    rw [latest', ← latest, failed] at session
    cases session

/-- Of a start that has ended, and under whom it ended has gone on: it is still awaited exactly if
it went down. After a failure the next caller makes a new start and is served by it. After a start
that went down the runner waits for it at all later times, and fails every caller. -/
theorem awaited_iff_panic (same : Nat → Nat → Bool) (events : List Event) (k : Nat) (b : Boot)
    (pos : 0 < k) (ended : (fresh.run events same).boot? k = some b)
    (gone : ∀ c, (fresh.run events same).stage? c ≠ some (.roused k)) :
    ((fresh.run events same).cell = .starting k ↔ ∃ p, b = .panic p) ∧
      (∀ f, b = .failure f → (fresh.run events same).attempts = k →
        ServesNext same (fresh.run events same)) ∧
      (∀ p, b = .panic p → ∀ later,
        ((fresh.run events same).run later same).cell = .starting k ∧
          FailsNext same k ((fresh.run events same).run later same)) := by
  have h : Sound (fresh.run events same) := sound events
  generalize fresh.run events same = r at h ended gone
  have awaited : r.cell = .starting k ↔ ∃ p, b = .panic p := by
    constructor
    · intro awaited
      rcases h.attended.roused awaited ended with down | ⟨c, roused⟩
      · exact down
      · exact (gone c roused).elim
    · rintro ⟨p, rfl⟩
      exact h.booked.sunk pos ended
  refine ⟨awaited, ?_, ?_⟩
  · rintro f rfl latest
    refine h.servesNext (h.empty_of_failure latest.symm ended fun still => ?_)
    obtain ⟨p, eq⟩ := awaited.mp still
    cases eq
  · rintro p rfl later
    have h' : Sound (r.run later same) := h.run later
    have down' : (r.run later same).boot? k = some (.panic p) := boot?_run_of_some h pos ended later
    exact ⟨h'.booked.sunk pos down', h'.failsNext pos down'⟩

/-- Two callers wait, the one who made the start leaves, and the start goes down under the other. -/
theorem awaited_after_panic :
    let events : List Event :=
      [.arrive .run, .arrive .session, .cancel 0, .conclude 1 (.panic (.text "boom"))]
    let r := fresh.run events
    r.boot? 1 = some (.panic (.text "boom")) ∧ (∀ c, r.stage? c ≠ some (.roused 1)) ∧
      r.cell = .starting 1 ∧
      ∀ later, (r.run later).cell = .starting 1 ∧ FailsNext (· == ·) 1 (r.run later) := by
  intro events r
  have ended : r.boot? 1 = some (.panic (.text "boom")) := by decide
  have gone : ∀ c, r.stage? c ≠ some (.roused 1) := by
    intro c
    match c with
    | 0 => decide
    | 1 => decide
    | c + 2 => exact fun roused => by cases roused
  have main := awaited_iff_panic (· == ·) events 1 _ (by decide) ended gone
  exact ⟨ended, gone, main.1.mpr ⟨_, rfl⟩, main.2.2 _ rfl⟩

/-- The only caller goes down with the start that it made. The next one finds the start awaited,
makes none of its own, and goes down as well. -/
theorem stuck_after_panic :
    let r := fresh.run [.arrive .run, .conclude 0 (.panic (.text "boom")), .arrive .session, .wake 1]
    r.stage? 0 = some (.crashed (.text "boom")) ∧ r.cell = .starting 1 ∧ r.attempts = 1 ∧
      r.stage? 1 = some (.crashed poisoned) := by
  decide

end Snippet.Interpreter.Runner
