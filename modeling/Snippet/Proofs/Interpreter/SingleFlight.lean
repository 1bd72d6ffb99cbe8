import Snippet.Proofs.Interpreter.Invariant

/-!
# One start at a time, and one outcome for all who wait for it

`Runner.SingleFlight` says of a runner what callers can rely on, now and after any later events:
there is at most one unfinished start, everybody who joined a start hears exactly its end, the cell
goes round only one way, and whoever wakes late leaves the runner alone. `Runner.single_flight`: it
holds after every sequence of arrivals, ends of starts, wake-ups, finishes and cancellations,
whoever makes the sessions.
-/

namespace Snippet.Interpreter

/-- The changes that a cell can undergo: from nothing to a start, from a start to its session or to
nothing, and from a session to nothing. -/
inductive Cell.Change : Cell → Cell → Prop
  | load (k : Nat) : Change .empty (.starting k)
  | open_ (k : Nat) : Change (.starting k) (.ready k)
  | fail (k : Nat) : Change (.starting k) .empty
  | forget (s : Nat) : Change (.ready s) .empty

/-- Who has heard the end of a start has heard it for good. -/
theorem Call.Advance.heard {r r' : Runner} {c k : Nat} {b : Boot} {call : Call} {e : Event}
    {stage : Stage} (advance : call.Advance r r' c e stage) (heard : call.stage.Heard k b) :
    stage.Heard k b := by
  cases advance with
  | rest => exact heard
  | conclude waits now =>
    rw [waits] at heard
    exact heard.elim
  | goOn pending ended =>
    rcases pending with waits | roused
    · rw [waits] at heard
      exact heard.elim
    · rw [roused] at heard
      exact heard.elim
  | answer runs =>
    rw [runs] at heard
    exact heard
  | break_ runs =>
    rw [runs] at heard
    exact heard
  | abandon runs =>
    rw [runs] at heard
    exact heard
  | withdraw waits left =>
    rw [waits] at heard
    exact heard.elim

/-- Who waits for a start goes on waiting, is roused by its end, or hears it, unless it leaves. -/
theorem Call.Advance.pending {r r' : Runner} {c k : Nat} {b : Boot} {call : Call} {e : Event}
    {stage : Stage} (advance : call.Advance r r' c e stage) (pending : call.stage.Pending k)
    (ended : r.boot? k = some b) (ended' : r'.boot? k = some b) (stays : e ≠ .cancel c) :
    stage.Pending k ∨ stage.Heard k b := by
  have idle : ∀ {s}, call.stage ≠ .executing s := by
    intro s runs
    rcases pending with waits | roused
    · rw [waits] at runs
      cases runs
    · rw [roused] at runs
      cases runs
  cases advance with
  | rest => exact Or.inl pending
  | @conclude j b' waits now =>
    obtain rfl := pending.unique (Or.inl waits)
    rw [ended'] at now
    cases now
    cases b with
    | session => exact Or.inl (Or.inr rfl)
    | failure f => exact Or.inl (Or.inr rfl)
    | panic p => exact Or.inr (Or.inl rfl)
  | @goOn j b' pending' ended'' =>
    obtain rfl := pending.unique pending'
    rw [ended] at ended''
    cases ended''
    exact Or.inr (Stage.heard_stageAfter _ _ _)
  | answer runs => exact (idle runs).elim
  | break_ runs => exact (idle runs).elim
  | abandon runs => exact (idle runs).elim
  | withdraw waits left => exact (stays left).elim

namespace Runner

variable {r r' : Runner} {same : Nat → Nat → Bool} {c k : Nat} {b : Boot} {e : Event}

/-- How many starts one event makes: an arrival that finds nothing makes one. -/
def begins : Cell → Event → Nat
  | .empty, .arrive _ => 1
  | _, _ => 0

/-- How many starts a sequence of events makes. -/
def beginnings (same : Nat → Nat → Bool) (r : Runner) : List Event → Nat
  | [] => 0
  | e :: es => begins r.cell e + beginnings same (r.step e same) es

/-- What callers can rely on. -/
structure SingleFlight (same : Nat → Nat → Bool) (r : Runner) : Prop where
  /-- at most one start is unfinished -/
  one : ∀ i j : Nat, r.starts[i]? = some none → r.starts[j]? = some none → i = j
  /-- who joined a start waits for it, has left, or has heard its end -/
  shared : ∀ (c : Nat) call k, r.calls[c]? = some call → call.joined = some k →
    call.stage.Of k (r.boot? k)
  /-- who joined a start that has ended hears its end as soon as it is woken, whatever else happens,
  unless it left or leaves -/
  delivered : ∀ (c : Nat) call k b, r.calls[c]? = some call → call.joined = some k →
    call.stage ≠ .withdrawn → r.boot? k = some b →
    ∀ later, .wake c ∈ later → .cancel c ∉ later →
      ∃ call', (r.run later same).calls[c]? = some call' ∧ call'.stage.Heard k b
  /-- a start that has not ended can end under anybody who waits for it -/
  driven : ∀ c k, r.stage? c = some (.waiting k) → r.boot? k = none →
    ∀ b, (r.step (.conclude c b) same).boot? k = some b
  /-- the cell goes round one way -/
  turns : ∀ e, (r.step e same).cell = r.cell ∨ r.cell.Change (r.step e same).cell
  /-- once a start is no longer awaited it never is again, and whoever wakes from it then changes
  nothing but its own stage -/
  late : ∀ k, 0 < k → k ≤ r.attempts → r.cell ≠ .starting k → ∀ later,
    (r.run later same).cell ≠ .starting k ∧
      ∀ (c : Nat) call, (r.run later same).calls[c]? = some call → call.stage.Pending k →
        ∃ stage, (r.run later same).step (.wake c) same = (r.run later same).setStage c stage

/-! ## The cell -/

/-- What one event can do to the cell. -/
theorem Move.cell (move : Move same r e r') :
    r'.cell = r.cell ∨ (r.cell = .empty ∧ r'.cell = .starting (r.attempts + 1)) ∨
      ((∃ k, r.cell = .starting k ∧ r'.cell = .ready k) ∨
        (r.cell ≠ .empty ∧ r'.cell = .empty)) := by
  have forgotten : ∀ s, (r.invalidate s same).cell = r.cell ∨
      (r.cell ≠ .empty ∧ (r.invalidate s same).cell = .empty) := by
    intro s
    rcases (invalidate_cell : (r.invalidate s same).cell = r.cell ∨ _) with eq | ⟨⟨t, held⟩, eq⟩
    · exact Or.inl eq
    · exact Or.inr ⟨by rw [held]; exact Cell.noConfusion, eq⟩
  cases move with
  | begin purpose none_ => exact Or.inr (Or.inl ⟨none_, rfl⟩)
  | @goOn c k b call here pending ended =>
    by_cases awaited : r.cell = .starting k
    · have cell := settle_cell_of_eq (b := b.told) awaited
      rw [setStage_cell, cell]
      cases b with
      | session => exact Or.inr (Or.inr (Or.inl ⟨k, awaited, rfl⟩))
      | failure f =>
        refine Or.inr (Or.inr (Or.inr ⟨?_, rfl⟩))
        rw [awaited]
        exact Cell.noConfusion
      | panic p => exact Or.inl awaited.symm
    · exact Or.inl (by rw [setStage_cell, settle_cell_of_ne awaited])
  | @break_ c s runs => exact (forgotten s).imp_right fun past => Or.inr (Or.inr past)
  | @abandon c s runs => exact (forgotten s).imp_right fun past => Or.inr (Or.inr past)
  | _ => exact Or.inl rfl

theorem Move.turn (move : Move same r e r') :
    r'.cell = r.cell ∨ r.cell.Change r'.cell := by
  rcases move.cell with kept | ⟨before, after⟩ | ⟨k, before, after⟩ | ⟨before, after⟩
  · exact Or.inl kept
  · rw [before, after]
    exact Or.inr (.load _)
  · rw [before, after]
    exact Or.inr (.open_ k)
  · rw [after]
    cases held : r.cell with
    | empty => exact (before held).elim
    | starting k => exact Or.inr (.fail k)
    | ready s => exact Or.inr (.forget s)

theorem Move.attempts_le (move : Move same r e r') : r.attempts ≤ r'.attempts := by
  cases move with
  | begin purpose none_ => exact Nat.le_succ _
  | goOn here pending ended => simp
  | break_ runs => simp
  | abandon runs => simp
  | _ => exact Nat.le_refl _

/-- A start that is no longer awaited is not awaited after the next event either. -/
theorem Move.not_awaited (move : Move same r e r') (begun : k ≤ r.attempts)
    (past : r.cell ≠ .starting k) : r'.cell ≠ .starting k := by
  intro awaited
  rcases move.cell with kept | ⟨_, after⟩ | ⟨j, _, after⟩ | ⟨_, after⟩
  · exact past (kept ▸ awaited)
  · rw [after] at awaited
    injection awaited with eq
    omega
  · rw [after] at awaited
    cases awaited
  · rw [after] at awaited
    cases awaited

theorem not_awaited_run (begun : k ≤ r.attempts) (past : r.cell ≠ .starting k)
    (later : List Event) : (r.run later same).cell ≠ .starting k := by
  induction later generalizing r with
  | nil => exact past
  | cons e es ih =>
    have move : Move same r e (r.step e same) := step_move r e
    exact ih (Nat.le_trans begun move.attempts_le) (move.not_awaited begun past)

/-! ## What callers hear -/

/-- Who has heard the end of a start has heard it after any later events. -/
theorem heard_run {call : Call} (here : r.calls[c]? = some call) (heard : call.stage.Heard k b)
    (later : List Event) :
    ∃ call', (r.run later same).calls[c]? = some call' ∧ call'.stage.Heard k b := by
  induction later generalizing r call with
  | nil => exact ⟨call, here, heard⟩
  | cons e es ih =>
    have move : Move same r e (r.step e same) := step_move r e
    obtain ⟨stage, here', advance⟩ := move.advance here
    exact ih here' (advance.heard heard)

/-- Who waits for a start that has ended, is woken and does not leave hears its end. -/
theorem pending_run {call : Call} (h : Sound r) (pos : 0 < k) (here : r.calls[c]? = some call)
    (pending : call.stage.Pending k) (ended : r.boot? k = some b) {later : List Event}
    (woken : .wake c ∈ later) (stays : .cancel c ∉ later) :
    ∃ call', (r.run later same).calls[c]? = some call' ∧ call'.stage.Heard k b := by
  induction later generalizing r call with
  | nil => cases woken
  | cons e es ih =>
    rw [List.mem_cons, not_or] at stays
    have move : Move same r e (r.step e same) := step_move r e
    have ended' := move.boot?_of_some h pos ended
    obtain ⟨stage, here', advance⟩ := move.advance here
    have next := advance.pending pending ended ended' (Ne.symm stays.1)
    rcases next with pending' | heard
    · rcases List.mem_cons.mp woken with now | then_
      · -- woken now, the caller does not wait any more
        rw [run_cons, ← now, wake_eq here pending, ended]
        have told : ((r.settle k b.told).setStage c (stageAfter call.purpose k b.told)).calls[c]? =
            some { call with stage := stageAfter call.purpose k b.told } := by
          rw [setStage_calls, if_pos rfl, settle_calls, here]
          rfl
        exact heard_run told (Stage.heard_stageAfter _ _ _) es
      · exact ih (h.step e) here' pending' ended' then_ stays.2
    · exact heard_run here' heard es

/-- A start that has begun and is not awaited has ended. -/
theorem Sound.ended_of_not_awaited (h : Sound r) (pos : 0 < k) (begun : k ≤ r.attempts)
    (past : r.cell ≠ .starting k) : ∃ b, r.boot? k = some b := by
  have inside : k - 1 < r.starts.length := by
    rw [h.booked.counted]
    omega
  cases found : r.starts[k - 1] with
  | none =>
    have awaited := h.booked.unfinished (List.getElem?_eq_some_iff.mpr ⟨inside, found⟩)
    rw [Nat.sub_add_cancel pos] at awaited
    exact (past awaited).elim
  | some b => exact ⟨b, boot?_eq_some.mpr (List.getElem?_eq_some_iff.mpr ⟨inside, found⟩)⟩

/-! ## All of it -/

theorem Sound.singleFlight (h : Sound r) : SingleFlight same r where
  one := by
    intro i j open_ open'
    have awaited := h.booked.unfinished open_
    rw [h.booked.unfinished open'] at awaited
    injection awaited with eq
    omega
  shared := fun c call k here join => (h.attended.joined here join).2.2
  delivered := by
    intro c call k b here join stays ended later woken stays'
    obtain ⟨pos, _, of_⟩ := h.attended.joined here join
    rcases of_ with waits | left | ⟨b', ended', ⟨roused, _⟩ | heard⟩
    · exact pending_run h pos here (Or.inl waits) ended woken stays'
    · exact (stays left).elim
    · exact pending_run h pos here (Or.inr roused) ended woken stays'
    · rw [ended] at ended'
      cases ended'
      exact heard_run here heard later
  driven := fun c k waits unended b => h.boot?_conclude waits unended b
  turns := fun e => (step_move r e).turn
  late := by
    intro k pos begun past later
    have past' : (r.run later same).cell ≠ .starting k := not_awaited_run begun past later
    refine ⟨past', fun c call here pending => ?_⟩
    have h' : Sound (r.run later same) := h.run later
    have begun' : k ≤ (r.run later same).attempts :=
      (h'.attended.joined here (h'.attended.pending_joined here pending)).2.1
    obtain ⟨b, ended⟩ := h'.ended_of_not_awaited pos begun' past'
    refine ⟨stageAfter call.purpose k b.told, ?_⟩
    rw [wake_eq here pending, ended]
    simp only [settle, if_neg past']

theorem Move.attempts_of_not_arrive (move : Move same r e r') (other : ∀ p, e ≠ .arrive p) :
    r'.attempts = r.attempts := by
  cases move with
  | begin purpose none_ => exact (other purpose rfl).elim
  | goOn here pending ended => simp
  | break_ runs => simp
  | abandon runs => simp
  | _ => rfl

theorem step_attempts (r : Runner) (e : Event) :
    (r.step e same).attempts = r.attempts + begins r.cell e := by
  have quiet : (∀ p, e ≠ .arrive p) → begins r.cell e = 0 := by
    intro other
    unfold begins
    split
    · exact (other _ rfl).elim
    · rfl
  cases e with
  | arrive purpose =>
    simp only [step, arrive]
    split
    · rename_i s held
      rw [held]
      rfl
    · rename_i k awaited
      rw [awaited]
      rfl
    · rename_i none_
      rw [none_]
      rfl
  | _ =>
    rw [quiet (fun p eq => by cases eq), Nat.add_zero]
    exact (step_move r _).attempts_of_not_arrive fun p eq => by cases eq

theorem attempts_run (r : Runner) (events : List Event) :
    (r.run events same).attempts = r.attempts + beginnings same r events := by
  induction events generalizing r with
  | nil => rfl
  | cons e es ih =>
    rw [run_cons, ih, beginnings, step_attempts, Nat.add_assoc]

/-- After every sequence of events, whoever makes the sessions, callers can rely on single flight,
and the number of starts is that of the arrivals that found nothing, each of them on record. -/
theorem single_flight (same : Nat → Nat → Bool) (events : List Event) :
    SingleFlight same (fresh.run events same) ∧
      (fresh.run events same).attempts = beginnings same fresh events ∧
      (fresh.run events same).starts.length = beginnings same fresh events := by
  have h : Sound (fresh.run events same) := sound events
  have counted : (fresh.run events same).attempts = fresh.attempts + beginnings same fresh events :=
    attempts_run fresh events
  rw [show fresh.attempts = 0 from rfl, Nat.zero_add] at counted
  exact ⟨h.singleFlight, counted, h.booked.counted.trans counted⟩

end Runner

end Snippet.Interpreter
