import Snippet.Proofs.Interpreter.SingleFlight

/-!
# Sessions that broke

A session breaks when the run of a source ends in a failure of the session, ends abruptly, or is left
by its caller (`Runner.Broken`). Who holds a session holds it from a start that is over
(`Runner.handed`), so a session that broke is out of the cell and out of reach of the cell
(`Runner.Retired`), and nobody who has to do with it changes the cell any more
(`Runner.stays_out`). Every start here makes a session of its own.
-/

namespace Snippet.Interpreter

/-- The session that a caller has been handed. -/
def Stage.session? : Stage → Option Nat
  | .executing s => some s
  | .given s => some s
  | .answered s => some s
  | .broke s => some s
  | .abandoned s => some s
  | _ => none

/-- The caller uses the session, or has yet to go on from the start that made it. -/
def Stage.Uses (s : Nat) (stage : Stage) : Prop := stage = .executing s ∨ stage.Pending s

/-- The run of the caller's source broke the session, or was left. -/
def Stage.Lost (s : Nat) (stage : Stage) : Prop := stage = .broke s ∨ stage = .abandoned s

/-- The run of the caller's source ends in a failure of the session, ends abruptly, or is left. -/
def Event.Breaks (c : Nat) (e : Event) : Prop := e = .finish c .breakage ∨ e = .cancel c

/-- The event is one of this caller. -/
def Event.By (c : Nat) : Event → Prop
  | .arrive _ => False
  | .conclude d _ => d = c
  | .wake d => d = c
  | .finish d _ => d = c
  | .cancel d => d = c

theorem Stage.not_pending_stageAfter (purpose : Purpose) (j k : Nat) (b : Boot) :
    ¬ (Runner.stageAfter purpose j b).Pending k := by
  cases b with
  | session =>
    cases purpose
    · rintro (eq | eq) <;> cases eq
    · rintro (eq | eq) <;> cases eq
  | failure f => rintro (eq | eq) <;> cases eq
  | panic p => rintro (eq | eq) <;> cases eq

theorem Stage.session?_stageAfter {purpose : Purpose} {k s : Nat} {b : Boot}
    (has : (Runner.stageAfter purpose k b).session? = some s) : b = .session ∧ k = s := by
  cases b with
  | session =>
    refine ⟨rfl, ?_⟩
    cases purpose
    · injection has
    · injection has
  | failure f => cases has
  | panic p => cases has

theorem Stage.Lost.session? {s : Nat} {stage : Stage} (lost : stage.Lost s) :
    stage.session? = some s := by
  rcases lost with rfl | rfl
  · rfl
  · rfl

theorem Stage.not_lost_stageAfter (purpose : Purpose) (k s : Nat) :
    ¬ (Runner.stageAfter purpose k .session).Lost s := by
  cases purpose
  · rintro (eq | eq) <;> cases eq
  · rintro (eq | eq) <;> cases eq

theorem Stage.session?_stageUnder (k : Nat) (b : Boot) :
    (Runner.stageUnder k b).session? = none := by
  cases b with
  | session => rfl
  | failure f => rfl
  | panic p => rfl

namespace Runner

variable {r r' : Runner} {same : Nat → Nat → Bool} {c d k s t : Nat} {b : Boot} {e : Event}
  {stage : Stage}

/-- A run on the session broke it, or was left. -/
def Broken (r : Runner) (s : Nat) : Prop :=
  ∃ c stage, r.stage? c = some stage ∧ stage.Lost s

/-- The session is neither held nor still to come. -/
structure Retired (r : Runner) (s : Nat) : Prop where
  begun : s ≤ r.attempts
  past : r.cell ≠ .starting s
  out : r.cell ≠ .ready s

/-! ## Stages of callers -/

theorem stage?_setStage (i : Nat) :
    (r.setStage c stage).stage? i = if c = i then (r.stage? i).map fun _ => stage else r.stage? i := by
  rw [stage?, setStage_calls, stage?]
  split
  · cases r.calls[i]? with
    | none => rfl
    | some call => rfl
  · rfl

theorem stage?_congr (calls : r'.calls = r.calls) (i : Nat) : r'.stage? i = r.stage? i := by
  rw [stage?, stage?, calls]

theorem stage?_snoc {call : Call} (calls : r'.calls = r.calls ++ [call])
    (here : r'.stage? c = some stage) :
    r.stage? c = some stage ∨ c = r.nextCaller ∧ call.stage = stage := by
  rw [stage?, calls] at here
  rcases Nat.lt_trichotomy c r.calls.length with before | last | beyond
  · rw [List.getElem?_append_left before] at here
    exact Or.inl here
  · subst last
    rw [List.getElem?_concat_length] at here
    exact Or.inr ⟨rfl, Option.some.inj here⟩
  · rw [List.getElem?_eq_none (by simp; omega)] at here
    cases here

/-! ## How a caller comes by a session -/

/-- How an event that leads to the runner `r'` can leave a caller with the session `s`. -/
inductive Holds (r r' : Runner) (e : Event) (c s : Nat) : Stage → Prop
  | kept {stage : Stage} (before : r.stage? c = some stage) : Holds r r' e c s stage
  | answered (runs : r.stage? c = some (.executing s)) : Holds r r' e c s (.answered s)
  | lost {stage : Stage} (runs : r.stage? c = some (.executing s)) (breaks : e.Breaks c) :
    Holds r r' e c s stage
  | found (purpose : Purpose) (held : r.cell = .ready s) (last : c = r.nextCaller) :
    Holds r r' e c s (stageAfter purpose s .session)
  | woken {call : Call} (here : r.calls[c]? = some call) (pending : call.stage.Pending s)
    (ended : r.boot? s = some .session) (past : r'.cell ≠ .starting s) (wakes : e = .wake c) :
    Holds r r' e c s (stageAfter call.purpose s .session)

/-- The event left the caller where it was, or moved it to the stage. -/
theorem stage?_moved {r₁ : Runner} {next : Stage} (calls : r₁.calls = r.calls)
    (here : (r₁.setStage d next).stage? c = some stage) :
    r.stage? c = some stage ∨ d = c ∧ next = stage := by
  rw [stage?_setStage, stage?_congr calls] at here
  split at here
  · rename_i eq
    obtain ⟨before, _, now⟩ := Option.map_eq_some_iff.mp here
    exact Or.inr ⟨eq, now⟩
  · exact Or.inl here

theorem Move.holds (move : Move same r e r') (here : r'.stage? c = some stage)
    (has : stage.session? = some s) : Holds r r' e c s stage := by
  cases move with
  | stay => exact .kept here
  | @enter purpose t held =>
    rcases stage?_snoc (by rfl) here with before | ⟨last, new⟩
    · exact .kept before
    · obtain rfl : stageAfter purpose t .session = stage := new
      obtain ⟨_, rfl⟩ := Stage.session?_stageAfter has
      exact .found purpose held last
  | join purpose awaited =>
    rcases stage?_snoc (by rfl) here with before | ⟨_, new⟩
    · exact .kept before
    · subst new
      cases has
  | begin purpose none_ =>
    rcases stage?_snoc (by rfl) here with before | ⟨_, new⟩
    · exact .kept before
    · subst new
      cases has
  | @conclude d k b waits open_ =>
    rcases stage?_moved (by rfl) here with before | ⟨_, new⟩
    · exact .kept before
    · rw [← new, Stage.session?_stageUnder] at has
      cases has
  | @goOn d k b call here' pending ended =>
    rcases stage?_moved settle_calls here with before | ⟨rfl, new⟩
    · exact .kept before
    · subst new
      obtain ⟨told, rfl⟩ := Stage.session?_stageAfter has
      obtain rfl : b = .session := by
        cases b with
        | session => rfl
        | failure f => cases told
        | panic p => cases told
      refine .woken here' pending ended ?_ rfl
      rw [setStage_cell]
      by_cases awaited : r.cell = .starting k
      · rw [settle_cell_of_eq awaited]
        exact Cell.noConfusion
      · rw [settle_cell_of_ne awaited]
        exact awaited
  | @answer d t runs =>
    rcases stage?_moved rfl here with before | ⟨rfl, new⟩
    · exact .kept before
    · subst new
      cases has
      exact .answered runs
  | @break_ d t runs =>
    rcases stage?_moved invalidate_calls here with before | ⟨rfl, new⟩
    · exact .kept before
    · subst new
      cases has
      exact .lost runs (Or.inl rfl)
  | @abandon d t runs =>
    rcases stage?_moved invalidate_calls here with before | ⟨rfl, new⟩
    · exact .kept before
    · subst new
      cases has
      exact .lost runs (Or.inr rfl)
  | withdraw waits =>
    rcases stage?_moved rfl here with before | ⟨_, new⟩
    · exact .kept before
    · subst new
      cases has

/-- The start is over, and made the session. -/
structure Made (r : Runner) (s : Nat) : Prop where
  pos : 0 < s
  begun : s ≤ r.attempts
  past : r.cell ≠ .starting s
  boot : r.boot? s = some .session

/-- Whoever has a session has it from a start that is over. -/
def Handed (r : Runner) : Prop :=
  ∀ c stage s, r.stage? c = some stage → stage.session? = some s → Made r s

theorem Made.move (made : Made r s) (h : Sound r) (move : Move same r e r') : Made r' s where
  pos := made.pos
  begun := Nat.le_trans made.begun move.attempts_le
  past := move.not_awaited made.begun made.past
  boot := move.boot?_of_some h made.pos made.boot

theorem Handed.move (handed : Handed r) (h : Sound r) (move : Move same r e r') : Handed r' := by
  intro c stage s here has
  cases move.holds here has with
  | kept before => exact (handed c stage s before has).move h move
  | answered runs => exact (handed c _ s runs rfl).move h move
  | lost runs breaks => exact (handed c _ s runs rfl).move h move
  | found purpose held last =>
    obtain ⟨pos, latest, boot⟩ := h.booked.held held
    have past : r.cell ≠ .starting s := by
      rw [held]
      exact Cell.noConfusion
    exact Made.move ⟨pos, Nat.le_of_eq latest, past, boot⟩ h move
  | woken here' pending ended past wakes =>
    obtain ⟨pos, begun, _⟩ := h.attended.joined here' (h.attended.pending_joined here' pending)
    exact ⟨pos, Nat.le_trans begun move.attempts_le, past, move.boot?_of_some h pos ended⟩

/-! ## A session that broke is retired -/

theorem Retired.move (retired : Retired r s) (move : Move same r e r') : Retired r' s where
  begun := Nat.le_trans retired.begun move.attempts_le
  past := move.not_awaited retired.begun retired.past
  out := by
    intro held
    rcases move.cell with kept | ⟨_, after⟩ | ⟨k, before, after⟩ | ⟨_, after⟩
    · exact retired.out (kept ▸ held)
    · rw [after] at held
      cases held
    · rw [after] at held
      injection held with eq
      exact retired.past (eq ▸ before)
    · rw [after] at held
      cases held

theorem Retired.run (retired : Retired r s) (later : List Event) : Retired (r.run later same) s := by
  induction later generalizing r with
  | nil => exact retired
  | cons e es ih => exact ih (retired.move (step_move r e))

theorem invalidate_cell_ne_ready : (r.invalidate s).cell ≠ .ready s := by
  unfold invalidate
  split
  · rename_i t held
    split
    · exact Cell.noConfusion
    · rename_i other
      rw [held]
      intro eq
      injection eq with eq
      exact other (beq_iff_eq.mpr eq)
  · rename_i other
    exact other s

/-- Forgetting a session leaves a cell alone that does not hold that session. -/
theorem invalidate_cell_of_ne (other : r.cell ≠ .ready s) : (r.invalidate s).cell = r.cell := by
  unfold invalidate
  split
  · rename_i t held
    rw [if_neg]
    intro eq
    exact other (held.trans (congrArg Cell.ready (beq_iff_eq.mp eq)))
  · rfl

/-- The event by which a session breaks forgets that session and moves its caller on. -/
theorem step_breaks (runs : r.stage? c = some (.executing s)) (breaks : e.Breaks c) :
    ∃ stage, (stage = .broke s ∨ stage = .abandoned s) ∧
      r.step e = (r.invalidate s).setStage c stage := by
  rcases breaks with rfl | rfl
  · refine ⟨.broke s, Or.inl rfl, ?_⟩
    simp only [step, runs]
  · refine ⟨.abandoned s, Or.inr rfl, ?_⟩
    simp only [step, runs]

theorem Handed.retired (handed : Handed r) (runs : r.stage? c = some (.executing s))
    (breaks : e.Breaks c) : Retired (r.step e) s := by
  have made : Made r s := handed c _ s runs rfl
  have move : Move (· == ·) r e (r.step e) := step_move r e
  refine ⟨Nat.le_trans made.begun move.attempts_le, move.not_awaited made.begun made.past, ?_⟩
  obtain ⟨stage, _, eq⟩ := step_breaks runs breaks
  rw [eq, setStage_cell]
  exact invalidate_cell_ne_ready

/-- What is known of sessions at all times: how they are handed out, and that those that broke are
retired. -/
structure Kept (r : Runner) : Prop where
  sound : Sound r
  handed : Handed r
  retired : ∀ s, Broken r s → Retired r s

theorem Kept.fresh : Kept fresh := by
  have nobody : ∀ c stage, Runner.fresh.stage? c ≠ some stage := by
    intro c stage here
    simp [Runner.fresh, stage?] at here
  refine ⟨Sound.fresh, fun c stage s here => (nobody c stage here).elim, ?_⟩
  rintro s ⟨c, stage, here, _⟩
  exact (nobody c stage here).elim

/-- A session that is broken was broken before, or breaks now. -/
theorem Move.broken (move : Move same r e r') (broken : Broken r' s) :
    Broken r s ∨ ∃ c, r.stage? c = some (.executing s) ∧ e.Breaks c := by
  obtain ⟨c, stage, here, lost⟩ := broken
  cases move.holds here lost.session? with
  | kept before => exact Or.inl ⟨c, stage, before, lost⟩
  | answered runs => rcases lost with eq | eq <;> cases eq
  | lost runs breaks => exact Or.inr ⟨c, runs, breaks⟩
  | found purpose held last => exact (Stage.not_lost_stageAfter purpose s s lost).elim
  | woken here' pending ended past wakes => exact (Stage.not_lost_stageAfter _ s s lost).elim

theorem Kept.step (kept : Kept r) (e : Event) : Kept (r.step e) := by
  have move : Move (· == ·) r e (r.step e) := step_move r e
  refine ⟨kept.sound.step e, kept.handed.move kept.sound move, fun s broken => ?_⟩
  rcases move.broken broken with before | ⟨c, runs, breaks⟩
  · exact (kept.retired s before).move move
  · exact kept.handed.retired runs breaks

theorem Kept.run (kept : Kept r) (events : List Event) : Kept (r.run events) := by
  induction events generalizing r with
  | nil => exact kept
  | cons e es ih => exact ih (kept.step e)

/-- This is known of every runner that has come about. -/
theorem kept (events : List Event) : Kept (fresh.run events) := Kept.fresh.run events

/-! ## Those who come later, and those who are left -/

/-- A caller who was not there before has just arrived. It has the session of the cell, or waits for
the start that the cell awaits, or for a new one. -/
theorem Move.newcomer {call : Call} (move : Move same r e r') (absent : r.calls[c]? = none)
    (here : r'.calls[c]? = some call) :
    c = r.nextCaller ∧ ∃ purpose, e = .arrive purpose ∧
      ((∃ t, r.cell = .ready t ∧ call = ⟨purpose, none, stageAfter purpose t .session⟩) ∨
        ∃ k, (r.cell = .starting k ∨ r.cell = .empty ∧ k = r.attempts + 1) ∧
          call = ⟨purpose, some k, .waiting k⟩) := by
  have last : ∀ {new : Call}, (r.calls ++ [new])[c]? = some call → c = r.nextCaller ∧ call = new := by
    intro new found
    have beyond : r.calls.length ≤ c := List.getElem?_eq_none_iff.mp absent
    rw [List.getElem?_append_right beyond] at found
    have first : c - r.calls.length = 0 := by
      by_contra further
      rw [List.getElem?_eq_none (by simp; omega)] at found
      cases found
    rw [first] at found
    exact ⟨Nat.le_antisymm (Nat.sub_eq_zero_iff_le.mp first) beyond, (Option.some.inj found).symm⟩
  have gone : ∀ {r₁ : Runner} {d : Nat} {next : Stage}, r₁.calls = r.calls →
      (r₁.setStage d next).calls[c]? ≠ some call := by
    intro r₁ d next calls found
    rw [setStage_calls, calls, absent] at found
    split at found <;> cases found
  cases move with
  | stay => rw [absent] at here; cases here
  | enter purpose held =>
    obtain ⟨place, new⟩ := last here
    exact ⟨place, purpose, rfl, Or.inl ⟨_, held, new⟩⟩
  | join purpose awaited =>
    obtain ⟨place, new⟩ := last here
    exact ⟨place, purpose, rfl, Or.inr ⟨_, Or.inl awaited, new⟩⟩
  | begin purpose none_ =>
    obtain ⟨place, new⟩ := last here
    exact ⟨place, purpose, rfl, Or.inr ⟨_, Or.inr ⟨none_, rfl⟩, new⟩⟩
  | conclude b waits open_ => exact (gone (by rfl) here).elim
  | goOn here' pending ended => exact (gone settle_calls here).elim
  | answer runs => exact (gone rfl here).elim
  | break_ runs => exact (gone invalidate_calls here).elim
  | abandon runs => exact (gone invalidate_calls here).elim
  | withdraw waits => exact (gone rfl here).elim

/-- Nobody begins to wait for a start that is over. -/
theorem Move.pending {call : Call} (move : Move same r e r') (retired : Retired r s)
    (here : r'.calls[c]? = some call) (pending : call.stage.Pending s) :
    ∃ stage, r.calls[c]? = some { call with stage } ∧ stage.Pending s := by
  cases found : r.calls[c]? with
  | none =>
    obtain ⟨_, purpose, _, ⟨t, _, rfl⟩ | ⟨k, cell, rfl⟩⟩ := move.newcomer found here
    · exact (Stage.not_pending_stageAfter purpose t s .session pending).elim
    · obtain rfl : k = s := by
        rcases pending with eq | eq
        · injection eq
        · cases eq
      rcases cell with awaited | ⟨_, next⟩
      · exact (retired.past awaited).elim
      · have begun := retired.begun
        omega
  | some before =>
    obtain ⟨stage, here', advance⟩ := move.advance found
    rw [here] at here'
    obtain rfl := Option.some.inj here'
    refine ⟨before.stage, rfl, ?_⟩
    cases advance with
    | rest => exact pending
    | @conclude k b waits now =>
      -- the start that ends under the caller is the one whose end it has yet to go on from
      have roused : stageUnder k b = .roused s := by
        rcases pending with eq | eq
        · cases b <;> cases eq
        · exact eq
      obtain rfl : k = s := by
        cases b with
        | panic p => cases roused
        | session => injection roused
        | failure f => injection roused
      exact Or.inl waits
    | goOn pending' ended => exact (Stage.not_pending_stageAfter _ _ _ _ pending).elim
    | answer runs => rcases pending with eq | eq <;> cases eq
    | break_ runs => rcases pending with eq | eq <;> cases eq
    | abandon runs => rcases pending with eq | eq <;> cases eq
    | withdraw waits left => rcases pending with eq | eq <;> cases eq

/-- Whoever has yet to go on from a start that is over waited for it all the time. -/
theorem Retired.pending_run {call : Call} {later : List Event} (retired : Retired r s)
    (here : (r.run later same).calls[c]? = some call) (pending : call.stage.Pending s) :
    ∃ stage, r.calls[c]? = some { call with stage } ∧ stage.Pending s := by
  induction later generalizing r with
  | nil => exact ⟨call.stage, here, pending⟩
  | cons e es ih =>
    have move : Move same r e (r.step e same) := step_move r e
    obtain ⟨stage, here', pending'⟩ := ih (retired.move move) here
    obtain ⟨stage', here'', pending''⟩ := move.pending retired here' pending'
    exact ⟨stage', here'', pending''⟩

/-- Nobody who was not there when a session was retired is handed it. -/
theorem Retired.not_handed {n : Nat} {later : List Event} (retired : Retired r s)
    (absent : ∀ d, n ≤ d → ∀ stage, r.stage? d = some stage →
      stage.session? ≠ some s ∧ ¬ stage.Pending s)
    (late : n ≤ c) (here : (r.run later same).stage? c = some stage) :
    stage.session? ≠ some s ∧ ¬ stage.Pending s := by
  induction later generalizing r with
  | nil => exact absent c late stage here
  | cons e es ih =>
    have move : Move same r e (r.step e same) := step_move r e
    refine ih (retired.move move) ?_ here
    intro d le next now
    constructor
    · intro has
      cases move.holds now has with
      | kept before => exact (absent d le _ before).1 has
      | answered runs => exact (absent d le _ runs).1 rfl
      | lost runs breaks => exact (absent d le _ runs).1 rfl
      | found purpose held last => exact retired.out held
      | woken here' pending ended past wakes =>
        exact (absent d le _ (stage?_eq_some.mpr ⟨_, here', rfl⟩)).2 pending
    · intro pending
      obtain ⟨call, here', rfl⟩ := stage?_eq_some.mp now
      obtain ⟨before, here'', pending'⟩ := move.pending retired here' pending
      exact (absent d le _ (stage?_eq_some.mpr ⟨_, here'', rfl⟩)).2 pending'

/-- Whoever uses a retired session, or has yet to go on from its start, leaves the cell alone. -/
theorem Retired.cell_step (retired : Retired r s) (here : r.stage? c = some stage)
    (uses : stage.Uses s) (by_ : e.By c) : (r.step e).cell = r.cell := by
  have move : Move (· == ·) r e (r.step e) := step_move r e
  -- the caller has to do with no other session and no other start
  have runs_on : ∀ {t}, r.stage? c = some (.executing t) → t = s := by
    intro t runs
    rw [here] at runs
    cases runs
    rcases uses with eq | pending
    · injection eq
    · rcases pending with eq | eq <;> cases eq
  have waits_for : ∀ {call : Call} {k : Nat}, r.calls[c]? = some call → call.stage.Pending k →
      k = s := by
    intro call k here' pending
    have here'' : r.stage? c = some call.stage := stage?_eq_some.mpr ⟨call, here', rfl⟩
    rw [here] at here''
    obtain rfl := Option.some.inj here''
    rcases uses with runs | pending'
    · rw [runs] at pending
      rcases pending with eq | eq <;> cases eq
    · exact pending.unique pending'
  generalize r.step e = next at move
  revert by_
  cases move with
  | stay => exact fun _ => rfl
  | enter purpose held => exact False.elim
  | join purpose awaited => exact False.elim
  | begin purpose none_ => exact False.elim
  | conclude b waits open_ => exact fun _ => rfl
  | @goOn d k b call here' pending ended =>
    rintro rfl
    obtain rfl := waits_for here' pending
    rw [setStage_cell, settle_cell_of_ne retired.past]
  | answer runs => exact fun _ => rfl
  | @break_ d t runs =>
    rintro rfl
    obtain rfl := runs_on runs
    rw [setStage_cell, invalidate_cell_of_ne retired.out]
  | @abandon d t runs =>
    rintro rfl
    obtain rfl := runs_on runs
    rw [setStage_cell, invalidate_cell_of_ne retired.out]
  | withdraw waits => exact fun _ => rfl

/-! ## All of it -/

/-- From the event on by which a run breaks the session `s`, the cell never holds `s`, nobody who
arrives is handed it, and whoever uses it, or has yet to go on from the start that made it, leaves the
cell alone. The event by which it breaks leaves a cell alone that does not hold `s`. -/
theorem stays_out (events : List Event) (c s : Nat) (e : Event)
    (runs : (fresh.run events).stage? c = some (.executing s)) (breaks : e.Breaks c) :
    ((fresh.run events).cell ≠ .ready s →
      ((fresh.run events).step e).cell = (fresh.run events).cell) ∧
    ∀ later, let r := ((fresh.run events).step e).run later
      r.cell ≠ .ready s ∧
      (∀ d stage, ((fresh.run events).step e).nextCaller ≤ d → r.stage? d = some stage →
        stage.session? ≠ some s) ∧
      ∀ d stage e', r.stage? d = some stage → stage.Uses s → e'.By d →
        (r.step e').cell = r.cell := by
  have retired := (kept events).handed.retired runs breaks
  constructor
  · intro other
    obtain ⟨stage, _, eq⟩ := step_breaks runs breaks
    rw [eq, setStage_cell, invalidate_cell_of_ne other]
  · intro later r
    have retired' : Retired r s := retired.run later
    refine ⟨retired'.out, fun d stage late here => ?_, fun d stage e' here uses by_ =>
      retired'.cell_step here uses by_⟩
    have absent : ∀ d, ((fresh.run events).step e).nextCaller ≤ d → ∀ stage,
        ((fresh.run events).step e).stage? d = some stage →
        stage.session? ≠ some s ∧ ¬ stage.Pending s := by
      intro d late stage here
      rw [stage?, List.getElem?_eq_none late] at here
      cases here
    exact (retired.not_handed absent late here).1

/-- Four callers share the session 1, and it breaks under the first. Of those who are left one runs
on it, and one has yet to go on from its start; a newcomer gets the session 2, and neither of them
takes it away. -/
theorem stays_out_after_break :
    let events : List Event := [.arrive .run, .arrive .run, .arrive .session, .conclude 0 .session,
      .wake 0, .wake 1]
    let r := (fresh.run events).step (.finish 0 .breakage)
    let later : List Event := [.arrive .run, .conclude 3 .session, .wake 3]
    (fresh.run events).stage? 0 = some (.executing 1) ∧ r.cell = .empty ∧
      (r.run later).cell = .ready 2 ∧ ((r.run later).step (.cancel 1)).cell = .ready 2 ∧
      ((r.run later).step (.wake 2)).cell = .ready 2 := by
  intro events r later
  have runs : (fresh.run events).stage? 0 = some (.executing 1) := by decide
  have main := (stays_out events 0 1 (.finish 0 .breakage) runs (Or.inl rfl)).2 later
  have now : (r.run later).cell = .ready 2 := by decide
  have runner : (r.run later).stage? 1 = some (.executing 1) := by decide
  have waiter : (r.run later).stage? 2 = some (.waiting 1) := by decide
  have left := main.2.2 1 _ (.cancel 1) runner (Or.inl rfl) rfl
  have woken := main.2.2 2 _ (.wake 2) waiter (Or.inr (Or.inl rfl)) rfl
  exact ⟨runs, by decide, now, left.trans now, woken.trans now⟩

end Runner

end Snippet.Interpreter
