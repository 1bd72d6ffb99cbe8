import Mathlib.Data.List.Basic
import Snippet.Interpreter.Lifecycle

/-!
# What one event can do to a runner

`Runner.Move` lists all that one event can do to a runner, with what must be the case for it
(`Runner.step_move`); every later fact about steps goes by its cases. `Call.Advance` is the same for
one caller (`Runner.Move.advance`).
-/

namespace Snippet.Interpreter

/-- The caller has yet to go on from the end of the start `k`. -/
def Stage.Pending (k : Nat) (stage : Stage) : Prop := stage = .waiting k ∨ stage = .roused k

theorem Stage.Pending.unique {j k : Nat} {stage : Stage} (one : stage.Pending j)
    (other : stage.Pending k) : j = k := by
  rcases one with rfl | rfl
  · rcases other with eq | eq
    · injection eq
    · cases eq
  · rcases other with eq | eq
    · cases eq
    · injection eq

namespace Runner

variable {r r' : Runner} {same : Nat → Nat → Bool} {c i j k s : Nat} {b : Boot} {stage : Stage}

/-! ## The parts of a runner after each operation -/

@[simp] theorem setStage_cell : (r.setStage c stage).cell = r.cell := rfl

@[simp] theorem setStage_attempts : (r.setStage c stage).attempts = r.attempts := rfl

@[simp] theorem setStage_starts : (r.setStage c stage).starts = r.starts := rfl

@[simp] theorem setStage_boot? : (r.setStage c stage).boot? k = r.boot? k := rfl

@[simp] theorem settle_attempts : (r.settle k b).attempts = r.attempts := by
  unfold settle; repeat' split
  all_goals rfl

@[simp] theorem settle_starts : (r.settle k b).starts = r.starts := by
  unfold settle; repeat' split
  all_goals rfl

@[simp] theorem settle_calls : (r.settle k b).calls = r.calls := by
  unfold settle; repeat' split
  all_goals rfl

@[simp] theorem invalidate_attempts : (r.invalidate s same).attempts = r.attempts := by
  unfold invalidate; repeat' split
  all_goals rfl

@[simp] theorem invalidate_starts : (r.invalidate s same).starts = r.starts := by
  unfold invalidate; repeat' split
  all_goals rfl

@[simp] theorem invalidate_calls : (r.invalidate s same).calls = r.calls := by
  unfold invalidate; repeat' split
  all_goals rfl

/-- Settling a start that the runner does not wait for, or one that went down, changes nothing. -/
theorem settle_cell_of_ne (other : r.cell ≠ .starting k) : (r.settle k b).cell = r.cell := by
  unfold settle
  rw [if_neg other]

/-- What settling makes of the cell. -/
def settled (k : Nat) : Boot → Cell
  | .session => .ready k
  | .failure _ => .empty
  | .panic _ => .starting k

theorem settle_cell_of_eq (awaited : r.cell = .starting k) :
    (r.settle k b).cell = settled k b := by
  unfold settle
  rw [if_pos awaited]
  cases b with
  | session => rfl
  | failure f => rfl
  | panic p => exact awaited

/-- Forgetting a session leaves the cell as it was, or empties a cell that held a session. -/
theorem invalidate_cell :
    (r.invalidate s same).cell = r.cell ∨
      (∃ t, r.cell = .ready t) ∧ (r.invalidate s same).cell = .empty := by
  unfold invalidate
  split
  · rename_i t held
    split
    · exact Or.inr ⟨⟨t, held⟩, rfl⟩
    · exact Or.inl rfl
  · exact Or.inl rfl

theorem stage?_eq_some :
    r.stage? c = some stage ↔ ∃ call, r.calls[c]? = some call ∧ call.stage = stage := by
  simp [stage?]

/-- A caller after one caller has been moved on: the same caller, with its new stage if it is the
one. -/
theorem setStage_calls (i : Nat) :
    (r.setStage c stage).calls[i]? =
      if c = i then (r.calls[i]?).map (fun call => { call with stage }) else r.calls[i]? := by
  simp only [setStage, List.getElem?_modify]
  split
  · rfl
  · cases r.calls[i]? <;> rfl

/-! ## What one event can do -/

/-- All that one event can do to a runner, and what must be the case for it. -/
inductive Move (same : Nat → Nat → Bool) (r : Runner) : Event → Runner → Prop
  | stay {e : Event} : Move same r e r
  | enter (purpose : Purpose) {s : Nat} (held : r.cell = .ready s) :
    Move same r (.arrive purpose)
      { r with calls := r.calls ++ [⟨purpose, none, stageAfter purpose s .session⟩] }
  | join (purpose : Purpose) {k : Nat} (awaited : r.cell = .starting k) :
    Move same r (.arrive purpose) { r with calls := r.calls ++ [⟨purpose, some k, .waiting k⟩] }
  | begin (purpose : Purpose) (none_ : r.cell = .empty) :
    Move same r (.arrive purpose) ⟨.starting (r.attempts + 1), r.attempts + 1, r.starts ++ [none],
      r.calls ++ [⟨purpose, some (r.attempts + 1), .waiting (r.attempts + 1)⟩]⟩
  | conclude {c k : Nat} (b : Boot) (waits : r.stage? c = some (.waiting k))
    (open_ : r.starts[k - 1]? = some none) :
    Move same r (.conclude c b)
      ({ r with starts := r.starts.set (k - 1) (some b) }.setStage c (stageUnder k b))
  | goOn {c k : Nat} {b : Boot} {call : Call} (here : r.calls[c]? = some call)
    (pending : call.stage.Pending k) (ended : r.boot? k = some b) :
    Move same r (.wake c) ((r.settle k b.told).setStage c (stageAfter call.purpose k b.told))
  | answer {c s : Nat} (runs : r.stage? c = some (.executing s)) :
    Move same r (.finish c .answer) (r.setStage c (.answered s))
  | break_ {c s : Nat} (runs : r.stage? c = some (.executing s)) :
    Move same r (.finish c .breakage) ((r.invalidate s same).setStage c (.broke s))
  | abandon {c s : Nat} (runs : r.stage? c = some (.executing s)) :
    Move same r (.cancel c) ((r.invalidate s same).setStage c (.abandoned s))
  | withdraw {c k : Nat} (waits : r.stage? c = some (.waiting k)) :
    Move same r (.cancel c) (r.setStage c .withdrawn)

/-- Waking a caller whose start has ended is a move; otherwise it changes nothing. -/
theorem wake_eq {call : Call} (here : r.calls[c]? = some call) (pending : call.stage.Pending k) :
    r.step (.wake c) same = match r.boot? k with
      | some b => (r.settle k b.told).setStage c (stageAfter call.purpose k b.told)
      | none => r := by
  have woken : r.step (.wake c) same = r.wake c k := by
    rcases pending with waits | roused
    · simp only [step, stage?_eq_some.mpr ⟨call, here, waits⟩]
    · simp only [step, stage?_eq_some.mpr ⟨call, here, roused⟩]
  rw [woken, wake]
  cases r.boot? k with
  | none => rfl
  | some b => simp only [proceed, here]

theorem wake_move {call : Call} (here : r.calls[c]? = some call) (pending : call.stage.Pending k) :
    Move same r (.wake c) (r.step (.wake c) same) := by
  rw [wake_eq here pending]
  split
  · exact .goOn here pending ‹_›
  · exact .stay

theorem step_move (r : Runner) (e : Event) : Move same r e (r.step e same) := by
  cases e with
  | arrive purpose =>
    simp only [step, arrive]
    split
    · exact .enter purpose ‹_›
    · exact .join purpose ‹_›
    · exact .begin purpose ‹_›
  | conclude c b =>
    simp only [step]
    split
    · rename_i k waits
      unfold conclude
      split
      · exact .conclude b waits ‹_›
      · exact .stay
    · exact .stay
  | wake c =>
    cases found : r.calls[c]? with
    | none =>
      simp only [step, stage?, found, Option.map_none]
      exact .stay
    | some call =>
      by_cases pending : ∃ k, call.stage.Pending k
      · obtain ⟨k, pending⟩ := pending
        exact wake_move found pending
      · have idle : r.step (.wake c) same = r := by
          simp only [step, stage?, found, Option.map_some]
          split
          · rename_i k waits
            exact (pending ⟨k, Or.inl (Option.some.inj waits)⟩).elim
          · rename_i k roused
            exact (pending ⟨k, Or.inr (Option.some.inj roused)⟩).elim
          · rfl
        rw [idle]
        exact .stay
  | finish c how =>
    simp only [step]
    split
    · cases how with
      | answer => exact .answer ‹_›
      | breakage => exact .break_ ‹_›
    · exact .stay
  | cancel c =>
    simp only [step]
    split
    · exact .withdraw ‹_›
    · exact .abandon ‹_›
    · exact .stay

end Runner

/-! ## What one event can do to a caller -/

/-- All that one event can do to one caller, when it leads to the runner `r'`. -/
inductive Call.Advance (r r' : Runner) (c : Nat) (call : Call) (e : Event) : Stage → Prop
  | rest : Advance r r' c call e call.stage
  | conclude {k : Nat} {b : Boot} (waits : call.stage = .waiting k) (now : r'.boot? k = some b) :
    Advance r r' c call e (Runner.stageUnder k b)
  | goOn {k : Nat} {b : Boot} (pending : call.stage.Pending k) (ended : r.boot? k = some b) :
    Advance r r' c call e (Runner.stageAfter call.purpose k b.told)
  | answer {s : Nat} (runs : call.stage = .executing s) : Advance r r' c call e (.answered s)
  | break_ {s : Nat} (runs : call.stage = .executing s) : Advance r r' c call e (.broke s)
  | abandon {s : Nat} (runs : call.stage = .executing s) : Advance r r' c call e (.abandoned s)
  | withdraw {k : Nat} (waits : call.stage = .waiting k) (left : e = .cancel c) :
    Advance r r' c call e .withdrawn

namespace Runner

variable {r r' : Runner} {same : Nat → Nat → Bool} {c k : Nat} {stage : Stage} {e : Event}

/-- A caller stays what it came for and what it joined when it, or another one, is moved on. -/
theorem advance_setStage {r₁ : Runner} {call : Call} {d : Nat} (calls : r₁.calls = r.calls)
    (here : r.calls[c]? = some call)
    (advance : c = d → call.Advance r (r₁.setStage d stage) c e stage) :
    ∃ stage', (r₁.setStage d stage).calls[c]? = some { call with stage := stage' } ∧
      call.Advance r (r₁.setStage d stage) c e stage' := by
  rw [setStage_calls, calls, here]
  split
  · rename_i eq
    exact ⟨stage, rfl, advance eq.symm⟩
  · exact ⟨call.stage, rfl, .rest⟩

theorem Move.advance {call : Call} (move : Move same r e r') (here : r.calls[c]? = some call) :
    ∃ stage, r'.calls[c]? = some { call with stage } ∧ call.Advance r r' c e stage := by
  have kept : ∀ {new : Call}, (r.calls ++ [new])[c]? = some { call with stage := call.stage } := by
    intro new
    rw [List.getElem?_append_left (List.getElem?_eq_some_iff.mp here).1]
    exact here
  have found : ∀ {d : Nat} {st : Stage}, r.stage? d = some st → c = d → call.stage = st := by
    rintro d st at_ rfl
    obtain ⟨call', here', stage⟩ := stage?_eq_some.mp at_
    rw [here] at here'
    cases here'
    exact stage
  cases move with
  | stay => exact ⟨call.stage, here, .rest⟩
  | enter purpose held => exact ⟨call.stage, kept, .rest⟩
  | join purpose awaited => exact ⟨call.stage, kept, .rest⟩
  | begin purpose none_ => exact ⟨call.stage, kept, .rest⟩
  | @conclude d k b waits open_ =>
    refine advance_setStage (by rfl) here fun eq => .conclude (found waits eq) ?_
    have inside : k - 1 < r.starts.length := (List.getElem?_eq_some_iff.mp open_).1
    simp [boot?, inside]
  | @goOn d k b call' here' pending ended =>
    refine advance_setStage settle_calls here fun eq => ?_
    rw [← eq, here] at here'
    cases here'
    exact .goOn pending ended
  | answer runs => exact advance_setStage rfl here fun eq => .answer (found runs eq)
  | break_ runs => exact advance_setStage invalidate_calls here fun eq => .break_ (found runs eq)
  | abandon runs => exact advance_setStage invalidate_calls here fun eq => .abandon (found runs eq)
  | withdraw waits => exact advance_setStage rfl here fun eq => .withdraw (found waits eq) (by rw [eq])

end Runner

end Snippet.Interpreter
