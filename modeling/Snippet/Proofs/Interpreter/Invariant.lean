import Snippet.Proofs.Interpreter.Move

/-!
# What holds of a runner at all times

`Runner.Sound` is the invariant: how the cell goes with the record of starts (`Runner.Booked`), and
how the callers go with the starts that they joined (`Runner.Attended`). It holds before the first
caller and every event keeps it, hence `Runner.sound`: it holds after every sequence of events.
-/

namespace Snippet.Interpreter

/-- The caller has heard the end `b` of the start `k`: it was given that start's session, was told
that start's failure, or went down with it. -/
def Stage.Heard (k : Nat) (b : Boot) : Stage → Prop
  | .given s => s = k ∧ b = .session
  | .executing s => s = k ∧ b = .session
  | .answered s => s = k ∧ b = .session
  | .broke s => s = k ∧ b = .session
  | .abandoned s => s = k ∧ b = .session
  | .refused f => b = .failure f
  | .crashed p => b = .panic p ∨ (p = poisoned ∧ ∃ q, b = .panic q)
  | .waiting _ => False
  | .roused _ => False
  | .withdrawn => False

/-- What a caller that joined the start `k` can have come to, given how the start has ended so
far. -/
def Stage.Of (k : Nat) (ended : Option Boot) (stage : Stage) : Prop :=
  stage = .waiting k ∨ stage = .withdrawn ∨
    ∃ b, ended = some b ∧ ((stage = .roused k ∧ ∀ p, b ≠ .panic p) ∨ stage.Heard k b)

/-- A caller's stage does not go against a start's end that becomes known. -/
theorem Stage.Of.mono {k : Nat} {ended ended' : Option Boot} {stage : Stage}
    (known : ∀ b, ended = some b → ended' = some b) (h : stage.Of k ended) : stage.Of k ended' := by
  rcases h with waits | left | ⟨b, end_, rest⟩
  · exact Or.inl waits
  · exact Or.inr (Or.inl left)
  · exact Or.inr (Or.inr ⟨b, known b end_, rest⟩)

/-- Who waits does so for the start that it joined. -/
theorem Stage.Of.eq_of_pending {j k : Nat} {ended : Option Boot} {stage : Stage}
    (h : stage.Of k ended) (pending : stage.Pending j) : j = k := by
  rcases pending with rfl | rfl
  · rcases h with eq | left | ⟨b, _, ⟨roused, _⟩ | heard⟩
    · injection eq
    · cases left
    · cases roused
    · exact heard.elim
  · rcases h with waits | left | ⟨b, _, ⟨eq, _⟩ | heard⟩
    · cases waits
    · cases left
    · injection eq
    · exact heard.elim

/-- Who goes on from the end of a start has heard it. -/
theorem Stage.heard_stageAfter (purpose : Purpose) (k : Nat) (b : Boot) :
    (Runner.stageAfter purpose k b.told).Heard k b := by
  cases b with
  | session => cases purpose <;> exact ⟨rfl, rfl⟩
  | failure f => exact (rfl : Boot.failure f = .failure f)
  | panic p => exact Or.inr ⟨rfl, p, rfl⟩

namespace Runner

variable {r r' : Runner} {same : Nat → Nat → Bool} {c i j k s : Nat} {b : Boot} {stage : Stage}

/-! ## The cell and the record of starts -/

/-- How the cell goes with the record of starts. -/
structure Booked (r : Runner) : Prop where
  counted : r.starts.length = r.attempts
  /-- what is awaited is the latest start -/
  latest : ∀ {k}, r.cell = .starting k → 0 < k ∧ k = r.attempts
  unfinished : ∀ {i}, r.starts[i]? = some none → r.cell = .starting (i + 1)
  /-- and so is what has come of the latest start -/
  held : ∀ {s}, r.cell = .ready s → 0 < s ∧ s = r.attempts ∧ r.boot? s = some .session
  /-- a start that went down is awaited for ever -/
  sunk : ∀ {k p}, 0 < k → r.boot? k = some (.panic p) → r.cell = .starting k

theorem boot?_eq_some : r.boot? k = some b ↔ r.starts[k - 1]? = some (some b) := by
  simp [boot?, Option.join_eq_some_iff]

theorem Booked.withCalls (h : Booked r) (calls : List Call) : Booked { r with calls } :=
  ⟨h.counted, h.latest, h.unfinished, h.held, h.sunk⟩

/-- A start that has yet to begin has not ended. -/
theorem Booked.boot?_of_lt (h : Booked r) (later : r.attempts < k) : r.boot? k = none := by
  have beyond : r.starts.length ≤ k - 1 := by
    rw [h.counted]
    omega
  rw [boot?, List.getElem?_eq_none beyond]
  rfl

/-- The record of a further start says nothing of its end. -/
theorem boot?_snoc {cell : Cell} {calls : List Call} (k : Nat) :
    boot? ⟨cell, r.attempts + 1, r.starts ++ [none], calls⟩ k = r.boot? k := by
  simp only [boot?, List.getElem?_append]
  split
  · rfl
  · rename_i beyond
    rw [List.getElem?_eq_none (l := r.starts) (by omega)]
    cases k - 1 - r.starts.length <;> rfl

theorem Booked.begin (h : Booked r) (none_ : r.cell = .empty) (calls : List Call) :
    Booked ⟨.starting (r.attempts + 1), r.attempts + 1, r.starts ++ [none], calls⟩ where
  counted := by simp [h.counted]
  latest := by
    intro k awaited
    cases awaited
    exact ⟨Nat.succ_pos _, rfl⟩
  unfinished := by
    intro i open_
    rw [List.getElem?_append] at open_
    split at open_
    · have awaited := h.unfinished open_
      rw [none_] at awaited
      cases awaited
    · rename_i beyond
      have last : i - r.starts.length = 0 := by
        by_contra further
        rw [List.getElem?_eq_none (by simp; omega)] at open_
        cases open_
      have place : i = r.attempts := by
        rw [← h.counted]
        omega
      rw [place]
  held := by
    intro s held
    cases held
  sunk := by
    intro k p pos down
    rw [boot?_snoc] at down
    have awaited := h.sunk pos down
    rw [none_] at awaited
    cases awaited

theorem boot?_set (pos : 0 < k) (posj : 0 < j) (open_ : r.starts[k - 1]? = some none) :
    boot? { r with starts := r.starts.set (k - 1) (some b) } j =
      if j = k then some b else r.boot? j := by
  have inside : k - 1 < r.starts.length := (List.getElem?_eq_some_iff.mp open_).1
  simp only [boot?, List.getElem?_set, if_pos inside]
  split
  · rename_i place
    have same_ : j = k := by omega
    simp [same_]
  · rename_i place
    have other : j ≠ k := by
      intro h
      exact place (by rw [h])
    rw [if_neg other]

theorem Booked.conclude (h : Booked r) (pos : 0 < k) (open_ : r.starts[k - 1]? = some none) :
    Booked { r with starts := r.starts.set (k - 1) (some b) } where
  counted := by simp [h.counted]
  latest := h.latest
  unfinished := by
    intro i still
    rw [List.getElem?_set] at still
    split at still
    · split at still
      · cases still
      · cases still
    · exact h.unfinished still
  held := by
    intro s held
    have awaited := h.unfinished open_
    rw [held] at awaited
    cases awaited
  sunk := by
    intro j p posj down
    rw [boot?_set pos posj open_] at down
    split at down
    · rename_i place
      have awaited := h.unfinished open_
      rw [Nat.sub_add_cancel pos] at awaited
      rw [place]
      exact awaited
    · exact h.sunk posj down

theorem Booked.settle (h : Booked r) (ended : r.boot? k = some b) :
    Booked (r.settle k b.told) := by
  by_cases awaited : r.cell = .starting k
  · obtain ⟨pos, latest⟩ := h.latest awaited
    have cell := settle_cell_of_eq (b := b.told) awaited
    -- no start but `k` could be unfinished, and `k` has ended
    have finished : ∀ i : Nat, r.starts[i]? ≠ some none := by
      intro i open_
      have place := h.unfinished open_
      rw [awaited] at place
      injection place with place
      rw [boot?_eq_some, place, Nat.add_sub_cancel, open_] at ended
      cases ended
    refine ⟨by simpa using h.counted, ?_, ?_, ?_, ?_⟩
    · intro j now
      rw [cell] at now
      cases b with
      | panic p =>
        cases now
        exact ⟨pos, by simpa using latest⟩
      | session => cases now
      | failure f => cases now
    · intro i open_
      rw [settle_starts] at open_
      exact (finished i open_).elim
    · intro s now
      rw [cell] at now
      cases b with
      | session =>
        cases now
        exact ⟨pos, by simpa using latest, by simpa [boot?] using ended⟩
      | failure f => cases now
      | panic p => cases now
    · intro j q posj down
      have down' : r.boot? j = some (.panic q) := by simpa [boot?] using down
      have before := h.sunk posj down'
      rw [awaited] at before
      cases before
      rw [ended] at down'
      cases down'
      rw [cell]
      rfl
  · have unchanged : r.settle k b.told = r := by
      unfold Runner.settle
      rw [if_neg awaited]
    rw [unchanged]
    exact h

theorem Booked.invalidate (h : Booked r) : Booked (r.invalidate s same) := by
  unfold Runner.invalidate
  split
  · rename_i t held
    split
    · refine ⟨h.counted, ?_, ?_, ?_, ?_⟩
      · intro k now
        cases now
      · intro i open_
        have before := h.unfinished open_
        rw [held] at before
        cases before
      · intro t now
        cases now
      · intro k p pos down
        have before := h.sunk pos down
        rw [held] at before
        cases before
    · exact h
  · exact h

/-! ## The callers -/

/-- How the callers go with the starts that they joined. -/
structure Attended (r : Runner) : Prop where
  joined : ∀ {c : Nat} {call : Call} {k : Nat}, r.calls[c]? = some call → call.joined = some k →
    0 < k ∧ k ≤ r.attempts ∧ call.stage.Of k (r.boot? k)
  /-- who joined no start waits for none -/
  unjoined : ∀ {c : Nat} {call : Call}, r.calls[c]? = some call → call.joined = none →
    ∀ k, ¬ call.stage.Pending k
  /-- a start that has ended and is still awaited went down, or ended under a caller who has yet to
  go on -/
  roused : ∀ {k b}, r.cell = .starting k → r.boot? k = some b →
    (∃ p, b = .panic p) ∨ ∃ c, r.stage? c = some (.roused k)

/-- How all parts of a runner go together. -/
structure Sound (r : Runner) : Prop where
  booked : Booked r
  attended : Attended r

theorem Attended.pending_joined {call : Call} (h : Attended r) (here : r.calls[c]? = some call)
    (pending : call.stage.Pending k) : call.joined = some k := by
  cases joined : call.joined with
  | none => exact (h.unjoined here joined k pending).elim
  | some j =>
    obtain ⟨_, _, of_⟩ := h.joined here joined
    rw [of_.eq_of_pending pending]

/-- A further caller, whose stage goes with the start that it joined. -/
theorem Attended.snoc {call : Call} (h : Attended r) (calls : r'.calls = r.calls ++ [call])
    (attempts : r.attempts ≤ r'.attempts) (ends : ∀ k, r'.boot? k = r.boot? k)
    (joined : ∀ k, call.joined = some k → 0 < k ∧ k ≤ r'.attempts ∧ call.stage.Of k (r'.boot? k))
    (unjoined : call.joined = none → ∀ k, ¬ call.stage.Pending k)
    (cell : ∀ {k b}, r'.cell = .starting k → r'.boot? k = some b → r.cell = .starting k) :
    Attended r' where
  joined := by
    intro i call' k here join
    rw [calls, List.getElem?_append] at here
    split at here
    · obtain ⟨pos, le, of_⟩ := h.joined here join
      rw [ends]
      exact ⟨pos, Nat.le_trans le attempts, of_⟩
    · obtain rfl : call = call' := List.mem_singleton.mp (List.mem_of_getElem? here) |>.symm
      exact joined k join
  unjoined := by
    intro i call' here alone
    rw [calls, List.getElem?_append] at here
    split at here
    · exact h.unjoined here alone
    · obtain rfl : call = call' := List.mem_singleton.mp (List.mem_of_getElem? here) |>.symm
      exact unjoined alone
  roused := by
    intro k b awaited ended
    have awaited' := cell awaited ended
    rw [ends] at ended
    rcases h.roused awaited' ended with down | ⟨c, roused⟩
    · exact Or.inl down
    · obtain ⟨call', here, stage⟩ := stage?_eq_some.mp roused
      refine Or.inr ⟨c, stage?_eq_some.mpr ⟨call', ?_, stage⟩⟩
      rw [calls, List.getElem?_append_left (List.getElem?_eq_some_iff.mp here).1]
      exact here

/-- One caller is moved on to a stage that goes with the start that it joined. -/
theorem Attended.setStage {call : Call} (h : Attended r) (here : r.calls[c]? = some call)
    (calls : r'.calls = r.calls) (attempts : r'.attempts = r.attempts)
    (ends : ∀ k b, 0 < k → r.boot? k = some b → r'.boot? k = some b)
    (joined : ∀ k, call.joined = some k → stage.Of k (r'.boot? k))
    (unjoined : call.joined = none → ∀ k, ¬ stage.Pending k)
    (roused : ∀ {k b}, r'.cell = .starting k → r'.boot? k = some b →
      (∃ p, b = .panic p) ∨ stage = .roused k ∨ ∃ i, i ≠ c ∧ r.stage? i = some (.roused k)) :
    Attended (r'.setStage c stage) where
  joined := by
    intro i call' k here' join
    rw [setStage_calls, calls] at here'
    rw [setStage_attempts, attempts, setStage_boot?]
    split at here'
    · rename_i eq
      rw [← eq, here] at here'
      obtain rfl := Option.some.inj here'
      obtain ⟨pos, le, _⟩ := h.joined here join
      exact ⟨pos, le, joined k join⟩
    · obtain ⟨pos, le, of_⟩ := h.joined here' join
      exact ⟨pos, le, of_.mono fun b => ends k b pos⟩
  unjoined := by
    intro i call' here' alone
    rw [setStage_calls, calls] at here'
    split at here'
    · rename_i eq
      rw [← eq, here] at here'
      obtain rfl := Option.some.inj here'
      exact unjoined alone
    · exact h.unjoined here' alone
  roused := by
    intro k b awaited ended
    rcases roused awaited ended with down | now | ⟨i, other, before⟩
    · exact Or.inl down
    · refine Or.inr ⟨c, stage?_eq_some.mpr ⟨{ call with stage }, ?_, now⟩⟩
      rw [setStage_calls, if_pos rfl, calls, here]
      rfl
    · obtain ⟨call', here', stage'⟩ := stage?_eq_some.mp before
      refine Or.inr ⟨i, stage?_eq_some.mpr ⟨call', ?_, stage'⟩⟩
      rw [setStage_calls, if_neg (Ne.symm other), calls]
      exact here'

/-! ## Every event keeps the invariant -/

theorem Sound.fresh : Sound fresh where
  booked := by
    refine ⟨rfl, ?_, ?_, ?_, ?_⟩
    · intro k awaited
      cases awaited
    · intro i open_
      simp [Runner.fresh] at open_
    · intro s held
      cases held
    · intro k p _ down
      simp [Runner.fresh, boot?] at down
  attended := by
    refine ⟨?_, ?_, ?_⟩
    · intro c call k here
      simp [Runner.fresh] at here
    · intro c call here
      simp [Runner.fresh] at here
    · intro k b awaited
      cases awaited

theorem Sound.enter (h : Sound r) (purpose : Purpose) :
    Sound { r with calls := r.calls ++ [⟨purpose, none, stageAfter purpose s .session⟩] } where
  booked := h.booked.withCalls _
  attended := by
    refine h.attended.snoc rfl (Nat.le_refl _) (fun _ => rfl) ?_ ?_ (fun awaited _ => awaited)
    · intro k join
      cases join
    · intro _ k pending
      rcases pending with waits | roused
      · cases purpose <;> cases waits
      · cases purpose <;> cases roused

theorem Sound.join (h : Sound r) (purpose : Purpose) (awaited : r.cell = .starting k) :
    Sound { r with calls := r.calls ++ [⟨purpose, some k, .waiting k⟩] } where
  booked := h.booked.withCalls _
  attended := by
    refine h.attended.snoc rfl (Nat.le_refl _) (fun _ => rfl) ?_ ?_ (fun awaited _ => awaited)
    · intro j join
      cases join
      obtain ⟨pos, latest⟩ := h.booked.latest awaited
      exact ⟨pos, Nat.le_of_eq latest, Or.inl rfl⟩
    · intro alone
      cases alone

theorem Sound.begin (h : Sound r) (purpose : Purpose) (none_ : r.cell = .empty) :
    Sound ⟨.starting (r.attempts + 1), r.attempts + 1, r.starts ++ [none],
      r.calls ++ [⟨purpose, some (r.attempts + 1), .waiting (r.attempts + 1)⟩]⟩ where
  booked := h.booked.begin none_ _
  attended := by
    refine h.attended.snoc rfl (Nat.le_succ _) (fun _ => boot?_snoc _) ?_ ?_ ?_
    · intro k join
      cases join
      exact ⟨Nat.succ_pos _, Nat.le_refl _, Or.inl rfl⟩
    · intro alone
      cases alone
    · intro k b awaited ended
      cases awaited
      rw [boot?_snoc, h.booked.boot?_of_lt (Nat.lt_succ_self _)] at ended
      cases ended

theorem Sound.conclude (h : Sound r) (waits : r.stage? c = some (.waiting k))
    (open_ : r.starts[k - 1]? = some none) :
    Sound ({ r with starts := r.starts.set (k - 1) (some b) }.setStage c (stageUnder k b)) := by
  obtain ⟨call, here, stage⟩ := stage?_eq_some.mp waits
  have join := h.attended.pending_joined here (Or.inl stage)
  obtain ⟨pos, _, _⟩ := h.attended.joined here join
  have now : boot? { r with starts := r.starts.set (k - 1) (some b) } k = some b := by
    rw [boot?_set pos pos open_, if_pos rfl]
  refine ⟨(h.booked.conclude pos open_).withCalls _, ?_⟩
  refine h.attended.setStage here rfl rfl ?_ ?_ ?_ ?_
  · intro j b' posj before
    rw [boot?_set pos posj open_]
    split
    · rename_i eq
      rw [eq, boot?_eq_some, open_] at before
      cases before
    · exact before
  · intro j join'
    rw [join] at join'
    cases join'
    refine Or.inr (Or.inr ⟨b, now, ?_⟩)
    cases b with
    | session => exact Or.inl ⟨rfl, fun p eq => by cases eq⟩
    | failure f => exact Or.inl ⟨rfl, fun p eq => by cases eq⟩
    | panic p => exact Or.inr (Or.inl rfl)
  · intro alone
    rw [join] at alone
    cases alone
  · intro j b' awaited ended
    -- only the latest start is awaited, and it is the one that has just ended
    have place := h.booked.unfinished open_
    rw [Nat.sub_add_cancel pos] at place
    have eq : j = k := by
      change r.cell = .starting j at awaited
      rw [place] at awaited
      cases awaited
      rfl
    subst eq
    rw [now] at ended
    cases ended
    cases b with
    | session => exact Or.inr (Or.inl rfl)
    | failure f => exact Or.inr (Or.inl rfl)
    | panic p => exact Or.inl ⟨p, rfl⟩

theorem Sound.goOn {call : Call} (h : Sound r) (here : r.calls[c]? = some call)
    (pending : call.stage.Pending k) (ended : r.boot? k = some b) :
    Sound ((r.settle k b.told).setStage c (stageAfter call.purpose k b.told)) := by
  have join := h.attended.pending_joined here pending
  have ends : ∀ j, (r.settle k b.told).boot? j = r.boot? j := fun j => by simp [boot?]
  refine ⟨(h.booked.settle ended).withCalls _, ?_⟩
  refine h.attended.setStage here settle_calls settle_attempts ?_ ?_ ?_ ?_
  · intro j b' _ before
    rw [ends]
    exact before
  · intro j join'
    rw [join] at join'
    cases join'
    exact Or.inr (Or.inr ⟨b, by rw [ends]; exact ended, Or.inr (Stage.heard_stageAfter _ k b)⟩)
  · intro alone
    rw [join] at alone
    cases alone
  · intro j b' awaited ended'
    rw [ends] at ended'
    by_cases current : r.cell = .starting k
    · rw [settle_cell_of_eq current] at awaited
      cases b with
      | session => cases awaited
      | failure f => cases awaited
      | panic p =>
        cases awaited
        rw [ended] at ended'
        cases ended'
        exact Or.inl ⟨p, rfl⟩
    · rw [settle_cell_of_ne current] at awaited
      rcases h.attended.roused awaited ended' with down | ⟨i, roused⟩
      · exact Or.inl down
      · refine Or.inr (Or.inr ⟨i, ?_, roused⟩)
        rintro rfl
        obtain ⟨call', here', stage⟩ := stage?_eq_some.mp roused
        rw [here] at here'
        cases here'
        have join' := h.attended.pending_joined here (Or.inr stage)
        rw [join] at join'
        cases join'
        exact current awaited

/-- A caller that neither waits nor has just been roused is moved on, and its session may be
forgotten. -/
theorem Sound.part {call : Call} (h : Sound r) (here : r.calls[c]? = some call)
    (calm : ∀ k, call.stage ≠ .roused k) (of_ : ∀ k e, call.stage.Of k e → stage.Of k e)
    (past : ∀ k, ¬ stage.Pending k)
    (kept : r' = r ∨ r' = r.invalidate s same) : Sound (r'.setStage c stage) := by
  have calls : r'.calls = r.calls := by rcases kept with rfl | rfl <;> simp
  have attempts : r'.attempts = r.attempts := by rcases kept with rfl | rfl <;> simp
  have ends : ∀ k, r'.boot? k = r.boot? k := fun k => by
    rcases kept with rfl | rfl <;> simp [boot?]
  have booked : Booked r' := by
    rcases kept with rfl | rfl
    · exact h.booked
    · exact h.booked.invalidate
  have cell : ∀ k, r'.cell = .starting k → r.cell = .starting k := by
    intro k awaited
    rcases kept with rfl | rfl
    · exact awaited
    · rcases (invalidate_cell : (r.invalidate s same).cell = r.cell ∨ _) with eq | ⟨_, eq⟩
      · rw [← eq]
        exact awaited
      · rw [eq] at awaited
        cases awaited
  refine ⟨booked.withCalls _, ?_⟩
  refine h.attended.setStage here calls attempts ?_ ?_ (fun _ => past) ?_
  · intro k b _ before
    rw [ends]
    exact before
  · intro k join
    obtain ⟨_, _, before⟩ := h.attended.joined here join
    rw [ends]
    exact of_ k _ before
  · intro k b awaited ended
    rw [ends] at ended
    rcases h.attended.roused (cell k awaited) ended with down | ⟨i, roused⟩
    · exact Or.inl down
    · refine Or.inr (Or.inr ⟨i, ?_, roused⟩)
      rintro rfl
      obtain ⟨call', here', stage'⟩ := stage?_eq_some.mp roused
      rw [here] at here'
      cases here'
      exact calm k stage'

/-- A caller whose source runs is moved on, and its session may be forgotten. -/
theorem Sound.leave (h : Sound r) (runs : r.stage? c = some (.executing s))
    (after : ∀ k b, (Stage.executing s).Heard k b → stage.Heard k b)
    (past : ∀ k, ¬ stage.Pending k)
    (kept : r' = r ∨ r' = r.invalidate s same) : Sound (r'.setStage c stage) := by
  obtain ⟨call, here, stage_⟩ := stage?_eq_some.mp runs
  refine h.part here ?_ ?_ past kept
  · intro k roused
    rw [stage_] at roused
    cases roused
  · intro k e of_
    rw [stage_] at of_
    rcases of_ with waits | left | ⟨b, ended, ⟨roused, _⟩ | heard⟩
    · cases waits
    · cases left
    · cases roused
    · exact Or.inr (Or.inr ⟨b, ended, Or.inr (after k b heard)⟩)

theorem Sound.withdraw (h : Sound r) (waits : r.stage? c = some (.waiting k)) :
    Sound (r.setStage c .withdrawn) := by
  obtain ⟨call, here, stage⟩ := stage?_eq_some.mp waits
  have kept : r = r ∨ r = r.invalidate 0 fun _ _ => true := Or.inl rfl
  refine h.part here ?_ (fun _ _ _ => Or.inr (Or.inl rfl)) ?_ kept
  · intro k roused
    rw [stage] at roused
    cases roused
  · rintro k (waits | roused)
    · cases waits
    · cases roused

theorem Sound.move {e : Event} (h : Sound r) (move : Move same r e r') : Sound r' := by
  cases move with
  | stay => exact h
  | enter purpose held => exact h.enter purpose
  | join purpose awaited => exact h.join purpose awaited
  | begin purpose none_ => exact h.begin purpose none_
  | conclude b waits open_ => exact h.conclude waits open_
  | goOn here pending ended => exact h.goOn here pending ended
  | answer runs =>
    refine h.leave runs (fun _ _ heard => heard) ?_ (Or.inl rfl : r = r ∨ r = r.invalidate _ same)
    rintro k (waits | roused)
    · cases waits
    · cases roused
  | break_ runs =>
    refine h.leave runs (fun _ _ heard => heard) ?_ (Or.inr rfl)
    rintro k (waits | roused)
    · cases waits
    · cases roused
  | abandon runs =>
    refine h.leave runs (fun _ _ heard => heard) ?_ (Or.inr rfl)
    rintro k (waits | roused)
    · cases waits
    · cases roused
  | withdraw waits => exact h.withdraw waits

theorem Sound.step (h : Sound r) (e : Event) : Sound (r.step e same) := h.move (step_move r e)

@[simp] theorem run_nil : r.run [] same = r := rfl

@[simp] theorem run_cons {e : Event} {es : List Event} :
    r.run (e :: es) same = (r.step e same).run es same := rfl

theorem run_append {es later : List Event} :
    r.run (es ++ later) same = (r.run es same).run later same := by
  simp [run]

theorem Sound.run (h : Sound r) (events : List Event) : Sound (r.run events same) := by
  induction events generalizing r with
  | nil => exact h
  | cons e es ih => exact ih (h.step e)

/-! ## The end of a start stays what it is -/

theorem Move.boot?_of_some {e : Event} (h : Sound r) (move : Move same r e r') (pos : 0 < k)
    (ended : r.boot? k = some b) : r'.boot? k = some b := by
  cases move with
  | begin purpose none_ =>
    rw [boot?_snoc]
    exact ended
  | @conclude c j b' waits open_ =>
    obtain ⟨call, here, stage⟩ := stage?_eq_some.mp waits
    obtain ⟨posj, _, _⟩ :=
      h.attended.joined here (h.attended.pending_joined here (Or.inl stage))
    rw [setStage_boot?, boot?_set posj pos open_, if_neg ?_]
    · exact ended
    · rintro rfl
      rw [boot?_eq_some, open_] at ended
      cases ended
  | goOn here pending ended' => simpa [boot?] using ended
  | break_ runs => simpa [boot?] using ended
  | abandon runs => simpa [boot?] using ended
  | _ => exact ended

theorem boot?_run_of_some (h : Sound r) (pos : 0 < k) (ended : r.boot? k = some b)
    (later : List Event) : (r.run later same).boot? k = some b := by
  induction later generalizing r with
  | nil => exact ended
  | cons e es ih => exact ih (h.step e) ((step_move r e).boot?_of_some h pos ended)

/-! ## A start ends under a caller who waits for it -/

/-- Who waits for a start that has not ended can see it end. -/
theorem Sound.conclude_eq (h : Sound r) (waits : r.stage? c = some (.waiting k))
    (unended : r.boot? k = none) (b : Boot) :
    0 < k ∧ r.starts[k - 1]? = some none ∧ r.step (.conclude c b) same =
      { r with starts := r.starts.set (k - 1) (some b) }.setStage c (stageUnder k b) := by
  obtain ⟨call, here, stage⟩ := stage?_eq_some.mp waits
  obtain ⟨pos, le, _⟩ := h.attended.joined here (h.attended.pending_joined here (Or.inl stage))
  have inside : k - 1 < r.starts.length := by
    rw [h.booked.counted]
    omega
  have open_ : r.starts[k - 1]? = some none := by
    cases found : r.starts[k - 1] with
    | none => exact List.getElem?_eq_some_iff.mpr ⟨inside, found⟩
    | some b' =>
      have ended := boot?_eq_some.mpr (List.getElem?_eq_some_iff.mpr ⟨inside, found⟩)
      rw [unended] at ended
      cases ended
  refine ⟨pos, open_, ?_⟩
  simp only [Runner.step, waits, Runner.conclude, open_]

theorem Sound.boot?_conclude (h : Sound r) (waits : r.stage? c = some (.waiting k))
    (unended : r.boot? k = none) (b : Boot) :
    (r.step (.conclude c b) same).boot? k = some b := by
  obtain ⟨pos, open_, eq⟩ : 0 < k ∧ r.starts[k - 1]? = some none ∧
      r.step (.conclude c b) same = _ := h.conclude_eq waits unended b
  rw [eq, setStage_boot?, boot?_set pos pos open_, if_pos rfl]

/-- The caller under whom a start ends goes on from that very end. -/
theorem Sound.stage?_drive {call : Call} (h : Sound r) (here : r.calls[c]? = some call)
    (waits : call.stage = .waiting k) (unended : r.boot? k = none) (b : Boot) :
    (r.run [.conclude c b, .wake c] same).stage? c = some (stageAfter call.purpose k b) := by
  have waits' : r.stage? c = some (.waiting k) := stage?_eq_some.mpr ⟨call, here, waits⟩
  have ended : (r.step (.conclude c b) same).boot? k = some b := h.boot?_conclude waits' unended b
  have here' : (r.step (.conclude c b) same).calls[c]? =
      some { call with stage := stageUnder k b } := by
    rw [(h.conclude_eq waits' unended b).2.2, setStage_calls, if_pos rfl, here]
    rfl
  rw [run_cons, run_cons, run_nil]
  generalize r.step (.conclude c b) same = next at ended here'
  cases b with
  | panic p =>
    -- the caller has gone down and does not wake any more
    have down : next.stage? c = some (.crashed p) := stage?_eq_some.mpr ⟨_, here', rfl⟩
    simp only [Runner.step, down]
    rfl
  | session =>
    rw [wake_eq here' (Or.inr rfl), ended]
    refine stage?_eq_some.mpr ⟨{ call with stage := stageAfter call.purpose k .session }, ?_, rfl⟩
    rw [setStage_calls, if_pos rfl, settle_calls, here']
    rfl
  | failure f =>
    rw [wake_eq here' (Or.inr rfl), ended]
    refine stage?_eq_some.mpr ⟨{ call with stage := stageAfter call.purpose k (.failure f) }, ?_, rfl⟩
    rw [setStage_calls, if_pos rfl, settle_calls, here']
    rfl

/-- The invariant holds of every runner that has come about. -/
theorem sound (events : List Event) : Sound (Runner.fresh.run events same) := Sound.fresh.run events

end Runner

end Snippet.Interpreter
