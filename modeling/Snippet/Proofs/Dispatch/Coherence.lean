import Mathlib.Tactic.Common
import Snippet.Proofs.Interpreter.Served
import Snippet.Proofs.Script.Verdicts
import Snippet.Proofs.Wire.Recorded

/-!
# Coherent results

Four backends fill the same fields of a result, and failures and panics are turned into results on the
way. `Outcome.Sound` is what is common to all of them; a success, a failure of the snippet, a failed
backend and a panic each have it by one lemma. `RunResult.Coherent` adds which language has which of the
other fields.
-/

namespace Snippet

open Interpreter

/-- An outcome whose status, error, output and count of input lines fit together. -/
structure Outcome.Sound (input : List String) (o : Outcome) : Prop where
  status : o.status = .success ↔ o.error = none
  setup : o.status = .setupError → o.output = "" ∧ o.stdinConsumed = 0
  hint : ∀ d, o.error = some d → d.hint ≠ none → o.status = .setupError
  trace : ∀ d t, o.error = some d → d.trace = some t → Text.isBlankText t = false
  consumed : o.stdinConsumed ≤ input.length

/-- An outcome without a page, metrics or a final value. -/
structure Outcome.Bare (o : Outcome) : Prop where
  preview : o.preview = none
  metrics : o.metrics = none
  returnPreview : o.returnPreview = none

/-- A result whose fields fit together and fit the request. -/
structure RunResult.Coherent (request : Request) (result : RunResult) : Prop
    extends result.toOutcome.Sound request.stdin where
  language : result.language = request.language
  preview : result.preview.isSome ↔ request.language = .html ∨ request.language = .css
  metrics : result.metrics.isSome ↔ ∃ name, request.language = .other name
  described : result.preview.isSome ∨ result.metrics.isSome → result.status = .success
  returned : ∀ text, result.returnPreview = some text →
    request.language = .javascript ∧ result.status = .success ∧
      ∃ front, (front = "" ∨ ∃ lines, front = lines ++ "\n") ∧
        result.output = front ++ Channel.result.line text

/-! ## Outcomes of every kind -/

variable {input : List String} {consumed : Nat}

theorem Outcome.sound_success {o : Outcome} (succeeded : o.status = .success)
    (clean : o.error = none) (within : o.stdinConsumed ≤ input.length) : o.Sound input where
  status := ⟨fun _ => clean, fun _ => succeeded⟩
  setup failed := by
    rw [succeeded] at failed
    cases failed
  hint d same := by
    rw [clean] at same
    cases same
  trace d t same := by
    rw [clean] at same
    cases same
  consumed := within

theorem Capture.sound_runtimeError (c : Capture) {d : ErrorDetail} (plain : d.Plain)
    (within : consumed ≤ input.length) : (c.runtimeError d consumed).Sound input where
  status := ⟨nofun, nofun⟩
  setup := nofun
  hint d' same given := by
    cases same
    exact absurd plain.hint given
  trace d' t same present := by
    cases same
    exact plain.trace t present
  consumed := within

theorem Ending.sound_failed (f : BackendFailure) : (Ending.failed f).outcome.Sound input := by
  cases f with
  | setup message hint =>
    exact {
      status := ⟨nofun, nofun⟩
      setup := fun _ => ⟨rfl, rfl⟩
      hint := fun _ _ _ => rfl
      trace := by
        intro d t same present
        cases same
        cases present
      consumed := Nat.zero_le _ }
  | fault message => exact Capture.empty.sound_runtimeError (.ofMessage message) (Nat.zero_le _)

theorem Ending.sound_panicked (p : Panic) : (Ending.panicked p).outcome.Sound input :=
  Capture.empty.sound_runtimeError (.ofMessage ("runner panicked: " ++ p.message)) (Nat.zero_le _)

/-! ## What the backends come to -/

section Interpreter

variable {σ : Type} {P : Provider σ} {request : Request} {ending : Ending}

theorem LineCursor.asked_position_le (lines : List String) (count : Nat) :
    (asked lines count).position ≤ lines.length := Nat.min_le_right _ _

theorem Interpreter.Told.sound (honest : P.Honest) (told : Told P request ending) :
    ending.outcome.Sound request.stdin := by
  cases told with
  | refused failure => exact Ending.sound_failed _
  | crashed panic => exact Ending.sound_panicked panic
  | @ran world session x consumed executed =>
    have within : consumed ≤ request.stdin.length := by
      obtain ⟨count, rfl⟩ := honest.reads executed
      exact LineCursor.asked_position_le _ _
    cases x with
    | answered output error =>
      cases error with
      | none => exact Outcome.sound_success rfl rfl within
      | some d =>
        obtain ⟨message, trace, rfl⟩ := honest.errors executed
        exact Capture.sound_runtimeError _ (.withTrace message trace) within
    | failed failure => exact Capture.sound_runtimeError _ (.ofMessage _) within
    | panicked panic => exact Ending.sound_panicked panic

theorem Interpreter.Told.bare (told : Told P request ending) : ending.outcome.Bare := by
  cases told with
  | refused failure => exact ⟨rfl, rfl, rfl⟩
  | crashed panic => exact ⟨rfl, rfl, rfl⟩
  | @ran world session x consumed executed =>
    rcases x with ⟨output, error | d⟩ | failure | panic <;> exact ⟨rfl, rfl, rfl⟩

end Interpreter

namespace Script

theorem Play.handedOut_le {α : Type} (p : Play α) (input : List String) :
    Deed.handedOut (p.deeds input) ≤ input.length := by
  obtain ⟨gone, left, split, count, -⟩ := p.run_behind "" [] input
  rw [← count, split, List.length_append]
  exact Nat.le_add_right _ _

theorem Verdict.sound {v : Verdict} (plain : v.Plain) {input : List String} {deeds : List Deed}
    (within : Deed.handedOut deeds ≤ input.length) :
    (v.ending (hostAfter input deeds)).outcome.Sound input := by
  cases v with
  | finished shown =>
    cases shown with
    | none => exact Outcome.sound_success rfl rfl within
    | some text => exact Outcome.sound_success rfl rfl within
  | failed detail => exact Capture.sound_runtimeError _ plain within
  | stopped cause => exact Ending.sound_failed _

/-- Only a script that finished with a value leaves a final value, and its line stands last. -/
theorem Verdict.returned {v : Verdict} {input : List String} {deeds : List Deed} {text : String}
    (left : (v.ending (hostAfter input deeds)).outcome.returnPreview = some text) :
    (v.ending (hostAfter input deeds)).outcome.status = .success ∧
      (v.ending (hostAfter input deeds)).outcome.output =
        Deed.shown deeds ++ Channel.result.line text := by
  cases v with
  | finished shown =>
    cases shown with
    | none => cases left
    | some text =>
      cases left
      exact ⟨rfl, rfl⟩
  | failed detail => cases left
  | stopped cause => cases left

theorem Verdict.no_page (v : Verdict) (h : Play.Host) :
    (v.ending h).outcome.preview = none ∧ (v.ending h).outcome.metrics = none := by
  rcases v with ⟨_ | text⟩ | detail | cause <;> exact ⟨rfl, rfl⟩

end Script

/-! ## Results -/

section Results

variable (now : Timestamp) (interpret : Request → Ending) (source : String) (input : List String)
  (ms : Float)

/-- The result of a script is coherent, and a final value is the last line of its output. -/
theorem coherent_script :
    RunResult.Coherent ⟨source, .javascript, input⟩
      ((Backends.standard now interpret).result ⟨source, .javascript, input⟩ ms) := by
  have same := Script.result_eq now interpret source input ms
  have plain : ((Script.play source).comesTo input).Plain := (Script.ends_play source).comesTo input
  have within := (Script.play source).handedOut_le input
  obtain ⟨noPreview, noMetrics⟩ := ((Script.play source).comesTo input).no_page
    (Script.hostAfter input ((Script.play source).deeds input))
  rw [← same] at noPreview noMetrics
  refine ⟨?_, rfl, ?_, ?_, ?_, ?_⟩
  · rw [same]
    exact Script.Verdict.sound plain within
  · simp [noPreview]
  · simp [noMetrics]
  · simp [noPreview, noMetrics]
  · intro text left
    rw [same] at left
    obtain ⟨succeeded, output⟩ := Script.Verdict.returned left
    rw [same]
    exact ⟨rfl, succeeded, _, Script.Deed.shown_ends _, output⟩

/-- A page is all that a markup request leads to. -/
theorem coherent_markup {language : Language} (markup : language = .html ∨ language = .css) :
    RunResult.Coherent ⟨source, language, input⟩
      ((Backends.standard now interpret).result ⟨source, language, input⟩ ms) := by
  have noMetrics : ¬ ∃ name, language = .other name := by
    rintro ⟨name, rfl⟩
    rcases markup with same | same <;> cases same
  have page : ∃ d, (Preview.ending ⟨source, language, input⟩ now).outcome =
      { Outcome.success (Preview.confirmation language) with preview := some d } := by
    rcases markup with rfl | rfl <;> exact ⟨_, rfl⟩
  obtain ⟨d, outcome⟩ := page
  have same : ((Backends.standard now interpret).result ⟨source, language, input⟩ ms).toOutcome =
      { Outcome.success (Preview.confirmation language) with preview := some d } := by
    rw [← outcome]
    rcases markup with rfl | rfl <;> rfl
  refine ⟨?_, rfl, ?_, ?_, ?_, ?_⟩
  · rw [same]
    exact Outcome.sound_success rfl rfl (Nat.zero_le _)
  · rw [same]
    exact ⟨fun _ => markup, fun _ => rfl⟩
  · rw [same]
    exact ⟨nofun, fun other => (noMetrics other).elim⟩
  · rw [same]
    exact fun _ => rfl
  · rw [same]
    exact nofun

theorem coherent_outline (name : String) :
    RunResult.Coherent ⟨source, .other name, input⟩
      ((Backends.standard now interpret).result ⟨source, .other name, input⟩ ms) := by
  refine ⟨Outcome.sound_success rfl rfl (Nat.zero_le _), rfl, ?_, ?_, fun _ => rfl, nofun⟩
  · exact ⟨nofun, by rintro (same | same) <;> cases same⟩
  · exact ⟨fun _ => ⟨name, rfl⟩, fun _ => rfl⟩

variable {now interpret source input ms} {σ : Type} {P : Provider σ}

theorem coherent_interpreter (honest : P.Honest)
    (told : Told P ⟨source, .python, input⟩ (interpret ⟨source, .python, input⟩)) :
    RunResult.Coherent ⟨source, .python, input⟩
      ((Backends.standard now interpret).result ⟨source, .python, input⟩ ms) := by
  obtain ⟨noPreview, noMetrics, noReturn⟩ := told.bare
  have same : ((Backends.standard now interpret).result ⟨source, .python, input⟩ ms).toOutcome =
      (interpret ⟨source, .python, input⟩).outcome := rfl
  rw [← same] at noPreview noMetrics noReturn
  refine ⟨told.sound honest, rfl, ?_, ?_, ?_, ?_⟩
  · simp [noPreview]
  · simp [noMetrics]
  · simp [noPreview, noMetrics]
  · simp [noReturn]

end Results

/-- Every result is coherent, whatever the sessions behind the interpreter do and however far others
have brought the runner before. -/
theorem result_coherent {σ : Type} {P : Provider σ} (honest : P.Honest) {r : Runner} {world : σ}
    {request : Request} {interpret : Request → Ending}
    (served : request.language = .python →
      (r.serve P world request).1 = some (interpret request))
    (now : Timestamp) (ms : Float) :
    RunResult.Coherent request ((Backends.standard now interpret).result request ms) := by
  obtain ⟨source, language, input⟩ := request
  cases language with
  | javascript => exact coherent_script now interpret source input ms
  | python => exact coherent_interpreter honest (Runner.serve_told (served rfl))
  | html => exact coherent_markup now interpret source input ms (.inl rfl)
  | css => exact coherent_markup now interpret source input ms (.inr rfl)
  | other name => exact coherent_outline now interpret source input ms name

/-- A process that asks for a line of input and then reports an error with a blank trace. -/
def failsAfterInput : Wire.Launcher Wire.Recording where
  launch _ := .ok
    ⟨["\x7b\"type\":\"ready\",\"version\":\"3.12\"\x7d",
      "\x7b\"type\":\"input\",\"id\":1,\"prompt\":\"\"\x7d",
      "\x7b\"type\":\"error\",\"id\":1,\"output\":\"one\",\"message\":\"ValueError\",\"trace\":\" \"\x7d"], []⟩
  limit := ⟨0⟩
  bound := 10

theorem result_coherent_failsAfterInput :
    (Runner.fresh.serve (Wire.Pool.provider failsAfterInput Wire.Recording.peer) .empty
        ⟨"print(input()); int('x')", .python, ["one", "two"]⟩).1 =
      some (.done ((⟨"one"⟩ : Capture).runtimeError (.ofMessage "ValueError") 1)) ∧
    RunResult.Coherent ⟨"print(input()); int('x')", .python, ["one", "two"]⟩
      ((Backends.standard ⟨0, 0⟩ fun _ =>
          .done ((⟨"one"⟩ : Capture).runtimeError (.ofMessage "ValueError") 1)).result
        ⟨"print(input()); int('x')", .python, ["one", "two"]⟩ 0) := by
  have served : (Runner.fresh.serve (Wire.Pool.provider failsAfterInput Wire.Recording.peer) .empty
        ⟨"print(input()); int('x')", .python, ["one", "two"]⟩).1 =
      some (.done ((⟨"one"⟩ : Capture).runtimeError (.ofMessage "ValueError") 1)) := by
    decide +kernel
  exact ⟨served, result_coherent (Wire.Pool.provider_honest _ _) (fun _ => served) ⟨0, 0⟩ 0⟩

end Snippet
