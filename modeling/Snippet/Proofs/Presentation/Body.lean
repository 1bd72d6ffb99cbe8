import Snippet.Presentation
import Snippet.Proofs.Text.Trimming

/-!
# Results that say something

Of a failure the body names what went wrong, so something can be seen of it whatever the program has put
out. Of a success it is the output without the blanks at its end, and a confirmation in its place if there
is none. Whether there is any is asked before the blanks are taken away: of an output of blanks alone
nothing is shown, not even the confirmation (`RunResult.Overlooked`, `RunResult.body_says_iff`).
-/

namespace Snippet

open Text

namespace Text

/-- Something can be seen of the text. -/
def Visible (s : String) : Prop := ∃ c ∈ s.toList, isBlank c = false

variable {s t : String}

theorem visible_iff : Visible s ↔ isBlankText s = false := by
  rw [isBlankText, List.all_eq_false]
  simp only [Visible, Bool.not_eq_true]

theorem isBlankText_trimEnd (s : String) : isBlankText (trimEnd s) = isBlankText s := by
  rw [Bool.eq_iff_iff, trimEnd, isBlankText, isBlankText, String.toList_ofList, ← trimChars_eq_nil_iff,
    ← trimChars_eq_nil_iff, trimChars_trimEndChars]

theorem not_visible_empty : ¬ Visible "" := by
  rintro ⟨c, mem, _⟩
  cases mem

/-- Nothing is left of a blank text. -/
theorem trimEnd_of_blank (blank : isBlankText s = true) : trimEnd s = "" := by
  have nothing : trimEndChars ([] ++ s.toList) = trimEndChars [] := trimEndChars_append blank []
  rw [trimEnd, ← List.nil_append s.toList, nothing]
  rfl

end Text

namespace RunResult

variable {r : RunResult}

/-! ## Failures -/

/-- The body of a failure carries the mark of one. -/
theorem mark_mem_body (failed : r.status ≠ .success) : '❌' ∈ r.body.toList := by
  unfold body
  cases status : r.status with
  | success => exact absurd status failed
  | runtimeError => simp
  | setupError => simp

theorem visible_of_mark {s : String} (mark : '❌' ∈ s.toList) : Visible s := ⟨'❌', mark, by decide⟩

theorem mark_not_mem_noOutput : '❌' ∉ noOutput.toList := by decide +kernel

/-! ## Successes -/

theorem body_of_success (succeeded : r.status = .success) :
    r.body = if r.output = "" then noOutput else trimEnd r.output := by
  simp only [body, succeeded, String.isEmpty_iff]

theorem visible_noOutput : Visible noOutput := visible_iff.mpr (by decide +kernel)

/-! ## All results -/

/-- A success whose program has put out blanks and nothing else. -/
def Overlooked (r : RunResult) : Prop := r.status = .success ∧ r.output ≠ "" ∧ ¬ Visible r.output

/-- Nothing is shown of such a success. -/
theorem Overlooked.body_eq (overlooked : r.Overlooked) : r.body = "" := by
  obtain ⟨succeeded, printed, unseen⟩ := overlooked
  rw [visible_iff, Bool.not_eq_false] at unseen
  rw [body_of_success succeeded, if_neg printed, trimEnd_of_blank unseen]

/-- The body of a result says something, and it is the confirmation exactly of a success of whose output
nothing can be seen (or whose program has put out the words of the confirmation itself), unless blanks alone
have been put out; then nothing is shown. -/
theorem body_says_iff (r : RunResult) :
    (Visible r.body ∧ (r.body = noOutput ↔
        r.status = .success ∧ (¬ Visible r.output ∨ trimEnd r.output = noOutput)) ↔
      ¬ r.Overlooked) ∧
    (r.Overlooked → r.body = "") := by
  refine ⟨?_, Overlooked.body_eq⟩
  by_cases overlooked : r.Overlooked
  · refine iff_of_false ?_ (not_not_intro overlooked)
    rintro ⟨⟨c, mem, _⟩, _⟩
    rw [overlooked.body_eq] at mem
    cases mem
  · refine iff_of_true ?_ overlooked
    by_cases succeeded : r.status = .success
    · have body := body_of_success succeeded
      by_cases empty : r.output = ""
      · rw [body, if_pos empty, empty]
        exact ⟨visible_noOutput, iff_of_true rfl ⟨succeeded, .inl not_visible_empty⟩⟩
      · have visible : Visible r.output := by_contra fun unseen => overlooked ⟨succeeded, empty, unseen⟩
        rw [body, if_neg empty]
        refine ⟨?_, ?_⟩
        · rwa [visible_iff, isBlankText_trimEnd, ← visible_iff]
        · simp [succeeded, visible]
    · have mark := mark_mem_body succeeded
      refine ⟨visible_of_mark mark, iff_of_false (fun same => mark_not_mem_noOutput ?_) ?_⟩
      · rwa [← same]
      · exact fun worked => succeeded worked.1

/-- A program that prints an empty line succeeds without visible output, and it is not confirmed. -/
theorem empty_line_not_confirmed :
    let r := ofOutcome .python (.success "\n") 1.5
    r.status = .success ∧ ¬ Visible r.output ∧ ¬ Visible r.body ∧ r.body ≠ noOutput := by
  intro r
  have unseen : ¬ Visible "\n" := by
    rw [visible_iff]
    decide
  have overlooked : r.Overlooked := ⟨rfl, by decide, unseen⟩
  rw [overlooked.body_eq]
  exact ⟨rfl, unseen, not_visible_empty, by decide⟩

end RunResult

end Snippet
