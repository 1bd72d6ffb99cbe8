import Snippet.Proofs.Metrics.Report
import Snippet.Proofs.Metrics.Scan
import Snippet.Review.Finding

/-!
# Findings that agree with the metrics

Findings and the report of a text are made of the same metrics, but each asks for itself whether the text is
blank, and they cut it into lines in different ways. `Review.findings_agree`: they say the same all the same.
A text is blank for the findings exactly if no line of it is counted as one with something on it, and then
there is nothing to confirm; otherwise the findings confirm what the report does.
-/

namespace Snippet.Review

open Text
open Metrics (scan report title remark confirmed confirmations containsAny_of_blank)

variable {source : String}

/-- The findings that confirm something. -/
def confirming : List Subject := [.functions, .conditionals, .loops]

/-- The size of a text, as a finding. -/
def size (source : String) : Subject :=
  .size (scan source).lines (scan source).nonBlankLines (scan source).characters

/-- What findings on a source say, next to its metrics and to the report made of them. -/
structure Agrees (source : String) (told : List Subject) : Prop where
  /-- the size comes first -/
  first : told.head? = some (size source)
  /-- a source is called empty if no line has something on it -/
  blank : .blankSource ∈ told ↔ (scan source).nonBlankLines = 0
  /-- of an empty source nothing else is said, and nothing is found in it -/
  alone : (scan source).nonBlankLines = 0 → told = [size source, .blankSource] ∧
    (scan source).hasFunctions = false ∧ (scan source).hasConditionals = false ∧ (scan source).hasLoops = false
  /-- what is confirmed has a row in the report, besides those that the names of the language spell -/
  reported : ∀ s ∈ confirming, ∀ language,
    (rows (report language (scan source))).count ("✅ " ++ s.message) =
      (rows (title language)).count ("✅ " ++ s.message) +
        (rows (remark language)).count ("✅ " ++ s.message) + told.count s
  /-- the names of languages that were made of tags or of file extensions spell none of these rows -/
  written : ∀ s ∈ confirming, ∀ language : Language, language.Made →
    (s ∈ told ↔ "✅ " ++ s.message ∈ rows (report language (scan source)))
  /-- functions are missed where more than one line has something on it -/
  missing : .noFunctions ∈ told ↔
    (scan source).hasFunctions = false ∧ 2 ≤ (scan source).nonBlankLines
  /-- long lines are counted if there are any -/
  long : (scan source).nonBlankLines ≠ 0 → ∀ n, .longLines n ∈ told ↔
    0 < n ∧ n = (lines source).countP fun line => 120 < line.length
  /-- lines with a marker are counted if there are any -/
  marked : (scan source).nonBlankLines ≠ 0 → ∀ n, .markers n ∈ told ↔
    0 < n ∧ n = (lines source).countP fun line => contains line "TODO" || contains line "FIXME"
  /-- every kind of finding stands at most once, and in this order -/
  order : told.Sublist [size source, .blankSource, .functions, .noFunctions, .conditionals, .loops,
    .longLines (countLong source), .markers (countMarkers source)]

/-! ## Lines -/

theorem countLong_eq (source : String) :
    countLong source = (lines source).countP fun line => 120 < line.length := by
  rw [lines, List.countP_map, List.countP_eq_length_filter]
  simp only [Function.comp_def, String.length_ofList]
  rfl

theorem countMarkers_eq (source : String) : countMarkers source =
    (lines source).countP fun line => contains line "TODO" || contains line "FIXME" := by
  rw [countMarkers, lines, List.countP_map, List.countP_eq_length_filter]
  simp only [Function.comp_def, contains, String.toList_ofList]

/-! ## Blank sources -/

theorem findings_of_blank (blank : isBlankText source = true) :
    findings source = [size source, .blankSource] := if_pos blank

/-- Nothing is found in a blank source. -/
theorem nothing_in_blank (blank : isBlankText source = true) :
    (scan source).hasFunctions = false ∧ (scan source).hasConditionals = false ∧ (scan source).hasLoops = false :=
  ⟨containsAny_of_blank Metrics.onLine_functionTokens blank,
    containsAny_of_blank Metrics.onLine_conditionalTokens blank,
    containsAny_of_blank Metrics.onLine_loopTokens blank⟩

/-- Of a blank source nothing is confirmed. -/
theorem confirmed_of_blank (blank : isBlankText source = true) : confirmed (scan source) = [] := by
  obtain ⟨functions, conditionals, loops⟩ := nothing_in_blank blank
  simp [confirmed, functions, conditionals, loops]

/-! ## Other sources -/

/-- What is found in a source on which something can be seen. -/
theorem findings_of_visible (visible : ¬ isBlankText source = true) : findings source =
    [size source] ++
    (if (scan source).hasFunctions then [Subject.functions]
      else if 1 < (scan source).nonBlankLines then [Subject.noFunctions] else []) ++
    (if (scan source).hasConditionals then [Subject.conditionals] else []) ++
    (if (scan source).hasLoops then [Subject.loops] else []) ++
    (if 0 < countLong source then [Subject.longLines (countLong source)] else []) ++
    (if 0 < countMarkers source then [Subject.markers (countMarkers source)] else []) := if_neg visible

theorem optional_sublist (p : Prop) [Decidable p] (s : Subject) :
    (if p then [s] else []).Sublist [s] := by
  split
  · exact List.Sublist.refl _
  · exact List.nil_sublist _

theorem findings_sublist (source : String) : (findings source).Sublist
    [size source, .blankSource, .functions, .noFunctions, .conditionals, .loops,
      .longLines (countLong source), .markers (countMarkers source)] := by
  by_cases blank : isBlankText source = true
  · rw [findings_of_blank blank]
    exact List.sublist_append_left [size source, .blankSource] _
  · rw [findings_of_visible blank]
    have first : List.Sublist [size source] [size source, .blankSource] :=
      List.sublist_append_left [size source] [.blankSource]
    have functions : List.Sublist (if (scan source).hasFunctions then [Subject.functions]
        else if 1 < (scan source).nonBlankLines then [.noFunctions] else []) [.functions, .noFunctions] := by
      split
      · exact List.sublist_append_left [Subject.functions] [.noFunctions]
      · exact (optional_sublist _ _).cons _
    exact ((((first.append functions).append (optional_sublist _ _)).append (optional_sublist _ _)).append
      (optional_sublist _ _)).append (optional_sublist _ _)

theorem count_optional {α : Type} [DecidableEq α] (p : Prop) [Decidable p] (x y : α) :
    (if p then [x] else []).count y = if p ∧ x = y then 1 else 0 := by
  by_cases holds : p
  · simp [holds, List.count_singleton]
  · simp [holds]

/-- What is confirmed is what the metrics confirm. -/
theorem count_findings (source : String) {s : Subject} (mem : s ∈ confirming) :
    (findings source).count s = (confirmed (scan source)).count s.message := by
  simp only [confirming, List.mem_cons, List.not_mem_nil, or_false] at mem
  by_cases blank : isBlankText source = true
  · rw [findings_of_blank blank, confirmed_of_blank blank]
    rcases mem with rfl | rfl | rfl <;> simp [size]
  · rw [findings_of_visible blank, confirmed]
    rcases mem with rfl | rfl | rfl <;>
      cases (scan source).hasFunctions <;> simp [size, count_optional, Subject.message]

theorem noFunctions_mem_iff (source : String) : .noFunctions ∈ findings source ↔
    (scan source).hasFunctions = false ∧ 2 ≤ (scan source).nonBlankLines := by
  by_cases blank : isBlankText source = true
  · rw [findings_of_blank blank, Metrics.nonBlankLines_eq_zero_iff.mpr blank]
    simp [size]
  · rw [findings_of_visible blank]
    cases (scan source).hasFunctions <;> simp [size, Nat.succ_le_iff]

/-- A count is told if it is not zero. -/
theorem mem_counted {kind : Nat → Subject} (apart : Function.Injective kind) (count n : Nat) :
    kind n ∈ (if 0 < count then [kind count] else []) ↔ 0 < n ∧ n = count := by
  by_cases counted : 0 < count
  · rw [if_pos counted, List.mem_singleton, apart.eq_iff]
    exact ⟨fun same => ⟨same ▸ counted, same⟩, And.right⟩
  · rw [if_neg counted]
    refine iff_of_false List.not_mem_nil ?_
    rintro ⟨positive, rfl⟩
    exact counted positive

theorem longLines_mem_iff (visible : ¬ isBlankText source = true) (n : Nat) :
    .longLines n ∈ findings source ↔ 0 < n ∧ n = countLong source := by
  have apart : Function.Injective Subject.longLines := fun _ _ => Subject.longLines.inj
  rw [findings_of_visible visible, ← mem_counted apart]
  cases (scan source).hasFunctions <;> simp [size]

theorem markers_mem_iff (visible : ¬ isBlankText source = true) (n : Nat) :
    .markers n ∈ findings source ↔ 0 < n ∧ n = countMarkers source := by
  have apart : Function.Injective Subject.markers := fun _ _ => Subject.markers.inj
  rw [findings_of_visible visible, ← mem_counted apart]
  cases (scan source).hasFunctions <;> simp [size]

theorem blankSource_mem_iff (source : String) :
    .blankSource ∈ findings source ↔ isBlankText source = true := by
  by_cases blank : isBlankText source = true
  · rw [findings_of_blank blank]
    simp [blank]
  · rw [findings_of_visible blank]
    cases (scan source).hasFunctions <;> simp [size, blank]

theorem head_findings (source : String) : (findings source).head? = some (size source) := by
  by_cases blank : isBlankText source = true
  · rw [findings_of_blank blank]
    rfl
  · rw [findings_of_visible blank]
    rfl

/-! ## Agreement -/

/-- The findings on a source agree with its metrics and with the report made of them: the size comes first; a
source is called empty exactly if no line of it has something on it, and then nothing is found in it; what is
confirmed is what the report confirms; functions are missed, and long lines and markers counted, exactly where
there is something to tell. -/
theorem findings_agree (source : String) : Agrees source (findings source) where
  first := head_findings source
  blank := by rw [blankSource_mem_iff, Metrics.nonBlankLines_eq_zero_iff]
  alone nothing := by
    have blank := Metrics.nonBlankLines_eq_zero_iff.mp nothing
    exact ⟨findings_of_blank blank, nothing_in_blank blank⟩
  reported s mem language := by
    rw [count_findings source mem]
    exact Metrics.count_report language (scan source) s.message
  written s mem language made := by
    have text : s.message ∈ confirmations := by
      revert s
      decide
    rw [← List.count_pos_iff, count_findings source mem, List.count_pos_iff]
    exact (Metrics.mem_report_iff made text (scan source)).symm
  missing := noFunctions_mem_iff source
  long visible n := by
    rw [longLines_mem_iff (mt Metrics.nonBlankLines_eq_zero_iff.mpr visible), countLong_eq]
  marked visible n := by
    rw [markers_mem_iff (mt Metrics.nonBlankLines_eq_zero_iff.mpr visible), countMarkers_eq]
  order := findings_sublist source

/-- Missing functions are told of where functions would be confirmed, in front of the conditionals. -/
theorem noFunctions_first :
    findings "if a:\nb" = [.size 2 2 7, .noFunctions, .conditionals] ∧
      ¬ (findings "if a:\nb").Sublist [size "if a:\nb", .blankSource, .functions, .conditionals, .loops,
        .noFunctions, .longLines (countLong "if a:\nb"), .markers (countMarkers "if a:\nb")] := by
  decide +kernel

end Snippet.Review
