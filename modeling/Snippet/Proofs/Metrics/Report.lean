import Snippet.Metrics
import Snippet.Proofs.Language.Written
import Snippet.Proofs.Text.Case
import Snippet.Proofs.Text.Lines

/-!
# Rows of a report

A report names its language twice, in its title and in a remark, and has a row in between for each
construct that the metrics have found. `Metrics.count_report`: a row that confirms something stands in the
report as often as the rows of the language's names spell it, and once more if the metrics have found the
construct. No language that was made of a tag or of a file extension spells such a row
(`Metrics.mem_report_iff`).
-/

namespace Snippet.Metrics

open Text

variable {language : Language} {m : Metrics} {text : String}

/-! ## The parts of a report -/

/-- The row of a report that names the language for people. -/
def title (language : Language) : String := "📊 " ++ language.displayName ++ " Code Analysis:"

/-- The row of a report that names the language by its tag. -/
def remark (language : Language) : String :=
  "💡 Note: " ++ language.tag ++ " requires a specific runtime environment for execution."

/-- The rows of a report that count something, between two empty ones. -/
def counted (m : Metrics) : String :=
  "\n" ++ "📏 Lines of code: " ++ toString m.lines ++ "\n" ++ "🔤 Characters: " ++
    toString m.characters ++ "\n" ++ "📝 Non-empty lines: " ++ toString m.nonBlankLines ++ "\n"

/-- The last row of a report. -/
def closing : String := "📋 This analysis shows the code structure and basic syntax validation."

/-- What metrics can confirm of a text. -/
def confirmations : List String :=
  ["Contains function definitions", "Contains conditional statements", "Contains loops"]

/-- What the metrics confirm. -/
def confirmed (m : Metrics) : List String :=
  (if m.hasFunctions then ["Contains function definitions"] else []) ++
  (if m.hasConditionals then ["Contains conditional statements"] else []) ++
  (if m.hasLoops then ["Contains loops"] else [])

/-- The row of a report that confirms something. -/
def confirmation (text : String) : String := "✅ " ++ text

theorem report_eq (language : Language) (m : Metrics) : report language m =
    title language ++ "\n" ++ (counted m ++ "\n" ++
      ((if m.hasFunctions then functionsLine else "") ++
        ((if m.hasConditionals then conditionalsLine else "") ++
          ((if m.hasLoops then loopsLine else "") ++ ("" ++ "\n" ++ (remark language ++ "\n" ++ closing)))))) := by
  have analysis : " Code Analysis:\n\n" = " Code Analysis:" ++ ("\n" ++ "\n") := by decide
  have pause : "\n\n" = "\n" ++ "\n" := by decide
  have note : "\n💡 Note: " = "\n" ++ "💡 Note: " := by decide
  have last : "\n📋 This analysis shows the code structure and basic syntax validation." = "\n" ++ closing := by
    decide +kernel
  unfold report title remark counted
  rw [analysis, pause, note, last]
  simp only [String.append_assoc, String.empty_append]

theorem rows_optional (line row : String) (ends : line = row ++ "\n") (alone : rows row = [row]) (b : Bool)
    (t : String) : rows ((if b then line else "") ++ t) = (if b then [row] else []) ++ rows t := by
  cases b with
  | true => rw [if_pos rfl, if_pos rfl, ends, rows_join, alone]
  | false => rw [if_neg Bool.false_ne_true, if_neg Bool.false_ne_true, String.empty_append, List.nil_append]

theorem rows_report (language : Language) (m : Metrics) : rows (report language m) =
    rows (title language) ++ (rows (counted m) ++ ((confirmed m).map confirmation ++
      ("" :: (rows (remark language) ++ [closing])))) := by
  have functions := rows_optional functionsLine (confirmation "Contains function definitions")
    (by decide +kernel) (by decide +kernel)
  have conditionals := rows_optional conditionalsLine (confirmation "Contains conditional statements")
    (by decide +kernel) (by decide +kernel)
  have loops := rows_optional loopsLine (confirmation "Contains loops")
    (by decide +kernel) (by decide +kernel)
  have empty : rows "" = [""] := by decide
  have last : rows closing = [closing] := by decide +kernel
  rw [report_eq, rows_join, rows_join, functions, conditionals, loops, rows_join, rows_join, empty, last]
  simp only [confirmed, List.map_append, List.append_assoc, List.cons_append, List.nil_append,
    apply_ite (List.map confirmation), List.map_cons, List.map_nil]

/-! ## Confirmations -/

/-- Numbers confirm nothing. -/
theorem mark_not_mem_counted (m : Metrics) : '✅' ∉ (counted m).toList := by
  have number : ∀ n : Nat, '✅' ∉ Nat.toDigits 10 n := fun n mem =>
    absurd (Nat.isDigit_of_mem_toDigits (by decide) (by decide) mem) (by decide)
  simp [counted, number]

theorem mark_mem_confirmation (text : String) : '✅' ∈ (confirmation text).toList := by
  simp [confirmation]

theorem confirmation_injective : Function.Injective confirmation := fun _ _ same =>
  (String.append_right_inj "✅ ").mp same

/-- A row that confirms something stands in a report as often as the names of the language spell it, and
once more if the metrics confirm it. -/
theorem count_report (language : Language) (m : Metrics) (text : String) :
    (rows (report language m)).count (confirmation text) =
      (rows (title language)).count (confirmation text) +
        (rows (remark language)).count (confirmation text) + (confirmed m).count text := by
  have mark := mark_mem_confirmation text
  have numbers : (rows (counted m)).count (confirmation text) = 0 :=
    count_rows_eq_zero mark (mark_not_mem_counted m) (by decide)
  have last : closing ≠ confirmation text := by
    intro same
    rw [← same] at mark
    exact absurd mark (by decide +kernel)
  have empty : "" ≠ confirmation text := by
    intro same
    rw [← same] at mark
    cases mark
  rw [rows_report]
  simp only [List.count_append, List.count_cons_of_ne empty, List.count_singleton, numbers,
    List.count_map_of_injective _ _ confirmation_injective, beq_eq_false_iff_ne.mpr last,
    Bool.false_eq_true, if_false]
  omega

/-! ## Names -/

/-- A capital stands in every row that confirms something, and so does a small letter. -/
theorem letters_mem_confirmation : ∀ text ∈ confirmations,
    'C' ∈ (confirmation text).toList ∧ 't' ∈ (confirmation text).toList := by decide +kernel

/-- A language that was made of a tag or of a file extension and has no backend of its own has its name in
lower case. -/
theorem exists_lowerAscii {name : String} (made : (Language.other name).Made) : ∃ s, name = lowerAscii s := by
  obtain ⟨text, made | made⟩ := made
  · exact ⟨_, (Language.ofTag_eq_other_iff.mp made.symm).1⟩
  · exact ⟨_, (Language.ofExtension_eq_other_iff.mp made.symm).1⟩

/-- Names that were made of a tag or of a file extension confirm nothing. -/
theorem count_names (made : language.Made) (mem : text ∈ confirmations) :
    (rows (title language)).count (confirmation text) = 0 ∧
      (rows (remark language)).count (confirmation text) = 0 := by
  obtain ⟨capital, small⟩ := letters_mem_confirmation text mem
  cases language with
  | other name =>
    obtain ⟨s, rfl⟩ := exists_lowerAscii made
    refine ⟨count_rows_eq_zero small ?_ (by decide), count_rows_eq_zero capital ?_ (by decide)⟩
    · have capitals : 't' ∉ (upper (lowerAscii s)).toList := fun mem =>
        absurd (not_isLower_of_mem_upper mem) (by decide)
      simp [title, Language.displayName, capitals]
    · have smalls : 'C' ∉ (lowerAscii s).toList := fun mem =>
        absurd (not_isUpper_of_mem_lowerAscii mem) (by decide)
      simp [remark, Language.tag, smalls]
  | javascript | python | html | css =>
    revert text
    decide +kernel

/-- Of a language that was made of a tag or of a file extension, the report has just the rows of what the
metrics confirm. -/
theorem mem_report_iff (made : language.Made) (mem : text ∈ confirmations) (m : Metrics) :
    confirmation text ∈ rows (report language m) ↔ text ∈ confirmed m := by
  obtain ⟨unspelled, untagged⟩ := count_names made mem
  rw [← List.count_pos_iff, count_report, unspelled, untagged, Nat.zero_add, List.count_pos_iff]

end Snippet.Metrics
