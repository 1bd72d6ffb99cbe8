import Snippet.Metrics
import Snippet.Proofs.Text.Lines

/-!
# What a scan counts and finds

A token lies on one line and says something, so it lies in one of two texts with a newline between them
or in none of them: scanning such texts comes to the sum of what is found in either
(`Metrics.scan_join`). In a blank text no token lies, and a text is blank exactly if all its lines are
(`Metrics.nonBlankLines_eq_zero_iff`).
-/

namespace Snippet.Metrics

open Text

variable {tokens : List String} {s t source : String}

/-- Every token lies on one line, and something can be seen of it. -/
def OnLine (tokens : List String) : Prop :=
  ∀ token ∈ tokens, '\n' ∉ token.toList ∧ isBlankText token = false

instance (tokens : List String) : Decidable (OnLine tokens) :=
  inferInstanceAs (Decidable (∀ token ∈ tokens, _))

theorem onLine_functionTokens : OnLine functionTokens := by decide

theorem onLine_conditionalTokens : OnLine conditionalTokens := by decide

theorem onLine_loopTokens : OnLine loopTokens := by decide

theorem containsAny_iff :
    containsAny source tokens = true ↔ ∃ token ∈ tokens, token.toList <:+: source.toList := by
  unfold containsAny contains
  rw [List.any_eq_true]
  simp only [occurs_iff]

/-! ## Two texts -/

/-- No token reaches from one line to the next. -/
theorem containsAny_join (onLine : OnLine tokens) (s t : String) :
    containsAny (s ++ "\n" ++ t) tokens = (containsAny s tokens || containsAny t tokens) := by
  rw [Bool.eq_iff_iff, Bool.or_eq_true]
  simp only [containsAny_iff, toList_join]
  constructor
  · rintro ⟨token, mem, lies⟩
    rcases (infix_append_cons_iff (onLine token mem).1).mp lies with left | right
    · exact .inl ⟨token, mem, left⟩
    · exact .inr ⟨token, mem, right⟩
  · rintro (⟨token, mem, lies⟩ | ⟨token, mem, lies⟩)
    · exact ⟨token, mem, (infix_append_cons_iff (onLine token mem).1).mpr (.inl lies)⟩
    · exact ⟨token, mem, (infix_append_cons_iff (onLine token mem).1).mpr (.inr lies)⟩

/-- What is found in two texts, where a newline stands between them. -/
def joined (m n : Metrics) : Metrics where
  lines := m.lines + n.lines
  nonBlankLines := m.nonBlankLines + n.nonBlankLines
  characters := m.characters + 1 + n.characters
  hasFunctions := m.hasFunctions || n.hasFunctions
  hasConditionals := m.hasConditionals || n.hasConditionals
  hasLoops := m.hasLoops || n.hasLoops

/-- A newline between two texts keeps them apart: lines and characters add up, with one character for the
newline, and there are functions, conditionals or loops exactly where either text has some. -/
theorem scan_join (s t : String) : scan (s ++ "\n" ++ t) = (scan s).joined (scan t) := by
  have pieces : splitAt '\n' (s ++ "\n" ++ t).toList = splitAt '\n' s.toList ++ splitAt '\n' t.toList := by
    rw [toList_join, splitAt_append]
  have characters : (s ++ "\n" ++ t).length = s.length + 1 + t.length := by
    rw [String.length_append, String.length_append]
    rfl
  simp only [scan, joined, pieces, characters, List.length_append, List.filter_append,
    containsAny_join onLine_functionTokens, containsAny_join onLine_conditionalTokens,
    containsAny_join onLine_loopTokens]

/-! ## Blank texts -/

/-- Nothing is found in a blank text. -/
theorem containsAny_of_blank (onLine : OnLine tokens) (blank : isBlankText source = true) :
    containsAny source tokens = false := by
  rw [← Bool.not_eq_true, containsAny_iff]
  rintro ⟨token, mem, lies⟩
  have seen := (onLine token mem).2
  rw [isBlankText, List.all_eq_false] at seen
  obtain ⟨c, inside, solid⟩ := seen
  exact solid (List.all_eq_true.mp blank c (lies.subset inside))

/-- A text is blank exactly if nothing can be seen on any of its lines. -/
theorem nonBlankLines_eq_zero_iff :
    (scan source).nonBlankLines = 0 ↔ isBlankText source = true := by
  have lines : (∀ line ∈ splitAt '\n' source.toList, line.all isBlank = true) ↔
      ∀ c ∈ source.toList, isBlank c = true := by
    simp only [List.all_eq_true]
    exact forall_splitAt (p := fun c => isBlank c = true) rfl source.toList
  rw [isBlankText, List.all_eq_true, ← lines]
  simp [scan]

end Snippet.Metrics
