import Mathlib.Tactic.Common
import Snippet.Request

/-!
# Reading input lines

A cursor that has been asked for a line so many times has handed out that many lines, or all there
are. `LineCursor.next_asked`: the next read gives the line of that number, or none after the last.
-/

namespace Snippet.LineCursor

/-- A cursor over lines that has been asked for a line so many times. -/
def asked (lines : List String) (count : Nat) : LineCursor := ⟨lines, min count lines.length⟩

theorem next_asked (lines : List String) (count : Nat) :
    (asked lines count).next = (lines[count]?, asked lines (count + 1)) := by
  unfold asked next
  by_cases more : count < lines.length
  · rw [Nat.min_eq_left (Nat.le_of_lt more), Nat.min_eq_left more]
    dsimp only
    rw [List.getElem?_eq_getElem more]
  · have less := Nat.le_of_not_lt more
    rw [Nat.min_eq_right less, Nat.min_eq_right (Nat.le_succ_of_le less)]
    dsimp only
    rw [List.getElem?_eq_none (Nat.le_refl _), List.getElem?_eq_none less]

theorem ofLines_eq_asked (lines : List String) : ofLines lines = asked lines 0 := by
  rw [ofLines, asked, Nat.zero_min]

theorem next_lines (c : LineCursor) : c.next.2.lines = c.lines := by
  unfold next
  split <;> rfl

end Snippet.LineCursor
