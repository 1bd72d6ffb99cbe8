import Mathlib.Data.List.Basic
import Mathlib.Tactic.Common
import Snippet.Text.Lines
import Snippet.Text.Search

/-!
# Lines and their ends

Cutting a text at line ends goes on where it has stopped (`terminated_append`), so it does not
matter in which portions the text comes; the ended pieces are those between the line ends.
-/

namespace Snippet.Text

/-! ## Ended pieces -/

/-- Cutting a text into ended pieces and a rest goes on from the rest. -/
theorem terminated_append {α : Type} [DecidableEq α] (stop : α) (x y : List α) :
    terminated stop (x ++ y) =
      ((terminated stop x).1 ++ (terminated stop ((terminated stop x).2 ++ y)).1,
        (terminated stop ((terminated stop x).2 ++ y)).2) := by
  induction x with
  | nil => rfl
  | cons c x ih =>
    rw [List.cons_append, terminated, ih, terminated]
    obtain ⟨ended, tail⟩ := terminated stop x
    by_cases stops : c = stop
    · cases ended with
      | nil =>
        simp only [if_pos stops, List.nil_append]
        obtain ⟨ended', tail'⟩ := terminated stop (tail ++ y)
        cases ended' with
        | nil => rfl
        | cons line ended' => rfl
      | cons line ended => simp only [if_pos stops, List.cons_append]
    · cases ended with
      | nil =>
        simp only [if_neg stops, List.nil_append, List.cons_append, terminated]
      | cons line ended => simp only [if_neg stops, List.cons_append]

/-- There is nothing to end in the rest. -/
theorem terminated_rest {α : Type} [DecidableEq α] (stop : α) (x : List α) :
    terminated stop (terminated stop x).2 = ([], (terminated stop x).2) := by
  induction x with
  | nil => rfl
  | cons c x ih =>
    rw [terminated]
    generalize terminated stop x = cut at ih ⊢
    obtain ⟨ended, tail⟩ := cut
    by_cases stops : c = stop
    · cases ended with
      | nil =>
        simp only [if_pos stops]
        exact ih
      | cons line ended =>
        simp only [if_pos stops]
        exact ih
    · cases ended with
      | nil =>
        simp only [if_neg stops]
        rw [terminated, ih]
        exact if_neg stops
      | cons line ended =>
        simp only [if_neg stops]
        exact ih

/-- A line by itself. -/
theorem terminated_line {α : Type} [DecidableEq α] {stop : α} {x : List α} (inside : stop ∉ x) :
    terminated stop (x ++ [stop]) = ([x], []) := by
  induction x with
  | nil => simp [terminated]
  | cons c x ih =>
    rw [List.mem_cons, not_or] at inside
    rw [List.cons_append, terminated, ih inside.2]
    exact if_neg (Ne.symm inside.1)

/-- What stands in front of the first terminator is the beginning of the first piece. -/
theorem terminated_append_of_not_mem {α : Type} [DecidableEq α] {stop : α} {x : List α}
    (inside : stop ∉ x) (y : List α) :
    terminated stop (x ++ y) =
      match terminated stop y with
      | ([], tail) => ([], x ++ tail)
      | (line :: ended, tail) => ((x ++ line) :: ended, tail) := by
  induction x with
  | nil =>
    rw [List.nil_append]
    obtain ⟨ended, tail⟩ := terminated stop y
    cases ended <;> rfl
  | cons c x ih =>
    rw [List.mem_cons, not_or] at inside
    rw [List.cons_append, terminated, ih inside.2]
    obtain ⟨ended, tail⟩ := terminated stop y
    cases ended <;> exact if_neg (Ne.symm inside.1)

/-- The first piece comes off at the first terminator. -/
theorem terminated_cut {α : Type} [DecidableEq α] {stop : α} {x : List α} (inside : stop ∉ x)
    (rest : List α) : terminated stop (x ++ stop :: rest) =
      (x :: (terminated stop rest).1, (terminated stop rest).2) := by
  have first : terminated stop (stop :: rest) =
      ([] :: (terminated stop rest).1, (terminated stop rest).2) := by
    rw [terminated]
    obtain ⟨ended, tail⟩ := terminated stop rest
    cases ended <;> exact if_pos rfl
  rw [terminated_append_of_not_mem inside, first]
  dsimp only
  rw [List.append_nil]

/-- Without a terminator there is only a rest. -/
theorem terminated_open {α : Type} [DecidableEq α] {stop : α} {x : List α} (inside : stop ∉ x) :
    terminated stop x = ([], x) := by
  have whole := terminated_append_of_not_mem inside []
  rw [List.append_nil, terminated] at whole
  exact whole.trans (congrArg _ (List.append_nil x))

/-- Every ended piece has a terminator of its own. -/
theorem terminated_length_le {α : Type} [DecidableEq α] (stop : α) (x : List α) :
    (terminated stop x).1.length + (terminated stop x).2.length ≤ x.length := by
  induction x with
  | nil => exact Nat.le_refl 0
  | cons c x ih =>
    rw [terminated]
    generalize terminated stop x = cut at ih
    obtain ⟨_ | ⟨piece, ended⟩, tail⟩ := cut
    · by_cases stops : c = stop <;> simp [stops] at ih ⊢ <;> omega
    · by_cases stops : c = stop <;> simp [stops] at ih ⊢ <;> omega

/-- The pieces between terminators are the ended ones, and the rest behind the last of them. -/
theorem splitAt_eq (stop : Char) (x : List Char) :
    splitAt stop x = (terminated stop x).1 ++ [(terminated stop x).2] := by
  induction x with
  | nil => rfl
  | cons c x ih =>
    rw [splitAt, terminated, ih]
    obtain ⟨ended, tail⟩ := terminated stop x
    by_cases stops : c = stop
    · cases ended <;> simp only [if_pos stops, List.nil_append, List.cons_append]
    · cases ended <;> simp only [if_neg stops, List.nil_append, List.cons_append]

/-- The lines of a text that a newline ends. -/
def endedLines (text : List Char) : List (List Char) := (splitAt '\n' text).dropLast

theorem terminated_eq_endedLines (text : List Char) : (terminated '\n' text).1 = endedLines text := by
  rw [endedLines, splitAt_eq, List.dropLast_concat]

/-! ## Pieces between separators -/

section Pieces

variable {sep : Char} {s t piece : List Char}

theorem splitAt_eq_splitOn (sep : Char) (s : List Char) : splitAt sep s = s.splitOn sep := by
  induction s with
  | nil => rfl
  | cons c s ih =>
    rw [splitAt, List.splitOn_cons_eq_if_modifyHead, ih]
    by_cases cuts : c = sep
    · rw [if_pos cuts, if_pos (beq_iff_eq.mpr cuts)]
    · rw [if_neg cuts, if_neg (beq_iff_eq.not.mpr cuts)]
      cases pieces : s.splitOn sep with
      | nil => exact absurd pieces (List.splitOn_ne_nil sep s)
      | cons piece pieces => rfl

theorem not_mem_of_mem_splitAt (among : piece ∈ splitAt sep s) : sep ∉ piece := by
  induction s generalizing piece with
  | nil =>
    rw [List.mem_singleton.mp among]
    exact List.not_mem_nil
  | cons c s ih =>
    rw [splitAt] at among
    split at among
    next cuts =>
      rcases List.mem_cons.mp among with rfl | later
      · exact List.not_mem_nil
      · exact ih later
    next stays =>
      split at among
      next =>
        rw [List.mem_singleton.mp among, List.mem_singleton]
        exact Ne.symm stays
      next first pieces eq =>
        rw [eq] at ih
        rcases List.mem_cons.mp among with rfl | later
        · exact List.not_mem_cons_of_ne_of_not_mem (Ne.symm stays) (ih List.mem_cons_self)
        · exact ih (List.mem_cons_of_mem _ later)

theorem splitAt_intercalate {pieces : List (List Char)} (plain : ∀ p ∈ pieces, sep ∉ p)
    (some_ : pieces ≠ []) : splitAt sep ([sep].intercalate pieces) = pieces := by
  rw [splitAt_eq_splitOn]
  exact List.splitOn_intercalate sep plain some_

theorem join_splitAt (s : List Char) :
    (join "/" ((splitAt '/' s).map String.ofList)).toList = s := by
  have same : ((splitAt '/' s).map String.ofList).map String.toList = s.splitOn '/' := by
    rw [List.map_map, splitAt_eq_splitOn]
    exact List.map_id'' (fun _ => String.toList_ofList) _
  rw [join, String.toList_intercalate, same]
  exact List.intercalate_splitOn '/'

/-- There is always a first piece. -/
theorem exists_splitAt (sep : Char) (s : List Char) : ∃ first others, splitAt sep s = first :: others := by
  rw [splitAt_eq]
  exact List.exists_cons_of_ne_nil (by simp)

/-- The pieces of two texts with a separator between them are those of either. -/
theorem splitAt_append (s t : List Char) :
    splitAt sep (s ++ sep :: t) = splitAt sep s ++ splitAt sep t := by
  induction s with
  | nil => exact if_pos rfl
  | cons c s ih =>
    rw [List.cons_append, splitAt, ih, splitAt]
    by_cases stops : c = sep
    · rw [if_pos stops, if_pos stops, List.cons_append]
    · obtain ⟨first, others, eq⟩ := exists_splitAt sep s
      rw [if_neg stops, if_neg stops, eq]
      rfl

theorem splitAt_of_not_mem (fresh : sep ∉ s) : splitAt sep s = [s] := by
  rw [splitAt_eq, terminated_open fresh]
  rfl

theorem splitAt_cut (fresh : sep ∉ s) (t : List Char) :
    splitAt sep (s ++ sep :: t) = s :: splitAt sep t := by
  rw [splitAt_append, splitAt_of_not_mem fresh]
  rfl

/-- The first piece is what stands in front of the first separator, if one is put behind the text. -/
theorem head?_splitAt_iff (inside : sep ∉ piece) :
    (splitAt sep s).head? = some piece ↔ piece ++ [sep] <+: s ++ [sep] := by
  induction s generalizing piece with
  | nil => cases piece <;> simp [splitAt, List.cons_prefix_cons]
  | cons c s ih =>
    rw [splitAt, List.cons_append]
    by_cases stops : c = sep
    · rw [if_pos stops, List.head?_cons, Option.some_inj]
      cases piece with
      | nil => simp [stops]
      | cons d piece =>
        have other : d ≠ sep := fun same => inside (same ▸ List.mem_cons_self)
        simp [stops, other]
    · obtain ⟨first, others, eq⟩ := exists_splitAt sep s
      rw [if_neg stops, eq, List.head?_cons, Option.some_inj]
      cases piece with
      | nil => simp [Ne.symm stops]
      | cons d piece =>
        have later : sep ∉ piece := fun mem => inside (List.mem_cons_of_mem d mem)
        have rest := ih later
        rw [eq, List.head?_cons, Option.some_inj] at rest
        rw [List.cons.injEq, List.cons_append, List.cons_prefix_cons, rest, eq_comm (a := c)]

/-- The pieces behind the first are what stands between separators, if one is put behind the text. -/
theorem mem_tail_splitAt_iff (inside : sep ∉ piece) :
    piece ∈ (splitAt sep s).tail ↔ sep :: (piece ++ [sep]) <:+: s ++ [sep] := by
  induction s with
  | nil => simp [splitAt, List.infix_cons_iff]
  | cons c s ih =>
    obtain ⟨first, others, eq⟩ := exists_splitAt sep s
    rw [List.cons_append, List.infix_cons_iff, List.cons_prefix_cons, ← head?_splitAt_iff inside, ← ih,
      splitAt, eq]
    by_cases stops : c = sep
    · simp [stops, eq_comm]
    · simp [stops, Ne.symm stops]

/-- What holds of a separator and of every character of the pieces holds of the whole text. -/
theorem forall_splitAt {p : Char → Prop} (stop : p sep) (s : List Char) :
    (∀ line ∈ splitAt sep s, ∀ c ∈ line, p c) ↔ ∀ c ∈ s, p c := by
  induction s with
  | nil => simp [splitAt]
  | cons c s ih =>
    rw [List.forall_mem_cons, ← ih, splitAt]
    by_cases stops : c = sep
    · rw [if_pos stops, List.forall_mem_cons]
      exact and_congr_left fun _ => iff_of_true (List.forall_mem_nil _) (stops ▸ stop)
    · rw [if_neg stops]
      cases splitAt sep s with
      | nil => simp
      | cons line lines => simp [and_assoc]

/-- A piece without the separator that lies in two texts with a separator between them lies in one of
them. -/
theorem infix_append_cons_iff (inside : sep ∉ piece) :
    piece <:+: s ++ sep :: t ↔ piece <:+: s ∨ piece <:+: t := by
  -- only nothing begins where the separator stands
  have nothing : ∀ x, x <+: sep :: t → sep ∉ x → x = [] := by
    intro x starts fresh
    cases x with
    | nil => rfl
    | cons c x =>
      rw [(List.cons_prefix_cons.mp starts).1] at fresh
      exact absurd List.mem_cons_self fresh
  constructor
  · intro lies
    rcases List.infix_append_iff_ne_nil.mp lies with left | right | ⟨x, y, _, some_, eq, _, starts⟩
    · exact .inl left
    · rcases List.infix_cons_iff.mp right with starts | right
      · rw [nothing piece starts inside]
        exact .inl List.nil_infix
      · exact .inr right
    · have fresh : sep ∉ y := fun mem => inside (eq ▸ List.mem_append_right x mem)
      exact absurd (nothing y starts fresh) some_
  · rintro (left | right)
    · exact List.infix_append_of_infix_left left
    · exact List.infix_append_of_infix_right (List.infix_cons right)

theorem occurs_iff : occurs piece s = true ↔ piece <:+: s := by
  induction s with
  | nil => rw [occurs, List.isEmpty_iff, List.infix_nil]
  | cons c s ih => rw [occurs, Bool.or_eq_true, List.isPrefixOf_iff_prefix, ih, List.infix_cons_iff]

end Pieces

/-! ## Rows -/

/-- The rows of a text: what stands between its newlines. -/
def rows (s : String) : List String := (splitAt '\n' s.toList).map String.ofList

theorem toList_join (s t : String) : (s ++ "\n" ++ t).toList = s.toList ++ '\n' :: t.toList := by
  rw [String.toList_append, String.toList_append, List.append_assoc]
  rfl

theorem rows_join (s t : String) : rows (s ++ "\n" ++ t) = rows s ++ rows t := by
  rw [rows, toList_join, splitAt_append, List.map_append]
  rfl

/-- A row is none of a text that lacks one of its characters. -/
theorem count_rows_eq_zero {row s : String} {c : Char} (mem : c ∈ row.toList) (absent : c ∉ s.toList)
    (inner : c ≠ '\n') : (rows s).count row = 0 := by
  rw [List.count_eq_zero]
  intro here
  obtain ⟨line, found, rfl⟩ := List.mem_map.mp here
  rw [String.toList_ofList] at mem
  have others : ∀ d ∈ s.toList, d ≠ c := fun d here same => absent (same ▸ here)
  exact (forall_splitAt (p := (· ≠ c)) (Ne.symm inner) s.toList).mpr others line found c mem rfl

/-! ## Beginnings -/

theorem after?_eq_some_iff {label s rest : List Char} :
    after? label s = some rest ↔ s = label ++ rest := by
  induction label generalizing s with
  | nil =>
    rw [after?, Option.some_inj, List.nil_append]
  | cons p label ih =>
    cases s with
    | nil => simp [after?]
    | cons c s =>
      rw [after?, List.cons_append, List.cons.injEq]
      by_cases same : p = c
      · rw [if_pos same, ih]
        exact ⟨fun eq => ⟨same.symm, eq⟩, fun both => both.2⟩
      · rw [if_neg same]
        exact ⟨nofun, fun both => absurd both.1.symm same⟩

/-! ## The first separator -/

variable {sep : Char} {s before behind : List Char}

theorem cutAt?_append (fresh : sep ∉ before) (behind : List Char) :
    cutAt? sep (before ++ sep :: behind) = some (before, behind) := by
  induction before with
  | nil => exact if_pos rfl
  | cons c before ih =>
    rw [List.mem_cons, not_or] at fresh
    rw [List.cons_append, cutAt?, if_neg (Ne.symm fresh.1), ih fresh.2]
    rfl

theorem cutAt?_eq_none (fresh : sep ∉ s) : cutAt? sep s = none := by
  induction s with
  | nil => rfl
  | cons c s ih =>
    rw [List.mem_cons, not_or] at fresh
    rw [cutAt?, if_neg (Ne.symm fresh.1), ih fresh.2]
    rfl

end Snippet.Text
