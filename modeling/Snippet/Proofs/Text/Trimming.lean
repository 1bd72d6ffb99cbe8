import Mathlib.Data.List.DropRight
import Mathlib.Tactic.Common
import Snippet.Text.Blank

/-!
# What trimming takes away

A text is trimmed if it neither begins nor ends with a blank (`Trimmed`). `trimChars_eq_iff`: what
trimming leaves of a text is the trimmed text that stands in it with nothing but blanks around.
-/

namespace Snippet.Text

/-- Neither the first character nor the last one is blank. -/
structure Trimmed (s : List Char) : Prop where
  first : ∀ c ∈ s.head?, isBlank c = false
  last : ∀ c ∈ s.getLast?, isBlank c = false

variable {s t before behind : List Char}

/-! ## What is dropped at the end -/

section Trailing

variable {p : Char → Bool}

theorem exists_dropTrailing (p : Char → Bool) (s : List Char) :
    ∃ behind, s = dropTrailing p s ++ behind ∧ behind.all p := by
  have parts : dropTrailing p s ++ s.rtakeWhile p = s := List.rdropWhile_append_rtakeWhile
  exact ⟨_, parts.symm, List.all_eq_true.mpr fun c => List.mem_rtakeWhile_imp⟩

/-- Dropping goes into the front only if nothing is left behind it. -/
theorem dropTrailing_append (p : Char → Bool) (s t : List Char) :
    dropTrailing p (s ++ t) =
      if dropTrailing p t = [] then dropTrailing p s else s ++ dropTrailing p t := by
  rw [dropTrailing, List.reverse_append, List.dropWhile_append]
  simp only [dropTrailing, List.isEmpty_iff, List.reverse_eq_nil_iff]
  split
  next => rfl
  next => rw [List.reverse_append, List.reverse_reverse]

theorem dropTrailing_append_of_all (all : behind.all p) (s : List Char) :
    dropTrailing p (s ++ behind) = dropTrailing p s := by
  have nothing : dropTrailing p behind = [] := List.rdropWhile_eq_nil_iff.mpr (List.all_eq_true.mp all)
  rw [dropTrailing_append, if_pos nothing]

/-- Nothing is dropped from a text exactly if its last character is to stay. -/
theorem dropTrailing_eq_self_iff : dropTrailing p s = s ↔ ∀ c ∈ s.getLast?, p c = false := by
  have last : dropTrailing p s = s ↔ ∀ some_ : s ≠ [], ¬ p (s.getLast some_) = true :=
    List.rdropWhile_eq_self_iff
  rw [last]
  cases s using List.reverseRecOn with
  | nil => exact iff_of_true (fun some_ => absurd rfl some_) nofun
  | append_singleton s c => simp

theorem dropTrailing_dropTrailing (p : Char → Bool) (s : List Char) :
    dropTrailing p (dropTrailing p s) = dropTrailing p s :=
  List.rdropWhile_idempotent p s

end Trailing

/-! ## Either end -/

theorem trimStartChars_append (blank : before.all isBlank) (s : List Char) :
    trimStartChars (before ++ s) = trimStartChars s :=
  List.dropWhile_append_of_pos (List.all_eq_true.mp blank)

theorem trimStartChars_of_first (first : ∀ c ∈ s.head?, isBlank c = false) :
    trimStartChars s = s := by
  cases s with
  | nil => rfl
  | cons c s => rw [trimStartChars, List.dropWhile_cons, first c rfl, if_neg Bool.false_ne_true]

/-- Trimming the start goes no further than to the first character that is not blank. -/
theorem trimStartChars_append_cons {c : Char} (solid : isBlank c = false) (before behind : List Char) :
    trimStartChars (before ++ c :: behind) = trimStartChars before ++ c :: behind := by
  rw [trimStartChars, trimStartChars, List.dropWhile_append]
  split
  next none_ =>
    rw [List.isEmpty_iff.mp none_, List.dropWhile_cons, solid]
    rfl
  next => rfl

theorem trimEndChars_append (blank : behind.all isBlank) (s : List Char) :
    trimEndChars (s ++ behind) = trimEndChars s :=
  dropTrailing_append_of_all blank s

theorem trimEndChars_of_last (last : ∀ c ∈ s.getLast?, isBlank c = false) : trimEndChars s = s :=
  dropTrailing_eq_self_iff.mpr last

theorem trimEndChars_append_cons {c : Char} (solid : isBlank c = false) (before behind : List Char) :
    trimEndChars (before ++ c :: behind) = before ++ c :: trimEndChars behind := by
  have reversed : (before ++ c :: behind).reverse = behind.reverse ++ c :: before.reverse := by simp
  have kept := trimStartChars_append_cons solid behind.reverse before.reverse
  rw [trimStartChars, ← reversed] at kept
  rw [trimEndChars, dropTrailing, kept]
  simp [trimEndChars, dropTrailing, trimStartChars]

/-- What is left at the start is not blank. -/
theorem first_trimStartChars (s : List Char) : ∀ c ∈ (trimStartChars s).head?, isBlank c = false := by
  intro c mem
  have start : (s.dropWhile isBlank).head? = some c := mem
  have first := List.head?_dropWhile_not isBlank s
  rw [start] at first
  exact first

theorem last_trimEndChars (s : List Char) : ∀ c ∈ (trimEndChars s).getLast?, isBlank c = false :=
  dropTrailing_eq_self_iff.mp (dropTrailing_dropTrailing isBlank s)

/-! ## Both ends -/

/-- Blanks around a trimmed text are what trimming takes away. -/
theorem trimChars_append (blank : before.all isBlank) (trimmed : Trimmed s)
    (blank' : behind.all isBlank) : trimChars (before ++ s ++ behind) = s := by
  cases s with
  | nil =>
    have nothing : trimStartChars behind = [] :=
      List.dropWhile_eq_nil_iff.mpr (List.all_eq_true.mp blank')
    rw [List.append_nil, trimChars, trimStartChars_append blank, nothing]
    rfl
  | cons c s =>
    have first : ∀ d ∈ (c :: s ++ behind).head?, isBlank d = false := trimmed.first
    rw [trimChars, List.append_assoc, trimStartChars_append blank, trimStartChars_of_first first,
      trimEndChars_append blank', trimEndChars_of_last trimmed.last]

/-- Trimming takes away blanks and leaves a trimmed text. -/
theorem exists_trimChars (s : List Char) : ∃ before behind, before.all isBlank ∧ behind.all isBlank ∧
    s = before ++ trimChars s ++ behind ∧ Trimmed (trimChars s) := by
  have front : s.takeWhile isBlank ++ trimStartChars s = s := List.takeWhile_append_dropWhile
  obtain ⟨behind, back, blank⟩ := exists_dropTrailing isBlank (trimStartChars s)
  have back : trimStartChars s = trimChars s ++ behind := back
  refine ⟨s.takeWhile isBlank, behind, List.all_takeWhile, blank, ?_, ?_, last_trimEndChars _⟩
  · rw [List.append_assoc, ← back, front]
  · intro c mem
    refine first_trimStartChars s c ?_
    rw [back, List.head?_append, Option.mem_def.mp mem]
    rfl

theorem trimChars_eq_iff : trimChars s = t ↔ ∃ before behind, before.all isBlank ∧
    behind.all isBlank ∧ s = before ++ t ++ behind ∧ Trimmed t := by
  constructor
  · rintro rfl
    exact exists_trimChars s
  · rintro ⟨before, behind, blank, blank', rfl, trimmed⟩
    exact trimChars_append blank trimmed blank'

/-- Nothing is left of a text exactly when every character of it is blank. -/
theorem trimChars_eq_nil_iff : trimChars s = [] ↔ s.all isBlank = true := by
  constructor
  · intro nothing
    obtain ⟨before, behind, blank, blank', eq, _⟩ := exists_trimChars s
    rw [eq, nothing, List.append_nil, List.all_append, blank, blank', Bool.and_self]
  · intro blank
    have empty : Trimmed [] := ⟨nofun, nofun⟩
    exact trimChars_eq_iff.mpr ⟨s, [], blank, rfl, by simp, empty⟩

/-- A text is left as it is exactly if it is trimmed. -/
theorem trimChars_eq_self_iff : trimChars s = s ↔ Trimmed s := by
  constructor
  · intro eq
    obtain ⟨_, _, _, _, _, trimmed⟩ := trimChars_eq_iff.mp eq
    exact trimmed
  · intro trimmed
    exact trimChars_eq_iff.mpr ⟨[], [], rfl, rfl, (List.append_nil s).symm, trimmed⟩

instance (s : List Char) : Decidable (Trimmed s) := decidable_of_iff _ trimChars_eq_self_iff

theorem trimChars_of_ends {c e : Char} (first : isBlank c = false) (last : isBlank e = false) :
    trimChars (c :: (s ++ [e])) = c :: (s ++ [e]) := by
  refine trimChars_eq_self_iff.mpr ⟨?_, ?_⟩
  · rintro _ ⟨⟩
    exact first
  · rw [← List.cons_append, List.getLast?_concat]
    rintro _ ⟨⟩
    exact last

/-- Blanks around a text do not matter to trimming. -/
theorem trimChars_around (blank : before.all isBlank) (blank' : behind.all isBlank) (s : List Char) :
    trimChars (before ++ s ++ behind) = trimChars s := by
  obtain ⟨front, back, blank_front, blank_back, eq, trimmed⟩ := exists_trimChars s
  refine trimChars_eq_iff.mpr ⟨before ++ front, back ++ behind, ?_, ?_, ?_, trimmed⟩
  · rw [List.all_append, blank, blank_front, Bool.and_self]
  · rw [List.all_append, blank_back, blank', Bool.and_self]
  · conv_lhs => rw [eq]
    simp only [List.append_assoc]

theorem trimChars_trimStartChars (s : List Char) : trimChars (trimStartChars s) = trimChars s := by
  rw [trimChars, trimStartChars_of_first (first_trimStartChars s), trimChars]

theorem trimChars_trimEndChars (s : List Char) : trimChars (trimEndChars s) = trimChars s := by
  obtain ⟨behind, parts, blank⟩ := exists_dropTrailing isBlank s
  have parts : s = trimEndChars s ++ behind := parts
  have around : trimChars ([] ++ trimEndChars s ++ behind) = _ :=
    trimChars_around rfl blank (trimEndChars s)
  rw [List.nil_append, ← parts] at around
  exact around.symm

/-- Where a character is not blank, either side of it is trimmed for itself. -/
theorem trimChars_append_cons {c : Char} (solid : isBlank c = false) (before behind : List Char) :
    trimChars (before ++ c :: behind) = trimStartChars before ++ c :: trimEndChars behind := by
  rw [trimChars, trimStartChars_append_cons solid, trimEndChars_append_cons solid]

/-- What is left of a text is part of it. -/
theorem mem_of_mem_trimChars {c : Char} (mem : c ∈ trimChars s) : c ∈ s := by
  obtain ⟨before, behind, _, _, eq, _⟩ := exists_trimChars s
  rw [eq]
  simp [mem]

@[simp] theorem trimChars_trimChars (s : List Char) : trimChars (trimChars s) = trimChars s := by
  obtain ⟨_, _, _, _, _, trimmed⟩ := exists_trimChars s
  exact trimChars_eq_self_iff.mpr trimmed

end Snippet.Text
