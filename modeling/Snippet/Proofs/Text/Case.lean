import Mathlib
import Snippet.Proofs.Text.Trimming
import Snippet.Text.Case

/-!
# Letter case

Lowering is done once and for all, and it makes no blank and takes none away, so it may come before
trimming or after it. A lowered text has no capitals of ASCII, and an uppercase text no small letters of it.
-/

namespace Snippet.Text

theorem isBlank_of_isAlpha {c : Char} (alpha : c.isAlpha) : isBlank c = false := by
  have letters : (0x41 ≤ c.toNat ∧ c.toNat ≤ 0x5A) ∨ 0x61 ≤ c.toNat ∧ c.toNat ≤ 0x7A := by
    simpa [Char.isAlpha, Char.isUpper, Char.isLower, UInt32.le_iff_toNat_le] using alpha
  simp only [isBlank, Bool.or_eq_false_iff, Bool.and_eq_false_iff, decide_eq_false_iff_not,
    beq_eq_false_iff_ne]
  omega

/-- Lowering changes letters, and letters are no blanks. -/
theorem isBlank_toLower (c : Char) : isBlank c.toLower = isBlank c := by
  by_cases alpha : c.isAlpha
  · have lowered : c.toLower.isAlpha := by rwa [Char.isAlpha_toLower_eq_isAlpha]
    rw [isBlank_of_isAlpha lowered, isBlank_of_isAlpha alpha]
  · have upper : ¬ c.isUpper := by
      rw [Char.isAlpha, Bool.or_eq_true, not_or] at alpha
      exact alpha.1
    rw [Char.toLower_eq_of_not_isUpper upper]

/-- Lowering comes before trimming or after it. -/
theorem trimChars_map_toLower (s : List Char) :
    trimChars (s.map Char.toLower) = (trimChars s).map Char.toLower := by
  have blank : ∀ t : List Char, (t.map Char.toLower).all isBlank = t.all isBlank := by
    intro t
    simp only [List.all_map, Function.comp_def, isBlank_toLower]
  obtain ⟨before, behind, blank_before, blank_behind, eq, trimmed⟩ := exists_trimChars s
  refine trimChars_eq_iff.mpr ⟨before.map Char.toLower, behind.map Char.toLower, ?_, ?_, ?_, ?_, ?_⟩
  · rwa [blank]
  · rwa [blank]
  · rw [← List.map_append, ← List.map_append, ← eq]
  · intro c mem
    rw [List.head?_map] at mem
    obtain ⟨d, first, rfl⟩ := Option.map_eq_some_iff.mp mem
    rw [isBlank_toLower]
    exact trimmed.first d first
  · intro c mem
    rw [List.getLast?_map] at mem
    obtain ⟨d, last, rfl⟩ := Option.map_eq_some_iff.mp mem
    rw [isBlank_toLower]
    exact trimmed.last d last

theorem lowerAscii_trim (s : String) : lowerAscii (trim s) = trim (lowerAscii s) := by
  rw [lowerAscii, trim, trim, lowerAscii, String.toList_ofList, String.toList_ofList,
    trimChars_map_toLower]

@[simp] theorem lowerAscii_lowerAscii (s : String) : lowerAscii (lowerAscii s) = lowerAscii s := by
  have twice : Char.toLower ∘ Char.toLower = Char.toLower := funext Char.toLower_toLower_eq_toLower
  rw [lowerAscii, lowerAscii, String.toList_ofList, List.map_map, twice]

@[simp] theorem trim_trim (s : String) : trim (trim s) = trim s := by
  rw [trim, trim, String.toList_ofList, trimChars_trimChars]

/-- Lowering does not matter to whether there is anything to trim. -/
theorem trim_lowerAscii_eq_self_iff (s : String) :
    trim (lowerAscii s) = lowerAscii s ↔ trim s = s := by
  constructor
  · intro same
    rw [← lowerAscii_trim] at same
    have lengths := congrArg String.length same
    obtain ⟨before, behind, _, _, eq, _⟩ := exists_trimChars s.toList
    have parts := congrArg List.length eq
    simp only [lowerAscii, trim, String.length_ofList, List.length_map, String.toList_ofList] at lengths
    simp only [List.length_append] at parts
    have nothing : before = [] ∧ behind = [] := by
      rw [← List.length_eq_zero_iff, ← List.length_eq_zero_iff]
      omega
    rw [nothing.1, nothing.2, List.nil_append, List.append_nil] at eq
    rw [trim, ← eq, String.ofList_toList]
  · intro same
    rw [← lowerAscii_trim, same]

/-! ## Letters that are not left -/

section Left

variable {c d : Char} {s : String}

theorem not_isUpper_of_mem_lowerAscii (mem : c ∈ (lowerAscii s).toList) : c.isUpper = false := by
  rw [lowerAscii, String.toList_ofList] at mem
  obtain ⟨d, _, rfl⟩ := List.mem_map.mp mem
  exact Char.isUpper_toLower_eq_false d

theorem isLower_iff : c.isLower = true ↔ 97 ≤ c.toNat ∧ c.toNat ≤ 122 := by
  simp [Char.isLower, UInt32.le_iff_toNat_le]

/-- Of the code points, only those of the letters `a` to `z` are small letters of ASCII. -/
theorem isLower_ofNat {n : Nat} (other : n < 97 ∨ 122 < n) : (Char.ofNat n).isLower = false := by
  rw [← Bool.not_eq_true, isLower_iff, Char.toNat_ofNat]
  split <;> omega

/-- What the tables of uppercase forms move does not become a small letter of ASCII. -/
theorem not_isLower_of_mem_upperChar (mem : d ∈ upperChar c) : d.isLower = false := by
  have special : ∀ entry ∈ upperSpecial, ∀ n ∈ entry.2, n < 97 ∨ 122 < n := by decide +kernel
  have ranges : ∀ r ∈ upperRanges,
      r.last < 128 ∨ (r.last : Int) + r.offset < 97 ∨ 122 < (r.first : Int) + r.offset := by
    decide +kernel
  unfold upperChar at mem
  dsimp only at mem
  split at mem
  next => exact List.mem_singleton.mp mem ▸ Char.isLower_toUpper_eq_false c
  next beyond =>
    split at mem
    next n form found =>
      obtain ⟨n, inside, rfl⟩ := List.mem_map.mp mem
      exact isLower_ofNat (special _ (List.mem_of_find?_eq_some found) n inside)
    next =>
      split at mem
      next r found =>
        rw [List.mem_singleton.mp mem]
        have within := List.find?_some found
        simp only [Bool.and_eq_true, decide_eq_true_eq] at within
        refine isLower_ofNat ?_
        have moved := ranges r (List.mem_of_find?_eq_some found)
        omega
      next =>
        rw [List.mem_singleton.mp mem, ← Bool.not_eq_true, isLower_iff]
        omega

theorem not_isLower_of_mem_upper (mem : c ∈ (upper s).toList) : c.isLower = false := by
  rw [upper, String.toList_ofList] at mem
  obtain ⟨d, _, inside⟩ := List.mem_flatMap.mp mem
  exact not_isLower_of_mem_upperChar inside

end Left

end Snippet.Text
