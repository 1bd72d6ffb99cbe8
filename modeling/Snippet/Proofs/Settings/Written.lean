import Snippet.Proofs.Settings.Precedence

/-!
# Settings files that are read back

A settings file is written as one line for each key and its value, with an equals sign between them, in any
order among lines that say nothing: blank ones, comments and lines without an equals sign. Blanks may stand
around the key and the value (`Written`). `merge_written`: reading such a file binds these keys to these
values, one after another, so the last value of a key counts, and leaves every other key as it was.
-/

namespace Snippet.Settings

open Text

/-- A key and a value that can be told from the line that binds one to the other. -/
structure Fits (key value : String) : Prop where
  key_trimmed : Trimmed key.toList
  key_whole : '=' ∉ key.toList
  noComment : key.toList.head? ≠ some '#'
  value_trimmed : Trimmed value.toList

instance (key value : String) : Decidable (Fits key value) :=
  decidable_of_iff (Trimmed key.toList ∧ '=' ∉ key.toList ∧ key.toList.head? ≠ some '#' ∧
      Trimmed value.toList)
    ⟨fun ⟨trimmed, whole, first, trimmed'⟩ => ⟨trimmed, whole, first, trimmed'⟩,
      fun fits => ⟨fits.key_trimmed, fits.key_whole, fits.noComment, fits.value_trimmed⟩⟩

/-- The lines of a file that binds the keys to their values, in this order. -/
inductive Written : List (String × String) → List String → Prop
  /-- no line -/
  | nothing : Written [] []
  /-- a line with nothing to be seen -/
  | blank {pairs : List (String × String)} {lines : List String} (line : String)
      (blank : isBlankText line = true) (later : Written pairs lines) : Written pairs (line :: lines)
  /-- a line with a number sign in front -/
  | comment {pairs : List (String × String)} {lines : List String} (before text : String)
      (blank : isBlankText before = true) (later : Written pairs lines) :
      Written pairs ((before ++ "#" ++ text) :: lines)
  /-- a line without an equals sign -/
  | other {pairs : List (String × String)} {lines : List String} (line : String)
      (noSign : '=' ∉ line.toList) (later : Written pairs lines) : Written pairs (line :: lines)
  /-- a key and its value, with blanks around either -/
  | pair {pairs : List (String × String)} {lines : List String} (key value before mid mid' behind : String)
      (blank : ∀ gap ∈ [before, mid, mid', behind], isBlankText gap = true) (later : Written pairs lines) :
      Written ((key, value) :: pairs)
        ((before ++ key ++ mid ++ "=" ++ (mid' ++ value ++ behind)) :: lines)

variable {pairs : List (String × String)} {lines : List String} {line key value : String} {s : Settings}

/-! ## Lines -/

theorem binding?_of_blank (blank : isBlankText line = true) : binding? line.toList = none := by
  have nothing : trimChars line.toList = [] := trimChars_eq_nil_iff.mpr blank
  rw [binding?, nothing]
  rfl

theorem binding?_comment {before text : String} (blank : isBlankText before = true) :
    binding? (before ++ "#" ++ text).toList = none := by
  refine Option.eq_none_iff_forall_ne_some.mpr fun b binds => ?_
  refine (binding?_eq_some_iff.mp binds).1 text.toList ?_
  rw [String.toList_append, String.toList_append, List.append_assoc, trimStartChars_append blank]
  rfl

theorem binding?_of_noSign (noSign : '=' ∉ line.toList) : binding? line.toList = none := by
  refine Option.eq_none_iff_forall_ne_some.mpr fun b binds => ?_
  obtain ⟨_, before, behind, parts, _⟩ := binding?_eq_some_iff.mp binds
  refine noSign ?_
  rw [parts]
  exact List.mem_append_right _ List.mem_cons_self

/-- A line that binds a key is no comment, not even if the key is empty. -/
theorem noComment_of_fits (fits : Fits key value) {before mid : List Char} (blank : before.all isBlank = true)
    (blank' : mid.all isBlank = true) (behind text : List Char) :
    trimStartChars (before ++ key.toList ++ mid ++ '=' :: behind) ≠ '#' :: text := by
  have trimmed := fits.key_trimmed
  have noComment := fits.noComment
  rw [List.append_assoc, List.append_assoc, trimStartChars_append blank]
  generalize key.toList = name at trimmed noComment ⊢
  cases name with
  | nil =>
    -- with an empty key, the equals sign is the first that can be seen
    have sign : trimStartChars (mid ++ '=' :: behind) = '=' :: behind := by
      rw [trimStartChars_append blank', trimStartChars_of_first (by rintro _ ⟨⟩; decide)]
    rw [List.nil_append, sign]
    exact fun same => absurd (List.cons.inj same).1 (by decide)
  | cons c name =>
    have solid : ∀ d ∈ (c :: name ++ (mid ++ '=' :: behind)).head?, isBlank d = false := trimmed.first
    rw [trimStartChars_of_first solid]
    exact fun same => noComment (congrArg some (List.cons.inj same).1)

theorem binding?_pair (fits : Fits key value) {before mid mid' behind : String}
    (blank : ∀ gap ∈ [before, mid, mid', behind], isBlankText gap = true) :
    binding? (before ++ key ++ mid ++ "=" ++ (mid' ++ value ++ behind)).toList = some (key, value) := by
  simp only [List.forall_mem_cons, isBlankText] at blank
  obtain ⟨blank_before, blank_mid, blank_mid', blank_behind, -⟩ := blank
  have solid : ∀ {gap : List Char}, gap.all isBlank = true → '=' ∉ gap := fun blank mem =>
    absurd (List.all_eq_true.mp blank _ mem) (by decide)
  have parts : (before ++ key ++ mid ++ "=" ++ (mid' ++ value ++ behind)).toList =
      before.toList ++ key.toList ++ mid.toList ++
        '=' :: (mid'.toList ++ value.toList ++ behind.toList) := by
    simp only [String.toList_append, List.append_assoc]
    rfl
  rw [binding?_eq_some_iff, parts]
  refine ⟨noComment_of_fits fits blank_before blank_mid _, _, _, rfl, ?_,
    trimChars_append blank_before fits.key_trimmed blank_mid,
    trimChars_append blank_mid' fits.value_trimmed blank_behind⟩
  simp only [List.mem_append, not_or]
  exact ⟨⟨solid blank_before, fits.key_whole⟩, solid blank_mid⟩

theorem foldl_written (written : Written pairs lines) (fits : ∀ b ∈ pairs, Fits b.1 b.2) (s : Settings) :
    (lines.map String.toList).foldl applyLine s = pairs.foldl (fun s b => s.set b.1 b.2) s := by
  have idle : ∀ {s : Settings} {line : String}, binding? line.toList = none →
      applyLine s line.toList = s := by
    intro s line none_
    rw [applyLine, none_]
  induction written generalizing s with
  | nothing => rfl
  | blank line blank later ih =>
    rw [List.map_cons, List.foldl_cons, idle (binding?_of_blank blank), ih fits]
  | comment before text blank later ih =>
    rw [List.map_cons, List.foldl_cons, idle (binding?_comment blank), ih fits]
  | other line noSign later ih =>
    rw [List.map_cons, List.foldl_cons, idle (binding?_of_noSign noSign), ih fits]
  | pair key value before mid mid' behind blank later ih =>
    obtain ⟨first, others⟩ := List.forall_mem_cons.mp fits
    rw [List.map_cons, List.foldl_cons, List.foldl_cons, applyLine, binding?_pair first blank]
    exact ih others (s.set key value)

/-! ## The file -/

/-- Nothing is bound by what stands behind the last newline if that is empty. -/
theorem foldl_records (s : Settings) (text : List Char) :
    (records '\n' text).foldl applyLine s = (splitAt '\n' text).foldl applyLine s := by
  rw [splitAt_eq, records]
  obtain ⟨ended, tail⟩ := terminated '\n' text
  cases tail with
  | nil =>
    rw [List.foldl_append]
    rfl
  | cons c tail => rfl

theorem merge_join (single : ∀ line ∈ lines, '\n' ∉ line.toList) (s : Settings) :
    s.merge (Utf8.encode (join "\n" lines)) = (lines.map String.toList).foldl applyLine s := by
  rw [merge, readableLines_encode, foldl_records]
  by_cases none_ : lines = []
  · rw [none_]
    rfl
  · have pieces : (join "\n" lines).toList = ['\n'].intercalate (lines.map String.toList) :=
      String.toList_intercalate
    rw [pieces, splitAt_intercalate (List.forall_mem_map.mpr single) (List.map_eq_nil_iff.not.mpr none_)]

/-- Reading what was written binds the keys that were written to their values, one after another: a key has
its last value, and all other keys are as before. -/
theorem merge_written (s : Settings) (fits : ∀ b ∈ pairs, Fits b.1 b.2)
    (single : ∀ line ∈ lines, '\n' ∉ line.toList) (written : Written pairs lines) :
    let merged := s.merge (Utf8.encode (join "\n" lines))
    merged = pairs.foldl (fun s b => s.set b.1 b.2) s ∧
      ∀ key, merged.get? key = (pairs.reverse.lookup key).or (s.get? key) := by
  intro merged
  have all : merged = pairs.foldl (fun s b => s.set b.1 b.2) s := by
    rw [← foldl_written written fits]
    exact merge_join single s
  refine ⟨all, fun key => ?_⟩
  have last : (pairs.foldl (assign some) s).get? key = _ := get?_foldl_assign some pairs s key
  rw [List.filterMap_some] at last
  rw [all]
  exact last

/-- Blank lines, a comment that looks like a binding, a line without an equals sign, a key that is bound twice,
a value with both signs, an empty value and blanks around. -/
theorem merge_written_twice :
    let pairs := [("A", "1"), ("B", "x=y # z"), ("A", "2"), ("C", "")]
    let lines := ["# A=0", "A=1", "", " B\t= x=y # z \r", "rest", "A =2", "C="]
    let merged := (defaults "/tmp").merge (Utf8.encode (join "\n" lines))
    (∀ b ∈ pairs, Fits b.1 b.2) ∧ (∀ line ∈ lines, '\n' ∉ line.toList) ∧ Written pairs lines ∧
      merged.get? "A" = some "2" ∧ merged.get? "B" = some "x=y # z" ∧ merged.get? "C" = some "" ∧
      merged.get? "DEFAULT_MODEL" = some "gpt-4o" := by
  intro pairs lines merged
  have fits : ∀ b ∈ pairs, Fits b.1 b.2 := by decide
  have single : ∀ line ∈ lines, '\n' ∉ line.toList := by decide
  have written : Written pairs lines :=
    .comment "" " A=0" rfl <| .pair "A" "1" "" "" "" "" (by decide) <| .blank "" rfl <|
      .pair "B" "x=y # z" " " "\t" " " " \r" (by decide) <| .other "rest" (by decide) <|
      .pair "A" "2" "" " " "" "" (by decide) <| .pair "C" "" "" "" "" "" (by decide) .nothing
  have all := (merge_written (defaults "/tmp") fits single written).2
  refine ⟨fits, single, written, ?_, ?_, ?_, ?_⟩
  · rw [all]
    rfl
  · rw [all]
    rfl
  · rw [all]
    rfl
  · rw [all]
    rfl

end Snippet.Settings
