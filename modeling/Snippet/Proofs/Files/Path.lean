import Snippet.Files.Path
import Snippet.Proofs.Text.Lines

/-!
# The pieces and the parts of a path name

A path name is cut into `segments`, and those that name something are its `names`. The `parts` of a
path are its names, behind a dot if the path begins with one (`Normal`), and a path that is put
together from such parts has them again (`parts_ofParts`). So the parent of a path has all names but
the last (`above_of_parent?`), and so has what stands before the last piece of a path with another
extension (`segments_withExtension`).
-/

namespace Snippet

namespace Files

open Snippet.Text

/-- The piece of a path name names something; a slash beside a slash or at an end does not, nor does a
dot. -/
def isName (piece : String) : Bool := piece != "" && piece != "."

/-- The pieces of a path name that name something. -/
def names (path : String) : List String := (segments path).filter isName

variable {path piece name up extension : String} {absolute : Bool} {ps : List String}

/-! ## Pieces -/

theorem segments_ne_nil (path : String) : segments path ≠ [] := by
  rw [segments, splitAt_eq_splitOn]
  exact List.map_eq_nil_iff.not.mpr (List.splitOn_ne_nil _ _)

theorem slash_not_mem_of_mem_segments (among : piece ∈ segments path) : '/' ∉ piece.toList := by
  obtain ⟨chars, here, rfl⟩ := List.mem_map.mp among
  rw [String.toList_ofList]
  exact not_mem_of_mem_splitAt here

theorem isAbsolute_iff : isAbsolute path = true ↔ ∃ s, path.toList = '/' :: s := by
  have slash : "/".toList = ['/'] := rfl
  rw [isAbsolute, startsWith, slash]
  cases path.toList with
  | nil => simp
  | cons c s =>
    rw [List.isPrefixOf_cons_cons, List.isPrefixOf_nil_left, Bool.and_true, beq_iff_eq]
    exact ⟨fun same => ⟨s, same ▸ rfl⟩, fun ⟨_, same⟩ => (List.cons.inj same).1.symm⟩

theorem segments_of_absolute (h : isAbsolute path = true) :
    ∃ rest, segments path = "" :: rest ∧ rest ≠ [] := by
  obtain ⟨s, here⟩ := isAbsolute_iff.mp h
  refine ⟨(splitAt '/' s).map String.ofList, ?_, ?_⟩
  · rw [segments, here, splitAt, if_pos rfl, List.map_cons]
  · rw [splitAt_eq_splitOn]
    exact List.map_eq_nil_iff.not.mpr (List.splitOn_ne_nil _ _)

/-! ## Parts -/

/-- What the parts of a path name look like: names, behind a dot where a path from here begins with
one. -/
def Normal (absolute : Bool) (ps : List String) : Prop :=
  ∃ lead ns, ps = lead ++ ns ∧ (lead = [] ∨ absolute = false ∧ lead = ["."]) ∧
    ∀ n ∈ ns, isName n = true ∧ '/' ∉ n.toList

namespace Normal

theorem plain (h : Normal absolute ps) : ∀ p ∈ ps, p ≠ "" ∧ '/' ∉ p.toList := by
  obtain ⟨lead, ns, rfl, lead_, named⟩ := h
  intro p among
  rcases List.mem_append.mp among with first | later
  · rcases lead_ with rfl | ⟨-, rfl⟩
    · cases first
    · rw [List.mem_singleton.mp first]
      decide
  · obtain ⟨isNamed, noSlash⟩ := named p later
    refine ⟨?_, noSlash⟩
    rintro rfl
    cases isNamed

theorem named_tail (h : Normal absolute (name :: ps)) : ∀ p ∈ ps, isName p = true := by
  obtain ⟨lead, ns, eq, lead_, named⟩ := h
  intro p among
  rcases lead_ with rfl | ⟨-, rfl⟩
  · rw [List.nil_append] at eq
    exact (named p (eq ▸ List.mem_cons_of_mem _ among)).1
  · have same : ps = ns := (List.cons.inj eq).2
    exact (named p (same ▸ among)).1

theorem named (h : Normal absolute ps) (abs : absolute = true) : ∀ p ∈ ps, isName p = true := by
  obtain ⟨lead, ns, rfl, lead_, named⟩ := h
  rcases lead_ with rfl | ⟨relative, -⟩
  · exact fun p among => (named p among).1
  · rw [abs] at relative
    cases relative

theorem snoc (h : Normal absolute ps) (named : isName name = true) (plain : '/' ∉ name.toList) :
    Normal absolute (ps ++ [name]) := by
  obtain ⟨lead, ns, rfl, lead_, all⟩ := h
  refine ⟨lead, ns ++ [name], List.append_assoc _ _ _, lead_, fun n among => ?_⟩
  rcases List.mem_append.mp among with before | last
  · exact all n before
  · rw [List.mem_singleton.mp last]
    exact ⟨named, plain⟩

theorem dropLast (h : Normal absolute ps) : Normal absolute ps.dropLast := by
  obtain ⟨lead, ns, rfl, lead_, named⟩ := h
  rcases List.eq_nil_or_concat' ns with rfl | ⟨ns, last, rfl⟩
  · refine ⟨[], [], ?_, .inl rfl, nofun⟩
    rcases lead_ with rfl | ⟨-, rfl⟩ <;> rfl
  · refine ⟨lead, ns, ?_, lead_, fun n among => named n (List.mem_append_left _ among)⟩
    rw [← List.append_assoc, List.dropLast_concat]

/-- Without the last part the last name is gone. -/
theorem filter_dropLast (h : Normal absolute ps) :
    ps.dropLast.filter isName = (ps.filter isName).dropLast := by
  obtain ⟨lead, ns, rfl, lead_, named⟩ := h
  have all : ∀ {ms : List String}, (∀ n ∈ ms, n ∈ ns) → ms.filter isName = ms := fun inside =>
    List.filter_eq_self.mpr fun n among => (named n (inside n among)).1
  have noLead : lead.filter isName = [] := by
    rcases lead_ with rfl | ⟨-, rfl⟩ <;> rfl
  rw [List.filter_append, noLead, List.nil_append, all fun _ => id]
  rcases List.eq_nil_or_concat' ns with rfl | ⟨front, last, rfl⟩
  · rcases lead_ with rfl | ⟨-, rfl⟩ <;> rfl
  · rw [← List.append_assoc, List.dropLast_concat, List.dropLast_concat, List.filter_append, noLead,
      List.nil_append, all fun n => List.mem_append_left _]

end Normal

theorem parts_of_segments {first : String} {rest : List String}
    (eq : segments path = first :: rest) :
    parts path = (if first = "" then [] else [first]) ++ rest.filter isName := by
  rw [parts, eq]
  by_cases empty : first = ""
  · rw [if_pos empty, List.nil_append]
    exact if_pos (beq_iff_eq.mpr empty)
  · rw [if_neg empty, List.singleton_append]
    exact if_neg (beq_iff_eq.not.mpr empty)

theorem normal_parts (path : String) : Normal (isAbsolute path) (parts path) := by
  have kept : ∀ pieces : List String, (∀ p ∈ pieces, p ∈ segments path) →
      ∀ n ∈ pieces.filter isName, isName n = true ∧ '/' ∉ n.toList := by
    intro pieces inside n among
    obtain ⟨here, named⟩ := List.mem_filter.mp among
    exact ⟨named, slash_not_mem_of_mem_segments (inside n here)⟩
  obtain ⟨first, rest, eq⟩ := List.exists_cons_of_ne_nil (segments_ne_nil path)
  have later := kept rest fun p among => eq ▸ List.mem_cons_of_mem _ among
  rw [parts_of_segments eq]
  split
  next => exact ⟨[], rest.filter isName, rfl, .inl rfl, later⟩
  next present =>
    by_cases dot : first = "."
    · have relative : isAbsolute path = false := by
        rw [Bool.eq_false_iff]
        intro abs
        obtain ⟨_, begins, -⟩ := segments_of_absolute abs
        rw [eq] at begins
        exact present (List.cons.inj begins).1
      exact ⟨["."], rest.filter isName, by rw [dot], .inr ⟨relative, rfl⟩, later⟩
    · have named : isName first = true := by simp [isName, present, dot]
      refine ⟨[], first :: rest.filter isName, rfl, .inl rfl, List.forall_mem_cons.mpr ⟨?_, later⟩⟩
      exact ⟨named, slash_not_mem_of_mem_segments (eq ▸ List.mem_cons_self)⟩

theorem filter_parts (path : String) : (parts path).filter isName = names path := by
  obtain ⟨first, rest, eq⟩ := List.exists_cons_of_ne_nil (segments_ne_nil path)
  have again : (rest.filter isName).filter isName = rest.filter isName :=
    List.filter_eq_self.mpr fun p among => (List.mem_filter.mp among).2
  rw [parts_of_segments eq, names, eq, List.filter_append, again]
  split
  next empty =>
    subst empty
    rfl
  next => rw [← List.filter_append, List.singleton_append]

theorem length_parts_le (path : String) : (parts path).length ≤ (segments path).length := by
  obtain ⟨first, rest, eq⟩ := List.exists_cons_of_ne_nil (segments_ne_nil path)
  have less := List.length_filter_le isName rest
  rw [parts_of_segments eq, eq, List.length_append, List.length_cons]
  split
  · rw [List.length_nil]
    omega
  · rw [List.length_singleton]
    omega

/-! ## Paths made of parts -/

theorem toList_ofParts (absolute : Bool) (ps : List String) :
    (ofParts absolute ps).toList =
      (if absolute then ['/'] else []) ++ ['/'].intercalate (ps.map String.toList) := by
  rw [ofParts, join, String.toList_append, String.toList_intercalate]
  cases absolute <;> rfl

theorem segments_ofParts (plain : ∀ p ∈ ps, '/' ∉ p.toList) :
    segments (ofParts absolute ps) =
      (if absolute then [""] else []) ++ if ps = [] then [""] else ps := by
  have relative : (splitAt '/' (['/'].intercalate (ps.map String.toList))).map String.ofList =
      if ps = [] then [""] else ps := by
    split
    next empty =>
      subst empty
      rfl
    next full =>
      rw [splitAt_intercalate (List.forall_mem_map.mpr plain) (List.map_eq_nil_iff.not.mpr full),
        List.map_map]
      exact List.map_id'' (fun p => String.ofList_toList) ps
  rw [segments, toList_ofParts]
  cases absolute with
  | false => exact relative
  | true =>
    have leading : ∀ s : List Char, (splitAt '/' (['/'] ++ s)).map String.ofList =
        "" :: (splitAt '/' s).map String.ofList := fun s => rfl
    rw [if_pos rfl, leading, relative]
    rfl

theorem names_ofParts (plain : ∀ p ∈ ps, '/' ∉ p.toList) :
    names (ofParts absolute ps) = ps.filter isName := by
  rw [names, segments_ofParts plain, List.filter_append]
  have noLead : (if absolute = true then [""] else []).filter isName = [] := by
    cases absolute <;> rfl
  rw [noLead, List.nil_append]
  split
  next empty =>
    subst empty
    rfl
  next => rfl

theorem isAbsolute_ofParts (h : Normal absolute ps) : isAbsolute (ofParts absolute ps) = absolute := by
  cases absolute with
  | true => exact isAbsolute_iff.mpr ⟨_, toList_ofParts true ps⟩
  | false =>
    rw [Bool.eq_false_iff]
    intro abs
    obtain ⟨rest, starts, more⟩ := segments_of_absolute abs
    rw [segments_ofParts fun p among => (h.plain p among).2, if_neg Bool.false_ne_true,
      List.nil_append] at starts
    split at starts
    next => exact more (List.cons.inj starts).2.symm
    next => exact (h.plain "" (starts ▸ List.mem_cons_self)).1 rfl

theorem parts_ofParts (h : Normal absolute ps) : parts (ofParts absolute ps) = ps := by
  have segs : segments (ofParts absolute ps) = _ := segments_ofParts fun p among => (h.plain p among).2
  cases absolute with
  | true =>
    have all : ps.filter isName = ps := List.filter_eq_self.mpr (h.named rfl)
    rw [parts_of_segments segs, if_pos rfl, List.nil_append]
    split
    next empty =>
      subst empty
      rfl
    next => exact all
  | false =>
    rw [if_neg Bool.false_ne_true, List.nil_append] at segs
    cases ps with
    | nil => exact parts_of_segments segs
    | cons first rest =>
      have all : rest.filter isName = rest := List.filter_eq_self.mpr h.named_tail
      rw [if_neg (List.cons_ne_nil _ _)] at segs
      rw [parts_of_segments segs, if_neg (h.plain first List.mem_cons_self).1, all]
      rfl

/-! ## The parent -/

/-- What is known of the path above another. -/
theorem above_of_parent? (above : parent? path = some up) :
    names up = (names path).dropLast ∧ parts up = (parts path).dropLast ∧ parts path ≠ [] ∧
      isAbsolute up = isAbsolute path := by
  rw [parent?] at above
  split at above
  next => cases above
  next some_ =>
    cases above
    have normal := (normal_parts path).dropLast
    refine ⟨?_, parts_ofParts normal, some_, isAbsolute_ofParts normal⟩
    rw [names_ofParts fun p among => (normal.plain p among).2, (normal_parts path).filter_dropLast,
      filter_parts]

/-! ## Another extension -/

theorem mem_of_mem_stem {c : Char} (among : c ∈ (splitName name).1.toList) : c ∈ name.toList := by
  rw [splitName] at among
  split at among
  next => exact among
  next => exact among
  next dot stem eq =>
    rw [String.toList_ofList, List.mem_reverse] at among
    have before : c ∈ name.toList.reverse.dropWhile (· != '.') := eq ▸ List.mem_cons_of_mem _ among
    exact List.mem_reverse.mp ((List.dropWhile_sublist _).subset before)

theorem slash_not_mem_of_stem? {stem : String} (has : stem? path = some stem) :
    '/' ∉ stem.toList := by
  rw [stem?, fileName?] at has
  obtain ⟨name, last, rfl⟩ := Option.map_eq_some_iff.mp has
  split at last
  next name' ends =>
    split at last
    next => cases last
    next =>
      cases last
      intro slash
      exact ((normal_parts path).plain name (List.mem_of_getLast? ends)).2 (mem_of_mem_stem slash)
  next => cases last

/-- A name with an extension is longer than a dot, and two dots would need a dot as the extension. -/
theorem ne_of_isName_extension (stem : String) (named : isName extension = true) :
    isName (stem ++ "." ++ extension) = true ∧ stem ++ "." ++ extension ≠ ".." := by
  have shape : (stem ++ "." ++ extension).toList = stem.toList ++ '.' :: extension.toList := by
    simp [String.toList_append]
  have two : extension.toList ≠ [] ∧ extension.toList ≠ ['.'] := by
    constructor
    · intro empty
      rw [String.toList_eq_nil_iff.mp empty] at named
      cases named
    · intro dot
      rw [show extension = "." from String.toList_inj.mp dot] at named
      cases named
  have other : ∀ short : String, short.toList = [] ∨ short.toList = ['.'] ∨ short.toList = ['.', '.'] →
      stem ++ "." ++ extension ≠ short := by
    rintro short size rfl
    rw [shape] at size
    generalize stem.toList = s at size
    generalize extension.toList = e at size two
    rcases s with _ | ⟨c, _ | ⟨c', s⟩⟩ <;> simp_all
  refine ⟨?_, other ".." (.inr (.inr rfl))⟩
  rw [isName, Bool.and_eq_true, bne_iff_ne, bne_iff_ne]
  exact ⟨other "" (.inl rfl), other "." (.inr (.inl rfl))⟩

/-- With another extension a path names another entry of the same directory. -/
theorem segments_withExtension {stem : String} (has : stem? path = some stem)
    (named : isName extension = true) (plain : '/' ∉ extension.toList) :
    isAbsolute (withExtension path extension) = isAbsolute path ∧
      ∃ init, segments (withExtension path extension) = init ++ [stem ++ "." ++ extension] ∧
        init.filter isName = (names path).dropLast := by
  have noSlash : '/' ∉ (stem ++ "." ++ extension).toList := by
    have dot : '/' ∉ ".".toList := by decide
    simp only [String.toList_append, List.mem_append, not_or]
    exact ⟨⟨slash_not_mem_of_stem? has, dot⟩, plain⟩
  have above := (normal_parts path).dropLast
  have normal := above.snoc (ne_of_isName_extension stem named).1 noSlash
  have made : withExtension path extension =
      ofParts (isAbsolute path) ((parts path).dropLast ++ [stem ++ "." ++ extension]) := by
    rw [withExtension, has]
  rw [made]
  refine ⟨isAbsolute_ofParts normal,
    (if isAbsolute path then [""] else []) ++ (parts path).dropLast, ?_, ?_⟩
  · rw [segments_ofParts fun p among => (normal.plain p among).2,
      if_neg (List.append_ne_nil_of_right_ne_nil _ (List.cons_ne_nil _ _)), List.append_assoc]
  · have noLead : (if isAbsolute path then [""] else []).filter isName = [] := by
      cases isAbsolute path <;> rfl
    rw [List.filter_append, noLead, List.nil_append, (normal_parts path).filter_dropLast, filter_parts]

/-! ## The last name -/

theorem names_of_getLast? (ends : (parts path).getLast? = some name) (named : isName name = true) :
    ∃ init, names path = init ++ [name] := by
  obtain ⟨init, split⟩ := List.getLast?_eq_some_iff.mp ends
  refine ⟨init.filter isName, ?_⟩
  rw [← filter_parts, split, List.filter_append, List.filter_cons_of_pos named, List.filter_nil]

/-- The last name of a path with a file name is that name. -/
theorem names_of_fileName? (has : fileName? path = some name) :
    (∃ init, names path = init ++ [name]) ∧ name ≠ ".." := by
  unfold fileName? at has
  split at has
  next last ends =>
    split at has
    next => cases has
    next plain =>
      cases has
      have apart : name ≠ ".." ∧ name ≠ "." := by simpa [not_or] using plain
      have some_ := ((normal_parts path).plain name (List.mem_of_getLast? ends)).1
      have named : isName name = true := by simp [isName, some_, apart.2]
      exact ⟨names_of_getLast? ends named, apart.1⟩
  next => cases has

/-- A path without a file name has no names, or goes up at its end. -/
theorem names_of_stem?_none (has : stem? path = none) :
    names path = [] ∨ ∃ init, names path = init ++ [".."] := by
  have has := Option.map_eq_none_iff.mp has
  unfold fileName? at has
  split at has
  next last ends =>
    split at has
    next special =>
      have special : last = ".." ∨ last = "." := by simpa using special
      rcases special with rfl | rfl
      · exact .inr (names_of_getLast? ends (by decide))
      · -- a dot stands only in front of all names
        left
        obtain ⟨lead, ns, eq, lead_, named⟩ := normal_parts path
        have none_ : ns = [] := by
          rcases List.eq_nil_or_concat' ns with none_ | ⟨front, last, rfl⟩
          · exact none_
          · rw [eq, ← List.append_assoc, List.getLast?_concat] at ends
            obtain rfl := Option.some.inj ends
            obtain ⟨dot, -⟩ := named "." (List.mem_append_right _ List.mem_cons_self)
            cases dot
        rw [← filter_parts, eq, none_, List.append_nil]
        rcases lead_ with rfl | ⟨-, rfl⟩ <;> rfl
    next => cases has
  next none_ =>
    left
    rw [← filter_parts, List.getLast?_eq_none_iff.mp none_]
    rfl

/-- A name is its stem, or its stem, a dot and an extension without one. -/
theorem splitName_cases (name : String) : (splitName name).1 = name ∨ ∃ dot behind,
    name.toList = (splitName name).1.toList ++ dot :: behind ∧ '.' ∉ behind := by
  have whole : name.toList.reverse.takeWhile (· != '.') ++ name.toList.reverse.dropWhile (· != '.') =
      name.toList.reverse := List.takeWhile_append_dropWhile
  have plain : '.' ∉ name.toList.reverse.takeWhile (· != '.') := by
    intro among
    have dotless := List.all_eq_true.mp List.all_takeWhile '.' among
    cases dotless
  unfold splitName
  dsimp only
  split
  next => exact .inl rfl
  next => exact .inl rfl
  next dot stem _ before =>
    right
    refine ⟨dot, (name.toList.reverse.takeWhile (· != '.')).reverse, ?_, ?_⟩
    · rw [before] at whole
      have turned := congrArg List.reverse whole
      rw [List.reverse_reverse] at turned
      rw [String.toList_ofList]
      refine turned.symm.trans ?_
      simp
    · rwa [List.mem_reverse]

/-- No name has an extension with a dot in it, so with one it is another name. -/
theorem ne_splitName (name : String) (dotted : '.' ∈ extension.toList) :
    name ≠ (splitName name).1 ++ "." ++ extension := by
  intro same
  have shape : name.toList = (splitName name).1.toList ++ '.' :: extension.toList := by
    conv_lhs => rw [same]
    simp [String.toList_append]
  rcases splitName_cases name with stem | ⟨dot, behind, split, plain⟩
  · rw [stem] at shape
    simp at shape
  · rw [split] at shape
    obtain ⟨-, rfl⟩ := List.cons.inj (List.append_cancel_left shape)
    exact plain dotted

end Files

end Snippet
