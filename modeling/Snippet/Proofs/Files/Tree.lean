import Snippet.Files.Tree
import Snippet.Proofs.Files.Path

/-!
# Where path names lead in a tree

`walk_cons` takes a walk apart at its first piece: it goes on from where the piece leads, or ends at a
free name. To a directory the pieces that name nothing can be left out (`walk_filter`), and whatever a
path name comes to, the names before its last lead to a directory (`exists_above_of_walk`). A tree that
keeps the directories of another one (`Keeps`) leads to the same places.
-/

namespace Snippet.Files.Tree

variable {t u : Tree} {here at_ b d x : Location} {node : Node} {pieces rest init : List String}
  {piece name path up : String} {from_ : Location} {content : List UInt8}

/-! ## Looking up -/

theorem lookup_of_ne_nil (place : x ≠ []) :
    t.lookup x = (t.entries.find? fun e => e.1 == x).map (·.2) := if_neg place

/-- Where the entries of a location are overwritten, the first entry of any location is the one it was
before, but for what is in it. -/
theorem find?_overwrite (es : List (Location × Node)) :
    ((es.map fun e => if e.1 == at_ then (at_, node) else e).find? fun e => e.1 == x).map (·.2) =
      (es.find? fun e => e.1 == x).map fun e => if x = at_ then node else e.2 := by
  have keys : ((fun e : Location × Node => e.1 == x) ∘ fun e =>
      if e.1 == at_ then (at_, node) else e) = fun e => e.1 == x := by
    funext e
    rw [Function.comp_apply]
    split
    next same => rw [← beq_iff_eq.mp same]
    next => rfl
  rw [List.find?_map, keys]
  cases found : es.find? fun e => e.1 == x with
  | none => rfl
  | some e =>
    have key := List.find?_some found
    obtain rfl : e.1 = x := beq_iff_eq.mp key
    by_cases same : e.1 = at_ <;> simp [same]

theorem lookup_put (place : at_ ≠ []) :
    (t.put at_ node).lookup x = if x = at_ then some node else t.lookup x := by
  by_cases root : x = []
  · subst root
    exact (if_neg (Ne.symm place)).symm
  rw [lookup_of_ne_nil root, lookup_of_ne_nil root, put]
  split
  next taken =>
    rw [find?_overwrite]
    split
    next same =>
      obtain ⟨e, among, key⟩ := List.any_eq_true.mp taken
      cases found : t.entries.find? fun e => e.1 == x with
      | none => exact absurd (same ▸ key) (List.find?_eq_none.mp found e among)
      | some e' => rfl
    next => rfl
  next free =>
    rw [List.find?_append]
    split
    next same =>
      subst same
      have none_ : t.entries.find? (fun e => e.1 == x) = none := by
        refine List.find?_eq_none.mpr fun e among key => free ?_
        exact List.any_eq_true.mpr ⟨e, among, key⟩
      simp [none_]
    next other => simp [Ne.symm other]

theorem lookup_erase (place : at_ ≠ []) :
    (t.erase at_).lookup x = if x = at_ then none else t.lookup x := by
  by_cases root : x = []
  · subst root
    exact (if_neg (Ne.symm place)).symm
  rw [lookup_of_ne_nil root, lookup_of_ne_nil root, erase, List.find?_filter]
  split
  next same =>
    subst same
    rw [List.find?_eq_none.mpr fun e _ => by simp]
    rfl
  next other =>
    refine congrArg (Option.map (·.2)) (congrArg (t.entries.find? ·) (funext fun e => ?_))
    by_cases key : e.1 = x
    · simp [key, other]
    · simp [key]

theorem lookup_root (t : Tree) : t.lookup [] = some .directory := if_pos rfl

/-- What is not a directory is not the root. -/
theorem ne_nil_of_lookup (other : t.lookup at_ ≠ some .directory) : at_ ≠ [] := by
  rintro rfl
  exact other t.lookup_root

/-! ## Walking -/

theorem idle_of_isName (idle : isName piece = false) : piece = "" ∨ piece = "." := by
  by_contra kept
  rw [not_or] at kept
  simp [isName, kept] at idle

theorem not_idle_of_isName (named : isName piece = true) : ¬ (piece = "" ∨ piece = ".") := by
  rintro (rfl | rfl) <;> cases named

/-- Where a piece of a path name leads from a directory. -/
def hop (here : Location) (piece : String) : Location :=
  if piece = "" ∨ piece = "." then here else if piece = ".." then here.dropLast else here ++ [piece]

theorem hop_idle (idle : isName piece = false) : hop here piece = here := if_pos (idle_of_isName idle)

theorem hop_name (named : isName name = true) (down : name ≠ "..") :
    hop here name = here ++ [name] := by
  rw [hop, if_neg (not_idle_of_isName named), if_neg down]

theorem walk_nil_eq (t : Tree) (here : Location) : t.walk here [] =
    match t.lookup here with
    | some node => .ok (.present here node)
    | none => .error .noEntry := rfl

theorem walk_cons_eq (t : Tree) (here : Location) (piece : String) (rest : List String) :
    t.walk here (piece :: rest) =
      match t.lookup here with
      | none => .error .noEntry
      | some (.file _) => .error .notDirectory
      | some .directory =>
        if piece = "" ∨ piece = "." then t.walk here rest
        else if piece = ".." then t.walk here.dropLast rest
        else
          match t.lookup (here ++ [piece]) with
          | some _ => t.walk (here ++ [piece]) rest
          | none =>
            if rest.all (· == "") then .ok (.free (here ++ [piece]) (!rest.isEmpty))
            else .error .noEntry := rfl

theorem walk_of_lookup_none (missing : t.lookup here = none) :
    t.walk here pieces = .error .noEntry := by
  cases pieces with
  | nil => rw [walk_nil_eq, missing]
  | cons piece rest => rw [walk_cons_eq, missing]

/-- A walk along any piece starts in a directory. -/
theorem directory_of_walk_cons {target : Target} (walked : t.walk here (piece :: rest) = .ok target) :
    t.lookup here = some .directory := by
  rw [walk_cons_eq] at walked
  cases looked : t.lookup here with
  | none =>
    rw [looked] at walked
    cases walked
  | some node =>
    cases node with
    | file content =>
      rw [looked] at walked
      cases walked
    | directory => rfl

theorem walk_idle (dir : t.lookup here = some .directory) (idle : isName piece = false) :
    t.walk here (piece :: rest) = t.walk here rest := by
  rw [walk_cons_eq, dir]
  exact if_pos (idle_of_isName idle)

theorem walk_up (dir : t.lookup here = some .directory) :
    t.walk here (".." :: rest) = t.walk here.dropLast rest := by
  rw [walk_cons_eq, dir]
  rfl

theorem walk_name (dir : t.lookup here = some .directory) (named : isName name = true)
    (down : name ≠ "..") : t.walk here (name :: rest) =
      match t.lookup (here ++ [name]) with
      | some _ => t.walk (here ++ [name]) rest
      | none =>
        if rest.all (· == "") then .ok (.free (here ++ [name]) (!rest.isEmpty))
        else .error .noEntry := by
  rw [walk_cons_eq, dir]
  exact (if_neg (not_idle_of_isName named)).trans (if_neg down)

theorem walk_free_iff {target : Target} (dir : t.lookup here = some .directory)
    (named : isName name = true) (down : name ≠ "..") (free : t.lookup (here ++ [name]) = none) :
    t.walk here (name :: rest) = .ok target ↔
      (∀ p ∈ rest, p = "") ∧ target = .free (here ++ [name]) (!rest.isEmpty) := by
  have blank : rest.all (· == "") = true ↔ ∀ p ∈ rest, p = "" := by
    simp only [List.all_eq_true, beq_iff_eq]
  rw [walk_name dir named down, free, ← blank]
  dsimp only
  split
  next all => exact ⟨fun eq => ⟨all, (Except.ok.inj eq).symm⟩, fun both => congrArg _ both.2.symm⟩
  next some_ => exact iff_of_false nofun fun both => some_ both.1

/-- A walk goes on from where its first piece leads, or ends there at a name that is free. -/
theorem walk_cons {target : Target} :
    t.walk here (piece :: rest) = .ok target ↔ t.lookup here = some .directory ∧
      (t.walk (hop here piece) rest = .ok target ∨
        isName piece = true ∧ piece ≠ ".." ∧ t.lookup (here ++ [piece]) = none ∧
          (∀ p ∈ rest, p = "") ∧ target = .free (here ++ [piece]) (!rest.isEmpty)) := by
  by_cases dir : t.lookup here = some .directory
  · rw [and_iff_right dir]
    cases named : isName piece with
    | false =>
      rw [walk_idle dir named, hop_idle named]
      exact (or_iff_left fun both => Bool.false_ne_true both.1).symm
    | true =>
      by_cases up : piece = ".."
      · subst up
        rw [walk_up dir]
        exact (or_iff_left fun both => both.2.1 rfl).symm
      · rw [hop_name named up]
        cases there : t.lookup (here ++ [piece]) with
        | some node =>
          rw [walk_name dir named up, there]
          exact (or_iff_left fun both => nomatch both.2.2.1).symm
        | none =>
          rw [walk_free_iff dir named up there, walk_of_lookup_none there, or_iff_right nofun]
          exact ⟨fun both => ⟨rfl, up, rfl, both⟩, fun all => all.2.2.2⟩
  · exact iff_of_false (fun walked => dir (directory_of_walk_cons walked)) fun both => dir both.1

theorem walk_cons_present : t.walk here (piece :: rest) = .ok (.present b node) ↔
    t.lookup here = some .directory ∧ t.walk (hop here piece) rest = .ok (.present b node) := by
  rw [walk_cons]
  simp

theorem walk_nil_ne_free {slash : Bool} : t.walk here [] ≠ .ok (.free b slash) := by
  rw [walk_nil_eq]
  split <;> nofun

theorem walk_nil : t.walk here [] = .ok (.present b node) ↔ here = b ∧ t.lookup b = some node := by
  rw [walk_nil_eq]
  constructor
  · intro walked
    split at walked
    next found =>
      cases walked
      exact ⟨rfl, found⟩
    next => cases walked
  · rintro ⟨rfl, found⟩
    rw [found]

/-- A walk to a directory starts in one. -/
theorem directory_of_walk (walked : t.walk here pieces = .ok (.present d .directory)) :
    t.lookup here = some .directory ∧ t.lookup d = some .directory := by
  induction pieces generalizing here with
  | nil =>
    obtain ⟨rfl, found⟩ := walk_nil.mp walked
    exact ⟨found, found⟩
  | cons piece rest ih =>
    obtain ⟨dir, later⟩ := walk_cons_present.mp walked
    exact ⟨dir, (ih later).2⟩

theorem lookup_of_walk (walked : t.walk here pieces = .ok (.present b node)) :
    t.lookup b = some node := by
  induction pieces generalizing here with
  | nil => exact (walk_nil.mp walked).2
  | cons piece rest ih => exact ih (walk_cons_present.mp walked).2

theorem lookup_of_walk_free {slash : Bool} (walked : t.walk here pieces = .ok (.free b slash)) :
    t.lookup b = none ∧ b ≠ [] := by
  induction pieces generalizing here with
  | nil => exact absurd walked walk_nil_ne_free
  | cons piece rest ih =>
    obtain ⟨-, later | ⟨-, -, free, -, here_⟩⟩ := walk_cons.mp walked
    · exact ih later
    · cases here_
      exact ⟨free, List.append_ne_nil_of_right_ne_nil _ (List.cons_ne_nil _ _)⟩

/-- To a directory a walk can leave out the pieces that name nothing. -/
theorem walk_filter :
    t.walk here (pieces.filter isName) = .ok (.present d .directory) ↔
      t.walk here pieces = .ok (.present d .directory) := by
  induction pieces generalizing here with
  | nil => rfl
  | cons piece rest ih =>
    cases named : isName piece with
    | true => rw [List.filter_cons_of_pos named, walk_cons_present, walk_cons_present, ih]
    | false =>
      rw [List.filter_cons_of_neg (Bool.eq_false_iff.mp named), ih, walk_cons_present,
        hop_idle named]
      exact ⟨fun walked => ⟨(directory_of_walk walked).1, walked⟩, And.right⟩

/-- Whatever a walk comes to, the names before the last lead to a directory. -/
theorem exists_above_of_walk {target : Target} (some_ : pieces ≠ [])
    (walked : t.walk here pieces = .ok target) :
    ∃ d, t.walk here (pieces.filter isName).dropLast = .ok (.present d .directory) := by
  induction pieces generalizing here with
  | nil => exact absurd rfl some_
  | cons piece rest ih =>
    obtain ⟨dir, goesOn⟩ := walk_cons.mp walked
    have stop : t.walk here [] = .ok (.present here .directory) := walk_nil.mpr ⟨rfl, dir⟩
    cases named : isName piece with
    | false =>
      rw [List.filter_cons_of_neg (Bool.eq_false_iff.mp named)]
      cases rest with
      | nil => exact ⟨here, stop⟩
      | cons next rest =>
        rcases goesOn with later | ⟨isNamed, -⟩
        · rw [hop_idle named] at later
          exact ih (List.cons_ne_nil _ _) later
        · rw [named] at isNamed
          cases isNamed
    | true =>
      rw [List.filter_cons_of_pos named]
      cases eq : rest.filter isName with
      | nil => exact ⟨here, stop⟩
      | cons n ns =>
        rw [List.dropLast_cons_of_ne_nil (List.cons_ne_nil n ns), ← eq]
        rcases goesOn with later | ⟨-, -, -, blank, -⟩
        · have more : rest ≠ [] := by
            rintro rfl
            cases eq
          obtain ⟨d, above⟩ := ih more later
          exact ⟨d, walk_cons_present.mpr ⟨dir, above⟩⟩
        · have among : n ∈ rest.filter isName := eq ▸ List.mem_cons_self
          obtain ⟨inside, isNamed⟩ := List.mem_filter.mp among
          rw [blank n inside] at isNamed
          cases isNamed

/-- A walk goes on from the directory that its first part leads to. -/
theorem walk_append {target : Target} (walked : t.walk here init = .ok (.present d .directory))
    (later : t.walk d pieces = .ok target) : t.walk here (init ++ pieces) = .ok target := by
  induction init generalizing here with
  | nil =>
    obtain ⟨rfl, -⟩ := walk_nil.mp walked
    exact later
  | cons piece rest ih =>
    obtain ⟨dir, goesOn⟩ := walk_cons_present.mp walked
    exact walk_cons.mpr ⟨dir, .inl (ih goesOn)⟩

/-- A name behind the way to a directory leads to the entry of that name, if there is one. -/
theorem walk_snoc (walked : t.walk here init = .ok (.present d .directory))
    (named : isName name = true) (down : name ≠ "..") :
    t.walk here (init ++ [name]) = .ok (match t.lookup (d ++ [name]) with
      | some node => .present (d ++ [name]) node
      | none => .free (d ++ [name]) false) := by
  refine walk_append walked (walk_cons.mpr ⟨(directory_of_walk walked).2, ?_⟩)
  rw [hop_name named down]
  cases there : t.lookup (d ++ [name]) with
  | some node => exact .inl (walk_nil.mpr ⟨rfl, there⟩)
  | none => exact .inr ⟨named, down, rfl, nofun, rfl⟩

/-! ## Trees with the same directories -/

/-- All directories of a tree are in another one too. -/
def Keeps (t u : Tree) : Prop := ∀ x, t.lookup x = some .directory → u.lookup x = some .directory

theorem Keeps.trans {v : Tree} (first : Keeps t u) (second : Keeps u v) : Keeps t v :=
  fun x dir => second x (first x dir)

/-- Where the directories are kept, an entry that has not changed is found the same way. -/
theorem Keeps.walk_present (keeps : Keeps t u) (same : u.lookup b = t.lookup b)
    (walked : t.walk here pieces = .ok (.present b node)) :
    u.walk here pieces = .ok (.present b node) := by
  induction pieces generalizing here with
  | nil =>
    obtain ⟨rfl, found⟩ := walk_nil.mp walked
    exact walk_nil.mpr ⟨rfl, same.trans found⟩
  | cons piece rest ih =>
    obtain ⟨dir, later⟩ := walk_cons_present.mp walked
    exact walk_cons_present.mpr ⟨keeps _ dir, ih later⟩

theorem Keeps.walk (keeps : Keeps t u) (walked : t.walk here pieces = .ok (.present d .directory)) :
    u.walk here pieces = .ok (.present d .directory) := by
  have found := lookup_of_walk walked
  exact keeps.walk_present ((keeps d found).trans found.symm) walked

/-- The pieces of a path lead to a file, or to a place where one can be put. -/
def Seats (t : Tree) (here : Location) (pieces : List String) (b : Location) : Prop :=
  (∃ content, t.walk here pieces = .ok (.present b (.file content))) ∨
    t.walk here pieces = .ok (.free b false)

/-- A file that is put where the pieces lead is found there. -/
theorem Keeps.walk_seat (keeps : Keeps t u) (seat : t.Seats here pieces b)
    (there : u.lookup b = some (.file content)) :
    u.walk here pieces = .ok (.present b (.file content)) := by
  induction pieces generalizing here with
  | nil =>
    rcases seat with ⟨before, walked⟩ | walked
    · exact walk_nil.mpr ⟨(walk_nil.mp walked).1, there⟩
    · exact absurd walked walk_nil_ne_free
  | cons piece rest ih =>
    rcases seat with ⟨before, walked⟩ | walked
    · obtain ⟨dir, later⟩ := walk_cons_present.mp walked
      exact walk_cons_present.mpr ⟨keeps _ dir, ih (.inl ⟨before, later⟩)⟩
    · obtain ⟨dir, later | ⟨named, down, -, -, here_⟩⟩ := walk_cons.mp walked
      · exact walk_cons_present.mpr ⟨keeps _ dir, ih (.inr later)⟩
      · cases rest with
        | nil =>
          cases here_
          exact walk_cons_present.mpr
            ⟨keeps _ dir, walk_nil.mpr ⟨hop_name named down, there⟩⟩
        | cons next rest => cases here_

/-- A directory that is put where a name is free is found there, also behind slashes. -/
theorem Keeps.walk_free {slash : Bool} (keeps : Keeps t u)
    (walked : t.walk here pieces = .ok (.free b slash)) (there : u.lookup b = some .directory) :
    u.walk here pieces = .ok (.present b .directory) := by
  induction pieces generalizing here with
  | nil => exact absurd walked walk_nil_ne_free
  | cons piece rest ih =>
    obtain ⟨dir, later | ⟨named, down, -, blank, here_⟩⟩ := walk_cons.mp walked
    · exact walk_cons_present.mpr ⟨keeps _ dir, ih later⟩
    · cases here_
      have idle : rest.filter isName = [] := by
        refine List.filter_eq_nil_iff.mpr fun p among isNamed => ?_
        rw [blank p among] at isNamed
        cases isNamed
      refine walk_cons_present.mpr ⟨keeps _ dir, walk_filter.mp ?_⟩
      rw [idle]
      exact walk_nil.mpr ⟨hop_name named down, there⟩

/-! ## Trees that differ in contents -/

/-- The same names are taken in both trees, by directories in both or by files in both. -/
structure Alike (t u : Tree) : Prop where
  free : ∀ x, t.lookup x = none ↔ u.lookup x = none
  directory : ∀ x, t.lookup x = some .directory ↔ u.lookup x = some .directory

theorem Alike.file (alike : Alike t u) (x : Location) :
    (∃ content, t.lookup x = some (.file content)) ↔
      ∃ content, u.lookup x = some (.file content) := by
  have other : ∀ v : Tree, (∃ content, v.lookup x = some (.file content)) ↔
      ¬ v.lookup x = none ∧ ¬ v.lookup x = some .directory := by
    intro v
    rcases v.lookup x with _ | _ | _ <;> simp
  rw [other, other, alike.free, alike.directory]

theorem seats_nil : t.Seats here [] b ↔ here = b ∧ ∃ content, t.lookup b = some (.file content) := by
  rw [Seats, or_iff_left walk_nil_ne_free]
  simp only [walk_nil, exists_and_left]

theorem seats_cons : t.Seats here (piece :: rest) b ↔ t.lookup here = some .directory ∧
    (t.Seats (hop here piece) rest b ∨ isName piece = true ∧ piece ≠ ".." ∧
      t.lookup (here ++ [piece]) = none ∧ (∀ p ∈ rest, p = "") ∧
        Target.free b false = .free (here ++ [piece]) (!rest.isEmpty)) := by
  rw [Seats, Seats, walk_cons]
  simp only [walk_cons_present, exists_and_left]
  rw [← and_or_left, or_assoc]

/-- Where a file can be put does not depend on what the files hold. -/
theorem Alike.seats (alike : Alike t u) : t.Seats here pieces b ↔ u.Seats here pieces b := by
  induction pieces generalizing here with
  | nil => rw [seats_nil, seats_nil, alike.file]
  | cons piece rest ih => rw [seats_cons, seats_cons, ih, alike.directory, alike.free]

end Snippet.Files.Tree
