import Snippet.Proofs.Files.Operations

/-!
# What operations on files leave alone

A tree is `Rooted` if every entry is in a directory of it; operations on files keep that, and a `Volume`
carries it along. Where the names of two path names differ only in the last one, they lead to two entries of
one directory (`exists_place_of_walk`). Making directories changes nothing but what is on the way (`Paved`), and a
directory that has been made so is empty, unless the way climbs out of one that was missing
(`fresh_createDirectories`).
-/

namespace Snippet.Files.Tree

variable {t u v : Tree} {here a b d x : Location} {node : Node} {pieces ns ms init : List String}
  {name path up source target : String} {from_ : Location} {content : List UInt8} {goal : Target}
  {e : Fault}

/-! ## Places -/

/-- Pieces that name nothing lead nowhere else. -/
theorem walk_of_idle (idle : pieces.filter isName = []) (walked : t.walk here pieces = .ok goal) :
    ∃ node, goal = .present here node ∧ (pieces ≠ [] → node = .directory) := by
  induction pieces with
  | nil =>
    rw [walk_nil_eq] at walked
    split at walked
    next node found =>
      cases walked
      exact ⟨node, rfl, fun some_ => absurd rfl some_⟩
    next => cases walked
  | cons piece rest ih =>
    have none_ : isName piece = false ∧ rest.filter isName = [] := by
      cases named : isName piece with
      | true =>
        rw [List.filter_cons_of_pos named] at idle
        cases idle
      | false =>
        rw [List.filter_cons_of_neg (Bool.eq_false_iff.mp named)] at idle
        exact ⟨rfl, idle⟩
    have dir := directory_of_walk_cons walked
    rw [walk_idle dir none_.1] at walked
    obtain ⟨node, same, -⟩ := ih none_.2 walked
    refine ⟨node, same, fun _ => ?_⟩
    rw [same] at walked
    have found := lookup_of_walk walked
    rw [dir] at found
    exact (Option.some.inj found).symm

/-- The last name is one of an entry of the directory that the names in front of it lead to. -/
theorem exists_place_of_walk (ends : pieces.filter isName = init ++ [name]) (down : name ≠ "..")
    (walked : t.walk here pieces = .ok goal) :
    ∃ d, t.walk here init = .ok (.present d .directory) ∧ goal.place = d ++ [name] := by
  induction pieces generalizing here init with
  | nil => exact absurd ends.symm (List.append_ne_nil_of_right_ne_nil _ (List.cons_ne_nil _ _))
  | cons piece rest ih =>
    obtain ⟨dir, goesOn⟩ := walk_cons.mp walked
    have stop : t.walk here [] = .ok (.present here .directory) := walk_nil.mpr ⟨rfl, dir⟩
    cases named : isName piece with
    | false =>
      rw [List.filter_cons_of_neg (Bool.eq_false_iff.mp named)] at ends
      rcases goesOn with later | ⟨isNamed, -⟩
      · rw [hop_idle named] at later
        exact ih ends later
      · rw [named] at isNamed
        cases isNamed
    | true =>
      rw [List.filter_cons_of_pos named] at ends
      cases init with
      | nil =>
        obtain ⟨rfl, idle⟩ := List.cons.inj ends
        refine ⟨here, stop, ?_⟩
        rcases goesOn with later | ⟨-, -, -, -, rfl⟩
        · rw [hop_name named down] at later
          obtain ⟨node, rfl, -⟩ := walk_of_idle idle later
          rfl
        · rfl
      | cons first init =>
        obtain ⟨rfl, behind⟩ := List.cons.inj ends
        rcases goesOn with later | ⟨-, -, -, blank, -⟩
        · obtain ⟨d, above, place⟩ := ih behind later
          exact ⟨d, walk_cons_present.mpr ⟨dir, above⟩, place⟩
        · have among : name ∈ rest.filter isName :=
            behind ▸ List.mem_append_right _ List.mem_cons_self
          obtain ⟨inside, isNamed⟩ := List.mem_filter.mp among
          rw [blank name inside] at isNamed
          cases isNamed

/-! ## Rooted trees -/

/-- Every entry is in a directory. -/
def Rooted (t : Tree) : Prop := ∀ e ∈ t.entries, t.lookup e.1.dropLast = some .directory

instance (t : Tree) : Decidable t.Rooted :=
  inferInstanceAs (Decidable (∀ e ∈ t.entries, t.lookup e.1.dropLast = some .directory))

theorem rooted_iff : t.Rooted ↔
    ∀ x, t.lookup x ≠ none → t.lookup x.dropLast = some .directory := by
  constructor
  · intro rooted x there
    by_cases root : x = []
    · subst root
      exact t.lookup_root
    · rw [lookup_of_ne_nil root] at there
      obtain ⟨e, found⟩ := Option.ne_none_iff_exists'.mp (mt Option.map_eq_none_iff.mpr there)
      have key := List.find?_some found
      rw [← beq_iff_eq.mp key]
      exact rooted e (List.mem_of_find?_eq_some found)
  · intro above e among
    by_cases root : e.1 = []
    · rw [root]
      exact t.lookup_root
    · apply above
      rw [lookup_of_ne_nil root]
      intro none_
      exact List.find?_eq_none.mp (Option.map_eq_none_iff.mp none_) e among (beq_self_eq_true e.1)

/-- An entry is put into a directory, and takes the place of a directory only if it is one. -/
theorem Rooted.put (rooted : t.Rooted) (place : b ≠ [])
    (above : t.lookup b.dropLast = some .directory)
    (kind : t.lookup b = some .directory → node = .directory) : (t.put b node).Rooted := by
  have stays : ∀ x, t.lookup x = some .directory → (t.put b node).lookup x = some .directory := by
    intro x dir
    rw [lookup_put place]
    split
    next same => rw [kind (same ▸ dir)]
    next => exact dir
  rw [rooted_iff] at rooted ⊢
  intro x there
  apply stays
  rw [lookup_put place] at there
  split at there
  next same =>
    rw [same]
    exact above
  next => exact rooted x there

/-- Below what is no directory nothing is lost. -/
theorem Rooted.erase (rooted : t.Rooted) (other : t.lookup a ≠ some .directory) :
    (t.erase a).Rooted := by
  rw [rooted_iff] at rooted ⊢
  intro x there
  rw [lookup_erase (ne_nil_of_lookup other)] at there
  split at there
  next => exact absurd rfl there
  next => exact keeps_erase other _ (rooted x there)

theorem directory_of_walk_free {slash : Bool} (walked : t.walk here pieces = .ok (.free b slash)) :
    t.lookup b.dropLast = some .directory := by
  induction pieces generalizing here with
  | nil => exact absurd walked walk_nil_ne_free
  | cons piece rest ih =>
    obtain ⟨dir, later | ⟨-, -, -, -, same⟩⟩ := walk_cons.mp walked
    · exact ih later
    · cases same
      rw [List.dropLast_concat]
      exact dir

theorem Rooted.seat (rooted : t.Rooted) (seat : t.Seat from_ path b) :
    t.lookup b.dropLast = some .directory := by
  rcases seat with ⟨before, found⟩ | found
  · apply rooted_iff.mp rooted
    rw [lookup_of_walk (resolve_eq_ok_iff.mp found).2]
    exact nofun
  · exact directory_of_walk_free (resolve_eq_ok_iff.mp found).2

theorem Rooted.write (rooted : t.Rooted) (seat : t.Seat from_ path b) (content : List UInt8) :
    (t.put b (.file content)).Rooted := by
  obtain ⟨other, place⟩ := seat.lookup_ne
  exact rooted.put place (rooted.seat seat) fun dir => absurd dir other

theorem Rooted.makeDirectory (rooted : t.Rooted) (made : t.makeDirectory from_ path = .ok u) :
    u.Rooted := by
  obtain ⟨b, slash, found, rfl⟩ := makeDirectory_eq_ok_iff.mp made
  obtain ⟨-, walked⟩ := resolve_eq_ok_iff.mp found
  exact rooted.put (lookup_of_walk_free walked).2 (directory_of_walk_free walked) fun _ => rfl

theorem Rooted.attempt (rooted : t.Rooted) (from_ : Location) (path : String) :
    (t.attempt from_ path).1.Rooted := by
  unfold Tree.attempt
  split
  next made => exact rooted.makeDirectory made
  next => exact rooted

theorem Rooted.makeDirectories (rooted : t.Rooted) (from_ : Location) (fuel : Nat) (path : String) :
    (makeDirectories from_ fuel t path).1.Rooted := by
  induction fuel generalizing path with
  | zero => exact rooted
  | succ fuel ih =>
    rw [makeDirectories_succ]
    split
    next => exact rooted
    next =>
      split
      next =>
        split
        next => exact rooted
        next up _ =>
          have before := ih up
          rcases made : Tree.makeDirectories from_ fuel t up with ⟨w, e | ⟨⟩⟩
          · rw [made] at before
            exact before
          · rw [made] at before
            exact before.attempt from_ path
      next => exact rooted.attempt from_ path

theorem Rooted.rename (rooted : t.Rooted) (renamed : t.rename from_ source target = .ok u) :
    u.Rooted := by
  obtain ⟨⟨a, content, there⟩, b, seat⟩ := seat_of_rename renamed
  have other : t.lookup a ≠ some .directory := by
    rw [lookup_of_walk (resolve_eq_ok_iff.mp there).2]
    exact nofun
  by_cases same : a = b
  · subst same
    cases renamed.symm.trans (rename_self there seat).1
    exact rooted
  · cases renamed.symm.trans (rename_eq there seat same)
    obtain ⟨otherB, place⟩ := seat.lookup_ne
    refine (rooted.erase other).put place (keeps_erase other _ (rooted.seat seat)) fun dir => ?_
    rw [lookup_erase (ne_nil_of_lookup other), if_neg (Ne.symm same)] at dir
    exact absurd dir otherB

end Snippet.Files.Tree

namespace Snippet.Files

/-- A tree in which every entry is in a directory. -/
structure Volume extends Tree where
  rooted : toTree.Rooted

namespace Volume

/-- A root directory with nothing in it. -/
def empty : Volume := ⟨.empty, nofun⟩

/-- The tree with a directory, and those above it, as far as they could be made. -/
def withDirectories (t : Volume) (from_ : Location) (fuel : Nat) (path : String) : Volume :=
  ⟨(Tree.makeDirectories from_ fuel t.toTree path).1, t.rooted.makeDirectories from_ fuel path⟩

variable {here : Location} {pieces : List String} {goal : Tree.Target}

/-- The names lead to a directory, if to anything, where they end by going up or are none at all. -/
theorem directory_of_walk (t : Volume) (some_ : pieces ≠ [])
    (ends : pieces.filter isName = [] ∨ ∃ init, pieces.filter isName = init ++ [".."])
    (walked : t.walk here pieces = .ok goal) : ∃ d, goal = .present d .directory := by
  induction pieces generalizing here with
  | nil => exact absurd rfl some_
  | cons piece rest ih =>
    have dir := Tree.directory_of_walk_cons walked
    cases named : isName piece with
    | false =>
      rw [Tree.walk_idle dir named] at walked
      rw [List.filter_cons_of_neg (Bool.eq_false_iff.mp named)] at ends
      cases rest with
      | nil =>
        have stop : t.walk here [] = .ok (.present here .directory) := Tree.walk_nil.mpr ⟨rfl, dir⟩
        exact ⟨here, (Except.ok.inj (stop.symm.trans walked)).symm⟩
      | cons next rest => exact ih (List.cons_ne_nil _ _) ends walked
    | true =>
      rw [List.filter_cons_of_pos named] at ends
      obtain ⟨init, ends⟩ := ends.resolve_left (List.cons_ne_nil _ _)
      cases init with
      | nil =>
        obtain ⟨rfl, idle⟩ := List.cons.inj ends
        rw [Tree.walk_up dir] at walked
        have above : t.lookup here.dropLast = some .directory := by
          apply Tree.rooted_iff.mp t.rooted
          rw [dir]
          exact nofun
        obtain ⟨node, rfl, -⟩ := Tree.walk_of_idle idle walked
        have found := Tree.lookup_of_walk walked
        rw [above] at found
        cases found
        exact ⟨_, rfl⟩
      | cons first init =>
        obtain ⟨rfl, behind⟩ := List.cons.inj ends
        have more : rest ≠ [] := by
          intro empty
          rw [empty] at behind
          exact List.append_ne_nil_of_right_ne_nil init (List.cons_ne_nil _ _) behind.symm
        obtain ⟨-, later | ⟨-, -, -, blank, -⟩⟩ := Tree.walk_cons.mp walked
        · exact ih more (.inr ⟨init, behind⟩) later
        · have among : ".." ∈ rest.filter isName :=
            behind ▸ List.mem_append_right _ List.mem_cons_self
          exact absurd (blank ".." (List.mem_filter.mp among).1) (by decide)

end Volume

end Snippet.Files

namespace Snippet.Files.Tree

variable {t u v : Tree} {here b x : Location} {node : Node} {pieces ns ms : List String}
  {name path up : String} {from_ : Location}

/-! ## Directories on the way -/

/-- Nothing is different in the second tree but for directories that the names lead to, one after
another. -/
def Paved (here : Location) (ns : List String) (t u : Tree) : Prop :=
  ∀ x, u.lookup x = t.lookup x ∨
    t.lookup x = none ∧ ∃ ms, ms <+: ns ∧ u.walk here ms = .ok (.present x .directory)

theorem Paved.refl (here : Location) (ns : List String) (t : Tree) : Paved here ns t t :=
  fun _ => .inl rfl

theorem Paved.mono (paved : Paved here ms t u) (shorter : ms <+: ns) : Paved here ns t u := by
  intro x
  rcases paved x with same | ⟨free, ks, before, walked⟩
  · exact .inl same
  · exact .inr ⟨free, ks, before.trans shorter, walked⟩

theorem Paved.trans (first : Paved here ns t u) (second : Paved here ns u v) (keeps : Keeps u v) :
    Paved here ns t v := by
  intro x
  rcases second x with same | ⟨free, ms, before, walked⟩
  · rcases first x with same' | ⟨free, ms, before, walked⟩
    · exact .inl (same.trans same')
    · exact .inr ⟨free, ms, before, keeps.walk walked⟩
  · rcases first x with same' | ⟨free', -⟩
    · exact .inr ⟨same' ▸ free, ms, before, walked⟩
    · exact .inr ⟨free', ms, before, walked⟩

theorem paved_makeDirectory (made : t.makeDirectory from_ path = .ok u) :
    Paved (start from_ path) (names path) t u := by
  obtain ⟨grows, -⟩ := makeDirectory_spec made
  obtain ⟨b, slash, found, rfl⟩ := makeDirectory_eq_ok_iff.mp made
  obtain ⟨-, walked⟩ := resolve_eq_ok_iff.mp found
  obtain ⟨free, place⟩ := lookup_of_walk_free walked
  intro x
  by_cases same : x = b
  · subst same
    have arrives := walk_filter.mpr (grows.keeps.walk_free walked (lookup_put_self place))
    exact .inr ⟨free, names path, List.prefix_rfl, arrives⟩
  · exact .inl (by rw [lookup_put place, if_neg same])

theorem paved_attempt (t : Tree) (from_ : Location) (path : String) :
    Paved (start from_ path) (names path) t (t.attempt from_ path).1 := by
  unfold attempt
  split
  next made => exact paved_makeDirectory made
  next => exact .refl _ _ t

theorem paved_makeDirectories {fuel : Nat} (enough : (parts path).length < fuel) :
    Paved (start from_ path) (names path) t (makeDirectories from_ fuel t path).1 := by
  induction fuel generalizing path with
  | zero => exact absurd enough (Nat.not_lt_zero _)
  | succ fuel ih =>
    rw [makeDirectories_succ]
    split
    next => exact .refl _ _ t
    next here =>
      split
      next =>
        split
        next => exact .refl _ _ t
        next up above =>
          have shorter := length_parts_of_parent? above
          obtain ⟨names_, -, -, -⟩ := above_of_parent? above
          have before : Paved (start from_ up) (names up) t (makeDirectories from_ fuel t up).1 :=
            ih (by omega)
          rw [start_of_parent? above, names_] at before
          have paved := before.mono (List.dropLast_prefix (names path))
          rcases made : Tree.makeDirectories from_ fuel t up with ⟨w, e | ⟨⟩⟩
          · rw [made] at paved
            exact paved
          · rw [made] at paved
            have tried : Prepared from_ path w (w.attempt from_ path) := prepared_attempt here
            exact paved.trans (paved_attempt w from_ path) tried.grows.keeps
      next => exact paved_attempt t from_ path

theorem paved_createDirectories (t : Tree) (from_ : Location) (path : String) :
    Paved (start from_ path) (names path) t (t.createDirectories from_ path).1 :=
  paved_makeDirectories (Nat.lt_succ_of_le (length_parts_le path))

/-! ## New directories -/

/-- The names go up only where those before them lead to a directory. -/
def Straight (t : Tree) (here : Location) (ns : List String) : Prop :=
  ∀ ms, ms ++ [".."] <+: ns → ∃ d, t.walk here ms = .ok (.present d .directory)

theorem Straight.of_prefix (straight : t.Straight here ns) (shorter : ms <+: ns) :
    t.Straight here ms := fun _ before => straight _ (before.trans shorter)

/-- The names lead to a directory, which is new and has nothing in it. -/
structure Fresh (here : Location) (ns : List String) (t u : Tree) : Prop where
  missing : ∀ d, t.walk here ns ≠ .ok (.present d .directory)
  named : ns ≠ []
  empty : ∃ b, u.walk here ns = .ok (.present b .directory) ∧ ∀ name, u.lookup (b ++ [name]) = none

theorem fresh_makeDirectory {t : Volume} (made : t.makeDirectory from_ path = .ok u) :
    Fresh (start from_ path) (names path) t.toTree u := by
  obtain ⟨grows, -⟩ := makeDirectory_spec made
  obtain ⟨b, slash, found, rfl⟩ := makeDirectory_eq_ok_iff.mp made
  obtain ⟨-, walked⟩ := resolve_eq_ok_iff.mp found
  obtain ⟨free, place⟩ := lookup_of_walk_free walked
  refine ⟨fun d arrives => ?_, fun idle => ?_, b, ?_, fun name => ?_⟩
  · cases walked.symm.trans (walk_filter.mp arrives)
  · obtain ⟨node, same, -⟩ := walk_of_idle idle walked
    cases same
  · exact walk_filter.mpr (grows.keeps.walk_free walked (lookup_put_self place))
  · have below : b ++ [name] ≠ b := by simp
    rw [lookup_put place, if_neg below]
    by_contra there
    have above := rooted_iff.mp t.rooted _ there
    rw [List.dropLast_concat, free] at above
    cases above

/-- In a directory that is new no name leads to anything. -/
theorem Fresh.not_walk (fresh : Fresh here ns t u) (ends : pieces.filter isName = ns ++ [name])
    (down : name ≠ "..") : u.walk here pieces ≠ .ok (.present b node) := by
  intro walked
  obtain ⟨d, walked', empty⟩ := fresh.empty
  obtain ⟨d', above, place⟩ := exists_place_of_walk ends down walked
  cases walked'.symm.trans above
  have found := lookup_of_walk walked
  rw [show b = d ++ [name] from place, empty name] at found
  cases found

/-- What is made by an attempt is new, or else all stays as it was. -/
theorem fresh_attempt {t : Volume} (made : t.attempt from_ path = (u, .ok ())) :
    u = t.toTree ∧ t.isDirectory from_ path = true ∨
      Fresh (start from_ path) (names path) t.toTree u := by
  unfold attempt at made
  split at made
  next directory =>
    cases made
    exact .inr (fresh_makeDirectory directory)
  next refused =>
    obtain ⟨rfl, outcome⟩ := Prod.mk.inj made
    split at outcome
    next there => exact .inl ⟨rfl, there⟩
    next => cases outcome

theorem filter_names (path : String) : (names path).filter isName = names path :=
  List.filter_eq_self.mpr fun _ among => (List.mem_filter.mp among).2

/-- The directory above is new or was there, and the path was no directory: then what is made is new. -/
theorem fresh_behind {v : Volume} (above : parent? path = some up)
    (straight : t.Straight (start from_ path) (names path))
    (missing : ∀ d, t.walk (start from_ path) (names path) ≠ .ok (.present d .directory))
    (before : v.toTree = t ∨ Fresh (start from_ up) (names up) t v.toTree)
    (made : v.attempt from_ path = (u, .ok ())) : Fresh (start from_ path) (names path) t u := by
  obtain ⟨names_, -, -, -⟩ := above_of_parent? above
  rw [start_of_parent? above, names_] at before
  rcases fresh_attempt made with ⟨rfl, there⟩ | fresh
  · -- the path is a directory now, so its last name, which does not go up, would be in a new directory
    exfalso
    obtain ⟨-, d, arrives⟩ := isDirectory_iff_walk.mp there
    rcases before with rfl | fresh
    · exact missing d arrives
    have some_ : names path ≠ [] := by
      intro none_
      rw [none_] at fresh
      exact fresh.named rfl
    have ends := (List.dropLast_append_getLast some_).symm
    by_cases climbs : (names path).getLast some_ = ".."
    · rw [climbs] at ends
      obtain ⟨d', above'⟩ := straight _ ⟨[], (List.append_nil _).trans ends.symm⟩
      exact fresh.missing d' above'
    · exact fresh.not_walk ((filter_names path).trans ends) climbs arrives
  · exact ⟨missing, fresh.named, fresh.empty⟩

/-- A directory that has been made is new and empty, unless it was there; only a way that climbs out of a
directory that was missing can lead to something else. -/
theorem fresh_makeDirectories {t : Volume} {fuel : Nat}
    (straight : t.Straight (start from_ path) (names path))
    (made : makeDirectories from_ fuel t.toTree path = (u, .ok ())) :
    u = t.toTree ∨ Fresh (start from_ path) (names path) t.toTree u := by
  induction fuel generalizing path u with
  | zero => cases made
  | succ fuel ih =>
    rw [makeDirectories_succ] at made
    split at made
    next =>
      cases made
      exact .inl rfl
    next here =>
      split at made
      next absent =>
        split at made
        next => cases made
        next up above =>
          obtain ⟨names_, -, -, -⟩ := above_of_parent? above
          have straight' : t.Straight (start from_ up) (names up) := by
            rw [start_of_parent? above, names_]
            exact straight.of_prefix (List.dropLast_prefix _)
          have missing : ∀ d, t.walk (start from_ path) (names path) ≠ .ok (.present d .directory) := by
            intro d arrives
            have other := makeDirectory_noEntry absent
            rw [isDirectory_iff_walk.mpr ⟨here, d, arrives⟩] at other
            cases other
          rcases first : makeDirectories from_ fuel t.toTree up with ⟨w, e | ⟨⟩⟩
          · rw [first] at made
            cases made
          · rw [first] at made
            obtain rfl : (t.withDirectories from_ fuel up).toTree = w := congrArg Prod.fst first
            exact .inr (fresh_behind above straight missing (ih straight' first) made)
      next =>
        rcases fresh_attempt made with ⟨rfl, -⟩ | fresh
        · exact .inl rfl
        · exact .inr fresh

theorem fresh_createDirectories {t : Volume}
    (straight : t.Straight (start from_ path) (names path))
    (made : t.createDirectories from_ path = (u, .ok ())) :
    u = t.toTree ∨ Fresh (start from_ path) (names path) t.toTree u := fresh_makeDirectories straight made

end Snippet.Files.Tree
