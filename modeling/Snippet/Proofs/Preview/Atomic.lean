import Snippet.Proofs.Files.Changes
import Snippet.Proofs.Preview.FileContents

/-!
# A preview file is replaced whole or left alone

The staging name is another name in the directory of the preview file, whatever the path looks like
(`exists_name`), so writing under it never touches the file (`place_ne`). A replacement that succeeds
changes two entries, the file and the staging file, which is gone, and makes directories on the way; one
that fails leaves the file what it was (`replace_atomic`). Only a path that climbs out of a directory that
was missing may lead to something it did not lead to before, when that directory has been made.
-/

namespace Snippet.Preview.FilePlace

open Snippet.Files Snippet.Text

variable {p : FilePlace} {t : Volume} {u v : Tree} {a b d x : Location} {html : String} {e : Fault}
  {node : Node} {stem : String} {goal : Tree.Target}

/-- What the path of the preview file leads to, if it leads to anything. -/
def node? (p : FilePlace) (t : Tree) : Option Node :=
  match t.resolve p.from_ p.path with
  | .ok (.present _ node) => some node
  | _ => none

theorem node?_eq_some_iff :
    p.node? u = some node ↔ ∃ b, u.resolve p.from_ p.path = .ok (.present b node) := by
  unfold node?
  split
  next b node' found =>
    rw [found]
    constructor
    · intro same
      cases same
      exact ⟨b, rfl⟩
    · intro there
      obtain ⟨b', same⟩ := there
      cases same
      rfl
  next other => exact iff_of_false nofun fun there => other _ _ there.choose_spec

/-! ## Names -/

/-- The file has another name than the staging file. -/
theorem exists_name (has : stem? p.path = some stem) :
    ∃ name, names p.path = p.way ++ [name] ∧ name ≠ ".." ∧ name ≠ stem ++ "." ++ "html.partial" := by
  obtain ⟨name, fileName, rfl⟩ := Option.map_eq_some_iff.mp has
  obtain ⟨⟨init, file⟩, down⟩ := names_of_fileName? fileName
  refine ⟨name, ?_, down, ne_splitName name (by decide)⟩
  rw [way, file, List.dropLast_concat]

/-- A path without a file name leads to directories only. -/
theorem exists_stem_of_seat (seat : t.Seat p.from_ p.staging a) :
    ∃ stem, stem? p.path = some stem := by
  cases has : stem? p.path with
  | some stem => exact ⟨stem, rfl⟩
  | none =>
    exfalso
    have ends := names_of_stem?_none has
    rw [staging_of_stem?_none has] at seat
    have directory : ∀ goal, t.resolve p.from_ p.path = .ok goal → ∃ d, goal = .present d .directory :=
      fun goal found =>
        t.directory_of_walk (segments_ne_nil p.path) ends (Tree.resolve_eq_ok_iff.mp found).2
    rcases seat with ⟨before, found⟩ | found
    · obtain ⟨d, same⟩ := directory _ found
      cases same
    · obtain ⟨d, same⟩ := directory _ found
      cases same

/-! ## Places -/

/-- The staging file is, or could be, in the directory that the way leads to. -/
theorem place_of_seat (has : stem? p.path = some stem) (seat : u.Seat p.from_ p.staging a) :
    ∃ d, u.walk p.origin p.way = .ok (.present d .directory) ∧
      a = d ++ [stem ++ "." ++ "html.partial"] := by
  obtain ⟨goal, staged, rfl⟩ := seat.resolve
  rw [← start_staging]
  exact Tree.exists_place_of_walk (names_staging has) (isName_staging stem).2
    (Tree.resolve_eq_ok_iff.mp staged).2

/-- Where the staging file is, or could be, the path of the preview file does not lead to, now or when
there are more directories. -/
theorem place_ne (seat : t.Seat p.from_ p.staging a) (keeps : Tree.Keeps t.toTree u)
    (found : u.resolve p.from_ p.path = .ok goal) : goal.place ≠ a := by
  obtain ⟨stem, has⟩ := exists_stem_of_seat seat
  obtain ⟨name, file, down, apart⟩ := exists_name has
  obtain ⟨d, above, rfl⟩ := place_of_seat has seat
  obtain ⟨d', above', place⟩ :=
    Tree.exists_place_of_walk file down (Tree.resolve_eq_ok_iff.mp found).2
  cases (keeps.walk above).symm.trans above'
  rw [place]
  intro same
  exact apart (List.singleton_inj.mp (List.append_cancel_left same))

/-- Where the staging file could be and is not, its name is free. -/
theorem resolve_staging_free (seat : t.Seat p.from_ p.staging a)
    (keeps : Tree.Keeps t.toTree v) (gone : v.lookup a = none) :
    v.resolve p.from_ p.staging = .ok (.free a false) := by
  obtain ⟨stem, has⟩ := exists_stem_of_seat seat
  obtain ⟨d, above, rfl⟩ := place_of_seat has seat
  rw [resolve_staging has (keeps.walk above), gone]

/-- A file that is put where the staging file can be does not change what the path leads to. -/
theorem node?_put (seat : t.Seat p.from_ p.staging a) (content : List UInt8) :
    p.node? (t.put a (.file content)) = p.node? t.toTree := by
  obtain ⟨other, place⟩ := seat.lookup_ne
  have there : Tree.Keeps t.toTree (t.put a (.file content)) := Tree.keeps_put other
  have back : Tree.Keeps (t.put a (.file content)) t.toTree := by
    intro x dir
    rw [Tree.lookup_put place] at dir
    split at dir
    next => cases dir
    next => exact dir
  have same : ∀ x ≠ a, (t.put a (.file content)).lookup x = t.lookup x := fun x apart => by
    rw [Tree.lookup_put place, if_neg apart]
  apply Option.ext
  intro node
  rw [node?_eq_some_iff, node?_eq_some_iff]
  constructor
  · intro found
    obtain ⟨b, found⟩ := found
    have apart : b ≠ a := place_ne seat there found
    obtain ⟨some_, walked⟩ := Tree.resolve_eq_ok_iff.mp found
    exact ⟨b, Tree.resolve_eq_ok_iff.mpr ⟨some_, back.walk_present (same b apart).symm walked⟩⟩
  · intro found
    obtain ⟨b, found⟩ := found
    have apart : b ≠ a := place_ne seat (fun _ dir => dir) found
    obtain ⟨some_, walked⟩ := Tree.resolve_eq_ok_iff.mp found
    exact ⟨b, Tree.resolve_eq_ok_iff.mpr ⟨some_, there.walk_present (same b apart) walked⟩⟩

/-! ## The first step -/

/-- The path climbs out of a directory that is missing. -/
def Detour (p : FilePlace) (t : Tree) : Prop := ¬ t.Straight p.origin (names p.path)

theorem paved_prepare (p : FilePlace) (t : Tree) : Tree.Paved p.origin p.way t (p.prepare t).1 := by
  unfold prepare
  split
  next dir above =>
    have paved := Tree.paved_createDirectories t p.from_ dir
    rwa [Tree.start_of_parent? above, (above_of_parent? above).1] at paved
  next => exact .refl _ _ t

theorem rooted_prepare (p : FilePlace) (t : Volume) : (p.prepare t.toTree).1.Rooted := by
  unfold prepare
  split
  next dir _ => exact t.rooted.makeDirectories p.from_ _ dir
  next => exact t.rooted

/-- What the first step leaves. -/
def prepared (p : FilePlace) (t : Volume) : Volume := ⟨(p.prepare t.toTree).1, rooted_prepare p t⟩

/-- What the path leads to is in a directory, so nothing has to be made for it. -/
theorem prepare_of_resolve (found : u.resolve p.from_ p.path = .ok goal) :
    p.prepare u = (u, .ok ()) := by
  unfold prepare
  split
  next dir above => exact Tree.createDirectories_of_isDirectory (Tree.isDirectory_above found above)
  next => rfl

theorem prepare_of_node? (there : p.node? u ≠ none) : p.prepare u = (u, .ok ()) := by
  obtain ⟨node, some_⟩ := Option.ne_none_iff_exists'.mp there
  obtain ⟨b, found⟩ := node?_eq_some_iff.mp some_
  exact prepare_of_resolve found

theorem node?_of_unresolved (nowhere : ∀ goal, u.resolve p.from_ p.path ≠ .ok goal) :
    p.node? u = none := by
  by_contra there
  obtain ⟨node, some_⟩ := Option.ne_none_iff_exists'.mp there
  obtain ⟨b, found⟩ := node?_eq_some_iff.mp some_
  exact nowhere _ found

/-- In a directory that is new the path leads to nothing, unless it climbs out of it. -/
theorem node?_of_fresh (straight : v.Straight p.origin (names p.path))
    (fresh : Tree.Fresh p.origin p.way v u) : p.node? u = none := by
  have some_ : names p.path ≠ [] := by
    intro none_
    apply fresh.named
    rw [way, none_, List.dropLast_nil]
  have ends : names p.path = p.way ++ [(names p.path).getLast some_] :=
    (List.dropLast_append_getLast some_).symm
  have down : (names p.path).getLast some_ ≠ ".." := by
    intro climbs
    rw [climbs] at ends
    obtain ⟨d, above⟩ := straight p.way (ends ▸ List.prefix_rfl)
    exact fresh.missing d above
  by_contra there
  obtain ⟨node, entry⟩ := Option.ne_none_iff_exists'.mp there
  obtain ⟨b, found⟩ := node?_eq_some_iff.mp entry
  exact fresh.not_walk ends down (Tree.resolve_eq_ok_iff.mp found).2

/-- Making the directory of the file does not change what the path leads to, unless it climbs out of a
directory that was missing and led nowhere before. -/
theorem node?_prepare (p : FilePlace) (t : Volume) :
    p.node? (p.prepared t).toTree = p.node? t.toTree ∨ p.node? t.toTree = none ∧ p.Detour t.toTree := by
  show p.node? (p.prepare t.toTree).1 = _ ∨ _
  by_cases there : p.node? t.toTree = none
  · by_cases straight : t.Straight p.origin (names p.path)
    · left
      rcases prepared : p.prepare t.toTree with ⟨u, e | ⟨⟩⟩
      · rw [node?_of_unresolved (resolve_of_prepare_error prepared).1, there]
      · unfold prepare at prepared
        split at prepared
        next dir above =>
          have names_ := (above_of_parent? above).1
          have straight' : t.Straight (Tree.start p.from_ dir) (names dir) := by
            rw [Tree.start_of_parent? above, names_]
            exact straight.of_prefix (List.dropLast_prefix _)
          rcases Tree.fresh_createDirectories straight' prepared with rfl | fresh
          · rfl
          · rw [Tree.start_of_parent? above, names_] at fresh
            rw [node?_of_fresh straight fresh, there]
        next =>
          cases prepared
          rfl
    · exact .inr ⟨there, straight⟩
  · left
    rw [prepare_of_node? there]

/-! ## The replacement -/

/-- A directory on the way to the file that was not there before. -/
def Made (p : FilePlace) (t v : Tree) (x : Location) : Prop :=
  t.lookup x = none ∧ ∃ ms, ms <+: p.way ∧ v.walk p.origin ms = .ok (.present x .directory)

/-- Nothing is new after the first step but what it has made. -/
theorem lookup_or_made (p : FilePlace) (keeps : Tree.Keeps (p.prepared t).toTree v)
    (same : v.lookup x = (p.prepared t).lookup x) : v.lookup x = t.lookup x ∨ p.Made t.toTree v x := by
  rcases paved_prepare p t.toTree x with stays | ⟨free, ms, before, walked⟩
  · exact .inl (same.trans stays)
  · exact .inr ⟨free, ms, before, keeps.walk walked⟩

/-- A replacement that has succeeded has put the page into the file and taken the staging file away;
all else is as the first step has left it. -/
theorem replace_succeeded (replaced : p.replace t.toTree html = (v, .ok ())) :
    ∃ a b, (p.prepared t).Seat p.from_ p.staging a ∧
      v.resolve p.from_ p.path = .ok (.present b (.file (Utf8.encode html))) ∧
      Tree.Keeps (p.prepared t).toTree v ∧ v.lookup a = none ∧
      ∀ x ≠ a, x ≠ b → v.lookup x = (p.prepared t).lookup x := by
  have steps := replaced_replace p t.toTree html
  rw [replaced] at steps
  cases steps with
  | @renamed u _ a prepared seat step =>
    obtain rfl : (p.prepared t).toTree = u := congrArg Prod.fst prepared
    generalize p.prepared t = u at seat step ⊢
    have staged := seat.resolve_put (Utf8.encode html)
    obtain ⟨other, place⟩ := seat.lookup_ne
    have keeps : Tree.Keeps u.toTree (u.put a (.file (Utf8.encode html))) := Tree.keeps_put other
    obtain ⟨-, b, target⟩ := Tree.seat_of_rename step
    obtain ⟨goal, found, rfl⟩ := target.resolve
    have apart : goal.place ≠ a := place_ne seat keeps found
    obtain ⟨v', again, keeps', arrives⟩ := Tree.rename_spec staged target
    cases step.symm.trans again
    cases step.symm.trans (Tree.rename_eq staged target apart.symm)
    have file : (u.put a (.file (Utf8.encode html))).lookup a ≠ some .directory := by
      rw [Tree.lookup_put_self place]
      exact nofun
    refine ⟨a, goal.place, seat, arrives, keeps.trans keeps', ?_, fun x away off => ?_⟩
    · rw [Tree.lookup_put_erase file target.lookup_ne.2, if_neg apart.symm, if_pos rfl]
    · rw [Tree.lookup_put_erase file target.lookup_ne.2, if_neg off, if_neg away,
        Tree.lookup_put place, if_neg away]

/-- A replacement keeps every entry in a directory, whatever becomes of it. -/
theorem rooted_replace (p : FilePlace) (t : Volume) (html : String) :
    (p.replace t.toTree html).1.Rooted := by
  have rooted' := rooted_prepare p t
  have steps := replaced_replace p t.toTree html
  generalize p.replace t.toTree html = r at steps ⊢
  cases steps with
  | unprepared prepared =>
    rw [prepared] at rooted'
    exact rooted'
  | unwritten prepared none_ =>
    rw [prepared] at rooted'
    exact rooted'
  | unnamed prepared seat none_ =>
    rw [prepared] at rooted'
    exact rooted'.write seat _
  | renamed prepared seat step =>
    rw [prepared] at rooted'
    exact (rooted'.write seat _).rename step

/-! ## All or nothing -/

/-- What a replacement may come to. A success leaves the page in the file and nothing under the staging
name; a failure leaves what the path leads to, and what was written under the staging name. Only a path
that climbs out of a directory that was missing may lead to something where it led to nothing: to what was
there all along, or to a directory that has been made. In both cases all else is as it was, but for
directories made on the way. -/
def Atomic (p : FilePlace) (t : Tree) (html : String) : Tree × Except Fault Unit → Prop
  | (v, .ok ()) => ∃ a b,
      v.resolve p.from_ p.path = .ok (.present b (.file (Utf8.encode html))) ∧
      v.resolve p.from_ p.staging = .ok (.free a false) ∧
      ∀ x, v.lookup x = t.lookup x ∨ p.Made t v x ∨ x = a ∨ x = b
  | (v, .error _) =>
      (p.node? v = p.node? t ∨ p.node? t = none ∧ p.Detour t ∧ ∀ b node,
        v.resolve p.from_ p.path = .ok (.present b node) →
          t.lookup b = some node ∨ node = .directory ∧ p.Made t v b) ∧
      ∀ x, v.lookup x = t.lookup x ∨ p.Made t v x ∨
        v.resolve p.from_ p.staging = .ok (.present x (.file (Utf8.encode html)))

theorem atomic_ok (replaced : p.replace t.toTree html = (v, .ok ())) :
    p.Atomic t.toTree html (v, .ok ()) := by
  obtain ⟨a, b, seat, found, keeps, gone, same⟩ := replace_succeeded replaced
  refine ⟨a, b, found, resolve_staging_free seat keeps gone, fun x => ?_⟩
  by_cases staged : x = a
  · exact .inr (.inr (.inl staged))
  by_cases target : x = b
  · exact .inr (.inr (.inr target))
  · rw [← or_assoc]
    exact .inl (lookup_or_made p keeps (same x staged target))

/-- What is written under the staging name is not what the path leads to. -/
theorem resolve_of_failed (failed : p.replace t.toTree html = (v, .error e))
    (found : v.resolve p.from_ p.path = .ok (.present b node)) :
    v.lookup b = (p.prepared t).lookup b := by
  rcases replace_failed failed with ⟨rfl, -⟩ | ⟨a, seat, rfl⟩
  · rfl
  · obtain ⟨other, place⟩ := seat.lookup_ne
    have apart : b ≠ a := place_ne (t := p.prepared t) seat (Tree.keeps_put other) found
    rw [Tree.lookup_put place, if_neg apart]
    rfl

theorem keeps_of_failed (failed : p.replace t.toTree html = (v, .error e)) :
    Tree.Keeps (p.prepared t).toTree v := by
  rcases replace_failed failed with ⟨rfl, -⟩ | ⟨a, seat, rfl⟩
  · exact fun _ dir => dir
  · exact Tree.keeps_put seat.lookup_ne.1

theorem node?_of_failed (failed : p.replace t.toTree html = (v, .error e)) :
    p.node? v = p.node? (p.prepared t).toTree := by
  rcases replace_failed failed with ⟨rfl, -⟩ | ⟨a, seat, rfl⟩
  · rfl
  · exact node?_put (t := p.prepared t) seat _

theorem atomic_error (failed : p.replace t.toTree html = (v, .error e)) :
    p.Atomic t.toTree html (v, .error e) := by
  have keeps := keeps_of_failed failed
  constructor
  · rw [node?_of_failed failed]
    rcases node?_prepare p t with same | ⟨nowhere, detour⟩
    · exact .inl same
    · refine .inr ⟨nowhere, detour, fun b node found => ?_⟩
      have there := Tree.lookup_of_walk (Tree.resolve_eq_ok_iff.mp found).2
      rcases lookup_or_made p keeps (resolve_of_failed failed found) with same | made
      · exact .inl (same.symm.trans there)
      · obtain ⟨-, ms, -, walked⟩ := id made
        cases there.symm.trans (Tree.lookup_of_walk walked)
        exact .inr ⟨rfl, made⟩
  · intro x
    rcases replace_failed failed with ⟨rfl, -⟩ | ⟨a, seat, rfl⟩
    · rw [← or_assoc]
      exact .inl (lookup_or_made p keeps rfl)
    · obtain ⟨other, place⟩ := seat.lookup_ne
      by_cases staged : x = a
      · subst staged
        exact .inr (.inr (seat.resolve_put _))
      · have same : (Tree.put _ a (.file (Utf8.encode html))).lookup x = (p.prepared t).lookup x :=
          (Tree.lookup_put place).trans (if_neg staged)
        rw [← or_assoc]
        exact .inl (lookup_or_made p keeps same)

/-- Whatever the tree, the path and the page: all of the replacement takes place, or the file is what it
was. -/
theorem replace_atomic (p : FilePlace) (t : Volume) (html : String) :
    p.Atomic t.toTree html (p.replace t.toTree html) := by
  rcases replaced : p.replace t.toTree html with ⟨v, e | ⟨⟩⟩
  · exact atomic_error replaced
  · exact atomic_ok replaced

/-- Over a file and beside a staging file that was left behind. -/
theorem replace_atomic_over_file :
    let p : FilePlace := ⟨["home"], "out/p.html"⟩
    let t : Volume := ⟨⟨[(["home"], .directory), (["home", "out"], .directory),
      (["home", "out", "p.html"], .file [0x61]), (["home", "out", "p.html.partial"], .file [0x62])]⟩,
      by decide⟩
    (p.replace t.toTree "c").2 = .ok () ∧ p.Atomic t.toTree "c" (p.replace t.toTree "c") := by
  intro p t
  exact ⟨by decide +kernel, replace_atomic p t "c"⟩

/-- The path climbs out of a directory that is made for it and has the name of the file: it led to
nothing and leads to that directory then, though the replacement has failed. -/
theorem directory_appears :
    let p : FilePlace := ⟨[], "p.html/../p.html"⟩
    let t : Volume := .empty
    let r := p.replace t.toTree "a"
    r.2 = .error .isDirectory ∧ p.node? t.toTree = none ∧ p.node? r.1 = some .directory := by
  exact ⟨by decide +kernel, by decide +kernel, by decide +kernel⟩

end Snippet.Preview.FilePlace
