import Snippet.Proofs.Files.Operations
import Snippet.Proofs.Preview.Showing

/-!
# What a preview file holds

A preview file is replaced in three steps, its directory, the staging file, the renaming, and each of
them may fail. `Replaced` says once what that can come to, and `replace_ok` and `replace_error` what the
file holds afterwards; then the placeholder that stands in for a document that could not be shown is
followed through the same three steps, and the file through a whole run with changes from outside.
-/

namespace Snippet.Preview

open Snippet.Files Snippet.Text

namespace FilePlace

variable {p : FilePlace} {t u v : Tree} {html stem : String} {e : Fault} {content : List UInt8}
  {d : Location}

/-- The first step of a replacement: the directory of the file is there, or cannot be made. -/
def prepare (p : FilePlace) (t : Tree) : Tree × Except Fault Unit :=
  match parent? p.path with
  | some dir => t.createDirectories p.from_ dir
  | none => (t, .ok ())

/-- What the preview file holds, if it is there. -/
def content? (p : FilePlace) (t : Tree) : Option (List UInt8) := (t.read p.from_ p.path).toOption

theorem content?_eq_some_iff : p.content? t = some content ↔
    ∃ b, t.resolve p.from_ p.path = .ok (.present b (.file content)) := by
  rw [content?, Tree.read]
  split
  next failed => exact iff_of_false nofun fun ⟨b, found⟩ => by cases failed.symm.trans found
  next free => exact iff_of_false nofun fun ⟨b, found⟩ => by cases free.symm.trans found
  next dir => exact iff_of_false nofun fun ⟨b, found⟩ => by cases dir.symm.trans found
  next b before found =>
    rw [found]
    constructor
    · intro same
      cases same
      exact ⟨b, rfl⟩
    · rintro ⟨b', same⟩
      cases same
      rfl

theorem replace_eq : p.replace t html =
    match p.prepare t with
    | (u, .error e) => (u, .error e)
    | (u, .ok ()) =>
      match u.write p.from_ p.staging (Utf8.encode html) with
      | .error e => (u, .error e)
      | .ok u =>
        match u.rename p.from_ p.staging p.path with
        | .error e => (u, .error e)
        | .ok v => (v, .ok ()) := by
  rw [replace, prepare]
  cases parent? p.path with
  | none => rfl
  | some dir =>
    dsimp only
    rcases t.createDirectories p.from_ dir with ⟨u, e | ⟨⟩⟩ <;> rfl

/-! ## Names -/

/-- Where the names of the path are followed from. -/
def origin (p : FilePlace) : Location := Tree.start p.from_ p.path

/-- The way to the directory of the file: the names of its path but the last. -/
def way (p : FilePlace) : List String := (names p.path).dropLast

theorem staging_of_stem?_none (has : stem? p.path = none) : p.staging = p.path := by
  rw [staging, withExtension, has]

/-- The staging file is in the directory of the file. -/
theorem staging_pieces (has : stem? p.path = some stem) :
    Tree.start p.from_ p.staging = p.origin ∧ ∃ init,
      segments p.staging = init ++ [stem ++ "." ++ "html.partial"] ∧ init.filter isName = p.way := by
  obtain ⟨abs, init, pieces, above⟩ :=
    segments_withExtension has (show isName "html.partial" = true by decide) (by decide)
  refine ⟨?_, init, pieces, above⟩
  rw [origin, Tree.start, Tree.start, staging, abs]

theorem isName_staging (stem : String) : isName (stem ++ "." ++ "html.partial") = true ∧
    stem ++ "." ++ "html.partial" ≠ ".." := ne_of_isName_extension stem (by decide)

theorem names_staging (has : stem? p.path = some stem) :
    names p.staging = p.way ++ [stem ++ "." ++ "html.partial"] := by
  obtain ⟨-, init, pieces, above⟩ := staging_pieces has
  unfold names
  rw [pieces, List.filter_append, above, List.filter_cons_of_pos (isName_staging stem).1,
    List.filter_nil]

theorem start_staging (p : FilePlace) : Tree.start p.from_ p.staging = p.origin := by
  cases has : stem? p.path with
  | none => rw [staging_of_stem?_none has, origin]
  | some stem => exact (staging_pieces has).1

theorem dropLast_names_staging (p : FilePlace) : (names p.staging).dropLast = p.way := by
  cases has : stem? p.path with
  | none => rw [staging_of_stem?_none has, way]
  | some stem => rw [names_staging has, List.dropLast_concat]

/-! ## The first step -/

theorem grows_prepare (p : FilePlace) (t : Tree) : Tree.Grows t (p.prepare t).1 := by
  rw [prepare]
  split
  next dir _ => exact (Tree.prepared_createDirectories t p.from_ dir).grows
  next => exact .refl t

/-- Without its directory the path leads nowhere. -/
theorem resolve_of_prepare_error (failed : p.prepare t = (u, .error e)) :
    (∀ goal, u.resolve p.from_ p.path ≠ .ok goal) ∧
      ∀ goal, u.resolve p.from_ p.staging ≠ .ok goal := by
  unfold prepare at failed
  split at failed
  next dir above =>
    have prepared := Tree.prepared_createDirectories t p.from_ dir
    rw [failed] at prepared
    obtain ⟨some_, other⟩ := prepared.refused e rfl
    refine ⟨Tree.isDirectory_of_parent? above some_ other, fun goal found => ?_⟩
    -- the staging name is in the same directory
    obtain ⟨d, walked⟩ := Tree.exists_above_of_walk (segments_ne_nil p.staging)
      (Tree.resolve_eq_ok_iff.mp found).2
    have names_ : ((segments p.staging).filter isName).dropLast = names dir :=
      (dropLast_names_staging p).trans (above_of_parent? above).1.symm
    rw [names_, start_staging, origin, ← Tree.start_of_parent? above] at walked
    rw [Tree.isDirectory_iff_walk.mpr ⟨some_, d, walked⟩] at other
    cases other
  next => cases failed

/-- Without its directory there is no preview file. -/
theorem content?_of_prepare_error (failed : p.prepare t = (u, .error e)) : p.content? u = none := by
  cases there : p.content? u with
  | none => rfl
  | some content =>
    obtain ⟨b, found⟩ := content?_eq_some_iff.mp there
    exact absurd found ((resolve_of_prepare_error failed).1 _)

/-- Where the staging file can be written, the first step has succeeded. -/
theorem prepare_of_seat {a : Location} (seat : (p.prepare t).1.Seat p.from_ p.staging a) :
    p.prepare t = ((p.prepare t).1, .ok ()) := by
  rcases prepared : p.prepare t with ⟨u, e | ⟨⟩⟩
  · rw [prepared] at seat
    obtain ⟨goal, found, -⟩ := seat.resolve
    exact absurd found ((resolve_of_prepare_error prepared).2 goal)
  · rfl

/-- The first step does not come to more the next time. -/
theorem prepare_again (p : FilePlace) (t : Tree) : (p.prepare (p.prepare t).1).1 = (p.prepare t).1 := by
  rw [prepare]
  cases above : parent? p.path with
  | none => rfl
  | some dir =>
    have prepared := Tree.prepared_createDirectories t p.from_ dir
    have same : p.prepare t = t.createDirectories p.from_ dir := by rw [prepare, above]
    dsimp only
    rw [same]
    rcases made : t.createDirectories p.from_ dir with ⟨u, e | ⟨⟩⟩
    · obtain ⟨e', again⟩ := Tree.createDirectories_again made
      rw [again]
    · rw [made] at prepared
      rw [Tree.createDirectories_of_isDirectory (prepared.made rfl)]

/-! ## The staging file -/

theorem resolve_staging (has : stem? p.path = some stem)
    (above : t.walk p.origin p.way = .ok (.present d .directory)) :
    t.resolve p.from_ p.staging =
      .ok (match t.lookup (d ++ [stem ++ "." ++ "html.partial"]) with
        | some node => .present (d ++ [stem ++ "." ++ "html.partial"]) node
        | none => .free (d ++ [stem ++ "." ++ "html.partial"]) false) := by
  obtain ⟨here, init, pieces, way_⟩ := staging_pieces has
  obtain ⟨named, down⟩ := isName_staging stem
  have some_ : p.staging ≠ "" := by
    intro empty
    have only : segments p.staging = [""] := by
      rw [empty]
      rfl
    rw [pieces] at only
    have last := congrArg List.getLast? only
    rw [List.getLast?_concat] at last
    rw [Option.some.inj last] at named
    cases named
  have arrives : t.walk p.origin init = .ok (.present d .directory) := by
    refine Tree.walk_filter.mp ?_
    rw [way_]
    exact above
  refine Tree.resolve_eq_ok_iff.mpr ⟨some_, ?_⟩
  rw [here, pieces]
  exact Tree.walk_snoc arrives named down

/-- Beside a file the staging file can be written, unless there is a directory of its name. -/
theorem staging_of_file (there : p.content? t = some content) :
    (∃ b, t.Seat p.from_ p.staging b) ∨ t.isDirectory p.from_ p.staging = true := by
  obtain ⟨b, found⟩ := content?_eq_some_iff.mp there
  cases has : stem? p.path with
  | none =>
    rw [staging_of_stem?_none has]
    exact .inl ⟨b, .inl ⟨content, found⟩⟩
  | some stem =>
    obtain ⟨-, walked⟩ := Tree.resolve_eq_ok_iff.mp found
    obtain ⟨d, above⟩ := Tree.exists_above_of_walk (segments_ne_nil p.path) walked
    have resolved := resolve_staging has above
    cases entry : t.lookup (d ++ [stem ++ "." ++ "html.partial"]) with
    | none =>
      rw [entry] at resolved
      exact .inl ⟨_, .inr resolved⟩
    | some node =>
      rw [entry] at resolved
      cases node with
      | file before => exact .inl ⟨_, .inl ⟨before, resolved⟩⟩
      | directory => exact .inr (Tree.isDirectory_iff.mpr ⟨_, resolved⟩)

/-! ## The replacement -/

/-- What a replacement comes to, one case for each step that may fail. -/
inductive Replaced (p : FilePlace) (t : Tree) (html : String) : Tree × Except Fault Unit → Prop
  /-- the directory cannot be made -/
  | unprepared {u : Tree} {e : Fault} (prepared : p.prepare t = (u, .error e)) :
      Replaced p t html (u, .error e)
  /-- the staging file cannot be written -/
  | unwritten {u : Tree} {e : Fault} (prepared : p.prepare t = (u, .ok ()))
      (none_ : ∀ a, ¬ u.Seat p.from_ p.staging a) : Replaced p t html (u, .error e)
  /-- the staging file cannot be renamed, and stays -/
  | unnamed {u : Tree} {a : Location} {e : Fault} (prepared : p.prepare t = (u, .ok ()))
      (seat : u.Seat p.from_ p.staging a)
      (none_ : ∀ b, ¬ (u.put a (.file (Utf8.encode html))).Seat p.from_ p.path b) :
      Replaced p t html (u.put a (.file (Utf8.encode html)), .error e)
  /-- the staging file is renamed -/
  | renamed {u v : Tree} {a : Location} (prepared : p.prepare t = (u, .ok ()))
      (seat : u.Seat p.from_ p.staging a)
      (step : (u.put a (.file (Utf8.encode html))).rename p.from_ p.staging p.path = .ok v) :
      Replaced p t html (v, .ok ())

theorem replaced_replace (p : FilePlace) (t : Tree) (html : String) :
    p.Replaced t html (p.replace t html) := by
  rw [replace_eq]
  split
  next prepared => exact .unprepared prepared
  next u prepared =>
    split
    next e unwritten =>
      refine .unwritten prepared fun a seat => ?_
      cases unwritten.symm.trans (Tree.write_eq_ok_iff.mpr ⟨a, seat, rfl⟩)
    next written =>
      obtain ⟨a, seat, rfl⟩ := Tree.write_eq_ok_iff.mp written
      split
      next e unnamed =>
        refine .unnamed prepared seat fun b target => ?_
        obtain ⟨v, renamed, -⟩ := Tree.rename_spec (seat.resolve_put _) target
        cases unnamed.symm.trans renamed
      next step => exact .renamed prepared seat step

/-- A replaced file holds what it was to hold. -/
theorem replace_ok (replaced : p.replace t html = (v, .ok ())) :
    p.content? v = some (Utf8.encode html) := by
  have steps := replaced_replace p t html
  rw [replaced] at steps
  cases steps with
  | renamed _ seat step =>
    obtain ⟨-, b, target⟩ := Tree.seat_of_rename step
    obtain ⟨v', again, -, found⟩ := Tree.rename_spec (seat.resolve_put _) target
    cases step.symm.trans again
    exact content?_eq_some_iff.mpr ⟨b, found⟩

/-- The directory can be made, the staging file can be written, and then it can be renamed. -/
theorem exists_replace_iff : (∃ v, p.replace t html = (v, .ok ())) ↔
    ∃ u, p.prepare t = (u, .ok ()) ∧ ∃ b, u.Seat p.from_ p.staging b ∧
      ∃ d, (u.put b (.file (Utf8.encode html))).Seat p.from_ p.path d := by
  have steps := replaced_replace p t html
  constructor
  · intro able
    obtain ⟨v, replaced⟩ := able
    rw [replaced] at steps
    cases steps with
    | renamed prepared seat step => exact ⟨_, prepared, _, seat, (Tree.seat_of_rename step).2⟩
  · intro able
    obtain ⟨u, prepared, b, seat, d, target⟩ := able
    generalize p.replace t html = r at steps ⊢
    cases steps with
    | unprepared failed => cases failed.symm.trans prepared
    | unwritten prepared' none_ =>
      cases prepared'.symm.trans prepared
      exact absurd seat (none_ b)
    | unnamed prepared' seat' none_ =>
      cases prepared'.symm.trans prepared
      cases seat'.unique seat
      exact absurd target (none_ d)
    | renamed => exact ⟨_, rfl⟩

/-- Where a replacement has failed there is a staging file if one could be put there, and nothing else
that the first step has not left. -/
theorem replace_failed (failed : p.replace t html = (v, .error e)) :
    v = (p.prepare t).1 ∧ (∀ a, ¬ (p.prepare t).1.Seat p.from_ p.staging a) ∨
      ∃ a, (p.prepare t).1.Seat p.from_ p.staging a ∧
        v = (p.prepare t).1.put a (.file (Utf8.encode html)) := by
  have steps := replaced_replace p t html
  rw [failed] at steps
  cases steps with
  | unprepared prepared =>
    rw [prepared]
    refine .inl ⟨rfl, fun a seat => ?_⟩
    obtain ⟨goal, found, -⟩ := seat.resolve
    exact (resolve_of_prepare_error prepared).2 goal found
  | unwritten prepared none_ =>
    rw [prepared]
    exact .inl ⟨rfl, none_⟩
  | unnamed prepared seat none_ =>
    rw [prepared]
    exact .inr ⟨_, seat, rfl⟩

/-- If the file is there after a replacement that failed, it was a directory of the staging name that
stood in the way. -/
theorem replace_error (failed : p.replace t html = (v, .error e)) (there : p.content? v ≠ none) :
    v = (p.prepare t).1 ∧ v.isDirectory p.from_ p.staging = true := by
  obtain ⟨content, here⟩ := Option.ne_none_iff_exists'.mp there
  rcases replace_failed failed with ⟨rfl, none_⟩ | ⟨a, seat, rfl⟩
  · rcases staging_of_file here with ⟨b, seat⟩ | directory
    · exact absurd seat (none_ b)
    · exact ⟨rfl, directory⟩
  · obtain ⟨b, found⟩ := content?_eq_some_iff.mp here
    obtain ⟨w, replaced⟩ :=
      exists_replace_iff.mpr ⟨_, prepare_of_seat seat, a, seat, b, .inl ⟨content, found⟩⟩
    cases failed.symm.trans replaced

/-- With a directory of the staging name nothing is replaced. -/
theorem replace_of_isDirectory (html : String)
    (directory : (p.prepare t).1.isDirectory p.from_ p.staging = true) :
    ∃ e, p.replace t html = ((p.prepare t).1, .error e) := by
  rw [replace_eq]
  rcases prepared : p.prepare t with ⟨u, e | ⟨⟩⟩
  · exact ⟨e, rfl⟩
  · rw [prepared] at directory
    obtain ⟨d, found⟩ := Tree.isDirectory_iff.mp directory
    refine ⟨.isDirectory, ?_⟩
    dsimp only
    rw [Tree.write, found]

theorem showPlaceholder_eq (p : FilePlace) (t : Tree) :
    p.surface.showPlaceholder t = (p.replace t placeholder).1 := rfl

theorem render_of_ok {d : Document} (replaced : p.replace t d.html = (v, .ok ())) :
    p.surface.render t d = (v, true) := by
  rw [surface]
  dsimp only
  rw [replaced]

theorem render_of_error {d : Document} (failed : p.replace t d.html = (v, .error e)) :
    p.surface.render t d = (v, false) := by
  rw [surface]
  dsimp only
  rw [failed]

/-! ## What is shown -/

/-- The file holds what is said to be shown: the document; or the placeholder, if it is there at all. -/
def Faithful (p : FilePlace) (t : Tree) : Option Document → Prop
  | some d => p.content? t = some (Utf8.encode d.html)
  | none => ∀ content, p.content? t = some content → content = Utf8.encode placeholder

/-- A directory has the staging name, while the file holds something else than the placeholder; both
as the first step leaves them. -/
structure Blocked (p : FilePlace) (t : Tree) : Prop where
  directory : (p.prepare t).1.isDirectory p.from_ p.staging = true
  older : ∃ content, p.content? (p.prepare t).1 = some content ∧ content ≠ Utf8.encode placeholder

theorem Blocked.present (blocked : p.Blocked t) (x : Option Document) :
    p.surface.present t x = ((p.prepare t).1, none) := by
  have idle : p.surface.showPlaceholder (p.prepare t).1 = (p.prepare t).1 := by
    have again : (p.prepare (p.prepare t).1).1.isDirectory p.from_ p.staging = true := by
      rw [prepare_again]
      exact blocked.directory
    obtain ⟨e, failed⟩ := replace_of_isDirectory placeholder again
    rw [showPlaceholder_eq, failed, prepare_again]
  cases x with
  | none =>
    obtain ⟨e, failed⟩ := replace_of_isDirectory placeholder blocked.directory
    rw [Surface.present, showPlaceholder_eq, failed]
  | some d =>
    obtain ⟨e, failed⟩ := replace_of_isDirectory d.html blocked.directory
    rw [Surface.present, render_of_error failed]
    dsimp only
    rw [idle]

/-- Where the placeholder was to be shown, the file holds it, or is not there, or else a directory of the
staging name stood in the way. -/
theorem faithful_or_isDirectory (p : FilePlace) (t : Tree) :
    p.Faithful (p.surface.showPlaceholder t) none ∨
      p.surface.showPlaceholder t = (p.prepare t).1 ∧
        (p.surface.showPlaceholder t).isDirectory p.from_ p.staging = true := by
  rw [showPlaceholder_eq]
  rcases replaced : p.replace t placeholder with ⟨u, e | ⟨⟩⟩
  · by_cases there : p.content? u = none
    · refine .inl fun content here => ?_
      rw [there] at here
      cases here
    · exact .inr (replace_error replaced there)
  · refine .inl fun content here => ?_
    rw [replace_ok replaced] at here
    exact (Option.some.inj here).symm

/-- Whatever is shown, and whatever of it fails: the file then holds what is said to be shown, unless it
was blocked. -/
theorem faithful_present_iff (p : FilePlace) (t : Tree) (x : Option Document) :
    p.Faithful (p.surface.present t x).1 (p.surface.present t x).2 ↔ ¬ p.Blocked t := by
  constructor
  · intro faithful blocked
    rw [blocked.present] at faithful
    obtain ⟨content, there, other⟩ := blocked.older
    exact other (faithful content there)
  · intro clear
    have still : ∀ u, u = (p.prepare t).1 → u.isDirectory p.from_ p.staging = true →
        p.Faithful u none := by
      rintro u rfl directory content there
      by_contra other
      exact clear ⟨directory, content, there, other⟩
    cases x with
    | none =>
      rcases faithful_or_isDirectory p t with faithful | ⟨same, directory⟩
      · exact faithful
      · exact still _ same directory
    | some d =>
      rcases replaced : p.replace t d.html with ⟨u, e | ⟨⟩⟩
      · rw [Surface.present, render_of_error replaced]
        dsimp only
        rcases faithful_or_isDirectory p u with faithful | ⟨same, directory⟩
        · exact faithful
        rcases replace_failed replaced with ⟨rfl, -⟩ | ⟨a, seat, rfl⟩
        · rw [prepare_again] at same
          exact still _ same directory
        · -- a staging file that was left behind is written over
          have stays := (grows_prepare p _).resolve (seat.resolve_put (Utf8.encode d.html))
          obtain ⟨d', found⟩ := Tree.isDirectory_iff.mp directory
          rw [same, stays] at found
          cases found
      · rw [Surface.present, render_of_ok replaced]
        exact replace_ok replaced

/-! ## The whole run -/

/-- What happens: something to the renderer, or to the tree from outside, which is another one then. -/
inductive Turn where
  | event (e : Renderer.Event)
  | outside (t : Tree)

/-- The renderer, on the tree, after a turn. -/
def turn (p : FilePlace) (r : Renderer Tree) : Turn → Renderer Tree
  | .event e => r.step p.surface e
  | .outside t => { r with surface := t }

/-- The renderer, on the tree, after what happens. -/
def after (p : FilePlace) (r : Renderer Tree) (turns : List Turn) : Renderer Tree :=
  turns.foldl p.turn r

/-- Nothing is shown, and the file is left alone from outside. -/
def Quiet (p : FilePlace) : Renderer Tree → List Turn → Prop
  | _, [] => True
  | r, .event e :: rest => r.task? e = none ∧ p.Quiet (p.turn r (.event e)) rest
  | r, .outside t :: rest =>
    p.content? t = p.content? r.surface ∧ p.Quiet (p.turn r (.outside t)) rest

variable {r : Renderer Tree} {quiet : List Turn}

theorem faithful_congr {current : Option Document} (same : p.content? u = p.content? t) :
    p.Faithful u current ↔ p.Faithful t current := by
  cases current <;> rw [Faithful, Faithful, same]

theorem faithful_quiet (calm : p.Quiet r quiet) :
    p.Faithful (p.after r quiet).surface (p.after r quiet).current ↔
      p.Faithful r.surface r.current := by
  induction quiet generalizing r with
  | nil => rfl
  | cons first rest ih =>
    cases first with
    | event e =>
      obtain ⟨idle, later⟩ := calm
      have shown := Renderer.shown_step p.surface r e
      rw [idle] at shown
      obtain ⟨surface, current⟩ := Prod.mk.inj shown
      refine (ih later).trans ?_
      rw [turn, surface, current]
    | outside t =>
      obtain ⟨same, later⟩ := calm
      exact (ih later).trans (faithful_congr same)

/-- Whatever has happened before to the renderer and to the tree: after an event that has shown
something, and as long as then nothing is shown and the file is left alone, the file holds what the
renderer says is shown, unless it was blocked when that was to be shown. -/
theorem faithful_after_iff (p : FilePlace) (t : Tree) (before : List Turn) (e : Renderer.Event)
    (quiet : List Turn) (shows : ((p.after (.start t) before).task? e).isSome = true)
    (calm : p.Quiet (p.turn (p.after (.start t) before) (.event e)) quiet) :
    let r := p.after (.start t) (before ++ .event e :: quiet)
    p.Faithful r.surface r.current ↔ ¬ p.Blocked (p.after (.start t) before).surface := by
  intro r
  obtain ⟨x, task⟩ := Option.isSome_iff_exists.mp shows
  have eq : r = p.after (p.turn (p.after (.start t) before) (.event e)) quiet := by
    simp only [r, after, List.foldl_append, List.foldl_cons]
  have shown := Renderer.shown_step p.surface (p.after (.start t) before) e
  rw [task] at shown
  obtain ⟨surface, current⟩ := Prod.mk.inj shown
  rw [eq, faithful_quiet calm, turn, surface, current]
  exact faithful_present_iff p _ x

/-- A page that is shown once the directory of the staging name is gone again is in the file, also while
another one is only asked for. -/
theorem faithful_after_way_cleared :
    let p : FilePlace := ⟨[], "p.html"⟩
    let before : List Turn := [.event (.update "a" .html), .outside ⟨[(["p.html"], .file [0x61]),
      (["p.html.partial"], .directory)]⟩, .event (.update "b" .html),
      .outside ⟨[(["p.html"], .file [0x61])]⟩]
    let quiet : List Turn := [.event (.schedule "d" .html 10), .event (.advance 5)]
    let r := p.after (.start .empty) (before ++ .event (.update "c" .html) :: quiet)
    ((p.after (.start .empty) before).task? (.update "c" .html)).isSome = true ∧
      p.Quiet (p.turn (p.after (.start .empty) before) (.event (.update "c" .html))) quiet ∧
      p.Faithful r.surface r.current := by
  intro p before quiet r
  have shows : ((p.after (.start .empty) before).task? (.update "c" .html)).isSome = true := by
    decide +kernel
  have calm : p.Quiet (p.turn (p.after (.start .empty) before) (.event (.update "c" .html))) quiet :=
    ⟨by decide +kernel, by decide +kernel, trivial⟩
  have clear : ¬ p.Blocked (p.after (.start .empty) before).surface := by
    intro blocked
    exact absurd blocked.directory (by decide +kernel)
  exact ⟨shows, calm, (faithful_after_iff p .empty before _ quiet shows calm).mpr clear⟩

/-- A page is shown; a directory of the staging name is made, which leaves the file alone; the next page
cannot be shown then, and neither can the placeholder: the file goes on holding the first page. -/
theorem older_page_stays :
    let p : FilePlace := ⟨[], "p.html"⟩
    let first := p.after (.start .empty) [.event (.update "a" .html)]
    let tree := first.surface.put ["p.html.partial"] .directory
    let second := p.after first [.outside tree, .event (.update "b" .html)]
    p.content? tree = p.content? first.surface ∧
      first.current.map (·.html) = some "a" ∧ second.current = none ∧
      p.content? second.surface = some (Utf8.encode "a") ∧
      Utf8.encode "a" ≠ Utf8.encode placeholder ∧
      ¬ p.Faithful second.surface second.current := by
  intro p first tree second
  have none_ : second.current = none := by decide +kernel
  have stays : p.content? second.surface = some (Utf8.encode "a") := by decide +kernel
  have other : Utf8.encode "a" ≠ Utf8.encode placeholder := by decide +kernel
  refine ⟨by decide +kernel, by decide +kernel, none_, stays, other, ?_⟩
  rw [none_]
  exact fun faithful => other (faithful _ stays)

end FilePlace

end Snippet.Preview
